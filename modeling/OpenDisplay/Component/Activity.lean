import OpenDisplay.Component.Outcome
import OpenDisplay.Backend.Scripted

/-!
# What the activity sensor shows

An error is not a state of the engine: it is kept pending until the sensor is next published
with the engine `IDLE`, and shown then.  But any error sets the flag, not only one that ends
a transfer, and nothing but such a publication clears it.  The history of a run therefore
keeps the errors apart that are pending for another reason than that the last transfer failed
and has not been shown yet.  The sensor is right exactly while there are none of them, and
while it shows the end of a failed transfer for the first time.
-/

namespace OpenDisplay

/-! ### Reading effects -/

/-- An error was passed to the automations: some result had one of the two error flags. -/
def raisesError (fx : List Effect) : Bool :=
  fx.any fun
    | .error _ => true
    | _ => false

/-- The texts that the activity sensor was given. -/
def activityTexts (fx : List Effect) : List String :=
  fx.filterMap fun
    | .activity text => some text
    | _ => none

@[simp] lemma raisesError_append (fx gx : List Effect) :
    raisesError (fx ++ gx) = (raisesError fx || raisesError gx) := List.any_append

@[simp] lemma activityTexts_append (fx gx : List Effect) :
    activityTexts (fx ++ gx) = activityTexts fx ++ activityTexts gx := List.filterMap_append

namespace OpenDisplayComponent

/-! ### The pending error -/

section Pending

variable {β ω : Type} {c : OpenDisplayComponent β} {done : Done β}

/-- A part of the component that publishes nothing, and leaves an error pending exactly if one
was pending or is raised. -/
structure KeepsErrors (c : OpenDisplayComponent β) (done : Done β) : Prop where
  pending_eq : done.2.errorPending = (c.errorPending || raisesError done.1)
  texts_eq : activityTexts done.1 = []

namespace KeepsErrors

lemma of_pending_eq {c' : OpenDisplayComponent β} {fx : List Effect}
    (h : c'.errorPending = c.errorPending) (hraises : raisesError fx = false)
    (htexts : activityTexts fx = []) : KeepsErrors c (fx, c') where
  pending_eq := by rw [h, hraises, Bool.or_false]
  texts_eq := htexts

lemma andThen (h : KeepsErrors c done) {f : OpenDisplayComponent β → Done β}
    (hf : KeepsErrors done.2 (f done.2)) :
    KeepsErrors c (OpenDisplayComponent.andThen done f) where
  pending_eq := by
    rw [OpenDisplayComponent.andThen, raisesError_append, hf.pending_eq, h.pending_eq,
      Bool.or_assoc]
  texts_eq := by
    rw [OpenDisplayComponent.andThen, activityTexts_append, h.texts_eq, hf.texts_eq]
    rfl

lemma ite (p : Prop) [Decidable p] (h : KeepsErrors c done) :
    KeepsErrors c (if p then done else ([], c)) := by
  split_ifs
  · exact h
  · exact .of_pending_eq rfl rfl rfl

/-- The flag is all that is read of the component before. -/
lemma congr {c' : OpenDisplayComponent β} (h : KeepsErrors c' done)
    (hpending : c'.errorPending = c.errorPending) : KeepsErrors c done :=
  ⟨hpending ▸ h.pending_eq, h.texts_eq⟩

end KeepsErrors

lemma raisesError_send (c : OpenDisplayComponent β) (r : Response) (terminal : Bool) :
    raisesError (c.send r terminal).1 = false := by
  rw [send]
  split_ifs <;> rfl

lemma keepsErrors_send (c : OpenDisplayComponent β) (r : Response) (terminal : Bool) :
    KeepsErrors c (c.send r terminal) := by
  refine .of_pending_eq rfl (raisesError_send c r terminal) ?_
  split_ifs <;> rfl

lemma keepsErrors_raiseError (c : OpenDisplayComponent β) : KeepsErrors c c.raiseError where
  pending_eq := (Bool.or_true _).symm
  texts_eq := rfl

lemma keepsErrors_applyResult (c : OpenDisplayComponent β) (res : EngineResult) :
    KeepsErrors c (c.applyResult res) := by
  rw [applyResult]
  refine (((((KeepsErrors.andThen ?_ (.ite _ (keepsErrors_send _ _ _))).andThen ?_).andThen
    (.ite _ ((keepsErrors_send _ _ _).andThen (.of_pending_eq rfl rfl rfl)))).andThen
    (.ite _ ((keepsErrors_send _ _ _).andThen (keepsErrors_raiseError _)))).andThen
    (.ite _ (keepsErrors_raiseError _)))
  · rcases c.engine.takeTailSack.1 with _ | tail
    · exact .of_pending_eq rfl rfl rfl
    · exact (keepsErrors_send _ tail true).congr rfl
  · rcases res.transferStarted with _ | _ <;> exact .of_pending_eq rfl rfl rfl

lemma keepsErrors_sendConfig (c : OpenDisplayComponent β) : KeepsErrors c c.sendConfig := by
  rw [sendConfig]
  dsimp only
  split_ifs
  · exact keepsErrors_send _ _ _
  · refine .of_pending_eq rfl (List.any_eq_false.mpr fun fx hfx => ?_)
      (List.filterMap_eq_nil_iff.mpr fun fx hfx => ?_)
    · obtain ⟨_, _, rfl⟩ := mem_sendChunks hfx
      exact Bool.false_ne_true
    · obtain ⟨_, _, rfl⟩ := mem_sendChunks hfx
      rfl

end Pending

variable {β ω : Type} [OpenDisplayBackend β] [PanelWorld β ω]

lemma PacketOutcome.keepsErrors {c : OpenDisplayComponent β} {pkt : RxPacket} {nowMs : UInt32}
    {done : Done β} (ho : PacketOutcome (ω := ω) c pkt nowMs done) : KeepsErrors c done := by
  cases ho with
  | runt => exact .of_pending_eq rfl rfl rfl
  | config => exact keepsErrors_sendConfig c
  | version | unsupported => exact keepsErrors_send _ _ _
  | msd => exact (keepsErrors_send _ _ _).andThen (.of_pending_eq rfl rfl rfl)
  | answered => exact (keepsErrors_applyResult _ _).congr rfl

/-- What a step does to the sensor: it publishes nothing, or it is the last part of the loop
and publishes the state that it finds. -/
inductive ActivityStep (c : OpenDisplayComponent β) (done : Done β) : Prop
  | kept (hkeeps : KeepsErrors c done)
  | published (hengine : done.2.engine = c.engine) (hraises : raisesError done.1 = false)
      (htexts : activityTexts done.1 = [if c.engine.txn.state = .idle ∧ c.errorPending then "error"
        else stateToString c.engine.txn.state])
      (hpending : done.2.errorPending = if c.engine.txn.state = .idle then false
        else c.errorPending)

lemma perform_activityStep (c : OpenDisplayComponent β) (op : ComponentOp ω) :
    ActivityStep c (c.perform op) := by
  cases op with
  | bleConnect | bleDisconnect | bleWrite | abort | world =>
      exact .kept (.of_pending_eq rfl rfl rfl)
  | loop now temperature =>
      have ho := loop_outcome c now temperature
      change ActivityStep c (c.loop now temperature)
      generalize c.loop now temperature = done at ho ⊢
      cases ho with
      | started | idled | received | stale | draining | notified | drained | unchanged =>
          exact .kept (.of_pending_eq rfl rfl rfl)
      | packet _ _ _ pkt =>
          exact .kept ((handlePacket_outcome (ω := ω) _ pkt now).keepsErrors.congr rfl)
      | ticked => exact .kept ((keepsErrors_applyResult _ _).congr rfl)
      | updated =>
          rw [updateMsd_rest]
          exact .kept (.of_pending_eq rfl rfl rfl)
      | published =>
          rw [publishState]
          dsimp only
          split_ifs with herror
          · exact .published rfl rfl (by simp [activityTexts, herror]) (by simp [herror.1])
          · refine .published rfl rfl (by simp [activityTexts, herror]) ?_
            split_ifs with hidle
            · simpa [hidle] using herror
            · rfl

/-! ### The history of the errors -/

/-- What is remembered of a run for the activity sensor. -/
structure ActivityHistory where
  /-- A transfer has ended. -/
  ended : Bool := false
  /-- The transfer that ended last did so by a terminal error or a refresh timeout. -/
  failed : Bool := false
  /-- The sensor has not been published with the engine `IDLE` since. -/
  fresh : Bool := false
  /-- Since the sensor was last published with the engine `IDLE` an error was raised that did
  not end the transfer that ended last. -/
  stray : Bool := false

/-- The step ends the transfer under way. -/
def EndsTransfer (c : OpenDisplayComponent β) (op : ComponentOp ω) : Prop :=
  c.engine.txn.state ≠ .idle ∧ (c.step op).engine.txn.state = .idle

instance (c : OpenDisplayComponent β) (op : ComponentOp ω) : Decidable (c.EndsTransfer op) :=
  inferInstanceAs (Decidable (_ ∧ _))

/-- The step publishes the sensor with the engine `IDLE`. -/
def PublishesIdle (c : OpenDisplayComponent β) (op : ComponentOp ω) : Prop :=
  activityTexts (c.perform op).1 ≠ [] ∧ c.engine.txn.state = .idle

instance (c : OpenDisplayComponent β) (op : ComponentOp ω) : Decidable (c.PublishesIdle op) :=
  inferInstanceAs (Decidable (_ ∧ _))

/-- The monitor of the errors.  A failed transfer that is followed by another one before it was
shown has left an error behind. -/
def watchActivity (h : ActivityHistory) (c : OpenDisplayComponent β) (op : ComponentOp ω) :
    ActivityHistory :=
  if c.PublishesIdle op then { h with fresh := false, stray := false }
  else if c.EndsTransfer op then
    { ended := true
      failed := raisesError (c.perform op).1
      fresh := true
      stray := h.stray || (h.fresh && h.failed) }
  else { h with stray := h.stray || raisesError (c.perform op).1 }

/-- The component that carries the history of its errors. -/
abbrev activityTracked : ActivityHistory × OpenDisplayComponent β → ComponentOp ω →
    ActivityHistory × OpenDisplayComponent β := Machine.monitored step watchActivity

/-- If the step publishes the sensor after a transfer has brought the engine back to `IDLE`, it
publishes an error exactly if this transfer ended by one. -/
def ActivityRight (s : ActivityHistory × OpenDisplayComponent β) (op : ComponentOp ω) : Prop :=
  s.2.PublishesIdle op → s.1.ended = true →
    (activityTexts (s.2.perform op).1 = ["error"] ↔ s.1.failed = true)

/-- If the step publishes the sensor after a transfer has brought the engine back to `IDLE`:
there is no stray error to show, or, if the transfer failed, there is one or its end is yet to
be shown. -/
def ActivityClear (s : ActivityHistory × OpenDisplayComponent β) (op : ComponentOp ω) : Prop :=
  s.2.PublishesIdle op → s.1.ended = true →
    if s.1.failed = true then s.1.fresh = true ∨ s.1.stray = true else s.1.stray = false

instance (s : ActivityHistory × OpenDisplayComponent β) (op : ComponentOp ω) :
    Decidable (ActivityRight s op) :=
  inferInstanceAs (Decidable (_ → _ = true → (_ ↔ _ = true)))

/-- An error is pending exactly if the last transfer failed and has not been shown, or a stray
error was raised. -/
def ErrorsTracked (s : ActivityHistory × OpenDisplayComponent β) : Prop :=
  s.2.errorPending = (s.1.stray || (s.1.fresh && s.1.failed))

lemma ErrorsTracked.step {s : ActivityHistory × OpenDisplayComponent β} (h : ErrorsTracked s)
    (op : ComponentOp ω) : ErrorsTracked (activityTracked s op) := by
  change (s.2.perform op).2.errorPending = ((watchActivity s.1 s.2 op).stray ||
    ((watchActivity s.1 s.2 op).fresh && (watchActivity s.1 s.2 op).failed))
  rw [ErrorsTracked] at h
  cases perform_activityStep s.2 op with
  | kept hkeeps =>
      have hquiet : ¬ s.2.PublishesIdle op := fun hp => hp.1 hkeeps.texts_eq
      rw [watchActivity, if_neg hquiet, hkeeps.pending_eq, h]
      split_ifs
      · simp
      · dsimp only
        rw [Bool.or_right_comm]
  | published hengine hraises htexts hpending =>
      have hends : ¬ s.2.EndsTransfer op := fun he =>
        he.1 ((congrArg (fun e : TransferEngine β => e.txn.state) hengine).symm.trans he.2)
      rw [watchActivity, hpending]
      by_cases hidle : s.2.engine.txn.state = .idle
      · rw [if_pos hidle, if_pos ⟨by rw [htexts]; exact List.cons_ne_nil _ _, hidle⟩]
        rfl
      · rw [if_neg hidle, if_neg (fun hp => hidle hp.2), if_neg hends, hraises, h]
        simp

/-- **When the activity sensor is right.**  In every run the sensor shows an error exactly for
the transfers that ended by one, if and only if whenever it is published after a transfer has
brought the engine back to `IDLE` no stray error is pending, and a failed transfer is shown
once. -/
theorem activityRight_iff (b : β) (settings : ComponentSettings) (temperature : Int)
    (ops : List (ComponentOp ω)) :
    Machine.AllSteps activityTracked ActivityRight
        (({} : ActivityHistory), (setup b settings temperature).2) ops ↔
      Machine.AllSteps activityTracked ActivityClear
        (({} : ActivityHistory), (setup b settings temperature).2) ops := by
  have hsetup : ErrorsTracked (({} : ActivityHistory), (setup b settings temperature).2) := by
    rw [ErrorsTracked, setup, publishState]
    dsimp only
    rw [updateMsd_rest]
    split_ifs <;> rfl
  refine Machine.allSteps_congr (I := ErrorsTracked) (fun _ op h _ => h.step op)
    (fun s op h => ?_) hsetup ops
  rw [ErrorsTracked] at h
  rw [ActivityRight, ActivityClear]
  refine imp_congr_right fun hpublishes => imp_congr_right fun _ => ?_
  obtain ⟨hsome, hidle⟩ := hpublishes
  cases perform_activityStep s.2 op with
  | kept hkeeps => exact absurd hkeeps.texts_eq hsome
  | published _ _ htexts _ =>
      -- the text is "error" exactly if an error is pending
      have htext : activityTexts (s.2.perform op).1 = ["error"] ↔ s.2.errorPending = true := by
        rw [htexts, hidle]
        rcases s.2.errorPending with _ | _ <;> decide
      rw [htext, h]
      rcases s.1.failed with _ | _ <;> simp [or_comm]

/-- A client sends a compressed START, which is refused, and then a whole transfer.  The second
iteration of the loop finds the refresh complete. -/
def refusedThenSent : List (ComponentOp Unit) :=
  [.bleConnect, .bleWrite [0x00, 0x70, 0x01] 0] ++ directTransfer.tail ++ loopParts 22 1

/-- The refresh is complete, and the sensor shows the error of the refused START. -/
theorem activity_wrong_refusedThenSent :
    let s := Machine.exec activityTracked
      (({} : ActivityHistory),
        (setup (ScriptedPanel.accepting 3 [.pending, .complete]) defaultSettings 80).2)
      refusedThenSent
    s.1.ended = true ∧ s.1.failed = false ∧ s.2.engine.stats.transfersOk = 1 ∧
      s.2.engine.txn.state = .idle ∧
      activityTexts (s.2.perform (.loop 1 80 : ComponentOp Unit)).1 = ["error"] ∧
      ¬ ActivityRight s (.loop 1 80 : ComponentOp Unit) := by
  decide +kernel

end OpenDisplayComponent

end OpenDisplay
