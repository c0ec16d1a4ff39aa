import OpenDisplay.Engine.Ledger

/-!
# Who gives the panel back

The panel is the engine's from a successful `begin_refresh` to a poll that is not
`PENDING`; that poll is answered by the backend from evidence of its own that a refresh
is in flight.  `abort` keeps the ownership and yet, through `abort_transfer`, takes the
evidence away: a refresh that is abandoned while it runs, by the abort action or by its
deadline, is never reported complete, and the panel stays ours.

What evidence is, and what each call does to it, is stated once for any backend
(`RefreshEvidence`), and the invariant that ties it to the ownership is proved from that
alone.  Each of the two mono panels then says what its polls answer.
-/

namespace OpenDisplay

open OpenDisplayBackend

/-- How a backend knows of a refresh: `inFlight b₀ b` says that in `b` there is evidence
of the refresh that left the backend as `b₀` when it began, and `spent b` that there is
none of any. -/
structure RefreshEvidence {β ω : Type} [OpenDisplayBackend β] [PanelWorld β ω]
    (inFlight : β → β → Prop) (spent : β → Prop) : Prop where
  begun : ∀ {b : β} r, (beginRefresh b r).1 = .ok →
    inFlight (beginRefresh b r).2 (beginRefresh b r).2
  polled : ∀ {b₀ b : β}, inFlight b₀ b → (pollRefresh b).1 = .pending →
    inFlight b₀ (pollRefresh b).2
  happened : ∀ {b₀ b : β} (w : ω), inFlight b₀ b → inFlight b₀ (PanelWorld.happen w b)
  aborted : ∀ b : β, spent (abortTransfer b)
  spent_polled : ∀ {b : β}, spent b → (pollRefresh b).1 = .pending → spent (pollRefresh b).2
  spent_happened : ∀ {b : β} (w : ω), spent b → spent (PanelWorld.happen w b)

namespace TransferEngine

section Ownership

variable {β ω : Type} [OpenDisplayBackend β] [PanelWorld β ω] {t : Transfer}
  {e e' : TransferEngine β}

/-- The step aborts a transfer that is refreshing: an abort, or a tick at which the
refresh deadline has passed and the panel is still pending. -/
def AbandonsRefresh (e : TransferEngine β) : EngineOp ω → Prop
  | .abort _ => e.txn.state = .refreshing
  | .tick now => (pollRefresh e.backend).1 = .pending ∧ e.RefreshExpired now
  | _ => False

instance (e : TransferEngine β) : ∀ op : EngineOp ω, Decidable (e.AbandonsRefresh op)
  | .abort _ => inferInstanceAs (Decidable (e.txn.state = .refreshing))
  | .tick now =>
      inferInstanceAs (Decidable ((pollRefresh e.backend).1 = .pending ∧
        e.txn.state = .refreshing ∧ deadlinePassed now e.txn.refreshDeadlineMs = true))
  | .directStart _ _ | .directData _ _ | .directEnd _ _ | .pipeStart _ _ | .pipeData _ _
  | .pipeEnd _ _ | .disconnect _ | .setConnectionGeneration _ | .takeTailSack | .world _ =>
      isFalse id

/-- The refresh for which the panel was taken last: whether it has been abandoned, and
the backend as the `begin_refresh` left it. -/
structure RefreshHistory (β : Type) where
  abandoned : Bool := false
  started : β

/-- The monitor of the refresh. -/
def watchRefresh (h : RefreshHistory β) (e : TransferEngine β) (op : EngineOp ω) :
    RefreshHistory β :=
  if e.hwOwned then { h with abandoned := h.abandoned || decide (e.AbandonsRefresh op) }
  else { started := (e.step op).backend }

/-! ### One step -/

omit [PanelWorld β ω] in
/-- The panel is taken by a successful `begin_refresh` and by nothing else. -/
lemma FinishOutcome.taken {endOpcode : UInt16} {now : UInt32} {res : EngineResult}
    (ho : FinishOutcome e endOpcode now res e') (hw : e.hwOwned = false)
    (hw' : e'.hwOwned = true) :
    e'.txn.state = .refreshing ∧
      ∃ b, (beginRefresh b {}).1 = .ok ∧ e'.backend = (beginRefresh b {}).2 := by
  cases ho with
  | incomplete | finishFailed | refreshFailed =>
      rw [abort_hwOwned] at hw'
      exact absurd (hw.symm.trans hw') (by decide)
  | refreshing _ _ hanswer => exact ⟨rfl, _, hanswer, rfl⟩

omit [PanelWorld β ω] in
lemma BeginOutcome.not_taken {mode : TransferMode} {total now : UInt32} {why : Option ErrorCode}
    (ho : BeginOutcome e mode total now why e') (hw : e.hwOwned = false) :
    e'.hwOwned = false := by
  cases ho with
  | busy => exact hw
  | sizeMismatch | beginFailed | opened => simpa using hw

/-- What a step that takes the panel has done. -/
lemma step_taken (hw : e.hwOwned = false) {op : EngineOp ω} (hw' : (e.step op).hwOwned = true) :
    (e.step op).txn.state = .refreshing ∧
      ∃ b, (beginRefresh b {}).1 = .ok ∧ (e.step op).backend = (beginRefresh b {}).2 := by
  have hnot : ∀ {P : Prop} {b : Bool}, b = false → b = true → P := by
    rintro P b rfl h; cases h
  cases op with
  | directStart p now =>
      have ho := onDirectStart_outcome e p now
      simp only [step, perform] at hw' ⊢
      generalize (e.onDirectStart p now).1 = res, (e.onDirectStart p now).2 = e₁ at ho hw' ⊢
      cases ho with
      | compressed => exact hnot hw hw'
      | refused _ _ _ hbegin | started _ _ hbegin => exact hnot (hbegin.not_taken hw) hw'
  | directData p now =>
      have ho := onDirectData_outcome e p now
      simp only [step, perform] at hw' ⊢
      generalize (e.onDirectData p now).1 = res, (e.onDirectData p now).2 = e₁ at ho hw' ⊢
      cases ho with
      | misplaced | accepted => exact hnot hw hw'
      | malformed | oversize | writeFailed =>
          rw [abort_hwOwned] at hw'
          exact hnot hw hw'
  | directEnd p now =>
      have ho := onDirectEnd_outcome e p now
      simp only [step, perform] at hw' ⊢
      generalize (e.onDirectEnd p now).1 = res, (e.onDirectEnd p now).2 = e₁ at ho hw' ⊢
      cases ho with
      | misplaced => exact hnot hw hw'
      | finished _ _ _ _ hfinish => exact hfinish.taken hw hw'
  | pipeStart p now =>
      have ho := onPipeStart_outcome e p now
      simp only [step, perform] at hw' ⊢
      generalize (e.onPipeStart p now).1 = res, (e.onPipeStart p now).2 = e₁ at ho hw' ⊢
      cases ho with
      | badHeader | compressed => exact hnot hw hw'
      | refused _ _ _ _ _ hbegin => exact hnot (hbegin.not_taken hw) hw'
      | started _ _ _ _ hbegin => exact hnot (hbegin.not_taken hw) hw'
  | pipeData p now =>
      have ho := onPipeData_outcome e p now
      simp only [step, perform] at hw' ⊢
      generalize (e.onPipeData p now).1 = res, (e.onPipeData p now).2 = e₁ at ho hw' ⊢
      cases ho with
      | latched | misplaced | outOfOrder => exact hnot hw hw'
      | malformed | oversize | writeFailed =>
          rw [abort_hwOwned] at hw'
          exact hnot hw hw'
      | accepted _ _ _ _ _ _ _ _ hchunk =>
          cases hchunk with
          | completed _ _ _ hfinish => exact hfinish.taken hw hw'
          | sacked | silent => exact hnot hw hw'
  | pipeEnd p now =>
      have ho := onPipeEnd_outcome e p now
      simp only [step, perform] at hw' ⊢
      generalize (e.onPipeEnd p now).1 = res, (e.onPipeEnd p now).2 = e₁ at ho hw' ⊢
      cases ho with
      | misplaced => exact hnot hw hw'
      | flushed _ _ _ _ hfinish | finished _ _ _ _ hfinish => exact hfinish.taken hw hw'
  | tick now =>
      have ho := tick_outcome e now
      simp only [step, perform] at hw' ⊢
      generalize (e.tick now).1 = res, (e.tick now).2 = e₁ at ho hw' ⊢
      have hpolled : ∀ {e₁}, Polled e e₁ → e₁.hwOwned = false := by
        intro e₁ hp
        cases hp <;> exact hw
      cases ho with
      | complete hw₁ | failed hw₁ | released hw₁ => exact hnot hw hw₁
      | waiting _ hp => exact hnot (hpolled hp) hw'
      | transferTimeout _ hp | refreshTimeout _ hp =>
          rw [abort_hwOwned] at hw'
          exact hnot (hpolled hp) hw'
  | abort error => exact hnot (by simpa [step, perform] using hw) hw'
  | disconnect gen =>
      have ho := onDisconnect_outcome e gen
      simp only [step, perform] at hw' ⊢
      generalize e.onDisconnect gen = e₁ at ho hw' ⊢
      cases ho with
      | ignored => exact hnot hw hw'
      | aborted => exact hnot (by simpa using hw) hw'
  | setConnectionGeneration | world => exact hnot hw hw'
  | takeTailSack =>
      refine hnot ?_ hw'
      simp only [step, perform, takeTailSack]
      split_ifs <;> exact hw

/-- What a step can do while the panel is ours and no transfer receives: leave backend
and state alone, let the panel go its way, poll it, give it up, or abandon the refresh. -/
inductive OwnedStep (e : TransferEngine β) (op : EngineOp ω) (e' : TransferEngine β) : Prop
  | kept (hop : ¬ e.AbandonsRefresh op) (hw' : e'.hwOwned = true)
      (hstate : e'.txn.state = e.txn.state) (hbackend : e'.backend = e.backend)
  | happened (event : ω) (hop : ¬ e.AbandonsRefresh op) (hw' : e'.hwOwned = true)
      (hstate : e'.txn.state = e.txn.state)
      (hbackend : e'.backend = PanelWorld.happen event e.backend)
  | polled (hpoll : (pollRefresh e.backend).1 = .pending) (hop : ¬ e.AbandonsRefresh op)
      (hw' : e'.hwOwned = true) (hstate : e'.txn.state = e.txn.state)
      (hbackend : e'.backend = (pollRefresh e.backend).2)
  | released (hpoll : (pollRefresh e.backend).1 ≠ .pending) (hw' : e'.hwOwned = false)
  | abandoned (hop : e.AbandonsRefresh op) (hw' : e'.hwOwned = true)
      (hstate : e'.txn.state = .idle) (b : β) (hbackend : e'.backend = abortTransfer b)

/-- A tick releases the panel exactly when the poll says that it is done or has failed. -/
lemma tick_ownedStep (hw : e.hwOwned = true)
    (hstate : e.txn.state = .idle ∨ e.txn.state = .refreshing) (now : UInt32) :
    OwnedStep e (.tick now : EngineOp ω) (e.tick now).2 := by
  have ho := tick_outcome e now
  generalize (e.tick now).1 = res, (e.tick now).2 = e₁ at ho ⊢
  have hpolled : ∀ {e₁}, Polled e e₁ → (pollRefresh e.backend).1 = .pending ∧
      e₁ = { e with backend := (pollRefresh e.backend).2 } := by
    intro e₁ hp
    cases hp with
    | free hw₁ => rw [hw] at hw₁; cases hw₁
    | pending _ hpoll => exact ⟨hpoll, rfl⟩
  cases ho with
  | complete _ hpoll | failed _ hpoll => exact .released (by rw [hpoll]; decide) rfl
  | released _ hpoll => exact .released hpoll rfl
  | waiting e₁ hp _ hrefresh =>
      obtain ⟨hpoll, rfl⟩ := hpolled hp
      exact .polled hpoll (fun hop => hrefresh hop.2) hw rfl rfl
  | transferTimeout e₁ hp htransfer =>
      obtain ⟨-, rfl⟩ := hpolled hp
      have hne := htransfer.1
      rcases hstate with h | h <;> simp [h] at hne
  | refreshTimeout e₁ hp hrefresh =>
      obtain ⟨hpoll, rfl⟩ := hpolled hp
      refine .abandoned ⟨hpoll, hrefresh⟩ (by simpa using hw) (by simp)
        (pollRefresh e.backend).2 ?_
      rw [abort_backend_of_active]
      exact fun hidle => nomatch hrefresh.1.symm.trans hidle

lemma BeginOutcome.of_owned {mode : TransferMode} {total now : UInt32}
    {why : Option ErrorCode} (ho : BeginOutcome e mode total now why e')
    (hw : e.hwOwned = true) : why = some .busy ∧ e' = e := by
  have hnot : ∀ {P : Prop}, e.hwOwned = false → P := fun h => nomatch hw.symm.trans h
  cases ho with
  | busy => exact ⟨rfl, rfl⟩
  | sizeMismatch hw₁ | beginFailed hw₁ | opened hw₁ => exact hnot hw₁

/-- Every step is one of these while the panel is ours. -/
lemma step_ownedStep (hw : e.hwOwned = true)
    (hstate : e.txn.state = .idle ∨ e.txn.state = .refreshing) (op : EngineOp ω) :
    OwnedStep e op (e.step op) := by
  have hreceiving : ¬ e.txn.state = .receiving := by
    rcases hstate with h | h <;> simp [h]
  have hnot : ∀ {P : Prop}, e.txn.state = .receiving → P := fun h => absurd h hreceiving
  cases op with
  | directStart p now =>
      have ho := onDirectStart_outcome e p now
      simp only [step, perform]
      generalize (e.onDirectStart p now).1 = res, (e.onDirectStart p now).2 = e₁ at ho ⊢
      cases ho with
      | compressed => exact .kept id hw rfl rfl
      | refused _ why e₁ hbegin =>
          obtain ⟨-, rfl⟩ := hbegin.of_owned hw
          exact .kept id hw rfl rfl
      | started _ e₁ hbegin => cases (hbegin.of_owned hw).1
  | directData p now =>
      have ho := onDirectData_outcome e p now
      simp only [step, perform]
      generalize (e.onDirectData p now).1 = res, (e.onDirectData p now).2 = e₁ at ho ⊢
      cases ho with
      | misplaced => exact .kept id hw rfl rfl
      | malformed h | oversize h | writeFailed h | accepted h => exact hnot h
  | directEnd p now =>
      have ho := onDirectEnd_outcome e p now
      simp only [step, perform]
      generalize (e.onDirectEnd p now).1 = res, (e.onDirectEnd p now).2 = e₁ at ho ⊢
      cases ho with
      | misplaced => exact .kept id hw rfl rfl
      | finished h => exact hnot h
  | pipeStart p now =>
      have ho := onPipeStart_outcome e p now
      simp only [step, perform]
      generalize (e.onPipeStart p now).1 = res, (e.onPipeStart p now).2 = e₁ at ho ⊢
      cases ho with
      | badHeader | compressed => exact .kept id hw rfl rfl
      | refused _ _ _ why e₁ hbegin =>
          obtain ⟨-, rfl⟩ := hbegin.of_owned hw
          exact .kept id hw rfl rfl
      | started _ _ _ e₁ hbegin => cases (hbegin.of_owned hw).1
  | pipeData p now =>
      have ho := onPipeData_outcome e p now
      simp only [step, perform]
      generalize (e.onPipeData p now).1 = res, (e.onPipeData p now).2 = e₁ at ho ⊢
      cases ho with
      | latched | misplaced => exact .kept id hw rfl rfl
      | malformed _ h | outOfOrder _ h | oversize _ h | writeFailed _ h | accepted _ h =>
          exact hnot h.1
  | pipeEnd p now =>
      have ho := onPipeEnd_outcome e p now
      simp only [step, perform]
      generalize (e.onPipeEnd p now).1 = res, (e.onPipeEnd p now).2 = e₁ at ho ⊢
      cases ho with
      | misplaced => exact .kept id hw rfl rfl
      | flushed h | finished h => exact hnot h.1
  | tick now => exact tick_ownedStep hw hstate now
  | abort error =>
      rcases hstate with h | h
      · have hop : ¬ e.AbandonsRefresh (.abort error : EngineOp ω) := by
          intro hop
          cases h.symm.trans hop
        exact .kept hop (by simpa [step, perform] using hw) (by simp [step, perform, h])
          (abort_backend_of_idle _ _ h)
      · have hactive : e.txn.state ≠ .idle := by
          rw [h]
          decide
        exact .abandoned h (by simpa [step, perform] using hw) (by simp [step, perform]) e.backend
          (abort_backend_of_active _ _ hactive)
  | disconnect gen =>
      have ho := onDisconnect_outcome e gen
      simp only [step, perform]
      generalize e.onDisconnect gen = e₁ at ho ⊢
      cases ho with
      | ignored => exact .kept id hw rfl rfl
      | aborted hactive _ hrefreshing =>
          rcases hstate with h | h
          · exact absurd h hactive
          · exact absurd h hrefreshing
  | setConnectionGeneration => exact .kept id hw rfl rfl
  | takeTailSack =>
      simp only [step, perform, takeTailSack]
      split_ifs
      · exact .kept id hw rfl rfl
      · exact .kept id hw rfl rfl
  | world event => exact .happened event id hw rfl rfl

/-! ### The invariant -/

/-- Where the evidence stands while the panel is ours: with a transfer that refreshes,
or, once that has been abandoned, nowhere. -/
inductive PanelOwned (inFlight : β → β → Prop) (spent : β → Prop) (h : RefreshHistory β)
    (e : TransferEngine β) : Prop
  | refreshing (hlive : h.abandoned = false) (hstate : e.txn.state = .refreshing)
      (hflight : inFlight h.started e.backend)
  | abandoned (hlost : h.abandoned = true) (hstate : e.txn.state = .idle)
      (hspent : spent e.backend)

variable {inFlight : β → β → Prop} {spent : β → Prop}

/-- **Ownership and evidence.**  Every step keeps them together. -/
theorem PanelOwned.step (hE : RefreshEvidence inFlight spent)
    (s : RefreshHistory β × TransferEngine β)
    (h : s.2.hwOwned = true → PanelOwned inFlight spent s.1 s.2) (op : EngineOp ω)
    (hw' : (s.2.step op).hwOwned = true) :
    PanelOwned inFlight spent (watchRefresh s.1 s.2 op) (s.2.step op) := by
  obtain ⟨hist, e⟩ := s
  dsimp only at h hw' ⊢
  rcases hw : e.hwOwned with _ | _
  · -- the step takes the panel
    obtain ⟨hstate, b, hanswer, hbackend⟩ := step_taken hw hw'
    rw [watchRefresh, if_neg (by simp [hw])]
    refine .refreshing rfl hstate ?_
    rw [hbackend]
    exact hE.begun _ hanswer
  · rw [watchRefresh, if_pos hw]
    have hidle := h hw
    have hstate : e.txn.state = .idle ∨ e.txn.state = .refreshing := by
      cases hidle with
      | refreshing _ hs => exact Or.inr hs
      | abandoned _ hs => exact Or.inl hs
    have hstep := step_ownedStep hw hstate op
    generalize TransferEngine.step e op = e' at hstep hw' ⊢
    cases hstep with
    | released _ hw₁ => exact nomatch hw₁.symm.trans hw'
    | abandoned hop _ hstate' b hbackend =>
        refine .abandoned (by simp [hop]) hstate' ?_
        rw [hbackend]
        exact hE.aborted b
    | kept hop _ hstate' hbackend =>
        cases hidle with
        | refreshing hlive hs hflight =>
            exact .refreshing (by simp [hop, hlive]) (hstate'.trans hs) (by rwa [hbackend])
        | abandoned hlost hs hspent =>
            exact .abandoned (by simp [hlost]) (hstate'.trans hs) (by rwa [hbackend])
    | happened event hop _ hstate' hbackend =>
        cases hidle with
        | refreshing hlive hs hflight =>
            refine .refreshing (by simp [hop, hlive]) (hstate'.trans hs) ?_
            rw [hbackend]
            exact hE.happened event hflight
        | abandoned hlost hs hspent =>
            refine .abandoned (by simp [hlost]) (hstate'.trans hs) ?_
            rw [hbackend]
            exact hE.spent_happened event hspent
    | polled hpoll hop _ hstate' hbackend =>
        cases hidle with
        | refreshing hlive hs hflight =>
            refine .refreshing (by simp [hop, hlive]) (hstate'.trans hs) ?_
            rw [hbackend]
            exact hE.polled hflight hpoll
        | abandoned hlost hs hspent =>
            refine .abandoned (by simp [hlost]) (hstate'.trans hs) ?_
            rw [hbackend]
            exact hE.spent_polled hspent hpoll

/-- The engine that carries the history of its refresh. -/
abbrev refreshTracked : RefreshHistory β × TransferEngine β → EngineOp ω →
    RefreshHistory β × TransferEngine β :=
  Machine.monitored TransferEngine.step watchRefresh

/-- Ownership and evidence go together in every run. -/
theorem panelOwned_exec (hE : RefreshEvidence inFlight spent) (b : β)
    (transferMs refreshMs : UInt32) (ops : List (EngineOp ω)) :
    let s := Machine.exec refreshTracked
      (({ started := b } : RefreshHistory β), init b transferMs refreshMs) ops
    s.2.hwOwned = true → PanelOwned inFlight spent s.1 s.2 := by
  have hstep : ∀ (s : RefreshHistory β × TransferEngine β) (op : EngineOp ω),
      (s.2.hwOwned = true → PanelOwned inFlight spent s.1 s.2) →
        ((refreshTracked s op).2.hwOwned = true →
          PanelOwned inFlight spent (refreshTracked s op).1 (refreshTracked s op).2) :=
    fun s op h hw' => PanelOwned.step hE s h op hw'
  refine Machine.exec_invariant hstep ?_ ops
  intro hw
  cases hw

/-- The tick at `nowMs` gives the panel back: it is ours no longer, and no START is
refused as busy. -/
def GivesBack (e : TransferEngine β) (nowMs : UInt32) : Prop :=
  (e.tick nowMs).2.hwOwned = false ∧
    ∀ mode total later, ((e.tick nowMs).2.beginTransaction mode total later).1 ≠ some .busy

omit [PanelWorld β ω] in
/-- A tick gives the panel back exactly when its poll is not pending. -/
lemma givesBack_iff (hw : e.hwOwned = true) (now : UInt32) :
    e.GivesBack now ↔ (pollRefresh e.backend).1 ≠ .pending := by
  have hfree : (e.tick now).2.hwOwned = false ↔ (pollRefresh e.backend).1 ≠ .pending := by
    have ho := tick_outcome e now
    generalize (e.tick now).1 = res, (e.tick now).2 = e₁ at ho ⊢
    have hpolled : ∀ {e₁}, Polled e e₁ →
        e₁.hwOwned = true ∧ (pollRefresh e.backend).1 = .pending := by
      intro e₁ hp
      cases hp with
      | free hw₁ => exact nomatch hw.symm.trans hw₁
      | pending _ hpoll => exact ⟨hw, hpoll⟩
    cases ho with
    | complete _ hpoll | failed _ hpoll => simp [hpoll]
    | released _ hpoll => exact iff_of_true rfl hpoll
    | waiting _ hp | transferTimeout _ hp | refreshTimeout _ hp => simp [hpolled hp]
  refine ⟨fun h => hfree.mp h.1, fun h => ⟨hfree.mpr h, fun mode total later hbusy => ?_⟩⟩
  have ho := beginTransaction_outcome (e.tick now).2 mode total later
  rw [hbusy] at ho
  generalize ((e.tick now).2.beginTransaction mode total later).2 = e₂ at ho
  cases ho with
  | busy hw' => exact nomatch hw'.symm.trans (hfree.mpr h)

end Ownership

end TransferEngine

end OpenDisplay
