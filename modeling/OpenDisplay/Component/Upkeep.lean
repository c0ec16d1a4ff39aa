import OpenDisplay.Component.Stages

/-!
# A panel that is looked after

Whatever packets come, the engine leaves a panel that takes every call in one of two ways: it
is free and takes a new frame, or the engine waits for a refresh of it and polls it.  Only a
refresh that is abandoned leaves this pair (`Tended.step`).  Without packets a free panel stays
free (`free_step`), and a refresh that is waited for goes on until it is over (`waited_step`,
`worked_step`, `tick_step`).
-/

namespace OpenDisplay

open OpenDisplayBackend

/-- A panel that does as it is told, and that is ready for a new frame again whatever
calls have been made on it, except for a refresh it has begun. -/
structure Enduring {β ω : Type} [OpenDisplayBackend β] [PanelWorld β ω] (full : UInt32)
    (effort : ℕ) (benign works : ω → Prop) (inPhase : PanelPhase → β → Prop)
    (busy : ℕ → β → Prop) : Prop extends Compliant full effort benign works inPhase busy where
  begun_again : ∀ {b : β} (frame : FrameDescriptor), inPhase .ready b →
    inPhase .ready (beginFrame b frame).2
  written_again : ∀ {b : β} (offset : UInt32) (data : List UInt8), inPhase .ready b →
    inPhase .ready (writeContiguous b offset data).2
  finished_again : ∀ {b : β}, inPhase .ready b → inPhase .ready (finishFrame b).2
  refreshed : ∀ {b : β}, inPhase .ready b → (beginRefresh b {}).1 = .ok →
    busy effort (beginRefresh b {}).2
  refused : ∀ {b : β}, inPhase .ready b → (beginRefresh b {}).1 ≠ .ok →
    inPhase .ready (beginRefresh b {}).2

namespace TransferEngine

variable {β ω : Type} [OpenDisplayBackend β] [PanelWorld β ω] {full : UInt32} {effort n : ℕ}
  {benign works : ω → Prop} {inPhase : PanelPhase → β → Prop} {busy : ℕ → β → Prop}
  {e e' : TransferEngine (Recorder β)}

/-- The panel is free and ready for a frame. -/
structure Free (inPhase : PanelPhase → β → Prop) (e : TransferEngine (Recorder β)) : Prop where
  free : e.hwOwned = false
  ready : inPhase .ready e.backend.panel

/-- The panel is free, or refreshes and has to work at most `n` times more. -/
inductive Tended (inPhase : PanelPhase → β → Prop) (busy : ℕ → β → Prop) (n : ℕ)
    (e : TransferEngine (Recorder β)) : Prop
  | free (hfree : Free inPhase e)
  | refreshing (hw : e.hwOwned = true) (hstate : e.txn.state = .refreshing)
      (hbusy : busy n e.backend.panel)

section Same

omit [OpenDisplayBackend β]

lemma Free.of_same (h : Free inPhase e) (hw : e'.hwOwned = e.hwOwned)
    (hbackend : e'.backend = e.backend) : Free inPhase e' :=
  ⟨hw.trans h.free, hbackend ▸ h.ready⟩

lemma Tended.of_same (h : Tended inPhase busy n e) (hw : e'.hwOwned = e.hwOwned)
    (hstate : e'.txn.state = e.txn.state) (hbackend : e'.backend = e.backend) :
    Tended inPhase busy n e' := by
  cases h with
  | free hfree => exact .free (hfree.of_same hw hbackend)
  | refreshing hw' hstate' hbusy =>
      exact .refreshing (hw.trans hw') (hstate.trans hstate') (hbackend ▸ hbusy)

lemma Free.taken (h : Free inPhase e) : Free inPhase e.takeTailSack.2 :=
  h.of_same (takeTailSack_hwOwned e) (takeTailSack_backend e)

lemma Tended.taken (h : Tended inPhase busy n e) : Tended inPhase busy n e.takeTailSack.2 :=
  h.of_same (takeTailSack_hwOwned e) (congrArg Transaction.state (takeTailSack_txn e))
    (takeTailSack_backend e)

/-- A panel that is given a frame is free. -/
lemma Tended.free_of_receiving (h : Tended inPhase busy n e) (hstate : e.txn.state = .receiving) :
    Free inPhase e := by
  cases h with
  | free hfree => exact hfree
  | refreshing _ hrefreshing => cases hstate.symm.trans hrefreshing

end Same

/-! ### What leaves a free panel free -/

section Free

lemma Free.abort (h : Free inPhase e) (hpanel : Enduring full effort benign works inPhase busy)
    {error : ErrorCode} : Free inPhase (e.abort error) where
  free := by
    rw [abort_hwOwned]
    exact h.free
  ready := by
    by_cases hidle : e.txn.state = .idle
    · rw [abort_backend_of_idle _ _ hidle]
      exact h.ready
    · rw [abort_backend_of_active _ _ hidle]
      exact hpanel.aborted h.ready

lemma Free.cleared (h : Free inPhase e) (hpanel : Enduring full effort benign works inPhase busy) :
    Free inPhase e.cleared where
  free := by
    rw [cleared_hwOwned]
    exact h.free
  ready := ready_cleared hpanel.toObliging h.ready

lemma Free.written (h : Free inPhase e)
    (hpanel : Enduring full effort benign works inPhase busy) (offset : UInt32)
    (data : List UInt8) :
    Free inPhase { e with backend := (writeContiguous e.backend offset data).2 } :=
  ⟨h.free, hpanel.written_again offset data h.ready⟩

/-- A START leaves a refresh alone, and a free panel free. -/
lemma Tended.begin (h : Tended inPhase busy n e)
    (hpanel : Enduring full effort benign works inPhase busy) {mode : TransferMode}
    {total now : UInt32} {why : Option ErrorCode} (hbegin : BeginOutcome e mode total now why e') :
    Tended inPhase busy n e' ∧ (why = none → Free inPhase e') := by
  have hnot : ∀ {P : Prop}, e.hwOwned = false → (Free inPhase e → P) → P := by
    intro P hw hP
    cases h with
    | free hfree => exact hP hfree
    | refreshing hw' => cases hw.symm.trans hw'
  cases hbegin with
  | busy => exact ⟨h, nofun⟩
  | sizeMismatch hw => exact hnot hw fun hfree => ⟨.free (hfree.cleared hpanel), nofun⟩
  | beginFailed hw _ frame =>
      refine hnot hw fun hfree => ⟨.free ⟨?_, ?_⟩, nofun⟩
      · exact (hfree.cleared hpanel).free
      · exact hpanel.begun_again frame (hfree.cleared hpanel).ready
  | opened hw _ frame =>
      refine hnot hw fun hfree => ?_
      have hopened : Free inPhase { e.cleared with
          backend := (beginFrame e.cleared.backend frame).2
          txn := e.cleared.openedTxn mode total now frame } :=
        ⟨(hfree.cleared hpanel).free, hpanel.begun_again frame (hfree.cleared hpanel).ready⟩
      exact ⟨.free hopened, fun _ => hopened⟩

/-- The end of a transfer gives the panel its refresh, or leaves it free. -/
lemma Free.finish (h : Free inPhase e) (hpanel : Enduring full effort benign works inPhase busy)
    {endOpcode : UInt16} {now : UInt32} {res : EngineResult}
    (hfinish : FinishOutcome e endOpcode now res e') : Tended inPhase busy effort e' := by
  have hready := hpanel.finished_again h.ready
  cases hfinish with
  | incomplete =>
      refine .free (.abort ?_ hpanel)
      exact ⟨h.free, h.ready⟩
  | finishFailed =>
      refine .free (.abort ?_ hpanel)
      exact ⟨h.free, hready⟩
  | refreshFailed _ _ hanswer =>
      refine .free (.abort ?_ hpanel)
      exact ⟨h.free, hpanel.refused hready hanswer⟩
  | refreshing _ _ hanswer => exact .refreshing rfl rfl (hpanel.refreshed hready hanswer)

end Free

/-! ### The tick -/

lemma Free.tick (h : Free inPhase e) (hpanel : Enduring full effort benign works inPhase busy)
    (now : UInt32) : Free inPhase (e.tick now).2 := by
  have ho := e.tick_outcome now
  generalize (e.tick now).1 = res, (e.tick now).2 = e₁ at ho ⊢
  have hsame : ∀ {e₁}, Polled e e₁ → Free inPhase e₁ := by
    intro e₁ hp
    cases hp with
    | free => exact h
    | pending hw => cases hw.symm.trans h.free
  cases ho with
  | complete hw | failed hw | released hw => cases hw.symm.trans h.free
  | waiting _ hp => exact hsame hp
  | transferTimeout _ hp => exact (hsame hp).abort hpanel
  | refreshTimeout _ hp =>
      refine .abort ?_ hpanel
      exact ⟨(hsame hp).free, (hsame hp).ready⟩

/-- A tick polls a refresh, and finds it over when the panel has done its work. -/
lemma Tended.tick (h : Tended inPhase busy n e)
    (hpanel : Enduring full effort benign works inPhase busy) {now : UInt32}
    (hkept : ¬ e.AbandonsRefresh (.tick now : EngineOp ω)) :
    Tended inPhase busy n (e.tick now).2 ∧ (n = 0 → Free inPhase (e.tick now).2) := by
  cases h with
  | free hfree => exact ⟨.free (hfree.tick hpanel now), fun _ => hfree.tick hpanel now⟩
  | refreshing hw hstate hbusy =>
      have ho := e.tick_outcome now
      generalize (e.tick now).1 = res, (e.tick now).2 = e₁ at ho ⊢
      rcases hpanel.polled hbusy with ⟨hover, hready⟩ | ⟨hmore, hpending, hstill⟩
      · have hpending : (pollRefresh e.backend).1 ≠ .pending := by
          change (pollRefresh e.backend.panel).1 ≠ .pending
          rw [hover]
          decide
        have hnot : ∀ {e₁ P}, Polled e e₁ → P := by
          intro e₁ P hp
          cases hp with
          | free hfree => cases hw.symm.trans hfree
          | pending _ hpoll => exact absurd hpoll hpending
        have hfreed : ∀ {e₁}, TickOutcome e now res e₁ → Free inPhase e₁ := by
          intro e₁ ho
          cases ho with
          | complete | failed | released => exact ⟨rfl, hready⟩
          | waiting _ hp | transferTimeout _ hp | refreshTimeout _ hp => exact hnot hp
        exact ⟨.free (hfreed ho), fun _ => hfreed ho⟩
      · refine ⟨?_, fun hnone => absurd hnone hmore⟩
        have hpoll : (pollRefresh e.backend).1 = .pending := hpending
        have hpolled : ∀ {e₁}, Polled e e₁ →
            e₁ = { e with backend := (pollRefresh e.backend).2 } := by
          intro e₁ hp
          cases hp with
          | free hfree => cases hw.symm.trans hfree
          | pending => rfl
        cases ho with
        | complete _ hover | failed _ hover => cases hpoll.symm.trans hover
        | released _ hover => exact absurd hpoll hover
        | waiting _ hp =>
            obtain rfl := hpolled hp
            exact .refreshing hw hstate hstill
        | transferTimeout _ hp hexpired =>
            rw [TransferExpired, hp.txn_eq, hstate] at hexpired
            exact absurd hexpired.1 (by decide)
        | refreshTimeout _ hp hexpired =>
            rw [RefreshExpired, hp.txn_eq] at hexpired
            exact absurd ⟨hpoll, hexpired⟩ hkept

/-! ### Steps -/

section Steps

variable (hpanel : Enduring full effort benign works inPhase busy)
  (h : Tended inPhase busy effort e)
include hpanel h

lemma Tended.directStart (p : Payload) (now : UInt32) :
    Tended inPhase busy effort (e.onDirectStart p now).2 := by
  have ho := onDirectStart_outcome e p now
  generalize (e.onDirectStart p now).1 = res, (e.onDirectStart p now).2 = e₁ at ho ⊢
  cases ho with
  | compressed => exact h.of_same rfl rfl rfl
  | refused _ _ e₁ hbegin => exact (h.begin hpanel hbegin).1.of_same rfl rfl rfl
  | started _ _ hbegin => exact (h.begin hpanel hbegin).1

lemma Tended.directData (p : Payload) (now : UInt32) :
    Tended inPhase busy effort (e.onDirectData p now).2 := by
  have ho := onDirectData_outcome e p now
  generalize (e.onDirectData p now).1 = res, (e.onDirectData p now).2 = e₁ at ho ⊢
  cases ho with
  | misplaced => exact h.of_same rfl rfl rfl
  | malformed hstate | oversize hstate =>
      exact .free ((h.free_of_receiving hstate).abort hpanel)
  | writeFailed hstate =>
      have hwritten := (h.free_of_receiving hstate).written hpanel e.txn.nextDirectOffset p.bytes
      refine .free (.abort ?_ hpanel)
      exact hwritten.of_same rfl rfl
  | accepted hstate =>
      have hwritten := (h.free_of_receiving hstate).written hpanel e.txn.nextDirectOffset p.bytes
      exact .free (hwritten.of_same rfl rfl)

lemma Tended.directEnd (p : Payload) (now : UInt32) :
    Tended inPhase busy effort (e.onDirectEnd p now).2 := by
  have ho := onDirectEnd_outcome e p now
  generalize (e.onDirectEnd p now).1 = res, (e.onDirectEnd p now).2 = e₁ at ho ⊢
  cases ho with
  | misplaced => exact h.of_same rfl rfl rfl
  | finished hstate _ _ _ hfinish => exact (h.free_of_receiving hstate).finish hpanel hfinish

lemma Tended.pipeStart (p : Payload) (now : UInt32) :
    Tended inPhase busy effort (e.onPipeStart p now).2 := by
  have ho := onPipeStart_outcome e p now
  generalize (e.onPipeStart p now).1 = res, (e.onPipeStart p now).2 = e₁ at ho ⊢
  cases ho with
  | badHeader | compressed => exact h.of_same rfl rfl rfl
  | refused _ _ _ _ e₁ hbegin => exact (h.begin hpanel hbegin).1.of_same rfl rfl rfl
  | started _ _ _ e₁ hbegin =>
      exact .free (((h.begin hpanel hbegin).2 rfl).of_same rfl rfl)

lemma Tended.pipeData (p : Payload) (now : UInt32) :
    Tended inPhase busy effort (e.onPipeData p now).2 := by
  have ho := onPipeData_outcome e p now
  generalize (e.onPipeData p now).1 = res, (e.onPipeData p now).2 = e₁ at ho ⊢
  cases ho with
  | latched | misplaced | outOfOrder => exact h.of_same rfl rfl rfl
  | malformed _ hplace | oversize _ hplace =>
      have hfree := h.free_of_receiving hplace.1
      refine .free (.abort ?_ hpanel)
      exact hfree.of_same rfl rfl
  | writeFailed _ hplace data =>
      have hwritten := (h.free_of_receiving hplace.1).written hpanel e.txn.acceptedBytes data
      refine .free (.abort ?_ hpanel)
      exact hwritten.of_same rfl rfl
  | accepted _ hplace data _ _ _ _ _ hchunk =>
      have hwritten := (h.free_of_receiving hplace.1).written hpanel e.txn.acceptedBytes data
      have hfree : Free inPhase (e.pipeAccepted e.txn.nextPipeSequence data now) :=
        hwritten.of_same rfl rfl
      cases hchunk with
      | completed _ _ _ hfinish =>
          have hstaged : Free inPhase
              (e.pipeAccepted e.txn.nextPipeSequence data now).stageTailSack :=
            hfree.of_same rfl rfl
          exact hstaged.finish hpanel hfinish
      | sacked => exact .free (hfree.of_same rfl rfl)
      | silent => exact .free hfree

lemma Tended.pipeEnd (p : Payload) (now : UInt32) :
    Tended inPhase busy effort (e.onPipeEnd p now).2 := by
  have ho := onPipeEnd_outcome e p now
  generalize (e.onPipeEnd p now).1 = res, (e.onPipeEnd p now).2 = e₁ at ho ⊢
  cases ho with
  | misplaced => exact h.of_same rfl rfl rfl
  | flushed hplace _ _ _ hfinish =>
      have hstaged : Free inPhase e.stageTailSack :=
        (h.free_of_receiving hplace.1).of_same rfl rfl
      exact hstaged.finish hpanel hfinish
  | finished hplace _ _ _ hfinish =>
      exact (h.free_of_receiving hplace.1).finish hpanel hfinish

/-- **The panel stays looked after**, whatever the operation is, unless it abandons a
refresh. -/
theorem Tended.step {op : EngineOp ω} (hkept : ¬ e.AbandonsRefresh op)
    (hbenign : ∀ event, op = .world event → benign event) :
    Tended inPhase busy effort (e.step op) := by
  cases op with
  | directStart p now => exact h.directStart hpanel p now
  | directData p now => exact h.directData hpanel p now
  | directEnd p now => exact h.directEnd hpanel p now
  | pipeStart p now => exact h.pipeStart hpanel p now
  | pipeData p now => exact h.pipeData hpanel p now
  | pipeEnd p now => exact h.pipeEnd hpanel p now
  | tick now => exact (h.tick hpanel hkept).1
  | abort error =>
      cases h with
      | free hfree => exact .free (hfree.abort hpanel)
      | refreshing _ hstate => exact absurd hstate hkept
  | disconnect gen =>
      have ho := onDisconnect_outcome e gen
      rw [TransferEngine.step, perform]
      generalize e.onDisconnect gen = e₁ at ho ⊢
      cases ho with
      | ignored => exact h
      | aborted _ _ hactive =>
          cases h with
          | free hfree => exact .free (hfree.abort hpanel)
          | refreshing _ hstate => exact absurd hstate hactive
  | setConnectionGeneration => exact h.of_same rfl rfl rfl
  | takeTailSack => exact h.taken
  | world event =>
      have hmild := hbenign event rfl
      cases h with
      | free hfree => exact .free ⟨hfree.free, hpanel.undisturbed hmild hfree.ready⟩
      | refreshing hw hstate hbusy =>
          exact .refreshing hw hstate (hpanel.still_busy hmild hbusy)

end Steps

/-- The tick of this phase, if it has one, abandons a refresh. -/
def AbandonsIn {β : Type} [OpenDisplayBackend β] (e : TransferEngine β) : LoopPhase → Prop
  | .tick startMs => e.AbandonsRefresh (.tick startMs : EngineOp Unit)
  | _ => False

instance {β : Type} [OpenDisplayBackend β] (e : TransferEngine β) :
    ∀ phase : LoopPhase, Decidable (e.AbandonsIn phase)
  | .tick startMs =>
      inferInstanceAs (Decidable (e.AbandonsRefresh (.tick startMs : EngineOp Unit)))
  | .start | .receive _ _ | .updateMsd _ | .drain | .notify _ | .publish => isFalse id

end TransferEngine

/-- The client writes. -/
def ComponentOp.isWrite {ω : Type} : ComponentOp ω → Bool
  | .bleWrite _ _ => true
  | _ => false

namespace OpenDisplayComponent

open TransferEngine

variable {β ω : Type} [OpenDisplayBackend β] [PanelWorld β ω] {full : UInt32} {effort n : ℕ}
  {benign works : ω → Prop} {inPhase : PanelPhase → β → Prop} {busy : ℕ → β → Prop}
  {c : OpenDisplayComponent (Recorder β)}

/-- The step abandons a refresh: the abort action in the middle of it, or a tick that finds
its deadline passed and the panel still at it. -/
def AbandonsRefresh {β : Type} [OpenDisplayBackend β] (c : OpenDisplayComponent β) :
    ComponentOp ω → Prop
  | .abort => c.engine.txn.state = .refreshing
  | .loop _ _ => c.engine.AbandonsIn c.phase
  | _ => False

instance {β : Type} [OpenDisplayBackend β] (c : OpenDisplayComponent β) :
    ∀ op : ComponentOp ω, Decidable (c.AbandonsRefresh op)
  | .abort => inferInstanceAs (Decidable (c.engine.txn.state = .refreshing))
  | .loop _ _ => inferInstanceAs (Decidable (c.engine.AbandonsIn c.phase))
  | .bleConnect | .bleDisconnect | .bleWrite _ _ | .world _ => isFalse id

/-- The step does the panel no harm: what happens to it is benign, and no refresh is
abandoned. -/
structure Harmless {β : Type} [OpenDisplayBackend β] (benign : ω → Prop)
    (c : OpenDisplayComponent β) (op : ComponentOp ω) : Prop where
  benign : ∀ event, op = .world event → benign event
  kept : ¬ c.AbandonsRefresh op

omit [PanelWorld β ω] in
lemma packetOp_harmless {e : TransferEngine β} {f : Frame} {now : UInt32} {eop : EngineOp ω}
    (h : packetOp f now = some eop) :
    ¬ e.AbandonsRefresh eop ∧ ∀ event, eop ≠ .world event := by
  rw [packetOp] at h
  split_ifs at h
  all_goals
    obtain rfl := Option.some.inj h
    refine ⟨id, fun event heq => ?_⟩
    cases heq

omit [PanelWorld β ω] in
lemma Harmless.tick {β : Type} [OpenDisplayBackend β] {c : OpenDisplayComponent β}
    {now startMs : UInt32} {temperature : Int}
    (h : Harmless benign c (.loop now temperature : ComponentOp ω))
    (hphase : c.phase = .tick startMs) :
    ¬ c.engine.AbandonsRefresh (.tick startMs : EngineOp ω) := by
  have hkept := h.kept
  rw [AbandonsRefresh, hphase] at hkept
  exact hkept

/-- The panel stays looked after, whatever the client and the callbacks do. -/
lemma tended_step (hpanel : Enduring full effort benign works inPhase busy)
    (h : Tended inPhase busy effort c.engine) {op : ComponentOp ω} (hop : Harmless benign c op) :
    Tended inPhase busy effort (c.step op).engine := by
  have hstep : ∀ {eop : EngineOp ω}, ¬ c.engine.AbandonsRefresh eop →
      (∀ event, eop = .world event → benign event) →
      Tended inPhase busy effort (c.engine.step eop) := fun hkept hbenign =>
    h.step hpanel hkept hbenign
  have hanswered : ∀ {eop : EngineOp ω}, Answered c eop (c.perform op) →
      ¬ c.engine.AbandonsRefresh eop → (∀ event, eop = .world event → benign event) →
      Tended inPhase busy effort (c.perform op).2.engine := fun ha hkept hbenign => by
    rw [ha.engine_eq]
    exact (hstep hkept hbenign).taken
  change Tended inPhase busy effort (c.perform op).2.engine
  have ho := perform_engineStep c op
  cases ho with
  | kept hengine => rwa [hengine]
  | connected _ _ hengine =>
      rw [hengine]
      exact hstep id nofun
  | idled _ _ _ _ _ hengine =>
      rw [hengine]
      exact hstep id nofun
  | aborted haborts _ hengine =>
      subst haborts
      rw [hengine]
      exact hstep hop.kept nofun
  | happened event hworld _ hengine =>
      rw [hengine]
      refine hstep id fun event' heq => ?_
      cases heq
      exact hop.benign event hworld
  | packet _ _ _ _ _ _ _ _ eop heop ha =>
      obtain ⟨hkept, hnot⟩ := packetOp_harmless (e := c.engine) heop
      exact hanswered ha hkept fun event heq => absurd heq (hnot event)
  | ticked _ _ _ hloop hphase ha =>
      subst hloop
      exact hanswered ha (hop.tick hphase) nofun

/-! ### Nobody writes -/

omit [PanelWorld β ω] in
lemma nextPacket_of_empty {β : Type} [OpenDisplayBackend β] {c : OpenDisplayComponent β}
    (h : c.rx.toList = []) : c.nextPacket = none := by
  rw [nextPacket]
  split
  · split_ifs
    · rw [RxQueue.pop, if_pos ((RingBuffer.isEmpty_iff_toList _).mpr h)]
    · rfl
  · rfl

/-- The receive queue stays empty until the client writes. -/
lemma rx_empty_step {β : Type} [OpenDisplayBackend β] [PanelWorld β ω]
    {c : OpenDisplayComponent β} (h : c.rx.toList = []) {op : ComponentOp ω}
    (hop : op.isWrite = false) : (c.step op).rx.toList = [] := by
  have hkept := rx_conserved c op
  have harrived : arrivedPackets c op = [] := by
    cases op with
    | bleWrite => cases hop
    | _ => rfl
  rw [harrived, h, List.append_nil] at hkept
  exact (List.append_eq_nil_iff.mp hkept).2

/-- A free panel stays free when there are no packets. -/
lemma free_step (hpanel : Enduring full effort benign works inPhase busy)
    (h : Free inPhase c.engine) (hrx : c.rx.toList = []) {op : ComponentOp ω}
    (hbenign : ∀ event, op = .world event → benign event) :
    Free inPhase (c.step op).engine := by
  change Free inPhase (c.perform op).2.engine
  have ho := perform_engineStep c op
  cases ho with
  | kept hengine => rwa [hengine]
  | connected _ _ hengine =>
      rw [hengine]
      exact ⟨h.free, h.ready⟩
  | idled _ _ _ _ _ hengine =>
      rw [hengine]
      have hdisconnect := onDisconnect_outcome c.engine c.connectionGeneration
      change Free inPhase (c.engine.onDisconnect c.connectionGeneration)
      generalize c.engine.onDisconnect c.connectionGeneration = e₁ at hdisconnect ⊢
      cases hdisconnect with
      | ignored => exact h
      | aborted => exact h.abort hpanel
  | aborted _ _ hengine =>
      rw [hengine]
      exact h.abort hpanel
  | happened event hworld _ hengine =>
      rw [hengine]
      exact ⟨h.free, hpanel.undisturbed (hbenign event hworld) h.ready⟩
  | packet _ _ _ _ hnext => cases (nextPacket_of_empty hrx).symm.trans hnext
  | ticked _ startMs _ _ _ ha =>
      rw [ha.engine_eq]
      exact (h.tick hpanel startMs).taken

/-- A refresh that is waited for goes on until it is over. -/
lemma waited_step (hpanel : Enduring full effort benign works inPhase busy)
    (h : Tended inPhase busy n c.engine) (hrx : c.rx.toList = []) {op : ComponentOp ω}
    (hop : Harmless benign c op) : Tended inPhase busy n (c.step op).engine := by
  cases h with
  | free hfree => exact .free (free_step hpanel hfree hrx hop.benign)
  | refreshing hw hstate hbusy =>
      change Tended inPhase busy n (c.perform op).2.engine
      have ho := perform_engineStep c op
      cases ho with
      | kept hengine =>
          rw [hengine]
          exact .refreshing hw hstate hbusy
      | connected _ _ hengine =>
          rw [hengine]
          exact .refreshing hw hstate hbusy
      | idled _ _ _ _ _ hengine =>
          rw [hengine]
          have hdisconnect := onDisconnect_outcome c.engine c.connectionGeneration
          change Tended inPhase busy n (c.engine.onDisconnect c.connectionGeneration)
          generalize c.engine.onDisconnect c.connectionGeneration = e₁ at hdisconnect ⊢
          cases hdisconnect with
          | ignored => exact .refreshing hw hstate hbusy
          | aborted _ _ hactive => exact absurd hstate hactive
      | aborted haborts =>
          subst haborts
          exact absurd hstate hop.kept
      | happened event hworld _ hengine =>
          rw [hengine]
          exact .refreshing hw hstate (hpanel.still_busy (hop.benign event hworld) hbusy)
      | packet _ _ _ _ hnext => cases (nextPacket_of_empty hrx).symm.trans hnext
      | ticked _ startMs _ hloop hphase ha =>
          subst hloop
          have hticked := (Tended.refreshing hw hstate hbusy).tick hpanel (hop.tick hphase)
          rw [ha.engine_eq]
          exact hticked.1.taken

/-- The panel works. -/
lemma worked_step (hpanel : Enduring full effort benign works inPhase busy)
    (h : Tended inPhase busy n c.engine) {event : ω} (hbenign : benign event)
    (hworks : works event) :
    Tended inPhase busy (n - 1) (c.step (.world event)).engine := by
  cases h with
  | free hfree => exact .free ⟨hfree.free, hpanel.undisturbed hbenign hfree.ready⟩
  | refreshing hw hstate hbusy => exact .refreshing hw hstate (hpanel.worked hworks hbusy)

/-- The tick after the work of the panel finds the refresh over. -/
lemma tick_step (hpanel : Enduring full effort benign works inPhase busy)
    (h : Tended inPhase busy 0 c.engine) {op : ComponentOp ω} (hstage : AtStage .tick c op)
    (hop : Harmless benign c op) : Free inPhase (c.step op).engine := by
  obtain ⟨hloop, hphase⟩ := hstage
  obtain ⟨startMs, hphase⟩ : ∃ startMs, c.phase = .tick startMs := by
    rcases hc : c.phase with _ | _ | startMs | _ | _ | _ | _
    case tick => exact ⟨startMs, rfl⟩
    all_goals
      rw [hc] at hphase
      cases hphase
  cases op with
  | loop now temperature =>
      have hticked := (h.tick hpanel (hop.tick hphase)).2 rfl
      have hengine : (c.step (.loop now temperature : ComponentOp ω)).engine =
          (c.engine.tick startMs).2.takeTailSack.2 := by
        change (c.loop now temperature).2.engine = _
        rw [loop, hphase]
        exact (sends_applyResult _ _).engine_eq
      rw [hengine]
      exact hticked.taken
  | _ => cases hloop

end OpenDisplayComponent

end OpenDisplay
