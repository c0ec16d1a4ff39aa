import OpenDisplay.Component.Rounds
import OpenDisplay.Engine.Deadlines
import OpenDisplay.Engine.Ownership

/-!
# The stages of a transfer

On a panel that takes whole frames and ends its refreshes, a transfer goes through three
stages: it is under way, the panel refreshes for it, the panel is free again.  What the panel
makes of its calls plays no part in this.  Here is what each operation of the
engine does in each of them, to the stage, to the deadline and to what the client is told
and the automations are fired; a tick that comes before the deadline does nothing but poll.
-/

namespace OpenDisplay

open OpenDisplayBackend

/-! ### A panel that does as it is told -/

/-- A panel that takes every frame of `full` bytes, and has to work at most `effort` times for
a refresh; then it is ready for the next frame.  It answers its calls so; what it draws is not
asked for here.  `benign` events take it out of no phase, and
those that `works` holds of are the work. -/
structure Compliant {β ω : Type} [OpenDisplayBackend β] [PanelWorld β ω] (full : UInt32)
    (effort : ℕ) (benign works : ω → Prop) (inPhase : PanelPhase → β → Prop)
    (busy : ℕ → β → Prop) : Prop extends Obliging full inPhase where
  undisturbed : ∀ {phase : PanelPhase} {b : β} {event : ω}, benign event → inPhase phase b →
    inPhase phase (PanelWorld.happen event b)
  still_busy : ∀ {n : ℕ} {b : β} {event : ω}, benign event → busy n b →
    busy n (PanelWorld.happen event b)
  worked : ∀ {n : ℕ} {b : β} {event : ω}, works event → busy n b →
    busy (n - 1) (PanelWorld.happen event b)
  starts : ∀ {b : β}, inPhase .finished b → busy effort (beginRefresh b {}).2
  polled : ∀ {n : ℕ} {b : β}, busy n b →
    ((pollRefresh b).1 = .complete ∧ inPhase .ready (pollRefresh b).2) ∨
      n ≠ 0 ∧ (pollRefresh b).1 = .pending ∧ busy n (pollRefresh b).2

namespace TransferEngine

open OpenDisplayComponent (resultFrames resultTriggers)

variable {β ω : Type} [OpenDisplayBackend β] [PanelWorld β ω]

/-! ### What is told and fired -/

/-- An operation that is told nothing of the refresh sends its frames. -/
lemma answers_of_packet (e : TransferEngine β) {op : EngineOp ω} (hop : ∀ now, op ≠ .tick now) :
    e.answers op = (e.framesSent op).filter fun r => !r.isEmpty := by
  obtain ⟨hcomplete, htimeout⟩ := e.reports_nothing hop
  rw [answers, framesSent, resultFrames, hcomplete, htimeout, nonEmptyFrames]
  rcases (e.step op).takeTailSack.1 with _ | tail <;>
    rcases hempty : (e.perform op).1.response.isEmpty with _ | _ <;>
      simp [hempty, List.filter_cons]

/-! ### The stages of a transfer -/

/-- The timeouts of the engine. -/
structure TimesOut (transferMs refreshMs : UInt32) {β : Type} (e : TransferEngine β) : Prop where
  transfer_eq : e.transferTimeoutMs = transferMs
  refresh_eq : e.refreshTimeoutMs = refreshMs

/-- The transfer `t` is under way, and took its last packet at `last`. -/
structure Underway (full : UInt32) (inPhase : PanelPhase → β → Prop)
    (before : List BackendCall) (t : Transfer) (last : UInt32)
    (e : TransferEngine (Recorder β)) : Prop where
  filling : Filling full inPhase before t e
  free : e.hwOwned = false
  staged : e.hasTailSack = false
  due : e.DueAfter last

/-- The panel is refreshed for the transfer `t`, whose last packet came at `stop`, and has to
work at most `n` times more. -/
structure Refreshes (full : UInt32) (busy : ℕ → β → Prop) (before : List BackendCall)
    (t : Transfer) (stop : UInt32) (n : ℕ) (e : TransferEngine (Recorder β)) : Prop where
  state_eq : e.txn.state = .refreshing
  owned : e.hwOwned = true
  staged : e.hasTailSack = false
  due : e.DueAfter stop
  busy : busy n e.backend.panel
  calls_eq : ∃ (frame : FrameDescriptor) (pending : ℕ), frame.totalBytes = full ∧
    e.backend.calls = before ++ .beginFrame frame .ok :: (t.writes ++
      ([.finishFrame .ok, .beginRefresh .ok] ++
        List.replicate pending (.pollRefresh .pending)))

/-- The panel has been refreshed for the transfer `t`, and everything is free for the next. -/
structure Refreshed (full : UInt32) (inPhase : PanelPhase → β → Prop)
    (before : List BackendCall) (t : Transfer) (e : TransferEngine (Recorder β)) : Prop where
  state_eq : e.txn.state = .idle
  free : e.hwOwned = false
  staged : e.hasTailSack = false
  ready : inPhase .ready e.backend.panel
  calls_eq : ∃ (frame : FrameDescriptor) (pending : ℕ), frame.totalBytes = full ∧
    e.backend.calls = before ++ .beginFrame frame .ok :: (t.writes ++
      ([.finishFrame .ok, .beginRefresh .ok] ++
        (List.replicate pending (.pollRefresh .pending) ++ [.pollRefresh .complete])))

/-! ### What moves a transfer -/

/-- The operation takes the transfer on: the deadline is set anew, the panel is taken exactly
for the refresh, and these automations are fired. -/
structure Moves (e : TransferEngine β) (op : EngineOp ω) (now : UInt32) (fx : List Effect) :
    Prop where
  due : (e.serve op).DueAfter now
  owned_eq : (e.serve op).hwOwned = decide ((e.serve op).txn.state = .refreshing)
  fired_eq : e.fired op = fx

section Moves

variable {e e' : TransferEngine β} {now : UInt32}

/-- What the deadline and the ownership are read from is not staged. -/
lemma moves_of_step {op : EngineOp ω} {fx : List Effect} (hdue : (e.step op).DueAfter now)
    (howned : (e.step op).hwOwned = decide ((e.step op).txn.state = .refreshing))
    (hfired : e.fired op = fx) : Moves e op now fx where
  due := by
    have hsame := step_sameTimeouts (e.step op) (.takeTailSack : EngineOp ω)
    have htaken : (e.step op).step (.takeTailSack : EngineOp ω) = e.serve op := rfl
    rw [htaken] at hsame
    rw [DueAfter, deadlineMs, timeoutMs, hsame.transfer_eq, hsame.refresh_eq, serve,
      takeTailSack_txn]
    exact hdue
  owned_eq := by
    rw [serve, takeTailSack_hwOwned, takeTailSack_txn]
    exact howned
  fired_eq := hfired

lemma FinishOutcome.owned {endOpcode : UInt16} {res : EngineResult}
    (ho : FinishOutcome e endOpcode now res e') (hlive : e'.txn.state ≠ .idle) :
    e'.txn.state = .refreshing ∧ e'.hwOwned = true ∧ res = reply (encodeAck endOpcode) ∧
      e'.backend = (beginRefresh (finishFrame e.backend).2 {}).2 := by
  cases ho with
  | incomplete | finishFailed | refreshFailed => exact absurd (by simp) hlive
  | refreshing => exact ⟨rfl, rfl, rfl, rfl⟩

/-- A direct START that is acknowledged. -/
lemma moves_of_directStart {p : Payload}
    (hack : (e.onDirectStart p now).1.response = encodeAck cmdDirectWriteStart)
    (hw : e.hwOwned = false) :
    Moves e (.directStart p now : EngineOp ω) now [.transferStarted] := by
  have ho := onDirectStart_outcome e p now
  rcases hdone : e.onDirectStart p now with ⟨res, e₁⟩
  rw [hdone] at ho hack
  have hstep : e.step (.directStart p now : EngineOp ω) = e₁ := congrArg Prod.snd hdone
  have hres : (e.perform (.directStart p now : EngineOp ω)).1 = res := congrArg Prod.fst hdone
  cases ho with
  | compressed | refused =>
      have hne : encodeNack cmdDirectWriteStart ≠ encodeAck cmdDirectWriteStart := by decide
      exact absurd hack hne
  | started _ _ hbegin =>
      have hfree : e₁.hwOwned = false := hbegin.not_taken hw
      have hstate : e₁.txn.state = .receiving := by
        cases hbegin
        rfl
      refine moves_of_step ?_ ?_ ?_
      · rw [hstep]
        exact hbegin.dueAfter
      · rw [hstep, hfree, hstate]
        rfl
      · rw [fired, hres]
        rfl

/-- A direct DATA that moves the bytes accepted. -/
lemma moves_of_directData {p : Payload}
    (hlive : (e.onDirectData p now).2.txn.state ≠ .idle)
    (hmoved : (e.onDirectData p now).2.txn.acceptedBytes ≠ e.txn.acceptedBytes)
    (hw : e.hwOwned = false) : Moves e (.directData p now : EngineOp ω) now [] := by
  have ho := onDirectData_outcome e p now
  rcases hdone : e.onDirectData p now with ⟨res, e₁⟩
  rw [hdone] at ho hlive hmoved
  have hstep : e.step (.directData p now : EngineOp ω) = e₁ := congrArg Prod.snd hdone
  have hres : (e.perform (.directData p now : EngineOp ω)).1 = res := congrArg Prod.fst hdone
  cases ho with
  | misplaced => exact absurd rfl hmoved
  | malformed | oversize | writeFailed => exact absurd (by simp) hlive
  | accepted hstate =>
      refine moves_of_step ?_ ?_ ?_
      · rw [hstep]
        exact dueAfter_of_receiving hstate rfl
      · rw [hstep]
        change e.hwOwned = decide (e.txn.state = .refreshing)
        rw [hw, hstate]
        rfl
      · rw [fired, hres]
        rfl

/-- A direct END after which the panel refreshes. -/
lemma moves_of_directEnd (p : Payload) (hstate : e.txn.state = .receiving)
    (hshown : (e.onDirectEnd p now).2.txn.state = .refreshing) :
    Moves e (.directEnd p now : EngineOp ω) now [] ∧
      (e.onDirectEnd p now).2.backend = (beginRefresh (finishFrame e.backend).2 {}).2 := by
  have ho := onDirectEnd_outcome e p now
  rcases hdone : e.onDirectEnd p now with ⟨res, e₁⟩
  rw [hdone] at ho hshown
  have hstep : e.step (.directEnd p now : EngineOp ω) = e₁ := congrArg Prod.snd hdone
  have hres : (e.perform (.directEnd p now : EngineOp ω)).1 = res := congrArg Prod.fst hdone
  cases ho with
  | misplaced => cases hstate.symm.trans hshown
  | finished _ _ _ _ hfinish =>
      have hlive : e₁.txn.state ≠ .idle := by rw [hshown]; decide
      obtain ⟨-, howned, hreply, hbackend⟩ := hfinish.owned hlive
      have hreply : res = reply (encodeAck cmdDirectWriteEnd) := hreply
      refine ⟨moves_of_step ?_ ?_ ?_, hbackend⟩
      · rw [hstep]
        exact hfinish.dueAfter hlive
      · rw [hstep, howned, hshown]
        rfl
      · rw [fired, hres, hreply]
        rfl

/-- A PIPE START that is not refused. -/
lemma moves_of_pipeStart {p : Payload}
    (hack : (e.onPipeStart p now).1.response.bytes.head? ≠ some respNack)
    (hw : e.hwOwned = false) : Moves e (.pipeStart p now : EngineOp ω) now [.transferStarted] := by
  have ho := onPipeStart_outcome e p now
  rcases hdone : e.onPipeStart p now with ⟨res, e₁⟩
  rw [hdone] at ho hack
  have hstep : e.step (.pipeStart p now : EngineOp ω) = e₁ := congrArg Prod.snd hdone
  have hres : (e.perform (.pipeStart p now : EngineOp ω)).1 = res := congrArg Prod.fst hdone
  cases ho with
  | badHeader | compressed | refused => exact absurd rfl hack
  | started _ _ _ _ hbegin =>
      have hfree := hbegin.not_taken hw
      cases hbegin with
      | opened =>
          refine moves_of_step ?_ ?_ ?_
          · rw [hstep]
            exact dueAfter_of_receiving rfl rfl
          · rw [hstep]
            exact hfree
          · rw [fired, hres]
            rfl

/-- A chunk that moves the transfer, and does not end in a fault. -/
lemma moves_of_pipeData {p : Payload} (hlive : (e.onPipeData p now).2.txn.state ≠ .idle)
    (hmoved : (e.onPipeData p now).2.txn.acceptedPackets ≠ e.txn.acceptedPackets ∨
      (e.onPipeData p now).2.txn.state ≠ e.txn.state)
    (hw : e.hwOwned = false) : Moves e (.pipeData p now : EngineOp ω) now [] := by
  have ho := onPipeData_outcome e p now
  rcases hdone : e.onPipeData p now with ⟨res, e₁⟩
  rw [hdone] at ho hlive hmoved
  have hstep : e.step (.pipeData p now : EngineOp ω) = e₁ := congrArg Prod.snd hdone
  have hres : (e.perform (.pipeData p now : EngineOp ω)).1 = res := congrArg Prod.fst hdone
  cases ho with
  | latched | misplaced | outOfOrder => exact (hmoved.elim (absurd rfl) (absurd rfl) :)
  | malformed | oversize | writeFailed => exact absurd (by simp) hlive
  | accepted _ hplace data _ _ _ _ _ hchunk =>
      cases hchunk with
      | completed _ _ _ hfinish =>
          obtain ⟨hshown, howned, hreply, -⟩ := hfinish.owned hlive
          have hreply : res = reply (encodeAck cmdPipeWriteEnd) := hreply
          refine moves_of_step ?_ ?_ ?_
          · rw [hstep]
            exact hfinish.dueAfter hlive
          · rw [hstep, howned, hshown]
            rfl
          · rw [fired, hres, hreply]
            rfl
      | sacked | silent =>
          refine moves_of_step ?_ ?_ ?_
          · rw [hstep]
            exact dueAfter_of_receiving hplace.1 rfl
          · rw [hstep]
            change e.hwOwned = decide (e.txn.state = .refreshing)
            rw [hw, hplace.1]
            rfl
          · rw [fired, hres]
            rfl

end Moves

/-! ### Waiting -/

section Waiting

variable {e e' : TransferEngine β} {now : UInt32}

/-- An operation that is told nothing and fires nothing. -/
structure Quiet (e : TransferEngine β) (op : EngineOp ω) (e' : TransferEngine β) : Prop where
  serve_eq : e.serve op = e'
  answers_eq : e.answers op = []
  fired_eq : e.fired op = []

lemma quiet_of_perform {op : EngineOp ω} (hstaged : e'.hasTailSack = false)
    (h : e.perform op = ({}, e')) : Quiet e op e' := by
  have hstep : e.step op = e' := congrArg Prod.snd h
  have htaken := takeTailSack_of_not hstaged
  refine ⟨?_, ?_, ?_⟩
  · rw [serve, hstep, htaken]
  · rw [answers, hstep, htaken, h]
    rfl
  · rw [fired, h]
    rfl

lemma quiet_world (hstaged : e.hasTailSack = false) (event : ω) :
    Quiet e (.world event) { e with backend := PanelWorld.happen event e.backend } :=
  quiet_of_perform hstaged rfl

/-- A tick on a free panel, before the deadline. -/
lemma quiet_tick_receiving (hstate : e.txn.state = .receiving) (hw : e.hwOwned = false)
    (hstaged : e.hasTailSack = false)
    (hearly : deadlinePassed now e.txn.transferDeadlineMs = false) :
    Quiet e (.tick now : EngineOp ω) e := by
  refine quiet_of_perform hstaged ?_
  change e.tick now = ({}, e)
  rw [tick, hw, if_neg Bool.false_ne_true, checkDeadlines, hstate]
  dsimp only
  rw [if_neg (by simp [hearly])]

lemma quiet_tick_idle (hstate : e.txn.state = .idle) (hw : e.hwOwned = false)
    (hstaged : e.hasTailSack = false) : Quiet e (.tick now : EngineOp ω) e := by
  refine quiet_of_perform hstaged ?_
  change e.tick now = ({}, e)
  rw [tick, hw, if_neg Bool.false_ne_true, checkDeadlines, hstate]

/-- A tick on a panel that still refreshes, before the deadline. -/
lemma quiet_tick_refreshing (hstate : e.txn.state = .refreshing) (hw : e.hwOwned = true)
    (hstaged : e.hasTailSack = false) (hpoll : (pollRefresh e.backend).1 = .pending)
    (hearly : deadlinePassed now e.txn.refreshDeadlineMs = false) :
    Quiet e (.tick now : EngineOp ω) { e with backend := (pollRefresh e.backend).2 } := by
  refine quiet_of_perform hstaged ?_
  change e.tick now = _
  have ho := e.tick_outcome now
  rcases hdone : e.tick now with ⟨res, e₁⟩
  rw [hdone] at ho
  cases ho with
  | complete _ hover | failed _ hover => cases hpoll.symm.trans hover
  | released _ hover => exact absurd hpoll hover
  | waiting _ hpolled =>
      cases hpolled with
      | free hfree => cases hw.symm.trans hfree
      | pending => rfl
  | transferTimeout _ hpolled hexpired =>
      rw [TransferExpired, hpolled.txn_eq, hstate] at hexpired
      exact absurd hexpired.1 (by decide)
  | refreshTimeout _ hpolled hexpired =>
      rw [RefreshExpired, hpolled.txn_eq, hearly] at hexpired
      cases hexpired.2

/-- A tick that finds the refresh over. -/
lemma tick_complete (hstate : e.txn.state = .refreshing) (hw : e.hwOwned = true)
    (hstaged : e.hasTailSack = false) (hpoll : (pollRefresh e.backend).1 = .complete)
    (now : UInt32) :
    e.answers (.tick now : EngineOp ω) = [encodeAck respDirectWriteRefreshSuccess] ∧
      e.fired (.tick now : EngineOp ω) = [.refreshComplete] ∧
      e.serve (.tick now : EngineOp ω) = { e with
        backend := (pollRefresh e.backend).2
        hwOwned := false
        txn := {}
        stats.transfersOk := e.stats.transfersOk + 1 } := by
  have htick : e.tick now = ({ refreshComplete := true }, { e with
      backend := (pollRefresh e.backend).2
      hwOwned := false
      txn := {}
      stats.transfersOk := e.stats.transfersOk + 1 }) := by
    have ho := e.tick_outcome now
    rcases hdone : e.tick now with ⟨res, e₁⟩
    rw [hdone] at ho
    cases ho with
    | complete => rfl
    | failed _ hover => cases hpoll.symm.trans hover
    | released _ _ hover => exact absurd hstate hover
    | waiting _ hpolled | transferTimeout _ hpolled | refreshTimeout _ hpolled =>
        cases hpolled with
        | free hfree => cases hw.symm.trans hfree
        | pending _ hover => cases hpoll.symm.trans hover
  have hkept : ({ e with
      backend := (pollRefresh e.backend).2
      hwOwned := false
      txn := {}
      stats.transfersOk := e.stats.transfersOk + 1 } : TransferEngine β).hasTailSack = false :=
    hstaged
  have htaken := takeTailSack_of_not hkept
  refine ⟨?_, ?_, ?_⟩
  · rw [answers, step, perform, htick, htaken]
    rfl
  · rw [fired, perform, htick]
    rfl
  · rw [serve, step, perform, htick, htaken]

end Waiting

/-! ### From stage to stage -/

section Stages

variable {full : UInt32} {effort : ℕ} {benign works : ω → Prop} {inPhase : PanelPhase → β → Prop}
  {busy : ℕ → β → Prop} {before : List BackendCall} {t : Transfer} {last now : UInt32} {n : ℕ}
  {e : TransferEngine (Recorder β)}

lemma TimesOut.exec {transferMs refreshMs : UInt32}
    (h : TimesOut transferMs refreshMs e) (ops : List (EngineOp ω)) :
    TimesOut transferMs refreshMs (Machine.exec serve e ops) :=
  Machine.exec_invariant (I := TimesOut transferMs refreshMs) (fun e op h => by
    have hstep := step_sameTimeouts e op
    have htaken := step_sameTimeouts (e.step op) (.takeTailSack : EngineOp ω)
    exact ⟨(htaken.transfer_eq.trans hstep.transfer_eq).trans h.transfer_eq,
      (htaken.refresh_eq.trans hstep.refresh_eq).trans h.refresh_eq⟩) h ops

omit [OpenDisplayBackend β] in
lemma Underway.happen (h : Underway full inPhase before t last e) {event : ω}
    (hphase : inPhase (.filled t.size) (PanelWorld.happen event e.backend.panel)) :
    Underway full inPhase before t last
      { e with backend := PanelWorld.happen event e.backend } where
  filling := ⟨h.filling.state_eq, h.filling.book, h.filling.full_eq, h.filling.not_fatal,
    hphase, h.filling.calls_eq⟩
  free := h.free
  staged := h.staged
  due := h.due

omit [OpenDisplayBackend β] in
/-- The deadline of a transfer under way. -/
lemma Underway.deadline (h : Underway full inPhase before t last e) :
    e.txn.transferDeadlineMs = last + e.transferTimeoutMs := by
  have hdue := h.due
  have hne : e.txn.state ≠ .refreshing := by rw [h.filling.state_eq]; decide
  rwa [DueAfter, deadlineMs, timeoutMs, if_neg hne, if_neg hne] at hdue

omit [OpenDisplayBackend β] in
lemma Refreshes.deadline (h : Refreshes full busy before t last n e) :
    e.txn.refreshDeadlineMs = last + e.refreshTimeoutMs := by
  have hdue := h.due
  rwa [DueAfter, deadlineMs, timeoutMs, if_pos h.state_eq, if_pos h.state_eq] at hdue

/-- A poll of the refresh. -/
lemma Refreshes.tick (h : Refreshes full busy before t last n e)
    (hpanel : Compliant full effort benign works inPhase busy)
    (hearly : deadlinePassed now (last + e.refreshTimeoutMs) = false) :
    (e.answers (.tick now : EngineOp ω) = [encodeAck respDirectWriteRefreshSuccess] ∧
        e.fired (.tick now : EngineOp ω) = [.refreshComplete] ∧
        Refreshed full inPhase before t (e.serve (.tick now : EngineOp ω))) ∨
      n ≠ 0 ∧ ∃ e', Quiet e (.tick now : EngineOp ω) e' ∧
        Refreshes full busy before t last n e' := by
  obtain ⟨frame, pending, hframe, hcalls⟩ := h.calls_eq
  rcases hpanel.polled h.busy with ⟨hpoll, hready⟩ | ⟨hmore, hpoll, hbusy⟩
  · have hpoll' : (pollRefresh e.backend).1 = .complete := hpoll
    obtain ⟨hanswers, hfired, hserve⟩ := tick_complete h.state_eq h.owned h.staged hpoll' now
    refine .inl ⟨hanswers, hfired, ?_⟩
    rw [hserve]
    refine ⟨rfl, rfl, h.staged, hready, frame, pending, hframe, ?_⟩
    change (pollRefresh e.backend).2.calls = _
    rw [Recorder.calls_pollRefresh, hpoll', hcalls]
    simp
  · have hpoll' : (pollRefresh e.backend).1 = .pending := hpoll
    refine .inr ⟨hmore, _, quiet_tick_refreshing h.state_eq h.owned h.staged hpoll' ?_, ?_⟩
    · rw [h.deadline]
      exact hearly
    · refine ⟨h.state_eq, h.owned, h.staged, h.due, hbusy, frame, pending + 1, hframe, ?_⟩
      change (pollRefresh e.backend).2.calls = _
      rw [Recorder.calls_pollRefresh, hpoll', hcalls, List.replicate_succ']
      simp

omit [OpenDisplayBackend β] in
lemma last_of_framesSent {β : Type} [OpenDisplayBackend β] [PanelWorld β ω]
    {e : TransferEngine β} {op : EngineOp ω} {r : Response} (h : e.framesSent op = [r]) :
    (e.perform op).1.response = r := by
  have hlast := congrArg List.getLast? h
  rw [framesSent, List.getLast?_concat] at hlast
  exact Option.some.inj hlast

/-- A direct START. -/
lemma underway_of_directStart (hpanel : Compliant full effort benign works inPhase busy)
    (hready : inPhase .ready e.backend.panel) (hw : e.hwOwned = false)
    (hstaged : e.hasTailSack = false) {p : Payload} (hlen : p.len = 0) (now : UInt32) :
    e.answers (.directStart p now : EngineOp ω) = [encodeAck cmdDirectWriteStart] ∧
      e.fired (.directStart p now : EngineOp ω) = [.transferStarted] ∧
      Underway full inPhase e.cleared.backend.calls (e.openedTransfer .direct) now
        (e.serve (.directStart p now : EngineOp ω)) := by
  obtain ⟨hsent, hfilling⟩ :=
    filling_of_directStart (ω := ω) hpanel.toObliging hready hw hstaged hlen now
  have hmoves := moves_of_directStart (ω := ω) (last_of_framesSent hsent) hw
  refine ⟨?_, hmoves.fired_eq, hfilling, ?_, takeTailSack_hasTailSack _, hmoves.due⟩
  · rw [answers_of_packet e (by simp), hsent]
    rfl
  · rw [hmoves.owned_eq, hfilling.state_eq]
    rfl

/-- A direct DATA that fits. -/
lemma Underway.directData (h : Underway full inPhase before t last e)
    (hpanel : Compliant full effort benign works inPhase busy) (hmode : t.mode = .direct)
    {p : Payload}
    (hdata : p.bytes ≠ []) (hfit : t.size + p.bytes.length ≤ full.toNat) (now : UInt32) :
    e.answers (.directData p now : EngineOp ω) = [encodeAck cmdDirectWriteData] ∧
      e.fired (.directData p now : EngineOp ω) = [] ∧
      Underway full inPhase before (t.accept p.bytes) now
        (e.serve (.directData p now : EngineOp ω)) := by
  obtain ⟨hsent, hfilling⟩ :=
    h.filling.directData (ω := ω) hpanel.toObliging h.staged hmode hdata hfit now
  have htxn : (e.serve (.directData p now : EngineOp ω)).txn = (e.onDirectData p now).2.txn :=
    takeTailSack_txn _
  have hlive : (e.onDirectData p now).2.txn.state ≠ .idle := by
    rw [← htxn, hfilling.state_eq]
    decide
  have hmoved : (e.onDirectData p now).2.txn.acceptedBytes ≠ e.txn.acceptedBytes := by
    intro hsame
    have haccepted := hfilling.book.accepted_eq
    rw [htxn, hsame, h.filling.book.accepted_eq, Transfer.size_accept] at haccepted
    have hpos := List.length_pos_iff.mpr hdata
    omega
  have hmoves := moves_of_directData (ω := ω) hlive hmoved h.free
  refine ⟨?_, hmoves.fired_eq, hfilling, ?_, takeTailSack_hasTailSack _, hmoves.due⟩
  · rw [answers_of_packet e (by simp), hsent]
    rfl
  · rw [hmoves.owned_eq, hfilling.state_eq]
    rfl

/-- The END of a full direct transfer. -/
lemma Underway.directEnd (h : Underway full inPhase before t last e)
    (hpanel : Compliant full effort benign works inPhase busy) (hmode : t.mode = .direct)
    (hfull : t.size = full.toNat) (p : Payload) (now : UInt32) :
    e.answers (.directEnd p now : EngineOp ω) = [encodeAck cmdDirectWriteEnd] ∧
      e.fired (.directEnd p now : EngineOp ω) = [] ∧
      Refreshes full busy before t now effort (e.serve (.directEnd p now : EngineOp ω)) := by
  obtain ⟨hsent, hshown⟩ :=
    h.filling.directEnd (ω := ω) hpanel.toObliging h.staged hmode hfull p now
  have htxn : (e.serve (.directEnd p now : EngineOp ω)).txn = (e.onDirectEnd p now).2.txn :=
    takeTailSack_txn _
  have hstate : (e.onDirectEnd p now).2.txn.state = .refreshing := htxn ▸ hshown.state_eq
  obtain ⟨hmoves, hbackend⟩ := moves_of_directEnd (ω := ω) p h.filling.state_eq hstate
  obtain ⟨frame, hframe, hcalls⟩ := hshown.calls_eq
  refine ⟨?_, hmoves.fired_eq, hshown.state_eq, ?_, takeTailSack_hasTailSack _, hmoves.due, ?_,
    frame, 0, hframe, ?_⟩
  · rw [answers_of_packet e (by simp), hsent]
    rfl
  · rw [hmoves.owned_eq, hshown.state_eq]
    rfl
  · have hpanel' : (e.serve (.directEnd p now : EngineOp ω)).backend =
        (beginRefresh (finishFrame e.backend).2 {}).2 := by
      rw [serve, takeTailSack_backend]
      exact hbackend
    rw [hpanel']
    exact hpanel.starts (hpanel.finished (hfull ▸ h.filling.phase)).2
  · rw [hcalls]
    rfl

/-- A PIPE START. -/
lemma underway_of_pipeStart (hpanel : Compliant full effort benign works inPhase busy)
    (hready : inPhase .ready e.backend.panel) (hw : e.hwOwned = false)
    (hstaged : e.hasTailSack = false) {p : Payload} {req : PipeStartRequest}
    (hparse : parsePipeStart p = .ok req) (hflag : req.flags &&& pipeFlagCompressed = 0)
    (hsize : req.totalSize = full) (now : UInt32) :
    (∀ r ∈ e.answers (.pipeStart p now : EngineOp ω), r.bytes.head? ≠ some respNack) ∧
      e.fired (.pipeStart p now : EngineOp ω) = [.transferStarted] ∧
      Underway full inPhase e.cleared.backend.calls (e.openedTransfer .pipe) now
        (e.serve (.pipeStart p now : EngineOp ω)) := by
  obtain ⟨hquiet, hfilling⟩ :=
    filling_of_pipeStart (ω := ω) hpanel.toObliging hready hw hstaged hparse hflag hsize now
  have hnot : (e.onPipeStart p now).1.response.bytes.head? ≠ some respNack :=
    hquiet _ (List.mem_append_right _ (List.mem_singleton_self _))
  have hmoves := moves_of_pipeStart (ω := ω) hnot hw
  refine ⟨fun r hr => ?_, hmoves.fired_eq, hfilling, ?_, takeTailSack_hasTailSack _, hmoves.due⟩
  · rw [answers_of_packet e (by simp)] at hr
    exact hquiet r (List.mem_of_mem_filter hr)
  · rw [hmoves.owned_eq, hfilling.state_eq]
    rfl

/-- A chunk that leaves room. -/
lemma Underway.pipeData (h : Underway full inPhase before t last e)
    (hpanel : Compliant full effort benign works inPhase busy) (hmode : t.mode = .pipe)
    {p : Payload}
    {data : List UInt8} (hbytes : p.bytes = UInt8.ofNat t.chunks.length :: data)
    (hroom : t.size + data.length < full.toNat) (now : UInt32) :
    (∀ r ∈ e.answers (.pipeData p now : EngineOp ω), r.bytes.head? ≠ some respNack) ∧
      e.fired (.pipeData p now : EngineOp ω) = [] ∧
      Underway full inPhase before (t.accept data) now
        (e.serve (.pipeData p now : EngineOp ω)) := by
  obtain ⟨e₁, hfilled, hkept, hchunk⟩ :=
    h.filling.pipeData hpanel.toObliging hmode hbytes (Nat.le_of_lt hroom) now
  obtain ⟨hquiet, hfilling⟩ := hfilled.chunk_open (hkept.trans h.staged)
    (by rw [Transfer.size_accept]; exact hroom) hchunk
  have htxn : (e.onPipeData p now).2.takeTailSack.2.txn = (e.onPipeData p now).2.txn :=
    takeTailSack_txn _
  have hlive : (e.onPipeData p now).2.txn.state ≠ .idle := by
    rw [← htxn, hfilling.state_eq]
    decide
  have hmoved : (e.onPipeData p now).2.txn.acceptedPackets ≠ e.txn.acceptedPackets := by
    intro hsame
    have hpackets := hfilling.book.counters.packets_eq
    rw [htxn, hsame, h.filling.book.counters.packets_eq, Transfer.pipeChunks_of_pipe hmode,
      Transfer.pipeChunks_of_pipe (t := t.accept data) hmode, Transfer.length_chunks_accept,
      UInt32.ofNat_add] at hpackets
    exact absurd hpackets (by simp)
  have hmoves := moves_of_pipeData (ω := ω) hlive (.inl hmoved) h.free
  refine ⟨fun r hr => ?_, hmoves.fired_eq, hfilling, ?_, takeTailSack_hasTailSack _, hmoves.due⟩
  · rw [answers_of_packet e (by simp)] at hr
    exact hquiet r (List.mem_of_mem_filter hr)
  · rw [hmoves.owned_eq]
    change decide ((e.onPipeData p now).2.takeTailSack.2.txn.state = _) = false
    rw [hfilling.state_eq]
    rfl

/-- The chunk that fills the frame. -/
lemma Underway.pipeLast (h : Underway full inPhase before t last e)
    (hpanel : Compliant full effort benign works inPhase busy) (hmode : t.mode = .pipe)
    {p : Payload}
    {data : List UInt8} (hbytes : p.bytes = UInt8.ofNat t.chunks.length :: data)
    (hfull : t.size + data.length = full.toNat) (now : UInt32) :
    (∃ sack : Response, sack.bytes.head? ≠ some respNack ∧
      e.answers (.pipeData p now : EngineOp ω) = [sack, encodeAck cmdPipeWriteEnd]) ∧
      e.fired (.pipeData p now : EngineOp ω) = [] ∧
      Refreshes full busy before (t.accept data) now effort
        (e.serve (.pipeData p now : EngineOp ω)) := by
  obtain ⟨e₁, hfilled, -, hchunk⟩ :=
    h.filling.pipeData hpanel.toObliging hmode hbytes (Nat.le_of_eq hfull) now
  have hsize : (t.accept data).size = full.toNat := by rw [Transfer.size_accept, hfull]
  obtain ⟨hsent, hshown⟩ := hfilled.chunk_last hpanel.toObliging hsize hchunk
  have htxn : (e.onPipeData p now).2.takeTailSack.2.txn = (e.onPipeData p now).2.txn :=
    takeTailSack_txn _
  have hstate : (e.onPipeData p now).2.txn.state = .refreshing := htxn ▸ hshown.state_eq
  have hlive : (e.onPipeData p now).2.txn.state ≠ .idle := by
    rw [hstate]
    decide
  have hmoves := moves_of_pipeData (ω := ω) hlive
    (.inr (by rw [hstate, h.filling.state_eq]; decide)) h.free
  obtain ⟨frame, hframe, hcalls⟩ := hshown.calls_eq
  have hbusy : busy effort (e.onPipeData p now).2.backend.panel := by
    generalize (e.onPipeData p now).1 = res, (e.onPipeData p now).2 = e₂ at hchunk hlive hstate
    cases hchunk with
    | completed _ _ _ hfinish =>
        rw [(hfinish.owned hlive).2.2.2]
        exact hpanel.starts (hpanel.finished (hsize ▸ hfilled.phase)).2
    | sacked | silent => cases hfilled.state_eq.symm.trans hstate
  refine ⟨⟨e₁.inorderSack, by simp [inorderSack, encodePipeSack, respAck, respNack], ?_⟩,
    hmoves.fired_eq, hshown.state_eq, ?_, takeTailSack_hasTailSack _, hmoves.due, ?_, frame, 0,
    hframe, ?_⟩
  · rw [answers_of_packet e (by simp)]
    change List.filter _ ((e.onPipeData p now).2.takeTailSack.1.toList ++
      [(e.onPipeData p now).1.response]) = _
    rw [hsent]
    rfl
  · rw [hmoves.owned_eq]
    change decide ((e.onPipeData p now).2.takeTailSack.2.txn.state = _) = true
    rw [hshown.state_eq]
    rfl
  · rw [serve, takeTailSack_backend]
    exact hbusy
  · change (e.onPipeData p now).2.takeTailSack.2.backend.calls = _
    rw [hcalls]
    rfl

end Stages

end TransferEngine

end OpenDisplay
