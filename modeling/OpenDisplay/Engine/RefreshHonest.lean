import OpenDisplay.Engine.CallTrace
import OpenDisplay.Backend.Scripted

/-!
# A reported refresh is a refresh

`tick` reports a complete refresh only for a frame that was written in full and in
order and whose refresh the panel has just confirmed, and no refresh is reported
twice, as complete or as timed out.  The first is read off the trace of the
transfer; for the second the successful `begin_refresh` calls and the reports of a
run are written down as one word, in which every report directly follows a call.
-/

namespace OpenDisplay

open OpenDisplayBackend

/-! ### Refreshes and their reports -/

/-- A successful `begin_refresh`, and the two ways in which `tick` reports its end. -/
inductive RefreshEvent
  | begun
  | complete
  | timeout
deriving DecidableEq

/-- Every report directly follows a successful `begin_refresh`: no refresh is
reported more than once, and none that was not begun. -/
def ReportedOnce (log : List RefreshEvent) : Prop :=
  ∀ before report after, log = before ++ report :: after → report ≠ .begun →
    before.getLast? = some .begun

lemma reportedOnce_nil : ReportedOnce [] := by
  intro before report after h
  simp at h

lemma ReportedOnce.concat {log : List RefreshEvent} (h : ReportedOnce log) {ev : RefreshEvent}
    (hev : ev ≠ .begun → log.getLast? = some .begun) : ReportedOnce (log ++ [ev]) := by
  intro before report after hsplit hreport
  rcases List.eq_nil_or_concat after with rfl | ⟨after, last, rfl⟩
  · obtain ⟨rfl, rfl⟩ : log = before ∧ ev = report := by
      simpa using List.append_inj' hsplit rfl
    exact hev hreport
  · rw [List.concat_eq_append, ← List.cons_append, ← List.append_assoc] at hsplit
    exact h before report after (List.append_inj' hsplit rfl).1 hreport

namespace Recorder

variable {β ω : Type} [OpenDisplayBackend β] [PanelWorld β ω]

/-- The successful `begin_refresh` calls so far. -/
def refreshesBegun {β : Type} (r : Recorder β) : ℕ := r.calls.count (.beginRefresh .ok)

@[simp] lemma refreshesBegun_beginFrame (r : Recorder β) (f : FrameDescriptor) :
    (beginFrame r f).2.refreshesBegun = r.refreshesBegun := by
  simp [refreshesBegun]

@[simp] lemma refreshesBegun_writeContiguous (r : Recorder β) (o : UInt32) (d : List UInt8) :
    (writeContiguous r o d).2.refreshesBegun = r.refreshesBegun := by
  simp [refreshesBegun]

@[simp] lemma refreshesBegun_finishFrame (r : Recorder β) :
    (finishFrame r).2.refreshesBegun = r.refreshesBegun := by
  simp [refreshesBegun]

@[simp] lemma refreshesBegun_pollRefresh (r : Recorder β) :
    (pollRefresh r).2.refreshesBegun = r.refreshesBegun := by
  simp [refreshesBegun]

@[simp] lemma refreshesBegun_abortTransfer (r : Recorder β) :
    (abortTransfer r).refreshesBegun = r.refreshesBegun := by
  simp [refreshesBegun]

lemma refreshesBegun_of_beginRefresh_ok {r : Recorder β} {q : RefreshRequest}
    (h : (beginRefresh r q).1 = .ok) :
    (beginRefresh r q).2.refreshesBegun = r.refreshesBegun + 1 := by
  simp [refreshesBegun, h]

lemma refreshesBegun_of_beginRefresh_ne {r : Recorder β} {q : RefreshRequest}
    (h : (beginRefresh r q).1 ≠ .ok) :
    (beginRefresh r q).2.refreshesBegun = r.refreshesBegun := by
  simp [refreshesBegun, h]

end Recorder

namespace TransferEngine

variable {β ω : Type} [OpenDisplayBackend β] [PanelWorld β ω]
  {e e' : TransferEngine (Recorder β)}

/-- The refreshes that an operation begins and the reports it makes. -/
def refreshEvents (e : TransferEngine (Recorder β)) (op : EngineOp ω) : List RefreshEvent :=
  List.replicate ((e.step op).backend.refreshesBegun - e.backend.refreshesBegun) .begun ++
    (if (e.perform op).1.refreshComplete then [.complete] else []) ++
    (if (e.perform op).1.refreshTimeout then [.timeout] else [])

/-- What an operation does to refreshes: it begins one and is refreshing afterwards,
or reports the one that was refreshing, or neither. -/
inductive RefreshMove (e : TransferEngine (Recorder β)) (res : EngineResult)
    (e' : TransferEngine (Recorder β)) : Prop
  | quiet (hbegun : e'.backend.refreshesBegun = e.backend.refreshesBegun)
      (hcomplete : res.refreshComplete = false) (htimeout : res.refreshTimeout = false)
      (hstate : e'.txn.state = .refreshing → e.txn.state = .refreshing)
  | began (hbegun : e'.backend.refreshesBegun = e.backend.refreshesBegun + 1)
      (hcomplete : res.refreshComplete = false) (htimeout : res.refreshTimeout = false)
  | reported (hbegun : e'.backend.refreshesBegun = e.backend.refreshesBegun)
      (hone : res.refreshComplete = !res.refreshTimeout) (hbefore : e.txn.state = .refreshing)
      (hafter : e'.txn.state = .idle)

@[simp] lemma refreshesBegun_abort (e : TransferEngine (Recorder β)) (error : ErrorCode) :
    (e.abort error).backend.refreshesBegun = e.backend.refreshesBegun := by
  unfold abort; split_ifs <;> simp

lemma BeginOutcome.refreshMove {mode : TransferMode} {total now : UInt32}
    {why : Option ErrorCode} (hbegin : BeginOutcome e mode total now why e') :
    e'.backend.refreshesBegun = e.backend.refreshesBegun ∧
      (e'.txn.state = .refreshing → e.txn.state = .refreshing) := by
  have hcleared : e.cleared.backend.refreshesBegun = e.backend.refreshesBegun ∧
      (e.cleared.txn.state = .refreshing → e.txn.state = .refreshing) := by
    unfold cleared
    split_ifs <;> simp
  cases hbegin with
  | busy => exact ⟨rfl, id⟩
  | sizeMismatch => exact hcleared
  | beginFailed => exact ⟨by simpa using hcleared.1, fun h => nomatch h⟩
  | opened => exact ⟨by simpa using hcleared.1, fun h => nomatch h⟩

lemma FinishOutcome.refreshMove {endOpcode : UInt16} {now : UInt32} {res : EngineResult}
    (hfinish : FinishOutcome e endOpcode now res e') : RefreshMove e res e' := by
  cases hfinish with
  | incomplete => exact .quiet (by simp) rfl rfl (by simp)
  | finishFailed => exact .quiet (by simp) rfl rfl (by simp)
  | refreshFailed _ _ hanswer =>
      exact .quiet (by simp [Recorder.refreshesBegun_of_beginRefresh_ne hanswer]) rfl rfl (by simp)
  | refreshing _ _ hanswer =>
      exact .began (by simp [Recorder.refreshesBegun_of_beginRefresh_ok hanswer]) rfl rfl

omit [OpenDisplayBackend β] in
/-- Staging a SACK is not seen by the refreshes. -/
lemma RefreshMove.of_stage {e₁ : TransferEngine (Recorder β)} {res : EngineResult}
    (h : RefreshMove e₁ res e') (hbegun : e₁.backend.refreshesBegun = e.backend.refreshesBegun)
    (hstate : e₁.txn.state = e.txn.state) : RefreshMove e res e' := by
  cases h with
  | quiet hb hc ht hs => exact .quiet (hb.trans hbegun) hc ht fun h => hstate ▸ hs h
  | began hb hc ht => exact .began (by rw [hb, hbegun]) hc ht
  | reported hb hone hbefore hafter =>
      exact .reported (hb.trans hbegun) hone (hstate ▸ hbefore) hafter

lemma onDirectStart_refreshMove (e : TransferEngine (Recorder β)) (p : Payload) (now : UInt32) :
    RefreshMove e (e.onDirectStart p now).1 (e.onDirectStart p now).2 := by
  have ho := onDirectStart_outcome e p now
  generalize (e.onDirectStart p now).1 = res, (e.onDirectStart p now).2 = e₁ at ho ⊢
  cases ho with
  | compressed => exact .quiet rfl rfl rfl id
  | refused _ _ _ hbegin => exact .quiet hbegin.refreshMove.1 rfl rfl hbegin.refreshMove.2
  | started _ _ hbegin => exact .quiet hbegin.refreshMove.1 rfl rfl hbegin.refreshMove.2

lemma onPipeStart_refreshMove (e : TransferEngine (Recorder β)) (p : Payload) (now : UInt32) :
    RefreshMove e (e.onPipeStart p now).1 (e.onPipeStart p now).2 := by
  have ho := onPipeStart_outcome e p now
  generalize (e.onPipeStart p now).1 = res, (e.onPipeStart p now).2 = e₁ at ho ⊢
  cases ho with
  | badHeader | compressed => exact .quiet rfl rfl rfl id
  | refused _ _ _ _ _ hbegin => exact .quiet hbegin.refreshMove.1 rfl rfl hbegin.refreshMove.2
  | started _ _ _ _ hbegin => exact .quiet hbegin.refreshMove.1 rfl rfl hbegin.refreshMove.2

lemma onDirectData_refreshMove (e : TransferEngine (Recorder β)) (p : Payload) (now : UInt32) :
    RefreshMove e (e.onDirectData p now).1 (e.onDirectData p now).2 := by
  have ho := onDirectData_outcome e p now
  generalize (e.onDirectData p now).1 = res, (e.onDirectData p now).2 = e₁ at ho ⊢
  cases ho with
  | misplaced => exact .quiet rfl rfl rfl id
  | malformed | oversize | writeFailed => exact .quiet (by simp) rfl rfl (by simp)
  | accepted => exact .quiet (by simp [acceptDirect]) rfl rfl id

lemma onPipeData_refreshMove (e : TransferEngine (Recorder β)) (p : Payload) (now : UInt32) :
    RefreshMove e (e.onPipeData p now).1 (e.onPipeData p now).2 := by
  have ho := onPipeData_outcome e p now
  generalize (e.onPipeData p now).1 = res, (e.onPipeData p now).2 = e₁ at ho ⊢
  cases ho with
  | latched | misplaced | outOfOrder => exact .quiet rfl rfl rfl id
  | malformed | oversize | writeFailed => exact .quiet (by simp) rfl rfl (by simp)
  | accepted _ _ _ _ _ _ _ _ hchunk =>
      cases hchunk with
      | completed _ _ _ hfinish =>
          exact hfinish.refreshMove.of_stage (by simp [pipeAccepted, acceptPipe, stageTailSack]) rfl
      | sacked | silent => exact .quiet (by simp [pipeAccepted, acceptPipe]) rfl rfl id

lemma tick_refreshMove (e : TransferEngine (Recorder β)) (now : UInt32) :
    RefreshMove e (e.tick now).1 (e.tick now).2 := by
  have ho := tick_outcome e now
  generalize (e.tick now).1 = res, (e.tick now).2 = e₁ at ho ⊢
  have hpolled : ∀ {e₁}, Polled e e₁ →
      e₁.backend.refreshesBegun = e.backend.refreshesBegun ∧ e₁.txn = e.txn := by
    intro e₁ hp
    cases hp with
    | free => exact ⟨rfl, rfl⟩
    | pending => exact ⟨by simp, rfl⟩
  cases ho with
  | complete _ _ hstate => exact .reported (by simp) rfl hstate rfl
  | failed _ _ hstate => exact .quiet (by simp) rfl rfl (fun h => nomatch h)
  | released => exact .quiet (by simp) rfl rfl id
  | waiting _ hp => exact .quiet (hpolled hp).1 rfl rfl (by rw [(hpolled hp).2]; exact id)
  | transferTimeout _ hp => exact .quiet (by simp [(hpolled hp).1]) rfl rfl (by simp)
  | refreshTimeout _ hp hexpired =>
      exact .reported (by simp [(hpolled hp).1]) rfl (by rw [← (hpolled hp).2]; exact hexpired.1)
        (by simp)

/-- **Every operation makes one of the three moves.** -/
theorem perform_refreshMove (e : TransferEngine (Recorder β)) (op : EngineOp ω) :
    RefreshMove e (e.perform op).1 (e.step op) := by
  cases op with
  | directStart p now => exact onDirectStart_refreshMove e p now
  | directData p now => exact onDirectData_refreshMove e p now
  | directEnd p now =>
      have ho := onDirectEnd_outcome e p now
      simp only [step, perform]
      generalize (e.onDirectEnd p now).1 = res, (e.onDirectEnd p now).2 = e₁ at ho ⊢
      cases ho with
      | misplaced => exact .quiet rfl rfl rfl id
      | finished _ _ _ _ hfinish => exact hfinish.refreshMove
  | pipeStart p now => exact onPipeStart_refreshMove e p now
  | pipeData p now => exact onPipeData_refreshMove e p now
  | pipeEnd p now =>
      have ho := onPipeEnd_outcome e p now
      simp only [step, perform]
      generalize (e.onPipeEnd p now).1 = res, (e.onPipeEnd p now).2 = e₁ at ho ⊢
      cases ho with
      | misplaced => exact .quiet rfl rfl rfl id
      | flushed _ _ _ _ hfinish => exact hfinish.refreshMove.of_stage rfl rfl
      | finished _ _ _ _ hfinish => exact hfinish.refreshMove
  | tick now => exact tick_refreshMove e now
  | abort error =>
      exact .quiet (by simp [step, perform]) rfl rfl (by simp [step, perform])
  | disconnect gen =>
      have ho := onDisconnect_outcome e gen
      simp only [step, perform]
      generalize e.onDisconnect gen = e₁ at ho ⊢
      cases ho with
      | ignored => exact .quiet rfl rfl rfl id
      | aborted => exact .quiet (by simp) rfl rfl (by simp)
  | setConnectionGeneration => exact .quiet rfl rfl rfl id
  | takeTailSack =>
      simp only [step, perform, TransferEngine.takeTailSack]
      split_ifs <;> exact .quiet rfl rfl rfl id
  | world => exact .quiet rfl rfl rfl id

/-- The reports so far are in order, and a refresh that goes on is the last entry. -/
structure RefreshLog {β : Type} (log : List RefreshEvent) (e : TransferEngine (Recorder β)) :
    Prop where
  once : ReportedOnce log
  last : e.txn.state = .refreshing → log.getLast? = some .begun

lemma RefreshLog.step {log : List RefreshEvent} (h : RefreshLog log e) (op : EngineOp ω) :
    RefreshLog (log ++ e.refreshEvents op) (e.step op) := by
  have hmove := e.perform_refreshMove op
  rw [refreshEvents]
  cases hmove with
  | quiet hbegun hcomplete htimeout hstate =>
      simpa [hbegun, hcomplete, htimeout] using
        (⟨h.once, fun hs => h.last (hstate hs)⟩ : RefreshLog log (e.step op))
  | began hbegun hcomplete htimeout =>
      simpa [hbegun, hcomplete, htimeout] using
        (⟨h.once.concat (by simp), fun _ => by simp⟩ : RefreshLog (log ++ [.begun]) (e.step op))
  | reported hbegun hone hbefore hafter =>
      have hidle : ¬ (e.step op).txn.state = .refreshing := by rw [hafter]; decide
      have hlog : ∀ report, RefreshLog (log ++ [report]) (e.step op) := fun report =>
        ⟨h.once.concat fun _ => h.last hbefore, fun hs => absurd hs hidle⟩
      rcases htimeout : (e.perform op).1.refreshTimeout with _ | _
      · simpa [hbegun, hone, htimeout] using hlog .complete
      · simpa [hbegun, hone, htimeout] using hlog .timeout

/-! ### The frame -/

/-- The calls end with a whole frame: `begin_frame`, writes that tile `full` bytes in
increasing order and carry `chunks`, one `finish_frame`, one `begin_refresh`, and
polls of which only the last one, which closes the trace, answers `COMPLETE`. -/
def WholeFrame (full : UInt32) (chunks : List (List UInt8)) (calls : List BackendCall) : Prop :=
  ∃ (past : List BackendCall) (frame : FrameDescriptor) (writes : List (UInt32 × List UInt8))
    (polls : ℕ), frame.totalBytes = full ∧
    calls = past ++ .beginFrame frame .ok ::
      (writes.map (fun w => .writeContiguous w.1 w.2 .ok) ++
        [.finishFrame .ok, .beginRefresh .ok] ++ List.replicate polls (.pollRefresh .pending) ++
        [.pollRefresh .complete]) ∧
    Blocks.Tiles 0 full.toNat (writes.map fun w => (w.1.toNat, w.2.length)) ∧
    writes.map Prod.snd = chunks

/-- The transfer is for a full frame of a panel whose capabilities are `caps`. -/
structure Sized {β : Type} [OpenDisplayBackend β] (caps : DisplayCapabilities) (t : Transfer)
    (e : TransferEngine β) : Prop where
  caps_eq : capabilities e.backend = caps
  full_eq : t.mode ≠ .none → t.full = caps.fullFrameBytes

lemma Sized.step {β : Type} [OpenDisplayBackend β] [PanelWorld β ω] [FixedCapabilities β]
    {caps : DisplayCapabilities} {t : Transfer} {e : TransferEngine β} (h : Sized caps t e)
    (op : EngineOp ω) : Sized caps (watchTransfer t e op) (e.step op) where
  caps_eq := step_backend (FixedCapabilities.fixed caps) h.caps_eq op
  full_eq := by
    have hopened : ∀ mode, (e.openedTransfer mode).full = caps.fullFrameBytes := fun mode => by
      rw [openedTransfer, cleared_backend (FixedCapabilities.fixed caps).toQuietInvariant h.caps_eq]
    cases op with
    | directStart | pipeStart =>
        rw [watchTransfer]
        split_ifs
        · exact fun _ => hopened _
        · exact h.full_eq
    | directData | pipeData =>
        rw [watchTransfer]
        split_ifs <;> exact h.full_eq
    | _ => exact h.full_eq

/-- The poll that completes a refresh is the tick's own call, and its only one. -/
lemma polled_of_refreshComplete {now : UInt32} (hdone : (e.tick now).1.refreshComplete = true) :
    (e.tick now).2.backend.calls = e.backend.calls ++ [.pollRefresh .complete] := by
  have ho := tick_outcome e now
  generalize e.tick now = r at ho hdone ⊢
  obtain ⟨res, e₁⟩ := r
  cases ho with
  | complete _ hpoll _ => simp [hpoll]
  | failed | released | waiting | transferTimeout | refreshTimeout => cases hdone

/-- A complete refresh is the refresh of a whole frame. -/
lemma wholeFrame_of_refreshComplete {caps : DisplayCapabilities} {t : Transfer}
    (hled : Ledger t e) (htr : Traced t e) (hsize : Sized caps t e) {now : UInt32}
    (hdone : (e.tick now).1.refreshComplete = true) :
    WholeFrame caps.fullFrameBytes t.chunks (e.tick now).2.backend.calls := by
  have ho := tick_outcome e now
  generalize e.tick now = r at ho hdone ⊢
  obtain ⟨res, e₁⟩ := r
  cases ho with
  | complete hw hpoll hstate =>
      obtain ⟨past, polls, hcalls⟩ := htr.calls_of_refreshing hstate
      cases hled with
      | idle htxn => rw [htxn] at hstate; cases hstate
      | receiving hreceiving => rw [hreceiving] at hstate; cases hstate
      | refreshing _ _ hbook hfull =>
          have hmode : t.mode ≠ .none := by rcases hbook.mode_ne with h | h <;> simp [h]
          have hcaps : t.full = caps.fullFrameBytes := hsize.full_eq hmode
          rw [hbook.expected_eq, hcaps] at hfull
          obtain ⟨writes, hwrites, htiles, hchunks⟩ := t.writes_tile hfull
          refine ⟨past, e.txn.frame, writes, polls, hbook.total_eq.trans hcaps, ?_, htiles, hchunks⟩
          simp [hpoll, hcalls, hwrites]
  | failed | released | waiting | transferTimeout | refreshTimeout => cases hdone

/-! ### Runs -/

/-- What a run has done so far: the transfer it is in, and the refreshes and reports. -/
structure History where
  transfer : Transfer := {}
  refreshes : List RefreshEvent := []

/-- The monitor of a run. -/
def watchHistory (h : History) (e : TransferEngine (Recorder β)) (op : EngineOp ω) : History where
  transfer := watchTransfer h.transfer e op
  refreshes := h.refreshes ++ e.refreshEvents op

/-- What holds along every run. -/
structure HistoryInv (caps : DisplayCapabilities) (s : History × TransferEngine (Recorder β)) :
    Prop where
  ledger : Ledger s.1.transfer s.2
  traced : Traced s.1.transfer s.2
  sized : Sized caps s.1.transfer s.2
  log : RefreshLog s.1.refreshes s.2

lemma HistoryInv.step [FixedCapabilities β] {caps : DisplayCapabilities}
    {s : History × TransferEngine (Recorder β)} (h : HistoryInv caps s) (op : EngineOp ω) :
    HistoryInv caps (Machine.monitored step watchHistory s op) where
  ledger := h.ledger.step op
  traced := h.traced.step h.ledger op
  sized := h.sized.step op
  log := h.log.step op

/-- **Refresh-complete is honest.**  Over every run, with any answers of a backend
with fixed capabilities, a tick that reports a complete refresh ends the trace of a
whole frame, made of the chunks accepted since START, with its own poll; and no refresh
is ever reported twice. -/
theorem refreshComplete_honest [FixedCapabilities β] (b : β) (transferMs refreshMs : UInt32)
    (ops : List (EngineOp ω)) :
    let s := Machine.exec (Machine.monitored step watchHistory)
      (({} : History), init (Recorder.fresh b) transferMs refreshMs) ops
    (∀ now, (s.2.tick now).1.refreshComplete = true →
      WholeFrame (capabilities b).fullFrameBytes s.1.transfer.chunks
          (s.2.tick now).2.backend.calls ∧
        (s.2.tick now).2.backend.calls = s.2.backend.calls ++ [.pollRefresh .complete]) ∧
    ReportedOnce s.1.refreshes := by
  intro s
  have hinit : HistoryInv (capabilities b)
      (({} : History), init (Recorder.fresh b) transferMs refreshMs) :=
    ⟨ledger_init _ _ _ _, .of_txn_eq rfl, ⟨rfl, fun h => absurd rfl h⟩,
      ⟨reportedOnce_nil, fun h => nomatch h⟩⟩
  have hinv : HistoryInv (capabilities b) s :=
    Machine.exec_invariant (I := HistoryInv (capabilities b)) (fun _ op h => h.step op) hinit ops
  exact ⟨fun now hdone =>
    ⟨wholeFrame_of_refreshComplete hinv.ledger hinv.traced hinv.sized hdone,
      polled_of_refreshComplete hdone⟩, hinv.log.once⟩

/-- A direct transfer of three bytes in two packets, and one tick that waits. -/
def directTransfer : List (EngineOp Unit) :=
  [.directStart (.ofBytes []) 0, .directData (.ofBytes [7, 8]) 1, .directData (.ofBytes [9]) 2,
    .directEnd (.ofBytes []) 3, .tick 4]

theorem refreshComplete_honest_directTransfer :
    let s := Machine.exec (Machine.monitored step watchHistory)
      (({} : History), init (Recorder.fresh (ScriptedPanel.accepting 3 [.pending, .complete]))
        30000 180000) directTransfer
    (s.2.tick 5).1.refreshComplete = true ∧
      WholeFrame 3 [[7, 8], [9]] (s.2.tick 5).2.backend.calls ∧
      s.1.refreshes = [.begun] :=
  have hdone : ((Machine.exec (Machine.monitored step watchHistory)
      (({} : History), init (Recorder.fresh (ScriptedPanel.accepting 3 [.pending, .complete]))
        30000 180000) directTransfer).2.tick 5).1.refreshComplete = true := by decide
  ⟨hdone, ((refreshComplete_honest (ScriptedPanel.accepting 3 [.pending, .complete])
    30000 180000 directTransfer).1 5 hdone).1, by decide⟩

end TransferEngine

end OpenDisplay
