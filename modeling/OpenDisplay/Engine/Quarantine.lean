import OpenDisplay.Backend.Scripted
import OpenDisplay.Engine.Ledger
import OpenDisplay.Lib.Sections

/-!
# Hardware quarantine

A refresh that has begun occupies the panel until a poll says that it is done or has
failed, whatever becomes of the transfer in the meantime.  Over the recorded calls this
is a section: it opens at a `begin_refresh` that is answered `OK` and closes at a poll
that is not `PENDING`.  The ownership flag of the engine says at any time whether such a
section is open; START tests it, and every other call that drives the panel is made for
a transfer that receives, which the ledger keeps apart from an owned panel.
-/

namespace OpenDisplay

open OpenDisplayBackend

namespace BackendCall

/-- The call writes to the panel or to its frame. -/
def Drives : BackendCall → Prop
  | .beginFrame .. | .writeContiguous .. | .finishFrame _ | .beginRefresh _ => True
  | .pollRefresh _ | .abortTransfer => False

/-- A refresh begins. -/
def begins : BackendCall → Bool
  | .beginRefresh answer => answer = .ok
  | _ => false

/-- A refresh is reported to have ended. -/
def ends : BackendCall → Bool
  | .pollRefresh answer => answer ≠ .pending
  | _ => false

end BackendCall

namespace TransferEngine

variable {β ω : Type} [OpenDisplayBackend β] [PanelWorld β ω] {t : Transfer}
  {e e' : TransferEngine (Recorder β)}

/-- Nothing has driven the panel while it was refreshing, and the ownership flag says
whether it is. -/
structure Quarantined {β : Type} (e : TransferEngine (Recorder β)) : Prop where
  outside : Sections.Outside BackendCall.begins BackendCall.ends BackendCall.Drives
    e.backend.calls
  owned_eq : e.hwOwned = Sections.isOpen BackendCall.begins BackendCall.ends e.backend.calls

section Calls

omit [OpenDisplayBackend β] [PanelWorld β ω]

/-- The quarantine reads only the calls and the ownership flag. -/
lemma Quarantined.congr (h : Quarantined e) (hcalls : e'.backend.calls = e.backend.calls)
    (hw : e'.hwOwned = e.hwOwned) : Quarantined e' :=
  ⟨by rw [hcalls]; exact h.outside, by rw [hw, hcalls]; exact h.owned_eq⟩

/-- One more call: it may drive the panel only if that is free. -/
lemma Quarantined.call (h : Quarantined e) {call : BackendCall}
    (hcalls : e'.backend.calls = e.backend.calls ++ [call])
    (hdrives : call.Drives → e.hwOwned = false)
    (hw : e'.hwOwned = (call.begins || (e.hwOwned && !call.ends))) : Quarantined e' where
  outside := by
    rw [hcalls]
    exact h.outside.concat fun hcall => h.owned_eq.symm.trans (hdrives hcall)
  owned_eq := by rw [hw, hcalls, Sections.isOpen_concat, h.owned_eq]

end Calls

/-! ### One step -/

lemma Quarantined.abort (h : Quarantined e) (error : ErrorCode) :
    Quarantined (e.abort error) := by
  by_cases hidle : e.txn.state = .idle
  · exact h.congr (by rw [abort_backend_of_idle _ _ hidle]) (by simp)
  · refine h.call (?_ : _ = _ ++ [BackendCall.abortTransfer]) (fun hcall => hcall.elim) ?_
    · rw [abort_backend_of_active _ _ hidle, Recorder.calls_abortTransfer]
    · simp [BackendCall.begins, BackendCall.ends]

lemma Quarantined.cleared (h : Quarantined e) : Quarantined e.cleared := by
  unfold TransferEngine.cleared
  split_ifs
  · exact h.abort _
  · exact h

lemma Quarantined.begin (h : Quarantined e) {mode : TransferMode} {total now : UInt32}
    {why : Option ErrorCode} (hbegin : BeginOutcome e mode total now why e') :
    Quarantined e' := by
  cases hbegin with
  | busy => exact h
  | sizeMismatch => exact h.cleared
  | beginFailed hw | opened hw =>
      have hfree : e.cleared.hwOwned = false := by simpa using hw
      exact h.cleared.call rfl (fun _ => hfree) (by simp [BackendCall.begins, BackendCall.ends])

/-- The end of a transfer: the panel is taken if the refresh begins. -/
lemma Quarantined.finish (h : Quarantined e) (hw : e.hwOwned = false) {endOpcode : UInt16}
    {now : UInt32} {res : EngineResult} (hfinish : FinishOutcome e endOpcode now res e') :
    Quarantined e' := by
  have hfinished : Quarantined { e with backend := (finishFrame e.backend).2 } :=
    h.call (Recorder.calls_finishFrame _) (fun _ => hw)
      (by simp [BackendCall.begins, BackendCall.ends])
  cases hfinish with
  | incomplete => apply Quarantined.abort; exact h.congr rfl rfl
  | finishFailed => apply Quarantined.abort; exact hfinished.congr rfl rfl
  | refreshFailed _ _ hanswer =>
      refine Quarantined.abort (hfinished.call (Recorder.calls_beginRefresh _ _) (fun _ => hw) ?_) _
      simp only [BackendCall.begins, hanswer, hw]
      rfl
  | refreshing _ _ hanswer =>
      refine hfinished.call (Recorder.calls_beginRefresh _ _) (fun _ => hw) ?_
      simp only [BackendCall.begins, hanswer]
      rfl

lemma Quarantined.wrote (h : Quarantined e) (hw : e.hwOwned = false) (offset : UInt32)
    (data : List UInt8) :
    Quarantined { e with backend := (writeContiguous e.backend offset data).2 } :=
  h.call (Recorder.calls_writeContiguous _ _ _) (fun _ => hw)
    (by simp [BackendCall.begins, BackendCall.ends])

lemma Quarantined.directData (h : Quarantined e) (hled : Ledger t e) (p : Payload)
    (now : UInt32) : Quarantined (e.onDirectData p now).2 := by
  have ho := onDirectData_outcome e p now
  generalize (e.onDirectData p now).1 = res, (e.onDirectData p now).2 = e₁ at ho ⊢
  cases ho with
  | misplaced => exact h.congr rfl rfl
  | malformed | oversize => exact h.abort _
  | writeFailed hstate =>
      have hwrote := h.wrote (hled.book_of_receiving hstate).1 e.txn.nextDirectOffset p.bytes
      apply Quarantined.abort; exact hwrote.congr rfl rfl
  | accepted hstate =>
      have hwrote := h.wrote (hled.book_of_receiving hstate).1 e.txn.nextDirectOffset p.bytes
      exact hwrote.congr rfl rfl

lemma Quarantined.pipeData (h : Quarantined e) (hled : Ledger t e) (p : Payload)
    (now : UInt32) : Quarantined (e.onPipeData p now).2 := by
  have ho := onPipeData_outcome e p now
  generalize (e.onPipeData p now).1 = res, (e.onPipeData p now).2 = e₁ at ho ⊢
  cases ho with
  | latched => exact h
  | misplaced | outOfOrder => exact h.congr rfl rfl
  | malformed | oversize => apply Quarantined.abort; exact h.congr rfl rfl
  | writeFailed _ hplace data =>
      have hwrote := h.wrote (hled.book_of_receiving hplace.1).1 e.txn.acceptedBytes data
      apply Quarantined.abort; exact hwrote.congr rfl rfl
  | accepted _ hplace data _ _ _ _ _ hchunk =>
      have hfree := (hled.book_of_receiving hplace.1).1
      have hwrote := h.wrote hfree e.txn.acceptedBytes data
      cases hchunk with
      | completed _ _ _ hfinish =>
          have hstaged : Quarantined
              (e.pipeAccepted e.txn.nextPipeSequence data now).stageTailSack :=
            hwrote.congr rfl rfl
          exact hstaged.finish hfree hfinish
      | sacked | silent => exact hwrote.congr rfl rfl

lemma Quarantined.polled (h : Quarantined e) (hpolled : Polled e e') : Quarantined e' := by
  cases hpolled with
  | free => exact h
  | pending hw hpoll =>
      refine h.call (Recorder.calls_pollRefresh _) (fun hcall => hcall.elim) ?_
      simp only [BackendCall.begins, BackendCall.ends, hpoll, hw]
      rfl

/-- A poll that ends the refresh gives the panel back. -/
lemma Quarantined.released (h : Quarantined e)
    (hpoll : (pollRefresh e.backend).1 ≠ .pending) :
    Quarantined { e with backend := (pollRefresh e.backend).2, hwOwned := false } := by
  refine h.call (Recorder.calls_pollRefresh _) (fun hcall => hcall.elim) ?_
  simp [BackendCall.begins, BackendCall.ends, hpoll]

lemma Quarantined.tick (h : Quarantined e) (now : UInt32) : Quarantined (e.tick now).2 := by
  have ho := tick_outcome e now
  generalize (e.tick now).1 = res, (e.tick now).2 = e₁ at ho ⊢
  cases ho with
  | complete _ hpoll | failed _ hpoll =>
      exact (h.released (by rw [hpoll]; decide)).congr rfl rfl
  | released _ hpoll => exact h.released hpoll
  | waiting _ hp => exact h.polled hp
  | transferTimeout _ hp => exact (h.polled hp).abort _
  | refreshTimeout _ hp => apply Quarantined.abort; exact (h.polled hp).congr rfl rfl

/-- **Every operation keeps the quarantine.** -/
theorem Quarantined.step (h : Quarantined e) (hled : Ledger t e) (op : EngineOp ω) :
    Quarantined (e.step op) := by
  cases op with
  | directStart p now =>
      have ho := onDirectStart_outcome e p now
      simp only [TransferEngine.step, perform]
      generalize (e.onDirectStart p now).1 = res, (e.onDirectStart p now).2 = e₁ at ho ⊢
      cases ho with
      | compressed => exact h.congr rfl rfl
      | refused _ _ _ hbegin => exact (h.begin hbegin).congr rfl rfl
      | started _ _ hbegin => exact h.begin hbegin
  | directData p now => exact h.directData hled p now
  | directEnd p now =>
      have ho := onDirectEnd_outcome e p now
      simp only [TransferEngine.step, perform]
      generalize (e.onDirectEnd p now).1 = res, (e.onDirectEnd p now).2 = e₁ at ho ⊢
      cases ho with
      | misplaced => exact h.congr rfl rfl
      | finished hstate _ _ _ hfinish => exact h.finish (hled.book_of_receiving hstate).1 hfinish
  | pipeStart p now =>
      have ho := onPipeStart_outcome e p now
      simp only [TransferEngine.step, perform]
      generalize (e.onPipeStart p now).1 = res, (e.onPipeStart p now).2 = e₁ at ho ⊢
      cases ho with
      | badHeader | compressed => exact h.congr rfl rfl
      | refused _ _ _ _ _ hbegin | started _ _ _ _ hbegin => exact (h.begin hbegin).congr rfl rfl
  | pipeData p now => exact h.pipeData hled p now
  | pipeEnd p now =>
      have ho := onPipeEnd_outcome e p now
      simp only [TransferEngine.step, perform]
      generalize (e.onPipeEnd p now).1 = res, (e.onPipeEnd p now).2 = e₁ at ho ⊢
      cases ho with
      | misplaced => exact h.congr rfl rfl
      | flushed hplace _ _ _ hfinish =>
          have hfree := (hled.book_of_receiving hplace.1).1
          have hstaged : Quarantined e.stageTailSack := h.congr rfl rfl
          exact hstaged.finish hfree hfinish
      | finished hplace _ _ _ hfinish =>
          exact h.finish (hled.book_of_receiving hplace.1).1 hfinish
  | tick now => exact h.tick now
  | abort error => exact h.abort error
  | disconnect gen =>
      have ho := onDisconnect_outcome e gen
      simp only [TransferEngine.step, perform]
      generalize e.onDisconnect gen = e₁ at ho ⊢
      cases ho with
      | ignored => exact h
      | aborted => exact h.abort _
  | setConnectionGeneration | world => exact h.congr rfl rfl
  | takeTailSack =>
      exact h.congr (by simp [TransferEngine.step, perform])
        (by simp [TransferEngine.step, perform])

/-! ### Runs -/

/-- **Hardware quarantine.**  Over every run, with any answers of the backend: after a
`begin_refresh` that is answered `OK` and up to the first poll that is not `PENDING`, no
call drives the panel; and as long as there has been no such poll the engine is busy. -/
theorem quarantine_exec (b : β) (transferMs refreshMs : UInt32) (ops : List (EngineOp ω)) :
    let e := Machine.exec step (init (Recorder.fresh b) transferMs refreshMs) ops
    ∀ past during after : List BackendCall,
      e.backend.calls = past ++ .beginRefresh .ok :: (during ++ after) →
      (∀ answer, .pollRefresh answer ∈ during → answer = .pending) →
      (∀ call ∈ during, ¬ call.Drives) ∧ (after = [] → e.isBusy = true) := by
  intro e past during after hcalls hpending
  have hquar : Quarantined e := by
    have hrun : Quarantined (Machine.exec tracked
        (({} : Transfer), init (Recorder.fresh b) transferMs refreshMs) ops).2 :=
      (Machine.exec_invariant
        (I := fun s : Transfer × TransferEngine (Recorder β) => Ledger s.1 s.2 ∧ Quarantined s.2)
        (fun _ op h => ⟨h.1.step op, h.2.step h.1 op⟩)
        ⟨ledger_init _ _ _ _, ⟨Sections.outside_nil, rfl⟩⟩ ops).2
    rwa [Machine.exec_monitored_snd] at hrun
  have hduring : ∀ call ∈ during, call.ends = false := by
    intro call hcall
    cases call with
    | pollRefresh answer => simp [BackendCall.ends, hpending answer hcall]
    | _ => rfl
  refine ⟨?_, ?_⟩
  · have houtside := hquar.outside
    rw [hcalls] at houtside
    exact houtside.not_uses rfl hduring
  · rintro rfl
    rw [List.append_nil] at hcalls
    have hopen : Sections.isOpen BackendCall.begins BackendCall.ends
        (past ++ .beginRefresh .ok :: during) = true := Sections.isOpen_of_opened rfl hduring
    rw [← hcalls, ← hquar.owned_eq] at hopen
    rw [isBusy, hopen, Bool.or_true]

/-- A refresh that is aborted while it runs, and the START and the tick after it. -/
def abandonedRefresh : List (EngineOp Unit) :=
  [.directStart (.ofBytes []) 0, .directData (.ofBytes [7, 8, 9]) 1, .directEnd (.ofBytes []) 2,
    .abort .disconnected, .pipeStart (.ofBytes [1, 0, 1, 1, 244, 0, 3, 0, 0, 0]) 3, .tick 4]

theorem quarantine_exec_abandonedRefresh :
    let e := Machine.exec step
      (init (Recorder.fresh (ScriptedPanel.accepting 3 [])) 30000 180000) abandonedRefresh
    let past : List BackendCall := [.beginFrame { totalBytes := 3 } .ok,
      .writeContiguous 0 [7, 8, 9] .ok, .finishFrame .ok]
    let during : List BackendCall := [.abortTransfer, .pollRefresh .pending]
    e.backend.calls = past ++ .beginRefresh .ok :: (during ++ []) ∧
      (∀ call ∈ during, ¬ call.Drives) ∧ e.isBusy = true :=
  have hcalls : (Machine.exec step
      (init (Recorder.fresh (ScriptedPanel.accepting 3 [])) 30000 180000)
        abandonedRefresh).backend.calls =
      [.beginFrame { totalBytes := 3 } .ok, .writeContiguous 0 [7, 8, 9] .ok, .finishFrame .ok] ++
        .beginRefresh .ok :: ([.abortTransfer, .pollRefresh .pending] ++ []) := by decide +kernel
  have h := quarantine_exec (ScriptedPanel.accepting 3 []) 30000 180000 abandonedRefresh _ _ _
    hcalls (by simp)
  ⟨hcalls, h.1, h.2 rfl⟩

end TransferEngine

end OpenDisplay
