import OpenDisplay.Engine.Outcome
import OpenDisplay.Lib.Machine

/-!
# The statistics account for every transfer

The counters of `TransferStats` against what can be seen of a run from outside: the results
that the engine returns and the calls that it makes on its backend.  The counters wrap, so
the accounts are kept modulo `2 ^ 32`.

The books are what the counters say beyond the calls made so far, and whether a transfer is
active.  An abort never shows in them: it counts the transfer as aborted, closes it and
makes the one `abort_transfer` call, all at once.  Nor does a call that fails, as its failure
is counted in the same step.  What an operation enters in the books is therefore read off
its result, but for two things that no result tells: that a poll found the refresh failed,
and that a chunk was out of its sequence.
-/

namespace OpenDisplay

open OpenDisplayBackend

/-! ### Calls that count -/

/-- A write that the panel took. -/
def BackendCall.isWritten : BackendCall → Bool
  | .writeContiguous _ _ answer => decide (answer = .ok)
  | _ => false

/-- A call that is counted as a failure of the backend: a START that fails is not. -/
def BackendCall.isFailure : BackendCall → Bool
  | .writeContiguous _ _ answer | .finishFrame answer | .beginRefresh answer =>
      decide (answer ≠ .ok)
  | _ => false

def BackendCall.isAbort : BackendCall → Bool
  | .abortTransfer => true
  | _ => false

/-- One for a thing that happened. -/
def tallyOne (b : Bool) : UInt32 := if b then 1 else 0

@[simp] lemma tallyOne_false : tallyOne false = 0 := rfl

@[simp] lemma tallyOne_true : tallyOne true = 1 := rfl

/-- So many things of a kind, as a counter shows them. -/
def tally {α : Type*} (p : α → Bool) (xs : List α) : UInt32 := .ofNat (xs.countP p)

@[simp] lemma tally_nil {α : Type*} (p : α → Bool) : tally p [] = 0 := rfl

@[simp] lemma tally_append {α : Type*} (p : α → Bool) (xs ys : List α) :
    tally p (xs ++ ys) = tally p xs + tally p ys := by
  rw [tally, List.countP_append, UInt32.ofNat_add]
  rfl

@[simp] lemma tally_cons {α : Type*} (p : α → Bool) (x : α) (xs : List α) :
    tally p (x :: xs) = tallyOne (p x) + tally p xs := by
  rw [tally, List.countP_cons, UInt32.ofNat_add, UInt32.add_comm]
  rcases h : p x with _ | _ <;> rfl

/-- The response acknowledges a direct chunk. -/
def isDirectAck (r : Response) : Bool := decide (r = encodeAck cmdDirectWriteData)

lemma not_isDirectAck {r : Response} (h : r.bytes ≠ [0x00, 0x71]) : isDirectAck r = false :=
  decide_eq_false fun heq => h (congrArg Response.bytes heq)

@[simp] lemma isDirectAck_empty : isDirectAck .empty = false := rfl

@[simp] lemma isDirectAck_encodeNack (opcode : UInt16) : isDirectAck (encodeNack opcode) = false :=
  not_isDirectAck (by simp [encodeNack, respNack])

@[simp] lemma isDirectAck_encodeNackErr (opcode : UInt16) (code : UInt8) :
    isDirectAck (encodeNackErr opcode code) = false :=
  not_isDirectAck (by simp [encodeNackErr])

@[simp] lemma isDirectAck_encodePipeSack (highestSeen : UInt8) (mask : UInt32) :
    isDirectAck (encodePipeSack highestSeen mask) = false :=
  not_isDirectAck (by simp [encodePipeSack])

@[simp] lemma isDirectAck_encodePipeNack (err highestSeen : UInt8) (mask : UInt32) :
    isDirectAck (encodePipeNack err highestSeen mask) = false :=
  not_isDirectAck (by simp [encodePipeNack])

@[simp] lemma isDirectAck_encodePipeStartResponse (window ackEvery : UInt8) (frame : UInt16)
    (flags : UInt8) : isDirectAck (encodePipeStartResponse window ackEvery frame flags) = false :=
  not_isDirectAck (by simp [encodePipeStartResponse])

/-- What a step tells to the outside. -/
structure StepReport where
  result : EngineResult
  /-- A poll has found that the refresh under way failed. -/
  refreshFailed : Bool
  /-- A chunk of an open PIPE transfer was not the next one. -/
  outOfOrder : Bool

/-! ### Books -/

/-- The counters, less the calls that they stand for. -/
@[ext] structure Books where
  completed : UInt32 := 0
  timedOut : UInt32 := 0
  directChunks : UInt32 := 0
  retransmits : UInt32 := 0
  /-- aborted transfers, less the `abort_transfer` calls -/
  aborted : UInt32 := 0
  /-- chunks of both modes, less the writes that were taken -/
  written : UInt32 := 0
  /-- failures, less the calls that failed -/
  failures : UInt32 := 0
  /-- transfers that are over or active -/
  transfers : UInt32 := 0
  queueOverflows : UInt32 := 0
  queueHighWater : UInt32 := 0

/-- Enter what a step tells. -/
def Books.enter (b : Books) (r : StepReport) : Books :=
  { b with
    completed := b.completed + tallyOne r.result.refreshComplete
    timedOut := b.timedOut + tallyOne r.result.refreshTimeout
    directChunks := b.directChunks + tallyOne (isDirectAck r.result.response)
    retransmits := b.retransmits + tallyOne r.outOfOrder
    failures := b.failures + tallyOne r.refreshFailed
    transfers := b.transfers + tallyOne r.result.transferStarted - tallyOne r.refreshFailed }

/-- Reports entered one after another come to what they tell in all. -/
lemma Books.foldl_enter (b : Books) (rs : List StepReport) : rs.foldl Books.enter b =
    { b with
      completed := b.completed + tally (·.result.refreshComplete) rs
      timedOut := b.timedOut + tally (·.result.refreshTimeout) rs
      directChunks := b.directChunks + tally (fun r => isDirectAck r.result.response) rs
      retransmits := b.retransmits + tally (·.outOfOrder) rs
      failures := b.failures + tally (·.refreshFailed) rs
      transfers := b.transfers + tally (·.result.transferStarted) rs -
        tally (·.refreshFailed) rs } := by
  induction rs generalizing b with
  | nil => simp
  | cons r rs ih =>
      rw [List.foldl_cons, ih, Books.enter]
      ext <;> simp only [tally_cons] <;> grind

namespace TransferEngine

variable {β ω : Type} [OpenDisplayBackend β] [PanelWorld β ω]
  {e e' : TransferEngine (Recorder β)}

/-- One for a transfer that is active. -/
def activeTransfers (state : State) : UInt32 := if state = .idle then 0 else 1

@[simp] lemma activeTransfers_idle : activeTransfers .idle = 0 := rfl

lemma activeTransfers_of_ne {state : State} (h : state ≠ .idle) : activeTransfers state = 1 :=
  if_neg h

/-- The books of an engine. -/
def books (e : TransferEngine (Recorder β)) : Books where
  completed := e.stats.transfersOk
  timedOut := e.stats.refreshTimeouts
  directChunks := e.stats.directPackets
  retransmits := e.stats.retransmitRequests
  aborted := e.stats.transfersAborted - tally BackendCall.isAbort e.backend.calls
  written := e.stats.directPackets + e.stats.pipePackets -
    tally BackendCall.isWritten e.backend.calls
  failures := e.stats.backendFailures - tally BackendCall.isFailure e.backend.calls
  transfers := e.stats.transfersOk + e.stats.transfersAborted + activeTransfers e.txn.state
  queueOverflows := e.stats.queueOverflows
  queueHighWater := e.stats.queueHighWater

/-- A poll now finds that the refresh under way failed. -/
def findsFailure (e : TransferEngine β) : Bool :=
  e.hwOwned && decide (e.txn.state = .refreshing) && decide ((pollRefresh e.backend).1 = .failed)

/-- The chunk is not the next one of the open PIPE transfer. -/
def findsGap {β : Type} (e : TransferEngine β) (p : Payload) : Bool :=
  !e.txn.pipeFatal && decide (e.txn.state = .receiving) && decide (e.txn.mode = .pipe) &&
    p.bytes.head?.any fun seq => decide (seq ≠ e.txn.nextPipeSequence)

/-- What a step of the engine tells. -/
def stepReport (e : TransferEngine β) (op : EngineOp ω) : StepReport where
  result := (e.perform op).1
  refreshFailed :=
    match op with
    | .tick _ => e.findsFailure
    | _ => false
  outOfOrder :=
    match op with
    | .pipeData p _ => e.findsGap p
    | _ => false

/-! ### What leaves the books alone -/

/-- An abort counts, closes and calls at once. -/
@[simp] lemma books_abort (e : TransferEngine (Recorder β)) (error : ErrorCode) :
    (e.abort error).books = e.books := by
  by_cases h : e.txn.state = .idle
  · simp [abort, h, books]
  · simp [abort, h, books, activeTransfers_of_ne h, BackendCall.isWritten, BackendCall.isFailure,
      BackendCall.isAbort, UInt32.add_assoc]

@[simp] lemma books_cleared (e : TransferEngine (Recorder β)) : e.cleared.books = e.books := by
  unfold cleared
  split_ifs
  · exact books_abort e .invalidState
  · rfl

omit [OpenDisplayBackend β] in
/-- The books do not look at the error code. -/
@[simp] lemma books_lastError (e : TransferEngine (Recorder β)) (error : ErrorCode) :
    { e with lastError := error }.books = e.books := rfl

lemma cleared_idle {β : Type} [OpenDisplayBackend β] (e : TransferEngine β) :
    e.cleared.txn.state = .idle := by
  unfold cleared
  split_ifs with h
  · simp
  · simpa using h

/-! ### What the operations enter -/

lemma BeginOutcome.books_refused {mode : TransferMode} {total now : UInt32} {why : ErrorCode}
    (h : BeginOutcome e mode total now (some why) e') : e'.books = e.books := by
  cases h with
  | busy => rfl
  | sizeMismatch => exact books_cleared e
  | beginFailed =>
      rw [← books_cleared e]
      simp [books, cleared_idle, BackendCall.isWritten, BackendCall.isFailure,
        BackendCall.isAbort]

lemma BeginOutcome.books_opened {mode : TransferMode} {total now : UInt32}
    (h : BeginOutcome e mode total now none e') :
    e'.books = { e.books with transfers := e.books.transfers + 1 } := by
  cases h with
  | opened =>
      rw [← books_cleared e]
      simp [books, cleared_idle, BackendCall.isWritten, BackendCall.isFailure,
        BackendCall.isAbort, openedTxn, activeTransfers_of_ne]

lemma FinishOutcome.books {endOpcode : UInt16} {now : UInt32} {res : EngineResult}
    (h : FinishOutcome e endOpcode now res e') (hstate : e.txn.state = .receiving) :
    e'.books = e.books := by
  have hactive : activeTransfers e.txn.state = 1 := by rw [hstate]; rfl
  cases h with
  | incomplete =>
      rw [books_abort]
      simp [TransferEngine.books, hactive, activeTransfers_of_ne]
  | finishFailed _ hanswer =>
      rw [books_abort]
      simp [TransferEngine.books, hactive, activeTransfers_of_ne, hanswer, BackendCall.isWritten,
        BackendCall.isFailure, BackendCall.isAbort]
  | refreshFailed _ hfinish hanswer =>
      rw [books_abort]
      simp [TransferEngine.books, hactive, activeTransfers_of_ne, hfinish, hanswer,
        BackendCall.isWritten, BackendCall.isFailure, BackendCall.isAbort]
  | refreshing _ hfinish hanswer =>
      simp [TransferEngine.books, hactive, activeTransfers_of_ne, hfinish, hanswer,
        BackendCall.isWritten, BackendCall.isFailure, BackendCall.isAbort]

/-- A report of nothing but a response. -/
lemma enter_quiet (b : Books) {res : EngineResult} (hcomplete : res.refreshComplete = false)
    (htimeout : res.refreshTimeout = false) (hstarted : res.transferStarted = false)
    (hack : isDirectAck res.response = false) : b.enter ⟨res, false, false⟩ = b := by
  simp [Books.enter, hcomplete, htimeout, hstarted, hack]

lemma FinishOutcome.books_enter {endOpcode : UInt16} {now : UInt32} {res : EngineResult}
    (h : FinishOutcome e endOpcode now res e') (hstate : e.txn.state = .receiving)
    (hend : isDirectAck (encodeAck endOpcode) = false) :
    e'.books = e.books.enter ⟨res, false, false⟩ := by
  rw [h.books hstate]
  cases h with
  | incomplete | finishFailed | refreshFailed =>
      exact (enter_quiet _ rfl rfl rfl (isDirectAck_encodeNack _)).symm
  | refreshing => exact (enter_quiet _ rfl rfl rfl hend).symm

lemma books_directStart (e : TransferEngine (Recorder β)) (p : Payload) (now : UInt32) :
    (e.onDirectStart p now).2.books = e.books.enter ⟨(e.onDirectStart p now).1, false, false⟩ := by
  have ho := e.onDirectStart_outcome p now
  generalize (e.onDirectStart p now).1 = res, (e.onDirectStart p now).2 = e' at ho ⊢
  cases ho with
  | compressed => exact (enter_quiet _ rfl rfl rfl (isDirectAck_encodeNack _)).symm
  | refused _ _ _ hbegin =>
      rw [enter_quiet _ rfl rfl rfl (isDirectAck_encodeNack _)]
      exact hbegin.books_refused
  | started _ _ hbegin =>
      have hack : isDirectAck (encodeAck cmdDirectWriteStart) = false := rfl
      rw [hbegin.books_opened]
      simp [Books.enter, hack]

lemma books_directData (e : TransferEngine (Recorder β)) (p : Payload) (now : UInt32) :
    (e.onDirectData p now).2.books = e.books.enter ⟨(e.onDirectData p now).1, false, false⟩ := by
  have ho := e.onDirectData_outcome p now
  generalize (e.onDirectData p now).1 = res, (e.onDirectData p now).2 = e' at ho ⊢
  cases ho with
  | misplaced => exact (enter_quiet _ rfl rfl rfl (isDirectAck_encodeNack _)).symm
  | malformed | oversize =>
      rw [enter_quiet _ rfl rfl rfl (isDirectAck_encodeNack _)]
      exact books_abort _ _
  | writeFailed _ _ _ _ hanswer =>
      rw [enter_quiet _ rfl rfl rfl (isDirectAck_encodeNack _), books_abort]
      simp [books, hanswer, BackendCall.isWritten, BackendCall.isFailure, BackendCall.isAbort]
  | accepted hstate _ _ _ hanswer =>
      have hack : isDirectAck (encodeAck cmdDirectWriteData) = true := rfl
      simp [books, Books.enter, reply, hack, hanswer, acceptDirect,
        BackendCall.isWritten, BackendCall.isFailure, BackendCall.isAbort]
      grind

lemma books_directEnd (e : TransferEngine (Recorder β)) (p : Payload) (now : UInt32) :
    (e.onDirectEnd p now).2.books = e.books.enter ⟨(e.onDirectEnd p now).1, false, false⟩ := by
  have ho := e.onDirectEnd_outcome p now
  generalize (e.onDirectEnd p now).1 = res, (e.onDirectEnd p now).2 = e' at ho ⊢
  cases ho with
  | misplaced => exact (enter_quiet _ rfl rfl rfl (isDirectAck_encodeNack _)).symm
  | finished hstate _ _ _ hfinish => exact hfinish.books_enter hstate rfl

lemma books_pipeStart (e : TransferEngine (Recorder β)) (p : Payload) (now : UInt32) :
    (e.onPipeStart p now).2.books = e.books.enter ⟨(e.onPipeStart p now).1, false, false⟩ := by
  have ho := e.onPipeStart_outcome p now
  generalize (e.onPipeStart p now).1 = res, (e.onPipeStart p now).2 = e' at ho ⊢
  cases ho with
  | badHeader | compressed =>
      exact (enter_quiet _ rfl rfl rfl (isDirectAck_encodeNackErr _ _)).symm
  | refused _ _ _ _ _ hbegin =>
      rw [enter_quiet _ rfl rfl rfl (isDirectAck_encodeNackErr _ _)]
      exact hbegin.books_refused
  | started _ _ _ _ hbegin =>
      have hbooks := hbegin.books_opened
      simp only [Books.enter, isDirectAck_encodePipeStartResponse, tallyOne_false, tallyOne_true,
        UInt32.add_zero, UInt32.sub_zero]
      exact hbooks

/-- A chunk that the panel takes is counted once. -/
lemma books_pipeAccepted {seq : UInt8} {data : List UInt8} {now : UInt32}
    (hanswer : (writeContiguous e.backend e.txn.acceptedBytes data).1 = .ok) :
    (e.pipeAccepted seq data now).books = e.books := by
  simp [books, hanswer, pipeAccepted, acceptPipe, BackendCall.isWritten, BackendCall.isFailure,
    BackendCall.isAbort]
  grind

/-- A packet without a chunk, and one whose chunk is the next, find no gap. -/
lemma findsGap_eq_false {β : Type} {e : TransferEngine β} {p : Payload}
    (h : ∀ seq ∈ p.bytes.head?, seq = e.txn.nextPipeSequence) : e.findsGap p = false := by
  rcases hhead : p.bytes.head? with _ | seq
  · simp [findsGap, hhead]
  · obtain rfl := h seq hhead
    simp [findsGap, hhead]

lemma books_pipeData (e : TransferEngine (Recorder β)) (p : Payload) (now : UInt32) :
    (e.onPipeData p now).2.books =
      e.books.enter ⟨(e.onPipeData p now).1, false, e.findsGap p⟩ := by
  have ho := e.onPipeData_outcome p now
  generalize (e.onPipeData p now).1 = res, (e.onPipeData p now).2 = e' at ho ⊢
  cases ho with
  | latched hlatch =>
      have hgap : e.findsGap p = false := by simp [findsGap, hlatch]
      rw [hgap]
      exact (enter_quiet _ rfl rfl rfl isDirectAck_empty).symm
  | misplaced _ hplace =>
      have hgap : e.findsGap p = false := by
        by_contra h
        simp only [findsGap, Bool.not_eq_false, Bool.and_eq_true, decide_eq_true_eq] at h
        exact hplace ⟨h.1.1.2, h.1.2⟩
      rw [hgap]
      exact (enter_quiet _ rfl rfl rfl (isDirectAck_encodePipeNack _ _ _)).symm
  | malformed _ _ hbytes =>
      rw [findsGap_eq_false (by simp [hbytes]),
        enter_quiet _ rfl rfl rfl (isDirectAck_encodePipeNack _ _ _), books_abort]
      rfl
  | outOfOrder hlatch hplace seq data hbytes hseq =>
      have hgap : e.findsGap p = true := by
        simp [findsGap, hlatch, hplace.1, hplace.2, hbytes, hseq]
      rw [hgap]
      simp [Books.enter, reply, inorderSack, books]
  | oversize _ _ data hbytes =>
      rw [findsGap_eq_false (by simp [hbytes]),
        enter_quiet _ rfl rfl rfl (isDirectAck_encodePipeNack _ _ _), books_abort]
      rfl
  | writeFailed _ _ data hbytes _ hanswer =>
      rw [findsGap_eq_false (by simp [hbytes]),
        enter_quiet _ rfl rfl rfl (isDirectAck_encodePipeNack _ _ _), books_abort]
      simp [books, hanswer, BackendCall.isWritten, BackendCall.isFailure, BackendCall.isAbort]
  | accepted _ hplace data hbytes _ hanswer _ _ hchunk =>
      rw [findsGap_eq_false (by simp [hbytes]),
        ← @books_pipeAccepted _ _ e e.txn.nextPipeSequence _ now hanswer]
      cases hchunk with
      | completed _ _ _ hfinish => exact hfinish.books_enter hplace.1 rfl
      | sacked => exact (enter_quiet _ rfl rfl rfl (isDirectAck_encodePipeSack _ _)).symm
      | silent => exact (enter_quiet _ rfl rfl rfl isDirectAck_empty).symm

lemma books_pipeEnd (e : TransferEngine (Recorder β)) (p : Payload) (now : UInt32) :
    (e.onPipeEnd p now).2.books = e.books.enter ⟨(e.onPipeEnd p now).1, false, false⟩ := by
  have ho := e.onPipeEnd_outcome p now
  generalize (e.onPipeEnd p now).1 = res, (e.onPipeEnd p now).2 = e' at ho ⊢
  cases ho with
  | misplaced => exact (enter_quiet _ rfl rfl rfl (isDirectAck_encodeNack _)).symm
  | flushed hplace _ _ _ hfinish => exact hfinish.books_enter hplace.1 rfl
  | finished hplace _ _ _ hfinish => exact hfinish.books_enter hplace.1 rfl

lemma Polled.books (h : Polled e e') : e'.books = e.books := by
  cases h with
  | free => rfl
  | pending =>
      simp [TransferEngine.books, BackendCall.isWritten, BackendCall.isFailure,
        BackendCall.isAbort]

/-- A poll that is answered otherwise finds no failure. -/
lemma Polled.findsFailure_eq_false (h : Polled e e') : e.findsFailure = false := by
  cases h with
  | free hw => simp [findsFailure, hw]
  | pending _ hpoll => simp [findsFailure, hpoll]

lemma books_tick (e : TransferEngine (Recorder β)) (now : UInt32) :
    (e.tick now).2.books = e.books.enter ⟨(e.tick now).1, e.findsFailure, false⟩ := by
  have ho := e.tick_outcome now
  generalize (e.tick now).1 = res, (e.tick now).2 = e' at ho ⊢
  cases ho with
  | complete hw hpoll hstate =>
      have hactive : activeTransfers e.txn.state = 1 := by rw [hstate]; rfl
      have hfails : e.findsFailure = false := by simp [findsFailure, hpoll]
      rw [hfails]
      simp [Books.enter, books, hactive, BackendCall.isWritten, BackendCall.isFailure,
        BackendCall.isAbort]
      grind
  | failed hw hpoll hstate =>
      have hactive : activeTransfers e.txn.state = 1 := by rw [hstate]; rfl
      have hfails : e.findsFailure = true := by simp [findsFailure, hw, hpoll, hstate]
      rw [hfails]
      simp [Books.enter, books, hactive, BackendCall.isWritten, BackendCall.isFailure,
        BackendCall.isAbort]
      grind
  | released hw hpoll hstate =>
      have hfails : e.findsFailure = false := by simp [findsFailure, hstate]
      rw [hfails, enter_quiet _ rfl rfl rfl isDirectAck_empty]
      simp [books, BackendCall.isWritten, BackendCall.isFailure, BackendCall.isAbort]
  | waiting _ hpolled =>
      rw [hpolled.findsFailure_eq_false, enter_quiet _ rfl rfl rfl isDirectAck_empty,
        hpolled.books]
  | transferTimeout _ hpolled =>
      rw [hpolled.findsFailure_eq_false, enter_quiet _ rfl rfl rfl isDirectAck_empty,
        books_abort, hpolled.books]
  | refreshTimeout _ hpolled =>
      rw [hpolled.findsFailure_eq_false, books_abort, ← hpolled.books]
      simp [Books.enter, books]

/-- **What a step does to the books is what it tells.** -/
theorem books_step (e : TransferEngine (Recorder β)) (op : EngineOp ω) :
    (e.step op).books = e.books.enter (e.stepReport op) := by
  have hquiet : e.books.enter ⟨{}, false, false⟩ = e.books :=
    enter_quiet _ rfl rfl rfl isDirectAck_empty
  cases op with
  | directStart p now => exact books_directStart e p now
  | directData p now => exact books_directData e p now
  | directEnd p now => exact books_directEnd e p now
  | pipeStart p now => exact books_pipeStart e p now
  | pipeData p now => exact books_pipeData e p now
  | pipeEnd p now => exact books_pipeEnd e p now
  | tick now => exact books_tick e now
  | abort error => exact (books_abort e error).trans hquiet.symm
  | disconnect gen =>
      refine Eq.trans ?_ hquiet.symm
      change (e.onDisconnect gen).books = e.books
      rw [onDisconnect]
      split_ifs
      · rfl
      · rfl
      · rfl
      · exact books_abort e _
  | setConnectionGeneration gen => exact hquiet.symm
  | takeTailSack =>
      refine Eq.trans ?_ hquiet.symm
      change e.takeTailSack.2.books = e.books
      rw [takeTailSack]
      split_ifs <;> rfl
  | world event =>
      refine Eq.trans ?_ hquiet.symm
      change books { e with backend := PanelWorld.happen event e.backend } = e.books
      simp [books]

/-! ### Runs -/

/-- What the steps of a run tell, one after another. -/
def reports (e : TransferEngine (Recorder β)) (ops : List (EngineOp ω)) : List StepReport :=
  Machine.outputs step (fun e op => [e.stepReport op]) e ops

/-- The counters of the engine tell what a run from boot has told and called. -/
structure Accounts (e : TransferEngine (Recorder β)) (rs : List StepReport) : Prop where
  transfersOk_eq : e.stats.transfersOk = tally (·.result.refreshComplete) rs
  refreshTimeouts_eq : e.stats.refreshTimeouts = tally (·.result.refreshTimeout) rs
  transfersAborted_eq : e.stats.transfersAborted = tally BackendCall.isAbort e.backend.calls
  directPackets_eq : e.stats.directPackets = tally (fun r => isDirectAck r.result.response) rs
  /-- Every write that the panel took is counted once, for the mode it was made in. -/
  packets_eq :
    e.stats.directPackets + e.stats.pipePackets = tally BackendCall.isWritten e.backend.calls
  backendFailures_eq : e.stats.backendFailures =
    tally BackendCall.isFailure e.backend.calls + tally (·.refreshFailed) rs
  retransmitRequests_eq : e.stats.retransmitRequests = tally (·.outOfOrder) rs
  /-- Every transfer that was started is over in one of three ways, or active. -/
  started_eq : tally (·.result.transferStarted) rs =
    e.stats.transfersOk + e.stats.transfersAborted + tally (·.refreshFailed) rs +
      activeTransfers e.txn.state
  queueOverflows_eq : e.stats.queueOverflows = 0
  queueHighWater_eq : e.stats.queueHighWater = 0

/-- **The statistics account for every transfer.**  After every run from boot, with any
answers of the backend, the counters are what the results and the backend calls of the run
come to, modulo `2 ^ 32`. -/
theorem statistics_account (b : β) (transferMs refreshMs : UInt32) (ops : List (EngineOp ω)) :
    let e := init (Recorder.fresh b) transferMs refreshMs
    Accounts (Machine.exec step e ops) (e.reports ops) := by
  intro e
  have hrun : (Machine.exec step e ops).books = (e.reports ops).foldl Books.enter e.books :=
    Machine.exec_summary books (fun e op => books_step e op) e ops
  have hboot : e.books = {} := by simp [e, books, init, Recorder.fresh]
  rw [hboot, Books.foldl_enter] at hrun
  generalize Machine.exec step e ops = e' at hrun ⊢
  simp only [books, Books.mk.injEq, UInt32.zero_add] at hrun
  obtain ⟨hok, htimeout, hdirect, hgap, habort, hwritten, hfailures, htransfers, hover, hhigh⟩ :=
    hrun
  exact
    { transfersOk_eq := hok
      refreshTimeouts_eq := htimeout
      transfersAborted_eq := by grind
      directPackets_eq := hdirect
      packets_eq := by grind
      backendFailures_eq := by grind
      retransmitRequests_eq := hgap
      started_eq := by grind
      queueOverflows_eq := hover
      queueHighWater_eq := hhigh }

end TransferEngine

end OpenDisplay
