import OpenDisplay.Engine.Outcome
import OpenDisplay.Lib.Machine
import OpenDisplay.Lib.Words

/-!
# The ledger of a transfer

What ties the counters of a transaction and the ownership flag of the panel to
the packets accepted so far.  A *transfer*, as a client sees it, is a mode and the
list of chunks accepted since its START; it is followed along a run by a monitor
that reads nothing but results and the packet counters of the engine.  The
`Ledger` relates it to the engine, for every backend: while a transfer is open the
counters count its chunks, and the panel is ours exactly from the end of the
transfer on.  Every operation keeps the ledger.
-/

namespace OpenDisplay

open OpenDisplayBackend

/-- A transfer: its mode, the bytes of a full frame as the panel states them at its
START, and the data of the packets accepted since. -/
structure Transfer where
  mode : TransferMode := .none
  full : UInt32 := 0
  chunks : List (List UInt8) := []
deriving DecidableEq

namespace Transfer

/-- One more chunk has been accepted. -/
def accept (t : Transfer) (data : List UInt8) : Transfer :=
  { t with chunks := t.chunks ++ [data] }

/-- The number of bytes accepted. -/
def size (t : Transfer) : ℕ := t.chunks.flatten.length

/-- The number of PIPE chunks: none in a direct transfer. -/
def pipeChunks (t : Transfer) : ℕ := if t.mode = .pipe then t.chunks.length else 0

@[simp] lemma mode_accept (t : Transfer) (data : List UInt8) : (t.accept data).mode = t.mode :=
  rfl

@[simp] lemma size_accept (t : Transfer) (data : List UInt8) :
    (t.accept data).size = t.size + data.length := by
  simp [size, accept]

@[simp] lemma chunks_accept (t : Transfer) (data : List UInt8) :
    (t.accept data).chunks = t.chunks ++ [data] := rfl

@[simp] lemma length_chunks_accept (t : Transfer) (data : List UInt8) :
    (t.accept data).chunks.length = t.chunks.length + 1 := by
  simp [accept]

/-- Chunk after chunk. -/
lemma foldl_accept (t : Transfer) (chunks : List (List UInt8)) :
    chunks.foldl accept t = { t with chunks := t.chunks ++ chunks } := by
  induction chunks generalizing t with
  | nil => simp
  | cons c cs ih => simp [ih, accept]

lemma pipeChunks_of_pipe {t : Transfer} (h : t.mode = .pipe) : t.pipeChunks = t.chunks.length := by
  rw [pipeChunks, if_pos h]

lemma pipeChunks_of_ne {t : Transfer} (h : t.mode ≠ .pipe) : t.pipeChunks = 0 := by
  rw [pipeChunks, if_neg h]

end Transfer

namespace TransferEngine

section Monitor

variable {β ω : Type} [OpenDisplayBackend β] [PanelWorld β ω]

/-- The transfer that a START opens. -/
def openedTransfer (e : TransferEngine β) (mode : TransferMode) : Transfer :=
  { mode := mode, full := (capabilities e.cleared.backend).fullFrameBytes }

/-- The monitor of the current transfer.  A START that is answered as started
opens a new one; a packet is accepted when the engine counts it as such. -/
def watchTransfer (t : Transfer) (e : TransferEngine β) (op : EngineOp ω) : Transfer :=
  match op with
  | .directStart _ _ =>
      if (e.perform op).1.transferStarted then e.openedTransfer .direct else t
  | .pipeStart _ _ => if (e.perform op).1.transferStarted then e.openedTransfer .pipe else t
  | .directData p _ =>
      if (e.step op).stats.directPackets ≠ e.stats.directPackets then t.accept p.bytes else t
  | .pipeData p _ =>
      if (e.step op).stats.pipePackets ≠ e.stats.pipePackets then t.accept p.bytes.tail else t
  | _ => t

/-- The engine that carries the transfer it is in. -/
abbrev tracked : Transfer × TransferEngine β → EngineOp ω → Transfer × TransferEngine β :=
  Machine.monitored step watchTransfer

end Monitor

/-! ### Bookkeeping -/

/-- The PIPE counters after `n` accepted chunks. -/
structure PipeCounters (n : ℕ) (txn : Transaction) : Prop where
  next_eq : txn.nextPipeSequence = UInt8.ofNat n
  highest_eq : txn.highestSeen = UInt8.ofNat (n - 1)
  packets_eq : txn.acceptedPackets = UInt32.ofNat n

/-- The transaction counts the transfer. -/
structure Bookkeeping (t : Transfer) (txn : Transaction) : Prop where
  mode_eq : txn.mode = t.mode
  mode_ne : t.mode = .direct ∨ t.mode = .pipe
  not_compressed : txn.frame.compressed = false
  not_partial : txn.frame.partialFrame = false
  expected_eq : txn.expectedFrameBytes = t.full
  total_eq : txn.frame.totalBytes = t.full
  accepted_eq : txn.acceptedBytes.toNat = t.size
  size_le : t.size ≤ txn.expectedFrameBytes.toNat
  offset_eq : t.mode = .direct → txn.nextDirectOffset = txn.acceptedBytes
  counters : PipeCounters t.pipeChunks txn

/-- What holds of an open PIPE transfer in addition. -/
structure PipeOpen (t : Transfer) (txn : Transaction) : Prop where
  not_fatal : txn.pipeFatal = false
  since_lt : txn.acceptedSinceAck < txn.negotiatedAckEvery
  since_le : txn.acceptedSinceAck.toNat ≤ t.chunks.length

/-- The ledger of a transfer in an engine. -/
inductive Ledger {β : Type} (t : Transfer) (e : TransferEngine β) : Prop
  | idle (htxn : e.txn = { pipeFatal := e.txn.pipeFatal })
  | receiving (hstate : e.txn.state = .receiving) (hw : e.hwOwned = false)
      (hbook : Bookkeeping t e.txn) (hopen : t.mode = .pipe → PipeOpen t e.txn)
  | refreshing (hstate : e.txn.state = .refreshing) (hw : e.hwOwned = true)
      (hbook : Bookkeeping t e.txn) (hfull : t.size = e.txn.expectedFrameBytes.toNat)

/-! ### Steps that leave the transfer alone -/

section Frame

variable {β : Type} {t : Transfer} {e e' : TransferEngine β}

/-- After a reset there is no transfer. -/
lemma Ledger.of_txn_eq (h : e.txn = {}) : Ledger t e := .idle (by rw [h])

lemma ledger_init (t : Transfer) (b : β) (transferMs refreshMs : UInt32) :
    Ledger t (init b transferMs refreshMs) := .of_txn_eq rfl

/-- The ledger reads only the transaction and the ownership flag. -/
lemma Ledger.congr (h : Ledger t e) (htxn : e'.txn = e.txn) (hw : e'.hwOwned = e.hwOwned) :
    Ledger t e' := by
  cases h with
  | idle h => exact .idle (by rw [htxn]; exact h)
  | receiving hstate hw₀ hbook hopen =>
      exact .receiving (by rw [htxn, hstate]) (by rw [hw, hw₀]) (by rwa [htxn]) (by rwa [htxn])
  | refreshing hstate hw₀ hbook hfull =>
      exact .refreshing (by rw [htxn, hstate]) (by rw [hw, hw₀]) (by rwa [htxn]) (by rwa [htxn])

/-- The bookkeeping reads only these fields of a transaction. -/
lemma Bookkeeping.congr {txn txn' : Transaction} (h : Bookkeeping t txn)
    (hmode : txn'.mode = txn.mode) (hframe : txn'.frame = txn.frame)
    (hexpected : txn'.expectedFrameBytes = txn.expectedFrameBytes)
    (haccepted : txn'.acceptedBytes = txn.acceptedBytes)
    (hoffset : txn'.nextDirectOffset = txn.nextDirectOffset)
    (hnext : txn'.nextPipeSequence = txn.nextPipeSequence)
    (hhighest : txn'.highestSeen = txn.highestSeen)
    (hpackets : txn'.acceptedPackets = txn.acceptedPackets) : Bookkeeping t txn' where
  mode_eq := by rw [hmode, h.mode_eq]
  mode_ne := h.mode_ne
  not_compressed := by rw [hframe, h.not_compressed]
  not_partial := by rw [hframe, h.not_partial]
  expected_eq := by rw [hexpected, h.expected_eq]
  total_eq := by rw [hframe, h.total_eq]
  accepted_eq := by rw [haccepted, h.accepted_eq]
  size_le := by rw [hexpected]; exact h.size_le
  offset_eq hdirect := by rw [hoffset, haccepted, h.offset_eq hdirect]
  counters := by
    obtain ⟨hn, hh, hp⟩ := h.counters
    exact ⟨hnext.trans hn, hhighest.trans hh, hpackets.trans hp⟩

/-- The latch is not read by the bookkeeping. -/
lemma Bookkeeping.latch {txn : Transaction} (h : Bookkeeping t txn) :
    Bookkeeping t { txn with pipeFatal := true } :=
  h.congr rfl rfl rfl rfl rfl rfl rfl rfl

/-- The latch of a `0x81` that has no open PIPE transfer is not seen by the
transfer that is open. -/
lemma Ledger.latch (h : Ledger t e) (hplace : ¬ e.PipeReceiving)
    (htxn : e'.txn = { e.txn with pipeFatal := true }) (hw : e'.hwOwned = e.hwOwned) :
    Ledger t e' := by
  cases h with
  | idle h => exact .idle (by rw [htxn, h])
  | receiving hstate hw₀ hbook hopen =>
      refine .receiving (by rw [htxn]; exact hstate) (by rw [hw, hw₀])
        (by rw [htxn]; exact hbook.latch) ?_
      -- the transfer that is open is a direct one
      intro hmode
      exact absurd ⟨hstate, hbook.mode_eq.trans hmode⟩ hplace
  | refreshing hstate hw₀ hbook hfull =>
      exact .refreshing (by rw [htxn]; exact hstate) (by rw [hw, hw₀])
        (by rw [htxn]; exact hbook.latch) (by rw [htxn]; exact hfull)

/-- Between two calls a transaction is idle, receiving or refreshing. -/
lemma Ledger.state_cases (h : Ledger t e) :
    e.txn.state = .idle ∨ e.txn.state = .receiving ∨ e.txn.state = .refreshing := by
  cases h with
  | idle h => exact Or.inl (by rw [h])
  | receiving hstate => exact Or.inr (Or.inl hstate)
  | refreshing hstate => exact Or.inr (Or.inr hstate)

/-- A transaction that receives is in step with the transfer. -/
lemma Ledger.book_of_receiving (h : Ledger t e) (hstate : e.txn.state = .receiving) :
    e.hwOwned = false ∧ Bookkeeping t e.txn ∧ (t.mode = .pipe → PipeOpen t e.txn) := by
  cases h with
  | idle h => rw [h] at hstate; cases hstate
  | receiving _ hw hbook hopen => exact ⟨hw, hbook, hopen⟩
  | refreshing h => rw [h] at hstate; cases hstate

/-- The counters of an open PIPE transfer count its chunks. -/
lemma Ledger.pipeCounters (h : Ledger t e) (hplace : e.PipeReceiving) :
    PipeCounters t.chunks.length e.txn := by
  obtain ⟨-, hbook, -⟩ := h.book_of_receiving hplace.1
  rw [← Transfer.pipeChunks_of_pipe (hbook.mode_eq.symm.trans hplace.2)]
  exact hbook.counters

/-- A panel that is refreshing for a transaction is ours. -/
lemma Ledger.hwOwned_of_refreshing (h : Ledger t e) (hstate : e.txn.state = .refreshing) :
    e.hwOwned = true := by
  cases h with
  | idle h => rw [h] at hstate; cases hstate
  | receiving h => rw [h] at hstate; cases hstate
  | refreshing _ hw => exact hw

/-! ### Opening a transfer -/

/-- The negotiation writes nothing that the bookkeeping reads. -/
lemma Bookkeeping.negotiate {txn : Transaction} (h : Bookkeeping t txn)
    (window ackEvery : UInt8) (frame : UInt16) :
    Bookkeeping t { txn with
      negotiatedWindow := window
      negotiatedAckEvery := ackEvery
      negotiatedFrame := frame } :=
  h.congr rfl rfl rfl rfl rfl rfl rfl rfl

end Frame

section Start

variable {β : Type} [OpenDisplayBackend β] {t : Transfer} {e e' : TransferEngine β}
  {mode : TransferMode} {total now : UInt32}

@[simp] lemma cleared_hwOwned (e : TransferEngine β) : e.cleared.hwOwned = e.hwOwned := by
  unfold cleared; split_ifs <;> simp

lemma Ledger.cleared (h : Ledger t e) : Ledger t e.cleared := by
  unfold TransferEngine.cleared
  split_ifs
  · exact .of_txn_eq (by simp)
  · exact h

/-- A START that is not taken keeps the ledger: it changes nothing, or there is no
transfer afterwards. -/
lemma Ledger.refused (h : Ledger t e) {why : ErrorCode}
    (hbegin : BeginOutcome e mode total now (some why) e') : Ledger t e' := by
  cases hbegin with
  | busy => exact h
  | sizeMismatch => exact h.cleared
  | beginFailed => exact .of_txn_eq rfl

/-- What a START that is taken leaves: an open transaction that counts the new
transfer, with nothing latched and nothing accepted. -/
lemma BeginOutcome.opened_spec (hmode : mode = .direct ∨ mode = .pipe)
    (hbegin : BeginOutcome e mode total now none e') :
    e'.hwOwned = false ∧ Bookkeeping (e.openedTransfer mode) e'.txn ∧
      ∃ frame, e'.txn = e.cleared.openedTxn mode total now frame := by
  cases hbegin with
  | opened hw hsize frame hframe hanswer =>
      refine ⟨by simpa using hw, ?_, frame, rfl⟩
      subst hframe
      exact {
        mode_eq := rfl
        mode_ne := hmode
        not_compressed := rfl
        not_partial := rfl
        expected_eq := hsize
        total_eq := hsize
        accepted_eq := rfl
        size_le := Nat.zero_le _
        offset_eq := fun _ => rfl
        counters := by
          have hnone : (e.openedTransfer mode).pipeChunks = 0 := by
            rw [Transfer.pipeChunks]
            split_ifs <;> rfl
          rw [hnone]
          exact ⟨rfl, rfl, rfl⟩ }

/-- The cadence in force is the smaller of ours and the requested one, and never
zero. -/
lemma ackEvery_pos {p : Payload} {req : PipeStartRequest} (hparse : parsePipeStart p = .ok req)
    {ackEvery : UInt8}
    (h : ackEvery = if req.reqAckEvery < pipeMaxAckEvery then req.reqAckEvery
      else pipeMaxAckEvery) : 0 < ackEvery := by
  have hlo := (limits_of_parsePipeStart hparse).2.1
  rw [UInt8.le_iff_toNat_le] at hlo
  rw [h, UInt8.lt_iff_toNat_lt]
  split_ifs
  · exact hlo
  · decide

lemma Ledger.directStart (h : Ledger t e) (p : Payload) (now : UInt32) :
    Ledger (if (e.onDirectStart p now).1.transferStarted then e.openedTransfer .direct else t)
      (e.onDirectStart p now).2 := by
  have ho := onDirectStart_outcome e p now
  generalize (e.onDirectStart p now).1 = res, (e.onDirectStart p now).2 = e₁ at ho ⊢
  cases ho with
  | compressed => exact h.congr rfl rfl
  | refused _ why e₁ hbegin => exact (h.refused hbegin).congr rfl rfl
  | started _ _ hbegin =>
      obtain ⟨hw, hbook, frame, htxn⟩ := hbegin.opened_spec (Or.inl rfl)
      refine .receiving (by rw [htxn]; rfl) hw hbook ?_
      intro hmode
      cases hmode

lemma Ledger.pipeStart (h : Ledger t e) (p : Payload) (now : UInt32) :
    Ledger (if (e.onPipeStart p now).1.transferStarted then e.openedTransfer .pipe else t)
      (e.onPipeStart p now).2 := by
  have ho := onPipeStart_outcome e p now
  generalize (e.onPipeStart p now).1 = res, (e.onPipeStart p now).2 = e₁ at ho ⊢
  cases ho with
  | badHeader => exact h.congr rfl rfl
  | compressed => exact h.congr rfl rfl
  | refused _ _ _ why e₁ hbegin => exact (h.refused hbegin).congr rfl rfl
  | started req hparse _ e₁ hbegin window ackEvery _ _ hackEvery =>
      obtain ⟨hw, hbook, frame, htxn⟩ := hbegin.opened_spec (Or.inr rfl)
      refine .receiving (by simp [htxn, openedTxn]) hw (hbook.negotiate ..) fun _ => ?_
      exact {
        not_fatal := by simp [htxn, openedTxn]
        since_lt := by
          simpa [htxn, openedTxn] using ackEvery_pos hparse hackEvery
        since_le := by simp [htxn, openedTxn] }

end Start

/-! ### Data -/

section Data

variable {β : Type} {t : Transfer} {txn : Transaction}

/-- The expected bytes that are still missing. -/
lemma Bookkeeping.fits (h : Bookkeeping t txn) {n : ℕ}
    (hfit : n ≤ (txn.expectedFrameBytes - txn.acceptedBytes).toNat) :
    (txn.acceptedBytes + UInt32.ofNat n).toNat = t.size + n ∧
      t.size + n ≤ txn.expectedFrameBytes.toNat := by
  have hle : txn.acceptedBytes.toNat ≤ txn.expectedFrameBytes.toNat := by
    rw [h.accepted_eq]; exact h.size_le
  rw [← h.accepted_eq]
  exact ⟨Words.toNat_add_ofNat hle hfit, Words.add_le_of_le_sub hle hfit⟩

/-- The transaction after an accepted `0x71` counts the longer transfer. -/
lemma Bookkeeping.acceptDirect {e : TransferEngine β} (h : Bookkeeping t e.txn)
    (hmode : t.mode = .direct) {data : List UInt8}
    (hfit : data.length ≤ (e.txn.expectedFrameBytes - e.txn.acceptedBytes).toNat) (now : UInt32) :
    Bookkeeping (t.accept data) (e.acceptDirect data.length now).txn where
  mode_eq := h.mode_eq
  mode_ne := h.mode_ne
  not_compressed := h.not_compressed
  not_partial := h.not_partial
  expected_eq := h.expected_eq
  total_eq := h.total_eq
  accepted_eq := by rw [Transfer.size_accept]; exact (h.fits hfit).1
  size_le := by rw [Transfer.size_accept]; exact (h.fits hfit).2
  offset_eq _ := by simp only [TransferEngine.acceptDirect, h.offset_eq hmode]
  counters := by
    have hc := h.counters
    rw [Transfer.pipeChunks_of_ne (by simp [hmode])] at hc ⊢
    exact ⟨hc.next_eq, hc.highest_eq, hc.packets_eq⟩

/-- An accepted chunk is counted. -/
lemma PipeCounters.acceptPipe {e : TransferEngine β} {n : ℕ} (h : PipeCounters n e.txn)
    (len : ℕ) (now : UInt32) :
    PipeCounters (n + 1) (e.acceptPipe e.txn.nextPipeSequence len now).txn where
  next_eq := by simp [TransferEngine.acceptPipe, h.next_eq]
  highest_eq := by simp [TransferEngine.acceptPipe, h.next_eq]
  packets_eq := by simp [TransferEngine.acceptPipe, h.packets_eq]

/-- The transaction after an accepted `0x81` counts the longer transfer. -/
lemma Bookkeeping.acceptPipe {e : TransferEngine β} (h : Bookkeeping t e.txn)
    (hmode : t.mode = .pipe) {data : List UInt8}
    (hfit : data.length ≤ (e.txn.expectedFrameBytes - e.txn.acceptedBytes).toNat) (now : UInt32) :
    Bookkeeping (t.accept data)
      (e.acceptPipe e.txn.nextPipeSequence data.length now).txn where
  mode_eq := h.mode_eq
  mode_ne := h.mode_ne
  not_compressed := h.not_compressed
  not_partial := h.not_partial
  expected_eq := h.expected_eq
  total_eq := h.total_eq
  accepted_eq := by rw [Transfer.size_accept]; exact (h.fits hfit).1
  size_le := by rw [Transfer.size_accept]; exact (h.fits hfit).2
  offset_eq hdirect := by rw [Transfer.mode_accept, hmode] at hdirect; cases hdirect
  counters := by
    have hc := h.counters
    rw [Transfer.pipeChunks_of_pipe hmode] at hc
    rw [Transfer.pipeChunks_of_pipe (by exact hmode), Transfer.length_chunks_accept]
    exact hc.acceptPipe data.length now

/-- The cadence counter is not read by the bookkeeping. -/
lemma Bookkeeping.resetCadence (h : Bookkeeping t txn) :
    Bookkeeping t { txn with acceptedSinceAck := 0 } :=
  h.congr rfl rfl rfl rfl rfl rfl rfl rfl

/-- Nor are the state and the refresh deadline. -/
lemma Bookkeeping.refresh (h : Bookkeeping t txn) (deadline : UInt32) :
    Bookkeeping t { txn with state := .refreshing, refreshDeadlineMs := deadline } :=
  h.congr rfl rfl rfl rfl rfl rfl rfl rfl

end Data

section Steps

variable {β ω : Type} [OpenDisplayBackend β] [PanelWorld β ω] {t : Transfer}
  {e e' : TransferEngine β}

/-- However an END ends, the ledger is kept: the transfer is over, or it is full and
the panel refreshes for it. -/
lemma Bookkeeping.finish (h : Bookkeeping t e.txn) {endOpcode : UInt16} {now : UInt32}
    {res : EngineResult} (hfinish : FinishOutcome e endOpcode now res e') : Ledger t e' := by
  cases hfinish with
  | incomplete => exact .of_txn_eq (by simp)
  | finishFailed => exact .of_txn_eq (by simp)
  | refreshFailed => exact .of_txn_eq (by simp)
  | refreshing hlen =>
      exact .refreshing rfl rfl (h.refresh _) (by rw [← h.accepted_eq, hlen])

lemma Ledger.directData (h : Ledger t e) (p : Payload) (now : UInt32) :
    Ledger (if (e.onDirectData p now).2.stats.directPackets ≠ e.stats.directPackets
      then t.accept p.bytes else t) (e.onDirectData p now).2 := by
  have ho := onDirectData_outcome e p now
  generalize (e.onDirectData p now).1 = res, (e.onDirectData p now).2 = e₁ at ho ⊢
  cases ho with
  | misplaced =>
      rw [if_neg (fun hne => hne rfl)]
      exact h.congr rfl rfl
  | malformed => exact .of_txn_eq (by simp)
  | oversize => exact .of_txn_eq (by simp)
  | writeFailed => exact .of_txn_eq (by simp)
  | accepted hstate hmode _ hfit _ =>
      obtain ⟨hw, hbook, -⟩ := h.book_of_receiving hstate
      rw [if_pos (by exact Words.add_one_ne _)]
      have hdirect : t.mode = .direct := hbook.mode_eq.symm.trans hmode
      rw [← p.length_bytes] at hfit ⊢
      refine .receiving hstate hw (hbook.acceptDirect hdirect hfit now) ?_
      intro hpipe
      rw [Transfer.mode_accept, hdirect] at hpipe
      cases hpipe

/-- Only a direct transfer accepts `0x71` packets. -/
lemma Ledger.mode_of_directData (h : Ledger t e) {p : Payload} {now : UInt32}
    (hcounted : (e.onDirectData p now).2.stats.directPackets ≠ e.stats.directPackets) :
    t.mode = .direct := by
  have ho := onDirectData_outcome e p now
  generalize (e.onDirectData p now).1 = res, (e.onDirectData p now).2 = e₁ at ho hcounted
  cases ho with
  | misplaced => exact absurd rfl hcounted
  | malformed | oversize | writeFailed => simp at hcounted
  | accepted hstate hmode => exact (h.book_of_receiving hstate).2.1.mode_eq.symm.trans hmode

lemma Ledger.directEnd (h : Ledger t e) (p : Payload) (now : UInt32) :
    Ledger t (e.onDirectEnd p now).2 := by
  have ho := onDirectEnd_outcome e p now
  generalize (e.onDirectEnd p now).1 = res, (e.onDirectEnd p now).2 = e₁ at ho ⊢
  cases ho with
  | misplaced => exact h.congr rfl rfl
  | finished hstate _ _ _ hfinish => exact (h.book_of_receiving hstate).2.1.finish hfinish

/-- What a chunk that is written leads to keeps the ledger of the longer transfer. -/
lemma Ledger.chunk {now : UInt32} {res : EngineResult} (hstate : e.txn.state = .receiving)
    (hw : e.hwOwned = false) (hbook : Bookkeeping t e.txn) (hfatal : e.txn.pipeFatal = false)
    (hsince : e.txn.acceptedSinceAck.toNat ≤ t.chunks.length)
    (hpos : 0 < e.txn.negotiatedAckEvery) (hchunk : ChunkOutcome e now res e') :
    Ledger t e' := by
  cases hchunk with
  | completed _ _ _ hfinish => exact hbook.resetCadence.finish hfinish
  | sacked =>
      exact .receiving hstate hw hbook.resetCadence fun _ => ⟨hfatal, hpos, Nat.zero_le _⟩
  | silent _ hcadence => exact .receiving hstate hw hbook fun _ => ⟨hfatal, hcadence, hsince⟩

lemma ChunkOutcome.pipePackets_eq {now : UInt32} {res : EngineResult}
    (hchunk : ChunkOutcome e now res e') : e'.stats.pipePackets = e.stats.pipePackets := by
  cases hchunk with
  | completed _ _ _ hfinish => cases hfinish <;> simp [stageTailSack]
  | sacked => rfl
  | silent => rfl

lemma Ledger.pipeData (h : Ledger t e) (p : Payload) (now : UInt32) :
    Ledger (if (e.onPipeData p now).2.stats.pipePackets ≠ e.stats.pipePackets
      then t.accept p.bytes.tail else t) (e.onPipeData p now).2 := by
  have ho := onPipeData_outcome e p now
  generalize (e.onPipeData p now).1 = res, (e.onPipeData p now).2 = e₁ at ho ⊢
  cases ho with
  | latched => simpa using h
  | misplaced _ hplace =>
      rw [if_neg (fun hne => hne rfl)]
      exact h.latch hplace rfl rfl
  | malformed => exact .of_txn_eq (by simp)
  | outOfOrder =>
      rw [if_neg (fun hne => hne rfl)]
      exact h.congr rfl rfl
  | oversize => exact .of_txn_eq (by simp)
  | writeFailed => exact .of_txn_eq (by simp)
  | accepted hlatch hplace data hbytes hfit _ _ _ hchunk =>
      obtain ⟨hw, hbook, hopen⟩ := h.book_of_receiving hplace.1
      have hpipe : t.mode = .pipe := hbook.mode_eq.symm.trans hplace.2
      obtain ⟨-, hsince, hle⟩ := hopen hpipe
      -- the cadence counter is below the cadence, so it does not wrap
      have hnext := Words.toNat_add_one_of_lt hsince
      rw [if_pos (by rw [hchunk.pipePackets_eq]; exact Words.add_one_ne _), hbytes,
        List.tail_cons]
      have hbook' : Bookkeeping (t.accept data)
          (e.pipeAccepted e.txn.nextPipeSequence data now).txn := hbook.acceptPipe hpipe hfit now
      refine Ledger.chunk (e := e.pipeAccepted _ _ _) hplace.1 hw hbook' hlatch ?_ ?_ hchunk
      · rw [Transfer.length_chunks_accept]
        simp only [pipeAccepted, acceptPipe]
        omega
      · rw [UInt8.lt_iff_toNat_lt] at hsince ⊢
        exact Nat.zero_lt_of_lt hsince

lemma Ledger.pipeEnd (h : Ledger t e) (p : Payload) (now : UInt32) :
    Ledger t (e.onPipeEnd p now).2 := by
  have ho := onPipeEnd_outcome e p now
  generalize (e.onPipeEnd p now).1 = res, (e.onPipeEnd p now).2 = e₁ at ho ⊢
  cases ho with
  | misplaced => exact h.congr rfl rfl
  | flushed hplace _ _ _ hfinish =>
      exact (h.book_of_receiving hplace.1).2.1.resetCadence.finish hfinish
  | finished hplace _ _ _ hfinish => exact (h.book_of_receiving hplace.1).2.1.finish hfinish

lemma Ledger.polled (h : Ledger t e) (hpolled : Polled e e') : Ledger t e' := by
  cases hpolled with
  | free => exact h
  | pending => exact h.congr rfl rfl

lemma Ledger.tick (h : Ledger t e) (now : UInt32) : Ledger t (e.tick now).2 := by
  have ho := tick_outcome e now
  generalize (e.tick now).1 = res, (e.tick now).2 = e₁ at ho ⊢
  cases ho with
  | complete => exact .of_txn_eq rfl
  | failed => exact .of_txn_eq rfl
  | released hw _ hstate =>
      -- a panel that is ours without a refresh was left by a transfer that is over
      cases h with
      | idle htxn => exact .idle htxn
      | receiving _ hfree => rw [hfree] at hw; cases hw
      | refreshing hrefreshing => exact absurd hrefreshing hstate
  | waiting _ hpolled => exact h.polled hpolled
  | transferTimeout => exact .of_txn_eq (by simp)
  | refreshTimeout => exact .of_txn_eq (by simp)

lemma Ledger.disconnect (h : Ledger t e) (gen : UInt32) : Ledger t (e.onDisconnect gen) := by
  have ho := onDisconnect_outcome e gen
  generalize e.onDisconnect gen = e₁ at ho ⊢
  cases ho with
  | ignored => exact h
  | aborted => exact .of_txn_eq (by simp)

/-- **Every operation keeps the ledger.** -/
theorem Ledger.step (h : Ledger t e) (op : EngineOp ω) :
    Ledger (watchTransfer t e op) (e.step op) := by
  cases op with
  | directStart p now => exact h.directStart p now
  | directData p now => exact h.directData p now
  | directEnd p now => exact h.directEnd p now
  | pipeStart p now => exact h.pipeStart p now
  | pipeData p now => exact h.pipeData p now
  | pipeEnd p now => exact h.pipeEnd p now
  | tick now => exact h.tick now
  | abort error => exact .of_txn_eq (abort_txn e error)
  | disconnect gen => exact h.disconnect gen
  | setConnectionGeneration => exact h.congr rfl rfl
  | takeTailSack =>
      refine h.congr ?_ ?_ <;>
      · simp only [TransferEngine.step, perform, TransferEngine.takeTailSack]
        split_ifs <;> rfl
  | world => exact h.congr rfl rfl

/-- The ledger holds along every run. -/
theorem ledger_exec {s : Transfer × TransferEngine β} (h : Ledger s.1 s.2)
    (ops : List (EngineOp ω)) :
    Ledger (Machine.exec tracked s ops).1 (Machine.exec tracked s ops).2 :=
  Machine.exec_invariant
    (I := fun s : Transfer × TransferEngine β => Ledger s.1 s.2) (fun _ op h => h.step op) h ops

end Steps

end TransferEngine

end OpenDisplay
