import OpenDisplay.Engine.Ledger
import OpenDisplay.Backend.Scripted

/-!
# PIPE acknowledgements

Two facts about the `0x81` frames that the engine sends.

*Soundness.*  By the wire rule `highest_seen` is acknowledged implicitly and bit `i`
of the mask acknowledges the chunk `i + 1` places before it.  The numbers are those of
the chunks modulo 256, and a number stands for the last chunk that bears it among those
that the client may have sent, which is less than a window ahead of the chunks accepted.
A frame built from the counters of `n ≥ 1` accepted chunks acknowledges only chunks that
were accepted.  But the encoding has no way to acknowledge nothing, and zero counters
acknowledge the number `0`: before the first chunk is accepted, and again whenever the
counters have been reset and the next chunk with the number `0` is within the window.

*Cadence.*  In an open transfer the chunks accepted since the last SACK stay below
the negotiated cadence, and hence below the negotiated window whenever the client
does not ask for a cadence above its window.
-/

namespace OpenDisplay

open OpenDisplayBackend

/-! ### The wire rule -/

/-- What a `0x81` frame acknowledges: its `highest_seen` and its mask. -/
def ackView (r : Response) : Option (UInt8 × UInt32) :=
  match r.bytes with
  | [status, command, highestSeen, m₀, m₁, m₂, m₃] =>
      if status = respAck ∧ command = echo cmdPipeWriteData then
        some (highestSeen, getU32Le m₀ m₁ m₂ m₃)
      else none
  | [status, command, _, highestSeen, m₀, m₁, m₂, m₃] =>
      if status = respNack ∧ command = echo cmdPipeWriteData then
        some (highestSeen, getU32Le m₀ m₁ m₂ m₃)
      else none
  | _ => none

/-- The numbers that a frame acknowledges: `highest_seen`, and for bit `i` of the mask the
number `i + 1` before it. -/
def acknowledged (highestSeen : UInt8) (mask : UInt32) : List UInt8 :=
  highestSeen :: ((List.range 32).filter fun i => mask.toNat.testBit i).map fun i =>
    highestSeen - UInt8.ofNat (i + 1)

/-- What a number stands for when `n` chunks are accepted: the last chunk that bears it
among those less than a window ahead of the accepted ones. -/
def StandsFor (n window : ℕ) (seq : UInt8) (c : ℕ) : Prop :=
  UInt8.ofNat c = seq ∧ c < n + window ∧ n + window ≤ c + 256

/-- An acknowledgement is sound for a transfer of which the chunks `0, …, n - 1` are
accepted: every number that it acknowledges stands for one of them. -/
def AckCovered (n window : ℕ) (highestSeen : UInt8) (mask : UInt32) : Prop :=
  ∀ seq ∈ acknowledged highestSeen mask, ∃ c < n, StandsFor n window seq c

/-- A frame acknowledges only accepted chunks. -/
def AckSound (n window : ℕ) (r : Response) : Prop :=
  ∀ view ∈ ackView r, AckCovered n window view.1 view.2

instance (n window : ℕ) (seq : UInt8) (c : ℕ) : Decidable (StandsFor n window seq c) :=
  inferInstanceAs (Decidable (_ ∧ _ ∧ _))

instance (n window : ℕ) (highestSeen : UInt8) (mask : UInt32) :
    Decidable (AckCovered n window highestSeen mask) :=
  inferInstanceAs (Decidable (∀ seq ∈ acknowledged highestSeen mask, ∃ c < n,
    StandsFor n window seq c))

lemma ackView_encodePipeSack (highestSeen : UInt8) (mask : UInt32) :
    ackView (encodePipeSack highestSeen mask) = some (highestSeen, mask) := by
  simp only [ackView, encodePipeSack, putU32Le, List.cons_append, List.nil_append, and_self,
    if_true, getU32Le_bytes]

lemma ackView_encodePipeNack (err highestSeen : UInt8) (mask : UInt32) :
    ackView (encodePipeNack err highestSeen mask) = some (highestSeen, mask) := by
  simp only [ackView, encodePipeNack, putU32Le, List.cons_append, List.nil_append, and_self,
    if_true, getU32Le_bytes]

lemma ackView_encodePipeStartResponse (window ackEvery : UInt8) (frame : UInt16) (flags : UInt8) :
    ackView (encodePipeStartResponse window ackEvery frame flags) = none := by
  simp [ackView, encodePipeStartResponse, putU16Le, respAck, respNack]

lemma ackSound_of_none {n window : ℕ} {r : Response} (h : ackView r = none) :
    AckSound n window r := by
  intro view hview
  rw [h] at hview
  cases hview

lemma ackSound_of_some {n window : ℕ} {r : Response} {view : UInt8 × UInt32}
    (h : ackView r = some view) : AckSound n window r ↔ AckCovered n window view.1 view.2 := by
  simp [AckSound, h]

-- only the view that there is has to be looked at, not all there could be
instance (n window : ℕ) (r : Response) : Decidable (AckSound n window r) :=
  match h : ackView r with
  | none => isTrue (ackSound_of_none h)
  | some view => decidable_of_iff (AckCovered n window view.1 view.2) (ackSound_of_some h).symm

/-- Nothing is accepted, so nothing may be acknowledged. -/
lemma not_ackCovered_zero (window : ℕ) (highestSeen : UInt8) (mask : UInt32) :
    ¬ AckCovered 0 window highestSeen mask := by
  intro h
  obtain ⟨c, hc, -⟩ := h highestSeen List.mem_cons_self
  exact absurd hc (Nat.not_lt_zero c)

/-- A chunk is accepted, and the next one with the number `0` is not within the window. -/
def ZeroPast (n window : ℕ) : Prop := 1 ≤ n ∧ (n - 1) % 256 + 1 + window ≤ 256

instance (n window : ℕ) : Decidable (ZeroPast n window) := inferInstanceAs (Decidable (_ ∧ _))

/-- What zero counters acknowledge is the number `0`. -/
lemma ackCovered_zeros_iff {n window : ℕ} : AckCovered n window 0 0 ↔ ZeroPast n window := by
  have hnumbers : acknowledged 0 0 = [0] := by decide
  simp only [AckCovered, hnumbers, List.mem_singleton, forall_eq]
  constructor
  · rintro ⟨c, hc, hseq, -, hrecent⟩
    have hmod : c % 256 = 0 := by simpa using congrArg UInt8.toNat hseq
    exact ⟨by omega, by omega⟩
  · rintro ⟨hpos, hpast⟩
    refine ⟨256 * ((n - 1) / 256), by omega, ?_, by omega, by omega⟩
    rw [← UInt8.toNat_inj]
    simp

-- after 241 chunks the number `0` stands for chunk 256, which may be in flight
example : AckCovered 240 16 0 0 ∧ ¬ AckCovered 241 16 0 0 := by decide +kernel

namespace TransferEngine

/-- The counters of a transaction acknowledge accepted chunks as soon as there are
any. -/
lemma PipeCounters.ackCovered {n window : ℕ} {txn : Transaction} (h : PipeCounters n txn)
    (hn : 1 ≤ n) (hwindow : window ≤ pipeMaxWindow.toNat) :
    AckCovered n window txn.highestSeen (buildInorderAckMask txn.acceptedPackets) := by
  have hcap : pipeMaxWindow.toNat = 16 := rfl
  intro seq hseq
  simp only [acknowledged, List.mem_cons, List.mem_map, List.mem_filter, List.mem_range] at hseq
  rcases hseq with rfl | ⟨i, ⟨hi, hbit⟩, rfl⟩
  · exact ⟨n - 1, by omega, h.highest_eq.symm, by omega, by omega⟩
  -- a bit of the mask stands for one of the last 33 chunks, far from the next wrap
  · rw [toNat_buildInorderAckMask, Nat.testBit_two_pow_sub_one, decide_eq_true_iff,
      h.packets_eq, UInt32.toNat_ofNat'] at hbit
    have hle := Nat.mod_le n (2 ^ 32)
    refine ⟨n - 1 - (i + 1), by omega, ?_, by omega, by omega⟩
    rw [h.highest_eq]
    exact UInt8.ofNat_sub (by omega)

/-! ### What is sent -/

section Soundness

variable {β ω : Type} [OpenDisplayBackend β] [PanelWorld β ω] {e e' : TransferEngine β}
/-- One operation as the component performs it: a tail SACK that it stages is taken
at once. -/
def serve (e : TransferEngine β) (op : EngineOp ω) : TransferEngine β :=
  (e.step op).takeTailSack.2

/-- The frames sent for one operation: the staged tail SACK, then the response. -/
def framesSent (e : TransferEngine β) (op : EngineOp ω) : List Response :=
  (e.step op).takeTailSack.1.toList ++ [(e.perform op).1.response]

/-- The packet is the next chunk of the open PIPE transfer, it fits, and the panel
takes it. -/
def TakesChunk (e : TransferEngine β) (p : Payload) : Prop :=
  e.txn.pipeFatal = false ∧ e.PipeReceiving ∧ ∃ data, p.bytes = e.txn.nextPipeSequence :: data ∧
    data.length ≤ (e.txn.expectedFrameBytes - e.txn.acceptedBytes).toNat ∧
    (writeContiguous e.backend e.txn.acceptedBytes data).1 = .ok

/-- The packet is answered from the counters of its transfer: a PIPE transfer refreshes,
or it receives and the packet is not the chunk that comes next.  A packet that ends its
transfer is answered when the counters have been reset. -/
def AnsweredFromCounters (e : TransferEngine β) (p : Payload) : Prop :=
  e.txn.mode = .pipe ∧ (e.txn.state = .refreshing ∨
    e.txn.state = .receiving ∧ ∃ seq data, p.bytes = seq :: data ∧ seq ≠ e.txn.nextPipeSequence)

/-- The transfer, with the number of chunks accepted since the last accepted `0x80` and the
window negotiated there. -/
structure PipeHistory where
  transfer : Transfer := {}
  accepted : ℕ := 0
  window : ℕ := 0

/-- The monitor of the accepted chunks and of the window. -/
def watchPipe (h : PipeHistory) (e : TransferEngine β) (op : EngineOp ω) : PipeHistory where
  transfer := watchTransfer h.transfer e op
  accepted :=
    match op with
    | .pipeStart _ _ => if (e.perform op).1.transferStarted then 0 else h.accepted
    | .pipeData _ _ =>
        if (e.step op).stats.pipePackets ≠ e.stats.pipePackets then h.accepted + 1
        else h.accepted
    | _ => h.accepted
  window :=
    match op with
    | .pipeStart _ _ =>
        if (e.perform op).1.transferStarted then (e.step op).txn.negotiatedWindow.toNat
        else h.window
    | _ => h.window

/-- Every `0x81` frame of a step acknowledges only chunks accepted before it is sent. -/
def StepAcksSound (s : PipeHistory × TransferEngine β) (op : EngineOp ω) : Prop :=
  ∀ r ∈ s.2.framesSent op,
    AckSound (watchPipe s.1 s.2 op).accepted (watchPipe s.1 s.2 op).window r

instance (s : PipeHistory × TransferEngine β) (op : EngineOp ω) : Decidable (StepAcksSound s op) :=
  inferInstanceAs (Decidable (∀ r ∈ s.2.framesSent op, AckSound _ _ r))

/-- A `0x81` packet that is neither discarded nor accepted comes when a chunk has been
accepted; and unless it is answered from the counters of its transfer, the next chunk with
the number `0` is not within the window. -/
def AckDue (s : PipeHistory × TransferEngine β) (op : EngineOp ω) : Prop :=
  ∀ p now, op = .pipeData p now → s.2.txn.pipeFatal = true ∨ s.2.TakesChunk p ∨
    1 ≤ s.1.accepted ∧ (s.2.AnsweredFromCounters p ∨ ZeroPast s.1.accepted s.1.window)

/-- What holds between two operations. -/
structure PipeInv (s : PipeHistory × TransferEngine β) : Prop where
  ledger : Ledger s.1.transfer s.2
  no_tail : s.2.hasTailSack = false
  accepted_eq : s.1.transfer.mode = .pipe → s.1.accepted = s.1.transfer.chunks.length
  window_le : s.1.window ≤ pipeMaxWindow.toNat

lemma Ledger.serve {t : Transfer} (h : Ledger t e) (op : EngineOp ω) :
    Ledger (watchTransfer t e op) (e.serve op) :=
  (h.step op).congr (takeTailSack_txn _) (takeTailSack_hwOwned _)

omit [PanelWorld β ω] in
/-- The window is capped by ours. -/
lemma negotiatedWindow_le {p : Payload} {now : UInt32}
    (hstarted : (e.onPipeStart p now).1.transferStarted = true) :
    (e.onPipeStart p now).2.txn.negotiatedWindow.toNat ≤ pipeMaxWindow.toNat := by
  have ho := onPipeStart_outcome e p now
  generalize (e.onPipeStart p now).1 = res, (e.onPipeStart p now).2 = e₁ at ho hstarted ⊢
  cases ho with
  | badHeader | compressed | refused => cases hstarted
  | started req _ _ _ _ _ _ _ hwindow =>
      rw [← UInt8.le_iff_toNat_le]
      simp only [hwindow]
      split_ifs with hlt
      · exact UInt8.le_of_lt hlt
      · exact UInt8.le_refl _

lemma PipeInv.step {s : PipeHistory × TransferEngine β} (h : PipeInv s) (op : EngineOp ω) :
    PipeInv (Machine.monitored TransferEngine.serve watchPipe s op) where
  ledger := h.ledger.serve op
  no_tail := takeTailSack_hasTailSack _
  accepted_eq := by
    have heq := h.accepted_eq
    cases op with
    | directStart =>
        simp only [Machine.monitored, watchPipe, watchTransfer]
        split_ifs
        · intro hmode
          cases hmode
        · exact heq
    | directData =>
        simp only [Machine.monitored, watchPipe, watchTransfer]
        split_ifs with hcounted
        · intro hmode
          rw [Transfer.mode_accept, h.ledger.mode_of_directData hcounted] at hmode
          cases hmode
        · exact heq
    | pipeStart =>
        simp only [Machine.monitored, watchPipe, watchTransfer]
        split_ifs
        · exact fun _ => rfl
        · exact heq
    | pipeData =>
        simp only [Machine.monitored, watchPipe, watchTransfer]
        split_ifs
        · intro hmode
          rw [Transfer.length_chunks_accept, heq (by simpa using hmode)]
        · exact heq
    | _ => exact heq
  window_le := by
    have hle := h.window_le
    cases op with
    | pipeStart p now =>
        simp only [Machine.monitored, watchPipe]
        split_ifs with hstarted
        · exact negotiatedWindow_le hstarted
        · exact hle
    | _ => exact hle

omit [OpenDisplayBackend β] in
/-- The counters in force are those of the chunks accepted while a PIPE transfer is open or
refreshes, and zero otherwise. -/
lemma PipeInv.counters {s : PipeHistory × TransferEngine β} (h : PipeInv s) :
    PipeCounters (if s.2.txn.mode = .pipe then s.1.accepted else 0) s.2.txn ∧
      (s.2.txn.mode = .pipe → s.2.txn.state = .receiving ∨ s.2.txn.state = .refreshing) := by
  have hbook : Bookkeeping s.1.transfer s.2.txn →
      PipeCounters (if s.2.txn.mode = .pipe then s.1.accepted else 0) s.2.txn := by
    intro hbook
    have hcounters := hbook.counters
    rw [hbook.mode_eq]
    split_ifs with hmode
    · rwa [h.accepted_eq hmode, ← Transfer.pipeChunks_of_pipe hmode]
    · rwa [Transfer.pipeChunks_of_ne hmode] at hcounters
  cases h.ledger with
  | idle htxn => rw [htxn]; exact ⟨⟨rfl, rfl, rfl⟩, fun hmode => by cases hmode⟩
  | receiving hstate _ hb => exact ⟨hbook hb, fun _ => Or.inl hstate⟩
  | refreshing hstate _ hb => exact ⟨hbook hb, fun _ => Or.inr hstate⟩

/-! ### The frames of a step -/

/-- The end of a transfer is answered with an ACK or a NACK of the END. -/
lemma FinishOutcome.ackView_eq {endOpcode : UInt16} {now : UInt32} {res : EngineResult}
    (h : FinishOutcome e endOpcode now res e') : ackView res.response = none := by
  cases h <;> rfl

/-- What an operation can send: nothing, an ACK or a NACK of a transfer command, the answer to a
`0x0080`, or, for the other two commands of a PIPE transfer, an acknowledgement of chunks. -/
inductive SentFrame (op : EngineOp ω) : Response → Prop
  | silent : SentFrame op .empty
  | acked (opcode : UInt16) (hopcode : opcode ∈ [cmdDirectWriteStart, cmdDirectWriteData,
      cmdDirectWriteEnd, cmdPipeWriteEnd]) : SentFrame op (encodeAck opcode)
  | nacked (opcode : UInt16) : SentFrame op (encodeNack opcode)
  | refused (opcode : UInt16) (code : UInt8) : SentFrame op (encodeNackErr opcode code)
  | opened (window ackEvery : UInt8) (frame : UInt16) (flags : UInt8) :
      SentFrame op (encodePipeStartResponse window ackEvery frame flags)
  | sack (hop : (∃ p now, op = .pipeData p now) ∨ ∃ p now, op = .pipeEnd p now)
      (highestSeen : UInt8) (mask : UInt32) : SentFrame op (encodePipeSack highestSeen mask)
  | nackedChunk (hop : ∃ p now, op = .pipeData p now) (code highestSeen : UInt8) (mask : UInt32) :
      SentFrame op (encodePipeNack code highestSeen mask)

omit [PanelWorld β ω] in
lemma FinishOutcome.sentFrame {op : EngineOp ω} {endOpcode : UInt16} {now : UInt32}
    {res : EngineResult} (h : FinishOutcome e endOpcode now res e')
    (hopcode : endOpcode ∈ [cmdDirectWriteStart, cmdDirectWriteData, cmdDirectWriteEnd,
      cmdPipeWriteEnd]) : SentFrame op res.response := by
  cases h with
  | incomplete | finishFailed | refreshFailed => exact .nacked endOpcode
  | refreshing => exact .acked endOpcode hopcode

omit [OpenDisplayBackend β] [PanelWorld β ω] in
/-- Where no SACK is staged, the response is all that is sent. -/
lemma sentFrame_alone {op : EngineOp ω} {response : Response} (htail : e.hasTailSack = false)
    (h : SentFrame op response) : ∀ r ∈ e.takeTailSack.1.toList ++ [response], SentFrame op r := by
  intro r hr
  rw [takeTailSack_of_not htail] at hr
  obtain rfl := List.mem_singleton.mp hr
  exact h

omit [PanelWorld β ω] in
/-- The end of a PIPE transfer is answered after the SACK that was staged for it. -/
lemma FinishOutcome.sentFrame_staged {op : EngineOp ω} {now : UInt32} {res : EngineResult}
    (h : FinishOutcome e.stageTailSack cmdPipeWriteEnd now res e')
    (hop : (∃ p now, op = .pipeData p now) ∨ ∃ p now, op = .pipeEnd p now) :
    ∀ r ∈ e'.takeTailSack.1.toList ++ [res.response], SentFrame op r := by
  intro r hr
  rw [h.frames_of_staged, List.mem_cons, List.mem_singleton] at hr
  rcases hr with rfl | rfl
  · exact .sack hop _ _
  · exact h.sentFrame (by simp)

/-- **Every frame of a step is one of these.** -/
theorem sentFrame_framesSent (htail : e.hasTailSack = false) (op : EngineOp ω) :
    ∀ r ∈ e.framesSent op, SentFrame op r := by
  cases op with
  | directStart p now =>
      have ho := onDirectStart_outcome e p now
      simp only [framesSent, step, perform]
      generalize (e.onDirectStart p now).1 = res, (e.onDirectStart p now).2 = e₁ at ho ⊢
      cases ho with
      | compressed => exact sentFrame_alone htail (.nacked _)
      | refused _ _ _ hbegin => exact sentFrame_alone (hbegin.hasTailSack.trans htail) (.nacked _)
      | started _ _ hbegin => exact sentFrame_alone (hbegin.hasTailSack.trans htail) (.acked _ (by simp))
  | directData p now =>
      have ho := onDirectData_outcome e p now
      simp only [framesSent, step, perform]
      generalize (e.onDirectData p now).1 = res, (e.onDirectData p now).2 = e₁ at ho ⊢
      cases ho with
      | misplaced => exact sentFrame_alone htail (.nacked _)
      | accepted => exact sentFrame_alone htail (.acked _ (by simp))
      | malformed | oversize | writeFailed => exact sentFrame_alone (by simpa using htail) (.nacked _)
  | directEnd p now =>
      have ho := onDirectEnd_outcome e p now
      simp only [framesSent, step, perform]
      generalize (e.onDirectEnd p now).1 = res, (e.onDirectEnd p now).2 = e₁ at ho ⊢
      cases ho with
      | misplaced => exact sentFrame_alone htail (.nacked _)
      | finished _ _ _ _ hfinish =>
          exact sentFrame_alone (hfinish.staged.1.trans htail) (hfinish.sentFrame (by simp))
  | pipeStart p now =>
      have ho := onPipeStart_outcome e p now
      simp only [framesSent, step, perform]
      generalize (e.onPipeStart p now).1 = res, (e.onPipeStart p now).2 = e₁ at ho ⊢
      cases ho with
      | badHeader | compressed => exact sentFrame_alone htail (.refused _ _)
      | refused _ _ _ _ _ hbegin => exact sentFrame_alone (hbegin.hasTailSack.trans htail) (.refused _ _)
      | started _ _ _ _ hbegin =>
          exact sentFrame_alone (hbegin.hasTailSack.trans htail) (.opened _ _ _ _)
  | pipeData p now =>
      have ho := onPipeData_outcome e p now
      simp only [framesSent, step, perform]
      generalize (e.onPipeData p now).1 = res, (e.onPipeData p now).2 = e₁ at ho ⊢
      have hop : ∃ p' now', (.pipeData p now : EngineOp ω) = .pipeData p' now' := ⟨p, now, rfl⟩
      cases ho with
      | latched => exact sentFrame_alone htail .silent
      | misplaced => exact sentFrame_alone htail (.nackedChunk hop _ _ _)
      | outOfOrder => exact sentFrame_alone htail (.sack (Or.inl hop) _ _)
      | malformed | oversize | writeFailed =>
          exact sentFrame_alone (by simpa using htail) (.nackedChunk hop _ _ _)
      | accepted _ _ _ _ _ _ _ _ hchunk =>
          cases hchunk with
          | completed _ _ _ hfinish => exact hfinish.sentFrame_staged (Or.inl hop)
          | sacked => exact sentFrame_alone htail (.sack (Or.inl hop) _ _)
          | silent => exact sentFrame_alone htail .silent
  | pipeEnd p now =>
      have ho := onPipeEnd_outcome e p now
      simp only [framesSent, step, perform]
      generalize (e.onPipeEnd p now).1 = res, (e.onPipeEnd p now).2 = e₁ at ho ⊢
      cases ho with
      | misplaced => exact sentFrame_alone htail (.nacked _)
      | flushed _ _ _ _ hfinish => exact hfinish.sentFrame_staged (Or.inr ⟨p, now, rfl⟩)
      | finished _ _ _ _ hfinish =>
          exact sentFrame_alone (hfinish.staged.1.trans htail) (hfinish.sentFrame (by simp))
  | tick now =>
      have ho := tick_outcome e now
      simp only [framesSent, step, perform]
      generalize (e.tick now).1 = res, (e.tick now).2 = e₁ at ho ⊢
      have hpolled : ∀ {e₁}, Polled e e₁ → e₁.hasTailSack = false := by
        intro e₁ hp
        cases hp <;> exact htail
      cases ho with
      | complete | failed | released => exact sentFrame_alone htail .silent
      | waiting _ hp => exact sentFrame_alone (hpolled hp) .silent
      | transferTimeout _ hp | refreshTimeout _ hp =>
          exact sentFrame_alone (by simpa using hpolled hp) .silent
  | abort error =>
      have hnone : (e.abort error).hasTailSack = false := by simpa using htail
      exact sentFrame_alone hnone .silent
  | disconnect gen =>
      have hnone : (e.onDisconnect gen).hasTailSack = false := by simpa using htail
      exact sentFrame_alone hnone .silent
  | setConnectionGeneration | world => exact sentFrame_alone htail .silent
  | takeTailSack =>
      have hnone : e.takeTailSack.2.hasTailSack = false := takeTailSack_hasTailSack e
      exact sentFrame_alone hnone .silent

/-- Operations other than a `0x81` or a `0x82` send no acknowledgement of chunks. -/
lemma framesSent_silent {op : EngineOp ω} (htail : e.hasTailSack = false)
    (hdata : ∀ p now, op ≠ .pipeData p now) (hend : ∀ p now, op ≠ .pipeEnd p now) :
    ∀ r ∈ e.framesSent op, ackView r = none := by
  intro r hr
  cases sentFrame_framesSent htail op r hr with
  | silent | acked | nacked | refused => rfl
  | opened => exact ackView_encodePipeStartResponse _ _ _ _
  | sack hop =>
      rcases hop with ⟨p, now, hop⟩ | ⟨p, now, hop⟩
      · exact absurd hop (hdata p now)
      · exact absurd hop (hend p now)
  | nackedChunk hop =>
      obtain ⟨p, now, hop⟩ := hop
      exact absurd hop (hdata p now)

section Chunk

variable {n window : ℕ}

omit [OpenDisplayBackend β] in
/-- A single frame that acknowledges chunks is sound if these are accepted. -/
lemma ackSound_single_iff {r : Response} {view : UInt8 × UInt32} (htail : e.hasTailSack = false)
    (hview : ackView r = some view) :
    (∀ r' ∈ e.takeTailSack.1.toList ++ [r], AckSound n window r') ↔
      AckCovered n window view.1 view.2 := by
  rw [takeTailSack_of_not htail]
  simp only [Option.toList_none, List.nil_append, List.mem_singleton, forall_eq]
  exact ackSound_of_some hview

omit [OpenDisplayBackend β] in
/-- The counters in force cover no chunk that is not accepted, once there is one. -/
lemma ackCovered_counters_iff {p : Payload} (hanswered : e.AnsweredFromCounters p)
    (hcounters : PipeCounters n e.txn) (hwindow : window ≤ pipeMaxWindow.toNat) :
    AckCovered n window e.txn.highestSeen (buildInorderAckMask e.txn.acceptedPackets) ↔
      1 ≤ n ∧ (e.AnsweredFromCounters p ∨ ZeroPast n window) := by
  refine ⟨fun hcovered => ⟨Nat.one_le_iff_ne_zero.mpr ?_, Or.inl hanswered⟩,
    fun hpos => hcounters.ackCovered hpos.1 hwindow⟩
  rintro rfl
  exact not_ackCovered_zero _ _ _ hcovered

omit [OpenDisplayBackend β] in
/-- Counters that have been reset acknowledge the number `0`. -/
lemma ackCovered_reset_iff {p : Payload} (hanswered : ¬ e.AnsweredFromCounters p) :
    AckCovered n window 0 0 ↔ 1 ≤ n ∧ (e.AnsweredFromCounters p ∨ ZeroPast n window) := by
  rw [ackCovered_zeros_iff, or_iff_right hanswered]
  exact ⟨fun hpast => ⟨hpast.1, hpast⟩, And.right⟩

omit [OpenDisplayBackend β] in
/-- A packet that is not out of order finds the counters reset when it is answered. -/
lemma PipeReceiving.not_answeredFromCounters {p : Payload} (hplace : e.PipeReceiving)
    (hnext : ∀ seq data, p.bytes = seq :: data → seq = e.txn.nextPipeSequence) :
    ¬ e.AnsweredFromCounters p := by
  rintro ⟨-, hstate | ⟨-, seq, data, hbytes, hseq⟩⟩
  · cases hplace.1.symm.trans hstate
  · exact hseq (hnext seq data hbytes)

/-- What is sent for a chunk that is accepted is sound. -/
lemma ChunkOutcome.ackSound {now : UInt32} {res : EngineResult} {e' : TransferEngine β}
    (h : ChunkOutcome e now res e') (hcounters : PipeCounters n e.txn) (hpos : 1 ≤ n)
    (hwindow : window ≤ pipeMaxWindow.toNat) (htail : e.hasTailSack = false) :
    ∀ r ∈ e'.takeTailSack.1.toList ++ [res.response], AckSound n window r := by
  have hsack : AckSound n window e.inorderSack :=
    (ackSound_of_some (ackView_encodePipeSack _ _)).mpr (hcounters.ackCovered hpos hwindow)
  intro r hr
  cases h with
  | completed _ _ _ hfinish =>
      rw [hfinish.frames_of_staged, List.mem_cons, List.mem_singleton] at hr
      rcases hr with rfl | rfl
      · exact hsack
      · exact ackSound_of_none hfinish.ackView_eq
  | sacked =>
      obtain rfl : r = e.inorderSack := by simpa [takeTailSack, htail, reply] using hr
      exact hsack
  | silent =>
      obtain rfl : r = Response.empty := by simpa [takeTailSack, htail] using hr
      exact ackSound_of_none rfl

/-- The frames of a `0x81` are sound exactly when the packet is discarded or accepted, or
what it is answered with stands for accepted chunks. -/
lemma framesSent_pipeData
    (hcounters : PipeCounters (if e.txn.mode = .pipe then n else 0) e.txn)
    (hstates : e.txn.mode = .pipe → e.txn.state = .receiving ∨ e.txn.state = .refreshing)
    (hwindow : window ≤ pipeMaxWindow.toNat) (htail : e.hasTailSack = false) (p : Payload)
    (now : UInt32) :
    (∀ r ∈ e.framesSent (.pipeData p now : EngineOp ω), AckSound
      (if (e.onPipeData p now).2.stats.pipePackets ≠ e.stats.pipePackets then n + 1 else n)
      window r) ↔
      e.txn.pipeFatal = true ∨ e.TakesChunk p ∨
        1 ≤ n ∧ (e.AnsweredFromCounters p ∨ ZeroPast n window) := by
  -- a packet that is not accepted is answered with one frame
  have hfault : ∀ {res : EngineResult} {e' : TransferEngine β} {view : UInt8 × UInt32},
      ackView res.response = some view → e'.hasTailSack = false →
      e'.stats.pipePackets = e.stats.pipePackets → e.txn.pipeFatal = false →
      ¬ e.TakesChunk p →
      (AckCovered n window view.1 view.2 ↔
        1 ≤ n ∧ (e.AnsweredFromCounters p ∨ ZeroPast n window)) →
      ((∀ r ∈ e'.takeTailSack.1.toList ++ [res.response], AckSound
        (if e'.stats.pipePackets ≠ e.stats.pipePackets then n + 1 else n) window r) ↔
        e.txn.pipeFatal = true ∨ e.TakesChunk p ∨
          1 ≤ n ∧ (e.AnsweredFromCounters p ∨ ZeroPast n window)) := by
    intro res e' view hview htail' hpackets hlatch htakes hcovered
    rw [if_neg (fun hne => hne hpackets), or_iff_right (by simp [hlatch]), or_iff_right htakes,
      ackSound_single_iff htail' hview, hcovered]
  have ho := onPipeData_outcome e p now
  simp only [framesSent, step, perform]
  generalize (e.onPipeData p now).1 = res, (e.onPipeData p now).2 = e' at ho ⊢
  cases ho with
  | latched hlatch =>
      refine iff_of_true ?_ (Or.inl hlatch)
      intro r hr
      refine ackSound_of_none ?_
      obtain rfl : r = Response.empty := by simpa [takeTailSack_of_not htail] using hr
      rfl
  | misplaced hlatch hplace =>
      refine hfault (ackView_encodePipeNack _ _ _) htail rfl hlatch (fun h => hplace h.2.1) ?_
      by_cases hmode : e.txn.mode = .pipe
      · have hrefreshing := (hstates hmode).resolve_left fun hstate => hplace ⟨hstate, hmode⟩
        rw [if_pos hmode] at hcounters
        exact ackCovered_counters_iff ⟨hmode, Or.inl hrefreshing⟩ hcounters hwindow
      · rw [if_neg hmode] at hcounters
        rw [hcounters.highest_eq, hcounters.packets_eq]
        exact ackCovered_reset_iff fun hanswered => hmode hanswered.1
  | malformed hlatch hplace hbytes =>
      refine hfault (ackView_encodePipeNack _ _ _) (by simpa using htail) (by simp) hlatch ?_
        (ackCovered_reset_iff (hplace.not_answeredFromCounters ?_))
      · rintro ⟨-, -, data, h, -⟩
        cases hbytes.symm.trans h
      · intro seq data h
        cases hbytes.symm.trans h
  | outOfOrder hlatch hplace seq data hbytes hseq =>
      rw [if_pos hplace.2] at hcounters
      refine hfault (ackView_encodePipeSack _ _) htail rfl hlatch ?_ (ackCovered_counters_iff
        ⟨hplace.2, Or.inr ⟨hplace.1, seq, data, hbytes, hseq⟩⟩ hcounters hwindow)
      rintro ⟨-, -, data', h, -⟩
      exact hseq (List.cons.inj (hbytes.symm.trans h)).1
  | oversize hlatch hplace data hbytes hfit =>
      refine hfault (ackView_encodePipeNack _ _ _) (by simpa using htail) (by simp) hlatch ?_
        (ackCovered_reset_iff (hplace.not_answeredFromCounters ?_))
      · rintro ⟨-, -, data', h, hle, -⟩
        obtain rfl := (List.cons.inj (hbytes.symm.trans h)).2
        omega
      · intro seq data' h
        exact (List.cons.inj (hbytes.symm.trans h)).1.symm
  | writeFailed hlatch hplace data hbytes _ hanswer =>
      refine hfault (ackView_encodePipeNack _ _ _) (by simpa using htail) (by simp) hlatch ?_
        (ackCovered_reset_iff (hplace.not_answeredFromCounters ?_))
      · rintro ⟨-, -, data', h, -, hok⟩
        obtain rfl := (List.cons.inj (hbytes.symm.trans h)).2
        exact hanswer hok
      · intro seq data' h
        exact (List.cons.inj (hbytes.symm.trans h)).1.symm
  | accepted hlatch hplace data hbytes hfit hanswer _ _ hchunk =>
      refine iff_of_true ?_ (Or.inr (Or.inl ⟨hlatch, hplace, data, hbytes, hfit, hanswer⟩))
      rw [if_pos (by rw [hchunk.pipePackets_eq]; exact Words.add_one_ne _)]
      rw [if_pos hplace.2] at hcounters
      exact hchunk.ackSound (hcounters.acceptPipe data.length now) (Nat.le_add_left 1 n) hwindow
        htail

end Chunk

/-- The frames of a `0x82` are sound: a tail SACK is staged only after a chunk. -/
lemma framesSent_pipeEnd {n window : ℕ}
    (hplaced : e.PipeReceiving → PipeCounters n e.txn ∧ e.txn.acceptedSinceAck.toNat ≤ n)
    (hwindow : window ≤ pipeMaxWindow.toNat) (htail : e.hasTailSack = false) (p : Payload)
    (now : UInt32) :
    ∀ r ∈ e.framesSent (.pipeEnd p now : EngineOp ω), AckSound n window r := by
  have ho := onPipeEnd_outcome e p now
  simp only [framesSent, step, perform]
  generalize (e.onPipeEnd p now).1 = res, (e.onPipeEnd p now).2 = e' at ho ⊢
  intro r hr
  cases ho with
  | misplaced =>
      obtain rfl : r = encodeNack cmdPipeWriteEnd := by
        simpa [takeTailSack, htail, reply] using hr
      exact ackSound_of_none rfl
  | flushed hplace hflush _ _ hfinish =>
      rw [hfinish.frames_of_staged, List.mem_cons, List.mem_singleton] at hr
      rcases hr with rfl | rfl
      · have hpos : 1 ≤ n := by
          have hne : e.txn.acceptedSinceAck.toNat ≠ 0 := fun h =>
            hflush (UInt8.toNat_inj.mp (by simpa using h))
          have := (hplaced hplace).2
          omega
        exact (ackSound_of_some (ackView_encodePipeSack _ _)).mpr
          ((hplaced hplace).1.ackCovered hpos hwindow)
      · exact ackSound_of_none hfinish.ackView_eq
  | finished _ _ _ _ hfinish =>
      obtain ⟨hhas, -⟩ := hfinish.staged
      obtain rfl : r = res.response := by
        simpa [takeTailSack_of_not (hhas.trans htail)] using hr
      exact ackSound_of_none hfinish.ackView_eq

/-- One step is sound exactly when its condition is met. -/
lemma PipeInv.stepAcksSound_iff {s : PipeHistory × TransferEngine β} (h : PipeInv s)
    (op : EngineOp ω) : StepAcksSound s op ↔ AckDue s op := by
  obtain ⟨hcounters, hstates⟩ := h.counters
  by_cases hdata : ∃ p now, op = .pipeData p now
  · obtain ⟨p, now, rfl⟩ := hdata
    have hframes := framesSent_pipeData (ω := ω) hcounters hstates h.window_le h.no_tail p now
    refine hframes.trans ?_
    simp [AckDue]
  · have hdata' : ∀ p now, op ≠ .pipeData p now := by simpa using hdata
    refine iff_of_true ?_ (fun p now hop => absurd hop (hdata' p now))
    by_cases hend : ∃ p now, op = .pipeEnd p now
    · obtain ⟨p, now, rfl⟩ := hend
      refine framesSent_pipeEnd (fun hplace => ?_) h.window_le h.no_tail p now
      rw [if_pos hplace.2] at hcounters
      obtain ⟨-, hbook, hopen⟩ := h.ledger.book_of_receiving hplace.1
      have hmode := hbook.mode_eq.symm.trans hplace.2
      have hsince := (hopen hmode).since_le
      rw [← h.accepted_eq hmode] at hsince
      exact ⟨hcounters, hsince⟩
    · intro r hr
      exact ackSound_of_none (framesSent_silent h.no_tail hdata' (by simpa using hend) r hr)

/-- **When PIPE acknowledgements are sound.**  A run sends only `0x81` frames that
acknowledge accepted chunks if and only if every `0x81` packet that is neither discarded
nor accepted arrives after a chunk of its transfer has been accepted, and, where it is not
answered from the counters of the transfer, not when the next chunk with the number `0` is
within the window. -/
theorem acksSound_iff (b : β) (transferMs refreshMs : UInt32) (ops : List (EngineOp ω)) :
    Machine.AllSteps (Machine.monitored serve watchPipe) StepAcksSound
        (({} : PipeHistory), init b transferMs refreshMs) ops ↔
      Machine.AllSteps (Machine.monitored serve watchPipe) AckDue
        (({} : PipeHistory), init b transferMs refreshMs) ops := by
  have hinit : PipeInv (({} : PipeHistory), init b transferMs refreshMs) :=
    ⟨ledger_init _ _ _ _, rfl, (fun h => nomatch h), Nat.zero_le _⟩
  exact Machine.allSteps_congr (fun _ op h _ => h.step op) (fun _ op h => h.stepAcksSound_iff op)
    hinit ops

end Soundness

/-- The header of a `0x80` for a frame of three bytes, with the given window and
cadence. -/
def pipeHeader (window ackEvery : UInt8) : Payload :=
  .ofBytes [0x01, 0x00, window, ackEvery, 0xF4, 0x00, 0x03, 0x00, 0x00, 0x00]

/-- The first chunk is lost and the second arrives: the SACK that answers it
acknowledges chunk `0`, of which nothing was received. -/
theorem acks_unsound_firstChunkLost :
    ¬ Machine.AllSteps (Machine.monitored serve watchPipe) StepAcksSound
      (({} : PipeHistory), init (ScriptedPanel.accepting 3 []) 30000 180000)
      [.pipeStart (pipeHeader 16 4) 0, .pipeData (.ofBytes [1, 8]) 1] := by
  decide +kernel

/-! ### Cadence and window -/

section Cadence

variable {β ω : Type} [OpenDisplayBackend β] [PanelWorld β ω] {e : TransferEngine β}

/-- The request of a `0x80` packet that is well formed. -/
def startRequest : EngineOp ω → Option PipeStartRequest
  | .pipeStart p _ => (parsePipeStart p).toOption
  | _ => none

/-- The client asks for no cadence above its window, as far as ours does not cap it. -/
def CadenceFits (req : PipeStartRequest) : Prop :=
  req.reqAckEvery ≤ req.reqWindow ∨ pipeMaxAckEvery ≤ req.reqWindow

/-- Every `0x80` that is accepted has a cadence that fits its window. -/
def StartFits (e : TransferEngine β) (op : EngineOp ω) : Prop :=
  ∀ req ∈ startRequest op, (e.perform op).1.transferStarted = true → CadenceFits req

instance (req : PipeStartRequest) : Decidable (CadenceFits req) :=
  inferInstanceAs (Decidable (_ ∨ _))

instance (e : TransferEngine β) (op : EngineOp ω) : Decidable (StartFits e op) :=
  inferInstanceAs (Decidable (∀ req ∈ startRequest op, _ → CadenceFits req))

/-- The two minima keep the order of the requested values. -/
lemma CadenceFits.min_le {req : PipeStartRequest} (h : CadenceFits req) :
    (if req.reqAckEvery < pipeMaxAckEvery then req.reqAckEvery else pipeMaxAckEvery) ≤
      (if req.reqWindow < pipeMaxWindow then req.reqWindow else pipeMaxWindow) := by
  have hcadence : pipeMaxAckEvery.toNat = 4 := rfl
  have hwindow : pipeMaxWindow.toNat = 16 := rfl
  simp only [CadenceFits, UInt8.le_iff_toNat_le, UInt8.lt_iff_toNat_lt] at h ⊢
  split_ifs <;> omega

/-- An open PIPE transfer has a cadence that does not exceed its window. -/
def Negotiated {β : Type} (e : TransferEngine β) : Prop :=
  e.PipeReceiving → e.txn.negotiatedAckEvery ≤ e.txn.negotiatedWindow

lemma Negotiated.step (h : Negotiated e) {op : EngineOp ω} (hfits : StartFits e op) :
    Negotiated (e.step op) := by
  intro hplace
  cases step_receiving e op hplace.1 with
  | kept hstate hsame =>
      rw [hsame.ackEvery_eq, hsame.window_eq]
      exact h ⟨hstate, hsame.mode_eq ▸ hplace.2⟩
  | directOpened _ _ _ _ hmode => rw [hplace.2] at hmode; cases hmode
  | pipeOpened p now req hop hparse hstarted _ _ hwindow hackEvery =>
      rw [hwindow, hackEvery]
      exact (hfits req (by simp [hop, startRequest, hparse, Except.toOption]) hstarted).min_le

/-- **A client that fits its cadence into its window is never left waiting.**  If every
accepted `0x80` has `req_ack_every ≤ req_window`, or a window of at least our cadence,
then in every reachable state of an open PIPE transfer fewer chunks than the window
are unacknowledged. -/
theorem acceptedSinceAck_lt_window (b : β) (transferMs refreshMs : UInt32)
    (ops : List (EngineOp ω))
    (hfits : Machine.AllSteps step StartFits (init b transferMs refreshMs) ops)
    (hplace : (Machine.exec step (init b transferMs refreshMs) ops).PipeReceiving) :
    (Machine.exec step (init b transferMs refreshMs) ops).txn.acceptedSinceAck <
      (Machine.exec step (init b transferMs refreshMs) ops).txn.negotiatedWindow := by
  have hledger := ledger_exec (s := (({} : Transfer), init b transferMs refreshMs))
    (ledger_init _ _ _ _) ops
  rw [Machine.exec_monitored_snd] at hledger
  have hnegotiated : Negotiated (Machine.exec step (init b transferMs refreshMs) ops) :=
    Machine.exec_invariant_of_allSteps (fun _ _ h hfits => h.step hfits)
      (fun hplace => nomatch hplace.1) hfits
  obtain ⟨-, hbook, hopen⟩ := hledger.book_of_receiving hplace.1
  have hsince := (hopen (hbook.mode_eq.symm.trans hplace.2)).since_lt
  exact UInt8.lt_of_lt_of_le hsince (hnegotiated hplace)

theorem acceptedSinceAck_lt_window_windowFour :
    (Machine.exec step (init (ScriptedPanel.accepting 3 []) 30000 180000)
        [.pipeStart (pipeHeader 4 32) 0, .pipeData (.ofBytes [0, 8]) 1]).txn.acceptedSinceAck <
      (Machine.exec step (init (ScriptedPanel.accepting 3 []) 30000 180000)
        [.pipeStart (pipeHeader 4 32) 0, .pipeData (.ofBytes [0, 8]) 1]).txn.negotiatedWindow :=
  acceptedSinceAck_lt_window _ _ _ _ (by decide) (by exact ⟨by decide, by decide⟩)

/-- A client that asks for a window of one chunk and a SACK every four: after its one
chunk it may not send another, and the engine has not acknowledged anything. -/
theorem window_deadlock_windowOne :
    let e := Machine.exec step (init (ScriptedPanel.accepting 3 []) 30000 180000)
      [.pipeStart (pipeHeader 1 4) 0, .pipeData (.ofBytes [0, 8]) 1]
    e.PipeReceiving ∧ ¬ e.txn.acceptedSinceAck < e.txn.negotiatedWindow := by
  exact ⟨⟨by decide, by decide⟩, by decide⟩

end Cadence

end TransferEngine

end OpenDisplay
