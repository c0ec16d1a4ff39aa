import OpenDisplay.Component.Respond
import OpenDisplay.Backend.Scripted
import Mathlib.Data.List.GetD

/-!
# A packet and the bytes behind it

A slot of the receive ring is written over only as far as the packet goes, and every handler
is given a pointer into it.  Which of them read on behind the packet?  Only the parser of the
PIPE START does: it tests for a header of eight bytes and takes the four bytes of the total
size from offset six, so the last one or two of them may be left over from an earlier packet.

They matter exactly when the panel is free, the rest of the header passes, and the bytes of the
total size that did come are those of a full frame (`ReadsBehind`): then it is the stale bytes
that decide between opening the transfer and refusing it.  In every other case a packet is
interpreted from its own bytes only, and two components that differ in nothing but stale bytes
do the same in every run that has no such packet.
-/

namespace OpenDisplay

/-! ### Payloads that differ behind their end -/

namespace Payload

/-- Two payloads of the same bytes.  What lies behind them may differ. -/
structure SameBytes (p p' : Payload) : Prop where
  len_eq : p'.len = p.len
  bytes_eq : p'.bytes = p.bytes
  isNull_eq : p'.isNull = p.isNull

/-- A read in the payload is the same on both sides. -/
lemma SameBytes.read_eq {p p' : Payload} (h : p.SameBytes p') {i : ℕ} (hi : i < p.len) :
    p'.read i = p.read i := by
  have h₁ := getElem?_bytes hi
  have h₂ := getElem?_bytes (h.len_eq ▸ hi : i < p'.len)
  rw [h.bytes_eq, h₁] at h₂
  exact (Option.some.inj h₂).symm

/-- The total size that `parse_pipe_start` reads. -/
def totalSize (p : Payload) : UInt32 := getU32Le (p.read 6) (p.read 7) (p.read 8) (p.read 9)

lemma SameBytes.totalSize_eq {p p' : Payload} (h : p.SameBytes p') (hlen : 10 ≤ p.len) :
    p'.totalSize = p.totalSize := by
  rw [totalSize, totalSize, h.read_eq (by omega), h.read_eq (by omega), h.read_eq (by omega),
    h.read_eq (by omega)]

/-- The part of a PIPE START header in front of the total size, as a client sends it that
asks for neither compression nor a partial update. -/
structure PlainHeader (p : Payload) : Prop where
  eight_le : 8 ≤ p.len
  version_eq : p.read 0 = pipeVersion
  flags_eq : p.read 1 = 0
  window_mem : pipeWindowLimitLo ≤ p.read 2 ∧ p.read 2 ≤ pipeWindowLimitHi
  ackEvery_mem : pipeWindowLimitLo ≤ p.read 3 ∧ p.read 3 ≤ pipeWindowLimitHi

/-- A header that passes, cut off within a total size of which the bytes that came are those
of `full`. -/
structure ShortStart (p : Payload) (full : UInt32) : Prop extends PlainHeader p where
  short : p.len < 10
  total_size : p.bytes.drop 6 <+: putU32Le full

instance (p : Payload) (full : UInt32) : Decidable (p.ShortStart full) :=
  decidable_of_iff
    ((8 ≤ p.len ∧ p.read 0 = pipeVersion ∧ p.read 1 = 0 ∧
        (pipeWindowLimitLo ≤ p.read 2 ∧ p.read 2 ≤ pipeWindowLimitHi) ∧
        pipeWindowLimitLo ≤ p.read 3 ∧ p.read 3 ≤ pipeWindowLimitHi) ∧
      p.len < 10 ∧ p.bytes.drop 6 <+: putU32Le full)
    ⟨fun ⟨⟨hlen, hversion, hflags, hwindow, hack⟩, hshort, htotal⟩ =>
      ⟨⟨hlen, hversion, hflags, hwindow, hack⟩, hshort, htotal⟩,
    fun h => ⟨⟨h.eight_le, h.version_eq, h.flags_eq, h.window_mem, h.ackEvery_mem⟩, h.short,
      h.total_size⟩⟩

/-- The request in a plain header. -/
def request (p : Payload) : PipeStartRequest where
  version := p.read 0
  flags := p.read 1
  reqWindow := p.read 2
  reqAckEvery := p.read 3
  clientMaxFrame := getU16Le (p.read 4) (p.read 5)
  totalSize := p.totalSize
  partialFrame := false

lemma not_isNull_of_eight_le {p : Payload} (h : 8 ≤ p.len) : p.isNull = false := by
  rcases hnull : p.isNull with _ | _
  · rfl
  · have hzero := len_eq_zero_of_isNull hnull
    omega

lemma PlainHeader.parse_eq {p : Payload} (h : p.PlainHeader) :
    parsePipeStart p = .ok p.request := by
  have hlen : ¬ (p.isNull || decide (p.len < 8)) = true := by
    simp [not_isNull_of_eight_le h.eight_le, h.eight_le]
  have hlimits : ¬ (p.read 2 < pipeWindowLimitLo ∨ p.read 2 > pipeWindowLimitHi ∨
      p.read 3 < pipeWindowLimitLo ∨ p.read 3 > pipeWindowLimitHi) := by
    have hwindow := h.window_mem
    have hack := h.ackEvery_mem
    simp only [not_or, UInt8.not_lt, gt_iff_lt]
    exact ⟨hwindow.1, hwindow.2, hack.1, hack.2⟩
  rw [parsePipeStart, if_neg hlen, if_neg (by simp [h.version_eq])]
  dsimp only
  rw [if_neg (by rw [h.flags_eq]; decide), if_neg (by rw [h.flags_eq]; decide), if_neg hlimits]
  rfl

lemma PlainHeader.not_compressed {p : Payload} (h : p.PlainHeader) :
    p.request.flags &&& pipeFlagCompressed = 0 := by
  change p.read 1 &&& pipeFlagCompressed = 0
  rw [h.flags_eq]
  rfl

/-- A byte in which no flag is set. -/
lemma flags_eq_zero {f : UInt8} (hknown : f &&& ~~~(pipeFlagCompressed ||| pipeFlagPartial) = 0)
    (hnotPartial : f &&& pipeFlagPartial = 0) (hcompressed : f &&& pipeFlagCompressed = 0) :
    f = 0 := by
  apply UInt8.toBitVec_inj.mp
  have hparts : f.toBitVec &&& ((~~~(pipeFlagCompressed ||| pipeFlagPartial)).toBitVec |||
      pipeFlagPartial.toBitVec ||| pipeFlagCompressed.toBitVec) = 0#8 := by
    rw [BitVec.and_or_distrib_left, BitVec.and_or_distrib_left, ← UInt8.toBitVec_and,
      ← UInt8.toBitVec_and, ← UInt8.toBitVec_and, hknown, hnotPartial, hcompressed]
    rfl
  -- the three masks together are all the bits
  have hall : (~~~(pipeFlagCompressed ||| pipeFlagPartial)).toBitVec |||
      pipeFlagPartial.toBitVec ||| pipeFlagCompressed.toBitVec = BitVec.allOnes 8 := by decide
  rw [hall, BitVec.and_allOnes] at hparts
  exact hparts

/-- A request that passes, and is not a compressed one, has a plain header. -/
lemma plainHeader_of_parse {p : Payload} {req : PipeStartRequest} (h : parsePipeStart p = .ok req)
    (hflag : req.flags &&& pipeFlagCompressed = 0) : p.PlainHeader := by
  have hlimits := limits_of_parsePipeStart h
  rw [parsePipeStart] at h
  dsimp only at h
  split_ifs at h with hlen hversion hknown hnotPartial
  obtain rfl := Except.ok.inj h
  simp only [Bool.or_eq_true, decide_eq_true_eq, not_or, Nat.not_lt] at hlen
  exact ⟨hlen.2, not_not.mp hversion,
    flags_eq_zero (not_not.mp hknown) (not_not.mp hnotPartial) hflag, hlimits.1, hlimits.2⟩

/-- Of a payload with other bytes behind it, the parser makes the same but for the total
size. -/
lemma SameBytes.parse_eq {p p' : Payload} (h : p.SameBytes p') :
    parsePipeStart p' =
      (parsePipeStart p).map fun req => { req with totalSize := p'.totalSize } := by
  rw [parsePipeStart, parsePipeStart, h.isNull_eq, h.len_eq]
  by_cases hlen : (p.isNull || decide (p.len < 8)) = true
  · rw [if_pos hlen, if_pos hlen]
    rfl
  · rw [if_neg hlen, if_neg hlen]
    have hlong : 8 ≤ p.len := by
      simp only [Bool.or_eq_true, decide_eq_true_eq, not_or, Nat.not_lt] at hlen
      exact hlen.2
    rw [h.read_eq (i := 0) (by omega), h.read_eq (i := 1) (by omega),
      h.read_eq (i := 2) (by omega), h.read_eq (i := 3) (by omega),
      h.read_eq (i := 4) (by omega), h.read_eq (i := 5) (by omega)]
    dsimp only
    split_ifs <;> rfl

/-- Where `parse_pipe_start` reads the payload, in its order. -/
def pipeStartReads (p : Payload) : List ℕ :=
  if p.isNull || p.len < 8 then []
  else if p.read 0 ≠ pipeVersion then [0]
  else if p.read 1 &&& ~~~(pipeFlagCompressed ||| pipeFlagPartial) ≠ 0 then [0, 1]
  else [0, 1, 2, 3, 4, 5, 6, 7, 8, 9]

/-- Besides the length the parser looks at nothing else. -/
lemma parse_eq_of_reads {p p' : Payload} (hlen : p'.len = p.len) (hnull : p'.isNull = p.isNull)
    (hreads : ∀ i ∈ p.pipeStartReads, p'.read i = p.read i) :
    parsePipeStart p' = parsePipeStart p := by
  rw [pipeStartReads] at hreads
  rw [parsePipeStart, parsePipeStart, hnull, hlen]
  by_cases hshort : (p.isNull || decide (p.len < 8)) = true
  · rw [if_pos hshort, if_pos hshort]
  rw [if_neg hshort] at hreads ⊢
  by_cases hversion : p.read 0 ≠ pipeVersion
  · rw [if_pos hversion] at hreads
    simp only [List.forall_mem_singleton] at hreads
    simp only [hreads, if_pos hversion, if_neg hshort]
  rw [if_neg hversion] at hreads
  by_cases hflags : p.read 1 &&& ~~~(pipeFlagCompressed ||| pipeFlagPartial) ≠ 0
  · rw [if_pos hflags] at hreads
    simp only [List.forall_mem_cons] at hreads
    simp only [hreads, if_pos hflags, if_neg hshort]
  · rw [if_neg hflags] at hreads
    simp only [List.forall_mem_cons] at hreads
    simp only [hreads, if_neg hshort]

/-- It reads on behind the payload where a header of eight or nine bytes gets as far as the
total size. -/
lemma reads_behind_iff (p : Payload) :
    (∃ i ∈ p.pipeStartReads, p.len ≤ i) ↔ (p.len = 8 ∨ p.len = 9) ∧ p.read 0 = pipeVersion ∧
      p.read 1 &&& ~~~(pipeFlagCompressed ||| pipeFlagPartial) = 0 := by
  rw [pipeStartReads]
  split_ifs with hshort hversion hflags
  · have hless : p.len < 8 := by
      rcases Bool.or_eq_true_iff.mp hshort with hnull | hless
      · rw [len_eq_zero_of_isNull hnull]
        decide
      · exact of_decide_eq_true hless
    simp only [List.not_mem_nil, false_and, exists_false, false_iff]
    omega
  · have hlong : ¬ p.len < 8 := fun h => hshort (by simp [h])
    simp only [List.mem_singleton, exists_eq_left, hversion, false_and, and_false, iff_false]
    omega
  · have hlong : ¬ p.len < 8 := fun h => hshort (by simp [h])
    simp only [List.mem_cons, List.not_mem_nil, or_false, exists_eq_or_imp, exists_eq_left, hflags,
      and_false, iff_false]
    omega
  · have hlong : ¬ p.len < 8 := fun h => hshort (by simp [h])
    simp only [List.mem_cons, List.not_mem_nil, or_false, exists_eq_or_imp, exists_eq_left,
      not_not.mp hversion, not_not.mp hflags, and_true]
    omega

lemma SameBytes.plainHeader {p p' : Payload} (h : p.SameBytes p') (hp : p.PlainHeader) :
    p'.PlainHeader := by
  have hlen := hp.eight_le
  have hreads : ∀ i < 8, p'.read i = p.read i := fun i hi => h.read_eq (by omega)
  exact ⟨h.len_eq ▸ hlen, by rw [hreads 0 (by omega), hp.version_eq],
    by rw [hreads 1 (by omega), hp.flags_eq], by rw [hreads 2 (by omega)]; exact hp.window_mem,
    by rw [hreads 3 (by omega)]; exact hp.ackEvery_mem⟩

/-- What came of the total size, in a payload that is cut off there. -/
lemma drop_six_prefix {p : Payload} (hlen : 8 ≤ p.len) (hshort : p.len < 10) :
    p.bytes.drop 6 <+: [p.read 6, p.read 7, p.read 8, p.read 9] := by
  rw [List.prefix_iff_eq_take, List.length_drop, length_bytes]
  apply List.ext_getElem?
  intro i
  by_cases hi : 6 + i < p.len
  · rw [List.getElem?_drop, getElem?_bytes hi, List.getElem?_take_of_lt (by omega)]
    obtain rfl | rfl | rfl : i = 0 ∨ i = 1 ∨ i = 2 := by omega
    all_goals rfl
  · rw [List.getElem?_eq_none (by simp; omega), List.getElem?_eq_none (by simp; omega)]

lemma PlainHeader.shortStart {p : Payload} (h : p.PlainHeader) (hshort : p.len < 10) :
    p.ShortStart p.totalSize where
  toPlainHeader := h
  short := hshort
  total_size := by
    rw [totalSize, putU32Le_getU32Le]
    exact drop_six_prefix h.eight_le hshort

/-- Whether a header is cut off shows in its own bytes. -/
lemma SameBytes.shortStart {p p' : Payload} (h : p.SameBytes p') {full : UInt32}
    (hp : p.ShortStart full) : p'.ShortStart full where
  toPlainHeader := h.plainHeader hp.toPlainHeader
  short := h.len_eq ▸ hp.short
  total_size := by rw [h.bytes_eq]; exact hp.total_size

/-- The bytes that came do not settle the total size. -/
lemma ShortStart.exists_other {p : Payload} {full : UInt32} (h : p.ShortStart full) :
    ∃ t, t ≠ full ∧ p.bytes.drop 6 <+: putU32Le t := by
  have hlen : (p.bytes.drop 6).length ≤ 3 := by
    have hshort := h.short
    rw [List.length_drop, length_bytes]
    omega
  obtain ⟨b₀, b₁, b₂, b₃, hfull⟩ : ∃ b₀ b₁ b₂ b₃, putU32Le full = [b₀, b₁, b₂, b₃] :=
    ⟨_, _, _, _, rfl⟩
  have hcut := h.total_size
  rw [hfull] at hcut
  refine ⟨getU32Le b₀ b₁ b₂ (b₃ + 1), fun heq => ?_, ?_⟩
  -- the last byte is another one
  · rw [← heq, putU32Le_getU32Le] at hfull
    simp at hfull
  · have hthree := List.prefix_of_prefix_length_le hcut
      (show [b₀, b₁, b₂] <+: [b₀, b₁, b₂, b₃] from ⟨[b₃], rfl⟩) hlen
    rw [putU32Le_getU32Le]
    exact hthree.trans ⟨[b₃ + 1], rfl⟩

lemma SameBytes.symm {p p' : Payload} (h : p.SameBytes p') : p'.SameBytes p :=
  ⟨h.len_eq.symm, h.bytes_eq.symm, h.isNull_eq.symm⟩

end Payload

/-! ### The engine -/

namespace TransferEngine

variable {β ω : Type} [OpenDisplayBackend β] [PanelWorld β ω]

open OpenDisplayBackend

/-- The size that a START has to announce: the panel is asked for it when the transfer in
flight has been aborted. -/
def requiredBytes (e : TransferEngine β) : UInt32 := (capabilities e.cleared.backend).fullFrameBytes

lemma cleared_state (e : TransferEngine β) : e.cleared.txn.state = .idle := by
  unfold cleared
  split_ifs with h
  · rw [abort_txn]
  · exact not_not.mp h

/-- Two sizes of which neither is that of a full frame are refused alike. -/
lemma beginTransaction_of_ne (e : TransferEngine β) (mode : TransferMode) {n m : UInt32}
    (hn : n ≠ e.requiredBytes) (hm : m ≠ e.requiredBytes) (nowMs : UInt32) :
    e.beginTransaction mode n nowMs = e.beginTransaction mode m nowMs := by
  rw [requiredBytes] at hn hm
  rw [beginTransaction, beginTransaction]
  dsimp only
  split_ifs
  · rfl
  · rfl

/-- While the panel is busy every size is refused. -/
lemma beginTransaction_of_owned {e : TransferEngine β} (hw : e.hwOwned = true)
    (mode : TransferMode) (n nowMs : UInt32) :
    e.beginTransaction mode n nowMs = (some .busy, e) := by
  rw [beginTransaction, if_pos hw]

/-- A START is answered from its own bytes, unless it is a short one that may be of the right
size and the panel is free. -/
lemma onPipeStart_sameBytes {e : TransferEngine β} {p p' : Payload} (h : p.SameBytes p')
    (hnot : ¬ (e.hwOwned = false ∧ p.ShortStart e.requiredBytes)) (nowMs : UInt32) :
    e.onPipeStart p' nowMs = e.onPipeStart p nowMs := by
  rw [onPipeStart, onPipeStart, h.parse_eq]
  rcases hparse : parsePipeStart p with code | req
  · rfl
  · dsimp only [Except.map]
    by_cases hflag : req.flags &&& pipeFlagCompressed ≠ 0
    · rw [if_pos hflag, if_pos hflag]
    · rw [if_neg hflag, if_neg hflag]
      have hplain := Payload.plainHeader_of_parse hparse (not_not.mp hflag)
      obtain rfl : p.request = req := Except.ok.inj (hplain.parse_eq.symm.trans hparse)
      have hbegin : e.beginTransaction .pipe p'.totalSize nowMs =
          e.beginTransaction .pipe p.request.totalSize nowMs := by
        rcases hw : e.hwOwned with _ | _
        · by_cases hlong : 10 ≤ p.len
          · rw [h.totalSize_eq hlong]
            rfl
          -- a short header: on neither side can the size be the right one
          · have hp : p.request.totalSize ≠ e.requiredBytes := fun heq =>
              hnot ⟨hw, heq ▸ hplain.shortStart (by omega)⟩
            have hp' : p'.totalSize ≠ e.requiredBytes := fun heq => by
              have hshort := (h.plainHeader hplain).shortStart (by rw [h.len_eq]; omega)
              exact hnot ⟨hw, h.symm.shortStart (heq ▸ hshort)⟩
            exact e.beginTransaction_of_ne .pipe hp' hp nowMs
        · rw [beginTransaction_of_owned hw, beginTransaction_of_owned hw]
      rw [hbegin]

/-- A plain START comes to the opening of a transaction. -/
lemma onPipeStart_of_plain (e : TransferEngine β) {p : Payload} (hplain : p.PlainHeader)
    (nowMs : UInt32) : ∃ why e₁, BeginOutcome e .pipe p.totalSize nowMs why e₁ ∧
      (e.onPipeStart p nowMs).2.txn.state = e₁.txn.state ∧
      (e.onPipeStart p nowMs).2.lastError = why.getD e₁.lastError := by
  have ho := e.onPipeStart_outcome p nowMs
  generalize e.onPipeStart p nowMs = answered at ho ⊢
  obtain ⟨res, e'⟩ := answered
  have hparse := hplain.parse_eq
  cases ho with
  | badHeader code herror => cases hparse.symm.trans herror
  | compressed req hok hflag =>
      obtain rfl := Except.ok.inj (hparse.symm.trans hok)
      exact absurd hplain.not_compressed hflag
  | refused req hok hflag why e₁ hbegin =>
      obtain rfl := Except.ok.inj (hparse.symm.trans hok)
      exact ⟨some why, e₁, hbegin, rfl, rfl⟩
  | started req hok hflag e₁ hbegin =>
      obtain rfl := Except.ok.inj (hparse.symm.trans hok)
      exact ⟨none, e₁, hbegin, rfl, rfl⟩

/-- A START of the right size opens a transfer, or fails in the panel. -/
lemma onPipeStart_of_eq {e : TransferEngine β} {p : Payload} (hw : e.hwOwned = false)
    (hplain : p.PlainHeader) (htotal : p.totalSize = e.requiredBytes) (nowMs : UInt32) :
    (e.onPipeStart p nowMs).2.txn.state = .receiving ∨
      (e.onPipeStart p nowMs).2.lastError = .backendBeginFailed := by
  obtain ⟨why, e₁, hbegin, hstate, herror⟩ := e.onPipeStart_of_plain hplain nowMs
  rw [hstate, herror]
  cases hbegin with
  | busy howned => simp [hw] at howned
  | sizeMismatch _ hsize => exact absurd htotal hsize
  | beginFailed => exact .inr rfl
  | opened => exact .inl rfl

/-- A START of another size ends with nothing open. -/
lemma onPipeStart_of_ne {e : TransferEngine β} {p : Payload} (hw : e.hwOwned = false)
    (hplain : p.PlainHeader) (htotal : p.totalSize ≠ e.requiredBytes) (nowMs : UInt32) :
    (e.onPipeStart p nowMs).2.txn.state = .idle ∧
      (e.onPipeStart p nowMs).2.lastError = .invalidSize := by
  obtain ⟨why, e₁, hbegin, hstate, herror⟩ := e.onPipeStart_of_plain hplain nowMs
  rw [hstate, herror]
  cases hbegin with
  | busy howned => simp [hw] at howned
  | sizeMismatch _ _ => exact ⟨cleared_state e, rfl⟩
  | beginFailed _ hsize => exact absurd hsize htotal
  | opened _ hsize => exact absurd hsize htotal

end TransferEngine

/-! ### Packets that differ behind their end -/

namespace RxPacket

/-- Two packets that differ in the stale bytes of their slots at most. -/
structure SameBytes (pkt pkt' : RxPacket) : Prop where
  generation_eq : pkt'.connectionGeneration = pkt.connectionGeneration
  length_eq : pkt'.payloadLength = pkt.payloadLength
  arrival_eq : pkt'.arrivalMs = pkt.arrivalMs
  bytes_eq : pkt'.bytes = pkt.bytes

/-- A packet copied into two slots. -/
lemma sameBytes_fill (slot slot' : RxPacket) (data : List UInt8) (generation nowMs : UInt32)
    (h : data.length ≤ rxSlotBytes) :
    (slot.fill data generation nowMs h).SameBytes (slot'.fill data generation nowMs h) :=
  ⟨rfl, rfl, rfl, by rw [bytes_fill, bytes_fill]⟩

lemma length_bytes (pkt : RxPacket) : pkt.bytes.length = pkt.payloadLength.toNat := by
  have hle := pkt.length_le
  rw [bytes, List.length_take, Vector.length_toList]
  omega

/-- The packet, received into another slot. -/
def into (pkt slot : RxPacket) : RxPacket :=
  slot.fill pkt.bytes pkt.connectionGeneration pkt.arrivalMs
    (by rw [length_bytes]; exact pkt.length_le)

lemma sameBytes_into (pkt slot : RxPacket) : pkt.SameBytes (pkt.into slot) where
  generation_eq := rfl
  length_eq := by
    rw [← UInt16.toNat_inj, into, fill, UInt16.toNat_ofNat', length_bytes]
    exact Nat.mod_eq_of_lt pkt.payloadLength.toNat_lt
  arrival_eq := rfl
  bytes_eq := bytes_fill ..

lemma toList_getD (pkt : RxPacket) {i : ℕ} (h : i < pkt.payloadLength.toNat) :
    pkt.payload.toList.getD i 0 = pkt.bytes.getD i 0 := by
  rw [bytes, List.getD_eq_getElem?_getD, List.getD_eq_getElem?_getD, List.getElem?_take_of_lt h]

/-- Two such packets are the same frame, but for what is behind the payload. -/
lemma SameBytes.frame {pkt pkt' : RxPacket} (h : pkt.SameBytes pkt') :
    Option.Rel (fun f f' => f'.opcode = f.opcode ∧ f.payload.SameBytes f'.payload)
      pkt.frame pkt'.frame := by
  have hlen : pkt'.payloadLength.toNat = pkt.payloadLength.toNat := by rw [h.length_eq]
  by_cases hshort : pkt.payloadLength.toNat < 2
  · rw [RxPacket.frame, RxPacket.frame, parseFrame, parseFrame, dif_pos hshort,
      dif_pos (by rw [hlen]; exact hshort)]
    exact .none
  · rw [RxPacket.frame, RxPacket.frame, parseFrame, parseFrame, dif_neg hshort,
      dif_neg (by rw [hlen]; exact hshort)]
    refine .some ⟨?_, ?_⟩
    · have h0 := toList_getD pkt (i := 0) (by omega)
      have h1 := toList_getD pkt (i := 1) (by omega)
      have h0' := toList_getD pkt' (i := 0) (by omega)
      have h1' := toList_getD pkt' (i := 1) (by omega)
      simp only [h0, h1, h0', h1', h.bytes_eq]
    · by_cases hmore : 2 < pkt.payloadLength.toNat
      · simp only [hlen, if_pos hmore]
        have hbytes := congrArg (List.drop 2) h.bytes_eq
        simp only [bytes, hlen, List.drop_take] at hbytes
        have hslot : ∀ v : Vector UInt8 rxSlotBytes, (v.toList.drop 2).isEmpty = false := by
          intro v
          rw [List.isEmpty_eq_false_iff, Ne, List.drop_eq_nil_iff, Vector.length_toList]
          decide
        exact ⟨rfl, hbytes, (hslot _).trans (hslot _).symm⟩
      · simp only [hlen, if_neg hmore]
        exact ⟨rfl, rfl, rfl⟩

lemma slot_of_frame {pkt : RxPacket} {f : Frame} (h : pkt.frame = some f)
    (hlen : 0 < f.payload.len) : f.payload.slot = pkt.payload.toList.drop 2 := by
  rw [RxPacket.frame, parseFrame] at h
  split_ifs at h with _ hmore
  · obtain rfl := Option.some.inj h
    rfl
  · obtain rfl := Option.some.inj h
    exact absurd hlen (by simp)

/-- In a slot in which a longer packet has been that begins alike, the stale bytes go on with
that packet. -/
lemma toList_into_fill (pkt slot : RxPacket) (rest : List UInt8) (generation nowMs : UInt32)
    (h : (pkt.bytes ++ rest).length ≤ rxSlotBytes) :
    ∃ more, (pkt.into (slot.fill (pkt.bytes ++ rest) generation nowMs h)).payload.toList =
      pkt.bytes ++ rest ++ more := by
  refine ⟨slot.payload.toList.drop (pkt.bytes ++ rest).length, ?_⟩
  simp only [into, fill, Vector.toList_mk, List.append_assoc, List.drop_left]

/-- A short START can be received so that its total size reads as any that goes with the bytes
that came. -/
lemma exists_sameBytes_totalSize {pkt : RxPacket} {f : Frame} (hframe : pkt.frame = some f)
    (hlen : 8 ≤ f.payload.len) {t : UInt32} (ht : f.payload.bytes.drop 6 <+: putU32Le t) :
    ∃ pkt' f', pkt.SameBytes pkt' ∧ pkt'.frame = some f' ∧ f'.opcode = f.opcode ∧
      f.payload.SameBytes f'.payload ∧ f'.payload.totalSize = t := by
  obtain ⟨rest, hrest⟩ := ht
  rw [payload_bytes hframe, List.drop_drop] at hrest
  have hbytes : f.payload.bytes.length = pkt.bytes.length - 2 := by
    rw [payload_bytes hframe, List.length_drop]
  rw [Payload.length_bytes] at hbytes
  have hdata : pkt.bytes ++ rest = pkt.bytes.take 8 ++ putU32Le t := by
    rw [← hrest, ← List.append_assoc, List.take_append_drop]
  have hroom : (pkt.bytes ++ rest).length ≤ rxSlotBytes := by
    rw [hdata, List.length_append, length_putU32Le, List.length_take]
    exact Nat.le_trans (Nat.add_le_add_right (Nat.min_le_left _ _) _) (by decide)
  -- the slot last held a START of the size `t`
  obtain ⟨more, hmore⟩ := toList_into_fill pkt {} rest 0 0 hroom
  have hsame := pkt.sameBytes_into (RxPacket.fill {} (pkt.bytes ++ rest) 0 0 hroom)
  generalize pkt.into _ = pkt' at hmore hsame
  have hrel := hsame.frame
  rw [hframe] at hrel
  generalize hframe' : pkt'.frame = frame' at hrel
  cases hrel with
  | @some _ f' h =>
      refine ⟨pkt', f', hsame, hframe', h.1, h.2, ?_⟩
      have hslot : f'.payload.slot = (pkt.bytes.take 8).drop 2 ++ (putU32Le t ++ more) := by
        rw [slot_of_frame hframe' (by rw [h.2.len_eq]; omega), hmore, hdata, List.append_assoc,
          List.drop_append_of_le_length (by rw [List.length_take]; omega)]
      have hhead : ((pkt.bytes.take 8).drop 2).length = 6 := by
        rw [List.length_drop, List.length_take]
        omega
      have hread : ∀ k, f'.payload.read (6 + k) = (putU32Le t ++ more).getD k 0 := by
        intro k
        rw [Payload.read, hslot, List.getD_append_right _ _ _ _ (by omega), hhead,
          Nat.add_sub_cancel_left]
      rw [Payload.totalSize, hread 0, hread 1, hread 2, hread 3]
      exact getU32Le_bytes t

end RxPacket

/-! ### Queues that differ in stale bytes -/

namespace RxQueue

/-- Two receive queues that differ in the stale bytes of their slots at most. -/
structure SameBytes (q q' : RxQueue) : Prop where
  head_eq : q'.ring.head = q.ring.head
  tail_eq : q'.ring.tail = q.ring.tail
  slot : ∀ i (h : i < rxQueueSlots), (q.ring.slot i h).SameBytes (q'.ring.slot i h)
  highWater_eq : q'.highWater = q.highWater
  overflows_eq : q'.overflows = q.overflows

variable {q q' : RxQueue}

lemma SameBytes.isFull_eq (h : q.SameBytes q') : q'.ring.isFull = q.ring.isFull := by
  rw [RingBuffer.isFull, RingBuffer.isFull, h.head_eq, h.tail_eq]

lemma SameBytes.isEmpty_eq (h : q.SameBytes q') : q'.ring.isEmpty = q.ring.isEmpty := by
  rw [RingBuffer.isEmpty, RingBuffer.isEmpty, h.head_eq, h.tail_eq]

/-- A packet is copied into both queues. -/
lemma SameBytes.push (h : q.SameBytes q') (data : List UInt8) (generation nowMs : UInt32) :
    (q.push data generation nowMs).2.SameBytes (q'.push data generation nowMs).2 := by
  rw [RxQueue.push, RxQueue.push]
  by_cases hlen : data.length = 0 ∨ rxSlotBytes < data.length
  · rw [dif_pos hlen, dif_pos hlen]
    exact h
  rw [dif_neg hlen, dif_neg hlen]
  rw [h.isFull_eq]
  by_cases hfull : q.ring.isFull = true
  · rw [if_pos hfull, if_pos hfull]
    exact ⟨h.head_eq, h.tail_eq, h.slot, h.highWater_eq, by rw [h.overflows_eq]⟩
  · rw [if_neg hfull, if_neg hfull]
    refine ⟨by simp only [RingBuffer.enqueue, h.head_eq], h.tail_eq, fun i hi => ?_,
      by simp only [RingBuffer.used, RingBuffer.enqueue, h.head_eq, h.tail_eq, h.highWater_eq],
      h.overflows_eq⟩
    by_cases hhead : q.ring.head = i
    · subst hhead
      simp only [RingBuffer.slot, RingBuffer.enqueue, h.head_eq, Vector.getElem_set_self]
      exact RxPacket.sameBytes_fill _ _ _ _ _ _
    · simp only [RingBuffer.slot, RingBuffer.enqueue, h.head_eq, Vector.getElem_set_ne _ _ hhead]
      exact h.slot i hi

/-- The same packet is taken from both queues. -/
lemma SameBytes.pop (h : q.SameBytes q') :
    Option.Rel RxPacket.SameBytes q.pop.1 q'.pop.1 ∧ q.pop.2.SameBytes q'.pop.2 := by
  rw [RxQueue.pop, RxQueue.pop]
  rw [h.isEmpty_eq]
  by_cases hempty : q.ring.isEmpty = true
  · rw [if_pos hempty, if_pos hempty]
    exact ⟨.none, h⟩
  · rw [if_neg hempty, if_neg hempty]
    refine ⟨.some ?_, h.head_eq, ?_, h.slot, h.highWater_eq, h.overflows_eq⟩
    · simp only [RingBuffer.tailSlot, h.tail_eq]
      exact h.slot _ _
    · simp only [RingBuffer.advance, h.tail_eq]

end RxQueue

namespace OpenDisplayComponent

variable {β ω : Type} [OpenDisplayBackend β] [PanelWorld β ω]

/-- What handling the packet does is settled by the packet's own bytes. -/
def OwnBytesOnly (c : OpenDisplayComponent β) (pkt : RxPacket) (nowMs : UInt32) : Prop :=
  ∀ pkt', pkt.SameBytes pkt' → c.handlePacket pkt' nowMs = c.handlePacket pkt nowMs

/-- The packet is a short PIPE START on which the bytes behind it decide. -/
def ReadsBehind (e : TransferEngine β) (pkt : RxPacket) : Prop :=
  e.hwOwned = false ∧
    ∃ f ∈ pkt.frame, f.opcode = cmdPipeWriteStart ∧ f.payload.ShortStart e.requiredBytes

instance (e : TransferEngine β) (pkt : RxPacket) : Decidable (ReadsBehind e pkt) :=
  inferInstanceAs (Decidable (_ ∧ _))

lemma handlePacket_sameBytes {c : OpenDisplayComponent β} {pkt : RxPacket}
    (hnot : ¬ ReadsBehind c.engine pkt) (nowMs : UInt32) : c.OwnBytesOnly pkt nowMs := by
  intro pkt' hsame
  have hrel := hsame.frame
  rw [handlePacket, handlePacket]
  generalize hframe : pkt.frame = frame at hrel
  generalize pkt'.frame = frame' at hrel
  cases hrel with
  | none => rfl
  | @some f f' h =>
      obtain ⟨hop, hp⟩ := h
      dsimp only
      rw [hop]
      -- the three commands that the component answers itself read nothing of the payload
      refine ite_congr rfl (fun _ => rfl) fun _ => ?_
      refine ite_congr rfl (fun _ => rfl) fun _ => ?_
      refine ite_congr rfl (fun _ => rfl) fun _ => ?_
      refine ite_congr rfl (fun _ => ?_) fun _ => ?_
      · rw [TransferEngine.onDirectStart, TransferEngine.onDirectStart, hp.len_eq]
      refine ite_congr rfl (fun _ => ?_) fun _ => ?_
      · rw [TransferEngine.onDirectData, TransferEngine.onDirectData, hp.len_eq, hp.isNull_eq,
          hp.bytes_eq]
      refine ite_congr rfl (fun _ => rfl) fun _ => ?_
      refine ite_congr rfl (fun hstart => ?_) fun _ => ?_
      · rw [TransferEngine.onPipeStart_sameBytes hp fun hbehind =>
          hnot ⟨hbehind.1, f, hframe, hstart, hbehind.2⟩]
      refine ite_congr rfl (fun _ => ?_) fun _ => rfl
      rw [TransferEngine.onPipeData, TransferEngine.onPipeData, hp.bytes_eq]

lemma handlePacket_pipeStart (c : OpenDisplayComponent β) {pkt : RxPacket} {f : Frame}
    (hframe : pkt.frame = some f) (hop : f.opcode = cmdPipeWriteStart) (nowMs : UInt32) :
    c.handlePacket pkt nowMs = c.answer (c.engine.onPipeStart f.payload nowMs) := by
  rw [handlePacket, hframe]
  simp only [hop]
  rfl

/-- What was stale in a total size decides the case: with one ending the size is the right one,
with another it is not. -/
lemma not_ownBytesOnly {c : OpenDisplayComponent β} {pkt : RxPacket}
    (h : ReadsBehind c.engine pkt) (nowMs : UInt32) : ¬ c.OwnBytesOnly pkt nowMs := by
  intro hown
  obtain ⟨hw, f, hframe, hop, hshort⟩ := h
  obtain ⟨pkt₁, f₁, hsame₁, hframe₁, hop₁, hp₁, htotal₁⟩ :=
    RxPacket.exists_sameBytes_totalSize hframe hshort.eight_le hshort.total_size
  obtain ⟨t, hother, ht⟩ := hshort.exists_other
  obtain ⟨pkt₂, f₂, hsame₂, hframe₂, hop₂, hp₂, htotal₂⟩ :=
    RxPacket.exists_sameBytes_totalSize hframe hshort.eight_le ht
  have heq : c.handlePacket pkt₁ nowMs = c.handlePacket pkt₂ nowMs :=
    (hown pkt₁ hsame₁).trans (hown pkt₂ hsame₂).symm
  rw [c.handlePacket_pipeStart hframe₁ (hop₁.trans hop),
    c.handlePacket_pipeStart hframe₂ (hop₂.trans hop)] at heq
  have hengine := congrArg (fun done => done.2.engine) heq
  simp only [engine_answer] at hengine
  have hstate := congrArg (fun e => e.txn.state) hengine
  have herror := congrArg (fun e => e.lastError) hengine
  simp only [TransferEngine.takeTailSack_txn, TransferEngine.takeTailSack_lastError]
    at hstate herror
  have hright := TransferEngine.onPipeStart_of_eq hw (hp₁.plainHeader hshort.toPlainHeader) htotal₁
    nowMs
  obtain ⟨hidle, hsize⟩ := TransferEngine.onPipeStart_of_ne hw
    (hp₂.plainHeader hshort.toPlainHeader) (htotal₂ ▸ hother) nowMs
  rw [hstate, herror, hidle, hsize] at hright
  simp at hright

/-! ### Steps that do not look at the receive queue -/

/-- The component with another receive queue. -/
def withRx (c : OpenDisplayComponent β) (q : RxQueue) : OpenDisplayComponent β := { c with rx := q }

/-- A part of the component that does not look at the receive queue. -/
def RxBlind (f : OpenDisplayComponent β → Done β) : Prop :=
  ∀ c q, f (c.withRx q) = ((f c).1, (f c).2.withRx q)

omit [OpenDisplayBackend β] in
lemma RxBlind.andThen {f g : OpenDisplayComponent β → Done β} (hf : RxBlind f) (hg : RxBlind g) :
    RxBlind fun c => OpenDisplayComponent.andThen (f c) g := by
  intro c q
  simp only [OpenDisplayComponent.andThen, hf c q, hg (f c).2 q]

omit [OpenDisplayBackend β] in
lemma rxBlind_send (r : Response) (terminal : Bool) :
    RxBlind fun c : OpenDisplayComponent β => c.send r terminal := fun _ _ => rfl

omit [OpenDisplayBackend β] in
lemma rxBlind_ite {P : OpenDisplayComponent β → Prop} [DecidablePred P]
    {f g : OpenDisplayComponent β → Done β} (hP : ∀ c q, P (c.withRx q) ↔ P c) (hf : RxBlind f)
    (hg : RxBlind g) : RxBlind fun c => if P c then f c else g c := by
  intro c q
  dsimp only
  by_cases h : P c
  · rw [if_pos h, if_pos ((hP c q).mpr h)]
    exact hf c q
  · rw [if_neg h, if_neg fun h' => h ((hP c q).mp h')]
    exact hg c q

omit [OpenDisplayBackend β] in
lemma rxBlind_applyResult (res : EngineResult) :
    RxBlind fun c : OpenDisplayComponent β => c.applyResult res := by
  have hdone : ∀ fx, RxBlind fun c : OpenDisplayComponent β => (fx, c) := fun _ _ _ => rfl
  have hraise : RxBlind (raiseError (β := β)) := fun _ _ => rfl
  unfold applyResult
  refine (((((RxBlind.andThen ?_ ?_).andThen ?_).andThen ?_).andThen ?_).andThen ?_)
  · intro c q
    dsimp only [withRx]
    generalize c.engine.takeTailSack = staged
    obtain ⟨_ | tail, e⟩ := staged <;> rfl
  · exact rxBlind_ite (fun _ _ => Iff.rfl) (rxBlind_send _ _) (hdone _)
  · exact hdone _
  · exact rxBlind_ite (fun _ _ => Iff.rfl) ((rxBlind_send _ _).andThen (hdone _)) (hdone _)
  · exact rxBlind_ite (fun _ _ => Iff.rfl) ((rxBlind_send _ _).andThen hraise) (hdone _)
  · exact rxBlind_ite (fun _ _ => Iff.rfl) hraise (hdone _)

omit [OpenDisplayBackend β] in
lemma rxBlind_answer (f : TransferEngine β → EngineResult × TransferEngine β) :
    RxBlind fun c : OpenDisplayComponent β => c.answer (f c.engine) :=
  fun c q => rxBlind_applyResult (f c.engine).1 { c with engine := (f c.engine).2 } q

omit [OpenDisplayBackend β] in
lemma rxBlind_sendConfig : RxBlind (sendConfig (β := β)) := by
  intro c q
  have hvalid : (c.withRx q).settings.configValid = c.settings.configValid := rfl
  rw [sendConfig, sendConfig, hvalid]
  rcases c.settings.configValid with _ | _ <;> rfl

omit [OpenDisplayBackend β] in
lemma rxBlind_publishState : RxBlind (publishState (β := β)) :=
  rxBlind_ite (P := fun c => c.engine.txn.state = .idle ∧ c.errorPending) (fun _ _ => Iff.rfl)
    (fun _ _ => rfl) fun _ _ => rfl

omit [OpenDisplayBackend β] in
lemma updateMsd_withRx (c : OpenDisplayComponent β) (q : RxQueue) (nowMs : UInt32)
    (temperature : Int) :
    (c.withRx q).updateMsd nowMs temperature = (c.updateMsd nowMs temperature).withRx q := by
  by_cases hwhen : nowMs ≠ 0 ∧ (nowMs - c.msdNextUpdateMs).toInt32 < 0
  · rw [updateMsd, updateMsd, if_pos hwhen]
    exact if_pos hwhen
  · rw [updateMsd, updateMsd, if_neg hwhen]
    exact if_neg hwhen

lemma rxBlind_handlePacket (pkt : RxPacket) (nowMs : UInt32) :
    RxBlind fun c : OpenDisplayComponent β => c.handlePacket pkt nowMs := by
  unfold handlePacket
  generalize pkt.frame = frame
  rcases frame with _ | f
  · exact fun _ _ => rfl
  · refine rxBlind_ite (fun _ _ => Iff.rfl) rxBlind_sendConfig ?_
    refine rxBlind_ite (fun _ _ => Iff.rfl) (fun _ _ => rfl) ?_
    refine rxBlind_ite (fun _ _ => Iff.rfl) (fun _ _ => rfl) ?_
    refine rxBlind_ite (fun _ _ => Iff.rfl) (rxBlind_answer fun e => e.onDirectStart _ _) ?_
    refine rxBlind_ite (fun _ _ => Iff.rfl) (rxBlind_answer fun e => e.onDirectData _ _) ?_
    refine rxBlind_ite (fun _ _ => Iff.rfl) (rxBlind_answer fun e => e.onDirectEnd _ _) ?_
    refine rxBlind_ite (fun _ _ => Iff.rfl) (rxBlind_answer fun e => e.onPipeStart _ _) ?_
    refine rxBlind_ite (fun _ _ => Iff.rfl) (rxBlind_answer fun e => e.onPipeData _ _) ?_
    exact rxBlind_ite (fun _ _ => Iff.rfl) (rxBlind_answer fun e => e.onPipeEnd _ _)
      (rxBlind_send _ _)

omit [OpenDisplayBackend β] in
/-- What does not look at the receive queue leaves it alone. -/
lemma RxBlind.rx_eq {f : OpenDisplayComponent β → Done β} (hf : RxBlind f)
    (c : OpenDisplayComponent β) : (f c).2.rx = c.rx := congrArg (fun done => done.2.rx) (hf c c.rx)

/-- The parts of the loop that take no packet. -/
lemma loop_withRx {c : OpenDisplayComponent β} (hphase : ∀ startMs n, c.phase ≠ .receive startMs n)
    (q : RxQueue) (nowMs : UInt32) (temperature : Int) :
    (c.withRx q).loop nowMs temperature =
      ((c.loop nowMs temperature).1, (c.loop nowMs temperature).2.withRx q) := by
  have hsame : (c.withRx q).phase = c.phase := rfl
  rw [loop, loop, hsame]
  rcases hc : c.phase with _ | ⟨startMs, n⟩ | startMs | startMs | _ | sent | _
  · have hconnected : (c.withRx q).connected = c.connected := rfl
    dsimp only
    rw [hconnected]
    rcases c.connected with _ | _ <;> rfl
  · exact absurd hc (hphase startMs n)
  · exact rxBlind_answer (fun e => e.tick startMs) { c with phase := .updateMsd startMs } q
  · dsimp only
    rw [updateMsd_withRx]
    rfl
  · rfl
  · have htx : (c.withRx q).tx = c.tx := rfl
    dsimp only
    rw [htx]
    split_ifs
    · rcases c.tx.pop with ⟨_ | r, tx⟩ <;> rfl
    · rfl
  · exact rxBlind_ite
      (P := fun c => c.engine.txn.state ≠ c.publishedState ∨ c.engine.isBusy ≠ c.publishedBusy)
      (fun _ _ => Iff.rfl) rxBlind_publishState (fun _ _ => rfl) { c with phase := .start } q

/-! ### Runs -/

/-- Two components that differ in the stale bytes of their slots at most. -/
def StaleApart (c c' : OpenDisplayComponent β) : Prop := ∃ q, c.rx.SameBytes q ∧ c' = c.withRx q

/-- The packet that the step has handled, if any. -/
def handledPacket (c : OpenDisplayComponent β) : ComponentOp ω → Option RxPacket
  | .loop _ _ => c.nextPacket.filter (·.connectionGeneration = c.connectionGeneration)
  | _ => none

/-- The step handles no packet on which the bytes behind it decide. -/
def KeepsToOwnBytes (c : OpenDisplayComponent β) (op : ComponentOp ω) : Prop :=
  ∀ pkt ∈ c.handledPacket op, ¬ ReadsBehind c.engine pkt

instance (c : OpenDisplayComponent β) (op : ComponentOp ω) : Decidable (c.KeepsToOwnBytes op) :=
  inferInstanceAs (Decidable (∀ pkt ∈ c.handledPacket op, ¬ ReadsBehind c.engine pkt))

variable {c c' : OpenDisplayComponent β}

omit [OpenDisplayBackend β] in
lemma StaleApart.of_rxBlind (h : StaleApart c c') {f : OpenDisplayComponent β → Done β}
    (hf : RxBlind f) : (f c').1 = (f c).1 ∧ StaleApart (f c).2 (f c').2 := by
  obtain ⟨q, hq, rfl⟩ := h
  rw [hf c q]
  exact ⟨rfl, q, by rw [hf.rx_eq]; exact hq, rfl⟩

/-- A part of the loop that takes packets. -/
lemma StaleApart.receive (h : StaleApart c c') {startMs : UInt32} {handled : ℕ}
    (hphase : c.phase = .receive startMs handled) {nowMs : UInt32} {temperature : Int}
    (hown : ∀ pkt ∈ c.nextPacket, pkt.connectionGeneration = c.connectionGeneration →
      ¬ ReadsBehind c.engine pkt) :
    (c'.loop nowMs temperature).1 = (c.loop nowMs temperature).1 ∧
      StaleApart (c.loop nowMs temperature).2 (c'.loop nowMs temperature).2 := by
  obtain ⟨q, hq, rfl⟩ := h
  have hphase' : (c.withRx q).phase = .receive startMs handled := hphase
  have hpop := hq.pop
  have hrx : (c.withRx q).rx = q := rfl
  rw [nextPacket, hphase] at hown
  rw [loop, loop, hphase, hphase']
  dsimp only at hown ⊢
  by_cases hlimit : handled < rxDrainLimit
  · rw [if_pos hlimit] at hown
    rw [if_pos hlimit, if_pos hlimit, hrx]
    generalize c.rx.pop = popped at hpop hown ⊢
    generalize q.pop = popped' at hpop ⊢
    obtain ⟨first, rx⟩ := popped
    obtain ⟨first', rx'⟩ := popped'
    obtain ⟨hrel, hrest⟩ := hpop
    cases hrel with
    | none => exact ⟨rfl, rx', hrest, rfl⟩
    | @some pkt pkt' hsame =>
        dsimp only
        have hgen : (c.withRx q).connectionGeneration = c.connectionGeneration := rfl
        rw [hsame.generation_eq, hgen]
        by_cases hstale : pkt.connectionGeneration ≠ c.connectionGeneration
        · rw [if_pos hstale, if_pos hstale]
          exact ⟨rfl, rx', hrest, rfl⟩
        · rw [if_neg hstale, if_neg hstale]
          let taken : OpenDisplayComponent β :=
            { c with rx := rx, phase := .receive startMs (handled + 1) }
          have hbytes : taken.handlePacket pkt' nowMs = taken.handlePacket pkt nowMs :=
            handlePacket_sameBytes (c := taken) (hown pkt rfl (not_not.mp hstale)) nowMs pkt' hsame
          have hapart : StaleApart taken (taken.withRx rx') := ⟨rx', hrest, rfl⟩
          have hdone := hapart.of_rxBlind (rxBlind_handlePacket pkt' nowMs)
          rw [hbytes] at hdone
          exact hdone
  · rw [if_neg hlimit, if_neg hlimit]
    exact ⟨rfl, q, hq, rfl⟩

/-- **A step keeps to the bytes of its packet**, unless it handles a START that does not. -/
theorem StaleApart.perform (h : StaleApart c c') {op : ComponentOp ω}
    (hown : c.KeepsToOwnBytes op) :
    (c'.perform op).1 = (c.perform op).1 ∧ StaleApart (c.step op) (c'.step op) := by
  cases op with
  | bleConnect => exact h.of_rxBlind (f := fun c => ([], c.onBleConnect)) fun _ _ => rfl
  | bleDisconnect => exact h.of_rxBlind (f := fun c => ([], c.onBleDisconnect)) fun _ _ => rfl
  | bleWrite data now =>
      obtain ⟨q, hq, rfl⟩ := h
      exact ⟨rfl, _, hq.push data c.connectionGeneration now, rfl⟩
  | loop now temperature =>
      rcases hphase : c.phase with _ | ⟨startMs, handled⟩ | _ | _ | _ | _ | _
      case receive =>
        refine h.receive hphase fun pkt hnext hgen => hown pkt ?_
        simpa [handledPacket, Option.mem_filter_iff] using ⟨hnext, hgen⟩
      all_goals
        obtain ⟨q, hq, rfl⟩ := h
        have hloop := fun q => loop_withRx (c := c) (by simp [hphase]) q now temperature
        have hkeep : (c.loop now temperature).2.rx = c.rx :=
          congrArg (fun done => done.2.rx) (hloop c.rx)
        change ((c.withRx q).loop now temperature).1 = (c.loop now temperature).1 ∧
          StaleApart (c.loop now temperature).2 ((c.withRx q).loop now temperature).2
        rw [hloop q]
        exact ⟨rfl, q, by rw [hkeep]; exact hq, rfl⟩
  | abort => exact h.of_rxBlind (f := fun c => ([], c.abort)) fun _ _ => rfl
  | world event =>
      exact h.of_rxBlind (f := fun c =>
        ([], { c with engine.backend := PanelWorld.happen event c.engine.backend })) fun _ _ => rfl

/-- **Which packets are interpreted from their own bytes.**  All of them, but for a short PIPE
START on which the bytes behind it decide; and in a run in which no such packet is handled,
stale bytes make no difference to what is done or to the component that is left.  The engine
holds the panel, so for a panel that records its calls these are the same too.  The parser of
the START reads on behind more packets than those, all of eight or nine bytes with a version
and flags that pass, but what it reads there is of no consequence for the others. -/
theorem own_bytes_only :
    (∀ (c : OpenDisplayComponent β) (pkt : RxPacket) (nowMs : UInt32),
      c.OwnBytesOnly pkt nowMs ↔ ¬ ReadsBehind c.engine pkt) ∧
    (∀ (c c' : OpenDisplayComponent β) (ops : List (ComponentOp ω)), StaleApart c c' →
      Machine.AllSteps step KeepsToOwnBytes c ops →
        Machine.outputs step (fun c op => (c.perform op).1) c' ops =
            Machine.outputs step (fun c op => (c.perform op).1) c ops ∧
          StaleApart (Machine.exec step c ops) (Machine.exec step c' ops)) ∧
    ∀ p : Payload,
      ((∃ i ∈ p.pipeStartReads, p.len ≤ i) ↔ (p.len = 8 ∨ p.len = 9) ∧ p.read 0 = pipeVersion ∧
        p.read 1 &&& ~~~(pipeFlagCompressed ||| pipeFlagPartial) = 0) ∧
      ∀ p', p'.len = p.len → p'.isNull = p.isNull →
        (∀ i ∈ p.pipeStartReads, p'.read i = p.read i) →
          parsePipeStart p' = parsePipeStart p := by
  refine ⟨fun c pkt nowMs => ⟨?_, fun hnot => handlePacket_sameBytes hnot nowMs⟩, ?_, fun p =>
    ⟨p.reads_behind_iff, fun p' => Payload.parse_eq_of_reads⟩⟩
  · exact fun hown hbehind => not_ownBytesOnly hbehind nowMs hown
  · intro c c' ops hapart hall
    exact Machine.outputs_eq_of_simulation (fun c c' op h hown => h.perform hown) hapart hall

/-! ### Two slots -/

/-- A PIPE START of eight bytes behind the opcode: window and cadence 1, frames of 244 bytes,
and of the total size the two bytes `03 00`. -/
def shortStart : List UInt8 := [0x00, 0x80, 0x01, 0x00, 0x01, 0x01, 0xF4, 0x00, 0x03, 0x00]

/-- A slot that was last filled to the brim. -/
def usedSlot : RxPacket := { RxPacket.fresh with payload := Vector.replicate rxSlotBytes 0xFF }

/-- A component on a panel of three bytes. -/
def threeByteComponent : OpenDisplayComponent ScriptedPanel :=
  (setup (.accepting 3 []) defaultSettings 80).2

/-- A queue of used slots. -/
def usedQueue : RxQueue := { ring := .fill usedSlot rxQueueSlots_pos }

lemma staleApart_usedQueue :
    StaleApart threeByteComponent (threeByteComponent.withRx usedQueue) := by
  refine ⟨usedQueue, ⟨rfl, rfl, fun i hi => ?_, rfl, rfl⟩, rfl⟩
  have hslot : ∀ a : RxPacket, (RingBuffer.fill a rxQueueSlots_pos).slot i hi = a :=
    fun a => by simp [RingBuffer.slot, RingBuffer.fill]
  have hfresh : threeByteComponent.rx.ring.slot i hi = {} := hslot _
  have hused : usedQueue.ring.slot i hi = usedSlot := hslot _
  rw [hfresh, hused]
  exact ⟨rfl, rfl, rfl, by simp [RxPacket.bytes, usedSlot, RxPacket.fresh]⟩

/-- A transfer of three bytes, by way of fresh slots and by way of used ones. -/
theorem own_bytes_only_directTransfer :
    Machine.outputs step (fun c op => (c.perform op).1) (threeByteComponent.withRx usedQueue)
        (directTransfer ++ loopParts 9 1 : List (ComponentOp Unit)) =
      Machine.outputs step (fun c op => (c.perform op).1) threeByteComponent
        (directTransfer ++ loopParts 9 1) := by
  have hown := (own_bytes_only (β := ScriptedPanel) (ω := Unit)).2.1 threeByteComponent
    (threeByteComponent.withRx usedQueue) (directTransfer ++ loopParts 9 1) staleApart_usedQueue
    (by decide +kernel)
  exact hown.1

/-- The short START in a fresh slot. -/
def freshStart : RxPacket := RxPacket.fresh.fill shortStart 1 0 (by decide)

/-- The short START in a used slot. -/
def usedStart : RxPacket := usedSlot.fill shortStart 1 0 (by decide)

/-- In a fresh slot the short START announces three bytes and opens a transfer; in a used slot
it announces `0xFFFF0003` bytes and is refused. -/
theorem stale_bytes_decide_shortStart :
    freshStart.SameBytes usedStart ∧
      handedFrames (threeByteComponent.handlePacket freshStart 0).1 =
        [(encodePipeStartResponse 1 1 244 0x00, false)] ∧
      handedFrames (threeByteComponent.handlePacket usedStart 0).1 =
        [(encodeNackErr cmdPipeWriteStart odErrPipeStartSizeMismatch, true)] ∧
      ¬ threeByteComponent.OwnBytesOnly freshStart 0 := by
  have hsame : freshStart.SameBytes usedStart :=
    RxPacket.sameBytes_fill {} usedSlot shortStart 1 0 _
  have hfresh : handedFrames (threeByteComponent.handlePacket freshStart 0).1 =
      [(encodePipeStartResponse 1 1 244 0x00, false)] := by decide +kernel
  have hused : handedFrames (threeByteComponent.handlePacket usedStart 0).1 =
      [(encodeNackErr cmdPipeWriteStart odErrPipeStartSizeMismatch, true)] := by decide +kernel
  refine ⟨hsame, hfresh, hused, fun hown => ?_⟩
  rw [hown usedStart hsame, hfresh] at hused
  exact absurd hused (by decide)

end OpenDisplayComponent

end OpenDisplay
