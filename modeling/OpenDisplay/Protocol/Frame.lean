import OpenDisplay.Protocol.Types
import OpenDisplay.Lib.Words
import Mathlib.Tactic.Common

/-!
# Frames and responses

The transport-neutral codec of `protocol.cpp`: the opcode of a frame is
big-endian, everything after it little-endian, and a response is
`[status][low byte of the command][data...]`.

A received payload is a pointer into a slot together with a length.  The slot
goes on behind the payload, and what lies there is left over from earlier
packets; a `Payload` therefore carries the bytes from the pointer to the end of
the slot, and the length separately.  The null pointer is the payload with no
bytes behind the pointer.
-/

namespace OpenDisplay

/-! ### Little-endian words -/

/-- `put_u16_le`. -/
def putU16Le (v : UInt16) : List UInt8 := [(v &&& 0xFF).toUInt8, (v >>> 8).toUInt8]

/-- The four low-to-high bytes of a word, as the encoders write them. -/
def putU32Le (v : UInt32) : List UInt8 :=
  [(v &&& 0xFF).toUInt8, ((v >>> 8) &&& 0xFF).toUInt8, ((v >>> 16) &&& 0xFF).toUInt8,
    ((v >>> 24) &&& 0xFF).toUInt8]

/-- `get_u16_le`. -/
def getU16Le (b₀ b₁ : UInt8) : UInt16 := b₀.toUInt16 ||| (b₁.toUInt16 <<< 8)

/-- `get_u32_le`. -/
def getU32Le (b₀ b₁ b₂ b₃ : UInt8) : UInt32 :=
  b₀.toUInt32 ||| (b₁.toUInt32 <<< 8) ||| (b₂.toUInt32 <<< 16) ||| (b₃.toUInt32 <<< 24)

@[simp] lemma length_putU16Le (v : UInt16) : (putU16Le v).length = 2 := rfl

@[simp] lemma length_putU32Le (v : UInt32) : (putU32Le v).length = 4 := rfl

/-- What `putU16Le` writes, `getU16Le` reads. -/
lemma getU16Le_bytes (v : UInt16) : getU16Le (v &&& 0xFF).toUInt8 (v >>> 8).toUInt8 = v := by
  rw [getU16Le, ← UInt16.toNat_inj]
  simpa using Words.or_shiftLeft_two_bytes v.toNat_lt

/-- What `putU32Le` writes, `getU32Le` reads. -/
lemma getU32Le_bytes (v : UInt32) :
    getU32Le (v &&& 0xFF).toUInt8 ((v >>> 8) &&& 0xFF).toUInt8 ((v >>> 16) &&& 0xFF).toUInt8
      ((v >>> 24) &&& 0xFF).toUInt8 = v := by
  rw [getU32Le, ← UInt32.toNat_inj]
  simpa using Words.or_shiftLeft_bytes v.toNat_lt

/-- What `getU32Le` reads, `putU32Le` writes back. -/
lemma putU32Le_getU32Le (b₀ b₁ b₂ b₃ : UInt8) :
    putU32Le (getU32Le b₀ b₁ b₂ b₃) = [b₀, b₁, b₂, b₃] := by
  have hmask : ∀ i : ℕ, ∀ h : i < 8, (255#8)[i] = true := by decide
  have hhigh : ∀ (b : UInt8) (i : ℕ), 8 ≤ i → b.toBitVec.getLsbD i = false :=
    fun b i h => BitVec.getLsbD_of_ge b.toBitVec i h
  simp only [putU32Le, getU32Le, List.cons.injEq, and_true]
  refine ⟨?_, ?_, ?_, ?_⟩
  all_goals
    apply UInt8.toBitVec_inj.mp
    ext i hi
    simp [hmask i hi] <;> grind

/-- The value of a word that is read, as a number. -/
lemma toNat_getU32Le (b₀ b₁ b₂ b₃ : UInt8) : (getU32Le b₀ b₁ b₂ b₃).toNat =
    b₀.toNat + 256 * b₁.toNat + 65536 * b₂.toNat + 16777216 * b₃.toNat := by
  have hbytes := putU32Le_getU32Le b₀ b₁ b₂ b₃
  generalize getU32Le b₀ b₁ b₂ b₃ = v at hbytes ⊢
  have hv := v.toNat_lt
  simp only [putU32Le, List.cons.injEq, and_true] at hbytes
  obtain ⟨rfl, rfl, rfl, rfl⟩ := hbytes
  have hmask : ∀ n : ℕ, n &&& 255 = n % 256 := fun n => Nat.and_two_pow_sub_one_eq_mod n 8
  simp [hmask, Nat.shiftRight_eq_div_pow]
  omega

lemma toNat_getU16Le (b₀ b₁ : UInt8) :
    (getU16Le b₀ b₁).toNat = b₀.toNat + 256 * b₁.toNat := by
  have h₀ := b₀.toNat_lt
  have h₁ := b₁.toNat_lt
  have hshift : b₁.toNat <<< 8 % 2 ^ 16 = b₁.toNat <<< 8 := by
    rw [Nat.shiftLeft_eq]
    exact Nat.mod_eq_of_lt (by omega)
  have hor := Nat.shiftLeft_add_eq_or_of_lt (i := 8) (b := b₀.toNat) h₀ b₁.toNat
  rw [getU16Le]
  simp only [UInt16.toNat_or, UInt16.toNat_shiftLeft, UInt8.toNat_toUInt16]
  change b₀.toNat ||| b₁.toNat <<< 8 % 2 ^ 16 = _
  rw [hshift, Nat.or_comm, ← hor, Nat.shiftLeft_eq]
  omega

/-! ### Payloads -/

/-- A pointer to received bytes and a length, as the handlers are given them. -/
structure Payload where
  /-- The bytes from the pointer to the end of the slot. -/
  slot : List UInt8
  /-- The payload length. -/
  len : ℕ
  len_le : len ≤ slot.length

namespace Payload

/-- The bytes of the payload itself. -/
def bytes (p : Payload) : List UInt8 := p.slot.take p.len

/-- The pointer is null. -/
def isNull (p : Payload) : Bool := p.slot.isEmpty

/-- The read `payload[i]`, which goes into the slot whether or not `i` is below
the length. -/
def read (p : Payload) (i : ℕ) : UInt8 := p.slot.getD i 0

/-- The payload with nothing behind it. -/
def ofBytes (bs : List UInt8) : Payload := ⟨bs, bs.length, Nat.le_refl _⟩

@[simp] lemma bytes_ofBytes (bs : List UInt8) : (ofBytes bs).bytes = bs := by
  simp [bytes, ofBytes]

@[simp] lemma len_ofBytes (bs : List UInt8) : (ofBytes bs).len = bs.length := rfl

@[simp] lemma length_bytes (p : Payload) : p.bytes.length = p.len := by
  simp [bytes, p.len_le]

/-- A read below the length is a read of the payload. -/
lemma getElem?_bytes {p : Payload} {i : ℕ} (h : i < p.len) : p.bytes[i]? = some (p.read i) := by
  have hslot : i < p.slot.length := Nat.lt_of_lt_of_le h p.len_le
  simp [bytes, read, h, hslot]

lemma len_eq_zero_of_isNull {p : Payload} (h : p.isNull = true) : p.len = 0 := by
  have hle := p.len_le
  rw [isNull, List.isEmpty_iff] at h
  simpa [h] using hle

end Payload

/-- A received frame: opcode and payload. -/
structure Frame where
  opcode : UInt16
  payload : Payload

/-- `parse_frame`, on the first `len` bytes of a slot: `none` when the buffer is
too short to carry an opcode. -/
def parseFrame (slot : List UInt8) (len : ℕ) (h : len ≤ slot.length) : Option Frame :=
  if h2 : len < 2 then none
  else some {
    opcode := ((slot.getD 0 0).toUInt16 <<< 8) ||| (slot.getD 1 0).toUInt16
    payload :=
      if 2 < len then ⟨slot.drop 2, len - 2, by rw [List.length_drop]; omega⟩
      else ⟨[], 0, Nat.le_refl _⟩ }

/-! ### Responses -/

/-- A response, which never exceeds one notification frame: the first `len`
bytes of the source's buffer. -/
structure Response where
  bytes : List UInt8
  fits : bytes.length ≤ maxResponseDataSize
deriving DecidableEq

namespace Response

/-- The response with nothing in it. -/
def empty : Response := ⟨[], by decide⟩

/-- `Response::empty`. -/
def isEmpty (r : Response) : Bool := r.bytes.isEmpty

@[ext] lemma ext {r s : Response} (h : r.bytes = s.bytes) : r = s := by
  cases r; cases s; simpa using h

@[simp] lemma isEmpty_empty : Response.empty.isEmpty = true := rfl

end Response

/-- The echo of a command: its low byte. -/
def echo (opcode : UInt16) : UInt8 := (opcode &&& 0xFF).toUInt8

/-- `encode_ack`. -/
def encodeAck (opcode : UInt16) : Response :=
  ⟨[respAck, echo opcode], by simp [maxResponseDataSize]⟩

/-- `encode_nack`. -/
def encodeNack (opcode : UInt16) : Response :=
  ⟨[respNack, echo opcode], by simp [maxResponseDataSize]⟩

/-- `encode_nack_err`: a NACK with one opcode-scoped error byte. -/
def encodeNackErr (opcode : UInt16) (scopedError : UInt8) : Response :=
  ⟨[respNack, echo opcode, scopedError, 0x00], by simp [maxResponseDataSize]⟩

/-! ### `0x0080`: the PIPE START header -/

structure PipeStartRequest where
  version : UInt8 := 0
  flags : UInt8 := 0
  reqWindow : UInt8 := 0
  reqAckEvery : UInt8 := 0
  clientMaxFrame : UInt16 := 0
  totalSize : UInt32 := 0
  partialFrame : Bool := false
deriving DecidableEq

/-- `parse_pipe_start`: the request, or the `0x80`-scoped error byte.  The header
length tested is `8`, while the last field read ends at offset `10`. -/
def parsePipeStart (p : Payload) : Except UInt8 PipeStartRequest :=
  if p.isNull || p.len < 8 then .error odErrPipeStartBadHeader
  else
    let version := p.read 0
    if version ≠ pipeVersion then .error odErrPipeStartBadHeader
    else
      let flags := p.read 1
      if flags &&& ~~~(pipeFlagCompressed ||| pipeFlagPartial) ≠ 0 then
        .error odErrPipeStartUnknownFlag
      else
        let reqWindow := p.read 2
        let reqAckEvery := p.read 3
        let clientMaxFrame := getU16Le (p.read 4) (p.read 5)
        let totalSize := getU32Le (p.read 6) (p.read 7) (p.read 8) (p.read 9)
        if flags &&& pipeFlagPartial ≠ 0 then
          if p.len < 20 then .error odErrPipeStartBadHeader
          else .error odErrPipeStartPartialUnsupported
        else if reqWindow < pipeWindowLimitLo ∨ reqWindow > pipeWindowLimitHi ∨
            reqAckEvery < pipeWindowLimitLo ∨ reqAckEvery > pipeWindowLimitHi then
          .error odErrPipeStartBadHeader
        else
          .ok { version, flags, reqWindow, reqAckEvery, clientMaxFrame, totalSize,
                partialFrame := false }

/-- A request that is accepted asks for a window and a cadence within the limits. -/
lemma limits_of_parsePipeStart {p : Payload} {req : PipeStartRequest}
    (h : parsePipeStart p = .ok req) :
    (pipeWindowLimitLo ≤ req.reqWindow ∧ req.reqWindow ≤ pipeWindowLimitHi) ∧
      pipeWindowLimitLo ≤ req.reqAckEvery ∧ req.reqAckEvery ≤ pipeWindowLimitHi := by
  rw [parsePipeStart] at h
  dsimp only at h
  split_ifs at h with _ _ _ _ _ hlimits
  simp only [not_or, gt_iff_lt, UInt8.not_lt] at hlimits
  injection h with h
  subst h
  exact ⟨⟨hlimits.1, hlimits.2.1⟩, hlimits.2.2.1, hlimits.2.2.2⟩

/-- `encode_pipe_start_response`. -/
def encodePipeStartResponse (maxWindow maxAckEvery : UInt8) (maxFrame : UInt16)
    (respFlags : UInt8) : Response :=
  ⟨[respAck, echo cmdPipeWriteStart, pipeVersion, maxWindow, maxAckEvery] ++
    putU16Le maxFrame ++ [respFlags], by simp [maxResponseDataSize]⟩

/-! ### `0x0081`: selective acknowledgements -/

/-- `encode_pipe_sack`: `[0x00][0x81][highest_seen][ack_mask:4 LE]`. -/
def encodePipeSack (highestSeen : UInt8) (ackMask : UInt32) : Response :=
  ⟨[respAck, echo cmdPipeWriteData, highestSeen] ++ putU32Le ackMask,
    by simp [maxResponseDataSize]⟩

/-- `encode_pipe_nack`: `[0xFF][0x81][err][highest_seen][ack_mask:4 LE]`. -/
def encodePipeNack (err highestSeen : UInt8) (ackMask : UInt32) : Response :=
  ⟨[respNack, echo cmdPipeWriteData, err, highestSeen] ++ putU32Le ackMask,
    by simp [maxResponseDataSize]⟩

/-- `build_inorder_ack_mask`: one bit for each existing predecessor of the
highest chunk seen, which itself is acknowledged implicitly. -/
def buildInorderAckMask (acceptedPackets : UInt32) : UInt32 :=
  if acceptedPackets ≤ 1 then 0
  else
    let predecessors := acceptedPackets - 1
    if predecessors ≥ pipeAckMaskBits then 0xFFFFFFFF
    else ((1 : UInt32) <<< predecessors) - 1

/-- The mask has one bit for each chunk accepted before the last, up to its width. -/
lemma toNat_buildInorderAckMask (n : UInt32) :
    (buildInorderAckMask n).toNat = 2 ^ min (n.toNat - 1) 32 - 1 := by
  rw [buildInorderAckMask]
  dsimp only
  split_ifs with hone hbits
  · rw [UInt32.le_iff_toNat_le] at hone
    change n.toNat ≤ 1 at hone
    simp [show n.toNat - 1 = 0 by omega]
  all_goals
    rw [UInt32.not_le, UInt32.lt_iff_toNat_lt] at hone
    change 1 < n.toNat at hone
    have hpred : (n - 1).toNat = n.toNat - 1 :=
      UInt32.toNat_sub_of_le _ _ (by rw [UInt32.le_iff_toNat_le]; exact Nat.le_of_lt hone)
    have hwidth : pipeAckMaskBits.toNat = 32 := rfl
    rw [ge_iff_le, UInt32.le_iff_toNat_le, hpred, hwidth] at hbits
  · rw [Nat.min_eq_right hbits]
    rfl
  · rw [Words.toNat_one_shiftLeft_sub_one (by omega), hpred, Nat.min_eq_left (by omega)]

/-! ### `0x0043` and `0x0044` -/

/-- `encode_version`: the SHA is cut off at 40 bytes. -/
def encodeVersion (major minor patch : UInt8) (sha : List UInt8) : Response :=
  let shaBytes := (sha.takeWhile (· ≠ 0)).take 40
  ⟨[respAck, echo cmdFirmwareVersion, major, minor, UInt8.ofNat shaBytes.length] ++
    shaBytes ++ [patch], by
      have h : shaBytes.length ≤ 40 := List.length_take_le _ _
      simp only [List.length_append, List.length_cons, List.length_nil, maxResponseDataSize]
      omega⟩

/-- The length of the MSD record. -/
def msdBytes : ℕ := 16

/-- `encode_msd_response`: `[0x00][0x44][msd:16]`. -/
def encodeMsdResponse (msd : Vector UInt8 msdBytes) : Response :=
  ⟨[respAck, echo cmdReadMsd] ++ msd.toList, by
    rw [List.length_append, Vector.length_toList]; decide⟩

end OpenDisplay
