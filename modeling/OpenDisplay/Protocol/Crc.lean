import OpenDisplay.Lib.DivisionRegister
import OpenDisplay.Protocol.ConfigBlob

/-!
# The CRC of a config

`crc16_ccitt_false` is a loop over the bits of a word.  What it computes is the remainder of
the message, moved up by sixteen bits behind the initial value, under the generator
`X ^ 16 + X ^ 12 + X ^ 5 + 1`.  A message that is followed by its CRC has the CRC zero, and two
messages of one length that differ inside sixteen consecutive bits never have the same CRC.
-/

namespace OpenDisplay

open Polynomial BitPoly DivisionRegister

/-! ### The message and the generator -/

/-- The bits of a message: byte after byte, the highest bit of a byte first. -/
def messageBits (message : List UInt8) : List Bool :=
  message.flatMap fun b => wordBits b.toBitVec

/-- The polynomial of a message. -/
noncomputable def messagePoly (message : List UInt8) : (ZMod 2)[X] := ofBits (messageBits message)

/-- The generator. -/
noncomputable def crcGenerator : (ZMod 2)[X] := X ^ 16 + X ^ 12 + X ^ 5 + 1

/-- What a CRC with this generator and an initial value of ones is. -/
structure IsCrc (crc : List UInt8 → UInt16) : Prop where
  remainder : ∀ message : List UInt8, ofWord (crc message).toBitVec =
    (ofWord (0xFFFF : BitVec 16) * X ^ (8 * message.length) + messagePoly message * X ^ 16) %ₘ
      crcGenerator
  residue : ∀ message : List UInt8,
    crc (message ++ [(crc message >>> 8).toUInt8, (crc message &&& 0xFF).toUInt8]) = 0
  burst : ∀ (start : ℕ) (message other : List UInt8), message.length = other.length →
    message ≠ other → AgreeOutside start 16 (messageBits message) (messageBits other) →
      crc message ≠ crc other

@[simp] lemma length_messageBits (message : List UInt8) :
    (messageBits message).length = 8 * message.length := by
  induction message with
  | nil => rfl
  | cons b message ih =>
      rw [messageBits, List.flatMap_cons, List.length_append, length_wordBits, ← messageBits, ih,
        List.length_cons]
      omega

lemma messageBits_append (message more : List UInt8) :
    messageBits (message ++ more) = messageBits message ++ messageBits more :=
  List.flatMap_append

/-- A byte more is eight bits more. -/
lemma messagePoly_concat (message : List UInt8) (b : UInt8) :
    messagePoly (message ++ [b]) = messagePoly message * X ^ 8 + ofWord b.toBitVec := by
  have hbyte : messageBits [b] = wordBits b.toBitVec := by simp [messageBits]
  rw [messagePoly, messageBits_append, ofBits_append, hbyte, length_wordBits]
  rfl

/-- Bytes are found in their bits again. -/
lemma messageBits_injective {message other : List UInt8} (hlen : message.length = other.length)
    (h : messageBits message = messageBits other) : message = other := by
  induction message generalizing other with
  | nil => exact (List.length_eq_zero_iff.mp hlen.symm).symm
  | cons b message ih =>
      cases other with
      | nil => cases hlen
      | cons c other =>
          rw [messageBits, messageBits, List.flatMap_cons, List.flatMap_cons] at h
          obtain ⟨hfirst, hrest⟩ := List.append_inj h (by simp)
          have hbyte : b = c :=
            UInt8.toBitVec_inj.mp (ofWord_injective (congrArg ofBits hfirst))
          rw [hbyte, ih (Nat.succ.inj hlen) hrest]

/-- The word of the loop is the generator without its leading term. -/
lemma divisor_eq : divisor (0x1021 : BitVec 16) = crcGenerator := by
  have hbits : wordBits (0x1021 : BitVec 16) = [false, false, false, true, false, false, false,
      false, false, false, true, false, false, false, false, true] := by decide
  rw [divisor, ofWord, hbits, crcGenerator]
  simp [ofBits_cons]
  ring

/-! ### The loop -/

/-- The bit that the loop tests is the highest one. -/
lemma and_ne_zero_iff (crc : UInt16) : crc &&& 0x8000 ≠ 0 ↔ crc.toBitVec.msb = true := by
  have hmask : (0x8000 : UInt16).toBitVec = BitVec.twoPow 16 15 := by decide
  rw [Ne, ← UInt16.toBitVec_inj, UInt16.toBitVec_and, hmask, BitVec.and_twoPow,
    BitVec.msb_eq_getLsbD_last]
  split_ifs with hbit
  · exact iff_of_true (by decide) hbit
  · exact iff_of_false (by decide) hbit

lemma toBitVec_crc16Bit (crc : UInt16) :
    (crc16Bit crc).toBitVec = shiftBit 0x1021 crc.toBitVec := by
  have hshift : (crc <<< 1).toBitVec = crc.toBitVec <<< 1 := rfl
  rw [crc16Bit, shiftBit]
  by_cases hmsb : crc.toBitVec.msb = true
  · rw [if_pos ((and_ne_zero_iff crc).mpr hmsb), if_pos hmsb, UInt16.toBitVec_xor, hshift]
    rfl
  · rw [if_neg (mt (and_ne_zero_iff crc).mp hmsb), if_neg hmsb, hshift]

lemma toBitVec_iterate_crc16Bit (n : ℕ) (crc : UInt16) :
    (crc16Bit^[n] crc).toBitVec = (shiftBit 0x1021)^[n] crc.toBitVec := by
  induction n with
  | zero => rfl
  | succ n ih =>
      rw [Function.iterate_succ_apply', Function.iterate_succ_apply', toBitVec_crc16Bit, ih]

/-- A byte of the message. -/
lemma holds_crc16Byte {crc : UInt16} {p : (ZMod 2)[X]} (h : Holds 0x1021 crc.toBitVec p)
    (b : UInt8) :
    Holds 0x1021 (crc16Byte crc b).toBitVec (p * X ^ 8 + ofWord b.toBitVec * X ^ 16) := by
  have hword : (crc ^^^ (b.toUInt16 <<< 8)).toBitVec =
      crc.toBitVec ^^^ (b.toBitVec.setWidth 16 <<< (16 - 8)) := rfl
  rw [crc16Byte, toBitVec_iterate_crc16Bit, hword]
  exact h.absorb (by decide) b.toBitVec

/-- What the loop divides: the initial value in front of the message, moved up. -/
noncomputable def dividend (message : List UInt8) : (ZMod 2)[X] :=
  ofWord (0xFFFF : BitVec 16) * X ^ (8 * message.length) + messagePoly message * X ^ 16

lemma dividend_concat (message : List UInt8) (b : UInt8) :
    dividend (message ++ [b]) = dividend message * X ^ 8 + ofWord b.toBitVec * X ^ 16 := by
  rw [dividend, dividend, messagePoly_concat, List.length_append, List.length_singleton,
    Nat.mul_add, pow_add]
  ring

/-- **The loop holds the dividend**, whatever the message. -/
theorem holds_crc16CcittFalse (message : List UInt8) :
    Holds 0x1021 (crc16CcittFalse message).toBitVec (dividend message) := by
  induction message using List.reverseRecOn with
  | nil =>
      have hinit : dividend [] = ofWord (0xFFFF : BitVec 16) := by
        simp [dividend, messagePoly, messageBits]
      rw [hinit]
      exact holds_ofWord _ _
  | append_singleton message b ih =>
      have hstep : crc16CcittFalse (message ++ [b]) = crc16Byte (crc16CcittFalse message) b := by
        simp [crc16CcittFalse]
      rw [hstep, dividend_concat]
      exact holds_crc16Byte ih b

/-! ### What the CRC is good for -/

/-- A word is its two bytes, the high one first. -/
lemma ofWord_bytes (crc : UInt16) :
    ofWord (crc >>> 8).toUInt8.toBitVec * X ^ 8 + ofWord (crc &&& 0xFF).toUInt8.toBitVec =
      ofWord crc.toBitVec := by
  have hhigh : (crc >>> 8).toUInt8.toBitVec = (crc.toBitVec >>> 8).setWidth 8 := rfl
  have hlow : (crc &&& 0xFF).toUInt8.toBitVec = (crc.toBitVec &&& 0xFF#16).setWidth 8 := rfl
  have hmask : ∀ k < 8, (0xFF#16).getLsbD k = true := by decide
  ext k
  rw [coeff_add, coeff_mul_X_pow', coeff_ofWord, coeff_ofWord, coeff_ofWord, hhigh, hlow,
    BitVec.getLsbD_setWidth, BitVec.getLsbD_setWidth, BitVec.getLsbD_ushiftRight,
    BitVec.getLsbD_and]
  split_ifs with hk
  · -- a bit of the high byte
    rw [Nat.add_sub_cancel' hk]
    rcases Nat.lt_or_ge k 16 with hlt | hge
    · have hin : k - 8 < 8 := by omega
      simp [hin, Nat.not_lt.mpr hk]
    · rw [BitVec.getLsbD_of_ge _ k hge]
      simp [Nat.not_lt.mpr hk]
  · rw [hmask k (by omega)]
    simp [Nat.not_le.mp hk]

/-- A CRC at the end makes the dividend a multiple of the generator. -/
lemma residue_crc16CcittFalse (message : List UInt8) :
    crc16CcittFalse (message ++ [(crc16CcittFalse message >>> 8).toUInt8,
      (crc16CcittFalse message &&& 0xFF).toUInt8]) = 0 := by
  generalize hcrc : crc16CcittFalse message = crc
  have hmessage : Holds 0x1021 crc.toBitVec (dividend message) :=
    hcrc ▸ holds_crc16CcittFalse message
  have hsealed : dividend (message ++ [(crc >>> 8).toUInt8, (crc &&& 0xFF).toUInt8]) =
      (dividend message + ofWord crc.toBitVec) * X ^ 16 := by
    rw [List.append_cons, dividend_concat, dividend_concat, ← ofWord_bytes]
    ring
  have hzero : Holds (0x1021 : BitVec 16) 0
      (dividend (message ++ [(crc >>> 8).toUInt8, (crc &&& 0xFF).toUInt8])) := by
    rw [holds_zero_iff, hsealed, ← CharTwo.sub_eq_add]
    exact dvd_mul_of_dvd_left hmessage _
  exact UInt16.toBitVec_inj.mp ((holds_crc16CcittFalse _).unique hzero)

/-- What two messages of one length differ by is the difference of what the loop divides. -/
lemma dividend_sub {message other : List UInt8} (hlen : message.length = other.length) :
    dividend message - dividend other = (messagePoly message - messagePoly other) * X ^ 16 := by
  rw [dividend, dividend, hlen]
  ring

lemma crc16CcittFalse_ne_of_burst {start : ℕ} {message other : List UInt8}
    (hlen : message.length = other.length) (hne : message ≠ other)
    (hburst : AgreeOutside start 16 (messageBits message) (messageBits other)) :
    crc16CcittFalse message ≠ crc16CcittFalse other := by
  intro hcrc
  have hbits : (messageBits message).length = (messageBits other).length := by simp [hlen]
  obtain ⟨burst, k, hdegree, hdiff⟩ := hburst.exists_sub_eq hbits
  have hmessage := holds_crc16CcittFalse message
  rw [hcrc, (holds_crc16CcittFalse other).iff_dvd_sub, dividend_sub hlen, messagePoly, messagePoly,
    hdiff, mul_assoc, ← pow_add] at hmessage
  refine not_divisor_dvd_burst (by decide) (by decide) ?_ hdegree _ hmessage
  rintro rfl
  rw [zero_mul, sub_eq_zero] at hdiff
  exact hne (messageBits_injective hlen (ofBits_injective hbits hdiff))

/-- **The CRC loop is the CRC.** -/
theorem crc16CcittFalse_isCrc : IsCrc crc16CcittFalse where
  remainder message := by
    rw [← divisor_eq]
    exact holds_iff.mp (holds_crc16CcittFalse message)
  residue := residue_crc16CcittFalse
  burst _ _ _ hlen hne hburst := crc16CcittFalse_ne_of_burst hlen hne hburst

/-- The check value of the algorithm. -/
example : crc16CcittFalse [0x31, 0x32, 0x33, 0x34, 0x35, 0x36, 0x37, 0x38, 0x39] = 0x29B1 := by
  decide +kernel

end OpenDisplay
