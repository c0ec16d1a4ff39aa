import Mathlib.Data.UInt
import Mathlib.Tactic.Common

/-!
# Machine words

Facts about fixed-width words that do not wrap where the code checks that they
cannot, stated over the natural numbers.
-/

namespace Words

/-- A sum whose second summand fits into the remaining distance does not wrap. -/
lemma toNat_add_ofNat {a b : UInt32} {n : ℕ} (hab : a.toNat ≤ b.toNat)
    (h : n ≤ (b - a).toNat) : (a + UInt32.ofNat n).toNat = a.toNat + n := by
  have hb := b.toNat_lt
  rw [UInt32.toNat_sub_of_le _ _ (UInt32.le_iff_toNat_le.mpr hab)] at h
  rw [UInt32.toNat_add, UInt32.toNat_ofNat', Nat.mod_eq_of_lt (a := n) (by omega)]
  exact Nat.mod_eq_of_lt (by omega)

/-- Such a sum stays within the bound. -/
lemma add_le_of_le_sub {a b : UInt32} {n : ℕ} (hab : a.toNat ≤ b.toNat)
    (h : n ≤ (b - a).toNat) : a.toNat + n ≤ b.toNat := by
  rw [UInt32.toNat_sub_of_le _ _ (UInt32.le_iff_toNat_le.mpr hab)] at h
  omega

/-- The successor of a byte that is below another one does not wrap. -/
lemma toNat_add_one_of_lt {a b : UInt8} (h : a < b) : (a + 1).toNat = a.toNat + 1 := by
  have hb := b.toNat_lt
  rw [UInt8.lt_iff_toNat_lt] at h
  rw [UInt8.toNat_add]
  exact Nat.mod_eq_of_lt (by change a.toNat + 1 < 2 ^ 8; omega)

/-- The smaller of two words, as the code chooses it. -/
lemma toNat_ite_lt (a b : UInt8) : (if a < b then a else b).toNat = min a.toNat b.toNat := by
  split_ifs with h <;> rw [UInt8.lt_iff_toNat_lt] at h <;> omega

lemma toNat_ite_lt_word (a b : UInt16) :
    (if a < b then a else b).toNat = min a.toNat b.toNat := by
  split_ifs with h <;> rw [UInt16.lt_iff_toNat_lt] at h <;> omega

/-- A counter that is advanced by one moves. -/
lemma add_one_ne (a : UInt32) : a + 1 ≠ a := by
  intro h
  have h' := congrArg UInt32.toNat h
  have ha := a.toNat_lt
  rw [UInt32.toNat_add] at h'
  change (a.toNat + 1) % 2 ^ 32 = a.toNat at h'
  omega

/-- A word read as signed is not negative in the lower half of its range. -/
lemma zero_le_toInt32_iff (a : UInt32) : 0 ≤ a.toInt32 ↔ a.toNat < 2 ^ 31 := by
  have ha := a.toNat_lt
  rw [Int32.le_iff_toInt_le, ← Int32.toInt_toBitVec, ← Int32.toInt_toBitVec,
    UInt32.toBitVec_toInt32, BitVec.toInt_eq_toNat_cond (x := a.toBitVec), UInt32.toNat_toBitVec]
  change (0 : Int) ≤ _ ↔ _
  split_ifs <;> omega

/-- What a word shows of the time since `a`, less than half its range ago. -/
lemma zero_le_toInt32_sub_iff {a c : ℕ} (h : c < a + 2 ^ 31) (h' : a ≤ c + 2 ^ 31) :
    0 ≤ (UInt32.ofNat c - UInt32.ofNat a).toInt32 ↔ a ≤ c := by
  rw [zero_le_toInt32_iff, UInt32.toNat_sub, UInt32.toNat_ofNat', UInt32.toNat_ofNat']
  omega

/-- Whether a time `t` has passed since the clock showed `start`, `e` later: the words say it
whatever wraps. -/
lemma zero_le_toInt32_elapsed_iff (start t : UInt32) {e : ℕ} (he : e < 2 ^ 31)
    (ht : t.toNat ≤ 2 ^ 31) :
    0 ≤ (start + UInt32.ofNat e - (start + t)).toInt32 ↔ t.toNat ≤ e := by
  have hs := start.toNat_lt
  rw [zero_le_toInt32_iff, UInt32.toNat_sub, UInt32.toNat_add, UInt32.toNat_add,
    UInt32.toNat_ofNat']
  omega

/-- The mask of the low `p` bits. -/
lemma toNat_one_shiftLeft_sub_one {p : UInt32} (hp : p.toNat < 32) :
    (((1 : UInt32) <<< p) - 1).toNat = 2 ^ p.toNat - 1 := by
  have hshift : ((1 : UInt32) <<< p).toNat = 2 ^ p.toNat := by
    rw [UInt32.toNat_shiftLeft, Nat.mod_eq_of_lt hp, Nat.shiftLeft_eq]
    change 1 * 2 ^ p.toNat % 2 ^ 32 = 2 ^ p.toNat
    rw [Nat.one_mul]
    exact Nat.mod_eq_of_lt (Nat.pow_lt_pow_right (by decide) hp)
  rw [UInt32.toNat_sub_of_le, hshift]
  · rfl
  · rw [UInt32.le_iff_toNat_le, hshift]
    exact Nat.one_le_two_pow

/-- A word is put together again from its four bytes. -/
lemma or_shiftLeft_bytes {v : ℕ} (hv : v < 2 ^ 32) :
    (v % 2 ^ 8 &&& (2 ^ 8 - 1) ||| (v >>> 8 % 2 ^ 8 &&& (2 ^ 8 - 1)) <<< 8 % 2 ^ 32 |||
      (v >>> 16 % 2 ^ 8 &&& (2 ^ 8 - 1)) <<< 16 % 2 ^ 32 |||
      (v >>> 24 % 2 ^ 8 &&& (2 ^ 8 - 1)) <<< 24 % 2 ^ 32) = v := by
  apply Nat.eq_of_testBit_eq
  intro i
  -- bit by bit: each bit is in one of the four bytes, or beyond them
  have hhigh : 32 ≤ i → v.testBit i = false := fun h =>
    Nat.testBit_lt_two_pow (Nat.lt_of_lt_of_le hv (Nat.pow_le_pow_right (by omega) h))
  simp only [Nat.testBit_or, Nat.testBit_and, Nat.testBit_mod_two_pow, Nat.testBit_two_pow_sub_one,
    Nat.testBit_shiftLeft, Nat.testBit_shiftRight]
  grind

/-- A word of sixteen bits is put together again from its two bytes. -/
lemma or_shiftLeft_two_bytes {v : ℕ} (hv : v < 2 ^ 16) :
    (v % 2 ^ 8 &&& (2 ^ 8 - 1) ||| (v >>> 8 % 2 ^ 8) <<< 8 % 2 ^ 16) = v := by
  apply Nat.eq_of_testBit_eq
  intro i
  have hhigh : 16 ≤ i → v.testBit i = false := fun h =>
    Nat.testBit_lt_two_pow (Nat.lt_of_lt_of_le hv (Nat.pow_le_pow_right (by omega) h))
  simp only [Nat.testBit_or, Nat.testBit_and, Nat.testBit_mod_two_pow, Nat.testBit_two_pow_sub_one,
    Nat.testBit_shiftLeft, Nat.testBit_shiftRight]
  grind

end Words
