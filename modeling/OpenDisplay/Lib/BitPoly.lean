import Mathlib.Algebra.CharP.Two
import Mathlib.Algebra.Field.ZMod
import Mathlib.Algebra.Polynomial.Div
import Mathlib.Algebra.Polynomial.Inductions
import Mathlib.Data.BitVec
import Mathlib.RingTheory.Coprime.Lemmas
import Mathlib.Tactic.LinearCombination

/-!
# Bit strings as polynomials

A string of bits is a polynomial over the field of two elements: the first bit is the
coefficient of the highest power.  Strings of one length are determined by their polynomials,
one behind the other they are a sum, and two that differ inside a burst differ by a
polynomial of low degree times a power of `X`.  A machine word is the string of its bits.
-/

namespace BitPoly

open Polynomial

/-! ### Strings -/

/-- A bit as an element of the field. -/
def bit (b : Bool) : ZMod 2 := if b then 1 else 0

@[simp] lemma bit_false : bit false = 0 := rfl

@[simp] lemma bit_true : bit true = 1 := rfl

lemma bit_injective : Function.Injective bit := by decide

lemma bit_xor (a b : Bool) : bit (a ^^ b) = bit a + bit b := by
  cases a <;> cases b <;> decide

/-- The polynomial of a string of bits, the highest power first. -/
noncomputable def ofBits : List Bool → (ZMod 2)[X]
  | [] => 0
  | b :: bs => C (bit b) * X ^ bs.length + ofBits bs

@[simp] lemma ofBits_nil : ofBits [] = 0 := rfl

lemma ofBits_cons (b : Bool) (bs : List Bool) :
    ofBits (b :: bs) = C (bit b) * X ^ bs.length + ofBits bs := rfl

lemma ofBits_append (xs ys : List Bool) :
    ofBits (xs ++ ys) = ofBits xs * X ^ ys.length + ofBits ys := by
  induction xs with
  | nil => simp
  | cons b xs ih =>
      rw [List.cons_append, ofBits_cons, ofBits_cons, ih, List.length_append, pow_add]
      ring

lemma degree_ofBits_lt (bs : List Bool) : (ofBits bs).degree < bs.length := by
  induction bs with
  | nil => simp
  | cons b bs ih =>
      rw [ofBits_cons, List.length_cons]
      refine lt_of_le_of_lt (degree_add_le _ _) (max_lt ?_ ?_)
      · refine lt_of_le_of_lt (degree_C_mul_X_pow_le _ _) ?_
        exact_mod_cast Nat.lt_succ_self _
      · refine lt_trans ih ?_
        exact_mod_cast Nat.lt_succ_self _

/-- The bit that a string has in front is the coefficient of the highest power. -/
lemma coeff_ofBits_cons (b : Bool) (bs : List Bool) :
    (ofBits (b :: bs)).coeff bs.length = bit b := by
  rw [ofBits_cons, coeff_add, coeff_C_mul, coeff_X_pow_self, mul_one,
    coeff_eq_zero_of_degree_lt (degree_ofBits_lt bs), add_zero]

/-- Strings of one length are determined by their polynomials. -/
lemma ofBits_injective {xs ys : List Bool} (hlen : xs.length = ys.length)
    (h : ofBits xs = ofBits ys) : xs = ys := by
  induction xs generalizing ys with
  | nil => exact (List.length_eq_zero_iff.mp hlen.symm).symm
  | cons b xs ih =>
      cases ys with
      | nil => cases hlen
      | cons c ys =>
          have hlen' : xs.length = ys.length := Nat.succ.inj hlen
          have hbit : b = c := by
            apply bit_injective
            rw [← coeff_ofBits_cons b xs, ← coeff_ofBits_cons c ys, h, hlen']
          subst hbit
          rw [ofBits_cons, ofBits_cons, hlen'] at h
          rw [ih hlen' (add_left_cancel h)]

/-! ### Bursts -/

/-- Two strings agree outside of `width` bits from `start` on. -/
def AgreeOutside (start width : ℕ) (xs ys : List Bool) : Prop :=
  ∀ i, i < start ∨ start + width ≤ i → xs[i]? = ys[i]?

/-- Strings that differ inside a burst only: their difference is one of low degree, moved up. -/
lemma AgreeOutside.exists_sub_eq {start width : ℕ} {xs ys : List Bool}
    (hlen : xs.length = ys.length) (h : AgreeOutside start width xs ys) :
    ∃ (burst : (ZMod 2)[X]) (k : ℕ), burst.degree < width ∧
      ofBits xs - ofBits ys = burst * X ^ k := by
  have hsplit : ∀ zs : List Bool, zs =
      zs.take start ++ ((zs.drop start).take width ++ zs.drop (start + width)) := by
    intro zs
    rw [← List.drop_drop, List.take_append_drop, List.take_append_drop]
  have htake : xs.take start = ys.take start := by
    apply List.ext_getElem?
    intro i
    rcases Nat.lt_or_ge i start with hi | hi
    · rw [List.getElem?_take_of_lt hi, List.getElem?_take_of_lt hi]
      exact h i (Or.inl hi)
    · rw [List.getElem?_take_eq_none hi, List.getElem?_take_eq_none hi]
  have hdrop : xs.drop (start + width) = ys.drop (start + width) := by
    apply List.ext_getElem?
    intro i
    rw [List.getElem?_drop, List.getElem?_drop]
    exact h _ (Or.inr (Nat.le_add_right _ _))
  have hmid : ((xs.drop start).take width).length = ((ys.drop start).take width).length := by
    simp [hlen]
  have hdegree : ∀ zs : List Bool, (ofBits ((zs.drop start).take width)).degree < width := by
    intro zs
    refine lt_of_lt_of_le (degree_ofBits_lt _) ?_
    exact_mod_cast List.length_take_le _ _
  refine ⟨ofBits ((xs.drop start).take width) - ofBits ((ys.drop start).take width),
    (ys.drop (start + width)).length, ?_, ?_⟩
  · exact lt_of_le_of_lt (degree_sub_le _ _) (max_lt (hdegree xs) (hdegree ys))
  · conv_lhs => rw [hsplit xs, hsplit ys]
    rw [htake, hdrop, ofBits_append, ofBits_append, ofBits_append, ofBits_append,
      List.length_append, List.length_append, hmid]
    ring

/-! ### Words -/

/-- The bits of a word, the highest first. -/
def wordBits {w : ℕ} (v : BitVec w) : List Bool := (List.range w).reverse.map v.getLsbD

@[simp] lemma length_wordBits {w : ℕ} (v : BitVec w) : (wordBits v).length = w := by
  simp [wordBits]

/-- The polynomial of a word. -/
noncomputable def ofWord {w : ℕ} (v : BitVec w) : (ZMod 2)[X] := ofBits (wordBits v)

lemma degree_ofWord_lt {w : ℕ} (v : BitVec w) : (ofWord v).degree < w := by
  have h := degree_ofBits_lt (wordBits v)
  rwa [length_wordBits] at h

/-- The coefficients of a string that is read off a function. -/
lemma coeff_ofBits_range (f : ℕ → Bool) (n k : ℕ) :
    (ofBits ((List.range n).reverse.map f)).coeff k = if k < n then bit (f k) else 0 := by
  induction n with
  | zero => simp
  | succ n ih =>
      rw [List.range_succ, List.reverse_append, List.reverse_singleton, List.singleton_append,
        List.map_cons, ofBits_cons, coeff_add, ih, coeff_C_mul, coeff_X_pow]
      simp only [List.length_map, List.length_reverse, List.length_range]
      rcases Nat.lt_trichotomy k n with hk | rfl | hk
      · simp [hk, Nat.lt_succ_of_lt hk, Nat.ne_of_lt hk]
      · simp
      · simp [Nat.not_lt.mpr hk.le, Nat.not_lt.mpr hk, Nat.ne_of_gt hk]

/-- The coefficients of a word are its bits. -/
@[simp] lemma coeff_ofWord {w : ℕ} (v : BitVec w) (k : ℕ) :
    (ofWord v).coeff k = bit (v.getLsbD k) := by
  rw [ofWord, wordBits, coeff_ofBits_range]
  split_ifs with hk
  · rfl
  · rw [BitVec.getLsbD_of_ge v k (Nat.not_lt.mp hk), bit_false]

lemma ofWord_injective {w : ℕ} : Function.Injective (ofWord : BitVec w → (ZMod 2)[X]) := by
  intro u v h
  apply BitVec.eq_of_getLsbD_eq
  intro i _
  apply bit_injective
  rw [← coeff_ofWord u, ← coeff_ofWord v, h]

@[simp] lemma ofWord_zero (w : ℕ) : ofWord (0 : BitVec w) = 0 := by
  ext k
  simp

lemma ofWord_xor {w : ℕ} (u v : BitVec w) : ofWord (u ^^^ v) = ofWord u + ofWord v := by
  ext k
  rw [coeff_add, coeff_ofWord, coeff_ofWord, coeff_ofWord, BitVec.getLsbD_xor, bit_xor]

/-- A word that is moved up in a wider one. -/
lemma ofWord_setWidth_shiftLeft {k w : ℕ} (hk : k ≤ w) (u : BitVec k) :
    ofWord (u.setWidth w <<< (w - k)) = ofWord u * X ^ (w - k) := by
  ext i
  rw [coeff_ofWord, coeff_mul_X_pow', BitVec.getLsbD_shiftLeft]
  split_ifs with hi
  · rw [coeff_ofWord]
    rcases Nat.lt_or_ge i w with hw | hw
    · have hlow : i - (w - k) < w := by omega
      simp [hw, Nat.not_lt.mpr hi, hlow]
    · rw [BitVec.getLsbD_of_ge u _ (by omega)]
      simp [Nat.not_lt.mpr hw]
  · simp [Nat.not_le.mp hi]

end BitPoly
