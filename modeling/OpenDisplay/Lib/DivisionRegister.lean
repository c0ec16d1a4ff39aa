import OpenDisplay.Lib.BitPoly

/-!
# A register that divides

The remainder of a polynomial over the field of two elements can be computed in a word.  The
word moves up by one bit, which multiplies by `X`; a one that falls out on top is the leading
term of the divisor, whose other terms are then taken off.  The register holds a polynomial up
to multiples of the divisor, and being of lower degree it is the remainder.

A divisor with a constant term divides no polynomial of lower degree times a power of `X`.
This is why a remainder tells strings apart that differ inside one burst.
-/

namespace DivisionRegister

open Polynomial BitPoly

variable {w : ℕ} {g v : BitVec w} {p q : (ZMod 2)[X]}

/-- The divisor; the word `g` has all of its coefficients but the leading one. -/
noncomputable def divisor (g : BitVec w) : (ZMod 2)[X] := X ^ w + ofWord g

/-- One bit: the word moves up, and what falls out is divided off. -/
def shiftBit (g v : BitVec w) : BitVec w := if v.msb then (v <<< 1) ^^^ g else v <<< 1

/-- The register holds the polynomial, up to multiples of the divisor. -/
def Holds (g v : BitVec w) (p : (ZMod 2)[X]) : Prop := divisor g ∣ p - ofWord v

/-! ### The divisor -/

lemma divisor_monic (g : BitVec w) : (divisor g).Monic := monic_X_pow_add (degree_ofWord_lt g)

lemma degree_divisor (g : BitVec w) : (divisor g).degree = w := by
  have hlow : (ofWord g).degree < (X ^ w : (ZMod 2)[X]).degree := by
    rw [degree_X_pow]
    exact degree_ofWord_lt g
  rw [divisor, degree_add_eq_left_of_degree_lt hlow, degree_X_pow]

/-- Of lower degree than the divisor, only zero is a multiple of it. -/
lemma eq_zero_of_divisor_dvd (h : divisor g ∣ p) (hdegree : p.degree < w) : p = 0 :=
  eq_zero_of_dvd_of_degree_lt h (by rwa [degree_divisor])

/-- A divisor with a constant term has nothing in common with `X`. -/
lemma isCoprime_divisor_X (hw : 0 < w) (hg : g.getLsbD 0 = true) : IsCoprime (divisor g) X := by
  have hconst : (divisor g).coeff 0 = 1 := by
    rw [divisor, coeff_add, coeff_ofWord, hg, coeff_X_pow, if_neg hw.ne, zero_add, bit_true]
  have hsplit := divX_mul_X_add (divisor g)
  rw [hconst, C_1] at hsplit
  refine ⟨1, -(divisor g).divX, ?_⟩
  linear_combination -hsplit

/-- **No burst is a multiple of the divisor**, wherever it stands. -/
theorem not_divisor_dvd_burst (hw : 0 < w) (hg : g.getLsbD 0 = true) (hp : p ≠ 0)
    (hdegree : p.degree < w) (k : ℕ) : ¬ divisor g ∣ p * X ^ k := by
  intro hdvd
  have hcoprime : IsCoprime (divisor g) (X ^ k) := (isCoprime_divisor_X hw hg).pow_right
  rw [mul_comm] at hdvd
  exact hp (eq_zero_of_divisor_dvd (hcoprime.dvd_of_dvd_mul_left hdvd) hdegree)

/-! ### What a register holds -/

/-- **A register holds the remainder.** -/
theorem holds_iff : Holds g v p ↔ ofWord v = p %ₘ divisor g := by
  constructor
  · rintro ⟨k, hk⟩
    refine ((div_modByMonic_unique k (ofWord v) (divisor_monic g) ⟨?_, ?_⟩).2).symm
    · linear_combination -hk
    · rw [degree_divisor]
      exact degree_ofWord_lt v
  · intro h
    rw [Holds, h, dvd_sub_comm]
    exact dvd_modByMonic_sub p (divisor g)

lemma holds_zero_iff : Holds g 0 p ↔ divisor g ∣ p := by
  rw [Holds, ofWord_zero, sub_zero]

lemma holds_ofWord (g v : BitVec w) : Holds g v (ofWord v) := by
  rw [Holds, sub_self]
  exact dvd_zero _

namespace Holds

/-- Two registers that hold the same are the same. -/
lemma unique {u : BitVec w} (hv : Holds g v p) (hu : Holds g u p) : v = u := by
  apply ofWord_injective
  rw [holds_iff.mp hv, holds_iff.mp hu]

/-- A register holds two polynomials exactly if they differ by a multiple of the divisor. -/
lemma iff_dvd_sub (hv : Holds g v p) : Holds g v q ↔ divisor g ∣ q - p := by
  constructor
  · intro hq
    have h := dvd_sub hq hv
    rwa [sub_sub_sub_cancel_right] at h
  · intro h
    have hadd := dvd_add h hv
    rwa [sub_add_sub_cancel] at hadd

lemma xor (hv : Holds g v p) (u : BitVec w) : Holds g (v ^^^ u) (p + ofWord u) := by
  rwa [Holds, ofWord_xor, add_sub_add_right_eq_sub]

end Holds

/-! ### Steps -/

/-- Moving up by one bit multiplies by `X`, but for the bit that falls out. -/
lemma ofWord_mul_X (v : BitVec w) :
    ofWord v * X = ofWord (v <<< 1) + C (bit v.msb) * X ^ w := by
  ext k
  rw [coeff_add, coeff_C_mul, coeff_X_pow, coeff_ofWord, BitVec.getLsbD_shiftLeft,
    BitVec.msb_eq_getLsbD_last]
  cases k with
  | zero =>
      rcases Nat.eq_zero_or_pos w with rfl | hw
      · simp
      · simp [hw.ne]
  | succ k =>
      rw [coeff_mul_X, coeff_ofWord]
      rcases Nat.lt_trichotomy (k + 1) w with hk | rfl | hk
      · simp [hk, hk.ne]
      · simp
      · rw [BitVec.getLsbD_of_ge v k (by omega)]
        simp [Nat.not_lt.mpr hk.le, hk.ne']

/-- **A step multiplies by `X`.** -/
theorem Holds.shiftBit (h : Holds g v p) : Holds g (shiftBit g v) (p * X) := by
  obtain ⟨k, hk⟩ := h
  have hmul := ofWord_mul_X v
  rw [DivisionRegister.shiftBit, Holds]
  split_ifs with hmsb
  · -- the leading term of the divisor falls out, and the others are added
    rw [hmsb, bit_true, C_1, one_mul] at hmul
    refine ⟨k * X + 1, ?_⟩
    have htwice : ofWord g + ofWord g = 0 := CharTwo.add_self_eq_zero _
    rw [divisor] at hk ⊢
    rw [ofWord_xor]
    linear_combination X * hk + hmul - htwice
  · rw [Bool.eq_false_of_not_eq_true hmsb, bit_false, C_0, zero_mul, add_zero] at hmul
    refine ⟨k * X, ?_⟩
    linear_combination X * hk + hmul

lemma Holds.iterate (h : Holds g v p) (n : ℕ) :
    Holds g ((DivisionRegister.shiftBit g)^[n] v) (p * X ^ n) := by
  induction n with
  | zero => simpa using h
  | succ n ih =>
      rw [Function.iterate_succ_apply', pow_succ, ← mul_assoc]
      exact ih.shiftBit

/-- **A few bits at once**: they are added on top of the register, and it moves up by as many. -/
theorem Holds.absorb {k : ℕ} (hk : k ≤ w) (h : Holds g v p) (u : BitVec k) :
    Holds g ((DivisionRegister.shiftBit g)^[k] (v ^^^ (u.setWidth w <<< (w - k))))
      (p * X ^ k + ofWord u * X ^ w) := by
  have hall := (h.xor (u.setWidth w <<< (w - k))).iterate k
  rw [ofWord_setWidth_shiftLeft hk, add_mul, mul_assoc, ← pow_add, Nat.sub_add_cancel hk] at hall
  exact hall

end DivisionRegister
