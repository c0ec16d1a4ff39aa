import Mathlib.Data.List.Nodup
import Mathlib.Data.List.TakeWhile
import Mathlib.Tactic.Common

/-!
# Packed rasters

A raster of one bit per cell, eight cells to a byte, in rows of whole bytes: row `y`
starts at byte `y * stride`, and the bits of a row beyond its width are padding.  The
cells of all bytes are the cells of the raster, each of them once.
-/

namespace Raster

/-- On an initial segment, a condition that is inherited downwards is met up to some point. -/
lemma takeWhile_range {p : ℕ → Bool} (hp : ∀ b, p (b + 1) = true → p b = true) (n : ℕ) :
    (List.range n).takeWhile p = (List.range n).filter p := by
  have hdown : ∀ a b, a ≤ b → p b = true → p a = true := by
    intro a b hab
    induction hab with
    | refl => exact id
    | step _ ih => exact fun h => ih (hp _ h)
  induction n with
  | zero => rfl
  | succ n ih =>
      rw [List.range_succ, List.filter_append, ← ih, List.takeWhile_append]
      split_ifs with hall
      · have hself : (List.range n).takeWhile p = List.range n :=
          (List.takeWhile_prefix p).eq_of_length hall
        rw [hself]
        rcases h : p n <;> simp [h]
      · -- a cell before `n` is missing, so `n` is
        have hn : p n = false := by
          rw [Bool.eq_false_iff]
          intro h
          refine hall (congrArg List.length ?_)
          rw [List.takeWhile_eq_self_iff]
          exact fun a ha => hdown a n (List.mem_range.mp ha).le h
        simp [hn]

/-- The cells `(x, y)` of byte `i`, most significant bit first, up to the width. -/
def cells (width stride i : ℕ) : List (ℕ × ℕ) :=
  ((List.range 8).takeWhile fun b => decide (i % stride * 8 + b < width)).map
    fun b => (i % stride * 8 + b, i / stride)

/-- The byte that holds the cell `(x, y)`. -/
def byteOf (stride x y : ℕ) : ℕ := y * stride + x / 8

section

variable {width stride : ℕ}

lemma nodup_cells (width stride i : ℕ) : (cells width stride i).Nodup := by
  refine List.Nodup.map ?_ ((List.nodup_range).sublist (List.takeWhile_sublist _))
  intro b b' h
  simpa using congrArg Prod.fst h

/-- A cell of a byte is a cell of the raster that this byte holds. -/
lemma mem_cells (hstride : 0 < stride) (hwidth : width ≤ 8 * stride) {i x y : ℕ} :
    (x, y) ∈ cells width stride i ↔ x < width ∧ byteOf stride x y = i := by
  have hdown : ∀ b, decide (i % stride * 8 + (b + 1) < width) = true →
      decide (i % stride * 8 + b < width) = true := by
    intro b hb
    simp only [decide_eq_true_eq] at hb ⊢
    omega
  rw [cells, takeWhile_range hdown, List.mem_map]
  constructor
  · rintro ⟨b, hb, heq⟩
    simp only [List.mem_filter, List.mem_range, decide_eq_true_eq] at hb
    obtain ⟨rfl, rfl⟩ : i % stride * 8 + b = x ∧ i / stride = y := by simpa using heq
    have hcol : (i % stride * 8 + b) / 8 = i % stride := by omega
    refine ⟨hb.2, ?_⟩
    rw [byteOf, hcol, Nat.mul_comm]
    exact Nat.div_add_mod i stride
  · rintro ⟨hx, rfl⟩
    have hcol : x / 8 < stride := by omega
    have hmod : byteOf stride x y % stride = x / 8 := by
      rw [byteOf, Nat.mul_add_mod_self_right, Nat.mod_eq_of_lt hcol]
    have hdiv : byteOf stride x y / stride = y := by
      rw [byteOf, Nat.add_comm, Nat.add_mul_div_right _ _ hstride, Nat.div_eq_of_lt hcol,
        Nat.zero_add]
    refine ⟨x % 8, ?_, ?_⟩
    · simp only [List.mem_filter, List.mem_range, decide_eq_true_eq, hmod]
      omega
    · rw [hmod, hdiv]
      exact Prod.ext (by dsimp only; omega) rfl

/-- No cell is in two bytes. -/
lemma nodup_flatMap_cells (hstride : 0 < stride) (hwidth : width ≤ 8 * stride) {is : List ℕ}
    (his : is.Nodup) : (is.flatMap (cells width stride)).Nodup := by
  rw [List.nodup_flatMap]
  refine ⟨fun i _ => nodup_cells width stride i, his.imp fun {i j} hij => ?_⟩
  rintro ⟨x, y⟩ hi hj
  exact hij (((mem_cells hstride hwidth).mp hi).2.symm.trans ((mem_cells hstride hwidth).mp hj).2)

/-- **The first `stride * height` bytes hold exactly the cells of `height` rows.** -/
theorem mem_flatMap_cells (hstride : 0 < stride) (hwidth : width ≤ 8 * stride) {height x y : ℕ} :
    (x, y) ∈ (List.range (stride * height)).flatMap (cells width stride) ↔
      x < width ∧ y < height := by
  simp only [List.mem_flatMap, List.mem_range, mem_cells hstride hwidth]
  constructor
  · rintro ⟨i, hi, hx, rfl⟩
    refine ⟨hx, Nat.lt_of_mul_lt_mul_left (a := stride) ?_⟩
    rw [byteOf, Nat.mul_comm] at hi
    omega
  · rintro ⟨hx, hy⟩
    refine ⟨byteOf stride x y, ?_, hx, rfl⟩
    have hrow : stride * (y + 1) ≤ stride * height := Nat.mul_le_mul_left _ hy
    rw [byteOf, Nat.mul_comm]
    rw [Nat.mul_add, Nat.mul_one] at hrow
    omega

end

end Raster
