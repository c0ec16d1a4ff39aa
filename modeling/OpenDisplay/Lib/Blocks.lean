import Mathlib.Data.List.Basic
import Mathlib.Tactic.Common

/-!
# Consecutive blocks

A list of blocks laid end to end from a start position: the position of every
block, and what it means that pieces given by offset and length tile an interval
in increasing order.
-/

namespace Blocks

variable {α : Type*}

/-- The pieces, given by offset and length, tile `[lo, hi)` in increasing order:
each starts where the one before it ends.  Empty pieces are allowed. -/
def Tiles : ℕ → ℕ → List (ℕ × ℕ) → Prop
  | lo, hi, [] => lo = hi
  | lo, hi, (offset, length) :: ps => offset = lo ∧ Tiles (lo + length) hi ps

/-- The blocks with their positions, laid end to end from `lo`. -/
def place : ℕ → List (List α) → List (ℕ × List α)
  | _, [] => []
  | lo, d :: ds => (lo, d) :: place (lo + d.length) ds

@[simp] lemma place_nil (lo : ℕ) : place lo ([] : List (List α)) = [] := rfl

/-- The next block starts where the blocks so far end. -/
lemma place_concat (lo : ℕ) (ds : List (List α)) (d : List α) :
    place lo (ds ++ [d]) = place lo ds ++ [(lo + ds.flatten.length, d)] := by
  induction ds generalizing lo with
  | nil => simp [place]
  | cons c cs ih => simp [place, ih, Nat.add_assoc]

lemma map_snd_place (lo : ℕ) (ds : List (List α)) : (place lo ds).map Prod.snd = ds := by
  induction ds generalizing lo with
  | nil => rfl
  | cons d ds ih => simp [place, ih]

/-- Every block ends within the interval that all of them fill. -/
lemma add_length_le_of_mem_place {lo : ℕ} {ds : List (List α)} {p : ℕ × List α}
    (h : p ∈ place lo ds) : p.1 + p.2.length ≤ lo + ds.flatten.length := by
  induction ds generalizing lo with
  | nil => simp at h
  | cons d ds ih =>
      rw [place, List.mem_cons] at h
      rw [List.flatten_cons, List.length_append]
      rcases h with rfl | h
      · simp only
        omega
      · have := ih h
        omega

/-- Blocks laid end to end tile the interval they fill. -/
theorem tiles_place (lo : ℕ) (ds : List (List α)) :
    Tiles lo (lo + ds.flatten.length) ((place lo ds).map fun p => (p.1, p.2.length)) := by
  induction ds generalizing lo with
  | nil => simp [place, Tiles]
  | cons d ds ih =>
      refine ⟨rfl, ?_⟩
      have := ih (lo + d.length)
      rwa [Nat.add_assoc, ← List.length_append, ← List.flatten_cons] at this

/-- Slices cut from a list one behind the other are together one slice of it. -/
theorem flatten_slices (l : List α) {f g : ℕ → ℕ} {n : ℕ}
    (h : ∀ k < n, f (k + 1) = f k + g k) :
    f 0 ≤ f n ∧ ((List.range n).map fun k => (l.drop (f k)).take (g k)).flatten =
      (l.drop (f 0)).take (f n - f 0) := by
  induction n with
  | zero => simp
  | succ n ih =>
      obtain ⟨hle, hslice⟩ := ih fun k hk => h k (Nat.lt_succ_of_lt hk)
      have hnext := h n (Nat.lt_succ_self n)
      refine ⟨by omega, ?_⟩
      have hsplit : f (n + 1) - f 0 = (f n - f 0) + g n := by omega
      have hat : f 0 + (f n - f 0) = f n := by omega
      rw [List.range_succ, List.map_append, List.flatten_append, hslice, hsplit, List.take_add,
        List.drop_drop, hat]
      simp

end Blocks
