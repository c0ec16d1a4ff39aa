import Mathlib.Data.List.GetD
import Mathlib.Tactic.Common

/-!
# Buffers in memory

The memory from some pointer on, as a function from offsets to cells: a write goes where it is
told to, and whether it stays within the buffer that was meant is a matter of proof.  What is
proved here is how a buffer grows by writes at its end, how its front is patched, and that all
the rest of the memory stays as it was.
-/

/-- The memory from a pointer on. -/
abbrev Buffer (α : Type*) := ℕ → α

namespace Buffer

variable {α : Type*}

/-- The memory after `bs` has been copied to the offset `pos`. -/
def write (m : Buffer α) (pos : ℕ) (bs : List α) : Buffer α := fun i =>
  if pos ≤ i then bs.getD (i - pos) (m i) else m i

/-- The first `n` cells. -/
def upTo (m : Buffer α) (n : ℕ) : List α := (List.range n).map m

@[simp] lemma length_upTo (m : Buffer α) (n : ℕ) : (m.upTo n).length = n := by simp [upTo]

lemma write_of_lt (m : Buffer α) {pos i : ℕ} (bs : List α) (h : i < pos) : m.write pos bs i = m i :=
  if_neg (Nat.not_le.mpr h)

lemma write_of_le (m : Buffer α) {pos i : ℕ} {bs : List α} (h : pos + bs.length ≤ i) :
    m.write pos bs i = m i := by
  rw [write, if_pos (by omega)]
  exact List.getD_eq_default _ _ (by omega)

lemma write_add (m : Buffer α) (pos : ℕ) {bs : List α} {k : ℕ} (h : k < bs.length) :
    m.write pos bs (pos + k) = bs.get ⟨k, h⟩ := by
  rw [write, if_pos (Nat.le_add_right _ _), Nat.add_sub_cancel_left]
  exact List.getD_eq_getElem _ _ h

/-- Writing two pieces one behind the other is writing both. -/
lemma write_write (m : Buffer α) (pos : ℕ) (bs more : List α) :
    (m.write pos bs).write (pos + bs.length) more = m.write pos (bs ++ more) := by
  funext i
  rcases Nat.lt_or_ge i (pos + bs.length) with hi | hi
  · rw [write_of_lt _ _ hi, write, write]
    split_ifs with hpos
    · rw [List.getD_append _ _ _ _ (by omega)]
    · rfl
  · rw [write, if_pos hi, write_of_le _ hi, write, if_pos (by omega),
      List.getD_append_right _ _ _ _ (by omega), Nat.sub_sub]

/-- The memory holds `bs` in its first cells and is what it was in all others. -/
structure Holds (m₀ m : Buffer α) (bs : List α) : Prop where
  upTo_eq : m.upTo bs.length = bs
  frame : ∀ i, bs.length ≤ i → m i = m₀ i

lemma holds_nil (m : Buffer α) : Holds m m [] := ⟨rfl, fun _ _ => rfl⟩

/-- Writing at the end appends. -/
lemma Holds.append {m₀ m : Buffer α} {bs : List α} (h : Holds m₀ m bs) (more : List α) :
    Holds m₀ (m.write bs.length more) (bs ++ more) where
  upTo_eq := by
    rw [List.length_append, upTo, List.range_add, List.map_append, List.map_map]
    congr 1
    · rw [← h.upTo_eq]
      simp only [length_upTo]
      exact List.map_congr_left fun i hi => write_of_lt _ _ (List.mem_range.mp hi)
    · apply List.ext_get (by simp)
      intro k _ hk
      simpa using write_add m bs.length hk
  frame i hi := by
    rw [List.length_append] at hi
    rw [write_of_le _ hi]
    exact h.frame i (by omega)

/-- Writing at the front replaces what is there. -/
lemma Holds.patch {m₀ m : Buffer α} {front back : List α} (h : Holds m₀ m (front ++ back))
    {patch : List α} (hlen : patch.length = front.length) :
    Holds m₀ (m.write 0 patch) (patch ++ back) where
  upTo_eq := by
    have hupTo := h.upTo_eq
    rw [List.length_append, upTo, List.range_add, List.map_append, List.map_map] at hupTo ⊢
    obtain ⟨-, hback⟩ := List.append_inj hupTo (by simp)
    congr 1
    · apply List.ext_get (by simp)
      intro k _ hk
      simpa using write_add m 0 hk
    · rw [hlen]
      refine Eq.trans (List.map_congr_left fun i _ => ?_) hback
      exact write_of_le m (i := front.length + i) (by omega)
  frame i hi := by
    rw [List.length_append] at hi
    rw [write_of_le _ (by omega)]
    exact h.frame i (by rw [List.length_append]; omega)

end Buffer
