import Mathlib.Algebra.Order.BigOperators.Group.List
import Mathlib.Algebra.Order.Group.Nat
import Mathlib.Data.Nat.Find
import Mathlib.Data.List.Basic
import Mathlib.Data.List.Pairwise
import Mathlib.Tactic.Common

/-!
# Sliding windows

A sender and a receiver that number the items of a list, over a link that keeps the
order and may lose anything in either direction.  The receiver accepts items in
order and only sees their numbers modulo `M`; the sender has only items in flight
that were less than `W` ahead of the items acknowledged when they were sent.

The acknowledgements in flight are kept as the number of items the receiver had
accepted when it sent them.  One that was sent before anything was accepted may be
taken to acknowledge item `0`: a cumulative acknowledgement that names the last item
has no way to say "none".

The invariant bounds every number in flight by the windows of both ends.  So as soon
as `M` exceeds the window, equality modulo `M` is equality.
-/

namespace SlidingWindow

/-! ### Leading items -/

lemma exists_not_mem (marks : List ℕ) : ∃ n, n ∉ marks := by
  refine ⟨marks.sum + 1, fun h => ?_⟩
  have hle := List.le_sum_of_mem h
  omega

/-- The number of leading items that are marked. -/
def leading (marks : List ℕ) : ℕ := Nat.find (exists_not_mem marks)

lemma leading_not_mem (marks : List ℕ) : leading marks ∉ marks :=
  Nat.find_spec (exists_not_mem marks)

lemma mem_of_lt_leading {marks : List ℕ} {c : ℕ} (h : c < leading marks) : c ∈ marks :=
  not_not.mp (Nat.find_min (exists_not_mem marks) h)

@[simp] lemma leading_nil : leading [] = 0 := by
  by_contra h
  exact absurd (mem_of_lt_leading (Nat.pos_of_ne_zero h)) List.not_mem_nil

/-- Marking more items never moves the leading ones back. -/
lemma leading_le_append (marks new : List ℕ) : leading marks ≤ leading (marks ++ new) := by
  by_contra h
  have hmem := mem_of_lt_leading (Nat.lt_of_not_le h)
  exact leading_not_mem (marks ++ new) (List.mem_append_left new hmem)

/-- When all items below `n` are marked, the leading ones reach `n`. -/
lemma le_leading {marks : List ℕ} {n : ℕ} (h : ∀ c < n, c ∈ marks) : n ≤ leading marks := by
  by_contra hlt
  exact leading_not_mem marks (h _ (Nat.lt_of_not_le hlt))

/-- The leading items end below any bound on the marked ones. -/
lemma leading_le_of_forall_lt {marks : List ℕ} {b : ℕ} (h : ∀ c ∈ marks, c < b) :
    leading marks ≤ b := by
  by_contra hb
  exact Nat.lt_irrefl b (h b (mem_of_lt_leading (Nat.lt_of_not_le hb)))

/-! ### The two ends -/

/-- The ends of the link and what is in flight between them, oldest first. -/
structure Ends where
  /-- The number of items that the receiver has accepted. -/
  next : ℕ
  /-- The items that the sender knows to be accepted. -/
  marks : List ℕ
  /-- The items in flight, each with the number of leading marks when it was sent. -/
  forward : List (ℕ × ℕ)
  /-- The acknowledgements in flight. -/
  back : List ℕ

/-- What every step of the two ends preserves. -/
structure Inv (W : ℕ) (s : Ends) : Prop where
  marks_lt : ∀ c ∈ s.marks, c < max s.next 1
  marks_lt_back : ∀ n ∈ s.back, ∀ c ∈ s.marks, c < max n 1
  next_le : s.next ≤ leading s.marks + W
  base_le : ∀ p ∈ s.forward, p.2 ≤ p.1
  lt_base_add : ∀ p ∈ s.forward, p.1 < p.2 + W
  base_le_leading : ∀ p ∈ s.forward, p.2 ≤ leading s.marks
  next_le_base : ∀ p ∈ s.forward, s.next ≤ p.2 + W
  forward_sorted : s.forward.Pairwise fun p q => p.2 ≤ q.2
  back_le : ∀ n ∈ s.back, n ≤ s.next
  back_sorted : s.back.Pairwise (· ≤ ·)

variable {W M : ℕ} {s : Ends}

/-- Nothing sent, nothing accepted. -/
lemma inv_start (W : ℕ) : Inv W ⟨0, [], [], []⟩ where
  marks_lt := by simp
  marks_lt_back := by simp
  next_le := Nat.zero_le _
  base_le := by simp
  lt_base_add := by simp
  base_le_leading := by simp
  next_le_base := by simp
  forward_sorted := List.Pairwise.nil
  back_le := by simp
  back_sorted := List.Pairwise.nil

/-- The sender sends an item of its window. -/
lemma Inv.send (h : Inv W s) {i : ℕ} (hlo : leading s.marks ≤ i) (hhi : i < leading s.marks + W) :
    Inv W { s with forward := s.forward ++ [(i, leading s.marks)] } where
  marks_lt := h.marks_lt
  marks_lt_back := h.marks_lt_back
  next_le := h.next_le
  base_le := by simpa [or_imp, forall_and] using ⟨fun _ _ => h.base_le _, hlo⟩
  lt_base_add := by simpa [or_imp, forall_and] using ⟨fun _ _ => h.lt_base_add _, hhi⟩
  base_le_leading := by simpa [or_imp, forall_and] using fun _ _ => h.base_le_leading _
  next_le_base := by simpa [or_imp, forall_and] using ⟨fun _ _ => h.next_le_base _, h.next_le⟩
  forward_sorted := by
    refine List.pairwise_append.mpr ⟨h.forward_sorted, List.pairwise_singleton _ _, ?_⟩
    intro p hp q hq
    obtain rfl : q = (i, leading s.marks) := by simpa using hq
    exact h.base_le_leading p hp
  back_le := h.back_le
  back_sorted := h.back_sorted

/-- The link loses items and acknowledgements. -/
lemma Inv.lose (h : Inv W s) {forward : List (ℕ × ℕ)} {back : List ℕ}
    (hf : forward.Sublist s.forward) (hb : back.Sublist s.back) :
    Inv W { s with forward := forward, back := back } where
  marks_lt := h.marks_lt
  marks_lt_back n hn := h.marks_lt_back n (hb.subset hn)
  next_le := h.next_le
  base_le p hp := h.base_le p (hf.subset hp)
  lt_base_add p hp := h.lt_base_add p (hf.subset hp)
  base_le_leading p hp := h.base_le_leading p (hf.subset hp)
  next_le_base p hp := h.next_le_base p (hf.subset hp)
  forward_sorted := h.forward_sorted.sublist hf
  back_le n hn := h.back_le n (hb.subset hn)
  back_sorted := h.back_sorted.sublist hb

/-- The receiver sends acknowledgements. -/
lemma Inv.acknowledge (h : Inv W s) (k : ℕ) :
    Inv W { s with back := s.back ++ List.replicate k s.next } where
  marks_lt := h.marks_lt
  marks_lt_back n hn := by
    rcases List.mem_append.mp hn with hn | hn
    · exact h.marks_lt_back n hn
    · rw [List.eq_of_mem_replicate hn]
      exact h.marks_lt
  next_le := h.next_le
  base_le := h.base_le
  lt_base_add := h.lt_base_add
  base_le_leading := h.base_le_leading
  next_le_base := h.next_le_base
  forward_sorted := h.forward_sorted
  back_le n hn := by
    rcases List.mem_append.mp hn with hn | hn
    · exact h.back_le n hn
    · exact Nat.le_of_eq (List.eq_of_mem_replicate hn)
  back_sorted := by
    refine List.pairwise_append.mpr ⟨h.back_sorted, List.pairwise_replicate.mpr (Or.inr le_rfl), ?_⟩
    intro n hn m hm
    rw [List.eq_of_mem_replicate hm]
    exact h.back_le n hn

/-- The receiver accepts the oldest item in flight, which is the next one. -/
lemma Inv.accept (h : Inv W s) {base : ℕ} {rest : List (ℕ × ℕ)}
    (hf : s.forward = (s.next, base) :: rest) :
    Inv W { s with next := s.next + 1, forward := rest } := by
  have hhead : (s.next, base) ∈ s.forward := by rw [hf]; exact List.mem_cons_self
  have hrest : ∀ p ∈ rest, p ∈ s.forward := fun p hp => by rw [hf]; exact List.mem_cons_of_mem _ hp
  have hlt : s.next < base + W := h.lt_base_add _ hhead
  have hbase : base ≤ leading s.marks := h.base_le_leading _ hhead
  have hsorted := h.forward_sorted
  rw [hf, List.pairwise_cons] at hsorted
  exact {
    marks_lt := fun c hc => by have := h.marks_lt c hc; simp only; omega
    marks_lt_back := h.marks_lt_back
    next_le := by simp only; omega
    base_le := fun p hp => h.base_le p (hrest p hp)
    lt_base_add := fun p hp => h.lt_base_add p (hrest p hp)
    base_le_leading := fun p hp => h.base_le_leading p (hrest p hp)
    -- what follows the accepted item was sent later, so with no smaller base
    next_le_base := fun p hp => by have := hsorted.1 p hp; simp only at *; omega
    forward_sorted := hsorted.2
    back_le := fun n hn => Nat.le_succ_of_le (h.back_le n hn)
    back_sorted := h.back_sorted }

/-- The sender receives the oldest acknowledgement in flight and marks items that it
covers. -/
lemma Inv.mark (h : Inv W s) {n : ℕ} {rest new : List ℕ} (hb : s.back = n :: rest)
    (hnew : ∀ c ∈ new, c < max n 1) :
    Inv W { s with marks := s.marks ++ new, back := rest } := by
  have hhead : n ∈ s.back := by rw [hb]; exact List.mem_cons_self
  have hrest : ∀ m ∈ rest, m ∈ s.back := fun m hm => by rw [hb]; exact List.mem_cons_of_mem _ hm
  have hsorted := h.back_sorted
  rw [hb, List.pairwise_cons] at hsorted
  have hle := leading_le_append s.marks new
  exact {
    marks_lt := fun c hc => by
      rcases List.mem_append.mp hc with hc | hc
      · exact h.marks_lt c hc
      · have hlt := hnew c hc
        have hn := h.back_le n hhead
        simp only
        omega
    marks_lt_back := fun m hm c hc => by
      rcases List.mem_append.mp hc with hc | hc
      · exact h.marks_lt_back m (hrest m hm) c hc
      · -- an acknowledgement still in flight was sent later
        have hlt := hnew c hc
        have hn := hsorted.1 m hm
        omega
    next_le := by have := h.next_le; simp only; omega
    base_le := h.base_le
    lt_base_add := h.lt_base_add
    base_le_leading := fun p hp => Nat.le_trans (h.base_le_leading p hp) hle
    next_le_base := h.next_le_base
    forward_sorted := h.forward_sorted
    back_le := fun m hm => h.back_le m (hrest m hm)
    back_sorted := hsorted.2 }

/-! ### Numbers modulo `M` -/

/-- Two numbers less than `M` apart that agree modulo `M` are equal. -/
lemma eq_of_mod_eq {a b : ℕ} (hab : a < b + M) (hba : b < a + M) (h : a % M = b % M) : a = b := by
  rcases Nat.le_total a b with hle | hle
  · have hzero := Nat.sub_mod_eq_zero_of_mod_eq h.symm
    rw [Nat.mod_eq_of_lt (by omega)] at hzero
    omega
  · have hzero := Nat.sub_mod_eq_zero_of_mod_eq h
    rw [Nat.mod_eq_of_lt (by omega)] at hzero
    omega

/-- **No item is mistaken for another.**  An item in flight that carries the number the
receiver waits for is the item it waits for. -/
theorem Inv.eq_next (h : Inv W s) (hM : W < M) {p : ℕ × ℕ} (hp : p ∈ s.forward)
    (hmod : p.1 % M = s.next % M) : p.1 = s.next := by
  have hhi := h.lt_base_add p hp
  have hlo := h.base_le p hp
  have hbase := h.base_le_leading p hp
  have hnext := h.next_le_base p hp
  have hlead := leading_le_of_forall_lt h.marks_lt
  -- both are in the window at `p.2`, or just behind it
  exact eq_of_mod_eq (by omega) (by omega) hmod

/-- An item that was sent when the receiver's next one was thought to be acknowledged is not
taken for the next one. -/
lemma Inv.ne_next (h : Inv W s) (hM : W < M) {p : ℕ × ℕ} (hp : p ∈ s.forward)
    (hbase : s.next < p.2) : p.1 % M ≠ s.next % M := by
  intro hmod
  have hlo := h.base_le p hp
  rw [h.eq_next hM hp hmod] at hlo
  omega

/-- **No acknowledgement is mistaken for another.**  An item of the sender's window that
agrees with one of the last `D` items accepted before an acknowledgement in flight was
sent had been accepted then. -/
theorem Inv.lt_of_covered (h : Inv W s) {D : ℕ} (hM : W + D < M) {n c k : ℕ} (hn : n ∈ s.back)
    (hlo : leading s.marks ≤ c) (hhi : c < leading s.marks + W) (hk : k < max n 1)
    (hdepth : n ≤ k + D) (hmod : c % M = k % M) : c < max n 1 := by
  have hlead := leading_le_of_forall_lt (h.marks_lt_back n hn)
  have hle := h.back_le n hn
  have hnext := h.next_le
  rw [eq_of_mod_eq (by omega) (by omega) hmod]
  exact hk

end SlidingWindow
