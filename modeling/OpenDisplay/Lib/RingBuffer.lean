import Mathlib.Data.List.Basic
import Mathlib.Data.Nat.ModEq
import Mathlib.Tactic.Common

/-!
# Ring buffers with one sacrificed slot

A ring of `n` slots with a head (the next slot to write) and a tail (the next
slot to read).  Equal indices mean *empty*, so a ring never holds more than
`n - 1` elements: one slot tells *full* from *empty*.  The abstract content of a
ring is the list of the slots from the tail to the head, and on that list
writing a slot is appending and reading one is taking the head off.
-/

/-- A ring of `n` slots.  The two indices are in range by construction. -/
structure RingBuffer (α : Type*) (n : ℕ) where
  /-- The slots, stale ones included. -/
  slots : Vector α n
  /-- The next slot to write. -/
  head : ℕ
  /-- The next slot to read. -/
  tail : ℕ
  head_lt : head < n
  tail_lt : tail < n

namespace RingBuffer

variable {α : Type*} {n : ℕ}

/-- The index after `i`. -/
def next (n i : ℕ) : ℕ := (i + 1) % n

lemma next_lt {i : ℕ} (h : i < n) : next n i < n := Nat.mod_lt _ (by omega)

lemma next_eq {i : ℕ} (h : i < n) : next n i = if i + 1 = n then 0 else i + 1 := by
  unfold next
  split_ifs with hi
  · rw [hi, Nat.mod_self]
  · exact Nat.mod_eq_of_lt (by omega)

/-- The number of occupied slots, by the modular arithmetic of the indices. -/
def used (r : RingBuffer α n) : ℕ := (r.head + n - r.tail) % n

/-- No element is stored. -/
def isEmpty (r : RingBuffer α n) : Bool := r.tail == r.head

/-- The next slot to write is the last free one, which is never used. -/
def isFull (r : RingBuffer α n) : Bool := next n r.head == r.tail

/-- The slot with index `i`. -/
def slot (r : RingBuffer α n) (i : ℕ) (h : i < n) : α := r.slots[i]

/-- The slot at the head, still holding whatever was written there before. -/
def headSlot (r : RingBuffer α n) : α := r.slot r.head r.head_lt

/-- The slot at the tail, the oldest element of a ring that is not empty. -/
def tailSlot (r : RingBuffer α n) : α := r.slot r.tail r.tail_lt

/-- Write the slot at the head and publish it. -/
def enqueue (r : RingBuffer α n) (a : α) : RingBuffer α n where
  slots := r.slots.set r.head a r.head_lt
  head := next n r.head
  tail := r.tail
  head_lt := next_lt r.head_lt
  tail_lt := r.tail_lt

/-- Give the slot at the tail back. -/
def advance (r : RingBuffer α n) : RingBuffer α n where
  slots := r.slots
  head := r.head
  tail := next n r.tail
  head_lt := r.head_lt
  tail_lt := next_lt r.tail_lt

/-- The ring all of whose slots hold `a` and whose indices are `0`. -/
def fill (a : α) (h : 0 < n) : RingBuffer α n where
  slots := Vector.replicate n a
  head := 0
  tail := 0
  head_lt := h
  tail_lt := h

/-- The element `k` places behind the tail. -/
def nth (r : RingBuffer α n) (k : ℕ) : α :=
  r.slot ((r.tail + k) % n) (Nat.mod_lt _ (Nat.zero_lt_of_lt r.tail_lt))

/-- The stored elements, oldest first. -/
def toList (r : RingBuffer α n) : List α := (List.range r.used).map r.nth

/-! ### Counting -/

@[simp] lemma length_toList (r : RingBuffer α n) : r.toList.length = r.used := by simp [toList]

lemma used_lt (r : RingBuffer α n) : r.used < n := Nat.mod_lt _ (Nat.zero_lt_of_lt r.head_lt)

/-- The occupancy without the modulus. -/
lemma used_eq (r : RingBuffer α n) :
    r.used = if r.tail ≤ r.head then r.head - r.tail else r.head + n - r.tail := by
  have hh := r.head_lt
  have ht := r.tail_lt
  unfold used
  split_ifs with h
  · rw [show r.head + n - r.tail = (r.head - r.tail) + n by omega, Nat.add_mod_right]
    exact Nat.mod_eq_of_lt (by omega)
  · exact Nat.mod_eq_of_lt (by omega)

lemma isEmpty_iff (r : RingBuffer α n) : r.isEmpty = true ↔ r.used = 0 := by
  have hh := r.head_lt
  have ht := r.tail_lt
  rw [isEmpty, beq_iff_eq, used_eq]
  split_ifs <;> omega

lemma isEmpty_iff_toList (r : RingBuffer α n) : r.isEmpty = true ↔ r.toList = [] := by
  rw [isEmpty_iff, ← length_toList, List.length_eq_zero_iff]

/-- A ring is full exactly when all slots but one are occupied. -/
lemma isFull_iff (r : RingBuffer α n) : r.isFull = true ↔ r.used + 1 = n := by
  have hh := r.head_lt
  have ht := r.tail_lt
  rw [isFull, beq_iff_eq, used_eq, next_eq hh]
  split_ifs <;> omega

@[simp] lemma used_fill (a : α) (h : 0 < n) : (fill a h).used = 0 := by simp [used, fill]

@[simp] lemma toList_fill (a : α) (h : 0 < n) : (fill a h).toList = [] := by simp [toList]

lemma used_enqueue (r : RingBuffer α n) (a : α) (h : r.isFull = false) :
    (r.enqueue a).used = r.used + 1 := by
  have hh := r.head_lt
  have ht := r.tail_lt
  have hfull : ¬ r.used + 1 = n := by rw [← isFull_iff, h]; simp
  rw [used_eq] at hfull ⊢
  simp only [enqueue, used_eq, next_eq hh]
  split_ifs at hfull ⊢ <;> omega

lemma used_advance (r : RingBuffer α n) (h : r.isEmpty = false) :
    r.advance.used + 1 = r.used := by
  have hh := r.head_lt
  have ht := r.tail_lt
  have hne : ¬ r.used = 0 := by rw [← isEmpty_iff, h]; simp
  rw [used_eq] at hne ⊢
  simp only [advance, used_eq, next_eq ht]
  split_ifs at hne ⊢ <;> omega

/-! ### The ring is a queue -/

/-- The slot that `k` places behind the tail meets the head only when the ring is
exactly `k` long. -/
lemma tail_add_mod_ne_head (r : RingBuffer α n) {k : ℕ} (h : k < r.used) :
    (r.tail + k) % n ≠ r.head := by
  have hh := r.head_lt
  have ht := r.tail_lt
  have hu := r.used_lt
  rw [used_eq] at h hu
  rcases Nat.lt_or_ge (r.tail + k) n with hk | hk
  · rw [Nat.mod_eq_of_lt hk]
    split_ifs at h <;> omega
  · rw [Nat.mod_eq_sub_mod hk, Nat.mod_eq_of_lt (by split_ifs at h <;> omega)]
    split_ifs at h <;> omega

lemma tail_add_used_mod (r : RingBuffer α n) : (r.tail + r.used) % n = r.head := by
  have hh := r.head_lt
  have ht := r.tail_lt
  rw [used_eq]
  split_ifs with h
  · rw [show r.tail + (r.head - r.tail) = r.head by omega]
    exact Nat.mod_eq_of_lt hh
  · rw [show r.tail + (r.head + n - r.tail) = r.head + n by omega, Nat.add_mod_right]
    exact Nat.mod_eq_of_lt hh

/-- **Writing is appending.** -/
theorem toList_enqueue (r : RingBuffer α n) (a : α) (h : r.isFull = false) :
    (r.enqueue a).toList = r.toList ++ [a] := by
  have hold : ∀ k < r.used, (r.enqueue a).nth k = r.nth k := by
    intro k hk
    have hne := r.tail_add_mod_ne_head hk
    simp [nth, slot, enqueue, Ne.symm hne]
  have hnew : (r.enqueue a).nth r.used = a := by
    simp [nth, slot, enqueue, tail_add_used_mod]
  rw [toList, used_enqueue r a h, List.range_succ, List.map_append, toList]
  congr 1
  · exact List.map_congr_left fun k hk => hold k (List.mem_range.mp hk)
  · simp [hnew]

/-- **Reading is taking the head off.** -/
theorem toList_eq_cons_advance (r : RingBuffer α n) (h : r.isEmpty = false) :
    r.toList = r.tailSlot :: r.advance.toList := by
  have ht := r.tail_lt
  have hused := r.used_advance h
  have hnth : ∀ k, r.advance.nth k = r.nth (k + 1) := by
    intro k
    have hidx : (next n r.tail + k) % n = (r.tail + (k + 1)) % n := by
      rw [next, Nat.mod_add_mod, show r.tail + 1 + k = r.tail + (k + 1) by omega]
    simp [nth, slot, advance, hidx]
  rw [toList, ← hused, List.range_succ_eq_map, List.map_cons, List.map_map, toList]
  congr 1
  · simp [nth, tailSlot, Nat.mod_eq_of_lt ht]
  · exact List.map_congr_left fun k _ => (hnth k).symm

/-! ### Sharing a ring

One producer moves the head and one consumer moves the tail.  Each of them works on a slot
first and moves its index when it is done with it; `enqueue` and `advance` are the two of them
without an interruption.  What each relies on meanwhile is not taken away by the other: a ring
that is not full stays so while the consumer advances, and the slot at the tail of a ring that
is not empty stays as it is while the producer writes and publishes. -/

/-- The index of the next slot to write. -/
def headIdx (r : RingBuffer α n) : Fin n := ⟨r.head, r.head_lt⟩

/-- The index of the next slot to read. -/
def tailIdx (r : RingBuffer α n) : Fin n := ⟨r.tail, r.tail_lt⟩

/-- The index after `i`. -/
def nextIdx (i : Fin n) : Fin n := ⟨next n i, next_lt i.isLt⟩

/-- The slot `i`. -/
def get (r : RingBuffer α n) (i : Fin n) : α := r.slot i i.isLt

/-- Write the slot `i`. -/
def setSlot (r : RingBuffer α n) (i : Fin n) (a : α) : RingBuffer α n :=
  { r with slots := r.slots.set i a }

/-- Move the head. -/
def setHead (r : RingBuffer α n) (i : Fin n) : RingBuffer α n :=
  { r with head := i, head_lt := i.isLt }

/-- Move the tail. -/
def setTail (r : RingBuffer α n) (i : Fin n) : RingBuffer α n :=
  { r with tail := i, tail_lt := i.isLt }

@[simp] lemma get_setSlot (r : RingBuffer α n) (i : Fin n) (a : α) :
    (r.setSlot i a).get i = a := by simp [get, slot, setSlot]

@[simp] lemma setSlot_get (r : RingBuffer α n) (i : Fin n) : r.setSlot i (r.get i) = r := by
  simp [get, slot, setSlot]

@[simp] lemma setSlot_setSlot (r : RingBuffer α n) (i : Fin n) (a b : α) :
    (r.setSlot i a).setSlot i b = r.setSlot i b := by simp [setSlot]

lemma enqueue_eq (r : RingBuffer α n) (a : α) :
    r.enqueue a = (r.setSlot r.headIdx a).setHead (nextIdx r.headIdx) := rfl

lemma advance_eq (r : RingBuffer α n) : r.advance = r.setTail (nextIdx r.tailIdx) := rfl

lemma headSlot_setSlot_head (r : RingBuffer α n) (a : α) :
    (r.setSlot r.headIdx a).headSlot = a := by simp [headSlot, slot, setSlot, headIdx]

/-- The slot at the head is no element of the ring. -/
lemma toList_setSlot_head (r : RingBuffer α n) (a : α) :
    (r.setSlot r.headIdx a).toList = r.toList := by
  refine List.map_congr_left fun k hk => ?_
  have hne := r.tail_add_mod_ne_head (List.mem_range.mp hk)
  simp [nth, slot, setSlot, headIdx, Ne.symm hne]

/-- Writing at the head does not touch the oldest element. -/
lemma tailSlot_setSlot_head (r : RingBuffer α n) (a : α) (h : r.isEmpty = false) :
    (r.setSlot r.headIdx a).tailSlot = r.tailSlot := by
  have hne : r.head ≠ r.tail := fun heq => by simp [isEmpty, heq] at h
  simp [tailSlot, slot, setSlot, headIdx, hne]

/-- Publishing the slot at the head is appending it. -/
lemma toList_setHead (r : RingBuffer α n) (h : r.isFull = false) :
    (r.setHead (nextIdx r.headIdx)).toList = r.toList ++ [r.headSlot] := by
  have hself : r.setSlot r.headIdx r.headSlot = r := by simp [setSlot, headSlot, slot, headIdx]
  have henqueue := r.toList_enqueue r.headSlot h
  rwa [enqueue_eq, hself] at henqueue

lemma isEmpty_setHead (r : RingBuffer α n) (h : r.isFull = false) :
    (r.setHead (nextIdx r.headIdx)).isEmpty = false := by
  rw [Bool.eq_false_iff, Ne, isEmpty_iff_toList, r.toList_setHead h]
  simp

/-- Advancing makes room. -/
lemma isFull_advance (r : RingBuffer α n) (h : r.isEmpty = false) : r.advance.isFull = false := by
  have hused := r.used_advance h
  have hlt := r.used_lt
  rw [Bool.eq_false_iff, Ne, isFull_iff]
  omega

end RingBuffer
