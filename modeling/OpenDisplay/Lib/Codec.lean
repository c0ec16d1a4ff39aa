import Mathlib.Data.List.Basic
import Mathlib.Tactic.Common

/-!
# Codecs

A codec says how the values of a type are written as a string of symbols, which values can
be written, and how a value is read back.  A `Codec` reads from the front of a string and
leaves the rest of it; a `Message` takes the whole string.  Both carry the one law that
matters, `read_iff`: what is read is what was written.  So nothing is written in two ways,
and no string is taken for a value that it was not written for.

Codecs are put together one after another, the second one depending on what the first has
read (`Codec.bind`); the last one of a message may be a message (`Codec.before`).
-/

variable {σ α β : Type*}

/-- How values are written, and read from the front of a string. -/
structure Codec (σ α : Type*) where
  /-- The values that can be written. -/
  Valid : α → Prop
  write : α → List σ
  read : List σ → Option (α × List σ)
  read_iff : ∀ {s a rest}, read s = some (a, rest) ↔ Valid a ∧ write a ++ rest = s

/-- How values are written, and read from a string that holds nothing else. -/
structure Message (σ α : Type*) where
  /-- The values that can be written. -/
  Valid : α → Prop
  write : α → List σ
  read : List σ → Option α
  read_iff : ∀ {s a}, read s = some a ↔ Valid a ∧ write a = s

namespace Codec

/-- A single symbol. -/
def symbol : Codec σ σ where
  Valid _ := True
  write a := [a]
  read
    | [] => none
    | a :: rest => some (a, rest)
  read_iff {s a rest} := by
    cases s with
    | nil => simp
    | cons b s => simp [eq_comm]

/-- So many symbols. -/
def block (n : ℕ) : Codec σ (List σ) where
  Valid l := l.length = n
  write l := l
  read s := if n ≤ s.length then some (s.take n, s.drop n) else none
  read_iff {s l rest} := by
    constructor
    · intro h
      split_ifs at h with hn
      obtain ⟨rfl, rfl⟩ := Prod.mk.inj (Option.some.inj h)
      exact ⟨List.length_take_of_le hn, List.take_append_drop n s⟩
    · rintro ⟨rfl, rfl⟩
      simp

/-- A string that is always the same. -/
def constant [DecidableEq σ] (w : List σ) : Codec σ Unit where
  Valid _ := True
  write _ := w
  read s := if w <+: s then some ((), s.drop w.length) else none
  read_iff {s a rest} := by
    constructor
    · intro h
      split_ifs at h with hw
      obtain ⟨s', rfl⟩ := hw
      obtain rfl := congrArg Prod.snd (Option.some.inj h)
      exact ⟨trivial, by rw [List.drop_left]⟩
    · rintro ⟨-, rfl⟩
      simp

/-- One after another; how the second one is written may depend on the first. -/
def bind (c : Codec σ α) (d : α → Codec σ β) : Codec σ (α × β) where
  Valid p := c.Valid p.1 ∧ (d p.1).Valid p.2
  write p := c.write p.1 ++ (d p.1).write p.2
  read s := (c.read s).bind fun p => ((d p.1).read p.2).map fun q => ((p.1, q.1), q.2)
  read_iff {s p rest} := by
    obtain ⟨a, b⟩ := p
    constructor
    · intro h
      obtain ⟨⟨a', s'⟩, hc, h⟩ := Option.bind_eq_some_iff.mp h
      obtain ⟨⟨b', rest'⟩, hd, h⟩ := Option.map_eq_some_iff.mp h
      obtain ⟨⟨rfl, rfl⟩, rfl⟩ := And.imp_left Prod.mk.inj (Prod.mk.inj h)
      obtain ⟨hca, rfl⟩ := c.read_iff.mp hc
      obtain ⟨hdb, rfl⟩ := (d a').read_iff.mp hd
      exact ⟨⟨hca, hdb⟩, List.append_assoc _ _ _⟩
    · rintro ⟨⟨hca, hdb⟩, rfl⟩
      have hc := c.read_iff.mpr ⟨hca, (List.append_assoc _ ((d a).write b) rest).symm⟩
      have hd := (d a).read_iff.mpr ⟨hdb, (rfl : _ = (d a).write b ++ rest)⟩
      dsimp only
      rw [hc, Option.bind_some, hd]
      rfl

/-- One after another, the second one the same always. -/
abbrev seq (c : Codec σ α) (d : Codec σ β) : Codec σ (α × β) := c.bind fun _ => d

/-- The string holds the value and nothing behind it. -/
def whole (c : Codec σ α) : Message σ α where
  Valid := c.Valid
  write := c.write
  read s :=
    match c.read s with
    | some (a, []) => some a
    | _ => none
  read_iff {s a} := by
    have hiff := @c.read_iff s a []
    rw [List.append_nil] at hiff
    rw [← hiff]
    rcases c.read s with _ | ⟨b, _ | ⟨x, rest⟩⟩ <;> simp

/-- The last one takes what is left. -/
def before (c : Codec σ α) (m : Message σ β) : Message σ (α × β) where
  Valid p := c.Valid p.1 ∧ m.Valid p.2
  write p := c.write p.1 ++ m.write p.2
  read s := (c.read s).bind fun p => (m.read p.2).map fun b => (p.1, b)
  read_iff {s p} := by
    obtain ⟨a, b⟩ := p
    constructor
    · intro h
      obtain ⟨⟨a', s'⟩, hc, h⟩ := Option.bind_eq_some_iff.mp h
      obtain ⟨b', hm, h⟩ := Option.map_eq_some_iff.mp h
      obtain ⟨rfl, rfl⟩ := Prod.mk.inj h
      obtain ⟨hca, rfl⟩ := c.read_iff.mp hc
      obtain ⟨hmb, rfl⟩ := m.read_iff.mp hm
      exact ⟨⟨hca, hmb⟩, rfl⟩
    · rintro ⟨⟨hca, hmb⟩, rfl⟩
      have hc := c.read_iff.mpr ⟨hca, (rfl : _ = c.write a ++ m.write b)⟩
      have hm := m.read_iff.mpr ⟨hmb, (rfl : _ = m.write b)⟩
      dsimp only
      rw [hc, Option.bind_some, hm]
      rfl

end Codec

namespace Message

/-- All that is left, which is something. -/
def remaining : Message σ (List σ) where
  Valid l := l ≠ []
  write l := l
  read s := if s = [] then none else some s
  read_iff {s l} := by
    constructor
    · intro h
      split_ifs at h with hs
      obtain rfl := Option.some.inj h
      exact ⟨hs, rfl⟩
    · rintro ⟨hl, rfl⟩
      exact if_neg hl

/-- What a message is taken for. -/
lemma map_read_iff (m : Message σ α) {f : α → β} {s : List σ} {b : β} :
    (m.read s).map f = some b ↔ ∃ a, m.Valid a ∧ m.write a = s ∧ f a = b := by
  rw [Option.map_eq_some_iff]
  constructor
  · rintro ⟨a, hread, hf⟩
    obtain ⟨hvalid, hwrite⟩ := m.read_iff.mp hread
    exact ⟨a, hvalid, hwrite, hf⟩
  · rintro ⟨a, hvalid, hwrite, hf⟩
    exact ⟨a, m.read_iff.mpr ⟨hvalid, hwrite⟩, hf⟩

end Message
