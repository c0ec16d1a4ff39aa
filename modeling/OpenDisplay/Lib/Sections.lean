import Mathlib.Data.List.Induction
import Mathlib.Tactic.Common

/-!
# Sections of a trace

A trace is a list of events.  Some events open a section and some close it; an event
that opens one while it is open changes nothing.  An event that may only happen outside
is kept out of every section by one test before each event, and this file turns that
test into the statement about the whole trace: between an opening and the first closing
after it no such event occurs.
-/

namespace Sections

variable {α : Type*} (opens closes : α → Bool)

/-- A section is open after the trace. -/
def isOpen (tr : List α) : Bool := tr.foldl (fun o a => opens a || (o && !closes a)) false

@[simp] lemma isOpen_nil : isOpen opens closes [] = false := rfl

@[simp] lemma isOpen_concat (tr : List α) (a : α) :
    isOpen opens closes (tr ++ [a]) = (opens a || (isOpen opens closes tr && !closes a)) := by
  simp [isOpen]

/-- Every event that has the property `uses` happens outside of the sections. -/
def Outside (uses : α → Prop) (tr : List α) : Prop :=
  ∀ past a later, tr = past ++ a :: later → uses a → isOpen opens closes past = false

variable {opens closes} {uses : α → Prop}

lemma outside_nil : Outside opens closes uses [] := by
  intro past a later h
  simp at h

/-- **The test before an event.** -/
theorem Outside.concat {tr : List α} (h : Outside opens closes uses tr) {a : α}
    (ha : uses a → isOpen opens closes tr = false) : Outside opens closes uses (tr ++ [a]) := by
  intro past b later hsplit hb
  rcases List.eq_nil_or_concat later with rfl | ⟨later, c, rfl⟩
  · obtain ⟨rfl, hba⟩ := List.append_inj' hsplit rfl
    obtain rfl : a = b := by simpa using hba
    exact ha hb
  · rw [List.concat_eq_append, ← List.cons_append, ← List.append_assoc] at hsplit
    exact h past b later (List.append_inj' hsplit rfl).1 hb

/-- A section stays open as long as nothing closes it. -/
lemma isOpen_of_opened {past during : List α} {a : α} (ha : opens a = true)
    (hduring : ∀ b ∈ during, closes b = false) :
    isOpen opens closes (past ++ a :: during) = true := by
  induction during using List.reverseRecOn with
  | nil => simp [ha]
  | append_singleton during b ih =>
      have hopen := ih fun c hc => hduring c (by simp [hc])
      have hb : closes b = false := hduring b (by simp)
      rw [← List.cons_append, ← List.append_assoc, isOpen_concat, hopen, hb]
      simp

/-- **What is kept outside does not happen in a section.** -/
theorem Outside.not_uses {past during after : List α} {a : α}
    (h : Outside opens closes uses (past ++ a :: (during ++ after))) (ha : opens a = true)
    (hduring : ∀ b ∈ during, closes b = false) : ∀ b ∈ during, ¬ uses b := by
  intro b hb huses
  obtain ⟨before, later, rfl⟩ := List.append_of_mem hb
  have hclosed := h (past ++ a :: before) b (later ++ after) (by simp) huses
  have hopen : isOpen opens closes (past ++ a :: before) = true :=
    isOpen_of_opened ha fun c hc => hduring c (by simp [hc])
  rw [hopen] at hclosed
  cases hclosed

end Sections
