import OpenDisplay.Lib.Machine
import Mathlib.Data.Nat.Basic

/-!
# Progress by counting down

Some inputs of a machine drive it on, and others come in between them as they please.  A
measure that no input raises, and that every driving input lowers, bounds how many driving
inputs it takes until something happens (`meets_of_countdown`), until so and so many
items have come out (`length_outputs_of_countdown`), or until the first one has
(`first_output_of_countdown`).  Nothing is assumed about the other
inputs, so that they cannot hold the machine up.

A machine that works in rounds of at most `m` items, with `o` steps of other work in a
round, takes `drainTime` to put a number of items out.
-/

namespace Machine

variable {σ ι γ : Type*}

section Meeting

variable (step : σ → ι → σ)

/-- In the run from `s` along the inputs comes a step of this kind. -/
def Meets (hit : σ → ι → Prop) : σ → List ι → Prop
  | _, [] => False
  | s, i :: is => hit s i ∨ Meets hit (step s i) is

@[simp] lemma meets_cons (hit : σ → ι → Prop) (s : σ) (i : ι) (is : List ι) :
    Meets step hit s (i :: is) ↔ hit s i ∨ Meets step hit (step s i) is := Iff.rfl

/-- The step comes after some of the inputs and before the others. -/
lemma meets_iff (hit : σ → ι → Prop) (s : σ) (is : List ι) :
    Meets step hit s is ↔
      ∃ before i after, is = before ++ i :: after ∧ hit (exec step s before) i := by
  induction is generalizing s with
  | nil =>
      constructor
      · rintro ⟨⟩
      · rintro ⟨before, i, after, h, -⟩
        exact absurd h (by simp)
  | cons i is ih =>
      rw [meets_cons, ih]
      constructor
      · rintro (h | ⟨before, j, after, rfl, h⟩)
        · exact ⟨[], i, is, rfl, h⟩
        · exact ⟨i :: before, j, after, rfl, h⟩
      · rintro ⟨_ | ⟨i', before⟩, j, after, heq, h⟩
        · obtain ⟨rfl, rfl⟩ := List.cons.inj heq
          exact Or.inl h
        · obtain ⟨rfl, rfl⟩ := List.cons.inj heq
          exact Or.inr ⟨before, j, after, rfl, h⟩

instance decidableMeets (hit : σ → ι → Prop) [∀ s i, Decidable (hit s i)] :
    ∀ (s : σ) (is : List ι), Decidable (Meets step hit s is)
  | _, [] => isFalse id
  | s, i :: is => @instDecidableOr _ _ _ (decidableMeets hit (step s i) is)

end Meeting

section Countdown

variable {step : σ → ι → σ} {P : σ → ι → Prop} (counts : ι → Bool)

/-- What one input takes off a measure. -/
def cost (i : ι) : ℕ := if counts i then 1 else 0

@[simp] lemma countP_cons_cost (i : ι) (is : List ι) :
    (i :: is).countP counts = is.countP counts + cost counts i := by
  rw [List.countP_cons, cost]

variable {counts}

/-- **The countdown rule.**  While nothing of the kind happens, every input that counts
lowers the measure and no input raises it.  Then it happens before more inputs have
counted than the measure says. -/
theorem meets_of_countdown {hit : σ → ι → Prop} {I : σ → Prop} {μ : σ → ℕ}
    (hkeep : ∀ s i, I s → P s i → ¬ hit s i → I (step s i))
    (hdown : ∀ s i, I s → P s i → ¬ hit s i → μ (step s i) + cost counts i ≤ μ s)
    {s : σ} (h : I s) {is : List ι} (hP : AllSteps step P s is)
    (hcount : μ s < is.countP counts) : Meets step hit s is := by
  induction is generalizing s with
  | nil => exact absurd hcount (Nat.not_lt_zero _)
  | cons i is ih =>
      obtain ⟨hi, his⟩ := hP
      by_cases hhit : hit s i
      · exact Or.inl hhit
      · have hless := hdown s i h hi hhit
        rw [countP_cons_cost] at hcount
        exact Or.inr (ih (hkeep s i h hi hhit) his (by omega))

/-- **The countdown rule for outputs.**  `μ s k` bounds the inputs that count until `k`
items have come out of `s`. -/
theorem length_outputs_of_countdown {out : σ → ι → List γ} {I : σ → ℕ → Prop} {μ : σ → ℕ → ℕ}
    (hpos : ∀ s k, I s (k + 1) → 0 < μ s (k + 1))
    (hkeep : ∀ s i k, I s (k + 1) → P s i → I (step s i) (k + 1 - (out s i).length))
    (hdown : ∀ s i k, I s (k + 1) → P s i →
      μ (step s i) (k + 1 - (out s i).length) + cost counts i ≤ μ s (k + 1))
    {s : σ} {k : ℕ} (h : I s k) {is : List ι} (hP : AllSteps step P s is)
    (hcount : μ s k ≤ is.countP counts) : k ≤ (outputs step out s is).length := by
  induction is generalizing s k with
  | nil =>
      rcases k with _ | k
      · exact Nat.zero_le _
      · exact absurd (hpos s k h) (Nat.not_lt.mpr hcount)
  | cons i is ih =>
      rcases k with _ | k
      · exact Nat.zero_le _
      · obtain ⟨hi, his⟩ := hP
        have hless := hdown s i k h hi
        rw [countP_cons_cost] at hcount
        have hrest := ih (hkeep s i k h hi) his (by omega)
        rw [outputs_cons, List.length_append]
        omega

variable (step counts) in
/-- **The countdown rule for the first output.**  An input that counts puts something out
that is as it should be, or it lowers the measure; the other inputs do neither.  Then
nothing comes out before what should, and it comes before more inputs have counted than the
measure says. -/
theorem first_output_of_countdown (out : σ → ι → List γ) {I : σ → Prop} {A : γ → Prop}
    {μ : σ → ℕ} (hpos : ∀ s, I s → 0 < μ s)
    (hcounts : ∀ s i, I s → counts i = true →
      (out s i = [] ∧ I (step s i) ∧ μ (step s i) + 1 = μ s) ∨ ∃ a, A a ∧ out s i = [a])
    (hothers : ∀ s i, I s → counts i = false →
      out s i = [] ∧ I (step s i) ∧ μ (step s i) = μ s)
    {s : σ} (h : I s) (is : List ι) :
    outputs step out s is = [] ∧ is.countP counts < μ s ∨
      ∃ a, A a ∧ ∃ rest, outputs step out s is = a :: rest := by
  induction is generalizing s with
  | nil => exact Or.inl ⟨rfl, hpos s h⟩
  | cons i is ih =>
      rw [outputs_cons]
      by_cases hi : counts i = true
      · rcases hcounts s i h hi with ⟨hnone, hnext, hless⟩ | ⟨a, ha, hout⟩
        · rw [hnone, List.nil_append, List.countP_cons_of_pos hi, ← hless]
          exact (ih hnext).imp_left fun hrest => ⟨hrest.1, Nat.succ_lt_succ hrest.2⟩
        · rw [hout]
          exact Or.inr ⟨a, ha, _, rfl⟩
      · obtain ⟨hnone, hnext, hsame⟩ := hothers s i h (Bool.eq_false_iff.mpr hi)
        rw [hnone, List.nil_append, List.countP_cons_of_neg hi, ← hsame]
        exact ih hnext

end Countdown

end Machine

/-! ### Rounds -/

/-- The steps it takes to put `k` items out, in rounds of at most `m` items with `o` steps
of other work each, when `s` items of the round have come out already. -/
def drainTime (m o s k : ℕ) : ℕ := k + o * ((k + s - 1) / m)

namespace drainTime

variable {m o s k : ℕ}

/-- An item comes out. -/
lemma item : drainTime m o (s + 1) k + 1 = drainTime m o s (k + 1) := by
  rw [drainTime, drainTime, show k + (s + 1) - 1 = k + 1 + s - 1 by omega]
  omega

/-- The round is over, and the other work comes before the next one. -/
lemma round (hm : 0 < m) (hs : m ≤ s) :
    o + drainTime m o 0 (k + 1) ≤ drainTime m o s (k + 1) := by
  have hround : (k + 1 + 0 - 1) / m + 1 ≤ (k + 1 + s - 1) / m := by
    rw [← Nat.add_div_right _ hm]
    exact Nat.div_le_div_right (by omega)
  have hwork := Nat.mul_le_mul_left o hround
  rw [Nat.mul_add, Nat.mul_one] at hwork
  simp only [drainTime]
  omega

lemma mono {k' : ℕ} (h : k ≤ k') : drainTime m o s k ≤ drainTime m o s k' :=
  Nat.add_le_add h (Nat.mul_le_mul_left o (Nat.div_le_div_right (by omega)))

lemma pos : 0 < drainTime m o s (k + 1) :=
  Nat.lt_of_lt_of_le (Nat.succ_pos k) (Nat.le_add_right _ _)

/-- From anywhere in a round, `k` items take as many rounds as have room for them. -/
lemma le_rounds (hm : 0 < m) (hs : s ≤ m) : drainTime m o s k ≤ (m + o) * ((k + m - 1) / m) := by
  have hitems : k ≤ m * ((k + m - 1) / m) := by
    have hdiv := Nat.div_add_mod (k + m - 1) m
    have hmod := Nat.mod_lt (k + m - 1) hm
    omega
  have hrounds : (k + s - 1) / m ≤ (k + m - 1) / m := Nat.div_le_div_right (by omega)
  have hwork := Nat.mul_le_mul_left o hrounds
  rw [Nat.add_mul, drainTime]
  omega

end drainTime
