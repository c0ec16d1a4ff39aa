import Mathlib.Data.List.Basic
import Mathlib.Tactic.Common

/-!
# Runs of a deterministic machine

A machine is a step function `σ → ι → σ`.  This file fixes the vocabulary in
which facts about whole runs are stated: the state reached by a list of inputs,
the runs all of whose steps meet a condition, and *monitors*, which accumulate a
history along a run without influencing it.  The induction over a run is done
here once; a development that uses these rules only proves what one step
preserves.
-/

namespace Machine

variable {σ ι γ : Type*}

/-- The state reached from `s` by the inputs `is`. -/
def exec (step : σ → ι → σ) (s : σ) (is : List ι) : σ := is.foldl step s

/-- Every step of the run from `s` along the inputs meets the condition `P`,
which sees the state before the step and the input. -/
def AllSteps (step : σ → ι → σ) (P : σ → ι → Prop) : σ → List ι → Prop
  | _, [] => True
  | s, i :: is => P s i ∧ AllSteps step P (step s i) is

/-- The machine that carries a monitor: `watch` folds the steps of the run into
a history of type `γ`, seeing the state before each step and its input. -/
def monitored (step : σ → ι → σ) (watch : γ → σ → ι → γ) : γ × σ → ι → γ × σ :=
  fun s i => (watch s.1 s.2 i, step s.2 i)

section Runs

variable (step : σ → ι → σ)

@[simp] lemma exec_nil (s : σ) : exec step s [] = s := rfl

@[simp] lemma exec_cons (s : σ) (i : ι) (is : List ι) :
    exec step s (i :: is) = exec step (step s i) is := rfl

lemma exec_append (s : σ) (is js : List ι) :
    exec step s (is ++ js) = exec step (exec step s is) js := by
  simp [exec, List.foldl_append]

@[simp] lemma allSteps_nil (P : σ → ι → Prop) (s : σ) : AllSteps step P s [] := trivial

@[simp] lemma allSteps_cons (P : σ → ι → Prop) (s : σ) (i : ι) (is : List ι) :
    AllSteps step P s (i :: is) ↔ P s i ∧ AllSteps step P (step s i) is := Iff.rfl

lemma allSteps_append (P : σ → ι → Prop) (s : σ) (is js : List ι) :
    AllSteps step P s (is ++ js) ↔
      AllSteps step P s is ∧ AllSteps step P (exec step s is) js := by
  induction is generalizing s with
  | nil => simp
  | cons i is ih => simp [ih, and_assoc]

/-- A condition that each of the inputs meets in every state. -/
lemma allSteps_of_forall_mem {P : σ → ι → Prop} {is : List ι} (h : ∀ i ∈ is, ∀ s, P s i)
    (s : σ) : AllSteps step P s is := by
  induction is generalizing s with
  | nil => trivial
  | cons i is ih =>
      obtain ⟨hi, his⟩ := List.forall_mem_cons.mp h
      exact ⟨hi s, ih his _⟩

/-- Two conditions that every step meets. -/
lemma allSteps_and {P Q : σ → ι → Prop} {s : σ} {is : List ι} (hP : AllSteps step P s is)
    (hQ : AllSteps step Q s is) : AllSteps step (fun s i => P s i ∧ Q s i) s is := by
  induction is generalizing s with
  | nil => trivial
  | cons i is ih => exact ⟨⟨hP.1, hQ.1⟩, ih hP.2 hQ.2⟩

/-- A condition that also says what each of the inputs is by itself. -/
lemma allSteps_and_mem {P : σ → ι → Prop} {Q : ι → Prop} {s : σ} {is : List ι}
    (hP : AllSteps step P s is) (hQ : ∀ i ∈ is, Q i) :
    AllSteps step (fun s i => P s i ∧ Q i) s is := by
  induction is generalizing s with
  | nil => trivial
  | cons i is ih =>
      obtain ⟨hi, his⟩ := hP
      obtain ⟨hq, hqs⟩ := List.forall_mem_cons.mp hQ
      exact ⟨⟨hi, hq⟩, ih his hqs⟩

instance decidableAllSteps (P : σ → ι → Prop) [∀ s i, Decidable (P s i)] :
    ∀ (s : σ) (is : List ι), Decidable (AllSteps step P s is)
  | _, [] => isTrue trivial
  | s, i :: is => @instDecidableAnd _ _ _ (decidableAllSteps P (step s i) is)

end Runs

section Outputs

variable (step : σ → ι → σ) (out : σ → ι → List γ)

/-- What the steps of a run put out, one after another. -/
def outputs : σ → List ι → List γ
  | _, [] => []
  | s, i :: is => out s i ++ outputs (step s i) is

@[simp] lemma outputs_nil (s : σ) : outputs step out s [] = [] := rfl

@[simp] lemma outputs_cons (s : σ) (i : ι) (is : List ι) :
    outputs step out s (i :: is) = out s i ++ outputs step out (step s i) is := rfl

lemma outputs_append (s : σ) (is js : List ι) :
    outputs step out s (is ++ js) =
      outputs step out s is ++ outputs step out (exec step s is) js := by
  induction is generalizing s with
  | nil => rfl
  | cons i is ih => simp [ih]

/-- What is picked out of what a run puts out is picked step by step. -/
lemma filterMap_outputs {δ : Type*} (f : γ → Option δ) (s : σ) (is : List ι) :
    (outputs step out s is).filterMap f =
      outputs step (fun s i => (out s i).filterMap f) s is := by
  induction is generalizing s with
  | nil => rfl
  | cons i is ih => rw [outputs_cons, outputs_cons, List.filterMap_append, ih]

/-- What a run puts out is mapped step by step. -/
lemma map_outputs {δ : Type*} (f : γ → δ) (s : σ) (is : List ι) :
    (outputs step out s is).map f = outputs step (fun s i => (out s i).map f) s is := by
  simpa only [List.filterMap_eq_map] using filterMap_outputs step out (some ∘ f) s is

/-- Inputs that put nothing out in any state. -/
lemma outputs_eq_nil {is : List ι} (h : ∀ i ∈ is, ∀ s, out s i = []) (s : σ) :
    outputs step out s is = [] := by
  induction is generalizing s with
  | nil => rfl
  | cons i is ih =>
      obtain ⟨hi, his⟩ := List.forall_mem_cons.mp h
      rw [outputs_cons, hi s, ih his, List.nil_append]

/-- **The conservation rule.**  What the machine stores comes out in the order in which it
came in, if every step keeps that order. -/
theorem outputs_conserve {step : σ → ι → σ} {out taken : σ → ι → List γ} (content : σ → List γ)
    (hstep : ∀ s i, out s i ++ content (step s i) = content s ++ taken s i) (s : σ)
    (is : List ι) :
    outputs step out s is ++ content (exec step s is) = content s ++ outputs step taken s is := by
  induction is generalizing s with
  | nil => exact (List.append_nil _).symm
  | cons i is ih =>
      rw [outputs_cons, outputs_cons, exec_cons, List.append_assoc, ih, ← List.append_assoc,
        hstep, List.append_assoc]

/-- **The summary rule.**  A summary of the state into which every step enters what it puts
out is what a run has put out, entered one after another. -/
theorem exec_summary {τ : Type*} {step : σ → ι → σ} {out : σ → ι → List γ} (f : σ → τ)
    {enter : τ → γ → τ} (hstep : ∀ s i, f (step s i) = (out s i).foldl enter (f s)) (s : σ)
    (is : List ι) : f (exec step s is) = (outputs step out s is).foldl enter (f s) := by
  induction is generalizing s with
  | nil => rfl
  | cons i is ih => rw [exec_cons, ih, hstep, outputs_cons, List.foldl_append]

variable {step out}

/-- The run from `s` along the inputs puts `os` out and ends in `t`. -/
structure Run (step : σ → ι → σ) (out : σ → ι → List γ) (s : σ) (is : List ι) (os : List γ)
    (t : σ) : Prop where
  outputs_eq : outputs step out s is = os
  exec_eq : exec step s is = t

lemma Run.nil (s : σ) : Run step out s [] [] s := ⟨rfl, rfl⟩

lemma Run.cons {s t u : σ} {i : ι} {is : List ι} {os os' : List γ} (hout : out s i = os)
    (hstep : step s i = t) (h : Run step out t is os' u) :
    Run step out s (i :: is) (os ++ os') u where
  outputs_eq := by rw [outputs_cons, hout, hstep, h.outputs_eq]
  exec_eq := by rw [exec_cons, hstep, h.exec_eq]

/-- A step that puts nothing out. -/
lemma Run.silent {s t u : σ} {i : ι} {is : List ι} {os : List γ} (hout : out s i = [])
    (hstep : step s i = t) (h : Run step out t is os u) : Run step out s (i :: is) os u :=
  .cons hout hstep h

lemma Run.append {s t u : σ} {is js : List ι} {os os' : List γ} (h : Run step out s is os t)
    (h' : Run step out t js os' u) : Run step out s (is ++ js) (os ++ os') u where
  outputs_eq := by rw [outputs_append, h.outputs_eq, h.exec_eq, h'.outputs_eq]
  exec_eq := by rw [exec_append, h.exec_eq, h'.exec_eq]

end Outputs

section Invariants

variable {step : σ → ι → σ} {P : σ → ι → Prop} {I : σ → Prop}

/-- **The invariant rule.**  What every step preserves holds after every run. -/
theorem exec_invariant (hstep : ∀ s i, I s → I (step s i)) {s : σ} (h : I s)
    (is : List ι) : I (exec step s is) := by
  induction is generalizing s with
  | nil => exact h
  | cons i is ih => exact ih (hstep s i h)

/-- **The guarded invariant rule.**  What every step that meets the condition
preserves holds after every run whose steps all meet it. -/
theorem exec_invariant_of_allSteps (hstep : ∀ s i, I s → P s i → I (step s i)) {s : σ}
    (h : I s) {is : List ι} (hP : AllSteps step P s is) : I (exec step s is) := by
  induction is generalizing s with
  | nil => exact h
  | cons i is ih =>
      obtain ⟨hi, his⟩ := hP
      exact ih (hstep s i h hi) his

/-- Nothing is put out by a run whose steps keep an invariant under which nothing is. -/
theorem outputs_eq_nil_of_allSteps {out : σ → ι → List γ}
    (hstep : ∀ s i, I s → P s i → I (step s i)) (hout : ∀ s i, I s → P s i → out s i = []) {s : σ}
    (h : I s) {is : List ι} (hP : AllSteps step P s is) : outputs step out s is = [] := by
  induction is generalizing s with
  | nil => rfl
  | cons i is ih =>
      obtain ⟨hi, his⟩ := hP
      rw [outputs_cons, hout s i h hi, ih (hstep s i h hi) his, List.nil_append]

/-- A condition that follows from another one wherever an invariant holds, which steps
meeting that one preserve, is met by the same runs. -/
theorem allSteps_of_allSteps {Q : σ → ι → Prop} (hstep : ∀ s i, I s → P s i → I (step s i))
    (hPQ : ∀ s i, I s → P s i → Q s i) {s : σ} (h : I s) {is : List ι}
    (hP : AllSteps step P s is) : AllSteps step Q s is := by
  induction is generalizing s with
  | nil => trivial
  | cons i is ih =>
      obtain ⟨hi, his⟩ := hP
      exact ⟨hPQ s i h hi, ih (hstep s i h hi) his⟩

/-- Two conditions that agree wherever an invariant holds, which steps meeting the
first of them preserve, are met by the same runs. -/
theorem allSteps_congr {Q : σ → ι → Prop} (hstep : ∀ s i, I s → P s i → I (step s i))
    (hPQ : ∀ s i, I s → (P s i ↔ Q s i)) {s : σ} (h : I s) (is : List ι) :
    AllSteps step P s is ↔ AllSteps step Q s is := by
  induction is generalizing s with
  | nil => exact Iff.rfl
  | cons i is ih =>
      rw [allSteps_cons, allSteps_cons, ← hPQ s i h]
      exact and_congr_right fun hi => ih (hstep s i h hi)

end Invariants

section Monitors

variable (step : σ → ι → σ) (watch : γ → σ → ι → γ)

/-- A monitor does not influence the run it watches. -/
@[simp] lemma exec_monitored_snd (s : γ × σ) (is : List ι) :
    (exec (monitored step watch) s is).2 = exec step s.2 is := by
  induction is generalizing s with
  | nil => rfl
  | cons i is ih => simp [ih, monitored]

/-- A condition that does not look at the monitor is met by the same runs with it. -/
lemma allSteps_monitored (P : σ → ι → Prop) (s : γ × σ) (is : List ι) :
    AllSteps (monitored step watch) (fun s i => P s.2 i) s is ↔ AllSteps step P s.2 is := by
  induction is generalizing s with
  | nil => exact Iff.rfl
  | cons i is ih => exact and_congr_right fun _ => ih _

end Monitors

section Simulations

variable {σ' : Type*} {step : σ → ι → σ} {step' : σ' → ι → σ'} {out : σ → ι → List γ}
  {out' : σ' → ι → List γ} {R : σ → σ' → Prop} {P : σ → ι → Prop}

/-- **The simulation rule.**  Two machines of which every step that meets the condition puts
out the same, and keeps them related, put out the same in every run of such steps. -/
theorem outputs_eq_of_simulation
    (hstep : ∀ s s' i, R s s' → P s i → out' s' i = out s i ∧ R (step s i) (step' s' i))
    {s : σ} {s' : σ'} (h : R s s') {is : List ι} (hP : AllSteps step P s is) :
    outputs step' out' s' is = outputs step out s is ∧ R (exec step s is) (exec step' s' is) := by
  induction is generalizing s s' with
  | nil => exact ⟨rfl, h⟩
  | cons i is ih =>
      obtain ⟨hi, his⟩ := hP
      obtain ⟨hout, hnext⟩ := hstep s s' i h hi
      obtain ⟨hrest, hend⟩ := ih hnext his
      exact ⟨by rw [outputs_cons, outputs_cons, hout, hrest], hend⟩

end Simulations

/-! ### Machines inside machines -/

/-- A machine that performs, in each of its steps, some steps of an inner
machine: the state `view s` of the inner machine always is one that the inner
machine reaches on its own. -/
theorem exists_exec_of_steps {τ κ : Type*} {step : σ → ι → σ} {inner : τ → κ → τ}
    (view : σ → τ) (hstep : ∀ s i, ∃ ks, view (step s i) = exec inner (view s) ks)
    (s : σ) (is : List ι) : ∃ ks, view (exec step s is) = exec inner (view s) ks := by
  induction is generalizing s with
  | nil => exact ⟨[], rfl⟩
  | cons i is ih =>
      obtain ⟨ks, hks⟩ := hstep s i
      obtain ⟨ls, hls⟩ := ih (step s i)
      exact ⟨ks ++ ls, by rw [exec_append, ← hks]; exact hls⟩

end Machine
