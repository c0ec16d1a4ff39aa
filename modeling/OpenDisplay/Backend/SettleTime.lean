import OpenDisplay.Backend.IT8951
import OpenDisplay.Lib.Machine
import OpenDisplay.Lib.Words

/-!
# The settle time of the IT8951 backend

`poll_refresh` stands a fixed time in for the end of a refresh.  From a refresh that has
begun, the polls answer `PENDING` until the time is over and the first one after it answers
`COMPLETE`, across the wrap of `millis()`, unless the deadline falls on the word that stands
for *no refresh in flight*: then no poll ever answers `COMPLETE`.
-/

namespace OpenDisplay

/-- What can happen between a `begin_refresh` and the next `begin_frame`, `begin_refresh` or
`abort_transfer`. -/
inductive SettleOp (δ : Type)
  | poll
  | write (offset : UInt32) (data : List UInt8)
  | finish
  | world (event : IT8951Event δ)

namespace IT8951Backend

variable {δ : Type} [DisplayDriver δ]

open DisplayDriver Machine

/-- The backend after one operation. -/
def settleStep (b : IT8951Backend δ) : SettleOp δ → IT8951Backend δ
  | .poll => b.pollRefresh.2
  | .write offset data => (b.writeContiguous offset data).2
  | .finish => b.finishFrame.2
  | .world event => PanelWorld.happen event b

/-- A poll, `e` milliseconds after the clock stood at `start`, with its answer. -/
def pollAnswer (start : ℕ) (b : IT8951Backend δ) : SettleOp δ → List (ℕ × PollResult)
  | .poll => [(b.clock - start, b.pollRefresh.1)]
  | _ => []

/-- A poll of a driver that has not failed, in the lower half of the range of the clock. -/
def Sound (start : ℕ) (b : IT8951Backend δ) : SettleOp δ → Prop
  | .poll => b.display.all (fun d => !isFailed d) = true ∧ b.clock < start + 2 ^ 31
  | _ => True

/-- What is asked of the polls after a `begin_refresh`: `PENDING` before the settle time is
over, and `COMPLETE` at the first poll after it. -/
structure SettlesExactly (answers : List (ℕ × PollResult)) : Prop where
  early : ∀ p ∈ answers, p.1 < it8951RefreshSettleMs.toNat → p.2 = .pending
  first : ∀ p, answers.find? (fun p => decide (it8951RefreshSettleMs.toNat ≤ p.1)) = some p →
    p.2 = .complete

/-! ### One poll -/

/-- The backend has a display, its clock has gone on since `start`, and its deadline is
this one. -/
structure Settling (start : ℕ) (deadline : UInt32) (b : IT8951Backend δ) : Prop where
  display : b.display.isSome = true
  clock_le : start ≤ b.clock
  deadline_eq : b.refreshSettleDeadlineMs = deadline

variable {start : ℕ} {b : IT8951Backend δ}

omit [DisplayDriver δ] in
lemma Settling.world {deadline : UInt32} (h : Settling start deadline b) (event : IT8951Event δ) :
    Settling start deadline (PanelWorld.happen event b) := by
  cases event with
  | driver f => exact ⟨by simpa [PanelWorld.happen] using h.display, h.clock_le, h.deadline_eq⟩
  | elapse ms => exact ⟨h.display, Nat.le_add_right_of_le h.clock_le, h.deadline_eq⟩

lemma Settling.write {deadline : UInt32} (h : Settling start deadline b) (offset : UInt32)
    (data : List UInt8) : Settling start deadline (b.writeContiguous offset data).2 := by
  refine ⟨?_, h.clock_le, h.deadline_eq⟩
  obtain ⟨d, hd⟩ := Option.isSome_iff_exists.mp h.display
  rw [writeContiguous, hd, MonoPanel.writeContiguous]
  split_ifs <;> rfl

/-- A poll that finds no deadline leaves everything as it is. -/
lemma pollRefresh_of_zero (h : Settling start 0 b) (hsound : Sound start b .poll) :
    b.pollRefresh = (.pending, b) := by
  obtain ⟨d, hd⟩ := Option.isSome_iff_exists.mp h.display
  have hfailed : isFailed d = false := by simpa [hd] using hsound.1
  rw [pollRefresh, hd]
  simp [hfailed, h.deadline_eq]

/-- What the signed difference to the deadline shows at a poll. -/
lemma settled_iff (h : Settling start (UInt32.ofNat start + it8951RefreshSettleMs) b)
    (hsound : Sound start b .poll) :
    0 ≤ (b.millis - b.refreshSettleDeadlineMs).toInt32 ↔
      it8951RefreshSettleMs.toNat ≤ b.clock - start := by
  have hmillis : b.millis = UInt32.ofNat start + UInt32.ofNat (b.clock - start) := by
    rw [← UInt32.ofNat_add, Nat.add_sub_of_le h.clock_le]
    rfl
  rw [hmillis, h.deadline_eq]
  exact Words.zero_le_toInt32_elapsed_iff _ _ (by have := hsound.2; omega) (by decide)

/-- A poll before the settle time is over. -/
lemma pollRefresh_of_early (h : Settling start (UInt32.ofNat start + it8951RefreshSettleMs) b)
    (hsound : Sound start b .poll) (hearly : b.clock - start < it8951RefreshSettleMs.toNat) :
    b.pollRefresh = (.pending, b) := by
  obtain ⟨d, hd⟩ := Option.isSome_iff_exists.mp h.display
  have hfailed : isFailed d = false := by simpa [hd] using hsound.1
  have hnot : ¬ 0 ≤ (b.millis - b.refreshSettleDeadlineMs).toInt32 := fun hs =>
    absurd ((settled_iff h hsound).mp hs) (Nat.not_le.mpr hearly)
  rw [pollRefresh, hd]
  simp only [hfailed, if_neg Bool.false_ne_true, if_neg hnot, ite_self]

/-- A poll after it, when there is a deadline. -/
lemma pollRefresh_of_late (h : Settling start (UInt32.ofNat start + it8951RefreshSettleMs) b)
    (hne : UInt32.ofNat start + it8951RefreshSettleMs ≠ 0)
    (hsound : Sound start b .poll) (hlate : it8951RefreshSettleMs.toNat ≤ b.clock - start) :
    b.pollRefresh = (.complete, { b with refreshSettleDeadlineMs := 0 }) := by
  obtain ⟨d, hd⟩ := Option.isSome_iff_exists.mp h.display
  have hfailed : isFailed d = false := by simpa [hd] using hsound.1
  have hsettled := (settled_iff h hsound).mpr hlate
  rw [pollRefresh, hd]
  simp only [hfailed, if_neg Bool.false_ne_true, h.deadline_eq, if_neg hne] at hsettled ⊢
  rw [if_pos hsettled]

/-! ### All polls -/

@[simp] lemma pollRefresh_clock (b : IT8951Backend δ) : b.pollRefresh.2.clock = b.clock := by
  rw [pollRefresh]
  split
  · rfl
  · split_ifs <;> rfl

/-- Time does not go back. -/
lemma clock_le_settleStep (b : IT8951Backend δ) (op : SettleOp δ) :
    b.clock ≤ (b.settleStep op).clock := by
  cases op with
  | poll => exact (pollRefresh_clock b).ge
  | write | finish => exact Nat.le_refl _
  | world event =>
      cases event with
      | driver => exact Nat.le_refl _
      | elapse ms => exact Nat.le_add_right _ _

lemma le_of_mem_answers (start : ℕ) {b : IT8951Backend δ} {ops : List (SettleOp δ)}
    {p : ℕ × PollResult} (h : p ∈ outputs settleStep (pollAnswer start) b ops) :
    b.clock - start ≤ p.1 := by
  induction ops generalizing b with
  | nil => cases h
  | cons op ops ih =>
      rw [outputs_cons, List.mem_append] at h
      rcases h with h | h
      · cases op with
        | poll =>
            obtain rfl := List.mem_singleton.mp h
            exact Nat.le_refl _
        | write | finish | world => cases h
      · have hclock := clock_le_settleStep b op
        have hrest := ih h
        omega

/-- What is not a poll keeps the deadline and is not answered. -/
lemma Settling.quiet {deadline : UInt32} (h : Settling start deadline b) {op : SettleOp δ}
    (hop : op ≠ .poll) :
    Settling start deadline (b.settleStep op) ∧ pollAnswer start b op = [] := by
  cases op with
  | poll => exact absurd rfl hop
  | write offset data => exact ⟨h.write offset data, rfl⟩
  | finish => exact ⟨h, rfl⟩
  | world event => exact ⟨h.world event, rfl⟩

/-- Without a deadline every poll answers `PENDING`. -/
lemma answers_of_zero {ops : List (SettleOp δ)} (h : Settling start 0 b)
    (hops : AllSteps settleStep (Sound start) b ops) {p : ℕ × PollResult}
    (hp : p ∈ outputs settleStep (pollAnswer start) b ops) : p.2 = .pending := by
  induction ops generalizing b with
  | nil => cases hp
  | cons op ops ih =>
      obtain ⟨hsound, hrest⟩ := hops
      rw [outputs_cons, List.mem_append] at hp
      by_cases hop : op = .poll
      · subst hop
        have hpoll := pollRefresh_of_zero h hsound
        rw [settleStep, hpoll] at hrest hp
        rw [pollAnswer, hpoll, List.mem_singleton] at hp
        rcases hp with rfl | hp
        · rfl
        · exact ih h hrest hp
      · obtain ⟨hnext, hnone⟩ := h.quiet hop
        rw [hnone] at hp
        exact ih hnext hrest (hp.resolve_left List.not_mem_nil)

/-- **The polls after a refresh that has begun**, when there is a deadline. -/
lemma settlesExactly_of_ne {ops : List (SettleOp δ)}
    (h : Settling start (UInt32.ofNat start + it8951RefreshSettleMs) b)
    (hne : UInt32.ofNat start + it8951RefreshSettleMs ≠ 0)
    (hops : AllSteps settleStep (Sound start) b ops) :
    SettlesExactly (outputs settleStep (pollAnswer start) b ops) := by
  induction ops generalizing b with
  | nil => exact ⟨fun _ hp => absurd hp List.not_mem_nil, fun p hp => by cases hp⟩
  | cons op ops ih =>
      obtain ⟨hsound, hrest⟩ := hops
      rw [outputs_cons]
      by_cases hop : op = .poll
      · subst hop
        rw [pollAnswer, settleStep, List.singleton_append]
        rw [settleStep] at hrest
        by_cases hlate : it8951RefreshSettleMs.toNat ≤ b.clock - start
        · -- the first poll after the settle time; no later one is before it
          rw [pollRefresh_of_late h hne hsound hlate]
          refine ⟨fun p hp hearly => ?_, fun p hp => ?_⟩
          · rcases List.mem_cons.mp hp with rfl | hp
            · exact absurd hearly (Nat.not_lt.mpr hlate)
            · have hle := le_of_mem_answers start hp
              dsimp only at hle
              omega
          · rw [List.find?_cons_of_pos (by simpa using hlate)] at hp
            obtain rfl := Option.some.inj hp
            rfl
        · have hpoll := pollRefresh_of_early h hsound (Nat.not_le.mp hlate)
          rw [hpoll] at hrest ⊢
          obtain ⟨hearly, hfirst⟩ := ih h hrest
          refine ⟨fun p hp hlt => ?_, fun p hp => hfirst p ?_⟩
          · rcases List.mem_cons.mp hp with rfl | hp
            · rfl
            · exact hearly p hp hlt
          · rwa [List.find?_cons_of_neg (by simpa using hlate)] at hp
      · obtain ⟨hnext, hnone⟩ := h.quiet hop
        rw [hnone, List.nil_append]
        exact ih hnext hrest

/-- A refresh that has begun. -/
lemma settling_beginRefresh {request : RefreshRequest}
    (hok : (b.beginRefresh request).1 = .ok) :
    Settling b.clock (b.millis + it8951RefreshSettleMs) (b.beginRefresh request).2 := by
  rw [beginRefresh] at hok ⊢
  split at hok
  · cases hok
  · split_ifs at hok ⊢
    exact ⟨rfl, Nat.le_refl _, rfl⟩

/-- **The settle time is exact unless its end falls on the word that stands for no refresh.** -/
theorem settles_exactly_iff (b : IT8951Backend δ) (request : RefreshRequest)
    (hok : (b.beginRefresh request).1 = .ok) (ops : List (SettleOp δ))
    (hops : AllSteps settleStep (Sound b.clock) (b.beginRefresh request).2 ops) :
    SettlesExactly (outputs settleStep (pollAnswer b.clock) (b.beginRefresh request).2 ops) ↔
      (b.millis + it8951RefreshSettleMs ≠ 0 ∨
        ∀ p ∈ outputs settleStep (pollAnswer b.clock) (b.beginRefresh request).2 ops,
          p.1 < it8951RefreshSettleMs.toNat) := by
  have hbegun := settling_beginRefresh hok
  by_cases hzero : b.millis + it8951RefreshSettleMs = 0
  · rw [hzero] at hbegun
    have hpending := fun p hp => answers_of_zero (p := p) hbegun hops hp
    refine ⟨fun h => Or.inr fun p hp => ?_, fun h => ?_⟩
    · -- a late poll would have a first one before it, and that one is pending
      by_contra hlate
      obtain ⟨q, hq⟩ := Option.isSome_iff_exists.mp
        (List.find?_isSome (p := fun p : ℕ × PollResult =>
          decide (it8951RefreshSettleMs.toNat ≤ p.1)) |>.mpr ⟨p, hp, by simpa using hlate⟩)
      have hcomplete := h.first q hq
      rw [hpending q (List.mem_of_find?_eq_some hq)] at hcomplete
      cases hcomplete
    · have hall := h.resolve_left (not_not_intro hzero)
      refine ⟨fun p hp _ => hpending p hp, fun p hp => ?_⟩
      have hlate := List.find?_some hp
      have hlt := hall p (List.mem_of_find?_eq_some hp)
      simp only [decide_eq_true_eq] at hlate
      omega
  · exact ⟨fun _ => Or.inl hzero, fun _ => settlesExactly_of_ne hbegun hzero hops⟩

/-- A refresh at `millis() = 0`, polled before and after five seconds. -/
theorem settles_exactly_atBoot :
    SettlesExactly (outputs settleStep (pollAnswer 0)
      ((⟨some ⟨10, 2, true⟩, {}, 0, 0⟩ : IT8951Backend ScriptedDriver).beginRefresh {}).2
      [.world (.elapse 4999), .poll, .world (.elapse 1), .poll]) :=
  (settles_exactly_iff (⟨some ⟨10, 2, true⟩, {}, 0, 0⟩ : IT8951Backend ScriptedDriver) {}
    (by decide) [.world (.elapse 4999), .poll, .world (.elapse 1), .poll]
    ⟨trivial, ⟨by decide, by decide⟩, trivial, ⟨by decide, by decide⟩, trivial⟩).mpr
    (Or.inl (by decide))

/-- A refresh five seconds before `millis()` wraps is never seen to end. -/
theorem settle_missed_beforeWrap :
    outputs settleStep (pollAnswer (2 ^ 32 - 5000))
        ((⟨some ⟨10, 2, true⟩, {}, 0, 2 ^ 32 - 5000⟩ :
          IT8951Backend ScriptedDriver).beginRefresh {}).2
        [.world (.elapse 5000), .poll, .world (.elapse 100000), .poll] =
        [(5000, .pending), (105000, .pending)] ∧
      ¬ SettlesExactly [(5000, .pending), (105000, .pending)] :=
  ⟨by decide, fun h => by cases h.first (5000, .pending) rfl⟩

end IT8951Backend

end OpenDisplay
