import OpenDisplay.Engine.Ledger
import OpenDisplay.Backend.Scripted

/-!
# Timeouts across the wrap of the clock

A deadline is the clock word at which it was set plus a timeout, modulo `2 ^ 32`, and the
signed difference to it says whether the time is over.  That is exact across the wrap, but
for one word: a deadline of `0` stands for none, so a transfer whose deadline falls on it is
never timed out.
-/

namespace OpenDisplay

open OpenDisplayBackend

/-- Nothing comes in: a tick, or something that a transaction does not see. -/
def EngineOp.IsQuiet {ω : Type} : EngineOp ω → Prop
  | .tick _ | .setConnectionGeneration _ | .takeTailSack | .world _ => True
  | _ => False

namespace TransferEngine

open Machine

variable {β ω : Type} [OpenDisplayBackend β] [PanelWorld β ω] {e e' : TransferEngine β}

/-! ### The timeouts are fixed -/

/-- Two engines with the same timeouts. -/
structure SameTimeouts (e e' : TransferEngine β) : Prop where
  transfer_eq : e'.transferTimeoutMs = e.transferTimeoutMs
  refresh_eq : e'.refreshTimeoutMs = e.refreshTimeoutMs

omit [OpenDisplayBackend β] in
lemma SameTimeouts.refl (e : TransferEngine β) : SameTimeouts e e := ⟨rfl, rfl⟩

lemma sameTimeouts_abort (e : TransferEngine β) (error : ErrorCode) :
    SameTimeouts e (e.abort error) :=
  ⟨abort_transferTimeoutMs e error, abort_refreshTimeoutMs e error⟩

lemma sameTimeouts_cleared (e : TransferEngine β) : SameTimeouts e e.cleared := by
  unfold cleared
  split_ifs
  · exact sameTimeouts_abort e _
  · exact .refl e

lemma BeginOutcome.sameTimeouts {mode : TransferMode} {total now : UInt32}
    {why : Option ErrorCode} (ho : BeginOutcome e mode total now why e') : SameTimeouts e e' := by
  cases ho with
  | busy => exact .refl e
  | sizeMismatch => exact sameTimeouts_cleared e
  | beginFailed | opened =>
      exact ⟨(sameTimeouts_cleared e).transfer_eq, (sameTimeouts_cleared e).refresh_eq⟩

lemma FinishOutcome.sameTimeouts {endOpcode : UInt16} {now : UInt32} {res : EngineResult}
    (ho : FinishOutcome e endOpcode now res e') : SameTimeouts e e' := by
  cases ho with
  | incomplete | finishFailed | refreshFailed => exact ⟨by simp, by simp⟩
  | refreshing => exact ⟨rfl, rfl⟩

lemma PipeDataOutcome.sameTimeouts {p : Payload} {now : UInt32} {res : EngineResult}
    (ho : PipeDataOutcome e p now res e') : SameTimeouts e e' := by
  cases ho with
  | latched | misplaced | outOfOrder => exact ⟨rfl, rfl⟩
  | malformed | oversize | writeFailed => exact ⟨by simp, by simp⟩
  | accepted _ _ _ _ _ _ _ _ hchunk =>
      cases hchunk with
      | completed _ _ _ hfinish => exact ⟨hfinish.sameTimeouts.1, hfinish.sameTimeouts.2⟩
      | sacked | silent => exact ⟨rfl, rfl⟩

lemma TickOutcome.sameTimeouts {now : UInt32} {res : EngineResult}
    (ho : TickOutcome e now res e') : SameTimeouts e e' := by
  have hpolled : ∀ {e₁}, Polled e e₁ → SameTimeouts e e₁ := by
    intro e₁ hp
    cases hp <;> exact ⟨rfl, rfl⟩
  cases ho with
  | complete | failed | released => exact ⟨rfl, rfl⟩
  | waiting _ hp => exact hpolled hp
  | transferTimeout _ hp | refreshTimeout _ hp =>
      exact ⟨by simpa using (hpolled hp).transfer_eq, by simpa using (hpolled hp).refresh_eq⟩

/-- No operation changes the timeouts. -/
lemma step_sameTimeouts (e : TransferEngine β) (op : EngineOp ω) : SameTimeouts e (e.step op) := by
  cases op with
  | directStart p now =>
      have ho := onDirectStart_outcome e p now
      rw [step, perform]
      generalize (e.onDirectStart p now).1 = res, (e.onDirectStart p now).2 = e₁ at ho ⊢
      cases ho with
      | compressed => exact ⟨rfl, rfl⟩
      | refused _ _ _ hbegin | started _ _ hbegin =>
          exact ⟨hbegin.sameTimeouts.1, hbegin.sameTimeouts.2⟩
  | directData p now =>
      have ho := onDirectData_outcome e p now
      rw [step, perform]
      generalize (e.onDirectData p now).1 = res, (e.onDirectData p now).2 = e₁ at ho ⊢
      cases ho with
      | misplaced | accepted => exact ⟨rfl, rfl⟩
      | malformed | oversize | writeFailed => exact ⟨by simp, by simp⟩
  | directEnd p now =>
      have ho := onDirectEnd_outcome e p now
      rw [step, perform]
      generalize (e.onDirectEnd p now).1 = res, (e.onDirectEnd p now).2 = e₁ at ho ⊢
      cases ho with
      | misplaced => exact ⟨rfl, rfl⟩
      | finished _ _ _ _ hfinish => exact hfinish.sameTimeouts
  | pipeStart p now =>
      have ho := onPipeStart_outcome e p now
      rw [step, perform]
      generalize (e.onPipeStart p now).1 = res, (e.onPipeStart p now).2 = e₁ at ho ⊢
      cases ho with
      | badHeader | compressed => exact ⟨rfl, rfl⟩
      | refused _ _ _ _ _ hbegin | started _ _ _ _ hbegin =>
          exact ⟨hbegin.sameTimeouts.1, hbegin.sameTimeouts.2⟩
  | pipeData p now => exact (onPipeData_outcome e p now).sameTimeouts
  | pipeEnd p now =>
      have ho := onPipeEnd_outcome e p now
      rw [step, perform]
      generalize (e.onPipeEnd p now).1 = res, (e.onPipeEnd p now).2 = e₁ at ho ⊢
      cases ho with
      | misplaced => exact ⟨rfl, rfl⟩
      | flushed _ _ _ _ hfinish => exact ⟨hfinish.sameTimeouts.1, hfinish.sameTimeouts.2⟩
      | finished _ _ _ _ hfinish => exact hfinish.sameTimeouts
  | tick now => exact (tick_outcome e now).sameTimeouts
  | abort error => exact sameTimeouts_abort e error
  | disconnect gen =>
      have ho := onDisconnect_outcome e gen
      rw [step, perform]
      generalize e.onDisconnect gen = e₁ at ho ⊢
      cases ho with
      | ignored => exact .refl e
      | aborted => exact sameTimeouts_abort e _
  | setConnectionGeneration | world => exact ⟨rfl, rfl⟩
  | takeTailSack =>
      rw [step, perform, TransferEngine.takeTailSack]
      split_ifs <;> exact ⟨rfl, rfl⟩

lemma exec_sameTimeouts (e : TransferEngine β) (ops : List (EngineOp ω)) :
    SameTimeouts e (exec step e ops) :=
  exec_invariant (I := fun e' => SameTimeouts e e') (fun e' op h =>
    ⟨(step_sameTimeouts e' op).transfer_eq.trans h.transfer_eq,
      (step_sameTimeouts e' op).refresh_eq.trans h.refresh_eq⟩) (.refl e) ops

/-! ### Setting a deadline -/

/-- The step sets a deadline at the time `t₀`: it is an accepted START, an accepted data
packet or a successful END. -/
def SetsDeadline (e : TransferEngine β) (t₀ : UInt32) (op : EngineOp ω) : Prop :=
  match op with
  | .directStart _ now | .pipeStart _ now =>
      now = t₀ ∧ (e.perform op).1.transferStarted = true
  | .directData _ now => now = t₀ ∧ (e.step op).stats.directPackets ≠ e.stats.directPackets
  | .pipeData _ now => now = t₀ ∧ (e.step op).stats.pipePackets ≠ e.stats.pipePackets
  | .directEnd _ now | .pipeEnd _ now =>
      now = t₀ ∧ e.txn.state = .receiving ∧ (e.step op).txn.state = .refreshing
  | _ => False

/-- The deadline of the transaction under way. -/
def deadlineMs (e : TransferEngine β) : UInt32 :=
  if e.txn.state = .refreshing then e.txn.refreshDeadlineMs else e.txn.transferDeadlineMs

/-- The timeout that applies to the transaction under way. -/
def timeoutMs (e : TransferEngine β) : UInt32 :=
  if e.txn.state = .refreshing then e.refreshTimeoutMs else e.transferTimeoutMs

/-- The deadline is the timeout after `t₀`. -/
def DueAfter (e : TransferEngine β) (t₀ : UInt32) : Prop := e.deadlineMs = t₀ + e.timeoutMs

omit [OpenDisplayBackend β] in
lemma dueAfter_of_receiving {t₀ : UInt32} (hstate : e.txn.state = .receiving)
    (h : e.txn.transferDeadlineMs = t₀ + e.transferTimeoutMs) : e.DueAfter t₀ := by
  simp only [DueAfter, deadlineMs, timeoutMs, hstate]
  exact h

lemma BeginOutcome.dueAfter {mode : TransferMode} {total t₀ : UInt32}
    (ho : BeginOutcome e mode total t₀ none e') : e'.DueAfter t₀ := by
  cases ho with
  | opened => exact dueAfter_of_receiving rfl rfl

lemma FinishOutcome.dueAfter {endOpcode : UInt16} {t₀ : UInt32} {res : EngineResult}
    (ho : FinishOutcome e endOpcode t₀ res e') (hlive : e'.txn.state ≠ .idle) :
    e'.DueAfter t₀ := by
  cases ho with
  | incomplete | finishFailed | refreshFailed => exact absurd (by simp) hlive
  | refreshing => rfl

/-- **A step that sets a deadline sets it to the timeout after the step.** -/
lemma SetsDeadline.dueAfter {t₀ : UInt32} {op : EngineOp ω} (h : e.SetsDeadline t₀ op)
    (hlive : (e.step op).txn.state ≠ .idle) : (e.step op).DueAfter t₀ := by
  cases op with
  | directStart p now =>
      obtain ⟨rfl, hstarted⟩ := h
      have ho := onDirectStart_outcome e p now
      simp only [step, perform] at hstarted ⊢
      generalize (e.onDirectStart p now).1 = res, (e.onDirectStart p now).2 = e₁ at ho hstarted ⊢
      cases ho with
      | compressed | refused => cases hstarted
      | started _ _ hbegin => exact hbegin.dueAfter
  | pipeStart p now =>
      obtain ⟨rfl, hstarted⟩ := h
      have ho := onPipeStart_outcome e p now
      simp only [step, perform] at hstarted ⊢
      generalize (e.onPipeStart p now).1 = res, (e.onPipeStart p now).2 = e₁ at ho hstarted ⊢
      cases ho with
      | badHeader | compressed | refused => cases hstarted
      | started _ _ _ _ hbegin =>
          cases hbegin with
          | opened => exact dueAfter_of_receiving rfl rfl
  | directData p now =>
      obtain ⟨rfl, hcounted⟩ := h
      have ho := onDirectData_outcome e p now
      simp only [step, perform] at hcounted ⊢
      generalize (e.onDirectData p now).1 = res, (e.onDirectData p now).2 = e₁ at ho hcounted ⊢
      cases ho with
      | misplaced => exact absurd rfl hcounted
      | malformed | oversize | writeFailed => exact absurd (by simp) hcounted
      | accepted hstate => exact dueAfter_of_receiving hstate rfl
  | pipeData p now =>
      obtain ⟨rfl, hcounted⟩ := h
      have ho := onPipeData_outcome e p now
      simp only [step, perform] at hcounted hlive ⊢
      generalize (e.onPipeData p now).1 = res, (e.onPipeData p now).2 = e₁ at ho hcounted hlive ⊢
      cases ho with
      | latched | misplaced | outOfOrder => exact absurd rfl hcounted
      | malformed | oversize | writeFailed => exact absurd (by simp) hcounted
      | accepted _ hplace _ _ _ _ _ _ hchunk =>
          cases hchunk with
          | completed _ _ _ hfinish => exact hfinish.dueAfter hlive
          | sacked | silent => exact dueAfter_of_receiving hplace.1 rfl
  | directEnd p now =>
      obtain ⟨rfl, hstate, hrefreshing⟩ := h
      have ho := onDirectEnd_outcome e p now
      simp only [step, perform] at hrefreshing hlive ⊢
      generalize (e.onDirectEnd p now).1 = res, (e.onDirectEnd p now).2 = e₁
        at ho hrefreshing hlive ⊢
      cases ho with
      | misplaced => cases hstate.symm.trans hrefreshing
      | finished _ _ _ _ hfinish => exact hfinish.dueAfter hlive
  | pipeEnd p now =>
      obtain ⟨rfl, hstate, hrefreshing⟩ := h
      have ho := onPipeEnd_outcome e p now
      simp only [step, perform] at hrefreshing hlive ⊢
      generalize (e.onPipeEnd p now).1 = res, (e.onPipeEnd p now).2 = e₁ at ho hrefreshing hlive ⊢
      cases ho with
      | misplaced => cases hstate.symm.trans hrefreshing
      | flushed _ _ _ _ hfinish | finished _ _ _ _ hfinish => exact hfinish.dueAfter hlive
  | tick | abort | disconnect | setConnectionGeneration | takeTailSack | world => exact h.elim

/-! ### Waiting -/

/-- While nothing comes in the transaction ends or stays as it is. -/
lemma quiet_step {op : EngineOp ω} (hop : op.IsQuiet) :
    (e.step op).txn.state = .idle ∨ (e.step op).txn = e.txn := by
  cases op with
  | tick now =>
      have ho := tick_outcome e now
      simp only [step, perform]
      generalize (e.tick now).1 = res, (e.tick now).2 = e₁ at ho ⊢
      cases ho with
      | complete | failed => exact Or.inl rfl
      | released => exact Or.inr rfl
      | waiting _ hpolled => exact Or.inr hpolled.txn_eq
      | transferTimeout | refreshTimeout => exact Or.inl (by simp)
  | setConnectionGeneration | world => exact Or.inr rfl
  | takeTailSack => exact Or.inr (takeTailSack_txn e)
  | directStart | directData | directEnd | pipeStart | pipeData | pipeEnd | abort | disconnect =>
      exact hop.elim

lemma quiet_exec {quiet : List (EngineOp ω)} (hquiet : ∀ op ∈ quiet, op.IsQuiet) :
    (exec step e quiet).txn.state = .idle ∨ (exec step e quiet).txn = e.txn := by
  induction quiet generalizing e with
  | nil => exact Or.inr rfl
  | cons op quiet ih =>
      obtain ⟨hop, hquiet⟩ := List.forall_mem_cons.mp hquiet
      rw [exec_cons]
      rcases ih (e := e.step op) hquiet with h | h
      · exact Or.inl h
      · rw [h]
        exact quiet_step hop

/-! ### The tick -/

/-- The deadline has passed, `elapsed` milliseconds after it was set. -/
lemma deadlinePassed_iff (t₀ timeout : UInt32) {elapsed : ℕ} (he : elapsed < 2 ^ 31)
    (ht : timeout.toNat ≤ 2 ^ 31) :
    deadlinePassed (t₀ + UInt32.ofNat elapsed) (t₀ + timeout) = true ↔
      t₀ + timeout ≠ 0 ∧ timeout.toNat ≤ elapsed := by
  rw [deadlinePassed, Bool.and_eq_true, bne_iff_ne, decide_eq_true_iff,
    Words.zero_le_toInt32_elapsed_iff t₀ timeout he ht]

/-- The tick ends the transaction by its timeout. -/
def EndsByTimeout (e : TransferEngine β) (nowMs : UInt32) : Prop :=
  e.txn.state ≠ .idle ∧ (e.tick nowMs).2.txn.state = .idle ∧
    (e.tick nowMs).2.lastError =
      if e.txn.state = .refreshing then .refreshTimeout else .transferTimeout

/-- A tick on a panel that does not answer ends the transaction when its deadline has
passed. -/
lemma endsByTimeout_iff {t : Transfer} (hled : Ledger t e) (hlive : e.txn.state ≠ .idle)
    (hpending : e.txn.state = .refreshing → (pollRefresh e.backend).1 = .pending)
    (nowMs : UInt32) : e.EndsByTimeout nowMs ↔ deadlinePassed nowMs e.deadlineMs = true := by
  have ho := tick_outcome e nowMs
  rw [EndsByTimeout, deadlineMs]
  generalize (e.tick nowMs).1 = res, (e.tick nowMs).2 = e₁ at ho ⊢
  cases ho with
  | complete _ hpoll hstate | failed _ hpoll hstate => cases hpoll.symm.trans (hpending hstate)
  | released hw _ hstate =>
      rcases hled.state_cases with h | h | h
      · exact absurd h hlive
      · cases hw.symm.trans (hled.book_of_receiving h).1
      · exact absurd h hstate
  | waiting e₂ hpolled htransfer hrefresh =>
      rw [TransferExpired, hpolled.txn_eq] at htransfer
      rw [RefreshExpired, hpolled.txn_eq] at hrefresh
      rw [hpolled.txn_eq]
      refine iff_of_false (fun h => h.1 h.2.1) ?_
      rcases hled.state_cases with h | h | h
      · exact absurd h hlive
      · rw [if_neg (by rw [h]; decide)]
        exact fun hpassed => htransfer ⟨Or.inl h, hpassed⟩
      · rw [if_pos h]
        exact fun hpassed => hrefresh ⟨h, hpassed⟩
  | transferTimeout e₂ hpolled htransfer =>
      obtain ⟨hstate, hpassed⟩ := htransfer
      rw [hpolled.txn_eq] at hstate hpassed
      have hne : e.txn.state ≠ .refreshing := by
        rcases hstate with h | h | h <;> rw [h] <;> decide
      rw [if_neg hne, if_neg hne]
      exact iff_of_true ⟨hlive, by simp, by simp⟩ hpassed
  | refreshTimeout e₂ hpolled hrefresh =>
      obtain ⟨hstate, hpassed⟩ := hrefresh
      rw [hpolled.txn_eq] at hstate hpassed
      rw [if_pos hstate, if_pos hstate]
      exact iff_of_true ⟨hlive, by simp, by simp⟩ hpassed

/-- After a deadline has been set and while nothing comes in, the deadline is the timeout
after the time at which it was set. -/
lemma dueAfter_exec {t₀ : UInt32} {op : EngineOp ω} {quiet : List (EngineOp ω)}
    (hsets : e.SetsDeadline t₀ op) (hquiet : ∀ op ∈ quiet, op.IsQuiet)
    (hlive : (exec step e (op :: quiet)).txn.state ≠ .idle) :
    (exec step e (op :: quiet)).DueAfter t₀ := by
  rw [exec_cons] at hlive ⊢
  have htxn := (quiet_exec (e := e.step op) hquiet).resolve_left hlive
  have hsame : SameTimeouts (e.step op) (exec step (e.step op) quiet) :=
    exec_sameTimeouts (e.step op) quiet
  have hdue := hsets.dueAfter (by rwa [← htxn])
  simp only [DueAfter, deadlineMs, timeoutMs, htxn, hsame.transfer_eq, hsame.refresh_eq] at hdue ⊢
  exact hdue

/-- **Timeouts are exact unless a deadline falls on the word that stands for none.** -/
theorem timeout_exact_iff (b : β) (transferMs refreshMs : UInt32) (ops : List (EngineOp ω))
    (t₀ : UInt32) (op : EngineOp ω) (quiet : List (EngineOp ω)) (elapsed : ℕ)
    (e : TransferEngine β) (he : e = exec step (init b transferMs refreshMs) (ops ++ op :: quiet))
    (hsets : (exec step (init b transferMs refreshMs) ops).SetsDeadline t₀ op)
    (hquiet : ∀ op ∈ quiet, op.IsQuiet) (hlive : e.txn.state ≠ .idle)
    (hpending : e.txn.state = .refreshing → (pollRefresh e.backend).1 = .pending)
    (timeout : UInt32)
    (htimeout : timeout = if e.txn.state = .refreshing then refreshMs else transferMs)
    (hrange : 1000 ≤ timeout.toNat ∧ timeout.toNat ≤ 600000) (helapsed : elapsed < 2 ^ 31) :
    (e.EndsByTimeout (t₀ + UInt32.ofNat elapsed) ↔ timeout.toNat ≤ elapsed) ↔
      (t₀ + timeout ≠ 0 ∨ elapsed < timeout.toNat) := by
  have hled := ledger_exec (s := (({} : Transfer), init b transferMs refreshMs))
    (ledger_init _ _ _ _) (ops ++ op :: quiet)
  rw [exec_monitored_snd] at hled
  change Ledger _ (exec step (init b transferMs refreshMs) (ops ++ op :: quiet)) at hled
  have hsame := exec_sameTimeouts (init b transferMs refreshMs) (ops ++ op :: quiet)
  rw [← he] at hled hsame
  have hforce : e.timeoutMs = timeout := by
    rw [timeoutMs, hsame.transfer_eq, hsame.refresh_eq, htimeout]
    rfl
  have hdue : e.DueAfter t₀ := by
    rw [he, exec_append] at hlive ⊢
    exact dueAfter_exec hsets hquiet hlive
  rw [endsByTimeout_iff hled hlive hpending, hdue, hforce,
    deadlinePassed_iff t₀ timeout helapsed (by omega)]
  by_cases hzero : t₀ + timeout = 0 <;> simp [hzero]

/-- A transfer of three bytes that gets no data times out after thirty seconds, although
the clock wraps meanwhile. -/
theorem timeout_exact_acrossWrap :
    ((exec step (init (ScriptedPanel.accepting 3 []) 30000 180000)
        ([] ++ .directStart (.ofBytes []) 4294967295 ::
          [.tick 20000, .world ()])).EndsByTimeout (4294967295 + UInt32.ofNat 30000) ↔
        (30000 : UInt32).toNat ≤ 30000) ↔
      ((4294967295 : UInt32) + 30000 ≠ 0 ∨ 30000 < (30000 : UInt32).toNat) :=
  timeout_exact_iff (ScriptedPanel.accepting 3 []) 30000 180000 [] 4294967295
    (.directStart (.ofBytes []) 4294967295) [.tick 20000, .world ()] 30000 _ rfl
    ⟨rfl, by decide +kernel⟩
    (List.forall_mem_cons.mpr ⟨trivial, List.forall_mem_singleton.mpr trivial⟩)
    (by decide +kernel) (by decide +kernel) _ (by decide +kernel) (by decide) (by decide)

/-- A transfer that is opened thirty seconds before the clock wraps never times out. -/
theorem timeout_missed_onSentinel :
    ¬ (exec step (init (ScriptedPanel.accepting 3 []) 30000 180000)
        [.directStart (.ofBytes []) 4294937296]).EndsByTimeout (4294937296 + 30000) ∧
      ¬ (exec step (init (ScriptedPanel.accepting 3 []) 30000 180000)
        [.directStart (.ofBytes []) 4294937296, .tick 0]).EndsByTimeout
          (4294937296 + 600000) := by
  unfold EndsByTimeout
  decide +kernel

end TransferEngine

end OpenDisplay
