import OpenDisplay.Engine.Ledger

/-!
# What an operation does to the transfer under way

A transaction that is active after an operation has just been opened by it, or was
active before.  In the second case its byte counters and its transfer deadline move
only when the panel takes data, and then together.  The facts about frames, offsets
and deadlines that hold over whole runs are read off this.
-/

namespace OpenDisplay

open OpenDisplayBackend

/-- The operation is a START of either mode. -/
def EngineOp.isStart {ω : Type} : EngineOp ω → Bool
  | .directStart .. | .pipeStart .. => true
  | _ => false

namespace TransferEngine

variable {β ω : Type} [OpenDisplayBackend β] [PanelWorld β ω] {e e' : TransferEngine β}

/-- How an operation can leave a transaction. -/
inductive TransferMove (e : TransferEngine β) (op : EngineOp ω) (e' : TransferEngine β) : Prop
  /-- there is no transfer afterwards -/
  | ended (hidle : e'.txn.state = .idle)
  | opened (mode : TransferMode) (hstart : ∃ p now, op = .directStart p now ∨ op = .pipeStart p now)
      (hstarted : (e.perform op).1.transferStarted = true)
      (hbook : Bookkeeping (e.openedTransfer mode) e'.txn) (haccepted : e'.txn.acceptedBytes = 0)
  | kept (hmode : e'.txn.mode = e.txn.mode) (hstate : e'.txn.state = .receiving →
      e.txn.state = .receiving) (hidle : e.txn.state ≠ .idle)
      (hexpected : e'.txn.expectedFrameBytes = e.txn.expectedFrameBytes)
      (haccepted : e'.txn.acceptedBytes = e.txn.acceptedBytes)
      (hdeadline : e'.txn.transferDeadlineMs = e.txn.transferDeadlineMs)
  /-- the panel has taken data -/
  | took (offset : UInt32) (data : List UInt8) (nowMs : UInt32)
      (hcall : e.WriteCall op offset data)
      (hanswer : (writeContiguous e.backend offset data).1 = .ok)
      (hempty : e.txn.mode = .direct → data ≠ [])
      (hmode : e'.txn.mode = e.txn.mode)
      (hexpected : e'.txn.expectedFrameBytes = e.txn.expectedFrameBytes)
      (haccepted : e'.txn.acceptedBytes = e.txn.acceptedBytes + UInt32.ofNat data.length)
      (hdeadline : e'.txn.transferDeadlineMs = nowMs + e.transferTimeoutMs)
      (hopen : e'.PipeReceiving → ¬ e'.PipeComplete)

/-- What leaves the transaction alone moves nothing. -/
lemma TransferMove.of_txn_eq {op : EngineOp ω} (h : e'.txn = e.txn) : TransferMove e op e' := by
  by_cases hidle : e.txn.state = .idle
  · exact .ended (by rw [h, hidle])
  · exact .kept (by rw [h]) (by rw [h]; exact id) hidle (by rw [h]) (by rw [h]) (by rw [h])

lemma BeginOutcome.refusedMove {op : EngineOp ω} {mode : TransferMode} {total now : UInt32}
    {why : ErrorCode} (hbegin : BeginOutcome e mode total now (some why) e') :
    TransferMove e op { e' with lastError := why } := by
  rcases hbegin.txn_of_refused with h | h
  · exact .of_txn_eq h
  · exact .ended h

/-- The end of a transfer that receives: it is over, or the panel refreshes for it. -/
lemma FinishOutcome.transferMove {op : EngineOp ω} {endOpcode : UInt16} {now : UInt32}
    {res : EngineResult} (h : FinishOutcome e endOpcode now res e')
    (hstate : e.txn.state = .receiving) : TransferMove e op e' := by
  cases h with
  | incomplete | finishFailed | refreshFailed => exact .ended (by simp)
  | refreshing => exact .kept rfl (fun h => nomatch h) (by rw [hstate]; decide) rfl rfl rfl

lemma directData_transferMove (e : TransferEngine β) (p : Payload) (now : UInt32) :
    TransferMove e (.directData p now : EngineOp ω) (e.onDirectData p now).2 := by
  have ho := onDirectData_outcome e p now
  generalize (e.onDirectData p now).1 = res, (e.onDirectData p now).2 = e₁ at ho ⊢
  cases ho with
  | misplaced => exact .of_txn_eq rfl
  | malformed | oversize | writeFailed => exact .ended (by simp)
  | accepted hstate hmode hlen hfit hanswer =>
      rw [← p.length_bytes] at hfit hlen ⊢
      refine .took e.txn.nextDirectOffset p.bytes now ⟨hfit, ⟨hstate, hmode⟩, rfl, rfl⟩ hanswer
        (fun _ h => hlen (by rw [h]; rfl)) rfl rfl rfl rfl fun hplace => ?_
      -- the transfer is a direct one
      have hpipe : e.txn.mode = .pipe := hplace.2
      rw [hmode] at hpipe
      cases hpipe

lemma pipeData_transferMove (e : TransferEngine β) (p : Payload) (now : UInt32) :
    TransferMove e (.pipeData p now : EngineOp ω) (e.onPipeData p now).2 := by
  have ho := onPipeData_outcome e p now
  generalize (e.onPipeData p now).1 = res, (e.onPipeData p now).2 = e₁ at ho ⊢
  cases ho with
  | latched | outOfOrder => exact .of_txn_eq rfl
  | misplaced =>
      by_cases hidle : e.txn.state = .idle
      · exact .ended hidle
      · exact .kept rfl id hidle rfl rfl rfl
  | malformed | oversize | writeFailed => exact .ended (by simp)
  | accepted _ hplace data hbytes hfit hanswer _ _ hchunk =>
      have hdirect : e.txn.mode = .direct → data ≠ [] := by
        intro hmode
        rw [hplace.2] at hmode
        cases hmode
      have hcall : e.WriteCall (.pipeData p now : EngineOp ω) e.txn.acceptedBytes data :=
        ⟨hfit, hplace, rfl, hbytes⟩
      cases hchunk with
      | completed _ _ _ hfinish =>
          cases hfinish with
          | incomplete | finishFailed | refreshFailed => exact .ended (by simp)
          | refreshing =>
              exact .took _ data now hcall hanswer hdirect rfl rfl rfl rfl fun h => nomatch h.1
      | sacked hopen | silent hopen =>
          exact .took _ data now hcall hanswer hdirect rfl rfl rfl rfl fun _ => hopen

lemma tick_transferMove (e : TransferEngine β) (now : UInt32) :
    TransferMove e (.tick now : EngineOp ω) (e.tick now).2 := by
  have ho := tick_outcome e now
  generalize (e.tick now).1 = res, (e.tick now).2 = e₁ at ho ⊢
  cases ho with
  | complete | failed => exact .ended rfl
  | released => exact .of_txn_eq rfl
  | waiting _ hp => exact .of_txn_eq hp.txn_eq
  | transferTimeout | refreshTimeout => exact .ended (by simp)

/-- **Every operation makes one of these moves.** -/
theorem step_transferMove (e : TransferEngine β) (op : EngineOp ω) :
    TransferMove e op (e.step op) := by
  cases op with
  | directStart p now =>
      have ho := onDirectStart_outcome e p now
      have hres : (e.perform (.directStart p now : EngineOp ω)).1 = (e.onDirectStart p now).1 := rfl
      simp only [step, perform]
      generalize (e.onDirectStart p now).1 = res, (e.onDirectStart p now).2 = e₁ at ho hres ⊢
      cases ho with
      | compressed => exact .of_txn_eq rfl
      | refused _ _ _ hbegin => exact hbegin.refusedMove
      | started _ _ hbegin =>
          obtain ⟨-, hbook, frame, htxn⟩ := hbegin.opened_spec (Or.inl rfl)
          exact .opened .direct ⟨p, now, Or.inl rfl⟩ (by rw [hres]) hbook (by rw [htxn]; rfl)
  | directData p now => exact directData_transferMove e p now
  | directEnd p now =>
      have ho := onDirectEnd_outcome e p now
      simp only [step, perform]
      generalize (e.onDirectEnd p now).1 = res, (e.onDirectEnd p now).2 = e₁ at ho ⊢
      cases ho with
      | misplaced => exact .of_txn_eq rfl
      | finished hstate _ _ _ hfinish => exact hfinish.transferMove hstate
  | pipeStart p now =>
      have ho := onPipeStart_outcome e p now
      have hres : (e.perform (.pipeStart p now : EngineOp ω)).1 = (e.onPipeStart p now).1 := rfl
      simp only [step, perform]
      generalize (e.onPipeStart p now).1 = res, (e.onPipeStart p now).2 = e₁ at ho hres ⊢
      cases ho with
      | badHeader | compressed => exact .of_txn_eq rfl
      | refused _ _ _ _ _ hbegin => exact hbegin.refusedMove
      | started _ _ _ _ hbegin =>
          obtain ⟨-, hbook, frame, htxn⟩ := hbegin.opened_spec (Or.inr rfl)
          exact .opened .pipe ⟨p, now, Or.inr rfl⟩ (by rw [hres]) (hbook.negotiate ..)
            (by simp [htxn, openedTxn])
  | pipeData p now => exact pipeData_transferMove e p now
  | pipeEnd p now =>
      have ho := onPipeEnd_outcome e p now
      simp only [step, perform]
      generalize (e.onPipeEnd p now).1 = res, (e.onPipeEnd p now).2 = e₁ at ho ⊢
      cases ho with
      | misplaced => exact .of_txn_eq rfl
      | flushed hplace _ _ _ hfinish =>
          cases hfinish with
          | incomplete | finishFailed | refreshFailed => exact .ended (by simp)
          | refreshing =>
              exact .kept rfl (fun h => by cases h) (by rw [hplace.1]; decide) rfl rfl rfl
      | finished hplace _ _ _ hfinish => exact hfinish.transferMove hplace.1
  | tick now => exact tick_transferMove e now
  | abort error => exact .ended (by simp [step, perform])
  | disconnect gen =>
      have ho := onDisconnect_outcome e gen
      simp only [step, perform]
      generalize e.onDisconnect gen = e₁ at ho ⊢
      cases ho with
      | ignored => exact .of_txn_eq rfl
      | aborted => exact .ended (by simp)
  | setConnectionGeneration | world => exact .of_txn_eq rfl
  | takeTailSack => exact .of_txn_eq (takeTailSack_txn e)

/-- Only its own packets touch an open PIPE transfer without ending or replacing it. -/
theorem step_of_pipeReceiving (hplace : e.PipeReceiving) (op : EngineOp ω)
    (hdata : ∀ p now, op ≠ .pipeData p now) (hend : ∀ p now, op ≠ .pipeEnd p now) :
    (e.step op).txn = e.txn ∨ (e.step op).txn.state = .idle ∨
      (op.isStart = true ∧ (e.perform op).1.transferStarted = true) ∧
        (e.step op).txn.state = .receiving := by
  have hdirect : ¬ (e.txn.state = .receiving ∧ e.txn.mode = .direct) := by
    rintro ⟨-, hmode⟩
    rw [hplace.2] at hmode
    cases hmode
  cases op with
  | directStart p now =>
      have ho := onDirectStart_outcome e p now
      simp only [step, perform]
      generalize (e.onDirectStart p now).1 = res, (e.onDirectStart p now).2 = e₁ at ho ⊢
      cases ho with
      | compressed => exact Or.inl rfl
      | refused _ _ _ hbegin => exact hbegin.txn_of_refused.imp id Or.inl
      | started _ _ hbegin =>
          obtain ⟨-, -, frame, htxn⟩ := hbegin.opened_spec (Or.inl rfl)
          exact Or.inr (Or.inr ⟨⟨rfl, rfl⟩, by rw [htxn]; rfl⟩)
  | pipeStart p now =>
      have ho := onPipeStart_outcome e p now
      simp only [step, perform]
      generalize (e.onPipeStart p now).1 = res, (e.onPipeStart p now).2 = e₁ at ho ⊢
      cases ho with
      | badHeader | compressed => exact Or.inl rfl
      | refused _ _ _ _ _ hbegin => exact hbegin.txn_of_refused.imp id Or.inl
      | started _ _ _ _ hbegin =>
          obtain ⟨-, -, frame, htxn⟩ := hbegin.opened_spec (Or.inr rfl)
          exact Or.inr (Or.inr ⟨⟨rfl, rfl⟩, by simp [htxn, openedTxn]⟩)
  | directData p now =>
      have ho := onDirectData_outcome e p now
      simp only [step, perform]
      generalize (e.onDirectData p now).1 = res, (e.onDirectData p now).2 = e₁ at ho ⊢
      cases ho with
      | misplaced => exact Or.inl rfl
      | malformed hstate hmode | oversize hstate hmode | writeFailed hstate hmode
      | accepted hstate hmode => exact absurd ⟨hstate, hmode⟩ hdirect
  | directEnd p now =>
      have ho := onDirectEnd_outcome e p now
      simp only [step, perform]
      generalize (e.onDirectEnd p now).1 = res, (e.onDirectEnd p now).2 = e₁ at ho ⊢
      cases ho with
      | misplaced => exact Or.inl rfl
      | finished hstate hmode => exact absurd ⟨hstate, hmode⟩ hdirect
  | pipeData p now => exact absurd rfl (hdata p now)
  | pipeEnd p now => exact absurd rfl (hend p now)
  | tick now =>
      have ho := tick_outcome e now
      simp only [step, perform]
      generalize (e.tick now).1 = res, (e.tick now).2 = e₁ at ho ⊢
      cases ho with
      | complete | failed => exact Or.inr (Or.inl rfl)
      | released => exact Or.inl rfl
      | waiting _ hp => exact Or.inl hp.txn_eq
      | transferTimeout | refreshTimeout => exact Or.inr (Or.inl (by simp))
  | abort error => exact Or.inr (Or.inl (by simp [step, perform]))
  | disconnect gen =>
      have ho := onDisconnect_outcome e gen
      simp only [step, perform]
      generalize e.onDisconnect gen = e₁ at ho ⊢
      cases ho with
      | ignored => exact Or.inl rfl
      | aborted => exact Or.inr (Or.inl (by simp))
  | setConnectionGeneration | world => exact Or.inl rfl
  | takeTailSack => exact Or.inl (takeTailSack_txn e)

end TransferEngine

end OpenDisplay
