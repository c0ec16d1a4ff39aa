import OpenDisplay.Engine.Balance
import OpenDisplay.Engine.Deadlines

/-!
# An END for a complete frame

The chunk that completes the frame of a PIPE transfer also ends it: the refresh starts and
the END is acknowledged unasked.  A client that sends the END of its own all the same finds
no transfer that receives, and is told that its frame is incomplete.  Only a transfer that
never took a chunk, whose frame therefore has no bytes, is still there for an END.
-/

namespace OpenDisplay

open OpenDisplayBackend Machine

/-- Every byte of the frame of a PIPE transfer has been accepted. -/
structure Transfer.Complete (t : Transfer) : Prop where
  mode_eq : t.mode = .pipe
  size_eq : t.size = t.full.toNat

instance (t : Transfer) : Decidable t.Complete :=
  decidable_of_iff (t.mode = .pipe ∧ t.size = t.full.toNat)
    ⟨fun h => ⟨h.1, h.2⟩, fun h => ⟨h.mode_eq, h.size_eq⟩⟩

namespace TransferEngine

variable {β ω : Type} [OpenDisplayBackend β] [PanelWorld β ω] {t : Transfer}
  {e e' : TransferEngine β}

/-! ### A transfer that has taken a chunk waits for more -/

/-- Beside the packets of the transfer, nothing adds to its chunks. -/
lemma chunks_ne_of_watchTransfer (hled : Ledger t e) (hplace : e.PipeReceiving)
    {op : EngineOp ω} (hdata : ∀ p now, op ≠ .pipeData p now)
    (hne : (watchTransfer t e op).chunks ≠ []) : t.chunks ≠ [] := by
  cases op with
  | directStart | pipeStart =>
      rw [watchTransfer] at hne
      split_ifs at hne
      · exact absurd rfl hne
      · exact hne
  | directData p now =>
      rw [watchTransfer] at hne
      split_ifs at hne with hcounted
      · -- the transfer that is open is not a direct one
        have hdirect := hled.mode_of_directData hcounted
        have hpipe := (hled.book_of_receiving hplace.1).2.1.mode_eq.symm.trans hplace.2
        cases hdirect.symm.trans hpipe
      · exact hne
  | pipeData p now => exact absurd rfl (hdata p now)
  | directEnd | pipeEnd | tick | abort | disconnect | setConnectionGeneration | takeTailSack
  | world => exact hne

lemma pipeShort_pipeData (h : t.chunks ≠ [] → PipeShort e) (hled : Ledger t e) (p : Payload)
    (now : UInt32) (hne : (watchTransfer t e (.pipeData p now : EngineOp ω)).chunks ≠ []) :
    PipeShort (e.onPipeData p now).2 := by
  intro hplace
  have ho := onPipeData_outcome e p now
  rcases hres : e.onPipeData p now with ⟨res, e₁⟩
  simp only [watchTransfer, step, perform, hres] at ho hne hplace ⊢
  cases ho with
  | latched => exact h (by simpa using hne) hplace
  | misplaced _ hwas => exact absurd hplace hwas
  | malformed | oversize | writeFailed => simp [PipeReceiving] at hplace
  | outOfOrder => exact h (by simpa using hne) hplace
  | accepted hlatch hwas data _ _ _ _ _ hchunk =>
      obtain ⟨-, hbook, -⟩ := hled.book_of_receiving hwas.1
      have hflags : e.txn.frame.compressed = false ∧ e.txn.frame.partialFrame = false :=
        ⟨hbook.not_compressed, hbook.not_partial⟩
      cases hchunk with
      | completed _ _ _ hfinish => exact absurd hplace.1 hfinish.not_receiving
      | sacked hopen | silent hopen =>
          simp only [PipeComplete, not_and] at hopen
          exact UInt32.not_le.mp fun hle => hopen hle hflags.1 hflags.2

/-- A PIPE transfer that has taken a chunk and is still open waits for more bytes. -/
lemma pipeShort_step (h : t.chunks ≠ [] → PipeShort e) (hled : Ledger t e) (op : EngineOp ω)
    (hne : (watchTransfer t e op).chunks ≠ []) : PipeShort (e.step op) := by
  by_cases hdata : ∃ p now, op = .pipeData p now
  · obtain ⟨p, now, rfl⟩ := hdata
    exact pipeShort_pipeData h hled p now hne
  · have hother : ∀ p now, op ≠ .pipeData p now := fun p now hop => hdata ⟨p, now, hop⟩
    intro hplace
    cases step_transferMove e op with
    | ended hidle =>
        have hstate := hplace.1
        rw [hidle] at hstate
        cases hstate
    | opened mode hstart hstarted =>
        obtain ⟨p, now, rfl | rfl⟩ := hstart <;>
        · rw [watchTransfer, if_pos hstarted] at hne
          exact absurd rfl hne
    | kept hmode hstate _ hexpected haccepted =>
        have hwas : e.PipeReceiving := ⟨hstate hplace.1, hmode ▸ hplace.2⟩
        rw [hexpected, haccepted]
        exact h (chunks_ne_of_watchTransfer hled hwas hother hne) hwas
    | took _ _ _ hcall _ _ _ _ _ _ hopen =>
        obtain ⟨-, hbook, -⟩ := (hled.step op).book_of_receiving hplace.1
        have hcomplete := hopen hplace
        simpa [PipeComplete, hbook.not_compressed, hbook.not_partial] using hcomplete

lemma pipeShort_exec {s : Transfer × TransferEngine β} (hled : Ledger s.1 s.2)
    (h : s.1.chunks ≠ [] → PipeShort s.2) (ops : List (EngineOp ω)) :
    (exec tracked s ops).1.chunks ≠ [] → PipeShort (exec tracked s ops).2 :=
  (exec_invariant (I := fun s : Transfer × TransferEngine β =>
      Ledger s.1 s.2 ∧ (s.1.chunks ≠ [] → PipeShort s.2))
    (fun _ op h => ⟨h.1.step op, pipeShort_step h.2 h.1 op⟩) ⟨hled, h⟩ ops).2

omit [OpenDisplayBackend β] in
/-- A complete transfer that is open has taken no chunk. -/
lemma chunks_eq_nil_of_complete (hled : Ledger t e) (hshort : t.chunks ≠ [] → PipeShort e)
    (hcomplete : t.Complete) (hplace : e.PipeReceiving) : t.chunks = [] := by
  by_contra hne
  obtain ⟨-, hbook, -⟩ := hled.book_of_receiving hplace.1
  have hlt := UInt32.lt_iff_toNat_lt.mp (hshort hne hplace)
  rw [hbook.accepted_eq, hbook.expected_eq, hcomplete.size_eq] at hlt
  exact Nat.lt_irrefl _ hlt

/-! ### Waiting -/

/-- A tick leaves a transfer alone that receives, until its deadline has passed. -/
lemma tick_of_receiving (hstate : e.txn.state = .receiving) (hfree : e.hwOwned = false)
    (nowMs : UInt32) :
    if deadlinePassed nowMs e.txn.transferDeadlineMs then (e.tick nowMs).2.txn.state = .idle
    else (e.tick nowMs).2 = e := by
  have htick : e.tick nowMs = e.checkDeadlines nowMs := by rw [tick, if_neg (by simp [hfree])]
  rw [htick, checkDeadlines, hstate]
  dsimp only
  split_ifs
  · simp
  · rfl

/-- What does not come in adds nothing to the transfer. -/
lemma watchTransfer_of_quiet (t : Transfer) (e : TransferEngine β) {op : EngineOp ω}
    (hop : op.IsQuiet) : watchTransfer t e op = t := by
  cases op with
  | tick | setConnectionGeneration | world | takeTailSack => rfl
  | directStart | directData | directEnd | pipeStart | pipeData | pipeEnd | abort | disconnect =>
      exact hop.elim

lemma Ledger.quiet (h : Ledger t e) {op : EngineOp ω} (hop : op.IsQuiet) :
    Ledger t (e.step op) := watchTransfer_of_quiet t e hop ▸ h.step op

/-- While nothing comes in, a PIPE transfer stays open exactly until a tick passes its
deadline. -/
lemma pipeReceiving_exec_iff (hled : Ledger t e) {quiet : List (EngineOp ω)}
    (hquiet : ∀ op ∈ quiet, op.IsQuiet) :
    (exec step e quiet).PipeReceiving ↔ e.PipeReceiving ∧
      ∀ now, .tick now ∈ quiet → deadlinePassed now e.txn.transferDeadlineMs = false := by
  induction quiet generalizing e with
  | nil => simp
  | cons op quiet ih =>
      obtain ⟨hop, hrest⟩ := List.forall_mem_cons.mp hquiet
      rw [exec_cons, ih (hled.quiet hop) hrest]
      by_cases hplace : e.PipeReceiving
      · have hfree := (hled.book_of_receiving hplace.1).1
        cases op with
        | tick now =>
            have htick := tick_of_receiving hplace.1 hfree now
            rw [step, perform]
            rcases hpassed : deadlinePassed now e.txn.transferDeadlineMs with _ | _
            · rw [hpassed, if_neg Bool.false_ne_true] at htick
              rw [htick]
              simp [hplace, hpassed]
            · rw [hpassed, if_pos rfl] at htick
              refine iff_of_false (fun h => ?_) fun h => ?_
              · have hstate := h.1.1
                rw [htick] at hstate
                cases hstate
              · have hnot := h.2 now List.mem_cons_self
                rw [hpassed] at hnot
                cases hnot
        | setConnectionGeneration | world | takeTailSack =>
            simp [step, perform, PipeReceiving]
        | directStart | directData | directEnd | pipeStart | pipeData | pipeEnd | abort
        | disconnect => exact hop.elim
      · refine iff_of_false (fun h => ?_) fun h => hplace h.1
        rcases quiet_step (e := e) hop with hidle | hsame
        · have hstate := h.1.1
          rw [hidle] at hstate
          cases hstate
        · exact hplace (by rw [PipeReceiving, ← hsame]; exact h.1)

/-! ### The END -/

/-- The panel answers OK to the end of a frame and to the refresh. -/
structure RefreshOk (e : TransferEngine β) : Prop where
  finished : (finishFrame e.backend).1 = .ok
  started : (beginRefresh (finishFrame e.backend).2 {}).1 = .ok

/-- An END for a complete transfer is refused exactly when the transfer is not open. -/
lemma pipeEnd_acked_iff (hled : Ledger t e) (hcomplete : t.Complete) (hok : e.RefreshOk)
    (p : Payload) (nowMs : UInt32) :
    (e.onPipeEnd p nowMs).1.response ≠ encodeNack cmdPipeWriteEnd ↔ e.PipeReceiving := by
  have hack : (reply (encodeAck cmdPipeWriteEnd)).response ≠ encodeNack cmdPipeWriteEnd := by
    decide
  have ho := onPipeEnd_outcome e p nowMs
  generalize (e.onPipeEnd p nowMs).1 = res, (e.onPipeEnd p nowMs).2 = e₁ at ho ⊢
  have hfull : e.PipeReceiving → e.txn.acceptedBytes = e.txn.expectedFrameBytes := fun hplace => by
    obtain ⟨-, hbook, -⟩ := hled.book_of_receiving hplace.1
    rw [← UInt32.toNat_inj, hbook.accepted_eq, hbook.expected_eq, hcomplete.size_eq]
  cases ho with
  | misplaced hplace => exact iff_of_false (fun h => h rfl) hplace
  | flushed hplace _ _ _ hfinish | finished hplace _ _ _ hfinish =>
      cases hfinish with
      | incomplete hlen => exact absurd (hfull hplace) hlen
      | finishFailed _ hanswer => exact absurd hok.finished hanswer
      | refreshFailed _ _ hanswer => exact absurd hok.started hanswer
      | refreshing => exact iff_of_true hack hplace

/-- **An END for a complete PIPE frame is accepted exactly when no chunk was taken and no tick
has passed the deadline of the transfer.** -/
theorem completeEnd_acked_iff (b : β) (transferMs refreshMs : UInt32)
    (ops between : List (EngineOp ω)) (s : Transfer × TransferEngine β)
    (hs : s = exec tracked ({}, init b transferMs refreshMs) ops) (hcomplete : s.1.Complete)
    (hquiet : ∀ op ∈ between, op.IsQuiet) (e : TransferEngine β)
    (he : e = exec step s.2 between) (hok : e.RefreshOk) (p : Payload) (nowMs : UInt32) :
    (e.onPipeEnd p nowMs).1.response ≠ encodeNack cmdPipeWriteEnd ↔
      s.1.chunks = [] ∧ s.2.PipeReceiving ∧
        ∀ now, .tick now ∈ between → deadlinePassed now s.2.txn.transferDeadlineMs = false := by
  have hled : Ledger s.1 s.2 := hs ▸ ledger_exec (ledger_init {} b transferMs refreshMs) ops
  have hshort : s.1.chunks ≠ [] → PipeShort s.2 :=
    hs ▸ pipeShort_exec (ledger_init {} b transferMs refreshMs) (fun h => absurd rfl h) ops
  have hledEnd : Ledger s.1 e := by
    rw [he]
    exact exec_invariant_of_allSteps (I := fun e : TransferEngine β => Ledger s.1 e)
      (fun _ _ h (hop : EngineOp.IsQuiet _) => h.quiet hop) hled
      (allSteps_of_forall_mem step (fun op hop _ => hquiet op hop) s.2)
  rw [pipeEnd_acked_iff hledEnd hcomplete hok, he, pipeReceiving_exec_iff hled hquiet]
  constructor
  · rintro ⟨hplace, hticks⟩
    exact ⟨chunks_eq_nil_of_complete hled hshort hcomplete hplace, hplace, hticks⟩
  · rintro ⟨-, hplace, hticks⟩
    exact ⟨hplace, hticks⟩

/-- A frame of three bytes in two chunks, and a tick while the panel refreshes: its END is
refused.  The END of a frame of no bytes is acknowledged. -/
theorem completeEnd_acked_twoFrames :
    (let s := exec tracked (({} : Transfer), init (ScriptedPanel.accepting 3 []) 30000 180000)
      [.pipeStart (.ofBytes [1, 0, 16, 4, 244, 0, 3, 0, 0, 0]) 0, .pipeData (.ofBytes [0, 0xAA]) 1,
        .pipeData (.ofBytes [1, 0xBB, 0xCC]) 2]
    (((exec step s.2 [.tick 3]).onPipeEnd (.ofBytes [0]) 4).1.response ≠
        encodeNack cmdPipeWriteEnd ↔
      s.1.chunks = [] ∧ s.2.PipeReceiving ∧ ∀ now, .tick now ∈ [(.tick 3 : EngineOp Unit)] →
        deadlinePassed now s.2.txn.transferDeadlineMs = false)) ∧
    let e := exec step (exec tracked
      (({} : Transfer), init (ScriptedPanel.accepting 0 []) 30000 180000)
      [.pipeStart (.ofBytes [1, 0, 16, 4, 244, 0, 0, 0, 0, 0]) 0]).2 [.tick 3]
    (e.onPipeEnd (.ofBytes [0]) 4).1.response ≠ encodeNack cmdPipeWriteEnd := by
  constructor
  · exact completeEnd_acked_iff (ScriptedPanel.accepting 3 []) 30000 180000
      [.pipeStart (.ofBytes [1, 0, 16, 4, 244, 0, 3, 0, 0, 0]) 0,
        .pipeData (.ofBytes [0, 0xAA]) 1, .pipeData (.ofBytes [1, 0xBB, 0xCC]) 2]
      [.tick 3] _ rfl (by decide +kernel) (List.forall_mem_singleton.mpr trivial) _ rfl
      ⟨by decide +kernel, by decide +kernel⟩ (.ofBytes [0]) 4
  · have hiff := completeEnd_acked_iff (ScriptedPanel.accepting 0 []) 30000 180000
      [.pipeStart (.ofBytes [1, 0, 16, 4, 244, 0, 0, 0, 0, 0]) 0]
      [.tick 3] _ rfl (by decide +kernel) (List.forall_mem_singleton.mpr trivial) _ rfl
      ⟨by decide +kernel, by decide +kernel⟩ (.ofBytes [0]) 4
    refine hiff.mpr ⟨by decide +kernel, ⟨by decide +kernel, by decide +kernel⟩, fun now hnow => ?_⟩
    obtain rfl : now = 3 := by simpa using hnow
    decide +kernel

/-- The frame is complete and the panel answers OK to everything: an END is refused while the
panel refreshes, and after it has reported success. -/
theorem completeEnd_nacked :
    let s := exec tracked
      (({} : Transfer), init (ScriptedPanel.accepting 3 [.complete]) 30000 180000)
      [.pipeStart (.ofBytes [1, 0, 16, 4, 244, 0, 3, 0, 0, 0]) 0,
        .pipeData (.ofBytes [0, 0xAA, 0xBB, 0xCC]) 1]
    s.1.Complete ∧ s.2.txn.state = .refreshing ∧
      (s.2.tick 2).1.refreshComplete = true ∧ (s.2.tick 2).2.txn.state = .idle ∧
      ∀ bytes ∈ [[], [0x00], [0x01, 0xDE, 0xAD, 0xBE, 0xEF]],
        (s.2.onPipeEnd (.ofBytes bytes) 2).1.response = encodeNack cmdPipeWriteEnd ∧
          ((s.2.tick 2).2.onPipeEnd (.ofBytes bytes) 3).1.response =
            encodeNack cmdPipeWriteEnd := by
  decide +kernel

end TransferEngine

end OpenDisplay
