import OpenDisplay.Backend.Scripted
import OpenDisplay.Engine.Movement

/-!
# What keeps a transfer alive

The transfer deadline is an inactivity timeout: an accepted data packet extends it, and a
duplicate or a gap does not, so that a client that is stuck times out.  A `0x71` without
data ends the transfer; a `0x81` whose payload is the next sequence number and nothing
else is accepted, extends the deadline and delivers no byte.  This is the only packet
that does so.  Where it does not occur, the deadline of a transfer is extended at most
once for every byte of its frame, and without a byte the first tick past it ends the
transfer.  Only a deadline that falls on the clock word `0` never passes: it stands for
none.
-/

namespace OpenDisplay

open OpenDisplayBackend

namespace TransferEngine

variable {β ω : Type} [OpenDisplayBackend β] [PanelWorld β ω] {t : Transfer}
  {e e' : TransferEngine β}

/-- A transfer that receives goes on with another deadline. -/
def MovesDeadline (e : TransferEngine β) (op : EngineOp ω) : Prop :=
  e.txn.state = .receiving ∧ (e.step op).txn.state ≠ .idle ∧
    (e.step op).txn.transferDeadlineMs ≠ e.txn.transferDeadlineMs

instance (e : TransferEngine β) (op : EngineOp ω) : Decidable (e.MovesDeadline op) :=
  inferInstanceAs (Decidable (_ ∧ _ ∧ _))

/-- Only progress moves the deadline. -/
def DeadlineHonest (e : TransferEngine β) (op : EngineOp ω) : Prop :=
  op.isStart = false → e.MovesDeadline op → e.txn.acceptedBytes < (e.step op).txn.acceptedBytes

/-- The backend takes the end of a frame and begins to refresh. -/
def FinishesOk (b : β) : Prop :=
  (finishFrame b).1 = .ok ∧ (beginRefresh (finishFrame b).2 {}).1 = .ok

/-- The packet is a `0x81` with the next sequence number and no data, for an open PIPE
transfer that will survive it: the panel takes the empty write, and, should the frame be
complete without any byte, its end too. -/
def TakesEmptyChunk (e : TransferEngine β) : EngineOp ω → Prop
  | .pipeData p now =>
      p.bytes = [e.txn.nextPipeSequence] ∧ e.PipeReceiving ∧ e.txn.pipeFatal = false ∧
        (writeContiguous e.backend e.txn.acceptedBytes []).1 = .ok ∧
        (e.txn.acceptedBytes < e.txn.expectedFrameBytes ∨
          FinishesOk (writeContiguous e.backend e.txn.acceptedBytes []).2) ∧
        now + e.transferTimeoutMs ≠ e.txn.transferDeadlineMs
  | _ => False

/-! ### One step -/

omit [PanelWorld β ω] in
/-- A chunk after which there still is a transfer moves nothing more. -/
lemma ChunkOutcome.kept {now : UInt32} {res : EngineResult} (h : ChunkOutcome e now res e')
    (hactive : e'.txn.state ≠ .idle) : e'.txn.acceptedBytes = e.txn.acceptedBytes ∧
      e'.txn.transferDeadlineMs = e.txn.transferDeadlineMs := by
  cases h with
  | completed _ _ _ hfinish =>
      cases hfinish with
      | incomplete | finishFailed | refreshFailed => simp at hactive
      | refreshing => exact ⟨rfl, rfl⟩
  | sacked | silent => exact ⟨rfl, rfl⟩

omit [PanelWorld β ω] in
/-- When there still is a transfer after a chunk. -/
lemma ChunkOutcome.active_iff {now : UInt32} {res : EngineResult} (h : ChunkOutcome e now res e')
    (hstate : e.txn.state ≠ .idle) (hbook : Bookkeeping t e.txn) :
    e'.txn.state ≠ .idle ↔
      e.txn.acceptedBytes < e.txn.expectedFrameBytes ∨ FinishesOk e.backend := by
  have hle : e.txn.acceptedBytes ≤ e.txn.expectedFrameBytes := by
    rw [UInt32.le_iff_toNat_le, hbook.accepted_eq]
    exact hbook.size_le
  cases h with
  | completed hdone _ _ hfinish =>
      have hfull : ¬ e.txn.acceptedBytes < e.txn.expectedFrameBytes :=
        UInt32.not_lt.mpr hdone.1
      cases hfinish with
      | incomplete hlen => exact absurd (UInt32.le_antisymm hle hdone.1) hlen
      | finishFailed _ hanswer =>
          have hfailed : ¬ FinishesOk e.backend := fun h => hanswer h.1
          simp [hfull, hfailed]
      | refreshFailed _ _ hanswer =>
          have hfailed : ¬ FinishesOk e.backend := fun h => hanswer h.2
          simp [hfull, hfailed]
      | refreshing _ hfinish hanswer => exact ⟨fun _ => Or.inr ⟨hfinish, hanswer⟩, fun _ => by simp⟩
  | sacked hopen | silent hopen =>
      refine ⟨fun _ => Or.inl ?_, fun _ => hstate⟩
      rw [← UInt32.not_le]
      exact fun hfull => hopen ⟨hfull, hbook.not_compressed, hbook.not_partial⟩

omit [OpenDisplayBackend β] [PanelWorld β ω] in
/-- Accepted data counts. -/
lemma Bookkeeping.accepted_lt (h : Bookkeeping t e.txn) {data : List UInt8}
    (hfit : data.length ≤ (e.txn.expectedFrameBytes - e.txn.acceptedBytes).toNat)
    (hdata : data ≠ []) :
    e.txn.acceptedBytes < e.txn.acceptedBytes + UInt32.ofNat data.length := by
  have hpos := List.length_pos_iff.mpr hdata
  rw [UInt32.lt_iff_toNat_lt, (h.fits hfit).1, h.accepted_eq]
  omega

lemma pipeData_deadlineHonest_iff (hled : Ledger t e) (p : Payload) (now : UInt32) :
    e.DeadlineHonest (.pipeData p now : EngineOp ω) ↔
      ¬ e.TakesEmptyChunk (.pipeData p now : EngineOp ω) := by
  have ho := onPipeData_outcome e p now
  simp only [DeadlineHonest, MovesDeadline, TakesEmptyChunk, step, perform]
  generalize (e.onPipeData p now).1 = res, (e.onPipeData p now).2 = e₁ at ho ⊢
  cases ho with
  | latched hlatch => simp [hlatch]
  | misplaced _ hplace => simp [hplace]
  | malformed _ _ hbytes => simp [hbytes]
  | outOfOrder _ _ seq data hbytes hseq => simp [hbytes, hseq]
  | oversize _ _ data hbytes hfit =>
      have hdata : data ≠ [] := by rintro rfl; simp at hfit
      simp [hbytes, hdata]
  | writeFailed _ _ data hbytes _ hanswer =>
      have hnot : data = [] → ¬ (writeContiguous e.backend e.txn.acceptedBytes []).1 = .ok := by
        rintro rfl; exact hanswer
      simp only [abort_txn, hbytes]
      simp
      tauto
  | accepted hlatch hplace data hbytes hfit hanswer _ _ hchunk =>
      obtain ⟨-, hbook, -⟩ := hled.book_of_receiving hplace.1
      have hbook' : Bookkeeping (t.accept data)
          (e.pipeAccepted e.txn.nextPipeSequence data now).txn :=
        hbook.acceptPipe (hbook.mode_eq.symm.trans hplace.2) hfit now
      have hreceiving : (e.pipeAccepted e.txn.nextPipeSequence data now).txn.state ≠ .idle := by
        change e.txn.state ≠ .idle
        rw [hplace.1]
        decide
      have hactive := hchunk.active_iff hreceiving hbook'
      by_cases hdata : data = []
      · subst hdata
        have hzero : e.txn.acceptedBytes + UInt32.ofNat 0 = e.txn.acceptedBytes :=
          UInt32.add_zero _
        simp only [pipeAccepted, acceptPipe, List.length_nil, hzero] at hactive
        constructor
        · rintro hhonest ⟨-, -, -, -, hsurvives, hmoved⟩
          have hidle := hactive.mpr hsurvives
          obtain ⟨haccepted, hdeadline⟩ := hchunk.kept hidle
          have hlt := hhonest rfl ⟨hplace.1, hidle, by rw [hdeadline]; exact hmoved⟩
          rw [haccepted] at hlt
          simp [pipeAccepted, acceptPipe] at hlt
        · rintro hnot - ⟨-, hidle, hmoved⟩
          rw [(hchunk.kept hidle).2] at hmoved
          exact absurd ⟨hbytes, hplace, hlatch, hanswer, hactive.mp hidle, hmoved⟩ hnot
      · constructor
        · rintro - ⟨hempty, -⟩
          rw [hbytes] at hempty
          simp [hdata] at hempty
        · rintro - - ⟨-, hidle, -⟩
          rw [(hchunk.kept hidle).1]
          exact hbook.accepted_lt hfit hdata

/-- **Only an empty chunk moves the deadline without progress.** -/
theorem deadlineHonest_iff (hled : Ledger t e) (op : EngineOp ω) :
    e.DeadlineHonest op ↔ ¬ e.TakesEmptyChunk op := by
  by_cases hpipe : ∃ p now, op = .pipeData p now
  · obtain ⟨p, now, rfl⟩ := hpipe
    exact pipeData_deadlineHonest_iff hled p now
  · have hnot : ¬ e.TakesEmptyChunk op := by
      cases op with
      | pipeData p now => exact absurd ⟨p, now, rfl⟩ hpipe
      | _ => exact id
    refine iff_of_true ?_ hnot
    rintro hstart ⟨hstate, hactive, hmoved⟩
    cases step_transferMove e op with
    | ended hidle => exact absurd hidle hactive
    | opened _ hop =>
        obtain ⟨p, now, rfl | rfl⟩ := hop <;> cases hstart
    | kept _ _ _ _ _ hdeadline => exact absurd hdeadline hmoved
    | took offset data now hcall _ hempty _ _ haccepted =>
        obtain ⟨-, hbook, -⟩ := hled.book_of_receiving hstate
        obtain ⟨hfit, hplace⟩ := hcall
        rw [haccepted]
        refine hbook.accepted_lt hfit (hempty ?_)
        cases op with
        | directData => exact hplace.1.2
        | pipeData p now => exact absurd ⟨p, now, rfl⟩ hpipe
        | _ => exact hplace.elim

/-! ### Runs -/

/-- The monitor that counts how often the deadline of the current transfer was moved. -/
def watchExtensions (n : ℕ) (e : TransferEngine β) (op : EngineOp ω) : ℕ :=
  if (e.perform op).1.transferStarted then 0 else if e.MovesDeadline op then n + 1 else n

/-- What holds along a run in which only progress moves the deadline. -/
structure ExtensionsInv {β : Type} (s : ℕ × TransferEngine β) : Prop where
  ledger : ∃ t, Ledger t s.2
  extensions_le : s.2.txn.state ≠ .idle → s.1 ≤ s.2.txn.acceptedBytes.toNat

lemma ExtensionsInv.step {s : ℕ × TransferEngine β} (h : ExtensionsInv s) {op : EngineOp ω}
    (hhonest : s.2.DeadlineHonest op) :
    ExtensionsInv (Machine.monitored TransferEngine.step watchExtensions s op) := by
  obtain ⟨⟨t, hled⟩, hle⟩ := h
  refine ⟨⟨_, hled.step op⟩, fun hactive => ?_⟩
  obtain ⟨n, e⟩ := s
  simp only [Machine.monitored, watchExtensions] at hactive hle hled hhonest ⊢
  cases step_transferMove e op with
  | ended hidle => exact absurd hidle hactive
  | opened _ _ hstarted => simp [hstarted]
  | kept _ _ hidle _ haccepted hdeadline =>
      have hkept : ¬ e.MovesDeadline op := fun h => h.2.2 hdeadline
      rw [if_neg hkept, haccepted]
      have hn := hle hidle
      split_ifs <;> omega
  | took offset data now hcall _ _ _ _ haccepted =>
      obtain ⟨hstate, hop⟩ : e.txn.state = .receiving ∧ op.isStart = false := by
        obtain ⟨-, hplace⟩ := hcall
        cases op with
        | directData => exact ⟨hplace.1.1, rfl⟩
        | pipeData => exact ⟨hplace.1.1, rfl⟩
        | _ => exact hplace.elim
      obtain ⟨-, hbook, -⟩ := hled.book_of_receiving hstate
      have hn := hle (by rw [hstate]; decide)
      split_ifs with hstarted hmoved
      · exact Nat.zero_le _
      · have hlt := UInt32.lt_iff_toNat_lt.mp (hhonest hop hmoved)
        omega
      · rw [haccepted, (hbook.fits hcall.1).1, ← hbook.accepted_eq]
        omega

/-! ### Without progress -/

/-- The step opens no transfer, and brings the one in progress no byte. -/
def BringsNothing (e : TransferEngine β) (op : EngineOp ω) : Prop :=
  (e.perform op).1.transferStarted = false ∧ ¬ e.txn.acceptedBytes < (e.step op).txn.acceptedBytes

/-- What holds along a run that brings nothing: the transfer still has its deadline. -/
structure Waits {β : Type} (due : UInt32) (e : TransferEngine β) : Prop where
  ledger : ∃ t, Ledger t e
  due_eq : e.txn.state = .receiving → e.txn.transferDeadlineMs = due

lemma Waits.step {due : UInt32} (h : Waits due e) {op : EngineOp ω}
    (hhonest : e.DeadlineHonest op) (hnothing : e.BringsNothing op) : Waits due (e.step op) := by
  obtain ⟨⟨t, hled⟩, hdue⟩ := h
  refine ⟨⟨_, hled.step op⟩, fun hreceiving => ?_⟩
  have hactive : (e.step op).txn.state ≠ .idle := by
    rw [hreceiving]
    decide
  have hstarted : (e.perform op).1.transferStarted ≠ true := by
    rw [hnothing.1]
    decide
  cases step_transferMove e op with
  | ended hidle => exact absurd hidle hactive
  | opened _ _ hopened => exact absurd hopened hstarted
  | kept _ hstate _ _ _ hdeadline => rw [hdeadline, hdue (hstate hreceiving)]
  | took offset data now hcall =>
      obtain ⟨hstate, hop⟩ : e.txn.state = .receiving ∧ op.isStart = false := by
        obtain ⟨-, hplace⟩ := hcall
        cases op with
        | directData => exact ⟨hplace.1.1, rfl⟩
        | pipeData => exact ⟨hplace.1.1, rfl⟩
        | _ => exact hplace.elim
      rw [← hdue hstate]
      by_contra hmoved
      exact hnothing.2 (hhonest hop ⟨hstate, hactive, hmoved⟩)

/-- A run that brings nothing and takes no empty chunk leaves the deadline where it is. -/
lemma waits_exec (hledger : ∃ t, Ledger t e) {ops : List (EngineOp ω)}
    (hops : Machine.AllSteps step (fun e op => ¬ e.TakesEmptyChunk op) e ops)
    (hnothing : Machine.AllSteps step BringsNothing e ops) :
    Waits e.txn.transferDeadlineMs (Machine.exec step e ops) := by
  have hboth := Machine.allSteps_and step hops hnothing
  refine Machine.exec_invariant_of_allSteps (I := Waits e.txn.transferDeadlineMs) ?_
    ⟨hledger, fun _ => rfl⟩ hboth
  rintro e' op h ⟨htakes, hnothing'⟩
  obtain ⟨t, hled⟩ := h.ledger
  exact h.step ((deadlineHonest_iff hled op).mpr htakes) hnothing'

/-- A deadline other than `0` has passed for `2 ^ 31` milliseconds. -/
lemma deadlinePassed_of_le {now due : UInt32} (hdue : due ≠ 0)
    (hpast : (now - due).toNat < 2 ^ 31) :
    deadlinePassed now due = true := by
  rw [deadlinePassed, Bool.and_eq_true, bne_iff_ne, decide_eq_true_iff]
  exact ⟨hdue, (Words.zero_le_toInt32_iff _).mpr hpast⟩

/-- A tick past the deadline ends a transfer that receives. -/
lemma tick_not_receiving {due : UInt32} (h : Waits due e) {now : UInt32}
    (hpassed : deadlinePassed now due = true) :
    (e.tick now).2.txn.state ≠ .receiving := by
  obtain ⟨⟨t, hled⟩, hdue⟩ := h
  have ho := e.tick_outcome now
  generalize (e.tick now).1 = res, (e.tick now).2 = e₁ at ho ⊢
  cases ho with
  | complete | failed => simp
  | transferTimeout | refreshTimeout => simp
  | released hw =>
      intro hreceiving
      cases hled with
      | idle htxn => rw [htxn] at hreceiving; cases hreceiving
      | receiving _ hfree => rw [hw] at hfree; cases hfree
      | refreshing hstate => cases hstate.symm.trans hreceiving
  | waiting _ hpolled htransfer =>
      intro hreceiving
      rw [TransferExpired, hpolled.txn_eq] at htransfer
      rw [hpolled.txn_eq] at hreceiving
      exact htransfer ⟨Or.inl hreceiving, by rwa [hdue hreceiving]⟩

/-- **Only real progress keeps a transfer alive**, apart from empty chunks.  A run moves
deadlines only by progress if and only if it takes no empty chunk.  In such a run the
deadline of the current transfer has been moved at most once for every byte accepted,
of which there are no more than expected; and however the run goes on, as long as no
other transfer is opened and no byte comes, the deadline stays, and unless it is `0` a tick
past it finds the transfer ended or ends it. -/
theorem progress_exec (b : β) (transferMs refreshMs : UInt32) (ops : List (EngineOp ω)) :
    let e := init b transferMs refreshMs
    (Machine.AllSteps step DeadlineHonest e ops ↔
      Machine.AllSteps step (fun e op => ¬ e.TakesEmptyChunk op) e ops) ∧
    (Machine.AllSteps step (fun e op => ¬ e.TakesEmptyChunk op) e ops →
      let s := Machine.exec (Machine.monitored step watchExtensions) (0, e) ops
      s.2.txn.state ≠ .idle →
        s.1 ≤ s.2.txn.acceptedBytes.toNat ∧
          s.2.txn.acceptedBytes.toNat ≤ s.2.txn.expectedFrameBytes.toNat) ∧
    ∀ (more : List (EngineOp ω)) (now : UInt32),
      Machine.AllSteps step (fun e op => ¬ e.TakesEmptyChunk op) e (ops ++ more) →
      let s := Machine.exec step e ops
      let s' := Machine.exec step s more
      s.txn.state = .receiving → Machine.AllSteps step BringsNothing s more →
        (s'.txn.state = .receiving → s'.txn.transferDeadlineMs = s.txn.transferDeadlineMs) ∧
        (s.txn.transferDeadlineMs ≠ 0 → (now - s.txn.transferDeadlineMs).toNat < 2 ^ 31 →
          (s'.tick now).2.txn.state ≠ .receiving) := by
  intro e
  have hiff : Machine.AllSteps step DeadlineHonest e ops ↔
      Machine.AllSteps step (fun e op => ¬ e.TakesEmptyChunk op) e ops :=
    Machine.allSteps_congr (I := fun e : TransferEngine β => ∃ t, Ledger t e)
      (fun _ op ⟨_, h⟩ _ => ⟨_, h.step op⟩) (fun _ op ⟨_, h⟩ => deadlineHonest_iff h op)
      ⟨{}, ledger_init _ _ _ _⟩ ops
  refine ⟨hiff, ?_, ?_⟩
  · intro hops s hactive
    have hhonest := (Machine.allSteps_monitored step watchExtensions DeadlineHonest (0, e) ops).mpr
      (hiff.mpr hops)
    have hinv : ExtensionsInv s :=
      Machine.exec_invariant_of_allSteps (fun _ _ h hP => h.step hP)
        ⟨⟨{}, ledger_init _ _ _ _⟩, fun _ => Nat.zero_le _⟩ hhonest
    obtain ⟨t, hled⟩ := hinv.ledger
    refine ⟨hinv.extensions_le hactive, ?_⟩
    cases hled with
    | idle htxn => rw [htxn] at hactive; exact absurd rfl hactive
    | receiving _ _ hbook | refreshing _ _ hbook => exact hbook.accepted_eq ▸ hbook.size_le
  · intro more now hops s s' hreceiving hnothing
    have hledger : ∃ t, Ledger t s :=
      Machine.exec_invariant (I := fun e : TransferEngine β => ∃ t, Ledger t e)
        (fun _ op ⟨_, h⟩ => ⟨_, h.step op⟩) ⟨{}, ledger_init _ _ _ _⟩ ops
    have hwaits : Waits s.txn.transferDeadlineMs s' :=
      waits_exec hledger ((Machine.allSteps_append step _ e ops more).mp hops).2 hnothing
    exact ⟨hwaits.due_eq, fun hdue hpast =>
      tick_not_receiving hwaits (deadlinePassed_of_le hdue hpast)⟩

/-- Four empty chunks, each as the one before it is about to time out. -/
def idlePipeTransfer : List (EngineOp Unit) :=
  [.pipeStart (.ofBytes [1, 0, 8, 8, 244, 0, 3, 0, 0, 0]) 0, .pipeData (.ofBytes [0]) 29999,
    .pipeData (.ofBytes [1]) 59998, .pipeData (.ofBytes [2]) 89997, .pipeData (.ofBytes [3]) 119996]

/-- A transfer of three bytes whose deadline has been moved four times, by packets that
are no START, and that has not got a single byte. -/
theorem not_progress_idlePipeTransfer :
    let e := init (ScriptedPanel.accepting 3 []) 30000 180000
    ¬ Machine.AllSteps step DeadlineHonest e idlePipeTransfer ∧
      let s := Machine.exec (Machine.monitored step watchExtensions) (0, e) idlePipeTransfer
      s.1 = 4 ∧ s.2.txn.state = .receiving ∧ s.2.txn.acceptedBytes = 0 ∧
        s.2.txn.expectedFrameBytes = 3 := by
  refine ⟨fun h => ?_, by decide +kernel⟩
  have hmoved : MovesDeadline (step (init (ScriptedPanel.accepting 3 []) 30000 180000)
      (.pipeStart (.ofBytes [1, 0, 8, 8, 244, 0, 3, 0, 0, 0]) 0 : EngineOp Unit))
      (.pipeData (.ofBytes [0]) 29999 : EngineOp Unit) := by decide +kernel
  have hlt := h.2.1 rfl hmoved
  revert hlt
  decide +kernel

end TransferEngine

end OpenDisplay
