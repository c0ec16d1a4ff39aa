import OpenDisplay.Engine.Outcome

/-!
# Two engines in lock step

Two engines that agree in everything they decide by, on panels that answer alike, make
the same calls and return the same results for ever.  What they need not agree in is the
record of the past, which an engine writes and decides nothing by (`History`), and, while
no PIPE transfer is open, the latch.

What "alike" means is a parameter, the `Likeness`: a relation of the two panels, one of the
two histories, and whether the latch has to agree.  Panels need not answer alike.  When
they do not, the runs go separate ways, and a likeness names for each side the panels that
have left the common course.
-/

namespace OpenDisplay

/-! ### The record of the past -/

/-- What the engine keeps of the past: it writes these and decides nothing by them. -/
structure History where
  stats : TransferStats
  lastError : ErrorCode
  refreshStartedMs : UInt32
  pendingTailSack : Response

/-- The counters that the engine counts up. -/
inductive Counter
  | transfersOk
  | transfersAborted
  | directPackets
  | pipePackets
  | retransmitRequests
  | backendFailures
  | refreshTimeouts

def TransferStats.count (s : TransferStats) : Counter → TransferStats
  | .transfersOk => { s with transfersOk := s.transfersOk + 1 }
  | .transfersAborted => { s with transfersAborted := s.transfersAborted + 1 }
  | .directPackets => { s with directPackets := s.directPackets + 1 }
  | .pipePackets => { s with pipePackets := s.pipePackets + 1 }
  | .retransmitRequests => { s with retransmitRequests := s.retransmitRequests + 1 }
  | .backendFailures => { s with backendFailures := s.backendFailures + 1 }
  | .refreshTimeouts => { s with refreshTimeouts := s.refreshTimeouts + 1 }

/-- A relation of two histories that is kept while the same things are recorded in both. -/
structure KeepsStep (past : History → History → Prop) : Prop where
  count : ∀ {h₁ h₂} (c : Counter), past h₁ h₂ →
    past { h₁ with stats := h₁.stats.count c } { h₂ with stats := h₂.stats.count c }
  lastError : ∀ {h₁ h₂} (error : ErrorCode), past h₁ h₂ →
    past { h₁ with lastError := error } { h₂ with lastError := error }
  refreshStartedMs : ∀ {h₁ h₂} (nowMs : UInt32), past h₁ h₂ →
    past { h₁ with refreshStartedMs := nowMs } { h₂ with refreshStartedMs := nowMs }
  pendingTailSack : ∀ {h₁ h₂} (tail : Response), past h₁ h₂ →
    past { h₁ with pendingTailSack := tail } { h₂ with pendingTailSack := tail }

/-! ### Likeness -/

section Likeness

variable {β₁ β₂ ω : Type} [OpenDisplayBackend β₁] [PanelWorld β₁ ω] [OpenDisplayBackend β₂]
  [PanelWorld β₂ ω]

/-- Two answers to the same call: they are equal and leave related panels, or one side
has left the common course. -/
def AnswersAlike (panel : β₁ → β₂ → Prop) (off₁ : β₁ → Prop) (off₂ : β₂ → Prop) {α : Type}
    (x : α × β₁) (y : α × β₂) : Prop :=
  off₁ x.2 ∨ off₂ y.2 ∨ x.1 = y.1 ∧ panel x.2 y.2

variable (β₁ β₂) in
/-- In what two engines are to agree. -/
structure Likeness where
  /-- the relation of the panels -/
  panel : β₁ → β₂ → Prop
  /-- the panels of the first side that have left the common course -/
  off₁ : β₁ → Prop
  /-- the panels of the second side that have left it -/
  off₂ : β₂ → Prop
  /-- the relation of the histories -/
  past : History → History → Prop
  /-- Whether the latch has to agree where no PIPE transfer is open. -/
  latched : Prop
  invariant₁ : BackendInvariant off₁
  invariant₂ : BackendInvariant off₂
  keepsStep : KeepsStep past
  /-- A latch that does not agree lets the histories go any way. -/
  latched_or : latched ∨ ∀ h₁ h₂, past h₁ h₂
  capabilities : ∀ {b₁ b₂}, panel b₁ b₂ →
    OpenDisplayBackend.capabilities b₁ = OpenDisplayBackend.capabilities b₂
  beginFrame : ∀ {b₁ b₂} f, panel b₁ b₂ → AnswersAlike panel off₁ off₂
    (OpenDisplayBackend.beginFrame b₁ f) (OpenDisplayBackend.beginFrame b₂ f)
  writeContiguous : ∀ {b₁ b₂} o d, panel b₁ b₂ → AnswersAlike panel off₁ off₂
    (OpenDisplayBackend.writeContiguous b₁ o d) (OpenDisplayBackend.writeContiguous b₂ o d)
  finishFrame : ∀ {b₁ b₂}, panel b₁ b₂ → AnswersAlike panel off₁ off₂
    (OpenDisplayBackend.finishFrame b₁) (OpenDisplayBackend.finishFrame b₂)
  beginRefresh : ∀ {b₁ b₂} r, panel b₁ b₂ → AnswersAlike panel off₁ off₂
    (OpenDisplayBackend.beginRefresh b₁ r) (OpenDisplayBackend.beginRefresh b₂ r)
  pollRefresh : ∀ {b₁ b₂}, panel b₁ b₂ → AnswersAlike panel off₁ off₂
    (OpenDisplayBackend.pollRefresh b₁) (OpenDisplayBackend.pollRefresh b₂)
  abortTransfer : ∀ {b₁ b₂}, panel b₁ b₂ →
    panel (OpenDisplayBackend.abortTransfer b₁) (OpenDisplayBackend.abortTransfer b₂)
  happen : ∀ {b₁ b₂} w, panel b₁ b₂ →
    panel (PanelWorld.happen w b₁) (PanelWorld.happen w b₂)

end Likeness

namespace TransferEngine

open OpenDisplayBackend

variable {β₁ β₂ ω : Type} [OpenDisplayBackend β₁] [PanelWorld β₁ ω] [OpenDisplayBackend β₂]
  [PanelWorld β₂ ω]

def history {β : Type} (e : TransferEngine β) : History where
  stats := e.stats
  lastError := e.lastError
  refreshStartedMs := e.refreshStartedMs
  pendingTailSack := e.pendingTailSack

/-- The engines agree in all that they decide by. -/
structure Alike (ℓ : Likeness β₁ β₂) (e₁ : TransferEngine β₁) (e₂ : TransferEngine β₂) :
    Prop where
  panel : ℓ.panel e₁.backend e₂.backend
  past : ℓ.past e₁.history e₂.history
  txn : ∃ latch, e₂.txn = { e₁.txn with pipeFatal := latch }
  latch : ℓ.latched ∨ e₁.PipeReceiving → e₂.txn.pipeFatal = e₁.txn.pipeFatal
  hwOwned : e₂.hwOwned = e₁.hwOwned
  transferTimeoutMs : e₂.transferTimeoutMs = e₁.transferTimeoutMs
  refreshTimeoutMs : e₂.refreshTimeoutMs = e₁.refreshTimeoutMs
  connectionGeneration : e₂.connectionGeneration = e₁.connectionGeneration
  hasTailSack : e₂.hasTailSack = e₁.hasTailSack
  staged : e₁.hasTailSack = true → e₂.pendingTailSack = e₁.pendingTailSack

/-- What two operations come to: one side has left the common course, or the results are
equal and the engines alike, with the same error where the results tell of one. -/
def Twin (ℓ : Likeness β₁ β₂) (x : EngineResult × TransferEngine β₁)
    (y : EngineResult × TransferEngine β₂) : Prop :=
  ℓ.off₁ x.2.backend ∨ ℓ.off₂ y.2.backend ∨ x.1 = y.1 ∧ Alike ℓ x.2 y.2 ∧
    (x.1.terminalError = true ∨ x.1.refreshTimeout = true → x.2.lastError = y.2.lastError)

variable {ℓ : Likeness β₁ β₂} {e₁ : TransferEngine β₁} {e₂ : TransferEngine β₂}

/-! ### Updates of both sides -/

namespace Alike

lemma withBackend (h : Alike ℓ e₁ e₂) {b₁ : β₁} {b₂ : β₂} (hb : ℓ.panel b₁ b₂) :
    Alike ℓ { e₁ with backend := b₁ } { e₂ with backend := b₂ } :=
  { h with panel := hb }

lemma count (h : Alike ℓ e₁ e₂) (c : Counter) :
    Alike ℓ { e₁ with stats := e₁.stats.count c } { e₂ with stats := e₂.stats.count c } :=
  { h with past := ℓ.keepsStep.count c h.past }

lemma withError (h : Alike ℓ e₁ e₂) (error : ErrorCode) :
    Alike ℓ { e₁ with lastError := error } { e₂ with lastError := error } :=
  { h with past := ℓ.keepsStep.lastError error h.past }

lemma withHwOwned (h : Alike ℓ e₁ e₂) (owned : Bool) :
    Alike ℓ { e₁ with hwOwned := owned } { e₂ with hwOwned := owned } :=
  { h with hwOwned := rfl }

lemma withRefreshStarted (h : Alike ℓ e₁ e₂) (nowMs : UInt32) :
    Alike ℓ { e₁ with refreshStartedMs := nowMs } { e₂ with refreshStartedMs := nowMs } :=
  { h with past := ℓ.keepsStep.refreshStartedMs nowMs h.past }

lemma withGeneration (h : Alike ℓ e₁ e₂) (gen : UInt32) :
    Alike ℓ { e₁ with connectionGeneration := gen } { e₂ with connectionGeneration := gen } :=
  { h with connectionGeneration := rfl }

lemma withStaged (h : Alike ℓ e₁ e₂) (tail : Response) :
    Alike ℓ { e₁ with pendingTailSack := tail, hasTailSack := true }
      { e₂ with pendingTailSack := tail, hasTailSack := true } :=
  { h with
    past := ℓ.keepsStep.pendingTailSack tail h.past
    hasTailSack := rfl
    staged := fun _ => rfl }

lemma withoutStaged (h : Alike ℓ e₁ e₂) :
    Alike ℓ { e₁ with hasTailSack := false } { e₂ with hasTailSack := false } :=
  { h with hasTailSack := rfl, staged := fun h => nomatch h }

/-- Both transactions become the same one. -/
lemma setTxn (h : Alike ℓ e₁ e₂) {txn₁ txn₂ : Transaction} (heq : txn₂ = txn₁) :
    Alike ℓ { e₁ with txn := txn₁ } { e₂ with txn := txn₂ } := by
  subst heq
  exact { h with txn := ⟨txn₂.pipeFatal, rfl⟩, latch := fun _ => rfl }

lemma reset (h : Alike ℓ e₁ e₂) : Alike ℓ { e₁ with txn := {} } { e₂ with txn := {} } :=
  h.setTxn rfl

/-- The same change of both transactions, which neither looks at the latch nor opens a
PIPE transfer. -/
lemma mapTxn (h : Alike ℓ e₁ e₂) (f : Transaction → Transaction)
    (hf : ∀ txn latch, f { txn with pipeFatal := latch } = { f txn with pipeFatal := latch })
    (hopen : (f e₁.txn).state = .receiving ∧ (f e₁.txn).mode = .pipe → e₁.PipeReceiving) :
    Alike ℓ { e₁ with txn := f e₁.txn } { e₂ with txn := f e₂.txn } := by
  obtain ⟨latch, htxn⟩ := h.txn
  have hkeep : ∀ txn, (f txn).pipeFatal = txn.pipeFatal := fun txn => by
    have hread := congrArg Transaction.pipeFatal (hf txn txn.pipeFatal)
    exact hread
  refine { h with txn := ⟨latch, ?_⟩, latch := fun hl => ?_ }
  · dsimp only
    rw [htxn, hf]
  · dsimp only
    rw [hkeep, hkeep]
    exact h.latch (hl.imp_right hopen)

/-- Where the latch agrees the transactions are equal. -/
lemma txn_eq (h : Alike ℓ e₁ e₂) (hl : ℓ.latched ∨ e₁.PipeReceiving) : e₂.txn = e₁.txn := by
  obtain ⟨latch, htxn⟩ := h.txn
  have hlatch : latch = e₁.txn.pipeFatal := by
    have hagree := h.latch hl
    rw [htxn] at hagree
    exact hagree
  rw [htxn, hlatch]

/-- The parts of the transactions other than the latch are equal. -/
lemma read (h : Alike ℓ e₁ e₂) {α : Type} (f : Transaction → α)
    (hf : ∀ txn latch, f { txn with pipeFatal := latch } = f txn) : f e₂.txn = f e₁.txn := by
  obtain ⟨latch, htxn⟩ := h.txn
  rw [htxn, hf]

lemma state (h : Alike ℓ e₁ e₂) : e₂.txn.state = e₁.txn.state := h.read _ fun _ _ => rfl

lemma mode (h : Alike ℓ e₁ e₂) : e₂.txn.mode = e₁.txn.mode := h.read _ fun _ _ => rfl

lemma inorderSack (h : Alike ℓ e₁ e₂) : e₂.inorderSack = e₁.inorderSack :=
  h.read (fun txn => encodePipeSack txn.highestSeen (buildInorderAckMask txn.acceptedPackets))
    fun _ _ => rfl

end Alike

/-! ### Both sides abort, clear and open -/

namespace Alike

lemma abort (h : Alike ℓ e₁ e₂) (error : ErrorCode) :
    Alike ℓ (e₁.abort error) (e₂.abort error) := by
  rw [TransferEngine.abort, TransferEngine.abort, h.state]
  split_ifs
  · exact ((h.withBackend (ℓ.abortTransfer h.panel)).count .transfersAborted).reset.withError error
  · exact h.reset.withError error

lemma cleared (h : Alike ℓ e₁ e₂) : Alike ℓ e₁.cleared e₂.cleared := by
  rw [TransferEngine.cleared, TransferEngine.cleared, h.state]
  split_ifs
  · exact h.abort _
  · exact h

lemma onDisconnect (h : Alike ℓ e₁ e₂) (gen : UInt32) :
    Alike ℓ (e₁.onDisconnect gen) (e₂.onDisconnect gen) := by
  have hgen : e₂.txn.connectionGeneration = e₁.txn.connectionGeneration := h.read _ fun _ _ => rfl
  rw [TransferEngine.onDisconnect, TransferEngine.onDisconnect, h.state, hgen]
  split_ifs
  · exact h
  · exact h
  · exact h
  · exact h.abort _

lemma takeTailSack (h : Alike ℓ e₁ e₂) :
    e₁.takeTailSack.1 = e₂.takeTailSack.1 ∧ Alike ℓ e₁.takeTailSack.2 e₂.takeTailSack.2 := by
  rw [TransferEngine.takeTailSack, TransferEngine.takeTailSack, h.hasTailSack]
  split_ifs with hhas
  · exact ⟨congrArg some (h.staged hhas).symm, h.withoutStaged⟩
  · exact ⟨rfl, h⟩

lemma beginTransaction (h : Alike ℓ e₁ e₂) (mode : TransferMode) (totalBytes nowMs : UInt32) :
    ℓ.off₁ (e₁.beginTransaction mode totalBytes nowMs).2.backend ∨
      ℓ.off₂ (e₂.beginTransaction mode totalBytes nowMs).2.backend ∨
      (e₁.beginTransaction mode totalBytes nowMs).1 =
          (e₂.beginTransaction mode totalBytes nowMs).1 ∧
        Alike ℓ (e₁.beginTransaction mode totalBytes nowMs).2
          (e₂.beginTransaction mode totalBytes nowMs).2 := by
  have hclear := h.cleared
  have hcaps := ℓ.capabilities hclear.panel
  simp only [TransferEngine.beginTransaction, h.hwOwned, ← hcaps]
  by_cases hw : e₁.hwOwned = true
  · simp only [if_pos hw]
    exact .inr (.inr ⟨trivial, h⟩)
  by_cases hsize : totalBytes ≠ (capabilities e₁.cleared.backend).fullFrameBytes
  · simp only [if_neg hw, if_pos hsize]
    exact .inr (.inr ⟨trivial, hclear⟩)
  simp only [if_neg hw, if_neg hsize]
  -- whatever the panel answers, the call of `begin_frame` is the last one
  rcases ℓ.beginFrame
      { totalBytes := totalBytes, colorScheme := (capabilities e₁.cleared.backend).colorScheme }
      hclear.panel with hoff | hoff | ⟨hanswer, hpanel⟩
  · left
    split_ifs <;> exact hoff
  · right; left
    split_ifs <;> exact hoff
  · right; right
    rw [hanswer]
    split_ifs
    · exact ⟨rfl, (hclear.withBackend hpanel).reset⟩
    · refine ⟨rfl, (hclear.withBackend hpanel).setTxn ?_⟩
      rw [hclear.connectionGeneration, hclear.transferTimeoutMs]

end Alike

/-! ### Twin operations -/

namespace Twin

lemma of_alike {res : EngineResult} (h : Alike ℓ e₁ e₂)
    (herror : res.terminalError = true ∨ res.refreshTimeout = true → e₁.lastError = e₂.lastError) :
    Twin ℓ (res, e₁) (res, e₂) :=
  .inr (.inr ⟨rfl, h, herror⟩)

lemma replied (h : Alike ℓ e₁ e₂) (r : Response) : Twin ℓ (reply r, e₁) (reply r, e₂) :=
  of_alike h fun hreport => by simp [reply] at hreport

lemma sacked (h : Alike ℓ e₁ e₂) :
    Twin ℓ (reply e₁.inorderSack, e₁) (reply e₂.inorderSack, e₂) := by
  rw [h.inorderSack]
  exact .replied h _

lemma silent (h : Alike ℓ e₁ e₂) : Twin ℓ ({}, e₁) ({}, e₂) :=
  of_alike h fun hreport => by simp at hreport

/-- Both sides give up, for the same reason. -/
lemma aborted (h : Alike ℓ e₁ e₂) (res : EngineResult) (error : ErrorCode) :
    Twin ℓ (res, e₁.abort error) (res, e₂.abort error) :=
  of_alike (h.abort error) fun _ => by rw [abort_lastError, abort_lastError]

/-- Both sides refuse, for the same reason. -/
lemma refused (h : Alike ℓ e₁ e₂) (res : EngineResult) (error : ErrorCode) :
    Twin ℓ (res, { e₁ with lastError := error }) (res, { e₂ with lastError := error }) :=
  of_alike (h.withError error) fun _ => rfl

end Twin

/-! ### Finish and refresh -/

/-- The transaction of both sides moves to another state, which is not RECEIVING. -/
lemma Alike.withState (h : Alike ℓ e₁ e₂) (state : State) (hstate : state ≠ .receiving) :
    Alike ℓ { e₁ with txn.state := state } { e₂ with txn.state := state } :=
  h.mapTxn (fun txn => { txn with state := state }) (fun _ _ => rfl) fun hopen =>
    absurd hopen.1 hstate

lemma Alike.finishAndRefresh (h : Alike ℓ e₁ e₂) (endOpcode : UInt16) (nowMs : UInt32) :
    Twin ℓ (e₁.finishAndRefresh endOpcode nowMs) (e₂.finishAndRefresh endOpcode nowMs) := by
  have hP₁ := ℓ.invariant₁.toQuietInvariant
  have hP₂ := ℓ.invariant₂.toQuietInvariant
  have hlen : (e₂.txn.acceptedBytes ≠ e₂.txn.expectedFrameBytes) =
      (e₁.txn.acceptedBytes ≠ e₁.txn.expectedFrameBytes) :=
    h.read (fun txn => txn.acceptedBytes ≠ txn.expectedFrameBytes) fun _ _ => rfl
  simp only [TransferEngine.finishAndRefresh, hlen]
  by_cases hshort : e₁.txn.acceptedBytes ≠ e₁.txn.expectedFrameBytes
  · rw [if_pos hshort, if_pos hshort]
    exact .aborted (h.withState .validating (by decide)) _ _
  rw [if_neg hshort, if_neg hshort]
  rcases ℓ.finishFrame h.panel with hoff | hoff | ⟨hanswer, hpanel⟩
  · left
    split_ifs
    · exact abort_backend hP₁ _ hoff
    · exact abort_backend hP₁ _ (hP₁.beginRefresh _ hoff)
    · exact hP₁.beginRefresh _ hoff
  · right; left
    split_ifs
    · exact abort_backend hP₂ _ hoff
    · exact abort_backend hP₂ _ (hP₂.beginRefresh _ hoff)
    · exact hP₂.beginRefresh _ hoff
  rw [← hanswer]
  by_cases hfinish : (finishFrame e₁.backend).1 ≠ .ok
  · rw [if_pos hfinish, if_pos hfinish]
    exact .aborted (((h.withState .validating (by decide)).withBackend hpanel).count
      .backendFailures) _ _
  rw [if_neg hfinish, if_neg hfinish]
  rcases ℓ.beginRefresh {} hpanel with hoff | hoff | ⟨hanswer, hpanel⟩
  · left
    split_ifs
    · exact abort_backend hP₁ _ hoff
    · exact hoff
  · right; left
    split_ifs
    · exact abort_backend hP₂ _ hoff
    · exact hoff
  rw [← hanswer]
  split_ifs
  · exact .aborted (((h.withState .writing (by decide)).withBackend hpanel).count
      .backendFailures) _ _
  · have hdeadline : nowMs + e₂.refreshTimeoutMs = nowMs + e₁.refreshTimeoutMs := by
      rw [h.refreshTimeoutMs]
    rw [hdeadline]
    have hopened := (h.mapTxn (fun txn => { txn with
      state := .refreshing, refreshDeadlineMs := nowMs + e₁.refreshTimeoutMs }) (fun _ _ => rfl)
      fun hopen => by cases hopen.1).withBackend hpanel
    exact .replied ((hopened.withRefreshStarted nowMs).withHwOwned true) _

/-! ### Direct write -/

namespace Alike

lemma onDirectStart (h : Alike ℓ e₁ e₂) (p : Payload) (nowMs : UInt32) :
    Twin ℓ (e₁.onDirectStart p nowMs) (e₂.onDirectStart p nowMs) := by
  rw [TransferEngine.onDirectStart, TransferEngine.onDirectStart]
  by_cases hlen : p.len ≠ 0
  · rw [if_pos hlen, if_pos hlen]
    exact .refused h _ _
  rw [if_neg hlen, if_neg hlen, ← ℓ.capabilities h.panel]
  dsimp only
  have hbegin := h.beginTransaction .direct (capabilities e₁.backend).fullFrameBytes nowMs
  generalize e₁.beginTransaction .direct (capabilities e₁.backend).fullFrameBytes nowMs = begun₁,
    e₂.beginTransaction .direct (capabilities e₁.backend).fullFrameBytes nowMs = begun₂
    at hbegin ⊢
  obtain ⟨why₁, b₁⟩ := begun₁
  obtain ⟨why₂, b₂⟩ := begun₂
  rcases hbegin with hoff | hoff | ⟨hwhy, halike⟩
  · left
    rcases why₁ <;> exact hoff
  · right; left
    rcases why₂ <;> exact hoff
  · obtain rfl : why₁ = why₂ := hwhy
    rcases why₁ with _ | why
    · exact .of_alike halike fun hreport => by simp at hreport
    · exact .refused halike _ _

end Alike

namespace Alike

lemma acceptDirect (h : Alike ℓ e₁ e₂) (len : ℕ) (nowMs : UInt32) :
    Alike ℓ (e₁.acceptDirect len nowMs) (e₂.acceptDirect len nowMs) := by
  have hdeadline : nowMs + e₂.transferTimeoutMs = nowMs + e₁.transferTimeoutMs := by
    rw [h.transferTimeoutMs]
  rw [TransferEngine.acceptDirect, TransferEngine.acceptDirect, hdeadline]
  exact (h.mapTxn (fun txn => { txn with
    nextDirectOffset := txn.nextDirectOffset + UInt32.ofNat len
    acceptedBytes := txn.acceptedBytes + UInt32.ofNat len
    transferDeadlineMs := nowMs + e₁.transferTimeoutMs }) (fun _ _ => rfl)
    fun hopen => hopen).count .directPackets

lemma onDirectData (h : Alike ℓ e₁ e₂) (p : Payload) (nowMs : UInt32) :
    Twin ℓ (e₁.onDirectData p nowMs) (e₂.onDirectData p nowMs) := by
  have hoffset : e₂.txn.nextDirectOffset = e₁.txn.nextDirectOffset := h.read _ fun _ _ => rfl
  have hroom : e₂.txn.expectedFrameBytes - e₂.txn.acceptedBytes =
      e₁.txn.expectedFrameBytes - e₁.txn.acceptedBytes :=
    h.read (fun txn => txn.expectedFrameBytes - txn.acceptedBytes) fun _ _ => rfl
  rw [TransferEngine.onDirectData, TransferEngine.onDirectData, h.state, h.mode, hroom, hoffset]
  by_cases hplace : e₁.txn.state ≠ .receiving ∨ e₁.txn.mode ≠ .direct
  · rw [if_pos hplace, if_pos hplace]
    exact .refused h _ _
  rw [if_neg hplace, if_neg hplace]
  by_cases hbytes : p.isNull = true ∨ p.len = 0
  · rw [if_pos hbytes, if_pos hbytes]
    exact .aborted h _ _
  rw [if_neg hbytes, if_neg hbytes]
  by_cases hfit : (e₁.txn.expectedFrameBytes - e₁.txn.acceptedBytes).toNat < p.len
  · rw [if_pos hfit, if_pos hfit]
    exact .aborted h _ _
  rw [if_neg hfit, if_neg hfit]
  dsimp only
  rcases ℓ.writeContiguous e₁.txn.nextDirectOffset p.bytes h.panel with
    hoff | hoff | ⟨hanswer, hpanel⟩
  · left
    split_ifs
    · exact abort_backend ℓ.invariant₁.toQuietInvariant _ hoff
    · exact hoff
  · right; left
    split_ifs
    · exact abort_backend ℓ.invariant₂.toQuietInvariant _ hoff
    · exact hoff
  rw [hanswer]
  split_ifs
  · exact .aborted ((h.withBackend hpanel).count .backendFailures) _ _
  · exact .replied ((h.withBackend hpanel).acceptDirect _ _) _

lemma onDirectEnd (h : Alike ℓ e₁ e₂) (p : Payload) (nowMs : UInt32) :
    Twin ℓ (e₁.onDirectEnd p nowMs) (e₂.onDirectEnd p nowMs) := by
  rw [TransferEngine.onDirectEnd, TransferEngine.onDirectEnd, h.state, h.mode]
  split_ifs
  · exact .refused h _ _
  · exact h.finishAndRefresh _ _

/-! ### PIPE write -/

/-- Both sides come to the same terms. -/
lemma negotiate (h : Alike ℓ e₁ e₂) (window ackEvery : UInt8) (frame : UInt16) :
    Alike ℓ
      { e₁ with
        txn.negotiatedWindow := window
        txn.negotiatedAckEvery := ackEvery
        txn.negotiatedFrame := frame }
      { e₂ with
        txn.negotiatedWindow := window
        txn.negotiatedAckEvery := ackEvery
        txn.negotiatedFrame := frame } :=
  h.mapTxn (fun txn => { txn with
    negotiatedWindow := window
    negotiatedAckEvery := ackEvery
    negotiatedFrame := frame }) (fun _ _ => rfl) id

lemma onPipeStart (h : Alike ℓ e₁ e₂) (p : Payload) (nowMs : UInt32) :
    Twin ℓ (e₁.onPipeStart p nowMs) (e₂.onPipeStart p nowMs) := by
  rw [TransferEngine.onPipeStart, TransferEngine.onPipeStart]
  rcases parsePipeStart p with code | req
  · exact .refused h _ _
  dsimp only
  by_cases hflag : req.flags &&& pipeFlagCompressed ≠ 0
  · rw [if_pos hflag, if_pos hflag]
    exact .refused h _ _
  rw [if_neg hflag, if_neg hflag]
  have hbegin := h.beginTransaction .pipe req.totalSize nowMs
  generalize e₁.beginTransaction .pipe req.totalSize nowMs = begun₁,
    e₂.beginTransaction .pipe req.totalSize nowMs = begun₂ at hbegin ⊢
  obtain ⟨why₁, b₁⟩ := begun₁
  obtain ⟨why₂, b₂⟩ := begun₂
  rcases hbegin with hoff | hoff | ⟨hwhy, halike⟩
  · left
    rcases why₁ <;> exact hoff
  · right; left
    rcases why₂ <;> exact hoff
  · obtain rfl : why₁ = why₂ := hwhy
    rcases why₁ with _ | why
    · exact .of_alike (halike.negotiate _ _ _) fun hreport => by simp at hreport
    · exact .refused halike _ _

lemma stageTailSack (h : Alike ℓ e₁ e₂) : Alike ℓ e₁.stageTailSack e₂.stageTailSack := by
  rw [TransferEngine.stageTailSack, TransferEngine.stageTailSack, h.inorderSack]
  exact (h.mapTxn (fun txn => { txn with acceptedSinceAck := 0 }) (fun _ _ => rfl)
    fun hopen => hopen).withStaged _

lemma onPipeEnd (h : Alike ℓ e₁ e₂) (p : Payload) (nowMs : UInt32) :
    Twin ℓ (e₁.onPipeEnd p nowMs) (e₂.onPipeEnd p nowMs) := by
  have hsince : e₂.txn.acceptedSinceAck = e₁.txn.acceptedSinceAck := h.read _ fun _ _ => rfl
  rw [TransferEngine.onPipeEnd, TransferEngine.onPipeEnd, h.state, h.mode, hsince]
  split_ifs
  · exact .refused h _ _
  · exact h.stageTailSack.finishAndRefresh _ _
  · exact h.finishAndRefresh _ _

lemma concludeChunk (h : Alike ℓ e₁ e₂) (nowMs : UInt32) :
    Twin ℓ (e₁.concludeChunk nowMs) (e₂.concludeChunk nowMs) := by
  have hdone : (e₂.txn.expectedFrameBytes ≤ e₂.txn.acceptedBytes ∧ !e₂.txn.frame.compressed ∧
        !e₂.txn.frame.partialFrame) =
      (e₁.txn.expectedFrameBytes ≤ e₁.txn.acceptedBytes ∧ !e₁.txn.frame.compressed ∧
        !e₁.txn.frame.partialFrame) :=
    h.read (fun txn => txn.expectedFrameBytes ≤ txn.acceptedBytes ∧ !txn.frame.compressed ∧
      !txn.frame.partialFrame) fun _ _ => rfl
  have hcadence : (e₂.txn.negotiatedAckEvery ≤ e₂.txn.acceptedSinceAck) =
      (e₁.txn.negotiatedAckEvery ≤ e₁.txn.acceptedSinceAck) :=
    h.read (fun txn => txn.negotiatedAckEvery ≤ txn.acceptedSinceAck) fun _ _ => rfl
  simp only [TransferEngine.concludeChunk, hdone, hcadence]
  split_ifs
  · exact h.stageTailSack.finishAndRefresh _ _
  · exact .sacked (h.mapTxn (fun txn => { txn with acceptedSinceAck := 0 }) (fun _ _ => rfl)
      fun hopen => hopen)
  · exact .silent h

end Alike

/-- What holds before the end of `on_pipe_data` holds after it. -/
lemma concludeChunk_backend {β : Type} [OpenDisplayBackend β] [PanelWorld β ω] {P : β → Prop}
    (hP : QuietInvariant P) {e : TransferEngine β} (h : P e.backend) (nowMs : UInt32) :
    P (e.concludeChunk nowMs).2.backend := by
  have ho := e.concludeChunk_outcome nowMs
  generalize (e.concludeChunk nowMs).1 = res, (e.concludeChunk nowMs).2 = e' at ho ⊢
  cases ho with
  | completed _ _ _ hfinish =>
      have hstaged : P e.stageTailSack.backend := h
      exact hfinish.backend hP hstaged
  | sacked | silent => exact h

namespace Alike

/-- Both sides set the latch. -/
lemma withLatch (h : Alike ℓ e₁ e₂) :
    Alike ℓ { e₁ with txn.pipeFatal := true } { e₂ with txn.pipeFatal := true } := by
  obtain ⟨latch, htxn⟩ := h.txn
  refine { h with txn := ⟨true, ?_⟩, latch := fun _ => rfl }
  dsimp only
  rw [htxn]

lemma acceptPipe (h : Alike ℓ e₁ e₂) (seq : UInt8) (dataLen : ℕ) (nowMs : UInt32) :
    Alike ℓ (e₁.acceptPipe seq dataLen nowMs) (e₂.acceptPipe seq dataLen nowMs) := by
  have hdeadline : nowMs + e₂.transferTimeoutMs = nowMs + e₁.transferTimeoutMs := by
    rw [h.transferTimeoutMs]
  rw [TransferEngine.acceptPipe, TransferEngine.acceptPipe, hdeadline]
  exact (h.mapTxn (fun txn => { txn with
    acceptedBytes := txn.acceptedBytes + UInt32.ofNat dataLen
    highestSeen := seq
    nextPipeSequence := seq + 1
    acceptedPackets := txn.acceptedPackets + 1
    acceptedSinceAck := txn.acceptedSinceAck + 1
    transferDeadlineMs := nowMs + e₁.transferTimeoutMs }) (fun _ _ => rfl)
    fun hopen => hopen).count .pipePackets

/-- A chunk, where both sides have the same latch. -/
lemma onPipeData (h : Alike ℓ e₁ e₂) (hlatch : e₂.txn.pipeFatal = e₁.txn.pipeFatal) (p : Payload)
    (nowMs : UInt32) : Twin ℓ (e₁.onPipeData p nowMs) (e₂.onPipeData p nowMs) := by
  have hseen : e₂.txn.highestSeen = e₁.txn.highestSeen := h.read _ fun _ _ => rfl
  have hpackets : e₂.txn.acceptedPackets = e₁.txn.acceptedPackets := h.read _ fun _ _ => rfl
  have hnext : e₂.txn.nextPipeSequence = e₁.txn.nextPipeSequence := h.read _ fun _ _ => rfl
  have hoffset : e₂.txn.acceptedBytes = e₁.txn.acceptedBytes := h.read _ fun _ _ => rfl
  have hroom : e₂.txn.expectedFrameBytes - e₂.txn.acceptedBytes =
      e₁.txn.expectedFrameBytes - e₁.txn.acceptedBytes :=
    h.read (fun txn => txn.expectedFrameBytes - txn.acceptedBytes) fun _ _ => rfl
  rw [TransferEngine.onPipeData, TransferEngine.onPipeData]
  by_cases hfatal : e₁.txn.pipeFatal = true
  · rw [hlatch, if_pos hfatal, if_pos hfatal]
    exact .silent h
  have hfatal₂ : ¬ e₂.txn.pipeFatal = true := hlatch ▸ hfatal
  rw [if_neg hfatal, if_neg hfatal₂]
  by_cases hplace : e₁.txn.state ≠ .receiving ∨ e₁.txn.mode ≠ .pipe
  · have hplace₂ : e₂.txn.state ≠ .receiving ∨ e₂.txn.mode ≠ .pipe := by rwa [h.state, h.mode]
    rw [if_pos hplace, if_pos hplace₂, hseen, hpackets]
    exact .replied (h.withLatch.withError .invalidState) _
  have hplace₂ : ¬ (e₂.txn.state ≠ .receiving ∨ e₂.txn.mode ≠ .pipe) := by rwa [h.state, h.mode]
  rw [if_neg hplace, if_neg hplace₂]
  rcases hbytes : p.bytes with _ | ⟨seq, data⟩
  · exact .aborted h.withLatch _ _
  dsimp only
  by_cases hseq : seq ≠ e₁.txn.nextPipeSequence
  · have hseq₂ : seq ≠ e₂.txn.nextPipeSequence := hnext ▸ hseq
    rw [if_pos hseq, if_pos hseq₂, h.inorderSack]
    exact .replied (h.count .retransmitRequests) _
  have hseq₂ : ¬ seq ≠ e₂.txn.nextPipeSequence := hnext ▸ hseq
  rw [if_neg hseq, if_neg hseq₂]
  by_cases hfit : (e₁.txn.expectedFrameBytes - e₁.txn.acceptedBytes).toNat < data.length
  · have hfit₂ : (e₂.txn.expectedFrameBytes - e₂.txn.acceptedBytes).toNat < data.length := by
      rwa [hroom]
    rw [if_pos hfit, if_pos hfit₂, abort_txn, abort_txn]
    exact .aborted h.withLatch _ _
  have hfit₂ : ¬ (e₂.txn.expectedFrameBytes - e₂.txn.acceptedBytes).toNat < data.length := by
    rwa [hroom]
  rw [if_neg hfit, if_neg hfit₂]
  have hwrite : AnswersAlike ℓ.panel ℓ.off₁ ℓ.off₂
      (writeContiguous e₁.backend e₁.txn.acceptedBytes data)
      (writeContiguous e₂.backend e₂.txn.acceptedBytes data) :=
    hoffset ▸ ℓ.writeContiguous e₁.txn.acceptedBytes data h.panel
  rcases hwrite with hoff | hoff | ⟨hanswer, hpanel⟩
  · left
    split_ifs
    · exact abort_backend ℓ.invariant₁.toQuietInvariant _ hoff
    · exact concludeChunk_backend ℓ.invariant₁.toQuietInvariant hoff _
  · right; left
    split_ifs
    · exact abort_backend ℓ.invariant₂.toQuietInvariant _ hoff
    · exact concludeChunk_backend ℓ.invariant₂.toQuietInvariant hoff _
  rw [← hanswer]
  split_ifs
  · rw [abort_txn, abort_txn]
    exact .aborted ((h.withLatch.withBackend hpanel).count .backendFailures) _ _
  · exact ((h.withBackend hpanel).acceptPipe seq data.length nowMs).concludeChunk nowMs

/-! ### The loop -/

lemma checkDeadlines (h : Alike ℓ e₁ e₂) (nowMs : UInt32) :
    Twin ℓ (e₁.checkDeadlines nowMs) (e₂.checkDeadlines nowMs) := by
  have htransfer : e₂.txn.transferDeadlineMs = e₁.txn.transferDeadlineMs := h.read _ fun _ _ => rfl
  have hrefresh : e₂.txn.refreshDeadlineMs = e₁.txn.refreshDeadlineMs := h.read _ fun _ _ => rfl
  rw [TransferEngine.checkDeadlines, TransferEngine.checkDeadlines, h.state, htransfer, hrefresh]
  rcases e₁.txn.state with _ | _ | _ | _ | _ | _
  case idle | error => exact .silent h
  case refreshing =>
    dsimp only
    split_ifs
    · exact .aborted (h.count .refreshTimeouts) _ _
    · exact .silent h
  all_goals
    dsimp only
    split_ifs
    · exact .aborted h _ _
    · exact .silent h

end Alike

/-- What holds once the panel has been polled holds after `tick`. -/
lemma polled_backend {β : Type} [OpenDisplayBackend β] [PanelWorld β ω] {P : β → Prop}
    (hP : QuietInvariant P) {e : TransferEngine β} (hw : e.hwOwned = true)
    (h : P (pollRefresh e.backend).2) (nowMs : UInt32) : P (e.tick nowMs).2.backend := by
  have ho := e.tick_outcome nowMs
  generalize (e.tick nowMs).1 = res, (e.tick nowMs).2 = e' at ho ⊢
  have hpolled : ∀ {e₁}, Polled e e₁ → P e₁.backend := by
    intro e₁ hp
    cases hp with
    | free hfree => simp [hfree] at hw
    | pending => exact h
  cases ho with
  | complete | failed | released => exact h
  | waiting _ hp => exact hpolled hp
  | transferTimeout _ hp => exact abort_backend hP _ (hpolled hp)
  | refreshTimeout _ hp => apply abort_backend hP; exact (hpolled hp :)

namespace Alike

lemma tick (h : Alike ℓ e₁ e₂) (nowMs : UInt32) : Twin ℓ (e₁.tick nowMs) (e₂.tick nowMs) := by
  by_cases hw : e₁.hwOwned = true
  swap
  · rw [TransferEngine.tick, TransferEngine.tick, h.hwOwned, if_neg hw, if_neg hw]
    exact h.checkDeadlines nowMs
  rcases ℓ.pollRefresh h.panel with hoff | hoff | ⟨hanswer, hpanel⟩
  · exact .inl (polled_backend ℓ.invariant₁.toQuietInvariant hw hoff nowMs)
  · exact .inr (.inl (polled_backend ℓ.invariant₂.toQuietInvariant (h.hwOwned.trans hw) hoff nowMs))
  rw [TransferEngine.tick, TransferEngine.tick, if_pos hw, if_pos (h.hwOwned.trans hw)]
  dsimp only [releaseHardware]
  rw [← hanswer]
  have hpolled := h.withBackend hpanel
  by_cases hend : (pollRefresh e₁.backend).1 = .complete ∨ (pollRefresh e₁.backend).1 = .failed
  swap
  · rw [if_neg hend, if_neg hend]
    exact hpolled.checkDeadlines nowMs
  rw [if_pos hend, if_pos hend]
  by_cases hrefreshing : e₁.txn.state = .refreshing
  swap
  · have hrefreshing₂ : ¬ e₂.txn.state = .refreshing := h.state ▸ hrefreshing
    simp only [hrefreshing, hrefreshing₂, if_false]
    exact .silent (hpolled.withHwOwned false)
  simp only [hrefreshing, h.state.trans hrefreshing, if_true]
  split_ifs
  · exact .of_alike ((hpolled.withHwOwned false).reset.count .transfersOk) fun hreport => by
      simp at hreport
  · exact .refused ((hpolled.withHwOwned false).reset.count .backendFailures) _ _

end Alike

/-! ### The step -/

namespace Alike

/-- **One operation in lock step.**  The latch only matters to a chunk. -/
theorem perform (h : Alike ℓ e₁ e₂) (op : EngineOp ω)
    (hlatch : ∀ p now, op = .pipeData p now → e₂.txn.pipeFatal = e₁.txn.pipeFatal) :
    Twin ℓ (e₁.perform op) (e₂.perform op) := by
  cases op with
  | directStart p now => exact h.onDirectStart p now
  | directData p now => exact h.onDirectData p now
  | directEnd p now => exact h.onDirectEnd p now
  | pipeStart p now => exact h.onPipeStart p now
  | pipeData p now => exact h.onPipeData (hlatch p now rfl) p now
  | pipeEnd p now => exact h.onPipeEnd p now
  | tick now => exact h.tick now
  | abort error => exact .aborted h _ _
  | disconnect gen => exact .silent (h.onDisconnect gen)
  | setConnectionGeneration gen => exact .silent (h.withGeneration gen)
  | takeTailSack => exact .silent h.takeTailSack.2
  | world event => exact .silent (h.withBackend (ℓ.happen event h.panel))

omit [PanelWorld β₁ ω] [PanelWorld β₂ ω] in
/-- A chunk where no PIPE transfer is open changes nothing but the latch and the record of
the past. -/
lemma strayChunk {β : Type} [OpenDisplayBackend β] {e : TransferEngine β}
    (hplace : ¬ e.PipeReceiving) (p : Payload) (nowMs : UInt32) :
    ∃ latch error, (e.onPipeData p nowMs).2 =
      { e with lastError := error, txn.pipeFatal := latch } := by
  have ho := e.onPipeData_outcome p nowMs
  generalize (e.onPipeData p nowMs).1 = res, (e.onPipeData p nowMs).2 = e' at ho ⊢
  cases ho with
  | latched => exact ⟨_, _, rfl⟩
  | misplaced => exact ⟨true, .invalidState, rfl⟩
  | malformed _ hopen | outOfOrder _ hopen | oversize _ hopen | writeFailed _ hopen
  | accepted _ hopen => exact absurd hopen hplace

/-- Alike engines stay alike, or the panels go separate ways. -/
theorem step (h : Alike ℓ e₁ e₂) (op : EngineOp ω) :
    ℓ.off₁ (e₁.step op).backend ∨ ℓ.off₂ (e₂.step op).backend ∨
      Alike ℓ (e₁.step op) (e₂.step op) := by
  by_cases hlatch : ∀ p now, op = .pipeData p now → e₂.txn.pipeFatal = e₁.txn.pipeFatal
  · exact (h.perform op hlatch).imp_right (Or.imp_right fun hmatch => hmatch.2.1)
  -- a chunk that only one side is deaf to, where no PIPE transfer is open
  push Not at hlatch
  obtain ⟨p, now, rfl, hne⟩ := hlatch
  have hloose : ¬ (ℓ.latched ∨ e₁.PipeReceiving) := fun hl => hne (h.latch hl)
  have hplace : ¬ e₁.PipeReceiving := fun hp => hloose (Or.inr hp)
  have hplace₂ : ¬ e₂.PipeReceiving := by
    unfold PipeReceiving at hplace ⊢
    rwa [h.state, h.mode]
  obtain ⟨latch, htxn⟩ := h.txn
  obtain ⟨l₁, error₁, h₁⟩ := strayChunk hplace p now
  obtain ⟨l₂, error₂, h₂⟩ := strayChunk hplace₂ p now
  refine .inr (.inr ?_)
  change Alike ℓ (e₁.onPipeData p now).2 (e₂.onPipeData p now).2
  rw [h₁, h₂]
  refine { h with past := ?_, txn := ⟨l₂, ?_⟩, latch := fun hl => absurd hl hloose }
  · exact ℓ.latched_or.resolve_left (fun hl => hloose (Or.inl hl)) _ _
  · dsimp only
    rw [htxn]

end Alike

end TransferEngine

end OpenDisplay
