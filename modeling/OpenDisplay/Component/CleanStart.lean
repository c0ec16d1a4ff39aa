import OpenDisplay.Component.Respond
import OpenDisplay.Backend.Scripted

/-!
# A START wipes the slate

Whatever the component has been through, an accepted START of a full frame leaves nothing
of it that could be told later.  Two components with any two histories, given the same
START and then the same stimuli and the same answers of the panel, return the same results
and hold the same transfer at every moment.

A START does not wipe the record of the past: the statistics go on counting, and the error
code, the time of the last refresh and the buffer of the staged SACK stay until they are
next written.  From the START on, though, both sides record the same.
-/

namespace OpenDisplay

open OpenDisplayBackend

/-! ### Recording the same -/

/-- What the counters have gone up by since `s₀`. -/
def TransferStats.since (s s₀ : TransferStats) : TransferStats where
  transfersOk := s.transfersOk - s₀.transfersOk
  transfersAborted := s.transfersAborted - s₀.transfersAborted
  directPackets := s.directPackets - s₀.directPackets
  pipePackets := s.pipePackets - s₀.pipePackets
  retransmitRequests := s.retransmitRequests - s₀.retransmitRequests
  queueOverflows := s.queueOverflows - s₀.queueOverflows
  backendFailures := s.backendFailures - s₀.backendFailures
  refreshTimeouts := s.refreshTimeouts - s₀.refreshTimeouts
  queueHighWater := s.queueHighWater - s₀.queueHighWater

lemma TransferStats.since_count (s s₀ : TransferStats) (c : Counter) :
    (s.count c).since s₀ = (s.since s₀).count c := by
  cases c <;> simp [count, since, sub_add_eq_add_sub]

/-- A part of the record is equal on both sides, or neither side has written it yet. -/
def SameSince {α : Type} (x₁ x₂ y₁ y₂ : α) : Prop := y₁ = y₂ ∨ y₁ = x₁ ∧ y₂ = x₂

/-- From the records `x₁` and `x₂` on, the two sides have recorded the same. -/
structure RecordedSame (x₁ x₂ y₁ y₂ : History) : Prop where
  stats : y₁.stats.since x₁.stats = y₂.stats.since x₂.stats
  lastError : SameSince x₁.lastError x₂.lastError y₁.lastError y₂.lastError
  refreshStartedMs :
    SameSince x₁.refreshStartedMs x₂.refreshStartedMs y₁.refreshStartedMs y₂.refreshStartedMs
  pendingTailSack :
    SameSince x₁.pendingTailSack x₂.pendingTailSack y₁.pendingTailSack y₂.pendingTailSack

lemma recordedSame_refl (x₁ x₂ : History) : RecordedSame x₁ x₂ x₁ x₂ where
  stats := by simp [TransferStats.since]
  lastError := .inr ⟨rfl, rfl⟩
  refreshStartedMs := .inr ⟨rfl, rfl⟩
  pendingTailSack := .inr ⟨rfl, rfl⟩

lemma keepsStep_recordedSame (x₁ x₂ : History) : KeepsStep (RecordedSame x₁ x₂) where
  count c h := { h with
    stats := by rw [TransferStats.since_count, TransferStats.since_count, h.stats] }
  lastError _ h := { h with lastError := .inl rfl }
  refreshStartedMs _ h := { h with refreshStartedMs := .inl rfl }
  pendingTailSack _ h := { h with pendingTailSack := .inl rfl }

/-! ### Panels on a common course -/

section CommonCourse

variable {β₁ β₂ ω : Type} [OpenDisplayBackend β₁] [PanelWorld β₁ ω] [OpenDisplayBackend β₂]
  [PanelWorld β₂ ω] [FixedCapabilities β₁] [FixedCapabilities β₂]

/-- The panels have the same capabilities and have been called alike since the calls
`calls₁` and `calls₂`. -/
structure CalledAlike (caps : DisplayCapabilities) (calls₁ calls₂ : List BackendCall)
    (r₁ : Recorder β₁) (r₂ : Recorder β₂) : Prop where
  capabilities₁ : capabilities r₁ = caps
  capabilities₂ : capabilities r₂ = caps
  calls_eq : ∃ calls, r₁.calls = calls₁ ++ calls ∧ r₂.calls = calls₂ ++ calls

/-- The panel has given other answers since the calls `calls` than these. -/
def Strayed {β : Type} (calls : List BackendCall) (answers : List (BackendResult ⊕ PollResult))
    (r : Recorder β) : Prop :=
  ¬ answersOf r.calls <+: answersOf calls ++ answers

lemma backendInvariant_strayed {β : Type} [OpenDisplayBackend β] [PanelWorld β ω]
    (calls : List BackendCall) (answers : List (BackendResult ⊕ PollResult)) :
    BackendInvariant (Strayed (β := β) calls answers) :=
  Recorder.backendInvariant_calls
    (P := fun made => ¬ answersOf made <+: answersOf calls ++ answers) fun made call hne hprefix =>
      hne (List.IsPrefix.trans (by simp) hprefix)

variable {caps : DisplayCapabilities} {calls₁ calls₂ : List BackendCall}
  {answers : List (BackendResult ⊕ PollResult)} {r₁ : Recorder β₁} {r₂ : Recorder β₂}

omit [PanelWorld β₁ ω] [PanelWorld β₂ ω] [FixedCapabilities β₁] [FixedCapabilities β₂] in
/-- Two panels on a common course answer a call alike, or one of them strays. -/
lemma CalledAlike.answersAlike (h : CalledAlike caps calls₁ calls₂ r₁ r₂) {α : Type}
    {x : α × Recorder β₁} {y : α × Recorder β₂} (call : α → BackendCall)
    {answer : α → BackendResult ⊕ PollResult} (hcall : ∀ a, (call a).answer = some (answer a))
    (hinj : Function.Injective answer) (hx : x.2.calls = r₁.calls ++ [call x.1])
    (hy : y.2.calls = r₂.calls ++ [call y.1]) (hcaps₁ : capabilities x.2 = caps)
    (hcaps₂ : capabilities y.2 = caps) :
    AnswersAlike (CalledAlike caps calls₁ calls₂) (Strayed calls₁ answers)
      (Strayed calls₂ answers) x y := by
  obtain ⟨calls, h₁, h₂⟩ := h.calls_eq
  by_cases heq : x.1 = y.1
  · exact .inr (.inr ⟨heq, hcaps₁, hcaps₂, calls ++ [call x.1], by rw [hx, h₁, List.append_assoc],
      by rw [hy, h₂, List.append_assoc, heq]⟩)
  · -- two answers that differ can not both be the next one
    by_contra hboth
    simp only [AnswersAlike, Strayed, not_or, not_not] at hboth
    obtain ⟨hpre₁, hpre₂, -⟩ := hboth
    have hnext : ∀ a, answersOf [call a] = [answer a] := fun a => by simp [answersOf, hcall]
    rw [hx, h₁, answersOf_append, answersOf_append, hnext, List.append_assoc,
      List.prefix_append_right_inj] at hpre₁
    rw [hy, h₂, answersOf_append, answersOf_append, hnext, List.append_assoc,
      List.prefix_append_right_inj] at hpre₂
    have hsame := List.prefix_of_prefix_length_le hpre₁ hpre₂ (by simp)
    rw [List.prefix_append_right_inj] at hsame
    exact heq (hinj (List.singleton_injective (hsame.eq_of_length rfl)))

/-- The likeness of two engines from the calls `calls₁` and `calls₂` and the records `x₁` and
`x₂` on, for as long as their panels give these answers. -/
def commonCourse (caps : DisplayCapabilities) (calls₁ calls₂ : List BackendCall)
    (answers : List (BackendResult ⊕ PollResult)) (x₁ x₂ : History) :
    Likeness (Recorder β₁) (Recorder β₂) where
  panel := CalledAlike caps calls₁ calls₂
  off₁ := Strayed calls₁ answers
  off₂ := Strayed calls₂ answers
  past := RecordedSame x₁ x₂
  latched := True
  invariant₁ := backendInvariant_strayed calls₁ answers
  invariant₂ := backendInvariant_strayed calls₂ answers
  keepsStep := keepsStep_recordedSame x₁ x₂
  latched_or := .inl trivial
  capabilities h := h.capabilities₁.trans h.capabilities₂.symm
  beginFrame f h := h.answersAlike (.beginFrame f) (fun _ => rfl) Sum.inl_injective rfl rfl
    ((FixedCapabilities.fixed caps).beginFrame f h.capabilities₁)
    ((FixedCapabilities.fixed caps).beginFrame f h.capabilities₂)
  writeContiguous o d h := h.answersAlike (.writeContiguous o d) (fun _ => rfl)
    Sum.inl_injective rfl rfl ((FixedCapabilities.fixed caps).writeContiguous o d h.capabilities₁)
    ((FixedCapabilities.fixed caps).writeContiguous o d h.capabilities₂)
  finishFrame h := h.answersAlike .finishFrame (fun _ => rfl) Sum.inl_injective rfl rfl
    ((FixedCapabilities.fixed caps).finishFrame h.capabilities₁)
    ((FixedCapabilities.fixed caps).finishFrame h.capabilities₂)
  beginRefresh r h := h.answersAlike .beginRefresh (fun _ => rfl) Sum.inl_injective rfl
    rfl ((FixedCapabilities.fixed caps).beginRefresh r h.capabilities₁)
    ((FixedCapabilities.fixed caps).beginRefresh r h.capabilities₂)
  pollRefresh h := h.answersAlike .pollRefresh (fun _ => rfl) Sum.inr_injective rfl rfl
    ((FixedCapabilities.fixed caps).pollRefresh h.capabilities₁)
    ((FixedCapabilities.fixed caps).pollRefresh h.capabilities₂)
  abortTransfer h := {
    capabilities₁ := (FixedCapabilities.fixed caps).abortTransfer h.capabilities₁
    capabilities₂ := (FixedCapabilities.fixed caps).abortTransfer h.capabilities₂
    calls_eq := by
      obtain ⟨calls, h₁, h₂⟩ := h.calls_eq
      exact ⟨calls ++ [.abortTransfer], by simp [h₁], by simp [h₂]⟩ }
  happen w h := {
    capabilities₁ := (FixedCapabilities.fixed caps).happen w h.capabilities₁
    capabilities₂ := (FixedCapabilities.fixed caps).happen w h.capabilities₂
    calls_eq := h.calls_eq }

end CommonCourse

/-! ### The START -/

/-- A well-formed START of a full frame: a direct one without payload, or a PIPE one with an
acceptable header, uncompressed, for `full` bytes. -/
def FullStart {ω : Type} (full : UInt32) : EngineOp ω → Prop
  | .directStart p _ => p.len = 0
  | .pipeStart p _ => ∃ req, parsePipeStart p = .ok req ∧
      req.flags &&& pipeFlagCompressed = 0 ∧ req.totalSize = full
  | _ => False

namespace TransferEngine

variable {β ω : Type} [OpenDisplayBackend β] [PanelWorld β ω] {e : TransferEngine β}

/-- The engine with the transfer in flight aborted, the frame begun and another transaction
open. -/
def begun (e : TransferEngine β) (caps : DisplayCapabilities) (txn : Transaction) :
    TransferEngine β :=
  { e.cleared with backend := (beginFrame e.cleared.backend (fullFrame caps)).2, txn := txn }

omit [OpenDisplayBackend β] [PanelWorld β ω] in
lemma takeTailSack_history (e : TransferEngine β) : e.takeTailSack.2.history = e.history := by
  unfold takeTailSack; split_ifs <;> rfl

/-- On a free panel that takes the frame, the transaction is opened. -/
lemma beginTransaction_of_ok (hw : e.hwOwned = false) {caps : DisplayCapabilities}
    (hcaps : capabilities e.cleared.backend = caps)
    (hok : (beginFrame e.cleared.backend (fullFrame caps)).1 = .ok) (mode : TransferMode)
    (nowMs : UInt32) :
    e.beginTransaction mode caps.fullFrameBytes nowMs = (none, e.begun caps
      (e.cleared.openedTxn mode caps.fullFrameBytes nowMs (fullFrame caps))) := by
  subst hcaps
  rw [beginTransaction, if_neg (by simp [hw])]
  dsimp only
  rw [if_neg (not_not_intro rfl)]
  exact if_neg (not_not_intro hok)

omit [PanelWorld β ω] in
lemma cleared_kept (e : TransferEngine β) :
    e.cleared.transferTimeoutMs = e.transferTimeoutMs ∧
      e.cleared.refreshTimeoutMs = e.refreshTimeoutMs ∧
      e.cleared.connectionGeneration = e.connectionGeneration ∧
      e.cleared.hasTailSack = e.hasTailSack := by
  unfold cleared
  split_ifs <;> simp

end TransferEngine

section Start

open TransferEngine

variable {β₁ β₂ ω : Type} [OpenDisplayBackend β₁] [PanelWorld β₁ ω] [OpenDisplayBackend β₂]
  [PanelWorld β₂ ω] [FixedCapabilities β₁] [FixedCapabilities β₂]
  {e₁ : TransferEngine (Recorder β₁)} {e₂ : TransferEngine (Recorder β₂)}
  {caps : DisplayCapabilities}

/-- Two engines that can take the same START of a full frame, whatever they have been through:
both panels are free, have the same capabilities and answer `begin_frame` with OK, and the
timeouts and the generation are the same. -/
structure BothReady (caps : DisplayCapabilities) (e₁ : TransferEngine (Recorder β₁))
    (e₂ : TransferEngine (Recorder β₂)) : Prop where
  free₁ : e₁.hwOwned = false
  free₂ : e₂.hwOwned = false
  capabilities₁ : capabilities e₁.backend = caps
  capabilities₂ : capabilities e₂.backend = caps
  transferTimeoutMs : e₂.transferTimeoutMs = e₁.transferTimeoutMs
  refreshTimeoutMs : e₂.refreshTimeoutMs = e₁.refreshTimeoutMs
  connectionGeneration : e₂.connectionGeneration = e₁.connectionGeneration
  begins₁ : (beginFrame e₁.cleared.backend (fullFrame caps)).1 = .ok
  begins₂ : (beginFrame e₂.cleared.backend (fullFrame caps)).1 = .ok

/-- Clearing does not change what the panel can do. -/
lemma cleared_capabilities {β : Type} [OpenDisplayBackend β] [PanelWorld β ω]
    [FixedCapabilities β] {e : TransferEngine β} (h : capabilities e.backend = caps) :
    capabilities e.cleared.backend = caps :=
  cleared_backend (FixedCapabilities.fixed caps).toQuietInvariant h

namespace BothReady

/-- With the same transaction opened on both sides, the engines are alike. -/
lemma alike_begun (h : BothReady caps e₁ e₂) (htail₁ : e₁.hasTailSack = false)
    (htail₂ : e₂.hasTailSack = false) {txn₁ txn₂ : Transaction} (htxn : txn₂ = txn₁)
    (answers : List (BackendResult ⊕ PollResult)) :
    Alike (commonCourse caps (e₁.begun caps txn₁).backend.calls (e₂.begun caps txn₂).backend.calls
        answers (e₁.begun caps txn₁).history (e₂.begun caps txn₂).history)
      (e₁.begun caps txn₁) (e₂.begun caps txn₂) := by
  obtain ⟨htransfer₁, hrefresh₁, hgen₁, hstaged₁⟩ := cleared_kept e₁
  obtain ⟨htransfer₂, hrefresh₂, hgen₂, hstaged₂⟩ := cleared_kept e₂
  subst htxn
  exact {
    panel := {
      capabilities₁ := (FixedCapabilities.fixed caps).beginFrame _
        (cleared_capabilities h.capabilities₁)
      capabilities₂ := (FixedCapabilities.fixed caps).beginFrame _
        (cleared_capabilities h.capabilities₂)
      calls_eq := ⟨[], (List.append_nil _).symm, (List.append_nil _).symm⟩ }
    past := recordedSame_refl _ _
    txn := ⟨_, rfl⟩
    latch := fun _ => rfl
    hwOwned := by simp [begun, h.free₁, h.free₂]
    transferTimeoutMs := htransfer₂.trans (h.transferTimeoutMs.trans htransfer₁.symm)
    refreshTimeoutMs := hrefresh₂.trans (h.refreshTimeoutMs.trans hrefresh₁.symm)
    connectionGeneration := hgen₂.trans (h.connectionGeneration.trans hgen₁.symm)
    hasTailSack := (hstaged₂.trans htail₂).trans (hstaged₁.trans htail₁).symm
    staged := fun hstaged => by
      have hnone : (e₁.begun caps txn₂).hasTailSack = false := hstaged₁.trans htail₁
      simp [hnone] at hstaged }

/-- The same transaction is opened on both sides. -/
lemma openedTxn_eq (h : BothReady caps e₁ e₂) (mode : TransferMode) (nowMs : UInt32) :
    e₂.cleared.openedTxn mode caps.fullFrameBytes nowMs (fullFrame caps) =
      e₁.cleared.openedTxn mode caps.fullFrameBytes nowMs (fullFrame caps) := by
  obtain ⟨htransfer₁, -, hgen₁, -⟩ := cleared_kept e₁
  obtain ⟨htransfer₂, -, hgen₂, -⟩ := cleared_kept e₂
  rw [openedTxn, openedTxn, htransfer₁, htransfer₂, hgen₁, hgen₂, h.transferTimeoutMs,
    h.connectionGeneration]

/-- **The START**: it is accepted on both sides with the same response, and from then on the
engines are alike. -/
theorem start (h : BothReady caps e₁ e₂) (htail₁ : e₁.hasTailSack = false)
    (htail₂ : e₂.hasTailSack = false) {op : EngineOp ω}
    (hstart : FullStart caps.fullFrameBytes op) (answers : List (BackendResult ⊕ PollResult)) :
    (∃ r, (e₁.perform op).1 = { response := r, transferStarted := true } ∧
        (e₂.perform op).1 = { response := r, transferStarted := true }) ∧
      Alike (commonCourse caps (e₁.step op).backend.calls (e₂.step op).backend.calls answers
        (e₁.step op).history (e₂.step op).history) (e₁.step op) (e₂.step op) := by
  have hbegin₁ := fun mode now => beginTransaction_of_ok h.free₁
    (cleared_capabilities h.capabilities₁) h.begins₁ mode now
  have hbegin₂ := fun mode now => beginTransaction_of_ok h.free₂
    (cleared_capabilities h.capabilities₂) h.begins₂ mode now
  cases op with
  | directStart p now =>
      have hlen : ¬ p.len ≠ 0 := not_not_intro hstart
      simp only [step, perform, onDirectStart, if_neg hlen, h.capabilities₁, h.capabilities₂,
        hbegin₁, hbegin₂]
      exact ⟨⟨_, rfl, rfl⟩, h.alike_begun htail₁ htail₂ (h.openedTxn_eq .direct now) answers⟩
  | pipeStart p now =>
      obtain ⟨req, hparse, hflag, hsize⟩ := hstart
      simp only [step, perform, onPipeStart, hparse, if_neg (not_not_intro hflag), hsize, hbegin₁,
        hbegin₂]
      have hbegun := h.alike_begun htail₁ htail₂ (h.openedTxn_eq .pipe now) answers
      exact ⟨⟨_, rfl, rfl⟩, hbegun.negotiate _ _ _⟩
  | directData | directEnd | pipeData | pipeEnd | tick | abort | disconnect
  | setConnectionGeneration | takeTailSack | world => exact hstart.elim

end BothReady

end Start

/-! ### What is seen from outside -/

/-- What an engine decides by, its panel apart. -/
structure Slate where
  txn : Transaction
  hwOwned : Bool
  transferTimeoutMs : UInt32
  refreshTimeoutMs : UInt32
  connectionGeneration : UInt32
  hasTailSack : Bool
deriving DecidableEq

def TransferEngine.slate {β : Type} (e : TransferEngine β) : Slate where
  txn := e.txn
  hwOwned := e.hwOwned
  transferTimeoutMs := e.transferTimeoutMs
  refreshTimeoutMs := e.refreshTimeoutMs
  connectionGeneration := e.connectionGeneration
  hasTailSack := e.hasTailSack

namespace OpenDisplayComponent

open TransferEngine (Alike)

section Answers

variable {β ω : Type} [OpenDisplayBackend β] [PanelWorld β ω]

/-- What there is to see of a stimulus: what the engine tells, and the engine afterwards. -/
def sight (c : OpenDisplayComponent β) (s : Stimulus ω) : List (Option Told × Slate) :=
  [(c.told s, (c.after s).engine.slate)]

/-- The answers of the panel in a run from `c` on. -/
def answersIn (c : OpenDisplayComponent (Recorder β)) (ss : List (Stimulus ω)) :
    List (BackendResult ⊕ PollResult) :=
  answersOf ((Machine.exec after c ss).engine.backend.calls.drop c.engine.backend.calls.length)

end Answers

section LockStep

variable {β₁ β₂ ω : Type} [OpenDisplayBackend β₁] [PanelWorld β₁ ω] [OpenDisplayBackend β₂]
  [PanelWorld β₂ ω] {ℓ : Likeness β₁ β₂} {c₁ : OpenDisplayComponent β₁}
  {c₂ : OpenDisplayComponent β₂}

lemma slate_eq (hlatched : ℓ.latched) {e₁ : TransferEngine β₁} {e₂ : TransferEngine β₂}
    (h : Alike ℓ e₁ e₂) : e₁.slate = e₂.slate := by
  rw [TransferEngine.slate, TransferEngine.slate, h.txn_eq (Or.inl hlatched), h.hwOwned,
    h.transferTimeoutMs, h.refreshTimeoutMs, h.connectionGeneration, h.hasTailSack]

/-- The step lemma: the same is seen on both sides, which stay alike. -/
lemma sight_eq (hlatched : ℓ.latched) (h : Alike ℓ c₁.engine c₂.engine)
    (htail : c₁.engine.hasTailSack = false) (s : Stimulus ω) :
    ℓ.off₁ (c₁.after s).engine.backend ∨ ℓ.off₂ (c₂.after s).engine.backend ∨
      c₁.sight s = c₂.sight s ∧ Alike ℓ (c₁.after s).engine (c₂.after s).engine := by
  rcases alike_after h htail s with hoff | hoff | hafter
  · exact .inl hoff
  · exact .inr (.inl hoff)
  rcases told_eq h htail (s := s) fun _ _ _ => h.latch (Or.inl hlatched) with hoff | hoff | htold
  · exact .inl hoff
  · exact .inr (.inl hoff)
  · exact .inr (.inr ⟨by rw [sight, sight, htold, slate_eq hlatched hafter], hafter⟩)

/-- The run lemma. -/
lemma sights_eq (hlatched : ℓ.latched) (h : Alike ℓ c₁.engine c₂.engine)
    (htail : c₁.engine.hasTailSack = false) (ss : List (Stimulus ω)) :
    ℓ.off₁ (Machine.exec after c₁ ss).engine.backend ∨
      ℓ.off₂ (Machine.exec after c₂ ss).engine.backend ∨
      Machine.outputs after sight c₁ ss = Machine.outputs after sight c₂ ss ∧
        Alike ℓ (Machine.exec after c₁ ss).engine (Machine.exec after c₂ ss).engine := by
  induction ss generalizing c₁ c₂ with
  | nil => exact .inr (.inr ⟨rfl, h⟩)
  | cons s ss ih =>
      have htail₁ := after_hasTailSack htail s
      have htail₂ := after_hasTailSack (h.hasTailSack.trans htail) s
      rcases sight_eq hlatched h htail s with hoff | hoff | ⟨hsight, hafter⟩
      -- who has left the common course does not come back to it
      · exact .inl (exec_after_backend ℓ.invariant₁ htail₁ hoff ss)
      · exact .inr (.inl (exec_after_backend ℓ.invariant₂ htail₂ hoff ss))
      · refine (ih hafter htail₁).imp_right (Or.imp_right fun hrest => ⟨?_, hrest.2⟩)
        rw [Machine.outputs_cons, Machine.outputs_cons, hsight, hrest.1]

end LockStep

section Slate

variable {β₁ β₂ ω : Type} [OpenDisplayBackend β₁] [PanelWorld β₁ ω] [OpenDisplayBackend β₂]
  [PanelWorld β₂ ω] [FixedCapabilities β₁] [FixedCapabilities β₂] {caps : DisplayCapabilities}

/-- The component reaches this state from `setup`. -/
def Reachable {β : Type} [OpenDisplayBackend β] [PanelWorld β ω]
    (c : OpenDisplayComponent (Recorder β)) : Prop :=
  ∃ (b : β) (settings : ComponentSettings) (temperature : Int) (ops : List (ComponentOp ω)),
    c = Machine.exec step (setup (Recorder.fresh b) settings temperature).2 ops

omit [FixedCapabilities β₁] in
lemma Reachable.no_tail {c : OpenDisplayComponent (Recorder β₁)} (h : Reachable c) :
    c.engine.hasTailSack = false := by
  obtain ⟨b, settings, temperature, ops, rfl⟩ := h
  exact (Machine.exec_invariant
    (I := fun c : OpenDisplayComponent (Recorder β₁) => Settled c.engine)
    (fun _ op h => h.step op) (settled_setup _ settings temperature) ops).staged

omit [FixedCapabilities β₁] in
/-- A run that gives its own answers does not stray. -/
lemma not_strayed (c : OpenDisplayComponent (Recorder β₁)) (htail : c.engine.hasTailSack = false)
    (ss : List (Stimulus ω)) :
    ¬ Strayed c.engine.backend.calls (c.answersIn ss) (Machine.exec after c ss).engine.backend := by
  have hgrow : c.engine.backend.calls <+: (Machine.exec after c ss).engine.backend.calls :=
    exec_after_backend (Recorder.backendInvariant_calls
      (P := fun calls => c.engine.backend.calls <+: calls)
      fun calls call hpre => hpre.trans (List.prefix_append _ _)) htail (List.prefix_refl _) ss
  obtain ⟨calls, hcalls⟩ := hgrow
  rw [Strayed, not_not, answersIn, ← hcalls, List.drop_left, answersOf_append]

/-- **A START wipes the slate.**  Two components that have come from anywhere are given the
same START of a full frame.  Both accept it with the same response.  From then on, after
every list of stimuli at which the panels have given the same answers, the same has been
told by both engines at every stimulus, with the same SACKs staged and the same errors
reported; the engines have agreed after every stimulus in all that they decide by; and both
have recorded the same since the START. -/
theorem start_wipes_slate {c₁ : OpenDisplayComponent (Recorder β₁)}
    {c₂ : OpenDisplayComponent (Recorder β₂)} (hreach₁ : Reachable c₁) (hreach₂ : Reachable c₂)
    (hready : BothReady caps c₁.engine c₂.engine) {pkt : RxPacket} {now : UInt32}
    {op : EngineOp ω} (hop : (Stimulus.packet pkt now : Stimulus ω).engineOp = some op)
    (hstart : FullStart caps.fullFrameBytes op) :
    let start : Stimulus ω := .packet pkt now
    (∃ t, c₁.told start = some t ∧ c₂.told start = some t ∧ t.result.transferStarted = true) ∧
      (c₁.after start).engine.slate = (c₂.after start).engine.slate ∧
      ∀ ss, (c₁.after start).answersIn ss = (c₂.after start).answersIn ss →
        Machine.outputs after sight (c₁.after start) ss =
            Machine.outputs after sight (c₂.after start) ss ∧
          RecordedSame (c₁.after start).engine.history (c₂.after start).engine.history
            (Machine.exec after (c₁.after start) ss).engine.history
            (Machine.exec after (c₂.after start) ss).engine.history := by
  intro start
  have htail₁ := hreach₁.no_tail
  have htail₂ := hreach₂.no_tail
  have hafter₁ : (c₁.after start).engine = (c₁.engine.step op).takeTailSack.2 := by
    rw [engine_after c₁ htail₁, hop]
  have hafter₂ : (c₂.after start).engine = (c₂.engine.step op).takeTailSack.2 := by
    rw [engine_after c₂ htail₂, hop]
  have halike : ∀ answers, Alike (commonCourse caps (c₁.after start).engine.backend.calls
      (c₂.after start).engine.backend.calls answers (c₁.after start).engine.history
      (c₂.after start).engine.history) (c₁.after start).engine (c₂.after start).engine := by
    intro answers
    rw [hafter₁, hafter₂, TransferEngine.takeTailSack_backend, TransferEngine.takeTailSack_backend,
      TransferEngine.takeTailSack_history, TransferEngine.takeTailSack_history]
    exact (hready.start htail₁ htail₂ hstart answers).2.takeTailSack.2
  refine ⟨?_, slate_eq trivial (halike []), fun ss hanswers => ?_⟩
  · obtain ⟨⟨r, hres₁, hres₂⟩, hstep⟩ := hready.start htail₁ htail₂ hstart []
    have htaken := hstep.takeTailSack.1
    refine ⟨⟨{ response := r, transferStarted := true },
      (c₁.engine.step op).takeTailSack.1, none⟩, ?_, ?_, rfl⟩
    · rw [told, hop, Option.map_some, hres₁]
      rfl
    · rw [told, hop, Option.map_some, hres₂, htaken]
      rfl
  · have hrun := sights_eq trivial (halike ((c₁.after start).answersIn ss))
      (after_hasTailSack htail₁ start) ss
    rcases hrun with hoff | hoff | ⟨hsights, hfinal⟩
    · exact absurd hoff (not_strayed _ (after_hasTailSack htail₁ start) ss)
    · rw [hanswers] at hoff
      exact absurd hoff (not_strayed _ (after_hasTailSack htail₂ start) ss)
    · exact ⟨hsights, hfinal.past⟩

end Slate

/-! ### Two histories -/

/-- A component to which a client has just connected. -/
def untouched : OpenDisplayComponent (Recorder ScriptedPanel) :=
  Machine.exec step
    (setup (Recorder.fresh (ScriptedPanel.accepting 3 [.complete])) defaultSettings 80).2
    [.bleConnect]

/-- The same, with a transfer that was begun and aborted. -/
def abortedBefore : OpenDisplayComponent (Recorder ScriptedPanel) :=
  Machine.exec step
    (setup (Recorder.fresh (ScriptedPanel.accepting 3 [.complete])) defaultSettings 80).2
    ([.bleConnect, .bleWrite [0x00, 0x70] 0] ++ loopParts 2 0 ++ [.abort])

lemma reachable_untouched : Reachable untouched := ⟨_, _, _, _, rfl⟩

lemma reachable_abortedBefore : Reachable abortedBefore := ⟨_, _, _, _, rfl⟩

lemma bothReady_abortedBefore :
    BothReady { fullFrameBytes := 3 } untouched.engine abortedBefore.engine where
  free₁ := by decide +kernel
  free₂ := by decide +kernel
  capabilities₁ := by decide +kernel
  capabilities₂ := by decide +kernel
  transferTimeoutMs := by decide +kernel
  refreshTimeoutMs := by decide +kernel
  connectionGeneration := by decide +kernel
  begins₁ := by decide +kernel
  begins₂ := by decide +kernel

def directStart : RxPacket := .ofBytes [0x00, 0x70]

/-- A frame of three bytes, shown after a direct START. -/
def restOfTransfer : List (Stimulus Unit) :=
  [.packet .directData 0, .packet .directEnd 0, .tick 1]

lemma engineOp_directStart : (Stimulus.packet directStart 0 : Stimulus Unit).engineOp =
    some (.directStart (.ofBytes []) 0) := rfl

/-- After an abort and without one, the same transfer goes the same way. -/
theorem start_wipes_slate_abortedBefore :
    Machine.outputs after sight (untouched.after (.packet directStart 0)) restOfTransfer =
      Machine.outputs after sight (abortedBefore.after (.packet directStart 0)) restOfTransfer :=
  ((start_wipes_slate reachable_untouched reachable_abortedBefore bothReady_abortedBefore
    engineOp_directStart rfl).2.2 restOfTransfer (by decide +kernel)).1

/-- What a START does not wipe: at the end of the same transfer the error code and the
statistics still tell on which side one had been aborted before. -/
example :
    let atEnd := fun c : OpenDisplayComponent (Recorder ScriptedPanel) =>
      (Machine.exec after (c.after (.packet directStart 0)) restOfTransfer).engine
    (atEnd untouched).lastError = .none ∧ (atEnd abortedBefore).lastError = .invalidState ∧
      (atEnd untouched).stats.transfersAborted = 0 ∧
      (atEnd abortedBefore).stats.transfersAborted = 1 := by
  decide +kernel

end OpenDisplayComponent

end OpenDisplay
