import OpenDisplay.Component.Respond
import OpenDisplay.Backend.Scripted

/-!
# Unrelated packets

A packet that is none of a transfer's business is answered and leaves no trace in it: no
backend is called, and of the engine only the statistics, the error code and, while no
PIPE transfer is open, the latch change.  None of these is ever read by the transfer, so
that packets put in anywhere into a transfer leave its calls, its results and its outcome
as they are without them.
-/

namespace OpenDisplay

variable {β ω : Type} [OpenDisplayBackend β] [PanelWorld β ω]

open OpenDisplayBackend

/-! ### Bystanders -/

namespace TransferEngine

/-- A frame that is no START, and to a transfer that receives neither DATA nor END of its
mode, an out-of-sequence chunk of at least one byte apart. -/
def Foreign {β : Type} (e : TransferEngine β) (f : Frame) : Prop :=
  f.opcode ≠ cmdDirectWriteStart ∧ f.opcode ≠ cmdPipeWriteStart ∧
    (e.txn.state = .receiving → e.txn.mode = .direct →
      f.opcode ≠ cmdDirectWriteData ∧ f.opcode ≠ cmdDirectWriteEnd) ∧
    (e.txn.state = .receiving → e.txn.mode = .pipe →
      f.opcode ≠ cmdPipeWriteEnd ∧
        (f.opcode = cmdPipeWriteData →
          f.payload.bytes ≠ [] ∧ f.payload.bytes.head? ≠ some e.txn.nextPipeSequence))

instance {β : Type} (e : TransferEngine β) (f : Frame) : Decidable (e.Foreign f) :=
  inferInstanceAs (Decidable (_ ∧ _ ∧ (_ → _ → _ ∧ _) ∧ (_ → _ → _ ∧ (_ → _ ∧ _))))

/-- A packet that is none of the transfer's business: one too short to carry an opcode, or
a foreign frame. -/
def Bystander {β : Type} (e : TransferEngine β) (pkt : RxPacket) : Prop :=
  ∀ f ∈ pkt.frame, e.Foreign f

instance {β : Type} (e : TransferEngine β) (pkt : RxPacket) : Decidable (e.Bystander pkt) :=
  inferInstanceAs (Decidable (∀ f ∈ pkt.frame, _))

/-- All that may have changed are the statistics, the error code and, where no PIPE
transfer is open, the latch. -/
structure Undisturbed {β : Type} (e e' : TransferEngine β) : Prop where
  rest : ∃ stats error latch,
    e' = { e with stats := stats, lastError := error, txn.pipeFatal := latch }
  txn_eq : e.PipeReceiving → e'.txn = e.txn

namespace Undisturbed

variable {e e' : TransferEngine β}

omit [OpenDisplayBackend β] in
lemma refl (e : TransferEngine β) : Undisturbed e e :=
  ⟨⟨_, _, _, rfl⟩, fun _ => rfl⟩

omit [OpenDisplayBackend β] in
lemma of_error (error : ErrorCode) : Undisturbed e { e with lastError := error } :=
  ⟨⟨_, error, _, rfl⟩, fun _ => rfl⟩

omit [OpenDisplayBackend β] in
lemma hasTailSack (h : Undisturbed e e') : e'.hasTailSack = e.hasTailSack := by
  obtain ⟨_, _, _, rfl⟩ := h.rest
  rfl

end Undisturbed

variable {e : TransferEngine β} {f : Frame}

lemma Foreign.directData (h : e.Foreign f) (hop : f.opcode = cmdDirectWriteData) (nowMs : UInt32) :
    Undisturbed e (e.onDirectData f.payload nowMs).2 := by
  have hplace : e.txn.state ≠ .receiving ∨ e.txn.mode ≠ .direct :=
    not_and_or.mp fun hplace => (h.2.2.1 hplace.1 hplace.2).1 hop
  rw [onDirectData, if_pos hplace]
  exact .of_error _

lemma Foreign.directEnd (h : e.Foreign f) (hop : f.opcode = cmdDirectWriteEnd) (nowMs : UInt32) :
    Undisturbed e (e.onDirectEnd f.payload nowMs).2 := by
  have hplace : e.txn.state ≠ .receiving ∨ e.txn.mode ≠ .direct :=
    not_and_or.mp fun hplace => (h.2.2.1 hplace.1 hplace.2).2 hop
  rw [onDirectEnd, if_pos hplace]
  exact .of_error _

lemma Foreign.pipeEnd (h : e.Foreign f) (hop : f.opcode = cmdPipeWriteEnd) (nowMs : UInt32) :
    Undisturbed e (e.onPipeEnd f.payload nowMs).2 := by
  have hplace : e.txn.state ≠ .receiving ∨ e.txn.mode ≠ .pipe :=
    not_and_or.mp fun hplace => (h.2.2.2 hplace.1 hplace.2).1 hop
  rw [onPipeEnd, if_pos hplace]
  exact .of_error _

lemma Foreign.pipeData (h : e.Foreign f) (hop : f.opcode = cmdPipeWriteData) (nowMs : UInt32) :
    Undisturbed e (e.onPipeData f.payload nowMs).2 := by
  have ho := e.onPipeData_outcome f.payload nowMs
  generalize (e.onPipeData f.payload nowMs).1 = res, (e.onPipeData f.payload nowMs).2 = e' at ho ⊢
  have hchunk : e.PipeReceiving → f.payload.bytes ≠ [] ∧
      f.payload.bytes.head? ≠ some e.txn.nextPipeSequence := fun hplace =>
    (h.2.2.2 hplace.1 hplace.2).2 hop
  cases ho with
  | latched => exact .refl e
  | misplaced _ hplace => exact ⟨⟨_, _, _, rfl⟩, fun hopen => absurd hopen hplace⟩
  | outOfOrder => exact ⟨⟨_, _, _, rfl⟩, fun _ => rfl⟩
  | malformed _ hplace hbytes => exact absurd hbytes (hchunk hplace).1
  | oversize _ hplace _ hbytes | writeFailed _ hplace _ hbytes | accepted _ hplace _ hbytes =>
      exact absurd (by rw [hbytes]; rfl) (hchunk hplace).2

/-- A foreign frame leaves the engine undisturbed, whatever operation it asks for. -/
lemma Foreign.undisturbed (h : e.Foreign f) {nowMs : UInt32} {op : EngineOp ω}
    (hop : OpenDisplayComponent.packetOp f nowMs = some op) : Undisturbed e (e.step op) := by
  rw [OpenDisplayComponent.packetOp] at hop
  split_ifs at hop with h70 h71 h72 h80 h81 h82
  · exact absurd h70 h.1
  · obtain rfl := Option.some.inj hop
    exact h.directData h71 nowMs
  · obtain rfl := Option.some.inj hop
    exact h.directEnd h72 nowMs
  · exact absurd h80 h.2.1
  · obtain rfl := Option.some.inj hop
    exact h.pipeData h81 nowMs
  · obtain rfl := Option.some.inj hop
    exact h.pipeEnd h82 nowMs

end TransferEngine

namespace OpenDisplayComponent

open TransferEngine (Bystander Undisturbed Alike)

/-- **A bystander leaves the transfer undisturbed.** -/
theorem undisturbed_after {c : OpenDisplayComponent β} (htail : c.engine.hasTailSack = false)
    {pkt : RxPacket} (h : c.engine.Bystander pkt) (nowMs : UInt32) :
    Undisturbed c.engine (c.after (.packet pkt nowMs : Stimulus ω)).engine := by
  rw [engine_after c htail]
  rcases hop : (Stimulus.packet pkt nowMs : Stimulus ω).engineOp with _ | op
  · exact .refl _
  · obtain ⟨f, hframe, hsome⟩ := Option.bind_eq_some_iff.mp hop
    have hstep : Undisturbed c.engine (c.engine.step op) := (h f hframe).undisturbed hsome
    dsimp only
    rw [TransferEngine.takeTailSack_of_not (hstep.hasTailSack.trans htail)]
    exact hstep

/-! ### A course with bystanders -/

/-- A stimulus of the course itself, or a packet put into it. -/
inductive Course (ω : Type)
  | own (s : Stimulus ω)
  | inserted (pkt : RxPacket) (nowMs : UInt32)

/-- What the component is given. -/
def Course.stimulus : Course ω → Stimulus ω
  | .own s => s
  | .inserted pkt now => .packet pkt now

/-- The course without what was put into it. -/
def ownStimuli (course : List (Course ω)) : List (Stimulus ω) :=
  course.filterMap fun
    | .own s => some s
    | .inserted _ _ => none

/-- A chunk where no PIPE transfer is open. -/
def strayChunk (e : TransferEngine β) (s : Stimulus ω) : Bool :=
  match s.engineOp with
  | some (.pipeData _ _) => e.txn.state != .receiving || e.txn.mode != .pipe
  | _ => false

/-- What the engine tells of a stimulus of the course itself, stray chunks apart. -/
def heard (c : OpenDisplayComponent β) (s : Stimulus ω) : List (Option Told) :=
  if strayChunk c.engine s then [] else [c.told s]

/-- What the engine tells of a stimulus, if it is one of the course itself. -/
def heardOf (c : OpenDisplayComponent β) : Course ω → List (Option Told)
  | .own s => c.heard s
  | .inserted _ _ => []

/-- Only bystanders have been put in. -/
def OnlyBystanders (c : OpenDisplayComponent β) : Course ω → Prop
  | .own _ => True
  | .inserted pkt _ => c.engine.Bystander pkt

instance (c : OpenDisplayComponent β) (x : Course ω) : Decidable (OnlyBystanders c x) :=
  match x with
  | .own _ => isTrue trivial
  | .inserted pkt _ => inferInstanceAs (Decidable (c.engine.Bystander pkt))

/-- The outcome is the same: the same panel in the same state, the same ownership of it, and
the same transfer, but for a latch that no PIPE transfer reads. -/
structure SameOutcome (e e' : TransferEngine β) : Prop where
  backend_eq : e'.backend = e.backend
  hwOwned_eq : e'.hwOwned = e.hwOwned
  txn_eq : ∃ latch, e'.txn = { e.txn with pipeFatal := latch }
  pipe_eq : e.PipeReceiving → e'.txn = e.txn

/-- The likeness of two engines on the same panel, whatever they remember. -/
def samePanel : Likeness β β where
  panel := Eq
  off₁ _ := False
  off₂ _ := False
  past _ _ := True
  latched := False
  invariant₁ := ⟨⟨fun _ h => h, fun h => h, fun _ h => h, fun h => h, fun h => h, fun _ h => h⟩,
    fun _ _ h => h⟩
  invariant₂ := ⟨⟨fun _ h => h, fun h => h, fun _ h => h, fun h => h, fun h => h, fun _ h => h⟩,
    fun _ _ h => h⟩
  keepsStep := ⟨fun _ _ => trivial, fun _ _ => trivial, fun _ _ => trivial, fun _ _ => trivial⟩
  latched_or := .inr fun _ _ => trivial
  capabilities h := by rw [h]
  beginFrame f h := .inr (.inr ⟨by rw [h], by rw [h]⟩)
  writeContiguous o d h := .inr (.inr ⟨by rw [h], by rw [h]⟩)
  finishFrame h := .inr (.inr ⟨by rw [h], by rw [h]⟩)
  beginRefresh r h := .inr (.inr ⟨by rw [h], by rw [h]⟩)
  pollRefresh h := .inr (.inr ⟨by rw [h], by rw [h]⟩)
  abortTransfer h := by rw [h]
  happen w h := by rw [h]

variable {e₁ e₁' e₂ : TransferEngine β}

lemma alike_refl (e : TransferEngine β) : Alike samePanel e e where
  panel := rfl
  past := trivial
  txn := ⟨_, rfl⟩
  latch _ := rfl
  hwOwned := rfl
  transferTimeoutMs := rfl
  refreshTimeoutMs := rfl
  connectionGeneration := rfl
  hasTailSack := rfl
  staged _ := rfl

/-- A bystander on one side leaves the engines alike. -/
lemma alike_of_undisturbed (h : Alike samePanel e₁ e₂) (hstep : Undisturbed e₁ e₁') :
    Alike samePanel e₁' e₂ := by
  have hopen := hstep.txn_eq
  obtain ⟨stats, error, latch, rfl⟩ := hstep.rest
  refine { h with past := trivial, txn := ?_, latch := fun hl => ?_ }
  · obtain ⟨latch', htxn⟩ := h.txn
    exact ⟨latch', htxn⟩
  · have hplace : e₁.PipeReceiving := hl.resolve_left fun hfalse => hfalse
    rw [hopen hplace]
    exact h.latch (Or.inr hplace)

lemma sameOutcome_of_alike (h : Alike samePanel e₁ e₂) : SameOutcome e₁ e₂ where
  backend_eq := h.panel.symm
  hwOwned_eq := h.hwOwned
  txn_eq := h.txn
  pipe_eq hplace := h.txn_eq (Or.inr hplace)

/-- The same is heard of a stimulus by two components with alike engines. -/
lemma heard_eq {c₁ c₂ : OpenDisplayComponent β} (h : Alike samePanel c₁.engine c₂.engine)
    (htail : c₁.engine.hasTailSack = false) (s : Stimulus ω) : c₁.heard s = c₂.heard s := by
  have hstray : strayChunk c₁.engine s = strayChunk c₂.engine s := by
    rw [strayChunk, strayChunk, h.state, h.mode]
  rw [heard, heard, ← hstray]
  rcases hchunk : strayChunk c₁.engine s with _ | _
  · -- a chunk of an open PIPE transfer finds the latches equal
    have htold := told_eq h htail (s := s) fun p now hop => h.latch (Or.inr (by
      rw [strayChunk, hop] at hchunk
      simpa [TransferEngine.PipeReceiving] using hchunk))
    rcases htold with hoff | hoff | htold
    · exact hoff.elim
    · exact hoff.elim
    · rw [if_neg Bool.false_ne_true, if_neg Bool.false_ne_true, htold]
  · rfl

/-- The run lemma: with the bystanders and without them, from alike engines on. -/
lemma course_alike {c₁ c₂ : OpenDisplayComponent β} (h : Alike samePanel c₁.engine c₂.engine)
    (htail : c₁.engine.hasTailSack = false) {course : List (Course ω)}
    (honly : Machine.AllSteps (fun c x => c.after x.stimulus) OnlyBystanders c₁ course) :
    Alike samePanel (Machine.exec (fun c x => c.after x.stimulus) c₁ course).engine
        (Machine.exec after c₂ (ownStimuli course)).engine ∧
      Machine.outputs (fun c x => c.after x.stimulus) heardOf c₁ course =
        Machine.outputs after heard c₂ (ownStimuli course) := by
  induction course generalizing c₁ c₂ with
  | nil => exact ⟨h, rfl⟩
  | cons x course ih =>
      obtain ⟨hx, hrest⟩ := honly
      cases x with
      | own s =>
          obtain ⟨hrun, hout⟩ := ih ((alike_after h htail s).resolve_left id |>.resolve_left id)
            (after_hasTailSack htail s) hrest
          refine ⟨hrun, ?_⟩
          change c₁.heard s ++ _ = c₂.heard s ++ _
          rw [heard_eq h htail s]
          exact congrArg _ hout
      | inserted pkt now =>
          have hstep := undisturbed_after (ω := ω) htail hx now
          exact ih (alike_of_undisturbed h hstep) (hstep.hasTailSack.trans htail) hrest

/-- **Unrelated packets cannot disturb a transfer.**  In every state that the component
reaches, a bystander leaves the panel with its calls and the transfer as they are.  Hence
bystanders put in anywhere into a course leave its calls, the outcome of the transfer and
all that is heard of the other stimuli as they are without them. -/
theorem bystanders_harmless (b : β) (settings : ComponentSettings) (temperature : Int)
    (ops : List (ComponentOp ω)) :
    let c := Machine.exec step (setup (Recorder.fresh b) settings temperature).2 ops
    (∀ pkt now, c.engine.Bystander pkt →
      Undisturbed c.engine (c.handlePacket pkt now).2.engine) ∧
    ∀ course : List (Course ω),
      Machine.AllSteps (fun c x => c.after x.stimulus) OnlyBystanders c course →
        SameOutcome (Machine.exec (fun c x => c.after x.stimulus) c course).engine
            (Machine.exec after c (ownStimuli course)).engine ∧
          Machine.outputs (fun c x => c.after x.stimulus) heardOf c course =
            Machine.outputs after heard c (ownStimuli course) := by
  intro c
  have htail : c.engine.hasTailSack = false :=
    (Machine.exec_invariant (I := fun c : OpenDisplayComponent (Recorder β) => Settled c.engine)
      (fun _ op h => h.step op) (settled_setup _ settings temperature) ops).staged
  refine ⟨fun pkt now h => undisturbed_after (ω := ω) htail h now, fun course honly => ?_⟩
  obtain ⟨halike, hheard⟩ := course_alike (alike_refl c.engine) htail honly
  exact ⟨sameOutcome_of_alike halike, hheard⟩

/-- A direct transfer, with a stray chunk, a config read and a PIPE END in between. -/
def jostledTransfer : List (Course Unit) :=
  [.inserted (.ofBytes [0x00, 0x81, 0x05]) 0,
    .own (.packet .directData 0),
    .inserted (.ofBytes [0x00, 0x40]) 0, .inserted (.ofBytes [0x00, 0x82]) 0,
    .own (.packet .directEnd 0), .own (.tick 1)]

/-- The component once it has taken a direct START. -/
def startedDirect : OpenDisplayComponent (Recorder ScriptedPanel) :=
  Machine.exec step
    (setup (Recorder.fresh (ScriptedPanel.accepting 3 [.complete])) defaultSettings 80).2
    ([.bleConnect, .bleWrite [0x00, 0x70] 0] ++ loopParts 2 0)

/-- The stray packets are bystanders, and the frame is shown with and without them. -/
theorem bystanders_harmless_jostledTransfer :
    startedDirect.engine.txn.state = .receiving ∧
      (Machine.exec after startedDirect (ownStimuli jostledTransfer)).engine.backend.calls =
        [.beginFrame { totalBytes := 3 } .ok, .writeContiguous 0 [0xAA, 0xBB, 0xCC] .ok,
          .finishFrame .ok, .beginRefresh .ok, .pollRefresh .complete] ∧
      SameOutcome
        (Machine.exec (fun c x => c.after x.stimulus) startedDirect jostledTransfer).engine
        (Machine.exec after startedDirect (ownStimuli jostledTransfer)).engine := by
  have honly : Machine.AllSteps (fun c x => c.after x.stimulus) OnlyBystanders startedDirect
      jostledTransfer := by decide +kernel
  have hharmless := bystanders_harmless (ScriptedPanel.accepting 3 [.complete]) defaultSettings 80
    ([.bleConnect, .bleWrite [0x00, 0x70] 0] ++ loopParts 2 0)
  exact ⟨by decide +kernel, by decide +kernel, (hharmless.2 jostledTransfer honly).1⟩

end OpenDisplayComponent

end OpenDisplay
