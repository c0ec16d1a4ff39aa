import OpenDisplay.Component.Outcome
import OpenDisplay.Engine.LockStep

/-!
# Two components in lock step

What reaches the engine of a component from outside: packets, ticks, the abort action,
disconnects and the panel's own doings.  The queues and the phases of `loop()` are left out
here; a component is taken through a list of `Stimulus`es as `handle_packet_`,
`apply_result_` and `tick` answer them, one after another.

Two components whose engines are alike are told the same by their engines at every
stimulus, for as long as the panels answer alike.
-/

namespace OpenDisplay

/-- What the component has its engine answer. -/
inductive Stimulus (ω : Type)
  | packet (pkt : RxPacket) (nowMs : UInt32)
  | tick (nowMs : UInt32)
  | abort
  | disconnect (connectionGeneration : UInt32)
  /-- something happens to the panel -/
  | world (event : ω)

namespace Stimulus

variable {ω : Type}

/-- The operation of the engine that a stimulus comes to. -/
def engineOp : Stimulus ω → Option (EngineOp ω)
  | .packet pkt now => pkt.frame.bind fun f => OpenDisplayComponent.packetOp f now
  | .tick now => some (.tick now)
  | .abort => some (.abort .invalidState)
  | .disconnect gen => some (.disconnect gen)
  | .world event => some (.world event)

end Stimulus

/-- A packet with these bytes, in a fresh slot. -/
def RxPacket.ofBytes (data : List UInt8) (h : data.length ≤ rxSlotBytes := by decide) : RxPacket :=
  RxPacket.fresh.fill data 1 0 h

/-- A direct DATA with three bytes. -/
def RxPacket.directData : RxPacket := .ofBytes [0x00, 0x71, 0xAA, 0xBB, 0xCC]

/-- A direct END. -/
def RxPacket.directEnd : RxPacket := .ofBytes [0x00, 0x72]

namespace OpenDisplayComponent

variable {β ω : Type} [OpenDisplayBackend β] [PanelWorld β ω]

/-- One stimulus: what is done, and the component after it. -/
def respond (c : OpenDisplayComponent β) : Stimulus ω → Done β
  | .packet pkt now => c.handlePacket pkt now
  | .tick now => c.answer (c.engine.tick now)
  | .abort => ([], c.abort)
  | .disconnect gen => ([], { c with engine := c.engine.onDisconnect gen })
  | .world event => ([], { c with engine.backend := PanelWorld.happen event c.engine.backend })

/-- The component after one stimulus. -/
def after (c : OpenDisplayComponent β) (s : Stimulus ω) : OpenDisplayComponent β :=
  (c.respond s).2

/-- What the engine tells of an operation: its result, the SACK that it has staged by then,
and the error behind a result that reports one. -/
structure Told where
  result : EngineResult
  staged : Option Response
  error : Option ErrorCode
deriving DecidableEq

/-- What the engine tells at a stimulus; nothing where it is not asked. -/
def told (c : OpenDisplayComponent β) (s : Stimulus ω) : Option Told :=
  s.engineOp.map fun op =>
    let res := (c.engine.perform op).1
    { result := res
      staged := (c.engine.step op).takeTailSack.1
      error :=
        if res.terminalError || res.refreshTimeout then some (c.engine.step op).lastError
        else none }

/-! ### The engine in a response -/

omit [OpenDisplayBackend β] in
lemma engine_sendConfig (c : OpenDisplayComponent β) : c.sendConfig.2.engine = c.engine := by
  rw [sendConfig]
  dsimp only
  split_ifs <;> rfl

/-- A packet that asks for an operation of the engine is answered by it. -/
lemma handlePacket_of_op (c : OpenDisplayComponent β) {pkt : RxPacket} {f : Frame}
    (hframe : pkt.frame = some f) {nowMs : UInt32} {op : EngineOp ω}
    (hop : packetOp f nowMs = some op) :
    c.handlePacket pkt nowMs = c.answer (c.engine.perform op) := by
  rw [handlePacket, hframe]
  rw [packetOp] at hop
  split_ifs at hop with h h h h h h
  all_goals
    obtain rfl := Option.some.inj hop
    simp only [h]
    rfl

/-- Any other packet leaves the engine alone. -/
lemma engine_of_no_op (c : OpenDisplayComponent β) {pkt : RxPacket} {nowMs : UInt32}
    (hop : (Stimulus.packet pkt nowMs : Stimulus ω).engineOp = none) :
    (c.handlePacket pkt nowMs).2.engine = c.engine := by
  have ho := handlePacket_outcome (ω := ω) c pkt nowMs
  generalize c.handlePacket pkt nowMs = done at ho ⊢
  cases ho with
  | runt | version | msd | unsupported => rfl
  | config => exact engine_sendConfig c
  | answered f hframe op hsome =>
      rw [Stimulus.engineOp, hframe, Option.bind_some, hsome] at hop
      cases hop

omit [OpenDisplayBackend β] in
lemma engine_answer (c : OpenDisplayComponent β) (answered : EngineResult × TransferEngine β) :
    (c.answer answered).2.engine = answered.2.takeTailSack.2 :=
  (sends_applyResult { c with engine := answered.2 } answered.1).engine_eq

/-- **A stimulus is an operation of the engine** and the taking of what it staged. -/
theorem engine_after (c : OpenDisplayComponent β) (htail : c.engine.hasTailSack = false)
    (s : Stimulus ω) :
    (c.after s).engine =
      match s.engineOp with
      | none => c.engine
      | some op => (c.engine.step op).takeTailSack.2 := by
  cases s with
  | packet pkt now =>
      rcases hop : (Stimulus.packet pkt now : Stimulus ω).engineOp with _ | op
      · exact engine_of_no_op c hop
      · obtain ⟨f, hframe, hsome⟩ := Option.bind_eq_some_iff.mp hop
        have hanswer := handlePacket_of_op c hframe hsome
        change (c.handlePacket pkt now).2.engine = _
        rw [hanswer]
        exact engine_answer c _
  | tick now => exact engine_answer c _
  -- the other three stage nothing
  | abort =>
      have hstaged : (c.engine.abort .invalidState).hasTailSack = false := by simpa using htail
      exact (congrArg Prod.snd (TransferEngine.takeTailSack_of_not hstaged)).symm
  | disconnect gen =>
      have hstaged : (c.engine.onDisconnect gen).hasTailSack = false := by simpa using htail
      exact (congrArg Prod.snd (TransferEngine.takeTailSack_of_not hstaged)).symm
  | world event =>
      have hstaged : (c.engine.step (.world event)).hasTailSack = false := htail
      exact (congrArg Prod.snd (TransferEngine.takeTailSack_of_not hstaged)).symm

lemma after_hasTailSack {c : OpenDisplayComponent β} (htail : c.engine.hasTailSack = false)
    (s : Stimulus ω) : (c.after s).engine.hasTailSack = false := by
  rw [engine_after c htail]
  rcases s.engineOp with _ | op
  · exact htail
  · exact TransferEngine.takeTailSack_hasTailSack _

lemma after_backend {P : β → Prop} (hP : BackendInvariant P) {c : OpenDisplayComponent β}
    (htail : c.engine.hasTailSack = false) (h : P c.engine.backend) (s : Stimulus ω) :
    P (c.after s).engine.backend := by
  rw [engine_after c htail]
  rcases s.engineOp with _ | op
  · exact h
  · dsimp only
    rw [TransferEngine.takeTailSack_backend]
    exact TransferEngine.step_backend hP h op

/-- What no call and no event takes away holds after every run. -/
lemma exec_after_backend {P : β → Prop} (hP : BackendInvariant P) {c : OpenDisplayComponent β}
    (htail : c.engine.hasTailSack = false) (h : P c.engine.backend) (ss : List (Stimulus ω)) :
    P (Machine.exec after c ss).engine.backend :=
  (Machine.exec_invariant
    (I := fun c : OpenDisplayComponent β => c.engine.hasTailSack = false ∧ P c.engine.backend)
    (fun _ s hc => ⟨after_hasTailSack hc.1 s, after_backend hP hc.1 hc.2 s⟩) ⟨htail, h⟩ ss).2

/-! ### Lock step -/

section LockStep

variable {β₁ β₂ : Type} [OpenDisplayBackend β₁] [PanelWorld β₁ ω] [OpenDisplayBackend β₂]
  [PanelWorld β₂ ω] {ℓ : Likeness β₁ β₂} {c₁ : OpenDisplayComponent β₁}
  {c₂ : OpenDisplayComponent β₂}

open TransferEngine (Alike)

/-- Components with alike engines stay so, or their panels go separate ways. -/
theorem alike_after (h : Alike ℓ c₁.engine c₂.engine) (htail : c₁.engine.hasTailSack = false)
    (s : Stimulus ω) :
    ℓ.off₁ (c₁.after s).engine.backend ∨ ℓ.off₂ (c₂.after s).engine.backend ∨
      Alike ℓ (c₁.after s).engine (c₂.after s).engine := by
  rw [engine_after c₁ htail, engine_after c₂ (h.hasTailSack.trans htail)]
  rcases s.engineOp with _ | op
  · exact .inr (.inr h)
  · dsimp only
    rw [TransferEngine.takeTailSack_backend, TransferEngine.takeTailSack_backend]
    exact (h.step op).imp_right (Or.imp_right fun hstep => hstep.takeTailSack.2)

/-- Alike engines return the same, where both are deaf to a chunk or neither is. -/
theorem told_eq (h : Alike ℓ c₁.engine c₂.engine) (htail : c₁.engine.hasTailSack = false)
    {s : Stimulus ω} (hlatch : ∀ p now, s.engineOp = some (.pipeData p now) →
      c₂.engine.txn.pipeFatal = c₁.engine.txn.pipeFatal) :
    ℓ.off₁ (c₁.after s).engine.backend ∨ ℓ.off₂ (c₂.after s).engine.backend ∨
      c₁.told s = c₂.told s := by
  rw [engine_after c₁ htail, engine_after c₂ (h.hasTailSack.trans htail), told, told]
  rcases hop : s.engineOp with _ | op
  · exact .inr (.inr rfl)
  · dsimp only
    rw [TransferEngine.takeTailSack_backend, TransferEngine.takeTailSack_backend]
    refine (h.perform op fun p now hchunk => hlatch p now (hchunk ▸ hop)).imp_right
      (Or.imp_right fun htwin => ?_)
    obtain ⟨hres, halike, herror⟩ := htwin
    have htaken : (c₁.engine.step op).takeTailSack.1 = (c₂.engine.step op).takeTailSack.1 :=
      halike.takeTailSack.1
    simp only [Option.map_some, ← hres, htaken]
    split_ifs with hreport
    · have hsame : (c₁.engine.step op).lastError = (c₂.engine.step op).lastError :=
        herror (by simpa using hreport)
      rw [hsame]
    · rfl

end LockStep

end OpenDisplayComponent

end OpenDisplay
