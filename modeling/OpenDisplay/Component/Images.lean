import OpenDisplay.Backend.Screen
import OpenDisplay.Component.StaleBytes
import OpenDisplay.Component.Stages
import OpenDisplay.Engine.PipeHeader

/-!
# A client's images are delivered

A client in lock step sends images to a panel that takes what it is given and ends every
refresh when it has worked long enough.  Between its packets it may let any number of rounds
go by, as long as no timeout is reached, and after the last packet of an image it waits for
the refresh.  Then every image is delivered: the panel gets it from one end to the other in the
calls of a frame of its own, is refreshed for it and polled to the end; the client is told of
no fault, has the end acknowledged and the refresh reported; and the automations see one start
and one completed refresh.  Images may follow each other without end, by direct writes and by
PIPE.

The bytes of the packets come through the receive queue here, so what lies behind them in a
slot is whatever was there before.
-/

namespace OpenDisplay

open OpenDisplayBackend

/-! ### Packets on the wire -/

/-- A packet: the opcode, high byte first, and the payload. -/
def commandBytes (opcode : UInt16) (payload : List UInt8) : List UInt8 :=
  (opcode >>> 8).toUInt8 :: echo opcode :: payload

/-- A packet is received as the frame that was written. -/
lemma RxPacket.frame_of_bytes {pkt : RxPacket} {opcode : UInt16} {payload : List UInt8}
    (h : pkt.bytes = commandBytes opcode payload) :
    ∃ f, pkt.frame = some f ∧ f.opcode = opcode ∧ f.payload.bytes = payload := by
  have hlen := congrArg List.length h
  rw [length_bytes, commandBytes, List.length_cons, List.length_cons] at hlen
  have h0 := toList_getD pkt (i := 0) (by omega)
  have h1 := toList_getD pkt (i := 1) (by omega)
  rw [h] at h0 h1
  obtain ⟨f, hframe⟩ : ∃ f, pkt.frame = some f := by
    rw [frame, parseFrame, dif_neg (by omega)]
    exact ⟨_, rfl⟩
  refine ⟨f, hframe, ?_, ?_⟩
  · rw [frame, parseFrame, dif_neg (by omega)] at hframe
    obtain rfl := Option.some.inj hframe
    dsimp only
    rw [h0, h1]
    have hword := getU16Le_bytes opcode
    rw [getU16Le, UInt16.or_comm] at hword
    exact hword
  · rw [payload_bytes hframe, h]
    rfl

namespace Turn

variable {ω : Type}

/-- What the client writes in a turn. -/
def data : Turn ω → Option (List UInt8)
  | .panel _ => none
  | .round r => r.data

/-- What happens to the panel is of this kind. -/
def Benign (benign : ω → Prop) : Turn ω → Prop
  | .panel event => benign event
  | .round _ => True

/-- What a turn without a packet is for the engine. -/
def op : Turn ω → EngineOp ω
  | .panel event => .world event
  | .round r => .tick r.nowMs

end Turn

/-- There is a round after the panel has worked `n` times. -/
def Awaits {ω : Type} (works : ω → Prop) : ℕ → List (Turn ω) → Prop
  | _, [] => False
  | n, .panel event :: ts => Awaits works n ts ∨ works event ∧ Awaits works (n - 1) ts
  | n, .round _ :: ts => n = 0 ∨ Awaits works n ts

/-- The packets of the chunks of a transfer, from the `i`-th on. -/
def packed (pack : ℕ → List UInt8 → List UInt8) : ℕ → List (List UInt8) → List (List UInt8)
  | _, [] => []
  | i, chunk :: chunks => pack i chunk :: packed pack (i + 1) chunks

/-- The direct DATA with a chunk. -/
def packDirect (_ : ℕ) (chunk : List UInt8) : List UInt8 := commandBytes cmdDirectWriteData chunk

/-- The PIPE DATA with the `i`-th chunk. -/
def packPipe (i : ℕ) (chunk : List UInt8) : List UInt8 :=
  commandBytes cmdPipeWriteData (UInt8.ofNat i :: chunk)

/-- The tick of a round comes before the timeout after the last packet. -/
def Turn.Punctual {ω : Type} (timeoutMs last : UInt32) : Turn ω → Prop
  | .panel _ => True
  | .round r => deadlinePassed r.nowMs (last + timeoutMs) = false

instance decidablePunctual {ω : Type} (timeoutMs last : UInt32) :
    ∀ t : Turn ω, Decidable (t.Punctual timeoutMs last)
  | .panel _ => isTrue trivial
  | .round r => inferInstanceAs (Decidable (deadlinePassed r.nowMs (last + timeoutMs) = false))

/-- When the last packet was handled after the turn, if the one before it was handled at
`last`. -/
def Turn.lastPacket {ω : Type} (last : UInt32) : Turn ω → UInt32
  | .panel _ => last
  | .round r => if r.data.isSome then r.packetMs else last

/-- No tick comes after the timeout, which every packet sets anew; the one before them was
handled at `last`. -/
def Prompt {ω : Type} (timeoutMs : UInt32) : UInt32 → List (Turn ω) → Prop
  | _, [] => True
  | last, t :: ts =>
      t.Punctual timeoutMs (t.lastPacket last) ∧ Prompt timeoutMs (t.lastPacket last) ts

instance decidablePrompt {ω : Type} (timeoutMs : UInt32) :
    ∀ (last : UInt32) (ts : List (Turn ω)), Decidable (Prompt timeoutMs last ts)
  | _, [] => isTrue trivial
  | last, t :: ts =>
      have _ := decidablePrompt timeoutMs (t.lastPacket last) ts
      inferInstanceAs (Decidable (t.Punctual timeoutMs (t.lastPacket last) ∧ _))

lemma Prompt.of_none {ω : Type} {timeoutMs last : UInt32} {t : Turn ω} {ts : List (Turn ω)}
    (h : Prompt timeoutMs last (t :: ts)) (hdata : t.data = none) :
    t.Punctual timeoutMs last ∧ Prompt timeoutMs last ts := by
  have hlast : t.lastPacket last = last := by
    cases t with
    | panel event => rfl
    | round r =>
        have hnone : r.data = none := hdata
        rw [Turn.lastPacket, if_neg (by simp [hnone])]
  rwa [Prompt, hlast] at h

lemma Prompt.of_some {ω : Type} {timeoutMs last : UInt32} {r : Round} {data : List UInt8}
    {ts : List (Turn ω)} (h : Prompt timeoutMs last (.round r :: ts)) (hdata : r.data = some data) :
    deadlinePassed r.nowMs (r.packetMs + timeoutMs) = false ∧ Prompt timeoutMs r.packetMs ts := by
  rwa [Prompt, Turn.lastPacket, if_pos (by simp [hdata])] at h

/-- Only ten bytes make a header. -/
lemma StartHeader.length_of_ofBytes {bytes : List UInt8} {header : StartHeader}
    (h : StartHeader.ofBytes bytes = some header) : 10 ≤ bytes.length := by
  rw [StartHeader.ofBytes.eq_def] at h
  split at h
  · simp
  · cases h

/-- A well-formed header is parsed as a request for a frame that is not compressed. -/
lemma StartHeader.WellFormed.parsed {p : Payload} {header : StartHeader} {full : UInt32}
    (hwell : header.WellFormed) (hheader : StartHeader.ofBytes p.bytes = some header)
    (htotal : header.totalSize = full.toNat) :
    ∃ req, parsePipeStart p = .ok req ∧ req.flags &&& pipeFlagCompressed = 0 ∧
      req.totalSize = full := by
  have hten : 10 ≤ p.len := by
    rw [← p.length_bytes]
    exact StartHeader.length_of_ofBytes hheader
  cases parseVerdict hten hheader with
  | wrong _ _ _ hill | compressed _ _ _ hill => exact absurd hwell hill
  | wellFormed req hparse hflags _ _ _ _ hsame =>
      refine ⟨req, hparse, by rw [hflags]; rfl, UInt32.toNat_inj.mp ?_⟩
      rw [← hsame, htotal]

/-- The turns in which a client sends an image: the START, turns with the chunks, the last
packet, and turns in which it waits for the refresh. -/
structure Transmission (ω : Type) where
  start : Round
  sending : List (Turn ω)
  stop : Round
  waiting : List (Turn ω)

namespace Transmission

variable {ω : Type}

def turns (x : Transmission ω) : List (Turn ω) :=
  .round x.start :: (x.sending ++ .round x.stop :: x.waiting)

/-- Every packet fits a slot, nothing bad happens to the panel, no tick finds a timeout reached,
and the client waits until the panel is done. -/
structure Sound (transferMs refreshMs : UInt32) (effort : ℕ) (benign works : ω → Prop)
    (x : Transmission ω) : Prop where
  fits : ∀ data ∈ x.turns.filterMap Turn.data, FitsSlot data
  benign : ∀ turn ∈ x.turns, turn.Benign benign
  prompt : Prompt transferMs x.start.packetMs (.round x.start :: x.sending)
  quiet : ∀ turn ∈ x.waiting, turn.data = none
  patient : Prompt refreshMs x.stop.packetMs (.round x.stop :: x.waiting)
  awaits : Awaits works effort x.waiting

section Sound

variable {transferMs refreshMs : UInt32} {effort : ℕ} {benign works : ω → Prop}
  {x : Transmission ω}

lemma Sound.fits_turn (h : x.Sound transferMs refreshMs effort benign works) {turn : Turn ω}
    (hturn : turn ∈ x.turns) {data : List UInt8} (hdata : turn.data = some data) :
    FitsSlot data := h.fits data (List.mem_filterMap.mpr ⟨turn, hturn, hdata⟩)

lemma Sound.fits_start (h : x.Sound transferMs refreshMs effort benign works)
    {data : List UInt8} (hdata : x.start.data = some data) : FitsSlot data :=
  h.fits_turn (List.mem_cons_self : Turn.round x.start ∈ x.turns) hdata

lemma Sound.fits_sending (h : x.Sound transferMs refreshMs effort benign works)
    {data : List UInt8} (hdata : data ∈ x.sending.filterMap Turn.data) : FitsSlot data := by
  obtain ⟨turn, hturn, hsome⟩ := List.mem_filterMap.mp hdata
  exact h.fits_turn (List.mem_cons_of_mem _ (List.mem_append_left _ hturn)) hsome

lemma Sound.fits_stop (h : x.Sound transferMs refreshMs effort benign works)
    {data : List UInt8} (hdata : x.stop.data = some data) : FitsSlot data :=
  have hturn : Turn.round x.stop ∈ x.turns :=
    List.mem_cons_of_mem _ (List.mem_append_right _ List.mem_cons_self)
  h.fits_turn hturn hdata

lemma Sound.benign_sending (h : x.Sound transferMs refreshMs effort benign works) :
    ∀ turn ∈ x.sending, turn.Benign benign := fun turn hturn =>
  h.benign turn (List.mem_cons_of_mem _ (List.mem_append_left _ hturn))

lemma Sound.benign_waiting (h : x.Sound transferMs refreshMs effort benign works) :
    ∀ turn ∈ x.waiting, turn.Benign benign := fun turn hturn =>
  h.benign turn (List.mem_cons_of_mem _ (List.mem_append_right _ (List.mem_cons_of_mem _ hturn)))

end Sound

/-- A direct write of the image in these chunks, of which none is empty. -/
structure IsDirect (image : List UInt8) (chunks : List (List UInt8)) (x : Transmission ω) :
    Prop where
  start_data : x.start.data = some (commandBytes cmdDirectWriteStart [])
  sending_data : x.sending.filterMap Turn.data = packed packDirect 0 chunks
  stop_data : ∃ tail, x.stop.data = some (commandBytes cmdDirectWriteEnd tail)
  nonempty : ∀ chunk ∈ chunks, chunk ≠ []
  image_eq : chunks.flatten = image

/-- A PIPE write of the image in these chunks and a last one, which is not empty, to a panel
with frames of `full` bytes. -/
structure IsPipe (full : UInt32) (image : List UInt8) (chunks : List (List UInt8))
    (final : List UInt8) (x : Transmission ω) : Prop where
  start_data : ∃ bytes header, x.start.data = some (commandBytes cmdPipeWriteStart bytes) ∧
    StartHeader.ofBytes bytes = some header ∧ header.WellFormed ∧ header.totalSize = full.toNat
  sending_data : x.sending.filterMap Turn.data = packed packPipe 0 chunks
  stop_data : x.stop.data = some (packPipe chunks.length final)
  nonempty : final ≠ []
  image_eq : chunks.flatten ++ final = image

/-- The turns of one transmission after another. -/
def allTurns (jobs : List (Transmission ω × List UInt8)) : List (Turn ω) :=
  jobs.flatMap fun job => job.1.turns

lemma allTurns_cons (job : Transmission ω × List UInt8)
    (jobs : List (Transmission ω × List UInt8)) :
    allTurns (job :: jobs) = job.1.turns ++ allTurns jobs := List.flatMap_cons

/-- The client sends the image in one of the two ways. -/
inductive Sends (full : UInt32) (image : List UInt8) (x : Transmission ω) : Prop
  | direct (chunks : List (List UInt8)) (h : x.IsDirect image chunks)
  | pipe (chunks : List (List UInt8)) (final : List UInt8) (h : x.IsPipe full image chunks final)

end Transmission

/-- What the client of a whole image is told: no fault, and last the end and the refresh. -/
def ToldRefreshed (frames : List Response) : Prop :=
  (∀ r ∈ frames, r.bytes.head? ≠ some respNack) ∧
    ∃ told opcode, (opcode = cmdDirectWriteEnd ∨ opcode = cmdPipeWriteEnd) ∧
      frames = told ++ [encodeAck opcode, encodeAck respDirectWriteRefreshSuccess]

/-- The calls of the panel in which it is given the image and is refreshed for it. -/
def FrameCalls (full : UInt32) (image : List UInt8) (calls : List BackendCall) : Prop :=
  ∃ (frame : FrameDescriptor) (writes : List (UInt32 × List UInt8)) (pending : ℕ),
    frame.totalBytes = full ∧
    calls = .beginFrame frame .ok :: (writes.map (fun w => .writeContiguous w.1 w.2 .ok) ++
      ([.finishFrame .ok, .beginRefresh .ok] ++
        (List.replicate pending (.pollRefresh .pending) ++ [.pollRefresh .complete]))) ∧
    Blocks.Tiles 0 full.toNat (writes.map fun w => (w.1.toNat, w.2.length)) ∧
    (writes.map Prod.snd).flatten = image

namespace OpenDisplayComponent

open TransferEngine

section Turns

variable {β ω : Type} [OpenDisplayBackend β] [PanelWorld β ω] {c : OpenDisplayComponent β}

/-- The turn comes to these operations of the engine, for the client too. -/
structure Performs (c : OpenDisplayComponent β) (t : Turn ω) (ops : List (EngineOp ω)) :
    Prop where
  engine_eq : (c.turnStep t).engine = Machine.exec serve c.engine ops
  frames_eq : c.turnFrames t = Machine.outputs serve answers c.engine ops
  triggers_eq : c.turnTriggers t = Machine.outputs serve fired c.engine ops
  rest : AtRest (c.turnStep t)

/-- A turn without a packet. -/
lemma AtRest.performs_quiet (h : AtRest c) {t : Turn ω} (hdata : t.data = none) :
    Performs c t [t.op] := by
  obtain ⟨-, hengine, hframes, htriggers, hrest⟩ := h.served t
  cases t with
  | panel event =>
      refine ⟨hengine, ?_, htriggers, hrest⟩
      rw [Machine.outputs_cons, Machine.outputs_nil, List.append_nil]
      exact (quiet_world h.settled.staged event).answers_eq.symm
  | round r =>
      have htaken : c.taken r = none := by
        rcases hpkt : c.taken r with _ | pkt
        · rfl
        · have hsome := ((h.handledRound (ω := ω) r).taken pkt hpkt).1
          cases hdata.symm.trans hsome
      obtain ⟨hnone, hsame, -⟩ := (h.handledRound (ω := ω) r).silent htaken
      have hops : c.turnOps (.round r : Turn ω) = [.tick r.nowMs] := by
        rw [turnOps, htaken]
        rfl
      rw [hops] at hengine htriggers
      refine ⟨hengine, ?_, htriggers, hrest⟩
      rw [hframes, turnAnswers, packetAnswers, htaken, hnone, hsame, Turn.op,
        Machine.outputs_cons, Machine.outputs_nil, List.append_nil]
      rfl

/-- A turn in which a packet asks for an operation of the engine. -/
lemma AtRest.performs_packet (h : AtRest c) {r : Round} {data : List UInt8}
    (hdata : r.data = some data) (hfits : FitsSlot data) :
    ∃ pkt : RxPacket, pkt.bytes = data ∧ ∀ op : EngineOp ω,
      (Stimulus.packet pkt r.packetMs).engineOp = some op →
        Performs c (.round r) [op, .tick r.nowMs] := by
  obtain ⟨-, hengine, hframes, htriggers, hrest⟩ := h.served (.round r : Turn ω)
  obtain ⟨pkt, htaken, hbytes⟩ := h.takes_round hdata hfits
  refine ⟨pkt, hbytes, fun op hop => ?_⟩
  have hops : c.turnOps (.round r : Turn ω) = [op, .tick r.nowMs] := by
    rw [turnOps, htaken, Option.bind_some, hop]
    rfl
  obtain ⟨hsame, hqueued, -⟩ := h.handledOp htaken hop
  obtain ⟨-, hanswers, -⟩ := h.served_packet (ω := ω) r
  rw [hops] at hengine htriggers
  refine ⟨hengine, ?_, htriggers, hrest⟩
  rw [hframes, turnAnswers, ← hanswers, hqueued, hsame, Machine.outputs_cons,
    Machine.outputs_cons, Machine.outputs_nil, List.append_nil]

end Turns

/-! ### Turns in a stage of a transfer -/

section Stages

variable {β ω : Type} [OpenDisplayBackend β] [PanelWorld β ω] {full transferMs refreshMs : UInt32}
  {effort n : ℕ} {benign works : ω → Prop} {inPhase : PanelPhase → β → Prop} {busy : ℕ → β → Prop}
  {before : List BackendCall} {t : Transfer} {last : UInt32}
  {c : OpenDisplayComponent (Recorder β)} {P Q : TransferEngine (Recorder β) → Prop}

/-- The component is at rest, and its engine in this stage. -/
structure RestsIn (transferMs refreshMs : UInt32) (P : TransferEngine (Recorder β) → Prop)
    (c : OpenDisplayComponent (Recorder β)) : Prop where
  rest : AtRest c
  times : TimesOut transferMs refreshMs c.engine
  stage : P c.engine

lemma RestsIn.quiet (h : RestsIn transferMs refreshMs P c) {t : Turn ω} (hdata : t.data = none)
    {e' : TransferEngine (Recorder β)} (hquiet : Quiet c.engine t.op e') (hstage : Q e') :
    c.turnFrames t = [] ∧ c.turnTriggers t = [] ∧
      RestsIn transferMs refreshMs Q (c.turnStep t) := by
  obtain ⟨hengine, hframes, htriggers, hrest⟩ := h.rest.performs_quiet hdata
  have htimes := h.times.exec [t.op]
  rw [Machine.exec_cons, Machine.exec_nil, hquiet.serve_eq] at hengine
  rw [Machine.exec_cons, Machine.exec_nil, hquiet.serve_eq, ← hengine] at htimes
  rw [Machine.outputs_cons, Machine.outputs_nil, List.append_nil] at hframes htriggers
  exact ⟨hframes.trans hquiet.answers_eq, htriggers.trans hquiet.fired_eq, hrest, htimes,
    hengine ▸ hstage⟩

/-- A turn in which a command of the engine's comes, and nothing more happens in the tick. -/
lemma RestsIn.command (h : RestsIn transferMs refreshMs P c) {r : Round} {opcode : UInt16}
    {payload : List UInt8} (hdata : r.data = some (commandBytes opcode payload))
    (hfits : FitsSlot (commandBytes opcode payload)) :
    ∃ p : Payload, p.bytes = payload ∧ ∀ op : EngineOp ω,
      packetOp ⟨opcode, p⟩ r.packetMs = some op → Performs c (.round r) [op, .tick r.nowMs] := by
  obtain ⟨pkt, hbytes, hperforms⟩ := h.rest.performs_packet (ω := ω) hdata hfits
  obtain ⟨⟨_, p⟩, hframe, rfl, hpayload⟩ := RxPacket.frame_of_bytes hbytes
  refine ⟨p, hpayload, fun op hop => hperforms op ?_⟩
  rw [Stimulus.engineOp, hframe, Option.bind_some, hop]

lemma Performs.of_quiet_tick {r : Round} {op : EngineOp ω}
    (h : Performs c (.round r) [op, .tick r.nowMs])
    (htimes : TimesOut transferMs refreshMs c.engine)
    {e' : TransferEngine (Recorder β)}
    (hquiet : Quiet (c.engine.serve op) (.tick r.nowMs : EngineOp ω) e') (hstage : Q e') :
    c.turnFrames (.round r : Turn ω) = c.engine.answers op ∧
      c.turnTriggers (.round r : Turn ω) = c.engine.fired op ∧
      RestsIn transferMs refreshMs Q (c.turnStep (.round r : Turn ω)) := by
  obtain ⟨hengine, hframes, htriggers, hrest⟩ := h
  have htimes' := htimes.exec [op, .tick r.nowMs]
  rw [← hengine] at htimes'
  simp only [Machine.exec_cons, Machine.exec_nil, hquiet.serve_eq] at hengine
  simp only [Machine.outputs_cons, Machine.outputs_nil, hquiet.answers_eq, hquiet.fired_eq,
    List.append_nil] at hframes htriggers
  exact ⟨hframes, htriggers, hrest, htimes', hengine ▸ hstage⟩

/-! ### Between the packets -/

/-- A turn without a packet leaves a transfer under way. -/
lemma RestsIn.waits (hpanel : Compliant full effort benign works inPhase busy)
    (h : RestsIn transferMs refreshMs (Underway full inPhase before t last) c) {turn : Turn ω}
    (hdata : turn.data = none) (hbenign : turn.Benign benign)
    (hpunctual : turn.Punctual transferMs last) :
    c.turnFrames turn = [] ∧ c.turnTriggers turn = [] ∧
      RestsIn transferMs refreshMs (Underway full inPhase before t last) (c.turnStep turn) := by
  have hunder := h.stage
  cases turn with
  | panel event =>
      exact h.quiet hdata (quiet_world hunder.staged event)
        (hunder.happen (hpanel.undisturbed hbenign hunder.filling.phase))
  | round r =>
      refine h.quiet hdata (quiet_tick_receiving hunder.filling.state_eq hunder.free hunder.staged
        ?_) hunder
      rw [hunder.deadline, h.times.transfer_eq]
      exact hpunctual

/-- A turn without a packet leaves everything as it is after the refresh. -/
lemma RestsIn.idles (hpanel : Compliant full effort benign works inPhase busy)
    (h : RestsIn transferMs refreshMs (Refreshed full inPhase before t) c) {turn : Turn ω}
    (hdata : turn.data = none) (hbenign : turn.Benign benign) :
    c.turnFrames turn = [] ∧ c.turnTriggers turn = [] ∧
      RestsIn transferMs refreshMs (Refreshed full inPhase before t) (c.turnStep turn) := by
  have hshown := h.stage
  cases turn with
  | panel event =>
      exact h.quiet hdata (quiet_world hshown.staged event)
        ⟨hshown.state_eq, hshown.free, hshown.staged, hpanel.undisturbed hbenign hshown.ready,
          hshown.calls_eq⟩
  | round r =>
      exact h.quiet hdata (quiet_tick_idle hshown.state_eq hshown.free hshown.staged) hshown

/-- After the refresh nothing more comes. -/
lemma RestsIn.idles_run (hpanel : Compliant full effort benign works inPhase busy)
    {ts : List (Turn ω)} (hdata : ∀ turn ∈ ts, turn.data = none)
    (hbenign : ∀ turn ∈ ts, turn.Benign benign)
    (h : RestsIn transferMs refreshMs (Refreshed full inPhase before t) c) :
    Machine.outputs turnStep turnFrames c ts = [] ∧
      Machine.outputs turnStep turnTriggers c ts = [] ∧
      RestsIn transferMs refreshMs (Refreshed full inPhase before t)
        (Machine.exec turnStep c ts) := by
  induction ts generalizing c with
  | nil => exact ⟨rfl, rfl, h⟩
  | cons turn ts ih =>
      obtain ⟨hturn, hts⟩ := List.forall_mem_cons.mp hdata
      obtain ⟨hmild, hbenign⟩ := List.forall_mem_cons.mp hbenign
      obtain ⟨hframes, htriggers, hnext⟩ := h.idles hpanel hturn hmild
      obtain ⟨hrest, hmore, hend⟩ := ih hts hbenign hnext
      rw [Machine.outputs_cons, Machine.outputs_cons, hframes, htriggers, hrest, hmore]
      exact ⟨rfl, rfl, hend⟩

/-! ### The refresh -/

/-- A poll, after other operations of the same turn. -/
lemma Performs.of_poll (hpanel : Compliant full effort benign works inPhase busy) {turn : Turn ω}
    {ops : List (EngineOp ω)} {now : UInt32} (h : Performs c turn (ops ++ [.tick now]))
    (htimes : TimesOut transferMs refreshMs c.engine)
    (hstage : Refreshes full busy before t last n (Machine.exec serve c.engine ops))
    (hearly : deadlinePassed now (last + refreshMs) = false) :
    (c.turnFrames turn = Machine.outputs serve answers c.engine ops ++
          [encodeAck respDirectWriteRefreshSuccess] ∧
        c.turnTriggers turn = Machine.outputs serve fired c.engine ops ++ [.refreshComplete] ∧
        RestsIn transferMs refreshMs (Refreshed full inPhase before t) (c.turnStep turn)) ∨
      n ≠ 0 ∧ c.turnFrames turn = Machine.outputs serve answers c.engine ops ∧
        c.turnTriggers turn = Machine.outputs serve fired c.engine ops ∧
        RestsIn transferMs refreshMs (Refreshes full busy before t last n) (c.turnStep turn) := by
  obtain ⟨hengine, hframes, htriggers, hrest⟩ := h
  have htimes' := htimes.exec (ops ++ [.tick now])
  have hbefore := htimes.exec ops
  rw [← hengine] at htimes'
  simp only [Machine.exec_append, Machine.outputs_append, Machine.exec_cons, Machine.exec_nil,
    Machine.outputs_cons, Machine.outputs_nil, List.append_nil] at hengine hframes htriggers
  rw [← hbefore.refresh_eq] at hearly
  rcases hstage.tick hpanel hearly with ⟨hanswers, hfired, hshown⟩ | ⟨hmore, e', hquiet, hnext⟩
  · rw [hanswers] at hframes
    rw [hfired] at htriggers
    exact .inl ⟨hframes, htriggers, hrest, htimes', hengine ▸ hshown⟩
  · rw [hquiet.answers_eq, List.append_nil] at hframes
    rw [hquiet.fired_eq, List.append_nil] at htriggers
    rw [hquiet.serve_eq] at hengine
    exact .inr ⟨hmore, hframes, htriggers, hrest, htimes', hengine ▸ hnext⟩

/-- The refresh is waited for: it is reported once, and the panel is free. -/
lemma RestsIn.refreshes_run (hpanel : Compliant full effort benign works inPhase busy)
    {ts : List (Turn ω)} (hdata : ∀ turn ∈ ts, turn.data = none)
    (hbenign : ∀ turn ∈ ts, turn.Benign benign) (hprompt : Prompt refreshMs last ts)
    (hawaits : Awaits works n ts)
    (h : RestsIn transferMs refreshMs (Refreshes full busy before t last n) c) :
    Machine.outputs turnStep turnFrames c ts = [encodeAck respDirectWriteRefreshSuccess] ∧
      Machine.outputs turnStep turnTriggers c ts = [.refreshComplete] ∧
      RestsIn transferMs refreshMs (Refreshed full inPhase before t)
        (Machine.exec turnStep c ts) := by
  induction ts generalizing c n with
  | nil => exact hawaits.elim
  | cons turn ts ih =>
      obtain ⟨hturn, hts⟩ := List.forall_mem_cons.mp hdata
      obtain ⟨hmild, hbenigns⟩ := List.forall_mem_cons.mp hbenign
      obtain ⟨hpunctual, hlater⟩ := hprompt.of_none hturn
      have hstage := h.stage
      rw [Machine.outputs_cons, Machine.outputs_cons, Machine.exec_cons]
      cases turn with
      | panel event =>
          -- the panel may have worked, and may not
          obtain ⟨m, hbusy, hmore⟩ : ∃ m, busy m (PanelWorld.happen event c.engine.backend.panel) ∧
              Awaits works m ts := by
            rcases hawaits with hmore | ⟨hworks, hmore⟩
            · exact ⟨n, hpanel.still_busy hmild hstage.busy, hmore⟩
            · exact ⟨n - 1, hpanel.worked hworks hstage.busy, hmore⟩
          obtain ⟨hframes, htriggers, hnext⟩ :=
            h.quiet (Q := Refreshes full busy before t last m) hturn
              (quiet_world hstage.staged event)
              ⟨hstage.state_eq, hstage.owned, hstage.staged, hstage.due, hbusy, hstage.calls_eq⟩
          rw [hframes, htriggers]
          exact ih hts hbenigns hlater hmore hnext
      | round r =>
          have hpolls : Performs c (.round r : Turn ω) ([] ++ [.tick r.nowMs]) :=
            h.rest.performs_quiet hturn
          rcases Performs.of_poll hpanel hpolls h.times hstage hpunctual with
            ⟨hframes, htriggers, hnext⟩ | ⟨hmore, hframes, htriggers, hnext⟩
          · obtain ⟨hquiet, hsilent, hend⟩ := hnext.idles_run hpanel hts hbenigns
            rw [hframes, htriggers, hquiet, hsilent]
            exact ⟨rfl, rfl, hend⟩
          · rw [hframes, htriggers]
            exact ih hts hbenigns hlater (hawaits.resolve_left hmore) hnext

/-- The last packet, and the wait for the refresh. -/
lemma Performs.concludes (hpanel : Compliant full effort benign works inPhase busy) {r : Round}
    {op : EngineOp ω} (h : Performs c (.round r) [op, .tick r.nowMs])
    (htimes : TimesOut transferMs refreshMs c.engine)
    (hstage : Refreshes full busy before t r.packetMs effort (c.engine.serve op))
    (hearly : deadlinePassed r.nowMs (r.packetMs + refreshMs) = false) {ts : List (Turn ω)}
    (hdata : ∀ turn ∈ ts, turn.data = none) (hbenign : ∀ turn ∈ ts, turn.Benign benign)
    (hprompt : Prompt refreshMs r.packetMs ts) (hawaits : Awaits works effort ts) :
    Machine.outputs turnStep turnFrames c (.round r :: ts) =
        c.engine.answers op ++ [encodeAck respDirectWriteRefreshSuccess] ∧
      Machine.outputs turnStep turnTriggers c (.round r :: ts) =
        c.engine.fired op ++ [.refreshComplete] ∧
      RestsIn transferMs refreshMs (Refreshed full inPhase before t)
        (Machine.exec turnStep c (.round r :: ts)) := by
  have hpolls : Performs c (.round r) ([op] ++ [.tick r.nowMs]) := h
  rw [Machine.outputs_cons, Machine.outputs_cons, Machine.exec_cons]
  rcases Performs.of_poll hpanel hpolls htimes hstage hearly with
    ⟨hframes, htriggers, hnext⟩ | ⟨-, hframes, htriggers, hnext⟩
  · obtain ⟨hquiet, hsilent, hend⟩ := hnext.idles_run hpanel hdata hbenign
    rw [hframes, htriggers, hquiet, hsilent]
    exact ⟨by simp, by simp, hend⟩
  · obtain ⟨hreport, hcomplete, hend⟩ := hnext.refreshes_run hpanel hdata hbenign hprompt hawaits
    rw [hframes, htriggers, hreport, hcomplete]
    exact ⟨by simp, by simp, hend⟩

/-! ### The chunks -/

/-- A packet after which the transfer is under way still. -/
lemma Performs.stays {r : Round} {op : EngineOp ω} (h : Performs c (.round r) [op, .tick r.nowMs])
    (htimes : TimesOut transferMs refreshMs c.engine)
    (hunder : Underway full inPhase before t r.packetMs (c.engine.serve op))
    (hearly : deadlinePassed r.nowMs (r.packetMs + transferMs) = false) :
    c.turnFrames (.round r : Turn ω) = c.engine.answers op ∧
      c.turnTriggers (.round r : Turn ω) = c.engine.fired op ∧
      RestsIn transferMs refreshMs (Underway full inPhase before t r.packetMs)
        (c.turnStep (.round r : Turn ω)) := by
  refine h.of_quiet_tick htimes (quiet_tick_receiving hunder.filling.state_eq hunder.free
    hunder.staged ?_) hunder
  have hsame := (htimes.exec [op]).transfer_eq
  rw [Machine.exec_cons, Machine.exec_nil] at hsame
  rw [hunder.deadline, hsame]
  exact hearly

/-- How the chunks of a transfer are brought: a round with the next chunk, if it is a good one
and fits, is answered as `reply` says, and the transfer goes on. -/
def TakesPacked (ω : Type) [PanelWorld β ω] (transferMs refreshMs full : UInt32)
    (inPhase : PanelPhase → β → Prop) (mode : TransferMode)
    (pack : ℕ → List UInt8 → List UInt8) (limit : ℕ) (good : List UInt8 → Prop)
    (reply : List Response → Prop) : Prop :=
  ∀ ⦃c : OpenDisplayComponent (Recorder β)⦄ ⦃before : List BackendCall⦄ ⦃t : Transfer⦄
    ⦃last : UInt32⦄ ⦃r : Round⦄ ⦃chunk : List UInt8⦄,
    RestsIn transferMs refreshMs (Underway full inPhase before t last) c → t.mode = mode →
    r.data = some (pack t.chunks.length chunk) → FitsSlot (pack t.chunks.length chunk) →
    deadlinePassed r.nowMs (r.packetMs + transferMs) = false → good chunk →
    t.size + chunk.length < limit →
      reply (c.turnFrames (.round r : Turn ω)) ∧ c.turnTriggers (.round r : Turn ω) = [] ∧
        RestsIn transferMs refreshMs (Underway full inPhase before (t.accept chunk) r.packetMs)
          (c.turnStep (.round r : Turn ω))

lemma takes_directData (hpanel : Compliant full effort benign works inPhase busy) :
    TakesPacked ω transferMs refreshMs full inPhase .direct packDirect (full.toNat + 1) (· ≠ [])
      (· = [encodeAck cmdDirectWriteData]) := by
  intro c before t last r chunk h hmode hdata hfits hearly hgood hroom
  obtain ⟨p, rfl, hop⟩ := h.command (ω := ω) hdata hfits
  have hperforms := hop (.directData p r.packetMs) rfl
  obtain ⟨hanswers, hfired, hunder⟩ := h.stage.directData (ω := ω) hpanel hmode hgood
    (Nat.le_of_lt_succ hroom) r.packetMs
  obtain ⟨hframes, htriggers, hnext⟩ := hperforms.stays h.times hunder hearly
  exact ⟨hframes.trans hanswers, htriggers.trans hfired, hnext⟩

lemma takes_pipeData (hpanel : Compliant full effort benign works inPhase busy) :
    TakesPacked ω transferMs refreshMs full inPhase .pipe packPipe full.toNat (fun _ => True)
      (fun frames => ∀ r ∈ frames, r.bytes.head? ≠ some respNack) := by
  intro c before t last r chunk h hmode hdata hfits hearly _ hroom
  obtain ⟨p, hbytes, hop⟩ := h.command (ω := ω) hdata hfits
  have hperforms := hop (.pipeData p r.packetMs) rfl
  obtain ⟨hquiet, hfired, hunder⟩ := h.stage.pipeData (ω := ω) hpanel hmode hbytes
    hroom r.packetMs
  obtain ⟨hframes, htriggers, hnext⟩ := hperforms.stays h.times hunder hearly
  exact ⟨fun r hr => hquiet r (hframes ▸ hr), htriggers.trans hfired, hnext⟩

/-- Chunk after chunk, with any number of turns between them. -/
lemma RestsIn.sends (hpanel : Compliant full effort benign works inPhase busy) {mode : TransferMode}
    {pack : ℕ → List UInt8 → List UInt8} {limit : ℕ} {good : List UInt8 → Prop}
    {reply : List Response → Prop}
    (htakes : TakesPacked ω transferMs refreshMs full inPhase mode pack limit good reply)
    {ts : List (Turn ω)} {chunks : List (List UInt8)}
    (h : RestsIn transferMs refreshMs (Underway full inPhase before t last) c)
    (hmode : t.mode = mode) (hdata : ts.filterMap Turn.data = packed pack t.chunks.length chunks)
    (hfits : ∀ data ∈ packed pack t.chunks.length chunks, FitsSlot data)
    (hgood : ∀ chunk ∈ chunks, good chunk) (hroom : t.size + chunks.flatten.length < limit)
    (hbenign : ∀ turn ∈ ts, turn.Benign benign) (hprompt : Prompt transferMs last ts) :
    (∃ replies : List (List Response), replies.length = chunks.length ∧
      (∀ frames ∈ replies, reply frames) ∧
      Machine.outputs turnStep turnFrames c ts = replies.flatten) ∧
      Machine.outputs turnStep turnTriggers c ts = [] ∧
      ∃ last', RestsIn transferMs refreshMs
        (Underway full inPhase before (chunks.foldl Transfer.accept t) last')
        (Machine.exec turnStep c ts) := by
  induction ts generalizing c t last chunks with
  | nil =>
      cases chunks with
      | nil => exact ⟨⟨[], rfl, by simp, rfl⟩, rfl, last, h⟩
      | cons chunk chunks => cases hdata
  | cons turn ts ih =>
      obtain ⟨hmild, hbenigns⟩ := List.forall_mem_cons.mp hbenign
      rw [Machine.outputs_cons, Machine.outputs_cons, Machine.exec_cons]
      rcases hturn : turn.data with _ | data
      · obtain ⟨hpunctual, hlater⟩ := hprompt.of_none hturn
        obtain ⟨hframes, htriggers, hnext⟩ := h.waits hpanel hturn hmild hpunctual
        rw [List.filterMap_cons_none hturn] at hdata
        rw [hframes, htriggers]
        exact ih hnext hmode hdata hfits hgood hroom hbenigns hlater
      · rw [List.filterMap_cons_some hturn] at hdata
        cases turn with
        | panel event => cases hturn
        | round r =>
            cases chunks with
            | nil => cases hdata
            | cons chunk chunks =>
                have hsome : r.data = some data := hturn
                obtain ⟨hearly, hprompt⟩ := hprompt.of_some hsome
                obtain ⟨rfl, hrest⟩ := List.cons.inj hdata
                obtain ⟨hfirst, hfits⟩ := List.forall_mem_cons.mp hfits
                obtain ⟨hgood₁, hgood⟩ := List.forall_mem_cons.mp hgood
                rw [List.flatten_cons, List.length_append] at hroom
                obtain ⟨hreply, htriggers, hnext⟩ :=
                  htakes h hmode hsome hfirst hearly hgood₁ (by omega)
                obtain ⟨⟨replies, hlen, hreplies, hframes⟩, hsilent, hend⟩ := ih hnext hmode
                  (by rw [Transfer.length_chunks_accept]; exact hrest)
                  (by rw [Transfer.length_chunks_accept]; exact hfits) hgood
                  (by rw [Transfer.size_accept]; omega) hbenigns hprompt
                rw [htriggers, hsilent]
                refine ⟨⟨_ :: replies, by simp [hlen],
                  List.forall_mem_cons.mpr ⟨hreply, hreplies⟩, ?_⟩, rfl, hend⟩
                rw [hframes, List.flatten_cons]

/-! ### An image -/

/-- The panel is free and ready, and its calls are these once a transfer in flight is given
up. -/
structure FreeFor (inPhase : PanelPhase → β → Prop) (before : List BackendCall)
    (e : TransferEngine (Recorder β)) : Prop where
  free : e.hwOwned = false
  staged : e.hasTailSack = false
  ready : inPhase .ready e.backend.panel
  calls_eq : e.cleared.backend.calls = before

variable (ω) in
include ω in
/-- A component that has just been set up is free for a transmission once a client connects. -/
lemma restsIn_connected (panel : β) (settings : ComponentSettings) (temperature : Int)
    (hready : inPhase .ready panel) :
    RestsIn settings.transferTimeoutMs settings.refreshTimeoutMs (FreeFor inPhase [])
      (setup (Recorder.fresh panel) settings temperature).2.onBleConnect := by
  have hengine : (setup (Recorder.fresh panel) settings temperature).2.engine =
      .init (Recorder.fresh panel) settings.transferTimeoutMs settings.refreshTimeoutMs :=
    (setup_fresh (Recorder.fresh panel) settings temperature).1
  refine ⟨atRest_connected (ω := ω) _ _ _, ⟨?_, ?_⟩, ?_⟩
  · exact congrArg TransferEngine.transferTimeoutMs hengine
  · exact congrArg TransferEngine.refreshTimeoutMs hengine
  · rw [onBleConnect, hengine]
    exact ⟨rfl, rfl, hready, rfl⟩

/-- What the transmission of an image comes to. -/
structure DeliveredImage (transferMs refreshMs full : UInt32) (inPhase : PanelPhase → β → Prop)
    (before : List BackendCall) (image : List UInt8) (c : OpenDisplayComponent (Recorder β))
    (turns : List (Turn ω)) : Prop where
  told : ToldRefreshed (Machine.outputs turnStep turnFrames c turns)
  triggers_eq : Machine.outputs turnStep turnTriggers c turns =
    [.transferStarted, .refreshComplete]
  given : ∃ calls, FrameCalls full image calls ∧
    RestsIn transferMs refreshMs (FreeFor inPhase (before ++ calls))
      (Machine.exec turnStep c turns)

/-- A direct write is delivered, and each of its packets acknowledged. -/
lemma RestsIn.direct_delivered (hpanel : Compliant full effort benign works inPhase busy)
    (h : RestsIn transferMs refreshMs (FreeFor inPhase before) c) {x : Transmission ω}
    (hsound : x.Sound transferMs refreshMs effort benign works) {image : List UInt8}
    {chunks : List (List UInt8)} (hx : x.IsDirect image chunks)
    (hsize : image.length = full.toNat) :
    Machine.outputs turnStep turnFrames c x.turns = encodeAck cmdDirectWriteStart ::
        (List.replicate chunks.length (encodeAck cmdDirectWriteData) ++
          [encodeAck cmdDirectWriteEnd, encodeAck respDirectWriteRefreshSuccess]) ∧
      Machine.outputs turnStep turnTriggers c x.turns = [.transferStarted, .refreshComplete] ∧
      RestsIn transferMs refreshMs
        (Refreshed full inPhase before
          (chunks.foldl Transfer.accept (c.engine.openedTransfer .direct)))
        (Machine.exec turnStep c x.turns) := by
  have hfree := h.stage
  obtain ⟨p, hbytes, hop⟩ := h.command (ω := ω) hx.start_data (by decide)
  have hstart := hop (.directStart p x.start.packetMs) rfl
  have hlen : p.len = 0 := by rw [← p.length_bytes, hbytes, List.length_nil]
  obtain ⟨hanswers, hfired, hunder⟩ := underway_of_directStart (ω := ω) hpanel hfree.ready
    hfree.free hfree.staged hlen x.start.packetMs
  rw [hfree.calls_eq] at hunder
  obtain ⟨hearly, hprompt⟩ := hsound.prompt.of_some hx.start_data
  obtain ⟨hack, hstarted, hopened⟩ := hstart.stays h.times hunder hearly
  have hroom : (c.engine.openedTransfer .direct).size + chunks.flatten.length <
      full.toNat + 1 := by
    rw [hx.image_eq, hsize]
    exact Nat.lt_succ_of_le (Nat.le_of_eq (Nat.zero_add _))
  obtain ⟨⟨replies, hlength, hreplies, hframes⟩, hsilent, last', hfilled⟩ :=
    hopened.sends hpanel (takes_directData hpanel) rfl hx.sending_data
      (fun data hdata => hsound.fits_sending (hx.sending_data ▸ hdata)) hx.nonempty hroom
      hsound.benign_sending hprompt
  obtain ⟨tail, hstop⟩ := hx.stop_data
  obtain ⟨q, -, hop⟩ := hfilled.command (ω := ω) hstop (hsound.fits_stop hstop)
  have hend := hop (.directEnd q x.stop.packetMs) rfl
  have hfull : (chunks.foldl Transfer.accept (c.engine.openedTransfer .direct)).size =
      full.toNat := by
    rw [Transfer.foldl_accept]
    change chunks.flatten.length = full.toNat
    rw [hx.image_eq, hsize]
  obtain ⟨hended, hquiet, hrefreshes⟩ := hfilled.stage.directEnd (ω := ω) hpanel
    (by rw [Transfer.foldl_accept]; rfl) hfull q x.stop.packetMs
  obtain ⟨hlast, hpatient⟩ := hsound.patient.of_some hstop
  obtain ⟨htold, hcomplete, hall⟩ := hend.concludes hpanel hfilled.times hrefreshes hlast
    hsound.quiet hsound.benign_waiting hpatient hsound.awaits
  rw [Transmission.turns, Machine.outputs_cons, Machine.outputs_cons, Machine.outputs_append,
    Machine.outputs_append, Machine.exec_cons, Machine.exec_append, hack, hanswers, hstarted,
    hfired, hframes, hsilent, htold, hended, hcomplete, hquiet]
  refine ⟨?_, rfl, hall⟩
  have hreplicate : replies = List.replicate chunks.length [encodeAck cmdDirectWriteData] :=
    List.eq_replicate_iff.mpr ⟨hlength, hreplies⟩
  rw [hreplicate]
  simp

/-- A PIPE write is delivered. -/
lemma RestsIn.pipe_delivered (hpanel : Compliant full effort benign works inPhase busy)
    (h : RestsIn transferMs refreshMs (FreeFor inPhase before) c) {x : Transmission ω}
    (hsound : x.Sound transferMs refreshMs effort benign works) {image : List UInt8}
    {chunks : List (List UInt8)} {final : List UInt8} (hx : x.IsPipe full image chunks final)
    (hsize : image.length = full.toNat) :
    (∃ told : List Response, (∀ r ∈ told, r.bytes.head? ≠ some respNack) ∧
        Machine.outputs turnStep turnFrames c x.turns =
          told ++ [encodeAck cmdPipeWriteEnd, encodeAck respDirectWriteRefreshSuccess]) ∧
      Machine.outputs turnStep turnTriggers c x.turns = [.transferStarted, .refreshComplete] ∧
      RestsIn transferMs refreshMs
        (Refreshed full inPhase before
          ((chunks.foldl Transfer.accept (c.engine.openedTransfer .pipe)).accept final))
        (Machine.exec turnStep c x.turns) := by
  have hfree := h.stage
  have hlen := congrArg List.length hx.image_eq
  rw [List.length_append, hsize] at hlen
  have hpos := List.length_pos_iff.mpr hx.nonempty
  obtain ⟨bytes, header, hdata, hheader, hwell, htotal⟩ := hx.start_data
  have hfits : FitsSlot (commandBytes cmdPipeWriteStart bytes) :=
    hsound.fits_start hdata
  obtain ⟨p, rfl, hop⟩ := h.command (ω := ω) hdata hfits
  have hstart := hop (.pipeStart p x.start.packetMs) rfl
  obtain ⟨req, hparse, hflag, hreq⟩ := hwell.parsed hheader htotal
  obtain ⟨hquiet₀, hfired, hunder⟩ := underway_of_pipeStart (ω := ω) hpanel hfree.ready
    hfree.free hfree.staged hparse hflag hreq x.start.packetMs
  rw [hfree.calls_eq] at hunder
  obtain ⟨hearly, hprompt⟩ := hsound.prompt.of_some hdata
  obtain ⟨hack, hstarted, hopened⟩ := hstart.stays h.times hunder hearly
  have hsizes : (c.engine.openedTransfer .pipe).size = 0 := rfl
  obtain ⟨⟨replies, -, hreplies, hframes⟩, hsilent, last', hfilled⟩ :=
    hopened.sends hpanel (takes_pipeData hpanel) rfl hx.sending_data
      (fun data hdata => hsound.fits_sending (hx.sending_data ▸ hdata)) (fun _ _ => trivial)
      (by omega) hsound.benign_sending hprompt
  have hfold : chunks.foldl Transfer.accept (c.engine.openedTransfer .pipe) =
      { c.engine.openedTransfer .pipe with chunks := chunks } := by
    rw [Transfer.foldl_accept]
    rfl
  have hcount : (chunks.foldl Transfer.accept (c.engine.openedTransfer .pipe)).chunks = chunks := by
    rw [hfold]
  have hstop : x.stop.data = some (commandBytes cmdPipeWriteData
      (UInt8.ofNat (chunks.foldl Transfer.accept (c.engine.openedTransfer .pipe)).chunks.length ::
        final)) := by
    rw [hcount]
    exact hx.stop_data
  obtain ⟨q, hbytes, hop⟩ := hfilled.command (ω := ω) hstop (hsound.fits_stop hstop)
  have hend := hop (.pipeData q x.stop.packetMs) rfl
  have hfull : (chunks.foldl Transfer.accept (c.engine.openedTransfer .pipe)).size +
      final.length = full.toNat := by
    rw [hfold]
    exact hlen
  obtain ⟨⟨sack, hsack, hended⟩, hquiet, hrefreshes⟩ :=
    hfilled.stage.pipeLast (ω := ω) hpanel (by rw [hfold]; rfl) hbytes hfull x.stop.packetMs
  obtain ⟨hlast, hpatient⟩ := hsound.patient.of_some hstop
  obtain ⟨htold, hcomplete, hall⟩ := hend.concludes hpanel hfilled.times hrefreshes hlast
    hsound.quiet hsound.benign_waiting hpatient hsound.awaits
  rw [Transmission.turns, Machine.outputs_cons, Machine.outputs_cons, Machine.outputs_append,
    Machine.outputs_append, Machine.exec_cons, Machine.exec_append, hack, hstarted,
    hfired, hframes, hsilent, htold, hended, hcomplete, hquiet]
  refine ⟨⟨c.engine.answers (.pipeStart p x.start.packetMs : EngineOp ω) ++ replies.flatten ++
    [sack], fun r hr => ?_, by simp⟩, rfl, hall⟩
  rcases List.mem_append.mp hr with hr | hr
  · rcases List.mem_append.mp hr with hr | hr
    · exact hquiet₀ r hr
    · obtain ⟨frames, hmem, hr⟩ := List.mem_flatten.mp hr
      exact hreplies frames hmem r hr
  · rw [List.mem_singleton.mp hr]
    exact hsack

omit [PanelWorld β ω] in
/-- When the panel has been refreshed for all of a transfer, it has had the image in its calls,
and is free for the next one. -/
lemma image_of_refreshed {e : TransferEngine (Recorder β)} (h : Refreshed full inPhase before t e)
    {image : List UInt8} (himage : t.chunks.flatten = image) (hsize : image.length = full.toNat) :
    ∃ calls, FrameCalls full image calls ∧ FreeFor inPhase (before ++ calls) e := by
  obtain ⟨frame, pending, hframe, hcalls⟩ := h.calls_eq
  have hfull : t.size = full.toNat := by rw [Transfer.size, himage, hsize]
  obtain ⟨writes, hwrites, htiles, hsnd⟩ := t.writes_tile hfull
  refine ⟨_, ⟨frame, writes, pending, hframe, rfl, htiles, by rw [hsnd, himage]⟩, h.free,
    h.staged, h.ready, ?_⟩
  rw [TransferEngine.cleared, if_neg (by simp [h.state_eq]), hcalls, hwrites]

/-- One image, in either way. -/
lemma RestsIn.delivered (hpanel : Compliant full effort benign works inPhase busy)
    (h : RestsIn transferMs refreshMs (FreeFor inPhase before) c) {x : Transmission ω}
    (hsound : x.Sound transferMs refreshMs effort benign works) {image : List UInt8}
    (hx : x.Sends full image) (hsize : image.length = full.toNat) :
    DeliveredImage transferMs refreshMs full inPhase before image c x.turns := by
  cases hx with
  | direct chunks hx =>
      obtain ⟨htold, htriggers, hrest, htimes, hshown⟩ :=
        h.direct_delivered hpanel hsound hx hsize
      obtain ⟨calls, hcalls, hfree⟩ := image_of_refreshed hshown
        (by rw [Transfer.foldl_accept]; exact hx.image_eq) hsize
      refine ⟨⟨fun r hr => ?_, encodeAck cmdDirectWriteStart ::
        List.replicate chunks.length (encodeAck cmdDirectWriteData), _, .inl rfl, ?_⟩, htriggers,
        calls, hcalls, hrest, htimes, hfree⟩
      · rw [htold] at hr
        simp only [List.mem_cons, List.mem_append, List.mem_replicate, List.not_mem_nil,
          or_false] at hr
        rcases hr with rfl | ⟨-, rfl⟩ | rfl | rfl <;> simp [encodeAck, respAck, respNack]
      · rw [htold, List.cons_append]
  | pipe chunks final hx =>
      obtain ⟨⟨told, hquiet, htold⟩, htriggers, hrest, htimes, hshown⟩ :=
        h.pipe_delivered hpanel hsound hx hsize
      have himage : ((chunks.foldl Transfer.accept
          (c.engine.openedTransfer .pipe)).accept final).chunks.flatten = image := by
        rw [Transfer.foldl_accept, Transfer.chunks_accept, List.flatten_concat]
        exact hx.image_eq
      obtain ⟨calls, hcalls, hfree⟩ := image_of_refreshed hshown himage hsize
      refine ⟨⟨fun r hr => ?_, told, _, .inr rfl, htold⟩, htriggers, calls, hcalls, hrest,
        htimes, hfree⟩
      rw [htold] at hr
      simp only [List.mem_append, List.mem_cons, List.not_mem_nil, or_false] at hr
      rcases hr with hr | rfl | rfl
      · exact hquiet r hr
      all_goals simp [encodeAck, respAck, respNack]

/-- **A client's images are delivered**, one after another.  On a panel that takes whole frames
and ends its refreshes, from rest, every image of a frame's size that the client sends in lock
step, by direct writes or by PIPE, in chunks of its choice and with other turns between them,
is told of no fault and at last of its end and its refresh, fires one start and one completed
refresh, and is given to the panel whole, in calls of its own; then everything is at rest
again. -/
theorem images_delivered (hpanel : Compliant full effort benign works inPhase busy)
    (h : RestsIn transferMs refreshMs (FreeFor inPhase before) c)
    {jobs : List (Transmission ω × List UInt8)}
    (hjobs : ∀ job ∈ jobs, job.1.Sound transferMs refreshMs effort benign works ∧
      job.1.Sends full job.2 ∧ job.2.length = full.toNat) :
    ∃ (told : List (List Response)) (given : List (List BackendCall)),
      Machine.outputs turnStep turnFrames c (Transmission.allTurns jobs) = told.flatten ∧
      (∀ frames ∈ told, ToldRefreshed frames) ∧ told.length = jobs.length ∧
      Machine.outputs turnStep turnTriggers c (Transmission.allTurns jobs) =
        (jobs.map fun _ => [Effect.transferStarted, .refreshComplete]).flatten ∧
      List.Forall₂ (fun job calls => FrameCalls full job.2 calls) jobs given ∧
      RestsIn transferMs refreshMs (FreeFor inPhase (before ++ given.flatten))
        (Machine.exec turnStep c (Transmission.allTurns jobs)) := by
  induction jobs generalizing c before with
  | nil =>
      refine ⟨[], [], rfl, List.forall_mem_nil _, rfl, rfl, .nil, ?_⟩
      rw [List.flatten_nil, List.append_nil]
      exact h
  | cons job jobs ih =>
      obtain ⟨⟨hsound, hsends, hsize⟩, hrest⟩ := List.forall_mem_cons.mp hjobs
      obtain ⟨htold, htriggers, calls, hcalls, hnext⟩ :=
        h.delivered hpanel hsound hsends hsize
      obtain ⟨told, given, hframes, htolds, hlen, hfired, hgiven, hend⟩ := ih hnext hrest
      refine ⟨_ :: told, calls :: given, ?_, List.forall_mem_cons.mpr ⟨htold, htolds⟩,
        by simp [hlen], ?_, .cons hcalls hgiven, ?_⟩
      · rw [Transmission.allTurns_cons, Machine.outputs_append, hframes, List.flatten_cons]
      · rw [Transmission.allTurns_cons, Machine.outputs_append, htriggers, hfired, List.map_cons,
          List.flatten_cons]
      · rw [Transmission.allTurns_cons, Machine.exec_append, List.flatten_cons, ← List.append_assoc]
        exact hend

end Stages

end OpenDisplayComponent

/-! ### The ePaper SPI adapter -/

section EpaperSPI

variable {δ : Type} [DisplayDriver δ]

open DisplayDriver

/-- A driver that does not fail: a refresh keeps it busy, `left` says how much it still has to
do for it, and drawing does not matter. -/
structure Orderly (effort : ℕ) (fine : δ → Prop) (left : δ → ℕ) : Prop where
  not_failed : ∀ {d : δ}, fine d → isFailed d = false
  idle_iff : ∀ {d : δ}, fine d → (isIdle d = true ↔ left d = 0)
  updated : ∀ {d : δ}, fine d → left d = 0 →
    fine (update d) ∧ left (update d) ≠ 0 ∧ left (update d) ≤ effort
  drawn : ∀ {d : δ} (x y : ℕ) (color : Color), fine d →
    fine (drawPixelAt d x y color) ∧ left (drawPixelAt d x y color) = left d

/-- What the driver does does not add to its work. -/
def Tolerable (fine : δ → Prop) (left : δ → ℕ) (event : δ → δ) : Prop :=
  ∀ d, fine d → fine (event d) ∧ left (event d) ≤ left d

/-- The driver gets on with its work. -/
def Working (fine : δ → Prop) (left : δ → ℕ) (event : δ → δ) : Prop :=
  ∀ d, fine d → fine (event d) ∧ left (event d) ≤ left d - 1

variable {effort : ℕ} {fine : δ → Prop} {left : δ → ℕ}

lemma Orderly.drawBytes (h : Orderly effort fine left) (caps : DisplayCapabilities) {d : δ}
    (hfine : fine d) (offset : UInt32) (data : List UInt8) :
    fine (MonoPanel.drawBytes caps d offset data) ∧
      left (MonoPanel.drawBytes caps d offset data) = left d := by
  have hdraw : ∀ (d' _ : δ) (x y : ℕ) (color : Color), fine d' ∧ left d' = left d →
      fine (drawPixelAt d' x y color) ∧ left (drawPixelAt d' x y color) = left d := by
    rintro d' _ x y color ⟨hd', hleft⟩
    obtain ⟨hdrawn, hsame⟩ := h.drawn x y color hd'
    exact ⟨hdrawn, hsame.trans hleft⟩
  exact @MonoPanel.drawBytes_rel _ _ _ _ (fun d' (_ : δ) => fine d' ∧ left d' = left d) hdraw caps
    d d ⟨hfine, rfl⟩ offset data

/-- The display of an adapter is an orderly driver that is this far. -/
def DriverIs (caps : DisplayCapabilities) (b : EpaperSPIBackend δ) (p : δ → Prop) : Prop :=
  b.caps = caps ∧ ∃ d, b.display = some d ∧ p d

/-- An idle driver takes the update. -/
lemma Orderly.beginRefresh (h : Orderly effort fine left) {b : EpaperSPIBackend δ} {d : δ}
    (hdisplay : b.display = some d) (hd : fine d) (hleft : left d = 0) :
    b.beginRefresh {} = (.ok, { b with display := some (update d), refreshStarted := true }) := by
  have hidle := (h.idle_iff hd).mpr hleft
  obtain ⟨hfine, hmore, -⟩ := h.updated hd hleft
  have hbusy : isIdle (update d) = false := by
    rw [Bool.eq_false_iff, Ne, h.idle_iff hfine]
    exact hmore
  rw [EpaperSPIBackend.beginRefresh, hdisplay]
  dsimp only
  rw [if_neg (by simp [hidle]), if_neg (by simp [hbusy])]

omit [DisplayDriver δ] in
lemma DriverIs.happen {caps : DisplayCapabilities} {b : EpaperSPIBackend δ} {p q : δ → Prop}
    (h : DriverIs caps b p) {event : δ → δ} (hpq : ∀ d, p d → q (event d)) :
    DriverIs caps (PanelWorld.happen event b) q := by
  obtain ⟨hcaps, d, hdisplay, hd⟩ := h
  refine ⟨hcaps, event d, ?_, hpq d hd⟩
  change b.display.map event = _
  rw [hdisplay]
  rfl

/-- The adapter does as it is told, over an orderly driver. -/
lemma EpaperSPIBackend.compliant (h : Orderly effort fine left) (caps : DisplayCapabilities) :
    Compliant caps.fullFrameBytes effort (Tolerable fine left) (Working fine left)
      (fun _ (b : EpaperSPIBackend δ) => DriverIs caps b fun d => fine d ∧ left d = 0)
      fun n b => b.refreshStarted = true ∧ DriverIs caps b fun d => fine d ∧ left d ≤ n where
  full_eq := fun ⟨hcaps, _⟩ => congrArg DisplayCapabilities.fullFrameBytes hcaps
  aborted := id
  begun := by
    rintro b ⟨rfl, d, hdisplay, hd⟩
    have hbegin : b.beginFrame { totalBytes := b.caps.fullFrameBytes
                                 colorScheme := b.caps.colorScheme } =
        (.ok, { b with refreshStarted := false }) := by
      rw [EpaperSPIBackend.beginFrame, if_neg (by simp [hdisplay])]
      simp [MonoPanel.checkFrame]
    refine ⟨congrArg Prod.fst hbegin, ?_⟩
    have hafter : DriverIs b.caps (b.beginFrame { totalBytes := b.caps.fullFrameBytes
                                                  colorScheme := b.caps.colorScheme }).2
        fun d => fine d ∧ left d = 0 := by
      rw [hbegin]
      exact ⟨rfl, d, hdisplay, hd⟩
    exact hafter
  written := by
    rintro b n data ⟨rfl, d, hdisplay, hd, hleft⟩ hfit
    have hoffset : (UInt32.ofNat n).toNat = n := by
      have hlt := b.caps.fullFrameBytes.toNat_lt
      rw [UInt32.toNat_ofNat']
      exact Nat.mod_eq_of_lt (by omega)
    have hwithin : (UInt32.ofNat n).toNat + data.length ≤ b.caps.fullFrameBytes.toNat := by
      rw [hoffset]
      exact hfit
    have hwrite := MonoPanel.writeContiguous_eq d hwithin
    obtain ⟨hfine, hsame⟩ := h.drawBytes b.caps hd (UInt32.ofNat n) data
    change (b.writeContiguous _ data).1 = .ok ∧ DriverIs _ (b.writeContiguous _ data).2 _
    rw [EpaperSPIBackend.writeContiguous, hdisplay, hwrite]
    exact ⟨rfl, rfl, _, rfl, hfine, hsame.trans hleft⟩
  finished := fun hphase => ⟨rfl, hphase⟩
  refreshes := by
    rintro b ⟨-, d, hdisplay, hd, hleft⟩
    exact congrArg Prod.fst (h.beginRefresh hdisplay hd hleft)
  undisturbed := fun hevent hphase => hphase.happen fun d ⟨hd, hleft⟩ => by
    obtain ⟨hfine, hle⟩ := hevent d hd
    exact ⟨hfine, by omega⟩
  still_busy := fun hevent ⟨hstarted, hbusy⟩ => ⟨hstarted, hbusy.happen fun d ⟨hd, hleft⟩ => by
    obtain ⟨hfine, hle⟩ := hevent d hd
    exact ⟨hfine, by omega⟩⟩
  worked := fun hevent ⟨hstarted, hbusy⟩ => ⟨hstarted, hbusy.happen fun d ⟨hd, hleft⟩ => by
    obtain ⟨hfine, hle⟩ := hevent d hd
    exact ⟨hfine, by omega⟩⟩
  starts := by
    rintro b ⟨rfl, d, hdisplay, hd, hleft⟩
    have hbegin := h.beginRefresh hdisplay hd hleft
    obtain ⟨hfine, -, hle⟩ := h.updated hd hleft
    change (b.beginRefresh {}).2.refreshStarted = true ∧ DriverIs _ (b.beginRefresh {}).2 _
    rw [hbegin]
    exact ⟨rfl, rfl, _, rfl, hfine, hle⟩
  polled := by
    rintro n b ⟨hstarted, rfl, d, hdisplay, hd, hleft⟩
    change (b.pollRefresh.1 = .complete ∧ DriverIs _ b.pollRefresh.2 _) ∨
      n ≠ 0 ∧ b.pollRefresh.1 = .pending ∧ b.pollRefresh.2.refreshStarted = true ∧
        DriverIs _ b.pollRefresh.2 _
    rw [EpaperSPIBackend.pollRefresh, hdisplay]
    dsimp only
    rw [if_neg (by simp [h.not_failed hd]), if_neg (by simp [hstarted])]
    rcases hidle : isIdle d with _ | _
    · refine .inr ⟨?_, rfl, hstarted, rfl, d, hdisplay, hd, hleft⟩
      rintro rfl
      have hdone := (h.idle_iff hd).mpr (Nat.le_zero.mp hleft)
      cases hidle.symm.trans hdone
    · exact .inl ⟨rfl, rfl, d, rfl, hd, (h.idle_iff hd).mp hidle⟩

end EpaperSPI

/-! ### Two images -/

/-- A driver that is busy for two of its steps after an update. -/
structure SteppingDriver where
  left : ℕ := 0

instance : DisplayDriver SteppingDriver where
  isFailed _ := false
  isIdle d := d.left == 0
  rotation _ := .degrees0
  nativeWidth _ := 8
  nativeHeight _ := 3
  update _ := ⟨2⟩
  drawPixelAt d _ _ _ := d

/-- One step of its own. -/
def SteppingDriver.step (d : SteppingDriver) : SteppingDriver := ⟨d.left - 1⟩

lemma SteppingDriver.orderly : Orderly 2 (fun _ : SteppingDriver => True) left where
  not_failed _ := rfl
  idle_iff _ := beq_iff_eq
  updated _ _ := ⟨trivial, Nat.succ_ne_zero 1, le_rfl⟩
  drawn _ _ _ _ := ⟨trivial, rfl⟩

lemma SteppingDriver.working_step : Working (fun _ => True) left step :=
  fun _ _ => ⟨trivial, le_rfl⟩

lemma SteppingDriver.tolerable_step : Tolerable (fun _ => True) left step :=
  fun _ _ => ⟨trivial, Nat.sub_le _ _⟩

/-- What `init` states for a panel of eight by three pixels. -/
def SteppingDriver.caps : DisplayCapabilities :=
  (MonoPanel.initCaps (some ({} : SteppingDriver)) {}).getD {}

/-- The adapter as `init` leaves it. -/
def SteppingDriver.epaper : EpaperSPIBackend SteppingDriver := { display := some {}, caps := caps }

example : EpaperSPIBackend.init (⟨some {}, {}, false⟩ : EpaperSPIBackend SteppingDriver) =
    some SteppingDriver.epaper := by rfl

/-- Turns in which nothing is written, and the driver goes on after each. -/
def steppingTurns (times : List UInt32) : List (Turn (SteppingDriver → SteppingDriver)) :=
  times.flatMap fun nowMs => [.round { nowMs := nowMs }, .panel SteppingDriver.step]

/-- An image of three bytes, by direct writes. -/
def directThree : Transmission (SteppingDriver → SteppingDriver) where
  start := { data := some [0x00, 0x70], nowMs := 1 }
  sending := .round { data := some [0x00, 0x71, 7, 8], nowMs := 2, packetMs := 3 } ::
      steppingTurns [3] ++
    [.round { data := some [0x00, 0x71, 9], nowMs := 4 }]
  stop := { data := some [0x00, 0x72, 0], nowMs := 5 }
  waiting := steppingTurns [6, 7, 8]

/-- An image of three bytes, by PIPE. -/
def pipeThree : Transmission (SteppingDriver → SteppingDriver) where
  start := { data := some [0x00, 0x80, 1, 0, 16, 4, 0xF4, 0, 3, 0, 0, 0], nowMs := 11 }
  sending := [.round { data := some [0x00, 0x81, 0, 7], nowMs := 12 }]
  stop := { data := some [0x00, 0x81, 1, 8, 9], nowMs := 13 }
  waiting := steppingTurns [14, 15, 16]

lemma benign_steppingTurns (times : List UInt32) : ∀ turn ∈ steppingTurns times,
    turn.Benign (Tolerable (fun _ => True) SteppingDriver.left) := by
  intro turn hturn
  obtain ⟨nowMs, -, hmem⟩ := List.mem_flatMap.mp hturn
  simp only [List.mem_cons, List.not_mem_nil, or_false] at hmem
  rcases hmem with rfl | rfl
  · trivial
  · exact SteppingDriver.tolerable_step

lemma directThree_sound : directThree.Sound 30000 180000 2
    (Tolerable (fun _ => True) SteppingDriver.left)
    (Working (fun _ => True) SteppingDriver.left) where
  fits := by decide
  benign := by
    simp only [Transmission.turns, directThree, List.cons_append, List.forall_mem_cons,
      List.forall_mem_append]
    exact ⟨trivial, trivial, ⟨benign_steppingTurns _, trivial, List.forall_mem_nil _⟩, trivial,
      benign_steppingTurns _⟩
  prompt := by decide
  quiet := by decide
  patient := by decide
  awaits := .inr (.inr ⟨SteppingDriver.working_step,
    .inr (.inr ⟨SteppingDriver.working_step, .inl rfl⟩)⟩)

lemma pipeThree_sound : pipeThree.Sound 30000 180000 2
    (Tolerable (fun _ => True) SteppingDriver.left)
    (Working (fun _ => True) SteppingDriver.left) where
  fits := by decide
  benign := by
    simp only [Transmission.turns, pipeThree, List.cons_append, List.nil_append,
      List.forall_mem_cons]
    exact ⟨trivial, trivial, trivial, benign_steppingTurns _⟩
  prompt := by decide
  quiet := by decide
  patient := by decide
  awaits := .inr (.inr ⟨SteppingDriver.working_step,
    .inr (.inr ⟨SteppingDriver.working_step, .inl rfl⟩)⟩)

lemma directThree_isDirect : directThree.IsDirect [7, 8, 9] [[7, 8], [9]] :=
  ⟨rfl, rfl, ⟨[0], rfl⟩, by decide, rfl⟩

lemma pipeThree_isPipe : pipeThree.IsPipe 3 [7, 8, 9] [[7]] [8, 9] :=
  ⟨⟨[1, 0, 16, 4, 0xF4, 0, 3, 0, 0, 0], _, rfl, rfl, ⟨rfl, rfl, by decide, by decide⟩, rfl⟩, rfl,
    rfl, by decide, rfl⟩

namespace OpenDisplayComponent

/-- A component that has just been set up, on the ePaper SPI adapter. -/
def freshEpaper : OpenDisplayComponent (Recorder (EpaperSPIBackend SteppingDriver)) :=
  (setup (Recorder.fresh SteppingDriver.epaper) defaultSettings 80).2

/-- Both images are delivered. -/
theorem images_delivered_two :
    ∃ (told : List (List Response)) (given : List (List BackendCall)),
      Machine.outputs turnStep turnFrames freshEpaper.onBleConnect
        (Transmission.allTurns [(directThree, [7, 8, 9]), (pipeThree, [7, 8, 9])]) =
          told.flatten ∧
      (∀ frames ∈ told, ToldRefreshed frames) ∧ told.length = 2 ∧
      Machine.outputs turnStep turnTriggers freshEpaper.onBleConnect
        (Transmission.allTurns [(directThree, [7, 8, 9]), (pipeThree, [7, 8, 9])]) =
          [.transferStarted, .refreshComplete, .transferStarted, .refreshComplete] ∧
      List.Forall₂ (fun job calls => FrameCalls 3 job.2 calls)
        [(directThree, [7, 8, 9]), (pipeThree, [7, 8, 9])] given ∧
      RestsIn 30000 180000 (FreeFor (fun _ (b : EpaperSPIBackend SteppingDriver) =>
        DriverIs SteppingDriver.caps b fun d => True ∧ d.left = 0) ([] ++ given.flatten))
        (Machine.exec turnStep freshEpaper.onBleConnect
          (Transmission.allTurns [(directThree, [7, 8, 9]), (pipeThree, [7, 8, 9])])) := by
  have hrests : RestsIn 30000 180000 (FreeFor (fun _ (b : EpaperSPIBackend SteppingDriver) =>
      DriverIs SteppingDriver.caps b fun d => True ∧ d.left = 0) [])
      freshEpaper.onBleConnect := by
    refine restsIn_connected (SteppingDriver → SteppingDriver) SteppingDriver.epaper
      defaultSettings 80 ?_
    exact ⟨rfl, {}, rfl, trivial, rfl⟩
  refine images_delivered (EpaperSPIBackend.compliant SteppingDriver.orderly SteppingDriver.caps)
    hrests ?_
  simp only [List.forall_mem_cons]
  exact ⟨⟨directThree_sound, .direct _ directThree_isDirect, rfl⟩,
    ⟨pipeThree_sound, .pipe _ _ pipeThree_isPipe, rfl⟩, List.forall_mem_nil _⟩

end OpenDisplayComponent

end OpenDisplay
