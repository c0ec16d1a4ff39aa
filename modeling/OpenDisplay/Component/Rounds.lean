import OpenDisplay.Component.FlowControl
import OpenDisplay.Component.LoopOnce
import OpenDisplay.Component.Respond
import OpenDisplay.Engine.Delivery

/-!
# A client in lock step

A client that writes a packet, lets the component go once through its loop and reads what it
is notified, before it writes again.  Whatever it writes, every answer comes in the same
round, and the component is at rest after it: its queues are empty, and its engine has
performed the operation of the packet and a tick (`lock_step_client_served`).  So such a
client talks to the engine, and what the engine does for a transfer it does for the client.
-/

namespace OpenDisplay

variable {β ω : Type} [OpenDisplayBackend β] [PanelWorld β ω]

/-- A round: the client may write a packet, and the component goes through its loop.  The clock
is read at the start of the loop, before that where the packet is written, and once more where
it is handled. -/
structure Round where
  data : Option (List UInt8) := none
  nowMs : UInt32
  writtenMs : UInt32 := nowMs
  packetMs : UInt32 := nowMs
  chipTemperatureEncoded : Int := 80

/-- A turn: a round, or something that happens to the panel between two of them. -/
inductive Turn (ω : Type)
  | panel (event : ω)
  | round (r : Round)

/-- The receive queue can hold the packet. -/
def FitsSlot (data : List UInt8) : Prop := 0 < data.length ∧ data.length ≤ rxSlotBytes

instance (data : List UInt8) : Decidable (FitsSlot data) :=
  inferInstanceAs (Decidable (_ ∧ _))

/-! ### Triggers -/

/-- The effect fires an automation. -/
def Effect.isTrigger : Effect → Bool
  | .transferStarted | .refreshComplete | .error _ => true
  | _ => false

/-- The automations that are fired, in order. -/
def triggers (fx : List Effect) : List Effect := fx.filter Effect.isTrigger

@[simp] lemma triggers_append (fx gx : List Effect) :
    triggers (fx ++ gx) = triggers fx ++ triggers gx := List.filter_append ..

lemma triggers_notified (frames : List Response) : triggers (frames.map .notified) = [] := by
  rw [triggers, List.filter_eq_nil_iff]
  intro fx hfx
  obtain ⟨r, -, rfl⟩ := List.mem_map.mp hfx
  exact Bool.false_ne_true

@[simp] lemma notifiedFrames_notified (frames : List Response) :
    notifiedFrames (frames.map .notified) = frames := by
  rw [notifiedFrames, List.filterMap_map]
  exact List.filterMap_some

namespace OpenDisplayComponent

/-- The automations that `apply_result_` fires. -/
def resultTriggers (e : TransferEngine β) (res : EngineResult) : List Effect :=
  (if res.transferStarted then [.transferStarted] else []) ++
    (if res.refreshComplete then [.refreshComplete] else []) ++
    (if res.refreshTimeout then [.error (errorToString e.lastError)] else []) ++
    if res.terminalError then [.error (errorToString e.lastError)] else []

end OpenDisplayComponent

namespace TransferEngine

/-- The frames for the client of an operation, the staged SACK first. -/
def answers (e : TransferEngine β) (op : EngineOp ω) : List Response :=
  nonEmptyFrames (OpenDisplayComponent.resultFrames (e.step op).takeTailSack.1 (e.perform op).1)

/-- The automations that an operation fires. -/
def fired (e : TransferEngine β) (op : EngineOp ω) : List Effect :=
  OpenDisplayComponent.resultTriggers (e.step op) (e.perform op).1

end TransferEngine

namespace OpenDisplayComponent

/-- The part fires these automations, and leaves the error code alone. -/
structure Fires (c : OpenDisplayComponent β) (fx : List Effect) (done : Done β) : Prop where
  triggers_eq : triggers done.1 = fx
  lastError_eq : done.2.engine.lastError = c.engine.lastError

section Fires

omit [OpenDisplayBackend β]

variable {c : OpenDisplayComponent β} {done : Done β} {fx gx : List Effect}

lemma Fires.andThen (h : Fires c fx done) {f : OpenDisplayComponent β → Done β}
    (hf : done.2.engine.lastError = c.engine.lastError → Fires done.2 gx (f done.2)) :
    Fires c (fx ++ gx) (OpenDisplayComponent.andThen done f) where
  triggers_eq := by
    rw [OpenDisplayComponent.andThen, triggers_append, h.triggers_eq,
      (hf h.lastError_eq).triggers_eq]
  lastError_eq := (hf h.lastError_eq).lastError_eq.trans h.lastError_eq

lemma Fires.ite (p : Prop) [Decidable p] (h : Fires c fx done) :
    Fires c (if p then fx else []) (if p then done else ([], c)) := by
  split_ifs
  · exact h
  · exact ⟨rfl, rfl⟩

lemma fires_send (c : OpenDisplayComponent β) (r : Response) (terminal : Bool) :
    Fires c [] (c.send r terminal) where
  triggers_eq := by
    rw [send]
    dsimp only
    split_ifs <;> rfl
  lastError_eq := rfl

lemma fires_raiseError (c : OpenDisplayComponent β) :
    Fires c [.error (errorToString c.engine.lastError)] c.raiseError := ⟨rfl, rfl⟩

lemma fires_refreshComplete (c : OpenDisplayComponent β) :
    Fires c [.refreshComplete] ([.refreshComplete], c) := ⟨rfl, rfl⟩

lemma fires_applyResult (c : OpenDisplayComponent β) (res : EngineResult) :
    Fires c (resultTriggers c.engine res) (c.applyResult res) := by
  have hlist : resultTriggers c.engine res =
      (((([] ++ (if !res.response.isEmpty then [] else [])) ++
        (if res.transferStarted then [.transferStarted] else [])) ++
        (if res.refreshComplete then [] ++ [.refreshComplete] else [])) ++
        (if res.refreshTimeout then [] ++ [.error (errorToString c.engine.lastError)] else [])) ++
        if res.terminalError then [.error (errorToString c.engine.lastError)] else [] := by
    simp [resultTriggers]
  rw [hlist, applyResult]
  refine ((((Fires.andThen ?_ fun _ => .ite _ (fires_send _ _ _)).andThen fun _ => ?_).andThen
    fun _ => .ite _ ((fires_send _ _ _).andThen fun _ => fires_refreshComplete _)).andThen
    fun herror => .ite _ ((fires_send _ _ _).andThen fun hsame => ?_)).andThen
    fun herror => .ite _ ?_
  · rcases c.engine.takeTailSack.1 with _ | tail
    · exact ⟨rfl, TransferEngine.takeTailSack_lastError _⟩
    · exact ⟨(fires_send _ tail true).triggers_eq, TransferEngine.takeTailSack_lastError _⟩
  · rcases res.transferStarted with _ | _ <;> exact ⟨rfl, rfl⟩
  · rw [← herror, ← hsame]
    exact fires_raiseError _
  · rw [← herror]
    exact fires_raiseError _

end Fires

lemma Settled.serve {e : TransferEngine β} (h : Settled e) (op : EngineOp ω) :
    Settled (e.serve op) := by
  obtain ⟨t, hledger⟩ := h.ledger
  exact ⟨⟨_, (hledger.step op).step (.takeTailSack : EngineOp ω)⟩,
    TransferEngine.takeTailSack_hasTailSack _⟩

/-- Nothing is left to do: the queues are empty, and there is a client. -/
structure AtRest (c : OpenDisplayComponent β) : Prop where
  settled : Settled c.engine
  connected : c.connected = true
  rx_eq : c.rx.toList = []
  tx_eq : c.tx.toList = []

include ω in
/-- A component that has just been set up is at rest once a client connects. -/
lemma atRest_connected (b : β) (settings : ComponentSettings) (temperature : Int) :
    AtRest (setup b settings temperature).2.onBleConnect := by
  obtain ⟨-, hrx, htx, -⟩ := setup_fresh b settings temperature
  refine ⟨?_, rfl, ?_, ?_⟩
  · exact (settled_setup b settings temperature).step (.bleConnect : ComponentOp ω)
  · change (setup b settings temperature).2.rx.toList = []
    rw [hrx, RxQueue.toList_init]
  · change (setup b settings temperature).2.tx.toList = []
    rw [htx, TxQueue.toList_init]

/-- The component with the packet of the round. -/
def received (c : OpenDisplayComponent β) (r : Round) : OpenDisplayComponent β :=
  match r.data with
  | none => c
  | some data => c.onBleWrite data r.writtenMs

/-- One round. -/
def round (c : OpenDisplayComponent β) (r : Round) : Done β :=
  (c.received r).loopWhole r.nowMs (fun _ => r.packetMs) r.chipTemperatureEncoded

/-- One turn. -/
def turn (c : OpenDisplayComponent β) : Turn ω → Done β
  | .panel event =>
      ([], { c with engine.backend := PanelWorld.happen event c.engine.backend })
  | .round r => c.round r

/-- The component after a turn. -/
def turnStep (c : OpenDisplayComponent β) (t : Turn ω) : OpenDisplayComponent β := (c.turn t).2

/-- What the client is notified in a turn. -/
def turnFrames (c : OpenDisplayComponent β) (t : Turn ω) : List Response :=
  notifiedFrames (c.turn t).1

/-- The automations that a turn fires. -/
def turnTriggers (c : OpenDisplayComponent β) (t : Turn ω) : List Effect := triggers (c.turn t).1

/-- The packet that the round takes. -/
def taken (c : OpenDisplayComponent β) (r : Round) : Option RxPacket := (c.received r).rx.pop.1

/-- The handling of the packet of the round. -/
def handle (c : OpenDisplayComponent β) (r : Round) : Done β :=
  match (c.received r).rx.pop with
  | (none, rx) => ([], { c.received r with rx := rx })
  | (some pkt, rx) => { c.received r with rx := rx }.handlePacket pkt r.packetMs

/-! ### The drains -/

omit [OpenDisplayBackend β] [PanelWorld β ω] in
/-- The notifications of all that waits. -/
lemma drainTx_of_le {left : ℕ} {c : OpenDisplayComponent β} (h : c.tx.used ≤ left) :
    (c.drainTx left).1 = c.tx.toList.map .notified ∧
      ∃ tx, tx.toList = [] ∧ (c.drainTx left).2 = { c with tx := tx } := by
  induction left generalizing c with
  | zero =>
      have hnil : c.tx.toList = [] := by
        rw [← List.length_eq_zero_iff, TxQueue.length_toList]
        omega
      exact ⟨by rw [hnil]; rfl, c.tx, hnil, rfl⟩
  | succ left ih =>
      rw [drainTx]
      rcases hpop : c.tx.pop with ⟨_ | r, tx⟩
      · have hnil := TxQueue.toList_eq_nil_of_pop (congrArg Prod.fst hpop)
        have htx : tx = c.tx := by
          rw [← TxQueue.toList_pop_none (congrArg Prod.fst hpop), hpop]
        subst htx
        exact ⟨by rw [hnil]; rfl, c.tx, hnil, rfl⟩
      · have hlist := TxQueue.toList_pop_some (congrArg Prod.fst hpop)
        rw [hpop] at hlist
        dsimp only at hlist
        have hless : tx.used ≤ left := by
          rw [← TxQueue.length_toList] at h ⊢
          rw [hlist, List.length_cons] at h
          omega
        obtain ⟨hfx, tx', hnil, hrest⟩ := ih (c := { c with tx := tx }) hless
        refine ⟨?_, tx', hnil, hrest⟩
        rw [hlist, List.map_cons, ← hfx]
        rfl

omit [PanelWorld β ω] in
lemma drainRx_of_nil {c : OpenDisplayComponent β} (h : c.rx.toList = []) (millis : ℕ → UInt32)
    (left : ℕ) : c.drainRx millis left = ([], c) := by
  rcases left with _ | left
  · rfl
  · have hpop : c.rx.pop = (none, c.rx) := by
      rw [RxQueue.pop, if_pos ((RingBuffer.isEmpty_iff_toList _).mpr h)]
    rw [drainRx, hpop]

omit [PanelWorld β ω] in
/-- The only packet that waits is handled. -/
lemma drainRx_of_one {c : OpenDisplayComponent β} {pkt : RxPacket} (h : c.rx.toList = [pkt])
    (hcurrent : pkt.connectionGeneration = c.connectionGeneration) (millis : ℕ → UInt32)
    (left : ℕ) : c.drainRx millis (left + 1) =
      { c with rx := c.rx.pop.2 }.handlePacket pkt (millis 0) := by
  rcases hpop : c.rx.pop with ⟨_ | pkt', rx⟩
  · rw [RxQueue.toList_eq_nil_of_pop (congrArg Prod.fst hpop)] at h
    cases h
  · have hlist := RxQueue.toList_pop_some (congrArg Prod.fst hpop)
    rw [h, hpop] at hlist
    obtain ⟨rfl, hnil⟩ := List.cons.inj hlist
    rw [drainRx, hpop]
    dsimp only
    rw [if_neg (fun hne => hne hcurrent), andThen]
    obtain ⟨_, _, _, _, hsame⟩ :=
      sameLoop_handlePacket { c with rx := rx } pkt (millis 0)
    have hrest : ({ c with rx := rx }.handlePacket pkt (millis 0)).2.rx.toList = [] := by
      rw [hsame]
      exact hnil.symm
    rw [drainRx_of_nil hrest, List.append_nil]

/-! ### The packet of a round -/

/-- What the handling of the packet of a round leaves for the rest of it. -/
structure Handled (done : Done β) : Prop where
  settled : Settled done.2.engine
  connected : done.2.connected = true
  rx_eq : done.2.rx.toList = []
  tx_eq : done.2.tx.toList = queuedFrames done.1
  load_le : done.2.load ≤ 4
  notified_eq : notifiedFrames done.1 = []

omit [PanelWorld β ω] [OpenDisplayBackend β] in
lemma AtRest.load_le {c : OpenDisplayComponent β} (h : AtRest c) : c.load ≤ 1 := by
  have htx : c.tx.used = 0 := by rw [← TxQueue.length_toList, h.tx_eq, List.length_nil]
  rw [load, htx, h.rx_eq, List.length_nil, Nat.zero_add]
  exact TransferEngine.owed_le _

include ω in
lemma settled_handlePacket {c : OpenDisplayComponent β} (h : Settled c.engine) (pkt : RxPacket)
    (nowMs : UInt32) : Settled (c.handlePacket pkt nowMs).2.engine := by
  have hafter := engine_after (ω := ω) c h.staged (.packet pkt nowMs)
  change (c.handlePacket pkt nowMs).2.engine = _ at hafter
  rw [hafter]
  rcases (Stimulus.packet pkt nowMs : Stimulus ω).engineOp with _ | op
  · exact h
  · exact h.serve op

include ω in
lemma notified_handlePacket (c : OpenDisplayComponent β) (pkt : RxPacket) (nowMs : UInt32) :
    notifiedFrames (c.handlePacket pkt nowMs).1 = [] := by
  have ho := handlePacket_outcome (ω := ω) c pkt nowMs
  generalize c.handlePacket pkt nowMs = done at ho ⊢
  cases ho with
  | runt => rfl
  | version | unsupported => exact (sends_send c _ _).notified_eq
  | msd => exact ((sends_send c _ _).andThen (.silent rfl rfl rfl rfl)).notified_eq
  | answered => exact (sends_applyResult _ _).notified_eq
  | config =>
      rw [sendConfig]
      dsimp only
      split_ifs
      · exact (sends_send c _ _).notified_eq
      · rw [notifiedFrames, List.filterMap_eq_nil_iff]
        intro fx hfx
        obtain ⟨_, -, rfl⟩ := mem_sendChunks hfx
        rfl

include ω in
/-- The handling of a packet of a component at rest. -/
lemma AtRest.handled_packet {c : OpenDisplayComponent β} (h : AtRest c) {rx : RxQueue}
    (hrx : rx.toList = []) (pkt : RxPacket) (nowMs : UInt32) :
    Handled ({ c with rx := rx }.handlePacket pkt nowMs) := by
  have hload : ({ c with rx := rx } : OpenDisplayComponent β).load ≤ 1 := by
    have hle := h.load_le
    rw [load, h.rx_eq] at hle
    rw [load, hrx]
    exact hle
  have hroom : c.tx.used + 2 ≤ txOpenSlots := by
    rw [← TxQueue.length_toList, h.tx_eq]
    decide
  obtain ⟨_, _, _, _, hsame⟩ := sameLoop_handlePacket { c with rx := rx } pkt nowMs
  have hconserves := (handlePacket_outcome (ω := ω) { c with rx := rx } pkt nowMs).conserves
  have hnotified := notified_handlePacket (ω := ω) { c with rx := rx } pkt nowMs
  exact {
    settled := settled_handlePacket (ω := ω) (c := { c with rx := rx }) h.settled pkt nowMs
    connected := by
      rw [hsame]
      exact h.connected
    rx_eq := by
      rw [hsame]
      exact hrx
    tx_eq := by
      rw [Conserves, hnotified, h.tx_eq] at hconserves
      exact hconserves
    load_le := by
      have hless := (handlePacket_of_room (ω := ω) (c := { c with rx := rx }) hroom pkt nowMs).1
      omega
    notified_eq := hnotified }

/-! ### A round -/

omit [OpenDisplayBackend β] in
lemma AtRest.rx_used {c : OpenDisplayComponent β} (h : AtRest c) : c.rx.ring.isFull = false := by
  have hused : c.rx.ring.used = 0 := by
    have hlen := congrArg List.length h.rx_eq
    rwa [RxQueue.toList, RingBuffer.length_toList, List.length_nil] at hlen
  rw [Bool.eq_false_iff, Ne, RingBuffer.isFull_iff, hused]
  decide

omit [OpenDisplayBackend β] in
/-- A component at rest takes any packet that fits a slot. -/
lemma AtRest.takes {c : OpenDisplayComponent β} (h : AtRest c) {data : List UInt8}
    (hdata : FitsSlot data) (nowMs : UInt32) :
    (c.rx.push data c.connectionGeneration nowMs).1 = true := by
  have hfull := h.rx_used
  rw [FitsSlot] at hdata
  rw [RxQueue.push, dif_neg (by omega), if_neg (by simp [hfull])]

omit [OpenDisplayBackend β] in
lemma received_eq (c : OpenDisplayComponent β) (r : Round) :
    c.received r = { c with rx := (c.received r).rx } := by
  rw [received]
  rcases r.data with _ | data <;> rfl

omit [OpenDisplayBackend β] in
/-- The packet of the round, or none, is all that waits. -/
lemma AtRest.received_rx {c : OpenDisplayComponent β} (h : AtRest c) (r : Round) :
    (c.received r).rx.toList = [] ∨ ∃ pkt, (c.received r).rx.toList = [pkt] ∧
      pkt.connectionGeneration = c.connectionGeneration ∧ r.data = some pkt.bytes := by
  rw [received]
  rcases r.data with _ | data
  · exact .inl h.rx_eq
  · rcases hpush : (c.rx.push data c.connectionGeneration r.writtenMs).1 with _ | _
    · refine .inl ?_
      exact (RxQueue.toList_push_of_refused hpush).trans h.rx_eq
    · obtain ⟨pkt, hlist, hgeneration, hbytes⟩ := RxQueue.toList_push_of_taken hpush
      rw [h.rx_eq, List.nil_append] at hlist
      exact .inr ⟨pkt, hlist, hgeneration, by rw [hbytes]⟩

/-- What is known of the handling of the packet of a round. -/
structure HandledRound (c : OpenDisplayComponent β) (r : Round) : Prop where
  drain_eq : (c.received r).drainRx (fun _ => r.packetMs) rxDrainLimit = c.handle r
  handled : Handled (c.handle r)
  /-- the packet is what the client wrote, and is handled on its own -/
  taken : ∀ pkt, c.taken r = some pkt → r.data = some pkt.bytes ∧
    ∃ rx, rx.toList = [] ∧ c.handle r = { c with rx := rx }.handlePacket pkt r.packetMs
  silent : c.taken r = none →
    (c.handle r).1 = [] ∧ (c.handle r).2.engine = c.engine ∧ ∀ data, r.data = some data →
      ¬ FitsSlot data

include ω in
lemma AtRest.handledRound {c : OpenDisplayComponent β} (h : AtRest c) (r : Round) :
    HandledRound c r := by
  have hreceived := received_eq c r
  rcases h.received_rx r with hnil | ⟨pkt, hone, hcurrent, hbytes⟩
  · have hpop : (c.received r).rx.pop = (none, (c.received r).rx) := by
      rw [RxQueue.pop, if_pos ((RingBuffer.isEmpty_iff_toList _).mpr hnil)]
    have hhandle : c.handle r = ([], c.received r) := by
      rw [handle, hpop]
    refine ⟨?_, ?_, fun pkt hpkt => ?_, fun _ => ?_⟩
    · rw [hhandle, drainRx_of_nil hnil]
    · have hload := h.load_le
      rw [hhandle, hreceived]
      refine ⟨h.settled, h.connected, hnil, h.tx_eq, ?_, rfl⟩
      rw [load, h.rx_eq] at hload
      rw [load, hnil]
      dsimp only at hload ⊢
      omega
    · rw [OpenDisplayComponent.taken, hpop] at hpkt
      cases hpkt
    · rw [hhandle, hreceived]
      refine ⟨rfl, rfl, fun data hdata hfits => ?_⟩
      have htakes := h.takes hfits r.writtenMs
      obtain ⟨pkt, hlist, -⟩ := RxQueue.toList_push_of_taken htakes
      rw [received, hdata] at hnil
      change (c.rx.push data c.connectionGeneration r.writtenMs).2.toList = [] at hnil
      rw [hlist] at hnil
      exact absurd hnil (by simp)
  · rcases hpop : (c.received r).rx.pop with ⟨_ | pkt', rx⟩
    · rw [RxQueue.toList_eq_nil_of_pop (congrArg Prod.fst hpop)] at hone
      cases hone
    · have hlist := RxQueue.toList_pop_some (congrArg Prod.fst hpop)
      rw [hone, hpop] at hlist
      obtain ⟨rfl, hrx⟩ := List.cons.inj hlist
      have hhandle : c.handle r = { c with rx := rx }.handlePacket pkt r.packetMs := by
        rw [handle, hpop]
        dsimp only
        rw [hreceived]
      refine ⟨?_, ?_, fun pkt' hpkt => ?_, fun hnone => ?_⟩
      · rw [rxDrainLimit, drainRx_of_one hone (by rw [hreceived]; exact hcurrent), hhandle, hpop,
          hreceived]
      · rw [hhandle]
        exact h.handled_packet (ω := ω) hrx.symm pkt r.packetMs
      · rw [OpenDisplayComponent.taken, hpop] at hpkt
        obtain rfl := Option.some.inj hpkt
        exact ⟨hbytes, rx, hrx.symm, hhandle⟩
      · rw [OpenDisplayComponent.taken, hpop] at hnone
        cases hnone

omit [OpenDisplayBackend β] in
lemma triggers_publishChanged (c : OpenDisplayComponent β) : triggers c.publishChanged.1 = [] := by
  rw [publishChanged]
  split_ifs
  · rw [publishState]
    dsimp only
    split_ifs <;> rfl
  · rfl

omit [OpenDisplayBackend β] in
/-- Publishing sends nothing, and touches only what is published. -/
lemma publishChanged_rest (c : OpenDisplayComponent β) :
    notifiedFrames c.publishChanged.1 = [] ∧ c.publishChanged.2 = { c with
      publishedState := c.publishChanged.2.publishedState
      publishedBusy := c.publishChanged.2.publishedBusy
      errorPending := c.publishChanged.2.errorPending } := by
  rw [publishChanged]
  split_ifs
  · obtain ⟨-, -, hnotified, -, hrest⟩ := publishState_rest c
    exact ⟨hnotified, hrest⟩
  · exact ⟨rfl, rfl⟩

/-- The tick of a round, and what it leaves for the rest of it. -/
structure TickedRound (done ticked : Done β) (nowMs : UInt32) : Prop where
  engine_eq : ticked.2.engine = done.2.engine.serve (.tick nowMs : EngineOp ω)
  connected : ticked.2.connected = true
  rx_eq : ticked.2.rx.toList = []
  tx_eq : ticked.2.tx.toList =
    queuedFrames done.1 ++ done.2.engine.answers (.tick nowMs : EngineOp ω)
  used_le : ticked.2.tx.used ≤ txDrainLimit
  notified_eq : notifiedFrames ticked.1 = []
  triggers_eq : triggers ticked.1 = done.2.engine.fired (.tick nowMs : EngineOp ω)

lemma Handled.ticked {done : Done β} (h : Handled done) (nowMs : UInt32) :
    TickedRound (ω := ω) done (done.2.answer (done.2.engine.tick nowMs)) nowMs := by
  have hframes := TransferEngine.length_tickFrames_le h.settled.staged nowMs
  have hload := h.load_le
  have hsends := sends_applyResult { done.2 with engine := (done.2.engine.tick nowMs).2 }
    (done.2.engine.tick nowMs).1
  have hfires := fires_applyResult { done.2 with engine := (done.2.engine.tick nowMs).2 }
    (done.2.engine.tick nowMs).1
  have hroom : done.2.tx.used + (resultFrames (done.2.engine.tick nowMs).2.takeTailSack.1
      (done.2.engine.tick nowMs).1).length ≤ txDrainLimit := by
    have hlimit : txDrainLimit = 4 := rfl
    rw [load] at hload
    omega
  obtain ⟨hqueued, hused⟩ := hsends.of_room (Nat.le_trans hroom (by decide))
  exact {
    engine_eq := hsends.engine_eq
    connected := by
      rw [answer, hsends.rest_eq]
      exact h.connected
    rx_eq := by
      rw [answer, hsends.rx_eq]
      exact h.rx_eq
    tx_eq := by
      have hconserves := hsends.conserves
      rw [Conserves, hsends.notified_eq, hqueued] at hconserves
      rw [← h.tx_eq]
      exact hconserves
    used_le := Nat.le_trans hused hroom
    notified_eq := hsends.notified_eq
    triggers_eq := hfires.triggers_eq }

/-- What is done in a round. -/
structure RoundDone (c : OpenDisplayComponent β) (r : Round) : Prop where
  rest : AtRest (c.round r).2
  engine_eq : (c.round r).2.engine = (c.handle r).2.engine.serve (.tick r.nowMs : EngineOp ω)
  frames_eq : notifiedFrames (c.round r).1 =
    queuedFrames (c.handle r).1 ++ (c.handle r).2.engine.answers (.tick r.nowMs : EngineOp ω)
  triggers_eq : triggers (c.round r).1 =
    triggers (c.handle r).1 ++ (c.handle r).2.engine.fired (.tick r.nowMs : EngineOp ω)

lemma AtRest.roundDone {c : OpenDisplayComponent β} (h : AtRest c) (r : Round) :
    RoundDone (ω := ω) c r := by
  obtain ⟨hdrain, hhandled, -, -⟩ := h.handledRound (ω := ω) r
  have hticked := hhandled.ticked (ω := ω) r.nowMs
  obtain ⟨ticked, htick⟩ :
      ∃ done, (c.handle r).2.answer ((c.handle r).2.engine.tick r.nowMs) = done := ⟨_, rfl⟩
  rw [htick] at hticked
  have hrest := updateMsd_rest ticked.2 r.nowMs r.chipTemperatureEncoded
  obtain ⟨updated, hupdated⟩ : ∃ u, ticked.2.updateMsd r.nowMs r.chipTemperatureEncoded = u :=
    ⟨_, rfl⟩
  rw [hupdated] at hrest
  have hconnected : updated.connected = true := by
    rw [hrest]
    exact hticked.connected
  obtain ⟨hnotifies, tx, hempty, hdrained⟩ := @drainTx_of_le _ txDrainLimit
    updated (by rw [hrest]; exact hticked.used_le)
  have htx : updated.tx = ticked.2.tx := by rw [hrest]
  rw [htx, hticked.tx_eq] at hnotifies
  obtain ⟨hquiet, hpublished⟩ := publishChanged_rest (updated.drainTx txDrainLimit).2
  have hround : c.round r =
      ((c.handle r).1 ++ (ticked.1 ++ ((updated.drainTx txDrainLimit).1 ++
        (updated.drainTx txDrainLimit).2.publishChanged.1)),
        (updated.drainTx txDrainLimit).2.publishChanged.2) := by
    have hreceived : (c.received r).connected = true := by
      rw [received_eq]
      exact h.connected
    rw [round, loopWhole, if_neg (by simp [hreceived]), hdrain]
    simp only [andThen, htick, hupdated, if_pos hconnected, List.append_assoc, List.nil_append]
    rfl
  have hend : (c.round r).2 = { ticked.2 with
      tx := tx
      msd := (c.round r).2.msd
      msdLoopCounter := (c.round r).2.msdLoopCounter
      msdNextUpdateMs := (c.round r).2.msdNextUpdateMs
      publishedState := (c.round r).2.publishedState
      publishedBusy := (c.round r).2.publishedBusy
      errorPending := (c.round r).2.errorPending } := by
    rw [hround]
    dsimp only
    rw [hpublished, hdrained, hrest]
  exact {
    rest := {
      settled := by
        rw [hend]
        dsimp only
        rw [hticked.engine_eq]
        exact hhandled.settled.serve _
      connected := by
        rw [hend]
        exact hticked.connected
      rx_eq := by
        rw [hend]
        exact hticked.rx_eq
      tx_eq := by
        rw [hend]
        exact hempty }
    engine_eq := by
      rw [hend]
      exact hticked.engine_eq
    frames_eq := by
      rw [hround]
      simp only [notifiedFrames_append, hhandled.notified_eq, hticked.notified_eq, hnotifies,
        notifiedFrames_notified, hquiet, List.nil_append, List.append_nil]
    triggers_eq := by
      rw [hround]
      simp only [triggers_append, hticked.triggers_eq, hnotifies, triggers_notified,
        triggers_publishChanged, List.append_nil] }

/-! ### The packet and the engine -/

/-- The operations of the engine that a turn comes to. -/
def turnOps (c : OpenDisplayComponent β) : Turn ω → List (EngineOp ω)
  | .panel event => [.world event]
  | .round r =>
      ((c.taken r).bind fun pkt => (Stimulus.packet pkt r.packetMs).engineOp).toList ++
        [.tick r.nowMs]

/-- What the component has for the client of the packet of a round. -/
def packetAnswers (c : OpenDisplayComponent β) (r : Round) : List Response :=
  if (c.taken r).any c.answersConfig then configChunks c.settings.configBlob
  else nonEmptyFrames (handedFrames (c.handle r).1)

/-- What the component has for the client of a turn. -/
def turnAnswers (c : OpenDisplayComponent β) : Turn ω → List Response
  | .panel _ => []
  | .round r => c.packetAnswers r ++ (c.handle r).2.engine.answers (.tick r.nowMs : EngineOp ω)

/-- A packet that asks for an operation of the engine. -/
structure HandledOp (c : OpenDisplayComponent β) (r : Round) (op : EngineOp ω) : Prop where
  engine_eq : (c.handle r).2.engine = c.engine.serve op
  queued_eq : queuedFrames (c.handle r).1 = c.engine.answers op
  triggers_eq : triggers (c.handle r).1 = c.engine.fired op

lemma AtRest.handledOp {c : OpenDisplayComponent β} (h : AtRest c) {r : Round} {pkt : RxPacket}
    (htaken : c.taken r = some pkt) {op : EngineOp ω}
    (hop : (Stimulus.packet pkt r.packetMs).engineOp = some op) : HandledOp c r op := by
  obtain ⟨f, hframe, hsome⟩ := Option.bind_eq_some_iff.mp hop
  have hnot : ∀ now, op ≠ .tick now := by
    rintro now rfl
    rw [packetOp] at hsome
    split_ifs at hsome <;> cases hsome
  obtain ⟨-, rx, -, hhandle⟩ := (h.handledRound (ω := ω) r).taken pkt htaken
  rw [handlePacket_of_op { c with rx := rx } hframe hsome] at hhandle
  have hsends := sends_applyResult { c with rx := rx, engine := c.engine.step op }
    (c.engine.perform op).1
  have hfires := fires_applyResult { c with rx := rx, engine := c.engine.step op }
    (c.engine.perform op).1
  have htx : c.tx.used = 0 := by rw [← TxQueue.length_toList, h.tx_eq, List.length_nil]
  refine ⟨?_, ?_, ?_⟩
  · rw [hhandle]
    exact hsends.engine_eq
  · rw [hhandle]
    refine (hsends.of_room ?_).1
    rw [htx, Nat.zero_add]
    exact Nat.le_trans (c.engine.length_packetFrames_le hnot) (by decide)
  · rw [hhandle]
    exact hfires.triggers_eq

omit [OpenDisplayBackend β] in
lemma triggers_sendConfig (c : OpenDisplayComponent β) : triggers c.sendConfig.1 = [] := by
  rw [sendConfig]
  dsimp only
  split_ifs
  · exact (fires_send c _ _).triggers_eq
  · rw [triggers, List.filter_eq_nil_iff]
    intro fx hfx
    obtain ⟨_, -, rfl⟩ := mem_sendChunks hfx
    exact Bool.false_ne_true

include ω in
/-- A packet that the component answers itself fires nothing. -/
lemma triggers_of_no_op (c : OpenDisplayComponent β) {pkt : RxPacket} {nowMs : UInt32}
    (hop : (Stimulus.packet pkt nowMs : Stimulus ω).engineOp = none) :
    triggers (c.handlePacket pkt nowMs).1 = [] := by
  have ho := handlePacket_outcome (ω := ω) c pkt nowMs
  generalize c.handlePacket pkt nowMs = done at ho ⊢
  cases ho with
  | runt => rfl
  | config => exact triggers_sendConfig c
  | version | unsupported => exact (fires_send c _ _).triggers_eq
  | msd =>
      have hcleared : ∀ c : OpenDisplayComponent β,
          Fires c [] ([], { c with rebootFlag := false }) := fun _ => ⟨rfl, rfl⟩
      exact ((fires_send c _ _).andThen fun _ => hcleared _).triggers_eq
  | answered f hframe op hsome =>
      rw [Stimulus.engineOp, hframe, Option.bind_some, hsome] at hop
      cases hop

/-- What a turn comes to, for the client and for the engine. -/
structure ServedTurn (c : OpenDisplayComponent β) (t : Turn ω) : Prop where
  /-- what the client writes is handled -/
  takes : ∀ r data, t = .round r → r.data = some data → FitsSlot data →
    ∃ pkt, c.taken r = some pkt ∧ pkt.bytes = data
  engine_eq : (c.turnStep t).engine = Machine.exec TransferEngine.serve c.engine (c.turnOps t)
  frames_eq : c.turnFrames t = c.turnAnswers t
  triggers_eq : c.turnTriggers t =
    Machine.outputs TransferEngine.serve TransferEngine.fired c.engine (c.turnOps t)
  rest : AtRest (c.turnStep t)

omit [OpenDisplayBackend β] in
lemma AtRest.takes_round {c : OpenDisplayComponent β} (h : AtRest c) {r : Round}
    {data : List UInt8} (hdata : r.data = some data) (hfits : FitsSlot data) :
    ∃ pkt, c.taken r = some pkt ∧ pkt.bytes = data := by
  obtain ⟨pkt, hlist, -, hbytes⟩ := RxQueue.toList_push_of_taken (h.takes hfits r.writtenMs)
  rw [h.rx_eq, List.nil_append] at hlist
  refine ⟨pkt, ?_, hbytes⟩
  rw [taken, received, hdata]
  change (c.rx.push data c.connectionGeneration r.writtenMs).2.pop.1 = some pkt
  rcases hpop : (c.rx.push data c.connectionGeneration r.writtenMs).2.pop.1 with _ | pkt'
  · rw [RxQueue.toList_eq_nil_of_pop hpop] at hlist
    cases hlist
  · have hfirst := RxQueue.toList_pop_some hpop
    rw [hlist] at hfirst
    rw [(List.cons.inj hfirst).1]

/-- Something that happens to the panel is an operation of the engine on its own. -/
lemma AtRest.serve_world {c : OpenDisplayComponent β} (h : AtRest c) (event : ω) :
    (c.turnStep (.panel event)).engine = c.engine.serve (.world event) := by
  have hstaged : (c.engine.step (.world event)).hasTailSack = false := h.settled.staged
  rw [TransferEngine.serve, TransferEngine.takeTailSack_of_not hstaged]
  rfl

lemma AtRest.served_panel {c : OpenDisplayComponent β} (h : AtRest c) (event : ω) :
    ServedTurn c (.panel event) where
  takes r data hr := nomatch hr
  engine_eq := h.serve_world event
  frames_eq := rfl
  triggers_eq := by
    have hquiet : c.engine.fired (.world event) = [] := rfl
    rw [turnOps, Machine.outputs_cons, Machine.outputs_nil, hquiet]
    rfl
  rest := by
    refine ⟨?_, h.connected, h.rx_eq, h.tx_eq⟩
    rw [h.serve_world event]
    exact h.settled.serve _

/-- The packet of a round, for the client and for the engine. -/
lemma AtRest.served_packet {c : OpenDisplayComponent β} (h : AtRest c) (r : Round) :
    let ops : List (EngineOp ω) :=
      ((c.taken r).bind fun pkt => (Stimulus.packet pkt r.packetMs).engineOp).toList
    (c.handle r).2.engine = Machine.exec TransferEngine.serve c.engine ops ∧
      queuedFrames (c.handle r).1 = c.packetAnswers r ∧
      triggers (c.handle r).1 =
        Machine.outputs TransferEngine.serve TransferEngine.fired c.engine ops := by
  obtain ⟨-, -, htaken, hsilent⟩ := h.handledRound (ω := ω) r
  rcases hpkt : c.taken r with _ | pkt
  · obtain ⟨hnone, hengine, -⟩ := hsilent hpkt
    refine ⟨hengine, ?_, ?_⟩
    · rw [packetAnswers, hpkt, hnone]
      rfl
    · rw [hnone]
      rfl
  · obtain ⟨-, rx, -, hhandle⟩ := htaken pkt hpkt
    have hroom : c.tx.used + 2 ≤ txOpenSlots := by
      rw [← TxQueue.length_toList, h.tx_eq]
      decide
    have hqueued :=
      (handlePacket_of_room (ω := ω) (c := { c with rx := rx }) hroom pkt r.packetMs).2
    rw [← hhandle] at hqueued
    have hanswers : queuedFrames (c.handle r).1 = c.packetAnswers r := by
      rw [packetAnswers, hpkt]
      exact hqueued
    rw [Option.bind_some]
    rcases hop : (Stimulus.packet pkt r.packetMs : Stimulus ω).engineOp with _ | op
    · refine ⟨?_, hanswers, ?_⟩
      · rw [hhandle]
        exact engine_of_no_op { c with rx := rx } hop
      · rw [hhandle]
        exact triggers_of_no_op _ hop
    · obtain ⟨hengine, -, htriggers⟩ := h.handledOp hpkt hop
      refine ⟨hengine, hanswers, ?_⟩
      rw [htriggers, Option.toList_some, Machine.outputs_cons, Machine.outputs_nil,
        List.append_nil]

lemma AtRest.served {c : OpenDisplayComponent β} (h : AtRest c) (t : Turn ω) :
    ServedTurn c t := by
  cases t with
  | panel event => exact h.served_panel event
  | round r =>
      obtain ⟨hrest, hengine, hframes, htriggers⟩ := h.roundDone (ω := ω) r
      obtain ⟨hpacket, hanswers, hfired⟩ := h.served_packet (ω := ω) r
      exact {
        takes := by
          rintro _ data ⟨⟩ hdata hfits
          exact h.takes_round hdata hfits
        engine_eq := by
          rw [turnOps, Machine.exec_append, ← hpacket]
          exact hengine
        frames_eq := by
          rw [turnAnswers, ← hanswers]
          exact hframes
        triggers_eq := by
          rw [turnOps, Machine.outputs_append, ← hfired, ← hpacket, Machine.outputs_cons,
            Machine.outputs_nil, List.append_nil]
          exact htriggers
        rest := hrest }

/-- **A client in lock step is served.**  From rest, and in every run of turns, whatever the
client writes is handled in its round if it fits a slot; in the same round the client is
notified all that the component has for it, in order, and the component is at rest again.
The engine performs the operations of the packets, a tick in each round and nothing else,
and the automations are those that these fire. -/
theorem lock_step_client_served {c : OpenDisplayComponent β} (h : AtRest c)
    (ts : List (Turn ω)) : Machine.AllSteps turnStep ServedTurn c ts := by
  induction ts generalizing c with
  | nil => trivial
  | cons t ts ih => exact ⟨h.served t, ih (h.served t).rest⟩

/-- A client that starts a transfer and reads the config in it. -/
theorem lock_step_client_served_interleaved :
    Machine.AllSteps turnStep ServedTurn unending.onBleConnect
      [.round { data := some [0x00, 0x70], nowMs := 1 }, .panel (),
        .round { data := some [0x00, 0x40], nowMs := 2 }, .round { nowMs := 3 }] :=
  lock_step_client_served (atRest_connected (ω := Unit) _ _ _) _

end OpenDisplayComponent

end OpenDisplay
