import OpenDisplay.Component.Basic
import OpenDisplay.Engine.Ledger

/-!
# What each step of the component can do

Three views of a step, from which the properties of runs are proved.  Towards the TX
queue a step is a list of frames offered to it (`Sends`), and no step loses or reorders
what the queue took (`Conserves`).  Towards the engine a step is a few operations of the
engine (`EngineStep`), so that the component never brings the engine into a state that
the engine does not reach on its own, and what holds of every run of the engine holds of
the engine in every run of the component.
-/

namespace OpenDisplay

/-! ### Reading effects -/

/-- The frames given to `send_`, with the flag that they are terminal. -/
def handedFrames (fx : List Effect) : List (Response × Bool) :=
  fx.filterMap fun
    | .handed r terminal => some (r, terminal)
    | _ => none

/-- The frames that the TX queue took. -/
def queuedFrames (fx : List Effect) : List Response :=
  fx.filterMap fun
    | .queued r => some r
    | _ => none

/-- The frames that were notified. -/
def notifiedFrames (fx : List Effect) : List Response :=
  fx.filterMap fun
    | .notified r => some r
    | _ => none

@[simp] lemma handedFrames_append (fx gx : List Effect) :
    handedFrames (fx ++ gx) = handedFrames fx ++ handedFrames gx := List.filterMap_append

@[simp] lemma queuedFrames_append (fx gx : List Effect) :
    queuedFrames (fx ++ gx) = queuedFrames fx ++ queuedFrames gx := List.filterMap_append

@[simp] lemma notifiedFrames_append (fx gx : List Effect) :
    notifiedFrames (fx ++ gx) = notifiedFrames fx ++ notifiedFrames gx := List.filterMap_append

/-! ### Offering frames to the queue -/

namespace TxQueue

/-- Offer frames to the queue, one after another: those that it takes, and the queue
after them. -/
def pushAll (q : TxQueue) : List (Response × Bool) → List Response × TxQueue
  | [] => ([], q)
  | (r, terminal) :: frames =>
      let pushed := q.push r terminal
      let rest := pushAll pushed.2 frames
      ((if pushed.1 && !r.isEmpty then [r] else []) ++ rest.1, rest.2)

@[simp] lemma pushAll_nil (q : TxQueue) : q.pushAll [] = ([], q) := rfl

lemma pushAll_append (q : TxQueue) (frames more : List (Response × Bool)) :
    q.pushAll (frames ++ more) =
      ((q.pushAll frames).1 ++ ((q.pushAll frames).2.pushAll more).1,
        ((q.pushAll frames).2.pushAll more).2) := by
  induction frames generalizing q with
  | nil => rfl
  | cons f frames ih => simp [pushAll, ih]

lemma pushAll_of_accepts {q : TxQueue} {r : Response} {terminal : Bool}
    (hr : r.isEmpty = false) (h : q.Accepts terminal) (frames : List (Response × Bool)) :
    (q.pushAll ((r, terminal) :: frames)).1 =
      r :: ((q.push r terminal).2.pushAll frames).1 := by
  simp [pushAll, (push_of_accepts hr h).1, hr]

lemma pushAll_of_not_accepts {q : TxQueue} {r : Response} {terminal : Bool}
    (hr : r.isEmpty = false) (h : ¬ q.Accepts terminal) (frames : List (Response × Bool)) :
    q.pushAll ((r, terminal) :: frames) = q.pushAll frames := by
  simp [pushAll, push_of_not_accepts hr h]

/-- A single frame is taken if there is room for it. -/
lemma pushAll_singleton {q : TxQueue} {r : Response} {terminal : Bool}
    (hr : r.isEmpty = false) :
    (q.pushAll [(r, terminal)]).1 = if q.Accepts terminal then [r] else [] := by
  split_ifs with h
  · exact pushAll_of_accepts hr h []
  · rw [pushAll_of_not_accepts hr h, pushAll_nil]

lemma toList_pushAll (q : TxQueue) (frames : List (Response × Bool)) :
    (q.pushAll frames).2.toList = q.toList ++ (q.pushAll frames).1 := by
  induction frames generalizing q with
  | nil => simp
  | cons f frames ih =>
      obtain ⟨r, terminal⟩ := f
      rw [pushAll]
      dsimp only
      rw [ih, toList_push, List.append_assoc]

lemma exists_mem_of_mem_pushAll {q : TxQueue} {frames : List (Response × Bool)} {r : Response}
    (h : r ∈ (q.pushAll frames).1) : ∃ terminal, (r, terminal) ∈ frames := by
  induction frames generalizing q with
  | nil => cases h
  | cons f frames ih =>
      obtain ⟨r', terminal⟩ := f
      rcases List.mem_append.mp h with h | h
      · split_ifs at h
        · obtain rfl := List.mem_singleton.mp h
          exact ⟨terminal, List.mem_cons_self⟩
        · cases h
      · obtain ⟨t, ht⟩ := ih h
        exact ⟨t, List.mem_cons_of_mem _ ht⟩

end TxQueue

namespace OpenDisplayComponent

variable {β ω : Type} [OpenDisplayBackend β] [PanelWorld β ω]

/-- The part of the component has handed these frames to `send_`, and has touched nothing
but the TX queue and two flags. -/
structure Sends (c : OpenDisplayComponent β) (frames : List (Response × Bool))
    (done : Done β) : Prop where
  handed_eq : handedFrames done.1 = frames
  queued_eq : queuedFrames done.1 = (c.tx.pushAll frames).1
  notified_eq : notifiedFrames done.1 = []
  tx_eq : done.2.tx = (c.tx.pushAll frames).2
  rest_eq : done.2 = { c with
    tx := done.2.tx
    errorPending := done.2.errorPending
    rebootFlag := done.2.rebootFlag }

namespace Sends

variable {c : OpenDisplayComponent β} {done : Done β} {frames more : List (Response × Bool)}

omit [OpenDisplayBackend β] in
lemma engine_eq (h : Sends c frames done) : done.2.engine = c.engine := by
  rw [h.rest_eq]

omit [OpenDisplayBackend β] in
lemma rx_eq (h : Sends c frames done) : done.2.rx = c.rx := by
  rw [h.rest_eq]

omit [OpenDisplayBackend β] in
lemma generation_eq (h : Sends c frames done) :
    done.2.connectionGeneration = c.connectionGeneration := by
  rw [h.rest_eq]

omit [OpenDisplayBackend β] in
/-- A part that sends nothing. -/
lemma silent {fx : List Effect} {c' : OpenDisplayComponent β} (hhanded : handedFrames fx = [])
    (hqueued : queuedFrames fx = []) (hnotified : notifiedFrames fx = [])
    (hrest : c' = { c with errorPending := c'.errorPending, rebootFlag := c'.rebootFlag }) :
    Sends c [] (fx, c') where
  handed_eq := hhanded
  queued_eq := hqueued
  notified_eq := hnotified
  tx_eq := by dsimp only; rw [hrest]; rfl
  rest_eq := by dsimp only; rw [hrest]

omit [OpenDisplayBackend β] in
lemma andThen (h : Sends c frames done) {f : OpenDisplayComponent β → Done β}
    (hf : Sends done.2 more (f done.2)) :
    Sends c (frames ++ more) (OpenDisplayComponent.andThen done f) where
  handed_eq := by
    rw [OpenDisplayComponent.andThen, handedFrames_append, h.handed_eq, hf.handed_eq]
  queued_eq := by
    rw [OpenDisplayComponent.andThen, queuedFrames_append, h.queued_eq, hf.queued_eq, h.tx_eq,
      TxQueue.pushAll_append]
  notified_eq := by
    rw [OpenDisplayComponent.andThen, notifiedFrames_append, h.notified_eq, hf.notified_eq]
    rfl
  tx_eq := by
    rw [OpenDisplayComponent.andThen, hf.tx_eq, h.tx_eq, TxQueue.pushAll_append]
  rest_eq := by
    rw [OpenDisplayComponent.andThen]
    dsimp only
    rw [hf.rest_eq, h.rest_eq]

omit [OpenDisplayBackend β] in
/-- A part that is done only under a condition. -/
lemma ite (p : Prop) [Decidable p] (h : Sends c frames done) :
    Sends c (if p then frames else []) (if p then done else ([], c)) := by
  split_ifs
  · exact h
  · exact .silent rfl rfl rfl rfl

end Sends

omit [OpenDisplayBackend β] in
lemma sends_send (c : OpenDisplayComponent β) (r : Response) (terminal : Bool) :
    Sends c [(r, terminal)] (c.send r terminal) where
  handed_eq := by
    rw [send]
    dsimp only
    split_ifs <;> rfl
  queued_eq := by
    rw [send]
    dsimp only
    split_ifs with h
    · simp [TxQueue.pushAll, h, queuedFrames]
    · simp [TxQueue.pushAll, h, queuedFrames]
  notified_eq := by
    rw [send]
    dsimp only
    split_ifs <;> rfl
  tx_eq := rfl
  rest_eq := rfl

/-- The frames that `apply_result_` hands to `send_`, in order. -/
def resultFrames (tail : Option Response) (res : EngineResult) : List (Response × Bool) :=
  tail.toList.map (·, true) ++
    (if !res.response.isEmpty then
      [(res.response, res.refreshComplete || res.refreshTimeout || res.terminalError)] else []) ++
    (if res.refreshComplete then [(encodeAck respDirectWriteRefreshSuccess, true)] else []) ++
    if res.refreshTimeout then [(encodeAck respDirectWriteRefreshTimeout, true)] else []

omit [OpenDisplayBackend β] in
lemma sends_raiseError (c : OpenDisplayComponent β) : Sends c [] c.raiseError :=
  .silent rfl rfl rfl rfl

omit [OpenDisplayBackend β] in
/-- `apply_result_` takes the staged SACK, and sends it and what the result asks for. -/
lemma sends_applyResult (c : OpenDisplayComponent β) (res : EngineResult) :
    Sends { c with engine := c.engine.takeTailSack.2 }
      (resultFrames c.engine.takeTailSack.1 res) (c.applyResult res) := by
  have hframes : resultFrames c.engine.takeTailSack.1 res =
      ((((c.engine.takeTailSack.1.toList.map (·, true) ++
        (if !res.response.isEmpty then
          [(res.response, res.refreshComplete || res.refreshTimeout || res.terminalError)]
        else [])) ++ []) ++
        (if res.refreshComplete then
          [(encodeAck respDirectWriteRefreshSuccess, true)] ++ [] else [])) ++
        (if res.refreshTimeout then
          [(encodeAck respDirectWriteRefreshTimeout, true)] ++ [] else [])) ++
        (if res.terminalError then [] else []) := by
    simp [resultFrames]
  rw [hframes, applyResult]
  refine ((((Sends.andThen ?_ (.ite _ (sends_send _ _ _))).andThen ?_).andThen
    (.ite _ ((sends_send _ _ _).andThen (.silent rfl rfl rfl rfl)))).andThen
    (.ite _ ((sends_send _ _ _).andThen (sends_raiseError _)))).andThen
    (.ite _ (sends_raiseError _))
  · rcases c.engine.takeTailSack.1 with _ | tail
    · exact .silent rfl rfl rfl rfl
    · exact sends_send _ tail true
  · rcases res.transferStarted with _ | _ <;> exact .silent rfl rfl rfl rfl

/-! ### The chunks of the config -/

/-- All that the loop of `send_config_` does is to put chunks into the queue. -/
lemma mem_sendChunks {blob : List UInt8} {tx : TxQueue} {fuel : ℕ} {i : UInt16} {fx : Effect}
    (h : fx ∈ (sendChunks blob tx fuel i).1) :
    ∃ j, (encodeConfigChunk blob j).isEmpty = false ∧ fx = .queued (encodeConfigChunk blob j) := by
  induction fuel generalizing tx i with
  | zero => cases h
  | succ fuel ih =>
      rw [sendChunks] at h
      dsimp only at h
      split_ifs at h with hempty
      · cases h
      · rcases List.mem_cons.mp h with rfl | h
        · exact ⟨i, by simpa using hempty, rfl⟩
        · exact ih h
      · cases h

lemma exists_of_mem_queued_sendChunks {blob : List UInt8} {tx : TxQueue} {fuel : ℕ} {i : UInt16}
    {r : Response} (h : r ∈ queuedFrames (sendChunks blob tx fuel i).1) :
    ∃ j, (encodeConfigChunk blob j).isEmpty = false ∧ r = encodeConfigChunk blob j := by
  obtain ⟨fx, hfx, hr⟩ := List.mem_filterMap.mp h
  obtain ⟨j, hj, rfl⟩ := mem_sendChunks hfx
  exact ⟨j, hj, (Option.some.inj hr).symm⟩

/-! ### The start of a transfer -/

section Started

omit [OpenDisplayBackend β]

variable {c : OpenDisplayComponent β}

lemma mem_andThen {done : Done β} {f : OpenDisplayComponent β → Done β} {fx : Effect} :
    fx ∈ (andThen done f).1 ↔ fx ∈ done.1 ∨ fx ∈ (f done.2).1 := List.mem_append

lemma mem_of_mem_ite {p : Prop} [Decidable p] {done : Done β} {fx : Effect}
    (h : fx ∈ (if p then done else ([], c)).1) : fx ∈ done.1 := by
  split_ifs at h
  · exact h
  · cases h

lemma not_started_send (r : Response) (terminal : Bool) :
    Effect.transferStarted ∉ (c.send r terminal).1 := by
  rw [send]
  dsimp only
  split_ifs <;> simp

/-- A transfer is reported as started exactly when the engine says so. -/
lemma started_applyResult (res : EngineResult) :
    Effect.transferStarted ∈ (c.applyResult res).1 ↔ res.transferStarted = true := by
  rw [applyResult]
  simp only [mem_andThen]
  constructor
  · rintro (((((h | h) | h) | h) | h) | h)
    · rcases hstaged : c.engine.takeTailSack.1 with _ | tail
      · simp [hstaged] at h
      · simp only [hstaged] at h
        exact absurd h (not_started_send _ _)
    · exact absurd (mem_of_mem_ite h) (not_started_send _ _)
    · rcases hstarted : res.transferStarted with _ | _
      · simp [hstarted] at h
      · rfl
    · rcases mem_andThen.mp (mem_of_mem_ite h) with h | h
      · exact absurd h (not_started_send _ _)
      · simp at h
    · rcases mem_andThen.mp (mem_of_mem_ite h) with h | h
      · exact absurd h (not_started_send _ _)
      · simp [raiseError] at h
    · have h := mem_of_mem_ite h
      simp [raiseError] at h
  · intro h
    exact Or.inl (Or.inl (Or.inl (Or.inr (by simp [h]))))

lemma not_started_sendChunks (blob : List UInt8) (tx : TxQueue) (fuel : ℕ) (i : UInt16) :
    Effect.transferStarted ∉ (sendChunks blob tx fuel i).1 := by
  intro h
  obtain ⟨_, _, hfx⟩ := mem_sendChunks h
  cases hfx

lemma not_started_sendConfig : Effect.transferStarted ∉ c.sendConfig.1 := by
  rw [sendConfig]
  dsimp only
  split_ifs
  · exact not_started_send _ _
  · exact not_started_sendChunks _ _ _ _

end Started

/-! ### Nothing is lost in the queue -/

/-- What was in the TX queue or came into it is in it still or has been notified, all in
the same order. -/
def Conserves (c : OpenDisplayComponent β) (done : Done β) : Prop :=
  notifiedFrames done.1 ++ done.2.tx.toList = c.tx.toList ++ queuedFrames done.1

section Conservation

omit [OpenDisplayBackend β]

variable {c : OpenDisplayComponent β}

lemma Sends.conserves {frames : List (Response × Bool)} {done : Done β}
    (h : Sends c frames done) : Conserves c done := by
  rw [Conserves, h.notified_eq, h.queued_eq, h.tx_eq, TxQueue.toList_pushAll, List.nil_append]

/-- A part that leaves the TX queue alone. -/
lemma Conserves.of_tx_eq {fx : List Effect} {c' : OpenDisplayComponent β}
    (hqueued : queuedFrames fx = []) (hnotified : notifiedFrames fx = [])
    (htx : c'.tx = c.tx) : Conserves c (fx, c') := by
  rw [Conserves, hqueued, hnotified, htx, List.nil_append, List.append_nil]

lemma conserves_sendChunks (blob : List UInt8) (tx : TxQueue) (fuel : ℕ) (i : UInt16) :
    (sendChunks blob tx fuel i).2.toList =
      tx.toList ++ queuedFrames (sendChunks blob tx fuel i).1 := by
  induction fuel generalizing tx i with
  | zero => exact (List.append_nil _).symm
  | succ fuel ih =>
      rw [sendChunks]
      dsimp only
      split_ifs with hempty hpush
      · exact (List.append_nil _).symm
      · rw [ih, TxQueue.toList_push, hpush]
        simp [hempty, queuedFrames]
      · rw [TxQueue.toList_push]
        simp [hpush, queuedFrames]

lemma conserves_sendConfig (c : OpenDisplayComponent β) : Conserves c c.sendConfig := by
  rw [sendConfig]
  dsimp only
  split_ifs
  · exact (sends_send _ _ _).conserves
  · have hnotified : notifiedFrames (sendChunks c.settings.configBlob c.tx
        (c.settings.configBlob.length + 1) 0).1 = [] := by
      refine List.filterMap_eq_nil_iff.mpr fun fx hfx => ?_
      obtain ⟨_, _, rfl⟩ := mem_sendChunks hfx
      rfl
    rw [Conserves, hnotified, List.nil_append]
    exact conserves_sendChunks _ _ _ _

end Conservation

omit [OpenDisplayBackend β] in
lemma conserves_answer (c : OpenDisplayComponent β)
    (answered : EngineResult × TransferEngine β) : Conserves c (c.answer answered) :=
  (sends_applyResult { c with engine := answered.2 } answered.1).conserves

/-! ### The parts of the loop -/

/-- The packet that the next part of the loop takes. -/
def nextPacket (c : OpenDisplayComponent β) : Option RxPacket :=
  match c.phase with
  | .receive _ handled => if handled < rxDrainLimit then c.rx.pop.1 else none
  | _ => none

/-- What a part of the loop can be. -/
inductive LoopOutcome (c : OpenDisplayComponent β) (nowMs : UInt32) (temperature : Int) :
    Done β → Prop
  | started (hphase : c.phase = .start) (hconnected : c.connected = true) :
      LoopOutcome c nowMs temperature ([], { c with phase := .receive nowMs 0 })
  | idled (hphase : c.phase = .start) (hconnected : c.connected = false) :
      LoopOutcome c nowMs temperature ([], { c with
        engine := c.engine.onDisconnect c.connectionGeneration
        phase := .receive nowMs 0 })
  | received (startMs : UInt32) (handled : ℕ) (hphase : c.phase = .receive startMs handled)
      (hnext : c.nextPacket = none) :
      LoopOutcome c nowMs temperature ([], { c with phase := .tick startMs })
  | stale (startMs : UInt32) (handled : ℕ) (hphase : c.phase = .receive startMs handled)
      (pkt : RxPacket) (hnext : c.nextPacket = some pkt) (hpop : c.rx.pop.1 = some pkt)
      (hstale : pkt.connectionGeneration ≠ c.connectionGeneration) :
      LoopOutcome c nowMs temperature
        ([], { c with rx := c.rx.pop.2, phase := .receive startMs (handled + 1) })
  | packet (startMs : UInt32) (handled : ℕ) (hphase : c.phase = .receive startMs handled)
      (pkt : RxPacket) (hnext : c.nextPacket = some pkt) (hpop : c.rx.pop.1 = some pkt)
      (hcurrent : pkt.connectionGeneration = c.connectionGeneration) :
      LoopOutcome c nowMs temperature
        ({ c with rx := c.rx.pop.2, phase := .receive startMs (handled + 1) }.handlePacket pkt
          nowMs)
  | ticked (startMs : UInt32) (hphase : c.phase = .tick startMs) :
      LoopOutcome c nowMs temperature
        ({ c with phase := .updateMsd startMs }.answer (c.engine.tick startMs))
  | updated (startMs : UInt32) (hphase : c.phase = .updateMsd startMs) :
      LoopOutcome c nowMs temperature
        ([], { c.updateMsd startMs temperature with phase := .drain })
  | draining (hphase : c.phase = .drain) (phase : LoopPhase) :
      LoopOutcome c nowMs temperature ([], { c with phase := phase })
  | notified (sent : ℕ) (hphase : c.phase = .notify sent) (r : Response)
      (hpop : c.tx.pop.1 = some r) :
      LoopOutcome c nowMs temperature
        ([.notified r], { c with tx := c.tx.pop.2, phase := .notify (sent + 1) })
  | drained (sent : ℕ) (hphase : c.phase = .notify sent) :
      LoopOutcome c nowMs temperature ([], { c with phase := .publish })
  | published (hphase : c.phase = .publish) :
      LoopOutcome c nowMs temperature ({ c with phase := .start }.publishState)
  | unchanged (hphase : c.phase = .publish) :
      LoopOutcome c nowMs temperature ([], { c with phase := .start })

lemma loop_outcome (c : OpenDisplayComponent β) (nowMs : UInt32) (temperature : Int) :
    LoopOutcome c nowMs temperature (c.loop nowMs temperature) := by
  rw [loop]
  rcases hphase : c.phase with _ | ⟨startMs, handled⟩ | startMs | startMs | _ | sent | _
  · dsimp only
    split_ifs with hconnected
    · exact .idled hphase (by simpa using hconnected)
    · exact .started hphase (by simpa using hconnected)
  · dsimp only
    split_ifs with hlimit
    · rcases hpop : c.rx.pop with ⟨_ | pkt, rx⟩
      · -- there is no packet, and the queue is as it was
        have hrx := RxQueue.toList_pop_none (q := c.rx) (by rw [hpop])
        rw [hpop] at hrx
        obtain rfl : rx = c.rx := hrx
        exact .received startMs handled hphase (by simp [nextPacket, hphase, hlimit, hpop])
      · have hfirst : c.rx.pop.1 = some pkt := by rw [hpop]
        have hnext : c.nextPacket = some pkt := by simp [nextPacket, hphase, hlimit, hpop]
        obtain rfl : c.rx.pop.2 = rx := by rw [hpop]
        dsimp only
        split_ifs with hstale
        · exact .stale startMs handled hphase pkt hnext hfirst hstale
        · exact .packet startMs handled hphase pkt hnext hfirst (by simpa using hstale)
    · exact .received startMs handled hphase (by simp [nextPacket, hphase, hlimit])
  · exact .ticked startMs hphase
  · exact .updated startMs hphase
  · exact .draining hphase _
  · dsimp only
    split_ifs
    · rcases hpop : c.tx.pop with ⟨_ | r, tx⟩
      · have htx := TxQueue.toList_pop_none (q := c.tx) (by rw [hpop])
        rw [hpop] at htx
        obtain rfl : tx = c.tx := htx
        exact .drained sent hphase
      · obtain rfl : c.tx.pop.2 = tx := by rw [hpop]
        exact .notified sent hphase r (by rw [hpop])
    · exact .drained sent hphase
  · dsimp only
    split_ifs
    · exact .published hphase
    · exact .unchanged hphase

omit [OpenDisplayBackend β] in
/-- Updating the MSD touches nothing but the MSD. -/
lemma updateMsd_rest (c : OpenDisplayComponent β) (nowMs : UInt32) (temperature : Int) :
    c.updateMsd nowMs temperature = { c with
      msd := (c.updateMsd nowMs temperature).msd
      msdLoopCounter := (c.updateMsd nowMs temperature).msdLoopCounter
      msdNextUpdateMs := (c.updateMsd nowMs temperature).msdNextUpdateMs } := by
  rw [updateMsd]
  split_ifs <;> rfl

omit [OpenDisplayBackend β] in
/-- Publishing the state sends nothing and touches only what is published. -/
lemma publishState_rest (c : OpenDisplayComponent β) :
    handedFrames c.publishState.1 = [] ∧ queuedFrames c.publishState.1 = [] ∧
      notifiedFrames c.publishState.1 = [] ∧ Effect.transferStarted ∉ c.publishState.1 ∧
      c.publishState.2 = { c with
        publishedState := c.publishState.2.publishedState
        publishedBusy := c.publishState.2.publishedBusy
        errorPending := c.publishState.2.errorPending } := by
  rw [publishState]
  dsimp only
  split_ifs <;> exact ⟨rfl, rfl, rfl, by simp, rfl⟩

/-! ### Packets -/

/-- The operation of the engine that a packet asks for. -/
def packetOp (f : Frame) (nowMs : UInt32) : Option (EngineOp ω) :=
  if f.opcode = cmdDirectWriteStart then some (.directStart f.payload nowMs)
  else if f.opcode = cmdDirectWriteData then some (.directData f.payload nowMs)
  else if f.opcode = cmdDirectWriteEnd then some (.directEnd f.payload nowMs)
  else if f.opcode = cmdPipeWriteStart then some (.pipeStart f.payload nowMs)
  else if f.opcode = cmdPipeWriteData then some (.pipeData f.payload nowMs)
  else if f.opcode = cmdPipeWriteEnd then some (.pipeEnd f.payload nowMs)
  else none

/-- What handling a packet can be: nothing for a runt, a response of the component's own,
or an operation of the engine. -/
inductive PacketOutcome (c : OpenDisplayComponent β) (pkt : RxPacket) (nowMs : UInt32) :
    Done β → Prop
  | runt (hframe : pkt.frame = none) : PacketOutcome c pkt nowMs ([], c)
  | config : PacketOutcome c pkt nowMs c.sendConfig
  | version (sha : List UInt8) :
      PacketOutcome c pkt nowMs (c.send (encodeVersion c.settings.verMajor c.settings.verMinor
        c.settings.verPatch sha) false)
  | msd : PacketOutcome c pkt nowMs
      (andThen (c.send (encodeMsdResponse c.msd) false)
        fun c => ([], { c with rebootFlag := false }))
  | unsupported (opcode : UInt16) : PacketOutcome c pkt nowMs (c.send (encodeNack opcode) false)
  | answered (f : Frame) (hframe : pkt.frame = some f) (op : EngineOp ω)
      (hop : packetOp f nowMs = some op) :
      PacketOutcome c pkt nowMs (c.answer (c.engine.perform op))

lemma handlePacket_outcome (c : OpenDisplayComponent β) (pkt : RxPacket) (nowMs : UInt32) :
    PacketOutcome (ω := ω) c pkt nowMs (c.handlePacket pkt nowMs) := by
  rw [handlePacket]
  rcases hframe : pkt.frame with _ | f
  · exact .runt hframe
  · dsimp only
    split_ifs with h40 h43 h44 h70 h71 h72 h80 h81 h82
    · exact .config
    · exact .version _
    · exact .msd
    · exact .answered f hframe (.directStart f.payload nowMs) (by rw [packetOp, if_pos h70])
    · exact .answered f hframe (.directData f.payload nowMs)
        (by rw [packetOp, if_neg h70, if_pos h71])
    · exact .answered f hframe (.directEnd f.payload nowMs)
        (by rw [packetOp, if_neg h70, if_neg h71, if_pos h72])
    · exact .answered f hframe (.pipeStart f.payload nowMs)
        (by rw [packetOp, if_neg h70, if_neg h71, if_neg h72, if_pos h80])
    · exact .answered f hframe (.pipeData f.payload nowMs)
        (by rw [packetOp, if_neg h70, if_neg h71, if_neg h72, if_neg h80, if_pos h81])
    · exact .answered f hframe (.pipeEnd f.payload nowMs)
        (by rw [packetOp, if_neg h70, if_neg h71, if_neg h72, if_neg h80, if_neg h81, if_pos h82])
    · exact .unsupported _

lemma PacketOutcome.conserves {c : OpenDisplayComponent β} {pkt : RxPacket} {nowMs : UInt32}
    {done : Done β} (ho : PacketOutcome (ω := ω) c pkt nowMs done) : Conserves c done := by
  cases ho with
  | runt => exact .of_tx_eq rfl rfl rfl
  | config => exact conserves_sendConfig c
  | version | unsupported => exact (sends_send _ _ _).conserves
  | msd => exact ((sends_send _ _ _).andThen (.silent rfl rfl rfl rfl)).conserves
  | answered => exact conserves_answer _ _

/-! ### Frames of the component's own -/

/-- A frame that the component sends on its own account: a NACK, or the answer to a read
of the config, the version or the MSD. -/
def OwnFrame (r : Response) : Prop :=
  (∃ rest, r.bytes = respNack :: rest) ∨
    ∃ opcode rest, (opcode = cmdConfigRead ∨ opcode = cmdFirmwareVersion ∨ opcode = cmdReadMsd) ∧
      r.bytes = respAck :: echo opcode :: rest

lemma ownFrame_configChunk {blob : List UInt8} {i : UInt16}
    (h : (encodeConfigChunk blob i).isEmpty = false) : OwnFrame (encodeConfigChunk blob i) := by
  rw [encodeConfigChunk] at h ⊢
  dsimp only at h ⊢
  split_ifs at h ⊢
  · cases h
  · exact Or.inr ⟨cmdConfigRead, _, Or.inl rfl, rfl⟩

omit [OpenDisplayBackend β] in
lemma ownFrames_sendChunks (blob : List UInt8) (tx : TxQueue) (fuel : ℕ) (i : UInt16) :
    ∀ r ∈ queuedFrames (sendChunks blob tx fuel i).1, OwnFrame r := by
  intro r hr
  obtain ⟨_, hempty, rfl⟩ := exists_of_mem_queued_sendChunks hr
  exact ownFrame_configChunk hempty

omit [OpenDisplayBackend β] in
/-- A frame of the component's own is the only one that is sent. -/
lemma Sends.ownFrames {c : OpenDisplayComponent β} {r : Response} {terminal : Bool}
    {done : Done β} (h : Sends c [(r, terminal)] done) (hr : OwnFrame r) :
    ∀ r' ∈ queuedFrames done.1, OwnFrame r' := by
  intro r' hr'
  rw [h.queued_eq] at hr'
  obtain ⟨t, ht⟩ := TxQueue.exists_mem_of_mem_pushAll hr'
  obtain ⟨rfl, -⟩ := Prod.mk.inj (List.mem_singleton.mp ht)
  exact hr

omit [OpenDisplayBackend β] in
lemma ownFrames_sendConfig (c : OpenDisplayComponent β) :
    ∀ r ∈ queuedFrames c.sendConfig.1, OwnFrame r := by
  rw [sendConfig]
  dsimp only
  split_ifs
  · exact (sends_send _ _ _).ownFrames (Or.inl ⟨_, rfl⟩)
  · exact ownFrames_sendChunks _ _ _ _

/-! ### The component and the engine -/

/-- The part of the loop is an operation of the engine and the sending of its result. -/
structure Answered (c : OpenDisplayComponent β) (eop : EngineOp ω) (done : Done β) : Prop where
  engine_eq : done.2.engine = (c.engine.step eop).step (.takeTailSack : EngineOp ω)
  generation_eq : done.2.connectionGeneration = c.connectionGeneration
  handed_eq : handedFrames done.1 =
    resultFrames (c.engine.step eop).takeTailSack.1 (c.engine.perform eop).1
  queued_eq : queuedFrames done.1 =
    (c.tx.pushAll (resultFrames (c.engine.step eop).takeTailSack.1 (c.engine.perform eop).1)).1
  started_iff : Effect.transferStarted ∈ done.1 ↔ (c.engine.perform eop).1.transferStarted = true

lemma answered_answer (c c₁ : OpenDisplayComponent β)
    (htx : c₁.tx = c.tx) (hgen : c₁.connectionGeneration = c.connectionGeneration)
    (eop : EngineOp ω) : Answered c eop (c₁.answer (c.engine.perform eop)) := by
  have h := sends_applyResult { c₁ with engine := c.engine.step eop } (c.engine.perform eop).1
  exact
    { engine_eq := h.engine_eq
      generation_eq := h.generation_eq.trans hgen
      handed_eq := h.handed_eq
      queued_eq := by
        rw [← htx]
        exact h.queued_eq
      started_iff := started_applyResult _ }

lemma Answered.txn_eq {c : OpenDisplayComponent β} {eop : EngineOp ω} {done : Done β}
    (h : Answered c eop done) : done.2.engine.txn = (c.engine.step eop).txn := by
  rw [h.engine_eq]
  exact TransferEngine.takeTailSack_txn _

/-- What a step of the component does to the engine. -/
inductive EngineStep (c : OpenDisplayComponent β) (op : ComponentOp ω) (done : Done β) : Prop
  | kept (hengine : done.2.engine = c.engine)
      (hgen : done.2.connectionGeneration = c.connectionGeneration)
      (hqueued : ∀ r ∈ queuedFrames done.1, OwnFrame r)
      (hstarted : Effect.transferStarted ∉ done.1)
  | connected (hop : op = .bleConnect) (hfx : done.1 = [])
      (hengine : done.2.engine =
        c.engine.step (.setConnectionGeneration (c.connectionGeneration + 1) : EngineOp ω))
      (hgen : done.2.connectionGeneration = c.connectionGeneration + 1)
  | idled (now : UInt32) (temperature : Int) (hop : op = .loop now temperature)
      (hphase : c.phase = .start) (hfx : done.1 = [])
      (hengine : done.2.engine =
        c.engine.step (.disconnect c.connectionGeneration : EngineOp ω))
      (hgen : done.2.connectionGeneration = c.connectionGeneration)
  | aborted (hop : op = .abort) (hfx : done.1 = [])
      (hengine : done.2.engine = c.engine.step (.abort .invalidState : EngineOp ω))
      (hgen : done.2.connectionGeneration = c.connectionGeneration)
  | happened (event : ω) (hop : op = .world event) (hfx : done.1 = [])
      (hengine : done.2.engine = c.engine.step (.world event))
      (hgen : done.2.connectionGeneration = c.connectionGeneration)
  | packet (now : UInt32) (temperature : Int) (hop : op = .loop now temperature)
      (pkt : RxPacket) (hnext : c.nextPacket = some pkt)
      (hcurrent : pkt.connectionGeneration = c.connectionGeneration) (f : Frame)
      (hframe : pkt.frame = some f) (eop : EngineOp ω) (heop : packetOp f now = some eop)
      (hanswered : Answered c eop done)
  | ticked (now startMs : UInt32) (temperature : Int) (hop : op = .loop now temperature)
      (hphase : c.phase = .tick startMs)
      (hanswered : Answered c (.tick startMs : EngineOp ω) done)

/-- The part of the loop that takes a packet. -/
lemma PacketOutcome.engineStep {c c₁ : OpenDisplayComponent β} {pkt : RxPacket}
    {now : UInt32} {temperature : Int} {done : Done β}
    (ho : PacketOutcome (ω := ω) c₁ pkt now done) (hnext : c.nextPacket = some pkt)
    (hcurrent : pkt.connectionGeneration = c.connectionGeneration)
    (hengine : c₁.engine = c.engine) (htx : c₁.tx = c.tx)
    (hgen : c₁.connectionGeneration = c.connectionGeneration) :
    EngineStep c (.loop now temperature) done := by
  cases ho with
  | runt => exact .kept hengine hgen (fun r hr => nomatch hr) (by simp)
  | config =>
      refine .kept ?_ ?_ (ownFrames_sendConfig c₁) not_started_sendConfig
      · rw [← hengine, sendConfig]
        dsimp only
        split_ifs <;> rfl
      · rw [← hgen, sendConfig]
        dsimp only
        split_ifs <;> rfl
  | version sha =>
      exact .kept hengine hgen
        ((sends_send c₁ _ _).ownFrames (Or.inr ⟨cmdFirmwareVersion, _, by simp, rfl⟩))
        (not_started_send _ _)
  | msd =>
      exact .kept hengine hgen (((sends_send c₁ _ _).andThen (.silent rfl rfl rfl rfl)).ownFrames
        (Or.inr ⟨cmdReadMsd, _, by simp, rfl⟩))
        (fun h => (mem_andThen.mp h).elim (not_started_send _ _) (by simp))
  | unsupported opcode =>
      exact .kept hengine hgen ((sends_send c₁ _ _).ownFrames (Or.inl ⟨_, rfl⟩))
        (not_started_send _ _)
  | answered f hframe eop heop =>
      refine .packet now temperature rfl pkt hnext hcurrent f hframe eop heop ?_
      rw [hengine]
      exact answered_answer c c₁ htx hgen eop

lemma loop_engineStep (c : OpenDisplayComponent β) (now : UInt32) (temperature : Int) :
    EngineStep (ω := ω) c (.loop now temperature) (c.loop now temperature) := by
  have hquiet : ∀ r ∈ queuedFrames [], OwnFrame r := fun r hr => nomatch hr
  have hnone : Effect.transferStarted ∉ ([] : List Effect) := List.not_mem_nil
  have ho := loop_outcome c now temperature
  generalize c.loop now temperature = done at ho ⊢
  cases ho with
  | started | received | stale | draining | drained | unchanged =>
      exact .kept rfl rfl hquiet hnone
  | idled hphase => exact .idled now temperature rfl hphase rfl rfl rfl
  | packet startMs handled _ pkt hnext _ hcurrent =>
      exact (handlePacket_outcome _ pkt now).engineStep hnext hcurrent rfl rfl rfl
  | ticked startMs hphase =>
      exact .ticked now startMs temperature rfl hphase
        (answered_answer c { c with phase := .updateMsd startMs } rfl rfl (.tick startMs))
  | updated startMs =>
      rw [updateMsd_rest]
      exact .kept rfl rfl hquiet hnone
  | notified => exact .kept rfl rfl (fun r hr => nomatch hr) (by simp)
  | published =>
      obtain ⟨-, hqueued, -, hstarted, hrest⟩ := publishState_rest { c with phase := .start }
      refine .kept ?_ ?_ (by simp [hqueued]) hstarted
      · rw [hrest]
      · rw [hrest]

/-- Every step of the component is one of these for the engine. -/
theorem perform_engineStep (c : OpenDisplayComponent β) (op : ComponentOp ω) :
    EngineStep c op (c.perform op) := by
  cases op with
  | bleConnect => exact .connected rfl rfl rfl rfl
  | bleDisconnect => exact .kept rfl rfl (fun r hr => nomatch hr) List.not_mem_nil
  | bleWrite data now => exact .kept rfl rfl (fun r hr => nomatch hr) List.not_mem_nil
  | loop now temperature => exact loop_engineStep c now temperature
  | abort => exact .aborted rfl rfl rfl rfl
  | world event => exact .happened event rfl rfl rfl rfl

/-- **Nothing is lost in the TX queue**, by any step. -/
theorem conserves_perform (c : OpenDisplayComponent β) (op : ComponentOp ω) :
    Conserves c (c.perform op) := by
  cases op with
  | bleConnect | bleDisconnect | bleWrite | abort | world => exact .of_tx_eq rfl rfl rfl
  | loop now temperature =>
      have ho := loop_outcome c now temperature
      change Conserves c (c.loop now temperature)
      generalize c.loop now temperature = done at ho ⊢
      cases ho with
      | started | idled | received | stale | draining | drained | unchanged =>
          exact .of_tx_eq rfl rfl rfl
      | packet _ _ _ pkt => exact (handlePacket_outcome (ω := ω) _ pkt now).conserves
      | ticked startMs => exact conserves_answer { c with phase := .updateMsd startMs } _
      | updated startMs =>
          rw [updateMsd_rest]
          exact .of_tx_eq rfl rfl rfl
      | notified _ _ r hpop =>
          -- the notified frame was the oldest one
          rw [Conserves, TxQueue.toList_pop_some hpop]
          exact (List.append_nil _).symm
      | published =>
          obtain ⟨-, hqueued, hnotified, -, hrest⟩ := publishState_rest { c with phase := .start }
          have htx : { c with phase := .start }.publishState.2.tx = c.tx := by rw [hrest]
          exact .of_tx_eq hqueued hnotified htx

/-! ### The engine in a run of the component -/

/-- **The component only operates the engine.**  The engine in a run of the component is
in a state that the engine reaches on its own. -/
theorem exists_engine_run (c : OpenDisplayComponent β) (ops : List (ComponentOp ω)) :
    ∃ eops : List (EngineOp ω), (Machine.exec step c ops).engine =
      Machine.exec TransferEngine.step c.engine eops := by
  refine Machine.exists_exec_of_steps OpenDisplayComponent.engine (fun c op => ?_) c ops
  have ho := perform_engineStep c op
  change ∃ eops, (c.perform op).2.engine = _
  cases ho with
  | kept hengine => exact ⟨[], hengine⟩
  | connected _ _ hengine => exact ⟨[_], hengine⟩
  | idled _ _ _ _ _ hengine => exact ⟨[_], hengine⟩
  | aborted _ _ hengine => exact ⟨[_], hengine⟩
  | happened _ _ _ hengine => exact ⟨[_], hengine⟩
  | packet _ _ _ _ _ _ _ _ _ _ hanswered => exact ⟨[_, _], hanswered.engine_eq⟩
  | ticked _ _ _ _ _ hanswered => exact ⟨[_, _], hanswered.engine_eq⟩

omit [OpenDisplayBackend β] in
/-- What `setup` leaves: a fresh engine, empty queues and no connection. -/
lemma setup_fresh (b : β) (settings : ComponentSettings) (temperature : Int) :
    (setup b settings temperature).2.engine =
        .init b settings.transferTimeoutMs settings.refreshTimeoutMs ∧
      (setup b settings temperature).2.rx = .init ∧
      (setup b settings temperature).2.tx = .init ∧
      (setup b settings temperature).2.connectionGeneration = 0 := by
  rw [setup, (publishState_rest _).2.2.2.2, updateMsd_rest]
  exact ⟨rfl, rfl, rfl, rfl⟩

/-- What holds of the engine between two steps of the component: its transfer is in the
ledger, and no SACK is left staged. -/
structure Settled (e : TransferEngine β) : Prop where
  ledger : ∃ t, TransferEngine.Ledger t e
  staged : e.hasTailSack = false

lemma Settled.step {c : OpenDisplayComponent β} (h : Settled c.engine) (op : ComponentOp ω) :
    Settled (c.step op).engine := by
  obtain ⟨t, hledger⟩ := h.ledger
  have hstep : ∀ eop : EngineOp ω, ∃ t', TransferEngine.Ledger t' (c.engine.step eop) :=
    fun eop => ⟨_, hledger.step eop⟩
  have hanswered : ∀ {eop : EngineOp ω}, Answered c eop (c.perform op) →
      Settled (c.perform op).2.engine := by
    intro eop ha
    obtain ⟨t', ht'⟩ := hstep eop
    exact ⟨⟨_, ha.engine_eq ▸ ht'.step .takeTailSack⟩,
      ha.engine_eq ▸ TransferEngine.takeTailSack_hasTailSack _⟩
  change Settled (c.perform op).2.engine
  have ho := perform_engineStep c op
  cases ho with
  | kept hengine => exact hengine ▸ h
  | connected _ _ hengine | happened _ _ _ hengine =>
      rw [hengine]
      exact ⟨hstep _, h.staged⟩
  | idled _ _ _ _ _ hengine =>
      rw [hengine]
      refine ⟨hstep _, ?_⟩
      change (c.engine.onDisconnect c.connectionGeneration).hasTailSack = false
      simpa using h.staged
  | aborted _ _ hengine =>
      rw [hengine]
      refine ⟨hstep _, ?_⟩
      change (c.engine.abort .invalidState).hasTailSack = false
      simpa using h.staged
  | packet _ _ _ _ _ _ _ _ _ _ ha => exact hanswered ha
  | ticked _ _ _ _ _ ha => exact hanswered ha

omit [OpenDisplayBackend β] in
lemma settled_setup (b : β) (settings : ComponentSettings) (temperature : Int) :
    Settled (setup b settings temperature).2.engine := by
  rw [(setup_fresh b settings temperature).1]
  exact ⟨⟨{}, TransferEngine.ledger_init _ _ _ _⟩, rfl⟩

end OpenDisplayComponent

end OpenDisplay
