import OpenDisplay.Component.LoopOrder

/-!
# An iteration in one piece

`loop()` as `opendisplay.cpp` has it, one function with its two drains as loops.  The
component takes it part by part, because callbacks may come in between.  When none does,
the parts come to the function: they end in the same state, and have done the same
(`loop_in_parts`).

Handling a packet, applying a result and publishing neither read nor change the phase that
the loop is in; that is all the proof rests on.
-/

namespace OpenDisplay

variable {β ω : Type} [OpenDisplayBackend β] [PanelWorld β ω]

namespace OpenDisplayComponent

/-! ### The function -/

/-- The drain of the received packets; `left` more may be taken, and `millis i` is what the
clock shows at the `i`-th of them. -/
def drainRx (c : OpenDisplayComponent β) (millis : ℕ → UInt32) : ℕ → Done β
  | 0 => ([], c)
  | left + 1 =>
      match c.rx.pop with
      | (none, rx) => ([], { c with rx := rx })
      | (some pkt, rx) =>
          let c := { c with rx := rx }
          let done :=
            if pkt.connectionGeneration ≠ c.connectionGeneration then ([], c)
            else c.handlePacket pkt (millis 0)
          andThen done fun c => c.drainRx (fun i => millis (i + 1)) left

/-- `drain_tx_`, past the question whether there is a connection. -/
def drainTx (c : OpenDisplayComponent β) : ℕ → Done β
  | 0 => ([], c)
  | left + 1 =>
      match c.tx.pop with
      | (none, tx) => ([], { c with tx := tx })
      | (some r, tx) => andThen ([.notified r], { c with tx := tx }) fun c => c.drainTx left

/-- `loop`, in one piece. -/
def loopWhole (c : OpenDisplayComponent β) (nowMs : UInt32) (millis : ℕ → UInt32)
    (chipTemperatureEncoded : Int) : Done β :=
  let c :=
    if !c.connected then { c with engine := c.engine.onDisconnect c.connectionGeneration } else c
  let done := c.drainRx millis rxDrainLimit
  let done := andThen done fun c => c.answer (c.engine.tick nowMs)
  let done := andThen done fun c => ([], c.updateMsd nowMs chipTemperatureEncoded)
  let done := andThen done fun c => if c.connected then c.drainTx txDrainLimit else ([], c)
  andThen done fun c =>
    if c.engine.txn.state ≠ c.publishedState ∨ c.engine.isBusy ≠ c.publishedBusy then
      c.publishState
    else ([], c)

/-! ### The phase is not looked at -/

/-- The component in this phase of the loop. -/
def inPhase (phase : LoopPhase) (c : OpenDisplayComponent β) : OpenDisplayComponent β :=
  { c with phase := phase }

/-- The part neither reads nor changes the phase. -/
def Phaseless (f : OpenDisplayComponent β → Done β) : Prop :=
  ∀ phase c, f (c.inPhase phase) = ((f c).1, (f c).2.inPhase phase)

section Phaseless

omit [OpenDisplayBackend β]

variable {f g : OpenDisplayComponent β → Done β}

lemma phaseless_silent : Phaseless fun c : OpenDisplayComponent β => ([], c) := fun _ _ => rfl

/-- A part without a phase, after one that left the same but for the phase. -/
lemma Phaseless.after (hg : Phaseless g) {phase : LoopPhase} {done done' : Done β}
    (h : done' = (done.1, done.2.inPhase phase)) :
    OpenDisplayComponent.andThen done' g =
      ((OpenDisplayComponent.andThen done g).1,
        (OpenDisplayComponent.andThen done g).2.inPhase phase) := by
  rw [h, OpenDisplayComponent.andThen, hg]
  rfl

lemma Phaseless.andThen (hf : Phaseless f) (hg : Phaseless g) :
    Phaseless fun c => OpenDisplayComponent.andThen (f c) g :=
  fun phase c => hg.after (hf phase c)

lemma Phaseless.ite (hf : Phaseless f) (hg : Phaseless g) {p : OpenDisplayComponent β → Prop}
    [∀ c, Decidable (p c)] (hp : ∀ phase c, p (c.inPhase phase) ↔ p c) :
    Phaseless fun c => if p c then f c else g c := by
  intro phase c
  dsimp only
  by_cases h : p c
  · rw [if_pos h, if_pos ((hp phase c).mpr h), hf]
  · rw [if_neg h, if_neg fun h' => h ((hp phase c).mp h'), hg]

lemma phaseless_send (r : Response) (terminal : Bool) :
    Phaseless fun c : OpenDisplayComponent β => c.send r terminal := fun _ _ => rfl

lemma phaseless_raiseError : Phaseless (raiseError : OpenDisplayComponent β → Done β) :=
  fun _ _ => rfl

lemma phaseless_sendConfig : Phaseless (sendConfig : OpenDisplayComponent β → Done β) := by
  intro phase c
  rw [sendConfig, sendConfig]
  change (if !c.settings.configValid then _ else _) = _
  split_ifs <;> rfl

lemma phaseless_publishState : Phaseless (publishState : OpenDisplayComponent β → Done β) := by
  intro phase c
  rw [publishState, publishState]
  change (if c.engine.txn.state = .idle ∧ c.errorPending then _ else _) = _
  split_ifs <;> rfl

lemma phaseless_applyResult (res : EngineResult) :
    Phaseless fun c : OpenDisplayComponent β => c.applyResult res := by
  have hresponse : Phaseless fun c : OpenDisplayComponent β =>
      if !res.response.isEmpty then c.send res.response
        (res.refreshComplete || res.refreshTimeout || res.terminalError) else ([], c) :=
    .ite (phaseless_send _ _) phaseless_silent fun _ _ => Iff.rfl
  have hstarted : Phaseless fun c : OpenDisplayComponent β =>
      (if res.transferStarted then [.transferStarted] else [], c) := fun _ _ => rfl
  have hcomplete : Phaseless fun c : OpenDisplayComponent β =>
      if res.refreshComplete then
        OpenDisplayComponent.andThen (c.send (encodeAck respDirectWriteRefreshSuccess) true)
          fun c => ([.refreshComplete], c)
      else ([], c) :=
    .ite ((phaseless_send _ _).andThen fun _ _ => rfl) phaseless_silent fun _ _ => Iff.rfl
  have htimeout : Phaseless fun c : OpenDisplayComponent β =>
      if res.refreshTimeout then
        OpenDisplayComponent.andThen (c.send (encodeAck respDirectWriteRefreshTimeout) true)
          raiseError
      else ([], c) :=
    .ite ((phaseless_send _ _).andThen phaseless_raiseError) phaseless_silent fun _ _ => Iff.rfl
  have herror : Phaseless fun c : OpenDisplayComponent β =>
      if res.terminalError then c.raiseError else ([], c) :=
    .ite phaseless_raiseError phaseless_silent fun _ _ => Iff.rfl
  intro phase c
  refine herror.after (htimeout.after (hcomplete.after (hstarted.after (hresponse.after ?_))))
  -- the staged SACK
  dsimp only [inPhase]
  rcases c.engine.takeTailSack.1 with _ | tail <;> rfl

end Phaseless

omit [OpenDisplayBackend β] in
lemma phaseless_answer {f : TransferEngine β → EngineResult × TransferEngine β} :
    Phaseless fun c : OpenDisplayComponent β => c.answer (f c.engine) := fun phase c =>
  phaseless_applyResult (f c.engine).1 phase { c with engine := (f c.engine).2 }

lemma phaseless_handlePacket (pkt : RxPacket) (nowMs : UInt32) :
    Phaseless fun c : OpenDisplayComponent β => c.handlePacket pkt nowMs := by
  intro phase c
  dsimp only [handlePacket]
  rcases pkt.frame with _ | f
  · rfl
  · dsimp only
    split_ifs
    · exact phaseless_sendConfig phase c
    · rfl
    · rfl
    · exact phaseless_answer (f := fun e => e.onDirectStart f.payload nowMs) phase c
    · exact phaseless_answer (f := fun e => e.onDirectData f.payload nowMs) phase c
    · exact phaseless_answer (f := fun e => e.onDirectEnd f.payload nowMs) phase c
    · exact phaseless_answer (f := fun e => e.onPipeStart f.payload nowMs) phase c
    · exact phaseless_answer (f := fun e => e.onPipeData f.payload nowMs) phase c
    · exact phaseless_answer (f := fun e => e.onPipeEnd f.payload nowMs) phase c
    · rfl

/-! ### The parts come to the function -/

/-- What a step does. -/
def effects (c : OpenDisplayComponent β) (op : ComponentOp ω) : List Effect := (c.perform op).1

/-- The parts of a whole iteration in which `packets` packets are taken and `others` parts
come after the tick, the MSD and the question whether there is a connection. -/
def wholeParts (nowMs : UInt32) (millis : ℕ → UInt32) (chipTemperatureEncoded : Int)
    (packets others : ℕ) : List (ComponentOp ω) :=
  .loop nowMs chipTemperatureEncoded ::
    (List.range (packets + 1)).map (fun i => .loop (millis i) chipTemperatureEncoded) ++
    List.replicate (others + 3) (.loop nowMs chipTemperatureEncoded)

/-- A part that takes a packet is what the drain does with one. -/
lemma loop_take {c : OpenDisplayComponent β} {startMs : UInt32} {handled : ℕ}
    (hlimit : handled < rxDrainLimit) {pkt : RxPacket} {rx : RxQueue}
    (hpop : c.rx.pop = (some pkt, rx)) (nowMs : UInt32) (temperature : Int) :
    (c.inPhase (.receive startMs handled)).loop nowMs temperature =
      let done :=
        if pkt.connectionGeneration ≠ c.connectionGeneration then ([], { c with rx := rx })
        else { c with rx := rx }.handlePacket pkt nowMs
      (done.1, done.2.inPhase (.receive startMs (handled + 1))) := by
  have hsame := phaseless_handlePacket pkt nowMs (.receive startMs (handled + 1))
    { c with rx := rx }
  rw [loop]
  dsimp only [inPhase] at hsame ⊢
  rw [if_pos hlimit, hpop]
  dsimp only
  split_ifs
  · rfl
  · exact hsame

/-- The drain of the received packets. -/
lemma drainRx_run (startMs : UInt32) (temperature : Int) {left : ℕ} (hleft : left ≤ rxDrainLimit)
    (c : OpenDisplayComponent β) (millis : ℕ → UInt32) :
    ∃ packets ≤ left, Machine.Run step effects
      (c.inPhase (.receive startMs (rxDrainLimit - left)))
      ((List.range (packets + 1)).map fun i => (.loop (millis i) temperature : ComponentOp ω))
      (c.drainRx millis left).1 ((c.drainRx millis left).2.inPhase (.tick startMs)) := by
  induction left generalizing c millis with
  | zero =>
      refine ⟨0, le_rfl, .silent ?_ ?_ (.nil _)⟩
      · rfl
      · rfl
  | succ left ih =>
      have hlimit : rxDrainLimit - (left + 1) < rxDrainLimit := by
        rw [rxDrainLimit] at hleft ⊢
        omega
      rcases hpop : c.rx.pop with ⟨_ | pkt, rx⟩
      · have hnone : (c.inPhase (.receive startMs (rxDrainLimit - (left + 1)))).loop (millis 0)
            temperature = ([], { c with rx := rx }.inPhase (.tick startMs)) := by
          rw [loop]
          dsimp only [inPhase]
          rw [if_pos hlimit, hpop]
        refine ⟨0, Nat.zero_le _, .silent (congrArg Prod.fst hnone) (congrArg Prod.snd hnone) ?_⟩
        rw [drainRx, hpop]
        exact .nil _
      · have hnext : rxDrainLimit - (left + 1) + 1 = rxDrainLimit - left := by
          rw [rxDrainLimit] at hleft ⊢
          omega
        have htake := @loop_take _ _ c startMs _ hlimit _ _ hpop (millis 0) temperature
        rw [hnext] at htake
        dsimp only at htake
        rw [drainRx, hpop]
        dsimp only
        generalize (if pkt.connectionGeneration ≠ c.connectionGeneration then
          ([], { c with rx := rx }) else { c with rx := rx }.handlePacket pkt (millis 0)) = done
          at htake ⊢
        obtain ⟨packets, hle, hrun⟩ := ih (Nat.le_of_succ_le hleft) done.2 fun i => millis (i + 1)
        refine ⟨packets + 1, Nat.succ_le_succ hle, ?_⟩
        rw [List.range_succ_eq_map, List.map_cons, List.map_map]
        have hout : effects (ω := ω) (c.inPhase (.receive startMs (rxDrainLimit - (left + 1))))
            (.loop (millis 0) temperature) = done.1 := (congrArg Prod.fst htake :)
        have hstep : step (c.inPhase (.receive startMs (rxDrainLimit - (left + 1))))
            (.loop (millis 0) temperature : ComponentOp ω) =
              done.2.inPhase (.receive startMs (rxDrainLimit - left)) := congrArg Prod.snd htake
        exact .cons hout hstep hrun

/-- The notifications. -/
lemma drainTx_run (nowMs : UInt32) (temperature : Int) {left : ℕ} (hleft : left ≤ txDrainLimit)
    (c : OpenDisplayComponent β) :
    ∃ sent ≤ left, Machine.Run step effects (c.inPhase (.notify (txDrainLimit - left)))
      (List.replicate (sent + 1) (.loop nowMs temperature : ComponentOp ω))
      (c.drainTx left).1 ((c.drainTx left).2.inPhase .publish) := by
  induction left generalizing c with
  | zero => exact ⟨0, le_rfl, .silent rfl rfl (.nil _)⟩
  | succ left ih =>
      have hlimit : txDrainLimit - (left + 1) < txDrainLimit := by
        rw [txDrainLimit] at hleft ⊢
        omega
      rcases hpop : c.tx.pop with ⟨_ | r, tx⟩
      · have hnone : (c.inPhase (.notify (txDrainLimit - (left + 1)))).loop nowMs temperature =
            ([], { c with tx := tx }.inPhase .publish) := by
          rw [loop]
          dsimp only [inPhase]
          rw [if_pos hlimit, hpop]
        refine ⟨0, Nat.zero_le _, .silent (congrArg Prod.fst hnone) (congrArg Prod.snd hnone) ?_⟩
        rw [drainTx, hpop]
        exact .nil _
      · have hsome : (c.inPhase (.notify (txDrainLimit - (left + 1)))).loop nowMs temperature =
            ([.notified r], { c with tx := tx }.inPhase (.notify (txDrainLimit - left))) := by
          have hnext : txDrainLimit - (left + 1) + 1 = txDrainLimit - left := by
            rw [txDrainLimit] at hleft ⊢
            omega
          rw [loop]
          dsimp only [inPhase]
          rw [if_pos hlimit, hpop, hnext]
        obtain ⟨sent, hle, hrun⟩ := ih (Nat.le_of_succ_le hleft) { c with tx := tx }
        refine ⟨sent + 1, Nat.succ_le_succ hle, ?_⟩
        rw [drainTx, hpop]
        have hout : effects (ω := ω) (c.inPhase (.notify (txDrainLimit - (left + 1))))
            (.loop nowMs temperature) = [.notified r] := congrArg Prod.fst hsome
        exact .cons hout (congrArg Prod.snd hsome) hrun

omit [OpenDisplayBackend β] in
lemma updateMsd_inPhase (c : OpenDisplayComponent β) (phase : LoopPhase) (nowMs : UInt32)
    (temperature : Int) :
    (c.inPhase phase).updateMsd nowMs temperature =
      (c.updateMsd nowMs temperature).inPhase phase := by
  rw [updateMsd, updateMsd]
  change (if nowMs ≠ 0 ∧ (nowMs - c.msdNextUpdateMs).toInt32 < 0 then _ else _) = _
  split_ifs <;> rfl

/-- The sensors, if they are to be published. -/
def publishChanged (c : OpenDisplayComponent β) : Done β :=
  if c.engine.txn.state ≠ c.publishedState ∨ c.engine.isBusy ≠ c.publishedBusy then c.publishState
  else ([], c)

omit [OpenDisplayBackend β] in
lemma phaseless_publishChanged :
    Phaseless (publishChanged : OpenDisplayComponent β → Done β) :=
  phaseless_publishState.ite phaseless_silent fun _ _ => Iff.rfl

/-- What comes after the MSD: the notifications if there is a connection, and the sensors. -/
def closing (c : OpenDisplayComponent β) : Done β :=
  andThen (if c.connected then c.drainTx txDrainLimit else ([], c)) publishChanged

lemma publish_run (c : OpenDisplayComponent β) (nowMs : UInt32) (temperature : Int) :
    Machine.Run step effects (c.inPhase .publish) [(.loop nowMs temperature : ComponentOp ω)]
      c.publishChanged.1 (c.publishChanged.2.inPhase .start) := by
  have hsame := phaseless_publishChanged .start c
  have hout : effects (ω := ω) (c.inPhase .publish) (.loop nowMs temperature) =
      c.publishChanged.1 := (congrArg Prod.fst hsame :)
  have hstep : step (c.inPhase .publish) (.loop nowMs temperature : ComponentOp ω) =
      c.publishChanged.2.inPhase .start := (congrArg Prod.snd hsame :)
  have hrun := Machine.Run.cons hout hstep (.nil _)
  rwa [List.append_nil] at hrun

lemma closing_run (c : OpenDisplayComponent β) (nowMs : UInt32) (temperature : Int) :
    ∃ others ≤ txDrainLimit + 2, Machine.Run step effects (c.inPhase .drain)
      (List.replicate (others + 1) (.loop nowMs temperature : ComponentOp ω)) c.closing.1
      (c.closing.2.inPhase .start) := by
  have hturn : step (c.inPhase .drain) (.loop nowMs temperature : ComponentOp ω) =
      c.inPhase (if c.connected then .notify 0 else .publish) := rfl
  rw [closing]
  rcases hconnected : c.connected with _ | _
  · rw [hconnected] at hturn
    exact ⟨1, by decide, .silent rfl hturn (publish_run c nowMs temperature)⟩
  · rw [hconnected] at hturn
    obtain ⟨sent, hle, hrun⟩ := drainTx_run (ω := ω) nowMs temperature (le_refl txDrainLimit) c
    have hboth := hrun.append (publish_run _ nowMs temperature)
    rw [← List.replicate_succ'] at hboth
    exact ⟨sent + 2, by omega, .silent rfl hturn hboth⟩

/-- **An iteration is its parts.**  When no callback comes in, the parts of the loop come to
the function: they do the same, in the same order, and leave the same behind. -/
theorem loop_in_parts {c : OpenDisplayComponent β} (hphase : c.phase = .start) (nowMs : UInt32)
    (millis : ℕ → UInt32) (temperature : Int) :
    ∃ packets ≤ rxDrainLimit, ∃ others ≤ txDrainLimit + 2,
      Machine.Run step effects c
        (wholeParts nowMs millis temperature packets others : List (ComponentOp ω))
        (c.loopWhole nowMs millis temperature).1
        ((c.loopWhole nowMs millis temperature).2.inPhase .start) := by
  rw [loopWhole]
  generalize hbegun : (if !c.connected then
    { c with engine := c.engine.onDisconnect c.connectionGeneration } else c) = begun
  have hstart : step c (.loop nowMs temperature : ComponentOp ω) =
      begun.inPhase (.receive nowMs (rxDrainLimit - rxDrainLimit)) := by
    change (c.loop nowMs temperature).2 = _
    rw [Nat.sub_self, ← hbegun, loop, hphase]
    rfl
  obtain ⟨packets, hpackets, hreceive⟩ :=
    drainRx_run (ω := ω) nowMs temperature (le_refl rxDrainLimit) begun millis
  generalize begun.drainRx millis rxDrainLimit = received at hreceive ⊢
  obtain ⟨ticked, htick⟩ : ∃ done, received.2.answer (received.2.engine.tick nowMs) = done :=
    ⟨_, rfl⟩
  have hticked : (received.2.inPhase (.updateMsd nowMs)).answer
      (received.2.engine.tick nowMs) = (ticked.1, ticked.2.inPhase (.updateMsd nowMs)) := by
    rw [← htick]
    exact phaseless_answer (f := fun e => e.tick nowMs) (.updateMsd nowMs) received.2
  have hout : effects (ω := ω) (received.2.inPhase (.tick nowMs)) (.loop nowMs temperature) =
      ticked.1 := (congrArg Prod.fst hticked :)
  have hnext : step (received.2.inPhase (.tick nowMs)) (.loop nowMs temperature : ComponentOp ω) =
      ticked.2.inPhase (.updateMsd nowMs) := (congrArg Prod.snd hticked :)
  -- the MSD
  have hupdated : step (ticked.2.inPhase (.updateMsd nowMs))
      (.loop nowMs temperature : ComponentOp ω) =
        (ticked.2.updateMsd nowMs temperature).inPhase .drain := by
    change { (ticked.2.inPhase _).updateMsd nowMs temperature with phase := .drain } = _
    rw [updateMsd_inPhase]
    rfl
  obtain ⟨others, hothers, hclosing⟩ :=
    closing_run (ω := ω) (ticked.2.updateMsd nowMs temperature) nowMs temperature
  refine ⟨packets, hpackets, others, hothers, ?_⟩
  have hsilent : effects (ω := ω) c (.loop nowMs temperature) = [] := by
    change (c.loop nowMs temperature).1 = []
    rw [loop, hphase]
  have hrun := Machine.Run.silent hsilent hstart
    (hreceive.append (.cons hout hnext (.silent rfl hupdated hclosing)))
  have hwhole : andThen (andThen (andThen (andThen received fun c =>
      c.answer (c.engine.tick nowMs)) fun c => ([], c.updateMsd nowMs temperature))
      fun c => if c.connected then c.drainTx txDrainLimit else ([], c)) publishChanged =
      (received.1 ++ (ticked.1 ++ (ticked.2.updateMsd nowMs temperature).closing.1),
        (ticked.2.updateMsd nowMs temperature).closing.2) := by
    rw [closing]
    simp only [andThen, htick, List.append_assoc, List.nil_append]
  change Machine.Run step effects c _ (andThen _ publishChanged).1
    ((andThen _ publishChanged).2.inPhase .start)
  rw [hwhole]
  exact hrun

/-- An iteration with more packets and frames than it can take and send, at eight readings of
the clock. -/
theorem loop_in_parts_busy :
    let millis := fun i => 2 + UInt32.ofNat i
    ∃ packets ≤ rxDrainLimit, ∃ others ≤ txDrainLimit + 2,
      Machine.Run step effects busy
        (wholeParts 1 millis 80 packets others : List (ComponentOp Unit))
        (busy.loopWhole 1 millis 80).1 ((busy.loopWhole 1 millis 80).2.inPhase .start) :=
  loop_in_parts (by decide +kernel) 1 (fun i => 2 + UInt32.ofNat i) 80

end OpenDisplayComponent

end OpenDisplay
