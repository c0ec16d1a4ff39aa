import OpenDisplay.Backend.Scripted
import OpenDisplay.Component.Outcome
import OpenDisplay.Lib.Countdown

/-!
# Nobody holds up the loop

The two drains of `loop()` are bounded, so that a burst cannot monopolise an iteration.
Whatever callbacks come in, and however many packets and frames are waiting, an iteration
is at most nineteen parts long: the tick, the MSD and the sensors get their turn
(`stage_comes`), a received packet is taken after as many iterations as it takes to take
those before it (`packets_taken`), a queued frame is notified likewise while the client
stays (`frames_notified`), and no transfer outlives its deadline by more than the rest of
one iteration and the drain of the next (`transfer_ends`).
-/

namespace OpenDisplay

open Machine (cost)

variable {β ω : Type} [OpenDisplayBackend β] [PanelWorld β ω]

/-- The step is a part of the loop. -/
def ComponentOp.isLoop : ComponentOp ω → Bool
  | .loop _ _ => true
  | _ => false

/-! ### Phases -/

namespace LoopPhase

/-- The parts of an iteration when both drains are used up: one for each packet and each
frame, one to end each drain, and five others. -/
def iterationParts : ℕ := 19

/-- At most so many parts are left of the iteration, this one included. -/
def rank : LoopPhase → ℕ
  | .start => iterationParts
  | .receive _ handled => 10 + (OpenDisplayComponent.rxDrainLimit - handled)
  | .tick _ => 9
  | .updateMsd _ => 8
  | .drain => 7
  | .notify sent => 2 + (OpenDisplayComponent.txDrainLimit - sent)
  | .publish => 1

/-- The parts that an iteration cannot leave out. -/
inductive Stage
  | start
  | tick
  | updateMsd
  | drain
  | publish
deriving DecidableEq

/-- The stage that a phase is, the two drains apart. -/
def stage : LoopPhase → Option Stage
  | .start => some .start
  | .tick _ => some .tick
  | .updateMsd _ => some .updateMsd
  | .drain => some .drain
  | .publish => some .publish
  | .receive _ _ | .notify _ => none

/-- The rank of the phases of a stage. -/
def Stage.rank : Stage → ℕ
  | .start => 19
  | .tick => 9
  | .updateMsd => 8
  | .drain => 7
  | .publish => 1

/-- At most so many parts come before the next one of this stage. -/
def untilStage (stage : Stage) (phase : LoopPhase) : ℕ :=
  if stage.rank ≤ phase.rank then phase.rank - stage.rank
  else phase.rank + iterationParts - stage.rank

/-- At most so many parts come before the next drain of the received packets, the part that
starts the iteration included. -/
def untilReceive : LoopPhase → ℕ
  | .start => 1
  | phase => phase.rank + 1

/-- At most so many parts come before the next drain of the responses. -/
def untilNotify : LoopPhase → ℕ
  | .start => 13
  | .receive _ handled => 4 + (OpenDisplayComponent.rxDrainLimit - handled)
  | .tick _ => 3
  | .updateMsd _ => 2
  | .drain => 1
  | .notify _ => 15
  | .publish => 14

/-- The two drains have ranks of their own. -/
lemma stage_of_rank {stage : Stage} {phase : LoopPhase} (h : phase.rank = stage.rank) :
    phase.stage = some stage := by
  cases phase <;> cases stage <;>
    first
    | rfl
    | simp only [rank, Stage.rank, iterationParts, OpenDisplayComponent.rxDrainLimit,
        OpenDisplayComponent.txDrainLimit] at h
      omega

lemma untilStage_lt (stage : Stage) (phase : LoopPhase) :
    untilStage stage phase < iterationParts := by
  have hrank : 0 < stage.rank := by cases stage <;> decide
  have hle : phase.rank ≤ iterationParts := by
    cases phase <;> simp only [rank, iterationParts, OpenDisplayComponent.rxDrainLimit,
      OpenDisplayComponent.txDrainLimit] <;> omega
  have hpos : 0 < iterationParts := by decide
  rw [untilStage]
  split_ifs <;> omega

end LoopPhase

namespace OpenDisplayComponent

/-! ### One part and the next -/

/-- What the parts that handle a packet or apply a result leave alone. -/
def SameLoop (c c' : OpenDisplayComponent β) : Prop :=
  ∃ engine tx errorPending rebootFlag, c' = { c with
    engine := engine
    tx := tx
    errorPending := errorPending
    rebootFlag := rebootFlag }

omit [OpenDisplayBackend β] in
lemma Sends.sameLoop {c : OpenDisplayComponent β} {frames : List (Response × Bool)}
    {done : Done β} (h : Sends c frames done) : SameLoop c done.2 :=
  ⟨c.engine, _, _, _, h.rest_eq⟩

omit [OpenDisplayBackend β] in
lemma sameLoop_answer (c : OpenDisplayComponent β) (answered : EngineResult × TransferEngine β) :
    SameLoop c (c.answer answered).2 :=
  ⟨_, _, _, _, (sends_applyResult { c with engine := answered.2 } answered.1).rest_eq⟩

lemma sameLoop_handlePacket (c : OpenDisplayComponent β) (pkt : RxPacket) (nowMs : UInt32) :
    SameLoop c (c.handlePacket pkt nowMs).2 := by
  rw [handlePacket]
  rcases pkt.frame with _ | f
  · exact ⟨_, _, _, _, rfl⟩
  · dsimp only
    split_ifs
    · rw [sendConfig]
      dsimp only
      split_ifs
      · exact (sends_send c _ _).sameLoop
      · exact ⟨_, _, _, _, rfl⟩
    · exact (sends_send c _ _).sameLoop
    · obtain ⟨_, _, _, _, hsame⟩ := (sends_send c (encodeMsdResponse c.msd) false).sameLoop
      exact ⟨_, _, _, _, congrArg (fun c => { c with rebootFlag := false }) hsame⟩
    all_goals first
      | exact sameLoop_answer c _
      | exact (sends_send c _ _).sameLoop

/-- How a part of the loop moves it on. -/
inductive PhaseMove (c : OpenDisplayComponent β) (nowMs : UInt32) (done : Done β) : Prop
  | started (hphase : c.phase = .start) (hnext : done.2.phase = .receive nowMs 0)
  | took (startMs : UInt32) (handled : ℕ) (hphase : c.phase = .receive startMs handled)
      (hlimit : handled < rxDrainLimit) (pkt : RxPacket) (htaken : c.nextPacket = some pkt)
      (hnext : done.2.phase = .receive startMs (handled + 1))
  | received (startMs : UInt32) (handled : ℕ) (hphase : c.phase = .receive startMs handled)
      (hempty : handled < rxDrainLimit → c.rx.toList = []) (hnext : done.2.phase = .tick startMs)
  | ticked (startMs : UInt32) (hphase : c.phase = .tick startMs)
      (hnext : done.2.phase = .updateMsd startMs)
      (hengine : done.2.engine = (c.engine.tick startMs).2.takeTailSack.2)
  | updated (startMs : UInt32) (hphase : c.phase = .updateMsd startMs)
      (hnext : done.2.phase = .drain)
  | draining (hphase : c.phase = .drain) (hconnected : c.connected = true)
      (hnext : done.2.phase = .notify 0)
  | skipped (hphase : c.phase = .drain) (hconnected : c.connected = false)
      (hnext : done.2.phase = .publish)
  | notified (sent : ℕ) (hphase : c.phase = .notify sent) (hlimit : sent < txDrainLimit)
      (r : Response) (hfx : done.1 = [.notified r]) (hnext : done.2.phase = .notify (sent + 1))
  | drained (sent : ℕ) (hphase : c.phase = .notify sent)
      (hempty : sent < txDrainLimit → c.tx.toList = []) (hnext : done.2.phase = .publish)
  | published (hphase : c.phase = .publish) (hnext : done.2.phase = .start)

lemma loop_phaseMove (c : OpenDisplayComponent β) (nowMs : UInt32) (temperature : Int) :
    PhaseMove c nowMs (c.loop nowMs temperature) := by
  rw [loop]
  rcases hphase : c.phase with _ | ⟨startMs, handled⟩ | startMs | startMs | _ | sent | _
  · exact .started hphase rfl
  · dsimp only
    split_ifs with hlimit
    · rcases hpop : c.rx.pop with ⟨_ | pkt, rx⟩
      · refine .received startMs handled hphase (fun _ => ?_) rfl
        exact RxQueue.toList_eq_nil_of_pop (by rw [hpop])
      · have htaken : c.nextPacket = some pkt := by simp [nextPacket, hphase, hlimit, hpop]
        refine .took startMs handled hphase hlimit pkt htaken ?_
        dsimp only
        split_ifs
        · rfl
        · obtain ⟨_, _, _, _, hsame⟩ := sameLoop_handlePacket
            { c with rx := rx, phase := .receive startMs (handled + 1) } pkt nowMs
          rw [hsame]
    · exact .received startMs handled hphase (fun h => absurd h hlimit) rfl
  · obtain ⟨_, _, _, _, hsame⟩ :=
      sameLoop_answer { c with phase := .updateMsd startMs } (c.engine.tick startMs)
    exact .ticked startMs hphase (by rw [hsame]) (sends_applyResult _ _).engine_eq
  · exact .updated startMs hphase rfl
  · rcases hconnected : c.connected with _ | _
    · exact .skipped hphase hconnected rfl
    · exact .draining hphase hconnected rfl
  · dsimp only
    split_ifs with hlimit
    · rcases hpop : c.tx.pop with ⟨_ | r, tx⟩
      · refine .drained sent hphase (fun _ => ?_) rfl
        exact TxQueue.toList_eq_nil_of_pop (by rw [hpop])
      · exact .notified sent hphase hlimit r rfl rfl
    · exact .drained sent hphase (fun h => absurd h hlimit) rfl
  · refine .published hphase ?_
    dsimp only
    split_ifs
    · rw [(publishState_rest _).2.2.2.2]
    · rfl

/-- A part of the loop takes the iteration on, and leaves no stage out. -/
lemma PhaseMove.rank {c : OpenDisplayComponent β} {nowMs : UInt32} {done : Done β}
    (h : PhaseMove c nowMs done) :
    (c.phase = .publish ∧ done.2.phase = .start) ∨
      (done.2.phase.rank < c.phase.rank ∧ ∀ stage : LoopPhase.Stage,
        stage.rank < c.phase.rank → stage.rank ≤ done.2.phase.rank) := by
  cases h with
  | published hphase hnext => exact Or.inl ⟨hphase, hnext⟩
  | _ =>
      right
      simp only [*, LoopPhase.rank, LoopPhase.iterationParts, rxDrainLimit, txDrainLimit] at *
      refine ⟨by omega, fun stage hstage => ?_⟩
      cases stage <;> simp only [LoopPhase.Stage.rank] at hstage ⊢ <;> omega

/-! ### The stages come -/

/-- The step is the part of the loop that is this stage. -/
def AtStage (stage : LoopPhase.Stage) (c : OpenDisplayComponent β) (op : ComponentOp ω) : Prop :=
  op.isLoop = true ∧ c.phase.stage = some stage

lemma untilStage_step {stage : LoopPhase.Stage} {c : OpenDisplayComponent β}
    {op : ComponentOp ω} (h : ¬ AtStage stage c op) :
    LoopPhase.untilStage stage (c.step op).phase + cost ComponentOp.isLoop op ≤
      LoopPhase.untilStage stage c.phase := by
  cases op with
  | loop now temperature =>
      have hnot : c.phase.rank ≠ stage.rank := fun heq => h ⟨rfl, LoopPhase.stage_of_rank heq⟩
      change LoopPhase.untilStage stage (c.loop now temperature).2.phase + 1 ≤ _
      have hrank : 0 < stage.rank ∧ stage.rank ≤ LoopPhase.iterationParts := by
        cases stage <;> decide
      rw [LoopPhase.untilStage, LoopPhase.untilStage]
      rcases (loop_phaseMove c now temperature).rank with ⟨hphase, hnext⟩ | ⟨hless, hkept⟩
      · have hpublish : c.phase.rank = 1 := by rw [hphase]; rfl
        have hstart : (c.loop now temperature).2.phase.rank = LoopPhase.iterationParts := by
          rw [hnext]; rfl
        rw [hpublish] at hnot ⊢
        rw [hstart, if_pos hrank.2, if_neg (by omega)]
        omega
      · have hle := hkept stage
        split_ifs <;> omega
  | _ => exact le_rfl

/-- **Every stage comes.**  Whatever the callbacks do in between, nineteen parts of the loop
contain one that starts an iteration, one that ticks, one that updates the MSD, one that
comes to the notifications and one that comes to the sensors. -/
theorem stage_comes (c : OpenDisplayComponent β) {ops : List (ComponentOp ω)}
    (hparts : LoopPhase.iterationParts ≤ ops.countP ComponentOp.isLoop)
    (stage : LoopPhase.Stage) : Machine.Meets step (AtStage stage) c ops :=
  Machine.meets_of_countdown (I := fun _ => True) (P := fun _ _ => True)
    (μ := fun c => LoopPhase.untilStage stage c.phase)
    (fun _ _ _ _ _ => trivial) (fun _ _ _ _ h => untilStage_step h) trivial
    (Machine.allSteps_of_forall_mem step (fun _ _ _ => trivial) c)
    (Nat.lt_of_lt_of_le (LoopPhase.untilStage_lt stage c.phase) hparts)

/-- A component whose panel takes frames of three bytes and never ends its refresh. -/
def unending : OpenDisplayComponent ScriptedPanel :=
  (setup (ScriptedPanel.accepting 3 []) defaultSettings 80).2

/-- `n` requests for the version. -/
def versionRequests (n : ℕ) (nowMs : UInt32) : List (ComponentOp Unit) :=
  List.replicate n (.bleWrite [0x00, 0x43] nowMs)

/-- A client has connected and asked more than one iteration can take or answer: nine packets
and four frames are waiting. -/
def busy : OpenDisplayComponent ScriptedPanel :=
  Machine.exec step unending
    (.bleConnect :: versionRequests 8 0 ++ loopParts 19 1 ++ versionRequests 9 1)

/-- The busy loop comes to the sensors, though packets go on coming in. -/
theorem stage_comes_busy :
    (busy.connected = true ∧ busy.rx.toList.length = 9 ∧ busy.tx.toList.length = 4) ∧
      Machine.Meets step (AtStage .publish) busy
        (loopParts 5 2 ++ versionRequests 3 2 ++ loopParts 14 2) :=
  ⟨by decide +kernel, stage_comes busy (by decide) .publish⟩

/-! ### Received packets are taken -/

/-- The packet that a step takes from the receive queue. -/
def takenPackets (c : OpenDisplayComponent β) : ComponentOp ω → List RxPacket
  | .loop _ _ => c.nextPacket.toList
  | _ => []

/-- The packet that a step puts into the receive queue. -/
def arrivedPackets (c : OpenDisplayComponent β) (op : ComponentOp ω) : List RxPacket :=
  match op with
  | .bleWrite _ _ => (c.step op).rx.toList.drop c.rx.toList.length
  | _ => []

omit [OpenDisplayBackend β] in
lemma nextPacket_of_phase {c : OpenDisplayComponent β}
    (h : ∀ startMs handled, c.phase ≠ .receive startMs handled) : c.nextPacket = none := by
  rw [nextPacket]
  rcases hphase : c.phase with _ | ⟨startMs, handled⟩ | _ | _ | _ | _ | _
  case receive => exact absurd hphase (h startMs handled)
  all_goals rfl

/-- No packet is lost in the receive queue, and none overtakes another. -/
lemma rx_conserved (c : OpenDisplayComponent β) (op : ComponentOp ω) :
    takenPackets c op ++ (c.step op).rx.toList = c.rx.toList ++ arrivedPackets c op := by
  cases op with
  | bleConnect | bleDisconnect | abort | world => exact (List.append_nil _).symm
  | bleWrite data now =>
      change (c.rx.push data c.connectionGeneration now).2.toList = c.rx.toList ++
        (c.rx.push data c.connectionGeneration now).2.toList.drop c.rx.toList.length
      rcases hpush : (c.rx.push data c.connectionGeneration now).1 with _ | _
      · rw [RxQueue.toList_push_of_refused hpush, List.drop_length, List.append_nil]
      · obtain ⟨pkt, hlist, -⟩ := RxQueue.toList_push_of_taken hpush
        rw [hlist, List.drop_left]
  | loop now temperature =>
      have ho := loop_outcome c now temperature
      change c.nextPacket.toList ++ (c.loop now temperature).2.rx.toList = c.rx.toList ++ []
      rw [List.append_nil]
      have hquiet : ∀ {phase : LoopPhase}, c.phase = phase →
          (∀ startMs handled, phase ≠ .receive startMs handled) → c.nextPacket = none :=
        fun hphase h => nextPacket_of_phase fun startMs handled => hphase ▸ h startMs handled
      generalize c.loop now temperature = done at ho ⊢
      cases ho with
      | received _ _ _ hnext => rw [hnext]; rfl
      | stale _ _ _ pkt hnext hpop => rw [hnext]; exact (RxQueue.toList_pop_some hpop).symm
      | packet startMs handled _ pkt hnext hpop =>
          obtain ⟨_, _, _, _, hsame⟩ := sameLoop_handlePacket
            { c with rx := c.rx.pop.2, phase := .receive startMs (handled + 1) } pkt now
          rw [hnext, hsame]
          exact (RxQueue.toList_pop_some hpop).symm
      | started hphase | idled hphase | draining hphase | notified _ hphase | drained _ hphase
      | unchanged hphase =>
          rw [hquiet hphase (by simp)]
          rfl
      | updated _ hphase =>
          rw [hquiet hphase (by simp), updateMsd_rest]
          rfl
      | ticked startMs hphase =>
          obtain ⟨_, _, _, _, hsame⟩ :=
            sameLoop_answer { c with phase := .updateMsd startMs } (c.engine.tick startMs)
          rw [hquiet hphase (by simp), hsame]
          rfl
      | published hphase =>
          rw [hquiet hphase (by simp), (publishState_rest _).2.2.2.2]
          rfl

/-- At most so many parts of the loop until `k` packets have been taken. -/
def packetTime (c : OpenDisplayComponent β) (k : ℕ) : ℕ :=
  match c.phase with
  | .receive _ handled => drainTime rxDrainLimit 11 (min handled rxDrainLimit) k
  | phase => phase.untilReceive + drainTime rxDrainLimit 11 0 k

lemma packetTime_step {c : OpenDisplayComponent β} {op : ComponentOp ω} {k : ℕ}
    (hk : k + 1 ≤ c.rx.toList.length) :
    packetTime (c.step op) (k + 1 - (takenPackets c op).length) + cost ComponentOp.isLoop op ≤
      packetTime c (k + 1) := by
  cases op with
  | loop now temperature =>
      change packetTime (c.loop now temperature).2 (k + 1 - c.nextPacket.toList.length) + 1 ≤ _
      cases loop_phaseMove c now temperature with
      | took startMs handled hphase hlimit pkt htaken hnext =>
          have hnow : min handled rxDrainLimit = handled := Nat.min_eq_left hlimit.le
          have hthen : min (handled + 1) rxDrainLimit = handled + 1 := Nat.min_eq_left hlimit
          rw [packetTime, hnext, packetTime, hphase, htaken]
          dsimp only
          rw [hnow, hthen, Option.toList_some, List.length_singleton, Nat.add_sub_cancel]
          exact le_of_eq drainTime.item
      | received startMs handled hphase hempty hnext =>
          -- there are packets left, so the drain has ended at its limit
          have hlimit : rxDrainLimit ≤ handled := by
            by_contra hless
            rw [hempty (Nat.not_le.mp hless), List.length_nil] at hk
            omega
          have hnone : c.nextPacket = none := by
            simp [nextPacket, hphase, Nat.not_lt.mpr hlimit]
          have hround := drainTime.round (m := rxDrainLimit) (o := 11) (k := k) (by decide)
            (le_refl rxDrainLimit)
          rw [packetTime, hnext, packetTime, hphase, hnone]
          dsimp only [LoopPhase.untilReceive, LoopPhase.rank]
          rw [Nat.min_eq_right hlimit, Option.toList_none, List.length_nil, Nat.sub_zero]
          omega
      | started hphase hnext =>
          have hnone : c.nextPacket = none := nextPacket_of_phase (by simp [hphase])
          rw [packetTime, hnext, packetTime, hphase, hnone]
          dsimp only [LoopPhase.untilReceive]
          rw [Nat.zero_min, Option.toList_none, List.length_nil, Nat.sub_zero, Nat.add_comm]
      | notified sent hphase hlimit _ _ hnext =>
          have hnone : c.nextPacket = none := nextPacket_of_phase (by simp [hphase])
          rw [packetTime, hnext, packetTime, hphase, hnone]
          dsimp only [LoopPhase.untilReceive, LoopPhase.rank, txDrainLimit] at hlimit ⊢
          simp only [Option.toList_none, List.length_nil, Nat.sub_zero]
          omega
      | ticked _ hphase hnext | updated _ hphase hnext | draining hphase _ hnext
      | skipped hphase _ hnext | drained _ hphase _ hnext | published hphase hnext =>
          have hnone : c.nextPacket = none := nextPacket_of_phase (by simp [hphase])
          rw [packetTime, hnext, packetTime, hphase, hnone]
          dsimp only [LoopPhase.untilReceive, LoopPhase.rank, txDrainLimit]
          simp only [Option.toList_none, List.length_nil, Nat.sub_zero]
          omega
  | _ => exact le_rfl

omit [OpenDisplayBackend β] in
lemma packetTime_le (c : OpenDisplayComponent β) (k : ℕ) :
    packetTime c (k + 1) ≤ LoopPhase.iterationParts * ((k + 8) / 8) := by
  have hrounds : ∀ s ≤ rxDrainLimit, drainTime rxDrainLimit 11 s (k + 1) ≤
      LoopPhase.iterationParts * ((k + 8) / 8) := fun s hs =>
    drainTime.le_rounds (m := rxDrainLimit) (o := 11) (k := k + 1) (by decide) hs
  rw [packetTime]
  split
  · exact hrounds _ (Nat.min_le_right _ _)
  · next hother =>
    have huntil : c.phase.untilReceive ≤ 11 := by
      rcases hphase : c.phase with _ | ⟨startMs, handled⟩ | _ | _ | _ | sent | _
      case receive => exact absurd hphase (hother startMs handled)
      case notify =>
        dsimp only [LoopPhase.untilReceive, LoopPhase.rank, txDrainLimit]
        omega
      all_goals exact Nat.le_of_ble_eq_true rfl
    refine le_trans (Nat.add_le_add_right huntil _) (le_trans ?_ (hrounds _ le_rfl))
    exact drainTime.round (by decide) le_rfl

/-- **Received packets are taken.**  The first `k` packets that wait, whatever else arrives,
have been taken, in their order, after as many iterations as it takes to take `k`. -/
theorem packets_taken {c : OpenDisplayComponent β} {k : ℕ} (hk : k ≤ c.rx.toList.length)
    {ops : List (ComponentOp ω)}
    (hparts : LoopPhase.iterationParts * ((k + 7) / 8) ≤ ops.countP ComponentOp.isLoop) :
    c.rx.toList.take k <+: Machine.outputs step takenPackets c ops := by
  have htime : packetTime c k ≤ ops.countP ComponentOp.isLoop ∨ k = 0 := by
    rcases k with _ | k
    · exact Or.inr rfl
    · exact Or.inl ((packetTime_le c k).trans hparts)
  have hlength : k ≤ (Machine.outputs step takenPackets c ops).length := by
    rcases htime with htime | rfl
    · refine Machine.length_outputs_of_countdown (I := fun c k => k ≤ c.rx.toList.length)
        (P := fun _ _ => True) (μ := packetTime) (fun c k _ => ?_) (fun c op k hk _ => ?_)
        (fun c op k hk _ => packetTime_step hk) hk
        (Machine.allSteps_of_forall_mem step (fun _ _ _ => trivial) c) htime
      · rw [packetTime]
        split
        · exact drainTime.pos
        · exact Nat.add_pos_right _ drainTime.pos
      · have hcount := congrArg List.length (rx_conserved c op)
        simp only [List.length_append] at hcount
        omega
    · exact Nat.zero_le _
  -- what is taken is what was there and what has come since, from its beginning
  have hprefix : Machine.outputs step takenPackets c ops <+:
      c.rx.toList ++ Machine.outputs step arrivedPackets c ops :=
    ⟨(Machine.exec step c ops).rx.toList,
      Machine.outputs_conserve (fun c => c.rx.toList) rx_conserved c ops⟩
  refine List.prefix_of_prefix_length_le ?_ hprefix ?_
  · exact (List.take_prefix k _).trans (List.prefix_append _ _)
  · rw [List.length_take]
    omega

/-- A client has connected, and has asked for the version and for the MSD. -/
def twoRequests : List (ComponentOp Unit) :=
  [.bleConnect, .bleWrite [0x00, 0x43] 0, .bleWrite [0x00, 0x44] 0]

/-- Both requests are taken in one iteration. -/
theorem packets_taken_two :
    let c := Machine.exec step unending twoRequests
    c.rx.toList.take 2 <+: Machine.outputs step takenPackets c (loopParts 19 1) :=
  packets_taken (by decide +kernel) (by decide)

/-! ### Queued frames are notified -/

/-- The frames that a step notifies. -/
def stepNotified (c : OpenDisplayComponent β) (op : ComponentOp ω) : List Response :=
  notifiedFrames (c.perform op).1

/-- The frames that a step puts into the TX queue. -/
def stepQueued (c : OpenDisplayComponent β) (op : ComponentOp ω) : List Response :=
  queuedFrames (c.perform op).1

/-- The step is not the client's going away. -/
def ClientStays (_ : OpenDisplayComponent β) : ComponentOp ω → Prop
  | .bleDisconnect => False
  | _ => True

/-- At most so many parts of the loop until `k` frames have been notified. -/
def frameTime (c : OpenDisplayComponent β) (k : ℕ) : ℕ :=
  match c.phase with
  | .notify sent => drainTime txDrainLimit 15 (min sent txDrainLimit) k
  | phase => phase.untilNotify + drainTime txDrainLimit 15 0 k

lemma connected_step {c : OpenDisplayComponent β} (h : c.connected = true)
    {op : ComponentOp ω} (hstays : ClientStays c op) : (c.step op).connected = true := by
  cases op with
  | bleDisconnect => exact hstays.elim
  | bleConnect => rfl
  | bleWrite | abort | world => exact h
  | loop now temperature =>
      have ho := loop_outcome c now temperature
      change (c.loop now temperature).2.connected = true
      generalize c.loop now temperature = done at ho ⊢
      cases ho with
      | started | idled | received | stale | draining | notified | drained | unchanged => exact h
      | packet startMs handled _ pkt =>
          obtain ⟨_, _, _, _, hsame⟩ := sameLoop_handlePacket
            { c with rx := c.rx.pop.2, phase := .receive startMs (handled + 1) } pkt now
          rw [hsame]
          exact h
      | ticked startMs =>
          obtain ⟨_, _, _, _, hsame⟩ :=
            sameLoop_answer { c with phase := .updateMsd startMs } (c.engine.tick startMs)
          rw [hsame]
          exact h
      | updated =>
          rw [updateMsd_rest]
          exact h
      | published =>
          rw [(publishState_rest _).2.2.2.2]
          exact h

lemma frameTime_step {c : OpenDisplayComponent β} (hconnected : c.connected = true)
    {op : ComponentOp ω} {k : ℕ} (hk : k + 1 ≤ c.tx.toList.length) :
    frameTime (c.step op) (k + 1 - (stepNotified c op).length) + cost ComponentOp.isLoop op ≤
      frameTime c (k + 1) := by
  cases op with
  | loop now temperature =>
      have hless : frameTime (c.loop now temperature).2 (k + 1 - (stepNotified (ω := ω) c
          (.loop now temperature)).length) ≤ frameTime (c.loop now temperature).2 (k + 1) := by
        have hmono : ∀ s, drainTime txDrainLimit 15 s (k + 1 - (stepNotified (ω := ω) c
            (.loop now temperature)).length) ≤ drainTime txDrainLimit 15 s (k + 1) :=
          fun s => drainTime.mono (Nat.sub_le _ _)
        rw [frameTime, frameTime]
        split
        · exact hmono _
        · exact Nat.add_le_add_left (hmono _) _
      change frameTime (c.loop now temperature).2 _ + 1 ≤ _
      cases loop_phaseMove c now temperature with
      | notified sent hphase hlimit r hfx hnext =>
          have hone : (stepNotified (ω := ω) c (.loop now temperature)).length = 1 := by
            change (notifiedFrames (c.loop now temperature).1).length = 1
            rw [hfx]
            rfl
          have hnow : min sent txDrainLimit = sent := Nat.min_eq_left hlimit.le
          have hthen : min (sent + 1) txDrainLimit = sent + 1 := Nat.min_eq_left hlimit
          rw [frameTime, hnext, frameTime, hphase, hone]
          dsimp only
          rw [hnow, hthen, Nat.add_sub_cancel]
          exact le_of_eq drainTime.item
      | drained sent hphase hempty hnext =>
          have hlimit : txDrainLimit ≤ sent := by
            by_contra hmore
            rw [hempty (Nat.not_le.mp hmore), List.length_nil] at hk
            omega
          have hround := drainTime.round (m := txDrainLimit) (o := 15) (k := k) (by decide)
            (le_refl txDrainLimit)
          refine le_trans (Nat.succ_le_succ hless) ?_
          rw [frameTime, hnext, frameTime, hphase]
          dsimp only [LoopPhase.untilNotify]
          rw [Nat.min_eq_right hlimit]
          omega
      | skipped _ hnot => rw [hconnected] at hnot; cases hnot
      | draining hphase _ hnext =>
          refine le_trans (Nat.succ_le_succ hless) ?_
          rw [frameTime, hnext, frameTime, hphase]
          dsimp only [LoopPhase.untilNotify]
          rw [Nat.zero_min, Nat.succ_eq_one_add]
      | took _ _ hphase hlimit _ _ hnext =>
          refine le_trans (Nat.succ_le_succ hless) ?_
          rw [frameTime, hnext, frameTime, hphase]
          dsimp only [LoopPhase.untilNotify, rxDrainLimit] at hlimit ⊢
          omega
      | started hphase hnext | received _ _ hphase _ hnext | ticked _ hphase hnext
      | updated _ hphase hnext | published hphase hnext =>
          refine le_trans (Nat.succ_le_succ hless) ?_
          rw [frameTime, hnext, frameTime, hphase]
          dsimp only [LoopPhase.untilNotify, rxDrainLimit]
          omega
  | _ => exact le_rfl

omit [OpenDisplayBackend β] in
lemma frameTime_le (c : OpenDisplayComponent β) (k : ℕ) :
    frameTime c (k + 1) ≤ LoopPhase.iterationParts * ((k + 4) / 4) := by
  have hrounds : ∀ s ≤ txDrainLimit, drainTime txDrainLimit 15 s (k + 1) ≤
      LoopPhase.iterationParts * ((k + 4) / 4) := fun s hs =>
    drainTime.le_rounds (m := txDrainLimit) (o := 15) (k := k + 1) (by decide) hs
  rw [frameTime]
  split
  · exact hrounds _ (Nat.min_le_right _ _)
  · have huntil : c.phase.untilNotify ≤ 15 := by
      rcases c.phase with _ | _ | _ | _ | _ | _ | _
      case receive =>
        dsimp only [LoopPhase.untilNotify, rxDrainLimit]
        omega
      all_goals exact Nat.le_of_ble_eq_true rfl
    refine le_trans (Nat.add_le_add_right huntil _) (le_trans ?_ (hrounds _ le_rfl))
    exact drainTime.round (by decide) le_rfl

/-- **Queued frames are notified.**  While the client stays, the first `k` frames that wait
have been notified, in their order, after as many iterations as it takes to send `k`. -/
theorem frames_notified {c : OpenDisplayComponent β} (hconnected : c.connected = true) {k : ℕ}
    (hk : k ≤ c.tx.toList.length) {ops : List (ComponentOp ω)}
    (hstays : Machine.AllSteps step ClientStays c ops)
    (hparts : LoopPhase.iterationParts * ((k + 3) / 4) ≤ ops.countP ComponentOp.isLoop) :
    c.tx.toList.take k <+: Machine.outputs step stepNotified c ops := by
  have htime : frameTime c k ≤ ops.countP ComponentOp.isLoop ∨ k = 0 := by
    rcases k with _ | k
    · exact Or.inr rfl
    · exact Or.inl ((frameTime_le c k).trans hparts)
  have hlength : k ≤ (Machine.outputs step stepNotified c ops).length := by
    rcases htime with htime | rfl
    · refine Machine.length_outputs_of_countdown (μ := frameTime)
        (I := fun c k => c.connected = true ∧ k ≤ c.tx.toList.length) (fun c k _ => ?_)
        (fun c op k hk hi => ⟨connected_step hk.1 hi, ?_⟩)
        (fun c op k hk _ => frameTime_step hk.1 hk.2) ⟨hconnected, hk⟩ hstays htime
      · rw [frameTime]
        split
        · exact drainTime.pos
        · exact Nat.add_pos_right _ drainTime.pos
      · have hcount := congrArg List.length (conserves_perform c op)
        change (stepNotified c op ++ (c.step op).tx.toList).length = _ at hcount
        have hk := hk.2
        simp only [List.length_append] at hcount
        omega
    · exact Nat.zero_le _
  have hprefix : Machine.outputs step stepNotified c ops <+:
      c.tx.toList ++ Machine.outputs step stepQueued c ops :=
    ⟨(Machine.exec step c ops).tx.toList,
      Machine.outputs_conserve (fun c => c.tx.toList) conserves_perform c ops⟩
  refine List.prefix_of_prefix_length_le ?_ hprefix ?_
  · exact (List.take_prefix k _).trans (List.prefix_append _ _)
  · rw [List.length_take]
    omega

/-- The two answers, notified in one more iteration. -/
theorem frames_notified_two :
    let c := Machine.exec step unending (twoRequests ++ loopParts 3 1)
    c.tx.toList.take 2 <+: Machine.outputs step stepNotified c (loopParts 19 1) :=
  frames_notified (by decide +kernel) (by decide +kernel)
    (Machine.allSteps_of_forall_mem step (fun op hop c => by
      obtain rfl := List.eq_of_mem_replicate hop
      trivial) _) (by decide)

/-! ### No transfer outlives its deadline for long -/

omit [OpenDisplayBackend β] in
/-- The deadline that the transfer under way has to meet. -/
def dueMs (c : OpenDisplayComponent β) : UInt32 :=
  if c.engine.txn.state = .refreshing then c.engine.txn.refreshDeadlineMs
  else c.engine.txn.transferDeadlineMs

/-- The step ends the transfer, or gives it another deadline. -/
def Settles (c : OpenDisplayComponent β) (op : ComponentOp ω) : Prop :=
  (c.step op).engine.txn.state = .idle ∨ (c.step op).dueMs ≠ c.dueMs

/-- A tick past the deadline ends the transfer. -/
lemma tick_idle {c : OpenDisplayComponent β} {t : Transfer}
    (hledger : TransferEngine.Ledger t c.engine) {nowMs : UInt32}
    (hlate : deadlinePassed nowMs c.dueMs = true) :
    (c.engine.tick nowMs).2.txn.state = .idle := by
  have ho := c.engine.tick_outcome nowMs
  generalize (c.engine.tick nowMs).1 = res, (c.engine.tick nowMs).2 = e₁ at ho ⊢
  cases ho with
  | complete | failed => rfl
  | transferTimeout | refreshTimeout => simp
  | released hw _ hstate =>
      cases hledger with
      | idle htxn => exact congrArg Transaction.state htxn
      | receiving _ hfree => rw [hw] at hfree; cases hfree
      | refreshing hrefreshing => exact absurd hrefreshing hstate
  | waiting _ hpolled htransfer hrefresh =>
      cases hledger with
      | idle htxn => rw [hpolled.txn_eq]; exact congrArg Transaction.state htxn
      | receiving hstate =>
          rw [dueMs, if_neg (by simp [hstate])] at hlate
          exact absurd ⟨by simp [hpolled.txn_eq, hstate], by rwa [hpolled.txn_eq]⟩ htransfer
      | refreshing hstate =>
          rw [dueMs, if_pos hstate] at hlate
          exact absurd ⟨by rwa [hpolled.txn_eq], by rwa [hpolled.txn_eq]⟩ hrefresh

/-- At most so many parts come before a tick that finds the deadline passed, once the clock
has passed it. -/
def untilLateTick (due : UInt32) : LoopPhase → ℕ
  | .start => 10
  | .receive startMs handled =>
      if deadlinePassed startMs due then 1 + (rxDrainLimit - handled)
      else 20 + (rxDrainLimit - handled)
  | .tick startMs => if deadlinePassed startMs due then 0 else 19
  | .updateMsd _ => 18
  | .drain => 17
  | .notify sent => 12 + (txDrainLimit - sent)
  | .publish => 11

/-- The clock has passed the deadline. -/
def Late (due : UInt32) (_ : OpenDisplayComponent β) : ComponentOp ω → Prop
  | .loop now _ => deadlinePassed now due = true
  | _ => True

lemma untilLateTick_step {c : OpenDisplayComponent β} (hsettled : Settled c.engine)
    {op : ComponentOp ω} (hlate : Late c.dueMs c op) (hnot : ¬ Settles c op) :
    untilLateTick c.dueMs (c.step op).phase + cost ComponentOp.isLoop op ≤
      untilLateTick c.dueMs c.phase := by
  cases op with
  | loop now temperature =>
      change untilLateTick c.dueMs (c.loop now temperature).2.phase + 1 ≤ _
      cases loop_phaseMove c now temperature with
      | started hphase hnext =>
          rw [hnext, hphase]
          dsimp only [untilLateTick]
          rw [if_pos (show deadlinePassed now c.dueMs = true from hlate)]
          decide
      | took startMs handled hphase hlimit _ _ hnext =>
          rw [hnext, hphase]
          dsimp only [untilLateTick]
          split_ifs <;> omega
      | received startMs handled hphase _ hnext =>
          rw [hnext, hphase]
          dsimp only [untilLateTick]
          split_ifs <;> omega
      | ticked startMs hphase hnext hengine =>
          rw [hnext, hphase]
          dsimp only [untilLateTick]
          split_ifs with hpassed
          · -- this tick would have ended the transfer
            obtain ⟨t, hledger⟩ := hsettled.ledger
            refine absurd (Or.inl ?_) hnot
            change (c.loop now temperature).2.engine.txn.state = .idle
            rw [hengine, TransferEngine.takeTailSack_txn]
            exact tick_idle hledger hpassed
          · exact le_rfl
      | notified _ hphase hlimit _ _ hnext =>
          rw [hnext, hphase]
          dsimp only [untilLateTick]
          omega
      | updated _ hphase hnext | draining hphase _ hnext | skipped hphase _ hnext
      | drained _ hphase _ hnext | published hphase hnext =>
          rw [hnext, hphase]
          dsimp only [untilLateTick, txDrainLimit]
          omega
  | _ => exact le_rfl

lemma untilLateTick_le (due : UInt32) (phase : LoopPhase) : untilLateTick due phase ≤ 28 := by
  rcases phase with _ | _ | _ | _ | _ | _ | _
  case receive | tick =>
    dsimp only [untilLateTick, rxDrainLimit]
    split_ifs <;> omega
  all_goals
    dsimp only [untilLateTick, txDrainLimit]
    omega

/-- **No transfer outlives its deadline for long.**  Once the clock has passed the deadline
of the transfer, it has ended or got another deadline before twenty-nine more parts of the
loop are over, whatever packets and callbacks come in.  A deadline of `0` stands for none, so
the clock never passes it. -/
theorem transfer_ends {c : OpenDisplayComponent β} (hsettled : Settled c.engine)
    {ops : List (ComponentOp ω)} (hlate : Machine.AllSteps step (Late c.dueMs) c ops)
    (hparts : 29 ≤ ops.countP ComponentOp.isLoop) : Machine.Meets step Settles c ops := by
  refine Machine.meets_of_countdown
    (I := fun c' => Settled c'.engine ∧ c'.dueMs = c.dueMs)
    (μ := fun c' => untilLateTick c.dueMs c'.phase) ?_ ?_ ⟨hsettled, rfl⟩ hlate
    (Nat.lt_of_le_of_lt (untilLateTick_le _ _) hparts)
  · rintro c' op ⟨hsettled', hdue⟩ _ hnot
    exact ⟨hsettled'.step op, (not_not.mp (not_or.mp hnot).2).trans hdue⟩
  · rintro c' op ⟨hsettled', hdue⟩ hlate' hnot
    rw [← hdue] at hlate' ⊢
    exact untilLateTick_step hsettled' hlate' hnot

/-- The panel has been given a frame and refreshes without end. -/
def unendingRefresh : OpenDisplayComponent ScriptedPanel :=
  Machine.exec step unending (directTransfer ++ loopParts 19 1 : List (ComponentOp Unit))

/-- The refresh is given up after its deadline. -/
theorem transfer_ends_unending :
    Machine.Meets step Settles unendingRefresh
      (loopParts 29 200000 : List (ComponentOp Unit)) := by
  have hsettled : Settled unendingRefresh.engine :=
    Machine.exec_invariant (I := fun c : OpenDisplayComponent ScriptedPanel => Settled c.engine)
      (fun _ op h => h.step op) (settled_setup _ defaultSettings 80) _
  have hlate : deadlinePassed 200000 unendingRefresh.dueMs = true := by decide +kernel
  refine transfer_ends hsettled (Machine.allSteps_of_forall_mem step ?_ _) (by decide)
  intro op hop c
  obtain rfl := List.eq_of_mem_replicate hop
  exact hlate

end OpenDisplayComponent

end OpenDisplay
