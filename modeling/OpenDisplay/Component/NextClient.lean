import OpenDisplay.Component.Images
import OpenDisplay.Component.Upkeep

/-!
# The next client is served

Nothing that clients do spoils the device for the next one.  After any run at all, with any
packets, connections lost and transfers given up anywhere, let nobody write for a while: the
packets that wait are taken, the refresh that may be under way is waited for, the loop comes
to a tick, and when a client has connected, what waits for it is sent (`restsIn_afterPause`).
Then the images that it sends are delivered, as on a device that has just been set up
(`next_client_served`).

Runs that abandon a refresh, by the abort action or at its deadline, are left out: after that
the ePaper SPI adapter never reports the panel free.
-/

namespace OpenDisplay

open OpenDisplayBackend

namespace OpenDisplayComponent

open TransferEngine

/-! ### Turns are parts of the loop -/

section Turns

variable {β ω : Type} [OpenDisplayBackend β] [PanelWorld β ω]

omit [PanelWorld β ω] in
lemma phaseless_drainRx (left : ℕ) (millis : ℕ → UInt32) :
    Phaseless fun c : OpenDisplayComponent β => c.drainRx millis left := by
  induction left generalizing millis with
  | zero => exact phaseless_silent
  | succ left ih =>
      intro phase c
      dsimp only [drainRx, inPhase]
      rcases c.rx.pop with ⟨_ | pkt, rx⟩
      · rfl
      · refine (ih fun i => millis (i + 1)).after ?_
        split_ifs
        · rfl
        · exact phaseless_handlePacket pkt (millis 0) phase { c with rx := rx }

omit [OpenDisplayBackend β] [PanelWorld β ω] in
lemma phaseless_drainTx (left : ℕ) :
    Phaseless fun c : OpenDisplayComponent β => c.drainTx left := by
  induction left with
  | zero => exact phaseless_silent
  | succ left ih =>
      intro phase c
      dsimp only [drainTx, inPhase]
      rcases c.tx.pop with ⟨_ | r, tx⟩
      · rfl
      · exact ih.after rfl

omit [PanelWorld β ω] in
lemma phaseless_loopWhole (nowMs : UInt32) (millis : ℕ → UInt32) (temperature : Int) :
    Phaseless fun c : OpenDisplayComponent β => c.loopWhole nowMs millis temperature := by
  have hdrain : Phaseless fun c : OpenDisplayComponent β =>
      if c.connected then c.drainTx txDrainLimit else ([], c) :=
    .ite (phaseless_drainTx _) phaseless_silent fun _ _ => Iff.rfl
  have hmsd : Phaseless fun c : OpenDisplayComponent β =>
      (([] : List Effect), c.updateMsd nowMs temperature) := fun phase c =>
    congrArg (Prod.mk []) (updateMsd_inPhase c phase nowMs temperature)
  have hbegun : ∀ (phase : LoopPhase) (c : OpenDisplayComponent β),
      (if !(c.inPhase phase).connected then { c.inPhase phase with
          engine := (c.inPhase phase).engine.onDisconnect (c.inPhase phase).connectionGeneration }
        else c.inPhase phase) =
      (if !c.connected then { c with engine := c.engine.onDisconnect c.connectionGeneration }
        else c).inPhase phase := by
    intro phase c
    change (if !c.connected then _ else _) = _
    split_ifs <;> rfl
  intro phase c
  refine phaseless_publishChanged.after (hdrain.after (hmsd.after
    (Phaseless.after (phaseless_answer (f := fun e => e.tick nowMs)) ?_)))
  rw [hbegun]
  exact phaseless_drainRx rxDrainLimit millis phase _

/-- The steps of a turn: what happens to the panel, or the packet of the round and the parts
of an iteration. -/
inductive InParts : Turn ω → List (ComponentOp ω) → Prop
  | panel (event : ω) : InParts (.panel event) [.world event]
  | round (r : Round) (packets others : ℕ) : InParts (.round r)
      (r.data.toList.map (fun data => .bleWrite data r.writtenMs) ++
        wholeParts r.nowMs (fun _ => r.packetMs) r.chipTemperatureEncoded packets others)

lemma turn_in_parts {c : OpenDisplayComponent β} (hphase : c.phase = .start) (t : Turn ω) :
    ∃ parts, InParts t parts ∧ Machine.Run step effects c parts (c.turn t).1 (c.turnStep t) ∧
      (c.turnStep t).phase = .start := by
  cases t with
  | panel event => exact ⟨_, .panel event, .silent rfl rfl (.nil _), hphase⟩
  | round r =>
      have hreceived : (c.received r).phase = .start := by
        rw [received_eq]
        exact hphase
      have hstart : (c.received r).inPhase .start = c.received r := by rw [inPhase, ← hreceived]
      have hsame :=
        phaseless_loopWhole r.nowMs (fun _ => r.packetMs) r.chipTemperatureEncoded .start
          (c.received r)
      dsimp only at hsame
      rw [hstart] at hsame
      have hend : ((c.received r).loopWhole r.nowMs (fun _ => r.packetMs)
          r.chipTemperatureEncoded).2.inPhase .start = c.turnStep (.round r : Turn ω) :=
        (congrArg Prod.snd hsame).symm
      obtain ⟨packets, -, others, -, hrun⟩ := loop_in_parts (ω := ω) hreceived r.nowMs
        (fun _ => r.packetMs) r.chipTemperatureEncoded
      rw [hend] at hrun
      have hturn : Machine.Run step effects (c.received r) _ (c.turn (.round r : Turn ω)).1
        (c.turnStep (.round r)) := hrun
      refine ⟨_, .round r packets others, ?_, ?_⟩
      · rcases hdata : r.data with _ | data
        · have hsilent : c.received r = c := by rw [received, hdata]
          rw [hsilent] at hturn
          exact hturn
        · have hwrite : step c (.bleWrite data r.writtenMs : ComponentOp ω) = c.received r := by
            rw [received, hdata]
            rfl
          exact .silent rfl hwrite hturn
      · rw [← hend]
        rfl

/-- **Turns are parts of the loop.**  The turns of a client in lock step come to a run of
single steps in which the client is notified the same, and the automations are the same. -/
theorem turns_in_parts {c : OpenDisplayComponent β} (hphase : c.phase = .start)
    (ts : List (Turn ω)) :
    ∃ (parts : List (List (ComponentOp ω))) (fx : List Effect), List.Forall₂ InParts ts parts ∧
      Machine.Run step effects c parts.flatten fx (Machine.exec turnStep c ts) ∧
      notifiedFrames fx = Machine.outputs turnStep turnFrames c ts ∧
      triggers fx = Machine.outputs turnStep turnTriggers c ts := by
  induction ts generalizing c with
  | nil => exact ⟨[], [], .nil, .nil c, rfl, rfl⟩
  | cons t ts ih =>
      obtain ⟨first, hfirst, hrun, hnext⟩ := turn_in_parts hphase t
      obtain ⟨parts, fx, hparts, hrest, hframes, htriggers⟩ := ih hnext
      refine ⟨first :: parts, (c.turn t).1 ++ fx, .cons hfirst hparts, hrun.append hrest, ?_, ?_⟩
      · rw [notifiedFrames_append, hframes, Machine.outputs_cons, turnFrames]
      · rw [triggers_append, htriggers, Machine.outputs_cons, turnTriggers]

end Turns

end OpenDisplayComponent

/-! ### A pause -/

/-- The client goes away. -/
def ComponentOp.isDisconnect {ω : Type} : ComponentOp ω → Bool
  | .bleDisconnect => true
  | _ => false

/-- The panel works `n` times in the run. -/
def WorksIn {ω : Type} (works : ω → Prop) : ℕ → List (ComponentOp ω) → Prop
  | 0, _ => True
  | _ + 1, [] => False
  | n + 1, .world event :: ops => works event ∧ WorksIn works n ops ∨ WorksIn works (n + 1) ops
  | n + 1, _ :: ops => WorksIn works (n + 1) ops

/-- A time in which nobody writes, between two clients. -/
structure Pause (ω : Type) where
  /-- the packets that wait are taken -/
  taking : List (ComponentOp ω)
  /-- the panel works -/
  working : List (ComponentOp ω)
  /-- the loop comes to a tick -/
  polling : List (ComponentOp ω)
  /-- the next client has connected, and what waits is sent -/
  sending : List (ComponentOp ω)

namespace Pause

variable {ω : Type}

def ops (p : Pause ω) : List (ComponentOp ω) :=
  p.taking ++ (p.working ++ (p.polling ++ .bleConnect :: p.sending))

/-- Every part of the pause is as long as it takes, with both queues full. -/
structure LongEnough (effort : ℕ) (works : ω → Prop) (p : Pause ω) : Prop where
  silent : ∀ op ∈ p.ops, op.isWrite = false
  taking : LoopPhase.iterationParts * 3 ≤ p.taking.countP ComponentOp.isLoop
  working : WorksIn works effort p.working
  polling : LoopPhase.iterationParts ≤ p.polling.countP ComponentOp.isLoop
  stays : ∀ op ∈ p.sending, op.isDisconnect = false
  sending : LoopPhase.iterationParts * 4 ≤ p.sending.countP ComponentOp.isLoop

end Pause

namespace OpenDisplayComponent

open TransferEngine

section Pause

variable {β ω : Type} [OpenDisplayBackend β] [PanelWorld β ω] {full : UInt32} {effort n : ℕ}
  {benign works : ω → Prop} {inPhase : PanelPhase → β → Prop} {busy : ℕ → β → Prop}
  {c : OpenDisplayComponent (Recorder β)} {ops : List (ComponentOp ω)}

lemma rx_empty_run {β : Type} [OpenDisplayBackend β] [PanelWorld β ω]
    {c : OpenDisplayComponent β} (h : c.rx.toList = [])
    (hsilent : ∀ op ∈ ops, op.isWrite = false) : (Machine.exec step c ops).rx.toList = [] := by
  induction ops generalizing c with
  | nil => exact h
  | cons op ops ih =>
      obtain ⟨hop, hops⟩ := List.forall_mem_cons.mp hsilent
      exact ih (rx_empty_step h hop) hops

lemma settled_run {β : Type} [OpenDisplayBackend β] [PanelWorld β ω]
    {c : OpenDisplayComponent β} (h : Settled c.engine) (ops : List (ComponentOp ω)) :
    Settled (Machine.exec step c ops).engine :=
  Machine.exec_invariant (I := fun c : OpenDisplayComponent β => Settled c.engine)
    (fun _ op h => h.step op) h ops

/-- After three iterations all that waited has been taken. -/
lemma taking_run {β : Type} [OpenDisplayBackend β] [PanelWorld β ω]
    {c : OpenDisplayComponent β} (hsilent : ∀ op ∈ ops, op.isWrite = false)
    (hparts : LoopPhase.iterationParts * 3 ≤ ops.countP ComponentOp.isLoop) :
    (Machine.exec step c ops).rx.toList = [] := by
  have hused : c.rx.toList.length < rxQueueSlots := by
    rw [RxQueue.toList, RingBuffer.length_toList]
    exact c.rx.ring.used_lt
  have hrounds : (c.rx.toList.length + 7) / 8 ≤ 3 := by
    rw [rxQueueSlots] at hused
    omega
  have htaken := packets_taken (c := c) (le_refl _)
    (Nat.le_trans (Nat.mul_le_mul_left _ hrounds) hparts)
  have harrived : Machine.outputs step arrivedPackets c ops = [] := by
    refine Machine.outputs_eq_nil step arrivedPackets (fun op hop s => ?_) c
    have hnot := hsilent op hop
    cases op with
    | bleWrite => cases hnot
    | _ => rfl
  have hconserved :=
    Machine.outputs_conserve (fun c : OpenDisplayComponent β => c.rx.toList) rx_conserved c ops
  rw [harrived, List.append_nil] at hconserved
  rw [List.take_length] at htaken
  have hle := htaken.length_le
  have hlen := congrArg List.length hconserved
  rw [List.length_append] at hlen
  exact List.eq_nil_of_length_eq_zero (by omega)

/-! ### What a pause leaves -/

/-- Nothing is told without packets and refreshes. -/
lemma unqueued_step {β : Type} [OpenDisplayBackend β] [PanelWorld β ω]
    {c : OpenDisplayComponent β} (hsettled : Settled c.engine) (hfree : c.engine.hwOwned = false)
    (hrx : c.rx.toList = []) (op : ComponentOp ω) : stepQueued c op = [] := by
  cases op with
  | bleConnect | bleDisconnect | bleWrite | abort | world => rfl
  | loop now temperature =>
      have ho := loop_outcome c now temperature
      change queuedFrames (c.loop now temperature).1 = []
      generalize c.loop now temperature = done at ho ⊢
      cases ho with
      | started | idled | received | stale | updated | draining | notified | drained
      | unchanged => rfl
      | packet _ _ _ _ hnext => cases (nextPacket_of_empty hrx).symm.trans hnext
      | published => exact (publishState_rest _).2.1
      | ticked startMs =>
          have hnot : c.engine.txn.state ≠ .refreshing := fun hstate => by
            obtain ⟨t, hledger⟩ := hsettled.ledger
            cases hfree.symm.trans (hledger.hwOwned_of_refreshing hstate)
          have hframes := length_tickFrames_le hsettled.staged startMs
          have howed : c.engine.owed = 0 := if_neg hnot
          rw [howed] at hframes
          have hnone := List.eq_nil_of_length_eq_zero
            (Nat.le_zero.mp ((Nat.le_add_right _ _).trans hframes))
          refine (sends_applyResult { c with
            phase := .updateMsd startMs
            engine := (c.engine.tick startMs).2 } (c.engine.tick startMs).1).queued_eq.trans ?_
          change (c.tx.pushAll (resultFrames (c.engine.tick startMs).2.takeTailSack.1
            (c.engine.tick startMs).1)).1 = []
          rw [hnone, TxQueue.pushAll_nil]

/-- The panel is looked after in any run. -/
lemma tended_run (hpanel : Enduring full effort benign works inPhase busy)
    (h : Tended inPhase busy effort c.engine)
    (hharmless : Machine.AllSteps step (Harmless benign) c ops) :
    Tended inPhase busy effort (Machine.exec step c ops).engine :=
  Machine.exec_invariant_of_allSteps
    (I := fun c : OpenDisplayComponent (Recorder β) => Tended inPhase busy effort c.engine)
    (fun _ _ h hop => tended_step hpanel h hop) h hharmless

/-- A refresh that is waited for goes on, when nobody writes. -/
lemma waited_run (hpanel : Enduring full effort benign works inPhase busy)
    (h : Tended inPhase busy n c.engine) (hrx : c.rx.toList = [])
    (hsilent : ∀ op ∈ ops, op.isWrite = false)
    (hharmless : Machine.AllSteps step (Harmless benign) c ops) :
    Tended inPhase busy n (Machine.exec step c ops).engine := by
  have hrun := Machine.exec_invariant_of_allSteps
    (I := fun c : OpenDisplayComponent (Recorder β) =>
      Tended inPhase busy n c.engine ∧ c.rx.toList = [])
    (fun c op h hop => ⟨waited_step hpanel h.1 h.2 hop.1, rx_empty_step h.2 hop.2⟩) ⟨h, hrx⟩
    (Machine.allSteps_and_mem step hharmless hsilent)
  exact hrun.1

/-- The panel works until it has done all of its refresh. -/
lemma working_run (hpanel : Enduring full effort benign works inPhase busy)
    (h : Tended inPhase busy n c.engine) (hrx : c.rx.toList = [])
    (hsilent : ∀ op ∈ ops, op.isWrite = false)
    (hharmless : Machine.AllSteps step (Harmless benign) c ops) (hworks : WorksIn works n ops) :
    Tended inPhase busy 0 (Machine.exec step c ops).engine := by
  induction ops generalizing c n with
  | nil =>
      cases n with
      | zero => exact h
      | succ n => exact hworks.elim
  | cons op ops ih =>
      have hall := waited_run hpanel h hrx hsilent hharmless
      obtain ⟨hop, hops⟩ := List.forall_mem_cons.mp hsilent
      obtain ⟨hharm, hrest⟩ := hharmless
      have hnext := waited_step hpanel h hrx hharm
      have hempty := rx_empty_step hrx hop
      cases n with
      | zero => exact hall
      | succ n =>
          cases op with
          | world event =>
              rcases hworks with ⟨hevent, hmore⟩ | hmore
              · exact ih (worked_step hpanel h (hharm.benign event rfl) hevent) hempty hops hrest
                  hmore
              · exact ih hnext hempty hops hrest hmore
          | _ => exact ih hnext hempty hops hrest hworks

/-- A free panel stays free, when nobody writes. -/
lemma free_run (hpanel : Enduring full effort benign works inPhase busy)
    (h : Free inPhase c.engine) (hrx : c.rx.toList = [])
    (hsilent : ∀ op ∈ ops, op.isWrite = false)
    (hharmless : Machine.AllSteps step (Harmless benign) c ops) :
    Free inPhase (Machine.exec step c ops).engine := by
  have hrun := Machine.exec_invariant_of_allSteps
    (I := fun c : OpenDisplayComponent (Recorder β) =>
      Free inPhase c.engine ∧ c.rx.toList = [])
    (fun c op h hop => ⟨free_step hpanel h.1 h.2 hop.1.benign, rx_empty_step h.2 hop.2⟩) ⟨h, hrx⟩
    (Machine.allSteps_and_mem step hharmless hsilent)
  exact hrun.1

/-- In the next iteration the tick finds the refresh over. -/
lemma polling_run (hpanel : Enduring full effort benign works inPhase busy)
    (h : Tended inPhase busy 0 c.engine) (hrx : c.rx.toList = [])
    (hsilent : ∀ op ∈ ops, op.isWrite = false)
    (hharmless : Machine.AllSteps step (Harmless benign) c ops)
    (hparts : LoopPhase.iterationParts ≤ ops.countP ComponentOp.isLoop) :
    Free inPhase (Machine.exec step c ops).engine := by
  obtain ⟨before, op, after, rfl, htick⟩ :=
    (Machine.meets_iff step _ c ops).mp (stage_comes c hparts .tick)
  rw [List.forall_mem_append, List.forall_mem_cons] at hsilent
  obtain ⟨hfirst, hop, hlast⟩ := hsilent
  rw [Machine.allSteps_append] at hharmless
  obtain ⟨hbefore, hharm, hafter⟩ := hharmless
  have hempty := rx_empty_run hrx hfirst
  have hfree := tick_step hpanel (waited_run hpanel h hrx hfirst hbefore) htick hharm
  rw [Machine.exec_append, Machine.exec_cons]
  exact free_run hpanel hfree (rx_empty_step hempty hop) hlast hafter

/-- When a client has connected, what waits is sent, and nothing more comes. -/
lemma sending_run (hpanel : Enduring full effort benign works inPhase busy)
    (hsettled : Settled c.engine) (hconnected : c.connected = true)
    (h : Free inPhase c.engine) (hrx : c.rx.toList = [])
    (hsilent : ∀ op ∈ ops, op.isWrite = false) (hstays : ∀ op ∈ ops, op.isDisconnect = false)
    (hharmless : Machine.AllSteps step (Harmless benign) c ops)
    (hparts : LoopPhase.iterationParts * 4 ≤ ops.countP ComponentOp.isLoop) :
    AtRest (Machine.exec step c ops) := by
  have hclient : Machine.AllSteps step ClientStays c ops :=
    Machine.allSteps_of_forall_mem step (fun op hop c => by
      have hnot := hstays op hop
      cases op with
      | bleDisconnect => cases hnot
      | _ => trivial) c
  have hused : c.tx.toList.length < txQueueSlots := by
    rw [TxQueue.toList, RingBuffer.length_toList]
    exact c.tx.ring.used_lt
  have hrounds : (c.tx.toList.length + 3) / 4 ≤ 4 := by
    rw [txQueueSlots] at hused
    omega
  have hsent := frames_notified hconnected le_rfl hclient
    ((Nat.mul_le_mul_left _ hrounds).trans hparts)
  have hqueued : Machine.outputs step stepQueued c ops = [] :=
    Machine.outputs_eq_nil_of_allSteps
      (I := fun c : OpenDisplayComponent (Recorder β) =>
        Settled c.engine ∧ Free inPhase c.engine ∧ c.rx.toList = [])
      (fun c op h hop => ⟨h.1.step op, free_step hpanel h.2.1 h.2.2 hop.1.benign,
        rx_empty_step h.2.2 hop.2⟩)
      (fun c op h _ => unqueued_step h.1 h.2.1.free h.2.2 op) ⟨hsettled, h, hrx⟩
      (Machine.allSteps_and_mem step hharmless hsilent)
  have hconserved : Machine.outputs step stepNotified c ops ++ (Machine.exec step c ops).tx.toList =
      c.tx.toList ++ Machine.outputs step stepQueued c ops :=
    Machine.outputs_conserve (fun c => c.tx.toList) conserves_perform c ops
  have hlen := congrArg List.length hconserved
  have hle := hsent.length_le
  rw [List.take_length] at hle
  rw [hqueued, List.append_nil, List.length_append] at hlen
  exact
    { settled := settled_run hsettled ops
      connected := Machine.exec_invariant_of_allSteps
        (I := fun c : OpenDisplayComponent (Recorder β) => c.connected = true)
        (fun _ _ h hop => connected_step h hop) hconnected hclient
      rx_eq := rx_empty_run hrx hsilent
      tx_eq := List.eq_nil_of_length_eq_zero (by omega) }

/-- What is left after a past and a pause, on a fresh device. -/
def afterPause (panel : β) (settings : ComponentSettings) (temperature : Int)
    (past : List (ComponentOp ω)) (pause : Pause ω) : OpenDisplayComponent (Recorder β) :=
  Machine.exec step (setup (Recorder.fresh panel) settings temperature).2 (past ++ pause.ops)

lemma timesOut_afterPause (panel : β) (settings : ComponentSettings) (temperature : Int)
    (past : List (ComponentOp ω)) (pause : Pause ω) :
    TimesOut settings.transferTimeoutMs settings.refreshTimeoutMs
      (afterPause panel settings temperature past pause).engine := by
  obtain ⟨eops, hengine⟩ := exists_engine_run
    (setup (Recorder.fresh panel) settings temperature).2 (past ++ pause.ops)
  have hsame := exec_sameTimeouts
    (setup (Recorder.fresh panel) settings temperature).2.engine eops
  rw [← hengine, (setup_fresh (Recorder.fresh panel) settings temperature).1] at hsame
  exact ⟨hsame.transfer_eq, hsame.refresh_eq⟩

/-- After a pause the component is at rest, and its panel is free and ready. -/
lemma restsIn_afterPause (hpanel : Enduring full effort benign works inPhase busy) {panel : β}
    (hready : inPhase .ready panel) (settings : ComponentSettings) (temperature : Int)
    {past : List (ComponentOp ω)} {pause : Pause ω} (hpause : pause.LongEnough effort works)
    (hharmless : Machine.AllSteps step (Harmless benign)
      (setup (Recorder.fresh panel) settings temperature).2 (past ++ pause.ops)) :
    RestsIn settings.transferTimeoutMs settings.refreshTimeoutMs
      (FreeFor inPhase
        (afterPause panel settings temperature past pause).engine.cleared.backend.calls)
      (afterPause panel settings temperature past pause) := by
  have hfresh := setup_fresh (Recorder.fresh panel) settings temperature
  have htended : Tended inPhase busy effort
      (setup (Recorder.fresh panel) settings temperature).2.engine := by
    rw [hfresh.1]
    exact .free ⟨rfl, hready⟩
  have hsettled := settled_setup (Recorder.fresh panel) settings temperature
  have htimes := timesOut_afterPause panel settings temperature past pause
  have hsilent := hpause.silent
  rw [afterPause] at htimes ⊢
  generalize (setup (Recorder.fresh panel) settings temperature).2 = c₀ at *
  rw [Pause.ops] at hharmless hsilent htimes ⊢
  simp only [List.forall_mem_append, List.forall_mem_cons] at hsilent
  obtain ⟨htaking, hworking, hpolling, hconnecting, hsending⟩ := hsilent
  simp only [Machine.allSteps_append, Machine.allSteps_cons] at hharmless
  obtain ⟨hpast, h₁, h₂, h₃, hconnect, h₄⟩ := hharmless
  simp only [Machine.exec_append, Machine.exec_cons] at htimes ⊢
  -- the packets are taken, and the refresh is waited for and found over
  have hc₁ := tended_run hpanel (tended_run hpanel htended hpast) h₁
  have hrx₁ := taking_run (c := Machine.exec step c₀ past) htaking hpause.taking
  have hc₂ := working_run hpanel hc₁ hrx₁ hworking h₂ hpause.working
  have hrx₂ := rx_empty_run hrx₁ hworking
  have hc₃ := polling_run hpanel hc₂ hrx₂ hpolling h₃ hpause.polling
  have hrx₃ := rx_empty_run hrx₂ hpolling
  -- a client has connected
  have hc₄ := free_step hpanel hc₃ hrx₃ hconnect.benign
  have hrx₄ := rx_empty_step hrx₃ hconnecting
  have hsettled₄ := settled_run hsettled
    (past ++ (pause.taking ++ (pause.working ++ (pause.polling ++ [.bleConnect]))))
  simp only [Machine.exec_append, Machine.exec_cons, Machine.exec_nil] at hsettled₄
  have hrest := sending_run hpanel hsettled₄ rfl hc₄ hrx₄ hsending hpause.stays h₄ hpause.sending
  have hfree := free_run hpanel hc₄ hrx₄ hsending h₄
  exact ⟨hrest, htimes, hfree.free, hrest.settled.staged, hfree.ready, rfl⟩

/-- **The next client is served.**  After any past without an abandoned refresh, and a pause
that is long enough, every image that a client sends is taken as by a fresh device: it is told
of no fault and at last of the end and the refresh, one start and one completed refresh are
fired for it, and the panel gets it whole, in calls of its own. -/
theorem next_client_served (hpanel : Enduring full effort benign works inPhase busy) {panel : β}
    (hready : inPhase .ready panel) {settings : ComponentSettings}
    {temperature : Int} {past : List (ComponentOp ω)} {pause : Pause ω}
    (hpause : pause.LongEnough effort works)
    (hbenign : ∀ event, .world event ∈ past ++ pause.ops → benign event)
    (hkept : Machine.AllSteps step (fun c op => ¬ c.AbandonsRefresh op)
      (setup (Recorder.fresh panel) settings temperature).2 (past ++ pause.ops))
    (hphase : (afterPause panel settings temperature past pause).phase = .start)
    {jobs : List (Transmission ω × List UInt8)}
    (hjobs : ∀ job ∈ jobs, job.1.Sound settings.transferTimeoutMs settings.refreshTimeoutMs
      effort benign works ∧ job.1.Sends full job.2 ∧ job.2.length = full.toNat) :
    ∃ (parts : List (List (ComponentOp ω))) (fx : List Effect)
      (c : OpenDisplayComponent (Recorder β)) (told : List (List Response))
      (given : List (List BackendCall)),
      List.Forall₂ InParts (Transmission.allTurns jobs) parts ∧
      Machine.Run step effects (afterPause panel settings temperature past pause) parts.flatten
        fx c ∧
      notifiedFrames fx = told.flatten ∧ (∀ frames ∈ told, ToldRefreshed frames) ∧
      told.length = jobs.length ∧
      triggers fx = (jobs.map fun _ => [Effect.transferStarted, .refreshComplete]).flatten ∧
      List.Forall₂ (fun job calls => FrameCalls full job.2 calls) jobs given ∧
      c.engine.cleared.backend.calls =
        (afterPause panel settings temperature past pause).engine.cleared.backend.calls ++
          given.flatten := by
  have hharmless : Machine.AllSteps step (Harmless benign)
      (setup (Recorder.fresh panel) settings temperature).2 (past ++ pause.ops) :=
    Machine.allSteps_of_allSteps (I := fun _ => True) (fun _ _ _ _ => trivial)
      (fun _ _ _ hop => ⟨hop.2, hop.1⟩) trivial
      (Machine.allSteps_and_mem step
        (Q := fun op : ComponentOp ω => ∀ event, op = .world event → benign event) hkept
        fun op hop event heq => hbenign event (heq ▸ hop))
  have hrests := restsIn_afterPause hpanel hready settings temperature hpause hharmless
  obtain ⟨told, given, hframes, htold, hlen, htriggers, hgiven, hend⟩ :=
    images_delivered hpanel.toCompliant hrests hjobs
  obtain ⟨parts, fx, hparts, hrun, hnotified, hfired⟩ :=
    turns_in_parts hphase (Transmission.allTurns jobs)
  exact ⟨parts, fx, _, told, given, hparts, hrun, hnotified.trans hframes, htold, hlen,
    hfired.trans htriggers, hgiven, hend.stage.calls_eq⟩

end Pause

end OpenDisplayComponent

/-! ### The ePaper SPI adapter -/

section EpaperSPI

variable {δ : Type} [DisplayDriver δ] {effort : ℕ} {fine : δ → Prop} {left : δ → ℕ}

/-- No call but a refresh takes the adapter out of its phase, over an orderly driver. -/
lemma EpaperSPIBackend.enduring (h : Orderly effort fine left) (caps : DisplayCapabilities) :
    Enduring caps.fullFrameBytes effort (Tolerable fine left) (Working fine left)
      (fun _ (b : EpaperSPIBackend δ) => DriverIs caps b fun d => fine d ∧ left d = 0)
      fun n b => b.refreshStarted = true ∧ DriverIs caps b fun d => fine d ∧ left d ≤ n where
  toCompliant := EpaperSPIBackend.compliant h caps
  begun_again := by
    rintro b frame ⟨hcaps, d, hdisplay, hd⟩
    change DriverIs caps (b.beginFrame frame).2 _
    rw [EpaperSPIBackend.beginFrame]
    split_ifs
    · exact ⟨hcaps, d, hdisplay, hd⟩
    · split <;> exact ⟨hcaps, d, hdisplay, hd⟩
  written_again := by
    rintro b offset data ⟨rfl, d, hdisplay, hd, hleft⟩
    have hdrawn := h.drawBytes b.caps hd offset data
    change DriverIs b.caps (b.writeContiguous offset data).2 _
    rw [EpaperSPIBackend.writeContiguous, hdisplay]
    dsimp only
    rw [MonoPanel.writeContiguous]
    split_ifs
    · exact ⟨rfl, d, rfl, hd, hleft⟩
    · exact ⟨rfl, _, rfl, hdrawn.1, hdrawn.2.trans hleft⟩
  finished_again := id
  refreshed := fun hready _ => (EpaperSPIBackend.compliant h caps).starts hready
  refused := fun hready hanswer =>
    absurd ((EpaperSPIBackend.compliant h caps).refreshes hready) hanswer

end EpaperSPI

/-! ### After a client that was lost -/

/-- A client goes away while the panel refreshes for it, and leaves a packet behind. -/
def lostClient : List (ComponentOp (SteppingDriver → SteppingDriver)) :=
  directTransfer ++ (loopParts 19 1 ++ [.bleWrite [0x00, 0x70] 1, .bleDisconnect])

/-- A pause in which the driver does its work. -/
def steppingPause : Pause (SteppingDriver → SteppingDriver) where
  taking := loopParts 57 2
  working := [.world SteppingDriver.step, .world SteppingDriver.step]
  polling := loopParts 19 3
  sending := loopParts 77 4

lemma steppingPause_longEnough :
    steppingPause.LongEnough 2 (Working (fun _ => True) SteppingDriver.left) where
  silent := by decide +kernel
  taking := by decide
  working := .inl ⟨SteppingDriver.working_step, .inl ⟨SteppingDriver.working_step, trivial⟩⟩
  polling := by decide
  stays := by decide
  sending := by decide

namespace OpenDisplayComponent

/-- Two images are delivered after it. -/
theorem next_client_served_two :
    ∃ (parts : List (List (ComponentOp (SteppingDriver → SteppingDriver)))) (fx : List Effect)
      (c : OpenDisplayComponent (Recorder (EpaperSPIBackend SteppingDriver)))
      (told : List (List Response)) (given : List (List BackendCall)),
      List.Forall₂ InParts
        (Transmission.allTurns [(directThree, [7, 8, 9]), (pipeThree, [7, 8, 9])]) parts ∧
      Machine.Run step effects
        (afterPause SteppingDriver.epaper defaultSettings 80 lostClient steppingPause) parts.flatten
        fx c ∧
      notifiedFrames fx = told.flatten ∧ (∀ frames ∈ told, ToldRefreshed frames) ∧
      told.length = 2 ∧
      triggers fx = [.transferStarted, .refreshComplete, .transferStarted, .refreshComplete] ∧
      List.Forall₂ (fun job calls => FrameCalls 3 job.2 calls)
        [(directThree, [7, 8, 9]), (pipeThree, [7, 8, 9])] given ∧
      c.engine.cleared.backend.calls =
        (afterPause SteppingDriver.epaper defaultSettings 80 lostClient
          steppingPause).engine.cleared.backend.calls ++ given.flatten := by
  refine next_client_served (EpaperSPIBackend.enduring SteppingDriver.orderly SteppingDriver.caps)
    ⟨rfl, {}, rfl, trivial, rfl⟩ steppingPause_longEnough ?_ (by decide +kernel)
    (by decide +kernel) ?_
  · intro event hevent
    simp only [lostClient, steppingPause, Pause.ops, directTransfer, loopParts, List.mem_append,
      List.mem_cons, List.mem_replicate, List.not_mem_nil, ComponentOp.world.injEq, reduceCtorEq,
      and_false, or_false, false_or, or_self] at hevent
    rw [hevent]
    exact SteppingDriver.tolerable_step
  · simp only [List.forall_mem_cons]
    exact ⟨⟨directThree_sound, .direct _ directThree_isDirect, rfl⟩,
      ⟨pipeThree_sound, .pipe _ _ pipeThree_isPipe, rfl⟩, List.forall_mem_nil _⟩

end OpenDisplayComponent

end OpenDisplay
