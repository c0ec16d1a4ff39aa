import OpenDisplay.Component.Outcome
import OpenDisplay.Engine.CallTrace
import OpenDisplay.Backend.Scripted

/-!
# What belongs to which connection

A connection has a generation.  Received packets carry theirs, and a packet of an
earlier connection is dropped; responses and transactions are less well guarded.  The TX
queue is not emptied when a connection ends, so a response that is still in it goes to
the next client, and a transfer that is receiving when a new connection comes in lives
on, since `on_disconnect` then compares it with the new generation.  Both are the only
ways: in a run in which every connection finds the TX queue empty, every notification
goes to the connection for which it was queued, and in a run in which no connection
finds a transfer receiving, every transfer is written from packets of its own
connection.
-/

namespace OpenDisplay

namespace OpenDisplayComponent

variable {β ω : Type} [OpenDisplayBackend β] [PanelWorld β ω]

/-- Only a new connection has a new generation. -/
lemma generation_perform (c : OpenDisplayComponent β) {op : ComponentOp ω}
    (hop : op ≠ .bleConnect) :
    (c.perform op).2.connectionGeneration = c.connectionGeneration := by
  have ho := perform_engineStep c op
  cases ho with
  | kept _ hgen | idled _ _ _ _ _ _ hgen | aborted _ _ _ hgen | happened _ _ _ _ hgen =>
      exact hgen
  | connected hconnect => exact absurd hconnect hop
  | packet _ _ _ _ _ _ _ _ _ _ ha | ticked _ _ _ _ _ ha => exact ha.generation_eq

/-! ### Notifications -/

/-- The frames that the TX queue took and those that were notified, each with the
generation that was live then. -/
structure NotifyHistory where
  queued : List (UInt32 × Response) := []
  notified : List (UInt32 × Response) := []

/-- The monitor of the notifications. -/
def watchNotify (h : NotifyHistory) (c : OpenDisplayComponent β) (op : ComponentOp ω) :
    NotifyHistory where
  queued := h.queued ++ (queuedFrames (c.perform op).1).map (c.connectionGeneration, ·)
  notified := h.notified ++ (notifiedFrames (c.perform op).1).map (c.connectionGeneration, ·)

/-- The frames notified are the first ones queued, one by one and each under the same
generation. -/
def NotifyHistory.Isolated (h : NotifyHistory) : Prop := h.notified <+: h.queued

instance (h : NotifyHistory) : Decidable h.Isolated :=
  inferInstanceAs (Decidable (h.notified <+: h.queued))

/-- A new connection finds the TX queue empty. -/
def ConnectsDrained (s : NotifyHistory × OpenDisplayComponent β) (op : ComponentOp ω) : Prop :=
  match op with
  | .bleConnect => s.2.tx.isEmpty = true
  | _ => True

instance (s : NotifyHistory × OpenDisplayComponent β) (op : ComponentOp ω) :
    Decidable (ConnectsDrained s op) :=
  match op with
  | .bleConnect => inferInstanceAs (Decidable (s.2.tx.isEmpty = true))
  | .bleDisconnect | .bleWrite _ _ | .loop _ _ | .abort | .world _ => isTrue trivial

/-- What has been queued and not notified is in the TX queue, and of the live
generation. -/
def NotifyInv (s : NotifyHistory × OpenDisplayComponent β) : Prop :=
  s.1.queued = s.1.notified ++ s.2.tx.toList.map (s.2.connectionGeneration, ·)

lemma NotifyInv.step {s : NotifyHistory × OpenDisplayComponent β} (h : NotifyInv s)
    {op : ComponentOp ω} (hdrained : ConnectsDrained s op) :
    NotifyInv (Machine.monitored OpenDisplayComponent.step watchNotify s op) := by
  obtain ⟨hist, c⟩ := s
  have hconserve : Conserves c (c.perform op) := conserves_perform c op
  -- the frames keep the generation under which they were queued
  have hgen : (c.perform op).2.tx.toList.map ((c.perform op).2.connectionGeneration, ·) =
      (c.perform op).2.tx.toList.map (c.connectionGeneration, ·) := by
    cases op with
    | bleConnect =>
        have hempty : c.tx.toList = [] := (TxQueue.isEmpty_iff _).mp hdrained
        change c.tx.toList.map _ = c.tx.toList.map _
        rw [hempty]
        rfl
    | bleDisconnect | bleWrite | loop | abort | world =>
        rw [generation_perform c (by simp)]
  change hist.queued ++ (queuedFrames (c.perform op).1).map (c.connectionGeneration, ·) =
    (hist.notified ++ (notifiedFrames (c.perform op).1).map (c.connectionGeneration, ·)) ++
      (c.perform op).2.tx.toList.map ((c.perform op).2.connectionGeneration, ·)
  rw [hgen, (h : hist.queued = _), List.append_assoc, List.append_assoc, ← List.map_append,
    ← List.map_append, hconserve]

/-- **Isolation of notifications.**  If every new connection finds the TX queue empty,
every frame is notified under the generation under which it was queued. -/
theorem notified_isolated (b : β) (settings : ComponentSettings) (temperature : Int)
    (ops : List (ComponentOp ω))
    (h : Machine.AllSteps (Machine.monitored step watchNotify) ConnectsDrained
      (({} : NotifyHistory), (setup b settings temperature).2) ops) :
    (Machine.exec (Machine.monitored step watchNotify)
      (({} : NotifyHistory), (setup b settings temperature).2) ops).1.Isolated := by
  have hinit : NotifyInv (({} : NotifyHistory), (setup b settings temperature).2) := by
    rw [NotifyInv, (setup_fresh b settings temperature).2.2.1, TxQueue.toList_init]
    rfl
  have hinv := Machine.exec_invariant_of_allSteps (I := NotifyInv)
    (fun _ _ h hdrained => h.step hdrained) hinit h
  exact ⟨_, hinv.symm⟩

/-- A client reads the firmware version and is answered. -/
theorem notified_isolated_versionRead :
    (Machine.exec (Machine.monitored step watchNotify)
      (({} : NotifyHistory), (setup (ScriptedPanel.accepting 3 []) defaultSettings 80).2)
      ([.bleConnect, .bleWrite [0x00, 0x43] 0] ++ loopParts 9 1 :
        List (ComponentOp Unit))).1.Isolated :=
  notified_isolated (ScriptedPanel.accepting 3 []) defaultSettings 80
    ([.bleConnect, .bleWrite [0x00, 0x43] 0] ++ loopParts 9 1) (by decide +kernel)

/-- A client reads the firmware version and leaves at once: the answer is notified to the
next client. -/
theorem notified_nextClient :
    let h := (Machine.exec (Machine.monitored step watchNotify)
      (({} : NotifyHistory), (setup (ScriptedPanel.accepting 3 []) defaultSettings 80).2)
      ([.bleConnect, .bleWrite [0x00, 0x43] 0, .bleDisconnect] ++ loopParts 7 1 ++
        [.bleConnect] ++ loopParts 6 2 : List (ComponentOp Unit))).1
    h.queued = [(1, encodeVersion 0 1 0 [])] ∧ h.notified = [(2, encodeVersion 0 1 0 [])] ∧
      ¬ h.Isolated := by
  decide +kernel

/-! ### Image data -/

/-- The packets that the RX queue took, each with the generation that was live then; how
many of them have been taken out again; and the generation of the START packet that
opened the last transaction. -/
structure SessionHistory where
  enqueued : List (UInt32 × List UInt8) := []
  taken : ℕ := 0
  opened : Option UInt32 := none

/-- The monitor of the packets. -/
def watchSession (h : SessionHistory) (c : OpenDisplayComponent β) (op : ComponentOp ω) :
    SessionHistory :=
  match op with
  | .bleWrite data now =>
      if (c.rx.push data c.connectionGeneration now).1 then
        { h with enqueued := h.enqueued ++ [(c.connectionGeneration, data)] }
      else h
  | .loop _ _ =>
      if c.nextPacket.isSome then
        { h with
          taken := h.taken + 1
          opened :=
            if Effect.transferStarted ∈ (c.perform op).1 then
              (h.enqueued[h.taken]?).map Prod.fst
            else h.opened }
      else h
  | _ => h

/-- The data that a step writes to the panel. -/
def written (c : OpenDisplayComponent (Recorder β)) (op : ComponentOp ω) : List (List UInt8) :=
  ((c.step op).engine.backend.calls.drop c.engine.backend.calls.length).filterMap fun
    | .writeContiguous _ data _ => some data
    | _ => none

/-- Whatever a step writes, it takes from the packet at hand, and that was enqueued under
the generation of the START that opened the transaction. -/
def WritesIsolated (s : SessionHistory × OpenDisplayComponent (Recorder β))
    (op : ComponentOp ω) : Prop :=
  ∀ data ∈ s.2.written op, ∃ generation packet,
    s.1.enqueued[s.1.taken]? = some (generation, packet) ∧ data <:+ packet ∧
      s.1.opened = some generation

/-- A new connection finds no transfer receiving. -/
def ConnectsIdle (s : SessionHistory × OpenDisplayComponent β) (op : ComponentOp ω) : Prop :=
  match op with
  | .bleConnect => s.2.engine.txn.state ≠ .receiving
  | _ => True

instance (s : SessionHistory × OpenDisplayComponent β) (op : ComponentOp ω) :
    Decidable (ConnectsIdle s op) :=
  match op with
  | .bleConnect => inferInstanceAs (Decidable (s.2.engine.txn.state ≠ .receiving))
  | .bleDisconnect | .bleWrite _ _ | .loop _ _ | .abort | .world _ => isTrue trivial

/-- What the history says of the component. -/
structure SessionInv (s : SessionHistory × OpenDisplayComponent β) : Prop where
  taken_le : s.1.taken ≤ s.1.enqueued.length
  queue_eq : s.2.rx.toList.map (fun pkt => (pkt.connectionGeneration, pkt.bytes)) =
    s.1.enqueued.drop s.1.taken
  opened_eq : s.2.engine.txn.state = .receiving → s.1.opened = some s.2.connectionGeneration

omit [OpenDisplayBackend β] in
/-- The next packet is the first one that has not been taken. -/
lemma SessionInv.next {s : SessionHistory × OpenDisplayComponent β} (h : SessionInv s)
    {pkt : RxPacket} (hnext : s.2.nextPacket = some pkt) :
    s.1.enqueued[s.1.taken]? = some (pkt.connectionGeneration, pkt.bytes) := by
  have hpop : s.2.rx.pop.1 = some pkt := by
    rw [nextPacket] at hnext
    split at hnext
    · split_ifs at hnext
      exact hnext
    · cases hnext
  have hqueue := h.queue_eq
  rw [RxQueue.toList_pop_some hpop, List.map_cons] at hqueue
  rw [← List.head?_drop, ← hqueue]
  rfl

omit [OpenDisplayBackend β] [PanelWorld β ω] in
/-- What a packet makes the engine write is the end of the packet. -/
lemma packetOp_writes {e : TransferEngine β} {f : Frame} {now : UInt32} {eop : EngineOp ω}
    (heop : packetOp f now = some eop) {data : List UInt8} (hwrites : e.Writes eop data) :
    e.txn.state = .receiving ∧ data <:+ f.payload.bytes := by
  rw [packetOp] at heop
  split_ifs at heop <;> obtain rfl := Option.some.inj heop
  · exact hwrites.elim
  · obtain ⟨hstate, rfl⟩ := hwrites
    exact ⟨hstate, List.suffix_rfl⟩
  · exact hwrites.elim
  · exact hwrites.elim
  · obtain ⟨hstate, seq, hbytes⟩ := hwrites
    exact ⟨hstate, hbytes ▸ List.suffix_cons seq data⟩
  · exact hwrites.elim

omit [OpenDisplayBackend β] in
/-- Answering the engine leaves the RX queue alone. -/
lemma rx_answer (c : OpenDisplayComponent β) (answered : EngineResult × TransferEngine β) :
    (c.answer answered).2.rx = c.rx :=
  (sends_applyResult { c with engine := answered.2 } answered.1).rx_eq

/-- Handling a packet leaves the RX queue alone. -/
lemma PacketOutcome.rx_eq {c : OpenDisplayComponent β} {pkt : RxPacket} {now : UInt32}
    {done : Done β} (ho : PacketOutcome (ω := ω) c pkt now done) : done.2.rx = c.rx := by
  cases ho with
  | runt | version | msd | unsupported => rfl
  | config =>
      rw [sendConfig]
      dsimp only
      split_ifs <;> rfl
  | answered => exact rx_answer _ _

/-- A part of the loop takes the next packet off the RX queue, if there is one. -/
lemma rx_loop (c : OpenDisplayComponent β) (now : UInt32) (temperature : Int) :
    c.rx.toList = c.nextPacket.toList ++
      (c.perform (.loop now temperature : ComponentOp ω)).2.rx.toList := by
  have ho := loop_outcome c now temperature
  change _ = _ ++ (c.loop now temperature).2.rx.toList
  -- only the part that receives has a next packet
  have hnone : (∀ startMs handled, c.phase ≠ .receive startMs handled) → c.nextPacket = none := by
    intro hphase
    rw [nextPacket]
    split
    · rename_i startMs handled h
      exact absurd h (hphase startMs handled)
    · rfl
  generalize c.loop now temperature = done at ho ⊢
  cases ho with
  | started hphase | idled hphase | draining hphase | notified _ hphase | drained _ hphase
  | unchanged hphase =>
      rw [hnone (by simp [hphase])]
      rfl
  | received _ _ _ hnext =>
      rw [hnext]
      rfl
  | stale _ _ _ pkt hnext hpop =>
      rw [hnext, RxQueue.toList_pop_some hpop]
      rfl
  | packet _ _ _ pkt hnext hpop =>
      rw [hnext, RxQueue.toList_pop_some hpop, (handlePacket_outcome (ω := ω) _ pkt now).rx_eq]
      rfl
  | ticked startMs hphase =>
      rw [hnone (by simp [hphase]), rx_answer]
      rfl
  | updated startMs hphase =>
      rw [hnone (by simp [hphase]), updateMsd_rest]
      rfl
  | published hphase =>
      obtain ⟨-, -, -, -, hrest⟩ := publishState_rest { c with phase := .start }
      rw [hnone (by simp [hphase]), hrest]
      rfl

/-- The queue of packets and the history of it go together. -/
lemma SessionInv.step_queue {s : SessionHistory × OpenDisplayComponent β} (h : SessionInv s)
    (op : ComponentOp ω) (s' : SessionHistory × OpenDisplayComponent β)
    (hs' : s' = Machine.monitored step watchSession s op) :
    s'.1.taken ≤ s'.1.enqueued.length ∧
      s'.2.rx.toList.map (fun pkt => (pkt.connectionGeneration, pkt.bytes)) =
        s'.1.enqueued.drop s'.1.taken := by
  subst hs'
  cases op with
  | bleConnect | bleDisconnect | abort | world => exact ⟨h.taken_le, h.queue_eq⟩
  | bleWrite data now =>
      simp only [Machine.monitored, watchSession]
      change _ ∧ (s.2.rx.push data s.2.connectionGeneration now).2.toList.map _ = _
      rcases hpush : (s.2.rx.push data s.2.connectionGeneration now).1 with _ | _
      · rw [RxQueue.toList_push_of_refused hpush, if_neg (by decide)]
        exact ⟨h.taken_le, h.queue_eq⟩
      · obtain ⟨pkt, hlist, hgen, hbytes⟩ := RxQueue.toList_push_of_taken hpush
        rw [hlist, if_pos rfl]
        refine ⟨Nat.le_trans h.taken_le (by simp), ?_⟩
        rw [List.map_append, h.queue_eq, List.drop_append_of_le_length h.taken_le]
        simp [hgen, hbytes]
  | loop now temperature =>
      have hrx := rx_loop (ω := ω) s.2 now temperature
      have hqueue := h.queue_eq
      simp only [Machine.monitored, watchSession, OpenDisplayComponent.step]
      rw [hrx] at hqueue
      rcases hnext : s.2.nextPacket with _ | pkt
      · rw [hnext] at hqueue
        exact ⟨h.taken_le, hqueue⟩
      · rw [hnext] at hqueue
        have hlt : s.1.taken < s.1.enqueued.length := by
          have hlen := congrArg List.length hqueue
          simp only [List.length_map, List.length_append, List.length_drop, Option.toList_some,
            List.length_singleton] at hlen
          omega
        refine ⟨hlt, ?_⟩
        change _ = s.1.enqueued.drop (s.1.taken + 1)
        rw [← List.tail_drop, ← hqueue]
        rfl

/-- A transfer that receives after an operation that is no START was receiving before. -/
lemma receiving_of_step {e : TransferEngine β} {eop : EngineOp ω}
    (hstate : (e.step eop).txn.state = .receiving)
    (hstarted : (e.perform eop).1.transferStarted ≠ true) : e.txn.state = .receiving := by
  cases TransferEngine.step_receiving e eop hstate with
  | kept h => exact h
  | directOpened _ _ _ h => exact absurd h hstarted
  | pipeOpened _ _ _ _ _ h => exact absurd h hstarted

omit [PanelWorld β ω] in
lemma not_started_tick (e : TransferEngine β) (now : UInt32) :
    (e.tick now).1.transferStarted ≠ true := by
  have ho := TransferEngine.tick_outcome e now
  generalize (e.tick now).1 = res, (e.tick now).2 = e₁ at ho ⊢
  cases ho <;> simp

/-- Without a START the generation of the transaction is remembered. -/
lemma watchSession_opened (h : SessionHistory) {c : OpenDisplayComponent β} {op : ComponentOp ω}
    (hstarted : Effect.transferStarted ∉ (c.perform op).1) :
    (watchSession h c op).opened = h.opened := by
  cases op with
  | bleConnect | bleDisconnect | abort | world => rfl
  | bleWrite =>
      rw [watchSession]
      split_ifs <;> rfl
  | loop =>
      rw [watchSession]
      split_ifs
      · rfl
      · rfl

/-- A transfer that receives was opened under the live generation. -/
lemma SessionInv.step_opened {s : SessionHistory × OpenDisplayComponent β} (h : SessionInv s)
    {op : ComponentOp ω} (hidle : ConnectsIdle s op)
    (hstate : (s.2.perform op).2.engine.txn.state = .receiving) :
    (watchSession s.1 s.2 op).opened = some (s.2.perform op).2.connectionGeneration := by
  have ho := perform_engineStep s.2 op
  cases ho with
  | kept hengine hgen _ hstarted =>
      rw [hengine] at hstate
      rw [watchSession_opened _ hstarted, hgen, h.opened_eq hstate]
  | connected hop _ hengine =>
      subst hop
      rw [hengine] at hstate
      exact absurd hstate hidle
  | idled _ _ _ _ hfx hengine hgen | aborted _ hfx hengine hgen
  | happened _ _ hfx hengine hgen =>
      rw [hengine] at hstate
      rw [watchSession_opened _ (by simp [hfx]), hgen,
        h.opened_eq (receiving_of_step hstate (by simp [TransferEngine.perform]))]
  | packet now temperature hop pkt hnext hcurrent f _ eop _ ha =>
      by_cases hstarted : Effect.transferStarted ∈ (s.2.perform op).1
      · subst hop
        rw [watchSession, if_pos (by simp [hnext])]
        dsimp only
        rw [if_pos hstarted, h.next hnext, ha.generation_eq, ← hcurrent]
        rfl
      · rw [ha.txn_eq] at hstate
        rw [watchSession_opened _ hstarted, ha.generation_eq,
          h.opened_eq (receiving_of_step hstate (by rwa [ha.started_iff] at hstarted))]
  | ticked _ startMs _ _ _ ha =>
      have hstarted := not_started_tick s.2.engine startMs
      rw [ha.txn_eq] at hstate
      rw [watchSession_opened _ (by rw [ha.started_iff]; exact hstarted), ha.generation_eq,
        h.opened_eq (receiving_of_step hstate hstarted)]

lemma SessionInv.step {s : SessionHistory × OpenDisplayComponent β} (h : SessionInv s)
    {op : ComponentOp ω} (hidle : ConnectsIdle s op) :
    SessionInv (Machine.monitored OpenDisplayComponent.step watchSession s op) where
  taken_le := (h.step_queue op _ rfl).1
  queue_eq := (h.step_queue op _ rfl).2
  opened_eq := h.step_opened hidle

lemma written_of_writesOnly {c : OpenDisplayComponent (Recorder β)} {op : ComponentOp ω}
    {D : List UInt8 → Prop} (h : TransferEngine.WritesOnly c.engine.backend.calls D
      (c.perform op).2.engine.backend) : ∀ data ∈ c.written op, D data := by
  obtain ⟨new, hcalls, hD⟩ := h
  intro data hdata
  rw [written, OpenDisplayComponent.step, hcalls, List.drop_left] at hdata
  obtain ⟨call, hmem, hcall⟩ := List.mem_filterMap.mp hdata
  cases call with
  | writeContiguous offset d answer =>
      obtain rfl := Option.some.inj hcall
      exact hD _ _ _ hmem
  | beginFrame | finishFrame | beginRefresh | pollRefresh | abortTransfer => cases hcall

/-- A transfer that was opened under the live generation is written from packets of that
generation. -/
lemma SessionInv.writesIsolated {s : SessionHistory × OpenDisplayComponent (Recorder β)}
    (h : SessionInv s) (op : ComponentOp ω) : WritesIsolated s op := by
  have ho := perform_engineStep s.2 op
  have hstep : ∀ eop : EngineOp ω, (s.2.perform op).2.engine = s.2.engine.step eop →
      ∀ data ∈ s.2.written op, s.2.engine.Writes eop data := by
    intro eop hengine
    refine written_of_writesOnly ?_
    rw [hengine]
    exact TransferEngine.step_writesOnly _ _
  have hanswered : ∀ {eop : EngineOp ω}, Answered s.2 eop (s.2.perform op) →
      ∀ data ∈ s.2.written op, s.2.engine.Writes eop data := by
    intro eop ha
    refine written_of_writesOnly ?_
    rw [ha.engine_eq]
    change TransferEngine.WritesOnly _ _ (s.2.engine.step eop).takeTailSack.2.backend
    rw [TransferEngine.takeTailSack_backend]
    exact TransferEngine.step_writesOnly _ _
  intro data hdata
  cases ho with
  | kept hengine =>
      have hnone : TransferEngine.WritesOnly s.2.engine.backend.calls (fun _ => False)
          (s.2.perform op).2.engine.backend :=
        ⟨[], by rw [hengine, List.append_nil], fun _ _ _ h => nomatch h⟩
      exact (written_of_writesOnly hnone data hdata).elim
  | connected _ _ hengine => exact (hstep _ hengine data hdata).elim
  | idled _ _ _ _ _ hengine => exact (hstep _ hengine data hdata).elim
  | aborted _ _ hengine => exact (hstep _ hengine data hdata).elim
  | happened _ _ _ hengine => exact (hstep _ hengine data hdata).elim
  | ticked _ _ _ _ _ ha => exact (hanswered ha data hdata).elim
  | packet _ _ _ pkt hnext hcurrent f hframe eop heop ha =>
      obtain ⟨hstate, hsuffix⟩ := packetOp_writes heop (hanswered ha data hdata)
      refine ⟨_, _, h.next hnext, ?_, ?_⟩
      · rw [RxPacket.payload_bytes hframe] at hsuffix
        exact hsuffix.trans (List.drop_suffix _ _)
      · rw [h.opened_eq hstate, hcurrent]

/-- **Isolation of image data.**  If no new connection finds a transfer receiving, every
byte that is written comes from a packet that was enqueued under the generation of the
START that opened the transaction. -/
theorem writes_isolated (b : β) (settings : ComponentSettings) (temperature : Int)
    (ops : List (ComponentOp ω))
    (h : Machine.AllSteps (Machine.monitored step watchSession) ConnectsIdle
      (({} : SessionHistory), (setup (Recorder.fresh b) settings temperature).2) ops) :
    Machine.AllSteps (Machine.monitored step watchSession) WritesIsolated
      (({} : SessionHistory), (setup (Recorder.fresh b) settings temperature).2) ops := by
  have hinit : SessionInv
      (({} : SessionHistory), (setup (Recorder.fresh b) settings temperature).2) := by
    obtain ⟨hengine, hrx, -, -⟩ := setup_fresh (Recorder.fresh b) settings temperature
    refine ⟨Nat.le_refl _, ?_, ?_⟩
    · rw [hrx, RxQueue.toList_init]
      rfl
    · rw [hengine]
      intro hstate
      cases hstate
  exact Machine.allSteps_of_allSteps (I := SessionInv) (fun _ _ h hidle => h.step hidle)
    (fun _ op h _ => h.writesIsolated op) hinit h

/-- A direct transfer that nothing disturbs. -/
theorem writes_isolated_directTransfer :
    Machine.AllSteps (Machine.monitored step watchSession) WritesIsolated
      (({} : SessionHistory),
        (setup (Recorder.fresh (ScriptedPanel.accepting 3 [])) defaultSettings 80).2)
      (directTransfer ++ loopParts 9 1 : List (ComponentOp Unit)) :=
  writes_isolated (ScriptedPanel.accepting 3 []) defaultSettings 80
    (directTransfer ++ loopParts 9 1)
    (by decide +kernel)

/-- A client opens a direct transfer, leaves, and another one connects and sends data,
all before the next iteration of the loop. -/
def reconnect : List (ComponentOp Unit) :=
  [.bleConnect, .bleWrite [0x00, 0x70] 0] ++ loopParts 9 1 ++
    [.bleDisconnect, .bleConnect, .bleWrite [0x00, 0x71, 0xAA] 2] ++ loopParts 1 2

/-- The component after it. -/
def reconnected : SessionHistory × OpenDisplayComponent (Recorder ScriptedPanel) :=
  Machine.exec (Machine.monitored step watchSession)
    ({}, (setup (Recorder.fresh (ScriptedPanel.accepting 3 [])) defaultSettings 80).2) reconnect

lemma reconnected_eq :
    reconnected.1.opened = some 1 ∧
      reconnected.1.enqueued[reconnected.1.taken]? = some (2, [0x00, 0x71, 0xAA]) ∧
      reconnected.2.written (.loop 2 80 : ComponentOp Unit) = [[0xAA]] := by
  decide +kernel

/-- The data of the second client is written into the transfer that the first one
opened. -/
theorem written_nextClient :
    ¬ Machine.AllSteps (Machine.monitored step watchSession) WritesIsolated
      (({} : SessionHistory),
        (setup (Recorder.fresh (ScriptedPanel.accepting 3 [])) defaultSettings 80).2)
      (reconnect ++ [.loop 2 80]) := by
  intro h
  have hlast : WritesIsolated reconnected (.loop 2 80 : ComponentOp Unit) :=
    ((Machine.allSteps_append _ _ _ _ _).mp h).2.1
  obtain ⟨hopened, hnext, hwritten⟩ := reconnected_eq
  obtain ⟨generation, packet, henqueued, -, hgen⟩ := hlast [0xAA] (by simp [hwritten])
  rw [hnext] at henqueued
  rw [hopened] at hgen
  obtain ⟨rfl, -⟩ := Prod.mk.inj (Option.some.inj henqueued)
  cases hgen

end OpenDisplayComponent

end OpenDisplay
