import OpenDisplay.Component.ConfigRead
import OpenDisplay.Component.Handshake
import OpenDisplay.Component.LoopOrder

/-!
# A client that paces itself loses nothing

The TX queue drops what it has no room for, and a dropped frame is not sent again.  How
much may still come is known beforehand: a packet is answered by at most three frames, the
report of its refresh included, and a read of the config by two.  The `load` counts the
frames that wait, three for each packet that waits and one for a refresh under way; only a
write of the client raises it.  As long as the client writes only when there is room for
three more, every frame that the component has for it is queued, and comes in its order
(`paced_client_served`).
-/

namespace OpenDisplay

variable {β ω : Type} [OpenDisplayBackend β] [PanelWorld β ω]

/-! ### What an operation of the engine may send -/

namespace TransferEngine

open OpenDisplayComponent (resultFrames)

variable {e e' : TransferEngine β}

/-- The report that a refresh under way will be. -/
def owed {β : Type} (e : TransferEngine β) : ℕ := if e.txn.state = .refreshing then 1 else 0

omit [OpenDisplayBackend β] in
lemma owed_mono (h : e'.txn.state = .refreshing → e.txn.state = .refreshing) :
    e'.owed ≤ e.owed := by
  rw [owed, owed]
  split_ifs with h' hnot
  · exact le_rfl
  · exact absurd (h h') hnot
  · exact Nat.zero_le _
  · exact le_rfl

omit [OpenDisplayBackend β] in
lemma owed_le (e : TransferEngine β) : e.owed ≤ 1 := by
  rw [owed]
  split_ifs <;> omega

lemma FinishOutcome.reports_nothing {endOpcode : UInt16} {now : UInt32} {res : EngineResult}
    (h : FinishOutcome e endOpcode now res e') :
    res.refreshComplete = false ∧ res.refreshTimeout = false := by
  cases h <;> exact ⟨rfl, rfl⟩

/-- Only a tick reports a refresh. -/
lemma reports_nothing (e : TransferEngine β) {op : EngineOp ω} (hop : ∀ now, op ≠ .tick now) :
    (e.perform op).1.refreshComplete = false ∧ (e.perform op).1.refreshTimeout = false := by
  cases op with
  | tick now => exact absurd rfl (hop now)
  | abort | disconnect | setConnectionGeneration | takeTailSack | world => exact ⟨rfl, rfl⟩
  | directStart p now =>
      have ho := e.onDirectStart_outcome p now
      rw [perform]
      generalize e.onDirectStart p now = done at ho ⊢
      obtain ⟨res, e'⟩ := done
      cases ho <;> exact ⟨rfl, rfl⟩
  | directData p now =>
      have ho := e.onDirectData_outcome p now
      rw [perform]
      generalize e.onDirectData p now = done at ho ⊢
      obtain ⟨res, e'⟩ := done
      cases ho <;> exact ⟨rfl, rfl⟩
  | directEnd p now =>
      have ho := e.onDirectEnd_outcome p now
      rw [perform]
      generalize e.onDirectEnd p now = done at ho ⊢
      obtain ⟨res, e'⟩ := done
      cases ho with
      | misplaced => exact ⟨rfl, rfl⟩
      | finished _ _ _ _ hfinish => exact hfinish.reports_nothing
  | pipeStart p now =>
      have ho := e.onPipeStart_outcome p now
      rw [perform]
      generalize e.onPipeStart p now = done at ho ⊢
      obtain ⟨res, e'⟩ := done
      cases ho <;> exact ⟨rfl, rfl⟩
  | pipeData p now =>
      have ho := e.onPipeData_outcome p now
      rw [perform]
      generalize e.onPipeData p now = done at ho ⊢
      obtain ⟨res, e'⟩ := done
      cases ho with
      | accepted _ _ _ _ _ _ _ _ hchunk =>
          cases hchunk with
          | completed _ _ _ hfinish => exact hfinish.reports_nothing
          | sacked | silent => exact ⟨rfl, rfl⟩
      | _ => exact ⟨rfl, rfl⟩
  | pipeEnd p now =>
      have ho := e.onPipeEnd_outcome p now
      rw [perform]
      generalize e.onPipeEnd p now = done at ho ⊢
      obtain ⟨res, e'⟩ := done
      cases ho with
      | misplaced => exact ⟨rfl, rfl⟩
      | flushed _ _ _ _ hfinish | finished _ _ _ _ hfinish => exact hfinish.reports_nothing

/-- A packet is answered by at most two frames. -/
lemma length_packetFrames_le (e : TransferEngine β) {op : EngineOp ω}
    (hop : ∀ now, op ≠ .tick now) :
    (resultFrames (e.step op).takeTailSack.1 (e.perform op).1).length ≤ 2 := by
  obtain ⟨hcomplete, htimeout⟩ := e.reports_nothing hop
  have htail : ((e.step op).takeTailSack.1.toList.map (·, true)).length ≤ 1 := by
    rcases (e.step op).takeTailSack.1 with _ | _ <;> simp
  rw [resultFrames, hcomplete, htimeout, if_neg Bool.false_ne_true, if_neg Bool.false_ne_true,
    List.append_nil, List.append_nil, List.length_append]
  split_ifs
  · exact Nat.succ_le_succ htail
  · exact Nat.le_succ_of_le htail

/-- A tick sends nothing but the report that was owed. -/
lemma length_tickFrames_le {e : TransferEngine β} (hstaged : e.hasTailSack = false)
    (nowMs : UInt32) :
    (resultFrames (e.tick nowMs).2.takeTailSack.1 (e.tick nowMs).1).length +
      (e.tick nowMs).2.owed ≤ e.owed := by
  have ho := e.tick_outcome nowMs
  have htail : (e.tick nowMs).2.takeTailSack.1 = none := by
    rw [takeTailSack_of_not ((tick_hasTailSack e nowMs).trans hstaged)]
  rw [htail]
  generalize (e.tick nowMs).1 = res, (e.tick nowMs).2 = e' at ho ⊢
  cases ho with
  | complete _ _ hstate => simp [resultFrames, owed, hstate]
  | failed => simp [resultFrames, owed]
  | released => simp [resultFrames, owed]
  | waiting _ hpolled => simp [resultFrames, owed, hpolled.txn_eq]
  | transferTimeout => simp [resultFrames, owed]
  | refreshTimeout _ hpolled hrefresh =>
      have hstate := hrefresh.1
      rw [hpolled.txn_eq] at hstate
      simp [resultFrames, owed, hstate]

end TransferEngine

/-! ### A queue with room takes everything -/

/-- The frames that a queue can be given: an empty response is none. -/
def nonEmptyFrames (frames : List (Response × Bool)) : List Response :=
  (frames.map Prod.fst).filter fun r => !r.isEmpty

/-- The frames that fit without the slots kept for terminal frames. -/
def txOpenSlots : ℕ := txQueueSlots - txReservedForTerminal

lemma TxQueue.pushAll_of_room {q : TxQueue} {frames : List (Response × Bool)}
    (hroom : q.used + frames.length ≤ txOpenSlots) :
    (q.pushAll frames).1 = nonEmptyFrames frames ∧
      (q.pushAll frames).2.used ≤ q.used + frames.length := by
  induction frames generalizing q with
  | nil => exact ⟨rfl, le_rfl⟩
  | cons f frames ih =>
      obtain ⟨r, terminal⟩ := f
      rw [List.length_cons] at hroom
      rcases hr : r.isEmpty with _ | _
      · have haccepts : q.Accepts terminal := by
          have hslots : txQueueSlots = 16 ∧ txReservedForTerminal = 4 := ⟨rfl, rfl⟩
          rw [txOpenSlots] at hroom
          rw [Accepts]
          split_ifs <;> omega
        have hused := used_push_of_accepts hr haccepts
        obtain ⟨hall, hle⟩ := ih (q := (q.push r terminal).2) (by omega)
        refine ⟨?_, ?_⟩
        · rw [pushAll_of_accepts hr haccepts, hall]
          simp [nonEmptyFrames, hr]
        · rw [List.length_cons, pushAll]
          dsimp only
          omega
      · obtain ⟨hall, hle⟩ := ih (q := q) (by omega)
        have hskip : q.pushAll ((r, terminal) :: frames) = q.pushAll frames := by
          simp [pushAll, push_of_empty hr, hr]
        rw [hskip, List.length_cons]
        refine ⟨?_, by omega⟩
        rw [hall]
        simp [nonEmptyFrames, hr]

namespace OpenDisplayComponent

omit [OpenDisplayBackend β] in
lemma Sends.of_room {c : OpenDisplayComponent β} {frames : List (Response × Bool)}
    {done : Done β} (h : Sends c frames done) (hroom : c.tx.used + frames.length ≤ txOpenSlots) :
    queuedFrames done.1 = nonEmptyFrames frames ∧ done.2.tx.used ≤ c.tx.used + frames.length := by
  rw [h.queued_eq, h.tx_eq]
  exact TxQueue.pushAll_of_room hroom

/-! ### The load -/

/-- The frames that wait, three for every packet that waits, and a report still to come. -/
def load (c : OpenDisplayComponent β) : ℕ :=
  c.tx.used + 3 * c.rx.toList.length + c.engine.owed

/-- The packet is answered with the chunks of a valid blob. -/
def answersConfig (c : OpenDisplayComponent β) (pkt : RxPacket) : Bool :=
  pkt.frame.map Frame.opcode == some cmdConfigRead && c.settings.configValid

/-- The part of the loop is the reading of a valid config. -/
def readsConfig (c : OpenDisplayComponent β) : Bool :=
  match c.nextPacket with
  | some pkt => pkt.connectionGeneration == c.connectionGeneration && c.answersConfig pkt
  | none => false

/-- The frames that a step has for the client: those handed to `send_`, and the chunks of
the config where it is read. -/
def offeredFrames (c : OpenDisplayComponent β) (op : ComponentOp ω) : List Response :=
  match op with
  | .loop _ _ => if c.readsConfig then configChunks c.settings.configBlob
      else nonEmptyFrames (handedFrames (c.perform op).1)
  | _ => []

omit [OpenDisplayBackend β] in
/-- A part that sends takes on no more than its frames and the report it leaves to come. -/
lemma Sends.load_le {c c₁ : OpenDisplayComponent β} {frames : List (Response × Bool)}
    {done : Done β} (h : Sends c₁ frames done) (htx : c₁.tx = c.tx) (hrx : c₁.rx = c.rx)
    (hroom : c.tx.used + frames.length ≤ txOpenSlots) {k : ℕ}
    (howed : frames.length + c₁.engine.owed ≤ k + c.engine.owed) :
    done.2.load ≤ c.load + k ∧ queuedFrames done.1 = nonEmptyFrames (handedFrames done.1) := by
  rw [← htx] at hroom
  obtain ⟨hqueued, hused⟩ := h.of_room hroom
  refine ⟨?_, by rw [hqueued, h.handed_eq]⟩
  rw [htx] at hused
  rw [load, load, h.engine_eq, h.rx_eq, hrx]
  omega

/-- A blob is at most two chunks. -/
lemma configChunkCount_blob_le (settings : ComponentSettings) :
    configChunkCount settings.configBlob.length ≤ 2 := by
  have hle := settings.configBlob_le
  have hmax : configBlobMax = 160 := rfl
  rw [configChunkCount]
  split_ifs <;> omega

omit [OpenDisplayBackend β] in
/-- Where two frames fit, the config fits. -/
lemma sendConfig_of_room {c : OpenDisplayComponent β} (hroom : c.tx.used + 2 ≤ txOpenSlots) :
    c.sendConfig.2.load ≤ c.load + 3 ∧ queuedFrames c.sendConfig.1 =
      if c.settings.configValid then configChunks c.settings.configBlob
      else nonEmptyFrames (handedFrames c.sendConfig.1) := by
  rcases hvalid : c.settings.configValid with _ | _
  · have hsends : c.sendConfig = c.send (encodeNackErr cmdConfigRead 0x00) false := by
      rw [sendConfig, hvalid]
      rfl
    rw [hsends]
    exact (sends_send c _ _).load_le rfl rfl
      (Nat.le_trans (Nat.add_le_add_left (by simp) _) hroom) (Nat.add_le_add_right (by simp) _)
  · have hcount := configChunkCount_blob_le c.settings
    have hle := c.settings.configBlob_le
    have hmax : configBlobMax = 160 := rfl
    have hslots : txOpenSlots = 12 := rfl
    have hchunks := configChunkCount_le c.settings.configBlob.length
    have hsent := @toList_sendChunks c.settings.configBlob (by omega) c.tx
      (c.settings.configBlob.length + 1) 0 (Nat.zero_le _) (by omega)
    have hopen : configChunkCount c.settings.configBlob.length ≤ c.tx.room false := by
      rw [TxQueue.room]
      simp only [Bool.false_eq_true, if_false, txQueueSlots, txReservedForTerminal]
      omega
    rw [List.drop_zero, List.take_of_length_le (by simpa using hopen)] at hsent
    have hqueued := conserves_sendChunks c.settings.configBlob c.tx
      (c.settings.configBlob.length + 1) 0
    change (sendChunks c.settings.configBlob c.tx (c.settings.configBlob.length + 1) 0).2.toList =
      _ at hsent
    rw [sendConfig, if_neg (by simp [hvalid])]
    dsimp only
    refine ⟨?_, ?_⟩
    · rw [load, load]
      dsimp only
      rw [← TxQueue.length_toList, hsent, List.length_append, TxQueue.length_toList,
        length_configChunks]
      omega
    · rw [if_pos rfl]
      exact (List.append_cancel_left (hsent.symm.trans hqueued)).symm

include ω in
/-- Handling a packet takes on no more than three frames, the report of its refresh
included, and queues all that there is for the client. -/
lemma handlePacket_of_room {c : OpenDisplayComponent β} (hroom : c.tx.used + 2 ≤ txOpenSlots)
    (pkt : RxPacket) (nowMs : UInt32) :
    (c.handlePacket pkt nowMs).2.load ≤ c.load + 3 ∧
      queuedFrames (c.handlePacket pkt nowMs).1 =
        if c.answersConfig pkt then configChunks c.settings.configBlob
        else nonEmptyFrames (handedFrames (c.handlePacket pkt nowMs).1) := by
  have hone : ∀ {r : Response} {terminal : Bool} {done : Done β}, Sends c [(r, terminal)] done →
      done.2.load ≤ c.load + 3 ∧
        queuedFrames done.1 = nonEmptyFrames (handedFrames done.1) := fun h =>
    h.load_le rfl rfl (Nat.le_trans (Nat.add_le_add_left (by simp) _) hroom)
      (Nat.add_le_add_right (by simp) _)
  have hanswer : ∀ op : EngineOp ω, (∀ now, op ≠ .tick now) →
      (c.answer (c.engine.perform op)).2.load ≤ c.load + 3 ∧
        queuedFrames (c.answer (c.engine.perform op)).1 =
          nonEmptyFrames (handedFrames (c.answer (c.engine.perform op)).1) := by
    intro op hop
    have hframes := c.engine.length_packetFrames_le hop
    have howed := TransferEngine.owed_le (c.engine.step op).takeTailSack.2
    exact (sends_applyResult { c with engine := (c.engine.perform op).2 } _).load_le (c := c)
      rfl rfl (Nat.le_trans (Nat.add_le_add_left hframes _) hroom)
      (Nat.le_trans (Nat.add_le_add hframes howed) (Nat.le_add_right _ _))
  rw [handlePacket]
  rcases hframe : pkt.frame with _ | f
  · have hnot : c.answersConfig pkt = false := by simp [answersConfig, hframe]
    rw [hnot]
    exact ⟨Nat.le_add_right _ _, rfl⟩
  · dsimp only
    by_cases hconfig : f.opcode = cmdConfigRead
    · have hanswers : c.answersConfig pkt = c.settings.configValid := by
        simp [answersConfig, hframe, hconfig]
      rw [if_pos hconfig, hanswers]
      exact sendConfig_of_room hroom
    · have hnot : c.answersConfig pkt = false := by simp [answersConfig, hframe, hconfig]
      rw [if_neg hconfig, hnot, if_neg Bool.false_ne_true]
      split_ifs
      · exact hone (sends_send c _ _)
      · exact hone ((sends_send c _ _).andThen (.silent rfl rfl rfl rfl))
      · exact hanswer (.directStart f.payload nowMs) (by simp)
      · exact hanswer (.directData f.payload nowMs) (by simp)
      · exact hanswer (.directEnd f.payload nowMs) (by simp)
      · exact hanswer (.pipeStart f.payload nowMs) (by simp)
      · exact hanswer (.pipeData f.payload nowMs) (by simp)
      · exact hanswer (.pipeEnd f.payload nowMs) (by simp)
      · exact hone (sends_send c _ _)

/-! ### Steps -/

/-- The step is no write of the client, or leaves room for what the packet may bring. -/
def Paced (c : OpenDisplayComponent β) : ComponentOp ω → Prop
  | .bleWrite _ _ => c.load + 3 ≤ txOpenSlots
  | _ => True

lemma owed_onDisconnect_le (e : TransferEngine β) (generation : UInt32) :
    (e.onDisconnect generation).owed ≤ e.owed := by
  refine TransferEngine.owed_mono ?_
  rw [TransferEngine.onDisconnect]
  split_ifs <;> simp

/-- The part of the loop that takes no packet, and sends what is handed to `send_`. -/
lemma offeredFrames_of_none {c : OpenDisplayComponent β} (hnone : c.nextPacket = none)
    (nowMs : UInt32) (temperature : Int) :
    offeredFrames c (.loop nowMs temperature : ComponentOp ω) =
      nonEmptyFrames (handedFrames (c.loop nowMs temperature).1) := by
  have hreads : c.readsConfig = false := by rw [readsConfig, hnone]
  rw [offeredFrames, hreads]
  rfl

instance decidablePaced : ∀ (c : OpenDisplayComponent β) (op : ComponentOp ω),
    Decidable (Paced c op)
  | c, .bleWrite _ _ => inferInstanceAs (Decidable (c.load + 3 ≤ txOpenSlots))
  | _, .bleConnect | _, .bleDisconnect | _, .loop _ _ | _, .abort | _, .world _ => isTrue trivial

/-- A part of the loop takes nothing on, and queues all that it has for the client. -/
lemma loop_of_load {c : OpenDisplayComponent β} (hstaged : c.engine.hasTailSack = false)
    (hload : c.load ≤ txOpenSlots) (nowMs : UInt32) (temperature : Int) :
    (c.loop nowMs temperature).2.load ≤ c.load ∧
      queuedFrames (c.loop nowMs temperature).1 =
        offeredFrames c (.loop nowMs temperature : ComponentOp ω) := by
  have hoffered := fun hnone => offeredFrames_of_none (ω := ω) (c := c) hnone nowMs temperature
  have hquiet : ∀ {phase : LoopPhase}, c.phase = phase →
      (∀ startMs handled, phase ≠ .receive startMs handled) → c.nextPacket = none :=
    fun hphase h => nextPacket_of_phase fun startMs handled => hphase ▸ h startMs handled
  have ho := loop_outcome c nowMs temperature
  generalize hdone : c.loop nowMs temperature = done at ho hoffered ⊢
  cases ho with
  | started hphase | draining hphase | drained _ hphase | unchanged hphase =>
      exact ⟨le_rfl, (hoffered (hquiet hphase (by simp))).symm⟩
  | idled hphase =>
      refine ⟨?_, (hoffered (hquiet hphase (by simp))).symm⟩
      exact Nat.add_le_add_left (owed_onDisconnect_le _ _) _
  | received _ _ _ hnext => exact ⟨le_rfl, (hoffered hnext).symm⟩
  | updated _ hphase =>
      refine ⟨le_of_eq ?_, (hoffered (hquiet hphase (by simp))).symm⟩
      rw [updateMsd_rest]
      rfl
  | notified sent hphase r hpop =>
      refine ⟨?_, (hoffered (hquiet hphase (by simp))).symm⟩
      have hused := congrArg List.length (TxQueue.toList_pop_some hpop)
      rw [TxQueue.length_toList, List.length_cons, TxQueue.length_toList] at hused
      rw [load, load]
      dsimp only
      omega
  | published hphase =>
      obtain ⟨hhanded, hqueued, -, -, hrest⟩ := publishState_rest { c with phase := .start }
      refine ⟨le_of_eq ?_, ?_⟩
      · rw [hrest]
        rfl
      · rw [hoffered (hquiet hphase (by simp)), hqueued, hhanded]
        rfl
  | ticked startMs hphase =>
      have hframes := TransferEngine.length_tickFrames_le hstaged startMs
      have hsends := sends_applyResult { c with
        phase := .updateMsd startMs
        engine := (c.engine.tick startMs).2 } (c.engine.tick startMs).1
      rw [hoffered (hquiet hphase (by simp))]
      refine hsends.load_le (c := c) (k := 0) rfl rfl ?_ ?_
      · rw [load] at hload
        dsimp only
        omega
      · rw [Nat.zero_add]
        refine Nat.le_trans (Nat.add_le_add_left (TransferEngine.owed_mono ?_) _) hframes
        rw [TransferEngine.takeTailSack_txn]
        exact id
  | stale startMs handled _ pkt hnext hpop hstale =>
      have hlist := congrArg List.length (RxQueue.toList_pop_some hpop)
      rw [List.length_cons] at hlist
      have hreads : c.readsConfig = false := by simp [readsConfig, hnext, hstale]
      refine ⟨?_, ?_⟩
      · rw [load, load]
        dsimp only
        omega
      · rw [offeredFrames, hreads]
        change [] = nonEmptyFrames (handedFrames (c.loop nowMs temperature).1)
        rw [hdone]
        rfl
  | packet startMs handled _ pkt hnext hpop hcurrent =>
      have hlist := congrArg List.length (RxQueue.toList_pop_some hpop)
      rw [List.length_cons] at hlist
      have htaken : load { c with
          rx := c.rx.pop.2, phase := .receive startMs (handled + 1) } + 3 = c.load := by
        rw [load, load]
        dsimp only
        omega
      have hroom : c.tx.used + 2 ≤ txOpenSlots := by
        rw [load] at hload
        omega
      obtain ⟨hless, hqueued⟩ := handlePacket_of_room (ω := ω) (c := { c with
        rx := c.rx.pop.2, phase := .receive startMs (handled + 1) }) hroom pkt nowMs
      refine ⟨by omega, ?_⟩
      have hreads : c.readsConfig = c.answersConfig pkt := by simp [readsConfig, hnext, hcurrent]
      rw [hqueued, offeredFrames, hreads]
      change _ = if _ then _ else nonEmptyFrames (handedFrames (c.loop nowMs temperature).1)
      rw [hdone]
      rfl

/-- What a step of a paced client's component keeps: no SACK is staged between two steps,
and there is room for all that may still come. -/
structure Afloat (c : OpenDisplayComponent β) : Prop where
  settled : Settled c.engine
  load_le : c.load ≤ txOpenSlots

lemma Afloat.step {c : OpenDisplayComponent β} (h : Afloat c) {op : ComponentOp ω}
    (hpaced : Paced c op) : Afloat (c.step op) := by
  refine ⟨h.settled.step op, ?_⟩
  have hload := h.load_le
  cases op with
  | bleConnect | bleDisconnect | world => exact hload
  | abort =>
      refine Nat.le_trans (Nat.add_le_add_left (TransferEngine.owed_mono ?_) _) hload
      change (c.engine.abort .invalidState).txn.state = .refreshing → _
      simp
  | loop now temperature =>
      exact (loop_of_load (ω := ω) h.settled.staged hload now temperature).1.trans hload
  | bleWrite data now =>
      have harrived : (c.rx.push data c.connectionGeneration now).2.toList.length ≤
          c.rx.toList.length + 1 := by
        rcases hpush : (c.rx.push data c.connectionGeneration now).1 with _ | _
        · rw [RxQueue.toList_push_of_refused hpush]
          exact Nat.le_succ _
        · obtain ⟨pkt, hlist, -⟩ := RxQueue.toList_push_of_taken hpush
          rw [hlist, List.length_append, List.length_singleton]
      have hpaced : c.load + 3 ≤ txOpenSlots := hpaced
      change c.tx.used + 3 * (c.rx.push data c.connectionGeneration now).2.toList.length +
        c.engine.owed ≤ txOpenSlots
      rw [load] at hpaced
      omega

lemma Afloat.queues {c : OpenDisplayComponent β} (h : Afloat c) (op : ComponentOp ω) :
    stepQueued c op = offeredFrames c op := by
  cases op with
  | loop now temperature => exact (loop_of_load h.settled.staged h.load_le now temperature).2
  | _ => rfl

/-- The receive queue takes what the client writes, if it fits a slot at all. -/
def TakesWrite (c : OpenDisplayComponent β) : ComponentOp ω → Prop
  | .bleWrite data now => 0 < data.length → data.length ≤ rxSlotBytes →
      (c.rx.push data c.connectionGeneration now).1 = true
  | _ => True

omit [OpenDisplayBackend β] [PanelWorld β ω] in
lemma Paced.takesWrite {c : OpenDisplayComponent β} {op : ComponentOp ω}
    (hpaced : Paced c op) : TakesWrite c op := by
  cases op with
  | bleWrite data now =>
      intro hpos hle
      have hpaced : c.load + 3 ≤ txOpenSlots := hpaced
      have hslots : rxQueueSlots = 24 ∧ txOpenSlots = 12 := ⟨rfl, rfl⟩
      have hfree : c.rx.ring.isFull = false := by
        rw [Bool.eq_false_iff, Ne, RingBuffer.isFull_iff, ← RingBuffer.length_toList]
        change ¬ c.rx.toList.length + 1 = rxQueueSlots
        rw [load] at hpaced
        omega
      rw [RxQueue.push, dif_neg (by omega), if_neg (by simp [hfree])]
  | _ => trivial

/-- **A client that paces itself loses nothing.**  In every run in which the client writes
only when there is room for what the packet may bring, every packet is taken, and all that
the component ever has for it is queued, and has been notified or waits, in its order. -/
theorem paced_client_served {c : OpenDisplayComponent β} (hsettled : Settled c.engine)
    (hload : c.load ≤ txOpenSlots) {ops : List (ComponentOp ω)}
    (hpaced : Machine.AllSteps step Paced c ops) :
    Machine.AllSteps step TakesWrite c ops ∧
      Machine.outputs step stepQueued c ops = Machine.outputs step offeredFrames c ops ∧
      Machine.outputs step stepNotified c ops ++ (Machine.exec step c ops).tx.toList =
        c.tx.toList ++ Machine.outputs step offeredFrames c ops := by
  have hqueued : Machine.outputs step stepQueued c ops =
      Machine.outputs step offeredFrames c ops := by
    refine (Machine.outputs_eq_of_simulation (R := fun c c' => c = c' ∧ Afloat c) ?_
      ⟨rfl, hsettled, hload⟩ hpaced).1
    rintro c _ op ⟨rfl, h⟩ hpaced
    exact ⟨h.queues op, rfl, h.step hpaced⟩
  refine ⟨?_, hqueued, ?_⟩
  · exact Machine.allSteps_of_allSteps (I := Afloat) (fun _ _ h hpaced => h.step hpaced)
      (fun _ _ _ hpaced => hpaced.takesWrite) ⟨hsettled, hload⟩ hpaced
  rw [← hqueued]
  exact Machine.outputs_conserve (fun c => c.tx.toList) conserves_perform c ops

/-- Four reads of the config at once, and four more when they have been answered. -/
def fourReads : List (ComponentOp Unit) :=
  let reads := List.replicate 4 (.bleWrite [0x00, 0x40] 0)
  .bleConnect :: reads ++ loopParts 38 1 ++ reads ++ loopParts 38 2

/-- The chunks of all eight are queued. -/
theorem paced_client_served_fourReads :
    Machine.AllSteps step TakesWrite readable fourReads ∧
      Machine.outputs step stepQueued readable fourReads =
        Machine.outputs step offeredFrames readable fourReads ∧
      Machine.outputs step stepNotified readable fourReads ++
          (Machine.exec step readable fourReads).tx.toList =
        readable.tx.toList ++ Machine.outputs step offeredFrames readable fourReads :=
  paced_client_served (settled_setup readablePanel _ 80) (by decide +kernel) (by decide +kernel)

end OpenDisplayComponent

end OpenDisplay
