import OpenDisplay.Lib.Countdown
import OpenDisplay.Transport.Concurrent

/-!
# Handing packets over

The packets that `pop` returns are those that `push` has taken: in order, once each, intact, in
every interleaving of the two.  What carries this is what each side may rely on while it is
suspended (`ProducerOk`, `ConsumerOk`).  The producer has found the ring not full, and the consumer
can only make room; the consumer has found it not empty, and the producer writes to the slot at the
head, which is not the one at the tail.

A push that begins with room keeps its room, so it cannot fail.  One that fails never comes to
write anything.  A pop that begins with a packet in the ring keeps that packet at the tail, so it
returns it; one that returns none has read the head when there was none.
-/

namespace OpenDisplay

open RingBuffer (nextIdx)

/-! ### What each side relies on -/

/-- The call that has published its packet and has not returned yet. -/
def Producer.inFlight : Producer → List PushCall
  | .measure call _ | .record call _ => [call]
  | _ => []

/-- The slot that the producer is writing. -/
def Producer.writing : Producer → Option (Fin rxQueueSlots)
  | .write _ head _ => some head
  | _ => none

/-- The slot that the consumer is copying. -/
def Consumer.copying : Consumer → Option (Fin rxQueueSlots)
  | .copy _ tail _ => some tail
  | _ => none

/-- The producer's view of the ring: its index is the head, and once it writes, the ring is not
full and the cells still to be written complete the packet. -/
def ProducerOk (ring : RingBuffer RxPacket rxQueueSlots) : Producer → Prop
  | .test _ head => head = ring.headIdx
  | .write call head todo => head = ring.headIdx ∧ ring.isFull = false ∧
      call.Arrives (ring.headSlot.putAll call.packet todo)
  | .idle | .start _ | .refuse _ | .measure _ _ | .record _ _ => True

/-- The consumer's view: its index is the tail, and once it copies, the ring is not empty and the
cells still to be copied complete the slot at the tail. -/
def ConsumerOk (ring : RingBuffer RxPacket rxQueueSlots) : Consumer → Prop
  | .test _ tail => tail = ring.tailIdx
  | .copy out tail todo => tail = ring.tailIdx ∧ ring.isEmpty = false ∧
      out.putAll ring.tailSlot todo = ring.tailSlot
  | .idle | .start _ => True

section Rely

variable {ring : RingBuffer RxPacket rxQueueSlots}

/-- The consumer takes nothing from the producer. -/
lemma ProducerOk.setTail {p : Producer} (h : ProducerOk ring p) (hempty : ring.isEmpty = false) :
    ProducerOk (ring.setTail (nextIdx ring.tailIdx)) p := by
  cases p with
  | write call head todo => exact ⟨h.1, ring.isFull_advance hempty, h.2.2⟩
  | test | idle | start | refuse | measure | record => exact h

/-- The producer writes where the consumer does not read. -/
lemma ConsumerOk.setSlot {c : Consumer} (h : ConsumerOk ring c) (slot : RxPacket) :
    ConsumerOk (ring.setSlot ring.headIdx slot) c := by
  cases c with
  | copy out tail todo =>
      obtain ⟨htail, hempty, hcopy⟩ := h
      exact ⟨htail, hempty, by rw [ring.tailSlot_setSlot_head slot hempty]; exact hcopy⟩
  | test | idle | start => exact h

/-- A packet that is published takes nothing from the consumer either. -/
lemma ConsumerOk.setHead {c : Consumer} (h : ConsumerOk ring c) (hfull : ring.isFull = false) :
    ConsumerOk (ring.setHead (nextIdx ring.headIdx)) c := by
  cases c with
  | copy out tail todo => exact ⟨h.1, ring.isEmpty_setHead hfull, h.2.2⟩
  | test | idle | start => exact h

/-- Two indices that are both at hand never meet. -/
lemma writing_ne_copying {p : Producer} {c : Consumer} (hp : ProducerOk ring p)
    (hc : ConsumerOk ring c) {i j : Fin rxQueueSlots} (hi : p.writing = some i)
    (hj : c.copying = some j) : i ≠ j := by
  cases p with
  | write call head todo =>
      cases c with
      | copy out tail rest =>
          obtain rfl := Option.some.inj hi
          obtain rfl := Option.some.inj hj
          obtain ⟨htail, hempty, -⟩ := hc
          rw [hp.1, htail]
          intro heq
          have hval : ring.head = ring.tail := congrArg Fin.val heq
          simp [RingBuffer.isEmpty, hval] at hempty
      | test | idle | start => cases hj
  | test | idle | start | refuse | measure | record => cases hi

end Rely

/-! ### The history -/

/-- The calls of `push` that have returned `true`, and the packets that `pop` has returned. -/
structure HandOverHistory where
  accepted : List PushCall := []
  returned : List RxPacket := []

namespace SharedQueue

/-- The monitor of the history. -/
def watchHandOver (h : HandOverHistory) (s : SharedQueue) (op : SharedOp) : HandOverHistory where
  accepted := h.accepted ++ acceptedCalls (s.returns op)
  returned := h.returned ++ returnedPackets (s.returns op)

/-- The packets that were returned and those in the ring are those that were taken, and each side
has what it relies on. -/
structure Inv (s : HandOverHistory × SharedQueue) : Prop where
  arrive : List.Forall₂ PushCall.Arrives (s.1.accepted ++ s.2.producer.inFlight)
    (s.1.returned ++ s.2.queue.toList)
  producer : ProducerOk s.2.queue.ring s.2.producer
  consumer : ConsumerOk s.2.queue.ring s.2.consumer

lemma inv_init : Inv ({}, {}) where
  arrive := by
    rw [RxQueue.toList_init]
    exact .nil
  producer := trivial
  consumer := trivial

section Steps

variable {h : HandOverHistory} {s : SharedQueue}

/-- What a step has to leave. -/
lemma Inv.of_perform {op : SharedOp} {fx : List HandOver} {s' : SharedQueue}
    (hperform : s.perform op = (fx, s'))
    (harrive : List.Forall₂ PushCall.Arrives
      (h.accepted ++ acceptedCalls fx ++ s'.producer.inFlight)
      (h.returned ++ returnedPackets fx ++ s'.queue.toList))
    (hproducer : ProducerOk s'.queue.ring s'.producer)
    (hconsumer : ConsumerOk s'.queue.ring s'.consumer) :
    Inv (watchHandOver h s op, s.step op) := by
  rw [watchHandOver, returns, step, hperform]
  exact ⟨harrive, hproducer, hconsumer⟩

/-- A step in which no call returns, none publishes and none takes leaves the packets alone. -/
lemma Inv.of_silent {op : SharedOp} {s' : SharedQueue}
    (hinv : Inv (h, s)) (hperform : s.perform op = ([], s'))
    (hflight : s'.producer.inFlight = s.producer.inFlight)
    (hqueue : s'.queue.toList = s.queue.toList)
    (hproducer : ProducerOk s'.queue.ring s'.producer)
    (hconsumer : ConsumerOk s'.queue.ring s'.consumer) :
    Inv (watchHandOver h s op, s.step op) := by
  refine .of_perform hperform ?_ hproducer hconsumer
  have harrive := hinv.arrive
  rw [hflight, hqueue]
  simpa [acceptedCalls, returnedPackets] using harrive

/-- The producer appends its packet when it publishes it, and nothing else. -/
lemma Inv.produce (hinv : Inv (h, s)) : Inv (watchHandOver h s .produce, s.step .produce) := by
  have ⟨harrive, hproducer, hconsumer⟩ := hinv
  obtain ⟨queue, producer, consumer⟩ := s
  dsimp only at harrive hproducer hconsumer
  cases producer with
  | idle => exact hinv.of_silent rfl rfl rfl trivial hconsumer
  | start call => exact hinv.of_silent rfl rfl rfl rfl hconsumer
  | test call head =>
      obtain rfl : head = queue.ring.headIdx := hproducer
      by_cases hfull : nextIdx queue.ring.headIdx = queue.ring.tailIdx
      · exact hinv.of_silent (perform_test_of_full queue consumer call hfull) rfl rfl trivial
          hconsumer
      · have hroom : queue.ring.isFull = false := by
          rw [queue.isFull_eq]
          exact decide_eq_false hfull
        have hpacket : call.Arrives (queue.ring.headSlot.putAll call.packet call.cells) := by
          rw [PushCall.putAll_cells]
          exact call.arrives_fill _
        exact hinv.of_silent (perform_test_of_room queue consumer call hfull) rfl rfl
          ⟨rfl, hroom, hpacket⟩ hconsumer
  | refuse call =>
      refine .of_perform rfl ?_ trivial hconsumer
      simpa [acceptedCalls, returnedPackets, Producer.inFlight, RxQueue.toList] using harrive
  | write call head todo =>
      obtain ⟨hhead, hfull, hpacket⟩ := hproducer
      subst hhead
      cases todo with
      | cons cell todo =>
          refine hinv.of_silent rfl rfl (RingBuffer.toList_setSlot_head _ _) ⟨rfl, hfull, ?_⟩
            (hconsumer.setSlot _)
          rw [RingBuffer.headSlot_setSlot_head]
          exact hpacket
      | nil =>
          have hpublish : (SharedQueue.mk queue (.write call queue.ring.headIdx [])
              consumer).perform .produce = ([], _) := rfl
          refine .of_perform hpublish ?_ trivial (hconsumer.setHead hfull)
          rw [RxQueue.toList, RingBuffer.toList_setHead _ hfull, ← List.append_assoc]
          refine List.rel_append ?_ (.cons hpacket .nil)
          simpa [acceptedCalls, returnedPackets, Producer.inFlight, RxQueue.toList] using harrive
  | measure call next => exact hinv.of_silent rfl rfl rfl trivial hconsumer
  | record call depth =>
      refine .of_perform rfl ?_ trivial hconsumer
      simpa [acceptedCalls, returnedPackets, Producer.inFlight, RxQueue.toList] using harrive

/-- The consumer takes the oldest packet off when it moves the tail, and nothing else. -/
lemma Inv.consume (hinv : Inv (h, s)) : Inv (watchHandOver h s .consume, s.step .consume) := by
  have ⟨harrive, hproducer, hconsumer⟩ := hinv
  obtain ⟨queue, producer, consumer⟩ := s
  dsimp only at harrive hproducer hconsumer
  cases consumer with
  | idle => exact hinv.of_silent rfl rfl rfl hproducer trivial
  | start out => exact hinv.of_silent rfl rfl rfl hproducer rfl
  | test out tail =>
      obtain rfl : tail = queue.ring.tailIdx := hconsumer
      by_cases hempty : queue.ring.tailIdx = queue.ring.headIdx
      · refine .of_perform (perform_test_of_empty queue producer out hempty) ?_ hproducer trivial
        simpa [acceptedCalls, returnedPackets] using harrive
      · have hany : queue.ring.isEmpty = false := by
          rw [queue.isEmpty_eq]
          exact decide_eq_false hempty
        exact hinv.of_silent (perform_test_of_any queue producer out hempty) rfl rfl hproducer
          ⟨rfl, hany, RxPacket.putAll_all _ _⟩
  | copy out tail todo =>
      obtain ⟨htail, hempty, hcopy⟩ := hconsumer
      subst htail
      cases todo with
      | cons cell todo => exact hinv.of_silent rfl rfl rfl hproducer ⟨rfl, hempty, hcopy⟩
      | nil =>
          obtain rfl : out = queue.ring.tailSlot := hcopy
          refine .of_perform rfl ?_ (hproducer.setTail hempty) trivial
          have hcons := queue.ring.toList_eq_cons_advance hempty
          rw [RingBuffer.advance_eq] at hcons
          rw [RxQueue.toList, hcons] at harrive
          simpa [acceptedCalls, returnedPackets, RxQueue.toList] using harrive

/-- A call that comes in touches nothing. -/
lemma Inv.beginPush (hinv : Inv (h, s)) (data : List UInt8) (generation nowMs : UInt32) :
    Inv (watchHandOver h s (.push data generation nowMs),
      s.step (.push data generation nowMs)) := by
  have ⟨harrive, hproducer, hconsumer⟩ := hinv
  obtain ⟨queue, producer, consumer⟩ := s
  cases producer with
  | idle =>
      by_cases harg : data.length = 0 ∨ rxSlotBytes < data.length
      · refine .of_perform (dif_pos harg) ?_ trivial hconsumer
        simpa [acceptedCalls, returnedPackets] using harrive
      · exact hinv.of_silent (dif_neg harg) rfl rfl trivial hconsumer
  | start | test | refuse | write | measure | record =>
      exact hinv.of_silent rfl rfl rfl hproducer hconsumer

lemma Inv.beginPop (hinv : Inv (h, s)) (out : RxPacket) :
    Inv (watchHandOver h s (.pop out), s.step (.pop out)) := by
  have ⟨harrive, hproducer, hconsumer⟩ := hinv
  obtain ⟨queue, producer, consumer⟩ := s
  cases consumer with
  | idle => exact hinv.of_silent rfl rfl rfl hproducer trivial
  | start | test | copy => exact hinv.of_silent rfl rfl rfl hproducer hconsumer

end Steps

/-- **One step** keeps the packets in order and both sides safe. -/
theorem Inv.step {s : HandOverHistory × SharedQueue} (hinv : Inv s) (op : SharedOp) :
    Inv (Machine.monitored SharedQueue.step watchHandOver s op) := by
  cases op with
  | push data generation nowMs => exact hinv.beginPush data generation nowMs
  | produce => exact hinv.produce
  | pop out => exact hinv.beginPop out
  | consume => exact hinv.consume

/-- **The whole run.** -/
theorem inv_exec (ops : List SharedOp) :
    Inv (Machine.exec (Machine.monitored SharedQueue.step watchHandOver) ({}, {}) ops) :=
  Machine.exec_invariant (fun _ op h => h.step op) inv_init ops

end SharedQueue

/-! ### A push that has room -/

/-- The accesses that a call of `push` still needs at most. -/
def Producer.remaining : Producer → ℕ
  | .idle => 0
  | .start call => call.data.length + 8
  | .test call _ => call.data.length + 7
  | .write _ _ todo => todo.length + 3
  | .measure _ _ => 2
  | .record _ _ | .refuse _ => 1

/-- A step of the producer. -/
def SharedOp.isProduce : SharedOp → Bool
  | .produce => true
  | .push .. | .pop _ | .consume => false

lemma SharedOp.eq_produce {op : SharedOp} (h : op.isProduce = true) : op = .produce := by
  cases op with
  | produce => rfl
  | push | pop | consume => cases h

namespace SharedQueue

/-- What `push` returns in the steps of a run. -/
def resultsOf (s : SharedQueue) (ops : List SharedOp) : List Bool :=
  pushResults (Machine.outputs step returns s ops)

/-- The push under way returns `true`, whatever the steps are, when `n` of them are its own. -/
def Takes (s : SharedQueue) (n : ℕ) : Prop :=
  ∀ ops : List SharedOp, (s.resultsOf ops).head? ≠ some false ∧
    (n ≤ ops.countP SharedOp.isProduce → (s.resultsOf ops).head? = some true)

/-- The push under way has room, or does not need it any more. -/
def Succeeding (s : SharedQueue) : Prop :=
  match s.producer with
  | .idle | .refuse _ => False
  | .start _ | .test _ _ => s.queue.ring.isFull = false
  | .write _ _ _ | .measure _ _ | .record _ _ => True

@[simp] lemma resultsOf_nil (s : SharedQueue) : s.resultsOf [] = [] := rfl

lemma resultsOf_cons (s : SharedQueue) (op : SharedOp) (ops : List SharedOp) :
    s.resultsOf (op :: ops) = pushResults (s.returns op) ++ (s.step op).resultsOf ops := by
  rw [resultsOf, Machine.outputs_cons, pushResults, List.filterMap_append]
  rfl

lemma resultsOf_append (s : SharedQueue) (ops more : List SharedOp) :
    s.resultsOf (ops ++ more) = s.resultsOf ops ++ (Machine.exec step s ops).resultsOf more := by
  rw [resultsOf, Machine.outputs_append, pushResults, List.filterMap_append]
  rfl

section Success

variable {h : HandOverHistory} {s : SharedQueue}

/-- The producer gets on with a push that has room, and returns `true` in the end. -/
lemma Succeeding.produce (hinv : Inv (h, s)) (hs : s.Succeeding) :
    pushResults (s.returns .produce) = [] ∧ (s.step .produce).Succeeding ∧
        (s.step .produce).producer.remaining + 1 = s.producer.remaining ∨
      pushResults (s.returns .produce) = [true] ∧ s.producer.remaining = 1 := by
  have hproducer := hinv.producer
  obtain ⟨queue, producer, consumer⟩ := s
  cases producer with
  | idle | refuse => exact hs.elim
  | start call => exact .inl ⟨rfl, hs, rfl⟩
  | test call head =>
      obtain rfl : head = queue.ring.headIdx := hproducer
      have hroom : ¬ nextIdx queue.ring.headIdx = queue.ring.tailIdx := by
        have hfull : queue.ring.isFull = false := hs
        rw [queue.isFull_eq] at hfull
        exact of_decide_eq_false hfull
      rw [returns, step, perform_test_of_room queue consumer call hroom]
      refine .inl ⟨rfl, trivial, ?_⟩
      simp [Producer.remaining, PushCall.length_cells]
  | write call head todo =>
      cases todo with
      | nil => exact .inl ⟨rfl, trivial, rfl⟩
      | cons cell todo => exact .inl ⟨rfl, trivial, Nat.add_right_comm todo.length 3 1⟩
  | measure => exact .inl ⟨rfl, trivial, rfl⟩
  | record => exact .inr ⟨rfl, rfl⟩

/-- There is one producer. -/
lemma perform_push_busy (hbusy : s.producer ≠ .idle) (data : List UInt8)
    (generation nowMs : UInt32) : s.perform (.push data generation nowMs) = ([], s) := by
  obtain ⟨queue, producer, consumer⟩ := s
  cases producer with
  | idle => exact (hbusy rfl).elim
  | start | test | refuse | write | measure | record => rfl

lemma pop_frame (s : SharedQueue) (out : RxPacket) :
    pushResults (s.returns (.pop out)) = [] ∧ (s.step (.pop out)).producer = s.producer ∧
      (s.step (.pop out)).queue = s.queue := by
  obtain ⟨queue, producer, consumer⟩ := s
  cases consumer with
  | idle | start | test | copy => exact ⟨rfl, rfl, rfl⟩

/-- What the consumer does to the other side: nothing, or it gives the oldest slot back. -/
lemma consume_cases (hinv : Inv (h, s)) :
    pushResults (s.returns .consume) = [] ∧ (s.step .consume).producer = s.producer ∧
      ((s.step .consume).queue = s.queue ∨ s.queue.ring.isEmpty = false ∧
        (s.step .consume).queue = { s.queue with ring := s.queue.ring.advance }) := by
  have hconsumer := hinv.consumer
  obtain ⟨queue, producer, consumer⟩ := s
  dsimp only at hconsumer
  cases consumer with
  | idle | start => exact ⟨rfl, rfl, .inl rfl⟩
  | test out tail =>
      by_cases hempty : tail = queue.ring.headIdx
      · rw [returns, step, perform_test_of_empty queue producer out hempty]
        exact ⟨rfl, rfl, .inl rfl⟩
      · rw [returns, step, perform_test_of_any queue producer out hempty]
        exact ⟨rfl, rfl, .inl rfl⟩
  | copy out tail todo =>
      obtain ⟨htail, hempty, -⟩ := hconsumer
      subst htail
      cases todo with
      | nil => exact ⟨rfl, rfl, .inr ⟨hempty, rfl⟩⟩
      | cons cell todo => exact ⟨rfl, rfl, .inl rfl⟩

lemma Succeeding.of_ring {t : SharedQueue} (hs : s.Succeeding) (hproducer : t.producer = s.producer)
    (hring : s.queue.ring.isFull = false → t.queue.ring.isFull = false) : t.Succeeding := by
  obtain ⟨queue, producer, consumer⟩ := s
  obtain ⟨queue', producer', consumer'⟩ := t
  obtain rfl : producer' = producer := hproducer
  cases producer' with
  | idle | refuse => exact hs.elim
  | start | test => exact hring hs
  | write | measure | record => trivial

lemma Succeeding.ne_idle (hs : s.Succeeding) : s.producer ≠ .idle := by
  intro hidle
  rw [Succeeding, hidle] at hs
  exact hs

/-- A push that has room keeps its room: the other side only makes more. -/
lemma Succeeding.foreign (hinv : Inv (h, s)) (hs : s.Succeeding) {op : SharedOp}
    (hop : op.isProduce = false) :
    pushResults (s.returns op) = [] ∧ (s.step op).Succeeding ∧
      (s.step op).producer = s.producer := by
  cases op with
  | produce => cases hop
  | push data generation nowMs =>
      rw [returns, step, perform_push_busy hs.ne_idle]
      exact ⟨rfl, hs, rfl⟩
  | pop out =>
      obtain ⟨hreturns, hproducer, hqueue⟩ := s.pop_frame out
      exact ⟨hreturns, hs.of_ring hproducer (by rw [hqueue]; exact id), hproducer⟩
  | consume =>
      obtain ⟨hreturns, hproducer, hqueue | ⟨hempty, hqueue⟩⟩ := consume_cases hinv
      · exact ⟨hreturns, hs.of_ring hproducer (by rw [hqueue]; exact id), hproducer⟩
      · refine ⟨hreturns, hs.of_ring hproducer fun _ => ?_, hproducer⟩
        rw [hqueue]
        exact s.queue.ring.isFull_advance hempty

/-- **A push that has room succeeds.** -/
lemma Succeeding.resultsOf (hinv : Inv (h, s)) (hs : s.Succeeding) (ops : List SharedOp) :
    s.resultsOf ops = [] ∧ ops.countP SharedOp.isProduce < s.producer.remaining ∨
      ∃ rest, s.resultsOf ops = true :: rest := by
  rw [SharedQueue.resultsOf, pushResults, Machine.filterMap_outputs]
  have hfirst := Machine.first_output_of_countdown step SharedOp.isProduce
    (fun s op => pushResults (s.returns op))
    (I := fun s => (∃ h, Inv (h, s)) ∧ s.Succeeding) (A := (· = true))
    (μ := fun s => s.producer.remaining) ?_ ?_ ?_ ⟨⟨h, hinv⟩, hs⟩ ops
  · exact hfirst.imp_right fun ⟨_, htrue, rest, hrest⟩ => ⟨rest, htrue ▸ hrest⟩
  · rintro ⟨queue, producer, consumer⟩ ⟨-, hs⟩
    cases producer with
    | idle | refuse => exact hs.elim
    | start | test | write | measure | record => simp [Producer.remaining]
  · rintro s op ⟨⟨h, hinv⟩, hs⟩ hop
    obtain rfl := SharedOp.eq_produce hop
    rcases hs.produce hinv with ⟨hreturns, hs', hremaining⟩ | ⟨hreturns, -⟩
    · exact .inl ⟨hreturns, ⟨⟨_, hinv.step .produce⟩, hs'⟩, hremaining⟩
    · exact .inr ⟨true, rfl, hreturns⟩
  · rintro s op ⟨⟨h, hinv⟩, hs⟩ hop
    obtain ⟨hreturns, hs', hproducer⟩ := hs.foreign hinv hop
    exact ⟨hreturns, ⟨⟨_, hinv.step op⟩, hs'⟩, by rw [hproducer]⟩

lemma Succeeding.takes (hinv : Inv (h, s)) (hs : s.Succeeding) : s.Takes s.producer.remaining := by
  intro ops
  rcases hs.resultsOf hinv ops with ⟨hnone, hcount⟩ | ⟨rest, htrue⟩
  · rw [hnone]
    exact ⟨by simp, fun h => absurd hcount (Nat.not_lt.mpr h)⟩
  · rw [htrue]
    exact ⟨by simp, fun _ => rfl⟩

lemma Takes.mono {m n : ℕ} (hs : s.Takes m) (hmn : m ≤ n) : s.Takes n :=
  fun ops => ⟨(hs ops).1, fun hn => (hs ops).2 (Nat.le_trans hmn hn)⟩

end Success

/-! ### A push that is refused -/

section Refusal

variable {h : HandOverHistory} {s : SharedQueue}

/-- The push under way, if there is one, has not come to write. -/
def Unwritten : Producer → Prop
  | .idle | .start _ | .test _ _ | .refuse _ => True
  | .write _ _ _ | .measure _ _ | .record _ _ => False

/-- The producer touches no packet and no index until it has found room; then it succeeds. -/
lemma unwritten_produce (hs : Unwritten s.producer) :
    (s.step .produce).queue.ring = s.queue.ring ∧
      (Unwritten (s.step .produce).producer ∨
        pushResults (s.returns .produce) = [] ∧ (s.step .produce).Succeeding) := by
  obtain ⟨queue, producer, consumer⟩ := s
  cases producer with
  | idle | start | refuse => exact ⟨rfl, .inl trivial⟩
  | test call head =>
      by_cases hfull : nextIdx head = queue.ring.tailIdx
      · rw [step, perform_test_of_full queue consumer call hfull]
        exact ⟨rfl, .inl trivial⟩
      · rw [returns, step, perform_test_of_room queue consumer call hfull]
        exact ⟨rfl, .inr ⟨rfl, trivial⟩⟩
  | write | measure | record => exact hs.elim

/-- A step that is not the consumer's touches none while no room has been found. -/
lemma unwritten_step (hinv : Inv (h, s)) (hs : Unwritten s.producer) (op : SharedOp) :
    (op ≠ .consume → (s.step op).queue.ring = s.queue.ring) ∧
      (Unwritten (s.step op).producer ∨
        pushResults (s.returns op) = [] ∧ (s.step op).Succeeding) := by
  cases op with
  | produce => exact ⟨fun _ => (unwritten_produce hs).1, (unwritten_produce hs).2⟩
  | push data generation nowMs =>
      by_cases hidle : s.producer = .idle
      · obtain ⟨queue, producer, consumer⟩ := s
        obtain rfl : producer = .idle := hidle
        rw [step, perform, SharedQueue.beginPush]
        dsimp only
        split_ifs <;> exact ⟨fun _ => rfl, .inl trivial⟩
      · rw [step, perform_push_busy hidle]
        exact ⟨fun _ => rfl, .inl hs⟩
  | pop out =>
      obtain ⟨-, hproducer, hqueue⟩ := s.pop_frame out
      rw [hproducer, hqueue]
      exact ⟨fun _ => rfl, .inl hs⟩
  | consume =>
      obtain ⟨-, hproducer, -⟩ := consume_cases hinv
      rw [hproducer]
      exact ⟨fun hne => (hne rfl).elim, .inl hs⟩

/-- **A push that is refused** has changed no packet and no index. -/
lemma ring_of_refused (hinv : Inv (h, s)) (hs : Unwritten s.producer) {ops : List SharedOp}
    {last : SharedOp} (hnone : s.resultsOf ops = [])
    (hlast : pushResults ((Machine.exec step s ops).returns last) = [false]) :
    Machine.AllSteps step (fun s op => op ≠ .consume → (s.step op).queue.ring = s.queue.ring) s
      (ops ++ [last]) := by
  induction ops generalizing h s with
  | nil => exact ⟨(unwritten_step hinv hs last).1, trivial⟩
  | cons op ops ih =>
      rw [resultsOf_cons, List.append_eq_nil_iff] at hnone
      obtain ⟨hring, hs' | ⟨-, hs'⟩⟩ := unwritten_step hinv hs op
      · exact ⟨hring, ih (hinv.step op) hs' hnone.2 hlast⟩
      · have hresults : (s.step op).resultsOf (ops ++ [last]) = [false] := by
          rw [resultsOf_append, hnone.2, resultsOf_cons, resultsOf_nil, List.append_nil]
          exact hlast
        rcases hs'.resultsOf (hinv.step op) (ops ++ [last]) with ⟨hnil, -⟩ | ⟨rest, htrue⟩
        · rw [hresults] at hnil
          cases hnil
        · rw [hresults] at htrue
          cases htrue

end Refusal

end SharedQueue

/-! ### A pop -/

/-- The accesses that a call of `pop` still needs at most. -/
def Consumer.remaining : Consumer → ℕ
  | .idle => 0
  | .start _ => rxSlotBytes + 6
  | .test _ _ => rxSlotBytes + 5
  | .copy _ _ todo => todo.length + 1

lemma Consumer.remaining_pos {c : Consumer} (hbusy : c ≠ .idle) : 0 < c.remaining := by
  cases c with
  | idle => exact (hbusy rfl).elim
  | start | test | copy => simp [Consumer.remaining]

/-- A step of the consumer. -/
def SharedOp.isConsume : SharedOp → Bool
  | .consume => true
  | .push .. | .produce | .pop _ => false

lemma SharedOp.eq_consume {op : SharedOp} (h : op.isConsume = true) : op = .consume := by
  cases op with
  | consume => rfl
  | push | pop | produce => cases h

namespace SharedQueue

/-- What `pop` returns in the steps of a run. -/
def popsOf (s : SharedQueue) (ops : List SharedOp) : List (Option RxPacket) :=
  popResults (Machine.outputs step returns s ops)

/-- The pop under way returns this packet, whatever the steps are, when `n` of them are its own. -/
def Gives (s : SharedQueue) (pkt : RxPacket) (n : ℕ) : Prop :=
  ∀ ops : List SharedOp, (∀ r ∈ (s.popsOf ops).head?, r = some pkt) ∧
    (n ≤ ops.countP SharedOp.isConsume → (s.popsOf ops).head? = some (some pkt))

/-- The pop under way will find this packet at the tail, or has found it. -/
structure Giving (pkt : RxPacket) (s : SharedQueue) : Prop where
  busy : s.consumer ≠ .idle
  any : s.queue.ring.isEmpty = false
  oldest : s.queue.ring.tailSlot = pkt

section Pops

variable {h : HandOverHistory} {s : SharedQueue} {pkt : RxPacket}

/-- There is one consumer. -/
lemma perform_pop_busy (hbusy : s.consumer ≠ .idle) (out : RxPacket) :
    s.perform (.pop out) = ([], s) := by
  obtain ⟨queue, producer, consumer⟩ := s
  cases consumer with
  | idle => exact (hbusy rfl).elim
  | start | test | copy => rfl

/-- What the other side does to the consumer: nothing to the pop, and nothing to the slot at the
tail of a ring that is not empty. -/
lemma produce_cases (hinv : Inv (h, s)) :
    popResults (s.returns .produce) = [] ∧ (s.step .produce).consumer = s.consumer ∧
      (s.queue.ring.isEmpty = false → (s.step .produce).queue.ring.isEmpty = false ∧
        (s.step .produce).queue.ring.tailSlot = s.queue.ring.tailSlot) := by
  have hproducer := hinv.producer
  obtain ⟨queue, producer, consumer⟩ := s
  dsimp only at hproducer
  cases producer with
  | idle | start | refuse | measure | record => exact ⟨rfl, rfl, fun hany => ⟨hany, rfl⟩⟩
  | test call head =>
      by_cases hfull : nextIdx head = queue.ring.tailIdx
      · rw [returns, step, perform_test_of_full queue consumer call hfull]
        exact ⟨rfl, rfl, fun hany => ⟨hany, rfl⟩⟩
      · rw [returns, step, perform_test_of_room queue consumer call hfull]
        exact ⟨rfl, rfl, fun hany => ⟨hany, rfl⟩⟩
  | write call head todo =>
      obtain ⟨hhead, hfull, -⟩ := hproducer
      subst hhead
      cases todo with
      | nil => exact ⟨rfl, rfl, fun _ => ⟨queue.ring.isEmpty_setHead hfull, rfl⟩⟩
      | cons cell todo =>
          exact ⟨rfl, rfl, fun hany => ⟨hany, queue.ring.tailSlot_setSlot_head _ hany⟩⟩

lemma push_frame (s : SharedQueue) (data : List UInt8) (generation nowMs : UInt32) :
    popResults (s.returns (.push data generation nowMs)) = [] ∧
      (s.step (.push data generation nowMs)).consumer = s.consumer ∧
      (s.step (.push data generation nowMs)).queue = s.queue := by
  by_cases hidle : s.producer = .idle
  · obtain ⟨queue, producer, consumer⟩ := s
    obtain rfl : producer = .idle := hidle
    rw [returns, step, perform, SharedQueue.beginPush]
    dsimp only
    split_ifs <;> exact ⟨rfl, rfl, rfl⟩
  · rw [returns, step, perform_push_busy hidle]
    exact ⟨rfl, rfl, rfl⟩

/-- While a pop is under way, the steps that are not its own leave it and the slot at the tail
alone. -/
lemma pop_foreign (hinv : Inv (h, s)) (hbusy : s.consumer ≠ .idle) {op : SharedOp}
    (hop : op.isConsume = false) :
    popResults (s.returns op) = [] ∧ (s.step op).consumer = s.consumer ∧
      (s.queue.ring.isEmpty = false → (s.step op).queue.ring.isEmpty = false ∧
        (s.step op).queue.ring.tailSlot = s.queue.ring.tailSlot) := by
  cases op with
  | consume => cases hop
  | produce => exact produce_cases hinv
  | pop out =>
      rw [returns, step, perform_pop_busy hbusy]
      exact ⟨rfl, rfl, fun hany => ⟨hany, rfl⟩⟩
  | push data generation nowMs =>
      obtain ⟨hreturns, hconsumer, hqueue⟩ := s.push_frame data generation nowMs
      rw [hqueue]
      exact ⟨hreturns, hconsumer, fun hany => ⟨hany, rfl⟩⟩

/-- The consumer gets on with a pop: it needs an access less, or it returns none, from an empty
ring, or the packet at the tail. -/
lemma pop_own (hinv : Inv (h, s)) (hbusy : s.consumer ≠ .idle) :
    popResults (s.returns .consume) = [] ∧ (s.step .consume).consumer ≠ .idle ∧
        (s.step .consume).queue = s.queue ∧
        (s.step .consume).consumer.remaining + 1 = s.consumer.remaining ∨
      popResults (s.returns .consume) = [none] ∧ s.queue.ring.isEmpty = true ∨
      popResults (s.returns .consume) = [some s.queue.ring.tailSlot] := by
  have hconsumer := hinv.consumer
  obtain ⟨queue, producer, consumer⟩ := s
  dsimp only at hconsumer
  cases consumer with
  | idle => exact (hbusy rfl).elim
  | start out => exact .inl ⟨rfl, by simp [step, perform, SharedQueue.consume], rfl, rfl⟩
  | test out tail =>
      obtain rfl : tail = queue.ring.tailIdx := hconsumer
      by_cases hempty : queue.ring.tailIdx = queue.ring.headIdx
      · rw [returns, perform_test_of_empty queue producer out hempty]
        refine .inr (.inl ⟨rfl, ?_⟩)
        rw [queue.isEmpty_eq]
        exact decide_eq_true hempty
      · rw [returns, step, perform_test_of_any queue producer out hempty]
        exact .inl ⟨rfl, by simp, rfl, by simp [Consumer.remaining, RxCell.length_all]⟩
  | copy out tail todo =>
      obtain ⟨htail, hany, hcopy⟩ := hconsumer
      subst htail
      cases todo with
      | cons cell todo =>
          exact .inl ⟨rfl, by simp [step, perform, SharedQueue.consume], rfl, rfl⟩
      | nil =>
          obtain rfl : out = queue.ring.tailSlot := hcopy
          exact .inr (.inr rfl)

/-- **A pop that will find a packet returns it.** -/
lemma Giving.popsOf (hinv : Inv (h, s)) (hs : Giving pkt s) (ops : List SharedOp) :
    s.popsOf ops = [] ∧ ops.countP SharedOp.isConsume < s.consumer.remaining ∨
      ∃ rest, s.popsOf ops = some pkt :: rest := by
  rw [SharedQueue.popsOf, popResults, Machine.filterMap_outputs]
  have hfirst := Machine.first_output_of_countdown step SharedOp.isConsume
    (fun s op => popResults (s.returns op))
    (I := fun s => (∃ h, Inv (h, s)) ∧ Giving pkt s) (A := (· = some pkt))
    (μ := fun s => s.consumer.remaining) ?_ ?_ ?_ ⟨⟨h, hinv⟩, hs⟩ ops
  · exact hfirst.imp_right fun ⟨_, hsome, rest, hrest⟩ => ⟨rest, hsome ▸ hrest⟩
  · exact fun s hs => Consumer.remaining_pos hs.2.busy
  · rintro s op ⟨⟨h, hinv⟩, hs⟩ hop
    obtain rfl := SharedOp.eq_consume hop
    rcases pop_own hinv hs.busy with ⟨hnone, hbusy, hqueue, hless⟩ | ⟨-, hempty⟩ | hsome
    · exact .inl ⟨hnone, ⟨⟨_, hinv.step .consume⟩, hbusy, hqueue ▸ hs.any, hqueue ▸ hs.oldest⟩,
        hless⟩
    · rw [hs.any] at hempty
      cases hempty
    · exact .inr ⟨some pkt, rfl, hs.oldest ▸ hsome⟩
  · rintro s op ⟨⟨h, hinv⟩, hs⟩ hop
    obtain ⟨hnone, hconsumer, htail⟩ := pop_foreign hinv hs.busy hop
    obtain ⟨hany, hslot⟩ := htail hs.any
    exact ⟨hnone, ⟨⟨_, hinv.step op⟩, hconsumer ▸ hs.busy, hany, hslot.trans hs.oldest⟩,
      by rw [hconsumer]⟩

lemma Giving.gives (hinv : Inv (h, s)) (hs : Giving pkt s) : s.Gives pkt s.consumer.remaining := by
  intro ops
  rcases hs.popsOf hinv ops with ⟨hnone, hcount⟩ | ⟨rest, hsome⟩
  · rw [hnone]
    exact ⟨by simp, fun h => absurd hcount (Nat.not_lt.mpr h)⟩
  · rw [hsome]
    exact ⟨by simp, fun _ => rfl⟩

/-- **Every pop returns.** -/
lemma popsOf_ne_nil (hinv : Inv (h, s)) (hbusy : s.consumer ≠ .idle) {ops : List SharedOp}
    (hops : s.consumer.remaining ≤ ops.countP SharedOp.isConsume) : s.popsOf ops ≠ [] := by
  rw [SharedQueue.popsOf, popResults, Machine.filterMap_outputs]
  have hfirst := Machine.first_output_of_countdown step SharedOp.isConsume
    (fun s op => popResults (s.returns op))
    (I := fun s => (∃ h, Inv (h, s)) ∧ s.consumer ≠ .idle) (A := fun _ => True)
    (μ := fun s => s.consumer.remaining) ?_ ?_ ?_ ⟨⟨h, hinv⟩, hbusy⟩ ops
  · rcases hfirst with ⟨-, hless⟩ | ⟨_, -, rest, hsome⟩
    · exact absurd hless (Nat.not_lt.mpr hops)
    · intro hnil
      cases hsome.symm.trans hnil
  · exact fun s hs => Consumer.remaining_pos hs.2
  · rintro s op ⟨⟨h, hinv⟩, hbusy⟩ hop
    obtain rfl := SharedOp.eq_consume hop
    rcases pop_own hinv hbusy with ⟨hnone, hbusy', -, hless⟩ | ⟨hnone, -⟩ | hsome
    · exact .inl ⟨hnone, ⟨⟨_, hinv.step .consume⟩, hbusy'⟩, hless⟩
    · exact .inr ⟨_, trivial, hnone⟩
    · exact .inr ⟨_, trivial, hsome⟩
  · rintro s op ⟨⟨h, hinv⟩, hbusy⟩ hop
    obtain ⟨hnone, hconsumer, -⟩ := pop_foreign hinv hbusy hop
    exact ⟨hnone, ⟨⟨_, hinv.step op⟩, hconsumer ▸ hbusy⟩, by rw [hconsumer]⟩

/-- A pop returns none in the step in which it finds the ring empty. -/
lemma isEmpty_of_none (hinv : Inv (h, s)) {op : SharedOp}
    (hnone : none ∈ popResults (s.returns op)) : s.queue.ring.isEmpty = true := by
  by_cases hbusy : s.consumer = .idle
  · obtain ⟨queue, producer, consumer⟩ := s
    obtain rfl : consumer = .idle := hbusy
    cases op with
    | consume | pop => cases hnone
    | produce => rw [(produce_cases hinv).1] at hnone; cases hnone
    | push data generation nowMs =>
        rw [(push_frame _ data generation nowMs).1] at hnone
        cases hnone
  · by_cases hop : op.isConsume = true
    · obtain rfl := SharedOp.eq_consume hop
      rcases pop_own hinv hbusy with ⟨hreturns, -⟩ | ⟨-, hempty⟩ | hreturns
      · rw [hreturns] at hnone; cases hnone
      · exact hempty
      · rw [hreturns, List.mem_singleton] at hnone; cases hnone
    · rw [(pop_foreign hinv hbusy (Bool.eq_false_iff.mpr hop)).1] at hnone
      cases hnone

end Pops

/-! ### The main result -/

/-- What holds of the two sides at any moment. -/
structure HandsOver (h : HandOverHistory) (s : SharedQueue) : Prop where
  /-- The packets that `pop` has returned, and behind them those in the ring, are those that `push`
  has taken, the one of a push that has published its packet and not returned yet included. -/
  in_order : List.Forall₂ PushCall.Arrives (h.accepted ++ s.producer.inFlight)
    (h.returned ++ s.queue.toList)
  /-- That push will return `true`. -/
  in_flight : s.producer.inFlight ≠ [] → s.Takes 2
  /-- The slot that is written is not the one that is copied. -/
  apart : ∀ i j, s.producer.writing = some i → s.consumer.copying = some j → i ≠ j
  /-- A push that begins with room for its packet returns `true`. -/
  succeeds : ∀ (data : List UInt8) (generation nowMs : UInt32), s.producer = .idle →
    h.accepted.length < h.returned.length + (rxQueueSlots - 1) →
    1 ≤ data.length → data.length ≤ rxSlotBytes →
    (s.step (.push data generation nowMs)).Takes (data.length + 8)
  /-- From one return of a push to the next, if that is a refusal, all packets and both indices are
  changed by the consumer only. -/
  refusal : ∀ (ops : List SharedOp) (last : SharedOp), s.producer = .idle →
    s.resultsOf ops = [] → pushResults ((Machine.exec step s ops).returns last) = [false] →
    Machine.AllSteps step (fun s op => op ≠ .consume → (s.step op).queue.ring = s.queue.ring) s
      (ops ++ [last])
  /-- A pop that begins with a packet in the ring returns the oldest one, which is that of the
  first call whose packet has not been returned. -/
  oldest : ∀ (out : RxPacket) (call : PushCall), s.consumer = .idle →
    (h.accepted ++ s.producer.inFlight)[h.returned.length]? = some call →
    ∃ pkt, call.Arrives pkt ∧ (s.step (.pop out)).Gives pkt (rxSlotBytes + 6)
  /-- Every pop returns. -/
  answered : ∀ (out : RxPacket) (ops : List SharedOp), s.consumer = .idle →
    rxSlotBytes + 6 ≤ ops.countP SharedOp.isConsume → (s.step (.pop out)).popsOf ops ≠ []
  /-- When a pop returns none, the packets of all calls have been returned. -/
  none_found : ∀ op, none ∈ popResults (s.returns op) →
    h.returned.length = (h.accepted ++ s.producer.inFlight).length
  /-- A push that nothing interrupts does what `RxQueue.push` does in one step. -/
  push_whole : ∀ (data : List UInt8) (generation nowMs : UInt32), s.producer = .idle →
    s.resultsOf (pushAlone data generation nowMs) = [(s.queue.push data generation nowMs).1] ∧
      (Machine.exec step s (pushAlone data generation nowMs)).queue =
        (s.queue.push data generation nowMs).2
  /-- So does a pop. -/
  pop_whole : ∀ out : RxPacket, s.consumer = .idle →
    s.popsOf (popAlone out) = [s.queue.pop.1] ∧
      (Machine.exec step s (popAlone out)).queue = s.queue.pop.2

/-- A push begins with room when few enough packets are outstanding. -/
lemma Inv.isFull_of_outstanding {h : HandOverHistory} {s : SharedQueue} (hinv : Inv (h, s))
    (hidle : s.producer = .idle)
    (hroom : h.accepted.length < h.returned.length + (rxQueueSlots - 1)) :
    s.queue.ring.isFull = false := by
  have hlen := hinv.arrive.length_eq
  have hused := s.queue.ring.length_toList
  rw [hidle] at hlen
  simp only [Producer.inFlight, List.append_nil, List.length_append, RxQueue.toList] at hlen
  rw [Bool.eq_false_iff, Ne, RingBuffer.isFull_iff]
  omega

/-- A call that comes in with proper arguments is under way. -/
lemma step_push {s : SharedQueue} (hidle : s.producer = .idle) {data : List UInt8}
    (hpos : 1 ≤ data.length) (hfits : data.length ≤ rxSlotBytes) (generation nowMs : UInt32) :
    s.step (.push data generation nowMs) = { s with
      producer := .start ⟨data, generation, nowMs, by omega, hfits⟩ } := by
  obtain ⟨queue, producer, consumer⟩ := s
  obtain rfl : producer = .idle := hidle
  have hproper : ¬ (data.length = 0 ∨ rxSlotBytes < data.length) := by omega
  rw [step, perform, SharedQueue.beginPush]
  dsimp only
  rw [dif_neg hproper]

/-- A call that is in flight cannot fail any more. -/
lemma Inv.takes_of_inFlight {h : HandOverHistory} {s : SharedQueue} (hinv : Inv (h, s))
    (hflight : s.producer.inFlight ≠ []) : s.Takes 2 := by
  obtain ⟨queue, producer, consumer⟩ := s
  cases producer with
  | measure call next =>
      have hs : SharedQueue.Succeeding ⟨queue, .measure call next, consumer⟩ := trivial
      exact hs.takes hinv
  | record call depth =>
      have hs : SharedQueue.Succeeding ⟨queue, .record call depth, consumer⟩ := trivial
      exact (hs.takes hinv).mono (Nat.le_succ 1)
  | idle | start | test | refuse | write => exact (hflight rfl).elim

lemma Inv.succeeds {h : HandOverHistory} {s : SharedQueue} (hinv : Inv (h, s)) {data : List UInt8}
    (generation nowMs : UInt32) (hidle : s.producer = .idle)
    (hroom : h.accepted.length < h.returned.length + (rxQueueSlots - 1))
    (hpos : 1 ≤ data.length) (hfits : data.length ≤ rxSlotBytes) :
    (s.step (.push data generation nowMs)).Takes (data.length + 8) := by
  have hnext := hinv.step (.push data generation nowMs)
  have hstep := step_push hidle hpos hfits generation nowMs
  have hs : (s.step (.push data generation nowMs)).Succeeding := by
    rw [hstep]
    exact hinv.isFull_of_outstanding hidle hroom
  have htakes := hs.takes hnext
  rw [hstep] at htakes ⊢
  exact htakes

/-- The oldest packet in the ring is that of the first call whose packet has not been returned. -/
lemma Inv.tailSlot_arrives {h : HandOverHistory} {s : SharedQueue} (hinv : Inv (h, s))
    {call : PushCall}
    (hcall : (h.accepted ++ s.producer.inFlight)[h.returned.length]? = some call) :
    s.queue.ring.isEmpty = false ∧ call.Arrives s.queue.ring.tailSlot := by
  have hlen : (h.accepted ++ s.producer.inFlight).length =
      (h.returned ++ s.queue.toList).length := hinv.arrive.length_eq
  obtain ⟨hlt, hget⟩ := List.getElem?_eq_some_iff.mp hcall
  have hany : s.queue.ring.isEmpty = false := by
    rw [Bool.eq_false_iff, Ne, RingBuffer.isEmpty_iff_toList]
    intro hnil
    rw [hlen, List.length_append, RxQueue.toList, hnil, List.length_nil] at hlt
    omega
  have hslot : (h.returned ++ s.queue.toList)[h.returned.length]? =
      some s.queue.ring.tailSlot := by
    rw [RxQueue.toList, s.queue.ring.toList_eq_cons_advance hany]
    simp
  obtain ⟨hlt', hget'⟩ := List.getElem?_eq_some_iff.mp hslot
  have harrives := hinv.arrive.get hlt hlt'
  rw [List.get_eq_getElem, List.get_eq_getElem, hget, hget'] at harrives
  exact ⟨hany, harrives⟩

/-- A pop that comes in is under way. -/
lemma step_pop {s : SharedQueue} (hidle : s.consumer = .idle) (out : RxPacket) :
    s.step (.pop out) = { s with consumer := .start out } := by
  obtain ⟨queue, producer, consumer⟩ := s
  obtain rfl : consumer = .idle := hidle
  rfl

lemma Inv.oldest {h : HandOverHistory} {s : SharedQueue} (hinv : Inv (h, s)) (out : RxPacket)
    {call : PushCall} (hidle : s.consumer = .idle)
    (hcall : (h.accepted ++ s.producer.inFlight)[h.returned.length]? = some call) :
    ∃ pkt, call.Arrives pkt ∧ (s.step (.pop out)).Gives pkt (rxSlotBytes + 6) := by
  obtain ⟨hany, harrives⟩ := hinv.tailSlot_arrives hcall
  have hnext := hinv.step (.pop out)
  have hstep := step_pop hidle out
  have hgiving : Giving s.queue.ring.tailSlot (s.step (.pop out)) := by
    rw [hstep]
    exact ⟨by simp, hany, rfl⟩
  have hgives := hgiving.gives hnext
  rw [hstep] at hgives ⊢
  exact ⟨_, harrives, hgives⟩

lemma Inv.answered {h : HandOverHistory} {s : SharedQueue} (hinv : Inv (h, s)) (out : RxPacket)
    {ops : List SharedOp} (hidle : s.consumer = .idle)
    (hops : rxSlotBytes + 6 ≤ ops.countP SharedOp.isConsume) :
    (s.step (.pop out)).popsOf ops ≠ [] := by
  have hnext := hinv.step (.pop out)
  have hstep := step_pop hidle out
  refine popsOf_ne_nil hnext ?_ ?_
  · simp [hstep]
  · simpa [Machine.monitored, hstep, Consumer.remaining] using hops

lemma Inv.none_found {h : HandOverHistory} {s : SharedQueue} (hinv : Inv (h, s)) {op : SharedOp}
    (hnone : none ∈ popResults (s.returns op)) :
    h.returned.length = (h.accepted ++ s.producer.inFlight).length := by
  have hlen := hinv.arrive.length_eq
  have hempty := (RingBuffer.isEmpty_iff_toList _).mp (isEmpty_of_none hinv hnone)
  rw [hlen, List.length_append, RxQueue.toList, hempty, List.length_nil, Nat.add_zero]

lemma push_whole {s : SharedQueue} (hidle : s.producer = .idle) (data : List UInt8)
    (generation nowMs : UInt32) :
    s.resultsOf (pushAlone data generation nowMs) = [(s.queue.push data generation nowMs).1] ∧
      (Machine.exec step s (pushAlone data generation nowMs)).queue =
        (s.queue.push data generation nowMs).2 := by
  obtain ⟨queue, producer, consumer⟩ := s
  obtain rfl : producer = .idle := hidle
  obtain ⟨fx, hrun, hfx⟩ := push_alone queue consumer data generation nowMs
  rw [resultsOf, hrun.outputs_eq, hrun.exec_eq]
  exact ⟨hfx, rfl⟩

lemma pop_whole {s : SharedQueue} (hidle : s.consumer = .idle) (out : RxPacket) :
    s.popsOf (popAlone out) = [s.queue.pop.1] ∧
      (Machine.exec step s (popAlone out)).queue = s.queue.pop.2 := by
  obtain ⟨queue, producer, consumer⟩ := s
  obtain rfl : consumer = .idle := hidle
  have hrun := pop_alone queue producer out
  rw [popsOf, hrun.outputs_eq, hrun.exec_eq]
  exact ⟨rfl, rfl⟩

/-- **Every interleaving hands the packets over exactly once.** -/
theorem handover_exactly_once (ops : List SharedOp) :
    let s := Machine.exec (Machine.monitored step watchHandOver) ({}, {}) ops
    HandsOver s.1 s.2 := by
  intro s
  have hinv : Inv (s.1, s.2) := inv_exec ops
  exact {
    in_order := hinv.arrive
    in_flight := hinv.takes_of_inFlight
    apart := fun i j => writing_ne_copying hinv.producer hinv.consumer
    succeeds := fun data generation nowMs => hinv.succeeds generation nowMs
    refusal := fun ops last hidle => ring_of_refused hinv (by rw [hidle]; trivial)
    oldest := fun out call => hinv.oldest out
    answered := fun out ops => hinv.answered out
    none_found := fun op => hinv.none_found
    push_whole := fun data generation nowMs hidle => push_whole hidle data generation nowMs
    pop_whole := fun out hidle => pop_whole hidle out }

/-- A `pop` that comes while a packet is being written finds nothing, and one that comes when the
head has moved finds the packet, before `push` has returned. -/
example :
    let write := [.push [7, 8, 9] 1 0] ++ List.replicate 5 .produce
    let publish := List.replicate 4 .produce
    let pop := SharedQueue.popAlone {}
    let packets := fun ops : List SharedOp => (returnedPackets
      (Machine.outputs step returns {} ops)).map RxPacket.bytes
    packets (write ++ pop) = [] ∧ packets (write ++ pop ++ publish ++ pop) = [[7, 8, 9]] := by
  decide +kernel

end SharedQueue

end OpenDisplay
