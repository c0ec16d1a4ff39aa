import OpenDisplay.Transport.Queues
import OpenDisplay.Lib.Machine

/-!
# The receive ring, shared

`RxQueue::push` runs in the BLE callback and `RxQueue::pop` in `loop()`, and either can be
suspended between any two of its accesses to the queue.  Here each read or write of `head_`, of
`tail_`, and of a cell of a slot is a step of its own, and a run is any interleaving of the steps
of one producer and one consumer.

A call that nothing interrupts comes to what `RxQueue.push` and `RxQueue.pop` do in one step
(`push_alone`, `pop_alone`).
-/

namespace OpenDisplay

/-! ### Cells -/

/-- What of a slot is read or written in one step. -/
inductive RxCell
  | generation
  | length
  | arrival
  | byte (i : Fin rxSlotBytes)
deriving DecidableEq

namespace RxPacket

/-- The slot after a cell of it has been copied from `src`. -/
def put (dst src : RxPacket) : RxCell → RxPacket
  | .generation => { dst with connectionGeneration := src.connectionGeneration }
  | .length => { dst with payloadLength := src.payloadLength, length_le := src.length_le }
  | .arrival => { dst with arrivalMs := src.arrivalMs }
  | .byte i => { dst with payload := dst.payload.set i src.payload[i] }

/-- The slot after some cells have been copied, one after another. -/
def putAll (dst src : RxPacket) (cells : List RxCell) : RxPacket :=
  cells.foldl (fun dst cell => dst.put src cell) dst

@[simp] lemma putAll_nil (dst src : RxPacket) : dst.putAll src [] = dst := rfl

@[simp] lemma putAll_cons (dst src : RxPacket) (cell : RxCell) (cells : List RxCell) :
    dst.putAll src (cell :: cells) = (dst.put src cell).putAll src cells := rfl

lemma putAll_append (dst src : RxPacket) (cells more : List RxCell) :
    dst.putAll src (cells ++ more) = (dst.putAll src cells).putAll src more := List.foldl_append

/-- Bytes are copied where they are named. -/
lemma payload_putAll_bytes (dst src : RxPacket) (is : List (Fin rxSlotBytes))
    (j : Fin rxSlotBytes) :
    (dst.putAll src (is.map .byte)).payload[j] =
      if j ∈ is then src.payload[j] else dst.payload[j] := by
  induction is generalizing dst with
  | nil => simp
  | cons i is ih =>
      rw [List.map_cons, putAll_cons, ih]
      by_cases hij : i = j
      · subst hij
        simp [put]
      · have hne : (i : ℕ) ≠ j := fun h => hij (Fin.ext h)
        simp [put, hne, Ne.symm hij]

/-- Copying bytes leaves the other cells alone. -/
lemma putAll_bytes (dst src : RxPacket) (is : List (Fin rxSlotBytes)) :
    dst.putAll src (is.map .byte) =
      { dst with payload := (dst.putAll src (is.map .byte)).payload } := by
  induction is generalizing dst with
  | nil => rfl
  | cons i is ih =>
      rw [List.map_cons, putAll_cons, ih]
      rfl

end RxPacket

/-- All cells of a slot. -/
def RxCell.all : List RxCell :=
  [.generation, .length, .arrival] ++ (List.finRange rxSlotBytes).map .byte

/-- Copying all cells copies the slot. -/
lemma RxPacket.putAll_all (dst src : RxPacket) : dst.putAll src RxCell.all = src := by
  rw [RxCell.all, putAll_append, putAll_bytes]
  have hpayload : ∀ dst : RxPacket,
      (dst.putAll src ((List.finRange rxSlotBytes).map .byte)).payload = src.payload := by
    intro dst
    apply Vector.ext
    intro i hi
    have h := payload_putAll_bytes dst src (List.finRange rxSlotBytes) ⟨i, hi⟩
    simpa using h
  rw [hpayload]
  rfl

lemma RxCell.length_all : RxCell.all.length = rxSlotBytes + 3 := by
  simp only [all, List.length_append, List.length_map, List.length_finRange, List.length_cons,
    List.length_nil]
  omega

/-! ### The two sides -/

/-- A call of `push` that has passed the test of its arguments. -/
structure PushCall where
  data : List UInt8
  generation : UInt32
  nowMs : UInt32
  nonempty : data.length ≠ 0
  fits : data.length ≤ rxSlotBytes
deriving DecidableEq

section Arguments

variable {data : List UInt8} (h : ¬ (data.length = 0 ∨ rxSlotBytes < data.length))

include h

lemma ne_zero_of_proper : data.length ≠ 0 := fun hzero => h (.inl hzero)

lemma le_of_proper : data.length ≤ rxSlotBytes := Nat.le_of_not_lt fun hlt => h (.inr hlt)

end Arguments

namespace PushCall

/-- The packet of the call, in a fresh slot. -/
def packet (call : PushCall) : RxPacket :=
  RxPacket.fresh.fill call.data call.generation call.nowMs call.fits

/-- The cells that the call writes, in their order. -/
def cells (call : PushCall) : List RxCell :=
  [.generation, .length, .arrival] ++
    ((List.finRange rxSlotBytes).take call.data.length).map .byte

end PushCall

lemma PushCall.length_cells (call : PushCall) : call.cells.length = call.data.length + 3 := by
  have hfits := call.fits
  simp only [cells, List.length_append, List.length_map, List.length_take, List.length_finRange,
    List.length_cons, List.length_nil]
  omega

open RingBuffer (nextIdx)

/-- Where `push` is. -/
inductive Producer
  | idle
  /-- before `head_` is read -/
  | start (call : PushCall)
  /-- before `tail_` is read, to test for a full ring -/
  | test (call : PushCall) (head : Fin rxQueueSlots)
  /-- before the overflow is counted -/
  | refuse (call : PushCall)
  /-- before the next cell of the slot is written, and `head_` when there is none left -/
  | write (call : PushCall) (head : Fin rxQueueSlots) (todo : List RxCell)
  /-- before `tail_` is read again, for the depth -/
  | measure (call : PushCall) (next : Fin rxQueueSlots)
  /-- before the high-water mark is raised -/
  | record (call : PushCall) (depth : ℕ)

/-- Where `pop` is; `out` is where it copies the packet to. -/
inductive Consumer
  | idle
  /-- before `tail_` is read -/
  | start (out : RxPacket)
  /-- before `head_` is read, to test for an empty ring -/
  | test (out : RxPacket) (tail : Fin rxQueueSlots)
  /-- before the next cell of the slot is read, and `tail_` is written when there is none left -/
  | copy (out : RxPacket) (tail : Fin rxQueueSlots) (todo : List RxCell)

/-- The queue between its two users. -/
structure SharedQueue where
  queue : RxQueue := .init
  producer : Producer := .idle
  consumer : Consumer := .idle

/-- The calls that return. -/
inductive HandOver
  /-- `push` has returned `false` for its arguments -/
  | rejected
  | pushed (call : PushCall) (taken : Bool)
  /-- `pop` has returned `true` with a packet, or `false` -/
  | popped (pkt : Option RxPacket)

/-- A step: a call that comes in, or the next access of a call under way. -/
inductive SharedOp
  | push (data : List UInt8) (generation nowMs : UInt32)
  | produce
  | pop (out : RxPacket)
  | consume

namespace SharedQueue

/-- `push` comes in.  There is one producer, so a call under way excludes another one. -/
def beginPush (s : SharedQueue) (data : List UInt8) (generation nowMs : UInt32) :
    List HandOver × SharedQueue :=
  match s.producer with
  | .idle =>
      if h : data.length = 0 ∨ rxSlotBytes < data.length then ([.rejected], s)
      else
        ([], { s with
          producer := .start ⟨data, generation, nowMs, ne_zero_of_proper h, le_of_proper h⟩ })
  | _ => ([], s)

/-- The next access of `push`. -/
def produce (s : SharedQueue) : List HandOver × SharedQueue :=
  match s.producer with
  | .idle => ([], s)
  | .start call => ([], { s with producer := .test call s.queue.ring.headIdx })
  | .test call head =>
      if nextIdx head = s.queue.ring.tailIdx then ([], { s with producer := .refuse call })
      else ([], { s with producer := .write call head call.cells })
  | .refuse call =>
      ([.pushed call false],
        { s with queue.overflows := s.queue.overflows + 1, producer := .idle })
  | .write call head (cell :: todo) =>
      let slot := (s.queue.ring.get head).put call.packet cell
      ([], { s with
        queue.ring := s.queue.ring.setSlot head slot
        producer := .write call head todo })
  | .write call head [] =>
      ([], { s with
        queue.ring := s.queue.ring.setHead (nextIdx head)
        producer := .measure call (nextIdx head) })
  | .measure call next =>
      let depth := (next + rxQueueSlots - s.queue.ring.tail) % rxQueueSlots
      ([], { s with producer := .record call depth })
  | .record call depth =>
      ([.pushed call true],
        { s with queue.highWater := max s.queue.highWater depth, producer := .idle })

/-- `pop` comes in. -/
def beginPop (s : SharedQueue) (out : RxPacket) : List HandOver × SharedQueue :=
  match s.consumer with
  | .idle => ([], { s with consumer := .start out })
  | _ => ([], s)

/-- The next access of `pop`. -/
def consume (s : SharedQueue) : List HandOver × SharedQueue :=
  match s.consumer with
  | .idle => ([], s)
  | .start out => ([], { s with consumer := .test out s.queue.ring.tailIdx })
  | .test out tail =>
      if tail = s.queue.ring.headIdx then ([.popped none], { s with consumer := .idle })
      else ([], { s with consumer := .copy out tail RxCell.all })
  | .copy out tail (cell :: todo) =>
      ([], { s with consumer := .copy (out.put (s.queue.ring.get tail) cell) tail todo })
  | .copy out tail [] =>
      ([.popped (some out)],
        { s with queue.ring := s.queue.ring.setTail (nextIdx tail), consumer := .idle })

/-- One step: the calls that return in it, and what is left. -/
def perform (s : SharedQueue) : SharedOp → List HandOver × SharedQueue
  | .push data generation nowMs => s.beginPush data generation nowMs
  | .produce => s.produce
  | .pop out => s.beginPop out
  | .consume => s.consume

/-- The calls that return in a step. -/
def returns (s : SharedQueue) (op : SharedOp) : List HandOver := (s.perform op).1

def step (s : SharedQueue) (op : SharedOp) : SharedQueue := (s.perform op).2

end SharedQueue

/-! ### What a call writes -/

/-- The packet is what the call was given. -/
structure PushCall.Arrives (call : PushCall) (pkt : RxPacket) : Prop where
  generation_eq : pkt.connectionGeneration = call.generation
  length_eq : pkt.payloadLength.toNat = call.data.length
  arrival_eq : pkt.arrivalMs = call.nowMs
  bytes_eq : pkt.bytes = call.data

lemma RxPacket.getElem_fill (slot : RxPacket) (data : List UInt8) (generation nowMs : UInt32)
    (h : data.length ≤ rxSlotBytes) (j : Fin rxSlotBytes) :
    (slot.fill data generation nowMs h).payload[j] =
      if hj : j < data.length then data.get ⟨j, hj⟩ else slot.payload[j] := by
  have hlen : slot.payload.toList.length = rxSlotBytes := Vector.length_toList
  simp only [fill, Fin.getElem_fin, Vector.getElem_mk, List.getElem_toArray]
  split_ifs with hj
  · rw [List.getElem_append_left hj]
    rfl
  · rw [List.getElem_append_right (by omega), List.getElem_drop, Vector.getElem_toList]
    congr 1
    omega

/-- Writing the cells of a call over a slot is copying the packet into it. -/
lemma PushCall.putAll_cells (call : PushCall) (slot : RxPacket) :
    slot.putAll call.packet call.cells =
      slot.fill call.data call.generation call.nowMs call.fits := by
  have hmem : ∀ j : Fin rxSlotBytes,
      j ∈ (List.finRange rxSlotBytes).take call.data.length ↔ (j : ℕ) < call.data.length := by
    intro j
    rw [List.mem_take_iff_getElem]
    constructor
    · rintro ⟨i, hi, rfl⟩
      simpa using Nat.lt_of_lt_of_le hi (Nat.min_le_left _ _)
    · exact fun hj => ⟨j, by simp [hj], by simp⟩
  rw [cells, RxPacket.putAll_append, RxPacket.putAll_bytes]
  have hpayload : ∀ dst : RxPacket, dst.payload = slot.payload →
      (dst.putAll call.packet
        (((List.finRange rxSlotBytes).take call.data.length).map .byte)).payload =
      (slot.fill call.data call.generation call.nowMs call.fits).payload := by
    intro dst hdst
    apply Vector.ext
    intro i hi
    have hleft := RxPacket.payload_putAll_bytes dst call.packet
      ((List.finRange rxSlotBytes).take call.data.length) ⟨i, hi⟩
    have hright := slot.getElem_fill call.data call.generation call.nowMs call.fits ⟨i, hi⟩
    have hpacket :=
      RxPacket.fresh.getElem_fill call.data call.generation call.nowMs call.fits ⟨i, hi⟩
    rw [← packet] at hpacket
    simp only [hmem, Fin.getElem_fin] at hleft hright hpacket
    rw [hleft, hright, hpacket, hdst]
    split_ifs <;> rfl
  rw [hpayload (slot.putAll call.packet [.generation, .length, .arrival]) rfl]
  rfl

/-- It arrives. -/
lemma PushCall.arrives_fill (call : PushCall) (slot : RxPacket) :
    call.Arrives (slot.fill call.data call.generation call.nowMs call.fits) where
  generation_eq := rfl
  length_eq := by
    have hfits := call.fits
    rw [RxPacket.fill, UInt16.toNat_ofNat']
    exact Nat.mod_eq_of_lt (Nat.lt_of_le_of_lt hfits (by decide))
  arrival_eq := rfl
  bytes_eq := RxPacket.bytes_fill ..

/-! ### What the calls return -/

/-- The calls of `push` that return `true`. -/
def acceptedCalls (fx : List HandOver) : List PushCall :=
  fx.filterMap fun
    | .pushed call true => some call
    | _ => none

/-- The packets that `pop` returns. -/
def returnedPackets (fx : List HandOver) : List RxPacket :=
  fx.filterMap fun
    | .popped pkt => pkt
    | _ => none

/-- What `push` returns. -/
def pushResults (fx : List HandOver) : List Bool :=
  fx.filterMap fun
    | .rejected => some false
    | .pushed _ taken => some taken
    | .popped _ => none

/-- What `pop` returns. -/
def popResults (fx : List HandOver) : List (Option RxPacket) :=
  fx.filterMap fun
    | .popped pkt => some pkt
    | _ => none

/-- What the test for a full ring says. -/
lemma RxQueue.isFull_eq (queue : RxQueue) :
    queue.ring.isFull = decide (nextIdx queue.ring.headIdx = queue.ring.tailIdx) := by
  rw [RingBuffer.isFull, Bool.eq_iff_iff, beq_iff_eq, decide_eq_true_iff, ← Fin.val_inj]
  rfl

/-- What the test for an empty one says. -/
lemma RxQueue.isEmpty_eq (queue : RxQueue) :
    queue.ring.isEmpty = decide (queue.ring.tailIdx = queue.ring.headIdx) := by
  rw [RingBuffer.isEmpty, Bool.eq_iff_iff, beq_iff_eq, decide_eq_true_iff, ← Fin.val_inj]
  rfl

namespace SharedQueue

/-! ### The two tests -/

section Tests

variable (queue : RxQueue)

lemma perform_test_of_full (consumer : Consumer) (call : PushCall) {head : Fin rxQueueSlots}
    (hfull : nextIdx head = queue.ring.tailIdx) :
    (SharedQueue.mk queue (.test call head) consumer).perform .produce =
      ([], ⟨queue, .refuse call, consumer⟩) := if_pos hfull

lemma perform_test_of_room (consumer : Consumer) (call : PushCall) {head : Fin rxQueueSlots}
    (hroom : ¬ nextIdx head = queue.ring.tailIdx) :
    (SharedQueue.mk queue (.test call head) consumer).perform .produce =
      ([], ⟨queue, .write call head call.cells, consumer⟩) := if_neg hroom

lemma perform_test_of_empty (producer : Producer) (out : RxPacket) {tail : Fin rxQueueSlots}
    (hempty : tail = queue.ring.headIdx) :
    (SharedQueue.mk queue producer (.test out tail)).perform .consume =
      ([.popped none], ⟨queue, producer, .idle⟩) := if_pos hempty

lemma perform_test_of_any (producer : Producer) (out : RxPacket) {tail : Fin rxQueueSlots}
    (hany : ¬ tail = queue.ring.headIdx) :
    (SharedQueue.mk queue producer (.test out tail)).perform .consume =
      ([], ⟨queue, producer, .copy out tail RxCell.all⟩) := if_neg hany

end Tests

/-! ### Calls without an interruption -/

/-- The steps of a `push` that nothing interrupts. -/
def pushAlone (data : List UInt8) (generation nowMs : UInt32) : List SharedOp :=
  .push data generation nowMs :: List.replicate (data.length + 8) .produce

/-- The steps of a `pop` that nothing interrupts. -/
def popAlone (out : RxPacket) : List SharedOp :=
  .pop out :: List.replicate (rxSlotBytes + 6) .consume

section Alone

variable (queue : RxQueue) (producer : Producer) (consumer : Consumer)

/-- A side that has nothing to do does nothing. -/
lemma run_idle_producer (n : ℕ) :
    Machine.Run step returns ⟨queue, .idle, consumer⟩ (List.replicate n .produce) []
      ⟨queue, .idle, consumer⟩ := by
  induction n with
  | zero => exact .nil _
  | succ n ih => exact .silent rfl rfl ih

lemma run_idle_consumer (n : ℕ) :
    Machine.Run step returns ⟨queue, producer, .idle⟩ (List.replicate n .consume) []
      ⟨queue, producer, .idle⟩ := by
  induction n with
  | zero => exact .nil _
  | succ n ih => exact .silent rfl rfl ih

/-- The cells of a packet are written one after another. -/
lemma run_write (call : PushCall) (head : Fin rxQueueSlots) (todo : List RxCell) :
    Machine.Run step returns ⟨queue, .write call head todo, consumer⟩
      (List.replicate todo.length .produce) []
      ⟨{ queue with ring :=
          queue.ring.setSlot head ((queue.ring.get head).putAll call.packet todo) },
        .write call head [], consumer⟩ := by
  induction todo generalizing queue with
  | nil =>
      rw [RxPacket.putAll_nil, RingBuffer.setSlot_get]
      exact .nil _
  | cons cell todo ih =>
      have hrest := ih { queue with
        ring := queue.ring.setSlot head ((queue.ring.get head).put call.packet cell) }
      rw [RingBuffer.get_setSlot, RingBuffer.setSlot_setSlot] at hrest
      exact .silent rfl rfl hrest

/-- The cells of a slot are copied one after another. -/
lemma run_copy (out : RxPacket) (tail : Fin rxQueueSlots) (todo : List RxCell) :
    Machine.Run step returns ⟨queue, producer, .copy out tail todo⟩
      (List.replicate todo.length .consume) []
      ⟨queue, producer, .copy (out.putAll (queue.ring.get tail) todo) tail []⟩ := by
  induction todo generalizing out with
  | nil => exact .nil _
  | cons cell todo ih => exact .silent rfl rfl (ih _)

/-- **`push` alone.**  Its accesses come to what `RxQueue.push` does. -/
theorem push_alone (data : List UInt8) (generation nowMs : UInt32) :
    ∃ fx, Machine.Run step returns ⟨queue, .idle, consumer⟩ (pushAlone data generation nowMs)
        fx ⟨(queue.push data generation nowMs).2, .idle, consumer⟩ ∧
      pushResults fx = [(queue.push data generation nowMs).1] := by
  rw [RxQueue.push]
  by_cases harg : data.length = 0 ∨ rxSlotBytes < data.length
  · rw [dif_pos harg]
    have hbegin : (SharedQueue.mk queue .idle consumer).perform (.push data generation nowMs) =
        ([.rejected], ⟨queue, .idle, consumer⟩) := dif_pos harg
    exact ⟨_, .cons (congrArg Prod.fst hbegin) (congrArg Prod.snd hbegin)
      (run_idle_producer queue consumer _), rfl⟩
  · rw [dif_neg harg]
    set call : PushCall := ⟨data, generation, nowMs, by omega, by omega⟩ with hcall
    have hbegin : (SharedQueue.mk queue .idle consumer).perform (.push data generation nowMs) =
        ([], ⟨queue, .start call, consumer⟩) := dif_neg harg
    by_cases hfull : nextIdx queue.ring.headIdx = queue.ring.tailIdx
    · have htest := perform_test_of_full queue consumer call hfull
      have hisFull : queue.ring.isFull = true := by
        rw [queue.isFull_eq]
        exact decide_eq_true hfull
      rw [if_pos hisFull]
      have hrefuse : Machine.Run step returns ⟨queue, .refuse call, consumer⟩ [.produce]
          [.pushed call false]
          ⟨{ queue with overflows := queue.overflows + 1 }, .idle, consumer⟩ := ⟨rfl, rfl⟩
      refine ⟨_, .cons (congrArg Prod.fst hbegin) (congrArg Prod.snd hbegin)
        (.cons rfl rfl (.cons (congrArg Prod.fst htest) (congrArg Prod.snd htest)
          (hrefuse.append (run_idle_producer _ consumer (data.length + 5))))), rfl⟩
    · have htest := perform_test_of_room queue consumer call hfull
      have hisFull : ¬ queue.ring.isFull = true := by
        rw [queue.isFull_eq]
        simpa using hfull
      rw [if_neg hisFull]
      have hwrite := run_write queue consumer call queue.ring.headIdx call.cells
      rw [PushCall.putAll_cells, PushCall.length_cells] at hwrite
      have hlast : ∀ ring : RingBuffer RxPacket rxQueueSlots,
          Machine.Run step returns
            ⟨{ queue with ring := ring }, .write call queue.ring.headIdx [], consumer⟩
            (List.replicate 3 .produce) [.pushed call true]
            ⟨{ queue with
                ring := ring.setHead (nextIdx queue.ring.headIdx)
                highWater := max queue.highWater
                  (ring.setHead (nextIdx queue.ring.headIdx)).used }, .idle, consumer⟩ :=
        fun ring => ⟨rfl, rfl⟩
      have hall := hwrite.append (hlast _)
      rw [← List.replicate_add] at hall
      exact ⟨_, .cons (congrArg Prod.fst hbegin) (congrArg Prod.snd hbegin)
        (.cons rfl rfl (.cons (congrArg Prod.fst htest) (congrArg Prod.snd htest) hall)), rfl⟩

/-- **`pop` alone.** -/
theorem pop_alone (out : RxPacket) :
    Machine.Run step returns ⟨queue, producer, .idle⟩ (popAlone out) [.popped queue.pop.1]
      ⟨queue.pop.2, producer, .idle⟩ := by
  rw [RxQueue.pop]
  by_cases hempty : queue.ring.tailIdx = queue.ring.headIdx
  · have htest := perform_test_of_empty queue producer out hempty
    have hisEmpty : queue.ring.isEmpty = true := by
      rw [queue.isEmpty_eq]
      exact decide_eq_true hempty
    rw [if_pos hisEmpty]
    exact .silent rfl rfl (.silent rfl rfl
      (.cons (congrArg Prod.fst htest) (congrArg Prod.snd htest)
        (run_idle_consumer queue producer (rxSlotBytes + 4))))
  · have htest := perform_test_of_any queue producer out hempty
    have hisEmpty : ¬ queue.ring.isEmpty = true := by
      rw [queue.isEmpty_eq]
      simpa using hempty
    rw [if_neg hisEmpty]
    have hcopy := run_copy queue producer out queue.ring.tailIdx RxCell.all
    rw [RxPacket.putAll_all, RxCell.length_all] at hcopy
    have hlast : Machine.Run step returns
        ⟨queue, producer, .copy queue.ring.tailSlot queue.ring.tailIdx []⟩ [.consume]
        [.popped (some queue.ring.tailSlot)]
        ⟨{ queue with ring := queue.ring.advance }, producer, .idle⟩ := ⟨rfl, rfl⟩
    have hall := hcopy.append hlast
    rw [← List.replicate_one, ← List.replicate_add] at hall
    exact .silent rfl rfl (.silent rfl rfl
      (.cons (congrArg Prod.fst htest) (congrArg Prod.snd htest) hall))

end Alone

end SharedQueue

end OpenDisplay
