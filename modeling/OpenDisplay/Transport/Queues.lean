import OpenDisplay.Protocol.Frame
import OpenDisplay.Lib.RingBuffer

/-!
# The transport queues

`ble_transport.cpp`: the ring through which the BLE callback hands packets to the loop,
and the ring through which the loop hands responses to the notification path.  Both are
rings with one sacrificed slot.  A slot of the receive ring is written over only as far
as the packet goes; what lies behind is left from earlier packets.
-/

namespace OpenDisplay

/-! ### Receiving -/

def rxSlotBytes : ℕ := 244
def rxQueueSlots : ℕ := 24

/-- A slot of the receive ring. -/
structure RxPacket where
  connectionGeneration : UInt32 := 0
  payloadLength : UInt16 := 0
  arrivalMs : UInt32 := 0
  /-- The whole slot, stale bytes included. -/
  payload : Vector UInt8 rxSlotBytes := Vector.replicate rxSlotBytes 0
  length_le : payloadLength.toNat ≤ rxSlotBytes := by decide

lemma rxQueueSlots_pos : 0 < rxQueueSlots := by decide

namespace RxPacket

/-- A slot that no packet has been in. -/
def fresh : RxPacket := {}

/-- The bytes of the packet itself. -/
def bytes (pkt : RxPacket) : List UInt8 := pkt.payload.toList.take pkt.payloadLength.toNat

/-- The opcode and the payload, as `handle_packet_` sees them. -/
def frame (pkt : RxPacket) : Option Frame :=
  parseFrame pkt.payload.toList pkt.payloadLength.toNat
    (by rw [Vector.length_toList]; exact pkt.length_le)

/-- The slot after a packet of `data` has been copied into it. -/
def fill (slot : RxPacket) (data : List UInt8) (generation nowMs : UInt32)
    (h : data.length ≤ rxSlotBytes) : RxPacket where
  connectionGeneration := generation
  payloadLength := UInt16.ofNat data.length
  arrivalMs := nowMs
  payload := ⟨(data ++ slot.payload.toList.drop data.length).toArray, by
    rw [List.size_toArray, List.length_append, List.length_drop, Vector.length_toList]
    omega⟩
  length_le := by
    rw [UInt16.toNat_ofNat']
    exact Nat.le_trans (Nat.mod_le _ _) h

@[simp] lemma fill_connectionGeneration (slot : RxPacket) (data : List UInt8)
    (generation nowMs : UInt32) (h : data.length ≤ rxSlotBytes) :
    (slot.fill data generation nowMs h).connectionGeneration = generation := rfl

/-- The bytes of a packet are the bytes that were copied. -/
@[simp] lemma bytes_fill (slot : RxPacket) (data : List UInt8) (generation nowMs : UInt32)
    (h : data.length ≤ rxSlotBytes) : (slot.fill data generation nowMs h).bytes = data := by
  have hlen : (UInt16.ofNat data.length).toNat = data.length := by
    rw [UInt16.toNat_ofNat']
    exact Nat.mod_eq_of_lt (Nat.lt_of_le_of_lt h (by decide))
  rw [bytes, fill, hlen]
  exact List.take_left

/-- The payload of a frame is the packet behind the opcode. -/
lemma payload_bytes {pkt : RxPacket} {f : Frame} (h : pkt.frame = some f) :
    f.payload.bytes = pkt.bytes.drop 2 := by
  rw [frame, parseFrame] at h
  split_ifs at h with hlen hmore
  · obtain rfl := Option.some.inj h
    rw [Payload.bytes, bytes, List.drop_take]
  · obtain rfl := Option.some.inj h
    refine (List.drop_eq_nil_iff.mpr ?_).symm
    rw [bytes, List.length_take]
    omega

end RxPacket

/-- `RxQueue`. -/
structure RxQueue where
  ring : RingBuffer RxPacket rxQueueSlots
  highWater : ℕ := 0
  overflows : UInt32 := 0

namespace RxQueue

/-- A queue as the constructor leaves it. -/
def init : RxQueue where
  ring := .fill {} rxQueueSlots_pos

/-- `RxQueue::push`.  An oversize write is rejected, never truncated, and a full queue
rejects without blocking. -/
def push (q : RxQueue) (data : List UInt8) (generation nowMs : UInt32) : Bool × RxQueue :=
  if h : data.length = 0 ∨ rxSlotBytes < data.length then (false, q)
  else if q.ring.isFull then (false, { q with overflows := q.overflows + 1 })
  else
    let ring := q.ring.enqueue (q.ring.headSlot.fill data generation nowMs (by omega))
    (true, { q with ring := ring, highWater := max q.highWater ring.used })

/-- `RxQueue::pop`. -/
def pop (q : RxQueue) : Option RxPacket × RxQueue :=
  if q.ring.isEmpty then (none, q)
  else (some q.ring.tailSlot, { q with ring := q.ring.advance })

/-- The packets in the queue, oldest first. -/
def toList (q : RxQueue) : List RxPacket := q.ring.toList

@[simp] lemma toList_init : init.toList = [] := RingBuffer.toList_fill _ _

/-- A packet that is taken goes to the end of the queue, under its generation. -/
lemma toList_push_of_taken {q : RxQueue} {data : List UInt8} {generation nowMs : UInt32}
    (h : (q.push data generation nowMs).1 = true) :
    ∃ pkt : RxPacket, (q.push data generation nowMs).2.toList = q.toList ++ [pkt] ∧
      pkt.connectionGeneration = generation ∧ pkt.bytes = data := by
  rw [push] at h ⊢
  split_ifs at h ⊢ with hlen hfull
  exact ⟨_, RingBuffer.toList_enqueue _ _ (by simpa using hfull), rfl, RxPacket.bytes_fill ..⟩

lemma toList_push_of_refused {q : RxQueue} {data : List UInt8} {generation nowMs : UInt32}
    (h : (q.push data generation nowMs).1 = false) :
    (q.push data generation nowMs).2.toList = q.toList := by
  rw [push] at h ⊢
  split_ifs at h ⊢ <;> rfl

/-- Popping takes the oldest packet. -/
lemma toList_pop_some {q : RxQueue} {pkt : RxPacket} (h : q.pop.1 = some pkt) :
    q.toList = pkt :: q.pop.2.toList := by
  rw [pop] at h ⊢
  split_ifs at h ⊢ with hempty
  obtain rfl := Option.some.inj h
  exact RingBuffer.toList_eq_cons_advance _ (by simpa using hempty)

lemma toList_pop_none {q : RxQueue} (h : q.pop.1 = none) : q.pop.2 = q := by
  rw [pop] at h ⊢
  split_ifs at h ⊢
  rfl

lemma toList_eq_nil_of_pop {q : RxQueue} (h : q.pop.1 = none) : q.toList = [] := by
  rw [pop] at h
  split_ifs at h with hempty
  exact (RingBuffer.isEmpty_iff_toList _).mp hempty

end RxQueue

/-! ### Sending -/

def txQueueSlots : ℕ := 16
def txReservedForTerminal : ℕ := 4

/-- `TxQueue`. -/
structure TxQueue where
  ring : RingBuffer Response txQueueSlots

namespace TxQueue

/-- A queue as the constructor leaves it. -/
def init : TxQueue where
  ring := .fill .empty (by decide)

/-- `TxQueue::push`.  Some slots are kept for the terminal frames, so that they always
fit. -/
def push (q : TxQueue) (r : Response) (terminal : Bool) : Bool × TxQueue :=
  if r.isEmpty then (true, q)
  else if q.ring.isFull then (false, q)
  else if !terminal && decide (txQueueSlots ≤ q.ring.used + txReservedForTerminal) then (false, q)
  else (true, { q with ring := q.ring.enqueue r })

/-- `TxQueue::pop`. -/
def pop (q : TxQueue) : Option Response × TxQueue :=
  if q.ring.isEmpty then (none, q)
  else (some q.ring.tailSlot, { q with ring := q.ring.advance })

/-- `TxQueue::empty`. -/
def isEmpty (q : TxQueue) : Bool := q.ring.isEmpty

/-- The responses in the queue, oldest first. -/
def toList (q : TxQueue) : List Response := q.ring.toList

/-- The number of responses in the queue. -/
def used (q : TxQueue) : ℕ := q.ring.used

@[simp] lemma toList_init : init.toList = [] := RingBuffer.toList_fill _ _

lemma isEmpty_iff (q : TxQueue) : q.isEmpty = true ↔ q.toList = [] :=
  RingBuffer.isEmpty_iff_toList _

lemma length_toList (q : TxQueue) : q.toList.length = q.used := RingBuffer.length_toList _

lemma used_lt (q : TxQueue) : q.used < txQueueSlots := RingBuffer.used_lt _

/-- There is room for a frame: a terminal one may use the last slots. -/
def Accepts (q : TxQueue) (terminal : Bool) : Prop :=
  if terminal then q.used + 1 < txQueueSlots else q.used + txReservedForTerminal < txQueueSlots

instance (q : TxQueue) (terminal : Bool) : Decidable (q.Accepts terminal) :=
  inferInstanceAs (Decidable (if terminal then _ else _))

/-- A frame for which there is room goes to the end of the queue. -/
lemma push_of_accepts {q : TxQueue} {r : Response} {terminal : Bool} (hr : r.isEmpty = false)
    (h : q.Accepts terminal) :
    (q.push r terminal).1 = true ∧ (q.push r terminal).2.toList = q.toList ++ [r] := by
  have hused : q.ring.used + 1 < txQueueSlots := by
    rw [Accepts] at h
    split_ifs at h
    · exact h
    · exact Nat.lt_of_le_of_lt (Nat.add_le_add_left (by decide) _) h
  have hfull : q.ring.isFull = false := by
    rw [Bool.eq_false_iff, Ne, RingBuffer.isFull_iff]
    omega
  have hreserve : (!terminal && decide (txQueueSlots ≤ q.ring.used + txReservedForTerminal)) =
      false := by
    rw [Accepts] at h
    cases terminal
    · exact decide_eq_false (Nat.not_le.mpr h)
    · rfl
  rw [push, if_neg (by simp [hr]), if_neg (by simp [hfull]), if_neg (by simp [hreserve])]
  exact ⟨rfl, RingBuffer.toList_enqueue _ _ hfull⟩

/-- A frame for which there is no room is refused. -/
lemma push_of_not_accepts {q : TxQueue} {r : Response} {terminal : Bool}
    (hr : r.isEmpty = false) (h : ¬ q.Accepts terminal) : q.push r terminal = (false, q) := by
  have hlt := q.used_lt
  rw [push, if_neg (by simp [hr])]
  split_ifs with hfull hreserve
  · rfl
  · rfl
  · rw [RingBuffer.isFull_iff] at hfull
    refine absurd ?_ h
    rw [Accepts]
    rw [used] at hlt
    cases terminal
    · simpa [used] using hreserve
    · simp only [if_true, used]
      omega

lemma push_of_empty {q : TxQueue} {r : Response} {terminal : Bool} (hr : r.isEmpty = true) :
    q.push r terminal = (true, q) := by rw [push, if_pos hr]

lemma used_push_of_accepts {q : TxQueue} {r : Response} {terminal : Bool}
    (hr : r.isEmpty = false) (h : q.Accepts terminal) :
    (q.push r terminal).2.used = q.used + 1 := by
  have hlist := (push_of_accepts hr h).2
  rw [← length_toList, hlist, List.length_append, length_toList, List.length_singleton]

/-- The queue keeps what it takes, in the order in which it takes it. -/
lemma toList_push (q : TxQueue) (r : Response) (terminal : Bool) :
    (q.push r terminal).2.toList =
      q.toList ++ if (q.push r terminal).1 && !r.isEmpty then [r] else [] := by
  rcases hr : r.isEmpty with _ | _
  · by_cases h : q.Accepts terminal
    · simp [push_of_accepts hr h]
    · simp [push_of_not_accepts hr h]
  · simp [push_of_empty hr]

/-- Popping takes the oldest response. -/
lemma toList_pop_some {q : TxQueue} {r : Response} (h : q.pop.1 = some r) :
    q.toList = r :: q.pop.2.toList := by
  rw [pop] at h ⊢
  split_ifs at h ⊢ with hempty
  obtain rfl := Option.some.inj h
  exact RingBuffer.toList_eq_cons_advance _ (by simpa using hempty)

lemma toList_pop_none {q : TxQueue} (h : q.pop.1 = none) : q.pop.2 = q := by
  rw [pop] at h ⊢
  split_ifs at h ⊢
  rfl

lemma toList_eq_nil_of_pop {q : TxQueue} (h : q.pop.1 = none) : q.toList = [] := by
  rw [pop] at h
  split_ifs at h with hempty
  exact (RingBuffer.isEmpty_iff_toList _).mp hempty

end TxQueue

end OpenDisplay
