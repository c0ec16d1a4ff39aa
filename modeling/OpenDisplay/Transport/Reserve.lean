import OpenDisplay.Transport.Queues
import OpenDisplay.Lib.Machine

/-!
# What the response ring keeps in reserve

A non-terminal frame is refused once four slots of the ring are all that is left, and one
of these four is the slot that tells *full* from *empty*.  A ring that has taken as many
non-terminal frames as it can therefore takes three terminal frames, not
`TX_RESERVED_FOR_TERMINAL`: `reserve_available_iff` says that the reserve is there in every
reachable state but the one with twelve frames waiting.
-/

namespace OpenDisplay

/-- What is done to a response ring. -/
inductive TxOp
  | pop
  | push (r : Response) (terminal : Bool)

/-- A pop, or the push of a frame that is not terminal. -/
def TxOp.IsOrdinary : TxOp → Prop
  | .pop => True
  | .push _ terminal => terminal = false

namespace TxQueue

open Machine

/-! ### The ring as a machine -/

/-- The ring after one operation. -/
def step (q : TxQueue) : TxOp → TxQueue
  | .pop => q.pop.2
  | .push r terminal => (q.push r terminal).2

/-- The answer of a push. -/
def answers (q : TxQueue) : TxOp → List Bool
  | .pop => []
  | .push r terminal => [(q.push r terminal).1]

/-- The frame that gets into the ring. -/
def enqueued (q : TxQueue) : TxOp → List Response
  | .pop => []
  | .push r terminal => if (q.push r terminal).1 && !r.isEmpty then [r] else []

/-- The frame that is taken out of the ring. -/
def dequeued (q : TxQueue) : TxOp → List Response
  | .pop => q.pop.1.toList
  | .push _ _ => []

/-- No operation loses a frame or changes the order. -/
lemma toList_step (q : TxQueue) (op : TxOp) :
    q.toList ++ q.enqueued op = q.dequeued op ++ (q.step op).toList := by
  cases op with
  | push r terminal => exact (q.toList_push r terminal).symm
  | pop =>
      rw [enqueued, dequeued, step, List.append_nil]
      rcases hpop : q.pop.1 with _ | r
      · rw [toList_pop_none hpop]
        rfl
      · exact toList_pop_some hpop

/-- **What goes in comes out, in this order.** -/
theorem toList_exec (q : TxQueue) (ops : List TxOp) :
    q.toList ++ outputs step enqueued q ops =
      outputs step dequeued q ops ++ (exec step q ops).toList := by
  induction ops generalizing q with
  | nil => simp
  | cons op ops ih =>
      rw [outputs_cons, outputs_cons, exec_cons, List.append_assoc, ← ih, ← List.append_assoc,
        ← List.append_assoc, toList_step]

/-! ### Emptying the ring -/

lemma used_pop (q : TxQueue) : q.pop.2.used = q.used - 1 := by
  rcases hpop : q.pop.1 with _ | r
  · have hempty : q.toList = [] := by
      rw [← isEmpty_iff, isEmpty]
      rw [pop] at hpop
      split_ifs at hpop with h
      exact h
    rw [toList_pop_none hpop, ← length_toList, hempty]
    rfl
  · rw [← length_toList q, toList_pop_some hpop, ← length_toList]
    rfl

lemma used_exec_pop (q : TxQueue) (n : ℕ) :
    (exec step q (List.replicate n .pop)).used = q.used - n := by
  induction n generalizing q with
  | zero => rfl
  | succ n ih =>
      rw [List.replicate_succ, exec_cons, ih, step, used_pop]
      omega

lemma enqueued_pops (q : TxQueue) (n : ℕ) :
    outputs step enqueued q (List.replicate n .pop) = [] := by
  refine outputs_eq_nil step enqueued (fun op hop _ => ?_) q
  obtain rfl := List.eq_of_mem_replicate hop
  rfl

/-- Enough pops take all frames out, oldest first. -/
lemma dequeued_pops (q : TxQueue) {n : ℕ} (h : q.used ≤ n) :
    outputs step dequeued q (List.replicate n .pop) = q.toList := by
  have hflow := q.toList_exec (List.replicate n .pop)
  have hempty : (exec step q (List.replicate n .pop)).toList = [] := by
    rw [← List.length_eq_zero_iff, length_toList, used_exec_pop]
    omega
  rw [enqueued_pops, hempty, List.append_nil, List.append_nil] at hflow
  exact hflow.symm

/-! ### Room for a row of frames -/

/-- The number of frames of a kind for which there is room. -/
def room (q : TxQueue) (terminal : Bool) : ℕ :=
  (if terminal then txQueueSlots - 1 else txQueueSlots - txReservedForTerminal) - q.used

lemma accepts_iff_room (q : TxQueue) (terminal : Bool) :
    q.Accepts terminal ↔ 0 < q.room terminal := by
  cases terminal <;> simp only [Accepts, room, txQueueSlots, txReservedForTerminal] <;>
    simp <;> omega

/-- A frame that gets in takes up room. -/
lemma room_push {q : TxQueue} {r : Response} {terminal : Bool} (hr : r.isEmpty = false)
    (h : q.Accepts terminal) :
    (q.push r terminal).2.room terminal = q.room terminal - 1 := by
  rw [room, room, used_push_of_accepts hr h, Nat.sub_sub]

/-- **As many frames of a row get in as there is room for**, the first ones. -/
theorem toList_exec_push (q : TxQueue) (terminal : Bool) {rs : List Response}
    (hrs : ∀ r ∈ rs, r.isEmpty = false) :
    (exec step q (rs.map (.push · terminal))).toList =
      q.toList ++ rs.take (q.room terminal) := by
  induction rs generalizing q with
  | nil => simp
  | cons r rs ih =>
      obtain ⟨hr, hrs⟩ := List.forall_mem_cons.mp hrs
      rw [List.map_cons, exec_cons, step, ih _ hrs]
      by_cases h : q.Accepts terminal
      · obtain ⟨k, hk⟩ := Nat.exists_eq_succ_of_ne_zero ((q.accepts_iff_room terminal).mp h).ne'
        rw [room_push hr h, (push_of_accepts hr h).2, hk]
        simp
      · rw [push_of_not_accepts hr h]
        have hk : q.room terminal = 0 := by
          simpa using mt (q.accepts_iff_room terminal).mpr h
        simp [hk]

/-- All frames of a row get in exactly when there is room for all. -/
theorem answers_push_iff (q : TxQueue) (terminal : Bool) {rs : List Response}
    (hrs : ∀ r ∈ rs, r.isEmpty = false) :
    outputs step answers q (rs.map (.push · terminal)) = List.replicate rs.length true ↔
      rs.length ≤ q.room terminal := by
  induction rs generalizing q with
  | nil => simp
  | cons r rs ih =>
      obtain ⟨hr, hrs⟩ := List.forall_mem_cons.mp hrs
      rw [List.map_cons, outputs_cons, answers, List.length_cons, List.replicate_succ,
        List.cons_append, List.nil_append, List.cons_eq_cons, step, ih _ hrs]
      by_cases h : q.Accepts terminal
      · have hpos := (q.accepts_iff_room terminal).mp h
        rw [(push_of_accepts hr h).1, room_push hr h]
        simp only [true_and]
        omega
      · have hk : q.room terminal = 0 := by
          simpa using mt (q.accepts_iff_room terminal).mpr h
        rw [push_of_not_accepts hr h, hk]
        simp

/-! ### The reserve -/

/-- Ordinary operations fill the ring up to the reserve. -/
lemma used_step_le {q : TxQueue} (h : q.used ≤ txQueueSlots - txReservedForTerminal) {op : TxOp}
    (hop : op.IsOrdinary) : (q.step op).used ≤ txQueueSlots - txReservedForTerminal := by
  cases op with
  | pop =>
      rw [step, used_pop]
      omega
  | push r terminal =>
      cases hop
      rcases hr : r.isEmpty with _ | _
      · by_cases ha : q.Accepts false
        · have hroom := (q.accepts_iff_room false).mp ha
          rw [step, used_push_of_accepts hr ha]
          simp only [room, if_neg Bool.false_ne_true] at hroom
          omega
        · rw [step, push_of_not_accepts hr ha]
          exact h
      · rw [step, push_of_empty hr]
        exact h

lemma used_exec_le {history : List TxOp} (hhistory : ∀ op ∈ history, op.IsOrdinary) :
    (exec step init history).used ≤ txQueueSlots - txReservedForTerminal := by
  have hinit : init.used ≤ txQueueSlots - txReservedForTerminal := by
    rw [← length_toList, toList_init]
    exact Nat.zero_le _
  exact exec_invariant_of_allSteps
    (I := fun q : TxQueue => q.used ≤ txQueueSlots - txReservedForTerminal)
    (fun q op h hop => used_step_le h hop) hinit
    (allSteps_of_forall_mem step (fun op hop _ => hhistory op hop) init)

/-- The reserve is there: after the operations of `history` the terminal frames `rs` all get
in, and enough pops then have taken out, from the start on, all frames that got in, in the
order in which they did. -/
structure ReserveAvailable (history : List TxOp) (rs : List Response) : Prop where
  pushed : outputs step answers (exec step init history) (rs.map (.push · true)) =
    List.replicate rs.length true
  popped : ∀ n, (exec step init (history ++ rs.map (.push · true))).used ≤ n →
    outputs step dequeued init (history ++ rs.map (.push · true) ++ List.replicate n .pop) =
      outputs step enqueued init history ++ rs

/-- What has been taken out once the ring is empty again, when the terminal frames all got
in. -/
lemma dequeued_of_room (history : List TxOp) {rs : List Response}
    (hrs : ∀ r ∈ rs, r.isEmpty = false) (hroom : rs.length ≤ (exec step init history).room true)
    {n : ℕ} (hn : (exec step init (history ++ rs.map (.push · true))).used ≤ n) :
    outputs step dequeued init (history ++ rs.map (.push · true) ++ List.replicate n .pop) =
      outputs step enqueued init history ++ rs := by
  have hflow := init.toList_exec history
  rw [toList_init, List.nil_append] at hflow
  have hpush : outputs step dequeued (exec step init history) (rs.map (.push · true)) = [] := by
    refine outputs_eq_nil step dequeued (fun op hop _ => ?_) _
    obtain ⟨r, -, rfl⟩ := List.mem_map.mp hop
    rfl
  rw [outputs_append, outputs_append, hpush, List.append_nil, dequeued_pops _ hn, exec_append,
    toList_exec_push _ _ hrs, List.take_of_length_le hroom, ← List.append_assoc, ← hflow]

/-- **The reserve is there unless exactly twelve frames are waiting.** -/
theorem reserve_available_iff (history : List TxOp) (hhistory : ∀ op ∈ history, op.IsOrdinary)
    (rs : List Response) (hlen : rs.length = txReservedForTerminal)
    (hrs : ∀ r ∈ rs, r.isEmpty = false) :
    ReserveAvailable history rs ↔
      (exec step init history).used ≠ txQueueSlots - txReservedForTerminal := by
  have hused := used_exec_le hhistory
  have hroom : rs.length ≤ (exec step init history).room true ↔
      (exec step init history).used ≠ txQueueSlots - txReservedForTerminal := by
    rw [hlen, room, if_pos rfl]
    simp only [txQueueSlots, txReservedForTerminal] at hused ⊢
    omega
  constructor
  · intro h
    exact hroom.mp ((answers_push_iff _ true hrs).mp h.pushed)
  · intro h
    exact ⟨(answers_push_iff _ true hrs).mpr (hroom.mpr h),
      fun n hn => dequeued_of_room history hrs (hroom.mpr h) hn⟩

/-- Eleven refused commands wait, beyond the end of the ring, after ten that have been
notified. -/
def elevenWaiting : List TxOp :=
  List.replicate 10 (.push (encodeNack cmdDirectWriteData) false) ++ List.replicate 10 .pop ++
    List.replicate 11 (.push (encodeNack cmdDirectWriteData) false)

/-- Behind them the four terminal frames get in and come out again. -/
theorem reserve_available_elevenWaiting :
    (exec step init elevenWaiting).used = 11 ∧
      ReserveAvailable elevenWaiting
        (List.replicate 4 (encodeAck respDirectWriteRefreshSuccess)) := by
  have hordinary : ∀ op ∈ elevenWaiting, op.IsOrdinary := by
    simp [elevenWaiting, TxOp.IsOrdinary, or_imp, forall_and]
  refine ⟨by decide +kernel, ?_⟩
  exact (reserve_available_iff elevenWaiting hordinary _ rfl (by simp; decide)).mpr
    (by decide +kernel)

/-- Twelve refused commands wait for the notification path: of four terminal frames the
last is dropped. -/
theorem reserve_short_twelveWaiting :
    (∀ op ∈ List.replicate 12 (TxOp.push (encodeNack cmdDirectWriteData) false),
        op.IsOrdinary) ∧
      outputs step answers
          (exec step init (List.replicate 12 (.push (encodeNack cmdDirectWriteData) false)))
          (List.replicate txReservedForTerminal
            (.push (encodeAck respDirectWriteRefreshSuccess) true)) =
        [true, true, true, false] ∧
      ¬ ReserveAvailable (List.replicate 12 (.push (encodeNack cmdDirectWriteData) false))
          (List.replicate txReservedForTerminal (encodeAck respDirectWriteRefreshSuccess)) := by
  have hanswers : outputs step answers
      (exec step init (List.replicate 12 (.push (encodeNack cmdDirectWriteData) false)))
      (List.replicate txReservedForTerminal
        (.push (encodeAck respDirectWriteRefreshSuccess) true)) =
      [true, true, true, false] := by decide +kernel
  refine ⟨fun op hop => ?_, hanswers, fun h => ?_⟩
  · obtain rfl := List.eq_of_mem_replicate hop
    rfl
  · have hpushed := h.pushed
    rw [List.map_replicate, hanswers] at hpushed
    simp [txReservedForTerminal] at hpushed

end TxQueue

end OpenDisplay
