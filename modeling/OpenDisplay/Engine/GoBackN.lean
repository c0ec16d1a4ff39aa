import OpenDisplay.Engine.CallTrace
import OpenDisplay.Engine.PipeAcks
import OpenDisplay.Lib.SlidingWindow

/-!
# PIPE delivery is go-back-N

The engine at one end of a link, a client at the other.  The client sends the chunks
of a fixed list, each at most 16 chunks ahead of those whose SACKs it has received,
and as often as it likes; the link keeps the order and may lose any packet and any
frame.  The engine compares 8-bit sequence numbers only, over as many wraps as the
list is long.

The two ends are an instance of a sliding window with 16 items and numbers modulo
256: so an accepted packet is the chunk that comes next, and what is written to the
panel is always an initial segment of the list.
-/

namespace OpenDisplay

open OpenDisplayBackend

/-! ### What is written -/

/-- The data of the `write_contiguous` calls since the last `begin_frame`, whatever they
were answered. -/
def writesSinceBegin (calls : List BackendCall) : List (List UInt8) :=
  calls.foldl (fun written call =>
    match call with
    | .beginFrame _ _ => []
    | .writeContiguous _ data _ => written ++ [data]
    | _ => written) []

namespace Recorder

variable {β : Type} [OpenDisplayBackend β]

/-- The data written since the last `begin_frame`. -/
def written {β : Type} (r : Recorder β) : List (List UInt8) := writesSinceBegin r.calls

@[simp] lemma written_beginFrame (r : Recorder β) (f : FrameDescriptor) :
    (beginFrame r f).2.written = [] := by
  simp [written, writesSinceBegin]

@[simp] lemma written_writeContiguous (r : Recorder β) (o : UInt32) (d : List UInt8) :
    (writeContiguous r o d).2.written = r.written ++ [d] := by
  simp [written, writesSinceBegin]

@[simp] lemma written_finishFrame (r : Recorder β) :
    (finishFrame r).2.written = r.written := by
  simp [written, writesSinceBegin]

@[simp] lemma written_beginRefresh (r : Recorder β) (q : RefreshRequest) :
    (beginRefresh r q).2.written = r.written := by
  simp [written, writesSinceBegin]

@[simp] lemma written_pollRefresh (r : Recorder β) :
    (pollRefresh r).2.written = r.written := by
  simp [written, writesSinceBegin]

@[simp] lemma written_abortTransfer (r : Recorder β) :
    (abortTransfer r).written = r.written := by
  simp [written, writesSinceBegin]

end Recorder

namespace TransferEngine

/-! ### The link -/

/-- The engine and a client, with what is in flight between them, oldest first.  A
packet in flight is the number of a chunk, with the number of leading chunks known to
be acknowledged when it was sent; a frame in flight comes with the number of chunks
accepted when it was sent. -/
structure Link (β : Type) where
  transfer : Transfer
  engine : TransferEngine (Recorder β)
  /-- The chunks that the client knows to be acknowledged. -/
  marks : List ℕ := []
  forward : List (ℕ × ℕ) := []
  back : List (ℕ × Response) := []

/-- What can happen on the link. -/
inductive LinkOp (ω : Type)
  /-- the client sends, or sends again, a chunk -/
  | send (i : ℕ)
  /-- the link or the receive queue loses a packet -/
  | losePacket (k : ℕ)
  /-- the engine handles the oldest packet -/
  | deliver (nowMs : UInt32)
  /-- the link loses a frame -/
  | loseFrame (k : ℕ)
  /-- the client receives the oldest frame -/
  | receive
  | tick (nowMs : UInt32)
  | world (event : ω)

/-- The window of the client. -/
def clientWindow : ℕ := 16

/-- What a SACK acknowledges; other frames acknowledge nothing to the client. -/
def sackView (r : Response) : Option (UInt8 × UInt32) :=
  if r.bytes.head? = some respAck then ackView r else none

/-- A SACK covers the sequence number of the chunk `c`. -/
def covers (r : Response) (c : ℕ) : Bool :=
  match sackView r with
  | none => false
  | some (highestSeen, mask) =>
      UInt8.ofNat c == highestSeen || (List.range 32).any fun i =>
        mask.toNat.testBit i && UInt8.ofNat c == highestSeen - UInt8.ofNat (i + 1)

/-- The chunks of the client's window that a frame covers. -/
def newMarks (marks : List ℕ) (r : Response) : List ℕ :=
  (List.range' (SlidingWindow.leading marks) clientWindow).filter (covers r)

/-- `[i mod 256][chunk i]`. -/
def chunkPayload (chunks : List (List UInt8)) (i : ℕ) : Payload :=
  .ofBytes (UInt8.ofNat i :: chunks.getD i [])

variable {β ω : Type} [OpenDisplayBackend β] [PanelWorld β ω]

/-- The link right after an accepted `0x80`. -/
def Link.opened (e : TransferEngine (Recorder β)) (p : Payload) (nowMs : UInt32) : Link β where
  transfer := e.openedTransfer .pipe
  engine := (e.onPipeStart p nowMs).2.takeTailSack.2

/-- The engine performs an operation and sends its frames. -/
def Link.serve (s : Link β) (op : EngineOp ω) : Link β :=
  let transfer := watchTransfer s.transfer s.engine op
  { s with
    transfer := transfer
    engine := s.engine.serve op
    back := s.back ++ (s.engine.framesSent op).map fun r => (transfer.chunks.length, r) }

/-- One step of the link, for the client's list of chunks. -/
def linkStep (chunks : List (List UInt8)) (s : Link β) (op : LinkOp ω) : Link β :=
  match op with
  | .send i =>
      let base := SlidingWindow.leading s.marks
      if base ≤ i ∧ i < base + clientWindow ∧ i < chunks.length then
        { s with forward := s.forward ++ [(i, base)] }
      else s
  | .losePacket k => { s with forward := s.forward.eraseIdx k }
  | .deliver now =>
      match s.forward with
      | [] => s
      | (i, _) :: rest =>
          Link.serve { s with forward := rest } (.pipeData (chunkPayload chunks i) now : EngineOp ω)
  | .loseFrame k => { s with back := s.back.eraseIdx k }
  | .receive =>
      match s.back with
      | [] => s
      | (_, r) :: rest => { s with marks := s.marks ++ newMarks s.marks r, back := rest }
  | .tick now => s.serve (.tick now : EngineOp ω)
  | .world event => s.serve (.world event)

/-! ### The engine end -/

variable {t : Transfer} {e e' : TransferEngine (Recorder β)}

@[simp] lemma written_abort (e : TransferEngine (Recorder β)) (error : ErrorCode) :
    (e.abort error).backend.written = e.backend.written := by
  unfold abort; split_ifs <;> simp

lemma FinishOutcome.written {endOpcode : UInt16} {now : UInt32} {res : EngineResult}
    (h : FinishOutcome e endOpcode now res e') : e'.backend.written = e.backend.written := by
  cases h <;> simp

/-- What a `0x81` does to the chunks accepted and written: it is the next chunk and
accepted, or it leaves both alone, or it is the next chunk, the panel refuses it, and
the transfer is over. -/
inductive ChunkMove (t : Transfer) (e : TransferEngine (Recorder β)) (seq : UInt8)
    (data : List UInt8) (t' : Transfer) (e' : TransferEngine (Recorder β)) : Prop
  | accepted (hplace : e.PipeReceiving) (hseq : seq = e.txn.nextPipeSequence)
      (ht : t' = t.accept data) (hwritten : e'.backend.written = e.backend.written ++ [data])
  | ignored (ht : t' = t) (hwritten : e'.backend.written = e.backend.written)
      (hstate : e'.txn.state = .receiving → e.txn.state = .receiving)
  | refused (hplace : e.PipeReceiving) (hseq : seq = e.txn.nextPipeSequence) (ht : t' = t)
      (hwritten : e'.backend.written = e.backend.written ++ [data])
      (hstate : e'.txn.state = .idle)

lemma pipeData_chunkMove (t : Transfer) (e : TransferEngine (Recorder β)) {p : Payload}
    {seq : UInt8} {data : List UInt8} (hp : p.bytes = seq :: data) (now : UInt32) :
    ChunkMove t e seq data (watchTransfer t e (.pipeData p now : EngineOp ω))
      (e.onPipeData p now).2 := by
  have ho := onPipeData_outcome e p now
  simp only [watchTransfer, step, perform, hp, List.tail_cons]
  generalize (e.onPipeData p now).1 = res, (e.onPipeData p now).2 = e₁ at ho ⊢
  cases ho with
  | latched | misplaced | outOfOrder => exact .ignored (by simp) rfl id
  | malformed | oversize => exact .ignored (by simp) (by simp) (by simp)
  | writeFailed _ hplace data' hbytes =>
      rw [hp] at hbytes
      obtain ⟨hseq, rfl⟩ := List.cons.inj hbytes
      exact .refused hplace hseq (by simp) (by simp) (by simp)
  | accepted _ hplace data' hbytes _ _ _ _ hchunk =>
      rw [hp] at hbytes
      obtain ⟨hseq, rfl⟩ := List.cons.inj hbytes
      refine .accepted hplace hseq (if_pos (by
        rw [hchunk.pipePackets_eq]; exact Words.add_one_ne _)) ?_
      cases hchunk with
      | completed _ _ _ hfinish =>
          rw [hfinish.written]
          simp [stageTailSack, pipeAccepted, acceptPipe]
      | sacked | silent => simp [pipeAccepted, acceptPipe]

lemma sackView_encodePipeSack (highestSeen : UInt8) (mask : UInt32) :
    sackView (encodePipeSack highestSeen mask) = some (highestSeen, mask) := by
  rw [sackView, if_pos (by rfl), ackView_encodePipeSack]

lemma sackView_encodePipeNack (err highestSeen : UInt8) (mask : UInt32) :
    sackView (encodePipeNack err highestSeen mask) = none := by
  rw [sackView, if_neg]
  simp [encodePipeNack, respAck, respNack]

lemma sackView_of_ackView_none {r : Response} (h : ackView r = none) : sackView r = none := by
  rw [sackView, h, ite_self]

/-- The SACK of a transaction that counts `n` chunks. -/
lemma sackView_inorderSack {β : Type} {n : ℕ} {e : TransferEngine β} (h : PipeCounters n e.txn) :
    sackView e.inorderSack =
      some (UInt8.ofNat (n - 1), buildInorderAckMask (UInt32.ofNat n)) := by
  rw [inorderSack, sackView_encodePipeSack, h.highest_eq, h.packets_eq]

/-- Every SACK sent for a `0x81` carries the counters of the chunks accepted by then. -/
lemma sackView_of_framesSent {e : TransferEngine β} (hled : Ledger t e)
    (htail : e.hasTailSack = false) (p : Payload) (now : UInt32) :
    ∀ n, n = (if (e.onPipeData p now).2.stats.pipePackets ≠ e.stats.pipePackets
      then t.accept p.bytes.tail else t).chunks.length →
    ∀ r ∈ e.framesSent (.pipeData p now : EngineOp ω), ∀ view ∈ sackView r,
      view = (UInt8.ofNat (n - 1), buildInorderAckMask (UInt32.ofNat n)) := by
  have hsack : ∀ {n : ℕ} {e : TransferEngine β}, PipeCounters n e.txn →
      ∀ view ∈ sackView e.inorderSack,
        view = (UInt8.ofNat (n - 1), buildInorderAckMask (UInt32.ofNat n)) := by
    intro n e hc view hview
    rw [sackView_inorderSack hc] at hview
    exact (Option.mem_some.mp hview).symm
  have hnone : ∀ {r : Response} {P : UInt8 × UInt32 → Prop}, sackView r = none →
      ∀ view ∈ sackView r, P view := by
    intro r P hr view hview
    rw [hr] at hview
    cases hview
  have ho := onPipeData_outcome e p now
  simp only [framesSent, step, perform]
  generalize (e.onPipeData p now).1 = res, (e.onPipeData p now).2 = e₁ at ho ⊢
  rintro n rfl r hr
  cases ho with
  | latched =>
      obtain rfl : r = Response.empty := by simpa [takeTailSack_of_not htail] using hr
      exact hnone rfl
  | misplaced =>
      obtain rfl : r = encodePipeNack _ _ _ := by simpa [takeTailSack, htail, reply] using hr
      exact hnone (sackView_encodePipeNack _ _ _)
  | malformed | oversize | writeFailed =>
      obtain rfl : r = encodePipeNack _ _ _ := by simpa [takeTailSack, htail, fault] using hr
      exact hnone (sackView_encodePipeNack _ _ _)
  | outOfOrder _ hplace =>
      obtain rfl : r = e.inorderSack := by simpa [takeTailSack, htail, reply] using hr
      rw [if_neg (fun hne => hne rfl)]
      exact hsack (hled.pipeCounters hplace)
  | accepted _ hplace data hbytes _ _ _ _ hchunk =>
      rw [if_pos (by rw [hchunk.pipePackets_eq]; exact Words.add_one_ne _),
        Transfer.length_chunks_accept]
      have hc' : PipeCounters (t.chunks.length + 1)
          (e.pipeAccepted e.txn.nextPipeSequence data now).txn :=
        (hled.pipeCounters hplace).acceptPipe data.length now
      cases hchunk with
      | completed _ _ _ hfinish =>
          rw [hfinish.frames_of_staged, List.mem_cons, List.mem_singleton] at hr
          rcases hr with rfl | rfl
          · exact hsack hc'
          · exact hnone (sackView_of_ackView_none hfinish.ackView_eq)
      | sacked =>
          obtain rfl : r = (e.pipeAccepted e.txn.nextPipeSequence data now).inorderSack := by
            simpa [takeTailSack, pipeAccepted, acceptPipe, htail, reply] using hr
          exact hsack hc'
      | silent =>
          obtain rfl : r = Response.empty := by
            simpa [takeTailSack, pipeAccepted, acceptPipe, htail] using hr
          exact hnone rfl

/-! ### The client end -/

/-- The chunks that a SACK covers are among the last 33 accepted when it was sent. -/
lemma covered_of_covers {n c : ℕ} {r : Response}
    (hr : ∀ view ∈ sackView r,
      view = (UInt8.ofNat (n - 1), buildInorderAckMask (UInt32.ofNat n)))
    (hc : covers r c = true) : ∃ k < max n 1, n ≤ k + 33 ∧ c % 256 = k % 256 := by
  have hmod : ∀ k, UInt8.ofNat c = UInt8.ofNat k → c % 256 = k % 256 := fun k h => by
    simpa using congrArg UInt8.toNat h
  rcases hview : sackView r with _ | ⟨highestSeen, mask⟩
  · simp [covers, hview] at hc
  obtain ⟨rfl, rfl⟩ := Prod.mk.inj (hr _ hview)
  simp only [covers, hview, Bool.or_eq_true, beq_iff_eq, List.any_eq_true, List.mem_range,
    Bool.and_eq_true] at hc
  rcases hc with htop | ⟨i, hi, hbit, hseq⟩
  -- by `highest_seen`, or by the bit of one of its predecessors
  · exact ⟨n - 1, by omega, by omega, hmod _ htop⟩
  · rw [toNat_buildInorderAckMask, Nat.testBit_two_pow_sub_one, decide_eq_true_iff,
      UInt32.toNat_ofNat'] at hbit
    have hle := Nat.mod_le n (2 ^ 32)
    refine ⟨n - 1 - (i + 1), by omega, by omega, hmod _ ?_⟩
    rw [hseq]
    exact (UInt8.ofNat_sub (by omega : i + 1 ≤ n - 1)).symm

/-! ### The invariant -/

/-- The two ends as a sliding window. -/
def Link.ends (s : Link β) : SlidingWindow.Ends where
  next := s.transfer.chunks.length
  marks := s.marks
  forward := s.forward
  back := s.back.map Prod.fst

/-- What holds of the link after every step. -/
structure LinkInv (chunks : List (List UInt8)) (s : Link β) : Prop where
  window : SlidingWindow.Inv clientWindow s.ends
  ledger : Ledger s.transfer s.engine
  no_tail : s.engine.hasTailSack = false
  pipe : s.transfer.mode = .pipe
  taken : s.transfer.chunks = chunks.take s.transfer.chunks.length
  in_list : ∀ p ∈ s.forward, p.1 < chunks.length
  frames : ∀ f ∈ s.back, ∀ view ∈ sackView f.2,
    view = (UInt8.ofNat (f.1 - 1), buildInorderAckMask (UInt32.ofNat f.1))
  written : ∃ n, s.engine.backend.written = chunks.take n ∧
    (s.engine.txn.state = .receiving → n = s.transfer.chunks.length)

omit [PanelWorld β ω] in
/-- A START that is taken begins to write anew. -/
lemma written_of_started {p : Payload} {now : UInt32}
    (hstarted : (e.onPipeStart p now).1.transferStarted = true) :
    (e.onPipeStart p now).2.backend.written = [] := by
  have ho := onPipeStart_outcome e p now
  generalize (e.onPipeStart p now).1 = res, (e.onPipeStart p now).2 = e₁ at ho hstarted ⊢
  cases ho with
  | badHeader | compressed | refused => cases hstarted
  | started _ _ _ e₁ hbegin =>
      obtain ⟨-, past, hcalls⟩ := hbegin.opened_calls
      simp [Recorder.written, hcalls, writesSinceBegin]

lemma LinkInv.opened (hled : Ledger t e) {p : Payload} {now : UInt32}
    (hstarted : (e.onPipeStart p now).1.transferStarted = true)
    (chunks : List (List UInt8)) : LinkInv chunks (Link.opened e p now) where
  window := SlidingWindow.inv_start clientWindow
  ledger := by
    have h := hled.pipeStart p now
    rw [if_pos hstarted] at h
    exact h.congr (takeTailSack_txn _) (takeTailSack_hwOwned _)
  no_tail := takeTailSack_hasTailSack _
  pipe := rfl
  taken := rfl
  in_list := by simp [Link.opened]
  frames := by simp [Link.opened]
  written := ⟨0, by simp [Link.opened, written_of_started hstarted], fun _ => rfl⟩

/-- The engine serves an operation: what is left to show is what the operation does to
the chunks accepted and written, and what its frames carry. -/
lemma LinkInv.serve {chunks : List (List UInt8)} {s : Link β} (h : LinkInv chunks s)
    {forward : List (ℕ × ℕ)} {op : EngineOp ω} {t' : Transfer}
    (ht : t' = watchTransfer s.transfer s.engine op) (hforward : forward.Sublist s.forward)
    (hwindow : SlidingWindow.Inv clientWindow
      { s.ends with next := t'.chunks.length, forward := forward })
    (hpipe : t'.mode = .pipe) (htaken : t'.chunks = chunks.take t'.chunks.length)
    (hframes : ∀ r ∈ s.engine.framesSent op, ∀ view ∈ sackView r,
      view = (UInt8.ofNat (t'.chunks.length - 1),
        buildInorderAckMask (UInt32.ofNat t'.chunks.length)))
    (hwritten : ∃ n, (s.engine.step op).backend.written = chunks.take n ∧
      ((s.engine.step op).txn.state = .receiving → n = t'.chunks.length)) :
    LinkInv chunks (Link.serve { s with forward := forward } op) where
  window := by
    have hacks := hwindow.acknowledge (s.engine.framesSent op).length
    simpa [Link.serve, Link.ends, ht, Function.comp_def] using hacks
  ledger := h.ledger.serve op
  no_tail := takeTailSack_hasTailSack _
  pipe := by simpa [Link.serve, ht] using hpipe
  taken := by simpa [Link.serve, ht] using htaken
  in_list p hp := h.in_list p (hforward.subset hp)
  frames f hf := by
    rcases List.mem_append.mp hf with hf | hf
    · exact h.frames f hf
    · obtain ⟨r, hr, rfl⟩ := List.mem_map.mp hf
      simpa [ht] using hframes r hr
  written := by simpa [Link.serve, TransferEngine.serve, ht] using hwritten

/-- An operation that neither accepts nor writes a chunk, and sends no SACK. -/
lemma LinkInv.serve_quiet {chunks : List (List UInt8)} {s : Link β} (h : LinkInv chunks s)
    {op : EngineOp ω} (ht : watchTransfer s.transfer s.engine op = s.transfer)
    (hframes : ∀ r ∈ s.engine.framesSent op, ackView r = none)
    (hwritten : (s.engine.step op).backend.written = s.engine.backend.written)
    (hstate : (s.engine.step op).txn.state = .receiving → s.engine.txn.state = .receiving) :
    LinkInv chunks (s.serve op) := by
  refine h.serve ht.symm (List.Sublist.refl _) h.window h.pipe h.taken ?_ ?_
  · intro r hr view hview
    rw [sackView_of_ackView_none (hframes r hr)] at hview
    cases hview
  · obtain ⟨n, hn, hreceiving⟩ := h.written
    exact ⟨n, hwritten.trans hn, fun hs => hreceiving (hstate hs)⟩

omit [OpenDisplayBackend β] in
/-- The chunk that comes next in the list. -/
lemma LinkInv.take_succ {chunks : List (List UInt8)} {s : Link β} (h : LinkInv chunks s)
    (hlt : s.transfer.chunks.length < chunks.length) :
    s.transfer.chunks ++ [chunks.getD s.transfer.chunks.length []] =
      chunks.take (s.transfer.chunks.length + 1) := by
  rw [List.take_add_one, List.getElem?_eq_getElem hlt, Option.toList_some, ← h.taken]
  simp [List.getD_eq_getElem?_getD, hlt]

/-- **The engine handles the oldest packet.**  If it carries the number the engine waits
for, it is the chunk the engine waits for. -/
lemma LinkInv.deliver {chunks : List (List UInt8)} {s : Link β} (h : LinkInv chunks s)
    {i base : ℕ} {rest : List (ℕ × ℕ)} (hf : s.forward = (i, base) :: rest) (now : UInt32) :
    LinkInv chunks
      (Link.serve { s with forward := rest }
        (.pipeData (chunkPayload chunks i) now : EngineOp ω)) := by
  have hmem : (i, base) ∈ s.forward := by rw [hf]; exact List.mem_cons_self
  have hrest : rest.Sublist s.forward := by rw [hf]; exact List.sublist_cons_self _ _
  have hbytes : (chunkPayload chunks i).bytes = UInt8.ofNat i :: chunks.getD i [] := by
    simp [chunkPayload]
  -- a packet with the number in force is the next chunk
  have hnext : s.engine.PipeReceiving → UInt8.ofNat i = s.engine.txn.nextPipeSequence →
      i = s.transfer.chunks.length := by
    intro hplace hseq
    have hc := (h.ledger.book_of_receiving hplace.1).2.1.counters
    rw [Transfer.pipeChunks_of_pipe h.pipe] at hc
    rw [hc.next_eq] at hseq
    have hmod : i % 256 = s.transfer.chunks.length % 256 := by
      simpa using congrArg UInt8.toNat hseq
    exact h.window.eq_next (M := 256) (p := (i, base)) (by decide) hmem hmod
  obtain ⟨n, hn, hreceiving⟩ := h.written
  -- every SACK that it sends carries the counters after the packet
  have hframes := sackView_of_framesSent (ω := ω) h.ledger h.no_tail
    (chunkPayload chunks i) now _ rfl
  have hmove := pipeData_chunkMove (ω := ω) s.transfer s.engine hbytes now
  have hlost : SlidingWindow.Inv clientWindow { s.ends with forward := rest } :=
    h.window.lose hrest (List.Sublist.refl _)
  cases hmove with
  | accepted hplace hseq ht hwritten =>
      obtain rfl := hnext hplace hseq
      have htake := h.take_succ (h.in_list _ hmem)
      refine h.serve rfl hrest ?_ ?_ ?_ hframes ?_
      · rw [ht, Transfer.length_chunks_accept]
        exact h.window.accept hf
      · rw [ht]; exact h.pipe
      · rw [ht, Transfer.length_chunks_accept]; exact htake
      · refine ⟨s.transfer.chunks.length + 1, ?_,
          fun _ => by rw [ht, Transfer.length_chunks_accept]⟩
        refine hwritten.trans ?_
        rw [hn, hreceiving hplace.1, ← h.taken, htake]
  | ignored ht hwritten hstate =>
      refine h.serve rfl hrest ?_ ?_ ?_ hframes ?_
      · rw [ht]; exact hlost
      · rw [ht]; exact h.pipe
      · rw [ht]; exact h.taken
      · exact ⟨n, hwritten.trans hn, fun hs => by rw [ht]; exact hreceiving (hstate hs)⟩
  | refused hplace hseq ht hwritten hidle =>
      -- the chunk was written and not accepted, and the transfer is over
      obtain rfl := hnext hplace hseq
      have htake := h.take_succ (h.in_list _ hmem)
      refine h.serve rfl hrest ?_ ?_ ?_ hframes ?_
      · rw [ht]; exact hlost
      · rw [ht]; exact h.pipe
      · rw [ht]; exact h.taken
      · refine ⟨s.transfer.chunks.length + 1, ?_, fun hs => ?_⟩
        · refine hwritten.trans ?_
          rw [hn, hreceiving hplace.1, ← h.taken, htake]
        · simp only [step, perform] at hs
          rw [hidle] at hs
          cases hs

/-- A tick writes nothing. -/
lemma tick_written (e : TransferEngine (Recorder β)) (now : UInt32) :
    (e.tick now).2.backend.written = e.backend.written := by
  have ho := tick_outcome e now
  generalize (e.tick now).1 = res, (e.tick now).2 = e₁ at ho ⊢
  have hpolled : ∀ {e₁}, Polled e e₁ → e₁.backend.written = e.backend.written := by
    intro e₁ hp
    cases hp with
    | free => rfl
    | pending => simp
  cases ho with
  | complete | failed | released => simp
  | waiting _ hp => exact hpolled hp
  | transferTimeout _ hp | refreshTimeout _ hp => simpa using hpolled hp

omit [OpenDisplayBackend β] in
/-- The client receives a frame. -/
lemma LinkInv.receive {chunks : List (List UInt8)} {s : Link β} (h : LinkInv chunks s)
    {n : ℕ} {r : Response} {rest : List (ℕ × Response)} (hb : s.back = (n, r) :: rest) :
    LinkInv chunks { s with marks := s.marks ++ newMarks s.marks r, back := rest } where
  window := by
    have hmem : (n, r) ∈ s.back := by rw [hb]; exact List.mem_cons_self
    have hends : s.ends.back = n :: rest.map Prod.fst := by simp [Link.ends, hb]
    refine h.window.mark hends fun c hc => ?_
    obtain ⟨hwindow, hcovers⟩ := List.mem_filter.mp hc
    rw [List.mem_range'_1] at hwindow
    obtain ⟨k, hk, hdepth, hmod⟩ := covered_of_covers (h.frames _ hmem) hcovers
    exact h.window.lt_of_covered (M := 256) (D := 33) (by decide)
      (by rw [hends]; exact List.mem_cons_self) hwindow.1 hwindow.2 hk hdepth hmod
  ledger := h.ledger
  no_tail := h.no_tail
  pipe := h.pipe
  taken := h.taken
  in_list := h.in_list
  frames f hf := h.frames f (by rw [hb]; exact List.mem_cons_of_mem _ hf)
  written := h.written

/-- **Every step of the link keeps the invariant.** -/
theorem LinkInv.step {chunks : List (List UInt8)} {s : Link β} (h : LinkInv chunks s)
    (op : LinkOp ω) : LinkInv chunks (linkStep chunks s op) := by
  cases op with
  | send i =>
      simp only [linkStep]
      split_ifs with hi
      · exact {
          window := h.window.send hi.1 hi.2.1
          ledger := h.ledger
          no_tail := h.no_tail
          pipe := h.pipe
          taken := h.taken
          in_list := by simpa [or_imp, forall_and] using ⟨fun a b => h.in_list (a, b), hi.2.2⟩
          frames := h.frames
          written := h.written }
      · exact h
  | losePacket k =>
      exact {
        window := h.window.lose (List.eraseIdx_sublist _ _) (List.Sublist.refl _)
        ledger := h.ledger
        no_tail := h.no_tail
        pipe := h.pipe
        taken := h.taken
        in_list := fun p hp => h.in_list p ((List.eraseIdx_sublist _ _).subset hp)
        frames := h.frames
        written := h.written }
  | deliver now =>
      rcases hf : s.forward with _ | ⟨⟨i, base⟩, rest⟩
      · simpa [linkStep, hf] using h
      · simpa [linkStep, hf] using h.deliver (ω := ω) hf now
  | loseFrame k =>
      exact {
        window := h.window.lose (List.Sublist.refl _) ((List.eraseIdx_sublist _ _).map _)
        ledger := h.ledger
        no_tail := h.no_tail
        pipe := h.pipe
        taken := h.taken
        in_list := h.in_list
        frames := fun f hf => h.frames f ((List.eraseIdx_sublist _ _).subset hf)
        written := h.written }
  | receive =>
      rcases hb : s.back with _ | ⟨⟨n, r⟩, rest⟩
      · simpa [linkStep, hb] using h
      · simpa [linkStep, hb] using h.receive hb
  | tick now =>
      refine h.serve_quiet rfl (framesSent_silent h.no_tail (by simp) (by simp))
        (tick_written s.engine now) fun hs => ?_
      cases step_receiving s.engine (.tick now : EngineOp ω) hs with
      | kept hstate => exact hstate
      | directOpened _ _ hop | pipeOpened _ _ _ hop => cases hop
  | world event =>
      exact h.serve_quiet rfl (framesSent_silent h.no_tail (by simp) (by simp)) rfl id

/-- **PIPE delivery is a go-back-N receiver.**  After any run that ends with an accepted
`0x80`, and over any run of the link with any losses and repetitions, what has been
written in the transfer is an initial segment of the client's chunks: none skipped,
repeated, out of order, or taken for one 256 places away. -/
theorem pipe_goBackN (b : β) (transferMs refreshMs : UInt32) (before : List (EngineOp ω))
    (p : Payload) (now : UInt32) (chunks : List (List UInt8)) (ops : List (LinkOp ω))
    (hstarted : ((Machine.exec serve (init (Recorder.fresh b) transferMs refreshMs)
      before).onPipeStart p now).1.transferStarted = true) :
    ∃ n, (Machine.exec (linkStep chunks)
      (Link.opened (Machine.exec serve (init (Recorder.fresh b) transferMs refreshMs) before)
        p now) ops).engine.backend.written = chunks.take n := by
  have hledger : ∃ t, Ledger t
      (Machine.exec serve (init (Recorder.fresh b) transferMs refreshMs) before) :=
    Machine.exec_invariant (I := fun e => ∃ t, Ledger t e)
      (fun _ op ⟨_, h⟩ => ⟨_, h.serve op⟩) ⟨{}, ledger_init _ _ _ _⟩ before
  obtain ⟨t, hled⟩ := hledger
  have hinv := Machine.exec_invariant (I := LinkInv chunks) (fun _ op h => h.step op)
    (LinkInv.opened hled hstarted chunks) ops
  obtain ⟨n, hn, -⟩ := hinv.written
  exact ⟨n, hn⟩

/-- Three chunks over a link that loses the first packet and a SACK. -/
def lossyTransfer : List (LinkOp Unit) :=
  [.send 0, .send 1, .losePacket 0, .deliver 1, .loseFrame 0, .send 0, .send 1, .deliver 2,
    .deliver 3, .tick 4, .receive, .send 2, .deliver 5]

theorem pipe_goBackN_lossyTransfer :
    ((init (Recorder.fresh (ScriptedPanel.accepting 3 [])) 30000 180000).onPipeStart
        (pipeHeader 16 1) 0).1.transferStarted = true ∧
      ∃ n, (Machine.exec (linkStep [[7], [8], [9]])
        (Link.opened (init (Recorder.fresh (ScriptedPanel.accepting 3 [])) 30000 180000)
          (pipeHeader 16 1) 0) lossyTransfer).engine.backend.written =
        ([[7], [8], [9]] : List (List UInt8)).take n :=
  ⟨by decide, pipe_goBackN (ScriptedPanel.accepting 3 []) 30000 180000 [] (pipeHeader 16 1) 0
    [[7], [8], [9]] lossyTransfer (by decide)⟩

end TransferEngine

end OpenDisplay
