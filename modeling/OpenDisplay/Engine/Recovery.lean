import OpenDisplay.Engine.AckCoverage
import OpenDisplay.Engine.Delivery
import OpenDisplay.Engine.GoBackN

/-!
# Going back recovers every loss but one

The link may have lost anything.  Once nothing is in flight any more, a client whose
transfer is still open goes back to the first chunk it does not know to be acknowledged,
and sends the list from there on, taking the answer to each packet before the next.  The
first answer tells it all that was accepted; from then on every chunk is accepted, and the
last one ends the transfer (`goBack_recovers`).

One loss cannot be recovered.  Before the first chunk is accepted the engine answers any
other chunk with a SACK that names chunk `0`.  A client that has received one never sends
chunk `0` again, and the engine takes nothing else.
-/

namespace OpenDisplay

open OpenDisplayBackend

namespace TransferEngine

variable {β ω : Type} [OpenDisplayBackend β] [PanelWorld β ω] {t : Transfer}
  {e : TransferEngine (Recorder β)} {full : UInt32} {inPhase : PanelPhase → β → Prop}
  {before : List BackendCall} {chunks : List (List UInt8)} {s : Link β}

/-! ### What a packet does to an open transfer -/

/-- What the engine makes of chunk `i`: the frames, the transfer and the engine after it. -/
inductive ChunkAnswer (full : UInt32) (inPhase : PanelPhase → β → Prop)
    (before : List BackendCall) (chunks : List (List UInt8)) (s : Link β) (i : ℕ) :
    List Response → Transfer → TransferEngine (Recorder β) → Prop
  /-- it is not the chunk that comes next -/
  | other (hother : i ≠ s.transfer.chunks.length) (frames : List Response)
      (e' : TransferEngine (Recorder β)) (htxn : e'.txn = s.engine.txn)
      (hfilling : Filling full inPhase before s.transfer e')
      (hsack : frames.any isSack = true) : ChunkAnswer full inPhase before chunks s i frames
        s.transfer e'
  /-- it is the next one, and there are more -/
  | next (hnext : i = s.transfer.chunks.length) (hmore : i + 1 < chunks.length)
      (frames : List Response) (e' : TransferEngine (Recorder β))
      (hfilling : Filling full inPhase before (s.transfer.accept (chunks.getD i [])) e')
      (hsack : frames.any isSack = true ∨
        e'.txn.acceptedSinceAck.toNat = s.engine.txn.acceptedSinceAck.toNat + 1) :
      ChunkAnswer full inPhase before chunks s i frames
        (s.transfer.accept (chunks.getD i [])) e'
  /-- it is the last one -/
  | last (hnext : i = s.transfer.chunks.length) (hlast : i + 1 = chunks.length)
      (frames : List Response) (e' : TransferEngine (Recorder β))
      (hshown : Shown full before (s.transfer.accept (chunks.getD i [])) e')
      (hsack : frames.any isSack = true) : ChunkAnswer full inPhase before chunks s i frames
        (s.transfer.accept (chunks.getD i [])) e'

omit [OpenDisplayBackend β] in
/-- The chunk that comes next fits, and fills the frame if it is the last one. -/
lemma LinkInv.room (h : LinkInv chunks s) (hsize : chunks.flatten.length = full.toNat)
    (hlast : [] ∉ chunks.getLast?) (hlt : s.transfer.chunks.length < chunks.length) :
    let size := s.transfer.size + (chunks.getD s.transfer.chunks.length []).length
    if s.transfer.chunks.length + 1 < chunks.length then size < full.toNat
    else size = full.toNat := by
  intro size
  have htaken : size + (chunks.drop (s.transfer.chunks.length + 1)).flatten.length =
      full.toNat := by
    rw [← hsize, ← congrArg (fun l => l.flatten.length)
      (List.take_append_drop (s.transfer.chunks.length + 1) chunks), ← h.take_succ hlt]
    simp [size, Transfer.size, Nat.add_assoc]
  split_ifs with hmore
  -- what is left ends with a chunk that is not empty
  · obtain ⟨front, final, rfl⟩ := (List.eq_nil_or_concat' chunks).resolve_left
      (List.ne_nil_of_length_pos (Nat.zero_lt_of_lt hlt))
    rw [List.length_append, List.length_singleton, Nat.add_lt_add_iff_right] at hmore
    rw [List.drop_append_of_le_length hmore, List.flatten_append, List.length_append] at htaken
    have hfinal : final ≠ [] := by
      rintro rfl
      exact hlast (by simp)
    have hpos := List.length_pos_iff.mpr hfinal
    simp only [List.flatten_cons, List.flatten_nil, List.append_nil] at htaken
    omega
  · rw [List.drop_of_length_le (by omega)] at htaken
    exact htaken

/-- **What the engine makes of a chunk** while the transfer is open and the panel obliges. -/
lemma LinkInv.chunkAnswer (h : LinkInv chunks s) (hpanel : Obliging full inPhase)
    (hsize : chunks.flatten.length = full.toNat) (hlast : [] ∉ chunks.getLast?)
    (hfilling : Filling full inPhase before s.transfer s.engine) {i : ℕ} (hi : i < chunks.length)
    (hnumber : i % 256 = s.transfer.chunks.length % 256 → i = s.transfer.chunks.length)
    (now : UInt32) :
    let op : EngineOp ω := .pipeData (chunkPayload chunks i) now
    ChunkAnswer full inPhase before chunks s i (s.engine.framesSent op)
      (watchTransfer s.transfer s.engine op) (s.engine.serve op) := by
  intro op
  have hbytes : (chunkPayload chunks i).bytes = UInt8.ofNat i :: chunks.getD i [] := by
    simp [chunkPayload]
  have hnext_eq := hfilling.next_eq h.pipe
  -- a packet with the number in force is the next chunk, and fits
  have hnext : ∀ data, (chunkPayload chunks i).bytes = s.engine.txn.nextPipeSequence :: data →
      i = s.transfer.chunks.length ∧ data = chunks.getD i [] ∧
        s.transfer.size + data.length ≤ full.toNat := by
    intro data hdata
    rw [hbytes] at hdata
    obtain ⟨hseq, rfl⟩ := List.cons.inj hdata
    rw [hnext_eq] at hseq
    have heq := hnumber (by simpa using congrArg UInt8.toNat hseq)
    have hroom := h.room hsize hlast (heq ▸ hi)
    rw [← heq] at hroom
    refine ⟨heq, rfl, ?_⟩
    split_ifs at hroom <;> omega
  have hkept : (s.engine.onPipeData (chunkPayload chunks i) now).2.stats.pipePackets =
      s.engine.stats.pipePackets → watchTransfer s.transfer s.engine op = s.transfer :=
    fun hsame => if_neg (not_not.mpr hsame)
  have hmoved : (s.engine.onPipeData (chunkPayload chunks i) now).2.stats.pipePackets ≠
      s.engine.stats.pipePackets →
        watchTransfer s.transfer s.engine op = s.transfer.accept (chunks.getD i []) := by
    intro hne
    rw [watchTransfer, hbytes, List.tail_cons]
    exact if_pos hne
  have ho := onPipeData_outcome s.engine (chunkPayload chunks i) now
  change ChunkAnswer full inPhase before chunks s i
    ((s.engine.onPipeData (chunkPayload chunks i) now).2.takeTailSack.1.toList ++
      [(s.engine.onPipeData (chunkPayload chunks i) now).1.response]) _
    (s.engine.onPipeData (chunkPayload chunks i) now).2.takeTailSack.2
  generalize (s.engine.onPipeData (chunkPayload chunks i) now).1 = res,
    (s.engine.onPipeData (chunkPayload chunks i) now).2 = e₁ at ho hkept hmoved ⊢
  cases ho with
  | latched hlatch => cases hfilling.not_fatal.symm.trans hlatch
  | misplaced _ hplace => exact absurd (hfilling.pipeReceiving h.pipe) hplace
  | malformed _ _ hnone => rw [hbytes] at hnone; cases hnone
  | outOfOrder _ _ seq data hdata hseq =>
      rw [hkept rfl]
      have hstaged : ({ s.engine with stats.retransmitRequests :=
          s.engine.stats.retransmitRequests + 1 }).hasTailSack = false := h.no_tail
      rw [takeTailSack_of_not hstaged]
      refine .other ?_ _ _ rfl ⟨hfilling.state_eq, hfilling.book, hfilling.full_eq,
        hfilling.not_fatal, hfilling.phase, hfilling.calls_eq⟩ (by simp [reply, isSack_inorderSack])
      rintro rfl
      rw [hbytes] at hdata
      exact hseq ((List.cons.inj hdata).1.symm.trans hnext_eq.symm)
  | oversize _ _ data hdata hbig =>
      have hfits := hfilling.fits (hnext data hdata).2.2
      omega
  | writeFailed _ _ data hdata _ hanswer =>
      exact absurd (hfilling.written hpanel (hnext data hdata).2.2).1 hanswer
  | accepted _ _ data hdata hfits _ _ _ hchunk =>
      obtain ⟨heq, rfl, hfit⟩ := hnext data hdata
      obtain ⟨-, hphase, hcalls⟩ := hfilling.written hpanel hfit
      have hfilled : Filling full inPhase before (s.transfer.accept (chunks.getD i []))
          (s.engine.pipeAccepted s.engine.txn.nextPipeSequence (chunks.getD i []) now) :=
        ⟨hfilling.state_eq, hfilling.book.acceptPipe h.pipe hfits now, hfilling.full_eq,
          hfilling.not_fatal, hphase, hcalls⟩
      have hroom := h.room hsize hlast (heq ▸ hi)
      rw [← heq, ← Transfer.size_accept] at hroom
      rw [hmoved (by rw [hchunk.pipePackets_eq]; exact Words.add_one_ne _)]
      split_ifs at hroom with hmore
      · have hopen := (h.ledger.book_of_receiving hfilling.state_eq).2.2 h.pipe
        have hstill := (hfilled.chunk_open h.no_tail hroom hchunk).2
        refine .next heq hmore _ _ hstill ?_
        cases hchunk with
        | completed _ _ _ hfinish =>
            have hstate := hstill.state_eq
            rw [takeTailSack_txn] at hstate
            exact absurd hstate hfinish.not_receiving
        | sacked =>
            exact .inl (by simp [reply, isSack_inorderSack])
        | silent =>
            rw [takeTailSack_txn]
            exact .inr (Words.toNat_add_one_of_lt hopen.since_lt)
      · obtain ⟨hframes, hshown⟩ := hfilled.chunk_last hpanel hroom hchunk
        refine .last heq (by omega) _ _ hshown ?_
        rw [hframes]
        simp [isSack_inorderSack]

/-! ### The client receives -/

/-- The client receives what is in flight to it: it does not forget, and a SACK tells it all
that the engine had accepted. -/
lemma LinkInv.receives (h : LinkInv chunks s) {k : ℕ} (hk : s.back.length ≤ k) :
    let s' := Machine.exec (linkStep (ω := ω) chunks) s (List.replicate k .receive)
    s'.transfer = s.transfer ∧ s'.engine = s.engine ∧ s'.forward = s.forward ∧ s'.back = [] ∧
      SlidingWindow.leading s.marks ≤ SlidingWindow.leading s'.marks ∧
      ∀ f ∈ s.back, isSack f.2 = true → f.1 < 2 ^ 32 →
        f.1 ≤ SlidingWindow.leading s'.marks := by
  induction k generalizing s with
  | zero =>
      have hnil : s.back = [] := List.length_eq_zero_iff.mp (Nat.le_zero.mp hk)
      refine ⟨rfl, rfl, rfl, hnil, le_rfl, ?_⟩
      rw [hnil]
      exact fun f hf => absurd hf List.not_mem_nil
  | succ k ih =>
      rw [List.replicate_succ, Machine.exec_cons]
      rcases hb : s.back with _ | ⟨⟨n, r⟩, rest⟩
      · have hsame : linkStep chunks s (.receive : LinkOp ω) = s := by simp [linkStep, hb]
        rw [hsame]
        obtain ⟨ht, he, hf, hback, hle, -⟩ := ih h (by simp [hb])
        exact ⟨ht, he, hf, hback, hle, fun f hf => absurd hf List.not_mem_nil⟩
      · have hnext : linkStep chunks s (.receive : LinkOp ω) =
            { s with marks := s.marks ++ newMarks s.marks r, back := rest } := by
          simp [linkStep, hb]
        rw [hnext]
        rw [hb, List.length_cons] at hk
        obtain ⟨ht, he, hf, hback, hle, hsacks⟩ := ih (h.receive hb) (Nat.le_of_succ_le_succ hk)
        have hfirst := SlidingWindow.leading_le_append s.marks (newMarks s.marks r)
        refine ⟨ht, he, hf, hback, hfirst.trans hle, ?_⟩
        rintro f hmem hsack hlt
        rcases List.mem_cons.mp hmem with rfl | hmem
        · refine le_trans (SlidingWindow.le_leading fun c hc => ?_) hle
          rcases Nat.lt_or_ge c (SlidingWindow.leading s.marks) with hold | hnew
          · exact List.mem_append_left _ (SlidingWindow.mem_of_lt_leading hold)
          -- what was not known is in the window, and the SACK covers it
          · have hin : (n, r) ∈ s.back := by rw [hb]; exact List.mem_cons_self
            have hback_le : n ≤ s.transfer.chunks.length :=
              h.window.back_le n (List.mem_map_of_mem hin)
            have hwindow : s.transfer.chunks.length ≤
              SlidingWindow.leading s.marks + clientWindow := h.window.next_le
            rw [clientWindow] at hwindow
            refine List.mem_append_right _ (List.mem_filter.mpr ⟨?_, ?_⟩)
            · rw [List.mem_range'_1, clientWindow]
              dsimp only at hc
              omega
            · dsimp only at hc
              exact covers_of_sackOf (h.frames _ hin) hsack hlt hc (by omega)
        · exact hsacks f hmem hsack hlt

/-! ### Going back -/

/-- The client sends chunk `i`, and takes the answer. -/
def exchange (i : ℕ) (nowMs : UInt32) : List (LinkOp ω) :=
  [.send i, .deliver nowMs, .receive, .receive]

/-- The client goes back to the first chunk that it does not know to be acknowledged, and
sends from there on. -/
def goBack (chunks : List (List UInt8)) (s : Link β) (times : ℕ → UInt32) : List (LinkOp ω) :=
  let base := SlidingWindow.leading s.marks
  (List.range' base (chunks.length - base)).flatMap fun i => exchange i (times i)

/-- Nothing is in flight. -/
def Link.Still (s : Link β) : Prop := s.forward = [] ∧ s.back = []

/-- The client is about to send chunk `i`, and nothing is in flight: it has been told all but
the chunks since the last SACK, or goes back just now. -/
structure InStep (full : UInt32) (inPhase : PanelPhase → β → Prop) (before : List BackendCall)
    (chunks : List (List UInt8)) (s : Link β) (i : ℕ) : Prop where
  inv : LinkInv chunks s
  still : s.Still
  filling : Filling full inPhase before s.transfer s.engine
  cadence_le : s.engine.txn.negotiatedAckEvery ≤ pipeMaxAckEvery
  more : s.transfer.chunks.length < chunks.length
  reached : i ≤ s.transfer.chunks.length
  known : SlidingWindow.leading s.marks ≤ s.transfer.chunks.length
  told : i = SlidingWindow.leading s.marks ∨ s.transfer.chunks.length ≤
    SlidingWindow.leading s.marks + s.engine.txn.acceptedSinceAck.toNat

/-- The transfer is complete, and the client knows it. -/
structure CaughtUp (chunks : List (List UInt8)) (s : Link β) : Prop where
  still : s.Still
  known : SlidingWindow.leading s.marks = chunks.length
  refreshing : s.engine.txn.state = .refreshing
  written_eq : s.engine.backend.written = chunks

omit [OpenDisplayBackend β] [PanelWorld β ω] in
/-- What has been written when the panel refreshes. -/
lemma Shown.written_eq (h : Shown full before t e) : e.backend.written = t.chunks := by
  obtain ⟨frame, -, hcalls⟩ := h.calls_eq
  have hplaced : ∀ (calls : List BackendCall) (blocks : List (ℕ × List UInt8)),
      writesSinceBegin (calls ++ blocks.map fun p => .writeContiguous (UInt32.ofNat p.1) p.2 .ok) =
        writesSinceBegin calls ++ blocks.map Prod.snd := by
    intro calls blocks
    induction blocks using List.reverseRecOn with
    | nil => simp
    | append_singleton blocks p ih =>
        rw [List.map_append, ← List.append_assoc, List.map_append, ← List.append_assoc, ← ih]
        simp [writesSinceBegin]
  have hwrites := hplaced (before ++ [.beginFrame frame .ok]) (Blocks.place 0 t.chunks)
  rw [Blocks.map_snd_place] at hwrites
  rw [Recorder.written, hcalls]
  simpa [writesSinceBegin, Transfer.writes] using hwrites

/-- The client sends a chunk of its window and takes the answer: the engine has handled the
chunk, and if it answered with a SACK the client knows all that is accepted. -/
lemma LinkInv.exchange (h : LinkInv chunks s) (hstill : s.Still) {i : ℕ}
    (hsend : SlidingWindow.leading s.marks ≤ i)
    (hinside : i < SlidingWindow.leading s.marks + clientWindow) (hi : i < chunks.length)
    (now : UInt32) :
    let op : EngineOp ω := .pipeData (chunkPayload chunks i) now
    let s' := Machine.exec (linkStep (ω := ω) chunks) s (TransferEngine.exchange i now)
    LinkInv chunks s' ∧ s'.Still ∧ s'.engine = s.engine.serve op ∧
      s'.transfer = watchTransfer s.transfer s.engine op ∧
      SlidingWindow.leading s.marks ≤ SlidingWindow.leading s'.marks ∧
      ((s.engine.framesSent op).any isSack = true → s'.transfer.chunks.length < 2 ^ 32 →
        s'.transfer.chunks.length ≤ SlidingWindow.leading s'.marks) := by
  intro op s'
  obtain ⟨hforward, hback⟩ := hstill
  have hserved : Machine.exec (linkStep (ω := ω) chunks) s [.send i, .deliver now] =
      s.serve op := by
    rw [Machine.exec_cons, Machine.exec_cons, Machine.exec_nil, linkStep,
      if_pos ⟨hsend, hinside, hi⟩, linkStep]
    simp only [hforward, List.nil_append]
    rw [← hforward]
  have hinv : LinkInv chunks (s.serve op) := by
    rw [← hserved]
    exact Machine.exec_invariant (I := LinkInv chunks) (fun _ op h => h.step op) h _
  have hframes : (s.serve op).back = (s.engine.framesSent op).map fun r =>
      ((watchTransfer s.transfer s.engine op).chunks.length, r) := by
    rw [Link.serve, hback, List.nil_append]
  have hfew : (s.serve op).back.length ≤ 2 := by
    rw [hframes, List.length_map, framesSent, List.length_append, List.length_singleton,
      Nat.add_le_add_iff_right]
    exact Option.length_toList_le
  have hall : s' = Machine.exec (linkStep (ω := ω) chunks) (s.serve op)
      (List.replicate 2 .receive) := by
    rw [← hserved, ← Machine.exec_append]
    rfl
  obtain ⟨ht, he, hf, hnil, hle, hsacks⟩ := hinv.receives (ω := ω) hfew
  rw [← hall] at ht he hf hnil hle hsacks
  refine ⟨?_, ⟨hf.trans hforward, hnil⟩, he, ht, hle, fun hany hlt => ?_⟩
  · exact Machine.exec_invariant (I := LinkInv chunks) (fun _ op h => h.step op) h _
  · obtain ⟨r, hr, hsack⟩ := List.any_eq_true.mp hany
    have hmem : ((s.serve op).transfer.chunks.length, r) ∈ (s.serve op).back := by
      rw [hframes]
      exact List.mem_map_of_mem hr
    rw [ht] at hlt ⊢
    exact hsacks _ hmem hsack hlt

lemma cadence_le_serve
    (h : e.PipeReceiving → e.txn.negotiatedAckEvery ≤ pipeMaxAckEvery) (op : EngineOp ω)
    (hplace : (e.serve op).PipeReceiving) :
    (e.serve op).txn.negotiatedAckEvery ≤ pipeMaxAckEvery := by
  rw [PipeReceiving, serve, takeTailSack_txn] at hplace
  rw [serve, takeTailSack_txn]
  exact cadence_le_step h op hplace

/-- **One chunk further.** -/
lemma InStep.step {i : ℕ} (h : InStep full inPhase before chunks s i)
    (hpanel : Obliging full inPhase)
    (hsize : chunks.flatten.length = full.toNat) (hlast : [] ∉ chunks.getLast?)
    (hcount : chunks.length < 2 ^ 32) (hi : i < chunks.length) (now : UInt32) :
    let s' := Machine.exec (linkStep (ω := ω) chunks) s (exchange i now)
    (i + 1 < chunks.length → InStep full inPhase before chunks s' (i + 1)) ∧
      (i + 1 = chunks.length → CaughtUp chunks s') := by
  obtain ⟨hforward, hback⟩ := h.still
  have hmore := h.more
  have hknown := h.known
  rcases Nat.lt_or_ge i (SlidingWindow.leading s.marks) with hskip | hsend
  -- the client knows better by now
  · have hsame : Machine.exec (linkStep (ω := ω) chunks) s (exchange i now) = s := by
      simp [exchange, linkStep, hforward, hback, Nat.not_le.mpr hskip]
    rw [hsame]
    refine ⟨fun _ => { h with reached := by omega, told := .inr ?_ }, fun hend => ?_⟩
    · have htold := h.told
      omega
    · omega
  · have hwindow : s.transfer.chunks.length ≤ SlidingWindow.leading s.marks + clientWindow :=
      h.inv.window.next_le
    rw [clientWindow] at hwindow
    have hopen := (h.inv.ledger.book_of_receiving h.filling.state_eq).2.2 h.inv.pipe
    have hsince := UInt8.lt_iff_toNat_lt.mp (UInt8.lt_of_lt_of_le hopen.since_lt h.cadence_le)
    have hbound : pipeMaxAckEvery.toNat = 4 := rfl
    have hreached := h.reached
    have htold := h.told
    have hinside : i < SlidingWindow.leading s.marks + clientWindow := by
      rw [clientWindow]
      omega
    have hanswer := h.inv.chunkAnswer (ω := ω) hpanel hsize hlast h.filling hi
      (SlidingWindow.eq_of_mod_eq (by omega) (by omega)) now
    obtain ⟨hinv, hstill, he, ht, hle, hsacks⟩ :=
      h.inv.exchange (ω := ω) h.still hsend hinside hi now
    have hcadence := cadence_le_serve (fun _ => h.cadence_le)
      (.pipeData (chunkPayload chunks i) now : EngineOp ω)
    dsimp only at hanswer he ht hsacks
    rw [← he, ← ht] at hanswer
    rw [← he] at hcadence
    generalize Machine.exec (linkStep (ω := ω) chunks) s (exchange i now) = s',
      s.engine.framesSent (.pipeData (chunkPayload chunks i) now : EngineOp ω) = frames
      at hanswer hinv hstill he ht hle hsacks hcadence ⊢
    have hknown' : SlidingWindow.leading s'.marks ≤ max s'.transfer.chunks.length 1 :=
      SlidingWindow.leading_le_of_forall_lt hinv.window.marks_lt
    obtain ⟨t', e', marks, forward, back⟩ := s'
    dsimp only at hanswer hsacks hknown' hcadence hle
    cases hanswer with
    | other hother _ _ htxn hfilling hsack =>
        have hall := hsacks hsack (by omega)
        refine ⟨fun _ => ⟨hinv, hstill, hfilling, hcadence (hfilling.pipeReceiving h.inv.pipe),
          hmore, ?_, ?_, .inr ?_⟩, fun hend => ?_⟩
        any_goals dsimp only
        all_goals omega
    | next hnext hmore _ _ hfilling hsack =>
        rw [Transfer.length_chunks_accept] at hsacks hknown'
        refine ⟨fun _ => ⟨hinv, hstill, hfilling, hcadence (hfilling.pipeReceiving h.inv.pipe),
          ?_, ?_, ?_, .inr ?_⟩, fun hend => ?_⟩
        any_goals dsimp only; rw [Transfer.length_chunks_accept]
        any_goals omega
        -- all is told but the chunks since the last SACK, of which this is one
        · rcases hsack with hsack | hsack
          · have hall := hsacks hsack (by omega)
            omega
          · rw [hsack]
            omega
    | last hnext hend _ _ hshown hsack =>
        rw [Transfer.length_chunks_accept] at hsacks hknown'
        have hall := hsacks hsack (by omega)
        refine ⟨fun hmore => by omega, fun _ => ⟨hstill, ?_, hshown.state_eq, ?_⟩⟩
        · dsimp only
          omega
        · have htaken := hinv.taken
          rw [Transfer.length_chunks_accept, ← hnext, hend, List.take_length] at htaken
          exact hshown.written_eq.trans htaken

/-- **Going back ends the transfer**, if what the client knows is true. -/
lemma InStep.run (hpanel : Obliging full inPhase) (hsize : chunks.flatten.length = full.toNat)
    (hlast : [] ∉ chunks.getLast?) (hcount : chunks.length < 2 ^ 32) (times : ℕ → UInt32) {i k : ℕ}
    (hk : i + (k + 1) = chunks.length) (h : InStep full inPhase before chunks s i) :
    CaughtUp chunks (Machine.exec (linkStep (ω := ω) chunks) s
      ((List.range' i (k + 1)).flatMap fun i => exchange i (times i))) := by
  induction k generalizing s i with
  | zero =>
      obtain ⟨-, hdone⟩ := h.step (ω := ω) hpanel hsize hlast hcount (by omega) (times i)
      simpa using hdone hk
  | succ k ih =>
      obtain ⟨hnext, -⟩ := h.step (ω := ω) hpanel hsize hlast hcount (by omega) (times i)
      rw [List.range'_succ, List.flatMap_cons, Machine.exec_append]
      exact ih (by omega) (hnext (by omega))

/-! ### A transfer that stays open -/

/-- The panel does not leave its phase. -/
def LinkOp.Benign (inPhase : PanelPhase → β → Prop) : LinkOp ω → Prop
  | .world event => ∀ phase b, inPhase phase b → inPhase phase (PanelWorld.happen event b)
  | _ => True

/-- The transfer of the chunks is open, and the panel has followed it. -/
structure Follows (full : UInt32) (inPhase : PanelPhase → β → Prop) (before : List BackendCall)
    (chunks : List (List UInt8)) (t : Transfer) (e : TransferEngine (Recorder β)) : Prop where
  filling : Filling full inPhase before t e
  cadence_le : e.txn.negotiatedAckEvery ≤ pipeMaxAckEvery
  more : t.chunks.length < chunks.length

/-- A tick that leaves a transfer open does nothing. -/
lemma serve_tick_receiving (hw : e.txn.state = .receiving → e.hwOwned = false)
    (htail : e.hasTailSack = false) {now : UInt32}
    (hstate : (e.tick now).2.txn.state = .receiving) :
    e.serve (.tick now : EngineOp ω) = e := by
  have ho := tick_outcome e now
  change (e.tick now).2.takeTailSack.2 = e
  generalize (e.tick now).1 = res, (e.tick now).2 = e₁ at ho hstate ⊢
  cases ho with
  | complete | failed => cases hstate
  | released hw' _ => cases (hw hstate).symm.trans hw'
  | waiting _ hpolled =>
      cases hpolled with
      | free => rw [takeTailSack_of_not htail]
      | pending hw' => cases (hw hstate).symm.trans hw'
  | transferTimeout | refreshTimeout => simp at hstate

/-- What leaves the transfer open has found it open, and the panel follows. -/
lemma LinkInv.follows_step (h : LinkInv chunks s) (hpanel : Obliging full inPhase)
    (hsize : chunks.flatten.length = full.toNat) (hlast : [] ∉ chunks.getLast?)
    (hopen : s.engine.txn.state = .receiving →
      Follows full inPhase before chunks s.transfer s.engine)
    {op : LinkOp ω} (hop : op.Benign inPhase)
    (hstate : (linkStep chunks s op).engine.txn.state = .receiving) :
    Follows full inPhase before chunks (linkStep chunks s op).transfer
      (linkStep chunks s op).engine := by
  cases op with
  | send i =>
      rw [linkStep] at hstate ⊢
      split_ifs at hstate ⊢
      · exact hopen hstate
      · exact hopen hstate
  | losePacket | loseFrame => exact hopen hstate
  | receive =>
      rcases hb : s.back with _ | ⟨f, rest⟩
      · simp only [linkStep, hb] at hstate ⊢
        exact hopen hstate
      · simp only [linkStep, hb] at hstate ⊢
        exact hopen hstate
  | deliver now =>
      rcases hf : s.forward with _ | ⟨⟨i, base⟩, rest⟩
      · simp only [linkStep, hf] at hstate ⊢
        exact hopen hstate
      · simp only [linkStep, hf] at hstate ⊢
        rw [Link.serve] at hstate ⊢
        dsimp only at hstate ⊢
        have hmem : (i, base) ∈ s.forward := by
          rw [hf]
          exact List.mem_cons_self
        have hwas : s.engine.txn.state = .receiving := by
          rw [TransferEngine.serve, takeTailSack_txn] at hstate
          cases step_receiving s.engine _ hstate with
          | kept hstate => exact hstate
          | directOpened _ _ hop | pipeOpened _ _ _ hop => cases hop
        have hfollows := hopen hwas
        have hanswer := h.chunkAnswer (ω := ω) hpanel hsize hlast hfollows.filling
          (h.in_list _ hmem) (h.window.eq_next (M := 256) (p := (i, base)) (by decide) hmem) now
        have hcadence := cadence_le_serve (fun _ => hfollows.cadence_le)
          (.pipeData (chunkPayload chunks i) now : EngineOp ω)
        dsimp only at hanswer
        generalize watchTransfer s.transfer s.engine
            (.pipeData (chunkPayload chunks i) now : EngineOp ω) = t',
          s.engine.serve (.pipeData (chunkPayload chunks i) now : EngineOp ω) = e'
          at hanswer hcadence hstate ⊢
        cases hanswer with
        | other _ _ _ _ hfilling =>
            exact ⟨hfilling, hcadence (hfilling.pipeReceiving h.pipe), hfollows.more⟩
        | next hnext hmore _ _ hfilling =>
            refine ⟨hfilling, hcadence (hfilling.pipeReceiving h.pipe), ?_⟩
            rw [Transfer.length_chunks_accept, ← hnext]
            exact hmore
        | last _ _ _ _ hshown => cases hshown.state_eq.symm.trans hstate
  | tick now =>
      have hsame := serve_tick_receiving (ω := ω)
        (fun hstate => (h.ledger.book_of_receiving hstate).1) h.no_tail
        ((congrArg Transaction.state (takeTailSack_txn _)).symm.trans hstate)
      rw [linkStep, Link.serve, hsame] at hstate ⊢
      exact hopen hstate
  | world event =>
      have hkept : ({ s.engine with
          backend := PanelWorld.happen event s.engine.backend }).hasTailSack = false := h.no_tail
      have hserved : s.engine.serve (.world event : EngineOp ω) =
          { s.engine with backend := PanelWorld.happen event s.engine.backend } :=
        congrArg Prod.snd (takeTailSack_of_not hkept)
      rw [linkStep, Link.serve, hserved] at hstate ⊢
      obtain ⟨hfilling, hcadence, hmore⟩ := hopen hstate
      exact ⟨⟨hfilling.state_eq, hfilling.book, hfilling.full_eq, hfilling.not_fatal,
        hop _ _ hfilling.phase, hfilling.calls_eq⟩, hcadence, hmore⟩

variable (ω) in
include ω in
/-- The transfer that an accepted START opens. -/
lemma follows_opened (hpanel : Obliging full inPhase) (hready : inPhase .ready e.backend.panel)
    (htail : e.hasTailSack = false)
    (hcadence : e.PipeReceiving → e.txn.negotiatedAckEvery ≤ pipeMaxAckEvery) {p : Payload}
    {now : UInt32} (hstarted : (e.onPipeStart p now).1.transferStarted = true)
    (hchunks : 0 < chunks.length) :
    Follows full inPhase e.cleared.backend.calls chunks (Link.opened e p now).transfer
      (Link.opened e p now).engine := by
  obtain ⟨req, hparse, hflag, hw, hsize⟩ : ∃ req, parsePipeStart p = .ok req ∧
      req.flags &&& pipeFlagCompressed = 0 ∧ e.hwOwned = false ∧ req.totalSize = full := by
    have ho := onPipeStart_outcome e p now
    generalize (e.onPipeStart p now).1 = res, (e.onPipeStart p now).2 = e₁ at ho hstarted ⊢
    cases ho with
    | badHeader | compressed | refused => cases hstarted
    | started req hparse hflag _ hbegin =>
        cases hbegin with
        | opened hw hsize =>
            have hfull := hpanel.full_eq (ready_cleared hpanel hready)
            exact ⟨req, hparse, hflag, hw, hsize.trans hfull⟩
  obtain ⟨-, hfilling⟩ :=
    filling_of_pipeStart (ω := ω) hpanel hready hw htail hparse hflag hsize now
  exact ⟨hfilling, cadence_le_serve hcadence (.pipeStart p now : EngineOp ω)
    (hfilling.pipeReceiving rfl), hchunks⟩

/-! ### The loss that is not recovered -/

/-- The client has been told of chunk `0`, which has not been accepted, and does not send it
again. -/
structure Misled (chunks : List (List UInt8)) (s : Link β) : Prop where
  inv : LinkInv chunks s
  nothing : s.transfer.chunks = []
  written_eq : s.engine.backend.written = []
  told : 0 < SlidingWindow.leading s.marks
  passed : ∀ p ∈ s.forward, 0 < p.2

/-- The engine takes no chunk from a client that is misled. -/
lemma Misled.step (h : Misled chunks s) (op : LinkOp ω) : Misled chunks (linkStep chunks s op) := by
  have hinv := h.inv.step op
  cases op with
  | send i =>
      rw [linkStep] at hinv ⊢
      split_ifs at hinv ⊢
      · refine ⟨hinv, h.nothing, h.written_eq, h.told, ?_⟩
        simp only [List.mem_append, List.mem_singleton]
        rintro p (hp | rfl)
        · exact h.passed p hp
        · exact h.told
      · exact h
  | losePacket k =>
      exact ⟨hinv, h.nothing, h.written_eq, h.told,
        fun p hp => h.passed p ((List.eraseIdx_sublist _ _).subset hp)⟩
  | loseFrame => exact ⟨hinv, h.nothing, h.written_eq, h.told, h.passed⟩
  | receive =>
      rcases hb : s.back with _ | ⟨f, rest⟩
      · simp only [linkStep, hb] at hinv ⊢
        exact h
      · simp only [linkStep, hb] at hinv ⊢
        exact ⟨hinv, h.nothing, h.written_eq,
          Nat.lt_of_lt_of_le h.told (SlidingWindow.leading_le_append _ _), h.passed⟩
  | deliver now =>
      rcases hf : s.forward with _ | ⟨⟨i, base⟩, rest⟩
      · simp only [linkStep, hf] at hinv ⊢
        exact h
      · simp only [linkStep, hf] at hinv ⊢
        have hmem : (i, base) ∈ s.forward := by
          rw [hf]
          exact List.mem_cons_self
        have hbytes : (chunkPayload chunks i).bytes = UInt8.ofNat i :: chunks.getD i [] := by
          simp [chunkPayload]
        have hcount : s.ends.next = 0 := by rw [Link.ends, h.nothing]; rfl
        have hne : i % 256 ≠ 0 := by
          have hne := h.inv.window.ne_next (M := 256) (p := (i, base)) (by decide) hmem
            (by rw [hcount]; exact h.passed _ hmem)
          rwa [hcount] at hne
        -- a chunk with the number in force would be chunk `0`
        have hother : s.engine.PipeReceiving → UInt8.ofNat i ≠ s.engine.txn.nextPipeSequence := by
          intro hplace hseq
          have hc := (h.inv.ledger.book_of_receiving hplace.1).2.1.counters
          rw [Transfer.pipeChunks_of_pipe h.inv.pipe, h.nothing] at hc
          rw [hc.next_eq] at hseq
          exact hne (by simpa using congrArg UInt8.toNat hseq)
        have hmove := pipeData_chunkMove (ω := ω) s.transfer s.engine hbytes now
        have hpassed : ∀ p ∈ rest, 0 < p.2 := fun p hp => h.passed p (by
          rw [hf]
          exact List.mem_cons_of_mem _ hp)
        cases hmove with
        | accepted hplace hseq | refused hplace hseq => exact absurd hseq (hother hplace)
        | ignored ht hwritten =>
            refine ⟨hinv, ?_, ?_, h.told, hpassed⟩
            · exact (congrArg Transfer.chunks ht).trans h.nothing
            · rw [Link.serve, TransferEngine.serve, takeTailSack_backend]
              exact hwritten.trans h.written_eq
  | tick now =>
      refine ⟨hinv, h.nothing, ?_, h.told, h.passed⟩
      rw [linkStep, Link.serve, TransferEngine.serve, takeTailSack_backend]
      exact (tick_written s.engine now).trans h.written_eq
  | world event =>
      refine ⟨hinv, h.nothing, ?_, h.told, h.passed⟩
      rw [linkStep, Link.serve, TransferEngine.serve, takeTailSack_backend]
      exact h.written_eq

/-! ### Every loss but one -/

/-- **Going back recovers every loss but one.**  On a panel that obliges, after any run that
ends with an accepted `0x80` and any run of the link with any losses and repetitions, let
the transfer be open and nothing in flight.  If the client knows no more than has been
accepted, it goes back, and the transfer is complete: all chunks are written, and the client
knows it.  If it has been told of chunk `0` before that was accepted, nothing is ever written,
whatever it sends within its window. -/
theorem goBack_recovers (hpanel : Obliging full inPhase) (b : β) (transferMs refreshMs : UInt32)
    (past : List (EngineOp ω)) (p : Payload) (now : UInt32) (hfull : 0 < full)
    (chunks : List (List UInt8)) (hsize : chunks.flatten.length = full.toNat)
    (hlast : [] ∉ chunks.getLast?) (hcount : chunks.length < 2 ^ 32) (ops : List (LinkOp ω))
    (hops : ∀ op ∈ ops, op.Benign inPhase) :
    let e := Machine.exec serve (init (Recorder.fresh b) transferMs refreshMs) past
    let s := Machine.exec (linkStep chunks) (Link.opened e p now) ops
    inPhase .ready e.backend.panel → (e.onPipeStart p now).1.transferStarted = true →
    s.Still → s.engine.txn.state = .receiving →
      (SlidingWindow.leading s.marks ≤ s.transfer.chunks.length → ∀ times,
        CaughtUp chunks (Machine.exec (linkStep (ω := ω) chunks) s (goBack chunks s times))) ∧
      (s.transfer.chunks.length < SlidingWindow.leading s.marks → ∀ later : List (LinkOp ω),
        (Machine.exec (linkStep chunks) s later).engine.backend.written = []) := by
  intro e s hready hstarted hstill hstate
  obtain ⟨⟨t, hled⟩, htail, hcadence⟩ : (∃ t, Ledger t e) ∧ e.hasTailSack = false ∧
      (e.PipeReceiving → e.txn.negotiatedAckEvery ≤ pipeMaxAckEvery) := by
    refine Machine.exec_invariant (I := fun e : TransferEngine (Recorder β) => (∃ t, Ledger t e) ∧
      e.hasTailSack = false ∧ (e.PipeReceiving → e.txn.negotiatedAckEvery ≤ pipeMaxAckEvery))
      ?_ ⟨⟨{}, ledger_init _ _ _ _⟩, rfl, fun hplace => nomatch hplace.1⟩ past
    rintro e op ⟨⟨t, hled⟩, -, hcadence⟩
    exact ⟨⟨_, hled.serve op⟩, takeTailSack_hasTailSack _, cadence_le_serve hcadence op⟩
  have hchunks : 0 < chunks.length := by
    rw [List.length_pos_iff]
    rintro rfl
    exact absurd (UInt32.lt_iff_toNat_lt.mp hfull) (by simp [← hsize])
  have hrun : LinkInv chunks s ∧ (s.engine.txn.state = .receiving →
      Follows full inPhase e.cleared.backend.calls chunks s.transfer s.engine) := by
    refine Machine.exec_invariant_of_allSteps (P := fun _ (op : LinkOp ω) => op.Benign inPhase)
      (I := fun s => LinkInv chunks s ∧ (s.engine.txn.state = .receiving →
        Follows full inPhase e.cleared.backend.calls chunks s.transfer s.engine)) ?_
      ⟨LinkInv.opened hled hstarted chunks,
        fun _ => follows_opened ω hpanel hready htail hcadence hstarted hchunks⟩
      (Machine.allSteps_of_forall_mem _ (fun op hop _ => hops op hop) _)
    rintro s op ⟨hinv, hopen⟩ hop
    exact ⟨hinv.step op, hinv.follows_step hpanel hsize hlast hopen hop⟩
  obtain ⟨hinv, hopen⟩ := hrun
  obtain ⟨hfilling, hcadence_le, hmore⟩ := hopen hstate
  refine ⟨fun hknown times => ?_, fun hmisled later => ?_⟩
  · have hstep : InStep full inPhase e.cleared.backend.calls chunks s
        (SlidingWindow.leading s.marks) :=
      ⟨hinv, hstill, hfilling, hcadence_le, hmore, hknown, hknown, .inl rfl⟩
    obtain ⟨k, hk⟩ := Nat.exists_eq_add_of_lt (Nat.lt_of_le_of_lt hknown hmore)
    have hrest : chunks.length - SlidingWindow.leading s.marks = k + 1 := by omega
    rw [goBack, hrest]
    exact InStep.run hpanel hsize hlast hcount times (by omega) hstep
  -- only the number of the first chunk can be told before anything is accepted
  · have hbound : SlidingWindow.leading s.marks ≤ max s.transfer.chunks.length 1 :=
      SlidingWindow.leading_le_of_forall_lt hinv.window.marks_lt
    have hnothing : s.transfer.chunks = [] := List.length_eq_zero_iff.mp (by omega)
    obtain ⟨n, hwritten, hn⟩ := hinv.written
    have hstart : Misled chunks s := by
      refine ⟨hinv, hnothing, ?_, by omega, ?_⟩
      · rw [hwritten, hn hstate, hnothing]
        rfl
      · rw [hstill.1]
        exact List.forall_mem_nil _
    exact (Machine.exec_invariant (I := Misled chunks) (fun _ op h => h.step op) hstart
      later).written_eq

/-- Three chunks on a link to a panel that takes them, after these steps. -/
def threeChunks (ops : List (LinkOp Unit)) : Link ScriptedPanel :=
  Machine.exec (linkStep [[7], [8], [9]])
    (Link.opened (init (Recorder.fresh (ScriptedPanel.accepting 3 [])) 30000 180000)
      (pipeHeader 16 1) 0) ops

/-- The SACK of the first chunk is lost, and the second chunk. -/
def sackLost : List (LinkOp Unit) := [.send 0, .send 1, .losePacket 1, .deliver 1, .loseFrame 0]

/-- The first chunk is lost, and the second is answered. -/
def firstLost : List (LinkOp Unit) := [.send 0, .send 1, .losePacket 0, .deliver 1, .receive]

/-- One is recovered, the other is not. -/
theorem goBack_recovers_sackLost :
    CaughtUp [[7], [8], [9]] (Machine.exec (linkStep (ω := Unit) [[7], [8], [9]])
      (threeChunks sackLost) (goBack [[7], [8], [9]] (threeChunks sackLost) fun _ => 2)) ∧
    ∀ later : List (LinkOp Unit), (Machine.exec (linkStep [[7], [8], [9]])
      (threeChunks firstLost) later).engine.backend.written = [] := by
  have hall := fun ops hops => goBack_recovers (ω := Unit) (obliging_accepting 3 [])
    (ScriptedPanel.accepting 3 []) 30000 180000 [] (pipeHeader 16 1) 0 (by decide)
    [[7], [8], [9]] (by decide) (by decide) (by decide) ops hops rfl (by decide)
  refine ⟨(hall sackLost ?_ ?_ ?_).1 ?_ _, (hall firstLost ?_ ?_ ?_).2 ?_⟩
  · simp [sackLost, LinkOp.Benign]
  · exact ⟨by decide +kernel, by decide +kernel⟩
  · decide +kernel
  · decide +kernel
  · simp [firstLost, LinkOp.Benign]
  · exact ⟨by decide +kernel, by decide +kernel⟩
  · decide +kernel
  · decide +kernel

end TransferEngine

end OpenDisplay
