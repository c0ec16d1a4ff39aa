import OpenDisplay.Backend.Scripted
import OpenDisplay.Engine.CallTrace
import OpenDisplay.Engine.PipeAcks

/-!
# Both modes deliver the image

A client that loses nothing sends an image to a panel that takes what it is given: once
with direct writes, in chunks of its choice and with an END, once as a PIPE transfer, in
other chunks and without one.  Either way every chunk is accepted, the panel gets the
image from one end to the other between one `begin_frame` and one `finish_frame`, one
refresh begins, and the last frame is the END ACK of the mode.

The image may be cut at will, as long as no direct chunk and no last PIPE chunk is empty:
the first is malformed, and the second would come after the end.
-/

namespace OpenDisplay

open OpenDisplayBackend

/-! ### A panel that takes what it is given -/

/-- Where a panel is in a frame. -/
inductive PanelPhase
  /-- it takes a new frame -/
  | ready
  /-- it has taken so many bytes of the frame -/
  | filled (n : ℕ)
  /-- the frame is finished -/
  | finished

/-- A panel with frames of `full` bytes that answers `OK` to the calls of a whole frame:
`inPhase` says which of its states are in which phase. -/
structure Obliging {β : Type} [OpenDisplayBackend β] (full : UInt32)
    (inPhase : PanelPhase → β → Prop) : Prop where
  full_eq : ∀ {b : β}, inPhase .ready b → (capabilities b).fullFrameBytes = full
  aborted : ∀ {b : β}, inPhase .ready b → inPhase .ready (abortTransfer b)
  begun : ∀ {b : β}, inPhase .ready b →
    let frame : FrameDescriptor :=
      { totalBytes := full, colorScheme := (capabilities b).colorScheme }
    (beginFrame b frame).1 = .ok ∧ inPhase (.filled 0) (beginFrame b frame).2
  written : ∀ {b : β} {n : ℕ} (data : List UInt8), inPhase (.filled n) b →
    n + data.length ≤ full.toNat → (writeContiguous b (UInt32.ofNat n) data).1 = .ok ∧
      inPhase (.filled (n + data.length)) (writeContiguous b (UInt32.ofNat n) data).2
  finished : ∀ {b : β}, inPhase (.filled full.toNat) b →
    (finishFrame b).1 = .ok ∧ inPhase .finished (finishFrame b).2
  refreshes : ∀ {b : β}, inPhase .finished b → (beginRefresh b {}).1 = .ok

namespace TransferEngine

variable {β ω : Type} [OpenDisplayBackend β] [PanelWorld β ω] {t : Transfer}
  {e e' : TransferEngine (Recorder β)} {full : UInt32} {inPhase : PanelPhase → β → Prop}
  {before : List BackendCall}

/-! ### A transfer under way -/

/-- The transfer `t` is under way, and the panel has taken what was accepted: since the
calls `before`, a `begin_frame` and the writes of its chunks. -/
structure Filling {β : Type} (full : UInt32) (inPhase : PanelPhase → β → Prop)
    (before : List BackendCall) (t : Transfer) (e : TransferEngine (Recorder β)) : Prop where
  state_eq : e.txn.state = .receiving
  book : Bookkeeping t e.txn
  full_eq : t.full = full
  not_fatal : e.txn.pipeFatal = false
  phase : inPhase (.filled t.size) e.backend.panel
  calls_eq : ∃ frame : FrameDescriptor, frame.totalBytes = full ∧
    e.backend.calls = before ++ .beginFrame frame .ok :: t.writes

lemma ready_cleared (hpanel : Obliging full inPhase) (h : inPhase .ready e.backend.panel) :
    inPhase .ready e.cleared.backend.panel := by
  unfold TransferEngine.cleared
  split_ifs with hactive
  · rw [abort_backend_of_active _ _ hactive]
    exact hpanel.aborted h
  · exact h

/-- A START on a free panel is taken, and the transfer is under way. -/
lemma filling_of_begin (hpanel : Obliging full inPhase) (hready : inPhase .ready e.backend.panel)
    (hw : e.hwOwned = false) {mode : TransferMode} (hmode : mode = .direct ∨ mode = .pipe)
    {now : UInt32} {why : Option ErrorCode} (hbegin : BeginOutcome e mode full now why e') :
    why = none ∧
      Filling full inPhase e.cleared.backend.calls (e.openedTransfer mode) e' := by
  have hcleared := ready_cleared hpanel hready
  have hfull : (capabilities e.cleared.backend).fullFrameBytes = full := hpanel.full_eq hcleared
  cases hbegin with
  | busy hw' => rw [hw] at hw'; cases hw'
  | sizeMismatch _ hsize => exact absurd hfull.symm hsize
  | beginFailed _ _ frame hframe hanswer =>
      subst hframe
      exact absurd (hpanel.begun hcleared).1 hanswer
  | opened hw' hsize frame hframe hanswer =>
      have hopened : BeginOutcome e mode full now none _ := .opened hw' hsize frame hframe hanswer
      refine ⟨rfl, ?_⟩
      exact {
        state_eq := rfl
        book := (hopened.opened_spec hmode).2.1
        full_eq := hfull
        not_fatal := rfl
        phase := by
          subst hframe
          exact (hpanel.begun hcleared).2
        calls_eq := by
          refine ⟨frame, by rw [hframe], ?_⟩
          rw [Recorder.calls_beginFrame, hanswer]
          rfl }

lemma filling_of_directStart (hpanel : Obliging full inPhase)
    (hready : inPhase .ready e.backend.panel) (hw : e.hwOwned = false)
    (htail : e.hasTailSack = false) {p : Payload} (hlen : p.len = 0) (now : UInt32) :
    e.framesSent (.directStart p now : EngineOp ω) = [encodeAck cmdDirectWriteStart] ∧
      Filling full inPhase e.cleared.backend.calls (e.openedTransfer .direct)
        (e.serve (.directStart p now : EngineOp ω)) := by
  have hfull : (capabilities e.backend).fullFrameBytes = full := hpanel.full_eq hready
  have ho := onDirectStart_outcome e p now
  simp only [framesSent, serve, step, perform]
  generalize (e.onDirectStart p now).1 = res, (e.onDirectStart p now).2 = e₁ at ho ⊢
  cases ho with
  | compressed hne => exact absurd hlen hne
  | refused _ why _ hbegin =>
      rw [hfull] at hbegin
      cases (filling_of_begin hpanel hready hw (Or.inl rfl) hbegin).1
  | started _ _ hbegin =>
      rw [hfull] at hbegin
      rw [takeTailSack_of_not (hbegin.hasTailSack.trans htail)]
      exact ⟨rfl, (filling_of_begin hpanel hready hw (Or.inl rfl) hbegin).2⟩

lemma filling_of_pipeStart (hpanel : Obliging full inPhase)
    (hready : inPhase .ready e.backend.panel) (hw : e.hwOwned = false)
    (htail : e.hasTailSack = false) {p : Payload} {req : PipeStartRequest}
    (hparse : parsePipeStart p = .ok req) (hflag : req.flags &&& pipeFlagCompressed = 0)
    (hsize : req.totalSize = full) (now : UInt32) :
    (∀ r ∈ e.framesSent (.pipeStart p now : EngineOp ω), r.bytes.head? ≠ some respNack) ∧
      Filling full inPhase e.cleared.backend.calls (e.openedTransfer .pipe)
        (e.serve (.pipeStart p now : EngineOp ω)) := by
  have ho := onPipeStart_outcome e p now
  simp only [framesSent, serve, step, perform]
  generalize (e.onPipeStart p now).1 = res, (e.onPipeStart p now).2 = e₁ at ho ⊢
  cases ho with
  | badHeader code hbad => rw [hparse] at hbad; cases hbad
  | compressed req' hparse' hcompressed =>
      rw [hparse] at hparse'
      cases hparse'
      exact absurd hflag hcompressed
  | refused req' hparse' _ why _ hbegin =>
      rw [hparse] at hparse'
      cases hparse'
      rw [hsize] at hbegin
      cases (filling_of_begin hpanel hready hw (Or.inr rfl) hbegin).1
  | started req' hparse' _ e₁ hbegin window ackEvery frame =>
      rw [hparse] at hparse'
      cases hparse'
      rw [hsize] at hbegin
      have hfilling := (filling_of_begin hpanel hready hw (Or.inr rfl) hbegin).2
      have hkept : ({ e₁ with
          txn.negotiatedWindow := window
          txn.negotiatedAckEvery := ackEvery
          txn.negotiatedFrame := frame }).hasTailSack = false := hbegin.hasTailSack.trans htail
      rw [takeTailSack_of_not hkept]
      refine ⟨fun r hr => ?_, hfilling.state_eq, hfilling.book.negotiate _ _ _, hfilling.full_eq,
        hfilling.not_fatal, hfilling.phase, hfilling.calls_eq⟩
      obtain rfl : r = encodePipeStartResponse window ackEvery frame 0x00 := by simpa using hr
      simp [encodePipeStartResponse, respAck, respNack]

/-! ### Data -/

omit [OpenDisplayBackend β] [PanelWorld β ω] in
/-- Data that fits into the frame passes the check against the missing bytes. -/
lemma Filling.fits (h : Filling full inPhase before t e) {data : List UInt8}
    (hfit : t.size + data.length ≤ full.toNat) :
    data.length ≤ (e.txn.expectedFrameBytes - e.txn.acceptedBytes).toNat := by
  have hexpected : e.txn.expectedFrameBytes = full := h.book.expected_eq.trans h.full_eq
  have haccepted := h.book.accepted_eq
  rw [hexpected, UInt32.toNat_sub_of_le _ _ (by rw [UInt32.le_iff_toNat_le]; omega)]
  omega

/-- The panel takes data that fits, and the write is recorded. -/
lemma Filling.written (h : Filling full inPhase before t e) (hpanel : Obliging full inPhase)
    {data : List UInt8} (hfit : t.size + data.length ≤ full.toNat) :
    (writeContiguous e.backend e.txn.acceptedBytes data).1 = .ok ∧
      inPhase (.filled (t.accept data).size)
        (writeContiguous e.backend e.txn.acceptedBytes data).2.panel ∧
      ∃ frame : FrameDescriptor, frame.totalBytes = full ∧
        (writeContiguous e.backend e.txn.acceptedBytes data).2.calls =
          before ++ .beginFrame frame .ok :: (t.accept data).writes := by
  obtain ⟨frame, hframe, hcalls⟩ := h.calls_eq
  obtain ⟨hok, hphase⟩ := hpanel.written data h.phase hfit
  have hok' : (writeContiguous e.backend (UInt32.ofNat t.size) data).1 = .ok := hok
  rw [h.book.acceptedBytes_eq, Transfer.size_accept]
  refine ⟨hok, hphase, frame, hframe, ?_⟩
  rw [Recorder.calls_writeContiguous, hok', hcalls, Transfer.writes_accept]
  simp

/-- A `0x71` of a direct transfer that has room for it is accepted. -/
lemma Filling.directData (h : Filling full inPhase before t e) (hpanel : Obliging full inPhase)
    (htail : e.hasTailSack = false) (hmode : t.mode = .direct) {p : Payload} (hdata : p.bytes ≠ [])
    (hfit : t.size + p.bytes.length ≤ full.toNat) (now : UInt32) :
    e.framesSent (.directData p now : EngineOp ω) = [encodeAck cmdDirectWriteData] ∧
      Filling full inPhase before (t.accept p.bytes)
        (e.serve (.directData p now : EngineOp ω)) := by
  have hfits := h.fits hfit
  obtain ⟨hok, hphase, hcalls⟩ := h.written hpanel hfit
  rw [← h.book.offset_eq hmode] at hok hphase hcalls
  have ho := onDirectData_outcome e p now
  simp only [framesSent, serve, step, perform]
  generalize (e.onDirectData p now).1 = res, (e.onDirectData p now).2 = e₁ at ho ⊢
  cases ho with
  | misplaced hplace => exact absurd ⟨h.state_eq, h.book.mode_eq.trans hmode⟩ hplace
  | malformed _ _ hlen =>
      rw [← p.length_bytes, List.length_eq_zero_iff] at hlen
      exact absurd hlen hdata
  | oversize _ _ _ hbig =>
      rw [p.length_bytes] at hfits
      omega
  | writeFailed _ _ _ _ hanswer => exact absurd hok hanswer
  | accepted =>
      have hkept : ({ e with
          backend := (writeContiguous e.backend e.txn.nextDirectOffset p.bytes).2
        }.acceptDirect p.len now).hasTailSack = false := htail
      rw [takeTailSack_of_not hkept, ← p.length_bytes]
      exact ⟨rfl, h.state_eq, h.book.acceptDirect hmode hfits now, h.full_eq, h.not_fatal,
        hphase, hcalls⟩

omit [OpenDisplayBackend β] [PanelWorld β ω] in
lemma Filling.pipeReceiving (h : Filling full inPhase before t e) (hmode : t.mode = .pipe) :
    e.PipeReceiving := ⟨h.state_eq, h.book.mode_eq.trans hmode⟩

omit [OpenDisplayBackend β] [PanelWorld β ω] in
lemma Filling.next_eq (h : Filling full inPhase before t e) (hmode : t.mode = .pipe) :
    e.txn.nextPipeSequence = UInt8.ofNat t.chunks.length := by
  rw [h.book.counters.next_eq, Transfer.pipeChunks_of_pipe hmode]

/-- The next `0x81` of a PIPE transfer that has room for it is accepted. -/
lemma Filling.pipeData (h : Filling full inPhase before t e) (hpanel : Obliging full inPhase)
    (hmode : t.mode = .pipe) {p : Payload} {data : List UInt8}
    (hbytes : p.bytes = UInt8.ofNat t.chunks.length :: data)
    (hfit : t.size + data.length ≤ full.toNat) (now : UInt32) :
    ∃ e₁, Filling full inPhase before (t.accept data) e₁ ∧ e₁.hasTailSack = e.hasTailSack ∧
      ChunkOutcome e₁ now (e.onPipeData p now).1 (e.onPipeData p now).2 := by
  have hfits := h.fits hfit
  obtain ⟨hok, hphase, hcalls⟩ := h.written hpanel hfit
  rw [← h.next_eq hmode] at hbytes
  have hdata : ∀ data', p.bytes = e.txn.nextPipeSequence :: data' → data' = data := by
    intro data' hbytes'
    rw [hbytes] at hbytes'
    exact (List.cons.inj hbytes').2.symm
  have ho := onPipeData_outcome e p now
  generalize (e.onPipeData p now).1 = res, (e.onPipeData p now).2 = e₁ at ho ⊢
  cases ho with
  | latched hlatch => cases h.not_fatal.symm.trans hlatch
  | misplaced _ hplace => exact absurd (h.pipeReceiving hmode) hplace
  | malformed _ _ hnone => rw [hbytes] at hnone; cases hnone
  | outOfOrder _ _ seq data' hbytes' hseq =>
      rw [hbytes] at hbytes'
      exact absurd (List.cons.inj hbytes').1.symm hseq
  | oversize _ _ data' hbytes' hbig =>
      rw [hdata data' hbytes'] at hbig
      omega
  | writeFailed _ _ data' hbytes' _ hanswer =>
      rw [hdata data' hbytes'] at hanswer
      exact absurd hok hanswer
  | accepted _ _ data' hbytes' _ _ _ _ hchunk =>
      rw [hdata data' hbytes'] at hchunk
      refine ⟨e.pipeAccepted e.txn.nextPipeSequence data now, ?_, rfl, hchunk⟩
      exact ⟨h.state_eq, h.book.acceptPipe hmode hfits now, h.full_eq, h.not_fatal, hphase,
        hcalls⟩

/-! ### The end -/

/-- The panel refreshes for the transfer `t`: since the calls `before`, the whole frame
was written and finished, and one refresh has begun. -/
structure Shown {β : Type} (full : UInt32) (before : List BackendCall) (t : Transfer)
    (e : TransferEngine (Recorder β)) : Prop where
  state_eq : e.txn.state = .refreshing
  accepted_eq : e.txn.acceptedBytes = full
  calls_eq : ∃ frame : FrameDescriptor, frame.totalBytes = full ∧
    e.backend.calls =
      before ++ .beginFrame frame .ok :: (t.writes ++ [.finishFrame .ok, .beginRefresh .ok])

omit [PanelWorld β ω] in
/-- The end of a full transfer is acknowledged, and the panel refreshes. -/
lemma Filling.finish (h : Filling full inPhase before t e) (hpanel : Obliging full inPhase)
    (hfull : t.size = full.toNat) {endOpcode : UInt16} {now : UInt32} {res : EngineResult}
    (hfinish : FinishOutcome e endOpcode now res e') :
    res.response = encodeAck endOpcode ∧ Shown full before t e' := by
  have hexpected : e.txn.expectedFrameBytes = full := h.book.expected_eq.trans h.full_eq
  have haccepted : e.txn.acceptedBytes = full :=
    UInt32.toNat_inj.mp (h.book.accepted_eq.trans hfull)
  obtain ⟨hfinished, hphase⟩ := hpanel.finished (hfull ▸ h.phase)
  cases hfinish with
  | incomplete hlen => exact absurd (haccepted.trans hexpected.symm) hlen
  | finishFailed _ hanswer => exact absurd hfinished hanswer
  | refreshFailed _ _ hanswer => exact absurd (hpanel.refreshes hphase) hanswer
  | refreshing _ hfinished hanswer =>
      obtain ⟨frame, hframe, hcalls⟩ := h.calls_eq
      refine ⟨rfl, rfl, haccepted, frame, hframe, ?_⟩
      simp [hfinished, hanswer, hcalls]

/-- What a chunk leads to that does not fill the frame: at most a SACK. -/
lemma Filling.chunk_open (h : Filling full inPhase before t e) (htail : e.hasTailSack = false)
    (hroom : t.size < full.toNat) {now : UInt32} {res : EngineResult}
    (hchunk : ChunkOutcome e now res e') :
    (∀ r ∈ e'.takeTailSack.1.toList ++ [res.response], r.bytes.head? ≠ some respNack) ∧
      Filling full inPhase before t e'.takeTailSack.2 := by
  cases hchunk with
  | completed hdone =>
      have hle := UInt32.le_iff_toNat_le.mp hdone.1
      rw [h.book.accepted_eq, h.book.expected_eq, h.full_eq] at hle
      omega
  | sacked =>
      have hkept : ({ e with txn.acceptedSinceAck := 0 }).hasTailSack = false := htail
      rw [takeTailSack_of_not hkept]
      refine ⟨fun r hr => ?_, h.state_eq, h.book.resetCadence, h.full_eq, h.not_fatal, h.phase,
        h.calls_eq⟩
      obtain rfl : r = e.inorderSack := by simpa [reply] using hr
      simp [inorderSack, encodePipeSack, respAck, respNack]
  | silent =>
      rw [takeTailSack_of_not htail]
      refine ⟨fun r hr => ?_, h⟩
      obtain rfl : r = Response.empty := by simpa using hr
      simp [Response.empty]

omit [OpenDisplayBackend β] [PanelWorld β ω] in
/-- Taking a staged SACK changes nothing that is shown. -/
lemma Shown.taken (h : Shown full before t e) : Shown full before t e.takeTailSack.2 :=
  ⟨by rw [takeTailSack_txn, h.state_eq], by rw [takeTailSack_txn, h.accepted_eq],
    by rw [takeTailSack_backend]; exact h.calls_eq⟩

/-- What the chunk that fills the frame leads to: a SACK, the END ACK and the refresh. -/
lemma Filling.chunk_last (h : Filling full inPhase before t e) (hpanel : Obliging full inPhase)
    (hfull : t.size = full.toNat) {now : UInt32} {res : EngineResult}
    (hchunk : ChunkOutcome e now res e') :
    e'.takeTailSack.1.toList ++ [res.response] = [e.inorderSack, encodeAck cmdPipeWriteEnd] ∧
      Shown full before t e'.takeTailSack.2 := by
  have hdone : e.PipeComplete := by
    refine ⟨?_, h.book.not_compressed, h.book.not_partial⟩
    rw [UInt32.le_iff_toNat_le, h.book.accepted_eq, h.book.expected_eq, h.full_eq, hfull]
  cases hchunk with
  | completed _ _ _ hfinish =>
      have hstaged : Filling full inPhase before t e.stageTailSack :=
        ⟨h.state_eq, h.book.resetCadence, h.full_eq, h.not_fatal, h.phase, h.calls_eq⟩
      obtain ⟨hack, hshown⟩ := hstaged.finish hpanel hfull hfinish
      exact ⟨by rw [hfinish.frames_of_staged, hack], hshown.taken⟩
  | sacked hopen | silent hopen => exact absurd hdone hopen

/-- The END of a full direct transfer is acknowledged, and the panel refreshes. -/
lemma Filling.directEnd (h : Filling full inPhase before t e) (hpanel : Obliging full inPhase)
    (htail : e.hasTailSack = false) (hmode : t.mode = .direct) (hfull : t.size = full.toNat)
    (p : Payload) (now : UInt32) :
    e.framesSent (.directEnd p now : EngineOp ω) = [encodeAck cmdDirectWriteEnd] ∧
      Shown full before t (e.serve (.directEnd p now : EngineOp ω)) := by
  have ho := onDirectEnd_outcome e p now
  simp only [framesSent, serve, step, perform]
  generalize (e.onDirectEnd p now).1 = res, (e.onDirectEnd p now).2 = e₁ at ho ⊢
  cases ho with
  | misplaced hplace => exact absurd ⟨h.state_eq, h.book.mode_eq.trans hmode⟩ hplace
  | finished _ _ _ _ hfinish =>
      obtain ⟨hack, hshown⟩ := h.finish hpanel hfull hfinish
      rw [takeTailSack_of_not (hfinish.staged.1.trans htail), hack]
      exact ⟨rfl, hshown⟩

/-! ### Runs -/

/-- The direct write of a client: a START, data packets and an END, each with the time at
which it is handled. -/
def directRun (start : Payload × UInt32) (data : List (Payload × UInt32))
    (stop : Payload × UInt32) : List (EngineOp ω) :=
  .directStart start.1 start.2 ::
    (data.map (fun d => .directData d.1 d.2) ++ [.directEnd stop.1 stop.2])

/-- The PIPE write of a client: a START and data packets. -/
def pipeRun (start : Payload × UInt32) (data : List (Payload × UInt32)) : List (EngineOp ω) :=
  .pipeStart start.1 start.2 :: data.map fun d => .pipeData d.1 d.2

/-- The payloads of `0x81` packets that carry the chunks in order, from chunk `i` on. -/
def sequenced (i : ℕ) (chunks : List (List UInt8)) : List (List UInt8) :=
  chunks.mapIdx fun j data => UInt8.ofNat (i + j) :: data

lemma sequenced_cons (i : ℕ) (c : List UInt8) (cs : List (List UInt8)) :
    sequenced i (c :: cs) = (UInt8.ofNat i :: c) :: sequenced (i + 1) cs := by
  simp [sequenced, Nat.add_assoc, Nat.add_comm 1]

/-- Direct data that fits is accepted packet by packet. -/
lemma Filling.directData_run (hpanel : Obliging full inPhase) (data : List (Payload × UInt32))
    (h : Filling full inPhase before t e) (htail : e.hasTailSack = false)
    (hmode : t.mode = .direct) (hdata : ∀ d ∈ data, d.1.bytes ≠ [])
    (hfit : t.size + (data.map fun d => d.1.bytes).flatten.length ≤ full.toNat) :
    let ops : List (EngineOp ω) := data.map fun d => .directData d.1 d.2
    let e' := Machine.exec serve e ops
    Machine.outputs serve framesSent e ops =
        List.replicate data.length (encodeAck cmdDirectWriteData) ∧
      Filling full inPhase before ((data.map fun d => d.1.bytes).foldl Transfer.accept t) e' ∧
      e'.hasTailSack = false := by
  induction data generalizing t e with
  | nil => exact ⟨rfl, h, htail⟩
  | cons d ds ih =>
      simp only [List.map_cons, List.flatten_cons, List.length_append] at hfit
      obtain ⟨hframes, hnext⟩ := h.directData (ω := ω) hpanel htail hmode (p := d.1)
        (hdata d (by simp)) (by omega) d.2
      obtain ⟨hrest, hfilled, htail'⟩ := ih hnext (takeTailSack_hasTailSack _) hmode
        (fun d' hd' => hdata d' (by simp [hd'])) (by rw [Transfer.size_accept]; omega)
      refine ⟨?_, hfilled, htail'⟩
      simp only [List.map_cons, Machine.outputs_cons, hframes, hrest, List.length_cons,
        List.replicate_succ, List.singleton_append]

/-- The chunks of a PIPE transfer that fill the frame are accepted one by one, and the last
one ends the transfer. -/
lemma Filling.pipeData_run (hpanel : Obliging full inPhase) (chunks : List (List UInt8))
    (h : Filling full inPhase before t e) (htail : e.hasTailSack = false)
    (hmode : t.mode = .pipe) {data : List (Payload × UInt32)}
    (hdata : (data.map fun d => d.1.bytes) = sequenced t.chunks.length chunks)
    (hroom : t.size < full.toNat) (hlast : [] ∉ chunks.getLast?)
    (hfull : t.size + chunks.flatten.length = full.toNat) :
    let ops : List (EngineOp ω) := data.map fun d => .pipeData d.1 d.2
    let frames := Machine.outputs serve framesSent e ops
    (∀ r ∈ frames, r.bytes.head? ≠ some respNack) ∧
      frames.getLast? = some (encodeAck cmdPipeWriteEnd) ∧
      Shown full before (chunks.foldl Transfer.accept t) (Machine.exec serve e ops) := by
  induction chunks generalizing t e data with
  | nil =>
      rw [List.flatten_nil, List.length_nil] at hfull
      omega
  | cons c cs ih =>
      rw [sequenced_cons] at hdata
      obtain ⟨d, ds, rfl, hbytes, hrest⟩ := List.map_eq_cons_iff.mp hdata
      simp only [List.flatten_cons, List.length_append] at hfull
      obtain ⟨e₁, hfilling, hkept, hchunk⟩ := h.pipeData hpanel hmode hbytes (by omega) d.2
      have htail₁ := hkept.trans htail
      simp only [List.map_cons, Machine.outputs_cons, Machine.exec_cons, List.foldl_cons]
      have hle : t.size + c.length ≤ full.toNat := by omega
      rcases Nat.eq_or_lt_of_le hle with hdone | hroom'
      · -- nothing is left, so this was the last chunk
        have hcs : cs = [] := by
          by_contra hne
          have hflat : cs.flatten = [] := List.eq_nil_of_length_eq_zero (by omega)
          have hnil := List.flatten_eq_nil_iff.mp hflat _ (List.getLast_mem hne)
          refine hlast ?_
          rw [List.getLast?_cons, List.getLast?_eq_some_getLast hne, hnil]
          rfl
        subst hcs
        obtain rfl : ds = [] := by simpa [sequenced] using hrest
        obtain ⟨hframes, hshown⟩ := hfilling.chunk_last hpanel
          (by rw [Transfer.size_accept]; exact hdone) hchunk
        have hsent : e.framesSent (.pipeData d.1 d.2 : EngineOp ω) =
            [e₁.inorderSack, encodeAck cmdPipeWriteEnd] := hframes
        refine ⟨fun r hr => ?_, by simp [hsent], hshown⟩
        simp only [hsent, List.map_nil, Machine.outputs_nil, List.append_nil, List.mem_cons,
          List.not_mem_nil, or_false] at hr
        rcases hr with rfl | rfl
        · simp [inorderSack, encodePipeSack, respAck, respNack]
        · simp [encodeAck, respAck, respNack]
      · obtain ⟨hquiet, hnext⟩ := hfilling.chunk_open htail₁
          (by rw [Transfer.size_accept]; exact hroom') hchunk
        have hserved : Filling full inPhase before (t.accept c)
            (e.serve (.pipeData d.1 d.2 : EngineOp ω)) := hnext
        have hlast' : [] ∉ cs.getLast? := by
          intro hnil
          refine hlast ?_
          rw [List.getLast?_cons, Option.mem_def.mp hnil]
          rfl
        have hrest' : (ds.map fun d => d.1.bytes) = sequenced (t.accept c).chunks.length cs := by
          rw [Transfer.length_chunks_accept, hrest]
        obtain ⟨hrestQuiet, hend, hshown⟩ := ih hserved (takeTailSack_hasTailSack _) hmode hrest'
          (by rw [Transfer.size_accept]; exact hroom') hlast' (by rw [Transfer.size_accept]; omega)
        refine ⟨fun r hr => ?_, ?_, hshown⟩
        · rcases List.mem_append.mp hr with hr | hr
          · exact hquiet r hr
          · exact hrestQuiet r hr
        · rw [List.getLast?_append, hend]
          rfl

/-! ### The image -/

/-- The packets of a direct write of the image: a START without payload, and the image in
chunks that are not empty. -/
structure DirectClient (image : List UInt8) (start : Payload × UInt32)
    (data : List (Payload × UInt32)) : Prop where
  start_len : start.1.len = 0
  nonempty : ∀ d ∈ data, d.1.bytes ≠ []
  image_eq : (data.map fun d => d.1.bytes).flatten = image

/-- The packets of a PIPE write of the image to a panel with frames of `full` bytes: an
acceptable START, and the image in numbered chunks of which the last is not empty. -/
structure PipeClient (full : UInt32) (image : List UInt8) (start : Payload × UInt32)
    (chunks : List (List UInt8)) (data : List (Payload × UInt32)) : Prop where
  request : ∃ req, parsePipeStart start.1 = .ok req ∧ req.flags &&& pipeFlagCompressed = 0 ∧
    req.totalSize = full
  data_eq : (data.map fun d => d.1.bytes) = sequenced 0 chunks
  last_ne : [] ∉ chunks.getLast?
  image_eq : chunks.flatten = image

/-- The image was delivered: no frame is a NACK and the last one is the END ACK; the panel
refreshes for a full frame; and since the calls `before` it got one `begin_frame`, the
chunks in writes that tile the frame, one `finish_frame` and one `begin_refresh`. -/
structure Delivered {β : Type} (full : UInt32) (image : List UInt8)
    (chunks : List (List UInt8)) (endOpcode : UInt16) (before : List BackendCall)
    (frames : List Response) (e : TransferEngine (Recorder β)) : Prop where
  no_nack : ∀ r ∈ frames, r.bytes.head? ≠ some respNack
  ended : frames.getLast? = some (encodeAck endOpcode)
  state_eq : e.txn.state = .refreshing
  accepted_eq : e.txn.acceptedBytes = full
  calls_eq : ∃ (frame : FrameDescriptor) (writes : List (UInt32 × List UInt8)),
    frame.totalBytes = full ∧
    e.backend.calls = before ++ .beginFrame frame .ok ::
      (writes.map (fun w => .writeContiguous w.1 w.2 .ok) ++
        [.finishFrame .ok, .beginRefresh .ok]) ∧
    Blocks.Tiles 0 full.toNat (writes.map fun w => (w.1.toNat, w.2.length)) ∧
    writes.map Prod.snd = chunks ∧ (writes.map Prod.snd).flatten = image

omit [OpenDisplayBackend β] [PanelWorld β ω] in
lemma Shown.delivered {chunks : List (List UInt8)} {mode : TransferMode} {bytes : UInt32}
    (h : Shown full before
      (chunks.foldl Transfer.accept { mode := mode, full := bytes }) e) {image : List UInt8}
    (hchunks : chunks.flatten = image) (hsize : image.length = full.toNat) {endOpcode : UInt16}
    {frames : List Response} (hquiet : ∀ r ∈ frames, r.bytes.head? ≠ some respNack)
    (hend : frames.getLast? = some (encodeAck endOpcode)) :
    Delivered full image chunks endOpcode before frames e := by
  rw [Transfer.foldl_accept, List.nil_append] at h
  obtain ⟨frame, hframe, hcalls⟩ := h.calls_eq
  have hfull : ({ mode := mode, full := bytes, chunks := chunks } : Transfer).size =
      full.toNat := by
    rw [Transfer.size, hchunks, hsize]
  obtain ⟨writes, hwrites, htiles, hsnd⟩ := Transfer.writes_tile _ hfull
  exact ⟨hquiet, hend, h.state_eq, h.accepted_eq, frame, writes, hframe, by rw [hcalls, hwrites],
    htiles, hsnd, by rw [hsnd, hchunks]⟩

/-- A direct write delivers the image. -/
lemma DirectClient.delivered {image : List UInt8} {start stop : Payload × UInt32}
    {data : List (Payload × UInt32)} (h : DirectClient image start data)
    (hpanel : Obliging full inPhase) (hready : inPhase .ready e.backend.panel)
    (hw : e.hwOwned = false) (htail : e.hasTailSack = false)
    (hsize : image.length = full.toNat) :
    let ops : List (EngineOp ω) := directRun start data stop
    Delivered full image (data.map fun d => d.1.bytes) cmdDirectWriteEnd e.cleared.backend.calls
      (Machine.outputs serve framesSent e ops) (Machine.exec serve e ops) := by
  intro ops
  obtain ⟨hack, hopened⟩ :=
    filling_of_directStart (ω := ω) hpanel hready hw htail h.start_len start.2
  have hall : (data.map fun d => d.1.bytes).flatten.length = full.toNat := by
    rw [h.image_eq, hsize]
  obtain ⟨hacks, hfilled, htail'⟩ := hopened.directData_run (ω := ω) hpanel data
    (takeTailSack_hasTailSack _) rfl h.nonempty (by
      rw [hall]
      exact Nat.le_of_eq (Nat.zero_add _))
  obtain ⟨hend, hshown⟩ := hfilled.directEnd (ω := ω) hpanel htail'
    (by rw [Transfer.foldl_accept]; rfl) (by rw [Transfer.foldl_accept]; exact hall) stop.1 stop.2
  have hframes : Machine.outputs serve framesSent e ops = encodeAck cmdDirectWriteStart ::
      (List.replicate data.length (encodeAck cmdDirectWriteData) ++
        [encodeAck cmdDirectWriteEnd]) := by
    simp only [ops, directRun, Machine.outputs_cons, Machine.outputs_append, hack, hacks, hend,
      Machine.outputs_nil, List.append_nil, List.singleton_append]
  have hshown' : Shown full e.cleared.backend.calls
      ((data.map fun d => d.1.bytes).foldl Transfer.accept (e.openedTransfer .direct))
      (Machine.exec serve e ops) := by
    simp only [ops, directRun, Machine.exec_cons, Machine.exec_append, Machine.exec_nil]
    exact hshown
  refine hshown'.delivered h.image_eq hsize (fun r hr => ?_) ?_
  · rw [hframes] at hr
    simp only [List.mem_cons, List.mem_append, List.mem_replicate, List.not_mem_nil,
      or_false] at hr
    rcases hr with rfl | ⟨-, rfl⟩ | rfl <;> simp [encodeAck, respAck, respNack]
  · rw [hframes, ← List.cons_append, List.getLast?_concat]

/-- A PIPE write delivers the image. -/
lemma PipeClient.delivered {image : List UInt8} {start : Payload × UInt32}
    {chunks : List (List UInt8)} {data : List (Payload × UInt32)}
    (h : PipeClient full image start chunks data) (hpanel : Obliging full inPhase)
    (hready : inPhase .ready e.backend.panel) (hw : e.hwOwned = false)
    (htail : e.hasTailSack = false) (hfull : 0 < full) (hsize : image.length = full.toNat) :
    let ops : List (EngineOp ω) := pipeRun start data
    Delivered full image chunks cmdPipeWriteEnd e.cleared.backend.calls
      (Machine.outputs serve framesSent e ops) (Machine.exec serve e ops) := by
  intro ops
  obtain ⟨req, hparse, hflag, hreq⟩ := h.request
  obtain ⟨hquiet, hopened⟩ :=
    filling_of_pipeStart (ω := ω) hpanel hready hw htail hparse hflag hreq start.2
  have hpos : (e.openedTransfer .pipe).size < full.toNat := UInt32.lt_iff_toNat_lt.mp hfull
  obtain ⟨hquiet', hend, hshown⟩ := hopened.pipeData_run (ω := ω) hpanel chunks
    (takeTailSack_hasTailSack _) rfl h.data_eq hpos h.last_ne (by
      rw [h.image_eq, hsize]
      exact Nat.zero_add _)
  refine Shown.delivered hshown h.image_eq hsize (fun r hr => ?_) ?_
  · rcases List.mem_append.mp hr with hr | hr
    · exact hquiet r hr
    · exact hquiet' r hr
  · simp only [ops, pipeRun, Machine.outputs_cons, List.getLast?_append, hend]
    rfl

/-- **Both modes deliver the image.**  On a panel that answers `OK` and is free, from any
state of the engine, the direct write and the PIPE write of an image of a full frame, cut
into any two lists of chunks and packed into any acceptable packets at any times, are both
accepted without a NACK, hand the panel the image from the first byte to the last in one
frame, begin one refresh and end with the END ACK of their mode. -/
theorem both_modes_deliver (hpanel : Obliging full inPhase) (hfull : 0 < full)
    (hready : inPhase .ready e.backend.panel) (hw : e.hwOwned = false)
    (htail : e.hasTailSack = false) {image : List UInt8} (hsize : image.length = full.toNat)
    {start stop : Payload × UInt32} {data : List (Payload × UInt32)}
    (hdirect : DirectClient image start data) {start' : Payload × UInt32}
    {chunks : List (List UInt8)} {data' : List (Payload × UInt32)}
    (hpipe : PipeClient full image start' chunks data') :
    Delivered full image (data.map fun d => d.1.bytes) cmdDirectWriteEnd e.cleared.backend.calls
        (Machine.outputs serve framesSent e (directRun (ω := ω) start data stop))
        (Machine.exec serve e (directRun (ω := ω) start data stop)) ∧
      Delivered full image chunks cmdPipeWriteEnd e.cleared.backend.calls
        (Machine.outputs serve framesSent e (pipeRun (ω := ω) start' data'))
        (Machine.exec serve e (pipeRun (ω := ω) start' data')) :=
  ⟨hdirect.delivered hpanel hready hw htail hsize,
    hpipe.delivered hpanel hready hw htail hfull hsize⟩

/-! ### A panel that obliges -/

/-- A panel whose script has no refusals takes every frame of its size. -/
lemma obliging_accepting (bytes : UInt32) (polls : List PollResult) :
    Obliging bytes fun _ b => b = ScriptedPanel.accepting bytes polls where
  full_eq h := by rw [h]; rfl
  aborted h := h
  begun h := by subst h; exact ⟨rfl, rfl⟩
  written _ h _ := by subst h; exact ⟨rfl, rfl⟩
  finished h := by subst h; exact ⟨rfl, rfl⟩
  refreshes h := by subst h; rfl

/-- An image of three bytes, in direct chunks of two and one and in PIPE chunks of one and
two. -/
theorem both_modes_deliver_three :
    let e := init (Recorder.fresh (ScriptedPanel.accepting 3 [])) 30000 180000
    let data : List (Payload × UInt32) := [(.ofBytes [7, 8], 1), (.ofBytes [9], 2)]
    let data' : List (Payload × UInt32) := [(.ofBytes [0, 7], 1), (.ofBytes [1, 8, 9], 2)]
    Delivered 3 [7, 8, 9] [[7, 8], [9]] cmdDirectWriteEnd []
        (Machine.outputs serve framesSent e
          (directRun (ω := Unit) (.ofBytes [], 0) data (.ofBytes [0], 3)))
        (Machine.exec serve e (directRun (ω := Unit) (.ofBytes [], 0) data (.ofBytes [0], 3))) ∧
      Delivered 3 [7, 8, 9] [[7], [8, 9]] cmdPipeWriteEnd []
        (Machine.outputs serve framesSent e (pipeRun (ω := Unit) (pipeHeader 16 4, 0) data'))
        (Machine.exec serve e (pipeRun (ω := Unit) (pipeHeader 16 4, 0) data')) :=
  have hdirect : DirectClient [7, 8, 9] (.ofBytes [], 0)
      [(.ofBytes [7, 8], 1), (.ofBytes [9], 2)] := ⟨rfl, by decide, by decide⟩
  have hpipe : PipeClient 3 [7, 8, 9] (pipeHeader 16 4, 0) [[7], [8, 9]]
      [(.ofBytes [0, 7], 1), (.ofBytes [1, 8, 9], 2)] :=
    ⟨⟨_, rfl, by decide, by decide⟩, by decide, by decide, by decide⟩
  both_modes_deliver (e := init (Recorder.fresh (ScriptedPanel.accepting 3 [])) 30000 180000)
    (obliging_accepting 3 []) (by decide) rfl rfl rfl (by decide) hdirect hpipe

end TransferEngine

end OpenDisplay
