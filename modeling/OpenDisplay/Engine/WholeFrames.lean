import OpenDisplay.Backend.Screen
import OpenDisplay.Engine.RefreshHonest

/-!
# Only whole frames are shown

The engine over a backend with a screen.  The frame buffer is never cleared, so after an
aborted transfer it holds a part of its image over an older one; but the panel is made to
show it only when a transfer has covered it from the first byte to the last, and then its
END is acknowledged.  Whatever the run, the pictures that the panel was made to show are the
images of the transfers whose END was acknowledged, one for one, and a refresh that is
reported complete shows the image of the last one.
-/

namespace OpenDisplay

open OpenDisplayBackend

/-! ### The END that is acknowledged -/

/-- The response acknowledges the end of a transfer. -/
def Response.acksEnd (r : Response) : Bool :=
  decide (r = encodeAck cmdDirectWriteEnd) || decide (r = encodeAck cmdPipeWriteEnd)

section AcksEnd

/-- It says so in two bytes. -/
lemma acksEnd_of_length {r : Response} (h : r.bytes.length ≠ 2) : r.acksEnd = false := by
  rw [Response.acksEnd, Bool.or_eq_false_iff, decide_eq_false_iff_not, decide_eq_false_iff_not]
  constructor <;>
  · rintro rfl
    exact h rfl

@[simp] lemma acksEnd_empty : Response.empty.acksEnd = false := acksEnd_of_length (by decide)

@[simp] lemma acksEnd_encodeNack (opcode : UInt16) : (encodeNack opcode).acksEnd = false := by
  simp [Response.acksEnd, encodeNack, encodeAck, respAck, respNack]

@[simp] lemma acksEnd_encodeNackErr (opcode : UInt16) (code : UInt8) :
    (encodeNackErr opcode code).acksEnd = false :=
  acksEnd_of_length (by simp [encodeNackErr])

@[simp] lemma acksEnd_encodePipeStartResponse (window ackEvery : UInt8) (frame : UInt16)
    (flags : UInt8) : (encodePipeStartResponse window ackEvery frame flags).acksEnd = false :=
  acksEnd_of_length (by simp [encodePipeStartResponse, putU16Le])

@[simp] lemma acksEnd_encodePipeSack (highestSeen : UInt8) (mask : UInt32) :
    (encodePipeSack highestSeen mask).acksEnd = false :=
  acksEnd_of_length (by simp [encodePipeSack, putU32Le])

@[simp] lemma acksEnd_encodePipeNack (err highestSeen : UInt8) (mask : UInt32) :
    (encodePipeNack err highestSeen mask).acksEnd = false :=
  acksEnd_of_length (by simp [encodePipeNack, putU32Le])

end AcksEnd

namespace TransferEngine

variable {β ω : Type} [OpenDisplayBackend β] [PanelWorld β ω] {screen : β → Option Screen}
  {caps : DisplayCapabilities} {t : Transfer} {s s' : Screen} {e e' : TransferEngine β}

/-! ### The screen of a transfer -/

/-- The transfer `t` and the screen `s` that it draws on: what was accepted is drawn over
the picture that the transfer found, and is shown once the panel refreshes. -/
structure Painted (screen : β → Option Screen) (caps : DisplayCapabilities) (t : Transfer)
    (e : TransferEngine β) (s : Screen) : Prop where
  screen_eq : screen e.backend = some s
  drawn : e.txn.state ≠ .idle →
    ∃ before : Picture, s.buffer = before.drawAll (MonoPanel.runCalls caps 0 t.chunks.flatten)
  shown : e.txn.state = .refreshing → s.shown.getLast? = some s.buffer

/-- What a step adds to the pictures shown: the whole image of the transfer if it
acknowledges the end, and nothing otherwise. -/
inductive ShownMove (caps : DisplayCapabilities) (t : Transfer) (s s' : Screen) : Bool → Prop
  | none (hshown : s'.shown = s.shown) : ShownMove caps t s s' false
  | whole (picture : Picture) (hshown : s'.shown = s.shown ++ [picture])
      (hpicture : picture.Shows caps t.chunks.flatten) : ShownMove caps t s s' true

omit [OpenDisplayBackend β] in
/-- There is no transfer afterwards, and nothing was drawn. -/
lemma Painted.of_idle (hscreen : screen e'.backend = some s) (h : e'.txn.state = .idle) :
    Painted screen caps t e' s :=
  ⟨hscreen, fun hne => absurd h hne, fun hrefreshing => by rw [h] at hrefreshing; cases hrefreshing⟩

omit [OpenDisplayBackend β] in
/-- Only the state and the screen are looked at. -/
lemma Painted.congr (h : Painted screen caps t e s) (hscreen : screen e'.backend = screen e.backend)
    (hstate : e'.txn.state = e.txn.state) : Painted screen caps t e' s :=
  ⟨hscreen.trans h.screen_eq, fun hne => h.drawn (by rwa [← hstate]),
    fun hrefreshing => h.shown (by rwa [← hstate])⟩

section Calls

variable (hdraws : DrawsOn screen)

include hdraws

lemma screen_abort (e : TransferEngine β) (error : ErrorCode) :
    screen (e.abort error).backend = screen e.backend := by
  by_cases h : e.txn.state = .idle
  · rw [abort_backend_of_idle _ _ h]
  · rw [abort_backend_of_active _ _ h, hdraws.abortTransfer]

lemma screen_cleared (e : TransferEngine β) : screen e.cleared.backend = screen e.backend := by
  unfold cleared
  split_ifs
  · exact screen_abort hdraws e _
  · rfl

lemma BeginOutcome.screen_eq {mode : TransferMode} {total now : UInt32} {why : Option ErrorCode}
    (h : BeginOutcome e mode total now why e') : screen e'.backend = screen e.backend := by
  cases h with
  | busy => rfl
  | sizeMismatch => exact screen_cleared hdraws e
  | beginFailed | opened => exact (hdraws.beginFrame _ _).trans (screen_cleared hdraws e)

lemma Polled.screen_eq (h : Polled e e') : screen e'.backend = screen e.backend := by
  cases h with
  | free => rfl
  | pending => exact hdraws.pollRefresh _

end Calls

/-- The size of an open transfer is that of the panel. -/
lemma Sized.full_of_book (h : Sized caps t e) (hbook : Bookkeeping t e.txn) :
    t.full = caps.fullFrameBytes :=
  h.full_eq (by rcases hbook.mode_ne with hmode | hmode <;> simp [hmode])

/-! ### START -/

/-- A START that is refused leaves the transfer as it is, or ends it. -/
lemma Painted.refused (hdraws : DrawsOn screen) (h : Painted screen caps t e s)
    {mode : TransferMode} {total now : UInt32} {why : ErrorCode}
    (hbegin : BeginOutcome e mode total now (some why) e') (error : ErrorCode) :
    Painted screen caps t { e' with lastError := error } s := by
  have hscreen : screen e'.backend = some s := (hbegin.screen_eq hdraws).trans h.screen_eq
  rcases hbegin.txn_of_refused with htxn | hidle
  · exact h.congr (hscreen.trans h.screen_eq.symm) (by rw [htxn])
  · exact .of_idle hscreen hidle

/-- A START that is taken finds some picture, and has drawn nothing on it. -/
lemma Painted.opened (hdraws : DrawsOn screen) (h : Painted screen caps t e s)
    {mode : TransferMode} {total now : UInt32} (hbegin : BeginOutcome e mode total now none e') :
    Painted screen caps (e.openedTransfer mode) e' s where
  screen_eq := (hbegin.screen_eq hdraws).trans h.screen_eq
  drawn _ := ⟨s.buffer, rfl⟩
  shown hrefreshing := by
    cases hbegin with
    | opened => cases hrefreshing

/-! ### Data -/

/-- A chunk that fits into the frame is drawn behind those before it. -/
lemma Painted.written (hdraws : DrawsOn screen) (h : Painted screen caps t e s)
    (hcaps : capabilities e.backend = caps) (hbook : Bookkeeping t e.txn)
    (hfull : t.full = caps.fullFrameBytes) (hstate : e.txn.state = .receiving)
    {data : List UInt8}
    (hfit : data.length ≤ (e.txn.expectedFrameBytes - e.txn.acceptedBytes).toNat)
    (hbackend : e'.backend = (writeContiguous e.backend e.txn.acceptedBytes data).2)
    (hstate' : e'.txn.state = .receiving) :
    ∃ s', Painted screen caps (t.accept data) e' s' ∧ s'.shown = s.shown := by
  obtain ⟨-, hle⟩ := hbook.fits hfit
  have hfits : e.txn.acceptedBytes.toNat + data.length ≤
      (capabilities e.backend).fullFrameBytes.toNat := by
    rw [hcaps, ← hfull, ← hbook.expected_eq, hbook.accepted_eq]
    exact hle
  obtain ⟨-, hscreen⟩ := hdraws.written h.screen_eq hfits
  rw [← hbackend, hcaps, hbook.accepted_eq] at hscreen
  obtain ⟨before, hbefore⟩ := h.drawn (by rw [hstate]; decide)
  refine ⟨s.drawRun caps t.size data, ⟨hscreen, fun _ => ⟨before, ?_⟩, fun hrefreshing => ?_⟩, rfl⟩
  · rw [Screen.drawRun, hbefore, Transfer.chunks_accept, List.flatten_append,
      MonoPanel.runCalls_append, Picture.drawAll_append]
    simp [Transfer.size]
  · rw [hstate'] at hrefreshing
    cases hrefreshing

/-! ### END -/

/-- The end of a transfer: a picture is shown of a whole frame, and acknowledged. -/
lemma Painted.finish (hdraws : DrawsOn screen) (hgeometry : MonoPanel.Geometry caps)
    (h : Painted screen caps t e s) (hbook : Bookkeeping t e.txn)
    (hfull : t.full = caps.fullFrameBytes) (hstate : e.txn.state = .receiving)
    {endOpcode : UInt16} (hopcode : endOpcode = cmdDirectWriteEnd ∨ endOpcode = cmdPipeWriteEnd)
    {now : UInt32} {res : EngineResult} (hfinish : FinishOutcome e endOpcode now res e') :
    ∃ s', Painted screen caps t e' s' ∧ ShownMove caps t s s' res.response.acksEnd := by
  obtain ⟨before, hbefore⟩ := h.drawn (by rw [hstate]; decide)
  have hfinished : screen (finishFrame e.backend).2 = some s :=
    (hdraws.finishFrame _).trans h.screen_eq
  have hpicture : e.txn.acceptedBytes = e.txn.expectedFrameBytes →
      s.buffer.Shows caps t.chunks.flatten := by
    intro hlen
    rw [hbefore]
    refine Picture.shows_drawAll hgeometry ?_ before
    rw [← hfull, ← hbook.expected_eq, ← hlen, hbook.accepted_eq]
    rfl
  cases hfinish with
  | incomplete =>
      rw [fault, acksEnd_encodeNack]
      refine ⟨s, .of_idle ?_ (by simp), .none rfl⟩
      exact (screen_abort hdraws _ _).trans h.screen_eq
  | finishFailed =>
      rw [fault, acksEnd_encodeNack]
      refine ⟨s, .of_idle ?_ (by simp), .none rfl⟩
      exact (screen_abort hdraws _ _).trans hfinished
  | refreshFailed hlen _ hanswer =>
      rw [fault, acksEnd_encodeNack]
      refine ⟨s, .of_idle ?_ (by simp), .none rfl⟩
      exact (screen_abort hdraws _ _).trans ((hdraws.notBegun hanswer).trans hfinished)
  | refreshing hlen _ hanswer =>
      have hscreen := hdraws.begun hanswer
      rw [hfinished] at hscreen
      have hacks : (reply (encodeAck endOpcode)).response.acksEnd = true := by
        rcases hopcode with rfl | rfl <;> decide
      rw [hacks]
      exact ⟨s.present, ⟨hscreen, fun _ => ⟨before, hbefore⟩, fun _ => List.getLast?_concat⟩,
        .whole s.buffer rfl (hpicture hlen)⟩

/-! ### One step -/

/-- What an operation of the engine with this result does to a screen, with the transfer `t'`
after it. -/
def PaintStep (screen : β → Option Screen) (caps : DisplayCapabilities) (s : Screen)
    (t' : Transfer) (res : EngineResult) (e' : TransferEngine β) : Prop :=
  ∃ s', Painted screen caps t' e' s' ∧ ShownMove caps t' s s' res.response.acksEnd

omit [OpenDisplayBackend β] in
/-- Nothing new is shown, and no end acknowledged. -/
lemma Painted.still {res : EngineResult} (h : Painted screen caps t e s)
    (hres : res.response.acksEnd = false) : PaintStep screen caps s t res e :=
  ⟨s, h, hres ▸ .none rfl⟩

omit [PanelWorld β ω] in
lemma acksEnd_start (e : TransferEngine β) (p : Payload) (now : UInt32) :
    (e.onDirectStart p now).1.response.acksEnd = false ∧
      (e.onPipeStart p now).1.response.acksEnd = false := by
  have hdirect := onDirectStart_outcome e p now
  have hpipe := onPipeStart_outcome e p now
  constructor
  · generalize (e.onDirectStart p now).1 = res, (e.onDirectStart p now).2 = e₁ at hdirect
    cases hdirect with
    | compressed | refused => simp [fault]
    | started => decide
  · generalize (e.onPipeStart p now).1 = res, (e.onPipeStart p now).2 = e₁ at hpipe
    cases hpipe with
    | badHeader | compressed | refused | started => simp [fault]

omit [PanelWorld β ω] in
lemma acksEnd_tick (e : TransferEngine β) (now : UInt32) :
    (e.tick now).1.response.acksEnd = false := by
  have ho := tick_outcome e now
  generalize (e.tick now).1 = res, (e.tick now).2 = e₁ at ho
  cases ho with
  | complete | failed | released | waiting | transferTimeout | refreshTimeout => exact acksEnd_empty

section Step

variable (hdraws : DrawsOn screen) (hgeometry : MonoPanel.Geometry caps)

include hdraws

lemma Painted.abort (h : Painted screen caps t e s) (error : ErrorCode) :
    Painted screen caps t (e.abort error) s :=
  .of_idle ((screen_abort hdraws e error).trans h.screen_eq) (by simp)

lemma Painted.directStart (h : Painted screen caps t e s) (p : Payload) (now : UInt32) :
    Painted screen caps
      (if (e.onDirectStart p now).1.transferStarted then e.openedTransfer .direct else t)
      (e.onDirectStart p now).2 s := by
  have ho := onDirectStart_outcome e p now
  generalize (e.onDirectStart p now).1 = res, (e.onDirectStart p now).2 = e₁ at ho ⊢
  cases ho with
  | compressed => exact h.congr rfl rfl
  | refused _ why _ hbegin => exact h.refused hdraws hbegin why
  | started _ _ hbegin => exact h.opened hdraws hbegin

lemma Painted.pipeStart (h : Painted screen caps t e s) (p : Payload) (now : UInt32) :
    Painted screen caps
      (if (e.onPipeStart p now).1.transferStarted then e.openedTransfer .pipe else t)
      (e.onPipeStart p now).2 s := by
  have ho := onPipeStart_outcome e p now
  generalize (e.onPipeStart p now).1 = res, (e.onPipeStart p now).2 = e₁ at ho ⊢
  cases ho with
  | badHeader | compressed => exact h.congr rfl rfl
  | refused _ _ _ why _ hbegin => exact h.refused hdraws hbegin why
  | started _ _ _ _ hbegin => exact (h.opened hdraws hbegin).congr rfl rfl

/-- A write within the frame does not fail. -/
lemma Painted.written_ok (h : Painted screen caps t e s) (hsized : Sized caps t e)
    (hbook : Bookkeeping t e.txn) {data : List UInt8}
    (hfit : data.length ≤ (e.txn.expectedFrameBytes - e.txn.acceptedBytes).toNat) :
    (writeContiguous e.backend e.txn.acceptedBytes data).1 = .ok := by
  obtain ⟨-, hle⟩ := hbook.fits hfit
  refine (hdraws.written h.screen_eq ?_).1
  rw [hsized.caps_eq, ← hsized.full_of_book hbook, ← hbook.expected_eq, hbook.accepted_eq]
  exact hle

lemma Painted.directData (h : Painted screen caps t e s) (hled : Ledger t e)
    (hsized : Sized caps t e) (p : Payload) (now : UInt32) :
    PaintStep screen caps s
      (if (e.onDirectData p now).2.stats.directPackets ≠ e.stats.directPackets
        then t.accept p.bytes else t) (e.onDirectData p now).1 (e.onDirectData p now).2 := by
  have ho := onDirectData_outcome e p now
  generalize (e.onDirectData p now).1 = res, (e.onDirectData p now).2 = e₁ at ho ⊢
  cases ho with
  | misplaced =>
      rw [if_neg (fun hne => hne rfl)]
      exact Painted.still (h.congr rfl rfl) (by simp [reply])
  | malformed | oversize =>
      rw [if_neg (by simp)]
      exact (h.abort hdraws _).still (by simp [fault])
  | writeFailed hstate hmode _ hfit hanswer =>
      obtain ⟨-, hbook, -⟩ := hled.book_of_receiving hstate
      rw [hbook.offset_eq (hbook.mode_eq.symm.trans hmode)] at hanswer
      rw [← p.length_bytes] at hfit
      exact absurd (h.written_ok hdraws hsized hbook hfit) hanswer
  | accepted hstate hmode _ hfit =>
      obtain ⟨-, hbook, -⟩ := hled.book_of_receiving hstate
      rw [if_pos (by exact Words.add_one_ne _)]
      rw [← p.length_bytes] at hfit
      have hoffset := hbook.offset_eq (hbook.mode_eq.symm.trans hmode)
      have hbackend : ({ e with
          backend := (writeContiguous e.backend e.txn.nextDirectOffset p.bytes).2
        }.acceptDirect p.len now).backend =
          (writeContiguous e.backend e.txn.acceptedBytes p.bytes).2 := by
        rw [← hoffset]
        rfl
      obtain ⟨s', hpainted, hshown⟩ := h.written hdraws hsized.caps_eq hbook
        (hsized.full_of_book hbook) hstate hfit hbackend hstate
      have hacks : (reply (encodeAck cmdDirectWriteData)).response.acksEnd = false := by decide
      exact ⟨s', hpainted, hacks ▸ .none hshown⟩

include hgeometry

lemma Painted.directEnd (h : Painted screen caps t e s) (hled : Ledger t e)
    (hsized : Sized caps t e) (p : Payload) (now : UInt32) :
    PaintStep screen caps s t (e.onDirectEnd p now).1 (e.onDirectEnd p now).2 := by
  have ho := onDirectEnd_outcome e p now
  generalize (e.onDirectEnd p now).1 = res, (e.onDirectEnd p now).2 = e₁ at ho ⊢
  cases ho with
  | misplaced => exact Painted.still (h.congr rfl rfl) (by simp [reply])
  | finished hstate _ _ _ hfinish =>
      obtain ⟨-, hbook, -⟩ := hled.book_of_receiving hstate
      exact h.finish hdraws hgeometry hbook (hsized.full_of_book hbook) hstate (Or.inl rfl) hfinish

/-- What a chunk that is written leads to. -/
lemma Painted.chunk (h : Painted screen caps t e s) (hbook : Bookkeeping t e.txn)
    (hfull : t.full = caps.fullFrameBytes) (hstate : e.txn.state = .receiving) {now : UInt32}
    {res : EngineResult} (hchunk : ChunkOutcome e now res e') :
    PaintStep screen caps s t res e' := by
  cases hchunk with
  | completed _ _ _ hfinish =>
      have hstaged : Painted screen caps t e.stageTailSack s := h.congr rfl rfl
      exact hstaged.finish hdraws hgeometry hbook.resetCadence hfull hstate (Or.inr rfl) hfinish
  | sacked => exact Painted.still (h.congr rfl rfl) (by simp [reply, inorderSack])
  | silent => exact h.still acksEnd_empty

lemma Painted.pipeData (h : Painted screen caps t e s) (hled : Ledger t e)
    (hsized : Sized caps t e) (p : Payload) (now : UInt32) :
    PaintStep screen caps s
      (if (e.onPipeData p now).2.stats.pipePackets ≠ e.stats.pipePackets
        then t.accept p.bytes.tail else t) (e.onPipeData p now).1 (e.onPipeData p now).2 := by
  have ho := onPipeData_outcome e p now
  generalize (e.onPipeData p now).1 = res, (e.onPipeData p now).2 = e₁ at ho ⊢
  cases ho with
  | latched =>
      rw [if_neg (fun hne => hne rfl)]
      exact h.still acksEnd_empty
  | misplaced | outOfOrder =>
      rw [if_neg (fun hne => hne rfl)]
      exact Painted.still (h.congr rfl rfl) (by simp [reply, inorderSack])
  | malformed | oversize =>
      rw [if_neg (by simp)]
      have hlatched : Painted screen caps t { e with txn.pipeFatal := true } s := h.congr rfl rfl
      exact (hlatched.abort hdraws _).still (by simp [fault])
  | writeFailed _ hplace data _ hfit hanswer =>
      obtain ⟨-, hbook, -⟩ := hled.book_of_receiving hplace.1
      exact absurd (h.written_ok hdraws hsized hbook hfit) hanswer
  | accepted _ hplace data hbytes hfit _ _ _ hchunk =>
      obtain ⟨-, hbook, -⟩ := hled.book_of_receiving hplace.1
      have hfull := hsized.full_of_book hbook
      rw [if_pos (by rw [hchunk.pipePackets_eq]; exact Words.add_one_ne _), hbytes,
        List.tail_cons]
      have hbackend : (e.pipeAccepted e.txn.nextPipeSequence data now).backend =
          (writeContiguous e.backend e.txn.acceptedBytes data).2 := rfl
      obtain ⟨s', hpainted, hshown⟩ :=
        h.written hdraws hsized.caps_eq hbook hfull hplace.1 hfit hbackend hplace.1
      have hbook' : Bookkeeping (t.accept data)
          (e.pipeAccepted e.txn.nextPipeSequence data now).txn :=
        hbook.acceptPipe (hbook.mode_eq.symm.trans hplace.2) hfit now
      obtain ⟨s₁, hpainted₁, hmove⟩ :=
        hpainted.chunk hdraws hgeometry hbook' hfull hplace.1 hchunk
      refine ⟨s₁, hpainted₁, ?_⟩
      generalize res.response.acksEnd = acked at hmove ⊢
      cases hmove with
      | none hshown₁ => exact .none (hshown₁.trans hshown)
      | whole picture hshown₁ hpicture =>
          exact .whole picture (by rw [hshown₁, hshown]) hpicture

lemma Painted.pipeEnd (h : Painted screen caps t e s) (hled : Ledger t e)
    (hsized : Sized caps t e) (p : Payload) (now : UInt32) :
    PaintStep screen caps s t (e.onPipeEnd p now).1 (e.onPipeEnd p now).2 := by
  have ho := onPipeEnd_outcome e p now
  generalize (e.onPipeEnd p now).1 = res, (e.onPipeEnd p now).2 = e₁ at ho ⊢
  cases ho with
  | misplaced => exact Painted.still (h.congr rfl rfl) (by simp [reply])
  | flushed hplace _ _ _ hfinish =>
      obtain ⟨-, hbook, -⟩ := hled.book_of_receiving hplace.1
      have hstaged : Painted screen caps t e.stageTailSack s := h.congr rfl rfl
      exact hstaged.finish hdraws hgeometry hbook.resetCadence (hsized.full_of_book hbook)
        hplace.1 (Or.inr rfl) hfinish
  | finished hplace _ _ _ hfinish =>
      obtain ⟨-, hbook, -⟩ := hled.book_of_receiving hplace.1
      exact h.finish hdraws hgeometry hbook (hsized.full_of_book hbook) hplace.1 (Or.inr rfl)
        hfinish

omit hgeometry

lemma Painted.tick (h : Painted screen caps t e s) (now : UInt32) :
    Painted screen caps t (e.tick now).2 s := by
  have ho := tick_outcome e now
  generalize (e.tick now).1 = res, (e.tick now).2 = e₁ at ho ⊢
  cases ho with
  | complete | failed => exact .of_idle ((hdraws.pollRefresh _).trans h.screen_eq) rfl
  | released => exact h.congr (hdraws.pollRefresh _) rfl
  | waiting _ hp => exact h.congr (hp.screen_eq hdraws) (by rw [hp.txn_eq])
  | transferTimeout _ hp | refreshTimeout _ hp =>
      refine .of_idle ?_ (by simp)
      exact (screen_abort hdraws _ _).trans ((hp.screen_eq hdraws).trans h.screen_eq)

/-- Nothing but the engine draws on the screen or updates it. -/
def LeavesScreen (screen : β → Option Screen) (op : EngineOp ω) : Prop :=
  ∀ event, op = .world event → ∀ b, screen (PanelWorld.happen event b) = screen b

include hgeometry

/-- **What one step of the engine makes the panel show.** -/
theorem Painted.step (h : Painted screen caps t e s) (hled : Ledger t e)
    (hsized : Sized caps t e) (op : EngineOp ω) (hop : LeavesScreen screen op) :
    PaintStep screen caps s (watchTransfer t e op) (e.perform op).1 (e.step op) := by
  cases op with
  | directStart p now => exact (h.directStart hdraws p now).still (e.acksEnd_start p now).1
  | directData p now => exact h.directData hdraws hled hsized p now
  | directEnd p now => exact h.directEnd hdraws hgeometry hled hsized p now
  | pipeStart p now => exact (h.pipeStart hdraws p now).still (e.acksEnd_start p now).2
  | pipeData p now => exact h.pipeData hdraws hgeometry hled hsized p now
  | pipeEnd p now => exact h.pipeEnd hdraws hgeometry hled hsized p now
  | tick now => exact (h.tick hdraws now).still (e.acksEnd_tick now)
  | abort error => exact (h.abort hdraws error).still acksEnd_empty
  | disconnect gen =>
      have ho := onDisconnect_outcome e gen
      simp only [TransferEngine.step, perform, watchTransfer]
      generalize e.onDisconnect gen = e₁ at ho ⊢
      cases ho with
      | ignored => exact h.still acksEnd_empty
      | aborted => exact (h.abort hdraws _).still acksEnd_empty
  | setConnectionGeneration => exact Painted.still (h.congr rfl rfl) acksEnd_empty
  | takeTailSack =>
      refine Painted.still (h.congr ?_ ?_) acksEnd_empty <;>
        simp [TransferEngine.step, perform]
  | world event => exact Painted.still (h.congr (hop event rfl _) rfl) acksEnd_empty

end Step

/-! ### Runs -/

/-- What a run has done so far: the transfer it is in, and the images of the transfers whose
END was acknowledged. -/
structure Gallery where
  transfer : Transfer := {}
  frames : List (List UInt8) := []

/-- The monitor of a run: it looks at what the engine takes and answers, and at no screen. -/
def watchGallery (g : Gallery) (e : TransferEngine β) (op : EngineOp ω) : Gallery :=
  let t := watchTransfer g.transfer e op
  { transfer := t
    frames :=
      if (e.perform op).1.response.acksEnd then g.frames ++ [t.chunks.flatten] else g.frames }

/-- Since it showed `before`, the panel was made to show the frames of the gallery, each whole
and once, and nothing else; and when the engine reports a refresh, it shows the image of the
transfer. -/
structure WholeFramesShown (screen : β → Option Screen) (caps : DisplayCapabilities)
    (before : List Picture) (g : Gallery) (e : TransferEngine β) (s : Screen) : Prop where
  screen_eq : screen e.backend = some s
  frames : ∃ shown, s.shown = before ++ shown ∧
    List.Forall₂ (fun frame picture => Picture.Shows caps frame picture) g.frames shown
  reported : ∀ now, (e.tick now).1.refreshComplete = true →
    s.shown.getLast? = some s.buffer ∧ s.buffer.Shows caps g.transfer.chunks.flatten

/-- What holds along every run. -/
structure GalleryInv (screen : β → Option Screen) (caps : DisplayCapabilities)
    (before : List Picture) (r : Gallery × TransferEngine β) : Prop where
  ledger : Ledger r.1.transfer r.2
  sized : Sized caps r.1.transfer r.2
  painted : ∃ s, Painted screen caps r.1.transfer r.2 s ∧ ∃ shown, s.shown = before ++ shown ∧
    List.Forall₂ (fun frame picture => Picture.Shows caps frame picture) r.1.frames shown

section Runs

variable {before : List Picture}

lemma GalleryInv.step [FixedCapabilities β] (hdraws : DrawsOn screen)
    (hgeometry : MonoPanel.Geometry caps) {r : Gallery × TransferEngine β}
    (h : GalleryInv screen caps before r) (op : EngineOp ω) (hop : LeavesScreen screen op) :
    GalleryInv screen caps before (Machine.monitored step watchGallery r op) where
  ledger := h.ledger.step op
  sized := h.sized.step op
  painted := by
    obtain ⟨s, hpainted, shown, hshown, hframes⟩ := h.painted
    obtain ⟨s', hpainted', hmove⟩ :=
      hpainted.step hdraws hgeometry h.ledger h.sized op hop
    refine ⟨s', hpainted', ?_⟩
    simp only [Machine.monitored, watchGallery]
    generalize (r.2.perform op).1.response.acksEnd = acked at hmove ⊢
    cases hmove with
    | none hshown' => exact ⟨shown, hshown'.trans hshown, hframes⟩
    | whole picture hshown' hpicture =>
        exact ⟨shown ++ [picture], by rw [hshown', hshown, List.append_assoc],
          List.rel_append hframes (.cons hpicture .nil)⟩

omit [PanelWorld β ω] in
/-- A refresh that is reported complete shows the image. -/
lemma GalleryInv.wholeFramesShown (hgeometry : MonoPanel.Geometry caps)
    {r : Gallery × TransferEngine β} (h : GalleryInv screen caps before r) :
    ∃ s, WholeFramesShown screen caps before r.1 r.2 s := by
  obtain ⟨s, hpainted, hframes⟩ := h.painted
  refine ⟨s, hpainted.screen_eq, hframes, fun now hdone => ?_⟩
  have ho := tick_outcome r.2 now
  generalize (r.2.tick now).1 = res, (r.2.tick now).2 = e₁ at ho hdone
  cases ho with
  | complete _ _ hstate =>
      refine ⟨hpainted.shown hstate, ?_⟩
      obtain ⟨picture, hpicture⟩ := hpainted.drawn (by rw [hstate]; decide)
      cases h.ledger with
      | idle htxn => rw [htxn] at hstate; cases hstate
      | receiving hreceiving => rw [hreceiving] at hstate; cases hstate
      | refreshing _ _ hbook hfull =>
          rw [hbook.expected_eq, h.sized.full_of_book hbook] at hfull
          rw [hpicture]
          exact Picture.shows_drawAll hgeometry hfull picture
  | failed | released | waiting | transferTimeout | refreshTimeout => cases hdone

/-- A backend with a screen shows whole frames only. -/
theorem wholeFramesShown_of_drawsOn [FixedCapabilities β] (hdraws : DrawsOn screen) {b : β}
    {s : Screen} (hs : screen b = some s) (hgeometry : MonoPanel.Geometry (capabilities b))
    (transferMs refreshMs : UInt32) {ops : List (EngineOp ω)}
    (hops : ∀ op ∈ ops, LeavesScreen screen op) :
    let r := Machine.exec (Machine.monitored step watchGallery)
      (({} : Gallery), init b transferMs refreshMs) ops
    ∃ s', WholeFramesShown screen (capabilities b) s.shown r.1 r.2 s' := by
  intro r
  have hinit : GalleryInv screen (capabilities b) s.shown
      (({} : Gallery), init b transferMs refreshMs) :=
    { ledger := ledger_init _ _ _ _
      sized := ⟨rfl, fun h => absurd rfl h⟩
      painted := ⟨s, .of_idle hs rfl, [], (List.append_nil _).symm, .nil⟩ }
  have hinv : GalleryInv screen (capabilities b) s.shown r :=
    Machine.exec_invariant_of_allSteps (P := fun _ op => LeavesScreen screen op)
      (fun _ op h hop => h.step hdraws hgeometry op hop) hinit
      (Machine.allSteps_of_forall_mem _ (fun op hop _ => hops op hop) _)
  exact hinv.wholeFramesShown hgeometry

end Runs

end TransferEngine

/-- A driver of ten by two pixels with a frame buffer.  An update makes it busy, and it stays so
until it is told. -/
structure BufferedDriver where
  idle : Bool := true
  screen : Screen := { buffer := fun _ _ => .black }

instance : DisplayDriver BufferedDriver where
  isFailed _ := false
  isIdle d := d.idle
  rotation _ := .degrees0
  nativeWidth _ := 10
  nativeHeight _ := 2
  update d := if d.idle then ⟨false, d.screen.present⟩ else d
  drawPixelAt d x y color := { d with screen := d.screen.draw ⟨x, y, color⟩ }

namespace BufferedDriver

lemma paintsOn : PaintsOn BufferedDriver.screen where
  drawn _ _ _ _ := rfl
  updated d hidle _ := congrArg BufferedDriver.screen (if_pos hidle)
  rejected d hidle hidle' := by
    have hbusy : DisplayDriver.isIdle (DisplayDriver.update d) = false :=
      congrArg BufferedDriver.idle (if_pos hidle)
    rw [hbusy] at hidle'
    cases hidle'

/-- What `init` states for it. -/
def caps : DisplayCapabilities := (MonoPanel.initCaps (some ({} : BufferedDriver)) {}).getD {}

/-- The refresh is over. -/
def settle (d : BufferedDriver) : BufferedDriver := { d with idle := true }

/-- A transfer that is given up after three of its four bytes, and one that is not. -/
def givenUpFirst : List (EngineOp (BufferedDriver → BufferedDriver)) :=
  [.directStart (.ofBytes []) 0, .directData (.ofBytes [0xff, 0xff, 0xff]) 1,
    .directStart (.ofBytes []) 2, .directData (.ofBytes [1, 2, 3]) 3,
    .directData (.ofBytes [4]) 4, .directEnd (.ofBytes []) 5, .world settle]

end BufferedDriver

namespace TransferEngine

open BufferedDriver (givenUpFirst settle)

end TransferEngine

end OpenDisplay
