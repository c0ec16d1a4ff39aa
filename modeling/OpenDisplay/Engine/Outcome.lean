import OpenDisplay.Engine.Basic

/-!
# What each operation of the engine can do

One inductive predicate for each entry point with more than one branch: its
constructors are the ways the operation can end, with the conditions under which
it ends that way, the result it returns and the engine it leaves.  Every fact
about a step is a case analysis over these predicates; no later file unfolds an
entry point.
-/

namespace OpenDisplay

namespace TransferEngine

variable {β ω : Type} [OpenDisplayBackend β] [PanelWorld β ω]

open OpenDisplayBackend

/-! ### `abort` -/

section Abort

variable (e : TransferEngine β) (error : ErrorCode)

@[simp] lemma abort_txn : (e.abort error).txn = {} := by
  unfold abort; split_ifs <;> rfl

@[simp] lemma abort_hwOwned : (e.abort error).hwOwned = e.hwOwned := by
  unfold abort; split_ifs <;> rfl

@[simp] lemma abort_lastError : (e.abort error).lastError = error := by
  unfold abort; split_ifs <;> rfl

@[simp] lemma abort_connectionGeneration :
    (e.abort error).connectionGeneration = e.connectionGeneration := by
  unfold abort; split_ifs <;> rfl

@[simp] lemma abort_transferTimeoutMs :
    (e.abort error).transferTimeoutMs = e.transferTimeoutMs := by
  unfold abort; split_ifs <;> rfl

@[simp] lemma abort_refreshTimeoutMs :
    (e.abort error).refreshTimeoutMs = e.refreshTimeoutMs := by
  unfold abort; split_ifs <;> rfl

@[simp] lemma abort_hasTailSack : (e.abort error).hasTailSack = e.hasTailSack := by
  unfold abort; split_ifs <;> rfl

@[simp] lemma abort_pendingTailSack :
    (e.abort error).pendingTailSack = e.pendingTailSack := by
  unfold abort; split_ifs <;> rfl

@[simp] lemma abort_directPackets :
    (e.abort error).stats.directPackets = e.stats.directPackets := by
  unfold abort; split_ifs <;> rfl

@[simp] lemma abort_pipePackets : (e.abort error).stats.pipePackets = e.stats.pipePackets := by
  unfold abort; split_ifs <;> rfl

lemma abort_backend_of_idle (h : e.txn.state = .idle) : (e.abort error).backend = e.backend := by
  simp [abort, h]

lemma abort_backend_of_active (h : e.txn.state ≠ .idle) :
    (e.abort error).backend = abortTransfer e.backend := by
  simp [abort, h]

end Abort

/-! ### The shared START -/

/-- The frame that a START of a full frame opens on a panel. -/
def fullFrame (caps : DisplayCapabilities) : FrameDescriptor :=
  { totalBytes := caps.fullFrameBytes, colorScheme := caps.colorScheme }

/-- The transaction that a START opens. -/
def openedTxn (e : TransferEngine β) (mode : TransferMode) (totalBytes nowMs : UInt32)
    (frame : FrameDescriptor) : Transaction :=
  { mode := mode
    connectionGeneration := e.connectionGeneration
    state := .receiving
    expectedFrameBytes := totalBytes
    transferDeadlineMs := nowMs + e.transferTimeoutMs
    frame := frame }

/-- What `begin_transaction_` can do: it refuses while the panel is ours; otherwise the transfer
in flight is aborted, and the new one is refused for its size, fails to begin or is opened. -/
inductive BeginOutcome (e : TransferEngine β) (mode : TransferMode) (totalBytes nowMs : UInt32) :
    Option ErrorCode → TransferEngine β → Prop
  | busy (hw : e.hwOwned = true) : BeginOutcome e mode totalBytes nowMs (some .busy) e
  | sizeMismatch (hw : e.hwOwned = false)
      (hsize : totalBytes ≠ (capabilities e.cleared.backend).fullFrameBytes) :
      BeginOutcome e mode totalBytes nowMs (some .invalidSize) e.cleared
  | beginFailed (hw : e.hwOwned = false)
      (hsize : totalBytes = (capabilities e.cleared.backend).fullFrameBytes)
      (frame : FrameDescriptor)
      (hframe : frame = { totalBytes := totalBytes
                          colorScheme := (capabilities e.cleared.backend).colorScheme })
      (hanswer : (beginFrame e.cleared.backend frame).1 ≠ .ok) :
      BeginOutcome e mode totalBytes nowMs (some .backendBeginFailed)
        { e.cleared with backend := (beginFrame e.cleared.backend frame).2, txn := {} }
  | opened (hw : e.hwOwned = false)
      (hsize : totalBytes = (capabilities e.cleared.backend).fullFrameBytes)
      (frame : FrameDescriptor)
      (hframe : frame = { totalBytes := totalBytes
                          colorScheme := (capabilities e.cleared.backend).colorScheme })
      (hanswer : (beginFrame e.cleared.backend frame).1 = .ok) :
      BeginOutcome e mode totalBytes nowMs none
        { e.cleared with
          backend := (beginFrame e.cleared.backend frame).2
          txn := e.cleared.openedTxn mode totalBytes nowMs frame }

lemma beginTransaction_outcome (e : TransferEngine β) (mode : TransferMode)
    (totalBytes nowMs : UInt32) :
    BeginOutcome e mode totalBytes nowMs (e.beginTransaction mode totalBytes nowMs).1
      (e.beginTransaction mode totalBytes nowMs).2 := by
  rw [beginTransaction]
  dsimp only
  split_ifs with hw hsize hanswer
  · exact .busy hw
  · exact .sizeMismatch (by simpa using hw) hsize
  · exact .beginFailed (by simpa using hw) (by simpa using hsize) _ rfl hanswer
  · exact .opened (by simpa using hw) (by simpa using hsize) _ rfl (by simpa using hanswer)

/-! ### Finish and refresh -/

/-- What `finish_and_refresh_` can do: a frame that is not complete, or that the panel does
not finish or refresh, is aborted; otherwise the panel refreshes and is ours. -/
inductive FinishOutcome (e : TransferEngine β) (endOpcode : UInt16) (nowMs : UInt32) :
    EngineResult → TransferEngine β → Prop
  | incomplete (hlen : e.txn.acceptedBytes ≠ e.txn.expectedFrameBytes) :
      FinishOutcome e endOpcode nowMs (fault (encodeNack endOpcode))
        ({ e with txn.state := .validating }.abort .invalidSize)
  | finishFailed (hlen : e.txn.acceptedBytes = e.txn.expectedFrameBytes)
      (hanswer : (finishFrame e.backend).1 ≠ .ok) :
      FinishOutcome e endOpcode nowMs (fault (encodeNack endOpcode))
        ({ e with
            backend := (finishFrame e.backend).2
            txn.state := .validating
            stats.backendFailures := e.stats.backendFailures + 1 }.abort .backendFinishFailed)
  | refreshFailed (hlen : e.txn.acceptedBytes = e.txn.expectedFrameBytes)
      (hfinish : (finishFrame e.backend).1 = .ok)
      (hanswer : (beginRefresh (finishFrame e.backend).2 {}).1 ≠ .ok) :
      FinishOutcome e endOpcode nowMs (fault (encodeNack endOpcode))
        ({ e with
            backend := (beginRefresh (finishFrame e.backend).2 {}).2
            txn.state := .writing
            stats.backendFailures := e.stats.backendFailures + 1 }.abort .backendBeginFailed)
  | refreshing (hlen : e.txn.acceptedBytes = e.txn.expectedFrameBytes)
      (hfinish : (finishFrame e.backend).1 = .ok)
      (hanswer : (beginRefresh (finishFrame e.backend).2 {}).1 = .ok) :
      FinishOutcome e endOpcode nowMs (reply (encodeAck endOpcode))
        { e with
          backend := (beginRefresh (finishFrame e.backend).2 {}).2
          hwOwned := true
          refreshStartedMs := nowMs
          txn.state := .refreshing
          txn.refreshDeadlineMs := nowMs + e.refreshTimeoutMs }

lemma finishAndRefresh_outcome (e : TransferEngine β) (endOpcode : UInt16) (nowMs : UInt32) :
    FinishOutcome e endOpcode nowMs (e.finishAndRefresh endOpcode nowMs).1
      (e.finishAndRefresh endOpcode nowMs).2 := by
  rw [finishAndRefresh]
  dsimp only
  split_ifs with hlen hfinish hanswer
  · exact .incomplete hlen
  · exact .finishFailed (by simpa using hlen) hfinish
  · exact .refreshFailed (by simpa using hlen) (by simpa using hfinish) hanswer
  · exact .refreshing (by simpa using hlen) (by simpa using hfinish) (by simpa using hanswer)

/-! ### Direct write -/

/-- What `on_direct_start` can do: a payload asks for compression and is refused, and so is
what `begin_transaction_` refuses. -/
inductive DirectStartOutcome (e : TransferEngine β) (p : Payload) (nowMs : UInt32) :
    EngineResult → TransferEngine β → Prop
  | compressed (hlen : p.len ≠ 0) :
      DirectStartOutcome e p nowMs (fault (encodeNack cmdDirectWriteStart))
        { e with lastError := .unsupportedFormat }
  | refused (hlen : p.len = 0) (why : ErrorCode) (e₁ : TransferEngine β)
      (hbegin : BeginOutcome e .direct (capabilities e.backend).fullFrameBytes nowMs
        (some why) e₁) :
      DirectStartOutcome e p nowMs (fault (encodeNack cmdDirectWriteStart))
        { e₁ with lastError := why }
  | started (hlen : p.len = 0) (e₁ : TransferEngine β)
      (hbegin : BeginOutcome e .direct (capabilities e.backend).fullFrameBytes nowMs none e₁) :
      DirectStartOutcome e p nowMs
        { response := encodeAck cmdDirectWriteStart, transferStarted := true } e₁

lemma onDirectStart_outcome (e : TransferEngine β) (p : Payload) (nowMs : UInt32) :
    DirectStartOutcome e p nowMs (e.onDirectStart p nowMs).1 (e.onDirectStart p nowMs).2 := by
  rw [onDirectStart]
  dsimp only
  split_ifs with hlen
  · exact .compressed hlen
  · have hbegin := e.beginTransaction_outcome .direct (capabilities e.backend).fullFrameBytes nowMs
    rcases h : e.beginTransaction .direct (capabilities e.backend).fullFrameBytes nowMs
      with ⟨_ | why, e₁⟩ <;> rw [h] at hbegin
    · exact .started (by simpa using hlen) e₁ hbegin
    · exact .refused (by simpa using hlen) why e₁ hbegin

/-- What `on_direct_data` can do: it is refused outside a direct transfer, which goes on only
if the data is not empty, fits and is written. -/
inductive DirectDataOutcome (e : TransferEngine β) (p : Payload) (nowMs : UInt32) :
    EngineResult → TransferEngine β → Prop
  | misplaced (hplace : ¬ (e.txn.state = .receiving ∧ e.txn.mode = .direct)) :
      DirectDataOutcome e p nowMs (reply (encodeNack cmdDirectWriteData))
        { e with lastError := .invalidState }
  | malformed (hstate : e.txn.state = .receiving) (hmode : e.txn.mode = .direct)
      (hlen : p.len = 0) :
      DirectDataOutcome e p nowMs (fault (encodeNack cmdDirectWriteData))
        (e.abort .malformedPacket)
  | oversize (hstate : e.txn.state = .receiving) (hmode : e.txn.mode = .direct)
      (hlen : p.len ≠ 0)
      (hfit : (e.txn.expectedFrameBytes - e.txn.acceptedBytes).toNat < p.len) :
      DirectDataOutcome e p nowMs (fault (encodeNack cmdDirectWriteData)) (e.abort .invalidSize)
  | writeFailed (hstate : e.txn.state = .receiving) (hmode : e.txn.mode = .direct)
      (hlen : p.len ≠ 0)
      (hfit : p.len ≤ (e.txn.expectedFrameBytes - e.txn.acceptedBytes).toNat)
      (hanswer : (writeContiguous e.backend e.txn.nextDirectOffset p.bytes).1 ≠ .ok) :
      DirectDataOutcome e p nowMs (fault (encodeNack cmdDirectWriteData))
        ({ e with
            backend := (writeContiguous e.backend e.txn.nextDirectOffset p.bytes).2
            stats.backendFailures := e.stats.backendFailures + 1 }.abort .backendWriteFailed)
  | accepted (hstate : e.txn.state = .receiving) (hmode : e.txn.mode = .direct)
      (hlen : p.len ≠ 0)
      (hfit : p.len ≤ (e.txn.expectedFrameBytes - e.txn.acceptedBytes).toNat)
      (hanswer : (writeContiguous e.backend e.txn.nextDirectOffset p.bytes).1 = .ok) :
      DirectDataOutcome e p nowMs (reply (encodeAck cmdDirectWriteData))
        ({ e with
            backend := (writeContiguous e.backend e.txn.nextDirectOffset p.bytes).2 }.acceptDirect
          p.len nowMs)

lemma onDirectData_outcome (e : TransferEngine β) (p : Payload) (nowMs : UInt32) :
    DirectDataOutcome e p nowMs (e.onDirectData p nowMs).1 (e.onDirectData p nowMs).2 := by
  rw [onDirectData]
  dsimp only
  split_ifs with hplace hnull hfit hanswer
  · exact .misplaced (by tauto)
  all_goals
    obtain ⟨hstate, hmode⟩ : e.txn.state = .receiving ∧ e.txn.mode = .direct := by tauto
  · refine .malformed hstate hmode ?_
    rcases hnull with hnull | hnull
    · exact p.len_eq_zero_of_isNull hnull
    · exact hnull
  all_goals
    have hlen : p.len ≠ 0 := fun h => hnull (Or.inr h)
  · exact .oversize hstate hmode hlen hfit
  · exact .writeFailed hstate hmode hlen (by omega) hanswer
  · exact .accepted hstate hmode hlen (by omega) (by simpa using hanswer)

/-- What `on_direct_end` can do: it is refused outside a direct transfer, and otherwise the
frame is finished. -/
inductive DirectEndOutcome (e : TransferEngine β) (nowMs : UInt32) :
    EngineResult → TransferEngine β → Prop
  | misplaced (hplace : ¬ (e.txn.state = .receiving ∧ e.txn.mode = .direct)) :
      DirectEndOutcome e nowMs (reply (encodeNack cmdDirectWriteEnd))
        { e with lastError := .invalidState }
  | finished (hstate : e.txn.state = .receiving) (hmode : e.txn.mode = .direct)
      (res : EngineResult) (e' : TransferEngine β)
      (hfinish : FinishOutcome e cmdDirectWriteEnd nowMs res e') :
      DirectEndOutcome e nowMs res e'

lemma onDirectEnd_outcome (e : TransferEngine β) (p : Payload) (nowMs : UInt32) :
    DirectEndOutcome e nowMs (e.onDirectEnd p nowMs).1 (e.onDirectEnd p nowMs).2 := by
  rw [onDirectEnd]
  split_ifs with hplace
  · exact .misplaced (by tauto)
  · exact .finished (by tauto) (by tauto) _ _ (e.finishAndRefresh_outcome _ _)

/-! ### PIPE write -/

/-- What `on_pipe_start` can do: a header that does not parse or asks for compression is
refused, and so is what `begin_transaction_` refuses; otherwise each term is negotiated. -/
inductive PipeStartOutcome (e : TransferEngine β) (p : Payload) (nowMs : UInt32) :
    EngineResult → TransferEngine β → Prop
  | badHeader (code : UInt8) (hparse : parsePipeStart p = .error code) :
      PipeStartOutcome e p nowMs (fault (encodeNackErr cmdPipeWriteStart code))
        { e with lastError := .malformedPacket }
  | compressed (req : PipeStartRequest) (hparse : parsePipeStart p = .ok req)
      (hflag : req.flags &&& pipeFlagCompressed ≠ 0) :
      PipeStartOutcome e p nowMs
        (fault (encodeNackErr cmdPipeWriteStart odErrPipeStartUnknownFlag))
        { e with lastError := .unsupportedFormat }
  | refused (req : PipeStartRequest) (hparse : parsePipeStart p = .ok req)
      (hflag : req.flags &&& pipeFlagCompressed = 0) (why : ErrorCode) (e₁ : TransferEngine β)
      (hbegin : BeginOutcome e .pipe req.totalSize nowMs (some why) e₁) :
      PipeStartOutcome e p nowMs
        (fault (encodeNackErr cmdPipeWriteStart
          (if why = .invalidSize then odErrPipeStartSizeMismatch else odErrPipeStartBadHeader)))
        { e₁ with lastError := why }
  | started (req : PipeStartRequest) (hparse : parsePipeStart p = .ok req)
      (hflag : req.flags &&& pipeFlagCompressed = 0) (e₁ : TransferEngine β)
      (hbegin : BeginOutcome e .pipe req.totalSize nowMs none e₁)
      (window ackEvery : UInt8) (frame : UInt16)
      (hwindow : window = if req.reqWindow < pipeMaxWindow then req.reqWindow else pipeMaxWindow)
      (hackEvery : ackEvery =
        if req.reqAckEvery < pipeMaxAckEvery then req.reqAckEvery else pipeMaxAckEvery)
      (hframe : frame =
        if req.clientMaxFrame < pipeMaxFrame then req.clientMaxFrame else pipeMaxFrame) :
      PipeStartOutcome e p nowMs
        { response := encodePipeStartResponse window ackEvery frame 0x00
          transferStarted := true }
        { e₁ with
          txn.negotiatedWindow := window
          txn.negotiatedAckEvery := ackEvery
          txn.negotiatedFrame := frame }

lemma onPipeStart_outcome (e : TransferEngine β) (p : Payload) (nowMs : UInt32) :
    PipeStartOutcome e p nowMs (e.onPipeStart p nowMs).1 (e.onPipeStart p nowMs).2 := by
  rw [onPipeStart]
  rcases hparse : parsePipeStart p with code | req
  · exact .badHeader code hparse
  · dsimp only
    by_cases hflag : req.flags &&& pipeFlagCompressed ≠ 0
    · rw [if_pos hflag]
      exact .compressed req hparse hflag
    · rw [if_neg hflag]
      have hbegin := e.beginTransaction_outcome .pipe req.totalSize nowMs
      rcases h : e.beginTransaction .pipe req.totalSize nowMs with ⟨_ | why, e₁⟩ <;>
        rw [h] at hbegin
      · exact .started req hparse (by simpa using hflag) e₁ hbegin _ _ _ rfl rfl rfl
      · exact .refused req hparse (by simpa using hflag) why e₁ hbegin

/-- A PIPE transfer is open and takes data. -/
def PipeReceiving (e : TransferEngine β) : Prop :=
  e.txn.state = .receiving ∧ e.txn.mode = .pipe

/-- The engine after an accepted chunk, before it is acknowledged. -/
def pipeAccepted (e : TransferEngine β) (seq : UInt8) (data : List UInt8) (nowMs : UInt32) :
    TransferEngine β :=
  { e with
    backend := (writeContiguous e.backend e.txn.acceptedBytes data).2 }.acceptPipe seq data.length
      nowMs

/-- The last byte of a full uncompressed frame has been accepted. -/
def PipeComplete (e : TransferEngine β) : Prop :=
  e.txn.expectedFrameBytes ≤ e.txn.acceptedBytes ∧ e.txn.frame.compressed = false ∧
    e.txn.frame.partialFrame = false

/-- What an in-order chunk that is written leads to. -/
inductive ChunkOutcome (e : TransferEngine β) (nowMs : UInt32) :
    EngineResult → TransferEngine β → Prop
  | completed (hdone : e.PipeComplete) (res : EngineResult) (e' : TransferEngine β)
      (hfinish : FinishOutcome e.stageTailSack cmdPipeWriteEnd nowMs res e') :
      ChunkOutcome e nowMs res e'
  | sacked (hopen : ¬ e.PipeComplete)
      (hcadence : e.txn.negotiatedAckEvery ≤ e.txn.acceptedSinceAck) :
      ChunkOutcome e nowMs (reply e.inorderSack) { e with txn.acceptedSinceAck := 0 }
  | silent (hopen : ¬ e.PipeComplete)
      (hcadence : e.txn.acceptedSinceAck < e.txn.negotiatedAckEvery) :
      ChunkOutcome e nowMs {} e

/-- What `on_pipe_data` can do.  Nothing is said while the latch is set, and outside a PIPE
transfer it is set.  A chunk out of order is answered and dropped; one in order goes on to
`ChunkOutcome` if it fits and is written, and else the transfer is aborted. -/
inductive PipeDataOutcome (e : TransferEngine β) (p : Payload) (nowMs : UInt32) :
    EngineResult → TransferEngine β → Prop
  | latched (hlatch : e.txn.pipeFatal = true) : PipeDataOutcome e p nowMs {} e
  | misplaced (hlatch : e.txn.pipeFatal = false) (hplace : ¬ e.PipeReceiving) :
      PipeDataOutcome e p nowMs
        (reply (encodePipeNack odPipeNackProtocol e.txn.highestSeen
          (buildInorderAckMask e.txn.acceptedPackets)))
        { e with lastError := .invalidState, txn.pipeFatal := true }
  | malformed (hlatch : e.txn.pipeFatal = false) (hplace : e.PipeReceiving)
      (hbytes : p.bytes = []) :
      PipeDataOutcome e p nowMs (fault (encodePipeNack odPipeNackProtocol 0 0))
        ({ e with txn.pipeFatal := true }.abort .malformedPacket)
  | outOfOrder (hlatch : e.txn.pipeFatal = false) (hplace : e.PipeReceiving)
      (seq : UInt8) (data : List UInt8) (hbytes : p.bytes = seq :: data)
      (hseq : seq ≠ e.txn.nextPipeSequence) :
      PipeDataOutcome e p nowMs (reply e.inorderSack)
        { e with stats.retransmitRequests := e.stats.retransmitRequests + 1 }
  | oversize (hlatch : e.txn.pipeFatal = false) (hplace : e.PipeReceiving)
      (data : List UInt8) (hbytes : p.bytes = e.txn.nextPipeSequence :: data)
      (hfit : (e.txn.expectedFrameBytes - e.txn.acceptedBytes).toNat < data.length) :
      PipeDataOutcome e p nowMs (fault (encodePipeNack odPipeNackWriteSize 0 0))
        ({ e with txn.pipeFatal := true }.abort .invalidSize)
  | writeFailed (hlatch : e.txn.pipeFatal = false) (hplace : e.PipeReceiving)
      (data : List UInt8) (hbytes : p.bytes = e.txn.nextPipeSequence :: data)
      (hfit : data.length ≤ (e.txn.expectedFrameBytes - e.txn.acceptedBytes).toNat)
      (hanswer : (writeContiguous e.backend e.txn.acceptedBytes data).1 ≠ .ok) :
      PipeDataOutcome e p nowMs (fault (encodePipeNack odPipeNackWriteSize 0 0))
        ({ e with
            backend := (writeContiguous e.backend e.txn.acceptedBytes data).2
            stats.backendFailures := e.stats.backendFailures + 1
            txn.pipeFatal := true }.abort .backendWriteFailed)
  | accepted (hlatch : e.txn.pipeFatal = false) (hplace : e.PipeReceiving)
      (data : List UInt8) (hbytes : p.bytes = e.txn.nextPipeSequence :: data)
      (hfit : data.length ≤ (e.txn.expectedFrameBytes - e.txn.acceptedBytes).toNat)
      (hanswer : (writeContiguous e.backend e.txn.acceptedBytes data).1 = .ok)
      (res : EngineResult) (e' : TransferEngine β)
      (hchunk : ChunkOutcome (e.pipeAccepted e.txn.nextPipeSequence data nowMs) nowMs res e') :
      PipeDataOutcome e p nowMs res e'

lemma concludeChunk_outcome (e : TransferEngine β) (nowMs : UInt32) :
    ChunkOutcome e nowMs (e.concludeChunk nowMs).1 (e.concludeChunk nowMs).2 := by
  rw [concludeChunk]
  dsimp only
  split_ifs with hdone hcadence
  · exact .completed (by simpa [PipeComplete] using hdone) _ _
      (e.stageTailSack.finishAndRefresh_outcome _ _)
  · exact .sacked (by simpa [PipeComplete] using hdone) hcadence
  · exact .silent (by simpa [PipeComplete] using hdone) (by simpa using hcadence)

lemma onPipeData_outcome (e : TransferEngine β) (p : Payload) (nowMs : UInt32) :
    PipeDataOutcome e p nowMs (e.onPipeData p nowMs).1 (e.onPipeData p nowMs).2 := by
  rw [onPipeData]
  split_ifs with hlatch hplace
  · exact .latched hlatch
  · exact .misplaced (by simpa using hlatch) (by unfold PipeReceiving; tauto)
  · have hlatch' : e.txn.pipeFatal = false := by simpa using hlatch
    have hplace' : e.PipeReceiving := by unfold PipeReceiving; tauto
    rcases hbytes : p.bytes with _ | ⟨seq, data⟩
    · exact .malformed hlatch' hplace' hbytes
    · dsimp only
      split_ifs with hseq hfit hanswer
      · exact .outOfOrder hlatch' hplace' seq data hbytes hseq
      all_goals obtain rfl : seq = e.txn.nextPipeSequence := by simpa using hseq
      · rw [abort_txn]
        exact .oversize hlatch' hplace' data hbytes hfit
      · rw [abort_txn]
        exact .writeFailed hlatch' hplace' data hbytes (by omega) hanswer
      · exact .accepted hlatch' hplace' data hbytes (by omega) (by simpa using hanswer) _ _
          (concludeChunk_outcome _ nowMs)

/-- What `on_pipe_end` can do: it is refused outside a PIPE transfer, and otherwise the frame
is finished, after a SACK for the chunks that have not been acknowledged. -/
inductive PipeEndOutcome (e : TransferEngine β) (nowMs : UInt32) :
    EngineResult → TransferEngine β → Prop
  | misplaced (hplace : ¬ e.PipeReceiving) :
      PipeEndOutcome e nowMs (reply (encodeNack cmdPipeWriteEnd))
        { e with lastError := .invalidState }
  | flushed (hplace : e.PipeReceiving) (htail : e.txn.acceptedSinceAck ≠ 0)
      (res : EngineResult) (e' : TransferEngine β)
      (hfinish : FinishOutcome e.stageTailSack cmdPipeWriteEnd nowMs res e') :
      PipeEndOutcome e nowMs res e'
  | finished (hplace : e.PipeReceiving) (htail : e.txn.acceptedSinceAck = 0)
      (res : EngineResult) (e' : TransferEngine β)
      (hfinish : FinishOutcome e cmdPipeWriteEnd nowMs res e') :
      PipeEndOutcome e nowMs res e'

lemma onPipeEnd_outcome (e : TransferEngine β) (p : Payload) (nowMs : UInt32) :
    PipeEndOutcome e nowMs (e.onPipeEnd p nowMs).1 (e.onPipeEnd p nowMs).2 := by
  rw [onPipeEnd]
  dsimp only
  split_ifs with hplace htail
  · exact .misplaced (by unfold PipeReceiving; tauto)
  · exact .flushed (by unfold PipeReceiving; tauto) htail _ _
      (e.stageTailSack.finishAndRefresh_outcome _ _)
  · exact .finished (by unfold PipeReceiving; tauto) (by simpa using htail) _ _
      (e.finishAndRefresh_outcome _ _)

/-! ### Taking a staged SACK -/

omit [OpenDisplayBackend β] in
@[simp] lemma takeTailSack_txn (e : TransferEngine β) : e.takeTailSack.2.txn = e.txn := by
  unfold takeTailSack; split_ifs <;> rfl

omit [OpenDisplayBackend β] in
@[simp] lemma takeTailSack_backend (e : TransferEngine β) :
    e.takeTailSack.2.backend = e.backend := by
  unfold takeTailSack; split_ifs <;> rfl

omit [OpenDisplayBackend β] in
@[simp] lemma takeTailSack_lastError (e : TransferEngine β) :
    e.takeTailSack.2.lastError = e.lastError := by
  unfold takeTailSack; split_ifs <;> rfl

omit [OpenDisplayBackend β] in
@[simp] lemma takeTailSack_hwOwned (e : TransferEngine β) :
    e.takeTailSack.2.hwOwned = e.hwOwned := by
  unfold takeTailSack; split_ifs <;> rfl

omit [OpenDisplayBackend β] in
@[simp] lemma takeTailSack_hasTailSack (e : TransferEngine β) :
    e.takeTailSack.2.hasTailSack = false := by
  unfold takeTailSack
  split_ifs with h
  · rfl
  · simpa using h

omit [OpenDisplayBackend β] in
lemma takeTailSack_of_not {e : TransferEngine β} (h : e.hasTailSack = false) :
    e.takeTailSack = (none, e) := by
  simp [takeTailSack, h]

omit [OpenDisplayBackend β] in
lemma takeTailSack_of_has {e : TransferEngine β} (h : e.hasTailSack = true) :
    e.takeTailSack.1 = some e.pendingTailSack := by
  simp [takeTailSack, h]

omit [OpenDisplayBackend β] in
@[simp] lemma takeTailSack_connectionGeneration (e : TransferEngine β) :
    e.takeTailSack.2.connectionGeneration = e.connectionGeneration := by
  unfold takeTailSack; split_ifs <;> rfl

section Staged

variable {e e' : TransferEngine β}

lemma BeginOutcome.hasTailSack {mode : TransferMode} {total now : UInt32}
    {why : Option ErrorCode} (h : BeginOutcome e mode total now why e') :
    e'.hasTailSack = e.hasTailSack := by
  have hcleared : e.cleared.hasTailSack = e.hasTailSack := by
    unfold cleared
    split_ifs <;> simp
  cases h with
  | busy => rfl
  | sizeMismatch | beginFailed | opened => exact hcleared

/-- The end of a transfer leaves a staged SACK alone. -/
lemma FinishOutcome.staged {endOpcode : UInt16} {now : UInt32} {res : EngineResult}
    (h : FinishOutcome e endOpcode now res e') :
    e'.hasTailSack = e.hasTailSack ∧ e'.pendingTailSack = e.pendingTailSack := by
  cases h <;> exact ⟨by simp, by simp⟩

/-- The frames at the end of a PIPE transfer for which a SACK was staged. -/
lemma FinishOutcome.frames_of_staged {now : UInt32} {res : EngineResult}
    (h : FinishOutcome e.stageTailSack cmdPipeWriteEnd now res e') :
    e'.takeTailSack.1.toList ++ [res.response] = [e.inorderSack, res.response] := by
  obtain ⟨hhas, hpending⟩ := h.staged
  rw [takeTailSack_of_has (hhas.trans rfl), hpending]
  rfl

end Staged

/-! ### Disconnect and the loop -/

/-- What `on_disconnect` can do: only a transfer of that connection which still receives is
aborted. -/
inductive DisconnectOutcome (e : TransferEngine β) (gen : UInt32) : TransferEngine β → Prop
  | ignored (hignored : e.txn.state = .idle ∨ e.txn.connectionGeneration ≠ gen ∨
      e.txn.state = .refreshing) : DisconnectOutcome e gen e
  | aborted (hactive : e.txn.state ≠ .idle) (hgen : e.txn.connectionGeneration = gen)
      (hstate : e.txn.state ≠ .refreshing) :
      DisconnectOutcome e gen (e.abort .disconnected)

lemma onDisconnect_outcome (e : TransferEngine β) (gen : UInt32) :
    DisconnectOutcome e gen (e.onDisconnect gen) := by
  rw [onDisconnect]
  split_ifs with hidle hgen hstate
  · exact .ignored (Or.inl hidle)
  · exact .ignored (Or.inr (Or.inl hgen))
  · exact .ignored (Or.inr (Or.inr hstate))
  · exact .aborted hidle (by simpa using hgen) hstate

@[simp] lemma onDisconnect_hasTailSack (e : TransferEngine β) (gen : UInt32) :
    (e.onDisconnect gen).hasTailSack = e.hasTailSack := by
  have ho := e.onDisconnect_outcome gen
  generalize e.onDisconnect gen = e' at ho ⊢
  cases ho with
  | ignored => rfl
  | aborted => exact abort_hasTailSack _ _

/-- The engine after the poll of `tick` when the poll does not end the refresh:
a panel that is not ours is not polled. -/
inductive Polled (e : TransferEngine β) : TransferEngine β → Prop
  | free (hw : e.hwOwned = false) : Polled e e
  | pending (hw : e.hwOwned = true) (hpoll : (pollRefresh e.backend).1 = .pending) :
      Polled e { e with backend := (pollRefresh e.backend).2 }

lemma Polled.txn_eq {e e₁ : TransferEngine β} (h : Polled e e₁) : e₁.txn = e.txn := by
  cases h <;> rfl

/-- The deadline switch of `tick` aborts a transfer here. -/
def TransferExpired (e : TransferEngine β) (nowMs : UInt32) : Prop :=
  (e.txn.state = .receiving ∨ e.txn.state = .validating ∨ e.txn.state = .writing) ∧
    deadlinePassed nowMs e.txn.transferDeadlineMs = true

/-- The deadline switch of `tick` gives a refresh up here. -/
def RefreshExpired (e : TransferEngine β) (nowMs : UInt32) : Prop :=
  e.txn.state = .refreshing ∧ deadlinePassed nowMs e.txn.refreshDeadlineMs = true

/-- What `tick` can do: the poll ends the refresh, or frees a panel that nothing waits for;
else a deadline has passed, or nothing happens. -/
inductive TickOutcome (e : TransferEngine β) (nowMs : UInt32) :
    EngineResult → TransferEngine β → Prop
  | complete (hw : e.hwOwned = true) (hpoll : (pollRefresh e.backend).1 = .complete)
      (hstate : e.txn.state = .refreshing) :
      TickOutcome e nowMs { refreshComplete := true }
        { e with
          backend := (pollRefresh e.backend).2
          hwOwned := false
          txn := {}
          stats.transfersOk := e.stats.transfersOk + 1 }
  | failed (hw : e.hwOwned = true) (hpoll : (pollRefresh e.backend).1 = .failed)
      (hstate : e.txn.state = .refreshing) :
      TickOutcome e nowMs { terminalError := true }
        { e with
          backend := (pollRefresh e.backend).2
          hwOwned := false
          txn := {}
          stats.backendFailures := e.stats.backendFailures + 1
          lastError := .backendFinishFailed }
  | released (hw : e.hwOwned = true) (hpoll : (pollRefresh e.backend).1 ≠ .pending)
      (hstate : e.txn.state ≠ .refreshing) :
      TickOutcome e nowMs {}
        { e with backend := (pollRefresh e.backend).2, hwOwned := false }
  | waiting (e₁ : TransferEngine β) (hpolled : Polled e e₁)
      (htransfer : ¬ e₁.TransferExpired nowMs) (hrefresh : ¬ e₁.RefreshExpired nowMs) :
      TickOutcome e nowMs {} e₁
  | transferTimeout (e₁ : TransferEngine β) (hpolled : Polled e e₁)
      (htransfer : e₁.TransferExpired nowMs) :
      TickOutcome e nowMs { terminalError := true } (e₁.abort .transferTimeout)
  | refreshTimeout (e₁ : TransferEngine β) (hpolled : Polled e e₁)
      (hrefresh : e₁.RefreshExpired nowMs) :
      TickOutcome e nowMs { refreshTimeout := true }
        ({ e₁ with stats.refreshTimeouts := e₁.stats.refreshTimeouts + 1 }.abort .refreshTimeout)

/-- The deadline switch, after the poll. -/
lemma checkDeadlines_outcome {e e₁ : TransferEngine β} (hpolled : Polled e e₁) (nowMs : UInt32) :
    TickOutcome e nowMs (e₁.checkDeadlines nowMs).1 (e₁.checkDeadlines nowMs).2 := by
  rw [checkDeadlines]
  split
  all_goals rename_i hstate
  case h_4 =>
    split_ifs with hpassed
    · exact .refreshTimeout e₁ hpolled ⟨hstate, hpassed⟩
    · exact .waiting e₁ hpolled (by simp [TransferExpired, hstate])
        (by simp [RefreshExpired, hpassed])
  case h_5 =>
    exact .waiting e₁ hpolled (by simp [TransferExpired, hstate])
      (by simp [RefreshExpired, hstate])
  case h_6 =>
    exact .waiting e₁ hpolled (by simp [TransferExpired, hstate])
      (by simp [RefreshExpired, hstate])
  all_goals
    split_ifs with hpassed
    · exact .transferTimeout e₁ hpolled ⟨by simp [hstate], hpassed⟩
    · exact .waiting e₁ hpolled (by simp [TransferExpired, hpassed])
        (by simp [RefreshExpired, hstate])

lemma tick_outcome (e : TransferEngine β) (nowMs : UInt32) :
    TickOutcome e nowMs (e.tick nowMs).1 (e.tick nowMs).2 := by
  rw [tick]
  rcases hw : e.hwOwned with _ | _
  · exact checkDeadlines_outcome (.free hw) nowMs
  · rw [if_pos rfl]
    dsimp only [releaseHardware]
    rcases hpoll : (pollRefresh e.backend).1 with _ | _ | _
    · rw [if_neg (by simp)]
      exact hw ▸ checkDeadlines_outcome (.pending hw hpoll) nowMs
    · by_cases hstate : e.txn.state = .refreshing
      · have ho : TickOutcome e nowMs _ _ := .complete hw hpoll hstate
        simpa [hstate] using ho
      · have ho : TickOutcome e nowMs _ _ := .released hw (by simp [hpoll]) hstate
        simpa [hstate] using ho
    · by_cases hstate : e.txn.state = .refreshing
      · have ho : TickOutcome e nowMs _ _ := .failed hw hpoll hstate
        simpa [hstate] using ho
      · have ho : TickOutcome e nowMs _ _ := .released hw (by simp [hpoll]) hstate
        simpa [hstate] using ho

/-! ### A transfer that receives -/

/-- What a transfer keeps while it receives. -/
structure SameTransfer (txn txn' : Transaction) : Prop where
  mode_eq : txn'.mode = txn.mode
  generation_eq : txn'.connectionGeneration = txn.connectionGeneration
  window_eq : txn'.negotiatedWindow = txn.negotiatedWindow
  ackEvery_eq : txn'.negotiatedAckEvery = txn.negotiatedAckEvery

/-- How an operation can leave a transfer that receives: it was receiving already, or
the operation is the START that opened it. -/
inductive ReceivingStep (e : TransferEngine β) (op : EngineOp ω) (e' : TransferEngine β) : Prop
  | kept (hstate : e.txn.state = .receiving) (hsame : SameTransfer e.txn e'.txn)
  | directOpened (p : Payload) (nowMs : UInt32) (hop : op = .directStart p nowMs)
      (hstarted : (e.perform op).1.transferStarted = true) (hmode : e'.txn.mode = .direct)
      (hgen : e'.txn.connectionGeneration = e.connectionGeneration)
  | pipeOpened (p : Payload) (nowMs : UInt32) (req : PipeStartRequest)
      (hop : op = .pipeStart p nowMs) (hparse : parsePipeStart p = .ok req)
      (hstarted : (e.perform op).1.transferStarted = true) (hmode : e'.txn.mode = .pipe)
      (hgen : e'.txn.connectionGeneration = e.connectionGeneration)
      (hwindow : e'.txn.negotiatedWindow =
        if req.reqWindow < pipeMaxWindow then req.reqWindow else pipeMaxWindow)
      (hackEvery : e'.txn.negotiatedAckEvery =
        if req.reqAckEvery < pipeMaxAckEvery then req.reqAckEvery else pipeMaxAckEvery)

section Receiving

variable {e e' : TransferEngine β}

lemma ReceivingStep.of_txn_eq {op : EngineOp ω} (h : e'.txn = e.txn)
    (hstate : e'.txn.state = .receiving) : ReceivingStep e op e' :=
  .kept (by rw [← h]; exact hstate) (by rw [h]; exact ⟨rfl, rfl, rfl, rfl⟩)

lemma BeginOutcome.txn_of_refused {mode : TransferMode} {total nowMs : UInt32} {why : ErrorCode}
    (h : BeginOutcome e mode total nowMs (some why) e') :
    e'.txn = e.txn ∨ e'.txn.state = .idle := by
  cases h with
  | busy => exact Or.inl rfl
  | sizeMismatch =>
      unfold cleared
      split_ifs
      · exact Or.inr (by simp)
      · exact Or.inl rfl
  | beginFailed => exact Or.inr rfl

lemma BeginOutcome.txn_of_opened {mode : TransferMode} {total nowMs : UInt32}
    (h : BeginOutcome e mode total nowMs none e') :
    e'.txn.mode = mode ∧ e'.txn.connectionGeneration = e.connectionGeneration := by
  cases h with
  | opened =>
      refine ⟨rfl, ?_⟩
      simp only [openedTxn, cleared]
      split_ifs <;> simp

lemma FinishOutcome.not_receiving {endOpcode : UInt16} {nowMs : UInt32} {res : EngineResult}
    (h : FinishOutcome e endOpcode nowMs res e') : e'.txn.state ≠ .receiving := by
  cases h <;> simp

lemma onPipeData_receiving {op : EngineOp ω} {p : Payload} {nowMs : UInt32} {res : EngineResult}
    (ho : PipeDataOutcome e p nowMs res e') (hstate : e'.txn.state = .receiving) :
    ReceivingStep e op e' := by
  cases ho with
  | latched | outOfOrder => exact .of_txn_eq rfl hstate
  | misplaced => exact .kept hstate ⟨rfl, rfl, rfl, rfl⟩
  | malformed | oversize | writeFailed => simp at hstate
  | accepted _ hplace _ _ _ _ _ _ hchunk =>
      cases hchunk with
      | completed _ _ _ hfinish => exact absurd hstate hfinish.not_receiving
      | sacked | silent => exact .kept hplace.1 ⟨rfl, rfl, rfl, rfl⟩

lemma tick_receiving {op : EngineOp ω} {nowMs : UInt32} {res : EngineResult}
    (ho : TickOutcome e nowMs res e') (hstate : e'.txn.state = .receiving) :
    ReceivingStep e op e' := by
  cases ho with
  | complete | failed => cases hstate
  | released => exact .of_txn_eq rfl hstate
  | waiting _ hp =>
      cases hp with
      | free | pending => exact .of_txn_eq rfl hstate
  | transferTimeout | refreshTimeout => simp at hstate

/-- **A transfer that receives was receiving before or has just been opened.** -/
theorem step_receiving (e : TransferEngine β) (op : EngineOp ω)
    (hstate : (e.step op).txn.state = .receiving) : ReceivingStep e op (e.step op) := by
  cases op with
  | directStart p now =>
      have ho := onDirectStart_outcome e p now
      have hres : (e.perform (.directStart p now : EngineOp ω)).1 = (e.onDirectStart p now).1 := rfl
      simp only [step, perform] at hstate ⊢
      generalize (e.onDirectStart p now).1 = res, (e.onDirectStart p now).2 = e₁ at ho hres hstate ⊢
      cases ho with
      | compressed => exact .of_txn_eq rfl hstate
      | refused _ _ _ hbegin =>
          rcases hbegin.txn_of_refused with h | h
          · exact .of_txn_eq h hstate
          · rw [h] at hstate; cases hstate
      | started _ _ hbegin =>
          obtain ⟨hmode, hgen⟩ := hbegin.txn_of_opened
          exact .directOpened p now rfl (by rw [hres]) hmode hgen
  | pipeStart p now =>
      have ho := onPipeStart_outcome e p now
      have hres : (e.perform (.pipeStart p now : EngineOp ω)).1 = (e.onPipeStart p now).1 := rfl
      simp only [step, perform] at hstate ⊢
      generalize (e.onPipeStart p now).1 = res, (e.onPipeStart p now).2 = e₁ at ho hres hstate ⊢
      cases ho with
      | badHeader | compressed => exact .of_txn_eq rfl hstate
      | refused _ _ _ _ _ hbegin =>
          rcases hbegin.txn_of_refused with h | h
          · exact .of_txn_eq h hstate
          · rw [h] at hstate; cases hstate
      | started req hparse _ _ hbegin _ _ _ hwindow hackEvery =>
          obtain ⟨hmode, hgen⟩ := hbegin.txn_of_opened
          exact .pipeOpened p now req rfl hparse (by rw [hres]) hmode hgen hwindow hackEvery
  | directData p now =>
      have ho := onDirectData_outcome e p now
      simp only [step, perform] at hstate ⊢
      generalize (e.onDirectData p now).1 = res, (e.onDirectData p now).2 = e₁ at ho hstate ⊢
      cases ho with
      | misplaced => exact .of_txn_eq rfl hstate
      | malformed | oversize | writeFailed => simp at hstate
      | accepted hreceiving => exact .kept hreceiving ⟨rfl, rfl, rfl, rfl⟩
  | directEnd p now =>
      have ho := onDirectEnd_outcome e p now
      simp only [step, perform] at hstate ⊢
      generalize (e.onDirectEnd p now).1 = res, (e.onDirectEnd p now).2 = e₁ at ho hstate ⊢
      cases ho with
      | misplaced => exact .of_txn_eq rfl hstate
      | finished _ _ _ _ hfinish => exact absurd hstate hfinish.not_receiving
  | pipeData p now => exact onPipeData_receiving (onPipeData_outcome e p now) hstate
  | pipeEnd p now =>
      have ho := onPipeEnd_outcome e p now
      simp only [step, perform] at hstate ⊢
      generalize (e.onPipeEnd p now).1 = res, (e.onPipeEnd p now).2 = e₁ at ho hstate ⊢
      cases ho with
      | misplaced => exact .of_txn_eq rfl hstate
      | flushed _ _ _ _ hfinish | finished _ _ _ _ hfinish =>
          exact absurd hstate hfinish.not_receiving
  | tick now => exact tick_receiving (tick_outcome e now) hstate
  | abort error => simp [step, perform] at hstate
  | disconnect gen =>
      have ho := onDisconnect_outcome e gen
      simp only [step, perform] at hstate ⊢
      generalize e.onDisconnect gen = e₁ at ho hstate ⊢
      cases ho with
      | ignored => exact .of_txn_eq rfl hstate
      | aborted => simp at hstate
  | setConnectionGeneration | world => exact .of_txn_eq rfl hstate
  | takeTailSack =>
      simp only [step, perform, TransferEngine.takeTailSack] at hstate ⊢
      split_ifs at hstate ⊢ <;> exact .of_txn_eq rfl hstate

end Receiving

/-! ### The backend -/

section Backend

variable {P : β → Prop} {e e' : TransferEngine β}

lemma abort_backend (hP : QuietInvariant P) (error : ErrorCode) (h : P e.backend) :
    P (e.abort error).backend := by
  unfold abort
  split_ifs
  · exact hP.abortTransfer h
  · exact h

lemma cleared_backend (hP : QuietInvariant P) (h : P e.backend) : P e.cleared.backend := by
  unfold cleared
  split_ifs
  · exact abort_backend hP _ h
  · exact h

lemma BeginOutcome.backend (hP : QuietInvariant P) (h : P e.backend) {mode : TransferMode}
    {total now : UInt32} {why : Option ErrorCode} (ho : BeginOutcome e mode total now why e') :
    P e'.backend := by
  cases ho with
  | busy => exact h
  | sizeMismatch => exact cleared_backend hP h
  | beginFailed | opened => exact hP.beginFrame _ (cleared_backend hP h)

lemma FinishOutcome.backend (hP : QuietInvariant P) (h : P e.backend) {endOpcode : UInt16}
    {now : UInt32} {res : EngineResult} (ho : FinishOutcome e endOpcode now res e') :
    P e'.backend := by
  cases ho with
  | incomplete => apply abort_backend hP; exact h
  | finishFailed => apply abort_backend hP; exact hP.finishFrame h
  | refreshFailed => apply abort_backend hP; exact hP.beginRefresh _ (hP.finishFrame h)
  | refreshing => exact hP.beginRefresh _ (hP.finishFrame h)

/-- The step may write these bytes: the data of a packet for the open transfer. -/
def Writes (e : TransferEngine β) (op : EngineOp ω) (data : List UInt8) : Prop :=
  match op with
  | .directData p _ => e.txn.state = .receiving ∧ p.bytes = data
  | .pipeData p _ => e.txn.state = .receiving ∧ ∃ seq, p.bytes = seq :: data
  | _ => False

/-- The step may make this call of `write_contiguous`: the data of a packet for the open
transfer, at the place where it goes on, as far as the frame goes. -/
def WriteCall (e : TransferEngine β) (op : EngineOp ω) (offset : UInt32) (data : List UInt8) :
    Prop :=
  data.length ≤ (e.txn.expectedFrameBytes - e.txn.acceptedBytes).toNat ∧
    match op with
    | .directData p _ => (e.txn.state = .receiving ∧ e.txn.mode = .direct) ∧
        offset = e.txn.nextDirectOffset ∧ p.bytes = data
    | .pipeData p _ => e.PipeReceiving ∧ offset = e.txn.acceptedBytes ∧
        p.bytes = e.txn.nextPipeSequence :: data
    | _ => False

omit [OpenDisplayBackend β] [PanelWorld β ω] in
lemma WriteCall.writes {op : EngineOp ω} {offset : UInt32} {data : List UInt8}
    (h : e.WriteCall op offset data) : e.Writes op data := by
  obtain ⟨-, h⟩ := h
  cases op with
  | directData => exact ⟨h.1.1, h.2.2⟩
  | pipeData => exact ⟨h.1.1, _, h.2.2⟩
  | _ => exact h

lemma PipeDataOutcome.backend (hP : QuietInvariant P) (h : P e.backend) {p : Payload}
    {now : UInt32} {res : EngineResult} (ho : PipeDataOutcome e p now res e')
    (hwrite : ∀ offset data, e.WriteCall (.pipeData p now : EngineOp ω) offset data →
      P (writeContiguous e.backend offset data).2) : P e'.backend := by
  cases ho with
  | latched | misplaced | outOfOrder => exact h
  | malformed | oversize => apply abort_backend hP; exact h
  | writeFailed _ hplace _ hbytes hfit =>
      apply abort_backend hP
      exact hwrite _ _ ⟨hfit, hplace, rfl, hbytes⟩
  | accepted _ hplace data hbytes hfit _ _ _ hchunk =>
      have hwritten := hwrite e.txn.acceptedBytes data ⟨hfit, hplace, rfl, hbytes⟩
      cases hchunk with
      | completed _ _ _ hfinish => exact hfinish.backend hP hwritten
      | sacked | silent => exact hwritten

lemma TickOutcome.backend (hP : QuietInvariant P) (h : P e.backend) {now : UInt32}
    {res : EngineResult} (ho : TickOutcome e now res e') : P e'.backend := by
  have hpolled : ∀ {e₁}, Polled e e₁ → P e₁.backend := by
    intro e₁ hp
    cases hp with
    | free => exact h
    | pending => exact hP.pollRefresh h
  cases ho with
  | complete | failed | released => exact hP.pollRefresh h
  | waiting _ hp => exact hpolled hp
  | transferTimeout _ hp => exact abort_backend hP _ (hpolled hp)
  | refreshTimeout _ hp => apply abort_backend hP; exact (hpolled hp :)

/-- The engine changes its backend only by calling it, and writes only where the
transfer goes on. -/
theorem step_backend_of_writeCalls (hP : QuietInvariant P) (h : P e.backend) (op : EngineOp ω)
    (hwrite : ∀ offset data, e.WriteCall op offset data →
      P (writeContiguous e.backend offset data).2) :
    P (e.step op).backend := by
  cases op with
  | directStart p now =>
      have ho := onDirectStart_outcome e p now
      rw [step, perform]
      generalize (e.onDirectStart p now).1 = res, (e.onDirectStart p now).2 = e₁ at ho ⊢
      cases ho with
      | compressed => exact h
      | refused _ _ _ hbegin => exact (hbegin.backend hP h :)
      | started _ _ hbegin => exact (hbegin.backend hP h :)
  | directData p now =>
      have ho := onDirectData_outcome e p now
      rw [step, perform]
      generalize (e.onDirectData p now).1 = res, (e.onDirectData p now).2 = e₁ at ho ⊢
      cases ho with
      | misplaced => exact h
      | malformed | oversize => exact abort_backend hP _ h
      | writeFailed hstate hmode _ hfit =>
          refine abort_backend hP _ (hwrite _ _ ⟨?_, ⟨hstate, hmode⟩, rfl, rfl⟩)
          rw [p.length_bytes]
          exact hfit
      | accepted hstate hmode _ hfit =>
          refine hwrite _ _ ⟨?_, ⟨hstate, hmode⟩, rfl, rfl⟩
          rw [p.length_bytes]
          exact hfit
  | directEnd p now =>
      have ho := onDirectEnd_outcome e p now
      rw [step, perform]
      generalize (e.onDirectEnd p now).1 = res, (e.onDirectEnd p now).2 = e₁ at ho ⊢
      cases ho with
      | misplaced => exact h
      | finished _ _ _ _ hfinish => exact hfinish.backend hP h
  | pipeStart p now =>
      have ho := onPipeStart_outcome e p now
      rw [step, perform]
      generalize (e.onPipeStart p now).1 = res, (e.onPipeStart p now).2 = e₁ at ho ⊢
      cases ho with
      | badHeader | compressed => exact h
      | refused _ _ _ _ _ hbegin => exact (hbegin.backend hP h :)
      | started _ _ _ _ hbegin => exact (hbegin.backend hP h :)
  | pipeData p now => exact (onPipeData_outcome e p now).backend hP h hwrite
  | pipeEnd p now =>
      have ho := onPipeEnd_outcome e p now
      rw [step, perform]
      generalize (e.onPipeEnd p now).1 = res, (e.onPipeEnd p now).2 = e₁ at ho ⊢
      cases ho with
      | misplaced => exact h
      | flushed _ _ _ _ hfinish => exact FinishOutcome.backend (e := e.stageTailSack) hP h hfinish
      | finished _ _ _ _ hfinish => exact hfinish.backend hP h
  | tick now => exact (tick_outcome e now).backend hP h
  | abort error => exact abort_backend hP error h
  | disconnect gen =>
      have ho := onDisconnect_outcome e gen
      rw [step, perform]
      generalize e.onDisconnect gen = e₁ at ho ⊢
      cases ho with
      | ignored => exact h
      | aborted => exact abort_backend hP _ h
  | setConnectionGeneration => exact h
  | takeTailSack =>
      rw [step, perform, TransferEngine.takeTailSack]
      split_ifs <;> exact h
  | world event => exact hP.happen event h

/-- The engine changes its backend only by calling it, and writes only the data of
packets. -/
theorem step_backend_of_writes (hP : QuietInvariant P) (h : P e.backend) (op : EngineOp ω)
    (hwrite : ∀ offset data, e.Writes op data → P (writeContiguous e.backend offset data).2) :
    P (e.step op).backend :=
  step_backend_of_writeCalls hP h op fun o d hcall => hwrite o d hcall.writes

/-- **The engine changes its backend only by calling it.** -/
theorem step_backend (hP : BackendInvariant P) (h : P e.backend) (op : EngineOp ω) :
    P (e.step op).backend :=
  step_backend_of_writes hP.toQuietInvariant h op fun o d _ => hP.writeContiguous o d h

end Backend

end TransferEngine

end OpenDisplay
