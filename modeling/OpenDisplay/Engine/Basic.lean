import OpenDisplay.Protocol.Frame
import OpenDisplay.Backend.Interface

/-!
# The transfer engine

`transfer_engine.h` and `transfer_engine.cpp`, function by function.  A method
that returns a value and changes the object is a function to a pair; `abort` and
the other void methods return the changed engine.

The engine is generic in its backend.  A null backend never gets past `setup()`,
so there is one here, and the null checks of the source have no branch.
-/

namespace OpenDisplay

/-! ### Data -/

/-- `Transaction`: the one active transfer.  `Transaction::reset` assigns the
record of defaults. -/
structure Transaction where
  mode : TransferMode := .none
  connectionGeneration : UInt32 := 0
  state : State := .idle
  expectedFrameBytes : UInt32 := 0
  acceptedBytes : UInt32 := 0
  nextDirectOffset : UInt32 := 0
  nextPipeSequence : UInt8 := 0
  highestSeen : UInt8 := 0
  acceptedPackets : UInt32 := 0
  acceptedSinceAck : UInt8 := 0
  /-- After a `0x81` NACK, discard until the next START. -/
  pipeFatal : Bool := false
  negotiatedWindow : UInt8 := 0
  negotiatedAckEvery : UInt8 := 0
  negotiatedFrame : UInt16 := 0
  transferDeadlineMs : UInt32 := 0
  refreshDeadlineMs : UInt32 := 0
  frame : FrameDescriptor := {}
  error : ErrorCode := .none
deriving DecidableEq

/-- `TransferStats`: counters that no reset touches. -/
structure TransferStats where
  transfersOk : UInt32 := 0
  transfersAborted : UInt32 := 0
  directPackets : UInt32 := 0
  pipePackets : UInt32 := 0
  retransmitRequests : UInt32 := 0
  queueOverflows : UInt32 := 0
  backendFailures : UInt32 := 0
  refreshTimeouts : UInt32 := 0
  queueHighWater : UInt32 := 0
deriving DecidableEq

/-- What the component does after handing a frame to the engine. -/
structure EngineResult where
  response : Response := .empty
  /-- Emit `0x0073`. -/
  refreshComplete : Bool := false
  /-- Emit `0x0074`. -/
  refreshTimeout : Bool := false
  transferStarted : Bool := false
  terminalError : Bool := false
deriving DecidableEq

/-- `TransferEngine`, and its backend with it. -/
structure TransferEngine (β : Type) where
  backend : β
  txn : Transaction := {}
  stats : TransferStats := {}
  lastError : ErrorCode := .none
  transferTimeoutMs : UInt32 := 30000
  refreshTimeoutMs : UInt32 := 180000
  connectionGeneration : UInt32 := 0
  /-- The panel is ours from a successful `begin_refresh` to a terminal poll. -/
  hwOwned : Bool := false
  refreshStartedMs : UInt32 := 0
  pendingTailSack : Response := .empty
  hasTailSack : Bool := false

/-- The wrap-safe deadline test; `0` stands for no deadline. -/
def deadlinePassed (nowMs deadlineMs : UInt32) : Bool :=
  deadlineMs != 0 && decide (0 ≤ (nowMs - deadlineMs).toInt32)

/-- The result that carries only a response. -/
def reply (r : Response) : EngineResult := { response := r }

/-- The result of a fault that ends the transfer: a response and the error flag. -/
def fault (r : Response) : EngineResult := { response := r, terminalError := true }

namespace TransferEngine

variable {β ω : Type} [OpenDisplayBackend β] [PanelWorld β ω]

open OpenDisplayBackend

/-- An engine as the constructor and `set_timeouts` leave it. -/
def init (b : β) (transferMs refreshMs : UInt32) : TransferEngine β where
  backend := b
  transferTimeoutMs := transferMs
  refreshTimeoutMs := refreshMs

def isBusy (e : TransferEngine β) : Bool := e.txn.state != .idle || e.hwOwned

/-! ### Terminal paths -/

/-- `abort`.  Hardware ownership is deliberately not given up here. -/
def abort (e : TransferEngine β) (error : ErrorCode) : TransferEngine β :=
  let e :=
    if e.txn.state ≠ .idle then
      { e with
        backend := abortTransfer e.backend
        stats.transfersAborted := e.stats.transfersAborted + 1 }
    else e
  { e with txn := {}, lastError := error }

def releaseHardware (e : TransferEngine β) : TransferEngine β := { e with hwOwned := false }

/-- `on_disconnect`. -/
def onDisconnect (e : TransferEngine β) (connectionGeneration : UInt32) : TransferEngine β :=
  if e.txn.state = .idle then e
  -- a stale generation: not the session of this transaction
  else if e.txn.connectionGeneration ≠ connectionGeneration then e
  -- a refresh that has begun is polled to its end
  else if e.txn.state = .refreshing then e
  else e.abort .disconnected

/-! ### The shared START -/

/-- A START first aborts the transfer in flight. -/
def cleared (e : TransferEngine β) : TransferEngine β :=
  if e.txn.state ≠ .idle then e.abort .invalidState else e

/-- `begin_transaction_`: `none` when the transaction was opened, otherwise the
reason it was not. -/
def beginTransaction (e : TransferEngine β) (mode : TransferMode) (totalBytes nowMs : UInt32) :
    Option ErrorCode × TransferEngine β :=
  -- the driver may still be reading the frame of an earlier transfer
  if e.hwOwned then (some .busy, e)
  else
    let e := e.cleared
    let caps := capabilities e.backend
    if totalBytes ≠ caps.fullFrameBytes then (some .invalidSize, e)
    else
      let txn : Transaction := {
        mode := mode
        connectionGeneration := e.connectionGeneration
        expectedFrameBytes := totalBytes
        transferDeadlineMs := nowMs + e.transferTimeoutMs
        frame := { totalBytes := totalBytes, colorScheme := caps.colorScheme } }
      let answer := beginFrame e.backend txn.frame
      -- the state is set last, so a panel that refuses the frame leaves no transfer
      if answer.1 ≠ .ok then
        (some .backendBeginFailed, { e with backend := answer.2, txn := {} })
      else (none, { e with backend := answer.2, txn := { txn with state := .receiving } })

/-! ### Finish and refresh -/

/-- `finish_and_refresh_`.  The refresh starts before the END is acknowledged. -/
def finishAndRefresh (e : TransferEngine β) (endOpcode : UInt16) (nowMs : UInt32) :
    EngineResult × TransferEngine β :=
  let e := { e with txn.state := .validating }
  if e.txn.acceptedBytes ≠ e.txn.expectedFrameBytes then
    (fault (encodeNack endOpcode), e.abort .invalidSize)
  else
    let finished := finishFrame e.backend
    let e := { e with backend := finished.2 }
    if finished.1 ≠ .ok then
      (fault (encodeNack endOpcode),
        { e with stats.backendFailures := e.stats.backendFailures + 1 }.abort
          .backendFinishFailed)
    else
      let e := { e with txn.state := .writing }
      let started := beginRefresh e.backend {}
      let e := { e with backend := started.2 }
      if started.1 ≠ .ok then
        (fault (encodeNack endOpcode),
          { e with stats.backendFailures := e.stats.backendFailures + 1 }.abort
            .backendBeginFailed)
      else
        (reply (encodeAck endOpcode),
          { e with
            hwOwned := true
            refreshStartedMs := nowMs
            txn.state := .refreshing
            txn.refreshDeadlineMs := nowMs + e.refreshTimeoutMs })

/-! ### Direct write -/

/-- `on_direct_start`. -/
def onDirectStart (e : TransferEngine β) (p : Payload) (nowMs : UInt32) :
    EngineResult × TransferEngine β :=
  -- the compressed form has a payload, and is never advertised
  if p.len ≠ 0 then
    (fault (encodeNack cmdDirectWriteStart), { e with lastError := .unsupportedFormat })
  else
    let total := (capabilities e.backend).fullFrameBytes
    match e.beginTransaction .direct total nowMs with
    | (some why, e) => (fault (encodeNack cmdDirectWriteStart), { e with lastError := why })
    | (none, e) =>
        ({ response := encodeAck cmdDirectWriteStart, transferStarted := true }, e)

/-- The bookkeeping of `on_direct_data` after a successful write. -/
def acceptDirect (e : TransferEngine β) (len : ℕ) (nowMs : UInt32) : TransferEngine β :=
  { e with
    txn.nextDirectOffset := e.txn.nextDirectOffset + UInt32.ofNat len
    txn.acceptedBytes := e.txn.acceptedBytes + UInt32.ofNat len
    txn.transferDeadlineMs := nowMs + e.transferTimeoutMs
    stats.directPackets := e.stats.directPackets + 1 }

/-- `on_direct_data`. -/
def onDirectData (e : TransferEngine β) (p : Payload) (nowMs : UInt32) :
    EngineResult × TransferEngine β :=
  if e.txn.state ≠ .receiving ∨ e.txn.mode ≠ .direct then
    (reply (encodeNack cmdDirectWriteData), { e with lastError := .invalidState })
  else if p.isNull ∨ p.len = 0 then
    (fault (encodeNack cmdDirectWriteData), e.abort .malformedPacket)
  else if (e.txn.expectedFrameBytes - e.txn.acceptedBytes).toNat < p.len then
    (fault (encodeNack cmdDirectWriteData), e.abort .invalidSize)
  else
    let answer := writeContiguous e.backend e.txn.nextDirectOffset p.bytes
    let e := { e with backend := answer.2 }
    if answer.1 ≠ .ok then
      (fault (encodeNack cmdDirectWriteData),
        { e with stats.backendFailures := e.stats.backendFailures + 1 }.abort
          .backendWriteFailed)
    else (reply (encodeAck cmdDirectWriteData), e.acceptDirect p.len nowMs)

/-- `on_direct_end`.  The refresh byte and the etag are tolerated and not read. -/
def onDirectEnd (e : TransferEngine β) (_p : Payload) (nowMs : UInt32) :
    EngineResult × TransferEngine β :=
  if e.txn.state ≠ .receiving ∨ e.txn.mode ≠ .direct then
    (reply (encodeNack cmdDirectWriteEnd), { e with lastError := .invalidState })
  else e.finishAndRefresh cmdDirectWriteEnd nowMs

/-! ### PIPE write -/

/-- `on_pipe_start`. -/
def onPipeStart (e : TransferEngine β) (p : Payload) (nowMs : UInt32) :
    EngineResult × TransferEngine β :=
  match parsePipeStart p with
  | .error code =>
      (fault (encodeNackErr cmdPipeWriteStart code), { e with lastError := .malformedPacket })
  | .ok req =>
      if req.flags &&& pipeFlagCompressed ≠ 0 then
        (fault (encodeNackErr cmdPipeWriteStart odErrPipeStartUnknownFlag),
          { e with lastError := .unsupportedFormat })
      else
        match e.beginTransaction .pipe req.totalSize nowMs with
        | (some why, e) =>
            let code :=
              if why = .invalidSize then odErrPipeStartSizeMismatch else odErrPipeStartBadHeader
            (fault (encodeNackErr cmdPipeWriteStart code), { e with lastError := why })
        | (none, e) =>
            let window := if req.reqWindow < pipeMaxWindow then req.reqWindow else pipeMaxWindow
            let ackEvery :=
              if req.reqAckEvery < pipeMaxAckEvery then req.reqAckEvery else pipeMaxAckEvery
            let frame :=
              if req.clientMaxFrame < pipeMaxFrame then req.clientMaxFrame else pipeMaxFrame
            ({ response := encodePipeStartResponse window ackEvery frame 0x00
               transferStarted := true },
              { e with
                txn.negotiatedWindow := window
                txn.negotiatedAckEvery := ackEvery
                txn.negotiatedFrame := frame })

/-- The SACK for the chunks accepted so far. -/
def inorderSack (e : TransferEngine β) : Response :=
  encodePipeSack e.txn.highestSeen (buildInorderAckMask e.txn.acceptedPackets)

/-- The bookkeeping of `on_pipe_data` after a successful write. -/
def acceptPipe (e : TransferEngine β) (seq : UInt8) (dataLen : ℕ) (nowMs : UInt32) :
    TransferEngine β :=
  { e with
    txn.acceptedBytes := e.txn.acceptedBytes + UInt32.ofNat dataLen
    txn.highestSeen := seq
    txn.nextPipeSequence := seq + 1
    txn.acceptedPackets := e.txn.acceptedPackets + 1
    txn.acceptedSinceAck := e.txn.acceptedSinceAck + 1
    txn.transferDeadlineMs := nowMs + e.transferTimeoutMs
    stats.pipePackets := e.stats.pipePackets + 1 }

/-- Stage the tail-flush SACK, to be sent before the response. -/
def stageTailSack (e : TransferEngine β) : TransferEngine β :=
  { e with
    txn.acceptedSinceAck := 0
    pendingTailSack := e.inorderSack
    hasTailSack := true }

/-- The end of `on_pipe_data`: the unsolicited END of a full uncompressed frame,
a SACK when the cadence is due, or silence. -/
def concludeChunk (e : TransferEngine β) (nowMs : UInt32) : EngineResult × TransferEngine β :=
  if e.txn.expectedFrameBytes ≤ e.txn.acceptedBytes ∧ !e.txn.frame.compressed ∧
      !e.txn.frame.partialFrame then
    e.stageTailSack.finishAndRefresh cmdPipeWriteEnd nowMs
  else if e.txn.negotiatedAckEvery ≤ e.txn.acceptedSinceAck then
    let e := { e with txn.acceptedSinceAck := 0 }
    (reply e.inorderSack, e)
  else ({}, e)

/-- `on_pipe_data`.  The reset inside `abort` undoes the latch that the three
aborting faults set just before it, and the NACK is built from what it leaves. -/
def onPipeData (e : TransferEngine β) (p : Payload) (nowMs : UInt32) :
    EngineResult × TransferEngine β :=
  if e.txn.pipeFatal then ({}, e)
  else if e.txn.state ≠ .receiving ∨ e.txn.mode ≠ .pipe then
    (reply (encodePipeNack odPipeNackProtocol e.txn.highestSeen
        (buildInorderAckMask e.txn.acceptedPackets)),
      { e with lastError := .invalidState, txn.pipeFatal := true })
  else
    match p.bytes with
    | [] =>
        (fault (encodePipeNack odPipeNackProtocol 0 0),
          { e with txn.pipeFatal := true }.abort .malformedPacket)
    | seq :: data =>
        -- a gap or a duplicate: the SACK tells the client where to go on
        if seq ≠ e.txn.nextPipeSequence then
          (reply e.inorderSack,
            { e with stats.retransmitRequests := e.stats.retransmitRequests + 1 })
        else if (e.txn.expectedFrameBytes - e.txn.acceptedBytes).toNat < data.length then
          let e := { e with txn.pipeFatal := true }.abort .invalidSize
          (fault (encodePipeNack odPipeNackWriteSize e.txn.highestSeen 0), e)
        else
          let answer := writeContiguous e.backend e.txn.acceptedBytes data
          let e := { e with backend := answer.2 }
          if answer.1 ≠ .ok then
            let e := { e with
              stats.backendFailures := e.stats.backendFailures + 1
              txn.pipeFatal := true }.abort .backendWriteFailed
            (fault (encodePipeNack odPipeNackWriteSize e.txn.highestSeen 0), e)
          else
            (e.acceptPipe seq data.length nowMs).concludeChunk nowMs

/-- `on_pipe_end`. -/
def onPipeEnd (e : TransferEngine β) (_p : Payload) (nowMs : UInt32) :
    EngineResult × TransferEngine β :=
  if e.txn.state ≠ .receiving ∨ e.txn.mode ≠ .pipe then
    (reply (encodeNack cmdPipeWriteEnd), { e with lastError := .invalidState })
  else
    let e := if e.txn.acceptedSinceAck ≠ 0 then e.stageTailSack else e
    e.finishAndRefresh cmdPipeWriteEnd nowMs

/-- `take_tail_sack`. -/
def takeTailSack (e : TransferEngine β) : Option Response × TransferEngine β :=
  if e.hasTailSack then (some e.pendingTailSack, { e with hasTailSack := false })
  else (none, e)

/-! ### The loop -/

/-- The deadline switch of `tick`. -/
def checkDeadlines (e : TransferEngine β) (nowMs : UInt32) : EngineResult × TransferEngine β :=
  match e.txn.state with
  | .receiving | .validating | .writing =>
      if deadlinePassed nowMs e.txn.transferDeadlineMs then
        ({ terminalError := true }, e.abort .transferTimeout)
      else ({}, e)
  | .refreshing =>
      -- the driver cannot be cancelled: the panel stays ours
      if deadlinePassed nowMs e.txn.refreshDeadlineMs then
        ({ refreshTimeout := true },
          { e with stats.refreshTimeouts := e.stats.refreshTimeouts + 1 }.abort .refreshTimeout)
      else ({}, e)
  | .idle | .error => ({}, e)

/-- `tick`: poll a panel that is ours, then check the deadlines. -/
def tick (e : TransferEngine β) (nowMs : UInt32) : EngineResult × TransferEngine β :=
  if e.hwOwned then
    let poll := pollRefresh e.backend
    let e := { e with backend := poll.2 }
    if poll.1 = .complete ∨ poll.1 = .failed then
      let e := e.releaseHardware
      -- a refresh that outlived its transfer only frees the panel
      if e.txn.state = .refreshing then
        let e := { e with txn := {} }
        if poll.1 = .complete then
          ({ refreshComplete := true },
            { e with stats.transfersOk := e.stats.transfersOk + 1 })
        else
          ({ terminalError := true },
            { e with
              stats.backendFailures := e.stats.backendFailures + 1
              lastError := .backendFinishFailed })
      else ({}, e)
    else e.checkDeadlines nowMs
  else e.checkDeadlines nowMs

end TransferEngine

/-! ### The engine as a machine -/

/-- Everything that can be done to an engine. -/
inductive EngineOp (ω : Type)
  | directStart (p : Payload) (nowMs : UInt32)
  | directData (p : Payload) (nowMs : UInt32)
  | directEnd (p : Payload) (nowMs : UInt32)
  | pipeStart (p : Payload) (nowMs : UInt32)
  | pipeData (p : Payload) (nowMs : UInt32)
  | pipeEnd (p : Payload) (nowMs : UInt32)
  | tick (nowMs : UInt32)
  | abort (error : ErrorCode)
  | disconnect (connectionGeneration : UInt32)
  | setConnectionGeneration (connectionGeneration : UInt32)
  | takeTailSack
  /-- something happens to the panel between two calls -/
  | world (event : ω)

namespace TransferEngine

variable {β ω : Type} [OpenDisplayBackend β] [PanelWorld β ω]

/-- One operation, with the result it returns (the default one if it is void). -/
def perform (e : TransferEngine β) : EngineOp ω → EngineResult × TransferEngine β
  | .directStart p now => e.onDirectStart p now
  | .directData p now => e.onDirectData p now
  | .directEnd p now => e.onDirectEnd p now
  | .pipeStart p now => e.onPipeStart p now
  | .pipeData p now => e.onPipeData p now
  | .pipeEnd p now => e.onPipeEnd p now
  | .tick now => e.tick now
  | .abort error => ({}, e.abort error)
  | .disconnect gen => ({}, e.onDisconnect gen)
  | .setConnectionGeneration gen => ({}, { e with connectionGeneration := gen })
  | .takeTailSack => ({}, e.takeTailSack.2)
  | .world event => ({}, { e with backend := PanelWorld.happen event e.backend })

/-- The engine after one operation. -/
def step (e : TransferEngine β) (op : EngineOp ω) : TransferEngine β := (e.perform op).2

end TransferEngine

end OpenDisplay
