import Mathlib.Data.List.Basic

/-!
# The protocol vocabulary

The enumerations and records of `protocol_types.h`, with the defaults of the
source, and the wire constants that the component takes from
`opendisplay_protocol.h` and `opendisplay_structs.h`.
-/

namespace OpenDisplay

/-! ### The transaction state machine -/

/-- The state of a transaction.  Any state but `idle` drops back to `idle` on an
error, a disconnect or a timeout. -/
inductive State
  | idle
  | receiving
  | validating
  | writing
  | refreshing
  | error
deriving DecidableEq

/-- The two transfer paths: `0x0070`–`0x0072` and `0x0080`–`0x0082`. -/
inductive TransferMode
  | none
  | direct
  | pipe
deriving DecidableEq

/-- Local diagnostic categories, never sent on the wire as such. -/
inductive ErrorCode
  | none
  | busy
  | unsupportedCommand
  | malformedPacket
  | invalidState
  | unsupportedFormat
  | invalidSize
  | sequenceGap
  | windowViolation
  | queueFull
  | backendBeginFailed
  | backendWriteFailed
  | backendFinishFailed
  | transferTimeout
  | refreshTimeout
  | disconnected
deriving DecidableEq

/-- `state_to_string`. -/
def stateToString : State → String
  | .idle => "idle"
  | .receiving => "receiving"
  | .validating => "validating"
  | .writing => "writing"
  | .refreshing => "refreshing"
  | .error => "error"

/-- `error_to_string`. -/
def errorToString : ErrorCode → String
  | .none => "none"
  | .busy => "busy"
  | .unsupportedCommand => "unsupported_command"
  | .malformedPacket => "malformed_packet"
  | .invalidState => "invalid_state"
  | .unsupportedFormat => "unsupported_format"
  | .invalidSize => "invalid_size"
  | .sequenceGap => "sequence_gap"
  | .windowViolation => "window_violation"
  | .queueFull => "queue_full"
  | .backendBeginFailed => "backend_begin_failed"
  | .backendWriteFailed => "backend_write_failed"
  | .backendFinishFailed => "backend_finish_failed"
  | .transferTimeout => "transfer_timeout"
  | .refreshTimeout => "refresh_timeout"
  | .disconnected => "disconnected"

/-! ### Wire constants -/

def cmdConfigRead : UInt16 := 0x0040
def cmdFirmwareVersion : UInt16 := 0x0043
def cmdReadMsd : UInt16 := 0x0044
def cmdDirectWriteStart : UInt16 := 0x0070
def cmdDirectWriteData : UInt16 := 0x0071
def cmdDirectWriteEnd : UInt16 := 0x0072
def cmdPipeWriteStart : UInt16 := 0x0080
def cmdPipeWriteData : UInt16 := 0x0081
def cmdPipeWriteEnd : UInt16 := 0x0082

def respAck : UInt8 := 0x00
def respNack : UInt8 := 0xFF
def respDirectWriteRefreshSuccess : UInt16 := 0x0073
def respDirectWriteRefreshTimeout : UInt16 := 0x0074

def odErrPipeStartBadHeader : UInt8 := 0x01
def odErrPipeStartUnknownFlag : UInt8 := 0x02
def odErrPipeStartSizeMismatch : UInt8 := 0x03
def odErrPipeStartPartialUnsupported : UInt8 := 0x06

def odPipeNackWriteSize : UInt8 := 0x03
def odPipeNackProtocol : UInt8 := 0x04

def pipeVersion : UInt8 := 0x01
def pipeFlagCompressed : UInt8 := 0x01
def pipeFlagPartial : UInt8 := 0x02
def pipeAckMaskBits : UInt32 := 32

/-- The most bytes of a single notification frame. -/
def maxResponseDataSize : ℕ := 100

/-! ### PIPE negotiation

Our maxima, not fixed values: the values in force are the minima of these and of
the client's request. -/

def pipeMaxWindow : UInt8 := 16
def pipeMaxAckEvery : UInt8 := 4
def pipeMaxFrame : UInt16 := 244
def pipeWindowLimitLo : UInt8 := 1
def pipeWindowLimitHi : UInt8 := 32

/-! ### Capabilities, frames and backend results -/

/-- Three-valued on the wire. -/
inductive PartialSupport
  | none
  | supported
  | unknown
deriving DecidableEq

/-- The refresh mode of the wire, parsed and never acted on: v1 is always full. -/
inductive RefreshMode
  | full
  | fast
  | partialRefresh
deriving DecidableEq

structure RefreshRequest where
  mode : RefreshMode := .full
deriving DecidableEq

/-- What a panel can do.  One record drives the transfer engine's validation and
the `0x0040` config response. -/
structure DisplayCapabilities where
  width : UInt16 := 0
  height : UInt16 := 0
  rotation : UInt8 := 0
  colorScheme : UInt8 := 0
  panelIcType : UInt16 := 0
  /-- Not a wire field: both peers derive it from geometry and colour scheme. -/
  fullFrameBytes : UInt32 := 0
  rowStrideBytes : UInt16 := 0
  byteAlignment : UInt8 := 1
  supportsFullRefresh : Bool := true
  supportsFastRefresh : Bool := false
  supportsPartial : PartialSupport := .none
  partialXAlignment : UInt16 := 1
  partialYAlignment : UInt16 := 1
  supportsDirectWrite : Bool := false
  supportsPipeWrite : Bool := false
  supportsCompression : Bool := false
  maxContiguousWrite : UInt32 := 0
  stagingBytesRequired : UInt32 := 0
deriving DecidableEq

/-- `OD_COLOR_SCHEME_MONO`. -/
def odColorSchemeMono : UInt8 := 0

/-- What a transfer tells the backend about the frame it opens. -/
structure FrameDescriptor where
  totalBytes : UInt32 := 0
  colorScheme : UInt8 := 0
  compressed : Bool := false
  partialFrame : Bool := false
  x : UInt16 := 0
  y : UInt16 := 0
  w : UInt16 := 0
  h : UInt16 := 0
deriving DecidableEq

inductive BackendResult
  | ok
  | unsupported
  | invalidArgument
  | outOfMemory
  | deviceError
deriving DecidableEq

inductive PollResult
  | pending
  | complete
  | failed
deriving DecidableEq

end OpenDisplay
