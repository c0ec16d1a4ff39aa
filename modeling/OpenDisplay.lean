import OpenDisplay.Lib.Machine
import OpenDisplay.Lib.Countdown
import OpenDisplay.Lib.RingBuffer
import OpenDisplay.Lib.Blocks
import OpenDisplay.Lib.Buffer
import OpenDisplay.Lib.Words
import OpenDisplay.Lib.Codec
import OpenDisplay.Lib.SlidingWindow
import OpenDisplay.Lib.Sections
import OpenDisplay.Lib.Raster
import OpenDisplay.Lib.BitPoly
import OpenDisplay.Lib.DivisionRegister
import OpenDisplay.Protocol.Types
import OpenDisplay.Protocol.Frame
import OpenDisplay.Protocol.Replies
import OpenDisplay.Protocol.Records
import OpenDisplay.Protocol.ConfigStructs
import OpenDisplay.Protocol.ConfigBlob
import OpenDisplay.Protocol.ConfigChunks
import OpenDisplay.Protocol.Crc
import OpenDisplay.Transport.Queues
import OpenDisplay.Transport.Concurrent
import OpenDisplay.Transport.HandOver
import OpenDisplay.Transport.Reserve
import OpenDisplay.Backend.Interface
import OpenDisplay.Backend.Scripted
import OpenDisplay.Backend.MonoPanel
import OpenDisplay.Backend.EpaperSPI
import OpenDisplay.Backend.IT8951
import OpenDisplay.Backend.Rendering
import OpenDisplay.Backend.SettleTime
import OpenDisplay.Backend.Screen
import OpenDisplay.Engine.Basic
import OpenDisplay.Engine.Outcome
import OpenDisplay.Engine.Ledger
import OpenDisplay.Engine.Movement
import OpenDisplay.Engine.CallTrace
import OpenDisplay.Engine.RefreshHonest
import OpenDisplay.Engine.PipeAcks
import OpenDisplay.Engine.Delivery
import OpenDisplay.Engine.LockStep
import OpenDisplay.Engine.GoBackN
import OpenDisplay.Engine.AckCoverage
import OpenDisplay.Engine.Balance
import OpenDisplay.Engine.Quarantine
import OpenDisplay.Engine.Progress
import OpenDisplay.Engine.Latch
import OpenDisplay.Engine.Ownership
import OpenDisplay.Engine.StuckPanel
import OpenDisplay.Engine.Deadlines
import OpenDisplay.Engine.WindowRule
import OpenDisplay.Engine.CompleteEnd
import OpenDisplay.Engine.PipeHeader
import OpenDisplay.Engine.FrameSize
import OpenDisplay.Engine.Statistics
import OpenDisplay.Engine.WholeFrames
import OpenDisplay.Engine.Recovery
import OpenDisplay.Component.Basic
import OpenDisplay.Component.Outcome
import OpenDisplay.Component.ConfigRead
import OpenDisplay.Component.Activity
import OpenDisplay.Component.RebootFlag
import OpenDisplay.Component.Respond
import OpenDisplay.Component.Bystander
import OpenDisplay.Component.CleanStart
import OpenDisplay.Component.StaleBytes
import OpenDisplay.Component.Session
import OpenDisplay.Component.Handshake
import OpenDisplay.Component.LoopOrder
import OpenDisplay.Component.LoopOnce
import OpenDisplay.Component.Advertisement
import OpenDisplay.Component.DeviceName
import OpenDisplay.Component.FlowControl
import OpenDisplay.Component.Conversation
import OpenDisplay.Component.Rounds
import OpenDisplay.Component.Stages
import OpenDisplay.Component.Images
import OpenDisplay.Component.Upkeep
import OpenDisplay.Component.NextClient
