import OpenDisplay.Engine.Basic
import OpenDisplay.Protocol.Records
import OpenDisplay.Protocol.ConfigBlob
import OpenDisplay.Transport.Queues

/-!
# The component

`opendisplay.cpp`.  The BLE callbacks run beside `loop()`, so `loop()` is not one step
here: it is cut where a callback can come in, before every packet that it takes, before
the tick, before every notification, and a `LoopPhase` says where it is.  Each callback
and each part of the loop is one step of the component.

A step returns what it has done to the outside as a list of effects: the frames handed
to `send_`, the frames that the TX queue took, the notifications, the automation
triggers and the sensor values.
-/

namespace OpenDisplay

/-! ### Data -/

/-- What code generation and `setup()` fix for good. -/
structure ComponentSettings where
  transferTimeoutMs : UInt32 := 30000
  refreshTimeoutMs : UInt32 := 180000
  verMajor : UInt8 := 0
  verMinor : UInt8 := 1
  verPatch : UInt8 := 0
  /-- `ESPHOME_VERSION`. -/
  esphomeVersion : List UInt8 := []
  /-- The blob, as far as it was filled. -/
  configBlob : List UInt8 := []
  configBlob_le : configBlob.length ≤ configBlobMax := by decide
  configValid : Bool := false

/-- The settings before anything is configured. -/
def defaultSettings : ComponentSettings := {}

/-- The part of `setup` that builds the blob: an error leaves the settings without one. -/
def ComponentSettings.withConfig (settings : ComponentSettings) (caps : DisplayCapabilities)
    (icType : UInt16) : ComponentSettings :=
  let built := buildConfigBlob caps icType (fun _ => 0) configBlobMax 0
  if h : built.error = .none then
    { settings with
      configBlob := built.out.upTo built.outLen
      configBlob_le := by
        rw [Buffer.length_upTo, ((buildConfigBlob_builds _ _ _ _ _).done h).1]
        decide
      configValid := true }
  else settings

/-- Where `loop()` is. -/
inductive LoopPhase
  /-- before the next iteration -/
  | start
  /-- draining the received packets, `handled` of them so far -/
  | receive (nowMs : UInt32) (handled : ℕ)
  | tick (nowMs : UInt32)
  | updateMsd (nowMs : UInt32)
  /-- before `drain_tx_` asks whether there is a connection -/
  | drain
  /-- draining the responses, `sent` of them so far -/
  | notify (sent : ℕ)
  | publish
deriving DecidableEq

/-- `OpenDisplayComponent`.  The backend is the engine's. -/
structure OpenDisplayComponent (β : Type) where
  settings : ComponentSettings
  engine : TransferEngine β
  rx : RxQueue := .init
  tx : TxQueue := .init
  connectionGeneration : UInt32 := 0
  connected : Bool := false
  msd : Vector UInt8 msdBytes := Vector.replicate msdBytes 0
  msdLoopCounter : UInt8 := 0
  msdNextUpdateMs : UInt32 := 0
  /-- Set at boot, cleared once the host has read it. -/
  rebootFlag : Bool := true
  publishedState : State := .idle
  publishedBusy : Bool := false
  errorPending : Bool := false
  phase : LoopPhase := .start

/-- What the component does to the outside. -/
inductive Effect
  /-- `send_` was called -/
  | handed (r : Response) (terminal : Bool)
  /-- the TX queue took a frame -/
  | queued (r : Response)
  /-- the characteristic was notified -/
  | notified (r : Response)
  | transferStarted
  | refreshComplete
  | error (text : String)
  /-- the busy sensor was published -/
  | busy (value : Bool)
  /-- the activity sensor was published -/
  | activity (text : String)
deriving DecidableEq

namespace OpenDisplayComponent

variable {β ω : Type} [OpenDisplayBackend β] [PanelWorld β ω]

/-- What a part of the component has done, and the component after it. -/
abbrev Done (β : Type) := List Effect × OpenDisplayComponent β

/-- One part after another. -/
def andThen (done : Done β) (f : OpenDisplayComponent β → Done β) : Done β :=
  (done.1 ++ (f done.2).1, (f done.2).2)

/-! ### Sending -/

/-- `send_`. -/
def send (c : OpenDisplayComponent β) (r : Response) (terminal : Bool) : Done β :=
  let pushed := c.tx.push r terminal
  (.handed r terminal :: if pushed.1 && !r.isEmpty then [.queued r] else [],
    { c with tx := pushed.2 })

/-- The loop of `send_config_`, from chunk `i` on, in at most `fuel` rounds.  Every chunk
carries a byte of the blob, so its length is fuel enough. -/
def sendChunks (blob : List UInt8) (tx : TxQueue) : ℕ → UInt16 → List Effect × TxQueue
  | 0, _ => ([], tx)
  | fuel + 1, i =>
      let r := encodeConfigChunk blob i
      if r.isEmpty then ([], tx)
      else
        let pushed := tx.push r false
        if pushed.1 then
          let rest := sendChunks blob pushed.2 fuel (i + 1)
          (.queued r :: rest.1, rest.2)
        else ([], pushed.2)

/-- `send_config_`. -/
def sendConfig (c : OpenDisplayComponent β) : Done β :=
  if !c.settings.configValid then c.send (encodeNackErr cmdConfigRead 0x00) false
  else
    let blob := c.settings.configBlob
    let sent := sendChunks blob c.tx (blob.length + 1) 0
    (sent.1, { c with tx := sent.2 })

/-! ### Results of the engine -/

/-- An error: remembered for the activity sensor and passed to the automations. -/
def raiseError (c : OpenDisplayComponent β) : Done β :=
  ([.error (errorToString c.engine.lastError)], { c with errorPending := true })

/-- `apply_result_`.  A staged tail-flush SACK goes before the response. -/
def applyResult (c : OpenDisplayComponent β) (res : EngineResult) : Done β :=
  let staged := c.engine.takeTailSack
  let c := { c with engine := staged.2 }
  let terminal := res.refreshComplete || res.refreshTimeout || res.terminalError
  let done : Done β :=
    match staged.1 with
    | some tail => c.send tail true
    | none => ([], c)
  let done := andThen done fun c =>
    if !res.response.isEmpty then c.send res.response terminal else ([], c)
  let done := andThen done fun c => (if res.transferStarted then [.transferStarted] else [], c)
  let done := andThen done fun c =>
    if res.refreshComplete then
      andThen (c.send (encodeAck respDirectWriteRefreshSuccess) true)
        fun c => ([.refreshComplete], c)
    else ([], c)
  let done := andThen done fun c =>
    if res.refreshTimeout then
      andThen (c.send (encodeAck respDirectWriteRefreshTimeout) true) raiseError
    else ([], c)
  andThen done fun c => if res.terminalError then c.raiseError else ([], c)

/-- The engine has answered: keep it and apply its result. -/
def answer (c : OpenDisplayComponent β) (answered : EngineResult × TransferEngine β) : Done β :=
  { c with engine := answered.2 }.applyResult answered.1

/-! ### Packets -/

/-- `handle_packet_`. -/
def handlePacket (c : OpenDisplayComponent β) (pkt : RxPacket) (nowMs : UInt32) : Done β :=
  match pkt.frame with
  | none => ([], c)
  | some f =>
      if f.opcode = cmdConfigRead then c.sendConfig
      else if f.opcode = cmdFirmwareVersion then
        c.send (encodeVersion c.settings.verMajor c.settings.verMinor c.settings.verPatch
          c.settings.esphomeVersion) false
      else if f.opcode = cmdReadMsd then
        andThen (c.send (encodeMsdResponse c.msd) false)
          fun c => ([], { c with rebootFlag := false })
      else if f.opcode = cmdDirectWriteStart then
        c.answer (c.engine.onDirectStart f.payload nowMs)
      else if f.opcode = cmdDirectWriteData then
        c.answer (c.engine.onDirectData f.payload nowMs)
      else if f.opcode = cmdDirectWriteEnd then
        c.answer (c.engine.onDirectEnd f.payload nowMs)
      else if f.opcode = cmdPipeWriteStart then
        c.answer (c.engine.onPipeStart f.payload nowMs)
      else if f.opcode = cmdPipeWriteData then
        c.answer (c.engine.onPipeData f.payload nowMs)
      else if f.opcode = cmdPipeWriteEnd then
        c.answer (c.engine.onPipeEnd f.payload nowMs)
      -- an unsupported command leaves a transfer in flight alone
      else c.send (encodeNack f.opcode) false

/-! ### The callbacks -/

/-- `on_ble_write`. -/
def onBleWrite (c : OpenDisplayComponent β) (data : List UInt8) (nowMs : UInt32) :
    OpenDisplayComponent β :=
  { c with rx := (c.rx.push data c.connectionGeneration nowMs).2 }

/-- `on_ble_connect`. -/
def onBleConnect (c : OpenDisplayComponent β) : OpenDisplayComponent β :=
  { c with
    connected := true
    connectionGeneration := c.connectionGeneration + 1
    engine := { c.engine with connectionGeneration := c.connectionGeneration + 1 } }

/-- `on_ble_disconnect`.  The transaction is left to `loop()`. -/
def onBleDisconnect (c : OpenDisplayComponent β) : OpenDisplayComponent β :=
  { c with connected := false }

/-! ### The loop -/

def msdUpdateIntervalMs : UInt32 := 1000

/-- `update_msd_`, at most once in an interval. -/
def updateMsd (c : OpenDisplayComponent β) (nowMs : UInt32) (chipTemperatureEncoded : Int) :
    OpenDisplayComponent β :=
  if nowMs ≠ 0 ∧ (nowMs - c.msdNextUpdateMs).toInt32 < 0 then c
  else
    { c with
      msdNextUpdateMs := nowMs + msdUpdateIntervalMs
      msd := buildMsd {
        chipTemperatureEncoded := chipTemperatureEncoded
        battery10mv := 0
        rebootFlag := c.rebootFlag
        connectionRequested := false
        loopCounter := c.msdLoopCounter }
      msdLoopCounter := (c.msdLoopCounter + 1) &&& 0x0F }

/-- `publish_state_`. -/
def publishState (c : OpenDisplayComponent β) : Done β :=
  let c := { c with publishedState := c.engine.txn.state, publishedBusy := c.engine.isBusy }
  if c.publishedState = .idle ∧ c.errorPending then
    ([.busy c.publishedBusy, .activity "error"], { c with errorPending := false })
  else ([.busy c.publishedBusy, .activity (stateToString c.publishedState)], c)

/-- The most packets that one iteration takes. -/
def rxDrainLimit : ℕ := 8

/-- The most notifications that one iteration sends. -/
def txDrainLimit : ℕ := 4

/-- One part of `loop()`; `nowMs` is what `millis()` shows and `chipTemperatureEncoded`
what the sensor gives, where the part asks for them. -/
def loop (c : OpenDisplayComponent β) (nowMs : UInt32) (chipTemperatureEncoded : Int) : Done β :=
  match c.phase with
  | .start =>
      let c :=
        if !c.connected then { c with engine := c.engine.onDisconnect c.connectionGeneration }
        else c
      ([], { c with phase := .receive nowMs 0 })
  | .receive startMs handled =>
      if handled < rxDrainLimit then
        match c.rx.pop with
        | (none, rx) => ([], { c with rx := rx, phase := .tick startMs })
        | (some pkt, rx) =>
            let c := { c with rx := rx, phase := .receive startMs (handled + 1) }
            -- a stale packet from a previous connection is dropped
            if pkt.connectionGeneration ≠ c.connectionGeneration then ([], c)
            else c.handlePacket pkt nowMs
      else ([], { c with phase := .tick startMs })
  | .tick startMs => { c with phase := .updateMsd startMs }.answer (c.engine.tick startMs)
  | .updateMsd startMs =>
      ([], { c.updateMsd startMs chipTemperatureEncoded with phase := .drain })
  | .drain => ([], { c with phase := if c.connected then .notify 0 else .publish })
  | .notify sent =>
      if sent < txDrainLimit then
        match c.tx.pop with
        | (none, tx) => ([], { c with tx := tx, phase := .publish })
        | (some r, tx) => ([.notified r], { c with tx := tx, phase := .notify (sent + 1) })
      else ([], { c with phase := .publish })
  | .publish =>
      let c := { c with phase := .start }
      if c.engine.txn.state ≠ c.publishedState ∨ c.engine.isBusy ≠ c.publishedBusy then
        c.publishState
      else ([], c)

/-- `abort`, the `opendisplay.abort` action. -/
def abort (c : OpenDisplayComponent β) : OpenDisplayComponent β :=
  { c with engine := c.engine.abort .invalidState }

/-- `setup`, once the backend has been initialised. -/
def setup (b : β) (settings : ComponentSettings) (chipTemperatureEncoded : Int) : Done β :=
  let c : OpenDisplayComponent β := {
    settings := settings
    engine := .init b settings.transferTimeoutMs settings.refreshTimeoutMs }
  (c.updateMsd 0 chipTemperatureEncoded).publishState

end OpenDisplayComponent

/-! ### The component as a machine -/

/-- Everything that can happen to a component. -/
inductive ComponentOp (ω : Type)
  | bleConnect
  | bleDisconnect
  | bleWrite (data : List UInt8) (nowMs : UInt32)
  /-- the next part of `loop()` -/
  | loop (nowMs : UInt32) (chipTemperatureEncoded : Int)
  | abort
  /-- something happens to the panel -/
  | world (event : ω)

/-- `n` parts of the loop in the same millisecond, at a die temperature of zero. -/
def loopParts {ω : Type} (n : ℕ) (nowMs : UInt32) : List (ComponentOp ω) :=
  List.replicate n (.loop nowMs 80)

/-- A client sends a frame of three bytes with direct writes. -/
def directTransfer {ω : Type} : List (ComponentOp ω) :=
  [.bleConnect, .bleWrite [0x00, 0x70] 0, .bleWrite [0x00, 0x71, 0xAA, 0xBB, 0xCC] 0,
    .bleWrite [0x00, 0x72] 0]

namespace OpenDisplayComponent

variable {β ω : Type} [OpenDisplayBackend β] [PanelWorld β ω]

/-- One step: what it does, and the component after it. -/
def perform (c : OpenDisplayComponent β) : ComponentOp ω → Done β
  | .bleConnect => ([], c.onBleConnect)
  | .bleDisconnect => ([], c.onBleDisconnect)
  | .bleWrite data now => ([], c.onBleWrite data now)
  | .loop now temperature => c.loop now temperature
  | .abort => ([], c.abort)
  | .world event =>
      ([], { c with engine.backend := PanelWorld.happen event c.engine.backend })

/-- The component after one step. -/
def step (c : OpenDisplayComponent β) (op : ComponentOp ω) : OpenDisplayComponent β :=
  (c.perform op).2

end OpenDisplayComponent

end OpenDisplay
