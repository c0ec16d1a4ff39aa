import OpenDisplay.Protocol.ConfigStructs
import OpenDisplay.Lib.Buffer

/-!
# The config blob

`build_config_blob` of `protocol.cpp` writes the blob that the host reads with `0x0040`: an outer
header, four packets and a CRC.  The CRC is taken while the length field is still zero, and only
then is the length patched in.

A host takes the blob apart again by the documented outer format alone, `parseOuter`: the size of
a packet follows from its id.  The main result is that whatever `build_config_blob` calls a
success decodes to the four packets and to a display packet that says what the capabilities say,
and that it never writes outside of its buffer.
-/

namespace OpenDisplay

/-! ### The CRC -/

/-- One bit of the loop of `crc16_ccitt_false`. -/
def crc16Bit (crc : UInt16) : UInt16 :=
  if crc &&& 0x8000 ≠ 0 then (crc <<< 1) ^^^ 0x1021 else crc <<< 1

/-- One byte of it. -/
def crc16Byte (crc : UInt16) (b : UInt8) : UInt16 := crc16Bit^[8] (crc ^^^ (b.toUInt16 <<< 8))

/-- `crc16_ccitt_false`. -/
def crc16CcittFalse (data : List UInt8) : UInt16 := data.foldl crc16Byte 0xFFFF

/-! ### Packet types -/

/-- `ConfigPacketType`. -/
inductive ConfigPacketType
  | system
  | manufacturer
  | power
  | display
  | led
  | sensor
  | dataBus
  | binaryInput
  | wifi
  | security
  | touch
  | buzzer
  | nfc
  | flash
  | dataExtended
deriving DecidableEq

namespace ConfigPacketType

def all : List ConfigPacketType :=
  [.system, .manufacturer, .power, .display, .led, .sensor, .dataBus, .binaryInput, .wifi,
    .security, .touch, .buzzer, .nfc, .flash, .dataExtended]

/-- The id on the wire. -/
def id : ConfigPacketType → UInt8
  | .system => 0x01
  | .manufacturer => 0x02
  | .power => 0x04
  | .display => 0x20
  | .led => 0x21
  | .sensor => 0x23
  | .dataBus => 0x24
  | .binaryInput => 0x25
  | .wifi => 0x26
  | .security => 0x27
  | .touch => 0x28
  | .buzzer => 0x29
  | .nfc => 0x2A
  | .flash => 0x2B
  | .dataExtended => 0x2C

/-- The size of the struct that the id selects. -/
def payloadSize : ConfigPacketType → ℕ
  | .system => 22
  | .manufacturer => 22
  | .power => 30
  | .display => 46
  | .led => 22
  | .sensor => 30
  | .dataBus => 30
  | .binaryInput => 30
  | .wifi => 160
  | .security => 64
  | .touch => 32
  | .buzzer => 32
  | .nfc => 32
  | .flash => 32
  | .dataExtended => 288

/-- The type with a given id. -/
def ofId (id : UInt8) : Option ConfigPacketType := all.find? (·.id = id)

@[simp] lemma ofId_id (t : ConfigPacketType) : ofId t.id = some t := by cases t <;> rfl

end ConfigPacketType

/-! ### The outer format -/

/-- A packet of the outer format.  The length of the payload is that of its type. -/
structure ConfigPacket where
  number : UInt8
  type : ConfigPacketType
  payload : List UInt8
  length_eq : payload.length = type.payloadSize
deriving DecidableEq

/-- `[number][id][payload]`. -/
def ConfigPacket.toBytes (p : ConfigPacket) : List UInt8 := p.number :: p.type.id :: p.payload

@[simp] lemma ConfigPacket.length_toBytes (p : ConfigPacket) :
    p.toBytes.length = p.type.payloadSize + 2 := by simp [toBytes, p.length_eq]

lemma length_take_of_not_lt {bs : List UInt8} {n : ℕ} (h : ¬ bs.length < n) :
    (bs.take n).length = n := List.length_take_of_le (Nat.le_of_not_lt h)

lemma length_drop_lt (number id : UInt8) (rest : List UInt8) (n : ℕ) :
    (rest.drop n).length < (number :: id :: rest).length := by
  rw [List.length_drop, List.length_cons, List.length_cons]
  omega

/-- The packets of a config, one behind the other.  An unknown id or a packet that is cut off is
an error, and nothing may be left over. -/
def parsePackets : List UInt8 → Option (List ConfigPacket)
  | [] => some []
  | [_] => none
  | number :: id :: rest =>
      match ConfigPacketType.ofId id with
      | none => none
      | some type =>
          if h : rest.length < type.payloadSize then none
          else
            (parsePackets (rest.drop type.payloadSize)).map fun packets =>
              ⟨number, type, rest.take type.payloadSize, length_take_of_not_lt h⟩ :: packets
termination_by bs => bs.length
decreasing_by exact length_drop_lt number id rest _

/-- A whole config. -/
structure OuterPacket where
  length : UInt16
  version : UInt8
  packets : List ConfigPacket
  crc : UInt16
deriving DecidableEq

/-- A host's reader of the outer format: a header of three bytes, packets, and a CRC of two. -/
def parseOuter : List UInt8 → Option OuterPacket
  | l₀ :: l₁ :: version :: rest =>
      let n := rest.length - 2
      if rest.length < 2 then none
      else
        (parsePackets (rest.take n)).map fun packets =>
          { length := getU16Le l₀ l₁
            version := version
            packets := packets
            crc := getU16Le (rest.getD n 0) (rest.getD (n + 1) 0) }
  | _ => none

/-- The CRC that a config has to end with: over all that is in front of it, with the two bytes of
the length taken as zero. -/
def outerCrc (bs : List UInt8) : UInt16 :=
  crc16CcittFalse (0 :: 0 :: (bs.take (bs.length - 2)).drop 2)

/-- A packet is taken off as it was put on. -/
lemma parsePackets_append (p : ConfigPacket) (rest : List UInt8) :
    parsePackets (p.toBytes ++ rest) = (parsePackets rest).map (p :: ·) := by
  rw [ConfigPacket.toBytes, List.cons_append, List.cons_append, parsePackets]
  simp only [ConfigPacketType.ofId_id]
  rw [dif_neg (by simp [p.length_eq])]
  simp only [← p.length_eq, List.drop_left, List.take_left]

/-- Packets that were put one behind the other are found again. -/
lemma parsePackets_flatMap (packets : List ConfigPacket) :
    parsePackets (packets.flatMap ConfigPacket.toBytes) = some packets := by
  induction packets with
  | nil => rw [List.flatMap_nil, parsePackets]
  | cons p packets ih => rw [List.flatMap_cons, parsePackets_append, ih, Option.map_some]

/-- **Round trip of the outer format.** -/
theorem parseOuter_bytes (length : UInt16) (version : UInt8) (packets : List ConfigPacket)
    (crc : UInt16) :
    parseOuter (putU16Le length ++ ([version] ++ packets.flatMap ConfigPacket.toBytes ++
      putU16Le crc)) = some ⟨length, version, packets, crc⟩ := by
  have hn : (packets.flatMap ConfigPacket.toBytes ++ putU16Le crc).length - 2 =
      (packets.flatMap ConfigPacket.toBytes).length := by simp
  have hcrc : ∀ k, (packets.flatMap ConfigPacket.toBytes ++ putU16Le crc).getD
      ((packets.flatMap ConfigPacket.toBytes).length + k) 0 = (putU16Le crc).getD k 0 := fun k => by
    rw [List.getD_append_right _ _ _ _ (Nat.le_add_right _ _), Nat.add_sub_cancel_left]
  rw [putU16Le, List.cons_append, List.cons_append, List.nil_append, List.append_assoc,
    List.singleton_append, parseOuter]
  rw [if_neg (by simp), hn, List.take_left, parsePackets_flatMap, Option.map_some, getU16Le_bytes,
    hcrc 1, ← Nat.add_zero (List.length _), hcrc 0]
  exact congrArg (fun c => some (OuterPacket.mk length version packets c)) (getU16Le_bytes crc)

/-! ### Building the blob -/

def odConfigVersion : UInt8 := 1
def odManufacturerDiy : UInt16 := 0

def odTransmissionModeStreamingDecompression : UInt8 := (1 : UInt8) <<< (0 : UInt8)
def odTransmissionModeZip : UInt8 := (1 : UInt8) <<< (1 : UInt8)
def odTransmissionModeG5 : UInt8 := (1 : UInt8) <<< (2 : UInt8)
def odTransmissionModeDirectWrite : UInt8 := (1 : UInt8) <<< (3 : UInt8)
def odTransmissionModePipeWrite : UInt8 := (1 : UInt8) <<< (4 : UInt8)
def odTransmissionModeReserved5 : UInt8 := (1 : UInt8) <<< (5 : UInt8)
def odTransmissionModeReserved6 : UInt8 := (1 : UInt8) <<< (6 : UInt8)

inductive ConfigBuildError
  | none
  | zeroGeometry
  | unsupportedScheme
  | noTransmissionMode
  | frameBytesZero
deriving DecidableEq

/-- `OuterPacketHeader`. -/
structure OuterPacketHeader where
  length : UInt16 := 0
  version : UInt8 := 0

def OuterPacketHeader.toBytes (h : OuterPacketHeader) : List UInt8 :=
  putU16Le h.length ++ [h.version]

/-- `append_packet`: nothing is written unless the whole packet fits; otherwise the buffer and the
new position. -/
def appendPacket (out : Buffer UInt8) (cap pos : ℕ) (id : UInt8) (payload : List UInt8) :
    Option (Buffer UInt8 × ℕ) :=
  if pos + 2 + payload.length > cap then none
  else
    some (((out.write pos [0]).write (pos + 1) [id]).write (pos + 2) payload,
      pos + 2 + payload.length)

/-- The modes that the display packet advertises. -/
def transmissionModes (caps : DisplayCapabilities) : UInt8 :=
  let modes : UInt8 := 0
  let modes :=
    if caps.supportsDirectWrite then modes ||| odTransmissionModeDirectWrite else modes
  if caps.supportsPipeWrite then modes ||| odTransmissionModePipeWrite else modes

/-- The display packet; the pins are absent. -/
def displayConfig (caps : DisplayCapabilities) : DisplayConfig where
  pixelWidth := caps.width
  pixelHeight := caps.height
  colorScheme := caps.colorScheme
  panelIcType := caps.panelIcType
  -- the partial support is three-valued on the wire, and never advertised
  partialUpdateSupport := 0
  transmissionModes := transmissionModes caps
  resetPin := 0xFF
  busyPin := 0xFF
  csPin := 0xFF
  csPin2 := 0xFF

/-- What `build_config_blob` leaves: its result, the memory and `*out_len`. -/
structure ConfigBuild where
  error : ConfigBuildError
  out : Buffer UInt8
  outLen : ℕ

/-- `build_config_blob`. -/
def buildConfigBlob (caps : DisplayCapabilities) (icType : UInt16) (out : Buffer UInt8)
    (outCap outLen : ℕ) : ConfigBuild :=
  if caps.width = 0 ∨ caps.height = 0 then ⟨.zeroGeometry, out, outLen⟩
  else if caps.fullFrameBytes = 0 then ⟨.frameBytesZero, out, outLen⟩
  else if !caps.supportsDirectWrite && !caps.supportsPipeWrite then
    ⟨.noTransmissionMode, out, outLen⟩
  else if outCap < 3 then ⟨.zeroGeometry, out, outLen⟩
  else
    let outer : OuterPacketHeader := { length := 0, version := odConfigVersion }
    let out := out.write 0 outer.toBytes
    let sys : SystemConfig := { icType := icType }
    match appendPacket out outCap 3 ConfigPacketType.system.id sys.toBytes with
    | none => ⟨.zeroGeometry, out, outLen⟩
    | some (out, pos) =>
      let mfr : ManufacturerData := { manufacturerId := odManufacturerDiy }
      match appendPacket out outCap pos ConfigPacketType.manufacturer.id mfr.toBytes with
      | none => ⟨.zeroGeometry, out, outLen⟩
      | some (out, pos) =>
        let pwr : PowerOption := {}
        match appendPacket out outCap pos ConfigPacketType.power.id pwr.toBytes with
        | none => ⟨.zeroGeometry, out, outLen⟩
        | some (out, pos) =>
          let dsp := displayConfig caps
          match appendPacket out outCap pos ConfigPacketType.display.id dsp.toBytes with
          | none => ⟨.unsupportedScheme, out, outLen⟩
          | some (out, pos) =>
            if pos + 2 > outCap then ⟨.zeroGeometry, out, outLen⟩
            else
              -- the two bytes of the length still are zero
              let crc := crc16CcittFalse (out.upTo pos)
              let out := out.write pos (putU16Le crc)
              let pos := pos + 2
              ⟨.none, out.write 0 (putU16Le (UInt16.ofNat pos)), pos⟩

/-! ### What is built -/

def systemPacket (icType : UInt16) : ConfigPacket :=
  ⟨0, .system, SystemConfig.toBytes { icType := icType }, SystemConfig.length_toBytes _⟩

def manufacturerPacket : ConfigPacket :=
  ⟨0, .manufacturer, ManufacturerData.toBytes { manufacturerId := odManufacturerDiy },
    ManufacturerData.length_toBytes _⟩

def powerPacket : ConfigPacket := ⟨0, .power, PowerOption.toBytes {}, PowerOption.length_toBytes _⟩

def displayPacket (caps : DisplayCapabilities) : ConfigPacket :=
  ⟨0, .display, (displayConfig caps).toBytes, DisplayConfig.length_toBytes _⟩

/-- The four packets. -/
def configPackets (caps : DisplayCapabilities) (icType : UInt16) : List ConfigPacket :=
  [systemPacket icType, manufacturerPacket, powerPacket, displayPacket caps]

/-- The bytes of the four packets. -/
def packetBytes (caps : DisplayCapabilities) (icType : UInt16) : List UInt8 :=
  (configPackets caps icType).flatMap ConfigPacket.toBytes

@[simp] lemma length_packetBytes (caps : DisplayCapabilities) (icType : UInt16) :
    (packetBytes caps icType).length = 128 := by
  simp [packetBytes, configPackets, systemPacket, manufacturerPacket, powerPacket, displayPacket,
    ConfigPacketType.payloadSize]

/-- The blob. -/
def configBytes (caps : DisplayCapabilities) (icType : UInt16) : List UInt8 :=
  putU16Le 133 ++ ([odConfigVersion] ++ packetBytes caps icType ++
    putU16Le (crc16CcittFalse ([0, 0, odConfigVersion] ++ packetBytes caps icType)))

@[simp] lemma length_configBytes (caps : DisplayCapabilities) (icType : UInt16) :
    (configBytes caps icType).length = 133 := by simp [configBytes]

/-- What `build_config_blob` may leave of a memory `out` and a length `outLen`. -/
structure Builds (caps : DisplayCapabilities) (icType : UInt16) (out : Buffer UInt8)
    (outCap outLen : ℕ) (built : ConfigBuild) : Prop where
  frame : ∀ i, outCap ≤ i → built.out i = out i
  failed : built.error ≠ .none → built.outLen = outLen
  done : built.error = .none →
    built.outLen = 133 ∧ built.out.upTo built.outLen = configBytes caps icType

section Build

variable {caps : DisplayCapabilities} {icType : UInt16} {out m m' : Buffer UInt8}
  {outCap outLen pos : ℕ} {bs : List UInt8}

/-- Giving up keeps to the buffer that was written so far. -/
lemma builds_failed {error : ConfigBuildError} (herror : error ≠ .none) (h : Buffer.Holds out m bs)
    (hfits : bs.length ≤ outCap) : Builds caps icType out outCap outLen ⟨error, m, outLen⟩ where
  frame i hi := h.frame i (by omega)
  failed _ := rfl
  done hnone := absurd hnone herror

/-- A packet that is appended fits, and stands behind what is there. -/
lemma appendPacket_holds (h : Buffer.Holds out m bs) {p : ConfigPacket} (hzero : p.number = 0)
    (happend : appendPacket m outCap bs.length p.type.id p.payload = some (m', pos)) :
    Buffer.Holds out m' (bs ++ p.toBytes) ∧ pos = (bs ++ p.toBytes).length ∧
      (bs ++ p.toBytes).length ≤ outCap := by
  rw [appendPacket] at happend
  split_ifs at happend with hfits
  obtain ⟨rfl, rfl⟩ := Prod.mk.inj (Option.some.inj happend)
  have hlen : (bs ++ p.toBytes).length = bs.length + 2 + p.payload.length := by
    simp [p.length_eq, Nat.add_assoc, Nat.add_comm]
  refine ⟨?_, hlen.symm, by omega⟩
  have hwrites := h.append p.toBytes
  rw [ConfigPacket.toBytes, hzero] at hwrites ⊢
  -- the three writes are one
  have hone := Buffer.write_write m bs.length [0] [p.type.id]
  have hboth := Buffer.write_write m bs.length ([0] ++ [p.type.id]) p.payload
  rw [← hone] at hboth
  exact hboth ▸ hwrites

/-- The CRC goes to the end, and then the length over the two zeros in front. -/
lemma holds_seal {packets : List UInt8} (hlen : packets.length = 128)
    (h : Buffer.Holds out m ([0, 0, odConfigVersion] ++ packets)) (crc : UInt16) :
    Buffer.Holds out ((m.write 131 (putU16Le crc)).write 0 (putU16Le 133))
      (putU16Le 133 ++ ([odConfigVersion] ++ packets ++ putU16Le crc)) := by
  have hend := h.append (putU16Le crc)
  have hpos : ([0, 0, odConfigVersion] ++ packets).length = 131 := by simp [hlen]
  rw [hpos] at hend
  have hall : Buffer.Holds out (m.write 131 (putU16Le crc))
      ([0, 0] ++ ([odConfigVersion] ++ packets ++ putU16Le crc)) := by simpa using hend
  exact hall.patch rfl

/-- **The outcome of `build_config_blob`.** -/
theorem buildConfigBlob_builds (caps : DisplayCapabilities) (icType : UInt16) (out : Buffer UInt8)
    (outCap outLen : ℕ) :
    Builds caps icType out outCap outLen (buildConfigBlob caps icType out outCap outLen) := by
  have hstart := Buffer.holds_nil out
  rw [buildConfigBlob]
  by_cases hgeometry : caps.width = 0 ∨ caps.height = 0
  · rw [if_pos hgeometry]
    exact builds_failed (by decide) hstart (Nat.zero_le _)
  rw [if_neg hgeometry]
  by_cases hfull : caps.fullFrameBytes = 0
  · rw [if_pos hfull]
    exact builds_failed (by decide) hstart (Nat.zero_le _)
  rw [if_neg hfull]
  by_cases hmode : (!caps.supportsDirectWrite && !caps.supportsPipeWrite) = true
  · rw [if_pos hmode]
    exact builds_failed (by decide) hstart (Nat.zero_le _)
  rw [if_neg hmode]
  by_cases hcap : outCap < 3
  · rw [if_pos hcap]
    exact builds_failed (by decide) hstart (Nat.zero_le _)
  rw [if_neg hcap]
  dsimp only
  -- the header, then the packets, each behind what is there
  have hheader : Buffer.Holds out
      (out.write 0 (OuterPacketHeader.toBytes { length := 0, version := odConfigVersion }))
      [0, 0, odConfigVersion] := hstart.append _
  generalize out.write 0 _ = m₀ at hheader ⊢
  rcases hsys : appendPacket m₀ outCap 3 _ _ with _ | ⟨m₁, pos₁⟩
  · exact builds_failed (by decide) hheader (Nat.not_lt.mp hcap)
  obtain ⟨h₁, rfl, hfits₁⟩ := appendPacket_holds hheader (p := systemPacket icType) rfl hsys
  dsimp only
  rcases hmfr : appendPacket m₁ outCap _ _ _ with _ | ⟨m₂, pos₂⟩
  · exact builds_failed (by decide) h₁ hfits₁
  obtain ⟨h₂, rfl, hfits₂⟩ := appendPacket_holds h₁ (p := manufacturerPacket) rfl hmfr
  dsimp only
  rcases hpwr : appendPacket m₂ outCap _ _ _ with _ | ⟨m₃, pos₃⟩
  · exact builds_failed (by decide) h₂ hfits₂
  obtain ⟨h₃, rfl, hfits₃⟩ := appendPacket_holds h₂ (p := powerPacket) rfl hpwr
  dsimp only
  rcases hdsp : appendPacket m₃ outCap _ _ _ with _ | ⟨m₄, pos₄⟩
  · exact builds_failed (by decide) h₃ hfits₃
  obtain ⟨h₄, hpos₄, hfits₄⟩ := appendPacket_holds h₃ (p := displayPacket caps) rfl hdsp
  dsimp only
  by_cases hroom : pos₄ + 2 > outCap
  · rw [if_pos hroom]
    exact builds_failed (by decide) h₄ hfits₄
  rw [if_neg hroom]
  -- all four packets are in: the CRC and the length
  have hall : [0, 0, odConfigVersion] ++ (systemPacket icType).toBytes ++
      manufacturerPacket.toBytes ++ powerPacket.toBytes ++ (displayPacket caps).toBytes =
        [0, 0, odConfigVersion] ++ packetBytes caps icType := by
    simp [packetBytes, configPackets]
  rw [hall] at h₄ hpos₄
  have hlen : ([0, 0, odConfigVersion] ++ packetBytes caps icType).length = 131 := by simp
  obtain rfl : pos₄ = 131 := hpos₄.trans hlen
  have hcrc : m₄.upTo 131 = [0, 0, odConfigVersion] ++ packetBytes caps icType := hlen ▸ h₄.upTo_eq
  have hsealed := holds_seal (length_packetBytes caps icType) h₄ (crc16CcittFalse (m₄.upTo 131))
  have hbytes : putU16Le 133 ++ ([odConfigVersion] ++ packetBytes caps icType ++
      putU16Le (crc16CcittFalse (m₄.upTo 131))) = configBytes caps icType := by
    rw [hcrc, configBytes]
  rw [hbytes] at hsealed
  have hupTo := hsealed.upTo_eq
  rw [length_configBytes] at hupTo
  exact {
    frame := fun i hi => hsealed.frame i (by rw [length_configBytes]; omega)
    failed := fun herror => absurd rfl herror
    done := fun _ => ⟨rfl, hupTo⟩ }

/-- The config of a panel with a geometry and a mode is built, in a buffer that is large enough. -/
lemma buildConfigBlob_error (icType : UInt16) (out : Buffer UInt8) (outLen : ℕ)
    (hwidth : caps.width ≠ 0) (hheight : caps.height ≠ 0) (hfull : caps.fullFrameBytes ≠ 0)
    (hmode : caps.supportsDirectWrite = true) (hcap : 133 ≤ outCap) :
    (buildConfigBlob caps icType out outCap outLen).error = .none := by
  have happend : ∀ (m : Buffer UInt8) pos id (payload : List UInt8),
      pos + 2 + payload.length ≤ outCap → appendPacket m outCap pos id payload =
        some (((m.write pos [0]).write (pos + 1) [id]).write (pos + 2) payload,
          pos + 2 + payload.length) := fun m pos id payload hfits => by
    rw [appendPacket, if_neg (by omega)]
  rw [buildConfigBlob, if_neg (by tauto), if_neg hfull, if_neg (by simp [hmode]),
    if_neg (by omega)]
  dsimp only
  rw [happend _ _ _ _ (by rw [SystemConfig.length_toBytes]; omega)]
  dsimp only
  rw [happend _ _ _ _ (by simp only [SystemConfig.length_toBytes,
    ManufacturerData.length_toBytes]; omega)]
  dsimp only
  rw [happend _ _ _ _ (by simp only [SystemConfig.length_toBytes,
    ManufacturerData.length_toBytes, PowerOption.length_toBytes]; omega)]
  dsimp only
  rw [happend _ _ _ _ (by simp only [SystemConfig.length_toBytes,
    ManufacturerData.length_toBytes, PowerOption.length_toBytes,
    DisplayConfig.length_toBytes]; omega)]
  dsimp only
  rw [if_neg (by simp only [SystemConfig.length_toBytes, ManufacturerData.length_toBytes,
    PowerOption.length_toBytes, DisplayConfig.length_toBytes]; omega)]

end Build

/-! ### What a host reads -/

/-- The display packet says what the capabilities say. -/
structure DescribesPanel (caps : DisplayCapabilities) (dsp : DisplayConfig) : Prop where
  width_eq : dsp.pixelWidth = caps.width
  height_eq : dsp.pixelHeight = caps.height
  colorScheme_eq : dsp.colorScheme = caps.colorScheme
  panelIcType_eq : dsp.panelIcType = caps.panelIcType
  directWrite : dsp.transmissionModes &&& odTransmissionModeDirectWrite ≠ 0 ↔
    caps.supportsDirectWrite = true
  pipeWrite : dsp.transmissionModes &&& odTransmissionModePipeWrite ≠ 0 ↔
    caps.supportsPipeWrite = true
  others : dsp.transmissionModes &&& (odTransmissionModeStreamingDecompression |||
    odTransmissionModeZip ||| odTransmissionModeG5 ||| odTransmissionModeReserved5 |||
    odTransmissionModeReserved6) = 0

lemma describesPanel_displayConfig (caps : DisplayCapabilities) :
    DescribesPanel caps (displayConfig caps) := by
  refine ⟨rfl, rfl, rfl, rfl, ?_, ?_, ?_⟩
  all_goals
    simp only [displayConfig, transmissionModes]
    rcases caps.supportsDirectWrite with _ | _ <;>
      rcases caps.supportsPipeWrite with _ | _ <;> decide

/-- The bytes are, by the outer format, a config of the four packets for this panel. -/
structure IsConfig (caps : DisplayCapabilities) (bs : List UInt8) (outer : OuterPacket) : Prop where
  parses : parseOuter bs = some outer
  types_eq : outer.packets.map ConfigPacket.type = [.system, .manufacturer, .power, .display]
  sizes_eq : outer.packets.map (fun p => p.payload.length) = [22, 22, 30, 46]
  length_eq : outer.length.toNat = bs.length
  version_eq : outer.version = odConfigVersion
  crc_eq : outer.crc = outerCrc bs
  display : ∃ dsp, outer.packets.getLast?.bind (fun p => DisplayConfig.parse p.payload) = some dsp ∧
    DescribesPanel caps dsp

lemma isConfig_configBytes (caps : DisplayCapabilities) (icType : UInt16) :
    ∃ outer, IsConfig caps (configBytes caps icType) outer := by
  refine ⟨⟨133, odConfigVersion, configPackets caps icType,
    crc16CcittFalse ([0, 0, odConfigVersion] ++ packetBytes caps icType)⟩, ?_⟩
  exact {
    parses := parseOuter_bytes _ _ _ _
    types_eq := rfl
    sizes_eq := rfl
    length_eq := (length_configBytes caps icType).symm
    version_eq := rfl
    crc_eq := by
      have hbody : ((configBytes caps icType).take ((configBytes caps icType).length - 2)).drop 2 =
          [odConfigVersion] ++ packetBytes caps icType := by
        rw [length_configBytes, configBytes, ← List.append_assoc]
        rw [List.take_left' (by simp)]
        rfl
      rw [outerCrc, hbody]
      rfl
    display := ⟨displayConfig caps, DisplayConfig.parse_toBytes _,
      describesPanel_displayConfig caps⟩ }

/-- **The blob decodes back to the capabilities**, nothing is written outside of the buffer, and an
error leaves the length alone. -/
theorem config_blob_decodes (caps : DisplayCapabilities) (icType : UInt16) (out : Buffer UInt8)
    (outCap outLen : ℕ) :
    let built := buildConfigBlob caps icType out outCap outLen
    (built.error = .none → ∃ outer, IsConfig caps (built.out.upTo built.outLen) outer) ∧
      (∀ i, outCap ≤ i → built.out i = out i) ∧
      (built.error ≠ .none → built.outLen = outLen) := by
  have hbuilds := buildConfigBlob_builds caps icType out outCap outLen
  refine ⟨fun hnone => ?_, hbuilds.frame, hbuilds.failed⟩
  rw [(hbuilds.done hnone).2]
  exact isConfig_configBytes caps icType

example : (buildConfigBlob
    { width := 122, height := 250, fullFrameBytes := 4000, supportsDirectWrite := true } 2
    (fun _ => 0xA5) 160 0).error = .none := by decide

end OpenDisplay
