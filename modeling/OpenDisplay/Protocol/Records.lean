import OpenDisplay.Protocol.Frame

/-!
# The advertisement record and the config chunks

`build_msd` and `encode_config_chunk` of `protocol.cpp`.  The die temperature is a
float in the source; what the record holds is computed from `(t + 40) * 2` rounded
towards zero, and that integer is the input here.
-/

namespace OpenDisplay

/-! ### `0x0044`: the MSD record -/

/-- `OD_BLE_MANUFACTURER_ID`. -/
def odBleManufacturerId : UInt16 := 0x2446

def odMsdStatusBatteryVoltageBit8 : UInt8 := 0x01
def odMsdStatusRebootFlag : UInt8 := 0x02
def odMsdStatusConnectionRequested : UInt8 := 0x04
def odMsdStatusMainLoopCounterShift : UInt8 := 4
def odMsdStatusMainLoopCounterMask : UInt8 := 0xF0

structure MsdInputs where
  /-- `(t + 40) * 2`, rounded towards zero. -/
  chipTemperatureEncoded : Int := 80
  /-- `0` stands for no battery. -/
  battery10mv : UInt16 := 0
  rebootFlag : Bool := false
  connectionRequested : Bool := false
  loopCounter : UInt8 := 0

/-- The status byte of `build_msd`. -/
def msdStatus (inputs : MsdInputs) : UInt8 :=
  let batt := if inputs.battery10mv > 511 then 511 else inputs.battery10mv
  (if (batt >>> 8) &&& 0x01 ≠ 0 then odMsdStatusBatteryVoltageBit8 else 0) |||
    (if inputs.rebootFlag then odMsdStatusRebootFlag else 0) |||
    (if inputs.connectionRequested then odMsdStatusConnectionRequested else 0) |||
    ((inputs.loopCounter <<< odMsdStatusMainLoopCounterShift) &&& odMsdStatusMainLoopCounterMask)

/-- `build_msd`: company id, eleven dynamic bytes that stay zero, temperature, battery
and status. -/
def buildMsd (inputs : MsdInputs) : Vector UInt8 msdBytes :=
  let batt := if inputs.battery10mv > 511 then 511 else inputs.battery10mv
  ⟨#[(odBleManufacturerId &&& 0xFF).toUInt8, (odBleManufacturerId >>> 8).toUInt8,
      0, 0, 0, 0, 0, 0, 0, 0, 0, 0, 0,
      UInt8.ofNat (min inputs.chipTemperatureEncoded.toNat 255),
      (batt &&& 0xFF).toUInt8, msdStatus inputs], rfl⟩

/-! ### `0x0040`: config chunks -/

/-- Worst case for the four packets of the blob. -/
def configBlobMax : ℕ := 160

/-- Where chunk `index` starts in the blob: chunk 0 carries 94 bytes, later ones 96. -/
def configChunkOffset (index : UInt16) : ℕ :=
  if index = 0 then 0
  else (maxResponseDataSize - 6) + (index.toNat - 1) * (maxResponseDataSize - 4)

/-- The header of a chunk; chunk 0 announces the length of the blob. -/
def configChunkHeader (blobLen : ℕ) (index : UInt16) : List UInt8 :=
  [respAck, echo cmdConfigRead] ++ putU16Le index ++
    if index = 0 then putU16Le (UInt16.ofNat blobLen) else []

lemma length_configChunkHeader_le (blobLen : ℕ) (index : UInt16) :
    (configChunkHeader blobLen index).length ≤ maxResponseDataSize := by
  rw [configChunkHeader]
  split_ifs <;> simp [maxResponseDataSize]

/-- `encode_config_chunk`: the empty response when the blob is exhausted. -/
def encodeConfigChunk (blob : List UInt8) (index : UInt16) : Response :=
  let offset := configChunkOffset index
  if blob.length ≤ offset then .empty
  else
    let header := configChunkHeader blob.length index
    let capacity := maxResponseDataSize - header.length
    ⟨header ++ (blob.drop offset).take capacity, by
      have hle : header.length ≤ maxResponseDataSize := length_configChunkHeader_le _ _
      have htake : ((blob.drop offset).take capacity).length ≤ capacity := List.length_take_le _ _
      rw [List.length_append]
      omega⟩

end OpenDisplay
