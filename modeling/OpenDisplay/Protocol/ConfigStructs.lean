import OpenDisplay.Protocol.Frame
import Mathlib.Data.List.GetD

/-!
# The packed config structs

The four config payloads that the component serialises, from `opendisplay_structs.h`.  A packed
struct on a little-endian target is its fields in their order, each little-endian and without
padding, and `toBytes` is what `memcpy` copies out of one.  `DisplayConfig.parse` is a reader
written from the documented offsets, and finds every field that `toBytes` has written.
-/

namespace OpenDisplay

/-- A field of `n` bytes that is all zeros. -/
def zeros (n : ℕ) : Vector UInt8 n := Vector.replicate n 0

/-- `SystemConfig`, packet `0x01`. -/
structure SystemConfig where
  icType : UInt16 := 0
  communicationModes : UInt8 := 0
  deviceFlags : UInt8 := 0
  pwrPin : UInt8 := 0
  reserved : Vector UInt8 15 := zeros 15
  pwrPin2 : UInt8 := 0
  pwrPin3 : UInt8 := 0
deriving DecidableEq

def SystemConfig.toBytes (s : SystemConfig) : List UInt8 :=
  putU16Le s.icType ++ [s.communicationModes, s.deviceFlags, s.pwrPin] ++ s.reserved.toList ++
    [s.pwrPin2, s.pwrPin3]

@[simp] lemma SystemConfig.length_toBytes (s : SystemConfig) : s.toBytes.length = 22 := by
  simp [toBytes]

/-- `ManufacturerData`, packet `0x02`. -/
structure ManufacturerData where
  manufacturerId : UInt16 := 0
  boardType : UInt8 := 0
  boardRevision : UInt8 := 0
  simpleConfigDriverIndex : UInt16 := 0
  simpleConfigDisplayIndex : UInt16 := 0
  simpleConfigPowerIndex : UInt16 := 0
  simpleConfigConfiguredAt : Vector UInt8 6 := zeros 6
  reserved : Vector UInt8 6 := zeros 6
deriving DecidableEq

def ManufacturerData.toBytes (m : ManufacturerData) : List UInt8 :=
  putU16Le m.manufacturerId ++ [m.boardType, m.boardRevision] ++
    putU16Le m.simpleConfigDriverIndex ++ putU16Le m.simpleConfigDisplayIndex ++
    putU16Le m.simpleConfigPowerIndex ++ m.simpleConfigConfiguredAt.toList ++ m.reserved.toList

@[simp] lemma ManufacturerData.length_toBytes (m : ManufacturerData) : m.toBytes.length = 22 := by
  simp [toBytes]

/-- `PowerOption`, packet `0x04`. -/
structure PowerOption where
  powerMode : UInt8 := 0
  batteryCapacityMah : Vector UInt8 3 := zeros 3
  sleepTimeoutMs : UInt16 := 0
  txPower : UInt8 := 0
  sleepFlags : UInt8 := 0
  batterySensePin : UInt8 := 0
  batterySenseEnablePin : UInt8 := 0
  batterySenseFlags : UInt8 := 0
  capacityEstimator : UInt8 := 0
  voltageScalingFactor : UInt16 := 0
  deepSleepCurrentUa : UInt32 := 0
  deepSleepTimeSeconds : UInt16 := 0
  chargeEnablePin : UInt8 := 0
  chargeStatePin : UInt8 := 0
  chargerFlags : UInt8 := 0
  minWakeTimeSeconds : UInt16 := 0
  screenTimeoutSeconds : UInt8 := 0
  reserved : Vector UInt8 4 := zeros 4
deriving DecidableEq

def PowerOption.toBytes (p : PowerOption) : List UInt8 :=
  [p.powerMode] ++ p.batteryCapacityMah.toList ++ putU16Le p.sleepTimeoutMs ++
    [p.txPower, p.sleepFlags, p.batterySensePin, p.batterySenseEnablePin, p.batterySenseFlags,
      p.capacityEstimator] ++
    putU16Le p.voltageScalingFactor ++ putU32Le p.deepSleepCurrentUa ++
    putU16Le p.deepSleepTimeSeconds ++ [p.chargeEnablePin, p.chargeStatePin, p.chargerFlags] ++
    putU16Le p.minWakeTimeSeconds ++ [p.screenTimeoutSeconds] ++ p.reserved.toList

@[simp] lemma PowerOption.length_toBytes (p : PowerOption) : p.toBytes.length = 30 := by
  simp [toBytes]

/-- `DisplayConfig`, packet `0x20`. -/
structure DisplayConfig where
  instanceNumber : UInt8 := 0
  displayTechnology : UInt8 := 0
  panelIcType : UInt16 := 0
  pixelWidth : UInt16 := 0
  pixelHeight : UInt16 := 0
  activeWidthMm : UInt16 := 0
  activeHeightMm : UInt16 := 0
  legacyTagType : UInt16 := 0
  rotation : UInt8 := 0
  resetPin : UInt8 := 0
  busyPin : UInt8 := 0
  dcPin : UInt8 := 0
  csPin : UInt8 := 0
  dataPin : UInt8 := 0
  partialUpdateSupport : UInt8 := 0
  colorScheme : UInt8 := 0
  transmissionModes : UInt8 := 0
  clkPin : UInt8 := 0
  csPin2 : UInt8 := 0
  /-- `reserved_pin_3` to `reserved_pin_8`. -/
  reservedPins : Vector UInt8 6 := zeros 6
  fullUpdateMC : UInt16 := 0
  reserved : Vector UInt8 13 := zeros 13
deriving DecidableEq

namespace DisplayConfig

/-- The fields in front of the reserved pins. -/
def leadingBytes (d : DisplayConfig) : List UInt8 :=
  [d.instanceNumber, d.displayTechnology] ++ putU16Le d.panelIcType ++ putU16Le d.pixelWidth ++
    putU16Le d.pixelHeight ++ putU16Le d.activeWidthMm ++ putU16Le d.activeHeightMm ++
    putU16Le d.legacyTagType ++
    [d.rotation, d.resetPin, d.busyPin, d.dcPin, d.csPin, d.dataPin, d.partialUpdateSupport,
      d.colorScheme, d.transmissionModes, d.clkPin, d.csPin2]

def toBytes (d : DisplayConfig) : List UInt8 :=
  d.leadingBytes ++ (d.reservedPins.toList ++ (putU16Le d.fullUpdateMC ++ d.reserved.toList))

@[simp] lemma length_leadingBytes (d : DisplayConfig) : d.leadingBytes.length = 25 := rfl

@[simp] lemma length_toBytes (d : DisplayConfig) : d.toBytes.length = 46 := by simp [toBytes]

/-- A reader of the struct: every field at its documented offset. -/
def parse (bs : List UInt8) : Option DisplayConfig :=
  if bs.length ≠ 46 then none
  else
    let u8 := fun i => bs.getD i 0
    let u16 := fun i => getU16Le (bs.getD i 0) (bs.getD (i + 1) 0)
    some {
      instanceNumber := u8 0
      displayTechnology := u8 1
      panelIcType := u16 2
      pixelWidth := u16 4
      pixelHeight := u16 6
      activeWidthMm := u16 8
      activeHeightMm := u16 10
      legacyTagType := u16 12
      rotation := u8 14
      resetPin := u8 15
      busyPin := u8 16
      dcPin := u8 17
      csPin := u8 18
      dataPin := u8 19
      partialUpdateSupport := u8 20
      colorScheme := u8 21
      transmissionModes := u8 22
      clkPin := u8 23
      csPin2 := u8 24
      reservedPins := Vector.ofFn fun i => u8 (25 + i)
      fullUpdateMC := u16 31
      reserved := Vector.ofFn fun i => u8 (33 + i) }

/-- A field of `n` bytes is read back from behind what stands in front of it. -/
lemma ofFn_getD_append {n : ℕ} (front back : List UInt8) (v : Vector UInt8 n) :
    Vector.ofFn (fun i : Fin n => (front ++ (v.toList ++ back)).getD (front.length + i) 0) = v := by
  ext i hi
  rw [Vector.getElem_ofFn, List.getD_append_right _ _ _ _ (Nat.le_add_right _ _),
    Nat.add_sub_cancel_left, List.getD_append _ _ _ _ (by simpa using hi),
    List.getD_eq_getElem?_getD]
  simp [hi]

/-- **Every field is read back** from where it was written. -/
theorem parse_toBytes (d : DisplayConfig) : parse d.toBytes = some d := by
  -- the words in front of the reserved pins
  have hword : ∀ (i : ℕ) (v : UInt16), d.toBytes.getD i 0 = (v &&& 0xFF).toUInt8 →
      d.toBytes.getD (i + 1) 0 = (v >>> 8).toUInt8 →
        getU16Le (d.toBytes.getD i 0) (d.toBytes.getD (i + 1) 0) = v := by
    intro i v hlow hhigh
    rw [hlow, hhigh, getU16Le_bytes]
  have hpins : Vector.ofFn (fun i : Fin 6 => d.toBytes.getD (25 + i) 0) = d.reservedPins :=
    ofFn_getD_append d.leadingBytes _ d.reservedPins
  have hmC : getU16Le (d.toBytes.getD 31 0) (d.toBytes.getD 32 0) = d.fullUpdateMC := by
    have hrest : ∀ k < 2, d.toBytes.getD (31 + k) 0 = (putU16Le d.fullUpdateMC).getD k 0 := by
      intro k hk
      rw [toBytes, ← List.append_assoc, List.getD_append_right _ _ _ _ (by simp),
        List.getD_append _ _ _ _ (by simp; omega)]
      congr 1
      simp
    exact hword 31 _ (hrest 0 (by omega)) (hrest 1 (by omega))
  have hreserved : Vector.ofFn (fun i : Fin 13 => d.toBytes.getD (33 + i) 0) = d.reserved := by
    have h := ofFn_getD_append
      (d.leadingBytes ++ (d.reservedPins.toList ++ putU16Le d.fullUpdateMC)) [] d.reserved
    simpa [toBytes] using h
  rw [parse, if_neg (by simp)]
  dsimp only
  rw [hword 2 d.panelIcType rfl rfl, hword 4 d.pixelWidth rfl rfl, hword 6 d.pixelHeight rfl rfl,
    hword 8 d.activeWidthMm rfl rfl, hword 10 d.activeHeightMm rfl rfl,
    hword 12 d.legacyTagType rfl rfl, hpins, hmC, hreserved]
  rfl

end DisplayConfig

end OpenDisplay
