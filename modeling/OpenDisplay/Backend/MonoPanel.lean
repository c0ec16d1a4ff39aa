import OpenDisplay.Backend.Interface

/-!
# Mono panels

What the two adapters `backend_epaper_spi.cpp` and `backend_it8951.cpp` do alike.
Both hold a display driver, both accept only full uncompressed frames of their own
colour scheme, and both commit a run of bytes pixel by pixel through
`draw_pixel_at`.  The driver is not part of the component: it is any type with the
public methods that the adapters call.
-/

namespace OpenDisplay

/-- `Color`. -/
structure Color where
  r : UInt8
  g : UInt8
  b : UInt8
deriving DecidableEq

namespace Color

def white : Color := ⟨255, 255, 255⟩

def black : Color := ⟨0, 0, 0⟩

end Color

/-- `DisplayRotation`. -/
inductive DisplayRotation
  | degrees0
  | degrees90
  | degrees180
  | degrees270
deriving DecidableEq

/-- The public methods of a display driver.  The queries only report; `update` and
`draw_pixel_at` change nothing but the driver. -/
class DisplayDriver (δ : Type) where
  isFailed : δ → Bool
  isIdle : δ → Bool
  rotation : δ → DisplayRotation
  nativeWidth : δ → Int
  nativeHeight : δ → Int
  update : δ → δ
  drawPixelAt : δ → ℕ → ℕ → Color → δ

namespace MonoPanel

variable {δ : Type} [DisplayDriver δ]

open DisplayDriver

/-- The capabilities that `init` states for a driver: the geometry of the panel before
rotation, and the fixed set of v1.  `none` when it refuses. -/
def initCaps (display : Option δ) (caps : DisplayCapabilities) : Option DisplayCapabilities :=
  match display with
  | none => none
  | some d =>
      if isFailed d then none
      else if rotation d ≠ .degrees0 then none
      else
        let width := UInt16.ofInt (nativeWidth d)
        let height := UInt16.ofInt (nativeHeight d)
        if width = 0 ∨ height = 0 then none
        else if caps.colorScheme ≠ odColorSchemeMono then none
        else
          let stride := UInt16.ofNat ((width.toNat + 7) / 8)
          let full := stride.toUInt32 * height.toUInt32
          some { caps with
            width := width
            height := height
            rowStrideBytes := stride
            fullFrameBytes := full
            byteAlignment := 1
            maxContiguousWrite := full
            stagingBytesRequired := 0
            supportsFullRefresh := true
            supportsFastRefresh := false
            supportsPartial := .none
            supportsCompression := false
            supportsDirectWrite := true
            supportsPipeWrite := true }

/-- The checks of `begin_frame` once there is a display. -/
def checkFrame (caps : DisplayCapabilities) (frame : FrameDescriptor) : BackendResult :=
  if frame.compressed || frame.partialFrame then .unsupported
  else if frame.colorScheme ≠ caps.colorScheme then .unsupported
  else if frame.totalBytes ≠ caps.fullFrameBytes then .invalidArgument
  else .ok

/-- Draw the eight pixels of a byte, most significant bit first, up to the width of
the panel: the bits beyond it are padding. -/
def drawByte (caps : DisplayCapabilities) (d : δ) (byteIndex : UInt32) (bits : UInt8) : δ :=
  let y := byteIndex.toNat / caps.rowStrideBytes.toNat
  let x0 := byteIndex.toNat % caps.rowStrideBytes.toNat * 8
  ((List.range 8).takeWhile fun b => decide (x0 + b < caps.width.toNat)).foldl
    (fun d b =>
      drawPixelAt d (x0 + b) y
        (if bits &&& (0x80 >>> UInt8.ofNat b) ≠ 0 then Color.white else Color.black)) d

/-- Draw a run of bytes, the first of them at `byteIndex`. -/
def drawBytes (caps : DisplayCapabilities) (d : δ) (byteIndex : UInt32) : List UInt8 → δ
  | [] => d
  | bits :: data => drawBytes caps (drawByte caps d byteIndex bits) (byteIndex + 1) data

/-- `write_contiguous`, on the display alone.  The bounds are checked before anything
is drawn. -/
def writeContiguous (caps : DisplayCapabilities) (display : Option δ) (offset : UInt32)
    (data : List UInt8) : BackendResult × Option δ :=
  match display with
  | none => (.deviceError, none)
  | some d =>
      if caps.fullFrameBytes < offset ∨ (caps.fullFrameBytes - offset).toNat < data.length then
        (.invalidArgument, some d)
      else (.ok, some (drawBytes caps d offset data))

end MonoPanel

/-- A driver of a given size that shows nothing: `update` makes it busy, and it stays so. -/
structure ScriptedDriver where
  width : Int
  height : Int
  idle : Bool := true
deriving DecidableEq

instance : DisplayDriver ScriptedDriver where
  isFailed _ := false
  isIdle d := d.idle
  rotation _ := .degrees0
  nativeWidth d := d.width
  nativeHeight d := d.height
  update d := { d with idle := false }
  drawPixelAt d _ _ _ := d

end OpenDisplay
