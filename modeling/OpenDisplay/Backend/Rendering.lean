import OpenDisplay.Backend.EpaperSPI
import OpenDisplay.Backend.IT8951
import OpenDisplay.Lib.Blocks
import OpenDisplay.Lib.Machine
import OpenDisplay.Lib.Raster
import Mathlib.Data.Nat.Bitwise
import Mathlib.Tactic.IntervalCases

/-!
# What a frame draws

Both adapters commit a run of bytes through `draw_pixel_at`.  A driver that writes these
calls down shows what a whole frame draws: every pixel of the panel once, and nothing else,
in the colour of its bit, however the frame is cut into calls of `write_contiguous`.  A run
that goes beyond the frame draws nothing.
-/

namespace OpenDisplay

/-! ### A driver that writes its calls down -/

/-- One call of `draw_pixel_at`. -/
structure PixelCall where
  x : ℕ
  y : ℕ
  color : Color
deriving DecidableEq

/-- Where the call draws. -/
def PixelCall.pos (call : PixelCall) : ℕ × ℕ := (call.x, call.y)

/-- A driver together with the calls of `draw_pixel_at` so far. -/
structure DrawLog (δ : Type) where
  driver : δ
  calls : List PixelCall

open DisplayDriver

instance {δ : Type} [DisplayDriver δ] : DisplayDriver (DrawLog δ) where
  isFailed d := isFailed d.driver
  isIdle d := isIdle d.driver
  rotation d := rotation d.driver
  nativeWidth d := nativeWidth d.driver
  nativeHeight d := nativeHeight d.driver
  update d := { d with driver := update d.driver }
  drawPixelAt d x y color := ⟨drawPixelAt d.driver x y color, d.calls ++ [⟨x, y, color⟩]⟩

namespace MonoPanel

variable {δ : Type} [DisplayDriver δ]

/-! ### The geometry -/

/-- The geometry that `init` derives from the width and the height of a panel. -/
structure Geometry (caps : DisplayCapabilities) : Prop where
  width_ne : caps.width ≠ 0
  height_ne : caps.height ≠ 0
  stride_eq : caps.rowStrideBytes = UInt16.ofNat ((caps.width.toNat + 7) / 8)
  full_eq : caps.fullFrameBytes = caps.rowStrideBytes.toUInt32 * caps.height.toUInt32

section Geometry

variable {caps : DisplayCapabilities}

/-- The stride is not cut to 16 bits. -/
lemma Geometry.toNat_stride (h : Geometry caps) :
    caps.rowStrideBytes.toNat = (caps.width.toNat + 7) / 8 := by
  have hw := caps.width.toNat_lt
  rw [h.stride_eq, UInt16.toNat_ofNat']
  exact Nat.mod_eq_of_lt (by omega)

/-- The frame size is not cut to 32 bits. -/
lemma Geometry.toNat_full (h : Geometry caps) :
    caps.fullFrameBytes.toNat = caps.rowStrideBytes.toNat * caps.height.toNat := by
  have hs := caps.rowStrideBytes.toNat_lt
  have hh := caps.height.toNat_lt
  rw [h.full_eq, UInt32.toNat_mul, UInt16.toNat_toUInt32, UInt16.toNat_toUInt32]
  refine Nat.mod_eq_of_lt (Nat.lt_of_le_of_lt (Nat.mul_le_mul (Nat.le_of_lt_succ hs)
    (Nat.le_of_lt_succ hh)) (by decide))

lemma Geometry.stride_pos (h : Geometry caps) : 0 < caps.rowStrideBytes.toNat := by
  have hw : caps.width.toNat ≠ 0 := fun h0 => h.width_ne (UInt16.toNat_inj.mp h0)
  rw [h.toNat_stride]
  omega

lemma Geometry.width_le (h : Geometry caps) :
    caps.width.toNat ≤ 8 * caps.rowStrideBytes.toNat := by
  rw [h.toNat_stride]
  omega

/-- What `init` states is such a geometry. -/
lemma geometry_of_initCaps {display : Option δ} {caps caps' : DisplayCapabilities}
    (h : initCaps display caps = some caps') : Geometry caps' := by
  cases display with
  | none => cases h
  | some d =>
      simp only [initCaps] at h
      split_ifs at h with _ _ hzero _
      obtain rfl := Option.some.inj h
      exact ⟨fun hw => hzero (Or.inl hw), fun hh => hzero (Or.inr hh), rfl, rfl⟩

end Geometry

/-! ### The calls of a run of bytes -/

/-- The calls for the byte with index `i`. -/
def byteCalls (caps : DisplayCapabilities) (bits : UInt8) (i : ℕ) : List PixelCall :=
  (Raster.cells caps.width.toNat caps.rowStrideBytes.toNat i).map fun cell =>
    ⟨cell.1, cell.2,
      if bits &&& (0x80 >>> UInt8.ofNat (cell.1 % 8)) ≠ 0 then Color.white else Color.black⟩

/-- The calls for a run of bytes, the first of them with index `start`. -/
def runCalls (caps : DisplayCapabilities) (start : ℕ) (data : List UInt8) : List PixelCall :=
  (data.zipIdx start).flatMap fun byte => byteCalls caps byte.1 byte.2

lemma runCalls_append (caps : DisplayCapabilities) (start : ℕ) (data more : List UInt8) :
    runCalls caps start (data ++ more) =
      runCalls caps start data ++ runCalls caps (start + data.length) more := by
  rw [runCalls, List.zipIdx_append, List.flatMap_append]
  rfl

lemma foldl_drawPixelAt (cells : List ℕ) (f : ℕ → PixelCall) (d : DrawLog δ) :
    (cells.foldl (fun d b => drawPixelAt d (f b).x (f b).y (f b).color) d).calls =
      d.calls ++ cells.map f := by
  induction cells generalizing d with
  | nil => simp
  | cons b cells ih =>
      rw [List.foldl_cons, ih, List.map_cons]
      exact List.append_assoc _ _ _

lemma calls_drawByte (caps : DisplayCapabilities) (d : DrawLog δ) (i : UInt32) (bits : UInt8) :
    (drawByte caps d i bits).calls = d.calls ++ byteCalls caps bits i.toNat := by
  rw [drawByte, byteCalls, Raster.cells, List.map_map]
  refine (foldl_drawPixelAt _ (fun b => ⟨i.toNat % caps.rowStrideBytes.toNat * 8 + b,
    i.toNat / caps.rowStrideBytes.toNat,
    if bits &&& (0x80 >>> UInt8.ofNat b) ≠ 0 then Color.white else Color.black⟩) d).trans ?_
  refine congrArg _ (List.map_congr_left fun b hb => ?_)
  have hlt : b < 8 := List.mem_range.mp ((List.takeWhile_sublist _).subset hb)
  have hbit : (i.toNat % caps.rowStrideBytes.toNat * 8 + b) % 8 = b := by omega
  simp only [Function.comp_apply, hbit]

/-- The index of the byte does not wrap within a frame. -/
lemma calls_drawBytes (caps : DisplayCapabilities) (d : DrawLog δ) (start : UInt32)
    (data : List UInt8) (h : start.toNat + data.length ≤ caps.fullFrameBytes.toNat) :
    (drawBytes caps d start data).calls = d.calls ++ runCalls caps start.toNat data := by
  have hfull := caps.fullFrameBytes.toNat_lt
  induction data generalizing d start with
  | nil => simp [drawBytes, runCalls]
  | cons bits data ih =>
      rw [List.length_cons] at h
      rcases data with _ | ⟨bits', data⟩
      · simp [drawBytes, runCalls, calls_drawByte]
      · rw [List.length_cons] at h
        have hnext : (start + 1).toNat = start.toNat + 1 := by
          rw [UInt32.toNat_add]
          exact Nat.mod_eq_of_lt (by change start.toNat + 1 < 2 ^ 32; omega)
        rw [drawBytes, ih _ _ (by rw [hnext, List.length_cons]; omega), calls_drawByte, hnext,
          List.append_assoc]
        rfl

/-! ### The pixels of a frame -/

/-- The bit of a byte that the mask of `draw_pixel_at` picks. -/
lemma mask_ne_zero_iff (bits : UInt8) {b : ℕ} (h : b < 8) :
    bits &&& (0x80 >>> UInt8.ofNat b) ≠ 0 ↔ bits.toNat.testBit (7 - b) = true := by
  have hmask : ((0x80 : UInt8) >>> UInt8.ofNat b).toNat = 2 ^ (7 - b) := by
    interval_cases b <;> rfl
  rw [Ne, ← UInt8.toNat_inj, UInt8.toNat_and, hmask, UInt8.toNat_zero, Nat.and_two_pow]
  rcases bits.toNat.testBit (7 - b) <;> simp

/-- The calls draw a frame on a panel: every pixel of the panel once, nothing else, and
white exactly where the bit of the frame is set. -/
structure RendersFrame (width height stride : ℕ) (frame : List UInt8) (calls : List PixelCall) :
    Prop where
  nodup : (calls.map PixelCall.pos).Nodup
  mem_iff : ∀ x y, (x, y) ∈ calls.map PixelCall.pos ↔ x < width ∧ y < height
  color_eq : ∀ call ∈ calls, call.color =
    if (frame.getD (call.y * stride + call.x / 8) 0).toNat.testBit (7 - call.x % 8)
    then Color.white else Color.black

lemma map_pos_byteCalls (caps : DisplayCapabilities) (bits : UInt8) (i : ℕ) :
    (byteCalls caps bits i).map PixelCall.pos =
      Raster.cells caps.width.toNat caps.rowStrideBytes.toNat i := by
  rw [byteCalls, List.map_map]
  exact List.map_id _

lemma map_pos_runCalls (caps : DisplayCapabilities) (start : ℕ) (data : List UInt8) :
    (runCalls caps start data).map PixelCall.pos =
      (List.range' start data.length).flatMap
        (Raster.cells caps.width.toNat caps.rowStrideBytes.toNat) := by
  rw [runCalls, List.map_flatMap, ← List.zipIdx_map_snd start data, List.flatMap_map]
  exact List.flatMap_congr fun byte _ => map_pos_byteCalls caps byte.1 byte.2

/-- **A whole frame draws every pixel of the panel once.** -/
theorem rendersFrame_runCalls {caps : DisplayCapabilities} (h : Geometry caps)
    {frame : List UInt8} (hlen : frame.length = caps.fullFrameBytes.toNat) :
    RendersFrame caps.width.toNat caps.height.toNat caps.rowStrideBytes.toNat frame
      (runCalls caps 0 frame) where
  nodup := by
    rw [map_pos_runCalls]
    exact Raster.nodup_flatMap_cells h.stride_pos h.width_le List.nodup_range'
  mem_iff x y := by
    rw [map_pos_runCalls, hlen, h.toNat_full, ← List.range_eq_range']
    exact Raster.mem_flatMap_cells h.stride_pos h.width_le
  color_eq call hcall := by
    rw [runCalls, List.mem_flatMap] at hcall
    obtain ⟨⟨bits, i⟩, hbyte, hcall⟩ := hcall
    rw [byteCalls, List.mem_map] at hcall
    obtain ⟨⟨x, y⟩, hcell, rfl⟩ := hcall
    obtain ⟨-, hi⟩ := (Raster.mem_cells h.stride_pos h.width_le).mp hcell
    rw [Raster.byteOf] at hi
    have hget : frame.getD i 0 = bits := by
      have hsome := List.mem_zipIdx_iff_getElem?.mp hbyte
      rw [List.getD_eq_getElem?_getD, hsome]
      rfl
    dsimp only at hget ⊢
    rw [hi, hget]
    exact if_congr (mask_ne_zero_iff bits (Nat.mod_lt _ (by decide))) rfl rfl

/-! ### `write_contiguous` -/

/-- A run of bytes within the frame is drawn. -/
lemma writeContiguous_of_le {caps : DisplayCapabilities} (d : DrawLog δ) {offset : UInt32}
    {data : List UInt8} (h : offset.toNat + data.length ≤ caps.fullFrameBytes.toNat) :
    ∃ d', writeContiguous caps (some d) offset data = (.ok, some d') ∧
      d'.calls = d.calls ++ runCalls caps offset.toNat data := by
  have hle : offset ≤ caps.fullFrameBytes := UInt32.le_iff_toNat_le.mpr (by omega)
  refine ⟨drawBytes caps d offset data, ?_, calls_drawBytes caps d offset data h⟩
  rw [writeContiguous, if_neg]
  rw [not_or, UInt32.toNat_sub_of_le _ _ hle, UInt32.not_lt]
  exact ⟨hle, by omega⟩

/-- A run of bytes that goes beyond the frame is refused, whatever wraps. -/
lemma writeContiguous_of_lt {caps : DisplayCapabilities} (d : δ) {offset : UInt32}
    {data : List UInt8} (h : caps.fullFrameBytes.toNat < offset.toNat + data.length) :
    writeContiguous caps (some d) offset data = (.invalidArgument, some d) := by
  rw [writeContiguous, if_pos]
  by_cases hle : offset ≤ caps.fullFrameBytes
  · right
    have hle' := UInt32.le_iff_toNat_le.mp hle
    rw [UInt32.toNat_sub_of_le _ _ hle]
    omega
  · exact Or.inl (UInt32.not_le.mp hle)

end MonoPanel

/-! ### The adapters -/

section Adapters

open OpenDisplayBackend Machine

variable {β δ : Type} [OpenDisplayBackend β] [DisplayDriver δ]

/-- The backend after a call of `write_contiguous`. -/
def writePiece (b : β) (piece : ℕ × List UInt8) : β :=
  (writeContiguous b (UInt32.ofNat piece.1) piece.2).2

/-- The answer of a call of `write_contiguous`. -/
def pieceAnswer (b : β) (piece : ℕ × List UInt8) : List BackendResult :=
  [(writeContiguous b (UInt32.ofNat piece.1) piece.2).1]

/-- What is asked of the drawing of a backend, whose calls of `draw_pixel_at` so far are
`calls`: a frame is rendered, by the same calls however it is cut into pieces, and a call
that goes beyond the frame draws nothing. -/
structure RendersExactly (calls : β → List PixelCall) (b : β) : Prop where
  frame : ∀ frame : List UInt8, frame.length = (capabilities b).fullFrameBytes.toNat →
    ∃ drawn, MonoPanel.RendersFrame (capabilities b).width.toNat (capabilities b).height.toNat
        (capabilities b).rowStrideBytes.toNat frame drawn ∧
      ∀ pieces : List (List UInt8), pieces.flatten = frame →
        outputs writePiece pieceAnswer b (Blocks.place 0 pieces) =
            List.replicate pieces.length .ok ∧
          calls (exec writePiece b (Blocks.place 0 pieces)) = calls b ++ drawn
  refused : ∀ (offset : UInt32) (data : List UInt8),
    (capabilities b).fullFrameBytes.toNat < offset.toNat + data.length →
      (writeContiguous b offset data).1 = .invalidArgument ∧
        calls (writeContiguous b offset data).2 = calls b

/-- The writes of the backend are those of a mono panel with this display. -/
structure WritesToPanel (display : β → Option δ) : Prop where
  answer_eq : ∀ (b : β) offset data, (writeContiguous b offset data).1 =
    (MonoPanel.writeContiguous (capabilities b) (display b) offset data).1
  display_eq : ∀ (b : β) offset data, display (writeContiguous b offset data).2 =
    (MonoPanel.writeContiguous (capabilities b) (display b) offset data).2
  capabilities_eq : ∀ (b : β) offset data,
    capabilities (writeContiguous b offset data).2 = capabilities b

/-- The calls of `draw_pixel_at` on a display so far. -/
def loggedCalls (display : Option (DrawLog δ)) : List PixelCall :=
  (display.map DrawLog.calls).getD []

variable {display : β → Option (DrawLog δ)}

/-- Pieces laid end to end within the frame are all drawn. -/
lemma WritesToPanel.exec_pieces (hwrites : WritesToPanel display) {b : β} {d : DrawLog δ}
    (hd : display b = some d) {lo : ℕ} {pieces : List (List UInt8)}
    (h : lo + pieces.flatten.length ≤ (capabilities b).fullFrameBytes.toNat) :
    outputs writePiece pieceAnswer b (Blocks.place lo pieces) =
        List.replicate pieces.length .ok ∧
      loggedCalls (display (exec writePiece b (Blocks.place lo pieces))) =
        d.calls ++ MonoPanel.runCalls (capabilities b) lo pieces.flatten := by
  induction pieces generalizing lo b d with
  | nil => simp [loggedCalls, hd, MonoPanel.runCalls]
  | cons piece pieces ih =>
      rw [List.flatten_cons, List.length_append] at h
      have hlo : (UInt32.ofNat lo).toNat = lo := by
        have hfull := (capabilities b).fullFrameBytes.toNat_lt
        rw [UInt32.toNat_ofNat']
        exact Nat.mod_eq_of_lt (by omega)
      have hfits : (UInt32.ofNat lo).toNat + piece.length ≤
          (capabilities b).fullFrameBytes.toNat := by omega
      obtain ⟨d', hwritten, hcalls⟩ := MonoPanel.writeContiguous_of_le d hfits
      have hanswer := hwrites.answer_eq b (UInt32.ofNat lo) piece
      have hdisplay := hwrites.display_eq b (UInt32.ofNat lo) piece
      have hcaps := hwrites.capabilities_eq b (UInt32.ofNat lo) piece
      rw [hd, hwritten] at hanswer hdisplay
      have hrestFits : lo + piece.length + pieces.flatten.length ≤ (capabilities
          (writeContiguous b (UInt32.ofNat lo) piece).2).fullFrameBytes.toNat := by
        rw [hcaps]
        omega
      obtain ⟨hrest, hend⟩ := ih hdisplay hrestFits
      rw [Blocks.place, outputs_cons, exec_cons, writePiece, pieceAnswer, hrest, hend, hanswer,
        hcaps, hcalls, hlo, List.append_assoc, ← MonoPanel.runCalls_append]
      exact ⟨rfl, rfl⟩

/-- **A backend that writes to a mono panel renders exactly.** -/
theorem WritesToPanel.rendersExactly (hwrites : WritesToPanel display) {b : β} {d : DrawLog δ}
    (hd : display b = some d) (hgeometry : MonoPanel.Geometry (capabilities b)) :
    RendersExactly (fun b => loggedCalls (display b)) b where
  frame frame hlen := by
    refine ⟨_, MonoPanel.rendersFrame_runCalls hgeometry hlen, fun pieces hpieces => ?_⟩
    subst hpieces
    have hfits : 0 + pieces.flatten.length ≤ (capabilities b).fullFrameBytes.toNat := by omega
    have hrun := hwrites.exec_pieces hd hfits
    rw [hd]
    exact hrun
  refused offset data h := by
    have hanswer := hwrites.answer_eq b offset data
    have hdisplay := hwrites.display_eq b offset data
    rw [hd, MonoPanel.writeContiguous_of_lt d h] at hanswer hdisplay
    exact ⟨hanswer, by rw [hdisplay, hd]⟩

end Adapters

/-- **Both adapters render a frame exactly.** -/
theorem frame_rendering_exact {δ : Type} [DisplayDriver δ] {caps : DisplayCapabilities}
    (hgeometry : MonoPanel.Geometry caps) (d : DrawLog δ) :
    (∀ refreshStarted : Bool,
      RendersExactly (fun b : EpaperSPIBackend (DrawLog δ) => loggedCalls b.display)
        ⟨some d, caps, refreshStarted⟩) ∧
      ∀ (refreshSettleDeadlineMs : UInt32) (clock : ℕ),
        RendersExactly (fun b : IT8951Backend (DrawLog δ) => loggedCalls b.display)
          ⟨some d, caps, refreshSettleDeadlineMs, clock⟩ :=
  ⟨fun _ => WritesToPanel.rendersExactly ⟨fun _ _ _ => rfl, fun _ _ _ => rfl, fun _ _ _ => rfl⟩
      rfl hgeometry,
    fun _ _ => WritesToPanel.rendersExactly
      ⟨fun _ _ _ => rfl, fun _ _ _ => rfl, fun _ _ _ => rfl⟩ rfl hgeometry⟩

/-- A panel of ten by two pixels: six bits of every second byte are padding. -/
theorem frame_rendering_exact_tenByTwo :
    (∀ refreshStarted : Bool,
      RendersExactly (fun b : EpaperSPIBackend (DrawLog ScriptedDriver) => loggedCalls b.display)
        ⟨some ⟨⟨10, 2, true⟩, []⟩,
          { width := 10, height := 2, rowStrideBytes := 2, fullFrameBytes := 4 },
          refreshStarted⟩) ∧
      ∀ (refreshSettleDeadlineMs : UInt32) (clock : ℕ),
        RendersExactly (fun b : IT8951Backend (DrawLog ScriptedDriver) => loggedCalls b.display)
          ⟨some ⟨⟨10, 2, true⟩, []⟩,
            { width := 10, height := 2, rowStrideBytes := 2, fullFrameBytes := 4 },
            refreshSettleDeadlineMs, clock⟩ :=
  frame_rendering_exact ⟨by decide, by decide, by decide, by decide⟩ _

end OpenDisplay
