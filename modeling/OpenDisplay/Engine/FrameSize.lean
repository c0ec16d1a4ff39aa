import OpenDisplay.Backend.Rendering
import OpenDisplay.Engine.PipeHeader
import OpenDisplay.Engine.RefreshHonest
import OpenDisplay.Protocol.ConfigBlob
import OpenDisplay.Protocol.Records
import Mathlib.Algebra.Order.Floor.Div

/-!
# The size of a frame

A direct transfer carries no size.  The device derives it from the geometry of the panel in
words of 16 and 32 bits, a client from the display packet of the config, and a PIPE START
names the result.  All of them come to the same number, which is the one of the integers: a
row of pixels is filled up to whole bytes.
-/

namespace OpenDisplay

open OpenDisplayBackend

/-- The bytes of a frame on a mono panel. -/
def frameBytes (width height : ℕ) : ℕ := width ⌈/⌉ 8 * height

/-- What a client takes for the size of a frame. -/
def DisplayConfig.clientFrameBytes (dsp : DisplayConfig) : ℕ :=
  frameBytes dsp.pixelWidth.toNat dsp.pixelHeight.toNat

/-- The frame of a geometry is the one that the integers give: nothing is cut off. -/
lemma MonoPanel.Geometry.toNat_fullFrameBytes {caps : DisplayCapabilities}
    (h : MonoPanel.Geometry caps) :
    caps.fullFrameBytes.toNat = frameBytes caps.width.toNat caps.height.toNat := by
  rw [h.toNat_full, h.toNat_stride]
  rfl

lemma MonoPanel.Geometry.fullFrameBytes_ne {caps : DisplayCapabilities}
    (h : MonoPanel.Geometry caps) : caps.fullFrameBytes ≠ 0 := by
  intro hzero
  have hfull := h.toNat_full
  have hheight : 0 < caps.height.toNat :=
    Nat.pos_of_ne_zero fun h0 => h.height_ne (UInt16.toNat_inj.mp h0)
  have hpos := Nat.mul_pos h.stride_pos hheight
  rw [hzero] at hfull
  exact absurd hfull.symm (Nat.ne_of_gt hpos)

/-- The width and the height that `init` states are those of the driver, if 16 bits hold
them. -/
lemma MonoPanel.size_of_initCaps {δ : Type} [DisplayDriver δ] {d : δ}
    {caps caps' : DisplayCapabilities} (h : MonoPanel.initCaps (some d) caps = some caps')
    {width height : ℕ} (hwidth : DisplayDriver.nativeWidth d = width)
    (hheight : DisplayDriver.nativeHeight d = height) (width_lt : width < 65536)
    (height_lt : height < 65536) :
    caps'.width.toNat = width ∧ caps'.height.toNat = height ∧
      caps'.supportsDirectWrite = true := by
  have hcut : ∀ {n : ℕ}, n < 65536 → (UInt16.ofInt (n : ℤ)).toNat = n := fun {n} hn => by
    have hmod : ((n : ℤ) % 2 ^ 16).toNat = n := by omega
    rw [UInt16.ofInt, hmod, UInt16.toNat_ofNat']
    exact Nat.mod_eq_of_lt hn
  simp only [MonoPanel.initCaps] at h
  split_ifs at h
  obtain rfl := Option.some.inj h
  exact ⟨by rw [hwidth]; exact hcut width_lt, by rw [hheight]; exact hcut height_lt, rfl⟩

namespace TransferEngine

variable {β ω : Type} [OpenDisplayBackend β] [PanelWorld β ω] {e : TransferEngine β}

/-! ### A PIPE START -/

/-- A whole header needs ten bytes. -/
lemma len_of_ofBytes {p : Payload} {h : StartHeader}
    (hheader : StartHeader.ofBytes p.bytes = some h) : 10 ≤ p.len := by
  rw [← p.length_bytes]
  generalize p.bytes = bs at hheader
  unfold StartHeader.ofBytes at hheader
  split at hheader
  · simp only [List.length_cons]
    omega
  · cases hheader

/-- On a panel that nobody owns, the size of the frame is the one size that a well-formed
header is not told to be wrong about. -/
lemma sizeMismatch_iff [FixedCapabilities β] {p : Payload} {nowMs : UInt32} {h : StartHeader}
    (hfree : e.hwOwned = false) (hheader : StartHeader.ofBytes p.bytes = some h)
    (hwell : h.WellFormed) :
    (e.onPipeStart p nowMs).1.response.bytes = [0xFF, 0x80, odErrPipeStartSizeMismatch, 0x00] ↔
      h.totalSize ≠ e.panelFrameBytes := by
  cases parseVerdict (len_of_ofBytes hheader) hheader with
  | wrong _ _ _ hill => exact absurd hwell hill
  | compressed _ _ _ hill => exact absurd hwell hill
  | wellFormed req hparse hflags _ _ _ _ htotal =>
      have hsizes : h.totalSize = e.panelFrameBytes ↔
          req.totalSize = (capabilities e.backend).fullFrameBytes := by
        rw [htotal, panelFrameBytes, UInt32.toNat_inj]
      have ho := onPipeStart_freeOutcome nowMs hfree hparse hflags
      generalize (e.onPipeStart p nowMs).1 = res, (e.onPipeStart p nowMs).2 = e₁ at ho ⊢
      cases ho with
      | sizeMismatch _ hsize => exact iff_of_true rfl fun hok => hsize (hsizes.mp hok)
      | beginFailed _ hsize _ =>
          -- a panel that refuses the frame is answered as a bad header
          exact iff_of_false (by decide) (not_not.mpr (hsizes.mpr hsize))
      | started _ _ hsize =>
          refine iff_of_false (fun hbytes => ?_) (not_not.mpr (hsizes.mpr hsize))
          exact absurd (List.cons.inj hbytes).1 (by decide)

/-! ### A direct END -/

/-- A `0x0072` is acknowledged exactly when the open direct transfer has carried the frame,
if the panel answers that it is done and refreshes. -/
lemma directEnd_iff {caps : DisplayCapabilities} {t : Transfer} (hled : Ledger t e)
    (hsize : Sized caps t e) (p : Payload) (nowMs : UInt32) :
    (e.onDirectEnd p nowMs).1.response = encodeAck cmdDirectWriteEnd ↔
      (e.txn.state = .receiving ∧ e.txn.mode = .direct) ∧
        t.size = caps.fullFrameBytes.toNat ∧ (finishFrame e.backend).1 = .ok ∧
        (beginRefresh (finishFrame e.backend).2 {}).1 = .ok := by
  have hnack : (fault (encodeNack cmdDirectWriteEnd)).response ≠ encodeAck cmdDirectWriteEnd := by
    decide
  have ho := onDirectEnd_outcome e p nowMs
  generalize (e.onDirectEnd p nowMs).1 = res, (e.onDirectEnd p nowMs).2 = e₁ at ho ⊢
  cases ho with
  | misplaced hplace => exact iff_of_false (by decide) fun h => hplace h.1
  | finished hstate hmode _ _ hfinish =>
      obtain ⟨-, hbook, -⟩ := hled.book_of_receiving hstate
      have hne : t.mode ≠ .none := by rcases hbook.mode_ne with h | h <;> simp [h]
      have hfull : t.size = caps.fullFrameBytes.toNat ↔
          e.txn.acceptedBytes = e.txn.expectedFrameBytes := by
        rw [← UInt32.toNat_inj, hbook.accepted_eq, hbook.expected_eq, hsize.full_eq hne]
      cases hfinish with
      | incomplete hlen => exact iff_of_false hnack fun h => hlen (hfull.mp h.2.1)
      | finishFailed _ hanswer => exact iff_of_false hnack fun h => hanswer h.2.2.1
      | refreshFailed _ _ hanswer => exact iff_of_false hnack fun h => hanswer h.2.2.2
      | refreshing hlen hdone hanswer =>
          exact iff_of_true rfl ⟨⟨hstate, hmode⟩, hfull.mpr hlen, hdone, hanswer⟩

end TransferEngine

/-! ### All of them agree -/

section Agreement

variable {β ω : Type} [OpenDisplayBackend β] [PanelWorld β ω]

open TransferEngine Machine

/-- On a panel of `width` by `height` pixels, everyone comes to the same size of a frame: the
device, a client that reads the config, a PIPE START in any run, and a direct END. -/
structure FrameSizeAgreed (b : β) (width height : ℕ) : Prop where
  device : (capabilities b).fullFrameBytes.toNat = frameBytes width height
  client : ∀ (icType : UInt16) (out : Buffer UInt8) (outLen : ℕ),
    let built := buildConfigBlob (capabilities b) icType out configBlobMax outLen
    built.error = .none ∧ ∃ outer dsp,
      parseOuter (built.out.upTo built.outLen) = some outer ∧
      outer.packets.getLast?.bind (fun p => DisplayConfig.parse p.payload) = some dsp ∧
      dsp.clientFrameBytes = frameBytes width height
  pipeStart : ∀ (transferMs refreshMs : UInt32) (ops : List (EngineOp ω)) (p : Payload)
    (nowMs : UInt32) (h : StartHeader),
    let e := exec step (init b transferMs refreshMs) ops
    e.hwOwned = false → StartHeader.ofBytes p.bytes = some h → h.WellFormed →
      ((e.onPipeStart p nowMs).1.response.bytes ≠
        [0xFF, 0x80, odErrPipeStartSizeMismatch, 0x00] ↔ h.totalSize = frameBytes width height)
  directEnd : ∀ (transferMs refreshMs : UInt32) (ops : List (EngineOp ω)) (p : Payload)
    (nowMs : UInt32),
    let s := exec tracked ({}, init b transferMs refreshMs) ops
    (s.2.onDirectEnd p nowMs).1.response = encodeAck cmdDirectWriteEnd ↔
      (s.2.txn.state = .receiving ∧ s.2.txn.mode = .direct) ∧
        s.1.size = frameBytes width height ∧ (beginRefresh s.2.backend {}).1 = .ok

/-- A backend that states a geometry, and has nothing to do at the end of a frame, agrees with
its clients. -/
lemma frameSizeAgreed_of_geometry [FixedCapabilities β] {b : β} {width height : ℕ}
    (hgeometry : MonoPanel.Geometry (capabilities b))
    (hwidth : (capabilities b).width.toNat = width)
    (hheight : (capabilities b).height.toNat = height)
    (hmode : (capabilities b).supportsDirectWrite = true)
    (hfinish : ∀ b : β, finishFrame b = (.ok, b)) : FrameSizeAgreed b width height := by
  have hdevice := hgeometry.toNat_fullFrameBytes
  rw [hwidth, hheight] at hdevice
  refine ⟨hdevice, fun icType out outLen => ?_, fun transferMs refreshMs ops p nowMs h => ?_,
    fun transferMs refreshMs ops p nowMs => ?_⟩
  · have hnone : (buildConfigBlob (capabilities b) icType out configBlobMax outLen).error = .none :=
      buildConfigBlob_error icType out outLen hgeometry.width_ne hgeometry.height_ne
        hgeometry.fullFrameBytes_ne hmode (by decide)
    obtain ⟨outer, hconfig⟩ := (config_blob_decodes _ _ _ _ _).1 hnone
    obtain ⟨dsp, hdsp, hdescribes⟩ := hconfig.display
    refine ⟨hnone, outer, dsp, hconfig.parses, hdsp, ?_⟩
    rw [DisplayConfig.clientFrameBytes, hdescribes.width_eq, hdescribes.height_eq, hwidth, hheight]
  · intro e hfree hheader hwell
    have hcaps : capabilities e.backend = capabilities b :=
      exec_invariant (I := fun e : TransferEngine β => capabilities e.backend = capabilities b)
        (fun _ op h => step_backend (FixedCapabilities.fixed (capabilities b)) h op) rfl ops
    have hfull : e.panelFrameBytes = frameBytes width height := by
      rw [panelFrameBytes, hcaps, hdevice]
    rw [Ne, sizeMismatch_iff hfree hheader hwell, hfull, not_not]
  · intro s
    have hled : Ledger s.1 s.2 := ledger_exec (ledger_init {} b transferMs refreshMs) ops
    have hsized : Sized (capabilities b) s.1 s.2 :=
      exec_invariant (I := fun s : Transfer × TransferEngine β => Sized (capabilities b) s.1 s.2)
        (fun _ op h => h.step op) ⟨rfl, fun hne => absurd rfl hne⟩ ops
    rw [directEnd_iff hled hsized, hfinish, hdevice]
    simp

end Agreement

/-- **Device and client agree on the size of a frame.** -/
theorem frame_size_agreed {δ : Type} [DisplayDriver δ] {d : δ} {width height : ℕ}
    (hwidth : DisplayDriver.nativeWidth d = width)
    (hheight : DisplayDriver.nativeHeight d = height) (width_le : width ≤ 65535)
    (height_le : height ≤ 65535) :
    (∀ b₀ b : EpaperSPIBackend δ, b₀.display = some d → b₀.init = some b →
      FrameSizeAgreed b width height) ∧
    ∀ b₀ b : IT8951Backend δ, b₀.display = some d → b₀.init = some b →
      FrameSizeAgreed b width height := by
  refine ⟨fun b₀ b hd hinit => ?_, fun b₀ b hd hinit => ?_⟩
  all_goals
    obtain ⟨caps, hcaps, rfl⟩ := Option.map_eq_some_iff.mp hinit
    have hgeometry := MonoPanel.geometry_of_initCaps hcaps
    rw [hd] at hcaps
    obtain ⟨hw, hh, hmode⟩ := MonoPanel.size_of_initCaps hcaps hwidth hheight (by omega) (by omega)
    exact frameSizeAgreed_of_geometry hgeometry hw hh hmode fun _ => rfl

/-- What `init` states for the largest panel. -/
def largestCaps : DisplayCapabilities where
  width := 65535
  height := 65535
  rowStrideBytes := 8192
  fullFrameBytes := 536862720
  byteAlignment := 1
  maxContiguousWrite := 536862720
  supportsFullRefresh := true
  supportsDirectWrite := true
  supportsPipeWrite := true

/-- The largest panel: the 16 bits of the stride and the 32 bits of the frame hold it. -/
theorem frame_size_agreed_largest :
    FrameSizeAgreed (EpaperSPIBackend.mk (some (ScriptedDriver.mk 65535 65535 true)) largestCaps
      false) 65535 65535 ∧
    FrameSizeAgreed (IT8951Backend.mk (some (ScriptedDriver.mk 65535 65535 true)) largestCaps 0 0)
      65535 65535 :=
  ⟨(frame_size_agreed (d := ScriptedDriver.mk 65535 65535 true) rfl rfl (by decide) (by decide)).1
      ⟨some ⟨65535, 65535, true⟩, {}, false⟩ _ rfl rfl,
    (frame_size_agreed (d := ScriptedDriver.mk 65535 65535 true) rfl rfl (by decide) (by decide)).2
      ⟨some ⟨65535, 65535, true⟩, {}, 0, 0⟩ _ rfl rfl⟩

end OpenDisplay
