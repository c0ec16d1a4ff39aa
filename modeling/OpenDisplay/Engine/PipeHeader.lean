import OpenDisplay.Engine.Outcome
import OpenDisplay.Backend.Scripted

/-!
# What a PIPE START asks for, and what it is told

The header of a `0x0080` as the protocol describes it: six numbers at fixed places, the last
two of them little-endian.  A parser and two functions of the engine decide on it; together
they accept exactly the headers that are well formed and name the size of the frame, and
tell every other one which part of it is wrong.
-/

namespace OpenDisplay

open OpenDisplayBackend

/-! ### The header on the wire -/

/-- The fields of a header. -/
structure StartHeader where
  version : ℕ
  flags : ℕ
  reqWindow : ℕ
  reqAckEvery : ℕ
  clientMaxFrame : ℕ
  totalSize : ℕ
deriving DecidableEq

/-- The header at the front of a payload, whatever comes behind it. -/
def StartHeader.ofBytes : List UInt8 → Option StartHeader
  | v :: f :: w :: a :: m₀ :: m₁ :: t₀ :: t₁ :: t₂ :: t₃ :: _ =>
      some {
        version := v.toNat
        flags := f.toNat
        reqWindow := w.toNat
        reqAckEvery := a.toNat
        clientMaxFrame := m₀.toNat + 256 * m₁.toNat
        totalSize := t₀.toNat + 256 * t₁.toNat + 65536 * t₂.toNat + 16777216 * t₃.toNat }
  | _ => none

/-- A header that asks for what the device has: the version of the protocol, no flag, and a
window and a cadence within the limits. -/
structure StartHeader.WellFormed (h : StartHeader) : Prop where
  version_eq : h.version = pipeVersion.toNat
  flags_eq : h.flags = 0
  window_mem : 1 ≤ h.reqWindow ∧ h.reqWindow ≤ 32
  ackEvery_mem : 1 ≤ h.reqAckEvery ∧ h.reqAckEvery ≤ 32

/-- The errors that the protocol defines for a `0x0080`. -/
def pipeStartErrors : List UInt8 := [0x01, 0x02, 0x03, 0x05, 0x06, 0x07]

/-- Flags without an unknown one and without the partial one. -/
lemma flags_of_known {flags : UInt8}
    (hknown : flags &&& ~~~(pipeFlagCompressed ||| pipeFlagPartial) = 0)
    (hwhole : flags &&& pipeFlagPartial = 0) : flags = 0 ∨ flags = pipeFlagCompressed := by
  have hall : ∀ n : Fin 256,
      UInt8.ofNat n &&& ~~~(pipeFlagCompressed ||| pipeFlagPartial) = 0 →
        UInt8.ofNat n &&& pipeFlagPartial = 0 →
          UInt8.ofNat n = 0 ∨ UInt8.ofNat n = pipeFlagCompressed := by decide +kernel
  have hflags := hall ⟨flags.toNat, flags.toNat_lt⟩
  simp only [UInt8.ofNat_toNat] at hflags
  exact hflags hknown hwhole

/-- The header that the parser reads. -/
lemma ofBytes_bytes {p : Payload} (hlen : 10 ≤ p.len) :
    StartHeader.ofBytes p.bytes = some {
      version := (p.read 0).toNat
      flags := (p.read 1).toNat
      reqWindow := (p.read 2).toNat
      reqAckEvery := (p.read 3).toNat
      clientMaxFrame := (getU16Le (p.read 4) (p.read 5)).toNat
      totalSize := (getU32Le (p.read 6) (p.read 7) (p.read 8) (p.read 9)).toNat } := by
  have hread : ∀ i < 10, p.bytes[i]? = some (p.read i) := fun i hi =>
    Payload.getElem?_bytes (by omega)
  have hbytes : 10 ≤ p.bytes.length := by rwa [p.length_bytes]
  rcases hb : p.bytes with _ | ⟨v, _ | ⟨f, _ | ⟨w, _ | ⟨a, _ | ⟨m₀, _ | ⟨m₁, _ | ⟨t₀, _ | ⟨t₁,
    _ | ⟨t₂, _ | ⟨t₃, rest⟩⟩⟩⟩⟩⟩⟩⟩⟩⟩ <;> rw [hb] at hbytes
  case cons.cons.cons.cons.cons.cons.cons.cons.cons.cons =>
    rw [hb] at hread
    obtain rfl := Option.some.inj (hread 0 (by decide))
    obtain rfl := Option.some.inj (hread 1 (by decide))
    obtain rfl := Option.some.inj (hread 2 (by decide))
    obtain rfl := Option.some.inj (hread 3 (by decide))
    obtain rfl := Option.some.inj (hread 4 (by decide))
    obtain rfl := Option.some.inj (hread 5 (by decide))
    obtain rfl := Option.some.inj (hread 6 (by decide))
    obtain rfl := Option.some.inj (hread 7 (by decide))
    obtain rfl := Option.some.inj (hread 8 (by decide))
    obtain rfl := Option.some.inj (hread 9 (by decide))
    rw [toNat_getU16Le, toNat_getU32Le]
    rfl
  all_goals
    simp only [List.length_cons, List.length_nil] at hbytes
    omega

/-- What the parser makes of a payload that carries a whole header. -/
inductive ParseVerdict (p : Payload) (h : StartHeader) : Prop
  | wrong (code : UInt8) (hparse : parsePipeStart p = .error code)
      (hcode : code = odErrPipeStartBadHeader ∨ code = odErrPipeStartUnknownFlag ∨
        code = odErrPipeStartPartialUnsupported) (hill : ¬ h.WellFormed)
  /-- left to the engine -/
  | compressed (req : PipeStartRequest) (hparse : parsePipeStart p = .ok req)
      (hflags : req.flags = pipeFlagCompressed) (hill : ¬ h.WellFormed)
  | wellFormed (req : PipeStartRequest) (hparse : parsePipeStart p = .ok req)
      (hflags : req.flags = 0) (hwell : h.WellFormed)
      (hwindow : h.reqWindow = req.reqWindow.toNat)
      (hackEvery : h.reqAckEvery = req.reqAckEvery.toNat)
      (hmaxFrame : h.clientMaxFrame = req.clientMaxFrame.toNat)
      (htotal : h.totalSize = req.totalSize.toNat)

lemma parseVerdict {p : Payload} (hlen : 10 ≤ p.len) {h : StartHeader}
    (hheader : StartHeader.ofBytes p.bytes = some h) : ParseVerdict p h := by
  rw [ofBytes_bytes hlen] at hheader
  obtain rfl := Option.some.inj hheader
  have hnull : (p.isNull || decide (p.len < 8)) = false := by
    have hslot : p.slot ≠ [] := by
      intro hs
      have hle := p.len_le
      rw [hs, List.length_nil] at hle
      omega
    simp [Payload.isNull, hslot]
    omega
  -- no flag means that none of the two flag tests is met
  have hzero : (p.read 1).toNat = 0 → p.read 1 = 0 := fun h0 => UInt8.toNat_inj.mp h0
  rcases hparse : parsePipeStart p with code | req
  · have hread := hparse
    rw [parsePipeStart, if_neg (by rw [hnull]; decide)] at hread
    dsimp only at hread
    split_ifs at hread with hversion hflags hwhole _ hlimits
    all_goals obtain rfl := Except.error.inj hread
    · exact .wrong _ hparse (Or.inl rfl) fun h =>
        hversion (UInt8.toNat_inj.mp h.version_eq)
    · exact .wrong _ hparse (Or.inr (Or.inl rfl)) fun h =>
        hflags (by rw [hzero h.flags_eq]; rfl)
    · exact .wrong _ hparse (Or.inl rfl) fun h =>
        hwhole (by rw [hzero h.flags_eq]; rfl)
    · exact .wrong _ hparse (Or.inr (Or.inr rfl)) fun h =>
        hwhole (by rw [hzero h.flags_eq]; rfl)
    · exact .wrong _ hparse (Or.inl rfl) fun h => by
        have hw := h.window_mem
        have ha := h.ackEvery_mem
        have hlo : pipeWindowLimitLo.toNat = 1 := rfl
        have hhi : pipeWindowLimitHi.toNat = 32 := rfl
        simp only [gt_iff_lt, UInt8.lt_iff_toNat_lt] at hlimits
        dsimp only at hw ha
        omega
  · have hlimits := limits_of_parsePipeStart hparse
    have hread := hparse
    rw [parsePipeStart, if_neg (by rw [hnull]; decide)] at hread
    dsimp only at hread
    split_ifs at hread with hversion hflags hwhole _
    obtain rfl := Except.ok.inj hread
    simp only [not_not] at hversion hflags hwhole
    simp only [UInt8.le_iff_toNat_le] at hlimits
    rcases flags_of_known hflags hwhole with hnone | hcompressed
    · exact .wellFormed _ hparse hnone
        ⟨congrArg UInt8.toNat hversion, congrArg UInt8.toNat hnone, hlimits.1, hlimits.2⟩
        rfl rfl rfl rfl
    · refine .compressed _ hparse hcompressed fun h => ?_
      exact absurd ((hzero h.flags_eq).symm.trans hcompressed) (by decide)

namespace TransferEngine

variable {β ω : Type} [OpenDisplayBackend β] [PanelWorld β ω] {e : TransferEngine β}

/-- The bytes of a frame, as the panel states them. -/
def panelFrameBytes (e : TransferEngine β) : ℕ := (capabilities e.backend).fullFrameBytes.toNat

lemma capabilities_cleared [FixedCapabilities β] (e : TransferEngine β) :
    capabilities e.cleared.backend = capabilities e.backend :=
  cleared_backend (FixedCapabilities.fixed (capabilities e.backend)).toQuietInvariant rfl

/-- What a `0x0080` with the header `h` is told: when it is accepted, by which answer, and
by which error otherwise. -/
structure StartVerdict (e : TransferEngine β) (p : Payload) (nowMs : UInt32) (h : StartHeader) :
    Prop where
  accepted_iff : (e.onPipeStart p nowMs).1.transferStarted = true ↔
    h.WellFormed ∧ h.totalSize = e.panelFrameBytes
  answer : (e.onPipeStart p nowMs).1.transferStarted = true →
    (e.onPipeStart p nowMs).2.PipeReceiving ∧
    ∃ window ackEvery frame₀ frame₁ : UInt8,
      (e.onPipeStart p nowMs).1.response.bytes =
        [0x00, 0x80, pipeVersion, window, ackEvery, frame₀, frame₁, 0x00] ∧
      window.toNat = min h.reqWindow 16 ∧ ackEvery.toNat = min h.reqAckEvery 4 ∧
      frame₀.toNat + 256 * frame₁.toNat = min h.clientMaxFrame 244
  refusal : (e.onPipeStart p nowMs).1.transferStarted = false →
    ∃ code ∈ pipeStartErrors,
      (e.onPipeStart p nowMs).1.response.bytes = [0xFF, 0x80, code, 0x00] ∧
      (code = odErrPipeStartSizeMismatch ↔ h.WellFormed ∧ h.totalSize ≠ e.panelFrameBytes) ∧
      (code ≠ odErrPipeStartSizeMismatch → (e.onPipeStart p nowMs).2.txn = e.txn)

/-- A refusal that leaves the transaction alone. -/
lemma startVerdict_of_unchanged {p : Payload} {nowMs : UInt32} {h : StartHeader}
    (hill : ¬ h.WellFormed) {code : UInt8} (hmem : code ∈ pipeStartErrors)
    (hcode : code ≠ odErrPipeStartSizeMismatch)
    (hres : (e.onPipeStart p nowMs).1 = fault (encodeNackErr cmdPipeWriteStart code))
    (htxn : (e.onPipeStart p nowMs).2.txn = e.txn) : StartVerdict e p nowMs h where
  accepted_iff := by
    rw [hres]
    exact iff_of_false Bool.false_ne_true fun hok => hill hok.1
  answer hstarted := by
    rw [hres] at hstarted
    cases hstarted
  refusal _ := by
    refine ⟨code, hmem, by rw [hres]; rfl, iff_of_false hcode fun hok => hill hok.1, fun _ => htxn⟩

/-- What an uncompressed request meets on a panel that nobody owns: it names the size of the
frame or not, and the panel takes the frame or not. -/
inductive FreeStartOutcome (e : TransferEngine β) (req : PipeStartRequest) :
    EngineResult → TransferEngine β → Prop
  | sizeMismatch (e₁ : TransferEngine β)
      (hsize : req.totalSize ≠ (capabilities e.backend).fullFrameBytes) :
      FreeStartOutcome e req
        (fault (encodeNackErr cmdPipeWriteStart odErrPipeStartSizeMismatch)) e₁
  | beginFailed (e₁ : TransferEngine β)
      (hsize : req.totalSize = (capabilities e.backend).fullFrameBytes)
      (hanswer : (beginFrame e.cleared.backend (fullFrame (capabilities e.backend))).1 ≠ .ok) :
      FreeStartOutcome e req (fault (encodeNackErr cmdPipeWriteStart odErrPipeStartBadHeader)) e₁
  | started (e₁ : TransferEngine β) (hplace : e₁.PipeReceiving)
      (hsize : req.totalSize = (capabilities e.backend).fullFrameBytes)
      (window ackEvery : UInt8) (frame : UInt16)
      (hwindow : window = if req.reqWindow < pipeMaxWindow then req.reqWindow else pipeMaxWindow)
      (hackEvery : ackEvery =
        if req.reqAckEvery < pipeMaxAckEvery then req.reqAckEvery else pipeMaxAckEvery)
      (hframe : frame =
        if req.clientMaxFrame < pipeMaxFrame then req.clientMaxFrame else pipeMaxFrame) :
      FreeStartOutcome e req
        { response := encodePipeStartResponse window ackEvery frame 0x00
          transferStarted := true } e₁

lemma onPipeStart_freeOutcome [FixedCapabilities β] {p : Payload} (nowMs : UInt32)
    (hfree : e.hwOwned = false) {req : PipeStartRequest} (hparse : parsePipeStart p = .ok req)
    (hflags : req.flags = 0) :
    FreeStartOutcome e req (e.onPipeStart p nowMs).1 (e.onPipeStart p nowMs).2 := by
  have ho := onPipeStart_outcome e p nowMs
  generalize (e.onPipeStart p nowMs).1 = res, (e.onPipeStart p nowMs).2 = e₁ at ho ⊢
  cases ho with
  | badHeader _ hparse' => rw [hparse] at hparse'; cases hparse'
  | compressed req' hparse' hflag =>
      rw [hparse] at hparse'
      obtain rfl := Except.ok.inj hparse'
      rw [hflags] at hflag
      exact absurd rfl hflag
  | refused req' hparse' _ why e₂ hrefused =>
      rw [hparse] at hparse'
      obtain rfl := Except.ok.inj hparse'
      cases hrefused with
      | busy hw => rw [hfree] at hw; cases hw
      | sizeMismatch _ hsize =>
          rw [capabilities_cleared] at hsize
          exact .sizeMismatch _ hsize
      | beginFailed _ hsize frame hframe hanswer =>
          rw [capabilities_cleared] at hsize hframe
          rw [hsize] at hframe
          subst hframe
          exact .beginFailed _ hsize hanswer
  | started req' hparse' _ e₂ hopened window ackEvery frame hwindow hackEvery hframe =>
      rw [hparse] at hparse'
      obtain rfl := Except.ok.inj hparse'
      cases hopened with
      | opened _ hsize =>
          rw [capabilities_cleared] at hsize
          exact .started _ ⟨rfl, rfl⟩ hsize window ackEvery frame hwindow hackEvery hframe

/-- A well-formed header is accepted exactly when it names the size of the frame. -/
lemma startVerdict_of_wellFormed [FixedCapabilities β] {p : Payload} {nowMs : UInt32}
    {h : StartHeader} (hfree : e.hwOwned = false)
    (hbegin : (beginFrame e.cleared.backend (fullFrame (capabilities e.backend))).1 = .ok)
    {req : PipeStartRequest} (hparse : parsePipeStart p = .ok req) (hflags : req.flags = 0)
    (hwell : h.WellFormed) (hwindow : h.reqWindow = req.reqWindow.toNat)
    (hackEvery : h.reqAckEvery = req.reqAckEvery.toNat)
    (hmaxFrame : h.clientMaxFrame = req.clientMaxFrame.toNat)
    (htotal : h.totalSize = req.totalSize.toNat) : StartVerdict e p nowMs h := by
  have hsizes : h.totalSize = e.panelFrameBytes ↔
      req.totalSize = (capabilities e.backend).fullFrameBytes := by
    rw [htotal, panelFrameBytes, UInt32.toNat_inj]
  have ho := onPipeStart_freeOutcome nowMs hfree hparse hflags
  generalize hres : (e.onPipeStart p nowMs).1 = res, hnext : (e.onPipeStart p nowMs).2 = e₁ at ho
  cases ho with
  | sizeMismatch _ hsize =>
      refine ⟨?_, fun hstarted => ?_, fun _ => ?_⟩
      · rw [hres]
        exact iff_of_false Bool.false_ne_true fun hok => hsize (hsizes.mp hok.2)
      · rw [hres] at hstarted
        cases hstarted
      · rw [hres]
        exact ⟨odErrPipeStartSizeMismatch, by decide, rfl,
          iff_of_true rfl ⟨hwell, fun hok => hsize (hsizes.mp hok)⟩, fun hne => absurd rfl hne⟩
  | beginFailed _ _ hanswer => exact absurd hbegin hanswer
  | started _ hplace hsize window ackEvery frame hwindow' hackEvery' hframe' =>
      refine ⟨?_, fun _ => ?_, fun hrefused => ?_⟩
      · rw [hres]
        exact iff_of_true rfl ⟨hwell, hsizes.mpr hsize⟩
      · rw [hres, hnext]
        refine ⟨hplace, window, ackEvery, (frame &&& 0xFF).toUInt8, (frame >>> 8).toUInt8, rfl,
          ?_, ?_, ?_⟩
        · rw [hwindow', hwindow, Words.toNat_ite_lt]
          rfl
        · rw [hackEvery', hackEvery, Words.toNat_ite_lt]
          rfl
        · rw [← toNat_getU16Le, getU16Le_bytes, hframe', hmaxFrame, Words.toNat_ite_lt_word]
          rfl
      · rw [hres] at hrefused
        cases hrefused

/-- **The header of a PIPE START is decoded exactly.** -/
theorem pipeStart_verdict [FixedCapabilities β] (e : TransferEngine β) (p : Payload)
    (nowMs : UInt32) (hlen : 10 ≤ p.len) (hfree : e.hwOwned = false)
    (hbegin : (beginFrame e.cleared.backend (fullFrame (capabilities e.backend))).1 = .ok) :
    ∃ h, StartHeader.ofBytes p.bytes = some h ∧ StartVerdict e p nowMs h := by
  refine ⟨_, ofBytes_bytes hlen, ?_⟩
  cases parseVerdict hlen (ofBytes_bytes hlen) with
  | wrong code hparse hcode hill =>
      have hmem : code ∈ pipeStartErrors := by rcases hcode with rfl | rfl | rfl <;> decide
      refine startVerdict_of_unchanged hill hmem ?_ ?_ ?_
      · rcases hcode with rfl | rfl | rfl <;> decide
      · rw [onPipeStart, hparse]
      · rw [onPipeStart, hparse]
  | compressed req hparse hflags hill =>
      have hflag : req.flags &&& pipeFlagCompressed ≠ 0 := by rw [hflags]; decide
      have hmem : odErrPipeStartUnknownFlag ∈ pipeStartErrors := by decide
      refine startVerdict_of_unchanged hill hmem (by decide) ?_ ?_
      · rw [onPipeStart, hparse]
        dsimp only
        rw [if_pos hflag]
      · rw [onPipeStart, hparse]
        dsimp only
        rw [if_pos hflag]
  | wellFormed req hparse hflags hwell hwindow hackEvery hmaxFrame htotal =>
      exact startVerdict_of_wellFormed hfree hbegin hparse hflags hwell hwindow hackEvery hmaxFrame
        htotal

/-- A client that asks for more than the device gives, on a panel with a frame of three
bytes; two bytes follow the header. -/
theorem pipeStart_verdict_trailingBytes :
    ∃ h, StartHeader.ofBytes [1, 0, 32, 8, 0xFF, 0xFF, 3, 0, 0, 0, 7, 7] = some h ∧
      StartVerdict (init (ScriptedPanel.accepting 3 []) 30000 180000)
        (.ofBytes [1, 0, 32, 8, 0xFF, 0xFF, 3, 0, 0, 0, 7, 7]) 0 h :=
  pipeStart_verdict _ (.ofBytes [1, 0, 32, 8, 0xFF, 0xFF, 3, 0, 0, 0, 7, 7]) 0 (by decide) rfl rfl

end TransferEngine

end OpenDisplay
