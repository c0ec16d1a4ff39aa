import OpenDisplay.Engine.Ownership
import OpenDisplay.Backend.EpaperSPI
import OpenDisplay.Backend.IT8951

/-!
# When a panel that is done is given back

The two mono panels in the light of `PanelOwned`.  The ePaper panel gives evidence of a
refresh by `refreshStarted`, the IT8951 by a settle deadline that is not `0`.  A refresh
that is abandoned takes either away, and then a driver that is idle again is never seen
to be: the panel stays ours for good.  The IT8951 loses a refresh in one more way, when
the deadline that it computes happens to be `0`.
-/

namespace OpenDisplay

open OpenDisplayBackend

/-! ### The ePaper panel -/

namespace EpaperSPIBackend

variable {δ : Type} [DisplayDriver δ] {b : EpaperSPIBackend δ}

/-- There is a driver and it is idle. -/
def driverIdle (b : EpaperSPIBackend δ) : Bool := b.display.any DisplayDriver.isIdle

/-- There is no driver or it has failed. -/
def driverFailed (b : EpaperSPIBackend δ) : Bool := b.display.all DisplayDriver.isFailed

lemma pollRefresh_of_pending (h : (b.pollRefresh).1 = .pending) : (b.pollRefresh).2 = b := by
  rw [pollRefresh] at h ⊢
  rcases hdisplay : b.display with _ | d
  · simp [hdisplay] at h
  · simp only [hdisplay] at h ⊢
    split_ifs at h ⊢ <;> rfl

/-- The flag is the evidence. -/
lemma refreshEvidence :
    RefreshEvidence (fun _ b : EpaperSPIBackend δ => b.refreshStarted = true)
      (fun b => b.refreshStarted = false) where
  begun := by
    intro b r h
    change (beginRefresh b r).2.refreshStarted = true
    change (beginRefresh b r).1 = .ok at h
    rw [beginRefresh] at h ⊢
    split at h
    · cases h
    · dsimp only at h ⊢
      split_ifs at h ⊢
      rfl
  polled := by
    intro b₀ b h hpoll
    change (pollRefresh b).2.refreshStarted = true
    rw [pollRefresh_of_pending hpoll]
    exact h
  happened _ h := h
  aborted _ := rfl
  spent_polled := by
    intro b h hpoll
    change (pollRefresh b).2.refreshStarted = false
    rw [pollRefresh_of_pending hpoll]
    exact h
  spent_happened _ h := h

/-- An idle driver is seen to be idle if the refresh is known to be under way. -/
lemma pollRefresh_ne_pending_iff (hidle : b.driverIdle = true) :
    (pollRefresh b).1 ≠ .pending ↔ b.refreshStarted = true ∨ b.driverFailed = true := by
  rcases hdisplay : b.display with _ | d
  · simp [driverIdle, hdisplay] at hidle
  · have hi : DisplayDriver.isIdle d = true := by simpa [driverIdle, hdisplay] using hidle
    rw [pollRefresh]
    simp only [driverFailed, hdisplay, hi, Option.all_some]
    rcases hf : DisplayDriver.isFailed d <;> rcases hs : b.refreshStarted <;> simp

end EpaperSPIBackend

/-! ### The IT8951 panel -/

namespace IT8951Backend

variable {δ : Type} [DisplayDriver δ] {b : IT8951Backend δ}

/-- There is no driver or it has failed. -/
def driverFailed (b : IT8951Backend δ) : Bool := b.display.all DisplayDriver.isFailed

/-- The settle deadline of a refresh that began at `clock`. -/
def settleDeadline (clock : ℕ) : UInt32 := UInt32.ofNat clock + it8951RefreshSettleMs

lemma settleDeadline_eq (clock : ℕ) : settleDeadline clock = UInt32.ofNat (clock + 5000) := by
  rw [settleDeadline, UInt32.ofNat_add]; rfl

lemma settleDeadline_eq_zero_iff (clock : ℕ) :
    settleDeadline clock = 0 ↔ (clock + 5000) % 2 ^ 32 = 0 := by
  rw [settleDeadline_eq, ← UInt32.toNat_inj, UInt32.toNat_ofNat']
  rfl

lemma pollRefresh_of_pending (h : (b.pollRefresh).1 = .pending) : (b.pollRefresh).2 = b := by
  rw [pollRefresh] at h ⊢
  rcases hdisplay : b.display with _ | d
  · simp [hdisplay] at h
  · simp only [hdisplay] at h ⊢
    split_ifs at h ⊢ <;> rfl

/-- The deadline is the evidence. -/
lemma refreshEvidence :
    RefreshEvidence
      (fun b₀ b : IT8951Backend δ => b.refreshSettleDeadlineMs = settleDeadline b₀.clock)
      (fun b => b.refreshSettleDeadlineMs = 0) where
  begun := by
    intro b r h
    change (beginRefresh b r).2.refreshSettleDeadlineMs = settleDeadline (beginRefresh b r).2.clock
    change (beginRefresh b r).1 = .ok at h
    rw [beginRefresh] at h ⊢
    split at h
    · cases h
    · split_ifs at h ⊢
      rfl
  polled := by
    intro b₀ b h hpoll
    change (pollRefresh b).2.refreshSettleDeadlineMs = _
    rw [pollRefresh_of_pending hpoll]
    exact h
  happened := by
    intro b₀ b w h
    cases w <;> exact h
  aborted _ := rfl
  spent_polled := by
    intro b h hpoll
    change (pollRefresh b).2.refreshSettleDeadlineMs = 0
    rw [pollRefresh_of_pending hpoll]
    exact h
  spent_happened := by
    intro b w h
    cases w <;> exact h

/-- A poll without a settle deadline is pending, unless the driver has failed. -/
lemma pollRefresh_ne_pending_of_zero (h : b.refreshSettleDeadlineMs = 0) :
    (pollRefresh b).1 ≠ .pending ↔ b.driverFailed = true := by
  rw [pollRefresh, driverFailed]
  rcases b.display with _ | d
  · simp
  · rcases hf : DisplayDriver.isFailed d <;> simp [hf, h]

/-- After the settle time a poll is not pending, unless the deadline is `0`. -/
lemma pollRefresh_ne_pending_of_settled {began : ℕ}
    (h : b.refreshSettleDeadlineMs = settleDeadline began) (hsettled : began + 5000 ≤ b.clock)
    (hrange : b.clock < began + 2 ^ 31) :
    (pollRefresh b).1 ≠ .pending ↔ settleDeadline began ≠ 0 ∨ b.driverFailed = true := by
  rcases eq_or_ne (settleDeadline began) 0 with hzero | hzero
  · rw [pollRefresh_ne_pending_of_zero (h.trans hzero)]
    simp [hzero]
  · have hpast : 0 ≤ (b.millis - b.refreshSettleDeadlineMs).toInt32 := by
      rw [h, settleDeadline_eq]
      exact (Words.zero_le_toInt32_sub_iff (by omega) (by omega)).mpr hsettled
    rw [pollRefresh, driverFailed]
    rcases b.display with _ | d
    · simp
    · dsimp only
      rw [if_neg (h.trans_ne hzero), if_pos hpast]
      rcases hf : DisplayDriver.isFailed d <;> simp [hf, hzero]

end IT8951Backend

namespace TransferEngine

variable {δ : Type} [DisplayDriver δ]

/-- The state that an engine on an ePaper panel reaches from boot. -/
def epaperRun (display : Option δ) (caps : DisplayCapabilities) (transferMs refreshMs : UInt32)
    (ops : List (EngineOp (δ → δ))) :
    RefreshHistory (EpaperSPIBackend δ) × TransferEngine (EpaperSPIBackend δ) :=
  let b : EpaperSPIBackend δ := { display := display, caps := caps }
  Machine.exec refreshTracked ({ started := b }, init b transferMs refreshMs) ops

/-- The state that an engine on an IT8951 panel reaches when the HAL shows `boot` at
first. -/
def it8951Run (display : Option δ) (caps : DisplayCapabilities) (boot : ℕ)
    (transferMs refreshMs : UInt32) (ops : List (EngineOp (IT8951Event δ))) :
    RefreshHistory (IT8951Backend δ) × TransferEngine (IT8951Backend δ) :=
  let b : IT8951Backend δ := { display := display, caps := caps, clock := boot }
  Machine.exec refreshTracked ({ started := b }, init b transferMs refreshMs) ops

/-- **When a panel that is done is given back.**  In every state of every run, a panel
that is ours and whose driver is idle again is given back by the next tick exactly when
its refresh has not been abandoned, or the driver has failed; and so is an IT8951 that
has had its settle time, if its settle deadline is not `0` by chance. -/
theorem givesBack_iff_notAbandoned (display : Option δ) (caps : DisplayCapabilities)
    (boot : ℕ) (transferMs refreshMs now : UInt32) :
    (∀ ops s, s = epaperRun display caps transferMs refreshMs ops →
      s.2.hwOwned = true → s.2.backend.driverIdle = true →
        (s.2.GivesBack now ↔ s.1.abandoned = false ∨ s.2.backend.driverFailed = true)) ∧
    (∀ ops s, s = it8951Run display caps boot transferMs refreshMs ops →
      s.2.hwOwned = true → s.1.started.clock + 5000 ≤ s.2.backend.clock →
        s.2.backend.clock < s.1.started.clock + 2 ^ 31 →
        (s.2.GivesBack now ↔
          s.1.abandoned = false ∧ (s.1.started.clock + 5000) % 2 ^ 32 ≠ 0 ∨
            s.2.backend.driverFailed = true)) := by
  refine ⟨fun ops s hs hw hidle => ?_, fun ops s hs hw hsettled hrange => ?_⟩
  · have hown : PanelOwned (fun _ b => b.refreshStarted = true)
        (fun b => b.refreshStarted = false) s.1 s.2 := by
      rw [hs] at hw ⊢
      exact panelOwned_exec EpaperSPIBackend.refreshEvidence _ transferMs refreshMs ops hw
    rw [givesBack_iff hw]
    refine (EpaperSPIBackend.pollRefresh_ne_pending_iff hidle).trans ?_
    cases hown with
    | refreshing hlive _ hflight => exact iff_of_true (Or.inl hflight) (Or.inl hlive)
    | abandoned hlost _ hspent => simp [hlost, hspent]
  · have hown : PanelOwned
        (fun b₀ b => b.refreshSettleDeadlineMs = IT8951Backend.settleDeadline b₀.clock)
        (fun b => b.refreshSettleDeadlineMs = 0) s.1 s.2 := by
      rw [hs] at hw ⊢
      exact panelOwned_exec IT8951Backend.refreshEvidence _ transferMs refreshMs ops hw
    rw [givesBack_iff hw]
    cases hown with
    | refreshing hlive _ hflight =>
        refine (IT8951Backend.pollRefresh_ne_pending_of_settled hflight hsettled hrange).trans ?_
        rw [Ne, IT8951Backend.settleDeadline_eq_zero_iff, and_iff_right hlive]
    | abandoned hlost _ hspent =>
        refine (IT8951Backend.pollRefresh_ne_pending_of_zero hspent).trans ?_
        simp [hlost]

/-! ### A driver -/

/-- A driver that is busy from `update` on, until something makes it idle. -/
structure BusyDriver where
  busy : Bool
deriving DecidableEq

instance : DisplayDriver BusyDriver where
  isFailed _ := false
  isIdle d := !d.busy
  rotation _ := .degrees0
  nativeWidth _ := 8
  nativeHeight _ := 1
  update _ := ⟨true⟩
  drawPixelAt d _ _ _ := d

/-- What `init` states for it. -/
def busyDriverCaps : DisplayCapabilities :=
  { width := 8, height := 1, rowStrideBytes := 1, fullFrameBytes := 1, maxContiguousWrite := 1
    supportsDirectWrite := true, supportsPipeWrite := true }

example : MonoPanel.initCaps (some (⟨false⟩ : BusyDriver)) {} = some busyDriverCaps := by decide

/-- A direct transfer of the one byte of its frame. -/
def busyDriverTransfer {ω : Type} : List (EngineOp ω) :=
  [.directStart (.ofBytes []) 0, .directData (.ofBytes [0xFF]) 1, .directEnd (.ofBytes []) 2]

/-- A refresh that runs its course gives the panel back, on both panels. -/
theorem givesBack_directTransfer :
    (epaperRun (some (⟨false⟩ : BusyDriver)) busyDriverCaps 30000 180000
        (busyDriverTransfer ++ [.world fun _ => ⟨false⟩])).2.GivesBack 9 ∧
      (it8951Run (some (⟨false⟩ : BusyDriver)) busyDriverCaps 0 30000 180000
        (busyDriverTransfer ++ [.world (.elapse 5000)])).2.GivesBack 9 := by
  have h := givesBack_iff_notAbandoned (some (⟨false⟩ : BusyDriver)) busyDriverCaps 0 30000
    180000 9
  constructor
  · exact (h.1 _ _ rfl (by decide) (by decide)).mpr (Or.inl (by decide))
  · exact (h.2 _ _ rfl (by decide) (by decide) (by decide)).mpr (Or.inl (by decide))

/-- An abort while the panel refreshes leaves it ours, and when the driver is idle again
the tick does not give it back. -/
theorem stuck_abandonedRefresh :
    let e := (epaperRun (some (⟨false⟩ : BusyDriver)) busyDriverCaps 30000 180000
      (busyDriverTransfer ++ [.abort .invalidState, .world fun _ => ⟨false⟩])).2
    e.hwOwned = true ∧ e.backend.driverIdle = true ∧ ¬ e.GivesBack 9 := by
  refine ⟨by decide, by decide, fun h => ?_⟩
  exact absurd h.1 (by decide)

end TransferEngine

end OpenDisplay
