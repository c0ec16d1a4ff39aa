import OpenDisplay.Backend.MonoPanel

/-!
# The IT8951 backend

`backend_it8951.cpp`.  The driver does not report the end of a refresh, so a fixed
settle time stands in for it.  The time is read from the HAL, which runs on its own:
the clock is part of the state, in milliseconds since boot, and `millis` is what 32
bits of it show.
-/

namespace OpenDisplay

/-- `IT8951_REFRESH_SETTLE_MS`. -/
def it8951RefreshSettleMs : UInt32 := 5000

/-- `IT8951Backend`, with the clock of the HAL. -/
structure IT8951Backend (δ : Type) where
  display : Option δ
  caps : DisplayCapabilities
  /-- `0` stands for no refresh in flight. -/
  refreshSettleDeadlineMs : UInt32 := 0
  clock : ℕ := 0

/-- What can happen between two calls: the driver changes in some way, or time passes. -/
inductive IT8951Event (δ : Type)
  | driver (event : δ → δ)
  | elapse (ms : ℕ)

namespace IT8951Backend

variable {δ : Type} [DisplayDriver δ]

open DisplayDriver

/-- `millis()`. -/
def millis (b : IT8951Backend δ) : UInt32 := UInt32.ofNat b.clock

/-- `init`. -/
def init (b : IT8951Backend δ) : Option (IT8951Backend δ) :=
  (MonoPanel.initCaps b.display b.caps).map fun caps => { b with caps := caps }

/-- `begin_frame`. -/
def beginFrame (b : IT8951Backend δ) (frame : FrameDescriptor) :
    BackendResult × IT8951Backend δ :=
  if b.display.isNone then (.deviceError, b)
  else
    match MonoPanel.checkFrame b.caps frame with
    | .ok => (.ok, { b with refreshSettleDeadlineMs := 0 })
    | refusal => (refusal, b)

/-- `write_contiguous`. -/
def writeContiguous (b : IT8951Backend δ) (offset : UInt32) (data : List UInt8) :
    BackendResult × IT8951Backend δ :=
  let written := MonoPanel.writeContiguous b.caps b.display offset data
  (written.1, { b with display := written.2 })

/-- `finish_frame`. -/
def finishFrame (b : IT8951Backend δ) : BackendResult × IT8951Backend δ := (.ok, b)

/-- `begin_refresh`. -/
def beginRefresh (b : IT8951Backend δ) (_request : RefreshRequest) :
    BackendResult × IT8951Backend δ :=
  match b.display with
  | none => (.deviceError, b)
  | some d =>
      if !isIdle d then (.deviceError, b)
      else
        (.ok, { b with
          display := some (update d)
          refreshSettleDeadlineMs := b.millis + it8951RefreshSettleMs })

/-- `poll_refresh`. -/
def pollRefresh (b : IT8951Backend δ) : PollResult × IT8951Backend δ :=
  match b.display with
  | none => (.failed, b)
  | some d =>
      if isFailed d then (.failed, b)
      else if b.refreshSettleDeadlineMs = 0 then (.pending, b)
      else if 0 ≤ (b.millis - b.refreshSettleDeadlineMs).toInt32 then
        (.complete, { b with refreshSettleDeadlineMs := 0 })
      else (.pending, b)

/-- `abort_transfer`. -/
def abortTransfer (b : IT8951Backend δ) : IT8951Backend δ :=
  { b with refreshSettleDeadlineMs := 0 }

instance : OpenDisplayBackend (IT8951Backend δ) where
  capabilities b := b.caps
  beginFrame := beginFrame
  writeContiguous := writeContiguous
  finishFrame := finishFrame
  beginRefresh := beginRefresh
  pollRefresh := pollRefresh
  abortTransfer := abortTransfer

instance : PanelWorld (IT8951Backend δ) (IT8951Event δ) where
  happen
    | .driver event, b => { b with display := b.display.map event }
    | .elapse ms, b => { b with clock := b.clock + ms }

instance : FixedCapabilities (IT8951Backend δ) where
  fixed _ :=
    { beginFrame := by
        intro b f h
        change (beginFrame b f).2.caps = _
        rw [beginFrame]
        split_ifs
        · exact h
        · split <;> exact h
      writeContiguous := fun _ _ h => h
      finishFrame := fun h => h
      beginRefresh := by
        intro b r h
        change (beginRefresh b r).2.caps = _
        rw [beginRefresh]
        split
        · exact h
        · split_ifs <;> exact h
      pollRefresh := by
        intro b h
        change (pollRefresh b).2.caps = _
        rw [pollRefresh]
        split
        · exact h
        · split_ifs <;> exact h
      abortTransfer := fun h => h
      happen := by
        intro b w h
        cases w <;> exact h }

end IT8951Backend

end OpenDisplay
