import OpenDisplay.Backend.MonoPanel

/-!
# The ePaper SPI backend

`backend_epaper_spi.cpp`.  The driver reports when it is idle, so the end of a
refresh can be observed; `refreshStarted` says that the refresh under way is ours.
-/

namespace OpenDisplay

/-- `EpaperSPIBackend`. -/
structure EpaperSPIBackend (δ : Type) where
  display : Option δ
  caps : DisplayCapabilities
  /-- Set once `update` is seen to have driven the driver out of idle. -/
  refreshStarted : Bool := false

namespace EpaperSPIBackend

variable {δ : Type} [DisplayDriver δ]

open DisplayDriver

/-- `init`. -/
def init (b : EpaperSPIBackend δ) : Option (EpaperSPIBackend δ) :=
  (MonoPanel.initCaps b.display b.caps).map fun caps => { b with caps := caps }

/-- `begin_frame`.  The buffer is deliberately not cleared. -/
def beginFrame (b : EpaperSPIBackend δ) (frame : FrameDescriptor) :
    BackendResult × EpaperSPIBackend δ :=
  if b.display.isNone then (.deviceError, b)
  else
    match MonoPanel.checkFrame b.caps frame with
    | .ok => (.ok, { b with refreshStarted := false })
    | refusal => (refusal, b)

/-- `write_contiguous`. -/
def writeContiguous (b : EpaperSPIBackend δ) (offset : UInt32) (data : List UInt8) :
    BackendResult × EpaperSPIBackend δ :=
  let written := MonoPanel.writeContiguous b.caps b.display offset data
  (written.1, { b with display := written.2 })

/-- `finish_frame`: everything has been drawn already. -/
def finishFrame (b : EpaperSPIBackend δ) : BackendResult × EpaperSPIBackend δ := (.ok, b)

/-- `begin_refresh`.  `update` ignores a call while the driver is busy, so the driver
must be idle before and busy after. -/
def beginRefresh (b : EpaperSPIBackend δ) (_request : RefreshRequest) :
    BackendResult × EpaperSPIBackend δ :=
  match b.display with
  | none => (.deviceError, b)
  | some d =>
      let b := { b with refreshStarted := false }
      if !isIdle d then (.deviceError, b)
      else
        let d := update d
        let b := { b with display := some d }
        if isIdle d then (.deviceError, b)
        else (.ok, { b with refreshStarted := true })

/-- `poll_refresh`. -/
def pollRefresh (b : EpaperSPIBackend δ) : PollResult × EpaperSPIBackend δ :=
  match b.display with
  | none => (.failed, b)
  | some d =>
      if isFailed d then (.failed, b)
      else if !b.refreshStarted then (.pending, b)
      else if !isIdle d then (.pending, b)
      else (.complete, { b with refreshStarted := false })

/-- `abort_transfer`. -/
def abortTransfer (b : EpaperSPIBackend δ) : EpaperSPIBackend δ :=
  { b with refreshStarted := false }

instance : OpenDisplayBackend (EpaperSPIBackend δ) where
  capabilities b := b.caps
  beginFrame := beginFrame
  writeContiguous := writeContiguous
  finishFrame := finishFrame
  beginRefresh := beginRefresh
  pollRefresh := pollRefresh
  abortTransfer := abortTransfer

/-- Between two calls the driver may change in any way. -/
instance : PanelWorld (EpaperSPIBackend δ) (δ → δ) where
  happen event b := { b with display := b.display.map event }

instance : FixedCapabilities (EpaperSPIBackend δ) where
  fixed _ :=
    { beginFrame := by
        intro b f h
        change (beginFrame b f).2.caps = _
        rw [beginFrame]
        split_ifs
        · exact h
        · split <;> exact h
      writeContiguous := fun _ _ h => h
      finishFrame := fun h => h
      beginRefresh := by
        intro b r h
        change (beginRefresh b r).2.caps = _
        rw [beginRefresh]
        split
        · exact h
        · dsimp only
          split_ifs <;> exact h
      pollRefresh := by
        intro b h
        change (pollRefresh b).2.caps = _
        rw [pollRefresh]
        split
        · exact h
        · split_ifs <;> exact h
      abortTransfer := fun h => h
      happen := fun _ h => h }

end EpaperSPIBackend

end OpenDisplay
