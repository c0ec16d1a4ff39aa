import OpenDisplay.Backend.Rendering

/-!
# What a panel is made to show

The drivers are not part of the component.  What the adapters rely on is that a driver keeps
a frame buffer, that `draw_pixel_at` writes one pixel of it, and that an `update` which the
driver takes makes the panel show the buffer as it is (`PaintsOn`).  For any driver of which
this holds, both adapters do the same to its screen.  They never clear the buffer, so that it
holds what earlier transfers have left until a frame covers it.
-/

namespace OpenDisplay

open DisplayDriver

/-! ### Pictures -/

/-- The colour of the pixel in each column and row. -/
abbrev Picture : Type := ℕ → ℕ → Color

namespace Picture

/-- One call of `draw_pixel_at`. -/
def draw (p : Picture) (call : PixelCall) : Picture := fun x y =>
  if (x, y) = call.pos then call.color else p x y

/-- Call after call. -/
def drawAll (p : Picture) (calls : List PixelCall) : Picture := calls.foldl draw p

@[simp] lemma drawAll_nil (p : Picture) : p.drawAll [] = p := rfl

lemma drawAll_append (p : Picture) (calls more : List PixelCall) :
    p.drawAll (calls ++ more) = (p.drawAll calls).drawAll more := List.foldl_append

/-- A pixel at which nothing is drawn. -/
lemma drawAll_of_not_mem (p : Picture) {calls : List PixelCall} {x y : ℕ}
    (h : (x, y) ∉ calls.map PixelCall.pos) : p.drawAll calls x y = p x y := by
  induction calls generalizing p with
  | nil => rfl
  | cons call calls ih =>
      rw [List.map_cons, List.mem_cons, not_or] at h
      have hrest : (p.draw call).drawAll calls x y = p.draw call x y := ih _ h.2
      exact hrest.trans (if_neg h.1)

/-- A pixel that is drawn in one colour only. -/
lemma drawAll_of_mem (p : Picture) {calls : List PixelCall} (color : ℕ × ℕ → Color)
    (hcolor : ∀ call ∈ calls, call.color = color call.pos) {x y : ℕ}
    (h : (x, y) ∈ calls.map PixelCall.pos) : p.drawAll calls x y = color (x, y) := by
  induction calls generalizing p with
  | nil => simp at h
  | cons call calls ih =>
      obtain ⟨hcall, hrest⟩ := List.forall_mem_cons.mp hcolor
      by_cases hmem : (x, y) ∈ calls.map PixelCall.pos
      · exact ih _ hrest hmem
      · -- only the first call draws here
        have hpos : (x, y) = call.pos := (List.mem_cons.mp h).resolve_right hmem
        have hdrawn : p.draw call x y = call.color := if_pos hpos
        have hkept : (p.draw call).drawAll calls x y = p.draw call x y :=
          drawAll_of_not_mem _ hmem
        rw [hpos, ← hcall, ← hdrawn, ← hkept]
        rfl

/-- The picture shows a frame on a panel: the frame is a whole one, and a pixel of the panel
is white exactly where the bit of the frame is set. -/
structure Shows (caps : DisplayCapabilities) (frame : List UInt8) (p : Picture) : Prop where
  length_eq : frame.length = caps.fullFrameBytes.toNat
  pixel_eq : ∀ x y, x < caps.width.toNat → y < caps.height.toNat →
    p x y =
      if (frame.getD (y * caps.rowStrideBytes.toNat + x / 8) 0).toNat.testBit (7 - x % 8)
      then Color.white else Color.black

/-- **The calls of a whole frame show it**, whatever the picture was before. -/
theorem shows_drawAll {caps : DisplayCapabilities} (h : MonoPanel.Geometry caps)
    {frame : List UInt8} (hlen : frame.length = caps.fullFrameBytes.toNat) (p : Picture) :
    Shows caps frame (p.drawAll (MonoPanel.runCalls caps 0 frame)) where
  length_eq := hlen
  pixel_eq x y hx hy := by
    have hrenders := MonoPanel.rendersFrame_runCalls h hlen
    exact p.drawAll_of_mem (fun pos =>
        if (frame.getD (pos.2 * caps.rowStrideBytes.toNat + pos.1 / 8) 0).toNat.testBit
            (7 - pos.1 % 8)
        then Color.white else Color.black)
      hrenders.color_eq ((hrenders.mem_iff x y).mpr ⟨hx, hy⟩)

end Picture

/-! ### The screen of a driver -/

/-- What there is to see of a driver: its frame buffer, and the pictures that it has made the
panel show. -/
structure Screen where
  buffer : Picture
  shown : List Picture := []

namespace Screen

def draw (s : Screen) (call : PixelCall) : Screen := { s with buffer := s.buffer.draw call }

/-- Draw a run of bytes of which the first has the index `start`. -/
def drawRun (s : Screen) (caps : DisplayCapabilities) (start : ℕ) (data : List UInt8) : Screen :=
  { s with buffer := s.buffer.drawAll (MonoPanel.runCalls caps start data) }

/-- Show the buffer as it is. -/
def present (s : Screen) : Screen := { s with shown := s.shown ++ [s.buffer] }

end Screen

/-- What the adapters rely on of a driver whose screen is read by `screen`.  An `update` drives
an idle driver out of idle and shows the buffer: nothing is cleared or painted over first,
which the configuration has to see to (`auto_clear_enabled: false`, no pages, no test card).
An update after which the driver is still idle was rejected. -/
structure PaintsOn {δ : Type} [DisplayDriver δ] (screen : δ → Screen) : Prop where
  drawn : ∀ d x y color,
    screen (drawPixelAt d x y color) = (screen d).draw ⟨x, y, color⟩
  updated : ∀ d, isIdle d = true → isIdle (update d) = false →
    screen (update d) = (screen d).present
  rejected : ∀ d, isIdle d = true → isIdle (update d) = true → screen (update d) = screen d

/-- An idle driver rejects no update. -/
def TakesUpdates (δ : Type) [DisplayDriver δ] : Prop :=
  ∀ d : δ, isIdle d = true → isIdle (update d) = false

namespace MonoPanel

variable {δ δ' : Type} [DisplayDriver δ] [DisplayDriver δ']

/-- Two drivers that every call of `draw_pixel_at` keeps related are related after a run of
bytes. -/
lemma drawBytes_rel {R : δ → δ' → Prop}
    (hdraw : ∀ d d' x y color, R d d' → R (drawPixelAt d x y color) (drawPixelAt d' x y color))
    (caps : DisplayCapabilities) {d : δ} {d' : δ'} (h : R d d') (start : UInt32)
    (data : List UInt8) : R (drawBytes caps d start data) (drawBytes caps d' start data) := by
  induction data generalizing d d' start with
  | nil => exact h
  | cons bits data ih =>
      refine ih (List.foldl_rel h fun b _ c c' hc => ?_) (start + 1)
      exact hdraw c c' _ _ _ hc

/-- The driver that writes its calls down tells what is drawn on a screen. -/
lemma screen_drawBytes {screen : δ → Screen} (hpaints : PaintsOn screen)
    (caps : DisplayCapabilities) (d : δ) {start : UInt32}
    {data : List UInt8} (h : start.toNat + data.length ≤ caps.fullFrameBytes.toNat) :
    screen (drawBytes caps d start data) = (screen d).drawRun caps start.toNat data := by
  have hrel : screen (drawBytes caps d start data) = { screen d with
      buffer := (screen d).buffer.drawAll
        (drawBytes caps (⟨d, []⟩ : DrawLog δ) start data).calls } := by
    refine drawBytes_rel (R := fun (d' : δ) (l : DrawLog δ) => screen d' =
      { screen d with buffer := (screen d).buffer.drawAll l.calls }) ?_ caps rfl start data
    intro d' l x y color hd'
    rw [hpaints.drawn, hd']
    simp only [drawPixelAt, Screen.draw, Picture.drawAll_append]
    rfl
  rw [hrel, calls_drawBytes _ _ _ _ h]
  rfl

/-- A run of bytes within the frame is drawn. -/
lemma writeContiguous_eq {caps : DisplayCapabilities} (d : δ) {offset : UInt32}
    {data : List UInt8} (h : offset.toNat + data.length ≤ caps.fullFrameBytes.toNat) :
    writeContiguous caps (some d) offset data = (.ok, some (drawBytes caps d offset data)) := by
  have hle : offset ≤ caps.fullFrameBytes := UInt32.le_iff_toNat_le.mpr (by omega)
  rw [writeContiguous, if_neg]
  rw [not_or, UInt32.toNat_sub_of_le _ _ hle, UInt32.not_lt]
  exact ⟨hle, by omega⟩

end MonoPanel

/-! ### The adapters -/

open OpenDisplayBackend

/-- What a backend does to its screen: a run of bytes within the frame is drawn, a refresh
that begins shows the buffer, and no other call is seen. -/
structure DrawsOn {β : Type} [OpenDisplayBackend β] (screen : β → Option Screen) : Prop where
  beginFrame : ∀ b frame, screen (beginFrame b frame).2 = screen b
  written : ∀ {b s} {offset : UInt32} {data : List UInt8}, screen b = some s →
    offset.toNat + data.length ≤ (capabilities b).fullFrameBytes.toNat →
      (writeContiguous b offset data).1 = .ok ∧
        screen (writeContiguous b offset data).2 =
          some (s.drawRun (capabilities b) offset.toNat data)
  finishFrame : ∀ b, screen (finishFrame b).2 = screen b
  begun : ∀ {b q}, (beginRefresh b q).1 = .ok →
    screen (beginRefresh b q).2 = (screen b).map Screen.present
  notBegun : ∀ {b q}, (beginRefresh b q).1 ≠ .ok → screen (beginRefresh b q).2 = screen b
  pollRefresh : ∀ b, screen (pollRefresh b).2 = screen b
  abortTransfer : ∀ b, screen (abortTransfer b) = screen b

section Adapters

variable {δ : Type} [DisplayDriver δ] {screen : δ → Screen}

/-- A write within the frame, on the display alone. -/
lemma PaintsOn.writeContiguous (hpaints : PaintsOn screen) {caps : DisplayCapabilities}
    {display : Option δ} {s : Screen} (hs : display.map screen = some s) {offset : UInt32}
    {data : List UInt8} (h : offset.toNat + data.length ≤ caps.fullFrameBytes.toNat) :
    (MonoPanel.writeContiguous caps display offset data).1 = .ok ∧
      (MonoPanel.writeContiguous caps display offset data).2.map screen =
        some (s.drawRun caps offset.toNat data) := by
  obtain ⟨d, rfl, rfl⟩ := Option.map_eq_some_iff.mp hs
  rw [MonoPanel.writeContiguous_eq d h]
  exact ⟨rfl, congrArg some (MonoPanel.screen_drawBytes hpaints caps d h)⟩

theorem EpaperSPIBackend.drawsOn (hpaints : PaintsOn screen) :
    DrawsOn fun b : EpaperSPIBackend δ => b.display.map screen where
  beginFrame b frame := by
    change (b.beginFrame frame).2.display.map screen = _
    rw [EpaperSPIBackend.beginFrame]
    split_ifs
    · rfl
    · split <;> rfl
  written hs h := hpaints.writeContiguous hs h
  finishFrame _ := rfl
  begun {b q} hanswer := by
    change (b.beginRefresh q).1 = .ok at hanswer
    change (b.beginRefresh q).2.display.map screen = _
    rw [EpaperSPIBackend.beginRefresh] at hanswer ⊢
    split at hanswer
    · cases hanswer
    next d hdisplay =>
      dsimp only at hanswer ⊢
      split_ifs at hanswer ⊢ with hbusy hidle
      rw [hdisplay]
      exact congrArg some (hpaints.updated d (by simpa using hbusy) (by simpa using hidle))
  notBegun {b q} hanswer := by
    change (b.beginRefresh q).1 ≠ .ok at hanswer
    change (b.beginRefresh q).2.display.map screen = _
    rw [EpaperSPIBackend.beginRefresh] at hanswer ⊢
    split
    · rfl
    next d hdisplay =>
      simp only [hdisplay] at hanswer ⊢
      split_ifs at hanswer ⊢ with hbusy hidle
      · rfl
      · exact congrArg some (hpaints.rejected d (by simpa using hbusy) hidle)
      · exact absurd rfl hanswer
  pollRefresh b := by
    change b.pollRefresh.2.display.map screen = _
    rw [EpaperSPIBackend.pollRefresh]
    split
    · rfl
    · split_ifs <;> rfl
  abortTransfer _ := rfl

theorem IT8951Backend.drawsOn (hpaints : PaintsOn screen) (htakes : TakesUpdates δ) :
    DrawsOn fun b : IT8951Backend δ => b.display.map screen where
  beginFrame b frame := by
    change (b.beginFrame frame).2.display.map screen = _
    rw [IT8951Backend.beginFrame]
    split_ifs
    · rfl
    · split <;> rfl
  written hs h := hpaints.writeContiguous hs h
  finishFrame _ := rfl
  begun {b q} hanswer := by
    change (b.beginRefresh q).1 = .ok at hanswer
    change (b.beginRefresh q).2.display.map screen = _
    rw [IT8951Backend.beginRefresh] at hanswer ⊢
    split at hanswer
    · cases hanswer
    next d hdisplay =>
      split_ifs at hanswer ⊢ with hbusy
      have hidle : isIdle d = true := by simpa using hbusy
      rw [hdisplay]
      exact congrArg some (hpaints.updated d hidle (htakes d hidle))
  notBegun {b q} hanswer := by
    change (b.beginRefresh q).1 ≠ .ok at hanswer
    change (b.beginRefresh q).2.display.map screen = _
    rw [IT8951Backend.beginRefresh] at hanswer ⊢
    split
    · rfl
    next d hdisplay =>
      simp only [hdisplay] at hanswer ⊢
      split_ifs at hanswer ⊢
      · exact congrArg (Option.map screen) hdisplay
      · exact absurd rfl hanswer
  pollRefresh b := by
    change b.pollRefresh.2.display.map screen = _
    rw [IT8951Backend.pollRefresh]
    split
    · rfl
    · split_ifs <;> rfl
  abortTransfer _ := rfl

end Adapters

end OpenDisplay
