import OpenDisplay.Protocol.Types
import Mathlib.Tactic.Common

/-!
# The display backend

`backend.h`: the narrow adapter between the transfer engine and a display
driver.  A backend is a type of states with one function per virtual method; it
may answer a call as it likes, so a statement about every backend is a statement
about every sequence of answers.  What the panel does on its own between two
calls is kept apart, as the events of a `PanelWorld`.

The `Recorder` wraps a backend and writes down every call and its answer.  It is
how statements about the order of backend calls are made.
-/

namespace OpenDisplay

/-- `OpenDisplayBackend`: the methods that the transfer engine calls. -/
class OpenDisplayBackend (β : Type) where
  /-- The single source of truth for what the panel can do. -/
  capabilities : β → DisplayCapabilities
  beginFrame : β → FrameDescriptor → BackendResult × β
  writeContiguous : β → UInt32 → List UInt8 → BackendResult × β
  finishFrame : β → BackendResult × β
  beginRefresh : β → RefreshRequest → BackendResult × β
  pollRefresh : β → PollResult × β
  abortTransfer : β → β

/-- What can happen to a panel between two calls. -/
class PanelWorld (β : Type) (ω : outParam Type) where
  happen : ω → β → β

/-- A property of a backend that no call other than a write and no event takes away. -/
structure QuietInvariant {β ω : Type} [OpenDisplayBackend β] [PanelWorld β ω]
    (P : β → Prop) : Prop where
  beginFrame : ∀ {b : β} f, P b → P (OpenDisplayBackend.beginFrame b f).2
  finishFrame : ∀ {b : β}, P b → P (OpenDisplayBackend.finishFrame b).2
  beginRefresh : ∀ {b : β} r, P b → P (OpenDisplayBackend.beginRefresh b r).2
  pollRefresh : ∀ {b : β}, P b → P (OpenDisplayBackend.pollRefresh b).2
  abortTransfer : ∀ {b : β}, P b → P (OpenDisplayBackend.abortTransfer b)
  happen : ∀ {b : β} (w : ω), P b → P (PanelWorld.happen w b)

/-- A property of a backend that no call and no event takes away. -/
structure BackendInvariant {β ω : Type} [OpenDisplayBackend β] [PanelWorld β ω]
    (P : β → Prop) : Prop extends QuietInvariant P where
  writeContiguous : ∀ {b : β} o d, P b → P (OpenDisplayBackend.writeContiguous b o d).2

/-- The capabilities of a backend are fixed: no call and no event changes them. -/
class FixedCapabilities (β : Type) {ω : outParam Type} [OpenDisplayBackend β]
    [PanelWorld β ω] : Prop where
  fixed : ∀ caps, BackendInvariant fun b : β => OpenDisplayBackend.capabilities b = caps

/-! ### The recorder -/

/-- A backend call with its answer. -/
inductive BackendCall
  | beginFrame (frame : FrameDescriptor) (answer : BackendResult)
  | writeContiguous (offset : UInt32) (data : List UInt8) (answer : BackendResult)
  | finishFrame (answer : BackendResult)
  | beginRefresh (answer : BackendResult)
  | pollRefresh (answer : PollResult)
  | abortTransfer
deriving DecidableEq

/-- The answer of a call; an abort has none. -/
def BackendCall.answer : BackendCall → Option (BackendResult ⊕ PollResult)
  | .beginFrame _ answer => some (.inl answer)
  | .writeContiguous _ _ answer => some (.inl answer)
  | .finishFrame answer => some (.inl answer)
  | .beginRefresh answer => some (.inl answer)
  | .pollRefresh answer => some (.inr answer)
  | .abortTransfer => none

/-- The answers in a list of calls. -/
def answersOf (calls : List BackendCall) : List (BackendResult ⊕ PollResult) :=
  calls.filterMap BackendCall.answer

@[simp] lemma answersOf_append (calls more : List BackendCall) :
    answersOf (calls ++ more) = answersOf calls ++ answersOf more := List.filterMap_append

/-- A backend together with the calls made on it so far, in order. -/
structure Recorder (β : Type) where
  panel : β
  calls : List BackendCall

namespace Recorder

variable {β ω : Type} [OpenDisplayBackend β] [PanelWorld β ω]

/-- A backend on which no call has been made. -/
def fresh (b : β) : Recorder β := ⟨b, []⟩

instance : OpenDisplayBackend (Recorder β) where
  capabilities r := OpenDisplayBackend.capabilities r.panel
  beginFrame r f :=
    let (answer, b) := OpenDisplayBackend.beginFrame r.panel f
    (answer, ⟨b, r.calls ++ [.beginFrame f answer]⟩)
  writeContiguous r offset data :=
    let (answer, b) := OpenDisplayBackend.writeContiguous r.panel offset data
    (answer, ⟨b, r.calls ++ [.writeContiguous offset data answer]⟩)
  finishFrame r :=
    let (answer, b) := OpenDisplayBackend.finishFrame r.panel
    (answer, ⟨b, r.calls ++ [.finishFrame answer]⟩)
  beginRefresh r request :=
    let (answer, b) := OpenDisplayBackend.beginRefresh r.panel request
    (answer, ⟨b, r.calls ++ [.beginRefresh answer]⟩)
  pollRefresh r :=
    let (answer, b) := OpenDisplayBackend.pollRefresh r.panel
    (answer, ⟨b, r.calls ++ [.pollRefresh answer]⟩)
  abortTransfer r := ⟨OpenDisplayBackend.abortTransfer r.panel, r.calls ++ [.abortTransfer]⟩

instance : PanelWorld (Recorder β) ω where
  happen w r := { r with panel := PanelWorld.happen w r.panel }

@[simp] lemma capabilities_eq (r : Recorder β) :
    OpenDisplayBackend.capabilities r = OpenDisplayBackend.capabilities r.panel := rfl

@[simp] lemma calls_beginFrame (r : Recorder β) (f : FrameDescriptor) :
    (OpenDisplayBackend.beginFrame r f).2.calls =
      r.calls ++ [.beginFrame f (OpenDisplayBackend.beginFrame r f).1] := rfl

@[simp] lemma calls_writeContiguous (r : Recorder β) (o : UInt32) (d : List UInt8) :
    (OpenDisplayBackend.writeContiguous r o d).2.calls =
      r.calls ++ [.writeContiguous o d (OpenDisplayBackend.writeContiguous r o d).1] := rfl

@[simp] lemma calls_finishFrame (r : Recorder β) :
    (OpenDisplayBackend.finishFrame r).2.calls =
      r.calls ++ [.finishFrame (OpenDisplayBackend.finishFrame r).1] := rfl

@[simp] lemma calls_beginRefresh (r : Recorder β) (q : RefreshRequest) :
    (OpenDisplayBackend.beginRefresh r q).2.calls =
      r.calls ++ [.beginRefresh (OpenDisplayBackend.beginRefresh r q).1] := rfl

@[simp] lemma calls_pollRefresh (r : Recorder β) :
    (OpenDisplayBackend.pollRefresh r).2.calls =
      r.calls ++ [.pollRefresh (OpenDisplayBackend.pollRefresh r).1] := rfl

@[simp] lemma calls_abortTransfer (r : Recorder β) :
    (OpenDisplayBackend.abortTransfer r).calls = r.calls ++ [.abortTransfer] := rfl

omit [OpenDisplayBackend β] in
@[simp] lemma calls_happen (r : Recorder β) (w : ω) :
    (PanelWorld.happen w r).calls = r.calls := rfl

/-- What is invariant of a panel is invariant of its recording. -/
lemma backendInvariant {P : β → Prop} (h : BackendInvariant P) :
    BackendInvariant fun r : Recorder β => P r.panel where
  beginFrame f := h.beginFrame f
  writeContiguous o d := h.writeContiguous o d
  finishFrame := h.finishFrame
  beginRefresh r := h.beginRefresh r
  pollRefresh := h.pollRefresh
  abortTransfer := h.abortTransfer
  happen w := h.happen w

instance [FixedCapabilities β] : FixedCapabilities (Recorder β) where
  fixed caps := backendInvariant (FixedCapabilities.fixed caps)

/-- What further calls do not take away from the calls made so far. -/
lemma backendInvariant_calls {P : List BackendCall → Prop}
    (h : ∀ calls call, P calls → P (calls ++ [call])) :
    BackendInvariant fun r : Recorder β => P r.calls where
  beginFrame _ := h _ _
  writeContiguous _ _ := h _ _
  finishFrame := h _ _
  beginRefresh _ := h _ _
  pollRefresh := h _ _
  abortTransfer := h _ _
  happen _ hP := hP

end Recorder

end OpenDisplay
