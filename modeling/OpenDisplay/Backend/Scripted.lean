import OpenDisplay.Backend.Interface

/-!
# Scripted panels

A backend that reads its answers off a script: one list for the calls that
answer with a `BackendResult`, one for the polls.  An exhausted script answers
`OK` and `PENDING`.  Scripted panels are the concrete backends on which runs of
the engine are evaluated.
-/

namespace OpenDisplay

/-- A backend that answers from a script. -/
structure ScriptedPanel where
  caps : DisplayCapabilities
  /-- The answers still to be given by the calls other than polls. -/
  answers : List BackendResult
  /-- The answers still to be given by the polls. -/
  polls : List PollResult

namespace ScriptedPanel

/-- Give the next scripted answer. -/
def answer (b : ScriptedPanel) : BackendResult × ScriptedPanel :=
  (b.answers.headD .ok, { b with answers := b.answers.tail })

instance : OpenDisplayBackend ScriptedPanel where
  capabilities b := b.caps
  beginFrame b _ := b.answer
  writeContiguous b _ _ := b.answer
  finishFrame b := b.answer
  beginRefresh b _ := b.answer
  pollRefresh b := (b.polls.headD .pending, { b with polls := b.polls.tail })
  abortTransfer b := b

/-- Nothing happens to a scripted panel on its own. -/
instance : PanelWorld ScriptedPanel Unit where
  happen _ b := b

instance : FixedCapabilities ScriptedPanel where
  fixed _ := ⟨⟨fun _ h => h, fun h => h, fun _ h => h, fun h => h, fun h => h, fun _ h => h⟩,
    fun _ _ h => h⟩

/-- A panel with a frame of `bytes` bytes that accepts everything and answers the
polls from `polls`. -/
def accepting (bytes : UInt32) (polls : List PollResult) : ScriptedPanel :=
  ⟨{ fullFrameBytes := bytes }, [], polls⟩

end ScriptedPanel

end OpenDisplay
