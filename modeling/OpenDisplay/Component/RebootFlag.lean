import OpenDisplay.Component.Outcome
import OpenDisplay.Backend.Scripted
import OpenDisplay.Engine.PipeAcks

/-!
# The reboot flag in the answers to a `0x0044`

`handle_packet_` answers a `0x0044` with the record that `update_msd_` has built last, and
clears `reboot_flag_` then, whatever the TX ring has done with the answer.  The record itself
keeps the flag until `update_msd_` next builds it, which is at most once a second.  So a client
that asks twice within the second reads the flag twice, and one whose first request meets a
full ring may never read it.  The history of a run keeps whether a `0x0044` was handled, whether
the record was built again after that, and whether the ring has taken an answer: the flag is on
the first answer alone exactly if each answer finds the last two of them equal.
-/

namespace OpenDisplay

/-! ### The record -/

/-- The status byte carries the reboot flag. -/
def hasRebootFlag (status : UInt8) : Bool := status &&& odMsdStatusRebootFlag ≠ 0

/-- The record carries the reboot flag: its status is the last of the sixteen bytes. -/
def msdReboot (msd : Vector UInt8 msdBytes) : Bool := hasRebootFlag (msd.toList.getD 15 0)

/-- The counter and the other two bits leave the reboot flag alone. -/
lemma hasRebootFlag_msdStatus (inputs : MsdInputs) :
    hasRebootFlag (msdStatus inputs) = inputs.rebootFlag := by
  have hcounter : ∀ n : UInt8,
      n &&& odMsdStatusMainLoopCounterMask &&& odMsdStatusRebootFlag = 0 := by
    intro n
    rw [UInt8.and_assoc]
    exact UInt8.and_zero
  have hor : ∀ a b c : UInt8, (a ||| b) &&& c = a &&& c ||| b &&& c := by
    intro a b c
    exact UInt8.toBitVec_inj.mp BitVec.and_or_distrib_right
  rw [hasRebootFlag, msdStatus]
  simp only [hor, hcounter]
  cases inputs.rebootFlag with
  | false =>
      rw [if_neg Bool.false_ne_true]
      split_ifs <;> decide
  | true =>
      rw [if_pos rfl]
      split_ifs <;> decide

/-- **A record carries the flag that it is built with.** -/
lemma msdReboot_buildMsd (inputs : MsdInputs) : msdReboot (buildMsd inputs) = inputs.rebootFlag :=
  hasRebootFlag_msdStatus inputs

/-! ### The answers -/

/-- An answer to a `0x0044`, as a client tells it from other frames. -/
def isMsdReport (r : Response) : Bool := r.bytes.take 2 = [0x00, 0x44]

/-- The answer carries the reboot flag: the record comes behind two bytes. -/
def reportsReboot (r : Response) : Bool := hasRebootFlag (r.bytes.getD 17 0)

/-- The reboot flags of the answers to a `0x0044` that the TX queue took. -/
def rebootReports (fx : List Effect) : List Bool :=
  ((queuedFrames fx).filter isMsdReport).map reportsReboot

@[simp] lemma rebootReports_append (fx gx : List Effect) :
    rebootReports (fx ++ gx) = rebootReports fx ++ rebootReports gx := by
  simp [rebootReports]

lemma isMsdReport_encodeMsdResponse (msd : Vector UInt8 msdBytes) :
    isMsdReport (encodeMsdResponse msd) = true := rfl

lemma reportsReboot_encodeMsdResponse (msd : Vector UInt8 msdBytes) :
    reportsReboot (encodeMsdResponse msd) = msdReboot msd := rfl

/-- Frames among which there is no answer to a `0x0044`. -/
lemma rebootReports_eq_nil {fx : List Effect}
    (h : ∀ r ∈ queuedFrames fx, isMsdReport r = false) : rebootReports fx = [] := by
  rw [rebootReports, List.filter_eq_nil_iff.mpr, List.map_nil]
  intro r hr
  rw [h r hr]
  exact Bool.false_ne_true

/-- The engine sends nothing that could be taken for an answer to a `0x0044`. -/
lemma TransferEngine.SentFrame.not_msdReport {ω : Type} {op : EngineOp ω} {r : Response}
    (h : SentFrame op r) : isMsdReport r = false := by
  cases h with
  | acked opcode hopcode =>
      simp only [List.mem_cons, List.not_mem_nil, or_false] at hopcode
      rcases hopcode with rfl | rfl | rfl | rfl <;> rfl
  | silent | nacked | refused | opened | sack | nackedChunk => rfl

namespace OpenDisplayComponent

/-! ### What leaves the record alone -/

section Keeping

variable {β ω : Type} {c : OpenDisplayComponent β} {done : Done β}

/-- A part of the component that leaves the record and the flag alone, and answers no
`0x0044`. -/
structure KeepsMsd (c : OpenDisplayComponent β) (done : Done β) : Prop where
  msd_eq : done.2.msd = c.msd
  flag_eq : done.2.rebootFlag = c.rebootFlag
  reports_eq : rebootReports done.1 = []

namespace KeepsMsd

lemma silent {c' : OpenDisplayComponent β} {fx : List Effect} (hmsd : c'.msd = c.msd)
    (hflag : c'.rebootFlag = c.rebootFlag) (hreports : rebootReports fx = []) :
    KeepsMsd c (fx, c') := ⟨hmsd, hflag, hreports⟩

lemma andThen (h : KeepsMsd c done) {f : OpenDisplayComponent β → Done β}
    (hf : KeepsMsd done.2 (f done.2)) : KeepsMsd c (OpenDisplayComponent.andThen done f) where
  msd_eq := hf.msd_eq.trans h.msd_eq
  flag_eq := hf.flag_eq.trans h.flag_eq
  reports_eq := by
    rw [OpenDisplayComponent.andThen, rebootReports_append, h.reports_eq, hf.reports_eq]
    rfl

lemma ite (p : Prop) [Decidable p] (h : KeepsMsd c done) :
    KeepsMsd c (if p then done else ([], c)) := by
  split_ifs
  · exact h
  · exact .silent rfl rfl rfl

/-- The record and the flag are all that is read of the component before. -/
lemma congr {c' : OpenDisplayComponent β} (h : KeepsMsd c' done) (hmsd : c'.msd = c.msd)
    (hflag : c'.rebootFlag = c.rebootFlag) : KeepsMsd c done :=
  ⟨h.msd_eq.trans hmsd, h.flag_eq.trans hflag, h.reports_eq⟩

end KeepsMsd

/-- What `send_` puts into the queue. -/
lemma rebootReports_send (c : OpenDisplayComponent β) (r : Response) (terminal : Bool)
    (hr : r.isEmpty = false) : rebootReports (c.send r terminal).1 =
      if isMsdReport r = true ∧ c.tx.Accepts terminal then [reportsReboot r] else [] := by
  rw [rebootReports, (sends_send c r terminal).queued_eq, TxQueue.pushAll_singleton hr]
  by_cases haccepts : c.tx.Accepts terminal
  · rw [if_pos haccepts]
    rcases hreport : isMsdReport r with _ | _ <;> simp [hreport, haccepts]
  · simp [haccepts]

lemma keepsMsd_send (c : OpenDisplayComponent β) {r : Response} (hr : isMsdReport r = false)
    (terminal : Bool) : KeepsMsd c (c.send r terminal) := by
  refine ⟨rfl, rfl, rebootReports_eq_nil fun r' hr' => ?_⟩
  rw [(sends_send c r terminal).queued_eq] at hr'
  obtain ⟨t, ht⟩ := TxQueue.exists_mem_of_mem_pushAll hr'
  obtain ⟨rfl, -⟩ := Prod.mk.inj (List.mem_singleton.mp ht)
  exact hr

lemma keepsMsd_raiseError (c : OpenDisplayComponent β) : KeepsMsd c c.raiseError :=
  .silent rfl rfl rfl

/-- Results of the engine leave the record alone. -/
lemma keepsMsd_applyResult (c : OpenDisplayComponent β) (res : EngineResult)
    (htail : ∀ r ∈ c.engine.takeTailSack.1, isMsdReport r = false)
    (hres : isMsdReport res.response = false) : KeepsMsd c (c.applyResult res) := by
  rw [applyResult]
  refine (((((KeepsMsd.andThen ?_ (.ite _ (keepsMsd_send _ hres _))).andThen ?_).andThen
    (.ite _ ((keepsMsd_send _ rfl _).andThen (.silent rfl rfl rfl)))).andThen
    (.ite _ ((keepsMsd_send _ rfl _).andThen (keepsMsd_raiseError _)))).andThen
    (.ite _ (keepsMsd_raiseError _)))
  · rcases hstaged : c.engine.takeTailSack.1 with _ | tail
    · exact .silent rfl rfl rfl
    · exact (keepsMsd_send _ (htail tail hstaged) true).congr rfl rfl
  · rcases res.transferStarted with _ | _ <;> exact .silent rfl rfl rfl

/-- A chunk of the config is no answer to a `0x0044`. -/
lemma not_msdReport_configChunk (blob : List UInt8) (i : UInt16) :
    isMsdReport (encodeConfigChunk blob i) = false := by
  rw [encodeConfigChunk]
  dsimp only
  split_ifs <;> rfl

lemma keepsMsd_sendConfig (c : OpenDisplayComponent β) : KeepsMsd c c.sendConfig := by
  rw [sendConfig]
  dsimp only
  split_ifs
  · exact keepsMsd_send _ rfl _
  · refine .silent rfl rfl (rebootReports_eq_nil fun r hr => ?_)
    obtain ⟨j, -, rfl⟩ := exists_of_mem_queued_sendChunks hr
    exact not_msdReport_configChunk c.settings.configBlob j

end Keeping

variable {β ω : Type} [OpenDisplayBackend β] [PanelWorld β ω]

/-- What the engine answers is no answer to a `0x0044`. -/
lemma keepsMsd_answer (c : OpenDisplayComponent β) {e : TransferEngine β}
    (htail : e.hasTailSack = false) (op : EngineOp ω) : KeepsMsd c (c.answer (e.perform op)) := by
  have hsent := TransferEngine.sentFrame_framesSent htail op
  refine (keepsMsd_applyResult _ _ (fun r hr => ?_) ?_).congr rfl rfl
  · exact (hsent r (List.mem_append_left _ (Option.mem_toList.mpr hr))).not_msdReport
  · exact (hsent _ (List.mem_append_right _ (List.mem_singleton_self _))).not_msdReport

/-! ### Packets -/

omit [PanelWorld β ω] in
/-- A `0x0044` is answered with the record, and clears the flag. -/
lemma handlePacket_readMsd (c : OpenDisplayComponent β) {pkt : RxPacket}
    (hread : pkt.frame.map Frame.opcode = some cmdReadMsd) (nowMs : UInt32) :
    c.handlePacket pkt nowMs = andThen (c.send (encodeMsdResponse c.msd) false)
      fun c => ([], { c with rebootFlag := false }) := by
  obtain ⟨f, hframe, hop⟩ := Option.map_eq_some_iff.mp hread
  rw [handlePacket, hframe]
  dsimp only
  rw [hop, if_neg (by decide), if_neg (by decide), if_pos rfl]

/-- Other packets leave the record and the flag alone. -/
lemma keepsMsd_handlePacket (ω : Type) [PanelWorld β ω] (c : OpenDisplayComponent β)
    (htail : c.engine.hasTailSack = false) {pkt : RxPacket}
    (hread : pkt.frame.map Frame.opcode ≠ some cmdReadMsd) (nowMs : UInt32) :
    KeepsMsd c (c.handlePacket pkt nowMs) := by
  rw [handlePacket]
  rcases hframe : pkt.frame with _ | f
  · exact .silent rfl rfl rfl
  · dsimp only
    have hne : f.opcode ≠ cmdReadMsd := by
      rintro hop
      rw [hframe, Option.map_some, hop] at hread
      exact hread rfl
    rw [if_neg hne]
    split_ifs
    · exact keepsMsd_sendConfig c
    · exact keepsMsd_send c rfl false
    · exact keepsMsd_answer c htail (.directStart f.payload nowMs : EngineOp ω)
    · exact keepsMsd_answer c htail (.directData f.payload nowMs : EngineOp ω)
    · exact keepsMsd_answer c htail (.directEnd f.payload nowMs : EngineOp ω)
    · exact keepsMsd_answer c htail (.pipeStart f.payload nowMs : EngineOp ω)
    · exact keepsMsd_answer c htail (.pipeData f.payload nowMs : EngineOp ω)
    · exact keepsMsd_answer c htail (.pipeEnd f.payload nowMs : EngineOp ω)
    · exact keepsMsd_send c rfl false

/-! ### Steps -/

/-- The step handles a `0x0044`. -/
def asksMsd (c : OpenDisplayComponent β) : ComponentOp ω → Bool
  | .loop _ _ =>
      match c.nextPacket with
      | some pkt => pkt.connectionGeneration = c.connectionGeneration &&
          pkt.frame.map Frame.opcode = some cmdReadMsd
      | none => false
  | _ => false

/-- The step builds the record again. -/
def renewsMsd (c : OpenDisplayComponent β) : ComponentOp ω → Bool
  | .loop _ _ =>
      match c.phase with
      | .updateMsd startMs => startMs = 0 || 0 ≤ (startMs - c.msdNextUpdateMs).toInt32
      | _ => false
  | _ => false

/-- What a step does to the record and to the flag. -/
inductive MsdStep (c : OpenDisplayComponent β) (op : ComponentOp ω) (done : Done β) : Prop
  | asked (hasks : c.asksMsd op = true) (hmsd : done.2.msd = c.msd)
      (hflag : done.2.rebootFlag = false)
      (hreports : rebootReports done.1 = if c.tx.Accepts false then [msdReboot c.msd] else [])
  | renewed (hasks : c.asksMsd op = false) (hrenews : c.renewsMsd op = true)
      (hmsd : msdReboot done.2.msd = c.rebootFlag) (hflag : done.2.rebootFlag = c.rebootFlag)
      (hreports : rebootReports done.1 = [])
  | kept (hasks : c.asksMsd op = false) (hrenews : c.renewsMsd op = false)
      (hkeeps : KeepsMsd c done)

omit [PanelWorld β ω] in
/-- The part of the loop that handles a `0x0044`. -/
lemma msdStep_asked {c c₁ : OpenDisplayComponent β} {op : ComponentOp ω}
    (hasks : c.asksMsd op = true) (hmsd : c₁.msd = c.msd) (htx : c₁.tx = c.tx) {pkt : RxPacket}
    (hread : pkt.frame.map Frame.opcode = some cmdReadMsd) (nowMs : UInt32) :
    MsdStep c op (c₁.handlePacket pkt nowMs) := by
  rw [handlePacket_readMsd c₁ hread]
  refine .asked hasks hmsd rfl ?_
  rw [OpenDisplayComponent.andThen, rebootReports_append, rebootReports_send _ _ _ rfl, htx, hmsd]
  simp only [isMsdReport_encodeMsdResponse, true_and, reportsReboot_encodeMsdResponse]
  exact List.append_nil _

omit [OpenDisplayBackend β] [PanelWorld β ω] in
/-- The part of the loop that may build the record again. -/
lemma msdStep_updated {c : OpenDisplayComponent β} {startMs : UInt32}
    (hphase : c.phase = .updateMsd startMs) (nowMs : UInt32) (temperature : Int) :
    MsdStep (ω := ω) c (.loop nowMs temperature)
      ([], { c.updateMsd startMs temperature with phase := .drain }) := by
  have hasks : c.asksMsd (.loop nowMs temperature : ComponentOp ω) = false := by
    rw [asksMsd, nextPacket, hphase]
  rw [updateMsd]
  split_ifs with hearly
  · refine .kept hasks ?_ (.silent rfl rfl rfl)
    rw [renewsMsd, hphase]
    simpa using hearly
  · refine .renewed hasks ?_ (msdReboot_buildMsd _) rfl rfl
    rw [renewsMsd, hphase]
    simpa [imp_iff_not_or] using hearly

lemma loop_msdStep (c : OpenDisplayComponent β) (htail : c.engine.hasTailSack = false)
    (now : UInt32) (temperature : Int) :
    MsdStep (ω := ω) c (.loop now temperature) (c.loop now temperature) := by
  have ho := loop_outcome c now temperature
  have hasks : c.nextPacket = none → c.asksMsd (.loop now temperature : ComponentOp ω) = false := by
    intro hnext
    rw [asksMsd, hnext]
  have hrenews : (∀ startMs, c.phase ≠ .updateMsd startMs) →
      c.renewsMsd (.loop now temperature : ComponentOp ω) = false := by
    intro hphase
    rw [renewsMsd]
    split
    · exact absurd ‹_› (hphase _)
    · rfl
  have hplace : ∀ {phase : LoopPhase}, c.phase = phase →
      (∀ startMs handled, phase ≠ .receive startMs handled) → c.nextPacket = none := by
    rintro _ rfl hne
    rw [nextPacket]
    split
    · exact absurd ‹_› (hne _ _)
    · rfl
  generalize c.loop now temperature = done at ho ⊢
  cases ho with
  | started hphase | idled hphase | draining hphase | notified _ hphase | drained _ hphase
  | unchanged hphase =>
      exact .kept (hasks (hplace hphase (by simp))) (hrenews (by simp [hphase]))
        (.silent rfl rfl rfl)
  | received _ _ hphase hnext =>
      exact .kept (hasks hnext) (hrenews (by simp [hphase])) (.silent rfl rfl rfl)
  | stale _ _ hphase pkt hnext _ hstale =>
      refine .kept ?_ (hrenews (by simp [hphase])) (.silent rfl rfl rfl)
      rw [asksMsd, hnext]
      simp [hstale]
  | packet startMs handled hphase pkt hnext _ hcurrent =>
      by_cases hread : pkt.frame.map Frame.opcode = some cmdReadMsd
      · refine msdStep_asked ?_ ?_ ?_ hread now
        · rw [asksMsd, hnext]
          simp [hcurrent, hread]
        · rfl
        · rfl
      · have hkeeps := keepsMsd_handlePacket ω
          { c with rx := c.rx.pop.2, phase := .receive startMs (handled + 1) } htail hread now
        refine .kept ?_ (hrenews (by simp [hphase])) (hkeeps.congr rfl rfl)
        rw [asksMsd, hnext]
        simp [hread]
  | ticked startMs hphase =>
      exact .kept (hasks (hplace hphase (by simp))) (hrenews (by simp [hphase]))
        ((keepsMsd_answer { c with phase := .updateMsd startMs } htail
          (.tick startMs : EngineOp ω)).congr rfl rfl)
  | updated startMs hphase => exact msdStep_updated hphase now temperature
  | published hphase =>
      obtain ⟨-, hqueued, -, -, hrest⟩ := publishState_rest { c with phase := .start }
      refine .kept (hasks (hplace hphase (by simp))) (hrenews (by simp [hphase])) ⟨?_, ?_, ?_⟩
      · rw [hrest]
      · rw [hrest]
      · rw [rebootReports, hqueued]
        rfl

/-- **What a step does to the record and to the flag.** -/
lemma perform_msdStep (c : OpenDisplayComponent β) (htail : c.engine.hasTailSack = false)
    (op : ComponentOp ω) : MsdStep c op (c.perform op) := by
  cases op with
  | bleConnect | bleDisconnect | bleWrite | abort | world =>
      exact .kept rfl rfl (.silent rfl rfl rfl)
  | loop now temperature => exact loop_msdStep c htail now temperature

/-! ### The history of the record -/

/-- What is remembered of a run for the record. -/
structure MsdHistory where
  /-- A `0x0044` was handled. -/
  asked : Bool := false
  /-- The record has been built again after that. -/
  renewed : Bool := false
  /-- The TX queue has taken an answer to a `0x0044`. -/
  reported : Bool := false

/-- The monitor of the record. -/
def watchMsd (h : MsdHistory) (c : OpenDisplayComponent β) (op : ComponentOp ω) : MsdHistory :=
  if c.asksMsd op then
    { h with
      asked := true
      reported := h.reported || decide (c.tx.Accepts false) }
  else if c.renewsMsd op then { h with renewed := h.asked }
  else h

/-- The component that carries the history of its record. -/
abbrev msdTracked : MsdHistory × OpenDisplayComponent β → ComponentOp ω →
    MsdHistory × OpenDisplayComponent β := Machine.monitored step watchMsd

/-- If the step handles a `0x0044` and the TX queue has room for the answer: the record has been
built again since the first `0x0044` exactly if the queue has taken an answer before. -/
def MsdTimely (s : MsdHistory × OpenDisplayComponent β) (op : ComponentOp ω) : Prop :=
  s.2.asksMsd op = true → s.2.tx.Accepts false → s.1.renewed = s.1.reported

instance (s : MsdHistory × OpenDisplayComponent β) (op : ComponentOp ω) :
    Decidable (MsdTimely s op) :=
  inferInstanceAs (Decidable (_ = true → _ → _ = _))

/-- What the history says of the component: the flag is cleared by the first `0x0044`, and the
record shows it until it is built again after that. -/
structure MsdInv (s : MsdHistory × OpenDisplayComponent β) : Prop where
  settled : Settled s.2.engine
  flag_eq : s.2.rebootFlag = !s.1.asked
  msd_eq : msdReboot s.2.msd = !s.1.renewed

lemma MsdInv.step {s : MsdHistory × OpenDisplayComponent β} (h : MsdInv s)
    (op : ComponentOp ω) : MsdInv (msdTracked s op) := by
  have hsettled := h.settled.step op
  refine ⟨hsettled, ?_, ?_⟩
  · change (s.2.perform op).2.rebootFlag = !(watchMsd s.1 s.2 op).asked
    cases perform_msdStep s.2 h.settled.staged op with
    | asked hasks _ hflag => rw [watchMsd, if_pos hasks, hflag]; rfl
    | renewed hasks hrenews _ hflag =>
        rw [watchMsd, if_neg (by simp [hasks]), if_pos hrenews, hflag]
        exact h.flag_eq
    | kept hasks hrenews hkeeps =>
        rw [watchMsd, if_neg (by simp [hasks]), if_neg (by simp [hrenews]), hkeeps.flag_eq]
        exact h.flag_eq
  · change msdReboot (s.2.perform op).2.msd = !(watchMsd s.1 s.2 op).renewed
    cases perform_msdStep s.2 h.settled.staged op with
    | asked hasks hmsd =>
        rw [watchMsd, if_pos hasks, hmsd]
        exact h.msd_eq
    | renewed hasks hrenews hmsd =>
        rw [watchMsd, if_neg (by simp [hasks]), if_pos hrenews, hmsd]
        exact h.flag_eq
    | kept hasks hrenews hkeeps =>
        rw [watchMsd, if_neg (by simp [hasks]), if_neg (by simp [hrenews]), hkeeps.msd_eq]
        exact h.msd_eq

omit [OpenDisplayBackend β] in
/-- `setup` builds the first record, with the flag. -/
lemma msdInv_setup (b : β) (settings : ComponentSettings) (temperature : Int) :
    MsdInv (({} : MsdHistory), (setup b settings temperature).2) := by
  have hbuilt := msdReboot_buildMsd {
    chipTemperatureEncoded := temperature
    battery10mv := 0
    rebootFlag := true
    connectionRequested := false
    loopCounter := 0 }
  refine ⟨settled_setup b settings temperature, ?_, ?_⟩
  · rw [setup, (publishState_rest _).2.2.2.2, updateMsd_rest]
    rfl
  · rw [setup, (publishState_rest _).2.2.2.2, updateMsd, if_neg (fun h => h.1 rfl)]
    exact hbuilt

/-! ### The flag in the answers -/

/-- From here on the first flag is set unless one was reported before, and no later one is. -/
def FlagsFollow : Bool → List Bool → Prop
  | _, [] => True
  | reported, flag :: later => (flag = !reported) ∧ FlagsFollow true later

/-- The first flag is set and no later one is. -/
def FlagOnFirst : List Bool → Prop
  | [] => True
  | flag :: later => flag = true ∧ ∀ f ∈ later, f = false

instance : DecidablePred FlagOnFirst
  | [] => isTrue trivial
  | _ :: _ => inferInstanceAs (Decidable (_ ∧ _))

lemma flagsFollow_true_iff (flags : List Bool) :
    FlagsFollow true flags ↔ ∀ f ∈ flags, f = false := by
  induction flags with
  | nil => exact iff_of_true trivial (fun _ h => nomatch h)
  | cons flag later ih => rw [FlagsFollow, ih, List.forall_mem_cons, Bool.not_true]

lemma flagsFollow_false_iff (flags : List Bool) : FlagsFollow false flags ↔ FlagOnFirst flags := by
  cases flags with
  | nil => exact Iff.rfl
  | cons flag later => exact and_congr_right fun _ => flagsFollow_true_iff later

/-- The reboot flags of the answers to a `0x0044` that the TX queue takes in a run. -/
def reportedFlags (c : OpenDisplayComponent β) (ops : List (ComponentOp ω)) : List Bool :=
  Machine.outputs step (fun c op => rebootReports (c.perform op).1) c ops

/-- One step: the history says which flag the next answer that the queue takes will carry. -/
lemma flagsFollow_perform {s : MsdHistory × OpenDisplayComponent β} (h : MsdInv s)
    (op : ComponentOp ω) (flags : List Bool) :
    FlagsFollow s.1.reported (rebootReports (s.2.perform op).1 ++ flags) ↔
      MsdTimely s op ∧ FlagsFollow (msdTracked s op).1.reported flags := by
  have hquiet : s.2.asksMsd op = false →
      MsdTimely s op ∧ (msdTracked s op).1.reported = s.1.reported := by
    intro hasks
    refine ⟨fun hasked => ?_, ?_⟩
    · rw [hasks] at hasked
      cases hasked
    · change (watchMsd s.1 s.2 op).reported = s.1.reported
      rw [watchMsd, if_neg (by simp [hasks])]
      split_ifs <;> rfl
  cases perform_msdStep s.2 h.settled.staged op with
  | asked hasks _ _ hreports =>
      have hwatch : (msdTracked s op).1.reported =
          (s.1.reported || decide (s.2.tx.Accepts false)) := by
        change (watchMsd s.1 s.2 op).reported = _
        rw [watchMsd, if_pos hasks]
      rw [hreports, hwatch, h.msd_eq]
      by_cases haccepts : s.2.tx.Accepts false
      · rw [if_pos haccepts, decide_eq_true haccepts, Bool.or_true, List.singleton_append,
          FlagsFollow, Bool.not_inj_iff]
        exact and_congr_left fun _ => ⟨fun heq _ _ => heq, fun htimely => htimely hasks haccepts⟩
      · rw [if_neg haccepts, decide_eq_false haccepts, Bool.or_false, List.nil_append]
        exact (and_iff_right fun _ hroom => absurd hroom haccepts).symm
  | renewed hasks _ _ _ hreports =>
      obtain ⟨htimely, hwatch⟩ := hquiet hasks
      rw [hreports, hwatch, List.nil_append]
      exact (and_iff_right htimely).symm
  | kept hasks _ hkeeps =>
      obtain ⟨htimely, hwatch⟩ := hquiet hasks
      rw [hkeeps.reports_eq, hwatch, List.nil_append]
      exact (and_iff_right htimely).symm

/-- A whole run, from any state on. -/
lemma flagsFollow_reportedFlags {s : MsdHistory × OpenDisplayComponent β} (h : MsdInv s)
    (ops : List (ComponentOp ω)) :
    FlagsFollow s.1.reported (reportedFlags s.2 ops) ↔
      Machine.AllSteps msdTracked MsdTimely s ops := by
  induction ops generalizing s with
  | nil => exact iff_of_true trivial trivial
  | cons op ops ih =>
      rw [reportedFlags, Machine.outputs_cons, flagsFollow_perform h op, Machine.allSteps_cons]
      exact and_congr_right fun _ => ih (h.step op)

/-- **When the reboot flag is reported exactly once.**  In every run from boot, of the answers to
a `0x0044` that the TX queue takes, the first carries the flag and no later one does, if and
only if each `0x0044` that finds room for its answer finds the record built again, since the
first `0x0044` was handled, exactly if the queue has taken an answer before. -/
theorem flagOnFirst_iff (b : β) (settings : ComponentSettings) (temperature : Int)
    (ops : List (ComponentOp ω)) :
    FlagOnFirst (reportedFlags (setup b settings temperature).2 ops) ↔
      Machine.AllSteps msdTracked MsdTimely
        (({} : MsdHistory), (setup b settings temperature).2) ops := by
  rw [← flagsFollow_false_iff]
  exact flagsFollow_reportedFlags (msdInv_setup b settings temperature) ops

/-- A client asks twice within the same millisecond. -/
def askedTwice : List (ComponentOp Unit) :=
  [.bleConnect, .bleWrite [0x00, 0x44] 0, .bleWrite [0x00, 0x44] 0] ++ loopParts 3 0

/-- Both answers carry the flag: the record is not built between them. -/
theorem flag_repeated_askedTwice :
    reportedFlags (setup (ScriptedPanel.accepting 3 []) defaultSettings 80).2 askedTwice =
        [true, true] ∧
      ¬ FlagOnFirst
        (reportedFlags (setup (ScriptedPanel.accepting 3 []) defaultSettings 80).2 askedTwice) := by
  decide +kernel

/-- A client reads the version until there is no room for another answer and asks in vain.  The
record is built without the flag, and the client asks again. -/
def askedInVain : List (ComponentOp Unit) :=
  .bleConnect :: List.replicate 20 (.bleWrite [0x00, 0x43] 0) ++ [.bleWrite [0x00, 0x44] 0] ++
    loopParts 38 0 ++ loopParts 16 1000 ++ [.bleWrite [0x00, 0x44] 1000] ++ loopParts 2 1000

-- the flag is never reported
example : reportedFlags (setup (ScriptedPanel.accepting 3 []) defaultSettings 80).2 askedInVain =
    [false] := by
  decide +kernel

end OpenDisplayComponent

end OpenDisplay
