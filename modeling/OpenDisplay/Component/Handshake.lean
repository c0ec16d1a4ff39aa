import OpenDisplay.Component.Outcome
import OpenDisplay.Backend.Scripted

/-!
# The end of a transfer, as the client sees it

A client that has sent the last byte waits for an END ACK and then, while the panel
refreshes, for `0x0073` or `0x0074`.  Two things go wrong.  A refresh that fails is
reported by neither.  And the END ACK is not sent as a terminal frame, so it may not use
the slots of the TX queue that are kept for the end of a transfer, and is dropped when
twelve frames are ahead of it, while the report of the refresh, which is terminal, still
gets in.  Both are the only ways.
-/

namespace OpenDisplay

/-! ### Frames -/

/-- `0x0073` or `0x0074`: the report that a refresh is over. -/
def isRefreshReport (r : Response) : Bool :=
  r = encodeAck respDirectWriteRefreshSuccess || r = encodeAck respDirectWriteRefreshTimeout

/-- The END ACK of a transfer. -/
def endAck (mode : TransferMode) : Response :=
  encodeAck (if mode = .direct then cmdDirectWriteEnd else cmdPipeWriteEnd)

lemma isRefreshReport_endAck (mode : TransferMode) : isRefreshReport (endAck mode) = false := by
  cases mode <;> rfl

lemma isEmpty_of_isRefreshReport {r : Response} (h : isRefreshReport r = true) :
    r.isEmpty = false := by
  simp only [isRefreshReport, Bool.or_eq_true, decide_eq_true_eq] at h
  rcases h with rfl | rfl <;> rfl

lemma isEmpty_endAck (mode : TransferMode) : (endAck mode).isEmpty = false := rfl

lemma endAck_ne_encodePipeSack (mode : TransferMode) (highestSeen : UInt8) (mask : UInt32) :
    endAck mode ≠ encodePipeSack highestSeen mask := by
  intro h
  cases mode <;> cases congrArg (fun r => r.bytes.length) h

/-- None of the component's own frames reports a refresh. -/
lemma OpenDisplayComponent.OwnFrame.not_refreshReport {r : Response} (h : OwnFrame r) :
    isRefreshReport r = false := by
  obtain ⟨bytes, fits⟩ := r
  rcases h with ⟨rest, h⟩ | ⟨opcode, rest, hopcode, h⟩
  · subst h
    rfl
  · rcases hopcode with rfl | rfl | rfl <;> (subst h; rfl)

namespace TransferEngine

open OpenDisplayBackend OpenDisplayComponent

variable {β ω : Type} [OpenDisplayBackend β] [PanelWorld β ω] {e e' : TransferEngine β}

/-! ### What the engine does to a refresh -/

/-- The tick finds the refresh complete, or still going on past its deadline. -/
def ReportsRefresh (e : TransferEngine β) : EngineOp ω → Prop
  | .tick now =>
      e.txn.state = .refreshing ∧ ((pollRefresh e.backend).1 = .complete ∨
        (pollRefresh e.backend).1 = .pending ∧ deadlinePassed now e.txn.refreshDeadlineMs = true)
  | _ => False

/-- The tick finds that the refresh has failed. -/
def FailsRefresh (e : TransferEngine β) : EngineOp ω → Prop
  | .tick _ => e.txn.state = .refreshing ∧ (pollRefresh e.backend).1 = .failed
  | _ => False

/-- Whether a tail SACK is staged when the operation completes the transfer: the last
`0x0081` always stages one, a `0x0082` only for chunks not acknowledged yet. -/
def stagesTail (e : TransferEngine β) : EngineOp ω → Bool
  | .pipeData _ _ => true
  | .pipeEnd _ _ => decide (e.txn.acceptedSinceAck ≠ 0)
  | _ => false

/-- What an operation does to refreshes, and the frames that `apply_result_` makes of
it: it begins one and acknowledges the END, reports the one that was refreshing, finds
that it failed, or none of these. -/
inductive HandshakeStep (e : TransferEngine β) (op : EngineOp ω) (e' : TransferEngine β) :
    List (Response × Bool) → Prop
  | quiet (frames : List (Response × Bool))
      (hframes : ∀ f ∈ frames, isRefreshReport f.1 = false)
      (hreports : ¬ e.ReportsRefresh op) (hfails : ¬ e.FailsRefresh op)
      (hentered : e'.txn.state = .refreshing → e.txn.state = .refreshing)
      (hleft : ∀ now, op = .tick now → e.txn.state = .refreshing → e'.txn.state = .refreshing) :
      HandshakeStep e op e' frames
  | ended (hop : ∀ now, op ≠ .tick now) (hstate : e.txn.state = .receiving)
      (hstate' : e'.txn.state = .refreshing)
      (tail : List Response) (htail : e'.takeTailSack.1.toList = tail)
      (hlength : tail.length = (e.stagesTail op).toNat)
      (hsack : ∀ r ∈ tail, ∃ highestSeen mask, r = encodePipeSack highestSeen mask) :
      HandshakeStep e op e' (tail.map (·, true) ++ [(endAck e.txn.mode, false)])
  | reported (hreports : e.ReportsRefresh op) (hfails : ¬ e.FailsRefresh op) (r : Response)
      (hr : isRefreshReport r = true) (hstate' : e'.txn.state = .idle) :
      HandshakeStep e op e' [(r, true)]
  | failed (hreports : ¬ e.ReportsRefresh op) (hfails : e.FailsRefresh op)
      (hstate' : e'.txn.state = .idle) : HandshakeStep e op e' []

section Steps

omit [PanelWorld β ω]

variable {op : EngineOp ω} {res : EngineResult}

omit [OpenDisplayBackend β] in
/-- A staged SACK is what `take_tail_sack` hands over. -/
lemma mem_takeTailSack {r : Response} (h : r ∈ e.takeTailSack.1.toList) :
    e.hasTailSack = true ∧ r = e.pendingTailSack := by
  rcases hhas : e.hasTailSack with _ | _
  · rw [takeTailSack_of_not hhas] at h
    cases h
  · rw [takeTailSack_of_has hhas] at h
    exact ⟨rfl, List.mem_singleton.mp h⟩

/-- An operation other than a tick that begins no refresh: what it sends is no report. -/
lemma HandshakeStep.of_quiet (hop : ∀ now, op ≠ .tick now)
    (hentered : e'.txn.state = .refreshing → e.txn.state = .refreshing)
    (hsack : e'.hasTailSack = true → isRefreshReport e'.pendingTailSack = false)
    (hresponse : isRefreshReport res.response = false) (hcomplete : res.refreshComplete = false)
    (htimeout : res.refreshTimeout = false) :
    HandshakeStep e op e' (resultFrames e'.takeTailSack.1 res) := by
  refine .quiet _ (fun f hf => ?_) ?_ ?_ hentered (fun now h => absurd h (hop now))
  · simp only [resultFrames, hcomplete, htimeout, Bool.false_eq_true, if_false, List.append_nil,
      List.mem_append, List.mem_map] at hf
    rcases hf with ⟨r, hr, rfl⟩ | hf
    · obtain ⟨hhas, rfl⟩ := mem_takeTailSack hr
      exact hsack hhas
    · split_ifs at hf
      · obtain rfl := List.mem_singleton.mp hf
        exact hresponse
      · cases hf
  · cases op with
    | tick now => exact absurd rfl (hop now)
    | _ => exact id
  · cases op with
    | tick now => exact absurd rfl (hop now)
    | _ => exact id

/-- The same, if no SACK is staged. -/
lemma HandshakeStep.of_unstaged (hop : ∀ now, op ≠ .tick now)
    (hentered : e'.txn.state = .refreshing → e.txn.state = .refreshing)
    (hstaged : e'.hasTailSack = false) (hresponse : isRefreshReport res.response = false)
    (hcomplete : res.refreshComplete = false) (htimeout : res.refreshTimeout = false) :
    HandshakeStep e op e' (resultFrames e'.takeTailSack.1 res) :=
  .of_quiet hop hentered (fun h => absurd (hstaged.symm.trans h) (by decide)) hresponse hcomplete
    htimeout

/-- An operation that begins a refresh: it acknowledges the END behind the tail SACK. -/
lemma HandshakeStep.of_ended (hop : ∀ now, op ≠ .tick now) (hstate : e.txn.state = .receiving)
    (hstate' : e'.txn.state = .refreshing) (hstaged : e'.hasTailSack = e.stagesTail op)
    (hsack : e'.hasTailSack = true →
      ∃ highestSeen mask, e'.pendingTailSack = encodePipeSack highestSeen mask) :
    HandshakeStep e op e' (resultFrames e'.takeTailSack.1 (reply (endAck e.txn.mode))) := by
  have hframes : resultFrames e'.takeTailSack.1 (reply (endAck e.txn.mode)) =
      e'.takeTailSack.1.toList.map (·, true) ++ [(endAck e.txn.mode, false)] := by
    simp [resultFrames, reply, isEmpty_endAck]
  rw [hframes]
  refine .ended hop hstate hstate' _ rfl ?_ fun r hr => ?_
  · rw [← hstaged]
    unfold takeTailSack
    split_ifs with h <;> simp [h]
  · obtain ⟨hhas, rfl⟩ := mem_takeTailSack hr
    exact hsack hhas

/-- The end of a transfer, on an engine `e₁` that has staged what is to be staged. -/
lemma FinishOutcome.handshakeStep {e₁ : TransferEngine β} {now : UInt32}
    (ho : FinishOutcome e₁ (if e.txn.mode = .direct then cmdDirectWriteEnd else cmdPipeWriteEnd)
      now res e') (hop : ∀ now, op ≠ .tick now) (hstate : e.txn.state = .receiving)
    (hstaged : e₁.hasTailSack = e.stagesTail op)
    (hsack : e₁.hasTailSack = true →
      ∃ highestSeen mask, e₁.pendingTailSack = encodePipeSack highestSeen mask) :
    HandshakeStep e op e' (resultFrames e'.takeTailSack.1 res) := by
  obtain ⟨hhas, hpending⟩ := ho.staged
  rw [← hhas, ← hpending] at hsack
  have hquiet : e'.hasTailSack = true → isRefreshReport e'.pendingTailSack = false := by
    intro h
    obtain ⟨highestSeen, mask, hp⟩ := hsack h
    rw [hp]
    rfl
  cases ho with
  | incomplete | finishFailed | refreshFailed => exact .of_quiet hop (by simp) hquiet rfl rfl rfl
  | refreshing => exact .of_ended hop hstate rfl hstaged hsack

/-- A tick stages no SACK. -/
lemma tick_hasTailSack (e : TransferEngine β) (now : UInt32) :
    (e.tick now).2.hasTailSack = e.hasTailSack := by
  have ho := tick_outcome e now
  generalize (e.tick now).1 = res, (e.tick now).2 = e' at ho ⊢
  have hpolled : ∀ {e₁}, Polled e e₁ → e₁.hasTailSack = e.hasTailSack := by
    intro e₁ hp
    cases hp <;> rfl
  cases ho with
  | complete | failed | released => rfl
  | waiting _ hp => exact hpolled hp
  | transferTimeout _ hp | refreshTimeout _ hp => simpa using hpolled hp

lemma tick_handshakeStep {t : Transfer} (h : Ledger t e) (hstaged : e.hasTailSack = false)
    (now : UInt32) :
    HandshakeStep e (.tick now : EngineOp ω) (e.tick now).2
      (resultFrames (e.tick now).2.takeTailSack.1 (e.tick now).1) := by
  rw [takeTailSack_of_not ((tick_hasTailSack e now).trans hstaged)]
  have ho := tick_outcome e now
  generalize (e.tick now).1 = res, (e.tick now).2 = e' at ho ⊢
  -- a panel that refreshes is ours, so it has been polled
  have hpolled : ∀ {e₁}, Polled e e₁ → e₁.txn = e.txn ∧
      (e.txn.state = .refreshing → (pollRefresh e.backend).1 = .pending) := by
    intro e₁ hp
    cases hp with
    | free hw =>
        refine ⟨rfl, fun hstate => ?_⟩
        exact absurd (hw.symm.trans (h.hwOwned_of_refreshing hstate)) (by decide)
    | pending _ hpoll => exact ⟨rfl, fun _ => hpoll⟩
  cases ho with
  | complete _ hpoll hstate =>
      have hreports : e.ReportsRefresh (.tick now : EngineOp ω) := ⟨hstate, Or.inl hpoll⟩
      exact .reported hreports (by simp [FailsRefresh, hpoll]) _ rfl rfl
  | failed _ hpoll hstate =>
      exact .failed (by simp [ReportsRefresh, hpoll]) ⟨hstate, hpoll⟩ rfl
  | released _ _ hstate =>
      exact .quiet _ (fun f hf => nomatch hf) (fun h => hstate h.1) (fun h => hstate h.1) id
        (fun _ _ => id)
  | waiting _ hp _ hrefresh =>
      obtain ⟨htxn, hpending⟩ := hpolled hp
      refine .quiet _ (fun f hf => nomatch hf) ?_ ?_ (by rw [htxn]; exact id)
        (fun _ _ => by rw [htxn]; exact id)
      · rintro ⟨hstate, hpoll | ⟨-, hpassed⟩⟩
        · rw [hpending hstate] at hpoll
          cases hpoll
        · exact hrefresh ⟨by rw [htxn]; exact hstate, by rw [htxn]; exact hpassed⟩
      · rintro ⟨hstate, hpoll⟩
        rw [hpending hstate] at hpoll
        cases hpoll
  | transferTimeout _ hp htransfer =>
      have hstate : e.txn.state ≠ .refreshing := by
        rw [← (hpolled hp).1]
        intro hstate
        rcases htransfer.1 with h | h | h <;> (rw [hstate] at h; cases h)
      exact .quiet _ (fun f hf => nomatch hf) (fun h => hstate h.1) (fun h => hstate h.1)
        (by simp) (fun _ _ h => absurd h hstate)
  | refreshTimeout _ hp hrefresh =>
      obtain ⟨htxn, hpending⟩ := hpolled hp
      rw [RefreshExpired, htxn] at hrefresh
      have hpoll := hpending hrefresh.1
      have hreports : e.ReportsRefresh (.tick now : EngineOp ω) :=
        ⟨hrefresh.1, Or.inr ⟨hpoll, hrefresh.2⟩⟩
      exact .reported hreports (by simp [FailsRefresh, hpoll]) _ rfl (by simp)

lemma pipeData_handshakeStep (hstaged : e.hasTailSack = false) (p : Payload) (now : UInt32) :
    HandshakeStep e (.pipeData p now : EngineOp ω) (e.onPipeData p now).2
      (resultFrames (e.onPipeData p now).2.takeTailSack.1 (e.onPipeData p now).1) := by
  have ho := onPipeData_outcome e p now
  generalize (e.onPipeData p now).1 = res, (e.onPipeData p now).2 = e' at ho ⊢
  have hop : ∀ n, (.pipeData p now : EngineOp ω) ≠ .tick n := by simp
  cases ho with
  | latched | outOfOrder => exact .of_unstaged hop id hstaged rfl rfl rfl
  | misplaced => exact .of_unstaged hop id hstaged rfl rfl rfl
  | malformed | oversize | writeFailed =>
      exact .of_unstaged hop (by simp) (by simpa using hstaged) rfl rfl rfl
  | accepted _ hplace _ _ _ _ _ _ hchunk =>
      cases hchunk with
      | completed _ _ _ hfinish =>
          have hmode : e.txn.mode ≠ .direct := by rw [hplace.2]; decide
          rw [← if_neg hmode (e := cmdPipeWriteEnd) (t := cmdDirectWriteEnd)] at hfinish
          exact hfinish.handshakeStep hop hplace.1 rfl fun _ => ⟨_, _, rfl⟩
      | sacked => exact .of_unstaged hop id hstaged rfl rfl rfl
      | silent => exact .of_unstaged hop id hstaged rfl rfl rfl

lemma BeginOutcome.of_refreshing {mode : TransferMode} {total now : UInt32}
    {why : Option ErrorCode} (h : BeginOutcome e mode total now why e')
    (hstate : e'.txn.state = .refreshing) : e.txn.state = .refreshing := by
  cases why with
  | some why =>
      rcases h.txn_of_refused with htxn | hidle
      · rwa [htxn] at hstate
      · rw [hidle] at hstate
        cases hstate
  | none => cases h; cases hstate

/-- A START begins no refresh and stages no SACK. -/
lemma BeginOutcome.handshakeStep {e₁ : TransferEngine β} {mode : TransferMode}
    {total now : UInt32} {why : Option ErrorCode} (h : BeginOutcome e mode total now why e₁)
    (hop : ∀ now, op ≠ .tick now) (hstaged : e.hasTailSack = false)
    (hstate : e'.txn.state = e₁.txn.state) (hhas : e'.hasTailSack = e₁.hasTailSack)
    (hresponse : isRefreshReport res.response = false) (hcomplete : res.refreshComplete = false)
    (htimeout : res.refreshTimeout = false) :
    HandshakeStep e op e' (resultFrames e'.takeTailSack.1 res) := by
  refine .of_unstaged hop (fun h' => h.of_refreshing (hstate ▸ h')) ?_ hresponse hcomplete htimeout
  rw [hhas, h.hasTailSack, hstaged]

lemma pipeStart_handshakeStep (hstaged : e.hasTailSack = false) (p : Payload) (now : UInt32) :
    HandshakeStep e (.pipeStart p now : EngineOp ω) (e.onPipeStart p now).2
      (resultFrames (e.onPipeStart p now).2.takeTailSack.1 (e.onPipeStart p now).1) := by
  have ho := onPipeStart_outcome e p now
  generalize (e.onPipeStart p now).1 = res, (e.onPipeStart p now).2 = e' at ho ⊢
  have hop : ∀ n, (.pipeStart p now : EngineOp ω) ≠ .tick n := by simp
  cases ho with
  | badHeader | compressed =>
      exact .of_unstaged hop id hstaged rfl rfl rfl
  | refused _ _ _ _ _ hbegin => exact hbegin.handshakeStep hop hstaged rfl rfl rfl rfl rfl
  | started _ _ _ _ hbegin => exact hbegin.handshakeStep hop hstaged rfl rfl rfl rfl rfl

lemma pipeEnd_handshakeStep (hstaged : e.hasTailSack = false) (p : Payload) (now : UInt32) :
    HandshakeStep e (.pipeEnd p now : EngineOp ω) (e.onPipeEnd p now).2
      (resultFrames (e.onPipeEnd p now).2.takeTailSack.1 (e.onPipeEnd p now).1) := by
  have ho := onPipeEnd_outcome e p now
  generalize (e.onPipeEnd p now).1 = res, (e.onPipeEnd p now).2 = e' at ho ⊢
  have hop : ∀ n, (.pipeEnd p now : EngineOp ω) ≠ .tick n := by simp
  have hmode : e.PipeReceiving → e.txn.mode ≠ .direct := fun hplace => by
    rw [hplace.2]
    decide
  cases ho with
  | misplaced => exact .of_unstaged hop id hstaged rfl rfl rfl
  | flushed hplace htail _ _ hfinish =>
      rw [← if_neg (hmode hplace) (e := cmdPipeWriteEnd) (t := cmdDirectWriteEnd)] at hfinish
      exact hfinish.handshakeStep hop hplace.1 (by simp [stageTailSack, stagesTail, htail])
        fun _ => ⟨_, _, rfl⟩
  | finished hplace htail _ _ hfinish =>
      rw [← if_neg (hmode hplace) (e := cmdPipeWriteEnd) (t := cmdDirectWriteEnd)] at hfinish
      exact hfinish.handshakeStep hop hplace.1 (by simp [stagesTail, htail, hstaged])
        fun h => absurd (hstaged.symm.trans h) (by decide)

end Steps

/-- **Every operation is one of these for a refresh.** -/
theorem perform_handshakeStep {t : Transfer} (h : Ledger t e) (hstaged : e.hasTailSack = false)
    (op : EngineOp ω) :
    HandshakeStep e op (e.step op)
      (resultFrames (e.step op).takeTailSack.1 (e.perform op).1) := by
  cases op with
  | directStart p now =>
      have ho := onDirectStart_outcome e p now
      simp only [step, perform]
      generalize (e.onDirectStart p now).1 = res, (e.onDirectStart p now).2 = e' at ho ⊢
      have hop : ∀ n, (.directStart p now : EngineOp ω) ≠ .tick n := by simp
      cases ho with
      | compressed => exact .of_unstaged hop id hstaged rfl rfl rfl
      | refused _ _ _ hbegin => exact hbegin.handshakeStep hop hstaged rfl rfl rfl rfl rfl
      | started _ _ hbegin => exact hbegin.handshakeStep hop hstaged rfl rfl rfl rfl rfl
  | directData p now =>
      have ho := onDirectData_outcome e p now
      simp only [step, perform]
      generalize (e.onDirectData p now).1 = res, (e.onDirectData p now).2 = e' at ho ⊢
      have hop : ∀ n, (.directData p now : EngineOp ω) ≠ .tick n := by simp
      cases ho with
      | misplaced => exact .of_unstaged hop id hstaged rfl rfl rfl
      | malformed | oversize | writeFailed =>
          exact .of_unstaged hop (by simp) (by simpa using hstaged) rfl rfl rfl
      | accepted => exact .of_unstaged hop id hstaged rfl rfl rfl
  | directEnd p now =>
      have ho := onDirectEnd_outcome e p now
      simp only [step, perform]
      generalize (e.onDirectEnd p now).1 = res, (e.onDirectEnd p now).2 = e' at ho ⊢
      have hop : ∀ n, (.directEnd p now : EngineOp ω) ≠ .tick n := by simp
      cases ho with
      | misplaced => exact .of_unstaged hop id hstaged rfl rfl rfl
      | finished hstate hmode _ _ hfinish =>
          rw [← if_pos hmode (e := cmdPipeWriteEnd) (t := cmdDirectWriteEnd)] at hfinish
          exact hfinish.handshakeStep hop hstate hstaged
            fun h => absurd (hstaged.symm.trans h) (by decide)
  | pipeStart p now => exact pipeStart_handshakeStep hstaged p now
  | pipeData p now => exact pipeData_handshakeStep hstaged p now
  | pipeEnd p now => exact pipeEnd_handshakeStep hstaged p now
  | tick now => exact tick_handshakeStep h hstaged now
  | abort error =>
      exact .of_unstaged (by simp) (by simp [step, perform])
        (by simpa [step, perform] using hstaged) rfl rfl rfl
  | disconnect gen =>
      have ho := onDisconnect_outcome e gen
      simp only [step, perform]
      generalize e.onDisconnect gen = e' at ho ⊢
      cases ho with
      | ignored => exact .of_unstaged (by simp) id hstaged rfl rfl rfl
      | aborted =>
          exact .of_unstaged (by simp) (by simp) (by simpa using hstaged) rfl rfl rfl
  | setConnectionGeneration | world =>
      exact .of_unstaged (by simp) id hstaged rfl rfl rfl
  | takeTailSack =>
      refine .of_unstaged (by simp) ?_ ?_ rfl rfl rfl
      · simp only [step, perform, takeTailSack_txn]
        exact id
      · simp [step, perform]

end TransferEngine

namespace OpenDisplayComponent

variable {β ω : Type} [OpenDisplayBackend β] [PanelWorld β ω]

/-! ### What the component does to a refresh -/

/-- The time of the tick that the next part of the loop makes. -/
def nextTick (c : OpenDisplayComponent β) : ComponentOp ω → Option UInt32
  | .loop _ _ =>
      match c.phase with
      | .tick startMs => some startMs
      | _ => none
  | _ => none

/-- What the packet that the next part of the loop takes asks of the engine. -/
def nextOp (c : OpenDisplayComponent β) : ComponentOp ω → Option (EngineOp ω)
  | .loop now _ => c.nextPacket.bind fun pkt => pkt.frame.bind fun f => packetOp f now
  | _ => none

/-- The packet makes `finish_and_refresh_` succeed. -/
def Completes (c : OpenDisplayComponent β) (op : ComponentOp ω) : Prop :=
  c.engine.txn.state ≠ .refreshing ∧ (c.step op).engine.txn.state = .refreshing

/-- The tick takes the engine out of `REFRESHING`. -/
def LeavesRefreshing (c : OpenDisplayComponent β) (op : ComponentOp ω) : Prop :=
  (c.nextTick op).isSome = true ∧ c.engine.txn.state = .refreshing ∧
    (c.step op).engine.txn.state ≠ .refreshing

/-- The tick finds the refresh complete, or still going on past its deadline. -/
def ReportsRefresh (c : OpenDisplayComponent β) (op : ComponentOp ω) : Prop :=
  ∃ startMs ∈ c.nextTick op, c.engine.ReportsRefresh (.tick startMs : EngineOp ω)

/-- The tick finds that the refresh has failed. -/
def FailsRefresh (c : OpenDisplayComponent β) (op : ComponentOp ω) : Prop :=
  ∃ startMs ∈ c.nextTick op, c.engine.FailsRefresh (.tick startMs : EngineOp ω)

/-- The tail SACK that is staged when the packet has been handled. -/
def stagedTail (c : OpenDisplayComponent β) (op : ComponentOp ω) : Option Response :=
  (c.nextOp op).bind fun eop => (c.engine.step eop).takeTailSack.1

/-- How many tail SACKs go ahead of the END ACK if the packet completes the transfer. -/
def tailFrames (c : OpenDisplayComponent β) (op : ComponentOp ω) : ℕ :=
  match c.nextOp op with
  | some eop => (c.engine.stagesTail eop).toNat
  | none => 0

omit [OpenDisplayBackend β] [PanelWorld β ω] in
lemma tailFrames_le (c : OpenDisplayComponent β) (op : ComponentOp ω) : c.tailFrames op ≤ 1 := by
  rw [tailFrames]
  split
  · exact Bool.toNat_le _
  · exact Nat.zero_le _

/-- What a step does to refreshes, with the frames it hands to `send_` for it. -/
inductive RefreshStep (c : OpenDisplayComponent β) (op : ComponentOp ω) : Prop
  | quiet (hcompletes : ¬ c.Completes op) (hleaves : ¬ c.LeavesRefreshing op)
      (hreports : ¬ c.ReportsRefresh op) (hfails : ¬ c.FailsRefresh op)
      (hqueued : ∀ r ∈ queuedFrames (c.perform op).1, isRefreshReport r = false)
  | ended (hcompletes : c.Completes op) (hleaves : ¬ c.LeavesRefreshing op)
      (hreports : ¬ c.ReportsRefresh op) (hfails : ¬ c.FailsRefresh op)
      (tail : List Response) (htail : (c.stagedTail op).toList = tail)
      (hlength : tail.length = c.tailFrames op)
      (hsack : ∀ r ∈ tail, ∃ highestSeen mask, r = encodePipeSack highestSeen mask)
      (hhanded : handedFrames (c.perform op).1 =
        tail.map (·, true) ++ [(endAck c.engine.txn.mode, false)])
      (hqueued : queuedFrames (c.perform op).1 =
        (c.tx.pushAll (tail.map (·, true) ++ [(endAck c.engine.txn.mode, false)])).1)
  | reported (hcompletes : ¬ c.Completes op) (hleaves : c.LeavesRefreshing op)
      (hreports : c.ReportsRefresh op) (hfails : ¬ c.FailsRefresh op) (r : Response)
      (hr : isRefreshReport r = true) (hhanded : handedFrames (c.perform op).1 = [(r, true)])
      (hqueued : queuedFrames (c.perform op).1 = (c.tx.pushAll [(r, true)]).1)
  | failed (hcompletes : ¬ c.Completes op) (hleaves : c.LeavesRefreshing op)
      (hreports : ¬ c.ReportsRefresh op) (hfails : c.FailsRefresh op)
      (hhanded : handedFrames (c.perform op).1 = [])
      (hqueued : queuedFrames (c.perform op).1 = [])

/-- A tick of the component is a tick of the engine. -/
lemma answered_of_nextTick {c : OpenDisplayComponent β} {op : ComponentOp ω} {startMs : UInt32}
    (h : c.nextTick op = some startMs) :
    Answered c (.tick startMs : EngineOp ω) (c.perform op) := by
  cases op with
  | loop now temperature =>
      have hphase : c.phase = .tick startMs := by
        rw [nextTick] at h
        split at h
        · rename_i s hphase
          rw [hphase, Option.some.inj h]
        · cases h
      change Answered c _ (c.loop now temperature)
      rw [loop, hphase]
      exact answered_answer c { c with phase := .updateMsd startMs } rfl rfl (.tick startMs)
  | bleConnect | bleDisconnect | bleWrite | abort | world => cases h

/-- How the next part of the loop comes to an operation of the engine: it makes the tick,
or it takes a packet. -/
def Asks (c : OpenDisplayComponent β) (op : ComponentOp ω) (eop : EngineOp ω) : Prop :=
  (∃ startMs, c.nextTick op = some startMs ∧ eop = .tick startMs) ∨
    c.nextTick op = none ∧ c.nextOp op = some eop ∧ ∀ startMs, eop ≠ .tick startMs

section Asks

omit [PanelWorld β ω]

variable {c : OpenDisplayComponent β} {op : ComponentOp ω} {eop : EngineOp ω}

lemma Asks.reports_iff (h : Asks c op eop) :
    c.ReportsRefresh op ↔ c.engine.ReportsRefresh eop := by
  rcases h with ⟨startMs, htick, rfl⟩ | ⟨htick, -, hne⟩
  · simp [ReportsRefresh, htick, TransferEngine.ReportsRefresh]
  · refine iff_of_false (by simp [ReportsRefresh, htick]) ?_
    cases eop with
    | tick now => exact absurd rfl (hne now)
    | _ => exact id

lemma Asks.fails_iff (h : Asks c op eop) : c.FailsRefresh op ↔ c.engine.FailsRefresh eop := by
  rcases h with ⟨startMs, htick, rfl⟩ | ⟨htick, -, hne⟩
  · simp [FailsRefresh, htick, TransferEngine.FailsRefresh]
  · refine iff_of_false (by simp [FailsRefresh, htick]) ?_
    cases eop with
    | tick now => exact absurd rfl (hne now)
    | _ => exact id

end Asks

/-- A part of the loop that answers a packet or makes the tick. -/
lemma Answered.refreshStep {c : OpenDisplayComponent β} {op : ComponentOp ω} {eop : EngineOp ω}
    (ha : Answered c eop (c.perform op)) (h : Settled c.engine) (hasks : Asks c op eop) :
    RefreshStep c op := by
  obtain ⟨t, hledger⟩ := h.ledger
  have hstep := TransferEngine.perform_handshakeStep hledger h.staged eop
  have hhanded := ha.handed_eq
  have hqueued := ha.queued_eq
  have hstate : (c.step op).engine.txn.state = (c.engine.step eop).txn.state :=
    congrArg Transaction.state ha.txn_eq
  generalize resultFrames (c.engine.step eop).takeTailSack.1 (c.engine.perform eop).1 = frames
    at hstep hhanded hqueued
  cases hstep with
  | quiet _ hframes hreports hfails hentered hleft =>
      refine .quiet (fun hc => hc.1 (hentered (hstate ▸ hc.2))) (fun hl => ?_)
        (mt hasks.reports_iff.mp hreports) (mt hasks.fails_iff.mp hfails) fun r hr => ?_
      · obtain ⟨hsome, hbefore, hafter⟩ := hl
        rcases hasks with ⟨startMs, -, rfl⟩ | ⟨htick, -⟩
        · exact hafter (hstate ▸ hleft startMs rfl hbefore)
        · rw [htick] at hsome
          cases hsome
      · rw [hqueued] at hr
        obtain ⟨terminal, hmem⟩ := TxQueue.exists_mem_of_mem_pushAll hr
        exact hframes _ hmem
  | ended hop hbefore hafter tail htail hlength hsack =>
      have hreceiving : c.engine.txn.state ≠ .refreshing := by rw [hbefore]; decide
      obtain ⟨startMs, -, rfl⟩ | ⟨htick, hnext, -⟩ := hasks
      · exact absurd rfl (hop startMs)
      · refine .ended ⟨hreceiving, hstate.trans hafter⟩ (fun hl => hreceiving hl.2.1)
          (by simp [ReportsRefresh, htick]) (by simp [FailsRefresh, htick]) tail ?_ ?_ hsack hhanded
          hqueued
        · rw [stagedTail, hnext]
          exact htail
        · rw [tailFrames, hnext]
          exact hlength
  | reported hreports hfails r hr hafter =>
      obtain ⟨startMs, htick, rfl⟩ | ⟨-, -, hne⟩ := id hasks
      · refine .reported (fun hc => hc.1 hreports.1) ⟨by simp [htick], hreports.1, ?_⟩
          (hasks.reports_iff.mpr hreports) (mt hasks.fails_iff.mp hfails) r hr hhanded hqueued
        rw [hstate, hafter]
        decide
      · cases eop with
        | tick now => exact absurd rfl (hne now)
        | _ => exact hreports.elim
  | failed hreports hfails hafter =>
      obtain ⟨startMs, htick, rfl⟩ | ⟨-, -, hne⟩ := id hasks
      · refine .failed (fun hc => hc.1 hfails.1) ⟨by simp [htick], hfails.1, ?_⟩
          (mt hasks.reports_iff.mp hreports) (hasks.fails_iff.mpr hfails) hhanded hqueued
        rw [hstate, hafter]
        decide
      · cases eop with
        | tick now => exact absurd rfl (hne now)
        | _ => exact hfails.elim

/-- **Every step is one of these for a refresh.** -/
theorem perform_refreshStep {c : OpenDisplayComponent β} (h : Settled c.engine)
    (op : ComponentOp ω) : RefreshStep c op := by
  rcases htick : c.nextTick op with _ | startMs
  · -- without a tick only a packet concerns a refresh
    have hquiet : ((c.step op).engine.txn.state = .refreshing → c.engine.txn.state = .refreshing) →
        (∀ r ∈ queuedFrames (c.perform op).1, isRefreshReport r = false) → RefreshStep c op :=
      fun hentered hqueued => .quiet (fun hc => hc.1 (hentered hc.2))
        (fun hl => by simp [LeavesRefreshing, htick] at hl) (by simp [ReportsRefresh, htick])
        (by simp [FailsRefresh, htick]) hqueued
    have ho := perform_engineStep c op
    cases ho with
    | kept hengine _ hqueued =>
        refine hquiet ?_ fun r hr => (hqueued r hr).not_refreshReport
        rw [step, hengine]
        exact id
    | connected _ hfx hengine | happened _ _ hfx hengine =>
        refine hquiet ?_ (by simp [hfx, queuedFrames])
        rw [step, hengine]
        exact id
    | idled _ _ _ _ hfx hengine =>
        refine hquiet ?_ (by simp [hfx, queuedFrames])
        have hd := TransferEngine.onDisconnect_outcome c.engine c.connectionGeneration
        rw [step, hengine]
        simp only [TransferEngine.step, TransferEngine.perform]
        generalize c.engine.onDisconnect c.connectionGeneration = e₁ at hd ⊢
        cases hd with
        | ignored => exact id
        | aborted => simp
    | aborted _ hfx hengine =>
        refine hquiet ?_ (by simp [hfx, queuedFrames])
        rw [step, hengine]
        simp [TransferEngine.step, TransferEngine.perform]
    | packet now temperature hop pkt hnext _ f hframe eop heop ha =>
        refine ha.refreshStep h (Or.inr ⟨htick, ?_, ?_⟩)
        · subst hop
          simp [nextOp, hnext, hframe, heop]
        · rw [packetOp] at heop
          split_ifs at heop <;> (obtain rfl := Option.some.inj heop; simp)
    | ticked _ startMs _ hop hphase =>
        subst hop
        simp [nextTick, hphase] at htick
  · exact (answered_of_nextTick htick).refreshStep h (Or.inl ⟨startMs, htick, rfl⟩)

/-! ### Every refresh is reported -/

/-- What is remembered of the packet that completed the last transfer: how many frames
were in the TX queue, how many tail SACKs were staged, and whether the END ACK was
handed to `send_` and whether the queue took it. -/
structure EndHistory where
  used : ℕ := 0
  tails : ℕ := 0
  handed : Bool := false
  queued : Bool := false

instance (c : OpenDisplayComponent β) (op : ComponentOp ω) : Decidable (c.Completes op) :=
  inferInstanceAs (Decidable (_ ∧ _))

/-- The monitor of the transfers that are completed. -/
def watchEnd (h : EndHistory) (c : OpenDisplayComponent β) (op : ComponentOp ω) : EndHistory :=
  if c.Completes op then
    { used := c.tx.used
      tails := c.tailFrames op
      handed := decide (endAck c.engine.txn.mode ∈ (handedFrames (c.perform op).1).map Prod.fst)
      queued := decide (endAck c.engine.txn.mode ∈ queuedFrames (c.perform op).1) }
  else h

/-- The component that carries the history of the transfers that are completed. -/
abbrev endTracked : EndHistory × OpenDisplayComponent β → ComponentOp ω →
    EndHistory × OpenDisplayComponent β := Machine.monitored step watchEnd

/-- If the tick ends the refresh of a transfer whose END was acknowledged, it hands
exactly one `0x0073` or `0x0074` to `send_`. -/
def EndAnswered (s : EndHistory × OpenDisplayComponent β) (op : ComponentOp ω) : Prop :=
  s.2.LeavesRefreshing op → s.1.handed = true →
    (handedFrames (s.2.perform op).1).countP (fun f => isRefreshReport f.1) = 1

instance (c : OpenDisplayComponent β) (op : ComponentOp ω) : Decidable (c.LeavesRefreshing op) :=
  inferInstanceAs (Decidable (_ ∧ _ ∧ _))

instance (s : EndHistory × OpenDisplayComponent β) (op : ComponentOp ω) :
    Decidable (EndAnswered s op) :=
  inferInstanceAs (Decidable (_ → _ → _ = 1))

/-- The END ACK finds room behind the tail SACK, though it is not sent as a terminal
frame. -/
def EndHistory.Fits (h : EndHistory) : Prop :=
  h.used + h.tails + txReservedForTerminal < txQueueSlots

/-- What the history says of the component. -/
structure EndInv (s : EndHistory × OpenDisplayComponent β) : Prop where
  settled : Settled s.2.engine
  handed_eq : s.2.engine.txn.state = .refreshing → s.1.handed = true
  queued_iff : s.2.engine.txn.state = .refreshing → (s.1.queued = true ↔ s.1.Fits)

/-- Of the handshake, the queue takes the tail SACK if it is not full, and the END ACK if
there is room for a frame that is not terminal. -/
lemma pushAll_handshake {q : TxQueue} {tail : List Response} (hlength : tail.length ≤ 1)
    (hsack : ∀ r ∈ tail, ∃ highestSeen mask, r = encodePipeSack highestSeen mask)
    (mode : TransferMode) :
    (q.pushAll (tail.map (·, true) ++ [(endAck mode, false)])).1 =
      (if q.used + 1 < txQueueSlots then tail else []) ++
        if q.used + tail.length + txReservedForTerminal < txQueueSlots then [endAck mode]
        else [] := by
  rcases tail with _ | ⟨sack, rest⟩
  · simp [TxQueue.pushAll_singleton (isEmpty_endAck mode), TxQueue.Accepts]
  · obtain rfl : rest = [] := List.eq_nil_of_length_eq_zero (by simpa using hlength)
    obtain ⟨highestSeen, mask, hr⟩ := hsack sack List.mem_cons_self
    have hempty : sack.isEmpty = false := by rw [hr]; rfl
    simp only [List.map_cons, List.map_nil, List.singleton_append, List.length_singleton]
    by_cases hroom : q.Accepts true
    · have hused : q.used + 1 < txQueueSlots := hroom
      rw [TxQueue.pushAll_of_accepts hempty hroom,
        TxQueue.pushAll_singleton (isEmpty_endAck mode), if_pos hused]
      simp [TxQueue.Accepts, TxQueue.used_push_of_accepts hempty hroom]
    · have hused : ¬ q.used + 1 < txQueueSlots := hroom
      have hreserve : ¬ q.Accepts false := fun h =>
        hused (Nat.lt_of_le_of_lt (Nat.add_le_add_left (by decide) _) h)
      rw [TxQueue.pushAll_of_not_accepts hempty hroom,
        TxQueue.pushAll_singleton (isEmpty_endAck mode), if_neg hused, if_neg hreserve,
        if_neg (by omega)]
      rfl

lemma EndInv.step {s : EndHistory × OpenDisplayComponent β} (h : EndInv s)
    (op : ComponentOp ω) : EndInv (endTracked s op) := by
  have hsettled := h.settled.step op
  by_cases hcompletes : s.2.Completes op
  · cases perform_refreshStep h.settled op with
    | quiet hc | reported hc | failed hc => exact absurd hcompletes hc
    | ended _ _ _ _ tail _ hlength hsack hhanded hqueued =>
        have hwatch : watchEnd s.1 s.2 op = _ := if_pos hcompletes
        refine ⟨hsettled, fun _ => ?_, fun _ => ?_⟩
        · change (watchEnd s.1 s.2 op).handed = true
          rw [hwatch, hhanded]
          simp
        · change (watchEnd s.1 s.2 op).queued = true ↔ (watchEnd s.1 s.2 op).Fits
          have htail : tail.length ≤ 1 := hlength ▸ tailFrames_le _ _
          have hnot : endAck s.2.engine.txn.mode ∉ tail := fun hmem => by
            obtain ⟨highestSeen, mask, h⟩ := hsack _ hmem
            exact endAck_ne_encodePipeSack _ _ _ h
          rw [hwatch, hqueued, pushAll_handshake htail hsack, EndHistory.Fits, ← hlength]
          simp [hnot]
  · -- a transfer that is refreshing was so before
    have hbefore : (s.2.step op).engine.txn.state = .refreshing →
        s.2.engine.txn.state = .refreshing := fun hafter => by
      by_contra hne
      exact hcompletes ⟨hne, hafter⟩
    have hwatch : watchEnd s.1 s.2 op = s.1 := if_neg hcompletes
    refine ⟨hsettled, fun hafter => ?_, fun hafter => ?_⟩
    · change (watchEnd s.1 s.2 op).handed = true
      rw [hwatch]
      exact h.handed_eq (hbefore hafter)
    · change (watchEnd s.1 s.2 op).queued = true ↔ (watchEnd s.1 s.2 op).Fits
      rw [hwatch]
      exact h.queued_iff (hbefore hafter)

omit [OpenDisplayBackend β] in
lemma endInv_setup (b : β) (settings : ComponentSettings) (temperature : Int) :
    EndInv (({} : EndHistory), (setup b settings temperature).2) := by
  have hidle : (setup b settings temperature).2.engine.txn.state ≠ .refreshing := by
    rw [(setup_fresh b settings temperature).1]
    exact fun h => nomatch h
  exact ⟨settled_setup b settings temperature, fun h => absurd h hidle, fun h => absurd h hidle⟩

/-- **When every END is answered.**  A run answers every transfer whose END it has
acknowledged with exactly one report of the refresh if and only if no tick finds that a
refresh has failed. -/
theorem endAnswered_iff (b : β) (settings : ComponentSettings) (temperature : Int)
    (ops : List (ComponentOp ω)) :
    Machine.AllSteps endTracked EndAnswered
        (({} : EndHistory), (setup b settings temperature).2) ops ↔
      Machine.AllSteps endTracked (fun s op => ¬ s.2.FailsRefresh op)
        (({} : EndHistory), (setup b settings temperature).2) ops := by
  refine Machine.allSteps_congr (I := EndInv) (fun _ op h _ => h.step op) (fun s op h => ?_)
    (endInv_setup b settings temperature) ops
  rw [EndAnswered]
  cases perform_refreshStep h.settled op with
  | quiet _ hleaves _ hfails | ended _ hleaves _ hfails =>
      exact iff_of_true (fun hl => absurd hl hleaves) hfails
  | reported _ _ _ hfails r hr hhanded =>
      refine iff_of_true (fun _ _ => ?_) hfails
      rw [hhanded]
      simp [hr]
  | failed _ hleaves _ hfails hhanded =>
      refine iff_of_false (fun hanswered => ?_) (not_not_intro hfails)
      have hcount := hanswered hleaves (h.handed_eq hleaves.2.1)
      rw [hhanded] at hcount
      cases hcount

/-- A refresh that fails is not reported, though the END was acknowledged. -/
theorem unanswered_failedRefresh :
    let s := Machine.exec endTracked
      (({} : EndHistory), (setup (ScriptedPanel.accepting 3 [.failed]) defaultSettings 80).2)
      (directTransfer ++ loopParts 5 1)
    s.1.handed = true ∧ s.2.LeavesRefreshing (.loop 1 80 : ComponentOp Unit) ∧
      handedFrames (s.2.perform (.loop 1 80 : ComponentOp Unit)).1 = [] ∧
      ¬ EndAnswered s (.loop 1 80 : ComponentOp Unit) := by
  decide +kernel

/-! ### The handshake in the queue -/

/-- The frames of the handshake that a completing packet sets off. -/
def handshake (c : OpenDisplayComponent β) (op : ComponentOp ω) : List Response :=
  (c.stagedTail op).toList ++ [endAck c.engine.txn.mode]

/-- There was a free slot when the transfer was completed. -/
def EndHistory.BelowFull (h : EndHistory) : Prop := h.used + 1 < txQueueSlots

/-- The handshake goes into the queue as far as there are free slots, and the refresh is
reported only behind the END ACK. -/
structure HandshakeKept (s : EndHistory × OpenDisplayComponent β) (op : ComponentOp ω) :
    Prop where
  ordered : s.2.Completes op → queuedFrames (s.2.perform op).1 =
    (s.2.handshake op).take (txQueueSlots - 1 - s.2.tx.used)
  acked : ∀ r ∈ queuedFrames (s.2.perform op).1, isRefreshReport r = true →
    s.1.BelowFull → s.1.queued = true

/-- A packet that completes a transfer finds room for the END ACK outside the slots that
are kept for terminal frames, or no slot at all; and if it found no slot for the END ACK,
the refresh is not reported to a queue with a free slot. -/
structure HandshakeFits (s : EndHistory × OpenDisplayComponent β) (op : ComponentOp ω) :
    Prop where
  room : s.2.Completes op →
    s.2.tx.used + s.2.tailFrames op + txReservedForTerminal < txQueueSlots ∨
      txQueueSlots ≤ s.2.tx.used + s.2.tailFrames op + 1
  unreported : s.2.ReportsRefresh op → s.2.tx.used + 1 < txQueueSlots →
    s.1.BelowFull → s.1.Fits

/-- The queue takes of the handshake what there are free slots for exactly when the END
ACK needs no slot that is kept, or there is none for it. -/
lemma pushAll_handshake_eq_take_iff {q : TxQueue} {tail : List Response}
    (hlength : tail.length ≤ 1)
    (hsack : ∀ r ∈ tail, ∃ highestSeen mask, r = encodePipeSack highestSeen mask)
    (mode : TransferMode) :
    (q.pushAll (tail.map (·, true) ++ [(endAck mode, false)])).1 =
        (tail ++ [endAck mode]).take (txQueueSlots - 1 - q.used) ↔
      q.used + tail.length + txReservedForTerminal < txQueueSlots ∨
        txQueueSlots ≤ q.used + tail.length + 1 := by
  have hused := q.used_lt
  have hslots : txQueueSlots = 16 := rfl
  have hreserved : txReservedForTerminal = 4 := rfl
  rw [pushAll_handshake hlength hsack]
  by_cases hfits : q.used + tail.length + txReservedForTerminal < txQueueSlots
  · rw [if_pos (by omega), if_pos hfits, List.take_of_length_le (by simp; omega)]
    exact iff_of_true rfl (Or.inl hfits)
  · rw [if_neg hfits, List.append_nil]
    by_cases hfree : q.used + tail.length + 1 < txQueueSlots
    · -- both frames have a slot, and only the SACK goes in
      rw [if_pos (by omega), List.take_of_length_le (by simp; omega)]
      exact iff_of_false (by simp) (by omega)
    · refine iff_of_true ?_ (Or.inr (by omega))
      by_cases hfull : q.used + 1 < txQueueSlots
      · rw [if_pos hfull, List.take_left' (by omega)]
      · rw [if_neg hfull, show txQueueSlots - 1 - q.used = 0 by omega, List.take_zero]

/-- No frame of the handshake reports a refresh. -/
lemma not_report_of_mem_handshake {q : TxQueue} {tail : List Response} {mode : TransferMode}
    (hsack : ∀ r ∈ tail, ∃ highestSeen mask, r = encodePipeSack highestSeen mask) {r : Response}
    (hr : r ∈ (q.pushAll (tail.map (·, true) ++ [(endAck mode, false)])).1) :
    isRefreshReport r = false := by
  obtain ⟨terminal, hmem⟩ := TxQueue.exists_mem_of_mem_pushAll hr
  simp only [List.mem_append, List.mem_map, Prod.mk.injEq, List.mem_singleton] at hmem
  rcases hmem with ⟨sack, hmem, rfl, -⟩ | ⟨rfl, -⟩
  · obtain ⟨highestSeen, mask, rfl⟩ := hsack _ hmem
    rfl
  · exact isRefreshReport_endAck mode

/-- **When the handshake is kept.**  A run keeps every handshake if and only if every
packet that completes a transfer finds room for the END ACK outside the slots that are
kept for terminal frames, or no slot for it at all and the refresh is not reported. -/
theorem handshakeKept_iff (b : β) (settings : ComponentSettings) (temperature : Int)
    (ops : List (ComponentOp ω)) :
    Machine.AllSteps endTracked HandshakeKept
        (({} : EndHistory), (setup b settings temperature).2) ops ↔
      Machine.AllSteps endTracked HandshakeFits
        (({} : EndHistory), (setup b settings temperature).2) ops := by
  refine Machine.allSteps_congr (I := EndInv) (fun _ op h _ => h.step op) (fun s op h => ?_)
    (endInv_setup b settings temperature) ops
  cases perform_refreshStep h.settled op with
  | quiet hcompletes _ hreports _ hqueued =>
      refine iff_of_true ⟨fun hc => absurd hc hcompletes, fun r hr hreport => ?_⟩
        ⟨fun hc => absurd hc hcompletes, fun hr => absurd hr hreports⟩
      rw [hqueued r hr] at hreport
      cases hreport
  | failed hcompletes _ hreports _ _ hqueued =>
      refine iff_of_true ⟨fun hc => absurd hc hcompletes, fun r hr => ?_⟩
        ⟨fun hc => absurd hc hcompletes, fun hr => absurd hr hreports⟩
      rw [hqueued] at hr
      cases hr
  | ended hcompletes _ hreports _ tail htail hlength hsack _ hqueued =>
      have htake := pushAll_handshake_eq_take_iff (hlength ▸ tailFrames_le s.2 op) hsack
        s.2.engine.txn.mode (q := s.2.tx)
      rw [← hqueued, hlength, ← htail] at htake
      refine ⟨fun hk => ⟨fun hc => htake.mp (hk.ordered hc), fun hr => absurd hr hreports⟩,
        fun hf => ⟨fun hc => htake.mpr (hf.room hc), fun r hr hreport => ?_⟩⟩
      rw [hqueued] at hr
      rw [not_report_of_mem_handshake hsack hr] at hreport
      cases hreport
  | reported hcompletes hleaves hreports _ r hr _ hqueued =>
      have hempty : r.isEmpty = false := isEmpty_of_isRefreshReport hr
      have hacked := h.queued_iff hleaves.2.1
      rw [TxQueue.pushAll_singleton hempty] at hqueued
      refine ⟨fun hk => ⟨fun hc => absurd hc hcompletes, fun _ hroom hbelow => ?_⟩,
        fun hf => ⟨fun hc => absurd hc hcompletes, fun r' hr' _ hbelow => ?_⟩⟩
      · rw [if_pos (show s.2.tx.Accepts true from hroom)] at hqueued
        exact hacked.mp (hk.acked r (by simp [hqueued]) hr hbelow)
      · rw [hqueued] at hr'
        split_ifs at hr' with hroom
        · exact hacked.mpr (hf.unreported hreports hroom hbelow)
        · cases hr'

/-- A client that reads the version eighteen times while it sends its frame, so that its
END finds twelve frames in the queue. -/
def crowdedTransfer : List (ComponentOp Unit) :=
  [.bleConnect, .bleWrite [0x00, 0x70] 0, .bleWrite [0x00, 0x71, 0xAA, 0xBB, 0xCC] 0] ++
    List.replicate 18 (.bleWrite [0x00, 0x43] 0) ++ [.bleWrite [0x00, 0x72] 0] ++
    loopParts 43 1

/-- The component before it takes the END. -/
def crowded : EndHistory × OpenDisplayComponent ScriptedPanel :=
  Machine.exec endTracked
    ({}, (setup (ScriptedPanel.accepting 3 [.complete]) defaultSettings 80).2) crowdedTransfer

lemma crowded_eq :
    crowded.2.Completes (.loop 1 80 : ComponentOp Unit) ∧ crowded.2.tx.used = 12 ∧
      crowded.2.handshake (.loop 1 80 : ComponentOp Unit) = [encodeAck cmdDirectWriteEnd] ∧
      queuedFrames (crowded.2.perform (.loop 1 80 : ComponentOp Unit)).1 = [] := by
  decide +kernel

/-- The END ACK is dropped while three slots are free. -/
theorem endAck_dropped_crowded :
    ¬ Machine.AllSteps endTracked HandshakeKept
      (({} : EndHistory), (setup (ScriptedPanel.accepting 3 [.complete]) defaultSettings 80).2)
      (crowdedTransfer ++ [.loop 1 80]) := by
  intro h
  have hlast : HandshakeKept crowded (.loop 1 80 : ComponentOp Unit) :=
    ((Machine.allSteps_append _ _ _ _ _).mp h).2.1
  obtain ⟨hcompletes, hused, hhandshake, hqueued⟩ := crowded_eq
  have hordered := hlast.ordered hcompletes
  rw [hqueued, hhandshake, hused] at hordered
  cases hordered

end OpenDisplayComponent

end OpenDisplay
