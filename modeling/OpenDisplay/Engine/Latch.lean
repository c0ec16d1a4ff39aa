import OpenDisplay.Engine.Ledger
import OpenDisplay.Backend.Scripted

/-!
# The latch of a fatal NACK

After a fatal NACK `[0xFF][0x81]` the packets of the transfer are to be discarded
until the next `0x80` or the end of the connection.  The engine keeps this as a flag
in the transaction, so whatever resets the transaction takes it away: the three faults
of an open transfer that set it and then abort, and later aborts, timeouts and direct
transfers.  And `on_disconnect` leaves the transaction alone while it is idle, which is
where the flag is usually set.  Along a run the latch behaves as documented exactly as
long as no step does either.
-/

namespace OpenDisplay

open OpenDisplayBackend

namespace TransferEngine

variable {β ω : Type} [OpenDisplayBackend β] [PanelWorld β ω] {t : Transfer}
  {e e' : TransferEngine β}

/-- The response is a fatal NACK `[0xFF][0x81]…`. -/
def isFatalNack (r : Response) : Bool :=
  match r.bytes with
  | status :: command :: _ => status == respNack && command == echo cmdPipeWriteData
  | _ => false

/-- The transfer, and whether a fatal NACK is in force: one was sent since the last
`0x80` was received and the last connection ended. -/
structure LatchHistory where
  transfer : Transfer := {}
  nacked : Bool := false
deriving DecidableEq

/-- The monitor of the latch. -/
def watchLatch (h : LatchHistory) (e : TransferEngine β) (op : EngineOp ω) : LatchHistory where
  transfer := watchTransfer h.transfer e op
  nacked :=
    match op with
    | .pipeData _ _ => h.nacked || isFatalNack (e.perform op).1.response
    | .pipeStart _ _ | .disconnect _ | .setConnectionGeneration _ => false
    | _ => h.nacked

/-- A `0x81` packet, whatever it holds, has no response and no effect. -/
def DiscardsPipeData (e : TransferEngine β) : Prop :=
  ∀ p now, e.onPipeData p now = ({}, e)

/-- What is asked of a step: a fatal NACK that is in force after it silences every
`0x81`, and a disconnect or an accepted START leaves nothing latched. -/
structure LatchHonest (s : LatchHistory × TransferEngine β) (op : EngineOp ω) : Prop where
  silent : (watchLatch s.1 s.2 op).nacked = true → (s.2.step op).DiscardsPipeData
  disconnected : ∀ gen, op = .disconnect gen → (s.2.step op).txn.pipeFatal = false
  started : ∀ p now, op = .directStart p now ∨ op = .pipeStart p now →
    (s.2.perform op).1.transferStarted = true → (s.2.step op).txn.pipeFatal = false

/-! ### The condition -/

/-- A fault of the open PIPE transfer: an empty packet, or the next chunk when it does
not fit or the panel refuses it. -/
def PipeFault (e : TransferEngine β) (p : Payload) : Prop :=
  e.txn.pipeFatal = false ∧ e.PipeReceiving ∧
    (p.bytes = [] ∨ ∃ data, p.bytes = e.txn.nextPipeSequence :: data ∧
      ((e.txn.expectedFrameBytes - e.txn.acceptedBytes).toNat < data.length ∨
        (writeContiguous e.backend e.txn.acceptedBytes data).1 ≠ .ok))

/-- The step resets the transaction: a direct START that is not refused as busy or
compressed, a fault or a failing END of a direct transfer, the end of a refresh, a
timeout, or an abort. -/
def ResetsTransaction (e : TransferEngine β) : EngineOp ω → Prop
  | .directStart p _ => e.hwOwned = false ∧ p.len = 0
  | .directData p _ =>
      e.txn.state = .receiving ∧ e.txn.mode = .direct ∧
        (p.len = 0 ∨ (e.txn.expectedFrameBytes - e.txn.acceptedBytes).toNat < p.len ∨
          (writeContiguous e.backend e.txn.nextDirectOffset p.bytes).1 ≠ .ok)
  | .directEnd _ _ =>
      e.txn.state = .receiving ∧ e.txn.mode = .direct ∧
        (e.txn.acceptedBytes ≠ e.txn.expectedFrameBytes ∨ (finishFrame e.backend).1 ≠ .ok ∨
          (beginRefresh (finishFrame e.backend).2 {}).1 ≠ .ok)
  | .tick now =>
      e.hwOwned = true ∧ (pollRefresh e.backend).1 ≠ .pending ∧ e.txn.state = .refreshing ∨
        (e.hwOwned = false ∨ (pollRefresh e.backend).1 = .pending) ∧
          (e.TransferExpired now ∨ e.RefreshExpired now)
  | .abort _ => True
  | _ => False

/-- No step takes the latch away too early, or leaves it too long: a `0x81` is no fault
of the open transfer, a disconnect finds nothing latched or a receiving transaction of
the connection that ended, and while a fatal NACK is in force nothing resets the
transaction. -/
def LatchKept (s : LatchHistory × TransferEngine β) (op : EngineOp ω) : Prop :=
  match op with
  | .pipeData p _ => ¬ s.2.PipeFault p
  | .disconnect gen =>
      s.2.txn.pipeFatal = false ∨
        s.2.txn.state = .receiving ∧ s.2.txn.connectionGeneration = gen
  | .pipeStart _ _ | .setConnectionGeneration _ => True
  | op => s.1.nacked = true → ¬ s.2.ResetsTransaction op

/-! ### One step -/

/-- The latch is what discards `0x81` packets: without it even an empty one is
answered. -/
lemma discardsPipeData_iff : e.DiscardsPipeData ↔ e.txn.pipeFatal = true := by
  refine ⟨fun h => ?_, fun h p now => by rw [onPipeData, if_pos h]⟩
  by_contra hlatch
  -- an empty packet is no chunk, so it is answered unless it is discarded
  have hempty : (e.onPipeData (.ofBytes []) 0).1.response.bytes = [] := by rw [h]; rfl
  have ho := onPipeData_outcome e (.ofBytes []) 0
  generalize (e.onPipeData (.ofBytes []) 0).1 = res, (e.onPipeData (.ofBytes []) 0).2 = e'
    at ho hempty
  cases ho with
  | latched hfatal => exact hlatch hfatal
  | misplaced | malformed => cases hempty
  | outOfOrder _ _ _ _ hbytes | oversize _ _ _ hbytes | writeFailed _ _ _ hbytes
  | accepted _ _ _ hbytes => cases hbytes

lemma BeginOutcome.pipeFatal_of_opened {mode : TransferMode} {total now : UInt32}
    (h : BeginOutcome e mode total now none e') : e'.txn.pipeFatal = false := by
  cases h; rfl

/-- A direct START that reaches the panel resets the transaction, taken or not. -/
lemma directStart_latch_iff (hlatch : e.txn.pipeFatal = true) (p : Payload) (now : UInt32) :
    (e.onDirectStart p now).2.txn.pipeFatal = true ↔ ¬ (e.hwOwned = false ∧ p.len = 0) := by
  have ho := onDirectStart_outcome e p now
  generalize (e.onDirectStart p now).1 = res, (e.onDirectStart p now).2 = e₁ at ho ⊢
  cases ho with
  | compressed hlen => exact iff_of_true hlatch fun h => hlen h.2
  | refused hlen why e₁ hbegin =>
      cases hbegin with
      | busy hw => exact iff_of_true hlatch fun h => by rw [hw] at h; cases h.1
      | sizeMismatch hw hsize =>
          refine iff_of_false ?_ (fun h => h ⟨hw, hlen⟩)
          -- an idle transaction is not aborted, and then the size cannot differ
          by_cases hidle : e.txn.state = .idle
          · have hcleared : e.cleared = e := by simp [cleared, hidle]
            rw [hcleared] at hsize
            exact absurd rfl hsize
          · simp [cleared, hidle]
      | beginFailed hw => exact iff_of_false (by simp) (fun h => h ⟨hw, hlen⟩)
  | started hlen e₁ hbegin =>
      refine iff_of_false (by simp [hbegin.pipeFatal_of_opened]) (fun h => h ⟨?_, hlen⟩)
      cases hbegin with
      | opened hw => exact hw

omit [PanelWorld β ω] in
lemma directData_latch_iff (hlatch : e.txn.pipeFatal = true) (p : Payload) (now : UInt32) :
    (e.onDirectData p now).2.txn.pipeFatal = true ↔
      ¬ e.ResetsTransaction (.directData p now : EngineOp ω) := by
  have ho := onDirectData_outcome e p now
  generalize (e.onDirectData p now).1 = res, (e.onDirectData p now).2 = e₁ at ho ⊢
  cases ho with
  | misplaced hplace => exact iff_of_true hlatch fun h => hplace ⟨h.1, h.2.1⟩
  | malformed hstate hmode hlen =>
      exact iff_of_false (by simp) (fun h => h ⟨hstate, hmode, Or.inl hlen⟩)
  | oversize hstate hmode _ hfit =>
      exact iff_of_false (by simp) (fun h => h ⟨hstate, hmode, Or.inr (Or.inl hfit)⟩)
  | writeFailed hstate hmode _ _ hanswer =>
      exact iff_of_false (by simp) (fun h => h ⟨hstate, hmode, Or.inr (Or.inr hanswer)⟩)
  | accepted _ _ hlen hfit hanswer =>
      refine iff_of_true hlatch ?_
      rintro ⟨-, -, h | h | h⟩
      · exact hlen h
      · omega
      · exact h hanswer

omit [PanelWorld β ω] in
lemma directEnd_latch_iff (hlatch : e.txn.pipeFatal = true) (p : Payload) (now : UInt32) :
    (e.onDirectEnd p now).2.txn.pipeFatal = true ↔
      ¬ e.ResetsTransaction (.directEnd p now : EngineOp ω) := by
  have ho := onDirectEnd_outcome e p now
  generalize (e.onDirectEnd p now).1 = res, (e.onDirectEnd p now).2 = e₁ at ho ⊢
  cases ho with
  | misplaced hplace => exact iff_of_true hlatch fun h => hplace ⟨h.1, h.2.1⟩
  | finished hstate hmode res e₁ hfinish =>
      cases hfinish with
      | incomplete hlen =>
          exact iff_of_false (by simp) (fun h => h ⟨hstate, hmode, Or.inl hlen⟩)
      | finishFailed _ hanswer =>
          exact iff_of_false (by simp) (fun h => h ⟨hstate, hmode, Or.inr (Or.inl hanswer)⟩)
      | refreshFailed _ _ hanswer =>
          exact iff_of_false (by simp) (fun h => h ⟨hstate, hmode, Or.inr (Or.inr hanswer)⟩)
      | refreshing hlen hfinish hanswer =>
          refine iff_of_true hlatch ?_
          rintro ⟨-, -, h | h | h⟩
          · exact h hlen
          · exact h hfinish
          · exact h hanswer

omit [PanelWorld β ω] in
lemma tick_latch_iff (hlatch : e.txn.pipeFatal = true) (now : UInt32) :
    (e.tick now).2.txn.pipeFatal = true ↔ ¬ e.ResetsTransaction (.tick now : EngineOp ω) := by
  have ho := tick_outcome e now
  generalize (e.tick now).1 = res, (e.tick now).2 = e₁ at ho ⊢
  have hquiet : ∀ {e₁}, Polled e e₁ → e₁.txn.pipeFatal = true ∧
      (e.hwOwned = false ∨ (pollRefresh e.backend).1 = .pending) := by
    intro e₁ hp
    cases hp with
    | free hw => exact ⟨hlatch, Or.inl hw⟩
    | pending _ hpoll => exact ⟨hlatch, Or.inr hpoll⟩
  have hexpired : ∀ {e₁}, Polled e e₁ →
      ((e₁.TransferExpired now ↔ e.TransferExpired now) ∧
        (e₁.RefreshExpired now ↔ e.RefreshExpired now)) := by
    intro e₁ hp
    rw [TransferExpired, RefreshExpired, hp.txn_eq]
    exact ⟨Iff.rfl, Iff.rfl⟩
  cases ho with
  | complete hw hpoll hstate | failed hw hpoll hstate =>
      exact iff_of_false (by simp) (fun h => h (Or.inl ⟨hw, by rw [hpoll]; decide, hstate⟩))
  | released hw hpoll hstate =>
      refine iff_of_true hlatch ?_
      rintro (⟨-, -, h⟩ | ⟨h | h, -⟩)
      · exact hstate h
      · rw [hw] at h; cases h
      · exact hpoll h
  | waiting _ hp htransfer hrefresh =>
      refine iff_of_true (hquiet hp).1 ?_
      rintro (⟨hw, h, -⟩ | ⟨-, h | h⟩)
      · rcases (hquiet hp).2 with hw' | hpoll
        · rw [hw] at hw'; cases hw'
        · exact h hpoll
      · exact htransfer ((hexpired hp).1.mpr h)
      · exact hrefresh ((hexpired hp).2.mpr h)
  | transferTimeout _ hp htransfer =>
      exact iff_of_false (by simp)
        (fun h => h (Or.inr ⟨(hquiet hp).2, Or.inl ((hexpired hp).1.mp htransfer)⟩))
  | refreshTimeout _ hp hrefresh =>
      exact iff_of_false (by simp)
        (fun h => h (Or.inr ⟨(hquiet hp).2, Or.inr ((hexpired hp).2.mp hrefresh)⟩))

/-- A `0x82` is not for a transfer that is latched. -/
lemma Ledger.pipeEnd_latched (h : Ledger t e) (hlatch : e.txn.pipeFatal = true) (p : Payload)
    (now : UInt32) : (e.onPipeEnd p now).2.txn.pipeFatal = true := by
  have ho := onPipeEnd_outcome e p now
  generalize (e.onPipeEnd p now).1 = res, (e.onPipeEnd p now).2 = e₁ at ho ⊢
  -- a PIPE transfer that is open is not latched
  have hopen : ¬ e.PipeReceiving := by
    intro hplace
    obtain ⟨-, hbook, hopen⟩ := h.book_of_receiving hplace.1
    rw [(hopen (hbook.mode_eq.symm.trans hplace.2)).not_fatal] at hlatch
    cases hlatch
  cases ho with
  | misplaced => exact hlatch
  | flushed hplace | finished hplace => exact absurd hplace hopen

/-- A step that is no `0x81`, no `0x80`, no disconnect and no new connection keeps the
latch exactly when it does not reset the transaction. -/
lemma Ledger.step_latched_iff (h : Ledger t e) (hlatch : e.txn.pipeFatal = true)
    {op : EngineOp ω} (hdata : ∀ p now, op ≠ .pipeData p now)
    (hstart : ∀ p now, op ≠ .pipeStart p now) (hend : ∀ gen, op ≠ .disconnect gen) :
    (e.step op).txn.pipeFatal = true ↔ ¬ e.ResetsTransaction op := by
  cases op with
  | directStart p now => exact directStart_latch_iff hlatch p now
  | directData p now => exact directData_latch_iff hlatch p now
  | directEnd p now => exact directEnd_latch_iff hlatch p now
  | pipeStart p now => exact absurd rfl (hstart p now)
  | pipeData p now => exact absurd rfl (hdata p now)
  | pipeEnd p now => exact iff_of_true (h.pipeEnd_latched hlatch p now) id
  | tick now => exact tick_latch_iff hlatch now
  | abort error =>
      exact iff_of_false (by simp [TransferEngine.step, perform]) (fun h => h trivial)
  | disconnect gen => exact absurd rfl (hend gen)
  | setConnectionGeneration | world => exact iff_of_true hlatch id
  | takeTailSack =>
      refine iff_of_true ?_ id
      simp only [TransferEngine.step, perform, TransferEngine.takeTailSack]
      split_ifs <;> exact hlatch

/-- The connection that ended is the one of the transaction, or there was nothing to
clear. -/
lemma Ledger.disconnect_latch_iff (h : Ledger t e) (gen : UInt32) :
    (e.onDisconnect gen).txn.pipeFatal = false ↔
      e.txn.pipeFatal = false ∨ e.txn.state = .receiving ∧ e.txn.connectionGeneration = gen := by
  have ho := onDisconnect_outcome e gen
  generalize e.onDisconnect gen = e₁ at ho ⊢
  cases ho with
  | ignored hignored =>
      refine (or_iff_left ?_).symm
      rintro ⟨hstate, hgen⟩
      rw [hstate] at hignored
      rcases hignored with h | h | h
      · cases h
      · exact h hgen
      · cases h
  | aborted hactive hgen hstate =>
      refine iff_of_true (by simp) (Or.inr ⟨?_, hgen⟩)
      rcases h.state_cases with h | h | h
      · exact absurd h hactive
      · exact h
      · exact absurd h hstate

/-- A `0x81` keeps the latch in step with the NACKs exactly when it is no fault of the
open transfer. -/
lemma pipeData_latch_iff {nacked : Bool} (hlatch : nacked = true → e.txn.pipeFatal = true)
    (p : Payload) (now : UInt32) :
    ((nacked || isFatalNack (e.onPipeData p now).1.response) = true →
      (e.onPipeData p now).2.txn.pipeFatal = true) ↔ ¬ e.PipeFault p := by
  -- a packet that is not discarded finds no NACK in force
  have hfree : e.txn.pipeFatal = false → nacked = false := by
    intro h
    by_contra hn
    rw [hlatch (by simpa using hn)] at h
    cases h
  have ho := onPipeData_outcome e p now
  generalize (e.onPipeData p now).1 = res, (e.onPipeData p now).2 = e₁ at ho ⊢
  cases ho with
  | latched hfatal =>
      refine iff_of_true (fun _ => hfatal) fun h => ?_
      rw [h.1] at hfatal
      cases hfatal
  | misplaced _ hplace => exact iff_of_true (fun _ => rfl) fun h => hplace h.2.1
  | malformed hfatal hplace hbytes =>
      refine iff_of_false (fun h => ?_) (fun h => h ⟨hfatal, hplace, Or.inl hbytes⟩)
      simpa using h (by simp [fault, encodePipeNack, isFatalNack])
  | outOfOrder hfatal hplace seq data hbytes hseq =>
      refine iff_of_true (fun h => ?_) ?_
      · simp [hfree hfatal, reply, inorderSack, encodePipeSack, isFatalNack, respAck, respNack] at h
      · rintro ⟨-, -, h | ⟨data', h, -⟩⟩
        · rw [hbytes] at h; cases h
        · rw [hbytes] at h; exact hseq (List.cons.inj h).1
  | oversize hfatal hplace data hbytes hfit =>
      refine iff_of_false (fun h => ?_)
        (fun h => h ⟨hfatal, hplace, Or.inr ⟨data, hbytes, Or.inl hfit⟩⟩)
      simpa using h (by simp [fault, encodePipeNack, isFatalNack])
  | writeFailed hfatal hplace data hbytes _ hanswer =>
      refine iff_of_false (fun h => ?_)
        (fun h => h ⟨hfatal, hplace, Or.inr ⟨data, hbytes, Or.inr hanswer⟩⟩)
      simpa using h (by simp [fault, encodePipeNack, isFatalNack])
  | accepted hfatal hplace data hbytes hfit hanswer _ _ hchunk =>
      refine iff_of_true (fun h => ?_) ?_
      · have hsilent : isFatalNack res.response = false := by
          cases hchunk with
          | completed _ _ _ hfinish => cases hfinish <;> rfl
          | sacked | silent => rfl
        simp [hfree hfatal, hsilent] at h
      · rintro ⟨-, -, h | ⟨data', h, hrefused⟩⟩
        · rw [hbytes] at h; cases h
        · rw [hbytes] at h
          obtain rfl := (List.cons.inj h).2
          rcases hrefused with h | h
          · omega
          · exact h hanswer

/-- What holds along the runs in which the latch is honest. -/
structure LatchInv (s : LatchHistory × TransferEngine β) : Prop where
  ledger : Ledger s.1.transfer s.2
  latched : s.1.nacked = true → s.2.txn.pipeFatal = true

lemma LatchInv.step {s : LatchHistory × TransferEngine β} (h : LatchInv s) {op : EngineOp ω}
    (hhonest : LatchHonest s op) :
    LatchInv (Machine.monitored TransferEngine.step watchLatch s op) where
  ledger := h.ledger.step op
  latched hn := discardsPipeData_iff.mp (hhonest.silent hn)

/-- An accepted START leaves nothing latched. -/
lemma pipeFatal_of_started {op : EngineOp ω} {p : Payload} {now : UInt32}
    (hop : op = .directStart p now ∨ op = .pipeStart p now)
    (hstarted : (e.perform op).1.transferStarted = true) : (e.step op).txn.pipeFatal = false := by
  rcases hop with rfl | rfl
  · have ho := onDirectStart_outcome e p now
    simp only [step, perform] at hstarted ⊢
    generalize (e.onDirectStart p now).1 = res, (e.onDirectStart p now).2 = e₁ at ho hstarted ⊢
    cases ho with
    | compressed | refused => cases hstarted
    | started _ _ hbegin => exact hbegin.pipeFatal_of_opened
  · have ho := onPipeStart_outcome e p now
    simp only [step, perform] at hstarted ⊢
    generalize (e.onPipeStart p now).1 = res, (e.onPipeStart p now).2 = e₁ at ho hstarted ⊢
    cases ho with
    | badHeader | compressed | refused => cases hstarted
    | started _ _ _ _ hbegin => exact hbegin.pipeFatal_of_opened

/-- One step is honest exactly when it keeps the latch. -/
lemma LatchInv.honest_iff {s : LatchHistory × TransferEngine β} (h : LatchInv s)
    (op : EngineOp ω) : LatchHonest s op ↔ LatchKept s op := by
  have hhonest : LatchHonest s op ↔
      ((watchLatch s.1 s.2 op).nacked = true → (s.2.step op).txn.pipeFatal = true) ∧
        ∀ gen, op = .disconnect gen → (s.2.step op).txn.pipeFatal = false := by
    rw [← discardsPipeData_iff]
    exact ⟨fun hh => ⟨hh.silent, hh.disconnected⟩,
      fun hh => ⟨hh.1, hh.2, fun _ _ hop hs => pipeFatal_of_started hop hs⟩⟩
  rw [hhonest]
  -- the other operations leave the NACKs in force as they are
  have hother : (∀ p now, op ≠ .pipeData p now) → (∀ p now, op ≠ .pipeStart p now) →
      (∀ gen, op ≠ .disconnect gen) → (watchLatch s.1 s.2 op).nacked = s.1.nacked →
      ((((watchLatch s.1 s.2 op).nacked = true → (s.2.step op).txn.pipeFatal = true) ∧
        ∀ gen, op = .disconnect gen → (s.2.step op).txn.pipeFatal = false) ↔
      (s.1.nacked = true → ¬ s.2.ResetsTransaction op)) := by
    intro hdata hstart hend hsame
    rw [hsame, and_iff_left (fun gen hop => absurd hop (hend gen))]
    exact forall_congr' fun hn => h.ledger.step_latched_iff (h.latched hn) hdata hstart hend
  cases op with
  | pipeData p now =>
      refine (and_iff_left (fun gen hop => nomatch hop)).trans ?_
      exact pipeData_latch_iff h.latched p now
  | pipeStart | setConnectionGeneration =>
      exact iff_of_true ⟨(nomatch ·), fun _ hop => nomatch hop⟩ trivial
  | disconnect gen =>
      refine Iff.trans ⟨fun hh => hh.2 gen rfl, fun hclear => ⟨(nomatch ·), ?_⟩⟩
        (h.ledger.disconnect_latch_iff gen)
      intro gen' hop
      exact hclear
  | directStart | directData | directEnd | pipeEnd | tick | abort | takeTailSack | world =>
      exact hother (by simp) (by simp) (by simp) rfl

end TransferEngine

end OpenDisplay
