import OpenDisplay.Engine.GoBackN
import OpenDisplay.Engine.Movement

/-!
# No accepted chunk is left unacknowledged

A SACK acknowledges the last 33 chunks accepted when it is sent: the highest by itself
and 32 of its predecessors by the mask.  In an open PIPE transfer the chunks accepted
since the last SACK stay below the negotiated cadence, which is at most four, so the
groups between two SACKs never outgrow the mask; and the end of a transfer first sends a
SACK for the group that is not complete.  So by the END ACK every chunk is acknowledged,
by a SACK sent while it was among the last 33.
-/

namespace OpenDisplay

open OpenDisplayBackend

namespace TransferEngine

variable {β ω : Type} [OpenDisplayBackend β] [PanelWorld β ω] {t : Transfer}
  {e e' : TransferEngine β}

/-! ### What a SACK covers -/

/-- What a SACK says that is sent after `n` chunks. -/
def SackOf (n : ℕ) (r : Response) : Prop :=
  ∀ view ∈ sackView r, view = (UInt8.ofNat (n - 1), buildInorderAckMask (UInt32.ofNat n))

/-- The frame is a SACK. -/
def isSack (r : Response) : Bool := (sackView r).isSome

/-- The chunk `k` is acknowledged by a frame that is sent after `f.1` chunks, as one of the
last 33 of them. -/
def Acked (k : ℕ) (f : ℕ × Response) : Prop := k < f.1 ∧ f.1 ≤ k + 33 ∧ covers f.2 k = true

/-- A SACK covers each of the last 33 chunks accepted. -/
lemma covers_of_sackOf {n k : ℕ} {r : Response} (hr : SackOf n r) (hsack : isSack r = true)
    (hn : n < 2 ^ 32) (hk : k < n) (hrecent : n ≤ k + 33) : covers r k = true := by
  obtain ⟨view, hview⟩ := Option.isSome_iff_exists.mp hsack
  have hview' := hr view hview
  subst hview'
  simp only [covers, hview, Bool.or_eq_true, beq_iff_eq, List.any_eq_true, List.mem_range,
    Bool.and_eq_true]
  rcases Nat.eq_or_lt_of_le (Nat.le_sub_one_of_lt hk) with htop | hlow
  · exact Or.inl (by rw [htop])
  -- a predecessor, at its distance from the highest chunk
  · refine Or.inr ⟨n - 2 - k, by omega, ?_, ?_⟩
    · rw [toNat_buildInorderAckMask, Nat.testBit_two_pow_sub_one, decide_eq_true_iff,
        UInt32.toNat_ofNat', Nat.mod_eq_of_lt hn]
      omega
    · rw [← UInt8.ofNat_sub (by omega)]
      congr 1
      omega

/-- **One more step of acknowledging.**  All chunks but those since the last SACK are
acknowledged, and if those and the new ones fit into a mask, this stays so. -/
theorem acked_append {n n' since : ℕ} {sent : List (ℕ × Response)} {frames : List Response}
    (hacked : ∀ k, k + since < n → ∃ f ∈ sent, Acked k f)
    (hframes : ∀ r ∈ frames, SackOf n' r) (hn' : n' < 2 ^ 32) (hgroup : n' - n + since ≤ 33)
    (hle : n ≤ n') :
    ∀ k, k + (if frames.any isSack then 0 else since + (n' - n)) < n' →
      ∃ f ∈ sent ++ frames.map (fun r => (n', r)), Acked k f := by
  intro k hk
  have hold : k + since < n → ∃ f ∈ sent ++ frames.map (fun r => (n', r)), Acked k f := by
    intro h
    obtain ⟨f, hf, hacked⟩ := hacked k h
    exact ⟨f, List.mem_append_left _ hf, hacked⟩
  by_cases hany : frames.any isSack = true
  · rw [if_pos hany] at hk
    obtain ⟨r, hr, hsack⟩ := List.any_eq_true.mp hany
    rcases Nat.lt_or_ge (k + since) n with h | h
    · exact hold h
    · exact ⟨(n', r), by simp [hr], hk, by omega,
        covers_of_sackOf (hframes r hr) hsack hn' hk (by omega)⟩
  · rw [if_neg hany] at hk
    exact hold (by omega)

/-! ### The frames of a step -/

lemma sackOf_of_none {n : ℕ} {r : Response} (h : ackView r = none) : SackOf n r := by
  intro view hview
  rw [sackView_of_ackView_none h] at hview
  cases hview

omit [OpenDisplayBackend β] [PanelWorld β ω] in
lemma sackOf_inorderSack {n : ℕ} (h : PipeCounters n e.txn) : SackOf n e.inorderSack := by
  intro view hview
  rw [sackView_inorderSack h] at hview
  exact (Option.mem_some.mp hview).symm

omit [OpenDisplayBackend β] [PanelWorld β ω] in
lemma isSack_inorderSack (e : TransferEngine β) : isSack e.inorderSack = true := by
  rw [isSack, inorderSack, sackView_encodePipeSack]
  rfl

omit [PanelWorld β ω] in
/-- A transfer that refreshes after its END was acknowledged. -/
lemma FinishOutcome.response_of_refreshing {now : UInt32} {res : EngineResult}
    (h : FinishOutcome e cmdPipeWriteEnd now res e') (hstate : e'.txn.state = .refreshing) :
    res.response = encodeAck cmdPipeWriteEnd := by
  cases h with
  | incomplete | finishFailed | refreshFailed => simp at hstate
  | refreshing => rfl

/-- Every SACK that a `0x82` provokes acknowledges all chunks. -/
lemma sackOf_pipeEnd (hled : Ledger t e) (htail : e.hasTailSack = false) (p : Payload)
    (now : UInt32) :
    ∀ r ∈ e.framesSent (.pipeEnd p now : EngineOp ω), SackOf t.chunks.length r := by
  have ho := onPipeEnd_outcome e p now
  simp only [framesSent, step, perform]
  generalize (e.onPipeEnd p now).1 = res, (e.onPipeEnd p now).2 = e₁ at ho ⊢
  intro r hr
  cases ho with
  | misplaced =>
      obtain rfl : r = encodeNack cmdPipeWriteEnd := by
        simpa [takeTailSack, htail, reply] using hr
      exact sackOf_of_none rfl
  | flushed hplace _ _ _ hfinish =>
      rw [hfinish.frames_of_staged, List.mem_cons, List.mem_singleton] at hr
      rcases hr with rfl | rfl
      · exact sackOf_inorderSack (hled.pipeCounters hplace)
      · exact sackOf_of_none hfinish.ackView_eq
  | finished _ _ _ _ hfinish =>
      obtain rfl : r = res.response := by
        simpa [takeTailSack_of_not (hfinish.staged.1.trans htail)] using hr
      exact sackOf_of_none hfinish.ackView_eq

/-- **Every SACK acknowledges all chunks accepted by then.** -/
theorem sackOf_framesSent (hled : Ledger t e) (htail : e.hasTailSack = false)
    (op : EngineOp ω) : ∀ r ∈ e.framesSent op, SackOf (watchTransfer t e op).chunks.length r := by
  intro r hr
  by_cases hdata : ∃ p now, op = .pipeData p now
  · obtain ⟨p, now, rfl⟩ := hdata
    exact sackView_of_framesSent hled htail p now _ rfl r hr
  by_cases hend : ∃ p now, op = .pipeEnd p now
  · obtain ⟨p, now, rfl⟩ := hend
    exact sackOf_pipeEnd hled htail p now r hr
  · exact sackOf_of_none
      (framesSent_silent htail (by simpa using hdata) (by simpa using hend) r hr)

/-- A `0x81` of an open transfer after which it is still open: it is answered by a SACK,
or it is one more chunk without one. -/
lemma pipeData_since (hled : Ledger t e) (hplace : e.PipeReceiving)
    (htail : e.hasTailSack = false) (p : Payload) (now : UInt32)
    (hopen : (e.onPipeData p now).2.PipeReceiving) :
    (e.framesSent (.pipeData p now : EngineOp ω)).any isSack = true ∨
      (e.onPipeData p now).2.txn.acceptedSinceAck.toNat = e.txn.acceptedSinceAck.toNat + 1 := by
  obtain ⟨-, hbook, hpipe⟩ := hled.book_of_receiving hplace.1
  have hwas := hpipe (hbook.mode_eq.symm.trans hplace.2)
  have ho := onPipeData_outcome e p now
  simp only [framesSent, step, perform]
  generalize (e.onPipeData p now).1 = res, (e.onPipeData p now).2 = e₁ at ho hopen ⊢
  cases ho with
  | latched hlatch => cases hwas.not_fatal.symm.trans hlatch
  | misplaced _ hnot => exact absurd hplace hnot
  | malformed | oversize | writeFailed =>
      have hstate := hopen.1
      simp at hstate
  | outOfOrder =>
      refine Or.inl ?_
      simp [reply, isSack_inorderSack]
  | accepted _ _ data _ _ _ _ _ hchunk =>
      cases hchunk with
      | completed _ _ _ hfinish => exact absurd hopen.1 hfinish.not_receiving
      | sacked =>
          refine Or.inl ?_
          simp [takeTailSack, pipeAccepted, acceptPipe, htail, reply, isSack_inorderSack]
      | silent => exact Or.inr (Words.toNat_add_one_of_lt hwas.since_lt)

/-- The frames of a `0x81` that completes the transfer: a SACK and the END ACK. -/
lemma pipeData_completes (hplace : e.PipeReceiving) (p : Payload) (now : UInt32)
    (hdone : (e.onPipeData p now).2.txn.state = .refreshing) :
    ∃ r, isSack r = true ∧
      e.framesSent (.pipeData p now : EngineOp ω) = [r, encodeAck cmdPipeWriteEnd] := by
  have hreceiving : e.txn.state ≠ .refreshing := by
    rw [hplace.1]
    decide
  have ho := onPipeData_outcome e p now
  simp only [framesSent, step, perform]
  generalize (e.onPipeData p now).1 = res, (e.onPipeData p now).2 = e₁ at ho hdone ⊢
  cases ho with
  | latched | outOfOrder | misplaced => exact absurd hdone hreceiving
  | malformed | oversize | writeFailed => simp at hdone
  | accepted _ _ data _ _ _ _ _ hchunk =>
      cases hchunk with
      | completed _ _ _ hfinish =>
          rw [hfinish.frames_of_staged, hfinish.response_of_refreshing hdone]
          exact ⟨_, isSack_inorderSack _, rfl⟩
      | sacked | silent => exact absurd hdone hreceiving

/-- The frames of a `0x82` that completes the transfer: the END ACK, after a SACK if there
is an incomplete group. -/
lemma pipeEnd_completes (hplace : e.PipeReceiving) (htail : e.hasTailSack = false) (p : Payload)
    (now : UInt32) (hdone : (e.onPipeEnd p now).2.txn.state = .refreshing) :
    ∃ before, e.framesSent (.pipeEnd p now : EngineOp ω) =
        before ++ [encodeAck cmdPipeWriteEnd] ∧
      (before.any isSack = true ∨ e.txn.acceptedSinceAck = 0) := by
  have hreceiving : e.txn.state ≠ .refreshing := by
    rw [hplace.1]
    decide
  have ho := onPipeEnd_outcome e p now
  simp only [framesSent, step, perform]
  generalize (e.onPipeEnd p now).1 = res, (e.onPipeEnd p now).2 = e₁ at ho hdone ⊢
  cases ho with
  | misplaced => exact absurd hdone hreceiving
  | flushed _ _ _ _ hfinish =>
      refine ⟨[e.inorderSack], ?_, Or.inl (by simp [isSack_inorderSack])⟩
      rw [hfinish.frames_of_staged, hfinish.response_of_refreshing hdone]
      rfl
  | finished _ hzero _ _ hfinish =>
      refine ⟨[], ?_, Or.inr hzero⟩
      rw [takeTailSack_of_not (hfinish.staged.1.trans htail), hfinish.response_of_refreshing hdone]
      rfl

/-! ### The history of the acknowledgements -/

/-- What has been acknowledged since the last accepted START. -/
structure AckHistory where
  transfer : Transfer := {}
  /-- The frames sent, each with the number of chunks accepted by then. -/
  sent : List (ℕ × Response) := []
  /-- The chunks accepted since the last SACK. -/
  sinceSack : ℕ := 0

/-- The monitor of the acknowledgements. -/
def watchAcks (h : AckHistory) (e : TransferEngine β) (op : EngineOp ω) : AckHistory :=
  let transfer := watchTransfer h.transfer e op
  if op.isStart ∧ (e.perform op).1.transferStarted then { transfer := transfer }
  else
    { transfer := transfer
      sent := h.sent ++ (e.framesSent op).map fun r => (transfer.chunks.length, r)
      sinceSack :=
        if (e.framesSent op).any isSack then 0
        else h.sinceSack + (transfer.chunks.length - h.transfer.chunks.length) }

lemma watchTransfer_of_opened (t : Transfer) (e : TransferEngine β) {op : EngineOp ω}
    (hstart : op.isStart = true) (hstarted : (e.perform op).1.transferStarted = true) :
    (watchTransfer t e op).chunks = [] := by
  cases op with
  | directStart | pipeStart => rw [watchTransfer, if_pos hstarted]; rfl
  | _ => cases hstart

/-- Unless it opens a transfer, an operation adds at most one chunk. -/
lemma watchTransfer_length (t : Transfer) (e : TransferEngine β) {op : EngineOp ω}
    (hopened : ¬ (op.isStart = true ∧ (e.perform op).1.transferStarted = true)) :
    t.chunks.length ≤ (watchTransfer t e op).chunks.length ∧
      (watchTransfer t e op).chunks.length ≤ t.chunks.length + 1 := by
  cases op with
  | directStart | pipeStart =>
      rw [watchTransfer, if_neg fun hstarted => hopened ⟨rfl, hstarted⟩]
      exact ⟨Nat.le_refl _, Nat.le_succ _⟩
  | directData | pipeData =>
      rw [watchTransfer]
      split_ifs <;> simp
  | _ => exact ⟨Nat.le_refl _, Nat.le_succ _⟩

/-- Only its own data packets are counted in an open PIPE transfer. -/
lemma watchTransfer_of_pipeReceiving (hled : Ledger t e) (hplace : e.PipeReceiving)
    {op : EngineOp ω} (hopened : ¬ (op.isStart = true ∧ (e.perform op).1.transferStarted = true))
    (hdata : ∀ p now, op ≠ .pipeData p now) : watchTransfer t e op = t := by
  cases op with
  | directStart | pipeStart =>
      rw [watchTransfer, if_neg fun hstarted => hopened ⟨rfl, hstarted⟩]
  | directData p now =>
      rw [watchTransfer, if_neg]
      intro hcounted
      have hmode := (hled.book_of_receiving hplace.1).2.1.mode_eq
      rw [hled.mode_of_directData hcounted, hplace.2] at hmode
      cases hmode
  | pipeData p now => exact absurd rfl (hdata p now)
  | _ => rfl

/-! ### The invariant -/

/-- What holds between two operations. -/
structure AckInv {β : Type} (s : AckHistory × TransferEngine β) : Prop where
  ledger : Ledger s.1.transfer s.2
  no_tail : s.2.hasTailSack = false
  sacks : ∀ f ∈ s.1.sent, SackOf f.1 f.2
  since_le : s.2.PipeReceiving → s.1.sinceSack ≤ s.2.txn.acceptedSinceAck.toNat
  cadence_le : s.2.PipeReceiving → s.2.txn.negotiatedAckEvery ≤ pipeMaxAckEvery
  acked : s.2.PipeReceiving → s.1.transfer.chunks.length < 2 ^ 32 →
    ∀ k, k + s.1.sinceSack < s.1.transfer.chunks.length → ∃ f ∈ s.1.sent, Acked k f

/-- The cadence stays what was negotiated. -/
lemma cadence_le_step
    (h : e.PipeReceiving → e.txn.negotiatedAckEvery ≤ pipeMaxAckEvery) (op : EngineOp ω)
    (hplace : (e.step op).PipeReceiving) :
    (e.step op).txn.negotiatedAckEvery ≤ pipeMaxAckEvery := by
  cases step_receiving e op hplace.1 with
  | kept hstate hsame =>
      rw [hsame.ackEvery_eq]
      exact h ⟨hstate, hsame.mode_eq ▸ hplace.2⟩
  | directOpened _ _ _ _ hmode => rw [hplace.2] at hmode; cases hmode
  | pipeOpened _ _ req _ _ _ _ _ _ hackEvery =>
      rw [hackEvery]
      split_ifs with hlt
      · exact UInt8.le_of_lt hlt
      · exact UInt8.le_refl _

/-- A transfer that an operation leaves open and has not opened was open before. -/
lemma pipeReceiving_of_step {op : EngineOp ω} (hplace : (e.step op).PipeReceiving)
    (hopened : ¬ (op.isStart = true ∧ (e.perform op).1.transferStarted = true)) :
    e.PipeReceiving := by
  cases step_receiving e op hplace.1 with
  | kept hstate hsame => exact ⟨hstate, hsame.mode_eq ▸ hplace.2⟩
  | directOpened p now hop hstarted => exact absurd ⟨by rw [hop]; rfl, hstarted⟩ hopened
  | pipeOpened p now req hop _ hstarted => exact absurd ⟨by rw [hop]; rfl, hstarted⟩ hopened

lemma onPipeEnd_not_receiving (hplace : e.PipeReceiving) (p : Payload) (now : UInt32) :
    (e.onPipeEnd p now).2.txn.state ≠ .receiving := by
  have ho := onPipeEnd_outcome e p now
  generalize (e.onPipeEnd p now).1 = res, (e.onPipeEnd p now).2 = e₁ at ho ⊢
  cases ho with
  | misplaced hnot => exact absurd hplace hnot
  | flushed _ _ _ _ hfinish | finished _ _ _ _ hfinish => exact hfinish.not_receiving

/-- The chunks since the last SACK are counted by the cadence counter. -/
lemma since_le_step (hled : Ledger t e) (htail : e.hasTailSack = false) {since : ℕ}
    (hsince : since ≤ e.txn.acceptedSinceAck.toNat) {op : EngineOp ω}
    (hopened : ¬ (op.isStart = true ∧ (e.perform op).1.transferStarted = true))
    (hplace : (e.step op).PipeReceiving) :
    (if (e.framesSent op).any isSack then 0
      else since + ((watchTransfer t e op).chunks.length - t.chunks.length)) ≤
      (e.step op).txn.acceptedSinceAck.toNat := by
  have hwas := pipeReceiving_of_step hplace hopened
  by_cases hdata : ∃ p now, op = .pipeData p now
  · obtain ⟨p, now, rfl⟩ := hdata
    have hlen := watchTransfer_length t e hopened
    rcases pipeData_since (ω := ω) hled hwas htail p now hplace with hsack | hcounted
    · rw [if_pos hsack]
      exact Nat.zero_le _
    · have hcounted' : (e.step (.pipeData p now : EngineOp ω)).txn.acceptedSinceAck.toNat = _ :=
        hcounted
      rw [hcounted']
      split_ifs <;> omega
  · have hdata' : ∀ p now, op ≠ .pipeData p now := by simpa using hdata
    have hend : ∀ p now, op ≠ .pipeEnd p now := by
      rintro p now rfl
      exact onPipeEnd_not_receiving hwas p now hplace.1
    rw [watchTransfer_of_pipeReceiving hled hwas hopened hdata']
    rcases step_of_pipeReceiving hwas op hdata' hend with htxn | hidle | hop
    · rw [htxn]
      split_ifs <;> omega
    · have hstate := hplace.1
      rw [hidle] at hstate
      cases hstate
    · exact absurd hop.1 hopened

omit [OpenDisplayBackend β] [PanelWorld β ω] in
/-- The chunks since the last SACK are less than a cadence. -/
lemma AckInv.since_lt {s : AckHistory × TransferEngine β} (h : AckInv s)
    (hplace : s.2.PipeReceiving) :
    s.1.sinceSack < s.2.txn.negotiatedAckEvery.toNat ∧ s.1.sinceSack < 4 := by
  obtain ⟨-, hbook, hopen⟩ := h.ledger.book_of_receiving hplace.1
  have hlt := UInt8.lt_iff_toNat_lt.mp (hopen (hbook.mode_eq.symm.trans hplace.2)).since_lt
  have hcap := UInt8.le_iff_toNat_le.mp (h.cadence_le hplace)
  have hfour : pipeMaxAckEvery.toNat = 4 := rfl
  have hsince := h.since_le hplace
  omega

/-- What is acknowledged after an operation that does not open a transfer, as far as the
chunks count that are not in the group since the last SACK. -/
lemma AckInv.acked_step {s : AckHistory × TransferEngine β} (h : AckInv s)
    (hplace : s.2.PipeReceiving) {op : EngineOp ω}
    (hopened : ¬ (op.isStart = true ∧ (s.2.perform op).1.transferStarted = true))
    (hfew : (watchTransfer s.1.transfer s.2 op).chunks.length < 2 ^ 32) :
    ∀ k, k + (watchAcks s.1 s.2 op).sinceSack <
        (watchTransfer s.1.transfer s.2 op).chunks.length →
      ∃ f ∈ (watchAcks s.1 s.2 op).sent, Acked k f := by
  obtain ⟨hle, hsucc⟩ := watchTransfer_length s.1.transfer s.2 hopened
  have hsince := (h.since_lt hplace).2
  rw [watchAcks, if_neg hopened]
  exact acked_append (h.acked hplace (by omega)) (sackOf_framesSent h.ledger h.no_tail op) hfew
    (by omega) hle

/-- **Every operation keeps the acknowledgements complete.** -/
theorem AckInv.step {s : AckHistory × TransferEngine β} (h : AckInv s) (op : EngineOp ω) :
    AckInv (Machine.monitored serve watchAcks s op) := by
  have htxn : (s.2.serve op).txn = (s.2.step op).txn := takeTailSack_txn _
  have hreceiving : (s.2.serve op).PipeReceiving → (s.2.step op).PipeReceiving := by
    intro hplace
    rwa [PipeReceiving, htxn] at hplace
  have hcadence : (s.2.serve op).PipeReceiving →
      (s.2.serve op).txn.negotiatedAckEvery ≤ pipeMaxAckEvery := by
    intro hplace
    rw [htxn]
    exact cadence_le_step h.cadence_le op (hreceiving hplace)
  by_cases hopened : op.isStart = true ∧ (s.2.perform op).1.transferStarted = true
  · have hwatch : watchAcks s.1 s.2 op = { transfer := watchTransfer s.1.transfer s.2 op } :=
      if_pos hopened
    have hnone := watchTransfer_of_opened s.1.transfer s.2 hopened.1 hopened.2
    rw [Machine.monitored, hwatch]
    exact {
      ledger := h.ledger.serve op
      no_tail := takeTailSack_hasTailSack _
      sacks := fun _ hf => (List.not_mem_nil hf).elim
      since_le := fun _ => Nat.zero_le _
      cadence_le := hcadence
      acked := fun _ _ k hk => by simp [hnone] at hk }
  · have htransfer : (watchAcks s.1 s.2 op).transfer = watchTransfer s.1.transfer s.2 op := by
      rw [watchAcks, if_neg hopened]
    have hwas := fun hplace => pipeReceiving_of_step (hreceiving hplace) hopened
    refine ⟨?_, takeTailSack_hasTailSack _, ?_, fun hplace => ?_, hcadence, fun hplace => ?_⟩
    · rw [Machine.monitored, htransfer]
      exact h.ledger.serve op
    · intro f hf
      simp only [Machine.monitored, watchAcks, if_neg hopened, List.mem_append,
        List.mem_map] at hf
      rcases hf with hf | ⟨r, hr, rfl⟩
      · exact h.sacks f hf
      · exact sackOf_framesSent h.ledger h.no_tail op r hr
    · have hle := since_le_step h.ledger h.no_tail (h.since_le (hwas hplace)) hopened
        (hreceiving hplace)
      simp only [Machine.monitored, htxn, watchAcks, if_neg hopened]
      exact hle
    · rw [Machine.monitored, htransfer]
      exact h.acked_step (hwas hplace) hopened

/-- How a PIPE transfer comes to its refresh: with the END ACK, and with no chunk accepted
since the last SACK before it. -/
lemma AckInv.completes {s : AckHistory × TransferEngine β} (h : AckInv s)
    (hplace : s.2.PipeReceiving) {op : EngineOp ω}
    (hdone : (s.2.step op).txn.state = .refreshing) :
    ¬ (op.isStart = true ∧ (s.2.perform op).1.transferStarted = true) ∧
    ∃ before, s.2.framesSent op = before ++ [encodeAck cmdPipeWriteEnd] ∧
      (before.any isSack = true ∨ s.1.sinceSack = 0 ∧
        watchTransfer s.1.transfer s.2 op = s.1.transfer) := by
  by_cases hdata : ∃ p now, op = .pipeData p now
  · obtain ⟨p, now, rfl⟩ := hdata
    obtain ⟨r, hsack, hframes⟩ := pipeData_completes (ω := ω) hplace p now hdone
    exact ⟨(fun hopened => nomatch hopened.1), [r], hframes, Or.inl (by simpa using hsack)⟩
  by_cases hend : ∃ p now, op = .pipeEnd p now
  · obtain ⟨p, now, rfl⟩ := hend
    obtain ⟨before, hframes, hbefore⟩ := pipeEnd_completes (ω := ω) hplace h.no_tail p now hdone
    refine ⟨(fun hopened => nomatch hopened.1), before, hframes, hbefore.imp id fun hzero => ?_⟩
    have hsince := h.since_le hplace
    rw [hzero] at hsince
    exact ⟨Nat.le_zero.mp hsince, rfl⟩
  · exfalso
    rcases step_of_pipeReceiving hplace op (by simpa using hdata) (by simpa using hend) with
      htxn | hidle | ⟨-, hstate⟩
    · rw [htxn, hplace.1] at hdone
      cases hdone
    · rw [hidle] at hdone
      cases hdone
    · rw [hstate] at hdone
      cases hdone

/-- **No accepted chunk is left unacknowledged.**  Over every run: a SACK that is sent
after `n` chunks of a transfer, fewer than `2 ^ 32`, covers each of the last 33 of them;
while a PIPE transfer is open, fewer chunks than the negotiated cadence have been accepted
since the last SACK; and when a PIPE transfer comes to its refresh, the last frame is the
END ACK, and every chunk is covered by a SACK sent before it, while that chunk was among
the last 33. -/
theorem acks_complete (b : β) (transferMs refreshMs : UInt32) (ops : List (EngineOp ω)) :
    let s := Machine.exec (Machine.monitored serve watchAcks)
      (({} : AckHistory), init b transferMs refreshMs) ops
    (∀ f ∈ s.1.sent, isSack f.2 = true → f.1 < 2 ^ 32 →
      ∀ k < f.1, f.1 ≤ k + 33 → covers f.2 k = true) ∧
    (s.2.PipeReceiving → s.1.sinceSack < s.2.txn.negotiatedAckEvery.toNat) ∧
    ∀ op : EngineOp ω, s.2.PipeReceiving → (s.2.step op).txn.state = .refreshing →
      let n := (watchTransfer s.1.transfer s.2 op).chunks.length
      ∃ before, s.2.framesSent op = before ++ [encodeAck cmdPipeWriteEnd] ∧
        (n < 2 ^ 32 → ∀ k < n, ∃ f ∈ s.1.sent ++ before.map (fun r => (n, r)), Acked k f) := by
  intro s
  have hinit : AckInv (({} : AckHistory), init b transferMs refreshMs) :=
    ⟨ledger_init _ _ _ _, rfl, (fun _ hf => nomatch hf), (fun hplace => nomatch hplace.1),
      (fun hplace => nomatch hplace.1), (fun hplace => nomatch hplace.1)⟩
  have hinv : AckInv s :=
    Machine.exec_invariant (I := AckInv) (fun _ op h => h.step op) hinit ops
  refine ⟨fun f hf hsack hfew k hk hrecent =>
    covers_of_sackOf (hinv.sacks f hf) hsack hfew hk hrecent,
    fun hplace => (hinv.since_lt hplace).1, fun op hplace hdone => ?_⟩
  obtain ⟨hopened, before, hframes, hbefore⟩ := hinv.completes hplace hdone
  refine ⟨before, hframes, fun hfew k hk => ?_⟩
  have hacked := hinv.acked_step hplace hopened hfew
  -- the END ACK itself covers nothing
  have hack : ∀ f : ℕ × Response, f.2 = encodeAck cmdPipeWriteEnd → ¬ Acked k f := by
    rintro f hf ⟨-, -, hcovers⟩
    rw [covers, hf] at hcovers
    cases hcovers
  have hzero : (watchAcks s.1 s.2 op).sinceSack = 0 := by
    rw [watchAcks, if_neg hopened, hframes]
    rcases hbefore with hany | ⟨hsince, hsame⟩
    · exact if_pos (by rw [List.any_append, hany, Bool.true_or])
    · simp [hsince, hsame]
  obtain ⟨f, hf, hfk⟩ := hacked k (by rw [hzero]; exact hk)
  rw [watchAcks, if_neg hopened, hframes, List.map_append, ← List.append_assoc,
    List.mem_append] at hf
  rcases hf with hf | hf
  · exact ⟨f, hf, hfk⟩
  · obtain rfl : f = (_, _) := by simpa using hf
    exact absurd hfk (hack _ rfl)

end TransferEngine

end OpenDisplay
