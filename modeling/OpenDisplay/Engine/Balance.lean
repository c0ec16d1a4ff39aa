import OpenDisplay.Engine.Movement
import OpenDisplay.Engine.RefreshHonest

/-!
# The books of a transaction balance

What the fields of a transaction say to each other between any two calls, for a
panel whose frames are not empty.  Most of it is the ledger of the transfer; what the
ledger leaves open is that a PIPE transfer never stays open once its frame is full.
It follows that the check against the bytes still missing is exact: the unsigned
subtraction does not underflow, no offset wraps, and nothing is written beyond the
end of the frame.
-/

namespace OpenDisplay

open OpenDisplayBackend

namespace TransferEngine

/-- The fields of the transaction of `t`, on a panel with frames of `full` bytes. -/
structure Balanced {β : Type} (full : UInt32) (t : Transfer) (e : TransferEngine β) : Prop where
  state_cases : e.txn.state = .idle ∨ e.txn.state = .receiving ∨ e.txn.state = .refreshing
  free_of_receiving : e.txn.state = .receiving → e.hwOwned = false
  owned_of_refreshing : e.txn.state = .refreshing → e.hwOwned = true
  expected_eq : e.txn.state ≠ .idle → e.txn.expectedFrameBytes = full
  accepted_le : e.txn.acceptedBytes ≤ e.txn.expectedFrameBytes
  accepted_eq : e.txn.state = .refreshing → e.txn.acceptedBytes = e.txn.expectedFrameBytes
  accepted_lt : e.PipeReceiving → e.txn.acceptedBytes < e.txn.expectedFrameBytes
  offset_eq : e.txn.state ≠ .idle → e.txn.mode = .direct →
    e.txn.nextDirectOffset = e.txn.acceptedBytes
  next_eq : e.txn.state ≠ .idle → e.txn.mode = .pipe →
    e.txn.nextPipeSequence = e.txn.acceptedPackets.toUInt8
  highest_eq : e.txn.state ≠ .idle → e.txn.mode = .pipe → t.chunks ≠ [] →
    e.txn.highestSeen = (e.txn.acceptedPackets - 1).toUInt8
  since_lt : e.PipeReceiving → e.txn.acceptedSinceAck < e.txn.negotiatedAckEvery
  not_fatal : e.PipeReceiving → e.txn.pipeFatal = false
  idle_eq : e.txn.state = .idle → e.txn = { pipeFatal := e.txn.pipeFatal }

/-- No `write_contiguous` call goes beyond `full` bytes. -/
def WritesFit {β : Type} (full : UInt32) (r : Recorder β) : Prop :=
  ∀ offset data answer, .writeContiguous offset data answer ∈ r.calls →
    offset.toNat + data.length ≤ full.toNat

/-! ### The frame of an open PIPE transfer is not full -/

/-- An open PIPE transfer waits for more bytes. -/
def PipeShort {β : Type} (e : TransferEngine β) : Prop :=
  e.PipeReceiving → e.txn.acceptedBytes < e.txn.expectedFrameBytes

section Short

variable {β ω : Type} [OpenDisplayBackend β] [PanelWorld β ω] [FixedCapabilities β]
  {caps : DisplayCapabilities} {t : Transfer} {e : TransferEngine β}

lemma PipeShort.step (h : PipeShort e) (hled : Ledger t e) (hsize : Sized caps t e)
    (hfull : 0 < caps.fullFrameBytes) (op : EngineOp ω) : PipeShort (e.step op) := by
  intro hplace
  cases step_transferMove e op with
  | ended hidle =>
      have hstate := hplace.1
      rw [hidle] at hstate
      cases hstate
  | opened mode _ _ hbook haccepted =>
      rw [hbook.expected_eq, haccepted, openedTransfer,
        cleared_backend (FixedCapabilities.fixed caps).toQuietInvariant hsize.caps_eq]
      exact hfull
  | kept hmode hstate _ hexpected haccepted =>
      rw [hexpected, haccepted]
      exact h ⟨hstate hplace.1, hmode ▸ hplace.2⟩
  | took _ _ _ _ _ _ _ _ _ _ hopen =>
      -- a full frame would have ended the transfer
      obtain ⟨-, hbook, -⟩ := (hled.step op).book_of_receiving hplace.1
      have hcomplete := hopen hplace
      simpa [PipeComplete, hbook.not_compressed, hbook.not_partial] using hcomplete

end Short

/-! ### Writes stay within the frame -/

section Writes

variable {β ω : Type} [OpenDisplayBackend β] [PanelWorld β ω] {t : Transfer}
  {e : TransferEngine (Recorder β)} {full : UInt32}

omit [OpenDisplayBackend β] [PanelWorld β ω] in
lemma WritesFit.append {r r' : Recorder β} (h : WritesFit full r) {call : BackendCall}
    (hr : r'.calls = r.calls ++ [call])
    (hcall : ∀ offset data answer, call = .writeContiguous offset data answer →
      offset.toNat + data.length ≤ full.toNat) : WritesFit full r' := by
  intro o d a hmem
  rw [hr, List.mem_append, List.mem_singleton] at hmem
  rcases hmem with hmem | rfl
  · exact h o d a hmem
  · exact hcall o d a rfl

lemma quietInvariant_writesFit (full : UInt32) :
    QuietInvariant (WritesFit (β := β) full) where
  beginFrame _ h := h.append rfl (fun _ _ _ hcall => nomatch hcall)
  finishFrame h := h.append rfl (fun _ _ _ hcall => nomatch hcall)
  beginRefresh _ h := h.append rfl (fun _ _ _ hcall => nomatch hcall)
  pollRefresh h := h.append rfl (fun _ _ _ hcall => nomatch hcall)
  abortTransfer h := h.append rfl (fun _ _ _ hcall => nomatch hcall)
  happen _ h := h

omit [OpenDisplayBackend β] [PanelWorld β ω] in
/-- A write that a packet asks for lies within the expected frame. -/
lemma Ledger.writeCall_fits (hled : Ledger t e) {op : EngineOp ω} {offset : UInt32}
    {data : List UInt8} (hcall : e.WriteCall op offset data) :
    offset.toNat + data.length ≤ e.txn.expectedFrameBytes.toNat ∧
      e.txn.state = .receiving := by
  obtain ⟨hfit, hplace⟩ := hcall
  have hle : ∀ {t : Transfer}, Bookkeeping t e.txn →
      e.txn.acceptedBytes.toNat + data.length ≤ e.txn.expectedFrameBytes.toNat := by
    intro t hbook
    rw [hbook.accepted_eq]
    exact (hbook.fits hfit).2
  cases op with
  | directData p now =>
      obtain ⟨⟨hstate, hmode⟩, rfl, -⟩ := hplace
      obtain ⟨-, hbook, -⟩ := hled.book_of_receiving hstate
      rw [hbook.offset_eq (hbook.mode_eq.symm.trans hmode)]
      exact ⟨hle hbook, hstate⟩
  | pipeData p now =>
      obtain ⟨hreceiving, rfl, -⟩ := hplace
      exact ⟨hle (hled.book_of_receiving hreceiving.1).2.1, hreceiving.1⟩
  | _ => exact hplace.elim

lemma WritesFit.step (h : WritesFit full e.backend) (hled : Ledger t e)
    (hexpected : e.txn.state = .receiving → e.txn.expectedFrameBytes = full) (op : EngineOp ω) :
    WritesFit full (e.step op).backend := by
  refine step_backend_of_writeCalls (quietInvariant_writesFit full) h op fun o d hcall => ?_
  obtain ⟨hfit, hstate⟩ := hled.writeCall_fits hcall
  refine h.append rfl fun o' d' a' hcall' => ?_
  cases hcall'
  rw [← hexpected hstate]
  exact hfit

end Writes

/-! ### Runs -/

section Runs

variable {β ω : Type} [OpenDisplayBackend β] [PanelWorld β ω] {t : Transfer}
  {e : TransferEngine (Recorder β)} {caps : DisplayCapabilities}

/-- What holds along every run. -/
structure BalanceInv (caps : DisplayCapabilities)
    (s : Transfer × TransferEngine (Recorder β)) : Prop where
  ledger : Ledger s.1 s.2
  sized : Sized caps s.1 s.2
  short : PipeShort s.2
  fit : WritesFit caps.fullFrameBytes s.2.backend

/-- A transfer under way is counted, for a full frame. -/
lemma BalanceInv.book {s : Transfer × TransferEngine (Recorder β)} (h : BalanceInv caps s)
    (hstate : s.2.txn.state ≠ .idle) :
    Bookkeeping s.1 s.2.txn ∧ s.2.txn.expectedFrameBytes = caps.fullFrameBytes := by
  have hbook : Bookkeeping s.1 s.2.txn := by
    cases h.ledger with
    | idle htxn => rw [htxn] at hstate; exact absurd rfl hstate
    | receiving _ _ hbook => exact hbook
    | refreshing _ _ hbook => exact hbook
  refine ⟨hbook, hbook.expected_eq.trans (h.sized.full_eq ?_)⟩
  rcases hbook.mode_ne with hmode | hmode <;> simp [hmode]

lemma BalanceInv.step [FixedCapabilities β] {s : Transfer × TransferEngine (Recorder β)}
    (h : BalanceInv caps s) (hfull : 0 < caps.fullFrameBytes) (op : EngineOp ω) :
    BalanceInv caps (tracked s op) where
  ledger := h.ledger.step op
  sized := h.sized.step op
  short := h.short.step h.ledger h.sized hfull op
  fit := h.fit.step h.ledger (fun hstate => (h.book (by rw [hstate]; decide)).2) op

/-- The counters of `n` chunks, whether or not `n` has outgrown its word. -/
lemma PipeCounters.next_eq_packets {n : ℕ} {txn : Transaction} (h : PipeCounters n txn) :
    txn.nextPipeSequence = txn.acceptedPackets.toUInt8 := by
  rw [h.next_eq, h.packets_eq, ← UInt8.toNat_inj]
  simp

lemma PipeCounters.highest_eq_packets {n : ℕ} {txn : Transaction} (h : PipeCounters n txn)
    (hn : 1 ≤ n) : txn.highestSeen = (txn.acceptedPackets - 1).toUInt8 := by
  have hpred : UInt32.ofNat n - 1 = UInt32.ofNat (n - 1) := (UInt32.ofNat_sub hn).symm
  rw [h.highest_eq, h.packets_eq, hpred, ← UInt8.toNat_inj]
  simp

lemma BalanceInv.balanced {s : Transfer × TransferEngine (Recorder β)} (h : BalanceInv caps s) :
    Balanced caps.fullFrameBytes s.1 s.2 where
  state_cases := h.ledger.state_cases
  free_of_receiving hstate := (h.ledger.book_of_receiving hstate).1
  owned_of_refreshing := h.ledger.hwOwned_of_refreshing
  expected_eq hstate := (h.book hstate).2
  accepted_le := by
    by_cases hidle : s.2.txn.state = .idle
    · cases h.ledger with
      | idle htxn => rw [htxn]; exact UInt32.le_refl _
      | receiving hstate => rw [hidle] at hstate; cases hstate
      | refreshing hstate => rw [hidle] at hstate; cases hstate
    · have hbook := (h.book hidle).1
      rw [UInt32.le_iff_toNat_le, hbook.accepted_eq]
      exact hbook.size_le
  accepted_eq hstate := by
    cases h.ledger with
    | idle htxn => rw [htxn] at hstate; cases hstate
    | receiving hreceiving => rw [hreceiving] at hstate; cases hstate
    | refreshing _ _ hbook hfull => exact UInt32.toNat_inj.mp (hbook.accepted_eq.trans hfull)
  accepted_lt := h.short
  offset_eq hstate hmode := by
    have hbook := (h.book hstate).1
    exact hbook.offset_eq (hbook.mode_eq.symm.trans hmode)
  next_eq hstate _ := (h.book hstate).1.counters.next_eq_packets
  highest_eq hstate hmode hchunks := by
    have hbook := (h.book hstate).1
    have hcounters := hbook.counters
    rw [Transfer.pipeChunks_of_pipe (hbook.mode_eq.symm.trans hmode)] at hcounters
    exact hcounters.highest_eq_packets (List.length_pos_iff.mpr hchunks)
  since_lt hplace := by
    obtain ⟨-, hbook, hopen⟩ := h.ledger.book_of_receiving hplace.1
    exact (hopen (hbook.mode_eq.symm.trans hplace.2)).since_lt
  not_fatal hplace := by
    obtain ⟨-, hbook, hopen⟩ := h.ledger.book_of_receiving hplace.1
    exact (hopen (hbook.mode_eq.symm.trans hplace.2)).not_fatal
  idle_eq hidle := by
    cases h.ledger with
    | idle htxn => exact htxn
    | receiving hstate => rw [hidle] at hstate; cases hstate
    | refreshing hstate => rw [hidle] at hstate; cases hstate

/-- **The books balance.**  On a panel with fixed capabilities and frames that are not
empty, in every state that a run reaches, the fields of the transaction are in balance;
what passes the check against the missing bytes neither underflows nor wraps; and every
write so far lies within the frame. -/
theorem balanced_exec [FixedCapabilities β] (b : β)
    (hfull : 0 < (capabilities b).fullFrameBytes) (transferMs refreshMs : UInt32)
    (ops : List (EngineOp ω)) :
    let s :=
      Machine.exec tracked (({} : Transfer), init (Recorder.fresh b) transferMs refreshMs) ops
    let txn := s.2.txn
    Balanced (capabilities b).fullFrameBytes s.1 s.2 ∧
      (txn.expectedFrameBytes - txn.acceptedBytes).toNat =
        txn.expectedFrameBytes.toNat - txn.acceptedBytes.toNat ∧
      (∀ n ≤ (txn.expectedFrameBytes - txn.acceptedBytes).toNat,
        (txn.acceptedBytes + UInt32.ofNat n).toNat = txn.acceptedBytes.toNat + n) ∧
      (∀ n ≤ (txn.expectedFrameBytes - txn.acceptedBytes).toNat, txn.mode = .direct →
        (txn.nextDirectOffset + UInt32.ofNat n).toNat = txn.nextDirectOffset.toNat + n) ∧
      WritesFit (capabilities b).fullFrameBytes s.2.backend := by
  intro s txn
  have hinit : BalanceInv (capabilities b)
      (({} : Transfer), init (Recorder.fresh b) transferMs refreshMs) :=
    ⟨ledger_init _ _ _ _, ⟨rfl, fun h => absurd rfl h⟩, (fun h => nomatch h.1),
      (fun _ _ _ hmem => nomatch hmem)⟩
  have hinv : BalanceInv (capabilities b) s :=
    Machine.exec_invariant (I := BalanceInv (capabilities b))
      (fun _ op h => h.step hfull op) hinit ops
  have hbalanced := hinv.balanced
  have hle := hbalanced.accepted_le
  have hle' := UInt32.le_iff_toNat_le.mp hle
  refine ⟨hbalanced, UInt32.toNat_sub_of_le _ _ hle, fun n hn => Words.toNat_add_ofNat hle' hn,
    fun n hn hmode => ?_, hinv.fit⟩
  have hidle : txn.state ≠ .idle := by
    intro hidle
    have htxn : txn.mode = .none := congrArg Transaction.mode (hbalanced.idle_eq hidle)
    rw [hmode] at htxn
    cases htxn
  have hoffset : txn.nextDirectOffset = txn.acceptedBytes := hbalanced.offset_eq hidle hmode
  rw [hoffset]
  exact Words.toNat_add_ofNat hle' hn

/-- A direct transfer of three bytes, up to the refresh. -/
theorem balanced_exec_directTransfer :
    let s := Machine.exec tracked
      (({} : Transfer), init (Recorder.fresh (ScriptedPanel.accepting 3 [])) 30000 180000)
      directTransfer
    let txn := s.2.txn
    Balanced 3 s.1 s.2 ∧
      (txn.expectedFrameBytes - txn.acceptedBytes).toNat =
        txn.expectedFrameBytes.toNat - txn.acceptedBytes.toNat ∧
      (∀ n ≤ (txn.expectedFrameBytes - txn.acceptedBytes).toNat,
        (txn.acceptedBytes + UInt32.ofNat n).toNat = txn.acceptedBytes.toNat + n) ∧
      (∀ n ≤ (txn.expectedFrameBytes - txn.acceptedBytes).toNat, txn.mode = .direct →
        (txn.nextDirectOffset + UInt32.ofNat n).toNat = txn.nextDirectOffset.toNat + n) ∧
      WritesFit 3 s.2.backend :=
  balanced_exec (ScriptedPanel.accepting 3 []) (by decide) 30000 180000 directTransfer

end Runs

end TransferEngine

end OpenDisplay
