import OpenDisplay.Engine.PipeAcks

/-!
# Chunks outside of the window

A `0x81` whose sequence number is neither inside the window nor that of one of the last
chunks can only come from a client that ignores the window.  `on_pipe_data` compares the
sequence number with the next one and with nothing else: it answers such a chunk like one
that was lost or sent twice, with the last SACK, and goes on with the transfer.  The
transaction is never aborted for it.
-/

namespace OpenDisplay

open OpenDisplayBackend

namespace TransferEngine

variable {β ω : Type} [OpenDisplayBackend β] [PanelWorld β ω] {e : TransferEngine β}

/-- The distance of a sequence number from the next one, modulo `256`. -/
def distance (e : TransferEngine β) (seq : UInt8) : ℕ := (seq - e.txn.nextPipeSequence).toNat

/-- A `0x81` for the open PIPE transfer that is outside of the window on both sides. -/
def WindowViolation (e : TransferEngine β) (p : Payload) : Prop :=
  e.PipeReceiving ∧ ∃ seq data, p.bytes = seq :: data ∧
    e.txn.negotiatedWindow.toNat ≤ e.distance seq ∧
      e.distance seq < 256 - e.txn.negotiatedWindow.toNat

omit [OpenDisplayBackend β] in
lemma distance_eq_iff (e : TransferEngine β) (seq : UInt8) {k : ℕ} (hk : k < 256) :
    e.distance seq = k ↔ seq = e.txn.nextPipeSequence + UInt8.ofNat k := by
  have hs := seq.toNat_lt
  have hn := e.txn.nextPipeSequence.toNat_lt
  rw [distance, ← UInt8.toNat_inj, UInt8.toNat_sub, UInt8.toNat_add, UInt8.toNat_ofNat']
  omega

omit [OpenDisplayBackend β] in
lemma outside_iff (e : TransferEngine β) (seq : UInt8) {window : ℕ} (hpos : 0 < window)
    (hwindow : window ≤ 128) :
    (window ≤ e.distance seq ∧ e.distance seq < 256 - window) ↔
      (∀ k < window, seq ≠ e.txn.nextPipeSequence + UInt8.ofNat k) ∧
        ∀ k, 1 ≤ k → k ≤ window → seq ≠ e.txn.nextPipeSequence + UInt8.ofNat (256 - k) := by
  have hlt : e.distance seq < 256 := (seq - e.txn.nextPipeSequence).toNat_lt
  constructor
  · rintro ⟨hlo, hhi⟩
    refine ⟨fun k hk heq => ?_, fun k hk hkw heq => ?_⟩
    · have := (e.distance_eq_iff seq (by omega)).mpr heq
      omega
    · have := (e.distance_eq_iff seq (by omega)).mpr heq
      omega
  · rintro ⟨hahead, hbehind⟩
    by_contra hnot
    rcases Nat.lt_or_ge (e.distance seq) window with h | h
    · exact hahead _ h ((e.distance_eq_iff seq hlt).mp rfl)
    · refine hbehind (256 - e.distance seq) (by omega) (by omega) ?_
      rw [show 256 - (256 - e.distance seq) = e.distance seq by omega]
      exact (e.distance_eq_iff seq hlt).mp rfl

omit [OpenDisplayBackend β] in
/-- What the two bounds say: the sequence number is none of the `W` that the window allows
next, and none of the last `W`. -/
lemma windowViolation_iff {p : Payload} (hpos : 0 < e.txn.negotiatedWindow.toNat)
    (hwindow : e.txn.negotiatedWindow.toNat ≤ 128) :
    e.WindowViolation p ↔ e.PipeReceiving ∧ ∃ seq data, p.bytes = seq :: data ∧
      (∀ k < e.txn.negotiatedWindow.toNat, seq ≠ e.txn.nextPipeSequence + UInt8.ofNat k) ∧
        ∀ k, 1 ≤ k → k ≤ e.txn.negotiatedWindow.toNat →
          seq ≠ e.txn.nextPipeSequence + UInt8.ofNat (256 - k) := by
  refine and_congr_right fun _ => exists_congr fun seq => exists_congr fun data => ?_
  exact and_congr_right fun _ => e.outside_iff seq hpos hwindow

/-! ### The window of an open transfer -/

/-- An open PIPE transfer has a window of at least one chunk. -/
def HasWindow {β : Type} (e : TransferEngine β) : Prop :=
  e.PipeReceiving → 0 < e.txn.negotiatedWindow.toNat

lemma HasWindow.step (h : HasWindow e) (op : EngineOp ω) : HasWindow (e.step op) := by
  intro hplace
  cases step_receiving e op hplace.1 with
  | kept hstate hsame =>
      rw [hsame.window_eq]
      exact h ⟨hstate, hsame.mode_eq ▸ hplace.2⟩
  | directOpened _ _ _ _ hmode => rw [hplace.2] at hmode; cases hmode
  | pipeOpened _ _ req _ hparse _ _ _ hwindow _ =>
      have hlo : (1 : ℕ) ≤ req.reqWindow.toNat :=
        UInt8.le_iff_toNat_le.mp (limits_of_parsePipeStart hparse).1.1
      rw [hwindow]
      split_ifs
      · exact hlo
      · decide

omit [OpenDisplayBackend β] in
/-- What a violation is in a reachable state: the transfer is not latched, and the sequence
number is not the next one. -/
lemma WindowViolation.outOfOrder {t : Transfer} (hled : Ledger t e) (hwindow : HasWindow e)
    {p : Payload} (h : e.WindowViolation p) :
    e.txn.pipeFatal = false ∧ e.PipeReceiving ∧
      ∃ seq data, p.bytes = seq :: data ∧ seq ≠ e.txn.nextPipeSequence := by
  obtain ⟨hplace, seq, data, hbytes, hlo, -⟩ := h
  obtain ⟨-, hbook, hopen⟩ := hled.book_of_receiving hplace.1
  refine ⟨(hopen (hbook.mode_eq.symm.trans hplace.2)).not_fatal, hplace, seq, data, hbytes, ?_⟩
  rintro rfl
  have hpos := hwindow hplace
  rw [distance, UInt8.sub_self] at hlo
  exact absurd hlo (Nat.not_le.mpr hpos)

/-! ### The rule -/

/-- The rule for a chunk outside of the window: an error or the last SACK answers it, the
panel sees nothing of it but the abort, and the transaction is over. -/
structure WindowEnforced (e : TransferEngine β) (p : Payload) (nowMs : UInt32) : Prop where
  answered : (e.onPipeData p nowMs).1.response = e.inorderSack ∨
    ∃ code highest mask, (e.onPipeData p nowMs).1.response = encodePipeNack code highest mask
  untouched : (e.onPipeData p nowMs).2.backend = e.backend ∨
    (e.onPipeData p nowMs).2.backend = abortTransfer e.backend
  aborted : (e.onPipeData p nowMs).2.txn.state = .idle

/-- **The window is never enforced.**  In every reachable state every chunk outside of the
window is answered by the last SACK and does not reach the panel, and the transfer goes on
as if it had not come. -/
theorem window_never_enforced (b : β) (transferMs refreshMs : UInt32) (ops : List (EngineOp ω))
    (e : TransferEngine β) (he : e = Machine.exec step (init b transferMs refreshMs) ops)
    (p : Payload) (nowMs : UInt32) (hviolation : e.WindowViolation p) :
    (e.onPipeData p nowMs).1.response = e.inorderSack ∧
      (e.onPipeData p nowMs).2.backend = e.backend ∧
      (e.onPipeData p nowMs).2.txn = e.txn ∧ ¬ WindowEnforced e p nowMs := by
  have hled := ledger_exec (s := (({} : Transfer), init b transferMs refreshMs))
    (ledger_init _ _ _ _) ops
  rw [Machine.exec_monitored_snd] at hled
  have hwindow : HasWindow (Machine.exec step (init b transferMs refreshMs) ops) :=
    Machine.exec_invariant (I := HasWindow) (fun _ op h => h.step op) (fun h => by cases h.1) ops
  rw [← he] at hled hwindow
  obtain ⟨hfatal, hplace, seq, data, hbytes, hseq⟩ := hviolation.outOfOrder hled hwindow
  have hpass : (e.onPipeData p nowMs) = (reply e.inorderSack,
      { e with stats.retransmitRequests := e.stats.retransmitRequests + 1 }) := by
    rw [onPipeData, if_neg (by rw [hfatal]; decide), if_neg (by simp [hplace.1, hplace.2]), hbytes]
    exact if_pos hseq
  refine ⟨by rw [hpass]; rfl, by rw [hpass], by rw [hpass], fun henforced => ?_⟩
  have hidle := henforced.aborted
  rw [hpass] at hidle
  exact absurd (hplace.1.symm.trans hidle) (by decide)

/-- A window of two chunks, and chunk five comes first. -/
theorem window_never_enforced_windowTwo :
    let e := step (init (ScriptedPanel.accepting 3 []) 30000 180000)
      (.pipeStart (pipeHeader 2 2) 0 : EngineOp Unit)
    (e.onPipeData (.ofBytes [5, 8]) 1).1.response = e.inorderSack ∧
      (e.onPipeData (.ofBytes [5, 8]) 1).2.backend = e.backend ∧
      (e.onPipeData (.ofBytes [5, 8]) 1).2.txn = e.txn ∧
      ¬ WindowEnforced e (.ofBytes [5, 8]) 1 :=
  window_never_enforced (ScriptedPanel.accepting 3 []) 30000 180000 [.pipeStart (pipeHeader 2 2) 0]
    _ rfl (.ofBytes [5, 8]) 1
    ⟨⟨by decide, by decide⟩, 5, [8], rfl, by decide, by decide⟩

/-- The same client: chunk five is answered by a SACK, and the transfer goes on. -/
theorem window_violated_transferGoesOn :
    let e := step (init (ScriptedPanel.accepting 3 []) 30000 180000)
      (.pipeStart (pipeHeader 2 2) 0 : EngineOp Unit)
    e.WindowViolation (.ofBytes [5, 8]) ∧
      (e.onPipeData (.ofBytes [5, 8]) 1).2.txn.state = .receiving ∧
      ¬ WindowEnforced e (.ofBytes [5, 8]) 1 := by
  have hstate : ((step (init (ScriptedPanel.accepting 3 []) 30000 180000)
      (.pipeStart (pipeHeader 2 2) 0 : EngineOp Unit)).onPipeData
        (.ofBytes [5, 8]) 1).2.txn.state = .receiving := by decide
  exact ⟨⟨⟨by decide, by decide⟩, 5, [8], rfl, by decide, by decide⟩, hstate,
    fun h => by cases hstate.symm.trans h.aborted⟩

end TransferEngine

end OpenDisplay
