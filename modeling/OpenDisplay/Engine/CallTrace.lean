import OpenDisplay.Engine.Ledger
import OpenDisplay.Lib.Blocks

/-!
# The calls of a transfer

The ledger over a backend that records its calls.  While a transfer is open, the
calls since its `begin_frame` are exactly the writes of its chunks, laid end to
end; once it is refreshing they are followed by one `finish_frame`, one
`begin_refresh` and polls that are still pending.
-/

namespace OpenDisplay

open OpenDisplayBackend

/-- The calls that write the chunks of a transfer, laid end to end. -/
def Transfer.writes (t : Transfer) : List BackendCall :=
  (Blocks.place 0 t.chunks).map fun p => .writeContiguous (UInt32.ofNat p.1) p.2 .ok

lemma Transfer.writes_accept (t : Transfer) (data : List UInt8) :
    (t.accept data).writes =
      t.writes ++ [.writeContiguous (UInt32.ofNat t.size) data .ok] := by
  simp [writes, accept, size, Blocks.place_concat]

/-- The writes of a transfer as offset and length, which is how they tile a frame. -/
lemma Transfer.tiles (t : Transfer) :
    Blocks.Tiles 0 t.size ((Blocks.place 0 t.chunks).map fun p => (p.1, p.2.length)) := by
  simpa [size] using Blocks.tiles_place 0 t.chunks

/-- The calls that write a full frame: they tile it in increasing order. -/
lemma Transfer.writes_tile (t : Transfer) {full : UInt32} (h : t.size = full.toNat) :
    ∃ writes : List (UInt32 × List UInt8),
      t.writes = writes.map (fun w => .writeContiguous w.1 w.2 .ok) ∧
      Blocks.Tiles 0 full.toNat (writes.map fun w => (w.1.toNat, w.2.length)) ∧
      writes.map Prod.snd = t.chunks := by
  -- the offsets are those of the blocks: none of them wraps
  have hfits : ∀ p ∈ Blocks.place 0 t.chunks, (UInt32.ofNat p.1).toNat = p.1 := by
    intro p hp
    have hle := Blocks.add_length_le_of_mem_place hp
    have hlt := full.toNat_lt
    rw [size] at h
    rw [UInt32.toNat_ofNat', Nat.mod_eq_of_lt (by omega)]
  refine ⟨(Blocks.place 0 t.chunks).map fun p => (UInt32.ofNat p.1, p.2), ?_, ?_, ?_⟩
  · simp [writes, Function.comp_def]
  · have htiles := t.tiles
    rw [h] at htiles
    rw [List.map_map]
    convert htiles using 1
    exact List.map_congr_left fun p hp => by simp [hfits p hp]
  · simpa [Function.comp_def] using Blocks.map_snd_place 0 t.chunks

namespace TransferEngine

variable {β ω : Type} [OpenDisplayBackend β] [PanelWorld β ω] {t : Transfer}
  {e e' : TransferEngine (Recorder β)}

lemma Bookkeeping.acceptedBytes_eq {txn : Transaction} (h : Bookkeeping t txn) :
    txn.acceptedBytes = UInt32.ofNat t.size := by
  rw [← h.accepted_eq, UInt32.ofNat_toNat]

/-- The calls made so far end with those of the transfer that is open. -/
inductive Traced {β : Type} (t : Transfer) (e : TransferEngine (Recorder β)) : Prop
  | idle (hstate : e.txn.state = .idle)
  | receiving (hstate : e.txn.state = .receiving) (past : List BackendCall)
      (hcalls : e.backend.calls = past ++ .beginFrame e.txn.frame .ok :: t.writes)
  | refreshing (hstate : e.txn.state = .refreshing) (past : List BackendCall) (polls : ℕ)
      (hcalls : e.backend.calls = past ++ .beginFrame e.txn.frame .ok :: (t.writes ++
        [.finishFrame .ok, .beginRefresh .ok] ++ List.replicate polls (.pollRefresh .pending)))

section Frame

variable {β : Type} {t : Transfer} {e e' : TransferEngine (Recorder β)}

lemma Traced.of_txn_eq (h : e.txn = {}) : Traced t e := .idle (by rw [h])

/-- The trace reads only the state, the frame and the calls. -/
lemma Traced.congr (h : Traced t e) (hstate : e'.txn.state = e.txn.state)
    (hframe : e'.txn.frame = e.txn.frame) (hcalls : e'.backend.calls = e.backend.calls) :
    Traced t e' := by
  cases h with
  | idle h => exact .idle (by rw [hstate, h])
  | receiving h past hc => exact .receiving (by rw [hstate, h]) past (by rw [hcalls, hframe, hc])
  | refreshing h past polls hc =>
      exact .refreshing (by rw [hstate, h]) past polls (by rw [hcalls, hframe, hc])

lemma Traced.calls_of_receiving (h : Traced t e) (hstate : e.txn.state = .receiving) :
    ∃ past, e.backend.calls = past ++ .beginFrame e.txn.frame .ok :: t.writes := by
  cases h with
  | idle h => rw [h] at hstate; cases hstate
  | receiving _ past hcalls => exact ⟨past, hcalls⟩
  | refreshing h => rw [h] at hstate; cases hstate

lemma Traced.calls_of_refreshing (h : Traced t e) (hstate : e.txn.state = .refreshing) :
    ∃ past polls, e.backend.calls = past ++ .beginFrame e.txn.frame .ok :: (t.writes ++
      [.finishFrame .ok, .beginRefresh .ok] ++
        List.replicate polls (.pollRefresh .pending)) := by
  cases h with
  | idle h => rw [h] at hstate; cases hstate
  | receiving h => rw [h] at hstate; cases hstate
  | refreshing _ past polls hcalls => exact ⟨past, polls, hcalls⟩

end Frame

/-! ### START -/

lemma Traced.cleared (h : Traced t e) : Traced t e.cleared := by
  unfold TransferEngine.cleared
  split_ifs
  · exact .of_txn_eq (by simp)
  · exact h

lemma Traced.refused (h : Traced t e) {mode : TransferMode} {total now : UInt32}
    {why : ErrorCode} (hbegin : BeginOutcome e mode total now (some why) e') : Traced t e' := by
  cases hbegin with
  | busy => exact h
  | sizeMismatch => exact h.cleared
  | beginFailed => exact .of_txn_eq rfl

/-- A START that is taken begins a new trace. -/
lemma BeginOutcome.opened_calls {mode : TransferMode} {total now : UInt32}
    (hbegin : BeginOutcome e mode total now none e') :
    e'.txn.state = .receiving ∧
      ∃ past, e'.backend.calls = past ++ [.beginFrame e'.txn.frame .ok] := by
  cases hbegin with
  | opened _ _ frame _ hanswer =>
      refine ⟨rfl, e.cleared.backend.calls, ?_⟩
      simp [openedTxn, hanswer]

lemma Traced.directStart (h : Traced t e) (p : Payload) (now : UInt32) :
    Traced (if (e.onDirectStart p now).1.transferStarted then e.openedTransfer .direct else t)
      (e.onDirectStart p now).2 := by
  have ho := onDirectStart_outcome e p now
  generalize (e.onDirectStart p now).1 = res, (e.onDirectStart p now).2 = e₁ at ho ⊢
  cases ho with
  | compressed => exact h.congr rfl rfl rfl
  | refused _ why e₁ hbegin => exact (h.refused hbegin).congr rfl rfl rfl
  | started _ _ hbegin =>
      obtain ⟨hstate, past, hcalls⟩ := hbegin.opened_calls
      exact .receiving hstate past hcalls

lemma Traced.pipeStart (h : Traced t e) (p : Payload) (now : UInt32) :
    Traced (if (e.onPipeStart p now).1.transferStarted then e.openedTransfer .pipe else t)
      (e.onPipeStart p now).2 := by
  have ho := onPipeStart_outcome e p now
  generalize (e.onPipeStart p now).1 = res, (e.onPipeStart p now).2 = e₁ at ho ⊢
  cases ho with
  | badHeader => exact h.congr rfl rfl rfl
  | compressed => exact h.congr rfl rfl rfl
  | refused _ _ _ why e₁ hbegin => exact (h.refused hbegin).congr rfl rfl rfl
  | started _ _ _ e₁ hbegin =>
      obtain ⟨hstate, past, hcalls⟩ := hbegin.opened_calls
      exact .receiving hstate past hcalls

/-! ### Data and END -/

/-- However an END ends, the trace is kept: the transfer is over, or the finish and
the refresh are the last calls. -/
lemma Traced.finish (h : Traced t e) (hstate : e.txn.state = .receiving) {endOpcode : UInt16}
    {now : UInt32} {res : EngineResult} (hfinish : FinishOutcome e endOpcode now res e') :
    Traced t e' := by
  obtain ⟨past, hcalls⟩ := h.calls_of_receiving hstate
  cases hfinish with
  | incomplete => exact .of_txn_eq (by simp)
  | finishFailed => exact .of_txn_eq (by simp)
  | refreshFailed => exact .of_txn_eq (by simp)
  | refreshing _ hfinish hanswer =>
      refine .refreshing rfl past 0 ?_
      simp [hfinish, hanswer, hcalls]

lemma Traced.directData (h : Traced t e) (hled : Ledger t e) (p : Payload) (now : UInt32) :
    Traced (if (e.onDirectData p now).2.stats.directPackets ≠ e.stats.directPackets
      then t.accept p.bytes else t) (e.onDirectData p now).2 := by
  have ho := onDirectData_outcome e p now
  generalize (e.onDirectData p now).1 = res, (e.onDirectData p now).2 = e₁ at ho ⊢
  cases ho with
  | misplaced =>
      rw [if_neg (fun hne => hne rfl)]
      exact h.congr rfl rfl rfl
  | malformed => exact .of_txn_eq (by simp)
  | oversize => exact .of_txn_eq (by simp)
  | writeFailed => exact .of_txn_eq (by simp)
  | accepted hstate hmode _ _ hanswer =>
      obtain ⟨past, hcalls⟩ := h.calls_of_receiving hstate
      obtain ⟨-, hbook, -⟩ := hled.book_of_receiving hstate
      rw [if_pos (by exact Words.add_one_ne _)]
      refine .receiving hstate past ?_
      have hoffset : e.txn.nextDirectOffset = UInt32.ofNat t.size := by
        rw [hbook.offset_eq (hbook.mode_eq.symm.trans hmode), hbook.acceptedBytes_eq]
      rw [hoffset] at hanswer
      simp [acceptDirect, hanswer, hcalls, Transfer.writes_accept, hoffset]

lemma Traced.directEnd (h : Traced t e) (p : Payload) (now : UInt32) :
    Traced t (e.onDirectEnd p now).2 := by
  have ho := onDirectEnd_outcome e p now
  generalize (e.onDirectEnd p now).1 = res, (e.onDirectEnd p now).2 = e₁ at ho ⊢
  cases ho with
  | misplaced => exact h.congr rfl rfl rfl
  | finished hstate _ _ _ hfinish => exact h.finish hstate hfinish

/-- The SACKs after a chunk make no calls. -/
lemma Traced.chunk (h : Traced t e) (hstate : e.txn.state = .receiving) {now : UInt32}
    {res : EngineResult} (hchunk : ChunkOutcome e now res e') : Traced t e' := by
  cases hchunk with
  | completed _ _ _ hfinish =>
      have hstaged : Traced t e.stageTailSack := h.congr rfl rfl rfl
      exact hstaged.finish hstate hfinish
  | sacked => exact h.congr rfl rfl rfl
  | silent => exact h

lemma Traced.pipeData (h : Traced t e) (hled : Ledger t e) (p : Payload) (now : UInt32) :
    Traced (if (e.onPipeData p now).2.stats.pipePackets ≠ e.stats.pipePackets
      then t.accept p.bytes.tail else t) (e.onPipeData p now).2 := by
  have ho := onPipeData_outcome e p now
  generalize (e.onPipeData p now).1 = res, (e.onPipeData p now).2 = e₁ at ho ⊢
  cases ho with
  | latched =>
      rw [if_neg (fun hne => hne rfl)]
      exact h
  | misplaced =>
      rw [if_neg (fun hne => hne rfl)]
      exact h.congr rfl rfl rfl
  | malformed => exact .of_txn_eq (by simp)
  | outOfOrder =>
      rw [if_neg (fun hne => hne rfl)]
      exact h.congr rfl rfl rfl
  | oversize => exact .of_txn_eq (by simp)
  | writeFailed => exact .of_txn_eq (by simp)
  | accepted _ hplace data hbytes _ hanswer _ _ hchunk =>
      obtain ⟨past, hcalls⟩ := h.calls_of_receiving hplace.1
      obtain ⟨-, hbook, -⟩ := hled.book_of_receiving hplace.1
      rw [if_pos (by rw [hchunk.pipePackets_eq]; exact Words.add_one_ne _), hbytes,
        List.tail_cons]
      have hwritten : Traced (t.accept data)
          (e.pipeAccepted e.txn.nextPipeSequence data now) := by
        refine .receiving hplace.1 past ?_
        rw [hbook.acceptedBytes_eq] at hanswer
        simp [pipeAccepted, acceptPipe, hanswer, hcalls, Transfer.writes_accept,
          hbook.acceptedBytes_eq]
      exact hwritten.chunk hplace.1 hchunk

lemma Traced.pipeEnd (h : Traced t e) (p : Payload) (now : UInt32) :
    Traced t (e.onPipeEnd p now).2 := by
  have ho := onPipeEnd_outcome e p now
  generalize (e.onPipeEnd p now).1 = res, (e.onPipeEnd p now).2 = e₁ at ho ⊢
  cases ho with
  | misplaced => exact h.congr rfl rfl rfl
  | flushed hplace _ _ _ hfinish =>
      have hstaged : Traced t e.stageTailSack := h.congr rfl rfl rfl
      exact hstaged.finish hplace.1 hfinish
  | finished hplace _ _ _ hfinish => exact h.finish hplace.1 hfinish

/-! ### The loop -/

/-- A poll that stays pending is one more call of a transfer that is refreshing. -/
lemma Traced.polled (h : Traced t e) (hled : Ledger t e) (hpolled : Polled e e') :
    Traced t e' := by
  cases hpolled with
  | free => exact h
  | pending hw hpoll =>
      cases h with
      | idle hstate => exact .idle hstate
      | receiving hstate =>
          rw [(hled.book_of_receiving hstate).1] at hw
          cases hw
      | refreshing hstate past polls hcalls =>
          refine .refreshing hstate past (polls + 1) ?_
          simp [hpoll, hcalls, List.replicate_succ']

lemma Traced.tick (h : Traced t e) (hled : Ledger t e) (now : UInt32) :
    Traced t (e.tick now).2 := by
  have ho := tick_outcome e now
  generalize (e.tick now).1 = res, (e.tick now).2 = e₁ at ho ⊢
  cases ho with
  | complete => exact .of_txn_eq rfl
  | failed => exact .of_txn_eq rfl
  | released hw _ hstate =>
      cases hled with
      | idle htxn => exact .idle (by simp only; rw [htxn])
      | receiving _ hfree => rw [hfree] at hw; cases hw
      | refreshing hrefreshing => exact absurd hrefreshing hstate
  | waiting _ hpolled => exact h.polled hled hpolled
  | transferTimeout => exact .of_txn_eq (by simp)
  | refreshTimeout => exact .of_txn_eq (by simp)

lemma Traced.disconnect (h : Traced t e) (gen : UInt32) : Traced t (e.onDisconnect gen) := by
  have ho := onDisconnect_outcome e gen
  generalize e.onDisconnect gen = e₁ at ho ⊢
  cases ho with
  | ignored => exact h
  | aborted => exact .of_txn_eq (by simp)

/-- **Every operation keeps the trace.** -/
theorem Traced.step (h : Traced t e) (hled : Ledger t e) (op : EngineOp ω) :
    Traced (watchTransfer t e op) (e.step op) := by
  cases op with
  | directStart p now => exact h.directStart p now
  | directData p now => exact h.directData hled p now
  | directEnd p now => exact h.directEnd p now
  | pipeStart p now => exact h.pipeStart p now
  | pipeData p now => exact h.pipeData hled p now
  | pipeEnd p now => exact h.pipeEnd p now
  | tick now => exact h.tick hled now
  | abort error => exact .of_txn_eq (abort_txn e error)
  | disconnect gen => exact h.disconnect gen
  | setConnectionGeneration => exact h.congr rfl rfl rfl
  | takeTailSack =>
      refine h.congr ?_ ?_ ?_ <;>
      · simp only [TransferEngine.step, perform, TransferEngine.takeTailSack]
        split_ifs <;> rfl
  | world => exact h.congr rfl rfl rfl

/-! ### Who writes -/

/-- Since `calls`, nothing but data with the property `D` has been written. -/
def WritesOnly (calls : List BackendCall) (D : List UInt8 → Prop) (r : Recorder β) : Prop :=
  ∃ new, r.calls = calls ++ new ∧
    ∀ offset data answer, .writeContiguous offset data answer ∈ new → D data

section WritesOnly

omit [OpenDisplayBackend β] [PanelWorld β ω]

variable {calls : List BackendCall} {D : List UInt8 → Prop} {r r' : Recorder β}

lemma WritesOnly.append (h : WritesOnly calls D r) {call : BackendCall}
    (hr : r'.calls = r.calls ++ [call])
    (hcall : ∀ offset data answer, call = .writeContiguous offset data answer → D data) :
    WritesOnly calls D r' := by
  obtain ⟨new, hnew, hD⟩ := h
  refine ⟨new ++ [call], by rw [hr, hnew, List.append_assoc], fun o d a hmem => ?_⟩
  rcases List.mem_append.mp hmem with hmem | hmem
  · exact hD o d a hmem
  · exact hcall o d a (List.mem_singleton.mp hmem).symm

end WritesOnly

lemma quietInvariant_writesOnly (calls : List BackendCall) (D : List UInt8 → Prop) :
    QuietInvariant (WritesOnly (β := β) calls D) where
  beginFrame _ h := h.append rfl (fun _ _ _ hcall => nomatch hcall)
  finishFrame h := h.append rfl (fun _ _ _ hcall => nomatch hcall)
  beginRefresh _ h := h.append rfl (fun _ _ _ hcall => nomatch hcall)
  pollRefresh h := h.append rfl (fun _ _ _ hcall => nomatch hcall)
  abortTransfer h := h.append rfl (fun _ _ _ hcall => nomatch hcall)
  happen _ h := h

/-- **Only packets for the open transfer are written**, and each step writes only the
data of its packet. -/
theorem step_writesOnly (e : TransferEngine (Recorder β)) (op : EngineOp ω) :
    WritesOnly e.backend.calls (e.Writes op) (e.step op).backend := by
  have hstart : WritesOnly e.backend.calls (e.Writes op) e.backend :=
    ⟨[], (List.append_nil _).symm, fun _ _ _ hmem => nomatch hmem⟩
  refine step_backend_of_writes (quietInvariant_writesOnly _ _) hstart op fun o d hwrite => ?_
  refine hstart.append rfl fun o' d' a' hcall => ?_
  cases hcall
  exact hwrite

end TransferEngine

end OpenDisplay
