import OpenDisplay.Component.Basic
import OpenDisplay.Backend.Scripted
import OpenDisplay.Lib.Machine
import OpenDisplay.Protocol.ConfigChunks
import OpenDisplay.Transport.Reserve

/-!
# Reading the config

`send_config_` pushes the chunks of the config one by one, as frames that are not terminal,
and gives up at the first one that the TX ring refuses.  The chunks before it stay in the
ring: a client is then told the length of a config of which the end never comes.  A read is
all or nothing exactly when there is room for all chunks or for none.

The chunks themselves are right for every blob whose length the header can state: without
their headers they are the blob again, and there are so few of them that the loop, which counts
in sixteen bits, ends before it wraps.
-/

namespace OpenDisplay

namespace OpenDisplayComponent

open Machine

/-! ### The loop of `send_config_` -/

/-- The loop puts as many chunks into the ring as there is room for. -/
lemma toList_sendChunks {blob : List UInt8} (hlen : blob.length < 65536) (tx : TxQueue)
    {fuel k : ℕ} (hk : k ≤ configChunkCount blob.length)
    (hfuel : configChunkCount blob.length < k + fuel) :
    (sendChunks blob tx fuel (UInt16.ofNat k)).2.toList =
      tx.toList ++ ((configChunks blob).drop k).take (tx.room false) := by
  have hcount := configChunkCount_lt hlen
  induction fuel generalizing tx k with
  | zero => omega
  | succ fuel ih =>
      rw [sendChunks]
      dsimp only
      rcases hempty : (encodeConfigChunk blob (UInt16.ofNat k)).isEmpty with _ | _
      · have hlt : k < configChunkCount blob.length := by
          refine Nat.lt_of_le_of_ne hk fun heq => ?_
          rw [(isEmpty_encodeConfigChunk (by omega)).mpr (Nat.le_of_eq heq.symm)] at hempty
          cases hempty
        have hdrop : (configChunks blob).drop k =
            encodeConfigChunk blob (UInt16.ofNat k) :: (configChunks blob).drop (k + 1) := by
          rw [List.drop_eq_getElem_cons (by simpa using hlt)]
          simp [configChunks]
        have hnext : UInt16.ofNat k + 1 = UInt16.ofNat (k + 1) := by simp
        rw [if_neg Bool.false_ne_true, hdrop]
        by_cases hroom : tx.Accepts false
        · -- the chunk gets in, and the rest follows
          obtain ⟨hpush, hlist⟩ := TxQueue.push_of_accepts hempty hroom
          obtain ⟨n, hn⟩ := Nat.exists_eq_succ_of_ne_zero
            ((tx.accepts_iff_room false).mp hroom).ne'
          rw [if_pos hpush, hnext, ih _ hlt (by omega), TxQueue.room_push hempty hroom, hlist, hn]
          simp
        · -- the chunk is refused, and the loop ends
          have hzero : tx.room false = 0 := by
            simpa using mt (tx.accepts_iff_room false).mpr hroom
          rw [TxQueue.push_of_not_accepts hempty hroom, if_neg Bool.false_ne_true, hzero]
          simp
      · have hend := (isEmpty_encodeConfigChunk (by omega)).mp hempty
        rw [if_pos rfl, List.drop_eq_nil_of_le (by simpa using hend)]
        simp

lemma configChunkCount_le (blobLen : ℕ) : configChunkCount blobLen ≤ blobLen := by
  rw [configChunkCount]
  split_ifs <;> omega

/-- The loop has ended when the chunks are used up: more rounds change nothing. -/
lemma sendChunks_add {blob : List UInt8} (hlen : blob.length < 65536) (tx : TxQueue)
    {fuel k : ℕ} (more : ℕ) (hk : k ≤ configChunkCount blob.length)
    (hfuel : configChunkCount blob.length < k + fuel) :
    sendChunks blob tx (fuel + more) (UInt16.ofNat k) =
      sendChunks blob tx fuel (UInt16.ofNat k) := by
  have hcount := configChunkCount_lt hlen
  induction fuel generalizing tx k with
  | zero => omega
  | succ fuel ih =>
      have hnext : UInt16.ofNat k + 1 = UInt16.ofNat (k + 1) := by simp
      rw [Nat.succ_add, sendChunks, sendChunks]
      dsimp only
      rcases hempty : (encodeConfigChunk blob (UInt16.ofNat k)).isEmpty with _ | _
      · have hlt : k < configChunkCount blob.length := by
          by_contra hend
          rw [(isEmpty_encodeConfigChunk (by omega)).mpr (Nat.not_lt.mp hend)] at hempty
          cases hempty
        rw [hnext, ih _ hlt (by omega)]
      · rfl

/-! ### The chunks of any blob -/

/-- What a client drops from chunk `k`. -/
def chunkHeaderSize (k : ℕ) : ℕ := if k = 0 then 6 else 4

/-- The chunks `0, …, n - 1` are the blob, each with its header, chunk `n` is empty, and the
loop of `send_config_` comes to its end there. -/
structure ChunksReassemble (blob : List UInt8) (n : ℕ) : Prop where
  count_pos : 0 < n
  count_lt : n < 2 ^ 16
  chunk : ∀ k < n, ∃ data, data ≠ [] ∧ (encodeConfigChunk blob (UInt16.ofNat k)).bytes =
    [0x00, 0x40] ++ le16 k ++ (if k = 0 then le16 blob.length else []) ++ data
  length_le : ∀ index, (encodeConfigChunk blob index).bytes.length ≤ 100
  len_eq : ∀ index, (encodeConfigChunk blob index).bytes.length =
    (configChunkLen blob.length index).toNat
  exhausted : ∀ k < 2 ^ 16, (encodeConfigChunk blob (UInt16.ofNat k)).isEmpty = true ↔ n ≤ k
  data_eq : ((List.range n).map fun k =>
    (encodeConfigChunk blob (UInt16.ofNat k)).bytes.drop (chunkHeaderSize k)).flatten = blob
  loop_ends : ∀ (tx : TxQueue) (fuel : ℕ), n < fuel →
    sendChunks blob tx fuel 0 = sendChunks blob tx (n + 1) 0

/-- **Config chunks reassemble to the blob.** -/
theorem config_chunks_reassemble {blob : List UInt8} (hpos : 0 < blob.length)
    (hlen : blob.length ≤ 65535) : ∃ n, ChunksReassemble blob n := by
  have hlt : blob.length < 65536 := Nat.lt_succ_of_le hlen
  have hcount := configChunkCount_lt hlt
  have hwhole := wholeConfig_configChunks hlt
  refine ⟨configChunkCount blob.length, ?_⟩
  constructor
  · rw [configChunkCount, if_neg hpos.ne']
    omega
  · exact hcount
  · intro k hk
    have hget : (configChunks blob)[k]? = some (encodeConfigChunk blob (UInt16.ofNat k)) := by
      simp [configChunks, hk]
    obtain ⟨data, hdata, hbytes⟩ := hwhole.header k _ hget
    refine ⟨data, hdata, ?_⟩
    rw [hbytes, chunkHeader, putU16Le_ofNat, putU16Le_ofNat]
  · intro index
    exact (encodeConfigChunk blob index).fits
  · exact length_encodeConfigChunk blob
  · intro k hk
    exact isEmpty_encodeConfigChunk hk
  · have hrow : (configChunks blob).mapIdx
        (fun k r => r.bytes.drop (chunkHeader blob.length k).length) =
          (List.range (configChunkCount blob.length)).map fun k =>
            (encodeConfigChunk blob (UInt16.ofNat k)).bytes.drop (chunkHeaderSize k) := by
      refine List.ext_getElem (by simp) fun k hk hk' => ?_
      simp [configChunks, length_chunkHeader, chunkHeaderSize]
    rw [← hrow]
    exact hwhole.data_eq
  · intro tx fuel hfuel
    obtain ⟨more, rfl⟩ := Nat.exists_eq_add_of_lt hfuel
    rw [show configChunkCount blob.length + more + 1 = configChunkCount blob.length + 1 + more by
      omega]
    exact sendChunks_add (k := 0) hlt tx more (Nat.zero_le _) (by omega)

/-- A blob that fills two chunks to the last byte. -/
theorem config_chunks_reassemble_twoFull :
    ∃ n, ChunksReassemble (List.replicate 190 0xA5) n := by
  have hlen : (List.replicate 190 (0xA5 : UInt8)).length = 190 := List.length_replicate
  exact config_chunks_reassemble (by omega) (by omega)

variable {β ω : Type} [OpenDisplayBackend β] [PanelWorld β ω]

/-- A read of the config puts its first chunks into the ring, as many as there is room for. -/
lemma toList_configRead {c : OpenDisplayComponent β} (hvalid : c.settings.configValid = true)
    {pkt : RxPacket} {f : Frame} (hframe : pkt.frame = some f) (hop : f.opcode = cmdConfigRead)
    (nowMs : UInt32) :
    (c.handlePacket pkt nowMs).2.tx.toList =
      c.tx.toList ++ (configChunks c.settings.configBlob).take (c.tx.room false) := by
  have hle := c.settings.configBlob_le
  have hcount := configChunkCount_le c.settings.configBlob.length
  rw [handlePacket, hframe]
  dsimp only
  rw [if_pos hop, sendConfig, if_neg (by simp [hvalid])]
  have hmax : configBlobMax = 160 := rfl
  exact toList_sendChunks (k := 0) (by omega) c.tx (Nat.zero_le _) (by omega)

/-! ### All or nothing -/

/-- The packet puts the whole config into the ring, or nothing. -/
def ReadsWhole (c : OpenDisplayComponent β) (pkt : RxPacket) (nowMs : UInt32) : Prop :=
  ∃ frames, (c.handlePacket pkt nowMs).2.tx.toList = c.tx.toList ++ frames ∧
    (frames = [] ∨ WholeConfig c.settings.configBlob frames)

/-- A row that is cut is neither nothing nor the whole config. -/
lemma not_readsWhole {c : OpenDisplayComponent β} (hvalid : c.settings.configValid = true)
    {pkt : RxPacket} {f : Frame} (hframe : pkt.frame = some f) (hop : f.opcode = cmdConfigRead)
    {nowMs : UInt32} (hroom : c.tx.room false ≠ 0)
    (hcut : c.tx.room false < configChunkCount c.settings.configBlob.length) :
    ¬ c.ReadsWhole pkt nowMs := by
  rintro ⟨frames, hlist, hframes⟩
  have hle := c.settings.configBlob_le
  rw [toList_configRead hvalid hframe hop] at hlist
  obtain rfl := List.append_cancel_left hlist
  rcases hframes with hnone | hwhole
  · have hlength := congrArg List.length hnone
    rw [List.length_take, length_configChunks, List.length_nil] at hlength
    omega
  · exact not_wholeConfig_take (Nat.lt_of_le_of_lt hle (by decide)) hcut hwhole

/-- **A read of the config is all or nothing exactly when the ring has room for all chunks, or
for none.** -/
theorem readsWhole_iff {c : OpenDisplayComponent β} (hvalid : c.settings.configValid = true)
    {pkt : RxPacket} {f : Frame} (hframe : pkt.frame = some f) (hop : f.opcode = cmdConfigRead)
    (nowMs : UInt32) :
    c.ReadsWhole pkt nowMs ↔ c.tx.room false = 0 ∨
      configChunkCount c.settings.configBlob.length ≤ c.tx.room false := by
  have hle := c.settings.configBlob_le
  constructor
  · intro h
    by_contra hcut
    rw [not_or, Nat.not_le] at hcut
    exact not_readsWhole hvalid hframe hop hcut.1 hcut.2 h
  · intro h
    refine ⟨_, toList_configRead hvalid hframe hop nowMs, ?_⟩
    rcases h with hnone | hall
    · exact Or.inl (by rw [hnone, List.take_zero])
    · rw [List.take_of_length_le (by simpa using hall)]
      exact Or.inr (wholeConfig_configChunks (Nat.lt_of_le_of_lt hle (by decide)))

/-- A panel of 122 by 250 pixels. -/
def readablePanel : ScriptedPanel :=
  ⟨{ width := 122, height := 250, fullFrameBytes := 4000, supportsDirectWrite := true }, [], []⟩

/-- A component with a config, after `setup`. -/
def readable : OpenDisplayComponent ScriptedPanel :=
  (setup readablePanel (defaultSettings.withConfig readablePanel.caps 2) 80).2

/-- A client asks for the config first of all. -/
theorem readsWhole_first :
    let pkt := (readable.onBleWrite [0x00, 0x40] 0).rx.pop.1.getD {}
    readable.ReadsWhole pkt 0 := by
  intro pkt
  have hopcode : pkt.frame.map Frame.opcode = some cmdConfigRead := by decide +kernel
  obtain ⟨f, hframe, hop⟩ := Option.map_eq_some_iff.mp hopcode
  exact (readsWhole_iff (by decide +kernel) hframe hop 0).mpr (Or.inr (by decide +kernel))

/-- Fifteen reads of the version, and then one of the config.  Of the first eight answers
four have been notified when the config is read. -/
def busyClient : List (ComponentOp Unit) :=
  .bleConnect :: List.replicate 8 (.bleWrite [0x00, 0x43] 0) ++ loopParts 19 1 ++
    List.replicate 7 (.bleWrite [0x00, 0x43] 0) ++ [.bleWrite [0x00, 0x40] 0] ++ loopParts 8 1

/-- Eleven answers are waiting: chunk 0 of the config gets in and chunk 1 does not. -/
theorem configCut_elevenWaiting :
    let c := exec step readable busyClient
    let pkt := c.rx.pop.1.getD {}
    c.phase = .receive 1 7 ∧ c.settings.configValid = true ∧
      c.settings.configBlob.length = 133 ∧ pkt.bytes = [0x00, 0x40] ∧ c.tx.room false = 1 ∧
      ¬ c.ReadsWhole pkt 1 := by
  intro c pkt
  have hrun : c.phase = .receive 1 7 ∧ c.settings.configValid = true ∧
      c.settings.configBlob.length = 133 ∧ pkt.bytes = [0x00, 0x40] ∧ c.tx.room false = 1 := by
    decide +kernel
  obtain ⟨hphase, hvalid, hlength, hbytes, hroom⟩ := hrun
  have hopcode : pkt.frame.map Frame.opcode = some cmdConfigRead := by decide +kernel
  obtain ⟨f, hframe, hop⟩ := Option.map_eq_some_iff.mp hopcode
  refine ⟨hphase, hvalid, hlength, hbytes, hroom, ?_⟩
  refine not_readsWhole hvalid hframe hop (by omega) ?_
  rw [hroom, hlength]
  decide

end OpenDisplayComponent

end OpenDisplay
