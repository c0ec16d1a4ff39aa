import OpenDisplay.Protocol.Records
import OpenDisplay.Lib.Blocks

/-!
# The chunks of a config

A config is read in chunks.  `encode_config_chunk` computes the offset of a chunk from its
index alone, chunk 0 has the longer header, and an empty response says that the blob is
exhausted.  A client drops the headers and puts the rest together.  For a blob whose length
fits the header, the chunks up to the first empty one are the whole config, and with any of
them missing at the end it is not.
-/

namespace OpenDisplay

/-! ### What a client reads -/

/-- The header of chunk `k` of a config of `total` bytes. -/
def chunkHeader (total k : ℕ) : List UInt8 :=
  [0x00, 0x40] ++ putU16Le (UInt16.ofNat k) ++
    if k = 0 then putU16Le (UInt16.ofNat total) else []

/-- The data of a row of chunks, put together. -/
def chunkData (total : ℕ) (frames : List Response) : List UInt8 :=
  (frames.mapIdx fun k r => r.bytes.drop (chunkHeader total k).length).flatten

/-- The frames are a whole config: the chunks 0, 1, 2, …, each by its header and with a byte
of the blob at least, and the blob is what they carry. -/
structure WholeConfig (blob : List UInt8) (frames : List Response) : Prop where
  header : ∀ k r, frames[k]? = some r → ∃ data, data ≠ [] ∧
    r.bytes = chunkHeader blob.length k ++ data
  data_eq : chunkData blob.length frames = blob

/-! ### What the device sends -/

/-- The number of chunks of a blob. -/
def configChunkCount (blobLen : ℕ) : ℕ := if blobLen = 0 then 0 else (blobLen + 97) / 96

/-- The chunks of a blob. -/
def configChunks (blob : List UInt8) : List Response :=
  (List.range (configChunkCount blob.length)).map fun k => encodeConfigChunk blob (UInt16.ofNat k)

@[simp] lemma length_configChunks (blob : List UInt8) :
    (configChunks blob).length = configChunkCount blob.length := by simp [configChunks]

lemma configChunkCount_lt {blobLen : ℕ} (h : blobLen < 65536) :
    configChunkCount blobLen < 65536 := by
  rw [configChunkCount]
  split_ifs <;> omega

/-- Where chunk `k` starts, for an index that does not wrap. -/
lemma configChunkOffset_ofNat {k : ℕ} (h : k < 65536) :
    configChunkOffset (UInt16.ofNat k) = if k = 0 then 0 else 94 + (k - 1) * 96 := by
  have hk : (UInt16.ofNat k).toNat = k := by
    rw [UInt16.toNat_ofNat']
    exact Nat.mod_eq_of_lt h
  have hzero : UInt16.ofNat k = 0 ↔ k = 0 := by
    rw [← UInt16.toNat_inj, hk]
    rfl
  rw [configChunkOffset]
  simp only [hzero, hk, maxResponseDataSize]

lemma configChunkHeader_ofNat {k : ℕ} (h : k < 65536) (total : ℕ) :
    configChunkHeader total (UInt16.ofNat k) = chunkHeader total k := by
  have hk : (UInt16.ofNat k).toNat = k := by
    rw [UInt16.toNat_ofNat']
    exact Nat.mod_eq_of_lt h
  have hzero : UInt16.ofNat k = 0 ↔ k = 0 := by
    rw [← UInt16.toNat_inj, hk]
    rfl
  rw [configChunkHeader, chunkHeader]
  simp only [hzero]
  rfl

lemma length_chunkHeader (total k : ℕ) :
    (chunkHeader total k).length = if k = 0 then 6 else 4 := by
  rw [chunkHeader]
  split_ifs <;> simp

/-- A chunk is empty exactly from the count on. -/
lemma configChunkOffset_lt_iff (blobLen : ℕ) {k : ℕ} (h : k < 65536) :
    configChunkOffset (UInt16.ofNat k) < blobLen ↔ k < configChunkCount blobLen := by
  rw [configChunkOffset_ofNat h, configChunkCount]
  split_ifs <;> omega

/-- The part of the blob that chunk `k` carries. -/
def configPart (blob : List UInt8) (k : ℕ) : List UInt8 :=
  (blob.drop (configChunkOffset (UInt16.ofNat k))).take
    (maxResponseDataSize - (chunkHeader blob.length k).length)

lemma bytes_encodeConfigChunk {blob : List UInt8} {k : ℕ} (h : k < 65536)
    (hk : k < configChunkCount blob.length) :
    (encodeConfigChunk blob (UInt16.ofNat k)).bytes =
      chunkHeader blob.length k ++ configPart blob k := by
  rw [encodeConfigChunk]
  dsimp only
  rw [if_neg (Nat.not_le.mpr ((configChunkOffset_lt_iff _ h).mpr hk))]
  rw [configPart]
  simp only [configChunkHeader_ofNat h]

lemma isEmpty_encodeConfigChunk {blob : List UInt8} {k : ℕ} (h : k < 65536) :
    (encodeConfigChunk blob (UInt16.ofNat k)).isEmpty = true ↔
      configChunkCount blob.length ≤ k := by
  rcases Nat.lt_or_ge k (configChunkCount blob.length) with hk | hk
  · refine iff_of_false (fun hempty => ?_) (Nat.not_le.mpr hk)
    rw [Response.isEmpty, bytes_encodeConfigChunk h hk, chunkHeader] at hempty
    simp at hempty
  · refine iff_of_true ?_ hk
    rw [encodeConfigChunk, if_pos]
    · rfl
    · exact Nat.not_lt.mp (mt (configChunkOffset_lt_iff _ h).mp (Nat.not_lt.mpr hk))

lemma configPart_ne {blob : List UInt8} {k : ℕ} (h : k < 65536)
    (hk : k < configChunkCount blob.length) : configPart blob k ≠ [] := by
  have hlt := (configChunkOffset_lt_iff _ h).mpr hk
  rw [configPart, ← List.length_pos_iff_ne_nil, List.length_take, List.length_drop,
    length_chunkHeader, maxResponseDataSize]
  split_ifs <;> omega

/-- Each chunk starts where the one before it ends. -/
lemma configChunkOffset_succ (total : ℕ) {k : ℕ} (h : k + 1 < 65536) :
    configChunkOffset (UInt16.ofNat (k + 1)) = configChunkOffset (UInt16.ofNat k) +
      (maxResponseDataSize - (chunkHeader total k).length) := by
  rw [configChunkOffset_ofNat h, configChunkOffset_ofNat (by omega), length_chunkHeader,
    maxResponseDataSize]
  split_ifs <;> omega

/-- The data of the first `n` chunks is the blob up to where chunk `n` starts. -/
lemma chunkData_take {blob : List UInt8} (hlen : blob.length < 65536) {n : ℕ}
    (hn : n ≤ configChunkCount blob.length) :
    chunkData blob.length ((configChunks blob).take n) =
      blob.take (configChunkOffset (UInt16.ofNat n)) := by
  have hcount := configChunkCount_lt hlen
  have hparts : ((configChunks blob).take n).mapIdx
      (fun k r => r.bytes.drop (chunkHeader blob.length k).length) =
        (List.range n).map (configPart blob) := by
    refine List.ext_getElem (by simpa using hn) fun k hk hk' => ?_
    have hlt : k < n := by simpa using hk'
    simp only [configChunks, List.getElem_mapIdx, List.getElem_take, List.getElem_map,
      List.getElem_range]
    rw [bytes_encodeConfigChunk (by omega) (by omega), List.drop_left]
  have hslices := (Blocks.flatten_slices blob (n := n)
    (f := fun k => configChunkOffset (UInt16.ofNat k))
    (g := fun k => maxResponseDataSize - (chunkHeader blob.length k).length)
    fun k hk => configChunkOffset_succ blob.length (by omega)).2
  rw [chunkData, hparts]
  exact hslices

/-! ### Words -/

/-- A number as two bytes, the low one first. -/
def le16 (n : ℕ) : List UInt8 := [UInt8.ofNat n, UInt8.ofNat (n / 256)]

lemma putU16Le_ofNat (n : ℕ) : putU16Le (UInt16.ofNat n) = le16 n := by
  have hlow : ((UInt16.ofNat n) &&& 0xFF).toUInt8 = UInt8.ofNat n := by
    rw [← UInt8.toNat_inj, UInt16.toNat_toUInt8, UInt16.toNat_and, UInt8.toNat_ofNat',
      UInt16.toNat_ofNat']
    change (n % 2 ^ 16 &&& (2 ^ 8 - 1)) % 2 ^ 8 = n % 2 ^ 8
    rw [Nat.and_two_pow_sub_one_eq_mod]
    omega
  have hhigh : (UInt16.ofNat n >>> 8).toUInt8 = UInt8.ofNat (n / 256) := by
    rw [← UInt8.toNat_inj, UInt16.toNat_toUInt8, UInt16.toNat_shiftRight, UInt8.toNat_ofNat',
      UInt16.toNat_ofNat']
    change (n % 2 ^ 16) >>> 8 % 2 ^ 8 = n / 256 % 2 ^ 8
    rw [Nat.shiftRight_eq_div_pow]
    omega
  rw [putU16Le, hlow, hhigh, le16]

/-- `header` of `encode_config_chunk`. -/
def configChunkHeaderSize (index : UInt16) : UInt8 := if index = 0 then 6 else 4

/-- `capacity` of `encode_config_chunk`. -/
def configChunkCapacity (index : UInt16) : UInt8 :=
  UInt8.ofNat (maxResponseDataSize - (configChunkHeaderSize index).toNat)

/-- `r.len` of `encode_config_chunk`, in eight bits like all that it is computed from but the
number of bytes that remain. -/
def configChunkLen (blobLen : ℕ) (index : UInt16) : UInt8 :=
  if blobLen ≤ configChunkOffset index then 0
  else
    let remaining := blobLen - configChunkOffset index
    let n :=
      if remaining < (configChunkCapacity index).toNat then UInt8.ofNat remaining
      else configChunkCapacity index
    configChunkHeaderSize index + n

/-- **Eight bits hold the length of a chunk**, for every blob and every index. -/
theorem length_encodeConfigChunk (blob : List UInt8) (index : UInt16) :
    (encodeConfigChunk blob index).bytes.length = (configChunkLen blob.length index).toNat := by
  have hheader : (configChunkHeader blob.length index).length =
      (configChunkHeaderSize index).toNat := by
    rw [configChunkHeader, configChunkHeaderSize]
    split_ifs <;> rfl
  have hcapacity : (configChunkCapacity index).toNat =
      maxResponseDataSize - (configChunkHeaderSize index).toNat := by
    rw [configChunkCapacity, configChunkHeaderSize]
    split_ifs <;> rfl
  have hsize : (configChunkHeaderSize index).toNat ≤ 6 := by
    rw [configChunkHeaderSize]
    split_ifs <;> decide
  have hmax : maxResponseDataSize = 100 := rfl
  rw [encodeConfigChunk, configChunkLen]
  dsimp only
  split_ifs with hempty hfew
  · rfl
  · rw [List.length_append, List.length_take, List.length_drop, hheader, UInt8.toNat_add,
      UInt8.toNat_ofNat']
    omega
  · rw [List.length_append, List.length_take, List.length_drop, hheader, UInt8.toNat_add]
    omega

/-! ### The whole config -/

/-- **The chunks of a blob are the whole config.** -/
theorem wholeConfig_configChunks {blob : List UInt8} (hlen : blob.length < 65536) :
    WholeConfig blob (configChunks blob) where
  header k r hr := by
    have hcount := configChunkCount_lt hlen
    obtain ⟨hk, rfl⟩ := List.getElem?_eq_some_iff.mp hr
    rw [length_configChunks] at hk
    simp only [configChunks, List.getElem_map, List.getElem_range]
    exact ⟨_, configPart_ne (by omega) hk, bytes_encodeConfigChunk (by omega) hk⟩
  data_eq := by
    have hall := chunkData_take hlen (Nat.le_refl _)
    rw [← length_configChunks, List.take_length, length_configChunks] at hall
    have hend := mt (configChunkOffset_lt_iff blob.length (configChunkCount_lt hlen)).mp
      (Nat.lt_irrefl _)
    rw [hall, List.take_of_length_le (Nat.not_lt.mp hend)]

/-- A row that ends too early is not the whole config. -/
theorem not_wholeConfig_take {blob : List UInt8} (hlen : blob.length < 65536) {n : ℕ}
    (hn : n < configChunkCount blob.length) : ¬ WholeConfig blob ((configChunks blob).take n) := by
  intro h
  have hcount := configChunkCount_lt hlen
  have hdata := h.data_eq
  rw [chunkData_take hlen (by omega)] at hdata
  have hshort := (configChunkOffset_lt_iff _ (by omega)).mpr hn
  have hlength := congrArg List.length hdata
  rw [List.length_take] at hlength
  omega

end OpenDisplay
