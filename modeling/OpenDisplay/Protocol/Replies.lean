import OpenDisplay.Lib.Codec
import OpenDisplay.Protocol.Records

/-!
# Reading replies

A client sees the bytes of a notification and has to know what they say.  The formats are
those that `protocol.h` gives beside its encoders: a status, the low byte of a command, and
a body whose form depends on both and on its length.  `readReply` reads a notification that
way.  No two replies have the same bytes, and every string of bytes that reads as a reply is
what that reply is written as (`readReply_iff`).
-/

namespace OpenDisplay

/-! ### Words on the wire -/

/-- What `getU16Le` reads, `putU16Le` writes back. -/
lemma putU16Le_getU16Le (b₀ b₁ : UInt8) : putU16Le (getU16Le b₀ b₁) = [b₀, b₁] := by
  have hvalue := toNat_getU16Le b₀ b₁
  have h₀ := b₀.toNat_lt
  have hmask : ∀ n : ℕ, n &&& 255 = n % 256 := fun n => Nat.and_two_pow_sub_one_eq_mod n 8
  have hlow : (getU16Le b₀ b₁ &&& 0xFF).toUInt8 = b₀ := by
    rw [← UInt8.toNat_inj]
    simp [hmask, hvalue]
  have hhigh : (getU16Le b₀ b₁ >>> 8).toUInt8 = b₁ := by
    have h₁ := b₁.toNat_lt
    rw [← UInt8.toNat_inj]
    simp [Nat.shiftRight_eq_div_pow, hvalue]
    omega
  rw [putU16Le, hlow, hhigh]

/-- A word of two bytes, the low one first. -/
def u16Le : Codec UInt8 UInt16 where
  Valid _ := True
  write := putU16Le
  read
    | b₀ :: b₁ :: rest => some (getU16Le b₀ b₁, rest)
    | _ => none
  read_iff {s v rest} := by
    constructor
    · rcases s with _ | ⟨b₀, _ | ⟨b₁, s⟩⟩ <;> intro h <;> cases h
      exact ⟨trivial, by rw [putU16Le_getU16Le]; rfl⟩
    · rintro ⟨-, rfl⟩
      show some (getU16Le _ _, rest) = _
      rw [getU16Le_bytes]

/-- A word of four bytes, the low one first. -/
def u32Le : Codec UInt8 UInt32 where
  Valid _ := True
  write := putU32Le
  read
    | b₀ :: b₁ :: b₂ :: b₃ :: rest => some (getU32Le b₀ b₁ b₂ b₃, rest)
    | _ => none
  read_iff {s v rest} := by
    constructor
    · rcases s with _ | ⟨b₀, _ | ⟨b₁, _ | ⟨b₂, _ | ⟨b₃, s⟩⟩⟩⟩ <;> intro h <;> cases h
      exact ⟨trivial, by rw [putU32Le_getU32Le]; rfl⟩
    · rintro ⟨-, rfl⟩
      show some (getU32Le _ _ _ _, rest) = _
      rw [getU32Le_bytes]

/-! ### Replies -/

/-- What a notification can say. -/
inductive Reply
  | ack (command : UInt8)
  | nack (command : UInt8)
  /-- a NACK with an error byte that is scoped to its command -/
  | nackError (command error : UInt8)
  | pipeStarted (ver window ackEvery : UInt8) (maxFrame : UInt16) (flags : UInt8)
  | sack (highestSeen : UInt8) (ackMask : UInt32)
  /-- the fatal NACK of a chunk -/
  | pipeNack (error highestSeen : UInt8) (ackMask : UInt32)
  | version (major minor : UInt8) (sha : List UInt8) (patch : UInt8)
  | msd (record : List UInt8)
  | configFirst (total : UInt16) (data : List UInt8)
  | configNext (index : UInt16) (data : List UInt8)
deriving DecidableEq

open Codec (symbol block)

/-- `[err][0x00]`. -/
def errorBody : Codec UInt8 (UInt8 × Unit) := symbol.seq (.constant [0x00])

/-- `[ver][max_window][max_ack_every][max_frame:2 LE][resp_flags]`. -/
def startedBody : Codec UInt8 (UInt8 × UInt8 × UInt8 × UInt16 × UInt8) :=
  symbol.seq (symbol.seq (symbol.seq (u16Le.seq symbol)))

/-- `[highest_seen][ack_mask:4 LE]`. -/
def sackBody : Codec UInt8 (UInt8 × UInt32) := symbol.seq u32Le

/-- `[err][highest_seen][ack_mask:4 LE]`. -/
def pipeNackBody : Codec UInt8 (UInt8 × UInt8 × UInt32) := symbol.seq sackBody

/-- `[major][minor][shaLen][sha...][patch]`. -/
def versionBody : Codec UInt8 (UInt8 × UInt8 × UInt8 × List UInt8 × UInt8) :=
  symbol.seq (symbol.seq (symbol.bind fun shaLen => (block shaLen.toNat).seq symbol))

/-- `[total:2 LE][data...]`, behind the number of the first chunk. -/
def configFirstBody : Message UInt8 (UInt16 × List UInt8) := u16Le.before .remaining

/-- `[index:2 LE][data...]`. -/
def configBody : Message UInt8 (UInt16 × List UInt8) := u16Le.before .remaining

namespace Reply

/-- The bytes of a reply. -/
def bytes : Reply → List UInt8
  | .ack command => [respAck, command]
  | .nack command => [respNack, command]
  | .nackError command error => respNack :: command :: errorBody.write (error, ())
  | .pipeStarted ver window ackEvery maxFrame flags =>
      respAck :: echo cmdPipeWriteStart ::
        startedBody.write (ver, window, ackEvery, maxFrame, flags)
  | .sack highestSeen ackMask =>
      respAck :: echo cmdPipeWriteData :: sackBody.write (highestSeen, ackMask)
  | .pipeNack error highestSeen ackMask =>
      respNack :: echo cmdPipeWriteData :: pipeNackBody.write (error, highestSeen, ackMask)
  | .version major minor sha patch =>
      respAck :: echo cmdFirmwareVersion ::
        versionBody.write (major, minor, UInt8.ofNat sha.length, sha, patch)
  | .msd record => respAck :: echo cmdReadMsd :: record
  | .configFirst total data =>
      respAck :: echo cmdConfigRead :: configBody.write (0, configFirstBody.write (total, data))
  | .configNext index data => respAck :: echo cmdConfigRead :: configBody.write (index, data)

/-- The reply keeps to its format. -/
def WellFormed : Reply → Prop
  | .version _ _ sha _ => sha.length < 256
  | .msd record => record.length = msdBytes
  | .configFirst _ data => data ≠ []
  | .configNext index data => index ≠ 0 ∧ data ≠ []
  | _ => True

end Reply

/-- The version is written with the SHA cut off. -/
lemma bytes_encodeVersion (major minor patch : UInt8) (sha : List UInt8) :
    (encodeVersion major minor patch sha).bytes =
      (Reply.version major minor ((sha.takeWhile (· ≠ 0)).take 40) patch).bytes := by
  show _ = respAck :: echo cmdFirmwareVersion :: _
  simp [encodeVersion, versionBody, Codec.seq, Codec.bind, symbol, block]

/-! ### What a client reads -/

/-- What stands behind `[0xFF][command]`. -/
def readRefusal (command : UInt8) (body : List UInt8) : Option Reply :=
  if body = [] then some (.nack command)
  else if body.length = 2 then
    (errorBody.whole.read body).map fun p => .nackError command p.1
  else if command = echo cmdPipeWriteData then
    (pipeNackBody.whole.read body).map fun p => .pipeNack p.1 p.2.1 p.2.2
  else none

/-- A chunk of the config: the first one has the total length in front. -/
def readConfigChunk (index : UInt16) (body : List UInt8) : Option Reply :=
  if index = 0 then (configFirstBody.read body).map fun p => .configFirst p.1 p.2
  else some (.configNext index body)

/-- What stands behind `[0x00][command]`, where it is not a mere ACK. -/
def readAnswer (command : UInt8) (body : List UInt8) : Option Reply :=
  if command = echo cmdPipeWriteStart then
    (startedBody.whole.read body).map fun p => .pipeStarted p.1 p.2.1 p.2.2.1 p.2.2.2.1 p.2.2.2.2
  else if command = echo cmdPipeWriteData then
    (sackBody.whole.read body).map fun p => .sack p.1 p.2
  else if command = echo cmdFirmwareVersion then
    (versionBody.whole.read body).map fun p => .version p.1 p.2.1 p.2.2.2.1 p.2.2.2.2
  else if command = echo cmdReadMsd then
    ((block msdBytes).whole.read body).map .msd
  else if command = echo cmdConfigRead then
    (configBody.read body).bind fun p => readConfigChunk p.1 p.2
  else none

/-- What a client makes of the bytes of a notification. -/
def readReply : List UInt8 → Option Reply
  | status :: command :: body =>
      if status = respNack then readRefusal command body
      else if status = respAck then
        if body = [] then some (.ack command) else readAnswer command body
      else none
  | _ => none

/-! ### What is read is what was written -/

lemma of_readRefusal {command : UInt8} {body : List UInt8} {r : Reply}
    (h : readRefusal command body = some r) :
    r.WellFormed ∧ r.bytes = respNack :: command :: body := by
  rw [readRefusal] at h
  split_ifs at h with hnone hlength hcommand
  · subst hnone
    obtain rfl := Option.some.inj h
    exact ⟨trivial, rfl⟩
  · obtain ⟨p, -, rfl, rfl⟩ := (Message.map_read_iff _).mp h
    exact ⟨trivial, rfl⟩
  · subst hcommand
    obtain ⟨p, -, rfl, rfl⟩ := (Message.map_read_iff _).mp h
    exact ⟨trivial, rfl⟩

lemma of_readConfigChunk {index : UInt16} {body : List UInt8} {r : Reply} (hbody : body ≠ [])
    (h : readConfigChunk index body = some r) :
    r.WellFormed ∧ r.bytes = respAck :: echo cmdConfigRead :: configBody.write (index, body) := by
  rw [readConfigChunk] at h
  split_ifs at h with hfirst
  · subst hfirst
    obtain ⟨p, hvalid, rfl, rfl⟩ := (Message.map_read_iff _).mp h
    exact ⟨hvalid.2, rfl⟩
  · obtain rfl := Option.some.inj h
    exact ⟨⟨hfirst, hbody⟩, rfl⟩

lemma of_readAnswer {command : UInt8} {body : List UInt8} {r : Reply}
    (h : readAnswer command body = some r) :
    r.WellFormed ∧ r.bytes = respAck :: command :: body := by
  rw [readAnswer] at h
  split_ifs at h with hstart hdata hversion hmsd hconfig
  · subst hstart
    obtain ⟨p, -, rfl, rfl⟩ := (Message.map_read_iff _).mp h
    exact ⟨trivial, rfl⟩
  · subst hdata
    obtain ⟨p, -, rfl, rfl⟩ := (Message.map_read_iff _).mp h
    exact ⟨trivial, rfl⟩
  · subst hversion
    obtain ⟨⟨major, minor, shaLen, sha, patch⟩, ⟨-, -, -, hsha, -⟩, rfl, rfl⟩ :=
      (Message.map_read_iff _).mp h
    -- the length that was read is that of the SHA
    have hsha : sha.length = shaLen.toNat := hsha
    refine ⟨lt_of_eq_of_lt hsha shaLen.toNat_lt, ?_⟩
    dsimp only
    rw [Reply.bytes, hsha, UInt8.ofNat_toNat]
    rfl
  · subst hmsd
    obtain ⟨record, hvalid, rfl, rfl⟩ := (Message.map_read_iff _).mp h
    exact ⟨hvalid, rfl⟩
  · subst hconfig
    obtain ⟨⟨index, rest⟩, hread, hchunk⟩ := Option.bind_eq_some_iff.mp h
    obtain ⟨⟨-, hrest⟩, rfl⟩ := configBody.read_iff.mp hread
    exact of_readConfigChunk hrest hchunk

lemma of_readReply {s : List UInt8} {r : Reply} (h : readReply s = some r) :
    r.WellFormed ∧ r.bytes = s := by
  rcases s with _ | ⟨status, _ | ⟨command, body⟩⟩
  · cases h
  · cases h
  · rw [readReply] at h
    split_ifs at h with hnack hack hbody
    · subst hnack
      exact of_readRefusal h
    · subst hack hbody
      obtain rfl := Option.some.inj h
      exact ⟨trivial, rfl⟩
    · subst hack
      exact of_readAnswer h

lemma readReply_refusal (command : UInt8) (body : List UInt8) :
    readReply (respNack :: command :: body) = readRefusal command body := rfl

lemma readReply_answer (command : UInt8) {body : List UInt8} (hbody : body ≠ []) :
    readReply (respAck :: command :: body) = readAnswer command body := by
  rw [readReply, if_neg (by decide), if_pos rfl, if_neg hbody]

lemma readReply_configChunk (index : UInt16) {data : List UInt8} (hdata : data ≠ []) :
    readReply (respAck :: echo cmdConfigRead :: configBody.write (index, data)) =
      readConfigChunk index data := by
  have hbody : configBody.write (index, data) ≠ [] := List.cons_ne_nil _ _
  have hread : configBody.read (configBody.write (index, data)) = some (index, data) :=
    configBody.read_iff.mpr ⟨⟨trivial, hdata⟩, rfl⟩
  rw [readReply_answer _ hbody, readAnswer, if_neg (by decide), if_neg (by decide),
    if_neg (by decide), if_neg (by decide), if_pos rfl, hread]
  rfl

/-- A client reads what a reply was written as. -/
lemma readReply_bytes {r : Reply} (h : r.WellFormed) : readReply r.bytes = some r := by
  cases r with
  | ack | nack => rfl
  | nackError command error =>
      have hbody : errorBody.write (error, ()) ≠ [] := List.cons_ne_nil _ _
      have hlength : (errorBody.write (error, ())).length = 2 := rfl
      rw [Reply.bytes, readReply_refusal, readRefusal, if_neg hbody, if_pos hlength]
      exact (Message.map_read_iff _).mpr ⟨(error, ()), ⟨trivial, trivial⟩, rfl, rfl⟩
  | pipeNack error highestSeen ackMask =>
      have hbody : pipeNackBody.write (error, highestSeen, ackMask) ≠ [] := List.cons_ne_nil _ _
      have hlength : (pipeNackBody.write (error, highestSeen, ackMask)).length = 6 := rfl
      rw [Reply.bytes, readReply_refusal, readRefusal, if_neg hbody, hlength,
        if_neg (by decide), if_pos rfl]
      exact (Message.map_read_iff _).mpr
        ⟨(error, highestSeen, ackMask), ⟨trivial, trivial, trivial⟩, rfl, rfl⟩
  | pipeStarted ver window ackEvery maxFrame flags =>
      have hbody : startedBody.write (ver, window, ackEvery, maxFrame, flags) ≠ [] :=
        List.cons_ne_nil _ _
      rw [Reply.bytes, readReply_answer _ hbody, readAnswer, if_pos rfl]
      exact (Message.map_read_iff _).mpr ⟨(ver, window, ackEvery, maxFrame, flags),
        ⟨trivial, trivial, trivial, trivial, trivial⟩, rfl, rfl⟩
  | sack highestSeen ackMask =>
      have hbody : sackBody.write (highestSeen, ackMask) ≠ [] := List.cons_ne_nil _ _
      rw [Reply.bytes, readReply_answer _ hbody, readAnswer, if_neg (by decide), if_pos rfl]
      exact (Message.map_read_iff _).mpr ⟨(highestSeen, ackMask), ⟨trivial, trivial⟩, rfl, rfl⟩
  | version major minor sha patch =>
      have hbody : versionBody.write (major, minor, UInt8.ofNat sha.length, sha, patch) ≠ [] :=
        List.cons_ne_nil _ _
      have hsha : (UInt8.ofNat sha.length).toNat = sha.length := by
        rw [UInt8.toNat_ofNat']
        exact Nat.mod_eq_of_lt h
      rw [Reply.bytes, readReply_answer _ hbody, readAnswer, if_neg (by decide),
        if_neg (by decide), if_pos rfl]
      exact (Message.map_read_iff _).mpr ⟨(major, minor, UInt8.ofNat sha.length, sha, patch),
        ⟨trivial, trivial, trivial, hsha.symm, trivial⟩, rfl, rfl⟩
  | msd record =>
      have hlength : record.length = 16 := h
      have hbody : record ≠ [] := by
        rintro rfl
        exact absurd hlength (by decide)
      rw [Reply.bytes, readReply_answer _ hbody, readAnswer, if_neg (by decide),
        if_neg (by decide), if_neg (by decide), if_pos rfl]
      exact (Message.map_read_iff _).mpr ⟨record, h, rfl, rfl⟩
  | configFirst total data =>
      have hrest : configFirstBody.write (total, data) ≠ [] := List.cons_ne_nil _ _
      rw [Reply.bytes, readReply_configChunk _ hrest, readConfigChunk, if_pos rfl]
      exact (Message.map_read_iff _).mpr ⟨(total, data), ⟨trivial, h⟩, rfl, rfl⟩
  | configNext index data =>
      rw [Reply.bytes, readReply_configChunk _ h.2, readConfigChunk, if_neg h.1]

/-- A client reads a row of replies. -/
lemma map_readReply_bytes {replies : List Reply} (h : ∀ r ∈ replies, r.WellFormed) :
    (replies.map Reply.bytes).map readReply = replies.map some := by
  rw [List.map_map]
  exact List.map_congr_left fun r hr => readReply_bytes (h r hr)

/-- **The replies are read without doubt.** -/
theorem readReply_iff {s : List UInt8} {r : Reply} :
    readReply s = some r ↔ r.WellFormed ∧ r.bytes = s := by
  refine ⟨of_readReply, ?_⟩
  rintro ⟨hr, rfl⟩
  exact readReply_bytes hr

/-! ### What the encoders write -/

/-- What the encoders of `protocol.cpp` are told to say. -/
inductive Encodes : Response → Reply → Prop
  | ack (opcode : UInt16) : Encodes (encodeAck opcode) (.ack (echo opcode))
  | nack (opcode : UInt16) : Encodes (encodeNack opcode) (.nack (echo opcode))
  | nackErr (opcode : UInt16) (scopedError : UInt8) :
      Encodes (encodeNackErr opcode scopedError) (.nackError (echo opcode) scopedError)
  | pipeStart (maxWindow maxAckEvery : UInt8) (maxFrame : UInt16) (respFlags : UInt8) :
      Encodes (encodePipeStartResponse maxWindow maxAckEvery maxFrame respFlags)
        (.pipeStarted pipeVersion maxWindow maxAckEvery maxFrame respFlags)
  | pipeSack (highestSeen : UInt8) (ackMask : UInt32) :
      Encodes (encodePipeSack highestSeen ackMask) (.sack highestSeen ackMask)
  | pipeNack (err highestSeen : UInt8) (ackMask : UInt32) :
      Encodes (encodePipeNack err highestSeen ackMask) (.pipeNack err highestSeen ackMask)
  | version (major minor patch : UInt8) (sha : List UInt8) :
      Encodes (encodeVersion major minor patch sha)
        (.version major minor ((sha.takeWhile (· ≠ 0)).take 40) patch)
  | msd (record : Vector UInt8 msdBytes) : Encodes (encodeMsdResponse record) (.msd record.toList)
  | configFirst (blob : List UInt8) (hmore : blob ≠ []) :
      Encodes (encodeConfigChunk blob 0)
        (.configFirst (UInt16.ofNat blob.length) (blob.take (maxResponseDataSize - 6)))
  | configNext (blob : List UInt8) (index : UInt16) (hindex : index ≠ 0)
      (hmore : configChunkOffset index < blob.length) :
      Encodes (encodeConfigChunk blob index) (.configNext index
        ((blob.drop (configChunkOffset index)).take (maxResponseDataSize - 4)))

namespace Encodes

variable {r r' : Response} {reply reply' : Reply}

/-- The encoders keep to the formats. -/
lemma bytes_eq (h : Encodes r reply) : reply.WellFormed ∧ reply.bytes = r.bytes := by
  cases h with
  | ack | nack | nackErr | pipeStart | pipeSack | pipeNack => exact ⟨trivial, rfl⟩
  | version major minor patch sha =>
      have hle : ((sha.takeWhile (· ≠ 0)).take 40).length ≤ 40 := List.length_take_le _ _
      exact ⟨lt_of_le_of_lt hle (by decide), (bytes_encodeVersion major minor patch sha).symm⟩
  | msd record => exact ⟨record.length_toList, rfl⟩
  | configFirst blob hmore =>
      have hpos := List.length_pos_iff.mpr hmore
      have hoffset : ¬ blob.length ≤ configChunkOffset 0 := Nat.not_le.mpr hpos
      refine ⟨fun hnil => hmore ?_, ?_⟩
      · exact (List.take_eq_nil_iff.mp hnil).resolve_left (by decide)
      · rw [encodeConfigChunk]
        dsimp only
        rw [if_neg hoffset]
        rfl
  | configNext blob index hindex hmore =>
      refine ⟨⟨hindex, fun hnil => ?_⟩, ?_⟩
      · have hdrop := (List.take_eq_nil_iff.mp hnil).resolve_left (by decide)
        exact absurd (List.drop_eq_nil_iff.mp hdrop) (Nat.not_le.mpr hmore)
      · have hheader : configChunkHeader blob.length index =
            [respAck, echo cmdConfigRead] ++ putU16Le index := by
          rw [configChunkHeader, if_neg hindex, List.append_nil]
        rw [encodeConfigChunk]
        dsimp only
        rw [if_neg (Nat.not_le.mpr hmore)]
        simp only [hheader]
        rfl

/-- **What the encoders write is read without doubt**: as what it was to say, and two frames
are the same only if they are to say the same. -/
theorem read_unambiguous (h : Encodes r reply) (h' : Encodes r' reply') :
    readReply r.bytes = some reply ∧ (r = r' ↔ reply = reply') := by
  have hread : readReply r.bytes = some reply := readReply_iff.mpr h.bytes_eq
  have hread' : readReply r'.bytes = some reply' := readReply_iff.mpr h'.bytes_eq
  refine ⟨hread, ?_, ?_⟩
  · rintro rfl
    exact Option.some.inj (hread.symm.trans hread')
  · rintro rfl
    exact Response.ext (h.bytes_eq.2.symm.trans h'.bytes_eq.2)

/-- A NACK of a chunk, and the error frame of a read of the config, which differ in length. -/
theorem read_unambiguous_twoNacks :
    readReply (encodePipeNack odPipeNackProtocol 3 7).bytes =
        some (.pipeNack odPipeNackProtocol 3 7) ∧
      (encodePipeNack odPipeNackProtocol 3 7 = encodeNackErr cmdConfigRead 0 ↔
        Reply.pipeNack odPipeNackProtocol 3 7 = .nackError (echo cmdConfigRead) 0) :=
  read_unambiguous (.pipeNack odPipeNackProtocol 3 7) (.nackErr cmdConfigRead 0)

end Encodes

end OpenDisplay
