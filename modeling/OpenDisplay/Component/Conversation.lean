import OpenDisplay.Component.FlowControl
import OpenDisplay.Component.Respond
import OpenDisplay.Engine.PipeAcks
import OpenDisplay.Protocol.Replies
import Mathlib.Algebra.BigOperators.Group.List.Basic

/-!
# The component keeps to the protocol

What a client may be told, and when, is a matter of the protocol alone: each packet that is
handled and each tick of the engine is an occasion, and for each occasion there are a few
rows of replies that may be given (`Exchange`).  In every run the frames that the component
offers its TX queue fall into such exchanges, one for each packet that is handled and each
tick, in their order.  The client is notified of the frames that the queue takes, but for
those that still wait, and reads each as a reply of these.  It misses just what the queue
refuses, and nothing if it paces itself (`keeps_protocol`).
-/

namespace OpenDisplay

/-! ### The protocol -/

/-- What the component has something to say to. -/
inductive Occasion
  /-- a packet of the current connection is handled -/
  | packet (opcode : UInt16)
  | tick
deriving DecidableEq

/-- The commands that are supported. -/
def supportedCommands : List UInt16 :=
  [cmdConfigRead, cmdFirmwareVersion, cmdReadMsd, cmdDirectWriteStart, cmdDirectWriteData,
    cmdDirectWriteEnd, cmdPipeWriteStart, cmdPipeWriteData, cmdPipeWriteEnd]

/-- The replies that carry these parts of a config of `total` bytes. -/
def configReplies (total : ℕ) (parts : List (List UInt8)) : List Reply :=
  parts.mapIdx fun k data =>
    if k = 0 then .configFirst (UInt16.ofNat total) data else .configNext (UInt16.ofNat k) data

/-- What may be said to the end of a transfer. -/
inductive EndReply (opcode : UInt16) : Reply → Prop
  | refreshing : EndReply opcode (.ack (echo opcode))
  | refused : EndReply opcode (.nack (echo opcode))

/-- What may be said on an occasion. -/
inductive Exchange (settings : ComponentSettings) : Occasion → List Reply → Prop
  /-- the config, in parts -/
  | config (hvalid : settings.configValid = true) (parts : List (List UInt8))
      (hparts : parts.flatten = settings.configBlob) (hsome : [] ∉ parts) :
      Exchange settings (.packet cmdConfigRead)
        (configReplies settings.configBlob.length parts)
  | noConfig (hinvalid : settings.configValid = false) :
      Exchange settings (.packet cmdConfigRead) [.nackError (echo cmdConfigRead) 0x00]
  | version : Exchange settings (.packet cmdFirmwareVersion)
      [.version settings.verMajor settings.verMinor
        ((settings.esphomeVersion.takeWhile (· ≠ 0)).take 40) settings.verPatch]
  | msd (record : List UInt8) (hrecord : record.length = msdBytes) :
      Exchange settings (.packet cmdReadMsd) [.msd record]
  | directAcked (opcode : UInt16)
      (hopcode : opcode ∈ [cmdDirectWriteStart, cmdDirectWriteData, cmdDirectWriteEnd]) :
      Exchange settings (.packet opcode) [.ack (echo opcode)]
  | directNacked (opcode : UInt16)
      (hopcode : opcode ∈ [cmdDirectWriteStart, cmdDirectWriteData, cmdDirectWriteEnd]) :
      Exchange settings (.packet opcode) [.nack (echo opcode)]
  /-- the window, the cadence and the frame size are within the limits -/
  | pipeStarted (window ackEvery : UInt8) (maxFrame : UInt16)
      (hwindow : 1 ≤ window ∧ window ≤ pipeMaxWindow)
      (hackEvery : 1 ≤ ackEvery ∧ ackEvery ≤ pipeMaxAckEvery) (hframe : maxFrame ≤ pipeMaxFrame) :
      Exchange settings (.packet cmdPipeWriteStart)
        [.pipeStarted pipeVersion window ackEvery maxFrame 0x00]
  | pipeRefused (code : UInt8) (hcode : code ∈ [odErrPipeStartBadHeader,
      odErrPipeStartUnknownFlag, odErrPipeStartSizeMismatch, odErrPipeStartPartialUnsupported]) :
      Exchange settings (.packet cmdPipeWriteStart) [.nackError (echo cmdPipeWriteStart) code]
  | chunkSilent : Exchange settings (.packet cmdPipeWriteData) []
  | chunkSacked (highestSeen : UInt8) (ackMask : UInt32) :
      Exchange settings (.packet cmdPipeWriteData) [.sack highestSeen ackMask]
  | chunkNacked (error highestSeen : UInt8) (ackMask : UInt32)
      (herror : error ∈ [odPipeNackWriteSize, odPipeNackProtocol]) :
      Exchange settings (.packet cmdPipeWriteData) [.pipeNack error highestSeen ackMask]
  /-- the last chunk ends the transfer of its own -/
  | chunkLast (highestSeen : UInt8) (ackMask : UInt32) (reply : Reply)
      (hreply : EndReply cmdPipeWriteEnd reply) :
      Exchange settings (.packet cmdPipeWriteData) [.sack highestSeen ackMask, reply]
  | pipeEnded (reply : Reply) (hreply : EndReply cmdPipeWriteEnd reply) :
      Exchange settings (.packet cmdPipeWriteEnd) [reply]
  /-- what had not been acknowledged yet goes first -/
  | pipeFlushed (highestSeen : UInt8) (ackMask : UInt32) (reply : Reply)
      (hreply : EndReply cmdPipeWriteEnd reply) :
      Exchange settings (.packet cmdPipeWriteEnd) [.sack highestSeen ackMask, reply]
  | unsupported (opcode : UInt16) (hopcode : opcode ∉ supportedCommands) :
      Exchange settings (.packet opcode) [.nack (echo opcode)]
  | tickSilent : Exchange settings .tick []
  | refreshed : Exchange settings .tick [.ack (echo respDirectWriteRefreshSuccess)]
  | refreshTimedOut : Exchange settings .tick [.ack (echo respDirectWriteRefreshTimeout)]

variable {settings : ComponentSettings}

lemma EndReply.wellFormed {opcode : UInt16} {r : Reply} (h : EndReply opcode r) : r.WellFormed := by
  cases h <;> trivial

/-- The parts of a config that is no longer than a blob are numbered without a wrap. -/
lemma wellFormed_configReplies {total : ℕ} {parts : List (List UInt8)} (hsome : [] ∉ parts)
    (hle : parts.flatten.length ≤ configBlobMax) :
    ∀ r ∈ configReplies total parts, r.WellFormed := by
  have hcount : parts.length ≤ parts.flatten.length := by
    rw [List.length_flatten, ← List.length_map (f := List.length)]
    refine List.length_le_sum_of_one_le _ fun n hn => ?_
    obtain ⟨data, hdata, rfl⟩ := List.mem_map.mp hn
    exact List.length_pos_iff.mpr fun hnil => hsome (hnil ▸ hdata)
  intro r hr
  obtain ⟨k, hk, rfl⟩ := List.mem_mapIdx.mp hr
  have hdata : parts[k] ≠ [] := fun hnil => hsome (hnil ▸ List.getElem_mem hk)
  split_ifs with hfirst
  · exact hdata
  · refine ⟨fun hzero => hfirst ?_, hdata⟩
    have hmax : configBlobMax = 160 := rfl
    have hvalue := congrArg UInt16.toNat hzero
    rw [UInt16.toNat_ofNat', Nat.mod_eq_of_lt (by omega)] at hvalue
    exact hvalue

/-- Every reply of an exchange keeps to its format. -/
lemma Exchange.wellFormed {occasion : Occasion} {replies : List Reply}
    (h : Exchange settings occasion replies) : ∀ r ∈ replies, r.WellFormed := by
  cases h with
  | config hvalid parts hparts hsome =>
      exact wellFormed_configReplies hsome (by rw [hparts]; exact settings.configBlob_le)
  | version =>
      intro r hr
      obtain rfl := List.mem_singleton.mp hr
      have hle : ((settings.esphomeVersion.takeWhile (· ≠ 0)).take 40).length ≤ 40 :=
        List.length_take_le _ _
      exact lt_of_le_of_lt hle (by decide)
  | msd record hrecord =>
      intro r hr
      obtain rfl := List.mem_singleton.mp hr
      exact hrecord
  | chunkSilent | tickSilent => exact List.forall_mem_nil _
  | noConfig | directAcked | directNacked | pipeStarted | pipeRefused | chunkSacked
  | chunkNacked | unsupported | refreshed | refreshTimedOut =>
      intro r hr
      obtain rfl := List.mem_singleton.mp hr
      trivial
  | pipeEnded reply hreply => exact List.forall_mem_singleton.mpr hreply.wellFormed
  | chunkLast _ _ reply hreply | pipeFlushed _ _ reply hreply =>
      exact List.forall_mem_cons.mpr ⟨trivial, List.forall_mem_singleton.mpr hreply.wellFormed⟩

lemma Reply.bytes_ne_nil (r : Reply) : r.bytes ≠ [] := by
  cases r <;> exact List.cons_ne_nil _ _

/-- The frames say these replies; an empty response says nothing. -/
def Tells (frames : List Response) (replies : List Reply) : Prop :=
  (frames.filter fun r => !r.isEmpty).map Response.bytes = replies.map Reply.bytes

/-- What a frame says, if it says anything. -/
lemma tells_singleton {r : Response} {reply : Reply} (h : r.bytes = reply.bytes) :
    Tells [r] [reply] := by
  have hsome : r.isEmpty = false := by
    rw [Response.isEmpty, h]
    exact List.isEmpty_eq_false_iff.mpr reply.bytes_ne_nil
  simp [Tells, hsome, h]

lemma tells_append {frames more : List Response} {replies further : List Reply}
    (h : Tells frames replies) (hmore : Tells more further) :
    Tells (frames ++ more) (replies ++ further) := by
  rw [Tells, List.filter_append, List.map_append, List.map_append]
  exact congrArg₂ _ h hmore

/-! ### What the engine says -/

variable {β ω : Type} [OpenDisplayBackend β] [PanelWorld β ω]

namespace TransferEngine

variable {e e' : TransferEngine β}

omit [OpenDisplayBackend β] in
/-- Where no SACK is staged, the response is all that is said. -/
lemma tells_alone {res : EngineResult} {replies : List Reply} (htail : e.hasTailSack = false)
    (h : Tells [res.response] replies) :
    Tells (e.takeTailSack.1.toList ++ [res.response]) replies := by
  rw [takeTailSack_of_not htail]
  exact h

lemma FinishOutcome.endReply {opcode : UInt16} {now : UInt32} {res : EngineResult}
    (h : FinishOutcome e opcode now res e') :
    ∃ reply, EndReply opcode reply ∧ res.response.bytes = reply.bytes := by
  cases h with
  | incomplete | finishFailed | refreshFailed => exact ⟨_, .refused, rfl⟩
  | refreshing => exact ⟨_, .refreshing, rfl⟩

/-- The SACK that is staged goes before the answer to the end. -/
lemma FinishOutcome.tells_flushed {now : UInt32} {res : EngineResult}
    (h : FinishOutcome e.stageTailSack cmdPipeWriteEnd now res e') :
    ∃ reply, EndReply cmdPipeWriteEnd reply ∧
      Tells (e'.takeTailSack.1.toList ++ [res.response])
        [.sack e.txn.highestSeen (buildInorderAckMask e.txn.acceptedPackets), reply] := by
  obtain ⟨reply, hreply, hbytes⟩ := h.endReply
  refine ⟨reply, hreply, ?_⟩
  rw [h.frames_of_staged]
  exact tells_append (@tells_singleton _ (.sack _ _) rfl) (tells_singleton hbytes)

lemma exchange_directStart (htail : e.hasTailSack = false) (p : Payload) (now : UInt32) :
    ∃ replies, Exchange settings (.packet cmdDirectWriteStart) replies ∧
      Tells (e.framesSent (.directStart p now : EngineOp ω)) replies := by
  have ho := onDirectStart_outcome e p now
  simp only [framesSent, step, perform]
  generalize (e.onDirectStart p now).1 = res, (e.onDirectStart p now).2 = e₁ at ho ⊢
  cases ho with
  | compressed =>
      exact ⟨_, .directNacked _ (by simp), tells_alone htail (tells_singleton rfl)⟩
  | refused _ _ _ hbegin =>
      exact ⟨_, .directNacked _ (by simp),
        tells_alone (hbegin.hasTailSack.trans htail) (tells_singleton rfl)⟩
  | started _ _ hbegin =>
      exact ⟨_, .directAcked _ (by simp),
        tells_alone (hbegin.hasTailSack.trans htail) (tells_singleton rfl)⟩

lemma exchange_directData (htail : e.hasTailSack = false) (p : Payload) (now : UInt32) :
    ∃ replies, Exchange settings (.packet cmdDirectWriteData) replies ∧
      Tells (e.framesSent (.directData p now : EngineOp ω)) replies := by
  have ho := onDirectData_outcome e p now
  simp only [framesSent, step, perform]
  generalize (e.onDirectData p now).1 = res, (e.onDirectData p now).2 = e₁ at ho ⊢
  cases ho with
  | misplaced =>
      exact ⟨_, .directNacked _ (by simp), tells_alone htail (tells_singleton rfl)⟩
  | accepted =>
      exact ⟨_, .directAcked _ (by simp), tells_alone htail (tells_singleton rfl)⟩
  | malformed | oversize | writeFailed =>
      exact ⟨_, .directNacked _ (by simp), tells_alone (by simpa using htail) (tells_singleton rfl)⟩

lemma exchange_directEnd (htail : e.hasTailSack = false) (p : Payload) (now : UInt32) :
    ∃ replies, Exchange settings (.packet cmdDirectWriteEnd) replies ∧
      Tells (e.framesSent (.directEnd p now : EngineOp ω)) replies := by
  have ho := onDirectEnd_outcome e p now
  simp only [framesSent, step, perform]
  generalize (e.onDirectEnd p now).1 = res, (e.onDirectEnd p now).2 = e₁ at ho ⊢
  cases ho with
  | misplaced =>
      exact ⟨_, .directNacked _ (by simp), tells_alone htail (tells_singleton rfl)⟩
  | finished _ _ _ _ hfinish =>
      obtain ⟨reply, hreply, hbytes⟩ := hfinish.endReply
      have htells := tells_alone (hfinish.staged.1.trans htail) (tells_singleton hbytes)
      cases hreply with
      | refreshing => exact ⟨_, .directAcked _ (by simp), htells⟩
      | refused => exact ⟨_, .directNacked _ (by simp), htells⟩

/-- A header is refused by one of these codes. -/
lemma mem_of_parsePipeStart_error {p : Payload} {code : UInt8}
    (h : parsePipeStart p = .error code) : code ∈ [odErrPipeStartBadHeader,
      odErrPipeStartUnknownFlag, odErrPipeStartSizeMismatch, odErrPipeStartPartialUnsupported] := by
  rw [parsePipeStart] at h
  dsimp only at h
  split_ifs at h <;> injection h with h <;> simp [← h]

lemma exchange_pipeStart (htail : e.hasTailSack = false) (p : Payload) (now : UInt32) :
    ∃ replies, Exchange settings (.packet cmdPipeWriteStart) replies ∧
      Tells (e.framesSent (.pipeStart p now : EngineOp ω)) replies := by
  have ho := onPipeStart_outcome e p now
  simp only [framesSent, step, perform]
  generalize (e.onPipeStart p now).1 = res, (e.onPipeStart p now).2 = e₁ at ho ⊢
  cases ho with
  | badHeader code hparse =>
      exact ⟨_, .pipeRefused _ (mem_of_parsePipeStart_error hparse),
        tells_alone htail (tells_singleton rfl)⟩
  | compressed =>
      exact ⟨_, .pipeRefused odErrPipeStartUnknownFlag (by simp),
        tells_alone htail (tells_singleton rfl)⟩
  | refused _ _ _ why _ hbegin =>
      refine ⟨_, .pipeRefused
        (if why = .invalidSize then odErrPipeStartSizeMismatch else odErrPipeStartBadHeader) ?_,
        tells_alone (hbegin.hasTailSack.trans htail) (tells_singleton rfl)⟩
      split_ifs <;> simp
  | started req hparse _ _ hbegin window ackEvery frame hwindow hackEvery hframe =>
      obtain ⟨⟨hreq, -⟩, hevery, -⟩ := limits_of_parsePipeStart hparse
      have hsmaller : ∀ a b : UInt8, 1 ≤ a → 1 ≤ b →
          1 ≤ (if a < b then a else b) ∧ (if a < b then a else b) ≤ b := by
        intro a b ha hb
        split_ifs with hlt
        · exact ⟨ha, UInt8.le_of_lt hlt⟩
        · exact ⟨hb, UInt8.le_refl b⟩
      refine ⟨_, .pipeStarted window ackEvery frame ?_ ?_ ?_,
        tells_alone (hbegin.hasTailSack.trans htail) (tells_singleton rfl)⟩
      · rw [hwindow]
        exact hsmaller _ _ hreq (by decide)
      · rw [hackEvery]
        exact hsmaller _ _ hevery (by decide)
      · rw [hframe]
        split_ifs with hlt
        · exact UInt16.le_of_lt hlt
        · exact UInt16.le_refl _

lemma exchange_pipeData (htail : e.hasTailSack = false) (p : Payload) (now : UInt32) :
    ∃ replies, Exchange settings (.packet cmdPipeWriteData) replies ∧
      Tells (e.framesSent (.pipeData p now : EngineOp ω)) replies := by
  have ho := onPipeData_outcome e p now
  simp only [framesSent, step, perform]
  generalize (e.onPipeData p now).1 = res, (e.onPipeData p now).2 = e₁ at ho ⊢
  cases ho with
  | latched => exact ⟨_, .chunkSilent, tells_alone htail rfl⟩
  | misplaced =>
      exact ⟨_, .chunkNacked odPipeNackProtocol _ _ (by simp),
        tells_alone htail (tells_singleton rfl)⟩
  | outOfOrder => exact ⟨_, .chunkSacked _ _, tells_alone htail (tells_singleton rfl)⟩
  | malformed | oversize | writeFailed =>
      exact ⟨_, .chunkNacked _ _ _ (by decide),
        tells_alone (by simpa using htail) (tells_singleton rfl)⟩
  | accepted _ _ _ _ _ _ _ _ hchunk =>
      cases hchunk with
      | completed _ _ _ hfinish =>
          obtain ⟨reply, hreply, htells⟩ := hfinish.tells_flushed
          exact ⟨_, .chunkLast _ _ reply hreply, htells⟩
      | sacked => exact ⟨_, .chunkSacked _ _, tells_alone htail (tells_singleton rfl)⟩
      | silent => exact ⟨_, .chunkSilent, tells_alone htail rfl⟩

lemma exchange_pipeEnd (htail : e.hasTailSack = false) (p : Payload) (now : UInt32) :
    ∃ replies, Exchange settings (.packet cmdPipeWriteEnd) replies ∧
      Tells (e.framesSent (.pipeEnd p now : EngineOp ω)) replies := by
  have ho := onPipeEnd_outcome e p now
  simp only [framesSent, step, perform]
  generalize (e.onPipeEnd p now).1 = res, (e.onPipeEnd p now).2 = e₁ at ho ⊢
  cases ho with
  | misplaced => exact ⟨_, .pipeEnded _ .refused, tells_alone htail (tells_singleton rfl)⟩
  | flushed _ _ _ _ hfinish =>
      obtain ⟨reply, hreply, htells⟩ := hfinish.tells_flushed
      exact ⟨_, .pipeFlushed _ _ reply hreply, htells⟩
  | finished _ _ _ _ hfinish =>
      obtain ⟨reply, hreply, hbytes⟩ := hfinish.endReply
      exact ⟨_, .pipeEnded reply hreply,
        tells_alone (hfinish.staged.1.trans htail) (tells_singleton hbytes)⟩

open OpenDisplayComponent (packetOp resultFrames)

/-- What the engine says to a packet is in the protocol. -/
lemma exchange_of_packetOp (htail : e.hasTailSack = false) {f : Frame} {now : UInt32}
    {op : EngineOp ω} (hop : packetOp f now = some op) :
    ∃ replies, Exchange settings (.packet f.opcode) replies ∧ Tells (e.framesSent op) replies := by
  rw [packetOp] at hop
  split_ifs at hop with h70 h71 h72 h80 h81 h82 <;> obtain rfl := Option.some.inj hop
  · rw [h70]
    exact exchange_directStart htail _ _
  · rw [h71]
    exact exchange_directData htail _ _
  · rw [h72]
    exact exchange_directEnd htail _ _
  · rw [h80]
    exact exchange_pipeStart htail _ _
  · rw [h81]
    exact exchange_pipeData htail _ _
  · rw [h82]
    exact exchange_pipeEnd htail _ _

/-- A tick says nothing, or how the refresh has ended. -/
lemma exchange_tick (htail : e.hasTailSack = false) (now : UInt32) :
    ∃ replies, Exchange settings .tick replies ∧
      (nonEmptyFrames (resultFrames (e.tick now).2.takeTailSack.1 (e.tick now).1)).map
        Response.bytes = replies.map Reply.bytes := by
  have ho := e.tick_outcome now
  rw [takeTailSack_of_not ((tick_hasTailSack e now).trans htail)]
  generalize (e.tick now).1 = res, (e.tick now).2 = e' at ho ⊢
  cases ho with
  | complete => exact ⟨_, .refreshed, rfl⟩
  | refreshTimeout => exact ⟨_, .refreshTimedOut, rfl⟩
  | failed | released | waiting | transferTimeout => exact ⟨_, .tickSilent, rfl⟩

/-- What is handed to `send_` after a packet. -/
lemma nonEmptyFrames_resultFrames (e : TransferEngine β) {op : EngineOp ω}
    (hop : ∀ now, op ≠ .tick now) :
    nonEmptyFrames (resultFrames (e.step op).takeTailSack.1 (e.perform op).1) =
      (e.framesSent op).filter fun r => !r.isEmpty := by
  obtain ⟨hcomplete, htimeout⟩ := e.reports_nothing hop
  rw [resultFrames, hcomplete, htimeout, framesSent, nonEmptyFrames]
  rcases hsome : (e.perform op).1.response.isEmpty with _ | _ <;>
    simp [hsome, Function.comp_def]

end TransferEngine

/-! ### What the component says -/

/-- The frames are an exchange for each occasion, one after another. -/
def Converses (settings : ComponentSettings) (occasions : List Occasion)
    (frames : List Response) : Prop :=
  ∃ exchanges : List (List Reply), List.Forall₂ (Exchange settings) occasions exchanges ∧
    frames.map Response.bytes = exchanges.flatten.map Reply.bytes

lemma converses_nil (settings : ComponentSettings) : Converses settings [] [] := ⟨[], .nil, rfl⟩

lemma converses_singleton {occasion : Occasion} {frames : List Response} {replies : List Reply}
    (h : Exchange settings occasion replies)
    (hframes : frames.map Response.bytes = replies.map Reply.bytes) :
    Converses settings [occasion] frames := by
  refine ⟨[replies], .cons h .nil, ?_⟩
  rw [hframes, List.flatten_singleton]

/-- The chunks of a blob are the config in parts. -/
lemma converses_config (hvalid : settings.configValid = true) :
    Converses settings [.packet cmdConfigRead] (configChunks settings.configBlob) := by
  have hle := settings.configBlob_le
  have hmax : configBlobMax = 160 := rfl
  have hlen : settings.configBlob.length < 65536 := by omega
  have hcount := configChunkCount_lt hlen
  let parts := (List.range (configChunkCount settings.configBlob.length)).map
    (configPart settings.configBlob)
  have hparts : parts.flatten = settings.configBlob := by
    have hdata := (wholeConfig_configChunks hlen).data_eq
    have hrow : (configChunks settings.configBlob).mapIdx (fun k r =>
        r.bytes.drop (chunkHeader settings.configBlob.length k).length) = parts := by
      refine List.ext_getElem (by simp [parts]) fun k hk hk' => ?_
      have hlt : k < configChunkCount settings.configBlob.length := by simpa [parts] using hk'
      simp only [configChunks, parts, List.getElem_mapIdx, List.getElem_map, List.getElem_range]
      rw [bytes_encodeConfigChunk (by omega) hlt, List.drop_left]
    rwa [chunkData, hrow] at hdata
  refine converses_singleton (.config hvalid parts hparts ?_) ?_
  · intro hnil
    obtain ⟨k, hk, hpart⟩ := List.mem_map.mp hnil
    have hlt := List.mem_range.mp hk
    exact configPart_ne (by omega) hlt hpart
  · refine List.ext_getElem (by simp [configReplies, parts]) fun k hk hk' => ?_
    have hlt : k < configChunkCount settings.configBlob.length := by simpa using hk
    simp only [configChunks, configReplies, parts, List.getElem_map, List.getElem_range,
      List.getElem_mapIdx]
    rw [bytes_encodeConfigChunk (by omega) hlt, chunkHeader]
    split_ifs with hfirst
    · subst hfirst
      rfl
    · rfl

/-! ### What the queue takes -/

/-- A frame that the TX queue is offered, and whether it is taken. -/
structure Offer where
  frame : Response
  taken : Bool

/-- The reply that a client reads out of the frame. -/
def Offer.reply? (o : Offer) : Option Reply := readReply o.frame.bytes

/-- The frames that are taken. -/
def takenFrames (offers : List Offer) : List Response :=
  (offers.filter Offer.taken).map Offer.frame

lemma takenFrames_append (offers more : List Offer) :
    takenFrames (offers ++ more) = takenFrames offers ++ takenFrames more := by
  simp [takenFrames]

/-- Where no frame is missing, every offer is taken. -/
lemma taken_of_takenFrames {offers : List Offer}
    (h : takenFrames offers = offers.map Offer.frame) : ∀ o ∈ offers, o.taken = true := by
  have hlength := congrArg List.length h
  rw [takenFrames, List.length_map, List.length_map] at hlength
  exact List.filter_eq_self.mp (List.filter_sublist.eq_of_length hlength)

namespace TxQueue

/-- Frames are offered to the queue, one after another; an empty one is no frame. -/
def offerAll (q : TxQueue) : List (Response × Bool) → List Offer
  | [] => []
  | (r, terminal) :: frames =>
      let pushed := q.push r terminal
      if r.isEmpty then offerAll pushed.2 frames else ⟨r, pushed.1⟩ :: offerAll pushed.2 frames

omit [OpenDisplayBackend β] in
lemma map_frame_offerAll (q : TxQueue) (frames : List (Response × Bool)) :
    (q.offerAll frames).map Offer.frame = nonEmptyFrames frames := by
  induction frames generalizing q with
  | nil => rfl
  | cons f frames ih =>
      obtain ⟨r, terminal⟩ := f
      rw [offerAll]
      rcases hempty : r.isEmpty with _ | _
      · have hcons : nonEmptyFrames ((r, terminal) :: frames) = r :: nonEmptyFrames frames := by
          simp [nonEmptyFrames, hempty]
        rw [if_neg Bool.false_ne_true, hcons, List.map_cons, ih]
      · have hskip : nonEmptyFrames ((r, terminal) :: frames) = nonEmptyFrames frames := by
          simp [nonEmptyFrames, hempty]
        rw [if_pos rfl, hskip, ih]

lemma takenFrames_offerAll (q : TxQueue) (frames : List (Response × Bool)) :
    takenFrames (q.offerAll frames) = (q.pushAll frames).1 := by
  induction frames generalizing q with
  | nil => rfl
  | cons f frames ih =>
      obtain ⟨r, terminal⟩ := f
      rw [offerAll, pushAll]
      dsimp only
      rw [← ih]
      rcases hempty : r.isEmpty with _ | _ <;> rcases hpush : (q.push r terminal).1 with _ | _ <;>
        simp [takenFrames]

/-- Of a row of normal frames the queue takes the first ones. -/
lemma pushAll_normal {frames : List Response} (hsome : ∀ r ∈ frames, r.isEmpty = false)
    (q : TxQueue) :
    (q.pushAll (frames.map fun r => (r, false))).1 = frames.take (q.room false) := by
  induction frames generalizing q with
  | nil => simp
  | cons r frames ih =>
      obtain ⟨hr, hframes⟩ := List.forall_mem_cons.mp hsome
      rw [List.map_cons]
      by_cases haccepts : q.Accepts false
      · obtain ⟨k, hk⟩ := Nat.exists_eq_succ_of_ne_zero ((q.accepts_iff_room false).mp haccepts).ne'
        rw [pushAll_of_accepts hr haccepts, ih hframes, room_push hr haccepts, hk]
        rfl
      · have hzero : q.room false = 0 := by simpa using mt (q.accepts_iff_room false).mpr haccepts
        rw [pushAll_of_not_accepts hr haccepts, ih hframes, hzero, List.take_zero, List.take_zero]

end TxQueue

/-- Where no frame of a row is empty, all of them are frames. -/
lemma nonEmptyFrames_normal {frames : List Response} (hsome : ∀ r ∈ frames, r.isEmpty = false) :
    nonEmptyFrames (frames.map fun r => (r, false)) = frames := by
  rw [nonEmptyFrames, List.map_map]
  exact (congrArg _ (List.map_id frames)).trans
    (List.filter_eq_self.mpr fun r hr => by rw [hsome r hr, Bool.not_false])

lemma configChunks_nonempty {blob : List UInt8} (hlen : blob.length < 65536) :
    ∀ r ∈ configChunks blob, r.isEmpty = false := by
  have hcount := configChunkCount_lt hlen
  intro r hr
  obtain ⟨k, hk, rfl⟩ := List.mem_map.mp hr
  have hlt := List.mem_range.mp hk
  rw [← Bool.not_eq_true, isEmpty_encodeConfigChunk (by omega), Nat.not_le]
  exact hlt

namespace OpenDisplayComponent

variable {c : OpenDisplayComponent β}

/-- The frames that a step has for the client, each of them terminal or not: those handed to
`send_`, and the chunks of the config where it is read.  `send_config_` breaks off at the first
chunk that the queue refuses; it would refuse the rest as well. -/
def offered (c : OpenDisplayComponent β) (op : ComponentOp ω) : List (Response × Bool) :=
  match op with
  | .loop _ _ => if c.readsConfig then (configChunks c.settings.configBlob).map fun r => (r, false)
      else handedFrames (c.perform op).1
  | _ => []

/-- What the queue is offered in a step. -/
def offers (c : OpenDisplayComponent β) (op : ComponentOp ω) : List Offer :=
  c.tx.offerAll (c.offered op)

/-- The packet that the next part of the loop handles. -/
def nextFrame (c : OpenDisplayComponent β) : Option Frame :=
  c.nextPacket.bind fun pkt =>
    if pkt.connectionGeneration = c.connectionGeneration then pkt.frame else none

/-- What a step is an occasion for. -/
def occasions (c : OpenDisplayComponent β) : ComponentOp ω → List Occasion
  | .loop _ _ =>
      match c.phase with
      | .tick _ => [.tick]
      | _ => (c.nextFrame.map fun f => Occasion.packet f.opcode).toList
  | _ => []

/-- A part of the component is in the protocol: what it has for the client may be said on these
occasions, and the queue takes of it what it has room for. -/
structure Speaks (c : OpenDisplayComponent β) (occasions : List Occasion)
    (offered : List (Response × Bool)) (fx : List Effect) : Prop where
  converses : Converses c.settings occasions (nonEmptyFrames offered)
  queued_eq : queuedFrames fx = (c.tx.pushAll offered).1

omit [OpenDisplayBackend β] in
/-- A part that has nothing to say. -/
lemma speaks_nil (c : OpenDisplayComponent β) {fx : List Effect} (h : queuedFrames fx = []) :
    Speaks c [] [] fx := ⟨converses_nil _, h⟩

omit [OpenDisplayBackend β] in
/-- Frames that are handed to `send_` and make up an exchange. -/
lemma Sends.speaks_of_bytes {occasion : Occasion} {frames : List (Response × Bool)}
    {done : Done β} {replies : List Reply} (h : Sends c frames done)
    (hexchange : Exchange c.settings occasion replies)
    (hbytes : (nonEmptyFrames frames).map Response.bytes = replies.map Reply.bytes) :
    Speaks c [occasion] (handedFrames done.1) done.1 where
  converses := by
    rw [h.handed_eq]
    exact converses_singleton hexchange hbytes
  queued_eq := by rw [h.queued_eq, h.handed_eq]

omit [OpenDisplayBackend β] in
/-- A single frame that is handed to `send_`. -/
lemma Sends.speaks {occasion : Occasion} {r : Response} {terminal : Bool} {done : Done β}
    {reply : Reply} (h : Sends c [(r, terminal)] done)
    (hexchange : Exchange c.settings occasion [reply]) (hbytes : r.bytes = reply.bytes) :
    Speaks c [occasion] (handedFrames done.1) done.1 :=
  h.speaks_of_bytes hexchange (tells_singleton hbytes)

omit [OpenDisplayBackend β] in
/-- A read of the config is answered with its parts, as far as the queue takes them. -/
lemma sendConfig_speaks (c : OpenDisplayComponent β) :
    let offered := if c.settings.configValid then
        (configChunks c.settings.configBlob).map fun r => (r, false)
      else handedFrames c.sendConfig.1
    Speaks c [.packet cmdConfigRead] offered c.sendConfig.1 := by
  rw [sendConfig]
  rcases hvalid : c.settings.configValid with _ | _
  · exact (sends_send c _ false).speaks (.noConfig hvalid) rfl
  · have hle := c.settings.configBlob_le
    have hmax : configBlobMax = 160 := rfl
    have hcount := configChunkCount_le c.settings.configBlob.length
    have hsome : ∀ r ∈ configChunks c.settings.configBlob, r.isEmpty = false :=
      configChunks_nonempty (by omega)
    have hsent := @toList_sendChunks c.settings.configBlob (by omega) c.tx
      (c.settings.configBlob.length + 1) 0 (Nat.zero_le _) (by omega)
    have hqueued := conserves_sendChunks c.settings.configBlob c.tx
      (c.settings.configBlob.length + 1) 0
    constructor
    · rw [if_pos rfl, nonEmptyFrames_normal hsome]
      exact converses_config hvalid
    · change queuedFrames (sendChunks c.settings.configBlob c.tx _ 0).1 = _
      rw [if_pos rfl, TxQueue.pushAll_normal hsome,
        ← List.append_cancel_left (hsent.symm.trans hqueued), List.drop_zero]

omit [PanelWorld β ω] in
/-- What the component answers of its own. -/
lemma handlePacket_speaks {pkt : RxPacket} {f : Frame} (hframe : pkt.frame = some f)
    {nowMs : UInt32} (hop : (packetOp f nowMs : Option (EngineOp ω)) = none) :
    let offered := if f.opcode = cmdConfigRead ∧ c.settings.configValid then
        (configChunks c.settings.configBlob).map fun r => (r, false)
      else handedFrames (c.handlePacket pkt nowMs).1
    Speaks c [.packet f.opcode] offered (c.handlePacket pkt nowMs).1 := by
  have hothers : f.opcode ∉ [cmdDirectWriteStart, cmdDirectWriteData, cmdDirectWriteEnd,
      cmdPipeWriteStart, cmdPipeWriteData, cmdPipeWriteEnd] := by
    rw [packetOp] at hop
    split_ifs at hop with h70 h71 h72 h80 h81 h82
    simp [h70, h71, h72, h80, h81, h82]
  simp only [List.mem_cons, List.not_mem_nil, or_false, not_or] at hothers
  obtain ⟨h70, h71, h72, h80, h81, h82⟩ := hothers
  rw [handlePacket, hframe]
  simp only [if_neg h70, if_neg h71, if_neg h72, if_neg h80, if_neg h81, if_neg h82]
  by_cases h40 : f.opcode = cmdConfigRead
  · simp only [h40, true_and, if_true]
    exact sendConfig_speaks c
  · simp only [h40, false_and, if_false]
    split_ifs with h43 h44
    · rw [h43]
      exact (sends_send c _ false).speaks .version (bytes_encodeVersion _ _ _ _)
    · rw [h44]
      exact ((sends_send c _ false).andThen (.silent rfl rfl rfl rfl)).speaks
        (.msd c.msd.toList (by simp)) rfl
    · exact (sends_send c _ false).speaks (.unsupported _ (by
        simp [supportedCommands, h40, h43, h44, h70, h71, h72, h80, h81, h82])) rfl

include ω in
/-- What a packet is answered with. -/
lemma packet_speaks (htail : c.engine.hasTailSack = false) (pkt : RxPacket) (nowMs : UInt32) :
    let done := c.handlePacket pkt nowMs
    let offered := if c.answersConfig pkt then
        (configChunks c.settings.configBlob).map fun r => (r, false)
      else handedFrames done.1
    Speaks c (pkt.frame.map fun f => Occasion.packet f.opcode).toList offered done.1 := by
  intro done offered
  rcases hframe : pkt.frame with _ | f
  · have hdone : done = ([], c) := by simp [done, handlePacket, hframe]
    have hnot : c.answersConfig pkt = false := by simp [answersConfig, hframe]
    simp only [offered, hdone, hnot]
    exact speaks_nil c rfl
  have hconfig : c.answersConfig pkt = (f.opcode == cmdConfigRead && c.settings.configValid) := by
    rw [answersConfig, hframe]
    rfl
  rcases hop : (packetOp f nowMs : Option (EngineOp ω)) with _ | op
  · have hown := handlePacket_speaks (c := c) hframe hop
    simpa [offered, hconfig] using hown
  · have hnot : c.answersConfig pkt = false := by
      rw [hconfig]
      rw [packetOp] at hop
      split_ifs at hop with h h h h h h <;> rw [h] <;> rfl
    have hnoTick : ∀ now, op ≠ .tick now := by
      rintro now rfl
      rw [packetOp] at hop
      split_ifs at hop <;> cases hop
    have hdone : done = c.answer (c.engine.perform op) := handlePacket_of_op c hframe hop
    obtain ⟨replies, hexchange, htells⟩ := TransferEngine.exchange_of_packetOp htail hop
    have hbytes := (congrArg (List.map Response.bytes)
      (TransferEngine.nonEmptyFrames_resultFrames c.engine hnoTick)).trans htells
    rw [show offered = handedFrames done.1 by simp [offered, hnot], hdone]
    have hspeaks := (sends_applyResult { c with engine := (c.engine.perform op).2 }
      (c.engine.perform op).1).speaks_of_bytes hexchange hbytes
    exact ⟨hspeaks.converses, hspeaks.queued_eq⟩

/-! ### Steps -/

/-- The settings are never changed. -/
lemma settings_step (c : OpenDisplayComponent β) (op : ComponentOp ω) :
    (c.step op).settings = c.settings := by
  cases op with
  | bleConnect | bleDisconnect | bleWrite | abort | world => rfl
  | loop now temperature =>
      have ho := loop_outcome c now temperature
      rw [step, perform]
      generalize c.loop now temperature = done at ho ⊢
      cases ho with
      | packet startMs handled _ pkt =>
          obtain ⟨_, _, _, _, hsame⟩ := sameLoop_handlePacket { c with
            rx := c.rx.pop.2, phase := .receive startMs (handled + 1) } pkt now
          rw [hsame]
      | ticked startMs =>
          obtain ⟨_, _, _, _, hsame⟩ :=
            sameLoop_answer { c with phase := .updateMsd startMs } (c.engine.tick startMs)
          rw [hsame]
      | updated => rw [updateMsd_rest]
      | published => rw [(publishState_rest _).2.2.2.2]
      | _ => rfl

/-- A part of the loop that is no tick and handles no packet has nothing to say. -/
lemma loop_speaks_of_quiet {nowMs : UInt32} {temperature : Int}
    (hphase : ∀ startMs, c.phase ≠ .tick startMs) (hnext : c.nextFrame = none)
    (hreads : c.readsConfig = false) (hhanded : handedFrames (c.loop nowMs temperature).1 = [])
    (hqueued : queuedFrames (c.loop nowMs temperature).1 = []) :
    let op : ComponentOp ω := .loop nowMs temperature
    Speaks c (occasions c op) (c.offered op) (c.perform op).1 := by
  intro op
  have hoccasions : occasions c op = [] := by
    simp only [op, occasions, hnext]
    rfl
  have hoffered : c.offered op = [] := by
    rw [offered, hreads, if_neg Bool.false_ne_true]
    exact hhanded
  rw [hoccasions, hoffered]
  exact speaks_nil c hqueued

/-- The part of the loop that is the tick. -/
lemma loop_speaks_of_tick {startMs nowMs : UInt32} {temperature : Int}
    (htail : c.engine.hasTailSack = false) (hphase : c.phase = .tick startMs)
    (hloop : c.loop nowMs temperature =
      { c with phase := .updateMsd startMs }.answer (c.engine.tick startMs)) :
    let op : ComponentOp ω := .loop nowMs temperature
    Speaks c (occasions c op) (c.offered op) (c.perform op).1 := by
  intro op
  have hsends := sends_applyResult { c with
    phase := .updateMsd startMs
    engine := (c.engine.tick startMs).2 } (c.engine.tick startMs).1
  obtain ⟨replies, hexchange, htells⟩ : ∃ replies, Exchange c.settings .tick replies ∧ _ :=
    TransferEngine.exchange_tick htail startMs
  have hoccasions : occasions c op = [.tick] := by simp only [op, occasions, hphase]
  have hreads : c.readsConfig = false := by
    rw [readsConfig, nextPacket_of_phase (by simp [hphase])]
  have hoffered : c.offered op = handedFrames (c.loop nowMs temperature).1 := by
    rw [offered, hreads]
    rfl
  have hfx : (c.perform op).1 = (c.loop nowMs temperature).1 := rfl
  rw [hoccasions, hoffered, hfx, hloop]
  have hspeaks := hsends.speaks_of_bytes hexchange htells
  exact ⟨hspeaks.converses, hspeaks.queued_eq⟩

/-- The part of the loop that handles a packet. -/
lemma loop_speaks_of_packet {startMs : UInt32} {handled : ℕ} {pkt : RxPacket}
    (htail : c.engine.hasTailSack = false) (hphase : c.phase = .receive startMs handled)
    (hnext : c.nextPacket = some pkt)
    (hcurrent : pkt.connectionGeneration = c.connectionGeneration) {nowMs : UInt32}
    {temperature : Int} (hloop : c.loop nowMs temperature = { c with
      rx := c.rx.pop.2, phase := .receive startMs (handled + 1) }.handlePacket pkt nowMs) :
    let op : ComponentOp ω := .loop nowMs temperature
    Speaks c (occasions c op) (c.offered op) (c.perform op).1 := by
  intro op
  have hoccasions : occasions c op =
      (pkt.frame.map fun f => Occasion.packet f.opcode).toList := by
    simp only [op, occasions, hphase, nextFrame, hnext, Option.bind_some, if_pos hcurrent]
  have hreads : c.readsConfig = c.answersConfig pkt := by simp [readsConfig, hnext, hcurrent]
  have hpacket := packet_speaks (ω := ω) (c := { c with
    rx := c.rx.pop.2, phase := .receive startMs (handled + 1) }) htail pkt nowMs
  rw [← hloop] at hpacket
  rw [hoccasions]
  have hoffered : c.offered op = if c.answersConfig pkt then
        (configChunks c.settings.configBlob).map fun r => (r, false)
      else handedFrames (c.loop nowMs temperature).1 := by
    rw [offered, hreads]
    rfl
  rw [hoffered]
  exact ⟨hpacket.converses, hpacket.queued_eq⟩

/-- **What a step says is in the protocol.** -/
lemma step_speaks (h : Settled c.engine) (op : ComponentOp ω) :
    Speaks c (occasions c op) (c.offered op) (c.perform op).1 := by
  cases op with
  | bleConnect | bleDisconnect | bleWrite | abort | world => exact speaks_nil c rfl
  | loop now temperature =>
      have hreads : c.nextPacket = none → c.readsConfig = false := by
        intro hnone
        rw [readsConfig, hnone]
      have hframe : c.nextPacket = none → c.nextFrame = none := by
        intro hnone
        rw [nextFrame, hnone, Option.bind_none]
      have hidle : c.nextPacket = none → (∀ startMs, c.phase ≠ .tick startMs) →
          handedFrames (c.loop now temperature).1 = [] →
          queuedFrames (c.loop now temperature).1 = [] → _ :=
        fun hnone hphase => loop_speaks_of_quiet (ω := ω) hphase (hframe hnone) (hreads hnone)
      have hother : ∀ {phase : LoopPhase}, c.phase = phase →
          (∀ startMs handled, phase ≠ .receive startMs handled) → c.nextPacket = none :=
        fun hphase h => nextPacket_of_phase fun startMs handled => hphase ▸ h startMs handled
      have ho := loop_outcome c now temperature
      generalize hloop : c.loop now temperature = done at ho hidle
      cases ho with
      | started hphase | idled hphase | updated _ hphase | draining hphase | notified _ hphase
      | drained _ hphase | unchanged hphase =>
          exact hidle (hother hphase (by simp)) (by simp [hphase]) rfl rfl
      | published hphase =>
          obtain ⟨hhanded, hqueued, -⟩ := publishState_rest { c with phase := .start }
          exact hidle (hother hphase (by simp)) (by simp [hphase]) hhanded hqueued
      | received _ _ hphase hnext => exact hidle hnext (by simp [hphase]) rfl rfl
      | stale startMs handled hphase pkt hnext hpop hstale =>
          have hdropped : c.nextFrame = none := by simp [nextFrame, hnext, hstale]
          have hkept : c.readsConfig = false := by simp [readsConfig, hnext, hstale]
          have hsilent := congrArg Prod.fst hloop
          exact loop_speaks_of_quiet (by simp [hphase]) hdropped hkept
            (congrArg handedFrames hsilent) (congrArg queuedFrames hsilent)
      | packet startMs handled hphase pkt hnext _ hcurrent =>
          exact loop_speaks_of_packet h.staged hphase hnext hcurrent hloop
      | ticked startMs hphase =>
          exact loop_speaks_of_tick h.staged hphase hloop

/-! ### Runs -/

/-- An occasion, and what the queue is offered on it. -/
structure Utterance where
  occasion : Occasion
  offers : List Offer

/-- The frames of an utterance say what may be said on its occasion. -/
def Utterance.Kept (settings : ComponentSettings) (u : Utterance) (replies : List Reply) : Prop :=
  Exchange settings u.occasion replies ∧ u.offers.map Offer.reply? = replies.map some

/-- The utterances of a step. -/
def utterances (c : OpenDisplayComponent β) (op : ComponentOp ω) : List Utterance :=
  (occasions c op).map fun occasion => ⟨occasion, c.offers op⟩

omit [OpenDisplayBackend β] [PanelWorld β ω] in
/-- A step is an occasion for one exchange at most. -/
lemma length_occasions_le (c : OpenDisplayComponent β) (op : ComponentOp ω) :
    (occasions c op).length ≤ 1 := by
  cases op with
  | bleConnect | bleDisconnect | bleWrite | abort | world => exact Nat.zero_le _
  | loop now temperature =>
      rw [occasions]
      split
      · exact le_rfl
      · exact Option.length_toList_le

omit [OpenDisplayBackend β] in
lemma wellFormed_exchanges {occasions : List Occasion} {exchanges : List (List Reply)}
    (h : List.Forall₂ (Exchange settings) occasions exchanges) :
    ∀ r ∈ exchanges.flatten, r.WellFormed := by
  induction h with
  | nil => exact List.forall_mem_nil _
  | cons hexchange _ ih =>
      intro r hr
      rcases List.mem_append.mp hr with hr | hr
      · exact hexchange.wellFormed r hr
      · exact ih r hr

/-- There is one utterance on each occasion. -/
lemma occasions_of_utterances (c : OpenDisplayComponent β) (ops : List (ComponentOp ω)) :
    (Machine.outputs step utterances c ops).map Utterance.occasion =
      Machine.outputs step occasions c ops := by
  rw [Machine.map_outputs]
  refine congrArg (fun out => Machine.outputs step out c ops) (funext fun c => funext fun op => ?_)
  rw [utterances, List.map_map]
  exact List.map_id _

/-- The utterance of a step is kept, and nothing else is offered. -/
lemma step_utterances (h : Settled c.engine) (op : ComponentOp ω) :
    (∃ exchanges, List.Forall₂ (Utterance.Kept c.settings) (c.utterances op) exchanges) ∧
      (c.utterances op).flatMap Utterance.offers = c.offers op := by
  obtain ⟨exchanges, hall, hbytes⟩ := (step_speaks h op).converses
  have hread : (c.offers op).map Offer.reply? = exchanges.flatten.map some := by
    have hsaid := congrArg (List.map readReply) hbytes
    rw [map_readReply_bytes (wellFormed_exchanges hall), ← c.tx.map_frame_offerAll, List.map_map,
      List.map_map] at hsaid
    exact hsaid
  have hone := length_occasions_le c op
  rw [utterances]
  generalize occasions c op = those at hall hone ⊢
  cases hall with
  | nil => exact ⟨⟨[], .nil⟩, (List.map_eq_nil_iff.mp hread).symm⟩
  | @cons occasion replies _ _ hexchange hrest =>
      obtain rfl := List.length_eq_zero_iff.mp (Nat.le_zero.mp (Nat.le_of_succ_le_succ hone))
      obtain rfl := List.forall₂_nil_left_iff.mp hrest
      rw [List.flatten_singleton] at hread
      exact ⟨⟨[replies], .cons ⟨hexchange, hread⟩ .nil⟩, List.flatMap_singleton _ _⟩

/-- In every run each utterance is kept, nothing else is offered, and the queue takes what it has
room for. -/
lemma run_utterances (h : Settled c.engine) (ops : List (ComponentOp ω)) :
    (∃ exchanges, List.Forall₂ (Utterance.Kept c.settings) (Machine.outputs step utterances c ops)
        exchanges) ∧
      (Machine.outputs step utterances c ops).flatMap Utterance.offers =
        Machine.outputs step offers c ops ∧
      Machine.outputs step stepQueued c ops = takenFrames (Machine.outputs step offers c ops) := by
  induction ops generalizing c with
  | nil => exact ⟨⟨[], .nil⟩, rfl, rfl⟩
  | cons op ops ih =>
      obtain ⟨⟨exchanges, hall⟩, hoffers⟩ := step_utterances h op
      obtain ⟨⟨rest, hrest⟩, hmore, hlater⟩ := ih (h.step op)
      have hqueued : stepQueued c op = takenFrames (c.offers op) :=
        (step_speaks h op).queued_eq.trans (c.tx.takenFrames_offerAll _).symm
      rw [settings_step] at hrest
      simp only [Machine.outputs_cons]
      refine ⟨⟨exchanges ++ rest, List.rel_append hall hrest⟩, ?_, ?_⟩
      · rw [List.flatMap_append, hoffers, hmore]
      · rw [takenFrames_append, hqueued, hlater]

omit [OpenDisplayBackend β] in
/-- The client would read the frames of the utterances as the exchanges, one after another. -/
lemma reply?_of_kept {all : List Utterance} {exchanges : List (List Reply)}
    (h : List.Forall₂ (Utterance.Kept settings) all exchanges) :
    (all.flatMap Utterance.offers).map Offer.reply? = exchanges.flatten.map some := by
  induction h with
  | nil => rfl
  | cons hkept _ ih =>
      rw [List.flatMap_cons, List.flatten_cons, List.map_append, List.map_append, hkept.2, ih]

lemma map_frame_offers (c : OpenDisplayComponent β) (op : ComponentOp ω) :
    (c.offers op).map Offer.frame = offeredFrames c op := by
  rw [offers, TxQueue.map_frame_offerAll]
  cases op with
  | bleConnect | bleDisconnect | bleWrite | abort | world => rfl
  | loop now temperature =>
      rw [offered, offeredFrames]
      split_ifs
      · have hle := c.settings.configBlob_le
        have hmax : configBlobMax = 160 := rfl
        exact nonEmptyFrames_normal (configChunks_nonempty (by omega))
      · rfl

/-- Of a client that paces itself the queue takes every frame. -/
lemma offers_taken (hsettled : Settled c.engine) (hload : c.load ≤ txOpenSlots)
    {ops : List (ComponentOp ω)} (hpaced : Machine.AllSteps step Paced c ops) :
    takenFrames (Machine.outputs step offers c ops) =
      (Machine.outputs step offers c ops).map Offer.frame := by
  have hqueued := (paced_client_served hsettled hload hpaced).2.1
  rw [← (run_utterances hsettled ops).2.2, hqueued, Machine.map_outputs]
  exact congrArg (fun out => Machine.outputs step out c ops)
    (funext fun c => funext fun op => (map_frame_offers c op).symm)

/-- **The component keeps to the protocol.**  In every run there is one utterance for each packet
that is handled and each tick, the frames it offers to the queue are an exchange of the protocol,
and nothing else is offered.  What the queue takes of it has been notified or waits, in its order,
so that the client misses just what the queue refuses, and nothing if it writes only when there
is room. -/
theorem keeps_protocol (b : β) (settings : ComponentSettings) (temperature : Int)
    (ops : List (ComponentOp ω)) :
    let c := (setup b settings temperature).2
    let all := Machine.outputs step utterances c ops
    ∃ (exchanges : List (List Reply)) (heard : List Reply),
      all.map Utterance.occasion = Machine.outputs step occasions c ops ∧
      List.Forall₂ (Utterance.Kept settings) all exchanges ∧
      Machine.outputs step stepNotified c ops ++ (Machine.exec step c ops).tx.toList =
        takenFrames (all.flatMap Utterance.offers) ∧
      (Machine.outputs step stepNotified c ops).map (fun r => readReply r.bytes) =
        heard.map some ∧
      heard.Sublist exchanges.flatten ∧
      (Machine.AllSteps step Paced c ops →
        (∀ o ∈ all.flatMap Utterance.offers, o.taken = true) ∧ heard <+: exchanges.flatten) := by
  intro c all
  obtain ⟨hengine, hrx, htx, -⟩ := setup_fresh b settings temperature
  have hsettings : (setup b settings temperature).2.settings = settings := by
    rw [setup, (publishState_rest _).2.2.2.2, updateMsd_rest]
  have hsettled := settled_setup b settings temperature
  obtain ⟨⟨exchanges, hall⟩, hoffers, hqueued⟩ := run_utterances hsettled ops
  rw [hsettings] at hall
  have hsent : Machine.outputs step stepNotified c ops ++ (Machine.exec step c ops).tx.toList =
      c.tx.toList ++ Machine.outputs step stepQueued c ops :=
    Machine.outputs_conserve (fun c => c.tx.toList) conserves_perform c ops
  rw [htx, TxQueue.toList_init, List.nil_append, hqueued, ← hoffers] at hsent
  -- what the client reads is the beginning of what it could read of the frames that are taken
  have hread : (Machine.outputs step stepNotified c ops).map (fun r => readReply r.bytes) <+:
      ((all.flatMap Utterance.offers).filter Offer.taken).map Offer.reply? := by
    have hprefix := List.IsPrefix.map (fun r => readReply r.bytes) ⟨_, hsent⟩
    rwa [takenFrames, List.map_map] at hprefix
  have hreplies := reply?_of_kept hall
  obtain ⟨heard, hheard, hsame⟩ := List.sublist_map_iff.mp
    (hreplies ▸ hread.sublist.trans (List.filter_sublist.map Offer.reply?))
  refine ⟨exchanges, heard, ?_, hall, hsent, hsame, hheard, fun hpaced => ?_⟩
  · exact occasions_of_utterances c ops
  have hempty : (setup b settings temperature).2.load = 0 := by
    rw [load, hengine, hrx, htx]
    rfl
  have htaken : ∀ o ∈ all.flatMap Utterance.offers, o.taken = true := by
    rw [hoffers]
    exact taken_of_takenFrames (offers_taken hsettled (by omega) hpaced)
  refine ⟨htaken, ?_⟩
  rw [List.filter_eq_self.mpr htaken, hreplies, hsame] at hread
  obtain ⟨first, hfirst, hheard⟩ := List.prefix_map_iff.mp hread
  rwa [List.map_injective_iff.mpr (Option.some_injective _) hheard]

/-- Four reads of the config, and four more: the client hears of two chunks each time. -/
theorem keeps_protocol_fourReads :
    let settings := defaultSettings.withConfig readablePanel.caps 2
    let all := Machine.outputs step utterances readable fourReads
    ∃ (exchanges : List (List Reply)) (heard : List Reply),
      List.Forall₂ (Utterance.Kept settings) all exchanges ∧
      (∀ o ∈ all.flatMap Utterance.offers, o.taken = true) ∧
      (Machine.outputs step stepNotified readable fourReads).map (fun r => readReply r.bytes) =
        heard.map some ∧
      heard <+: exchanges.flatten ∧ heard.length = 16 := by
  intro settings all
  obtain ⟨exchanges, heard, -, hall, -, hread, -, hpaced⟩ :=
    keeps_protocol readablePanel settings 80 fourReads
  obtain ⟨htaken, hheard⟩ := hpaced (by decide +kernel)
  refine ⟨exchanges, heard, hall, htaken, hread, hheard, ?_⟩
  have hcount : (Machine.outputs step stepNotified readable fourReads).length = 16 := by
    decide +kernel
  have hlength := congrArg List.length hread
  rw [List.length_map, List.length_map] at hlength
  exact hlength.symm.trans hcount

end OpenDisplayComponent

end OpenDisplay
