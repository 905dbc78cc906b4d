import Mathlib.Logic.Function.Basic
import RtmpClient.Rtmp.Reassembly

namespace RtmpClient
namespace Rtmp

open Library

/-!
# The receiver over whole runs

`Sound` is the invariant of the transport: each chunk stream holds a partial
message that is not complete, and the receive chunk size never drops below its
default.  `CallEffect` lists what one call can do to such a transport, so that
no later result opens the receive path again.
-/

/-- A completed message is handled without touching memory outside its body. -/
theorem onRecvMessage_ok {msg : RtmpMessage} (length : msg.rtmpBody.length = msg.rtmpBodyLen.toNat)
    (small : msg.rtmpBodyLen.toNat < 2 ^ 31) (transport : RtmpMessageTransport) :
    Exists fun after => onRecvMessage transport msg = .ok after := by
  have len : asInt msg.rtmpBodyLen = msg.rtmpBody.length := by
    rw [asInt_of_lt small, length]
  have word : ¬ (msg.rtmpBody.length : Int) < 4 ->
      Exists fun value => Net.readInt32 msg.rtmpBody 0 = .ok value := by
    intro long
    refine ⟨(UInt32.ofNat (beValue ((msg.rtmpBody.drop 0).take 4))).toInt32, ?_⟩
    simp only [Net.readInt32, Net.readUint32, Net.rawioNetdata,
      Outcome.slice_of_le (show 0 + 4 ≤ msg.rtmpBody.length by omega), Outcome.ok_bind_do, Outcome.pure_eq]
  unfold onRecvMessage
  by_cases setChunkSize : msg.rtmpHeader.msgTypeId = rtmpMsgSetChunkSize
  · simp only [setChunkSize, if_true, RtmpSetChunkSizePacket.decode, len]
    by_cases short : (msg.rtmpBody.length : Int) < 4
    · simp only [short, if_true]
      exact ⟨transport, rfl⟩
    · rcases word short with ⟨value, read⟩
      simp only [short, if_false, read, Outcome.ok_bind_do, Outcome.pure_eq]
      split
      · exact ⟨_, rfl⟩
      · exact ⟨_, rfl⟩
  · rw [if_neg setChunkSize]
    by_cases userControl : msg.rtmpHeader.msgTypeId = rtmpMsgUserControlMessage
    · simp only [userControl, if_true, RtmpUserControlPacket.decode]
      split
      · exact ⟨_, rfl⟩
      · exact ⟨_, rfl⟩
    · rw [if_neg userControl]
      by_cases windowAck : msg.rtmpHeader.msgTypeId = rtmpMsgWindowAcknowledgementSize
      · simp only [windowAck, if_true, RtmpSetWindowAckSizePacket.decode, len]
        by_cases short : (msg.rtmpBody.length : Int) < 4
        · simp only [short, if_true]
          exact ⟨transport, rfl⟩
        · rcases word short with ⟨value, read⟩
          simp only [short, if_false, read, Outcome.ok_bind_do, Outcome.pure_eq]
          split
          · exact ⟨_, rfl⟩
          · exact ⟨_, rfl⟩
      · rw [if_neg windowAck]
        exact ⟨transport, rfl⟩

/-- The invariant of the receiver. -/
structure Sound (transport : RtmpMessageTransport) (assemblies : UInt32 -> Assembly UInt8) : Prop where
  chunkSize_le : 128 ≤ transport.inChunkSize.toNat
  holds : forall csId, Holds (transport.chunkCache csId) (assemblies csId)
  unfinished : forall csId, (assemblies csId).received.length ≠ 0 -> ¬ (assemblies csId).Full

theorem Sound.new (stale : UInt32 -> UInt32) :
    Sound (RtmpMessageTransport.new stale) (fun _ => Assembly.start 0) where
  chunkSize_le := Nat.le_refl 128
  holds := fun csId => Holds.new (stale csId)
  unfinished := fun _ started => absurd rfl started

/-- Storing one chunk keeps the invariant if the chunk holds a message that is
not complete. -/
theorem Sound.setChunk {transport : RtmpMessageTransport} {assemblies : UInt32 -> Assembly UInt8}
    (sound : Sound transport assemblies) (csId : UInt32) {chunk : RtmpChunkData}
    {assembly : Assembly UInt8} (holds : Holds chunk assembly)
    (unfinished : assembly.received.length ≠ 0 -> ¬ assembly.Full) :
    Sound (transport.setChunk csId chunk) (Function.update assemblies csId assembly) where
  chunkSize_le := sound.chunkSize_le
  holds := by
    intro other
    by_cases same : other = csId
    · rw [same, RtmpMessageTransport.setChunk_same, Function.update_self]
      exact holds
    · rw [RtmpMessageTransport.setChunk_other _ _ same, Function.update_of_ne same]
      exact sound.holds other
  unfinished := by
    intro other
    by_cases same : other = csId
    · rw [same, Function.update_self]
      exact unfinished
    · rw [Function.update_of_ne same]
      exact sound.unfinished other

/-- A later store on the same stream hides what the settings changed around. -/
theorem SettingsOnly.setChunk {transport after : RtmpMessageTransport} {csId : UInt32} {first : RtmpChunkData}
    (settings : SettingsOnly (transport.setChunk csId first) after) (second : RtmpChunkData) :
    SettingsOnly (transport.setChunk csId second) (after.setChunk csId second) where
  requestsMap_eq := settings.requestsMap_eq
  chunkCache_eq := by
    funext other
    by_cases same : other = csId
    · rw [same, RtmpMessageTransport.setChunk_same, RtmpMessageTransport.setChunk_same]
    · rw [RtmpMessageTransport.setChunk_other _ _ same, RtmpMessageTransport.setChunk_other _ _ same,
        settings.chunkCache_eq, RtmpMessageTransport.setChunk_other _ _ same]
  outChunkSize_eq := settings.outChunkSize_eq
  inChunkSize_eq := settings.inChunkSize_eq

theorem Sound.settings {before after : RtmpMessageTransport} {assemblies : UInt32 -> Assembly UInt8}
    (sound : Sound before assemblies) (settings : SettingsOnly before after) : Sound after assemblies where
  chunkSize_le := by
    rcases settings.inChunkSize_eq with same | large
    · rw [same]
      exact sound.chunkSize_le
    · exact large
  holds := by
    intro csId
    rw [settings.chunkCache_eq]
    exact sound.holds csId
  unfinished := sound.unfinished

/-- The partial message of a stream once the header is taken. -/
def announced (assemblies : UInt32 -> Assembly UInt8) (header : RtmpHeader) : Assembly UInt8 :=
  (assemblies header.chunkStreamId).announce header.msgLength.toNat

/-- The header agrees with the message that has started on its stream. -/
def Agrees (assemblies : UInt32 -> Assembly UInt8) (header : RtmpHeader) : Prop :=
  (assemblies header.chunkStreamId).received.length ≠ 0 ->
    header.msgLength.toNat = (assemblies header.chunkStreamId).total

/-- The number of bytes that a chunk occupies behind its header. -/
def bodyLength (inChunkSize : UInt32) (assemblies : UInt32 -> Assembly UInt8) (header : RtmpHeader) : Nat :=
  fieldLength header.timestamp + (announced assemblies header).pieceLength inChunkSize.toNat

/-- The partial message once the chunk is taken; `body` starts behind the header. -/
def taken (inChunkSize : UInt32) (assemblies : UInt32 -> Assembly UInt8) (header : RtmpHeader)
    (body : List UInt8) : Assembly UInt8 :=
  (announced assemblies header).feed inChunkSize.toNat (body.drop (fieldLength header.timestamp))

/-- The chunk stream once the chunk is taken. -/
def takenChunk (transport : RtmpMessageTransport) (assemblies : UInt32 -> Assembly UInt8)
    (header : RtmpHeader) (body : List UInt8) : RtmpChunkData :=
  ((withHeader header (transport.chunkCache header.chunkStreamId)).timed body).store
    (taken transport.inChunkSize assemblies header body)

/-- The five things a call of `recvRtmpMessage` can do, with the partial
messages it leaves. -/
inductive CallEffect (transport : RtmpMessageTransport) (assemblies : UInt32 -> Assembly UInt8)
    (data : List UInt8) : RecvResult -> (UInt32 -> Assembly UInt8) -> Prop where
  | noHeader (incomplete : RtmpHeader.decode data = .error (-1)) :
      CallEffect transport assemblies data { ret := -1, transport, message := none } assemblies
  | refused {offset : Nat} {header : RtmpHeader} (decoded : RtmpHeader.decode data = .ok (offset, header))
      (disagrees : ¬ Agrees assemblies header) :
      CallEffect transport assemblies data
        { ret := -2
          transport := transport.setChunk header.chunkStreamId
            (withHeader header (transport.chunkCache header.chunkStreamId))
          message := none }
        assemblies
  | short {offset : Nat} {header : RtmpHeader} (decoded : RtmpHeader.decode data = .ok (offset, header))
      (agrees : Agrees assemblies header)
      (incomplete : (data.drop offset).length < bodyLength transport.inChunkSize assemblies header)
      (timestamp : UInt32) :
      CallEffect transport assemblies data
        { ret := -1
          transport := transport.setChunk header.chunkStreamId
            ((withHeader header (transport.chunkCache header.chunkStreamId)).setTimestamp timestamp)
          message := none }
        (Function.update assemblies header.chunkStreamId (announced assemblies header))
  | partly {offset : Nat} {header : RtmpHeader} (decoded : RtmpHeader.decode data = .ok (offset, header))
      (agrees : Agrees assemblies header)
      (enough : bodyLength transport.inChunkSize assemblies header ≤ (data.drop offset).length)
      (unfinished : ¬ (taken transport.inChunkSize assemblies header (data.drop offset)).Full) :
      CallEffect transport assemblies data
        { ret := (offset + bodyLength transport.inChunkSize assemblies header : Nat)
          transport := transport.setChunk header.chunkStreamId
            (takenChunk transport assemblies header (data.drop offset))
          message := none }
        (Function.update assemblies header.chunkStreamId
          (taken transport.inChunkSize assemblies header (data.drop offset)))
  | completed {offset : Nat} {header : RtmpHeader} (decoded : RtmpHeader.decode data = .ok (offset, header))
      (agrees : Agrees assemblies header)
      (enough : bodyLength transport.inChunkSize assemblies header ≤ (data.drop offset).length)
      (full : (taken transport.inChunkSize assemblies header (data.drop offset)).Full)
      (after : RtmpMessageTransport)
      (handled : onRecvMessage
          (transport.setChunk header.chunkStreamId
            (takenChunk transport assemblies header (data.drop offset)))
          (takenChunk transport assemblies header (data.drop offset)).createMsg = .ok after) :
      CallEffect transport assemblies data
        { ret := (offset + bodyLength transport.inChunkSize assemblies header : Nat)
          transport := after.setChunk header.chunkStreamId
            (takenChunk transport assemblies header (data.drop offset)).reset
          message := some (takenChunk transport assemblies header (data.drop offset)).createMsg }
        (Function.update assemblies header.chunkStreamId
          (Assembly.start (taken transport.inChunkSize assemblies header (data.drop offset)).total))

/-- The chunk stream once the chunk is taken holds the grown message. -/
theorem takenChunk_holds {transport : RtmpMessageTransport} {assemblies : UInt32 -> Assembly UInt8}
    {header : RtmpHeader}
    (holds : Holds (withHeader header (transport.chunkCache header.chunkStreamId))
      (announced assemblies header)) (body : List UInt8) :
    Holds (takenChunk transport assemblies header body)
      (taken transport.inChunkSize assemblies header body) :=
  (holds.setTimestamp _).store rfl

/-- A full chunk stream hands over a message of exactly the announced length. -/
theorem createMsg_length {chunk : RtmpChunkData} {assembly : Assembly UInt8}
    (holds : Holds (chunk.store assembly) assembly) (full : assembly.Full) :
    (chunk.store assembly).createMsg.rtmpBody.length = (chunk.store assembly).createMsg.rtmpBodyLen.toNat := by
  have bodyLen : (chunk.store assembly).createMsg.rtmpBodyLen.toNat = assembly.total := holds.total_eq
  rw [bodyLen]
  exact full

theorem withHeader_timeDelta {header : RtmpHeader} (fmt0 : header.chunkType = rtmpChunkFmt0Type)
    (chunk : RtmpChunkData) : (withHeader header chunk).timeDelta = header.timestamp := by
  have fmt2 : header.chunkType ≤ rtmpChunkFmt2Type := by
    rw [fmt0]
    decide
  exact if_pos fmt2

section ChunkPart

variable {transport : RtmpMessageTransport} {assemblies : UInt32 -> Assembly UInt8} {header : RtmpHeader}

/-- An accepted chunk that is not all there leaves its header and some timestamp. -/
theorem recvChunk_short (fmt0 : header.chunkType = rtmpChunkFmt0Type)
    (accepted : ¬ lengthRefused header (transport.chunkCache header.chunkStreamId))
    (opened : Holds (withHeader header (transport.chunkCache header.chunkStreamId))
      (announced assemblies header)) {body : List UInt8}
    (incomplete : body.length < bodyLength transport.inChunkSize assemblies header) :
    Exists fun timestamp =>
      recvChunk transport.inChunkSize header (transport.chunkCache header.chunkStreamId) body = some
        { ret := -1
          chunk := (withHeader header (transport.chunkCache header.chunkStreamId)).setTimestamp timestamp
          finish := false } := by
  rw [recvChunk_eq, if_neg accepted, recvBody_holds opened, withHeader_timeDelta fmt0]
  by_cases noField : body.length < fieldLength header.timestamp
  · rw [if_pos noField]
    exact ⟨_, rfl⟩
  · rw [bodyLength] at incomplete
    rw [if_neg noField, if_pos incomplete]
    exact ⟨_, rfl⟩

/-- An accepted chunk that is all there is taken. -/
theorem recvChunk_taken (fmt0 : header.chunkType = rtmpChunkFmt0Type)
    (accepted : ¬ lengthRefused header (transport.chunkCache header.chunkStreamId))
    (opened : Holds (withHeader header (transport.chunkCache header.chunkStreamId))
      (announced assemblies header)) {body : List UInt8}
    (enough : bodyLength transport.inChunkSize assemblies header ≤ body.length) :
    recvChunk transport.inChunkSize header (transport.chunkCache header.chunkStreamId) body = some
      { ret := (bodyLength transport.inChunkSize assemblies header : Nat)
        chunk := takenChunk transport assemblies header body
        finish := decide (taken transport.inChunkSize assemblies header body).Full } := by
  have field : ¬ body.length < fieldLength header.timestamp :=
    Nat.not_lt.mpr (Nat.le_trans (Nat.le_add_right _ _) enough)
  have all := Nat.not_lt.mpr enough
  rw [bodyLength] at all
  rw [recvChunk_eq, if_neg accepted, recvBody_holds opened, withHeader_timeDelta fmt0, if_neg field,
    if_neg all]
  rfl

/-- A chunk that completes its message is handed over without a fault. -/
theorem takenChunk_handled
    (opened : Holds (withHeader header (transport.chunkCache header.chunkStreamId))
      (announced assemblies header)) {body : List UInt8}
    (full : (taken transport.inChunkSize assemblies header body).Full) :
    Exists fun after =>
      onRecvMessage
        (transport.setChunk header.chunkStreamId (takenChunk transport assemblies header body))
        (takenChunk transport assemblies header body).createMsg = .ok after := by
  have stored := takenChunk_holds opened body
  have bodyLen : (takenChunk transport assemblies header body).createMsg.rtmpBodyLen.toNat =
      (taken transport.inChunkSize assemblies header body).total := stored.total_eq
  have small : (takenChunk transport assemblies header body).createMsg.rtmpBodyLen.toNat < 2 ^ 31 := by
    rw [bodyLen]
    exact Nat.lt_trans stored.total_lt (by decide)
  exact onRecvMessage_ok (createMsg_length stored full) small _

end ChunkPart

/-- The three things the chunk part of a call can do. -/
inductive ChunkEffect (transport : RtmpMessageTransport) (assemblies : UInt32 -> Assembly UInt8)
    (header : RtmpHeader) (body : List UInt8) : ChunkResult -> Prop where
  | refused (disagrees : ¬ Agrees assemblies header)
      (kept : Holds (withHeader header (transport.chunkCache header.chunkStreamId))
        (assemblies header.chunkStreamId)) :
      ChunkEffect transport assemblies header body
        { ret := -2
          chunk := withHeader header (transport.chunkCache header.chunkStreamId)
          finish := false }
  | short (agrees : Agrees assemblies header)
      (opened : Holds (withHeader header (transport.chunkCache header.chunkStreamId))
        (announced assemblies header))
      (incomplete : body.length < bodyLength transport.inChunkSize assemblies header) (timestamp : UInt32) :
      ChunkEffect transport assemblies header body
        { ret := -1
          chunk := (withHeader header (transport.chunkCache header.chunkStreamId)).setTimestamp timestamp
          finish := false }
  | taken (agrees : Agrees assemblies header)
      (opened : Holds (withHeader header (transport.chunkCache header.chunkStreamId))
        (announced assemblies header))
      (enough : bodyLength transport.inChunkSize assemblies header ≤ body.length) :
      ChunkEffect transport assemblies header body
        { ret := (bodyLength transport.inChunkSize assemblies header : Nat)
          chunk := takenChunk transport assemblies header body
          finish := decide (taken transport.inChunkSize assemblies header body).Full }

theorem recvChunk_effect {transport : RtmpMessageTransport} {assemblies : UInt32 -> Assembly UInt8}
    (sound : Sound transport assemblies) {header : RtmpHeader}
    (fmt0 : header.chunkType = rtmpChunkFmt0Type) (small : header.msgLength.toNat < 2 ^ 24)
    (body : List UInt8) :
    Exists fun chunkResult =>
      recvChunk transport.inChunkSize header (transport.chunkCache header.chunkStreamId) body =
        some chunkResult ∧
      ChunkEffect transport assemblies header body chunkResult := by
  have old := sound.holds header.chunkStreamId
  by_cases refused : lengthRefused header (transport.chunkCache header.chunkStreamId)
  · have disagrees : ¬ Agrees assemblies header := by
      intro agrees
      have changed := (old.refused_iff fmt0).mp refused
      exact changed.2 (agrees changed.1)
    rw [recvChunk_eq, if_pos refused]
    exact ⟨_, rfl, ChunkEffect.refused disagrees (old.withHeader_refused refused)⟩
  · have agrees : Agrees assemblies header := by
      intro started
      by_contra changed
      exact refused ((old.refused_iff fmt0).mpr ⟨started, changed⟩)
    have opened : Holds (withHeader header (transport.chunkCache header.chunkStreamId))
        (announced assemblies header) := old.withHeader fmt0 refused small
    by_cases incomplete : body.length < bodyLength transport.inChunkSize assemblies header
    · rcases recvChunk_short fmt0 refused opened incomplete with ⟨timestamp, found⟩
      exact ⟨_, found, ChunkEffect.short agrees opened incomplete timestamp⟩
    · have enough := Nat.le_of_not_lt incomplete
      exact ⟨_, recvChunk_taken fmt0 refused opened enough, ChunkEffect.taken agrees opened enough⟩

/-- Taking a header never makes an unfinished message complete. -/
theorem announced_unfinished {transport : RtmpMessageTransport} {assemblies : UInt32 -> Assembly UInt8}
    (sound : Sound transport assemblies) (header : RtmpHeader)
    (started : (announced assemblies header).received.length ≠ 0) : ¬ (announced assemblies header).Full := by
  by_cases idle : (assemblies header.chunkStreamId).received.length = 0
  · rw [announced, Assembly.announce_idle idle] at started
    exact absurd rfl started
  · rw [announced, Assembly.announce_started idle]
    exact sound.unfinished header.chunkStreamId idle

/-- Every call on a sound transport and a non-empty buffer is one of the five
effects and leaves a sound transport. -/
theorem recvUndecoded_effect {transport : RtmpMessageTransport} {assemblies : UInt32 -> Assembly UInt8}
    (sound : Sound transport assemblies) {data : List UInt8} (nonempty : data ≠ []) :
    Exists fun result => Exists fun after =>
      recvUndecoded transport data = some result ∧
      CallEffect transport assemblies data result after ∧ Sound result.transport after := by
  unfold recvUndecoded
  cases decoded : RtmpHeader.decode data with
  | fault => exact absurd decoded (RtmpHeader.decode_ne_fault nonempty)
  | error code =>
      have incomplete := RtmpHeader.decode_error decoded
      subst incomplete
      exact ⟨_, _, rfl, CallEffect.noHeader decoded, sound⟩
  | ok value =>
      rcases value with ⟨offset, header⟩
      have facts := RtmpHeader.decoded_of_decode decoded
      rcases recvChunk_effect sound facts.chunkType_eq facts.msgLength_lt (data.drop offset) with
        ⟨chunkResult, found, effect⟩
      simp only [recvAfterDecode, found, Option.bind_some]
      cases effect with
      | refused disagrees kept =>
          have stored := sound.setChunk header.chunkStreamId kept (sound.unfinished header.chunkStreamId)
          rw [Function.update_eq_self] at stored
          exact ⟨_, assemblies, rfl, CallEffect.refused decoded disagrees, stored⟩
      | short agrees opened incomplete timestamp =>
          exact ⟨_, _, rfl, CallEffect.short decoded agrees incomplete timestamp,
            sound.setChunk header.chunkStreamId (opened.setTimestamp timestamp)
              (announced_unfinished sound header)⟩
      | taken agrees opened enough =>
          have stored := takenChunk_holds opened (data.drop offset)
          have positive : ¬ ((bodyLength transport.inChunkSize assemblies header : Nat) : Int) < 0 :=
            Int.not_lt.mpr (Int.natCast_nonneg _)
          by_cases full : (taken transport.inChunkSize assemblies header (data.drop offset)).Full
          · rcases takenChunk_handled opened full with ⟨after, handled⟩
            have waiting := sound.setChunk header.chunkStreamId stored.reset
              (fun started => absurd rfl started)
            refine ⟨_, _, ?_, CallEffect.completed decoded agrees enough full after handled,
              waiting.settings ((onRecvMessage_settings handled).setChunk _)⟩
            simp only [finishRecv, positive, if_false, full, decide_true, if_true, handled]
            rfl
          · refine ⟨_, _, ?_, CallEffect.partly decoded agrees enough full,
              sound.setChunk header.chunkStreamId stored (fun _ => full)⟩
            simp only [finishRecv, positive, if_false, full, decide_false, Bool.false_eq_true]
            rfl

/-- A call succeeds exactly if a whole chunk stands at the front that does not
contradict the message its stream has started. -/
theorem recvUndecoded_succeeds_iff {transport : RtmpMessageTransport}
    {assemblies : UInt32 -> Assembly UInt8} (sound : Sound transport assemblies) (data : List UInt8) :
    (Exists fun result => recvUndecoded transport data = some result ∧ 0 ≤ result.ret) ↔
      Exists fun offset => Exists fun header => RtmpHeader.decode data = .ok (offset, header) ∧
        Agrees assemblies header ∧
        bodyLength transport.inChunkSize assemblies header ≤ (data.drop offset).length := by
  by_cases empty : data = []
  · subst empty
    constructor
    · rintro ⟨result, call, _⟩
      cases call
    · rintro ⟨offset, header, decoded, _⟩
      cases decoded
  · rcases recvUndecoded_effect sound empty with ⟨result, after, call, effect, _⟩
    have minusOne : ¬ (0 : Int) ≤ -1 := by decide
    have minusTwo : ¬ (0 : Int) ≤ -2 := by decide
    have same : forall {offset offset' : Nat} {header header' : RtmpHeader},
        RtmpHeader.decode data = .ok (offset, header) -> RtmpHeader.decode data = .ok (offset', header') ->
          offset = offset' ∧ header = header' := by
      intro offset offset' header header' decoded decodedToo
      rw [decoded, Outcome.ok.injEq, Prod.mk.injEq] at decodedToo
      exact decodedToo
    constructor
    · rintro ⟨found, callToo, success⟩
      rw [call, Option.some.injEq] at callToo
      subst callToo
      cases effect with
      | noHeader _ => exact absurd success minusOne
      | refused _ _ => exact absurd success minusTwo
      | short _ _ _ _ => exact absurd success minusOne
      | partly decoded agrees enough _ => exact ⟨_, _, decoded, agrees, enough⟩
      | completed decoded agrees enough _ _ _ => exact ⟨_, _, decoded, agrees, enough⟩
    · rintro ⟨offset, header, decoded, agrees, enough⟩
      refine ⟨result, call, ?_⟩
      cases effect with
      | noHeader incomplete =>
          rw [incomplete] at decoded
          cases decoded
      | refused decodedToo disagrees =>
          rcases same decoded decodedToo with ⟨rfl, rfl⟩
          exact absurd agrees disagrees
      | short decodedToo _ incomplete _ =>
          rcases same decoded decodedToo with ⟨rfl, rfl⟩
          exact absurd enough (Nat.not_le.mpr incomplete)
      | partly _ _ _ _ => exact Int.natCast_nonneg _
      | completed _ _ _ _ _ _ => exact Int.natCast_nonneg _

/-! ## Reachable transports -/

/-- The transports of a running client: fresh, after a received call on a
non-empty buffer, or after a sent message. -/
inductive Reachable : RtmpMessageTransport -> Prop where
  | new (stale : UInt32 -> UInt32) : Reachable (RtmpMessageTransport.new stale)
  | received {transport : RtmpMessageTransport} {data : List UInt8} {result : RecvResult}
      (before : Reachable transport) (nonempty : data ≠ [])
      (call : recvUndecoded transport data = some result) : Reachable result.transport
  | sent {transport after : RtmpMessageTransport} {pkg : RtmpBasePacket} {streamid : UInt32}
      {ops : List CacheOp} (before : Reachable transport)
      (call : sendRtmpMessage transport pkg streamid = some (ops, after)) : Reachable after

/-- Sending leaves the receive side alone. -/
theorem onSendMessage_receive (transport : RtmpMessageTransport) (pkg : RtmpBasePacket) :
    (onSendMessage transport pkg).inChunkSize = transport.inChunkSize ∧
      (onSendMessage transport pkg).chunkCache = transport.chunkCache := by
  unfold onSendMessage
  split
  · split <;> exact ⟨rfl, rfl⟩
  · split
    · split <;> exact ⟨rfl, rfl⟩
    · split
      · split <;> exact ⟨rfl, rfl⟩
      · exact ⟨rfl, rfl⟩

theorem sendRtmpMessage_receive {transport after : RtmpMessageTransport} {pkg : RtmpBasePacket}
    {streamid : UInt32} {ops : List CacheOp}
    (call : sendRtmpMessage transport pkg streamid = some (ops, after)) :
    after.inChunkSize = transport.inChunkSize ∧ after.chunkCache = transport.chunkCache := by
  unfold sendRtmpMessage at call
  cases payload : pkg.payload with
  | none =>
      simp only [payload, Option.some.injEq, Prod.mk.injEq] at call
      rw [← call.2]
      exact ⟨rfl, rfl⟩
  | some bytes =>
      simp only [payload, Option.map_eq_some_iff, Prod.mk.injEq] at call
      rcases call with ⟨sent, _, _, same⟩
      rw [← same]
      exact onSendMessage_receive transport pkg

theorem Sound.sent {transport after : RtmpMessageTransport} {assemblies : UInt32 -> Assembly UInt8}
    (sound : Sound transport assemblies) (sameSize : after.inChunkSize = transport.inChunkSize)
    (sameCache : after.chunkCache = transport.chunkCache) : Sound after assemblies where
  chunkSize_le := by
    rw [sameSize]
    exact sound.chunkSize_le
  holds := by
    intro csId
    rw [sameCache]
    exact sound.holds csId
  unfinished := sound.unfinished

theorem sound_of_reachable {transport : RtmpMessageTransport} (reached : Reachable transport) :
    Exists fun assemblies => Sound transport assemblies := by
  induction reached with
  | new stale => exact ⟨_, Sound.new stale⟩
  | received before nonempty call inductionHypothesis =>
      rcases inductionHypothesis with ⟨assemblies, sound⟩
      rcases recvUndecoded_effect sound nonempty with ⟨result, after, found, _, soundAfter⟩
      rw [found, Option.some.injEq] at call
      rw [← call]
      exact ⟨after, soundAfter⟩
  | sent before call inductionHypothesis =>
      rcases inductionHypothesis with ⟨assemblies, sound⟩
      rcases sendRtmpMessage_receive call with ⟨sameSize, sameCache⟩
      exact ⟨assemblies, sound.sent sameSize sameCache⟩

/-- The counters and the block of a chunk stream fit each other. -/
def BlockFits (chunk : RtmpChunkData) : Prop :=
  chunk.currentPayloadLen.toNat ≤ chunk.h.msgLength.toNat ∧
    (chunk.currentPayloadLen ≠ 0 ->
      Exists fun block => chunk.payload = some block ∧ block.size = chunk.h.msgLength.toNat)

theorem Holds.blockFits {chunk : RtmpChunkData} {assembly : Assembly UInt8} (holds : Holds chunk assembly) :
    BlockFits chunk := by
  constructor
  · rw [holds.length_eq, holds.total_eq]
    exact assembly.fits
  · intro started
    have filled : assembly.received.length ≠ 0 := fun idle => started (holds.idle_iff.mpr idle)
    exact ⟨_, holds.payload_eq filled, holds.total_eq.symm⟩

/-- What one chunk of a call does, seen before the hand-over: the length left
is not negative when it is computed, the block has exactly the message length
and holds what was counted, and the call delivers a message exactly when the
block is full. -/
structure ChunkStep (header : RtmpHeader) (chunk : RtmpChunkData) (chunkResult : ChunkResult)
    (result : RecvResult) : Prop where
  no_underflow : (applyHeader header chunk).1 = true ->
    (applyHeader header chunk).2.currentPayloadLen.toNat ≤ (applyHeader header chunk).2.h.msgLength.toNat
  stored : 0 ≤ chunkResult.ret -> Exists fun block =>
    chunkResult.chunk.payload = some block ∧
    block.size = chunkResult.chunk.h.msgLength.toNat ∧
    block.bytes.length = chunkResult.chunk.currentPayloadLen.toNat ∧
    (result.message.isSome = true ↔ block.bytes.length = block.size)
  failed : chunkResult.ret < 0 -> result.message = none

/-- A call delivers a message exactly when its chunk part finished. -/
theorem FinishedCall.message_isSome {transport : RtmpMessageTransport} {csId : UInt32} {offset : Nat}
    {chunkResult : ChunkResult} {result : RecvResult}
    (finished : FinishedCall transport csId offset chunkResult result) (positive : 0 ≤ chunkResult.ret) :
    result.message.isSome = true ↔ chunkResult.finish = true := by
  cases finished with
  | failed negative => exact absurd negative (Int.not_lt.mpr positive)
  | partly _ unfinished => simp only [Option.isSome_none, Bool.false_eq_true, unfinished]
  | completed _ finish after handled => simp only [Option.isSome_some, finish]

theorem FinishedCall.message_none {transport : RtmpMessageTransport} {csId : UInt32} {offset : Nat}
    {chunkResult : ChunkResult} {result : RecvResult}
    (finished : FinishedCall transport csId offset chunkResult result) (negative : chunkResult.ret < 0) :
    result.message = none := by
  cases finished with
  | failed _ => rfl
  | partly positive _ => exact absurd negative (Int.not_lt.mpr positive)
  | completed positive _ _ _ => exact absurd negative (Int.not_lt.mpr positive)

/-- A call behind the header touches no other stream. -/
theorem FinishedCall.other_streams {transport : RtmpMessageTransport} {csId other : UInt32} {offset : Nat}
    {chunkResult : ChunkResult} {result : RecvResult}
    (finished : FinishedCall transport csId offset chunkResult result) (different : other ≠ csId) :
    result.transport.chunkCache other = transport.chunkCache other := by
  cases finished with
  | failed _ => exact RtmpMessageTransport.setChunk_other _ _ different
  | partly _ _ => exact RtmpMessageTransport.setChunk_other _ _ different
  | completed _ _ after handled =>
      rw [RtmpMessageTransport.setChunk_other _ _ different, (onRecvMessage_settings handled).chunkCache_eq]
      exact RtmpMessageTransport.setChunk_other _ _ different

theorem chunkStep_of_effect {transport : RtmpMessageTransport} {assemblies : UInt32 -> Assembly UInt8}
    {header : RtmpHeader} {offset : Nat} {body : List UInt8} {chunkResult : ChunkResult} {result : RecvResult}
    (effect : ChunkEffect transport assemblies header body chunkResult)
    (finished : FinishedCall transport header.chunkStreamId offset chunkResult result) :
    ChunkStep header (transport.chunkCache header.chunkStreamId) chunkResult result where
  no_underflow := by
    intro _
    rw [applyHeader_eq]
    cases effect with
    | refused _ kept => exact kept.blockFits.1
    | short _ opened _ _ => exact opened.blockFits.1
    | taken _ opened _ => exact opened.blockFits.1
  stored := by
    intro positive
    cases effect with
    | refused _ _ =>
        have impossible : (0 : Int) ≤ -2 := positive
        exact absurd impossible (by decide)
    | short _ _ _ _ =>
        have impossible : (0 : Int) ≤ -1 := positive
        exact absurd impossible (by decide)
    | taken _ opened _ =>
        have stored := takenChunk_holds opened body
        refine ⟨_, rfl, stored.total_eq.symm, stored.length_eq.symm, ?_⟩
        rw [finished.message_isSome positive, decide_eq_true_iff]
        exact Iff.rfl
  failed := fun negative => finished.message_none negative

/-- In every reachable transport the lengths and blocks of all streams fit and
the chunk size is at least its default; the next call on any bytes does not
fault, does to its own stream what `ChunkStep` says, and to no other anything. -/
theorem reassembly_invariant {transport : RtmpMessageTransport} (reached : Reachable transport) :
    128 ≤ transport.inChunkSize.toNat ∧
    (forall csId, BlockFits (transport.chunkCache csId)) ∧
    forall data, data ≠ [] -> Exists fun result =>
      recvUndecoded transport data = some result ∧
      (forall code, RtmpHeader.decode data = .error code ->
        result.transport.chunkCache = transport.chunkCache) ∧
      (forall offset header, RtmpHeader.decode data = .ok (offset, header) ->
        (Exists fun chunkResult =>
          recvChunk transport.inChunkSize header (transport.chunkCache header.chunkStreamId)
            (data.drop offset) = some chunkResult ∧
          ChunkStep header (transport.chunkCache header.chunkStreamId) chunkResult result) ∧
        forall other, other ≠ header.chunkStreamId ->
          result.transport.chunkCache other = transport.chunkCache other) := by
  rcases sound_of_reachable reached with ⟨assemblies, sound⟩
  refine ⟨sound.chunkSize_le, fun csId => (sound.holds csId).blockFits, ?_⟩
  intro data nonempty
  rcases recvUndecoded_effect sound nonempty with ⟨result, after, call, _, _⟩
  refine ⟨result, call, ?_, ?_⟩
  · intro code failed
    simp only [recvUndecoded, failed, Option.some.injEq] at call
    rw [← call]
  · intro offset header decoded
    have facts := RtmpHeader.decoded_of_decode decoded
    simp only [recvUndecoded, decoded] at call
    rcases recvAfterDecode_cases call with ⟨chunkResult, found, finished⟩
    rcases recvChunk_effect sound facts.chunkType_eq facts.msgLength_lt (data.drop offset) with
      ⟨other, foundToo, effect⟩
    rw [found, Option.some.injEq] at foundToo
    subst foundToo
    exact ⟨⟨chunkResult, found, chunkStep_of_effect effect finished⟩,
      fun _ different => finished.other_streams different⟩

/-- The first chunk of a 200-byte video message on stream 3. -/
def firstVideoChunk : List UInt8 :=
  [0x03, 0, 0, 0, 0, 0, 200, 9, 0, 0, 0, 0] ++ List.replicate 128 0

/-- The invariant in the middle of a message. -/
theorem reassembly_invariant_midMessage :
    Exists fun result =>
      recvUndecoded (RtmpMessageTransport.new fun _ => 0) firstVideoChunk = some result ∧
      (result.transport.chunkCache 3).currentPayloadLen = 128 ∧
      128 ≤ result.transport.inChunkSize.toNat ∧
      forall csId, BlockFits (result.transport.chunkCache csId) := by
  have runs : ((recvUndecoded (RtmpMessageTransport.new fun _ => 0) firstVideoChunk).map fun result =>
      (result.transport.chunkCache 3).currentPayloadLen) = some 128 := by
    decide +kernel
  rcases Option.map_eq_some_iff.mp runs with ⟨result, call, counted⟩
  have invariant := reassembly_invariant
    (Reachable.received (Reachable.new fun _ => 0) (List.cons_ne_nil _ _) call)
  exact ⟨result, call, counted, invariant.1, invariant.2.1⟩

end Rtmp
end RtmpClient
