import RtmpClient.Rtmp.ChunkLemmas

namespace RtmpClient
namespace Rtmp

open Library

/-!
# What a whole receive step can do

The chunk part of a call is followed by the hand-over of a completed message.
`FinishedCall` lists the three ways a call can end.
-/

/-- What `on_recv_message` makes of a message. -/
inductive HandledMessage (transport : RtmpMessageTransport) (msg : RtmpMessage) : RtmpMessageTransport -> Prop where
  | ignored : HandledMessage transport msg transport
  | chunkSize (type : msg.rtmpHeader.msgTypeId = rtmpMsgSetChunkSize) (ret : Nat)
      (packet : RtmpSetChunkSizePacket)
      (decoded : RtmpSetChunkSizePacket.new.decode msg.rtmpBody (asInt msg.rtmpBodyLen) = .ok (ret, packet))
      (accepted : ¬ packet.chunkSize.toUInt32 < rtmpDefaultChunksize) :
      HandledMessage transport msg { transport with inChunkSize := packet.chunkSize.toUInt32 }
  | bufferLength (type : msg.rtmpHeader.msgTypeId = rtmpMsgUserControlMessage) (ret : Nat)
      (packet : RtmpUserControlPacket)
      (decoded : RtmpUserControlPacket.new.decode msg.rtmpBody (asInt msg.rtmpBodyLen) = .ok (ret, packet))
      (event : packet.eventType = rtmpPcucSetBufferLength) :
      HandledMessage transport msg { transport with inBufferLength := packet.eventData }
  | ackWindow (type : msg.rtmpHeader.msgTypeId = rtmpMsgWindowAcknowledgementSize) (ret : Nat)
      (packet : RtmpSetWindowAckSizePacket)
      (decoded : RtmpSetWindowAckSizePacket.new.decode msg.rtmpBody (asInt msg.rtmpBodyLen) = .ok (ret, packet))
      (positive : packet.windowAckSize > 0) :
      HandledMessage transport msg { transport with inAckWindow := packet.windowAckSize.toUInt32 }

theorem onRecvMessage_cases {transport after : RtmpMessageTransport} {msg : RtmpMessage}
    (handled : onRecvMessage transport msg = .ok after) : HandledMessage transport msg after := by
  unfold onRecvMessage at handled
  by_cases setChunkSize : msg.rtmpHeader.msgTypeId = rtmpMsgSetChunkSize
  · rw [if_pos setChunkSize] at handled
    cases decoded : RtmpSetChunkSizePacket.new.decode msg.rtmpBody (asInt msg.rtmpBodyLen) with
    | fault => simp only [decoded, reduceCtorEq] at handled
    | error code =>
        simp only [decoded, Outcome.ok.injEq] at handled
        rw [← handled]
        exact .ignored
    | ok value =>
        simp only [decoded] at handled
        split at handled
        · rw [← Outcome.ok.inj handled]
          exact .ignored
        · next accepted =>
            rw [← Outcome.ok.inj handled]
            exact .chunkSize setChunkSize value.1 value.2 decoded accepted
  · rw [if_neg setChunkSize] at handled
    by_cases userControl : msg.rtmpHeader.msgTypeId = rtmpMsgUserControlMessage
    · rw [if_pos userControl] at handled
      cases decoded : RtmpUserControlPacket.new.decode msg.rtmpBody (asInt msg.rtmpBodyLen) with
      | fault => simp only [decoded, reduceCtorEq] at handled
      | error code =>
          simp only [decoded, Outcome.ok.injEq] at handled
          rw [← handled]
          exact .ignored
      | ok value =>
          simp only [decoded] at handled
          split at handled
          · next event =>
              rw [← Outcome.ok.inj handled]
              exact .bufferLength userControl value.1 value.2 decoded event
          · rw [← Outcome.ok.inj handled]
            exact .ignored
    · rw [if_neg userControl] at handled
      by_cases windowAck : msg.rtmpHeader.msgTypeId = rtmpMsgWindowAcknowledgementSize
      · rw [if_pos windowAck] at handled
        cases decoded : RtmpSetWindowAckSizePacket.new.decode msg.rtmpBody (asInt msg.rtmpBodyLen) with
        | fault => simp only [decoded, reduceCtorEq] at handled
        | error code =>
            simp only [decoded, Outcome.ok.injEq] at handled
            rw [← handled]
            exact .ignored
        | ok value =>
            simp only [decoded] at handled
            split at handled
            · next positive =>
                rw [← Outcome.ok.inj handled]
                exact .ackWindow windowAck value.1 value.2 decoded positive
            · rw [← Outcome.ok.inj handled]
              exact .ignored
      · rw [if_neg windowAck] at handled
        rw [← Outcome.ok.inj handled]
        exact .ignored

/-- `on_recv_message` changes the receive settings and nothing else. -/
structure SettingsOnly (before after : RtmpMessageTransport) : Prop where
  requestsMap_eq : after.requestsMap = before.requestsMap
  chunkCache_eq : after.chunkCache = before.chunkCache
  outChunkSize_eq : after.outChunkSize = before.outChunkSize
  inChunkSize_eq : after.inChunkSize = before.inChunkSize ∨ 128 ≤ after.inChunkSize.toNat

theorem onRecvMessage_settings {transport after : RtmpMessageTransport} {msg : RtmpMessage}
    (handled : onRecvMessage transport msg = .ok after) : SettingsOnly transport after := by
  cases onRecvMessage_cases handled with
  | chunkSize _ _ packet _ accepted =>
      have large : 128 ≤ packet.chunkSize.toUInt32.toNat := UInt32.le_iff_toNat_le.mp (UInt32.not_lt.mp accepted)
      exact ⟨rfl, rfl, rfl, Or.inr large⟩
  | ignored => exact ⟨rfl, rfl, rfl, Or.inl rfl⟩
  | bufferLength => exact ⟨rfl, rfl, rfl, Or.inl rfl⟩
  | ackWindow => exact ⟨rfl, rfl, rfl, Or.inl rfl⟩

/-- A message of another type leaves the chunk size alone. -/
theorem onRecvMessage_inChunkSize {transport after : RtmpMessageTransport} {msg : RtmpMessage}
    (other : msg.rtmpHeader.msgTypeId ≠ rtmpMsgSetChunkSize)
    (handled : onRecvMessage transport msg = .ok after) : after.inChunkSize = transport.inChunkSize := by
  cases onRecvMessage_cases handled with
  | chunkSize type => cases other type
  | ignored => rfl
  | bufferLength => rfl
  | ackWindow => rfl

/-- The three ends of a call behind the header. -/
inductive FinishedCall (transport : RtmpMessageTransport) (csId : UInt32) (offset : Nat)
    (chunkResult : ChunkResult) : RecvResult -> Prop where
  | failed (negative : chunkResult.ret < 0) :
      FinishedCall transport csId offset chunkResult
        { ret := chunkResult.ret
          transport := transport.setChunk csId chunkResult.chunk
          message := none }
  | partly (positive : 0 ≤ chunkResult.ret) (unfinished : chunkResult.finish = false) :
      FinishedCall transport csId offset chunkResult
        { ret := offset + chunkResult.ret
          transport := transport.setChunk csId chunkResult.chunk
          message := none }
  | completed (positive : 0 ≤ chunkResult.ret) (finished : chunkResult.finish = true)
      (after : RtmpMessageTransport)
      (handled : onRecvMessage (transport.setChunk csId chunkResult.chunk) chunkResult.chunk.createMsg =
        .ok after) :
      FinishedCall transport csId offset chunkResult
        { ret := offset + chunkResult.ret
          transport := after.setChunk csId chunkResult.chunk.reset
          message := some chunkResult.chunk.createMsg }

theorem finishRecv_cases {transport : RtmpMessageTransport} {csId : UInt32} {offset : Nat}
    {chunkResult : ChunkResult} {result : RecvResult}
    (finished : finishRecv transport csId offset chunkResult = some result) :
    FinishedCall transport csId offset chunkResult result := by
  unfold finishRecv at finished
  by_cases negative : chunkResult.ret < 0
  · simp only [negative, if_true, Option.some.injEq] at finished
    rw [← finished]
    exact FinishedCall.failed negative
  · have positive : 0 ≤ chunkResult.ret := Int.not_lt.mp negative
    simp only [negative, if_false] at finished
    cases finish : chunkResult.finish with
    | false =>
        simp only [finish, Bool.false_eq_true, if_false, Option.some.injEq] at finished
        rw [← finished]
        exact FinishedCall.partly positive finish
    | true =>
        simp only [finish, if_true] at finished
        cases handled : onRecvMessage (transport.setChunk csId chunkResult.chunk)
            chunkResult.chunk.createMsg with
        | fault => simp only [handled, reduceCtorEq] at finished
        | error code => simp only [handled, reduceCtorEq] at finished
        | ok after =>
            simp only [handled, Option.some.injEq] at finished
            rw [← finished]
            exact FinishedCall.completed positive finish after handled

/-- A call behind the header is its chunk part and its end. -/
theorem recvAfterDecode_cases {transport : RtmpMessageTransport} {header : RtmpHeader} {offset : Nat}
    {data : List UInt8} {result : RecvResult}
    (received : recvAfterDecode transport header offset data = some result) :
    Exists fun chunkResult : ChunkResult =>
      recvChunk transport.inChunkSize header (transport.chunkCache header.chunkStreamId) data =
        some chunkResult ∧
      FinishedCall transport header.chunkStreamId offset chunkResult result := by
  rcases Option.bind_eq_some_iff.mp received with ⟨chunkResult, found, finished⟩
  exact ⟨chunkResult, found, finishRecv_cases finished⟩

/-- A failed call behind the header stores the chunk it changed and nothing else. -/
theorem recvAfterDecode_failed {transport : RtmpMessageTransport} {header : RtmpHeader} {offset : Nat}
    {data : List UInt8} {result : RecvResult}
    (received : recvAfterDecode transport header offset data = some result) (failed : result.ret < 0) :
    Exists fun chunkResult : ChunkResult =>
      recvChunk transport.inChunkSize header (transport.chunkCache header.chunkStreamId) data =
        some chunkResult ∧ chunkResult.ret < 0 ∧
      result =
        { ret := chunkResult.ret
          transport := transport.setChunk header.chunkStreamId chunkResult.chunk
          message := none } := by
  rcases recvAfterDecode_cases received with ⟨chunkResult, found, finished⟩
  refine ⟨chunkResult, found, ?_⟩
  cases finished with
  | failed negative => exact ⟨negative, rfl⟩
  | partly positive unfinished =>
      simp only at failed
      omega
  | completed positive finished after handled =>
      simp only at failed
      omega

/-- Receiving leaves the send side alone. -/
theorem recvUndecoded_sendSide {transport : RtmpMessageTransport} {data : List UInt8} {result : RecvResult}
    (call : recvUndecoded transport data = some result) :
    result.transport.requestsMap = transport.requestsMap ∧
      result.transport.outChunkSize = transport.outChunkSize := by
  unfold recvUndecoded at call
  split at call
  · cases call
  · rw [← Option.some.inj call]
    exact ⟨rfl, rfl⟩
  · rcases recvAfterDecode_cases call with ⟨chunkResult, _, finished⟩
    cases finished with
    | failed _ => exact ⟨rfl, rfl⟩
    | partly _ _ => exact ⟨rfl, rfl⟩
    | completed _ _ after handled =>
        have settings := onRecvMessage_settings handled
        exact ⟨settings.requestsMap_eq, settings.outChunkSize_eq⟩

/-- If the chunk part of a call comes out the same from another stored chunk,
the whole call does. -/
theorem recvAfterDecode_setChunk {transport : RtmpMessageTransport} {header : RtmpHeader}
    {chunk : RtmpChunkData} {data : List UInt8} (offset : Nat)
    (same : recvChunk transport.inChunkSize header chunk data =
      recvChunk transport.inChunkSize header (transport.chunkCache header.chunkStreamId) data) :
    recvAfterDecode (transport.setChunk header.chunkStreamId chunk) header offset data =
      recvAfterDecode transport header offset data := by
  have sameFinish : finishRecv (transport.setChunk header.chunkStreamId chunk) header.chunkStreamId offset =
      finishRecv transport header.chunkStreamId offset := by
    funext chunkResult
    simp only [finishRecv, RtmpMessageTransport.setChunk_setChunk]
  simp only [recvAfterDecode, RtmpMessageTransport.setChunk_same, RtmpMessageTransport.setChunk_inChunkSize,
    same, sameFinish]

/-- A call depends on a stored chunk through its chunk part only. -/
theorem recvAfterDecode_setChunk_congr {transport : RtmpMessageTransport} {header : RtmpHeader}
    {first second : RtmpChunkData} {data : List UInt8} (offset : Nat)
    (same : recvChunk transport.inChunkSize header first data =
      recvChunk transport.inChunkSize header second data) :
    recvAfterDecode (transport.setChunk header.chunkStreamId first) header offset data =
      recvAfterDecode (transport.setChunk header.chunkStreamId second) header offset data := by
  have sameStored : recvChunk (transport.setChunk header.chunkStreamId second).inChunkSize header first data =
      recvChunk (transport.setChunk header.chunkStreamId second).inChunkSize header
        ((transport.setChunk header.chunkStreamId second).chunkCache header.chunkStreamId) data := by
    rw [RtmpMessageTransport.setChunk_same]
    exact same
  rw [← recvAfterDecode_setChunk offset sameStored, RtmpMessageTransport.setChunk_setChunk]

end Rtmp
end RtmpClient
