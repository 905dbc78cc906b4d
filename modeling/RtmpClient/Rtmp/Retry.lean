import RtmpClient.Rtmp.ReceiveLemmas

namespace RtmpClient
namespace Rtmp

open Library

/-!
# Repeating a short read

A call that runs out of bytes has already changed its chunk stream.  The caller
keeps the bytes and calls again when more have arrived.  The lemmas say when the
second call cannot tell that the first one happened.
-/

/-- The one case in which the rollback takes off what was never added: the
chunk continues a message, has no timestamp of its own, and the delta of its
stream is not the extended marker. -/
def driftsBack (header : RtmpHeader) (chunk : RtmpChunkData) : Prop :=
  ¬ header.chunkType ≤ rtmpChunkFmt2Type ∧ chunk.currentPayloadLen ≠ 0 ∧
    ¬ chunk.timeDelta ≥ rtmpExtendedTimestamp

instance (header : RtmpHeader) (chunk : RtmpChunkData) : Decidable (driftsBack header chunk) :=
  inferInstanceAs (Decidable (_ ∧ _ ∧ _))

/-- A header that was accepted is accepted again, with any timestamp. -/
theorem lengthRefused_withHeader {header : RtmpHeader} {chunk : RtmpChunkData}
    (accepted : ¬ lengthRefused header chunk) (timestamp : UInt32) :
    ¬ lengthRefused header ((withHeader header chunk).setTimestamp timestamp) := by
  intro refused
  have fmt1 := refused.1
  have changed := refused.2.2
  rw [RtmpChunkData.setTimestamp_msgLength, withHeader_msgLength fmt1 accepted] at changed
  exact changed rfl

theorem nextDelta_withHeader (header : RtmpHeader) (chunk : RtmpChunkData) (timestamp : UInt32) :
    nextDelta header ((withHeader header chunk).setTimestamp timestamp) = nextDelta header chunk := by
  unfold nextDelta
  by_cases fmt2 : header.chunkType ≤ rtmpChunkFmt2Type
  · rw [if_pos fmt2, if_pos fmt2]
  · rw [if_neg fmt2, if_neg fmt2, RtmpChunkData.setTimestamp_timeDelta, withHeader, nextDelta, if_neg fmt2]

/-- Taking an accepted header a second time changes the timestamp only. -/
theorem withHeader_withHeader {header : RtmpHeader} {chunk : RtmpChunkData}
    (accepted : ¬ lengthRefused header chunk) (timestamp : UInt32) :
    withHeader header ((withHeader header chunk).setTimestamp timestamp) =
      (withHeader header chunk).setTimestamp
        (nextTimestamp header ((withHeader header chunk).setTimestamp timestamp)) := by
  have sameTakes : takesMessage header ((withHeader header chunk).setTimestamp timestamp) ↔
      takesMessage header chunk :=
    ⟨fun takes => ⟨takes.1, accepted⟩, fun takes => ⟨takes.1, lengthRefused_withHeader accepted timestamp⟩⟩
  have sameDelta := nextDelta_withHeader header chunk timestamp
  have sameHeader : nextHeader header ((withHeader header chunk).setTimestamp timestamp) =
      { nextHeader header chunk with
        timestamp := nextTimestamp header ((withHeader header chunk).setTimestamp timestamp) } := by
    by_cases takes : takesMessage header chunk
    · by_cases zeroStream : header.chunkStreamId = 0
      · simp only [nextHeader, sameTakes, takes, zeroStream, and_self, if_true]
      · have sameStream : ((withHeader header chunk).setTimestamp timestamp).h.msgStreamId =
            chunk.h.msgStreamId := if_neg fun both => zeroStream both.2
        simp only [nextHeader, sameTakes, takes, zeroStream, and_false, if_true, if_false, sameStream]
    · have sameLength : ((withHeader header chunk).setTimestamp timestamp).h.msgLength =
          chunk.h.msgLength := if_neg takes
      have sameType : ((withHeader header chunk).setTimestamp timestamp).h.msgTypeId =
          chunk.h.msgTypeId := if_neg takes
      have sameStream : ((withHeader header chunk).setTimestamp timestamp).h.msgStreamId =
          chunk.h.msgStreamId := if_neg fun both => takes both.1
      simp only [nextHeader, sameTakes, takes, false_and, if_false, sameLength, sameType, sameStream]
  calc
    withHeader header ((withHeader header chunk).setTimestamp timestamp) =
        { (withHeader header chunk).setTimestamp timestamp with
          h := nextHeader header ((withHeader header chunk).setTimestamp timestamp)
          timeDelta := nextDelta header ((withHeader header chunk).setTimestamp timestamp) } := rfl
    _ = (withHeader header chunk).setTimestamp
        (nextTimestamp header ((withHeader header chunk).setTimestamp timestamp)) := by
      rw [sameHeader, sameDelta]
      rfl

/-! The five ways of `nextTimestamp`. -/

theorem nextTimestamp_fmt0 {header : RtmpHeader} (chunk : RtmpChunkData)
    (fmt0 : header.chunkType = rtmpChunkFmt0Type) (small : header.timestamp < rtmpExtendedTimestamp) :
    nextTimestamp header chunk = header.timestamp := by
  have fmt2 : header.chunkType ≤ rtmpChunkFmt2Type := by
    rw [fmt0]
    decide
  rw [nextTimestamp, if_pos fmt2, if_pos small, if_pos fmt0]

theorem nextTimestamp_added {header : RtmpHeader} (chunk : RtmpChunkData)
    (fmt2 : header.chunkType ≤ rtmpChunkFmt2Type) (notFmt0 : header.chunkType ≠ rtmpChunkFmt0Type)
    (small : header.timestamp < rtmpExtendedTimestamp) :
    nextTimestamp header chunk = chunk.h.timestamp + header.timestamp := by
  rw [nextTimestamp, if_pos fmt2, if_pos small, if_neg notFmt0]

theorem nextTimestamp_idle {header : RtmpHeader} {chunk : RtmpChunkData}
    (fmt3 : ¬ header.chunkType ≤ rtmpChunkFmt2Type) (idle : chunk.currentPayloadLen = 0)
    (small : chunk.timeDelta < rtmpExtendedTimestamp) :
    nextTimestamp header chunk = chunk.h.timestamp + chunk.timeDelta := by
  rw [nextTimestamp, if_neg fmt3, if_pos ⟨idle, small⟩]

theorem nextTimestamp_extended {header : RtmpHeader} {chunk : RtmpChunkData}
    (extended : nextDelta header chunk ≥ rtmpExtendedTimestamp) :
    nextTimestamp header chunk = chunk.h.timestamp := by
  by_cases fmt2 : header.chunkType ≤ rtmpChunkFmt2Type
  · rw [nextDelta, if_pos fmt2] at extended
    rw [nextTimestamp, if_pos fmt2, if_neg (UInt32.not_lt.mpr extended)]
  · rw [nextDelta, if_neg fmt2] at extended
    rw [nextTimestamp, if_neg fmt2, if_neg fun both => UInt32.not_lt.mpr extended both.2]

/-- Where the timestamp drifts, the header does not touch it. -/
theorem nextTimestamp_drifting {header : RtmpHeader} {chunk : RtmpChunkData}
    (drifts : driftsBack header chunk) : nextTimestamp header chunk = chunk.h.timestamp := by
  rw [nextTimestamp, if_neg drifts.1, if_neg fun both => drifts.2.1 both.1]

/-- Where nothing drifts, repeating the header undoes the rollback. -/
theorem nextTimestamp_rollback {header : RtmpHeader} {chunk : RtmpChunkData}
    (steady : ¬ driftsBack header chunk) (plain : ¬ nextDelta header chunk ≥ rtmpExtendedTimestamp) :
    nextTimestamp header ((withHeader header chunk).setTimestamp
        (nextTimestamp header chunk - nextDelta header chunk)) = nextTimestamp header chunk := by
  by_cases fmt2 : header.chunkType ≤ rtmpChunkFmt2Type
  · have delta : nextDelta header chunk = header.timestamp := if_pos fmt2
    rw [delta] at plain ⊢
    have small : header.timestamp < rtmpExtendedTimestamp := UInt32.not_le.mp plain
    by_cases fmt0 : header.chunkType = rtmpChunkFmt0Type
    · rw [nextTimestamp_fmt0 _ fmt0 small, nextTimestamp_fmt0 _ fmt0 small]
    · rw [nextTimestamp_added _ fmt2 fmt0 small, RtmpChunkData.setTimestamp_timestamp,
        UInt32.sub_add_cancel]
  · have delta : nextDelta header chunk = chunk.timeDelta := if_neg fmt2
    rw [delta] at plain ⊢
    have idle : chunk.currentPayloadLen = 0 := by
      by_contra started
      exact steady ⟨fmt2, started, plain⟩
    have keptDelta : forall timestamp,
        ((withHeader header chunk).setTimestamp timestamp).timeDelta = chunk.timeDelta := fun _ => delta
    have idleAgain : ((withHeader header chunk).setTimestamp
        (nextTimestamp header chunk - chunk.timeDelta)).currentPayloadLen = 0 := idle
    have again := nextTimestamp_idle fmt2 idleAgain (by rw [keptDelta]; exact UInt32.not_le.mp plain)
    rw [again, keptDelta, RtmpChunkData.setTimestamp_timestamp, UInt32.sub_add_cancel]

/-- A short read that does not drift can be repeated with more bytes as if it
had never been tried. -/
theorem recvChunk_retry {inChunkSize : UInt32} {header : RtmpHeader} {chunk : RtmpChunkData}
    {data : List UInt8} {result : ChunkResult}
    (received : recvChunk inChunkSize header chunk data = some result)
    (failed : result.ret < 0) (accepted : ¬ lengthRefused header chunk)
    (steady : ¬ driftsBack header chunk) (more : List UInt8) :
    recvChunk inChunkSize header result.chunk (data ++ more) =
      recvChunk inChunkSize header chunk (data ++ more) := by
  rw [recvChunk_eq, if_neg accepted] at received
  have short := recvBody_failed received failed
  have stillAccepted := lengthRefused_withHeader accepted result.chunk.h.timestamp
  rw [recvChunk_eq, recvChunk_eq, if_neg accepted, short.chunk_eq, if_neg stillAccepted,
    withHeader_withHeader accepted]
  by_cases extended : nextDelta header chunk ≥ rtmpExtendedTimestamp
  · by_cases noField : data.length < 4
    · have kept : result.chunk.h.timestamp = nextTimestamp header chunk :=
        short.timestamp_extended extended noField
      have extendedAgain : nextDelta header ((withHeader header chunk).setTimestamp
          result.chunk.h.timestamp) ≥ rtmpExtendedTimestamp := by
        rw [nextDelta_withHeader]
        exact extended
      rw [nextTimestamp_extended extendedAgain, RtmpChunkData.setTimestamp_timestamp, kept]
      rfl
    · have enough : 4 ≤ (data ++ more).length := by
        rw [List.length_append]
        omega
      rw [recvBody_extended extended enough, recvBody_extended extended enough,
        RtmpChunkData.setTimestamp_setTimestamp]
  · have rolledBack : result.chunk.h.timestamp = nextTimestamp header chunk - nextDelta header chunk :=
      short.timestamp_plain extended
    rw [rolledBack, nextTimestamp_rollback steady extended]
    rfl

/-- A format-0 header that was refused once leaves a chunk that refuses it
again and that it no longer changes. -/
theorem recvChunk_refused {header : RtmpHeader} {chunk : RtmpChunkData}
    (fmt0 : header.chunkType = rtmpChunkFmt0Type) (refused : lengthRefused header chunk)
    (inChunkSize : UInt32) (data : List UInt8) :
    recvChunk inChunkSize header (withHeader header chunk) data =
      recvChunk inChunkSize header chunk data := by
  have fmt2 : header.chunkType ≤ rtmpChunkFmt2Type := by
    rw [fmt0]
    decide
  have notTaken : ¬ takesMessage header chunk := fun takes => takes.2 refused
  have sameLength : (withHeader header chunk).h.msgLength = chunk.h.msgLength := if_neg notTaken
  have refusedAgain : lengthRefused header (withHeader header chunk) :=
    ⟨refused.1, refused.2.1, by rw [sameLength]; exact refused.2.2⟩
  have notTakenAgain : ¬ takesMessage header (withHeader header chunk) := fun takes => takes.2 refusedAgain
  have sameTime : nextTimestamp header (withHeader header chunk) = nextTimestamp header chunk := by
    by_cases small : header.timestamp < rtmpExtendedTimestamp
    · rw [nextTimestamp_fmt0 _ fmt0 small, nextTimestamp_fmt0 _ fmt0 small]
    · have extended : forall other, nextDelta header other ≥ rtmpExtendedTimestamp := by
        intro other
        rw [nextDelta, if_pos fmt2]
        exact UInt32.not_lt.mp small
      rw [nextTimestamp_extended (extended _)]
      rfl
  have sameDelta : nextDelta header (withHeader header chunk) = nextDelta header chunk := by
    rw [nextDelta, nextDelta, if_pos fmt2, if_pos fmt2]
  have sameChunk : withHeader header (withHeader header chunk) = withHeader header chunk := by
    have sameType : (withHeader header chunk).h.msgTypeId = chunk.h.msgTypeId := if_neg notTaken
    have sameStream : (withHeader header chunk).h.msgStreamId = chunk.h.msgStreamId :=
      if_neg fun both => notTaken both.1
    have sameHeader : nextHeader header (withHeader header chunk) = nextHeader header chunk := by
      simp only [nextHeader, notTaken, notTakenAgain, false_and, if_false, sameTime, sameLength,
        sameType, sameStream]
    calc
      withHeader header (withHeader header chunk) =
          { withHeader header chunk with
            h := nextHeader header (withHeader header chunk)
            timeDelta := nextDelta header (withHeader header chunk) } := rfl
      _ = withHeader header chunk := by
        rw [sameHeader, sameDelta]
        rfl
  rw [recvChunk_eq, recvChunk_eq, if_pos refused, if_pos refusedAgain, sameChunk]

/-- A format-0 chunk can be retried after any failure. -/
theorem recvChunk_retry_fmt0 {inChunkSize : UInt32} {header : RtmpHeader} {chunk : RtmpChunkData}
    {data : List UInt8} {result : ChunkResult} (fmt0 : header.chunkType = rtmpChunkFmt0Type)
    (received : recvChunk inChunkSize header chunk data = some result) (failed : result.ret < 0)
    (more : List UInt8) :
    recvChunk inChunkSize header result.chunk (data ++ more) =
      recvChunk inChunkSize header chunk (data ++ more) := by
  by_cases refused : lengthRefused header chunk
  · rw [recvChunk_eq, if_pos refused, Option.some.injEq] at received
    rw [← received]
    exact recvChunk_refused fmt0 refused inChunkSize (data ++ more)
  · have steady : ¬ driftsBack header chunk := by
      intro drifts
      apply drifts.1
      rw [fmt0]
      decide
    exact recvChunk_retry received failed refused steady more

/-! ## The whole call

`decode` only ever yields format-0 headers, so every failed call can be retried. -/

/-- After a failed call the caller may come back with more bytes and gets what
it would have got the first time. -/
theorem recvUndecoded_retry {transport : RtmpMessageTransport} {data : List UInt8} {result : RecvResult}
    (call : recvUndecoded transport data = some result) (failed : result.ret < 0) (more : List UInt8) :
    recvUndecoded result.transport (data ++ more) = recvUndecoded transport (data ++ more) := by
  cases decoded : RtmpHeader.decode data with
  | fault => simp only [recvUndecoded, decoded, reduceCtorEq] at call
  | error code =>
      simp only [recvUndecoded, decoded, Option.some.injEq] at call
      rw [← call]
  | ok value =>
      rcases value with ⟨offset, header⟩
      have facts := RtmpHeader.decoded_of_decode decoded
      have grown : (data ++ more).drop offset = data.drop offset ++ more :=
        List.drop_append_of_le_length facts.length_le
      simp only [recvUndecoded, decoded] at call
      simp only [recvUndecoded, RtmpHeader.decode_append decoded more, grown]
      rcases recvAfterDecode_failed call failed with ⟨chunkResult, found, negative, shape⟩
      rw [shape]
      exact recvAfterDecode_setChunk offset
        (recvChunk_retry_fmt0 facts.chunkType_eq found negative more)

/-- A call that did not fail looks at no byte behind the ones it consumed. -/
theorem recvUndecoded_append {transport : RtmpMessageTransport} {data : List UInt8} (nonempty : data ≠ [])
    (settled : forall result, recvUndecoded transport data = some result -> 0 ≤ result.ret)
    (more : List UInt8) : recvUndecoded transport (data ++ more) = recvUndecoded transport data := by
  cases decoded : RtmpHeader.decode data with
  | fault => exact absurd decoded (RtmpHeader.decode_ne_fault nonempty)
  | error code =>
      have failed := settled { ret := code, transport, message := none }
      simp only [recvUndecoded, decoded, RtmpHeader.decode_error decoded, forall_const] at failed
      have impossible : (0 : Int) ≤ -1 := failed
      exact absurd impossible (by decide)
  | ok value =>
      rcases value with ⟨offset, header⟩
      have facts := RtmpHeader.decoded_of_decode decoded
      have grown : (data ++ more).drop offset = data.drop offset ++ more :=
        List.drop_append_of_le_length facts.length_le
      have chunkSettled : forall chunkResult,
          recvChunk transport.inChunkSize header (transport.chunkCache header.chunkStreamId)
            (data.drop offset) = some chunkResult -> 0 ≤ chunkResult.ret := by
        intro chunkResult found
        by_contra negative
        have failed := settled
          { ret := chunkResult.ret
            transport := transport.setChunk header.chunkStreamId chunkResult.chunk
            message := none }
        simp only [recvUndecoded, decoded, recvAfterDecode, found, Option.bind_some, finishRecv,
          Int.not_le.mp negative, if_true, forall_const] at failed
        exact negative failed
      simp only [recvUndecoded, decoded, RtmpHeader.decode_append decoded more, grown, recvAfterDecode,
        recvChunk_append chunkSettled more]

/-- A successful call consumes at least a header and no more than there is. -/
theorem recvUndecoded_bounds {transport : RtmpMessageTransport} {data : List UInt8} {result : RecvResult}
    (call : recvUndecoded transport data = some result) (success : 0 ≤ result.ret) :
    12 ≤ result.ret ∧ result.ret ≤ data.length := by
  cases decoded : RtmpHeader.decode data with
  | fault => simp only [recvUndecoded, decoded, reduceCtorEq] at call
  | error code =>
      simp only [recvUndecoded, decoded, RtmpHeader.decode_error decoded, Option.some.injEq] at call
      rw [← call] at success
      have impossible : (0 : Int) ≤ -1 := success
      exact absurd impossible (by decide)
  | ok value =>
      rcases value with ⟨offset, header⟩
      have facts := RtmpHeader.decoded_of_decode decoded
      have inside := facts.length_le
      have twelve := facts.twelve_le
      simp only [recvUndecoded, decoded] at call
      rcases recvAfterDecode_cases call with ⟨chunkResult, found, finished⟩
      have bound := recvChunk_le found
      rw [List.length_drop] at bound
      cases finished with
      | failed negative => exact absurd success (Int.not_le.mpr negative)
      | partly positive _ =>
          simp only
          omega
      | completed positive _ _ _ =>
          simp only
          omega

/-- A call that fails has completed nothing. -/
theorem recvUndecoded_failed_message {transport : RtmpMessageTransport} {data : List UInt8} {result : RecvResult}
    (call : recvUndecoded transport data = some result) (failed : result.ret < 0) : result.message = none := by
  rw [recvUndecoded] at call
  split at call
  · cases call
  · rw [← Option.some.inj call]
  · rcases recvAfterDecode_failed call failed with ⟨_, _, _, shape⟩
    rw [shape]

/-! ## With the decoding -/

section Decoding

universe u

variable {π : Type u} {decodeMsg : RtmpMessage -> RequestsMap -> Option (Option π)}

/-- What is returned is what there was before the decoding. -/
theorem RecvResult.decoded_eq {result : RecvResult} {call : RecvCall π}
    (decoded : result.decoded decodeMsg = some call) :
    call.ret = result.ret ∧ call.transport = result.transport := by
  rw [RecvResult.decoded] at decoded
  split at decoded
  · rw [← Option.some.inj decoded]
    exact ⟨rfl, rfl⟩
  · rcases Option.map_eq_some_iff.mp decoded with ⟨packet, _, rfl⟩
    exact ⟨rfl, rfl⟩

/-- A call that returns has come to the decoding. -/
theorem recvRtmpMessage_undecoded {transport : RtmpMessageTransport} {data : List UInt8} {call : RecvCall π}
    (called : recvRtmpMessage decodeMsg transport data = some call) : Exists fun result =>
      recvUndecoded transport data = some result ∧ result.decoded decodeMsg = some call ∧
        call.ret = result.ret ∧ call.transport = result.transport := by
  rcases Option.bind_eq_some_iff.mp called with ⟨result, undecoded, decoded⟩
  exact ⟨result, undecoded, decoded, RecvResult.decoded_eq decoded⟩

/-- The call returns unless the decoder of its message does not. -/
theorem recvRtmpMessage_returns_iff {transport : RtmpMessageTransport} {data : List UInt8} {result : RecvResult}
    (undecoded : recvUndecoded transport data = some result) :
    (Exists fun call => recvRtmpMessage decodeMsg transport data = some call) ↔
      forall msg, result.message = some msg -> decodeMsg msg result.transport.requestsMap ≠ none := by
  rw [recvRtmpMessage, undecoded, Option.bind_some, RecvResult.decoded]
  cases completed : result.message with
  | none => exact iff_of_true ⟨_, rfl⟩ fun _ found => by cases found
  | some msg =>
      simp only [Option.map_eq_some_iff, Option.some.injEq, forall_eq']
      constructor
      · rintro ⟨_, packet, decoded, _⟩ none
        cases decoded.symm.trans none
      · intro returns
        rcases Option.ne_none_iff_exists'.mp returns with ⟨packet, decoded⟩
        exact ⟨_, packet, decoded, rfl⟩

/-- A call that fails decodes nothing. -/
theorem recvRtmpMessage_of_failed {transport : RtmpMessageTransport} {data : List UInt8} {result : RecvResult}
    (undecoded : recvUndecoded transport data = some result) (failed : result.ret < 0) :
    recvRtmpMessage decodeMsg transport data =
      some { ret := result.ret, transport := result.transport, packet := none } := by
  rw [recvRtmpMessage, undecoded, Option.bind_some, RecvResult.decoded,
    recvUndecoded_failed_message undecoded failed]

theorem recvRtmpMessage_retry {transport : RtmpMessageTransport} {data : List UInt8} {call : RecvCall π}
    (called : recvRtmpMessage decodeMsg transport data = some call) (failed : call.ret < 0) (more : List UInt8) :
    recvRtmpMessage decodeMsg call.transport (data ++ more) =
      recvRtmpMessage decodeMsg transport (data ++ more) := by
  rcases recvRtmpMessage_undecoded called with ⟨result, undecoded, _, ret, same⟩
  rw [recvRtmpMessage, recvRtmpMessage, same, recvUndecoded_retry undecoded (ret ▸ failed) more]

theorem recvRtmpMessage_append {transport : RtmpMessageTransport} {data : List UInt8} (nonempty : data ≠ [])
    (settled : forall call, recvRtmpMessage decodeMsg transport data = some call -> 0 ≤ call.ret)
    (more : List UInt8) :
    recvRtmpMessage decodeMsg transport (data ++ more) = recvRtmpMessage decodeMsg transport data := by
  have before : forall result, recvUndecoded transport data = some result -> 0 ≤ result.ret := by
    intro result undecoded
    by_contra failed
    exact failed (settled _ (recvRtmpMessage_of_failed undecoded (Int.not_le.mp failed)))
  rw [recvRtmpMessage, recvRtmpMessage, recvUndecoded_append nonempty before more]

theorem recvRtmpMessage_bounds {transport : RtmpMessageTransport} {data : List UInt8} {call : RecvCall π}
    (called : recvRtmpMessage decodeMsg transport data = some call) (success : 0 ≤ call.ret) :
    12 ≤ call.ret ∧ call.ret ≤ data.length := by
  rcases recvRtmpMessage_undecoded called with ⟨result, undecoded, _, ret, _⟩
  rw [ret] at success ⊢
  exact recvUndecoded_bounds undecoded success

end Decoding

/-! ## Several attempts -/

/-- What the body of a call leaves that its caller can see: the return value,
the chunk stream's timestamp, message type and payload, and the message. -/
structure CallOutcome where
  ret : Int
  timestamp : UInt32
  msgTypeId : UInt8
  payload : Option PayloadBlock
  message : Option RtmpMessage
  deriving DecidableEq, Repr

def RecvResult.outcome (csId : UInt32) (result : RecvResult) : CallOutcome where
  ret := result.ret
  timestamp := (result.transport.chunkCache csId).h.timestamp
  msgTypeId := (result.transport.chunkCache csId).h.msgTypeId
  payload := (result.transport.chunkCache csId).payload
  message := result.message

/-- The transport after a row of attempts that all ran out of bytes; `none` if
one of them did not. -/
def afterShortReads (header : RtmpHeader) (offset : Nat) :
    RtmpMessageTransport -> List (List UInt8) -> Option RtmpMessageTransport
  | transport, [] => some transport
  | transport, data :: attempts =>
      match recvAfterDecode transport header offset data with
      | none => none
      | some result =>
          if result.ret = -1 then afterShortReads header offset result.transport attempts else none

/-- The chunk that a short read stores. -/
theorem shortRead_of_call {transport : RtmpMessageTransport} {header : RtmpHeader} {offset : Nat}
    {data : List UInt8} {result : RecvResult}
    (received : recvAfterDecode transport header offset data = some result) (short : result.ret = -1) :
    Exists fun chunkResult : ChunkResult =>
      recvChunk transport.inChunkSize header (transport.chunkCache header.chunkStreamId) data =
        some chunkResult ∧
      ¬ lengthRefused header (transport.chunkCache header.chunkStreamId) ∧
      ShortRead (withHeader header (transport.chunkCache header.chunkStreamId)) data chunkResult ∧
      result.transport = transport.setChunk header.chunkStreamId chunkResult.chunk := by
  have failed : result.ret < 0 := by
    rw [short]
    decide
  rcases recvAfterDecode_failed received failed with ⟨chunkResult, found, negative, shape⟩
  have code : chunkResult.ret = -1 := by
    rw [shape] at short
    exact short
  have accepted : ¬ lengthRefused header (transport.chunkCache header.chunkStreamId) := by
    intro refused
    rw [recvChunk_eq, if_pos refused, Option.some.injEq] at found
    rw [← found] at code
    have impossible : (-2 : Int) = -1 := code
    exact absurd impossible (by decide)
  have body := found
  rw [recvChunk_eq, if_neg accepted] at body
  refine ⟨chunkResult, found, accepted, recvBody_failed body negative, ?_⟩
  rw [shape]

/-- A short read does not change whether the next one drifts. -/
theorem driftsBack_shortRead {header : RtmpHeader} {chunk : RtmpChunkData} {data : List UInt8}
    {chunkResult : ChunkResult} (short : ShortRead (withHeader header chunk) data chunkResult) :
    driftsBack header chunkResult.chunk ↔ driftsBack header chunk := by
  rw [short.chunk_eq]
  by_cases fmt2 : header.chunkType ≤ rtmpChunkFmt2Type
  · constructor
    · intro drifts
      exact absurd fmt2 drifts.1
    · intro drifts
      exact absurd fmt2 drifts.1
  · have kept : nextDelta header chunk = chunk.timeDelta := if_neg fmt2
    simp only [driftsBack, RtmpChunkData.setTimestamp_currentPayloadLen,
      RtmpChunkData.setTimestamp_timeDelta, withHeader, kept]

/-- Any number of short reads that do not drift leaves no trace. -/
theorem afterShortReads_steady {header : RtmpHeader} {offset : Nat} {full : List UInt8}
    {attempts : List (List UInt8)} {transport left : RtmpMessageTransport}
    (prefixes : forall data, data ∈ attempts -> data <+: full)
    (failures : afterShortReads header offset transport attempts = some left)
    (steady : ¬ driftsBack header (transport.chunkCache header.chunkStreamId)) :
    recvAfterDecode left header offset full = recvAfterDecode transport header offset full := by
  induction attempts generalizing transport with
  | nil =>
      rw [afterShortReads, Option.some.injEq] at failures
      rw [failures]
  | cons data attempts inductionHypothesis =>
      unfold afterShortReads at failures
      cases received : recvAfterDecode transport header offset data with
      | none => simp only [received, reduceCtorEq] at failures
      | some result =>
          simp only [received] at failures
          by_cases short : result.ret = -1
          · rw [if_pos short] at failures
            rcases shortRead_of_call received short with ⟨chunkResult, found, accepted, shortRead, stored⟩
            rcases prefixes data (List.mem_cons_self ..) with ⟨more, rfl⟩
            have steadyAgain : ¬ driftsBack header
                (result.transport.chunkCache header.chunkStreamId) := by
              rw [stored, RtmpMessageTransport.setChunk_same, driftsBack_shortRead shortRead]
              exact steady
            have negative : chunkResult.ret < 0 := by
              rw [shortRead.ret_eq]
              decide
            calc
              recvAfterDecode left header offset (data ++ more) =
                  recvAfterDecode result.transport header offset (data ++ more) :=
                inductionHypothesis (fun other member => prefixes other (List.mem_cons_of_mem _ member))
                  failures steadyAgain
              _ = recvAfterDecode transport header offset (data ++ more) := by
                rw [stored]
                exact recvAfterDecode_setChunk offset
                  (recvChunk_retry found negative accepted steady more)
          · simp only [short, if_false, reduceCtorEq] at failures

/-- Where the timestamp drifts, the header sets the stream id and the format
and leaves the rest of the chunk alone. -/
theorem withHeader_drifting {header : RtmpHeader} {chunk : RtmpChunkData}
    (drifts : driftsBack header chunk) :
    withHeader header chunk =
      { chunk with
        h := { chunk.h with chunkType := header.chunkType, chunkStreamId := header.chunkStreamId } } := by
  have notFmt1 : ¬ header.chunkType ≤ rtmpChunkFmt1Type :=
    fun fmt1 => drifts.1 (UInt8.le_trans fmt1 (by decide))
  have notTaken : ¬ takesMessage header chunk := fun takes => notFmt1 takes.1
  have sameDelta : nextDelta header chunk = chunk.timeDelta := if_neg drifts.1
  simp only [withHeader, nextHeader, notTaken, false_and, if_false, sameDelta,
    nextTimestamp_drifting drifts]

/-- A drifting chunk part runs as one body, whatever timestamp the chunk and
the earlier attempts left. -/
theorem recvChunk_drifting {header : RtmpHeader} {chunk : RtmpChunkData}
    (drifts : driftsBack header chunk) (inChunkSize timestamp : UInt32) (data : List UInt8) :
    recvChunk inChunkSize header (chunk.setTimestamp timestamp) data =
      recvPayload inChunkSize ((withHeader header chunk).setTimestamp timestamp) data 0 := by
  have driftsToo : driftsBack header (chunk.setTimestamp timestamp) := drifts
  have accepted : ¬ lengthRefused header (chunk.setTimestamp timestamp) :=
    fun refused => drifts.1 (UInt8.le_trans refused.1 (by decide))
  have plain : ¬ (withHeader header (chunk.setTimestamp timestamp)).timeDelta ≥ rtmpExtendedTimestamp := by
    rw [withHeader_drifting driftsToo]
    exact drifts.2.2
  rw [recvChunk_eq, if_neg accepted, recvBody, if_neg plain, withHeader_drifting driftsToo,
    withHeader_drifting drifts]
  rfl

theorem recvChunk_drifting_again {header : RtmpHeader} {chunk : RtmpChunkData}
    (drifts : driftsBack header chunk) (inChunkSize timestamp : UInt32) (data : List UInt8) :
    recvChunk inChunkSize header ((withHeader header chunk).setTimestamp timestamp) data =
      recvChunk inChunkSize header (chunk.setTimestamp timestamp) data := by
  have driftsAgain : driftsBack header (withHeader header chunk) := by
    rw [withHeader_drifting drifts]
    exact drifts
  rw [recvChunk_drifting drifts, recvChunk_drifting driftsAgain, withHeader_drifting driftsAgain,
    withHeader_drifting drifts]

/-- Each drifting short read takes the delta off the timestamp once more. -/
theorem afterShortReads_drifting {header : RtmpHeader} {offset : Nat} (full : List UInt8)
    {attempts : List (List UInt8)} {transport left : RtmpMessageTransport} {chunk : RtmpChunkData}
    (stored : transport.chunkCache header.chunkStreamId = chunk)
    (failures : afterShortReads header offset transport attempts = some left)
    (drifts : driftsBack header chunk) :
    recvAfterDecode left header offset full =
      recvAfterDecode (transport.setChunk header.chunkStreamId
        (chunk.setTimestamp (chunk.h.timestamp - UInt32.ofNat attempts.length * chunk.timeDelta)))
        header offset full := by
  induction attempts generalizing transport chunk with
  | nil =>
      rw [afterShortReads, Option.some.injEq] at failures
      rw [failures]
      have none_taken : chunk.h.timestamp - UInt32.ofNat ([] : List (List UInt8)).length * chunk.timeDelta =
          chunk.h.timestamp := by
        simp
      rw [none_taken, RtmpChunkData.setTimestamp_self]
      exact (recvAfterDecode_setChunk offset (by rw [failures.symm, stored])).symm
  | cons data attempts inductionHypothesis =>
      unfold afterShortReads at failures
      cases received : recvAfterDecode transport header offset data with
      | none => simp only [received, reduceCtorEq] at failures
      | some result =>
          simp only [received] at failures
          by_cases short : result.ret = -1
          · rw [if_pos short] at failures
            rcases shortRead_of_call received short with ⟨chunkResult, _, _, shortRead, resultStored⟩
            rw [stored] at shortRead
            have driftsAgain : driftsBack header chunkResult.chunk := (driftsBack_shortRead shortRead).mpr drifts
            have sameDelta : chunkResult.chunk.timeDelta = chunk.timeDelta := by
              rw [shortRead.chunk_eq, withHeader_drifting drifts]
              rfl
            have plain : ¬ (withHeader header chunk).timeDelta ≥ rtmpExtendedTimestamp := by
              rw [withHeader_drifting drifts]
              exact drifts.2.2
            have takenOff : chunkResult.chunk.h.timestamp = chunk.h.timestamp - chunk.timeDelta := by
              rw [shortRead.timestamp_plain plain, withHeader_drifting drifts]
            have newStored : result.transport.chunkCache header.chunkStreamId = chunkResult.chunk := by
              rw [resultStored, RtmpMessageTransport.setChunk_same]
            have sum : chunk.h.timestamp - chunk.timeDelta -
                  UInt32.ofNat attempts.length * chunk.timeDelta =
                chunk.h.timestamp - UInt32.ofNat (data :: attempts).length * chunk.timeDelta := by
              rw [List.length_cons, UInt32.ofNat_add]
              grind
            rw [inductionHypothesis newStored failures driftsAgain, sameDelta, takenOff, sum, resultStored,
              RtmpMessageTransport.setChunk_setChunk, shortRead.chunk_eq,
              RtmpChunkData.setTimestamp_setTimestamp]
            exact recvAfterDecode_setChunk_congr offset
              (recvChunk_drifting_again drifts transport.inChunkSize _ full)
          · simp only [short, if_false, reduceCtorEq] at failures

/-- The timestamp after a payload part: kept, or rolled back. -/
theorem recvPayload_timestamp {inChunkSize : UInt32} {chunk : RtmpChunkData} {data : List UInt8}
    {taken : Nat} {result : ChunkResult}
    (received : recvPayload inChunkSize chunk data taken = some result) :
    result.chunk.h.timestamp =
      if result.ret < 0 then chunk.h.timestamp - chunk.timeDelta else chunk.h.timestamp := by
  by_cases failed : result.ret < 0
  · rw [if_pos failed, (recvPayload_failed received failed).1]
    rfl
  · rw [if_neg failed]
    have same := doRecvPayload_setTimestamp inChunkSize chunk data chunk.h.timestamp
    rw [RtmpChunkData.setTimestamp_self] at same
    unfold recvPayload at received
    cases payload : doRecvPayload inChunkSize chunk data with
    | fault => simp only [payload, reduceCtorEq] at received
    | error code =>
        have code_eq := (doRecvPayload_error payload).1
        simp only [payload, code_eq, Option.some.injEq] at received
        rw [← received] at failed
        exact absurd (show (-1 : Int) < 0 by decide) failed
    | ok value =>
        rcases value with ⟨length, stored, finish⟩
        rw [payload] at same
        simp only [retime, Outcome.ok.injEq, Prod.mk.injEq, true_and, and_true] at same
        simp only [payload, Option.some.injEq] at received
        rw [← received, same]
        rfl

/-- The end of a call keeps the timestamp of its chunk part. -/
theorem FinishedCall.timestamp_eq {transport : RtmpMessageTransport} {csId : UInt32} {offset : Nat}
    {chunkResult : ChunkResult} {result : RecvResult}
    (finished : FinishedCall transport csId offset chunkResult result) :
    (result.outcome csId).timestamp = chunkResult.chunk.h.timestamp ∧
      (result.ret < 0 ↔ chunkResult.ret < 0) := by
  cases finished with
  | failed negative =>
      refine ⟨?_, Iff.rfl⟩
      rw [RecvResult.outcome, RtmpMessageTransport.setChunk_same]
  | partly positive unfinished =>
      refine ⟨?_, ?_⟩
      · rw [RecvResult.outcome, RtmpMessageTransport.setChunk_same]
      · simp only
        omega
  | completed positive finish after handled =>
      refine ⟨?_, ?_⟩
      · rw [RecvResult.outcome, RtmpMessageTransport.setChunk_same]
        rfl
      · simp only
        omega

/-- The timestamp that a drifting call ends with. -/
theorem drifting_timestamp {transport : RtmpMessageTransport} {header : RtmpHeader} {offset : Nat}
    {chunk : RtmpChunkData} {timestamp : UInt32} {data : List UInt8} {result : RecvResult}
    (drifts : driftsBack header chunk)
    (received : recvAfterDecode
      (transport.setChunk header.chunkStreamId (chunk.setTimestamp timestamp)) header offset data =
        some result) :
    (result.outcome header.chunkStreamId).timestamp =
      if result.ret < 0 then timestamp - chunk.timeDelta else timestamp := by
  rcases recvAfterDecode_cases received with ⟨chunkResult, found, finished⟩
  rw [RtmpMessageTransport.setChunk_same, recvChunk_drifting drifts] at found
  have sameDelta : (withHeader header chunk).timeDelta = chunk.timeDelta := by
    rw [withHeader_drifting drifts]
  rw [finished.timestamp_eq.1, recvPayload_timestamp found, RtmpChunkData.setTimestamp_timestamp,
    RtmpChunkData.setTimestamp_timeDelta, sameDelta]
  simp only [finished.timestamp_eq.2]

/-- The drift vanishes only when the attempts make it a multiple of `2 ^ 32`. -/
theorem drift_eq_zero (attempts : Nat) (timeDelta : UInt32) :
    UInt32.ofNat attempts * timeDelta = 0 ↔ attempts * timeDelta.toNat % 2 ^ 32 = 0 := by
  rw [← UInt32.toNat_inj, UInt32.toNat_mul, UInt32.toNat_ofNat', Nat.mod_mul_mod]
  rfl

/-- After any number of attempts that ran short on prefixes of `full`, running
the body on `full` shows the caller what a first run on `full` shows, if and
only if the attempts did not drift or their drift adds up to nothing. -/
theorem retry_transparent_iff {header : RtmpHeader} {offset : Nat} {full : List UInt8}
    {attempts : List (List UInt8)} {transport left : RtmpMessageTransport} {direct : RecvResult}
    (prefixes : forall data, data ∈ attempts -> data <+: full)
    (failures : afterShortReads header offset transport attempts = some left)
    (firstRun : recvAfterDecode transport header offset full = some direct) :
    (recvAfterDecode left header offset full).map (RecvResult.outcome header.chunkStreamId) =
        some (direct.outcome header.chunkStreamId) ↔
      header.chunkType ≤ rtmpChunkFmt2Type ∨
      (transport.chunkCache header.chunkStreamId).currentPayloadLen = 0 ∨
      (transport.chunkCache header.chunkStreamId).timeDelta ≥ rtmpExtendedTimestamp ∨
      attempts.length * (transport.chunkCache header.chunkStreamId).timeDelta.toNat % 2 ^ 32 = 0 := by
  generalize stored : transport.chunkCache header.chunkStreamId = chunk
  by_cases drifts : driftsBack header chunk
  · have condition : (header.chunkType ≤ rtmpChunkFmt2Type ∨ chunk.currentPayloadLen = 0 ∨
        chunk.timeDelta ≥ rtmpExtendedTimestamp ∨
        attempts.length * chunk.timeDelta.toNat % 2 ^ 32 = 0) ↔
        UInt32.ofNat attempts.length * chunk.timeDelta = 0 := by
      rw [drift_eq_zero]
      simp only [drifts.1, drifts.2.1, drifts.2.2, false_or]
    have unchanged : transport.setChunk header.chunkStreamId (chunk.setTimestamp chunk.h.timestamp) =
        transport := by
      rw [RtmpChunkData.setTimestamp_self, ← stored]
      exact RtmpMessageTransport.setChunk_self transport header.chunkStreamId
    have atFirst : recvAfterDecode
        (transport.setChunk header.chunkStreamId (chunk.setTimestamp chunk.h.timestamp)) header offset full =
          some direct := by
      rw [unchanged]
      exact firstRun
    rw [condition, afterShortReads_drifting full stored failures drifts]
    constructor
    · intro same
      rcases Option.map_eq_some_iff.mp same with ⟨later, received, sameOutcome⟩
      have sameRet : later.ret = direct.ret := congrArg CallOutcome.ret sameOutcome
      have sameTime := congrArg CallOutcome.timestamp sameOutcome
      rw [drifting_timestamp drifts received, drifting_timestamp drifts atFirst, sameRet] at sameTime
      split at sameTime
      · grind
      · grind
    · intro vanishes
      rw [vanishes, UInt32.sub_zero, atFirst]
      rfl
  · have condition : header.chunkType ≤ rtmpChunkFmt2Type ∨ chunk.currentPayloadLen = 0 ∨
        chunk.timeDelta ≥ rtmpExtendedTimestamp ∨
        attempts.length * chunk.timeDelta.toNat % 2 ^ 32 = 0 := by
      by_contra fails
      simp only [not_or] at fails
      exact drifts ⟨fails.1, fails.2.1, fails.2.2.1⟩
    rw [afterShortReads_steady prefixes failures (by rw [stored]; exact drifts), firstRun]
    exact ⟨fun _ => condition, fun _ => rfl⟩

/-- A transport whose stream 3 holds 128 bytes of a 129-byte message that
started at time 1000, ten milliseconds after the one before it. -/
def startedTransport : RtmpMessageTransport :=
  (RtmpMessageTransport.new fun _ => 0).setChunk 3
    { h := { RtmpHeader.new with timestamp := 1000, msgLength := 129, msgTypeId := 9 }
      timeDelta := 10
      payload := some { size := 129, bytes := List.replicate 128 0 }
      currentPayloadLen := 128 }

/-- A header of the given format for the stream of `startedTransport`. -/
def continuingHeader (chunkType : UInt8) : RtmpHeader :=
  { RtmpHeader.new with chunkType, timestamp := 10, msgLength := 129, msgTypeId := 9 }

/-- A header with a timestamp of its own may run short and loses nothing. -/
theorem retry_transparent_fmt1 :
    Exists fun left => Exists fun direct =>
      afterShortReads (continuingHeader 1) 8 startedTransport [[], []] = some left ∧
      recvAfterDecode startedTransport (continuingHeader 1) 8 [7] = some direct ∧
      (recvAfterDecode left (continuingHeader 1) 8 [7]).map
          (RecvResult.outcome (continuingHeader 1).chunkStreamId) =
        some (direct.outcome (continuingHeader 1).chunkStreamId) := by
  have failuresRun : (afterShortReads (continuingHeader 1) 8 startedTransport [[], []]).isSome = true := by
    decide
  have directRuns : (recvAfterDecode startedTransport (continuingHeader 1) 8 [7]).isSome = true := by
    decide
  have prefixes : forall data, data ∈ [([] : List UInt8), []] -> data <+: [7] := by
    decide
  rcases Option.isSome_iff_exists.mp failuresRun with ⟨left, failures⟩
  rcases Option.isSome_iff_exists.mp directRuns with ⟨direct, firstRun⟩
  refine ⟨left, direct, failures, firstRun, ?_⟩
  exact (retry_transparent_iff prefixes failures firstRun).mpr (Or.inl (by decide))

/-- One attempt without payload bytes moves the time of the message from 1000
to 990. -/
theorem retry_changes_timestamp :
    (startedTransport.chunkCache 3).currentPayloadLen ≤ (startedTransport.chunkCache 3).h.msgLength ∧
    (recvAfterDecode startedTransport (continuingHeader 3) 1 []).map RecvResult.ret = some (-1) ∧
    ((afterShortReads (continuingHeader 3) 1 startedTransport [[]]).bind fun left =>
        (recvAfterDecode left (continuingHeader 3) 1 [7]).map (RecvResult.outcome 3)) ≠
      (recvAfterDecode startedTransport (continuingHeader 3) 1 [7]).map (RecvResult.outcome 3) := by
  decide

end Rtmp
end RtmpClient
