import RtmpClient.Rtmp.DecodeFaults
import RtmpClient.Rtmp.Retry
import RtmpClient.Rtmp.WholeMessage

namespace RtmpClient
namespace Rtmp

open Library Amf0

/-!
# Calls that do not return

A call of `recvRtmpMessage` completes a message when the chunk at the front of the
buffer brings the last of its bytes.  Whether the call returns is then a question
about the body alone: the bytes that its stream holds and those in the buffer.
-/

/-- The bytes of the message in progress. -/
def RtmpChunkData.held (chunk : RtmpChunkData) : List UInt8 :=
  if chunk.currentPayloadLen = 0 then [] else (chunk.payload.map PayloadBlock.bytes).getD []

theorem Holds.held_eq {chunk : RtmpChunkData} {assembly : Assembly UInt8} (holds : Holds chunk assembly) :
    chunk.held = assembly.received := by
  rw [RtmpChunkData.held]
  by_cases idle : assembly.received.length = 0
  · rw [if_pos (holds.idle_iff.mpr idle), List.eq_nil_of_length_eq_zero idle]
  · rw [if_neg fun empty => idle (holds.idle_iff.mp empty), holds.payload_eq idle]
    rfl

/-- The number of bytes that the message of a header still needs. -/
def missingBytes (transport : RtmpMessageTransport) (header : RtmpHeader) : Nat :=
  header.msgLength.toNat - (transport.chunkCache header.chunkStreamId).held.length

/-- The header does not change the length of a message in progress. -/
def SameLength (transport : RtmpMessageTransport) (header : RtmpHeader) : Prop :=
  (transport.chunkCache header.chunkStreamId).held = [] ∨
    (transport.chunkCache header.chunkStreamId).h.msgLength = header.msgLength

/-- The chunk at the front of the buffer is the last one of a message whose type and
body are of this kind. -/
def EndsMessage (transport : RtmpMessageTransport) (data : List UInt8) (kind : UInt8 -> List UInt8 -> Prop) : Prop :=
  Exists fun offset => Exists fun header => RtmpHeader.decode data = .ok (offset, header) ∧
    SameLength transport header ∧ missingBytes transport header ≤ transport.inChunkSize.toNat ∧
    fieldLength header.timestamp + missingBytes transport header ≤ (data.drop offset).length ∧
    kind header.msgTypeId ((transport.chunkCache header.chunkStreamId).held ++
      ((data.drop offset).drop (fieldLength header.timestamp)).take (missingBytes transport header))

/-- The message keeps its decoder from coming to an end. -/
def EndsHarmful (transport : RtmpMessageTransport) (data : List UInt8) : Prop :=
  EndsMessage transport data (HarmfulBody transport.requestsMap)

section Ends

variable {transport : RtmpMessageTransport} {data : List UInt8} {kind : UInt8 -> List UInt8 -> Prop}

theorem endsMessage_iff {offset : Nat} {header : RtmpHeader}
    (decoded : RtmpHeader.decode data = .ok (offset, header)) :
    EndsMessage transport data kind ↔
      SameLength transport header ∧ missingBytes transport header ≤ transport.inChunkSize.toNat ∧
      fieldLength header.timestamp + missingBytes transport header ≤ (data.drop offset).length ∧
      kind header.msgTypeId ((transport.chunkCache header.chunkStreamId).held ++
        ((data.drop offset).drop (fieldLength header.timestamp)).take (missingBytes transport header)) := by
  constructor
  · rintro ⟨offset', header', again, ends⟩
    rw [decoded, Outcome.ok.injEq, Prod.mk.injEq] at again
    rw [again.1, again.2]
    exact ends
  · exact fun ends => ⟨offset, header, decoded, ends⟩

theorem EndsMessage.ne_nil (ends : EndsMessage transport data kind) : data ≠ [] := by
  rintro rfl
  rcases ends with ⟨_, _, decoded, _⟩
  cases decoded

end Ends

section Sound

variable {transport : RtmpMessageTransport} {assemblies : UInt32 -> Assembly UInt8} {header : RtmpHeader}

theorem Sound.held_eq (sound : Sound transport assemblies) (csId : UInt32) :
    (transport.chunkCache csId).held = (assemblies csId).received := (sound.holds csId).held_eq

theorem agrees_iff_sameLength (sound : Sound transport assemblies) :
    Agrees assemblies header ↔ SameLength transport header := by
  rw [Agrees, SameLength, sound.held_eq, ← UInt32.toNat_inj, (sound.holds _).total_eq, ne_eq,
    List.length_eq_zero_iff, ← or_iff_not_imp_left,
    @eq_comm _ header.msgLength.toNat]

theorem announced_received (sound : Sound transport assemblies) :
    (announced assemblies header).received = (transport.chunkCache header.chunkStreamId).held := by
  rw [sound.held_eq, announced]
  by_cases idle : (assemblies header.chunkStreamId).received.length = 0
  · rw [Assembly.announce_idle idle, List.eq_nil_of_length_eq_zero idle]
    rfl
  · rw [Assembly.announce_started idle]

theorem announced_total (agrees : Agrees assemblies header) :
    (announced assemblies header).total = header.msgLength.toNat := by
  rw [announced]
  by_cases idle : (assemblies header.chunkStreamId).received.length = 0
  · rw [Assembly.announce_idle idle, Assembly.start_total]
  · rw [Assembly.announce_started idle, agrees idle]

theorem announced_missing (sound : Sound transport assemblies) (agrees : Agrees assemblies header) :
    (announced assemblies header).missing = missingBytes transport header := by
  rw [Assembly.missing, announced_total agrees, announced_received sound, missingBytes]

theorem bodyLength_eq (sound : Sound transport assemblies) (agrees : Agrees assemblies header) :
    bodyLength transport.inChunkSize assemblies header =
      fieldLength header.timestamp + min (missingBytes transport header) transport.inChunkSize.toNat := by
  rw [bodyLength, Assembly.pieceLength, announced_missing sound agrees]

/-- The message is complete when the chunk size lets all that is missing come. -/
theorem taken_full_iff (sound : Sound transport assemblies) (agrees : Agrees assemblies header)
    {body : List UInt8} (enough : bodyLength transport.inChunkSize assemblies header ≤ body.length) :
    (taken transport.inChunkSize assemblies header body).Full ↔
      missingBytes transport header ≤ transport.inChunkSize.toNat := by
  rw [bodyLength] at enough
  have there : (announced assemblies header).pieceLength transport.inChunkSize.toNat ≤
      (body.drop (fieldLength header.timestamp)).length := by
    rw [List.length_drop]
    omega
  have fits := (announced assemblies header).fits
  have left := announced_missing sound agrees
  rw [Assembly.missing] at left
  rw [Assembly.Full, taken, Assembly.feed_length there, Assembly.feed_total, Assembly.pieceLength,
    announced_missing sound agrees]
  omega

theorem taken_received (sound : Sound transport assemblies) (agrees : Agrees assemblies header)
    (last : missingBytes transport header ≤ transport.inChunkSize.toNat) (body : List UInt8) :
    (taken transport.inChunkSize assemblies header body).received =
      (transport.chunkCache header.chunkStreamId).held ++
        (body.drop (fieldLength header.timestamp)).take (missingBytes transport header) := by
  rw [taken, Assembly.feed_received, announced_received sound, Assembly.pieceLength,
    announced_missing sound agrees, Nat.min_eq_left last]

theorem Sound.accepted (sound : Sound transport assemblies) (fmt0 : header.chunkType = rtmpChunkFmt0Type)
    (agrees : Agrees assemblies header) :
    ¬ lengthRefused header (transport.chunkCache header.chunkStreamId) := by
  rw [(sound.holds header.chunkStreamId).refused_iff fmt0]
  exact fun refused => refused.2 (agrees refused.1)

/-- A completed message has the type of its last chunk and the bytes that were
taken. -/
theorem takenChunk_msgTypeId (sound : Sound transport assemblies) (fmt0 : header.chunkType = rtmpChunkFmt0Type)
    (agrees : Agrees assemblies header) (body : List UInt8) :
    (takenChunk transport assemblies header body).createMsg.rtmpHeader.msgTypeId = header.msgTypeId := by
  have fmt1 : header.chunkType ≤ rtmpChunkFmt1Type := by
    rw [fmt0]
    decide
  exact if_pos ⟨fmt1, sound.accepted fmt0 agrees⟩

theorem takenChunk_rtmpBody (body : List UInt8) :
    (takenChunk transport assemblies header body).createMsg.rtmpBody =
      (taken transport.inChunkSize assemblies header body).received := rfl

/-- What a call completes has the length that was announced. -/
theorem takenChunk_whole (sound : Sound transport assemblies) {data : List UInt8} {offset : Nat}
    (decoded : RtmpHeader.decode data = .ok (offset, header)) (agrees : Agrees assemblies header)
    (full : (taken transport.inChunkSize assemblies header (data.drop offset)).Full) :
    (takenChunk transport assemblies header (data.drop offset)).createMsg.Whole := by
  have facts := RtmpHeader.decoded_of_decode decoded
  have opened := (sound.holds header.chunkStreamId).withHeader facts.chunkType_eq
    (sound.accepted facts.chunkType_eq agrees) facts.msgLength_lt
  have stored := takenChunk_holds opened (data.drop offset)
  have total : (takenChunk transport assemblies header (data.drop offset)).createMsg.rtmpBodyLen.toNat =
      (taken transport.inChunkSize assemblies header (data.drop offset)).total := stored.total_eq
  exact ⟨createMsg_length stored full, total ▸ stored.total_lt⟩

/-- What is completed on a sound transport is a message with its length. -/
theorem recvUndecoded_whole (sound : Sound transport assemblies) {data : List UInt8} {result : RecvResult}
    {msg : RtmpMessage} (call : recvUndecoded transport data = some result) (completed : result.message = some msg) :
    msg.Whole := by
  have nonempty : data ≠ [] := by
    rintro rfl
    cases call
  rcases recvUndecoded_effect sound nonempty with ⟨found, after, again, effect, _⟩
  rw [call, Option.some.injEq] at again
  rw [again] at completed
  cases effect with
  | completed decoded agrees enough full _ _ =>
      rw [← Option.some.inj completed]
      exact takenChunk_whole sound decoded agrees full
  | _ => cases completed

/-- Whether the call completes a message, and which one, is told by the chunk at the
front and the bytes that its stream holds. -/
theorem endsMessage_iff_completed (sound : Sound transport assemblies) {data : List UInt8} {result : RecvResult}
    (call : recvUndecoded transport data = some result) (kind : UInt8 -> List UInt8 -> Prop) :
    EndsMessage transport data kind ↔
      Exists fun msg => result.message = some msg ∧ kind msg.rtmpHeader.msgTypeId msg.rtmpBody := by
  have nonempty : data ≠ [] := by
    rintro rfl
    cases call
  rcases recvUndecoded_effect sound nonempty with ⟨found, after, again, effect, _⟩
  rw [call, Option.some.injEq] at again
  rw [again]
  cases effect with
  | noHeader incomplete =>
      refine iff_of_false ?_ fun ⟨_, completed, _⟩ => by cases completed
      rintro ⟨offset, header, decoded, _⟩
      cases incomplete.symm.trans decoded
  | refused decoded disagrees =>
      refine iff_of_false ?_ fun ⟨_, completed, _⟩ => by cases completed
      rw [endsMessage_iff decoded, ← agrees_iff_sameLength sound]
      exact fun ends => disagrees ends.1
  | short decoded agrees incomplete _ =>
      refine iff_of_false ?_ fun ⟨_, completed, _⟩ => by cases completed
      rw [endsMessage_iff decoded]
      rintro ⟨_, last, enough, _⟩
      rw [bodyLength_eq sound agrees, Nat.min_eq_left last] at incomplete
      exact absurd enough (Nat.not_le.mpr incomplete)
  | partly decoded agrees enough unfinished =>
      refine iff_of_false ?_ fun ⟨_, completed, _⟩ => by cases completed
      rw [endsMessage_iff decoded]
      exact fun ends => unfinished ((taken_full_iff sound agrees enough).mpr ends.2.1)
  | @completed offset header decoded agrees enough full _ _ =>
      have fmt0 := (RtmpHeader.decoded_of_decode decoded).chunkType_eq
      have last := (taken_full_iff sound agrees enough).mp full
      have room : fieldLength header.timestamp + missingBytes transport header ≤ (data.drop offset).length := by
        rw [bodyLength_eq sound agrees, Nat.min_eq_left last] at enough
        exact enough
      simp only [Option.some.injEq, exists_eq_left', takenChunk_msgTypeId sound fmt0 agrees, takenChunk_rtmpBody,
        taken_received sound agrees last]
      rw [endsMessage_iff decoded]
      exact ⟨fun ends => ends.2.2.2, fun ends => ⟨(agrees_iff_sameLength sound).mp agrees, last, room, ends⟩⟩

/-- The call does not return exactly when it ends a message that keeps its decoder
from coming to an end. -/
theorem recvRtmpMessage_fault_iff (sound : Sound transport assemblies) {data : List UInt8} (nonempty : data ≠ []) :
    recvRtmpMessage decodeCompleted transport data = none ↔ EndsHarmful transport data := by
  rcases recvUndecoded_effect sound nonempty with ⟨result, _, call, _, _⟩
  rw [EndsHarmful, endsMessage_iff_completed sound call, ← (recvUndecoded_sendSide call).1,
    ← Option.not_isSome_iff_eq_none, Option.isSome_iff_exists, recvRtmpMessage_returns_iff call]
  simp only [not_forall, ne_eq, not_not, decodeCompleted_eq_none_iff]
  constructor
  · rintro ⟨msg, completed, faults⟩
    exact ⟨msg, completed, (messagePacket_fault_iff _ (recvUndecoded_whole sound call completed)).mp faults⟩
  · rintro ⟨msg, completed, harmful⟩
    exact ⟨msg, completed, (messagePacket_fault_iff _ (recvUndecoded_whole sound call completed)).mpr harmful⟩

end Sound

end Rtmp
end RtmpClient
