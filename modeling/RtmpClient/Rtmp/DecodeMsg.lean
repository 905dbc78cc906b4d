import RtmpClient.Rtmp.ControlMessages

namespace RtmpClient
namespace Rtmp

open Library Amf0

/-!
# From messages to packets (`rtmp_transport.cc`, `decode_msg`)

The class is chosen by the message type and, for commands and data, by the
name in front of the body; an answer takes the name of the request that its
number was recorded for.  `decode_msg` returns a count with the packet that it
stores in `*ppacket`; on a negative code for a command it stores none.
-/

/-! ## Recorded requests -/

/-- `requestsMap_.find(number)`, the name found there.  The keys are hashed and
compared with `==`, so a NaN is never found. -/
def RequestsMap.find (requests : RequestsMap) (number : UInt64) : Option (List UInt8) :=
  (List.find? (fun entry => doubleEq entry.1 number) requests).map Prod.snd

/-- The number was recorded for a request of this name. -/
def RequestsMap.Recorded (requests : RequestsMap) (number : UInt64) (name : List UInt8) : Prop :=
  Exists fun recorded => (recorded, name) ∈ requests ∧ doubleEq recorded number = true

/-- What is found was recorded, under a number equal to the one searched for. -/
theorem RequestsMap.find_recorded {requests : RequestsMap} {number : UInt64} {name : List UInt8}
    (found : requests.find number = some name) : requests.Recorded number name := by
  rcases Option.map_eq_some_iff.mp found with ⟨⟨recorded, text⟩, first, rfl⟩
  have equal := List.find?_some first
  exact ⟨recorded, List.mem_of_find?_eq_some first, equal⟩

/-! ## Commands and data -/

/-- A new packet decodes the body behind `offset`; its class is `wrap`. -/
def decodeAt {α : Type} (wrap : α -> RtmpPacket) (decode : Reader UInt8 α) (offset : Nat)
    (body : List UInt8) : Outcome (Int × RtmpPacket) := do
  let (ret, packet) ← decode (body.drop offset)
  return ((offset + ret : Nat), wrap packet)

/-- The answer to a request of this name. -/
def decodeResponse (requestName : List UInt8) : (offset : Nat) -> (body : List UInt8) ->
    Outcome (Int × RtmpPacket) :=
  if requestName = ascii "connect" then
    decodeAt .connectResponse RtmpConnectResponsePacket.new.decode
  else if requestName = ascii "createStream" then
    decodeAt .createStreamResponse (RtmpCreateStreamResponsePacket.new 0 0).decode
  else if requestName = ascii "releaseStream" then
    decodeAt .fmleStartResponse (RtmpFmleStartResponsePacket.new 0).decode
  else if requestName = ascii "FCPublish" then
    decodeAt .fmleStartResponse (RtmpFmleStartResponsePacket.new 0).decode
  else if requestName = ascii "FCUnpublish" then
    decodeAt .fmleStartResponse (RtmpFmleStartResponsePacket.new 0).decode
  else fun _ _ => .error (-2)

/-- A command or data message of this name.  The branch for createStream makes
a `RtmpCloseStreamPacket`. -/
def decodeRequest (msgTypeId : UInt8) (command : List UInt8) : (offset : Nat) -> (body : List UInt8) ->
    Outcome (Int × RtmpPacket) :=
  if command = ascii "connect" then decodeAt .connect RtmpConnectPacket.new.decode
  else if command = ascii "createStream" then decodeAt .closeStream RtmpCloseStreamPacket.new.decode
  else if command = ascii "play" then decodeAt .play RtmpPlayPacket.new.decode
  else if command = ascii "pause" then decodeAt .pause RtmpPausePacket.new.decode
  else if command = ascii "releaseStream" then decodeAt .fmleStart RtmpFmleStartPacket.new.decode
  else if command = ascii "FCPublish" then decodeAt .fmleStart RtmpFmleStartPacket.new.decode
  else if command = ascii "publish" then decodeAt .publish RtmpPublishPacket.new.decode
  else if command = ascii "FCUnpublish" then decodeAt .fmleStart RtmpFmleStartPacket.new.decode
  else if command = ascii "@setDataFrame" then decodeAt .onMetaData RtmpOnMetaDataPacket.new.decode
  else if command = ascii "onMetaData" then decodeAt .onMetaData RtmpOnMetaDataPacket.new.decode
  else if command = ascii "closeStream" then decodeAt .closeStream RtmpCloseStreamPacket.new.decode
  else if msgTypeId = rtmpMsgAmf0CommandMessage ∨ msgTypeId = rtmpMsgAmf3CommandMessage then
    decodeAt .call RtmpCallPacket.new.decode
  else fun _ _ => .error (-2)

/-- The name in front of the body, and the branch it leads to.  A body of type
AMF3 command begins one byte later. -/
def decodeCommand (requests : RequestsMap) (msgTypeId : UInt8) (body : List UInt8) :
    Outcome (Int × RtmpPacket) := do
  let offset := if msgTypeId = rtmpMsgAmf3CommandMessage then 1 else 0
  let (ret, command) ← rtmpAmf0ReadString [] (body.drop offset)
  if command = ascii "_result" ∨ command = ascii "_error" then do
    let (_, number) ← rtmpAmf0ReadNumber (body.drop (offset + ret))
    match requests.find number with
    | none => .error (-2)
    | some requestName => decodeResponse requestName offset body
  else decodeRequest msgTypeId command offset body

/-! ## All messages -/

/-- The decoders of control messages.  Their codes are only added to the
offset: after an error the packet is handed out as it was made. -/
def decodeControl {α : Type} (wrap : α -> RtmpPacket) (made : α) (decoded : Outcome (Nat × α)) :
    Outcome (Int × RtmpPacket) :=
  match decoded with
  | .fault => .fault
  | .error code => .ok (code, wrap made)
  | .ok (ret, packet) => .ok (ret, wrap packet)

/-- `decode_msg`. -/
def decodeMsg (requests : RequestsMap) (msg : RtmpMessage) : Outcome (Int × RtmpPacket) :=
  let msgTypeId := msg.rtmpHeader.msgTypeId
  let body := msg.rtmpBody
  let bodyLen := asInt msg.rtmpBodyLen
  if msgTypeId = rtmpMsgAmf0CommandMessage ∨ msgTypeId = rtmpMsgAmf3CommandMessage ∨
      msgTypeId = rtmpMsgAmf0DataMessage ∨ msgTypeId = rtmpMsgAmf3DataMessage then
    decodeCommand requests msgTypeId body
  else if msgTypeId = rtmpMsgUserControlMessage then
    decodeControl .userControl .new (RtmpUserControlPacket.new.decode body bodyLen)
  else if msgTypeId = rtmpMsgWindowAcknowledgementSize then
    decodeControl .setWindowAckSize .new (RtmpSetWindowAckSizePacket.new.decode body bodyLen)
  else if msgTypeId = rtmpMsgAcknowledgement then
    decodeControl .acknowledgement .new (RtmpAcknowledgementPacket.new.decode body)
  else if msgTypeId = rtmpMsgSetChunkSize then
    decodeControl .setChunkSize .new (RtmpSetChunkSizePacket.new.decode body bodyLen)
  else if msgTypeId = rtmpMsgSetPeerBandwidth then
    decodeControl .setPeerBandwidth .new (RtmpSetPeerBandwidthPacket.new.decode body)
  else .error (-2)

/-- `decode_media_msg`.  The second byte of a video body tells the
configuration from the NAL units; any other value makes no packet.  What the
constructors leave unset is set before it is read. -/
def decodeMediaMsg (msg : RtmpMessage) : Outcome (Option RtmpPacket) :=
  let body := msg.rtmpBody
  if msg.rtmpHeader.msgTypeId = rtmpMsgAudioMessage then do
    let packet ← (RtmpAudioPacket.new 0 msg.rtmpHeader.timestamp).decode body
    return some (.audio packet)
  else do
    let kind ← Outcome.read body 1
    if kind = 0x00 then
      match RtmpAvcPacket.new.decode body with
      | .fault => .fault
      | .error _ => return some (.avc .new)
      | .ok packet => return some (.avc packet)
    else if kind = 0x01 then do
      let packet ← (RtmpVideoPacket.new msg.rtmpHeader.timestamp false).decode body
      return some (.video packet)
    else return none

/-- The packet that `recvRtmpMessage` hands to its caller for a completed
message. -/
def messagePacket (requests : RequestsMap) (msg : RtmpMessage) : Outcome (Option RtmpPacket) :=
  if msg.rtmpHeader.msgTypeId = rtmpMsgAudioMessage ∨ msg.rtmpHeader.msgTypeId = rtmpMsgVideoMessage then
    decodeMediaMsg msg
  else
    match decodeMsg requests msg with
    | .fault => .fault
    | .error _ => .ok none
    | .ok (_, packet) => .ok (some packet)

/-- The decoding inside `recvRtmpMessage`.  A code of the decoder is dropped, and
its caller finds no packet; `none` is a decoder that does not return. -/
def decodeCompleted (msg : RtmpMessage) (requests : RequestsMap) : Option (Option RtmpPacket) :=
  match messagePacket requests msg with
  | .fault => none
  | .error _ => some none
  | .ok packet => some packet

theorem decodeCompleted_eq_none_iff (msg : RtmpMessage) (requests : RequestsMap) :
    decodeCompleted msg requests = none ↔ messagePacket requests msg = .fault := by
  rw [decodeCompleted]
  cases messagePacket requests msg with
  | fault => exact iff_of_true rfl rfl
  | _ => exact iff_of_false (fun impossible => by cases impossible) fun impossible => by cases impossible

end Rtmp
end RtmpClient
