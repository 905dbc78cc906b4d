import RtmpClient.Rtmp.CommandPacket
import RtmpClient.Rtmp.ControlPacket
import RtmpClient.Rtmp.MediaPacket

namespace RtmpClient
namespace Rtmp

open Library Amf0

/-!
# Every packet class

`RtmpBasePacket *` as one type with a constructor for each class derived from
it.  A virtual function is a match, a `dynamic_cast` a constructor.
-/

/-- The classes derived from `RtmpBasePacket`. -/
inductive RtmpPacket where
  | audio (packet : RtmpAudioPacket)
  | avc (packet : RtmpAvcPacket)
  | video (packet : RtmpVideoPacket)
  | connect (packet : RtmpConnectPacket)
  | connectResponse (packet : RtmpConnectResponsePacket)
  | setWindowAckSize (packet : RtmpSetWindowAckSizePacket)
  | acknowledgement (packet : RtmpAcknowledgementPacket)
  | setChunkSize (packet : RtmpSetChunkSizePacket)
  | setPeerBandwidth (packet : RtmpSetPeerBandwidthPacket)
  | userControl (packet : RtmpUserControlPacket)
  | call (packet : RtmpCallPacket)
  | callResponse (packet : RtmpCallResponsePacket)
  | createStream (packet : RtmpCreateStreamPacket)
  | createStreamResponse (packet : RtmpCreateStreamResponsePacket)
  | closeStream (packet : RtmpCloseStreamPacket)
  | fmleStart (packet : RtmpFmleStartPacket)
  | fmleStartResponse (packet : RtmpFmleStartResponsePacket)
  | publish (packet : RtmpPublishPacket)
  | pause (packet : RtmpPausePacket)
  | play (packet : RtmpPlayPacket)
  | playResponse (packet : RtmpPlayResponsePacket)
  | onBwDone (packet : RtmpOnBwDonePacket)
  | onStatusCall (packet : RtmpOnStatusCallPacket)
  | onStatusData (packet : RtmpOnStatusDataPacket)
  | sampleAccess (packet : RtmpSampleAccessPacket)
  | onMetaData (packet : RtmpOnMetaDataPacket)
  deriving Repr

namespace RtmpPacket

def getPkgLen : RtmpPacket -> Nat
  | audio packet => packet.getPkgLen
  | avc packet => packet.getPkgLen
  | video packet => packet.getPkgLen
  | connect packet => packet.getPkgLen
  | connectResponse packet => packet.getPkgLen
  | setWindowAckSize packet => packet.getPkgLen
  | acknowledgement packet => packet.getPkgLen
  | setChunkSize packet => packet.getPkgLen
  | setPeerBandwidth packet => packet.getPkgLen
  | userControl packet => packet.getPkgLen
  | call packet => packet.getPkgLen
  | callResponse packet => packet.getPkgLen
  | createStream packet => packet.getPkgLen
  | createStreamResponse packet => packet.getPkgLen
  | closeStream packet => packet.getPkgLen
  | fmleStart packet => packet.getPkgLen
  | fmleStartResponse packet => packet.getPkgLen
  | publish packet => packet.getPkgLen
  | pause packet => packet.getPkgLen
  | play packet => packet.getPkgLen
  | playResponse packet => packet.getPkgLen
  | onBwDone packet => packet.getPkgLen
  | onStatusCall packet => packet.getPkgLen
  | onStatusData packet => packet.getPkgLen
  | sampleAccess packet => packet.getPkgLen
  | onMetaData packet => packet.getPkgLen

def encodePkg : RtmpPacket -> Writer UInt8
  | audio packet => packet.encodePkg
  | avc packet => packet.encodePkg
  | video packet => packet.encodePkg
  | connect packet => packet.encodePkg
  | connectResponse packet => packet.encodePkg
  | setWindowAckSize packet => packet.encodePkg
  | acknowledgement packet => packet.encodePkg
  | setChunkSize packet => packet.encodePkgWithin
  | setPeerBandwidth packet => packet.encodePkg
  | userControl packet => packet.encodePkg
  | call packet => packet.encodePkg
  | callResponse packet => packet.encodePkg
  | createStream packet => packet.encodePkg
  | createStreamResponse packet => packet.encodePkg
  | closeStream packet => packet.encodePkg
  | fmleStart packet => packet.encodePkg
  | fmleStartResponse packet => packet.encodePkg
  | publish packet => packet.encodePkg
  | pause packet => packet.encodePkg
  | play packet => packet.encodePkg
  | playResponse packet => packet.encodePkg
  | onBwDone packet => packet.encodePkg
  | onStatusCall packet => packet.encodePkg
  | onStatusData packet => packet.encodePkg
  | sampleAccess packet => packet.encodePkg
  | onMetaData packet => packet.encodePkg

def getCsId : RtmpPacket -> UInt32
  | audio _ => rtmpCidAudio
  | avc _ => rtmpCidVideo
  | video _ => rtmpCidVideo
  | setWindowAckSize _ => rtmpCidProtocolControl
  | acknowledgement _ => rtmpCidProtocolControl
  | setChunkSize _ => rtmpCidProtocolControl
  | setPeerBandwidth _ => rtmpCidProtocolControl
  | userControl _ => rtmpCidProtocolControl
  | publish _ => rtmpCidOverStream
  | play _ => rtmpCidOverStream
  | playResponse _ => rtmpCidOverStream
  | onStatusData _ => rtmpCidOverStream
  | sampleAccess _ => rtmpCidOverStream
  | onMetaData _ => rtmpCidOverConnection2
  | closeStream _ => 0
  | pause _ => 0
  | _ => rtmpCidOverConnection

def getMsgType : RtmpPacket -> UInt8
  | audio _ => rtmpMsgAudioMessage
  | avc _ => rtmpMsgVideoMessage
  | video _ => rtmpMsgVideoMessage
  | setWindowAckSize _ => rtmpMsgWindowAcknowledgementSize
  | acknowledgement _ => rtmpMsgAcknowledgement
  | setChunkSize _ => rtmpMsgSetChunkSize
  | setPeerBandwidth _ => rtmpMsgSetPeerBandwidth
  | userControl _ => rtmpMsgUserControlMessage
  | onStatusData _ => rtmpMsgAmf0DataMessage
  | sampleAccess _ => rtmpMsgAmf0DataMessage
  | onMetaData _ => rtmpMsgAmf0DataMessage
  | closeStream _ => 0
  | pause _ => 0
  | _ => rtmpMsgAmf0CommandMessage

def getTimestamp : RtmpPacket -> UInt32
  | audio packet => packet.timestamp
  | video packet => packet.timestamp
  | _ => 0

/-- What the `dynamic_cast`s of `on_send_message` find. -/
def dynamicClass : RtmpPacket -> PacketClass
  | setChunkSize packet => .setChunkSize packet.chunkSize
  | setWindowAckSize packet => .setWindowAckSize packet.windowAckSize
  | connect packet => .request packet.number packet.commandName
  | createStream packet => .request packet.number packet.commandName
  | fmleStart packet => .request packet.number packet.commandName
  | _ => .other

/-- `RtmpBasePacket::encode`.  `fresh` is what `new uint8_t[length]` held; the
count that `encode_pkg` returns is not looked at. -/
def encode (packet : RtmpPacket) (fresh : List UInt8) : Outcome (List UInt8) :=
  if packet.getPkgLen > 0 then do
    let cells ← (packet.encodePkg packet.getPkgLen).errorAs (-1)
    return overlay fresh cells
  else .ok []

/-- The payload is as long as the memory it was encoded into. -/
theorem encode_length {packet : RtmpPacket} {fresh payload : List UInt8}
    (block : fresh.length = packet.getPkgLen) (encoded : packet.encode fresh = .ok payload) :
    payload.length = packet.getPkgLen := by
  rw [encode] at encoded
  split at encoded
  · rcases Outcome.bind_eq_ok encoded with ⟨cells, -, last⟩
    rw [← Outcome.ok.inj last, overlay_length, block]
  next empty =>
    rw [← Outcome.ok.inj encoded, List.length_nil]
    omega

/-- The payload that `encode` hands out, from memory that held zeros. -/
def payload (packet : RtmpPacket) : Option (List UInt8) :=
  match packet.encode (List.replicate packet.getPkgLen 0) with
  | .ok bytes => some bytes
  | _ => none

/-- The packet as `sendRtmpMessage` sees it. -/
def toBase (packet : RtmpPacket) : RtmpBasePacket where
  getCsId := packet.getCsId
  getMsgType := packet.getMsgType
  getTimestamp := packet.getTimestamp
  getPkgLen := packet.getPkgLen
  payload := packet.payload
  dynamicClass := packet.dynamicClass
  encode_length := by
    intro bytes found
    rw [payload] at found
    split at found
    next encoded =>
      rw [← Option.some.inj found]
      exact encode_length List.length_replicate encoded
    · cases found

end RtmpPacket

end Rtmp
end RtmpClient
