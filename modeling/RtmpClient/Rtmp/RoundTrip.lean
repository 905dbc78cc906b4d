import RtmpClient.Rtmp.SendLemmas
import RtmpClient.Rtmp.WholeMessage

namespace RtmpClient
namespace Rtmp

open Library

/-!
# One message from sender to receiver

A message that goes out in one chunk and fits the receiver's chunk size arrives
in one call, with every field of its header except the message stream id.
-/

/-- A payload that fits one chunk goes out behind its header. -/
theorem sendRtmpMessage_single {sender : RtmpMessageTransport} {pkg : RtmpBasePacket} {bytes : List UInt8}
    (encoded : pkg.payload = some bytes) (nonempty : 0 < bytes.length)
    (single : bytes.length ≤ sender.outChunkSize.toNat) (streamid : UInt32) :
    Exists fun ops => sendRtmpMessage sender pkg streamid = some (ops, onSendMessage sender pkg) ∧
      forall memory, wireBytes memory ops = RtmpHeader.fmt0Bytes (packetHeader pkg streamid) ++ bytes := by
  have positive : 0 < sender.outChunkSize.toNat := Nat.lt_of_lt_of_le nonempty single
  rcases doSendMessage_wire positive (packetHeader pkg streamid) bytes with ⟨ops, sent, wire⟩
  refine ⟨ops, ?_, ?_⟩
  · simp only [sendRtmpMessage, encoded, sent, Option.map_some]
  · intro memory
    rw [wire memory, messageChunks_single _ nonempty single]

/-- The length field holds the length of the payload. -/
theorem packetHeader_msgLength {pkg : RtmpBasePacket} {bytes : List UInt8}
    (encoded : pkg.payload = some bytes) (small : bytes.length < 2 ^ 24) (streamid : UInt32) :
    (packetHeader pkg streamid).msgLength.toNat = bytes.length := by
  rw [packetHeader, ← pkg.encode_length bytes encoded, UInt32.toNat_ofNat']
  exact Nat.mod_eq_of_lt (Nat.lt_trans small (by decide))

/-- The message that a fresh receiver builds from what `sendRtmpMessage` puts
on the wire. -/
def builtMessage (sender : RtmpMessageTransport) (pkg : RtmpBasePacket) (streamid : UInt32)
    (memory : Memory UInt8) (stale : UInt32 -> UInt32) : Option RtmpMessage :=
  (sendRtmpMessage sender pkg streamid).bind fun sent =>
    (recvUndecoded (RtmpMessageTransport.new stale) (wireBytes memory sent.1)).bind RecvResult.message

/-- The five header fields of a message are the sender's. -/
structure HeaderAgrees (pkg : RtmpBasePacket) (streamid : UInt32) (msg : RtmpMessage) : Prop where
  chunkStreamId_eq : msg.rtmpHeader.chunkStreamId = pkg.getCsId
  msgTypeId_eq : msg.rtmpHeader.msgTypeId = pkg.getMsgType
  msgLength_eq : msg.rtmpHeader.msgLength.toNat = pkg.getPkgLen
  timestamp_eq : msg.rtmpHeader.timestamp = pkg.getTimestamp
  msgStreamId_eq : msg.rtmpHeader.msgStreamId = streamid

/-- A fresh receiver builds the message with the message stream id 0. -/
theorem builtMessage_eq {sender : RtmpMessageTransport} {pkg : RtmpBasePacket} {bytes : List UInt8}
    (encoded : pkg.payload = some bytes) (nonempty : 1 ≤ bytes.length) (short : bytes.length ≤ 128)
    (single : bytes.length ≤ sender.outChunkSize.toNat) (csLow : 2 ≤ pkg.getCsId.toNat)
    (csHigh : pkg.getCsId.toNat < 64) (streamid : UInt32) (memory : Memory UInt8)
    (stale : UInt32 -> UInt32) :
    Exists fun msg => builtMessage sender pkg streamid memory stale = some msg ∧
      Delivered (packetHeader pkg streamid) bytes msg ∧ msg.rtmpHeader.msgStreamId = 0 := by
  rcases sendRtmpMessage_single encoded nonempty single streamid with ⟨ops, sent, wire⟩
  have small : bytes.length < 2 ^ 24 := Nat.lt_of_le_of_lt short (by decide)
  have length := packetHeader_msgLength encoded small streamid
  rcases recv_wholeMessage (Idle.new stale) (packetHeader pkg streamid) csLow csHigh length small short []
    with ⟨result, msg, call, received⟩
  rw [List.append_nil] at call
  refine ⟨msg, ?_, received.delivered, received.msgStreamId_eq⟩
  simp only [builtMessage, sent, wire memory, call, received.message_eq, Option.bind_some]

/-- The header of a single-chunk message survives exactly when its message
stream id is 0: the receiver copies that field for chunk stream 0 only. -/
theorem header_roundTrip_iff (sender : RtmpMessageTransport) (pkg : RtmpBasePacket) {bytes : List UInt8}
    (encoded : pkg.payload = some bytes) (nonempty : 1 ≤ bytes.length) (short : bytes.length ≤ 128)
    (single : bytes.length ≤ sender.outChunkSize.toNat) (csLow : 2 ≤ pkg.getCsId.toNat)
    (csHigh : pkg.getCsId.toNat < 64) (time : pkg.getTimestamp.toNat < 2 ^ 31) (streamid : UInt32)
    (memory : Memory UInt8) (stale : UInt32 -> UInt32) :
    (Exists fun msg => builtMessage sender pkg streamid memory stale = some msg ∧
      HeaderAgrees pkg streamid msg) ↔ streamid = 0 := by
  rcases builtMessage_eq encoded nonempty short single csLow csHigh streamid memory stale with
    ⟨msg, built, delivered, lost⟩
  constructor
  · rintro ⟨other, builtToo, agrees⟩
    rw [built, Option.some.injEq] at builtToo
    rw [← agrees.msgStreamId_eq, ← builtToo, lost]
  · intro zero
    have small : bytes.length < 2 ^ 24 := Nat.lt_of_le_of_lt short (by decide)
    have length : msg.rtmpHeader.msgLength.toNat = pkg.getPkgLen := by
      rw [delivered.msgLength_eq, packetHeader_msgLength encoded small, pkg.encode_length bytes encoded]
    exact ⟨msg, built,
      { chunkStreamId_eq := delivered.chunkStreamId_eq
        msgTypeId_eq := delivered.msgTypeId_eq
        msgLength_eq := length
        timestamp_eq := delivered.timestamp_eq time
        msgStreamId_eq := by rw [lost, zero] }⟩

/-- A one-byte video message with the largest timestamp, on message stream 0. -/
theorem header_roundTrip_extended :
    Exists fun msg =>
      builtMessage (RtmpMessageTransport.new fun _ => 0) (.ofPayload 6 9 0x7fffffff [7] .other) 0
        (fun _ => 0) (fun _ => 0) = some msg ∧
      HeaderAgrees (.ofPayload 6 9 0x7fffffff [7] .other) 0 msg :=
  (header_roundTrip_iff (RtmpMessageTransport.new fun _ => 0) (.ofPayload 6 9 0x7fffffff [7] .other)
    rfl (by decide) (by decide) (by decide) (by decide) (by decide) (by decide) 0
    (fun _ => 0) (fun _ => 0)).mpr rfl

/-- The same message on message stream 1 comes back with message stream 0. -/
theorem header_loses_msgStreamId :
    ¬ Exists fun msg =>
      builtMessage (RtmpMessageTransport.new fun _ => 0) (.ofPayload 6 9 0x7fffffff [7] .other) 1
        (fun _ => 0) (fun _ => 0) = some msg ∧
      HeaderAgrees (.ofPayload 6 9 0x7fffffff [7] .other) 1 msg := by
  have lost : ((builtMessage (RtmpMessageTransport.new fun _ => 0)
      (.ofPayload 6 9 0x7fffffff [7] .other) 1 (fun _ => 0) (fun _ => 0)).map
        fun msg => msg.rtmpHeader.msgStreamId) = some 0 := by
    decide
  rintro ⟨msg, built, agrees⟩
  rw [built, Option.map_some, agrees.msgStreamId_eq] at lost
  exact absurd lost (by decide)

end Rtmp
end RtmpClient
