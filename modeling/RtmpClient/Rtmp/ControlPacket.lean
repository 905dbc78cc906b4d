import RtmpClient.Library.Codec
import RtmpClient.Rtmp.Packet

namespace RtmpClient
namespace Rtmp

open Library Net

/-!
# Protocol control messages (`rtmp_stack_packet.cc`)

The bodies without AMF0: fixed fields behind one check of the size.  The packets
that the receive path decodes are those of `Rtmp.Packet`; here stand the two
others, and `get_pkg_len` and `encode_pkg` of all five.
-/

def rtmpMsgAcknowledgement : UInt8 := 0x03
def rtmpMsgSetPeerBandwidth : UInt8 := 0x06

def rtmpPcucFmsEvent0 : Int16 := 0x1a

/-- One check of the size in front of the stores. -/
def writeChecked (needed : Nat) (cells : List UInt8) : Writer UInt8 := fun size =>
  if size < needed then .error (-1) else store size cells

theorem writeChecked_emits {needed : Nat} {cells : List UInt8} (length : cells.length = needed) :
    Emits (writeChecked needed cells) cells := by
  intro room enough
  have roomy : ¬ room < needed := by omega
  rw [writeChecked, if_neg roomy, store_of_le enough]

/-! ## The acknowledged sizes and numbers -/

namespace RtmpSetChunkSizePacket

def getPkgLen (_packet : RtmpSetChunkSizePacket) : Nat := 4

/-- `encode_pkg` with its check. -/
def encodePkgWithin (packet : RtmpSetChunkSizePacket) : Writer UInt8 := writeChecked 4 packet.encodePkg

end RtmpSetChunkSizePacket

namespace RtmpSetWindowAckSizePacket

def getPkgLen (_packet : RtmpSetWindowAckSizePacket) : Nat := 4

def encodePkg (packet : RtmpSetWindowAckSizePacket) : Writer UInt8 :=
  writeChecked 4 (writeInt32 packet.windowAckSize)

/-- Decoding what was encoded restores the field, whatever follows. -/
theorem decode_write (old packet : RtmpSetWindowAckSizePacket) (rest : List UInt8) {len : Int}
    (enough : 4 ≤ len) :
    old.decode (writeInt32 packet.windowAckSize ++ rest) len = .ok (4, packet) := by
  have notShort : ¬ len < 4 := by omega
  have restored : readInt32 (writeInt32 packet.windowAckSize ++ rest) 0 = .ok packet.windowAckSize :=
    readInt32_write packet.windowAckSize [] rest
  simp only [decode, notShort, if_false, restored, Outcome.ok_bind_do, Outcome.pure_eq]

end RtmpSetWindowAckSizePacket

/-- `RtmpAcknowledgementPacket`. -/
structure RtmpAcknowledgementPacket where
  sequenceNumber : UInt32
  deriving DecidableEq, Repr

namespace RtmpAcknowledgementPacket

/-- The constructor. -/
def new : RtmpAcknowledgementPacket where
  sequenceNumber := 0

/-- `decode`, with the value it returns. -/
def decode (_packet : RtmpAcknowledgementPacket) : Reader UInt8 RtmpAcknowledgementPacket := fun data =>
  if data.length < 4 then .error (-1)
  else do
    let sequenceNumber ← readUint32 data 0
    return (4, { sequenceNumber })

def getPkgLen (_packet : RtmpAcknowledgementPacket) : Nat := 4

def encodePkg (packet : RtmpAcknowledgementPacket) : Writer UInt8 :=
  writeChecked 4 (writeInt32 packet.sequenceNumber.toInt32)

end RtmpAcknowledgementPacket

/-- `RtmpSetPeerBandwidthPacket`. -/
structure RtmpSetPeerBandwidthPacket where
  bandwidth : Int32
  type : UInt8
  deriving DecidableEq, Repr

namespace RtmpSetPeerBandwidthPacket

/-- The constructor.  `RtmpPeerBandwidthDynamic` is 0. -/
def new : RtmpSetPeerBandwidthPacket where
  bandwidth := 0
  type := 0

/-- `decode`, with the value it returns. -/
def decode (_packet : RtmpSetPeerBandwidthPacket) : Reader UInt8 RtmpSetPeerBandwidthPacket := fun data =>
  if data.length < 5 then .error (-1)
  else do
    let bandwidth ← readInt32 data 0
    let type ← Outcome.read data 4
    return (5, { bandwidth, type })

def getPkgLen (_packet : RtmpSetPeerBandwidthPacket) : Nat := 5

def encodePkg (packet : RtmpSetPeerBandwidthPacket) : Writer UInt8 :=
  writeChecked 5 (writeInt32 packet.bandwidth ++ [packet.type])

end RtmpSetPeerBandwidthPacket

/-! ## User control -/

namespace RtmpUserControlPacket

def getPkgLen (packet : RtmpUserControlPacket) : Nat :=
  2 + (if packet.eventType = rtmpPcucFmsEvent0 then 1 else 4) +
    (if packet.eventType = rtmpPcucSetBufferLength then 4 else 0)

/-- The bytes of the event: its type, one or four bytes of data, and the
buffer length where the type has one. -/
def body (packet : RtmpUserControlPacket) : List UInt8 :=
  writeInt16 packet.eventType ++
    (if packet.eventType = rtmpPcucFmsEvent0 then writeInt8 packet.eventData.toInt8
      else writeInt32 packet.eventData) ++
    (if packet.eventType = rtmpPcucSetBufferLength then writeInt32 packet.extraData else [])

def encodePkg (packet : RtmpUserControlPacket) : Writer UInt8 :=
  writeChecked packet.getPkgLen packet.body

theorem body_length (packet : RtmpUserControlPacket) : packet.body.length = packet.getPkgLen := by
  rw [body, getPkgLen, List.length_append, List.length_append, writeInt16_length]
  congr 1
  · congr 1
    split
    · exact writeInt8_length _
    · exact writeInt32_length _
  · split
    · exact writeInt32_length _
    · rfl

end RtmpUserControlPacket

end Rtmp
end RtmpClient
