import RtmpClient.Net.Netio
import RtmpClient.Rtmp.Header

namespace RtmpClient
namespace Rtmp

open Library Net

/-!
# Packets as the transport sees them (`RtmpBasePacket` and the control packets)

The transport uses a packet through its virtual functions and through the
`dynamic_cast`s of `on_send_message`.  `RtmpBasePacket` records exactly these
answers.  The three control packets whose `decode` runs inside the receive path
are modelled with their fields.
-/

def rtmpMsgSetChunkSize : UInt8 := 0x01
def rtmpMsgUserControlMessage : UInt8 := 0x04
def rtmpMsgWindowAcknowledgementSize : UInt8 := 0x05
def rtmpMsgAudioMessage : UInt8 := 8
def rtmpMsgVideoMessage : UInt8 := 9
def rtmpMsgAmf3CommandMessage : UInt8 := 17
def rtmpMsgAmf0CommandMessage : UInt8 := 20

def rtmpPcucSetBufferLength : Int16 := 0x03

/-- The dynamic class of a packet as far as a `dynamic_cast` of
`on_send_message` tells it apart, with the fields read after the cast.  A
request is one of connect, createStream and the FMLE start family; its number
is kept as the 64 bits of the double. -/
inductive PacketClass where
  | setChunkSize (chunkSize : Int32)
  | setWindowAckSize (windowAckSize : Int32)
  | request (number : UInt64) (commandName : List UInt8)
  | other
  deriving DecidableEq, Repr

/-- A packet about to be sent.  `payload` is what `encode` hands out, `none`
when `encode_pkg` fails; `get_pkg_len` is its length in the first case. -/
structure RtmpBasePacket where
  getCsId : UInt32
  getMsgType : UInt8
  getTimestamp : UInt32
  getPkgLen : Nat
  payload : Option (List UInt8)
  dynamicClass : PacketClass
  encode_length : forall bytes, payload = some bytes -> bytes.length = getPkgLen

namespace RtmpBasePacket

/-- A packet whose encoding succeeds. -/
def ofPayload (csId : UInt32) (msgType : UInt8) (timestamp : UInt32) (bytes : List UInt8)
    (dynamicClass : PacketClass) : RtmpBasePacket where
  getCsId := csId
  getMsgType := msgType
  getTimestamp := timestamp
  getPkgLen := bytes.length
  payload := some bytes
  dynamicClass := dynamicClass
  encode_length := by
    intro found same
    rw [Option.some.inj same]

end RtmpBasePacket

/-- `RtmpSetChunkSizePacket`. -/
structure RtmpSetChunkSizePacket where
  chunkSize : Int32
  deriving DecidableEq, Repr

namespace RtmpSetChunkSizePacket

/-- The constructor. -/
def new : RtmpSetChunkSizePacket where
  chunkSize := 128

/-- `decode`: the return value and the packet it leaves behind. -/
def decode (_packet : RtmpSetChunkSizePacket) (data : List UInt8) (len : Int) :
    Outcome (Nat × RtmpSetChunkSizePacket) :=
  if len < 4 then .error (-1)
  else do
    let chunkSize ← readInt32 data 0
    return (4, { chunkSize })

def encodePkg (packet : RtmpSetChunkSizePacket) : List UInt8 := writeInt32 packet.chunkSize

/-- The packet as `sendRtmpMessage` receives it. -/
def toBase (packet : RtmpSetChunkSizePacket) : RtmpBasePacket :=
  .ofPayload rtmpCidProtocolControl rtmpMsgSetChunkSize 0 packet.encodePkg
    (.setChunkSize packet.chunkSize)

/-- Decoding what was encoded restores the field, whatever follows. -/
theorem decode_encodePkg (old packet : RtmpSetChunkSizePacket) (rest : List UInt8) {len : Int}
    (enough : 4 ≤ len) : old.decode (packet.encodePkg ++ rest) len = .ok (4, packet) := by
  have notShort : ¬ len < 4 := by omega
  have restored : readInt32 (writeInt32 packet.chunkSize ++ rest) 0 = .ok packet.chunkSize :=
    readInt32_write packet.chunkSize [] rest
  simp only [decode, notShort, if_false, encodePkg, restored, Outcome.ok_bind_do, Outcome.pure_eq]

end RtmpSetChunkSizePacket

/-- `RtmpSetWindowAckSizePacket`. -/
structure RtmpSetWindowAckSizePacket where
  windowAckSize : Int32
  deriving DecidableEq, Repr

namespace RtmpSetWindowAckSizePacket

/-- The constructor. -/
def new : RtmpSetWindowAckSizePacket where
  windowAckSize := 0

/-- `decode`: the return value and the packet it leaves behind. -/
def decode (_packet : RtmpSetWindowAckSizePacket) (data : List UInt8) (len : Int) :
    Outcome (Nat × RtmpSetWindowAckSizePacket) :=
  if len < 4 then .error (-1)
  else do
    let windowAckSize ← readInt32 data 0
    return (4, { windowAckSize })

end RtmpSetWindowAckSizePacket

/-- `RtmpUserControlPacket`. -/
structure RtmpUserControlPacket where
  eventType : Int16
  eventData : Int32
  extraData : Int32
  deriving DecidableEq, Repr

namespace RtmpUserControlPacket

/-- The constructor. -/
def new : RtmpUserControlPacket where
  eventType := 0
  eventData := 0
  extraData := 0

/-- `decode` is `return 0`: it looks at no byte and sets no field. -/
def decode (packet : RtmpUserControlPacket) (_data : List UInt8) (_len : Int) :
    Outcome (Nat × RtmpUserControlPacket) :=
  .ok (0, packet)

end RtmpUserControlPacket

end Rtmp
end RtmpClient
