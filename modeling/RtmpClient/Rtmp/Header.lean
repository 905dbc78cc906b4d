import RtmpClient.Library.BigEndian
import RtmpClient.Library.Outcome

namespace RtmpClient
namespace Rtmp

open Library

/-!
# Chunk headers (`rtmp_stack_packet.h`, `rtmp_stack_packet.cc`, `RtmpHeader`)

A chunk starts with a base header (format and chunk stream id), a message
header whose fields depend on the format, and four more bytes when the
three-byte timestamp is saturated.  `encode` writes all three parts.  `decode`
reads the first two only; the extended timestamp is left to the transport.
-/

def rtmpChunkFmt0Type : UInt8 := 0
def rtmpChunkFmt1Type : UInt8 := 1
def rtmpChunkFmt2Type : UInt8 := 2
def rtmpChunkFmt3Type : UInt8 := 3

def rtmpChunkFmt0HeaderMaxSize : Nat := 16
def rtmpChunkFmt1HeaderMaxSize : Nat := 12
def rtmpChunkFmt2HeaderMaxSize : Nat := 8
def rtmpChunkFmt3HeaderMaxSize : Nat := 5

/-- The saturated three-byte timestamp that announces the extended field. -/
def rtmpExtendedTimestamp : UInt32 := 0xffffff

def rtmpCidProtocolControl : UInt32 := 0x02
def rtmpCidOverConnection : UInt32 := 0x03

/-- `RtmpHeader`.  The widths are those of the C fields, not of the wire. -/
structure RtmpHeader where
  chunkType : UInt8
  chunkStreamId : UInt32
  timestamp : UInt32
  msgLength : UInt32
  msgTypeId : UInt8
  msgStreamId : UInt32
  deriving DecidableEq, Repr

namespace RtmpHeader

/-- The constructor. -/
def new : RtmpHeader where
  chunkType := 0
  chunkStreamId := rtmpCidOverConnection
  timestamp := 0
  msgLength := 0
  msgTypeId := 0
  msgStreamId := 0

/-! ## Encoding -/

/-- `q[index]` where `q` points at a `uint32_t` of a little-endian host. -/
def hostByte (value : UInt32) (index : Nat) : UInt8 := UInt8.ofNat (value.toNat / 256 ^ index)

/-- The first byte of a chunk; `marker` carries the format in its top bits. -/
def baseHeaderByte (marker : UInt8) (chunkStreamId : UInt32) : UInt8 :=
  marker ||| (chunkStreamId.toUInt8 &&& 0x3f)

/-- The three timestamp bytes, saturated when the extended field follows. -/
def timestampBytes (timestamp : UInt32) : List UInt8 :=
  if timestamp ≥ rtmpExtendedTimestamp then [0xff, 0xff, 0xff]
  else [hostByte timestamp 2, hostByte timestamp 1, hostByte timestamp 0]

/-- The four bytes that every format appends for a saturated timestamp. -/
def extendedTimestampBytes (timestamp : UInt32) : List UInt8 :=
  if timestamp ≥ rtmpExtendedTimestamp then
    [hostByte timestamp 3, hostByte timestamp 2, hostByte timestamp 1, hostByte timestamp 0]
  else []

def msgLengthBytes (msgLength : UInt32) : List UInt8 :=
  [hostByte msgLength 2, hostByte msgLength 1, hostByte msgLength 0]

/-- The message stream id goes out in host order, the lowest byte first. -/
def msgStreamIdBytes (msgStreamId : UInt32) : List UInt8 :=
  [hostByte msgStreamId 0, hostByte msgStreamId 1, hostByte msgStreamId 2, hostByte msgStreamId 3]

def encodeFmt0ChunkHeader (header : RtmpHeader) (size : Nat) : Outcome (List UInt8) :=
  if size < rtmpChunkFmt0HeaderMaxSize then .error (-1)
  else .ok ([baseHeaderByte 0x00 header.chunkStreamId] ++ timestampBytes header.timestamp ++
    msgLengthBytes header.msgLength ++ [header.msgTypeId] ++ msgStreamIdBytes header.msgStreamId ++
    extendedTimestampBytes header.timestamp)

def encodeFmt1ChunkHeader (header : RtmpHeader) (size : Nat) : Outcome (List UInt8) :=
  if size < rtmpChunkFmt1HeaderMaxSize then .error (-1)
  else .ok ([baseHeaderByte 0x40 header.chunkStreamId] ++ timestampBytes header.timestamp ++
    msgLengthBytes header.msgLength ++ [header.msgTypeId] ++ extendedTimestampBytes header.timestamp)

def encodeFmt2ChunkHeader (header : RtmpHeader) (size : Nat) : Outcome (List UInt8) :=
  if size < rtmpChunkFmt2HeaderMaxSize then .error (-1)
  else .ok ([baseHeaderByte 0x80 header.chunkStreamId] ++ timestampBytes header.timestamp ++
    extendedTimestampBytes header.timestamp)

def encodeFmt3ChunkHeader (header : RtmpHeader) (size : Nat) : Outcome (List UInt8) :=
  if size < rtmpChunkFmt3HeaderMaxSize then .error (-1)
  else .ok ([baseHeaderByte 0xC0 header.chunkStreamId] ++ extendedTimestampBytes header.timestamp)

/-- `encode`: the bytes written; their number is the return value. -/
def encode (header : RtmpHeader) (size : Nat) : Outcome (List UInt8) :=
  if header.chunkType = rtmpChunkFmt0Type then encodeFmt0ChunkHeader header size
  else if header.chunkType = rtmpChunkFmt1Type then encodeFmt1ChunkHeader header size
  else if header.chunkType = rtmpChunkFmt2Type then encodeFmt2ChunkHeader header size
  else if header.chunkType = rtmpChunkFmt3Type then encodeFmt3ChunkHeader header size
  else .error (-1)

/-! ## Decoding -/

/-- `value & 0x3f`, the chunk stream id of the first byte. -/
def csBits (value : UInt8) : UInt32 := (value &&& 0x3f).toUInt32

/-- `decode_base_header`: bytes consumed, format, chunk stream id. -/
def decodeBaseHeader (data : List UInt8) : Outcome (Nat × UInt8 × UInt32) := do
  let value ← Outcome.read data 0
  -- the mask keeps the two low bits and the shift then discards them
  let fmt := (value &&& 0x03) >>> 6
  let csId := csBits value
  if csId > 1 then
    return (1, fmt, csId)
  else if csId = 0 then
    if data.length < 2 then .error (-1)
    else do
      let value ← Outcome.read data 1
      return (2, fmt, value.toUInt32 + 64)
  else
    if data.length < 3 then .error (-1)
    else do
      let low ← Outcome.read data 1
      let high ← Outcome.read data 2
      return (3, fmt, low.toUInt32 + high.toUInt32 * 256 + 64)

/-- `field += data[offset++] << 16`, then `<< 8`, then the last byte. -/
def addBytes3 (field : UInt32) (b2 b1 b0 : UInt8) : UInt32 :=
  field + (b2.toUInt32 <<< 16) + (b1.toUInt32 <<< 8) + b0.toUInt32

/-- The four-byte variant, most significant byte first. -/
def addBytes4 (field : UInt32) (b3 b2 b1 b0 : UInt8) : UInt32 :=
  field + (b3.toUInt32 <<< 24) + (b2.toUInt32 <<< 16) + (b1.toUInt32 <<< 8) + b0.toUInt32

/-- `decode_msg_header`: bytes consumed and the header with its new fields. -/
def decodeMsgHeader (header : RtmpHeader) (data : List UInt8) : Outcome (Nat × RtmpHeader) :=
  if header.chunkType = rtmpChunkFmt0Type then
    if data.length < 11 then .error (-1)
    else do
      let t2 ← Outcome.read data 0
      let t1 ← Outcome.read data 1
      let t0 ← Outcome.read data 2
      let l2 ← Outcome.read data 3
      let l1 ← Outcome.read data 4
      let l0 ← Outcome.read data 5
      let type ← Outcome.read data 6
      let s3 ← Outcome.read data 7
      let s2 ← Outcome.read data 8
      let s1 ← Outcome.read data 9
      let s0 ← Outcome.read data 10
      return (11, { header with
        timestamp := addBytes3 header.timestamp t2 t1 t0
        msgLength := addBytes3 header.msgLength l2 l1 l0
        msgTypeId := type
        msgStreamId := addBytes4 header.msgStreamId s3 s2 s1 s0 })
  else if header.chunkType = rtmpChunkFmt1Type then
    if data.length < 7 then .error (-1)
    else do
      let t2 ← Outcome.read data 0
      let t1 ← Outcome.read data 1
      let t0 ← Outcome.read data 2
      let l2 ← Outcome.read data 3
      let l1 ← Outcome.read data 4
      let l0 ← Outcome.read data 5
      let type ← Outcome.read data 6
      return (7, { header with
        timestamp := addBytes3 header.timestamp t2 t1 t0
        msgLength := addBytes3 header.msgLength l2 l1 l0
        msgTypeId := type })
  else if header.chunkType = rtmpChunkFmt2Type then
    if data.length < 3 then .error (-1)
    else do
      let t2 ← Outcome.read data 0
      let t1 ← Outcome.read data 1
      let t0 ← Outcome.read data 2
      return (3, { header with timestamp := addBytes3 header.timestamp t2 t1 t0 })
  else
    return (0, header)

/-- `decode` on a header fresh from the constructor: bytes consumed and the
header read. -/
def decode (data : List UInt8) : Outcome (Nat × RtmpHeader) := do
  let (base, fmt, csId) ← decodeBaseHeader data
  let (message, header) ←
    decodeMsgHeader { new with chunkType := fmt, chunkStreamId := csId } (data.drop base)
  return (base + message, header)

end RtmpHeader
end Rtmp
end RtmpClient
