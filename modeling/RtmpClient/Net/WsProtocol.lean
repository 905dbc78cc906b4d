import RtmpClient.Library.CInt

namespace RtmpClient
namespace Net

open Library

/-!
# WebSocket frames (`app_protocol/wsProtocol.cc`)

`WsHeader` with its `encode` and `decode`, and the two functions of
`WebSocketProtocolBase` that put data into frames and take it out.  Bytes that
are read behind the buffer, and a `std::length_error`, are faults.
-/

/-- `WsOpCode`; `decode` casts any four bits to it. -/
inductive WsOpCode where
  | continuationFrame
  | textFrame
  | binaryFrame
  | closeFrame
  | pingFrame
  | pongFrame
  | other (bits : UInt8)
  deriving DecidableEq, Repr

namespace WsOpCode

def value : WsOpCode -> UInt8
  | continuationFrame => 0
  | textFrame => 1
  | binaryFrame => 2
  | closeFrame => 8
  | pingFrame => 9
  | pongFrame => 10
  | other bits => bits

/-- `static_cast<WsOpCode>`. -/
def ofValue (bits : UInt8) : WsOpCode :=
  if bits = 0 then continuationFrame
  else if bits = 1 then textFrame
  else if bits = 2 then binaryFrame
  else if bits = 8 then closeFrame
  else if bits = 9 then pingFrame
  else if bits = 10 then pongFrame
  else other bits

/-- The names that the enumeration has. -/
def Named (opcode : WsOpCode) : Prop := forall bits, opcode ≠ other bits

theorem closeFrame_named : closeFrame.Named := by
  intro bits equal
  cases equal

end WsOpCode

/-- `char mask_key[4]`. -/
structure MaskKey where
  key0 : UInt8
  key1 : UInt8
  key2 : UInt8
  key3 : UInt8
  deriving DecidableEq, Repr

namespace MaskKey

def zero : MaskKey where
  key0 := 0
  key1 := 0
  key2 := 0
  key3 := 0

def bytes (key : MaskKey) : List UInt8 := [key.key0, key.key1, key.key2, key.key3]

/-- `mask_key[i % 4]`. -/
def byteAt (key : MaskKey) (index : Nat) : UInt8 := key.bytes.getD (index % 4) 0

end MaskKey

structure WsHeader where
  eof : Bool
  opcode : WsOpCode
  mask : Bool
  maskKey : MaskKey
  len : UInt64
  deriving DecidableEq, Repr

namespace WsHeader

/-- The constructor. -/
def new : WsHeader where
  eof := false
  opcode := .continuationFrame
  mask := false
  maskKey := .zero
  len := 0

/-- `(uint8_t)((len & (0xff << shift)) >> shift)`. -/
def lenByte (len : UInt64) (shift : UInt64) : UInt8 := ((len &&& (0xff <<< shift)) >>> shift).toUInt8

/-- The bytes that `encode` appends. -/
def bytes (header : WsHeader) : List UInt8 :=
  let first : UInt8 := (if header.eof then 0x80 else 0x00) ||| (header.opcode.value &&& 0x0f)
  let byte : UInt8 := if header.mask then 0x80 else 0x00
  let length : List UInt8 :=
    if header.len < 126 then [byte ||| (header.len &&& 0x7f).toUInt8]
    else if header.len < 65535 then [byte ||| 126, lenByte header.len 8, lenByte header.len 0]
    else
      [byte ||| 127, lenByte header.len 56, lenByte header.len 48, lenByte header.len 40, lenByte header.len 32,
        lenByte header.len 24, lenByte header.len 16, lenByte header.len 8, lenByte header.len 0]
  first :: length ++ if header.mask then header.maskKey.bytes else []

/-- `encode`: the string behind the call, and its length. -/
def encode (header : WsHeader) (dest : List UInt8) : List UInt8 × Int :=
  (dest ++ header.bytes, asInt (dest ++ header.bytes).length)

/-- `(byte & 0xff) << shift`, computed in `int`, as an operand of the 64-bit
`len`.  A shift by the width of `int` or more has no meaning unless the byte is
zero. -/
def shiftedByte (byte : UInt8) (shift : Nat) : Outcome UInt64 :=
  if shift < 32 then .ok (byte.toUInt32 <<< UInt32.ofNat shift).toInt32.toInt64.toUInt64
  else if byte = 0 then .ok 0
  else .fault

/-- `len |= ...` for one byte after the other. -/
def readLen (header : List UInt8) : (offset : Nat) -> (shifts : List Nat) -> (len : UInt64) -> Outcome UInt64
  | _, [], len => .ok len
  | offset, shift :: shifts, len => do
      let byte ← Outcome.read header offset
      let part ← shiftedByte byte shift
      readLen header (offset + 1) shifts (len ||| part)

def readMaskKey (header : List UInt8) (offset : Nat) : Outcome MaskKey := do
  let key0 ← Outcome.read header offset
  let key1 ← Outcome.read header (offset + 1)
  let key2 ← Outcome.read header (offset + 2)
  let key3 ← Outcome.read header (offset + 3)
  return { key0, key1, key2, key3 }

/-- The length of a header with this second byte, up to the mask key. -/
def decodeLen (header : List UInt8) (len : UInt64) : Outcome (UInt64 × Nat) :=
  if len = 126 then do
    let len ← readLen header 2 [8, 0] 0
    return (len, 4)
  else if len = 127 then do
    let len ← readLen header 2 [56, 48, 40, 32, 24, 16, 8, 0] 0
    return (len, 10)
  else .ok (len, 2)

/-- `decode` into `self`: the fields, and the length of the header. -/
def decode (self : WsHeader) (header : List UInt8) : Outcome (WsHeader × Nat) := do
  let first ← Outcome.read header 0
  let byte ← Outcome.read header 1
  let (len, offset) ← decodeLen header (byte &&& 0x7f).toUInt64
  let eof : Bool := first >>> 7 > 0
  let opcode := WsOpCode.ofValue (first &&& 0x0f)
  if byte >>> 7 > 0 then do
    let maskKey ← readMaskKey header offset
    return ({ eof, opcode, mask := true, maskKey, len }, offset + 4)
  else return ({ self with eof, opcode, mask := false, len }, offset)

end WsHeader

/-! ## Frames (`WebSocketProtocolBase`) -/

/-- `opcode == TEXT_FRAME || opcode == BINARY_FRAME`. -/
def WsOpCode.CarriesData (opcode : WsOpCode) : Prop := opcode = .textFrame ∨ opcode = .binaryFrame

instance (opcode : WsOpCode) : Decidable opcode.CarriesData := inferInstanceAs (Decidable (_ ∨ _))

/-- `encodeData` of all of `data`: the string behind the call, and what is
returned. -/
def encodeData (data : List UInt8) (opcode : WsOpCode) (dest : List UInt8) : Outcome (List UInt8 × Int) := do
  let header : WsHeader :=
    { WsHeader.new with eof := true, mask := false, opcode, len := UInt64.ofNat data.length }
  let (dest, headerLen) := header.encode dest
  if opcode.CarriesData then
    let ret ← checkedInt (headerLen + data.length)
    return (dest ++ data, ret)
  else return (dest, headerLen)

/-- What `decodeData` returns and what it leaves in its reference parameters. -/
structure DecodedData where
  ret : Int
  dest : List UInt8
  finish : Bool
  opcode : WsOpCode
  hlen : Nat
  deriving DecidableEq, Repr

/-- The bytes behind the header, unmasked. -/
def unmasked (key : MaskKey) (cells : List UInt8) : List UInt8 :=
  cells.mapIdx fun index byte => byte ^^^ key.byteAt index

/-- `decodeData`; `len` is the parameter, `data` the bytes at the pointer. -/
def decodeData (data : List UInt8) (len : Int) (dest : List UInt8) : Outcome DecodedData := do
  let (wsHeader, headerLen) ← WsHeader.new.decode data
  let count ← checkedInt (len - headerLen)
  let cells ←
    if wsHeader.mask then do
      let cells ← Outcome.slice data headerLen count.toNat
      pure (unmasked wsHeader.maskKey cells)
    else if count < 0 then .fault
    else Outcome.slice data headerLen count.toNat
  return {
    ret := asInt wsHeader.len.toNat
    dest := dest ++ cells
    finish := wsHeader.eof
    opcode := wsHeader.opcode
    hlen := headerLen }

end Net
end RtmpClient
