import RtmpClient.Library.CInt
import RtmpClient.Library.Decimal
import RtmpClient.Library.OrderedMap
import RtmpClient.Library.ShiftedBytes

namespace RtmpClient
namespace Net

open Library

/-!
# STUN messages (`app_protocol/stun.cc`)

`StunMsgPacket` with its `encode` and `decode`, on a machine whose lowest byte
comes first and whose `char` is signed.  HMAC-SHA1 and the two functions that
write an address as text are parameters.  Bytes read or written outside a
buffer, and an exception of `at`, are faults.
-/

/-- `inet_addr` and `inet_ntoa`, which are inverse on the texts `a.b.c.d`. -/
structure InetText where
  inetAddr : List UInt8 -> UInt32
  inetNtoa : UInt32 -> List UInt8
  inverse : forall addr, inetAddr (inetNtoa addr) = addr
  dotted : forall addr letter, letter ∈ inetNtoa addr -> isDigit letter = true ∨ letter = 0x2e

/-- `HMAC` with `EVP_sha1`, of a key and a text. -/
abbrev HmacSha1 := List UInt8 -> List UInt8 -> { digest : List UInt8 // digest.length = 20 }

namespace StunMessageType

def stunBindRespones : UInt16 := 0x0101

end StunMessageType

namespace StunMessageAttribute

def mappedAddress : UInt16 := 0x0001
def changeRequest : UInt16 := 0x0003
def changedAddress : UInt16 := 0x0005
def username : UInt16 := 0x0006
def messageIntegrity : UInt16 := 0x0008
def xorMappedAddress : UInt16 := 0x0020
def software : UInt16 := 0x8022
def fingerprint : UInt16 := 0x8028
def priority : UInt16 := 0x0024
def useCandidate : UInt16 := 0x0025
def iceControlling : UInt16 := 0x802a
def otherAddress : UInt16 := 0x802c

end StunMessageAttribute

open StunMessageType StunMessageAttribute

structure StunMsgPacket where
  stunMsgType : UInt16
  stunMsgLenght : UInt16
  stunMagicCookie : UInt32
  stunTranId : List UInt8
  stunAttribute : OrderedMap UInt16 (List UInt8)
  deriving DecidableEq, Repr

/-- The constructor; it leaves the transaction id as it is. -/
def StunMsgPacket.new (stunTranId : List UInt8) : StunMsgPacket where
  stunMsgType := 0
  stunMsgLenght := 0
  stunMagicCookie := 0
  stunTranId := stunTranId
  stunAttribute := .empty

/-! ## Encoding -/

/-- `':'`, between an address and its port. -/
def portColon : UInt8 := 0x3a

/-- `atoi`, whose result is undefined where the number is no `int`. -/
def atoiOr (text : List UInt8) : Outcome Int32 :=
  match atoi (cStr text) with
  | some number => .ok number
  | none => .fault

/-- `atoll`. -/
def atollOr (text : List UInt8) : Outcome UInt64 :=
  let number : Int :=
    match (cStr text).dropWhile isSpace with
    | 45 :: rest => -digitsValue rest
    | 43 :: rest => digitsValue rest
    | rest => digitsValue rest
  if -2 ^ 63 ≤ number ∧ number < 2 ^ 63 then .ok (Int64.ofInt number).toUInt64 else .fault

/-- `write_int16` of the type and of the length. -/
def attributeHead (type len : UInt16) : List UInt8 := beBytes 2 type.toNat ++ beBytes 2 len.toNat

/-- The attributes that are written as they are, with zeros up to a multiple of
four. -/
def encodeText (type : UInt16) (text : List UInt8) : List UInt8 :=
  let len := UInt16.ofNat text.length
  attributeHead type len ++ text.take len.toNat ++
    List.replicate (if len % 4 ≠ 0 then (4 - len % 4).toNat else 0) 0

/-- `MappedAddress` and `XorMappedAddress`; the masks of the former are zero.  A
text without a colon is not written. -/
def encodeAddress (inet : InetText) (type portMask : UInt16) (addrMask : UInt32) (text : List UInt8) :
    Outcome (List UInt8) :=
  match findFirstOf text portColon with
  | some pos => do
      let addr := swapped (inet.inetAddr (cStr (text.take pos)))
      let port ← atoiOr (text.drop (pos + 1))
      return attributeHead type 8 ++ [0, 1] ++ beBytes 2 (port.toUInt32.toUInt16 ^^^ portMask).toNat ++
        beBytes 4 (addr ^^^ addrMask).toNat
  | none => .ok []

/-- The `switch` of `encode`. -/
def StunMsgPacket.encodeAttribute (inet : InetText) (packet : StunMsgPacket) (entry : UInt16 × List UInt8) :
    Outcome (List UInt8) :=
  let (type, text) := entry
  if type = username ∨ type = software then .ok (encodeText type text)
  else if type = mappedAddress then encodeAddress inet type 0 0 text
  else if type = xorMappedAddress then
    encodeAddress inet type ((packet.stunMagicCookie &&& 0xffff0000) >>> 16).toUInt16 packet.stunMagicCookie text
  else if type = changeRequest then do
    let value ← atoiOr text
    return attributeHead type 4 ++ beBytes 4 value.toUInt32.toNat
  else if type = iceControlling then do
    let value ← atollOr text
    return attributeHead type 8 ++ beBytes 8 value.toNat
  else if type = priority then do
    let value ← atoiOr text
    return attributeHead type 4 ++ beBytes 4 value.toUInt32.toNat
  else if type = useCandidate then .ok (attributeHead type 0)
  else .ok []

/-- The attributes in the order of their types, as they come to stand in `tmp`. -/
def StunMsgPacket.encodeAttributes (inet : InetText) (packet : StunMsgPacket) :
    List (UInt16 × List UInt8) -> Outcome (List UInt8)
  | [] => .ok []
  | entry :: entries => do
      let bytes ← packet.encodeAttribute inet entry
      let rest ← packet.encodeAttributes inet entries
      return bytes ++ rest

def crc32Table : Array UInt32 :=
  #[0x00000000, 0x77073096, 0xee0e612c, 0x990951ba, 0x076dc419, 0x706af48f, 0xe963a535, 0x9e6495a3,
    0x0edb8832, 0x79dcb8a4, 0xe0d5e91e, 0x97d2d988, 0x09b64c2b, 0x7eb17cbd, 0xe7b82d07, 0x90bf1d91,
    0x1db71064, 0x6ab020f2, 0xf3b97148, 0x84be41de, 0x1adad47d, 0x6ddde4eb, 0xf4d4b551, 0x83d385c7,
    0x136c9856, 0x646ba8c0, 0xfd62f97a, 0x8a65c9ec, 0x14015c4f, 0x63066cd9, 0xfa0f3d63, 0x8d080df5,
    0x3b6e20c8, 0x4c69105e, 0xd56041e4, 0xa2677172, 0x3c03e4d1, 0x4b04d447, 0xd20d85fd, 0xa50ab56b,
    0x35b5a8fa, 0x42b2986c, 0xdbbbc9d6, 0xacbcf940, 0x32d86ce3, 0x45df5c75, 0xdcd60dcf, 0xabd13d59,
    0x26d930ac, 0x51de003a, 0xc8d75180, 0xbfd06116, 0x21b4f4b5, 0x56b3c423, 0xcfba9599, 0xb8bda50f,
    0x2802b89e, 0x5f058808, 0xc60cd9b2, 0xb10be924, 0x2f6f7c87, 0x58684c11, 0xc1611dab, 0xb6662d3d,
    0x76dc4190, 0x01db7106, 0x98d220bc, 0xefd5102a, 0x71b18589, 0x06b6b51f, 0x9fbfe4a5, 0xe8b8d433,
    0x7807c9a2, 0x0f00f934, 0x9609a88e, 0xe10e9818, 0x7f6a0dbb, 0x086d3d2d, 0x91646c97, 0xe6635c01,
    0x6b6b51f4, 0x1c6c6162, 0x856530d8, 0xf262004e, 0x6c0695ed, 0x1b01a57b, 0x8208f4c1, 0xf50fc457,
    0x65b0d9c6, 0x12b7e950, 0x8bbeb8ea, 0xfcb9887c, 0x62dd1ddf, 0x15da2d49, 0x8cd37cf3, 0xfbd44c65,
    0x4db26158, 0x3ab551ce, 0xa3bc0074, 0xd4bb30e2, 0x4adfa541, 0x3dd895d7, 0xa4d1c46d, 0xd3d6f4fb,
    0x4369e96a, 0x346ed9fc, 0xad678846, 0xda60b8d0, 0x44042d73, 0x33031de5, 0xaa0a4c5f, 0xdd0d7cc9,
    0x5005713c, 0x270241aa, 0xbe0b1010, 0xc90c2086, 0x5768b525, 0x206f85b3, 0xb966d409, 0xce61e49f,
    0x5edef90e, 0x29d9c998, 0xb0d09822, 0xc7d7a8b4, 0x59b33d17, 0x2eb40d81, 0xb7bd5c3b, 0xc0ba6cad,
    0xedb88320, 0x9abfb3b6, 0x03b6e20c, 0x74b1d29a, 0xead54739, 0x9dd277af, 0x04db2615, 0x73dc1683,
    0xe3630b12, 0x94643b84, 0x0d6d6a3e, 0x7a6a5aa8, 0xe40ecf0b, 0x9309ff9d, 0x0a00ae27, 0x7d079eb1,
    0xf00f9344, 0x8708a3d2, 0x1e01f268, 0x6906c2fe, 0xf762575d, 0x806567cb, 0x196c3671, 0x6e6b06e7,
    0xfed41b76, 0x89d32be0, 0x10da7a5a, 0x67dd4acc, 0xf9b9df6f, 0x8ebeeff9, 0x17b7be43, 0x60b08ed5,
    0xd6d6a3e8, 0xa1d1937e, 0x38d8c2c4, 0x4fdff252, 0xd1bb67f1, 0xa6bc5767, 0x3fb506dd, 0x48b2364b,
    0xd80d2bda, 0xaf0a1b4c, 0x36034af6, 0x41047a60, 0xdf60efc3, 0xa867df55, 0x316e8eef, 0x4669be79,
    0xcb61b38c, 0xbc66831a, 0x256fd2a0, 0x5268e236, 0xcc0c7795, 0xbb0b4703, 0x220216b9, 0x5505262f,
    0xc5ba3bbe, 0xb2bd0b28, 0x2bb45a92, 0x5cb36a04, 0xc2d7ffa7, 0xb5d0cf31, 0x2cd99e8b, 0x5bdeae1d,
    0x9b64c2b0, 0xec63f226, 0x756aa39c, 0x026d930a, 0x9c0906a9, 0xeb0e363f, 0x72076785, 0x05005713,
    0x95bf4a82, 0xe2b87a14, 0x7bb12bae, 0x0cb61b38, 0x92d28e9b, 0xe5d5be0d, 0x7cdcefb7, 0x0bdbdf21,
    0x86d3d2d4, 0xf1d4e242, 0x68ddb3f8, 0x1fda836e, 0x81be16cd, 0xf6b9265b, 0x6fb077e1, 0x18b74777,
    0x88085ae6, 0xff0f6a70, 0x66063bca, 0x11010b5c, 0x8f659eff, 0xf862ae69, 0x616bffd3, 0x166ccf45,
    0xa00ae278, 0xd70dd2ee, 0x4e048354, 0x3903b3c2, 0xa7672661, 0xd06016f7, 0x4969474d, 0x3e6e77db,
    0xaed16a4a, 0xd9d65adc, 0x40df0b66, 0x37d83bf0, 0xa9bcae53, 0xdebb9ec5, 0x47b2cf7f, 0x30b5ffe9,
    0xbdbdf21c, 0xcabac28a, 0x53b39330, 0x24b4a3a6, 0xbad03605, 0xcdd70693, 0x54de5729, 0x23d967bf,
    0xb3667a2e, 0xc4614ab8, 0x5d681b02, 0x2a6f2b94, 0xb40bbe37, 0xc30c8ea1, 0x5a05df1b, 0x2d02ef8d]

/-- A round of `GetCRC32`. -/
def crcStep (crc : UInt32) (byte : UInt8) : UInt32 :=
  crc32Table.getD ((crc ^^^ byte.toUInt32) &&& 0xff).toNat 0 ^^^ (crc >>> 8)

def getCRC32 (data : List UInt8) : UInt32 := data.foldl crcStep 0xffffffff ^^^ 0xffffffff

/-- The first twenty bytes, with this length. -/
def StunMsgPacket.header (packet : StunMsgPacket) (length : Nat) : List UInt8 :=
  beBytes 2 packet.stunMsgType.toNat ++ beBytes 2 length ++ beBytes 4 packet.stunMagicCookie.toNat ++
    packet.stunTranId

/-- What `encode` appends to the attributes: each trailer is computed over what
stands in front of it, with a length that counts it. -/
def StunMsgPacket.trailers (hmac : HmacSha1) (packet : StunMsgPacket) (password attributes : List UInt8) : List UInt8 :=
  let digest := hmac password (packet.header (attributes.length + 24) ++ attributes)
  let integrity := attributeHead messageIntegrity 20 ++ digest.val
  let crc32 := getCRC32 (packet.header (attributes.length + 32) ++ attributes ++ integrity) ^^^ 0x5354554e
  integrity ++ attributeHead fingerprint 4 ++ beBytes 4 crc32.toNat

/-- `encode` into a buffer of this size: the packet behind the call, and the
bytes.  `tmp` has 1024 bytes. -/
def StunMsgPacket.encode (inet : InetText) (hmac : HmacSha1) (packet : StunMsgPacket) (size : Nat)
    (password : List UInt8) : Outcome (StunMsgPacket × List UInt8) := do
  let attributes ← packet.encodeAttributes inet packet.stunAttribute.entries
  if 1024 < attributes.length ∨ size < 20 + (attributes.length + 32) then .fault
  else
    return ({ packet with stunAttribute := .empty, stunMsgLenght := UInt16.ofNat (attributes.length + 32) },
      packet.header (attributes.length + 32) ++ attributes ++ packet.trailers hmac password attributes)

/-! ## Decoding -/

/-- `p[index] << 8 | p[index + 1]`. -/
def readShort (data : List UInt8) (index : Nat) : Outcome UInt16 := do
  let high ← Outcome.read data index
  let low ← Outcome.read data (index + 1)
  return signedShort high low

/-- The value of an address attribute, as text. -/
def decodeAddress (inet : InetText) (portMask : UInt16) (addrMask : UInt32) (val : List UInt8) :
    Outcome (List UInt8) := do
  let _reserved ← Outcome.read val 0
  let _protocolFamily ← Outcome.read val 1
  let high ← Outcome.read val 2
  let low ← Outcome.read val 3
  let first ← Outcome.read val 4
  let second ← Outcome.read val 5
  let third ← Outcome.read val 6
  let fourth ← Outcome.read val 7
  let port := (high.toUInt16 <<< 8 ||| low.toUInt16) ^^^ portMask
  let ipaddr := swapped (joined first second third fourth ^^^ addrMask)
  return inet.inetNtoa ipaddr ++ portColon :: decimal port.toNat

/-- The `switch` of `decode`. -/
def StunMsgPacket.decodeAttribute (inet : InetText) (packet : StunMsgPacket) (type : UInt16) (val : List UInt8) :
    Outcome StunMsgPacket :=
  if type = username then .ok { packet with stunAttribute := packet.stunAttribute.insert username val }
  else if type = xorMappedAddress then do
    let text ← decodeAddress inet ((packet.stunMagicCookie &&& 0xffff0000) >>> 16).toUInt16 packet.stunMagicCookie val
    return { packet with stunAttribute := packet.stunAttribute.insert xorMappedAddress text }
  else if type = mappedAddress then do
    let text ← decodeAddress inet 0 0 val
    return { packet with stunAttribute := packet.stunAttribute.insert mappedAddress text }
  else if type = changedAddress ∨ type = otherAddress then do
    let text ← decodeAddress inet 0 0 val
    return { packet with stunAttribute := packet.stunAttribute.insert changedAddress text }
  else .ok packet

/-- The length that `index` moves by, a `uint16_t` again. -/
def paddedLen (len : UInt16) : UInt16 :=
  if len % 4 ≠ 0 then UInt16.ofNat ((len.toNat / 4 + 1) * 4) else len

/-- The loop of `decode`. -/
def StunMsgPacket.decodeAttributes (inet : InetText) (data : List UInt8) (len : Nat) (packet : StunMsgPacket)
    (index : Nat) : Outcome StunMsgPacket :=
  if index < len then do
    let type ← readShort data index
    let size ← readShort data (index + 2)
    let val ← Outcome.slice data (index + 4) size.toNat
    let next ← packet.decodeAttribute inet type val
    decodeAttributes inet data len next (index + 4 + (paddedLen size).toNat)
  else .ok packet
termination_by len - index

/-- `decode` of the bytes at the pointer. -/
def StunMsgPacket.decode (inet : InetText) (packet : StunMsgPacket) (buf : List UInt8) (len : Int) :
    Outcome StunMsgPacket :=
  if len < 20 then .ok packet
  else do
    let stunMsgType ← readShort buf 0
    let stunMsgLenght ← readShort buf 2
    let first ← Outcome.read buf 4
    let second ← Outcome.read buf 5
    let third ← Outcome.read buf 6
    let fourth ← Outcome.read buf 7
    let stunMagicCookie := packet.stunMagicCookie ||| joined first second third fourth
    let stunTranId ← Outcome.slice buf 8 12
    let packet := { packet with stunMsgType, stunMsgLenght, stunMagicCookie, stunTranId }
    if stunMsgType = stunBindRespones then packet.decodeAttributes inet buf len.toNat 20 else .ok packet

end Net
end RtmpClient
