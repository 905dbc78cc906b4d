import RtmpClient.Library.Codec
import RtmpClient.Library.CppString
import RtmpClient.Library.Layout
import RtmpClient.Net.Netio

namespace RtmpClient
namespace Rtmp

open Library Net

/-!
# The handshake (`rtmp_stack_handshake.cc`)

A block of 764 bytes hides a key or a digest between random bytes, at a
position that the four bytes of its `offset` announce.  The lengths that the
constructors and parsers give to the random parts are part of the types.
HMAC-SHA256 is a given function.
-/

/-- The OpenSSL calls of `openssl_HMACsha256`. -/
structure HmacSha256 where
  digest : (key : List UInt8) -> (data : List UInt8) -> List UInt8
  digest_length : forall key data, (digest key data).length = 32

/-- `FPKey`, "Genuine Adobe Flash Player 001" and 32 more bytes. -/
def fpKey : List UInt8 :=
  [0x47, 0x65, 0x6E, 0x75, 0x69, 0x6E, 0x65, 0x20, 0x41, 0x64, 0x6F, 0x62, 0x65, 0x20, 0x46, 0x6C,
    0x61, 0x73, 0x68, 0x20, 0x50, 0x6C, 0x61, 0x79, 0x65, 0x72, 0x20, 0x30, 0x30, 0x31,
    0xF0, 0xEE, 0xC2, 0x4A, 0x80, 0x68, 0xBE, 0xE8, 0x2E, 0x00, 0xD0, 0xD1, 0x02, 0x9E, 0x7E, 0x57,
    0x6E, 0xEC, 0x5D, 0x2D, 0x29, 0x80, 0x6F, 0xAB, 0x93, 0xB8, 0xE6, 0x36, 0xCF, 0xEB, 0x31, 0xAE]

/-- The sum that both `calc_offset` take over the bytes of `offset` in memory. -/
def offsetSum (offset : UInt32) : Nat :=
  offset.toNat % 256 + offset.toNat / 256 % 256 + offset.toNat / 65536 % 256 + offset.toNat / 16777216 % 256

/-! ## The two blocks -/

/-- `rtmp_handshake_key::calc_offset`. -/
def RtmpHandshakeKey.calcOffset (offset : UInt32) : Nat := offsetSum offset % (764 - 128 - 4)

/-- `rtmp_handshake_key`.  A pointer with its size is the list of its bytes. -/
structure RtmpHandshakeKey where
  offset : UInt32
  random0 : List UInt8
  key : List UInt8
  random1 : List UInt8
  random0_length : random0.length = RtmpHandshakeKey.calcOffset offset
  key_length : key.length = 128
  random1_length : random1.length = 764 - RtmpHandshakeKey.calcOffset offset - 128 - 4

/-- `rtmp_handshake_digest::calc_offset`. -/
def RtmpHandshakeDigest.calcOffset (offset : UInt32) : Nat := offsetSum offset % (764 - 32 - 4)

/-- `rtmp_handshake_digest`. -/
structure RtmpHandshakeDigest where
  offset : UInt32
  random0 : List UInt8
  digest : List UInt8
  random1 : List UInt8
  random0_length : random0.length = RtmpHandshakeDigest.calcOffset offset
  digest_length : digest.length = 32
  random1_length : random1.length = 764 - 4 - RtmpHandshakeDigest.calcOffset offset - 32

theorem RtmpHandshakeKey.calcOffset_lt (offset : UInt32) : calcOffset offset < 632 :=
  Nat.mod_lt _ (by decide)

theorem RtmpHandshakeDigest.calcOffset_lt (offset : UInt32) : calcOffset offset < 728 :=
  Nat.mod_lt _ (by decide)

/-- `RTMP_SIG_HANDSHAKR`. -/
def rtmpSigHandshake : List UInt8 := ascii "RTMP_LIB(0.0.1)"

/-- `random_generate` of `size` bytes, whose beginning `snprintf` overwrites with
the signature, cut to the size, and its NUL. -/
def randomPart (random : Nat -> UInt8) (size : Nat) : List UInt8 :=
  overlay ((List.range size).map random) (if size > 0 then rtmpSigHandshake.take (size - 1) ++ [0] else [])

theorem randomPart_length (random : Nat -> UInt8) (size : Nat) : (randomPart random size).length = size := by
  rw [randomPart, overlay_length, List.length_map, List.length_range]

/-- The constructor of `rtmp_handshake_key`, from what `rand` answers. -/
def RtmpHandshakeKey.new (offset : UInt32) (before key behind : Nat -> UInt8) : RtmpHandshakeKey where
  offset := offset
  random0 := randomPart before (calcOffset offset)
  key := (List.range 128).map key
  random1 := randomPart behind (764 - calcOffset offset - 128 - 4)
  random0_length := randomPart_length _ _
  key_length := by rw [List.length_map, List.length_range]
  random1_length := randomPart_length _ _

/-- The constructor of `rtmp_handshake_digest`. -/
def RtmpHandshakeDigest.new (offset : UInt32) (before digest behind : Nat -> UInt8) : RtmpHandshakeDigest where
  offset := offset
  random0 := randomPart before (calcOffset offset)
  digest := (List.range 32).map digest
  random1 := randomPart behind (764 - 4 - calcOffset offset - 32)
  random0_length := randomPart_length _ _
  digest_length := by rw [List.length_map, List.length_range]
  random1_length := randomPart_length _ _

namespace RtmpHandshakeKey

/-- `parse_key` on `data`, of which `size` bytes are announced. -/
def parseKey (data : List UInt8) (size : Nat) : Outcome (Nat × RtmpHandshakeKey) :=
  if size < 764 then .error (-1)
  else do
    let offset ← readUint32 data 760
    let validOffset := calcOffset offset
    let random0 ← Outcome.sliceExact data 0 validOffset
    let key ← Outcome.sliceExact data validOffset 128
    let random1 ← Outcome.sliceExact data (validOffset + 128) (764 - validOffset - 128 - 4)
    return (validOffset + 128 + (764 - validOffset - 128 - 4) + 4,
      { offset
        random0 := random0.1
        key := key.1
        random1 := random1.1
        random0_length := random0.2
        key_length := key.2
        random1_length := random1.2 })

end RtmpHandshakeKey

namespace RtmpHandshakeDigest

/-- `parse_digest`. -/
def parseDigest (data : List UInt8) (size : Nat) : Outcome (Nat × RtmpHandshakeDigest) :=
  if size < 764 then .error (-1)
  else do
    let offset ← readUint32 data 0
    let validOffset := calcOffset offset
    let random0 ← Outcome.sliceExact data 4 validOffset
    let digest ← Outcome.sliceExact data (4 + validOffset) 32
    let random1 ← Outcome.sliceExact data (4 + validOffset + 32) (764 - 4 - validOffset - 32)
    return (4 + validOffset + 32 + (764 - 4 - validOffset - 32),
      { offset
        random0 := random0.1
        digest := digest.1
        random1 := random1.1
        random0_length := random0.2
        digest_length := digest.2
        random1_length := random1.2 })

/-- `calc_c1_digest`. -/
def calcC1Digest (hmac : HmacSha256) (digest : RtmpHandshakeDigest) (joinbytes : List UInt8) :
    RtmpHandshakeDigest :=
  { digest with
    digest := hmac.digest (fpKey.take 30) joinbytes
    digest_length := hmac.digest_length _ _ }

end RtmpHandshakeDigest

/-! ## The handshake -/

inductive SchemaType where
  | schemaType0
  | schemaType1
  deriving DecidableEq, Repr

/-- `rtmp_handshake`.  A null pointer is an empty list. -/
structure RtmpHandshake where
  c0c1 : List UInt8
  s0s1s2 : List UInt8
  c2 : List UInt8
  time : UInt32
  version : UInt32
  key : RtmpHandshakeKey
  digest : RtmpHandshakeDigest

namespace RtmpHandshake

/-- The constructor.  It leaves `time` and `version` unset. -/
def new (staleTime staleVersion : UInt32) (key : RtmpHandshakeKey) (digest : RtmpHandshakeDigest) :
    RtmpHandshake where
  c0c1 := []
  s0s1s2 := []
  c2 := []
  time := staleTime
  version := staleVersion
  key := key
  digest := digest

def buildTime (handshake : RtmpHandshake) : Writer UInt8 := writeCells (writeUint32 handshake.time)

def buildVersion (handshake : RtmpHandshake) : Writer UInt8 := writeCells (writeUint32 handshake.version)

/-- The `memcpy` behind a check of a size. -/
def copyIf (size : Nat) (cells : List UInt8) : Writer UInt8 :=
  writeCells (if size > 0 then cells else [])

def buildKey (handshake : RtmpHandshake) : Writer UInt8 :=
  let key := handshake.key
  writeAll [copyIf key.random0.length key.random0, writeCells key.key,
    copyIf key.random1.length key.random1, writeCells (writeUint32 key.offset)]

/-- `build_digest`.  The check in front of the last part is that of the key. -/
def buildDigest (handshake : RtmpHandshake) (withDigest : Bool) : Writer UInt8 :=
  let digest := handshake.digest
  writeAll [writeCells (writeUint32 digest.offset), copyIf digest.random0.length digest.random0,
    writeCells (if withDigest then digest.digest else []),
    copyIf handshake.key.random1.length digest.random1]

/-- The parts of C1, in the order that `create_c0c1` and `general_c0c1` share. -/
def buildC1 (handshake : RtmpHandshake) (type : SchemaType) (withDigest : Bool) : Writer UInt8 :=
  match type with
  | .schemaType0 =>
      writeAll [handshake.buildTime, handshake.buildVersion, handshake.buildKey,
        handshake.buildDigest withDigest]
  | .schemaType1 =>
      writeAll [handshake.buildTime, handshake.buildVersion, handshake.buildDigest withDigest,
        handshake.buildKey]

/-- `general_c0c1`; `fresh` is what `new char[1+1536]` held. -/
def generalC0C1 (handshake : RtmpHandshake) (type : SchemaType) (fresh : List UInt8) :
    Outcome RtmpHandshake := do
  let cells ← writeAll [writeCells [0x03], handshake.buildC1 type true] (1 + 1536)
  return { handshake with c0c1 := overlay fresh cells }

/-- `create_c0c1` at `now`; `joinbytes` is what `new char[1536-32]` held. -/
def createC0C1 (hmac : HmacSha256) (handshake : RtmpHandshake) (type : SchemaType) (now : UInt32)
    (joinbytes fresh : List UInt8) : Outcome RtmpHandshake := do
  let handshake := { handshake with time := now, version := 0x80000702 }
  let cells ← handshake.buildC1 type false (1536 - 32)
  let digest := handshake.digest.calcC1Digest hmac (overlay joinbytes cells)
  { handshake with digest }.generalC0C1 type fresh

/-- What `process_s0s1s2` does: how many bytes it copies to the 3073 bytes of
`s0s1s2`, its return value, and the handshake afterwards. -/
structure ReplyResult where
  copied : Nat
  ret : Int
  handshake : RtmpHandshake

/-- The reads of `process_s0s1s2` behind the copy.  The key is looked for 764
bytes behind the end of the digest block, not right behind it. -/
def parseReply (handshake : RtmpHandshake) (data : List UInt8) : Outcome (Int × RtmpHandshake) := do
  let ver ← Outcome.read data 0
  if ver ≠ 0x03 then return (-2, handshake)
  else do
    let time ← readUint32 data 1
    let version ← readUint32 data 5
    let (ret, digest) ← RtmpHandshakeDigest.parseDigest (data.drop 9) 764
    let (ret₁, key) ← RtmpHandshakeKey.parseKey (data.drop (9 + ret + 764)) 764
    return ((9 + ret + ret₁ : Nat), { handshake with time, version, digest, key })

/-- `process_s0s1s2` on `data` and its length.  The copy is recorded with its
length; what of it lies beyond the block is no part of `s0s1s2`. -/
def processS0S1S2 (handshake : RtmpHandshake) (data : List UInt8) : Outcome ReplyResult :=
  if data.length < 3073 then .ok { copied := 0, ret := -1, handshake }
  else do
    let handshake := { handshake with s0s1s2 := data.take 3073 }
    let (ret, handshake) ← handshake.parseReply data
    return { copied := data.length, ret, handshake }

/-- `create_c2`. -/
def createC2 (handshake : RtmpHandshake) : Outcome RtmpHandshake := do
  let c2 ← Outcome.slice handshake.s0s1s2 1 1536
  return { handshake with c2 }

end RtmpHandshake

end Rtmp
end RtmpClient
