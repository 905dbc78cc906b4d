import RtmpClient.Library.Codec
import RtmpClient.Rtmp.Packet

namespace RtmpClient
namespace Rtmp

open Library Net

/-!
# Audio and video packets (`rtmp_stack_packet.cc`)

A pointer with its length is the list of the bytes it points at.  None of these
functions looks at the size of the buffer it writes to, and the decoders trust
the lengths they read: an access past the end is a fault.
-/

def rtmpCidAudio : UInt32 := 0x07
def rtmpCidVideo : UInt32 := 0x06

/-! ## Audio -/

/-- `RtmpAudioPacket`. -/
structure RtmpAudioPacket where
  flag : UInt8
  timestamp : UInt32
  data : List UInt8
  deriving DecidableEq, Repr

namespace RtmpAudioPacket

/-- The default constructor.  It leaves `flag` and `timestamp` unset. -/
def new (staleFlag : UInt8) (staleTimestamp : UInt32) : RtmpAudioPacket where
  flag := staleFlag
  timestamp := staleTimestamp
  data := []

def getPkgLen (packet : RtmpAudioPacket) : Nat := 1 + packet.data.length

def encodePkg (packet : RtmpAudioPacket) : Writer UInt8 :=
  writeAll [writeCells [0x82], writeCells packet.data]

/-- `decode`.  An empty body makes `datalen` negative, which `new[]` does not
survive. -/
def decode (packet : RtmpAudioPacket) (data : List UInt8) : Outcome RtmpAudioPacket := do
  let flag ← Outcome.read data 0
  let body ← Outcome.slice data 1 (data.length - 1)
  return { packet with flag, data := body }

end RtmpAudioPacket

/-! ## The AVC configuration -/

/-- `RtmpAVCPacket`. -/
structure RtmpAvcPacket where
  sps : List UInt8
  pps : List UInt8
  deriving DecidableEq, Repr

namespace RtmpAvcPacket

/-- The default constructor. -/
def new : RtmpAvcPacket where
  sps := []
  pps := []

def getPkgLen (packet : RtmpAvcPacket) : Nat :=
  1 + 1 + 3 + 6 + 2 + packet.sps.length + 1 + 2 + packet.pps.length

/-- The stores of `encode_pkg`, with the profile bytes it reads from the
parameter set. -/
def writeRecord (packet : RtmpAvcPacket) (profile compatibility level : UInt8) : Writer UInt8 :=
  writeAll [
    writeCells [0x17, 0x00, 0x00, 0x00, 0x00],
    writeCells [0x01, profile, compatibility, level, 0xfc ||| 3, 0xe0 ||| 1],
    writeCells (writeInt16 (Int16.ofNat packet.sps.length)),
    writeCells packet.sps,
    writeCells [0x01],
    writeCells (writeInt16 (Int16.ofNat packet.pps.length)),
    writeCells packet.pps]

/-- `encode_pkg`.  It does not look at the length of the parameter set. -/
def encodePkg (packet : RtmpAvcPacket) : Writer UInt8 := fun size => do
  let profile ← Outcome.read packet.sps 1
  let compatibility ← Outcome.read packet.sps 2
  let level ← Outcome.read packet.sps 3
  packet.writeRecord profile compatibility level size

/-- `decode`.  The two length bytes land in the lower half of an `int` that
holds 0, so that they are read without a sign. -/
def decode (_packet : RtmpAvcPacket) (data : List UInt8) : Outcome RtmpAvcPacket :=
  if data.length < 11 then .error (-1)
  else do
    let spslen ← readInt16 data 11
    let spsEnd := 13 + spslen.toUInt16.toNat
    let sps ← Outcome.slice data 13 spslen.toUInt16.toNat
    let ppslen ← readInt16 data (spsEnd + 1)
    let pps ← Outcome.slice data (spsEnd + 3) ppslen.toUInt16.toNat
    return { sps, pps }

end RtmpAvcPacket

/-! ## Video -/

/-- `RtmpVideoPacket`. -/
structure RtmpVideoPacket where
  timestamp : UInt32
  naluItem : List (List UInt8)
  keyframe : Bool
  deriving DecidableEq, Repr

namespace RtmpVideoPacket

/-- The default constructor.  It leaves `timestamp` and `keyframe` unset. -/
def new (staleTimestamp : UInt32) (staleKeyframe : Bool) : RtmpVideoPacket where
  timestamp := staleTimestamp
  naluItem := []
  keyframe := staleKeyframe

/-- The length of `naluItem[0]`; without an element the source has no answer. -/
def getPkgLen (packet : RtmpVideoPacket) : Nat :=
  1 + 1 + 3 + 4 + (packet.naluItem.headD []).length

/-- The stores of `encode_pkg`. -/
def writeNalu (packet : RtmpVideoPacket) (nalu : List UInt8) : Writer UInt8 :=
  writeAll [
    writeCells [if packet.keyframe then 0x17 else 0x27, 0x01, 0x00, 0x00, 0x00],
    writeCells (writeUint32 (UInt32.ofNat nalu.length)),
    writeCells nalu]

/-- `encode_pkg`, of the first element only. -/
def encodePkg (packet : RtmpVideoPacket) : Writer UInt8 := fun size => do
  let nalu ← Outcome.read packet.naluItem 0
  packet.writeNalu nalu size

/-- The loop of `decode` over length-prefixed elements.  `rounds` bounds it:
every round takes the four bytes of a length.  A length is an `int`, and `new[]`
does not survive a negative one. -/
def decodeNalus (data : List UInt8) : (rounds : Nat) -> (offset : Nat) -> List (List UInt8) ->
    Outcome (List (List UInt8))
  | 0, offset, nalus => if offset < data.length then .fault else .ok nalus
  | rounds + 1, offset, nalus =>
      if offset < data.length then do
        let nalulen ← readUint32 data offset
        if 2 ^ 31 ≤ nalulen.toNat then .fault
        else do
          let nalu ← Outcome.slice data (offset + 4) nalulen.toNat
          decodeNalus data rounds (offset + 4 + nalulen.toNat) (nalus ++ [nalu])
      else .ok nalus

/-- `decode`. -/
def decode (packet : RtmpVideoPacket) (data : List UInt8) : Outcome RtmpVideoPacket := do
  let val ← Outcome.read data 0
  let naluItem ← decodeNalus data data.length 5 packet.naluItem
  return { packet with keyframe := val = 0x17, naluItem }

end RtmpVideoPacket

/-! ## Lengths -/

theorem RtmpAudioPacket.encodePkg_emits (packet : RtmpAudioPacket) :
    Exists fun cells => cells.length = packet.getPkgLen ∧ Emits packet.encodePkg cells := by
  refine ⟨[0x82] ++ (packet.data ++ []), ?_, .cons (.copied _) (.cons (.copied _) .nil)⟩
  rw [getPkgLen, List.length_append, List.append_nil]
  rfl

theorem RtmpAvcPacket.encodePkg_eq {packet : RtmpAvcPacket} (profile : 4 ≤ packet.sps.length) :
    packet.encodePkg = packet.writeRecord packet.sps[1] packet.sps[2] packet.sps[3] := by
  funext size
  rw [encodePkg, Outcome.read_of_lt (by omega), Outcome.read_of_lt (by omega), Outcome.read_of_lt (by omega)]
  rfl

/-- A parameter set with its profile bytes is what the encoder needs. -/
theorem RtmpAvcPacket.encodePkg_emits {packet : RtmpAvcPacket} (profile : 4 ≤ packet.sps.length) :
    Exists fun cells => cells.length = packet.getPkgLen ∧ Emits packet.encodePkg cells := by
  rw [encodePkg_eq profile, writeRecord]
  refine ⟨_, ?_, .cons (.copied _) (.cons (.copied _) (.cons (.copied _) (.cons (.copied _)
    (.cons (.copied _) (.cons (.copied _) (.cons (.copied _) .nil))))))⟩
  simp only [List.length_append, List.length_cons, List.length_nil, writeInt16_length, getPkgLen]
  omega

theorem RtmpVideoPacket.encodePkg_emits {packet : RtmpVideoPacket} (nonempty : packet.naluItem ≠ []) :
    Exists fun cells => cells.length = packet.getPkgLen ∧ Emits packet.encodePkg cells := by
  rcases List.exists_cons_of_ne_nil nonempty with ⟨nalu, others, items⟩
  have first : packet.encodePkg = packet.writeNalu nalu := by
    funext size
    rw [encodePkg, items]
    rfl
  rw [first, writeNalu]
  refine ⟨_, ?_, .cons (.copied _) (.cons (.copied _) (.cons (.copied _) .nil))⟩
  simp only [List.length_append, List.length_cons, List.length_nil, writeUint32_length, getPkgLen,
    items, List.headD_cons]
  omega

end Rtmp
end RtmpClient
