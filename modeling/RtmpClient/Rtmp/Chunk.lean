import RtmpClient.Library.Outcome
import RtmpClient.Rtmp.Header

namespace RtmpClient
namespace Rtmp

open Library

/-!
# Reassembly state (`RtmpChunkData`) and completed messages (`RtmpMessage`)

One `RtmpChunkData` per chunk stream holds the last header, the last timestamp
delta and the part of the current message that has arrived.
-/

/-- A heap block from `new uint8_t[size]`.  `bytes` is what has been stored
from its start; the rest is indeterminate. -/
structure PayloadBlock where
  size : Nat
  bytes : List UInt8
  deriving DecidableEq, Repr

/-- `RtmpChunkData`.  A null payload pointer is `none`. -/
structure RtmpChunkData where
  h : RtmpHeader
  timeDelta : UInt32
  payload : Option PayloadBlock
  currentPayloadLen : UInt32
  deriving DecidableEq, Repr

/-- `RtmpMessage` after `create_msg`. -/
structure RtmpMessage where
  rtmpHeader : RtmpHeader
  rtmpBody : List UInt8
  rtmpBodyLen : UInt32
  deriving DecidableEq, Repr

/-- The value of a `uint32_t` stored into an `int`. -/
def asInt (value : UInt32) : Int :=
  if value.toNat < 2 ^ 31 then value.toNat else (value.toNat : Int) - 2 ^ 32

theorem asInt_of_lt {value : UInt32} (small : value.toNat < 2 ^ 31) : asInt value = value.toNat :=
  if_pos small

namespace RtmpChunkData

/-- The constructor.  It leaves `time_delta` unset, so the model takes what the
memory held as an argument. -/
def new (stale : UInt32) : RtmpChunkData where
  h := RtmpHeader.new
  timeDelta := stale
  payload := none
  currentPayloadLen := 0

/-- `create_payload`.  A negative length makes `new[]` throw. -/
def createPayload (chunk : RtmpChunkData) (length : Int) : Outcome RtmpChunkData :=
  if length < 0 then .fault
  else .ok { chunk with
    payload := some { size := length.toNat, bytes := [] }
    currentPayloadLen := 0 }

/-- `copy_payload`.  The copy is a fault unless it lies inside the block; the
source bytes are those at the front of `data`. -/
def copyPayload (chunk : RtmpChunkData) (data : List UInt8) (len : Int) : Outcome RtmpChunkData :=
  match chunk.payload with
  | none => .fault
  | some block =>
      if len < 0 ∨ (block.size : Int) < chunk.currentPayloadLen.toNat + len then .fault
      else do
        let piece ← Outcome.slice data 0 len.toNat
        return { chunk with
          payload := some { block with bytes := block.bytes.take chunk.currentPayloadLen.toNat ++ piece }
          currentPayloadLen := chunk.currentPayloadLen + UInt32.ofNat len.toNat }

/-- `chunk->h.timestamp = timestamp`. -/
def setTimestamp (chunk : RtmpChunkData) (timestamp : UInt32) : RtmpChunkData :=
  { chunk with h := { chunk.h with timestamp } }

/-- `reset`, after the message has taken the block. -/
def reset (chunk : RtmpChunkData) : RtmpChunkData :=
  { chunk with currentPayloadLen := 0, payload := none }

/-- `create_msg` on `&chunk->h`, `chunk->getPaylaod()` and `h.msg_length`. -/
def createMsg (chunk : RtmpChunkData) : RtmpMessage where
  rtmpHeader := chunk.h
  rtmpBody := (chunk.payload.map PayloadBlock.bytes).getD []
  rtmpBodyLen := chunk.h.msgLength

end RtmpChunkData

end Rtmp
end RtmpClient
