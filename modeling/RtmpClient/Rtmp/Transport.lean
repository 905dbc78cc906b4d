import RtmpClient.Rtmp.Chunk
import RtmpClient.Rtmp.Packet

namespace RtmpClient
namespace Rtmp

open Library

/-!
# The message transport (`rtmp_transport.cc`, `RtmpMessageTransport`)

Sending cuts one payload into chunks inside `send_cache_buf` and hands the
filled part to the socket.  The model records the two effects of that loop, the
`memcpy`s into the cache and the `sendData` calls, in program order; what they
put on the wire is a question for the layers above.  Receiving is one call of
`recvRtmpMessage` on the bytes cached so far.
-/

def rtmpDefaultChunksize : UInt32 := 128
def rtmpDefaultCacheBufferSize : Nat := 32 * 1024

/-- `==` of two doubles given by their bits: no NaN is equal to anything, and
the two zeros are equal. -/
def doubleEq (left right : UInt64) : Bool :=
  let isNan (bits : UInt64) : Bool := (bits &&& 0x7fffffffffffffff) > 0x7ff0000000000000
  let isZero (bits : UInt64) : Bool := bits &&& 0x7fffffffffffffff = 0
  !isNan left && !isNan right && (left = right || (isZero left && isZero right))

/-- `requestsMap_`: the command name recorded for a transaction number. -/
abbrev RequestsMap := List (UInt64 × List UInt8)

/-- `requestsMap_[number] = name`. -/
def RequestsMap.set (requests : RequestsMap) (number : UInt64) (name : List UInt8) : RequestsMap :=
  (number, name) :: requests.filter (fun entry => !doubleEq entry.1 number)

/-- `RtmpMessageTransport`.  `chunk_cache_` inserts a fresh entry for a chunk
stream id it has not seen, which makes it a total function of the id. -/
structure RtmpMessageTransport where
  requestsMap : RequestsMap
  inBufferLength : Int32
  inChunkSize : UInt32
  inAckWindow : UInt32
  chunkCache : UInt32 -> RtmpChunkData
  outChunkSize : UInt32
  outAckWindow : UInt32

namespace RtmpMessageTransport

/-- The constructor.  `stale` is what each entry's memory held before. -/
def new (stale : UInt32 -> UInt32) : RtmpMessageTransport where
  requestsMap := []
  inBufferLength := 0
  inChunkSize := rtmpDefaultChunksize
  inAckWindow := 0
  chunkCache := fun csId => RtmpChunkData.new (stale csId)
  outChunkSize := rtmpDefaultChunksize
  outAckWindow := 0

/-- Store one entry of `chunk_cache_`. -/
def setChunk (transport : RtmpMessageTransport) (csId : UInt32) (chunk : RtmpChunkData) :
    RtmpMessageTransport :=
  { transport with
    chunkCache := fun other => if other = csId then chunk else transport.chunkCache other }

@[simp] theorem setChunk_same (transport : RtmpMessageTransport) (csId : UInt32) (chunk : RtmpChunkData) :
    (transport.setChunk csId chunk).chunkCache csId = chunk :=
  if_pos rfl

theorem setChunk_other (transport : RtmpMessageTransport) {csId other : UInt32} (chunk : RtmpChunkData)
    (different : other ≠ csId) :
    (transport.setChunk csId chunk).chunkCache other = transport.chunkCache other :=
  if_neg different

@[simp] theorem setChunk_self (transport : RtmpMessageTransport) (csId : UInt32) :
    transport.setChunk csId (transport.chunkCache csId) = transport := by
  have same : (fun other => if other = csId then transport.chunkCache csId else transport.chunkCache other) =
      transport.chunkCache := by
    funext other
    by_cases here : other = csId
    · rw [if_pos here, here]
    · rw [if_neg here]
  rw [setChunk, same]

@[simp] theorem setChunk_setChunk (transport : RtmpMessageTransport) (csId : UInt32)
    (first second : RtmpChunkData) :
    (transport.setChunk csId first).setChunk csId second = transport.setChunk csId second := by
  simp only [setChunk, mk.injEq, and_true, true_and]
  funext other
  by_cases same : other = csId
  · simp only [if_pos same]
  · simp only [if_neg same]

@[simp] theorem setChunk_inChunkSize (transport : RtmpMessageTransport) (csId : UInt32)
    (chunk : RtmpChunkData) : (transport.setChunk csId chunk).inChunkSize = transport.inChunkSize := rfl

end RtmpMessageTransport

/-! ## Sending -/

/-- What `do_send_message` does to the world: a `memcpy` to `send_cache_buf +
index`, or `sendData(send_cache_buf, length)`. -/
inductive CacheOp where
  | memcpy (index : Nat) (bytes : List UInt8)
  | sendData (length : Nat)
  deriving DecidableEq, Repr

/-- The loop variables: `start - payload`, and `index`. -/
structure SendCursor where
  start : Nat
  index : Nat
  deriving DecidableEq, Repr

/-- The header of the next chunk: the loop sets `chunk_type` before `encode`. -/
def chunkHeader (header : RtmpHeader) (start : Nat) : RtmpHeader :=
  { header with chunkType := if start = 0 then 0 else 3 }

/-- One iteration of the loop of `do_send_message`. -/
def sendChunk (outChunkSize : UInt32) (header : RtmpHeader) (payload : List UInt8)
    (cursor : SendCursor) : Outcome (List CacheOp × SendCursor) := do
  let headerData ← (chunkHeader header cursor.start).encode 16
  let bodyIndex := cursor.index + headerData.length
  let len := min outChunkSize.toNat (payload.length - cursor.start)
  let body := (payload.drop cursor.start).take len
  let index := bodyIndex + len
  let cacheLeft : Int := (rtmpDefaultCacheBufferSize : Int) - index
  let stores := [CacheOp.memcpy cursor.index headerData, CacheOp.memcpy bodyIndex body]
  if cacheLeft ≤ rtmpChunkFmt0HeaderMaxSize then
    return (stores ++ [CacheOp.sendData index], { start := cursor.start + len, index := 0 })
  else
    return (stores, { start := cursor.start + len, index })

/-- The loop.  `fuel` bounds the iterations; running out of it means that the
loop of the source has not ended after so many. -/
def sendLoop (outChunkSize : UInt32) (header : RtmpHeader) (payload : List UInt8) :
    (fuel : Nat) -> SendCursor -> Option (List CacheOp)
  | 0, cursor =>
      if cursor.start < payload.length then none
      else if cursor.index > 0 then some [CacheOp.sendData cursor.index] else some []
  | fuel + 1, cursor =>
      if cursor.start < payload.length then
        match sendChunk outChunkSize header payload cursor with
        | .ok (ops, next) => (sendLoop outChunkSize header payload fuel next).map (ops ++ ·)
        | _ => none
      else if cursor.index > 0 then some [CacheOp.sendData cursor.index] else some []

/-- `do_send_message`.  Every iteration with a positive chunk size consumes at
least one byte, so one iteration for each byte is enough. -/
def doSendMessage (outChunkSize : UInt32) (header : RtmpHeader) (payload : List UInt8) :
    Option (List CacheOp) :=
  sendLoop outChunkSize header payload payload.length { start := 0, index := 0 }

/-- `on_send_message`. -/
def onSendMessage (transport : RtmpMessageTransport) (pkg : RtmpBasePacket) : RtmpMessageTransport :=
  if pkg.getMsgType = rtmpMsgSetChunkSize then
    match pkg.dynamicClass with
    | .setChunkSize chunkSize => { transport with outChunkSize := chunkSize.toUInt32 }
    | _ => transport
  else if pkg.getMsgType = rtmpMsgWindowAcknowledgementSize then
    match pkg.dynamicClass with
    | .setWindowAckSize windowAckSize => { transport with outAckWindow := windowAckSize.toUInt32 }
    | _ => transport
  else if pkg.getMsgType = rtmpMsgAmf0CommandMessage ∨ pkg.getMsgType = rtmpMsgAmf3CommandMessage then
    match pkg.dynamicClass with
    | .request number commandName =>
        { transport with requestsMap := RequestsMap.set transport.requestsMap number commandName }
    | _ => transport
  else transport

/-- The header that `sendRtmpMessage` fills in from the packet. -/
def packetHeader (pkg : RtmpBasePacket) (streamid : UInt32) : RtmpHeader where
  chunkType := 0
  chunkStreamId := pkg.getCsId
  timestamp := pkg.getTimestamp
  msgLength := UInt32.ofNat pkg.getPkgLen
  msgTypeId := pkg.getMsgType
  msgStreamId := streamid

/-- `sendRtmpMessage`: the effects and the transport afterwards; `none` when
the loop does not end. -/
def sendRtmpMessage (transport : RtmpMessageTransport) (pkg : RtmpBasePacket) (streamid : UInt32) :
    Option (List CacheOp × RtmpMessageTransport) :=
  match pkg.payload with
  | none => some ([], transport)
  | some payload =>
      (doSendMessage transport.outChunkSize (packetHeader pkg streamid) payload).map
        (fun ops => (ops, onSendMessage transport pkg))

/-! ## Receiving -/

/-- `do_recv_payload`: bytes taken, the chunk afterwards, and `finish`. -/
def doRecvPayload (inChunkSize : UInt32) (chunk : RtmpChunkData) (data : List UInt8) :
    Outcome (Nat × RtmpChunkData × Bool) :=
  -- UTILS_MIN compares as uint32_t; the result is stored in an int
  let payloadLen := asInt (min (chunk.h.msgLength - chunk.currentPayloadLen) inChunkSize)
  if payloadLen > data.length then .error (-1)
  else do
    let chunk ← if chunk.currentPayloadLen = 0 then chunk.createPayload (asInt chunk.h.msgLength) else .ok chunk
    let chunk ← chunk.copyPayload data payloadLen
    return (payloadLen.toNat, chunk, decide (chunk.currentPayloadLen = chunk.h.msgLength))

/-- The header part of `recvRtmpMessage`: copy the decoded header into the
chunk stream's own, or refuse a length that changes inside a message.  The
chunk is returned in both cases. -/
def applyHeader (header : RtmpHeader) (chunk : RtmpChunkData) : Bool × RtmpChunkData :=
  let firstRecvMsg : Bool := chunk.currentPayloadLen = 0
  let chunk := { chunk with
    h := { chunk.h with chunkType := header.chunkType, chunkStreamId := header.chunkStreamId } }
  if header.chunkType ≤ rtmpChunkFmt2Type then
    let chunk := { chunk with timeDelta := header.timestamp }
    let chunk :=
      if header.timestamp < rtmpExtendedTimestamp then
        if header.chunkType = rtmpChunkFmt0Type then chunk.setTimestamp header.timestamp
        else chunk.setTimestamp (chunk.h.timestamp + header.timestamp)
      else chunk
    if header.chunkType ≤ rtmpChunkFmt1Type then
      if !firstRecvMsg && header.msgLength ≠ chunk.h.msgLength then (false, chunk)
      else
        let chunk := { chunk with
          h := { chunk.h with msgLength := header.msgLength, msgTypeId := header.msgTypeId } }
        -- the source compares the chunk stream id, not the format, with 0
        if header.chunkStreamId = rtmpChunkFmt0Type.toUInt32 then
          (true, { chunk with h := { chunk.h with msgStreamId := header.msgStreamId } })
        else (true, chunk)
    else (true, chunk)
  else
    if firstRecvMsg && chunk.timeDelta < rtmpExtendedTimestamp then
      (true, chunk.setTimestamp (chunk.h.timestamp + chunk.timeDelta))
    else (true, chunk)

/-- What the chunk part of `recvRtmpMessage` does: a negative code, or the
bytes taken behind the header, with the chunk afterwards. -/
structure ChunkResult where
  ret : Int
  chunk : RtmpChunkData
  finish : Bool
  deriving DecidableEq, Repr

/-- The payload part, with the rollback of the timestamp on a short read. -/
def recvPayload (inChunkSize : UInt32) (chunk : RtmpChunkData) (data : List UInt8) (taken : Nat) :
    Option ChunkResult :=
  match doRecvPayload inChunkSize chunk data with
  | .fault => none
  | .error code =>
      some { ret := code
             chunk := chunk.setTimestamp (chunk.h.timestamp - chunk.timeDelta)
             finish := false }
  | .ok (length, chunk, finish) => some { ret := (taken + length : Nat), chunk, finish }

/-- The extended timestamp, if the delta announces one, and the payload. -/
def recvBody (inChunkSize : UInt32) (chunk : RtmpChunkData) (data : List UInt8) : Option ChunkResult :=
  if chunk.timeDelta ≥ rtmpExtendedTimestamp then
    if data.length < 4 then some { ret := -1, chunk, finish := false }
    else
      match Outcome.slice data 0 4 with
      | .ok cells =>
          let time := UInt32.ofNat (beValue cells) &&& 0x7fffffff
          recvPayload inChunkSize (chunk.setTimestamp time) (data.drop 4) 4
      | _ => none
  else recvPayload inChunkSize chunk data 0

/-- The chunk part of `recvRtmpMessage`, from the decoded header to the copied
payload; `data` starts behind the header.  `none` is a fault. -/
def recvChunk (inChunkSize : UInt32) (header : RtmpHeader) (chunk : RtmpChunkData)
    (data : List UInt8) : Option ChunkResult :=
  match applyHeader header chunk with
  | (false, chunk) => some { ret := -2, chunk, finish := false }
  | (true, chunk) => recvBody inChunkSize chunk data

/-- `on_recv_message`.  The return value is not used by its caller. -/
def onRecvMessage (transport : RtmpMessageTransport) (msg : RtmpMessage) : Outcome RtmpMessageTransport :=
  if msg.rtmpHeader.msgTypeId = rtmpMsgSetChunkSize then
    match RtmpSetChunkSizePacket.new.decode msg.rtmpBody (asInt msg.rtmpBodyLen) with
    | .fault => .fault
    | .error _ => .ok transport
    | .ok (_, packet) =>
        -- the comparison is unsigned: a negative size is not refused
        if packet.chunkSize.toUInt32 < rtmpDefaultChunksize then .ok transport
        else .ok { transport with inChunkSize := packet.chunkSize.toUInt32 }
  else if msg.rtmpHeader.msgTypeId = rtmpMsgUserControlMessage then
    match RtmpUserControlPacket.new.decode msg.rtmpBody (asInt msg.rtmpBodyLen) with
    | .fault => .fault
    | .error _ => .ok transport
    | .ok (_, packet) =>
        if packet.eventType = rtmpPcucSetBufferLength then
          .ok { transport with inBufferLength := packet.eventData }
        else .ok transport
  else if msg.rtmpHeader.msgTypeId = rtmpMsgWindowAcknowledgementSize then
    match RtmpSetWindowAckSizePacket.new.decode msg.rtmpBody (asInt msg.rtmpBodyLen) with
    | .fault => .fault
    | .error _ => .ok transport
    | .ok (_, packet) =>
        if packet.windowAckSize > 0 then
          .ok { transport with inAckWindow := packet.windowAckSize.toUInt32 }
        else .ok transport
  else .ok transport

/-- What one call of `recvRtmpMessage` leaves when it comes to the decoding: its
return value, the transport, and the `RtmpMessage` built if the call completed
one.  Nothing of the transport changes behind that. -/
structure RecvResult where
  ret : Int
  transport : RtmpMessageTransport
  message : Option RtmpMessage

/-- The end of `recvRtmpMessage`: a completed message is handed over and the
chunk stream starts afresh.  `offset` bytes were read before `result`. -/
def finishRecv (transport : RtmpMessageTransport) (csId : UInt32) (offset : Nat) (result : ChunkResult) :
    Option RecvResult :=
  let transport := transport.setChunk csId result.chunk
  if result.ret < 0 then some { ret := result.ret, transport, message := none }
  else if result.finish then
    let msg := result.chunk.createMsg
    match onRecvMessage transport msg with
    | .ok transport =>
        some { ret := offset + result.ret
               transport := transport.setChunk csId result.chunk.reset
               message := some msg }
    | _ => none
  else some { ret := offset + result.ret, transport, message := none }

/-- `recvRtmpMessage` after `header.decode`; `offset` bytes are already read
and `data` starts behind them.  `none` is a fault. -/
def recvAfterDecode (transport : RtmpMessageTransport) (header : RtmpHeader) (offset : Nat)
    (data : List UInt8) : Option RecvResult :=
  let csId := header.chunkStreamId
  (recvChunk transport.inChunkSize header (transport.chunkCache csId) data).bind
    (finishRecv transport csId offset)

/-- `recvRtmpMessage` on the bytes cached so far, up to the decoding of the message
that the call completes; `none` is a fault. -/
def recvUndecoded (transport : RtmpMessageTransport) (data : List UInt8) : Option RecvResult :=
  match RtmpHeader.decode data with
  | .fault => none
  | .error code => some { ret := code, transport, message := none }
  | .ok (offset, header) => recvAfterDecode transport header offset (data.drop offset)

/-! ### With the decoding -/

universe u

/-- What a call of `recvRtmpMessage` that returns leaves. -/
structure RecvCall (π : Type u) where
  ret : Int
  transport : RtmpMessageTransport
  packet : Option π

section Decoding

variable {π : Type u}

/-- The end of the call: a completed message is decoded, with `requestsMap_` at
hand, into a packet or none.  `none` is a decoder that does not return. -/
def RecvResult.decoded (decodeMsg : RtmpMessage -> RequestsMap -> Option (Option π)) (result : RecvResult) :
    Option (RecvCall π) :=
  match result.message with
  | none => some { ret := result.ret, transport := result.transport, packet := none }
  | some msg =>
      (decodeMsg msg result.transport.requestsMap).map fun packet =>
        { ret := result.ret, transport := result.transport, packet }

/-- `recvRtmpMessage` as a whole; `none` is a fault, of the decoder as well. -/
def recvRtmpMessage (decodeMsg : RtmpMessage -> RequestsMap -> Option (Option π))
    (transport : RtmpMessageTransport) (data : List UInt8) : Option (RecvCall π) :=
  (recvUndecoded transport data).bind (RecvResult.decoded decodeMsg)

end Decoding

end Rtmp
end RtmpClient
