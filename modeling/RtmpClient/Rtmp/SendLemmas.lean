import RtmpClient.Library.Assembly
import RtmpClient.Library.SharedBuffer
import RtmpClient.Rtmp.HeaderRoundTrip
import RtmpClient.Rtmp.Transport

namespace RtmpClient
namespace Rtmp

open Library

/-!
# What the send loop writes

The loop of `do_send_message` fills `send_cache_buf` from the front and submits
what it has filled, so that the submissions joined are the chunks joined.
-/

/-- The two effects of the send loop as operations on the cache. -/
def CacheOp.toBufferOp : CacheOp -> BufferOp UInt8
  | .memcpy index bytes => .store index bytes
  | .sendData length => .submit length

/-- The bytes that the `sendData` calls hand over, each call's contents taken
when it is made. -/
def wireBytes (memory : Memory UInt8) (ops : List CacheOp) : List UInt8 :=
  (BufferOp.submissions memory (ops.map CacheOp.toBufferOp)).flatten

/-- The header of the chunk that starts at `start`. -/
def chunkHeaderBytes (header : RtmpHeader) (start : Nat) : List UInt8 :=
  if start = 0 then RtmpHeader.fmt0Bytes header else RtmpHeader.fmt3Bytes header

/-- The payload bytes of the chunk that starts at `start`. -/
def chunkBody (outChunkSize : UInt32) (payload : List UInt8) (start : Nat) : List UInt8 :=
  (payload.drop start).take (min outChunkSize.toNat (payload.length - start))

/-- The chunks from `start` on. -/
def chunkList (outChunkSize : UInt32) (header : RtmpHeader) (payload : List UInt8) :
    (fuel : Nat) -> (start : Nat) -> List (List UInt8)
  | 0, _ => []
  | fuel + 1, start =>
      if start < payload.length then
        (chunkHeaderBytes header start ++ chunkBody outChunkSize payload start) ::
          chunkList outChunkSize header payload fuel
            (start + min outChunkSize.toNat (payload.length - start))
      else []

@[simp] theorem wireBytes_nil (memory : Memory UInt8) : wireBytes memory [] = [] := rfl

@[simp] theorem wireBytes_memcpy (memory : Memory UInt8) (index : Nat) (bytes : List UInt8)
    (ops : List CacheOp) :
    wireBytes memory (.memcpy index bytes :: ops) = wireBytes (memory.store index bytes) ops := rfl

@[simp] theorem wireBytes_sendData (memory : Memory UInt8) (length : Nat) (ops : List CacheOp) :
    wireBytes memory (.sendData length :: ops) = memory.contents length ++ wireBytes memory ops := rfl

/-- Two runs of operations, one after the other: the second starts with what the
first left in the cache. -/
theorem wireBytes_append (memory : Memory UInt8) (first second : List CacheOp) :
    Exists fun between => wireBytes memory (first ++ second) = wireBytes memory first ++ wireBytes between second := by
  refine ⟨BufferOp.memoryAfter memory (first.map CacheOp.toBufferOp), ?_⟩
  rw [wireBytes, List.map_append, BufferOp.submissions_append, List.flatten_append]
  rfl

theorem chunkBody_length (outChunkSize : UInt32) (payload : List UInt8) (start : Nat) :
    (chunkBody outChunkSize payload start).length = min outChunkSize.toNat (payload.length - start) := by
  rw [chunkBody, List.length_take, List.length_drop, Nat.min_assoc, Nat.min_self]

theorem chunkHeaderBytes_length (header : RtmpHeader) (start : Nat) :
    (chunkHeaderBytes header start).length =
      (if start = 0 then 12 else 1) + fieldLength header.timestamp := by
  unfold chunkHeaderBytes
  split
  · exact RtmpHeader.fmt0Bytes_length header
  · exact RtmpHeader.fmt3Bytes_length header

theorem chunkHeader_encode (header : RtmpHeader) (start : Nat) :
    (chunkHeader header start).encode 16 = .ok (chunkHeaderBytes header start) := by
  unfold chunkHeader chunkHeaderBytes
  by_cases first : start = 0
  · rw [if_pos first, if_pos first]
    exact RtmpHeader.encode_fmt0 rfl
  · rw [if_neg first, if_neg first]
    exact RtmpHeader.encode_fmt3 rfl

/-- Where the cache is filled to after the chunk. -/
def chunkEnd (outChunkSize : UInt32) (header : RtmpHeader) (payload : List UInt8) (cursor : SendCursor) : Nat :=
  cursor.index + (chunkHeaderBytes header cursor.start).length +
    min outChunkSize.toNat (payload.length - cursor.start)

/-- The two stores of one iteration. -/
def chunkStores (outChunkSize : UInt32) (header : RtmpHeader) (payload : List UInt8) (cursor : SendCursor) :
    List CacheOp :=
  [.memcpy cursor.index (chunkHeaderBytes header cursor.start),
    .memcpy (cursor.index + (chunkHeaderBytes header cursor.start).length)
      (chunkBody outChunkSize payload cursor.start)]

/-- One iteration: the stores, and a flush when at most 16 bytes are left. -/
theorem sendChunk_eq (outChunkSize : UInt32) (header : RtmpHeader) (payload : List UInt8)
    (cursor : SendCursor) :
    sendChunk outChunkSize header payload cursor = .ok
      (if rtmpDefaultCacheBufferSize ≤ chunkEnd outChunkSize header payload cursor + 16 then
        (chunkStores outChunkSize header payload cursor ++
            [.sendData (chunkEnd outChunkSize header payload cursor)],
          { start := cursor.start + min outChunkSize.toNat (payload.length - cursor.start), index := 0 })
      else
        (chunkStores outChunkSize header payload cursor,
          { start := cursor.start + min outChunkSize.toNat (payload.length - cursor.start)
            index := chunkEnd outChunkSize header payload cursor })) := by
  unfold sendChunk
  rw [chunkHeader_encode]
  simp only [Outcome.ok_bind_do, Outcome.pure_eq]
  by_cases full : rtmpDefaultCacheBufferSize ≤ chunkEnd outChunkSize header payload cursor + 16
  · have left : ((rtmpDefaultCacheBufferSize : Nat) : Int) -
        ((chunkEnd outChunkSize header payload cursor : Nat) : Int) ≤ (rtmpChunkFmt0HeaderMaxSize : Nat) := by
      rw [rtmpChunkFmt0HeaderMaxSize]
      omega
    rw [if_pos full]
    exact if_pos left
  · have left : ¬ ((rtmpDefaultCacheBufferSize : Nat) : Int) -
        ((chunkEnd outChunkSize header payload cursor : Nat) : Int) ≤ (rtmpChunkFmt0HeaderMaxSize : Nat) := by
      rw [rtmpChunkFmt0HeaderMaxSize]
      omega
    rw [if_neg full]
    exact if_neg left

/-- Behind the two stores the cache holds the chunk. -/
theorem contents_chunkStores (outChunkSize : UInt32) (header : RtmpHeader) (payload : List UInt8)
    (cursor : SendCursor) (memory : Memory UInt8) :
    ((memory.store cursor.index (chunkHeaderBytes header cursor.start)).store
        (cursor.index + (chunkHeaderBytes header cursor.start).length)
        (chunkBody outChunkSize payload cursor.start)).contents
          (chunkEnd outChunkSize header payload cursor) =
      memory.contents cursor.index ++
        (chunkHeaderBytes header cursor.start ++ chunkBody outChunkSize payload cursor.start) := by
  have filled : chunkEnd outChunkSize header payload cursor =
      cursor.index + (chunkHeaderBytes header cursor.start).length +
        (chunkBody outChunkSize payload cursor.start).length := by
    rw [chunkEnd, chunkBody_length]
  rw [filled, Memory.contents_store, Memory.contents_store, List.append_assoc]

/-- One iteration of the loop: the stores, perhaps a flush, and the loop from
the next cursor. -/
theorem sendLoop_next {outChunkSize : UInt32} {header : RtmpHeader} {payload : List UInt8} {fuel : Nat}
    {cursor : SendCursor} (more : cursor.start < payload.length) :
    sendLoop outChunkSize header payload (fuel + 1) cursor =
      if rtmpDefaultCacheBufferSize ≤ chunkEnd outChunkSize header payload cursor + 16 then
        (sendLoop outChunkSize header payload fuel
          { start := cursor.start + min outChunkSize.toNat (payload.length - cursor.start), index := 0 }).map
            fun ops => chunkStores outChunkSize header payload cursor ++
              .sendData (chunkEnd outChunkSize header payload cursor) :: ops
      else
        (sendLoop outChunkSize header payload fuel
          { start := cursor.start + min outChunkSize.toNat (payload.length - cursor.start)
            index := chunkEnd outChunkSize header payload cursor }).map
            fun ops => chunkStores outChunkSize header payload cursor ++ ops := by
  rw [sendLoop, if_pos more, sendChunk_eq]
  by_cases full : rtmpDefaultCacheBufferSize ≤ chunkEnd outChunkSize header payload cursor + 16
  · simp only [full, if_true, List.append_assoc, List.cons_append, List.nil_append]
  · simp only [full, if_false]

/-- When the payload is used up, what is left in the cache is flushed. -/
theorem sendLoop_done {outChunkSize : UInt32} {header : RtmpHeader} {payload : List UInt8} (fuel : Nat)
    {cursor : SendCursor} (done : ¬ cursor.start < payload.length) :
    sendLoop outChunkSize header payload fuel cursor =
      if cursor.index > 0 then some [CacheOp.sendData cursor.index] else some [] := by
  cases fuel with
  | zero => rw [sendLoop, if_neg done]
  | succ fuel => rw [sendLoop, if_neg done]

/-- The last flush puts on the wire what is left in the cache. -/
theorem sendLoop_flush {outChunkSize : UInt32} {header : RtmpHeader} {payload : List UInt8} {fuel : Nat}
    {cursor : SendCursor} {ops : List CacheOp} (done : ¬ cursor.start < payload.length)
    (sent : sendLoop outChunkSize header payload fuel cursor = some ops) (memory : Memory UInt8) :
    wireBytes memory ops = memory.contents cursor.index := by
  rw [sendLoop_done fuel done] at sent
  by_cases filled : cursor.index > 0
  · rw [if_pos filled, Option.some.injEq] at sent
    rw [← sent, wireBytes_sendData, wireBytes_nil, List.append_nil]
  · rw [if_neg filled, Option.some.injEq] at sent
    rw [← sent, wireBytes_nil, Nat.eq_zero_of_not_pos filled, Memory.contents_zero]

/-- The `sendData` calls of the loop, joined: what the cache held, then the
chunks that were left. -/
theorem sendLoop_wire {outChunkSize : UInt32} {header : RtmpHeader} {payload : List UInt8} {fuel : Nat}
    {cursor : SendCursor} {ops : List CacheOp}
    (sent : sendLoop outChunkSize header payload fuel cursor = some ops) (memory : Memory UInt8) :
    wireBytes memory ops =
      memory.contents cursor.index ++ (chunkList outChunkSize header payload fuel cursor.start).flatten := by
  induction fuel generalizing cursor ops memory with
  | zero =>
      by_cases more : cursor.start < payload.length
      · rw [sendLoop, if_pos more] at sent
        cases sent
      · rw [chunkList, List.flatten_nil, List.append_nil]
        exact sendLoop_flush more sent memory
  | succ fuel inductionHypothesis =>
      by_cases more : cursor.start < payload.length
      · have chunk := contents_chunkStores outChunkSize header payload cursor memory
        rw [chunkList, if_pos more, List.flatten_cons, ← List.append_assoc, ← chunk]
        rw [sendLoop_next more] at sent
        by_cases full : rtmpDefaultCacheBufferSize ≤ chunkEnd outChunkSize header payload cursor + 16
        · rw [if_pos full] at sent
          rcases Option.map_eq_some_iff.mp sent with ⟨rest, next, shape⟩
          rw [← shape]
          simp only [chunkStores, List.cons_append, List.nil_append, wireBytes_memcpy, wireBytes_sendData]
          rw [inductionHypothesis next, Memory.contents_zero, List.nil_append]
        · rw [if_neg full] at sent
          rcases Option.map_eq_some_iff.mp sent with ⟨rest, next, shape⟩
          rw [← shape]
          simp only [chunkStores, List.cons_append, List.nil_append, wireBytes_memcpy]
          exact inductionHypothesis next _
      · rw [chunkList, if_neg more, List.flatten_nil, List.append_nil]
        exact sendLoop_flush more sent memory

/-- A positive chunk size makes progress, so the loop ends. -/
theorem sendLoop_ends {outChunkSize : UInt32} (positive : 0 < outChunkSize.toNat) (header : RtmpHeader)
    (payload : List UInt8) {fuel : Nat} (cursor : SendCursor) (enough : payload.length - cursor.start ≤ fuel) :
    Exists fun ops => sendLoop outChunkSize header payload fuel cursor = some ops := by
  induction fuel generalizing cursor with
  | zero =>
      rw [sendLoop_done 0 (by omega)]
      split
      · exact ⟨_, rfl⟩
      · exact ⟨_, rfl⟩
  | succ fuel inductionHypothesis =>
      by_cases more : cursor.start < payload.length
      · have step : 0 < min outChunkSize.toNat (payload.length - cursor.start) :=
          Nat.lt_min.mpr ⟨positive, Nat.sub_pos_of_lt more⟩
        have left : payload.length -
            (cursor.start + min outChunkSize.toNat (payload.length - cursor.start)) ≤ fuel := by
          omega
        rw [sendLoop_next more]
        by_cases full : rtmpDefaultCacheBufferSize ≤ chunkEnd outChunkSize header payload cursor + 16
        · rcases inductionHypothesis { start := _, index := 0 } left with ⟨rest, next⟩
          rw [if_pos full, next]
          exact ⟨_, rfl⟩
        · rcases inductionHypothesis { start := _, index := _ } left with ⟨rest, next⟩
          rw [if_neg full, next]
          exact ⟨_, rfl⟩
      · rw [sendLoop_done (fuel + 1) more]
        split
        · exact ⟨_, rfl⟩
        · exact ⟨_, rfl⟩

/-- A chunk size of zero does not: no number of iterations is enough. -/
theorem sendLoop_spins (header : RtmpHeader) (payload : List UInt8) (fuel : Nat) (cursor : SendCursor)
    (more : cursor.start < payload.length) : sendLoop 0 header payload fuel cursor = none := by
  induction fuel generalizing cursor with
  | zero => rw [sendLoop, if_pos more]
  | succ fuel inductionHypothesis =>
      have still : cursor.start + min (0 : UInt32).toNat (payload.length - cursor.start) < payload.length := by
        rw [show (0 : UInt32).toNat = 0 from rfl, Nat.zero_min]
        exact more
      rw [sendLoop_next more, inductionHypothesis { start := _, index := _ } still,
        inductionHypothesis { start := _, index := _ } still]
      exact ite_self _

/-- The chunks of a whole message. -/
def messageChunks (outChunkSize : UInt32) (header : RtmpHeader) (payload : List UInt8) : List (List UInt8) :=
  chunkList outChunkSize header payload payload.length 0

/-- `do_send_message` ends, and puts the chunks of the message on the wire. -/
theorem doSendMessage_wire {outChunkSize : UInt32} (positive : 0 < outChunkSize.toNat) (header : RtmpHeader)
    (payload : List UInt8) :
    Exists fun ops => doSendMessage outChunkSize header payload = some ops ∧
      forall memory, wireBytes memory ops = (messageChunks outChunkSize header payload).flatten := by
  rcases sendLoop_ends positive header payload { start := 0, index := 0 }
    (Nat.le_refl payload.length) with ⟨ops, sent⟩
  refine ⟨ops, sent, ?_⟩
  intro memory
  rw [sendLoop_wire sent, Memory.contents_zero, List.nil_append, messageChunks]

/-- A chunk behind the first costs at most five bytes besides its payload. -/
theorem chunkList_length_le {outChunkSize : UInt32} (positive : 0 < outChunkSize.toNat) (header : RtmpHeader)
    (payload : List UInt8) (fuel : Nat) {start : Nat} (behind : 0 < start) :
    (chunkList outChunkSize header payload fuel start).flatten.length ≤
      payload.length - start + 5 * pieceCount outChunkSize.toNat (payload.length - start) := by
  induction fuel generalizing start with
  | zero => exact Nat.zero_le _
  | succ fuel inductionHypothesis =>
      rw [chunkList]
      by_cases more : start < payload.length
      · have field := fieldLength_le header.timestamp
        have rest := inductionHypothesis (Nat.lt_of_lt_of_le behind
          (Nat.le_add_right start (min outChunkSize.toNat (payload.length - start))))
        have pieces := pieceCount_step positive (Nat.sub_pos_of_lt more)
        have left : payload.length - (start + min outChunkSize.toNat (payload.length - start)) =
            payload.length - start - min (payload.length - start) outChunkSize.toNat := by
          omega
        rw [left] at rest
        rw [if_pos more, List.flatten_cons, List.length_append, List.length_append,
          chunkHeaderBytes_length, if_neg (Nat.ne_of_gt behind), chunkBody_length, pieces]
        omega
      · rw [if_neg more]
        exact Nat.zero_le _

/-- The first chunk of a message that does not fit one, and the rest. -/
theorem messageChunks_first {outChunkSize : UInt32} {payload : List UInt8} (header : RtmpHeader)
    (long : outChunkSize.toNat < payload.length) :
    Exists fun fuel => (messageChunks outChunkSize header payload).flatten =
      RtmpHeader.fmt0Bytes header ++ (payload.take outChunkSize.toNat ++
        (chunkList outChunkSize header payload fuel outChunkSize.toNat).flatten) := by
  have nonempty : 0 < payload.length := Nat.lt_of_le_of_lt (Nat.zero_le _) long
  have full : min outChunkSize.toNat (payload.length - 0) = outChunkSize.toNat := by
    rw [Nat.sub_zero, Nat.min_eq_left (Nat.le_of_lt long)]
  rcases Nat.exists_eq_succ_of_ne_zero (Nat.ne_of_gt nonempty) with ⟨fuel, length⟩
  refine ⟨fuel, ?_⟩
  rw [messageChunks, length, chunkList, if_pos nonempty, full, Nat.zero_add, List.flatten_cons,
    chunkHeaderBytes, if_pos rfl, chunkBody, List.drop_zero, full, List.append_assoc]

/-- The chunk of a payload that fits one. -/
theorem chunk_single {outChunkSize : UInt32} {payload : List UInt8} (header : RtmpHeader)
    (single : payload.length ≤ outChunkSize.toNat) :
    chunkHeaderBytes header 0 ++ chunkBody outChunkSize payload 0 =
      RtmpHeader.fmt0Bytes header ++ payload := by
  rw [chunkHeaderBytes, if_pos rfl, chunkBody, List.drop_zero, Nat.sub_zero, Nat.min_eq_right single,
    List.take_length]

/-- A payload that fits one chunk goes out behind a single format-0 header. -/
theorem messageChunks_single {outChunkSize : UInt32} {payload : List UInt8} (header : RtmpHeader)
    (nonempty : 0 < payload.length) (single : payload.length ≤ outChunkSize.toNat) :
    (messageChunks outChunkSize header payload).flatten = RtmpHeader.fmt0Bytes header ++ payload := by
  have used : 0 + min outChunkSize.toNat (payload.length - 0) = payload.length := by
    rw [Nat.sub_zero, Nat.min_eq_right single, Nat.zero_add]
  have rest : forall fuel, chunkList outChunkSize header payload fuel payload.length = [] := by
    intro fuel
    cases fuel with
    | zero => rfl
    | succ fuel => rw [chunkList, if_neg (Nat.lt_irrefl _)]
  rcases Nat.exists_eq_succ_of_ne_zero (Nat.ne_of_gt nonempty) with ⟨fuel, length⟩
  rw [messageChunks, length, chunkList, if_pos nonempty, used, rest, List.flatten_cons, List.flatten_nil,
    List.append_nil, chunk_single header single]

end Rtmp
end RtmpClient
