import RtmpClient.Client.Chunking
import RtmpClient.Library.WriteSession
import RtmpClient.Rtmp.SendCache

namespace RtmpClient
namespace Client

open Library Rtmp

/-!
# Writes that read the send cache later

`sendData` hands `uv_write` the address of `send_cache_buf` and copies nothing,
and the next message is built in the same bytes.  `uv_write` may read a byte at
any moment until the write completes; writes complete in the order of the calls.
-/

/-- The send cache and the writes on it: the `memcpy`s and `sendData` calls that
the loop thread still has to make, and what the writes have read so far. -/
abbrev SendQueue := Library.Session UInt8

namespace SendQueue

/-- The queue before the first of the effects. -/
def new (memory : Memory UInt8) (ops : List CacheOp) : SendQueue :=
  Library.Session.start memory (ops.map CacheOp.toBufferOp)

end SendQueue

/-- In every schedule, whenever no write is pending, the wire has the contents
that the `sendData` buffers had when they were handed over, in call order. -/
def WireFaithful (memory : Memory UInt8) (ops : List CacheOp) : Prop :=
  Library.Session.Faithful (SendQueue.new memory ops)

/-- The contents of the buffer of each `sendData` call when it is made. -/
def sendDataContents (memory : Memory UInt8) (ops : List CacheOp) : List (List UInt8) :=
  BufferOp.submissions memory (ops.map CacheOp.toBufferOp)

/-- The send loop fills the cache from the front and hands over what it filled. -/
theorem sendLoop_refills {outChunkSize : UInt32} {header : RtmpHeader} {payload : List UInt8} {fuel : Nat}
    {cursor : SendCursor} {ops : List CacheOp}
    (sent : sendLoop outChunkSize header payload fuel cursor = some ops) :
    Refills cursor.index (ops.map CacheOp.toBufferOp) := by
  have last : forall fuel {cursor : SendCursor} {ops : List CacheOp}, ¬ cursor.start < payload.length ->
      sendLoop outChunkSize header payload fuel cursor = some ops ->
        Refills cursor.index (ops.map CacheOp.toBufferOp) := by
    intro fuel cursor ops done sent
    rw [sendLoop_done fuel done] at sent
    by_cases filled : cursor.index > 0
    · rw [if_pos filled, Option.some.injEq] at sent
      rw [← sent]
      exact ⟨rfl, rfl⟩
    · rw [if_neg filled, Option.some.injEq] at sent
      rw [← sent]
      exact Nat.eq_zero_of_not_pos filled
  induction fuel generalizing cursor ops with
  | zero =>
      by_cases more : cursor.start < payload.length
      · rw [sendLoop, if_pos more] at sent
        cases sent
      · exact last 0 more sent
  | succ fuel inductionHypothesis =>
      by_cases more : cursor.start < payload.length
      · have stop : chunkEnd outChunkSize header payload cursor =
            cursor.index + (chunkHeaderBytes header cursor.start).length +
              (chunkBody outChunkSize payload cursor.start).length := by
          rw [chunkEnd, chunkBody_length]
        rw [sendLoop_next more] at sent
        by_cases full : rtmpDefaultCacheBufferSize ≤ chunkEnd outChunkSize header payload cursor + 16
        · rw [if_pos full] at sent
          rcases Option.map_eq_some_iff.mp sent with ⟨rest, next, shape⟩
          rw [← shape]
          exact ⟨rfl, rfl, stop, inductionHypothesis next⟩
        · rw [if_neg full] at sent
          rcases Option.map_eq_some_iff.mp sent with ⟨rest, next, shape⟩
          have refills := inductionHypothesis next
          rw [← shape]
          refine ⟨rfl, rfl, ?_⟩
          rw [stop] at refills
          exact refills
      · exact last (fuel + 1) more sent

/-- So do the calls of `sendRtmpMessage`, one after the other. -/
theorem sendAll_refills {sender after : RtmpMessageTransport} {calls : List SendCall} {ops : List CacheOp}
    (sent : sendAll sender calls = some (ops, after)) : Refills 0 (ops.map CacheOp.toBufferOp) := by
  induction calls generalizing sender after ops with
  | nil =>
      rw [sendAll, Option.some.injEq, Prod.mk.injEq] at sent
      rw [← sent.1]
      exact rfl
  | cons call calls inductionHypothesis =>
      rcases Option.bind_eq_some_iff.mp sent with ⟨first, one, rest⟩
      rcases Option.map_eq_some_iff.mp rest with ⟨⟨second, final⟩, others, shape⟩
      rw [Prod.mk.injEq] at shape
      have refills : Refills 0 (first.1.map CacheOp.toBufferOp) := by
        unfold sendRtmpMessage at one
        cases payload : call.pkg.payload with
        | none =>
            simp only [payload, Option.some.injEq] at one
            rw [← one]
            exact rfl
        | some bytes =>
            simp only [payload] at one
            rcases Option.map_eq_some_iff.mp one with ⟨cut, looped, result⟩
            rw [← result]
            exact sendLoop_refills looped
      rw [← shape.1, List.map_append]
      exact refills.append (inductionHypothesis others)

/-! ## The encodings, piece by piece -/

/-- Chunks in pieces, as the cache takes them: a piece ends with the chunk that leaves
no more than sixteen bytes of the cache, or with the message. -/
def gather : (filled : List UInt8) -> (chunks : List (List UInt8)) -> List (List UInt8)
  | filled, [] => if filled.length > 0 then [filled] else []
  | filled, chunk :: chunks =>
      if rtmpDefaultCacheBufferSize ≤ (filled ++ chunk).length + 16 then (filled ++ chunk) :: gather [] chunks
      else gather (filled ++ chunk) chunks

/-- The pieces of a message at a chunk size.  A packet without a payload is not sent. -/
def messagePieces (size : UInt32) (call : SendCall) : List (List UInt8) :=
  match call.pkg.payload with
  | none => []
  | some payload => gather [] (messageChunks size (packetHeader call.pkg call.streamid) payload)

/-- The chunk size once the message is sent. -/
def sizeBehind (call : SendCall) (size : UInt32) : UInt32 :=
  match call.pkg.payload with
  | none => size
  | some _ => sizeAfter call size

/-- The pieces of the messages, each at the chunk size in force. -/
def sequentialPieces (size : UInt32) : List SendCall -> List (List UInt8)
  | [] => []
  | call :: calls => messagePieces size call ++ sequentialPieces (sizeBehind call size) calls

/-- Bytes are cut into chunks of at least one. -/
def Cuts (size : UInt32) (call : SendCall) : Prop :=
  forall payload, call.pkg.payload = some payload -> payload ≠ [] -> size ≠ 0

/-- The same for every message, at the chunk size in force. -/
def AllCut (size : UInt32) : List SendCall -> Prop
  | [] => True
  | call :: calls => Cuts size call ∧ AllCut (sizeBehind call size) calls

/-- The length of what the cache holds behind a chunk. -/
theorem filled_length {outChunkSize : UInt32} {header : RtmpHeader} {payload : List UInt8} {cursor : SendCursor}
    {filled : List UInt8} (length : filled.length = cursor.index) :
    (filled ++ (chunkHeaderBytes header cursor.start ++ chunkBody outChunkSize payload cursor.start)).length =
      chunkEnd outChunkSize header payload cursor := by
  rw [List.length_append, List.length_append, length, chunkBody_length, chunkEnd, Nat.add_assoc]

/-- The `sendData` calls of the loop hand over the pieces of what the cache held and
of the chunks that were left. -/
theorem sendLoop_pieces {outChunkSize : UInt32} {header : RtmpHeader} {payload : List UInt8} {fuel : Nat}
    {cursor : SendCursor} {ops : List CacheOp}
    (sent : sendLoop outChunkSize header payload fuel cursor = some ops) (memory : Memory UInt8) :
    sendDataContents memory ops =
      gather (memory.contents cursor.index) (chunkList outChunkSize header payload fuel cursor.start) := by
  have last : forall fuel {cursor : SendCursor} {ops : List CacheOp} (memory : Memory UInt8),
      ¬ cursor.start < payload.length -> sendLoop outChunkSize header payload fuel cursor = some ops ->
        sendDataContents memory ops = gather (memory.contents cursor.index) [] := by
    intro fuel cursor ops memory done sent
    rw [sendLoop_done fuel done] at sent
    rw [gather, Memory.contents_length]
    by_cases filled : cursor.index > 0
    · rw [if_pos filled, Option.some.injEq] at sent
      rw [if_pos filled, ← sent]
      rfl
    · rw [if_neg filled, Option.some.injEq] at sent
      rw [if_neg filled, ← sent]
      rfl
  induction fuel generalizing cursor ops memory with
  | zero =>
      by_cases more : cursor.start < payload.length
      · rw [sendLoop, if_pos more] at sent
        cases sent
      · exact last 0 memory more sent
  | succ fuel inductionHypothesis =>
      by_cases more : cursor.start < payload.length
      · have chunk := contents_chunkStores outChunkSize header payload cursor memory
        rw [chunkList, if_pos more, gather, filled_length (memory.contents_length cursor.index), ← chunk]
        rw [sendLoop_next more] at sent
        by_cases full : rtmpDefaultCacheBufferSize ≤ chunkEnd outChunkSize header payload cursor + 16
        · rw [if_pos full] at sent
          rcases Option.map_eq_some_iff.mp sent with ⟨rest, next, rfl⟩
          rw [if_pos full]
          refine congrArg (List.cons _) ((inductionHypothesis next _).trans ?_)
          rw [Memory.contents_zero]
        · rw [if_neg full] at sent
          rcases Option.map_eq_some_iff.mp sent with ⟨rest, next, rfl⟩
          rw [if_neg full]
          exact inductionHypothesis next _
      · rw [chunkList, if_neg more]
        exact last (fuel + 1) memory more sent

/-- The writes of the loop are inside the cache exactly when the pieces are. -/
theorem sendLoop_inside_iff {outChunkSize : UInt32} {header : RtmpHeader} {payload : List UInt8} {fuel : Nat}
    {cursor : SendCursor} {ops : List CacheOp}
    (sent : sendLoop outChunkSize header payload fuel cursor = some ops) {filled : List UInt8}
    (length : filled.length = cursor.index) (inside : cursor.index ≤ rtmpDefaultCacheBufferSize) :
    (forall op, op ∈ ops -> op.Inside) ↔
      forall piece, piece ∈ gather filled (chunkList outChunkSize header payload fuel cursor.start) ->
        piece.length ≤ rtmpDefaultCacheBufferSize := by
  have last : forall fuel {cursor : SendCursor} {ops : List CacheOp} {filled : List UInt8},
      ¬ cursor.start < payload.length -> sendLoop outChunkSize header payload fuel cursor = some ops ->
        filled.length ≤ rtmpDefaultCacheBufferSize ->
          ((forall op, op ∈ ops -> op.Inside) ↔
            forall piece, piece ∈ gather filled [] -> piece.length ≤ rtmpDefaultCacheBufferSize) := by
    intro fuel cursor ops filled done sent inside
    rw [sendLoop_done fuel done] at sent
    apply iff_of_true
    · split at sent
      · rw [← Option.some.inj sent]
        exact fun op member => List.mem_singleton.mp member ▸ trivial
      · rw [← Option.some.inj sent]
        exact fun op member => absurd member List.not_mem_nil
    · rw [gather]
      split
      · exact fun piece member => List.mem_singleton.mp member ▸ inside
      · exact fun piece member => absurd member List.not_mem_nil
  induction fuel generalizing cursor ops filled with
  | zero =>
      by_cases more : cursor.start < payload.length
      · rw [sendLoop, if_pos more] at sent
        cases sent
      · exact last 0 more sent (length ▸ inside)
  | succ fuel inductionHypothesis =>
      by_cases more : cursor.start < payload.length
      · rw [chunkList, if_pos more, gather, filled_length length]
        rw [sendLoop_next more] at sent
        by_cases full : rtmpDefaultCacheBufferSize ≤ chunkEnd outChunkSize header payload cursor + 16
        · rw [if_pos full] at sent
          rcases Option.map_eq_some_iff.mp sent with ⟨rest, next, rfl⟩
          have others := inductionHypothesis next (List.length_nil : ([] : List UInt8).length = 0) (Nat.zero_le _)
          rw [if_pos full, List.forall_mem_append, chunkStores_inside, List.forall_mem_cons, List.forall_mem_cons,
            filled_length length]
          exact and_congr_right fun _ => (and_iff_right trivial).trans others
        · rw [if_neg full] at sent
          rcases Option.map_eq_some_iff.mp sent with ⟨rest, next, rfl⟩
          have room : chunkEnd outChunkSize header payload cursor ≤ rtmpDefaultCacheBufferSize := by omega
          have others := inductionHypothesis next (filled_length length) room
          rw [if_neg full, List.forall_mem_append, chunkStores_inside]
          exact (and_iff_right room).trans others
      · rw [chunkList, if_neg more]
        exact last (fuel + 1) more sent (length ▸ inside)

/-- What a call of `sendRtmpMessage` leaves. -/
structure Sent (sender : RtmpMessageTransport) (call : SendCall) (ops : List CacheOp)
    (after : RtmpMessageTransport) : Prop where
  size_eq : after.outChunkSize = sizeBehind call sender.outChunkSize
  pieces_eq : forall memory, sendDataContents memory ops = messagePieces sender.outChunkSize call
  inside_iff : (forall op, op ∈ ops -> op.Inside) ↔ forall piece,
    piece ∈ messagePieces sender.outChunkSize call -> piece.length ≤ rtmpDefaultCacheBufferSize

theorem sent_of_sendRtmpMessage {sender after : RtmpMessageTransport} {call : SendCall} {ops : List CacheOp}
    (sent : sendRtmpMessage sender call.pkg call.streamid = some (ops, after)) : Sent sender call ops after := by
  rw [sendRtmpMessage] at sent
  cases encoded : call.pkg.payload with
  | none =>
      simp only [encoded, Option.some.injEq, Prod.mk.injEq] at sent
      rcases sent with ⟨rfl, rfl⟩
      have none : messagePieces sender.outChunkSize call = [] := by rw [messagePieces, encoded]
      refine ⟨by rw [sizeBehind, encoded], fun _ => none.symm, ?_⟩
      rw [none]
      exact iff_of_true (fun _ member => absurd member List.not_mem_nil) fun _ member => absurd member List.not_mem_nil
  | some payload =>
      simp only [encoded] at sent
      rcases Option.map_eq_some_iff.mp sent with ⟨cut, looped, shape⟩
      rw [Prod.mk.injEq] at shape
      rcases shape with ⟨rfl, rfl⟩
      have pieces : messagePieces sender.outChunkSize call =
          gather [] (messageChunks sender.outChunkSize (packetHeader call.pkg call.streamid) payload) := by
        rw [messagePieces, encoded]
      refine ⟨by rw [sizeBehind, encoded, onSendMessage_outChunkSize, sizeAfter], fun memory => ?_, ?_⟩
      · rw [pieces]
        exact sendLoop_pieces looped memory
      · rw [pieces]
        exact sendLoop_inside_iff looped List.length_nil (Nat.zero_le _)

/-- A call returns exactly when it has no bytes to cut into chunks of none. -/
theorem sendRtmpMessage_returns_iff (sender : RtmpMessageTransport) (call : SendCall) :
    (Exists fun sent => sendRtmpMessage sender call.pkg call.streamid = some sent) ↔
      Cuts sender.outChunkSize call := by
  rw [sendRtmpMessage, Cuts]
  cases encoded : call.pkg.payload with
  | none => exact iff_of_true ⟨_, rfl⟩ fun _ none => by cases none
  | some payload =>
      simp only [Option.map_eq_some_iff, Option.some.injEq, forall_eq']
      constructor
      · rintro ⟨_, ops, looped, _⟩ nonempty zero
        rw [zero, doSendMessage, sendLoop_spins _ _ _ _ (List.length_pos_of_ne_nil nonempty)] at looped
        cases looped
      · intro cuts
        by_cases empty : payload = []
        · exact ⟨_, [], by rw [empty]; rfl, rfl⟩
        · have positive : 0 < sender.outChunkSize.toNat :=
            Nat.pos_of_ne_zero fun zero => cuts empty (UInt32.toNat_inj.mp zero)
          rcases doSendMessage_wire positive (packetHeader call.pkg call.streamid) payload with ⟨ops, looped, _⟩
          exact ⟨_, ops, looped, rfl⟩

theorem sendAll_returns_iff {sender : RtmpMessageTransport} {calls : List SendCall} :
    (Exists fun sent => sendAll sender calls = some sent) ↔ AllCut sender.outChunkSize calls := by
  induction calls generalizing sender with
  | nil => exact iff_of_true ⟨_, rfl⟩ trivial
  | cons call calls inductionHypothesis =>
      rw [AllCut, ← sendRtmpMessage_returns_iff]
      constructor
      · rintro ⟨sent, ran⟩
        rcases Option.bind_eq_some_iff.mp ran with ⟨⟨first, middle⟩, one, rest⟩
        rcases Option.map_eq_some_iff.mp rest with ⟨others, more, _⟩
        rw [← (sent_of_sendRtmpMessage one).size_eq]
        exact ⟨⟨_, one⟩, inductionHypothesis.mp ⟨_, more⟩⟩
      · rintro ⟨⟨⟨first, middle⟩, one⟩, cut⟩
        rw [← (sent_of_sendRtmpMessage one).size_eq] at cut
        rcases inductionHypothesis.mpr cut with ⟨others, more⟩
        exact ⟨_, by rw [sendAll, one, Option.bind_some, more]; rfl⟩

/-- The buffers of all the calls are the pieces of the messages. -/
theorem sendAll_pieces {sender after : RtmpMessageTransport} {calls : List SendCall} {ops : List CacheOp}
    (sent : sendAll sender calls = some (ops, after)) (memory : Memory UInt8) :
    sendDataContents memory ops = sequentialPieces sender.outChunkSize calls ∧
      ((forall op, op ∈ ops -> op.Inside) ↔ forall piece, piece ∈ sequentialPieces sender.outChunkSize calls ->
        piece.length ≤ rtmpDefaultCacheBufferSize) := by
  induction calls generalizing sender after ops memory with
  | nil =>
      rw [sendAll, Option.some.injEq, Prod.mk.injEq] at sent
      rw [← sent.1]
      exact ⟨rfl, iff_of_true (fun _ member => absurd member List.not_mem_nil) fun _ member =>
        absurd member List.not_mem_nil⟩
  | cons call calls inductionHypothesis =>
      rcases Option.bind_eq_some_iff.mp sent with ⟨⟨first, middle⟩, one, rest⟩
      rcases Option.map_eq_some_iff.mp rest with ⟨⟨second, final⟩, others, shape⟩
      rw [Prod.mk.injEq] at shape
      have here := sent_of_sendRtmpMessage one
      have later := inductionHypothesis others (BufferOp.memoryAfter memory (first.map CacheOp.toBufferOp))
      rw [here.size_eq] at later
      rw [← shape.1, sequentialPieces]
      constructor
      · rw [sendDataContents, List.map_append, BufferOp.submissions_append]
        exact congrArg₂ (· ++ ·) (here.pieces_eq memory) later.1
      · rw [List.forall_mem_append, List.forall_mem_append, here.inside_iff, later.2]

/-- The calls return, write inside the cache only, and in every schedule the wire has
what was handed over. -/
def SentFaithfully (memory : Memory UInt8) (sender : RtmpMessageTransport) (calls : List SendCall) : Prop :=
  Exists fun ops => Exists fun after => sendAll sender calls = some (ops, after) ∧
    (forall op, op ∈ ops -> op.Inside) ∧ WireFaithful memory ops

/-- Every schedule of the writes is faithful exactly when the messages are cut into
chunks of some bytes, no piece of them is longer than the cache, and any two pieces
have the same bytes wherever both reach. -/
theorem wireFaithful_iff (memory : Memory UInt8) (sender : RtmpMessageTransport) (calls : List SendCall) :
    SentFaithfully memory sender calls ↔ AllCut sender.outChunkSize calls ∧
      (forall piece, piece ∈ sequentialPieces sender.outChunkSize calls ->
        piece.length ≤ rtmpDefaultCacheBufferSize) ∧
      (sequentialPieces sender.outChunkSize calls).Pairwise Compatible := by
  have faithful : forall ops after, sendAll sender calls = some (ops, after) ->
      (WireFaithful memory ops ↔ (sequentialPieces sender.outChunkSize calls).Pairwise Compatible) := by
    intro ops after sent
    rw [← (sendAll_pieces sent memory).1]
    exact Library.Session.faithful_iff_compatible memory (sendAll_refills sent)
  constructor
  · rintro ⟨ops, after, sent, inside, wire⟩
    exact ⟨sendAll_returns_iff.mp ⟨_, sent⟩, (sendAll_pieces sent memory).2.mp inside,
      (faithful ops after sent).mp wire⟩
  · rintro ⟨cut, inside, compatible⟩
    rcases sendAll_returns_iff.mpr cut with ⟨⟨ops, after⟩, sent⟩
    exact ⟨ops, after, sent, (sendAll_pieces sent memory).2.mpr inside, (faithful ops after sent).mpr compatible⟩

/-- A one-byte video message. -/
def byteMessage (byte : UInt8) : SendCall where
  pkg := .ofPayload 6 rtmpMsgVideoMessage 0 [byte] .other
  streamid := 0

/-- A single message is written as it was. -/
theorem wireFaithful_single :
    SentFaithfully (fun _ => 0) (RtmpMessageTransport.new fun _ => 0) [byteMessage 7] := by
  refine (wireFaithful_iff _ _ _).mpr ⟨⟨fun _ _ _ => by decide, trivial⟩, ?_, List.pairwise_singleton _ _⟩
  intro piece member
  rw [show sequentialPieces (RtmpMessageTransport.new fun _ => 0).outChunkSize [byteMessage 7] =
    [[6, 0, 0, 0, 0, 0, 1, 9, 0, 0, 0, 0, 7]] from rfl, List.mem_singleton] at member
  rw [member]
  decide

/-- The effects of sending it. -/
def byteOps (byte : UInt8) : List CacheOp :=
  [.memcpy 0 [6, 0, 0, 0, 0, 0, 1, 9, 0, 0, 0, 0], .memcpy 12 [byte], .sendData 13]

/-- Two messages, both sent before the first write is read: the wire has the
second one twice. -/
theorem wire_has_second_twice :
    sendAll (RtmpMessageTransport.new fun _ => 0) [byteMessage 7, byteMessage 8] =
        some (byteOps 7 ++ byteOps 8, RtmpMessageTransport.new fun _ => 0) ∧
      ¬ SentFaithfully (fun _ => 0) (RtmpMessageTransport.new fun _ => 0) [byteMessage 7, byteMessage 8] := by
  have sent : sendAll (RtmpMessageTransport.new fun _ => 0) [byteMessage 7, byteMessage 8] =
      some (byteOps 7 ++ byteOps 8, RtmpMessageTransport.new fun _ => 0) := rfl
  refine ⟨sent, ?_⟩
  rintro ⟨ops, after, again, _, faithful⟩
  rw [sent, Option.some.injEq, Prod.mk.injEq] at again
  rw [← again.1] at faithful
  have wire := faithful [.own, .own, .own, .own, .own, .own, .complete, .complete] rfl
  exact absurd wire (by decide)

end Client
end RtmpClient
