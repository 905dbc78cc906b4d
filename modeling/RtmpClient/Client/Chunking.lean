import Mathlib.Data.List.Induction
import RtmpClient.Client.ChunkSize
import RtmpClient.Client.ReceiveCost

namespace RtmpClient
namespace Client

open Library Net Rtmp

/-!
# The chunking round trip

The receiver takes the one-byte header of a continued message for a format-0
header.  A message therefore arrives exactly when it goes out in one chunk, both
when messages are sent one after the other and when their chunks interleave.
-/

/-! ## Messages -/

/-- The payload that a packet is sent with. -/
def payloadOf (pkg : RtmpBasePacket) : List UInt8 := pkg.payload.getD []

/-- The packets of the round trip.  Type 1 is `RtmpSetChunkSizePacket` with a
size that the other end accepts. -/
structure Sendable (pkg : RtmpBasePacket) : Prop where
  csLow : 2 ≤ pkg.getCsId.toNat
  csHigh : pkg.getCsId.toNat < 64
  encoded : pkg.payload = some (payloadOf pkg)
  nonempty : 1 ≤ (payloadOf pkg).length
  small : (payloadOf pkg).length < 2 ^ 24
  time : pkg.getTimestamp.toNat < 2 ^ 31
  setChunkSize : pkg.getMsgType = rtmpMsgSetChunkSize -> Exists fun packet : RtmpSetChunkSizePacket =>
    pkg.payload = some packet.encodePkg ∧ pkg.dynamicClass = .setChunkSize packet.chunkSize
  accepted : SizeAccepted pkg

/-- What the two ends compare of a message. -/
structure MessageContent where
  msgType : UInt8
  timestamp : UInt32
  payload : List UInt8
  deriving DecidableEq, Repr

def sentContent (call : SendCall) : MessageContent where
  msgType := call.pkg.getMsgType
  timestamp := call.pkg.getTimestamp
  payload := payloadOf call.pkg

def receivedContent (msg : RtmpMessage) : MessageContent where
  msgType := msg.rtmpHeader.msgTypeId
  timestamp := msg.rtmpHeader.timestamp
  payload := msg.rtmpBody

/-- The chunk size after a message. -/
def sizeAfter (call : SendCall) (size : UInt32) : UInt32 := (announcedSize call.pkg).getD size

/-- The chunks of a message at a chunk size, joined. -/
def callBytes (size : UInt32) (call : SendCall) : List UInt8 :=
  (messageChunks size (packetHeader call.pkg call.streamid) (payloadOf call.pkg)).flatten

/-- Decoding the message does not keep a fresh receiver from returning. -/
def Harmless (call : SendCall) : Prop := ¬ HarmfulBody [] call.pkg.getMsgType (payloadOf call.pkg)

/-- The message goes out in one chunk. -/
def FitsChunk (size : UInt32) (call : SendCall) : Prop := (payloadOf call.pkg).length ≤ size.toNat

theorem Sendable.sizeAfter_le {call : SendCall} (sendable : Sendable call.pkg) {size : UInt32}
    (large : 128 ≤ size.toNat) : 128 ≤ (sizeAfter call size).toNat := by
  unfold sizeAfter
  cases announced : announcedSize call.pkg with
  | none => exact large
  | some next => exact UInt32.le_iff_toNat_le.mp (sendable.accepted next announced)

/-! ## One message -/

/-- The receiver makes exactly these messages of the bytes. -/
def Receives (transport : RtmpMessageTransport) (wire : List UInt8) (calls : List SendCall) : Prop :=
  Exists fun run => receiver.drain (receiving transport) wire = some run ∧
    (completed run.events).map receivedContent = calls.map sentContent

/-- A receiver between messages that has used up what it was sent and agrees
with the sender on the chunk size. -/
structure CaughtUp (transport : RtmpMessageTransport) (wire : List UInt8) (calls : List SendCall)
    (size : UInt32) (next : RtmpMessageTransport) (events : List (RecvEvent RtmpMessage)) : Prop where
  drained : receiver.drain (receiving transport) wire =
    some { state := receiving next, leftover := [], events }
  idle : Idle next
  size_eq : next.inChunkSize = size
  contents_eq : (completed events).map receivedContent = calls.map sentContent

theorem CaughtUp.receives {transport next : RtmpMessageTransport} {wire : List UInt8}
    {calls : List SendCall} {size : UInt32} {events : List (RecvEvent RtmpMessage)}
    (caughtUp : CaughtUp transport wire calls size next events) : Receives transport wire calls :=
  ⟨_, caughtUp.drained, caughtUp.contents_eq⟩

theorem CaughtUp.new {transport : RtmpMessageTransport} (idle : Idle transport) :
    CaughtUp transport [] [] transport.inChunkSize transport [] where
  drained := Incremental.drain_nil _
  idle := idle
  size_eq := rfl
  contents_eq := rfl

section OneMessage

variable {transport next : RtmpMessageTransport} {wire : List UInt8} {calls : List SendCall} {size : UInt32}
variable {events : List (RecvEvent RtmpMessage)} {call : SendCall}

/-- What is received behind `wire` is received by the receiver that has caught
up with it. -/
theorem CaughtUp.drain_append (caughtUp : CaughtUp transport wire calls size next events)
    (more : List UInt8) :
    receiver.drain (receiving transport) (wire ++ more) =
      (receiver.drain (receiving next) more).map (Run.after events) := by
  rw [Incremental.drain_append, caughtUp.drained, Option.bind_some, Incremental.feed, List.nil_append]

/-- A message in one chunk keeps the receiver caught up. -/
theorem CaughtUp.whole (caughtUp : CaughtUp transport wire calls size next events)
    (sendable : Sendable call.pkg) (fits : FitsChunk size call) :
    Exists fun after => Exists fun moreEvents =>
      CaughtUp transport (wire ++ callBytes size call) (calls ++ [call]) (sizeAfter call size) after
        moreEvents := by
  have length := packetHeader_msgLength sendable.encoded sendable.small call.streamid
  rcases receiver_whole caughtUp.idle (packetHeader call.pkg call.streamid) sendable.csLow sendable.csHigh
    length sendable.small (by rw [caughtUp.size_eq]; exact fits) [] with ⟨result, msg, received, drained⟩
  have bytes : callBytes size call =
      wholeBytes (packetHeader call.pkg call.streamid) (payloadOf call.pkg) ++ [] := by
    rw [List.append_nil]
    exact messageChunks_single _ sendable.nonempty fits
  have content : receivedContent msg = sentContent call := by
    rw [receivedContent, sentContent, received.delivered.msgTypeId_eq,
      received.delivered.timestamp_eq sendable.time, received.delivered.body_eq]
    rfl
  rw [Incremental.drain_nil, Option.map_some] at drained
  refine ⟨result.transport,
    events ++ [wholeEvent (packetHeader call.pkg call.streamid) (payloadOf call.pkg) msg],
    ?_, received.idle, ?_, ?_⟩
  · rw [caughtUp.drain_append, bytes, drained, Option.map_some]
    rfl
  · rw [WholeReceived.acceptedSize received sendable.encoded sendable.small sendable.setChunkSize,
      caughtUp.size_eq, acceptedSize, sizeAfter]
    cases announced : announcedSize call.pkg with
    | none => rfl
    | some found => exact if_neg (UInt32.not_lt.mpr (sendable.accepted found announced))
  · rw [completed_append, List.map_append, List.map_append, caughtUp.contents_eq]
    exact congrArg (calls.map sentContent ++ [·]) content

/-- A message in several chunks is not received from its own bytes. -/
theorem CaughtUp.misfit (caughtUp : CaughtUp transport wire calls size next events)
    (sendable : Sendable call.pkg) (misfit : ¬ FitsChunk size call) :
    ¬ Receives transport (wire ++ callBytes size call) (calls ++ [call]) := by
  rintro ⟨run, drained, contents⟩
  rw [caughtUp.drain_append] at drained
  rcases Option.map_eq_some_iff.mp drained with ⟨more, drainedMore, shape⟩
  have joined : completed run.events = completed events ++ completed more.events := by
    rw [← shape, Run.after, completed_append]
  rw [joined, List.map_append, List.map_append, caughtUp.contents_eq, List.append_cancel_left_eq] at contents
  rcases List.map_eq_cons_iff.mp contents with ⟨msg, later, first, content, _⟩
  have long : next.inChunkSize.toNat < (payloadOf call.pkg).length := by
    rw [caughtUp.size_eq]
    exact Nat.lt_of_not_le misfit
  rw [callBytes, ← caughtUp.size_eq] at drainedMore
  refine receiver_misfit caughtUp.idle (packetHeader call.pkg call.streamid) sendable.csLow sendable.csHigh
    (packetHeader_msgLength sendable.encoded sendable.small call.streamid) sendable.small long drainedMore
    first ?_
  exact congrArg (fun content : MessageContent => content.payload.length) content

end OneMessage

/-! ## One message after the other -/

/-- The calls of `sendRtmpMessage` in order: their effects and the sender
afterwards. -/
def sendAll (sender : RtmpMessageTransport) : List SendCall -> Option (List CacheOp × RtmpMessageTransport)
  | [] => some ([], sender)
  | call :: calls =>
      (sendRtmpMessage sender call.pkg call.streamid).bind fun sent =>
        (sendAll sent.2 calls).map fun rest => (sent.1 ++ rest.1, rest.2)

/-- The chunks of the messages, each cut at the chunk size in force. -/
def sequentialBytes (size : UInt32) : List SendCall -> List UInt8
  | [] => []
  | call :: calls => callBytes size call ++ sequentialBytes (sizeAfter call size) calls

/-- Every message goes out in one chunk of the chunk size in force. -/
def AllFit (size : UInt32) : List SendCall -> Prop
  | [] => True
  | call :: calls => FitsChunk size call ∧ AllFit (sizeAfter call size) calls

/-- Sending ends, and puts the chunks of the messages on the wire. -/
theorem sendAll_wire {sender : RtmpMessageTransport} (large : 128 ≤ sender.outChunkSize.toNat)
    {calls : List SendCall} (sendable : forall call, call ∈ calls -> Sendable call.pkg) :
    Exists fun ops => Exists fun after => sendAll sender calls = some (ops, after) ∧
      forall memory, wireBytes memory ops = sequentialBytes sender.outChunkSize calls := by
  induction calls generalizing sender with
  | nil => exact ⟨[], sender, rfl, fun _ => rfl⟩
  | cons call calls inductionHypothesis =>
      have first := sendable call (List.mem_cons_self ..)
      have positive : 0 < sender.outChunkSize.toNat := Nat.lt_of_lt_of_le (by decide) large
      have size : (onSendMessage sender call.pkg).outChunkSize = sizeAfter call sender.outChunkSize :=
        onSendMessage_outChunkSize sender call.pkg
      rcases doSendMessage_wire positive (packetHeader call.pkg call.streamid) (payloadOf call.pkg) with
        ⟨ops, sent, wire⟩
      have largeAfter : 128 ≤ (onSendMessage sender call.pkg).outChunkSize.toNat := by
        rw [size]
        exact first.sizeAfter_le large
      rcases inductionHypothesis largeAfter
        (fun other member => sendable other (List.mem_cons_of_mem call member)) with
        ⟨rest, after, sentRest, wireRest⟩
      refine ⟨ops ++ rest, after, ?_, ?_⟩
      · simp only [sendAll, sendRtmpMessage, first.encoded, sent, Option.map_some, Option.bind_some, sentRest]
      · intro memory
        rcases wireBytes_append memory ops rest with ⟨between, joined⟩
        rw [joined, wire, wireRest, size]
        rfl

/-- A receiver that has caught up makes of every further part of the list what
it should exactly when all the messages fit. -/
theorem receives_iff_allFit {transport next : RtmpMessageTransport} {wire : List UInt8}
    {done calls : List SendCall} {size : UInt32} {events : List (RecvEvent RtmpMessage)}
    (caughtUp : CaughtUp transport wire done size next events)
    (sendable : forall call, call ∈ calls -> Sendable call.pkg) :
    (forall count, Receives transport (wire ++ sequentialBytes size (calls.take count))
      (done ++ calls.take count)) ↔ AllFit size calls := by
  induction calls generalizing wire done size next events with
  | nil =>
      constructor
      · exact fun _ => trivial
      · intro _ count
        rw [List.take_nil, sequentialBytes, List.append_nil, List.append_nil]
        exact caughtUp.receives
  | cons call calls inductionHypothesis =>
      have first := sendable call (List.mem_cons_self ..)
      have later : forall other, other ∈ calls -> Sendable other.pkg :=
        fun other member => sendable other (List.mem_cons_of_mem call member)
      constructor
      · intro received
        have fits : FitsChunk size call := by
          by_contra misfit
          have one := received 1
          rw [List.take_succ_cons, List.take_zero, sequentialBytes, sequentialBytes, List.append_nil] at one
          exact caughtUp.misfit first misfit one
        rcases caughtUp.whole first fits with ⟨after, moreEvents, caughtUpAfter⟩
        refine ⟨fits, (inductionHypothesis caughtUpAfter later).mp ?_⟩
        intro count
        have more := received (count + 1)
        rw [List.take_succ_cons, sequentialBytes, ← List.append_assoc,
          show done ++ call :: calls.take count = done ++ [call] ++ calls.take count from
            (List.append_cons done call (calls.take count))] at more
        exact more
      · rintro ⟨fits, rest⟩ count
        cases count with
        | zero =>
            rw [List.take_zero, sequentialBytes, List.append_nil, List.append_nil]
            exact caughtUp.receives
        | succ count =>
            rcases caughtUp.whole first fits with ⟨after, moreEvents, caughtUpAfter⟩
            have more := (inductionHypothesis caughtUpAfter later).mpr rest count
            rw [List.take_succ_cons, sequentialBytes, ← List.append_assoc,
              show done ++ call :: calls.take count = done ++ [call] ++ calls.take count from
                (List.append_cons done call (calls.take count))]
            exact more

/-! ## Interleaved chunks -/

/-- A sender that cuts chunks as `do_send_message` does and may change the
stream after each chunk.  For every stream it keeps the messages that are not
finished, and how much of the first of them is sent. -/
structure Interleaver where
  sender : RtmpMessageTransport
  waiting : UInt32 -> List SendCall
  start : UInt32 -> Nat
  wire : List UInt8
  finished : List SendCall

namespace Interleaver

/-- The messages of a list, each in the queue of its stream. -/
def new (stale : UInt32 -> UInt32) (calls : List SendCall) : Interleaver where
  sender := RtmpMessageTransport.new stale
  waiting := fun csId => calls.filter (fun call => call.pkg.getCsId = csId)
  start := fun _ => 0
  wire := []
  finished := []

/-- The state once a chunk is sent that does not finish its message. -/
def advance (state : Interleaver) (csId : UInt32) (next : Nat) (chunk : List UInt8) : Interleaver where
  sender := state.sender
  waiting := state.waiting
  start := Function.update state.start csId next
  wire := state.wire ++ chunk
  finished := state.finished

/-- The state once the first message of a stream is finished. -/
def finish (state : Interleaver) (csId : UInt32) (call : SendCall) (later : List SendCall)
    (chunk : List UInt8) : Interleaver where
  sender := onSendMessage state.sender call.pkg
  waiting := Function.update state.waiting csId later
  start := Function.update state.start csId 0
  wire := state.wire ++ chunk
  finished := state.finished ++ [call]

/-- The next chunk of a stream. -/
def emit (state : Interleaver) (csId : UInt32) : Interleaver :=
  match state.waiting csId with
  | [] => state
  | call :: later =>
      let size := state.sender.outChunkSize
      let payload := payloadOf call.pkg
      let start := state.start csId
      let chunk := chunkHeaderBytes (packetHeader call.pkg call.streamid) start ++ chunkBody size payload start
      let next := start + min size.toNat (payload.length - start)
      if next < payload.length then state.advance csId next chunk
      else state.finish csId call later chunk

/-- The chunks in an order of streams. -/
def run (state : Interleaver) (order : List UInt32) : Interleaver := order.foldl emit state

theorem run_append (state : Interleaver) (first second : List UInt32) :
    state.run (first ++ second) = (state.run first).run second := List.foldl_append

section Stream

variable {state : Interleaver} {csId : UInt32} {call : SendCall} {later : List SendCall}

theorem finish_waiting_self (chunk : List UInt8) :
    (state.finish csId call later chunk).waiting csId = later := Function.update_self ..

theorem finish_waiting_of_ne {other : UInt32} (different : other ≠ csId) (chunk : List UInt8) :
    (state.finish csId call later chunk).waiting other = state.waiting other :=
  Function.update_of_ne different ..

/-- Where the chunk that `emit` sends ends. -/
def chunkStop (state : Interleaver) (csId : UInt32) (call : SendCall) : Nat :=
  state.start csId + min state.sender.outChunkSize.toNat ((payloadOf call.pkg).length - state.start csId)

theorem emit_advance (waiting : state.waiting csId = call :: later)
    (more : state.chunkStop csId call < (payloadOf call.pkg).length) :
    state.emit csId = state.advance csId (state.chunkStop csId call)
      (chunkHeaderBytes (packetHeader call.pkg call.streamid) (state.start csId) ++
        chunkBody state.sender.outChunkSize (payloadOf call.pkg) (state.start csId)) := by
  rw [chunkStop] at more ⊢
  simp only [emit, waiting, more, if_true]

theorem emit_finish (waiting : state.waiting csId = call :: later)
    (last : ¬ state.chunkStop csId call < (payloadOf call.pkg).length) :
    state.emit csId = state.finish csId call later
      (chunkHeaderBytes (packetHeader call.pkg call.streamid) (state.start csId) ++
        chunkBody state.sender.outChunkSize (payloadOf call.pkg) (state.start csId)) := by
  rw [chunkStop] at last
  simp only [emit, waiting, last, if_false]

/-- What waits and what is finished are messages of a list. -/
structure Within (calls : List SendCall) (state : Interleaver) : Prop where
  waiting : forall csId call, call ∈ state.waiting csId -> call ∈ calls
  finished : forall call, call ∈ state.finished -> call ∈ calls

theorem Within.new (stale : UInt32 -> UInt32) (calls : List SendCall) :
    (Interleaver.new stale calls).Within calls where
  waiting := fun _ _ member => (List.mem_filter.mp member).1
  finished := fun _ member => absurd member List.not_mem_nil

theorem Within.emit {calls : List SendCall} (within : state.Within calls) (csId : UInt32) :
    (state.emit csId).Within calls := by
  cases waiting : state.waiting csId with
  | nil =>
      rw [Interleaver.emit, waiting]
      exact within
  | cons call later =>
      by_cases last : state.chunkStop csId call < (payloadOf call.pkg).length
      · rw [emit_advance waiting last]
        exact ⟨within.waiting, within.finished⟩
      · have queued : forall other, other ∈ call :: later -> other ∈ calls := by
          rw [← waiting]
          exact within.waiting csId
        rw [emit_finish waiting last]
        constructor
        · intro other queuedCall member
          by_cases same : other = csId
          · rw [same, finish_waiting_self] at member
            exact queued queuedCall (List.mem_cons_of_mem call member)
          · rw [finish_waiting_of_ne same] at member
            exact within.waiting other queuedCall member
        · intro finishedCall member
          rcases List.mem_append.mp member with before | now
          · exact within.finished finishedCall before
          · rw [List.mem_singleton.mp now]
            exact queued call List.mem_cons_self

theorem Within.run {calls : List SendCall} (within : state.Within calls) (order : List UInt32) :
    (state.run order).Within calls := by
  induction order generalizing state with
  | nil => exact within
  | cons csId order inductionHypothesis => exact inductionHypothesis (within.emit csId)

/-- Going on with one stream finishes its message. -/
theorem run_finish (positive : 0 < state.sender.outChunkSize.toNat)
    (waiting : state.waiting csId = call :: later)
    (more : state.start csId < (payloadOf call.pkg).length) {fuel : Nat}
    (enough : (payloadOf call.pkg).length - state.start csId ≤ fuel) :
    Exists fun order => state.run order = state.finish csId call later
      (chunkList state.sender.outChunkSize (packetHeader call.pkg call.streamid) (payloadOf call.pkg) fuel
        (state.start csId)).flatten := by
  induction fuel generalizing state with
  | zero => omega
  | succ fuel inductionHypothesis =>
      have step : 0 < min state.sender.outChunkSize.toNat ((payloadOf call.pkg).length - state.start csId) :=
        Nat.lt_min.mpr ⟨positive, Nat.sub_pos_of_lt more⟩
      have stop : state.chunkStop csId call = state.start csId +
          min state.sender.outChunkSize.toNat ((payloadOf call.pkg).length - state.start csId) := rfl
      rw [chunkList, if_pos more, List.flatten_cons, ← stop]
      by_cases last : state.chunkStop csId call < (payloadOf call.pkg).length
      · have emitted := emit_advance waiting last
        generalize chunkHeaderBytes (packetHeader call.pkg call.streamid) (state.start csId) ++
          chunkBody state.sender.outChunkSize (payloadOf call.pkg) (state.start csId) = chunk at emitted ⊢
        have here : (state.advance csId (state.chunkStop csId call) chunk).start csId =
            state.chunkStop csId call := Function.update_self ..
        have left : (payloadOf call.pkg).length -
            (state.advance csId (state.chunkStop csId call) chunk).start csId ≤ fuel := by
          rw [here]
          omega
        have moreLeft : (state.advance csId (state.chunkStop csId call) chunk).start csId <
            (payloadOf call.pkg).length := by
          rw [here]
          exact last
        rcases inductionHypothesis
          (show 0 < (state.advance csId (state.chunkStop csId call) chunk).sender.outChunkSize.toNat
            from positive) waiting moreLeft left with ⟨order, ran⟩
        refine ⟨csId :: order, ?_⟩
        rw [run, List.foldl_cons, emitted]
        refine ran.trans ?_
        rw [here, finish, finish, advance, Function.update_idem, List.append_assoc]
      · have none : chunkList state.sender.outChunkSize (packetHeader call.pkg call.streamid)
            (payloadOf call.pkg) fuel (state.chunkStop csId call) = [] := by
          cases fuel with
          | zero => rfl
          | succ fuel => rw [chunkList, if_neg last]
        refine ⟨[csId], ?_⟩
        rw [none, List.flatten_nil, List.append_nil, ← emit_finish waiting last]
        rfl

/-- Only whole messages were sent, and the receiver has caught up with them. -/
structure Between (calls : List SendCall) (transport : RtmpMessageTransport) (state : Interleaver) : Prop where
  caughtUp : Exists fun next => Exists fun events =>
    CaughtUp transport state.wire state.finished state.sender.outChunkSize next events
  whole : forall csId, state.start csId = 0
  queued : forall csId call, call ∈ state.waiting csId -> call ∈ calls

theorem Between.new (staleSender stalePeer : UInt32 -> UInt32) (calls : List SendCall) :
    Between calls (RtmpMessageTransport.new stalePeer) (Interleaver.new staleSender calls) where
  caughtUp := ⟨_, _, CaughtUp.new (Idle.new stalePeer)⟩
  whole := fun _ => rfl
  queued := fun _ _ member => (List.mem_filter.mp member).1

theorem Between.chunkStop_eq {calls : List SendCall} {transport : RtmpMessageTransport}
    (between : Between calls transport state) (csId : UInt32) (fits : FitsChunk state.sender.outChunkSize call) :
    state.chunkStop csId call = (payloadOf call.pkg).length := by
  rw [chunkStop, between.whole csId, Nat.sub_zero, Nat.min_eq_right fits, Nat.zero_add]

/-- The next message of a stream is sent whole if it fits. -/
theorem Between.emit {calls : List SendCall} {transport : RtmpMessageTransport}
    (between : Between calls transport state) (sendable : forall call, call ∈ calls -> Sendable call.pkg)
    (waiting : state.waiting csId = call :: later) (fits : FitsChunk state.sender.outChunkSize call) :
    Between calls transport (state.emit csId) := by
  have queued : call ∈ calls := between.queued csId call (by rw [waiting]; exact List.mem_cons_self ..)
  have stop := between.chunkStop_eq csId fits
  have chunk : chunkHeaderBytes (packetHeader call.pkg call.streamid) (state.start csId) ++
      chunkBody state.sender.outChunkSize (payloadOf call.pkg) (state.start csId) =
        callBytes state.sender.outChunkSize call := by
    rw [between.whole csId, chunk_single _ fits, callBytes,
      messageChunks_single _ (sendable call queued).nonempty fits]
  rw [emit_finish waiting (Nat.not_lt.mpr (Nat.le_of_eq stop.symm)), chunk]
  rcases between.caughtUp with ⟨next, events, caughtUp⟩
  rcases caughtUp.whole (sendable call queued) fits with ⟨after, moreEvents, caughtUpAfter⟩
  have size : (onSendMessage state.sender call.pkg).outChunkSize =
      sizeAfter call state.sender.outChunkSize := onSendMessage_outChunkSize state.sender call.pkg
  refine { caughtUp := ⟨after, moreEvents, ?_⟩, whole := ?_, queued := ?_ }
  · rw [finish, size]
    exact caughtUpAfter
  · intro other
    by_cases same : other = csId
    · rw [same]
      exact Function.update_self ..
    · exact (Function.update_of_ne same _ _).trans (between.whole other)
  · intro other queuedCall member
    by_cases same : other = csId
    · rw [same, finish_waiting_self] at member
      apply between.queued csId queuedCall
      rw [waiting]
      exact List.mem_cons_of_mem call member
    · rw [finish_waiting_of_ne same] at member
      exact between.queued other queuedCall member

/-- A message that does not fit is sent to its end and not received. -/
theorem Between.misfit {calls : List SendCall} {transport : RtmpMessageTransport}
    (between : Between calls transport state) (sendable : forall call, call ∈ calls -> Sendable call.pkg)
    (waiting : state.waiting csId = call :: later) (misfit : ¬ FitsChunk state.sender.outChunkSize call) :
    Exists fun order => ¬ Receives transport (state.run order).wire (state.run order).finished := by
  have queued : call ∈ calls := between.queued csId call (by rw [waiting]; exact List.mem_cons_self ..)
  have nonempty : state.start csId < (payloadOf call.pkg).length := by
    rw [between.whole csId]
    exact (sendable call queued).nonempty
  rcases between.caughtUp with ⟨next, events, caughtUp⟩
  have positive : 0 < state.sender.outChunkSize.toNat := by
    rw [← caughtUp.size_eq]
    exact Nat.lt_of_lt_of_le (by decide) (Idle.chunkSize_le caughtUp.idle)
  rcases run_finish positive waiting nonempty (Nat.sub_le _ _) with ⟨order, ran⟩
  refine ⟨order, ?_⟩
  rw [ran, between.whole csId]
  exact caughtUp.misfit (sendable call queued) misfit

end Stream

/-- In every order of the streams, a message that can be started fits the chunk
size in force. -/
def WholeOnly (state : Interleaver) : Prop :=
  forall order csId call later, (state.run order).waiting csId = call :: later ->
    (state.run order).start csId = 0 -> FitsChunk (state.run order).sender.outChunkSize call

/-- If no message is ever started that does not fit, only whole messages are
sent. -/
theorem between_run {calls : List SendCall} {transport : RtmpMessageTransport} {state : Interleaver}
    (between : Between calls transport state) (sendable : forall call, call ∈ calls -> Sendable call.pkg)
    (fits : forall order, Between calls transport (state.run order) -> forall csId call later,
      (state.run order).waiting csId = call :: later ->
        FitsChunk (state.run order).sender.outChunkSize call)
    (order : List UInt32) : Between calls transport (state.run order) := by
  induction order using List.reverseRecOn with
  | nil => exact between
  | append_singleton order csId inductionHypothesis =>
      rw [run_append]
      cases waiting : (state.run order).waiting csId with
      | nil =>
          have same : (state.run order).run [csId] = state.run order := by
            rw [run, List.foldl_cons, List.foldl_nil, emit, waiting]
          rw [same]
          exact inductionHypothesis
      | cons call later =>
          exact inductionHypothesis.emit sendable waiting
            (fits order inductionHypothesis csId call later waiting)

/-- A message that fits is finished with its one chunk. -/
theorem Between.emit_whole {calls : List SendCall} {transport : RtmpMessageTransport} {state : Interleaver}
    (between : Between calls transport state) {csId : UInt32} {call : SendCall} {later : List SendCall}
    (waiting : state.waiting csId = call :: later) (fits : FitsChunk state.sender.outChunkSize call) :
    (state.emit csId).waiting csId = later ∧ (state.emit csId).finished = state.finished ++ [call] := by
  have stop := between.chunkStop_eq csId fits
  rw [emit_finish waiting (Nat.not_lt.mpr (Nat.le_of_eq stop.symm))]
  exact ⟨finish_waiting_self _, rfl⟩

/-- Every message is finished in some order. -/
theorem Between.finishes {calls : List SendCall} {transport : RtmpMessageTransport} {csId : UInt32}
    {queue : List SendCall} {state : Interleaver} (between : Between calls transport state)
    (sendable : forall call, call ∈ calls -> Sendable call.pkg) (whole : state.WholeOnly)
    (waiting : state.waiting csId = queue) {call : SendCall} (member : call ∈ queue) :
    Exists fun order => call ∈ (state.run order).finished := by
  induction queue generalizing state with
  | nil => exact absurd member List.not_mem_nil
  | cons first later inductionHypothesis =>
      have fits := whole [] csId first later waiting (between.whole csId)
      rcases between.emit_whole waiting fits with ⟨left, finished⟩
      rcases List.mem_cons.mp member with rfl | member
      · refine ⟨[csId], ?_⟩
        show call ∈ (state.emit csId).finished
        rw [finished]
        exact List.mem_append_right _ (List.mem_singleton_self call)
      · rcases inductionHypothesis (between.emit sendable waiting fits)
          (fun order => whole (csId :: order)) left member with ⟨order, done⟩
        exact ⟨csId :: order, done⟩

/-- Every order is received exactly when no order starts a message that does
not fit. -/
theorem receives_iff_wholeOnly {calls : List SendCall} {transport : RtmpMessageTransport}
    {state : Interleaver} (between : Between calls transport state)
    (sendable : forall call, call ∈ calls -> Sendable call.pkg) :
    (forall order, Receives transport (state.run order).wire (state.run order).finished) ↔
      state.WholeOnly := by
  constructor
  · intro received
    have fits : forall order, Between calls transport (state.run order) -> forall csId call later,
        (state.run order).waiting csId = call :: later ->
          FitsChunk (state.run order).sender.outChunkSize call := by
      intro order betweenOrder csId call later waiting
      by_contra misfit
      rcases betweenOrder.misfit sendable waiting misfit with ⟨rest, lost⟩
      rw [← run_append] at lost
      exact lost (received (order ++ rest))
    intro order csId call later waiting _
    exact fits order (between_run between sendable fits order) csId call later waiting
  · intro whole order
    have all := between_run between sendable
      (fun order betweenOrder csId call later waiting =>
        whole order csId call later waiting (betweenOrder.whole csId)) order
    rcases all.caughtUp with ⟨next, events, caughtUp⟩
    exact caughtUp.receives

end Interleaver

/-! ## The round trip -/

/-- A fresh peer that decodes makes exactly these messages of the bytes. -/
def PeerReceives (stale : UInt32 -> UInt32) (wire : List UInt8) (calls : List SendCall) : Prop :=
  Exists fun peer => Exists fun events => (Peer.new stale).receiveDecoding wire = some (peer, events) ∧
    (completed events).map receivedContent = calls.map sentContent

/-- Whether messages do harm is told by their contents. -/
theorem harmless_of_contents {events : List (RecvEvent RtmpMessage)} {calls : List SendCall}
    (contents : (completed events).map receivedContent = calls.map sentContent) :
    (forall msg, msg ∈ completed events -> ¬ msg.Harmful []) ↔ forall call, call ∈ calls -> Harmless call := by
  have received := @List.forall_mem_map _ _ receivedContent (completed events)
    (fun content => ¬ HarmfulBody [] content.msgType content.payload)
  have sent := @List.forall_mem_map _ _ sentContent calls
    (fun content => ¬ HarmfulBody [] content.msgType content.payload)
  rw [contents] at received
  exact received.symm.trans sent

theorem peerReceives_iff (stale : UInt32 -> UInt32) (wire : List UInt8) (calls : List SendCall) :
    PeerReceives stale wire calls ↔ Receives (RtmpMessageTransport.new stale) wire calls ∧
      forall call, call ∈ calls -> Harmless call := by
  have observed : ((Peer.new stale).receive wire).map observe =
      receiver.drain (receiving (RtmpMessageTransport.new stale)) wire :=
    Peer.receive_observe (show (Peer.new stale).dataCache.bytes = [] from rfl) wire
  constructor
  · rintro ⟨peer, events, received, contents⟩
    rcases (Peer.receiveDecoding_iff stale wire).mp received with ⟨plain, harmless⟩
    rw [plain] at observed
    exact ⟨⟨_, observed.symm, contents⟩, (harmless_of_contents contents).mp harmless⟩
  · rintro ⟨⟨run, drained, contents⟩, harmless⟩
    rcases Peer.receive_of_drain (show (Peer.new stale).dataCache.bytes = [] from rfl) drained with
      ⟨peer, events, received, _, _, same⟩
    rw [← same] at contents
    exact ⟨peer, events, (Peer.receiveDecoding_iff stale wire).mpr
      ⟨received, (harmless_of_contents contents).mpr harmless⟩, contents⟩

/-- The messages are sent one after the other by `sendRtmpMessage`, and a fresh
peer makes exactly them of the bytes. -/
def RoundTrips (memory : Memory UInt8) (staleSender stalePeer : UInt32 -> UInt32)
    (calls : List SendCall) : Prop :=
  Exists fun ops => Exists fun sender =>
    sendAll (RtmpMessageTransport.new staleSender) calls = some (ops, sender) ∧
      PeerReceives stalePeer (wireBytes memory ops) calls

theorem roundTrips_iff (memory : Memory UInt8) (staleSender stalePeer : UInt32 -> UInt32)
    {calls : List SendCall} (sendable : forall call, call ∈ calls -> Sendable call.pkg) :
    RoundTrips memory staleSender stalePeer calls ↔
      Receives (RtmpMessageTransport.new stalePeer) (sequentialBytes rtmpDefaultChunksize calls) calls ∧
        forall call, call ∈ calls -> Harmless call := by
  rcases sendAll_wire (show 128 ≤ (RtmpMessageTransport.new staleSender).outChunkSize.toNat from
    Nat.le_refl 128) sendable with ⟨ops, sender, sent, wire⟩
  have bytes : wireBytes memory ops = sequentialBytes rtmpDefaultChunksize calls := wire memory
  constructor
  · rintro ⟨otherOps, other, sentToo, received⟩
    rw [sent, Option.some.injEq, Prod.mk.injEq] at sentToo
    rw [← sentToo.1, bytes, peerReceives_iff] at received
    exact received
  · intro received
    refine ⟨ops, sender, sent, ?_⟩
    rw [bytes, peerReceives_iff]
    exact received

/-- The messages one after the other, at every boundary between them. -/
theorem roundTrips_take_iff (memory : Memory UInt8) (staleSender stalePeer : UInt32 -> UInt32)
    {calls : List SendCall} (sendable : forall call, call ∈ calls -> Sendable call.pkg) :
    (forall count, RoundTrips memory staleSender stalePeer (calls.take count)) ↔
      AllFit rtmpDefaultChunksize calls ∧ forall call, call ∈ calls -> Harmless call := by
  have each (count : Nat) := roundTrips_iff memory staleSender stalePeer
    (fun call member => sendable call (List.mem_of_mem_take member) : forall call, call ∈ calls.take count -> _)
  have start := receives_iff_allFit (CaughtUp.new (Idle.new stalePeer)) sendable
  simp only [List.nil_append] at start
  rw [← show (RtmpMessageTransport.new stalePeer).inChunkSize = rtmpDefaultChunksize from rfl, ← start]
  constructor
  · intro received
    refine ⟨fun count => ((each count).mp (received count)).1, ?_⟩
    have all := ((each calls.length).mp (received calls.length)).2
    rw [List.take_length] at all
    exact all
  · rintro ⟨received, harmless⟩ count
    exact (each count).mpr ⟨received count, fun call member => harmless call (List.mem_of_mem_take member)⟩

/-- The chunks of the messages, in every order of their streams. -/
theorem interleaved_iff (staleSender stalePeer : UInt32 -> UInt32) {calls : List SendCall}
    (sendable : forall call, call ∈ calls -> Sendable call.pkg) :
    (forall order, PeerReceives stalePeer ((Interleaver.new staleSender calls).run order).wire
        ((Interleaver.new staleSender calls).run order).finished) ↔
      (Interleaver.new staleSender calls).WholeOnly ∧ forall call, call ∈ calls -> Harmless call := by
  have between := Interleaver.Between.new staleSender stalePeer calls
  have whole := Interleaver.receives_iff_wholeOnly between sendable
  simp only [peerReceives_iff]
  constructor
  · intro received
    have all := whole.mp fun order => (received order).1
    refine ⟨all, fun call member => ?_⟩
    have waits : call ∈ (Interleaver.new staleSender calls).waiting call.pkg.getCsId :=
      List.mem_filter.mpr ⟨member, decide_eq_true rfl⟩
    rcases between.finishes sendable all rfl waits with ⟨order, done⟩
    exact (received order).2 call done
  · rintro ⟨all, harmless⟩ order
    refine ⟨whole.mpr all order, fun call done => harmless call ?_⟩
    exact ((Interleaver.Within.new staleSender calls).run order).finished call done

/-- At every message boundary the peer has exactly the messages that were sent,
exactly when each of them goes out in one chunk and none keeps the peer from
returning; and the same for chunks that interleave in any order. -/
theorem chunking_roundTrip_iff (memory : Memory UInt8) (staleSender stalePeer : UInt32 -> UInt32)
    {calls : List SendCall} (sendable : forall call, call ∈ calls -> Sendable call.pkg) :
    ((forall count, RoundTrips memory staleSender stalePeer (calls.take count)) ↔
      AllFit rtmpDefaultChunksize calls ∧ forall call, call ∈ calls -> Harmless call) ∧
    ((forall order, PeerReceives stalePeer ((Interleaver.new staleSender calls).run order).wire
        ((Interleaver.new staleSender calls).run order).finished) ↔
      (Interleaver.new staleSender calls).WholeOnly ∧ forall call, call ∈ calls -> Harmless call) :=
  ⟨roundTrips_take_iff memory staleSender stalePeer sendable, interleaved_iff staleSender stalePeer sendable⟩

/-- A message of another type than 1 that meets the bounds. -/
theorem sendable_ofPayload {csId : UInt32} {msgType : UInt8} {timestamp : UInt32} {bytes : List UInt8}
    (csLow : 2 ≤ csId.toNat) (csHigh : csId.toNat < 64) (other : msgType ≠ rtmpMsgSetChunkSize)
    (time : timestamp.toNat < 2 ^ 31) (nonempty : 1 ≤ bytes.length) (small : bytes.length < 2 ^ 24) :
    Sendable (.ofPayload csId msgType timestamp bytes .other) where
  csLow := csLow
  csHigh := csHigh
  encoded := rfl
  nonempty := nonempty
  small := small
  time := time
  setChunkSize := fun same => absurd same other
  accepted := by
    intro size announced
    have none_announced : announcedSize (.ofPayload csId msgType timestamp bytes .other) = none :=
      if_neg other
    rw [none_announced] at announced
    cases announced

theorem sendable_setChunkSize {packet : RtmpSetChunkSizePacket}
    (accepted : rtmpDefaultChunksize ≤ packet.chunkSize.toUInt32) : Sendable packet.toBase where
  csLow := show 2 ≤ rtmpCidProtocolControl.toNat by decide
  csHigh := show rtmpCidProtocolControl.toNat < 64 by decide
  encoded := rfl
  nonempty := by
    rw [show (payloadOf packet.toBase).length = 4 from Net.writeInt32_length packet.chunkSize]
    decide
  small := by
    rw [show (payloadOf packet.toBase).length = 4 from Net.writeInt32_length packet.chunkSize]
    decide
  time := show (0 : UInt32).toNat < 2 ^ 31 by decide
  setChunkSize := fun _ => ⟨packet, rfl, rfl⟩
  accepted := by
    intro size announced
    have same : announcedSize packet.toBase = some packet.chunkSize.toUInt32 := rfl
    rw [same, Option.some.injEq] at announced
    rw [← announced]
    exact accepted

/-- A video message of 200 bytes. -/
def longVideo : SendCall where
  pkg := .ofPayload 6 rtmpMsgVideoMessage 0x1000000 (List.replicate 200 0) .other
  streamid := 1

theorem longVideo_sendable : Sendable longVideo.pkg :=
  sendable_ofPayload (by decide) (by decide) (by decide) (by decide)
    (Nat.le_trans (by decide) (Nat.le_of_eq List.length_replicate.symm))
    (Nat.lt_of_le_of_lt (Nat.le_of_eq List.length_replicate) (by decide))

/-- Its second byte makes it a configuration, which comes to the end of its lengths. -/
theorem longVideo_harmless : Harmless longVideo := by
  let msg : RtmpMessage :=
    { rtmpHeader := { RtmpHeader.new with msgTypeId := rtmpMsgVideoMessage }
      rtmpBody := List.replicate 200 0
      rtmpBodyLen := 200 }
  have returns : messagePacket [] msg ≠ .fault := by
    rw [ne_eq, ← decodeCompleted_eq_none_iff]
    decide +kernel
  have whole : msg.Whole := ⟨by decide +kernel, by decide⟩
  exact fun harmful => returns ((messagePacket_fault_iff [] whole).mpr harmful)

/-- The chunk size that `publish` installs. -/
def publishChunkSize : SendCall where
  pkg := RtmpSetChunkSizePacket.toBase { chunkSize := 60000 }
  streamid := 0

/-- Behind the larger chunk size the message arrives. -/
theorem chunking_roundTrip_publish :
    RoundTrips (fun _ => 0) (fun _ => 0) (fun _ => 0) [publishChunkSize, longVideo] := by
  have sendable : forall call, call ∈ [publishChunkSize, longVideo] -> Sendable call.pkg := by
    intro call member
    rcases List.mem_cons.mp member with first | second
    · rw [first]
      exact sendable_setChunkSize (by decide)
    · rw [List.mem_singleton.mp second]
      exact longVideo_sendable
  have allFit : AllFit rtmpDefaultChunksize [publishChunkSize, longVideo] := by
    refine ⟨show (4 : Nat) ≤ 128 by decide, ?_, trivial⟩
    exact show (List.replicate 200 (0 : UInt8)).length ≤ 60000 by rw [List.length_replicate]; decide
  have harmless : forall call, call ∈ [publishChunkSize, longVideo] -> Harmless call := by
    intro call member
    rcases List.mem_cons.mp member with first | second
    · rw [first]
      exact not_harmfulBody (by decide) (by decide)
    · rw [List.mem_singleton.mp second]
      exact longVideo_harmless
  have always := (chunking_roundTrip_iff (fun _ => 0) (fun _ => 0) (fun _ => 0) sendable).1.mpr ⟨allFit, harmless⟩
  exact always 2

/-- At the default chunk size it does not. -/
theorem chunking_loses_longVideo :
    ¬ RoundTrips (fun _ => 0) (fun _ => 0) (fun _ => 0) [longVideo] := by
  intro roundTrips
  have received := (roundTrips_iff (fun _ => 0) (fun _ => 0) (fun _ => 0)
    (fun call member => by
      rw [List.mem_singleton.mp member]
      exact longVideo_sendable)).mp roundTrips
  rw [sequentialBytes, sequentialBytes, List.append_nil] at received
  have size : (RtmpMessageTransport.new fun _ => 0).inChunkSize = rtmpDefaultChunksize := rfl
  have misfit : ¬ FitsChunk rtmpDefaultChunksize longVideo := by
    intro fits
    have length : (List.replicate 200 (0 : UInt8)).length ≤ 128 := fits
    rw [List.length_replicate] at length
    exact absurd length (by decide)
  have caughtUp := CaughtUp.new (Idle.new fun _ => 0)
  rw [size] at caughtUp
  have lost := caughtUp.misfit longVideo_sendable misfit
  rw [List.nil_append, List.nil_append] at lost
  exact lost received.1

end Client
end RtmpClient
