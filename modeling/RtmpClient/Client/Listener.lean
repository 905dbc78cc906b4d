import RtmpClient.Client.Chunking

namespace RtmpClient
namespace Client

open Library Net Rtmp

universe u v

/-!
# A client that listens to whole messages

The rule for a receive loop with any handler: when each message comes in one
chunk and its handling leaves the transport alone, all of them are handled in
their order, however the reads cut their bytes.
-/

section Loop

variable {κ : Type u} {π : Type v}
variable (decodeMsg : RtmpMessage -> RequestsMap -> Option (Option π))
variable (handlePacket : κ -> RtmpMessageTransport -> π -> κ × RtmpMessageTransport)

/-- The loop takes a whole message off the front, handles it and goes on behind
it. -/
theorem consumer_whole {state : Consumer κ} (idle : Idle state.rtmpTransport) (header : RtmpHeader)
    {payload : List UInt8} (csLow : 2 ≤ header.chunkStreamId.toNat) (csHigh : header.chunkStreamId.toNat < 64)
    (length : header.msgLength.toNat = payload.length) (small : payload.length < 2 ^ 24)
    (fits : payload.length ≤ state.rtmpTransport.inChunkSize.toNat) (rest : List UInt8) :
    Exists fun result => Exists fun msg => WholeReceived state.rtmpTransport header payload result msg ∧
      forall packet, decodeMsg msg result.transport.requestsMap = some packet ->
        (consumer decodeMsg handlePacket).drain state (wholeBytes header payload ++ rest) =
          ((consumer decodeMsg handlePacket).drain
            { rtmpTransport := (afterPacket handlePacket state.rest result.transport packet).2
              rest := (afterPacket handlePacket state.rest result.transport packet).1 } rest).map
            (Run.after [{ consumed := (wholeBytes header payload).length, packet }]) := by
  rcases recv_wholeMessage idle header csLow csHigh length small fits rest with ⟨result, msg, call, received⟩
  have counted : result.ret.toNat = (wholeBytes header payload).length := by
    rw [received.ret_eq, Int.toNat_natCast, wholeBytes]
  have success : ¬ result.ret < 0 := by
    rw [received.ret_eq]
    exact Int.not_lt.mpr (Int.natCast_nonneg _)
  have joined : RtmpHeader.fmt0Bytes header ++ (payload ++ rest) = wholeBytes header payload ++ rest :=
    (List.append_assoc _ _ _).symm
  rw [joined] at call
  refine ⟨result, msg, received, fun packet decoded => ?_⟩
  have called : recvRtmpMessage decodeMsg state.rtmpTransport (wholeBytes header payload ++ rest) =
      some { ret := result.ret, transport := result.transport, packet } := by
    simp only [recvRtmpMessage, call, Option.bind_some, RecvResult.decoded, received.message_eq, decoded,
      Option.map_some]
  have tried : (consumer decodeMsg handlePacket).attempt state (wholeBytes header payload ++ rest) =
      attempt decodeMsg handlePacket state (wholeBytes header payload ++ rest) := rfl
  rw [attempt, called, Option.map_some, if_neg success] at tried
  simp only [counted] at tried
  rw [Incremental.drain_take (wholeBytes_ne_nil header payload rest) tried, List.drop_left]

variable {decodeMsg handlePacket}

section Messages

variable {α : Type v} (callOf : α -> SendCall)

/-- The client takes this message whenever it comes: the handling leaves the
transport alone and keeps what is said of the messages handled so far. -/
structure Handles (decodeMsg : RtmpMessage -> RequestsMap -> Option (Option π))
    (handlePacket : κ -> RtmpMessageTransport -> π -> κ × RtmpMessageTransport)
    (invariant : List α -> κ -> Prop) (message : α) : Prop where
  sendable : Sendable (callOf message).pkg
  handled : forall done rest transport msg, invariant done rest ->
    Delivered (packetHeader (callOf message).pkg (callOf message).streamid) (payloadOf (callOf message).pkg) msg ->
    Exists fun packet => decodeMsg msg transport.requestsMap = some packet ∧
      Exists fun next => invariant (done ++ [message]) next ∧
        afterPacket handlePacket rest transport packet = (next, transport)

variable {callOf} {invariant : List α -> κ -> Prop}

/-- The rule for lists: each message that comes whole is handled, in its order. -/
theorem drain_sequentialBytes {messages done : List α} {state : Consumer κ} (idle : Idle state.rtmpTransport)
    (initially : invariant done state.rest)
    (handles : forall message, message ∈ messages -> Handles callOf decodeMsg handlePacket invariant message)
    (fit : AllFit state.rtmpTransport.inChunkSize (messages.map callOf)) :
    Exists fun run => (consumer decodeMsg handlePacket).drain state
        (sequentialBytes state.rtmpTransport.inChunkSize (messages.map callOf)) = some run ∧
      run.leftover = [] ∧ Idle run.state.rtmpTransport ∧ invariant (done ++ messages) run.state.rest := by
  induction messages generalizing state done with
  | nil =>
      refine ⟨_, Incremental.drain_nil state, rfl, idle, ?_⟩
      rw [List.append_nil]
      exact initially
  | cons message messages inductionHypothesis =>
      have first := handles message List.mem_cons_self
      have sendable := first.sendable
      generalize named : callOf message = call at first sendable
      rw [List.map_cons, named] at fit ⊢
      have length := packetHeader_msgLength sendable.encoded sendable.small call.streamid
      rcases consumer_whole decodeMsg handlePacket idle (packetHeader call.pkg call.streamid) sendable.csLow
        sendable.csHigh length sendable.small fit.1
        (sequentialBytes (sizeAfter call state.rtmpTransport.inChunkSize) (messages.map callOf)) with
        ⟨result, msg, received, drained⟩
      have size : result.transport.inChunkSize = sizeAfter call state.rtmpTransport.inChunkSize := by
        rw [WholeReceived.acceptedSize received sendable.encoded sendable.small sendable.setChunkSize,
          acceptedSize, sizeAfter]
        cases announced : announcedSize call.pkg with
        | none => rfl
        | some found => exact if_neg (UInt32.not_lt.mpr (sendable.accepted found announced))
      have delivered := received.delivered
      rw [← named] at delivered
      rcases first.handled done state.rest result.transport msg initially delivered with
        ⟨packet, decoded, next, kept, handled⟩
      replace drained := drained packet decoded
      rw [handled] at drained
      have others := @inductionHypothesis (done ++ [message]) { rtmpTransport := result.transport, rest := next }
        received.idle kept (fun other member => handles other (List.mem_cons_of_mem message member))
      simp only [size] at others
      rcases others fit.2 with ⟨run, drainedRest, leftover, between, keptAll⟩
      have bytes : callBytes state.rtmpTransport.inChunkSize call =
          wholeBytes (packetHeader call.pkg call.streamid) (payloadOf call.pkg) :=
        messageChunks_single _ sendable.nonempty fit.1
      refine ⟨run.after [{ consumed := (wholeBytes (packetHeader call.pkg call.streamid) (payloadOf call.pkg)).length
                           packet }], ?_, leftover, between, ?_⟩
      · rw [sequentialBytes, bytes, drained, drainedRest, Option.map_some]
      · rw [List.append_cons]
        exact keptAll

/-- The same for a client whose reads cut the bytes anywhere. -/
theorem processAll_sequentialBytes {messages : List α} {client : RtmpClientState κ}
    (empty : client.dataCache.bytes = []) (idle : Idle client.rtmpTransport) (initially : invariant [] client.rest)
    (handles : forall message, message ∈ messages -> Handles callOf decodeMsg handlePacket invariant message)
    (fit : AllFit client.rtmpTransport.inChunkSize (messages.map callOf)) {reads : List (List UInt8)}
    (cut : reads.flatten = sequentialBytes client.rtmpTransport.inChunkSize (messages.map callOf)) :
    Exists fun after => Exists fun events =>
      processAll decodeMsg handlePacket client reads = some (after, events) ∧
      after.dataCache.bytes = [] ∧ Idle after.rtmpTransport ∧ invariant messages after.rest := by
  have state : observe (client, ([] : List (RecvEvent π))) =
      { state := { rtmpTransport := client.rtmpTransport, rest := client.rest }, leftover := [], events := [] } := by
    rw [observe, empty]
  have drains := @drain_sequentialBytes _ _ _ _ _ _ _ messages []
    { rtmpTransport := client.rtmpTransport, rest := client.rest } idle initially handles fit
  rcases drains with ⟨run, drained, leftover, between, kept⟩
  have fed : (processAll decodeMsg handlePacket client reads).map observe = some run := by
    rw [processAll_observe, state]
    cases reads with
    | nil =>
        rw [← cut] at drained
        exact drained
    | cons read reads =>
        rw [Incremental.feedAll_cons, Incremental.feed, cut, List.nil_append, drained, Option.map_some]
        rfl
  rcases Option.map_eq_some_iff.mp fed with ⟨⟨after, events⟩, ran, rfl⟩
  exact ⟨after, events, ran, leftover, between, kept⟩

end Messages

/-! ## A client seen in part -/

/-- The client with another view of what it keeps besides the transport. -/
def RtmpClientState.seen {κ' : Type u} (project : κ -> κ') (client : RtmpClientState κ) : RtmpClientState κ' where
  dataCache := client.dataCache
  rtmpTransport := client.rtmpTransport
  rest := project client.rest

/-- A handler that a view of the client explains step by step is explained over
the whole loop. -/
theorem processLoop_seen {κ' : Type u} {project : κ -> κ'}
    {handlePacket' : κ' -> RtmpMessageTransport -> π -> κ' × RtmpMessageTransport}
    (same : forall rest transport packet, handlePacket' (project rest) transport packet =
      (project (handlePacket rest transport packet).1, (handlePacket rest transport packet).2))
    (fuel : Nat) (client : RtmpClientState κ) :
    (processLoop decodeMsg handlePacket fuel client).map (fun run => (run.1.seen project, run.2)) =
      processLoop decodeMsg handlePacket' fuel (client.seen project) := by
  have after (rest : κ) (transport : RtmpMessageTransport) (packet : Option π) :
      afterPacket handlePacket' (project rest) transport packet =
        (project (afterPacket handlePacket rest transport packet).1,
          (afterPacket handlePacket rest transport packet).2) := by
    cases packet with
    | none => rfl
    | some packet => exact same rest transport packet
  induction fuel generalizing client with
  | zero => rfl
  | succ fuel inductionHypothesis =>
      have cache : (client.seen project).dataCache = client.dataCache := rfl
      have transport : (client.seen project).rtmpTransport = client.rtmpTransport := rfl
      have rest : (client.seen project).rest = project client.rest := rfl
      rw [processLoop, processLoop, cache, transport, rest]
      by_cases more : client.dataCache.len > 0
      · rw [if_pos more, if_pos more]
        cases recvRtmpMessage decodeMsg client.rtmpTransport client.dataCache.bytes with
        | none => rfl
        | some result =>
            by_cases failed : result.ret < 0
            · simp only [failed, if_true, Option.map_some]
              rfl
            · have later := inductionHypothesis (client.taken handlePacket result)
              rw [RtmpClientState.taken, RtmpClientState.seen] at later
              simp only [failed, if_false, after, ← later, Option.map_map]
              rfl
      · rw [if_neg more, if_neg more]
        rfl

end Loop

end Client
end RtmpClient
