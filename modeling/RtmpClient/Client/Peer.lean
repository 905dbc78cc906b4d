import RtmpClient.Client.ProcessData
import RtmpClient.Rtmp.HarmfulCall
import RtmpClient.Rtmp.RoundTrip

namespace RtmpClient
namespace Client

open Library Net Rtmp

/-!
# A peer that only receives

The peer runs the receive loop and keeps the completed messages as they are.
Sender and peer share no state but the bytes on the wire.  A peer that decodes its
messages receives the same as one that does not, if no message does harm.
-/

/-- The messages that a peer has completed, oldest first. -/
def completed (events : List (RecvEvent RtmpMessage)) : List RtmpMessage :=
  events.filterMap RecvEvent.packet

@[simp] theorem completed_append (first second : List (RecvEvent RtmpMessage)) :
    completed (first ++ second) = completed first ++ completed second :=
  List.filterMap_append

/-- A completed message is kept. -/
def kept (msg : RtmpMessage) (_ : RequestsMap) : Option (Option RtmpMessage) := some (some msg)

theorem mem_completed_cons {msg : RtmpMessage} {event : RecvEvent RtmpMessage} {later : List (RecvEvent RtmpMessage)} :
    msg ∈ completed (event :: later) ↔ event.packet = some msg ∨ msg ∈ completed later := by
  rw [completed, List.mem_filterMap, completed, List.mem_filterMap, List.exists_mem_cons_iff]

/-- A client of which only the receive path is used. -/
abbrev Peer := RtmpClientState Unit

namespace Peer

/-- A peer right after the handshake. -/
def new (stale : UInt32 -> UInt32) : Peer where
  dataCache := DataCacheBuf.new
  rtmpTransport := RtmpMessageTransport.new stale
  rest := ()

/-- The peer's receive loop on one read. -/
def receive (peer : Peer) (data : List UInt8) : Option (Peer × List (RecvEvent RtmpMessage)) :=
  processData kept (fun rest transport _ => (rest, transport)) peer data

end Peer

/-- The receive loop of a peer as an incremental consumer. -/
def receiver : Incremental (Consumer Unit) UInt8 (RecvEvent RtmpMessage) :=
  consumer kept (fun rest transport _ => (rest, transport))

/-- A peer's state as the consumer sees it. -/
def receiving (transport : RtmpMessageTransport) : Consumer Unit where
  rtmpTransport := transport
  rest := ()

/-- The bytes of a message that goes out in one chunk. -/
def wholeBytes (header : RtmpHeader) (payload : List UInt8) : List UInt8 :=
  RtmpHeader.fmt0Bytes header ++ payload

theorem wholeBytes_ne_nil (header : RtmpHeader) (payload rest : List UInt8) :
    wholeBytes header payload ++ rest ≠ [] := by
  intro empty
  have length := congrArg List.length empty
  rw [wholeBytes, List.length_append, List.length_append, RtmpHeader.fmt0Bytes_length,
    List.length_nil] at length
  omega

/-- A peer does nothing about a packet. -/
theorem afterPacket_peer {π : Type} (transport : RtmpMessageTransport) (packet : Option π) :
    afterPacket (fun rest transport _ => (rest, transport)) () transport packet = ((), transport) := by
  cases packet with
  | none => rfl
  | some packet => rfl

/-- What one successful call does to the receive loop of a peer. -/
theorem receiver_attempt {transport : RtmpMessageTransport} {data : List UInt8} {result : RecvResult}
    (call : recvUndecoded transport data = some result) (success : 0 ≤ result.ret) :
    receiver.attempt (receiving transport) data = some (.take result.ret.toNat (receiving result.transport)
      { consumed := result.ret.toNat, packet := result.message }) := by
  have decoded : result.decoded kept =
      some { ret := result.ret, transport := result.transport, packet := result.message } := by
    rw [RecvResult.decoded]
    cases message : result.message with
    | none => rfl
    | some msg => rfl
  have tried : receiver.attempt (receiving transport) data =
      attempt kept (fun rest transport _ => (rest, transport)) (receiving transport) data := rfl
  rw [tried, attempt, show (receiving transport).rtmpTransport = transport from rfl, recvRtmpMessage, call,
    Option.bind_some, decoded, Option.map_some, if_neg (Int.not_lt.mpr success)]
  simp only [show (receiving transport).rest = () from rfl, afterPacket_peer]
  rfl

/-- The successful call on a whole message. -/
def wholeEvent (header : RtmpHeader) (payload : List UInt8) (msg : RtmpMessage) : RecvEvent RtmpMessage where
  consumed := (wholeBytes header payload).length
  packet := some msg

/-- A call that fails makes the receive loop wait. -/
theorem receiver_attempt_failed {transport : RtmpMessageTransport} {data : List UInt8} {result : RecvResult}
    (call : recvUndecoded transport data = some result) (failed : result.ret < 0) :
    receiver.attempt (receiving transport) data = some (.wait (receiving result.transport)) := by
  have tried : receiver.attempt (receiving transport) data =
      attempt kept (fun rest transport _ => (rest, transport)) (receiving transport) data := rfl
  rw [tried, attempt, show (receiving transport).rtmpTransport = transport from rfl,
    recvRtmpMessage_of_failed call failed, Option.map_some, if_pos failed]
  rfl

/-- The receive loop takes a whole message off the front and goes on behind it. -/
theorem receiver_whole {transport : RtmpMessageTransport} (idle : Idle transport) (header : RtmpHeader)
    {payload : List UInt8} (csLow : 2 ≤ header.chunkStreamId.toNat)
    (csHigh : header.chunkStreamId.toNat < 64) (length : header.msgLength.toNat = payload.length)
    (small : payload.length < 2 ^ 24) (fits : payload.length ≤ transport.inChunkSize.toNat)
    (rest : List UInt8) :
    Exists fun result => Exists fun msg => WholeReceived transport header payload result msg ∧
      receiver.drain (receiving transport) (wholeBytes header payload ++ rest) =
        (receiver.drain (receiving result.transport) rest).map
          (Run.after [wholeEvent header payload msg]) := by
  rcases recv_wholeMessage idle header csLow csHigh length small fits rest with
    ⟨result, msg, call, received⟩
  have counted : result.ret.toNat = (wholeBytes header payload).length := by
    rw [received.ret_eq, Int.toNat_natCast, wholeBytes]
  have success : 0 ≤ result.ret := by
    rw [received.ret_eq]
    exact Int.natCast_nonneg _
  have joined : wholeBytes header payload ++ rest =
      RtmpHeader.fmt0Bytes header ++ (payload ++ rest) := List.append_assoc _ _ _
  have taken := receiver_attempt call success
  rw [counted, received.message_eq, ← joined] at taken
  refine ⟨result, msg, received, ?_⟩
  rw [Incremental.drain_take (wholeBytes_ne_nil header payload rest) taken, List.drop_left, wholeEvent]

/-- A read of a peer that has nothing cached is a run of the receive loop. -/
theorem Peer.receive_observe {peer : Peer} (empty : peer.dataCache.bytes = []) (data : List UInt8) :
    (peer.receive data).map observe = receiver.drain (receiving peer.rtmpTransport) data := by
  have fed := processData_observe kept (fun rest transport _ => (rest, transport)) peer data
  have state : (observe (peer, ([] : List (RecvEvent RtmpMessage)))).state = receiving peer.rtmpTransport := rfl
  have leftover : (observe (peer, ([] : List (RecvEvent RtmpMessage)))).leftover = [] := empty
  rw [Incremental.feed, state, leftover, List.nil_append] at fed
  exact fed.trans Option.map_id_apply

/-- What a run of the receive loop leaves is what the peer keeps. -/
theorem Peer.receive_of_drain {peer : Peer} (empty : peer.dataCache.bytes = []) {data : List UInt8}
    {run : Run (Consumer Unit) UInt8 (RecvEvent RtmpMessage)}
    (drained : receiver.drain (receiving peer.rtmpTransport) data = some run) :
    Exists fun after => Exists fun events => peer.receive data = some (after, events) ∧
      after.rtmpTransport = run.state.rtmpTransport ∧ after.dataCache.bytes = run.leftover ∧
      events = run.events := by
  have observed := (Peer.receive_observe empty data).trans drained
  rcases Option.map_eq_some_iff.mp observed with ⟨⟨after, events⟩, received, shape⟩
  rw [← shape]
  exact ⟨after, events, received, rfl, rfl, rfl⟩

/-! ## A peer that decodes -/

/-- A completed message is decoded, and kept if its decoder returns. -/
def keptDecoded (msg : RtmpMessage) (requests : RequestsMap) : Option (Option RtmpMessage) :=
  (decodeCompleted msg requests).map fun _ => some msg

/-- The receive loop of a peer that decodes, on one read. -/
def Peer.receiveDecoding (peer : Peer) (data : List UInt8) : Option (Peer × List (RecvEvent RtmpMessage)) :=
  processData keptDecoded (fun rest transport _ => (rest, transport)) peer data

/-- A call that fails has no packet. -/
theorem recvRtmpMessage_failed_packet {π : Type} {decodeMsg : RtmpMessage -> RequestsMap -> Option (Option π)}
    {transport : RtmpMessageTransport} {data : List UInt8} {call : RecvCall π}
    (called : recvRtmpMessage decodeMsg transport data = some call) (failed : call.ret < 0) :
    call.packet = none := by
  rcases recvRtmpMessage_undecoded called with ⟨result, undecoded, _, ret, _⟩
  rw [recvRtmpMessage_of_failed undecoded (ret ▸ failed), Option.some.injEq] at called
  rw [← called]

/-- A call that decodes is one that does not, unless its message does harm. -/
theorem recvRtmpMessage_keptDecoded_cases {transport : RtmpMessageTransport}
    {assemblies : UInt32 -> Assembly UInt8} (sound : Sound transport assemblies) (data : List UInt8) :
    recvRtmpMessage kept transport data = none ∧ recvRtmpMessage keptDecoded transport data = none ∨
    (Exists fun call => recvRtmpMessage kept transport data = some call ∧
      recvRtmpMessage keptDecoded transport data = some call ∧
      forall msg, call.packet = some msg -> ¬ msg.Harmful transport.requestsMap) ∨
    Exists fun call => Exists fun msg => recvRtmpMessage kept transport data = some call ∧
      recvRtmpMessage keptDecoded transport data = none ∧ call.packet = some msg ∧
      msg.Harmful transport.requestsMap := by
  rw [recvRtmpMessage, recvRtmpMessage]
  cases undecoded : recvUndecoded transport data with
  | none => exact Or.inl ⟨rfl, rfl⟩
  | some result =>
      have requests := (recvUndecoded_sendSide undecoded).1
      rw [Option.bind_some, Option.bind_some, RecvResult.decoded, RecvResult.decoded]
      cases completed : result.message with
      | none => exact Or.inr (Or.inl ⟨_, rfl, rfl, fun _ none => by cases none⟩)
      | some msg =>
          have harmful := messagePacket_fault_iff result.transport.requestsMap (recvUndecoded_whole sound undecoded completed)
          rw [← decodeCompleted_eq_none_iff, requests] at harmful
          simp only [keptDecoded, kept, requests, Option.map_some]
          cases decoded : decodeCompleted msg transport.requestsMap with
          | none => exact Or.inr (Or.inr ⟨_, msg, rfl, rfl, rfl, harmful.mp decoded⟩)
          | some packet =>
              refine Or.inr (Or.inl ⟨_, rfl, rfl, fun found same harm => ?_⟩)
              rw [← Option.some.inj same, ← harmful, decoded] at harm
              cases harm

/-- A loop that ends at once has completed no message. -/
theorem ended_iff {peer after : Peer} {events : List (RecvEvent RtmpMessage)} {harmless : RtmpMessage -> Prop} :
    some (peer, []) = some (after, events) ↔
      some (peer, []) = some (after, events) ∧ forall msg, msg ∈ completed events -> harmless msg := by
  refine ⟨fun ended => ⟨ended, ?_⟩, And.left⟩
  cases ended
  exact fun _ member => absurd member List.not_mem_nil

/-- The loop that decodes is the one that does not, on messages that do no harm. -/
theorem processLoop_keptDecoded_iff {fuel : Nat} {peer after : Peer} {events : List (RecvEvent RtmpMessage)}
    {assemblies : UInt32 -> Assembly UInt8} (sound : Sound peer.rtmpTransport assemblies) :
    processLoop keptDecoded (fun rest transport _ => (rest, transport)) fuel peer = some (after, events) ↔
      processLoop kept (fun rest transport _ => (rest, transport)) fuel peer = some (after, events) ∧
        forall msg, msg ∈ completed events -> ¬ msg.Harmful peer.rtmpTransport.requestsMap := by
  induction fuel generalizing peer events assemblies with
  | zero => exact ended_iff
  | succ fuel inductionHypothesis =>
      rw [processLoop, processLoop]
      by_cases cached : peer.dataCache.len > 0
      · rw [if_pos cached, if_pos cached]
        rcases recvRtmpMessage_keptDecoded_cases sound peer.dataCache.bytes with
          ⟨plain, strict⟩ | ⟨call, plain, strict, harmless⟩ | ⟨call, msg, plain, strict, packet, harm⟩
        · rw [plain, strict]
          exact iff_of_false (fun impossible => by cases impossible) fun impossible => by cases impossible.1
        · rw [plain, strict]
          simp only
          by_cases failed : call.ret < 0
          · rw [if_pos failed, if_pos failed]
            exact ended_iff
          · rcases recvRtmpMessage_undecoded plain with ⟨result, undecoded, _, _, moved⟩
            rcases recvUndecoded_effect sound (List.ne_nil_of_length_pos cached) with
              ⟨found, next, again, _, soundNext⟩
            rw [undecoded, Option.some.injEq] at again
            rw [← again, ← moved] at soundNext
            have requests := (recvUndecoded_sendSide undecoded).1
            rw [← moved] at requests
            rw [if_neg failed, if_neg failed, afterPacket_peer]
            have rest (later : List (RecvEvent RtmpMessage)) := @inductionHypothesis
              { dataCache := peer.dataCache.popData call.ret.toNat, rtmpTransport := call.transport, rest := () }
              later next soundNext
            simp only [requests] at rest
            simp only [Option.map_eq_some_iff, Prod.mk.injEq]
            constructor
            · rintro ⟨⟨last, later⟩, ran, rfl, rfl⟩
              rcases (rest later).mp ran with ⟨plainRest, others⟩
              refine ⟨⟨_, plainRest, rfl, rfl⟩, fun msg member => ?_⟩
              exact (mem_completed_cons.mp member).elim (harmless msg) (others msg)
            · rintro ⟨⟨⟨last, later⟩, plainRest, rfl, rfl⟩, all⟩
              have others := fun msg member => all msg (mem_completed_cons.mpr (Or.inr member))
              exact ⟨_, (rest later).mpr ⟨plainRest, others⟩, rfl, rfl⟩
        · have success : ¬ call.ret < 0 := fun failed => by
            cases packet.symm.trans (recvRtmpMessage_failed_packet plain failed)
          rw [plain, strict]
          refine iff_of_false (fun impossible => by cases impossible) ?_
          rintro ⟨ran, all⟩
          simp only [success, if_false, Option.map_eq_some_iff, Prod.mk.injEq] at ran
          rcases ran with ⟨⟨last, later⟩, _, _, rfl⟩
          exact all msg (mem_completed_cons.mpr (Or.inl packet)) harm
      · rw [if_neg cached, if_neg cached]
        exact ended_iff

/-- A fresh peer that decodes receives what one that does not receives, unless a
message does harm. -/
theorem Peer.receiveDecoding_iff (stale : UInt32 -> UInt32) (wire : List UInt8) {after : Peer}
    {events : List (RecvEvent RtmpMessage)} :
    (Peer.new stale).receiveDecoding wire = some (after, events) ↔
      (Peer.new stale).receive wire = some (after, events) ∧
        forall msg, msg ∈ completed events -> ¬ msg.Harmful [] :=
  @processLoop_keptDecoded_iff _ { Peer.new stale with dataCache := (Peer.new stale).dataCache.pushData wire } _ _ _
    (Sound.new stale)

end Client
end RtmpClient
