import RtmpClient.Client.HandshakeRun
import RtmpClient.Client.Progress
import RtmpClient.Client.StatusCall
import RtmpClient.Rtmp.HarmfulCall

namespace RtmpClient
namespace Client

open Library Net Rtmp

universe u v

/-!
# The receive loop comes to its end

A call that does not fail takes at least a byte and no more than there is, so
that the cache shrinks with every iteration.  The bound on the iterations that
the model of the loop carries is therefore never what ends it.  What does keep the
loop from its end is a message whose decoder does not return, or a status message
whose code is not there.
-/

section Loop

variable {κ : Type u} {π : Type v}
variable (decodeMsg : RtmpMessage -> RequestsMap -> Option (Option π))
variable (handlePacket : κ -> RtmpMessageTransport -> π -> κ × RtmpMessageTransport)

/-- The clients that the loop comes to, each by a call that takes bytes. -/
inductive Comes : (client later : RtmpClientState κ) -> Prop where
  | here (client : RtmpClientState κ) : Comes client client
  | taken {client later : RtmpClientState κ} {result : RecvCall π}
      (call : recvRtmpMessage decodeMsg client.rtmpTransport client.dataCache.bytes = some result)
      (positive : 0 ≤ result.ret) (rest : Comes (client.taken handlePacket result) later) : Comes client later

section Stops

variable {running : κ -> Prop}
variable (stays : forall rest transport packet, running (handlePacket rest transport packet).1 -> running rest)

include stays

end Stops

end Loop

/-! ## The loop of the client -/

/-- A completed message is decoded before it is set aside. -/
def Arrival.decoded (msg : RtmpMessage) (requests : RequestsMap) : Option (Option Arrival) :=
  (decodeCompleted msg requests).map fun _ => some { requests, msg }

namespace LiveClient

/-- The clients that this loop comes to. -/
def DecodingComes (client later : LiveClient) : Prop :=
  Comes Arrival.decoded
    (fun rest rtmpTransport arrival =>
      let agent := Agent.receive arrival { rtmpTransport, rest }
      (agent.rest, agent.rtmpTransport)) client later

theorem DecodingComes.soundly {client later : LiveClient} (comes : client.DecodingComes later)
    (soundly : client.agent.ReceivesSoundly) : later.agent.ReceivesSoundly := by
  rw [DecodingComes] at comes
  induction comes with
  | here client => exact soundly
  | taken call _ _ inductionHypothesis => exact inductionHypothesis (soundly.taken call)

end LiveClient

namespace LiveClient

/-- The chunk at the front ends an onStatus call whose code the client follows
although it is not there. -/
def EndsLost (client : LiveClient) : Prop :=
  client.rest.pushPullStatus = .pushOrPull ∧
    EndsMessage client.rtmpTransport client.dataCache.bytes LosesStatus

/-- The client when a call of the loop has taken bytes. -/
def decodingTaken (client : LiveClient) (call : RecvCall Arrival) : LiveClient :=
  client.taken (fun rest rtmpTransport arrival =>
    let agent := Agent.receive arrival { rtmpTransport, rest }
    (agent.rest, agent.rtmpTransport)) call

/-- A call that returns leaves the client ready for the next one, unless it has
completed a status message whose code is not there. -/
theorem decodingTaken_cases {client : LiveClient} (soundly : client.agent.ReceivesSoundly)
    (ready : client.agent.Ready) {call : RecvCall Arrival}
    (called : recvRtmpMessage Arrival.decoded client.rtmpTransport client.dataCache.bytes = some call) :
    (client.decodingTaken call).agent.Ready ∧ ¬ client.EndsLost ∨
      (client.decodingTaken call).rest.halted = true ∧ client.EndsLost := by
  rcases soundly with ⟨assemblies, sound⟩
  change Sound client.rtmpTransport assemblies at sound
  rcases recvRtmpMessage_undecoded called with ⟨result, undecoded, decoded, _, same⟩
  have positive : 0 < call.transport.outChunkSize.toNat := by
    rw [same, (recvUndecoded_sendSide undecoded).2]
    exact ready.positive
  have lost : client.EndsLost ↔ client.rest.pushPullStatus = .pushOrPull ∧ Exists fun msg =>
      result.message = some msg ∧ LosesStatus msg.rtmpHeader.msgTypeId msg.rtmpBody := by
    rw [EndsLost, endsMessage_iff_completed sound undecoded]
  rw [lost]
  have between : Agent.Ready { rtmpTransport := call.transport, rest := client.rest } := ⟨ready.running, positive⟩
  rw [RecvResult.decoded] at decoded
  cases completed : result.message with
  | none =>
      simp only [completed, Option.some.injEq] at decoded
      have packet : call.packet = none := by rw [← decoded]
      refine Or.inl ⟨?_, ?_⟩
      · rw [decodingTaken, RtmpClientState.taken, packet]
        exact between
      · rintro ⟨_, _, none, _⟩
        cases none
  | some msg =>
      simp only [completed] at decoded
      rcases Option.map_eq_some_iff.mp decoded with ⟨packet, set, rfl⟩
      rcases Option.map_eq_some_iff.mp set with ⟨_, decodes, rfl⟩
      have returns : messagePacket result.transport.requestsMap msg ≠ .fault := by
        intro faults
        rw [(decodeCompleted_eq_none_iff msg result.transport.requestsMap).mpr faults] at decodes
        cases decodes
      by_cases loses : client.rest.pushPullStatus = .pushOrPull ∧ LosesStatus msg.rtmpHeader.msgTypeId msg.rtmpBody
      · refine Or.inr ⟨?_, loses.1, msg, rfl, loses.2⟩
        exact Agent.receive_halted between loses.1
          fun defined => (statusDefined_iff_not_losesStatus returns).mp defined loses.2
      · refine Or.inl ⟨?_, ?_⟩
        · exact Agent.receive_ready between returns fun waiting =>
            (statusDefined_iff_not_losesStatus returns).mpr fun both => loses ⟨waiting, both⟩
        · rintro ⟨waiting, msg', same', both⟩
          rw [Option.some.injEq] at same'
          exact loses ⟨waiting, same' ▸ both⟩

/-- A call that leaves the client running leaves it ready. -/
theorem decodingTaken_ready {client : LiveClient} (soundly : client.agent.ReceivesSoundly)
    (ready : client.agent.Ready) {call : RecvCall Arrival}
    (called : recvRtmpMessage Arrival.decoded client.rtmpTransport client.dataCache.bytes = some call)
    (runs : (client.decodingTaken call).rest.halted = false) : (client.decodingTaken call).agent.Ready := by
  rcases decodingTaken_cases soundly ready called with ⟨next, _⟩ | ⟨halted, _⟩
  · exact next
  · cases halted.symm.trans runs

/-- The clients that the loop comes to are ready, if each call leaves the next one
running. -/
theorem DecodingComes.ready {client later : LiveClient} (comes : client.DecodingComes later)
    (soundly : client.agent.ReceivesSoundly) (ready : client.agent.Ready)
    (keeps : forall later, client.DecodingComes later -> later.agent.Ready -> forall call,
      recvRtmpMessage Arrival.decoded later.rtmpTransport later.dataCache.bytes = some call -> 0 ≤ call.ret ->
        (later.decodingTaken call).rest.halted = false) : later.agent.Ready := by
  rw [DecodingComes] at comes
  induction comes with
  | here client => exact ready
  | @taken client later call called positive rest inductionHypothesis =>
      have next := decodingTaken_ready soundly ready called (keeps client (.here client) ready call called positive)
      apply inductionHypothesis (soundly.taken called) next
      exact fun middle comes => keeps middle (.taken called positive comes)

end LiveClient

end Client
end RtmpClient
