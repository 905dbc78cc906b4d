import RtmpClient.Client.SessionLemmas

namespace RtmpClient
namespace Client

open Library Net Amf0 Rtmp

/-!
# A client that has not halted takes every input

Handlers send, and sending leaves the receive side alone.  So the transport
stays sound throughout a run, and no read ends in a fault of the receive path.
-/

namespace Agent

/-- The receive side of an agent's transport is another one's. -/
structure SameReceive (before after : Agent) : Prop where
  inChunkSize : after.rtmpTransport.inChunkSize = before.rtmpTransport.inChunkSize
  chunkCache : after.rtmpTransport.chunkCache = before.rtmpTransport.chunkCache

theorem SameReceive.refl (agent : Agent) : agent.SameReceive agent := ⟨rfl, rfl⟩

theorem sendAll_sameReceive (agent : Agent) (packets : List (RtmpPacket × Int32)) :
    agent.SameReceive (agent.sendAll packets) :=
  ⟨(agent.sendAll_receive packets).1, (agent.sendAll_receive packets).2⟩

theorem onStatus_sameReceive (value : List UInt8) (agent : Agent) :
    agent.SameReceive (agent.onStatus value) := by
  rw [onStatus]
  split
  · split
    · exact agent.sendAll_sameReceive _
    · exact .refl agent
  · split
    · exact ⟨rfl, rfl⟩
    · exact .refl agent

theorem handle_sameReceive (packet : RtmpPacket) (agent : Agent) : agent.SameReceive (agent.handle packet) := by
  unfold handle
  split
  · split
    · have group := agent.sendAll_sameReceive (agent.rest.setting.createStreamGroup agent.rest.setting.rtmpApp)
      exact ⟨group.inChunkSize, group.chunkCache⟩
    · exact .refl agent
  · split
    next answer =>
      let answered := agent.setStreamid answer.streamid
      have group := answered.sendAll_sameReceive (answered.rest.setting.startGroup answered.rest.streamid)
      exact ⟨group.inChunkSize, group.chunkCache⟩
    · exact .refl agent
  · split
    · split
      · split
        · exact ⟨rfl, rfl⟩
        · exact agent.onStatus_sameReceive _
      · exact .refl agent
    · exact .refl agent

theorem receive_sameReceive (arrival : Arrival) (agent : Agent) :
    agent.SameReceive (agent.receive arrival) := by
  rw [receive]
  split
  · exact .refl agent
  · split
    next packet _ =>
      have handled := handle_sameReceive packet
        (agent.log (.recvMessage agent.rest.pushPullStatus arrival.requests arrival.msg))
      exact ⟨handled.inChunkSize, handled.chunkCache⟩
    · exact ⟨rfl, rfl⟩
    · exact ⟨rfl, rfl⟩
    · exact ⟨rfl, rfl⟩

/-- The receive side keeps the invariant of the receive path. -/
def ReceivesSoundly (agent : Agent) : Prop := Exists fun assemblies => Sound agent.rtmpTransport assemblies

theorem SameReceive.soundly {before after : Agent} (same : before.SameReceive after)
    (soundly : before.ReceivesSoundly) : after.ReceivesSoundly := by
  rcases soundly with ⟨assemblies, sound⟩
  exact ⟨assemblies, sound.sent same.inChunkSize same.chunkCache⟩

/-- A call of the receive path. -/
theorem ReceivesSoundly.call {agent : Agent} (soundly : agent.ReceivesSoundly) {data : List UInt8}
    (nonempty : data ≠ []) : Exists fun result =>
      recvUndecoded agent.rtmpTransport data = some result ∧
        ReceivesSoundly { agent with rtmpTransport := result.transport } := by
  rcases soundly with ⟨assemblies, sound⟩
  rcases recvUndecoded_effect sound nonempty with ⟨result, after, call, _, soundAfter⟩
  exact ⟨result, call, after, soundAfter⟩

theorem ReceivesSoundly.moved {agent : Agent} (soundly : agent.ReceivesSoundly) {data : List UInt8}
    {result : RecvResult} (call : recvUndecoded agent.rtmpTransport data = some result) :
    ReceivesSoundly { agent with rtmpTransport := result.transport } := by
  by_cases empty : data = []
  · rw [empty] at call
    cases call
  · rcases soundly.call empty with ⟨found, callToo, kept⟩
    rw [callToo, Option.some.injEq] at call
    rw [← call]
    exact kept

/-- A call that returns, and what is done about its message, keep the invariant. -/
theorem ReceivesSoundly.taken {decodeMsg : RtmpMessage -> RequestsMap -> Option (Option Arrival)} {agent : Agent}
    (soundly : agent.ReceivesSoundly) {data : List UInt8} {call : RecvCall Arrival}
    (called : recvRtmpMessage decodeMsg agent.rtmpTransport data = some call) :
    let handled := afterPacket (fun rest rtmpTransport arrival =>
      let agent := Agent.receive arrival { rtmpTransport, rest }
      (agent.rest, agent.rtmpTransport)) agent.rest call.transport call.packet
    ReceivesSoundly { rtmpTransport := handled.2, rest := handled.1 } := by
  rcases recvRtmpMessage_undecoded called with ⟨result, undecoded, _, _, same⟩
  have here := soundly.moved undecoded
  rw [← same] at here
  simp only [afterPacket]
  cases call.packet with
  | none => exact here
  | some arrival => exact (Agent.receive_sameReceive _ _).soundly here

end Agent

namespace LiveClient

theorem answerReply_sameReceive (client : LiveClient) :
    client.agent.SameReceive client.answerReply.agent := by
  unfold answerReply
  simp only
  split
  · split
    next handshake _ =>
      have same := Agent.sendAll_receive
        { client.agent with rest := { (client.rest.log (.processS0S1S2 client.rest.handshake
            client.dataCache.bytes)).log (.sendC2 handshake.c2) with handshake, status := .sendC2 } }
        client.rest.setting.connectGroup
      exact ⟨same.1, same.2⟩
    · exact ⟨rfl, rfl⟩
  · exact ⟨rfl, rfl⟩

theorem doHandshake_sameReceive (client : LiveClient) (data : List UInt8) :
    client.agent.SameReceive (client.doHandshake data).agent := by
  rw [doHandshake]
  split
  · simp only
    split <;> exact ⟨rfl, rfl⟩
  · simp only
    split
    · have same := answerReply_sameReceive { client with dataCache := client.dataCache.pushData data }
      exact ⟨same.inChunkSize, same.chunkCache⟩
    · exact ⟨rfl, rfl⟩
  · exact .refl client.agent

theorem stop_sameReceive (client : LiveClient) : client.agent.SameReceive client.stop.agent := by
  rw [stop]
  split
  · have same := client.agent.sendRtmpPacket_receive .application
      (.fmleStart (RtmpFmleStartPacket.createReleaseStream client.rest.setting.rtmpStream)) client.rest.streamid
    exact ⟨same.1, same.2⟩
  · exact .refl client.agent

theorem onRecvData_soundly {client after : LiveClient} {data : List UInt8}
    (soundly : client.agent.ReceivesSoundly) (received : client.onRecvData data = some after) :
    after.agent.ReceivesSoundly := by
  by_cases done : client.rest.status = .sendC2
  · exact onRecvData_invariant (fun agent data result kept call => kept.moved call)
      (fun agent arrival kept _ => (agent.receive_sameReceive arrival).soundly kept) done soundly received
  · rw [onRecvData_handshake done, Option.some.injEq] at received
    rw [← received]
    exact (client.doHandshake_sameReceive data).soundly soundly

/-- The loop of `processData` with what the client does with a packet. -/
def receiveLoop (fuel : Nat) (client : LiveClient) : Option (LiveClient × List (RecvEvent Arrival)) :=
  processLoop Arrival.arrived
    (fun rest rtmpTransport arrival =>
      let agent := Agent.receive arrival { rtmpTransport, rest }
      (agent.rest, agent.rtmpTransport)) fuel client

/-- The client when the loop begins. -/
def cached (client : LiveClient) (data : List UInt8) : LiveClient :=
  { client with dataCache := client.dataCache.pushData data }

/-- A read after the handshake is a run of the loop. -/
theorem onRecvData_receiveLoop {client : LiveClient} (done : client.rest.status = .sendC2) (data : List UInt8) :
    client.onRecvData data =
      ((client.cached data).receiveLoop (client.cached data).dataCache.len).map Prod.fst := by
  rw [onRecvData, done]
  rfl

/-- On a sound transport the loop runs to its end. -/
theorem receiveLoop_total {client : LiveClient} (soundly : client.agent.ReceivesSoundly) (fuel : Nat) :
    Exists fun run => client.receiveLoop fuel = some run :=
  @processLoop_total Session Arrival Arrival.arrived
    (fun rest rtmpTransport arrival =>
      let agent := Agent.receive arrival { rtmpTransport, rest }
      (agent.rest, agent.rtmpTransport))
    Agent.ReceivesSoundly
    (fun agent data kept nonempty => by
      rcases kept.call nonempty with ⟨result, undecoded, _⟩
      exact (recvRtmpMessage_returns_iff undecoded).mpr fun _ _ impossible => by cases impossible)
    (fun _ _ _ kept _ called _ => kept.taken called)
    fuel client soundly

/-- A read on a sound transport comes to its end. -/
theorem onRecvData_total {client : LiveClient} (soundly : client.agent.ReceivesSoundly) (data : List UInt8) :
    Exists fun after => client.onRecvData data = some after := by
  by_cases done : client.rest.status = .sendC2
  · have initially : (client.cached data).agent.ReceivesSoundly := soundly
    rcases receiveLoop_total initially (client.cached data).dataCache.len with ⟨run, ran⟩
    rw [onRecvData_receiveLoop done, ran]
    exact ⟨run.1, rfl⟩
  · exact ⟨_, onRecvData_handshake done⟩

theorem clientStep_soundly {client after : LiveClient} {input : ClientInput}
    (soundly : client.agent.ReceivesSoundly) (taken : clientStep client input = some after) :
    after.agent.ReceivesSoundly := by
  cases input with
  | recv data =>
      rw [clientStep] at taken
      split at taken
      · cases taken
      · exact onRecvData_soundly soundly taken
  | stop =>
      rw [clientStep] at taken
      split at taken
      · cases taken
      · rw [← Option.some.inj taken]
        exact client.stop_sameReceive.soundly soundly

/-- The client of a run takes the next input, whatever it is, unless it has
halted. -/
theorem run_total {setting : Setting} {handshake : RtmpHandshake} {streamid : Int32} {havestop : Bool}
    {stale : UInt32 -> UInt32} {inputs : List ClientInput} {client : LiveClient}
    (ran : runAll clientStep (connected setting handshake streamid havestop stale) inputs = some client)
    (running : client.rest.halted = false) (input : ClientInput) :
    Exists fun after => clientStep client input = some after := by
  have initially : (connected setting handshake streamid havestop stale).agent.ReceivesSoundly :=
    ⟨_, Sound.new stale⟩
  have soundly : client.agent.ReceivesSoundly :=
    runAll_invariant (fun _ _ _ kept taken => clientStep_soundly kept taken) initially ran
  cases input with
  | recv data =>
      rw [clientStep, running, if_neg Bool.false_ne_true]
      exact onRecvData_total soundly data
  | stop =>
      rw [clientStep, running, if_neg Bool.false_ne_true]
      exact ⟨client.stop, rfl⟩

end LiveClient

end Client
end RtmpClient
