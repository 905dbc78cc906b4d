import RtmpClient.Client.HandshakeRun
import RtmpClient.Rtmp.Answers
import RtmpClient.Rtmp.WholeMessage

namespace RtmpClient
namespace Client

open Library Net Amf0 Rtmp

/-!
# A server that answers

Each message comes in one chunk and in a read of its own.  Then the client goes
through its statuses one answer after the other, and everything it sends is
known: a run of the client in which each group goes out.
-/

/-! ## A message in a read of its own -/

/-- The header of a command message. -/
def commandHeader (payload : List UInt8) : RtmpHeader where
  chunkType := 0
  chunkStreamId := rtmpCidOverConnection
  timestamp := 0
  msgLength := UInt32.ofNat payload.length
  msgTypeId := rtmpMsgAmf0CommandMessage
  msgStreamId := 0

/-- The read that brings a command message. -/
def commandRead (payload : List UInt8) : List UInt8 := (commandHeader payload).fmt0Bytes ++ payload

/-- What is read from a message with this body. -/
def Carries (requests : RequestsMap) (payload : List UInt8) (packet : RtmpPacket) : Prop :=
  Exists fun ret => decodeCommand requests rtmpMsgAmf0CommandMessage payload = .ok (ret, packet)

theorem messagePacket_command {requests : RequestsMap} {payload : List UInt8} {packet : RtmpPacket}
    (carries : Carries requests payload packet) {msg : RtmpMessage}
    (type : msg.rtmpHeader.msgTypeId = rtmpMsgAmf0CommandMessage) (body : msg.rtmpBody = payload) :
    messagePacket requests msg = .ok (some packet) := by
  rcases carries with ⟨ret, decoded⟩
  have command : decodeMsg requests msg = .ok (ret, packet) := by
    rw [decodeMsg, type, body]
    exact decoded
  rw [messagePacket, type, command]
  exact if_neg (by decide)

/-- Sending leaves the receiver between messages. -/
theorem idle_sent {before after : RtmpMessageTransport} (idle : Idle before)
    (sameSize : after.inChunkSize = before.inChunkSize) (sameCache : after.chunkCache = before.chunkCache) :
    Idle after := by
  rcases idle with ⟨assemblies, sound, empty⟩
  exact ⟨assemblies, sound.sent sameSize sameCache, empty⟩

namespace LiveClient

/-- The client waits for a message, and none is under way. -/
structure Listening (client : LiveClient) : Prop where
  status : client.rest.status = .sendC2
  ready : client.agent.Ready
  empty : client.dataCache.bytes = []
  idle : Idle client.rtmpTransport

/-- A read that brings one message: it is received on a transport that has the
same send side. -/
theorem Listening.read {client : LiveClient} (listening : client.Listening) {payload : List UInt8}
    (fits : payload.length ≤ 128) :
    Exists fun transport => Exists fun msg => Exists fun after : LiveClient =>
      clientStep client (.recv (commandRead payload)) = some after ∧
      (msg.rtmpHeader.msgTypeId = rtmpMsgAmf0CommandMessage ∧ msg.rtmpBody = payload) ∧
      (Idle transport ∧ transport.requestsMap = client.rtmpTransport.requestsMap ∧
        transport.outChunkSize = client.rtmpTransport.outChunkSize) ∧
      after.dataCache.bytes = [] ∧
      after.agent = Agent.receive { requests := transport.requestsMap, msg }
        { rtmpTransport := transport, rest := client.rest } := by
  have length : (commandHeader payload).msgLength.toNat = payload.length := by
    rw [commandHeader, UInt32.toNat_ofNat']
    exact Nat.mod_eq_of_lt (by omega)
  have chunkSize : 128 ≤ client.rtmpTransport.inChunkSize.toNat := by
    rcases listening.idle with ⟨assemblies, sound, _⟩
    exact sound.chunkSize_le
  have csLow : 2 ≤ rtmpCidOverConnection.toNat := by decide
  have csHigh : rtmpCidOverConnection.toNat < 64 := by decide
  rcases recv_wholeMessage listening.idle (commandHeader payload) csLow csHigh length (by omega)
    (Nat.le_trans fits chunkSize) [] with ⟨result, msg, call, received⟩
  rw [List.append_nil] at call
  have sendSide := recvUndecoded_sendSide call
  let handled := Agent.receive { requests := result.transport.requestsMap, msg }
    { rtmpTransport := result.transport, rest := client.rest }
  let cached : LiveClient := { client with dataCache := client.dataCache.pushData (commandRead payload) }
  have bytes : cached.dataCache.bytes = commandRead payload := by
    have pushed := DataCacheBuf.pushData_bytes client.dataCache (commandRead payload)
    rw [listening.empty, List.nil_append] at pushed
    exact pushed
  have len : cached.dataCache.len = (commandRead payload).length := congrArg List.length bytes
  have positive : 0 < cached.dataCache.len := by
    rw [len, commandRead, List.length_append, RtmpHeader.fmt0Bytes_length]
    omega
  have whole : result.ret = cached.dataCache.len := by
    rw [len]
    exact received.ret_eq
  let after : LiveClient :=
    { dataCache := cached.dataCache.popData result.ret.toNat
      rtmpTransport := handled.rtmpTransport
      rest := handled.rest }
  have left : after.dataCache.bytes = [] := by
    show cached.dataCache.bytes.drop result.ret.toNat = []
    rw [whole]
    exact List.drop_length
  refine ⟨result.transport, msg, after, ?_, ⟨received.delivered.msgTypeId_eq, received.delivered.body_eq⟩,
    ⟨received.idle, sendSide.1, sendSide.2⟩, left, rfl⟩
  have running : client.rest.halted = false := listening.ready.running
  have callToo : recvRtmpMessage Arrival.arrived cached.rtmpTransport cached.dataCache.bytes =
      some { ret := result.ret
             transport := result.transport
             packet := some { requests := result.transport.requestsMap, msg } } := by
    rw [bytes, recvRtmpMessage, show recvUndecoded cached.rtmpTransport (commandRead payload) = some result from call,
      Option.bind_some, RecvResult.decoded, received.message_eq]
    rfl
  rw [clientStep, running, if_neg Bool.false_ne_true, onRecvData, listening.status]
  refine (congrArg (Option.map Prod.fst) (processLoop_whole _ _ positive callToo whole)).trans ?_
  -- the one packet of the loop is the message, and the agent receives it
  simp only [RtmpClientState.taken, afterPacket]
  rfl

end LiveClient

/-! ## What the groups record -/

/-- The numbers that the client gives to its requests. -/
def Direction.requests : Direction -> RequestsMap
  | .push => [(Double.ofNat 1, ascii "connect"), (Double.ofNat 2, ascii "releaseStream"),
      (Double.ofNat 3, ascii "FCPublish"), (Double.ofNat 4, ascii "createStream")]
  | .pull => [(Double.ofNat 1, ascii "connect"), (Double.ofNat 2, ascii "createStream")]

/-- What a sent packet does to the map. -/
theorem onSendMessage_requestsMap (transport : RtmpMessageTransport) (packet : RtmpPacket) :
    (onSendMessage transport packet.toBase).requestsMap =
      match packet.dynamicClass with
      | .request number name => RequestsMap.set transport.requestsMap number name
      | _ => transport.requestsMap := by
  cases packet <;> rfl

/-- What a sent packet of this class does to the map. -/
def recordClass (requests : RequestsMap) : PacketClass -> RequestsMap
  | .request number name => RequestsMap.set requests number name
  | _ => requests

/-- What a list of sent packets does to it. -/
def recordAll (packets : List (RtmpPacket × Int32)) (requests : RequestsMap) : RequestsMap :=
  packets.foldl (fun requests packet => recordClass requests packet.1.dynamicClass) requests

theorem Agent.sentAll_requestsMap (agent : Agent) (packets : List (RtmpPacket × Int32)) :
    (agent.sentAll packets).rtmpTransport.requestsMap = recordAll packets agent.rtmpTransport.requestsMap := by
  induction packets generalizing agent with
  | nil => rfl
  | cons packet packets inductionHypothesis =>
      have step : agent.sentAll (packet :: packets) = (agent.sent .own packet.1 packet.2).sentAll packets := rfl
      have first : (agent.sent .own packet.1 packet.2).rtmpTransport.requestsMap =
          recordAll [packet] agent.rtmpTransport.requestsMap :=
        onSendMessage_requestsMap agent.rtmpTransport packet.1
      rw [step, inductionHypothesis, first]
      rfl

theorem Setting.recordAll_connectGroup (setting : Setting) :
    recordAll setting.connectGroup [] = [(Double.ofNat 1, ascii "connect")] := rfl

theorem Setting.recordAll_createStreamGroup (setting : Setting) (stream : List UInt8) :
    recordAll (setting.createStreamGroup stream) [(Double.ofNat 1, ascii "connect")] =
      setting.dir.requests.reverse := by
  have push : recordClass (recordClass (recordClass [(Double.ofNat 1, ascii "connect")]
      (.request (Double.ofNat 2) (ascii "releaseStream"))) (.request (Double.ofNat 3) (ascii "FCPublish")))
      (.request (Double.ofNat 4) (ascii "createStream")) = Direction.push.requests.reverse := by decide
  have pull : recordClass (recordClass [(Double.ofNat 1, ascii "connect")]
      (.request (Double.ofNat 2) (ascii "createStream"))) .other = Direction.pull.requests.reverse := by decide
  rw [Setting.createStreamGroup]
  cases setting.dir with
  | push => exact push
  | pull => exact pull

/-! ## One status after the other -/

namespace LiveClient

/-- Where the client stands in the conversation. -/
structure Stands (client : LiveClient) (setting : Setting) (phase : RtmpClientPushPullStatus)
    (requests : RequestsMap) (trace : List ClientEvent) : Prop extends Listening client where
  setting_eq : client.rest.setting = setting
  pushPullStatus : client.rest.pushPullStatus = phase
  requestsMap : client.rtmpTransport.requestsMap = requests
  trace_eq : client.rest.trace = trace

/-- The log of a group. -/
def sendEvents (packets : List (RtmpPacket × Int32)) : List ClientEvent :=
  packets.map fun packet => .sendPacket .own packet.1 packet.2

/-- The agent where it is about to send a group. -/
structure Resumes (agent : Agent) (setting : Setting) (phase : RtmpClientPushPullStatus)
    (requests : RequestsMap) (trace : List ClientEvent) : Prop where
  ready : agent.Ready
  idle : Idle agent.rtmpTransport
  status : agent.rest.status = .sendC2
  setting_eq : agent.rest.setting = setting
  pushPullStatus : agent.rest.pushPullStatus = phase
  requestsMap : agent.rtmpTransport.requestsMap = requests
  trace_eq : agent.rest.trace = trace

/-- It sends the group and sets its status. -/
theorem stands_of_group {agent : Agent} {setting : Setting} {phase : RtmpClientPushPullStatus}
    {requests : RequestsMap} {trace : List ClientEvent} (resumes : Resumes agent setting phase requests trace)
    {packets : List (RtmpPacket × Int32)} (goesOut : forall packet, packet ∈ packets -> GoesOut packet.1)
    (next : RtmpClientPushPullStatus) {after : LiveClient} (empty : after.dataCache.bytes = [])
    (sends : after.agent = (agent.sendAll packets).setPushPullStatus next) :
    after.Stands setting next (recordAll packets requests) (trace ++ sendEvents packets) := by
  rcases Agent.sendAll_eq resumes.ready goesOut with ⟨all, readyToo⟩
  have rest := agent.sentAll_trace packets
  have receive := agent.sendAll_receive packets
  have kept := idle_sent resumes.idle receive.1 receive.2
  rw [all] at sends kept
  have transport : after.rtmpTransport = (agent.sentAll packets).rtmpTransport :=
    congrArg Consumer.rtmpTransport sends
  have session : after.rest = { (agent.sentAll packets).rest with pushPullStatus := next } :=
    congrArg Consumer.rest sends
  have readyAfter : after.agent.Ready := by
    refine ⟨?_, ?_⟩
    · exact (congrArg Session.halted session).trans readyToo.running
    · rw [show after.agent.rtmpTransport = (agent.sentAll packets).rtmpTransport from transport]
      exact readyToo.positive
  refine ⟨⟨?_, readyAfter, empty, ?_⟩, ?_, ?_, ?_, ?_⟩
  · rw [session, rest]
    exact resumes.status
  · rw [transport]
    exact kept
  · rw [session, rest]
    exact resumes.setting_eq
  · rw [session]
  · rw [transport, agent.sentAll_requestsMap, resumes.requestsMap]
  · rw [session, rest, resumes.trace_eq]
    rfl

/-- What the client logs of the handshake. -/
def greeting (handshake : RtmpHandshake) (reply : List UInt8) : List ClientEvent :=
  [.sendC0C1 handshake.c0c1, .processS0S1S2 handshake reply, .sendC2 (fieldAt reply 1 1536)]

theorem withAgent_agent (client : LiveClient) (agent : Agent) : (client.withAgent agent).agent = agent := rfl

/-- The reply in one read is followed by the group of connect. -/
theorem stands_connected (setting : Setting) (handshake : RtmpHandshake) (streamid : Int32) (havestop : Bool)
    (stale : UInt32 -> UInt32) {reply : List UInt8} (length : reply.length = 3073) :
    Exists fun client =>
      clientStep (connected setting handshake streamid havestop stale) (.recv reply) = some client ∧
      client.Stands setting .connectApp [(Double.ofNat 1, ascii "connect")]
        (greeting handshake reply ++ sendEvents setting.connectGroup) := by
  have waiting := connected_waiting setting handshake streamid havestop stale
  let cached := (connected setting handshake streamid havestop stale).caching [reply]
  have bytes : cached.dataCache.bytes = reply := by
    rw [caching_bytes, List.flatten_singleton]
    rfl
  rcases readStep_greets waiting (Nat.le_of_eq length.symm) with ⟨greetedWith, answer, read⟩
  refine ⟨_, read, ?_⟩
  have logged : (cached.greeted greetedWith).agent.rest.trace = greeting handshake reply := by
    have trace : (cached.greeted greetedWith).agent.rest.trace = [.sendC0C1 handshake.c0c1] ++
        [.processS0S1S2 handshake cached.dataCache.bytes] ++ [.sendC2 greetedWith.c2] := rfl
    rw [trace, bytes, answer]
    rfl
  have empty : (cached.dataCache.popData 3073).bytes = [] := by
    have rest (cache : DataCacheBuf) (count : Nat) : (cache.popData count).bytes = cache.bytes.drop count := rfl
    rw [rest, bytes, ← length, List.drop_length]
  have positive : 0 < rtmpDefaultChunksize.toNat := by decide
  have given : (cached.greeted greetedWith).agent.rest.setting = setting := rfl
  have sends : ((cached.greeted greetedWith).withAgent (cached.greeted greetedWith).agent.connectApp).agent =
      ((cached.greeted greetedWith).agent.sendAll setting.connectGroup).setPushPullStatus .connectApp := by
    rw [withAgent_agent, Agent.connectApp, given]
  have resumes : Resumes (cached.greeted greetedWith).agent setting .connectApp []
      (greeting handshake reply) := ⟨⟨rfl, positive⟩, Idle.new stale, rfl, rfl, rfl, rfl, logged⟩
  have stands := stands_of_group resumes setting.connectGroup_goesOut .connectApp empty sends
  rw [setting.recordAll_connectGroup] at stands
  exact stands

section Answers

variable {setting : Setting} {phase : RtmpClientPushPullStatus} {requests : RequestsMap}
variable {trace : List ClientEvent} {client : LiveClient}

/-- A message whose packet the client handles. -/
theorem Stands.handled (stands : client.Stands setting phase requests trace) {payload : List UInt8}
    (fits : payload.length ≤ 128) {packet : RtmpPacket} (carries : Carries requests payload packet) :
    Exists fun msg => Exists fun agent : Agent => Exists fun after : LiveClient =>
      clientStep client (.recv (commandRead payload)) = some after ∧ after.dataCache.bytes = [] ∧
      messagePacket requests msg = .ok (some packet) ∧
      Resumes agent setting phase requests (trace ++ [.recvMessage phase requests msg]) ∧
      after.agent = agent.handle packet := by
  rcases stands.toListening.read fits with
    ⟨transport, msg, after, step, ⟨type, body⟩, ⟨idle, sameRequests, sameSize⟩, empty, received⟩
  rw [stands.requestsMap] at sameRequests
  have handed := messagePacket_command carries type body
  have running : client.rest.halted = false := stands.ready.running
  have positive : 0 < transport.outChunkSize.toNat := by
    rw [sameSize]
    exact stands.ready.positive
  have logged : (client.rest.log (.recvMessage phase requests msg)).trace =
      trace ++ [.recvMessage phase requests msg] := by
    rw [Session.log, stands.trace_eq]
  refine ⟨msg, { rtmpTransport := transport, rest := client.rest.log (.recvMessage phase requests msg) }, after,
    step, empty, handed, ⟨⟨running, positive⟩, idle, stands.status, stands.setting_eq, stands.pushPullStatus,
      sameRequests, logged⟩, ?_⟩
  have packetOf : Arrival.packet { requests, msg } = .ok (some packet) := handed
  rw [received, Agent.receive, running, if_neg Bool.false_ne_true]
  simp only [sameRequests, packetOf, stands.pushPullStatus]
  rfl

/-- An answer to connect is followed by the group of createStream. -/
theorem Stands.createStream (stands : client.Stands setting .connectApp requests trace) {payload : List UInt8}
    (fits : payload.length ≤ 128) {response : RtmpConnectResponsePacket}
    (carries : Carries requests payload (.connectResponse response)) :
    Exists fun msg => Exists fun after => clientStep client (.recv (commandRead payload)) = some after ∧
      messagePacket requests msg = .ok (some (.connectResponse response)) ∧
      after.Stands setting .createStream (recordAll (setting.createStreamGroup setting.rtmpApp) requests)
        (trace ++ [.recvMessage .connectApp requests msg] ++
          sendEvents (setting.createStreamGroup setting.rtmpApp)) := by
  rcases stands.handled fits carries with ⟨msg, agent, after, step, empty, handed, resumes, handles⟩
  have sends : after.agent =
      (agent.sendAll (setting.createStreamGroup setting.rtmpApp)).setPushPullStatus .createStream := by
    rw [handles, Agent.handle, resumes.pushPullStatus]
    simp only [Agent.createStream, resumes.setting_eq]
  exact ⟨msg, after, step, handed, stands_of_group resumes (setting.createStreamGroup_goesOut setting.rtmpApp)
    .createStream empty sends⟩

/-- An answer to createStream is followed by the group of publish or play. -/
theorem Stands.startStream (stands : client.Stands setting .createStream requests trace) {payload : List UInt8}
    (fits : payload.length ≤ 128) {response : RtmpCreateStreamResponsePacket}
    (carries : Carries requests payload (.createStreamResponse response)) {streamid : Int32}
    (converted : (Double.toInt32 response.streamid).getD (setting.outOfRange response.streamid) = streamid) :
    Exists fun msg => Exists fun after => clientStep client (.recv (commandRead payload)) = some after ∧
      messagePacket requests msg = .ok (some (.createStreamResponse response)) ∧
      after.Stands setting .pushOrPull (recordAll (setting.startGroup streamid) requests)
        (trace ++ [.recvMessage .createStream requests msg] ++ sendEvents (setting.startGroup streamid)) := by
  rcases stands.handled fits carries with ⟨msg, agent, after, step, empty, handed, resumes, handles⟩
  let answered := agent.setStreamid response.streamid
  have carried : answered.rest.streamid = streamid := by
    rw [← converted, ← resumes.setting_eq]
    rfl
  have given : answered.rest.setting = setting := resumes.setting_eq
  have sends : after.agent = (answered.sendAll (setting.startGroup streamid)).setPushPullStatus .pushOrPull := by
    rw [handles, Agent.handle, resumes.pushPullStatus]
    show answered.startStream = _
    rw [Agent.startStream, carried, given]
  -- only the stream id has changed, which none of this is about
  have answeredResumes : Resumes answered setting .createStream requests
      (trace ++ [.recvMessage .createStream requests msg]) :=
    ⟨⟨resumes.ready.running, resumes.ready.positive⟩, resumes.idle, resumes.status, given,
      resumes.pushPullStatus, resumes.requestsMap, resumes.trace_eq⟩
  exact ⟨msg, after, step, handed, stands_of_group answeredResumes (setting.startGroup_goesOut streamid)
    .pushOrPull empty sends⟩

end Answers

end LiveClient

/-! ## The whole conversation -/

/-- The answer to the request of this number. -/
def connectAnswer (number : UInt64) : RtmpConnectResponsePacket := { RtmpConnectResponsePacket.new with number }

/-- The number of createStream. -/
def Direction.createStreamNumber : Direction -> UInt64
  | .push => Double.ofNat 4
  | .pull => Double.ofNat 2

/-- The answer to createStream, with a stream id. -/
def Direction.createStreamAnswer (dir : Direction) (streamid : UInt64) : RtmpCreateStreamResponsePacket :=
  .new dir.createStreamNumber streamid

/-- The read that brings an answer. -/
def answerRead (packet : RtmpPacket) : ClientInput := .recv (commandRead (commandBody packet))

theorem connectAnswer_carries {requests : RequestsMap} {number : UInt64}
    (found : requests.find number = some (ascii "connect")) :
    Carries requests (commandBody (.connectResponse (connectAnswer number)))
      (.connectResponse (connectAnswer number)) := by
  have empty : (RtmpAmf0Any.object []).WellFormed :=
    .object (List.forall_mem_nil _) List.nodup_nil (List.forall_mem_nil _)
  exact decodeCommand_connectResponse rfl empty empty found

theorem Direction.createStreamAnswer_carries (dir : Direction) (streamid : UInt64) :
    Carries dir.requests.reverse (commandBody (.createStreamResponse (dir.createStreamAnswer streamid)))
      (.createStreamResponse (dir.createStreamAnswer streamid)) := by
  have found : RequestsMap.find dir.requests.reverse dir.createStreamNumber = some (ascii "createStream") := by
    cases dir <;> decide
  exact decodeCommand_createStreamResponse rfl found

theorem connectAnswer_fits (number : UInt64) :
    (commandBody (.connectResponse (connectAnswer number))).length ≤ 128 := by
  have length : (commandBody (.connectResponse (connectAnswer number))).length = 27 := rfl
  omega

theorem Direction.createStreamAnswer_fits (dir : Direction) (streamid : UInt64) :
    (commandBody (.createStreamResponse (dir.createStreamAnswer streamid))).length ≤ 128 := by
  have length : (commandBody (.createStreamResponse (dir.createStreamAnswer streamid))).length = 29 := rfl
  omega

section Whole

variable (setting : Setting) (handshake : RtmpHandshake) (streamid : Int32) (havestop : Bool)
variable (stale : UInt32 -> UInt32)

/-- The reply and an answer that is found under connect. -/
theorem conversation_createStream {reply : List UInt8} (length : reply.length = 3073) {number : UInt64}
    (found : RequestsMap.find [(Double.ofNat 1, ascii "connect")] number = some (ascii "connect")) :
    Exists fun msg => Exists fun client : LiveClient =>
      runAll clientStep (.connected setting handshake streamid havestop stale)
        [.recv reply, answerRead (.connectResponse (connectAnswer number))] = some client ∧
      messagePacket [(Double.ofNat 1, ascii "connect")] msg =
        .ok (some (.connectResponse (connectAnswer number))) ∧
      client.Stands setting .createStream setting.dir.requests.reverse
        (LiveClient.greeting handshake reply ++ LiveClient.sendEvents setting.connectGroup ++
          [.recvMessage .connectApp [(Double.ofNat 1, ascii "connect")] msg] ++
          LiveClient.sendEvents (setting.createStreamGroup setting.rtmpApp)) := by
  rcases LiveClient.stands_connected setting handshake streamid havestop stale length with
    ⟨greeted, first, stands⟩
  rcases stands.createStream (connectAnswer_fits number) (connectAnswer_carries found) with
    ⟨msg, client, second, handed, standsToo⟩
  rw [setting.recordAll_createStreamGroup] at standsToo
  refine ⟨msg, client, ?_, handed, standsToo⟩
  rw [runAll, first, Option.bind_some, runAll, answerRead, second, Option.bind_some, runAll]

/-- The reply and both answers: every group goes out. -/
theorem conversation_startStream {reply : List UInt8} (length : reply.length = 3073) {carried : UInt64}
    {converted : Int32} (converts : (Double.toInt32 carried).getD (setting.outOfRange carried) = converted) :
    Exists fun first => Exists fun second => Exists fun client : LiveClient =>
      runAll clientStep (.connected setting handshake streamid havestop stale)
        [.recv reply, answerRead (.connectResponse (connectAnswer (Double.ofNat 1))),
          answerRead (.createStreamResponse (setting.dir.createStreamAnswer carried))] = some client ∧
      messagePacket [(Double.ofNat 1, ascii "connect")] first =
        .ok (some (.connectResponse (connectAnswer (Double.ofNat 1)))) ∧
      messagePacket setting.dir.requests.reverse second =
        .ok (some (.createStreamResponse (setting.dir.createStreamAnswer carried))) ∧
      client.rest.trace = LiveClient.greeting handshake reply ++ LiveClient.sendEvents setting.connectGroup ++
        [.recvMessage .connectApp [(Double.ofNat 1, ascii "connect")] first] ++
        LiveClient.sendEvents (setting.createStreamGroup setting.rtmpApp) ++
        [.recvMessage .createStream setting.dir.requests.reverse second] ++
        LiveClient.sendEvents (setting.startGroup converted) := by
  have found : RequestsMap.find [(Double.ofNat 1, ascii "connect")] (Double.ofNat 1) = some (ascii "connect") := by
    decide
  rcases conversation_createStream setting handshake streamid havestop stale length found with
    ⟨first, middle, ran, handed, stands⟩
  rcases stands.startStream (setting.dir.createStreamAnswer_fits carried)
    (setting.dir.createStreamAnswer_carries carried) converts with ⟨second, client, step, handedToo, standsToo⟩
  refine ⟨first, second, client, ?_, handed, handedToo, standsToo.trace_eq⟩
  exact (runAll_concat ran _).trans step

end Whole

end Client
end RtmpClient
