import RtmpClient.Client.ChunkSize
import RtmpClient.Client.Session
import RtmpClient.Rtmp.PacketLength

namespace RtmpClient
namespace Client

open Library Net Amf0 Rtmp

/-!
# What a session does

Every handler sends packets and sets a status.  The packets of the session are
encoded in any case and leave a chunk size that the send loop ends with, so
that a group of packets goes out as a whole.  Whatever a handler does, it only
appends to the log, and only entries of a few kinds.
-/

/-! ## Sending a group -/

/-- The session's packets: they are encoded, and a send loop that ends is one
that ends afterwards. -/
structure GoesOut (packet : RtmpPacket) : Prop where
  encoded : packet.payload.isSome = true
  positive : forall size, announcedSize packet.toBase = some size -> 0 < size.toNat

namespace GoesOut

/-- A packet that announces no chunk size. -/
theorem of_values {packet : RtmpPacket} (described : packet.values ≠ [])
    (quiet : packet.getMsgType ≠ rtmpMsgSetChunkSize) : GoesOut packet where
  encoded := RtmpPacket.payload_of_values described
  positive := by
    intro size announces
    have nothing : announcedSize packet.toBase = none := if_neg quiet
    rw [nothing] at announces
    cases announces

theorem of_command {packet : RtmpPacket} (described : packet.values ≠ [])
    (command : packet.getMsgType = rtmpMsgAmf0CommandMessage) : GoesOut packet := by
  apply of_values described
  rw [command]
  decide

theorem of_fits {packet : RtmpPacket} (fits : packet.Fits) (inInt : packet.getPkgLen < 2 ^ 31)
    (positive : forall size, announcedSize packet.toBase = some size -> 0 < size.toNat) : GoesOut packet where
  encoded := by
    rcases RtmpPacket.body_exists fits inInt with ⟨cells, body⟩
    rw [body.payload_eq]
    rfl
  positive := positive

end GoesOut

namespace Agent

/-- The agent runs, and its send loop ends. -/
structure Ready (agent : Agent) : Prop where
  running : agent.rest.halted = false
  positive : 0 < agent.rtmpTransport.outChunkSize.toNat

/-- The agent after a packet went out. -/
def sent (origin : Origin) (packet : RtmpPacket) (streamid : Int32) (agent : Agent) : Agent where
  rtmpTransport := onSendMessage agent.rtmpTransport packet.toBase
  rest := agent.rest.log (.sendPacket origin packet streamid)

theorem sendRtmpPacket_receive (agent : Agent) (origin : Origin) (packet : RtmpPacket) (streamid : Int32) :
    (agent.sendRtmpPacket origin packet streamid).rtmpTransport.inChunkSize = agent.rtmpTransport.inChunkSize ∧
      (agent.sendRtmpPacket origin packet streamid).rtmpTransport.chunkCache =
        agent.rtmpTransport.chunkCache := by
  rw [sendRtmpPacket]
  split
  · exact ⟨rfl, rfl⟩
  · split
    · exact ⟨rfl, rfl⟩
    next call => exact sendRtmpMessage_receive call

theorem sendRtmpPacket_eq {agent : Agent} (ready : agent.Ready) {packet : RtmpPacket}
    (goesOut : GoesOut packet) (origin : Origin) (streamid : Int32) :
    agent.sendRtmpPacket origin packet streamid = agent.sent origin packet streamid := by
  rcases Option.isSome_iff_exists.mp goesOut.encoded with ⟨payload, encoded⟩
  have encodedBase : packet.toBase.payload = some payload := encoded
  rcases doSendMessage_wire ready.positive (packetHeader packet.toBase streamid.toUInt32) payload with
    ⟨ops, wrote, _⟩
  have call : sendRtmpMessage agent.rtmpTransport packet.toBase streamid.toUInt32 =
      some (ops, onSendMessage agent.rtmpTransport packet.toBase) := by
    simp only [sendRtmpMessage, encodedBase, wrote, Option.map_some]
  simp only [sendRtmpPacket, ready.running, Bool.false_eq_true, if_false, call, encoded, Option.isSome_some,
    if_true, sent]

theorem Ready.sent {agent : Agent} (ready : agent.Ready) {packet : RtmpPacket} (goesOut : GoesOut packet)
    (origin : Origin) (streamid : Int32) : (agent.sent origin packet streamid).Ready where
  running := ready.running
  positive := by
    have size : (agent.sent origin packet streamid).rtmpTransport.outChunkSize =
        (announcedSize packet.toBase).getD agent.rtmpTransport.outChunkSize :=
      onSendMessage_outChunkSize agent.rtmpTransport packet.toBase
    rw [size]
    cases announces : announcedSize packet.toBase with
    | none => exact ready.positive
    | some size => exact goesOut.positive size announces

/-- The agent after a group of packets went out. -/
def sentAll (packets : List (RtmpPacket × Int32)) (agent : Agent) : Agent :=
  packets.foldl (fun agent packet => agent.sent .own packet.1 packet.2) agent

/-- A group goes out as a whole. -/
theorem sendAll_eq {agent : Agent} (ready : agent.Ready) {packets : List (RtmpPacket × Int32)}
    (goesOut : forall packet, packet ∈ packets -> GoesOut packet.1) :
    agent.sendAll packets = agent.sentAll packets ∧ (agent.sentAll packets).Ready := by
  induction packets generalizing agent with
  | nil => exact ⟨rfl, ready⟩
  | cons packet packets inductionHypothesis =>
      have first := goesOut packet List.mem_cons_self
      have others := inductionHypothesis (ready.sent first .own packet.2)
        fun later member => goesOut later (List.mem_cons_of_mem packet member)
      have step : agent.sendAll (packet :: packets) =
          (agent.sendRtmpPacket .own packet.1 packet.2).sendAll packets := rfl
      rw [step, sendRtmpPacket_eq ready first]
      exact others

theorem sentAll_trace (agent : Agent) (packets : List (RtmpPacket × Int32)) :
    (agent.sentAll packets).rest =
      { agent.rest with
        trace := agent.rest.trace ++ packets.map fun packet => .sendPacket .own packet.1 packet.2 } := by
  induction packets generalizing agent with
  | nil => rw [List.map_nil, List.append_nil]; rfl
  | cons packet packets inductionHypothesis =>
      have step : agent.sentAll (packet :: packets) =
          (agent.sent .own packet.1 packet.2).sentAll packets := rfl
      rw [step, inductionHypothesis, List.map_cons]
      simp only [sent, Session.log, List.append_assoc, List.singleton_append]

/-- Sending leaves the receive side alone. -/
theorem sendAll_receive (agent : Agent) (packets : List (RtmpPacket × Int32)) :
    (agent.sendAll packets).rtmpTransport.inChunkSize = agent.rtmpTransport.inChunkSize ∧
      (agent.sendAll packets).rtmpTransport.chunkCache = agent.rtmpTransport.chunkCache := by
  induction packets generalizing agent with
  | nil => exact ⟨rfl, rfl⟩
  | cons packet packets inductionHypothesis =>
      have rest := inductionHypothesis (agent.sendRtmpPacket .own packet.1 packet.2)
      have first := agent.sendRtmpPacket_receive .own packet.1 packet.2
      exact ⟨rest.1.trans first.1, rest.2.trans first.2⟩

end Agent

/-! ## The packets of the session -/

theorem Setting.connectGroup_goesOut (setting : Setting) :
    forall packet, packet ∈ setting.connectGroup -> GoesOut packet.1 := by
  intro packet member
  rcases List.mem_cons.mp member with rfl | member
  · exact .of_command (List.cons_ne_nil _ _) rfl
  · rw [List.mem_singleton] at member
    rw [member]
    exact .of_fits ⟨fun _ nothing => absurd nothing List.not_mem_nil, trivial⟩ (by decide)
      fun _ announces => by cases announces

/-- The packets of createStream, one by one. -/
inductive CreateStreamMember (setting : Setting) (stream : List UInt8) : RtmpPacket × Int32 -> Prop where
  | releaseStream (push : setting.dir = .push) :
      CreateStreamMember setting stream (.fmleStart (RtmpFmleStartPacket.createReleaseStream stream), 0)
  | fcPublish (push : setting.dir = .push) :
      CreateStreamMember setting stream (.fmleStart (RtmpFmleStartPacket.createFcPublish stream), 0)
  | createToPush (push : setting.dir = .push) :
      CreateStreamMember setting stream
        (.createStream { RtmpCreateStreamPacket.new with number := Double.ofNat 4 }, 0)
  | createToPull (pull : setting.dir = .pull) :
      CreateStreamMember setting stream
        (.createStream { RtmpCreateStreamPacket.new with number := Double.ofNat 2 }, 0)
  | checkBw (pull : setting.dir = .pull) :
      CreateStreamMember setting stream
        (.call { RtmpCallPacket.new with
          commandName := ascii "_checkbw"
          number := Double.ofNat 3
          object := some .null
          args := none }, 0)

theorem Setting.mem_createStreamGroup {setting : Setting} {stream : List UInt8} {packet : RtmpPacket × Int32}
    (member : packet ∈ setting.createStreamGroup stream) : CreateStreamMember setting stream packet := by
  rw [Setting.createStreamGroup] at member
  cases dir : setting.dir with
  | push =>
      simp only [dir, List.mem_cons, List.not_mem_nil, or_false] at member
      rcases member with rfl | rfl | rfl
      · exact .releaseStream dir
      · exact .fcPublish dir
      · exact .createToPush dir
  | pull =>
      simp only [dir, List.mem_cons, List.not_mem_nil, or_false] at member
      rcases member with rfl | rfl
      · exact .createToPull dir
      · exact .checkBw dir

/-- The packets of publish or play, one by one. -/
inductive StartMember (setting : Setting) (streamid : Int32) : RtmpPacket × Int32 -> Prop where
  | setChunkSize (push : setting.dir = .push) :
      StartMember setting streamid (.setChunkSize { chunkSize := 60000 }, 0)
  | publish (push : setting.dir = .push) :
      StartMember setting streamid
        (.publish { RtmpPublishPacket.new with streamName := setting.rtmpStream }, streamid)
  | getStreamLength (pull : setting.dir = .pull) :
      StartMember setting streamid
        (.call { RtmpCallPacket.new with
          commandName := ascii "getStreamLength"
          number := Double.ofNat 4
          object := some .null
          args := some (.string (cStr setting.rtmpApp)) }, 0)
  | play (pull : setting.dir = .pull) :
      StartMember setting streamid
        (.play { RtmpPlayPacket.new with
          number := Double.ofNat 5
          streamName := setting.rtmpApp
          start := Double.neg (Double.ofNat 1) }, streamid)
  | setBufferLength (pull : setting.dir = .pull) :
      StartMember setting streamid
        (.userControl { RtmpUserControlPacket.new with
          eventType := rtmpPcucSetBufferLength
          extraData := 3 }, 0)

theorem Setting.mem_startGroup {setting : Setting} {streamid : Int32} {packet : RtmpPacket × Int32}
    (member : packet ∈ setting.startGroup streamid) : StartMember setting streamid packet := by
  rw [Setting.startGroup] at member
  cases dir : setting.dir with
  | push =>
      simp only [dir, publishGroup, List.mem_cons, List.not_mem_nil, or_false] at member
      rcases member with rfl | rfl
      · exact .setChunkSize dir
      · exact .publish dir
  | pull =>
      simp only [dir, Setting.playGroup, List.mem_cons, List.not_mem_nil, or_false] at member
      rcases member with rfl | rfl | rfl
      · exact .getStreamLength dir
      · exact .play dir
      · exact .setBufferLength dir

theorem Setting.createStreamGroup_goesOut (setting : Setting) (stream : List UInt8) :
    forall packet, packet ∈ setting.createStreamGroup stream -> GoesOut packet.1 := by
  intro packet member
  cases Setting.mem_createStreamGroup member with
  | releaseStream => exact .of_command (List.cons_ne_nil _ _) rfl
  | fcPublish => exact .of_command (List.cons_ne_nil _ _) rfl
  | createToPush => exact .of_command (List.cons_ne_nil _ _) rfl
  | createToPull => exact .of_command (List.cons_ne_nil _ _) rfl
  | checkBw => exact .of_command (List.cons_ne_nil _ _) rfl

theorem Setting.startGroup_goesOut (setting : Setting) (streamid : Int32) :
    forall packet, packet ∈ setting.startGroup streamid -> GoesOut packet.1 := by
  intro packet member
  cases Setting.mem_startGroup member with
  | setChunkSize =>
      refine .of_fits ⟨fun _ nothing => absurd nothing List.not_mem_nil, trivial⟩ (by decide) fun size announces => ?_
      rw [← Option.some.inj announces]
      decide
  | publish => exact .of_command (List.cons_ne_nil _ _) rfl
  | getStreamLength => exact .of_command (List.cons_ne_nil _ _) rfl
  | play => exact .of_command (List.cons_ne_nil _ _) rfl
  | setBufferLength =>
      exact .of_fits ⟨fun _ nothing => absurd nothing List.not_mem_nil, trivial⟩ (by decide) fun _ announces => by
        cases announces

theorem Setting.metaData_goesOut (setting : Setting) : GoesOut (.onMetaData setting.metaDataPacket) := by
  have quiet : rtmpMsgAmf0DataMessage ≠ rtmpMsgSetChunkSize := by decide
  exact .of_values (List.cons_ne_nil _ _) quiet

theorem releaseStream_goesOut (stream : List UInt8) :
    GoesOut (.fmleStart (RtmpFmleStartPacket.createReleaseStream stream)) :=
  .of_command (List.cons_ne_nil _ _) rfl

/-! ## What is logged behind the handshake -/

/-- The entries of the handshake. -/
def ClientEvent.IsHandshake : ClientEvent -> Prop
  | .sendC0C1 _ => True
  | .processS0S1S2 _ _ => True
  | .sendC2 _ => True
  | _ => False

/-- The entries that handlers and the application make. -/
inductive ClientEvent.Routine (setting : Setting) : ClientEvent -> Prop where
  | recvMessage (status : RtmpClientPushPullStatus) (requests : RequestsMap) (msg : RtmpMessage) :
      Routine setting (.recvMessage status requests msg)
  | connect {packet : RtmpPacket × Int32} (member : packet ∈ setting.connectGroup) :
      Routine setting (.sendPacket .own packet.1 packet.2)
  | createStream {packet : RtmpPacket × Int32} (member : packet ∈ setting.createStreamGroup setting.rtmpApp) :
      Routine setting (.sendPacket .own packet.1 packet.2)
  | start (streamid : Int32) {packet : RtmpPacket × Int32} (member : packet ∈ setting.startGroup streamid) :
      Routine setting (.sendPacket .own packet.1 packet.2)
  | metaData (streamid : Int32) :
      Routine setting (.sendPacket .own (.onMetaData setting.metaDataPacket) streamid)
  | stop (push : setting.dir = .push) (streamid : Int32) :
      Routine setting (.sendPacket .application
        (.fmleStart (RtmpFmleStartPacket.createReleaseStream setting.rtmpStream)) streamid)

/-- A session that has gone on. -/
structure Session.Grows (before after : Session) : Prop where
  setting : after.setting = before.setting
  status : after.status = before.status
  handshake : after.handshake = before.handshake
  trace : Exists fun more =>
    after.trace = before.trace ++ more ∧ forall event, event ∈ more -> event.Routine before.setting

namespace Session.Grows

/-- A change of the other members. -/
theorem quiet {before after : Session} (setting : after.setting = before.setting)
    (status : after.status = before.status) (handshake : after.handshake = before.handshake)
    (trace : after.trace = before.trace) : before.Grows after where
  setting := setting
  status := status
  handshake := handshake
  trace := ⟨[], by rw [List.append_nil, trace], List.forall_mem_nil _⟩

theorem refl (session : Session) : session.Grows session := quiet rfl rfl rfl rfl

theorem log (session : Session) {event : ClientEvent} (routine : event.Routine session.setting) :
    session.Grows (session.log event) where
  setting := rfl
  status := rfl
  handshake := rfl
  trace := ⟨[event], rfl, List.forall_mem_singleton.mpr routine⟩

theorem trans {first second third : Session} (grows : first.Grows second) (growsToo : second.Grows third) :
    first.Grows third where
  setting := growsToo.setting.trans grows.setting
  status := growsToo.status.trans grows.status
  handshake := growsToo.handshake.trans grows.handshake
  trace := by
    rcases grows.trace with ⟨more, appended, routine⟩
    rcases growsToo.trace with ⟨most, appendedToo, routineToo⟩
    refine ⟨more ++ most, ?_, ?_⟩
    · rw [appendedToo, appended, List.append_assoc]
    · intro event member
      rcases List.mem_append.mp member with early | late
      · exact routine event early
      · rw [← grows.setting]
        exact routineToo event late

end Session.Grows

namespace Agent

theorem sendRtmpPacket_grows (agent : Agent) {origin : Origin} {packet : RtmpPacket} {streamid : Int32}
    (routine : (ClientEvent.sendPacket origin packet streamid).Routine agent.rest.setting) :
    agent.rest.Grows (agent.sendRtmpPacket origin packet streamid).rest := by
  rw [sendRtmpPacket]
  split
  · exact .refl agent.rest
  · split
    · exact .quiet rfl rfl rfl rfl
    · cases packet.payload.isSome with
      | false => exact .refl agent.rest
      | true => exact .log agent.rest routine

theorem sendAll_grows (agent : Agent) {packets : List (RtmpPacket × Int32)}
    (routine : forall packet, packet ∈ packets ->
      (ClientEvent.sendPacket .own packet.1 packet.2).Routine agent.rest.setting) :
    agent.rest.Grows (agent.sendAll packets).rest := by
  induction packets generalizing agent with
  | nil => exact .refl agent.rest
  | cons packet packets inductionHypothesis =>
      have first := agent.sendRtmpPacket_grows (routine packet List.mem_cons_self)
      refine first.trans (inductionHypothesis _ fun later member => ?_)
      rw [first.setting]
      exact routine later (List.mem_cons_of_mem packet member)

theorem connectApp_grows (agent : Agent) : agent.rest.Grows agent.connectApp.rest :=
  (agent.sendAll_grows fun _ member => .connect member).trans (.quiet rfl rfl rfl rfl)

theorem createStream_grows (agent : Agent) :
    agent.rest.Grows (agent.createStream agent.rest.setting.rtmpApp).rest :=
  (agent.sendAll_grows fun _ member => .createStream member).trans (.quiet rfl rfl rfl rfl)

theorem startStream_grows (agent : Agent) : agent.rest.Grows agent.startStream.rest :=
  (agent.sendAll_grows fun _ member => .start agent.rest.streamid member).trans (.quiet rfl rfl rfl rfl)

theorem onStatus_grows (value : List UInt8) (agent : Agent) :
    agent.rest.Grows (agent.onStatus value).rest := by
  rw [onStatus]
  split
  · split
    · apply sendAll_grows
      intro packet member
      rw [List.mem_singleton] at member
      rw [member]
      exact .metaData agent.rest.streamid
    · exact .refl agent.rest
  · split
    · exact .quiet rfl rfl rfl rfl
    · exact .refl agent.rest

theorem handle_grows (packet : RtmpPacket) (agent : Agent) : agent.rest.Grows (agent.handle packet).rest := by
  unfold handle
  split
  · split
    · exact agent.createStream_grows
    · exact .refl agent.rest
  · split
    next answer =>
      have answered : agent.rest.Grows (agent.setStreamid answer.streamid).rest := .quiet rfl rfl rfl rfl
      exact answered.trans (agent.setStreamid answer.streamid).startStream_grows
    · exact .refl agent.rest
  · split
    · split
      · split
        · exact .quiet rfl rfl rfl rfl
        · exact agent.onStatus_grows _
      · exact .refl agent.rest
    · exact .refl agent.rest

theorem receive_grows (arrival : Arrival) (agent : Agent) :
    agent.rest.Grows (agent.receive arrival).rest := by
  rw [receive]
  split
  · exact .refl agent.rest
  · have logged : agent.rest.Grows
        (agent.log (.recvMessage agent.rest.pushPullStatus arrival.requests arrival.msg)).rest :=
      .log agent.rest (.recvMessage _ _ _)
    split
    · exact logged.trans (handle_grows _ _)
    · exact logged
    · exact logged
    · exact logged.trans (.quiet rfl rfl rfl rfl)

end Agent

namespace LiveClient

/-- A call that sets its message aside. -/
theorem recvRtmpMessage_arrived {transport : RtmpMessageTransport} {data : List UInt8} {call : RecvCall Arrival}
    (called : recvRtmpMessage Arrival.arrived transport data = some call) : Exists fun result =>
      recvUndecoded transport data = some result ∧ call.ret = result.ret ∧ call.transport = result.transport ∧
        forall arrival, call.packet = some arrival -> arrival.requests = call.transport.requestsMap := by
  rcases recvRtmpMessage_undecoded called with ⟨result, undecoded, decoded, ret, same⟩
  refine ⟨result, undecoded, ret, same, ?_⟩
  rw [RecvResult.decoded] at decoded
  split at decoded
  · rw [← Option.some.inj decoded]
    exact fun _ none => by cases none
  · rw [← Option.some.inj decoded]
    exact fun _ found => by rw [← Option.some.inj found]

/-- The rule for a read behind the handshake: what the receive side and the
handling of each message keep, the read keeps. -/
theorem onRecvData_invariant {invariant : Agent -> Prop}
    (moved : forall agent data result, invariant agent ->
      recvUndecoded agent.rtmpTransport data = some result ->
      invariant { agent with rtmpTransport := result.transport })
    (acted : forall agent arrival, invariant agent -> arrival.requests = agent.rtmpTransport.requestsMap ->
      invariant (agent.receive arrival))
    {client after : LiveClient} {data : List UInt8} (done : client.rest.status = .sendC2)
    (initially : invariant client.agent) (received : client.onRecvData data = some after) :
    invariant after.agent := by
  rw [onRecvData, done] at received
  rcases Option.map_eq_some_iff.mp received with ⟨⟨left, events⟩, ran, same⟩
  rw [← same]
  have moves : forall (agent : Agent) data (call : RecvCall Arrival), invariant agent ->
      recvRtmpMessage Arrival.arrived agent.rtmpTransport data = some call ->
        invariant { agent with rtmpTransport := call.transport } := by
    intro agent data call kept called
    rcases recvRtmpMessage_arrived called with ⟨result, undecoded, _, same, _⟩
    rw [same]
    exact moved agent data result kept undecoded
  refine @processData_invariant _ _ _ _ invariant (fun agent _ call kept called _ => moves agent _ call kept called)
    ?_ client left data events initially ran
  intro agent data call kept called _
  have here := moves agent data call kept called
  rcases recvRtmpMessage_arrived called with ⟨_, _, _, _, requests⟩
  simp only [afterPacket]
  cases found : call.packet with
  | none => exact here
  | some arrival => exact acted _ arrival here (requests arrival found)

/-- A read during the handshake. -/
theorem onRecvData_handshake {client : LiveClient} {data : List UInt8} (notDone : client.rest.status ≠ .sendC2) :
    client.onRecvData data = some (client.doHandshake data) := by
  rw [onRecvData]
  split
  next done => exact absurd done notDone
  · rfl

/-- A read behind the handshake. -/
theorem onRecvData_grows {client after : LiveClient} {data : List UInt8}
    (done : client.rest.status = .sendC2) (received : client.onRecvData data = some after) :
    client.rest.Grows after.rest :=
  @onRecvData_invariant (fun agent => client.rest.Grows agent.rest) (fun _ _ _ grown _ => grown)
    (fun agent arrival grown _ => grown.trans (agent.receive_grows arrival)) client after data done
    (.refl client.rest) received

/-- What a read behind the handshake leaves, the next call does not take. -/
theorem onRecvData_settled {client after : LiveClient} {data : List UInt8}
    (done : client.rest.status = .sendC2) (received : client.onRecvData data = some after) :
    ¬ Exists fun result =>
      recvUndecoded after.rtmpTransport after.dataCache.bytes = some result ∧ 0 ≤ result.ret := by
  rw [onRecvData, done] at received
  rcases Option.map_eq_some_iff.mp received with ⟨⟨left, events⟩, ran, same⟩
  rw [← same]
  rintro ⟨result, call, success⟩
  rcases processData_settled _ _ ran with empty | ⟨failed, callToo, negative⟩
  · rw [empty] at call
    cases call
  · rcases recvRtmpMessage_undecoded callToo with ⟨found, foundToo, _, ret, _⟩
    rw [foundToo, Option.some.injEq] at call
    rw [ret, call] at negative
    exact absurd success (Int.not_le.mpr negative)

theorem stop_grows (client : LiveClient) : client.rest.Grows client.stop.rest := by
  rw [stop]
  split
  next push => exact client.agent.sendRtmpPacket_grows (.stop push _)
  · exact .refl client.rest

/-! ## What is logged in a run -/

/-- The session is the one of the setting, and its log has nothing but the
handshake and what handlers and the application make. -/
structure Logged (setting : Setting) (client : LiveClient) : Prop where
  given : client.rest.setting = setting
  entries : forall event, event ∈ client.rest.trace -> event.IsHandshake ∨ event.Routine setting

variable {setting : Setting} {client after : LiveClient}

theorem Logged.grows (logged : client.Logged setting) (grows : client.rest.Grows after.rest) :
    after.Logged setting where
  given := grows.setting.trans logged.given
  entries := by
    rcases grows.trace with ⟨more, appended, routine⟩
    rw [logged.given] at routine
    intro event member
    rw [appended, List.mem_append] at member
    rcases member with early | late
    · exact logged.entries event early
    · exact Or.inr (routine event late)

theorem Logged.handshake (logged : client.Logged setting) (same : after.rest.setting = client.rest.setting)
    {event : ClientEvent} (handshake : event.IsHandshake)
    (appended : after.rest.trace = client.rest.trace ++ [event]) : after.Logged setting where
  given := same.trans logged.given
  entries := by
    intro other member
    rw [appended, List.mem_append, List.mem_singleton] at member
    rcases member with early | last
    · exact logged.entries other early
    · rw [last]
      exact Or.inl handshake

theorem Logged.answerReply (logged : client.Logged setting) : client.answerReply.Logged setting := by
  let parsed := client.withAgent
    (client.agent.log (.processS0S1S2 client.rest.handshake client.dataCache.bytes))
  have event : (ClientEvent.processS0S1S2 client.rest.handshake client.dataCache.bytes).IsHandshake := trivial
  have parsedToo : parsed.Logged setting := logged.handshake rfl event rfl
  unfold LiveClient.answerReply
  simp only
  split
  · split
    next handshake _ =>
      let greeted : LiveClient :=
        { parsed with
          rest := { parsed.rest.log (.sendC2 handshake.c2) with handshake, status := .sendC2 }
          dataCache := parsed.dataCache.popData 3073 }
      have event : (ClientEvent.sendC2 handshake.c2).IsHandshake := trivial
      have greetedToo : greeted.Logged setting := parsedToo.handshake rfl event rfl
      exact greetedToo.grows greeted.agent.connectApp_grows
    · exact ⟨parsedToo.given, parsedToo.entries⟩
  · exact ⟨parsedToo.given, parsedToo.entries⟩

theorem Logged.doHandshake (logged : client.Logged setting) (data : List UInt8) :
    (client.doHandshake data).Logged setting := by
  rw [LiveClient.doHandshake]
  split
  · simp only
    split
    next handshake _ =>
      have event : (ClientEvent.sendC0C1 handshake.c0c1).IsHandshake := trivial
      exact logged.handshake rfl event rfl
    · exact ⟨logged.given, logged.entries⟩
  · let cached : LiveClient := { client with dataCache := client.dataCache.pushData data }
    have cachedToo : cached.Logged setting := ⟨logged.given, logged.entries⟩
    simp only
    split
    · exact cachedToo.answerReply
    · exact cachedToo
  · exact logged

theorem Logged.clientStep (logged : client.Logged setting) {input : ClientInput}
    (taken : clientStep client input = some after) : after.Logged setting := by
  cases input with
  | recv data =>
      rw [Client.clientStep] at taken
      split at taken
      · cases taken
      · by_cases done : client.rest.status = .sendC2
        · exact logged.grows (onRecvData_grows done taken)
        · rw [onRecvData_handshake done, Option.some.injEq] at taken
          rw [← taken]
          exact logged.doHandshake data
  | stop =>
      rw [Client.clientStep] at taken
      split at taken
      · cases taken
      · rw [← Option.some.inj taken]
        exact logged.grows client.stop_grows

/-- Every entry of the log of a run. -/
theorem run_logged {handshake : RtmpHandshake} {streamid : Int32} {havestop : Bool} {stale : UInt32 -> UInt32}
    {inputs : List ClientInput}
    (ran : runAll clientStep (connected setting handshake streamid havestop stale) inputs = some client) :
    client.Logged setting := by
  have start : (connected setting handshake streamid havestop stale).Logged setting := by
    refine ⟨rfl, ?_⟩
    intro event member
    rw [List.mem_singleton.mp member]
    exact Or.inl trivial
  exact runAll_invariant (fun _ _ _ kept taken => Logged.clientStep kept taken) start ran

end LiveClient

end Client
end RtmpClient
