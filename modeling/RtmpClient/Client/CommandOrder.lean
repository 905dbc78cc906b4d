import RtmpClient.Client.Conversation

namespace RtmpClient
namespace Client

open Library Net Amf0 Rtmp

/-!
# The order of the client's commands

connect and the acknowledgement window go out behind the handshake, the group of
createStream on the answer to connect, and the group of publish or play on the
answer to createStream.  Answers are told by the numbers that the transport has
recorded for its requests.
-/

/-! ## What a log says -/

/-- Sound, pictures and their metadata, which are no commands. -/
def isMedia (packet : RtmpPacket) : Bool :=
  packet.getMsgType = rtmpMsgAudioMessage || packet.getMsgType = rtmpMsgVideoMessage ||
    packet.getMsgType = rtmpMsgAmf0DataMessage

/-- A command that the client sends by itself. -/
def ClientEvent.ownCommand : ClientEvent -> Option (RtmpPacket × Int32)
  | .sendPacket .own packet streamid => if isMedia packet then none else some (packet, streamid)
  | _ => none

def ownCommands (trace : List ClientEvent) : List (RtmpPacket × Int32) :=
  trace.filterMap ClientEvent.ownCommand

/-- A `_result` whose number was recorded for connect has been decoded. -/
def ConnectAnswered (before : List ClientEvent) : Prop :=
  Exists fun status => Exists fun requests => Exists fun msg => Exists fun response =>
    ClientEvent.recvMessage status requests msg ∈ before ∧
      messagePacket requests msg = .ok (some (.connectResponse response)) ∧
      response.commandName = ascii "_result" ∧
      RequestsMap.Recorded requests response.number (ascii "connect")

/-- A `_result` whose number was recorded for createStream, and which carries
this stream id, has been decoded. -/
def CreateStreamAnswered (before : List ClientEvent) (streamid : Int32) : Prop :=
  Exists fun status => Exists fun requests => Exists fun msg => Exists fun response =>
    ClientEvent.recvMessage status requests msg ∈ before ∧
      messagePacket requests msg = .ok (some (.createStreamResponse response)) ∧
      response.commandName = ascii "_result" ∧
      RequestsMap.Recorded requests response.number (ascii "createStream") ∧
      Double.toInt32 response.streamid = some streamid

/-- publish and play. -/
def StartsStream : RtmpPacket -> Prop
  | .publish _ => True
  | .play _ => True
  | _ => False

/-- What must stand in front of a packet that the client sends by itself. -/
structure PacketCaused (setting : Setting) (before : List ClientEvent) (packet : RtmpPacket)
    (streamid : Int32) : Prop where
  createStream : (packet, streamid) ∈ setting.createStreamGroup setting.rtmpApp -> ConnectAnswered before
  start : forall carried, (packet, streamid) ∈ setting.startGroup carried ->
    Exists fun answered => CreateStreamAnswered before answered
  onStream : StartsStream packet -> CreateStreamAnswered before streamid

/-- The same for every entry of a log. -/
def EventCaused (setting : Setting) (before : List ClientEvent) : ClientEvent -> Prop
  | .sendPacket .own packet streamid => PacketCaused setting before packet streamid
  | _ => True

/-- The commands are a prefix of the script, and each group comes behind its
answer. -/
structure CommandOrder (setting : Setting) (trace : List ClientEvent) : Prop where
  script : Exists fun streamid => ownCommands trace <+:
    setting.connectGroup ++ setting.createStreamGroup setting.rtmpApp ++ setting.startGroup streamid
  caused : Caused (EventCaused setting) trace

/-- The answer to createStream that a client waits for carries an id that an `int`
can hold. -/
def AnswerUsable (status : RtmpClientPushPullStatus) (packet : RtmpPacket) : Prop :=
  match status, packet with
  | .createStream, .createStreamResponse response => Double.toInt32 response.streamid ≠ none
  | _, _ => True

/-- Every message that has arrived is usable in the status that it arrived in. -/
def UsableAnswers (trace : List ClientEvent) : Prop :=
  forall status requests msg packet, .recvMessage status requests msg ∈ trace ->
    messagePacket requests msg = .ok (some packet) -> AnswerUsable status packet

/-! ## The groups -/

/-- The group that a packet belongs to. -/
def commandGroup : RtmpPacket -> Option RtmpClientPushPullStatus
  | .connect _ => some .connectApp
  | .setWindowAckSize _ => some .connectApp
  | .fmleStart _ => some .createStream
  | .createStream _ => some .createStream
  | .call packet => if packet.commandName = ascii "_checkbw" then some .createStream else some .pushOrPull
  | .setChunkSize _ => some .pushOrPull
  | .publish _ => some .pushOrPull
  | .play _ => some .pushOrPull
  | .userControl _ => some .pushOrPull
  | _ => none

theorem Setting.connectGroup_group (setting : Setting) :
    forall packet, packet ∈ setting.connectGroup -> commandGroup packet.1 = some .connectApp := by
  intro packet member
  simp only [Setting.connectGroup, List.mem_cons, List.not_mem_nil, or_false] at member
  rcases member with rfl | rfl <;> rfl

theorem Setting.createStreamGroup_group (setting : Setting) (stream : List UInt8) :
    forall packet, packet ∈ setting.createStreamGroup stream -> commandGroup packet.1 = some .createStream := by
  intro packet member
  cases Setting.mem_createStreamGroup member with
  | releaseStream => rfl
  | fcPublish => rfl
  | createToPush => rfl
  | createToPull => rfl
  | checkBw => rfl

theorem Setting.startGroup_group (setting : Setting) (streamid : Int32) :
    forall packet, packet ∈ setting.startGroup streamid ->
      commandGroup packet.1 = some .pushOrPull ∧ (StartsStream packet.1 -> packet.2 = streamid) := by
  intro packet member
  cases Setting.mem_startGroup member with
  | setChunkSize => exact ⟨rfl, False.elim⟩
  | publish => exact ⟨rfl, fun _ => rfl⟩
  | getStreamLength => exact ⟨rfl, False.elim⟩
  | play => exact ⟨rfl, fun _ => rfl⟩
  | setBufferLength => exact ⟨rfl, False.elim⟩

theorem commandGroup_not_media {packet : RtmpPacket} {group : RtmpClientPushPullStatus}
    (command : commandGroup packet = some group) : isMedia packet = false := by
  cases packet with
  | audio _ => cases command
  | avc _ => cases command
  | video _ => cases command
  | onStatusData _ => cases command
  | sampleAccess _ => cases command
  | onMetaData _ => cases command
  | _ => rfl

/-- A group is what its entries say. -/
theorem ownCommands_group {packets : List (RtmpPacket × Int32)} {group : RtmpClientPushPullStatus}
    (commands : forall packet, packet ∈ packets -> commandGroup packet.1 = some group) :
    ownCommands (packets.map fun packet => .sendPacket .own packet.1 packet.2) = packets := by
  induction packets with
  | nil => rfl
  | cons packet packets inductionHypothesis =>
      have others := inductionHypothesis fun later member => commands later (List.mem_cons_of_mem packet member)
      have first : ClientEvent.ownCommand (.sendPacket .own packet.1 packet.2) = some packet := by
        rw [ClientEvent.ownCommand, commandGroup_not_media (commands packet List.mem_cons_self)]
        rfl
      rw [List.map_cons, ownCommands, List.filterMap_cons_some first]
      exact congrArg (packet :: ·) others

theorem ownCommands_append (first second : List ClientEvent) :
    ownCommands (first ++ second) = ownCommands first ++ ownCommands second :=
  List.filterMap_append

/-! ## The causes of the groups -/

section Causes

variable {setting : Setting} {before : List ClientEvent}

theorem ConnectAnswered.mono (answered : ConnectAnswered before) (more : List ClientEvent) :
    ConnectAnswered (before ++ more) := by
  rcases answered with ⟨status, requests, msg, response, member, facts⟩
  exact ⟨status, requests, msg, response, List.mem_append_left more member, facts⟩

theorem CreateStreamAnswered.mono {streamid : Int32} (answered : CreateStreamAnswered before streamid)
    (more : List ClientEvent) : CreateStreamAnswered (before ++ more) streamid := by
  rcases answered with ⟨status, requests, msg, response, member, facts⟩
  exact ⟨status, requests, msg, response, List.mem_append_left more member, facts⟩

/-- A cause remains one in a longer log. -/
theorem EventCaused.mono {event : ClientEvent} (caused : EventCaused setting before event)
    (more : List ClientEvent) : EventCaused setting (before ++ more) event := by
  cases event with
  | sendPacket origin packet streamid =>
      cases origin with
      | own =>
          have packetCaused : PacketCaused setting before packet streamid := caused
          refine PacketCaused.mk ?_ ?_ ?_
          · intro member
            exact (packetCaused.createStream member).mono more
          · intro carried member
            rcases packetCaused.start carried member with ⟨answered, facts⟩
            exact ⟨answered, facts.mono more⟩
          · intro starts
            exact (packetCaused.onStream starts).mono more
      | application => exact trivial
  | _ => exact trivial

/-- A packet of no later group needs no cause. -/
theorem PacketCaused.of_group {packet : RtmpPacket} {streamid : Int32}
    (notCreate : commandGroup packet ≠ some .createStream) (notStart : commandGroup packet ≠ some .pushOrPull) :
    PacketCaused setting before packet streamid where
  createStream member := absurd (setting.createStreamGroup_group _ _ member) notCreate
  start carried member := absurd (setting.startGroup_group carried _ member).1 notStart
  onStream starts := by
    cases packet with
    | publish _ => exact absurd rfl notStart
    | play _ => exact absurd rfl notStart
    | _ => exact False.elim starts

theorem connectGroup_caused : forall packet, packet ∈ setting.connectGroup ->
    PacketCaused setting before packet.1 packet.2 := by
  intro packet member
  have group := setting.connectGroup_group packet member
  apply PacketCaused.of_group
  · rw [group]
    decide
  · rw [group]
    decide

theorem createStreamGroup_caused (answered : ConnectAnswered before) :
    forall packet, packet ∈ setting.createStreamGroup setting.rtmpApp ->
      PacketCaused setting before packet.1 packet.2 := by
  intro packet member
  have group := setting.createStreamGroup_group setting.rtmpApp packet member
  have notStart : commandGroup packet.1 ≠ some .pushOrPull := by
    rw [group]
    decide
  refine ⟨fun _ => answered, ?_, ?_⟩
  · intro carried memberToo
    exact absurd (setting.startGroup_group carried _ memberToo).1 notStart
  · intro starts
    rcases packet with ⟨packet, streamid⟩
    cases packet with
    | publish _ => exact absurd rfl notStart
    | play _ => exact absurd rfl notStart
    | _ => exact False.elim starts

theorem startGroup_caused {streamid : Int32} (answered : CreateStreamAnswered before streamid) :
    forall packet, packet ∈ setting.startGroup streamid -> PacketCaused setting before packet.1 packet.2 := by
  intro packet member
  have group := setting.startGroup_group streamid packet member
  refine ⟨?_, fun _ _ => ⟨streamid, answered⟩, ?_⟩
  · intro memberToo
    have other := setting.createStreamGroup_group setting.rtmpApp _ memberToo
    rw [group.1] at other
    cases other
  · intro starts
    rw [group.2 starts]
    exact answered

/-- A group may follow a log that has its cause. -/
theorem caused_group (caused : Caused (EventCaused setting) before) {packets : List (RtmpPacket × Int32)}
    (causes : forall packet, packet ∈ packets -> PacketCaused setting before packet.1 packet.2) :
    Caused (EventCaused setting)
      (before ++ packets.map fun packet => .sendPacket .own packet.1 packet.2) := by
  refine caused.append (fun _ more _ cause => cause.mono more) ?_
  intro event member
  rcases List.mem_map.mp member with ⟨packet, memberToo, same⟩
  rw [← same]
  exact causes packet memberToo

/-- So may an entry that sends nothing. -/
theorem caused_log (caused : Caused (EventCaused setting) before) {event : ClientEvent}
    (cause : EventCaused setting before event) : Caused (EventCaused setting) (before ++ [event]) := by
  refine caused.append (fun _ more _ cause => cause.mono more) ?_
  intro other member
  rw [List.mem_singleton] at member
  rw [member]
  exact cause

end Causes

/-! ## What the client keeps to -/

/-- What is sent up to a status. -/
def Setting.script (setting : Setting) (streamid : Int32) : RtmpClientPushPullStatus -> List (RtmpPacket × Int32)
  | .connectApp => setting.connectGroup
  | .createStream => setting.connectGroup ++ setting.createStreamGroup setting.rtmpApp
  | .pushOrPull =>
      setting.connectGroup ++ setting.createStreamGroup setting.rtmpApp ++ setting.startGroup streamid

theorem Setting.script_prefix (setting : Setting) (streamid : Int32) (status : RtmpClientPushPullStatus) :
    setting.script streamid status <+:
      setting.connectGroup ++ setting.createStreamGroup setting.rtmpApp ++ setting.startGroup streamid := by
  cases status with
  | connectApp => exact (List.prefix_append _ _).trans (List.prefix_append _ _)
  | createStream => exact List.prefix_append _ _
  | pushOrPull => exact List.prefix_refl _

theorem UsableAnswers.of_append {trace more : List ClientEvent} (usable : UsableAnswers (trace ++ more)) :
    UsableAnswers trace :=
  fun status requests msg packet member =>
    usable status requests msg packet (List.mem_append_left more member)

namespace Agent

/-- What holds of the client before and behind the handshake. -/
structure Ordered (setting : Setting) (agent : Agent) : Prop where
  given : agent.rest.setting = setting
  positive : 0 < agent.rtmpTransport.outChunkSize.toNat
  caused : UsableAnswers agent.rest.trace -> Caused (EventCaused setting) agent.rest.trace

/-- What holds of it behind the handshake. -/
structure Scripted (setting : Setting) (agent : Agent) : Prop extends Ordered setting agent where
  status : agent.rest.status = .sendC2
  commands : ownCommands agent.rest.trace = setting.script agent.rest.streamid agent.rest.pushPullStatus

variable {setting : Setting} {agent : Agent}

/-- A group of packets that have their cause. -/
theorem Ordered.sendAll (ordered : agent.Ordered setting) (running : agent.rest.halted = false)
    {packets : List (RtmpPacket × Int32)} (goesOut : forall packet, packet ∈ packets -> GoesOut packet.1)
    (causes : UsableAnswers agent.rest.trace -> forall packet, packet ∈ packets ->
      PacketCaused setting agent.rest.trace packet.1 packet.2) :
    (agent.sendAll packets).Ordered setting ∧
      (agent.sendAll packets).rest = { agent.rest with
        trace := agent.rest.trace ++ packets.map fun packet => .sendPacket .own packet.1 packet.2 } := by
  rcases sendAll_eq ⟨running, ordered.positive⟩ goesOut with ⟨all, ready⟩
  have rest := agent.sentAll_trace packets
  rw [all]
  refine ⟨⟨?_, ready.positive, ?_⟩, rest⟩
  · rw [rest]
    exact ordered.given
  · rw [rest]
    intro usable
    exact caused_group (ordered.caused usable.of_append) (causes usable.of_append)

/-- The group of connect, which nothing has to precede. -/
theorem Ordered.connectApp (ordered : agent.Ordered setting) (running : agent.rest.halted = false)
    (status : agent.rest.status = .sendC2) (quiet : ownCommands agent.rest.trace = []) :
    agent.connectApp.Scripted setting := by
  rcases ordered.sendAll running setting.connectGroup_goesOut (fun _ => connectGroup_caused) with ⟨sent, rest⟩
  rw [Agent.connectApp, ordered.given]
  refine ⟨⟨sent.given, sent.positive, sent.caused⟩, ?_, ?_⟩
  · exact (congrArg Session.status rest).trans status
  · refine (congrArg (fun session => ownCommands session.trace) rest).trans ?_
    simp only [ownCommands_append, quiet, List.nil_append]
    exact ownCommands_group setting.connectGroup_group

namespace Scripted

/-- The group of createStream, behind an answer to connect. -/
theorem createStream (scripted : agent.Scripted setting) (running : agent.rest.halted = false)
    (status : agent.rest.pushPullStatus = .connectApp)
    (answered : UsableAnswers agent.rest.trace -> ConnectAnswered agent.rest.trace) :
    (agent.createStream agent.rest.setting.rtmpApp).Scripted setting := by
  rw [scripted.given]
  rcases scripted.sendAll running (setting.createStreamGroup_goesOut setting.rtmpApp)
    (fun usable => createStreamGroup_caused (answered usable)) with ⟨sent, rest⟩
  rw [Agent.createStream, scripted.given]
  refine ⟨⟨sent.given, sent.positive, sent.caused⟩, ?_, ?_⟩
  · exact (congrArg Session.status rest).trans scripted.status
  · refine (congrArg (fun session => ownCommands session.trace) rest).trans ?_
    simp only [ownCommands_append, scripted.commands, status, Setting.script]
    rw [ownCommands_group (setting.createStreamGroup_group setting.rtmpApp)]
    rfl

/-- The group of publish or play, behind an answer to createStream. -/
theorem startStream (scripted : agent.Scripted setting) (running : agent.rest.halted = false)
    (status : agent.rest.pushPullStatus = .createStream)
    (answered : UsableAnswers agent.rest.trace ->
      CreateStreamAnswered agent.rest.trace agent.rest.streamid) :
    agent.startStream.Scripted setting := by
  rcases scripted.sendAll running (setting.startGroup_goesOut agent.rest.streamid)
    (fun usable => startGroup_caused (answered usable)) with ⟨sent, rest⟩
  have streamid : (agent.sendAll (setting.startGroup agent.rest.streamid)).rest.streamid = agent.rest.streamid := by
    rw [rest]
  rw [Agent.startStream, scripted.given]
  refine ⟨⟨sent.given, sent.positive, sent.caused⟩, ?_, ?_⟩
  · exact (congrArg Session.status rest).trans scripted.status
  · refine (congrArg (fun session => ownCommands session.trace) rest).trans ?_
    simp only [ownCommands_append, scripted.commands, status, Setting.script, Agent.setPushPullStatus, streamid]
    rw [ownCommands_group fun packet member => (setting.startGroup_group _ packet member).1]

/-- Metadata, which is no command. -/
theorem onStatus (scripted : agent.Scripted setting) (running : agent.rest.halted = false)
    (value : List UInt8) : (agent.onStatus value).Scripted setting := by
  rw [Agent.onStatus]
  split
  · split
    · have single : forall packet,
          packet ∈ [((.onMetaData agent.rest.setting.metaDataPacket : RtmpPacket), agent.rest.streamid)] ->
            packet = (.onMetaData agent.rest.setting.metaDataPacket, agent.rest.streamid) :=
        fun packet member => List.mem_singleton.mp member
      rcases scripted.sendAll running
        (fun packet member => by
          rw [single packet member]
          exact agent.rest.setting.metaData_goesOut)
        (fun _ packet member => by
          rw [single packet member]
          have none : commandGroup (.onMetaData agent.rest.setting.metaDataPacket) = none := rfl
          apply PacketCaused.of_group
          · rw [none]
            decide
          · rw [none]
            decide) with ⟨sent, rest⟩
      refine ⟨sent, ?_, ?_⟩
      · exact (congrArg Session.status rest).trans scripted.status
      · rw [rest]
        simp only [ownCommands_append, scripted.commands]
        exact List.append_nil _
    · exact scripted
  · split
    · exact ⟨⟨scripted.given, scripted.positive, scripted.caused⟩, scripted.status,
        scripted.commands⟩
    · exact scripted

theorem halt (scripted : agent.Scripted setting) :
    Scripted setting { agent with rest := agent.rest.halt } :=
  ⟨⟨scripted.given, scripted.positive, scripted.caused⟩, scripted.status,
    scripted.commands⟩

/-- The message that has just arrived is acted on. -/
theorem handle (scripted : agent.Scripted setting) (running : agent.rest.halted = false) {msg : RtmpMessage}
    {packet : RtmpPacket}
    (arrived : .recvMessage agent.rest.pushPullStatus agent.rtmpTransport.requestsMap msg ∈ agent.rest.trace)
    (handed : messagePacket agent.rtmpTransport.requestsMap msg = .ok (some packet)) :
    (agent.handle packet).Scripted setting := by
  unfold Agent.handle
  split
  next status =>
    split
    next response =>
      refine scripted.createStream running status fun usable => ?_
      have answer := connectResponse_found handed
      exact ⟨_, _, msg, response, arrived, handed, answer.1, RequestsMap.find_recorded answer.2⟩
    · exact scripted
  next status =>
    split
    next response =>
      have answer := createStreamResponse_found handed
      have stored : (agent.setStreamid response.streamid).Scripted setting :=
        ⟨⟨scripted.given, scripted.positive, scripted.caused⟩, scripted.status, by
            have commands := scripted.commands
            rw [status] at commands
            refine commands.trans ?_
            simp only [Agent.setStreamid, status, Setting.script]⟩
      refine stored.startStream running status fun usable => ?_
      have usableId := usable _ _ _ _ arrived handed
      rw [status] at usableId
      rcases Option.ne_none_iff_exists'.mp usableId with ⟨streamid, converted⟩
      have carried : (agent.setStreamid response.streamid).rest.streamid = streamid :=
        congrArg (fun value => Option.getD value (agent.rest.setting.outOfRange response.streamid)) converted
      refine ⟨_, _, msg, response, arrived, handed, answer.1, RequestsMap.find_recorded answer.2, ?_⟩
      rw [converted, carried]
    · exact scripted
  · split
    · split
      · split
        · exact scripted.halt
        · exact scripted.onStatus running _
      · exact scripted
    · exact scripted

theorem receive (scripted : agent.Scripted setting) {arrival : Arrival}
    (same : arrival.requests = agent.rtmpTransport.requestsMap) : (agent.receive arrival).Scripted setting := by
  rw [Agent.receive]
  split
  · exact scripted
  next halted =>
    let event : ClientEvent := .recvMessage agent.rest.pushPullStatus arrival.requests arrival.msg
    have logged : (agent.log event).Scripted setting := by
      refine ⟨⟨scripted.given, scripted.positive, ?_⟩, scripted.status, ?_⟩
      · intro usable
        exact caused_log (scripted.caused usable.of_append) trivial
      · refine (ownCommands_append _ _).trans ?_
        rw [scripted.commands]
        exact List.append_nil _
    have arrived : event ∈ (agent.log event).rest.trace := List.mem_append_right _ List.mem_cons_self
    split
    next packet handed =>
      simp only [event, same] at arrived
      rw [Arrival.packet, same] at handed
      exact logged.handle (Bool.eq_false_iff.mpr halted) (same ▸ arrived) handed
    · exact logged
    · exact logged
    · exact logged.halt

end Scripted

end Agent

/-! ## Runs -/

namespace LiveClient

/-- The client has sent C0C1, and no command by itself. -/
structure Silent (setting : Setting) (client : LiveClient) : Prop where
  status : client.rest.status = .sendC0C1
  ordered : client.agent.Ordered setting
  quiet : ownCommands client.rest.trace = []

/-- What every client of a run keeps to. -/
def Keeping (setting : Setting) (client : LiveClient) : Prop :=
  client.Silent setting ∨ client.agent.Scripted setting

variable {setting : Setting} {client after : LiveClient}

/-- An entry that sends nothing. -/
theorem ordered_log {agent : Agent} (ordered : agent.Ordered setting) {event : ClientEvent}
    (caused : forall before, EventCaused setting before event) : (agent.log event).Ordered setting :=
  ⟨ordered.given, ordered.positive,
    fun usable => caused_log (ordered.caused usable.of_append) (caused _)⟩

theorem Silent.answerReply (silent : client.Silent setting) (running : client.rest.halted = false) :
    client.answerReply.Keeping setting := by
  have quiet (event : ClientEvent) (none : event.ownCommand = none) (trace : List ClientEvent)
      (nothing : ownCommands trace = []) : ownCommands (trace ++ [event]) = [] := by
    rw [ownCommands_append, nothing, List.nil_append, ownCommands, List.filterMap_cons_none none]
    rfl
  let processed : ClientEvent := .processS0S1S2 client.rest.handshake client.dataCache.bytes
  have parsed : (client.agent.log processed).Ordered setting := ordered_log silent.ordered fun _ => trivial
  have parsedQuiet := quiet processed rfl client.rest.trace silent.quiet
  unfold LiveClient.answerReply
  simp only
  split
  · split
    next result _ handshake _ =>
      have answered : ((client.agent.log processed).log (.sendC2 handshake.c2)).Ordered setting :=
        ordered_log parsed fun _ => trivial
      have answeredQuiet := quiet (.sendC2 handshake.c2) rfl _ parsedQuiet
      let greeted : Agent :=
        { rtmpTransport := client.rtmpTransport
          rest := { (client.rest.log processed).log (.sendC2 handshake.c2) with handshake, status := .sendC2 } }
      have ordered : greeted.Ordered setting :=
        ⟨answered.given, answered.positive, answered.caused⟩
      exact Or.inr (ordered.connectApp running rfl answeredQuiet)
    · exact Or.inl ⟨silent.status, ⟨parsed.given, parsed.positive, parsed.caused⟩, parsedQuiet⟩
  · exact Or.inl ⟨silent.status, ⟨parsed.given, parsed.positive, parsed.caused⟩, parsedQuiet⟩

theorem Silent.onRecvData (silent : client.Silent setting) (running : client.rest.halted = false)
    {data : List UInt8} (received : client.onRecvData data = some after) : after.Keeping setting := by
  simp only [LiveClient.onRecvData, silent.status, LiveClient.doHandshake, Option.some.injEq] at received
  rw [← received]
  let cached : LiveClient := { client with dataCache := client.dataCache.pushData data }
  have silentToo : cached.Silent setting := ⟨silent.status, silent.ordered, silent.quiet⟩
  split
  · exact silentToo.answerReply running
  · exact Or.inl silentToo

/-- The releaseStream of `stop`, which only a push client sends. -/
theorem stop_cases (client : LiveClient) : client.stop = client ∨
    client.rest.setting.dir = .push ∧ client.stop = client.withAgent (client.agent.sendRtmpPacket .application
      (.fmleStart (RtmpFmleStartPacket.createReleaseStream client.rest.setting.rtmpStream))
      client.rest.streamid) := by
  rw [LiveClient.stop]
  cases client.rest.setting.dir with
  | push => exact Or.inr ⟨rfl, rfl⟩
  | pull => exact Or.inl rfl

theorem Keeping.stop (keeping : client.Keeping setting) (running : client.rest.halted = false) :
    client.stop.Keeping setting := by
  have ordered : client.agent.Ordered setting := by
    rcases keeping with silent | scripted
    · exact silent.ordered
    · exact scripted.toOrdered
  rcases client.stop_cases with same | ⟨push, sends⟩
  · rw [same]
    exact keeping
  · let packet : RtmpPacket := .fmleStart (RtmpFmleStartPacket.createReleaseStream client.rest.setting.rtmpStream)
    have ready : client.agent.Ready := ⟨running, ordered.positive⟩
    have goesOut : GoesOut packet := releaseStream_goesOut _
    have sent : (client.agent.sent .application packet client.rest.streamid).Ordered setting :=
      ⟨ordered.given, (ready.sent goesOut _ _).positive,
        fun usable => caused_log (ordered.caused usable.of_append) trivial⟩
    have quiet : ownCommands (client.agent.sent .application packet client.rest.streamid).rest.trace =
        ownCommands client.rest.trace := by
      refine (ownCommands_append _ _).trans ?_
      exact List.append_nil _
    rw [sends, Agent.sendRtmpPacket_eq ready goesOut]
    rcases keeping with silent | scripted
    · exact Or.inl ⟨silent.status, sent, quiet.trans silent.quiet⟩
    · exact Or.inr ⟨sent, scripted.status, quiet.trans scripted.commands⟩

theorem Keeping.clientStep (keeping : client.Keeping setting) {input : ClientInput}
    (taken : clientStep client input = some after) : after.Keeping setting := by
  cases input with
  | recv data =>
      rw [Client.clientStep] at taken
      split at taken
      · cases taken
      next halted =>
        rcases keeping with silent | scripted
        · exact silent.onRecvData (Bool.eq_false_iff.mpr halted) taken
        · refine Or.inr (@onRecvData_invariant (Agent.Scripted setting) ?_ ?_ _ _ _ scripted.status scripted taken)
          · intro agent data result kept call
            rcases recvUndecoded_sendSide call with ⟨requests, outChunkSize⟩
            refine ⟨⟨kept.given, ?_, kept.caused⟩, kept.status, kept.commands⟩
            rw [outChunkSize]
            exact kept.positive
          · intro agent arrival kept same
            exact kept.receive same
  | stop =>
      rw [Client.clientStep] at taken
      split at taken
      · cases taken
      next halted =>
        rw [← Option.some.inj taken]
        exact keeping.stop (Bool.eq_false_iff.mpr halted)

theorem connected_keeping (setting : Setting) (handshake : RtmpHandshake) (streamid : Int32) (havestop : Bool)
    (stale : UInt32 -> UInt32) : (connected setting handshake streamid havestop stale).Keeping setting := by
  refine Or.inl ⟨rfl, ⟨rfl, ?_, ?_⟩, rfl⟩
  · exact (by decide : 0 < rtmpDefaultChunksize.toNat)
  · intro _
    have nothing : Caused (EventCaused setting) [] := by
      intro before entry after split
      cases List.append_eq_nil_iff.mp split.symm |>.2
    exact caused_log nothing trivial

/-- The script is kept in any case. -/
theorem Keeping.script (keeping : client.Keeping setting) : Exists fun streamid => ownCommands client.rest.trace <+:
    setting.connectGroup ++ setting.createStreamGroup setting.rtmpApp ++ setting.startGroup streamid := by
  refine ⟨client.rest.streamid, ?_⟩
  rcases keeping with silent | scripted
  · rw [silent.quiet]
    exact List.nil_prefix
  · have commands : ownCommands client.rest.trace =
        setting.script client.rest.streamid client.rest.pushPullStatus := scripted.commands
    rw [commands]
    exact setting.script_prefix client.rest.streamid client.rest.pushPullStatus

theorem Keeping.caused (keeping : client.Keeping setting) (usable : UsableAnswers client.rest.trace) :
    Caused (EventCaused setting) client.rest.trace := by
  rcases keeping with silent | scripted
  · exact silent.ordered.caused usable
  · exact scripted.caused usable

end LiveClient

/-- Whatever arrives, the commands keep their order, as long as the answers that
the client waits for are usable. -/
theorem commandOrder_of_usable (setting : Setting) (handshake : RtmpHandshake) (streamid : Int32)
    (havestop : Bool) (stale : UInt32 -> UInt32) {inputs : List ClientInput} {client : LiveClient}
    (ran : runAll clientStep (.connected setting handshake streamid havestop stale) inputs = some client)
    (usable : UsableAnswers client.rest.trace) : CommandOrder setting client.rest.trace := by
  have keeping : client.Keeping setting :=
    runAll_invariant (fun _ _ _ kept taken => LiveClient.Keeping.clientStep kept taken)
      (LiveClient.connected_keeping setting handshake streamid havestop stale) ran
  exact ⟨keeping.script, keeping.caused usable⟩

/-! ## Runs with answers -/

section Arrivals

variable {status : RtmpClientPushPullStatus} {requests : RequestsMap} {msg : RtmpMessage}

/-- The greeting brings no message. -/
@[simp] theorem recvMessage_not_greeting (handshake : RtmpHandshake) (reply : List UInt8) :
    ClientEvent.recvMessage status requests msg ∉ LiveClient.greeting handshake reply := by
  intro member
  simp only [LiveClient.greeting, List.mem_cons, List.not_mem_nil, reduceCtorEq, or_self] at member

/-- Nor does what is sent. -/
@[simp] theorem recvMessage_not_sendEvents (packets : List (RtmpPacket × Int32)) :
    ClientEvent.recvMessage status requests msg ∉ LiveClient.sendEvents packets := by
  intro member
  rcases List.mem_map.mp member with ⟨packet, _, other⟩
  cases other

end Arrivals

/-- A push client whose server answers sends all its commands, in order. -/
theorem mainClient_conversation : Exists fun inputs => Exists fun client =>
    runAll clientStep (mainClient .push) inputs = some client ∧
      ownCommands client.rest.trace = (mainSetting .push).script 1 .pushOrPull ∧
      CommandOrder (mainSetting .push) client.rest.trace := by
  have reply : (List.replicate 3073 (0x03 : UInt8)).length = 3073 := List.length_replicate
  have one : (Double.toInt32 (Double.ofNat 1)).getD ((mainSetting .push).outOfRange (Double.ofNat 1)) = 1 := by decide
  rcases conversation_startStream (mainSetting .push) mainHandshake 0 false (fun _ => 0) reply one with
    ⟨first, second, client, ran, handed, handedToo, trace⟩
  have usable : UsableAnswers client.rest.trace := by
    intro status requests msg packet member decoded
    simp only [trace, List.mem_append, List.mem_singleton, recvMessage_not_greeting, recvMessage_not_sendEvents,
      false_or, or_false, ClientEvent.recvMessage.injEq] at member
    rcases member with ⟨rfl, rfl, rfl⟩ | ⟨rfl, rfl, rfl⟩
    · rw [handed] at decoded
      rw [← Option.some.inj (Outcome.ok.inj decoded)]
      exact trivial
    · rw [handedToo] at decoded
      rw [← Option.some.inj (Outcome.ok.inj decoded)]
      exact (by decide : Double.toInt32 (Double.ofNat 1) ≠ none)
  refine ⟨_, client, ran, ?_, commandOrder_of_usable (mainSetting .push) mainHandshake 0 false _ ran usable⟩
  have group {packets : List (RtmpPacket × Int32)} {stage : RtmpClientPushPullStatus}
      (commands : forall packet, packet ∈ packets -> commandGroup packet.1 = some stage) :
      ownCommands (LiveClient.sendEvents packets) = packets := ownCommands_group commands
  simp only [trace, ownCommands_append, group (mainSetting .push).connectGroup_group,
    group ((mainSetting .push).createStreamGroup_group _),
    group fun packet member => ((mainSetting .push).startGroup_group 1 packet member).1]
  rfl

/-- The id 10000000000 of a stream fits no `int`, and the group of play goes out
all the same. -/
theorem mainClient_large_streamid : ¬ forall inputs client,
    runAll clientStep (mainClient .pull) inputs = some client ->
      CommandOrder (mainSetting .pull) client.rest.trace := by
  intro ordered
  have reply : (List.replicate 3073 (0x03 : UInt8)).length = 3073 := List.length_replicate
  have none : Double.toInt32 (Double.ofNat 10000000000) = none := by decide
  rcases conversation_startStream (mainSetting .pull) mainHandshake 0 false (fun _ => 0) reply
    (congrArg (Option.getD · ((mainSetting .pull).outOfRange (Double.ofNat 10000000000))) none) with
    ⟨first, second, client, ran, handed, handedToo, trace⟩
  have order := ordered _ client ran
  -- the first packet of the group of play
  have caused := order.caused _ _ _ trace
  have cause : PacketCaused (mainSetting .pull) _ _ _ := caused
  rcases cause.start 0 List.mem_cons_self with
    ⟨answered, status, requests, arrived, response, member, decoded, _, _, converted⟩
  simp only [List.mem_append, List.mem_singleton, recvMessage_not_greeting, recvMessage_not_sendEvents,
    false_or, or_false, ClientEvent.recvMessage.injEq] at member
  rcases member with ⟨rfl, rfl, rfl⟩ | ⟨rfl, rfl, rfl⟩
  · rw [handed] at decoded
    cases decoded
  · rw [handedToo] at decoded
    rw [← RtmpPacket.createStreamResponse.inj (Option.some.inj (Outcome.ok.inj decoded))] at converted
    have impossible := none.symm.trans converted
    cases impossible

end Client
end RtmpClient
