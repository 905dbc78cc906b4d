import RtmpClient.Client.HandshakeRun
import RtmpClient.Client.Listener
import RtmpClient.Client.SessionLemmas
import RtmpClient.Media.MediaData
import RtmpClient.Rtmp.ControlMessages
import RtmpClient.Rtmp.MediaRoundTrip
import RtmpClient.Rtmp.SendCache

namespace RtmpClient
namespace Client

open Library Net Rtmp

/-!
# The play client (`rtmpclient.cc`, `RtmpPlayClient`)

The play client is a session that also writes the video it receives to a file,
each NAL unit behind a start code of four bytes.  What a server sends it is
written unit by unit, however the reads cut the bytes.
-/

/-! ## The file -/

/-- `write_spspps_data`, with what the file held before. -/
def writeSpsppsData (sps pps : List UInt8) (fp : List UInt8) : List UInt8 :=
  fp ++ StartCode.long.bytes ++ sps ++ StartCode.long.bytes ++ pps

/-- `write_frame_data`. -/
def writeFrameData (nalu : List UInt8) (fp : List UInt8) : List UInt8 :=
  fp ++ StartCode.long.bytes ++ nalu

/-- `RtmpPlayClient::processPlayOrPublishPkg`. -/
def processPlayOrPublishPkg (packet : RtmpPacket) (fp : List UInt8) : List UInt8 :=
  match packet with
  | .video packet => packet.naluItem.foldl (fun fp nalu => writeFrameData nalu fp) fp
  | .audio _ => fp
  | .avc packet => writeSpsppsData packet.sps packet.pps fp
  | _ => fp

/-- The units that a packet brings. -/
def packetUnits : RtmpPacket -> List (List UInt8)
  | .video packet => packet.naluItem
  | .avc packet => [packet.sps, packet.pps]
  | _ => []

/-- Units, each behind a start code of four bytes. -/
def longCoded (units : List (List UInt8)) : List UInt8 := annexB (units.map fun unit => (StartCode.long, unit))

theorem longCoded_append (first second : List (List UInt8)) :
    longCoded (first ++ second) = longCoded first ++ longCoded second := by
  rw [longCoded, List.map_append, annexB, List.flatMap_append]
  rfl

/-- What a packet adds to the file are its units. -/
theorem processPlayOrPublishPkg_eq (packet : RtmpPacket) (fp : List UInt8) :
    processPlayOrPublishPkg packet fp = fp ++ longCoded (packetUnits packet) := by
  have frames (nalus : List (List UInt8)) : forall fp, nalus.foldl (fun fp nalu => writeFrameData nalu fp) fp =
      fp ++ longCoded nalus := by
    induction nalus with
    | nil => exact fun fp => (List.append_nil fp).symm
    | cons nalu nalus inductionHypothesis =>
        intro fp
        rw [List.foldl_cons, inductionHypothesis, writeFrameData, longCoded, longCoded, List.map_cons, annexB_cons,
          List.append_assoc, List.append_assoc]
  cases packet with
  | video packet => exact frames packet.naluItem fp
  | avc packet =>
      show fp ++ StartCode.long.bytes ++ packet.sps ++ StartCode.long.bytes ++ packet.pps = _
      rw [packetUnits, longCoded, List.map_cons, List.map_cons, List.map_nil, annexB_cons, annexB_cons, annexB,
        List.flatMap_nil, List.append_nil, List.append_assoc, List.append_assoc, List.append_assoc]
  | _ => exact (List.append_nil fp).symm

/-! ## The client -/

/-- The members of the play client: the session and the file `fp`. -/
structure PlaySession where
  session : Session
  fp : List UInt8

abbrev PlayClient := RtmpClientState PlaySession

namespace PlaySession

/-- What `processData` writes for a message that has arrived. -/
def write (play : PlaySession) (arrival : Arrival) : List UInt8 :=
  if play.session.halted then play.fp
  else
    match play.session.pushPullStatus, arrival.packet with
    | .pushOrPull, .ok (some (.call _)) => play.fp
    | .pushOrPull, .ok (some packet) => processPlayOrPublishPkg packet play.fp
    | _, _ => play.fp

/-- One completed message: the session acts on it, and the file is written. -/
def receive (play : PlaySession) (rtmpTransport : RtmpMessageTransport) (arrival : Arrival) :
    PlaySession × RtmpMessageTransport :=
  let agent := Agent.receive arrival { rtmpTransport, rest := play.session }
  ({ session := agent.rest, fp := play.write arrival }, agent.rtmpTransport)

end PlaySession

namespace PlayClient

/-- The client without its file. -/
def live (client : PlayClient) : LiveClient where
  dataCache := client.dataCache
  rtmpTransport := client.rtmpTransport
  rest := client.rest.session

/-- The client after its session has changed. -/
def withLive (client : PlayClient) (live : LiveClient) : PlayClient where
  dataCache := live.dataCache
  rtmpTransport := live.rtmpTransport
  rest := { client.rest with session := live.rest }

/-- `onRecvData`. -/
def onRecvData (client : PlayClient) (data : List UInt8) : Option PlayClient :=
  match client.rest.session.status with
  | .sendC2 =>
      (processData Arrival.arrived PlaySession.receive client data).map Prod.fst
  | _ => some (client.withLive (client.live.doHandshake data))

/-- One read after the other. -/
def onRecvAll (client : PlayClient) (reads : List (List UInt8)) : Option PlayClient :=
  reads.foldlM (fun client data => client.onRecvData data) client

end PlayClient

/-! ## The file does not disturb the session -/

/-- Without its file the play client is the session. -/
theorem PlayClient.onRecvData_live (client : PlayClient) (data : List UInt8) :
    (client.onRecvData data).map live = client.live.onRecvData data := by
  have status : client.live.rest.status = client.rest.session.status := rfl
  rw [PlayClient.onRecvData, LiveClient.onRecvData, status]
  cases client.rest.session.status with
  | clientStart => rfl
  | sendC0C1 => rfl
  | sendC2 =>
      simp only [processData, Option.map_map]
      have loop := @processLoop_seen PlaySession Arrival Arrival.arrived PlaySession.receive Session PlaySession.session
        (fun rest rtmpTransport arrival =>
          let agent := Agent.receive arrival { rtmpTransport, rest }
          (agent.rest, agent.rtmpTransport))
        (fun _ _ _ => rfl) (client.dataCache.pushData data).len
        { client with dataCache := client.dataCache.pushData data }
      refine Eq.trans ?_ (congrArg (Option.map Prod.fst) loop)
      rw [Option.map_map]
      rfl

/-! ## What a server passes on -/

/-- Chunk sizes that are accepted, and media that fit in the send cache behind
their header. -/
inductive Broadcast : RtmpPacket -> Prop where
  | setChunkSize {packet : RtmpSetChunkSizePacket} (accepted : rtmpDefaultChunksize ≤ packet.chunkSize.toUInt32) :
      Broadcast (.setChunkSize packet)
  | media {packet : RtmpPacket} (media : packet.Media)
      (short : 12 + fieldLength packet.getTimestamp + packet.getPkgLen ≤ rtmpDefaultCacheBufferSize)
      (time : packet.getTimestamp.toNat < 2 ^ 31) : Broadcast packet

/-- The call that sends a packet on a stream. -/
def sendCall (message : RtmpPacket × UInt32) : SendCall where
  pkg := message.1.toBase
  streamid := message.2

theorem payloadOf_body {packet : RtmpPacket} {cells : List UInt8} (body : packet.Body cells) :
    packet.toBase.payload = some cells ∧ payloadOf packet.toBase = cells := by
  have encoded : packet.toBase.payload = some cells := body.payload_eq
  refine ⟨encoded, ?_⟩
  rw [payloadOf, encoded, Option.getD_some]

/-- What a body of media is decoded as brings the same units. -/
theorem media_units {packet : RtmpPacket} (media : packet.Media) :
    Exists fun cells => packet.Body cells ∧ cells ≠ [] ∧
      forall requests msg, msg.rtmpHeader.msgTypeId = packet.getMsgType -> msg.rtmpBody = cells ->
        Exists fun found => messagePacket requests msg = .ok (some found) ∧
          (forall call, found ≠ .call call) ∧ packetUnits found = packetUnits packet := by
  have isMedia {requests : RequestsMap} {msg : RtmpMessage}
      (type : msg.rtmpHeader.msgTypeId = rtmpMsgAudioMessage ∨ msg.rtmpHeader.msgTypeId = rtmpMsgVideoMessage) :
      messagePacket requests msg = decodeMediaMsg msg := if_pos type
  cases media with
  | audio packet =>
      refine ⟨_, RtmpPacket.audio_body packet, List.cons_ne_nil _ _, fun requests msg type body => ?_⟩
      rw [isMedia (Or.inl type), RtmpPacket.decode_audio_body packet type body]
      exact ⟨_, rfl, nofun, rfl⟩
  | avc profile spsShort ppsShort =>
      rcases RtmpPacket.avc_body profile with ⟨_, _, _, written⟩
      refine ⟨_, written, List.cons_ne_nil _ _, fun requests msg type body => ?_⟩
      rw [isMedia (Or.inr type), RtmpPacket.decode_avc_body spsShort ppsShort type body]
      exact ⟨_, rfl, nofun, rfl⟩
  | video single short =>
      refine ⟨_, RtmpPacket.video_body single, List.cons_ne_nil _ _, fun requests msg type body => ?_⟩
      rw [isMedia (Or.inr type), RtmpPacket.decode_video_body short type body]
      exact ⟨_, rfl, nofun, single.symm⟩

/-- Media travel on the chunk stream of their type. -/
theorem media_stream {packet : RtmpPacket} (media : packet.Media) :
    packet.getCsId = rtmpCidAudio ∧ packet.getMsgType = rtmpMsgAudioMessage ∨
      packet.getCsId = rtmpCidVideo ∧ packet.getMsgType = rtmpMsgVideoMessage := by
  cases media with
  | audio packet => exact Or.inl ⟨rfl, rfl⟩
  | avc _ _ _ => exact Or.inr ⟨rfl, rfl⟩
  | video _ _ => exact Or.inr ⟨rfl, rfl⟩

/-- A chunk size is decoded as one, which brings no unit. -/
theorem setChunkSize_units (packet : RtmpSetChunkSizePacket) {requests : RequestsMap} {msg : RtmpMessage}
    (type : msg.rtmpHeader.msgTypeId = rtmpMsgSetChunkSize) (body : msg.rtmpBody = packet.encodePkg)
    (length : msg.rtmpBodyLen = 4) :
    messagePacket requests msg = .ok (some (.setChunkSize packet)) := by
  have four : asInt (4 : UInt32) = 4 := rfl
  have decoded := RtmpSetChunkSizePacket.decode_encodePkg .new packet [] (Int.le_refl 4)
  rw [List.append_nil] at decoded
  have control : decodeMsg requests msg = .ok (4, .setChunkSize packet) := by
    rw [decodeMsg, type, body, length, four, decoded]
    rfl
  rw [messagePacket, type, control]
  exact if_neg (by decide)

namespace Broadcast

variable {packet : RtmpPacket}

theorem sendable (broadcast : Broadcast packet) : Sendable packet.toBase := by
  cases broadcast with
  | @setChunkSize packet accepted =>
      have payload := payloadOf_body (body_setChunkSize packet)
      have length : (payloadOf (RtmpPacket.setChunkSize packet).toBase).length = 4 := by
        rw [payload.2]
        exact writeInt32_length _
      refine ⟨show 2 ≤ rtmpCidProtocolControl.toNat by decide, show rtmpCidProtocolControl.toNat < 64 by decide,
        payload.2 ▸ payload.1, ?_, ?_, show (0 : UInt32).toNat < 2 ^ 31 by decide,
        fun _ => ⟨packet, payload.1, rfl⟩, ?_⟩
      · rw [length]
        decide
      · rw [length]
        decide
      · intro size announced
        have same : announcedSize (RtmpPacket.setChunkSize packet).toBase = some packet.chunkSize.toUInt32 := rfl
        rw [same, Option.some.injEq] at announced
        rw [← announced]
        exact accepted
  | media media short time =>
      rcases media_units media with ⟨cells, body, some, -⟩
      have payload := payloadOf_body body
      have other : packet.getMsgType ≠ rtmpMsgSetChunkSize := by
        rcases media_stream media with ⟨_, same⟩ | ⟨_, same⟩ <;> rw [same] <;> decide
      have none_announced : announcedSize packet.toBase = none := if_neg other
      refine ⟨?_, ?_, ?_, ?_, ?_, time, fun same => absurd same other, ?_⟩
      · show 2 ≤ packet.getCsId.toNat
        rcases media_stream media with ⟨same, _⟩ | ⟨same, _⟩ <;> rw [same] <;> decide
      · show packet.getCsId.toNat < 64
        rcases media_stream media with ⟨same, _⟩ | ⟨same, _⟩ <;> rw [same] <;> decide
      · rw [payload.2]
        exact payload.1
      · rw [payload.2]
        exact List.length_pos_of_ne_nil some
      · rw [payload.2, body.1]
        rw [rtmpDefaultCacheBufferSize] at short
        omega
      · intro size announced
        rw [none_announced] at announced
        cases announced

/-- The chunk of a message and its header fit in the send cache. -/
theorem fits_cache (broadcast : Broadcast packet) :
    12 + fieldLength packet.getTimestamp + (payloadOf packet.toBase).length ≤ rtmpDefaultCacheBufferSize := by
  cases broadcast with
  | @setChunkSize packet accepted =>
      rw [(payloadOf_body (body_setChunkSize packet)).2, writeInt32_length]
      exact Nat.add_le_add_right (Nat.add_le_add_left (fieldLength_le _) 12) 4 |>.trans (by decide)
  | media media short time =>
      rcases media_units media with ⟨cells, body, -, -⟩
      rw [(payloadOf_body body).2, body.1]
      exact short

/-- A message of these is read as a packet with the same units, and never as a
call. -/
theorem received (broadcast : Broadcast packet) (streamid : UInt32) {requests : RequestsMap} {msg : RtmpMessage}
    (delivered : Delivered (packetHeader packet.toBase streamid) (payloadOf packet.toBase) msg) :
    Exists fun found => messagePacket requests msg = .ok (some found) ∧ (forall call, found ≠ .call call) ∧
      packetUnits found = packetUnits packet := by
  cases broadcast with
  | @setChunkSize packet accepted =>
      have payload := payloadOf_body (body_setChunkSize packet)
      have body := delivered.body_eq
      have length := delivered.bodyLen_eq
      rw [payload.2] at body
      exact ⟨_, setChunkSize_units packet delivered.msgTypeId_eq body length, nofun, rfl⟩
  | media media short time =>
      rcases media_units media with ⟨cells, written, -, decoded⟩
      have body := delivered.body_eq
      rw [(payloadOf_body written).2] at body
      exact decoded requests msg delivered.msgTypeId_eq body

end Broadcast

/-- Sending messages in one chunk each never writes behind the send cache. -/
theorem sendAll_inside {messages : List (RtmpPacket × UInt32)}
    (broadcast : forall message, message ∈ messages -> Broadcast message.1) {sender sent : RtmpMessageTransport}
    {ops : List CacheOp} (sending : sendAll sender (messages.map sendCall) = some (ops, sent))
    (fit : AllFit sender.outChunkSize (messages.map sendCall)) : forall op, op ∈ ops -> op.Inside := by
  induction messages generalizing sender ops with
  | nil =>
      cases sending
      exact fun _ member => absurd member List.not_mem_nil
  | cons message messages inductionHypothesis =>
      rcases Option.bind_eq_some_iff.mp sending with ⟨⟨first, between⟩, here, rest⟩
      rcases Option.map_eq_some_iff.mp rest with ⟨⟨later, after⟩, others, same⟩
      cases same
      have own := broadcast message List.mem_cons_self
      have encoded : (sendCall message).pkg.payload = some (payloadOf (sendCall message).pkg) := own.sendable.encoded
      simp only [sendRtmpMessage, encoded] at here
      rcases Option.map_eq_some_iff.mp here with ⟨cut, looped, same⟩
      cases same
      have room : 12 + fieldLength (packetHeader (sendCall message).pkg (sendCall message).streamid).timestamp +
          (payloadOf (sendCall message).pkg).length ≤ rtmpDefaultCacheBufferSize := own.fits_cache
      rcases cacheSafe_single fit.1 room with ⟨known, loop, inside⟩
      have knownEq : first = known := Option.some.inj (looped.symm.trans loop)
      have size : (onSendMessage sender (sendCall message).pkg).outChunkSize =
          sizeAfter (sendCall message) sender.outChunkSize := onSendMessage_outChunkSize sender _
      have behind := inductionHypothesis (fun other member => broadcast other (List.mem_cons_of_mem message member))
        others (size ▸ fit.2)
      rw [List.forall_mem_append]
      exact ⟨knownEq ▸ inside, behind⟩

/-- Sending ends, inside the cache, with the chunks of the messages on the wire. -/
theorem sendAll_broadcast {messages : List (RtmpPacket × UInt32)}
    (broadcast : forall message, message ∈ messages -> Broadcast message.1) {sender : RtmpMessageTransport}
    (large : 128 ≤ sender.outChunkSize.toNat) (fit : AllFit sender.outChunkSize (messages.map sendCall)) :
    Exists fun ops => Exists fun sent => sendAll sender (messages.map sendCall) = some (ops, sent) ∧
      (forall op, op ∈ ops -> op.Inside) ∧
      forall memory, wireBytes memory ops = sequentialBytes sender.outChunkSize (messages.map sendCall) := by
  have sendable : forall call, call ∈ messages.map sendCall -> Sendable call.pkg := by
    intro call member
    rcases List.mem_map.mp member with ⟨message, within, rfl⟩
    exact (broadcast message within).sendable
  rcases sendAll_wire large sendable with ⟨ops, sent, sending, wire⟩
  exact ⟨ops, sent, sending, sendAll_inside broadcast sending fit, wire⟩

/-! ## Watching -/

/-- The units of packets, in their order. -/
def unitsOf (messages : List (RtmpPacket × UInt32)) : List (List UInt8) :=
  messages.flatMap fun message => packetUnits message.1

/-- The play client plays: it has written the units of these packets behind what
the file held. -/
structure Wrote (fp : List UInt8) (messages : List (RtmpPacket × UInt32)) (play : PlaySession) : Prop where
  status : play.session.status = .sendC2
  pushPullStatus : play.session.pushPullStatus = .pushOrPull
  running : play.session.halted = false
  fp_eq : play.fp = fp ++ longCoded (unitsOf messages)

/-- The session leaves everything but calls to the subclass. -/
theorem handle_media {agent : Agent} (pushPullStatus : agent.rest.pushPullStatus = .pushOrPull) {packet : RtmpPacket}
    (notCall : forall call, packet ≠ .call call) : agent.handle packet = agent := by
  -- the branch of calls is ruled out by the hypothesis
  simp only [Agent.handle, pushPullStatus]

/-- One message of a broadcast. -/
theorem Broadcast.handles {message : RtmpPacket × UInt32} (broadcast : Broadcast message.1) (fp : List UInt8) :
    Handles sendCall Arrival.arrived PlaySession.receive (Wrote fp) message := by
  refine ⟨broadcast.sendable, ?_⟩
  intro done play transport msg wrote delivered
  rcases @Broadcast.received message.1 broadcast message.2 transport.requestsMap msg delivered with
    ⟨found, decoded, notCall, units⟩
  let arrival : Arrival := { requests := transport.requestsMap, msg }
  let logged := play.session.log (.recvMessage play.session.pushPullStatus transport.requestsMap msg)
  have packetEq : arrival.packet = .ok (some found) := decoded
  have agent : Agent.receive arrival { rtmpTransport := transport, rest := play.session } =
      { rtmpTransport := transport, rest := logged } := by
    simp only [Agent.receive, wrote.running, Bool.false_eq_true, if_false, packetEq]
    exact handle_media wrote.pushPullStatus notCall
  have written : play.write arrival = play.fp ++ longCoded (packetUnits message.1) := by
    rw [← units, ← processPlayOrPublishPkg_eq, PlaySession.write, wrote.running, wrote.pushPullStatus, packetEq]
    cases found with
    | call packet => exact absurd rfl (notCall packet)
    | _ => rfl
  refine ⟨some arrival, rfl, { session := logged, fp := play.fp ++ longCoded (packetUnits message.1) }, ?_, ?_⟩
  · refine ⟨wrote.status, wrote.pushPullStatus, wrote.running, ?_⟩
    rw [unitsOf, List.flatMap_append, longCoded_append, ← List.append_assoc, ← unitsOf, ← wrote.fp_eq,
      List.flatMap_singleton]
  · show play.receive transport arrival = _
    rw [PlaySession.receive, agent, written]

namespace PlayClient

/-- A client that plays and waits for the next message. -/
structure Watching (client : PlayClient) : Prop where
  status : client.rest.session.status = .sendC2
  pushPullStatus : client.rest.session.pushPullStatus = .pushOrPull
  running : client.rest.session.halted = false
  empty : client.dataCache.bytes = []
  idle : Idle client.rtmpTransport

/-- Behind the handshake, reads are runs of the loop. -/
theorem onRecvAll_eq {client after : PlayClient} {reads : List (List UInt8)} {events : List (RecvEvent Arrival)}
    (status : client.rest.session.status = .sendC2)
    (ran : processAll Arrival.arrived PlaySession.receive client reads = some (after, events)) :
    client.onRecvAll reads = some after := by
  induction reads generalizing client events with
  | nil => exact congrArg (Option.map Prod.fst) ran
  | cons read reads inductionHypothesis =>
      rcases Option.bind_eq_some_iff.mp ran with ⟨⟨middle, first⟩, here, rest⟩
      rcases Option.map_eq_some_iff.mp rest with ⟨⟨last, later⟩, ranRest, same⟩
      have lastEq : last = after := congrArg Prod.fst same
      rw [lastEq] at ranRest
      have taken : client.onRecvData read = some middle := by
        rw [onRecvData, status]
        simp only [here, Option.map_some]
      have live := client.onRecvData_live read
      rw [taken, Option.map_some] at live
      have kept : middle.rest.session.status = .sendC2 :=
        (LiveClient.onRecvData_grows status live.symm).status.trans status
      have others := inductionHypothesis kept ranRest
      rw [onRecvAll, List.foldlM_cons, taken]
      exact others

/-- What reads the chunks of a broadcast write, however they are cut. -/
theorem onRecvAll_broadcast {client : PlayClient} (watching : client.Watching)
    {messages : List (RtmpPacket × UInt32)} (broadcast : forall message, message ∈ messages -> Broadcast message.1)
    (fit : AllFit client.rtmpTransport.inChunkSize (messages.map sendCall)) {reads : List (List UInt8)}
    (cut : reads.flatten = sequentialBytes client.rtmpTransport.inChunkSize (messages.map sendCall)) :
    Exists fun after => client.onRecvAll reads = some after ∧ after.Watching ∧
      after.rest.fp = client.rest.fp ++ longCoded (unitsOf messages) := by
  have initially : Wrote client.rest.fp [] client.rest :=
    ⟨watching.status, watching.pushPullStatus, watching.running, (List.append_nil _).symm⟩
  rcases processAll_sequentialBytes watching.empty watching.idle initially
    (fun message member => (broadcast message member).handles client.rest.fp) fit cut with
    ⟨after, events, ran, empty, idle, wrote⟩
  exact ⟨after, onRecvAll_eq watching.status ran,
    ⟨wrote.status, wrote.pushPullStatus, wrote.running, empty, idle⟩, wrote.fp_eq⟩

/-- Whatever chunk sizes and media a server sends to a client that plays, each
message in one chunk: nothing is written behind the send cache, and however the
bytes are cut into reads, the file grows by the units of the messages, each once
and in their order. -/
theorem writes_broadcast {client : PlayClient} (watching : client.Watching)
    {messages : List (RtmpPacket × UInt32)} (broadcast : forall message, message ∈ messages -> Broadcast message.1)
    {sender : RtmpMessageTransport} (agree : sender.outChunkSize = client.rtmpTransport.inChunkSize)
    (fit : AllFit sender.outChunkSize (messages.map sendCall)) (memory : Memory UInt8) :
    Exists fun ops => Exists fun sent => sendAll sender (messages.map sendCall) = some (ops, sent) ∧
      (forall op, op ∈ ops -> op.Inside) ∧
      forall reads : List (List UInt8), reads.flatten = wireBytes memory ops ->
        Exists fun after => client.onRecvAll reads = some after ∧ after.Watching ∧
          after.rest.fp = client.rest.fp ++ longCoded (unitsOf messages) := by
  have large : 128 ≤ sender.outChunkSize.toNat := by
    rw [agree]
    exact Idle.chunkSize_le watching.idle
  rcases sendAll_broadcast broadcast large fit with ⟨ops, sent, sending, inside, wire⟩
  refine ⟨ops, sent, sending, inside, ?_⟩
  intro reads cut
  rw [wire memory, agree] at cut
  rw [agree] at fit
  exact onRecvAll_broadcast watching broadcast fit cut

/-- A client that has just begun to play. -/
def started : PlayClient where
  dataCache := DataCacheBuf.new
  rtmpTransport := RtmpMessageTransport.new fun _ => 0
  rest :=
    { session :=
        { setting := mainSetting .pull
          handshake := mainHandshake
          status := .sendC2
          pushPullStatus := .pushOrPull
          streamid := 1
          havestop := false
          halted := false
          trace := [] }
      fp := [] }

theorem started_watching : started.Watching := ⟨rfl, rfl, rfl, rfl, Idle.new _⟩

/-- A unit of three bytes. -/
theorem writes_broadcast_unit :
    Exists fun ops => Exists fun sent => sendAll (RtmpMessageTransport.new fun _ => 0)
        ([(.video { timestamp := 40, naluItem := [[0x41, 0x9a, 0x21]], keyframe := false }, 1)].map sendCall) =
          some (ops, sent) ∧
      (forall op, op ∈ ops -> op.Inside) ∧
      forall reads : List (List UInt8), reads.flatten = wireBytes (fun _ => 0) ops ->
        Exists fun after => started.onRecvAll reads = some after ∧ after.Watching ∧
          after.rest.fp = started.rest.fp ++ longCoded (unitsOf
            [(.video { timestamp := 40, naluItem := [[0x41, 0x9a, 0x21]], keyframe := false }, 1)]) := by
  have broadcast : Broadcast (.video { timestamp := 40, naluItem := [[0x41, 0x9a, 0x21]], keyframe := false }) :=
    .media (.video rfl (by decide)) (by decide) (by decide)
  apply writes_broadcast started_watching (List.forall_mem_singleton.mpr broadcast) rfl
  refine ⟨?_, trivial⟩
  have length := (RtmpPacket.toBase _).encode_length _ broadcast.sendable.encoded
  show (payloadOf (RtmpPacket.toBase _)).length ≤ 128
  rw [length]
  decide

end PlayClient

end Client
end RtmpClient
