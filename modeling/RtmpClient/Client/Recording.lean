import RtmpClient.Client.Player
import RtmpClient.Media.VideoTimestamps

namespace RtmpClient
namespace Client

open Library Net Rtmp Media

/-!
# From the encoder to the file

A publisher takes the frames of an encoder apart and sends their NAL units; a
play client writes the units it receives.  With a relay in between that passes
the bytes on, the file holds the units that the encoder made, in their order,
and each key unit behind the parameter sets.
-/

/-! ## The encoder -/

/-- The parameter sets of an encoder that keeps them out of the stream. -/
structure Parameters where
  sps : List UInt8
  pps : List UInt8
  legalSps : LegalUnit sps
  legalPps : LegalUnit pps

/-- One output of the encoder, as the units it consists of. -/
structure Frame where
  units : List (StartCode × List UInt8)
  legal : forall unit, unit ∈ units -> LegalUnit unit.2
  pts : Int64
  dts : Int64

def Frame.output (frame : Frame) : EncoderOutput where
  h264 := annexB frame.units
  pts := frame.pts
  dts := frame.dts

/-- The low five bits of the first byte are 5. -/
def isKeyUnit (unit : List UInt8) : Bool :=
  match unit with
  | [] => false
  | header :: _ => decide (header &&& 0x1f = 5)

namespace Parameters

variable (parameters : Parameters)

def extradata : List UInt8 := annexB [(.long, parameters.sps), (.long, parameters.pps)]

/-- What is to be recorded of a unit. -/
def recorded (unit : List UInt8) : List (List UInt8) :=
  if isKeyUnit unit then [parameters.sps, parameters.pps, unit] else [unit]

/-- What is to be recorded of frames. -/
def recording (frames : List Frame) : List (List UInt8) :=
  frames.flatMap fun frame => frame.units.flatMap fun unit => parameters.recorded unit.2

/-- The media data of a unit. -/
def unitMedia (frame : Frame) (unit : List UInt8) : VideoMediaPacketData :=
  let media := VideoMediaPacketData.new unit frame.pts frame.dts
  if isKeyUnit unit then { media with keyframe := true, sps := parameters.sps, pps := parameters.pps } else media

/-- The packets of a frame. -/
def framePackets (frame : Frame) : List MediaPacketData :=
  frame.units.map fun unit => .create (.video (parameters.unitMedia frame unit.2)) 1

theorem naluPacket_unit (frame : Frame) {unit : List UInt8} (legal : LegalUnit unit) :
    naluPacket parameters.extradata frame.pts frame.dts unit =
      .ok (.create (.video (parameters.unitMedia frame unit)) 1) := by
  rcases unit with _ | ⟨header, rest⟩
  · exact absurd rfl legal.nonempty
  · have copied := VideoMediaPacketData.copySpspps_long
      { VideoMediaPacketData.new (header :: rest) frame.pts frame.dts with keyframe := true } parameters.legalSps
      parameters.pps
    rw [naluPacket, Outcome.read_cons_zero, unitMedia, isKeyUnit]
    by_cases key : header &&& 0x1f = 5
    · simp only [Outcome.ok_bind_do, if_pos key, extradata, copied, decide_eq_true key]
      rfl
    · simp only [Outcome.ok_bind_do, if_neg key, decide_eq_false key]
      rfl

/-- One output of the encoder becomes the packets of its units. -/
theorem parseH264_frame (frame : Frame) (pkts : List MediaPacketData) :
    parseH264 parameters.extradata frame.output.h264 frame.pts frame.dts pkts =
      .ok (pkts ++ parameters.framePackets frame) := by
  have folded (units : List (StartCode × List UInt8)) (legal : forall unit, unit ∈ units -> LegalUnit unit.2) :
      forall pkts, (units.map Prod.snd).foldlM
        (fun pkts unit => pushNalu parameters.extradata frame.pts frame.dts unit pkts) pkts =
          .ok (pkts ++ units.map fun unit => .create (.video (parameters.unitMedia frame unit.2)) 1) := by
    induction units with
    | nil =>
        intro pkts
        rw [List.map_nil, List.map_nil, List.append_nil]
        rfl
    | cons unit units inductionHypothesis =>
        intro pkts
        have pushed : pushNalu parameters.extradata frame.pts frame.dts unit.2 pkts =
            .ok (pkts ++ [.create (.video (parameters.unitMedia frame unit.2)) 1]) := by
          rw [pushNalu, parameters.naluPacket_unit frame (legal unit List.mem_cons_self)]
          rfl
        rw [List.map_cons, List.foldlM_cons, pushed, Outcome.ok_bind_do,
          inductionHypothesis (fun other member => legal other (List.mem_cons_of_mem unit member)),
          List.append_assoc, List.singleton_append, List.map_cons]
  exact (splitNalus_annexB frame.legal pkts).trans (folded frame.units frame.legal pkts)

theorem encode_frames (frames : List Frame) (pkts : List MediaPacketData) :
    encode parameters.extradata (frames.map Frame.output) pkts =
      .ok (pkts ++ frames.flatMap parameters.framePackets) := by
  induction frames generalizing pkts with
  | nil => exact congrArg Outcome.ok (List.append_nil pkts).symm
  | cons frame frames inductionHypothesis =>
      have first := parameters.parseH264_frame frame pkts
      have others := inductionHypothesis (pkts ++ parameters.framePackets frame)
      rw [encode] at others
      rw [encode, List.map_cons, List.foldlM_cons]
      show parseH264 _ frame.output.h264 frame.pts frame.dts pkts >>= _ = _
      rw [first, Outcome.ok_bind_do, others, List.flatMap_cons, List.append_assoc]

end Parameters

/-- What goes out for a unit of the queue. -/
def mediaUnits (media : VideoMediaPacketData) : List (List UInt8) :=
  (if media.keyframe then [media.sps, media.pps] else []) ++ [media.data]

theorem mediaUnits_unitMedia (parameters : Parameters) (frame : Frame) (unit : List UInt8) :
    mediaUnits (parameters.unitMedia frame unit) = parameters.recorded unit := by
  rw [mediaUnits, Parameters.unitMedia, Parameters.recorded]
  cases isKeyUnit unit <;> rfl

theorem mediaUnits_frames (parameters : Parameters) (frames : List Frame) :
    (videoPackets (frames.flatMap parameters.framePackets)).flatMap mediaUnits = parameters.recording frames := by
  have video (units : List (StartCode × List UInt8)) (frame : Frame) :
      (videoPackets (units.map fun unit => .create (.video (parameters.unitMedia frame unit.2)) 1)).flatMap
        mediaUnits = units.flatMap fun unit => parameters.recorded unit.2 := by
    induction units with
    | nil => rfl
    | cons unit units inductionHypothesis =>
        rw [List.flatMap_cons, ← mediaUnits_unitMedia parameters frame, ← inductionHypothesis]
        rfl
  induction frames with
  | nil => rfl
  | cons frame frames inductionHypothesis =>
      rw [List.flatMap_cons, videoPackets_append, List.flatMap_append, inductionHypothesis, Parameters.recording,
        Parameters.recording, List.flatMap_cons, Parameters.framePackets, video]

/-! ## The publisher -/

/-- The outputs that a run hands to the splitter, in their order. -/
def encodedOutputs (inputs : List Publisher.Input) : List EncoderOutput :=
  inputs.flatMap fun
    | .yuvDataIsAvailable outputs => outputs
    | _ => []

/-- A message as the timer makes it. -/
inductive Made (streamid : UInt32) : SentMessage -> Prop where
  | audio (source : MediaData) (packet : RtmpAudioPacket) : Made streamid (.of streamid source (.audio packet))
  | avc (source : MediaData) {packet : RtmpAvcPacket} (encoded : (RtmpPacket.avc packet).payload.isSome = true) :
      Made streamid (.of streamid source (.avc packet))
  | video (source : MediaData) {packet : RtmpVideoPacket} {nalu : List UInt8} (single : packet.naluItem = [nalu]) :
      Made streamid (.of streamid source (.video packet))

/-- The units of what was sent. -/
def sentUnits (publisher : Publisher) : List (List UInt8) :=
  publisher.sent.flatMap fun message => packetUnits message.packet

/-- The publisher has been given these frames: every packet on its way is one of
theirs, and for what was popped exactly its units were sent. -/
structure Relayed (parameters : Parameters) (frames : List Frame) (publisher : Publisher) : Prop where
  extradata : publisher.extradata = parameters.extradata
  packets : videoPackets publisher.packets = videoPackets (frames.flatMap parameters.framePackets)
  encoded : forall packet, packet ∈ publisher.packets -> Encoded packet.media packet.type
  made : forall message, message ∈ publisher.sent -> Made publisher.streamid message
  units : sentUnits publisher = (videoPackets publisher.popped).flatMap mediaUnits

namespace Relayed

variable {parameters : Parameters} {frames : List Frame} {publisher next : Publisher}

theorem new (parameters : Parameters) (streamid : UInt32) :
    Relayed parameters [] (Publisher.new parameters.extradata streamid) where
  extradata := rfl
  packets := rfl
  encoded := List.forall_mem_nil _
  made := List.forall_mem_nil _
  units := rfl

/-- What the timer makes of one packet of the queue. -/
theorem timerPackets_made {media : MediaData} {type : Int} (encoded : Encoded media type) (timestamps : Timestamps)
    (streamid : UInt32)
    (payloads : (timerPackets timestamps media type).1.all (fun packet => packet.payload.isSome) = true) :
    (forall message, message ∈ (timerPackets timestamps media type).1.map (SentMessage.of streamid media) ->
      Made streamid message) ∧
    ((timerPackets timestamps media type).1.map (SentMessage.of streamid media)).flatMap
      (fun message => packetUnits message.packet) =
        (videoPackets [.create media type]).flatMap mediaUnits := by
  cases encoded with
  | audio data =>
      refine ⟨?_, rfl⟩
      intro message member
      rw [List.mem_singleton.mp member]
      exact .audio _ _
  | video data =>
      have packets : (timerPackets timestamps (.video data) 1).1 =
          configPackets data ++ [framePacket timestamps.video data] := rfl
      rw [packets, configPackets] at payloads ⊢
      have units : (videoPackets [.create (.video data) 1]).flatMap mediaUnits = mediaUnits data :=
        List.append_nil _
      rw [units, mediaUnits]
      generalize data.keyframe = keyframe at payloads ⊢
      cases keyframe with
      | false =>
          refine ⟨?_, rfl⟩
          intro message member
          rw [List.mem_singleton.mp member]
          exact .video _ rfl
      | true =>
          refine ⟨?_, rfl⟩
          intro message member
          rcases List.mem_cons.mp member with config | frame
          · rw [config]
            exact .avc _ (List.all_eq_true.mp payloads _ List.mem_cons_self)
          · rw [List.mem_singleton.mp frame]
            exact .video _ rfl

theorem encode {outputs : List EncoderOutput} {outpkts : List MediaPacketData} {more : List Frame}
    (relayed : Relayed parameters frames publisher) (empty : publisher.outpkts = [])
    (given : outputs = more.map Frame.output) (result : Media.encode publisher.extradata outputs [] = .ok outpkts)
    (encoded : List Int64) :
    Relayed parameters (frames ++ more) { publisher with outpkts, encoded } := by
  rw [given, relayed.extradata, parameters.encode_frames, List.nil_append] at result
  have made : outpkts = more.flatMap parameters.framePackets := (Outcome.ok.inj result).symm
  have packets : publisher.popped ++ (publisher.datalist ++ outpkts) = publisher.packets ++ outpkts := by
    rw [Publisher.packets, empty, List.append_nil, List.append_assoc]
  refine ⟨relayed.extradata, ?_, ?_, relayed.made, relayed.units⟩
  · show videoPackets (publisher.popped ++ (publisher.datalist ++ outpkts)) = _
    rw [packets, videoPackets_append, relayed.packets, made, List.flatMap_append, videoPackets_append]
  · show forall packet, packet ∈ publisher.popped ++ (publisher.datalist ++ outpkts) -> _
    rw [packets]
    intro packet member
    rcases List.mem_append.mp member with before | new
    · exact relayed.encoded packet before
    · rw [made] at new
      rcases List.mem_flatMap.mp new with ⟨frame, -, within⟩
      rcases List.mem_map.mp within with ⟨unit, -, same⟩
      rw [← same]
      exact .video _

/-- Packets that only change places. -/
theorem moved (relayed : Relayed parameters frames publisher) {outpkts datalist : List MediaPacketData}
    (same : videoPackets (datalist ++ outpkts) = videoPackets (publisher.datalist ++ publisher.outpkts))
    (encoded : forall packet, packet ∈ datalist ++ outpkts -> Encoded packet.media packet.type) :
    Relayed parameters frames { publisher with outpkts, datalist } := by
  refine ⟨relayed.extradata, ?_, ?_, relayed.made, relayed.units⟩
  · show videoPackets (publisher.popped ++ (datalist ++ outpkts)) = _
    rw [videoPackets_append, same, ← videoPackets_append]
    exact relayed.packets
  · intro packet member
    rcases List.mem_append.mp (show packet ∈ publisher.popped ++ (datalist ++ outpkts) from member) with
      before | waiting
    · exact relayed.encoded packet (List.mem_append_left _ before)
    · exact encoded packet waiting

theorem visit {data : MediaPacketData} {datalist : List MediaPacketData}
    (relayed : Relayed parameters frames publisher) (front : publisher.datalist = data :: datalist)
    (sent : publisher.send data = some next) :
    Relayed parameters frames { next with datalist, popped := next.popped ++ [data] } := by
  have packets : publisher.popped ++ [data] ++ (datalist ++ publisher.outpkts) = publisher.packets := by
    rw [Publisher.packets, front, List.append_assoc]
    rfl
  have fits : Encoded data.media data.type := by
    apply relayed.encoded
    rw [← packets]
    exact List.mem_append_left _ (List.mem_append_right _ List.mem_cons_self)
  have payloads : (timerPackets publisher.timestamps data.media data.type).1.all
      (fun packet => packet.payload.isSome) = true := by
    unfold Publisher.send at sent
    simp only at sent
    split at sent
    next all => exact all
    · cases sent
  have made := timerPackets_made fits publisher.timestamps publisher.streamid payloads
  rw [Publisher.Ordered.send_eq sent]
  refine ⟨relayed.extradata, ?_, ?_, ?_, ?_⟩
  · show videoPackets (publisher.popped ++ [data] ++ (datalist ++ publisher.outpkts)) = _
    rw [packets]
    exact relayed.packets
  · show forall packet, packet ∈ publisher.popped ++ [data] ++ (datalist ++ publisher.outpkts) -> _
    rw [packets]
    exact relayed.encoded
  · intro message member
    rcases List.mem_append.mp member with before | new
    · exact relayed.made message before
    · exact made.1 message new
  · have before : publisher.sent.flatMap (fun message => packetUnits message.packet) = _ := relayed.units
    show (publisher.sent ++ _).flatMap _ = (videoPackets (publisher.popped ++ [data])).flatMap mediaUnits
    rw [List.flatMap_append, before, made.2, videoPackets_append, List.flatMap_append]
    rfl

theorem onTimerLoop {datalist : List MediaPacketData} (relayed : Relayed parameters frames publisher)
    (all : publisher.datalist = datalist) (taken : Publisher.onTimerLoop datalist publisher = some next) :
    Relayed parameters frames next := by
  induction datalist generalizing publisher with
  | nil =>
      rw [← Option.some.inj taken]
      exact relayed
  | cons data datalist inductionHypothesis =>
      rcases Option.bind_eq_some_iff.mp taken with ⟨middle, sent, rest⟩
      exact inductionHypothesis (relayed.visit all sent) rfl rest

theorem step {input : Publisher.Input} {more : List Frame} (relayed : Relayed parameters frames publisher)
    (given : encodedOutputs [input] = more.map Frame.output) (taken : publisher.step input = some next) :
    Relayed parameters (frames ++ more) next := by
  have quiet (nothing : encodedOutputs [input] = []) : frames ++ more = frames := by
    rw [nothing] at given
    rw [List.map_eq_nil_iff.mp given.symm, List.append_nil]
  have waiting : forall packet, packet ∈ publisher.datalist ++ publisher.outpkts -> Encoded packet.media packet.type :=
    fun packet member => relayed.encoded packet (List.mem_append_right _ member)
  cases input with
  | yuvDataIsAvailable outputs =>
      have outputsGiven : outputs = more.map Frame.output := (List.append_nil outputs).symm.trans given
      rw [Publisher.step] at taken
      split at taken
      next ready =>
        split at taken
        next outpkts result =>
          rw [← Option.some.inj taken]
          exact relayed.encode ready.1 outputsGiven result _
        next => cases taken
      next => cases taken
  | push =>
      rw [quiet rfl]
      rw [Publisher.step] at taken
      split at taken
      next => cases taken
      next data outpkts found =>
        have same : publisher.datalist ++ [data] ++ outpkts = publisher.datalist ++ publisher.outpkts := by
          rw [found, List.append_assoc, List.singleton_append]
        rw [← Option.some.inj taken]
        exact relayed.moved (congrArg videoPackets same) (by rw [same]; exact waiting)
  | recordDataIsAvailable data =>
      rw [quiet rfl, ← Option.some.inj taken]
      apply relayed.moved
      · rw [videoPackets_append, videoPackets_append, videoPackets_append]
        exact congrArg (· ++ videoPackets publisher.outpkts) (List.append_nil _)
      · intro packet member
        rcases List.mem_append.mp member with queued | later
        · rcases List.mem_append.mp queued with before | new
          · exact waiting packet (List.mem_append_left _ before)
          · rw [List.mem_singleton.mp new]
            exact .audio data
        · exact waiting packet (List.mem_append_right _ later)
  | onTimer =>
      rw [quiet rfl]
      exact relayed.onTimerLoop rfl taken

/-- Every run. -/
theorem run {inputs : List Publisher.Input} {more : List Frame} (relayed : Relayed parameters frames publisher)
    (given : encodedOutputs inputs = more.map Frame.output)
    (ran : runAll Publisher.step publisher inputs = some next) : Relayed parameters (frames ++ more) next := by
  induction inputs generalizing publisher frames more with
  | nil =>
      rw [List.map_eq_nil_iff.mp given.symm, List.append_nil, ← Option.some.inj ran]
      exact relayed
  | cons input inputs inductionHypothesis =>
      rcases Option.bind_eq_some_iff.mp ran with ⟨middle, taken, rest⟩
      have split : encodedOutputs [input] ++ encodedOutputs inputs = more.map Frame.output := by
        rw [← given, encodedOutputs, List.flatMap_singleton]
        rfl
      rcases List.map_eq_append_iff.mp split.symm with ⟨first, others, rfl, here, later⟩
      rw [← List.append_assoc]
      exact inductionHypothesis (relayed.step here.symm taken) later.symm rest

end Relayed

/-! ## The wire -/

/-- The chunk size that `publish` installs, and what the timer sends behind it. -/
def wireMessages (publisher : Publisher) : List (RtmpPacket × UInt32) :=
  (.setChunkSize { chunkSize := 60000 }, 0) ::
    publisher.sent.map fun message => (message.packet, publisher.streamid)

theorem unitsOf_wireMessages (publisher : Publisher) : unitsOf (wireMessages publisher) = sentUnits publisher := by
  rw [unitsOf, wireMessages, List.flatMap_cons, List.flatMap_map]
  rfl

/-- A configuration that is encoded has its profile bytes. -/
theorem avc_profile {packet : RtmpAvcPacket} (encoded : (RtmpPacket.avc packet).payload.isSome = true) :
    4 ≤ packet.sps.length := by
  have positive : (RtmpPacket.avc packet).getPkgLen > 0 := by
    rw [RtmpPacket.getPkgLen, RtmpAvcPacket.getPkgLen]
    omega
  rw [RtmpPacket.payload] at encoded
  split at encoded
  next bytes whole =>
    rw [RtmpPacket.encode, if_pos positive] at whole
    rcases Outcome.bind_eq_ok whole with ⟨cells, written, -⟩
    rcases Outcome.bind_eq_ok (Outcome.errorAs_eq_ok written) with ⟨first, -, written⟩
    rcases Outcome.bind_eq_ok written with ⟨second, -, written⟩
    rcases Outcome.bind_eq_ok written with ⟨third, level, -⟩
    exact Outcome.lt_of_read level
  · cases encoded

/-- What the timer makes can be broadcast, as long as it fits the send cache and
the counters have not passed half of their range. -/
theorem Made.broadcast {streamid : UInt32} {message : SentMessage} (made : Made streamid message)
    (fits : message.packet.getPkgLen ≤ cacheLimit rtmpPublishChunksize message.timestamp)
    (time : message.timestamp.toNat < 2 ^ 31) : Broadcast message.packet := by
  have stamp : message.packet.getTimestamp = message.timestamp := by
    cases made with
    | audio source packet => rfl
    | avc source encoded => rfl
    | video source single => rfl
  have room := le_cacheLimit_publish.mp fits
  have small : message.packet.getPkgLen ≤ 32756 := by
    rw [rtmpDefaultCacheBufferSize] at room
    omega
  refine .media ?_ (stamp ▸ room) (stamp ▸ time)
  cases made with
  | audio source packet => exact .audio packet
  | @avc source packet encoded =>
      have length : 1 + 1 + 3 + 6 + 2 + packet.sps.length + 1 + 2 + packet.pps.length ≤ 32756 := small
      have profile := avc_profile encoded
      exact .avc profile (by omega) (by omega)
  | @video source packet nalu single =>
      have length : 1 + 1 + 3 + 4 + (packet.naluItem.headD []).length ≤ 32756 := small
      rw [single, List.headD_cons] at length
      exact .video single (by omega)

/-- Behind the chunk size everything goes out in one chunk. -/
theorem allFit_wireMessages {publisher : Publisher}
    (made : forall message, message ∈ publisher.sent -> Made publisher.streamid message)
    (broadcast : forall message, message ∈ publisher.sent -> Broadcast message.packet)
    (fits : forall message, message ∈ publisher.sent ->
      message.packet.getPkgLen ≤ cacheLimit rtmpPublishChunksize message.timestamp) {size : UInt32}
    (large : 128 ≤ size.toNat) : AllFit size ((wireMessages publisher).map sendCall) := by
  have length {packet : RtmpPacket} (packetBroadcast : Broadcast packet) :
      (payloadOf packet.toBase).length = packet.getPkgLen :=
    packet.toBase.encode_length _ packetBroadcast.sendable.encoded
  have media (messages : List SentMessage) (within : forall message, message ∈ messages -> message ∈ publisher.sent) :
      AllFit 60000 ((messages.map fun message => (message.packet, publisher.streamid)).map sendCall) := by
    induction messages with
    | nil => trivial
    | cons message messages inductionHypothesis =>
        have here := within message List.mem_cons_self
        have others := inductionHypothesis fun other member => within other (List.mem_cons_of_mem message member)
        have size : sizeAfter (sendCall (message.packet, publisher.streamid)) 60000 = 60000 := by
          cases made message here with
          | audio source packet => rfl
          | avc source encoded => rfl
          | video source single => rfl
        refine ⟨?_, ?_⟩
        · show (payloadOf message.packet.toBase).length ≤ 60000
          have room := le_cacheLimit_publish.mp (fits message here)
          rw [rtmpDefaultCacheBufferSize] at room
          rw [length (broadcast message here)]
          omega
        · show AllFit (sizeAfter _ 60000) _
          rw [size]
          exact others
  refine ⟨?_, media publisher.sent fun _ member => member⟩
  have four := (payloadOf_body (body_setChunkSize { chunkSize := 60000 })).2
  show (payloadOf (RtmpPacket.setChunkSize { chunkSize := 60000 }).toBase).length ≤ size.toNat
  rw [four, writeInt32_length]
  exact Nat.le_trans (by decide) large

/-! ## The file -/

theorem Parameters.recording_legal (parameters : Parameters) (frames : List Frame) :
    forall unit, unit ∈ parameters.recording frames -> LegalUnit unit := by
  intro unit member
  rcases List.mem_flatMap.mp member with ⟨frame, -, within⟩
  rcases List.mem_flatMap.mp within with ⟨coded, part, recorded⟩
  have legal := frame.legal coded part
  rw [Parameters.recorded] at recorded
  split at recorded
  · rcases List.mem_cons.mp recorded with sps | rest
    · rw [sps]
      exact parameters.legalSps
    · rcases List.mem_cons.mp rest with pps | own
      · rw [pps]
        exact parameters.legalPps
      · rw [List.mem_singleton.mp own]
        exact legal
  · rw [List.mem_singleton.mp recorded]
    exact legal

/-- The splitter finds units behind start codes of four bytes. -/
theorem scannedUnits_longCoded {units : List (List UInt8)} (legal : forall unit, unit ∈ units -> LegalUnit unit) :
    scannedUnits (longCoded units) = .ok units := by
  have pushed (units : List (List UInt8)) : forall found : List (List UInt8),
      units.foldlM (fun found nalus => Outcome.ok (found ++ [nalus])) found = .ok (found ++ units) := by
    induction units with
    | nil =>
        intro found
        rw [List.append_nil]
        rfl
    | cons unit units inductionHypothesis =>
        intro found
        rw [List.foldlM_cons, Outcome.ok_bind_do, inductionHypothesis, List.append_assoc, List.singleton_append]
  have coded : forall unit, unit ∈ units.map (fun unit => (StartCode.long, unit)) -> LegalUnit unit.2 := by
    intro unit member
    rcases List.mem_map.mp member with ⟨cells, within, rfl⟩
    exact legal cells within
  rw [scannedUnits, longCoded, splitNalus_annexB coded, List.map_map]
  exact (congrArg (fun units => List.foldlM _ [] units) (List.map_id units)).trans (pushed units [])

/-- In every run of a publisher whose messages fit in the send cache: what the
timer has sent so far, passed on to a client that plays and cut into reads in any
way, leaves a file whose NAL units are the units that the encoder made, each key
unit behind the parameter sets; all of them once the queue is empty. -/
theorem recording_faithful (parameters : Parameters) (frames : List Frame) (streamid : UInt32)
    {inputs : List Publisher.Input} {publisher : Publisher}
    (given : encodedOutputs inputs = frames.map Frame.output)
    (ran : runAll Publisher.step (Publisher.new parameters.extradata streamid) inputs = some publisher)
    (fits : forall message, message ∈ publisher.sent ->
      message.packet.getPkgLen ≤ cacheLimit rtmpPublishChunksize message.timestamp)
    (time : forall message, message ∈ publisher.sent -> message.timestamp.toNat < 2 ^ 31)
    {client : PlayClient} (watching : client.Watching) (opened : client.rest.fp = [])
    {sender : RtmpMessageTransport} (agree : sender.outChunkSize = client.rtmpTransport.inChunkSize)
    (memory : Memory UInt8) :
    Exists fun ops => Exists fun sent => sendAll sender ((wireMessages publisher).map sendCall) = some (ops, sent) ∧
      (forall op, op ∈ ops -> op.Inside) ∧
      forall reads : List (List UInt8), reads.flatten = wireBytes memory ops ->
        Exists fun after => client.onRecvAll reads = some after ∧
          Exists fun units => after.rest.fp = longCoded units ∧ scannedUnits after.rest.fp = .ok units ∧
            List.IsPrefix units (parameters.recording frames) ∧
            (publisher.datalist = [] -> publisher.outpkts = [] -> units = parameters.recording frames) := by
  have relayed := (Relayed.new parameters streamid).run given ran
  rw [List.nil_append] at relayed
  have large : 128 ≤ sender.outChunkSize.toNat := by
    rw [agree]
    exact Idle.chunkSize_le watching.idle
  have media : forall message, message ∈ publisher.sent -> Broadcast message.packet := fun message member =>
    (relayed.made message member).broadcast (fits message member) (time message member)
  have broadcast : forall message, message ∈ wireMessages publisher -> Broadcast message.1 := by
    intro message member
    rcases List.mem_cons.mp member with first | later
    · rw [first]
      exact .setChunkSize (by decide)
    · rcases List.mem_map.mp later with ⟨sent, within, rfl⟩
      exact media sent within
  have whole : (videoPackets publisher.popped).flatMap mediaUnits ++
      (videoPackets (publisher.datalist ++ publisher.outpkts)).flatMap mediaUnits = parameters.recording frames := by
    rw [← mediaUnits_frames, ← relayed.packets, Publisher.packets, videoPackets_append publisher.popped,
      List.flatMap_append]
  have legal : forall unit, unit ∈ sentUnits publisher -> LegalUnit unit := by
    intro unit member
    apply parameters.recording_legal frames
    rw [← whole, ← relayed.units]
    exact List.mem_append_left _ member
  have fit := allFit_wireMessages relayed.made media fits large
  rcases sendAll_broadcast broadcast large fit with ⟨ops, sent, sending, inside, wire⟩
  refine ⟨ops, sent, sending, inside, fun reads cut => ?_⟩
  rw [wire memory, agree] at cut
  rw [agree] at fit
  rcases PlayClient.onRecvAll_broadcast watching broadcast fit cut with ⟨after, ran, -, file⟩
  rw [opened, List.nil_append, unitsOf_wireMessages] at file
  refine ⟨after, ran, sentUnits publisher, file, ?_, ?_, ?_⟩
  · rw [file]
    exact scannedUnits_longCoded legal
  · rw [relayed.units]
    exact ⟨_, whole⟩
  · intro queued pending
    rw [queued, pending] at whole
    rw [relayed.units, ← whole]
    exact (List.append_nil _).symm

theorem smallParameters_legal : LegalUnit [0x67, 0x42, 0x00, 0x1f] ∧ LegalUnit [0x68, 0xce] := by decide

def smallParameters : Parameters where
  sps := [0x67, 0x42, 0x00, 0x1f]
  pps := [0x68, 0xce]
  legalSps := smallParameters_legal.1
  legalPps := smallParameters_legal.2

theorem smallFrames_legal : (forall unit, unit ∈ [(StartCode.short, [0x65, 0x9a])] -> LegalUnit unit.2) ∧
    forall unit, unit ∈ [(StartCode.long, [0x41, 0x9a])] -> LegalUnit unit.2 := by decide

/-- A key frame and another frame. -/
def smallFrames : List Frame :=
  [⟨[(.short, [0x65, 0x9a])], smallFrames_legal.1, 0, 0⟩, ⟨[(.long, [0x41, 0x9a])], smallFrames_legal.2, 1, 1⟩]

theorem recording_faithful_two : Exists fun publisher =>
    runAll Publisher.step (Publisher.new smallParameters.extradata 1)
        [.yuvDataIsAvailable (smallFrames.map Frame.output), .push, .push, .onTimer] = some publisher ∧
      Exists fun ops => Exists fun sent =>
        sendAll (RtmpMessageTransport.new fun _ => 0) ((wireMessages publisher).map sendCall) = some (ops, sent) ∧
        (forall op, op ∈ ops -> op.Inside) ∧
        forall reads : List (List UInt8), reads.flatten = wireBytes (fun _ => 0) ops ->
          Exists fun after => PlayClient.started.onRecvAll reads = some after ∧
            Exists fun units => after.rest.fp = longCoded units ∧ scannedUnits after.rest.fp = .ok units ∧
              List.IsPrefix units (smallParameters.recording smallFrames) ∧
              (publisher.datalist = [] -> publisher.outpkts = [] ->
                units = smallParameters.recording smallFrames) := by
  have small : ((runAll Publisher.step (Publisher.new smallParameters.extradata 1)
      [.yuvDataIsAvailable (smallFrames.map Frame.output), .push, .push, .onTimer]).map fun publisher =>
        publisher.sent.all fun message =>
          decide (message.packet.getPkgLen ≤ cacheLimit rtmpPublishChunksize message.timestamp) &&
            decide (message.timestamp.toNat < 2 ^ 31)) = some true := by
    decide +kernel
  rcases Option.map_eq_some_iff.mp small with ⟨publisher, reached, bounds⟩
  have each (message : SentMessage) (member : message ∈ publisher.sent) :
      message.packet.getPkgLen ≤ cacheLimit rtmpPublishChunksize message.timestamp ∧
        message.timestamp.toNat < 2 ^ 31 := by
    have both := List.all_eq_true.mp bounds message member
    rw [Bool.and_eq_true, decide_eq_true_eq, decide_eq_true_eq] at both
    exact both
  have given : encodedOutputs [.yuvDataIsAvailable (smallFrames.map Frame.output), .push, .push, .onTimer] =
      smallFrames.map Frame.output := List.append_nil _
  exact ⟨publisher, reached, recording_faithful smallParameters smallFrames 1 given reached
    (fun message member => (each message member).1) (fun message member => (each message member).2)
    PlayClient.started_watching rfl rfl _⟩

end Client
end RtmpClient
