import RtmpClient.Library.Runs
import RtmpClient.Media.Extradata
import RtmpClient.Media.Timer
import RtmpClient.Rtmp.Transport
import Mathlib.Data.List.Nodup

namespace RtmpClient
namespace Media

open Library Rtmp

/-!
# The timestamps of the video stream (`rtmpclient.cc`, `av_codec.cc`)

Encoder outputs are split into NAL units, queued and sent by the timer.  The
timestamp of a unit is a counter that each unit advances, and the configuration
of a key frame goes out with the timestamp of the base class.
-/

/-! ## The messages -/

/-- A message with the header that `sendRtmpMessage` fills in, and the media data
that it was made from. -/
structure SentMessage where
  source : MediaData
  packet : RtmpPacket
  header : RtmpHeader

namespace SentMessage

def of (streamid : UInt32) (source : MediaData) (packet : RtmpPacket) : SentMessage where
  source := source
  packet := packet
  header := packetHeader packet.toBase streamid

/-- The message goes out on the video chunk stream. -/
def onVideoStream (message : SentMessage) : Bool := message.header.chunkStreamId == rtmpCidVideo

/-- The message is a NALU packet. -/
def isNalu (message : SentMessage) : Bool :=
  match message.packet with
  | .video _ => true
  | _ => false

def timestamp (message : SentMessage) : UInt32 := message.header.timestamp

/-- The `pts` of the encoded frame. -/
def pts (message : SentMessage) : Int64 :=
  match message.source with
  | .audio data => data.pts
  | .video data => data.pts

end SentMessage

/-! ## The run -/

/-- What `avcodec_receive_packet` hands out. -/
structure EncoderOutput where
  h264 : List UInt8
  pts : Int64
  dts : Int64
  deriving DecidableEq, Repr

/-- The loop of `VideoCodec::encode`. -/
def encode (extradata : List UInt8) (outputs : List EncoderOutput) (pkts : List MediaPacketData) :
    Outcome (List MediaPacketData) :=
  outputs.foldlM (fun pkts output => parseH264 extradata output.h264 output.pts output.dts pkts) pkts

/-- The publish client between the encoder and the transport.  `encoded`, `popped`
and `sent` record the `pts` of the outputs so far, what was taken from `datalist`
and the messages. -/
structure Publisher where
  extradata : List UInt8
  streamid : UInt32
  outpkts : List MediaPacketData
  datalist : List MediaPacketData
  timestamps : Timestamps
  encoded : List Int64
  popped : List MediaPacketData
  sent : List SentMessage

namespace Publisher

def new (extradata : List UInt8) (streamid : UInt32) : Publisher where
  extradata := extradata
  streamid := streamid
  outpkts := []
  datalist := []
  timestamps := .new
  encoded := []
  popped := []
  sent := []

/-- The packets for one queued packet are sent.  A read past the end of a short
SPS is where the run ends. -/
def send (publisher : Publisher) (data : MediaPacketData) : Option Publisher :=
  let (packets, timestamps) := timerPackets publisher.timestamps data.media data.type
  if packets.all fun packet => packet.payload.isSome then
    some { publisher with
      timestamps
      sent := publisher.sent ++ packets.map (.of publisher.streamid data.media) }
  else none

/-- The loop of `onTimer`. -/
def onTimerLoop : List MediaPacketData -> Publisher -> Option Publisher
  | [], publisher => some publisher
  | data :: datalist, publisher =>
      (publisher.send data).bind fun publisher =>
        onTimerLoop datalist { publisher with datalist, popped := publisher.popped ++ [data] }

/-- What happens, in any order.  The encoder's `pts` never decreases. -/
inductive Input where
  | yuvDataIsAvailable (outputs : List EncoderOutput)
  /-- The next of the packets is queued. -/
  | push
  /-- The audio device queues a packet. -/
  | recordDataIsAvailable (data : AudioMediaPacketData)
  | onTimer

def step (publisher : Publisher) (input : Input) : Option Publisher :=
  match input with
  | .yuvDataIsAvailable outputs =>
      if publisher.outpkts = [] ∧ (publisher.encoded ++ outputs.map EncoderOutput.pts).Pairwise (· ≤ ·) then
        match encode publisher.extradata outputs [] with
        | .ok outpkts =>
            some { publisher with outpkts, encoded := publisher.encoded ++ outputs.map EncoderOutput.pts }
        | _ => none
      else none
  | .push =>
      match publisher.outpkts with
      | [] => none
      | data :: outpkts => some { publisher with outpkts, datalist := publisher.datalist ++ [data] }
  | .recordDataIsAvailable data =>
      some { publisher with datalist := publisher.datalist ++ [.create (.audio data) 0] }
  | .onTimer => onTimerLoop publisher.datalist publisher

/-- The messages on the video chunk stream, in sending order. -/
def videoMessages (publisher : Publisher) : List SentMessage := publisher.sent.filter SentMessage.onVideoStream

end Publisher

/-- The NALU packets among media packets. -/
def videoPackets (packets : List MediaPacketData) : List VideoMediaPacketData :=
  packets.filterMap fun packet =>
    match packet.media with
    | .audio _ => none
    | .video data => some data

/-! ## What should hold -/

/-- The timestamps never decrease, as long as the counter has not passed its
range, and the units of one frame have one timestamp. -/
structure FollowsFrames (messages : List SentMessage) : Prop where
  ascending : forall count, 40 * ((messages.take count).countP SentMessage.isNalu - 1) < 2 ^ 32 ->
    ((messages.take count).map SentMessage.timestamp).Pairwise (· ≤ ·)
  sameFrame : forall first second, first ∈ messages -> second ∈ messages -> first.isNalu = true ->
    second.isNalu = true -> first.pts = second.pts -> first.timestamp = second.timestamp

/-- Every frame is one unit, and no key frame comes behind the second one, in the
range of the counter. -/
structure OneUnitFrames (handled : List VideoMediaPacketData) : Prop where
  distinct : (handled.map VideoMediaPacketData.pts).Nodup
  keyframes : forall before data after, handled = before ++ data :: after -> data.keyframe = true ->
    40 * (before.length - 1) < 2 ^ 32 -> before.length < 2

/-! ## The messages of the units -/

/-- The counter in front of a unit. -/
def stamp (index : Nat) : UInt32 := UInt32.ofNat (40 * index)

theorem stamp_succ (index : Nat) : stamp (index + 1) = stamp index + 40 := UInt32.ofNat_add (40 * index) 40

theorem stamp_toNat {index : Nat} (range : 40 * index < 2 ^ 32) : (stamp index).toNat = 40 * index :=
  UInt32.toNat_ofNat_of_lt' range

/-- Neighbours never have the same timestamp. -/
theorem stamp_ne_succ (index : Nat) : stamp index ≠ stamp (index + 1) := by
  intro same
  have remainders := congrArg UInt32.toNat same
  rw [stamp, stamp, UInt32.toNat_ofNat', UInt32.toNat_ofNat'] at remainders
  omega

section Messages

variable (streamid : UInt32)

def naluMessage (index : Nat) (data : VideoMediaPacketData) : SentMessage :=
  .of streamid (.video data) (framePacket (stamp index) data)

def configMessages (data : VideoMediaPacketData) : List SentMessage :=
  (configPackets data).map (.of streamid (.video data))

/-- What is sent for units, from the given place of the counter on. -/
def messagesFrom (index : Nat) : List VideoMediaPacketData -> List SentMessage
  | [] => []
  | data :: handled => configMessages streamid data ++ naluMessage streamid index data :: messagesFrom (index + 1) handled

/-- The NALU packets of these. -/
def naluMessagesFrom (index : Nat) : List VideoMediaPacketData -> List SentMessage
  | [] => []
  | data :: handled => naluMessage streamid index data :: naluMessagesFrom (index + 1) handled

theorem messagesFrom_append (index : Nat) (first second : List VideoMediaPacketData) :
    messagesFrom streamid index (first ++ second) =
      messagesFrom streamid index first ++ messagesFrom streamid (index + first.length) second := by
  induction first generalizing index with
  | nil => rfl
  | cons data first inductionHypothesis =>
      rw [List.cons_append, messagesFrom, messagesFrom, inductionHypothesis, List.length_cons, List.append_assoc,
        List.cons_append, Nat.add_right_comm]
      rfl

theorem filter_config (data : VideoMediaPacketData) :
    (configMessages streamid data).filter SentMessage.isNalu = [] := by
  rw [configMessages, configPackets]
  split <;> rfl

theorem filter_isNalu (index : Nat) (handled : List VideoMediaPacketData) :
    (messagesFrom streamid index handled).filter SentMessage.isNalu = naluMessagesFrom streamid index handled := by
  induction handled generalizing index with
  | nil => rfl
  | cons data handled inductionHypothesis =>
      rw [messagesFrom, List.filter_append, filter_config, List.nil_append, naluMessagesFrom, ← inductionHypothesis]
      rfl

theorem countP_isNalu (index : Nat) (handled : List VideoMediaPacketData) :
    (messagesFrom streamid index handled).countP SentMessage.isNalu = handled.length := by
  rw [List.countP_eq_length_filter, filter_isNalu]
  induction handled generalizing index with
  | nil => rfl
  | cons data handled inductionHypothesis => exact congrArg Nat.succ (inductionHypothesis (index + 1))

theorem map_pts (index : Nat) (handled : List VideoMediaPacketData) :
    (naluMessagesFrom streamid index handled).map SentMessage.pts = handled.map VideoMediaPacketData.pts := by
  induction handled generalizing index with
  | nil => rfl
  | cons data handled inductionHypothesis => exact congrArg _ (inductionHypothesis (index + 1))

/-! ## One frame -/

/-- With distinct frames there is nothing to compare. -/
theorem sameFrame_of_distinct {handled : List VideoMediaPacketData} (distinct : (handled.map VideoMediaPacketData.pts).Nodup)
    (index : Nat) {first second : SentMessage} (firstSent : first ∈ naluMessagesFrom streamid index handled)
    (secondSent : second ∈ naluMessagesFrom streamid index handled) (same : first.pts = second.pts) :
    first = second := by
  rw [← map_pts streamid index] at distinct
  exact List.inj_on_of_nodup_map distinct firstSent secondSent same

/-- Units of one frame are neighbours, and these differ. -/
theorem distinct_of_sameFrame {handled : List VideoMediaPacketData}
    (sorted : (handled.map VideoMediaPacketData.pts).Pairwise (· ≤ ·)) (index : Nat)
    (sameFrame : forall first second, first ∈ naluMessagesFrom streamid index handled ->
      second ∈ naluMessagesFrom streamid index handled -> first.pts = second.pts -> first.timestamp = second.timestamp) :
    (handled.map VideoMediaPacketData.pts).Nodup := by
  induction handled generalizing index with
  | nil => exact List.nodup_nil
  | cons data handled inductionHypothesis =>
      have parts := List.pairwise_cons.mp sorted
      refine List.nodup_cons.mpr ⟨?_, ?_⟩
      · cases handled with
        | nil => exact List.not_mem_nil
        | cons next handled =>
            intro again
            have below := parts.1 next.pts List.mem_cons_self
            have above : next.pts ≤ data.pts := by
              rcases List.mem_cons.mp again with here | later
              · rw [here]
                exact Int64.le_refl next.pts
              · exact (List.pairwise_cons.mp parts.2).1 data.pts later
            apply stamp_ne_succ index
            exact sameFrame (naluMessage streamid index data) (naluMessage streamid (index + 1) next)
              List.mem_cons_self (List.mem_cons_of_mem _ List.mem_cons_self) (Int64.le_antisymm below above)
      · apply inductionHypothesis parts.2 (index + 1)
        intro first second firstSent secondSent
        exact sameFrame first second (List.mem_cons_of_mem _ firstSent) (List.mem_cons_of_mem _ secondSent)

/-! ## The order -/

/-- The least timestamp from the given place on: the first two units may still be
followed by a configuration. -/
def floorFrom (index : Nat) : Nat := if index < 2 then 0 else 40 * index

/-- The timestamps ascend from the given one on. -/
structure Rising (least : Nat) (messages : List SentMessage) : Prop where
  ascending : (messages.map SentMessage.timestamp).Pairwise (· ≤ ·)
  above : forall message, message ∈ messages -> least ≤ message.timestamp.toNat

namespace Rising

variable {least least' : Nat} {message : SentMessage} {messages : List SentMessage}

theorem nil (least : Nat) : Rising least [] where
  ascending := .nil
  above := List.forall_mem_nil _

theorem weaken (rising : Rising least' messages) (below : least ≤ least') : Rising least messages where
  ascending := rising.ascending
  above := fun message member => Nat.le_trans below (rising.above message member)

theorem cons (here : least ≤ message.timestamp.toNat) (rest : Rising message.timestamp.toNat messages) :
    Rising least (message :: messages) where
  ascending := by
    apply List.pairwise_cons.mpr ⟨?_, rest.ascending⟩
    intro timestamp member
    rcases List.mem_map.mp member with ⟨later, sent, same⟩
    rw [← same]
    exact UInt32.le_iff_toNat_le.mpr (rest.above later sent)
  above := by
    intro other member
    rcases List.mem_cons.mp member with same | later
    · rw [same]
      exact here
    · exact Nat.le_trans here (rest.above other later)

end Rising

theorem configMessages_eq (data : VideoMediaPacketData) :
    data.keyframe = false ∧ configMessages streamid data = [] ∨
      data.keyframe = true ∧ Exists fun message => configMessages streamid data = [message] ∧
        message.timestamp = 0 ∧ message.isNalu = false := by
  rw [configMessages, configPackets]
  cases data.keyframe with
  | false => exact .inl ⟨rfl, rfl⟩
  | true => exact .inr ⟨rfl, _, rfl, rfl, rfl⟩

/-- A unit in front of messages that rise from the next place on. -/
theorem rising_unit {index : Nat} (data : VideoMediaPacketData) {messages : List SentMessage} {count : Nat}
    (behind : forall count, 40 * (index + 1 + (messages.take count).countP SentMessage.isNalu - 1) < 2 ^ 32 ->
      Rising (floorFrom (index + 1)) (messages.take count))
    (range : 40 * (index + ((naluMessage streamid index data :: messages).take count).countP SentMessage.isNalu - 1) <
      2 ^ 32) :
    Rising (floorFrom index) ((naluMessage streamid index data :: messages).take count) := by
  cases count with
  | zero => exact Rising.nil _
  | succ count =>
      rw [List.take_succ_cons] at range ⊢
      rw [List.countP_cons_of_pos rfl] at range
      have here : (naluMessage streamid index data).timestamp.toNat = 40 * index := stamp_toNat (by omega)
      have rest := behind count (by omega)
      apply Rising.cons
      · rw [here, floorFrom]
        split <;> omega
      · rw [here]
        apply rest.weaken
        rw [floorFrom]
        split <;> omega

/-- With key frames at the first two units only, the timestamps rise. -/
theorem rising_from {handled : List VideoMediaPacketData} {index : Nat} (count : Nat)
    (keyframes : forall before data after, handled = before ++ data :: after -> data.keyframe = true ->
      40 * (index + before.length - 1) < 2 ^ 32 -> index + before.length < 2)
    (range : 40 * (index + ((messagesFrom streamid index handled).take count).countP SentMessage.isNalu - 1) < 2 ^ 32) :
    Rising (floorFrom index) ((messagesFrom streamid index handled).take count) := by
  induction handled generalizing index count with
  | nil =>
      rw [messagesFrom, List.take_nil]
      exact Rising.nil _
  | cons data handled inductionHypothesis =>
      have behind : forall count, 40 * (index + 1 +
            ((messagesFrom streamid (index + 1) handled).take count).countP SentMessage.isNalu - 1) < 2 ^ 32 ->
          Rising (floorFrom (index + 1)) ((messagesFrom streamid (index + 1) handled).take count) := by
        intro count
        apply inductionHypothesis count
        intro before data' after split key range
        have shifted := keyframes (data :: before) data' after (congrArg (List.cons data) split) key
        rw [List.length_cons] at shifted
        omega
      rw [messagesFrom] at range ⊢
      rcases configMessages_eq streamid data with ⟨-, nothing⟩ | ⟨key, message, config, zero, other⟩
      · rw [nothing, List.nil_append] at range ⊢
        exact rising_unit streamid data behind range
      · rw [config, List.singleton_append] at range ⊢
        cases count with
        | zero => exact Rising.nil _
        | succ count =>
            rw [List.take_succ_cons] at range ⊢
            rw [List.countP_cons_of_neg (by rw [other]; exact Bool.noConfusion)] at range
            have first : index < 2 := keyframes [] data handled rfl key (by rw [List.length_nil]; omega)
            have least : floorFrom index = 0 := if_pos first
            have rest := rising_unit streamid data behind range
            apply Rising.cons
            · rw [least]
              exact Nat.zero_le _
            · rw [zero]
              rw [least] at rest
              exact rest

/-- A configuration behind the second unit takes the time back to zero. -/
theorem keyframe_early {before after : List VideoMediaPacketData} {data : VideoMediaPacketData}
    (follows : FollowsFrames (messagesFrom streamid 0 (before ++ data :: after))) (key : data.keyframe = true)
    (range : 40 * (before.length - 1) < 2 ^ 32) : before.length < 2 := by
  rcases List.eq_nil_or_concat before with none | ⟨front, last, split⟩
  · rw [none]
    exact Nat.zero_lt_two
  · rw [List.concat_eq_append] at split
    rcases configMessages_eq streamid data with ⟨other, -⟩ | ⟨-, message, config, zero, notNalu⟩
    · rw [other] at key
      cases key
    · have length : before.length = front.length + 1 := by rw [split, List.length_append, List.length_singleton]
      have messages : messagesFrom streamid 0 (before ++ data :: after) =
          (messagesFrom streamid 0 front ++ (configMessages streamid last ++
            [naluMessage streamid front.length last, message])) ++
          naluMessage streamid before.length data :: messagesFrom streamid (before.length + 1) after := by
        rw [length, split, List.append_assoc, messagesFrom_append, List.singleton_append, messagesFrom, messagesFrom,
          config, Nat.zero_add]
        simp only [List.append_assoc, List.cons_append, List.nil_append]
      have units : (messagesFrom streamid 0 front ++ (configMessages streamid last ++
          [naluMessage streamid front.length last, message])).countP SentMessage.isNalu = before.length := by
        rw [List.countP_append, List.countP_append, countP_isNalu, List.countP_eq_length_filter, filter_config,
          List.countP_cons_of_pos rfl, List.countP_cons_of_neg (by rw [notNalu]; exact Bool.noConfusion), length]
        rfl
      have ascending := follows.ascending (messagesFrom streamid 0 front ++ (configMessages streamid last ++
          [naluMessage streamid front.length last, message])).length
      rw [messages, List.take_left, units] at ascending
      have pair := ascending range
      rw [List.map_append, List.map_append] at pair
      have both := List.pairwise_cons.mp (List.pairwise_append.mp (List.pairwise_append.mp pair).2.1).2.1
      have above : stamp front.length ≤ message.timestamp := both.1 _ (List.mem_map_of_mem List.mem_cons_self)
      rw [zero, UInt32.le_iff_toNat_le, stamp_toNat (by omega)] at above
      have none : 40 * front.length ≤ 0 := above
      omega

/-- Each frame one unit, and the key frames first. -/
theorem followsFrames_messages {handled : List VideoMediaPacketData}
    (sorted : (handled.map VideoMediaPacketData.pts).Pairwise (· ≤ ·)) :
    FollowsFrames (messagesFrom streamid 0 handled) <-> OneUnitFrames handled := by
  have nalu (message : SentMessage) : message ∈ naluMessagesFrom streamid 0 handled <->
      message ∈ messagesFrom streamid 0 handled ∧ message.isNalu = true := by
    rw [← filter_isNalu, List.mem_filter]
  constructor
  · intro follows
    refine ⟨?_, ?_⟩
    · apply distinct_of_sameFrame streamid sorted 0
      intro first second firstSent secondSent
      have first_in := (nalu first).mp firstSent
      have second_in := (nalu second).mp secondSent
      exact follows.sameFrame first second first_in.1 second_in.1 first_in.2 second_in.2
    · intro before data after split key range
      rw [split] at follows
      exact keyframe_early streamid follows key range
  · intro once
    refine ⟨?_, ?_⟩
    · intro count range
      have rising := @rising_from streamid handled 0 count
      simp only [Nat.zero_add] at rising
      exact (rising once.keyframes range).ascending
    · intro first second firstSent secondSent isFirst isSecond same
      rw [sameFrame_of_distinct streamid once.distinct 0 ((nalu first).mpr ⟨firstSent, isFirst⟩)
        ((nalu second).mpr ⟨secondSent, isSecond⟩) same]

end Messages

/-! ## The packets of the encoder -/

theorem videoPackets_append (first second : List MediaPacketData) :
    videoPackets (first ++ second) = videoPackets first ++ videoPackets second := List.filterMap_append

/-- The `pts` of the units, in the order of the packets. -/
def ptsOf (packets : List MediaPacketData) : List Int64 := (videoPackets packets).map VideoMediaPacketData.pts

theorem ptsOf_append (first second : List MediaPacketData) :
    ptsOf (first ++ second) = ptsOf first ++ ptsOf second := by
  rw [ptsOf, videoPackets_append, List.map_append]
  rfl

/-- The packet is a unit of a frame with this `pts`. -/
def OfFrame (pts : Int64) (packet : MediaPacketData) : Prop :=
  Exists fun media => packet = .create (.video media) 1 ∧ media.pts = pts

theorem parseH264_pts {extradata h264 : List UInt8} {pts dts : Int64} {pkts after : List MediaPacketData}
    (parsed : parseH264 extradata h264 pts dts pkts = .ok after) :
    Exists fun packets => after = pkts ++ packets ∧ forall packet, packet ∈ packets -> OfFrame pts packet := by
  have finished : forall nalus (before after : List MediaPacketData) (_ : Unit),
      (Exists fun packets => before = pkts ++ packets ∧ forall packet, packet ∈ packets -> OfFrame pts packet) ->
      pushNalu extradata pts dts nalus before = .ok after -> Exists fun _ : Unit => Outcome.ok () = .ok () ∧
        Exists fun packets => after = pkts ++ packets ∧ forall packet, packet ∈ packets -> OfFrame pts packet := by
    rintro nalus before after - ⟨packets, rfl, made⟩ pushed
    rcases Outcome.bind_eq_ok pushed with ⟨packet, new, last⟩
    rcases naluPacket_made new with ⟨media, here, -, time⟩
    refine ⟨(), rfl, packets ++ [packet], ?_, ?_⟩
    · rw [← Outcome.ok.inj last, List.append_assoc]
    · intro other member
      rcases List.mem_append.mp member with earlier | added
      · exact made other earlier
      · rw [List.mem_singleton.mp added]
        exact ⟨media, here, time⟩
  have start : Exists fun packets => pkts = pkts ++ packets ∧ forall packet, packet ∈ packets -> OfFrame pts packet :=
    ⟨[], (List.append_nil pkts).symm, List.forall_mem_nil _⟩
  rcases @splitNalus_simulated _ Unit _ (fun _ _ => .ok ()) _ finished h264 pkts after () start parsed with
    ⟨_, -, packets⟩
  exact packets

/-- The packets are those of a codec, in the order of frames with these `pts`. -/
structure Timed (times : List Int64) (packets : List MediaPacketData) : Prop where
  encoded : forall packet, packet ∈ packets -> Encoded packet.media packet.type
  sorted : (ptsOf packets).Pairwise (· ≤ ·)
  known : forall pts, pts ∈ ptsOf packets -> pts ∈ times

namespace Timed

variable {times times' : List Int64} {packets packets' : List MediaPacketData}

theorem nil (times : List Int64) : Timed times [] where
  encoded := List.forall_mem_nil _
  sorted := .nil
  known := List.forall_mem_nil _

theorem append (timed : Timed times packets) (others : Timed times' packets')
    (sorted : (times ++ times').Pairwise (· ≤ ·)) : Timed (times ++ times') (packets ++ packets') where
  encoded := by
    intro packet member
    rcases List.mem_append.mp member with first | second
    · exact timed.encoded packet first
    · exact others.encoded packet second
  sorted := by
    rw [ptsOf_append]
    refine List.pairwise_append.mpr ⟨timed.sorted, others.sorted, ?_⟩
    intro first firstIn second secondIn
    exact (List.pairwise_append.mp sorted).2.2 first (timed.known first firstIn) second (others.known second secondIn)
  known := by
    intro pts member
    rw [ptsOf_append] at member
    rcases List.mem_append.mp member with first | second
    · exact List.mem_append_left _ (timed.known pts first)
    · exact List.mem_append_right _ (others.known pts second)

/-- The packets of one frame. -/
theorem frame {pts : Int64} (made : forall packet, packet ∈ packets -> OfFrame pts packet) : Timed [pts] packets := by
  have here : forall time, time ∈ ptsOf packets -> time = pts := by
    intro time member
    rcases List.mem_map.mp member with ⟨media, within, same⟩
    rcases List.mem_filterMap.mp within with ⟨packet, inside, found⟩
    rcases made packet inside with ⟨media', new, frame⟩
    rw [new] at found
    rw [← same, ← Option.some.inj found, frame]
  refine ⟨?_, ?_, ?_⟩
  · intro packet member
    rcases made packet member with ⟨media, new, -⟩
    rw [new]
    exact .video media
  · apply List.pairwise_of_forall_mem_list
    intro first firstIn second secondIn
    rw [here first firstIn, here second secondIn]
    exact Int64.le_refl pts
  · intro time member
    rw [here time member]
    exact List.mem_cons_self

/-- An audio packet may be put between. -/
theorem audio (timed : Timed times (packets ++ packets')) (data : AudioMediaPacketData) :
    Timed times (packets ++ .create (.audio data) 0 :: packets') := by
  have same : ptsOf (packets ++ .create (.audio data) 0 :: packets') = ptsOf (packets ++ packets') := by
    rw [ptsOf_append, ptsOf_append]
    rfl
  refine ⟨?_, ?_, ?_⟩
  · intro packet member
    rcases List.mem_append.mp member with first | rest
    · exact timed.encoded packet (List.mem_append_left _ first)
    · rcases List.mem_cons.mp rest with here | second
      · rw [here]
        exact .audio data
      · exact timed.encoded packet (List.mem_append_right _ second)
  · rw [same]
    exact timed.sorted
  · rw [same]
    exact timed.known

end Timed

theorem encode_timed {extradata : List UInt8} {outputs : List EncoderOutput} {pkts after : List MediaPacketData}
    (sorted : (outputs.map EncoderOutput.pts).Pairwise (· ≤ ·)) (encoded : encode extradata outputs pkts = .ok after) :
    Exists fun packets => after = pkts ++ packets ∧ Timed (outputs.map EncoderOutput.pts) packets := by
  induction outputs generalizing pkts with
  | nil =>
      refine ⟨[], ?_, Timed.nil _⟩
      rw [List.append_nil]
      exact (Outcome.ok.inj encoded).symm
  | cons output outputs inductionHypothesis =>
      rw [encode, List.foldlM_cons] at encoded
      rcases Outcome.bind_eq_ok encoded with ⟨middle, parsed, rest⟩
      rcases parseH264_pts parsed with ⟨packets, rfl, made⟩
      rcases inductionHypothesis (List.pairwise_cons.mp sorted).2 rest with ⟨others, split, timed⟩
      refine ⟨packets ++ others, ?_, (Timed.frame made).append timed sorted⟩
      rw [split, List.append_assoc]

/-! ## The invariant -/

namespace Publisher

/-- Every packet on its way to the transport, the oldest first. -/
def packets (publisher : Publisher) : List MediaPacketData :=
  publisher.popped ++ (publisher.datalist ++ publisher.outpkts)

/-- The packets are in the order of their frames, and what was popped has been
sent, each unit with the counter in front of it. -/
structure Ordered (publisher : Publisher) : Prop where
  timed : Timed publisher.encoded publisher.packets
  messages : publisher.videoMessages = messagesFrom publisher.streamid 0 (videoPackets publisher.popped)
  counter : publisher.timestamps.video = stamp (videoPackets publisher.popped).length

namespace Ordered

variable {publisher next : Publisher}

theorem new (extradata : List UInt8) (streamid : UInt32) : (Publisher.new extradata streamid).Ordered where
  timed := Timed.nil []
  messages := rfl
  counter := rfl

theorem encode {outputs : List EncoderOutput} {outpkts : List MediaPacketData} (ordered : publisher.Ordered)
    (empty : publisher.outpkts = [])
    (sorted : (publisher.encoded ++ outputs.map EncoderOutput.pts).Pairwise (· ≤ ·))
    (encoded : Media.encode publisher.extradata outputs [] = .ok outpkts) :
    Ordered { publisher with outpkts, encoded := publisher.encoded ++ outputs.map EncoderOutput.pts } where
  timed := by
    rcases encode_timed (List.pairwise_append.mp sorted).2.1 encoded with ⟨new, split, timed⟩
    rw [List.nil_append] at split
    have packets : publisher.popped ++ (publisher.datalist ++ outpkts) = publisher.packets ++ new := by
      rw [Publisher.packets, empty, split, List.append_nil, List.append_assoc]
    show Timed _ (publisher.popped ++ (publisher.datalist ++ outpkts))
    rw [packets]
    exact ordered.timed.append timed sorted
  messages := ordered.messages
  counter := ordered.counter

theorem push {data : MediaPacketData} {outpkts : List MediaPacketData} (ordered : publisher.Ordered)
    (front : publisher.outpkts = data :: outpkts) :
    Ordered { publisher with outpkts, datalist := publisher.datalist ++ [data] } where
  timed := by
    have packets : publisher.popped ++ (publisher.datalist ++ [data] ++ outpkts) = publisher.packets := by
      rw [Publisher.packets, front, List.append_assoc, List.singleton_append]
    show Timed _ (publisher.popped ++ (publisher.datalist ++ [data] ++ outpkts))
    rw [packets]
    exact ordered.timed
  messages := ordered.messages
  counter := ordered.counter

theorem record (ordered : publisher.Ordered) (data : AudioMediaPacketData) :
    Ordered { publisher with datalist := publisher.datalist ++ [.create (.audio data) 0] } where
  timed := by
    have timed := ordered.timed
    rw [packets, ← List.append_assoc] at timed
    show Timed _ (publisher.popped ++ (publisher.datalist ++ [.create (.audio data) 0] ++ publisher.outpkts))
    rw [List.append_assoc, ← List.append_assoc, List.singleton_append]
    exact timed.audio data
  messages := ordered.messages
  counter := ordered.counter

theorem send_eq {data : MediaPacketData} (sent : publisher.send data = some next) :
    next = { publisher with
      timestamps := (timerPackets publisher.timestamps data.media data.type).2
      sent := publisher.sent ++
        (timerPackets publisher.timestamps data.media data.type).1.map (.of publisher.streamid data.media) } := by
  unfold send at sent
  simp only at sent
  split at sent
  · exact (Option.some.inj sent).symm
  · cases sent

/-- One packet of the loop of `onTimer`. -/
theorem visit {data : MediaPacketData} {datalist : List MediaPacketData} (ordered : publisher.Ordered)
    (front : publisher.datalist = data :: datalist) (sent : publisher.send data = some next) :
    Ordered { next with datalist, popped := next.popped ++ [data] } := by
  have packets : publisher.popped ++ [data] ++ (datalist ++ publisher.outpkts) = publisher.packets := by
    rw [Publisher.packets, front, List.append_assoc]
    rfl
  have fits : Encoded data.media data.type := by
    apply ordered.timed.encoded
    rw [← packets]
    exact List.mem_append_left _ (List.mem_append_right _ List.mem_cons_self)
  rw [send_eq sent]
  refine ⟨?_, ?_, ?_⟩
  · show Timed _ (publisher.popped ++ [data] ++ (datalist ++ publisher.outpkts))
    rw [packets]
    exact ordered.timed
  · show (publisher.sent ++ _).filter _ = messagesFrom _ 0 (videoPackets (publisher.popped ++ [data]))
    have before : publisher.sent.filter SentMessage.onVideoStream = _ := ordered.messages
    rw [List.filter_append, before, videoPackets_append, messagesFrom_append, Nat.zero_add]
    congr 1
    rcases data with ⟨media, type, shareCnt⟩
    cases fits with
    | audio data => rfl
    | video data =>
        show ((configPackets data ++ [framePacket publisher.timestamps.video data]).map _).filter _ =
          (configPackets data).map _ ++ [naluMessage _ _ data]
        rw [ordered.counter, configPackets]
        split <;> rfl
  · show (timerPackets _ data.media data.type).2.video = stamp (videoPackets (publisher.popped ++ [data])).length
    rw [videoPackets_append, List.length_append]
    rcases data with ⟨media, type, shareCnt⟩
    cases fits with
    | audio data => exact ordered.counter
    | video data =>
        show publisher.timestamps.video + 40 = stamp ((videoPackets publisher.popped).length + 1)
        rw [ordered.counter, stamp_succ]

theorem onTimerLoop {datalist : List MediaPacketData} (ordered : publisher.Ordered)
    (all : publisher.datalist = datalist) (taken : Publisher.onTimerLoop datalist publisher = some next) :
    next.Ordered := by
  induction datalist generalizing publisher with
  | nil =>
      rw [← Option.some.inj taken]
      exact ordered
  | cons data datalist inductionHypothesis =>
      rcases Option.bind_eq_some_iff.mp taken with ⟨middle, sent, rest⟩
      exact inductionHypothesis (ordered.visit all sent) rfl rest

theorem step {input : Input} (ordered : publisher.Ordered) (taken : publisher.step input = some next) :
    next.Ordered := by
  cases input with
  | yuvDataIsAvailable outputs =>
      rw [Publisher.step] at taken
      split at taken
      next ready =>
        split at taken
        next outpkts encoded =>
          rw [← Option.some.inj taken]
          exact ordered.encode ready.1 ready.2 encoded
        next => cases taken
      next => cases taken
  | push =>
      rw [Publisher.step] at taken
      split at taken
      next => cases taken
      next data outpkts found =>
        rw [← Option.some.inj taken]
        exact ordered.push found
  | recordDataIsAvailable data =>
      rw [← Option.some.inj taken]
      exact ordered.record data
  | onTimer => exact ordered.onTimerLoop rfl taken

end Ordered

/-- In every run the video timestamps follow the frames exactly if what the timer
has handled are frames of one unit with the key frames first. -/
theorem followsFrames_iff (extradata : List UInt8) (streamid : UInt32) (inputs : List Input) (publisher : Publisher)
    (ran : runAll step (new extradata streamid) inputs = some publisher) :
    FollowsFrames publisher.videoMessages <-> OneUnitFrames (videoPackets publisher.popped) := by
  have preserved : forall before input after, Ordered before -> before.step input = some after -> after.Ordered :=
    fun _ _ _ ordered taken => ordered.step taken
  have ordered := runAll_invariant preserved (Ordered.new extradata streamid) ran
  have sorted := ordered.timed.sorted
  rw [packets, ptsOf_append] at sorted
  rw [ordered.messages]
  exact followsFrames_messages publisher.streamid (List.pairwise_append.mp sorted).1

/-- A key frame and another frame, each of one unit. -/
theorem followsFrames_iff_two : Exists fun publisher =>
    runAll step (new [0, 0, 0, 1, 0x67, 0x42, 0, 0x1f, 0, 0, 0, 1, 0x68, 0xce] 1)
        [.yuvDataIsAvailable [⟨[0, 0, 1, 0x65, 0x9a], 0, 0⟩], .push, .onTimer,
          .yuvDataIsAvailable [⟨[0, 0, 1, 0x41, 0x9a], 1, 1⟩], .push, .onTimer] = some publisher ∧
      (FollowsFrames publisher.videoMessages <-> OneUnitFrames (videoPackets publisher.popped)) := by
  have ran : (runAll step (new [0, 0, 0, 1, 0x67, 0x42, 0, 0x1f, 0, 0, 0, 1, 0x68, 0xce] 1)
      [.yuvDataIsAvailable [⟨[0, 0, 1, 0x65, 0x9a], 0, 0⟩], .push, .onTimer,
        .yuvDataIsAvailable [⟨[0, 0, 1, 0x41, 0x9a], 1, 1⟩], .push, .onTimer]).isSome = true := by
    decide +kernel
  rcases Option.isSome_iff_exists.mp ran with ⟨publisher, reached⟩
  exact ⟨publisher, reached, followsFrames_iff _ _ _ _ reached⟩

/-- Two units of one frame get two timestamps, and a key frame that comes third
sends its configuration with timestamp 0 behind 40. -/
theorem timestamps_astray :
    (¬ forall publisher, runAll step (new [] 1)
        [.yuvDataIsAvailable [⟨[0, 0, 1, 0x41, 0x9a, 0, 0, 1, 0x41, 0x9b], 0, 0⟩], .push, .push, .onTimer] =
          some publisher -> FollowsFrames publisher.videoMessages) ∧
      ¬ forall publisher, runAll step (new [0, 0, 0, 1, 0x67, 0x42, 0, 0x1f, 0, 0, 0, 1, 0x68, 0xce] 1)
        [.yuvDataIsAvailable [⟨[0, 0, 1, 0x65, 0x9a], 0, 0⟩, ⟨[0, 0, 1, 0x41, 0x9a], 1, 1⟩,
          ⟨[0, 0, 1, 0x65, 0x9a], 2, 2⟩], .push, .push, .push, .onTimer] = some publisher ->
            FollowsFrames publisher.videoMessages := by
  constructor
  · intro follows
    have ran : (runAll step (new [] 1)
        [.yuvDataIsAvailable [⟨[0, 0, 1, 0x41, 0x9a, 0, 0, 1, 0x41, 0x9b], 0, 0⟩], .push, .push, .onTimer]).map
          (fun publisher => publisher.videoMessages.map fun message =>
            (message.isNalu, message.pts, message.timestamp)) = some [(true, 0, 0), (true, 0, 40)] := by
      decide +kernel
    rcases Option.map_eq_some_iff.mp ran with ⟨publisher, reached, messages⟩
    rcases List.map_eq_cons_iff.mp messages with ⟨first, rest, split, isFirst, rest_eq⟩
    rcases List.map_eq_cons_iff.mp rest_eq with ⟨second, none, split', isSecond, -⟩
    rw [Prod.mk.injEq, Prod.mk.injEq] at isFirst isSecond
    have both := (follows publisher reached).sameFrame first second
    rw [split, split'] at both
    have same := both List.mem_cons_self (List.mem_cons_of_mem first List.mem_cons_self) isFirst.1 isSecond.1
      (isFirst.2.1.trans isSecond.2.1.symm)
    rw [isFirst.2.2, isSecond.2.2] at same
    cases same
  · intro follows
    have ran : (runAll step (new [0, 0, 0, 1, 0x67, 0x42, 0, 0x1f, 0, 0, 0, 1, 0x68, 0xce] 1)
        [.yuvDataIsAvailable [⟨[0, 0, 1, 0x65, 0x9a], 0, 0⟩, ⟨[0, 0, 1, 0x41, 0x9a], 1, 1⟩,
          ⟨[0, 0, 1, 0x65, 0x9a], 2, 2⟩], .push, .push, .push, .onTimer]).map
        (fun publisher => ((publisher.videoMessages.take 4).countP SentMessage.isNalu,
          (publisher.videoMessages.take 4).map SentMessage.timestamp)) = some (2, [0, 0, 40, 0]) := by
      decide +kernel
    rcases Option.map_eq_some_iff.mp ran with ⟨publisher, reached, messages⟩
    rw [Prod.mk.injEq] at messages
    have ascending := (follows publisher reached).ascending 4
    rw [messages.1, messages.2] at ascending
    exact absurd (ascending (by decide)) (by decide)

end Publisher

end Media
end RtmpClient
