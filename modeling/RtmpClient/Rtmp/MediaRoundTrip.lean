import RtmpClient.Rtmp.MediaBounds
import RtmpClient.Rtmp.PacketLength

namespace RtmpClient
namespace Rtmp

open Library Net

/-!
# Media packets survive decoding

What an encoder of media writes is what the decoder of its message type reads.
The class is found again in the second byte, the lengths of the parameter sets
and of the NAL unit in front of them.
-/

namespace RtmpPacket

/-- The packets of media whose lengths fit the fields that carry them. -/
inductive Media : RtmpPacket -> Prop where
  | audio (packet : RtmpAudioPacket) : Media (.audio packet)
  | avc {packet : RtmpAvcPacket} (profile : 4 ≤ packet.sps.length) (spsShort : packet.sps.length ≤ 65535)
      (ppsShort : packet.pps.length ≤ 65535) : Media (.avc packet)
  | video {packet : RtmpVideoPacket} {nalu : List UInt8} (single : packet.naluItem = [nalu])
      (short : nalu.length < 2 ^ 31 - 9) : Media (.video packet)

/-- The same class with the same payload.  The format byte of an audio packet
and the timestamps are the message's. -/
def SameMedia : RtmpPacket -> RtmpPacket -> Prop
  | audio packet, audio found => found.data = packet.data
  | avc packet, avc found => found.sps = packet.sps ∧ found.pps = packet.pps
  | video packet, video found => found.naluItem = packet.naluItem ∧ found.keyframe = packet.keyframe
  | _, _ => False

/-! ## What the encoders write -/

theorem audio_body (packet : RtmpAudioPacket) : Body (.audio packet) (0x82 :: packet.data) := by
  constructor
  · rw [List.length_cons, Nat.add_comm]
    rfl
  · have emits : Emits packet.encodePkg ([0x82] ++ (packet.data ++ [])) :=
      .cons (.copied _) (.cons (.copied _) .nil)
    rw [List.append_nil] at emits
    exact emits

/-- The eleven bytes in front of the lengths. -/
def avcHead (profile compatibility level : UInt8) : List UInt8 :=
  [0x17, 0x00, 0x00, 0x00, 0x00, 0x01, profile, compatibility, level, 0xfc ||| 3, 0xe0 ||| 1]

theorem avc_body {packet : RtmpAvcPacket} (profile : 4 ≤ packet.sps.length) :
    Exists fun profile => Exists fun compatibility => Exists fun level =>
      Body (.avc packet) (avcHead profile compatibility level ++
        (writeInt16 (Int16.ofNat packet.sps.length) ++ (packet.sps ++ ([0x01] ++
          (writeInt16 (Int16.ofNat packet.pps.length) ++ (packet.pps ++ [])))))) := by
  have written := RtmpAvcPacket.encodePkg_eq profile
  generalize packet.sps[1] = profile, packet.sps[2] = compatibility, packet.sps[3] = level at written
  refine ⟨profile, compatibility, level, ?_, ?_⟩
  · simp only [avcHead, List.length_append, List.length_cons, List.length_nil, writeInt16_length, getPkgLen,
      RtmpAvcPacket.getPkgLen]
    omega
  · rw [encodePkg, written]
    have emits : Emits (packet.writeRecord profile compatibility level) (_ ++ (_ ++ (_ ++ _))) :=
      .cons (.copied _) (.cons (.copied _) (.cons (.copied _) (.cons (.copied _) (.cons (.copied _)
        (.cons (.copied _) (.cons (.copied _) .nil))))))
    exact emits

theorem video_body {packet : RtmpVideoPacket} {nalu : List UInt8} (single : packet.naluItem = [nalu]) :
    Body (.video packet) ([if packet.keyframe then 0x17 else 0x27, 0x01, 0x00, 0x00, 0x00] ++
      unitsEncoding [nalu]) := by
  constructor
  · simp only [unitsEncoding, List.flatMap_cons, List.flatMap_nil, List.length_append, List.length_cons, List.length_nil,
      writeUint32_length, getPkgLen, RtmpVideoPacket.getPkgLen, single, List.headD_cons]
    omega
  · have written : packet.encodePkg = packet.writeNalu nalu := by
      funext size
      rw [RtmpVideoPacket.encodePkg, single]
      rfl
    rw [encodePkg, written, unitsEncoding_cons]
    exact .cons (.copied _) (.cons (.copied _) (.cons (.copied _) .nil))

/-! ## What the decoders find -/

theorem decode_audio_body {msg : RtmpMessage} (packet : RtmpAudioPacket)
    (audio : msg.rtmpHeader.msgTypeId = rtmpMsgAudioMessage) (body : msg.rtmpBody = 0x82 :: packet.data) :
    decodeMediaMsg msg = .ok (some (.audio ⟨0x82, msg.rtmpHeader.timestamp, packet.data⟩)) := by
  rw [decodeMediaMsg_audio audio, body, RtmpAudioPacket.decode_cons]
  rfl

theorem decode_avc_body {msg : RtmpMessage} {packet : RtmpAvcPacket} (spsShort : packet.sps.length ≤ 65535)
    (ppsShort : packet.pps.length ≤ 65535) (video : msg.rtmpHeader.msgTypeId = rtmpMsgVideoMessage)
    {profile compatibility level : UInt8}
    (body : msg.rtmpBody = avcHead profile compatibility level ++
      (writeInt16 (Int16.ofNat packet.sps.length) ++ (packet.sps ++ ([0x01] ++
        (writeInt16 (Int16.ofNat packet.pps.length) ++ (packet.pps ++ [])))))) :
    decodeMediaMsg msg = .ok (some (.avc packet)) := by
  have configuration : Configuration msg.rtmpBody packet.sps packet.pps := by
    refine ⟨Nat.lt_succ_of_le spsShort, Nat.lt_succ_of_le ppsShort, ?_, 0x01, [], ?_⟩
    · rw [body, List.length_append]
      exact Nat.le_add_right 11 _
    · rw [body]
      rfl
  have notAudio : msg.rtmpHeader.msgTypeId ≠ rtmpMsgAudioMessage := by
    rw [video]
    decide
  rw [decodeMediaMsg_video notAudio body, if_pos rfl, RtmpAvcPacket.decode_configuration _ configuration]

theorem decode_video_body {msg : RtmpMessage} {keyframe : Bool} {nalu : List UInt8} (short : nalu.length < 2 ^ 31 - 9)
    (video : msg.rtmpHeader.msgTypeId = rtmpMsgVideoMessage)
    (body : msg.rtmpBody =
      [if keyframe then 0x17 else 0x27, 0x01, 0x00, 0x00, 0x00] ++ unitsEncoding [nalu]) :
    decodeMediaMsg msg = .ok (some (.video ⟨msg.rtmpHeader.timestamp, [nalu], keyframe⟩)) := by
  have notAudio : msg.rtmpHeader.msgTypeId ≠ rtmpMsgAudioMessage := by
    rw [video]
    decide
  have units : Units (msg.rtmpBody.drop 5) [nalu] := by
    constructor
    · intro other member
      rw [List.mem_singleton.mp member]
      omega
    · rw [body]
      rfl
  have flag : decide (msg.rtmpBody.head? = some 0x17) = keyframe := by
    rw [body]
    cases keyframe <;> rfl
  have nonempty : msg.rtmpBody ≠ [] := by
    rw [body]
    exact List.cons_ne_nil _ _
  have decoded := (RtmpVideoPacket.decode_ok_iff (.new msg.rtmpHeader.timestamp false) _ msg.rtmpBody).mpr
    ⟨[nalu], nonempty, units, rfl⟩
  rw [decodeMediaMsg_video notAudio body, if_neg (by decide), if_pos rfl, decoded, flag]
  rfl

/-- What an encoder of media writes, the decoder of its message type reads back
as the same packet. -/
theorem media_roundTrip (packet : RtmpPacket) (media : packet.Media) :
    Exists fun body => packet.encodePkg packet.getPkgLen = .ok body ∧ packet.payload = some body ∧
      forall msg, msg.rtmpHeader.msgTypeId = packet.getMsgType -> msg.rtmpBody = body ->
        Exists fun found => decodeMediaMsg msg = .ok (some found) ∧ packet.SameMedia found := by
  cases media with
  | audio packet =>
      have written := audio_body packet
      exact ⟨_, written.2 _ (Nat.le_of_eq written.1), written.payload_eq, fun msg type body =>
        ⟨_, decode_audio_body packet type body, rfl⟩⟩
  | avc profile spsShort ppsShort =>
      rcases avc_body profile with ⟨_, _, _, written⟩
      exact ⟨_, written.2 _ (Nat.le_of_eq written.1), written.payload_eq, fun msg type body =>
        ⟨_, decode_avc_body spsShort ppsShort type body, rfl, rfl⟩⟩
  | video single short =>
      have written := video_body single
      exact ⟨_, written.2 _ (Nat.le_of_eq written.1), written.payload_eq, fun msg type body =>
        ⟨_, decode_video_body short type body, single.symm, rfl⟩⟩

/-- A key frame of three bytes. -/
theorem media_roundTrip_keyframe :
    let packet : RtmpPacket := .video { timestamp := 40, naluItem := [[0x65, 0x88, 0x84]], keyframe := true }
    Exists fun body => packet.encodePkg packet.getPkgLen = .ok body ∧ packet.payload = some body ∧
      forall msg, msg.rtmpHeader.msgTypeId = packet.getMsgType -> msg.rtmpBody = body ->
        Exists fun found => decodeMediaMsg msg = .ok (some found) ∧ packet.SameMedia found :=
  media_roundTrip _ (.video rfl (by decide))

end RtmpPacket

end Rtmp
end RtmpClient
