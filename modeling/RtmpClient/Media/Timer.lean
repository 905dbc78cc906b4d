import RtmpClient.Media.MediaData
import RtmpClient.Rtmp.PacketClasses

namespace RtmpClient
namespace Media

open Library Rtmp

/-!
# What the timer sends (`rtmpclient.cc`)

The body of the loop in `RtmpPublishClient::onTimer` for one queued packet.  The
packets are those that it hands to `sendRtmpPacket`, in this order.
-/

/-- `video_timestamp` and `audio_timestamp`. -/
structure Timestamps where
  video : UInt32
  audio : UInt32
  deriving DecidableEq, Repr

namespace Timestamps

/-- The constructor of `RtmpPublishClient`. -/
def new : Timestamps where
  video := 0
  audio := 0

end Timestamps

/-- `RtmpAVCPacket`, for a key frame. -/
def configPackets (data : VideoMediaPacketData) : List RtmpPacket :=
  if data.keyframe then [.avc { sps := data.sps, pps := data.pps }] else []

/-- `RtmpVideoPacket`. -/
def framePacket (timestamp : UInt32) (data : VideoMediaPacketData) : RtmpPacket :=
  .video { timestamp, naluItem := [data.data], keyframe := data.keyframe }

/-- `RtmpAudioPacket`.  The constructor leaves `flag` unset, and nothing that
is sent depends on it. -/
def audioPacket (timestamp : UInt32) (data : AudioMediaPacketData) : RtmpPacket :=
  .audio { flag := 0, timestamp, data := data.data }

/-- What is sent for a queued packet, given its `media` and `type`.  The
branches without a packet are those of a failed `dynamic_cast`. -/
def timerPackets (timestamps : Timestamps) (media : MediaData) (type : Int) : List RtmpPacket × Timestamps :=
  if type = 1 then
    match media with
    | .video data =>
        (configPackets data ++ [framePacket timestamps.video data],
          { timestamps with video := timestamps.video + 40 })
    | .audio _ => ([], timestamps)
  else if type = 0 then
    match media with
    | .audio data => ([audioPacket timestamps.audio data], { timestamps with audio := timestamps.audio + 20 })
    | .video _ => ([], timestamps)
  else ([], timestamps)

/-- What the codecs put into the queue: the type fits the class. -/
inductive Encoded : MediaData -> Int -> Prop where
  | video (data : VideoMediaPacketData) : Encoded (.video data) 1
  | audio (data : AudioMediaPacketData) : Encoded (.audio data) 0

/-- The packet carries the media data itself, not only the configuration. -/
def carriesMedia : RtmpPacket -> Bool
  | .video _ => true
  | .audio _ => true
  | _ => false

/-- For each packet of a codec its data is sent, once. -/
theorem timerPackets_media {media : MediaData} {type : Int} (encoded : Encoded media type) (timestamps : Timestamps) :
    Exists fun packet => (timerPackets timestamps media type).1.filter carriesMedia = [packet] := by
  cases encoded with
  | audio data => exact ⟨audioPacket timestamps.audio data, rfl⟩
  | video data =>
      refine ⟨framePacket timestamps.video data, ?_⟩
      show (configPackets data ++ [framePacket timestamps.video data]).filter carriesMedia = _
      rw [configPackets]
      split <;> rfl

end Media
end RtmpClient
