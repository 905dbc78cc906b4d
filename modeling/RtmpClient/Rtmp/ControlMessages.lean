import RtmpClient.Rtmp.PacketLength

namespace RtmpClient
namespace Rtmp

open Library Net

/-!
# What control messages do to the receiver

`on_recv_message` acts on three message types.  What it should do is a fold
over the fields that were encoded; what it does depends on the decoders, and
the one for user control messages looks at nothing.
-/

/-- The message that carries a packet: its type and its encoded body.  The
other header fields are whatever the chunks said. -/
def messageOf (header : RtmpHeader) (packet : RtmpPacket) : RtmpMessage where
  rtmpHeader := { header with
    msgLength := UInt32.ofNat packet.getPkgLen
    msgTypeId := packet.getMsgType }
  rtmpBody := packet.payload.getD []
  rtmpBodyLen := UInt32.ofNat packet.getPkgLen

/-- The packets that `on_recv_message` acts on. -/
inductive ControlPacket where
  | setChunkSize (packet : RtmpSetChunkSizePacket)
  | setWindowAckSize (packet : RtmpSetWindowAckSizePacket)
  | userControl (packet : RtmpUserControlPacket)
  deriving DecidableEq, Repr

namespace ControlPacket

def toPacket : ControlPacket -> RtmpPacket
  | setChunkSize packet => .setChunkSize packet
  | setWindowAckSize packet => .setWindowAckSize packet
  | userControl packet => .userControl packet

/-- The buffer length that a packet announces. -/
def bufferLength : ControlPacket -> Option Int32
  | userControl packet => if packet.eventType = rtmpPcucSetBufferLength then some packet.eventData else none
  | _ => none

end ControlPacket

/-- What the peer has set. -/
structure ControlSettings where
  inChunkSize : UInt32
  inAckWindow : UInt32
  inBufferLength : Int32
  deriving DecidableEq, Repr

namespace ControlSettings

/-- Before any message. -/
def initial : ControlSettings where
  inChunkSize := 128
  inAckWindow := 0
  inBufferLength := 0

/-- The meaning of one packet. -/
def apply (settings : ControlSettings) : ControlPacket -> ControlSettings
  | .setChunkSize packet =>
      if packet.chunkSize.toUInt32 < 128 then settings
      else { settings with inChunkSize := packet.chunkSize.toUInt32 }
  | .setWindowAckSize packet =>
      if packet.windowAckSize > 0 then { settings with inAckWindow := packet.windowAckSize.toUInt32 }
      else settings
  | .userControl packet =>
      if packet.eventType = rtmpPcucSetBufferLength then { settings with inBufferLength := packet.eventData }
      else settings

/-- The settings a transport holds. -/
def ofTransport (transport : RtmpMessageTransport) : ControlSettings where
  inChunkSize := transport.inChunkSize
  inAckWindow := transport.inAckWindow
  inBufferLength := transport.inBufferLength

end ControlSettings

/-- `on_recv_message` on one message after the other. -/
def recvControls (transport : RtmpMessageTransport) : List (RtmpHeader × ControlPacket) ->
    Outcome RtmpMessageTransport
  | [] => .ok transport
  | (header, packet) :: later => do
      let next ← onRecvMessage transport (messageOf header packet.toPacket)
      recvControls next later

/-- The transport ends with the settings that the packets mean. -/
def ControlsTakeEffect (stale : UInt32 -> UInt32) (messages : List (RtmpHeader × ControlPacket)) : Prop :=
  Exists fun after => recvControls (RtmpMessageTransport.new stale) messages = .ok after ∧
    ControlSettings.ofTransport after = (messages.map Prod.snd).foldl ControlSettings.apply .initial

/-! ## One message -/

theorem body_setChunkSize (packet : RtmpSetChunkSizePacket) :
    (RtmpPacket.setChunkSize packet).Body (writeInt32 packet.chunkSize) :=
  ⟨writeInt32_length _, writeChecked_emits (writeInt32_length _)⟩

theorem body_setWindowAckSize (packet : RtmpSetWindowAckSizePacket) :
    (RtmpPacket.setWindowAckSize packet).Body (writeInt32 packet.windowAckSize) :=
  ⟨writeInt32_length _, writeChecked_emits (writeInt32_length _)⟩

theorem onRecvMessage_toPacket_setChunkSize (transport : RtmpMessageTransport) (header : RtmpHeader)
    (packet : RtmpSetChunkSizePacket) :
    onRecvMessage transport (messageOf header (.setChunkSize packet)) =
      .ok (if packet.chunkSize.toUInt32 < 128 then transport
        else { transport with inChunkSize := packet.chunkSize.toUInt32 }) := by
  have decoded := RtmpSetChunkSizePacket.decode_encodePkg .new packet [] (Int.le_refl 4)
  rw [List.append_nil, RtmpSetChunkSizePacket.encodePkg] at decoded
  have body : (messageOf header (.setChunkSize packet)).rtmpBody = writeInt32 packet.chunkSize := by
    rw [messageOf, (body_setChunkSize packet).payload_eq, Option.getD_some]
  have length : asInt (messageOf header (.setChunkSize packet)).rtmpBodyLen = 4 := rfl
  have type : (messageOf header (.setChunkSize packet)).rtmpHeader.msgTypeId = rtmpMsgSetChunkSize := rfl
  rw [onRecvMessage, if_pos type, body, length, decoded]
  by_cases low : packet.chunkSize.toUInt32 < 128
  · rw [if_pos low]
    exact if_pos low
  · rw [if_neg low]
    exact if_neg low

theorem onRecvMessage_toPacket_setWindowAckSize (transport : RtmpMessageTransport) (header : RtmpHeader)
    (packet : RtmpSetWindowAckSizePacket) :
    onRecvMessage transport (messageOf header (.setWindowAckSize packet)) =
      .ok (if packet.windowAckSize > 0 then { transport with inAckWindow := packet.windowAckSize.toUInt32 }
        else transport) := by
  have decoded := RtmpSetWindowAckSizePacket.decode_write .new packet [] (Int.le_refl 4)
  rw [List.append_nil] at decoded
  have body : (messageOf header (.setWindowAckSize packet)).rtmpBody = writeInt32 packet.windowAckSize := by
    rw [messageOf, (body_setWindowAckSize packet).payload_eq, Option.getD_some]
  have length : asInt (messageOf header (.setWindowAckSize packet)).rtmpBodyLen = 4 := rfl
  have type : (messageOf header (.setWindowAckSize packet)).rtmpHeader.msgTypeId =
      rtmpMsgWindowAcknowledgementSize := rfl
  have notChunkSize : ¬ rtmpMsgWindowAcknowledgementSize = rtmpMsgSetChunkSize := by decide
  have notUserControl : ¬ rtmpMsgWindowAcknowledgementSize = rtmpMsgUserControlMessage := by decide
  rw [onRecvMessage, type, if_neg notChunkSize, if_neg notUserControl, if_pos rfl, body, length, decoded]
  simp only
  split <;> rfl

/-- The decoder leaves the event type of the constructor, which is not the one
that announces a buffer length. -/
theorem onRecvMessage_toPacket_userControl (transport : RtmpMessageTransport) (header : RtmpHeader)
    (packet : RtmpUserControlPacket) :
    onRecvMessage transport (messageOf header (.userControl packet)) = .ok transport :=
  rfl

/-- One message sets the chunk size and the window as its packet means, and
never the buffer length. -/
theorem onRecvMessage_control (transport : RtmpMessageTransport) (header : RtmpHeader)
    (packet : ControlPacket) :
    Exists fun after => onRecvMessage transport (messageOf header packet.toPacket) = .ok after ∧
      ControlSettings.ofTransport after =
        { (ControlSettings.ofTransport transport).apply packet with
          inBufferLength := transport.inBufferLength } := by
  cases packet with
  | setChunkSize packet =>
      refine ⟨_, onRecvMessage_toPacket_setChunkSize transport header packet, ?_⟩
      rw [ControlSettings.apply]
      split <;> rfl
  | setWindowAckSize packet =>
      refine ⟨_, onRecvMessage_toPacket_setWindowAckSize transport header packet, ?_⟩
      rw [ControlSettings.apply]
      split <;> rfl
  | userControl packet =>
      refine ⟨_, onRecvMessage_toPacket_userControl transport header packet, ?_⟩
      rw [ControlSettings.apply]
      split <;> rfl

/-! ## All messages -/

namespace ControlSettings

theorem apply_announced (settings : ControlSettings) {packet : ControlPacket} {length : Int32}
    (announced : packet.bufferLength = some length) :
    (settings.apply packet).inBufferLength = length := by
  cases packet with
  | setChunkSize packet => cases announced
  | setWindowAckSize packet => cases announced
  | userControl packet =>
      rw [ControlPacket.bufferLength] at announced
      rw [apply]
      split at announced
      next same =>
        rw [if_pos same]
        exact Option.some.inj announced
      next => cases announced

theorem apply_unannounced (settings : ControlSettings) {packet : ControlPacket}
    (announced : packet.bufferLength = none) :
    (settings.apply packet).inBufferLength = settings.inBufferLength := by
  cases packet with
  | setChunkSize packet =>
      rw [apply]
      split <;> rfl
  | setWindowAckSize packet =>
      rw [apply]
      split <;> rfl
  | userControl packet =>
      rw [ControlPacket.bufferLength] at announced
      rw [apply]
      split at announced
      next => cases announced
      next other => rw [if_neg other]

/-- The other two settings do not depend on the buffer length. -/
theorem apply_bufferLength (settings : ControlSettings) (length : Int32) (packet : ControlPacket) :
    Exists fun next => ({ settings with inBufferLength := length } : ControlSettings).apply packet =
      { settings.apply packet with inBufferLength := next } := by
  cases packet with
  | setChunkSize packet =>
      refine ⟨length, ?_⟩
      rw [apply, apply]
      split <;> rfl
  | setWindowAckSize packet =>
      refine ⟨length, ?_⟩
      rw [apply, apply]
      split <;> rfl
  | userControl packet =>
      rw [apply, apply]
      split
      · exact ⟨packet.eventData, rfl⟩
      · exact ⟨length, rfl⟩

theorem foldl_apply_bufferLength (packets : List ControlPacket) (settings : ControlSettings)
    (length kept : Int32) :
    ({ packets.foldl apply { settings with inBufferLength := length } with inBufferLength := kept } :
        ControlSettings) =
      { packets.foldl apply settings with inBufferLength := kept } := by
  induction packets generalizing settings length with
  | nil => rfl
  | cons packet later inductionHypothesis =>
      rcases settings.apply_bufferLength length packet with ⟨next, applied⟩
      rw [List.foldl_cons, List.foldl_cons, applied]
      exact inductionHypothesis (settings.apply packet) next

/-- The buffer length is the last one announced. -/
theorem foldl_apply_announced (packets : List ControlPacket) (settings : ControlSettings) :
    (packets.foldl apply settings).inBufferLength =
      (packets.filterMap ControlPacket.bufferLength).getLast?.getD settings.inBufferLength := by
  induction packets generalizing settings with
  | nil => rfl
  | cons packet later inductionHypothesis =>
      rw [List.foldl_cons, inductionHypothesis]
      cases announced : packet.bufferLength with
      | none => rw [List.filterMap_cons_none announced, settings.apply_unannounced announced]
      | some length =>
          rw [List.filterMap_cons_some announced, List.getLast?_cons, Option.getD_some,
            settings.apply_announced announced]

end ControlSettings

/-- All messages are taken in.  The chunk size and the window follow the
fold; the buffer length is never touched. -/
theorem recvControls_settings (transport : RtmpMessageTransport)
    (messages : List (RtmpHeader × ControlPacket)) :
    Exists fun after => recvControls transport messages = .ok after ∧
      ControlSettings.ofTransport after =
        { (messages.map Prod.snd).foldl ControlSettings.apply (.ofTransport transport) with
          inBufferLength := transport.inBufferLength } := by
  induction messages generalizing transport with
  | nil => exact ⟨transport, rfl, rfl⟩
  | cons message later inductionHypothesis =>
      rcases onRecvMessage_control transport message.1 message.2 with ⟨next, received, settings⟩
      rcases inductionHypothesis next with ⟨after, run, result⟩
      refine ⟨after, ?_, ?_⟩
      · rw [recvControls, received]
        exact run
      · have kept : next.inBufferLength = transport.inBufferLength :=
          congrArg ControlSettings.inBufferLength settings
        rw [result, settings, kept]
        exact ControlSettings.foldl_apply_bufferLength _ _ _ _

/-- Exactly the sequences whose last announced buffer length, if any, is zero
end with the settings they mean: the decoder of user control messages reads
nothing, so no announcement arrives. -/
theorem controlsTakeEffect_iff (stale : UInt32 -> UInt32) (messages : List (RtmpHeader × ControlPacket)) :
    ControlsTakeEffect stale messages ↔
      forall length, ((messages.map Prod.snd).filterMap ControlPacket.bufferLength).getLast? = some length ->
        length = 0 := by
  rcases recvControls_settings (RtmpMessageTransport.new stale) messages with ⟨after, run, result⟩
  have meant := ControlSettings.foldl_apply_announced (messages.map Prod.snd) .initial
  constructor
  · rintro ⟨same, again, settings⟩ length announced
    have equal : after = same := Outcome.ok.inj (run.symm.trans again)
    rw [announced, ← settings, ← equal, result] at meant
    exact meant.symm
  · intro zero
    refine ⟨after, run, result.trans ?_⟩
    have last : ((messages.map Prod.snd).filterMap ControlPacket.bufferLength).getLast?.getD 0 = 0 := by
      cases announced : ((messages.map Prod.snd).filterMap ControlPacket.bufferLength).getLast? with
      | none => rfl
      | some length => exact zero length announced
    rw [show ControlSettings.initial.inBufferLength = 0 from rfl, last] at meant
    rw [show (RtmpMessageTransport.new stale).inBufferLength = 0 from rfl, ← meant]
    rfl

/-- A buffer length of 5 ms announced by the peer never arrives. -/
theorem controlsTakeEffect_lost :
    ¬ ControlsTakeEffect (fun _ => 0)
      [(RtmpHeader.new, .userControl { RtmpUserControlPacket.new with
        eventType := rtmpPcucSetBufferLength, eventData := 5 })] := by
  rintro ⟨after, run, settings⟩
  have unchanged : RtmpMessageTransport.new (fun _ => 0) = after := Outcome.ok.inj run
  rw [← unchanged] at settings
  have differ : (0 : Int32) = 5 := congrArg ControlSettings.inBufferLength settings
  exact absurd differ (by decide)

end Rtmp
end RtmpClient
