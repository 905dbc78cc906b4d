import RtmpClient.Rtmp.DecoderBounds

namespace RtmpClient
namespace Rtmp

open Library Amf0

/-!
# Messages whose decoder does not come to an end

`recvRtmpMessage` decodes a message before it returns.  Which bodies keep it from
returning is told by the class that `decode_msg` or `decode_media_msg` chooses:
media whose lengths are not true, and values that are deleted twice.
-/

/-- The bytes that the packet of a message begins with: a body of type AMF3
command has one byte in front. -/
def packetBytes (msg : RtmpMessage) : List UInt8 :=
  msg.rtmpBody.drop (if msg.rtmpHeader.msgTypeId = rtmpMsgAmf3CommandMessage then 1 else 0)

/-- The message as `create_msg` makes it of a chunk stream. -/
structure RtmpMessage.Whole (msg : RtmpMessage) : Prop where
  length_eq : msg.rtmpBody.length = msg.rtmpBodyLen.toNat
  small : msg.rtmpBodyLen.toNat < 2 ^ 24

theorem RtmpMessage.Whole.asInt_eq {msg : RtmpMessage} (whole : msg.Whole) :
    asInt msg.rtmpBodyLen = msg.rtmpBody.length := by
  rw [asInt_of_lt (Nat.lt_trans whole.small (by decide)), whole.length_eq]

/-! ## Requests -/

theorem decodeAt_fault_iff {α : Type} {wrap : α -> RtmpPacket} {decode : Reader UInt8 α} {offset : Nat}
    {body : List UInt8} : decodeAt wrap decode offset body = .fault ↔ decode (body.drop offset) = .fault := by
  rw [decodeAt]
  cases decode (body.drop offset) with
  | fault => exact iff_of_true rfl rfl
  | _ => exact iff_of_false (fun impossible => by cases impossible) fun impossible => by cases impossible

theorem decodeAt_ne_fault {α : Type} {wrap : α -> RtmpPacket} {decode : Reader UInt8 α} {offset : Nat}
    {body : List UInt8} (fills : Fills wrap decode (body.drop offset)) : decodeAt wrap decode offset body ≠ .fault :=
  mt decodeAt_fault_iff.mp fills.ne_fault

/-- The classes of requests whose decoders get to objects, each chosen by its
name. -/
def RequestDeletesTwice (msgTypeId : UInt8) (command data : List UInt8) : Prop :=
  if command = ascii "connect" then RtmpConnectPacket.new.DeletesTwice data
  else if command = ascii "play" then RtmpPlayPacket.new.DeletesTwice data
  else if command = ascii "@setDataFrame" ∨ command = ascii "onMetaData" then
    RtmpOnMetaDataPacket.new.DeletesTwice data
  else command ∉ branchNames ∧ (msgTypeId = rtmpMsgAmf0CommandMessage ∨ msgTypeId = rtmpMsgAmf3CommandMessage) ∧
    RtmpCallPacket.new.DeletesTwice data

theorem decodeRequest_fault_iff (msgTypeId : UInt8) (command : List UInt8) (offset : Nat) (body : List UInt8) :
    decodeRequest msgTypeId command offset body = .fault ↔
      RequestDeletesTwice msgTypeId command (body.drop offset) := by
  have plain {branch : Prop} {call : Outcome (Int × RtmpPacket)} (returns : call ≠ .fault) (no : ¬ branch) :
      call = .fault ↔ branch := iff_of_false returns no
  have nowhere {name : List UInt8} {others : Prop} (branch : name ∈ branchNames) : ¬ (name ∉ branchNames ∧ others) :=
    fun both => both.1 branch
  by_cases branch : command ∈ branchNames
  · have names := branch
    simp only [branchNames, List.mem_cons, List.not_mem_nil, or_false] at names
    rcases names with rfl | rfl | rfl | rfl | rfl | rfl | rfl | rfl | rfl | rfl | rfl
    · exact decodeAt_fault_iff.trans (RtmpConnectPacket.new.decode_fault_iff _)
    · exact plain (decodeAt_ne_fault (fills_closeStream _)) (nowhere branch)
    · exact decodeAt_fault_iff.trans (RtmpPlayPacket.new.decode_fault_iff _)
    · exact plain (decodeAt_ne_fault (fills_pause _)) (nowhere branch)
    · exact plain (decodeAt_ne_fault (fills_fmleStart _)) (nowhere branch)
    · exact plain (decodeAt_ne_fault (fills_fmleStart _)) (nowhere branch)
    · exact plain (decodeAt_ne_fault (fills_publish _)) (nowhere branch)
    · exact plain (decodeAt_ne_fault (fills_fmleStart _)) (nowhere branch)
    · exact decodeAt_fault_iff.trans (RtmpOnMetaDataPacket.new.decode_fault_iff _)
    · exact decodeAt_fault_iff.trans (RtmpOnMetaDataPacket.new.decode_fault_iff _)
    · exact plain (decodeAt_ne_fault (fills_closeStream _)) (nowhere branch)
  · have other := branch
    simp only [branchNames, List.mem_cons, List.not_mem_nil, or_false, not_or] at other
    have same : RequestDeletesTwice msgTypeId command (body.drop offset) ↔
        (msgTypeId = rtmpMsgAmf0CommandMessage ∨ msgTypeId = rtmpMsgAmf3CommandMessage) ∧
          RtmpCallPacket.new.DeletesTwice (body.drop offset) := by
      simp only [RequestDeletesTwice, other, if_false, or_self]
      exact and_iff_right branch
    rw [same]
    by_cases type : msgTypeId = rtmpMsgAmf0CommandMessage ∨ msgTypeId = rtmpMsgAmf3CommandMessage
    · have call : decodeRequest msgTypeId command offset body =
          decodeAt .call RtmpCallPacket.new.decode offset body := by
        simp only [decodeRequest, other, if_false, type, if_true]
      rw [and_iff_right type, call]
      exact decodeAt_fault_iff.trans (RtmpCallPacket.new.decode_fault_iff _)
    · refine plain ?_ fun both => type both.1
      simp only [decodeRequest, other, if_false, type]
      exact fun impossible => by cases impossible

/-! ## Answers -/

/-- Of the answers only the one to connect has objects. -/
theorem decodeResponse_fault_iff (requestName : List UInt8) (offset : Nat) (body : List UInt8) :
    decodeResponse requestName offset body = .fault ↔
      requestName = ascii "connect" ∧ RtmpConnectResponsePacket.new.DeletesTwice (body.drop offset) := by
  by_cases connect : requestName = ascii "connect"
  · rw [decodeResponse, if_pos connect, decodeAt_fault_iff, RtmpConnectResponsePacket.decode_fault_iff,
      and_iff_right connect]
  · refine iff_of_false ?_ fun both => connect both.1
    rw [decodeResponse, if_neg connect]
    repeat' split
    · exact decodeAt_ne_fault (fills_createStreamResponse _)
    · exact decodeAt_ne_fault (fills_fmleStartResponse _)
    · exact decodeAt_ne_fault (fills_fmleStartResponse _)
    · exact decodeAt_ne_fault (fills_fmleStartResponse _)
    · exact fun impossible => by cases impossible

/-- In a command or data message a value is deleted twice: the name in front, and
the number of an answer, choose the class. -/
def CommandDeletesTwice (requests : RequestsMap) (msgTypeId : UInt8) (data : List UInt8) : Prop :=
  Exists fun named => rtmpAmf0ReadString [] data = .ok named ∧
    if named.2 = ascii "_result" ∨ named.2 = ascii "_error" then
      (Exists fun numbered => rtmpAmf0ReadNumber (data.drop named.1) = .ok numbered ∧
        requests.find numbered.2 = some (ascii "connect")) ∧ RtmpConnectResponsePacket.new.DeletesTwice data
    else RequestDeletesTwice msgTypeId named.2 data

theorem decodeCommand_fault_iff (requests : RequestsMap) (msgTypeId : UInt8) (body : List UInt8) :
    decodeCommand requests msgTypeId body = .fault ↔ CommandDeletesTwice requests msgTypeId
      (body.drop (if msgTypeId = rtmpMsgAmf3CommandMessage then 1 else 0)) := by
  rw [decodeCommand]
  generalize (if msgTypeId = rtmpMsgAmf3CommandMessage then 1 else 0) = offset
  constructor
  · intro faulted
    rcases Outcome.Returns.bind_fault (readString_consumes [] (body.drop offset)) faulted with ⟨named, read, faulted⟩
    refine ⟨named, read, ?_⟩
    simp only at faulted
    split at faulted
    next answer =>
      rw [if_pos answer]
      rcases Outcome.Returns.bind_fault (readNumber_consumes (body.drop (offset + named.1))) faulted
        with ⟨numbered, read', faulted⟩
      rw [← List.drop_drop] at read'
      split at faulted
      · cases faulted
      next found =>
        rcases (decodeResponse_fault_iff _ _ _).mp faulted with ⟨rfl, deletes⟩
        exact ⟨⟨numbered, read', found⟩, deletes⟩
    next other =>
      rw [if_neg other]
      exact (decodeRequest_fault_iff _ _ _ _).mp faulted
  · rintro ⟨named, read, deletes⟩
    simp only [read, Outcome.ok_bind_do]
    split at deletes
    next answer =>
      rcases deletes with ⟨⟨numbered, read', found⟩, deletes⟩
      rw [List.drop_drop] at read'
      simp only [if_pos answer, read', Outcome.ok_bind_do, found]
      exact (decodeResponse_fault_iff _ _ _).mpr ⟨rfl, deletes⟩
    next other =>
      rw [if_neg other]
      exact (decodeRequest_fault_iff _ _ _ _).mpr deletes

/-! ## All messages -/

theorem decodeControl_ne_fault {α : Type} {wrap : α -> RtmpPacket} {made : α} {decoded : Outcome (Nat × α)}
    (returns : decoded ≠ .fault) : decodeControl wrap made decoded ≠ .fault := by
  cases decoded with
  | fault => exact absurd rfl returns
  | _ => exact fun impossible => by cases impossible

/-- The types of messages whose bodies are AMF0 values. -/
abbrev IsCommand (msgTypeId : UInt8) : Prop :=
  msgTypeId = rtmpMsgAmf0CommandMessage ∨ msgTypeId = rtmpMsgAmf3CommandMessage ∨
    msgTypeId = rtmpMsgAmf0DataMessage ∨ msgTypeId = rtmpMsgAmf3DataMessage

theorem decodeMsg_command_fault_iff (requests : RequestsMap) {msg : RtmpMessage}
    (command : IsCommand msg.rtmpHeader.msgTypeId) : decodeMsg requests msg = .fault ↔
      CommandDeletesTwice requests msg.rtmpHeader.msgTypeId (packetBytes msg) := by
  rw [decodeMsg, packetBytes, ← decodeCommand_fault_iff, if_pos command]

theorem decodeMsg_fault_iff (requests : RequestsMap) {msg : RtmpMessage} (whole : msg.Whole) :
    decodeMsg requests msg = .fault ↔ IsCommand msg.rtmpHeader.msgTypeId ∧
      CommandDeletesTwice requests msg.rtmpHeader.msgTypeId (packetBytes msg) := by
  by_cases command : IsCommand msg.rtmpHeader.msgTypeId
  · rw [and_iff_right command, decodeMsg_command_fault_iff requests command]
  · refine iff_of_false ?_ fun both => command both.1
    rw [decodeMsg, whole.asInt_eq, if_neg command]
    repeat' split
    · exact decodeControl_ne_fault fun impossible => by cases impossible
    · exact decodeControl_ne_fault (fills_setWindowAckSize .new).ne_fault
    · exact decodeControl_ne_fault (fills_acknowledgement .new).ne_fault
    · exact decodeControl_ne_fault (fills_setChunkSize .new).ne_fault
    · exact decodeControl_ne_fault (fills_setPeerBandwidth .new).ne_fault
    · exact fun impossible => by cases impossible

/-- A message of this type and body keeps its decoder from coming to an end: a
media body with a length that is not true, or a value that is deleted twice. -/
def HarmfulBody (requests : RequestsMap) (msgTypeId : UInt8) (body : List UInt8) : Prop :=
  if msgTypeId = rtmpMsgAudioMessage ∨ msgTypeId = rtmpMsgVideoMessage then ¬ MediaInside msgTypeId body
  else IsCommand msgTypeId ∧
    CommandDeletesTwice requests msgTypeId (body.drop (if msgTypeId = rtmpMsgAmf3CommandMessage then 1 else 0))

def RtmpMessage.Harmful (requests : RequestsMap) (msg : RtmpMessage) : Prop :=
  HarmfulBody requests msg.rtmpHeader.msgTypeId msg.rtmpBody

/-- A body of a type that is neither media nor a command does no harm. -/
theorem not_harmfulBody {requests : RequestsMap} {msgTypeId : UInt8} {body : List UInt8}
    (noMedia : ¬ (msgTypeId = rtmpMsgAudioMessage ∨ msgTypeId = rtmpMsgVideoMessage))
    (noCommand : ¬ IsCommand msgTypeId) : ¬ HarmfulBody requests msgTypeId body := by
  rw [HarmfulBody, if_neg noMedia]
  exact fun harmful => noCommand harmful.1

theorem messagePacket_decodeMsg_fault_iff (requests : RequestsMap) {msg : RtmpMessage}
    (noMedia : ¬ (msg.rtmpHeader.msgTypeId = rtmpMsgAudioMessage ∨ msg.rtmpHeader.msgTypeId = rtmpMsgVideoMessage)) :
    messagePacket requests msg = .fault ↔ decodeMsg requests msg = .fault := by
  rw [messagePacket, if_neg noMedia]
  cases decodeMsg requests msg with
  | fault => exact iff_of_true rfl rfl
  | _ => exact iff_of_false (fun impossible => by cases impossible) fun impossible => by cases impossible

theorem messagePacket_fault_iff (requests : RequestsMap) {msg : RtmpMessage} (whole : msg.Whole) :
    messagePacket requests msg = .fault ↔ msg.Harmful requests := by
  rw [RtmpMessage.Harmful, HarmfulBody]
  by_cases media : msg.rtmpHeader.msgTypeId = rtmpMsgAudioMessage ∨ msg.rtmpHeader.msgTypeId = rtmpMsgVideoMessage
  · rw [if_pos media, messagePacket, if_pos media, ← decodeMediaMsg_ne_fault_iff, not_not]
  · rw [if_neg media, messagePacket_decodeMsg_fault_iff requests media, decodeMsg_fault_iff requests whole, packetBytes]

end Rtmp
end RtmpClient
