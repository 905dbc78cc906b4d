import RtmpClient.Amf0.Property
import RtmpClient.Client.SessionLemmas
import RtmpClient.Rtmp.Delivery

namespace RtmpClient
namespace Client

open Library Net Amf0 Rtmp

/-!
# Status messages

Once it pushes or pulls, `processData` goes from an onStatus call to its code
through three pointers, and looks at none of them.  Which bodies lead to a null
pointer is told by what stands behind the command object: nothing, another value
than an object, or an object whose last code is no string.  Before that the body
has to be decoded without deleting a value twice.
-/

/-! ## The pointers -/

/-- The decoder comes to an end, and the pointers that are followed lead to a
string, whatever onStatus call the message is decoded to. -/
def StatusDefined (requests : RequestsMap) (msg : RtmpMessage) : Prop :=
  messagePacket requests msg ≠ .fault ∧ forall packet, messagePacket requests msg = .ok (some (.call packet)) ->
    packet.commandName = ascii "onStatus" -> Exists fun properties => Exists fun value =>
      packet.args = some (.object properties) ∧
        UnSortedHashtable.getProperty properties (ascii "code") = some (.string value)

theorem statusCode_iff {packet : RtmpCallPacket} {value : List UInt8} : statusCode packet = some value ↔
    Exists fun properties => packet.args = some (.object properties) ∧
      UnSortedHashtable.getProperty properties (ascii "code") = some (.string value) := by
  rw [statusCode]
  constructor
  · intro found
    split at found
    next properties object =>
      split at found
      next text string => exact ⟨properties, object, by rw [string, Option.some.inj found]⟩
      · cases found
    · cases found
  · rintro ⟨properties, object, string⟩
    simp only [object, string]

namespace Agent

theorem sendAll_ready {agent : Agent} (ready : agent.Ready) {packets : List (RtmpPacket × Int32)}
    (goesOut : forall packet, packet ∈ packets -> GoesOut packet.1) : (agent.sendAll packets).Ready := by
  rcases sendAll_eq ready goesOut with ⟨sent, ready'⟩
  rw [sent]
  exact ready'

theorem onStatus_ready {agent : Agent} (ready : agent.Ready) (value : List UInt8) : (agent.onStatus value).Ready := by
  rw [onStatus]
  split
  · split
    · apply sendAll_ready ready
      intro packet member
      rw [List.mem_singleton.mp member]
      exact agent.rest.setting.metaData_goesOut
    · exact ready
  · split
    · exact ⟨ready.running, ready.positive⟩
    · exact ready

/-- An agent handles a packet and is ready for the next one, unless it pushes or
pulls and the packet is an onStatus call without a code. -/
theorem handle_ready {agent : Agent} (ready : agent.Ready) {packet : RtmpPacket}
    (coded : agent.rest.pushPullStatus = .pushOrPull -> forall call, packet = .call call ->
      call.commandName = ascii "onStatus" -> Exists fun value => statusCode call = some value) :
    (agent.handle packet).Ready := by
  unfold handle
  split
  · split
    · have sent := sendAll_ready ready (agent.rest.setting.createStreamGroup_goesOut agent.rest.setting.rtmpApp)
      exact ⟨sent.running, sent.positive⟩
    · exact ready
  · split
    next response =>
      have stored : (agent.setStreamid response.streamid).Ready := ⟨ready.running, ready.positive⟩
      have sent := sendAll_ready stored ((agent.setStreamid response.streamid).rest.setting.startGroup_goesOut
        (agent.setStreamid response.streamid).rest.streamid)
      exact ⟨sent.running, sent.positive⟩
    · exact ready
  next waiting =>
    split
    next call =>
      split
      next named =>
        rcases coded waiting call rfl named with ⟨value, code⟩
        simp only [code]
        exact onStatus_ready ready value
      · exact ready
    · exact ready

theorem handle_halted {agent : Agent} (waiting : agent.rest.pushPullStatus = .pushOrPull) {packet : RtmpCallPacket}
    (named : packet.commandName = ascii "onStatus") (none : statusCode packet = none) :
    (agent.handle (.call packet)).rest.halted = true := by
  simp only [handle, waiting, named, if_true, none]
  rfl

section Receive

variable {agent : Agent} {requests : RequestsMap} {msg : RtmpMessage}

/-- An agent receives a message that is decoded and whose pointers, where it follows
them, lead to a string. -/
theorem receive_ready (ready : agent.Ready) (decodes : messagePacket requests msg ≠ .fault)
    (defined : agent.rest.pushPullStatus = .pushOrPull -> StatusDefined requests msg) :
    (agent.receive { requests, msg }).Ready := by
  let event : ClientEvent := .recvMessage agent.rest.pushPullStatus requests msg
  have logged : (agent.log event).Ready := ⟨ready.running, ready.positive⟩
  have same : Arrival.packet { requests, msg } = messagePacket requests msg := rfl
  rw [Agent.receive, ready.running, if_neg Bool.false_ne_true]
  simp only [same]
  split
  next packet handed =>
    refine handle_ready logged fun waiting call isCall named => ?_
    rw [isCall] at handed
    rcases (defined waiting).2 call handed named with ⟨properties, value, object, string⟩
    exact ⟨value, statusCode_iff.mpr ⟨properties, object, string⟩⟩
  · exact logged
  · exact logged
  next faults => exact absurd faults decodes

/-- Once it pushes or pulls, any other message stops it. -/
theorem receive_halted (ready : agent.Ready) (waiting : agent.rest.pushPullStatus = .pushOrPull)
    (undefined : ¬ StatusDefined requests msg) : (agent.receive { requests, msg }).rest.halted = true := by
  let event : ClientEvent := .recvMessage agent.rest.pushPullStatus requests msg
  have waitingToo : (agent.log event).rest.pushPullStatus = .pushOrPull := waiting
  have same : Arrival.packet { requests, msg } = messagePacket requests msg := rfl
  rw [Agent.receive, ready.running, if_neg Bool.false_ne_true]
  simp only [same]
  cases handed : messagePacket requests msg with
  | fault => rfl
  | error code =>
      refine absurd ⟨fun impossible => ?_, fun packet impossible => ?_⟩ undefined
      · cases handed.symm.trans impossible
      · cases handed.symm.trans impossible
  | ok found =>
      by_cases lost : Exists fun call => found = some (.call call) ∧ call.commandName = ascii "onStatus" ∧
          statusCode call = none
      · rcases lost with ⟨call, rfl, named, none⟩
        exact handle_halted waitingToo named none
      · refine absurd ⟨fun impossible => ?_, fun packet handed' named => ?_⟩ undefined
        · cases handed.symm.trans impossible
        · rw [handed, Outcome.ok.injEq] at handed'
          cases code : statusCode packet with
          | none => exact absurd ⟨packet, handed', named, code⟩ lost
          | some value =>
              rcases statusCode_iff.mp code with ⟨properties, object, string⟩
              exact ⟨properties, value, object, string⟩

/-- An agent in this status gets past a message exactly when the message is decoded
and the pointers lead to a string. -/
theorem statusDefined_iff_running (ready : agent.Ready) (waiting : agent.rest.pushPullStatus = .pushOrPull) :
    StatusDefined requests msg ↔ (agent.receive { requests, msg }).rest.halted = false := by
  constructor
  · exact fun defined => (receive_ready ready defined.1 fun _ => defined).running
  · intro running
    by_contra undefined
    cases (receive_halted ready waiting undefined).symm.trans running

end Receive

end Agent

/-! ## The call -/

/-- The body of an onStatus call in front of its command object. -/
def statusHead (bits : UInt64) : List UInt8 :=
  (RtmpAmf0Any.string (ascii "onStatus")).encoding ++ (RtmpAmf0Any.number bits).encoding

/-- Behind discovery a value is read as `rtmp_amf0_read_any` reads it. -/
theorem readDiscovered_iff {data : List UInt8} {result : Nat × RtmpAmf0Any} :
    RtmpCallPacket.readDiscovered data = .ok result ↔ rtmpAmf0ReadAny data = .ok result := by
  rw [rtmpAmf0ReadAny_eq, RtmpCallPacket.readDiscovered]
  constructor
  · intro read
    rcases Outcome.bind_eq_ok read with ⟨made, discovered, behind⟩
    rw [discovered, Outcome.errorAs_ok, Outcome.ok_bind_do, behind, Outcome.errorAs_ok]
  · intro read
    rcases Outcome.bind_eq_ok read with ⟨made, discovered, behind⟩
    rw [Outcome.errorAs_eq_ok discovered, Outcome.ok_bind_do, Outcome.errorAs_eq_ok behind]

/-- The decoder of calls behind the head of an onStatus call. -/
theorem decode_status (bits : UInt64) (rest : List UInt8) :
    RtmpCallPacket.new.decode (statusHead bits ++ rest) = RtmpCallPacket.readDiscovered rest >>= fun object =>
      if rest.drop object.1 ≠ [] then RtmpCallPacket.readDiscovered (rest.drop object.1) >>= fun args =>
        .ok ((statusHead bits).length + object.1 + args.1, ⟨ascii "onStatus", bits, some object.2, some args.2⟩)
      else .ok ((statusHead bits).length + object.1, ⟨ascii "onStatus", bits, some object.2, none⟩) := by
  have named : ascii "onStatus" ≠ [] := by decide
  have fits : (ascii "onStatus").length ≤ 32767 := by decide
  rw [statusHead, List.append_assoc, List.length_append]
  simp only [RtmpCallPacket.decode, RtmpCallPacket.new, readString_recovers fits _, Outcome.ok_bind_do, if_neg named,
    List.drop_left, readNumber_recovers bits _, Outcome.errorAs_ok, List.drop_length_add_append]
  apply Outcome.bind_congr
  rintro ⟨width, object⟩ _
  have left : (RtmpAmf0Any.string (ascii "onStatus")).encoding.length + ((RtmpAmf0Any.number bits).encoding.length +
        width) < ((RtmpAmf0Any.string (ascii "onStatus")).encoding ++ ((RtmpAmf0Any.number bits).encoding ++ rest)).length ↔
      rest.drop width ≠ [] := by
    rw [List.length_append, List.length_append, ne_eq, List.drop_eq_nil_iff]
    omega
  simp only [Nat.add_assoc, left, List.drop_length_add_append]
  rfl

/-- The calls named onStatus that the decoder makes, by the bytes. -/
theorem decode_status_iff {body : List UInt8} {packet : RtmpCallPacket} :
    (Exists fun ret => RtmpCallPacket.new.decode body = .ok (ret, packet)) ∧ packet.commandName = ascii "onStatus" ↔
      Exists fun bits => Exists fun rest => Exists fun object => body = statusHead bits ++ rest ∧
        rtmpAmf0ReadAny rest = .ok object ∧
        (rest.drop object.1 = [] ∧ packet = ⟨ascii "onStatus", bits, some object.2, none⟩ ∨
          rest.drop object.1 ≠ [] ∧ Exists fun args => rtmpAmf0ReadAny (rest.drop object.1) = .ok args ∧
            packet = ⟨ascii "onStatus", bits, some object.2, some args.2⟩) := by
  constructor
  · rintro ⟨⟨ret, decoded⟩, status⟩
    rcases Outcome.bind_eq_ok decoded with ⟨⟨first, name⟩, named, behind⟩
    simp only at behind
    split at behind
    · cases behind
    next some =>
      rcases Outcome.bind_eq_ok behind with ⟨⟨second, bits⟩, numbered, behind'⟩
      have head : name = packet.commandName := by
        rcases Outcome.bind_eq_ok behind' with ⟨⟨third, object⟩, _, last⟩
        simp only at last
        split at last
        · rcases Outcome.bind_eq_ok last with ⟨args, _, last'⟩
          rw [← Outcome.value_eq last']
        · rw [← Outcome.value_eq last]
      rw [head, status] at named
      rcases encoding_of_read (by decide) named with ⟨rfl, split, _⟩
      rcases number_of_read (Outcome.errorAs_eq_ok numbered) with ⟨rfl, split'⟩
      rw [split', ← List.append_assoc] at split
      generalize (body.drop _).drop 9 = rest at split
      subst split
      clear behind behind' numbered named split'
      rw [← statusHead, decode_status] at decoded
      rcases Outcome.bind_eq_ok decoded with ⟨object, read, last⟩
      refine ⟨bits, rest, object, rfl, readDiscovered_iff.mp read, ?_⟩
      split at last
      next left =>
        rcases Outcome.bind_eq_ok last with ⟨args, found, last'⟩
        exact Or.inr ⟨left, args, readDiscovered_iff.mp found, (Outcome.value_eq last').symm⟩
      next none => exact Or.inl ⟨not_not.mp none, (Outcome.value_eq last).symm⟩
  · rintro ⟨bits, rest, object, rfl, read, last⟩
    rw [decode_status, readDiscovered_iff.mpr read, Outcome.ok_bind_do]
    rcases last with ⟨none, rfl⟩ | ⟨left, args, found, rfl⟩
    · rw [if_neg (not_not.mpr none)]
      exact ⟨⟨_, rfl⟩, rfl⟩
    · rw [if_pos left, readDiscovered_iff.mpr found]
      exact ⟨⟨_, rfl⟩, rfl⟩

/-! ## The message -/

theorem decodeResponse_not_call {requestName body : List UInt8} {offset : Nat} {ret : Int} {packet : RtmpCallPacket} :
    decodeResponse requestName offset body ≠ .ok (ret, .call packet) := by
  intro decoded
  rw [decodeResponse] at decoded
  repeat' split at decoded
  all_goals first
    | cases decoded
    | (rcases decodeAt_ok decoded with ⟨found, other, -⟩
       cases other)

/-- A call comes in a message of its types, and is what the decoder of calls makes
of the bytes. -/
theorem decode_of_messagePacket_call {requests : RequestsMap} {msg : RtmpMessage} {packet : RtmpCallPacket}
    (handed : messagePacket requests msg = .ok (some (.call packet))) : HoldsCall msg.rtmpHeader.msgTypeId ∧
      Exists fun ret => RtmpCallPacket.new.decode (packetBytes msg) = .ok (ret, packet) := by
  have command : (RtmpPacket.call packet).OfCommand := trivial
  rcases messagePacket_ofCommand command handed with ⟨ret, made⟩
  rcases Outcome.bind_eq_ok made with ⟨⟨first, name⟩, _, made⟩
  simp only at made
  split at made
  · rcases Outcome.bind_eq_ok made with ⟨⟨second, number⟩, _, made⟩
    simp only at made
    split at made
    · cases made
    · exact absurd made decodeResponse_not_call
  · by_cases branch : name ∈ branchNames
    · exact absurd made (decodeRequest_not_call branch)
    · rw [decodeRequest_other _ branch] at made
      split at made
      next holds =>
        rcases decodeAt_ok made with ⟨found, same, count, read⟩
        rw [RtmpPacket.call.inj same] at read
        exact ⟨holds, count, read⟩
      · cases made

/-- A message of these types is decoded to a call named onStatus exactly when its
bytes are. -/
theorem messagePacket_status_iff (requests : RequestsMap) {msg : RtmpMessage} {packet : RtmpCallPacket}
    (holds : HoldsCall msg.rtmpHeader.msgTypeId) (status : packet.commandName = ascii "onStatus") :
    messagePacket requests msg = .ok (some (.call packet)) ↔
      Exists fun ret => RtmpCallPacket.new.decode (packetBytes msg) = .ok (ret, packet) := by
  refine ⟨fun handed => (decode_of_messagePacket_call handed).2, ?_⟩
  intro made
  rcases decode_status_iff.mp ⟨made, status⟩ with ⟨bits, rest, _, bytes, _⟩
  rcases made with ⟨ret, read⟩
  have named := @read_of_encoding (ascii "onStatus") ((RtmpAmf0Any.number bits).encoding ++ rest) (by decide) (by decide)
  rw [← List.append_assoc, ← statusHead, ← bytes] at named
  rw [packetBytes] at named read
  have noMedia : ¬ (msg.rtmpHeader.msgTypeId = rtmpMsgAudioMessage ∨ msg.rtmpHeader.msgTypeId = rtmpMsgVideoMessage) := by
    rcases holds with type | type
    · rw [type]
      decide
    · rw [type]
      decide
  have noAnswer : ¬ (ascii "onStatus" = ascii "_result" ∨ ascii "onStatus" = ascii "_error") := by decide
  have other : ascii "onStatus" ∉ branchNames := by decide
  have decoded : decodeMsg requests msg = decodeCommand requests msg.rtmpHeader.msgTypeId msg.rtmpBody :=
    if_pos (holds.imp id Or.inl)
  rw [messagePacket, if_neg noMedia, decoded]
  simp only [decodeCommand, named, Outcome.ok_bind_do, noAnswer, if_false, decodeRequest_other _ other, if_pos holds,
    decodeAt, read, Outcome.pure_eq]

/-- It keeps its decoder from coming to an end exactly when a value of it is deleted
twice. -/
theorem messagePacket_call_fault_iff (requests : RequestsMap) {msg : RtmpMessage}
    (holds : HoldsCall msg.rtmpHeader.msgTypeId) : messagePacket requests msg = .fault ↔
      CommandDeletesTwice requests msg.rtmpHeader.msgTypeId (packetBytes msg) := by
  have noMedia : ¬ (msg.rtmpHeader.msgTypeId = rtmpMsgAudioMessage ∨ msg.rtmpHeader.msgTypeId = rtmpMsgVideoMessage) := by
    rcases holds with type | type
    · rw [type]
      decide
    · rw [type]
      decide
  rw [messagePacket_decodeMsg_fault_iff requests noMedia,
    decodeMsg_command_fault_iff requests (holds.imp id Or.inl)]

/-! ## The bytes -/

/-- Where the body is that of an onStatus call whose command object can be read,
the arguments behind the object cannot be read, or they are an object in which
the last property named code is a string. -/
def StatusCoded (body : List UInt8) : Prop :=
  forall bits rest width, body = statusHead bits ++ rest -> Begins .value rest width ->
    rest.drop width ≠ [] ∧ (forall more, ¬ Begins .value (rest.drop width) more) ∨
      Exists fun properties => rest.drop width = rtmpAmf0Object.toUInt8 :: properties ∧
        EndsWithString (ascii "code") false properties

/-- The handling of the status messages of either type is defined on these bytes,
and on no others. -/
theorem statusDefined_iff_coded (requests : RequestsMap) {msg : RtmpMessage}
    (holds : HoldsCall msg.rtmpHeader.msgTypeId) : StatusDefined requests msg ↔
      ¬ CommandDeletesTwice requests msg.rtmpHeader.msgTypeId (packetBytes msg) ∧ StatusCoded (packetBytes msg) := by
  rw [StatusDefined, ne_eq, messagePacket_call_fault_iff requests holds]
  refine and_congr_right fun _ => ⟨?_, ?_⟩
  · intro defined bits rest width body begins
    rcases (rtmpAmf0ReadAny_ok_iff rest width).mpr begins with ⟨object, read⟩
    -- a packet that is made of these parts is handed out, so that its pointers lead somewhere
    have coded (args : Option RtmpAmf0Any)
        (last : rest.drop width = [] ∧ args = none ∨ rest.drop width ≠ [] ∧ Exists fun found =>
          rtmpAmf0ReadAny (rest.drop width) = .ok found ∧ args = some found.2) :
        Exists fun properties => Exists fun value => args = some (.object properties) ∧
          UnSortedHashtable.getProperty properties (ascii "code") = some (.string value) := by
      refine defined ⟨ascii "onStatus", bits, some object, args⟩ ?_ rfl
      apply (messagePacket_status_iff requests holds rfl).mpr
      apply And.left
      apply decode_status_iff.mpr
      refine ⟨bits, rest, (width, object), body, read, ?_⟩
      rcases last with ⟨none, rfl⟩ | ⟨left, found, read', rfl⟩
      · exact Or.inl ⟨none, rfl⟩
      · exact Or.inr ⟨left, found, read', rfl⟩
    by_cases left : rest.drop width = []
    · rcases coded none (Or.inl ⟨left, rfl⟩) with ⟨_, _, absent, _⟩
      cases absent
    · by_cases more : Exists fun more => Begins .value (rest.drop width) more
      · rcases more with ⟨more, begins'⟩
        rcases (rtmpAmf0ReadAny_ok_iff _ more).mpr begins' with ⟨value, read'⟩
        rcases coded (some value) (Or.inr ⟨left, _, read', rfl⟩) with ⟨properties, text, same, found⟩
        exact Or.inr ((readAny_property_iff read' _).mp ⟨properties, text, Option.some.inj same, found⟩)
      · exact Or.inl ⟨left, not_exists.mp more⟩
  · intro coded packet handed status
    have made := (messagePacket_status_iff requests holds status).mp handed
    rcases decode_status_iff.mp ⟨made, status⟩ with ⟨bits, rest, ⟨width, object⟩, body, read, last⟩
    have begins := (rtmpAmf0ReadAny_ok_iff rest width).mp ⟨object, read⟩
    rcases coded bits rest width body begins with ⟨left, unread⟩ | ⟨properties, isObject, ends⟩
    · rcases last with ⟨none, _⟩ | ⟨_, ⟨more, value⟩, read', _⟩
      · exact absurd none left
      · exact absurd ((rtmpAmf0ReadAny_ok_iff _ more).mp ⟨value, read'⟩) (unread more)
    · rcases last with ⟨none, _⟩ | ⟨_, ⟨more, value⟩, read', rfl⟩
      · rw [isObject] at none
        cases none
      · rcases (readAny_property_iff read' _).mpr ⟨properties, isObject, ends⟩ with ⟨table, text, rfl, found⟩
        exact ⟨table, text, rfl, found⟩

/-- The handling of status messages is defined on these bodies, and on no
others. -/
theorem statusDefined_iff (requests : RequestsMap) (msg : RtmpMessage)
    (command : msg.rtmpHeader.msgTypeId = rtmpMsgAmf0CommandMessage) :
    StatusDefined requests msg ↔
      ¬ CommandDeletesTwice requests rtmpMsgAmf0CommandMessage msg.rtmpBody ∧ StatusCoded msg.rtmpBody := by
  have bytes : packetBytes msg = msg.rtmpBody := by
    rw [packetBytes, command, if_neg (by decide), List.drop_zero]
  rw [statusDefined_iff_coded requests (Or.inl command), bytes, command]

/-- A message of this type and body is an onStatus call whose code is not there. -/
def LosesStatus (msgTypeId : UInt8) (body : List UInt8) : Prop :=
  HoldsCall msgTypeId ∧ ¬ StatusCoded (body.drop (if msgTypeId = rtmpMsgAmf3CommandMessage then 1 else 0))

/-- For a message that is decoded this is all that can go wrong. -/
theorem statusDefined_iff_not_losesStatus {requests : RequestsMap} {msg : RtmpMessage}
    (decodes : messagePacket requests msg ≠ .fault) :
    StatusDefined requests msg ↔ ¬ LosesStatus msg.rtmpHeader.msgTypeId msg.rtmpBody := by
  by_cases holds : HoldsCall msg.rtmpHeader.msgTypeId
  · rw [statusDefined_iff_coded requests holds, LosesStatus, ← packetBytes,
      ← messagePacket_call_fault_iff requests holds, and_iff_right decodes, and_iff_right holds, not_not]
  · refine iff_of_true ⟨decodes, fun packet handed => ?_⟩ fun loses => holds loses.1
    exact absurd (decode_of_messagePacket_call handed).1 holds

/-- A server says that publishing has begun. -/
theorem statusDefined_iff_start :
    let msg : RtmpMessage :=
      { rtmpHeader := { RtmpHeader.new with msgTypeId := rtmpMsgAmf0CommandMessage }
        rtmpBody := statusHead 0 ++ (RtmpAmf0Any.null.encoding ++
          (RtmpAmf0Any.object [(ascii "code", .string (ascii "NetStream.Publish.Start"))]).encoding)
        rtmpBodyLen := 57 }
    StatusDefined [] msg ↔
      ¬ CommandDeletesTwice [] rtmpMsgAmf0CommandMessage msg.rtmpBody ∧ StatusCoded msg.rtmpBody :=
  statusDefined_iff [] _ rfl

/-- A call that ends behind its command object, whose arguments are null. -/
theorem status_without_arguments :
    ¬ StatusDefined []
      { rtmpHeader := { RtmpHeader.new with msgTypeId := rtmpMsgAmf0CommandMessage }
        rtmpBody := statusHead 0 ++ RtmpAmf0Any.null.encoding
        rtmpBodyLen := 21 } := by
  intro defined
  rcases defined.2 ⟨ascii "onStatus", 0, some .null, none⟩ rfl rfl with ⟨_, _, absent, _⟩
  cases absent

end Client
end RtmpClient
