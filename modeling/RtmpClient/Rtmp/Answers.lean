import RtmpClient.Rtmp.CommandRoundTrip

namespace RtmpClient
namespace Rtmp

open Library Amf0

/-!
# Answers to recorded requests

An answer is decoded into the class of the request that its number was recorded
for, and an answer to no recorded request is refused.
-/

/-! ## Names that are read twice -/

/-- How much is read does not depend on what the variable held. -/
theorem rtmpAmf0ReadString_ret {held name data : List UInt8} {ret : Nat}
    (read : rtmpAmf0ReadString held data = .ok (ret, name)) (other : List UInt8) :
    Exists fun name => rtmpAmf0ReadString other data = .ok (ret, name) := by
  rw [rtmpAmf0ReadString] at read ⊢
  split at read
  · cases read
  next nonempty =>
    rw [if_neg nonempty]
    rcases Outcome.bind_eq_ok read with ⟨marker, marked, read⟩
    rw [marked, Outcome.ok_bind_do]
    split at read
    · cases read
    next string =>
      rw [if_neg string]
      rcases Outcome.bind_eq_ok read with ⟨⟨count, text⟩, inside, last⟩
      have counted : 1 + count = ret := congrArg Prod.fst (Outcome.ok.inj last)
      suffices found : Exists fun text => rtmpAmf0ReadUtf8 other (data.drop 1) = .ok (count, text) by
        rcases found with ⟨text, found⟩
        refine ⟨text, ?_⟩
        rw [found, Outcome.ok_bind_do, ← counted]
        rfl
      rw [rtmpAmf0ReadUtf8] at inside ⊢
      split at inside
      · cases inside
      next enough =>
        rw [if_neg enough]
        rcases Outcome.bind_eq_ok inside with ⟨length, measured, inside⟩
        rw [measured, Outcome.ok_bind_do]
        split at inside
        next empty =>
          rw [if_pos empty]
          have two : 2 = count := congrArg Prod.fst (Outcome.ok.inj inside)
          exact ⟨other, by rw [two]⟩
        next filled =>
          rw [if_neg filled]
          exact ⟨text, inside⟩

/-- The name and the number in front of an answer. -/
theorem readHead_number {held name data : List UInt8} {accepts : List UInt8 -> Bool} {ret : Nat}
    {number : UInt64} (read : readHead held accepts data = .ok (ret, name, number)) :
    accepts name = true ∧ Exists fun first => rtmpAmf0ReadString held data = .ok (first, name) ∧
      Exists fun second => rtmpAmf0ReadNumber (data.drop first) = .ok (second, number) := by
  rcases Outcome.bind_eq_ok read with ⟨⟨first, found⟩, named, read⟩
  simp only at read
  split at read
  next accepted =>
    rcases Outcome.bind_eq_ok read with ⟨⟨second, found'⟩, numbered, read⟩
    rcases Outcome.bind_eq_ok read with ⟨⟨third, _⟩, _, last⟩
    have values := congrArg Prod.snd (Outcome.ok.inj last)
    rw [Prod.mk.injEq] at values
    rcases values with ⟨rfl, rfl⟩
    exact ⟨accepted, first, named, second, numbered⟩
  · cases read

/-! ## What an answer says -/

/-- The classes of answers that `decode_msg` makes. -/
def RtmpPacket.IsAnswer : RtmpPacket -> Prop
  | connectResponse _ => True
  | createStreamResponse _ => True
  | fmleStartResponse _ => True
  | _ => False

/-- A branch of `decode_msg` that makes no answer. -/
def NoAnswer (branch : (offset : Nat) -> (body : List UInt8) -> Outcome (Int × RtmpPacket)) : Prop :=
  forall offset body ret packet, branch offset body = .ok (ret, packet) -> ¬ packet.IsAnswer

theorem NoAnswer.decodeAt {α : Type} {wrap : α -> RtmpPacket} {decode : Reader UInt8 α}
    (other : forall found, ¬ (wrap found).IsAnswer) : NoAnswer (decodeAt wrap decode) := by
  intro offset body ret packet decoded
  rcases decodeAt_ok decoded with ⟨found, wrapped, -⟩
  rw [← wrapped]
  exact other found

theorem NoAnswer.ite {condition : Prop} [Decidable condition]
    {first second : (offset : Nat) -> (body : List UInt8) -> Outcome (Int × RtmpPacket)}
    (firstNone : NoAnswer first) (secondNone : NoAnswer second) :
    NoAnswer (if condition then first else second) := by
  by_cases holds : condition
  · rw [if_pos holds]
    exact firstNone
  · rw [if_neg holds]
    exact secondNone

theorem decodeRequest_noAnswer (msgTypeId : UInt8) (command : List UInt8) :
    NoAnswer (decodeRequest msgTypeId command) := by
  unfold decodeRequest
  repeat' apply NoAnswer.ite
  all_goals first
    | exact NoAnswer.decodeAt fun _ => id
    | (intro offset body ret packet decoded
       cases decoded)

/-- The packets that only command and data messages are decoded to. -/
def RtmpPacket.OfCommand : RtmpPacket -> Prop
  | .audio _ => False
  | .avc _ => False
  | .video _ => False
  | .userControl _ => False
  | .setWindowAckSize _ => False
  | .acknowledgement _ => False
  | .setChunkSize _ => False
  | .setPeerBandwidth _ => False
  | _ => True

theorem RtmpPacket.IsAnswer.ofCommand {packet : RtmpPacket} (answer : packet.IsAnswer) : packet.OfCommand := by
  cases packet with
  | connectResponse packet => trivial
  | createStreamResponse packet => trivial
  | fmleStartResponse packet => trivial
  | _ => cases answer

theorem decodeControl_not_ofCommand {α : Type} {wrap : α -> RtmpPacket} {made : α}
    {call : Outcome (Nat × α)} {ret : Int} {packet : RtmpPacket}
    (other : forall found, ¬ (wrap found).OfCommand)
    (decoded : decodeControl wrap made call = .ok (ret, packet)) : ¬ packet.OfCommand := by
  cases call with
  | fault => cases decoded
  | error code =>
      rw [← Outcome.value_eq decoded]
      exact other made
  | ok result =>
      rw [← Outcome.value_eq decoded]
      exact other result.2

/-- Such a packet comes from a command or data message. -/
theorem decodeMsg_ofCommand {requests : RequestsMap} {msg : RtmpMessage} {ret : Int} {packet : RtmpPacket}
    (command : packet.OfCommand) (decoded : decodeMsg requests msg = .ok (ret, packet)) :
    decodeCommand requests msg.rtmpHeader.msgTypeId msg.rtmpBody = .ok (ret, packet) := by
  simp only [decodeMsg] at decoded
  split at decoded
  · exact decoded
  · repeat' split at decoded
    all_goals first
      | exact absurd command (decodeControl_not_ofCommand (fun _ => id) decoded)
      | cases decoded

theorem decodeMediaMsg_not_ofCommand {msg : RtmpMessage} {packet : RtmpPacket}
    (decoded : decodeMediaMsg msg = .ok (some packet)) : ¬ packet.OfCommand := by
  simp only [decodeMediaMsg] at decoded
  split at decoded
  · rcases Outcome.bind_eq_ok decoded with ⟨found, _, last⟩
    rw [← Option.some.inj (Outcome.ok.inj last)]
    exact id
  · rcases Outcome.bind_eq_ok decoded with ⟨kind, _, decoded⟩
    split at decoded
    · split at decoded
      · cases decoded
      · rw [← Option.some.inj (Outcome.ok.inj decoded)]
        exact id
      · rw [← Option.some.inj (Outcome.ok.inj decoded)]
        exact id
    · split at decoded
      · rcases Outcome.bind_eq_ok decoded with ⟨found, _, last⟩
        rw [← Option.some.inj (Outcome.ok.inj last)]
        exact id
      · cases decoded

theorem messagePacket_ofCommand {requests : RequestsMap} {msg : RtmpMessage} {packet : RtmpPacket}
    (command : packet.OfCommand) (handed : messagePacket requests msg = .ok (some packet)) :
    Exists fun ret =>
      decodeCommand requests msg.rtmpHeader.msgTypeId msg.rtmpBody = .ok (ret, packet) := by
  rw [messagePacket] at handed
  split at handed
  · exact absurd command (decodeMediaMsg_not_ofCommand handed)
  · split at handed
    · cases handed
    · cases handed
    next ret found decoded =>
      rw [Outcome.ok.injEq, Option.some.injEq] at handed
      rw [handed] at decoded
      exact ⟨ret, decodeMsg_ofCommand command decoded⟩

/-- The answer is decoded for the request that its number is found under. -/
theorem decodeCommand_answer {requests : RequestsMap} {msgTypeId : UInt8} {body : List UInt8} {ret : Int}
    {packet : RtmpPacket} (answer : packet.IsAnswer)
    (decoded : decodeCommand requests msgTypeId body = .ok (ret, packet)) :
    Exists fun offset => Exists fun first => Exists fun command => Exists fun second =>
      Exists fun number => Exists fun requestName =>
        rtmpAmf0ReadString [] (body.drop offset) = .ok (first, command) ∧
        rtmpAmf0ReadNumber ((body.drop offset).drop first) = .ok (second, number) ∧
        requests.find number = some requestName ∧
        decodeResponse requestName offset body = .ok (ret, packet) := by
  simp only [decodeCommand] at decoded
  rcases Outcome.bind_eq_ok decoded with ⟨⟨first, command⟩, named, decoded⟩
  simp only at decoded
  split at decoded
  · rcases Outcome.bind_eq_ok decoded with ⟨⟨second, number⟩, numbered, decoded⟩
    simp only at decoded
    rw [← List.drop_drop] at numbered
    split at decoded
    · cases decoded
    next requestName found => exact ⟨_, first, command, second, number, requestName, named, numbered, found, decoded⟩
  · exact absurd answer (decodeRequest_noAnswer _ _ _ _ _ _ decoded)

/-- Two reads of the number behind the name find the same. -/
theorem readNumber_behind {held held' name name' data : List UInt8} {first first' second second' : Nat}
    {number number' : UInt64} (named : rtmpAmf0ReadString held data = .ok (first, name))
    (numbered : rtmpAmf0ReadNumber (data.drop first) = .ok (second, number))
    (named' : rtmpAmf0ReadString held' data = .ok (first', name'))
    (numbered' : rtmpAmf0ReadNumber (data.drop first') = .ok (second', number')) : number = number' := by
  rcases rtmpAmf0ReadString_ret named held' with ⟨text, again⟩
  have counts : first = first' := congrArg Prod.fst (Outcome.ok.inj (again.symm.trans named'))
  rw [counts] at numbered
  exact Outcome.value_eq (numbered.symm.trans numbered')

/-- A connect answer is a `_result` whose number is found under connect. -/
theorem connectResponse_found {requests : RequestsMap} {msg : RtmpMessage} {response : RtmpConnectResponsePacket}
    (handed : messagePacket requests msg = .ok (some (.connectResponse response))) :
    response.commandName = ascii "_result" ∧ requests.find response.number = some (ascii "connect") := by
  have answer : (RtmpPacket.connectResponse response).IsAnswer := trivial
  rcases messagePacket_ofCommand answer.ofCommand handed with ⟨ret, decoded⟩
  rcases decodeCommand_answer answer decoded with
    ⟨offset, first, command, second, number, requestName, named, numbered, found, decoded⟩
  rw [decodeResponse] at decoded
  split at decoded
  next connect =>
    rcases decodeAt_ok decoded with ⟨packet, wrapped, count, decoded⟩
    rw [RtmpPacket.connectResponse.inj wrapped] at decoded
    rcases Outcome.bind_eq_ok decoded with ⟨⟨first', name⟩, named', decoded⟩
    simp only at decoded
    split at decoded
    next result =>
      rcases Outcome.bind_eq_ok decoded with ⟨⟨second', number'⟩, numbered', decoded⟩
      rcases Outcome.bind_eq_ok decoded with ⟨_, _, decoded⟩
      rcases Outcome.bind_eq_ok decoded with ⟨_, _, last⟩
      have same := readNumber_behind named numbered (Outcome.errorAs_eq_ok named') (Outcome.errorAs_eq_ok numbered')
      rw [← Outcome.value_eq last, ← same, ← connect]
      exact ⟨result, found⟩
    · cases decoded
  · repeat' split at decoded
    all_goals first
      | cases decoded
      | (rcases decodeAt_ok decoded with ⟨found, other, -⟩
         cases other)

/-- A createStream answer is a `_result` whose number is found under
createStream. -/
theorem createStreamResponse_found {requests : RequestsMap} {msg : RtmpMessage}
    {response : RtmpCreateStreamResponsePacket}
    (handed : messagePacket requests msg = .ok (some (.createStreamResponse response))) :
    response.commandName = ascii "_result" ∧ requests.find response.number = some (ascii "createStream") := by
  have answer : (RtmpPacket.createStreamResponse response).IsAnswer := trivial
  rcases messagePacket_ofCommand answer.ofCommand handed with ⟨ret, decoded⟩
  rcases decodeCommand_answer answer decoded with
    ⟨offset, first, command, second, number, requestName, named, numbered, found, decoded⟩
  rw [decodeResponse] at decoded
  split at decoded
  · rcases decodeAt_ok decoded with ⟨found, other, -⟩
    cases other
  · split at decoded
    next createStream =>
      rcases decodeAt_ok decoded with ⟨packet, wrapped, count, decoded⟩
      rw [RtmpPacket.createStreamResponse.inj wrapped] at decoded
      rcases Outcome.bind_eq_ok decoded with ⟨⟨_, name, number'⟩, head, decoded⟩
      rcases Outcome.bind_eq_ok decoded with ⟨_, _, last⟩
      rcases readHead_number head with ⟨accepted, first', named', second', numbered'⟩
      rw [← Outcome.value_eq last, ← createStream, ← readNumber_behind named numbered named' numbered']
      exact ⟨of_decide_eq_true accepted, found⟩
    · repeat' split at decoded
      all_goals first
        | cases decoded
        | (rcases decodeAt_ok decoded with ⟨found, other, -⟩
           cases other)

/-! ## Answers that a server sends -/

/-- The branch of an answer whose number is found. -/
theorem decodeCommand_result {requests : RequestsMap} {packet : RtmpPacket} {number : UInt64}
    {others : List RtmpAmf0Any} (values : packet.values = .string (ascii "_result") :: .number number :: others)
    {requestName : List UInt8} (found : requests.find number = some requestName) :
    decodeCommand requests rtmpMsgAmf0CommandMessage (commandBody packet) =
      decodeResponse requestName 0 (commandBody packet) := by
  have fits : (ascii "_result").length ≤ 32767 := by decide
  have command : ¬ rtmpMsgAmf0CommandMessage = rtmpMsgAmf3CommandMessage := by decide
  have first := readString_commandBody values fits
  have behind : (commandBody packet).drop (RtmpAmf0Any.string (ascii "_result")).encoding.length =
      (RtmpAmf0Any.number number).encoding ++ others.flatMap RtmpAmf0Any.encoding := by
    rw [commandBody, values, List.flatMap_cons, List.flatMap_cons, List.drop_left]
  simp only [decodeCommand, if_neg command, List.drop_zero, first, Outcome.ok_bind_do, Nat.zero_add, behind,
    readNumber_recovers number _, found, true_or, if_true]

theorem decode_connectResponse {packet : RtmpConnectResponsePacket}
    (name : packet.commandName = ascii "_result") (object : (RtmpAmf0Any.object packet.object).WellFormed)
    (info : (RtmpAmf0Any.object packet.info).WellFormed) :
    RtmpConnectResponsePacket.new.decode (commandBody (.connectResponse packet)) =
      .ok ((commandBody (.connectResponse packet)).length, packet) := by
  have fits : (ascii "_result").length ≤ 32767 := by decide
  have named : ascii "_result" ≠ [] := by decide
  rcases packet with ⟨commandName, number, objectPart, infoPart⟩
  subst name
  have body : commandBody (.connectResponse ⟨ascii "_result", number, objectPart, infoPart⟩) =
      (RtmpAmf0Any.string (ascii "_result")).encoding ++ ((RtmpAmf0Any.number number).encoding ++
        ((RtmpAmf0Any.object objectPart).encoding ++ (RtmpAmf0Any.object infoPart).encoding)) := by
    simp only [commandBody, RtmpPacket.values, List.flatMap_cons, List.flatMap_nil, List.append_nil]
  have infoRead := object_wellFormed info []
  rw [List.append_nil] at infoRead
  have objectRead (held : UnSortedHashtable RtmpAmf0Any) (rest : List UInt8) :
      RtmpConnectResponsePacket.readObjectPart held ((RtmpAmf0Any.object objectPart).encoding ++ rest) =
        .ok ((RtmpAmf0Any.object objectPart).encoding.length, objectPart) := by
    have left : ((RtmpAmf0Any.object objectPart).encoding ++ rest).length > 0 := by
      have nonempty := encoding_pos (.object objectPart)
      rw [List.length_append]
      omega
    rw [RtmpConnectResponsePacket.readObjectPart, if_pos left, rtmpAmf0ReadAny_recovers object rest]
    rfl
  rw [body]
  simp only [RtmpConnectResponsePacket.decode, RtmpConnectResponsePacket.new, readString_named fits named _,
    Outcome.errorAs_ok, Outcome.ok_bind_do, if_true, List.drop_left, readNumber_recovers number _,
    List.drop_length_add_append, objectRead, Nat.add_assoc, infoRead, Outcome.pure_eq, List.length_append]

theorem decode_createStreamResponse {packet : RtmpCreateStreamResponsePacket}
    (name : packet.commandName = ascii "_result") :
    (RtmpCreateStreamResponsePacket.new 0 0).decode (commandBody (.createStreamResponse packet)) =
      .ok ((commandBody (.createStreamResponse packet)).length, packet) := by
  have fits : packet.commandName.length ≤ 32767 := by
    rw [name]
    decide
  have named : packet.commandName ≠ [] := by
    rw [name]
    decide
  have body : commandBody (.createStreamResponse packet) = headEncoding packet.commandName packet.number ++
      (RtmpAmf0Any.number packet.streamid).encoding := by
    simp only [commandBody, RtmpPacket.values, headEncoding, List.flatMap_cons, List.flatMap_nil,
      List.append_assoc, List.append_nil]
  have head : Recovers (readHead (ascii "_result") (· = ascii "_result"))
      (headEncoding packet.commandName packet.number) (packet.commandName, packet.number) :=
    readHead_recovers packet.number fits named (decide_eq_true name)
  have streamRead := readNumber_recovers packet.streamid []
  rw [List.append_nil] at streamRead
  rw [body]
  simp only [RtmpCreateStreamResponsePacket.decode, RtmpCreateStreamResponsePacket.new, head _, Outcome.ok_bind_do,
    List.drop_left, streamRead, Outcome.pure_eq, List.length_append]

/-- An answer whose number is found under connect is read as it was sent. -/
theorem decodeCommand_connectResponse {requests : RequestsMap} {packet : RtmpConnectResponsePacket}
    (name : packet.commandName = ascii "_result") (object : (RtmpAmf0Any.object packet.object).WellFormed)
    (info : (RtmpAmf0Any.object packet.info).WellFormed)
    (found : requests.find packet.number = some (ascii "connect")) :
    Exists fun ret => decodeCommand requests rtmpMsgAmf0CommandMessage (commandBody (.connectResponse packet)) =
      .ok (ret, .connectResponse packet) := by
  have values : (RtmpPacket.connectResponse packet).values = .string (ascii "_result") ::
      .number packet.number :: [.object packet.object, .object packet.info] := by
    rw [← name]
    rfl
  rw [decodeCommand_result values found, decodeResponse, if_pos rfl]
  exact ⟨_, RtmpPacket.decodeAt_zero (decode_connectResponse name object info)⟩

theorem decodeCommand_createStreamResponse {requests : RequestsMap} {packet : RtmpCreateStreamResponsePacket}
    (name : packet.commandName = ascii "_result")
    (found : requests.find packet.number = some (ascii "createStream")) :
    Exists fun ret =>
      decodeCommand requests rtmpMsgAmf0CommandMessage (commandBody (.createStreamResponse packet)) =
        .ok (ret, .createStreamResponse packet) := by
  have other : ¬ ascii "createStream" = ascii "connect" := by decide
  have values : (RtmpPacket.createStreamResponse packet).values = .string (ascii "_result") ::
      .number packet.number :: [.null, .number packet.streamid] := by
    rw [← name]
    rfl
  rw [decodeCommand_result values found, decodeResponse, if_neg other, if_pos rfl]
  exact ⟨_, RtmpPacket.decodeAt_zero (decode_createStreamResponse name)⟩

end Rtmp
end RtmpClient
