import RtmpClient.Amf0.Legible
import RtmpClient.Rtmp.DecodeMsg

namespace RtmpClient
namespace Rtmp

open Library Amf0

/-!
# Requests that survive decoding

Each request class has an encoder and a decoder of its own, and `decode_msg`
chooses the decoder by the name it finds.  For every class the two sides are
compared field by field; then the choice is followed.
-/

/-! ## The parts of a body -/

theorem readString_named {held name : List UInt8} (fits : name.length ≤ 32767) (named : name ≠ []) :
    Recovers (rtmpAmf0ReadString held) (RtmpAmf0Any.string name).encoding name := by
  have recovers := readString_held_recovers held fits
  rwa [if_neg named] at recovers

/-- The name, the number and the null that most requests begin with. -/
def headEncoding (name : List UInt8) (number : UInt64) : List UInt8 :=
  (RtmpAmf0Any.string name).encoding ++
    ((RtmpAmf0Any.number number).encoding ++ RtmpAmf0Any.null.encoding)

theorem readHead_recovers {held name : List UInt8} {accepts : List UInt8 -> Bool} (number : UInt64)
    (fits : name.length ≤ 32767) (named : name ≠ []) (accepted : accepts name = true) :
    Recovers (readHead held accepts) (headEncoding name number) (name, number) := by
  intro rest
  have null : rtmpAmf0ReadNull (RtmpAmf0Any.null.encoding ++ rest) =
      .ok (RtmpAmf0Any.null.encoding.length, ()) := readMarkerOnly_recovers rtmpAmf0Null rest
  rw [readHead, headEncoding, List.append_assoc, List.append_assoc, readString_named fits named]
  simp only [Outcome.ok_bind_do, accepted, if_true, List.drop_left, readNumber_recovers number _,
    List.drop_length_add_append, null, Outcome.pure_eq, List.length_append, Nat.add_assoc]

/-- The virtual `read` of a discovered instance takes back what was written. -/
theorem readDiscovered_recovers {value : RtmpAmf0Any} (wellFormed : value.WellFormed) :
    Recovers RtmpCallPacket.readDiscovered value.encoding value := by
  intro rest
  have inside := freshRead_recovers wellFormed fun part member =>
    rtmpAmf0ReadAny_recovers (wellFormed.inside part member)
  rw [RtmpCallPacket.readDiscovered, discovery_encoding wellFormed rest, Outcome.ok_bind_do, inside rest]

theorem readDiscovered_legible {data : List UInt8} {ret : Nat} {value : RtmpAmf0Any}
    (read : RtmpCallPacket.readDiscovered data = .ok (ret, value)) : value.Legible := by
  rcases Outcome.bind_eq_ok read with ⟨found, discovered, reads⟩
  exact RtmpAmf0Any.Regular.legible (read_regular (fun _ _ _ => rtmpAmf0ReadAny_regular) discovered reads)

/-- Two doubles that are equal and not zero are the same bits. -/
theorem eq_of_doubleEq {left right : UInt64} (equal : doubleEq left right = true)
    (nonzero : right &&& 0x7fffffffffffffff ≠ 0) : left = right := by
  simp only [doubleEq, Bool.and_eq_true, Bool.or_eq_true, decide_eq_true_eq] at equal
  rcases equal.2 with same | zeros
  · exact same
  · exact absurd zeros.2 nonzero

/-! ## Field by field -/

/-- The body of a command is the encodings of its values. -/
def commandBody (packet : RtmpPacket) : List UInt8 := packet.values.flatMap RtmpAmf0Any.encoding

theorem object_wellFormed {properties : UnSortedHashtable RtmpAmf0Any}
    (wellFormed : (RtmpAmf0Any.object properties).WellFormed) :
    Recovers (RtmpAmf0Object.read rtmpAmf0ReadAny []) (RtmpAmf0Any.object properties).encoding properties := by
  cases wellFormed with
  | object fit distinct values =>
      exact readObject_recovers fit distinct fun property member =>
        rtmpAmf0ReadAny_recovers (values property member)

theorem decode_connect {packet : RtmpConnectPacket} (name : packet.commandName = ascii "connect")
    (number : packet.number = Double.ofNat 1)
    (wellFormed : (RtmpAmf0Any.object packet.commandObject).WellFormed) :
    RtmpConnectPacket.new.decode (commandBody (.connect packet)) = .ok (0, packet) := by
  have fits : (ascii "connect").length ≤ 32767 := by decide
  have named : ascii "connect" ≠ [] := by decide
  have one : doubleEq (Double.ofNat 1) (Double.ofNat 1) = true := by decide
  rcases packet with ⟨commandName, bits, commandObject⟩
  subst name number
  simp only [RtmpConnectPacket.decode, commandBody, RtmpPacket.values, List.flatMap_cons, List.flatMap_nil,
    readString_named fits named _, Outcome.ok_bind_do, if_true, List.drop_left, readNumber_recovers _ _, one,
    List.drop_length_add_append, RtmpConnectPacket.new, object_wellFormed wellFormed _, Outcome.pure_eq]

/-- A stream name behind the head, and what follows it. -/
theorem commandBody_fmleStart (packet : RtmpFmleStartPacket) :
    commandBody (.fmleStart packet) = headEncoding packet.commandName packet.number ++
      (RtmpAmf0Any.string packet.streamName).encoding := by
  simp only [commandBody, RtmpPacket.values, headEncoding, List.flatMap_cons, List.flatMap_nil,
    List.append_assoc, List.append_nil]

theorem commandBody_publish (packet : RtmpPublishPacket) :
    commandBody (.publish packet) = headEncoding packet.commandName packet.number ++
      ((RtmpAmf0Any.string packet.streamName).encoding ++ (RtmpAmf0Any.string packet.type).encoding) := by
  simp only [commandBody, RtmpPacket.values, headEncoding, List.flatMap_cons, List.flatMap_nil,
    List.append_assoc, List.append_nil]

theorem decode_fmleStart {packet : RtmpFmleStartPacket}
    (accepted : RtmpFmleStartPacket.accepts packet.commandName = true) (named : packet.commandName ≠ [])
    (fits : packet.commandName.length ≤ 32767) (stream : packet.streamName.length ≤ 32767) :
    RtmpFmleStartPacket.new.decode (commandBody (.fmleStart packet)) =
      .ok ((commandBody (.fmleStart packet)).length, packet) := by
  have streamRead := readString_recovers stream []
  rw [List.append_nil] at streamRead
  simp only [RtmpFmleStartPacket.decode, commandBody_fmleStart, RtmpFmleStartPacket.new,
    readHead_recovers packet.number fits named accepted _, Outcome.ok_bind_do, List.drop_left, streamRead,
    Outcome.pure_eq, List.length_append]

/-- An empty name or type leaves the one that the packet held. -/
theorem decode_publish_held (held : RtmpPublishPacket) {packet : RtmpPublishPacket}
    (name : packet.commandName = ascii "publish")
    (stream : packet.streamName.length ≤ 32767) (type : packet.type.length ≤ 32767) :
    held.decode (commandBody (.publish packet)) =
      .ok ((commandBody (.publish packet)).length,
        { packet with
          streamName := if packet.streamName = [] then held.streamName else packet.streamName
          type := if packet.type = [] then held.type else packet.type }) := by
  have fits : packet.commandName.length ≤ 32767 := by
    rw [name]
    decide
  have named : packet.commandName ≠ [] := by
    rw [name]
    decide
  have head : Recovers (readHead held.commandName (· = ascii "publish"))
      (headEncoding packet.commandName packet.number) (packet.commandName, packet.number) :=
    readHead_recovers packet.number fits named (decide_eq_true name)
  have left : (headEncoding packet.commandName packet.number).length +
      (RtmpAmf0Any.string packet.streamName).encoding.length < (commandBody (.publish packet)).length := by
    have nonempty := encoding_pos (.string packet.type)
    rw [commandBody_publish, List.length_append, List.length_append]
    omega
  have typeRead := readString_held_recovers held.type type []
  rw [List.append_nil] at typeRead
  rw [commandBody_publish] at left ⊢
  simp only [RtmpPublishPacket.decode, head _, Outcome.ok_bind_do, List.drop_left,
    readString_held_recovers held.streamName stream _, if_pos left, List.drop_length_add_append, typeRead,
    Outcome.pure_eq]
  rw [List.length_append, List.length_append, Nat.add_assoc]

/-- An empty type leaves the one that the constructor set. -/
theorem decode_publish {packet : RtmpPublishPacket} (name : packet.commandName = ascii "publish")
    (stream : packet.streamName.length ≤ 32767) (type : packet.type.length ≤ 32767) :
    RtmpPublishPacket.new.decode (commandBody (.publish packet)) =
      .ok ((commandBody (.publish packet)).length,
        { packet with type := if packet.type = [] then ascii "live" else packet.type }) := by
  have decoded := decode_publish_held RtmpPublishPacket.new name stream type
  rwa [RtmpPublishPacket.new, ite_nil_self] at decoded

/-- The optional values of play. -/
def optionalBody (packet : RtmpPlayPacket) : List UInt8 :=
  (if packet.hasStart then [RtmpAmf0Any.number packet.start] else []).flatMap RtmpAmf0Any.encoding ++
    ((if packet.hasDuration then [RtmpAmf0Any.number packet.duration] else []).flatMap RtmpAmf0Any.encoding ++
      (if packet.hasReset then [RtmpAmf0Any.boolean packet.reset] else []).flatMap RtmpAmf0Any.encoding)

theorem commandBody_play (packet : RtmpPlayPacket) :
    commandBody (.play packet) = headEncoding packet.commandName packet.number ++
      ((RtmpAmf0Any.string packet.streamName).encoding ++ optionalBody packet) := by
  simp only [commandBody, RtmpPacket.values, headEncoding, List.flatMap_append, List.flatMap_cons,
    List.flatMap_nil, List.append_assoc, List.append_nil, optionalBody]

theorem readOptionalNumber_recovers (held value : UInt64) :
    Recovers (RtmpPlayPacket.readOptionalNumber held) (RtmpAmf0Any.number value).encoding value := by
  intro rest
  have left : ((RtmpAmf0Any.number value).encoding ++ rest).length > 0 := by
    have nonempty := encoding_pos (.number value)
    rw [List.length_append]
    omega
  rw [RtmpPlayPacket.readOptionalNumber, if_pos left]
  exact readNumber_recovers value rest

theorem readReset_recovers (held value : Bool) :
    Recovers (RtmpPlayPacket.readReset held) (RtmpAmf0Any.boolean value).encoding value := by
  intro rest
  have left : ((RtmpAmf0Any.boolean value).encoding ++ rest).length > 0 := by
    have nonempty := encoding_pos (.boolean value)
    rw [List.length_append]
    omega
  rw [RtmpPlayPacket.readReset, if_pos left, rtmpAmf0ReadAny_recovers (.boolean value) rest]
  rfl

/-- The three optional values, read from what is left of a body. -/
def readOptional : Reader UInt8 (UInt64 × UInt64 × Bool) := fun data => do
  let (ret, start) ← RtmpPlayPacket.readOptionalNumber RtmpPlayPacket.new.start data
  let (ret₁, duration) ← RtmpPlayPacket.readOptionalNumber RtmpPlayPacket.new.duration (data.drop ret)
  let (ret₂, reset) ← RtmpPlayPacket.readReset RtmpPlayPacket.new.reset (data.drop (ret + ret₁))
  return (ret + ret₁ + ret₂, (start, duration, reset))

/-- They are written as far as one of them says more than its default, and
what is not written is that default. -/
theorem readOptional_optionalBody (packet : RtmpPlayPacket) :
    readOptional (optionalBody packet) =
      .ok ((optionalBody packet).length, packet.start, packet.duration, packet.reset) := by
  have last (held value : UInt64) := readOptionalNumber_recovers held value []
  have flag (held value : Bool) := readReset_recovers held value []
  have absent (held : UInt64) : RtmpPlayPacket.readOptionalNumber held [] = .ok (0, held) := rfl
  have absentFlag (held : Bool) : RtmpPlayPacket.readReset held [] = .ok (0, held) := rfl
  simp only [List.append_nil] at last flag
  rcases packet with ⟨commandName, bits, streamName, start, duration, reset⟩
  cases reset with
  | false =>
      have body : optionalBody ⟨commandName, bits, streamName, start, duration, false⟩ =
          (RtmpAmf0Any.number start).encoding ++
            ((RtmpAmf0Any.number duration).encoding ++ (RtmpAmf0Any.boolean false).encoding) := by
        simp only [optionalBody, RtmpPlayPacket.hasStart, RtmpPlayPacket.hasDuration, RtmpPlayPacket.hasReset,
          Bool.not_false, Bool.or_true, if_true, List.flatMap_cons, List.flatMap_nil, List.append_nil]
      rw [body, readOptional]
      simp only [readOptionalNumber_recovers _ _ _, Outcome.ok_bind_do, List.drop_left,
        List.drop_length_add_append, flag, Outcome.pure_eq, List.length_append, Nat.add_assoc]
  | true =>
      cases plain : doubleEq duration (Double.neg (Double.ofNat 1)) with
      | false =>
          have body : optionalBody ⟨commandName, bits, streamName, start, duration, true⟩ =
              (RtmpAmf0Any.number start).encoding ++ (RtmpAmf0Any.number duration).encoding := by
            simp only [optionalBody, RtmpPlayPacket.hasStart, RtmpPlayPacket.hasDuration,
              RtmpPlayPacket.hasReset, plain, Bool.not_false, Bool.not_true, Bool.true_or, Bool.or_true, if_true,
              Bool.false_eq_true, if_false, List.flatMap_cons, List.flatMap_nil, List.append_nil]
          rw [body, readOptional]
          simp only [readOptionalNumber_recovers _ _ _, Outcome.ok_bind_do, List.drop_left,
            List.drop_length_add_append, last, List.drop_length, absentFlag, Outcome.pure_eq,
            List.length_append, Nat.add_zero]
          rfl
      | true =>
          have plainBits := eq_of_doubleEq plain (by decide)
          cases plainStart : doubleEq start (Double.neg (Double.ofNat 2)) with
          | false =>
              have body : optionalBody ⟨commandName, bits, streamName, start, duration, true⟩ =
                  (RtmpAmf0Any.number start).encoding := by
                simp only [optionalBody, RtmpPlayPacket.hasStart, RtmpPlayPacket.hasDuration,
                  RtmpPlayPacket.hasReset, plain, plainStart, Bool.not_false, Bool.not_true,
                  Bool.or_false, if_true, Bool.false_eq_true, if_false, List.flatMap_cons, List.flatMap_nil,
                  List.append_nil]
              rw [body, readOptional, plainBits]
              simp only [Outcome.ok_bind_do, last, List.drop_length, absent, absentFlag, Outcome.pure_eq,
                Nat.add_zero]
              rfl
          | true =>
              have plainStartBits := eq_of_doubleEq plainStart (by decide)
              have body : optionalBody ⟨commandName, bits, streamName, start, duration, true⟩ = [] := by
                simp only [optionalBody, RtmpPlayPacket.hasStart, RtmpPlayPacket.hasDuration,
                  RtmpPlayPacket.hasReset, plain, plainStart, Bool.not_true, Bool.or_false, Bool.false_eq_true,
                  if_false, List.flatMap_nil, List.append_nil]
              rw [body, plainBits, plainStartBits]
              rfl

theorem decode_play {packet : RtmpPlayPacket} (name : packet.commandName = ascii "play")
    (stream : packet.streamName.length ≤ 32767) :
    RtmpPlayPacket.new.decode (commandBody (.play packet)) =
      .ok ((commandBody (.play packet)).length, packet) := by
  have fits : packet.commandName.length ≤ 32767 := by
    rw [name]
    decide
  have named : packet.commandName ≠ [] := by
    rw [name]
    decide
  have head : Recovers (readHead (ascii "play") (· = ascii "play"))
      (headEncoding packet.commandName packet.number) (packet.commandName, packet.number) :=
    readHead_recovers packet.number fits named (decide_eq_true name)
  have optional := readOptional_optionalBody packet
  rcases Outcome.bind_eq_ok optional with ⟨⟨ret, start⟩, first, optional⟩
  rcases Outcome.bind_eq_ok optional with ⟨⟨ret₁, duration⟩, second, optional⟩
  rcases Outcome.bind_eq_ok optional with ⟨⟨ret₂, reset⟩, third, last⟩
  have values := Outcome.ok.inj last
  simp only [Prod.mk.injEq] at values
  rw [commandBody_play]
  simp only [RtmpPlayPacket.decode, RtmpPlayPacket.new, head _, Outcome.ok_bind_do, List.drop_left,
    readString_recovers stream _, List.drop_length_add_append, Nat.add_assoc] at first second third ⊢
  simp only [first, second, third, Outcome.ok_bind_do, Outcome.pure_eq, List.length_append, ← values.1, values.2.1,
    values.2.2.1, values.2.2.2, Nat.add_assoc]

/-! ## Calls and data -/

/-- A call without arguments ends behind its object. -/
theorem decode_call_bare {name : List UInt8} {number : UInt64} {object : RtmpAmf0Any} (named : name ≠ [])
    (fits : name.length ≤ 32767) (wellFormed : object.WellFormed) :
    let packet : RtmpCallPacket := { commandName := name, number, object := some object, args := none }
    RtmpCallPacket.new.decode (commandBody (.call packet)) =
      .ok ((commandBody (.call packet)).length, packet) := by
  intro packet
  have body : commandBody (.call packet) = (RtmpAmf0Any.string name).encoding ++
      ((RtmpAmf0Any.number number).encoding ++ object.encoding) := by
    simp only [packet, commandBody, RtmpPacket.values, Option.toList, List.flatMap_cons, List.flatMap_nil,
      List.cons_append, List.nil_append, List.append_nil]
  have finished : ¬ (RtmpAmf0Any.string name).encoding.length + (RtmpAmf0Any.number number).encoding.length +
      object.encoding.length < (commandBody (.call packet)).length := by
    rw [body, List.length_append, List.length_append]
    omega
  have objectRead := readDiscovered_recovers wellFormed []
  rw [List.append_nil] at objectRead
  rw [body] at finished ⊢
  simp only [RtmpCallPacket.decode, RtmpCallPacket.new, readString_recovers fits _, Outcome.ok_bind_do,
    if_neg named, List.drop_left, readNumber_recovers number _, Outcome.errorAs_ok,
    List.drop_length_add_append, objectRead, if_neg finished, Outcome.pure_eq]
  rw [List.length_append, List.length_append, Nat.add_assoc]

theorem decode_call_args {name : List UInt8} {number : UInt64} {object args : RtmpAmf0Any} (named : name ≠ [])
    (fits : name.length ≤ 32767) (wellFormed : object.WellFormed) (wellFormed' : args.WellFormed) :
    let packet : RtmpCallPacket := { commandName := name, number, object := some object, args := some args }
    RtmpCallPacket.new.decode (commandBody (.call packet)) =
      .ok ((commandBody (.call packet)).length, packet) := by
  intro packet
  have body : commandBody (.call packet) = (RtmpAmf0Any.string name).encoding ++
      ((RtmpAmf0Any.number number).encoding ++ (object.encoding ++ args.encoding)) := by
    simp only [packet, commandBody, RtmpPacket.values, Option.toList, List.flatMap_cons, List.flatMap_nil,
      List.cons_append, List.nil_append, List.append_nil]
  have left : (RtmpAmf0Any.string name).encoding.length + (RtmpAmf0Any.number number).encoding.length +
      object.encoding.length < (commandBody (.call packet)).length := by
    have nonempty := encoding_pos args
    rw [body, List.length_append, List.length_append, List.length_append]
    omega
  have argsRead := readDiscovered_recovers wellFormed' []
  rw [List.append_nil] at argsRead
  rw [body] at left ⊢
  simp only [RtmpCallPacket.decode, RtmpCallPacket.new, readString_recovers fits _, Outcome.ok_bind_do,
    if_neg named, List.drop_left, readNumber_recovers number _, Outcome.errorAs_ok,
    List.drop_length_add_append, readDiscovered_recovers wellFormed _, if_pos left, Outcome.pure_eq]
  simp only [Nat.add_assoc, List.drop_length_add_append, List.drop_left, argsRead, Outcome.ok_bind_do,
    List.length_append, packet]

theorem decode_call {packet : RtmpCallPacket} {object : RtmpAmf0Any} (named : packet.commandName ≠ [])
    (fits : packet.commandName.length ≤ 32767) (present : packet.object = some object)
    (wellFormed : object.WellFormed) (args : forall value, packet.args = some value -> value.WellFormed) :
    RtmpCallPacket.new.decode (commandBody (.call packet)) =
      .ok ((commandBody (.call packet)).length, packet) := by
  rcases packet with ⟨commandName, number, objectSlot, argsSlot⟩
  have present : objectSlot = some object := present
  rw [present]
  cases argsSlot with
  | none => exact decode_call_bare named fits wellFormed
  | some value => exact decode_call_args named fits wellFormed (args value rfl)

theorem decode_onMetaData {packet : RtmpOnMetaDataPacket} (name : packet.commandName = ascii "onMetaData")
    (wellFormed : (RtmpAmf0Any.object packet.metadata).WellFormed) :
    RtmpOnMetaDataPacket.new.decode (commandBody (.onMetaData packet)) =
      .ok ((commandBody (.onMetaData packet)).length, packet) := by
  have fits : (ascii "onMetaData").length ≤ 32767 := by decide
  have named : ascii "onMetaData" ≠ [] := by decide
  have plain : ¬ ascii "onMetaData" = ascii "@setDataFrame" := by decide
  rcases packet with ⟨commandName, metadata⟩
  subst name
  have body : commandBody (.onMetaData ⟨ascii "onMetaData", metadata⟩) =
      (RtmpAmf0Any.string (ascii "onMetaData")).encoding ++ (RtmpAmf0Any.object metadata).encoding := by
    simp only [commandBody, RtmpPacket.values, List.flatMap_cons, List.flatMap_nil, List.append_nil]
  have left : (RtmpAmf0Any.string (ascii "onMetaData")).encoding.length <
      ((RtmpAmf0Any.string (ascii "onMetaData")).encoding ++ (RtmpAmf0Any.object metadata).encoding).length := by
    have nonempty := encoding_pos (.object metadata)
    rw [List.length_append]
    omega
  have metadataRead := rtmpAmf0ReadAny_recovers wellFormed []
  rw [List.append_nil] at metadataRead
  simp only [RtmpOnMetaDataPacket.decode, RtmpOnMetaDataPacket.readName, body, RtmpOnMetaDataPacket.new,
    readString_named fits named _, Outcome.ok_bind_do, if_neg plain, if_pos left, List.drop_left, metadataRead,
    Outcome.pure_eq]
  rw [List.length_append]

/-! ## What a decoder leaves is legible -/

theorem RtmpConnectPacket.decode_legible {data : List UInt8} {ret : Nat} {packet : RtmpConnectPacket}
    (decoded : RtmpConnectPacket.new.decode data = .ok (ret, packet)) :
    (RtmpAmf0Any.object packet.commandObject).Legible := by
  have empty : (RtmpAmf0Any.object []).Legible := .intro trivial (List.forall_mem_nil _)
  rcases Outcome.bind_eq_ok decoded with ⟨⟨count, commandName⟩, -, decoded⟩
  simp only at decoded
  split at decoded
  · rcases Outcome.bind_eq_ok decoded with ⟨⟨count', number⟩, -, decoded⟩
    simp only at decoded
    split at decoded
    · rcases Outcome.bind_eq_ok decoded with ⟨⟨count'', commandObject⟩, object, last⟩
      rw [← Outcome.value_eq last]
      have kept := readObject_invariant (fun _ _ _ => rtmpAmf0ReadAny_legible) (readTable_nil _) object
      exact .intro trivial (.to_map kept.2)
    · rw [← Outcome.value_eq decoded]
      exact empty
  · rw [← Outcome.value_eq decoded]
    exact empty

theorem RtmpCallPacket.decode_legible {data : List UInt8} {ret : Nat} {packet : RtmpCallPacket}
    (decoded : RtmpCallPacket.new.decode data = .ok (ret, packet)) :
    packet.commandName ≠ [] ∧ (Exists fun object => packet.object = some object ∧ object.Legible) ∧
      forall value, packet.args = some value -> value.Legible := by
  rcases Outcome.bind_eq_ok decoded with ⟨⟨count, commandName⟩, -, decoded⟩
  simp only at decoded
  split at decoded
  · cases decoded
  next named =>
    rcases Outcome.bind_eq_ok decoded with ⟨⟨count₁, number⟩, -, decoded⟩
    rcases Outcome.bind_eq_ok decoded with ⟨⟨count₂, object⟩, objectRead, decoded⟩
    have legible := readDiscovered_legible objectRead
    simp only at decoded
    split at decoded
    · rcases Outcome.bind_eq_ok decoded with ⟨⟨count₃, args⟩, argsRead, last⟩
      rw [← Outcome.value_eq last]
      refine ⟨named, ⟨object, rfl, legible⟩, ?_⟩
      intro value same
      rw [← Option.some.inj same]
      exact readDiscovered_legible argsRead
    · rw [← Outcome.value_eq decoded]
      exact ⟨named, ⟨object, rfl, legible⟩, fun value none => by cases none⟩

theorem RtmpOnMetaDataPacket.decode_legible {data : List UInt8} {ret : Nat} {packet : RtmpOnMetaDataPacket}
    (decoded : RtmpOnMetaDataPacket.new.decode data = .ok (ret, packet)) :
    (RtmpAmf0Any.object packet.metadata).Legible := by
  have empty : (RtmpAmf0Any.object []).Legible := .intro trivial (List.forall_mem_nil _)
  rcases Outcome.bind_eq_ok decoded with ⟨⟨count, commandName⟩, -, decoded⟩
  simp only at decoded
  split at decoded
  · rcases Outcome.bind_eq_ok decoded with ⟨⟨count', value⟩, read, decoded⟩
    have legible := rtmpAmf0ReadAny_legible read
    cases value with
    | object metadata =>
        rw [← Outcome.value_eq decoded]
        exact legible
    | ecmaArray announced properties =>
        rw [← Outcome.value_eq decoded]
        refine .intro trivial (.to_map (copyProperties_values (List.forall_mem_nil _) ?_))
        intro property member
        exact RtmpAmf0Any.Legible.copy (legible.inside property.2 (List.mem_map_of_mem member))
    | _ =>
        rw [← Outcome.value_eq decoded]
        exact empty
  · rw [← Outcome.value_eq decoded]
    exact empty

/-! ## The choice of the class -/

/-- The names of answers. -/
def answerNames : List (List UInt8) := [ascii "_result", ascii "_error"]

/-- The names with a branch of their own in `decode_msg`. -/
def branchNames : List (List UInt8) :=
  [ascii "connect", ascii "createStream", ascii "play", ascii "pause", ascii "releaseStream",
    ascii "FCPublish", ascii "publish", ascii "FCUnpublish", ascii "@setDataFrame", ascii "onMetaData",
    ascii "closeStream"]

theorem decodeAt_ok {α : Type} {wrap : α -> RtmpPacket} {decode : Reader UInt8 α} {offset : Nat}
    {body : List UInt8} {ret : Int} {packet : RtmpPacket}
    (decoded : decodeAt wrap decode offset body = .ok (ret, packet)) :
    Exists fun found => wrap found = packet ∧
      Exists fun count => decode (body.drop offset) = .ok (count, found) := by
  rcases Outcome.bind_eq_ok decoded with ⟨⟨count, found⟩, read, last⟩
  exact ⟨found, congrArg Prod.snd (Outcome.ok.inj last), count, read⟩

/-- A name with a branch of its own is decoded as no call. -/
theorem decodeRequest_not_call {msgTypeId : UInt8} {command body : List UInt8} {offset : Nat} {ret : Int}
    {packet : RtmpCallPacket} (branch : command ∈ branchNames) :
    decodeRequest msgTypeId command offset body ≠ .ok (ret, .call packet) := by
  intro decoded
  simp only [branchNames, List.mem_cons, List.not_mem_nil, or_false] at branch
  rcases branch with name | name | name | name | name | name | name | name | name | name | name
  all_goals
    rw [name] at decoded
    rcases decodeAt_ok decoded with ⟨found, other, -⟩
    cases other

/-- The types of messages that calls come in. -/
abbrev HoldsCall (msgTypeId : UInt8) : Prop :=
  msgTypeId = rtmpMsgAmf0CommandMessage ∨ msgTypeId = rtmpMsgAmf3CommandMessage

/-- Any other name is a call, in a message of these types. -/
theorem decodeRequest_other (msgTypeId : UInt8) {command : List UInt8} (other : command ∉ branchNames) :
    decodeRequest msgTypeId command =
      if HoldsCall msgTypeId then decodeAt .call RtmpCallPacket.new.decode else fun _ _ => .error (-2) := by
  simp only [branchNames, List.mem_cons, List.not_mem_nil, or_false, not_or] at other
  simp only [decodeRequest, other, if_false]

/-- The body of the message is the encodings of the values. -/
theorem rtmpBody_messageOf (header : RtmpHeader) {packet : RtmpPacket} (described : packet.values ≠ [])
    (short : forall value, value ∈ packet.values -> value.Short) (inInt : packet.getPkgLen < 2 ^ 31) :
    (messageOf header packet).rtmpBody = commandBody packet := by
  rw [messageOf, (RtmpPacket.body_values described short inInt).payload_eq, Option.getD_some]
  rfl

section Dispatch

variable {packet : RtmpPacket} {name : List UInt8} {others : List RtmpAmf0Any}
variable (requests : RequestsMap) (header : RtmpHeader)

/-- The name is the first value of the body. -/
theorem readString_commandBody (values : packet.values = .string name :: others) (fits : name.length ≤ 32767) :
    rtmpAmf0ReadString [] (commandBody packet) =
      .ok ((RtmpAmf0Any.string name).encoding.length, name) := by
  rw [commandBody, values, List.flatMap_cons]
  exact readString_recovers fits _

theorem decodeMsg_messageOf (values : packet.values = .string name :: others)
    (short : forall value, value ∈ packet.values -> value.Short) (inInt : packet.getPkgLen < 2 ^ 31)
    (type : packet.getMsgType = rtmpMsgAmf0CommandMessage ∨ packet.getMsgType = rtmpMsgAmf0DataMessage) :
    decodeMsg requests (messageOf header packet) =
      decodeCommand requests packet.getMsgType (commandBody packet) := by
  have described : packet.values ≠ [] := by
    rw [values]
    exact List.cons_ne_nil _ _
  have kind : (messageOf header packet).rtmpHeader.msgTypeId = packet.getMsgType := rfl
  rw [decodeMsg, kind, rtmpBody_messageOf header described short inInt]
  apply if_pos
  rcases type with command | data
  · exact Or.inl command
  · exact Or.inr (Or.inr (Or.inl data))

/-- A name that is no answer leads to its branch. -/
theorem decodeCommand_request (values : packet.values = .string name :: others) (fits : name.length ≤ 32767)
    (type : packet.getMsgType ≠ rtmpMsgAmf3CommandMessage) (request : name ∉ answerNames) :
    decodeCommand requests packet.getMsgType (commandBody packet) =
      decodeRequest packet.getMsgType name 0 (commandBody packet) := by
  simp only [answerNames, List.mem_cons, List.not_mem_nil, or_false] at request
  simp only [decodeCommand, if_neg type, List.drop_zero, readString_commandBody values fits,
    Outcome.ok_bind_do, if_neg request]

end Dispatch

/-! ## Which requests survive -/

namespace RtmpPacket

/-- The names of the requests that have a class of their own. -/
def requestNames : List (List UInt8) :=
  [ascii "connect", ascii "createStream", ascii "releaseStream", ascii "FCPublish", ascii "publish",
    ascii "play"]

/-- The requests that the client can send. -/
def IsRequest : RtmpPacket -> Prop
  | connect packet => packet.commandName = ascii "connect" ∧ packet.number = Double.ofNat 1
  | createStream packet => packet.commandName = ascii "createStream"
  | fmleStart packet => RtmpFmleStartPacket.accepts packet.commandName = true
  | publish packet => packet.commandName = ascii "publish"
  | play packet => packet.commandName = ascii "play"
  | call packet => packet.commandName ∉ requestNames
  | onMetaData packet => packet.commandName = ascii "onMetaData"
  | _ => False

/-- A request with strings that can be encoded, a size that `get_pkg_len` can
say, names that are distinct and strict arrays that announce what they hold. -/
structure Sendable (packet : RtmpPacket) : Prop where
  request : packet.IsRequest
  short : forall value, value ∈ packet.values -> value.Short
  inInt : packet.getPkgLen < 2 ^ 31
  built : forall value, value ∈ packet.values -> value.Built

/-- Decoding the encoded request gives the request back, whatever was recorded
before and whatever the chunks said beside type and length. -/
def Survives (packet : RtmpPacket) : Prop :=
  forall (requests : RequestsMap) (header : RtmpHeader), Exists fun ret : Nat =>
    decodeMsg requests (messageOf header packet) = .ok (ret, packet)

/-- What the decoders take back.  createStream leads to another class; an empty
publish type is not distinguished from none; a call needs a name that leads to
no other class and an object; and no number may look like an end marker. -/
def Decodable : RtmpPacket -> Prop
  | connect packet => (RtmpAmf0Any.object packet.commandObject).Legible
  | createStream _ => False
  | publish packet => packet.type ≠ []
  | call packet =>
      packet.commandName ≠ [] ∧ packet.commandName ∉ answerNames ∧ packet.commandName ∉ branchNames ∧
        (Exists fun object => packet.object = some object ∧ object.Legible) ∧
        forall value, packet.args = some value -> value.Legible
  | onMetaData packet => (RtmpAmf0Any.object packet.metadata).Legible
  | _ => True

namespace Sendable

variable {packet : RtmpPacket} {value : RtmpAmf0Any}

theorem wellFormed (sendable : packet.Sendable) (member : value ∈ packet.values) (legible : value.Legible) :
    value.WellFormed :=
  RtmpAmf0Any.wellFormed_iff.mpr ⟨sendable.short value member, sendable.built value member, legible⟩

/-- A string among the values can be encoded. -/
theorem fits (sendable : packet.Sendable) {text : List UInt8} (member : .string text ∈ packet.values) :
    text.length ≤ 32767 :=
  (sendable.short (.string text) member).here

end Sendable

/-- A request with a name that is no answer survives if its branch takes it
back. -/
theorem survives_iff_branch {packet : RtmpPacket} {name : List UInt8} {others : List RtmpAmf0Any}
    (sendable : packet.Sendable) (values : packet.values = .string name :: others)
    (type : packet.getMsgType = rtmpMsgAmf0CommandMessage ∨ packet.getMsgType = rtmpMsgAmf0DataMessage)
    (request : name ∉ answerNames) :
    packet.Survives ↔ Exists fun ret : Nat =>
      decodeRequest packet.getMsgType name 0 (commandBody packet) = .ok (ret, packet) := by
  have member : .string name ∈ packet.values := by
    rw [values]
    exact List.mem_cons_self
  have notAmf3 : packet.getMsgType ≠ rtmpMsgAmf3CommandMessage := by
    rcases type with command | data
    · rw [command]
      decide
    · rw [data]
      decide
  have decoded (requests : RequestsMap) (header : RtmpHeader) :
      decodeMsg requests (messageOf header packet) =
        decodeRequest packet.getMsgType name 0 (commandBody packet) :=
    (decodeMsg_messageOf requests header values sendable.short sendable.inInt type).trans
      (decodeCommand_request requests values (sendable.fits member) notAmf3 request)
  constructor
  · intro survives
    rcases survives [] .new with ⟨ret, whole⟩
    exact ⟨ret, (decoded [] .new).symm.trans whole⟩
  · rintro ⟨ret, branch⟩ requests header
    exact ⟨ret, (decoded requests header).trans branch⟩

/-- The branch hands its packet on. -/
theorem decodeAt_zero {α : Type} {wrap : α -> RtmpPacket} {decode : Reader UInt8 α} {body : List UInt8}
    {ret : Nat} {found : α} (decoded : decode body = .ok (ret, found)) :
    decodeAt wrap decode 0 body = .ok (ret, wrap found) := by
  simp only [decodeAt, List.drop_zero, decoded, Outcome.ok_bind_do, Nat.zero_add, Outcome.pure_eq]

theorem survives_connect {packet : RtmpConnectPacket} (sendable : (connect packet).Sendable) :
    (connect packet).Survives ↔ (connect packet).Decodable := by
  have name : packet.commandName = ascii "connect" := sendable.request.1
  have request : packet.commandName ∉ answerNames := by
    rw [name]
    decide
  have object : .object packet.commandObject ∈ (connect packet).values :=
    List.mem_cons_of_mem _ (List.mem_cons_of_mem _ List.mem_cons_self)
  rw [survives_iff_branch sendable rfl (Or.inl rfl) request, name]
  constructor
  · rintro ⟨ret, branch⟩
    rcases decodeAt_ok branch with ⟨found, same, count, decoded⟩
    have legible := RtmpConnectPacket.decode_legible decoded
    rw [connect.inj same] at legible
    exact legible
  · intro legible
    exact ⟨0, decodeAt_zero (decode_connect name sendable.request.2 (sendable.wellFormed object legible))⟩

theorem survives_createStream {packet : RtmpCreateStreamPacket} (sendable : (createStream packet).Sendable) :
    ¬ (createStream packet).Survives := by
  have name : packet.commandName = ascii "createStream" := sendable.request
  have request : packet.commandName ∉ answerNames := by
    rw [name]
    decide
  rw [survives_iff_branch sendable rfl (Or.inl rfl) request, name]
  rintro ⟨ret, branch⟩
  rcases decodeAt_ok branch with ⟨found, other, -⟩
  cases other

theorem survives_fmleStart {packet : RtmpFmleStartPacket} (sendable : (fmleStart packet).Sendable) :
    (fmleStart packet).Survives := by
  have accepted : RtmpFmleStartPacket.accepts packet.commandName = true := sendable.request
  have stream : .string packet.streamName ∈ (fmleStart packet).values :=
    List.mem_cons_of_mem _ (List.mem_cons_of_mem _ (List.mem_cons_of_mem _ List.mem_cons_self))
  have names : (packet.commandName = ascii "releaseStream" ∨ packet.commandName = ascii "FCPublish") ∨
      packet.commandName = ascii "FCUnpublish" := by
    simp only [RtmpFmleStartPacket.accepts, Bool.or_eq_true, decide_eq_true_eq] at accepted
    exact accepted
  have request : packet.commandName ∉ answerNames := by
    rcases names with (name | name) | name <;> rw [name] <;> decide
  have named : packet.commandName ≠ [] := by
    rcases names with (name | name) | name <;> rw [name] <;> decide
  have decoded := decode_fmleStart accepted named (sendable.fits List.mem_cons_self) (sendable.fits stream)
  have branch : decodeRequest rtmpMsgAmf0CommandMessage packet.commandName =
      decodeAt .fmleStart RtmpFmleStartPacket.new.decode := by
    rcases names with (name | name) | name <;> rw [name] <;> rfl
  have taken := (congrFun (congrFun branch 0) _).trans (decodeAt_zero decoded)
  exact (survives_iff_branch sendable rfl (Or.inl rfl) request).mpr ⟨_, taken⟩

theorem survives_publish {packet : RtmpPublishPacket} (sendable : (publish packet).Sendable) :
    (publish packet).Survives ↔ (publish packet).Decodable := by
  have name : packet.commandName = ascii "publish" := sendable.request
  have request : packet.commandName ∉ answerNames := by
    rw [name]
    decide
  have stream : .string packet.streamName ∈ (publish packet).values :=
    List.mem_cons_of_mem _ (List.mem_cons_of_mem _ (List.mem_cons_of_mem _ List.mem_cons_self))
  have type : .string packet.type ∈ (publish packet).values :=
    List.mem_cons_of_mem _ (List.mem_cons_of_mem _ (List.mem_cons_of_mem _
      (List.mem_cons_of_mem _ List.mem_cons_self)))
  have decoded := decode_publish name (sendable.fits stream) (sendable.fits type)
  rw [survives_iff_branch sendable rfl (Or.inl rfl) request, name]
  constructor
  · rintro ⟨ret, branch⟩ empty
    have taken := (decodeAt_zero decoded).symm.trans branch
    have same := congrArg RtmpPublishPacket.type (publish.inj (Outcome.value_eq taken))
    simp only [if_pos empty] at same
    rw [empty] at same
    exact absurd same (by decide)
  · intro filled
    rw [if_neg filled] at decoded
    exact ⟨_, decodeAt_zero decoded⟩

theorem survives_play {packet : RtmpPlayPacket} (sendable : (play packet).Sendable) :
    (play packet).Survives := by
  have name : packet.commandName = ascii "play" := sendable.request
  have request : packet.commandName ∉ answerNames := by
    rw [name]
    decide
  have stream : .string packet.streamName ∈ (play packet).values := by
    simp only [values, List.mem_append, List.mem_cons, true_or, or_true]
  rw [survives_iff_branch sendable rfl (Or.inl rfl) request, name]
  exact ⟨_, decodeAt_zero (decode_play name (sendable.fits stream))⟩

theorem survives_onMetaData {packet : RtmpOnMetaDataPacket} (sendable : (onMetaData packet).Sendable) :
    (onMetaData packet).Survives ↔ (onMetaData packet).Decodable := by
  have name : packet.commandName = ascii "onMetaData" := sendable.request
  have request : packet.commandName ∉ answerNames := by
    rw [name]
    decide
  have object : .object packet.metadata ∈ (onMetaData packet).values :=
    List.mem_cons_of_mem _ List.mem_cons_self
  rw [survives_iff_branch sendable rfl (Or.inr rfl) request, name]
  constructor
  · rintro ⟨ret, branch⟩
    rcases decodeAt_ok branch with ⟨found, same, count, decoded⟩
    have legible := RtmpOnMetaDataPacket.decode_legible decoded
    rw [onMetaData.inj same] at legible
    exact legible
  · intro legible
    exact ⟨_, decodeAt_zero (decode_onMetaData name (sendable.wellFormed object legible))⟩

theorem values_call (packet : RtmpCallPacket) : (call packet).values =
    .string packet.commandName :: .number packet.number :: (packet.object.toList ++ packet.args.toList) :=
  rfl

/-- A call with the name of an answer is taken for one. -/
theorem survives_call_answer {packet : RtmpCallPacket} (sendable : (call packet).Sendable)
    (answer : packet.commandName ∈ answerNames) : ¬ (call packet).Survives := by
  intro survives
  rcases survives [] .new with ⟨ret, decoded⟩
  have fits := sendable.fits List.mem_cons_self
  have name : packet.commandName = ascii "_result" ∨ packet.commandName = ascii "_error" := by
    simp only [answerNames, List.mem_cons, List.not_mem_nil, or_false] at answer
    exact answer
  have command : ¬ rtmpMsgAmf0CommandMessage = rtmpMsgAmf3CommandMessage := by decide
  have first := readString_commandBody (values_call packet) fits
  rw [decodeMsg_messageOf [] .new (values_call packet) sendable.short sendable.inInt (Or.inl rfl),
    show (call packet).getMsgType = rtmpMsgAmf0CommandMessage from rfl] at decoded
  simp only [decodeCommand, if_neg command, List.drop_zero, first, Outcome.ok_bind_do, if_pos name] at decoded
  rcases Outcome.bind_eq_ok decoded with ⟨⟨count, number⟩, -, decoded⟩
  cases decoded

theorem survives_call {packet : RtmpCallPacket} (sendable : (call packet).Sendable) :
    (call packet).Survives ↔ (call packet).Decodable := by
  by_cases answer : packet.commandName ∈ answerNames
  · constructor
    · exact fun survives => absurd survives (survives_call_answer sendable answer)
    · exact fun decodable => absurd answer decodable.2.1
  · have holds : HoldsCall (call packet).getMsgType := Or.inl rfl
    rw [survives_iff_branch sendable (values_call packet) (Or.inl rfl) answer]
    constructor
    · rintro ⟨ret, branch⟩
      have plain : packet.commandName ∉ branchNames := fun found => decodeRequest_not_call found branch
      have decoded := branch
      rw [decodeRequest_other _ plain, if_pos holds] at decoded
      rcases decodeAt_ok decoded with ⟨found, same, count, read⟩
      have legible := RtmpCallPacket.decode_legible read
      rw [call.inj same] at legible
      exact ⟨legible.1, answer, plain, legible.2⟩
    · rintro ⟨named, -, plain, ⟨object, present, legible⟩, argsLegible⟩
      have objectPart : object ∈ (call packet).values := by
        simp only [values, present, List.mem_append, Option.toList, List.mem_singleton, or_true, true_or]
      have argsPart (value : RtmpAmf0Any) (given : packet.args = some value) :
          value ∈ (call packet).values := by
        simp only [values, given, List.mem_append, Option.toList, List.mem_singleton, or_true]
      have decoded := decode_call named (sendable.fits List.mem_cons_self) present
        (sendable.wellFormed objectPart legible)
        fun value given => sendable.wellFormed (argsPart value given) (argsLegible value given)
      rw [decodeRequest_other _ plain, if_pos holds]
      exact ⟨_, decodeAt_zero decoded⟩

/-- Exactly these requests come back as they were sent. -/
theorem survives_iff {packet : RtmpPacket} (sendable : packet.Sendable) :
    packet.Survives ↔ packet.Decodable := by
  cases packet with
  | connect packet => exact survives_connect sendable
  | createStream packet => exact iff_of_false (survives_createStream sendable) id
  | fmleStart packet => exact iff_of_true (survives_fmleStart sendable) trivial
  | publish packet => exact survives_publish sendable
  | play packet => exact iff_of_true (survives_play sendable) trivial
  | call packet => exact survives_call sendable
  | onMetaData packet => exact survives_onMetaData sendable
  | _ => exact absurd sendable.request id

/-- The call that asks for the length of a stream. -/
theorem survives_iff_call :
    let packet : RtmpCallPacket := { RtmpCallPacket.new with
      commandName := ascii "getStreamLength"
      number := Double.ofNat 4
      object := some .null
      args := some (.string (ascii "stream")) }
    (call packet).Survives := by
  intro packet
  have nameLength : (ascii "getStreamLength").length ≤ 32767 := by decide
  have streamLength : (ascii "stream").length ≤ 32767 := by decide
  have name : (RtmpAmf0Any.string (ascii "getStreamLength")).Short := .leaf nameLength rfl
  have stream : (RtmpAmf0Any.string (ascii "stream")).Short := .leaf streamLength rfl
  have sendable : (call packet).Sendable := by
    refine ⟨show ascii "getStreamLength" ∉ requestNames by decide, ?_, by decide, ?_⟩
    · exact List.forall_mem_cons.mpr ⟨name, List.forall_mem_cons.mpr ⟨.leaf trivial rfl,
        List.forall_mem_cons.mpr ⟨.leaf trivial rfl, List.forall_mem_cons.mpr ⟨stream,
          List.forall_mem_nil _⟩⟩⟩⟩
    · exact List.forall_mem_cons.mpr ⟨.leaf trivial rfl, List.forall_mem_cons.mpr ⟨.leaf trivial rfl,
        List.forall_mem_cons.mpr ⟨.leaf trivial rfl, List.forall_mem_cons.mpr ⟨.leaf trivial rfl,
          List.forall_mem_nil _⟩⟩⟩⟩
  have args (value : RtmpAmf0Any) (given : packet.args = some value) : value.Legible := by
    rw [← Option.some.inj given]
    exact .leaf trivial rfl
  exact (survives_iff sendable).mpr ⟨by decide, by decide, by decide, ⟨.null, rfl, .leaf trivial rfl⟩, args⟩

/-- createStream itself is decoded as closeStream. -/
theorem createStream_lost :
    (createStream .new).Sendable ∧ ¬ (createStream .new).Survives := by
  have name : (RtmpAmf0Any.string (ascii "createStream")).ShortHere := by
    have length : (ascii "createStream").length ≤ 32767 := by decide
    exact length
  have sendable : (createStream .new).Sendable := by
    refine ⟨rfl, ?_, by decide, ?_⟩
    · exact List.forall_mem_cons.mpr ⟨.leaf name rfl, List.forall_mem_cons.mpr ⟨.leaf trivial rfl,
        List.forall_mem_cons.mpr ⟨.leaf trivial rfl, List.forall_mem_nil _⟩⟩⟩
    · exact List.forall_mem_cons.mpr ⟨.leaf trivial rfl, List.forall_mem_cons.mpr ⟨.leaf trivial rfl,
        List.forall_mem_cons.mpr ⟨.leaf trivial rfl, List.forall_mem_nil _⟩⟩⟩
  exact ⟨sendable, survives_createStream sendable⟩

end RtmpPacket

end Rtmp
end RtmpClient
