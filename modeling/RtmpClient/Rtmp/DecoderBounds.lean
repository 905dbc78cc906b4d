import RtmpClient.Rtmp.Answers
import RtmpClient.Rtmp.DeletedTwice
import RtmpClient.Rtmp.MediaBounds

namespace RtmpClient
namespace Rtmp

open Library Net Amf0

/-!
# What the decoders read

Each decoder is a chain of readers at a running offset, with the optional parts
at its end.  For every class this says which fields have been read when the
chain is through, and that the offset has not passed the end of the body.  One
reader spoils it twice: `RtmpAmf0Object::read` answers 1 to an empty buffer, and
it deletes a value that broke off once too often.
-/

/-! ## The fields that were read -/

variable {data : List UInt8}

/-- A string was read, into a variable with whatever content. -/
def TextTook (data : List UInt8) (offset : Nat) (text : List UInt8) (finish : Nat) : Prop :=
  Exists fun held => Took (rtmpAmf0ReadString held) data offset text finish

/-- An object was read, into one with whatever properties. -/
def ObjectTook (data : List UInt8) (offset : Nat) (properties : UnSortedHashtable RtmpAmf0Any) (finish : Nat) : Prop :=
  Exists fun held => Took (RtmpAmf0Object.read rtmpAmf0ReadAny held) data offset properties finish

/-- The name and the number in front of a command. -/
def NumberedTook (data : List UInt8) (name : List UInt8) (number : UInt64) (finish : Nat) : Prop :=
  Exists fun behindName => TextTook data 0 name behindName ∧ Took rtmpAmf0ReadNumber data behindName number finish

/-- The name, the number and the null that most commands begin with. -/
def HeadTook (data : List UInt8) (name : List UInt8) (number : UInt64) (finish : Nat) : Prop :=
  Exists fun behindNumber => NumberedTook data name number behindNumber ∧
    Took rtmpAmf0ReadNull data behindNumber () finish

/-- An optional value was read, or there was no byte left for it. -/
def OptionalTook {α : Type} (read : Reader UInt8 α) (data : List UInt8) (offset finish : Nat) : Prop :=
  offset = data.length ∧ finish = offset ∨ Exists fun value => Took read data offset value finish

namespace RtmpPacket

/-- The packet was filled from this body: its decoder has read every field that
its format requires, in the order in which they stand.  What stands behind the
checks `offset < len` of the source is not required.  The decoder of user control
messages reads none of its fields, and the classes that no decoder fills are
never filled. -/
def ReadsAll (data : List UInt8) : RtmpPacket -> Prop
  | audio packet => Outcome.read data 0 = .ok packet.flag ∧ packet.data = data.drop 1
  | avc packet => Configuration data packet.sps packet.pps
  | video packet => data ≠ [] ∧ Units (data.drop 5) packet.naluItem
  | connect packet => Exists fun offset => Exists fun finish =>
      NumberedTook data packet.commandName packet.number offset ∧ doubleEq packet.number (Double.ofNat 1) = true ∧
      ObjectTook data offset packet.commandObject finish
  | connectResponse packet => Exists fun offset => Exists fun behind => Exists fun finish =>
      NumberedTook data packet.commandName packet.number offset ∧ OptionalTook rtmpAmf0ReadAny data offset behind ∧
      ObjectTook data behind packet.info finish
  | setWindowAckSize packet => readInt32 data 0 = .ok packet.windowAckSize
  | acknowledgement packet => readUint32 data 0 = .ok packet.sequenceNumber
  | setChunkSize packet => readInt32 data 0 = .ok packet.chunkSize
  | setPeerBandwidth packet => readInt32 data 0 = .ok packet.bandwidth ∧ Outcome.read data 4 = .ok packet.type
  | call packet => Exists fun offset => Exists fun object => Exists fun finish =>
      NumberedTook data packet.commandName packet.number offset ∧
      Took RtmpCallPacket.readDiscovered data offset object finish ∧ packet.object = some object
  | createStream packet => Exists fun finish => HeadTook data packet.commandName packet.number finish
  | createStreamResponse packet => Exists fun offset => Exists fun finish =>
      HeadTook data packet.commandName packet.number offset ∧ Took rtmpAmf0ReadNumber data offset packet.streamid finish
  | closeStream packet => Exists fun finish => HeadTook data packet.commandName packet.number finish
  | fmleStart packet => Exists fun offset => Exists fun finish =>
      HeadTook data packet.commandName packet.number offset ∧ TextTook data offset packet.streamName finish
  | fmleStartResponse packet => Exists fun offset => Exists fun finish =>
      HeadTook data packet.commandName packet.number offset ∧ Took rtmpAmf0ReadUndefined data offset () finish
  | publish packet => Exists fun offset => Exists fun finish =>
      HeadTook data packet.commandName packet.number offset ∧ TextTook data offset packet.streamName finish
  | pause packet => Exists fun offset => Exists fun behind => Exists fun finish =>
      HeadTook data packet.commandName packet.number offset ∧ Took rtmpAmf0ReadBoolean data offset packet.pause behind ∧
      Took rtmpAmf0ReadNumber data behind packet.time finish
  | play packet => Exists fun offset => Exists fun finish =>
      HeadTook data packet.commandName packet.number offset ∧ TextTook data offset packet.streamName finish
  | onMetaData packet => Exists fun finish => TextTook data 0 packet.commandName finish ∨
      Exists fun offset => TextTook data 0 (ascii "@setDataFrame") offset ∧
        TextTook data offset packet.commandName finish
  | _ => False

end RtmpPacket

/-! ## The head of a command -/

theorem textTook_returns (held : List UInt8) (offset : Nat) :
    (rtmpAmf0ReadString held (data.drop offset)).Returns fun found => TextTook data offset found.2 (offset + found.1) :=
  (Took.returns (readString_consumes held (data.drop offset))).mono fun _ took => ⟨held, took⟩

theorem TextTook.inside {offset finish : Nat} {text : List UInt8} (took : TextTook data offset text finish) :
    finish ≤ data.length := by
  rcases took with ⟨held, took⟩
  exact took.inside

theorem HeadTook.inside {name : List UInt8} {number : UInt64} {finish : Nat}
    (took : HeadTook data name number finish) : finish ≤ data.length := by
  rcases took with ⟨_, _, took⟩
  exact took.inside

theorem readHead_returns (held : List UInt8) (accepts : List UInt8 -> Bool) (data : List UInt8) :
    (readHead held accepts data).Returns fun found => HeadTook data found.2.1 found.2.2 found.1 := by
  rw [readHead]
  refine (@textTook_returns data held 0).bind fun named text => ?_
  refine .ite (fun _ => ?_) fun _ => (by decide : (-2 : Int) < 0)
  rw [Nat.zero_add] at text
  refine (Took.returns (readNumber_consumes (data.drop named.1))).bind fun numbered number => ?_
  refine (Took.returns (readMarkerOnly_consumes rtmpAmf0Null (data.drop (named.1 + numbered.1)))).bind fun nulled null => ?_
  exact ⟨_, ⟨_, text, number⟩, null⟩

/-! ## The decoders, class by class -/

/-- The decoder returns, and when it succeeds it has filled its packet without
passing the end of the body. -/
def Fills {α : Type} (wrap : α -> RtmpPacket) (decode : Reader UInt8 α) (data : List UInt8) : Prop :=
  (decode data).Returns fun found => found.1 ≤ data.length ∧ (wrap found.2).ReadsAll data

theorem fills_createStream (packet : RtmpCreateStreamPacket) : Fills .createStream packet.decode data := by
  refine (readHead_returns _ _ data).bind fun found head => ?_
  exact ⟨head.inside, _, head⟩

theorem fills_closeStream (packet : RtmpCloseStreamPacket) : Fills .closeStream packet.decode data := by
  refine (readHead_returns _ _ data).bind fun found head => ?_
  exact ⟨head.inside, _, head⟩

theorem fills_createStreamResponse (packet : RtmpCreateStreamResponsePacket) :
    Fills .createStreamResponse packet.decode data := by
  refine (readHead_returns _ _ data).bind fun found head => ?_
  refine (Took.returns (readNumber_consumes (data.drop found.1))).bind fun streamid number => ?_
  exact ⟨number.inside, _, _, head, number⟩

theorem fills_fmleStart (packet : RtmpFmleStartPacket) : Fills .fmleStart packet.decode data := by
  refine (readHead_returns _ _ data).bind fun found head => ?_
  refine (textTook_returns packet.streamName found.1).bind fun stream text => ?_
  exact ⟨text.inside, _, _, head, text⟩

theorem fills_fmleStartResponse (packet : RtmpFmleStartResponsePacket) :
    Fills .fmleStartResponse packet.decode data := by
  refine (readHead_returns _ _ data).bind fun found head => ?_
  refine (Took.returns (readMarkerOnly_consumes rtmpAmf0Undefined (data.drop found.1))).bind fun marker undefined => ?_
  exact ⟨undefined.inside, _, _, head, undefined⟩

theorem fills_publish (packet : RtmpPublishPacket) : Fills .publish packet.decode data := by
  refine (readHead_returns _ _ data).bind fun found head => ?_
  refine (textTook_returns packet.streamName found.1).bind fun stream text => ?_
  refine .ite (fun _ => ?_) fun _ => ⟨text.inside, _, _, head, text⟩
  refine (textTook_returns packet.type (found.1 + stream.1)).bind fun type last => ?_
  exact ⟨last.inside, _, _, head, text⟩

theorem fills_pause (packet : RtmpPausePacket) : Fills .pause packet.decode data := by
  refine (readHead_returns _ _ data).bind fun found head => ?_
  refine (Took.returns (readBoolean_consumes (data.drop found.1))).bind fun pause boolean => ?_
  refine (Took.returns (readNumber_consumes (data.drop (found.1 + pause.1)))).bind fun time number => ?_
  exact ⟨number.inside, _, _, _, head, boolean, number⟩

/-- An optional number of play does not pass the end. -/
theorem readOptionalNumber_returns (held : UInt64) {offset : Nat} (inside : offset ≤ data.length) :
    (RtmpPlayPacket.readOptionalNumber held (data.drop offset)).Returns fun found => offset + found.1 ≤ data.length := by
  refine .ite (fun _ => ?_) fun _ => inside
  exact (Took.returns (readNumber_consumes (data.drop offset))).mono fun _ took => took.inside

/-- A value of any type is taken, or refused, if its reader comes to an end. -/
theorem readAny_yields (data : List UInt8) (offset : Nat) : (rtmpAmf0ReadAny (data.drop offset)).Yields fun found =>
    Took rtmpAmf0ReadAny data offset found.2 (offset + found.1) :=
  Took.yields fun ended => rtmpAmf0ReadAny_consumes (mt (rtmpAmf0ReadAny_fault_iff _).mpr ended)

theorem readReset_yields (held : Bool) {offset : Nat} (inside : offset ≤ data.length) :
    (RtmpPlayPacket.readReset held (data.drop offset)).Yields fun found => offset + found.1 ≤ data.length := by
  refine .ite (fun _ => ?_) fun _ => Outcome.yields_ok inside
  refine (readAny_yields data offset).bind fun found took => ?_
  rcases found with ⟨ret, value⟩
  cases value with
  | boolean flag => exact Outcome.yields_ok took.inside
  | number bits => exact Outcome.yields_ok took.inside
  | _ => exact Outcome.yields_error (by decide)

/-- A decoder that fills its packet if it comes to an end, and the bodies on which
it does not. -/
theorem fills_iff {α : Type} {wrap : α -> RtmpPacket} {decode : Reader UInt8 α} {endless : Prop}
    (fills : (decode data).Yields fun found => found.1 ≤ data.length ∧ (wrap found.2).ReadsAll data)
    (faults : decode data = .fault ↔ endless) : Fills wrap decode data ↔ ¬ endless := by
  rw [Fills, Outcome.returns_iff, and_iff_left fills]
  exact not_congr faults

theorem fills_play_iff (packet : RtmpPlayPacket) :
    Fills .play packet.decode data ↔ ¬ packet.DeletesTwice data := by
  refine fills_iff ?_ (packet.decode_fault_iff data)
  refine (readHead_returns _ _ data).yields.bind fun found head => ?_
  refine (textTook_returns packet.streamName found.1).yields.bind fun stream text => ?_
  refine (readOptionalNumber_returns packet.start text.inside).yields.bind fun start within => ?_
  refine (readOptionalNumber_returns packet.duration within).yields.bind fun duration within' => ?_
  refine (readReset_yields packet.reset within').bind fun reset within'' => ?_
  exact Outcome.yields_ok ⟨within'', _, _, head, text⟩

theorem fills_call_iff (packet : RtmpCallPacket) :
    Fills .call packet.decode data ↔ ¬ packet.DeletesTwice data := by
  refine fills_iff ?_ (packet.decode_fault_iff data)
  refine (@textTook_returns data packet.commandName 0).yields.bind fun named text => ?_
  rw [Nat.zero_add] at text
  refine .ite (fun _ => Outcome.yields_error (by decide)) fun _ => ?_
  refine ((Took.returns (readNumber_consumes (data.drop named.1))).errorAs (by decide)).yields.bind
    fun numbered number => ?_
  refine (Took.yields readDiscovered_consumes).bind fun read object => ?_
  refine .ite (fun _ => ?_) fun _ =>
    Outcome.yields_ok ⟨object.inside, _, _, _, ⟨_, text, number⟩, object, rfl⟩
  refine (Took.yields readDiscovered_consumes).bind fun args last => ?_
  exact Outcome.yields_ok ⟨last.inside, _, _, _, ⟨_, text, number⟩, object, rfl⟩

/-- The name of the metadata, alone or behind the marker of a data frame. -/
theorem readName_returns (held : List UInt8) (data : List UInt8) :
    (RtmpOnMetaDataPacket.readName held data).Returns fun found => TextTook data 0 found.2 found.1 ∨
      Exists fun offset => TextTook data 0 (ascii "@setDataFrame") offset ∧ TextTook data offset found.2 found.1 := by
  refine (@textTook_returns data held 0).bind fun named text => ?_
  rw [Nat.zero_add] at text
  refine .ite (fun frame => ?_) fun _ => Or.inl text
  refine (textTook_returns named.2 named.1).bind fun name last => ?_
  exact Or.inr ⟨_, frame ▸ text, last⟩

theorem fills_onMetaData_iff (packet : RtmpOnMetaDataPacket) :
    Fills .onMetaData packet.decode data ↔ ¬ packet.DeletesTwice data := by
  refine fills_iff ?_ (packet.decode_fault_iff data)
  refine (readName_returns packet.commandName data).yields.bind fun named name => ?_
  have inside : named.1 ≤ data.length := by
    rcases name with took | ⟨_, _, took⟩
    · exact took.inside
    · exact took.inside
  refine .ite (fun _ => ?_) fun _ => Outcome.yields_ok ⟨inside, _, name⟩
  refine (readAny_yields data named.1).bind fun found took => ?_
  rcases found with ⟨ret, value⟩
  cases value with
  | _ => exact Outcome.yields_ok ⟨took.inside, _, name⟩

/-! ## Control messages -/

/-- A field of four bytes behind the check of the length. -/
theorem four_inside {length : Nat} (enough : ¬ (length : Int) < 4) : 0 + 4 ≤ length := by omega

theorem fills_setWindowAckSize (packet : RtmpSetWindowAckSizePacket) :
    Fills .setWindowAckSize (fun data => packet.decode data data.length) data := by
  refine .ite (fun _ => (by decide : (-1 : Int) < 0)) fun enough => ?_
  have inside := four_inside enough
  exact (readInt32_returns inside).found.bind fun value found => ⟨inside, found.2⟩

theorem fills_setChunkSize (packet : RtmpSetChunkSizePacket) :
    Fills .setChunkSize (fun data => packet.decode data data.length) data := by
  refine .ite (fun _ => (by decide : (-1 : Int) < 0)) fun enough => ?_
  have inside := four_inside enough
  exact (readInt32_returns inside).found.bind fun value found => ⟨inside, found.2⟩

theorem fills_acknowledgement (packet : RtmpAcknowledgementPacket) : Fills .acknowledgement packet.decode data := by
  refine .ite (fun _ => (by decide : (-1 : Int) < 0)) fun enough => ?_
  have inside : 0 + 4 ≤ data.length := by omega
  exact (readUint32_returns inside).found.bind fun value found => ⟨inside, found.2⟩

theorem fills_setPeerBandwidth (packet : RtmpSetPeerBandwidthPacket) : Fills .setPeerBandwidth packet.decode data := by
  refine .ite (fun _ => (by decide : (-1 : Int) < 0)) fun enough => ?_
  have inside : 5 ≤ data.length := by omega
  have word : 0 + 4 ≤ data.length := by omega
  refine (readInt32_returns word).found.bind fun bandwidth found => ?_
  exact (Outcome.read_returns (show 4 < data.length from inside)).found.bind fun type found' => ⟨inside, found.2, found'.2⟩

/-! ## The answer to connect -/

/-- The body of an answer to connect ends right where its information would
begin: behind the number, or behind the value that may follow it. -/
def EndsBeforeInfo (held : List UInt8) (data : List UInt8) : Prop :=
  Exists fun name => Exists fun bits => Exists fun rest =>
    StringBytes held (ascii "_result") name ∧ data = name ++ ((RtmpAmf0Any.number bits).encoding ++ rest) ∧
    (rest = [] ∨ Begins .value rest rest.length)

/-- Behind the name and the number of an answer to connect. -/
def readAnswer (packet : RtmpConnectResponsePacket) (commandName : List UInt8) (number : UInt64) (offset : Nat)
    (data : List UInt8) : Outcome (Nat × RtmpConnectResponsePacket) := do
  let (ret₂, object) ← RtmpConnectResponsePacket.readObjectPart packet.object (data.drop offset)
  let (ret₃, info) ← RtmpAmf0Object.read rtmpAmf0ReadAny packet.info (data.drop (offset + ret₂))
  return (offset + ret₂ + ret₃, { commandName, number, object, info })

/-- The optional value in front of the information. -/
theorem readObjectPart_yields (held : UnSortedHashtable RtmpAmf0Any) {offset : Nat} (inside : offset ≤ data.length) :
    (RtmpConnectResponsePacket.readObjectPart held (data.drop offset)).Yields fun found =>
      OptionalTook rtmpAmf0ReadAny data offset (offset + found.1) := by
  refine .ite (fun _ => ?_) fun none => ?_
  · refine ((readAny_yields data offset).errorAs (by decide)).bind fun found took => ?_
    rcases found with ⟨ret, value⟩
    cases value with
    | _ => exact Outcome.yields_ok (Or.inr ⟨_, took⟩)
  · rw [List.length_drop] at none
    exact Outcome.yields_ok (Or.inl ⟨by omega, rfl⟩)

/-- Where bytes are left for it, the information is read or refused. -/
theorem readInfo_yields (held : UnSortedHashtable RtmpAmf0Any) {offset : Nat} (inside : offset < data.length) :
    (RtmpAmf0Object.read rtmpAmf0ReadAny held (data.drop offset)).Yields fun found =>
      ObjectTook data offset found.2 (offset + found.1) := by
  have some : data.drop offset ≠ [] := by
    apply List.ne_nil_of_length_pos
    rw [List.length_drop]
    omega
  exact (Took.yields (readObject_consumes held some)).mono fun _ took => ⟨held, took⟩

/-- No byte is left, and the reader of objects answers 1. -/
theorem readObject_nil (readAny : Reader UInt8 RtmpAmf0Any) (held : UnSortedHashtable RtmpAmf0Any) :
    RtmpAmf0Object.read readAny held [] = .ok (1, held) := rfl

theorem decode_connectResponse_eq (packet : RtmpConnectResponsePacket) (data : List UInt8) :
    packet.decode data = (rtmpAmf0ReadString packet.commandName data).errorAs (-1) >>= fun named =>
      if named.2 = ascii "_result" then
        (rtmpAmf0ReadNumber (data.drop named.1)).errorAs (-1) >>= fun numbered =>
          readAnswer packet named.2 numbered.2 (named.1 + numbered.1) data
      else .error (-2) := rfl

/-- On a body that ends before the information more is claimed than there is. -/
theorem decode_endsBeforeInfo {packet : RtmpConnectResponsePacket} (ends : EndsBeforeInfo packet.commandName data) :
    Exists fun found => packet.decode data = .ok (data.length + 1, found) := by
  rcases ends with ⟨name, bits, rest, bytes, rfl, last⟩
  have text := read_of_stringBytes bytes ((RtmpAmf0Any.number bits).encoding ++ rest)
  have number := readNumber_recovers bits rest
  have part : Exists fun object =>
      RtmpConnectResponsePacket.readObjectPart packet.object rest = .ok (rest.length, object) := by
    rcases last with rfl | begins
    · exact ⟨packet.object, rfl⟩
    · exact RtmpConnectResponsePacket.readObjectPart_begins packet.object begins
  rcases part with ⟨object, part⟩
  have behind : (name ++ ((RtmpAmf0Any.number bits).encoding ++ rest)).drop
      (name.length + (RtmpAmf0Any.number bits).encoding.length) = rest := by
    rw [List.drop_length_add_append, List.drop_left]
  have ended : (name ++ ((RtmpAmf0Any.number bits).encoding ++ rest)).drop
      (name.length + (RtmpAmf0Any.number bits).encoding.length + rest.length) = [] := by
    rw [← List.drop_drop, behind, List.drop_length]
  have whole : (name ++ ((RtmpAmf0Any.number bits).encoding ++ rest)).length =
      name.length + (RtmpAmf0Any.number bits).encoding.length + rest.length := by
    rw [List.length_append, List.length_append, Nat.add_assoc]
  refine ⟨{ commandName := ascii "_result", number := bits, object, info := packet.info }, ?_⟩
  simp only [decode_connectResponse_eq, text, Outcome.errorAs_ok, Outcome.ok_bind_do, if_true, List.drop_left, number,
    readAnswer, behind, part, ended, readObject_nil, whole, Outcome.pure_eq]

/-- A decoder that has got to the end of the body without the information. -/
theorem endsBeforeInfo_of_reads {held : List UInt8} {first second : Nat} {bits : UInt64}
    (named : rtmpAmf0ReadString held data = .ok (first, ascii "_result"))
    (numbered : rtmpAmf0ReadNumber (data.drop first) = .ok (second, bits))
    (optional : OptionalTook rtmpAmf0ReadAny data (first + second) data.length) : EndsBeforeInfo held data := by
  rcases stringBytes_of_read named with ⟨name, bytes, _, split⟩
  rcases number_of_read numbered with ⟨rfl, split'⟩
  refine ⟨name, bits, data.drop (first + 9), bytes, ?_, ?_⟩
  · rw [← List.drop_drop, ← split', ← split]
  · rcases optional with ⟨ended, -⟩ | ⟨value, took⟩
    · exact Or.inl (List.drop_eq_nil_of_le (Nat.le_of_eq ended.symm))
    · refine Or.inr ((rtmpAmf0ReadAny_ok_iff _ _).mp ⟨value, ?_⟩)
      rw [took.found, List.length_drop]

theorem ObjectTook.forward {offset finish : Nat} {properties : UnSortedHashtable RtmpAmf0Any}
    (took : ObjectTook data offset properties finish) : offset < data.length := by
  rcases took with ⟨held, took⟩
  exact Nat.lt_of_lt_of_le took.forward took.inside

/-- If its decoder comes to an end, the answer to connect is decoded within its
body, with every required field read, unless the body ends where the information
would begin. -/
theorem decode_connectResponse_yields_iff (packet : RtmpConnectResponsePacket) (data : List UInt8) :
    ((packet.decode data).Yields fun found =>
      found.1 ≤ data.length ∧ (RtmpPacket.connectResponse found.2).ReadsAll data) ↔
        ¬ EndsBeforeInfo packet.commandName data := by
  constructor
  · intro fills ends
    rcases decode_endsBeforeInfo ends with ⟨found, decoded⟩
    have within := fills.of_ok decoded
    exact absurd within.1 (Nat.not_succ_le_self _)
  · intro complete
    rw [decode_connectResponse_eq]
    refine ((readString_consumes packet.commandName data).found.errorAs (by decide)).yields.bind fun named read => ?_
    refine .ite (fun result => ?_) fun _ => Outcome.yields_error (by decide)
    refine ((readNumber_consumes (data.drop named.1)).found.errorAs (by decide)).yields.bind fun numbered read' => ?_
    rcases named with ⟨first, name⟩
    rcases numbered with ⟨second, bits⟩
    have text : Took (rtmpAmf0ReadString packet.commandName) data 0 name (0 + first) :=
      .of_consumes (readString_consumes packet.commandName data) read.2
    have number : Took rtmpAmf0ReadNumber data first bits (first + second) :=
      .of_consumes (readNumber_consumes (data.drop first)) read'.2
    rw [Nat.zero_add] at text
    refine (readObjectPart_yields packet.object number.inside).bind fun object optional => ?_
    have left : first + second + object.1 < data.length := by
      have inside : first + second + object.1 ≤ data.length := by
        rcases optional with ⟨_, same⟩ | ⟨_, took⟩
        · rw [same]
          exact number.inside
        · exact took.inside
      refine Nat.lt_of_le_of_ne inside fun ended => complete ?_
      have named : rtmpAmf0ReadString packet.commandName data = .ok (first, ascii "_result") := result ▸ read.2
      exact endsBeforeInfo_of_reads named read'.2 (ended ▸ optional)
    refine (readInfo_yields packet.info left).bind fun info took => ?_
    rcases took with ⟨held, took⟩
    exact Outcome.yields_ok ⟨took.inside, _, _, _, ⟨_, ⟨_, text⟩, number⟩, optional, held, took⟩

theorem fills_connectResponse_iff (packet : RtmpConnectResponsePacket) (data : List UInt8) :
    Fills .connectResponse packet.decode data ↔
      ¬ packet.DeletesTwice data ∧ ¬ EndsBeforeInfo packet.commandName data := by
  rw [Fills, Outcome.returns_iff, decode_connectResponse_yields_iff]
  exact and_congr_left fun _ => not_congr (packet.decode_fault_iff data)

/-- The request to connect is decoded within its body, though not always as a
whole. -/
theorem decode_connect_returns_iff (packet : RtmpConnectPacket) (data : List UInt8) :
    ((packet.decode data).Returns fun found => found.1 ≤ data.length) ↔ ¬ packet.DeletesTwice data := by
  rw [Outcome.returns_iff]
  refine (and_iff_left ?_).trans (not_congr (packet.decode_fault_iff data))
  refine (@textTook_returns data packet.commandName 0).yields.bind fun named text => ?_
  rw [Nat.zero_add] at text
  refine .ite (fun _ => ?_) fun _ => Outcome.yields_ok text.inside
  refine (Took.returns (readNumber_consumes (data.drop named.1))).yields.bind fun numbered number => ?_
  refine .ite (fun _ => ?_) fun _ => ?_
  · by_cases left : named.1 + numbered.1 < data.length
    · exact (readInfo_yields packet.commandObject left).bind fun object _ => Outcome.yields_ok (Nat.zero_le _)
    · rw [List.drop_eq_nil_of_le (Nat.not_lt.mp left), readObject_nil]
      exact Outcome.yields_ok (Nat.zero_le _)
  · exact Outcome.yields_ok (Nat.le_trans (Nat.le_add_left numbered.1 named.1) number.inside)

namespace RtmpPacket

/-- The virtual `decode` of an instance, on `data` with its length.  The classes
that only the client sends have one that is `return 0`. -/
def decode (packet : RtmpPacket) : Reader UInt8 RtmpPacket := fun data =>
  match packet with
  | audio packet => packet.decode data >>= fun found => .ok (0, .audio found)
  | avc packet => packet.decode data >>= fun found => .ok (0, .avc found)
  | video packet => packet.decode data >>= fun found => .ok (0, .video found)
  | connect packet => packet.decode data >>= fun found => .ok (found.1, .connect found.2)
  | connectResponse packet => packet.decode data >>= fun found => .ok (found.1, .connectResponse found.2)
  | setWindowAckSize packet => packet.decode data data.length >>= fun found => .ok (found.1, .setWindowAckSize found.2)
  | acknowledgement packet => packet.decode data >>= fun found => .ok (found.1, .acknowledgement found.2)
  | setChunkSize packet => packet.decode data data.length >>= fun found => .ok (found.1, .setChunkSize found.2)
  | setPeerBandwidth packet => packet.decode data >>= fun found => .ok (found.1, .setPeerBandwidth found.2)
  | userControl packet => packet.decode data data.length >>= fun found => .ok (found.1, .userControl found.2)
  | call packet => packet.decode data >>= fun found => .ok (found.1, .call found.2)
  | createStream packet => packet.decode data >>= fun found => .ok (found.1, .createStream found.2)
  | createStreamResponse packet => packet.decode data >>= fun found => .ok (found.1, .createStreamResponse found.2)
  | closeStream packet => packet.decode data >>= fun found => .ok (found.1, .closeStream found.2)
  | fmleStart packet => packet.decode data >>= fun found => .ok (found.1, .fmleStart found.2)
  | fmleStartResponse packet => packet.decode data >>= fun found => .ok (found.1, .fmleStartResponse found.2)
  | publish packet => packet.decode data >>= fun found => .ok (found.1, .publish found.2)
  | pause packet => packet.decode data >>= fun found => .ok (found.1, .pause found.2)
  | play packet => packet.decode data >>= fun found => .ok (found.1, .play found.2)
  | onMetaData packet => packet.decode data >>= fun found => .ok (found.1, .onMetaData found.2)
  | packet => .ok (0, packet)

/-- The decoder reads inside the body, returns a negative value or no more than
the length, and succeeds on an answer only with every required value in it. -/
def DecodesWithin (packet : RtmpPacket) (data : List UInt8) : Prop :=
  (packet.decode data).Returns fun found => found.1 ≤ data.length ∧ (packet.IsAnswer -> found.2.ReadsAll data)

/-- The bodies that the decoder of this class does not leave. -/
def StaysInside (data : List UInt8) : RtmpPacket -> Prop
  | audio _ => data ≠ []
  | avc _ => 11 ≤ data.length -> Exists fun sps => Exists fun pps => Configuration data sps pps
  | video _ => data ≠ [] ∧ Exists fun nalus => Units (data.drop 5) nalus
  | connect packet => ¬ packet.DeletesTwice data
  | connectResponse packet => ¬ packet.DeletesTwice data ∧ ¬ EndsBeforeInfo packet.commandName data
  | call packet => ¬ packet.DeletesTwice data
  | play packet => ¬ packet.DeletesTwice data
  | onMetaData packet => ¬ packet.DeletesTwice data
  | _ => True

/-- What the virtual function makes of the count and the packet decides nothing. -/
theorem decodesWithin_of_returns {α : Type} {wrap : α -> RtmpPacket} {decode : Reader UInt8 α} {packet : RtmpPacket}
    (virtual : packet.decode data = decode data >>= fun found => .ok (found.1, wrap found.2)) :
    packet.DecodesWithin data ↔ (decode data).Returns fun found =>
      found.1 ≤ data.length ∧ (packet.IsAnswer -> (wrap found.2).ReadsAll data) := by
  rw [DecodesWithin, virtual]
  cases decode data with
  | _ => exact Iff.rfl

theorem decodesWithin_of_fills {α : Type} {wrap : α -> RtmpPacket} {decode : Reader UInt8 α} {packet : RtmpPacket}
    (virtual : packet.decode data = decode data >>= fun found => .ok (found.1, wrap found.2))
    (fills : Fills wrap decode data) : packet.DecodesWithin data :=
  (decodesWithin_of_returns virtual).mpr (fills.mono fun _ bounds => ⟨bounds.1, fun _ => bounds.2⟩)

/-- A decoder that fills its packet on all bodies but those on which it does not
come to an end. -/
theorem decodesWithin_iff_endless {α : Type} {wrap : α -> RtmpPacket} {decode : Reader UInt8 α} {packet : RtmpPacket}
    {endless : Prop} (virtual : packet.decode data = decode data >>= fun found => .ok (found.1, wrap found.2))
    (fills : Fills wrap decode data ↔ ¬ endless) (faults : decode data = .fault ↔ endless) :
    packet.DecodesWithin data ↔ ¬ endless := by
  constructor
  · intro within
    exact mt faults.mpr ((decodesWithin_of_returns virtual).mp within).ne_fault
  · intro ends
    exact decodesWithin_of_fills virtual (fills.mpr ends)

/-- A decoder of media, which returns 0 or -1. -/
theorem decodesWithin_media {α : Type} {packet : RtmpPacket} {wrap : α -> RtmpPacket} {call : Outcome α}
    (virtual : packet.decode data = call >>= fun found => .ok (0, wrap found)) (noAnswer : ¬ packet.IsAnswer)
    (negative : forall code, call = .error code -> code < 0) : packet.DecodesWithin data ↔ call ≠ .fault := by
  rw [DecodesWithin, virtual]
  cases call with
  | ok found =>
      refine iff_of_true ⟨Nat.zero_le _, fun answer => absurd answer noAnswer⟩ fun faulted => ?_
      cases faulted
  | error code =>
      refine iff_of_true (negative code rfl) fun faulted => ?_
      cases faulted
  | fault => exact iff_of_false id fun returned => absurd rfl returned

theorem decodesWithin_trivial {packet : RtmpPacket} (virtual : packet.decode data = .ok (0, packet))
    (noAnswer : ¬ packet.IsAnswer) : packet.DecodesWithin data := by
  rw [DecodesWithin, virtual]
  exact ⟨Nat.zero_le _, fun answer => absurd answer noAnswer⟩

/-- The bodies on which the decoder of a class stays within what it was given. -/
theorem decodesWithin_iff (packet : RtmpPacket) (data : List UInt8) :
    packet.DecodesWithin data ↔ packet.StaysInside data := by
  cases packet with
  | audio packet =>
      rw [decodesWithin_media rfl id fun code failed => absurd failed (packet.decode_unchecked data code)]
      exact packet.decode_ne_fault_iff data
  | avc packet =>
      rw [decodesWithin_media rfl id fun code failed => packet.decode_error failed]
      exact packet.decode_ne_fault_iff data
  | video packet =>
      rw [decodesWithin_media rfl id fun code failed => absurd failed (packet.decode_unchecked data code)]
      exact packet.decode_ne_fault_iff data
  | connect packet =>
      rw [decodesWithin_of_returns rfl, StaysInside, ← decode_connect_returns_iff]
      exact ⟨fun within => within.mono fun _ bounds => bounds.1,
        fun within => within.mono fun _ bounds => ⟨bounds, fun answer => False.elim answer⟩⟩
  | connectResponse packet =>
      rw [decodesWithin_of_returns rfl, StaysInside, ← fills_connectResponse_iff]
      exact ⟨fun within => within.mono fun _ bounds => ⟨bounds.1, bounds.2 trivial⟩,
        fun fills => fills.mono fun _ bounds => ⟨bounds.1, fun _ => bounds.2⟩⟩
  | setWindowAckSize packet => exact iff_of_true (decodesWithin_of_fills rfl (fills_setWindowAckSize packet)) trivial
  | acknowledgement packet => exact iff_of_true (decodesWithin_of_fills rfl (fills_acknowledgement packet)) trivial
  | setChunkSize packet => exact iff_of_true (decodesWithin_of_fills rfl (fills_setChunkSize packet)) trivial
  | setPeerBandwidth packet => exact iff_of_true (decodesWithin_of_fills rfl (fills_setPeerBandwidth packet)) trivial
  | call packet => exact decodesWithin_iff_endless rfl (fills_call_iff packet) (packet.decode_fault_iff data)
  | createStream packet => exact iff_of_true (decodesWithin_of_fills rfl (fills_createStream packet)) trivial
  | createStreamResponse packet =>
      exact iff_of_true (decodesWithin_of_fills rfl (fills_createStreamResponse packet)) trivial
  | closeStream packet => exact iff_of_true (decodesWithin_of_fills rfl (fills_closeStream packet)) trivial
  | fmleStart packet => exact iff_of_true (decodesWithin_of_fills rfl (fills_fmleStart packet)) trivial
  | fmleStartResponse packet => exact iff_of_true (decodesWithin_of_fills rfl (fills_fmleStartResponse packet)) trivial
  | publish packet => exact iff_of_true (decodesWithin_of_fills rfl (fills_publish packet)) trivial
  | pause packet => exact iff_of_true (decodesWithin_of_fills rfl (fills_pause packet)) trivial
  | play packet => exact decodesWithin_iff_endless rfl (fills_play_iff packet) (packet.decode_fault_iff data)
  | onMetaData packet =>
      exact decodesWithin_iff_endless rfl (fills_onMetaData_iff packet) (packet.decode_fault_iff data)
  | _ => exact iff_of_true (decodesWithin_trivial rfl id) trivial

/-- The answer to a connect request that ends behind its number: 20 is returned
for 19 bytes. -/
theorem connectResponse_beyond :
    ¬ (connectResponse .new).DecodesWithin
      ((RtmpAmf0Any.string (ascii "_result")).encoding ++ (RtmpAmf0Any.number (Double.ofNat 1)).encoding) := by
  intro within
  have fills := (decodesWithin_of_returns rfl).mp within
  refine ((fills_connectResponse_iff .new _).mp (fills.mono fun _ bounds => ⟨bounds.1, bounds.2 trivial⟩)).2
    ⟨_, Double.ofNat 1, [], .filled (by decide) (by decide), ?_, Or.inl rfl⟩
  rw [List.append_nil]

end RtmpPacket

end Rtmp
end RtmpClient
