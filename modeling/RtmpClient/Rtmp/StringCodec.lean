import RtmpClient.Rtmp.CommandRoundTrip

namespace RtmpClient
namespace Rtmp

open Library Amf0
open Net

/-!
# Strings of every length

The length of a string is an unsigned 16-bit number on the wire and a signed
one in both functions of the codec.  From 32768 bytes on the writer takes it
for a string without bytes; and the reader, who finds no positive length, does
not assign the variable it was given.  The second shows in a publish packet,
whose fields have contents before they are decoded.
-/

/-- From 32768 on the cast gives a negative length. -/
theorem toInt_length_neg {value : List UInt8} (range : value.length ≤ 65535) (long : ¬ value.length ≤ 32767) :
    (Int16.ofNat value.length).toInt < 0 := by
  have cast : (Int16.ofNat value.length).toInt = (value.length : Int).bmod (2 ^ 16) := Int16.toInt_ofNat'
  rw [cast, Int.bmod_def]
  split <;> omega

/-- Of a string that is too long only the length is written. -/
theorem writeString_long {value : List UInt8} (range : value.length ≤ 65535) (long : ¬ value.length ≤ 32767)
    {room : Nat} (enough : 3 ≤ room) :
    rtmpAmf0WriteString value room = .ok (writeInt8 rtmpAmf0String ++ writeInt16 (Int16.ofNat value.length)) := by
  have negative := toInt_length_neg range long
  have some : ¬ room < 1 := by omega
  have roomy : ¬ ((room - 1 : Nat) : Int) < 2 + (Int16.ofNat value.length).toInt := by omega
  have none : (Int16.ofNat value.length).toInt ≤ 0 := Int.le_of_lt negative
  rw [rtmpAmf0WriteString, if_neg some, store_int8 _ (by omega), Outcome.ok_bind_do, rtmpAmf0WriteUtf8]
  simp only [if_neg roomy, store_int16 _ (by omega : 2 ≤ room - 1), Outcome.ok_bind_do, if_pos none, Outcome.pure_eq]

/-- What the codec makes of a string, in every buffer with room for it. -/
def StringSurvives (value held : List UInt8) : Prop :=
  forall room trailing, 3 + value.length ≤ room -> Exists fun bytes =>
    rtmpAmf0WriteString value room = .ok bytes ∧ bytes.length = 3 + value.length ∧
      rtmpAmf0ReadString held (bytes ++ trailing) = .ok (3 + value.length, value)

theorem stringSurvives_iff {value held : List UInt8} (range : value.length ≤ 65535) :
    StringSurvives value held ↔ value.length ≤ 32767 ∧ (value = [] -> held = []) := by
  have size : (RtmpAmf0Any.string value).encoding.length = 3 + value.length := by
    rw [RtmpAmf0Any.encoding_length, RtmpAmf0Any.byteSize, RtmpAmf0Size.str, RtmpAmf0Size.utf8, ← Nat.add_assoc]
  constructor
  · intro survives
    rcases survives (3 + value.length) [] (Nat.le_refl _) with ⟨bytes, written, whole, read⟩
    have fits : value.length ≤ 32767 := by
      apply Classical.byContradiction
      intro long
      rw [writeString_long range long (Nat.le_add_right 3 _)] at written
      rw [← Outcome.ok.inj written, List.length_append, writeInt8_length, writeInt16_length] at whole
      omega
    refine ⟨fits, fun empty => ?_⟩
    have emitted := writeString_emits fits (3 + value.length) (Nat.le_of_eq size)
    have same : bytes = (RtmpAmf0Any.string value).encoding := Outcome.ok.inj (written.symm.trans emitted)
    rw [same, readString_held_recovers held fits, if_pos empty] at read
    exact (Outcome.value_eq read).trans empty
  · rintro ⟨fits, fresh⟩ room trailing enough
    refine ⟨(RtmpAmf0Any.string value).encoding, writeString_emits fits room (by omega), size, ?_⟩
    rw [readString_held_recovers held fits trailing, size]
    by_cases empty : value = []
    · rw [if_pos empty, fresh empty, empty]
    · rw [if_neg empty]

theorem ite_nil_eq_self {value held : List UInt8} :
    (if value = [] then held else value) = value ↔ (value = [] -> held = []) := by
  by_cases empty : value = []
  · rw [if_pos empty, empty]
    exact ⟨fun same _ => same, fun fresh => fresh rfl⟩
  · rw [if_neg empty]
    exact ⟨fun _ none => absurd none empty, fun _ => rfl⟩

theorem publish_emits {packet : RtmpPublishPacket} (name : packet.commandName = ascii "publish")
    (stream : packet.streamName.length ≤ 32767) (type : packet.type.length ≤ 32767) :
    Emits packet.encodePkg (commandBody (.publish packet)) := by
  have fits : packet.commandName.length ≤ 32767 := by
    rw [name]
    decide
  exact Emits.cons (writeString_emits fits) (.cons (writeNumber_emits packet.number)
    (.cons (writeMarkerOnly_emits rtmpAmf0Null) (.cons (writeString_emits stream) (.cons (writeString_emits type) .nil))))

/-- A string of at most 65535 bytes survives the codec exactly if it has at most
32767 and is not read, empty, into a variable that has contents.  A publish
packet is decoded as it was encoded exactly if none of its two strings is read
in this way. -/
theorem stringCodec_iff {value held : List UInt8} (range : value.length ≤ 65535) :
    (StringSurvives value held ↔ value.length ≤ 32767 ∧ (value = [] -> held = [])) ∧
      forall earlier packet : RtmpPublishPacket, packet.commandName = ascii "publish" ->
        packet.streamName.length ≤ 32767 -> packet.type.length ≤ 32767 ->
        ((Exists fun bytes => packet.encodePkg packet.getPkgLen = .ok bytes ∧ Exists fun decoded =>
          earlier.decode bytes = .ok (packet.getPkgLen, decoded) ∧
            decoded.streamName = packet.streamName ∧ decoded.type = packet.type) ↔
          (packet.streamName = [] -> earlier.streamName = []) ∧ (packet.type = [] -> earlier.type = [])) := by
  refine ⟨stringSurvives_iff range, ?_⟩
  intro earlier packet name stream type
  have size : (commandBody (.publish packet)).length = packet.getPkgLen := by
    simp only [commandBody, RtmpPacket.values, List.flatMap_cons, List.flatMap_nil, List.length_append,
      List.length_nil, RtmpAmf0Any.encoding_length, RtmpAmf0Any.byteSize, RtmpPublishPacket.getPkgLen]
    omega
  have written := publish_emits name stream type packet.getPkgLen (Nat.le_of_eq size)
  have decoded := decode_publish_held earlier name stream type
  rw [size] at decoded
  constructor
  · rintro ⟨bytes, encoded, found, read, streamSame, typeSame⟩
    rw [Outcome.ok.inj (encoded.symm.trans written), decoded] at read
    have whole := Outcome.value_eq read
    rw [← whole] at streamSame typeSame
    exact ⟨ite_nil_eq_self.mp streamSame, ite_nil_eq_self.mp typeSame⟩
  · rintro ⟨streamFresh, typeFresh⟩
    exact ⟨_, written, _, decoded, ite_nil_eq_self.mpr streamFresh, ite_nil_eq_self.mpr typeFresh⟩

/-- The usual publish type, and a publish packet that names its stream. -/
theorem stringCodec_iff_live : StringSurvives (ascii "live") [] ∧
    Exists fun bytes => RtmpPublishPacket.new.encodePkg RtmpPublishPacket.new.getPkgLen = .ok bytes ∧
      Exists fun decoded => RtmpPublishPacket.new.decode bytes = .ok (RtmpPublishPacket.new.getPkgLen, decoded) ∧
        decoded.streamName = [] ∧ decoded.type = ascii "live" := by
  have live := @stringCodec_iff (ascii "live") [] (by decide)
  refine ⟨live.1.mpr (by decide), ?_⟩
  exact (live.2 RtmpPublishPacket.new RtmpPublishPacket.new rfl (by decide) (by decide)).mpr (by decide)

/-- The empty string leaves `live` in the variable. -/
theorem stringCodec_keeps_live :
    ¬ forall value held : List UInt8, value.length ≤ 65535 -> StringSurvives value held := by
  intro claimed
  rcases claimed [] (ascii "live") (by decide) 3 [] (by decide) with ⟨bytes, written, -, read⟩
  rw [← Outcome.ok.inj written] at read
  have kept : ascii "live" = [] := Outcome.value_eq read
  exact absurd kept (by decide)

end Rtmp
end RtmpClient
