import RtmpClient.Amf0.Legible
import RtmpClient.Amf0.Release

namespace RtmpClient
namespace Amf0

open Library
open Net

/-!
# The fields of a body, byte by byte

What stands in the buffer where a reader has taken a value off it.  A string is
read into a variable, which keeps its content when the length is not positive.
-/

/-- The bytes of a string that leaves this text in a variable that held `held`. -/
inductive StringBytes (held : List UInt8) : (text cells : List UInt8) -> Prop where
  | filled {text : List UInt8} (some : text ≠ []) (fits : text.length ≤ 32767) :
      StringBytes held text (RtmpAmf0Any.string text).encoding
  | kept {length : Int16} (none : length.toInt ≤ 0) :
      StringBytes held held (writeInt8 rtmpAmf0String ++ writeInt16 length)

/-- Where the string reader has been, the bytes of a string stand. -/
theorem stringBytes_of_read {held text data : List UInt8} {width : Nat}
    (read : rtmpAmf0ReadString held data = .ok (width, text)) :
    Exists fun cells => StringBytes held text cells ∧ cells.length = width ∧ data = cells ++ data.drop width := by
  rw [rtmpAmf0ReadString] at read
  split at read
  · cases read
  · rcases Outcome.bind_eq_ok read with ⟨marker, first, behind⟩
    split at behind
    · cases behind
    next isString =>
      have head := drop_eq_of_take (writeInt8_of_read first).2
      rw [not_not.mp isString, List.drop_zero] at head
      rcases Outcome.bind_eq_ok behind with ⟨⟨count, found⟩, inside, last⟩
      have counted : 1 + count = width := congrArg Prod.fst (Outcome.ok.inj last)
      have value : found = text := Outcome.value_eq last
      rw [rtmpAmf0ReadUtf8] at inside
      split at inside
      · cases inside
      · rcases Outcome.bind_eq_ok inside with ⟨length, measured, inside⟩
        have field := drop_eq_of_take (writeInt16_of_read measured).2
        rw [List.drop_zero, List.drop_drop] at field
        split at inside
        next none =>
          have two : 2 = count := congrArg Prod.fst (Outcome.ok.inj inside)
          have same : held = found := Outcome.value_eq inside
          subst value same
          refine ⟨_, StringBytes.kept none, ?_, ?_⟩
          · rw [List.length_append, writeInt8_length, writeInt16_length]
            omega
          · rw [List.append_assoc, ← counted, ← two, ← field, ← head]
        next positive =>
          split at inside
          · cases inside
          · rcases Outcome.bind_eq_ok inside with ⟨str, sliced, last'⟩
            have width' : 2 + length.toInt.toNat = count := congrArg Prod.fst (Outcome.ok.inj last')
            have same : str = found := Outcome.value_eq last'
            rcases Outcome.slice_splits sliced with ⟨size, _, rest⟩
            rw [List.drop_drop, List.drop_drop] at rest
            have small := length.toInt_lt
            have announced : Int16.ofNat str.length = length := by
              apply Int16.toInt_inj.mp
              rw [toInt_length (by omega)]
              omega
            have some : str ≠ [] := by
              intro none
              rw [none, List.length_nil] at size
              omega
            subst value same
            refine ⟨_, StringBytes.filled some (by omega), ?_, ?_⟩
            · rw [RtmpAmf0Any.encoding, List.length_append, utf8Encoding_length, RtmpAmf0Size.utf8, writeInt8_length]
              omega
            · rw [RtmpAmf0Any.encoding, utf8Encoding, announced, List.append_assoc, List.append_assoc, ← counted,
                ← width', ← rest, ← field, ← head]

/-- The bytes of a string are read as this text. -/
theorem read_of_stringBytes {held text cells : List UInt8} (bytes : StringBytes held text cells) :
    Recovers (rtmpAmf0ReadString held) cells text := by
  cases bytes with
  | filled some fits =>
      have recovers := readString_held_recovers held fits
      rwa [if_neg some] at recovers
  | @kept length none =>
      intro rest
      have field : readInt16 (writeInt16 length ++ rest) 0 = .ok length := readInt16_write length [] rest
      have roomy : ¬ (writeInt16 length ++ rest).length < 2 := by
        rw [List.length_append, writeInt16_length]
        omega
      have text : rtmpAmf0ReadUtf8 held (writeInt16 length ++ rest) = .ok (2, held) := by
        rw [rtmpAmf0ReadUtf8, if_neg roomy, field, Outcome.ok_bind_do, if_pos none]
      have enough : ¬ (writeInt8 rtmpAmf0String ++ (writeInt16 length ++ rest)).length < 1 := by
        rw [List.length_append, writeInt8_length]
        omega
      have behind : (writeInt8 rtmpAmf0String ++ (writeInt16 length ++ rest)).drop 1 = writeInt16 length ++ rest := rfl
      rw [List.append_assoc, rtmpAmf0ReadString, if_neg enough, readInt8_head, Outcome.ok_bind_do, behind, text]
      rfl

/-- The width and the value of a number that was read, and its bytes. -/
theorem number_of_read {data : List UInt8} {width : Nat} {bits : UInt64}
    (read : rtmpAmf0ReadNumber data = .ok (width, bits)) :
    width = 9 ∧ data = (RtmpAmf0Any.number bits).encoding ++ data.drop 9 := by
  refine ⟨?_, readNumber_bytes read⟩
  have again := readNumber_recovers bits (data.drop 9)
  rw [← readNumber_bytes read, read] at again
  exact congrArg Prod.fst (Outcome.ok.inj again)

end Amf0
end RtmpClient
