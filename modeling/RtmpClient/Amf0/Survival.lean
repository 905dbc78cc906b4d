import RtmpClient.Amf0.Legible
import RtmpClient.Amf0.Room

namespace RtmpClient
namespace Amf0

open Library

/-!
# Values that survive

The values that are read back as they were written are exactly the well formed
ones whose size is an `int`.  One number that begins like an end marker is
enough to lose the container that holds it.
-/

namespace RtmpAmf0Any

/-- What `write` puts into any buffer with `total_size` bytes of room is read as
the same value, whatever follows. -/
def ReadsBack (value : RtmpAmf0Any) : Prop :=
  forall (room : Nat) (rest : List UInt8), value.totalSize.toInt ≤ room -> Exists fun bytes =>
    value.write room = .ok bytes ∧ rtmpAmf0ReadAny (bytes ++ rest) = .ok (bytes.length, value)

/-- Reading finds what the loops of `write` get to, so that a value that is read
back has nothing that they leave out. -/
theorem ReadsBack.wellFormed {value : RtmpAmf0Any} (readsBack : value.ReadsBack) :
    value.WellFormed ∧ value.byteSize < 2 ^ 31 := by
  rcases readsBack value.totalSize.toInt.toNat [0x00] (Int.self_le_toNat _) with ⟨bytes, written, read⟩
  have behind : bytes.length < (bytes ++ [0x00]).length := by
    rw [List.length_append]
    exact Nat.lt_succ_self _
  have regular : value.Regular := rtmpAmf0ReadAny_regular read
  have built := Regular.built regular (rtmpAmf0ReadAny_announced read behind)
  have reachedWellFormed : value.reached.WellFormed :=
    (wellFormed_iff.mpr ⟨Regular.short regular, built, Regular.legible regular⟩).reached
  rcases Short.written (Regular.short regular) written with ⟨rfl, enough⟩
  have again := rtmpAmf0ReadAny_recovers reachedWellFormed [0x00]
  have whole : value.reached = value := congrArg Prod.snd (Outcome.ok.inj (again.symm.trans read))
  have most := value.totalSize.toInt_lt
  rw [whole] at reachedWellFormed enough
  rw [value.encoding_length] at enough
  exact ⟨reachedWellFormed, by omega⟩

theorem readsBack_iff {value : RtmpAmf0Any} : value.ReadsBack ↔ value.WellFormed ∧ value.byteSize < 2 ^ 31 := by
  constructor
  · exact ReadsBack.wellFormed
  · rintro ⟨wellFormed, inInt⟩ room rest enough
    have total := totalSize_toInt inInt
    have size := value.encoding_length
    refine ⟨value.encoding, Short.emits (wellFormed_iff.mp wellFormed).1 inInt room (by omega), ?_⟩
    exact rtmpAmf0ReadAny_recovers wellFormed rest

theorem wellFormed_number {bits : UInt64} : (number bits).WellFormed ↔ bits >>> 48 ≠ 0x0009 := by
  constructor
  · intro wellFormed
    cases wellFormed with
    | number notEof => exact notEof
  · exact .number

/-- Short and distinct names, and well formed values. -/
def CarriedTable (properties : UnSortedHashtable RtmpAmf0Any) : Prop :=
  properties.keys.Nodup ∧
    forall property, property ∈ properties -> property.1.length ≤ 32767 ∧ property.2.WellFormed

theorem wellFormed_object {properties : UnSortedHashtable RtmpAmf0Any} :
    (object properties).WellFormed ↔ CarriedTable properties := by
  constructor
  · intro wellFormed
    cases wellFormed with
    | object fit distinct values => exact ⟨distinct, fun property member => ⟨fit property member, values property member⟩⟩
  · intro carried
    exact .object (fun property member => (carried.2 property member).1) carried.1
      fun property member => (carried.2 property member).2

/-- The count of an ECMA array is no part of what the format must carry. -/
theorem wellFormed_ecmaArray {count : Int32} {properties : UnSortedHashtable RtmpAmf0Any} :
    (ecmaArray count properties).WellFormed ↔ CarriedTable properties := by
  constructor
  · intro wellFormed
    cases wellFormed with
    | ecmaArray _ fit distinct values =>
        exact ⟨distinct, fun property member => ⟨fit property member, values property member⟩⟩
  · intro carried
    exact .ecmaArray count (fun property member => (carried.2 property member).1) carried.1
      fun property member => (carried.2 property member).2

theorem wellFormed_strictArray {count : Int32} {properties : List RtmpAmf0Any} :
    (strictArray count properties).WellFormed ↔
      count.toInt.toNat = properties.length ∧ forall value, value ∈ properties -> value.WellFormed := by
  constructor
  · intro wellFormed
    cases wellFormed with
    | strictArray announced values => exact ⟨announced, values⟩
  · rintro ⟨announced, values⟩
    exact .strictArray announced values

end RtmpAmf0Any

open RtmpAmf0Any

/-- The properties before and behind a number, and its name. -/
theorem forall_around {α : Type} {holds : α -> Prop} {before trailing : List α} {here : α} :
    (forall value, value ∈ before ++ here :: trailing -> holds value) ↔
      holds here ∧ (forall value, value ∈ before ++ trailing -> holds value) := by
  simp only [List.forall_mem_append, List.forall_mem_cons]
  exact ⟨fun each => ⟨each.2.1, each.1, each.2.2⟩, fun each => ⟨each.2.1, each.1, each.2.2⟩⟩

/-- A container that holds the number with these bits is read back, with
everything that stands before and behind it, exactly if the upper 16 bits of the
number are not `0x0009` and the format carries the container apart from that: its
size is an `int`, its names are short and distinct, a strict array announces what
it holds, and the other values are well formed. -/
theorem number_readsBack_iff (bits : UInt64) :
    (forall (name : List UInt8) (before trailing : UnSortedHashtable RtmpAmf0Any),
      (object (before ++ (name, number bits) :: trailing)).ReadsBack ↔
        bits >>> 48 ≠ 0x0009 ∧ (object (before ++ (name, number bits) :: trailing)).byteSize < 2 ^ 31 ∧
          (UnSortedHashtable.keys (before ++ (name, number bits) :: trailing)).Nodup ∧ name.length ≤ 32767 ∧
          forall property, property ∈ before ++ trailing -> property.1.length ≤ 32767 ∧ property.2.WellFormed) ∧
      (forall (count : Int32) (name : List UInt8) (before trailing : UnSortedHashtable RtmpAmf0Any),
        (ecmaArray count (before ++ (name, number bits) :: trailing)).ReadsBack ↔
          bits >>> 48 ≠ 0x0009 ∧ (ecmaArray count (before ++ (name, number bits) :: trailing)).byteSize < 2 ^ 31 ∧
            (UnSortedHashtable.keys (before ++ (name, number bits) :: trailing)).Nodup ∧ name.length ≤ 32767 ∧
            forall property, property ∈ before ++ trailing -> property.1.length ≤ 32767 ∧ property.2.WellFormed) ∧
      forall (count : Int32) (before trailing : List RtmpAmf0Any),
        (strictArray count (before ++ number bits :: trailing)).ReadsBack ↔
          bits >>> 48 ≠ 0x0009 ∧ (strictArray count (before ++ number bits :: trailing)).byteSize < 2 ^ 31 ∧
            count.toInt.toNat = (before ++ number bits :: trailing).length ∧
            forall value, value ∈ before ++ trailing -> value.WellFormed := by
  have table (name : List UInt8) (before trailing : UnSortedHashtable RtmpAmf0Any) (inInt : Prop) :
      CarriedTable (before ++ (name, number bits) :: trailing) ∧ inInt ↔
        bits >>> 48 ≠ 0x0009 ∧ inInt ∧
          (UnSortedHashtable.keys (before ++ (name, number bits) :: trailing)).Nodup ∧ name.length ≤ 32767 ∧
          forall property, property ∈ before ++ trailing -> property.1.length ≤ 32767 ∧ property.2.WellFormed := by
    rw [CarriedTable, forall_around, wellFormed_number]
    exact ⟨fun each => ⟨each.1.2.1.2, each.2, each.1.1, each.1.2.1.1, each.1.2.2⟩,
      fun each => ⟨⟨each.2.2.1, ⟨each.2.2.2.1, each.1⟩, each.2.2.2.2⟩, each.2.1⟩⟩
  refine ⟨fun name before trailing => ?_, fun count name before trailing => ?_, fun count before trailing => ?_⟩
  · rw [readsBack_iff, wellFormed_object]
    exact table name before trailing _
  · rw [readsBack_iff, wellFormed_ecmaArray]
    exact table name before trailing _
  · rw [readsBack_iff, wellFormed_strictArray, forall_around, wellFormed_number]
    exact ⟨fun each => ⟨each.1.2.1, each.2, each.1.1, each.1.2.2⟩,
      fun each => ⟨⟨each.2.2.1, each.1, each.2.2.2⟩, each.2.1⟩⟩

/-- The number 1 in an array, in front of an empty object. -/
theorem number_readsBack_iff_one :
    (strictArray 2 [number 0x3FF0000000000000, object []]).ReadsBack := by
  apply ((number_readsBack_iff 0x3FF0000000000000).2.2 2 [] [object []]).mpr
  refine ⟨by decide, by decide, rfl, List.forall_mem_cons.mpr ⟨?_, List.forall_mem_nil _⟩⟩
  exact .object (List.forall_mem_nil _) List.nodup_nil (List.forall_mem_nil _)

/-- An object that holds the number `00 09 00 00 00 00 00 00` is not read at all. -/
theorem number_property_lost :
    ¬ forall (bits : UInt64) (name : List UInt8) (trailing : UnSortedHashtable RtmpAmf0Any),
      (object ((name, number bits) :: trailing)).Built -> (object ((name, number bits) :: trailing)).ReadsBack := by
  intro claimed
  have built : (object [([0x61], number 0x0009000000000000)]).Built :=
    .intro (List.nodup_singleton _) (List.forall_mem_cons.mpr ⟨.leaf trivial rfl, List.forall_mem_nil _⟩)
  rcases claimed 0x0009000000000000 [0x61] [] built 16 [] (by decide) with ⟨bytes, written, read⟩
  rw [← Outcome.ok.inj written] at read
  cases read

end Amf0
end RtmpClient
