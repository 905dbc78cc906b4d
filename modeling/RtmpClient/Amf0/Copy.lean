import RtmpClient.Amf0.Legible
import RtmpClient.Amf0.Written

namespace RtmpClient
namespace Amf0

open Library

/-!
# Copies

Each subclass copies itself.  A container sets or appends the copies of its
parts one after another, which keeps their order and number because no name
stands twice.  Only strings lose something: they are copied through `c_str`, and
a zero byte ends the copy.
-/

namespace RtmpAmf0Any

/-- The values that a program can come to hold: those that were read, and those
that the factory functions, `set` and `append` build from them.  A string that
is given to its factory function is a C string. -/
inductive Obtained : RtmpAmf0Any -> Prop where
  | read {data : List UInt8} {ret : Nat} {value : RtmpAmf0Any}
      (found : rtmpAmf0ReadAny data = .ok (ret, value)) : Obtained value
  | str {value : List UInt8} (cString : 0 ∉ value) : Obtained (.string value)
  | boolean (value : Bool) : Obtained (.boolean value)
  | number (value : UInt64) : Obtained (.number value)
  | null : Obtained .null
  | undefined : Obtained .undefined
  | object : Obtained (.object [])
  | objectEof : Obtained .objectEof
  | ecmaArray : Obtained (.ecmaArray 0 [])
  | strictArray : Obtained (.strictArray 0 [])
  | date (value : Int64) : Obtained (.date value 0)
  | objectSet {properties : UnSortedHashtable RtmpAmf0Any} (container : Obtained (.object properties))
      (key : List UInt8) {added : Option RtmpAmf0Any} (part : forall value, added = some value -> Obtained value) :
      Obtained (.object (properties.set key added))
  | ecmaArraySet {count : Int32} {properties : UnSortedHashtable RtmpAmf0Any}
      (container : Obtained (.ecmaArray count properties)) (key : List UInt8) {added : Option RtmpAmf0Any}
      (part : forall value, added = some value -> Obtained value) :
      Obtained (.ecmaArray count (properties.set key added))
  | append {count : Int32} {properties : List RtmpAmf0Any} (container : Obtained (.strictArray count properties))
      {value : RtmpAmf0Any} (part : Obtained value) :
      Obtained (.strictArray (Int32.ofNat (properties.length + 1)) (properties ++ [value]))

/-- What all of them have in common: distinct names, and no long string with a
zero byte in it. -/
def CopyableHere : RtmpAmf0Any -> Prop
  | .string value => value.length ≤ 32767 ∨ 0 ∉ value
  | .object properties => (UnSortedHashtable.keys properties).Nodup
  | .ecmaArray _ properties => (UnSortedHashtable.keys properties).Nodup
  | _ => True

abbrev Copyable (value : RtmpAmf0Any) : Prop := value.Throughout CopyableHere

/-- A string without a zero byte. -/
def ZeroFreeHere : RtmpAmf0Any -> Prop
  | .string value => 0 ∉ value
  | _ => True

/-- No string in the value has a zero byte. -/
abbrev ZeroFree (value : RtmpAmf0Any) : Prop := value.Throughout ZeroFreeHere

theorem Regular.copyable {value : RtmpAmf0Any} (regular : value.Regular) : value.Copyable :=
  regular.mono fun value here => by
    cases value with
    | string value => exact Or.inl here
    | object properties => exact here.2
    | ecmaArray count properties => exact here.2
    | _ => trivial

/-- What is set goes among the parts. -/
theorem parts_set {properties : UnSortedHashtable RtmpAmf0Any} {holds : RtmpAmf0Any -> Prop}
    (parts : forall part, part ∈ properties.map Prod.snd -> part.Throughout holds) (key : List UInt8)
    {added : Option RtmpAmf0Any} (new : forall value, added = some value -> value.Throughout holds) :
    forall part, part ∈ (UnSortedHashtable.set properties key added).map Prod.snd -> part.Throughout holds := by
  intro part member
  rcases List.mem_map.mp member with ⟨property, present, rfl⟩
  rcases UnSortedHashtable.mem_set present with kept | ⟨-, isAdded⟩
  · exact parts property.2 (List.mem_map_of_mem kept)
  · exact new property.2 isAdded

theorem Obtained.copyable {value : RtmpAmf0Any} (obtained : value.Obtained) : value.Copyable := by
  induction obtained with
  | read found => exact Regular.copyable (rtmpAmf0ReadAny_regular found)
  | str cString => exact .leaf (Or.inr cString) rfl
  | object => exact .leaf List.nodup_nil rfl
  | ecmaArray => exact .leaf List.nodup_nil rfl
  | @objectSet properties _ key added _ containerHypothesis partHypothesis =>
      exact .intro (UnSortedHashtable.nodup_set key added containerHypothesis.here)
        (parts_set containerHypothesis.inside key partHypothesis)
  | @ecmaArraySet count properties _ key added _ containerHypothesis partHypothesis =>
      exact .intro (UnSortedHashtable.nodup_set key added containerHypothesis.here)
        (parts_set containerHypothesis.inside key partHypothesis)
  | append _ _ containerHypothesis partHypothesis =>
      refine .intro trivial fun part member => ?_
      rcases List.mem_append.mp member with kept | new
      · exact containerHypothesis.inside part kept
      · rw [List.mem_singleton.mp new]
        exact partHypothesis
  | _ => exact .leaf trivial rfl

end RtmpAmf0Any

open RtmpAmf0Any

/-! ## Containers -/

/-- `UnSortedHashtable::copy` sets the copies one after another. -/
theorem copyProperties_foldl (properties table : UnSortedHashtable RtmpAmf0Any) :
    copyProperties properties table =
      (properties.map fun property => (property.1, property.2.copy)).foldl
        (fun table entry => UnSortedHashtable.set table entry.1 (some entry.2)) table := by
  induction properties generalizing table with
  | nil => rfl
  | cons property properties inductionHypothesis => rw [copyProperties, inductionHypothesis, List.map_cons, List.foldl_cons]

/-- Properties of distinct names are copied in their order. -/
theorem copyProperties_map {properties table : UnSortedHashtable RtmpAmf0Any}
    (distinct : (table ++ properties).keys.Nodup) :
    copyProperties properties table = table ++ properties.map fun property => (property.1, property.2.copy) := by
  rw [copyProperties_foldl]
  apply UnSortedHashtable.foldl_set
  rw [UnSortedHashtable.keys, List.map_append, List.map_map]
  rw [UnSortedHashtable.keys, List.map_append] at distinct
  exact distinct

theorem copyElements_map (properties : List RtmpAmf0Any) : copyElements properties = properties.map copy := by
  induction properties with
  | nil => rfl
  | cons value properties inductionHypothesis => rw [copyElements, inductionHypothesis, List.map_cons]

theorem copy_table {properties : UnSortedHashtable RtmpAmf0Any} (distinct : properties.keys.Nodup) :
    copyProperties properties [] = properties.map fun property => (property.1, property.2.copy) :=
  copyProperties_map distinct

/-- Without zero bytes the copy is the value. -/
theorem RtmpAmf0Any.Copyable.copy_eq {value : RtmpAmf0Any} (copyable : value.Copyable) (zeroFree : value.ZeroFree) :
    value.copy = value := by
  induction copyable with
  | @intro value distinct _ inductionHypothesis =>
      have parts : forall part, part ∈ value.parts -> part.copy = part := fun part member =>
        inductionHypothesis part member (zeroFree.inside part member)
      have table {properties : UnSortedHashtable RtmpAmf0Any} (names : properties.keys.Nodup)
          (same : forall part, part ∈ properties.map Prod.snd -> part.copy = part) :
          copyProperties properties [] = properties := by
        have each : forall property, property ∈ properties -> (property.1, property.2.copy) = id property := by
          intro property member
          rw [same property.2 (List.mem_map_of_mem member)]
          rfl
        rw [copy_table names, List.map_congr_left each, List.map_id]
      cases value with
      | string value => rw [copy, cStr_of_not_mem zeroFree.here]
      | object properties => rw [copy, table distinct parts]
      | ecmaArray count properties => rw [copy, table distinct parts]
      | strictArray count properties =>
          have each : forall part, part ∈ properties -> part.copy = id part := parts
          rw [copy, copyElements_map, List.map_congr_left each, List.map_id]
      | _ => rfl

/-! ## What a zero byte costs -/

theorem cStr_length_le (text : List UInt8) : (cStr text).length ≤ text.length :=
  (List.takeWhile_sublist _).length_le

/-- A text that ends at a zero byte is shorter. -/
theorem cStr_eq_of_length {text : List UInt8} (same : (cStr text).length = text.length) : cStr text = text :=
  (List.takeWhile_sublist _).eq_of_length same

theorem utf8Written_short {value : List UInt8} (fits : value.length ≤ 32767) :
    utf8Written value = 2 + value.length := by
  rw [utf8Written, toInt_length fits, Int.toNat_natCast]

theorem utf8Written_cStr {value : List UInt8} (copyable : value.length ≤ 32767 ∨ 0 ∉ value) :
    utf8Written (cStr value) ≤ utf8Written value ∧ (utf8Written (cStr value) = utf8Written value -> 0 ∉ value) := by
  rcases copyable with fits | cString
  · have less := cStr_length_le value
    rw [utf8Written_short fits, utf8Written_short (Nat.le_trans less fits)]
    exact ⟨by omega, fun same => cStr_eq_self_iff.mp (cStr_eq_of_length (by omega))⟩
  · rw [cStr_of_not_mem cString]
    exact ⟨Nat.le_refl _, fun _ => cString⟩

theorem propertiesWritten_map {change : RtmpAmf0Any -> RtmpAmf0Any} {properties : List (List UInt8 × RtmpAmf0Any)}
    (less : forall part, part ∈ properties.map Prod.snd -> (change part).writtenSize ≤ part.writtenSize) :
    propertiesWritten (properties.map fun property => (property.1, change property.2)) ≤ propertiesWritten properties ∧
      (propertiesWritten (properties.map fun property => (property.1, change property.2)) =
          propertiesWritten properties ->
        forall part, part ∈ properties.map Prod.snd -> (change part).writtenSize = part.writtenSize) := by
  induction properties with
  | nil => exact ⟨Nat.le_refl 0, fun _ => List.forall_mem_nil _⟩
  | cons property properties inductionHypothesis =>
      have first := less property.2 List.mem_cons_self
      rcases inductionHypothesis fun part member => less part (List.mem_cons_of_mem _ member) with ⟨rest, restSame⟩
      rw [List.map_cons, propertiesWritten, propertiesWritten]
      refine ⟨by omega, fun same => ?_⟩
      rw [List.map_cons]
      exact List.forall_mem_cons.mpr ⟨by omega, restSame (by omega)⟩

theorem elementsWritten_map {change : RtmpAmf0Any -> RtmpAmf0Any} {properties : List RtmpAmf0Any}
    (less : forall part, part ∈ properties -> (change part).writtenSize ≤ part.writtenSize) :
    elementsWritten (properties.map change) ≤ elementsWritten properties ∧
      (elementsWritten (properties.map change) = elementsWritten properties ->
        forall part, part ∈ properties -> (change part).writtenSize = part.writtenSize) := by
  induction properties with
  | nil => exact ⟨Nat.le_refl 0, fun _ => List.forall_mem_nil _⟩
  | cons value properties inductionHypothesis =>
      have first := less value List.mem_cons_self
      rcases inductionHypothesis fun part member => less part (List.mem_cons_of_mem _ member) with ⟨rest, restSame⟩
      rw [List.map_cons, elementsWritten, elementsWritten]
      refine ⟨by omega, fun same => ?_⟩
      exact List.forall_mem_cons.mpr ⟨by omega, restSame (by omega)⟩

/-- A copy is written in no more bytes than the value, and in as many only if
no string lost something. -/
theorem RtmpAmf0Any.Copyable.writtenSize_copy {value : RtmpAmf0Any} (copyable : value.Copyable) :
    value.copy.writtenSize ≤ value.writtenSize ∧ (value.copy.writtenSize = value.writtenSize -> value.ZeroFree) := by
  induction copyable with
  | @intro value here _ inductionHypothesis =>
      have less : forall part, part ∈ value.parts -> part.copy.writtenSize ≤ part.writtenSize := fun part member =>
        (inductionHypothesis part member).1
      have zeroFree : (forall part, part ∈ value.parts -> part.copy.writtenSize = part.writtenSize) ->
          forall part, part ∈ value.parts -> part.ZeroFree := fun same part member =>
        (inductionHypothesis part member).2 (same part member)
      cases value with
      | string value =>
          have text := utf8Written_cStr here
          rw [copy, writtenSize, writtenSize]
          exact ⟨by omega, fun same => .leaf (text.2 (by omega)) rfl⟩
      | object properties =>
          have table := propertiesWritten_map less
          rw [copy, copy_table here, writtenSize, writtenSize]
          exact ⟨by omega, fun same => .intro trivial (zeroFree (table.2 (by omega)))⟩
      | ecmaArray count properties =>
          have table := propertiesWritten_map less
          rw [copy, copy_table here, writtenSize, writtenSize]
          exact ⟨by omega, fun same => .intro trivial (zeroFree (table.2 (by omega)))⟩
      | strictArray count properties =>
          have elements : elementsWritten (properties.map copy) ≤ elementsWritten properties ∧ _ :=
            elementsWritten_map less
          rw [copy, copyElements_map, writtenSize, writtenSize]
          exact ⟨by omega, fun same => .intro trivial (zeroFree (elements.2 (by omega)))⟩
      | _ => exact ⟨Nat.le_refl _, fun _ => .leaf trivial rfl⟩

/-! ## What is written of a copy -/

theorem RtmpAmf0Any.Copyable.reached {value : RtmpAmf0Any} (copyable : value.Copyable) : value.reached.Copyable :=
  Throughout.reached copyable fun value here => by
    have fewer {rounds : Nat} {properties : UnSortedHashtable RtmpAmf0Any} (distinct : properties.keys.Nodup) :
        (UnSortedHashtable.keys (reachedProperties rounds properties)).Nodup := by
      rw [keys_reachedProperties]
      exact distinct.sublist (List.take_sublist _ _)
    cases value with
    | object properties => exact fewer here
    | ecmaArray count properties => exact fewer here
    | _ => exact here

theorem reachedProperties_copy {rounds : Nat} {properties : UnSortedHashtable RtmpAmf0Any}
    (distinct : properties.keys.Nodup)
    (same : forall part, part ∈ properties.map Prod.snd -> part.copy.reached = part.reached.copy) :
    reachedProperties rounds (copyProperties properties []) = copyProperties (reachedProperties rounds properties) [] := by
  have names : (UnSortedHashtable.keys (reachedProperties rounds properties)).Nodup := by
    rw [keys_reachedProperties]
    exact distinct.sublist (List.take_sublist _ _)
  rw [copy_table distinct, copy_table names, reachedProperties_eq, reachedProperties_eq, ← List.map_take, List.map_map,
    List.map_map]
  apply List.map_congr_left
  intro property member
  have part := same property.2 (List.mem_map_of_mem (List.mem_of_mem_take member))
  exact Prod.ext rfl part

/-- The loops get as far in the copy as in the value. -/
theorem RtmpAmf0Any.Copyable.copy_reached {value : RtmpAmf0Any} (copyable : value.Copyable) :
    value.copy.reached = value.reached.copy := by
  induction copyable with
  | @intro value here _ inductionHypothesis =>
      have rounds {properties : UnSortedHashtable RtmpAmf0Any} (distinct : properties.keys.Nodup) :
          loopRounds (copyProperties properties []).length = loopRounds properties.length := by
        rw [copy_table distinct, List.length_map]
      cases value with
      | object properties =>
          rw [copy, RtmpAmf0Any.reached, RtmpAmf0Any.reached, copy, rounds here,
            reachedProperties_copy here inductionHypothesis]
      | ecmaArray count properties =>
          rw [copy, RtmpAmf0Any.reached, RtmpAmf0Any.reached, copy, rounds here,
            reachedProperties_copy here inductionHypothesis]
      | strictArray count properties =>
          have each : forall part, part ∈ properties -> part.copy.reached = part.reached.copy := inductionHypothesis
          rw [copy, RtmpAmf0Any.reached, RtmpAmf0Any.reached, copy, copyElements_map, copyElements_map,
            reachedElements_eq, reachedElements_eq, List.length_map, ← List.map_take, List.map_map, List.map_map]
          congr 1
          exact List.map_congr_left fun part member => each part (List.mem_of_mem_take member)
      | _ => rfl

/-- A copy is written as the value is, in every buffer, exactly if no string that
`write` gets to has a zero byte. -/
theorem RtmpAmf0Any.Copyable.write_copy_iff {value : RtmpAmf0Any} (copyable : value.Copyable) :
    (forall len, value.copy.write len = value.write len) ↔ value.reached.ZeroFree := by
  have reachedCopyable := Copyable.reached copyable
  have far := copyable.copy_reached
  constructor
  · intro same
    have room := value.copy.write_takes.2 (max value.copy.reached.byteSize value.reached.byteSize) (Nat.le_max_left _ _)
    have room' := value.write_takes.2 (max value.copy.reached.byteSize value.reached.byteSize) (Nat.le_max_right _ _)
    rcases room with ⟨cells, written, length⟩
    rcases room' with ⟨cells', written', length'⟩
    rw [same, written'] at written
    apply reachedCopyable.writtenSize_copy.2
    rw [← far, ← length, ← length', Outcome.ok.inj written]
  · intro zeroFree len
    rw [← value.copy.write_reached, ← value.write_reached, far, reachedCopyable.copy_eq zeroFree]

end Amf0
end RtmpClient
