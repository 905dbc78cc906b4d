import RtmpClient.Amf0.Fields

namespace RtmpClient
namespace Amf0

open Library
open Net

/-!
# A property of an object that was read

Of two properties with one name the reader keeps the last.  Whether a name
stands for a string in the table that it leaves is told by the bytes.
-/

/-- `is_string`. -/
def RtmpAmf0Any.isString (value : RtmpAmf0Any) : Bool := value.typeMarker == rtmpAmf0String

theorem isString_iff {value : RtmpAmf0Any} : value.isString = true ↔ Exists fun text => value = .string text := by
  rw [RtmpAmf0Any.isString, beq_iff_eq]
  cases value with
  | string text => exact iff_of_true rfl ⟨text, rfl⟩
  | _ =>
      apply iff_of_false
      · rw [RtmpAmf0Any.typeMarker]
        decide
      · rintro ⟨_, found⟩
        cases found

theorem isObject_iff {value : RtmpAmf0Any} :
    value.typeMarker = rtmpAmf0Object ↔ Exists fun properties => value = .object properties := by
  cases value with
  | object properties => exact iff_of_true rfl ⟨properties, rfl⟩
  | _ =>
      apply iff_of_false
      · rw [RtmpAmf0Any.typeMarker]
        decide
      · rintro ⟨_, found⟩
        cases found

/-! ## The table -/

namespace UnSortedHashtable

variable {α : Type} {table : UnSortedHashtable α} {key name : List UInt8}

theorem getProperty_cons (entry : List UInt8 × α) (table : UnSortedHashtable α) (name : List UInt8) :
    getProperty (entry :: table) name = if entry.1 = name then some entry.2 else getProperty table name := by
  by_cases here : entry.1 = name
  · have found : (entry.1 == name) = true := beq_iff_eq.mpr here
    rw [if_pos here, getProperty, List.find?_cons, found]
    rfl
  · have passed : (entry.1 == name) = false := beq_eq_false_iff_ne.mpr here
    rw [if_neg here, getProperty, List.find?_cons, passed]
    rfl

theorem getProperty_eraseP (other : key ≠ name) :
    getProperty (table.eraseP fun elem => key == elem.1) name = table.getProperty name := by
  induction table with
  | nil => rfl
  | cons entry table inductionHypothesis =>
      rw [List.eraseP_cons]
      by_cases here : key = entry.1
      · rw [beq_iff_eq.mpr here, cond_true, getProperty_cons, if_neg (here ▸ other)]
      · rw [beq_eq_false_iff_ne.mpr here, cond_false, getProperty_cons, getProperty_cons, inductionHypothesis]

theorem getProperty_absent (absent : ¬ name ∈ table.keys) : table.getProperty name = none := by
  have nothing : table.find? (fun elem => elem.1 == name) = none := by
    apply List.find?_eq_none.mpr
    intro elem member same
    exact absent (eq_of_beq same ▸ List.mem_map_of_mem member)
  rw [getProperty, nothing]
  rfl

/-- The last value that was set for a name is the one that is found. -/
theorem getProperty_set (distinct : table.keys.Nodup) (key name : List UInt8) (value : α) :
    (table.set key (some value)).getProperty name = if key = name then some value else table.getProperty name := by
  have found : (table.set key (some value)).getProperty name =
      (getProperty (table.eraseP fun elem => key == elem.1) name).or (getProperty [(key, value)] name) := by
    rw [set, getProperty, List.find?_append, Option.map_or]
    rfl
  rw [found]
  by_cases same : key = name
  · have absent : ¬ name ∈ keys (table.eraseP fun elem => key == elem.1) := by
      rw [keys, keys_eraseP, same]
      exact distinct.not_mem_erase
    rw [getProperty_absent absent, Option.none_or, if_pos same, getProperty_cons, if_pos same]
  · have nothing : getProperty [(key, value)] name = none := by
      rw [getProperty_cons, if_neg same]
      rfl
    rw [nothing, Option.or_none, getProperty_eraseP same, if_neg same]

/-- The name stands for a string. -/
def holdsString (table : UnSortedHashtable RtmpAmf0Any) (name : List UInt8) : Bool :=
  ((table.getProperty name).map RtmpAmf0Any.isString).getD false

theorem holdsString_iff {table : UnSortedHashtable RtmpAmf0Any} {name : List UInt8} :
    table.holdsString name = true ↔ Exists fun text => table.getProperty name = some (.string text) := by
  rw [holdsString]
  cases table.getProperty name with
  | none => exact iff_of_false Bool.noConfusion fun ⟨_, found⟩ => by cases found
  | some value =>
      simp only [Option.map_some, Option.getD_some, Option.some_inj]
      exact isString_iff

theorem holdsString_set {table : UnSortedHashtable RtmpAmf0Any} (distinct : table.keys.Nodup)
    (key name : List UInt8) (value : RtmpAmf0Any) :
    (table.set key (some value)).holdsString name = if key = name then value.isString else table.holdsString name := by
  rw [holdsString, getProperty_set distinct]
  by_cases same : key = name
  · rw [if_pos same, if_pos same]
    rfl
  · rw [if_neg same, if_neg same]
    rfl

end UnSortedHashtable

/-! ## The bytes -/

/-- The name in front of a property. -/
def propertyName (data : List UInt8) : List UInt8 := (data.drop 2).take (textLength data)

/-- A string, or something that is none, begins here. -/
def stringAt (data : List UInt8) : Bool := data.head? == some rtmpAmf0String.toUInt8

/-- Properties stand here, and the last of this name is a string; without one,
`seen` says whether there was one in front. -/
inductive EndsWithString (key : List UInt8) : (seen : Bool) -> (data : List UInt8) -> Prop where
  | bufferEnd : EndsWithString key true []
  | objectEnd {data : List UInt8} (isEof : rtmpAmf0IsObjectEof data = true) : EndsWithString key true data
  | property {seen : Bool} {data : List UInt8} {name width : Nat} (notEof : rtmpAmf0IsObjectEof data = false)
      (text : Text data name) (value : Begins .value (data.drop name) width)
      (others : EndsWithString key (if propertyName data = key then stringAt (data.drop name) else seen)
        (data.drop (name + width))) : EndsWithString key seen data

namespace EndsWithString

variable {key data : List UInt8} {seen : Bool}

theorem nil_iff : EndsWithString key seen [] ↔ seen = true := by
  constructor
  · intro ends
    cases ends with
    | bufferEnd => rfl
    | objectEnd _ => rfl
    | property _ text _ _ => exact text.not_nil.elim
  · rintro rfl
    exact .bufferEnd

theorem eof_iff (isEof : rtmpAmf0IsObjectEof data = true) : EndsWithString key seen data ↔ seen = true := by
  constructor
  · intro ends
    cases ends with
    | bufferEnd => rfl
    | objectEnd _ => rfl
    | property notEof _ _ _ => exact absurd (isEof.symm.trans notEof) Bool.noConfusion
  · rintro rfl
    exact .objectEnd isEof

theorem property_iff {name width : Nat} (notEof : rtmpAmf0IsObjectEof data = false) (text : Text data name)
    (value : Begins .value (data.drop name) width) : EndsWithString key seen data ↔
      EndsWithString key (if propertyName data = key then stringAt (data.drop name) else seen)
        (data.drop (name + width)) := by
  constructor
  · intro ends
    cases ends with
    | bufferEnd => exact text.not_nil.elim
    | objectEnd isEof => exact absurd (isEof.symm.trans notEof) Bool.noConfusion
    | property _ text' value' others =>
        rcases text.width_eq text' with rfl
        rwa [value.width_unique value']
  · exact .property notEof text value

end EndsWithString

/-! ## The readers -/

/-- The name that is read where a text begins. -/
theorem readUtf8_name {data : List UInt8} {width : Nat} (text : Text data width) :
    rtmpAmf0ReadUtf8 [] data = .ok (width, propertyName data) := by
  have announced := text.announced
  have inside := text.inside
  have enough : 0 + 2 ≤ data.length := by omega
  have length : textLength data = (UInt16.ofNat (beValue (data.take 2))).toInt16.toInt.toNat := rfl
  rw [rtmpAmf0ReadUtf8, if_neg (by omega), readInt16_of_le enough, Outcome.ok_bind_do, List.drop_zero, propertyName]
  by_cases none : (UInt16.ofNat (beValue (data.take 2))).toInt16.toInt ≤ 0
  · rw [if_pos none, announced, length, Int.toNat_of_nonpos none, List.take_zero]
  · rw [if_neg none, if_neg (by omega), Outcome.slice_of_le (by omega), announced, length]
    rfl

/-- A read leaves an instance of the same class. -/
theorem read_typeMarker {readAny : Reader UInt8 RtmpAmf0Any} {made value : RtmpAmf0Any} {data : List UInt8}
    {width : Nat} (read : made.read readAny data = .ok (width, value)) : value.typeMarker = made.typeMarker := by
  cases made with
  | null =>
      rcases Outcome.bind_eq_ok read with ⟨_, _, last⟩
      rw [← Outcome.value_eq last]
  | undefined =>
      rcases Outcome.bind_eq_ok read with ⟨_, _, last⟩
      rw [← Outcome.value_eq last]
  | objectEof =>
      rcases Outcome.bind_eq_ok read with ⟨_, _, last⟩
      rw [← Outcome.value_eq last]
  | _ =>
      rcases Outcome.bind_eq_ok read with ⟨_, _, last⟩
      rw [← Outcome.value_eq last]
      rfl

/-- Apart from the end marker, and from a number, which begins with the same
byte, the first byte tells the class of what is read. -/
theorem readAny_typeMarker {data : List UInt8} {width : Nat} {value : RtmpAmf0Any} {marker : Int8}
    (read : rtmpAmf0ReadAny data = .ok (width, value)) (notNumber : marker ≠ rtmpAmf0Number)
    (notEnd : marker ≠ rtmpAmf0ObjectEnd) : value.typeMarker = marker ↔ data.head? = some marker.toUInt8 := by
  rw [rtmpAmf0ReadAny_eq] at read
  rcases Outcome.bind_eq_ok read with ⟨made, discovered, behind⟩
  rw [read_typeMarker (Outcome.errorAs_eq_ok behind)]
  rcases discovery_found (Outcome.errorAs_eq_ok discovered) with ⟨rfl, isEof⟩ | ⟨_, found, marked, here⟩
  · rcases begins_of_isObjectEof isEof with ⟨rest, rfl⟩
    refine iff_of_false (Ne.symm notEnd) fun first => notNumber ?_
    exact (congrArg UInt8.toInt8 (Option.some.inj first)).symm
  · cases data with
    | nil => cases marked
    | cons first rest =>
        rw [readInt8_first, here.kind, Outcome.ok.injEq] at marked
        rw [← marked, List.head?_cons, Option.some_inj]
        constructor
        · rintro rfl
          rfl
        · rintro rfl
          rfl

theorem readAny_isString {data : List UInt8} {width : Nat} {value : RtmpAmf0Any}
    (read : rtmpAmf0ReadAny data = .ok (width, value)) : value.isString = stringAt data := by
  rw [RtmpAmf0Any.isString, stringAt, Bool.eq_iff_iff, beq_iff_eq, beq_iff_eq]
  exact readAny_typeMarker read (by decide) (by decide)

/-- An object that was read, and its loop. -/
theorem readProperties_of_object {data : List UInt8} {width : Nat} {properties : List (List UInt8 × RtmpAmf0Any)}
    (read : rtmpAmf0ReadAny data = .ok (width, .object properties)) :
    readProperties (readPropertyValue rtmpAmf0ReadAny) data data.length 1 [] = .ok (width, properties) := by
  rw [rtmpAmf0ReadAny_eq] at read
  rcases Outcome.bind_eq_ok read with ⟨made, discovered, behind⟩
  have inside := Outcome.errorAs_eq_ok behind
  have nonempty : ¬ data.length < 1 := Nat.not_lt.mpr (discovery_nonempty (Outcome.errorAs_eq_ok discovered))
  rcases isObject_iff.mp (read_typeMarker inside).symm with ⟨held, rfl⟩
  rcases RtmpAmf0Any.object.inj (discovery_fresh (Outcome.errorAs_eq_ok discovered)) with rfl
  rcases Outcome.bind_eq_ok inside with ⟨⟨count, table⟩, object, last⟩
  rw [RtmpAmf0Object.read, if_neg nonempty] at object
  rcases Outcome.bind_eq_ok object with ⟨marker, _, loop⟩
  split at loop
  · cases loop
  · rw [loop]
    have same : (count, RtmpAmf0Any.object table) = (width, .object properties) := Outcome.ok.inj last
    rw [Prod.mk.injEq, RtmpAmf0Any.object.injEq] at same
    rw [same.1, same.2]

/-- One round of the loop over properties. -/
theorem readProperty_found {data : List UInt8} {ret : Nat} {property : List UInt8 × RtmpAmf0Any}
    (read : readProperty (readPropertyValue rtmpAmf0ReadAny) data = .ok (ret, property)) : Exists fun name => Exists fun width =>
      ret = name + width ∧ Text data name ∧ Begins .value (data.drop name) width ∧
      property.1 = propertyName data ∧ property.2.isString = stringAt (data.drop name) := by
  rcases Outcome.bind_eq_ok read with ⟨⟨name, text⟩, named, behind⟩
  rcases Outcome.bind_eq_ok behind with ⟨⟨width, value⟩, valued, last⟩
  have any := readPropertyValue_eq_ok.mp valued
  have total : name + width = ret := congrArg Prod.fst (Outcome.ok.inj last)
  rw [← Outcome.value_eq last]
  rcases readUtf8_iff [] data with ⟨_, _, here, _⟩ | ⟨_, refused⟩
  · have same := Outcome.ok.inj (named.symm.trans (readUtf8_name here))
    rw [Prod.mk.injEq] at same
    exact ⟨name, width, total.symm, same.1 ▸ here, (rtmpAmf0ReadAny_ok_iff _ _).mp ⟨value, any⟩, same.2,
      readAny_isString any⟩
  · exact absurd named refused.not_ok

/-- The name stands for a string exactly where the bytes say so. -/
theorem readProperties_holdsString {data key : List UInt8} {rounds offset : Nat}
    {table : UnSortedHashtable RtmpAmf0Any} {result : Nat × UnSortedHashtable RtmpAmf0Any}
    (distinct : table.keys.Nodup)
    (read : readProperties (readPropertyValue rtmpAmf0ReadAny) data rounds offset table = .ok result) :
    UnSortedHashtable.holdsString result.2 key = true ↔
      EndsWithString key (table.holdsString key) (data.drop offset) := by
  induction rounds generalizing offset table with
  | zero =>
      rw [readProperties] at read
      split at read
      · cases read
      next atEnd =>
        rw [← Outcome.ok.inj read, List.drop_eq_nil_of_le (Nat.not_lt.mp atEnd)]
        exact EndsWithString.nil_iff.symm
  | succ rounds inductionHypothesis =>
      rw [readProperties] at read
      split at read
      · split at read
        next isEof =>
          rcases Outcome.bind_eq_ok read with ⟨_, _, last⟩
          rw [← Outcome.ok.inj last]
          exact (EndsWithString.eof_iff isEof).symm
        next notEof =>
          rcases Outcome.bind_eq_ok read with ⟨⟨ret, property⟩, one, others⟩
          rcases readProperty_found one with ⟨name, width, rfl, text, value, named, kind⟩
          have behind : data.drop (offset + (name + width)) = (data.drop offset).drop (name + width) :=
            (List.drop_drop).symm
          rw [inductionHypothesis (UnSortedHashtable.nodup_set _ _ distinct) others,
            UnSortedHashtable.holdsString_set distinct, named, kind, behind,
            EndsWithString.property_iff (Bool.eq_false_iff.mpr notEof) text value]
      next atEnd =>
        rw [← Outcome.ok.inj read, List.drop_eq_nil_of_le (Nat.not_lt.mp atEnd)]
        exact EndsWithString.nil_iff.symm

/-- Whether the value that is read is an object in which this name stands for a
string is told by the bytes. -/
theorem readAny_property_iff {data : List UInt8} {width : Nat} {value : RtmpAmf0Any}
    (read : rtmpAmf0ReadAny data = .ok (width, value)) (key : List UInt8) :
    (Exists fun properties => Exists fun text => value = .object properties ∧
        UnSortedHashtable.getProperty properties key = some (.string text)) ↔
      Exists fun properties => data = rtmpAmf0Object.toUInt8 :: properties ∧ EndsWithString key false properties := by
  have marked : value.typeMarker = rtmpAmf0Object ↔ data.head? = some rtmpAmf0Object.toUInt8 :=
    readAny_typeMarker read (by decide) (by decide)
  have told {properties : List (List UInt8 × RtmpAmf0Any)} (object : value = .object properties) :
      (Exists fun text => UnSortedHashtable.getProperty properties key = some (.string text)) ↔
        EndsWithString key false (data.drop 1) := by
    rw [object] at read
    rw [← UnSortedHashtable.holdsString_iff]
    have distinct : (UnSortedHashtable.keys ([] : UnSortedHashtable RtmpAmf0Any)).Nodup := List.nodup_nil
    exact readProperties_holdsString distinct (readProperties_of_object read)
  constructor
  · rintro ⟨properties, text, object, found⟩
    have first := marked.mp (isObject_iff.mpr ⟨properties, object⟩)
    have ends := (told object).mp ⟨text, found⟩
    cases data with
    | nil => cases first
    | cons head rest =>
        rw [List.head?_cons] at first
        rw [Option.some.inj first]
        exact ⟨rest, rfl, ends⟩
  · rintro ⟨rest, rfl, ends⟩
    rcases isObject_iff.mp (marked.mpr rfl) with ⟨properties, rfl⟩
    rcases (told rfl).mpr ends with ⟨text, found⟩
    exact ⟨properties, text, rfl, found⟩

end Amf0
end RtmpClient
