import Mathlib.Data.List.Nodup
import Mathlib.Tactic.Common
import RtmpClient.Library.CInt
import RtmpClient.Library.CppString

namespace RtmpClient
namespace Amf0

/-!
# AMF0 values (`rtmp_stack_amf0.h`)

An instance of a subclass of `RtmpAmf0Any` is a constructor of one inductive
type; its virtual functions match on it.  A number is kept as the bit pattern
of the source's `double`, which is only ever copied.  The elements of
containers are never NULL in a value that a read or a factory call produced.
Offsets are `int` in the source and natural numbers here: a buffer is given with
an `int` length, and no offset passes it.  Sizes, which nothing bounds, are `int`.
-/

def rtmpAmf0Number : Int8 := 0x00
def rtmpAmf0Boolean : Int8 := 0x01
def rtmpAmf0String : Int8 := 0x02
def rtmpAmf0Object : Int8 := 0x03
def rtmpAmf0Null : Int8 := 0x05
def rtmpAmf0Undefined : Int8 := 0x06
def rtmpAmf0EcmaArray : Int8 := 0x08
def rtmpAmf0ObjectEnd : Int8 := 0x09
def rtmpAmf0StrictArray : Int8 := 0x0A
def rtmpAmf0Date : Int8 := 0x0B

/-- `RtmpAmf0Any` with its subclasses.  The list of an object or an ECMA array
is the vector of its `UnSortedHashtable`; `count` is the member `_count`. -/
inductive RtmpAmf0Any where
  | number (value : UInt64)
  | boolean (value : Bool)
  | string (value : List UInt8)
  | null
  | undefined
  | date (value : Int64) (timeZone : Int16)
  | objectEof
  | object (properties : List (List UInt8 × RtmpAmf0Any))
  | ecmaArray (count : Int32) (properties : List (List UInt8 × RtmpAmf0Any))
  | strictArray (count : Int32) (properties : List RtmpAmf0Any)
  deriving Repr

/-- The vector of properties, in the order in which they were set. -/
abbrev UnSortedHashtable (α : Type) := List (List UInt8 × α)

namespace UnSortedHashtable

variable {α : Type}

/-- The names, in the order of `key_at`. -/
def keys (table : UnSortedHashtable α) : List (List UInt8) := table.map Prod.fst

/-- `get_property`: the first entry of that name, none for NULL. -/
def getProperty (table : UnSortedHashtable α) (name : List UInt8) : Option α :=
  (table.find? fun elem => elem.1 == name).map Prod.snd

/-- `set`: the first entry of that name is erased, then the new one goes to
the end unless its value is NULL. -/
def set (table : UnSortedHashtable α) (key : List UInt8) (value : Option α) : UnSortedHashtable α :=
  let others := table.eraseP fun elem => key == elem.1
  match value with
  | some value => others ++ [(key, value)]
  | none => others

theorem set_of_not_mem {table : UnSortedHashtable α} {key : List UInt8} (value : α)
    (fresh : ¬ key ∈ table.keys) : table.set key (some value) = table ++ [(key, value)] := by
  have nothing : table.eraseP (fun elem => key == elem.1) = table := by
    apply List.eraseP_of_forall_not
    intro elem member same
    apply fresh
    rw [eq_of_beq same]
    exact List.mem_map_of_mem member
  simp only [set, nothing]

/-- Entries of distinct names that are set one after another keep their order
and displace nothing. -/
theorem foldl_set (entries table : UnSortedHashtable α) (distinct : (table ++ entries).keys.Nodup) :
    entries.foldl (fun table entry => table.set entry.1 (some entry.2)) table = table ++ entries := by
  induction entries generalizing table with
  | nil => rw [List.foldl_nil, List.append_nil]
  | cons entry entries inductionHypothesis =>
      have fresh : ¬ entry.1 ∈ table.keys := by
        rw [keys, List.map_append, List.nodup_append] at distinct
        intro member
        exact distinct.2.2 entry.1 member entry.1 List.mem_cons_self rfl
      rw [List.foldl_cons, set_of_not_mem entry.2 fresh, inductionHypothesis]
      · rw [List.append_assoc, List.singleton_append]
      · rw [List.append_assoc, List.singleton_append]
        exact distinct

theorem keys_eraseP (table : UnSortedHashtable α) (key : List UInt8) :
    (table.eraseP fun elem => key == elem.1).map Prod.fst = table.keys.erase key := by
  rw [keys, List.erase_eq_eraseP, List.eraseP_map]
  rfl

/-- Whatever is set, no name stands twice. -/
theorem nodup_set {table : UnSortedHashtable α} (key : List UInt8) (value : Option α) (distinct : table.keys.Nodup) :
    (table.set key value).keys.Nodup := by
  have others : (table.keys.erase key).Nodup := distinct.erase key
  cases value with
  | none => rwa [← keys_eraseP] at others
  | some value =>
      rw [set, keys, List.map_append, keys_eraseP, List.nodup_append]
      refine ⟨others, List.nodup_singleton key, ?_⟩
      intro other member name new same
      rw [List.map_cons, List.map_nil, List.mem_singleton] at new
      rw [same, new] at member
      exact distinct.not_mem_erase member

/-- `set` on what stands for values and on the values. -/
theorem map_set {β : Type} (valueOf : α -> β) (table : UnSortedHashtable α) (key : List UInt8) (value : Option α) :
    (table.set key value).map (fun elem => (elem.1, valueOf elem.2)) =
      set (table.map fun elem => (elem.1, valueOf elem.2)) key (value.map valueOf) := by
  have others : (table.eraseP fun elem => key == elem.1).map (fun elem => (elem.1, valueOf elem.2)) =
      (table.map fun elem => (elem.1, valueOf elem.2)).eraseP fun elem => key == elem.1 := by
    rw [List.eraseP_map]
    rfl
  cases value with
  | none => exact others
  | some value =>
      rw [set, Option.map_some, set, ← others, List.map_append]
      rfl

theorem mem_set {table : UnSortedHashtable α} {key : List UInt8} {value : Option α}
    {entry : List UInt8 × α} (member : entry ∈ table.set key value) :
    entry ∈ table ∨ (entry.1 = key ∧ value = some entry.2) := by
  cases value with
  | none => exact Or.inl (List.mem_of_mem_eraseP member)
  | some value =>
      rw [set, List.mem_append, List.mem_singleton] at member
      rcases member with kept | added
      · exact Or.inl (List.mem_of_mem_eraseP kept)
      · rw [added]
        exact Or.inr ⟨rfl, rfl⟩

end UnSortedHashtable

namespace RtmpAmf0Size

def utf8 (value : List UInt8) : Nat := 2 + value.length

def str (value : List UInt8) : Nat := 1 + utf8 value

def number : Nat := 1 + 8

def date : Nat := 1 + 8 + 2

def null : Nat := 1

def undefined : Nat := 1

def boolean : Nat := 1 + 1

def objectEof : Nat := 2 + 1

end RtmpAmf0Size

mutual

/-- `total_size`, of every subclass.  The sum is an `int`, and so is the number
of items that the loops go up to. -/
def RtmpAmf0Any.totalSize : RtmpAmf0Any -> Int32
  | .number _ => Int32.ofNat RtmpAmf0Size.number
  | .boolean _ => Int32.ofNat RtmpAmf0Size.boolean
  | .string value => Int32.ofNat (RtmpAmf0Size.str value)
  | .null => Int32.ofNat RtmpAmf0Size.null
  | .undefined => Int32.ofNat RtmpAmf0Size.undefined
  | .date _ _ => Int32.ofNat RtmpAmf0Size.date
  | .objectEof => Int32.ofNat RtmpAmf0Size.objectEof
  | .object properties =>
      1 + propertiesTotalSize (Library.loopRounds properties.length) properties + Int32.ofNat RtmpAmf0Size.objectEof
  | .ecmaArray _ properties =>
      1 + 4 + propertiesTotalSize (Library.loopRounds properties.length) properties +
        Int32.ofNat RtmpAmf0Size.objectEof
  | .strictArray _ properties => 1 + 4 + elementsTotalSize (Library.loopRounds properties.length) properties

/-- What the loop over the properties of an object or an ECMA array adds. -/
def propertiesTotalSize : (rounds : Nat) -> List (List UInt8 × RtmpAmf0Any) -> Int32
  | 0, _ => 0
  | _ + 1, [] => 0
  | rounds + 1, (name, value) :: rest =>
      Int32.ofNat (RtmpAmf0Size.utf8 name) + value.totalSize + propertiesTotalSize rounds rest

/-- What the loop over the elements of a strict array adds. -/
def elementsTotalSize : (rounds : Nat) -> List RtmpAmf0Any -> Int32
  | 0, _ => 0
  | _ + 1, [] => 0
  | rounds + 1, value :: rest => value.totalSize + elementsTotalSize rounds rest

end

mutual

/-- The bytes that a value takes in the format, as a number without bound. -/
def RtmpAmf0Any.byteSize : RtmpAmf0Any -> Nat
  | .number _ => RtmpAmf0Size.number
  | .boolean _ => RtmpAmf0Size.boolean
  | .string value => RtmpAmf0Size.str value
  | .null => RtmpAmf0Size.null
  | .undefined => RtmpAmf0Size.undefined
  | .date _ _ => RtmpAmf0Size.date
  | .objectEof => RtmpAmf0Size.objectEof
  | .object properties => 1 + propertiesSize properties + RtmpAmf0Size.objectEof
  | .ecmaArray _ properties => 1 + 4 + propertiesSize properties + RtmpAmf0Size.objectEof
  | .strictArray _ properties => 1 + 4 + elementsSize properties

def propertiesSize : List (List UInt8 × RtmpAmf0Any) -> Nat
  | [] => 0
  | (name, value) :: rest => RtmpAmf0Size.utf8 name + value.byteSize + propertiesSize rest

def elementsSize : List RtmpAmf0Any -> Nat
  | [] => 0
  | value :: rest => value.byteSize + elementsSize rest

end

mutual

/-- `copy`, of every subclass.  A string is copied through `c_str`. -/
def RtmpAmf0Any.copy : RtmpAmf0Any -> RtmpAmf0Any
  | .string value => .string (Library.cStr value)
  | .object properties => .object (copyProperties properties [])
  | .ecmaArray count properties => .ecmaArray count (copyProperties properties [])
  | .strictArray count properties => .strictArray count (copyElements properties)
  | value => value

/-- `UnSortedHashtable::copy` into `table`. -/
def copyProperties : List (List UInt8 × RtmpAmf0Any) -> UnSortedHashtable RtmpAmf0Any ->
    UnSortedHashtable RtmpAmf0Any
  | [], table => table
  | (name, value) :: rest, table => copyProperties rest (table.set name (some value.copy))

/-- The loop over the elements of a strict array. -/
def copyElements : List RtmpAmf0Any -> List RtmpAmf0Any
  | [] => []
  | value :: rest => value.copy :: copyElements rest

end

/-- The values that the format can carry: names and strings whose length fits
a signed 16-bit number, distinct names in one object or ECMA array, strict
arrays that announce what they hold, for which a negative count is zero, and no
number whose first two bytes are `00 09`, which behind the marker `00` would read
as an end marker. -/
inductive RtmpAmf0Any.WellFormed : RtmpAmf0Any -> Prop where
  | number {value : UInt64} (notEof : value >>> 48 ≠ 0x0009) : WellFormed (.number value)
  | boolean (value : Bool) : WellFormed (.boolean value)
  | string {value : List UInt8} (fits : value.length ≤ 32767) : WellFormed (.string value)
  | null : WellFormed .null
  | undefined : WellFormed .undefined
  | date (value : Int64) (timeZone : Int16) : WellFormed (.date value timeZone)
  | objectEof : WellFormed .objectEof
  | object {properties : List (List UInt8 × RtmpAmf0Any)}
      (fit : forall property, property ∈ properties -> property.1.length ≤ 32767)
      (distinct : (UnSortedHashtable.keys properties).Nodup)
      (values : forall property, property ∈ properties -> property.2.WellFormed) :
      WellFormed (.object properties)
  | ecmaArray (count : Int32) {properties : List (List UInt8 × RtmpAmf0Any)}
      (fit : forall property, property ∈ properties -> property.1.length ≤ 32767)
      (distinct : (UnSortedHashtable.keys properties).Nodup)
      (values : forall property, property ∈ properties -> property.2.WellFormed) :
      WellFormed (.ecmaArray count properties)
  | strictArray {count : Int32} {properties : List RtmpAmf0Any}
      (announced : count.toInt.toNat = properties.length)
      (values : forall value, value ∈ properties -> value.WellFormed) :
      WellFormed (.strictArray count properties)

/-- The values that stand directly inside a container. -/
def RtmpAmf0Any.parts : RtmpAmf0Any -> List RtmpAmf0Any
  | .object properties => properties.map Prod.snd
  | .ecmaArray _ properties => properties.map Prod.snd
  | .strictArray _ properties => properties
  | _ => []

/-- Whatever is well formed holds nothing but well formed values. -/
theorem RtmpAmf0Any.WellFormed.inside {value : RtmpAmf0Any} (wellFormed : value.WellFormed) :
    forall part, part ∈ value.parts -> part.WellFormed := by
  intro part member
  cases wellFormed with
  | object _ _ values =>
      rcases List.mem_map.mp member with ⟨property, present, rfl⟩
      exact values property present
  | ecmaArray _ _ _ values =>
      rcases List.mem_map.mp member with ⟨property, present, rfl⟩
      exact values property present
  | strictArray _ values => exact values part member
  | _ => cases member

end Amf0
end RtmpClient
