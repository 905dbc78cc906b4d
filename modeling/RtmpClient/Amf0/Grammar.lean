import RtmpClient.Amf0.Bounds
import RtmpClient.Amf0.RoundTrip

namespace RtmpClient
namespace Amf0

open Library
open Net

/-!
# What the readers accept

The byte strings that begin with a value, as a grammar.  The rules follow the
readers where these are wider than the format: a string whose length is not
positive is empty, an object may end with the buffer, and a strict array may
have fewer elements than it announces.
-/

/-! ## The grammar -/

/-- The length in front of a string; one that is not positive is none. -/
def textLength (data : List UInt8) : Nat := (UInt16.ofNat (beValue (data.take 2))).toInt16.toInt.toNat

/-- The bytes begin with a length and as many bytes, `width` in all. -/
structure Text (data : List UInt8) (width : Nat) : Prop where
  announced : width = 2 + textLength data
  inside : width ≤ data.length

/-- The number of elements that a strict array announces. -/
def announcedElements (data : List UInt8) : Nat :=
  (UInt32.ofNat (beValue ((data.drop 1).take 4))).toInt32.toInt.toNat

/-- The width of a value of fixed width, with its marker. -/
def RtmpAmf0Any.scalarWidth : RtmpAmf0Any -> Option Nat
  | .number _ => some 9
  | .boolean _ => some 2
  | .null => some 1
  | .undefined => some 1
  | .date _ _ => some 11
  | .objectEof => some 3
  | _ => none

/-- What stands at a place: a value, the properties from there on, or so many
elements at most. -/
inductive Form where
  | value
  | properties
  | elements (most : Nat)

/-- The bytes begin with this, which takes `width` bytes. -/
inductive Begins : Form -> (data : List UInt8) -> (width : Nat) -> Prop where
  | scalar {data : List UInt8} {value : RtmpAmf0Any} {width : Nat}
      (found : RtmpAmf0Any.discovery data = .ok value) (fixed : value.scalarWidth = some width)
      (inside : width ≤ data.length) : Begins .value data width
  | string {data : List UInt8} {width : Nat} (found : RtmpAmf0Any.discovery data = .ok (.string []))
      (text : Text (data.drop 1) width) : Begins .value data (1 + width)
  | object {data : List UInt8} {width : Nat} (found : RtmpAmf0Any.discovery data = .ok (.object []))
      (properties : Begins .properties (data.drop 1) width) : Begins .value data (1 + width)
  | ecmaArray {data : List UInt8} {width : Nat} (found : RtmpAmf0Any.discovery data = .ok (.ecmaArray 0 []))
      (counted : 5 ≤ data.length) (properties : Begins .properties (data.drop 5) width) :
      Begins .value data (5 + width)
  | strictArray {data : List UInt8} {width : Nat} (found : RtmpAmf0Any.discovery data = .ok (.strictArray 0 []))
      (counted : 5 ≤ data.length) (elements : Begins (.elements (announcedElements data)) (data.drop 5) width) :
      Begins .value data (5 + width)
  | bufferEnd : Begins .properties [] 0
  | objectEnd {data : List UInt8} (isEof : rtmpAmf0IsObjectEof data = true) : Begins .properties data 3
  | property {data : List UInt8} {name width rest : Nat} (notEof : rtmpAmf0IsObjectEof data = false)
      (text : Text data name) (value : Begins .value (data.drop name) width)
      (others : Begins .properties (data.drop (name + width)) rest) : Begins .properties data (name + width + rest)
  | noElement (data : List UInt8) : Begins (.elements 0) data 0
  | elementsEnd (most : Nat) : Begins (.elements (most + 1)) [] 0
  | element {most : Nat} {data : List UInt8} {width rest : Nat} (value : Begins .value data width)
      (others : Begins (.elements most) (data.drop width) rest) : Begins (.elements (most + 1)) data (width + rest)

theorem Text.width_eq {data : List UInt8} {width other : Nat} (text : Text data width) (text' : Text data other) :
    width = other := text.announced.trans text'.announced.symm

theorem Text.not_nil {width : Nat} (text : Text [] width) : False := by
  have inside := text.inside
  rw [text.announced, List.length_nil] at inside
  omega

theorem discovery_nonempty {data : List UInt8} {value : RtmpAmf0Any}
    (found : RtmpAmf0Any.discovery data = .ok value) : 0 < data.length :=
  (discovery_returns data).of_ok found

theorem scalarWidth_pos {value : RtmpAmf0Any} {width : Nat} (fixed : value.scalarWidth = some width) : 1 ≤ width := by
  cases value <;> simp only [RtmpAmf0Any.scalarWidth, Option.some.injEq, reduceCtorEq] at fixed <;> omega

namespace Begins

variable {form : Form} {data : List UInt8} {width other : Nat}

theorem width_pos (begins : Begins .value data width) : 1 ≤ width := by
  cases begins with
  | scalar _ fixed _ => exact scalarWidth_pos fixed
  | string _ _ => exact Nat.le_add_right 1 _
  | object _ _ => exact Nat.le_add_right 1 _
  | ecmaArray _ _ _ => exact Nat.le_trans (by decide) (Nat.le_add_right 5 _)
  | strictArray _ _ _ => exact Nat.le_trans (by decide) (Nat.le_add_right 5 _)

theorem width_le (begins : Begins form data width) : width ≤ data.length := by
  induction begins with
  | scalar _ _ inside => exact inside
  | string found text =>
      have nonempty := discovery_nonempty found
      have inside := text.inside
      rw [List.length_drop] at inside
      omega
  | object found _ inductionHypothesis =>
      have nonempty := discovery_nonempty found
      rw [List.length_drop] at inductionHypothesis
      omega
  | ecmaArray _ counted _ inductionHypothesis =>
      rw [List.length_drop] at inductionHypothesis
      omega
  | strictArray _ counted _ inductionHypothesis =>
      rw [List.length_drop] at inductionHypothesis
      omega
  | bufferEnd => exact Nat.le_refl 0
  | @objectEnd data isEof =>
      rcases begins_of_isObjectEof isEof with ⟨rest, rfl⟩
      rw [List.length_append]
      exact Nat.le_add_right 3 rest.length
  | property _ text _ _ valueHypothesis othersHypothesis =>
      have inside := text.inside
      rw [List.length_drop] at valueHypothesis othersHypothesis
      omega
  | noElement data => exact Nat.zero_le _
  | elementsEnd most => exact Nat.le_refl 0
  | element _ _ valueHypothesis othersHypothesis =>
      rw [List.length_drop] at othersHypothesis
      omega

theorem ne_nil (begins : Begins .value data width) : data ≠ [] :=
  List.ne_nil_of_length_pos (Nat.le_trans begins.width_pos begins.width_le)

/-- Properties that begin with a name begin with a property. -/
theorem of_named {name : Nat} (begins : Begins .properties data width) (notEof : rtmpAmf0IsObjectEof data = false)
    (text : Text data name) : Exists fun value => Exists fun rest => width = name + value + rest ∧
      Begins .value (data.drop name) value ∧ Begins .properties (data.drop (name + value)) rest := by
  cases begins with
  | bufferEnd => exact text.not_nil.elim
  | objectEnd isEof => exact absurd (isEof.symm.trans notEof) Bool.noConfusion
  | property _ text' value others =>
      rcases text.width_eq text' with rfl
      exact ⟨_, _, rfl, value, others⟩

theorem of_more {most : Nat} (begins : Begins (.elements (most + 1)) data width) (nonempty : data ≠ []) :
    Exists fun value => Exists fun rest => width = value + rest ∧
      Begins .value data value ∧ Begins (.elements most) (data.drop value) rest := by
  cases begins with
  | elementsEnd _ => exact (nonempty rfl).elim
  | element value others => exact ⟨_, _, rfl, value, others⟩

end Begins

/-! ## Values by what discovery makes of them -/

/-- What has to stand behind the marker of an instance. -/
def Contents (data : List UInt8) (width : Nat) : RtmpAmf0Any -> Prop
  | .string _ => Exists fun text => width = 1 + text ∧ Text (data.drop 1) text
  | .object _ => Exists fun properties => width = 1 + properties ∧ Begins .properties (data.drop 1) properties
  | .ecmaArray _ _ =>
      5 ≤ data.length ∧ Exists fun properties => width = 5 + properties ∧ Begins .properties (data.drop 5) properties
  | .strictArray _ _ =>
      5 ≤ data.length ∧ Exists fun elements =>
        width = 5 + elements ∧ Begins (.elements (announcedElements data)) (data.drop 5) elements
  | value => value.scalarWidth = some width ∧ width ≤ data.length

theorem contents_fixed {data : List UInt8} {value : RtmpAmf0Any} {width other : Nat}
    (fixed : value.scalarWidth = some width) : Contents data other value ↔ width = other ∧ other ≤ data.length := by
  cases value with
  | string _ => cases fixed
  | object _ => cases fixed
  | ecmaArray _ _ => cases fixed
  | strictArray _ _ => cases fixed
  | _ =>
      rcases Option.some.inj fixed with rfl
      exact and_congr_left fun _ => Option.some_inj

theorem begins_iff {data : List UInt8} {value : RtmpAmf0Any} {width : Nat}
    (found : RtmpAmf0Any.discovery data = .ok value) : Begins .value data width ↔ Contents data width value := by
  have fresh := discovery_fresh found
  constructor
  · intro begins
    cases begins with
    | @scalar _ value' _ found' fixed inside =>
        rcases Outcome.ok.inj (found.symm.trans found') with rfl
        exact (contents_fixed fixed).mpr ⟨rfl, inside⟩
    | string found' text =>
        rcases Outcome.ok.inj (found.symm.trans found') with rfl
        exact ⟨_, rfl, text⟩
    | object found' properties =>
        rcases Outcome.ok.inj (found.symm.trans found') with rfl
        exact ⟨_, rfl, properties⟩
    | ecmaArray found' counted properties =>
        rcases Outcome.ok.inj (found.symm.trans found') with rfl
        exact ⟨counted, _, rfl, properties⟩
    | strictArray found' counted elements =>
        rcases Outcome.ok.inj (found.symm.trans found') with rfl
        exact ⟨counted, _, rfl, elements⟩
  · intro contents
    cases value with
    | string text =>
        rcases RtmpAmf0Any.string.inj fresh with rfl
        rcases contents with ⟨width, rfl, text⟩
        exact .string found text
    | object properties =>
        rcases RtmpAmf0Any.object.inj fresh with rfl
        rcases contents with ⟨width, rfl, properties⟩
        exact .object found properties
    | ecmaArray count properties =>
        rcases RtmpAmf0Any.ecmaArray.inj fresh with ⟨rfl, rfl⟩
        rcases contents with ⟨counted, width, rfl, properties⟩
        exact .ecmaArray found counted properties
    | strictArray count properties =>
        rcases RtmpAmf0Any.strictArray.inj fresh with ⟨rfl, rfl⟩
        rcases contents with ⟨counted, width, rfl, elements⟩
        exact .strictArray found counted elements
    | _ => exact .scalar found contents.1 contents.2

theorem Begins.discovered {data : List UInt8} {width : Nat} (begins : Begins .value data width) :
    Exists fun value => RtmpAmf0Any.discovery data = .ok value := by
  cases begins with
  | scalar found _ _ => exact ⟨_, found⟩
  | string found _ => exact ⟨_, found⟩
  | object found _ => exact ⟨_, found⟩
  | ecmaArray found _ _ => exact ⟨_, found⟩
  | strictArray found _ _ => exact ⟨_, found⟩

/-- The bytes decide where it ends. -/
theorem Begins.width_unique {form : Form} {data : List UInt8} {width other : Nat} (begins : Begins form data width)
    (begins' : Begins form data other) : width = other := by
  induction begins generalizing other with
  | @scalar data value width found fixed inside =>
      exact ((contents_fixed fixed).mp ((begins_iff found).mp begins')).1
  | string found text =>
      rcases (begins_iff found).mp begins' with ⟨width, rfl, text'⟩
      rw [text.width_eq text']
  | object found _ inductionHypothesis =>
      rcases (begins_iff found).mp begins' with ⟨width, rfl, properties⟩
      rw [inductionHypothesis properties]
  | ecmaArray found _ _ inductionHypothesis =>
      rcases (begins_iff found).mp begins' with ⟨_, width, rfl, properties⟩
      rw [inductionHypothesis properties]
  | strictArray found _ _ inductionHypothesis =>
      rcases (begins_iff found).mp begins' with ⟨_, width, rfl, elements⟩
      rw [inductionHypothesis elements]
  | bufferEnd =>
      exact (Nat.eq_zero_of_le_zero begins'.width_le).symm
  | objectEnd isEof =>
      cases begins' with
      | bufferEnd => cases isEof
      | objectEnd _ => rfl
      | property notEof _ _ _ => exact absurd (isEof.symm.trans notEof) Bool.noConfusion
  | property notEof text _ _ valueHypothesis othersHypothesis =>
      rcases begins'.of_named notEof text with ⟨width, rest, rfl, value', others'⟩
      rcases valueHypothesis value' with rfl
      rw [othersHypothesis others']
  | noElement data =>
      cases begins'
      rfl
  | elementsEnd most => exact (Nat.eq_zero_of_le_zero begins'.width_le).symm
  | element value _ valueHypothesis othersHypothesis =>
      rcases begins'.of_more value.ne_nil with ⟨width, rest, rfl, value', others'⟩
      rcases valueHypothesis value' with rfl
      rw [othersHypothesis others']

/-! ## The readers of scalars -/

theorem rawioNetdata_of_le {width offset : Nat} {data : List UInt8} (inside : offset + width ≤ data.length) :
    rawioNetdata width data offset = .ok (beValue ((data.drop offset).take width)) := by
  rw [rawioNetdata, Outcome.slice_of_le inside, Outcome.ok_bind_do]
  rfl

theorem readInt8_of_le {offset : Nat} {data : List UInt8} (inside : offset + 1 ≤ data.length) :
    Exists fun value => readInt8 data offset = .ok value := by
  rw [readInt8, rawioNetdata_of_le inside]
  exact ⟨_, rfl⟩

theorem readInt16_of_le {offset : Nat} {data : List UInt8} (inside : offset + 2 ≤ data.length) :
    readInt16 data offset = .ok (UInt16.ofNat (beValue ((data.drop offset).take 2))).toInt16 := by
  rw [readInt16, rawioNetdata_of_le inside]
  rfl

theorem readInt32_of_le {offset : Nat} {data : List UInt8} (inside : offset + 4 ≤ data.length) :
    readInt32 data offset = .ok (UInt32.ofNat (beValue ((data.drop offset).take 4))).toInt32 := by
  rw [readInt32, readUint32, rawioNetdata_of_le inside]
  rfl

theorem readInt64_of_le {offset : Nat} {data : List UInt8} (inside : offset + 8 ≤ data.length) :
    Exists fun value => readInt64 data offset = .ok value := by
  rw [readInt64, rawioNetdata_of_le inside]
  exact ⟨_, rfl⟩

theorem readUtf8_iff (held data : List UInt8) :
    (Exists fun width => Exists fun str => Text data width ∧ rtmpAmf0ReadUtf8 held data = .ok (width, str)) ∨
      (forall width, ¬ Text data width) ∧ (rtmpAmf0ReadUtf8 held data).Refused := by
  rw [rtmpAmf0ReadUtf8]
  by_cases short : data.length < 2
  · rw [if_pos short]
    refine Or.inr ⟨fun width text => ?_, Outcome.refused_error (by decide)⟩
    have inside := text.inside
    rw [text.announced] at inside
    omega
  · have enough : 0 + 2 ≤ data.length := by omega
    rw [if_neg short, readInt16_of_le enough, Outcome.ok_bind_do, List.drop_zero]
    have length : textLength data = (UInt16.ofNat (beValue (data.take 2))).toInt16.toInt.toNat := rfl
    by_cases empty : (UInt16.ofNat (beValue (data.take 2))).toInt16.toInt ≤ 0
    · rw [if_pos empty]
      have none : textLength data = 0 := length.trans (Int.toNat_of_nonpos empty)
      exact Or.inl ⟨2, held, ⟨by rw [none], by omega⟩, rfl⟩
    · rw [if_neg empty]
      by_cases long : (data.length : Int) - 2 < (UInt16.ofNat (beValue (data.take 2))).toInt16.toInt
      · rw [if_pos long]
        refine Or.inr ⟨fun width text => ?_, Outcome.refused_error (by decide)⟩
        have inside := text.inside
        rw [text.announced, length] at inside
        omega
      · have inside : 2 + (UInt16.ofNat (beValue (data.take 2))).toInt16.toInt.toNat ≤ data.length := by omega
        rw [if_neg long, Outcome.slice_of_le inside]
        exact Or.inl ⟨_, _, ⟨rfl, inside⟩, rfl⟩

/-- The reader takes the width, or there is less than that and it refuses. -/
def ReadsFixed {α : Type} (read : Reader UInt8 α) (data : List UInt8) (width : Nat) : Prop :=
  width ≤ data.length ∧ (Exists fun value => read data = .ok (width, value)) ∨
    data.length < width ∧ (read data).Refused

theorem ReadsFixed.map {α : Type} {read : Reader UInt8 α} {data : List UInt8} {width : Nat}
    (reads : ReadsFixed read data width) (make : α -> RtmpAmf0Any) :
    ReadsFixed (fun data => do
      let (ret, value) ← read data
      return (ret, make value)) data width := by
  rcases reads with ⟨enough, value, read⟩ | ⟨short, refused⟩
  · refine Or.inl ⟨enough, make value, ?_⟩
    simp only [read, Outcome.ok_bind_do, Outcome.pure_eq]
  · exact Or.inr ⟨short, refused.bind⟩

/-- Behind discovery the marker is the right one. -/
theorem markerCheck_fixed {α : Type} {width : Nat} {data : List UInt8} {expected : Int8} {code : Int}
    {body : Outcome (Nat × α)} (marked : readInt8 data 0 = .ok expected)
    (reads : width ≤ data.length -> Exists fun value => body = .ok (width, value)) :
    ReadsFixed (fun data => if data.length < width then .error (-1)
      else do
        let marker ← readInt8 data 0
        if marker ≠ expected then .error code else body) data width := by
  by_cases short : data.length < width
  · exact Or.inr ⟨short, Outcome.refused_of_short short⟩
  · have enough := Nat.le_of_not_lt short
    have same : ¬ expected ≠ expected := fun different => different rfl
    rcases reads enough with ⟨value, read⟩
    refine Or.inl ⟨enough, value, ?_⟩
    simp only [short, if_false, marked, Outcome.ok_bind_do, same, read]

theorem readObjectEof_eq {data : List UInt8} (isEof : rtmpAmf0IsObjectEof data = true) :
    RtmpAmf0ObjectEof.read data = .ok (3, ()) := by
  rcases begins_of_isObjectEof isEof with ⟨rest, rfl⟩
  exact readObjectEof_recovers rest

/-- A string in front of which discovery has left everything to its reader. -/
theorem string_read (readAny : Reader UInt8 RtmpAmf0Any) {data : List UInt8}
    (found : RtmpAmf0Any.discovery data = .ok (.string [])) :
    (Exists fun width => Exists fun value => Text (data.drop 1) width ∧
        (RtmpAmf0Any.string []).read readAny data = .ok (1 + width, value)) ∨
      (forall width, ¬ Text (data.drop 1) width) ∧ ((RtmpAmf0Any.string []).read readAny data).Refused := by
  have nonempty : ¬ data.length < 1 := Nat.not_lt.mpr (discovery_nonempty found)
  rcases discovery_found found with ⟨impossible, _⟩ | ⟨_, marker, marked, made⟩
  · cases impossible
  · rw [made.kind] at marked
    have same : ¬ (RtmpAmf0Any.string []).typeMarker ≠ rtmpAmf0String := fun different => different rfl
    have behind : rtmpAmf0ReadString [] data =
        rtmpAmf0ReadUtf8 [] (data.drop 1) >>= fun found => .ok (1 + found.1, found.2) := by
      rw [rtmpAmf0ReadString, if_neg nonempty, marked, Outcome.ok_bind_do, if_neg same]
      rfl
    rw [RtmpAmf0Any.read, behind]
    rcases readUtf8_iff [] (data.drop 1) with ⟨width, str, text, found⟩ | ⟨none, refused⟩
    · rw [found]
      exact Or.inl ⟨width, .string str, text, rfl⟩
    · exact Or.inr ⟨none, refused.bind.bind⟩

/-- A value of fixed width. -/
theorem scalar_read (readAny : Reader UInt8 RtmpAmf0Any) {data : List UInt8} {value : RtmpAmf0Any} {width : Nat}
    (found : RtmpAmf0Any.discovery data = .ok value) (fixed : value.scalarWidth = some width) :
    ReadsFixed (value.read readAny) data width := by
  rcases discovery_found found with ⟨rfl, isEof⟩ | ⟨_, marker, marked, made⟩
  · rcases Option.some.inj fixed with rfl
    have inside : 3 ≤ data.length := (Begins.objectEnd isEof).width_le
    exact ReadsFixed.map (Or.inl ⟨inside, (), readObjectEof_eq isEof⟩) fun _ => .objectEof
  · rw [made.kind] at marked
    cases value with
    | number _ =>
        rcases Option.some.inj fixed with rfl
        refine ReadsFixed.map (markerCheck_fixed marked fun enough => ?_) RtmpAmf0Any.number
        rcases readInt64_of_le (show 1 + 8 ≤ data.length from enough) with ⟨bits, read⟩
        rw [read]
        exact ⟨_, rfl⟩
    | boolean _ =>
        rcases Option.some.inj fixed with rfl
        refine ReadsFixed.map (markerCheck_fixed marked fun enough => ?_) RtmpAmf0Any.boolean
        rcases readInt8_of_le (show 1 + 1 ≤ data.length from enough) with ⟨flag, read⟩
        rw [read]
        exact ⟨_, rfl⟩
    | null =>
        rcases Option.some.inj fixed with rfl
        exact ReadsFixed.map (markerCheck_fixed marked fun _ => ⟨(), rfl⟩) fun _ => RtmpAmf0Any.null
    | undefined =>
        rcases Option.some.inj fixed with rfl
        exact ReadsFixed.map (markerCheck_fixed marked fun _ => ⟨(), rfl⟩) fun _ => RtmpAmf0Any.undefined
    | date _ _ =>
        rcases Option.some.inj fixed with rfl
        refine ReadsFixed.map (markerCheck_fixed marked fun enough => ?_) fun parts : Int64 × Int16 =>
          RtmpAmf0Any.date parts.1 parts.2
        rcases readInt64_of_le (show 1 + 8 ≤ data.length from Nat.le_trans (by decide) enough) with ⟨time, read⟩
        rw [read, readInt16_of_le (show 9 + 2 ≤ data.length from enough)]
        exact ⟨_, rfl⟩
    | objectEof => exact absurd rfl made.notEof
    | string _ => cases fixed
    | object _ => cases fixed
    | ecmaArray _ _ => cases fixed
    | strictArray _ _ => cases fixed

theorem discovery_marked {data : List UInt8} {value : RtmpAmf0Any} (found : RtmpAmf0Any.discovery data = .ok value)
    (notEof : value ≠ .objectEof) : readInt8 data 0 = .ok value.typeMarker := by
  rcases discovery_found found with ⟨isEof, _⟩ | ⟨_, marker, marked, made⟩
  · exact absurd isEof notEof
  · rw [marked, made.kind]

/-! ## Where a read fails -/

/-- Discovery makes an instance, and the instance cannot be read. -/
def Broken (data : List UInt8) : Prop :=
  (Exists fun value => RtmpAmf0Any.discovery data = .ok value) ∧ forall width, ¬ Begins .value data width

/-- The loop over properties or elements comes to a value at this place: all
values in front of it are complete. -/
inductive ValueAt : Form -> (data place : List UInt8) -> Prop where
  | property {data : List UInt8} {name : Nat} (notEof : rtmpAmf0IsObjectEof data = false) (text : Text data name) :
      ValueAt .properties data (data.drop name)
  | laterProperty {data place : List UInt8} {name width : Nat} (notEof : rtmpAmf0IsObjectEof data = false)
      (text : Text data name) (value : Begins .value (data.drop name) width)
      (others : ValueAt .properties (data.drop (name + width)) place) : ValueAt .properties data place
  | element {most : Nat} {data : List UInt8} (nonempty : data ≠ []) : ValueAt (.elements (most + 1)) data data
  | laterElement {most : Nat} {data place : List UInt8} {width : Nat} (value : Begins .value data width)
      (others : ValueAt (.elements most) (data.drop width) place) : ValueAt (.elements (most + 1)) data place

/-- Somewhere on the way to the value that breaks off there is an object whose
property is, or contains, this value. -/
inductive Spoiled : List UInt8 -> Prop where
  | object {data place : List UInt8} (found : RtmpAmf0Any.discovery data = .ok (.object []))
      (inside : ValueAt .properties (data.drop 1) place) (broken : Broken place) : Spoiled data
  | ecmaArray {data place : List UInt8} (found : RtmpAmf0Any.discovery data = .ok (.ecmaArray 0 []))
      (counted : 5 ≤ data.length) (inside : ValueAt .properties (data.drop 5) place) (spoiled : Spoiled place) :
      Spoiled data
  | strictArray {data place : List UInt8} (found : RtmpAmf0Any.discovery data = .ok (.strictArray 0 []))
      (counted : 5 ≤ data.length) (inside : ValueAt (.elements (announcedElements data)) (data.drop 5) place)
      (spoiled : Spoiled place) : Spoiled data

/-- What contains a value that is not complete is not complete. -/
theorem ValueAt.breaks {form : Form} {data place : List UInt8} (inside : ValueAt form data place)
    (breaks : forall width, ¬ Begins .value place width) (width : Nat) : ¬ Begins form data width := by
  intro begins
  induction inside generalizing width with
  | property notEof text =>
      rcases begins.of_named notEof text with ⟨_, _, _, value, _⟩
      exact breaks _ value
  | laterProperty notEof text value _ inductionHypothesis =>
      rcases begins.of_named notEof text with ⟨_, _, _, value', others⟩
      rcases value.width_unique value' with rfl
      exact inductionHypothesis breaks _ others
  | element nonempty =>
      rcases begins.of_more nonempty with ⟨_, _, _, value, _⟩
      exact breaks _ value
  | laterElement value _ inductionHypothesis =>
      rcases begins.of_more value.ne_nil with ⟨_, _, _, value', others⟩
      rcases value.width_unique value' with rfl
      exact inductionHypothesis breaks _ others

/-- The first property is the place, or the place is among the others. -/
theorem ValueAt.of_named {data place : List UInt8} {name : Nat} (inside : ValueAt .properties data place)
    (text : Text data name) : place = data.drop name ∨ Exists fun width =>
      Begins .value (data.drop name) width ∧ ValueAt .properties (data.drop (name + width)) place := by
  cases inside with
  | property _ text' =>
      rcases text.width_eq text' with rfl
      exact Or.inl rfl
  | laterProperty _ text' value others =>
      rcases text.width_eq text' with rfl
      exact Or.inr ⟨_, value, others⟩

theorem Spoiled.broken {data : List UInt8} (spoiled : Spoiled data) : Broken data := by
  induction spoiled with
  | object found inside broken =>
      refine ⟨⟨_, found⟩, fun width begins => ?_⟩
      rcases (begins_iff found).mp begins with ⟨width, rfl, properties⟩
      exact inside.breaks broken.2 _ properties
  | ecmaArray found counted inside _ inductionHypothesis =>
      refine ⟨⟨_, found⟩, fun width begins => ?_⟩
      rcases (begins_iff found).mp begins with ⟨_, width, rfl, properties⟩
      exact inside.breaks inductionHypothesis.2 _ properties
  | strictArray found counted inside _ inductionHypothesis =>
      refine ⟨⟨_, found⟩, fun width begins => ?_⟩
      rcases (begins_iff found).mp begins with ⟨_, width, rfl, elements⟩
      exact inside.breaks inductionHypothesis.2 _ elements

/-- Which values are spoiled, by what discovery makes of them. -/
def Spoils (data : List UInt8) : RtmpAmf0Any -> Prop
  | .object _ => Exists fun place => ValueAt .properties (data.drop 1) place ∧ Broken place
  | .ecmaArray _ _ => 5 ≤ data.length ∧ Exists fun place => ValueAt .properties (data.drop 5) place ∧ Spoiled place
  | .strictArray _ _ =>
      5 ≤ data.length ∧ Exists fun place =>
        ValueAt (.elements (announcedElements data)) (data.drop 5) place ∧ Spoiled place
  | _ => False

theorem spoiled_iff {data : List UInt8} {value : RtmpAmf0Any} (found : RtmpAmf0Any.discovery data = .ok value) :
    Spoiled data ↔ Spoils data value := by
  have fresh := discovery_fresh found
  constructor
  · intro spoiled
    cases spoiled with
    | object found' inside broken =>
        rcases Outcome.ok.inj (found.symm.trans found') with rfl
        exact ⟨_, inside, broken⟩
    | ecmaArray found' counted inside spoiled =>
        rcases Outcome.ok.inj (found.symm.trans found') with rfl
        exact ⟨counted, _, inside, spoiled⟩
    | strictArray found' counted inside spoiled =>
        rcases Outcome.ok.inj (found.symm.trans found') with rfl
        exact ⟨counted, _, inside, spoiled⟩
  · intro spoils
    cases value with
    | object properties =>
        rcases RtmpAmf0Any.object.inj fresh with rfl
        rcases spoils with ⟨place, inside, broken⟩
        exact .object found inside broken
    | ecmaArray count properties =>
        rcases RtmpAmf0Any.ecmaArray.inj fresh with ⟨rfl, rfl⟩
        rcases spoils with ⟨counted, place, inside, spoiled⟩
        exact .ecmaArray found counted inside spoiled
    | strictArray count properties =>
        rcases RtmpAmf0Any.strictArray.inj fresh with ⟨rfl, rfl⟩
        rcases spoils with ⟨counted, place, inside, spoiled⟩
        exact .strictArray found counted inside spoiled
    | _ => exact spoils.elim

end Amf0
end RtmpClient
