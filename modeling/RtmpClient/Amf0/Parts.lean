import RtmpClient.Amf0.RoundTrip

namespace RtmpClient
namespace Amf0

open Library
open Net

/-!
# Conditions on the parts of a value

What holds of a value and of everything inside it.  The three conditions that
make a value well formed play different parts: writing needs the lengths,
reading back needs all three, and what was read always satisfies the last.
-/

/-- `holds` of a value and of every value inside it. -/
inductive RtmpAmf0Any.Throughout (holds : RtmpAmf0Any -> Prop) : RtmpAmf0Any -> Prop where
  | intro {value : RtmpAmf0Any} (here : holds value)
      (inside : forall part, part ∈ value.parts -> part.Throughout holds) : value.Throughout holds

/-- A table of short and distinct names. -/
def UnSortedHashtable.Regular (table : UnSortedHashtable RtmpAmf0Any) : Prop :=
  (forall property, property ∈ table -> property.1.length ≤ 32767) ∧ table.keys.Nodup

namespace RtmpAmf0Any

/-- Strings and names whose length fits a signed 16-bit number. -/
def ShortHere : RtmpAmf0Any -> Prop
  | .string value => value.length ≤ 32767
  | .object properties => forall property, property ∈ properties -> property.1.length ≤ 32767
  | .ecmaArray _ properties => forall property, property ∈ properties -> property.1.length ≤ 32767
  | _ => True

/-- What `set` and `append` keep: distinct names, and strict arrays that
announce what they hold. -/
def BuiltHere : RtmpAmf0Any -> Prop
  | .object properties => (UnSortedHashtable.keys properties).Nodup
  | .ecmaArray _ properties => (UnSortedHashtable.keys properties).Nodup
  | .strictArray count properties => count.toInt.toNat = properties.length
  | _ => True

/-- A number that does not look like an end marker. -/
def LegibleHere : RtmpAmf0Any -> Prop
  | .number value => value >>> 48 ≠ 0x0009
  | _ => True

/-- What reading guarantees, whatever the bytes: lengths that fit, distinct
names, and numbers that discovery did not take for an end marker. -/
def RegularHere : RtmpAmf0Any -> Prop
  | .number value => value >>> 48 ≠ 0x0009
  | .string value => value.length ≤ 32767
  | .object properties => UnSortedHashtable.Regular properties
  | .ecmaArray _ properties => UnSortedHashtable.Regular properties
  | _ => True

/-- A strict array holds as many elements as it announces. -/
def AnnouncedHere : RtmpAmf0Any -> Prop
  | .strictArray count properties => count.toInt.toNat = properties.length
  | _ => True

abbrev Short (value : RtmpAmf0Any) : Prop := value.Throughout ShortHere

abbrev Built (value : RtmpAmf0Any) : Prop := value.Throughout BuiltHere

abbrev Legible (value : RtmpAmf0Any) : Prop := value.Throughout LegibleHere

abbrev Regular (value : RtmpAmf0Any) : Prop := value.Throughout RegularHere

abbrev Announced (value : RtmpAmf0Any) : Prop := value.Throughout AnnouncedHere

namespace Throughout

variable {value : RtmpAmf0Any} {holds holds' : RtmpAmf0Any -> Prop}

theorem here (throughout : value.Throughout holds) : holds value := by
  cases throughout with
  | intro here _ => exact here

theorem inside (throughout : value.Throughout holds) :
    forall part, part ∈ value.parts -> part.Throughout holds := by
  cases throughout with
  | intro _ inside => exact inside

theorem mono (throughout : value.Throughout holds) (weaker : forall value, holds value -> holds' value) :
    value.Throughout holds' := by
  induction throughout with
  | intro here _ inductionHypothesis => exact .intro (weaker _ here) inductionHypothesis

/-- A value without parts. -/
theorem leaf (here : holds value) (none : value.parts = []) : value.Throughout holds := by
  refine .intro here fun part member => ?_
  rw [none] at member
  cases member

/-- From the table of a container to its parts. -/
theorem to_map {properties : List (List UInt8 × RtmpAmf0Any)}
    (each : forall property, property ∈ properties -> property.2.Throughout holds) :
    forall part, part ∈ properties.map Prod.snd -> part.Throughout holds := by
  intro part member
  rcases List.mem_map.mp member with ⟨property, present, rfl⟩
  exact each property present

end Throughout

theorem Regular.short {value : RtmpAmf0Any} (regular : value.Regular) : value.Short :=
  regular.mono fun value here => by
    cases value with
    | string value => exact here
    | object properties => exact here.1
    | ecmaArray count properties => exact here.1
    | _ => trivial

theorem Regular.legible {value : RtmpAmf0Any} (regular : value.Regular) : value.Legible :=
  regular.mono fun value here => by
    cases value with
    | number value => exact here
    | _ => trivial

theorem Regular.built {value : RtmpAmf0Any} (regular : value.Regular) (announced : value.Announced) : value.Built := by
  induction regular with
  | @intro value here _ inductionHypothesis =>
      refine .intro ?_ fun part member => inductionHypothesis part member (announced.inside part member)
      cases value with
      | object properties => exact here.2
      | ecmaArray count properties => exact here.2
      | strictArray count properties => exact announced.here
      | _ => trivial

/-- A value is well formed exactly if all three conditions hold throughout. -/
theorem wellFormed_iff {value : RtmpAmf0Any} :
    value.WellFormed ↔ value.Short ∧ value.Built ∧ value.Legible := by
  constructor
  · intro wellFormed
    induction wellFormed with
    | number notEof => exact ⟨.leaf trivial rfl, .leaf trivial rfl, .leaf notEof rfl⟩
    | string fits => exact ⟨.leaf fits rfl, .leaf trivial rfl, .leaf trivial rfl⟩
    | object fit distinct _ inductionHypothesis =>
        exact ⟨.intro fit (.to_map fun property member => (inductionHypothesis property member).1),
          .intro distinct (.to_map fun property member => (inductionHypothesis property member).2.1),
          .intro trivial (.to_map fun property member => (inductionHypothesis property member).2.2)⟩
    | ecmaArray count fit distinct _ inductionHypothesis =>
        exact ⟨.intro fit (.to_map fun property member => (inductionHypothesis property member).1),
          .intro distinct (.to_map fun property member => (inductionHypothesis property member).2.1),
          .intro trivial (.to_map fun property member => (inductionHypothesis property member).2.2)⟩
    | strictArray announced _ inductionHypothesis =>
        exact ⟨.intro trivial fun part member => (inductionHypothesis part member).1,
          .intro announced fun part member => (inductionHypothesis part member).2.1,
          .intro trivial fun part member => (inductionHypothesis part member).2.2⟩
    | _ => exact ⟨.leaf trivial rfl, .leaf trivial rfl, .leaf trivial rfl⟩
  · rintro ⟨short, built, legible⟩
    induction short with
    | @intro value fits _ inductionHypothesis =>
        have parts : forall part, part ∈ value.parts -> part.WellFormed := fun part member =>
          inductionHypothesis part member (built.inside part member) (legible.inside part member)
        cases value with
        | number value => exact .number legible.here
        | boolean value => exact .boolean value
        | string value => exact .string fits
        | null => exact .null
        | undefined => exact .undefined
        | date value timeZone => exact .date value timeZone
        | objectEof => exact .objectEof
        | object properties =>
            exact .object fits built.here fun property member =>
              parts property.2 (List.mem_map_of_mem member)
        | ecmaArray count properties =>
            exact .ecmaArray count fits built.here fun property member =>
              parts property.2 (List.mem_map_of_mem member)
        | strictArray count properties => exact .strictArray built.here parts

end RtmpAmf0Any

end Amf0
end RtmpClient
