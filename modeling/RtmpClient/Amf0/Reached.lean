import RtmpClient.Amf0.Parts

namespace RtmpClient
namespace Amf0

open Library
open Net

/-!
# What the loops of `write` and `total_size` get to

The loops over items go up to `(int)properties.size()`.  Of a container with
2^31 items or more they get to some or none.  What they do get to is a value of
its own, which is written as the value is, and of which nothing is left out; it
is the value itself unless a container in it is that large.
-/

namespace RtmpAmf0Any

theorem byteSize_part_lt {value part : RtmpAmf0Any} (member : part ∈ value.parts) : part.byteSize < value.byteSize := by
  have shorter := part_length_lt member
  rwa [part.encoding_length, value.encoding_length] at shorter

/-- What holds of a value if it holds of its parts holds of every value. -/
theorem byParts {holds : RtmpAmf0Any -> Prop}
    (step : forall value : RtmpAmf0Any, (forall part, part ∈ value.parts -> holds part) -> holds value)
    (value : RtmpAmf0Any) : holds value := by
  generalize size : value.byteSize = most
  induction most using Nat.strong_induction_on generalizing value with
  | h most inductionHypothesis =>
      refine step value fun part member => inductionHypothesis part.byteSize ?_ part rfl
      rw [← size]
      exact byteSize_part_lt member

/-- A loop gets to every item. -/
def CountedHere (value : RtmpAmf0Any) : Prop := value.parts.length < 2 ^ 31

/-- The loops get to every item of every container. -/
abbrev Counted (value : RtmpAmf0Any) : Prop := value.Throughout CountedHere

theorem length_le_elementsSize (properties : List RtmpAmf0Any) : properties.length ≤ elementsSize properties := by
  have count := length_le_flatMap encoding properties fun value _ => encoding_pos value
  rwa [← elementsEncoding_eq_flatMap, elementsEncoding_length] at count

theorem parts_length_le (value : RtmpAmf0Any) : value.parts.length ≤ value.byteSize := by
  cases value with
  | object properties =>
      have count := length_le_propertiesSize properties
      rw [parts, byteSize, List.length_map]
      omega
  | ecmaArray _ properties =>
      have count := length_le_propertiesSize properties
      rw [parts, byteSize, List.length_map]
      omega
  | strictArray _ properties =>
      have count := length_le_elementsSize properties
      rw [parts, byteSize]
      omega
  | _ => exact Nat.zero_le _

/-- A size below 2^31 leaves no room for so many items. -/
theorem counted_of_byteSize {value : RtmpAmf0Any} (inInt : value.byteSize < 2 ^ 31) : value.Counted := by
  induction value using byParts with
  | step value inductionHypothesis =>
      refine .intro (Nat.lt_of_le_of_lt value.parts_length_le inInt) fun part member => ?_
      exact inductionHypothesis part member (Nat.lt_trans (byteSize_part_lt member) inInt)

end RtmpAmf0Any

open RtmpAmf0Any

/-! ## What is reached -/

mutual

/-- The value without the items that the loops do not get to. -/
def RtmpAmf0Any.reached : RtmpAmf0Any -> RtmpAmf0Any
  | .object properties => .object (reachedProperties (loopRounds properties.length) properties)
  | .ecmaArray count properties => .ecmaArray count (reachedProperties (loopRounds properties.length) properties)
  | .strictArray count properties => .strictArray count (reachedElements (loopRounds properties.length) properties)
  | value => value

def reachedProperties : (rounds : Nat) -> List (List UInt8 × RtmpAmf0Any) -> List (List UInt8 × RtmpAmf0Any)
  | 0, _ => []
  | _ + 1, [] => []
  | rounds + 1, (name, value) :: rest => (name, value.reached) :: reachedProperties rounds rest

def reachedElements : (rounds : Nat) -> List RtmpAmf0Any -> List RtmpAmf0Any
  | 0, _ => []
  | _ + 1, [] => []
  | rounds + 1, value :: rest => value.reached :: reachedElements rounds rest

end

theorem reachedProperties_eq (rounds : Nat) (properties : List (List UInt8 × RtmpAmf0Any)) :
    reachedProperties rounds properties =
      (properties.take rounds).map fun property => (property.1, property.2.reached) := by
  induction properties generalizing rounds with
  | nil =>
      cases rounds with
      | zero => rfl
      | succ rounds => rfl
  | cons property properties inductionHypothesis =>
      cases rounds with
      | zero => rfl
      | succ rounds => rw [reachedProperties, inductionHypothesis, List.take_succ_cons, List.map_cons]

theorem reachedElements_eq (rounds : Nat) (properties : List RtmpAmf0Any) :
    reachedElements rounds properties = (properties.take rounds).map reached := by
  induction properties generalizing rounds with
  | nil =>
      cases rounds with
      | zero => rfl
      | succ rounds => rfl
  | cons value properties inductionHypothesis =>
      cases rounds with
      | zero => rfl
      | succ rounds => rw [reachedElements, inductionHypothesis, List.take_succ_cons, List.map_cons]

theorem parts_reached (value : RtmpAmf0Any) :
    value.reached.parts = (value.parts.take (loopRounds value.parts.length)).map reached := by
  cases value with
  | object properties =>
      rw [reached, parts, parts, reachedProperties_eq, List.length_map, ← List.map_take, List.map_map, List.map_map]
      rfl
  | ecmaArray _ properties =>
      rw [reached, parts, parts, reachedProperties_eq, List.length_map, ← List.map_take, List.map_map, List.map_map]
      rfl
  | strictArray _ properties => rw [reached, parts, parts, reachedElements_eq]
  | _ => rfl

theorem parts_reached_length (value : RtmpAmf0Any) :
    value.reached.parts.length = loopRounds value.parts.length := by
  rw [parts_reached, List.length_map, List.length_take]
  exact Nat.min_eq_left (loopRounds_le _).1

namespace RtmpAmf0Any

theorem counted_reached (value : RtmpAmf0Any) : value.reached.Counted := by
  induction value using byParts with
  | step value inductionHypothesis =>
      refine .intro ?_ fun part member => ?_
      · rw [CountedHere, parts_reached_length]
        exact (loopRounds_le _).2
      · rw [parts_reached] at member
        rcases List.mem_map.mp member with ⟨part, taken, rfl⟩
        exact inductionHypothesis part (List.mem_of_mem_take taken)

/-- A condition that a container keeps when items are taken away. -/
theorem Throughout.reached {value : RtmpAmf0Any} {holds : RtmpAmf0Any -> Prop} (throughout : value.Throughout holds)
    (keeps : forall value : RtmpAmf0Any, holds value -> holds value.reached) : value.reached.Throughout holds := by
  induction throughout with
  | @intro value here _ inductionHypothesis =>
      refine .intro (keeps value here) fun part member => ?_
      rw [parts_reached] at member
      rcases List.mem_map.mp member with ⟨part, taken, rfl⟩
      exact inductionHypothesis part (List.mem_of_mem_take taken)

/-- Fewer names are reached, and none another one. -/
theorem keys_reachedProperties (rounds : Nat) (properties : UnSortedHashtable RtmpAmf0Any) :
    UnSortedHashtable.keys (reachedProperties rounds properties) = (UnSortedHashtable.keys properties).take rounds := by
  rw [UnSortedHashtable.keys, UnSortedHashtable.keys, reachedProperties_eq, List.map_map, ← List.map_take]
  rfl

theorem Short.reached {value : RtmpAmf0Any} (short : value.Short) : value.reached.Short := by
  have fewer {rounds : Nat} {properties : UnSortedHashtable RtmpAmf0Any}
      (fit : forall property, property ∈ properties -> property.1.length ≤ 32767) :
      forall property, property ∈ reachedProperties rounds properties -> property.1.length ≤ 32767 := by
    intro property member
    rw [reachedProperties_eq] at member
    rcases List.mem_map.mp member with ⟨property, taken, rfl⟩
    exact fit property (List.mem_of_mem_take taken)
  refine Throughout.reached short fun value here => ?_
  cases value with
  | object properties => exact fewer here
  | ecmaArray count properties => exact fewer here
  | _ => exact here

theorem Legible.reached {value : RtmpAmf0Any} (legible : value.Legible) : value.reached.Legible :=
  Throughout.reached legible fun value here => by
    cases value with
    | number value => exact here
    | _ => trivial

/-- A strict array cannot announce more than its loop gets to. -/
theorem Built.reached {value : RtmpAmf0Any} (built : value.Built) : value.reached.Built :=
  Throughout.reached built fun value here => by
    have fewer {rounds : Nat} {properties : UnSortedHashtable RtmpAmf0Any}
        (distinct : (UnSortedHashtable.keys properties).Nodup) :
        (UnSortedHashtable.keys (reachedProperties rounds properties)).Nodup := by
      rw [keys_reachedProperties]
      exact distinct.sublist (List.take_sublist _ _)
    cases value with
    | object properties => exact fewer here
    | ecmaArray count properties => exact fewer here
    | strictArray count properties =>
        have announced : count.toInt.toNat = properties.length := here
        have small := count.toInt_lt
        have all : loopRounds properties.length = properties.length := loopRounds_of_lt (by omega)
        show count.toInt.toNat = (reachedElements (loopRounds properties.length) properties).length
        rw [reachedElements_eq, all, List.take_length, List.length_map, announced]
    | _ => trivial

theorem WellFormed.reached {value : RtmpAmf0Any} (wellFormed : value.WellFormed) : value.reached.WellFormed := by
  rcases wellFormed_iff.mp wellFormed with ⟨short, built, legible⟩
  exact wellFormed_iff.mpr ⟨Short.reached short, Built.reached built, Legible.reached legible⟩

/-- Where the loops get to everything, nothing is left out. -/
theorem Counted.reached_eq {value : RtmpAmf0Any} (counted : value.Counted) : value.reached = value := by
  induction counted with
  | @intro value few _ inductionHypothesis =>
      have table {properties : UnSortedHashtable RtmpAmf0Any} (few : (properties.map Prod.snd).length < 2 ^ 31)
          (same : forall part, part ∈ properties.map Prod.snd -> part.reached = part) :
          reachedProperties (loopRounds properties.length) properties = properties := by
        rw [List.length_map] at few
        have each : forall property, property ∈ properties -> (property.1, property.2.reached) = id property := by
          intro property member
          rw [same property.2 (List.mem_map_of_mem member)]
          rfl
        rw [loopRounds_of_lt few, reachedProperties_eq, List.take_length, List.map_congr_left each, List.map_id]
      cases value with
      | object properties => rw [RtmpAmf0Any.reached, table few inductionHypothesis]
      | ecmaArray count properties => rw [RtmpAmf0Any.reached, table few inductionHypothesis]
      | strictArray count properties =>
          have each : forall part, part ∈ properties -> part.reached = id part := inductionHypothesis
          have small : properties.length < 2 ^ 31 := few
          rw [RtmpAmf0Any.reached, loopRounds_of_lt small, reachedElements_eq, List.take_length,
            List.map_congr_left each, List.map_id]
      | _ => rfl

end RtmpAmf0Any

/-! ## Its size -/

theorem propertiesSize_reached {rounds : Nat} {properties : List (List UInt8 × RtmpAmf0Any)}
    (less : forall part, part ∈ properties.map Prod.snd -> part.reached.byteSize ≤ part.byteSize) :
    propertiesSize (reachedProperties rounds properties) ≤ propertiesSize properties := by
  induction properties generalizing rounds with
  | nil =>
      cases rounds with
      | zero => exact Nat.le_refl _
      | succ rounds => exact Nat.le_refl _
  | cons property properties inductionHypothesis =>
      cases rounds with
      | zero => exact Nat.zero_le _
      | succ rounds =>
          have first := less property.2 List.mem_cons_self
          have others := @inductionHypothesis rounds fun part member => less part (List.mem_cons_of_mem _ member)
          rw [reachedProperties, propertiesSize, propertiesSize]
          omega

theorem elementsSize_reached {rounds : Nat} {properties : List RtmpAmf0Any}
    (less : forall part, part ∈ properties -> part.reached.byteSize ≤ part.byteSize) :
    elementsSize (reachedElements rounds properties) ≤ elementsSize properties := by
  induction properties generalizing rounds with
  | nil =>
      cases rounds with
      | zero => exact Nat.le_refl _
      | succ rounds => exact Nat.le_refl _
  | cons value properties inductionHypothesis =>
      cases rounds with
      | zero => exact Nat.zero_le _
      | succ rounds =>
          have first := less value List.mem_cons_self
          have others := @inductionHypothesis rounds fun part member => less part (List.mem_cons_of_mem _ member)
          rw [reachedElements, elementsSize, elementsSize]
          omega

theorem RtmpAmf0Any.byteSize_reached (value : RtmpAmf0Any) : value.reached.byteSize ≤ value.byteSize := by
  induction value using byParts with
  | step value inductionHypothesis =>
      cases value with
      | object properties =>
          have less := @propertiesSize_reached (loopRounds properties.length) properties inductionHypothesis
          rw [reached, byteSize, byteSize]
          omega
      | ecmaArray count properties =>
          have less := @propertiesSize_reached (loopRounds properties.length) properties inductionHypothesis
          rw [reached, byteSize, byteSize]
          omega
      | strictArray count properties =>
          have less := @elementsSize_reached (loopRounds properties.length) properties inductionHypothesis
          rw [reached, byteSize, byteSize]
          omega
      | _ => exact Nat.le_refl _

/-! ## It is written as the value is -/

theorem loopRounds_take {α β : Type} (items : List α) (change : α -> β) :
    loopRounds ((items.take (loopRounds items.length)).map change).length = loopRounds items.length := by
  have most := loopRounds_le items.length
  rw [List.length_map, List.length_take, Nat.min_eq_left most.1]
  exact loopRounds_of_lt most.2

theorem writeProperties_reached {rounds : Nat} {properties : List (List UInt8 × RtmpAmf0Any)}
    (same : forall part, part ∈ properties.map Prod.snd -> part.reached.write = part.write) :
    writeProperties rounds (reachedProperties rounds properties) = writeProperties rounds properties := by
  induction properties generalizing rounds with
  | nil =>
      cases rounds with
      | zero => rfl
      | succ rounds => rfl
  | cons property properties inductionHypothesis =>
      cases rounds with
      | zero => rfl
      | succ rounds =>
          have first : property.2.reached.write = property.2.write := same property.2 List.mem_cons_self
          have others := @inductionHypothesis rounds fun part member => same part (List.mem_cons_of_mem _ member)
          rw [reachedProperties, writeProperties, writeProperties, first, others]

theorem writeElements_reached {rounds : Nat} {properties : List RtmpAmf0Any}
    (same : forall part, part ∈ properties -> part.reached.write = part.write) :
    writeElements rounds (reachedElements rounds properties) = writeElements rounds properties := by
  induction properties generalizing rounds with
  | nil =>
      cases rounds with
      | zero => rfl
      | succ rounds => rfl
  | cons value properties inductionHypothesis =>
      cases rounds with
      | zero => rfl
      | succ rounds =>
          have first := same value List.mem_cons_self
          have others := @inductionHypothesis rounds fun part member => same part (List.mem_cons_of_mem _ member)
          rw [reachedElements, writeElements, writeElements, first, others]

/-- Taking away what the loops do not get to changes no byte. -/
theorem RtmpAmf0Any.write_reached (value : RtmpAmf0Any) : value.reached.write = value.write := by
  have rounds (properties : UnSortedHashtable RtmpAmf0Any) :
      loopRounds (reachedProperties (loopRounds properties.length) properties).length = loopRounds properties.length := by
    rw [reachedProperties_eq]
    exact loopRounds_take properties _
  induction value using byParts with
  | step value inductionHypothesis =>
      cases value with
      | object properties => rw [reached, write, write, rounds, writeProperties_reached inductionHypothesis]
      | ecmaArray count properties => rw [reached, write, write, rounds, writeProperties_reached inductionHypothesis]
      | strictArray count properties =>
          have same : loopRounds (reachedElements (loopRounds properties.length) properties).length =
              loopRounds properties.length := by
            rw [reachedElements_eq]
            exact loopRounds_take properties _
          have elements : forall part, part ∈ properties -> part.reached.write = part.write := inductionHypothesis
          rw [reached, write, write, same, writeElements_reached elements]
      | _ => rfl

end Amf0
end RtmpClient
