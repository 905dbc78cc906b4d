import Mathlib.Tactic.Common

namespace RtmpClient
namespace Library

universe u v

/-!
# Maps ordered by their keys

What `std::map` is used for: `insert`, which leaves a key that is there as it
is, `find`, `clear` and the entries in the order of their keys.
-/

section Entries

variable {κ : Type u} {β : Type v}

section Found

variable [DecidableEq κ]

/-- The value at a key. -/
def findIn (key : κ) : List (κ × β) -> Option β
  | [] => none
  | (other, value) :: entries => if key = other then some value else findIn key entries

theorem findIn_first {key : κ} {first : κ × β} (same : key = first.1) (entries : List (κ × β)) :
    findIn key (first :: entries) = some first.2 :=
  if_pos same

theorem findIn_later {key : κ} {first : κ × β} (different : key ≠ first.1) (entries : List (κ × β)) :
    findIn key (first :: entries) = findIn key entries :=
  if_neg different

end Found

section Order

variable [LT κ]

/-- The entries in the order of their keys, each key once. -/
def Increasing (entries : List (κ × β)) : Prop := entries.Pairwise fun entry other => entry.1 < other.1

variable [DecidableEq κ] [DecidableLT κ]

/-- An entry at its place, unless the key is there. -/
def insertIn (key : κ) (value : β) : List (κ × β) -> List (κ × β)
  | [] => [(key, value)]
  | (other, found) :: entries =>
      if key < other then (key, value) :: (other, found) :: entries
      else if key = other then (other, found) :: entries
      else (other, found) :: insertIn key value entries

theorem mem_insertIn {key : κ} {value : β} {entries : List (κ × β)} {entry : κ × β}
    (member : entry ∈ insertIn key value entries) : entry = (key, value) ∨ entry ∈ entries := by
  induction entries with
  | nil => exact .inl (List.mem_singleton.mp member)
  | cons first entries inductionHypothesis =>
      rw [insertIn] at member
      split at member
      · exact List.mem_cons.mp member
      · split at member
        · exact .inr member
        · rcases List.mem_cons.mp member with here | later
          · exact .inr (here ▸ List.mem_cons_self)
          · exact (inductionHypothesis later).imp id (List.mem_cons_of_mem first)

theorem findIn_insertIn_of_ne {key other : κ} (different : other ≠ key) (value : β) (entries : List (κ × β)) :
    findIn other (insertIn key value entries) = findIn other entries := by
  induction entries with
  | nil => exact findIn_later different []
  | cons first entries inductionHypothesis =>
      rw [insertIn]
      by_cases less : key < first.1
      · rw [if_pos less]
        exact findIn_later different _
      · rw [if_neg less]
        by_cases same : key = first.1
        · rw [if_pos same]
        · rw [if_neg same, findIn, inductionHypothesis, findIn]

end Order

variable [LE κ] [LT κ] [Std.LawfulOrderLT κ] [DecidableEq κ]

/-- A key below all others is not there. -/
theorem findIn_below {key : κ} {entries : List (κ × β)} (below : forall entry, entry ∈ entries -> key < entry.1) :
    findIn key entries = none := by
  induction entries with
  | nil => rfl
  | cons first entries inductionHypothesis =>
      have different := Std.ne_of_lt (below first List.mem_cons_self)
      rw [findIn_later different]
      exact inductionHypothesis fun entry member => below entry (List.mem_cons_of_mem first member)

variable [Std.IsLinearOrder κ]

omit [DecidableEq κ] in
/-- What is below the first entry is below all. -/
theorem below_cons {key : κ} {first : κ × β} {entries : List (κ × β)} (less : key < first.1)
    (later : forall entry, entry ∈ entries -> first.1 < entry.1) :
    forall entry, entry ∈ first :: entries -> key < entry.1 := by
  intro entry member
  rcases List.mem_cons.mp member with rfl | behind
  · exact less
  · exact Std.lt_trans less (later entry behind)

variable [DecidableLT κ]

theorem insertIn_increasing (key : κ) (value : β) {entries : List (κ × β)} (increasing : Increasing entries) :
    Increasing (insertIn key value entries) := by
  induction entries with
  | nil => exact List.pairwise_singleton _ _
  | cons first entries inductionHypothesis =>
      have later := List.pairwise_cons.mp increasing
      rw [insertIn]
      by_cases less : key < first.1
      · rw [if_pos less]
        exact List.pairwise_cons.mpr ⟨below_cons less later.1, increasing⟩
      · rw [if_neg less]
        by_cases same : key = first.1
        · rw [if_pos same]
          exact increasing
        · rw [if_neg same]
          have greater : first.1 < key := Std.lt_of_le_of_ne (Std.not_lt.mp less) (Ne.symm same)
          apply List.pairwise_cons.mpr
          refine ⟨?_, inductionHypothesis later.2⟩
          intro entry member
          rcases mem_insertIn member with rfl | behind
          · exact greater
          · exact later.1 entry behind

/-- The key has the value that was there, or the new one. -/
theorem findIn_insertIn (key : κ) (value : β) {entries : List (κ × β)} (increasing : Increasing entries) :
    findIn key (insertIn key value entries) = some ((findIn key entries).getD value) := by
  induction entries with
  | nil => exact if_pos rfl
  | cons first entries inductionHypothesis =>
      have later := List.pairwise_cons.mp increasing
      rw [insertIn]
      by_cases less : key < first.1
      · have absent : findIn key (first :: entries) = none := findIn_below (below_cons less later.1)
        rw [if_pos less, absent]
        exact if_pos rfl
      · rw [if_neg less]
        by_cases same : key = first.1
        · rw [if_pos same, findIn_first same, Option.getD_some]
        · rw [if_neg same, findIn_later same, findIn_later same]
          exact inductionHypothesis later.2

end Entries

/-- A map. -/
structure OrderedMap (κ : Type u) (β : Type v) [LT κ] where
  entries : List (κ × β)
  increasing : Increasing entries
  deriving DecidableEq, Repr

namespace OrderedMap

variable {κ : Type u} {β : Type v} [LT κ]

/-- A new map, or one after `clear`. -/
def empty : OrderedMap κ β where
  entries := []
  increasing := .nil

variable [DecidableEq κ]

def find (map : OrderedMap κ β) (key : κ) : Option β := findIn key map.entries

@[simp] theorem find_empty (key : κ) : (empty : OrderedMap κ β).find key = none := rfl

variable [LE κ] [Std.IsLinearOrder κ] [Std.LawfulOrderLT κ]

variable [DecidableLT κ]

def insert (map : OrderedMap κ β) (key : κ) (value : β) : OrderedMap κ β where
  entries := insertIn key value map.entries
  increasing := insertIn_increasing key value map.increasing

@[simp] theorem find_insert (map : OrderedMap κ β) (key : κ) (value : β) :
    (map.insert key value).find key = some ((map.find key).getD value) :=
  findIn_insertIn key value map.increasing

theorem find_insert_of_ne (map : OrderedMap κ β) {key other : κ} (different : other ≠ key) (value : β) :
    (map.insert key value).find other = map.find other :=
  findIn_insertIn_of_ne different value map.entries

/-- Entries put in one after the other. -/
def insertAll (map : OrderedMap κ β) (entries : List (κ × β)) : OrderedMap κ β :=
  entries.foldl (fun map entry => map.insert entry.1 entry.2) map

/-- A key keeps the value that was there, or gets the first one. -/
theorem find_insertAll (map : OrderedMap κ β) (entries : List (κ × β)) (key : κ) :
    (map.insertAll entries).find key = (map.find key).or (findIn key entries) := by
  induction entries generalizing map with
  | nil => exact Option.or_none.symm
  | cons entry entries inductionHypothesis =>
      have later : ((map.insert entry.1 entry.2).insertAll entries).find key =
          ((map.insert entry.1 entry.2).find key).or (findIn key entries) := inductionHypothesis _
      show ((map.insert entry.1 entry.2).insertAll entries).find key = _
      by_cases same : key = entry.1
      · rw [later, same, find_insert, findIn_first rfl]
        cases map.find entry.1 with
        | none => rfl
        | some value => rfl
      · rw [later, find_insert_of_ne map same, findIn_later same]

end OrderedMap

end Library
end RtmpClient
