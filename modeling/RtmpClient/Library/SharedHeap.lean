import Mathlib.Data.List.Perm.Basic
import Mathlib.Tactic.Common

namespace RtmpClient
namespace Library

universe u

/-!
# Objects behind hand-written reference counts

An object is created with one share.  A share is given up in two steps: the
count is decremented, and then it is tested whether the count has reached
zero, which deletes the object.  Between the two steps the share is gone, but
the object is still going to be looked at.
-/

/-- An object with its count and how often it was deleted. -/
structure SharedCell (α : Type u) where
  value : α
  count : Int
  deleted : Nat
  deriving DecidableEq, Repr

/-- The objects in the order of their creation.  `misused` records that one
was looked at after it had been deleted. -/
structure SharedHeap (α : Type u) where
  cells : List (SharedCell α)
  misused : Bool
  deriving DecidableEq, Repr

namespace SharedHeap

variable {α : Type u}

def new : SharedHeap α where
  cells := []
  misused := false

/-- A new object, with the share of its creator. -/
def create (heap : SharedHeap α) (value : α) : SharedHeap α :=
  { heap with cells := heap.cells ++ [{ value, count := 1, deleted := 0 }] }

/-- One object for each value. -/
def createAll (heap : SharedHeap α) (values : List α) : SharedHeap α := values.foldl create heap

/-- The object exists and was not deleted. -/
def alive (heap : SharedHeap α) (id : Nat) : Bool := heap.cells[id]?.any fun cell => cell.deleted == 0

/-- An access to the object. -/
def use (heap : SharedHeap α) (id : Nat) : SharedHeap α :=
  { heap with misused := heap.misused || !heap.alive id }

/-- An access that may change the object. -/
def update (heap : SharedHeap α) (id : Nat) (change : SharedCell α -> SharedCell α) : SharedHeap α :=
  { heap.use id with cells := heap.cells.modify id change }

/-- One more share. -/
def retain (heap : SharedHeap α) (id : Nat) : SharedHeap α :=
  heap.update id fun cell => { cell with count := cell.count + 1 }

/-- The decrement. -/
def release (heap : SharedHeap α) (id : Nat) : SharedHeap α :=
  heap.update id fun cell => { cell with count := cell.count - 1 }

/-- The test, and the deletion if nothing is left. -/
def reclaim (heap : SharedHeap α) (id : Nat) : SharedHeap α :=
  heap.update id fun cell => if cell.count ≤ 0 then { cell with deleted := cell.deleted + 1 } else cell

/-- Both steps at once. -/
def drop (heap : SharedHeap α) (id : Nat) : SharedHeap α := (heap.release id).reclaim id

def dropAll (heap : SharedHeap α) (ids : List Nat) : SharedHeap α := ids.foldl drop heap

/-- What the objects hold, in the order of their creation. -/
def values (heap : SharedHeap α) : List α := heap.cells.map SharedCell.value

/-- Every count is the number of the shares, and what has neither a share nor
a pending test was deleted once. -/
structure Counted (heap : SharedHeap α) (shares pending : List Nat) : Prop where
  safe : heap.misused = false
  known : forall id, id ∈ shares ++ pending -> id < heap.cells.length
  held : forall id cell, heap.cells[id]? = some cell -> 0 < shares.count id + pending.count id ->
    cell.deleted = 0 ∧ cell.count = (shares.count id : Int)
  gone : forall id cell, heap.cells[id]? = some cell -> shares.count id + pending.count id = 0 -> cell.deleted = 1

theorem update_length (heap : SharedHeap α) (id : Nat) (change : SharedCell α -> SharedCell α) :
    (heap.update id change).cells.length = heap.cells.length := List.length_modify change heap.cells id

theorem release_length (heap : SharedHeap α) (id : Nat) : (heap.release id).cells.length = heap.cells.length :=
  heap.update_length id _

theorem reclaim_length (heap : SharedHeap α) (id : Nat) : (heap.reclaim id).cells.length = heap.cells.length :=
  heap.update_length id _

theorem drop_length (heap : SharedHeap α) (id : Nat) : (heap.drop id).cells.length = heap.cells.length :=
  ((heap.release id).reclaim_length id).trans (heap.release_length id)

/-- A change of the counts leaves what the objects hold. -/
theorem update_values {heap : SharedHeap α} {id : Nat} {change : SharedCell α -> SharedCell α}
    (keeps : forall cell, (change cell).value = cell.value) : (heap.update id change).values = heap.values := by
  apply List.ext_getElem?
  intro other
  show ((heap.cells.modify id change).map _)[other]? = _
  rw [List.getElem?_map, List.getElem?_modify, values, List.getElem?_map]
  cases heap.cells[other]? with
  | none => rfl
  | some cell =>
      show some (if id = other then change cell else cell).value = some cell.value
      split
      · rw [keeps]
      · rfl

theorem retain_values (heap : SharedHeap α) (id : Nat) : (heap.retain id).values = heap.values :=
  update_values fun _ => rfl

theorem release_values (heap : SharedHeap α) (id : Nat) : (heap.release id).values = heap.values :=
  update_values fun _ => rfl

theorem reclaim_values (heap : SharedHeap α) (id : Nat) : (heap.reclaim id).values = heap.values := by
  apply update_values
  intro cell
  split <;> rfl

theorem drop_values (heap : SharedHeap α) (id : Nat) : (heap.drop id).values = heap.values :=
  ((heap.release id).reclaim_values id).trans (heap.release_values id)

theorem dropAll_values (heap : SharedHeap α) (ids : List Nat) : (heap.dropAll ids).values = heap.values := by
  induction ids generalizing heap with
  | nil => rfl
  | cons id ids inductionHypothesis => exact (inductionHypothesis (heap.drop id)).trans (heap.drop_values id)

theorem createAll_values (heap : SharedHeap α) (values : List α) :
    (heap.createAll values).values = heap.values ++ values := by
  induction values generalizing heap with
  | nil => exact (List.append_nil _).symm
  | cons value values inductionHypothesis =>
      have created : (heap.create value).values = heap.values ++ [value] := List.map_append
      rw [createAll, List.foldl_cons, ← createAll, inductionHypothesis, created, List.append_assoc,
        List.singleton_append]

theorem length_values (heap : SharedHeap α) : heap.values.length = heap.cells.length := List.length_map _

/-- A cell of the heap after a change is an old cell, changed if it is the one. -/
theorem update_cell {heap : SharedHeap α} {id other : Nat} {change : SharedCell α -> SharedCell α}
    {cell : SharedCell α} (found : (heap.update id change).cells[other]? = some cell) :
    Exists fun old => heap.cells[other]? = some old ∧ cell = if id = other then change old else old := by
  have modified : (heap.cells.modify id change)[other]? = some cell := found
  rw [List.getElem?_modify] at modified
  rcases Option.map_eq_some_iff.mp modified with ⟨old, at_other, changed⟩
  exact ⟨old, at_other, changed.symm⟩

namespace Counted

variable {heap : SharedHeap α} {shares pending shares' pending' : List Nat} {id : Nat}

theorem new : (SharedHeap.new : SharedHeap α).Counted [] [] where
  safe := rfl
  known := List.forall_mem_nil _
  held := fun _ _ found _ => nomatch found
  gone := fun _ _ found _ => nomatch found

theorem perm (counted : heap.Counted shares pending) (same : shares.Perm shares') (tests : pending.Perm pending') :
    heap.Counted shares' pending' where
  safe := counted.safe
  known := fun id member => counted.known id ((same.append tests).mem_iff.mpr member)
  held := by
    intro id cell found owned
    rw [← same.count_eq id, ← tests.count_eq id] at owned
    rw [← same.count_eq id]
    exact counted.held id cell found owned
  gone := by
    intro id cell found left
    rw [← same.count_eq id, ← tests.count_eq id] at left
    exact counted.gone id cell found left

theorem held_of_mem {cell : SharedCell α} (counted : heap.Counted shares pending) (owned : id ∈ shares ++ pending)
    (found : heap.cells[id]? = some cell) : cell.deleted = 0 ∧ cell.count = (shares.count id : Int) := by
  apply counted.held id cell found
  rw [← List.count_append]
  exact List.count_pos_iff.mpr owned

theorem gone_of_not_mem {cell : SharedCell α} (counted : heap.Counted shares pending) (left : id ∉ shares ++ pending)
    (found : heap.cells[id]? = some cell) : cell.deleted = 1 := by
  apply counted.gone id cell found
  rw [← List.count_append]
  exact List.count_eq_zero.mpr left

/-- What is held, or is still going to be tested, is alive. -/
theorem alive (counted : heap.Counted shares pending) (owned : id ∈ shares ++ pending) : heap.alive id = true := by
  have inside := counted.known id owned
  have found : heap.cells[id]? = some heap.cells[id] := List.getElem?_eq_getElem inside
  rw [SharedHeap.alive, found, Option.any_some, (counted.held_of_mem owned found).1]
  rfl

theorem use (counted : heap.Counted shares pending) (owned : id ∈ shares ++ pending) : heap.use id = heap := by
  rw [SharedHeap.use, counted.alive owned, Bool.not_true, Bool.or_false]

/-- The rule for a change: it is judged on the object alone. -/
theorem update {change : SharedCell α -> SharedCell α}
    (counted : heap.Counted shares pending) (owned : id ∈ shares ++ pending)
    (known : forall other, other ∈ shares' ++ pending' -> other ∈ shares ++ pending)
    (others : forall other, other ≠ id ->
      shares'.count other = shares.count other ∧ pending'.count other = pending.count other)
    (here : forall cell, cell.deleted = 0 -> cell.count = (shares.count id : Int) ->
      if 0 < shares'.count id + pending'.count id then
        (change cell).deleted = 0 ∧ (change cell).count = (shares'.count id : Int)
      else (change cell).deleted = 1) :
    (heap.update id change).Counted shares' pending' := by
  have changed : forall other cell, (heap.update id change).cells[other]? = some cell ->
      other ≠ id ∧ heap.cells[other]? = some cell ∨ other = id ∧
        if 0 < shares'.count id + pending'.count id then
          cell.deleted = 0 ∧ cell.count = (shares'.count id : Int)
        else cell.deleted = 1 := by
    intro other cell found
    rcases update_cell found with ⟨old, before, after⟩
    by_cases same : id = other
    · rw [if_pos same] at after
      subst same
      have state := counted.held_of_mem owned before
      rw [after]
      exact .inr ⟨rfl, here old state.1 state.2⟩
    · rw [if_neg same] at after
      rw [after]
      exact .inl ⟨Ne.symm same, before⟩
  refine ⟨?_, ?_, ?_, ?_⟩
  · show (heap.use id).misused = false
    rw [counted.use owned]
    exact counted.safe
  · intro other member
    rw [update_length]
    exact counted.known other (known other member)
  · intro other cell found positive
    rcases changed other cell found with ⟨different, before⟩ | ⟨rfl, after⟩
    · rw [(others other different).1, (others other different).2] at positive
      rw [(others other different).1]
      exact counted.held other cell before positive
    · rwa [if_pos positive] at after
  · intro other cell found none
    rcases changed other cell found with ⟨different, before⟩ | ⟨rfl, after⟩
    · rw [(others other different).1, (others other different).2] at none
      exact counted.gone other cell before none
    · rwa [if_neg (by omega)] at after

theorem create (counted : heap.Counted shares pending) (value : α) :
    (heap.create value).Counted (heap.cells.length :: shares) pending := by
  have fresh : heap.cells.length ∉ shares ++ pending := fun member => Nat.lt_irrefl _ (counted.known _ member)
  have freshCount : shares.count heap.cells.length = 0 :=
    List.count_eq_zero.mpr fun member => fresh (List.mem_append_left _ member)
  have split : forall other cell, (heap.create value).cells[other]? = some cell ->
      heap.cells[other]? = some cell ∧ heap.cells.length ≠ other ∨
        other = heap.cells.length ∧ cell = { value, count := 1, deleted := 0 } := by
    intro other cell found
    have appended : (heap.cells ++ [{ value, count := 1, deleted := 0 }])[other]? = some cell := found
    rcases Nat.lt_or_ge other heap.cells.length with old | fresh
    · rw [List.getElem?_append_left old] at appended
      exact .inl ⟨appended, Nat.ne_of_gt old⟩
    · rw [List.getElem?_append_right fresh, List.getElem?_singleton] at appended
      split at appended
      next last => exact .inr ⟨by omega, (Option.some.inj appended).symm⟩
      next => cases appended
  refine ⟨counted.safe, ?_, ?_, ?_⟩
  · intro other member
    show other < (heap.cells ++ [_]).length
    rw [List.length_append, List.length_singleton]
    rcases List.mem_cons.mp member with here | before
    · omega
    · exact Nat.lt_succ_of_lt (counted.known other before)
  · intro other cell found positive
    rcases split other cell found with ⟨before, different⟩ | ⟨here, new⟩
    · rw [List.count_cons_of_ne different] at positive ⊢
      exact counted.held other cell before positive
    · rw [here, new, List.count_cons_self, freshCount]
      exact ⟨rfl, rfl⟩
  · intro other cell found none
    rcases split other cell found with ⟨before, different⟩ | ⟨here, -⟩
    · rw [List.count_cons_of_ne different] at none
      exact counted.gone other cell before none
    · rw [here, List.count_cons_self] at none
      omega

theorem createAll (counted : heap.Counted shares pending) (values : List α) :
    (heap.createAll values).Counted (List.range' heap.cells.length values.length ++ shares) pending := by
  induction values generalizing heap shares with
  | nil => exact counted
  | cons value values inductionHypothesis =>
      have all := inductionHypothesis (counted.create value)
      have length : (heap.create value).cells.length = heap.cells.length + 1 := List.length_append
      rw [length] at all
      rw [List.length_cons, List.range'_succ]
      exact all.perm List.perm_middle (.refl pending)

theorem retain (counted : heap.Counted shares pending) (held : id ∈ shares) :
    (heap.retain id).Counted (id :: shares) pending := by
  apply counted.update (List.mem_append_left _ held)
  · intro other member
    rcases List.mem_cons.mp member with here | before
    · rw [here]
      exact List.mem_append_left _ held
    · exact before
  · intro other different
    exact ⟨List.count_cons_of_ne (Ne.symm different), rfl⟩
  · intro cell undeleted counts
    rw [List.count_cons_self, if_pos (by omega)]
    refine ⟨undeleted, ?_⟩
    show cell.count + 1 = _
    omega

/-- The share is gone and its test is pending. -/
theorem release (counted : heap.Counted (id :: shares) pending) : (heap.release id).Counted shares (id :: pending) := by
  have moved : (shares ++ id :: pending).Perm (id :: shares ++ pending) := List.perm_middle
  apply counted.update List.mem_cons_self
  · intro other member
    exact moved.mem_iff.mp member
  · intro other different
    rw [List.count_cons_of_ne (Ne.symm different), List.count_cons_of_ne (Ne.symm different)]
    exact ⟨rfl, rfl⟩
  · intro cell undeleted counts
    rw [List.count_cons_self] at counts
    rw [List.count_cons_self, if_pos (by omega)]
    refine ⟨undeleted, ?_⟩
    show cell.count - 1 = _
    omega

/-- The test.  Where another one is pending for the same object, a share has to
keep the object alive for it. -/
theorem reclaim (counted : heap.Counted shares (id :: pending)) (only : id ∈ pending -> id ∈ shares) :
    (heap.reclaim id).Counted shares pending := by
  have moved : (shares ++ id :: pending).Perm (id :: shares ++ pending) := List.perm_middle
  apply counted.update (List.mem_append_right _ List.mem_cons_self)
  · intro other member
    exact moved.mem_iff.mpr (List.mem_cons_of_mem id member)
  · intro other different
    exact ⟨rfl, (List.count_cons_of_ne (Ne.symm different)).symm⟩
  · intro cell undeleted counts
    by_cases held : id ∈ shares
    · have positive := List.count_pos_iff.mpr held
      rw [if_pos (by omega), if_neg (by omega)]
      exact ⟨undeleted, counts⟩
    · have none := List.count_eq_zero.mpr held
      have last := List.count_eq_zero.mpr fun member => held (only member)
      rw [if_neg (by omega), if_pos (by omega)]
      show cell.deleted + 1 = 1
      rw [undeleted]

theorem drop (counted : heap.Counted (id :: shares) pending) (only : id ∈ pending -> id ∈ shares) :
    (heap.drop id).Counted shares pending := counted.release.reclaim only

theorem dropAll {ids : List Nat} (counted : heap.Counted (ids ++ shares) pending)
    (only : forall id, id ∈ ids -> id ∉ pending) : (heap.dropAll ids).Counted shares pending := by
  induction ids generalizing heap with
  | nil => exact counted
  | cons id ids inductionHypothesis =>
      apply inductionHypothesis
      · exact Counted.drop counted fun member => absurd member (only id List.mem_cons_self)
      · exact fun other member => only other (List.mem_cons_of_mem id member)

/-- When there is no share left, everything was deleted once. -/
theorem all_gone (counted : heap.Counted [] []) {cell : SharedCell α} (created : cell ∈ heap.cells) :
    cell.deleted = 1 := by
  rcases List.mem_iff_getElem?.mp created with ⟨id, found⟩
  exact counted.gone id cell found rfl

end Counted

end SharedHeap

end Library
end RtmpClient
