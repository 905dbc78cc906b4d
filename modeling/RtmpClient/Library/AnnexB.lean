import Mathlib.Data.List.Infix
import RtmpClient.Library.Outcome

namespace RtmpClient
namespace Library

/-!
# Units behind start codes

A stream of units, each behind a start code of three or four bytes.  A unit does
not contain the bytes `00 00 00` and `00 00 01`, and its last byte is not zero,
so that no start code begins inside of it.
-/

/-! ## The stream -/

inductive StartCode where
  | short
  | long
  deriving DecidableEq, Repr

def StartCode.bytes : StartCode -> List UInt8
  | short => [0, 0, 1]
  | long => [0, 0, 0, 1]

/-- What stands between two start codes, or a rest of it. -/
structure LegalUnit (cells : List UInt8) : Prop where
  nonempty : cells ≠ []
  ended : cells.getLast? ≠ some 0
  noZeros : ¬ List.IsInfix [0, 0, 0] cells
  noCode : ¬ List.IsInfix [0, 0, 1] cells

instance (cells : List UInt8) : Decidable (LegalUnit cells) :=
  decidable_of_iff (cells ≠ [] ∧ cells.getLast? ≠ some 0 ∧ ¬ List.IsInfix [0, 0, 0] cells ∧ ¬ List.IsInfix [0, 0, 1] cells)
    ⟨fun parts => ⟨parts.1, parts.2.1, parts.2.2.1, parts.2.2.2⟩,
      fun legal => ⟨legal.nonempty, legal.ended, legal.noZeros, legal.noCode⟩⟩

/-- The units in their order, each behind its start code. -/
def annexB (units : List (StartCode × List UInt8)) : List UInt8 :=
  units.flatMap fun unit => unit.1.bytes ++ unit.2

theorem annexB_cons (unit : StartCode × List UInt8) (units : List (StartCode × List UInt8)) :
    annexB (unit :: units) = unit.1.bytes ++ (unit.2 ++ annexB units) := by
  rw [annexB, List.flatMap_cons, List.append_assoc]
  rfl

/-! ## Inside a unit -/

namespace LegalUnit

variable {cells rest : List UInt8} {cell : UInt8}

/-- What is left of a unit is one. -/
theorem tail (legal : LegalUnit (cell :: rest)) (more : rest ≠ []) : LegalUnit rest where
  nonempty := more
  ended := by
    intro last
    apply legal.ended
    rw [List.getLast?_cons, last]
    rfl
  noZeros := fun inside => legal.noZeros (inside.trans (List.suffix_cons cell rest).isInfix)
  noCode := fun inside => legal.noCode (inside.trans (List.suffix_cons cell rest).isInfix)

theorem more_of_zero (legal : LegalUnit (0 :: rest)) : rest ≠ [] := by
  rintro rfl
  exact legal.ended rfl

/-- A unit, or what is left of it, does not begin with a start code. -/
theorem front (legal : LegalUnit cells) :
    (Exists fun first => Exists fun rest => cells = first :: rest ∧ first ≠ 0) ∨
      (Exists fun second => Exists fun rest => cells = 0 :: second :: rest ∧ second ≠ 0) ∨
      Exists fun third => Exists fun rest => cells = 0 :: 0 :: third :: rest ∧ third ≠ 0 ∧ third ≠ 1 := by
  rcases cells with _ | ⟨first, rest⟩
  · exact absurd rfl legal.nonempty
  · by_cases one : first = 0
    · subst one
      rcases rest with _ | ⟨second, rest⟩
      · exact absurd rfl legal.more_of_zero
      · by_cases two : second = 0
        · subst two
          have behind := legal.tail legal.more_of_zero
          rcases rest with _ | ⟨third, rest⟩
          · exact absurd rfl behind.more_of_zero
          · refine Or.inr (Or.inr ⟨third, rest, rfl, ?_, ?_⟩)
            · rintro rfl
              exact legal.noZeros ⟨[], rest, rfl⟩
            · rintro rfl
              exact legal.noCode ⟨[], rest, rfl⟩
        · exact Or.inr (Or.inl ⟨second, rest, rfl, two⟩)
    · exact Or.inl ⟨first, rest, rfl, one⟩

/-- The rule for scanners: a loop that takes one cell where what is left of a unit
begins goes past a unit, and has collected it. -/
theorem past {β : Type} {data : List UInt8} {loop : (rounds position : Nat) -> (pending : List UInt8) -> β}
    (step : forall before cell cells rest, data = before ++ (cell :: cells ++ rest) -> LegalUnit (cell :: cells) ->
      forall rounds pending, loop (rounds + 1) before.length pending = loop rounds (before.length + 1) (pending ++ [cell]))
    (legal : LegalUnit cells) {before : List UInt8} (split : data = before ++ (cells ++ rest)) (rounds : Nat)
    (pending : List UInt8) :
    loop (cells.length + rounds) before.length pending =
      loop rounds (before.length + cells.length) (pending ++ cells) := by
  induction cells generalizing before pending with
  | nil => exact absurd rfl legal.nonempty
  | cons cell cells inductionHypothesis =>
      rw [List.length_cons, Nat.add_right_comm, step before cell cells rest split legal]
      by_cases last : cells = []
      · rw [last, List.length_nil, Nat.zero_add, Nat.zero_add]
      · have split' : data = (before ++ [cell]) ++ (cells ++ rest) := by
          rw [split, List.append_assoc]
          rfl
        have others := inductionHypothesis (legal.tail last) split' (pending ++ [cell])
        rw [List.length_append, List.length_singleton, List.append_assoc, List.singleton_append] at others
        rw [others, Nat.add_assoc, Nat.add_comm 1]

end LegalUnit

/-! ## Tests on cells -/

namespace Outcome

variable {α : Type}

/-- The second test is made only if the first one holds. -/
def andAlso (first second : Outcome Bool) : Outcome Bool := first >>= fun holds => if holds then second else .ok false

@[simp] theorem andAlso_false (second : Outcome Bool) : andAlso (.ok false) second = .ok false := rfl

@[simp] theorem andAlso_true (second : Outcome Bool) : andAlso (.ok true) second = second := rfl

/-- The cell at an index is this one. -/
def cellIs [DecidableEq α] (cells : List α) (index : Nat) (value : α) : Outcome Bool := do
  let cell ← read cells index
  return decide (cell = value)

theorem read_behind (before rest : List α) (index : Nat) :
    read (before ++ rest) (before.length + index) = read rest index := by
  rw [read, read, List.getElem?_append_right (Nat.le_add_right _ _), Nat.add_sub_cancel_left]

variable [DecidableEq α]

theorem cellIs_behind (before rest : List α) (index : Nat) (value : α) :
    cellIs (before ++ rest) (before.length + index) value = cellIs rest index value := by
  rw [cellIs, cellIs, read_behind]

theorem cellIs_here (before rest : List α) (cell value : α) :
    cellIs (before ++ cell :: rest) before.length value = .ok (decide (cell = value)) :=
  cellIs_behind before (cell :: rest) 0 value

theorem cellIs_next (before rest : List α) (cell cell' value : α) :
    cellIs (before ++ cell :: cell' :: rest) (before.length + 1) value = .ok (decide (cell' = value)) :=
  cellIs_behind before (cell :: cell' :: rest) 1 value

theorem cellIs_third (before rest : List α) (cell cell' cell'' value : α) :
    cellIs (before ++ cell :: cell' :: cell'' :: rest) (before.length + 2) value = .ok (decide (cell'' = value)) :=
  cellIs_behind before (cell :: cell' :: cell'' :: rest) 2 value

end Outcome

end Library
end RtmpClient
