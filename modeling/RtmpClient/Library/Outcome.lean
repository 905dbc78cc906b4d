import Mathlib.Data.List.GetD
import Mathlib.Tactic.Common

namespace RtmpClient
namespace Library

universe u v

/-!
# What a C function that reads a bounded buffer can do

A function of the modelled kind returns a value, returns a negative error
code, or does not return in an orderly way: it touches memory outside the object
it was given, or deletes what is deleted already.  The third case is kept as a
value of its own instead of being ruled out by the types, so that its absence is
a theorem about the code and not a convention of the model.
-/

/-- The result of one call: a value, an error code, or an access to memory that
the call has no right to. -/
inductive Outcome (α : Type u) where
  | ok (value : α)
  | error (code : Int)
  | fault
  deriving DecidableEq, Repr

namespace Outcome

variable {α : Type u} {β : Type v}

/-- Sequencing returns early on an error code and on a fault, as the source
does after every call it checks. -/
def bind (first : Outcome α) (next : α -> Outcome β) : Outcome β :=
  match first with
  | ok value => next value
  | error code => error code
  | fault => fault

instance : Monad Outcome where
  pure := ok
  bind := bind

instance : LawfulMonad Outcome := by
  refine LawfulMonad.mk' Outcome ?_ ?_ ?_
  · intro α call
    cases call with
    | ok value => rfl
    | error code => rfl
    | fault => rfl
  · intro α β value next
    rfl
  · intro α β γ call next last
    cases call with
    | ok value => rfl
    | error code => rfl
    | fault => rfl

@[simp] theorem pure_eq (value : α) : (pure value : Outcome α) = ok value := rfl

@[simp] theorem fault_bind (next : α -> Outcome β) :
    (fault : Outcome α).bind next = fault := rfl

@[simp] theorem ok_bind_do {γ δ : Type u} (value : γ) (next : γ -> Outcome δ) :
    (ok value >>= next) = next value := rfl

@[simp] theorem fault_bind_do {γ δ : Type u} (next : γ -> Outcome δ) :
    ((fault : Outcome γ) >>= next) = fault := rfl

/-- The value of a successful bind comes from two successful calls. -/
theorem bind_eq_ok {γ δ : Type u} {first : Outcome γ} {next : γ -> Outcome δ} {value : δ}
    (result : (first >>= next) = ok value) :
    Exists fun middle => first = ok middle ∧ next middle = ok value := by
  cases first with
  | ok middle => exact ⟨middle, rfl, result⟩
  | error code => cases result
  | fault => cases result

/-- A bind faults in one of its two calls. -/
theorem bind_eq_fault {γ δ : Type u} {first : Outcome γ} {next : γ -> Outcome δ}
    (faulted : (first >>= next) = fault) :
    first = fault ∨ Exists fun middle => first = ok middle ∧ next middle = fault := by
  cases first with
  | ok middle => exact Or.inr ⟨middle, rfl, faulted⟩
  | error code => cases faulted
  | fault => exact Or.inl rfl

theorem bind_bind {γ δ ε : Type u} (first : Outcome γ) (next : γ -> Outcome δ) (last : δ -> Outcome ε) :
    ((first >>= next) >>= last) = (first >>= fun value => next value >>= last) := by
  cases first with
  | ok value => rfl
  | error code => rfl
  | fault => rfl

/-- What follows a call matters only at the value it returns. -/
theorem bind_congr {γ δ : Type u} {first : Outcome γ} {next next' : γ -> Outcome δ}
    (same : forall value, first = ok value -> next value = next' value) : (first >>= next) = (first >>= next') := by
  cases first with
  | ok value => exact same value rfl
  | error code => rfl
  | fault => rfl

/-- The call is the other one, unless it faults. -/
def FaultsOr (call other : Outcome α) : Prop := call = fault ∨ call = other

namespace FaultsOr

theorem refl (call : Outcome α) : call.FaultsOr call := Or.inr rfl

/-- Calls in turn, each of which may be the one that faults. -/
theorem bind {γ δ : Type u} {call other : Outcome γ} {next next' : γ -> Outcome δ} (first : call.FaultsOr other)
    (continues : forall value, other = ok value -> (next value).FaultsOr (next' value)) :
    (call >>= next).FaultsOr (other >>= next') := by
  rcases first with rfl | rfl
  · exact Or.inl rfl
  · cases call with
    | ok value => exact continues value rfl
    | error code => exact .refl _
    | fault => exact .refl _

end FaultsOr

/-- The value behind a count. -/
theorem value_eq {count ret : β} {found value : α} (equal : ok (count, found) = ok (ret, value)) :
    found = value :=
  congrArg Prod.snd (ok.inj equal)

/-- A caller that answers every error code of a call with one of its own. -/
def errorAs (code : Int) (call : Outcome α) : Outcome α :=
  match call with
  | ok value => ok value
  | error _ => error code
  | fault => fault

@[simp] theorem errorAs_ok (code : Int) (value : α) : (ok value).errorAs code = ok value := rfl

@[simp] theorem errorAs_error (code given : Int) :
    (error given : Outcome α).errorAs code = error code := rfl

@[simp] theorem errorAs_fault (code : Int) : (fault : Outcome α).errorAs code = fault := rfl

theorem errorAs_eq_ok {code : Int} {call : Outcome α} {value : α}
    (succeeded : call.errorAs code = .ok value) : call = .ok value := by
  cases call with
  | ok found => exact succeeded
  | error code => cases succeeded
  | fault => cases succeeded

theorem errorAs_eq_fault_iff {code : Int} {call : Outcome α} : call.errorAs code = .fault ↔ call = .fault := by
  cases call with
  | fault => exact Iff.rfl
  | _ => exact iff_of_false (fun impossible => by cases impossible) fun impossible => by cases impossible

/-- Read one cell of a buffer.  An index at or past the end is a fault. -/
def read (buffer : List α) (index : Nat) : Outcome α :=
  match buffer[index]? with
  | some value => ok value
  | none => fault

theorem read_of_lt {buffer : List α} {index : Nat} (inside : index < buffer.length) :
    read buffer index = ok buffer[index] := by
  simp only [read, List.getElem?_eq_getElem inside]

/-- Inside the buffer a read is a lookup whose default value is never used. -/
theorem read_eq_getD {buffer : List α} {index : Nat} (filler : α) (inside : index < buffer.length) :
    read buffer index = ok (buffer.getD index filler) := by
  rw [read_of_lt inside, List.getD_eq_getElem _ _ inside]

theorem lt_of_read {buffer : List α} {index : Nat} {value : α} (found : read buffer index = ok value) :
    index < buffer.length := by
  rw [read] at found
  split at found
  next present => exact (List.getElem?_eq_some_iff.mp present).1
  · cases found

@[simp] theorem read_cons_zero (head : α) (tail : List α) : read (head :: tail) 0 = ok head := rfl

/-- Read `width` consecutive cells.  The access is a fault unless all of them
lie inside the buffer. -/
def slice (buffer : List α) (offset width : Nat) : Outcome (List α) :=
  if offset + width ≤ buffer.length then ok ((buffer.drop offset).take width) else fault

theorem slice_of_le {buffer : List α} {offset width : Nat} (inside : offset + width ≤ buffer.length) :
    slice buffer offset width = ok ((buffer.drop offset).take width) :=
  if_pos inside

/-- The cells that were read stand at the cursor. -/
theorem slice_splits {buffer cells : List α} {offset width : Nat} (found : slice buffer offset width = ok cells) :
    cells.length = width ∧ offset + width ≤ buffer.length ∧
      buffer.drop offset = cells ++ buffer.drop (offset + width) := by
  rw [slice] at found
  split at found
  next inside =>
    have piece : (buffer.drop offset).take width = cells := ok.inj found
    refine ⟨?_, inside, ?_⟩
    · rw [← piece, List.length_take, List.length_drop]
      omega
    · rw [← piece, ← List.drop_drop, List.take_append_drop]
  · cases found

/-- A slice that starts right behind a known prefix and has the length of the
piece found there is that piece. -/
theorem slice_middle (before piece rest : List α) :
    slice (before ++ (piece ++ rest)) before.length piece.length = ok piece := by
  rw [slice_of_le (by simp only [List.length_append]; omega), List.drop_left, List.take_left]

/-- Cells that were read stay what they are when the buffer grows at its end. -/
theorem slice_append {buffer more : List α} {offset width : Nat}
    (inside : offset + width ≤ buffer.length) :
    slice (buffer ++ more) offset width = slice buffer offset width := by
  have longer : offset + width ≤ (buffer ++ more).length := by
    rw [List.length_append]
    omega
  rw [slice_of_le inside, slice_of_le longer, List.drop_append_of_le_length (by omega),
    List.take_append_of_le_length (by rw [List.length_drop]; omega)]

end Outcome

end Library
end RtmpClient
