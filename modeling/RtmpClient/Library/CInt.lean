import Mathlib.Algebra.Ring.Int.Defs
import Mathlib.Algebra.Ring.Nat
import RtmpClient.Library.Outcome

namespace RtmpClient
namespace Library

/-!
# Numbers of type `int`

An expression of type `int` whose value is no `int` has no defined meaning and
counts as a fault.  A conversion keeps the lowest bits of the number.
-/

/-- The number is an `int`. -/
def FitsInt (number : Int) : Prop := -2 ^ 31 ≤ number ∧ number < 2 ^ 31

instance (number : Int) : Decidable (FitsInt number) := inferInstanceAs (Decidable (_ ∧ _))

/-- The value of a sum or difference of two `int`s. -/
def checkedInt (number : Int) : Outcome Int := if FitsInt number then .ok number else .fault

/-- The conversion to `int`. -/
@[irreducible] def asInt (number : Int) : Int := Int.bmod number (2 ^ 32)

/-- The conversion to `uint32_t`. -/
@[irreducible] def asUint32 (number : Int) : Nat := (number % 2 ^ 32).toNat

/-- The conversion to `size_t`. -/
@[irreducible] def asSize (number : Int) : Nat := (number % 2 ^ 64).toNat

/-- How often a loop `for (int i = 0; i < (int)size; i++)` goes round: not at all
where the lowest 32 bits are those of a negative number. -/
def loopRounds (size : Nat) : Nat := if size % 2 ^ 32 < 2 ^ 31 then size % 2 ^ 32 else 0

theorem checkedInt_of_fits {number : Int} (fits : FitsInt number) : checkedInt number = .ok number :=
  if_pos fits

theorem fits_of_checkedInt {number value : Int} (checked : checkedInt number = .ok value) :
    FitsInt number ∧ number = value := by
  rw [checkedInt] at checked
  split at checked
  next fits => exact ⟨fits, Outcome.ok.inj checked⟩
  · cases checked

theorem asInt_of_fits {number : Int} (fits : FitsInt number) : asInt number = number := by
  rw [FitsInt] at fits
  rw [asInt, Int.bmod_def]
  split <;> omega

theorem asInt_fits (number : Int) : FitsInt (asInt number) := by
  rw [FitsInt, asInt, Int.bmod_def]
  split <;> omega

theorem asInt_eq {number value : Int} (fits : FitsInt value) (same : (number - value) % 2 ^ 32 = 0) :
    asInt number = value := by
  rw [FitsInt] at fits
  rw [asInt, Int.bmod_def]
  split <;> omega

theorem asSize_of_nonneg {number : Int} (nonneg : 0 ≤ number) (small : number < 2 ^ 64) :
    asSize number = number.toNat := by
  rw [asSize, Int.emod_eq_of_lt nonneg small]

theorem asSize_of_neg {number : Int} (negative : number < 0) (low : -2 ^ 64 ≤ number) :
    (asSize number : Int) = 2 ^ 64 + number := by
  rw [asSize]
  omega

theorem asUint32_of_nonneg {number : Int} (nonneg : 0 ≤ number) (small : number < 2 ^ 32) :
    asUint32 number = number.toNat := by
  rw [asUint32, Int.emod_eq_of_lt nonneg small]

theorem asUint32_of_neg {number : Int} (negative : number < 0) (low : -2 ^ 32 ≤ number) :
    (asUint32 number : Int) = 2 ^ 32 + number := by
  rw [asUint32]
  omega

/-- A conversion to `int` on the way makes no difference. -/
theorem asUint32_sub_asInt (number other : Int) : asUint32 (number - asInt other) = asUint32 (number - other) := by
  rw [asUint32, asUint32, asInt, Int.bmod_def]
  split <;> omega

theorem loopRounds_of_lt {size : Nat} (small : size < 2 ^ 31) : loopRounds size = size := by
  rw [loopRounds]
  split <;> omega

/-- From 2^31 on the size is a negative `int` for a while, and then starts again
at 0. -/
theorem loopRounds_le (size : Nat) : loopRounds size ≤ size ∧ loopRounds size < 2 ^ 31 := by
  rw [loopRounds]
  split <;> omega

theorem asUint32_lt (number : Int) : asUint32 number < 2 ^ 32 := by
  rw [asUint32]
  omega

end Library
end RtmpClient
