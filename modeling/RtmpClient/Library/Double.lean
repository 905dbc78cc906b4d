import Mathlib.Data.Nat.Log
import Mathlib.Tactic.Common
import Mathlib.Tactic.Ring

namespace RtmpClient
namespace Library
namespace Double

/-!
# Doubles by their bits

The few things a program does with doubles it does not calculate with: making
them from counts, flipping their sign, and cutting them down to an `int`.
-/

/-- The double of a natural number, exact below `2 ^ 53`. -/
def ofNat (count : Nat) : UInt64 :=
  if count = 0 then 0
  else UInt64.ofNat ((count.log2 + 1023) * 2 ^ 52 + (count * 2 ^ (52 - count.log2) - 2 ^ 52))

/-- The same magnitude with the other sign. -/
def neg (bits : UInt64) : UInt64 := bits ^^^ (0x8000000000000000 : UInt64)

def exponent (bits : UInt64) : Nat := bits.toNat / 2 ^ 52 % 2 ^ 11

def fraction (bits : UInt64) : Nat := bits.toNat % 2 ^ 52

/-- The magnitude without its fractional part; NaN and the infinities have
none. -/
def truncate (bits : UInt64) : Option Nat :=
  if exponent bits = 2047 then none
  else if exponent bits < 1023 then some 0
  else some ((2 ^ 52 + fraction bits) * 2 ^ (exponent bits - 1023) / 2 ^ 52)

/-- `(int)value`: `none` where the language leaves it undefined. -/
def toInt32 (bits : UInt64) : Option Int32 :=
  (truncate bits).bind fun magnitude =>
    let value : Int := if bits.toNat < 2 ^ 63 then magnitude else -magnitude
    if -2 ^ 31 ≤ value ∧ value < 2 ^ 31 then some (Int32.ofInt value) else none

end Double
end Library
end RtmpClient
