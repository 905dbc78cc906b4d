import Mathlib.Algebra.Ring.Nat
import RtmpClient.Library.BigEndian

namespace RtmpClient
namespace Library

/-!
# Numbers put together from shifted bytes

What `|` makes of bytes that were shifted to their places, and what becomes of
an `int` that is an operand of a wider number.
-/

/-- Numbers without a bit in common. -/
theorem or_eq_add {low width : Nat} (high : Nat) (fits : low < 2 ^ width) :
    high * 2 ^ width ||| low = high * 2 ^ width + low := by
  rw [Nat.mul_comm, Nat.two_pow_add_eq_or_of_lt fits]

/-- A byte at its place in a 32-bit number. -/
theorem shifted_toNat (byte : UInt8) {shift : UInt32} (small : shift.toNat ≤ 24) :
    (byte.toUInt32 <<< shift).toNat = byte.toNat * 2 ^ shift.toNat := by
  have room : byte.toNat * 2 ^ shift.toNat < 2 ^ 8 * 2 ^ 24 :=
    Nat.mul_lt_mul_of_lt_of_le byte.toNat_lt (Nat.pow_le_pow_right (by decide) small) (by decide)
  have place : shift.toNat % 32 = shift.toNat := Nat.mod_eq_of_lt (by omega)
  rw [UInt32.toNat_shiftLeft, UInt8.toNat_toUInt32, place, Nat.shiftLeft_eq]
  exact Nat.mod_eq_of_lt room

/-- Four bytes, most significant first. -/
def joined (first second third fourth : UInt8) : UInt32 :=
  first.toUInt32 <<< 24 ||| second.toUInt32 <<< 16 ||| third.toUInt32 <<< 8 ||| fourth.toUInt32

theorem joined_toNat (first second third fourth : UInt8) :
    (joined first second third fourth).toNat = beValue [first, second, third, fourth] := by
  have secondSmall := second.toNat_lt
  have thirdSmall := third.toNat_lt
  have two : first.toNat * 2 ^ 24 ||| second.toNat * 2 ^ 16 = (first.toNat * 2 ^ 8 + second.toNat) * 2 ^ 16 := by
    rw [or_eq_add _ (by omega)]
    omega
  have three : (first.toNat * 2 ^ 8 + second.toNat) * 2 ^ 16 ||| third.toNat * 2 ^ 8 =
      ((first.toNat * 2 ^ 8 + second.toNat) * 2 ^ 8 + third.toNat) * 2 ^ 8 := by
    rw [or_eq_add _ (by omega)]
    omega
  rw [joined, UInt32.toNat_or, UInt32.toNat_or, UInt32.toNat_or, shifted_toNat first (by decide),
    shifted_toNat second (by decide), shifted_toNat third (by decide), UInt8.toNat_toUInt32]
  show first.toNat * 2 ^ 24 ||| second.toNat * 2 ^ 16 ||| third.toNat * 2 ^ 8 ||| fourth.toNat = _
  rw [two, three, or_eq_add _ fourth.toNat_lt]
  simp only [beValue, List.length_cons, List.length_nil]
  omega

/-- The bytes of a number joined again. -/
theorem joined_beBytes (number : Nat) :
    joined (UInt8.ofNat (number / 256 ^ 3)) (UInt8.ofNat (number / 256 ^ 2)) (UInt8.ofNat (number / 256 ^ 1))
      (UInt8.ofNat (number / 256 ^ 0)) = UInt32.ofNat number := by
  apply UInt32.toNat.inj
  rw [joined_toNat]
  exact (beValue_beBytes 4 number).trans UInt32.toNat_ofNat'.symm

theorem joined_low (third fourth : UInt8) :
    joined 0 0 third fourth = third.toUInt32 <<< 8 ||| fourth.toUInt32 := by
  show (0 : UInt32) ||| (0 : UInt32) ||| third.toUInt32 <<< 8 ||| fourth.toUInt32 = _
  rw [UInt32.zero_or, UInt32.zero_or]

/-! ## Sign extension -/

/-- An `int`, given by its bits, as a 64-bit number. -/
def signExtended (value : UInt32) : UInt64 := value.toInt32.toInt64.toUInt64

theorem signExtended_or (first second : UInt32) :
    signExtended (first ||| second) = signExtended first ||| signExtended second := by
  simp only [signExtended, UInt32.toInt32_or, Int32.toInt64_or, Int64.toUInt64_or]

/-- The bits above the sign repeat it. -/
theorem signExtended_toNat (value : UInt32) :
    (signExtended value).toNat = if value.toNat < 2 ^ 31 then value.toNat else value.toNat + (2 ^ 64 - 2 ^ 32) := by
  have small := value.toNat_lt
  show (BitVec.signExtend 64 value.toBitVec).toNat = _
  rw [BitVec.toNat_signExtend]
  simp only [BitVec.toNat_setWidth, BitVec.msb_eq_decide, UInt32.toNat_toBitVec, decide_eq_true_eq]
  rw [Nat.mod_eq_of_lt (by omega)]
  split <;> split <;> omega

/-- `p[0] << 8 | p[1]` of two signed characters, as a `uint16_t`. -/
def signedShort (high low : UInt8) : UInt16 :=
  (high.toInt8.toInt32 <<< 8 ||| low.toInt8.toInt32).toInt16.toUInt16

/-- The sign of the low byte fills the high byte. -/
theorem signedShort_toNat (high low : UInt8) :
    (signedShort high low).toNat = if low.toNat < 128 then high.toNat * 2 ^ 8 + low.toNat else 0xff00 + low.toNat := by
  have shifted : forall high : Fin 256,
      ((UInt8.ofNat high.val).toInt8.toInt32 <<< 8).toInt16.toUInt16 = UInt16.ofNat (high.val * 2 ^ 8) := by
    decide +kernel
  have extended : forall low : Fin 256, (UInt8.ofNat low.val).toInt8.toInt32.toInt16.toUInt16 =
      if low.val < 128 then UInt16.ofNat low.val else 0xff00 ||| UInt16.ofNat low.val := by
    decide +kernel
  have filled : forall high : Fin 256, UInt16.ofNat (high.val * 2 ^ 8) ||| 0xff00 = 0xff00 := by
    decide +kernel
  have highPart := shifted ⟨high.toNat, high.toNat_lt⟩
  have lowPart := extended ⟨low.toNat, low.toNat_lt⟩
  have fill := filled ⟨high.toNat, high.toNat_lt⟩
  have highBound := high.toNat_lt
  have lowBound := low.toNat_lt
  simp only [UInt8.ofNat_toNat] at highPart lowPart fill
  rw [signedShort, Int32.toInt16_or, Int16.toUInt16_or, highPart, lowPart]
  by_cases small : low.toNat < 128
  · rw [if_pos small, if_pos small, UInt16.toNat_or, UInt16.toNat_ofNat', UInt16.toNat_ofNat',
      Nat.mod_eq_of_lt (by omega), Nat.mod_eq_of_lt (by omega), or_eq_add _ (by omega)]
  · have sum : 0xff00 ||| low.toNat = 0xff00 + low.toNat := or_eq_add 0xff lowBound
    rw [if_neg small, if_neg small, ← UInt16.or_assoc, fill, UInt16.toNat_or, UInt16.toNat_ofNat',
      Nat.mod_eq_of_lt (by omega)]
    exact sum

/-! ## Byte order -/

/-- `htonl` and `ntohl` where the lowest byte comes first. -/
def swapped (word : UInt32) : UInt32 := UInt32.ofNat (beValue (beBytes 4 word.toNat).reverse)

theorem swapped_swapped (word : UInt32) : swapped (swapped word) = word := by
  have length : (beBytes 4 word.toNat).reverse.length = 4 := by
    rw [List.length_reverse, beBytes_length]
  have bound := beValue_lt (beBytes 4 word.toNat).reverse
  have back := beBytes_beValue (beBytes 4 word.toNat).reverse
  rw [length] at bound back
  replace bound : beValue (beBytes 4 word.toNat).reverse < 2 ^ 32 := bound
  apply UInt32.toNat.inj
  rw [swapped, swapped, UInt32.toNat_ofNat', UInt32.toNat_ofNat', Nat.mod_eq_of_lt bound, back, List.reverse_reverse,
    beValue_beBytes_of_lt word.toNat_lt, Nat.mod_eq_of_lt word.toNat_lt]

end Library
end RtmpClient
