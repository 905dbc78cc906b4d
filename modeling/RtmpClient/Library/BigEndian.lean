import Mathlib.Tactic.Common
import Mathlib.Tactic.Ring

namespace RtmpClient
namespace Library

/-!
# Fixed-width numbers in network byte order

`beBytes width value` is the `width`-byte string with the most significant
byte first, of `value` modulo `256 ^ width`.  `beValue` reads such a string
back.  The two are inverse on the strings of one width.
-/

/-- The lowest `width` bytes of a number, most significant first. -/
def beBytes : (width : Nat) -> (value : Nat) -> List UInt8
  | 0, _ => []
  | width + 1, value => UInt8.ofNat (value / 256 ^ width) :: beBytes width value

/-- The number that a byte string spells, most significant byte first. -/
def beValue : List UInt8 -> Nat
  | [] => 0
  | head :: tail => head.toNat * 256 ^ tail.length + beValue tail

@[simp] theorem beBytes_length (width value : Nat) : (beBytes width value).length = width := by
  induction width with
  | zero => rfl
  | succ width inductionHypothesis => simp only [beBytes, List.length_cons, inductionHypothesis]

theorem beValue_lt (bytes : List UInt8) : beValue bytes < 256 ^ bytes.length := by
  induction bytes with
  | nil => exact Nat.one_pos
  | cons head tail inductionHypothesis =>
      have top : head.toNat ≤ 255 := Nat.le_of_lt_succ head.toNat_lt
      calc
        beValue (head :: tail) < head.toNat * 256 ^ tail.length + 256 ^ tail.length :=
          Nat.add_lt_add_left inductionHypothesis _
        _ ≤ 255 * 256 ^ tail.length + 256 ^ tail.length :=
          Nat.add_le_add_right (Nat.mul_le_mul_right _ top) _
        _ = 256 ^ (head :: tail).length := by rw [List.length_cons, pow_succ]; ring

/-- Reading back what was written gives the value modulo the width. -/
theorem beValue_beBytes (width value : Nat) : beValue (beBytes width value) = value % 256 ^ width := by
  induction width with
  | zero => simp only [beBytes, beValue, pow_zero, Nat.mod_one]
  | succ width inductionHypothesis =>
      have byte : (UInt8.ofNat (value / 256 ^ width)).toNat = value / 256 ^ width % 256 := by
        simp only [UInt8.toNat_ofNat']
      simp only [beBytes, beValue, beBytes_length, inductionHypothesis, byte]
      rw [pow_succ, Nat.mod_mul, Nat.mul_comm, Nat.add_comm]

theorem beValue_beBytes_of_lt {width value : Nat} (fits : value < 256 ^ width) :
    beValue (beBytes width value) = value := by
  rw [beValue_beBytes, Nat.mod_eq_of_lt fits]

/-- Only the lowest bytes of the number are written. -/
theorem beBytes_mod (width value : Nat) : beBytes width (value % 256 ^ width) = beBytes width value := by
  suffices general : forall extra, beBytes width (value % 256 ^ (width + extra)) = beBytes width value from general 0
  induction width with
  | zero => intro extra; rfl
  | succ width inductionHypothesis =>
      intro extra
      have tail := inductionHypothesis (extra + 1)
      rw [show width + (extra + 1) = width + 1 + extra by omega] at tail
      have split : 256 ^ (width + 1 + extra) = 256 ^ width * (256 ^ extra * 256) := by
        rw [show width + 1 + extra = width + (extra + 1) by omega, pow_add, pow_succ]
      have head : UInt8.ofNat (value % 256 ^ (width + 1 + extra) / 256 ^ width) =
          UInt8.ofNat (value / 256 ^ width) := by
        apply UInt8.toNat.inj
        simp only [UInt8.toNat_ofNat']
        rw [split, Nat.mod_mul_right_div_self, Nat.mod_mul_left_mod]
      simp only [beBytes, head, tail]

/-- Writing back what was read gives the same bytes. -/
theorem beBytes_beValue (bytes : List UInt8) : beBytes bytes.length (beValue bytes) = bytes := by
  induction bytes with
  | nil => rfl
  | cons head tail inductionHypothesis =>
      have small := beValue_lt tail
      have positive : 0 < 256 ^ tail.length := Nat.pow_pos (by decide)
      have quotient : beValue (head :: tail) / 256 ^ tail.length = head.toNat := by
        rw [beValue, Nat.mul_comm, Nat.mul_add_div positive, Nat.div_eq_of_lt small, Nat.add_zero]
      have lower : beBytes tail.length (beValue (head :: tail)) = tail := by
        rw [← beBytes_mod, beValue, Nat.mul_comm, Nat.mul_add_mod, Nat.mod_eq_of_lt small]
        exact inductionHypothesis
      rw [List.length_cons, beBytes, quotient, lower, UInt8.ofNat_toNat]

end Library
end RtmpClient
