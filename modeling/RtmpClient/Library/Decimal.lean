import Mathlib.Algebra.Ring.Nat
import RtmpClient.Library.CppString

namespace RtmpClient
namespace Library

/-!
# Numbers as decimal text

What `<<` writes of an unsigned number, and that `atoi` reads it back.
-/

/-- The digits of a number. -/
def decimal (number : Nat) : List UInt8 := (Nat.toDigits 10 number).map fun digit => UInt8.ofNat digit.toNat

/-- `isdigit`. -/
def isDigit (letter : UInt8) : Bool := 48 ≤ letter && letter ≤ 57

theorem isDigit_iff {letter : UInt8} : isDigit letter = true ↔ 48 ≤ letter.toNat ∧ letter.toNat ≤ 57 := by
  rw [isDigit, Bool.and_eq_true, decide_eq_true_iff, decide_eq_true_iff, UInt8.le_iff_toNat_le, UInt8.le_iff_toNat_le]
  exact Iff.rfl

/-- A digit keeps its number as a byte. -/
theorem digit_toNat {digit : Char} (isDigit : digit.isDigit) :
    (UInt8.ofNat digit.toNat).toNat = digit.toNat ∧ 48 ≤ digit.toNat ∧ digit.toNat ≤ 57 := by
  have bounds := Char.isDigit_iff_toNat.mp isDigit
  have low : '0'.toNat = 48 := rfl
  have high : '9'.toNat = 57 := rfl
  rw [UInt8.toNat_ofNat']
  omega

theorem isDigit_of_mem_decimal {number : Nat} {letter : UInt8} (member : letter ∈ decimal number) :
    isDigit letter = true := by
  rcases List.mem_map.mp member with ⟨digit, found, rfl⟩
  have bounds := digit_toNat (Nat.isDigit_of_mem_toDigits (by decide) (by decide) found)
  rw [isDigit_iff]
  omega

theorem decimal_ne_nil (number : Nat) : decimal number ≠ [] := by
  intro empty
  exact Nat.toDigits_ne_nil (List.map_eq_nil_iff.mp empty)

/-- Digits as bytes spell the same number. -/
theorem digits_foldl {digits : List Char} (all : forall digit, digit ∈ digits -> digit.isDigit) (start : Nat) :
    (digits.map fun digit => UInt8.ofNat digit.toNat).foldl
      (fun value letter => 10 * value + (letter.toNat - 48)) start = Nat.ofDigitChars 10 digits start := by
  induction digits generalizing start with
  | nil => rfl
  | cons digit digits inductionHypothesis =>
      have first := (digit_toNat (all digit List.mem_cons_self)).1
      have zero : '0'.toNat = 48 := rfl
      rw [List.map_cons, List.foldl_cons, Nat.ofDigitChars_cons, first, zero]
      exact inductionHypothesis (fun other member => all other (List.mem_cons_of_mem digit member)) _

/-- The number is read back in front of anything but a digit. -/
theorem digitsValue_decimal (number : Nat) {rest : List UInt8}
    (stops : forall letter, rest.head? = some letter -> isDigit letter = false) :
    digitsValue (decimal number ++ rest) = number := by
  have all : forall letter, letter ∈ decimal number -> isDigit letter = true := fun _ => isDigit_of_mem_decimal
  have none : rest.takeWhile isDigit = [] := by
    cases rest with
    | nil => rfl
    | cons letter rest =>
        rw [List.takeWhile_cons, stops letter rfl]
        rfl
  have front : (decimal number ++ rest).takeWhile isDigit = decimal number := by
    rw [List.takeWhile_append_of_pos all, none, List.append_nil]
  calc
    digitsValue (decimal number ++ rest) =
        (decimal number).foldl (fun value letter => 10 * value + (letter.toNat - 48)) 0 :=
      congrArg (List.foldl _ 0) front
    _ = Nat.ofDigitChars 10 (Nat.toDigits 10 number) 0 :=
      digits_foldl (fun _ member => Nat.isDigit_of_mem_toDigits (by decide) (by decide) member) 0
    _ = number := Nat.ofDigitChars_ten_toDigits

theorem decimal_injective : Function.Injective decimal := by
  intro number other same
  have first : digitsValue (decimal number ++ []) = number := digitsValue_decimal number nofun
  have second : digitsValue (decimal other ++ []) = other := digitsValue_decimal other nofun
  rw [← first, same, second]

/-- A text that begins with a digit has no blanks and no sign to skip. -/
theorem atoi_of_digit {first : UInt8} (digit : isDigit first = true) (rest : List UInt8) :
    atoi (first :: rest) =
      if digitsValue (first :: rest) < 2 ^ 31 then some (Int32.ofInt (digitsValue (first :: rest))) else none := by
  have bounds := isDigit_iff.mp digit
  have plain : isSpace first = false := by
    rw [isSpace, Bool.or_eq_false_iff, Bool.and_eq_false_iff]
    constructor
    · apply decide_eq_false
      rintro rfl
      exact absurd bounds.1 (by decide)
    · right
      apply decide_eq_false
      rw [UInt8.le_iff_toNat_le]
      show ¬ first.toNat ≤ 13
      omega
  have skipped : (first :: rest).dropWhile isSpace = first :: rest := by
    rw [List.dropWhile_cons, plain]
    rfl
  rw [atoi, skipped]
  split
  next minus =>
    cases minus
    exact absurd digit (by decide)
  next plus =>
    cases plus
    exact absurd digit (by decide)
  next =>
    by_cases small : digitsValue (first :: rest) < 2 ^ 31
    · rw [if_pos small]
      exact if_pos ⟨by omega, by omega⟩
    · rw [if_neg small]
      exact if_neg fun fits => small (by omega)

/-- The number of a text that is a decimal number. -/
theorem atoi_decimal {number : Nat} (small : number < 2 ^ 31) :
    atoi (decimal number) = some (Int32.ofInt number) := by
  have value : digitsValue (decimal number ++ []) = number := digitsValue_decimal number nofun
  rw [List.append_nil] at value
  cases text : decimal number with
  | nil => exact absurd text (decimal_ne_nil number)
  | cons first rest =>
      have digit : isDigit first = true := by
        apply isDigit_of_mem_decimal
        rw [text]
        exact List.mem_cons_self
      rw [atoi_of_digit digit, ← text, value, if_pos small]

end Library
end RtmpClient
