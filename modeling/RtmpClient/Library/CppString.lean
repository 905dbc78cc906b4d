import Mathlib.Algebra.Ring.Int.Defs
import Mathlib.Data.List.TakeWhile
import RtmpClient.Library.Outcome

namespace RtmpClient
namespace Library

/-!
# Byte strings

What `std::string` is used for: literals, the search for a character or a
piece, and cutting at a position.  A position that is not found is `none`,
which stands for `npos`; a string is shorter than that.
-/

/-- The bytes of a string literal. -/
def ascii (text : String) : List UInt8 := text.toList.map fun letter => UInt8.ofNat letter.toNat

/-- `c_str` and back: a C string ends at the first zero byte. -/
def cStr (text : List UInt8) : List UInt8 := text.takeWhile (· ≠ 0)

theorem cStr_of_not_mem {text : List UInt8} (noNul : ¬ 0 ∈ text) : cStr text = text := by
  rw [cStr, List.takeWhile_eq_self_iff]
  intro letter member
  have nonzero : letter ≠ 0 := fun zero => noNul (zero ▸ member)
  simp only [nonzero, ne_eq, not_false_eq_true, decide_true]

/-- Only a text without a zero byte comes back whole. -/
theorem cStr_eq_self_iff {text : List UInt8} : cStr text = text ↔ ¬ 0 ∈ text := by
  constructor
  · intro whole member
    rw [cStr, List.takeWhile_eq_self_iff] at whole
    have nonzero := whole 0 member
    exact absurd rfl (of_decide_eq_true nonzero)
  · exact cStr_of_not_mem

/-! ## Searching and cutting -/

/-- `find_first_of` of one character. -/
def findFirstOf (text : List UInt8) (letter : UInt8) : Option Nat := text.idxOf? letter

/-- `find`, the first position at which the piece stands. -/
def findPiece (piece : List UInt8) : List UInt8 -> Option Nat
  | [] => if piece = [] then some 0 else none
  | letter :: text =>
      if piece.isPrefixOf (letter :: text) then some 0 else (findPiece piece text).map (· + 1)

/-- `position + count`, which for `npos` wraps around to `count - 1`. -/
def behind (position : Option Nat) (count : Nat) : Nat :=
  match position with
  | some position => position + count
  | none => count - 1

/-- `substr(start)`; `none` when it throws. -/
def substrFrom (text : List UInt8) (start : Nat) : Option (List UInt8) :=
  if start ≤ text.length then some (text.drop start) else none

/-- `substr(0, count)`. -/
def substrTo (text : List UInt8) (count : Option Nat) : List UInt8 :=
  match count with
  | some count => text.take count
  | none => text

theorem findFirstOf_append {before rest : List UInt8} {letter : UInt8} (absent : letter ∉ before) :
    findFirstOf (before ++ letter :: rest) letter = some before.length := by
  induction before with
  | nil =>
      rw [List.nil_append, findFirstOf, List.idxOf?_cons, beq_self_eq_true]
      rfl
  | cons first before inductionHypothesis =>
      rw [List.mem_cons, not_or] at absent
      have different : (first == letter) = false := beq_false_of_ne (Ne.symm absent.1)
      have later : List.idxOf? letter (before ++ letter :: rest) = some before.length :=
        inductionHypothesis absent.2
      rw [List.cons_append, findFirstOf, List.idxOf?_cons, different, later]
      rfl

/-- What stands around a character that is found. -/
theorem findFirstOf_split {text : List UInt8} {letter : UInt8} {position : Nat}
    (found : findFirstOf text letter = some position) : Exists fun before => Exists fun rest =>
      letter ∉ before ∧ text = before ++ letter :: rest ∧ position = before.length := by
  induction text generalizing position with
  | nil => cases found
  | cons first text inductionHypothesis =>
      rw [findFirstOf, List.idxOf?_cons] at found
      by_cases same : first = letter
      · rw [same, beq_self_eq_true] at found
        cases found
        exact ⟨[], text, List.not_mem_nil, by rw [same, List.nil_append], rfl⟩
      · rw [beq_false_of_ne same] at found
        rcases Option.map_eq_some_iff.mp found with ⟨later, found', rfl⟩
        rcases inductionHypothesis found' with ⟨before, rest, absent, split, length⟩
        refine ⟨first :: before, rest, ?_, ?_, ?_⟩
        · rw [List.mem_cons, not_or]
          exact ⟨Ne.symm same, absent⟩
        · rw [split, List.cons_append]
        · rw [length, List.length_cons]

theorem findFirstOf_eq_none {text : List UInt8} {letter : UInt8} (absent : letter ∉ text) :
    findFirstOf text letter = none :=
  List.idxOf?_eq_none_iff.mpr absent

theorem findPiece_prefix (piece rest : List UInt8) : findPiece piece (piece ++ rest) = some 0 := by
  cases text : piece ++ rest with
  | nil =>
      rw [findPiece, if_pos (List.append_eq_nil_iff.mp text).1]
  | cons letter others =>
      have stands : piece.isPrefixOf (letter :: others) = true := by
        rw [← text, List.isPrefixOf_iff_prefix]
        exact List.prefix_append piece rest
      rw [findPiece, if_pos stands]

/-- What follows a part that was found. -/
theorem substrFrom_append (before rest : List UInt8) :
    substrFrom (before ++ rest) before.length = some rest := by
  have inside : before.length ≤ (before ++ rest).length := by
    rw [List.length_append]
    exact Nat.le_add_right _ _
  rw [substrFrom, if_pos inside, List.drop_left]

/-- The text is cut at the first of these characters. -/
theorem substr_cut {before rest : List UInt8} {letter : UInt8} (absent : letter ∉ before) :
    substrTo (before ++ letter :: rest) (findFirstOf (before ++ letter :: rest) letter) = before ∧
      substrFrom (before ++ letter :: rest) (behind (findFirstOf (before ++ letter :: rest) letter) 1) =
        some rest := by
  rw [findFirstOf_append absent]
  constructor
  · exact List.take_left
  · have split : before ++ letter :: rest = (before ++ [letter]) ++ rest := by
      rw [List.append_assoc, List.singleton_append]
    have length : behind (some before.length) 1 = (before ++ [letter]).length := by
      rw [List.length_append]
      rfl
    rw [split, length]
    exact substrFrom_append _ _

/-! ## Streams and numbers -/

/-- `isspace`. -/
def isSpace (letter : UInt8) : Bool := letter = 32 || (9 ≤ letter && letter ≤ 13)

/-- `getline` until it fails, with what it has read of the current line.  A line
that is not ended counts unless it is empty. -/
def linesFrom : (line text : List UInt8) -> List (List UInt8)
  | line, [] => if line = [] then [] else [line]
  | line, letter :: text => if letter = 10 then line :: linesFrom [] text else linesFrom (line ++ [letter]) text

/-- `>>` until it fails, with what it has read of the current word. -/
def wordsFrom : (word text : List UInt8) -> List (List UInt8)
  | word, [] => if word = [] then [] else [word]
  | word, letter :: text =>
      if isSpace letter then if word = [] then wordsFrom [] text else word :: wordsFrom [] text
      else wordsFrom (word ++ [letter]) text

/-- `tolower`. -/
def toLower (letter : UInt8) : UInt8 := if 65 ≤ letter ∧ letter ≤ 90 then letter + 32 else letter

/-- `strcasecmp` finds no difference. -/
def sameNoCase (text other : List UInt8) : Bool := (cStr text).map toLower == (cStr other).map toLower

/-- The value of the leading digits. -/
def digitsValue (text : List UInt8) : Nat :=
  (text.takeWhile fun letter => 48 ≤ letter && letter ≤ 57).foldl
    (fun value letter => 10 * value + (letter.toNat - 48)) 0

/-- `atoi`; `none` where the value is not an `int` and the result is undefined. -/
def atoi (text : List UInt8) : Option Int32 :=
  let value : Int :=
    match text.dropWhile isSpace with
    | 45 :: rest => -digitsValue rest
    | 43 :: rest => digitsValue rest
    | rest => digitsValue rest
  if -2 ^ 31 ≤ value ∧ value < 2 ^ 31 then some (Int32.ofInt value) else none

end Library
end RtmpClient
