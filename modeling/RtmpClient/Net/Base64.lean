import Mathlib.Algebra.Order.Group.Nat
import Mathlib.Data.List.DropRight
import RtmpClient.Library.AnnexB
import RtmpClient.Library.CInt
import RtmpClient.Library.CppString
import RtmpClient.Library.Layout
import RtmpClient.Library.ShiftedBytes

namespace RtmpClient
namespace Net

open Library

/-!
# Base64 (`base/Base64.cc`)

A result is a buffer that the call allocates; `fresh` is what stands in it
before.  A text that is decoded is a C string, so it is given without its zero
byte.
-/

/-- `base64Char`. -/
def base64Char (sextet : UInt8) : UInt8 :=
  (ascii "ABCDEFGHIJKLMNOPQRSTUVWXYZabcdefghijklmnopqrstuvwxyz0123456789+/").getD sextet.toNat 0

/-- `'='`. -/
def padChar : UInt8 := 0x3d

/-- The four characters of a full group. -/
def groupChars (first second third : UInt8) : List UInt8 :=
  [base64Char ((first >>> 2) &&& 0x3f),
    base64Char ((((first &&& 0x3) <<< 4) ||| (second >>> 4)) &&& 0x3f),
    base64Char (((second <<< 2) ||| (third >>> 6)) &&& 0x3f),
    base64Char (third &&& 0x3f)]

/-- The body of the first loop. -/
def encodeGroup (orig result : List UInt8) (i : Nat) : Outcome (List UInt8) := do
  let first ← Outcome.read orig (3 * i)
  let second ← Outcome.read orig (3 * i + 1)
  let third ← Outcome.read orig (3 * i + 2)
  Outcome.copyInto result (4 * i % 2 ^ 32) (groupChars first second third)

/-- The last group, of one byte or of two. -/
def encodePadding (orig result : List UInt8) (i : Nat) (havePadding2 : Bool) : Outcome (List UInt8) := do
  let first ← Outcome.read orig (3 * i)
  if havePadding2 then do
    let second ← Outcome.read orig (3 * i + 1)
    Outcome.copyInto result (4 * i % 2 ^ 32)
      [base64Char ((first >>> 2) &&& 0x3f), base64Char ((((first &&& 0x3) <<< 4) ||| (second >>> 4)) &&& 0x3f),
        base64Char ((second <<< 2) &&& 0x3f), padChar]
  else
    Outcome.copyInto result (4 * i % 2 ^ 32)
      [base64Char ((first >>> 2) &&& 0x3f), base64Char (((first &&& 0x3) <<< 4) &&& 0x3f), padChar, padChar]

/-- `base64Encode`, with the zero byte at the end of its result. -/
def base64Encode (fresh : Nat -> UInt8) (orig : List UInt8) : Outcome (List UInt8) := do
  let numOrig24BitValues := orig.length / 3
  let havePadding := decide (orig.length > numOrig24BitValues * 3)
  let havePadding2 := decide (orig.length = numOrig24BitValues * 3 + 2)
  let numResultBytes := 4 * (numOrig24BitValues + havePadding.toNat) % 2 ^ 32
  let result := (List.range (numResultBytes + 1)).map fresh
  let result ← (List.range numOrig24BitValues).foldlM (encodeGroup orig) result
  let result ← if havePadding then encodePadding orig result numOrig24BitValues havePadding2 else .ok result
  Outcome.copyInto result numResultBytes [0]

/-- `base64DecodeTable` as `initBase64DecodeTable` leaves it. -/
def base64DecodeTable (letter : UInt8) : UInt8 :=
  if 0x41 ≤ letter ∧ letter ≤ 0x5a then letter - 0x41
  else if 0x61 ≤ letter ∧ letter ≤ 0x7a then 26 + (letter - 0x61)
  else if 0x30 ≤ letter ∧ letter ≤ 0x39 then 52 + (letter - 0x30)
  else if letter = 0x2b then 62
  else if letter = 0x2f then 63
  else if letter = 0x3d then 0
  else 0x80

/-- A letter that is not in the table counts as `'A'`. -/
def decodeLetter (letter : UInt8) : UInt8 :=
  if base64DecodeTable letter &&& 0x80 ≠ 0 then 0 else base64DecodeTable letter

/-- The three bytes that four letters stand for. -/
def decodeGroup (first second third fourth : UInt8) : List UInt8 :=
  [(decodeLetter first <<< 2) ||| (decodeLetter second >>> 4),
    (decodeLetter second <<< 4) ||| (decodeLetter third >>> 2),
    (decodeLetter third <<< 6) ||| decodeLetter fourth]

/-- The loop over the groups: how many bytes it has written, and the buffer. -/
def decodeGroups (text : List UInt8) (jMax j : Int) (k : Nat) (out : List UInt8) : Outcome (Nat × List UInt8) :=
  if j < jMax then do
    let first ← Outcome.read text j.toNat
    let second ← Outcome.read text (j + 1).toNat
    let third ← Outcome.read text (j + 2).toNat
    let fourth ← Outcome.read text (j + 3).toNat
    let out ← Outcome.copyInto out k (decodeGroup first second third fourth)
    if FitsInt (j + 4) then decodeGroups text jMax (j + 4) (k + 3) out else .fault
  else .ok (k, out)
termination_by (jMax - j).toNat

/-- The loop of `trimTrailingZeros`. -/
def trimZeros (out : List UInt8) : (k : Nat) -> Outcome Nat
  | 0 => .ok 0
  | k + 1 => do
      let last ← Outcome.read out k
      if last = 0 then trimZeros out k else .ok (k + 1)

/-- `base64Decode`; `resultSize` is the length of the result. -/
def base64Decode (fresh : Nat -> UInt8) (text : List UInt8) (trimTrailingZeros : Bool) : Outcome (List UInt8) := do
  let out := (List.range (text.length + 1)).map fresh
  let (k, out) ← decodeGroups text (asInt (text.length - 3)) 0 0 out
  let k ← if trimTrailingZeros then trimZeros out k else .ok k
  if k ≤ out.length then .ok (out.take k) else .fault

/-! ## What is written and what is read -/

/-- The text of some bytes. -/
def base64Text : List UInt8 -> List UInt8
  | first :: second :: third :: others => groupChars first second third ++ base64Text others
  | [first, second] =>
      [base64Char ((first >>> 2) &&& 0x3f), base64Char ((((first &&& 0x3) <<< 4) ||| (second >>> 4)) &&& 0x3f),
        base64Char ((second <<< 2) &&& 0x3f), padChar]
  | [first] => [base64Char ((first >>> 2) &&& 0x3f), base64Char (((first &&& 0x3) <<< 4) &&& 0x3f), padChar, padChar]
  | [] => []

/-- The bytes of a text, three for each four letters. -/
def base64Bytes : List UInt8 -> List UInt8
  | first :: second :: third :: fourth :: others => decodeGroup first second third fourth ++ base64Bytes others
  | _ => []

theorem base64Text_length (data : List UInt8) : (base64Text data).length = 4 * ((data.length + 2) / 3) := by
  induction data using base64Text.induct with
  | case1 first second third others inductionHypothesis =>
      rw [base64Text, List.length_append, inductionHypothesis]
      simp only [groupChars, List.length_cons, List.length_nil]
      omega
  | case2 first second => simp only [base64Text, List.length_cons, List.length_nil]
  | case3 first => simp only [base64Text, List.length_cons, List.length_nil]
  | case4 => rfl

theorem base64Bytes_length (text : List UInt8) : (base64Bytes text).length = 3 * (text.length / 4) := by
  induction text using base64Bytes.induct with
  | case1 first second third fourth others inductionHypothesis =>
      rw [base64Bytes, List.length_append, inductionHypothesis]
      simp only [decodeGroup, List.length_cons, List.length_nil]
      omega
  | case2 text short =>
      rw [base64Bytes]
      · rcases text with _ | ⟨first, _ | ⟨second, _ | ⟨third, _ | ⟨fourth, others⟩⟩⟩⟩
        · rfl
        · simp only [List.length_cons, List.length_nil]
        · simp only [List.length_cons, List.length_nil]
        · simp only [List.length_cons, List.length_nil]
        · exact absurd rfl (short first second third fourth others)
      · exact short

/-- Whole groups are encoded apart from what follows them. -/
theorem base64Text_append {first : List UInt8} (groups : first.length % 3 = 0) (others : List UInt8) :
    base64Text (first ++ others) = base64Text first ++ base64Text others := by
  induction first using base64Text.induct with
  | case1 one two three rest inductionHypothesis =>
      have shorter : rest.length % 3 = 0 := by
        simp only [List.length_cons] at groups
        omega
      simp only [List.cons_append, base64Text, inductionHypothesis shorter, List.append_assoc]
  | case2 one two => cases groups
  | case3 one => cases groups
  | case4 => rfl

/-! ## Sextets -/

theorem base64Char_decode {sextet : UInt8} (small : sextet.toNat < 64) : decodeLetter (base64Char sextet) = sextet := by
  have all : forall index : Fin 64, decodeLetter (base64Char (UInt8.ofNat index.val)) = UInt8.ofNat index.val := by
    decide +kernel
  have here := all ⟨sextet.toNat, small⟩
  rwa [UInt8.ofNat_toNat] at here

/-- A letter, a digit or a sign. -/
theorem base64Char_letter {sextet : UInt8} (small : sextet.toNat < 64) : 42 < base64Char sextet := by
  have all : forall index : Fin 64, 42 < base64Char (UInt8.ofNat index.val) := by decide +kernel
  have here := all ⟨sextet.toNat, small⟩
  rwa [UInt8.ofNat_toNat] at here

theorem masked_toNat (byte : UInt8) : (byte &&& 0x3f).toNat = byte.toNat % 64 := by
  rw [UInt8.toNat_and]
  exact Nat.and_two_pow_sub_one_eq_mod byte.toNat 6

theorem masked_lt (byte : UInt8) : (byte &&& 0x3f).toNat < 64 := by
  rw [masked_toNat]
  exact Nat.mod_lt _ (by decide)

section Sextets

variable (first second third : UInt8)

theorem firstSextet_toNat : ((first >>> 2) &&& 0x3f).toNat = first.toNat / 4 := by
  have small := first.toNat_lt
  rw [masked_toNat, UInt8.toNat_shiftRight]
  show first.toNat >>> 2 % 64 = _
  rw [Nat.shiftRight_eq_div_pow]
  omega

theorem secondSextet_toNat :
    ((((first &&& 0x3) <<< 4) ||| (second >>> 4)) &&& 0x3f).toNat = first.toNat % 4 * 16 + second.toNat / 16 := by
  have small := second.toNat_lt
  have low : (first &&& 0x3).toNat = first.toNat % 4 := by
    rw [UInt8.toNat_and]
    exact Nat.and_two_pow_sub_one_eq_mod first.toNat 2
  rw [masked_toNat, UInt8.toNat_or, UInt8.toNat_shiftLeft, UInt8.toNat_shiftRight, low]
  show ((first.toNat % 4) <<< 4 % 256 ||| second.toNat >>> 4) % 64 = _
  have room : first.toNat % 4 * 2 ^ 4 % 256 = first.toNat % 4 * 2 ^ 4 := Nat.mod_eq_of_lt (by omega)
  rw [Nat.shiftRight_eq_div_pow, Nat.shiftLeft_eq, room, or_eq_add _ (by omega)]
  omega

theorem thirdSextet_toNat :
    (((second <<< 2) ||| (third >>> 6)) &&& 0x3f).toNat = second.toNat % 16 * 4 + third.toNat / 64 := by
  have small := third.toNat_lt
  rw [masked_toNat, UInt8.toNat_or, UInt8.toNat_shiftLeft, UInt8.toNat_shiftRight]
  show (second.toNat <<< 2 % 256 ||| third.toNat >>> 6) % 64 = _
  have room : second.toNat * 2 ^ 2 % 256 = second.toNat % 64 * 2 ^ 2 := by omega
  rw [Nat.shiftRight_eq_div_pow, Nat.shiftLeft_eq, room, or_eq_add _ (by omega)]
  omega

end Sextets

/-- Two shifted bytes without a bit in common, as decoding joins them. -/
theorem shiftJoin {left right byte : UInt8} (up down : UInt8) (upSmall : up.toNat < 8) (downSmall : down.toNat < 8)
    (fits : left.toNat * 2 ^ up.toNat % 2 ^ 8 + right.toNat / 2 ^ down.toNat = byte.toNat)
    (apart : right.toNat / 2 ^ down.toNat < 2 ^ up.toNat) : left <<< up ||| right >>> down = byte := by
  apply UInt8.toNat.inj
  have split : left.toNat * 2 ^ up.toNat % 2 ^ 8 = left.toNat % 2 ^ (8 - up.toNat) * 2 ^ up.toNat := by
    have power : 2 ^ 8 = 2 ^ (8 - up.toNat) * 2 ^ up.toNat := by
      rw [← Nat.pow_add, Nat.sub_add_cancel (Nat.le_of_lt upSmall)]
    rw [power, Nat.mul_mod_mul_right]
  rw [UInt8.toNat_or, UInt8.toNat_shiftLeft, UInt8.toNat_shiftRight, Nat.mod_eq_of_lt upSmall,
    Nat.mod_eq_of_lt downSmall, Nat.shiftLeft_eq, Nat.shiftRight_eq_div_pow, split, or_eq_add _ apart, ← split, fits]

/-- Sextets that are known by the bytes they were cut from. -/
theorem decodeSextets {first second third one two three four : UInt8} (oneIs : one.toNat = first.toNat / 4)
    (twoIs : two.toNat = first.toNat % 4 * 16 + second.toNat / 16)
    (threeIs : three.toNat = second.toNat % 16 * 4 + third.toNat / 64) (fourIs : four.toNat = third.toNat % 64) :
    [one <<< 2 ||| two >>> 4, two <<< 4 ||| three >>> 2, three <<< 6 ||| four] = [first, second, third] := by
  have firstSmall := first.toNat_lt
  have secondSmall := second.toNat_lt
  have thirdSmall := third.toNat_lt
  have firstFits : one.toNat * 2 ^ 2 % 2 ^ 8 + two.toNat / 2 ^ 4 = first.toNat := by omega
  have secondFits : two.toNat * 2 ^ 4 % 2 ^ 8 + three.toNat / 2 ^ 2 = second.toNat := by omega
  have thirdFits : three.toNat * 2 ^ 6 % 2 ^ 8 + four.toNat / 2 ^ 0 = third.toNat := by omega
  have firstApart : two.toNat / 2 ^ 4 < 2 ^ 2 := by omega
  have secondApart : three.toNat / 2 ^ 2 < 2 ^ 4 := by omega
  have thirdApart : four.toNat / 2 ^ 0 < 2 ^ 6 := by omega
  have last : three <<< 6 ||| four >>> 0 = third := shiftJoin 6 0 (by decide) (by decide) thirdFits thirdApart
  rw [UInt8.shiftRight_zero] at last
  rw [shiftJoin 2 4 (by decide) (by decide) firstFits firstApart,
    shiftJoin 4 2 (by decide) (by decide) secondFits secondApart, last]

/-- A full group is decoded to what it was made of. -/
theorem base64Bytes_groupChars (first second third : UInt8) (others : List UInt8) :
    base64Bytes (groupChars first second third ++ others) = first :: second :: third :: base64Bytes others := by
  simp only [groupChars, List.cons_append, List.nil_append, base64Bytes, decodeGroup, base64Char_decode (masked_lt _)]
  exact congrArg (· ++ base64Bytes others) (decodeSextets (firstSextet_toNat first) (secondSextet_toNat first second)
    (thirdSextet_toNat second third) (masked_toNat third))

/-- How many bytes the last group is short of three. -/
def padLength (length : Nat) : Nat := (3 - length % 3) % 3

/-- What is decoded is what was encoded, and a zero for each byte that the last
group was short of. -/
theorem base64Bytes_base64Text (data : List UInt8) :
    base64Bytes (base64Text data) = data ++ List.replicate (padLength data.length) 0 := by
  induction data using base64Text.induct with
  | case1 first second third others inductionHypothesis =>
      have same : padLength (first :: second :: third :: others).length = padLength others.length := by
        simp only [padLength, List.length_cons]
        omega
      rw [base64Text, base64Bytes_groupChars, inductionHypothesis, same]
      rfl
  | case2 first second =>
      have third := thirdSextet_toNat second 0
      have cleared : (second <<< 2 ||| (0 : UInt8) >>> 6) = second <<< 2 := by
        rw [UInt8.zero_shiftRight, UInt8.or_zero]
      rw [cleared] at third
      simp only [base64Text, base64Bytes, decodeGroup, base64Char_decode (masked_lt _)]
      exact @decodeSextets first second 0 _ _ _ _ (firstSextet_toNat first) (secondSextet_toNat first second) third rfl
  | case3 first =>
      have second := secondSextet_toNat first 0
      have cleared : ((first &&& 0x3) <<< 4 ||| (0 : UInt8) >>> 4) = (first &&& 0x3) <<< 4 := by
        rw [UInt8.zero_shiftRight, UInt8.or_zero]
      rw [cleared] at second
      simp only [base64Text, base64Bytes, decodeGroup, base64Char_decode (masked_lt _)]
      exact @decodeSextets first 0 0 _ _ _ _ (firstSextet_toNat first) second rfl rfl
  | case4 => rfl

/-- A text is legible: it has no zero byte and no line end. -/
theorem base64Text_letters (data : List UInt8) : forall letter, letter ∈ base64Text data -> 42 < letter := by
  have pad : 42 < padChar := by decide
  induction data using base64Text.induct with
  | case1 first second third others inductionHypothesis =>
      rw [base64Text, List.forall_mem_append]
      refine ⟨?_, inductionHypothesis⟩
      simp only [groupChars, List.forall_mem_cons, base64Char_letter (masked_lt _), List.not_mem_nil,
        IsEmpty.forall_iff, implies_true, and_self]
  | case2 first second =>
      simp only [base64Text, List.forall_mem_cons, base64Char_letter (masked_lt _), pad, List.not_mem_nil,
        IsEmpty.forall_iff, implies_true, and_self]
  | case3 first =>
      simp only [base64Text, List.forall_mem_cons, base64Char_letter (masked_lt _), pad, List.not_mem_nil,
        IsEmpty.forall_iff, implies_true, and_self]
  | case4 => nofun

theorem base64Text_without (data : List UInt8) {letter : UInt8} (low : ¬ 42 < letter) : letter ∉ base64Text data :=
  fun member => low (base64Text_letters data letter member)

/-! ## The loops -/

/-- A piece that is copied behind what is written. -/
theorem copyInto_next (written remaining piece : List UInt8) (room : piece.length ≤ remaining.length) :
    Outcome.copyInto (written ++ remaining) written.length piece =
      .ok ((written ++ piece) ++ remaining.drop piece.length) := by
  have inside : written.length + piece.length ≤ (written ++ remaining).length := by
    rw [List.length_append]
    omega
  rw [Outcome.copyInto_of_le inside, overwrite, List.take_left, List.drop_length_add_append, List.append_assoc]

/-- One group is written behind the groups before it. -/
theorem encodeGroup_next {first others cells : List UInt8} {i : Nat} (one two three : UInt8)
    (place : first.length = 3 * i) (small : 4 * i < 2 ^ 32) (room : 4 * i + 4 ≤ cells.length) :
    encodeGroup (first ++ one :: two :: three :: others) (base64Text first ++ cells.drop (4 * i)) i =
      .ok (base64Text (first ++ [one, two, three]) ++ cells.drop (4 * (i + 1))) := by
  have written : (base64Text first).length = 4 * i := by
    rw [base64Text_length, place]
    omega
  have text : base64Text (first ++ [one, two, three]) = base64Text first ++ groupChars one two three := by
    rw [base64Text_append (by omega), base64Text, base64Text, List.append_nil]
  have left : (groupChars one two three).length ≤ (cells.drop (4 * i)).length := by
    rw [List.length_drop]
    exact Nat.le_sub_of_add_le' room
  have copied := copyInto_next (base64Text first) (cells.drop (4 * i)) (groupChars one two three) left
  rw [written, List.drop_drop] at copied
  rw [encodeGroup, ← place, ← Nat.add_zero first.length, Nat.add_assoc, Nat.add_assoc, Outcome.read_behind,
    Outcome.read_behind, Outcome.read_behind, Nat.mod_eq_of_lt small, text]
  exact copied

/-- The loop over the full groups. -/
theorem encodeGroups_eq (orig cells : List UInt8) {count : Nat} (groups : 3 * count ≤ orig.length)
    (small : 4 * count < 2 ^ 32) (room : 4 * count ≤ cells.length) :
    (List.range count).foldlM (encodeGroup orig) cells =
      .ok (base64Text (orig.take (3 * count)) ++ cells.drop (4 * count)) := by
  induction count with
  | zero => rfl
  | succ count inductionHypothesis =>
      have split : orig.take (3 * count) ++ orig.drop (3 * count) = orig := List.take_append_drop _ _
      have place : (orig.take (3 * count)).length = 3 * count := List.length_take_of_le (by omega)
      have left : (orig.drop (3 * count)).length = orig.length - 3 * count := List.length_drop
      rcases tail : orig.drop (3 * count) with _ | ⟨one, _ | ⟨two, _ | ⟨three, others⟩⟩⟩
      · rw [tail, List.length_nil] at left
        omega
      · rw [tail, List.length_singleton] at left
        omega
      · rw [tail, List.length_cons, List.length_singleton] at left
        omega
      · have next : orig.take (3 * (count + 1)) = orig.take (3 * count) ++ [one, two, three] := by
          rw [Nat.mul_succ, List.take_add, tail]
          rfl
        have group := @encodeGroup_next _ others _ _ one two three place (by omega)
          (show 4 * count + 4 ≤ cells.length by omega)
        rw [tail] at split
        rw [split, ← next] at group
        rw [List.range_succ, List.foldlM_append, inductionHypothesis (by omega) (by omega) (by omega),
          Outcome.ok_bind_do, List.foldlM_cons, group]
        rfl

/-- The last group, where it is one byte. -/
theorem encodePadding_one {first written cells : List UInt8} {i : Nat} (one : UInt8) (place : first.length = 3 * i)
    (at_ : written.length = 4 * i) (small : 4 * i < 2 ^ 32) (room : 4 ≤ cells.length) :
    encodePadding (first ++ [one]) (written ++ cells) i false =
      .ok (written ++ base64Text [one] ++ cells.drop 4) := by
  rw [encodePadding, ← place, ← Nat.add_zero first.length, Outcome.read_behind, Nat.mod_eq_of_lt small, ← at_]
  exact copyInto_next written cells _ room

/-- The last group, where it is two bytes. -/
theorem encodePadding_two {first written cells : List UInt8} {i : Nat} (one two : UInt8) (place : first.length = 3 * i)
    (at_ : written.length = 4 * i) (small : 4 * i < 2 ^ 32) (room : 4 ≤ cells.length) :
    encodePadding (first ++ [one, two]) (written ++ cells) i true =
      .ok (written ++ base64Text [one, two] ++ cells.drop 4) := by
  rw [encodePadding, ← place, ← Nat.add_zero first.length, Nat.add_assoc, Outcome.read_behind, Outcome.read_behind,
    Nat.mod_eq_of_lt small, ← at_]
  exact copyInto_next written cells _ room

/-- The zero byte behind the text. -/
theorem endText {text cells : List UInt8} (room : cells.length = text.length + 1) :
    Outcome.copyInto (text ++ cells.drop text.length) text.length [0] = .ok (text ++ [0]) := by
  have one : (cells.drop text.length).length = 1 := by
    rw [List.length_drop]
    omega
  have copied := copyInto_next text (cells.drop text.length) [0] (Nat.le_of_eq one.symm)
  rwa [List.length_singleton, List.drop_eq_nil_of_le (Nat.le_of_eq one), List.append_nil] at copied

/-- The text is written whole where its length is an `unsigned`. -/
theorem base64Encode_eq (fresh : Nat -> UInt8) {orig : List UInt8} (small : 4 * ((orig.length + 2) / 3) < 2 ^ 32) :
    base64Encode fresh orig = .ok (base64Text orig ++ [0]) := by
  have count : (orig.take (3 * (orig.length / 3))).length = 3 * (orig.length / 3) := List.length_take_of_le (by omega)
  have left : (orig.drop (3 * (orig.length / 3))).length = orig.length % 3 := by
    rw [List.length_drop]
    omega
  have split : orig.take (3 * (orig.length / 3)) ++ orig.drop (3 * (orig.length / 3)) = orig :=
    List.take_append_drop _ _
  have whole : base64Text orig =
      base64Text (orig.take (3 * (orig.length / 3))) ++ base64Text (orig.drop (3 * (orig.length / 3))) := by
    rw [← base64Text_append (by omega), split]
  have written : (base64Text (orig.take (3 * (orig.length / 3)))).length = 4 * (orig.length / 3) := by
    rw [base64Text_length, count]
    omega
  have size := base64Text_length orig
  have room (width : Nat) : ((List.range width).map fresh).length = width := by
    rw [List.length_map, List.length_range]
  have groups (width : Nat) (enough : 4 * (orig.length / 3) ≤ width) :=
    @encodeGroups_eq orig ((List.range width).map fresh) (orig.length / 3) (by omega) (by omega)
      (by rw [room]; exact enough)
  rcases tail : orig.drop (3 * (orig.length / 3)) with _ | ⟨one, _ | ⟨two, _ | ⟨three, others⟩⟩⟩
  · rw [tail, List.length_nil] at left
    rw [tail, base64Text, List.append_nil] at whole
    have exactly : decide (orig.length > orig.length / 3 * 3) = false := decide_eq_false (by omega)
    have result : 4 * (orig.length / 3 + false.toNat) % 2 ^ 32 = (base64Text orig).length := by
      rw [size, Bool.toNat_false]
      omega
    simp only [base64Encode, exactly, result]
    rw [groups _ (by omega), ← whole, ← written, ← whole]
    exact endText (room _)
  · rw [tail, List.length_singleton] at left
    have end_ : (base64Text orig).length = 4 * (orig.length / 3) + 4 := by omega
    have more : decide (orig.length > orig.length / 3 * 3) = true := decide_eq_true (by omega)
    have notTwo : decide (orig.length = orig.length / 3 * 3 + 2) = false := decide_eq_false (by omega)
    have result : 4 * (orig.length / 3 + true.toNat) % 2 ^ 32 = (base64Text orig).length := by
      rw [size, Bool.toNat_true]
      omega
    have padded (cells : List UInt8) (enough : 4 * (orig.length / 3) + 4 ≤ cells.length) :=
      @encodePadding_one (orig.take (3 * (orig.length / 3))) _ (cells.drop (4 * (orig.length / 3))) _ one count written
        (by omega) (by rw [List.length_drop]; omega)
    rw [tail] at whole split
    rw [split, ← whole] at padded
    simp only [base64Encode, more, notTwo, result, if_true]
    rw [groups _ (by omega), Outcome.ok_bind_do, padded _ (by rw [room]; omega), Outcome.ok_bind_do, List.drop_drop,
      ← end_]
    exact endText (room _)
  · rw [tail, List.length_cons, List.length_singleton] at left
    have end_ : (base64Text orig).length = 4 * (orig.length / 3) + 4 := by omega
    have more : decide (orig.length > orig.length / 3 * 3) = true := decide_eq_true (by omega)
    have two_ : decide (orig.length = orig.length / 3 * 3 + 2) = true := decide_eq_true (by omega)
    have result : 4 * (orig.length / 3 + true.toNat) % 2 ^ 32 = (base64Text orig).length := by
      rw [size, Bool.toNat_true]
      omega
    have padded (cells : List UInt8) (enough : 4 * (orig.length / 3) + 4 ≤ cells.length) :=
      @encodePadding_two (orig.take (3 * (orig.length / 3))) _ (cells.drop (4 * (orig.length / 3))) _ one two count
        written (by omega) (by rw [List.length_drop]; omega)
    rw [tail] at whole split
    rw [split, ← whole] at padded
    simp only [base64Encode, more, two_, result, if_true]
    rw [groups _ (by omega), Outcome.ok_bind_do, padded _ (by rw [room]; omega), Outcome.ok_bind_do, List.drop_drop,
      ← end_]
    exact endText (room _)
  · rw [tail, List.length_cons, List.length_cons, List.length_cons] at left
    omega

/-- The loop over the groups of four letters. -/
theorem decodeGroups_eq {text first rest written cells : List UInt8} (split : text = first ++ rest)
    (short : text.length < 2 ^ 31) (room : (base64Bytes rest).length ≤ cells.length) :
    decodeGroups text (text.length - 3) first.length written.length (written ++ cells) =
      .ok ((written ++ base64Bytes rest).length,
        written ++ base64Bytes rest ++ cells.drop (base64Bytes rest).length) := by
  have total : text.length = first.length + rest.length := by rw [split, List.length_append]
  induction rest using base64Bytes.induct generalizing first written cells with
  | case1 one two three four others inductionHypothesis =>
      have longer : (first.length : Int) < text.length - 3 := by
        simp only [List.length_cons] at total
        omega
      have fits : FitsInt ((first.length : Int) + 4) := by
        simp only [List.length_cons] at total
        rw [FitsInt]
        omega
      have grown : text = (first ++ [one, two, three, four]) ++ others := by
        rw [split, List.append_assoc]
        rfl
      have reads (index : Nat) {place : Int} (here : place.toNat = first.length + index) :
          Outcome.read text place.toNat = Outcome.read (one :: two :: three :: four :: others) index := by
        rw [here, split, Outcome.read_behind]
      have sum : (decodeGroup one two three four ++ base64Bytes others).length = 3 + (base64Bytes others).length :=
        List.length_append
      rw [base64Bytes, sum] at room
      have group : (decodeGroup one two three four).length = 3 := rfl
      have copied := copyInto_next written cells (decodeGroup one two three four) (by omega)
      have again := @inductionHypothesis (first ++ [one, two, three, four]) (written ++ decodeGroup one two three four)
        (cells.drop 3) grown (by rw [List.length_drop]; omega) (by rw [← List.length_append, ← grown])
      have next : ((first ++ [one, two, three, four]).length : Int) = first.length + 4 := by
        rw [List.length_append]
        rfl
      have count : (written ++ decodeGroup one two three four).length = written.length + 3 := List.length_append
      rw [next, count, List.drop_drop] at again
      rw [decodeGroups, if_pos longer, reads 0 rfl, reads 1 (by omega), reads 2 (by omega), reads 3 (by omega)]
      simp only [Outcome.read, List.getElem?_cons_zero, List.getElem?_cons_succ, Outcome.ok_bind_do]
      rw [copied, Outcome.ok_bind_do, if_pos fits, group, again, base64Bytes, sum, ← List.append_assoc]
  | case2 rest few =>
      have done_ : ¬ (first.length : Int) < text.length - 3 := by
        rcases rest with _ | ⟨one, _ | ⟨two, _ | ⟨three, _ | ⟨four, others⟩⟩⟩⟩
        · rw [total, List.length_nil]
          omega
        · rw [total, List.length_singleton]
          omega
        · simp only [List.length_cons, List.length_nil] at total
          omega
        · simp only [List.length_cons, List.length_nil] at total
          omega
        · exact absurd rfl (few one two three four others)
      have nothing : base64Bytes rest = [] := by
        rw [base64Bytes]
        exact few
      rw [decodeGroups, if_neg done_, nothing, List.append_nil]
      rfl

theorem trimZeros_eq (kept others : List UInt8) :
    trimZeros (kept ++ others) kept.length = .ok (kept.rdropWhile (· = 0)).length := by
  induction kept using List.reverseRecOn generalizing others with
  | nil => rfl
  | append_singleton kept last inductionHypothesis =>
      have last_ := Outcome.read_behind kept (last :: others) 0
      rw [Nat.add_zero] at last_
      rw [List.length_append, List.length_singleton, List.append_assoc, List.singleton_append, trimZeros, last_,
        Outcome.read_cons_zero, Outcome.ok_bind_do]
      by_cases zero : last = 0
      · rw [if_pos zero, inductionHypothesis, List.rdropWhile_concat, if_pos (decide_eq_true zero)]
      · rw [if_neg zero, List.rdropWhile_concat, if_neg (by rw [decide_eq_true_eq]; exact zero), List.length_append,
          List.length_singleton]

/-- What is decoded of a text. -/
theorem base64Decode_eq (fresh : Nat -> UInt8) {text : List UInt8} (short : text.length < 2 ^ 31)
    (trimTrailingZeros : Bool) : base64Decode fresh text trimTrailingZeros =
      .ok (if trimTrailingZeros then (base64Bytes text).rdropWhile (· = 0) else base64Bytes text) := by
  have fits : FitsInt ((text.length : Int) - 3) := by
    rw [FitsInt]
    omega
  have size := base64Bytes_length text
  have cells : ((List.range (text.length + 1)).map fresh).length = text.length + 1 := by
    rw [List.length_map, List.length_range]
  have decoded := @decodeGroups_eq text [] text [] ((List.range (text.length + 1)).map fresh) rfl short (by omega)
  rw [List.nil_append, List.nil_append, List.length_nil, Int.ofNat_zero] at decoded
  have trimmed := trimZeros_eq (base64Bytes text)
    (((List.range (text.length + 1)).map fresh).drop (base64Bytes text).length)
  have whole : (base64Bytes text ++
      ((List.range (text.length + 1)).map fresh).drop (base64Bytes text).length).length = text.length + 1 := by
    rw [List.length_append, List.length_drop, cells]
    omega
  simp only [base64Decode, asInt_of_fits fits]
  rw [decoded, Outcome.ok_bind_do]
  cases trimTrailingZeros with
  | false =>
      rw [if_neg Bool.false_ne_true, if_neg Bool.false_ne_true, Outcome.ok_bind_do]
      dsimp only
      rw [if_pos (by rw [whole]; omega), List.take_left]
  | true =>
      have fewer := List.rdropWhile_prefix (· = (0 : UInt8)) (base64Bytes text)
      have least := fewer.length_le
      rw [if_pos rfl, if_pos rfl, trimmed, Outcome.ok_bind_do]
      dsimp only
      rw [if_pos (by rw [whole]; omega), List.take_append_of_le_length least, ← List.prefix_iff_eq_take.mp fewer]

/-- The loop over more groups than the buffer has room for. -/
theorem encodeGroups_fault {orig cells : List UInt8} {fit count : Nat} (more : fit < count)
    (groups : 3 * count ≤ orig.length) (small : 4 * fit < 2 ^ 32) (width : cells.length = 4 * fit + 1) :
    (List.range count).foldlM (encodeGroup orig) cells = .fault := by
  have split : count = fit + (count - fit - 1 + 1) := by omega
  have before := @encodeGroups_eq orig cells fit (by omega) small (by omega)
  have place : (orig.take (3 * fit)).length = 3 * fit := List.length_take_of_le (by omega)
  have same : (base64Text (orig.take (3 * fit)) ++ cells.drop (4 * fit)).length = cells.length := by
    rw [List.length_append, base64Text_length, place, List.length_drop]
    omega
  have behind : encodeGroup orig (base64Text (orig.take (3 * fit)) ++ cells.drop (4 * fit)) fit = .fault := by
    rw [encodeGroup, Outcome.read_of_lt (by omega), Outcome.read_of_lt (by omega), Outcome.read_of_lt (by omega)]
    simp only [Outcome.ok_bind_do]
    rw [Outcome.copyInto, if_neg]
    rw [same, width, groupChars, Nat.mod_eq_of_lt small]
    simp only [List.length_cons, List.length_nil]
    omega
  rw [split, List.range_add, List.foldlM_append, before, Outcome.ok_bind_do, List.range_succ_eq_map, List.map_cons,
    List.foldlM_cons, Nat.add_zero fit, behind]
  rfl

/-- A text whose length is no `unsigned`: the loop runs over the end of a buffer
that is allocated for the length that is left of it. -/
theorem base64Encode_fault (fresh : Nat -> UInt8) {orig : List UInt8} (given : orig.length < 2 ^ 32)
    (long : 2 ^ 32 ≤ 4 * ((orig.length + 2) / 3)) : base64Encode fresh orig = .fault := by
  have wrapped : 4 * (orig.length / 3 + (decide (orig.length > orig.length / 3 * 3)).toNat) % 2 ^ 32 =
      4 * ((orig.length + 2) / 3 - 2 ^ 30) := by
    by_cases more : orig.length > orig.length / 3 * 3
    · rw [decide_eq_true more, Bool.toNat_true]
      omega
    · rw [decide_eq_false more, Bool.toNat_false]
      omega
  have room : ((List.range (4 * ((orig.length + 2) / 3 - 2 ^ 30) + 1)).map fresh).length =
      4 * ((orig.length + 2) / 3 - 2 ^ 30) + 1 := by
    rw [List.length_map, List.length_range]
  simp only [base64Encode, wrapped]
  rw [encodeGroups_fault (by omega) (by omega) (by omega) room]
  rfl

/-! ## There and back -/

/-- Zeros behind the data do not matter where zeros are trimmed. -/
theorem rdropWhile_zeros (data : List UInt8) (count : Nat) :
    (data ++ List.replicate count 0).rdropWhile (· = 0) = data.rdropWhile (· = 0) := by
  induction count with
  | zero => rw [List.replicate_zero, List.append_nil]
  | succ count inductionHypothesis =>
      rw [List.replicate_succ', ← List.append_assoc, List.rdropWhile_concat, if_pos (decide_eq_true rfl),
        inductionHypothesis]

/-- What is encoded comes back with its last group filled up by zeros, or without
the zeros at its end.  So it comes back as it was only if it fills its groups, or
has no zero at its end. -/
theorem base64_roundTrip (fresh fresh' : Nat -> UInt8) {data : List UInt8}
    (small : 4 * ((data.length + 2) / 3) < 2 ^ 31) :
    Exists fun text => base64Encode fresh data = .ok (text ++ [0]) ∧ cStr (text ++ [0]) = text ∧
      base64Decode fresh' text false = .ok (data ++ List.replicate (padLength data.length) 0) ∧
      base64Decode fresh' text true = .ok (data.rdropWhile (· = 0)) ∧
      (base64Decode fresh' text false = .ok data ↔ data.length % 3 = 0) ∧
      (base64Decode fresh' text true = .ok data ↔ data.getLast? ≠ some 0) := by
  have short : (base64Text data).length < 2 ^ 31 := by
    rw [base64Text_length]
    exact small
  have ended : cStr (base64Text data ++ [0]) = base64Text data := by
    have whole := cStr_of_not_mem (base64Text_without data (by decide))
    rw [cStr] at whole ⊢
    rw [List.takeWhile_append, whole, if_pos rfl]
    exact List.append_nil _
  have filled : base64Decode fresh' (base64Text data) false =
      .ok (data ++ List.replicate (padLength data.length) 0) := by
    rw [base64Decode_eq fresh' short, if_neg Bool.false_ne_true, base64Bytes_base64Text]
  have trimmed : base64Decode fresh' (base64Text data) true = .ok (data.rdropWhile (· = 0)) := by
    rw [base64Decode_eq fresh' short, if_pos rfl, base64Bytes_base64Text, rdropWhile_zeros]
  refine ⟨base64Text data, base64Encode_eq fresh (by omega), ended, filled, trimmed, ?_, ?_⟩
  · rw [filled]
    constructor
    · intro same
      have length := congrArg List.length (Outcome.ok.inj same)
      rw [List.length_append, List.length_replicate, padLength] at length
      omega
    · intro groups
      have nothing : padLength data.length = 0 := by
        rw [padLength, groups]
      rw [nothing, List.replicate_zero, List.append_nil]
  · rw [trimmed]
    constructor
    · intro same last
      have kept := List.rdropWhile_eq_self_iff.mp (Outcome.ok.inj same)
      rcases List.getLast?_eq_some_iff.mp last with ⟨before, rfl⟩
      have nonzero := kept (List.append_ne_nil_of_right_ne_nil _ (List.cons_ne_nil _ _))
      rw [List.getLast_append_singleton] at nonzero
      exact nonzero (decide_eq_true rfl)
    · intro nonzero
      have kept : data.rdropWhile (· = 0) = data := by
        rw [List.rdropWhile_eq_self_iff]
        intro some zero
        apply nonzero
        rw [List.getLast?_eq_some_getLast some, of_decide_eq_true zero]
      rw [kept]

/-- Four bytes, the last of them zero. -/
theorem base64_roundTrip_four : Exists fun text =>
    base64Encode (fun _ => 0xff) [1, 2, 3, 0] = .ok (text ++ [0]) ∧ cStr (text ++ [0]) = text ∧
      base64Decode (fun _ => 0xff) text false = .ok ([1, 2, 3, 0] ++ List.replicate (padLength 4) 0) ∧
      base64Decode (fun _ => 0xff) text true = .ok (([1, 2, 3, 0] : List UInt8).rdropWhile (· = 0)) ∧
      (base64Decode (fun _ => 0xff) text false = .ok [1, 2, 3, 0] ↔ 4 % 3 = 0) ∧
      (base64Decode (fun _ => 0xff) text true = .ok [1, 2, 3, 0] ↔ ([1, 2, 3, 0] : List UInt8).getLast? ≠ some 0) :=
  base64_roundTrip (fun _ => 0xff) (fun _ => 0xff) (by decide)

end Net
end RtmpClient
