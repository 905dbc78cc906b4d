import Mathlib.Logic.Function.Basic
import RtmpClient.Library.BlockHash
import RtmpClient.Library.CppString
import RtmpClient.Net.Base64

namespace RtmpClient
namespace Net

open Library

/-!
# SHA-1 (`app_protocol/sha1.cc`)

`shacalc` compresses in place: the words of a block and what its rounds derive
from them share one array, which keeps its contents from one block to the next.
Beside it stands the function that the standard defines, and the two agree.
-/

/-- `a` to `e`, and `result[0]` to `result[4]`. -/
structure Sha1State where
  a : UInt32
  b : UInt32
  c : UInt32
  d : UInt32
  e : UInt32
  deriving DecidableEq, Repr

/-- The array `w`.  Its indices stay below 80. -/
abbrev WBuffert := Vector UInt32 80

def WBuffert.word (w : WBuffert) (pos : Nat) : UInt32 := w[pos]?.getD 0

def WBuffert.put (w : WBuffert) (pos : Nat) (value : UInt32) : WBuffert := w.setIfInBounds pos value

def rol (value steps : UInt32) : UInt32 := (value <<< steps) ||| (value >>> (32 - steps))

/-- `clearWBuffert`. -/
def clearWBuffert (w : WBuffert) : WBuffert := (List.range 16).foldr (fun pos w => w.put pos 0) w

/-- `sha1Macro`. -/
def sha1Macro (state : Sha1State) (func val word : UInt32) : Sha1State where
  a := rol state.a 5 + func + state.e + val + word
  b := state.a
  c := rol state.b 30
  d := state.c
  e := state.d

/-- The three values of `func`. -/
def chooseFunc (state : Sha1State) : UInt32 := (state.b &&& state.c) ||| (~~~ state.b &&& state.d)

def parityFunc (state : Sha1State) : UInt32 := state.b ^^^ state.c ^^^ state.d

def majorityFunc (state : Sha1State) : UInt32 :=
  (state.b &&& state.c) ||| (state.b &&& state.d) ||| (state.c &&& state.d)

/-- The loop over the words of the block. -/
def plainRounds (func : Sha1State -> UInt32) (val : UInt32) (rounds : List Nat) (start : Sha1State × WBuffert) :
    Sha1State × WBuffert :=
  rounds.foldl (fun state round => (sha1Macro state.1 (func state.1) val (state.2.word round), state.2)) start

/-- `w[round] = rol(..)`. -/
def expandWord (w : WBuffert) (round : Nat) : WBuffert :=
  w.put round (rol (w.word (round - 3) ^^^ w.word (round - 8) ^^^ w.word (round - 14) ^^^ w.word (round - 16)) 1)

/-- A loop that derives a word for each round. -/
def expandedRounds (func : Sha1State -> UInt32) (val : UInt32) (rounds : List Nat)
    (start : Sha1State × WBuffert) : Sha1State × WBuffert :=
  rounds.foldl (fun state round =>
    let w := expandWord state.2 round
    (sha1Macro state.1 (func state.1) val (w.word round), w)) start

def Sha1State.add (result state : Sha1State) : Sha1State where
  a := result.a + state.a
  b := result.b + state.b
  c := result.c + state.c
  d := result.d + state.d
  e := result.e + state.e

def innerHash (result : Sha1State) (w : WBuffert) : Sha1State × WBuffert :=
  let state := plainRounds chooseFunc 0x5a827999 (List.range' 0 16) (result, w)
  let state := expandedRounds chooseFunc 0x5a827999 (List.range' 16 4) state
  let state := expandedRounds parityFunc 0x6ed9eba1 (List.range' 20 20) state
  let state := expandedRounds majorityFunc 0x8f1bbcdc (List.range' 40 20) state
  let state := expandedRounds parityFunc 0xca62c1d6 (List.range' 60 20) state
  (result.add state.1, state.2)

/-- A byte of the C string; behind its end stands the zero byte. -/
def byteAt (sarray : List UInt8) (pos : Nat) : UInt8 := sarray.getD pos 0

def loadWord (sarray : List UInt8) (currentBlock : Nat) : UInt32 :=
  (byteAt sarray (currentBlock + 3)).toUInt32 ||| ((byteAt sarray (currentBlock + 2)).toUInt32 <<< 8) |||
    ((byteAt sarray (currentBlock + 1)).toUInt32 <<< 16) ||| ((byteAt sarray currentBlock).toUInt32 <<< 24)

/-- The loop that loads the words of a block. -/
def loadBlock (sarray : List UInt8) (currentBlock : Nat) (w : WBuffert) : WBuffert :=
  (List.range 16).foldl (fun w roundPos => w.put roundPos (loadWord sarray (currentBlock + 4 * roundPos))) w

/-- The loop over the full blocks: `currentBlock`, `result` and `w` behind it. -/
def fullBlocks (sarray : List UInt8) (currentBlock : Nat) (result : Sha1State) (w : WBuffert) :
    Nat × Sha1State × WBuffert :=
  if currentBlock + 64 ≤ sarray.length then
    let state := innerHash result (loadBlock sarray currentBlock w)
    fullBlocks sarray (currentBlock + 64) state.1 state.2
  else (currentBlock, result, w)
termination_by sarray.length - currentBlock

/-- `w[lastBlockBytes >> 2] |= ..`. -/
def orByte (w : WBuffert) (lastBlockBytes : Nat) (byte : UInt32) : WBuffert :=
  w.put (lastBlockBytes >>> 2)
    (w.word (lastBlockBytes >>> 2) ||| byte <<< UInt32.ofNat ((3 - (lastBlockBytes &&& 3)) <<< 3))

/-- The block that is not full, with the marker behind its bytes. -/
def lastBytes (sarray : List UInt8) (currentBlock : Nat) (w : WBuffert) : WBuffert :=
  let endCurrentBlock := sarray.length - currentBlock
  let w := (List.range endCurrentBlock).foldl
    (fun w lastBlockBytes => orByte w lastBlockBytes (byteAt sarray (lastBlockBytes + currentBlock)).toUInt32)
    (clearWBuffert w)
  orByte w endCurrentBlock 0x80

/-- `result[index]`. -/
def Sha1State.word (result : Sha1State) (index : Nat) : UInt32 :=
  match index with
  | 0 => result.a
  | 1 => result.b
  | 2 => result.c
  | 3 => result.d
  | _ => result.e

/-- `hash[hashByte]`.  The lowest bits of a negative `int` are those of its
remainder. -/
def hashByteOf (result : Sha1State) (hashByte : Nat) : UInt8 :=
  (result.word (hashByte >>> 2) >>> UInt32.ofNat (((3 - (hashByte : Int)) % 4).toNat <<< 3) &&& 0xff).toUInt8

/-- The state that hashing starts from. -/
def sha1Initial : Sha1State where
  a := 0x67452301
  b := 0xefcdab89
  c := 0x98badcfe
  d := 0x10325476
  e := 0xc3d2e1f0

/-- `result` at the end of the hashing. -/
def shaResult (fresh : WBuffert) (src : List UInt8) : Sha1State :=
  let (currentBlock, result, w) := fullBlocks src 0 sha1Initial fresh
  let w := lastBytes src currentBlock w
  let (result, w) :=
    if 56 ≤ src.length - currentBlock then
      let state := innerHash result w
      (state.1, clearWBuffert state.2)
    else (result, w)
  let w := w.put 15 (UInt32.ofNat (src.length <<< 3))
  (innerHash result w).1

def encodingTable (index : UInt32) : UInt8 :=
  (ascii "ABCDEFGHIJKLMNOPQRSTUVWXYZabcdefghijklmnopqrstuvwxyz0123456789+/").getD index.toNat 0

/-- The loop over the groups of three bytes; a byte that is missing counts as
zero. -/
def encodeTriples : (hash : List UInt8) -> List UInt8
  | [] => []
  | octetA :: rest =>
      let octetB := rest.headD 0
      let octetC := rest.tail.headD 0
      let triple := (octetA.toUInt32 <<< 0x10) + (octetB.toUInt32 <<< 0x08) + octetC.toUInt32
      encodingTable ((triple >>> 18) &&& 0x3f) :: encodingTable ((triple >>> 12) &&& 0x3f) ::
        encodingTable ((triple >>> 6) &&& 0x3f) :: encodingTable ((triple >>> 0) &&& 0x3f) ::
        encodeTriples rest.tail.tail
termination_by hash => hash.length
decreasing_by
  simp only [List.length_tail, List.length_cons]
  omega

/-- `shacalc`: what it writes to `dest`, for `src` without its zero byte. -/
def shacalc (fresh : WBuffert) (src : List UInt8) : List UInt8 :=
  (encodeTriples ((List.range 20).map (hashByteOf (shaResult fresh src)))).set (28 - 1) padChar

/-! ## The compression of the standard -/

/-- The words of a block by their indices. -/
abbrev Words := Nat -> UInt32

/-- The schedule `W` of the words of a block. -/
def schedule (block : Words) (t : Nat) : UInt32 :=
  if t < 16 then block t
  else rol (schedule block (t - 3) ^^^ schedule block (t - 8) ^^^ schedule block (t - 14) ^^^ schedule block (t - 16)) 1
termination_by t

def ch (x y z : UInt32) : UInt32 := (x &&& y) ^^^ (~~~ x &&& z)

def parity (x y z : UInt32) : UInt32 := x ^^^ y ^^^ z

def maj (x y z : UInt32) : UInt32 := (x &&& y) ^^^ (x &&& z) ^^^ (y &&& z)

/-- The function of round `t`. -/
def roundFunction (t : Nat) : UInt32 -> UInt32 -> UInt32 -> UInt32 :=
  if t < 20 then ch else if t < 40 then parity else if t < 60 then maj else parity

/-- The constant of round `t`. -/
def roundConstant (t : Nat) : UInt32 :=
  if t < 20 then 0x5a827999 else if t < 40 then 0x6ed9eba1 else if t < 60 then 0x8f1bbcdc else 0xca62c1d6

def sha1Round (block : Words) (state : Sha1State) (t : Nat) : Sha1State where
  a := rol state.a 5 + roundFunction t state.b state.c state.d + state.e + roundConstant t + schedule block t
  b := state.a
  c := rol state.b 30
  d := state.c
  e := state.d

/-- The state after one more block. -/
def sha1Compress (block : Words) (state : Sha1State) : Sha1State :=
  state.add ((List.range 80).foldl (sha1Round block) state)

/-! ## The rounds of the source are those rounds -/

/-- What stands in the array after an assignment. -/
theorem WBuffert.word_put (w : WBuffert) {pos : Nat} (inside : pos < 80) (value : UInt32) :
    (w.put pos value).word = Function.update w.word pos value := by
  funext t
  by_cases here : t = pos
  · rw [here, Function.update_self, word, put, Vector.getElem?_setIfInBounds_self_of_lt inside]
    rfl
  · rw [Function.update_of_ne here, word, put, Vector.getElem?_setIfInBounds_ne (Ne.symm here), word]

theorem schedule_early {block : Words} {t : Nat} (early : t < 16) : schedule block t = block t := by
  rw [schedule, if_pos early]

theorem schedule_late {block : Words} {t : Nat} (late : 16 ≤ t) : schedule block t =
      rol (schedule block (t - 3) ^^^ schedule block (t - 8) ^^^ schedule block (t - 14) ^^^
        schedule block (t - 16)) 1 := by
  rw [schedule, if_neg (Nat.not_lt.mpr late)]

theorem chooseFunc_eq (state : Sha1State) : chooseFunc state = ch state.b state.c state.d := by
  apply UInt32.toBitVec_inj.mp
  ext index inside
  simp only [chooseFunc, ch, UInt32.toBitVec_or, UInt32.toBitVec_xor, UInt32.toBitVec_and, UInt32.toBitVec_not,
    BitVec.getElem_or, BitVec.getElem_xor, BitVec.getElem_and, BitVec.getElem_not]
  cases state.b.toBitVec[index] with
  | false => simp
  | true => simp

theorem majorityFunc_eq (state : Sha1State) : majorityFunc state = maj state.b state.c state.d := by
  apply UInt32.toBitVec_inj.mp
  ext index inside
  simp only [majorityFunc, maj, UInt32.toBitVec_or, UInt32.toBitVec_xor, UInt32.toBitVec_and, BitVec.getElem_or,
    BitVec.getElem_xor, BitVec.getElem_and]
  cases state.b.toBitVec[index] with
  | false => simp
  | true =>
      cases state.c.toBitVec[index] with
      | false => simp
      | true => simp

/-- The state is that of the first rounds, and so are the words. -/
structure AtRound (block : Words) (start : Sha1State) (round : Nat) (reached : Sha1State × WBuffert) : Prop where
  state : reached.1 = (List.range round).foldl (sha1Round block) start
  words : forall t, t < round -> reached.2.word t = schedule block t

/-- One more round, with its word in place. -/
theorem AtRound.next {block : Words} {start : Sha1State} {round : Nat} {reached : Sha1State × WBuffert}
    (here : AtRound block start round reached) {func : Sha1State -> UInt32} {val : UInt32} {w : WBuffert}
    (same : func reached.1 = roundFunction round reached.1.b reached.1.c reached.1.d)
    (constant : val = roundConstant round) (words : forall t, t < round + 1 -> w.word t = schedule block t) :
    AtRound block start (round + 1) (sha1Macro reached.1 (func reached.1) val (w.word round), w) where
  state := by
    rw [List.range_succ, List.foldl_append, ← here.state, List.foldl_cons, List.foldl_nil, sha1Macro, sha1Round, same,
      constant, words round (Nat.lt_succ_self round)]
  words := words

theorem expandedRounds_succ (func : Sha1State -> UInt32) (val : UInt32) (first count : Nat)
    (start : Sha1State × WBuffert) : expandedRounds func val (List.range' first (count + 1)) start =
      (sha1Macro (expandedRounds func val (List.range' first count) start).1
          (func (expandedRounds func val (List.range' first count) start).1) val
          ((expandWord (expandedRounds func val (List.range' first count) start).2 (first + count)).word
            (first + count)),
        expandWord (expandedRounds func val (List.range' first count) start).2 (first + count)) := by
  have last : List.range' first (count + 1) = List.range' first count ++ [first + count] := by
    rw [List.range'_concat, Nat.one_mul]
  rw [expandedRounds, last, List.foldl_append]
  rfl

/-- The rounds of a loop that derives its words. -/
theorem AtRound.expanded {block : Words} {start : Sha1State} {first : Nat} {reached : Sha1State × WBuffert}
    (here : AtRound block start first reached) (late : 16 ≤ first) (func : Sha1State -> UInt32) (val : UInt32)
    (count : Nat) (within : first + count ≤ 80) (same : forall t state, first ≤ t -> t < first + count ->
      func state = roundFunction t state.b state.c state.d ∧ val = roundConstant t) :
    AtRound block start (first + count) (expandedRounds func val (List.range' first count) reached) := by
  induction count with
  | zero => exact here
  | succ count inductionHypothesis =>
      have before := inductionHypothesis (by omega) fun t state low high => same t state low (by omega)
      have now := same (first + count) (expandedRounds func val (List.range' first count) reached).1 (by omega)
        (by omega)
      rw [expandedRounds_succ]
      apply before.next now.1 now.2
      intro t early
      rw [expandWord, WBuffert.word_put _ (by omega)]
      by_cases derived : t = first + count
      · rw [derived, Function.update_self, schedule_late (by omega), before.words _ (by omega),
          before.words _ (by omega), before.words _ (by omega), before.words _ (by omega)]
      · rw [Function.update_of_ne derived, before.words t (by omega)]

/-- The first rounds, which use the words of the block. -/
theorem AtRound.plain (start : Sha1State) (block : WBuffert) {count : Nat} (early : count ≤ 16) :
    (plainRounds chooseFunc 0x5a827999 (List.range' 0 count) (start, block)).1 =
        (List.range count).foldl (sha1Round block.word) start ∧
      (plainRounds chooseFunc 0x5a827999 (List.range' 0 count) (start, block)).2 = block := by
  induction count with
  | zero => exact ⟨rfl, rfl⟩
  | succ count inductionHypothesis =>
      rcases inductionHypothesis (Nat.le_of_succ_le early) with ⟨state, words⟩
      have last : List.range' 0 (count + 1) = List.range' 0 count ++ [count] := by
        rw [List.range'_concat, Nat.one_mul, Nat.zero_add]
      rw [plainRounds, last, List.foldl_append, List.foldl_cons, List.foldl_nil]
      refine ⟨?_, words⟩
      have func : roundFunction count = ch := if_pos (by omega)
      have constant : roundConstant count = 0x5a827999 := if_pos (by omega)
      rw [plainRounds] at state words
      rw [List.range_succ, List.foldl_append, ← state, List.foldl_cons, List.foldl_nil, sha1Macro, sha1Round, words,
        chooseFunc_eq, func, constant, schedule_early (by omega)]

/-- Compressing in place is the compression of the standard, whatever else
stands in the array. -/
theorem innerHash_eq (result : Sha1State) (w : WBuffert) : (innerHash result w).1 = sha1Compress w.word result := by
  have plain := AtRound.plain result w (Nat.le_refl 16)
  have atStart : AtRound w.word result 16 (plainRounds chooseFunc 0x5a827999 (List.range' 0 16) (result, w)) := by
    refine ⟨plain.1, fun t early => ?_⟩
    rw [plain.2, schedule_early early]
  have first := atStart.expanded (Nat.le_refl 16) chooseFunc 0x5a827999 4 (by decide) (by
    intro t state _ high
    rw [roundFunction, roundConstant, if_pos high, if_pos high, chooseFunc_eq]
    exact ⟨rfl, rfl⟩)
  have second := first.expanded (by decide) parityFunc 0x6ed9eba1 20 (by decide) (by
    intro t state low high
    have late : ¬ t < 20 := Nat.not_lt.mpr low
    rw [roundFunction, roundConstant, if_neg late, if_neg late, if_pos high, if_pos high]
    exact ⟨rfl, rfl⟩)
  have third := second.expanded (by decide) majorityFunc 0x8f1bbcdc 20 (by decide) (by
    intro t state low high
    have late : ¬ t < 40 := Nat.not_lt.mpr low
    have later : ¬ t < 20 := by omega
    rw [roundFunction, roundConstant, if_neg later, if_neg later, if_neg late, if_neg late, if_pos high, if_pos high,
      majorityFunc_eq]
    exact ⟨rfl, rfl⟩)
  have fourth := third.expanded (by decide) parityFunc 0xca62c1d6 20 (by decide) (by
    intro t state low high
    have late : ¬ t < 60 := Nat.not_lt.mpr low
    have later : ¬ t < 40 := by omega
    have latest : ¬ t < 20 := by omega
    rw [roundFunction, roundConstant, if_neg latest, if_neg latest, if_neg later, if_neg later, if_neg late,
      if_neg late]
    exact ⟨rfl, rfl⟩)
  exact congrArg result.add fourth.state

/-! ## Messages -/

/-- The words of a block of bytes, filled up with zeros. -/
def wordAt (block : List UInt8) (index : Nat) : UInt32 :=
  joined (byteAt block (4 * index)) (byteAt block (4 * index + 1)) (byteAt block (4 * index + 2))
    (byteAt block (4 * index + 3))

def sha1Hash : BlockHash UInt8 Sha1State where
  size := 64
  positive := block_positive
  compress := fun state block => sha1Compress (wordAt block) state

/-- The SHA-1 of a message by its definition. -/
def sha1 (message : List UInt8) : List UInt8 :=
  let state := sha1Hash.digest sha1Initial (paddedMessage message (beBytes 8 (8 * message.length)))
  [state.a, state.b, state.c, state.d, state.e].flatMap fun word => beBytes 4 word.toNat

theorem schedule_congr {block block' : Words} (same : forall t, t < 16 -> block t = block' t) (t : Nat) :
    schedule block t = schedule block' t := by
  induction t using Nat.strongRecOn with
  | ind t inductionHypothesis =>
      rcases Nat.lt_or_ge t 16 with early | late
      · rw [schedule_early early, schedule_early early, same t early]
      · rw [schedule_late late, schedule_late late, inductionHypothesis _ (by omega), inductionHypothesis _ (by omega),
          inductionHypothesis _ (by omega), inductionHypothesis _ (by omega)]

/-- Only the sixteen words of the block count. -/
theorem sha1Compress_congr {block block' : Words} (same : forall t, t < 16 -> block t = block' t)
    (state : Sha1State) : sha1Compress block state = sha1Compress block' state := by
  have schedules : schedule block = schedule block' := funext (schedule_congr same)
  have rounds : sha1Round block = sha1Round block' := by
    funext state t
    rw [sha1Round, sha1Round, schedules]
  rw [sha1Compress, sha1Compress, rounds]

theorem byteAt_behind {bytes : List UInt8} {pos : Nat} (behind : bytes.length ≤ pos) : byteAt bytes pos = 0 :=
  List.getD_eq_default bytes 0 behind

theorem byteAt_snoc_before {bytes : List UInt8} (byte : UInt8) {pos : Nat} (other : pos ≠ bytes.length) :
    byteAt (bytes ++ [byte]) pos = byteAt bytes pos := by
  rcases Nat.lt_or_gt_of_ne other with before | behind
  · exact List.getD_append _ _ _ _ before
  · rw [byteAt_behind (Nat.le_of_lt behind), byteAt_behind]
    rw [List.length_append, List.length_singleton]
    exact behind

theorem byteAt_snoc (bytes : List UInt8) (byte : UInt8) : byteAt (bytes ++ [byte]) bytes.length = byte := by
  rw [byteAt, List.getD_append_right _ _ _ _ (Nat.le_refl _), Nat.sub_self]
  rfl

/-- Zeros behind a block make no difference. -/
theorem byteAt_zeros (bytes : List UInt8) (count pos : Nat) :
    byteAt (bytes ++ List.replicate count 0) pos = byteAt bytes pos := by
  rcases Nat.lt_or_ge pos bytes.length with before | behind
  · exact List.getD_append _ _ _ _ before
  · rw [byteAt_behind behind, byteAt, List.getD_append_right _ _ _ _ behind,
      List.getD_eq_getElem?_getD, List.getElem?_getD_replicate_default_eq]

theorem wordAt_zeros (bytes : List UInt8) (count : Nat) : wordAt (bytes ++ List.replicate count 0) = wordAt bytes := by
  funext index
  rw [wordAt, wordAt, byteAt_zeros, byteAt_zeros, byteAt_zeros, byteAt_zeros]

/-- The bits of one more byte of a word. -/
theorem joined_last (byte first second third : UInt8) :
    joined byte 0 0 0 = joined 0 0 0 0 ||| byte.toUInt32 <<< 24 ∧
      joined first byte 0 0 = joined first 0 0 0 ||| byte.toUInt32 <<< 16 ∧
      joined first second byte 0 = joined first second 0 0 ||| byte.toUInt32 <<< 8 ∧
      joined first second third byte = joined first second third 0 ||| byte.toUInt32 <<< 0 := by
  have zero (shift : UInt32) : (0 : UInt32) <<< shift = 0 := UInt32.zero_shiftLeft
  have none : (0 : UInt8).toUInt32 = 0 := rfl
  refine ⟨?_, ?_, ?_, ?_⟩
  · simp only [joined, none, zero, UInt32.or_zero, UInt32.zero_or]
  · simp only [joined, none, zero, UInt32.or_zero]
  · simp only [joined, none, zero, UInt32.or_zero]
  · simp only [joined, none, UInt32.or_zero, UInt32.shiftLeft_zero]

/-- The words with one more byte at its place. -/
def orAt (words : Words) (pos : Nat) (byte : UInt32) : Words :=
  Function.update words (pos / 4) (words (pos / 4) ||| byte <<< UInt32.ofNat ((3 - pos % 4) <<< 3))

theorem orByte_word (w : WBuffert) {lastBlockBytes : Nat} (inside : lastBlockBytes < 64) (byte : UInt32) :
    (orByte w lastBlockBytes byte).word = orAt w.word lastBlockBytes byte := by
  have place : lastBlockBytes >>> 2 = lastBlockBytes / 4 := Nat.shiftRight_eq_div_pow _ 2
  have within : lastBlockBytes &&& 3 = lastBlockBytes % 4 := Nat.and_two_pow_sub_one_eq_mod _ 2
  rw [orByte, place, within, WBuffert.word_put _ (by omega), orAt]

/-- One more byte behind the bytes of the words. -/
theorem wordAt_snoc (bytes : List UInt8) (byte : UInt8) (index : Nat) :
    wordAt (bytes ++ [byte]) index = orAt (wordAt bytes) bytes.length byte.toUInt32 index := by
  have before (pos : Nat) (other : pos ≠ bytes.length) := @byteAt_snoc_before bytes byte pos other
  have there (pos : Nat) (same : pos = bytes.length) : byteAt (bytes ++ [byte]) pos = byte := by
    rw [same, byteAt_snoc]
  have after (pos : Nat) (behind : bytes.length ≤ pos) := @byteAt_behind bytes pos behind
  rw [orAt, wordAt]
  by_cases here : index = bytes.length / 4
  · have parts := joined_last byte (byteAt bytes (4 * index)) (byteAt bytes (4 * index + 1))
      (byteAt bytes (4 * index + 2))
    have left : bytes.length % 4 = 0 ∨ bytes.length % 4 = 1 ∨ bytes.length % 4 = 2 ∨ bytes.length % 4 = 3 := by
      omega
    rw [← here, Function.update_self, wordAt]
    rcases left with none | one | two | three
    · have shift : UInt32.ofNat ((3 - 0) <<< 3) = 24 := by decide
      rw [there (4 * index) (by omega), before (4 * index + 1) (by omega), before (4 * index + 2) (by omega),
        before (4 * index + 3) (by omega), after (4 * index) (by omega), after (4 * index + 1) (by omega),
        after (4 * index + 2) (by omega), after (4 * index + 3) (by omega), none, shift]
      exact parts.1
    · have shift : UInt32.ofNat ((3 - 1) <<< 3) = 16 := by decide
      rw [before (4 * index) (by omega), there (4 * index + 1) (by omega), before (4 * index + 2) (by omega),
        before (4 * index + 3) (by omega), after (4 * index + 1) (by omega), after (4 * index + 2) (by omega),
        after (4 * index + 3) (by omega), one, shift]
      exact parts.2.1
    · have shift : UInt32.ofNat ((3 - 2) <<< 3) = 8 := by decide
      rw [before (4 * index) (by omega), before (4 * index + 1) (by omega), there (4 * index + 2) (by omega),
        before (4 * index + 3) (by omega), after (4 * index + 2) (by omega), after (4 * index + 3) (by omega), two,
        shift]
      exact parts.2.2.1
    · have shift : UInt32.ofNat ((3 - 3) <<< 3) = 0 := by decide
      rw [before (4 * index) (by omega), before (4 * index + 1) (by omega), before (4 * index + 2) (by omega),
        there (4 * index + 3) (by omega), after (4 * index + 3) (by omega), three, shift]
      exact parts.2.2.2
  · rw [Function.update_of_ne here, wordAt, before (4 * index) (by omega), before (4 * index + 1) (by omega),
      before (4 * index + 2) (by omega), before (4 * index + 3) (by omega)]

/-! ## The loops of `shacalc` -/

/-- Words that agree are changed alike. -/
theorem orAt_congr {words words' : Words} (same : forall t, t < 16 -> words t = words' t) (pos : Nat)
    (byte : UInt32) (t : Nat) (early : t < 16) : orAt words pos byte t = orAt words' pos byte t := by
  rw [orAt, orAt]
  by_cases here : t = pos / 4
  · rw [here, Function.update_self, Function.update_self, same _ (by omega)]
  · rw [Function.update_of_ne here, Function.update_of_ne here, same t early]

theorem wordAt_behind {block : List UInt8} {t : Nat} (behind : block.length ≤ 4 * t) : wordAt block t = 0 := by
  rw [wordAt, byteAt_behind behind, byteAt_behind (by omega), byteAt_behind (by omega), byteAt_behind (by omega)]
  decide

/-- Words that are cleared, and words that were zero before, are zero. -/
theorem foldr_put (w : WBuffert) {count : Nat} (inside : count ≤ 80) {t : Nat} (zero : t < count ∨ w.word t = 0) :
    ((List.range count).foldr (fun pos w => w.put pos 0) w).word t = 0 := by
  induction count generalizing w with
  | zero => exact zero.resolve_left (Nat.not_lt_zero t)
  | succ count inductionHypothesis =>
      rw [List.range_succ, List.foldr_append, List.foldr_cons, List.foldr_nil]
      apply inductionHypothesis _ (Nat.le_of_succ_le inside)
      rw [WBuffert.word_put w inside]
      by_cases here : t = count
      · rw [here, Function.update_self]
        exact .inr rfl
      · rw [Function.update_of_ne here]
        exact zero.imp_left fun early => by omega

theorem clearWBuffert_early (w : WBuffert) {t : Nat} (early : t < 16) : (clearWBuffert w).word t = wordAt [] t := by
  rw [clearWBuffert, foldr_put w (by decide) (.inl early), wordAt_behind (Nat.zero_le _)]

theorem take_next {bytes : List UInt8} {count : Nat} (inside : count < bytes.length) :
    bytes.take (count + 1) = bytes.take count ++ [byteAt bytes count] := by
  rw [List.take_add_one, List.getElem?_eq_getElem inside, byteAt, List.getD_eq_getElem _ _ inside]
  rfl

theorem byteAt_drop (bytes : List UInt8) (skipped pos : Nat) :
    byteAt (bytes.drop skipped) pos = byteAt bytes (skipped + pos) := by
  rw [byteAt, byteAt, List.getD_eq_getElem?_getD, List.getD_eq_getElem?_getD, List.getElem?_drop]

theorem byteAt_take {bytes : List UInt8} {count pos : Nat} (inside : pos < count) :
    byteAt (bytes.take count) pos = byteAt bytes pos := by
  rw [byteAt, byteAt, List.getD_eq_getElem?_getD, List.getD_eq_getElem?_getD, List.getElem?_take_of_lt inside]

/-- The words of the block that is not full. -/
theorem lastBytes_eq (sarray : List UInt8) {currentBlock : Nat} (w : WBuffert)
    (few : sarray.length - currentBlock < 64) (t : Nat) (early : t < 16) :
    (lastBytes sarray currentBlock w).word t = wordAt (sarray.drop currentBlock ++ [0x80]) t := by
  have length : (sarray.drop currentBlock).length = sarray.length - currentBlock := List.length_drop
  have filled (count : Nat) (inside : count ≤ sarray.length - currentBlock) : forall t, t < 16 ->
      ((List.range count).foldl
          (fun w lastBlockBytes => orByte w lastBlockBytes (byteAt sarray (lastBlockBytes + currentBlock)).toUInt32)
          (clearWBuffert w)).word t = wordAt ((sarray.drop currentBlock).take count) t := by
    induction count with
    | zero =>
        intro t early
        exact clearWBuffert_early w early
    | succ count inductionHypothesis =>
        intro t early
        have before := inductionHypothesis (by omega)
        have size : ((sarray.drop currentBlock).take count).length = count := List.length_take_of_le (by omega)
        have snoc := wordAt_snoc ((sarray.drop currentBlock).take count) (byteAt (sarray.drop currentBlock) count) t
        rw [size, byteAt_drop, Nat.add_comm currentBlock] at snoc
        rw [List.range_succ, List.foldl_append, List.foldl_cons, List.foldl_nil, take_next (by omega), byteAt_drop,
          Nat.add_comm currentBlock, snoc, orByte_word _ (by omega)]
        exact orAt_congr before _ _ t early
  have all := filled (sarray.length - currentBlock) (Nat.le_refl _)
  rw [← length, List.take_length] at all
  have marker := wordAt_snoc (sarray.drop currentBlock) 0x80 t
  rw [length] at marker all
  rw [lastBytes, marker, orByte_word _ few]
  exact orAt_congr all _ _ t early

theorem foldl_put (value : Nat -> UInt32) (w : WBuffert) {count : Nat} (inside : count ≤ 80) {t : Nat}
    (early : t < count) : ((List.range count).foldl (fun w index => w.put index (value index)) w).word t = value t := by
  induction count with
  | zero => cases early
  | succ count inductionHypothesis =>
      rw [List.range_succ, List.foldl_append, List.foldl_cons, List.foldl_nil, WBuffert.word_put _ inside]
      by_cases here : t = count
      · rw [here, Function.update_self]
      · rw [Function.update_of_ne here, inductionHypothesis (by omega) (by omega)]

theorem loadWord_eq (sarray : List UInt8) (currentBlock : Nat) :
    loadWord sarray currentBlock = joined (byteAt sarray currentBlock) (byteAt sarray (currentBlock + 1))
      (byteAt sarray (currentBlock + 2)) (byteAt sarray (currentBlock + 3)) := by
  have reversed (first second third fourth : UInt32) :
      fourth ||| third ||| second ||| first = first ||| second ||| third ||| fourth := by ac_rfl
  exact reversed _ _ _ _

/-- The words of a full block. -/
theorem loadBlock_eq (sarray : List UInt8) (currentBlock : Nat) (w : WBuffert) (t : Nat) (early : t < 16) :
    (loadBlock sarray currentBlock w).word t = wordAt ((sarray.drop currentBlock).take 64) t := by
  rw [loadBlock, foldl_put _ w (by decide) early, loadWord_eq, wordAt, byteAt_take (by omega), byteAt_take (by omega),
    byteAt_take (by omega), byteAt_take (by omega), byteAt_drop, byteAt_drop, byteAt_drop, byteAt_drop]
  rfl

/-- The full blocks are compressed one after the other. -/
theorem fullBlocks_eq (sarray : List UInt8) (currentBlock : Nat) (result : Sha1State) (w : WBuffert) :
    Exists fun w' => fullBlocks sarray currentBlock result w =
      (currentBlock + (sarray.drop currentBlock).length / 64 * 64,
        sha1Hash.digest result (sarray.drop currentBlock), w') := by
  induction currentBlock, result, w using fullBlocks.induct sarray with
  | case1 currentBlock result w inside state inductionHypothesis =>
      rcases inductionHypothesis with ⟨w', later⟩
      have length : (sarray.drop currentBlock).length = sarray.length - currentBlock := List.length_drop
      have length' : (sarray.drop (currentBlock + 64)).length = sarray.length - (currentBlock + 64) := List.length_drop
      have long : sha1Hash.size ≤ (sarray.drop currentBlock).length := by
        rw [length]
        exact Nat.le_sub_of_add_le' inside
      have compressed : state.1 = sha1Hash.compress result ((sarray.drop currentBlock).take 64) := by
        rw [innerHash_eq]
        exact sha1Compress_congr (loadBlock_eq sarray currentBlock w) result
      have count : currentBlock + 64 + (sarray.drop (currentBlock + 64)).length / 64 * 64 =
          currentBlock + (sarray.drop currentBlock).length / 64 * 64 := by omega
      have rest : sha1Hash.digest result (sarray.drop currentBlock) =
          sha1Hash.digest state.1 (sarray.drop (currentBlock + 64)) := by
        rw [BlockHash.digest_long result long, List.drop_drop, compressed]
        rfl
      refine ⟨w', ?_⟩
      rw [fullBlocks, if_pos inside, rest, ← count]
      exact later
  | case2 currentBlock result w outside =>
      have few : (sarray.drop currentBlock).length < 64 := by
        rw [List.length_drop]
        omega
      refine ⟨w, ?_⟩
      rw [fullBlocks, if_neg outside, BlockHash.digest_short result few, Nat.div_eq_of_lt few, Nat.zero_mul,
        Nat.add_zero]

theorem byteAt_append_right (first second : List UInt8) (pos : Nat) :
    byteAt (first ++ second) (first.length + pos) = byteAt second pos := by
  rw [byteAt, byteAt, List.getD_append_right _ _ _ _ (Nat.le_add_right _ _), Nat.add_sub_cancel_left]

theorem wordAt_append_left {first : List UInt8} (second : List UInt8) {t : Nat} (inside : 4 * t + 4 ≤ first.length) :
    wordAt (first ++ second) t = wordAt first t := by
  have here {pos : Nat} (before : pos < first.length) : byteAt (first ++ second) pos = byteAt first pos :=
    List.getD_append _ _ _ _ before
  rw [wordAt, wordAt, here (by omega), here (by omega), here (by omega), here (by omega)]

theorem wordAt_append_right {first : List UInt8} {count : Nat} (size : first.length = 4 * count)
    (second : List UInt8) (t : Nat) : wordAt (first ++ second) (count + t) = wordAt second t := by
  have there (pos : Nat) : byteAt (first ++ second) (4 * count + pos) = byteAt second pos := by
    rw [← size, byteAt_append_right]
  rw [wordAt, Nat.mul_add, Nat.add_assoc, Nat.add_assoc, Nat.add_assoc, there, there, there, there, wordAt]

/-- The last two words of a block hold the length. -/
theorem wordAt_length {front : List UInt8} (size : front.length = 4 * 14) {number : Nat} (small : number < 2 ^ 32)
    (t : Nat) (early : t < 16) :
    wordAt (front ++ beBytes 8 number) t = Function.update (wordAt front) 15 (UInt32.ofNat number) t := by
  have parts : t < 14 ∨ t = 14 + 0 ∨ t = 14 + 1 := by omega
  rcases parts with words | high | low
  · rw [Function.update_of_ne (by omega), wordAt_append_left _ (by omega)]
  · have none (power : Nat) (large : 4 ≤ power) : UInt8.ofNat (number / 256 ^ power) = 0 := by
      have big : number < 256 ^ power :=
        Nat.lt_of_lt_of_le small (Nat.pow_le_pow_right (by decide : 256 > 0) large)
      rw [Nat.div_eq_of_lt big]
      rfl
    have zero : wordAt (beBytes 8 number) 0 = 0 := by
      have bytes : wordAt (beBytes 8 number) 0 = joined (UInt8.ofNat (number / 256 ^ 7))
          (UInt8.ofNat (number / 256 ^ 6)) (UInt8.ofNat (number / 256 ^ 5)) (UInt8.ofNat (number / 256 ^ 4)) := rfl
      rw [bytes, none 7 (by decide), none 6 (by decide), none 5 (by decide), none 4 (by decide)]
      decide
    have behind : wordAt front (14 + 0) = 0 := wordAt_behind (Nat.le_of_eq size)
    rw [high, wordAt_append_right size, Function.update_of_ne (by decide), behind, zero]
  · rw [low, wordAt_append_right size, Function.update_self]
    exact joined_beBytes number

/-- The length in the last word of a block. -/
theorem put_length {w : WBuffert} {front : List UInt8} (same : forall t, t < 16 -> w.word t = wordAt front t)
    (size : front.length = 4 * 14) {number : Nat} (small : number < 2 ^ 32) (t : Nat) (early : t < 16) :
    (w.put 15 (UInt32.ofNat number)).word t = wordAt (front ++ beBytes 8 number) t := by
  rw [wordAt_length size small t early, WBuffert.word_put w (by decide)]
  by_cases last : t = 15
  · rw [last, Function.update_self, Function.update_self]
  · rw [Function.update_of_ne last, Function.update_of_ne last, same t early]

theorem innerHash_block {w : WBuffert} {block : List UInt8} (same : forall t, t < 16 -> w.word t = wordAt block t)
    (state : Sha1State) : (innerHash state w).1 = sha1Hash.compress state block := by
  rw [innerHash_eq]
  exact sha1Compress_congr same state

/-- What `shacalc` has computed before it writes a text is the digest of the
padded message. -/
theorem shaResult_eq (fresh : WBuffert) {src : List UInt8} (small : 8 * src.length < 2 ^ 32) :
    shaResult fresh src = sha1Hash.digest sha1Initial (paddedMessage src (beBytes 8 (8 * src.length))) := by
  rcases fullBlocks_eq src 0 sha1Initial fresh with ⟨w, full⟩
  rw [List.drop_zero, Nat.zero_add] at full
  have rest : sha1Hash.rest src = src.drop (src.length / 64 * 64) := rfl
  have restLength : (sha1Hash.rest src).length = src.length % 64 := BlockHash.rest_length src
  have left : src.length - src.length / 64 * 64 = src.length % 64 := by omega
  have shifted : src.length <<< 3 = 8 * src.length := by
    rw [Nat.shiftLeft_eq]
    omega
  have last := lastBytes_eq src w (show src.length - src.length / 64 * 64 < 64 by omega)
  rw [← rest] at last
  have filled (count : Nat) : forall t, t < 16 -> (lastBytes src (src.length / 64 * 64) w).word t =
      wordAt (sha1Hash.rest src ++ [0x80] ++ List.replicate count 0) t := by
    intro t early
    rw [wordAt_zeros, last t early]
  rw [paddedMessage, BlockHash.digest_append]
  simp only [shaResult, full, left, shifted]
  by_cases many : 56 ≤ src.length % 64
  · -- the length takes a block of its own
    have split : sha1Hash.rest src ++
        (0x80 :: List.replicate (zerosBehind src.length) 0 ++ beBytes 8 (8 * src.length)) =
        (sha1Hash.rest src ++ [0x80] ++ List.replicate (63 - src.length % 64) 0) ++
          ([] ++ List.replicate 56 0 ++ beBytes 8 (8 * src.length)) := by
      have count : zerosBehind src.length = 63 - src.length % 64 + 56 := by
        rw [zerosBehind_full many]
        omega
      rw [count, List.replicate_add]
      simp only [List.append_assoc, List.cons_append, List.nil_append]
    have marked : (sha1Hash.rest src ++ [0x80] ++ List.replicate (63 - src.length % 64) 0).length = sha1Hash.size := by
      rw [List.length_append, List.length_append, List.length_singleton, List.length_replicate, restLength]
      show src.length % 64 + 1 + (63 - src.length % 64) = 64
      omega
    have second : ([] ++ List.replicate 56 0 ++ beBytes 8 (8 * src.length)).length = sha1Hash.size := by
      rw [List.length_append, beBytes_length]
      rfl
    have cleared : forall t, t < 16 ->
        (clearWBuffert (innerHash (sha1Hash.digest sha1Initial src)
          (lastBytes src (src.length / 64 * 64) w)).2).word t = wordAt ([] ++ List.replicate 56 0) t := by
      intro t early
      rw [wordAt_zeros, clearWBuffert_early _ early]
    rw [if_pos many, split, BlockHash.digest_append_whole _ _ (by rw [marked, Nat.mod_self]),
      BlockHash.digest_block _ marked, BlockHash.digest_block _ second, innerHash_block (filled _)]
    exact innerHash_block (put_length cleared rfl small) _
  · -- it fits behind the marker
    have count : zerosBehind src.length = 55 - src.length % 64 := zerosBehind_room (by omega)
    have front : (sha1Hash.rest src ++ [0x80] ++ List.replicate (55 - src.length % 64) 0).length = 4 * 14 := by
      rw [List.length_append, List.length_append, List.length_singleton, List.length_replicate, restLength]
      omega
    have split : sha1Hash.rest src ++
        (0x80 :: List.replicate (zerosBehind src.length) 0 ++ beBytes 8 (8 * src.length)) =
        sha1Hash.rest src ++ [0x80] ++ List.replicate (55 - src.length % 64) 0 ++ beBytes 8 (8 * src.length) := by
      rw [count]
      simp only [List.append_assoc, List.cons_append, List.nil_append]
    have whole : (sha1Hash.rest src ++ [0x80] ++ List.replicate (55 - src.length % 64) 0 ++
        beBytes 8 (8 * src.length)).length = sha1Hash.size := by
      rw [List.length_append, front, beBytes_length]
      rfl
    rw [if_neg many, split, BlockHash.digest_block _ whole]
    exact innerHash_block (put_length (filled _) front small) _

/-! ## The text of the hash -/

theorem hashByteOf_eq (result : Sha1State) (index : Nat) {within : Nat} (inside : within < 4) :
    hashByteOf result (4 * index + within) = UInt8.ofNat ((result.word index).toNat / 256 ^ (3 - within)) := by
  have place : (4 * index + within) >>> 2 = index := by
    rw [Nat.shiftRight_eq_div_pow]
    omega
  have power : ((3 - ((4 * index + within : Nat) : Int)) % 4).toNat = 3 - within := by omega
  have shift : (UInt32.ofNat ((3 - within) <<< 3)).toNat = 8 * (3 - within) := by
    rw [UInt32.toNat_ofNat', Nat.shiftLeft_eq]
    omega
  rw [hashByteOf, place, power]
  exact shiftedByte _ shift (by omega)

/-- The bytes of the hash are those of its words. -/
theorem hashBytes_eq (result : Sha1State) : (List.range 20).map (hashByteOf result) =
    [result.a, result.b, result.c, result.d, result.e].flatMap fun word => beBytes 4 word.toNat := by
  have word (index : Nat) : [hashByteOf result (4 * index + 0), hashByteOf result (4 * index + 1),
      hashByteOf result (4 * index + 2), hashByteOf result (4 * index + 3)] =
        beBytes 4 (result.word index).toNat := by
    rw [hashByteOf_eq result index (by decide), hashByteOf_eq result index (by decide),
      hashByteOf_eq result index (by decide), hashByteOf_eq result index (by decide)]
    rfl
  have all : [result.a, result.b, result.c, result.d, result.e].flatMap (fun word => beBytes 4 word.toNat) =
      beBytes 4 (result.word 0).toNat ++ (beBytes 4 (result.word 1).toNat ++ (beBytes 4 (result.word 2).toNat ++
        (beBytes 4 (result.word 3).toNat ++ beBytes 4 (result.word 4).toNat))) := by
    simp only [List.flatMap_cons, List.flatMap_nil, List.append_nil, Sha1State.word]
  rw [all, ← word, ← word, ← word, ← word, ← word]
  rfl

/-- The table at the place of a sextet. -/
theorem encodingTable_eq {index : UInt32} {sextet : UInt8} (same : index.toNat = sextet.toNat) :
    encodingTable index = base64Char sextet := by
  rw [encodingTable, base64Char, same]

theorem triple_toNat (first second third : UInt8) :
    ((first.toUInt32 <<< 0x10) + (second.toUInt32 <<< 0x08) + third.toUInt32).toNat =
      first.toNat * 65536 + second.toNat * 256 + third.toNat := by
  have firstSmall := first.toNat_lt
  have secondSmall := second.toNat_lt
  have thirdSmall := third.toNat_lt
  have high : (first.toUInt32 <<< 0x10).toNat = first.toNat * 2 ^ 16 := shifted_toNat first (by decide)
  have middle : (second.toUInt32 <<< 0x08).toNat = second.toNat * 2 ^ 8 := shifted_toNat second (by decide)
  rw [UInt32.toNat_add, UInt32.toNat_add, high, middle, UInt8.toNat_toUInt32]
  omega

theorem maskedShift_toNat (triple shift : UInt32) (width : Nat) (at_ : shift.toNat % 32 = width) :
    ((triple >>> shift) &&& 0x3f).toNat = triple.toNat / 2 ^ width % 64 := by
  have mask : ((triple >>> shift) &&& 0x3f).toNat = (triple >>> shift).toNat % 64 := by
    rw [UInt32.toNat_and]
    exact Nat.and_two_pow_sub_one_eq_mod _ 6
  rw [mask, UInt32.toNat_shiftRight, at_, Nat.shiftRight_eq_div_pow]

/-- The four characters of three bytes in one number. -/
theorem encodingTable_triple {triple : UInt32} {first second third : UInt8}
    (is : triple.toNat = first.toNat * 65536 + second.toNat * 256 + third.toNat) :
    [encodingTable ((triple >>> 18) &&& 0x3f), encodingTable ((triple >>> 12) &&& 0x3f),
      encodingTable ((triple >>> 6) &&& 0x3f), encodingTable ((triple >>> 0) &&& 0x3f)] =
        groupChars first second third := by
  have firstSmall := first.toNat_lt
  have secondSmall := second.toNat_lt
  have thirdSmall := third.toNat_lt
  have one : ((triple >>> 18) &&& 0x3f).toNat = ((first >>> 2) &&& 0x3f).toNat := by
    rw [maskedShift_toNat triple 18 18 rfl, firstSextet_toNat]
    omega
  have two : ((triple >>> 12) &&& 0x3f).toNat =
      ((((first &&& 0x3) <<< 4) ||| (second >>> 4)) &&& 0x3f).toNat := by
    rw [maskedShift_toNat triple 12 12 rfl, secondSextet_toNat]
    omega
  have three : ((triple >>> 6) &&& 0x3f).toNat = (((second <<< 2) ||| (third >>> 6)) &&& 0x3f).toNat := by
    rw [maskedShift_toNat triple 6 6 rfl, thirdSextet_toNat]
    omega
  have four : ((triple >>> 0) &&& 0x3f).toNat = (third &&& 0x3f).toNat := by
    rw [maskedShift_toNat triple 0 0 rfl, masked_toNat]
    omega
  rw [groupChars, encodingTable_eq one, encodingTable_eq two, encodingTable_eq three, encodingTable_eq four]

/-- One group of the loop, with zeros for what is missing. -/
theorem encodeTriples_cons (first : UInt8) (rest : List UInt8) : encodeTriples (first :: rest) =
    groupChars first (rest.headD 0) (rest.tail.headD 0) ++ encodeTriples rest.tail.tail := by
  have group := encodingTable_triple (triple_toNat first (rest.headD 0) (rest.tail.headD 0))
  rw [encodeTriples, ← group]
  rfl

/-- Where the last group is two bytes, the last character is the one to pad. -/
theorem encodeTriples_padded {hash : List UInt8} (two : hash.length % 3 = 2) :
    (encodeTriples hash).set (4 * ((hash.length + 2) / 3) - 1) padChar = base64Text hash := by
  induction hash using base64Text.induct with
  | case1 first second third others inductionHypothesis =>
      have shorter : others.length % 3 = 2 := by
        simp only [List.length_cons] at two
        omega
      have place : 4 * (((first :: second :: third :: others).length + 2) / 3) - 1 =
          (groupChars first second third).length + (4 * ((others.length + 2) / 3) - 1) := by
        simp only [List.length_cons, groupChars, List.length_nil]
        omega
      have group : encodeTriples (first :: second :: third :: others) =
          groupChars first second third ++ encodeTriples others := encodeTriples_cons first (second :: third :: others)
      rw [place, group, base64Text, ← inductionHypothesis shorter,
        List.set_append_right _ _ (Nat.le_add_right _ _), Nat.add_sub_cancel_left]
  | case2 first second =>
      have third : (second <<< 2 ||| (0 : UInt8) >>> 6) = second <<< 2 := by
        rw [UInt8.zero_shiftRight, UInt8.or_zero]
      have group : encodeTriples [first, second] = groupChars first second 0 ++ encodeTriples [] :=
        encodeTriples_cons first [second]
      have place : 4 * (([first, second].length + 2) / 3) - 1 = 3 := by
        simp only [List.length_cons, List.length_nil]
      rw [group, place, base64Text, encodeTriples, groupChars, third]
      rfl
  | case3 first => cases two
  | case4 => cases two

theorem sha1_length (message : List UInt8) : (sha1 message).length = 20 := by
  rw [sha1]
  simp only [List.flatMap_cons, List.flatMap_nil, List.append_nil, List.length_append, beBytes_length]

/-- `shacalc` writes the Base64 text of the SHA-1 of its string, whatever its
array held before. -/
theorem shacalc_eq (fresh : WBuffert) {src : List UInt8} (small : 8 * src.length < 2 ^ 31) :
    shacalc fresh src = base64Text (sha1 src) := by
  have result := @shaResult_eq fresh src (by omega)
  have hash := hashBytes_eq (shaResult fresh src)
  have padded := @encodeTriples_padded (sha1 src) (by rw [sha1_length])
  rw [sha1_length] at padded
  rw [result] at hash
  rw [shacalc, result, hash]
  exact padded

/-- In place and padded on the way, `shacalc` computes the SHA-1 of the standard
of what stands before the first zero byte.  Its text is the one that
`base64Encode` makes of it, and from which `base64Decode` gets it back, with a
zero behind it. -/
theorem shacalc_digest (fresh : WBuffert) (cells cells' : Nat -> UInt8) {src : List UInt8}
    (small : 8 * (cStr src).length < 2 ^ 31) :
    base64Encode cells (sha1 (cStr src)) = .ok (shacalc fresh (cStr src) ++ [0]) ∧
      base64Decode cells' (shacalc fresh (cStr src)) false = .ok (sha1 (cStr src) ++ [0]) := by
  rw [shacalc_eq fresh small]
  constructor
  · apply base64Encode_eq
    rw [sha1_length]
    decide
  · have short : (base64Text (sha1 (cStr src))).length < 2 ^ 31 := by
      rw [base64Text_length, sha1_length]
      decide
    rw [base64Decode_eq cells' short, if_neg Bool.false_ne_true, base64Bytes_base64Text, sha1_length]
    rfl

/-- Three letters and the zero byte behind them. -/
theorem shacalc_digest_abc :
    base64Encode (fun _ => 0) (sha1 (cStr (ascii "abc\x00"))) =
        .ok (shacalc (Vector.replicate 80 0xffffffff) (cStr (ascii "abc\x00")) ++ [0]) ∧
      base64Decode (fun _ => 0) (shacalc (Vector.replicate 80 0xffffffff) (cStr (ascii "abc\x00"))) false =
        .ok (sha1 (cStr (ascii "abc\x00")) ++ [0]) :=
  shacalc_digest (Vector.replicate 80 0xffffffff) (fun _ => 0) (fun _ => 0) (by decide)

end Net
end RtmpClient
