import RtmpClient.Library.BlockHash
import RtmpClient.Library.CppString
import RtmpClient.Library.Layout
import RtmpClient.Library.ShiftedBytes

namespace RtmpClient
namespace Net

open Library

/-!
# MD5 (`base/our_md5.c`, `base/our_md5hl.c`)

A context takes in a message piece by piece: whole blocks go into its state, the
rest waits in its buffer.  Lengths and the index of the loop over the blocks are
`unsigned int`s.
-/

/-- `state`, its four words. -/
structure Md5State where
  a : UInt32
  b : UInt32
  c : UInt32
  d : UInt32
  deriving DecidableEq, Repr

/-- `MD5_CTX`. -/
structure Md5Ctx where
  state : Md5State
  count0 : UInt32
  count1 : UInt32
  buffer : List UInt8
  deriving DecidableEq, Repr

/-- `PADDING`. -/
def md5Padding : List UInt8 := 0x80 :: List.replicate 63 0

/-- `ROTATE_LEFT`. -/
def rotateLeft (x n : UInt32) : UInt32 := (x <<< n) ||| (x >>> (32 - n))

def ff (a b c d x s ac : UInt32) : UInt32 := rotateLeft (a + (((b &&& c) ||| (~~~ b &&& d)) + x + ac)) s + b

def gg (a b c d x s ac : UInt32) : UInt32 := rotateLeft (a + (((b &&& d) ||| (c &&& ~~~ d)) + x + ac)) s + b

def hh (a b c d x s ac : UInt32) : UInt32 := rotateLeft (a + ((b ^^^ c ^^^ d) + x + ac)) s + b

def ii (a b c d x s ac : UInt32) : UInt32 := rotateLeft (a + ((c ^^^ (b ||| ~~~ d)) + x + ac)) s + b

/-- The bytes of a word, as `Encode` writes them. -/
def encodeWord (word : UInt32) : List UInt8 :=
  [(word &&& 0xff).toUInt8, (word >>> 8 &&& 0xff).toUInt8, (word >>> 16 &&& 0xff).toUInt8,
    (word >>> 24 &&& 0xff).toUInt8]

/-- The word at an index of a block, as `Decode` reads it. -/
def decodeWord (block : List UInt8) (index : Nat) : UInt32 :=
  (block.getD (4 * index) 0).toUInt32 ||| ((block.getD (4 * index + 1) 0).toUInt32 <<< 8) |||
    ((block.getD (4 * index + 2) 0).toUInt32 <<< 16) ||| ((block.getD (4 * index + 3) 0).toUInt32 <<< 24)

/-- `MD5Transform`, of a block of 64 bytes. -/
def md5Transform (state : Md5State) (block : List UInt8) : Md5State :=
  let x := decodeWord block
  let a := state.a
  let b := state.b
  let c := state.c
  let d := state.d
  -- Round 1
  let a := ff a b c d (x 0) 7 0xd76aa478
  let d := ff d a b c (x 1) 12 0xe8c7b756
  let c := ff c d a b (x 2) 17 0x242070db
  let b := ff b c d a (x 3) 22 0xc1bdceee
  let a := ff a b c d (x 4) 7 0xf57c0faf
  let d := ff d a b c (x 5) 12 0x4787c62a
  let c := ff c d a b (x 6) 17 0xa8304613
  let b := ff b c d a (x 7) 22 0xfd469501
  let a := ff a b c d (x 8) 7 0x698098d8
  let d := ff d a b c (x 9) 12 0x8b44f7af
  let c := ff c d a b (x 10) 17 0xffff5bb1
  let b := ff b c d a (x 11) 22 0x895cd7be
  let a := ff a b c d (x 12) 7 0x6b901122
  let d := ff d a b c (x 13) 12 0xfd987193
  let c := ff c d a b (x 14) 17 0xa679438e
  let b := ff b c d a (x 15) 22 0x49b40821
  -- Round 2
  let a := gg a b c d (x 1) 5 0xf61e2562
  let d := gg d a b c (x 6) 9 0xc040b340
  let c := gg c d a b (x 11) 14 0x265e5a51
  let b := gg b c d a (x 0) 20 0xe9b6c7aa
  let a := gg a b c d (x 5) 5 0xd62f105d
  let d := gg d a b c (x 10) 9 0x2441453
  let c := gg c d a b (x 15) 14 0xd8a1e681
  let b := gg b c d a (x 4) 20 0xe7d3fbc8
  let a := gg a b c d (x 9) 5 0x21e1cde6
  let d := gg d a b c (x 14) 9 0xc33707d6
  let c := gg c d a b (x 3) 14 0xf4d50d87
  let b := gg b c d a (x 8) 20 0x455a14ed
  let a := gg a b c d (x 13) 5 0xa9e3e905
  let d := gg d a b c (x 2) 9 0xfcefa3f8
  let c := gg c d a b (x 7) 14 0x676f02d9
  let b := gg b c d a (x 12) 20 0x8d2a4c8a
  -- Round 3
  let a := hh a b c d (x 5) 4 0xfffa3942
  let d := hh d a b c (x 8) 11 0x8771f681
  let c := hh c d a b (x 11) 16 0x6d9d6122
  let b := hh b c d a (x 14) 23 0xfde5380c
  let a := hh a b c d (x 1) 4 0xa4beea44
  let d := hh d a b c (x 4) 11 0x4bdecfa9
  let c := hh c d a b (x 7) 16 0xf6bb4b60
  let b := hh b c d a (x 10) 23 0xbebfbc70
  let a := hh a b c d (x 13) 4 0x289b7ec6
  let d := hh d a b c (x 0) 11 0xeaa127fa
  let c := hh c d a b (x 3) 16 0xd4ef3085
  let b := hh b c d a (x 6) 23 0x4881d05
  let a := hh a b c d (x 9) 4 0xd9d4d039
  let d := hh d a b c (x 12) 11 0xe6db99e5
  let c := hh c d a b (x 15) 16 0x1fa27cf8
  let b := hh b c d a (x 2) 23 0xc4ac5665
  -- Round 4
  let a := ii a b c d (x 0) 6 0xf4292244
  let d := ii d a b c (x 7) 10 0x432aff97
  let c := ii c d a b (x 14) 15 0xab9423a7
  let b := ii b c d a (x 5) 21 0xfc93a039
  let a := ii a b c d (x 12) 6 0x655b59c3
  let d := ii d a b c (x 3) 10 0x8f0ccc92
  let c := ii c d a b (x 10) 15 0xffeff47d
  let b := ii b c d a (x 1) 21 0x85845dd1
  let a := ii a b c d (x 8) 6 0x6fa87e4f
  let d := ii d a b c (x 15) 10 0xfe2ce6e0
  let c := ii c d a b (x 6) 15 0xa3014314
  let b := ii b c d a (x 13) 21 0x4e0811a1
  let a := ii a b c d (x 4) 6 0xf7537e82
  let d := ii d a b c (x 11) 10 0xbd3af235
  let c := ii c d a b (x 2) 15 0x2ad7d2bb
  let b := ii b c d a (x 9) 21 0xeb86d391
  { a := state.a + a, b := state.b + b, c := state.c + c, d := state.d + d }

/-- `our_MD5Init`, which leaves the buffer as it is. -/
def md5Init (fresh : List UInt8) : Md5Ctx where
  state := { a := 0x67452301, b := 0xefcdab89, c := 0x98badcfe, d := 0x10325476 }
  count0 := 0
  count1 := 0
  buffer := fresh

/-- The loop over the blocks from `i` on.  A block that lies within the input has
shown that `i + 64` does not wrap. -/
def md5Blocks (input : List UInt8) (i : Nat) (state : Md5State) : Outcome (Nat × Md5State) :=
  if (i + 63) % 2 ^ 32 < input.length then
    if i + 64 ≤ input.length then md5Blocks input (i + 64) (md5Transform state (fieldAt input i 64)) else .fault
  else .ok (i, state)
termination_by input.length - i

/-- The `index` of a context: how many bytes wait in its buffer. -/
def Md5Ctx.index (context : Md5Ctx) : Nat := ((context.count0 >>> 3) &&& 0x3f).toNat

/-- `count` after that many bytes more. -/
def Md5Ctx.addCount (context : Md5Ctx) (inputLen : UInt32) : Md5Ctx :=
  let count0 := context.count0 + (inputLen <<< 3)
  let count1 := if count0 < inputLen <<< 3 then context.count1 + 1 else context.count1
  { context with count0, count1 := count1 + (inputLen >>> 29) }

/-- "Transform as many times as possible": `i`, `index`, the state and the buffer
behind it. -/
def transformBlocks (context : Md5Ctx) (index : Nat) (input : List UInt8) :
    Outcome (Nat × Nat × Md5State × List UInt8) :=
  let partLen := 64 - index
  if partLen ≤ input.length then do
    let buffer ← Outcome.copyInto context.buffer index (input.take partLen)
    let (i, state) ← md5Blocks input partLen (md5Transform context.state buffer)
    return (i, 0, state, buffer)
  else .ok (0, index, context.state, context.buffer)

/-- "Buffer remaining input". -/
def bufferRemaining (buffer : List UInt8) (index : Nat) (input : List UInt8) (i : Nat) : Outcome (List UInt8) :=
  if input.length - i ≠ 0 then Outcome.copyInto buffer index (input.drop i) else .ok buffer

/-- `ourMD5Update`. -/
def ourMD5Update (context : Md5Ctx) (input : List UInt8) : Outcome Md5Ctx := do
  let counted := context.addCount (UInt32.ofNat input.length)
  let (i, index, state, buffer) ← transformBlocks context context.index input
  let buffer ← bufferRemaining buffer index input i
  return { counted with state, buffer }

/-- `our_MD5Final`: the digest. -/
def ourMD5Final (context : Md5Ctx) : Outcome (List UInt8) := do
  let bits := encodeWord context.count0 ++ encodeWord context.count1
  let index := context.index
  let padLen := if index < 56 then 56 - index else 120 - index
  let padding ← Outcome.slice md5Padding 0 padLen
  let context ← ourMD5Update context padding
  let context ← ourMD5Update context bits
  return encodeWord context.state.a ++ encodeWord context.state.b ++ encodeWord context.state.c ++
    encodeWord context.state.d

/-- `our_MD5End`: the digest in hexadecimal digits. -/
def ourMD5End (context : Md5Ctx) : Outcome (List UInt8) := do
  let digest ← ourMD5Final context
  return digest.flatMap fun (byte : UInt8) =>
    [(ascii "0123456789abcdef").getD (byte >>> 4).toNat 0, (ascii "0123456789abcdef").getD (byte &&& 0x0f).toNat 0]

/-- `our_MD5Data`. -/
def ourMD5Data (fresh data : List UInt8) : Outcome (List UInt8) := do
  let context ← ourMD5Update (md5Init fresh) data
  ourMD5End context

/-- `our_MD5File`, of a file that `fread` returns in these pieces. -/
def ourMD5File (fresh : List UInt8) (reads : List (List UInt8)) : Outcome (List UInt8) := do
  let context ← reads.foldlM ourMD5Update (md5Init fresh)
  ourMD5End context

/-! ## The digest of a message -/

def md5Initial : Md5State where
  a := 0x67452301
  b := 0xefcdab89
  c := 0x98badcfe
  d := 0x10325476

def md5Hash : BlockHash UInt8 Md5State where
  size := 64
  positive := block_positive
  compress := md5Transform

/-- The MD5 of a message by its definition. -/
def md5 (message : List UInt8) : List UInt8 :=
  let state := md5Hash.digest md5Initial (paddedMessage message (leBytes 8 (8 * message.length)))
  [state.a, state.b, state.c, state.d].flatMap fun word => leBytes 4 word.toNat

/-- What a context holds that has taken in this data. -/
structure Md5Ctx.Holds (context : Md5Ctx) (data : List UInt8) : Prop where
  state : context.state = md5Hash.digest md5Initial data
  size : context.buffer.length = 64
  pending : context.buffer.take (data.length % 64) = md5Hash.rest data
  count : context.count0.toNat + 2 ^ 32 * context.count1.toNat = 8 * data.length % 2 ^ 64

theorem Md5Ctx.Holds.init {fresh : List UInt8} (size : fresh.length = 64) : (md5Init fresh).Holds [] where
  state := (@BlockHash.digest_short _ _ md5Hash [] md5Initial md5Hash.positive).symm
  size := size
  pending := rfl
  count := rfl

/-- The bytes that wait are counted. -/
theorem Md5Ctx.Holds.index {context : Md5Ctx} {data : List UInt8} (holds : context.Holds data) :
    context.index = data.length % 64 := by
  have count := holds.count
  have mask : ((context.count0 >>> 3) &&& 0x3f).toNat = (context.count0 >>> 3).toNat % 64 := by
    rw [UInt32.toNat_and]
    exact Nat.and_two_pow_sub_one_eq_mod _ 6
  have shifted : (context.count0 >>> 3).toNat = context.count0.toNat / 2 ^ 3 := by
    rw [UInt32.toNat_shiftRight, ← Nat.shiftRight_eq_div_pow]
    rfl
  rw [Md5Ctx.index, mask, shifted]
  omega

/-- The count of bits, modulo 2^64. -/
theorem addCount_count (context : Md5Ctx) {length : Nat} (small : length < 2 ^ 32) :
    (context.addCount (UInt32.ofNat length)).count0.toNat +
        2 ^ 32 * (context.addCount (UInt32.ofNat length)).count1.toNat =
      (context.count0.toNat + 2 ^ 32 * context.count1.toNat + 8 * length) % 2 ^ 64 := by
  have low := context.count0.toNat_lt
  have high := context.count1.toNat_lt
  have given : (UInt32.ofNat length).toNat = length := by
    rw [UInt32.toNat_ofNat', Nat.mod_eq_of_lt small]
  have bits : (UInt32.ofNat length <<< 3).toNat = 8 * length % 2 ^ 32 := by
    have three : (3 : UInt32).toNat % 32 = 3 := rfl
    rw [UInt32.toNat_shiftLeft, given, three, Nat.shiftLeft_eq, Nat.mul_comm]
  have carried : (UInt32.ofNat length >>> 29).toNat = length / 2 ^ 29 := by
    rw [UInt32.toNat_shiftRight, given, Nat.shiftRight_eq_div_pow]
    rfl
  have sum : (context.count0 + (UInt32.ofNat length <<< 3)).toNat =
      (context.count0.toNat + 8 * length % 2 ^ 32) % 2 ^ 32 := by
    rw [UInt32.toNat_add, bits]
  rw [Md5Ctx.addCount]
  dsimp only
  rw [sum, UInt32.toNat_add, carried]
  by_cases carry : context.count0 + (UInt32.ofNat length <<< 3) < UInt32.ofNat length <<< 3
  · have less := UInt32.lt_iff_toNat_lt.mp carry
    rw [sum, bits] at less
    rw [if_pos carry, UInt32.toNat_add]
    have one : (1 : UInt32).toNat = 1 := rfl
    rw [one]
    omega
  · have more := mt UInt32.lt_iff_toNat_lt.mpr carry
    rw [sum, bits] at more
    rw [if_neg carry]
    omega

/-- The loop over the blocks, as far as its index does not wrap. -/
theorem md5Blocks_eq {input : List UInt8} (given : input.length < 2 ^ 32) {i : Nat} (inside : i ≤ input.length)
    (state : Md5State) : md5Blocks input i state =
      if i + (input.length - i) / 64 * 64 + 63 < 2 ^ 32 then
        .ok (i + (input.length - i) / 64 * 64, md5Hash.digest state (input.drop i))
      else .fault := by
  have left : (input.drop i).length = input.length - i := List.length_drop
  by_cases block : i + 64 ≤ input.length
  · have whole : md5Hash.size ≤ (input.drop i).length := by
      rw [left]
      exact Nat.le_sub_of_add_le' block
    have goesOn : (i + 63) % 2 ^ 32 < input.length := by omega
    have later := md5Blocks_eq given block (md5Transform state (fieldAt input i 64))
    have count : i + 64 + (input.length - (i + 64)) / 64 * 64 = i + (input.length - i) / 64 * 64 := by omega
    rw [count] at later
    rw [md5Blocks, if_pos goesOn, if_pos block, later, BlockHash.digest_long state whole, List.drop_drop]
    rfl
  · have few : (input.drop i).length < md5Hash.size := by
      rw [left]
      show input.length - i < 64
      omega
    have here : i + (input.length - i) / 64 * 64 = i := by omega
    rw [md5Blocks, if_neg block, here, BlockHash.digest_short state few]
    by_cases wraps : i + 63 < 2 ^ 32
    · rw [if_neg (by omega), if_pos wraps]
    · rw [if_pos (by omega), if_neg wraps]
termination_by input.length - i

/-- The bytes that remain are kept behind those that wait. -/
theorem bufferRemaining_eq {buffer input : List UInt8} {index i : Nat} (size : buffer.length = 64)
    (inside : index + (input.length - i) ≤ 64) :
    Exists fun kept => bufferRemaining buffer index input i = .ok kept ∧ kept.length = 64 ∧
      kept.take (index + (input.length - i)) = buffer.take index ++ input.drop i := by
  have length : (input.drop i).length = input.length - i := List.length_drop
  have room : index + (input.drop i).length ≤ buffer.length := by
    rw [size, length]
    exact inside
  have before : (buffer.take index).length = index := List.length_take_of_le (by omega)
  by_cases some : input.length - i ≠ 0
  · refine ⟨overwrite buffer index (input.drop i), ?_, ?_, ?_⟩
    · rw [bufferRemaining, if_pos some, Outcome.copyInto_of_le room]
    · rw [overwrite_length room, size]
    · have both : (buffer.take index ++ input.drop i).length = index + (input.length - i) := by
        rw [List.length_append, before, length]
      rw [overwrite, ← List.append_assoc, ← both, List.take_left]
  · have none : input.drop i = [] := List.eq_nil_of_length_eq_zero (by omega)
    refine ⟨buffer, if_neg some, size, ?_⟩
    rw [none, List.append_nil]
    congr 1
    omega

/-- What is left of a piece behind its last whole block. -/
theorem rest_piece {data piece : List UInt8} (many : 64 - data.length % 64 ≤ piece.length) :
    md5Hash.rest (data ++ piece) =
      piece.drop (64 - data.length % 64 + (piece.length - (64 - data.length % 64)) / 64 * 64) := by
  have restLength : (md5Hash.rest data).length = data.length % 64 := BlockHash.rest_length data
  have whole : md5Hash.rest (md5Hash.rest data ++ piece) =
      (md5Hash.rest data ++ piece).drop ((md5Hash.rest data ++ piece).length / 64 * 64) := rfl
  have place : (data.length % 64 + piece.length) / 64 * 64 - data.length % 64 =
      64 - data.length % 64 + (piece.length - (64 - data.length % 64)) / 64 * 64 := by omega
  rw [BlockHash.rest_append, whole, List.length_append, restLength, List.drop_append, restLength, place,
    List.drop_eq_nil_of_le (by rw [restLength]; omega), List.nil_append]

section Update

variable {context : Md5Ctx} {data : List UInt8} (holds : context.Holds data) {piece : List UInt8}
  (given : piece.length < 2 ^ 32)

include holds given

/-- A piece that fills the buffer: the blocks of both are hashed, unless the index
of the loop wraps and it reads behind the piece. -/
theorem transformBlocks_eq (many : 64 - data.length % 64 ≤ piece.length) :
    transformBlocks context (data.length % 64) piece =
      if data.length % 64 + piece.length < 2 ^ 32 then
        .ok (64 - data.length % 64 + (piece.length - (64 - data.length % 64)) / 64 * 64, 0,
          md5Hash.digest md5Initial (data ++ piece), md5Hash.rest data ++ piece.take (64 - data.length % 64))
      else .fault := by
  have restLength : (md5Hash.rest data).length = data.length % 64 := BlockHash.rest_length data
  have partLength : (piece.take (64 - data.length % 64)).length = 64 - data.length % 64 := List.length_take_of_le many
  have filled : (md5Hash.rest data ++ piece.take (64 - data.length % 64)).length = md5Hash.size := by
    rw [List.length_append, restLength, partLength]
    show data.length % 64 + (64 - data.length % 64) = 64
    omega
  have copied : Outcome.copyInto context.buffer (data.length % 64) (piece.take (64 - data.length % 64)) =
      .ok (md5Hash.rest data ++ piece.take (64 - data.length % 64)) := by
    have inside : data.length % 64 + (piece.take (64 - data.length % 64)).length = context.buffer.length := by
      rw [partLength, holds.size]
      omega
    rw [Outcome.copyInto_of_le (Nat.le_of_eq inside), overwrite, holds.pending, inside, List.drop_length,
      List.append_nil]
  have digest : md5Hash.digest (md5Transform context.state (md5Hash.rest data ++ piece.take (64 - data.length % 64)))
      (piece.drop (64 - data.length % 64)) = md5Hash.digest md5Initial (data ++ piece) := by
    have split : md5Hash.rest data ++ piece = (md5Hash.rest data ++ piece.take (64 - data.length % 64)) ++
        piece.drop (64 - data.length % 64) := by
      rw [List.append_assoc, List.take_append_drop]
    have block := BlockHash.digest_block (md5Hash.digest md5Initial data) filled
    rw [holds.state, BlockHash.digest_append, split,
      BlockHash.digest_append_whole _ _ (by rw [filled, Nat.mod_self]), block]
    rfl
  have blocks := md5Blocks_eq given many
    (md5Transform context.state (md5Hash.rest data ++ piece.take (64 - data.length % 64)))
  have place : 64 - data.length % 64 + (piece.length - (64 - data.length % 64)) / 64 * 64 + 63 < 2 ^ 32 ↔
      data.length % 64 + piece.length < 2 ^ 32 := by omega
  simp only [transformBlocks, if_pos many]
  rw [copied, Outcome.ok_bind_do, blocks, digest]
  by_cases small : data.length % 64 + piece.length < 2 ^ 32
  · rw [if_pos small, if_pos (place.mpr small)]
    rfl
  · rw [if_neg small, if_neg (mt place.mp small)]
    rfl

theorem addCount_holds : (context.addCount (UInt32.ofNat piece.length)).count0.toNat +
    2 ^ 32 * (context.addCount (UInt32.ofNat piece.length)).count1.toNat = 8 * (data ++ piece).length % 2 ^ 64 := by
  rw [addCount_count context given, holds.count, List.length_append]
  omega

/-- Taking in a piece: the context holds it too. -/
theorem ourMD5Update_ok (small : data.length % 64 + piece.length < 2 ^ 32) :
    Exists fun after => ourMD5Update context piece = .ok after ∧ after.Holds (data ++ piece) := by
  have restLength : (md5Hash.rest data).length = data.length % 64 := BlockHash.rest_length data
  have count := addCount_holds holds given
  have total : (data ++ piece).length = data.length + piece.length := List.length_append
  by_cases many : 64 - data.length % 64 ≤ piece.length
  · -- the buffer fills up, and the blocks of the piece follow
    have blocks := transformBlocks_eq holds given many
    rw [if_pos small] at blocks
    have filled : (md5Hash.rest data ++ piece.take (64 - data.length % 64)).length = 64 := by
      rw [List.length_append, restLength, List.length_take_of_le many]
      omega
    rcases bufferRemaining_eq filled (show 0 + (piece.length -
      (64 - data.length % 64 + (piece.length - (64 - data.length % 64)) / 64 * 64)) ≤ 64 by omega) with
      ⟨kept, copied, size, pending⟩
    refine ⟨{ context.addCount (UInt32.ofNat piece.length) with
      state := md5Hash.digest md5Initial (data ++ piece), buffer := kept }, ?_, rfl, size, ?_, count⟩
    · rw [ourMD5Update, holds.index, blocks, Outcome.ok_bind_do]
      dsimp only
      rw [copied]
      rfl
    · have waits : (data ++ piece).length % 64 = 0 + (piece.length -
          (64 - data.length % 64 + (piece.length - (64 - data.length % 64)) / 64 * 64)) := by omega
      rw [rest_piece many, waits]
      exact pending
  · -- all of the piece waits
    have blocks : transformBlocks context (data.length % 64) piece =
        .ok (0, data.length % 64, context.state, context.buffer) := by
      simp only [transformBlocks, if_neg many]
    rcases bufferRemaining_eq holds.size (show data.length % 64 + (piece.length - 0) ≤ 64 by omega) with
      ⟨kept, copied, size, pending⟩
    have few : (md5Hash.rest data ++ piece).length < md5Hash.size := by
      rw [List.length_append, restLength]
      show _ < 64
      omega
    refine ⟨{ context.addCount (UInt32.ofNat piece.length) with buffer := kept }, ?_, ?_, size, ?_, count⟩
    · rw [ourMD5Update, holds.index, blocks, Outcome.ok_bind_do]
      dsimp only
      rw [copied]
      rfl
    · exact holds.state.trans (by rw [BlockHash.digest_append, BlockHash.digest_short _ few])
    · have waits : (data ++ piece).length % 64 = data.length % 64 + (piece.length - 0) := by omega
      rw [BlockHash.rest_append, BlockHash.rest_short few, waits, ← holds.pending]
      exact pending

/-- A piece that is too long for the index of the loop. -/
theorem ourMD5Update_fault (long : ¬ data.length % 64 + piece.length < 2 ^ 32) :
    ourMD5Update context piece = .fault := by
  have blocks := transformBlocks_eq holds given (by omega)
  rw [if_neg long] at blocks
  rw [ourMD5Update, holds.index, blocks]
  rfl

end Update

/-! ## Whole messages -/

/-- Each piece, behind what waits when it comes, is short enough for the index of
the loop. -/
def PiecesFit : (waiting : Nat) -> List (List UInt8) -> Prop
  | _, [] => True
  | waiting, piece :: pieces => waiting + piece.length < 2 ^ 32 ∧ PiecesFit ((waiting + piece.length) % 64) pieces

instance decidablePiecesFit : (waiting : Nat) -> (pieces : List (List UInt8)) -> Decidable (PiecesFit waiting pieces)
  | _, [] => isTrue trivial
  | waiting, piece :: pieces =>
      have := decidablePiecesFit ((waiting + piece.length) % 64) pieces
      inferInstanceAs (Decidable (_ ∧ _))

/-- Pieces that are taken in one after the other. -/
theorem updates_eq {context : Md5Ctx} {data : List UInt8} (holds : context.Holds data) {pieces : List (List UInt8)}
    (given : forall piece, piece ∈ pieces -> piece.length < 2 ^ 32) :
    if PiecesFit (data.length % 64) pieces then
      Exists fun after => pieces.foldlM ourMD5Update context = .ok after ∧ after.Holds (data ++ pieces.flatten)
    else pieces.foldlM ourMD5Update context = .fault := by
  induction pieces generalizing context data with
  | nil =>
      rw [if_pos (show PiecesFit _ [] from trivial), List.flatten_nil, List.append_nil]
      exact ⟨context, rfl, holds⟩
  | cons piece pieces inductionHypothesis =>
      rw [List.forall_mem_cons] at given
      by_cases small : data.length % 64 + piece.length < 2 ^ 32
      · rcases ourMD5Update_ok holds given.1 small with ⟨next, updated, holds'⟩
        have later := inductionHypothesis holds' given.2
        have waits : (data ++ piece).length % 64 = (data.length % 64 + piece.length) % 64 := by
          rw [List.length_append]
          omega
        rw [waits, List.append_assoc] at later
        have same : PiecesFit (data.length % 64) (piece :: pieces) ↔
            PiecesFit ((data.length % 64 + piece.length) % 64) pieces := ⟨And.right, fun fit => ⟨small, fit⟩⟩
        rw [List.foldlM_cons, updated, Outcome.ok_bind_do, List.flatten_cons]
        simp only [same]
        exact later
      · rw [if_neg (fun fit : PiecesFit _ (piece :: pieces) => small fit.1), List.foldlM_cons,
          ourMD5Update_fault holds given.1 small]
        rfl

theorem encodeWord_eq (word : UInt32) : encodeWord word = leBytes 4 word.toNat := by
  have bytes : leBytes 4 word.toNat = [UInt8.ofNat (word.toNat / 256 ^ 0), UInt8.ofNat (word.toNat / 256 ^ 1),
      UInt8.ofNat (word.toNat / 256 ^ 2), UInt8.ofNat (word.toNat / 256 ^ 3)] := rfl
  have zero := @shiftedByte word 0 0 rfl (by decide)
  have one := @shiftedByte word 8 1 rfl (by decide)
  have two := @shiftedByte word 16 2 rfl (by decide)
  have three := @shiftedByte word 24 3 rfl (by decide)
  rw [UInt32.shiftRight_zero] at zero
  rw [bytes, encodeWord, zero, one, two, three]

/-- The two words of the count are the bytes of the length. -/
theorem encodeCount {context : Md5Ctx} {data : List UInt8} (holds : context.Holds data) :
    encodeWord context.count0 ++ encodeWord context.count1 = leBytes 8 (8 * data.length) := by
  have count := holds.count
  have low := context.count0.toNat_lt
  have high := context.count1.toNat_lt
  have count0 : context.count0.toNat = 8 * data.length % 256 ^ 4 := by omega
  have count1 : context.count1.toNat = 8 * data.length / 256 ^ 4 % 256 ^ 4 := by omega
  rw [encodeWord_eq, encodeWord_eq, count0, count1, leBytes_mod, leBytes_mod, leBytes_halves]

/-- The padding of a message of that length. -/
theorem slice_padding (length : Nat) :
    Outcome.slice md5Padding 0 (if length % 64 < 56 then 56 - length % 64 else 120 - length % 64) =
      .ok (0x80 :: List.replicate (zerosBehind length) 0) := by
  have count : (if length % 64 < 56 then 56 - length % 64 else 120 - length % 64) = zerosBehind length + 1 := by
    rw [zerosBehind]
    split
    · omega
    · omega
  have few : zerosBehind length ≤ 63 := by
    rw [zerosBehind]
    omega
  have size : md5Padding.length = 64 := rfl
  rw [count, Outcome.slice_of_le (by omega), List.drop_zero, md5Padding, List.take_succ_cons, List.take_replicate,
    Nat.min_eq_left few]

/-- The digest of a context is that of its message. -/
theorem ourMD5Final_eq {context : Md5Ctx} {data : List UInt8} (holds : context.Holds data) :
    ourMD5Final context = .ok (md5 data) := by
  have few : zerosBehind data.length ≤ 63 := by
    rw [zerosBehind]
    omega
  have marker : (0x80 :: List.replicate (zerosBehind data.length) 0 : List UInt8).length =
      zerosBehind data.length + 1 := by
    rw [List.length_cons, List.length_replicate]
  have eight : (leBytes 8 (8 * data.length)).length = 8 := leBytes_length 8 _
  rcases @ourMD5Update_ok _ _ holds (0x80 :: List.replicate (zerosBehind data.length) 0) (by omega) (by omega) with
    ⟨padded, padding, holdsPadded⟩
  rcases @ourMD5Update_ok _ _ holdsPadded (leBytes 8 (8 * data.length)) (by omega) (by omega) with
    ⟨whole, bits, holdsWhole⟩
  have state := holdsWhole.state
  rw [List.append_assoc, ← paddedMessage] at state
  rw [ourMD5Final, holds.index, slice_padding, Outcome.ok_bind_do, padding, Outcome.ok_bind_do, encodeCount holds, bits,
    Outcome.ok_bind_do, encodeWord_eq, encodeWord_eq, encodeWord_eq, encodeWord_eq, state, md5]
  simp only [List.flatMap_cons, List.flatMap_nil, List.append_nil, List.append_assoc]
  rfl

/-- The hexadecimal digits of bytes. -/
def hexDigits (bytes : List UInt8) : List UInt8 :=
  bytes.flatMap fun byte =>
    [(ascii "0123456789abcdef").getD (byte.toNat / 16) 0, (ascii "0123456789abcdef").getD (byte.toNat % 16) 0]

theorem ourMD5End_eq {context : Md5Ctx} {data : List UInt8} (holds : context.Holds data) :
    ourMD5End context = .ok (hexDigits (md5 data)) := by
  have high (byte : UInt8) : (byte >>> 4).toNat = byte.toNat / 16 := by
    rw [UInt8.toNat_shiftRight]
    exact Nat.shiftRight_eq_div_pow _ 4
  have low (byte : UInt8) : (byte &&& 0x0f).toNat = byte.toNat % 16 := by
    rw [UInt8.toNat_and]
    exact Nat.and_two_pow_sub_one_eq_mod _ 4
  rw [ourMD5End, ourMD5Final_eq holds, Outcome.ok_bind_do]
  simp only [high, low]
  rfl

/-- A file is hashed in the pieces in which it is read, and however these are
cut, the digits are those of the MD5 of the whole of it; unless one of them makes
the index of the loop wrap, which then reads behind it. -/
theorem ourMD5File_eq {fresh : List UInt8} (size : fresh.length = 64) {reads : List (List UInt8)}
    (given : forall piece, piece ∈ reads -> piece.length < 2 ^ 32) :
    ourMD5File fresh reads = if PiecesFit 0 reads then .ok (hexDigits (md5 reads.flatten)) else .fault := by
  have updates := updates_eq (Md5Ctx.Holds.init size) given
  by_cases fit : PiecesFit 0 reads
  · rw [if_pos (show PiecesFit (([] : List UInt8).length % 64) reads from fit)] at updates
    rcases updates with ⟨after, updated, holds⟩
    rw [List.nil_append] at holds
    rw [if_pos fit, ourMD5File, updated, Outcome.ok_bind_do, ourMD5End_eq holds]
  · rw [if_neg (show ¬ PiecesFit (([] : List UInt8).length % 64) reads from fit)] at updates
    rw [if_neg fit, ourMD5File, updates]
    rfl

/-- Two pieces of which the first fills no block. -/
theorem ourMD5File_eq_two : ourMD5File (List.replicate 64 0) [ascii "a", ascii "bc"] =
    if PiecesFit 0 [ascii "a", ascii "bc"] then
      .ok (hexDigits (md5 [ascii "a", ascii "bc"].flatten))
    else .fault :=
  ourMD5File_eq (by decide) (by decide)

/-- Data whose length is an `unsigned` is hashed whole. -/
theorem ourMD5Data_eq {fresh : List UInt8} (size : fresh.length = 64) {data : List UInt8}
    (given : data.length < 2 ^ 32) : ourMD5Data fresh data = .ok (hexDigits (md5 data)) := by
  rcases ourMD5Update_ok (Md5Ctx.Holds.init size) given (by rw [List.length_nil]; omega) with
    ⟨after, updated, holds⟩
  rw [ourMD5Data, updated, Outcome.ok_bind_do, ourMD5End_eq holds, List.nil_append]

end Net
end RtmpClient
