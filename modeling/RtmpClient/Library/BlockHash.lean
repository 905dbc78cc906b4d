import Mathlib.Algebra.Order.Group.Nat
import Mathlib.Tactic.Common
import RtmpClient.Library.BigEndian

namespace RtmpClient
namespace Library

/-!
# Hashing block by block

A hash of this kind compresses one block after the other into its state.  What
it has taken in so far is known by that state and the rest that fills no block
yet; how the data was cut into pieces is not.
-/

/-- The width of a block and what becomes of the state with it. -/
structure BlockHash (α σ : Type) where
  size : Nat
  positive : 0 < size
  compress : σ -> List α -> σ

namespace BlockHash

variable {α σ : Type} (hash : BlockHash α σ)

/-- The whole blocks of the data. -/
def blocks (data : List α) : List (List α) :=
  (List.range (data.length / hash.size)).map fun index => (data.drop (index * hash.size)).take hash.size

/-- What fills no block. -/
def rest (data : List α) : List α := data.drop (data.length / hash.size * hash.size)

/-- The state after the whole blocks. -/
def digest (start : σ) (data : List α) : σ := (hash.blocks data).foldl hash.compress start

variable {hash} {data first : List α}

theorem blocks_short (short : data.length < hash.size) : hash.blocks data = [] := by
  rw [blocks, Nat.div_eq_of_lt short]
  rfl

theorem rest_short (short : data.length < hash.size) : hash.rest data = data := by
  rw [rest, Nat.div_eq_of_lt short, Nat.zero_mul, List.drop_zero]

theorem blocks_long (long : hash.size ≤ data.length) :
    hash.blocks data = data.take hash.size :: hash.blocks (data.drop hash.size) := by
  rw [blocks, blocks, List.length_drop, Nat.div_eq_sub_div hash.positive long, List.range_succ_eq_map, List.map_cons,
    List.map_map, Nat.zero_mul, List.drop_zero]
  congr 1
  apply List.map_congr_left
  intro index _
  rw [Function.comp_apply, List.drop_drop, Nat.succ_mul, Nat.add_comm]

theorem rest_long (long : hash.size ≤ data.length) : hash.rest data = hash.rest (data.drop hash.size) := by
  rw [rest, rest, List.length_drop, Nat.div_eq_sub_div hash.positive long, List.drop_drop, Nat.succ_mul, Nat.add_comm]

@[simp] theorem rest_length (data : List α) : (hash.rest data).length = data.length % hash.size := by
  rw [rest, List.length_drop, Nat.mod_eq_sub_div_mul]

/-- Data by its blocks: the induction that the loops of such a hash follow. -/
theorem block_induction {motive : List α -> Prop} (short : forall data, data.length < hash.size -> motive data)
    (block : forall data, hash.size ≤ data.length -> motive (data.drop hash.size) -> motive data) (data : List α) :
    motive data := by
  rcases Nat.lt_or_ge data.length hash.size with few | many
  · exact short data few
  · exact block data many (block_induction short block (data.drop hash.size))
termination_by data.length
decreasing_by
  have positive := hash.positive
  rw [List.length_drop]
  omega

theorem digest_short (start : σ) (short : data.length < hash.size) : hash.digest start data = start := by
  rw [digest, blocks_short short, List.foldl_nil]

theorem digest_long (start : σ) (long : hash.size ≤ data.length) :
    hash.digest start data = hash.digest (hash.compress start (data.take hash.size)) (data.drop hash.size) := by
  rw [digest, blocks_long long, List.foldl_cons, digest]

/-- One block. -/
theorem digest_block (start : σ) (whole : data.length = hash.size) :
    hash.digest start data = hash.compress start data := by
  rw [digest_long start (Nat.le_of_eq whole.symm), ← whole, List.take_length, List.drop_length]
  exact digest_short _ hash.positive

/-! ## Data that comes in pieces -/

/-- After the first piece, the second comes behind the rest of the first. -/
theorem digest_append (start : σ) (first second : List α) :
    hash.digest start (first ++ second) = hash.digest (hash.digest start first) (hash.rest first ++ second) := by
  induction first using hash.block_induction generalizing start with
  | short first few => rw [digest_short start few, rest_short few]
  | block first many inductionHypothesis =>
      have longer : hash.size ≤ (first ++ second).length := by
        rw [List.length_append]
        exact Nat.le_add_right_of_le many
      rw [digest_long start longer, List.take_append_of_le_length many, List.drop_append_of_le_length many,
        inductionHypothesis, ← digest_long start many, rest_long many]

theorem rest_append (first second : List α) : hash.rest (first ++ second) = hash.rest (hash.rest first ++ second) := by
  induction first using hash.block_induction with
  | short first few => rw [rest_short few]
  | block first many inductionHypothesis =>
      have longer : hash.size ≤ (first ++ second).length := by
        rw [List.length_append]
        exact Nat.le_add_right_of_le many
      rw [rest_long longer, List.drop_append_of_le_length many, inductionHypothesis, rest_long many]

theorem rest_whole (aligned : data.length % hash.size = 0) : hash.rest data = [] := by
  apply List.eq_nil_of_length_eq_zero
  rw [rest_length, aligned]

/-- Behind whole blocks the second piece starts a block of its own. -/
theorem digest_append_whole (start : σ) (second : List α) (aligned : first.length % hash.size = 0) :
    hash.digest start (first ++ second) = hash.digest (hash.digest start first) second := by
  rw [digest_append, rest_whole aligned, List.nil_append]

end BlockHash

/-! ## Padding to blocks of 64 bytes

A marker, zeros, and eight bytes that tell the length. -/

theorem block_positive : 0 < 64 := by decide

/-- How many zeros stand behind the marker. -/
def zerosBehind (length : Nat) : Nat := (119 - length % 64) % 64

/-- The message, its padding and the bytes of its length. -/
def paddedMessage (message lengthBytes : List UInt8) : List UInt8 :=
  message ++ (0x80 :: List.replicate (zerosBehind message.length) 0 ++ lengthBytes)

/-- The zeros where the length still fits into the last block. -/
theorem zerosBehind_room {length : Nat} (room : length % 64 < 56) : zerosBehind length = 55 - length % 64 := by
  rw [zerosBehind]
  omega

/-- The zeros where it needs a block more. -/
theorem zerosBehind_full {length : Nat} (full : 56 ≤ length % 64) : zerosBehind length = 119 - length % 64 := by
  rw [zerosBehind]
  omega

/-! ## Bytes of words -/

/-- A byte of a word, as it is shifted down and masked. -/
theorem shiftedByte (word : UInt32) {shift : UInt32} {power : Nat} (at_ : shift.toNat = 8 * power) (small : power < 4) :
    (word >>> shift &&& 0xff).toUInt8 = UInt8.ofNat (word.toNat / 256 ^ power) := by
  apply UInt8.toNat.inj
  have powers : 2 ^ (8 * power) = 256 ^ power := Nat.pow_mul 2 8 power
  have mask : (word >>> shift &&& 0xff).toNat = (word >>> shift).toNat % 256 := by
    rw [UInt32.toNat_and]
    exact Nat.and_two_pow_sub_one_eq_mod _ 8
  have within : 8 * power % 32 = 8 * power := Nat.mod_eq_of_lt (by omega)
  rw [UInt32.toNat_toUInt8, mask, UInt32.toNat_shiftRight, at_, within, Nat.shiftRight_eq_div_pow, powers,
    UInt8.toNat_ofNat']
  exact Nat.mod_mod _ _

/-- The lowest bytes of a number, least significant first. -/
def leBytes (width value : Nat) : List UInt8 := (beBytes width value).reverse

theorem leBytes_length (width value : Nat) : (leBytes width value).length = width := by
  rw [leBytes, List.length_reverse, beBytes_length]

theorem leBytes_mod (width value : Nat) : leBytes width (value % 256 ^ width) = leBytes width value := by
  rw [leBytes, beBytes_mod, leBytes]

/-- The bytes of the low half stand before those of the high half. -/
theorem leBytes_halves (value : Nat) : leBytes 8 value = leBytes 4 value ++ leBytes 4 (value / 256 ^ 4) := by
  have high (power : Nat) : value / 256 ^ 4 / 256 ^ power = value / 256 ^ (4 + power) := by
    rw [Nat.div_div_eq_div_mul, ← Nat.pow_add]
  have upper : leBytes 4 (value / 256 ^ 4) = [UInt8.ofNat (value / 256 ^ 4 / 256 ^ 0),
      UInt8.ofNat (value / 256 ^ 4 / 256 ^ 1), UInt8.ofNat (value / 256 ^ 4 / 256 ^ 2),
      UInt8.ofNat (value / 256 ^ 4 / 256 ^ 3)] := rfl
  rw [upper, high, high, high, high]
  rfl

end Library
end RtmpClient
