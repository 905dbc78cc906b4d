import RtmpClient.Library.ShiftedBytes
import RtmpClient.Net.WsProtocol

namespace RtmpClient
namespace Net

open Library

/-!
# The header of a WebSocket frame on the wire

What `WsHeader::decode` finds in the bytes of `WsHeader::encode`.  The length
has one of three forms.  The longest is read with shifts of `int`, which lose
what is above 32 bits and extend a sign.
-/

namespace WsHeader

/-! ## The first two bytes -/

/-- The flag and the opcode share a byte. -/
theorem firstByte {opcode : WsOpCode} (named : opcode.Named) (eof : Bool) :
    let first : UInt8 := (if eof then 0x80 else 0x00) ||| (opcode.value &&& 0x0f)
    decide (first >>> 7 > 0) = eof ∧ WsOpCode.ofValue (first &&& 0x0f) = opcode := by
  cases opcode with
  | other bits => exact absurd rfl (named bits)
  | _ => cases eof <;> decide

/-- So do the flag and the short length. -/
theorem secondByte (mask : Bool) {low : UInt8} (small : low.toNat < 128) :
    let byte : UInt8 := (if mask then 0x80 else 0x00) ||| low
    decide (byte >>> 7 > 0) = mask ∧ byte &&& 0x7f = low := by
  have all : forall low : Fin 128, forall mask : Bool,
      decide (((if mask then 0x80 else 0x00) ||| UInt8.ofNat low.val) >>> 7 > 0) = mask ∧
        ((if mask then 0x80 else 0x00) ||| UInt8.ofNat low.val) &&& 0x7f = UInt8.ofNat low.val := by
    decide +kernel
  have found := all ⟨low.toNat, small⟩ mask
  rw [UInt8.ofNat_toNat] at found
  exact found

/-! ## The bytes of the length -/

theorem lenByte_eq (len : UInt64) {shift : UInt64} (small : shift.toNat ≤ 56) :
    lenByte len shift = UInt8.ofNat (len.toNat / 2 ^ shift.toNat) := by
  have ones : ((UInt64.toNat 0xff <<< shift.toNat) % 2 ^ 64) >>> shift.toNat = 2 ^ 8 - 1 := by
    have room : UInt64.toNat 0xff * 2 ^ shift.toNat < 2 ^ 8 * 2 ^ 56 :=
      Nat.mul_lt_mul_of_lt_of_le (by decide) (Nat.pow_le_pow_right (by decide) small) (by decide)
    rw [Nat.shiftLeft_eq, Nat.mod_eq_of_lt (show _ < 2 ^ 64 from room), Nat.shiftRight_eq_div_pow,
      Nat.mul_div_cancel _ (Nat.two_pow_pos _)]
    rfl
  apply UInt8.toNat.inj
  rw [lenByte, UInt64.toNat_toUInt8, UInt64.toNat_shiftRight, UInt64.toNat_and, UInt64.toNat_shiftLeft,
    Nat.mod_eq_of_lt (show shift.toNat < 64 by omega), Nat.shiftRight_and_distrib, ones, Nat.and_two_pow_sub_one_eq_mod,
    Nat.mod_mod, UInt8.toNat_ofNat', Nat.shiftRight_eq_div_pow]

/-! ## Reading the length -/

theorem readLen_two (x y high low : UInt8) (rest : List UInt8) :
    readLen (x :: y :: high :: low :: rest) 2 [8, 0] 0 = .ok (signExtended (joined 0 0 high low)) := by
  have places : readLen (x :: y :: high :: low :: rest) 2 [8, 0] 0 =
      .ok ((0 : UInt64) ||| signExtended (high.toUInt32 <<< 8) ||| signExtended (low.toUInt32 <<< 0)) := rfl
  rw [places, UInt64.zero_or, ← signExtended_or, UInt32.shiftLeft_zero, joined_low]

/-- A byte that would have to be shifted out of `int`. -/
theorem readLen_high (byte : UInt8) {header : List UInt8} {offset shift : Nat}
    (found : Outcome.read header offset = .ok byte) (high : 32 ≤ shift) (shifts : List Nat) :
    readLen header offset (shift :: shifts) 0 =
      if byte = 0 then readLen header (offset + 1) shifts 0 else .fault := by
  rw [readLen, found, Outcome.ok_bind_do, shiftedByte, if_neg (Nat.not_lt.mpr high)]
  split
  · rfl
  · rfl

theorem readLen_eight (x y a b c d e f g h : UInt8) (rest : List UInt8) :
    readLen (x :: y :: a :: b :: c :: d :: e :: f :: g :: h :: rest) 2 [56, 48, 40, 32, 24, 16, 8, 0] 0 =
      if a = 0 ∧ b = 0 ∧ c = 0 ∧ d = 0 then .ok (signExtended (joined e f g h)) else .fault := by
  have low : readLen (x :: y :: a :: b :: c :: d :: e :: f :: g :: h :: rest) 6 [24, 16, 8, 0] 0 =
      .ok (signExtended (joined e f g h)) := by
    have places : readLen (x :: y :: a :: b :: c :: d :: e :: f :: g :: h :: rest) 6 [24, 16, 8, 0] 0 =
        .ok ((0 : UInt64) ||| signExtended (e.toUInt32 <<< 24) ||| signExtended (f.toUInt32 <<< 16) |||
          signExtended (g.toUInt32 <<< 8) ||| signExtended (h.toUInt32 <<< 0)) := rfl
    rw [places, UInt64.zero_or, ← signExtended_or, ← signExtended_or, ← signExtended_or, UInt32.shiftLeft_zero]
    rfl
  rw [readLen_high a rfl (by decide), readLen_high b rfl (by decide),
    readLen_high c rfl (by decide), readLen_high d rfl (by decide), low]
  simp only [ite_and]

/-! ## The three forms of the length -/

/-- What the second byte says of the length. -/
def lengthCode (len : UInt64) : UInt8 :=
  if len < 126 then (len &&& 0x7f).toUInt8 else if len < 65535 then 126 else 127

/-- The bytes of the length behind it. -/
def lengthTail (len : UInt64) : List UInt8 :=
  if len < 126 then [] else if len < 65535 then beBytes 2 len.toNat else beBytes 8 len.toNat

def keyBytes (header : WsHeader) : List UInt8 := if header.mask then header.maskKey.bytes else []

theorem bytes_eq (header : WsHeader) :
    header.bytes = ((if header.eof then 0x80 else 0x00) ||| (header.opcode.value &&& 0x0f)) ::
      ((if header.mask then 0x80 else 0x00) ||| lengthCode header.len) ::
        (lengthTail header.len ++ header.keyBytes) := by
  rw [bytes, lengthCode, lengthTail]
  by_cases short : header.len < 126
  · simp only [if_pos short, List.nil_append]
    rfl
  · by_cases middle : header.len < 65535
    · have places : beBytes 2 header.len.toNat = [lenByte header.len 8, lenByte header.len 0] := by
        rw [lenByte_eq _ (by decide), lenByte_eq _ (by decide)]
        rfl
      simp only [if_neg short, if_pos middle, places]
      rfl
    · have places : beBytes 8 header.len.toNat =
          [lenByte header.len 56, lenByte header.len 48, lenByte header.len 40, lenByte header.len 32,
            lenByte header.len 24, lenByte header.len 16, lenByte header.len 8, lenByte header.len 0] := by
        repeat rw [lenByte_eq _ (by decide)]
        rfl
      simp only [if_neg short, if_neg middle, places]
      rfl

/-- The first byte of a number is zero where the number is small. -/
theorem high_zero {n : Nat} : (UInt8.ofNat (n / 256 ^ 7) = 0 ∧ UInt8.ofNat (n / 256 ^ 6) = 0 ∧
    UInt8.ofNat (n / 256 ^ 5) = 0 ∧ UInt8.ofNat (n / 256 ^ 4) = 0) ↔ n % 2 ^ 64 < 2 ^ 32 := by
  simp only [← UInt8.toNat_inj, UInt8.toNat_ofNat', UInt8.toNat_zero]
  omega

theorem decodeLen_long (x y : UInt8) {n : Nat} (small : n < 2 ^ 64) (rest : List UInt8) :
    decodeLen (x :: y :: (beBytes 8 n ++ rest)) 127 =
      if n < 2 ^ 32 then .ok (signExtended (UInt32.ofNat n), 10) else .fault := by
  have split : beBytes 8 n = UInt8.ofNat (n / 256 ^ 7) :: UInt8.ofNat (n / 256 ^ 6) :: UInt8.ofNat (n / 256 ^ 5) ::
      UInt8.ofNat (n / 256 ^ 4) :: UInt8.ofNat (n / 256 ^ 3) :: UInt8.ofNat (n / 256 ^ 2) ::
        UInt8.ofNat (n / 256 ^ 1) :: UInt8.ofNat (n / 256 ^ 0) :: [] := rfl
  have low := joined_beBytes n
  rw [decodeLen, if_neg (by decide), if_pos rfl, split]
  simp only [List.cons_append, readLen_eight, low, high_zero, Nat.mod_eq_of_lt small]
  split
  · rfl
  · rfl

theorem signExtended_small {n : Nat} (small : n < 2 ^ 31) : signExtended (UInt32.ofNat n) = UInt64.ofNat n := by
  have word : (UInt32.ofNat n).toNat = n := UInt32.toNat_ofNat_of_lt' (by simp only [UInt32.size]; omega)
  apply UInt64.toNat.inj
  rw [signExtended_toNat, word, if_pos small, UInt64.toNat_ofNat', Nat.mod_eq_of_lt (by omega)]

theorem decodeLen_middle (x y : UInt8) {n : Nat} (small : n < 2 ^ 16) (rest : List UInt8) :
    decodeLen (x :: y :: (beBytes 2 n ++ rest)) 126 = .ok (UInt64.ofNat n, 4) := by
  have split : beBytes 2 n = UInt8.ofNat (n / 256 ^ 1) :: UInt8.ofNat (n / 256 ^ 0) :: [] := rfl
  have low : joined 0 0 (UInt8.ofNat (n / 256 ^ 1)) (UInt8.ofNat (n / 256 ^ 0)) = UInt32.ofNat n := by
    have value : beValue [0, 0, UInt8.ofNat (n / 256 ^ 1), UInt8.ofNat (n / 256 ^ 0)] = beValue (beBytes 2 n) := by
      rw [split, beValue, beValue, UInt8.toNat_zero, Nat.zero_mul, Nat.zero_mul, Nat.zero_add, Nat.zero_add]
    apply UInt32.toNat.inj
    rw [joined_toNat, value, beValue_beBytes_of_lt small, UInt32.toNat_ofNat', Nat.mod_eq_of_lt (by omega)]
  rw [decodeLen, if_pos rfl, split]
  simp only [List.cons_append, readLen_two, low, signExtended_small (show n < 2 ^ 31 by omega)]
  rfl

theorem decodeLen_short (header : List UInt8) {len : UInt64} (short : len < 126) :
    decodeLen header len = .ok (len, 2) := by
  have not126 : len ≠ 126 := by
    rintro rfl
    exact absurd short (by decide)
  have not127 : len ≠ 127 := by
    rintro rfl
    exact absurd short (by decide)
  rw [decodeLen, if_neg not126, if_neg not127]

theorem lengthCode_toUInt64 {len : UInt64} (short : len < 126) : (lengthCode len).toUInt64 = len := by
  have bound : len.toNat < 126 := short
  rw [lengthCode, if_pos short]
  apply UInt64.toNat.inj
  rw [UInt8.toNat_toUInt64, UInt64.toNat_toUInt8, UInt64.toNat_and]
  show (len.toNat &&& 2 ^ 7 - 1) % 2 ^ 8 = len.toNat
  rw [Nat.and_two_pow_sub_one_eq_mod]
  omega

theorem lengthCode_lt (len : UInt64) : (lengthCode len).toNat < 128 := by
  by_cases short : len < 126
  · have value := congrArg UInt64.toNat (lengthCode_toUInt64 short)
    rw [UInt8.toNat_toUInt64] at value
    have bound : len.toNat < 126 := short
    omega
  · rw [lengthCode, if_neg short]
    split <;> decide

/-- A length is read back as it was written while it has no sign. -/
theorem decodeLen_tail (x y : UInt8) (len : UInt64) (rest : List UInt8) :
    decodeLen (x :: y :: (lengthTail len ++ rest)) (lengthCode len).toUInt64 =
      if len.toNat < 2 ^ 32 then .ok (signExtended (UInt32.ofNat len.toNat), 2 + (lengthTail len).length)
      else .fault := by
  by_cases short : len < 126
  · have bound : len.toNat < 126 := short
    rw [lengthCode_toUInt64 short, decodeLen_short _ short, if_pos (by omega), lengthTail, if_pos short,
      signExtended_small (by omega), UInt64.ofNat_toNat]
    rfl
  · by_cases middle : len < 65535
    · have bound : len.toNat < 65535 := middle
      rw [lengthCode, lengthTail, if_neg short, if_neg short, if_pos middle, if_pos middle,
        if_pos (by omega), signExtended_small (by omega)]
      exact decodeLen_middle x y (by omega) rest
    · rw [lengthCode, lengthTail, if_neg short, if_neg short, if_neg middle, if_neg middle]
      exact decodeLen_long x y len.toNat_lt rest

/-! ## The whole header -/

theorem readMaskKey_bytes (key : MaskKey) (before rest : List UInt8) :
    readMaskKey (before ++ (key.bytes ++ rest)) before.length = .ok key := by
  have found : forall index, index < 4 -> Outcome.read (before ++ (key.bytes ++ rest)) (before.length + index) =
      .ok (key.bytes.getD index 0) := by
    intro index small
    have inside : before.length + index < (before ++ (key.bytes ++ rest)).length := by
      simp only [List.length_append, MaskKey.bytes, List.length_cons]
      omega
    rw [Outcome.read_eq_getD 0 inside, List.getD_append_right _ _ _ _ (Nat.le_add_right _ _),
      Nat.add_sub_cancel_left, List.getD_append _ _ _ _ small]
  have first := found 0 (by decide)
  rw [Nat.add_zero] at first
  rw [readMaskKey, first, found 1 (by decide), found 2 (by decide), found 3 (by decide)]
  rfl

/-- What `decode` makes of the bytes of a header, whatever it is called on. -/
theorem decode_bytes {header : WsHeader} (named : header.opcode.Named) (before : WsHeader) (rest : List UInt8) :
    before.decode (header.bytes ++ rest) =
      if header.len.toNat < 2 ^ 32 then
        .ok ({ header with
                maskKey := if header.mask then header.maskKey else before.maskKey
                len := signExtended (UInt32.ofNat header.len.toNat) }, header.bytes.length)
      else .fault := by
  have flags := firstByte named header.eof
  have sizes := secondByte header.mask (lengthCode_lt header.len)
  rw [bytes_eq]
  generalize (if header.eof then 0x80 else 0x00) ||| (header.opcode.value &&& 0x0f) = first at flags
  generalize (if header.mask then 0x80 else 0x00) ||| lengthCode header.len = second at sizes
  have length := decodeLen_tail first second header.len (header.keyBytes ++ rest)
  rw [decode, List.cons_append, List.cons_append, List.append_assoc]
  show ((decodeLen (first :: second :: (lengthTail header.len ++ (header.keyBytes ++ rest)))
    (second &&& 0x7f).toUInt64) >>= _) = _
  rw [sizes.2, length]
  by_cases small : header.len.toNat < 2 ^ 32
  · rw [if_pos small, if_pos small, Outcome.ok_bind_do]
    simp only [flags.1, flags.2]
    cases masked : header.mask with
    | true =>
        have flag : second >>> 7 > 0 := of_decide_eq_true (sizes.1.trans masked)
        have place : 2 + (lengthTail header.len).length = (first :: second :: lengthTail header.len).length := by
          rw [List.length_cons, List.length_cons, Nat.add_comm]
        have key := readMaskKey_bytes header.maskKey (first :: second :: lengthTail header.len) rest
        have spelled : header.keyBytes = header.maskKey.bytes := if_pos masked
        rw [if_pos flag, spelled, place]
        simp only [List.cons_append] at key
        have total : (first :: second :: (lengthTail header.len ++ header.maskKey.bytes)).length =
            (first :: second :: lengthTail header.len).length + 4 := by
          simp only [List.length_cons, List.length_append, MaskKey.bytes, List.length_nil]
        rw [key, total]
        rfl
    | false =>
        have flag : ¬ second >>> 7 > 0 := of_decide_eq_false (sizes.1.trans masked)
        have spelled : header.keyBytes = [] := if_neg (by rw [masked]; decide)
        rw [if_neg flag, spelled, List.append_nil, List.length_cons, List.length_cons, Nat.add_comm]
        rfl
  · rw [if_neg small, if_neg small]
    rfl

/-- `decode`, on any header and whatever follows the bytes that `encode`
appended, finds the same fields and the number of these bytes.  Without the
flag there is no key among them, and the one that was there stays. -/
def RoundTrips (header : WsHeader) : Prop :=
  forall (dest rest : List UInt8) (before : WsHeader), Exists fun appended =>
    (header.encode dest).1 = dest ++ appended ∧
      before.decode (appended ++ rest) =
        .ok ({ header with maskKey := if header.mask then header.maskKey else before.maskKey }, appended.length)

theorem signExtended_len_iff (len : UInt64) :
    len.toNat < 2 ^ 32 ∧ signExtended (UInt32.ofNat len.toNat) = len ↔ len.toNat < 2 ^ 31 := by
  constructor
  · rintro ⟨word, same⟩
    have value := congrArg UInt64.toNat same
    have low : (UInt32.ofNat len.toNat).toNat = len.toNat := by
      rw [UInt32.toNat_ofNat', Nat.mod_eq_of_lt word]
    rw [signExtended_toNat, low] at value
    split at value
    next small => exact small
    · omega
  · intro small
    rw [signExtended_small small, UInt64.ofNat_toNat]
    exact ⟨by omega, rfl⟩

/-- The header survives while its length is below `2 ^ 31`. -/
theorem wsHeader_roundTrip_iff (header : WsHeader) (named : header.opcode.Named) :
    header.RoundTrips ↔ header.len.toNat < 2 ^ 31 := by
  rw [← signExtended_len_iff]
  constructor
  · intro roundTrips
    rcases roundTrips [] [] header with ⟨appended, encoded, decoded⟩
    have same : appended = header.bytes := encoded.symm
    rw [same, decode_bytes named] at decoded
    split at decoded
    next small => exact ⟨small, congrArg (fun found => found.1.len) (Outcome.ok.inj decoded)⟩
    · cases decoded
  · rintro ⟨small, kept⟩ dest rest before
    refine ⟨header.bytes, rfl, ?_⟩
    rw [decode_bytes named, if_pos small, kept]

theorem wsHeader_roundTrip_iff_masked :
    RoundTrips { eof := true, opcode := .binaryFrame, mask := true, maskKey := ⟨1, 2, 3, 255⟩, len := 65535 } := by
  apply (wsHeader_roundTrip_iff _ _).mpr
  · decide
  · intro bits equal
    cases equal

/-- From `2 ^ 31` on the sign of an `int` fills the upper half. -/
theorem wsHeader_loses_length :
    ¬ RoundTrips { eof := true, opcode := .binaryFrame, mask := false, maskKey := .zero, len := 2147483648 } := by
  intro roundTrips
  rcases roundTrips [] [] .new with ⟨appended, encoded, decoded⟩
  rw [List.nil_append] at encoded
  subst encoded
  exact absurd decoded (by decide +kernel)

end WsHeader
end Net
end RtmpClient
