import RtmpClient.Rtmp.Header

namespace RtmpClient
namespace Rtmp

open Library

/-!
# What `decode` accepts

The format bits never survive `decode_base_header`, so every header is read as
a format-0 header of eleven message bytes.  The lemmas below say this once;
everything about the receive path starts from them.
-/

/-- The length of the extended timestamp field behind a header. -/
def fieldLength (timestamp : UInt32) : Nat := if timestamp ≥ rtmpExtendedTimestamp then 4 else 0

theorem fieldLength_le (timestamp : UInt32) : fieldLength timestamp ≤ 4 := by
  unfold fieldLength
  split
  · exact Nat.le_refl 4
  · exact Nat.zero_le 4

namespace RtmpHeader

/-! ## Bytes and numbers -/

/-- Masking to the two low bits and shifting right by six leaves nothing. -/
theorem fmtBits_eq_zero (value : UInt8) : (value &&& 0x03) >>> 6 = 0 := by
  apply UInt8.toNat.inj
  have low : value.toNat % 4 / 64 = 0 := by omega
  simpa [Nat.and_two_pow_sub_one_eq_mod value.toNat 2, Nat.shiftRight_eq_div_pow] using low

theorem addBytes3_toNat (b2 b1 b0 : UInt8) : (addBytes3 0 b2 b1 b0).toNat = beValue [b2, b1, b0] := by
  have h2 := b2.toNat_lt
  have h1 := b1.toNat_lt
  have h0 := b0.toNat_lt
  simp only [addBytes3, UInt32.toNat_add, UInt32.toNat_shiftLeft, UInt8.toNat_toUInt32, beValue,
    UInt32.reduceToNat, Nat.shiftLeft_eq, List.length_cons, List.length_nil, Nat.reduceMod,
    Nat.reducePow, Nat.reduceAdd]
  omega

/-- Three bytes spell a number below `2 ^ 24`. -/
theorem addBytes3_lt (b2 b1 b0 : UInt8) : (addBytes3 0 b2 b1 b0).toNat < 2 ^ 24 := by
  rw [addBytes3_toNat]
  have bound := beValue_lt [b2, b1, b0]
  simpa only [List.length_cons, List.length_nil, Nat.reduceAdd, Nat.reducePow] using bound

/-- Reading the three bytes of a 24-bit number gives the number back. -/
theorem addBytes3_hostBytes (value : UInt32) (small : value.toNat < 2 ^ 24) :
    addBytes3 0 (hostByte value 2) (hostByte value 1) (hostByte value 0) = value := by
  apply UInt32.toNat.inj
  have fits : value.toNat < 256 ^ 3 := small
  rw [addBytes3_toNat]
  exact beValue_beBytes_of_lt fits

/-! ## The base header -/

theorem csBits_toNat (value : UInt8) : (csBits value).toNat = value.toNat % 64 := by
  simp only [csBits, UInt8.toNat_toUInt32, UInt8.toNat_and]
  exact Nat.and_two_pow_sub_one_eq_mod value.toNat 6

/-- The chunk stream id and the length of the base header, as the first byte
and the bytes behind it decide them. -/
def baseHeader (first : UInt8) (rest : List UInt8) : Option (Nat × UInt32) :=
  if csBits first > 1 then some (1, csBits first)
  else if csBits first = 0 then
    match rest with
    | low :: _ => some (2, low.toUInt32 + 64)
    | [] => none
  else
    match rest with
    | low :: high :: _ => some (3, low.toUInt32 + high.toUInt32 * 256 + 64)
    | _ => none

theorem decodeBaseHeader_cons (first : UInt8) (rest : List UInt8) :
    decodeBaseHeader (first :: rest) =
      match baseHeader first rest with
      | some (length, csId) => .ok (length, 0, csId)
      | none => .error (-1) := by
  simp only [decodeBaseHeader, Outcome.read_cons_zero, Outcome.ok_bind_do, Outcome.pure_eq,
    fmtBits_eq_zero, baseHeader]
  by_cases oneByte : csBits first > 1
  · rw [if_pos oneByte, if_pos oneByte]
  · rw [if_neg oneByte, if_neg oneByte]
    by_cases twoBytes : csBits first = 0
    · rw [if_pos twoBytes, if_pos twoBytes]
      cases rest with
      | nil => rfl
      | cons low rest => rfl
    · rw [if_neg twoBytes, if_neg twoBytes]
      match rest with
      | [] => rfl
      | [_] => rfl
      | low :: high :: rest => rfl

/-- A base header that is complete stays what it is when bytes arrive. -/
theorem baseHeader_append {first : UInt8} {rest : List UInt8} {found : Nat × UInt32}
    (complete : baseHeader first rest = some found) (more : List UInt8) :
    baseHeader first (rest ++ more) = some found := by
  unfold baseHeader at complete ⊢
  by_cases oneByte : csBits first > 1
  · simpa only [oneByte, if_true] using complete
  · by_cases twoBytes : csBits first = 0
    · simp only [twoBytes] at complete ⊢
      cases rest with
      | nil => cases complete
      | cons low rest => exact complete
    · simp only [oneByte, twoBytes, if_false] at complete ⊢
      match rest, complete with
      | low :: high :: rest, complete => exact complete

/-- What a complete base header can be: one to three bytes that are present,
and a chunk stream id of at least two. -/
theorem baseHeader_bounds {first : UInt8} {rest : List UInt8} {length : Nat} {csId : UInt32}
    (complete : baseHeader first rest = some (length, csId)) :
    1 ≤ length ∧ length ≤ (first :: rest).length ∧ length ≤ 3 ∧ 2 ≤ csId.toNat := by
  unfold baseHeader at complete
  by_cases oneByte : csBits first > 1
  · simp only [oneByte, if_true, Option.some.injEq, Prod.mk.injEq] at complete
    have big : 1 < (csBits first).toNat := UInt32.lt_iff_toNat_lt.mp oneByte
    rw [← complete.1, ← complete.2, List.length_cons]
    omega
  · by_cases twoBytes : csBits first = 0
    · rw [if_neg oneByte, if_pos twoBytes] at complete
      cases rest with
      | nil => cases complete
      | cons low rest =>
          have byte := low.toNat_lt
          simp only [Option.some.injEq, Prod.mk.injEq] at complete
          rw [← complete.1, ← complete.2, UInt32.toNat_add, UInt8.toNat_toUInt32]
          simp only [List.length_cons, UInt32.reduceToNat]
          omega
    · simp only [oneByte, twoBytes, if_false] at complete
      match rest, complete with
      | low :: high :: rest, complete =>
          have lowByte := low.toNat_lt
          have highByte := high.toNat_lt
          simp only [Option.some.injEq, Prod.mk.injEq] at complete
          rw [← complete.1, ← complete.2, UInt32.toNat_add, UInt32.toNat_add, UInt32.toNat_mul,
            UInt8.toNat_toUInt32, UInt8.toNat_toUInt32]
          simp only [List.length_cons, UInt32.reduceToNat]
          omega

/-! ## The whole header -/

/-- The format-0 header that eleven message bytes spell. -/
def messageHeader (csId : UInt32) (body : List UInt8) : RtmpHeader where
  chunkType := 0
  chunkStreamId := csId
  timestamp := addBytes3 0 (body.getD 0 0) (body.getD 1 0) (body.getD 2 0)
  msgLength := addBytes3 0 (body.getD 3 0) (body.getD 4 0) (body.getD 5 0)
  msgTypeId := body.getD 6 0
  msgStreamId := addBytes4 0 (body.getD 7 0) (body.getD 8 0) (body.getD 9 0) (body.getD 10 0)

theorem decodeMsgHeader_fmt0 (csId : UInt32) (body : List UInt8) :
    decodeMsgHeader { new with chunkType := 0, chunkStreamId := csId } body =
      if body.length < 11 then .error (-1) else .ok (11, messageHeader csId body) := by
  unfold decodeMsgHeader
  by_cases short : body.length < 11
  · simp only [rtmpChunkFmt0Type, short, if_true]
  · have cell : forall index, index < 11 -> Outcome.read body index = .ok (body.getD index 0) := by
      intro index small
      exact Outcome.read_eq_getD 0 (by omega)
    simp only [rtmpChunkFmt0Type, short, if_true, if_false, cell 0 (by decide), cell 1 (by decide),
      cell 2 (by decide), cell 3 (by decide), cell 4 (by decide), cell 5 (by decide),
      cell 6 (by decide), cell 7 (by decide), cell 8 (by decide), cell 9 (by decide),
      cell 10 (by decide), Outcome.ok_bind_do, Outcome.pure_eq]
    rfl

/-- The whole of `decode`: the base header decides the stream, and the eleven
bytes behind it are always read as a format-0 message header. -/
theorem decode_cons (first : UInt8) (rest : List UInt8) :
    decode (first :: rest) =
      match baseHeader first rest with
      | none => .error (-1)
      | some (length, csId) =>
          if ((first :: rest).drop length).length < 11 then .error (-1)
          else .ok (length + 11, messageHeader csId ((first :: rest).drop length)) := by
  unfold decode
  rw [decodeBaseHeader_cons]
  cases base : baseHeader first rest with
  | none => rfl
  | some found =>
      simp only [Outcome.ok_bind_do, decodeMsgHeader_fmt0]
      split <;> rfl

/-- `decode` never reads outside a non-empty buffer. -/
theorem decode_ne_fault {data : List UInt8} (nonempty : data ≠ []) : decode data ≠ .fault := by
  cases data with
  | nil => exact absurd rfl nonempty
  | cons first rest =>
      rw [decode_cons]
      cases baseHeader first rest with
      | none => simp
      | some found =>
          simp only
          split <;> simp

/-- The only error code of `decode` is the one for missing bytes. -/
theorem decode_error {data : List UInt8} {code : Int} (failed : decode data = .error code) :
    code = -1 := by
  cases data with
  | nil => cases failed
  | cons first rest =>
      rw [decode_cons] at failed
      cases base : baseHeader first rest with
      | none =>
          simp only [base, Outcome.error.injEq] at failed
          exact failed.symm
      | some found =>
          simp only [base] at failed
          split at failed
          · simpa only [Outcome.error.injEq, eq_comm] using failed
          · cases failed

/-- Everything a decoded header can be. -/
structure Decoded (data : List UInt8) (length : Nat) (header : RtmpHeader) : Prop where
  length_le : length ≤ data.length
  twelve_le : 12 ≤ length
  chunkType_eq : header.chunkType = 0
  csId_pos : 2 ≤ header.chunkStreamId.toNat
  timestamp_le : header.timestamp.toNat < 2 ^ 24
  msgLength_lt : header.msgLength.toNat < 2 ^ 24

theorem decoded_of_decode {data : List UInt8} {length : Nat} {header : RtmpHeader}
    (success : decode data = .ok (length, header)) : Decoded data length header := by
  cases data with
  | nil => cases success
  | cons first rest =>
      rw [decode_cons] at success
      cases base : baseHeader first rest with
      | none => simp only [base, reduceCtorEq] at success
      | some found =>
          rcases found with ⟨baseLength, csId⟩
          have bounds := baseHeader_bounds base
          simp only [base] at success
          split at success
          · cases success
          · next long =>
              simp only [Outcome.ok.injEq, Prod.mk.injEq] at success
              rw [List.length_drop] at long
              rw [← success.1, ← success.2]
              exact
                { length_le := by omega
                  twelve_le := by omega
                  chunkType_eq := rfl
                  csId_pos := bounds.2.2.2
                  timestamp_le := addBytes3_lt _ _ _
                  msgLength_lt := addBytes3_lt _ _ _ }

private theorem messageHeader_append (csId : UInt32) {body : List UInt8} (long : 11 ≤ body.length)
    (more : List UInt8) : messageHeader csId (body ++ more) = messageHeader csId body := by
  have cell : forall index, index < 11 -> (body ++ more).getD index 0 = body.getD index 0 := by
    intro index small
    exact List.getD_append body more 0 index (by omega)
  simp only [messageHeader, cell 0 (by decide), cell 1 (by decide), cell 2 (by decide),
    cell 3 (by decide), cell 4 (by decide), cell 5 (by decide), cell 6 (by decide),
    cell 7 (by decide), cell 8 (by decide), cell 9 (by decide), cell 10 (by decide)]

/-- A complete header is decoded the same when more bytes follow. -/
theorem decode_append {data : List UInt8} {length : Nat} {header : RtmpHeader}
    (success : decode data = .ok (length, header)) (more : List UInt8) :
    decode (data ++ more) = .ok (length, header) := by
  cases data with
  | nil => cases success
  | cons first rest =>
      rw [decode_cons] at success
      rw [List.cons_append, decode_cons]
      cases base : baseHeader first rest with
      | none => simp only [base, reduceCtorEq] at success
      | some found =>
          rcases found with ⟨baseLength, csId⟩
          have bounds := baseHeader_bounds base
          simp only [base] at success
          split at success
          · cases success
          · next long =>
              have grown : (first :: (rest ++ more)).drop baseLength =
                  (first :: rest).drop baseLength ++ more := by
                rw [← List.cons_append, List.drop_append_of_le_length bounds.2.1]
              have stillLong : ¬ ((first :: rest).drop baseLength ++ more).length < 11 := by
                rw [List.length_append]
                omega
              simp only [baseHeader_append base more, grown, stillLong, if_false]
              rw [messageHeader_append csId (by omega)]
              exact success

/-- The message length is spelled by the fourth to sixth byte of the message header. -/
theorem messageHeader_msgLength (csId : UInt32) {body : List UInt8} (long : 6 ≤ body.length) :
    (messageHeader csId body).msgLength.toNat = beValue ((body.drop 3).take 3) := by
  match body, long with
  | _ :: _ :: _ :: b3 :: b4 :: b5 :: _, _ => exact addBytes3_toNat b3 b4 b5

/-! ## The base header of a longer buffer -/

theorem decodeBaseHeader_append {data : List UInt8} {length : Nat} {fmt : UInt8} {csId : UInt32}
    (complete : decodeBaseHeader data = .ok (length, fmt, csId)) (more : List UInt8) :
    decodeBaseHeader (data ++ more) = .ok (length, fmt, csId) := by
  cases data with
  | nil => cases complete
  | cons first rest =>
      rw [decodeBaseHeader_cons] at complete
      rw [List.cons_append, decodeBaseHeader_cons]
      cases base : baseHeader first rest with
      | none => simp only [base, reduceCtorEq] at complete
      | some found =>
          rw [baseHeader_append base more]
          rw [base] at complete
          exact complete

theorem decodeBaseHeader_length {data : List UInt8} {length : Nat} {fmt : UInt8} {csId : UInt32}
    (complete : decodeBaseHeader data = .ok (length, fmt, csId)) : length ≤ data.length := by
  cases data with
  | nil => cases complete
  | cons first rest =>
      rw [decodeBaseHeader_cons] at complete
      cases base : baseHeader first rest with
      | none => simp only [base, reduceCtorEq] at complete
      | some found =>
          simp only [base, Outcome.ok.injEq, Prod.mk.injEq] at complete
          rw [← complete.1]
          exact (baseHeader_bounds base).2.1

/-- Two more bytes complete every base header, and then no length byte is there yet. -/
theorem decodeBaseHeader_completed {data : List UInt8} {code : Int} (nonempty : data ≠ [])
    (incomplete : decodeBaseHeader data = .error code) :
    Exists fun length => Exists fun csId =>
      decodeBaseHeader (data ++ [0, 0]) = .ok (length, 0, csId) ∧ (data ++ [0, 0]).length ≤ length + 3 := by
  cases data with
  | nil => exact absurd rfl nonempty
  | cons first rest =>
      rw [decodeBaseHeader_cons] at incomplete
      rw [List.cons_append, decodeBaseHeader_cons]
      unfold baseHeader at incomplete ⊢
      by_cases oneByte : csBits first > 1
      · simp only [oneByte, if_true, reduceCtorEq] at incomplete
      · by_cases twoBytes : csBits first = 0
        · rw [if_neg oneByte, if_pos twoBytes] at incomplete ⊢
          cases rest with
          | nil => exact ⟨_, _, rfl, by simp⟩
          | cons low rest => simp only [reduceCtorEq] at incomplete
        · rw [if_neg oneByte, if_neg twoBytes] at incomplete ⊢
          match rest, incomplete with
          | [], _ => exact ⟨_, _, rfl, by simp⟩
          | [_], _ => exact ⟨_, _, rfl, by simp⟩
          | _ :: _ :: _, incomplete => simp only [reduceCtorEq] at incomplete

/-- The whole header, once its base header is known. -/
theorem decode_of_base {data : List UInt8} {length : Nat} {fmt : UInt8} {csId : UInt32}
    (base : decodeBaseHeader data = .ok (length, fmt, csId)) :
    decode data =
      if (data.drop length).length < 11 then .error (-1)
      else .ok (length + 11, messageHeader csId (data.drop length)) := by
  cases data with
  | nil => cases base
  | cons first rest =>
      rw [decodeBaseHeader_cons] at base
      rw [decode_cons]
      cases found : baseHeader first rest with
      | none => simp only [found, reduceCtorEq] at base
      | some pair =>
          simp only [found, Outcome.ok.injEq, Prod.mk.injEq] at base
          simp only [base.1, base.2.2]

end RtmpHeader
end Rtmp
end RtmpClient
