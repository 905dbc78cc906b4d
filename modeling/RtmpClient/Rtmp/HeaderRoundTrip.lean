import RtmpClient.Rtmp.HeaderLemmas

namespace RtmpClient
namespace Rtmp
namespace RtmpHeader

open Library

/-!
# Reading back a format-0 header

The sender's format-0 header survives `decode` except for two fields: a
timestamp from `0xffffff` on is left to the extended field, and the message
stream id comes back with its bytes reversed.
-/

/-! ## What `encode` writes into the sixteen bytes of the send loop -/

/-- The bytes of a format-0 header. -/
def fmt0Bytes (header : RtmpHeader) : List UInt8 :=
  [baseHeaderByte 0x00 header.chunkStreamId] ++ timestampBytes header.timestamp ++
    msgLengthBytes header.msgLength ++ [header.msgTypeId] ++ msgStreamIdBytes header.msgStreamId ++
    extendedTimestampBytes header.timestamp

/-- The bytes of a format-3 header. -/
def fmt3Bytes (header : RtmpHeader) : List UInt8 :=
  [baseHeaderByte 0xC0 header.chunkStreamId] ++ extendedTimestampBytes header.timestamp

theorem encode_fmt0 {header : RtmpHeader} (fmt0 : header.chunkType = 0) :
    header.encode 16 = .ok (fmt0Bytes header) := by
  have kind : header.chunkType = rtmpChunkFmt0Type := fmt0
  rw [encode, if_pos kind]
  rfl

theorem encode_fmt3 {header : RtmpHeader} (fmt3 : header.chunkType = 3) :
    header.encode 16 = .ok (fmt3Bytes header) := by
  have kind : header.chunkType = rtmpChunkFmt3Type := fmt3
  have notFmt0 : header.chunkType ≠ rtmpChunkFmt0Type := by
    rw [fmt3]
    decide
  have notFmt1 : header.chunkType ≠ rtmpChunkFmt1Type := by
    rw [fmt3]
    decide
  have notFmt2 : header.chunkType ≠ rtmpChunkFmt2Type := by
    rw [fmt3]
    decide
  rw [encode, if_neg notFmt0, if_neg notFmt1, if_neg notFmt2, if_pos kind]
  rfl

theorem extendedTimestampBytes_length (timestamp : UInt32) :
    (extendedTimestampBytes timestamp).length = fieldLength timestamp := by
  unfold extendedTimestampBytes fieldLength
  split
  · rfl
  · rfl

theorem timestampBytes_length (timestamp : UInt32) : (timestampBytes timestamp).length = 3 := by
  unfold timestampBytes
  split
  · rfl
  · rfl

theorem fmt0Bytes_length (header : RtmpHeader) :
    (fmt0Bytes header).length = 12 + fieldLength header.timestamp := by
  simp only [fmt0Bytes, List.length_append, List.length_cons, List.length_nil, timestampBytes_length,
    extendedTimestampBytes_length, msgLengthBytes, msgStreamIdBytes]

theorem fmt3Bytes_length (header : RtmpHeader) :
    (fmt3Bytes header).length = 1 + fieldLength header.timestamp := by
  simp only [fmt3Bytes, List.length_append, List.length_cons, List.length_nil,
    extendedTimestampBytes_length]

/-! ## The fields -/

/-- The stream id of the first byte is read back, whatever format marks it. -/
theorem csBits_baseHeaderByte {marker : UInt8} (low : marker &&& 0x3f = 0) {csId : UInt32}
    (small : csId.toNat < 64) : csBits (baseHeaderByte marker csId) = csId := by
  have distributes : (marker ||| (csId.toUInt8 &&& 0x3f)) &&& 0x3f =
      (marker &&& 0x3f) ||| ((csId.toUInt8 &&& 0x3f) &&& 0x3f) :=
    UInt8.toBitVec_inj.mp BitVec.and_or_distrib_right
  have kept : baseHeaderByte marker csId &&& 0x3f = csId.toUInt8 &&& 0x3f := by
    rw [baseHeaderByte, distributes, low, UInt8.zero_or, UInt8.and_assoc, UInt8.and_self]
  have whole : csId.toUInt8.toNat = csId.toNat := by
    rw [UInt32.toNat_toUInt8]
    exact Nat.mod_eq_of_lt (by omega)
  apply UInt32.toNat.inj
  have bits : csBits (baseHeaderByte marker csId) = csBits csId.toUInt8 := by
    rw [csBits, csBits, kept]
  rw [bits, csBits_toNat, whole]
  exact Nat.mod_eq_of_lt small

/-- The header that `decode` makes of a format-0 header on the wire. -/
def wireHeader (header : RtmpHeader) : RtmpHeader where
  chunkType := 0
  chunkStreamId := header.chunkStreamId
  timestamp := if header.timestamp ≥ rtmpExtendedTimestamp then rtmpExtendedTimestamp else header.timestamp
  msgLength := header.msgLength
  msgTypeId := header.msgTypeId
  msgStreamId := addBytes4 0 (hostByte header.msgStreamId 0) (hostByte header.msgStreamId 1)
    (hostByte header.msgStreamId 2) (hostByte header.msgStreamId 3)

/-- The extended field is announced to the receiver exactly when it is sent. -/
theorem wireHeader_extended (header : RtmpHeader) :
    (wireHeader header).timestamp ≥ rtmpExtendedTimestamp ↔ header.timestamp ≥ rtmpExtendedTimestamp := by
  by_cases extended : header.timestamp ≥ rtmpExtendedTimestamp
  · simp only [wireHeader, extended, if_true, iff_true]
    exact UInt32.le_refl _
  · simp only [wireHeader, extended, if_false]

/-- The three timestamp bytes spell the timestamp, or saturate. -/
theorem timestampBytes_cells (timestamp : UInt32) :
    Exists fun b2 => Exists fun b1 => Exists fun b0 =>
      timestampBytes timestamp = [b2, b1, b0] ∧
      addBytes3 0 b2 b1 b0 =
        if timestamp ≥ rtmpExtendedTimestamp then rtmpExtendedTimestamp else timestamp := by
  by_cases extended : timestamp ≥ rtmpExtendedTimestamp
  · refine ⟨0xff, 0xff, 0xff, if_pos extended, ?_⟩
    rw [if_pos extended]
    rfl
  · have below : timestamp.toNat < rtmpExtendedTimestamp.toNat :=
      UInt32.lt_iff_toNat_lt.mp (UInt32.not_le.mp extended)
    have small : timestamp.toNat < 2 ^ 24 := Nat.lt_trans below (by decide)
    refine ⟨_, _, _, if_neg extended, ?_⟩
    rw [if_neg extended]
    exact addBytes3_hostBytes timestamp small

/-- Decoding a sent format-0 header, whatever follows it. -/
theorem decode_fmt0Bytes {header : RtmpHeader} (csLow : 2 ≤ header.chunkStreamId.toNat)
    (csHigh : header.chunkStreamId.toNat < 64) (small : header.msgLength.toNat < 2 ^ 24) (rest : List UInt8) :
    decode (fmt0Bytes header ++ rest) = .ok (12, wireHeader header) ∧
      (fmt0Bytes header ++ rest).drop 12 = extendedTimestampBytes header.timestamp ++ rest := by
  have stream : csBits (baseHeaderByte 0x00 header.chunkStreamId) = header.chunkStreamId :=
    csBits_baseHeaderByte (by decide) csHigh
  have oneByte : header.chunkStreamId > 1 := UInt32.lt_iff_toNat_lt.mpr csLow
  rcases timestampBytes_cells header.timestamp with ⟨b2, b1, b0, spelled, time⟩
  have length := addBytes3_hostBytes header.msgLength small
  have shape : fmt0Bytes header ++ rest = baseHeaderByte 0x00 header.chunkStreamId ::
      b2 :: b1 :: b0 :: hostByte header.msgLength 2 :: hostByte header.msgLength 1 ::
      hostByte header.msgLength 0 :: header.msgTypeId :: hostByte header.msgStreamId 0 ::
      hostByte header.msgStreamId 1 :: hostByte header.msgStreamId 2 :: hostByte header.msgStreamId 3 ::
      (extendedTimestampBytes header.timestamp ++ rest) := by
    simp only [fmt0Bytes, spelled, msgLengthBytes, msgStreamIdBytes, List.cons_append, List.nil_append]
  have base : decodeBaseHeader (fmt0Bytes header ++ rest) = .ok (1, 0, header.chunkStreamId) := by
    simp only [shape, decodeBaseHeader_cons, baseHeader, stream, oneByte, if_true]
  constructor
  · have long : ¬ ((fmt0Bytes header ++ rest).drop 1).length < 11 := by
      simp only [shape, List.drop_succ_cons, List.drop_zero, List.length_cons]
      omega
    rw [decode_of_base base, if_neg long, shape]
    simp only [messageHeader, wireHeader, List.drop_succ_cons, List.drop_zero, List.getD_cons_zero,
      List.getD_cons_succ, time, length]
  · rw [shape]
    rfl

/-! ## The extended field -/

/-- The extended field is the timestamp in network byte order. -/
theorem extendedTimestampBytes_eq {timestamp : UInt32} (extended : timestamp ≥ rtmpExtendedTimestamp) :
    extendedTimestampBytes timestamp = beBytes 4 timestamp.toNat := if_pos extended

/-- The 31 bits that the receiver takes from it are the timestamp. -/
theorem extendedTimestamp_read {timestamp : UInt32} (small : timestamp.toNat < 2 ^ 31) :
    UInt32.ofNat (beValue (beBytes 4 timestamp.toNat)) &&& 0x7fffffff = timestamp := by
  have fits : timestamp.toNat < 256 ^ 4 := timestamp.toNat_lt
  rw [beValue_beBytes_of_lt fits, UInt32.ofNat_toNat]
  apply UInt32.toNat.inj
  rw [UInt32.toNat_and]
  have masked := Nat.and_two_pow_sub_one_eq_mod timestamp.toNat 31
  rw [Nat.mod_eq_of_lt small] at masked
  exact masked

end RtmpHeader
end Rtmp
end RtmpClient
