import RtmpClient.Library.CInt
import RtmpClient.Net.Netio

namespace RtmpClient
namespace Net

open Library

/-!
# RTP packets (`app_protocol/rtp_rtcp.cc`)

`RtpPacket::encode` and `RtpPacket::decode`.  The header is put together in a
buffer of 32 bytes.  Bytes written or read outside a buffer are faults.
-/

def rtpRtcpMtu : Nat := 1500

structure RtpExtensionsHeaderOneByte where
  id : UInt8
  value : UInt8
  deriving DecidableEq, Repr

structure RtpHeader where
  version : UInt8
  p : UInt8
  x : UInt8
  cc : UInt8
  m : UInt8
  pt : UInt8
  seq : UInt16
  ts : UInt32
  ssrc : UInt32
  csrc : { csrc : List UInt32 // csrc.length = 16 }
  extension : RtpExtensionsHeaderOneByte
  deriving DecidableEq, Repr

/-- A packet; of `rtpData` the first `rtpDataLen` bytes. -/
structure RtpPacket where
  header : RtpHeader
  rtpData : { data : List UInt8 // data.length ≤ rtpRtcpMtu }
  deriving DecidableEq, Repr

/-! ## Encoding -/

/-- More bytes behind those that stand in a buffer of this size. -/
def putBytes (size : Nat) (buf bytes : List UInt8) : Outcome (List UInt8) :=
  if buf.length + bytes.length ≤ size then .ok (buf ++ bytes) else .fault

/-- The bytes of `RtpExtensionsHeaderOneByte::encode`: behind `0xBEDE`, two
bytes and the padding make one word. -/
def RtpExtensionsHeaderOneByte.encode (extension : RtpExtensionsHeaderOneByte) : List UInt8 :=
  let len : UInt16 := 2
  let padding_count : UInt16 := if len % 4 = 0 then 0 else 4 - len % 4
  writeUint16 0xBEDE ++ writeUint16 ((len + padding_count) / 4) ++
    writeUint8 ((extension.id &&& 0x0F) <<< 4 ||| 0x01) ++ writeUint8 extension.value ++
    List.replicate padding_count.toNat 0

namespace RtpHeader

def firstByte (header : RtpHeader) : UInt8 :=
  (header.version <<< (6 : UInt8) &&& (0xC0 : UInt8)) ||| (header.p <<< (5 : UInt8) &&& (0x20 : UInt8)) |||
    (header.x <<< (4 : UInt8) &&& (0x10 : UInt8)) ||| (header.cc &&& (0x0F : UInt8))

def secondByte (header : RtpHeader) : UInt8 := (header.pt &&& (0x7F : UInt8)) ||| (header.m <<< (7 : UInt8))

/-- The loop over the CSRCs.  Without room for one more, what comes next is
written at the front of the buffer. -/
def writeCsrcs (header : RtpHeader) (size : Nat) : (count i : Nat) -> (buf : List UInt8) -> Outcome (List UInt8)
  | 0, _, buf => .ok buf
  | count + 1, i, buf =>
      if size - 4 < buf.length then .ok []
      else do
        let csrc ← Outcome.read header.csrc.val i
        let buf ← putBytes size buf (writeUint32 csrc)
        header.writeCsrcs size count (i + 1) buf

/-- The first twelve bytes. -/
def fixed (header : RtpHeader) : List UInt8 :=
  writeUint8 header.firstByte ++ writeUint8 header.secondByte ++ writeUint16 header.seq ++ writeUint32 header.ts ++
    writeUint32 header.ssrc

/-- `encode` into a buffer of this size: the first `offset` bytes of it. -/
def encode (header : RtpHeader) (size : Nat) : Outcome (List UInt8) := do
  let buf ← putBytes size [] header.fixed
  let buf ← header.writeCsrcs size header.cc.toNat 0 buf
  if header.x ≠ 0 then putBytes size buf header.extension.encode else return buf

end RtpHeader

/-- `encode` into a buffer of this size. -/
def RtpPacket.encode (packet : RtpPacket) (size : Nat) : Outcome (List UInt8) := do
  let rtp_header ← packet.header.encode 32
  let buf ← putBytes size [] rtp_header
  putBytes size buf packet.rtpData.val

/-! ## Decoding -/

/-- The loop over the CSRCs: the header behind it, and `offset`. -/
def RtpHeader.readCsrcs (data : List UInt8) : (count i offset : Nat) -> (header : RtpHeader) -> Outcome (RtpHeader × Nat)
  | 0, _, offset, header => .ok (header, offset)
  | count + 1, i, offset, header => do
      let value ← readUint32 data offset
      RtpHeader.readCsrcs data count (i + 1) (offset + 4)
        { header with csrc := ⟨header.csrc.val.set i value, by rw [List.length_set]; exact header.csrc.property⟩ }

namespace RtpPacket

/-- What `decode` does behind the CSRCs. -/
def decodeRest (packet : RtpPacket) (data : List UInt8) (len : Int) (offset : Nat) : Outcome (Int × RtpPacket) := do
  let bede ← readUint16 data offset
  let offset ←
    if bede = 0xBEDE then do
      let extlen ← readUint16 data (offset + 2)
      pure (offset + 4 + extlen.toNat * 4)
    else pure offset
  let rtpData ← Outcome.slice data offset (asUint32 (len - offset))
  if fits : rtpData.length ≤ rtpRtcpMtu then return (0, { packet with rtpData := ⟨rtpData, fits⟩ }) else .fault

/-- `decode` of the bytes at the pointer: what it returns, and the packet behind
the call. -/
def decode (packet : RtpPacket) (data : List UInt8) (len : Int) : Outcome (Int × RtpPacket) := do
  let value8 ← readUint8 data 0
  let header : RtpHeader :=
    { packet.header with
      version := (value8 &&& 0xC0) >>> 6
      p := (value8 &&& 0x20) >>> 5
      x := (value8 &&& 0x10) >>> 4
      cc := value8 &&& 0xF }
  if asSize len < 4 * header.cc.toNat + 12 then return (-1, { packet with header })
  else
    let value8 ← readUint8 data 1
    let seq ← readUint16 data 2
    let ts ← readUint32 data 4
    let ssrc ← readUint32 data 8
    let header := { header with m := (value8 &&& 0x80) >>> 7, pt := value8 &&& 0x7F, seq, ts, ssrc }
    let (header, offset) ← RtpHeader.readCsrcs data header.cc.toNat 0 12 header
    { packet with header }.decodeRest data len offset

end RtpPacket

/-! ## What comes back -/

/-- What the bits on the wire can hold. -/
structure RtpHeader.WellFormed (header : RtpHeader) : Prop where
  version : header.version < 4
  p : header.p < 2
  x : header.x < 2
  cc : header.cc < 16
  m : header.m < 2
  pt : header.pt < 128

/-- All fields of the header but the extension. -/
def RtpHeader.Restores (received sent : RtpHeader) : Prop :=
  received.version = sent.version ∧ received.p = sent.p ∧ received.x = sent.x ∧ received.cc = sent.cc ∧
    received.m = sent.m ∧ received.pt = sent.pt ∧ received.seq = sent.seq ∧ received.ts = sent.ts ∧
    received.ssrc = sent.ssrc ∧ received.csrc.val.take sent.cc.toNat = sent.csrc.val.take sent.cc.toNat

/-- Any packet decodes the bytes, with these bytes behind them in memory, to the
same header and payload. -/
def RtpPacket.RoundTrips (packet : RtpPacket) (size : Nat) (behind : List UInt8) : Prop :=
  Exists fun bytes => packet.encode size = .ok bytes ∧
    forall receiver : RtpPacket, Exists fun received =>
      receiver.decode (bytes ++ behind) bytes.length = .ok (0, received) ∧
        received.header.Restores packet.header ∧ received.rtpData = packet.rtpData

/-- The header fits its buffer, and without an extension the two bytes behind it
are there and do not look like one. -/
def RtpPacket.Readable (packet : RtpPacket) (behind : List UInt8) : Prop :=
  if packet.header.x = 0 then
    packet.header.cc.toNat ≤ 5 ∧ 2 ≤ (packet.rtpData.val ++ behind).length ∧
      (packet.rtpData.val ++ behind).take 2 ≠ [0xBE, 0xDE]
  else packet.header.cc.toNat ≤ 3

instance (packet : RtpPacket) (behind : List UInt8) : Decidable (packet.Readable behind) :=
  inferInstanceAs (Decidable (ite _ _ _))

/-! ## The header on the wire -/

namespace RtpHeader

variable {header : RtpHeader}

theorem fixed_length (header : RtpHeader) : header.fixed.length = 12 := by
  simp only [fixed, List.length_append, writeUint8_length, writeUint16_length, writeUint32_length]

/-- The fields of the first byte. -/
theorem firstByte_fields (wellFormed : header.WellFormed) :
    (header.firstByte &&& 0xC0) >>> 6 = header.version ∧ (header.firstByte &&& 0x20) >>> 5 = header.p ∧
      (header.firstByte &&& 0x10) >>> 4 = header.x ∧ header.firstByte &&& 0xF = header.cc := by
  have all : forall (version : Fin 4) (p x : Fin 2) (cc : Fin 16),
      let header : RtpHeader :=
        { header with
          version := UInt8.ofNat version.val
          p := UInt8.ofNat p.val
          x := UInt8.ofNat x.val
          cc := UInt8.ofNat cc.val }
      (header.firstByte &&& 0xC0) >>> 6 = header.version ∧ (header.firstByte &&& 0x20) >>> 5 = header.p ∧
        (header.firstByte &&& 0x10) >>> 4 = header.x ∧ header.firstByte &&& 0xF = header.cc := by
    simp only [firstByte]
    decide +kernel
  have here := all ⟨header.version.toNat, wellFormed.version⟩ ⟨header.p.toNat, wellFormed.p⟩
    ⟨header.x.toNat, wellFormed.x⟩ ⟨header.cc.toNat, wellFormed.cc⟩
  simp only [UInt8.ofNat_toNat] at here
  exact here

/-- The fields of the second byte. -/
theorem secondByte_fields (wellFormed : header.WellFormed) :
    (header.secondByte &&& 0x80) >>> 7 = header.m ∧ header.secondByte &&& 0x7F = header.pt := by
  have all : forall (m : Fin 2) (pt : Fin 128),
      let header : RtpHeader := { header with m := UInt8.ofNat m.val, pt := UInt8.ofNat pt.val }
      (header.secondByte &&& 0x80) >>> 7 = header.m ∧ header.secondByte &&& 0x7F = header.pt := by
    simp only [secondByte]
    decide +kernel
  have here := all ⟨header.m.toNat, wellFormed.m⟩ ⟨header.pt.toNat, wellFormed.pt⟩
  simp only [UInt8.ofNat_toNat] at here
  exact here

/-- The CSRCs on the wire. -/
def csrcBytes (header : RtpHeader) : List UInt8 := (header.csrc.val.take header.cc.toNat).flatMap writeUint32

theorem flatMap_writeUint32_length (values : List UInt32) : (values.flatMap writeUint32).length = 4 * values.length := by
  induction values with
  | nil => rfl
  | cons value values inductionHypothesis =>
      rw [List.flatMap_cons, List.length_append, writeUint32_length, inductionHypothesis, List.length_cons]
      omega

theorem csrcBytes_length (wellFormed : header.WellFormed) : header.csrcBytes.length = 4 * header.cc.toNat := by
  have few : header.cc.toNat < 16 := wellFormed.cc
  have room := header.csrc.property
  rw [csrcBytes, flatMap_writeUint32_length, List.length_take, room]
  omega

/-- Five CSRCs have room; with more of them the buffer is begun anew. -/
theorem writeCsrcs_eq (header : RtpHeader) (count : Nat) {i : Nat} {buf : List UInt8} (length : buf.length = 12 + 4 * i)
    (few : i ≤ 5) : header.writeCsrcs 32 count i buf =
      .ok (if i + count ≤ 5 then buf ++ ((header.csrc.val.drop i).take count).flatMap writeUint32 else []) := by
  induction count generalizing i buf with
  | zero =>
      rw [writeCsrcs, Nat.add_zero, if_pos few, List.take_zero, List.flatMap_nil, List.append_nil]
  | succ count inductionHypothesis =>
      rw [writeCsrcs]
      by_cases last : i = 5
      · rw [if_pos (by omega), if_neg (by omega)]
      · have room := header.csrc.property
        have inside : i < header.csrc.val.length := by omega
        have longer : (buf ++ writeUint32 header.csrc.val[i]).length = 12 + 4 * (i + 1) := by
          rw [List.length_append, writeUint32_length, length]
          omega
        have fits : buf.length + (writeUint32 header.csrc.val[i]).length ≤ 32 := by
          rw [writeUint32_length, length]
          omega
        rw [if_neg (by omega), Outcome.read_of_lt inside, Outcome.ok_bind_do, putBytes, if_pos fits, Outcome.ok_bind_do,
          inductionHypothesis longer (by omega), List.drop_eq_getElem_cons inside, List.take_succ_cons,
          List.flatMap_cons, List.append_assoc, Nat.add_assoc, Nat.add_comm 1 count]

theorem extension_length (extension : RtpExtensionsHeaderOneByte) : extension.encode.length = 8 := rfl

/-- What `encode` leaves in the buffer. -/
theorem encode_eq (header : RtpHeader) : header.encode 32 =
    if header.x ≠ 0 then
      putBytes 32 (if header.cc.toNat ≤ 5 then header.fixed ++ header.csrcBytes else []) header.extension.encode
    else .ok (if header.cc.toNat ≤ 5 then header.fixed ++ header.csrcBytes else []) := by
  have twelve := header.fixed_length
  have fits : ([] : List UInt8).length + header.fixed.length ≤ 32 := by
    rw [twelve]
    decide
  have csrcs := header.writeCsrcs_eq header.cc.toNat (show header.fixed.length = 12 + 4 * 0 from twelve) (Nat.zero_le 5)
  rw [Nat.zero_add, List.drop_zero] at csrcs
  rw [encode, putBytes, if_pos fits, Outcome.ok_bind_do, List.nil_append, csrcs, Outcome.ok_bind_do]
  rfl

end RtpHeader

/-! ## Reading the header -/

namespace RtpHeader

/-- The first twelve bytes are read field by field. -/
theorem fixed_reads (header : RtpHeader) (rest : List UInt8) :
    readUint8 (header.fixed ++ rest) 0 = .ok header.firstByte ∧ readUint8 (header.fixed ++ rest) 1 = .ok header.secondByte ∧
      readUint16 (header.fixed ++ rest) 2 = .ok header.seq ∧ readUint32 (header.fixed ++ rest) 4 = .ok header.ts ∧
      readUint32 (header.fixed ++ rest) 8 = .ok header.ssrc := by
  have seq := readUint16_write header.seq (writeUint8 header.firstByte ++ writeUint8 header.secondByte)
    (writeUint32 header.ts ++ (writeUint32 header.ssrc ++ rest))
  have ts := readUint32_write header.ts
    (writeUint8 header.firstByte ++ (writeUint8 header.secondByte ++ writeUint16 header.seq))
    (writeUint32 header.ssrc ++ rest)
  have ssrc := readUint32_write header.ssrc
    (writeUint8 header.firstByte ++ (writeUint8 header.secondByte ++ (writeUint16 header.seq ++ writeUint32 header.ts))) rest
  rw [fixed]
  simp only [List.append_assoc] at seq ts ssrc ⊢
  exact ⟨readUint8_write header.firstByte [] _, readUint8_write header.secondByte (writeUint8 header.firstByte) _, seq, ts,
    ssrc⟩

/-- The CSRCs are put in the place of those that were there. -/
theorem readCsrcs_eq {data : List UInt8} {values : List UInt32} {before rest : List UInt8}
    (split : data = before ++ (values.flatMap writeUint32 ++ rest)) {i : Nat} (room : i + values.length ≤ 16)
    (header : RtpHeader) : Exists fun csrc : { csrc : List UInt32 // csrc.length = 16 } =>
      readCsrcs data values.length i before.length header =
          .ok ({ header with csrc }, before.length + 4 * values.length) ∧
        csrc.val.take (i + values.length) = header.csrc.val.take i ++ values := by
  induction values generalizing before i header with
  | nil => exact ⟨header.csrc, rfl, (List.append_nil _).symm⟩
  | cons value values inductionHypothesis =>
      have length := header.csrc.property
      rw [List.length_cons] at room
      have here : readUint32 data before.length = .ok value := by
        rw [split, List.flatMap_cons, List.append_assoc]
        exact readUint32_write value before _
      have split' : data = (before ++ writeUint32 value) ++ (values.flatMap writeUint32 ++ rest) := by
        rw [split, List.flatMap_cons, List.append_assoc, List.append_assoc]
      have four : (before ++ writeUint32 value).length = before.length + 4 := by
        rw [List.length_append, writeUint32_length]
      have placed : (header.csrc.val.set i value).take (i + 1) = header.csrc.val.take i ++ [value] := by
        have inside : i < (header.csrc.val.set i value).length := by
          rw [List.length_set]
          omega
        rw [List.take_succ_eq_append_getElem inside, List.getElem_set_self, List.take_set_of_le (Nat.le_refl i)]
      rcases inductionHypothesis split' (show i + 1 + values.length ≤ 16 by omega)
        { header with csrc := ⟨header.csrc.val.set i value, by rw [List.length_set]; exact length⟩ } with
        ⟨csrc, read, found⟩
      rw [four] at read
      refine ⟨csrc, ?_, ?_⟩
      · have place : before.length + 4 * (values.length + 1) = before.length + 4 + 4 * values.length := by omega
        rw [List.length_cons, place, readCsrcs, here, Outcome.ok_bind_do, read]
      · rw [List.length_cons, Nat.add_comm values.length 1, ← Nat.add_assoc, found]
        show (header.csrc.val.set i value).take (i + 1) ++ values = _
        rw [placed, List.append_assoc, List.singleton_append]

/-- Where the loop over the CSRCs ends. -/
theorem readCsrcs_offset {data : List UInt8} {count i offset : Nat} {header : RtpHeader} {result : RtpHeader × Nat}
    (read : readCsrcs data count i offset header = .ok result) : result.2 = offset + 4 * count := by
  induction count generalizing i offset header with
  | zero =>
      cases read
      rfl
  | succ count inductionHypothesis =>
      rcases Outcome.bind_eq_ok read with ⟨value, -, later⟩
      rw [inductionHypothesis later]
      omega

end RtpHeader

namespace RtpPacket

/-- The header comes back, and what is left is read behind it. -/
theorem decode_header {header : RtpHeader} (wellFormed : header.WellFormed) (receiver : RtpPacket) (rest : List UInt8)
    {len : Nat} (long : 12 + 4 * header.cc.toNat ≤ len) (small : len < 2 ^ 31) : Exists fun received : RtpHeader =>
      received.Restores header ∧ receiver.decode (header.fixed ++ (header.csrcBytes ++ rest)) len =
        { receiver with header := received }.decodeRest (header.fixed ++ (header.csrcBytes ++ rest)) len
          (header.fixed ++ header.csrcBytes).length := by
  have few : header.cc.toNat < 16 := wellFormed.cc
  rcases RtpHeader.firstByte_fields wellFormed with ⟨version, p, x, cc⟩
  rcases RtpHeader.secondByte_fields wellFormed with ⟨m, pt⟩
  have count : (header.csrc.val.take header.cc.toNat).length = header.cc.toNat := by
    rw [List.length_take, header.csrc.property]
    omega
  rcases header.fixed_reads (header.csrcBytes ++ rest) with ⟨first, second, seq, ts, ssrc⟩
  rcases RtpHeader.readCsrcs_eq (show header.fixed ++ (header.csrcBytes ++ rest) =
      header.fixed ++ ((header.csrc.val.take header.cc.toNat).flatMap writeUint32 ++ rest) from rfl)
    (show 0 + _ ≤ 16 by omega)
    { receiver.header with
      version := header.version, p := header.p, x := header.x, cc := header.cc, m := header.m, pt := header.pt,
      seq := header.seq, ts := header.ts, ssrc := header.ssrc } with ⟨csrc, read, found⟩
  rw [count, header.fixed_length] at read
  rw [count, Nat.zero_add, List.take_zero, List.nil_append] at found
  refine ⟨{ header with csrc, extension := receiver.header.extension }, ⟨rfl, rfl, rfl, rfl, rfl, rfl, rfl, rfl, rfl, found⟩, ?_⟩
  have enough : ¬ asSize (len : Int) < 4 * header.cc.toNat + 12 := by
    rw [asSize_of_nonneg (by omega) (by omega)]
    omega
  have place : (header.fixed ++ header.csrcBytes).length = 12 + 4 * header.cc.toNat := by
    rw [List.length_append, header.fixed_length, RtpHeader.csrcBytes_length wellFormed]
  rw [decode, first, Outcome.ok_bind_do]
  simp only [version, p, x, cc]
  rw [if_neg enough, second, Outcome.ok_bind_do, seq, Outcome.ok_bind_do, ts, Outcome.ok_bind_do, ssrc,
    Outcome.ok_bind_do]
  simp only [m, pt]
  rw [read, place]
  rfl

/-! ## Reading the payload -/

/-- The payload, once its place is known. -/
theorem slice_payload (packet : RtpPacket) {before : List UInt8} (behind : List UInt8) {len : Nat}
    (length : len = before.length + packet.rtpData.val.length) (small : len < 2 ^ 31) :
    Outcome.slice (before ++ (packet.rtpData.val ++ behind)) before.length
      (asUint32 ((len : Int) - before.length)) = .ok packet.rtpData.val := by
  rw [asUint32_of_nonneg (by omega) (by omega)]
  have size : ((len : Int) - before.length).toNat = packet.rtpData.val.length := by omega
  rw [size]
  exact Outcome.slice_middle _ _ _

/-- What `decode` returns with a payload that fits. -/
theorem fits_payload (packet receiver : RtpPacket) :
    (if fits : packet.rtpData.val.length ≤ rtpRtcpMtu then
      Outcome.ok ((0 : Int), { receiver with rtpData := ⟨packet.rtpData.val, fits⟩ }) else .fault) =
      .ok (0, { receiver with rtpData := packet.rtpData }) :=
  dif_pos packet.rtpData.property

/-- An extension of `encode` is passed over. -/
theorem decodeRest_extension (packet receiver : RtpPacket) (extension : RtpExtensionsHeaderOneByte) {before : List UInt8}
    (behind : List UInt8) {len : Nat} (length : len = before.length + 8 + packet.rtpData.val.length)
    (small : len < 2 ^ 31) :
    receiver.decodeRest (before ++ (extension.encode ++ (packet.rtpData.val ++ behind))) len before.length =
      .ok (0, { receiver with rtpData := packet.rtpData }) := by
  let word := writeUint8 ((extension.id &&& 0x0F) <<< 4 ||| 0x01) ++ (writeUint8 extension.value ++ List.replicate 2 0)
  have parts : extension.encode = writeUint16 0xBEDE ++ (writeUint16 1 ++ word) := by
    rw [RtpExtensionsHeaderOneByte.encode]
    simp only [List.append_assoc, word]
    rfl
  have bede : readUint16 (before ++ (extension.encode ++ (packet.rtpData.val ++ behind))) before.length =
      .ok 0xBEDE := by
    rw [parts, List.append_assoc]
    exact readUint16_write 0xBEDE before _
  have extlen : readUint16 (before ++ (extension.encode ++ (packet.rtpData.val ++ behind))) (before.length + 2) =
      .ok 1 := by
    have read := readUint16_write 1 (before ++ writeUint16 0xBEDE) (word ++ (packet.rtpData.val ++ behind))
    rw [List.length_append, writeUint16_length] at read
    rw [parts]
    simp only [List.append_assoc] at read ⊢
    exact read
  have eight : (before ++ extension.encode).length = before.length + 4 + (1 : UInt16).toNat * 4 := by
    rw [List.length_append, RtpHeader.extension_length]
    rfl
  have payload := @slice_payload packet (before ++ extension.encode) behind len (by rw [eight]; exact length) small
  rw [List.append_assoc, eight] at payload
  rw [decodeRest, bede, Outcome.ok_bind_do, if_pos rfl, extlen, Outcome.ok_bind_do]
  simp only [Outcome.pure_eq, Outcome.ok_bind_do]
  rw [payload, Outcome.ok_bind_do]
  exact packet.fits_payload receiver

/-- Without an extension, the payload is what stands behind the header. -/
theorem decodeRest_plain (packet receiver : RtpPacket) {before behind : List UInt8}
    (two : 2 ≤ (packet.rtpData.val ++ behind).length) (unlike : (packet.rtpData.val ++ behind).take 2 ≠ [0xBE, 0xDE])
    {len : Nat} (length : len = before.length + packet.rtpData.val.length) (small : len < 2 ^ 31) :
    receiver.decodeRest (before ++ (packet.rtpData.val ++ behind)) len before.length =
      .ok (0, { receiver with rtpData := packet.rtpData }) := by
  have inside : before.length + 2 ≤ (before ++ (packet.rtpData.val ++ behind)).length := by
    rw [List.length_append]
    omega
  rcases readUint16_of_le inside with ⟨bede, read⟩
  have different : bede ≠ 0xBEDE := by
    rintro rfl
    have piece := (writeUint16_of_read read).2
    rw [List.drop_left] at piece
    exact unlike piece.symm
  rw [decodeRest, read, Outcome.ok_bind_do, if_neg different]
  simp only [Outcome.pure_eq, Outcome.ok_bind_do]
  rw [packet.slice_payload behind length small, Outcome.ok_bind_do]
  exact packet.fits_payload receiver

/-- A payload of this length lies inside the message. -/
theorem payload_inside {data rtpData : List UInt8} {len offset : Nat}
    (read : Outcome.slice data offset (asUint32 ((len : Int) - offset)) = .ok rtpData)
    (fits : rtpData.length ≤ rtpRtcpMtu) (near : offset ≤ 2 ^ 20) (small : len < 2 ^ 31) :
    rtpData.length + offset ≤ len := by
  rcases Outcome.slice_splits read with ⟨size, -⟩
  rw [rtpRtcpMtu] at fits
  by_cases inside : offset ≤ len
  · rw [asUint32_of_nonneg (by omega) (by omega)] at size
    omega
  · have wrapped := asUint32_of_neg (show (len : Int) - offset < 0 by omega) (by omega)
    omega

/-- A payload that was read lies behind the header. -/
theorem rtpData_length {packet received : RtpPacket} {data : List UInt8} {len offset : Nat} {ret : Int}
    (returned : packet.decodeRest data len offset = .ok (ret, received)) (header : offset ≤ 72) (small : len < 2 ^ 31) :
    offset + 2 ≤ data.length ∧ received.rtpData.val.length + offset ≤ len ∧
      ((data.drop offset).take 2 = [0xBE, 0xDE] -> received.rtpData.val.length + offset + 4 ≤ len) := by
  rcases Outcome.bind_eq_ok returned with ⟨bede, read, later⟩
  rcases writeUint16_of_read read with ⟨inside, piece⟩
  by_cases marked : bede = 0xBEDE
  · rw [if_pos marked] at later
    rcases Outcome.bind_eq_ok later with ⟨extlen, -, later'⟩
    have most := extlen.toNat_lt
    rcases Outcome.bind_eq_ok later' with ⟨place, same, later''⟩
    cases same
    rcases Outcome.bind_eq_ok later'' with ⟨rtpData, found, last⟩
    split at last
    next fits =>
      cases last
      have bound := payload_inside found fits (by omega) small
      have behind : rtpData.length + offset + 4 ≤ len := by omega
      exact ⟨inside, Nat.le_trans (Nat.le_add_right _ 4) behind, fun _ => behind⟩
    · cases last
  · rw [if_neg marked] at later
    rcases Outcome.bind_eq_ok later with ⟨place, same, later'⟩
    cases same
    rcases Outcome.bind_eq_ok later' with ⟨rtpData, found, last⟩
    split at last
    next fits =>
      cases last
      have bound := payload_inside found fits (by omega) small
      refine ⟨inside, bound, ?_⟩
      intro like
      rw [like] at piece
      exact absurd (writeUint16_injective (piece.trans (show [0xBE, 0xDE] = writeUint16 0xBEDE from rfl))) marked
    · cases last

/-- A payload is read behind the CSRCs that the first byte counts. -/
theorem decode_length {packet received : RtpPacket} {data : List UInt8} {len : Nat} {first : UInt8}
    (returned : packet.decode (first :: data) len = .ok (0, received)) (small : len < 2 ^ 31) :
    received.rtpData.val.length + (12 + 4 * (first &&& 0xF).toNat) ≤ len := by
  have read : readUint8 (first :: data) 0 = .ok first := by
    have written := readUint8_write first [] data
    have byte : writeUint8 first = [first] := by
      rw [writeUint8, beBytes, beBytes, Nat.pow_zero, Nat.div_one, UInt8.ofNat_toNat]
    rw [byte] at written
    exact written
  have few : (first &&& 0xF).toNat < 16 := by
    rw [UInt8.toNat_and]
    exact Nat.lt_of_le_of_lt Nat.and_le_right (by decide)
  rw [decode, read, Outcome.ok_bind_do] at returned
  dsimp only at returned
  split at returned
  · cases returned
  · rcases Outcome.bind_eq_ok returned with ⟨second, -, later⟩
    rcases Outcome.bind_eq_ok later with ⟨seq, -, later⟩
    rcases Outcome.bind_eq_ok later with ⟨ts, -, later⟩
    rcases Outcome.bind_eq_ok later with ⟨ssrc, -, later⟩
    rcases Outcome.bind_eq_ok later with ⟨⟨header, offset⟩, csrcs, later⟩
    have place : offset = 12 + 4 * (first &&& 0xF).toNat := RtpHeader.readCsrcs_offset csrcs
    rw [← place]
    exact (rtpData_length later (by omega) small).2.1

/-! ## Both directions -/

variable {packet : RtpPacket} {size : Nat}

/-- The bytes of a packet. -/
theorem encode_ok {header : List UInt8} (encoded : packet.header.encode 32 = .ok header) (short : header.length ≤ 32)
    (room : packet.rtpData.val.length + 32 ≤ size) : packet.encode size = .ok (header ++ packet.rtpData.val) := by
  have first : ([] : List UInt8).length + header.length ≤ size := by
    rw [List.length_nil]
    omega
  rw [RtpPacket.encode, encoded, Outcome.ok_bind_do, putBytes, if_pos first, Outcome.ok_bind_do, List.nil_append, putBytes,
    if_pos (by omega)]

/-- A packet that is decoded to a shorter payload does not come back. -/
theorem not_roundTrips_of_shorter {bytes behind : List UInt8} (encoded : packet.encode size = .ok bytes)
    (shorter : forall received, packet.decode (bytes ++ behind) bytes.length = .ok (0, received) ->
      received.rtpData.val.length < packet.rtpData.val.length) : ¬ packet.RoundTrips size behind := by
  rintro ⟨bytes', encoded', decodes⟩
  rw [encoded] at encoded'
  cases encoded'
  rcases decodes packet with ⟨received, returned, -, payload⟩
  have less := shorter received returned
  rw [payload] at less
  exact Nat.lt_irrefl _ less

section WellFormed

variable (wellFormed : packet.header.WellFormed)

include wellFormed

theorem front_length : (packet.header.fixed ++ packet.header.csrcBytes).length = 12 + 4 * packet.header.cc.toNat := by
  rw [List.length_append, packet.header.fixed_length, RtpHeader.csrcBytes_length wellFormed]

variable (room : packet.rtpData.val.length + 32 ≤ size)

include room

/-- Up to five CSRCs without an extension. -/
theorem encode_plain (noExtension : packet.header.x = 0) (few : packet.header.cc.toNat ≤ 5) :
    packet.encode size = .ok (packet.header.fixed ++ packet.header.csrcBytes ++ packet.rtpData.val) := by
  have front := front_length wellFormed
  apply encode_ok _ (by omega) room
  rw [packet.header.encode_eq, if_neg (not_not_intro noExtension), if_pos few]

/-- Up to three CSRCs with an extension. -/
theorem encode_extension (extended : packet.header.x ≠ 0) (few : packet.header.cc.toNat ≤ 3) :
    packet.encode size = .ok
      (packet.header.fixed ++ packet.header.csrcBytes ++ packet.header.extension.encode ++ packet.rtpData.val) := by
  have front := front_length wellFormed
  have eight := RtpHeader.extension_length packet.header.extension
  have length : (packet.header.fixed ++ packet.header.csrcBytes ++ packet.header.extension.encode).length ≤ 32 := by
    rw [List.length_append]
    omega
  apply encode_ok _ length room
  rw [packet.header.encode_eq, if_pos extended, if_pos (by omega), putBytes, if_pos (by omega)]

theorem roundTrips_of_readable {behind : List UInt8} (readable : packet.Readable behind) :
    packet.RoundTrips size behind := by
  have front := front_length wellFormed
  have short : packet.rtpData.val.length ≤ 1500 := packet.rtpData.property
  have few : packet.header.cc.toNat < 16 := wellFormed.cc
  rw [Readable] at readable
  split at readable
  next noExtension =>
    rcases readable with ⟨csrcs, two, unlike⟩
    refine ⟨_, encode_plain wellFormed room noExtension csrcs, ?_⟩
    intro receiver
    have length : (packet.header.fixed ++ packet.header.csrcBytes ++ packet.rtpData.val).length =
        (packet.header.fixed ++ packet.header.csrcBytes).length + packet.rtpData.val.length := List.length_append
    rcases decode_header wellFormed receiver (packet.rtpData.val ++ behind)
      (show 12 + 4 * packet.header.cc.toNat ≤
        (packet.header.fixed ++ packet.header.csrcBytes ++ packet.rtpData.val).length by omega) (by omega) with
      ⟨header, restores, decoded⟩
    refine ⟨{ header, rtpData := packet.rtpData }, ?_, restores, rfl⟩
    have payload := packet.decodeRest_plain { receiver with header } two unlike length (by omega)
    simp only [List.append_assoc] at decoded payload ⊢
    exact decoded.trans payload
  next extended =>
    have eight := RtpHeader.extension_length packet.header.extension
    refine ⟨_, encode_extension wellFormed room extended readable, ?_⟩
    intro receiver
    have length : (packet.header.fixed ++ packet.header.csrcBytes ++ packet.header.extension.encode ++
        packet.rtpData.val).length =
        (packet.header.fixed ++ packet.header.csrcBytes).length + 8 + packet.rtpData.val.length := by
      rw [List.length_append, List.length_append, eight]
    rcases decode_header wellFormed receiver (packet.header.extension.encode ++ (packet.rtpData.val ++ behind))
      (show 12 + 4 * packet.header.cc.toNat ≤
        (packet.header.fixed ++ packet.header.csrcBytes ++ packet.header.extension.encode ++
          packet.rtpData.val).length by omega) (by omega) with
      ⟨header, restores, decoded⟩
    refine ⟨{ header, rtpData := packet.rtpData }, ?_, restores, rfl⟩
    have payload := packet.decodeRest_extension { receiver with header } packet.header.extension behind length (by omega)
    simp only [List.append_assoc] at decoded payload ⊢
    exact decoded.trans payload

/-- Without an extension, bytes that look like one are passed over, and missing
bytes are looked for behind the message. -/
theorem not_roundTrips_plain (noExtension : packet.header.x = 0) (few : packet.header.cc.toNat ≤ 5)
    {behind : List UInt8} (misread : 2 ≤ (packet.rtpData.val ++ behind).length ->
      (packet.rtpData.val ++ behind).take 2 = [0xBE, 0xDE]) : ¬ packet.RoundTrips size behind := by
  have front := front_length wellFormed
  have short : packet.rtpData.val.length ≤ 1500 := packet.rtpData.property
  apply not_roundTrips_of_shorter (encode_plain wellFormed room noExtension few)
  intro received returned
  have length : (packet.header.fixed ++ packet.header.csrcBytes ++ packet.rtpData.val).length =
      (packet.header.fixed ++ packet.header.csrcBytes).length + packet.rtpData.val.length := List.length_append
  rcases decode_header wellFormed packet (packet.rtpData.val ++ behind)
    (show 12 + 4 * packet.header.cc.toNat ≤
      (packet.header.fixed ++ packet.header.csrcBytes ++ packet.rtpData.val).length by omega) (by omega) with
    ⟨header, -, decoded⟩
  have data : packet.header.fixed ++ packet.header.csrcBytes ++ packet.rtpData.val ++ behind =
      packet.header.fixed ++ (packet.header.csrcBytes ++ (packet.rtpData.val ++ behind)) := by
    simp only [List.append_assoc]
  rw [data, decoded] at returned
  rcases rtpData_length returned (by omega) (by omega) with ⟨inside, -, marked⟩
  have total : (packet.header.fixed ++ packet.header.csrcBytes ++ (packet.rtpData.val ++ behind)).length =
      (packet.header.fixed ++ packet.header.csrcBytes).length + (packet.rtpData.val ++ behind).length :=
    List.length_append
  rw [← List.append_assoc] at inside
  rw [← List.append_assoc, List.drop_left] at marked
  have shorter := marked (misread (by omega))
  omega

omit wellFormed in
/-- With more than five CSRCs and no extension, nothing of the header is left. -/
theorem not_roundTrips_many (noExtension : packet.header.x = 0) (many : ¬ packet.header.cc.toNat ≤ 5)
    {behind : List UInt8} : ¬ packet.RoundTrips size behind := by
  have short : packet.rtpData.val.length ≤ 1500 := packet.rtpData.property
  have encoded : packet.header.encode 32 = .ok [] := by
    rw [packet.header.encode_eq, if_neg (not_not_intro noExtension), if_neg many]
  apply not_roundTrips_of_shorter (encode_ok encoded (Nat.zero_le _) room)
  intro received returned
  rw [List.nil_append] at returned
  cases data : packet.rtpData.val ++ behind with
  | nil =>
      rw [data] at returned
      cases returned
  | cons first rest =>
      rw [data] at returned
      have less := decode_length returned (by omega)
      omega

omit wellFormed in
/-- With more than five CSRCs, the extension is taken for a header with fourteen. -/
theorem not_roundTrips_overwritten (extended : packet.header.x ≠ 0) (many : ¬ packet.header.cc.toNat ≤ 5)
    {behind : List UInt8} : ¬ packet.RoundTrips size behind := by
  have short : packet.rtpData.val.length ≤ 1500 := packet.rtpData.property
  have eight := RtpHeader.extension_length packet.header.extension
  have fits : ([] : List UInt8).length + packet.header.extension.encode.length ≤ 32 := by
    rw [eight]
    decide
  have encoded : packet.header.encode 32 = .ok packet.header.extension.encode := by
    rw [packet.header.encode_eq, if_pos extended, if_neg many, putBytes, if_pos fits, List.nil_append]
  apply not_roundTrips_of_shorter (encode_ok encoded (by omega) room)
  intro received returned
  have length : (packet.header.extension.encode ++ packet.rtpData.val).length = 8 + packet.rtpData.val.length := by
    rw [List.length_append, eight]
  have less := decode_length returned (by omega)
  replace less : received.rtpData.val.length + 68 ≤ _ := less
  omega

omit room in
/-- A fourth CSRC leaves no room for an extension. -/
theorem not_roundTrips_overrun (extended : packet.header.x ≠ 0) (several : ¬ packet.header.cc.toNat ≤ 3)
    (few : packet.header.cc.toNat ≤ 5) {behind : List UInt8} : ¬ packet.RoundTrips size behind := by
  have front := front_length wellFormed
  have eight := RtpHeader.extension_length packet.header.extension
  have encoded : packet.encode size = .fault := by
    rw [RtpPacket.encode, packet.header.encode_eq, if_pos extended, if_pos few, putBytes, if_neg (by omega)]
    rfl
  rintro ⟨bytes, encoded', -⟩
  rw [encoded] at encoded'
  cases encoded'

/-- A packet comes back where its header fits the buffer and what stands behind it
does not look like an extension that is not there. -/
theorem packet_roundTrips_iff_readable (behind : List UInt8) : packet.RoundTrips size behind ↔ packet.Readable behind := by
  refine ⟨?_, roundTrips_of_readable wellFormed room⟩
  intro roundTrips
  rw [Readable]
  by_cases noExtension : packet.header.x = 0
  · rw [if_pos noExtension]
    by_contra unreadable
    by_cases few : packet.header.cc.toNat ≤ 5
    · apply not_roundTrips_plain wellFormed room noExtension few _ roundTrips
      intro two
      by_contra unlike
      exact unreadable ⟨few, two, unlike⟩
    · exact not_roundTrips_many room noExtension few roundTrips
  · rw [if_neg noExtension]
    by_contra several
    by_cases few : packet.header.cc.toNat ≤ 5
    · exact not_roundTrips_overrun wellFormed noExtension several few roundTrips
    · exact not_roundTrips_overwritten room noExtension few roundTrips

end WellFormed

/-- A header with this flag and as many CSRCs. -/
def sampleHeader (cc x : UInt8) : RtpHeader where
  version := 2
  p := 0
  x := x
  cc := cc
  m := 1
  pt := 96
  seq := 0x1234
  ts := 0x89abcdef
  ssrc := 0x01020304
  csrc := ⟨[1, 2, 3, 4, 5, 6, 7, 8, 9, 10, 11, 12, 13, 14, 15, 16], rfl⟩
  extension := { id := 1, value := 0x7f }

theorem sampleHeader_wellFormed {cc x : UInt8} (few : cc < 16) (flag : x < 2) : (sampleHeader cc x).WellFormed where
  version := show (2 : UInt8) < 4 by decide
  p := show (0 : UInt8) < 2 by decide
  x := flag
  cc := few
  m := show (1 : UInt8) < 2 by decide
  pt := show (96 : UInt8) < 128 by decide

def samplePacket : RtpPacket where
  header := sampleHeader 3 1
  rtpData := ⟨[1, 2, 3], by decide⟩

theorem roundTrips_samplePacket : samplePacket.RoundTrips 64 [] := by
  have wellFormed : samplePacket.header.WellFormed := sampleHeader_wellFormed (by decide) (by decide)
  exact (packet_roundTrips_iff_readable wellFormed (by decide) []).mpr (by decide)

/-- A payload that begins with the two bytes of an extension. -/
def bedePacket : RtpPacket where
  header := sampleHeader 0 0
  rtpData := ⟨[0xBE, 0xDE, 0, 0, 7], by decide⟩

theorem not_roundTrips_bedePacket : ¬ bedePacket.RoundTrips 64 [] := by
  have wellFormed : bedePacket.header.WellFormed := sampleHeader_wellFormed (by decide) (by decide)
  apply not_roundTrips_plain wellFormed
  · decide
  · rfl
  · decide
  · intro _
    rfl

end RtpPacket

end Net
end RtmpClient
