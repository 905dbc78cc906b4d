import RtmpClient.Library.BigEndian
import RtmpClient.Library.Returns

namespace RtmpClient
namespace Net

open Library

/-!
# Network byte order access (`base/netio.c`)

Every `read_*` and `write_*` of the source is `rawio_netdata_8/16/32/64` at one
width and one signedness.  On the little-endian branch these reverse the bytes
of the host number, so the wire carries the most significant byte first.  None
of them checks a bound: a read past the buffer is a fault of the caller.
-/

/-- `rawio_netdata_*` reading `width` bytes at `data + offset`. -/
def rawioNetdata (width : Nat) (data : List UInt8) (offset : Nat) : Outcome Nat := do
  let cells ← Outcome.slice data offset width
  return beValue cells

def readInt8 (data : List UInt8) (offset : Nat) : Outcome Int8 := do
  let value ← rawioNetdata 1 data offset
  return (UInt8.ofNat value).toInt8

def readInt16 (data : List UInt8) (offset : Nat) : Outcome Int16 := do
  let value ← rawioNetdata 2 data offset
  return (UInt16.ofNat value).toInt16

def readUint8 (data : List UInt8) (offset : Nat) : Outcome UInt8 := do
  let value ← rawioNetdata 1 data offset
  return UInt8.ofNat value

def readUint16 (data : List UInt8) (offset : Nat) : Outcome UInt16 := do
  let value ← rawioNetdata 2 data offset
  return UInt16.ofNat value

def readUint32 (data : List UInt8) (offset : Nat) : Outcome UInt32 := do
  let value ← rawioNetdata 4 data offset
  return UInt32.ofNat value

def readInt32 (data : List UInt8) (offset : Nat) : Outcome Int32 := do
  let value ← readUint32 data offset
  return value.toInt32

def readInt64 (data : List UInt8) (offset : Nat) : Outcome Int64 := do
  let value ← rawioNetdata 8 data offset
  return (UInt64.ofNat value).toInt64

def writeInt8 (value : Int8) : List UInt8 := beBytes 1 value.toUInt8.toNat

def writeInt16 (value : Int16) : List UInt8 := beBytes 2 value.toUInt16.toNat

def writeUint8 (value : UInt8) : List UInt8 := beBytes 1 value.toNat

def writeUint16 (value : UInt16) : List UInt8 := beBytes 2 value.toNat

def writeUint32 (value : UInt32) : List UInt8 := beBytes 4 value.toNat

def writeInt32 (value : Int32) : List UInt8 := writeUint32 value.toUInt32

def writeInt64 (value : Int64) : List UInt8 := beBytes 8 value.toUInt64.toNat

@[simp] theorem writeInt8_length (value : Int8) : (writeInt8 value).length = 1 :=
  beBytes_length 1 value.toUInt8.toNat

@[simp] theorem writeInt16_length (value : Int16) : (writeInt16 value).length = 2 :=
  beBytes_length 2 value.toUInt16.toNat

@[simp] theorem writeUint8_length (value : UInt8) : (writeUint8 value).length = 1 :=
  beBytes_length 1 value.toNat

@[simp] theorem writeUint16_length (value : UInt16) : (writeUint16 value).length = 2 :=
  beBytes_length 2 value.toNat

@[simp] theorem writeUint32_length (value : UInt32) : (writeUint32 value).length = 4 :=
  beBytes_length 4 value.toNat

@[simp] theorem writeInt32_length (value : Int32) : (writeInt32 value).length = 4 :=
  writeUint32_length value.toUInt32

@[simp] theorem writeInt64_length (value : Int64) : (writeInt64 value).length = 8 :=
  beBytes_length 8 value.toUInt64.toNat

theorem writeInt16_eq (value : Int16) :
    writeInt16 value = [UInt8.ofNat (value.toUInt16.toNat / 256), UInt8.ofNat value.toUInt16.toNat] := by
  simp only [writeInt16, beBytes, pow_zero, pow_one, Nat.div_one]

/-- The bytes at the cursor decide what is read. -/
theorem rawioNetdata_piece (before piece rest : List UInt8) :
    rawioNetdata piece.length (before ++ (piece ++ rest)) before.length = .ok (beValue piece) := by
  simp only [rawioNetdata, Outcome.slice_middle, Outcome.ok_bind_do, Outcome.pure_eq]

/-- A number that fits its width is read back wherever it was written. -/
theorem rawioNetdata_beBytes {width value : Nat} (fits : value < 256 ^ width)
    (before rest : List UInt8) :
    rawioNetdata width (before ++ (beBytes width value ++ rest)) before.length = .ok value := by
  have piece := rawioNetdata_piece before (beBytes width value) rest
  rw [beBytes_length, beValue_beBytes_of_lt fits] at piece
  exact piece

theorem readInt8_write (value : Int8) (before rest : List UInt8) :
    readInt8 (before ++ (writeInt8 value ++ rest)) before.length = .ok value := by
  rw [readInt8, writeInt8, rawioNetdata_beBytes value.toUInt8.toNat_lt]
  simp only [Outcome.ok_bind_do, Outcome.pure_eq, UInt8.ofNat_toNat, Int8.toInt8_toUInt8]

theorem readInt16_write (value : Int16) (before rest : List UInt8) :
    readInt16 (before ++ (writeInt16 value ++ rest)) before.length = .ok value := by
  rw [readInt16, writeInt16, rawioNetdata_beBytes value.toUInt16.toNat_lt]
  simp only [Outcome.ok_bind_do, Outcome.pure_eq, UInt16.ofNat_toNat, Int16.toInt16_toUInt16]

theorem readUint8_write (value : UInt8) (before rest : List UInt8) :
    readUint8 (before ++ (writeUint8 value ++ rest)) before.length = .ok value := by
  rw [readUint8, writeUint8, rawioNetdata_beBytes value.toNat_lt]
  simp only [Outcome.ok_bind_do, Outcome.pure_eq, UInt8.ofNat_toNat]

theorem readUint16_write (value : UInt16) (before rest : List UInt8) :
    readUint16 (before ++ (writeUint16 value ++ rest)) before.length = .ok value := by
  rw [readUint16, writeUint16, rawioNetdata_beBytes value.toNat_lt]
  simp only [Outcome.ok_bind_do, Outcome.pure_eq, UInt16.ofNat_toNat]

theorem readUint16_of_le {data : List UInt8} {offset : Nat} (inside : offset + 2 ≤ data.length) :
    Exists fun value => readUint16 data offset = .ok value := by
  rw [readUint16, rawioNetdata, Outcome.slice_of_le inside]
  exact ⟨_, rfl⟩

theorem writeUint16_injective {value other : UInt16} (same : writeUint16 value = writeUint16 other) : value = other := by
  have read := readUint16_write value [] []
  rw [same, readUint16_write other [] []] at read
  exact (Outcome.ok.inj read).symm

theorem readUint32_write (value : UInt32) (before rest : List UInt8) :
    readUint32 (before ++ (writeUint32 value ++ rest)) before.length = .ok value := by
  rw [readUint32, writeUint32, rawioNetdata_beBytes value.toNat_lt]
  simp only [Outcome.ok_bind_do, Outcome.pure_eq, UInt32.ofNat_toNat]

theorem writeUint32_injective {value other : UInt32} (same : writeUint32 value = writeUint32 other) : value = other := by
  have read := readUint32_write value [] []
  rw [same, readUint32_write other [] []] at read
  exact (Outcome.ok.inj read).symm

theorem readInt32_write (value : Int32) (before rest : List UInt8) :
    readInt32 (before ++ (writeInt32 value ++ rest)) before.length = .ok value := by
  rw [readInt32, writeInt32, readUint32_write]
  simp only [Outcome.ok_bind_do, Outcome.pure_eq, Int32.toInt32_toUInt32]

theorem readInt64_write (value : Int64) (before rest : List UInt8) :
    readInt64 (before ++ (writeInt64 value ++ rest)) before.length = .ok value := by
  rw [readInt64, writeInt64, rawioNetdata_beBytes value.toUInt64.toNat_lt]
  simp only [Outcome.ok_bind_do, Outcome.pure_eq, UInt64.ofNat_toNat, Int64.toInt64_toUInt64]

/-- What a read found is what stands at the cursor. -/
theorem beBytes_of_rawioNetdata {width offset value : Nat} {data : List UInt8}
    (read : rawioNetdata width data offset = .ok value) :
    offset + width ≤ data.length ∧ beBytes width value = (data.drop offset).take width := by
  rcases Outcome.bind_eq_ok read with ⟨cells, found, last⟩
  have number : beValue cells = value := Outcome.ok.inj last
  rw [Outcome.slice] at found
  split at found
  next inside =>
    have piece : (data.drop offset).take width = cells := Outcome.ok.inj found
    have size : cells.length = width := by
      rw [← piece, List.length_take, List.length_drop]
      omega
    have spelled := beBytes_beValue cells
    rw [size, number] at spelled
    exact ⟨inside, spelled.trans piece.symm⟩
  · cases found

theorem writeInt8_of_read {data : List UInt8} {offset : Nat} {value : Int8}
    (read : readInt8 data offset = .ok value) :
    offset + 1 ≤ data.length ∧ writeInt8 value = (data.drop offset).take 1 := by
  rcases Outcome.bind_eq_ok read with ⟨raw, cell, last⟩
  have wraps : beBytes 1 (raw % 2 ^ 8) = beBytes 1 raw := beBytes_mod 1 raw
  rw [← Outcome.ok.inj last, writeInt8, UInt8.toUInt8_toInt8, UInt8.toNat_ofNat', wraps]
  exact beBytes_of_rawioNetdata cell

theorem writeInt16_of_read {data : List UInt8} {offset : Nat} {value : Int16}
    (read : readInt16 data offset = .ok value) :
    offset + 2 ≤ data.length ∧ writeInt16 value = (data.drop offset).take 2 := by
  rcases Outcome.bind_eq_ok read with ⟨raw, cells, last⟩
  have wraps : beBytes 2 (raw % 2 ^ 16) = beBytes 2 raw := beBytes_mod 2 raw
  rw [← Outcome.ok.inj last, writeInt16, UInt16.toUInt16_toInt16, UInt16.toNat_ofNat', wraps]
  exact beBytes_of_rawioNetdata cells

theorem writeUint16_of_read {data : List UInt8} {offset : Nat} {value : UInt16}
    (read : readUint16 data offset = .ok value) :
    offset + 2 ≤ data.length ∧ writeUint16 value = (data.drop offset).take 2 := by
  rcases Outcome.bind_eq_ok read with ⟨raw, cells, last⟩
  have wraps : beBytes 2 (raw % 2 ^ 16) = beBytes 2 raw := beBytes_mod 2 raw
  rw [← Outcome.ok.inj last, writeUint16, UInt16.toNat_ofNat', wraps]
  exact beBytes_of_rawioNetdata cells

theorem writeUint32_of_read {data : List UInt8} {offset : Nat} {value : UInt32}
    (read : readUint32 data offset = .ok value) :
    offset + 4 ≤ data.length ∧ writeUint32 value = (data.drop offset).take 4 := by
  rcases Outcome.bind_eq_ok read with ⟨raw, cells, last⟩
  have wraps : beBytes 4 (raw % 2 ^ 32) = beBytes 4 raw := beBytes_mod 4 raw
  rw [← Outcome.ok.inj last, writeUint32, UInt32.toNat_ofNat', wraps]
  exact beBytes_of_rawioNetdata cells

/-- What was read stands at the cursor. -/
theorem drop_eq_of_take {cells data : List UInt8} {offset width : Nat} (field : cells = (data.drop offset).take width) :
    data.drop offset = cells ++ data.drop (offset + width) := by
  rw [field, ← List.drop_drop, List.take_append_drop]

theorem unchecked_readInt16 (data : List UInt8) (offset : Nat) : (readInt16 data offset).Unchecked :=
  ((Outcome.unchecked_slice data offset 2).bind fun _ => Outcome.unchecked_ok _).bind fun _ => Outcome.unchecked_ok _

theorem unchecked_readUint32 (data : List UInt8) (offset : Nat) : (readUint32 data offset).Unchecked :=
  ((Outcome.unchecked_slice data offset 4).bind fun _ => Outcome.unchecked_ok _).bind fun _ => Outcome.unchecked_ok _

theorem writeInt64_of_read {data : List UInt8} {offset : Nat} {value : Int64}
    (read : readInt64 data offset = .ok value) :
    offset + 8 ≤ data.length ∧ writeInt64 value = (data.drop offset).take 8 := by
  rcases Outcome.bind_eq_ok read with ⟨raw, cells, last⟩
  have wraps : beBytes 8 (raw % 2 ^ 64) = beBytes 8 raw := beBytes_mod 8 raw
  rw [← Outcome.ok.inj last, writeInt64, UInt64.toUInt64_toInt64, UInt64.toNat_ofNat', wraps]
  exact beBytes_of_rawioNetdata cells

end Net
end RtmpClient
