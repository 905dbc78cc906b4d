import RtmpClient.Amf0.Encoding
import RtmpClient.Amf0.Read

namespace RtmpClient
namespace Amf0

open Library
open Net

/-!
# What discovery sees

`discovery` looks for the end marker `00 00 09` before it looks at the type
marker.  On the encoding of a well formed value it finds the end marker only
if that is the value, and the loops over properties never find it where a
property begins, not even one with the empty name.
-/

/-! ## The end marker -/

theorem rtmpAmf0IsObjectEof_cons (first second third : UInt8) (rest : List UInt8) :
    rtmpAmf0IsObjectEof (first :: second :: third :: rest) = true ↔
      first = 0x00 ∧ second = 0x00 ∧ third = 0x09 := by
  rw [rtmpAmf0IsObjectEof, beq_iff_eq]
  constructor
  · intro flag
    have number := congrArg UInt32.toNat flag
    simp only [UInt32.toNat_or, UInt32.toNat_shiftLeft, UInt8.toNat_toUInt32] at number
    -- no part of a bitwise or exceeds the whole, which is 9
    have high : first.toNat <<< 16 % 2 ^ 32 ≤ 9 :=
      Nat.le_trans (Nat.le_trans Nat.left_le_or Nat.left_le_or) (Nat.le_of_eq number)
    have middle : second.toNat <<< 8 % 2 ^ 32 ≤ 9 :=
      Nat.le_trans (Nat.le_trans Nat.right_le_or Nat.left_le_or) (Nat.le_of_eq number)
    have firstZero : first = 0x00 := by
      apply UInt8.toNat.inj
      have bound := first.toNat_lt
      rw [Nat.shiftLeft_eq] at high
      show first.toNat = 0
      omega
    have secondZero : second = 0x00 := by
      apply UInt8.toNat.inj
      have bound := second.toNat_lt
      rw [Nat.shiftLeft_eq] at middle
      show second.toNat = 0
      omega
    refine ⟨firstZero, secondZero, ?_⟩
    rw [firstZero, secondZero] at number
    apply UInt8.toNat.inj
    calc
      third.toNat = 0 ||| third.toNat := (Nat.zero_or _).symm
      _ = 9 := number
  · rintro ⟨rfl, rfl, rfl⟩
    rfl

theorem isObjectEof_objectEofEncoding (rest : List UInt8) :
    rtmpAmf0IsObjectEof (objectEofEncoding ++ rest) = true :=
  (rtmpAmf0IsObjectEof_cons _ _ _ rest).mpr ⟨rfl, rfl, rfl⟩

theorem begins_of_isObjectEof {cells : List UInt8} (isEof : rtmpAmf0IsObjectEof cells = true) :
    Exists fun rest => cells = objectEofEncoding ++ rest := by
  rcases cells with _ | ⟨first, _ | ⟨second, _ | ⟨third, rest⟩⟩⟩
  · cases isEof
  · cases isEof
  · cases isEof
  · rcases (rtmpAmf0IsObjectEof_cons first second third rest).mp isEof with ⟨rfl, rfl, rfl⟩
    exact ⟨rest, rfl⟩

theorem notEof_of_short {cells : List UInt8} (short : cells.length < 3) : rtmpAmf0IsObjectEof cells = false := by
  apply Bool.eq_false_iff.mpr
  intro isEof
  rcases begins_of_isObjectEof isEof with ⟨rest, rfl⟩
  rw [List.length_append] at short
  exact Nat.not_lt_of_le (Nat.le_add_right 3 rest.length) short

/-- Three cells that are not `00 00 09` rule the end marker out. -/
theorem notEof_of_cells {first second third : UInt8} (rest : List UInt8)
    (differ : ¬ (first = 0x00 ∧ second = 0x00 ∧ third = 0x09)) :
    rtmpAmf0IsObjectEof (first :: second :: third :: rest) = false := by
  apply Bool.eq_false_iff.mpr
  intro found
  exact differ ((rtmpAmf0IsObjectEof_cons first second third rest).mp found)

theorem notEof_of_first {first : UInt8} (tail : List UInt8) (nonzero : first ≠ 0x00) :
    rtmpAmf0IsObjectEof (first :: tail) = false := by
  rcases tail with _ | ⟨second, _ | ⟨third, rest⟩⟩
  · rfl
  · rfl
  · exact notEof_of_cells rest fun cells => nonzero cells.1

/-- A number reads as an end marker only if its first two bytes are `00 09`. -/
theorem notEof_of_number {value : UInt64} (notEof : value >>> 48 ≠ 0x0009) (rest : List UInt8) :
    rtmpAmf0IsObjectEof ((RtmpAmf0Any.number value).encoding ++ rest) = false := by
  apply notEof_of_cells
  rintro ⟨-, second, third⟩
  apply notEof
  apply UInt64.toNat.inj
  have bound := value.toNat_lt
  have high : value.toNat / 256 ^ 7 % 2 ^ 8 = 0 := by
    have same := congrArg UInt8.toNat second
    rwa [UInt8.toNat_ofNat', UInt64.toUInt64_toInt64] at same
  have low : value.toNat / 256 ^ 6 % 2 ^ 8 = 9 := by
    have same := congrArg UInt8.toNat third
    rwa [UInt8.toNat_ofNat', UInt64.toUInt64_toInt64] at same
  calc
    (value >>> 48).toNat = value.toNat / 2 ^ 48 := by
      rw [UInt64.toNat_shiftRight, Nat.shiftRight_eq_div_pow]
      rfl
    _ = 9 := by omega

/-! ## Where a property begins -/

/-- Every encoding begins with a marker, and none with that of the object end:
its own begins with the empty name. -/
theorem encoding_head (value : RtmpAmf0Any) : Exists fun marker => Exists fun tail =>
    value.encoding = marker :: tail ∧ marker ≠ rtmpAmf0ObjectEnd.toUInt8 := by
  cases value <;> exact ⟨_, _, rfl, by decide⟩

/-- A positive length does not begin with two zero bytes. -/
theorem notEof_of_name {head : UInt8} {tail : List UInt8} (fits : (head :: tail).length ≤ 32767)
    (rest : List UInt8) : rtmpAmf0IsObjectEof (utf8Encoding (head :: tail) ++ rest) = false := by
  rw [utf8Encoding, writeInt16_eq]
  apply notEof_of_cells
  rintro ⟨first, second, -⟩
  have high := congrArg UInt8.toNat first
  have low := congrArg UInt8.toNat second
  have length : (Int16.ofNat (head :: tail).length).toUInt16.toNat = (head :: tail).length := by
    rw [Int16.toUInt16_ofNat', UInt16.toNat_ofNat', Nat.mod_eq_of_lt]
    omega
  rw [length, UInt8.toNat_ofNat', List.length_cons] at high low
  rw [List.length_cons] at fits
  have zero : UInt8.toNat 0x00 = 0 := rfl
  omega

/-- The loops over properties do not take a property for the end. -/
theorem notEof_of_property {property : List UInt8 × RtmpAmf0Any}
    (fits : property.1.length ≤ 32767) (rest : List UInt8) :
    rtmpAmf0IsObjectEof (propertyEncoding property ++ rest) = false := by
  rcases property with ⟨_ | ⟨head, tail⟩, value⟩
  · rcases encoding_head value with ⟨marker, tail, starts, notEnd⟩
    rw [propertyEncoding, starts]
    exact notEof_of_cells (tail ++ rest) fun cells => notEnd cells.2.2
  · rw [propertyEncoding, List.append_assoc]
    exact notEof_of_name fits (value.encoding ++ rest)

/-! ## The instance that is made -/

/-- The instance of a value's subclass before it is read. -/
def RtmpAmf0Any.fresh : RtmpAmf0Any -> RtmpAmf0Any
  | .number _ => .number 0
  | .boolean _ => .boolean false
  | .string _ => .string []
  | .null => .null
  | .undefined => .undefined
  | .date _ _ => .date 0 0
  | .objectEof => .objectEof
  | .object _ => .object []
  | .ecmaArray _ _ => .ecmaArray 0 []
  | .strictArray _ _ => .strictArray 0 []

/-- The marker in front of the contents; an end marker has it behind the empty
name. -/
def RtmpAmf0Any.typeMarker : RtmpAmf0Any -> Int8
  | .number _ => rtmpAmf0Number
  | .boolean _ => rtmpAmf0Boolean
  | .string _ => rtmpAmf0String
  | .null => rtmpAmf0Null
  | .undefined => rtmpAmf0Undefined
  | .date _ _ => rtmpAmf0Date
  | .objectEof => rtmpAmf0ObjectEnd
  | .object _ => rtmpAmf0Object
  | .ecmaArray _ _ => rtmpAmf0EcmaArray
  | .strictArray _ _ => rtmpAmf0StrictArray

theorem readInt8_first (first : UInt8) (rest : List UInt8) : readInt8 (first :: rest) 0 = .ok first.toInt8 := by
  have cell : rawioNetdata 1 ([] ++ ([first] ++ rest)) 0 = .ok (beValue [first]) := rawioNetdata_piece [] [first] rest
  have number : beValue [first] = first.toNat := by
    rw [beValue, beValue, List.length_nil, pow_zero, Nat.mul_one, Nat.add_zero]
  rw [List.nil_append, List.singleton_append, number] at cell
  rw [readInt8, cell, Outcome.ok_bind_do, UInt8.ofNat_toNat, Outcome.pure_eq]

/-- What discovery makes at a marker. -/
structure FoundAt (marker : Int8) (value : RtmpAmf0Any) : Prop where
  fresh : value.fresh = value
  notEof : value ≠ .objectEof
  kind : marker = value.typeMarker

/-- One marker of discovery: what is made at it, or the marker is another. -/
theorem foundAt_of_ite {marker named : Int8} {made value : RtmpAmf0Any} {otherwise : Outcome RtmpAmf0Any}
    (here : FoundAt named made) (others : otherwise = .ok value -> FoundAt marker value)
    (found : (if marker = named then .ok made else otherwise) = .ok value) : FoundAt marker value := by
  by_cases this : marker = named
  · rw [if_pos this] at found
    rw [← Outcome.ok.inj found, this]
    exact here
  · rw [if_neg this] at found
    exact others found

/-- Discovery hands out instances that were not read yet, each at its marker. -/
theorem discovery_found {data : List UInt8} {value : RtmpAmf0Any}
    (discovered : RtmpAmf0Any.discovery data = .ok value) :
    value = .objectEof ∧ rtmpAmf0IsObjectEof data = true ∨
      rtmpAmf0IsObjectEof data = false ∧ Exists fun marker => readInt8 data 0 = .ok marker ∧ FoundAt marker value := by
  rw [RtmpAmf0Any.discovery] at discovered
  by_cases isEof : rtmpAmf0IsObjectEof data = true
  · rw [if_pos isEof] at discovered
    exact Or.inl ⟨(Outcome.ok.inj discovered).symm, isEof⟩
  · rw [if_neg isEof] at discovered
    cases data with
    | nil => cases discovered
    | cons first rest =>
        have nonempty : ¬ (first :: rest).length < 1 := Nat.not_lt.mpr (Nat.succ_le_succ (Nat.zero_le rest.length))
        rw [if_neg nonempty, Outcome.read_cons_zero, Outcome.ok_bind_do] at discovered
        refine Or.inr ⟨Bool.eq_false_iff.mpr isEof, first.toInt8, readInt8_first first rest, ?_⟩
        revert discovered
        -- the nine markers in the order of the source
        iterate 9 refine foundAt_of_ite ⟨rfl, RtmpAmf0Any.noConfusion, rfl⟩ ?_
        intro refused
        cases refused

theorem discovery_fresh {data : List UInt8} {value : RtmpAmf0Any}
    (discovered : RtmpAmf0Any.discovery data = .ok value) : value.fresh = value := by
  rcases discovery_found discovered with ⟨rfl, _⟩ | ⟨_, _, _, found⟩
  · rfl
  · exact found.fresh

/-- Apart from the end marker, discovery goes by the first byte. -/
theorem discovery_of_notEof {cell : UInt8} {tail : List UInt8} {value : RtmpAmf0Any}
    (notEof : rtmpAmf0IsObjectEof (cell :: tail) = false)
    (byMarker : RtmpAmf0Any.discovery [cell] = .ok value) :
    RtmpAmf0Any.discovery (cell :: tail) = .ok value := by
  have nonempty : ¬ (cell :: tail).length < 1 := Nat.not_lt_of_le (Nat.succ_le_succ (Nat.zero_le _))
  have single : rtmpAmf0IsObjectEof [cell] = false := rfl
  rw [RtmpAmf0Any.discovery, single] at byMarker
  rw [RtmpAmf0Any.discovery, notEof, if_neg nonempty]
  exact byMarker

theorem discovery_encoding {value : RtmpAmf0Any} (wellFormed : value.WellFormed)
    (rest : List UInt8) :
    RtmpAmf0Any.discovery (value.encoding ++ rest) = .ok value.fresh := by
  cases wellFormed with
  | number notEof => exact discovery_of_notEof (notEof_of_number notEof rest) rfl
  | objectEof =>
      rw [RtmpAmf0Any.discovery, RtmpAmf0Any.encoding, if_pos (isObjectEof_objectEofEncoding rest),
        RtmpAmf0Any.fresh]
  | _ => exact discovery_of_notEof (notEof_of_first _ (by decide)) rfl

end Amf0
end RtmpClient
