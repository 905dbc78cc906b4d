import RtmpClient.Amf0.Reached

namespace RtmpClient
namespace Amf0

open Library
open Net

/-!
# What `write` puts into a buffer

On values with short strings and names the writers produce the encoding of what
their loops get to, and `total_size` is its length as an `int`.  Below 2^31 that
is the encoding of the value, which is read back as the same value.
-/

open RtmpAmf0Any

/-! ## Writing needs the lengths only -/

theorem RtmpAmf0Any.Short.emits_counted {value : RtmpAmf0Any} (short : value.Short) (counted : value.Counted) :
    Emits value.write value.encoding := by
  induction short with
  | @intro value fits _ inductionHypothesis =>
      have parts : forall part, part ∈ value.parts -> Emits part.write part.encoding := fun part member =>
        inductionHypothesis part member (counted.inside part member)
      have table {properties : List (List UInt8 × RtmpAmf0Any)} (few : (properties.map Prod.snd).length < 2 ^ 31)
          (fit : forall property, property ∈ properties -> property.1.length ≤ 32767)
          (emit : forall part, part ∈ properties.map Prod.snd -> Emits part.write part.encoding) :
          Emits (writeProperties (loopRounds properties.length) properties) (propertiesEncoding properties) := by
        rw [List.length_map] at few
        rw [loopRounds_of_lt few]
        exact writeProperties_emits (Nat.le_refl _) fit fun property member =>
          emit property.2 (List.mem_map_of_mem member)
      cases value with
      | number value => exact writeNumber_emits value
      | boolean value => exact writeBoolean_emits value
      | string value => exact writeString_emits fits
      | null => exact writeMarkerOnly_emits rtmpAmf0Null
      | undefined => exact writeMarkerOnly_emits rtmpAmf0Undefined
      | date value timeZone => exact writeDate_emits value timeZone
      | objectEof => exact writeObjectEof_emits
      | object properties =>
          rw [write]
          exact writeObject_emits (table counted.here fits parts)
      | ecmaArray count properties =>
          rw [write]
          exact writeEcmaArray_emits count (table counted.here fits parts)
      | strictArray count properties =>
          have few : properties.length < 2 ^ 31 := counted.here
          rw [write, loopRounds_of_lt few]
          exact writeStrictArray_emits count (writeElements_emits (Nat.le_refl _) parts)

/-- In every buffer where it fits, `write` produces the encoding of what is
reached of a value with short strings and names, whatever its numbers and
counts. -/
theorem RtmpAmf0Any.Short.emits_reached {value : RtmpAmf0Any} (short : value.Short) :
    Emits value.write value.reached.encoding := by
  have emits := Short.emits_counted (Short.reached short) value.counted_reached
  rwa [value.write_reached] at emits

/-- The encoding of the value, when its size is an `int`. -/
theorem RtmpAmf0Any.Short.emits {value : RtmpAmf0Any} (short : value.Short) (inInt : value.byteSize < 2 ^ 31) :
    Emits value.write value.encoding :=
  Short.emits_counted short (counted_of_byteSize inInt)

/-! ## The size as an `int` -/

theorem propertiesTotalSize_reached {rounds : Nat} {properties : List (List UInt8 × RtmpAmf0Any)}
    (same : forall part, part ∈ properties.map Prod.snd -> part.totalSize = Int32.ofNat part.reached.byteSize) :
    propertiesTotalSize rounds properties = Int32.ofNat (propertiesSize (reachedProperties rounds properties)) := by
  induction properties generalizing rounds with
  | nil =>
      cases rounds with
      | zero => rfl
      | succ rounds => rfl
  | cons property properties inductionHypothesis =>
      cases rounds with
      | zero => rfl
      | succ rounds =>
          have first : property.2.totalSize = Int32.ofNat property.2.reached.byteSize := same property.2 List.mem_cons_self
          have others := @inductionHypothesis rounds fun part member => same part (List.mem_cons_of_mem _ member)
          rw [reachedProperties, propertiesSize, propertiesTotalSize, first, others, Int32.ofNat_add, Int32.ofNat_add]

theorem elementsTotalSize_reached {rounds : Nat} {properties : List RtmpAmf0Any}
    (same : forall part, part ∈ properties -> part.totalSize = Int32.ofNat part.reached.byteSize) :
    elementsTotalSize rounds properties = Int32.ofNat (elementsSize (reachedElements rounds properties)) := by
  induction properties generalizing rounds with
  | nil =>
      cases rounds with
      | zero => rfl
      | succ rounds => rfl
  | cons value properties inductionHypothesis =>
      cases rounds with
      | zero => rfl
      | succ rounds =>
          have first := same value List.mem_cons_self
          have others := @inductionHypothesis rounds fun part member => same part (List.mem_cons_of_mem _ member)
          rw [reachedElements, elementsSize, elementsTotalSize, first, others, Int32.ofNat_add]

/-- `total_size` is the number of bytes of what is reached, as an `int`. -/
theorem RtmpAmf0Any.totalSize_eq (value : RtmpAmf0Any) : value.totalSize = Int32.ofNat value.reached.byteSize := by
  induction value using byParts with
  | step value inductionHypothesis =>
      cases value with
      | object properties =>
          rw [totalSize, reached, byteSize, propertiesTotalSize_reached inductionHypothesis, Int32.ofNat_add,
            Int32.ofNat_add]
          rfl
      | ecmaArray count properties =>
          rw [totalSize, reached, byteSize, propertiesTotalSize_reached inductionHypothesis, Int32.ofNat_add,
            Int32.ofNat_add]
          rfl
      | strictArray count properties =>
          have elements : forall part, part ∈ properties -> part.totalSize = Int32.ofNat part.reached.byteSize :=
            inductionHypothesis
          rw [totalSize, reached, byteSize, elementsTotalSize_reached elements, Int32.ofNat_add]
          rfl
      | _ => rfl

/-- A size below 2^31 is what `total_size` returns. -/
theorem RtmpAmf0Any.totalSize_toInt {value : RtmpAmf0Any} (inInt : value.byteSize < 2 ^ 31) :
    value.totalSize.toInt = value.byteSize := by
  rw [value.totalSize_eq, Counted.reached_eq (counted_of_byteSize inInt)]
  exact Int32.toInt_ofNat_of_lt inInt

/-! ## Writing what the format cannot carry

A string that is too long is cut, or only its length is written.  Either way the
writer ends, and takes no more room than the size says.
-/

/-- The number of bytes that `rtmp_amf0_write_utf8` returns. -/
def utf8Written (value : List UInt8) : Nat := 2 + (Int16.ofNat value.length).toInt.toNat

mutual

/-- The number of bytes that `write` returns in a large buffer, of a value whose
items are all reached. -/
def RtmpAmf0Any.writtenSize : RtmpAmf0Any -> Nat
  | .string value => 1 + utf8Written value
  | .object properties => 1 + propertiesWritten properties + RtmpAmf0Size.objectEof
  | .ecmaArray _ properties => 1 + 4 + propertiesWritten properties + RtmpAmf0Size.objectEof
  | .strictArray _ properties => 1 + 4 + elementsWritten properties
  | value => value.byteSize

def propertiesWritten : List (List UInt8 × RtmpAmf0Any) -> Nat
  | [] => 0
  | (name, value) :: rest => utf8Written name + value.writtenSize + propertiesWritten rest

def elementsWritten : List RtmpAmf0Any -> Nat
  | [] => 0
  | value :: rest => value.writtenSize + elementsWritten rest

end

/-- The cast to 16 bits never makes a length larger. -/
theorem toInt_length_le (length : Nat) : (Int16.ofNat length).toInt ≤ length := by
  have cast : (Int16.ofNat length).toInt = (length : Int).bmod (2 ^ 16) := Int16.toInt_ofNat'
  rw [cast, Int.bmod_def]
  split <;> omega

theorem utf8Written_le (value : List UInt8) : utf8Written value ≤ RtmpAmf0Size.utf8 value := by
  have cut := toInt_length_le value.length
  rw [utf8Written, RtmpAmf0Size.utf8]
  omega

theorem writeUtf8_takes (value : List UInt8) :
    Takes (rtmpAmf0WriteUtf8 value) (RtmpAmf0Size.utf8 value) (utf8Written value) := by
  refine ⟨utf8Written_le value, fun room enough => ?_⟩
  rw [RtmpAmf0Size.utf8] at enough
  have cut := toInt_length_le value.length
  have roomy : ¬ (room : Int) < 2 + (Int16.ofNat value.length).toInt := by omega
  have head : store room (writeInt16 (Int16.ofNat value.length)) = .ok _ :=
    store_of_le (by rw [writeInt16_length]; omega)
  rw [rtmpAmf0WriteUtf8]
  simp only [roomy, if_false, head, Outcome.ok_bind_do, Outcome.pure_eq, utf8Written]
  by_cases empty : (Int16.ofNat value.length).toInt ≤ 0
  · rw [if_pos empty]
    exact ⟨_, rfl, by rw [writeInt16_length]; omega⟩
  · have kept : (value.take (Int16.ofNat value.length).toInt.toNat).length =
        (Int16.ofNat value.length).toInt.toNat := by
      rw [List.length_take]
      omega
    have body : store (room - 2) (value.take (Int16.ofNat value.length).toInt.toNat) = .ok _ :=
      store_of_le (by omega)
    rw [if_neg empty, body]
    refine ⟨_, rfl, ?_⟩
    rw [List.length_append, writeInt16_length, kept]

theorem writeString_takes (value : List UInt8) :
    Takes (rtmpAmf0WriteString value) (RtmpAmf0Size.str value) (1 + utf8Written value) := by
  refine ⟨Nat.add_le_add_left (utf8Written_le value) 1, fun room enough => ?_⟩
  rw [RtmpAmf0Size.str] at enough
  have roomy : ¬ room < 1 := by omega
  rcases (writeUtf8_takes value).2 (room - 1) (by omega) with ⟨cells, written, length⟩
  refine ⟨writeInt8 rtmpAmf0String ++ cells, ?_, ?_⟩
  · simp (disch := omega) only [rtmpAmf0WriteString, roomy, if_false, store_int8, written, Outcome.ok_bind_do,
      Outcome.pure_eq]
  · rw [List.length_append, writeInt8_length, length]

theorem writeObjectEof_takes : Takes RtmpAmf0ObjectEof.write RtmpAmf0Size.objectEof RtmpAmf0Size.objectEof :=
  .of_emits writeObjectEof_emits

theorem writeObject_takes {loop : Writer UInt8} {properties : List (List UInt8 × RtmpAmf0Any)}
    (takes : Takes loop (propertiesSize properties) (propertiesWritten properties)) :
    Takes (RtmpAmf0Object.write loop) (RtmpAmf0Any.object properties).byteSize
      (RtmpAmf0Any.object properties).writtenSize := by
  have less := takes.1
  rw [RtmpAmf0Any.byteSize, RtmpAmf0Any.writtenSize]
  refine ⟨by omega, fun room enough => ?_⟩
  have roomy : ¬ room < 1 := by omega
  rcases takes.2 (room - 1) (by omega) with ⟨cells, written, length⟩
  rcases writeObjectEof_takes.2 (room - 1 - cells.length) (by omega) with ⟨eof, ended, three⟩
  refine ⟨writeInt8 rtmpAmf0Object ++ (cells ++ eof), ?_, ?_⟩
  · simp (disch := omega) only [RtmpAmf0Object.write, roomy, if_false, store_int8, written, ended,
      Outcome.ok_bind_do, Outcome.pure_eq]
  · rw [List.length_append, List.length_append, writeInt8_length, length, three, Nat.add_assoc]

theorem writeEcmaArray_takes (count : Int32) {loop : Writer UInt8} {properties : List (List UInt8 × RtmpAmf0Any)}
    (takes : Takes loop (propertiesSize properties) (propertiesWritten properties)) :
    Takes (RtmpAmf0EcmaArray.write count loop) (RtmpAmf0Any.ecmaArray count properties).byteSize
      (RtmpAmf0Any.ecmaArray count properties).writtenSize := by
  have less := takes.1
  rw [RtmpAmf0Any.byteSize, RtmpAmf0Any.writtenSize]
  refine ⟨by omega, fun room enough => ?_⟩
  have roomy : ¬ room < 5 := by omega
  rcases takes.2 (room - 5) (by omega) with ⟨cells, written, length⟩
  rcases writeObjectEof_takes.2 (room - 5 - cells.length) (by omega) with ⟨eof, ended, three⟩
  refine ⟨writeInt8 rtmpAmf0EcmaArray ++ (writeInt32 count ++ (cells ++ eof)), ?_, ?_⟩
  · simp (disch := omega) only [RtmpAmf0EcmaArray.write, roomy, if_false, store_int8, store_int32, written,
      ended, Outcome.ok_bind_do, Outcome.pure_eq]
  · rw [List.length_append, List.length_append, List.length_append, writeInt8_length, writeInt32_length, length,
      three]
    omega

theorem writeStrictArray_takes (count : Int32) {loop : Writer UInt8} {properties : List RtmpAmf0Any}
    (takes : Takes loop (elementsSize properties) (elementsWritten properties)) :
    Takes (RtmpAmf0StrictArray.write count loop) (RtmpAmf0Any.strictArray count properties).byteSize
      (RtmpAmf0Any.strictArray count properties).writtenSize := by
  have less := takes.1
  rw [RtmpAmf0Any.byteSize, RtmpAmf0Any.writtenSize]
  refine ⟨by omega, fun room enough => ?_⟩
  have roomy : ¬ room < 5 := by omega
  rcases takes.2 (room - 5) (by omega) with ⟨cells, written, length⟩
  refine ⟨writeInt8 rtmpAmf0StrictArray ++ (writeInt32 count ++ cells), ?_, ?_⟩
  · simp (disch := omega) only [RtmpAmf0StrictArray.write, roomy, if_false, store_int8, store_int32, written,
      Outcome.ok_bind_do, Outcome.pure_eq]
  · rw [List.length_append, List.length_append, writeInt8_length, writeInt32_length, length]
    omega

theorem writeProperties_takes {rounds : Nat} {properties : List (List UInt8 × RtmpAmf0Any)}
    (enough : properties.length ≤ rounds)
    (each : forall part, part ∈ properties.map Prod.snd -> Takes part.write part.byteSize part.writtenSize) :
    Takes (writeProperties rounds properties) (propertiesSize properties) (propertiesWritten properties) := by
  induction properties generalizing rounds with
  | nil =>
      refine ⟨Nat.le_refl 0, fun _ _ => ⟨[], ?_, rfl⟩⟩
      cases rounds with
      | zero => rfl
      | succ rounds => rfl
  | cons property properties inductionHypothesis =>
      rcases property with ⟨name, value⟩
      rcases Nat.exists_eq_add_one_of_ne_zero (Nat.ne_zero_of_lt enough) with ⟨rounds, rfl⟩
      have key := writeUtf8_takes name
      have body : Takes value.write value.byteSize value.writtenSize := each value List.mem_cons_self
      have more := inductionHypothesis (Nat.le_of_succ_le_succ enough)
        fun part member => each part (List.mem_cons_of_mem _ member)
      have keyLess := key.1
      have bodyLess := body.1
      have moreLess := more.1
      rw [propertiesSize, propertiesWritten]
      refine ⟨by omega, fun room enough => ?_⟩
      rcases key.2 room (by omega) with ⟨cells, written, length⟩
      rcases body.2 (room - cells.length) (by omega) with ⟨cells', written', length'⟩
      rcases more.2 (room - cells.length - cells'.length) (by omega) with ⟨cells'', written'', length''⟩
      refine ⟨(cells ++ cells') ++ cells'', ?_, ?_⟩
      · simp only [writeProperties, written, written', written'', Outcome.ok_bind_do, Outcome.pure_eq]
      · rw [List.length_append, List.length_append, length, length', length'']

theorem writeElements_takes {rounds : Nat} {properties : List RtmpAmf0Any} (enough : properties.length ≤ rounds)
    (each : forall part, part ∈ properties -> Takes part.write part.byteSize part.writtenSize) :
    Takes (writeElements rounds properties) (elementsSize properties) (elementsWritten properties) := by
  induction properties generalizing rounds with
  | nil =>
      refine ⟨Nat.le_refl 0, fun _ _ => ⟨[], ?_, rfl⟩⟩
      cases rounds with
      | zero => rfl
      | succ rounds => rfl
  | cons value properties inductionHypothesis =>
      rcases Nat.exists_eq_add_one_of_ne_zero (Nat.ne_zero_of_lt enough) with ⟨rounds, rfl⟩
      have body := each value List.mem_cons_self
      have more := inductionHypothesis (Nat.le_of_succ_le_succ enough)
        fun part member => each part (List.mem_cons_of_mem _ member)
      have bodyLess := body.1
      have moreLess := more.1
      rw [elementsSize, elementsWritten]
      refine ⟨by omega, fun room enough => ?_⟩
      rcases body.2 room (by omega) with ⟨cells, written, length⟩
      rcases more.2 (room - cells.length) (by omega) with ⟨cells', written', length'⟩
      refine ⟨cells ++ cells', ?_, ?_⟩
      · simp only [writeElements, written, Outcome.errorAs_ok, written', Outcome.ok_bind_do, Outcome.pure_eq]
      · rw [List.length_append, length, length']

theorem RtmpAmf0Any.Counted.write_takes {value : RtmpAmf0Any} (counted : value.Counted) :
    Takes value.write value.byteSize value.writtenSize := by
  induction counted with
  | @intro value few _ parts =>
      have table {properties : List (List UInt8 × RtmpAmf0Any)} (few : (properties.map Prod.snd).length < 2 ^ 31)
          (each : forall part, part ∈ properties.map Prod.snd -> Takes part.write part.byteSize part.writtenSize) :
          Takes (writeProperties (loopRounds properties.length) properties) (propertiesSize properties)
            (propertiesWritten properties) := by
        rw [List.length_map] at few
        rw [loopRounds_of_lt few]
        exact writeProperties_takes (Nat.le_refl _) each
      cases value with
      | number value => exact .of_emits (writeNumber_emits value)
      | boolean value => exact .of_emits (writeBoolean_emits value)
      | string value => exact writeString_takes value
      | null => exact .of_emits (writeMarkerOnly_emits rtmpAmf0Null)
      | undefined => exact .of_emits (writeMarkerOnly_emits rtmpAmf0Undefined)
      | date value timeZone => exact .of_emits (writeDate_emits value timeZone)
      | objectEof => exact writeObjectEof_takes
      | object properties =>
          rw [write]
          exact writeObject_takes (table few parts)
      | ecmaArray count properties =>
          rw [write]
          exact writeEcmaArray_takes count (table few parts)
      | strictArray count properties =>
          have small : properties.length < 2 ^ 31 := few
          rw [write, loopRounds_of_lt small]
          exact writeStrictArray_takes count (writeElements_takes (Nat.le_refl _) parts)

/-- Every value is written within the size of what is reached. -/
theorem RtmpAmf0Any.write_takes (value : RtmpAmf0Any) :
    Takes value.write value.reached.byteSize value.reached.writtenSize := by
  have takes := Counted.write_takes value.counted_reached
  rwa [value.write_reached] at takes

/-! ## The round trip -/

/-- What `write` puts into a buffer with room for it is read back as the same
value, of exactly `total_size` bytes, whatever stands behind it, if its size is
an `int`. -/
theorem rtmpAmf0ReadAny_write {value : RtmpAmf0Any} (wellFormed : value.WellFormed) (inInt : value.byteSize < 2 ^ 31)
    {room : Nat} (fits : value.totalSize.toInt ≤ room) (trailing : List UInt8) :
    Exists fun bytes => value.write room = .ok bytes ∧ (bytes.length : Int) = value.totalSize.toInt ∧
      rtmpAmf0ReadAny (bytes ++ trailing) = .ok (bytes.length, value) := by
  have size := value.encoding_length
  have total := totalSize_toInt inInt
  refine ⟨value.encoding, ?_, ?_, rtmpAmf0ReadAny_recovers wellFormed trailing⟩
  · apply Short.emits (wellFormed_iff.mp wellFormed).1 inInt
    omega
  · rw [size, total]

/-- An object whose first property has the empty name and the value that is
written like an end marker, with containers and a date behind it. -/
theorem rtmpAmf0ReadAny_write_nested :
    let value := RtmpAmf0Any.object
      [([], .objectEof),
        ([0x61], .strictArray 2 [.number 0x3FF0000000000000, .ecmaArray (-5) [([], .string [0x00])]]),
        ([0x62], .date (-1) 7)]
    Exists fun bytes => value.write 100 = .ok bytes ∧ (bytes.length : Int) = value.totalSize.toInt ∧
      rtmpAmf0ReadAny (bytes ++ [0x00, 0x00, 0x09]) = .ok (bytes.length, value) := by
  intro value
  have wellFormed : value.WellFormed := by
    apply RtmpAmf0Any.WellFormed.object (by decide) (by decide)
    refine List.forall_mem_cons.mpr ⟨.objectEof, List.forall_mem_cons.mpr ⟨?_,
      List.forall_mem_cons.mpr ⟨.date (-1) 7, List.forall_mem_nil _⟩⟩⟩
    apply RtmpAmf0Any.WellFormed.strictArray rfl
    refine List.forall_mem_cons.mpr ⟨.number (by decide), List.forall_mem_cons.mpr ⟨?_,
      List.forall_mem_nil _⟩⟩
    apply RtmpAmf0Any.WellFormed.ecmaArray (-5) (by decide) (by decide)
    exact List.forall_mem_cons.mpr ⟨.string (by decide), List.forall_mem_nil _⟩
  exact rtmpAmf0ReadAny_write wellFormed (by decide) (by decide) [0x00, 0x00, 0x09]

theorem elementsSize_replicate (count : Nat) (value : RtmpAmf0Any) :
    elementsSize (List.replicate count value) = count * value.byteSize := by
  induction count with
  | zero => rw [List.replicate_zero, elementsSize, Nat.zero_mul]
  | succ count inductionHypothesis =>
      rw [List.replicate_succ, elementsSize, inductionHypothesis, Nat.succ_mul, Nat.add_comm]

/-- 65537 strings of 32767 bytes in a strict array: the sum of `total_size` is
past the largest `int`, and what is read is not a negative number of bytes. -/
theorem rtmpAmf0ReadAny_write_beyond :
    ¬ forall value : RtmpAmf0Any, value.WellFormed -> forall (room : Nat) (trailing : List UInt8),
      value.byteSize ≤ room -> Exists fun bytes => Exists fun ret => value.write room = .ok bytes ∧
        rtmpAmf0ReadAny (bytes ++ trailing) = .ok (ret, value) ∧ (ret : Int) = value.totalSize.toInt := by
  intro claimed
  have large : (RtmpAmf0Any.strictArray 65537 (List.replicate 65537 (.string (List.replicate 32767 0x61)))).byteSize =
      2147647495 := by
    rw [byteSize, elementsSize_replicate, byteSize, RtmpAmf0Size.str, RtmpAmf0Size.utf8, List.length_replicate]
  have wellFormed :
      (RtmpAmf0Any.strictArray 65537 (List.replicate 65537 (.string (List.replicate 32767 0x61)))).WellFormed := by
    refine .strictArray ?_ fun part member => ?_
    · rw [List.length_replicate]
      rfl
    · rw [List.eq_of_mem_replicate member]
      exact .string (Nat.le_of_eq List.length_replicate)
  have counted :
      (RtmpAmf0Any.strictArray 65537 (List.replicate 65537 (.string (List.replicate 32767 0x61)))).Counted := by
    refine .intro ?_ fun part member => ?_
    · rw [CountedHere, parts, List.length_replicate]
      decide
    · rw [List.eq_of_mem_replicate member]
      exact .leaf (Nat.two_pow_pos 31) rfl
  rcases claimed _ wellFormed _ [] (Nat.le_refl _) with ⟨_, ret, _, _, same⟩
  rw [totalSize_eq, Counted.reached_eq counted, large] at same
  have negative : (Int32.ofNat 2147647495).toInt < 0 := by decide
  omega

end Amf0
end RtmpClient
