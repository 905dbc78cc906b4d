import RtmpClient.Amf0.Write

namespace RtmpClient
namespace Amf0

open Library
open Net

/-!
# The bytes of a value

The grammar in the header comments, as a function from values to byte strings
that knows nothing of buffers and of `int`.  The writers of the source produce it
in every buffer where it fits, as far as their loops over items go.
-/

/-- `UTF-8 = U16 *(UTF8-char)`. -/
def utf8Encoding (value : List UInt8) : List UInt8 :=
  writeInt16 (Int16.ofNat value.length) ++ value

/-- `object-end-type = UTF-8-empty object-end-marker`. -/
def objectEofEncoding : List UInt8 := [0x00, 0x00, rtmpAmf0ObjectEnd.toUInt8]

mutual

/-- `value-type`, a marker and the contents. -/
def RtmpAmf0Any.encoding : RtmpAmf0Any -> List UInt8
  | .number value => writeInt8 rtmpAmf0Number ++ writeInt64 value.toInt64
  | .boolean value => writeInt8 rtmpAmf0Boolean ++ writeInt8 (if value then 0x01 else 0x00)
  | .string value => writeInt8 rtmpAmf0String ++ utf8Encoding value
  | .null => writeInt8 rtmpAmf0Null
  | .undefined => writeInt8 rtmpAmf0Undefined
  | .date value timeZone => writeInt8 rtmpAmf0Date ++ (writeInt64 value ++ writeInt16 timeZone)
  | .objectEof => objectEofEncoding
  | .object properties =>
      writeInt8 rtmpAmf0Object ++ (propertiesEncoding properties ++ objectEofEncoding)
  | .ecmaArray count properties =>
      writeInt8 rtmpAmf0EcmaArray ++
        (writeInt32 count ++ (propertiesEncoding properties ++ objectEofEncoding))
  | .strictArray count properties =>
      writeInt8 rtmpAmf0StrictArray ++ (writeInt32 count ++ elementsEncoding properties)

/-- `object-property = UTF-8 value-type`, repeated. -/
def propertiesEncoding : List (List UInt8 × RtmpAmf0Any) -> List UInt8
  | [] => []
  | (name, value) :: rest => (utf8Encoding name ++ value.encoding) ++ propertiesEncoding rest

/-- `value-type`, repeated. -/
def elementsEncoding : List RtmpAmf0Any -> List UInt8
  | [] => []
  | value :: rest => value.encoding ++ elementsEncoding rest

end

def propertyEncoding (property : List UInt8 × RtmpAmf0Any) : List UInt8 :=
  utf8Encoding property.1 ++ property.2.encoding

theorem propertiesEncoding_eq_flatMap (properties : List (List UInt8 × RtmpAmf0Any)) :
    propertiesEncoding properties = properties.flatMap propertyEncoding := by
  induction properties with
  | nil => rw [propertiesEncoding, List.flatMap_nil]
  | cons property properties inductionHypothesis =>
      rw [propertiesEncoding, inductionHypothesis, List.flatMap_cons, propertyEncoding]

theorem elementsEncoding_eq_flatMap (properties : List RtmpAmf0Any) :
    elementsEncoding properties = properties.flatMap RtmpAmf0Any.encoding := by
  induction properties with
  | nil => rw [elementsEncoding, List.flatMap_nil]
  | cons value properties inductionHypothesis =>
      rw [elementsEncoding, inductionHypothesis, List.flatMap_cons]

/-! ## Sizes -/

theorem utf8Encoding_length (value : List UInt8) :
    (utf8Encoding value).length = RtmpAmf0Size.utf8 value := by
  rw [utf8Encoding, List.length_append, writeInt16_length, RtmpAmf0Size.utf8]

theorem objectEofEncoding_length : objectEofEncoding.length = RtmpAmf0Size.objectEof := rfl

mutual

/-- The bytes of the encoding. -/
theorem RtmpAmf0Any.encoding_length : (value : RtmpAmf0Any) ->
    value.encoding.length = value.byteSize
  | .number _ => by
      simp only [RtmpAmf0Any.encoding, RtmpAmf0Any.byteSize, List.length_append, writeInt8_length, writeInt64_length,
        RtmpAmf0Size.number]
  | .boolean _ => by
      simp only [RtmpAmf0Any.encoding, RtmpAmf0Any.byteSize, List.length_append, writeInt8_length, RtmpAmf0Size.boolean]
  | .string _ => by
      simp only [RtmpAmf0Any.encoding, RtmpAmf0Any.byteSize, List.length_append, writeInt8_length, utf8Encoding_length,
        RtmpAmf0Size.str]
  | .null => by simp only [RtmpAmf0Any.encoding, RtmpAmf0Any.byteSize, writeInt8_length, RtmpAmf0Size.null]
  | .undefined => by simp only [RtmpAmf0Any.encoding, RtmpAmf0Any.byteSize, writeInt8_length, RtmpAmf0Size.undefined]
  | .date _ _ => by
      simp only [RtmpAmf0Any.encoding, RtmpAmf0Any.byteSize, List.length_append, writeInt8_length, writeInt16_length,
        writeInt64_length, RtmpAmf0Size.date]
  | .objectEof => by simp only [RtmpAmf0Any.encoding, RtmpAmf0Any.byteSize, objectEofEncoding_length]
  | .object properties => by
      simp only [RtmpAmf0Any.encoding, RtmpAmf0Any.byteSize, List.length_append, writeInt8_length,
        objectEofEncoding_length, propertiesEncoding_length properties, Nat.add_assoc]
  | .ecmaArray _ properties => by
      simp only [RtmpAmf0Any.encoding, RtmpAmf0Any.byteSize, List.length_append, writeInt8_length, writeInt32_length,
        objectEofEncoding_length, propertiesEncoding_length properties, Nat.add_assoc]
  | .strictArray _ properties => by
      simp only [RtmpAmf0Any.encoding, RtmpAmf0Any.byteSize, List.length_append, writeInt8_length, writeInt32_length,
        elementsEncoding_length properties, Nat.add_assoc]

theorem propertiesEncoding_length : (properties : List (List UInt8 × RtmpAmf0Any)) ->
    (propertiesEncoding properties).length = propertiesSize properties
  | [] => rfl
  | (name, value) :: rest => by
      rw [propertiesEncoding, propertiesSize, List.length_append, List.length_append,
        utf8Encoding_length, value.encoding_length, propertiesEncoding_length rest]

theorem elementsEncoding_length : (properties : List RtmpAmf0Any) ->
    (elementsEncoding properties).length = elementsSize properties
  | [] => rfl
  | value :: rest => by
      rw [elementsEncoding, elementsSize, List.length_append, value.encoding_length,
        elementsEncoding_length rest]

end

/-! ## What the writers produce -/

/-- A length of at most 32767 survives the cast to 16 bits. -/
theorem toInt_length {value : List UInt8} (fits : value.length ≤ 32767) :
    (Int16.ofNat value.length).toInt = value.length :=
  Int16.toInt_ofNat_of_lt (Nat.lt_succ_of_le fits)

theorem writeUtf8_emits {value : List UInt8} (fits : value.length ≤ 32767) :
    Emits (rtmpAmf0WriteUtf8 value) (utf8Encoding value) := by
  intro room enough
  rw [utf8Encoding_length, RtmpAmf0Size.utf8] at enough
  have roomy : ¬ (room : Int) < 2 + (value.length : Int) := by omega
  have head : store room (writeInt16 (Int16.ofNat value.length)) = .ok _ :=
    store_of_le (by rw [writeInt16_length]; omega)
  rw [rtmpAmf0WriteUtf8]
  simp only [toInt_length fits, roomy, if_false, head, Outcome.ok_bind_do, Outcome.pure_eq]
  by_cases empty : (value.length : Int) ≤ 0
  · have none : value = [] := List.eq_nil_of_length_eq_zero (by omega)
    rw [if_pos empty, utf8Encoding, none, List.append_nil]
  · have body : store (room - 2) value = .ok value := store_of_le (by omega)
    rw [if_neg empty, Int.toNat_natCast, List.take_length, body, utf8Encoding]
    rfl

theorem store_int8 {room : Nat} (value : Int8) (fits : 1 ≤ room) :
    store room (writeInt8 value) = .ok (writeInt8 value) :=
  store_of_le (Nat.le_trans (Nat.le_of_eq (writeInt8_length value)) fits)

theorem store_int16 {room : Nat} (value : Int16) (fits : 2 ≤ room) :
    store room (writeInt16 value) = .ok (writeInt16 value) :=
  store_of_le (Nat.le_trans (Nat.le_of_eq (writeInt16_length value)) fits)

theorem store_int32 {room : Nat} (value : Int32) (fits : 4 ≤ room) :
    store room (writeInt32 value) = .ok (writeInt32 value) :=
  store_of_le (Nat.le_trans (Nat.le_of_eq (writeInt32_length value)) fits)

theorem store_int64 {room : Nat} (value : Int64) (fits : 8 ≤ room) :
    store room (writeInt64 value) = .ok (writeInt64 value) :=
  store_of_le (Nat.le_trans (Nat.le_of_eq (writeInt64_length value)) fits)

theorem writeNumber_emits (value : UInt64) :
    Emits (rtmpAmf0WriteNumber value) (RtmpAmf0Any.number value).encoding := by
  intro room enough
  have size : 9 ≤ room := by rwa [RtmpAmf0Any.encoding_length, RtmpAmf0Any.byteSize] at enough
  have roomy : ¬ room < 9 := Nat.not_lt_of_le size
  simp (disch := omega) only [rtmpAmf0WriteNumber, roomy, if_false, store_int8, store_int64,
    Outcome.ok_bind_do, Outcome.pure_eq, RtmpAmf0Any.encoding]

theorem writeBoolean_emits (value : Bool) :
    Emits (rtmpAmf0WriteBoolean value) (RtmpAmf0Any.boolean value).encoding := by
  intro room enough
  have size : 2 ≤ room := by rwa [RtmpAmf0Any.encoding_length, RtmpAmf0Any.byteSize] at enough
  have roomy : ¬ room < 2 := Nat.not_lt_of_le size
  simp (disch := omega) only [rtmpAmf0WriteBoolean, roomy, if_false, store_int8,
    Outcome.ok_bind_do, Outcome.pure_eq, RtmpAmf0Any.encoding]

theorem writeString_emits {value : List UInt8} (fits : value.length ≤ 32767) :
    Emits (rtmpAmf0WriteString value) (RtmpAmf0Any.string value).encoding := by
  intro room enough
  rw [RtmpAmf0Any.encoding_length, RtmpAmf0Any.byteSize, RtmpAmf0Size.str] at enough
  have roomy : ¬ room < 1 := by omega
  have body := writeUtf8_emits fits (room - 1) (by rw [utf8Encoding_length]; omega)
  simp (disch := omega) only [rtmpAmf0WriteString, roomy, if_false, store_int8, body,
    Outcome.ok_bind_do, Outcome.pure_eq, RtmpAmf0Any.encoding]

theorem writeMarkerOnly_emits (marker : Int8) : Emits (writeMarkerOnly marker) (writeInt8 marker) := by
  intro room enough
  rw [writeInt8_length] at enough
  have roomy : ¬ room < 1 := Nat.not_lt_of_le enough
  rw [writeMarkerOnly, if_neg roomy, store_int8 marker enough]

theorem writeDate_emits (value : Int64) (timeZone : Int16) :
    Emits (RtmpAmf0Date.write value timeZone) (RtmpAmf0Any.date value timeZone).encoding := by
  intro room enough
  have size : 11 ≤ room := by rwa [RtmpAmf0Any.encoding_length, RtmpAmf0Any.byteSize] at enough
  have roomy : ¬ room < 11 := Nat.not_lt_of_le size
  simp (disch := omega) only [RtmpAmf0Date.write, roomy, if_false, store_int8, store_int16,
    store_int64, Outcome.ok_bind_do, Outcome.pure_eq, RtmpAmf0Any.encoding]

theorem writeObjectEof_emits : Emits RtmpAmf0ObjectEof.write objectEofEncoding := by
  intro room enough
  have roomy : ¬ room < 3 := Nat.not_lt_of_le enough
  rw [RtmpAmf0ObjectEof.write, if_neg roomy]
  exact store_of_le enough

/-! ## The loops and the containers -/

theorem writeProperties_emits {rounds : Nat} {properties : List (List UInt8 × RtmpAmf0Any)}
    (enough : properties.length ≤ rounds)
    (fit : forall property, property ∈ properties -> property.1.length ≤ 32767)
    (values : forall property, property ∈ properties -> Emits property.2.write property.2.encoding) :
    Emits (writeProperties rounds properties) (propertiesEncoding properties) := by
  induction properties generalizing rounds with
  | nil =>
      intro room _
      cases rounds with
      | zero => rw [writeProperties, propertiesEncoding]
      | succ rounds => rw [writeProperties, propertiesEncoding]
  | cons property properties inductionHypothesis =>
      rcases property with ⟨name, value⟩
      rcases Nat.exists_eq_add_one_of_ne_zero (Nat.ne_zero_of_lt enough) with ⟨rounds, rfl⟩
      have rest := inductionHypothesis (Nat.le_of_succ_le_succ enough)
        (fun later member => fit later (List.mem_cons_of_mem _ member))
        (fun later member => values later (List.mem_cons_of_mem _ member))
      intro room enough
      rw [propertiesEncoding, List.length_append, List.length_append] at enough
      have fitName : name.length ≤ 32767 := fit (name, value) List.mem_cons_self
      have emits : Emits value.write value.encoding := values (name, value) List.mem_cons_self
      have key := writeUtf8_emits fitName room (by omega)
      have body := emits (room - (utf8Encoding name).length) (by omega)
      have more := rest (room - (utf8Encoding name).length - value.encoding.length) (by omega)
      simp only [writeProperties, key, body, more, Outcome.ok_bind_do, Outcome.pure_eq,
        propertiesEncoding]

theorem writeElements_emits {rounds : Nat} {properties : List RtmpAmf0Any} (enough : properties.length ≤ rounds)
    (values : forall value, value ∈ properties -> Emits value.write value.encoding) :
    Emits (writeElements rounds properties) (elementsEncoding properties) := by
  induction properties generalizing rounds with
  | nil =>
      intro room _
      cases rounds with
      | zero => rw [writeElements, elementsEncoding]
      | succ rounds => rw [writeElements, elementsEncoding]
  | cons value properties inductionHypothesis =>
      rcases Nat.exists_eq_add_one_of_ne_zero (Nat.ne_zero_of_lt enough) with ⟨rounds, rfl⟩
      have rest := inductionHypothesis (Nat.le_of_succ_le_succ enough)
        (fun later member => values later (List.mem_cons_of_mem value member))
      intro room enough
      rw [elementsEncoding, List.length_append] at enough
      have body := values value List.mem_cons_self room (by omega)
      have more := rest (room - value.encoding.length) (by omega)
      simp only [writeElements, body, Outcome.errorAs_ok, more, Outcome.ok_bind_do, Outcome.pure_eq,
        elementsEncoding]

theorem writeObject_emits {loop : Writer UInt8} {properties : List (List UInt8 × RtmpAmf0Any)}
    (emits : Emits loop (propertiesEncoding properties)) :
    Emits (RtmpAmf0Object.write loop) (RtmpAmf0Any.object properties).encoding := by
  intro room enough
  rw [RtmpAmf0Any.encoding, List.length_append, List.length_append, writeInt8_length] at enough
  have roomy : ¬ room < 1 := by omega
  have body := emits (room - 1) (by omega)
  have eof := writeObjectEof_emits (room - 1 - (propertiesEncoding properties).length) (by omega)
  simp (disch := omega) only [RtmpAmf0Object.write, roomy, if_false, store_int8, body, eof,
    Outcome.ok_bind_do, Outcome.pure_eq, RtmpAmf0Any.encoding]

theorem writeEcmaArray_emits (count : Int32) {loop : Writer UInt8} {properties : List (List UInt8 × RtmpAmf0Any)}
    (emits : Emits loop (propertiesEncoding properties)) :
    Emits (RtmpAmf0EcmaArray.write count loop) (RtmpAmf0Any.ecmaArray count properties).encoding := by
  intro room enough
  rw [RtmpAmf0Any.encoding, List.length_append, List.length_append, List.length_append,
    writeInt8_length, writeInt32_length] at enough
  have roomy : ¬ room < 5 := by omega
  have body := emits (room - 5) (by omega)
  have eof := writeObjectEof_emits (room - 5 - (propertiesEncoding properties).length) (by omega)
  simp (disch := omega) only [RtmpAmf0EcmaArray.write, roomy, if_false, store_int8, store_int32,
    body, eof, Outcome.ok_bind_do, Outcome.pure_eq, RtmpAmf0Any.encoding]

theorem writeStrictArray_emits (count : Int32) {loop : Writer UInt8} {properties : List RtmpAmf0Any}
    (emits : Emits loop (elementsEncoding properties)) :
    Emits (RtmpAmf0StrictArray.write count loop) (RtmpAmf0Any.strictArray count properties).encoding := by
  intro room enough
  rw [RtmpAmf0Any.encoding, List.length_append, List.length_append, writeInt8_length,
    writeInt32_length] at enough
  have roomy : ¬ room < 5 := by omega
  have body := emits (room - 5) (by omega)
  simp (disch := omega) only [RtmpAmf0StrictArray.write, roomy, if_false, store_int8, store_int32,
    body, Outcome.ok_bind_do, Outcome.pure_eq, RtmpAmf0Any.encoding]

end Amf0
end RtmpClient
