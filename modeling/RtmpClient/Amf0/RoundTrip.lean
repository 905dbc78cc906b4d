import RtmpClient.Amf0.Discovery

namespace RtmpClient
namespace Amf0

open Library
open Net

/-!
# Reading back what was written

Each reader recovers the encoding of its kind, whatever follows.  For the
containers this needs only that the values inside are recovered, so that one
induction over the well formed values settles `rtmp_amf0_read_any`.
-/

/-! ## Values without parts -/

theorem readInt8_head (marker : Int8) (rest : List UInt8) :
    readInt8 (writeInt8 marker ++ rest) 0 = .ok marker :=
  readInt8_write marker [] rest

theorem readInt32_behind (marker : Int8) (value : Int32) (rest : List UInt8) :
    readInt32 (writeInt8 marker ++ (writeInt32 value ++ rest)) 1 = .ok value :=
  readInt32_write value (writeInt8 marker) rest

theorem readInt64_behind (marker : Int8) (value : Int64) (rest : List UInt8) :
    readInt64 (writeInt8 marker ++ (writeInt64 value ++ rest)) 1 = .ok value :=
  readInt64_write value (writeInt8 marker) rest

/-- The length checks of the readers let every encoding pass. -/
theorem not_short (value : RtmpAmf0Any) (rest : List UInt8) {width : Nat}
    (small : width ≤ value.byteSize) : ¬ (value.encoding ++ rest).length < width := by
  rw [List.length_append, value.encoding_length]
  omega

/-- A string whose length has 16 bits and no sign is read back; an empty one
leaves what the variable held. -/
theorem readUtf8_held_recovers (held : List UInt8) {value : List UInt8} (fits : value.length ≤ 32767) :
    Recovers (rtmpAmf0ReadUtf8 held) (utf8Encoding value) (if value = [] then held else value) := by
  intro rest
  have size : (utf8Encoding value ++ rest).length = 2 + value.length + rest.length := by
    rw [List.length_append, utf8Encoding_length, RtmpAmf0Size.utf8]
  have roomy : ¬ (utf8Encoding value ++ rest).length < 2 := by omega
  have length : readInt16 (utf8Encoding value ++ rest) 0 = .ok (Int16.ofNat value.length) := by
    rw [utf8Encoding, List.append_assoc]
    exact readInt16_write (Int16.ofNat value.length) [] (value ++ rest)
  rw [rtmpAmf0ReadUtf8, if_neg roomy, length, utf8Encoding_length, RtmpAmf0Size.utf8]
  simp only [Outcome.ok_bind_do, toInt_length fits, Int.toNat_natCast]
  by_cases empty : (value.length : Int) ≤ 0
  · have none : value = [] := List.eq_nil_of_length_eq_zero (by omega)
    rw [if_pos empty, if_pos none, none, List.length_nil]
  · have some : value ≠ [] := by
      intro none
      rw [none] at empty
      exact empty (Int.le_refl 0)
    have inside : ¬ ((utf8Encoding value ++ rest).length : Int) - 2 < (value.length : Int) := by
      omega
    have body : Outcome.slice (utf8Encoding value ++ rest) 2 value.length = .ok value := by
      rw [utf8Encoding, List.append_assoc]
      exact Outcome.slice_middle (writeInt16 (Int16.ofNat value.length)) value rest
    rw [if_neg empty, if_neg some, if_neg inside, body]
    rfl

theorem ite_nil_self (value : List UInt8) : (if value = [] then [] else value) = value := by
  by_cases none : value = []
  · rw [if_pos none, none]
  · rw [if_neg none]

/-- A fresh variable takes any string. -/
theorem readUtf8_recovers {value : List UInt8} (fits : value.length ≤ 32767) :
    Recovers (rtmpAmf0ReadUtf8 []) (utf8Encoding value) value := by
  have recovers := readUtf8_held_recovers [] fits
  rwa [ite_nil_self] at recovers

theorem readNumber_recovers (value : UInt64) :
    Recovers rtmpAmf0ReadNumber (RtmpAmf0Any.number value).encoding value := by
  intro rest
  have roomy := not_short (.number value) rest (Nat.le_refl 9)
  rw [rtmpAmf0ReadNumber, if_neg roomy, RtmpAmf0Any.encoding_length, RtmpAmf0Any.encoding,
    List.append_assoc, readInt8_head, readInt64_behind]
  rfl

theorem readBoolean_recovers (value : Bool) :
    Recovers rtmpAmf0ReadBoolean (RtmpAmf0Any.boolean value).encoding value := by
  intro rest
  cases value with
  | false => rfl
  | true => rfl

theorem readString_held_recovers (held : List UInt8) {value : List UInt8} (fits : value.length ≤ 32767) :
    Recovers (rtmpAmf0ReadString held) (RtmpAmf0Any.string value).encoding
      (if value = [] then held else value) := by
  intro rest
  have roomy := not_short (.string value) rest (Nat.le_add_right 1 _)
  rw [rtmpAmf0ReadString, if_neg roomy, RtmpAmf0Any.encoding, List.append_assoc, readInt8_head]
  have body := (readUtf8_held_recovers held fits).behind (writeInt8 rtmpAmf0String) rest
  rw [writeInt8_length] at body
  simp only [Outcome.ok_bind_do, ne_eq, not_true_eq_false, if_false, body, List.length_append,
    writeInt8_length, Outcome.pure_eq]

theorem readString_recovers {value : List UInt8} (fits : value.length ≤ 32767) :
    Recovers (rtmpAmf0ReadString []) (RtmpAmf0Any.string value).encoding value := by
  have recovers := readString_held_recovers [] fits
  rwa [ite_nil_self] at recovers

theorem readMarkerOnly_recovers (marker : Int8) :
    Recovers (readMarkerOnly marker) (writeInt8 marker) () := by
  intro rest
  have roomy : ¬ (writeInt8 marker ++ rest).length < 1 := by
    rw [List.length_append, writeInt8_length]
    omega
  rw [readMarkerOnly, if_neg roomy, readInt8_head, writeInt8_length]
  simp only [Outcome.ok_bind_do, ne_eq, not_true_eq_false, if_false, Outcome.pure_eq]

theorem readDate_recovers (value : Int64) (timeZone : Int16) :
    Recovers RtmpAmf0Date.read (RtmpAmf0Any.date value timeZone).encoding (value, timeZone) := by
  intro rest
  have roomy := not_short (.date value timeZone) rest (Nat.le_refl 11)
  have zone := readInt16_write timeZone (writeInt8 rtmpAmf0Date ++ writeInt64 value) rest
  rw [List.length_append, writeInt8_length, writeInt64_length, List.append_assoc] at zone
  rw [RtmpAmf0Date.read, if_neg roomy, RtmpAmf0Any.encoding_length, RtmpAmf0Any.encoding,
    List.append_assoc, List.append_assoc, readInt8_head, readInt64_behind, zone]
  rfl

theorem readObjectEof_recovers : Recovers RtmpAmf0ObjectEof.read objectEofEncoding () := by
  intro rest
  have roomy : ¬ (objectEofEncoding ++ rest).length < 3 := by
    rw [List.length_append, objectEofEncoding_length, RtmpAmf0Size.objectEof]
    omega
  have zero : readInt16 (objectEofEncoding ++ rest) 0 = .ok 0 := readInt16_write 0 [] _
  have marker : readInt8 (objectEofEncoding ++ rest) 2 = .ok rtmpAmf0ObjectEnd :=
    readInt8_write rtmpAmf0ObjectEnd [0x00, 0x00] rest
  rw [RtmpAmf0ObjectEof.read, if_neg roomy, zero]
  simp only [Outcome.ok_bind_do, ne_eq, not_true_eq_false, if_false, marker, Outcome.pure_eq,
    objectEofEncoding_length, RtmpAmf0Size.objectEof]

/-! ## The loops -/

/-- Before each round over properties: there are bytes left, and they do not
begin with the end marker. -/
def MoreProperties (remaining : List UInt8) : Prop :=
  0 < remaining.length ∧ rtmpAmf0IsObjectEof remaining = false

/-- Before each round over elements: there are bytes left. -/
def MoreElements (remaining : List UInt8) : Prop := 0 < remaining.length

variable {readAny : Reader UInt8 RtmpAmf0Any}

/-- A run of calls on properties is that many rounds of the loop. -/
theorem readProperties_of_reads {data : List UInt8} {offset finish : Nat}
    {entries : List (List UInt8 × RtmpAmf0Any)}
    (reads : Reads MoreProperties (readProperty readAny) data offset entries finish) (rounds : Nat)
    (table : UnSortedHashtable RtmpAmf0Any) :
    readProperties readAny data (entries.length + rounds) offset table =
      readProperties readAny data rounds finish
        (entries.foldl (fun table entry => table.set entry.1 (some entry.2)) table) := by
  induction reads generalizing table with
  | done offset => rw [List.length_nil, Nat.zero_add, List.foldl_nil]
  | @next offset width finish entry entries guarded head tail inductionHypothesis =>
      rcases guarded with ⟨nonempty, notEof⟩
      rw [List.length_drop] at nonempty
      have inside : offset < data.length := by omega
      have count : (entry :: entries).length + rounds = (entries.length + rounds) + 1 := by
        rw [List.length_cons]
        omega
      rw [count, readProperties, if_pos inside, notEof, if_neg Bool.false_ne_true, head,
        List.foldl_cons]
      exact inductionHypothesis (table.set entry.1 (some entry.2))

/-- The end marker ends the loop. -/
theorem readProperties_objectEof (readAny : Reader UInt8 RtmpAmf0Any) (before rest : List UInt8) (rounds : Nat)
    (table : UnSortedHashtable RtmpAmf0Any) :
    readProperties readAny (before ++ (objectEofEncoding ++ rest)) (rounds + 1) before.length table =
      .ok (before.length + RtmpAmf0Size.objectEof, table) := by
  have inside : before.length < (before ++ (objectEofEncoding ++ rest)).length := by
    rw [List.length_append, List.length_append, objectEofEncoding_length, RtmpAmf0Size.objectEof]
    omega
  rw [readProperties, if_pos inside, List.drop_left, if_pos (isObjectEof_objectEofEncoding rest),
    readObjectEof_recovers rest]
  rfl

theorem readElements_of_reads {data : List UInt8} {offset finish : Nat} {values : List RtmpAmf0Any}
    (reads : Reads MoreElements readAny data offset values finish) (remaining : Nat)
    (elements : List RtmpAmf0Any) :
    readElements readAny data (values.length + remaining) offset elements =
      readElements readAny data remaining finish (elements ++ values) := by
  induction reads generalizing elements with
  | done offset => rw [List.length_nil, Nat.zero_add, List.append_nil]
  | @next offset width finish value values guarded head tail inductionHypothesis =>
      rw [MoreElements, List.length_drop] at guarded
      have inside : offset < data.length := by omega
      have count : (value :: values).length + remaining = (values.length + remaining) + 1 := by
        rw [List.length_cons]
        omega
      have later := inductionHypothesis (elements ++ [value])
      rw [List.append_assoc, List.singleton_append] at later
      rw [count, readElements, if_pos inside, head]
      exact later

/-- Properties that stand one behind another take a round each, whatever
follows them. -/
theorem readProperties_behind {properties : List (List UInt8 × RtmpAmf0Any)}
    (fit : forall property, property ∈ properties -> property.1.length ≤ 32767)
    (recovers : forall property, property ∈ properties ->
      Recovers readAny property.2.encoding property.2)
    (before rest : List UInt8) (rounds : Nat) :
    readProperties readAny (before ++ (propertiesEncoding properties ++ rest)) (properties.length + rounds)
        before.length [] =
      readProperties readAny (before ++ (propertiesEncoding properties ++ rest)) rounds
        (before.length + propertiesSize properties)
        (properties.foldl (fun table entry => table.set entry.1 (some entry.2)) []) := by
  have guarded : forall property, property ∈ properties -> forall more,
      MoreProperties (propertyEncoding property ++ more) := by
    intro property member more
    refine ⟨?_, notEof_of_property (fit property member) more⟩
    rw [propertyEncoding, List.length_append, List.length_append, utf8Encoding_length,
      RtmpAmf0Size.utf8]
    omega
  have pairs : forall property, property ∈ properties ->
      Recovers (readProperty readAny) (propertyEncoding property) property :=
    fun property member => (readUtf8_recovers (fit property member)).pair (recovers property member)
  have reads := Reads.of_recovers propertyEncoding properties guarded pairs before rest
  rw [← propertiesEncoding_eq_flatMap, propertiesEncoding_length] at reads
  exact readProperties_of_reads reads rounds []

/-- The loop over properties stops behind the end marker with the properties
that were written, in their order. -/
theorem readProperties_encoding {properties : List (List UInt8 × RtmpAmf0Any)}
    (fit : forall property, property ∈ properties -> property.1.length ≤ 32767)
    (distinct : (UnSortedHashtable.keys properties).Nodup)
    (recovers : forall property, property ∈ properties ->
      Recovers readAny property.2.encoding property.2)
    (before rest : List UInt8) {rounds : Nat} (enough : properties.length < rounds) :
    readProperties readAny (before ++ (propertiesEncoding properties ++ (objectEofEncoding ++ rest)))
        rounds before.length [] =
      .ok (before.length + propertiesSize properties + RtmpAmf0Size.objectEof, properties) := by
  have last := readProperties_objectEof readAny
    (before ++ propertiesEncoding properties) rest (rounds - properties.length - 1) properties
  rw [List.length_append, propertiesEncoding_length, List.append_assoc] at last
  have split : rounds = properties.length + (rounds - properties.length - 1 + 1) := by omega
  rw [split, readProperties_behind fit recovers, UnSortedHashtable.foldl_set properties [] distinct,
    List.nil_append]
  exact last

theorem encoding_pos (value : RtmpAmf0Any) : 0 < value.encoding.length := by
  rcases encoding_head value with ⟨marker, tail, starts, -⟩
  rw [starts, List.length_cons]
  exact Nat.succ_pos tail.length

/-- Elements that stand one behind another take a round each, whatever
follows them. -/
theorem readElements_behind {properties : List RtmpAmf0Any}
    (recovers : forall value, value ∈ properties -> Recovers readAny value.encoding value)
    (before rest : List UInt8) (remaining : Nat) :
    readElements readAny (before ++ (elementsEncoding properties ++ rest)) (properties.length + remaining)
        before.length [] =
      readElements readAny (before ++ (elementsEncoding properties ++ rest)) remaining
        (before.length + elementsSize properties) properties := by
  have guarded : forall value, value ∈ properties -> forall more,
      MoreElements (value.encoding ++ more) := by
    intro value _ more
    rw [MoreElements, List.length_append]
    exact Nat.add_pos_left (encoding_pos value) more.length
  have reads := Reads.of_recovers RtmpAmf0Any.encoding properties guarded recovers before rest
  rw [← elementsEncoding_eq_flatMap, elementsEncoding_length] at reads
  exact readElements_of_reads reads remaining []

/-- The loop over elements stops behind the announced number of them. -/
theorem readElements_encoding {properties : List RtmpAmf0Any}
    (recovers : forall value, value ∈ properties -> Recovers readAny value.encoding value)
    (before rest : List UInt8) :
    readElements readAny (before ++ (elementsEncoding properties ++ rest)) properties.length
        before.length [] =
      .ok (before.length + elementsSize properties, properties) :=
  readElements_behind recovers before rest 0

/-! ## The containers -/

/-- No more properties than bytes, so that the rounds of the loop suffice. -/
theorem length_le_propertiesSize (properties : List (List UInt8 × RtmpAmf0Any)) :
    properties.length ≤ propertiesSize properties := by
  have count := length_le_flatMap propertyEncoding properties fun property _ => by
    rw [propertyEncoding, List.length_append]
    exact Nat.add_pos_right _ (encoding_pos property.2)
  rwa [← propertiesEncoding_eq_flatMap, propertiesEncoding_length] at count

theorem readPropertyValue_recovers {value : RtmpAmf0Any} {bytes : List UInt8} (recovers : Recovers readAny bytes value) :
    Recovers (readPropertyValue readAny) bytes value := fun rest => readPropertyValue_eq_ok.mpr (recovers rest)

theorem readObject_recovers {properties : List (List UInt8 × RtmpAmf0Any)}
    (fit : forall property, property ∈ properties -> property.1.length ≤ 32767)
    (distinct : (UnSortedHashtable.keys properties).Nodup)
    (recovers : forall property, property ∈ properties ->
      Recovers readAny property.2.encoding property.2) :
    Recovers (RtmpAmf0Object.read readAny []) (RtmpAmf0Any.object properties).encoding properties := by
  intro rest
  have size : ((RtmpAmf0Any.object properties).encoding ++ rest).length =
      1 + propertiesSize properties + 3 + rest.length := by
    rw [List.length_append, RtmpAmf0Any.encoding_length, RtmpAmf0Any.byteSize,
      RtmpAmf0Size.objectEof]
  have roomy : ¬ ((RtmpAmf0Any.object properties).encoding ++ rest).length < 1 := by omega
  have enough : properties.length < ((RtmpAmf0Any.object properties).encoding ++ rest).length := by
    have count := length_le_propertiesSize properties
    omega
  have each : forall property, property ∈ properties ->
      Recovers (readPropertyValue readAny) property.2.encoding property.2 :=
    fun property member => readPropertyValue_recovers (recovers property member)
  have loop := readProperties_encoding fit distinct each (writeInt8 rtmpAmf0Object) rest enough
  rw [writeInt8_length] at loop
  rw [RtmpAmf0Object.read, if_neg roomy, RtmpAmf0Any.encoding_length, RtmpAmf0Any.byteSize]
  rw [RtmpAmf0Any.encoding, List.append_assoc, List.append_assoc] at loop ⊢
  rw [readInt8_head]
  exact loop

theorem readEcmaArray_recovers (count : Int32) {properties : List (List UInt8 × RtmpAmf0Any)}
    (fit : forall property, property ∈ properties -> property.1.length ≤ 32767)
    (distinct : (UnSortedHashtable.keys properties).Nodup)
    (recovers : forall property, property ∈ properties ->
      Recovers readAny property.2.encoding property.2) :
    Recovers (RtmpAmf0EcmaArray.read readAny []) (RtmpAmf0Any.ecmaArray count properties).encoding
      (count, properties) := by
  intro rest
  have size : ((RtmpAmf0Any.ecmaArray count properties).encoding ++ rest).length =
      1 + 4 + propertiesSize properties + 3 + rest.length := by
    rw [List.length_append, RtmpAmf0Any.encoding_length, RtmpAmf0Any.byteSize,
      RtmpAmf0Size.objectEof]
  have roomy : ¬ ((RtmpAmf0Any.ecmaArray count properties).encoding ++ rest).length < 5 := by omega
  have enough : properties.length <
      ((RtmpAmf0Any.ecmaArray count properties).encoding ++ rest).length := by
    have count := length_le_propertiesSize properties
    omega
  have loop := readProperties_encoding fit distinct recovers
    (writeInt8 rtmpAmf0EcmaArray ++ writeInt32 count) rest enough
  have header : (writeInt8 rtmpAmf0EcmaArray ++ writeInt32 count).length = 5 := by
    rw [List.length_append, writeInt8_length, writeInt32_length]
  rw [header, List.append_assoc] at loop
  rw [RtmpAmf0EcmaArray.read, if_neg roomy, RtmpAmf0Any.encoding_length, RtmpAmf0Any.byteSize]
  rw [RtmpAmf0Any.encoding, List.append_assoc, List.append_assoc, List.append_assoc] at loop ⊢
  rw [readInt8_head, readInt32_behind]
  simp only [Outcome.ok_bind_do, ne_eq, not_true_eq_false, if_false, loop, Outcome.pure_eq]

theorem readStrictArray_recovers {count : Int32} {properties : List RtmpAmf0Any}
    (announced : count.toInt.toNat = properties.length)
    (recovers : forall value, value ∈ properties -> Recovers readAny value.encoding value) :
    Recovers (RtmpAmf0StrictArray.read readAny [])
      (RtmpAmf0Any.strictArray count properties).encoding (count, properties) := by
  intro rest
  have roomy := not_short (.strictArray count properties) rest (Nat.le_add_right 5 _)
  have loop := readElements_encoding recovers (writeInt8 rtmpAmf0StrictArray ++ writeInt32 count) rest
  rw [List.length_append, writeInt8_length, writeInt32_length, List.append_assoc] at loop
  rw [RtmpAmf0StrictArray.read, if_neg roomy, RtmpAmf0Any.encoding_length, RtmpAmf0Any.byteSize,
    RtmpAmf0Any.encoding, List.append_assoc, List.append_assoc, readInt8_head, readInt32_behind]
  simp only [Outcome.ok_bind_do, ne_eq, not_true_eq_false, if_false, announced, loop, Outcome.pure_eq]

/-! ## The whole value -/

/-- What stands inside a container is shorter than the container. -/
theorem part_length_lt {value part : RtmpAmf0Any} (member : part ∈ value.parts) :
    part.encoding.length < value.encoding.length := by
  have inTable {properties : List (List UInt8 × RtmpAmf0Any)} (member : part ∈ properties.map Prod.snd) :
      part.encoding.length ≤ propertiesSize properties := by
    rcases List.mem_map.mp member with ⟨property, present, rfl⟩
    have whole := length_encode_le propertyEncoding present
    rw [← propertiesEncoding_eq_flatMap, propertiesEncoding_length, propertyEncoding,
      List.length_append] at whole
    omega
  rw [value.encoding_length]
  cases value with
  | object properties =>
      have within := inTable member
      rw [RtmpAmf0Any.byteSize]
      omega
  | ecmaArray count properties =>
      have within := inTable member
      rw [RtmpAmf0Any.byteSize]
      omega
  | strictArray count properties =>
      have whole : part.encoding.length ≤ (properties.flatMap RtmpAmf0Any.encoding).length :=
        length_encode_le RtmpAmf0Any.encoding member
      rw [← elementsEncoding_eq_flatMap, elementsEncoding_length] at whole
      rw [RtmpAmf0Any.byteSize]
      omega
  | _ => cases member

/-- A fresh instance reads itself, if the reader it calls recovers its parts. -/
theorem freshRead_recovers {value : RtmpAmf0Any} (wellFormed : value.WellFormed)
    (inside : forall part, part ∈ value.parts -> Recovers readAny part.encoding part) :
    Recovers (value.fresh.read readAny) value.encoding value := by
  cases wellFormed with
  | @number value notEof => exact (readNumber_recovers value).map RtmpAmf0Any.number
  | boolean value => exact (readBoolean_recovers value).map RtmpAmf0Any.boolean
  | string fits => exact (readString_recovers fits).map RtmpAmf0Any.string
  | null => exact (readMarkerOnly_recovers rtmpAmf0Null).map fun _ => RtmpAmf0Any.null
  | undefined => exact (readMarkerOnly_recovers rtmpAmf0Undefined).map fun _ => RtmpAmf0Any.undefined
  | date value timeZone =>
      exact (readDate_recovers value timeZone).map fun parts => RtmpAmf0Any.date parts.1 parts.2
  | objectEof => exact readObjectEof_recovers.map fun _ => RtmpAmf0Any.objectEof
  | object fit distinct values =>
      have each := fun property member => inside (Prod.snd property) (List.mem_map_of_mem member)
      exact (readObject_recovers fit distinct each).map RtmpAmf0Any.object
  | ecmaArray count fit distinct values =>
      have each := fun property member => inside (Prod.snd property) (List.mem_map_of_mem member)
      exact (readEcmaArray_recovers count fit distinct each).map
        fun parts => RtmpAmf0Any.ecmaArray parts.1 parts.2
  | strictArray announced values =>
      exact (readStrictArray_recovers announced inside).map
        fun parts => RtmpAmf0Any.strictArray parts.1 parts.2

/-- One call of `rtmp_amf0_read_any`: discovery makes the instance, which then
reads itself. -/
theorem readAnyWithin_succ_recovers {value : RtmpAmf0Any} {depth : Nat}
    (wellFormed : value.WellFormed)
    (inside : forall part, part ∈ value.parts -> Recovers (readAnyWithin depth) part.encoding part) :
    Recovers (readAnyWithin (depth + 1)) value.encoding value := by
  intro rest
  rw [readAnyWithin, discovery_encoding wellFormed rest, Outcome.errorAs_ok, Outcome.ok_bind_do,
    freshRead_recovers wellFormed inside rest, Outcome.errorAs_ok]

/-- A depth that is no less than the length of the encoding suffices, because
what stands inside a container is shorter than the container. -/
theorem RtmpAmf0Any.WellFormed.recovers {value : RtmpAmf0Any} (wellFormed : value.WellFormed) :
    forall depth, value.encoding.length ≤ depth + 1 ->
      Recovers (readAnyWithin (depth + 1)) value.encoding value := by
  intro depth
  induction depth generalizing value with
  | zero =>
      intro enough
      apply readAnyWithin_succ_recovers wellFormed
      intro part member
      have shorter := part_length_lt member
      have nonempty := encoding_pos part
      omega
  | succ depth inductionHypothesis =>
      intro enough
      apply readAnyWithin_succ_recovers wellFormed
      intro part member
      have shorter := part_length_lt member
      exact inductionHypothesis (wellFormed.inside part member) (by omega)

/-- `rtmp_amf0_read_any` finds a well formed value at the front of any buffer
that begins with its encoding. -/
theorem rtmpAmf0ReadAny_recovers {value : RtmpAmf0Any} (wellFormed : value.WellFormed) :
    Recovers rtmpAmf0ReadAny value.encoding value := by
  intro rest
  have enough : value.encoding.length ≤ (value.encoding ++ rest).length + 1 := by
    rw [List.length_append]
    omega
  exact wellFormed.recovers (value.encoding ++ rest).length enough rest

end Amf0
end RtmpClient
