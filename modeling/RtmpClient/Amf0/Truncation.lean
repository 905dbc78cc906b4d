import RtmpClient.Amf0.Legible
import RtmpClient.Amf0.Room
import RtmpClient.Amf0.Verdict

namespace RtmpClient
namespace Amf0

open Library
open Net
open RtmpAmf0Any

/-!
# Values that break off

What `rtmp_amf0_read_any` makes of the beginning of an encoding.  Nothing that
stops inside a name or a value without parts is read.  But the loops of the
containers also end where the bytes do: a container that stops where its next
item would begin is taken for a whole one, at any depth.
-/

mutual

/-- The bytes that are left of a value which stops where a container in it
would go on with its next item or its end marker. -/
inductive BreaksOff : RtmpAmf0Any -> List UInt8 -> Prop where
  | object {properties : List (List UInt8 × RtmpAmf0Any)} {part : List UInt8}
      (inside : PropertiesBreakOff properties part) :
      BreaksOff (.object properties) (writeInt8 rtmpAmf0Object ++ part)
  | ecmaArray (count : Int32) {properties : List (List UInt8 × RtmpAmf0Any)} {part : List UInt8}
      (inside : PropertiesBreakOff properties part) :
      BreaksOff (.ecmaArray count properties) (writeInt8 rtmpAmf0EcmaArray ++ (writeInt32 count ++ part))
  | strictArray (count : Int32) {properties : List RtmpAmf0Any} {part : List UInt8}
      (inside : ElementsBreakOff properties part) :
      BreaksOff (.strictArray count properties) (writeInt8 rtmpAmf0StrictArray ++ (writeInt32 count ++ part))

inductive PropertiesBreakOff : List (List UInt8 × RtmpAmf0Any) -> List UInt8 -> Prop where
  | between (done more : List (List UInt8 × RtmpAmf0Any)) :
      PropertiesBreakOff (done ++ more) (propertiesEncoding done)
  | inside (done more : List (List UInt8 × RtmpAmf0Any)) (name : List UInt8) {value : RtmpAmf0Any}
      {part : List UInt8} (cut : BreaksOff value part) :
      PropertiesBreakOff (done ++ (name, value) :: more) (propertiesEncoding done ++ (utf8Encoding name ++ part))

/-- An array that announces how many elements it has can only stop before one
of them. -/
inductive ElementsBreakOff : List RtmpAmf0Any -> List UInt8 -> Prop where
  | between (done more : List RtmpAmf0Any) (value : RtmpAmf0Any) :
      ElementsBreakOff (done ++ value :: more) (elementsEncoding done)
  | inside (done more : List RtmpAmf0Any) {value : RtmpAmf0Any} {part : List UInt8}
      (cut : BreaksOff value part) :
      ElementsBreakOff (done ++ value :: more) (elementsEncoding done ++ part)

end

/-! ## Discovery of what is left -/

/-- No end marker appears where bytes are taken away behind. -/
theorem notEof_of_begins {cut cells : List UInt8} (begins : List.IsPrefix cut cells)
    (notEof : rtmpAmf0IsObjectEof cells = false) : rtmpAmf0IsObjectEof cut = false := by
  rcases begins with ⟨rest, rfl⟩
  rcases cut with _ | ⟨first, _ | ⟨second, _ | ⟨third, cut⟩⟩⟩
  · rfl
  · rfl
  · rfl
  · exact notEof

theorem objectEof_beginnings {cut : List UInt8} (broken : CutOff cut objectEofEncoding) :
    cut = [] ∨ cut = [0x00] ∨ cut = [0x00, 0x00] := by
  have short : cut.length < 3 := broken.length_lt
  rcases cut with _ | ⟨first, _ | ⟨second, _ | ⟨third, cut⟩⟩⟩
  · exact Or.inl rfl
  · rcases List.cons_prefix_cons.mp broken.1 with ⟨rfl, -⟩
    exact Or.inr (Or.inl rfl)
  · rcases List.cons_prefix_cons.mp broken.1 with ⟨rfl, tail⟩
    rcases List.cons_prefix_cons.mp tail with ⟨rfl, -⟩
    exact Or.inr (Or.inr rfl)
  · simp only [List.length_cons] at short
    omega

theorem notEof_encoding {value : RtmpAmf0Any} (wellFormed : value.WellFormed) (different : value ≠ .objectEof) :
    rtmpAmf0IsObjectEof value.encoding = false := by
  cases wellFormed with
  | number notEof => exact notEof_of_begins (List.prefix_append _ []) (notEof_of_number notEof [])
  | objectEof => exact absurd rfl different
  | _ => exact notEof_of_first _ (by decide)

/-- One byte is enough to know the subclass. -/
theorem discovery_cut {value : RtmpAmf0Any} (wellFormed : value.WellFormed) (different : value ≠ .objectEof)
    {cut : List UInt8} (nonempty : cut ≠ []) (begins : List.IsPrefix cut value.encoding) :
    RtmpAmf0Any.discovery cut = .ok value.fresh := by
  have notEof := notEof_of_begins begins (notEof_encoding wellFormed different)
  cases cut with
  | nil => exact absurd rfl nonempty
  | cons cell tail =>
      cases wellFormed with
      | objectEof => exact absurd rfl different
      | _ =>
          rcases List.cons_prefix_cons.mp begins with ⟨rfl, -⟩
          exact discovery_of_notEof notEof rfl

theorem readAny_nil : (rtmpAmf0ReadAny []).Refused := ⟨-1, rfl, by decide⟩

/-- What the instance does not read is not read. -/
theorem readAny_fails {value : RtmpAmf0Any} (wellFormed : value.WellFormed) (different : value ≠ .objectEof)
    {cut : List UInt8} (begins : List.IsPrefix cut value.encoding)
    (fails : cut ≠ [] -> (value.fresh.read rtmpAmf0ReadAny cut).Fails) : (rtmpAmf0ReadAny cut).Fails := by
  by_cases none : cut = []
  · rw [none]
    exact readAny_nil.fails
  · rw [rtmpAmf0ReadAny_eq, discovery_cut wellFormed different none begins]
    exact (fails none).errorAs

/-! ## Values without parts -/

theorem readUtf8_cut (held : List UInt8) {value cut : List UInt8} (fits : value.length ≤ 32767)
    (broken : CutOff cut (utf8Encoding value)) : (rtmpAmf0ReadUtf8 held cut).Refused := by
  rcases broken.append with inLength | ⟨part, rfl, inBytes⟩
  · exact Outcome.refused_of_short (Nat.lt_of_lt_of_eq inLength.length_lt (writeInt16_length _))
  · have short := inBytes.length_lt
    have size : (writeInt16 (Int16.ofNat value.length) ++ part).length = 2 + part.length := by
      rw [List.length_append, writeInt16_length]
    have long : ¬ (writeInt16 (Int16.ofNat value.length) ++ part).length < 2 := by omega
    have announced : readInt16 (writeInt16 (Int16.ofNat value.length) ++ part) 0 = .ok (Int16.ofNat value.length) :=
      readInt16_write (Int16.ofNat value.length) [] part
    have some : ¬ (value.length : Int) ≤ 0 := by omega
    have missing : ((writeInt16 (Int16.ofNat value.length) ++ part).length : Int) - 2 < (value.length : Int) := by
      omega
    rw [rtmpAmf0ReadUtf8, if_neg long, announced]
    simp only [Outcome.ok_bind_do, toInt_length fits, if_neg some, if_pos missing]
    exact Outcome.refused_error (by decide)

theorem readString_cut {value cut : List UInt8} (fits : value.length ≤ 32767)
    (broken : CutOff cut (RtmpAmf0Any.string value).encoding) : (rtmpAmf0ReadString [] cut).Refused := by
  rw [RtmpAmf0Any.encoding] at broken
  rcases broken.append with inMarker | ⟨part, rfl, inText⟩
  · exact Outcome.refused_of_short (Nat.lt_of_lt_of_eq inMarker.length_lt (writeInt8_length _))
  · have long : ¬ (writeInt8 rtmpAmf0String ++ part).length < 1 := Nat.not_lt_of_le (Nat.le_add_left 1 part.length)
    rw [rtmpAmf0ReadString, if_neg long, readInt8_head]
    exact (readUtf8_cut [] fits inText).bind

/-- Behind a read that fails the object deletes what is deleted, but reads
nothing. -/
theorem readPropertyValue_fails {readAny : Reader UInt8 RtmpAmf0Any} {data : List UInt8} (fails : (readAny data).Fails) :
    (readPropertyValue readAny data).Fails := fun found read => fails found (readPropertyValue_eq_ok.mp read)

/-! ## The loops -/

section Loops

variable {readAny : Reader UInt8 RtmpAmf0Any}

/-- The least number of bytes before which a property is not whole. -/
theorem readProperty_cut {name : List UInt8} {value : RtmpAmf0Any} {part : List UInt8} (fits : name.length ≤ 32767)
    (inner : forall cut, CutOff cut value.encoding -> BreaksOff value cut ∨ (readAny cut).Fails)
    (broken : CutOff part (propertyEncoding (name, value))) :
    (Exists fun cut => part = utf8Encoding name ++ cut ∧ BreaksOff value cut) ∨
      (readProperty readAny part).Fails := by
  rcases broken.append with inName | ⟨cut, rfl, inValue⟩
  · exact Or.inr (readUtf8_cut [] fits inName).bind.fails
  · rcases inner cut inValue with accepted | fails
    · exact Or.inl ⟨cut, rfl, accepted⟩
    · refine Or.inr ?_
      have head := readUtf8_recovers fits cut
      simp only [readProperty, readPair, head, Outcome.ok_bind_do, List.drop_left]
      exact fails.bind

/-- One or two bytes of the end marker are an empty name without a value. -/
theorem readProperty_objectEof_cut (none : (readAny []).Fails) {part : List UInt8}
    (broken : CutOff part objectEofEncoding) : (readProperty readAny part).Fails := by
  rcases objectEof_beginnings broken with rfl | rfl | rfl
  · exact (show (readProperty readAny []).Refused from ⟨-1, rfl, by decide⟩).fails
  · exact (show (readProperty readAny [0x00]).Refused from ⟨-1, rfl, by decide⟩).fails
  · exact none.bind

/-- The round in which the bytes break off. -/
theorem readProperties_round {properties : List (List UInt8 × RtmpAmf0Any)}
    (fit : forall property, property ∈ properties -> property.1.length ≤ 32767)
    (recovers : forall property, property ∈ properties -> Recovers readAny property.2.encoding property.2) (before : List UInt8)
    {part : List UInt8} (nonempty : part ≠ []) (notEof : rtmpAmf0IsObjectEof part = false) {rounds : Nat}
    (enough : properties.length < rounds) :
    readProperties readAny (before ++ (propertiesEncoding properties ++ part)) rounds before.length [] =
      (do
        let (ret, property) ← readProperty readAny part
        readProperties readAny (before ++ (propertiesEncoding properties ++ part))
          (rounds - properties.length - 1) (before.length + propertiesSize properties + ret)
          (UnSortedHashtable.set (properties.foldl (fun table entry => UnSortedHashtable.set table entry.1 (some entry.2)) [])
            property.1 (some property.2))) := by
  have split : rounds = properties.length + (rounds - properties.length - 1 + 1) := by omega
  have length := propertiesEncoding_length properties
  have inside : before.length + propertiesSize properties <
      (before ++ (propertiesEncoding properties ++ part)).length := by
    have some := List.length_pos_of_ne_nil nonempty
    rw [List.length_append, List.length_append]
    omega
  have rest : (before ++ (propertiesEncoding properties ++ part)).drop (before.length + propertiesSize properties) =
      part := by
    rw [← length, ← List.length_append, ← List.append_assoc, List.drop_left]
  conv_lhs => rw [split]
  rw [readProperties_behind fit fun property member => recovers property member]
  rw [readProperties, if_pos inside, rest, notEof, if_neg Bool.false_ne_true]

/-- At its end the loop stops, whatever the number of rounds. -/
theorem readProperties_atEnd {data : List UInt8} (readAny : Reader UInt8 RtmpAmf0Any) (rounds : Nat)
    (table : UnSortedHashtable RtmpAmf0Any) :
    readProperties readAny data rounds data.length table = .ok (data.length, table) := by
  have ended : ¬ data.length < data.length := Nat.lt_irrefl _
  cases rounds with
  | zero => rw [readProperties, if_neg ended]
  | succ rounds => rw [readProperties, if_neg ended]

/-- There are rounds left at the round in which the bytes break off. -/
theorem rounds_left (properties : List (List UInt8 × RtmpAmf0Any)) (before : List UInt8) {part : List UInt8}
    (nonempty : part ≠ []) :
    properties.length < (before ++ (propertiesEncoding properties ++ part)).length := by
  have count := length_le_propertiesSize properties
  have some := List.length_pos_of_ne_nil nonempty
  rw [List.length_append, List.length_append, propertiesEncoding_length]
  omega

theorem readProperties_cut {properties : List (List UInt8 × RtmpAmf0Any)}
    (fit : forall property, property ∈ properties -> property.1.length ≤ 32767)
    (recovers : forall property, property ∈ properties -> Recovers readAny property.2.encoding property.2)
    (empty : (readAny []).Fails) (inner : forall property, property ∈ properties -> forall cut, CutOff cut property.2.encoding ->
      BreaksOff property.2 cut ∨ (readAny cut).Fails) {part : List UInt8}
    (broken : CutOff part (propertiesEncoding properties ++ objectEofEncoding)) (before : List UInt8) :
    PropertiesBreakOff properties part ∨
      (readProperties readAny (before ++ part) (before ++ part).length before.length []).Fails := by
  rw [propertiesEncoding_eq_flatMap] at broken
  rcases broken.flatMap with ⟨done, ⟨name, value⟩, more, piece, rfl, rfl, inside⟩ | ⟨piece, rfl, inside⟩
  · have early : forall property, property ∈ done -> property ∈ done ++ (name, value) :: more := fun property member =>
      List.mem_append_left _ member
    have here : (name, value) ∈ done ++ (name, value) :: more :=
      List.mem_append_right done List.mem_cons_self
    rw [← propertiesEncoding_eq_flatMap]
    by_cases none : piece = []
    · rw [none, List.append_nil]
      exact Or.inl (.between done _)
    · rcases readProperty_cut (fit _ here) (inner _ here) inside with ⟨cut, rfl, accepted⟩ | fails
      · exact Or.inl (.inside done more name accepted)
      · refine Or.inr ?_
        have notEof := notEof_of_begins inside.1 (notEof_of_begins (List.prefix_append _ [])
          (notEof_of_property (fit _ here) []))
        rw [readProperties_round (fun property member => fit property (early property member))
          (fun property member => recovers property (early property member)) before none notEof
          (rounds_left done before none)]
        exact fails.bind
  · rw [← propertiesEncoding_eq_flatMap]
    by_cases none : piece = []
    · have all := PropertiesBreakOff.between properties []
      rw [List.append_nil] at all
      rw [none, List.append_nil]
      exact Or.inl all
    · refine Or.inr ?_
      rw [readProperties_round fit recovers before none (notEof_of_short inside.length_lt)
        (rounds_left properties before none)]
      exact (readProperty_objectEof_cut empty inside).bind

/-- A container inside of a property does not begin like the rest of an end
marker. -/
theorem notEof_of_breaksOff {name cut : List UInt8} {value : RtmpAmf0Any} (fits : name.length ≤ 32767)
    (accepted : BreaksOff value cut) : rtmpAmf0IsObjectEof (utf8Encoding name ++ cut) = false := by
  cases name with
  | nil =>
      cases accepted with
      | _ => exact notEof_of_cells _ fun cells => absurd cells.2.2 (by decide)
  | cons head tail => exact notEof_of_name fits cut

theorem readProperties_breaksOff {properties : List (List UInt8 × RtmpAmf0Any)}
    (fit : forall property, property ∈ properties -> property.1.length ≤ 32767)
    (recovers : forall property, property ∈ properties -> Recovers readAny property.2.encoding property.2)
    (accepts : forall property, property ∈ properties -> forall cut, BreaksOff property.2 cut ->
      Exists fun read => readAny cut = .ok (cut.length, read)) {part : List UInt8}
    (breaksOff : PropertiesBreakOff properties part) (before : List UInt8) :
    Exists fun table =>
      readProperties readAny (before ++ part) (before ++ part).length before.length [] =
        .ok ((before ++ part).length, table) := by
  cases breaksOff with
  | between done more =>
      have recoversDone := fun property member => recovers property (List.mem_append_left more member)
      have fitDone := fun property member => fit property (List.mem_append_left more member)
      have count := length_le_propertiesSize done
      have size : (before ++ propertiesEncoding done).length = before.length + propertiesSize done := by
        rw [List.length_append, propertiesEncoding_length]
      have split : (before ++ propertiesEncoding done).length =
          done.length + ((before ++ propertiesEncoding done).length - done.length) := by omega
      have read := readProperties_behind fitDone recoversDone before []
        ((before ++ propertiesEncoding done).length - done.length)
      rw [List.append_nil, ← split, ← size, readProperties_atEnd] at read
      exact ⟨_, read⟩
  | @inside done more name value cut accepted =>
      have here : (name, value) ∈ done ++ (name, value) :: more :=
        List.mem_append_right done List.mem_cons_self
      rcases accepts (name, value) here cut accepted with ⟨read, found⟩
      have nonempty : utf8Encoding name ++ cut ≠ [] := by
        apply List.ne_nil_of_length_pos
        rw [List.length_append, utf8Encoding_length, RtmpAmf0Size.utf8]
        omega
      have head := readUtf8_recovers (fit (name, value) here) cut
      have one : readProperty readAny (utf8Encoding name ++ cut) =
          .ok ((utf8Encoding name ++ cut).length, (name, read)) := by
        simp only [readProperty, readPair, head, Outcome.ok_bind_do, List.drop_left, found, Outcome.pure_eq,
          List.length_append]
      have size : (before ++ (propertiesEncoding done ++ (utf8Encoding name ++ cut))).length =
          before.length + propertiesSize done + (utf8Encoding name ++ cut).length := by
        simp only [List.length_append, propertiesEncoding_length, Nat.add_assoc]
      rw [readProperties_round (fun property member => fit property (List.mem_append_left _ member))
        (fun property member => recovers property (List.mem_append_left _ member)) before nonempty
        (notEof_of_breaksOff (fit (name, value) here) accepted) (rounds_left done before nonempty), one]
      simp only [Outcome.ok_bind_do, ← size, readProperties_atEnd]
      exact ⟨_, rfl⟩

end Loops

/-! ## Elements -/

theorem readElements_atEnd {data : List UInt8} (readAny : Reader UInt8 RtmpAmf0Any) (remaining : Nat)
    (elements : List RtmpAmf0Any) :
    readElements readAny data remaining data.length elements = .ok (data.length, elements) := by
  cases remaining with
  | zero => rfl
  | succ remaining => rw [readElements, if_neg (Nat.lt_irrefl _)]

/-- The round in which the bytes break off. -/
theorem readElements_round {properties : List RtmpAmf0Any}
    (values : forall value, value ∈ properties -> value.WellFormed) (before : List UInt8) {part : List UInt8}
    (nonempty : part ≠ []) (remaining : Nat) :
    readElements rtmpAmf0ReadAny (before ++ (elementsEncoding properties ++ part))
        (properties.length + (remaining + 1)) before.length [] =
      (do
        let (ret, elem) ← rtmpAmf0ReadAny part
        readElements rtmpAmf0ReadAny (before ++ (elementsEncoding properties ++ part)) remaining
          (before.length + elementsSize properties + ret) (properties ++ [elem])) := by
  have length := elementsEncoding_length properties
  have inside : before.length + elementsSize properties <
      (before ++ (elementsEncoding properties ++ part)).length := by
    have some := List.length_pos_of_ne_nil nonempty
    rw [List.length_append, List.length_append]
    omega
  have rest : (before ++ (elementsEncoding properties ++ part)).drop (before.length + elementsSize properties) =
      part := by
    rw [← length, ← List.length_append, ← List.append_assoc, List.drop_left]
  rw [readElements_behind fun value member => rtmpAmf0ReadAny_recovers (values value member)]
  rw [readElements, if_pos inside, rest]

theorem readElements_cut {properties : List RtmpAmf0Any}
    (values : forall value, value ∈ properties -> value.WellFormed)
    (inner : forall value, value ∈ properties -> forall cut, CutOff cut value.encoding ->
      BreaksOff value cut ∨ (rtmpAmf0ReadAny cut).Fails) {part : List UInt8}
    (broken : CutOff part (elementsEncoding properties)) (before : List UInt8) :
    ElementsBreakOff properties part ∨
      (readElements rtmpAmf0ReadAny (before ++ part) properties.length before.length []).Fails := by
  rw [elementsEncoding_eq_flatMap, ← List.append_nil (properties.flatMap _)] at broken
  rcases broken.flatMap with ⟨done, value, more, piece, rfl, rfl, inside⟩ | ⟨piece, rfl, inside⟩
  · have here : value ∈ done ++ value :: more := List.mem_append_right done List.mem_cons_self
    rw [← elementsEncoding_eq_flatMap]
    by_cases none : piece = []
    · rw [none, List.append_nil]
      exact Or.inl (.between done more value)
    · rcases inner value here piece inside with accepted | fails
      · exact Or.inl (.inside done more accepted)
      · refine Or.inr ?_
        have count : (done ++ value :: more).length = done.length + (more.length + 1) := by
          rw [List.length_append, List.length_cons]
        rw [count, readElements_round (fun value member => values value (List.mem_append_left _ member)) before none]
        exact fails.bind
  · exact inside.not_nil.elim

theorem readElements_breaksOff {properties : List RtmpAmf0Any}
    (values : forall value, value ∈ properties -> value.WellFormed)
    (accepts : forall value, value ∈ properties -> forall cut, BreaksOff value cut ->
      Exists fun read => rtmpAmf0ReadAny cut = .ok (cut.length, read)) {part : List UInt8}
    (breaksOff : ElementsBreakOff properties part) (before : List UInt8) :
    Exists fun elements =>
      readElements rtmpAmf0ReadAny (before ++ part) properties.length before.length [] =
        .ok ((before ++ part).length, elements) := by
  cases breaksOff with
  | between done more value =>
      have recovers := fun value member => rtmpAmf0ReadAny_recovers (values value (List.mem_append_left _ member))
      have size : (before ++ elementsEncoding done).length = before.length + elementsSize done := by
        rw [List.length_append, elementsEncoding_length]
      have read := readElements_behind recovers before [] (value :: more).length
      rw [List.append_nil, ← size, readElements_atEnd, ← List.length_append] at read
      exact ⟨_, read⟩
  | @inside done more value cut accepted =>
      have here : value ∈ done ++ value :: more := List.mem_append_right done List.mem_cons_self
      rcases accepts value here cut accepted with ⟨read, found⟩
      have nonempty : cut ≠ [] := by
        cases accepted with
        | _ => exact List.cons_ne_nil _ _
      have size : (before ++ (elementsEncoding done ++ cut)).length =
          before.length + elementsSize done + cut.length := by
        simp only [List.length_append, elementsEncoding_length, Nat.add_assoc]
      have count : (done ++ value :: more).length = done.length + (more.length + 1) := by
        rw [List.length_append, List.length_cons]
      rw [count, readElements_round (fun value member => values value (List.mem_append_left _ member)) before nonempty,
        found]
      simp only [Outcome.ok_bind_do, ← size, readElements_atEnd]
      exact ⟨_, rfl⟩

/-! ## The whole value -/

theorem readAny_object (part : List UInt8) :
    rtmpAmf0ReadAny (writeInt8 rtmpAmf0Object ++ part) =
      (do
        let (ret, table) ← readProperties (readPropertyValue rtmpAmf0ReadAny) (writeInt8 rtmpAmf0Object ++ part)
          (writeInt8 rtmpAmf0Object ++ part).length (writeInt8 rtmpAmf0Object).length []
        return (ret, .object table) : Outcome (Nat × RtmpAmf0Any)).errorAs (-1) := by
  have discovered : RtmpAmf0Any.discovery (writeInt8 rtmpAmf0Object ++ part) = .ok (.object []) :=
    discovery_of_notEof (notEof_of_first _ (by decide)) rfl
  have long : ¬ (writeInt8 rtmpAmf0Object ++ part).length < 1 := Nat.not_lt_of_le (Nat.le_add_left 1 part.length)
  rw [rtmpAmf0ReadAny_eq, discovered]
  simp only [Outcome.errorAs_ok, Outcome.ok_bind_do, RtmpAmf0Any.read, RtmpAmf0Object.read, if_neg long,
    readInt8_head, ne_eq, not_true_eq_false, if_false, writeInt8_length]

theorem readAny_ecmaArray (count : Int32) (part : List UInt8) :
    rtmpAmf0ReadAny (writeInt8 rtmpAmf0EcmaArray ++ writeInt32 count ++ part) =
      (do
        let (ret, table) ← readProperties rtmpAmf0ReadAny (writeInt8 rtmpAmf0EcmaArray ++ writeInt32 count ++ part)
          (writeInt8 rtmpAmf0EcmaArray ++ writeInt32 count ++ part).length
          (writeInt8 rtmpAmf0EcmaArray ++ writeInt32 count).length []
        return (ret, .ecmaArray count table) : Outcome (Nat × RtmpAmf0Any)).errorAs (-1) := by
  have discovered : RtmpAmf0Any.discovery (writeInt8 rtmpAmf0EcmaArray ++ writeInt32 count ++ part) =
      .ok (.ecmaArray 0 []) :=
    discovery_of_notEof (notEof_of_first _ (by decide)) rfl
  have long : ¬ (writeInt8 rtmpAmf0EcmaArray ++ writeInt32 count ++ part).length < 5 :=
    Nat.not_lt_of_le (Nat.le_add_left 5 part.length)
  have header : (writeInt8 rtmpAmf0EcmaArray ++ writeInt32 count).length = 5 := by
    rw [List.length_append, writeInt8_length, writeInt32_length]
  rw [rtmpAmf0ReadAny_eq, discovered, header]
  rw [List.append_assoc] at long ⊢
  simp only [Outcome.errorAs_ok, Outcome.ok_bind_do, RtmpAmf0Any.read, RtmpAmf0EcmaArray.read, if_neg long,
    readInt8_head, readInt32_behind, ne_eq, not_true_eq_false, if_false, Outcome.bind_bind, Outcome.pure_eq]

theorem readAny_strictArray (count : Int32) (part : List UInt8) :
    rtmpAmf0ReadAny (writeInt8 rtmpAmf0StrictArray ++ writeInt32 count ++ part) =
      (do
        let (ret, elements) ← readElements rtmpAmf0ReadAny
          (writeInt8 rtmpAmf0StrictArray ++ writeInt32 count ++ part) count.toInt.toNat
          (writeInt8 rtmpAmf0StrictArray ++ writeInt32 count).length []
        return (ret, .strictArray count elements) : Outcome (Nat × RtmpAmf0Any)).errorAs (-1) := by
  have discovered : RtmpAmf0Any.discovery (writeInt8 rtmpAmf0StrictArray ++ writeInt32 count ++ part) =
      .ok (.strictArray 0 []) :=
    discovery_of_notEof (notEof_of_first _ (by decide)) rfl
  have long : ¬ (writeInt8 rtmpAmf0StrictArray ++ writeInt32 count ++ part).length < 5 :=
    Nat.not_lt_of_le (Nat.le_add_left 5 part.length)
  have header : (writeInt8 rtmpAmf0StrictArray ++ writeInt32 count).length = 5 := by
    rw [List.length_append, writeInt8_length, writeInt32_length]
  rw [rtmpAmf0ReadAny_eq, discovered, header]
  rw [List.append_assoc] at long ⊢
  simp only [Outcome.errorAs_ok, Outcome.ok_bind_do, RtmpAmf0Any.read, RtmpAmf0StrictArray.read, if_neg long,
    readInt8_head, readInt32_behind, ne_eq, not_true_eq_false, if_false, Outcome.bind_bind, Outcome.pure_eq]

theorem cut_of_marker {cut : List UInt8} {marker : Int8} (broken : CutOff cut (writeInt8 marker)) : cut = [] :=
  List.eq_nil_of_length_eq_zero (Nat.lt_one_iff.mp (Nat.lt_of_lt_of_eq broken.length_lt (writeInt8_length marker)))

/-- A value that checks the length of the whole of it. -/
theorem leaf_cut {value : RtmpAmf0Any} (wellFormed : value.WellFormed) (different : value ≠ .objectEof)
    {cut : List UInt8} (broken : CutOff cut value.encoding)
    (check : cut.length < value.byteSize -> (value.fresh.read rtmpAmf0ReadAny cut).Fails) :
    BreaksOff value cut ∨ (rtmpAmf0ReadAny cut).Fails := by
  have short := broken.length_lt
  rw [value.encoding_length] at short
  exact Or.inr (readAny_fails wellFormed different broken.1 fun _ => check short)

/-- An array is refused before its count is whole. -/
theorem header_cut {value : RtmpAmf0Any} (wellFormed : value.WellFormed) (different : value ≠ .objectEof)
    {cut : List UInt8} {marker : Int8} {count : Int32} (broken : CutOff cut (writeInt8 marker ++ writeInt32 count))
    (begins : List.IsPrefix cut value.encoding)
    (check : cut.length < 5 -> (value.fresh.read rtmpAmf0ReadAny cut).Fails) : (rtmpAmf0ReadAny cut).Fails := by
  have short := broken.length_lt
  rw [List.length_append, writeInt8_length, writeInt32_length] at short
  exact readAny_fails wellFormed different begins fun _ => check short

/-- Where the beginning of a well formed value ends, a container breaks off, or
it is refused. -/
theorem cut_cases {value : RtmpAmf0Any} (wellFormed : value.WellFormed) : forall cut, CutOff cut value.encoding ->
    BreaksOff value cut ∨ (rtmpAmf0ReadAny cut).Fails := by
  induction wellFormed with
  | number notEof =>
      intro cut broken
      exact leaf_cut (.number notEof) RtmpAmf0Any.noConfusion broken fun short => (Outcome.refused_of_short short).bind.fails
  | boolean value =>
      intro cut broken
      exact leaf_cut (.boolean value) RtmpAmf0Any.noConfusion broken fun short => (Outcome.refused_of_short short).bind.fails
  | string fits =>
      intro cut broken
      exact leaf_cut (.string fits) RtmpAmf0Any.noConfusion broken fun _ => (readString_cut fits broken).bind.fails
  | null =>
      intro cut broken
      exact leaf_cut .null RtmpAmf0Any.noConfusion broken fun short => (Outcome.refused_of_short short).bind.fails
  | undefined =>
      intro cut broken
      exact leaf_cut .undefined RtmpAmf0Any.noConfusion broken fun short => (Outcome.refused_of_short short).bind.fails
  | date value timeZone =>
      intro cut broken
      exact leaf_cut (.date value timeZone) RtmpAmf0Any.noConfusion broken fun short =>
        (Outcome.refused_of_short short).bind.fails
  | objectEof =>
      intro cut broken
      refine Or.inr ?_
      -- one or two zero bytes are the beginning of a number
      rcases objectEof_beginnings broken with rfl | rfl | rfl
      · exact readAny_nil.fails
      · exact (show (rtmpAmf0ReadAny [0x00]).Refused from ⟨-1, rfl, by decide⟩).fails
      · exact (show (rtmpAmf0ReadAny [0x00, 0x00]).Refused from ⟨-1, rfl, by decide⟩).fails
  | object fit distinct values inductionHypothesis =>
      intro cut broken
      rw [RtmpAmf0Any.encoding] at broken
      rcases broken.append with inMarker | ⟨part, rfl, inside⟩
      · rw [cut_of_marker inMarker]
        exact Or.inr readAny_nil.fails
      · have recovers := fun property member =>
          readPropertyValue_recovers (rtmpAmf0ReadAny_recovers (values property member))
        have inner := fun property member cut broken =>
          (inductionHypothesis property member cut broken).imp_right readPropertyValue_fails
        rcases readProperties_cut fit recovers (readPropertyValue_fails readAny_nil.fails) inner inside
          (writeInt8 rtmpAmf0Object) with accepted | fails
        · exact Or.inl (.object accepted)
        · refine Or.inr ?_
          rw [readAny_object]
          exact fails.bind.errorAs
  | ecmaArray count fit distinct values inductionHypothesis =>
      intro cut broken
      have whole := broken
      rw [RtmpAmf0Any.encoding, ← List.append_assoc] at broken
      rcases broken.append with inHeader | ⟨part, rfl, inside⟩
      · exact Or.inr (header_cut (.ecmaArray count fit distinct values) RtmpAmf0Any.noConfusion inHeader whole.1
          fun short => (Outcome.refused_of_short short).bind.fails)
      · have recovers := fun property member => rtmpAmf0ReadAny_recovers (values property member)
        rcases readProperties_cut fit recovers readAny_nil.fails inductionHypothesis inside
          (writeInt8 rtmpAmf0EcmaArray ++ writeInt32 count) with accepted | fails
        · rw [List.append_assoc]
          exact Or.inl (.ecmaArray count accepted)
        · refine Or.inr ?_
          rw [readAny_ecmaArray]
          exact fails.bind.errorAs
  | @strictArray count properties announced values inductionHypothesis =>
      intro cut broken
      have whole := broken
      rw [RtmpAmf0Any.encoding, ← List.append_assoc] at broken
      rcases broken.append with inHeader | ⟨part, rfl, inside⟩
      · exact Or.inr (header_cut (.strictArray announced values) RtmpAmf0Any.noConfusion inHeader whole.1
          fun short => (Outcome.refused_of_short short).bind.fails)
      · rcases readElements_cut values inductionHypothesis inside
          (writeInt8 rtmpAmf0StrictArray ++ writeInt32 count) with accepted | fails
        · rw [List.append_assoc]
          exact Or.inl (.strictArray count accepted)
        · refine Or.inr ?_
          rw [readAny_strictArray, announced]
          exact fails.bind.errorAs

/-- A container that breaks off between its items is read as a whole one. -/
theorem breaksOff_accepted {value : RtmpAmf0Any} (wellFormed : value.WellFormed) : forall cut, BreaksOff value cut ->
    Exists fun read => rtmpAmf0ReadAny cut = .ok (cut.length, read) := by
  induction wellFormed with
  | @object properties fit distinct values inductionHypothesis =>
      intro cut breaksOff
      cases breaksOff with
      | object inside =>
          have recovers := fun property member =>
            readPropertyValue_recovers (rtmpAmf0ReadAny_recovers (values property member))
          have accepts : forall property, property ∈ properties -> forall cut, BreaksOff property.2 cut ->
              Exists fun read => readPropertyValue rtmpAmf0ReadAny cut = .ok (cut.length, read) := by
            intro property member cut breaksOff
            rcases inductionHypothesis property member cut breaksOff with ⟨read, found⟩
            exact ⟨read, readPropertyValue_eq_ok.mpr found⟩
          rcases readProperties_breaksOff fit recovers accepts inside (writeInt8 rtmpAmf0Object) with ⟨table, read⟩
          exact ⟨.object table, by rw [readAny_object, read]; rfl⟩
  | ecmaArray count fit distinct values inductionHypothesis =>
      intro cut breaksOff
      cases breaksOff with
      | ecmaArray _ inside =>
          have recovers := fun property member => rtmpAmf0ReadAny_recovers (values property member)
          rcases readProperties_breaksOff fit recovers inductionHypothesis inside
            (writeInt8 rtmpAmf0EcmaArray ++ writeInt32 count) with ⟨table, read⟩
          exact ⟨.ecmaArray count table, by rw [← List.append_assoc, readAny_ecmaArray, read]; rfl⟩
  | @strictArray count properties announced values inductionHypothesis =>
      intro cut breaksOff
      cases breaksOff with
      | strictArray _ inside =>
          rcases readElements_breaksOff values inductionHypothesis inside
            (writeInt8 rtmpAmf0StrictArray ++ writeInt32 count) with ⟨elements, read⟩
          exact ⟨.strictArray count elements, by
            rw [← List.append_assoc, readAny_strictArray, announced, read]; rfl⟩
  | _ =>
      intro cut breaksOff
      cases breaksOff

/-- The values of which no beginning is taken for a whole value: no container
but an array without elements, and no number that begins like an end marker. -/
def RtmpAmf0Any.Unbreakable : RtmpAmf0Any -> Prop
  | .number value => value >>> 48 ≠ 0x0009
  | .object _ => False
  | .ecmaArray _ _ => False
  | .strictArray _ properties => properties = []
  | _ => True

theorem RtmpAmf0Any.Unbreakable.legible {value : RtmpAmf0Any} (unbreakable : value.Unbreakable) : value.Legible := by
  cases value with
  | number value => exact .leaf unbreakable rfl
  | object properties => exact unbreakable.elim
  | ecmaArray count properties => exact unbreakable.elim
  | strictArray count properties => exact .leaf trivial unbreakable
  | _ => exact .leaf trivial rfl

theorem RtmpAmf0Any.Unbreakable.not_breaksOff {value : RtmpAmf0Any} (unbreakable : value.Unbreakable)
    {cut : List UInt8} (breaksOff : BreaksOff value cut) : False := by
  cases breaksOff with
  | object inside => exact unbreakable
  | ecmaArray count inside => exact unbreakable
  | strictArray count inside =>
      have none : _ = [] := unbreakable
      cases inside with
      | between done more value => exact List.append_ne_nil_of_right_ne_nil done (List.cons_ne_nil _ _) none
      | inside done more cut => exact List.append_ne_nil_of_right_ne_nil done (List.cons_ne_nil _ _) none

/-- A header without anything behind it is a container without items. -/
theorem readAny_headers (count : Int32) :
    rtmpAmf0ReadAny (writeInt8 rtmpAmf0Object ++ []) = .ok (1, .object []) ∧
      rtmpAmf0ReadAny (writeInt8 rtmpAmf0EcmaArray ++ writeInt32 count ++ []) = .ok (5, .ecmaArray count []) ∧
      rtmpAmf0ReadAny (writeInt8 rtmpAmf0StrictArray ++ writeInt32 count ++ []) = .ok (5, .strictArray count []) := by
  refine ⟨?_, ?_, ?_⟩
  · rw [readAny_object, List.append_nil, readProperties_atEnd]
    rfl
  · rw [readAny_ecmaArray, List.append_nil, readProperties_atEnd]
    rfl
  · rw [readAny_strictArray, List.append_nil, readElements_atEnd]
    rfl

/-- Every other value has a beginning that is accepted. -/
theorem unbreakable_of_refused {value : RtmpAmf0Any}
    (refuses : forall cut, CutOff cut value.encoding -> (rtmpAmf0ReadAny cut).Refused) : value.Unbreakable := by
  cases value with
  | number value =>
      intro looksLikeEof
      have isEof := isObjectEof_of_number looksLikeEof []
      rw [List.append_nil] at isEof
      rcases begins_of_isObjectEof isEof with ⟨rest, begins⟩
      have some : rest ≠ [] := by
        intro none
        have size := (RtmpAmf0Any.number value).encoding_length
        rw [begins, none] at size
        cases size
      have refused := refuses objectEofEncoding (begins ▸ .of_append objectEofEncoding some)
      have accepted := rtmpAmf0ReadAny_recovers .objectEof []
      exact refused.not_ok accepted
  | object properties =>
      have refused := refuses _ (.of_append (writeInt8 rtmpAmf0Object)
        (List.append_ne_nil_of_right_ne_nil _ (List.cons_ne_nil _ _)))
      rw [← List.append_nil (writeInt8 rtmpAmf0Object)] at refused
      exact refused.not_ok (readAny_headers 0).1
  | ecmaArray count properties =>
      have encoding : (RtmpAmf0Any.ecmaArray count properties).encoding =
          (writeInt8 rtmpAmf0EcmaArray ++ writeInt32 count) ++ (propertiesEncoding properties ++ objectEofEncoding) := by
        rw [RtmpAmf0Any.encoding, List.append_assoc]
      rw [encoding] at refuses
      have refused := refuses _ (.of_append (writeInt8 rtmpAmf0EcmaArray ++ writeInt32 count)
        (List.append_ne_nil_of_right_ne_nil _ (List.cons_ne_nil _ _)))
      rw [← List.append_nil (_ ++ writeInt32 count)] at refused
      exact refused.not_ok (readAny_headers count).2.1
  | strictArray count properties =>
      show properties = []
      apply Classical.byContradiction
      intro some
      have encoding : (RtmpAmf0Any.strictArray count properties).encoding =
          (writeInt8 rtmpAmf0StrictArray ++ writeInt32 count) ++ elementsEncoding properties := by
        rw [RtmpAmf0Any.encoding, List.append_assoc]
      have elements : elementsEncoding properties ≠ [] := by
        rcases List.exists_cons_of_ne_nil some with ⟨value, more, rfl⟩
        exact List.append_ne_nil_of_left_ne_nil (List.ne_nil_of_length_pos (encoding_pos value)) _
      rw [encoding] at refuses
      have refused := refuses _ (.of_append (writeInt8 rtmpAmf0StrictArray ++ writeInt32 count) elements)
      rw [← List.append_nil (_ ++ writeInt32 count)] at refused
      exact refused.not_ok (readAny_headers count).2.2
  | _ => trivial

/-- No beginning of an unbreakable value contains an object. -/
theorem RtmpAmf0Any.Unbreakable.not_spoiled {value : RtmpAmf0Any} (wellFormed : value.WellFormed)
    (unbreakable : value.Unbreakable) {cut : List UInt8} (broken : CutOff cut value.encoding) : ¬ Spoiled cut := by
  intro spoiled
  rcases spoiled.broken.1 with ⟨made, found⟩
  have nonempty : cut ≠ [] := List.ne_nil_of_length_pos (discovery_nonempty found)
  by_cases eof : value = .objectEof
  · rcases eof with rfl
    -- one or two zero bytes are the beginning of a number
    rcases objectEof_beginnings broken with rfl | rfl | rfl
    · exact nonempty rfl
    · exact (@spoiled_iff _ (.number 0) rfl).mp spoiled
    · exact (@spoiled_iff _ (.number 0) rfl).mp spoiled
  · have spoils := (spoiled_iff (discovery_cut wellFormed eof nonempty broken.1)).mp spoiled
    cases value with
    | object properties => exact unbreakable
    | ecmaArray count properties => exact unbreakable
    | strictArray count properties =>
        have none : properties = [] := unbreakable
        have short := broken.length_lt
        rw [RtmpAmf0Any.encoding_length, none, RtmpAmf0Any.byteSize, elementsSize] at short
        exact Nat.not_lt_of_le spoils.1 short
    | _ => exact spoils

/-- Where the loops of a strict array get to nothing, there is nothing in it. -/
theorem RtmpAmf0Any.Unbreakable.of_reached {value : RtmpAmf0Any} (built : value.Built)
    (unbreakable : value.reached.Unbreakable) : value.Unbreakable := by
  cases value with
  | strictArray count properties =>
      have announced : count.toInt.toNat = properties.length := built.here
      have announced' : count.toInt.toNat = (reachedElements (loopRounds properties.length) properties).length :=
        (Built.reached built).here
      have none : reachedElements (loopRounds properties.length) properties = [] := unbreakable
      rw [announced, none] at announced'
      exact List.eq_nil_of_length_eq_zero announced'
  | object properties => exact unbreakable
  | ecmaArray count properties => exact unbreakable
  | _ => exact unbreakable

theorem RtmpAmf0Any.Unbreakable.reached {value : RtmpAmf0Any} (unbreakable : value.Unbreakable) :
    value.reached = value := by
  cases value with
  | strictArray count properties =>
      have none : properties = [] := unbreakable
      rw [none]
      rfl
  | object properties => exact unbreakable.elim
  | ecmaArray count properties => exact unbreakable.elim
  | _ => rfl

/-- Truncated encodings are refused without exception for unbreakable values
only.  For the others, as long as no number in them begins like an end marker,
the beginnings that are not refused are those where a container breaks off between
its items, and those that break off in the value of a property of an object,
which is deleted twice. -/
theorem truncated_refused_iff {value : RtmpAmf0Any} (short : value.Short) (built : value.Built) :
    ((forall room bytes cut, value.write room = .ok bytes -> CutOff cut bytes ->
        Exists fun code => rtmpAmf0ReadAny cut = .error code ∧ code < 0) ↔ value.Unbreakable) ∧
      (value.Legible -> forall room bytes cut, value.write room = .ok bytes -> CutOff cut bytes ->
        ((Exists fun code => rtmpAmf0ReadAny cut = .error code ∧ code < 0) ↔
          ¬ BreaksOff value.reached cut ∧ ¬ Spoiled cut)) := by
  have exactly (legible : value.Legible) {room : Nat} {bytes cut : List UInt8} (written : value.write room = .ok bytes)
      (broken : CutOff cut bytes) : (rtmpAmf0ReadAny cut).Refused ↔ ¬ BreaksOff value.reached cut ∧ ¬ Spoiled cut := by
    have wellFormed := (RtmpAmf0Any.wellFormed_iff.mpr ⟨short, built, legible⟩).reached
    rw [(Short.written short written).1] at broken
    constructor
    · intro refused
      refine ⟨fun breaksOff => ?_, fun spoiled => ?_⟩
      · rcases breaksOff_accepted wellFormed cut breaksOff with ⟨read, accepted⟩
        exact refused.not_ok accepted
      · rcases refused with ⟨code, answered, _⟩
        cases ((rtmpAmf0ReadAny_fault_iff cut).mpr spoiled).symm.trans answered
    · rintro ⟨kept, clean⟩
      have fails := (cut_cases wellFormed cut broken).resolve_left kept
      rcases Outcome.Returns.cases (rtmpAmf0ReadAny_consumes clean) with ⟨found, read, _⟩ | refused
      · exact absurd read (fails found)
      · exact refused
  refine ⟨⟨fun refuses => ?_, fun unbreakable => ?_⟩, fun legible _ _ _ => exactly legible⟩
  · have size := value.reached.encoding_length
    have written := Short.emits_reached short value.reached.byteSize (Nat.le_of_eq size)
    exact .of_reached built (unbreakable_of_refused fun cut broken => refuses _ _ cut written broken)
  · intro room bytes cut written broken
    have legible := unbreakable.legible
    have same := unbreakable.reached
    have begins := broken
    rw [(Short.written short written).1, same] at begins
    refine (exactly legible written broken).mpr ⟨fun breaksOff => ?_, ?_⟩
    · rw [same] at breaksOff
      exact unbreakable.not_breaksOff breaksOff
    · exact unbreakable.not_spoiled (RtmpAmf0Any.wellFormed_iff.mpr ⟨short, built, legible⟩) begins

/-- The object without properties, cut before its end marker, is accepted. -/
theorem truncated_object_accepted :
    ¬ (forall value : RtmpAmf0Any, value.Short -> value.Built ->
      forall room bytes cut, value.write room = .ok bytes -> CutOff cut bytes ->
        Exists fun code => rtmpAmf0ReadAny cut = .error code ∧ code < 0) := by
  intro claimed
  have short : (RtmpAmf0Any.object []).Short := .intro (List.forall_mem_nil _) (List.forall_mem_nil _)
  have built : (RtmpAmf0Any.object []).Built := .intro List.nodup_nil (List.forall_mem_nil _)
  rcases claimed (.object []) short built 4 [0x03, 0x00, 0x00, 0x09] [0x03] rfl ⟨⟨_, rfl⟩, by decide⟩ with
    ⟨code, refused, -⟩
  cases refused

/-- An array in an object, cut between its two elements. -/
theorem truncated_refused_iff_nested :
    let value := RtmpAmf0Any.object [([0x61], .strictArray 2 [.null, .boolean true])]
    value.WellFormed ∧ ¬ Exists fun code =>
      rtmpAmf0ReadAny [0x03, 0x00, 0x01, 0x61, 0x0A, 0, 0, 0, 2, 0x05] = .error code ∧ code < 0 := by
  intro value
  have wellFormed : value.WellFormed := by
    apply RtmpAmf0Any.WellFormed.object (by decide) (by decide)
    refine List.forall_mem_cons.mpr ⟨?_, List.forall_mem_nil _⟩
    apply RtmpAmf0Any.WellFormed.strictArray rfl
    exact List.forall_mem_cons.mpr ⟨.null, List.forall_mem_cons.mpr ⟨.boolean true, List.forall_mem_nil _⟩⟩
  rcases RtmpAmf0Any.wellFormed_iff.mp wellFormed with ⟨short, built, legible⟩
  have exactly := (truncated_refused_iff short built).2 legible 100 _
    [0x03, 0x00, 0x01, 0x61, 0x0A, 0, 0, 0, 2, 0x05] rfl ⟨⟨_, rfl⟩, by decide⟩
  refine ⟨wellFormed, fun refused => (exactly.mp refused).1 ?_⟩
  have inArray := BreaksOff.strictArray 2 (.between [RtmpAmf0Any.null] [] (.boolean true))
  exact .object (.inside [] [] [0x61] inArray)

end Amf0
end RtmpClient
