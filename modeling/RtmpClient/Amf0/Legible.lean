import RtmpClient.Amf0.Parts

namespace RtmpClient
namespace Amf0

open Library
open Net

/-!
# What was read is regular

Whatever the bytes, a value that the readers return has short strings, short
and distinct names, and no number that looks like an end marker: discovery
takes every `00 00 09` for one, a number's first bytes included.  This is why a
value that does not satisfy this cannot survive being read back.
-/

/-! ## Strings and tables -/

/-- A length with a sign is at most 32767. -/
theorem readUtf8_short (data : List UInt8) {ret : Nat} {value : List UInt8}
    (read : rtmpAmf0ReadUtf8 [] data = .ok (ret, value)) : value.length ≤ 32767 := by
  rw [rtmpAmf0ReadUtf8] at read
  split at read
  · cases read
  · rcases Outcome.bind_eq_ok read with ⟨length, -, behind⟩
    split at behind
    · rw [← Outcome.value_eq behind]
      exact Nat.zero_le _
    · split at behind
      · cases behind
      · rcases Outcome.bind_eq_ok behind with ⟨str, cells, last⟩
        have most := length.toInt_lt
        rw [← Outcome.value_eq last]
        rw [Outcome.slice] at cells
        split at cells
        · rw [← Outcome.ok.inj cells]
          have cut := List.length_take_le length.toInt.toNat (data.drop 2)
          omega
        · cases cells

theorem readString_short {data : List UInt8} {ret : Nat} {value : List UInt8}
    (read : rtmpAmf0ReadString [] data = .ok (ret, value)) : value.length ≤ 32767 := by
  rw [rtmpAmf0ReadString] at read
  split at read
  · cases read
  · rcases Outcome.bind_eq_ok read with ⟨marker, -, behind⟩
    split at behind
    · cases behind
    · rcases Outcome.bind_eq_ok behind with ⟨found, text, last⟩
      rw [← Outcome.value_eq last]
      exact readUtf8_short _ text

theorem UnSortedHashtable.Regular.set {table : UnSortedHashtable RtmpAmf0Any} (regular : table.Regular)
    {key : List UInt8} (fits : key.length ≤ 32767) (value : RtmpAmf0Any) : (table.set key (some value)).Regular := by
  refine ⟨fun property member => ?_, nodup_set key (some value) regular.2⟩
  rcases mem_set member with kept | added
  · exact regular.1 property kept
  · rw [added.1]
    exact fits

/-! ## The loops -/

/-- The loop over properties starts from the table it is given and sets in it
what it reads. -/
theorem readProperties_invariant {readAny : Reader UInt8 RtmpAmf0Any}
    {invariant : UnSortedHashtable RtmpAmf0Any -> Prop}
    (kept : forall data ret property table, readProperty readAny data = .ok (ret, property) -> invariant table ->
      invariant (UnSortedHashtable.set table property.1 (some property.2))) {data : List UInt8}
    {rounds offset : Nat} {properties : UnSortedHashtable RtmpAmf0Any}
    {result : Nat × UnSortedHashtable RtmpAmf0Any} (before : invariant properties)
    (read : readProperties readAny data rounds offset properties = .ok result) : invariant result.2 := by
  induction rounds generalizing offset properties with
  | zero =>
      rw [readProperties] at read
      split at read
      · cases read
      · rw [← Outcome.ok.inj read]
        exact before
  | succ rounds inductionHypothesis =>
      rw [readProperties] at read
      split at read
      · split at read
        · rcases Outcome.bind_eq_ok read with ⟨ended, -, last⟩
          rw [← Outcome.ok.inj last]
          exact before
        · rcases Outcome.bind_eq_ok read with ⟨⟨ret, property⟩, one, others⟩
          exact inductionHypothesis (kept _ _ _ _ one before) others
      · rw [← Outcome.ok.inj read]
        exact before

/-- What the loop keeps of the table and of every value in it. -/
def ReadTable (holds : RtmpAmf0Any -> Prop) (table : UnSortedHashtable RtmpAmf0Any) : Prop :=
  table.Regular ∧ forall property, property ∈ table -> holds property.2

theorem readTable_nil (holds : RtmpAmf0Any -> Prop) : ReadTable holds [] :=
  ⟨⟨List.forall_mem_nil _, List.nodup_nil⟩, List.forall_mem_nil _⟩

theorem readTable_kept {readAny : Reader UInt8 RtmpAmf0Any} {holds : RtmpAmf0Any -> Prop}
    (reads : forall data ret value, readAny data = .ok (ret, value) -> holds value) (data : List UInt8)
    (ret : Nat) (property : List UInt8 × RtmpAmf0Any) (table : UnSortedHashtable RtmpAmf0Any)
    (read : readProperty readAny data = .ok (ret, property)) (before : ReadTable holds table) :
    ReadTable holds (UnSortedHashtable.set table property.1 (some property.2)) := by
  rcases Outcome.bind_eq_ok read with ⟨name, found, behind⟩
  rcases Outcome.bind_eq_ok behind with ⟨value, any, pair⟩
  rw [← Outcome.value_eq pair]
  refine ⟨before.1.set (readUtf8_short data found) value.2, fun entry member => ?_⟩
  rcases UnSortedHashtable.mem_set member with kept | added
  · exact before.2 entry kept
  · rw [← Option.some.inj added.2]
    exact reads _ _ _ any

theorem readElements_values {readAny : Reader UInt8 RtmpAmf0Any} {holds : RtmpAmf0Any -> Prop}
    (reads : forall data ret value, readAny data = .ok (ret, value) -> holds value) {data : List UInt8}
    {remaining offset : Nat} {properties : List RtmpAmf0Any} {result : Nat × List RtmpAmf0Any}
    (before : forall value, value ∈ properties -> holds value)
    (read : readElements readAny data remaining offset properties = .ok result) :
    forall value, value ∈ result.2 -> holds value := by
  induction remaining generalizing offset properties with
  | zero =>
      rw [← Outcome.ok.inj read]
      exact before
  | succ remaining inductionHypothesis =>
      rw [readElements] at read
      split at read
      · rcases Outcome.bind_eq_ok read with ⟨⟨ret, elem⟩, one, others⟩
        refine inductionHypothesis (fun value member => ?_) others
        rcases List.mem_append.mp member with kept | added
        · exact before value kept
        · rw [List.mem_singleton.mp added]
          exact reads _ _ _ one
      · rw [← Outcome.ok.inj read]
        exact before

/-! ## Numbers -/

/-- A number stands in the buffer as the bits that were read. -/
theorem readNumber_bytes {data : List UInt8} {ret : Nat} {value : UInt64}
    (read : rtmpAmf0ReadNumber data = .ok (ret, value)) :
    data = (RtmpAmf0Any.number value).encoding ++ data.drop 9 := by
  rw [rtmpAmf0ReadNumber] at read
  split at read
  · cases read
  next enough =>
    rcases Outcome.bind_eq_ok read with ⟨marker, first, behind⟩
    split at behind
    · cases behind
    next isNumber =>
      rcases Outcome.bind_eq_ok behind with ⟨temp, eight, last⟩
      have same : temp.toUInt64 = value := congrArg Prod.snd (Outcome.ok.inj last)
      have head := (writeInt8_of_read first).2
      rw [not_not.mp isNumber, List.drop_zero] at head
      have body := (writeInt64_of_read eight).2
      rw [RtmpAmf0Any.encoding, ← same, Int64.toInt64_toUInt64, head, body]
      calc
        data = data.take 1 ++ data.drop 1 := (List.take_append_drop 1 data).symm
        _ = data.take 1 ++ ((data.drop 1).take 8 ++ (data.drop 1).drop 8) := by
          rw [List.take_append_drop 8 (data.drop 1)]
        _ = data.take 1 ++ (data.drop 1).take 8 ++ data.drop 9 := by
          rw [List.drop_drop, List.append_assoc]

/-- The third byte of a number is its second highest. -/
theorem isObjectEof_of_number {value : UInt64} (looksLikeEof : value >>> 48 = 0x0009) (rest : List UInt8) :
    rtmpAmf0IsObjectEof ((RtmpAmf0Any.number value).encoding ++ rest) = true := by
  have bits : value.toNat / 2 ^ 48 = 9 := by
    have number := congrArg UInt64.toNat looksLikeEof
    rw [UInt64.toNat_shiftRight, Nat.shiftRight_eq_div_pow] at number
    exact number
  have bound := value.toNat_lt
  have second : UInt8.ofNat (value.toInt64.toUInt64.toNat / 256 ^ 7) = 0x00 := by
    apply UInt8.toNat.inj
    rw [UInt8.toNat_ofNat', UInt64.toUInt64_toInt64]
    show value.toNat / 256 ^ 7 % 2 ^ 8 = 0
    omega
  have third : UInt8.ofNat (value.toInt64.toUInt64.toNat / 256 ^ 6) = 0x09 := by
    apply UInt8.toNat.inj
    rw [UInt8.toNat_ofNat', UInt64.toUInt64_toInt64]
    show value.toNat / 256 ^ 6 % 2 ^ 8 = 9
    omega
  exact (rtmpAmf0IsObjectEof_cons _ _ _ _).mpr ⟨rfl, second, third⟩

theorem readNumber_legible {data : List UInt8} {ret : Nat} {value : UInt64}
    (notEof : rtmpAmf0IsObjectEof data = false) (read : rtmpAmf0ReadNumber data = .ok (ret, value)) :
    value >>> 48 ≠ 0x0009 := by
  intro looksLikeEof
  rw [readNumber_bytes read, isObjectEof_of_number looksLikeEof] at notEof
  cases notEof

/-! ## The whole value -/

theorem readObject_invariant {readAny : Reader UInt8 RtmpAmf0Any} {holds : RtmpAmf0Any -> Prop}
    (reads : forall data ret value, readAny data = .ok (ret, value) -> holds value) {data : List UInt8}
    {ret : Nat} {properties table : UnSortedHashtable RtmpAmf0Any} (before : ReadTable holds properties)
    (read : RtmpAmf0Object.read readAny properties data = .ok (ret, table)) : ReadTable holds table := by
  rw [RtmpAmf0Object.read] at read
  split at read
  · rw [← Outcome.value_eq read]
    exact before
  · rcases Outcome.bind_eq_ok read with ⟨marker, -, behind⟩
    split at behind
    · cases behind
    · refine readProperties_invariant (readTable_kept fun data ret value read => ?_) before behind
      exact reads data ret value (readPropertyValue_eq_ok.mp read)

theorem readEcmaArray_invariant {readAny : Reader UInt8 RtmpAmf0Any} {holds : RtmpAmf0Any -> Prop}
    (reads : forall data ret value, readAny data = .ok (ret, value) -> holds value) {data : List UInt8}
    {ret : Nat} {count : Int32} {properties table : UnSortedHashtable RtmpAmf0Any}
    (before : ReadTable holds properties)
    (read : RtmpAmf0EcmaArray.read readAny properties data = .ok (ret, (count, table))) : ReadTable holds table := by
  rw [RtmpAmf0EcmaArray.read] at read
  split at read
  · cases read
  · rcases Outcome.bind_eq_ok read with ⟨marker, -, behind⟩
    split at behind
    · cases behind
    · rcases Outcome.bind_eq_ok behind with ⟨announced, -, entries⟩
      rcases Outcome.bind_eq_ok entries with ⟨⟨width, found⟩, loop, last⟩
      have same : found = table := congrArg (fun pair => pair.2.2) (Outcome.ok.inj last)
      rw [← same]
      exact readProperties_invariant (readTable_kept reads) before loop

theorem readStrictArray_values {readAny : Reader UInt8 RtmpAmf0Any} {holds : RtmpAmf0Any -> Prop}
    (reads : forall data ret value, readAny data = .ok (ret, value) -> holds value) {data : List UInt8}
    {ret : Nat} {count : Int32} {properties elements : List RtmpAmf0Any}
    (before : forall value, value ∈ properties -> holds value)
    (read : RtmpAmf0StrictArray.read readAny properties data = .ok (ret, (count, elements))) :
    forall value, value ∈ elements -> holds value := by
  rw [RtmpAmf0StrictArray.read] at read
  split at read
  · cases read
  · rcases Outcome.bind_eq_ok read with ⟨marker, -, behind⟩
    split at behind
    · cases behind
    · rcases Outcome.bind_eq_ok behind with ⟨announced, -, entries⟩
      rcases Outcome.bind_eq_ok entries with ⟨⟨width, found⟩, loop, last⟩
      have same : found = elements := congrArg (fun pair => pair.2.2) (Outcome.ok.inj last)
      rw [← same]
      exact readElements_values reads before loop

/-- A discovered instance reads itself as a regular value, if the values inside
it are. -/
theorem read_regular {readAny : Reader UInt8 RtmpAmf0Any}
    (reads : forall data ret value, readAny data = .ok (ret, value) -> value.Regular)
    {data : List UInt8} {found value : RtmpAmf0Any} {ret : Nat}
    (discovered : RtmpAmf0Any.discovery data = .ok found)
    (read : found.read readAny data = .ok (ret, value)) : value.Regular := by
  have fresh := discovery_fresh discovered
  cases found with
  | number bits =>
      rcases Outcome.bind_eq_ok read with ⟨⟨width, number⟩, one, last⟩
      rw [← Outcome.value_eq last]
      rcases discovery_found discovered with ⟨impossible, _⟩ | ⟨notEof, _⟩
      · cases impossible
      · exact .leaf (readNumber_legible notEof one) rfl
  | string text =>
      rcases Outcome.bind_eq_ok read with ⟨⟨width, string⟩, one, last⟩
      have empty : [] = text := RtmpAmf0Any.string.inj fresh
      rw [← Outcome.value_eq last]
      rw [← empty] at one
      exact .leaf (readString_short one) rfl
  | object properties =>
      rcases Outcome.bind_eq_ok read with ⟨⟨width, table⟩, one, last⟩
      have empty : [] = properties := RtmpAmf0Any.object.inj fresh
      rw [← Outcome.value_eq last]
      rw [← empty] at one
      have kept := readObject_invariant reads (readTable_nil _) one
      exact .intro kept.1 (.to_map kept.2)
  | ecmaArray count properties =>
      rcases Outcome.bind_eq_ok read with ⟨⟨width, announced, table⟩, one, last⟩
      have empty : [] = properties := (RtmpAmf0Any.ecmaArray.inj fresh).2
      rw [← Outcome.value_eq last]
      rw [← empty] at one
      have kept := readEcmaArray_invariant reads (readTable_nil _) one
      exact .intro kept.1 (.to_map kept.2)
  | strictArray count properties =>
      rcases Outcome.bind_eq_ok read with ⟨⟨width, announced, elements⟩, one, last⟩
      have empty : [] = properties := (RtmpAmf0Any.strictArray.inj fresh).2
      rw [← Outcome.value_eq last]
      rw [← empty] at one
      exact .intro trivial (readStrictArray_values reads (List.forall_mem_nil _) one)
  | _ =>
      rcases Outcome.bind_eq_ok read with ⟨parts, one, last⟩
      rw [← Outcome.value_eq last]
      exact .leaf trivial rfl

theorem readAnyWithin_regular (depth : Nat) : forall data ret value,
    readAnyWithin depth data = .ok (ret, value) -> value.Regular := by
  induction depth with
  | zero =>
      intro data ret value read
      cases read
  | succ depth inductionHypothesis =>
      intro data ret value read
      rcases Outcome.bind_eq_ok read with ⟨found, discovered, reads⟩
      exact read_regular inductionHypothesis (Outcome.errorAs_eq_ok discovered) (Outcome.errorAs_eq_ok reads)

/-- Whatever the bytes, a value that was read is regular. -/
theorem rtmpAmf0ReadAny_regular {data : List UInt8} {ret : Nat} {value : RtmpAmf0Any}
    (read : rtmpAmf0ReadAny data = .ok (ret, value)) : value.Regular :=
  readAnyWithin_regular (data.length + 1) data ret value read

theorem rtmpAmf0ReadAny_legible {data : List UInt8} {ret : Nat} {value : RtmpAmf0Any}
    (read : rtmpAmf0ReadAny data = .ok (ret, value)) : value.Legible :=
  RtmpAmf0Any.Regular.legible (rtmpAmf0ReadAny_regular read)

/-! ## Counts

A strict array that holds fewer elements than it announces was read up to the
end of the buffer, and so was everything around it.
-/

section Counts

variable {readAny : Reader UInt8 RtmpAmf0Any} {data : List UInt8}

theorem readElements_grows {remaining offset finish : Nat} {properties elements : List RtmpAmf0Any}
    (read : readElements readAny data remaining offset properties = .ok (finish, elements)) : offset ≤ finish := by
  induction remaining generalizing offset properties with
  | zero =>
      rcases Outcome.ok.inj read with ⟨rfl, rfl⟩
      exact Nat.le_refl _
  | succ remaining inductionHypothesis =>
      rw [readElements] at read
      split at read
      · rcases Outcome.bind_eq_ok read with ⟨elem, _, others⟩
        exact Nat.le_trans (Nat.le_add_right offset elem.1) (inductionHypothesis others)
      · rcases Outcome.ok.inj read with ⟨rfl, rfl⟩
        exact Nat.le_refl _

theorem readProperties_grows {rounds offset finish : Nat} {properties table : UnSortedHashtable RtmpAmf0Any}
    (read : readProperties readAny data rounds offset properties = .ok (finish, table)) : offset ≤ finish := by
  induction rounds generalizing offset properties with
  | zero =>
      rw [readProperties] at read
      split at read
      · cases read
      · rcases Outcome.ok.inj read with ⟨rfl, rfl⟩
        exact Nat.le_refl _
  | succ rounds inductionHypothesis =>
      rw [readProperties] at read
      split at read
      · split at read
        · rcases Outcome.bind_eq_ok read with ⟨ended, _, last⟩
          rcases Outcome.ok.inj last with ⟨rfl, rfl⟩
          exact Nat.le_add_right offset ended.1
        · rcases Outcome.bind_eq_ok read with ⟨property, _, others⟩
          exact Nat.le_trans (Nat.le_add_right offset property.1) (inductionHypothesis others)
      · rcases Outcome.ok.inj read with ⟨rfl, rfl⟩
        exact Nat.le_refl _

/-- What the values have that end before the end of the buffer. -/
def ReadInside (holds : RtmpAmf0Any -> Prop) (readAny : Reader UInt8 RtmpAmf0Any) : Prop :=
  forall data ret value, readAny data = .ok (ret, value) -> ret < data.length -> holds value

variable {holds : RtmpAmf0Any -> Prop}

theorem readElements_inside (reads : ReadInside holds readAny) {remaining offset finish : Nat}
    {properties elements : List RtmpAmf0Any} (before : forall value, value ∈ properties -> holds value)
    (read : readElements readAny data remaining offset properties = .ok (finish, elements))
    (inside : finish < data.length) :
    elements.length = properties.length + remaining ∧ forall value, value ∈ elements -> holds value := by
  induction remaining generalizing offset properties with
  | zero =>
      rcases Outcome.ok.inj read with ⟨rfl, rfl⟩
      exact ⟨rfl, before⟩
  | succ remaining inductionHypothesis =>
      rw [readElements] at read
      split at read
      · rcases Outcome.bind_eq_ok read with ⟨⟨ret, elem⟩, one, others⟩
        have further := readElements_grows others
        have short : ret < (data.drop offset).length := by
          rw [List.length_drop]
          omega
        have kept : forall value, value ∈ properties ++ [elem] -> holds value := by
          intro value member
          rcases List.mem_append.mp member with old | new
          · exact before value old
          · rw [List.mem_singleton.mp new]
            exact reads _ _ _ one short
        rcases inductionHypothesis kept others with ⟨count, each⟩
        rw [List.length_append, List.length_singleton, Nat.add_assoc, Nat.add_comm 1] at count
        exact ⟨count, each⟩
      next ended =>
        rcases Outcome.ok.inj read with ⟨rfl, rfl⟩
        exact absurd inside ended

theorem readProperties_inside (reads : ReadInside holds readAny) {rounds offset finish : Nat}
    {properties table : UnSortedHashtable RtmpAmf0Any}
    (before : forall property, property ∈ properties -> holds property.2)
    (read : readProperties readAny data rounds offset properties = .ok (finish, table))
    (inside : finish < data.length) : forall property, property ∈ table -> holds property.2 := by
  induction rounds generalizing offset properties with
  | zero =>
      rw [readProperties] at read
      split at read
      · cases read
      · rcases Outcome.ok.inj read with ⟨rfl, rfl⟩
        exact before
  | succ rounds inductionHypothesis =>
      rw [readProperties] at read
      split at read
      · split at read
        · rcases Outcome.bind_eq_ok read with ⟨ended, _, last⟩
          rcases Outcome.ok.inj last with ⟨_, rfl⟩
          exact before
        · rcases Outcome.bind_eq_ok read with ⟨⟨ret, property⟩, one, others⟩
          have further := readProperties_grows others
          rcases Outcome.bind_eq_ok one with ⟨name, _, behind⟩
          rcases Outcome.bind_eq_ok behind with ⟨value, any, pair⟩
          rcases Outcome.ok.inj pair with ⟨rfl, rfl⟩
          have short : value.1 < ((data.drop offset).drop name.1).length := by
            rw [List.length_drop, List.length_drop]
            omega
          refine inductionHypothesis (fun entry member => ?_) others
          rcases UnSortedHashtable.mem_set member with old | new
          · exact before entry old
          · rw [← Option.some.inj new.2]
            exact reads _ _ _ any short
      · rcases Outcome.ok.inj read with ⟨rfl, rfl⟩
        exact before

theorem read_announced (reads : ReadInside RtmpAmf0Any.Announced readAny) {found value : RtmpAmf0Any} {ret : Nat}
    (discovered : RtmpAmf0Any.discovery data = .ok found) (read : found.read readAny data = .ok (ret, value))
    (inside : ret < data.length) : value.Announced := by
  have fresh := discovery_fresh discovered
  cases found with
  | object properties =>
      rcases RtmpAmf0Any.object.inj fresh with rfl
      rcases Outcome.bind_eq_ok read with ⟨⟨width, table⟩, one, last⟩
      rcases Outcome.ok.inj last with ⟨rfl, rfl⟩
      rw [RtmpAmf0Object.read] at one
      split at one
      · rcases Outcome.ok.inj one with ⟨_, rfl⟩
        exact .intro trivial (List.forall_mem_nil _)
      · rcases Outcome.bind_eq_ok one with ⟨marker, _, behind⟩
        split at behind
        · cases behind
        · have through : ReadInside RtmpAmf0Any.Announced (readPropertyValue readAny) :=
            fun data ret value read => reads data ret value (readPropertyValue_eq_ok.mp read)
          exact .intro trivial (.to_map (readProperties_inside through (List.forall_mem_nil _) behind inside))
  | ecmaArray count properties =>
      rcases RtmpAmf0Any.ecmaArray.inj fresh with ⟨rfl, rfl⟩
      rcases Outcome.bind_eq_ok read with ⟨⟨width, announced, table⟩, one, last⟩
      rcases Outcome.ok.inj last with ⟨rfl, rfl⟩
      rw [RtmpAmf0EcmaArray.read] at one
      split at one
      · cases one
      · rcases Outcome.bind_eq_ok one with ⟨marker, _, behind⟩
        split at behind
        · cases behind
        · rcases Outcome.bind_eq_ok behind with ⟨count, _, entries⟩
          rcases Outcome.bind_eq_ok entries with ⟨⟨finish, found⟩, loop, last⟩
          rcases Outcome.ok.inj last with ⟨rfl, rfl, rfl⟩
          exact .intro trivial (.to_map (readProperties_inside reads (List.forall_mem_nil _) loop inside))
  | strictArray count properties =>
      rcases RtmpAmf0Any.strictArray.inj fresh with ⟨rfl, rfl⟩
      rcases Outcome.bind_eq_ok read with ⟨⟨width, announced, elements⟩, one, last⟩
      rcases Outcome.ok.inj last with ⟨rfl, rfl⟩
      rw [RtmpAmf0StrictArray.read] at one
      split at one
      · cases one
      · rcases Outcome.bind_eq_ok one with ⟨marker, _, behind⟩
        split at behind
        · cases behind
        · rcases Outcome.bind_eq_ok behind with ⟨count, _, entries⟩
          rcases Outcome.bind_eq_ok entries with ⟨⟨finish, found⟩, loop, last⟩
          rcases Outcome.ok.inj last with ⟨rfl, rfl, rfl⟩
          rcases readElements_inside reads (List.forall_mem_nil _) loop inside with ⟨held, each⟩
          rw [List.length_nil, Nat.zero_add] at held
          exact .intro held.symm each
  | _ =>
      rcases Outcome.bind_eq_ok read with ⟨parts, _, last⟩
      rw [← Outcome.value_eq last]
      exact .leaf trivial rfl

end Counts

theorem readAnyWithin_announced (depth : Nat) : ReadInside RtmpAmf0Any.Announced (readAnyWithin depth) := by
  induction depth with
  | zero =>
      intro data ret value read
      cases read
  | succ depth inductionHypothesis =>
      intro data ret value read inside
      rcases Outcome.bind_eq_ok read with ⟨found, discovered, reads⟩
      exact read_announced inductionHypothesis (Outcome.errorAs_eq_ok discovered) (Outcome.errorAs_eq_ok reads) inside

/-- Where bytes are left behind a value, every strict array in it is whole. -/
theorem rtmpAmf0ReadAny_announced {data : List UInt8} {ret : Nat} {value : RtmpAmf0Any}
    (read : rtmpAmf0ReadAny data = .ok (ret, value)) (inside : ret < data.length) : value.Announced :=
  readAnyWithin_announced (data.length + 1) data ret value read inside

/-! ## Copies -/

theorem copyProperties_values {holds : RtmpAmf0Any -> Prop} {properties : List (List UInt8 × RtmpAmf0Any)}
    {table : UnSortedHashtable RtmpAmf0Any} (before : forall property, property ∈ table -> holds property.2)
    (copies : forall property, property ∈ properties -> holds property.2.copy) :
    forall property, property ∈ copyProperties properties table -> holds property.2 := by
  induction properties generalizing table with
  | nil => exact before
  | cons property others inductionHypothesis =>
      rw [copyProperties]
      apply inductionHypothesis
      · intro entry member
        rcases UnSortedHashtable.mem_set member with kept | added
        · exact before entry kept
        · rw [← Option.some.inj added.2]
          exact copies property List.mem_cons_self
      · exact fun later member => copies later (List.mem_cons_of_mem property member)

theorem copyElements_values {holds : RtmpAmf0Any -> Prop} {values : List RtmpAmf0Any}
    (copies : forall value, value ∈ values -> holds value.copy) :
    forall value, value ∈ copyElements values -> holds value := by
  induction values with
  | nil => exact List.forall_mem_nil _
  | cons value others inductionHypothesis =>
      rw [copyElements]
      exact List.forall_mem_cons.mpr ⟨copies value List.mem_cons_self,
        inductionHypothesis fun later member => copies later (List.mem_cons_of_mem value member)⟩

/-- A copy holds the numbers of its original. -/
theorem RtmpAmf0Any.Legible.copy {value : RtmpAmf0Any} (legible : value.Legible) : value.copy.Legible := by
  induction legible with
  | @intro value here _ inductionHypothesis =>
      cases value with
      | string value => exact .leaf trivial rfl
      | object properties =>
          exact .intro trivial (.to_map (copyProperties_values (List.forall_mem_nil _) (fun property member =>
            inductionHypothesis property.2 (List.mem_map_of_mem member))))
      | ecmaArray count properties =>
          exact .intro trivial (.to_map (copyProperties_values (List.forall_mem_nil _) (fun property member =>
            inductionHypothesis property.2 (List.mem_map_of_mem member))))
      | strictArray count properties => exact .intro trivial (copyElements_values inductionHypothesis)
      | _ => exact .leaf here rfl

end Amf0
end RtmpClient
