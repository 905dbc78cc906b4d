import RtmpClient.Amf0.Copy
import RtmpClient.Amf0.Truncation

namespace RtmpClient
namespace Amf0

open Library
open Net
open RtmpAmf0Any

/-!
# The counts that arrays announce

Both arrays keep a member `_count`, which `write` emits, beside what they hold.
Of the functions that change an array only `append` brings the two together.
`set` and `clear` of an ECMA array leave the count it was created or read with;
`clear` of a strict array leaves the count of what was cleared, and whoever
reads the array takes as many of the values behind it for its elements.
-/

/-- `RtmpAmf0EcmaArray`, with the members that its functions change. -/
structure RtmpAmf0EcmaArray where
  count : Int32
  properties : UnSortedHashtable RtmpAmf0Any

namespace RtmpAmf0EcmaArray

def any (array : RtmpAmf0EcmaArray) : RtmpAmf0Any := .ecmaArray array.count array.properties

def empty : RtmpAmf0EcmaArray := ⟨0, []⟩

def set (array : RtmpAmf0EcmaArray) (key : List UInt8) (value : Option RtmpAmf0Any) : RtmpAmf0EcmaArray :=
  { array with properties := array.properties.set key value }

def clear (array : RtmpAmf0EcmaArray) : RtmpAmf0EcmaArray := { array with properties := [] }

def copy (array : RtmpAmf0EcmaArray) : RtmpAmf0EcmaArray := ⟨array.count, copyProperties array.properties []⟩

theorem any_copy (array : RtmpAmf0EcmaArray) : array.any.copy = array.copy.any := rfl

/-- A call of one of the functions; after `copy` the program goes on with the
copy. -/
inductive Call where
  | set (key : List UInt8) (value : Option RtmpAmf0Any)
  | clear
  | copy

def after (array : RtmpAmf0EcmaArray) : Call -> RtmpAmf0EcmaArray
  | .set key value => array.set key value
  | .clear => array.clear
  | .copy => array.copy

/-- What the calls do to the names. -/
def Call.names (names : List (List UInt8)) : Call -> List (List UInt8)
  | .set key (some _) => names.erase key ++ [key]
  | .set key none => names.erase key
  | .clear => []
  | .copy => names

end RtmpAmf0EcmaArray

/-- `RtmpAmf0StrictArray`. -/
structure RtmpAmf0StrictArray where
  count : Int32
  properties : List RtmpAmf0Any

namespace RtmpAmf0StrictArray

def any (array : RtmpAmf0StrictArray) : RtmpAmf0Any := .strictArray array.count array.properties

def empty : RtmpAmf0StrictArray := ⟨0, []⟩

def append (array : RtmpAmf0StrictArray) (value : RtmpAmf0Any) : RtmpAmf0StrictArray :=
  ⟨Int32.ofNat (array.properties ++ [value]).length, array.properties ++ [value]⟩

def clear (array : RtmpAmf0StrictArray) : RtmpAmf0StrictArray := { array with properties := [] }

def copy (array : RtmpAmf0StrictArray) : RtmpAmf0StrictArray := ⟨array.count, copyElements array.properties⟩

theorem any_copy (array : RtmpAmf0StrictArray) : array.any.copy = array.copy.any := rfl

inductive Call where
  | append (value : RtmpAmf0Any)
  | clear
  | copy

def after (array : RtmpAmf0StrictArray) : Call -> RtmpAmf0StrictArray
  | .append value => array.append value
  | .clear => array.clear
  | .copy => array.copy

/-- The number of elements, and whether the count still announces elements that
were cleared since the last `append`. -/
def Call.scan (seen : Nat × Bool) : Call -> Nat × Bool
  | .append _ => (seen.1 + 1, false)
  | .clear => (0, seen.2 || seen.1 % 2 ^ 32 != 0)
  | .copy => seen

end RtmpAmf0StrictArray

/-! ## What is written -/

/-- In every buffer with room for it, the four bytes behind the marker are the
number of what `write` emits after them. -/
def RtmpAmf0Any.AnnouncesParts (value : RtmpAmf0Any) : Prop :=
  forall len, value.reached.byteSize ≤ len -> Exists fun bytes => Exists fun count =>
    value.write len = .ok bytes ∧ readUint32 bytes 1 = .ok count ∧ count.toNat = value.reached.parts.length

theorem store_eq_ok {room : Nat} {cells found : List UInt8} (stored : store room cells = .ok found) : found = cells := by
  rw [store] at stored
  split at stored
  · exact (Outcome.ok.inj stored).symm
  · cases stored

theorem readUint32_behind (marker : Int8) (count : Int32) (rest : List UInt8) :
    readUint32 (writeInt8 marker ++ (writeInt32 count ++ rest)) 1 = .ok count.toUInt32 :=
  readUint32_write count.toUInt32 (writeInt8 marker) rest

theorem writeEcmaArray_count {count : Int32} {loop : Writer UInt8} {len : Nat} {bytes : List UInt8}
    (written : RtmpAmf0EcmaArray.write count loop len = .ok bytes) : readUint32 bytes 1 = .ok count.toUInt32 := by
  rw [RtmpAmf0EcmaArray.write] at written
  split at written
  · cases written
  · rcases Outcome.bind_eq_ok written with ⟨marker, first, written⟩
    rcases Outcome.bind_eq_ok written with ⟨announced, second, written⟩
    rcases Outcome.bind_eq_ok written with ⟨properties, -, written⟩
    rcases Outcome.bind_eq_ok written with ⟨eof, -, last⟩
    rw [← Outcome.ok.inj last, store_eq_ok first, store_eq_ok second]
    exact readUint32_behind _ count _

theorem writeStrictArray_count {count : Int32} {loop : Writer UInt8} {len : Nat} {bytes : List UInt8}
    (written : RtmpAmf0StrictArray.write count loop len = .ok bytes) : readUint32 bytes 1 = .ok count.toUInt32 := by
  rw [RtmpAmf0StrictArray.write] at written
  split at written
  · cases written
  · rcases Outcome.bind_eq_ok written with ⟨marker, first, written⟩
    rcases Outcome.bind_eq_ok written with ⟨announced, second, written⟩
    rcases Outcome.bind_eq_ok written with ⟨elements, -, last⟩
    rw [← Outcome.ok.inj last, store_eq_ok first, store_eq_ok second]
    exact readUint32_behind _ count _

/-- What `write` emits first is the member `_count`. -/
theorem announcesParts_iff {value : RtmpAmf0Any} {count : Int32}
    (announces : forall len bytes, value.write len = .ok bytes -> readUint32 bytes 1 = .ok count.toUInt32) :
    value.AnnouncesParts ↔ count.toUInt32.toNat = loopRounds value.parts.length := by
  rw [← parts_reached_length]
  constructor
  · intro announced
    rcases announced value.reached.byteSize (Nat.le_refl _) with ⟨bytes, found, written, read, same⟩
    rw [← Outcome.ok.inj ((announces _ bytes written).symm.trans read)] at same
    exact same
  · intro same len enough
    rcases value.write_takes.2 len enough with ⟨bytes, written, -⟩
    exact ⟨bytes, count.toUInt32, written, announces len bytes written, same⟩

/-! ## Runs of calls -/

namespace RtmpAmf0EcmaArray

theorem announcesParts_iff (array : RtmpAmf0EcmaArray) :
    array.any.AnnouncesParts ↔ array.count.toUInt32.toNat = loopRounds array.properties.length := by
  have emitted := @Amf0.announcesParts_iff array.any array.count fun len bytes written => writeEcmaArray_count written
  rwa [any, RtmpAmf0Any.parts, List.length_map] at emitted

/-- An array as it is created, or read from a well formed encoding. -/
inductive Given : RtmpAmf0EcmaArray -> Prop where
  | empty : Given empty
  | read {value : RtmpAmf0Any} {rest : List UInt8} {ret : Nat} {array : RtmpAmf0EcmaArray}
      (wellFormed : value.WellFormed)
      (read : rtmpAmf0ReadAny (value.encoding ++ rest) = .ok (ret, array.any)) : Given array

theorem Given.distinct {array : RtmpAmf0EcmaArray} (given : array.Given) : array.properties.keys.Nodup := by
  cases given with
  | empty => exact List.nodup_nil
  | @read value rest _ _ wellFormed read =>
      rw [rtmpAmf0ReadAny_recovers wellFormed rest] at read
      rw [Outcome.value_eq read] at wellFormed
      cases wellFormed with
      | ecmaArray _ _ distinct _ => exact distinct

/-- What a call does to the names, as long as they are distinct. -/
theorem keys_after {array : RtmpAmf0EcmaArray} (distinct : array.properties.keys.Nodup) (call : Call) :
    (array.after call).properties.keys = call.names array.properties.keys ∧
      (array.after call).properties.keys.Nodup ∧ (array.after call).count = array.count := by
  cases call with
  | set key value =>
      refine ⟨?_, UnSortedHashtable.nodup_set key value distinct, rfl⟩
      cases value with
      | none => exact UnSortedHashtable.keys_eraseP array.properties key
      | some value =>
          show (List.map Prod.fst (_ ++ [(key, value)])) = _
          rw [List.map_append, UnSortedHashtable.keys_eraseP]
          rfl
  | clear => exact ⟨rfl, List.nodup_nil, rfl⟩
  | copy =>
      have same : (array.after .copy).properties.keys = array.properties.keys := by
        show (copyProperties array.properties []).map Prod.fst = _
        rw [copy_table distinct, List.map_map]
        rfl
      exact ⟨same, same ▸ distinct, rfl⟩

theorem keys_run {array : RtmpAmf0EcmaArray} (distinct : array.properties.keys.Nodup) (calls : List Call) :
    (calls.foldl after array).properties.keys = calls.foldl Call.names array.properties.keys ∧
      (calls.foldl after array).count = array.count := by
  induction calls generalizing array with
  | nil => exact ⟨rfl, rfl⟩
  | cons call calls inductionHypothesis =>
      rcases keys_after distinct call with ⟨keys, distinctAfter, count⟩
      have rest := inductionHypothesis distinctAfter
      rw [keys, count] at rest
      exact rest

/-- The count is true only where the number of properties, as far as `write` goes,
comes back to what it was when the array was given. -/
theorem announces_run_iff {array : RtmpAmf0EcmaArray} (given : array.Given) (calls : List Call) :
    (calls.foldl after array).any.AnnouncesParts ↔
      loopRounds (calls.foldl Call.names array.properties.keys).length = array.count.toUInt32.toNat := by
  rcases keys_run given.distinct calls with ⟨keys, count⟩
  have size := congrArg List.length keys
  rw [UnSortedHashtable.keys, List.length_map] at size
  rw [announcesParts_iff, count, size]
  exact eq_comm

end RtmpAmf0EcmaArray

namespace RtmpAmf0StrictArray

theorem announcesParts_iff (array : RtmpAmf0StrictArray) :
    array.any.AnnouncesParts ↔ array.count.toUInt32.toNat = loopRounds array.properties.length :=
  @Amf0.announcesParts_iff array.any array.count fun _ _ written => writeStrictArray_count written

theorem toNat_ofNat (length : Nat) : (Int32.ofNat length).toUInt32.toNat = length % 2 ^ 32 := by
  rw [Int32.toUInt32_ofNat', UInt32.toNat_ofNat']

theorem toNat_of_toInt {count : Int32} {length : Nat} (same : count.toInt = length) :
    count.toUInt32.toNat = length := by
  have bound := count.toInt_lt
  have spelled : count = Int32.ofNat length := by
    rw [← Int32.ofInt_toInt count, same, Int32.ofInt_eq_ofNat]
  rw [spelled, toNat_ofNat]
  omega

/-- An array as it is created, or read from a well formed encoding; a count from
2^31 on is negative, and announces nothing. -/
inductive Given : RtmpAmf0StrictArray -> Prop where
  | empty : Given empty
  | read {value : RtmpAmf0Any} {rest : List UInt8} {ret : Nat} {array : RtmpAmf0StrictArray}
      (wellFormed : value.WellFormed) (nonneg : 0 ≤ array.count.toInt)
      (read : rtmpAmf0ReadAny (value.encoding ++ rest) = .ok (ret, array.any)) : Given array

theorem Given.announced {array : RtmpAmf0StrictArray} (given : array.Given) :
    array.count.toUInt32.toNat = array.properties.length := by
  cases given with
  | empty => rfl
  | @read value rest _ _ wellFormed nonneg read =>
      rw [rtmpAmf0ReadAny_recovers wellFormed rest] at read
      rw [Outcome.value_eq read] at wellFormed
      cases wellFormed with
      | strictArray announced _ => exact toNat_of_toInt (by omega)

/-- What the count is worth, given what was seen of the calls. -/
structure Scanned (array : RtmpAmf0StrictArray) (seen : Nat × Bool) : Prop where
  length : array.properties.length = seen.1
  counted : seen.2 = false -> array.count.toUInt32.toNat = seen.1 % 2 ^ 32
  stale : seen.2 = true -> seen.1 = 0 ∧ array.count.toUInt32.toNat ≠ 0

theorem Given.scanned {array : RtmpAmf0StrictArray} (given : array.Given) :
    array.Scanned (array.properties.length, false) := by
  have small := array.count.toUInt32.toNat_lt
  refine ⟨rfl, fun _ => ?_, fun impossible => by cases impossible⟩
  rw [given.announced] at small ⊢
  exact (Nat.mod_eq_of_lt small).symm

theorem Scanned.after {array : RtmpAmf0StrictArray} {seen : Nat × Bool} (scanned : array.Scanned seen) (call : Call) :
    (array.after call).Scanned (call.scan seen) := by
  cases call with
  | append value =>
      have length : (array.properties ++ [value]).length = seen.1 + 1 := by
        rw [List.length_append, scanned.length]
        rfl
      refine ⟨length, fun _ => ?_, fun impossible => by cases impossible⟩
      show (Int32.ofNat (array.properties ++ [value]).length).toUInt32.toNat = _
      rw [toNat_ofNat, length]
      rfl
  | clear =>
      refine ⟨rfl, fun fresh => ?_, fun stale => ⟨rfl, ?_⟩⟩
      · rcases Bool.or_eq_false_iff.mp fresh with ⟨before, none⟩
        have counted := scanned.counted before
        rw [bne_eq_false_iff_eq] at none
        rw [none] at counted
        exact counted
      · rcases Bool.or_eq_true_iff.mp stale with before | some
        · exact (scanned.stale before).2
        · cases was : seen.2 with
          | true => exact (scanned.stale was).2
          | false =>
              have counted := scanned.counted was
              rw [bne_iff_ne] at some
              rw [← counted] at some
              exact some
  | copy =>
      refine ⟨?_, scanned.counted, scanned.stale⟩
      show (copyElements array.properties).length = _
      rw [copyElements_map, List.length_map]
      exact scanned.length

theorem Scanned.run {array : RtmpAmf0StrictArray} {seen : Nat × Bool} (scanned : array.Scanned seen)
    (calls : List Call) :
    (calls.foldl RtmpAmf0StrictArray.after array).Scanned (calls.foldl (fun seen call => call.scan seen) seen) := by
  induction calls generalizing array seen with
  | nil => exact scanned
  | cons call calls inductionHypothesis => exact inductionHypothesis (scanned.after call)

/-- What was seen of a run from this array. -/
def seenIn (array : RtmpAmf0StrictArray) (calls : List Call) : Nat × Bool :=
  calls.foldl (fun seen call => call.scan seen) (array.properties.length, false)

/-- The count is true unless elements were cleared that it still announces, or
there are so many that their number is negative as an `int`. -/
theorem announces_run_iff {array : RtmpAmf0StrictArray} (given : array.Given) (calls : List Call) :
    (calls.foldl after array).any.AnnouncesParts ↔
      (array.seenIn calls).2 = false ∧ (array.seenIn calls).1 % 2 ^ 32 < 2 ^ 31 := by
  have scanned := given.scanned.run calls
  rw [announcesParts_iff, scanned.length]
  constructor
  · intro same
    cases was : (array.seenIn calls).2 with
    | true =>
        rcases scanned.stale was with ⟨none, some⟩
        rw [none] at same
        exact absurd same some
    | false =>
        have most := (loopRounds_le (array.seenIn calls).1).2
        rw [← show _ = loopRounds (array.seenIn calls).1 from same, scanned.counted was] at most
        exact ⟨rfl, most⟩
  · rintro ⟨counted, bound⟩
    rw [scanned.counted counted, loopRounds]
    exact (if_pos bound).symm

/-! ## What follows an array -/

/-- A value behind the array is no element of it. -/
def KeepsNext (array : RtmpAmf0StrictArray) : Prop :=
  forall next : RtmpAmf0Any, next.WellFormed -> forall len bytes, array.any.write len = .ok bytes ->
    Exists fun value => rtmpAmf0ReadAny (bytes ++ next.encoding) = .ok (bytes.length, value)

theorem toInt_of_toNat {count : Int32} {length : Nat} (same : count.toUInt32.toNat = length)
    (small : length < 2 ^ 31) : count.toInt = length := by
  have spelled : count = Int32.ofNat length := by
    rw [← same, ← UInt32.toInt32_ofNat', UInt32.ofNat_toNat, Int32.toInt32_toUInt32]
  rw [spelled]
  exact Int32.toInt_ofNat_of_lt small

/-- No call announces more than what one `append` adds. -/
theorem bounded_run {array : RtmpAmf0StrictArray} {most : Nat} (count : array.count.toUInt32.toNat ≤ most)
    (length : array.properties.length ≤ most) (calls : List Call) :
    (calls.foldl after array).count.toUInt32.toNat ≤ most + calls.length ∧
      (calls.foldl after array).properties.length ≤ most + calls.length := by
  induction calls generalizing array most with
  | nil => exact ⟨count, length⟩
  | cons call calls inductionHypothesis =>
      have one : (array.after call).count.toUInt32.toNat ≤ most + 1 ∧ (array.after call).properties.length ≤ most + 1 := by
        cases call with
        | append value =>
            have added : (array.properties ++ [value]).length ≤ most + 1 := by
              rw [List.length_append]
              exact Nat.succ_le_succ length
            refine ⟨?_, added⟩
            show (Int32.ofNat (array.properties ++ [value]).length).toUInt32.toNat ≤ most + 1
            rw [toNat_ofNat]
            exact Nat.le_trans (Nat.mod_le _ _) added
        | clear => exact ⟨Nat.le_succ_of_le count, Nat.zero_le _⟩
        | copy =>
            refine ⟨Nat.le_succ_of_le count, ?_⟩
            show (copyElements array.properties).length ≤ most + 1
            rw [copyElements_map, List.length_map]
            exact Nat.le_succ_of_le length
      have rest := inductionHypothesis one.1 one.2
      rw [List.length_cons, Nat.add_comm calls.length 1, ← Nat.add_assoc]
      exact rest

/-- An array that announces an element and has none takes what follows it. -/
theorem not_keepsNext {array : RtmpAmf0StrictArray} (none : array.properties = [])
    (some : 0 < array.count.toInt) : ¬ array.KeepsNext := by
  intro keeps
  have bytes : array.any.encoding = writeInt8 rtmpAmf0StrictArray ++ writeInt32 array.count := by
    rw [any, none, RtmpAmf0Any.encoding, elementsEncoding, List.append_nil]
  have short : array.any.Short := by
    rw [any, none]
    exact .leaf trivial rfl
  have small : array.any.byteSize < 2 ^ 31 := by
    rw [any, none]
    exact (show 5 < 2 ^ 31 by decide)
  have written := Short.emits short small array.any.encoding.length (Nat.le_refl _)
  rcases keeps .null .null _ _ written with ⟨value, read⟩
  have rounds : array.count.toInt.toNat = 0 + (array.count.toInt.toNat - 1 + 1) := by omega
  have nonempty : RtmpAmf0Any.null.encoding ≠ [] := List.cons_ne_nil _ _
  have null : rtmpAmf0ReadAny RtmpAmf0Any.null.encoding = .ok (1, .null) := rfl
  have ended : (writeInt8 rtmpAmf0StrictArray ++ writeInt32 array.count).length + elementsSize [] + 1 =
      (writeInt8 rtmpAmf0StrictArray ++ writeInt32 array.count ++ RtmpAmf0Any.null.encoding).length := by
    rw [List.length_append, List.length_append]
    rfl
  have round : readElements rtmpAmf0ReadAny
      (writeInt8 rtmpAmf0StrictArray ++ writeInt32 array.count ++ RtmpAmf0Any.null.encoding)
      (0 + (array.count.toInt.toNat - 1 + 1)) (writeInt8 rtmpAmf0StrictArray ++ writeInt32 array.count).length [] =
        .ok ((writeInt8 rtmpAmf0StrictArray ++ writeInt32 array.count ++ RtmpAmf0Any.null.encoding).length, [.null]) := by
    refine (readElements_round (List.forall_mem_nil _) (writeInt8 rtmpAmf0StrictArray ++ writeInt32 array.count)
      nonempty (array.count.toInt.toNat - 1)).trans ?_
    rw [null, Outcome.ok_bind_do]
    show readElements _ _ _ ((writeInt8 rtmpAmf0StrictArray ++ writeInt32 array.count).length + elementsSize [] + 1) _ = _
    rw [ended]
    exact readElements_atEnd _ _ _
  rw [bytes, readAny_strictArray, rounds, round] at read
  have taken := congrArg Prod.fst (Outcome.ok.inj read)
  have longer : (writeInt8 rtmpAmf0StrictArray ++ writeInt32 array.count ++ RtmpAmf0Any.null.encoding).length =
      (writeInt8 rtmpAmf0StrictArray ++ writeInt32 array.count).length + 1 := List.length_append
  exact absurd (longer.symm.trans taken) (Nat.succ_ne_self _)

/-- While there are fewer than 2^31 elements, what follows an array in the
stream is left alone exactly if the array announces no cleared elements. -/
theorem keepsNext_run_iff {array : RtmpAmf0StrictArray} (given : array.Given) (calls : List Call)
    (few : array.properties.length + calls.length < 2 ^ 31)
    (values : forall value, value ∈ (calls.foldl after array).properties -> value.WellFormed) :
    (calls.foldl after array).KeepsNext ↔ (array.seenIn calls).2 = false := by
  have scanned := given.scanned.run calls
  have bounds := bounded_run (Nat.le_of_eq given.announced) (Nat.le_refl array.properties.length) calls
  constructor
  · intro keeps
    apply Bool.eq_false_iff.mpr
    intro stale
    rcases scanned.stale stale with ⟨none, some⟩
    have positive := toInt_of_toNat rfl (Nat.lt_of_le_of_lt bounds.1 few)
    refine not_keepsNext ?_ ?_ keeps
    · exact List.eq_nil_of_length_eq_zero (scanned.length.trans none)
    · rw [positive]
      omega
  · intro counted next _ len bytes written
    have length : (calls.foldl after array).properties.length < 2 ^ 31 := Nat.lt_of_le_of_lt bounds.2 few
    have same : (calls.foldl after array).count.toUInt32.toNat = (calls.foldl after array).properties.length := by
      rw [scanned.counted counted, scanned.length]
      apply Nat.mod_eq_of_lt
      rw [scanned.length] at length
      omega
    have wellFormed : (calls.foldl after array).any.WellFormed :=
      .strictArray (congrArg Int.toNat (toInt_of_toNat same length)) values
    rw [(Short.written (RtmpAmf0Any.wellFormed_iff.mp wellFormed).1 written).1]
    exact ⟨_, rtmpAmf0ReadAny_recovers wellFormed.reached next.encoding⟩

end RtmpAmf0StrictArray

/-! ## The counts of both arrays -/

/-- The count that an ECMA array announces after any sequence of calls is the
number of properties that `write` emits exactly if that number is the count it
was given with; that of a strict array is the number of the elements, and what
follows the array is not taken for an element, exactly if no elements were cleared
since the last `append` that it still announces.  From 2^31 items on the number is
negative as an `int`, and none is emitted. -/
theorem announcedCounts_iff {ecma : RtmpAmf0EcmaArray} {strict : RtmpAmf0StrictArray} (ecmaGiven : ecma.Given)
    (strictGiven : strict.Given) (ecmaCalls : List RtmpAmf0EcmaArray.Call) (calls : List RtmpAmf0StrictArray.Call) :
    ((ecmaCalls.foldl RtmpAmf0EcmaArray.after ecma).any.AnnouncesParts ↔
      loopRounds (ecmaCalls.foldl RtmpAmf0EcmaArray.Call.names ecma.properties.keys).length =
        ecma.count.toUInt32.toNat) ∧
    ((calls.foldl RtmpAmf0StrictArray.after strict).any.AnnouncesParts ↔
      (strict.seenIn calls).2 = false ∧ (strict.seenIn calls).1 % 2 ^ 32 < 2 ^ 31) ∧
    (strict.properties.length + calls.length < 2 ^ 31 ->
      (forall value, value ∈ (calls.foldl RtmpAmf0StrictArray.after strict).properties -> value.WellFormed) ->
      ((calls.foldl RtmpAmf0StrictArray.after strict).KeepsNext ↔ (strict.seenIn calls).2 = false)) :=
  ⟨RtmpAmf0EcmaArray.announces_run_iff ecmaGiven ecmaCalls, RtmpAmf0StrictArray.announces_run_iff strictGiven calls,
    RtmpAmf0StrictArray.keepsNext_run_iff strictGiven calls⟩

/-- One element is cleared, another appended, and the array copied. -/
theorem announcedCounts_iff_appended :
    (([.append .null, .clear, .append .undefined, .copy] : List RtmpAmf0StrictArray.Call).foldl
      RtmpAmf0StrictArray.after RtmpAmf0StrictArray.empty).any.AnnouncesParts := by
  have counts := announcedCounts_iff RtmpAmf0EcmaArray.Given.empty RtmpAmf0StrictArray.Given.empty []
    [.append .null, .clear, .append .undefined, .copy]
  exact counts.2.1.mpr (by decide)

/-- One property that is set in an empty ECMA array, and one element that is
appended to an empty strict array and cleared. -/
theorem announcedCounts_wrong :
    ¬ (forall calls : List RtmpAmf0EcmaArray.Call,
        (calls.foldl RtmpAmf0EcmaArray.after RtmpAmf0EcmaArray.empty).any.AnnouncesParts) ∧
      ¬ forall calls : List RtmpAmf0StrictArray.Call,
        (calls.foldl RtmpAmf0StrictArray.after RtmpAmf0StrictArray.empty).any.AnnouncesParts := by
  constructor
  · intro claimed
    have announced := (RtmpAmf0EcmaArray.announcesParts_iff _).mp (claimed [.set [0x61] (some .null)])
    exact absurd announced (by decide)
  · intro claimed
    have announced := (RtmpAmf0StrictArray.announcesParts_iff _).mp (claimed [.append .null, .clear])
    exact absurd announced (by decide)

end Amf0
end RtmpClient
