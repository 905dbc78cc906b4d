import RtmpClient.Amf0.Written
import RtmpClient.Library.Returns

namespace RtmpClient
namespace Amf0

open Library
open Net
open RtmpAmf0Any

/-!
# How much room `write` needs

`Emits` says what is written where there is room.  Here is the other half:
with one byte less than the size every writer returns a negative code.
Each of them checks the room for its own next item only, so that the shortage
is found at the item that does not fit, after everything before it was stored.
-/

/-! ## Values without parts -/

theorem writeUtf8_refuses {value : List UInt8} (fits : value.length ≤ 32767) :
    RefusesBelow (rtmpAmf0WriteUtf8 value) (RtmpAmf0Size.utf8 value) := by
  intro room short
  rw [RtmpAmf0Size.utf8] at short
  have scarce : (room : Int) < 2 + (value.length : Int) := by omega
  rw [rtmpAmf0WriteUtf8]
  simp only [toInt_length fits, scarce, if_true]
  exact Outcome.refused_error (by decide)

theorem writeString_refuses {value : List UInt8} (fits : value.length ≤ 32767) :
    RefusesBelow (rtmpAmf0WriteString value) (RtmpAmf0Size.str value) := by
  intro room short
  rw [RtmpAmf0Size.str] at short
  by_cases none : room < 1
  · exact Outcome.refused_of_short none
  · have body := writeUtf8_refuses fits (room - 1) (by omega)
    rw [rtmpAmf0WriteString, if_neg none, store_int8 _ (Nat.le_of_not_lt none)]
    exact body.bind

/-! ## The loops and the containers -/

theorem writeProperties_refuses {rounds : Nat} {properties : List (List UInt8 × RtmpAmf0Any)}
    (enough : properties.length ≤ rounds)
    (fit : forall property, property ∈ properties -> property.1.length ≤ 32767)
    (emit : forall property, property ∈ properties -> Emits property.2.write property.2.encoding)
    (refuse : forall property, property ∈ properties -> RefusesBelow property.2.write property.2.byteSize) :
    RefusesBelow (writeProperties rounds properties) (propertiesSize properties) := by
  induction properties generalizing rounds with
  | nil =>
      intro room short
      exact absurd short (Nat.not_lt_zero room)
  | cons property properties inductionHypothesis =>
      rcases property with ⟨name, value⟩
      rcases Nat.exists_eq_add_one_of_ne_zero (Nat.ne_zero_of_lt enough) with ⟨rounds, rfl⟩
      have rest := inductionHypothesis (Nat.le_of_succ_le_succ enough)
        (fun later member => fit later (List.mem_cons_of_mem _ member))
        (fun later member => emit later (List.mem_cons_of_mem _ member))
        (fun later member => refuse later (List.mem_cons_of_mem _ member))
      have fitName : name.length ≤ 32767 := fit (name, value) List.mem_cons_self
      have emits : Emits value.write value.encoding := emit (name, value) List.mem_cons_self
      have keySize := utf8Encoding_length name
      have bodySize := value.encoding_length
      intro room short
      rw [propertiesSize] at short
      rw [writeProperties]
      -- the item that is the first not to fit
      by_cases key : room < RtmpAmf0Size.utf8 name
      · exact (writeUtf8_refuses fitName room key).bind
      · have head : rtmpAmf0WriteUtf8 name room = .ok (utf8Encoding name) :=
          writeUtf8_emits fitName room (by omega)
        simp only [head, Outcome.ok_bind_do]
        by_cases body : room - (utf8Encoding name).length < value.byteSize
        · exact (refuse (name, value) List.mem_cons_self _ body).bind
        · simp only [emits (room - (utf8Encoding name).length) (by omega), Outcome.ok_bind_do]
          exact (rest _ (by omega)).bind

theorem writeElements_refuses {rounds : Nat} {properties : List RtmpAmf0Any} (enough : properties.length ≤ rounds)
    (emit : forall value, value ∈ properties -> Emits value.write value.encoding)
    (refuse : forall value, value ∈ properties -> RefusesBelow value.write value.byteSize) :
    RefusesBelow (writeElements rounds properties) (elementsSize properties) := by
  induction properties generalizing rounds with
  | nil =>
      intro room short
      exact absurd short (Nat.not_lt_zero room)
  | cons value properties inductionHypothesis =>
      rcases Nat.exists_eq_add_one_of_ne_zero (Nat.ne_zero_of_lt enough) with ⟨rounds, rfl⟩
      have rest := inductionHypothesis (Nat.le_of_succ_le_succ enough)
        (fun later member => emit later (List.mem_cons_of_mem value member))
        (fun later member => refuse later (List.mem_cons_of_mem value member))
      have bodySize := value.encoding_length
      intro room short
      rw [elementsSize] at short
      rw [writeElements]
      by_cases body : room < value.byteSize
      · exact ((refuse value List.mem_cons_self room body).errorAs (by decide)).bind
      · have written : value.write room = .ok value.encoding := emit value List.mem_cons_self room (by omega)
        simp only [written, Outcome.errorAs_ok, Outcome.ok_bind_do]
        exact (rest _ (by omega)).bind

theorem writeObjectEof_refuses : RefusesBelow RtmpAmf0ObjectEof.write RtmpAmf0Size.objectEof :=
  fun _ short => Outcome.refused_of_short short

theorem writeObject_refuses {loop : Writer UInt8} {properties : List (List UInt8 × RtmpAmf0Any)}
    (emits : Emits loop (propertiesEncoding properties)) (refuses : RefusesBelow loop (propertiesSize properties)) :
    RefusesBelow (RtmpAmf0Object.write loop) (RtmpAmf0Any.object properties).byteSize := by
  intro room short
  have size := propertiesEncoding_length properties
  rw [RtmpAmf0Any.byteSize] at short
  by_cases none : room < 1
  · exact Outcome.refused_of_short none
  · rw [RtmpAmf0Object.write, if_neg none, store_int8 _ (Nat.le_of_not_lt none)]
    by_cases scarce : room - 1 < propertiesSize properties
    · exact (refuses _ scarce).bind
    · simp only [Outcome.ok_bind_do, emits (room - 1) (by omega)]
      exact (writeObjectEof_refuses _ (by omega)).bind

theorem writeEcmaArray_refuses (count : Int32) {loop : Writer UInt8} {properties : List (List UInt8 × RtmpAmf0Any)}
    (emits : Emits loop (propertiesEncoding properties)) (refuses : RefusesBelow loop (propertiesSize properties)) :
    RefusesBelow (RtmpAmf0EcmaArray.write count loop) (RtmpAmf0Any.ecmaArray count properties).byteSize := by
  intro room short
  have size := propertiesEncoding_length properties
  rw [RtmpAmf0Any.byteSize] at short
  by_cases none : room < 5
  · exact Outcome.refused_of_short none
  · rw [RtmpAmf0EcmaArray.write, if_neg none, store_int8 _ (by omega), Outcome.ok_bind_do,
      store_int32 _ (by omega), Outcome.ok_bind_do]
    by_cases scarce : room - 5 < propertiesSize properties
    · exact (refuses _ scarce).bind
    · simp only [Outcome.ok_bind_do, emits (room - 5) (by omega)]
      exact (writeObjectEof_refuses _ (by omega)).bind

theorem writeStrictArray_refuses (count : Int32) {loop : Writer UInt8} {properties : List RtmpAmf0Any}
    (refuses : RefusesBelow loop (elementsSize properties)) :
    RefusesBelow (RtmpAmf0StrictArray.write count loop) (RtmpAmf0Any.strictArray count properties).byteSize := by
  intro room short
  rw [RtmpAmf0Any.byteSize] at short
  by_cases none : room < 5
  · exact Outcome.refused_of_short none
  · rw [RtmpAmf0StrictArray.write, if_neg none, store_int8 _ (by omega), Outcome.ok_bind_do,
      store_int32 _ (by omega), Outcome.ok_bind_do]
    exact (refuses _ (by omega)).bind

/-! ## The whole value -/

theorem RtmpAmf0Any.Short.refuses_counted {value : RtmpAmf0Any} (short : value.Short) (counted : value.Counted) :
    RefusesBelow value.write value.byteSize := by
  induction short with
  | @intro value fits inside inductionHypothesis =>
      have emit : forall part, part ∈ value.parts -> Emits part.write part.encoding := fun part member =>
        Short.emits_counted (inside part member) (counted.inside part member)
      have refuse : forall part, part ∈ value.parts -> RefusesBelow part.write part.byteSize := fun part member =>
        inductionHypothesis part member (counted.inside part member)
      have each {holds : RtmpAmf0Any -> Prop} {properties : List (List UInt8 × RtmpAmf0Any)}
          (parts : forall part, part ∈ properties.map Prod.snd -> holds part) :
          forall property, property ∈ properties -> holds property.2 :=
        fun property member => parts property.2 (List.mem_map_of_mem member)
      have few := counted.here
      cases value with
      | string value => exact writeString_refuses fits
      | object properties =>
          rw [CountedHere, parts, List.length_map] at few
          rw [write, loopRounds_of_lt few]
          exact writeObject_refuses (writeProperties_emits (Nat.le_refl _) fits (each emit))
            (writeProperties_refuses (Nat.le_refl _) fits (each emit) (each refuse))
      | ecmaArray count properties =>
          rw [CountedHere, parts, List.length_map] at few
          rw [write, loopRounds_of_lt few]
          exact writeEcmaArray_refuses count (writeProperties_emits (Nat.le_refl _) fits (each emit))
            (writeProperties_refuses (Nat.le_refl _) fits (each emit) (each refuse))
      | strictArray count properties =>
          rw [CountedHere, parts] at few
          rw [write, loopRounds_of_lt few]
          exact writeStrictArray_refuses count (writeElements_refuses (Nat.le_refl _) emit refuse)
      | _ => exact fun _ scarce => Outcome.refused_of_short scarce

/-- A value with short strings and names is not written in less than the size of
what is reached of it. -/
theorem RtmpAmf0Any.Short.refuses {value : RtmpAmf0Any} (short : value.Short) :
    RefusesBelow value.write value.reached.byteSize := by
  have refuses := Short.refuses_counted (Short.reached short) value.counted_reached
  rwa [value.write_reached] at refuses

/-- What `write` stores is the encoding of what it reaches. -/
theorem RtmpAmf0Any.Short.written {value : RtmpAmf0Any} (short : value.Short) {room : Nat} {bytes : List UInt8}
    (written : value.write room = .ok bytes) : bytes = value.reached.encoding ∧ bytes.length ≤ room := by
  have size := value.reached.encoding_length
  by_cases enough : value.reached.byteSize ≤ room
  · have emitted := Short.emits_reached short room (by omega)
    rcases Outcome.ok.inj (written.symm.trans emitted) with rfl
    exact ⟨rfl, by omega⟩
  · exact absurd written (Short.refuses short room (Nat.lt_of_not_le enough)).not_ok

/-- `write` returns `total_size` bytes if the buffer has room for them, and a
negative code if not.  No buffer makes it store a byte past its end.  The number
that `total_size` returns as an `int` is the size of what is reached, which below
2^31 is the size of the value. -/
theorem write_fits_or_refuses {value : RtmpAmf0Any} (short : value.Short) (len : Nat) :
    (value.totalSize = Int32.ofNat value.reached.byteSize ∧
      (value.byteSize < 2 ^ 31 -> value.reached = value ∧ value.totalSize.toInt = value.byteSize)) ∧
      (value.reached.byteSize ≤ len ->
        Exists fun bytes => value.write len = .ok bytes ∧ bytes.length = value.reached.byteSize) ∧
      (len < value.reached.byteSize -> Exists fun code => value.write len = .error code ∧ code < 0) := by
  have total := value.totalSize_eq
  refine ⟨⟨total, fun inInt => ?_⟩, fun enough => ?_, Short.refuses short len⟩
  · exact ⟨Counted.reached_eq (counted_of_byteSize inInt), totalSize_toInt inInt⟩
  · have size := value.reached.encoding_length
    exact ⟨value.reached.encoding, Short.emits_reached short len (by omega), size⟩

/-- An array in an object, in the room that it needs and in one byte less. -/
theorem write_fits_or_refuses_nested :
    let value := RtmpAmf0Any.object [([0x61], .strictArray 1 [.string [0x62]])]
    (Exists fun bytes => value.write 16 = .ok bytes ∧ bytes.length = 16) ∧
      Exists fun code => value.write 15 = .error code ∧ code < 0 := by
  intro value
  have inner : (RtmpAmf0Any.strictArray 1 [.string [0x62]]).Short :=
    .intro trivial (List.forall_mem_cons.mpr ⟨.leaf (by decide : 1 ≤ 32767) rfl, List.forall_mem_nil _⟩)
  have short : value.Short :=
    .intro (List.forall_mem_cons.mpr ⟨by decide, List.forall_mem_nil _⟩)
      (List.forall_mem_cons.mpr ⟨inner, List.forall_mem_nil _⟩)
  exact ⟨(write_fits_or_refuses short 16).2.1 (by decide), (write_fits_or_refuses short 15).2.2 (by decide)⟩

end Amf0
end RtmpClient
