import RtmpClient.Amf0.Grammar

namespace RtmpClient
namespace Amf0

open Library
open Net

/-!
# What `rtmp_amf0_read_any` comes to

The grammar decides.  Bytes that begin with a value are accepted with the width
of this value.  Where the value of a property of an object breaks off, it is
deleted twice.  Everything else is refused.  The loops and the recursion are
bounded by the bytes that are left, because every value takes at least one byte
and a container hands on strictly fewer than it was given.
-/

/-! ## One item further on -/

section Items

variable {data : List UInt8} {trouble : List UInt8 -> Prop}

/-- At some place that the loop gets to there is trouble. -/
def Troubled (trouble : List UInt8 -> Prop) (form : Form) (data : List UInt8) : Prop :=
  Exists fun place => ValueAt form data place ∧ trouble place

theorem begins_property_iff {name width whole : Nat} (notEof : rtmpAmf0IsObjectEof data = false)
    (text : Text data name) (value : Begins .value (data.drop name) width) :
    Begins .properties data whole ↔ Exists fun rest =>
      whole = name + width + rest ∧ Begins .properties (data.drop (name + width)) rest := by
  constructor
  · intro begins
    rcases begins.of_named notEof text with ⟨_, rest, rfl, value', others⟩
    rcases value.width_unique value' with rfl
    exact ⟨rest, rfl, others⟩
  · rintro ⟨rest, rfl, others⟩
    exact .property notEof text value others

theorem troubled_property_iff {name width : Nat} (broken : forall data, trouble data -> Broken data)
    (notEof : rtmpAmf0IsObjectEof data = false) (text : Text data name) (value : Begins .value (data.drop name) width) :
    Troubled trouble .properties data ↔ Troubled trouble .properties (data.drop (name + width)) := by
  constructor
  · rintro ⟨place, inside, troubled⟩
    rcases inside.of_named text with rfl | ⟨_, value', others⟩
    · exact absurd value ((broken _ troubled).2 _)
    · rcases value.width_unique value' with rfl
      exact ⟨place, others, troubled⟩
  · rintro ⟨place, inside, troubled⟩
    exact ⟨place, .laterProperty notEof text value inside, troubled⟩

/-- The first value breaks off, so that the loop gets no further. -/
theorem troubled_broken_iff {name : Nat} (notEof : rtmpAmf0IsObjectEof data = false) (text : Text data name)
    (breaks : forall width, ¬ Begins .value (data.drop name) width) :
    Troubled trouble .properties data ↔ trouble (data.drop name) := by
  constructor
  · rintro ⟨place, inside, troubled⟩
    rcases inside.of_named text with rfl | ⟨width, value, _⟩
    · exact troubled
    · exact absurd value (breaks width)
  · intro troubled
    exact ⟨_, .property notEof text, troubled⟩

theorem not_troubled_unnamed (none : forall name, ¬ Text data name) : ¬ Troubled trouble .properties data := by
  rintro ⟨place, inside, _⟩
  cases inside with
  | property _ text => exact none _ text
  | laterProperty _ text _ _ => exact none _ text

theorem not_begins_unnamed (nonempty : data ≠ []) (notEof : rtmpAmf0IsObjectEof data = false)
    (none : forall name, ¬ Text data name) (width : Nat) : ¬ Begins .properties data width := by
  intro begins
  cases begins with
  | bufferEnd => exact nonempty rfl
  | objectEnd isEof => exact absurd (isEof.symm.trans notEof) Bool.noConfusion
  | property _ text _ _ => exact none _ text

theorem not_troubled_eof (isEof : rtmpAmf0IsObjectEof data = true) : ¬ Troubled trouble .properties data := by
  rintro ⟨place, inside, _⟩
  cases inside with
  | property notEof _ => exact absurd (isEof.symm.trans notEof) Bool.noConfusion
  | laterProperty notEof _ _ _ => exact absurd (isEof.symm.trans notEof) Bool.noConfusion

theorem begins_element_iff {most width whole : Nat} (value : Begins .value data width) :
    Begins (.elements (most + 1)) data whole ↔ Exists fun rest =>
      whole = width + rest ∧ Begins (.elements most) (data.drop width) rest := by
  constructor
  · intro begins
    rcases begins.of_more value.ne_nil with ⟨_, rest, rfl, value', others⟩
    rcases value.width_unique value' with rfl
    exact ⟨rest, rfl, others⟩
  · rintro ⟨rest, rfl, others⟩
    exact .element value others

theorem troubled_element_iff {most width : Nat} (broken : forall data, trouble data -> Broken data)
    (value : Begins .value data width) :
    Troubled trouble (.elements (most + 1)) data ↔ Troubled trouble (.elements most) (data.drop width) := by
  constructor
  · rintro ⟨place, inside, troubled⟩
    cases inside with
    | element _ => exact absurd value ((broken _ troubled).2 _)
    | laterElement value' others =>
        rcases value.width_unique value' with rfl
        exact ⟨place, others, troubled⟩
  · rintro ⟨place, inside, troubled⟩
    exact ⟨place, .laterElement value inside, troubled⟩

theorem troubled_brokenElement_iff {most : Nat} (nonempty : data ≠ [])
    (breaks : forall width, ¬ Begins .value data width) :
    Troubled trouble (.elements (most + 1)) data ↔ trouble data := by
  constructor
  · rintro ⟨place, inside, troubled⟩
    cases inside with
    | element _ => exact troubled
    | laterElement value _ => exact absurd value (breaks _)
  · intro troubled
    exact ⟨data, .element nonempty, troubled⟩

end Items

/-! ## The loops -/

/-- What a reader of values comes to on everything shorter. -/
def DecidesShorter (trouble : List UInt8 -> Prop) (read : Reader UInt8 RtmpAmf0Any) (data : List UInt8) : Prop :=
  forall shorter : List UInt8, shorter.length < data.length ->
    Decides (Begins .value shorter) (trouble shorter) (read shorter)

/-- What a loop comes to that stands at `offset`. -/
def LoopDecides {β : Type} (form : Form) (data : List UInt8) (offset : Nat) (trouble : List UInt8 -> Prop)
    (call : Outcome (Nat × β)) : Prop :=
  Decides (fun finish => Exists fun width => finish = offset + width ∧ Begins form (data.drop offset) width)
    (Troubled trouble form (data.drop offset)) call

section Loops

variable {trouble : List UInt8 -> Prop} {read : Reader UInt8 RtmpAmf0Any} {data : List UInt8}

theorem drop_ne_nil {offset : Nat} (more : offset < data.length) : data.drop offset ≠ [] := by
  apply List.ne_nil_of_length_pos
  rw [List.length_drop]
  omega

theorem loopDecides_atEnd {β : Type} {offset : Nat} {held : β} (ended : data.length ≤ offset) :
    LoopDecides .properties data offset trouble (.ok (offset, held)) := by
  rw [LoopDecides, List.drop_of_length_le ended]
  exact .accepted ⟨0, rfl, .bufferEnd⟩ (not_troubled_unnamed fun _ text => text.not_nil)

theorem readProperties_decides (decides : DecidesShorter trouble read data)
    (broken : forall data, trouble data -> Broken data) {rounds offset : Nat}
    {properties : UnSortedHashtable RtmpAmf0Any} (started : 1 ≤ offset) (inside : offset ≤ data.length)
    (enough : data.length ≤ offset + rounds) :
    LoopDecides .properties data offset trouble (readProperties read data rounds offset properties) := by
  induction rounds generalizing offset properties with
  | zero =>
      have ended : data.length ≤ offset := enough
      rw [readProperties, if_neg (Nat.not_lt_of_le ended)]
      exact loopDecides_atEnd ended
  | succ rounds inductionHypothesis =>
      rw [readProperties]
      by_cases more : offset < data.length
      · rw [if_pos more]
        by_cases ended : rtmpAmf0IsObjectEof (data.drop offset) = true
        · rw [if_pos ended, readObjectEof_eq ended]
          exact .accepted ⟨3, rfl, .objectEnd ended⟩ (not_troubled_eof ended)
        · rw [if_neg ended]
          have notEof := Bool.eq_false_iff.mpr ended
          rcases readUtf8_iff [] (data.drop offset) with ⟨name, str, text, named⟩ | ⟨none, code, refused, negative⟩
          · have room := text.inside
            rw [List.length_drop] at room
            have shorter : ((data.drop offset).drop name).length < data.length := by
              rw [List.length_drop, List.length_drop]
              omega
            have value := decides _ shorter
            simp only [readProperty, readPair, named, Outcome.ok_bind_do]
            generalize read ((data.drop offset).drop name) = answer at value
            cases value with
            | @accepted width found value safe =>
                have bound := value.width_le
                rw [List.length_drop, List.length_drop] at bound
                have positive := value.width_pos
                have rest := @inductionHypothesis (offset + (name + width)) (properties.set str (some found))
                  (by omega) (by omega) (by omega)
                have there : data.drop (offset + (name + width)) = (data.drop offset).drop (name + width) :=
                  List.drop_drop.symm
                rw [LoopDecides, there] at rest
                refine rest.congr (fun finish => ?_) (troubled_property_iff broken notEof text value)
                constructor
                · rintro ⟨whole, rfl, begins⟩
                  rcases (begins_property_iff notEof text value).mp begins with ⟨others, rfl, later⟩
                  exact ⟨others, (Nat.add_assoc offset (name + width) others).symm, later⟩
                · rintro ⟨others, rfl, begins⟩
                  exact ⟨name + width + others, Nat.add_assoc offset (name + width) others,
                    (begins_property_iff notEof text value).mpr ⟨others, rfl, begins⟩⟩
            | refused negative breaks safe =>
                refine .refused negative ?_ (mt (troubled_broken_iff notEof text breaks).mp safe)
                rintro _ ⟨width, rfl, begins⟩
                exact (ValueAt.property notEof text).breaks breaks width begins
            | faulted breaks troubled =>
                refine .faulted ?_ ((troubled_broken_iff notEof text breaks).mpr troubled)
                rintro _ ⟨width, rfl, begins⟩
                exact (ValueAt.property notEof text).breaks breaks width begins
          · rw [readProperty, readPair, refused]
            refine .refused negative ?_ (not_troubled_unnamed none)
            rintro _ ⟨width, rfl, begins⟩
            exact not_begins_unnamed (drop_ne_nil more) notEof none width begins
      · rw [if_neg more]
        exact loopDecides_atEnd (Nat.le_of_not_lt more)

theorem readElements_decides (decides : DecidesShorter trouble read data)
    (broken : forall data, trouble data -> Broken data) {remaining offset : Nat} {properties : List RtmpAmf0Any}
    (started : 1 ≤ offset) (inside : offset ≤ data.length) :
    LoopDecides (.elements remaining) data offset trouble (readElements read data remaining offset properties) := by
  induction remaining generalizing offset properties with
  | zero =>
      refine .accepted ⟨0, rfl, .noElement _⟩ ?_
      rintro ⟨place, stands, _⟩
      cases stands
  | succ remaining inductionHypothesis =>
      rw [readElements]
      by_cases more : offset < data.length
      · rw [if_pos more]
        have nonempty := drop_ne_nil more
        have value := decides _ (length_drop_lt started more)
        generalize read (data.drop offset) = answer at value
        cases value with
        | @accepted width found value safe =>
            have bound := value.width_le
            rw [List.length_drop] at bound
            have rest := @inductionHypothesis (offset + width) (properties ++ [found]) (by omega) (by omega)
            have there : data.drop (offset + width) = (data.drop offset).drop width := List.drop_drop.symm
            rw [LoopDecides, there] at rest
            refine rest.congr (fun finish => ?_) (troubled_element_iff broken value)
            constructor
            · rintro ⟨whole, rfl, begins⟩
              rcases (begins_element_iff value).mp begins with ⟨others, rfl, later⟩
              exact ⟨others, (Nat.add_assoc offset width others).symm, later⟩
            · rintro ⟨others, rfl, begins⟩
              exact ⟨width + others, Nat.add_assoc offset width others, (begins_element_iff value).mpr ⟨others, rfl, begins⟩⟩
        | refused negative breaks safe =>
            refine .refused negative ?_ (mt (troubled_brokenElement_iff nonempty breaks).mp safe)
            rintro _ ⟨width, rfl, begins⟩
            exact (ValueAt.element nonempty).breaks breaks width begins
        | faulted breaks troubled =>
            refine .faulted ?_ ((troubled_brokenElement_iff nonempty breaks).mpr troubled)
            rintro _ ⟨width, rfl, begins⟩
            exact (ValueAt.element nonempty).breaks breaks width begins
      · rw [if_neg more, LoopDecides, List.drop_of_length_le (Nat.le_of_not_lt more)]
        refine .accepted ⟨0, rfl, .elementsEnd _⟩ ?_
        rintro ⟨place, stands, _⟩
        cases stands with
        | element nonempty => exact nonempty rfl
        | laterElement value _ => exact value.ne_nil rfl

/-- What is left of a failed read to the object that called it: nothing where
discovery made nothing, and a value that it deletes again everywhere else. -/
theorem DecidesShorter.propertyValue (decides : DecidesShorter Spoiled read data) :
    DecidesShorter Broken (readPropertyValue read) data := by
  intro shorter less
  have value := decides shorter less
  rw [readPropertyValue]
  generalize read shorter = answer at value
  cases value with
  | accepted value _ => exact .accepted value fun broken => broken.2 _ value
  | refused negative breaks _ =>
      rcases (discovery_returns shorter).cases with ⟨made, found, _⟩ | ⟨code, none, _⟩
      · simp only [found]
        exact .faulted breaks ⟨⟨made, found⟩, breaks⟩
      · simp only [none]
        refine .refused negative breaks ?_
        rintro ⟨⟨made, found⟩, _⟩
        cases none.symm.trans found
  | faulted breaks spoiled => exact .faulted breaks spoiled.broken

end Loops

/-! ## The containers -/

section Containers

variable {readAny : Reader UInt8 RtmpAmf0Any} {data : List UInt8}

theorem readObject_decides (decides : DecidesShorter Spoiled readAny data)
    (found : RtmpAmf0Any.discovery data = .ok (.object [])) (properties : UnSortedHashtable RtmpAmf0Any) :
    Decides (Begins .value data) (Spoiled data) (RtmpAmf0Object.read readAny properties data) := by
  have nonempty : 1 ≤ data.length := discovery_nonempty found
  have marked := discovery_marked found fun impossible => by cases impossible
  have same : ¬ (RtmpAmf0Any.object []).typeMarker ≠ rtmpAmf0Object := fun different => different rfl
  rw [RtmpAmf0Object.read, if_neg (Nat.not_lt.mpr nonempty), marked, Outcome.ok_bind_do, if_neg same]
  refine (readProperties_decides decides.propertyValue (fun _ broken => broken) (Nat.le_refl 1) nonempty
    (Nat.le_add_left data.length 1)).congr (fun width => ?_) (spoiled_iff found)
  exact begins_iff found

/-- Both arrays read their count in front of their loop. -/
theorem decides_counted {β γ : Type} {form : Form} {expected : Int8} {loop : Int32 -> Outcome (Nat × β)}
    {build : Int32 -> β -> γ} (marked : readInt8 data 0 = .ok expected)
    (begins : forall width, Begins .value data width ↔
      5 ≤ data.length ∧ Exists fun inner => width = 5 + inner ∧ Begins form (data.drop 5) inner)
    (spoils : Spoiled data ↔ 5 ≤ data.length ∧ Troubled Spoiled form (data.drop 5))
    (decides : 5 ≤ data.length -> LoopDecides form data 5 Spoiled
      (loop (UInt32.ofNat (beValue ((data.drop 1).take 4))).toInt32)) :
    Decides (Begins .value data) (Spoiled data) (if data.length < 5 then .error (-1)
      else do
        let marker ← readInt8 data 0
        if marker ≠ expected then .error (-2)
        else do
          let count ← readInt32 data 1
          let (ret, properties) ← loop count
          return (ret, build count properties)) := by
  by_cases counted : 5 ≤ data.length
  · have same : ¬ expected ≠ expected := fun different => different rfl
    rw [if_neg (Nat.not_lt.mpr counted), marked, Outcome.ok_bind_do, if_neg same,
      readInt32_of_le (show 1 + 4 ≤ data.length from counted), Outcome.ok_bind_do]
    refine ((decides counted).map _).congr (fun width => ?_) ?_
    · exact (begins width).trans (and_iff_right counted)
    · exact spoils.trans (and_iff_right counted)
  · rw [if_pos (Nat.lt_of_not_le counted)]
    exact .refused (by decide) (fun width whole => counted ((begins width).mp whole).1)
      fun spoiled => counted (spoils.mp spoiled).1

theorem readEcmaArray_decides (decides : DecidesShorter Spoiled readAny data)
    (found : RtmpAmf0Any.discovery data = .ok (.ecmaArray 0 [])) :
    Decides (Begins .value data) (Spoiled data) (RtmpAmf0EcmaArray.read readAny [] data) := by
  have marked := discovery_marked found fun impossible => by cases impossible
  refine decides_counted marked (fun width => begins_iff found) (spoiled_iff found) fun counted => ?_
  exact readProperties_decides decides (fun _ spoiled => spoiled.broken) (by decide) counted
    (Nat.le_add_left data.length 5)

theorem readStrictArray_decides (decides : DecidesShorter Spoiled readAny data)
    (found : RtmpAmf0Any.discovery data = .ok (.strictArray 0 [])) :
    Decides (Begins .value data) (Spoiled data) (RtmpAmf0StrictArray.read readAny [] data) := by
  have marked := discovery_marked found fun impossible => by cases impossible
  refine decides_counted marked (fun width => begins_iff found) (spoiled_iff found) fun counted => ?_
  exact readElements_decides decides (fun _ spoiled => spoiled.broken) (by decide) counted

/-- The virtual `read` of the instance that discovery made. -/
theorem read_decides (decides : DecidesShorter Spoiled readAny data) {value : RtmpAmf0Any}
    (found : RtmpAmf0Any.discovery data = .ok value) :
    Decides (Begins .value data) (Spoiled data) (value.read readAny data) := by
  have fresh := discovery_fresh found
  have scalar {width : Nat} (fixed : value.scalarWidth = some width) (safe : ¬ Spoiled data) :
      Decides (Begins .value data) (Spoiled data) (value.read readAny data) := by
    rcases scalar_read readAny found fixed with ⟨enough, stored, read⟩ | ⟨short, refused⟩
    · rw [read]
      exact .accepted (.scalar found fixed enough) safe
    · refine .of_refused refused (fun other begins => ?_) safe
      rcases (contents_fixed fixed).mp ((begins_iff found).mp begins) with ⟨rfl, inside⟩
      exact Nat.not_lt_of_le inside short
  cases value with
  | object properties =>
      rcases RtmpAmf0Any.object.inj fresh with rfl
      exact (readObject_decides decides found []).map RtmpAmf0Any.object
  | ecmaArray count properties =>
      rcases RtmpAmf0Any.ecmaArray.inj fresh with ⟨rfl, rfl⟩
      exact (readEcmaArray_decides decides found).map fun parts => RtmpAmf0Any.ecmaArray parts.1 parts.2
  | strictArray count properties =>
      rcases RtmpAmf0Any.strictArray.inj fresh with ⟨rfl, rfl⟩
      exact (readStrictArray_decides decides found).map fun parts => RtmpAmf0Any.strictArray parts.1 parts.2
  | string text =>
      rcases RtmpAmf0Any.string.inj fresh with rfl
      have safe : ¬ Spoiled data := (spoiled_iff found).mp
      rcases string_read readAny found with ⟨width, value, text, read⟩ | ⟨none, refused⟩
      · rw [read]
        exact .accepted (.string found text) safe
      · refine .of_refused refused (fun width begins => ?_) safe
        rcases (begins_iff found).mp begins with ⟨_, _, text⟩
        exact none _ text
  | _ => exact scalar rfl (spoiled_iff found).mp

end Containers

/-! ## The whole value -/

theorem readAnyWithin_decides {depth : Nat} : forall {data : List UInt8}, data.length < depth ->
    Decides (Begins .value data) (Spoiled data) (readAnyWithin depth data) := by
  induction depth with
  | zero =>
      intro data within
      exact absurd within (Nat.not_lt_zero _)
  | succ depth inductionHypothesis =>
      intro data within
      have shorter : DecidesShorter Spoiled (readAnyWithin depth) data := fun shorter less =>
        inductionHypothesis (Nat.lt_of_lt_of_le less (Nat.le_of_lt_succ within))
      rw [readAnyWithin]
      rcases (discovery_returns data).cases with ⟨value, found, _⟩ | ⟨code, none, _⟩
      · rw [found, Outcome.errorAs_ok, Outcome.ok_bind_do]
        exact (read_decides shorter found).errorAs (by decide)
      · have nothing : ¬ Exists fun value => RtmpAmf0Any.discovery data = .ok value := by
          rintro ⟨value, found⟩
          cases none.symm.trans found
        rw [none]
        exact .refused (by decide) (fun width begins => nothing begins.discovered) fun spoiled => nothing spoiled.broken.1

theorem rtmpAmf0ReadAny_decides (data : List UInt8) :
    Decides (Begins .value data) (Spoiled data) (rtmpAmf0ReadAny data) :=
  readAnyWithin_decides (Nat.lt_succ_self data.length)

/-- The grammar is what `rtmp_amf0_read_any` accepts. -/
theorem rtmpAmf0ReadAny_ok_iff (data : List UInt8) (width : Nat) :
    (Exists fun value => rtmpAmf0ReadAny data = .ok (width, value)) ↔ Begins .value data width :=
  (rtmpAmf0ReadAny_decides data).ok_iff (fun _ _ begins begins' => begins.width_unique begins') width

theorem rtmpAmf0ReadAny_fault_iff (data : List UInt8) : rtmpAmf0ReadAny data = .fault ↔ Spoiled data :=
  (rtmpAmf0ReadAny_decides data).fault_iff

theorem Spoiled.ne_nil {data : List UInt8} (spoiled : Spoiled data) : data ≠ [] := by
  rintro rfl
  cases spoiled.broken.1.choose_spec

theorem rtmpAmf0ReadAny_consumes {data : List UInt8} (clean : ¬ Spoiled data) : Consumes 1 rtmpAmf0ReadAny data :=
  (rtmpAmf0ReadAny_decides data).returns clean fun _ _ begins => ⟨begins.width_pos, begins.width_le⟩

/-- `rtmp_amf0_read_any` returns, with a negative code or with a number of bytes
that is positive and no larger than the buffer. -/
def ReadsWithin (data : List UInt8) : Prop :=
  (Exists fun code => rtmpAmf0ReadAny data = .error code ∧ code < 0) ∨
    Exists fun ret => Exists fun value => rtmpAmf0ReadAny data = .ok (ret, value) ∧ 1 ≤ ret ∧ ret ≤ data.length

/-- Reading stays within the buffer and returns exactly where it deletes nothing
twice. -/
theorem rtmpAmf0ReadAny_bounded_iff (data : List UInt8) : ReadsWithin data ↔ ¬ Spoiled data := by
  constructor
  · intro within spoiled
    have faulted := (rtmpAmf0ReadAny_fault_iff data).mpr spoiled
    rcases within with ⟨code, refused, _⟩ | ⟨ret, value, read, _⟩
    · cases faulted.symm.trans refused
    · cases faulted.symm.trans read
  · intro clean
    rcases Outcome.Returns.cases (rtmpAmf0ReadAny_consumes clean) with ⟨⟨ret, value⟩, found, bounds⟩ | refused
    · exact Or.inr ⟨ret, value, found, bounds⟩
    · exact Or.inl refused

/-- An object whose one property is a string that breaks off. -/
theorem rtmpAmf0ReadAny_deletes_twice : ¬ forall data : List UInt8, ReadsWithin data := by
  intro claimed
  have faulted : rtmpAmf0ReadAny [0x03, 0x00, 0x00, 0x02] = .fault := rfl
  rcases claimed [0x03, 0x00, 0x00, 0x02] with ⟨code, refused, _⟩ | ⟨ret, value, read, _⟩
  · cases faulted.symm.trans refused
  · cases faulted.symm.trans read

end Amf0
end RtmpClient
