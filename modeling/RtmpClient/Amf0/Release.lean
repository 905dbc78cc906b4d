import RtmpClient.Amf0.Ownership
import RtmpClient.Amf0.Verdict

namespace RtmpClient
namespace Amf0

open Library
open Net

/-!
# What a failed read deletes

A read that fails has deleted everything that it created, once, unless it failed
below an object: there the value that `rtmp_amf0_read_any` has deleted is
deleted again, because the pointer to it is not null.
-/

/-! ## What a read does to the ledger -/

/-- What `rtmp_amf0_read_any` leaves to a caller who owns `context`. -/
inductive Verdict (data : List UInt8) (context : List Nat) (result : Recorded (Option Instance)) : Prop where
  | accepted {width : Nat} {held : Instance} (begins : Begins .value data width) (answered : result.ret = .ok width)
      (stored : result.left = some held) (balanced : result.ledger.Balanced (held.reached ++ context))
  | unfound {code : Int} (nothing : ¬ Exists fun value => RtmpAmf0Any.discovery data = .ok value)
      (answered : result.ret = .error code) (stored : result.left = none)
      (balanced : result.ledger.Balanced context)
  | refused {code : Int} {held : Instance} (broken : Broken data) (clean : ¬ Spoiled data)
      (answered : result.ret = .error code) (stored : result.left = some held)
      (gone : held.id ∈ result.ledger.deleted) (balanced : result.ledger.Balanced context)
  | spoiled {code : Int} {held : Instance} (spoiled : Spoiled data) (answered : result.ret = .error code)
      (stored : result.left = some held) (twice : result.ledger.TwiceDeleted)

/-- What a loop leaves that stands at `offset`, in front of `data`. -/
inductive LoopVerdict {β : Type} (form : Form) (data : List UInt8) (offset : Nat) (trouble : List UInt8 -> Prop)
    (owned : β -> List Nat) (context : List Nat) (result : Recorded β) : Prop where
  | accepted {width : Nat} (begins : Begins form data width) (answered : result.ret = .ok (offset + width))
      (balanced : result.ledger.Balanced (owned result.left ++ context))
  | refused {code : Int} (breaks : forall width, ¬ Begins form data width)
      (clean : ¬ Troubled trouble form data) (answered : result.ret = .error code)
      (balanced : result.ledger.Balanced (owned result.left ++ context))
  | spoiled {code : Int} (troubled : Troubled trouble form data) (answered : result.ret = .error code)
      (twice : result.ledger.TwiceDeleted)

/-- The reader does this on everything shorter. -/
def Judges (readAny : RecordedReader) (length : Nat) : Prop :=
  forall shorter : List UInt8, shorter.length < length -> forall (ledger : Ledger) (context : List Nat),
    ledger.Balanced context -> Verdict shorter context (readAny shorter ledger)

theorem Verdict.cases {data : List UInt8} {context : List Nat} {result : Recorded (Option Instance)}
    (verdict : Verdict data context result) :
    (Exists fun width => Exists fun held => Begins .value data width ∧ result.ret = .ok width ∧
      result.left = some held ∧ result.ledger.Balanced (held.reached ++ context)) ∨
    (forall width, ¬ Begins .value data width) ∧ Exists fun code => result.ret = .error code := by
  cases verdict with
  | accepted begins answered stored balanced => exact Or.inl ⟨_, _, begins, answered, stored, balanced⟩
  | unfound nothing answered _ _ => exact Or.inr ⟨fun _ begins => nothing begins.discovered, _, answered⟩
  | refused broken _ answered _ _ _ => exact Or.inr ⟨broken.2, _, answered⟩
  | spoiled spoiled answered _ _ => exact Or.inr ⟨spoiled.broken.2, _, answered⟩

/-- What a loop does about a value that failed leaves the ledger balanced unless
the value is `trouble`. -/
structure CleansUp (cleanUp : Recorded (Option Instance) -> Ledger) (trouble : List UInt8 -> Prop) : Prop where
  broken : forall data, trouble data -> Broken data
  handled : forall data context result code, Verdict data context result -> result.ret = .error code ->
    trouble data ∧ (cleanUp result).TwiceDeleted ∨ ¬ trouble data ∧ (cleanUp result).Balanced context

/-- Both arrays leave the record as it is. -/
theorem cleansUp_arrays : CleansUp Recorded.ledger Spoiled where
  broken := fun _ spoiled => spoiled.broken
  handled := by
    intro data context result code verdict failed
    cases verdict with
    | accepted _ answered _ _ => cases answered.symm.trans failed
    | unfound nothing _ _ balanced => exact Or.inr ⟨fun spoiled => nothing spoiled.broken.1, balanced⟩
    | refused _ clean _ _ _ balanced => exact Or.inr ⟨clean, balanced⟩
    | spoiled spoiled _ _ twice => exact Or.inl ⟨spoiled, twice⟩

/-- An object deletes what was deleted. -/
theorem cleansUp_object : CleansUp deletePropertyValue Broken where
  broken := fun _ broken => broken
  handled := by
    intro data context result code verdict failed
    cases verdict with
    | accepted _ answered _ _ => cases answered.symm.trans failed
    | unfound nothing _ stored balanced =>
        rw [deletePropertyValue, stored]
        exact Or.inr ⟨fun broken => nothing broken.1, balanced⟩
    | refused broken _ _ stored gone _ =>
        rw [deletePropertyValue, stored]
        exact Or.inl ⟨broken, .of_mem gone (Instance.itself _)⟩
    | spoiled spoiled _ stored twice =>
        rw [deletePropertyValue, stored]
        exact Or.inl ⟨spoiled.broken, twice.delete _⟩

/-! ## The loops -/

/-- What a table reaches is what the entry of a name reaches, and the others. -/
theorem propertiesReached_eraseP {properties : UnSortedHashtable Instance} {key : List UInt8}
    {elem : List UInt8 × Instance} (found : properties.find? (fun elem => key == elem.1) = some elem) :
    (propertiesReached properties).Perm
      (elem.2.reached ++ propertiesReached (properties.eraseP fun elem => key == elem.1)) := by
  induction properties with
  | nil => cases found
  | cons head rest inductionHypothesis =>
      rw [propertiesReached, List.flatMap_cons]
      by_cases here : (key == head.1) = true
      · have same : head = elem := by
          rw [List.find?_cons, here] at found
          exact Option.some.inj found
        rw [List.eraseP_cons, here, ← same]
        exact .refl _
      · rw [Bool.not_eq_true] at here
        rw [List.find?_cons, here] at found
        rw [List.eraseP_cons, here, cond_false, propertiesReached, List.flatMap_cons]
        refine ((inductionHypothesis found).append_left head.2.reached).trans ?_
        rw [← List.append_assoc, ← List.append_assoc]
        exact List.perm_append_comm.append_right _

/-- Setting a property gives the container what was read, and deletes what it
displaces. -/
theorem balanced_set {ledger : Ledger} {properties : UnSortedHashtable Instance} {held : Instance} {context : List Nat}
    (key : List UInt8) (container : Nat)
    (balanced : ledger.Balanced (held.reached ++ (propertiesReached properties ++ context))) :
    (insertInto container (some held) (displace properties key ledger)).Balanced
      (propertiesReached (properties.set key (some held)) ++ context) := by
  have reached : propertiesReached (properties.set key (some held)) =
      propertiesReached (properties.eraseP fun elem => key == elem.1) ++ held.reached := by
    rw [UnSortedHashtable.set, propertiesReached, List.flatMap_append, List.flatMap_singleton]
    rfl
  have swap (before : List Nat) : (held.reached ++ (before ++ context)).Perm (before ++ held.reached ++ context) := by
    rw [← List.append_assoc]
    exact List.perm_append_comm.append_right _
  have displaced : (displace properties key ledger).Balanced
      (propertiesReached (properties.set key (some held)) ++ context) := by
    rw [reached, displace]
    cases found : properties.find? fun elem => key == elem.1 with
    | none =>
        have kept : properties.eraseP (fun elem => key == elem.1) = properties :=
          List.eraseP_of_forall_not (List.find?_eq_none.mp found)
        rw [kept]
        exact balanced.perm (swap _)
    | some elem =>
        have parts := ((propertiesReached_eraseP found).append_right context).append_left held.reached
        have whole := balanced.perm (parts.trans (swap _))
        rw [List.append_assoc, List.append_assoc] at whole
        rw [List.append_assoc]
        exact whole.delete
  apply displaced.insert container
  rw [reached]
  exact List.mem_append_left _ (List.mem_append_right _ held.itself)

section Steps

variable {data : List UInt8} {offset : Nat} {trouble : List UInt8 -> Prop} {β : Type} {owned : β -> List Nat}
variable {context : List Nat} {result : Recorded β}

/-- The value of a property fails. -/
theorem LoopVerdict.propertyFailed {name : Nat} {code : Int} (notEof : rtmpAmf0IsObjectEof data = false)
    (text : Text data name) (breaks : forall width, ¬ Begins .value (data.drop name) width)
    (answered : result.ret = .error code)
    (handled : trouble (data.drop name) ∧ result.ledger.TwiceDeleted ∨
      ¬ trouble (data.drop name) ∧ result.ledger.Balanced (owned result.left ++ context)) :
    LoopVerdict .properties data offset trouble owned context result := by
  have here := @troubled_broken_iff data trouble name notEof text breaks
  rcases handled with ⟨troubled, twice⟩ | ⟨clean, balanced⟩
  · exact .spoiled (here.mpr troubled) answered twice
  · exact .refused ((ValueAt.property notEof text).breaks breaks) (mt here.mp clean) answered balanced

/-- One property further on. -/
theorem LoopVerdict.property {name width : Nat} (broken : forall data, trouble data -> Broken data)
    (notEof : rtmpAmf0IsObjectEof data = false) (text : Text data name) (value : Begins .value (data.drop name) width)
    (verdict : LoopVerdict .properties (data.drop (name + width)) (offset + (name + width)) trouble owned context
      result) : LoopVerdict .properties data offset trouble owned context result := by
  have further := troubled_property_iff broken notEof text value
  cases verdict with
  | accepted begins answered balanced =>
      rw [Nat.add_assoc] at answered
      exact .accepted (.property notEof text value begins) answered balanced
  | refused breaks clean answered balanced =>
      refine .refused (fun whole begins => ?_) (mt further.mp clean) answered balanced
      rcases (begins_property_iff notEof text value).mp begins with ⟨rest, _, others⟩
      exact breaks rest others
  | spoiled troubled answered twice => exact .spoiled (further.mpr troubled) answered twice

/-- An element fails. -/
theorem LoopVerdict.elementFailed {most : Nat} {code : Int} (nonempty : data ≠ [])
    (breaks : forall width, ¬ Begins .value data width) (answered : result.ret = .error code)
    (handled : trouble data ∧ result.ledger.TwiceDeleted ∨
      ¬ trouble data ∧ result.ledger.Balanced (owned result.left ++ context)) :
    LoopVerdict (.elements (most + 1)) data offset trouble owned context result := by
  have here := @troubled_brokenElement_iff data trouble most nonempty breaks
  rcases handled with ⟨troubled, twice⟩ | ⟨clean, balanced⟩
  · exact .spoiled (here.mpr troubled) answered twice
  · exact .refused ((ValueAt.element nonempty).breaks breaks) (mt here.mp clean) answered balanced

/-- One element further on. -/
theorem LoopVerdict.element {most width : Nat} (broken : forall data, trouble data -> Broken data)
    (value : Begins .value data width)
    (verdict : LoopVerdict (.elements most) (data.drop width) (offset + width) trouble owned context result) :
    LoopVerdict (.elements (most + 1)) data offset trouble owned context result := by
  have further := @troubled_element_iff data trouble most width broken value
  cases verdict with
  | accepted begins answered balanced =>
      rw [Nat.add_assoc] at answered
      exact .accepted (.element value begins) answered balanced
  | refused breaks clean answered balanced =>
      refine .refused (fun whole begins => ?_) (mt further.mp clean) answered balanced
      rcases (begins_element_iff value).mp begins with ⟨rest, _, others⟩
      exact breaks rest others
  | spoiled troubled answered twice => exact .spoiled (further.mpr troubled) answered twice

end Steps

theorem recordProperties_verdict {readAny : RecordedReader} {cleanUp : Recorded (Option Instance) -> Ledger}
    {trouble : List UInt8 -> Prop} {data : List UInt8} (judges : Judges readAny data.length)
    (cleans : CleansUp cleanUp trouble) (container : Nat) {context : List Nat} {rounds offset : Nat}
    {properties : UnSortedHashtable Instance} {ledger : Ledger} (started : 1 ≤ offset) (inside : offset ≤ data.length)
    (enough : data.length ≤ offset + rounds) (balanced : ledger.Balanced (propertiesReached properties ++ context)) :
    LoopVerdict .properties (data.drop offset) offset trouble propertiesReached context
      (recordProperties readAny cleanUp container data rounds offset properties ledger) := by
  induction rounds generalizing offset properties ledger with
  | zero =>
      have atEnd : ¬ offset < data.length := Nat.not_lt_of_le enough
      rw [recordProperties, if_neg atEnd, List.drop_of_length_le (show data.length ≤ offset from enough)]
      exact .accepted .bufferEnd rfl balanced
  | succ rounds inductionHypothesis =>
      rw [recordProperties]
      by_cases more : offset < data.length
      · rw [if_pos more]
        have nonempty := drop_ne_nil more
        by_cases ended : rtmpAmf0IsObjectEof (data.drop offset) = true
        · rw [if_pos ended, readObjectEof_eq ended]
          exact .accepted (.objectEnd ended) rfl balanced
        · rw [if_neg ended]
          have notEof := Bool.eq_false_iff.mpr ended
          rcases readUtf8_iff [] (data.drop offset) with ⟨name, str, text, read⟩ | ⟨none, code, read, _⟩
          · rw [read]
            have room := text.inside
            rw [List.length_drop] at room
            have shorter : ((data.drop offset).drop name).length < data.length := by
              rw [List.length_drop, List.length_drop]
              omega
            have verdict := judges _ shorter ledger _ balanced
            simp only [Recorded.step]
            rcases verdict.cases with ⟨width, held, value, answered, stored, kept⟩ | ⟨breaks, code, answered⟩
            · have bound := value.width_le
              rw [List.length_drop, List.length_drop] at bound
              have some := value.width_pos
              have rest := @inductionHypothesis (offset + (name + width)) _ _ (by omega) (by omega) (by omega)
                (balanced_set str container kept)
              have there : data.drop (offset + (name + width)) = (data.drop offset).drop (name + width) :=
                List.drop_drop.symm
              rw [there] at rest
              rw [answered, stored]
              exact rest.property cleans.broken notEof text value
            · rw [answered]
              exact .propertyFailed notEof text breaks rfl (cleans.handled _ _ _ _ verdict answered)
          · rw [read]
            exact .refused (not_begins_unnamed nonempty notEof none) (not_troubled_unnamed none) rfl balanced
      · rw [if_neg more, List.drop_of_length_le (Nat.le_of_not_lt more)]
        exact .accepted .bufferEnd rfl balanced

theorem balanced_append {ledger : Ledger} {properties : List Instance} {held : Instance} {context : List Nat}
    (container : Nat) (balanced : ledger.Balanced (held.reached ++ (elementsReached properties ++ context))) :
    (insertInto container (some held) ledger).Balanced (elementsReached (properties ++ [held]) ++ context) := by
  have reached : elementsReached (properties ++ [held]) = elementsReached properties ++ held.reached := by
    rw [elementsReached, List.flatMap_append, List.flatMap_singleton]
    rfl
  rw [reached]
  refine Ledger.Balanced.insert (balanced.perm ?_) container ?_
  · rw [← List.append_assoc]
    exact List.perm_append_comm.append_right _
  · exact List.mem_append_left _ (List.mem_append_right _ held.itself)

theorem recordElements_verdict {readAny : RecordedReader} {data : List UInt8} (judges : Judges readAny data.length)
    (container : Nat) {context : List Nat} {remaining offset : Nat} {properties : List Instance} {ledger : Ledger}
    (started : 1 ≤ offset) (inside : offset ≤ data.length)
    (balanced : ledger.Balanced (elementsReached properties ++ context)) :
    LoopVerdict (.elements remaining) (data.drop offset) offset Spoiled elementsReached context
      (recordElements readAny container data remaining offset properties ledger) := by
  induction remaining generalizing offset properties ledger with
  | zero => exact .accepted (.noElement _) rfl balanced
  | succ remaining inductionHypothesis =>
      rw [recordElements]
      by_cases more : offset < data.length
      · rw [if_pos more]
        have nonempty := drop_ne_nil more
        have verdict := judges _ (length_drop_lt started more) ledger _ balanced
        simp only [Recorded.step]
        rcases verdict.cases with ⟨width, held, value, answered, stored, kept⟩ | ⟨breaks, code, answered⟩
        · have bound := value.width_le
          rw [List.length_drop] at bound
          have rest := @inductionHypothesis (offset + width) _ _ (by omega) (by omega) (balanced_append container kept)
          have there : data.drop (offset + width) = (data.drop offset).drop width := List.drop_drop.symm
          rw [there] at rest
          rw [answered, stored]
          exact rest.element cleansUp_arrays.broken value
        · rw [answered]
          exact .elementFailed nonempty breaks rfl (cleansUp_arrays.handled _ _ _ _ verdict answered)
      · rw [if_neg more, List.drop_of_length_le (Nat.le_of_not_lt more)]
        exact .accepted (.elementsEnd _) rfl balanced

/-! ## The containers -/

/-- What the `read` of an instance leaves, before anybody deletes the instance. -/
inductive ReadVerdict (data : List UInt8) (context : List Nat) (result : Recorded Instance) : Prop where
  | accepted {width : Nat} (begins : Begins .value data width) (answered : result.ret = .ok width)
      (balanced : result.ledger.Balanced (result.left.reached ++ context))
  | refused {code : Int} (breaks : forall width, ¬ Begins .value data width) (clean : ¬ Spoiled data)
      (answered : result.ret = .error code) (balanced : result.ledger.Balanced (result.left.reached ++ context))
  | spoiled {code : Int} (spoiled : Spoiled data) (answered : result.ret = .error code)
      (twice : result.ledger.TwiceDeleted)

/-- The container owns what its loop has put into it. -/
theorem LoopVerdict.container {β : Type} {form : Form} {data : List UInt8} {offset id : Nat}
    {trouble : List UInt8 -> Prop} {owned : β -> List Nat} {context : List Nat} {result : Recorded β}
    {build : β -> Instance}
    (verdict : LoopVerdict form (data.drop offset) offset trouble owned (id :: context) result)
    (reaches : forall left, (build left).reached = id :: owned left)
    (whole : forall width, Begins .value data width ↔
      Exists fun inner => width = offset + inner ∧ Begins form (data.drop offset) inner)
    (spoils : Spoiled data ↔ Troubled trouble form (data.drop offset)) :
    ReadVerdict data context { ret := result.ret, left := build result.left, ledger := result.ledger } := by
  have held (balanced : result.ledger.Balanced (owned result.left ++ id :: context)) :
      result.ledger.Balanced ((build result.left).reached ++ context) := by
    rw [reaches]
    exact balanced.perm List.perm_middle
  cases verdict with
  | accepted begins answered balanced => exact .accepted ((whole _).mpr ⟨_, rfl, begins⟩) answered (held balanced)
  | refused breaks clean answered balanced =>
      refine .refused (fun width begins => ?_) (mt spoils.mp clean) answered (held balanced)
      rcases (whole width).mp begins with ⟨inner, _, begins⟩
      exact breaks inner begins
  | spoiled troubled answered twice => exact .spoiled (spoils.mpr troubled) answered twice

section Containers

variable {readAny : RecordedReader} {data : List UInt8} {id : Nat} {context : List Nat} {ledger : Ledger}

theorem recordObject_verdict (judges : Judges readAny data.length) (balanced : ledger.Balanced (id :: context))
    (found : RtmpAmf0Any.discovery data = .ok (.object [])) :
    ReadVerdict data context ((RtmpAmf0Any.object []).record readAny id data ledger) := by
  have nonempty : 1 ≤ data.length := discovery_nonempty found
  have marked := discovery_marked found (fun impossible => by cases impossible)
  have same : ¬ (RtmpAmf0Any.object []).typeMarker ≠ rtmpAmf0Object := fun different => different rfl
  have loop := recordProperties_verdict judges cleansUp_object id (Nat.le_refl 1) nonempty
    (Nat.le_add_left data.length 1) (show ledger.Balanced (propertiesReached [] ++ (id :: context)) from balanced)
  simp only [RtmpAmf0Any.record, RtmpAmf0Object.record, if_neg (Nat.not_lt.mpr nonempty), marked, Recorded.step,
    if_neg same]
  exact loop.container (fun _ => rfl) (fun _ => begins_iff found) (spoiled_iff found)

theorem recordEcmaArray_verdict (judges : Judges readAny data.length) (balanced : ledger.Balanced (id :: context))
    (found : RtmpAmf0Any.discovery data = .ok (.ecmaArray 0 [])) :
    ReadVerdict data context ((RtmpAmf0Any.ecmaArray 0 []).record readAny id data ledger) := by
  have begins (width : Nat) := @begins_iff data _ width found
  have spoils := spoiled_iff found
  by_cases counted : 5 ≤ data.length
  · have marked := discovery_marked found (fun impossible => by cases impossible)
    have same : ¬ (RtmpAmf0Any.ecmaArray 0 []).typeMarker ≠ rtmpAmf0EcmaArray := fun different => different rfl
    have loop := recordProperties_verdict judges cleansUp_arrays id (by decide) counted
      (Nat.le_add_left data.length 5) (show ledger.Balanced (propertiesReached [] ++ (id :: context)) from balanced)
    simp only [RtmpAmf0Any.record, RtmpAmf0EcmaArray.record, if_neg (Nat.not_lt.mpr counted), marked, Recorded.step,
      if_neg same, readInt32_of_le (show 1 + 4 ≤ data.length from counted)]
    refine loop.container (fun _ => rfl) (fun width => ?_) ?_
    · exact (begins width).trans (and_iff_right counted)
    · exact spoils.trans (and_iff_right counted)
  · have short := Nat.lt_of_not_le counted
    simp only [RtmpAmf0Any.record, RtmpAmf0EcmaArray.record, if_pos short]
    exact .refused (fun width whole => counted ((begins width).mp whole).1)
      (fun spoiled => counted (spoils.mp spoiled).1) rfl balanced

theorem recordStrictArray_verdict (judges : Judges readAny data.length) (balanced : ledger.Balanced (id :: context))
    (found : RtmpAmf0Any.discovery data = .ok (.strictArray 0 [])) :
    ReadVerdict data context ((RtmpAmf0Any.strictArray 0 []).record readAny id data ledger) := by
  have begins (width : Nat) := @begins_iff data _ width found
  have spoils := spoiled_iff found
  by_cases counted : 5 ≤ data.length
  · have marked := discovery_marked found (fun impossible => by cases impossible)
    have same : ¬ (RtmpAmf0Any.strictArray 0 []).typeMarker ≠ rtmpAmf0StrictArray := fun different => different rfl
    have loop := @recordElements_verdict readAny data judges id (id :: context) (announcedElements data) 5 []
      ledger (by decide) counted balanced
    simp only [RtmpAmf0Any.record, RtmpAmf0StrictArray.record, if_neg (Nat.not_lt.mpr counted), marked,
      Recorded.step, if_neg same, readInt32_of_le (show 1 + 4 ≤ data.length from counted)]
    refine loop.container (fun _ => rfl) (fun width => ?_) ?_
    · exact (begins width).trans (and_iff_right counted)
    · exact spoils.trans (and_iff_right counted)
  · have short := Nat.lt_of_not_le counted
    simp only [RtmpAmf0Any.record, RtmpAmf0StrictArray.record, if_pos short]
    exact .refused (fun width whole => counted ((begins width).mp whole).1)
      (fun spoiled => counted (spoils.mp spoiled).1) rfl balanced

/-- A value that reads no other value. -/
theorem ReadVerdict.leaf {call : Outcome (Nat × RtmpAmf0Any)} {left : Instance}
    (balanced : ledger.Balanced (id :: context)) (alone : left.reached = [id]) (clean : ¬ Spoiled data)
    (reads : (Exists fun width => Exists fun value => Begins .value data width ∧ call = .ok (width, value)) ∨
      (forall width, ¬ Begins .value data width) ∧ call.Refused) :
    ReadVerdict data context (.step call left ledger fun found =>
      { ret := .ok found.1, left := .scalar id found.2, ledger }) := by
  rcases reads with ⟨width, value, begins, rfl⟩ | ⟨breaks, code, rfl, _⟩
  · exact .accepted begins rfl balanced
  · refine .refused breaks clean rfl ?_
    show ledger.Balanced (left.reached ++ context)
    rw [alone]
    exact balanced

theorem record_verdict (judges : Judges readAny data.length) (balanced : ledger.Balanced (id :: context))
    {value : RtmpAmf0Any} (found : RtmpAmf0Any.discovery data = .ok value) :
    ReadVerdict data context (value.record readAny id data ledger) := by
  have fresh := discovery_fresh found
  have scalar {width : Nat} (fixed : value.scalarWidth = some width) (clean : ¬ Spoiled data) :
      ReadVerdict data context (.step (value.read (fun _ => .fault) data) (.scalar id value) ledger fun found =>
        { ret := .ok found.1, left := .scalar id found.2, ledger }) := by
    refine .leaf balanced rfl clean ?_
    rcases scalar_read (fun _ => .fault) found fixed with ⟨enough, stored, read⟩ | ⟨short, refused⟩
    · exact Or.inl ⟨width, stored, .scalar found fixed enough, read⟩
    · refine Or.inr ⟨fun other begins => ?_, refused⟩
      rcases (contents_fixed fixed).mp ((begins_iff found).mp begins) with ⟨rfl, inside⟩
      exact Nat.not_lt_of_le inside short
  cases value with
  | object properties =>
      rcases RtmpAmf0Any.object.inj fresh with rfl
      exact recordObject_verdict judges balanced found
  | ecmaArray count properties =>
      rcases RtmpAmf0Any.ecmaArray.inj fresh with ⟨rfl, rfl⟩
      exact recordEcmaArray_verdict judges balanced found
  | strictArray count properties =>
      rcases RtmpAmf0Any.strictArray.inj fresh with ⟨rfl, rfl⟩
      exact recordStrictArray_verdict judges balanced found
  | string text =>
      rcases RtmpAmf0Any.string.inj fresh with rfl
      refine .leaf balanced rfl (spoiled_iff found).mp ?_
      rcases string_read (fun _ => .fault) found with ⟨width, value, text, read⟩ | ⟨none, refused⟩
      · exact Or.inl ⟨_, value, .string found text, read⟩
      · refine Or.inr ⟨fun width begins => ?_, refused⟩
        rcases (begins_iff found).mp begins with ⟨_, _, text⟩
        exact none _ text
  | _ => exact scalar rfl (spoiled_iff found).mp

end Containers

/-! ## Calls -/

/-- `rtmp_amf0_read_any` within a depth that the nesting cannot exceed. -/
theorem recordWithin_verdict (depth : Nat) : Judges (recordWithin depth) depth := by
  induction depth with
  | zero => exact fun shorter impossible => absurd impossible (Nat.not_lt_zero _)
  | succ depth inductionHypothesis =>
      intro data inside ledger context balanced
      have judges : Judges (recordWithin depth) data.length := fun shorter less =>
        inductionHypothesis shorter (Nat.lt_of_lt_of_le less (Nat.le_of_lt_succ inside))
      rw [recordWithin]
      rcases (discovery_returns data).cases with ⟨value, found, _⟩ | ⟨code, none, _⟩
      · simp only [found, Outcome.errorAs_ok, Recorded.step]
        cases record_verdict judges balanced.create found with
        | accepted begins answered kept =>
            rw [answered]
            exact .accepted begins rfl rfl kept
        | refused breaks clean answered kept =>
            rw [answered]
            exact .refused ⟨⟨value, found⟩, breaks⟩ clean rfl rfl (List.mem_append_right _ (Instance.itself _))
              kept.delete
        | spoiled spoiled answered twice =>
            rw [answered]
            exact .spoiled spoiled rfl rfl (twice.delete _)
      · rw [none]
        refine .unfound ?_ rfl rfl balanced
        rintro ⟨value, found⟩
        cases none.symm.trans found

theorem recordAny_verdict (data : List UInt8) : Verdict data [] (recordAny data) :=
  recordWithin_verdict (data.length + 1) data (Nat.lt_succ_self data.length) .new [] .new

/-- `*ppvalue` is null when `rtmp_amf0_read_any` has failed. -/
def NullOnFailure (data : List UInt8) : Prop :=
  forall code, (recordAny data).ret = .error code -> (recordAny data).left = none

/-- A call of `rtmp_amf0_read_any` that fails deletes nothing twice. -/
def OnceOnFailure (data : List UInt8) : Prop :=
  forall code, (recordAny data).ret = .error code -> (recordAny data).ledger.DeletedOnce

/-- The instances with a `read` that creates others, as their owners make them. -/
def newContainers : List RtmpAmf0Any := [.object [], .ecmaArray 0 [], .strictArray 0 []]

/-- The `read` of a container that was created in front of the call. -/
def recordContainer (container : RtmpAmf0Any) (data : List UInt8) : Recorded Instance :=
  container.record (recordWithin data.length) Ledger.new.created data Ledger.new.create

/-- When the read of a container has failed and its owner deletes it, nothing is
deleted twice. -/
def OnceOnRead (container : RtmpAmf0Any) (data : List UInt8) : Prop :=
  forall code, (recordContainer container data).ret = .error code ->
    ((recordContainer container data).ledger.delete (recordContainer container data).left.reached).DeletedOnce

theorem nullOnFailure_iff (data : List UInt8) : NullOnFailure data ↔
    (Exists fun width => Begins .value data width) ∨
      ¬ Exists fun value => RtmpAmf0Any.discovery data = .ok value := by
  have refused {code : Int} {held : Instance} (answered : (recordAny data).ret = .error code)
      (stored : (recordAny data).left = some held) : ¬ NullOnFailure data :=
    fun null => Option.some_ne_none held (stored.symm.trans (null code answered))
  cases recordAny_verdict data with
  | accepted begins answered _ _ =>
      exact iff_of_true (fun _ failed => by cases answered.symm.trans failed) (Or.inl ⟨_, begins⟩)
  | unfound nothing _ stored _ => exact iff_of_true (fun _ _ => stored) (Or.inr nothing)
  | refused broken _ answered stored _ _ =>
      refine iff_of_false (refused answered stored) ?_
      rintro (⟨width, begins⟩ | nothing)
      · exact broken.2 width begins
      · exact nothing broken.1
  | spoiled spoiled answered stored _ =>
      refine iff_of_false (refused answered stored) ?_
      rintro (⟨width, begins⟩ | nothing)
      · exact spoiled.broken.2 width begins
      · exact nothing spoiled.broken.1

theorem onceOnFailure_iff (data : List UInt8) : OnceOnFailure data ↔ ¬ Spoiled data := by
  cases recordAny_verdict data with
  | accepted begins answered _ _ =>
      refine iff_of_true (fun _ failed => by cases answered.symm.trans failed) fun spoiled => ?_
      exact spoiled.broken.2 _ begins
  | unfound nothing _ _ balanced =>
      exact iff_of_true (fun _ _ => balanced.deletedOnce) fun spoiled => nothing spoiled.broken.1
  | refused _ clean _ _ _ balanced => exact iff_of_true (fun _ _ => balanced.deletedOnce) clean
  | spoiled spoiled answered _ twice =>
      exact iff_of_false (fun once => twice.not_deletedOnce (once _ answered)) (not_not_intro spoiled)

/-- A container finds its own marker only where discovery makes it. -/
theorem discovery_container {container : RtmpAmf0Any} (member : container ∈ newContainers) {data : List UInt8}
    (marked : readInt8 data 0 = .ok container.typeMarker) : RtmpAmf0Any.discovery data = .ok container := by
  rcases data with _ | ⟨first, rest⟩
  · cases marked
  · rw [readInt8_first] at marked
    have first_eq : first = container.typeMarker.toUInt8 := by
      rw [← Outcome.ok.inj marked, UInt8.toUInt8_toInt8]
    simp only [newContainers, List.mem_cons, List.not_mem_nil, or_false] at member
    rcases member with rfl | rfl | rfl
    · exact discovery_of_notEof (notEof_of_first rest (by rw [first_eq]; decide)) (by rw [first_eq]; rfl)
    · exact discovery_of_notEof (notEof_of_first rest (by rw [first_eq]; decide)) (by rw [first_eq]; rfl)
    · exact discovery_of_notEof (notEof_of_first rest (by rw [first_eq]; decide)) (by rw [first_eq]; rfl)

/-- At another marker a container creates nothing. -/
theorem recordContainer_mismarked {container : RtmpAmf0Any} (member : container ∈ newContainers) {data : List UInt8}
    (other : RtmpAmf0Any.discovery data ≠ .ok container) :
    (recordContainer container data).ledger.Balanced ((recordContainer container data).left.reached ++ []) := by
  have fresh : Ledger.new.create.Balanced [Ledger.new.created] := Ledger.Balanced.new.create
  rw [recordContainer]
  rcases data with _ | ⟨first, rest⟩
  · simp only [newContainers, List.mem_cons, List.not_mem_nil, or_false] at member
    rcases member with rfl | rfl | rfl
    · exact fresh
    · exact fresh
    · exact fresh
  · have marked := readInt8_first first rest
    have differs : first.toInt8 ≠ container.typeMarker := by
      intro same
      rw [same] at marked
      exact other (discovery_container member marked)
    simp only [newContainers, List.mem_cons, List.not_mem_nil, or_false] at member
    rcases member with rfl | rfl | rfl
    · have nonempty : ¬ (first :: rest).length < 1 := Nat.not_lt.mpr (Nat.le_add_left 1 rest.length)
      have refused : first.toInt8 ≠ rtmpAmf0Object := differs
      simp only [RtmpAmf0Any.record, RtmpAmf0Object.record, if_neg nonempty, marked, Recorded.step, if_pos refused]
      exact fresh
    · have refused : first.toInt8 ≠ rtmpAmf0EcmaArray := differs
      simp only [RtmpAmf0Any.record, RtmpAmf0EcmaArray.record, marked, Recorded.step, if_pos refused]
      by_cases short : (first :: rest).length < 5
      · rw [if_pos short]
        exact fresh
      · rw [if_neg short]
        exact fresh
    · have refused : first.toInt8 ≠ rtmpAmf0StrictArray := differs
      simp only [RtmpAmf0Any.record, RtmpAmf0StrictArray.record, marked, Recorded.step, if_pos refused]
      by_cases short : (first :: rest).length < 5
      · rw [if_pos short]
        exact fresh
      · rw [if_neg short]
        exact fresh

theorem onceOnRead_iff {container : RtmpAmf0Any} (member : container ∈ newContainers) (data : List UInt8) :
    OnceOnRead container data ↔ ¬ (RtmpAmf0Any.discovery data = .ok container ∧ Spoiled data) := by
  by_cases found : RtmpAmf0Any.discovery data = .ok container
  · have once := record_verdict (recordWithin_verdict data.length) Ledger.Balanced.new.create found
    cases once with
    | accepted begins answered _ =>
        refine iff_of_true (fun _ failed => by cases answered.symm.trans failed) fun spoiled => ?_
        exact spoiled.2.broken.2 _ begins
    | refused _ clean _ balanced =>
        exact iff_of_true (fun _ _ => balanced.delete.deletedOnce) fun spoiled => clean spoiled.2
    | spoiled spoiled answered twice =>
        refine iff_of_false (fun once => ?_) (not_not_intro ⟨found, spoiled⟩)
        exact (twice.delete _).not_deletedOnce (once _ answered)
  · exact iff_of_true (fun _ _ => (recordContainer_mismarked member found).delete.deletedOnce)
      fun spoiled => found spoiled.1

/-- A failed read that finds a marker leaves its pointer dangling.  It deletes
everything once unless it fails below an object. -/
theorem failedReads_iff (data : List UInt8) :
    (NullOnFailure data ↔ (Exists fun width => Begins .value data width) ∨
      ¬ Exists fun value => RtmpAmf0Any.discovery data = .ok value) ∧
    (OnceOnFailure data ↔ ¬ Spoiled data) ∧
    (forall container, container ∈ newContainers ->
      (OnceOnRead container data ↔ ¬ (RtmpAmf0Any.discovery data = .ok container ∧ Spoiled data))) ∧
    (NullOnFailure data ∧ OnceOnFailure data ∧
        (forall container, container ∈ newContainers -> OnceOnRead container data) ↔
      (Exists fun width => Begins .value data width) ∨
        ¬ Exists fun value => RtmpAmf0Any.discovery data = .ok value) := by
  refine ⟨nullOnFailure_iff data, onceOnFailure_iff data, fun _ member => onceOnRead_iff member data, ?_⟩
  constructor
  · intro released
    exact (nullOnFailure_iff data).mp released.1
  · intro complete
    have clean : ¬ Spoiled data := by
      intro spoiled
      rcases complete with ⟨width, begins⟩ | nothing
      · exact spoiled.broken.2 width begins
      · exact nothing spoiled.broken.1
    refine ⟨(nullOnFailure_iff data).mpr complete, (onceOnFailure_iff data).mpr clean, fun container member => ?_⟩
    exact (onceOnRead_iff member data).mpr fun spoiled => clean spoiled.2

/-- An object whose one property is a string that breaks off. -/
theorem failedReads_twice : ¬ forall data : List UInt8, NullOnFailure data ∧ OnceOnFailure data ∧
    forall container, container ∈ newContainers -> OnceOnRead container data := by
  intro released
  have answered : (recordAny [0x03, 0x00, 0x00, 0x02]).ret = .error (-1) := by decide +kernel
  have deleted : (recordAny [0x03, 0x00, 0x00, 0x02]).ledger.deleted.count 1 = 2 := by decide +kernel
  have once := ((released [0x03, 0x00, 0x00, 0x02]).2.1 _ answered).each 1
  rw [deleted] at once
  exact absurd once (by decide)

end Amf0
end RtmpClient
