import RtmpClient.Amf0.Discovery
import RtmpClient.Library.Ledger

namespace RtmpClient
namespace Amf0

open Library
open Net

/-!
# Reading with a record of the instances

The readers once more, with everything that `discovery` creates and everything
that is deleted on the way: by `rtmp_amf0_read_any` when a read fails, by `set`
when a name stands twice, and by `RtmpAmf0Object::read` when the value of a
property fails.  A read that fails leaves what the container held by then.
-/

/-- An instance with its number and its value; `reached` are the instances that
`delete` comes to through it, the members of a container and itself. -/
structure Instance where
  id : Nat
  value : RtmpAmf0Any
  reached : List Nat
  itself : id ∈ reached

namespace Instance

def scalar (id : Nat) (value : RtmpAmf0Any) : Instance where
  id := id
  value := value
  reached := [id]
  itself := List.mem_cons_self

end Instance

/-- The properties with their values alone. -/
def propertyValues (properties : UnSortedHashtable Instance) : UnSortedHashtable RtmpAmf0Any :=
  properties.map fun elem => (elem.1, elem.2.value)

/-- What the destructor of a table comes to. -/
def propertiesReached (properties : UnSortedHashtable Instance) : List Nat :=
  properties.flatMap fun elem => elem.2.reached

def elementsReached (properties : List Instance) : List Nat := properties.flatMap Instance.reached

namespace Instance

def object (id : Nat) (properties : UnSortedHashtable Instance) : Instance where
  id := id
  value := .object (propertyValues properties)
  reached := id :: propertiesReached properties
  itself := List.mem_cons_self

def ecmaArray (id : Nat) (count : Int32) (properties : UnSortedHashtable Instance) : Instance where
  id := id
  value := .ecmaArray count (propertyValues properties)
  reached := id :: propertiesReached properties
  itself := List.mem_cons_self

def strictArray (id : Nat) (count : Int32) (properties : List Instance) : Instance where
  id := id
  value := .strictArray count (properties.map Instance.value)
  reached := id :: elementsReached properties
  itself := List.mem_cons_self

end Instance

/-! ## Reads that are recorded -/

/-- What a call leaves: its answer, what it stored, and the record. -/
structure Recorded (β : Type) where
  ret : Outcome Nat
  left : β
  ledger : Ledger

namespace Recorded

variable {β γ : Type}

/-- A call that may fail, in the middle of another: then the other one ends with
what it holds and with the record of that time. -/
def step (call : Outcome γ) (left : β) (ledger : Ledger) (next : γ -> Recorded β) : Recorded β :=
  match call with
  | .ok value => next value
  | .error code => { ret := .error code, left, ledger }
  | .fault => { ret := .fault, left, ledger }

/-- The answer and the value, as a reader without record gives them. -/
def erase (result : Recorded β) (value : β -> γ) : Outcome (Nat × γ) := do
  let ret ← result.ret
  return (ret, value result.left)

end Recorded

/-- `rtmp_amf0_read_any`; what it stores is what `*ppvalue` points to, if it was
null before. -/
abbrev RecordedReader := List UInt8 -> Ledger -> Recorded (Option Instance)

/-- The deletion that `set` makes. -/
def displace (properties : UnSortedHashtable Instance) (key : List UInt8) (ledger : Ledger) : Ledger :=
  match properties.find? fun elem => key == elem.1 with
  | some elem => ledger.delete elem.2.reached
  | none => ledger

/-- What is pushed into a container becomes its member. -/
def insertInto (container : Nat) (pointer : Option Instance) (ledger : Ledger) : Ledger :=
  match pointer with
  | some member => ledger.insert container member.id
  | none => ledger

/-- The loop of `RtmpAmf0Object::read` and `RtmpAmf0EcmaArray::read`.  They
differ in `cleanUp`, what is done when the value of a property fails. -/
def recordProperties (readAny : RecordedReader) (cleanUp : Recorded (Option Instance) -> Ledger)
    (container : Nat) (data : List UInt8) : (rounds : Nat) -> (offset : Nat) -> UnSortedHashtable Instance ->
      Ledger -> Recorded (UnSortedHashtable Instance)
  | 0, offset, properties, ledger =>
      { ret := if offset < data.length then .fault else .ok offset, left := properties, ledger }
  | rounds + 1, offset, properties, ledger =>
      if offset < data.length then
        if rtmpAmf0IsObjectEof (data.drop offset) then
          .step (RtmpAmf0ObjectEof.read (data.drop offset)) properties ledger fun eof =>
            { ret := .ok (offset + eof.1), left := properties, ledger }
        else
          .step (rtmpAmf0ReadUtf8 [] (data.drop offset)) properties ledger fun name =>
            let value := readAny ((data.drop offset).drop name.1) ledger
            .step value.ret properties (cleanUp value) fun ret =>
              recordProperties readAny cleanUp container data rounds (offset + (name.1 + ret))
                (properties.set name.2 value.left)
                (insertInto container value.left (displace properties name.2 value.ledger))
      else { ret := .ok offset, left := properties, ledger }

/-- `if (property_value) delete property_value`, behind a call that has already
deleted what it failed to read. -/
def deletePropertyValue (value : Recorded (Option Instance)) : Ledger :=
  match value.left with
  | some propertyValue => value.ledger.delete propertyValue.reached
  | none => value.ledger

/-- `RtmpAmf0Object::read` into a new object. -/
def RtmpAmf0Object.record (readAny : RecordedReader) (container : Nat) (data : List UInt8) (ledger : Ledger) :
    Recorded (UnSortedHashtable Instance) :=
  if data.length < 1 then { ret := .ok 1, left := [], ledger }
  else
    .step (readInt8 data 0) [] ledger fun marker =>
      if marker ≠ rtmpAmf0Object then { ret := .error (-2), left := [], ledger }
      else recordProperties readAny deletePropertyValue container data data.length 1 [] ledger

/-- `RtmpAmf0EcmaArray::read` into a new array; the count is the one it has
stored by then. -/
def RtmpAmf0EcmaArray.record (readAny : RecordedReader) (container : Nat) (data : List UInt8) (ledger : Ledger) :
    Recorded (Int32 × UnSortedHashtable Instance) :=
  if data.length < 5 then { ret := .error (-1), left := (0, []), ledger }
  else
    .step (readInt8 data 0) (0, []) ledger fun marker =>
      if marker ≠ rtmpAmf0EcmaArray then { ret := .error (-2), left := (0, []), ledger }
      else
        .step (readInt32 data 1) (0, []) ledger fun count =>
          let result := recordProperties readAny Recorded.ledger container data data.length 5 [] ledger
          { ret := result.ret, left := (count, result.left), ledger := result.ledger }

/-- The loop of `RtmpAmf0StrictArray::read`. -/
def recordElements (readAny : RecordedReader) (container : Nat) (data : List UInt8) :
    (remaining : Nat) -> (offset : Nat) -> List Instance -> Ledger -> Recorded (List Instance)
  | 0, offset, properties, ledger => { ret := .ok offset, left := properties, ledger }
  | remaining + 1, offset, properties, ledger =>
      if offset < data.length then
        let elem := readAny (data.drop offset) ledger
        .step elem.ret properties elem.ledger fun ret =>
          recordElements readAny container data remaining (offset + ret) (properties ++ elem.left.toList)
            (insertInto container elem.left elem.ledger)
      else { ret := .ok offset, left := properties, ledger }

/-- `RtmpAmf0StrictArray::read` into a new array. -/
def RtmpAmf0StrictArray.record (readAny : RecordedReader) (container : Nat) (data : List UInt8) (ledger : Ledger) :
    Recorded (Int32 × List Instance) :=
  if data.length < 5 then { ret := .error (-1), left := (0, []), ledger }
  else
    .step (readInt8 data 0) (0, []) ledger fun marker =>
      if marker ≠ rtmpAmf0StrictArray then { ret := .error (-2), left := (0, []), ledger }
      else
        .step (readInt32 data 1) (0, []) ledger fun count =>
          let result := recordElements readAny container data count.toInt.toNat 5 [] ledger
          { ret := result.ret, left := (count, result.left), ledger := result.ledger }

/-- The virtual function `read` of the instance that `discovery` made.  A scalar
reads no other value. -/
def RtmpAmf0Any.record (readAny : RecordedReader) (id : Nat) (self : RtmpAmf0Any) (data : List UInt8)
    (ledger : Ledger) : Recorded Instance :=
  match self with
  | .object _ =>
      let result := RtmpAmf0Object.record readAny id data ledger
      { ret := result.ret, left := .object id result.left, ledger := result.ledger }
  | .ecmaArray _ _ =>
      let result := RtmpAmf0EcmaArray.record readAny id data ledger
      { ret := result.ret, left := .ecmaArray id result.left.1 result.left.2, ledger := result.ledger }
  | .strictArray _ _ =>
      let result := RtmpAmf0StrictArray.record readAny id data ledger
      { ret := result.ret, left := .strictArray id result.left.1 result.left.2, ledger := result.ledger }
  | scalar =>
      .step (scalar.read (fun _ => .fault) data) (.scalar id scalar) ledger fun found =>
        { ret := .ok found.1, left := .scalar id found.2, ledger }

/-- `rtmp_amf0_read_any`.  When the read of the instance fails it is deleted,
and `*ppvalue` still points to it. -/
def recordWithin : (depth : Nat) -> RecordedReader
  | 0, _, ledger => { ret := .fault, left := none, ledger }
  | depth + 1, data, ledger =>
      .step ((RtmpAmf0Any.discovery data).errorAs (-1)) none ledger fun value =>
        let result := value.record (recordWithin depth) ledger.created data ledger.create
        .step (result.ret.errorAs (-1)) (some result.left) (result.ledger.delete result.left.reached) fun ret =>
          { ret := .ok ret, left := some result.left, ledger := result.ledger }

/-- `rtmp_amf0_read_any` with the record that begins with the call. -/
def recordAny (data : List UInt8) : Recorded (Option Instance) := recordWithin (data.length + 1) data .new

/-! ## The record changes nothing

A reader without a record cannot say that a value is deleted twice, and faults in
its place.  Apart from that it answers and stores the same.
-/

/-- The call without its record. -/
inductive Erases (result : Recorded (Option Instance)) : Outcome (Nat × RtmpAmf0Any) -> Prop where
  | ok {ret : Nat} {held : Instance} (answered : result.ret = .ok ret) (stored : result.left = some held) :
      Erases result (.ok (ret, held.value))
  | error {code : Int} (answered : result.ret = .error code) : Erases result (.error code)
  | fault : Erases result .fault

theorem Recorded.erase_step {α β γ : Type} (call : Outcome α) (left : β) (ledger : Ledger) (next : α -> Recorded β)
    (value : β -> γ) : (step call left ledger next).erase value = (do
      let found ← call
      (next found).erase value) := by
  cases call <;> rfl

section Erasure

variable {readAny : RecordedReader} {plain : Reader UInt8 RtmpAmf0Any}

/-- A value behind a name, and what is done with it. -/
theorem erase_bind {β : Type} {value : Recorded (Option Instance)} {found : Outcome (Nat × RtmpAmf0Any)}
    (erases : Erases value found) {next : Nat -> Outcome β} {next' : Nat × RtmpAmf0Any -> Outcome β}
    (same : forall ret held, value.left = some held -> (next' (ret, held.value)).FaultsOr (next ret)) :
    (found >>= next').FaultsOr (value.ret >>= next) := by
  cases erases with
  | ok answered stored =>
      rw [answered]
      exact same _ _ stored
  | error answered =>
      rw [answered]
      exact .refl _
  | fault => exact Or.inl rfl

/-- What the object deletes behind a failed read is deleted already. -/
theorem Erases.propertyValue {value : Recorded (Option Instance)} {data : List UInt8}
    (erases : Erases value (plain data)) : Erases value (readPropertyValue plain data) := by
  rw [readPropertyValue]
  generalize plain data = found at erases
  cases erases with
  | ok answered stored => exact .ok answered stored
  | error answered =>
      cases RtmpAmf0Any.discovery data with
      | ok made => exact .fault
      | error code => exact .error answered
      | fault => exact .error answered
  | fault => exact .fault

theorem recordProperties_erase (erases : forall data ledger, Erases (readAny data ledger) (plain data))
    (cleanUp : Recorded (Option Instance) -> Ledger) (container : Nat) (data : List UInt8) (rounds offset : Nat)
    (properties : UnSortedHashtable Instance) (ledger : Ledger) :
    (readProperties plain data rounds offset (propertyValues properties)).FaultsOr
      ((recordProperties readAny cleanUp container data rounds offset properties ledger).erase propertyValues) := by
  induction rounds generalizing offset properties ledger with
  | zero =>
      rw [recordProperties, readProperties]
      by_cases more : offset < data.length
      · rw [if_pos more]
        exact Or.inl rfl
      · rw [if_neg more, if_neg more]
        exact .refl _
  | succ rounds inductionHypothesis =>
      rw [recordProperties, readProperties]
      by_cases more : offset < data.length
      · rw [if_pos more, if_pos more]
        by_cases ended : rtmpAmf0IsObjectEof (data.drop offset) = true
        · rw [if_pos ended, if_pos ended, Recorded.erase_step]
          exact .refl _
        · rw [if_neg ended, if_neg ended, Recorded.erase_step, readProperty, readPair, Outcome.bind_bind]
          refine (Outcome.FaultsOr.refl _).bind ?_
          rintro ⟨width, name⟩ _
          rw [Recorded.erase_step, Outcome.bind_bind]
          refine erase_bind (erases _ ledger) fun ret held stored => ?_
          have rest := inductionHypothesis (offset + (width + ret)) (properties.set name (some held))
            (insertInto container (some held)
              (displace properties name (readAny ((data.drop offset).drop width) ledger).ledger))
          rw [propertyValues, UnSortedHashtable.map_set] at rest
          rw [stored]
          exact rest
      · rw [if_neg more, if_neg more]
        exact .refl _

theorem recordElements_erase (erases : forall data ledger, Erases (readAny data ledger) (plain data))
    (container : Nat) (data : List UInt8) (remaining offset : Nat) (properties : List Instance) (ledger : Ledger) :
    (readElements plain data remaining offset (properties.map Instance.value)).FaultsOr
      ((recordElements readAny container data remaining offset properties ledger).erase (List.map Instance.value)) := by
  induction remaining generalizing offset properties ledger with
  | zero => exact .refl _
  | succ remaining inductionHypothesis =>
      rw [recordElements, readElements]
      by_cases more : offset < data.length
      · rw [if_pos more, if_pos more, Recorded.erase_step]
        refine erase_bind (erases _ ledger) fun ret held stored => ?_
        have rest := inductionHypothesis (offset + ret) (properties ++ [held])
          (insertInto container (some held) (readAny (data.drop offset) ledger).ledger)
        rw [List.map_append] at rest
        rw [stored]
        exact rest
      · rw [if_neg more, if_neg more]
        exact .refl _

theorem recordObject_erase (erases : forall data ledger, Erases (readAny data ledger) (plain data))
    (container : Nat) (data : List UInt8) (ledger : Ledger) :
    (RtmpAmf0Object.read plain [] data).FaultsOr
      ((RtmpAmf0Object.record readAny container data ledger).erase propertyValues) := by
  rw [RtmpAmf0Object.record, RtmpAmf0Object.read]
  by_cases short : data.length < 1
  · rw [if_pos short, if_pos short]
    exact .refl _
  · rw [if_neg short, if_neg short, Recorded.erase_step]
    refine (Outcome.FaultsOr.refl _).bind fun marker _ => ?_
    by_cases other : marker ≠ rtmpAmf0Object
    · rw [if_pos other, if_pos other]
      exact .refl _
    · rw [if_neg other, if_neg other]
      exact recordProperties_erase (fun data ledger => (erases data ledger).propertyValue) _ container data data.length 1
        [] ledger

/-- Both arrays read their count in front of their loop. -/
theorem erase_counted {β γ : Type} (result : Recorded β) (count : Int32) (value : β -> γ) :
    (Recorded.mk result.ret (count, result.left) result.ledger).erase (fun left => (left.1, value left.2)) = (do
      let (ret, found) ← result.erase value
      return (ret, (count, found))) := by
  rw [Recorded.erase, Recorded.erase, Outcome.bind_bind]
  rfl

theorem recordEcmaArray_erase (erases : forall data ledger, Erases (readAny data ledger) (plain data))
    (container : Nat) (data : List UInt8) (ledger : Ledger) :
    (RtmpAmf0EcmaArray.read plain [] data).FaultsOr
      ((RtmpAmf0EcmaArray.record readAny container data ledger).erase
        fun left => (left.1, propertyValues left.2)) := by
  rw [RtmpAmf0EcmaArray.record, RtmpAmf0EcmaArray.read]
  by_cases short : data.length < 5
  · rw [if_pos short, if_pos short]
    exact .refl _
  · rw [if_neg short, if_neg short, Recorded.erase_step]
    refine (Outcome.FaultsOr.refl _).bind fun marker _ => ?_
    by_cases other : marker ≠ rtmpAmf0EcmaArray
    · rw [if_pos other, if_pos other]
      exact .refl _
    · rw [if_neg other, if_neg other, Recorded.erase_step]
      refine (Outcome.FaultsOr.refl _).bind fun count _ => ?_
      rw [erase_counted]
      exact (recordProperties_erase erases _ container data data.length 5 [] ledger).bind fun _ _ => .refl _

theorem recordStrictArray_erase (erases : forall data ledger, Erases (readAny data ledger) (plain data))
    (container : Nat) (data : List UInt8) (ledger : Ledger) :
    (RtmpAmf0StrictArray.read plain [] data).FaultsOr
      ((RtmpAmf0StrictArray.record readAny container data ledger).erase
        fun left => (left.1, left.2.map Instance.value)) := by
  rw [RtmpAmf0StrictArray.record, RtmpAmf0StrictArray.read]
  by_cases short : data.length < 5
  · rw [if_pos short, if_pos short]
    exact .refl _
  · rw [if_neg short, if_neg short, Recorded.erase_step]
    refine (Outcome.FaultsOr.refl _).bind fun marker _ => ?_
    by_cases other : marker ≠ rtmpAmf0StrictArray
    · rw [if_pos other, if_pos other]
      exact .refl _
    · rw [if_neg other, if_neg other, Recorded.erase_step]
      refine (Outcome.FaultsOr.refl _).bind fun count _ => ?_
      rw [erase_counted]
      exact (recordElements_erase erases container data count.toInt.toNat 5 [] ledger).bind fun _ _ => .refl _

/-- What a container holds becomes its value. -/
theorem erase_container {β γ : Type} (result : Recorded β) (build : β -> Instance) (value : β -> γ)
    (make : γ -> RtmpAmf0Any) (same : forall left, (build left).value = make (value left)) :
    (Recorded.mk result.ret (build result.left) result.ledger).erase Instance.value = (do
      let (ret, found) ← result.erase value
      return (ret, make found)) := by
  rw [Recorded.erase, Recorded.erase, Outcome.bind_bind, same]
  rfl

theorem erase_scalar (id : Nat) (left : Instance) (ledger : Ledger) (call : Outcome (Nat × RtmpAmf0Any)) :
    (Recorded.step call left ledger fun found =>
      { ret := .ok found.1, left := .scalar id found.2, ledger }).erase Instance.value = call := by
  cases call <;> rfl

/-- A scalar reads no other value, so that it does not matter how they are read. -/
theorem record_erase (erases : forall data ledger, Erases (readAny data ledger) (plain data)) (id : Nat)
    {value : RtmpAmf0Any} (fresh : value.fresh = value) (data : List UInt8) (ledger : Ledger) :
    (value.read plain data).FaultsOr ((value.record readAny id data ledger).erase Instance.value) := by
  cases value with
  | object properties =>
      rcases RtmpAmf0Any.object.inj fresh with rfl
      have whole := erase_container (RtmpAmf0Object.record readAny id data ledger) (Instance.object id) propertyValues
        RtmpAmf0Any.object fun _ => rfl
      exact whole ▸ (recordObject_erase erases id data ledger).bind fun _ _ => .refl _
  | ecmaArray count properties =>
      rcases RtmpAmf0Any.ecmaArray.inj fresh with ⟨rfl, rfl⟩
      have whole := erase_container (RtmpAmf0EcmaArray.record readAny id data ledger)
        (fun left => Instance.ecmaArray id left.1 left.2) (fun left => (left.1, propertyValues left.2))
        (fun parts => RtmpAmf0Any.ecmaArray parts.1 parts.2) fun _ => rfl
      exact whole ▸ (recordEcmaArray_erase erases id data ledger).bind fun _ _ => .refl _
  | strictArray count properties =>
      rcases RtmpAmf0Any.strictArray.inj fresh with ⟨rfl, rfl⟩
      have whole := erase_container (RtmpAmf0StrictArray.record readAny id data ledger)
        (fun left => Instance.strictArray id left.1 left.2) (fun left => (left.1, left.2.map Instance.value))
        (fun parts => RtmpAmf0Any.strictArray parts.1 parts.2) fun _ => rfl
      exact whole ▸ (recordStrictArray_erase erases id data ledger).bind fun _ _ => .refl _
  | _ => exact Or.inr (erase_scalar id _ ledger _).symm

end Erasure

/-- `rtmp_amf0_read_any` answers and stores what it does without the record. -/
theorem recordWithin_erases (depth : Nat) (data : List UInt8) (ledger : Ledger) :
    Erases (recordWithin depth data ledger) (readAnyWithin depth data) := by
  induction depth generalizing data ledger with
  | zero => exact .fault
  | succ depth inductionHypothesis =>
      rw [recordWithin, readAnyWithin]
      cases found : RtmpAmf0Any.discovery data with
      | error code => exact .error rfl
      | fault => exact .fault
      | ok value =>
          have same := record_erase inductionHypothesis ledger.created (discovery_fresh found) data ledger.create
          rw [Outcome.errorAs_ok, Outcome.ok_bind_do]
          rcases same with faulted | same
          · rw [faulted]
            exact .fault
          · rw [same]
            cases answered : (value.record (recordWithin depth) ledger.created data ledger.create).ret with
            | ok ret =>
                simp only [Recorded.step, Recorded.erase, answered, Outcome.errorAs_ok, Outcome.ok_bind_do,
                  Outcome.pure_eq]
                exact .ok rfl rfl
            | error code =>
                simp only [Recorded.step, Recorded.erase, answered]
                exact .error rfl
            | fault =>
                simp only [Recorded.erase, answered]
                exact .fault

theorem recordAny_erases (data : List UInt8) : Erases (recordAny data) (rtmpAmf0ReadAny data) :=
  recordWithin_erases (data.length + 1) data .new

end Amf0
end RtmpClient
