import RtmpClient.Amf0.Property
import RtmpClient.Library.CInt
import RtmpClient.Library.Decimal
import RtmpClient.Library.InsertionOrder

namespace RtmpClient
namespace Amf0

open Library

/-!
# The property table (`UnSortedHashtable`)

The vector holds pointers, none of them null.  A table owns the instances that
were set, deletes those that leave it, and is asked for one by name or by index;
`copy` sets the copies of what another table owns.
-/

namespace UnSortedHashtable

variable {α : Type} {table : UnSortedHashtable α} {key name : List UInt8} {value : α}

/-- `count`. -/
def count (table : UnSortedHashtable α) : Int := asInt table.length

/-- `properties[index]`. -/
def propertyAt (table : UnSortedHashtable α) (index : Int) : Outcome (List UInt8 × α) :=
  Outcome.read table (asSize index)

/-- `key_at`. -/
def keyAt (table : UnSortedHashtable α) (index : Int) : Outcome (List UInt8) := do
  let elem ← table.propertyAt index
  return elem.1

/-- `value_at`. -/
def valueAt (table : UnSortedHashtable α) (index : Int) : Outcome α := do
  let elem ← table.propertyAt index
  return elem.2

/-- The loop of `remove`, which goes on behind a property that it erases. -/
def remove (name : List UInt8) : UnSortedHashtable α -> UnSortedHashtable α
  | [] => []
  | elem :: rest => if elem.1 = name then remove name rest else elem :: remove name rest

theorem remove_eq_filter (name : List UInt8) (table : UnSortedHashtable α) :
    remove name table = table.filter fun elem => ¬ elem.1 = name := by
  induction table with
  | nil => rfl
  | cons elem rest inductionHypothesis =>
      rw [remove]
      by_cases same : elem.1 = name
      · rw [if_pos same, inductionHypothesis, List.filter_cons_of_neg]
        rw [decide_eq_true_iff]
        exact not_not_intro same
      · rw [if_neg same, inductionHypothesis, List.filter_cons_of_pos]
        exact decide_eq_true same

/-- Where no name stands twice, the first property of a name is the only one. -/
theorem find?_eq_filter (distinct : table.keys.Nodup) (key : List UInt8) :
    (table.find? fun elem => key == elem.1).toList = table.filter fun elem => elem.1 = key := by
  induction table with
  | nil => rfl
  | cons elem rest inductionHypothesis =>
      have later := List.nodup_cons.mp distinct
      rw [List.find?_cons, List.filter_cons]
      by_cases same : elem.1 = key
      · have alone : rest.filter (fun elem => elem.1 = key) = [] := by
          apply List.filter_eq_nil_iff.mpr
          intro other member again
          apply later.1
          rw [same, ← of_decide_eq_true again]
          exact List.mem_map_of_mem member
        rw [beq_iff_eq.mpr same.symm, decide_eq_true same, if_pos rfl, alone]
        rfl
      · rw [beq_eq_false_iff_ne.mpr (Ne.symm same), decide_eq_false same, if_neg Bool.false_ne_true]
        exact inductionHypothesis later.2

theorem eraseP_eq_filter (distinct : table.keys.Nodup) (key : List UInt8) :
    table.eraseP (fun elem => key == elem.1) = table.filter fun elem => ¬ elem.1 = key := by
  induction table with
  | nil => rfl
  | cons elem rest inductionHypothesis =>
      have later := List.nodup_cons.mp distinct
      rw [List.eraseP_cons, List.filter_cons]
      by_cases same : elem.1 = key
      · have others : rest.filter (fun elem => ¬ elem.1 = key) = rest := by
          apply List.filter_eq_self.mpr
          intro other member
          apply decide_eq_true
          intro again
          apply later.1
          rw [same, ← again]
          exact List.mem_map_of_mem member
        rw [beq_iff_eq.mpr same.symm, cond_true, decide_eq_false (not_not_intro same), if_neg Bool.false_ne_true,
          others]
      · rw [beq_eq_false_iff_ne.mpr (Ne.symm same), cond_false, decide_eq_true same, if_pos rfl,
          inductionHypothesis later.2]

theorem getProperty_eq_some_iff (distinct : table.keys.Nodup) :
    table.getProperty name = some value ↔ (name, value) ∈ table := by
  induction table with
  | nil => exact iff_of_false nofun List.not_mem_nil
  | cons elem rest inductionHypothesis =>
      have later := List.nodup_cons.mp distinct
      rw [getProperty_cons, List.mem_cons]
      by_cases here : elem.1 = name
      · have absent : ¬ (name, value) ∈ rest := fun member => later.1 (here ▸ List.mem_map_of_mem member)
        rw [if_pos here, Option.some_inj, or_iff_left absent, ← here]
        constructor
        · rintro rfl
          rfl
        · exact fun same => congrArg Prod.snd same.symm
      · have other : (name, value) ≠ elem := fun same => here (congrArg Prod.fst same.symm)
        rw [if_neg here, or_iff_right other]
        exact inductionHypothesis later.2

theorem keyAt_valueAt_iff {index : Nat} (small : index < 2 ^ 31) :
    table.keyAt index = .ok key ∧ table.valueAt index = .ok value ↔ table[index]? = some (key, value) := by
  have place : asSize index = index := asSize_of_nonneg (Int.natCast_nonneg index) (by omega)
  rw [keyAt, valueAt, propertyAt, place, Outcome.read]
  cases table[index]? with
  | none =>
      apply iff_of_false
      · rintro ⟨impossible, -⟩
        cases impossible
      · exact (Option.some_ne_none (key, value)).symm
  | some elem =>
      rw [Option.some_inj, Outcome.ok_bind_do, Outcome.ok_bind_do, Outcome.pure_eq, Outcome.pure_eq, Outcome.ok.injEq,
        Outcome.ok.injEq]
      exact (@Prod.ext_iff _ _ elem (key, value)).symm

end UnSortedHashtable

/-! ## Instances -/

/-- The table with the instances that it has deleted. -/
structure OwnedTable (ι : Type) where
  properties : UnSortedHashtable ι
  deleted : List ι
  deriving DecidableEq, Repr

namespace OwnedTable

variable {ι : Type}

def new : OwnedTable ι where
  properties := []
  deleted := []

variable [DecidableEq ι]

/-- `delete any`, which has no meaning for what was deleted before. -/
def delete (table : OwnedTable ι) (any : ι) : Outcome (OwnedTable ι) :=
  if any ∈ table.deleted then .fault else .ok { table with deleted := table.deleted ++ [any] }

/-- `set`: the first property of that name is deleted and erased. -/
def set (table : OwnedTable ι) (key : List UInt8) (value : Option ι) : Outcome (OwnedTable ι) := do
  let found := (table.properties.find? fun elem => key == elem.1).toList
  let after ← (found.map Prod.snd).foldlM delete table
  return { after with properties := table.properties.set key value }

/-- `remove`: every property of that name is. -/
def remove (table : OwnedTable ι) (name : List UInt8) : Outcome (OwnedTable ι) := do
  let found := table.properties.filter fun elem => elem.1 = name
  let after ← (found.map Prod.snd).foldlM delete table
  return { after with properties := table.properties.remove name }

/-- `clear`. -/
def clear (table : OwnedTable ι) : Outcome (OwnedTable ι) := do
  let after ← (table.properties.map Prod.snd).foldlM delete table
  return { after with properties := [] }

/-- `copy` from another table; `copied` is what `any->copy()` creates. -/
def copy (table : OwnedTable ι) (src : UnSortedHashtable ι) (copied : ι -> ι) : Outcome (OwnedTable ι) :=
  src.foldlM (fun table elem =>
    if elem.2 ∈ table.deleted then .fault else table.set elem.1 (some (copied elem.2))) table

/-- A call of one of the functions. -/
inductive Call (ι : Type) where
  | set (key : List UInt8) (value : Option ι)
  | remove (name : List UInt8)
  | clear
  | copy (src : UnSortedHashtable ι) (copied : ι -> ι)

def after (table : OwnedTable ι) : Call ι -> Outcome (OwnedTable ι)
  | .set key value => table.set key value
  | .remove name => table.remove name
  | .clear => table.clear
  | .copy src copied => table.copy src copied

/-- Calls one after the other, from an empty table. -/
def run (calls : List (Call ι)) : Outcome (OwnedTable ι) := calls.foldlM after new

namespace Call

/-- What `set` does to a map. -/
def setEvent (key : List UInt8) : Option ι -> MapEvent (List UInt8) ι
  | some value => .put key value
  | none => .drop key

omit [DecidableEq ι] in
theorem setEvent_ends (key : List UInt8) (value : Option ι) (other : List UInt8) :
    (setEvent key value).Ends other ↔ key = other := by
  cases value with
  | none => exact Iff.rfl
  | some value => exact Iff.rfl

def events : Call ι -> List (MapEvent (List UInt8) ι)
  | set key value => [setEvent key value]
  | remove name => [.drop name]
  | clear => [.wipe]
  | copy src copied => src.map fun elem => .put elem.1 (copied elem.2)

/-- The instances that the table is given. -/
def given : Call ι -> List ι
  | set _ value => value.toList
  | remove _ => []
  | clear => []
  | copy src copied => src.map fun elem => copied elem.2

/-- The instances of another table that the call uses. -/
def others : Call ι -> List ι
  | copy src _ => src.map Prod.snd
  | _ => []

end Call

/-- What has happened to the map. -/
def history (calls : List (Call ι)) : List (MapEvent (List UInt8) ι) := calls.flatMap Call.events

/-- The table is given each instance once, and none that another table owns. -/
structure DistinctInstances (calls : List (Call ι)) : Prop where
  given : (calls.flatMap Call.given).Nodup
  others : forall call, call ∈ calls -> forall any, any ∈ call.others -> ¬ any ∈ calls.flatMap Call.given

/-! ## Every call as events -/

/-- The properties that an event ends are deleted and leave the table, and its
own entry goes to the end. -/
def apply (table : OwnedTable ι) (event : MapEvent (List UInt8) ι) : Outcome (OwnedTable ι) := do
  let after ← ((table.properties.filter fun elem => event.Ends elem.1).map Prod.snd).foldlM delete table
  return { after with properties := (table.properties.filter fun elem => ¬ event.Ends elem.1) ++ event.entries }

omit [DecidableEq ι] in
/-- What ends one key only ends the properties of that name. -/
theorem filter_ends {event : MapEvent (List UInt8) ι} {key : List UInt8}
    (only : forall other, event.Ends other ↔ key = other) (properties : UnSortedHashtable ι) :
    (properties.filter fun elem => elem.1 = key) = (properties.filter fun elem => event.Ends elem.1) ∧
      (properties.filter fun elem => ¬ elem.1 = key) = properties.filter fun elem => ¬ event.Ends elem.1 := by
  have same (elem : List UInt8 × ι) : elem.1 = key ↔ event.Ends elem.1 := by
    rw [only]
    exact eq_comm
  constructor
  · exact List.filter_congr fun elem _ => decide_eq_decide.mpr (same elem)
  · exact List.filter_congr fun elem _ => decide_eq_decide.mpr (not_congr (same elem))

theorem set_eq_apply {table : OwnedTable ι} (distinct : table.properties.keys.Nodup) (key : List UInt8)
    (value : Option ι) : table.set key value = table.apply (Call.setEvent key value) := by
  have properties : table.properties.set key value =
      (table.properties.filter fun elem => ¬ elem.1 = key) ++ (Call.setEvent key value).entries := by
    rw [← UnSortedHashtable.eraseP_eq_filter distinct]
    cases value with
    | none => exact (List.append_nil _).symm
    | some value => rfl
  rcases filter_ends (Call.setEvent_ends key value) table.properties with ⟨ended, kept⟩
  rw [set, apply, UnSortedHashtable.find?_eq_filter distinct, properties, ended, kept]

theorem remove_eq_apply (table : OwnedTable ι) (name : List UInt8) : table.remove name = table.apply (.drop name) := by
  have only (other : List UInt8) : (MapEvent.drop name : MapEvent (List UInt8) ι).Ends other ↔ name = other := Iff.rfl
  rcases filter_ends only table.properties with ⟨ended, kept⟩
  rw [remove, apply, UnSortedHashtable.remove_eq_filter, ended, kept, MapEvent.entries, List.append_nil]

theorem clear_eq_apply (table : OwnedTable ι) : table.clear = table.apply .wipe := by
  have ended : (table.properties.filter fun elem => (MapEvent.wipe : MapEvent (List UInt8) ι).Ends elem.1) =
      table.properties := List.filter_eq_self.mpr fun _ _ => decide_eq_true trivial
  have kept : (table.properties.filter fun elem => ¬ (MapEvent.wipe : MapEvent (List UInt8) ι).Ends elem.1) = [] :=
    List.filter_eq_nil_iff.mpr fun _ _ stays => of_decide_eq_true stays trivial
  rw [clear, apply, ended, kept]
  rfl

/-! ## Runs -/

/-- The table holds what the history tells, and owns what it was given and has
not deleted. -/
structure Follows (past : List (MapEvent (List UInt8) ι)) (given : List ι) (table : OwnedTable ι) : Prop where
  properties : table.properties = lastSets past
  owned : (table.properties.map Prod.snd ++ table.deleted).Perm given

omit [DecidableEq ι] in
theorem Follows.new : Follows [] [] (new : OwnedTable ι) where
  properties := rfl
  owned := .refl _

theorem foldlM_delete {table : OwnedTable ι} {gone : List ι} (once : (table.deleted ++ gone).Nodup) :
    gone.foldlM delete table = .ok { table with deleted := table.deleted ++ gone } := by
  induction gone generalizing table with
  | nil =>
      rw [List.append_nil]
      rfl
  | cons any gone inductionHypothesis =>
      have alive : ¬ any ∈ table.deleted := fun member =>
        List.disjoint_of_nodup_append once member List.mem_cons_self
      rw [List.append_cons] at once ⊢
      rw [List.foldlM_cons, delete, if_neg alive, Outcome.ok_bind_do, inductionHypothesis once]

variable {past : List (MapEvent (List UInt8) ι)} {given : List ι} {table : OwnedTable ι}

omit [DecidableEq ι] in
theorem Follows.distinct (follows : Follows past given table) : table.properties.keys.Nodup := by
  rw [UnSortedHashtable.keys, follows.properties]
  exact lastSets_nodup past

omit [DecidableEq ι] in
/-- What was never given was not deleted. -/
theorem Follows.alive (follows : Follows past given table) {any : ι} (other : ¬ any ∈ given) : ¬ any ∈ table.deleted :=
  fun member => other (follows.owned.mem_iff.mp (List.mem_append_right _ member))

/-- One event: nothing is deleted twice. -/
theorem Follows.apply (follows : Follows past given table) (distinct : given.Nodup)
    (event : MapEvent (List UInt8) ι) : Exists fun after =>
      table.apply event = .ok after ∧ Follows (past ++ [event]) (given ++ event.entries.map Prod.snd) after := by
  have parts : ((table.properties.filter fun elem => event.Ends elem.1) ++
      table.properties.filter fun elem => ¬ event.Ends elem.1).Perm table.properties := by
    have split := List.filter_append_perm (fun elem => decide (event.Ends elem.1)) table.properties
    simp only [← decide_not] at split
    exact split
  have values := parts.map Prod.snd
  rw [List.map_append] at values
  have whole := (values.append_right table.deleted).trans follows.owned
  have once : (table.deleted ++ (table.properties.filter fun elem => event.Ends elem.1).map Prod.snd).Nodup := by
    have all := whole.nodup_iff.mpr distinct
    rw [List.append_assoc] at all
    have ends := all.sublist (List.Sublist.append_left (List.sublist_append_right _ _) _)
    exact List.perm_append_comm.nodup_iff.mp ends
  refine ⟨_, congrArg (· >>= _) (foldlM_delete once), ?_, ?_⟩
  · rw [lastSets_concat, ← follows.properties]
  · rw [List.map_append]
    apply List.perm_iff_count.mpr
    intro any
    have counts := List.perm_iff_count.mp whole any
    simp only [List.count_append] at counts ⊢
    omega

theorem Follows.set (follows : Follows past given table) (distinct : given.Nodup) (key : List UInt8)
    (value : Option ι) : Exists fun after => table.set key value = .ok after ∧
      Follows (past ++ [Call.setEvent key value]) (given ++ value.toList) after := by
  have values : (Call.setEvent key value).entries.map Prod.snd = value.toList := by
    cases value with
    | none => rfl
    | some value => rfl
  rw [set_eq_apply follows.distinct, ← values]
  exact follows.apply distinct _

/-- The loop of `copy`: what it reads belongs to the other table. -/
theorem Follows.copy (follows : Follows past given table) {src : UnSortedHashtable ι} {copied : ι -> ι}
    (distinct : (given ++ src.map fun elem => copied elem.2).Nodup)
    (others : forall any, any ∈ src.map Prod.snd -> ¬ any ∈ given ++ src.map fun elem => copied elem.2) :
    Exists fun after => table.copy src copied = .ok after ∧
      Follows (past ++ src.map fun elem => .put elem.1 (copied elem.2))
        (given ++ src.map fun elem => copied elem.2) after := by
  induction src generalizing past given table with
  | nil =>
      refine ⟨table, rfl, ?_⟩
      rw [List.map_nil, List.map_nil, List.append_nil, List.append_nil]
      exact follows
  | cons elem src inductionHypothesis =>
      have alive : ¬ elem.2 ∈ table.deleted :=
        follows.alive fun member => others elem.2 List.mem_cons_self (List.mem_append_left _ member)
      rcases follows.set distinct.of_append_left elem.1 (some (copied elem.2)) with ⟨next, taken, follows⟩
      have gives : given ++ (elem :: src).map (fun elem => copied elem.2) =
          given ++ [copied elem.2] ++ src.map fun elem => copied elem.2 := List.append_cons _ _ _
      rw [gives] at distinct others ⊢
      rcases inductionHypothesis follows distinct fun any member => others any (List.mem_cons_of_mem _ member) with
        ⟨after, rest, follows⟩
      refine ⟨after, ?_, ?_⟩
      · rw [OwnedTable.copy, List.foldlM_cons, if_neg alive, taken]
        exact rest
      · rw [List.map_cons, List.append_cons past]
        exact follows

/-- One call. -/
theorem Follows.after (follows : Follows past given table) (call : Call ι) (distinct : (given ++ call.given).Nodup)
    (others : forall any, any ∈ call.others -> ¬ any ∈ given ++ call.given) : Exists fun after =>
      table.after call = .ok after ∧ Follows (past ++ call.events) (given ++ call.given) after := by
  cases call with
  | set key value => exact follows.set distinct.of_append_left key value
  | remove name =>
      rw [OwnedTable.after, remove_eq_apply]
      exact follows.apply distinct.of_append_left (.drop name)
  | clear =>
      rw [OwnedTable.after, clear_eq_apply]
      exact follows.apply distinct.of_append_left .wipe
  | copy src copied => exact follows.copy distinct others

/-- A run of calls. -/
theorem Follows.run (follows : Follows past given table) {calls : List (Call ι)}
    (distinct : (given ++ calls.flatMap Call.given).Nodup)
    (others : forall call, call ∈ calls -> forall any, any ∈ call.others -> ¬ any ∈ given ++ calls.flatMap Call.given) :
    Exists fun after => calls.foldlM OwnedTable.after table = .ok after ∧
      Follows (past ++ history calls) (given ++ calls.flatMap Call.given) after := by
  induction calls generalizing past given table with
  | nil =>
      refine ⟨table, rfl, ?_⟩
      rw [history, List.flatMap_nil, List.flatMap_nil, List.append_nil, List.append_nil]
      exact follows
  | cons call calls inductionHypothesis =>
      rw [List.flatMap_cons, ← List.append_assoc] at distinct others
      rcases follows.after call distinct.of_append_left
        (fun any member among => others call List.mem_cons_self any member (List.mem_append_left _ among)) with
        ⟨next, taken, follows⟩
      rcases inductionHypothesis follows distinct
        (fun later member => others later (List.mem_cons_of_mem _ member)) with ⟨after, rest, follows⟩
      refine ⟨after, ?_, ?_⟩
      · rw [List.foldlM_cons, taken, Outcome.ok_bind_do]
        exact rest
      · rw [history, List.flatMap_cons, List.flatMap_cons, ← List.append_assoc, ← List.append_assoc]
        exact follows

theorem follows_run {calls : List (Call ι)} (distinct : DistinctInstances calls) : Exists fun after =>
    run calls = .ok after ∧ Follows (history calls) (calls.flatMap Call.given) after :=
  Follows.new.run distinct.given distinct.others

/-! ## An insertion-ordered map -/

/-- The table shows the history: each name with the value that was last set and
not removed, in the order in which these were set.  The number of names comes
back as an `int`, and is asked by one. -/
structure InsertionOrdered (past : List (MapEvent (List UInt8) ι)) (table : UnSortedHashtable ι) : Prop where
  distinct : table.keys.Nodup
  found : forall key value,
    table.getProperty key = some value ↔ Exists fun place => LastSet past place key value
  counted : table.count = asInt (liveKeys past).ncard
  enumerated : forall index : Nat, index < 2 ^ 31 -> forall key value,
    table.keyAt index = .ok key ∧ table.valueAt index = .ok value ↔
      Exists fun place => LastSet past place key value ∧ rank past place = index

omit [DecidableEq ι] in
theorem insertionOrdered_lastSets (past : List (MapEvent (List UInt8) ι)) : InsertionOrdered past (lastSets past) where
  distinct := lastSets_nodup past
  found := by
    intro key value
    rw [UnSortedHashtable.getProperty_eq_some_iff (lastSets_nodup past)]
    exact mem_lastSets
  counted := by rw [UnSortedHashtable.count, ncard_liveKeys]
  enumerated := by
    intro index small key value
    rw [UnSortedHashtable.keyAt_valueAt_iff small]
    exact getElem?_lastSets past index key value

/-- After any calls the table shows what they did, and no instance that it
holds was deleted. -/
theorem run_insertionOrdered (calls : List (Call ι)) (distinct : DistinctInstances calls) :
    Exists fun table => run calls = .ok table ∧ InsertionOrdered (history calls) table.properties ∧
      table.deleted.Nodup ∧ forall any, any ∈ table.properties.map Prod.snd -> ¬ any ∈ table.deleted := by
  rcases follows_run distinct with ⟨table, ran, follows⟩
  have each := follows.owned.nodup_iff.mpr distinct.given
  refine ⟨table, ran, ?_, each.of_append_right, ?_⟩
  · rw [follows.properties]
    exact insertionOrdered_lastSets (history calls)
  · intro any held gone
    exact List.disjoint_of_nodup_append each held gone

/-- Two names are set, one again by a copy that brings a third, and two go. -/
def renewed : List (Call Nat) :=
  [.set [0x61] (some 1), .set [0x62] (some 2), .copy [([0x61], 10), ([0x63], 11)] (· + 100), .set [0x64] (some 3),
    .remove [0x62], .set [0x63] none]

theorem run_insertionOrdered_renewed :
    InsertionOrdered (history renewed) [([0x61], 110), ([0x64], 3)] := by
  have ran : run renewed = .ok { properties := [([0x61], 110), ([0x64], 3)], deleted := [1, 2, 111] } := by decide
  rcases run_insertionOrdered renewed ⟨by decide, by decide⟩ with ⟨table, same, ordered, -⟩
  rcases Outcome.ok.inj (ran.symm.trans same) with rfl
  exact ordered

/-- As many names as a number says. -/
def crowded (number : Nat) : List (Call Nat) :=
  (List.range number).map fun index => .set (decimal index) (some index)

theorem given_crowded (number : Nat) : (crowded number).flatMap Call.given = List.range number := by
  rw [crowded, List.flatMap_map]
  exact List.flatMap_singleton' _

theorem distinctInstances_crowded (number : Nat) : DistinctInstances (crowded number) where
  given := by
    rw [given_crowded]
    exact List.nodup_range
  others := by
    intro call member any among
    rcases List.mem_map.mp member with ⟨index, -, rfl⟩
    cases among

theorem lastSets_crowded (number : Nat) :
    lastSets (history (crowded number)) = (List.range number).map fun index => (decimal index, index) := by
  have puts : history (crowded number) =
      ((List.range number).map fun index => (decimal index, index)).map fun entry => .put entry.1 entry.2 := by
    rw [history, crowded, List.flatMap_map, List.map_map]
    exact List.flatMap_pure_eq_map _ _
  rw [puts, lastSets_puts]
  rw [List.map_map]
  exact List.nodup_range.map decimal_injective

/-- A table of 2^31 names, which `count` turns into -2^31. -/
theorem crowded_miscounted : DistinctInstances (crowded (2 ^ 31)) ∧ Exists fun table =>
    run (crowded (2 ^ 31)) = .ok table ∧ table.properties.count = -2 ^ 31 ∧
      (liveKeys (history (crowded (2 ^ 31)))).ncard = 2 ^ 31 := by
  have distinct := distinctInstances_crowded (2 ^ 31)
  rcases follows_run distinct with ⟨table, ran, follows⟩
  have length : (lastSets (history (crowded (2 ^ 31)))).length = 2 ^ 31 := by
    rw [lastSets_crowded, List.length_map, List.length_range]
  refine ⟨distinct, table, ran, ?_, ?_⟩
  · rw [UnSortedHashtable.count, follows.properties, length]
    exact asInt_eq (by decide) (by decide)
  · rw [ncard_liveKeys]
    exact length

end OwnedTable

end Amf0
end RtmpClient
