import Mathlib.Data.Finset.Card
import Mathlib.Data.Set.Card
import Mathlib.Tactic.Common

namespace RtmpClient
namespace Library

universe u v

/-!
# Maps ordered by insertion

What a map holds after a history of events, told by the history alone: a key
has the value of its last `put` that no event behind it has ended, and the keys
stand in the order of these puts.
-/

/-- What can happen to a map. -/
inductive MapEvent (κ : Type u) (ν : Type v) where
  | put (key : κ) (value : ν)
  | drop (key : κ)
  | wipe
  deriving DecidableEq, Repr

variable {κ : Type u} {ν : Type v}

namespace MapEvent

/-- The key does not keep the value that it has. -/
def Ends : MapEvent κ ν -> (key : κ) -> Prop
  | put other _, key => other = key
  | drop other, key => other = key
  | wipe, _ => True

instance Ends.decide [DecidableEq κ] : (event : MapEvent κ ν) -> (key : κ) -> Decidable (event.Ends key)
  | put other _, key => inferInstanceAs (Decidable (other = key))
  | drop other, key => inferInstanceAs (Decidable (other = key))
  | wipe, _ => isTrue trivial

def entries : MapEvent κ ν -> List (κ × ν)
  | put key value => [(key, value)]
  | drop _ => []
  | wipe => []

theorem mem_entries {event : MapEvent κ ν} {key : κ} {value : ν} :
    (key, value) ∈ event.entries ↔ event = put key value := by
  cases event with
  | put other found =>
      rw [entries, List.mem_singleton, Prod.mk.injEq, put.injEq]
      exact and_congr eq_comm eq_comm
  | drop other => exact iff_of_false List.not_mem_nil nofun
  | wipe => exact iff_of_false List.not_mem_nil nofun

end MapEvent

open MapEvent

variable {history later : List (MapEvent κ ν)} {event : MapEvent κ ν} {place : Nat} {key : κ} {value : ν}

/-! ## Last puts -/

/-- The key was put at this place, and nothing behind it ends it. -/
def LastSet (history : List (MapEvent κ ν)) (place : Nat) (key : κ) (value : ν) : Prop :=
  history[place]? = some (put key value) ∧ forall event, event ∈ history.drop (place + 1) -> ¬ event.Ends key

/-- The keys that have a value. -/
def liveKeys (history : List (MapEvent κ ν)) : Set κ :=
  { key | Exists fun place => Exists fun value => LastSet history place key value }

/-- The last puts that stand in front of a place. -/
def lastInFront (history : List (MapEvent κ ν)) (place : Nat) : Set Nat :=
  { earlier | earlier < place ∧ Exists fun key => Exists fun value => LastSet history earlier key value }

/-- How many they are. -/
noncomputable def rank (history : List (MapEvent κ ν)) (place : Nat) : Nat := (lastInFront history place).ncard

theorem not_lastSet_nil : ¬ LastSet [] place key value := by
  intro last
  cases last.1

theorem lastSet_first : LastSet (event :: later) 0 key value ↔
    event = put key value ∧ forall other, other ∈ later -> ¬ other.Ends key := by
  rw [LastSet, List.getElem?_cons_zero, Option.some_inj, List.drop_succ_cons, List.drop_zero]

theorem lastSet_later : LastSet (event :: later) (place + 1) key value ↔ LastSet later place key value := by
  rw [LastSet, LastSet, List.getElem?_cons_succ, List.drop_succ_cons]

theorem rank_zero (history : List (MapEvent κ ν)) : rank history 0 = 0 := by
  have none : lastInFront history 0 = ∅ :=
    Set.eq_empty_iff_forall_notMem.mpr fun _ member => Nat.not_lt_zero _ member.1
  rw [rank, none, Set.ncard_empty]

variable [DecidableEq κ]

/-! ## The map of a history -/

/-- What the first event puts in that no later event ends. -/
def lasting (event : MapEvent κ ν) (later : List (MapEvent κ ν)) : List (κ × ν) :=
  event.entries.filter fun entry => forall other, other ∈ later -> ¬ other.Ends entry.1

/-- The last puts, in the order of the history. -/
def lastSets : List (MapEvent κ ν) -> List (κ × ν)
  | [] => []
  | event :: later => lasting event later ++ lastSets later

theorem mem_lasting : (key, value) ∈ lasting event later ↔ LastSet (event :: later) 0 key value := by
  rw [lasting, List.mem_filter, mem_entries, decide_eq_true_iff, lastSet_first]

theorem lasting_cases (event : MapEvent κ ν) (later : List (MapEvent κ ν)) :
    lasting event later = [] ∧ (forall key value, ¬ LastSet (event :: later) 0 key value) ∨
      Exists fun key => Exists fun value =>
        lasting event later = [(key, value)] ∧ LastSet (event :: later) 0 key value := by
  cases found : lasting event later with
  | nil =>
      refine .inl ⟨rfl, fun key value last => ?_⟩
      rw [← mem_lasting, found] at last
      exact List.not_mem_nil last
  | cons entry others =>
      have short : (lasting event later).length ≤ event.entries.length := List.length_filter_le _ _
      have single : event.entries.length ≤ 1 := by
        cases event with
        | put _ _ => exact Nat.le_refl 1
        | drop _ => exact Nat.zero_le 1
        | wipe => exact Nat.zero_le 1
      have none : others = [] := by
        rw [found, List.length_cons] at short
        apply List.eq_nil_of_length_eq_zero
        omega
      have member : entry ∈ lasting event later := found ▸ List.mem_cons_self
      exact .inr ⟨entry.1, entry.2, by rw [none], mem_lasting.mp member⟩

/-- The first event stands in front of all places behind it. -/
theorem rank_cons (event : MapEvent κ ν) (later : List (MapEvent κ ν)) (place : Nat) :
    rank (event :: later) (place + 1) = (lasting event later).length + rank later place := by
  have behind : lastInFront (event :: later) (place + 1) \ {0} = Nat.succ '' lastInFront later place := by
    ext earlier
    cases earlier with
    | zero =>
        apply iff_of_false
        · exact fun member => member.2 rfl
        · rintro ⟨before, -, impossible⟩
          cases impossible
    | succ earlier =>
        constructor
        · rintro ⟨⟨less, key, value, last⟩, -⟩
          exact ⟨earlier, ⟨Nat.lt_of_succ_lt_succ less, key, value, lastSet_later.mp last⟩, rfl⟩
        · rintro ⟨before, ⟨less, key, value, last⟩, same⟩
          rcases Nat.succ.inj same with rfl
          exact ⟨⟨Nat.succ_lt_succ less, key, value, lastSet_later.mpr last⟩, Nat.succ_ne_zero before⟩
  have finite : (lastInFront (event :: later) (place + 1)).Finite :=
    (Set.finite_lt_nat (place + 1)).subset fun _ member => member.1
  have count : (lastInFront (event :: later) (place + 1) \ {0}).ncard = rank later place := by
    rw [behind, Set.ncard_image_of_injective _ Nat.succ_injective, rank]
  rcases lasting_cases event later with ⟨none, never⟩ | ⟨key, value, one, last⟩
  · have absent : ¬ 0 ∈ lastInFront (event :: later) (place + 1) := by
      rintro ⟨-, key, value, last⟩
      exact never key value last
    rw [Set.sdiff_singleton_eq_self absent] at count
    rw [none, List.length_nil, Nat.zero_add]
    exact count
  · have member : 0 ∈ lastInFront (event :: later) (place + 1) := ⟨Nat.succ_pos place, key, value, last⟩
    have whole := Set.ncard_sdiff_singleton_add_one member finite
    rw [count] at whole
    rw [one, List.length_singleton, Nat.add_comm 1]
    exact whole.symm

/-- Each last put is an entry, at the index that tells how many are in front of
it. -/
theorem getElem?_lastSets (history : List (MapEvent κ ν)) (index : Nat) (key : κ) (value : ν) :
    (lastSets history)[index]? = some (key, value) ↔
      Exists fun place => LastSet history place key value ∧ rank history place = index := by
  induction history generalizing index with
  | nil => exact iff_of_false nofun fun ⟨_, last, _⟩ => not_lastSet_nil last
  | cons event later inductionHypothesis =>
      rw [lastSets]
      by_cases here : index < (lasting event later).length
      · rw [List.getElem?_append_left here]
        rcases lasting_cases event later with ⟨none, -⟩ | ⟨first, found, one, last⟩
        · rw [none] at here
          exact absurd here (Nat.not_lt_zero index)
        · have zero : index = 0 := by
            rw [one, List.length_singleton] at here
            omega
          rw [one, zero, List.getElem?_cons_zero, Option.some_inj]
          constructor
          · intro same
            rcases Prod.mk.inj same with ⟨rfl, rfl⟩
            exact ⟨0, last, rank_zero _⟩
          · rintro ⟨place, last', front⟩
            cases place with
            | zero =>
                have both := (lastSet_first.mp last).1.symm.trans (lastSet_first.mp last').1
                rcases MapEvent.put.inj both with ⟨rfl, rfl⟩
                rfl
            | succ place =>
                rw [rank_cons, one, List.length_singleton] at front
                omega
      · rw [List.getElem?_append_right (Nat.le_of_not_lt here), inductionHypothesis]
        constructor
        · rintro ⟨place, last, front⟩
          refine ⟨place + 1, lastSet_later.mpr last, ?_⟩
          rw [rank_cons, front]
          omega
        · rintro ⟨place, last, front⟩
          cases place with
          | zero =>
              rw [rank_zero] at front
              have member := List.length_pos_of_mem (mem_lasting.mpr last)
              omega
          | succ place =>
              refine ⟨place, lastSet_later.mp last, ?_⟩
              rw [rank_cons] at front
              omega

theorem mem_lastSets : (key, value) ∈ lastSets history ↔ Exists fun place => LastSet history place key value := by
  rw [List.mem_iff_getElem?]
  constructor
  · rintro ⟨index, found⟩
    rcases (getElem?_lastSets history index key value).mp found with ⟨place, last, -⟩
    exact ⟨place, last⟩
  · rintro ⟨place, last⟩
    exact ⟨_, (getElem?_lastSets history _ key value).mpr ⟨place, last, rfl⟩⟩

theorem lastSets_nodup (history : List (MapEvent κ ν)) : ((lastSets history).map Prod.fst).Nodup := by
  induction history with
  | nil => exact List.nodup_nil
  | cons event later inductionHypothesis =>
      rw [lastSets, List.map_append]
      rcases lasting_cases event later with ⟨none, -⟩ | ⟨key, value, one, last⟩
      · rw [none]
        exact inductionHypothesis
      · rw [one]
        refine List.nodup_cons.mpr ⟨?_, inductionHypothesis⟩
        intro member
        rcases List.mem_map.mp member with ⟨⟨other, found⟩, present, rfl⟩
        rcases mem_lastSets.mp present with ⟨place, again, -⟩
        exact (lastSet_first.mp last).2 _ (List.mem_of_getElem? again) rfl

/-- There are as many entries as keys with a value. -/
theorem ncard_liveKeys (history : List (MapEvent κ ν)) : (liveKeys history).ncard = (lastSets history).length := by
  have keys : liveKeys history = ((lastSets history).map Prod.fst).toFinset := by
    ext key
    rw [Finset.mem_coe, List.mem_toFinset, List.mem_map]
    constructor
    · rintro ⟨place, value, last⟩
      exact ⟨(key, value), mem_lastSets.mpr ⟨place, last⟩, rfl⟩
    · rintro ⟨⟨other, value⟩, present, rfl⟩
      rcases mem_lastSets.mp present with ⟨place, last⟩
      exact ⟨place, value, last⟩
  rw [keys, Set.ncard_coe_finset, List.toFinset_card_of_nodup (lastSets_nodup history), List.length_map]

/-! ## One event more -/

theorem lasting_concat (first event : MapEvent κ ν) (history : List (MapEvent κ ν)) :
    lasting first (history ++ [event]) = (lasting first history).filter fun entry => ¬ event.Ends entry.1 := by
  rw [lasting, lasting, List.filter_filter]
  apply List.filter_congr
  intro entry _
  rw [Bool.eq_iff_iff, Bool.and_eq_true, decide_eq_true_iff, decide_eq_true_iff, decide_eq_true_iff,
    List.forall_mem_append, List.forall_mem_singleton]
  exact and_comm

/-- An event takes away what it ends and puts its own entry behind the rest. -/
theorem lastSets_concat (history : List (MapEvent κ ν)) (event : MapEvent κ ν) :
    lastSets (history ++ [event]) =
      ((lastSets history).filter fun entry => ¬ event.Ends entry.1) ++ event.entries := by
  induction history with
  | nil =>
      have stays : lasting event [] = event.entries :=
        List.filter_eq_self.mpr fun _ _ => decide_eq_true (List.forall_mem_nil _)
      show lasting event [] ++ [] = [] ++ event.entries
      rw [stays, List.append_nil, List.nil_append]
  | cons first history inductionHypothesis =>
      rw [List.cons_append, lastSets, lastSets, inductionHypothesis, lasting_concat, List.filter_append,
        List.append_assoc]

/-- Puts of distinct keys are all last. -/
theorem lastSets_puts {entries : List (κ × ν)} (distinct : (entries.map Prod.fst).Nodup) :
    lastSets (entries.map fun entry => put entry.1 entry.2) = entries := by
  induction entries with
  | nil => rfl
  | cons entry entries inductionHypothesis =>
      rw [List.map_cons, List.nodup_cons] at distinct
      have stays : lasting (put entry.1 entry.2) (entries.map fun entry => put entry.1 entry.2) = [entry] := by
        apply List.filter_eq_self.mpr
        intro own member
        rw [List.mem_singleton.mp member]
        apply decide_eq_true
        intro other present ends
        rcases List.mem_map.mp present with ⟨behind, among, rfl⟩
        exact distinct.1 (List.mem_map.mpr ⟨behind, among, ends⟩)
      rw [List.map_cons, lastSets, stays, inductionHypothesis distinct.2]
      rfl

end Library
end RtmpClient
