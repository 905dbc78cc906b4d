import Mathlib.Data.List.Perm.Basic
import Mathlib.Data.List.Perm.Lattice
import Mathlib.Data.List.Range
import Mathlib.Tactic.Common

namespace RtmpClient
namespace Library

/-!
# A record of instances

Every instance gets the next number when it is created.  The ledger is balanced
while each instance is either still owned or was deleted, once in all.  A
deletion that happens twice can never be made good.
-/

/-- How many instances were created, which were put into which containers, and
which were deleted, in this order. -/
structure Ledger where
  created : Nat
  inserted : List (Nat × Nat)
  deleted : List Nat
  deriving DecidableEq, Repr

namespace Ledger

def new : Ledger where
  created := 0
  inserted := []
  deleted := []

/-- The new instance is the one that `created` numbers. -/
def create (ledger : Ledger) : Ledger := { ledger with created := ledger.created + 1 }

def insert (ledger : Ledger) (container member : Nat) : Ledger :=
  { ledger with inserted := ledger.inserted ++ [(container, member)] }

/-- The deletion of one instance, with all that it reaches. -/
def delete (ledger : Ledger) (reached : List Nat) : Ledger :=
  { ledger with deleted := ledger.deleted ++ reached }

/-- Each instance is owned or was deleted, and once in all. -/
structure Balanced (ledger : Ledger) (owned : List Nat) : Prop where
  each : (owned ++ ledger.deleted).Perm (List.range ledger.created)
  known : forall pair, pair ∈ ledger.inserted -> pair.2 < ledger.created

/-- Nothing was deleted more than once, and what is in a container that was
deleted, exactly once. -/
structure DeletedOnce (ledger : Ledger) : Prop where
  each : forall id, ledger.deleted.count id ≤ 1
  members : forall pair, pair ∈ ledger.inserted -> pair.1 ∈ ledger.deleted -> ledger.deleted.count pair.2 = 1

/-- Some instance was deleted more than once. -/
def TwiceDeleted (ledger : Ledger) : Prop := ¬ ledger.deleted.Nodup

namespace Balanced

variable {ledger : Ledger} {owned owned' gone : List Nat}

theorem new : Ledger.new.Balanced [] where
  each := .refl _
  known := List.forall_mem_nil _

theorem perm (balanced : ledger.Balanced owned) (same : owned.Perm owned') : ledger.Balanced owned' where
  each := (same.symm.append_right ledger.deleted).trans balanced.each
  known := balanced.known

theorem create (balanced : ledger.Balanced owned) : ledger.create.Balanced (ledger.created :: owned) where
  each := by
    show (ledger.created :: owned ++ ledger.deleted).Perm (List.range (ledger.created + 1))
    rw [List.range_succ]
    exact (balanced.each.cons ledger.created).trans (List.perm_append_singleton _ _).symm
  known := fun pair member => Nat.lt_succ_of_lt (balanced.known pair member)

theorem delete (balanced : ledger.Balanced (gone ++ owned)) : (ledger.delete gone).Balanced owned where
  each := by
    show (owned ++ (ledger.deleted ++ gone)).Perm _
    rw [← List.append_assoc]
    refine List.perm_append_comm.trans ?_
    rw [← List.append_assoc]
    exact balanced.each
  known := balanced.known

theorem lt_of_mem (balanced : ledger.Balanced owned) {id : Nat} (member : id ∈ owned) : id < ledger.created :=
  List.mem_range.mp (balanced.each.mem_iff.mp (List.mem_append_left _ member))

theorem insert (balanced : ledger.Balanced owned) (container : Nat) {member : Nat} (held : member ∈ owned) :
    (ledger.insert container member).Balanced owned where
  each := balanced.each
  known := by
    intro pair inside
    rcases List.mem_append.mp inside with before | added
    · exact balanced.known pair before
    · rw [List.mem_singleton.mp added]
      exact balanced.lt_of_mem held

theorem deleted_nodup (balanced : ledger.Balanced owned) : ledger.deleted.Nodup :=
  (balanced.each.nodup_iff.mpr List.nodup_range).of_append_right

/-- When nothing is owned any more, everything was deleted once. -/
theorem count_deleted (balanced : ledger.Balanced []) {id : Nat} (created : id < ledger.created) :
    ledger.deleted.count id = 1 := by
  have gone : id ∈ ledger.deleted := balanced.each.mem_iff.mpr (List.mem_range.mpr created)
  exact List.count_eq_one_of_mem balanced.deleted_nodup gone

theorem deletedOnce (balanced : ledger.Balanced []) : ledger.DeletedOnce where
  each := List.nodup_iff_count_le_one.mp balanced.deleted_nodup
  members := fun pair inside _ => balanced.count_deleted (balanced.known pair inside)

end Balanced

namespace TwiceDeleted

variable {ledger : Ledger}

theorem delete (twice : ledger.TwiceDeleted) (reached : List Nat) : (ledger.delete reached).TwiceDeleted :=
  fun distinct => twice distinct.of_append_left

/-- Deleting what was deleted before. -/
theorem of_mem {reached : List Nat} {id : Nat} (before : id ∈ ledger.deleted) (again : id ∈ reached) :
    (ledger.delete reached).TwiceDeleted :=
  fun distinct => (List.disjoint_of_nodup_append distinct) before again

theorem not_deletedOnce (twice : ledger.TwiceDeleted) : ¬ ledger.DeletedOnce :=
  fun once => twice (List.nodup_iff_count_le_one.mpr once.each)

end TwiceDeleted

end Ledger

end Library
end RtmpClient
