import Mathlib.Tactic.Common

namespace RtmpClient
namespace Library

universe u

/-!
# A bounded queue

Cells go in at one end and come out at the other, in the same order, as long as
there is room.  A write that does not fit changes nothing.  What a queue shows
without being changed are the number of its cells and whether it is full or
empty.
-/

/-- The cells, the oldest first, and room for as many as `capacity`. -/
structure BoundedQueue (α : Type u) where
  capacity : Nat
  stored : List α
  fits : stored.length ≤ capacity

/-- What is asked of a queue. -/
inductive QueueCall (α : Type u) where
  | write (cells : List α)
  | read (size : Nat)
  | grow (more : Nat)
  | clear

/-- What a queue answers. -/
inductive QueueAnswer (α : Type u) where
  | accepted (count : Nat)
  | noRoom
  | cells (cells : List α)
  | nothing
  | done

namespace BoundedQueue

variable {α : Type u}

def empty (capacity : Nat) : BoundedQueue α where
  capacity := capacity
  stored := []
  fits := Nat.zero_le capacity

def IsFull (queue : BoundedQueue α) : Prop := queue.stored.length = queue.capacity

def IsEmpty (queue : BoundedQueue α) : Prop := queue.stored = []

/-- The answer and the queue behind it. -/
def step (queue : BoundedQueue α) : QueueCall α -> QueueAnswer α × BoundedQueue α
  | .write cells =>
      if room : queue.stored.length + cells.length ≤ queue.capacity then
        (.accepted cells.length,
          { capacity := queue.capacity
            stored := queue.stored ++ cells
            fits := by rw [List.length_append]; exact room })
      else (.noRoom, queue)
  | .read size =>
      if queue.stored.length = 0 then (.nothing, queue)
      else (.cells (queue.stored.take size),
        { capacity := queue.capacity
          stored := queue.stored.drop size
          fits := by rw [List.length_drop]; exact Nat.le_trans (Nat.sub_le _ _) queue.fits })
  | .grow more => (.done,
      { capacity := queue.capacity + more
        stored := queue.stored
        fits := Nat.le_trans queue.fits (Nat.le_add_right _ _) })
  | .clear => (.done, empty queue.capacity)

variable {queue : BoundedQueue α}

theorem step_write {cells : List α} (room : queue.stored.length + cells.length ≤ queue.capacity) :
    (queue.step (.write cells)).1 = .accepted cells.length ∧ (queue.step (.write cells)).2.capacity = queue.capacity ∧
      (queue.step (.write cells)).2.stored = queue.stored ++ cells := by
  rw [step, dif_pos room]
  exact ⟨rfl, rfl, rfl⟩

theorem step_write_refused {cells : List α} (full : queue.capacity < queue.stored.length + cells.length) :
    queue.step (.write cells) = (.noRoom, queue) := by
  rw [step, dif_neg (Nat.not_le.mpr full)]

theorem step_read {size : Nat} (some : 0 < queue.stored.length) :
    (queue.step (.read size)).1 = .cells (queue.stored.take size) ∧
      (queue.step (.read size)).2.capacity = queue.capacity ∧
      (queue.step (.read size)).2.stored = queue.stored.drop size := by
  rw [step, if_neg (Nat.ne_of_gt some)]
  exact ⟨rfl, rfl, rfl⟩

end BoundedQueue

/-! ## What a run asks for -/

/-- In every state of the run the condition holds on the queue, and every call
meets its condition there. -/
def BoundedQueue.Meets {α : Type u} (state : BoundedQueue α -> Prop) (call : BoundedQueue α -> QueueCall α -> Prop) :
    (queue : BoundedQueue α) -> (calls : List (QueueCall α)) -> Prop
  | queue, [] => state queue
  | queue, next :: calls => state queue ∧ call queue next ∧ Meets state call (queue.step next).2 calls

section Simulation

variable {α : Type u} {β σ : Type} (answer : σ -> QueueCall α -> Option (β × σ)) (code : QueueAnswer α -> β)
  (shows : σ -> BoundedQueue α -> Prop)

/-- The implementation answers each call with the code of what the queue answers,
and in every state it shows what the queue does. -/
def Implements : (start : σ) -> (queue : BoundedQueue α) -> (calls : List (QueueCall α)) -> Prop
  | start, queue, [] => shows start queue
  | start, queue, call :: calls => shows start queue ∧
      Exists fun next => answer start call = some (code (queue.step call).1, next) ∧
        Implements next (queue.step call).2 calls

/-- The rule for runs: an implementation that represents the queue, shows it
exactly in the states that meet a condition, and then answers exactly the calls
that meet theirs as the queue does. -/
theorem implements_iff {represents : σ -> BoundedQueue α -> Prop} {state : BoundedQueue α -> Prop}
    {call : BoundedQueue α -> QueueCall α -> Prop}
    (shown : forall start queue, represents start queue -> (shows start queue ↔ state queue))
    (answered : forall start queue next, represents start queue -> state queue -> call queue next ->
      Exists fun after => answer start next = some (code (queue.step next).1, after) ∧ represents after (queue.step next).2)
    (only : forall start queue next after, represents start queue -> state queue ->
      answer start next = some (code (queue.step next).1, after) -> call queue next)
    {start : σ} {queue : BoundedQueue α} (represented : represents start queue) (calls : List (QueueCall α)) :
    Implements answer code shows start queue calls ↔ queue.Meets state call calls := by
  induction calls generalizing start queue with
  | nil => exact shown start queue represented
  | cons next calls inductionHypothesis =>
      rw [Implements, BoundedQueue.Meets, shown start queue represented]
      refine and_congr_right fun good => ?_
      constructor
      · rintro ⟨after, found, others⟩
        have meets := only start queue next after represented good found
        rcases answered start queue next represented good meets with ⟨after', found', represented'⟩
        have same : after = after' := by
          rw [found, Option.some.injEq, Prod.mk.injEq] at found'
          exact found'.2
        rw [same] at others
        exact ⟨meets, (inductionHypothesis represented').mp others⟩
      · rintro ⟨meets, others⟩
        rcases answered start queue next represented good meets with ⟨after, found, represented'⟩
        exact ⟨after, found, (inductionHypothesis represented').mpr others⟩

end Simulation

end Library
end RtmpClient
