import Mathlib.Tactic.Common

namespace RtmpClient
namespace Library

universe u v w

/-!
# Consuming a byte stream from a growing buffer

A consumer is called on all the cells buffered so far.  It either takes some of
them off the front and reports an event, or it changes its state, takes nothing
and waits to be called again on a longer buffer.  Three laws make the outcome
independent of how the stream was cut: an attempt does not look past what it
takes, an attempt that waited can be repeated as if it had never been made, and
an attempt that goes wrong goes wrong on every longer buffer too.
-/

/-- What one call does. -/
inductive Attempt (σ : Type u) (ε : Type v) where
  | wait (after : σ)
  | take (count : Nat) (after : σ) (event : ε)

/-- A consumer with the laws of the module; `none` is a fault. -/
structure Incremental (σ : Type u) (β : Type w) (ε : Type v) where
  attempt : σ -> List β -> Option (Attempt σ ε)
  take_bounds : forall {state data count after event},
    attempt state data = some (.take count after event) -> 0 < count ∧ count ≤ data.length
  take_append : forall {state data count after event}, attempt state data = some (.take count after event) ->
    forall more, attempt state (data ++ more) = some (.take count after event)
  wait_retry : forall {state data after}, attempt state data = some (.wait after) ->
    forall more, attempt after (data ++ more) = attempt state (data ++ more)
  fault_append : forall {state data}, data ≠ [] -> attempt state data = none ->
    forall more, attempt state (data ++ more) = none

/-- The consumer's state, the cells not yet taken, and the events so far. -/
structure Run (σ : Type u) (β : Type w) (ε : Type v) where
  state : σ
  leftover : List β
  events : List ε

namespace Run

variable {σ : Type u} {β : Type w} {ε : Type v}

/-- A run whose events come after others. -/
def after (events : List ε) (run : Run σ β ε) : Run σ β ε :=
  { run with events := events ++ run.events }

theorem after_after (first second : List ε) (run : Run σ β ε) :
    (run.after second).after first = run.after (first ++ second) := by
  rw [after, after, after, List.append_assoc]

end Run

namespace Incremental

variable {σ : Type u} {β : Type w} {ε : Type v} (consumer : Incremental σ β ε)

/-- Call until a call waits or nothing is left.  Each successful call takes a
cell at least, so a call for each cell is enough. -/
def drainLoop : (fuel : Nat) -> σ -> List β -> Option (Run σ β ε)
  | 0, state, data => some { state, leftover := data, events := [] }
  | fuel + 1, state, data =>
      if data.length = 0 then some { state, leftover := [], events := [] }
      else
        match consumer.attempt state data with
        | none => none
        | some (.wait after) => some { state := after, leftover := data, events := [] }
        | some (.take count after event) =>
            (drainLoop fuel after (data.drop count)).map (Run.after [event])

/-- Call on all of `data` as often as it takes. -/
def drain (state : σ) (data : List β) : Option (Run σ β ε) :=
  consumer.drainLoop data.length state data

/-- Add cells to the buffer and drain it. -/
def feed (run : Run σ β ε) (piece : List β) : Option (Run σ β ε) :=
  (consumer.drain run.state (run.leftover ++ piece)).map (Run.after run.events)

/-- Feed one piece after the other. -/
def feedAll (run : Run σ β ε) : List (List β) -> Option (Run σ β ε)
  | [] => some run
  | piece :: pieces => (consumer.feed run piece).bind (fun next => feedAll next pieces)

variable {consumer}

private theorem drainLoop_congr {small large : Nat} {state : σ} {data : List β}
    (enoughSmall : data.length ≤ small) (enoughLarge : data.length ≤ large) :
    consumer.drainLoop small state data = consumer.drainLoop large state data := by
  induction small generalizing large state data with
  | zero =>
      have empty : data = [] := List.eq_nil_of_length_eq_zero (Nat.le_zero.mp enoughSmall)
      cases large with
      | zero => rfl
      | succ large => rw [empty, drainLoop, drainLoop, List.length_nil, if_pos rfl]
  | succ small inductionHypothesis =>
      cases large with
      | zero =>
          have empty : data = [] := List.eq_nil_of_length_eq_zero (Nat.le_zero.mp enoughLarge)
          rw [empty, drainLoop, drainLoop, List.length_nil, if_pos rfl]
      | succ large =>
          rw [drainLoop, drainLoop]
          by_cases empty : data.length = 0
          · rw [if_pos empty, if_pos empty]
          · rw [if_neg empty, if_neg empty]
            cases tried : consumer.attempt state data with
            | none => rfl
            | some attempt =>
                cases attempt with
                | wait after => rfl
                | take count after event =>
                    have bounds := consumer.take_bounds tried
                    have shorterSmall : (data.drop count).length ≤ small := by
                      rw [List.length_drop]
                      omega
                    have shorterLarge : (data.drop count).length ≤ large := by
                      rw [List.length_drop]
                      omega
                    simp only [inductionHypothesis shorterSmall shorterLarge]

/-- More calls than cells change nothing. -/
theorem drainLoop_fuel {fuel : Nat} {state : σ} {data : List β} (enough : data.length ≤ fuel) :
    consumer.drainLoop fuel state data = consumer.drain state data :=
  drainLoop_congr enough (Nat.le_refl _)

/-! One unfolding of `drain` for each thing a call can do. -/

theorem drain_nil (state : σ) : consumer.drain state [] = some { state, leftover := [], events := [] } := rfl

theorem drain_wait {state after : σ} {data : List β} (nonempty : data ≠ [])
    (tried : consumer.attempt state data = some (.wait after)) :
    consumer.drain state data = some { state := after, leftover := data, events := [] } := by
  cases data with
  | nil => exact absurd rfl nonempty
  | cons head tail =>
      rw [drain, List.length_cons, drainLoop, List.length_cons, if_neg (Nat.succ_ne_zero _), tried]

theorem drain_fault {state : σ} {data : List β} (nonempty : data ≠ [])
    (tried : consumer.attempt state data = none) : consumer.drain state data = none := by
  cases data with
  | nil => exact absurd rfl nonempty
  | cons head tail =>
      rw [drain, List.length_cons, drainLoop, List.length_cons, if_neg (Nat.succ_ne_zero _), tried]

theorem drain_take {state after : σ} {data : List β} {count : Nat} {event : ε} (nonempty : data ≠ [])
    (tried : consumer.attempt state data = some (.take count after event)) :
    consumer.drain state data = (consumer.drain after (data.drop count)).map (Run.after [event]) := by
  have bounds := consumer.take_bounds tried
  cases data with
  | nil => exact absurd rfl nonempty
  | cons head tail =>
      have shorter : ((head :: tail).drop count).length ≤ tail.length := by
        rw [List.length_drop, List.length_cons]
        omega
      rw [drain, List.length_cons, drainLoop, List.length_cons, if_neg (Nat.succ_ne_zero _), tried]
      simp only [drainLoop_fuel shorter]

/-- Only the first attempt looks at the state. -/
theorem drain_congr {first second : σ} {data : List β} (nonempty : data ≠ [])
    (same : consumer.attempt first data = consumer.attempt second data) :
    consumer.drain first data = consumer.drain second data := by
  cases tried : consumer.attempt second data with
  | none => rw [drain_fault nonempty tried, drain_fault nonempty (same.trans tried)]
  | some attempt =>
      cases attempt with
      | wait after => rw [drain_wait nonempty tried, drain_wait nonempty (same.trans tried)]
      | take count after event => rw [drain_take nonempty tried, drain_take nonempty (same.trans tried)]

theorem feed_after (events : List ε) (run : Run σ β ε) (piece : List β) :
    consumer.feed (run.after events) piece = (consumer.feed run piece).map (Run.after events) := by
  rw [feed, feed, Option.map_map]
  congr 1
  funext rest
  exact (Run.after_after events run.events rest).symm

theorem feedAll_after (events : List ε) (run : Run σ β ε) (pieces : List (List β)) :
    consumer.feedAll (run.after events) pieces = (consumer.feedAll run pieces).map (Run.after events) := by
  induction pieces generalizing run with
  | nil => rfl
  | cons piece pieces inductionHypothesis =>
      rw [feedAll, feedAll, feed_after]
      cases consumer.feed run piece with
      | none => rfl
      | some next => exact inductionHypothesis next

/-- Draining a concatenation is draining its front and feeding the rest. -/
theorem drain_append (state : σ) (data piece : List β) :
    consumer.drain state (data ++ piece) =
      (consumer.drain state data).bind (fun run => consumer.feed run piece) := by
  induction length : data.length using Nat.strongRecOn generalizing state data with
  | ind size inductionHypothesis =>
      by_cases empty : data = []
      · subst empty
        rw [drain_nil, List.nil_append, Option.bind_some, feed, List.nil_append]
        exact (Option.map_id_apply).symm
      · have longer : data ++ piece ≠ [] := List.append_ne_nil_of_left_ne_nil empty piece
        cases tried : consumer.attempt state data with
        | none =>
            rw [drain_fault empty tried, drain_fault longer (consumer.fault_append empty tried piece)]
            rfl
        | some attempt =>
            cases attempt with
            | wait after =>
                rw [drain_wait empty tried, Option.bind_some, feed,
                  drain_congr longer (consumer.wait_retry tried piece)]
                exact (Option.map_id_apply).symm
            | take count after event =>
                have bounds := consumer.take_bounds tried
                have shorter : (data.drop count).length < size := by
                  rw [List.length_drop, ← length]
                  omega
                have rest := inductionHypothesis _ shorter after (data.drop count) rfl
                rw [drain_take longer (consumer.take_append tried piece),
                  List.drop_append_of_le_length bounds.2, rest, drain_take empty tried]
                cases consumer.drain after (data.drop count) with
                | none => rfl
                | some run => exact (feed_after [event] run piece).symm

/-- Two pieces fed one after the other are one piece. -/
theorem feed_append (run : Run σ β ε) (first second : List β) :
    consumer.feed run (first ++ second) =
      (consumer.feed run first).bind (fun next => consumer.feed next second) := by
  rw [feed, feed, ← List.append_assoc, drain_append]
  cases consumer.drain run.state (run.leftover ++ first) with
  | none => rfl
  | some middle => exact (feed_after run.events middle second).symm

/-- Feeding pieces, at least one, is feeding them joined. -/
theorem feedAll_cons (run : Run σ β ε) (piece : List β) (pieces : List (List β)) :
    consumer.feedAll run (piece :: pieces) = consumer.feed run (piece :: pieces).flatten := by
  induction pieces generalizing run piece with
  | nil =>
      rw [List.flatten_cons, List.flatten_nil, List.append_nil, feedAll]
      exact Option.bind_fun_some _
  | cons next pieces inductionHypothesis =>
      rw [List.flatten_cons, feed_append, feedAll]
      congr 1
      funext after
      exact inductionHypothesis after next

/-- However a stream is cut into non-empty pieces, the run is the same. -/
theorem feedAll_fragmentation {run : Run σ β ε} {first second : List (List β)}
    (firstNonempty : forall piece, piece ∈ first -> piece ≠ [])
    (secondNonempty : forall piece, piece ∈ second -> piece ≠ [])
    (same : first.flatten = second.flatten) :
    consumer.feedAll run first = consumer.feedAll run second := by
  cases first with
  | nil =>
      cases second with
      | nil => rfl
      | cons piece pieces =>
          rw [List.flatten_nil, List.flatten_cons] at same
          have empty := (List.append_eq_nil_iff.mp same.symm).1
          exact absurd empty (secondNonempty piece (List.mem_cons_self ..))
  | cons piece pieces =>
      cases second with
      | nil =>
          rw [List.flatten_nil, List.flatten_cons] at same
          have empty := (List.append_eq_nil_iff.mp same).1
          exact absurd empty (firstNonempty piece (List.mem_cons_self ..))
      | cons other others =>
          rw [feedAll_cons, feedAll_cons, same]

end Incremental

end Library
end RtmpClient
