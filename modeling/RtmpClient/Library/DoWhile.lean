import RtmpClient.Library.Outcome

namespace RtmpClient
namespace Library

universe u

/-!
# Loops

A round of a loop leaves it or goes on to the next round, each with the state
behind it; a round may also go wrong.  A loop need not end.
-/

/-- What a round of a loop does. -/
inductive Round (σ : Type u) where
  | leave (after : σ)
  | again (after : σ)
  deriving DecidableEq, Repr

namespace Round

variable {σ : Type u}

def after : Round σ -> σ
  | leave after => after
  | again after => after

/-- The condition at the foot of the loop. -/
def test (condition : Bool) (after : σ) : Round σ := if condition then again after else leave after

end Round

variable {σ : Type u} (body : σ -> Outcome (Round σ))

/-- The second state is one that a round starts from. -/
inductive Reaches : σ -> σ -> Prop where
  | here (place : σ) : Reaches place place
  | later {place next last : σ} (round : body place = .ok (.again next)) (rest : Reaches next last) :
      Reaches place last

/-- The loop ends, in the second state. -/
inductive Leaves : σ -> σ -> Prop where
  | now {place last : σ} (round : body place = .ok (.leave last)) : Leaves place last
  | later {place next last : σ} (round : body place = .ok (.again next)) (rest : Leaves next last) :
      Leaves place last

/-- The loop ends, no round goes wrong, the counter is never negative, and each
round that does not leave the loop moves it forward. -/
structure MovesForward (counter : σ -> Int) (start : σ) : Prop where
  ends : Exists fun last => Leaves body start last
  rounds : forall place, Reaches body start place -> Exists fun round => body place = .ok round ∧
    0 ≤ counter place ∧ 0 ≤ counter round.after ∧
      forall next, round = .again next -> counter place + 1 ≤ counter next

variable {body}

/-- There is one way through a loop. -/
theorem Leaves.unique {place first second : σ} (one : Leaves body place first) (other : Leaves body place second) :
    first = second := by
  induction one with
  | now round =>
      cases other with
      | now round' =>
          rw [round] at round'
          cases round'
          rfl
      | later round' rest =>
          rw [round] at round'
          cases round'
  | later round rest inductionHypothesis =>
      cases other with
      | now round' =>
          rw [round] at round'
          cases round'
      | later round' rest' =>
          rw [round] at round'
          cases round'
          exact inductionHypothesis rest'

variable {counter : σ -> Int} {start next last : σ}

theorem MovesForward.first (forward : MovesForward body counter start) : Exists fun round =>
    body start = .ok round ∧ 0 ≤ counter round.after ∧ forall next, round = .again next ->
      counter start + 1 ≤ counter next := by
  rcases forward.rounds start (.here start) with ⟨round, found, -, after, moves⟩
  exact ⟨round, found, after, moves⟩

theorem MovesForward.tail (forward : MovesForward body counter start) (round : body start = .ok (.again next)) :
    MovesForward body counter next := by
  constructor
  · rcases forward.ends with ⟨last, leaves⟩
    cases leaves with
    | now left =>
        rw [round] at left
        cases left
    | later went rest =>
        rw [round] at went
        cases went
        exact ⟨last, rest⟩
  · intro place reached
    exact forward.rounds place (.later round reached)

theorem MovesForward.of_leave (begun : 0 ≤ counter start) (after : 0 ≤ counter last)
    (round : body start = .ok (.leave last)) : MovesForward body counter start := by
  refine ⟨⟨last, .now round⟩, ?_⟩
  intro place reached
  cases reached with
  | here => exact ⟨.leave last, round, begun, after, fun next equal => by cases equal⟩
  | later went rest =>
      rw [round] at went
      cases went

theorem MovesForward.of_again (begun : 0 ≤ counter start) (moves : counter start + 1 ≤ counter next)
    (round : body start = .ok (.again next)) (forward : MovesForward body counter next) :
    MovesForward body counter start := by
  rcases forward.ends with ⟨last, leaves⟩
  refine ⟨⟨last, .later round leaves⟩, ?_⟩
  intro place reached
  cases reached with
  | here =>
      refine ⟨.again next, round, begun, ?_, ?_⟩
      · show 0 ≤ counter next
        omega
      · intro other equal
        cases equal
        exact moves
  | later went rest =>
      rw [round] at went
      cases went
      exact forward.rounds place rest

end Library
end RtmpClient
