import Mathlib.Data.List.Induction
import Mathlib.Tactic.Common

namespace RtmpClient
namespace Library

universe u v

/-!
# Runs of a machine that may refuse a step

A machine takes inputs one after the other; `none` refuses one.  A property of
a run is one of every state the run has gone through, so that nothing it
says can be undone, or hidden, by a later step.  A log that the machine only
appends to is judged entry by entry, each on what stands in front of it.
-/

variable {σ : Type u} {ι : Type v} (step : σ -> ι -> Option σ)

/-- The inputs one after the other. -/
def runAll (start : σ) : List ι -> Option σ
  | [] => some start
  | input :: inputs => (step start input).bind fun next => runAll next inputs

/-- A property of every state of a run, the first and the last included. -/
def Always (property : σ -> Prop) (start : σ) (inputs : List ι) : Prop :=
  forall done later, inputs = done ++ later ->
    forall state, runAll step start done = some state -> property state

/-- Every step of the run is taken in a state where it meets the condition. -/
def Guarded (guard : σ -> ι -> Prop) (start : σ) (inputs : List ι) : Prop :=
  forall done input later, inputs = done ++ input :: later ->
    forall state, runAll step start done = some state -> guard state input

variable {step}

theorem runAll_append (start : σ) (first second : List ι) :
    runAll step start (first ++ second) =
      (runAll step start first).bind fun middle => runAll step middle second := by
  induction first generalizing start with
  | nil => rfl
  | cons input first inductionHypothesis =>
      rw [List.cons_append, runAll, runAll, Option.bind_assoc]
      congr 1
      funext next
      exact inductionHypothesis next

theorem runAll_concat {start middle : σ} {first : List ι} (ran : runAll step start first = some middle)
    (input : ι) : runAll step start (first ++ [input]) = step middle input := by
  rw [runAll_append, ran, Option.bind_some, runAll]
  exact Option.bind_fun_some _

variable {property invariant : σ -> Prop} {guard : σ -> ι -> Prop}

/-- What every step keeps, a run keeps. -/
theorem runAll_invariant
    (preserved : forall state input after, invariant state -> step state input = some after ->
      invariant after)
    {start after : σ} {inputs : List ι} (initially : invariant start)
    (ran : runAll step start inputs = some after) : invariant after := by
  induction inputs generalizing start with
  | nil =>
      rw [runAll, Option.some.injEq] at ran
      rw [← ran]
      exact initially
  | cons input inputs inductionHypothesis =>
      rcases Option.bind_eq_some_iff.mp ran with ⟨next, taken, rest⟩
      exact inductionHypothesis (preserved start input next initially taken) rest

theorem Guarded.nil (start : σ) : Guarded step guard start [] := by
  intro done input later split
  cases List.append_ne_nil_of_right_ne_nil done (List.cons_ne_nil input later) split.symm

/-- A run is guarded where its first step and what follows it are. -/
theorem Guarded.cons {start : σ} {input : ι} {inputs : List ι} (here : guard start input)
    (rest : forall next, step start input = some next -> Guarded step guard next inputs) :
    Guarded step guard start (input :: inputs) := by
  intro done second later split state ran
  cases done with
  | nil =>
      rw [runAll, Option.some.injEq] at ran
      rw [List.nil_append, List.cons.injEq] at split
      rw [← ran, ← split.1]
      exact here
  | cons first done =>
      rw [List.cons_append, List.cons.injEq] at split
      rw [← split.1] at ran
      rcases Option.bind_eq_some_iff.mp ran with ⟨next, taken, reached⟩
      exact rest next taken done second later split.2 state reached

theorem Guarded.head {start : σ} {input : ι} {inputs : List ι}
    (guarded : Guarded step guard start (input :: inputs)) : guard start input :=
  guarded [] input inputs rfl start rfl

theorem Guarded.tail {start next : σ} {input : ι} {inputs : List ι}
    (guarded : Guarded step guard start (input :: inputs)) (taken : step start input = some next) :
    Guarded step guard next inputs := by
  intro done second later split state ran
  apply guarded (input :: done) second later (congrArg (List.cons input) split) state
  rw [runAll, taken, Option.bind_some]
  exact ran

theorem Guarded.of_append {start : σ} {first second : List ι}
    (guarded : Guarded step guard start (first ++ second)) : Guarded step guard start first := by
  intro done input later split state ran
  apply guarded done input (later ++ second) _ state ran
  rw [split, List.append_assoc, List.cons_append]

theorem Guarded.cons_iff {start : σ} {input : ι} {inputs : List ι} :
    Guarded step guard start (input :: inputs) <->
      guard start input ∧ forall next, step start input = some next -> Guarded step guard next inputs := by
  constructor
  · exact fun guarded => ⟨guarded.head, fun _ taken => guarded.tail taken⟩
  · exact fun parts => .cons parts.1 parts.2

/-- A run is judged by taking it. -/
instance Guarded.decide [decidable : forall state input, Decidable (guard state input)] :
    (start : σ) -> (inputs : List ι) -> Decidable (Guarded step guard start inputs)
  | start, [] => isTrue (Guarded.nil start)
  | start, input :: inputs =>
      let _ : Decidable (forall next, step start input = some next -> Guarded step guard next inputs) :=
        match step start input with
        | none => isTrue nofun
        | some next =>
            match Guarded.decide next inputs with
            | isTrue guarded => isTrue fun _ same => Option.some.inj same ▸ guarded
            | isFalse unguarded => isFalse fun all => unguarded (all next rfl)
      decidable_of_iff _ Guarded.cons_iff.symm

/-- What every guarded step keeps holds throughout a guarded run. -/
theorem Guarded.always
    (preserved : forall state input after, invariant state -> guard state input ->
      step state input = some after -> invariant after)
    (implies : forall state, invariant state -> property state)
    {start : σ} {inputs : List ι} (initially : invariant start) (guarded : Guarded step guard start inputs) :
    Always step property start inputs := by
  intro done later split state ran
  apply implies
  rw [split] at guarded
  replace guarded := guarded.of_append
  clear split
  induction done generalizing start with
  | nil =>
      rw [runAll, Option.some.injEq] at ran
      rw [← ran]
      exact initially
  | cons input done inductionHypothesis =>
      rcases Option.bind_eq_some_iff.mp ran with ⟨next, taken, rest⟩
      exact inductionHypothesis (preserved start input next initially guarded.head taken) rest (guarded.tail taken)

section Simulation

variable {τ : Type u} {other : τ -> ι -> Option τ} {related : τ -> σ -> Prop}

/-- Where another machine follows every guarded step, it follows every guarded
run. -/
theorem Guarded.simulated
    (followed : forall place state input after, related place state -> guard state input ->
      step state input = some after -> Exists fun next => other place input = some next ∧ related next after)
    {place : τ} {start after : σ} {inputs : List ι} (initially : related place start)
    (guarded : Guarded step guard start inputs) (ran : runAll step start inputs = some after) :
    Exists fun last => runAll other place inputs = some last ∧ related last after := by
  induction inputs generalizing place start with
  | nil =>
      rw [runAll, Option.some.injEq] at ran
      rw [← ran]
      exact ⟨place, rfl, initially⟩
  | cons input inputs inductionHypothesis =>
      rcases Option.bind_eq_some_iff.mp ran with ⟨middle, taken, rest⟩
      rcases followed place start input middle initially guarded.head taken with ⟨next, followed, reached⟩
      rcases inductionHypothesis reached (guarded.tail taken) rest with ⟨last, went, ends⟩
      refine ⟨last, ?_, ends⟩
      rw [runAll, followed, Option.bind_some]
      exact went

end Simulation

/-! ## Logs -/

section Logs

variable {α : Type u} {cause : List α -> α -> Prop}

/-- Every entry of the log has its cause in front of it. -/
def Caused (cause : List α -> α -> Prop) (log : List α) : Prop :=
  forall before entry after, log = before ++ entry :: after -> cause before entry

/-- Entries that have their cause in the log may follow it, if a cause remains
one in a longer log. -/
theorem Caused.append (lasting : forall before more entry, cause before entry -> cause (before ++ more) entry)
    {log more : List α} (caused : Caused cause log) (causes : forall entry, entry ∈ more -> cause log entry) :
    Caused cause (log ++ more) := by
  intro before entry after split
  rcases List.append_eq_append_iff.mp split with ⟨early, here, rest⟩ | ⟨late, here, rest⟩
  · -- the entry stands among the new ones
    rw [here]
    apply lasting
    apply causes
    rw [rest]
    exact List.mem_append_right _ List.mem_cons_self
  · cases late with
    | nil =>
        rw [List.append_nil] at here
        rw [← here]
        apply causes
        rw [List.nil_append] at rest
        rw [← rest]
        exact List.mem_cons_self
    | cons first late =>
        rw [List.cons_append, List.cons.injEq] at rest
        apply caused before entry late
        rw [here, rest.1]

end Logs

end Library
end RtmpClient
