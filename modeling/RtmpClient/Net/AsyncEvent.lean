import Mathlib.Data.List.Basic
import Mathlib.Logic.Function.Basic
import RtmpClient.Library.Runs

namespace RtmpClient
namespace Net

open Library

/-!
# Callbacks for the loop thread (`AsyncEvent.cc`)

Any thread posts callbacks, the loop thread calls them.  A locked section, a
call of `uv_async_send` and a callback are one step each.  `uv_async_send` only
marks the handle: several of them before the loop looks at it are one wake-up.
-/

/-- Where the loop thread is: in libuv, in front of the locked section of
`process_callback`, or behind it with the callbacks it has taken. -/
inductive LoopThread (α : Type) where
  | polling
  | woken
  | calling (callbacks : List α)
  deriving DecidableEq, Repr

/-- The steps in front of the loop thread where it is. -/
def LoopThread.weight {α : Type} : LoopThread α -> Nat
  | .polling => 0
  | .woken => 2
  | .calling callbacks => callbacks.length + 1

/-- `AsyncCore` and the threads around it.  `sending` tells the threads that have
pushed a callback and have not called `uv_async_send` yet; `pending` is the mark
on the handle.  `posted` and `called` record the callbacks in the order of the
locked sections and of the calls. -/
structure AsyncCore (τ α : Type) where
  cbQueue : List α
  sending : τ -> Bool
  pending : Bool
  loop : LoopThread α
  posted : List α
  called : List α

/-- One step of a thread.  A callback that posts is the loop thread posting. -/
inductive AsyncStep (τ α : Type) where
  | push (thread : τ) (callback : α)
  | send (thread : τ)
  | wake
  | swap
  | call
  | finish
  deriving DecidableEq, Repr

namespace AsyncStep

variable {τ α : Type}

/-- The step is one of `process_callback` or of libuv. -/
def ofLoop : AsyncStep τ α -> Bool
  | push _ _ => false
  | send _ => false
  | _ => true

/-- The callback that the step posts. -/
def posts : AsyncStep τ α -> Option α
  | push _ callback => some callback
  | _ => none

end AsyncStep

namespace AsyncCore

variable {τ α : Type} [DecidableEq τ]

def new : AsyncCore τ α where
  cbQueue := []
  sending := fun _ => false
  pending := false
  loop := .polling
  posted := []
  called := []

/-- `postAsyncEvent` is `push` and `send`; `wake` is the call of
`async_callback`, and the rest is `process_callback`. -/
def step (core : AsyncCore τ α) : AsyncStep τ α -> Option (AsyncCore τ α)
  | .push thread callback =>
      if core.sending thread then none
      else some { core with
        cbQueue := core.cbQueue ++ [callback]
        sending := Function.update core.sending thread true
        posted := core.posted ++ [callback] }
  | .send thread =>
      if core.sending thread then
        some { core with sending := Function.update core.sending thread false, pending := true }
      else none
  | .wake =>
      match core.loop with
      | .polling => if core.pending then some { core with pending := false, loop := .woken } else none
      | _ => none
  | .swap =>
      match core.loop with
      | .woken => some { core with cbQueue := [], loop := .calling core.cbQueue }
      | _ => none
  | .call =>
      match core.loop with
      | .calling (callback :: callbacks) =>
          some { core with loop := .calling callbacks, called := core.called ++ [callback] }
      | _ => none
  | .finish =>
      match core.loop with
      | .calling [] => some { core with loop := .polling }
      | _ => none

/-- The callbacks that `process_callback` has taken and not called yet. -/
def inHand (core : AsyncCore τ α) : List α :=
  match core.loop with
  | .calling callbacks => callbacks
  | _ => []

/-! ## What holds in every run -/

/-- The loop thread will look at the queue again: it is about to, the handle is
marked, or a thread is about to mark it. -/
def WillLook (core : AsyncCore τ α) : Prop :=
  core.loop = .woken ∨ core.pending = true ∨ Exists fun thread => core.sending thread = true

/-- No callback is lost, doubled or overtaken, and none waits without a wake-up
to come. -/
structure Sound (core : AsyncCore τ α) : Prop where
  accounted : core.posted = core.called ++ (core.inHand ++ core.cbQueue)
  willLook : core.cbQueue ≠ [] -> core.WillLook

namespace Sound

variable {core next : AsyncCore τ α}

omit [DecidableEq τ] in
theorem new : Sound (AsyncCore.new : AsyncCore τ α) where
  accounted := rfl
  willLook := fun some => absurd rfl some

theorem push {thread : τ} {callback : α} (sound : core.Sound) (taken : core.step (.push thread callback) = some next) :
    next.Sound := by
  rw [AsyncCore.step] at taken
  split at taken
  · cases taken
  · rw [← Option.some.inj taken]
    refine ⟨?_, fun _ => Or.inr (Or.inr ⟨thread, Function.update_self ..⟩)⟩
    show core.posted ++ [callback] = core.called ++ (core.inHand ++ (core.cbQueue ++ [callback]))
    rw [sound.accounted, List.append_assoc, List.append_assoc]

theorem send {thread : τ} (sound : core.Sound) (taken : core.step (.send thread) = some next) : next.Sound := by
  rw [AsyncCore.step] at taken
  split at taken
  · rw [← Option.some.inj taken]
    exact ⟨sound.accounted, fun _ => Or.inr (Or.inl rfl)⟩
  · cases taken

theorem wake (sound : core.Sound) (taken : core.step .wake = some next) : next.Sound := by
  rw [AsyncCore.step] at taken
  split at taken
  next polling =>
    split at taken
    · rw [← Option.some.inj taken]
      refine ⟨?_, fun _ => Or.inl rfl⟩
      have accounted := sound.accounted
      rw [inHand, polling] at accounted
      exact accounted
    · cases taken
  · cases taken

theorem swap (sound : core.Sound) (taken : core.step .swap = some next) : next.Sound := by
  rw [AsyncCore.step] at taken
  split at taken
  next woken =>
    rw [← Option.some.inj taken]
    refine ⟨?_, fun some => absurd rfl some⟩
    have accounted := sound.accounted
    rw [inHand, woken] at accounted
    exact accounted.trans (congrArg (core.called ++ ·) (List.append_nil _).symm)
  · cases taken

theorem call (sound : core.Sound) (taken : core.step .call = some next) : next.Sound := by
  rw [AsyncCore.step] at taken
  split at taken
  next callback callbacks calling =>
    rw [← Option.some.inj taken]
    refine ⟨?_, fun some => ?_⟩
    · show core.posted = core.called ++ [callback] ++ (callbacks ++ core.cbQueue)
      rw [sound.accounted, inHand, calling, List.append_assoc]
      rfl
    · rcases sound.willLook some with woken | later
      · rw [calling] at woken
        cases woken
      · exact Or.inr later
  · cases taken

theorem finish (sound : core.Sound) (taken : core.step .finish = some next) : next.Sound := by
  rw [AsyncCore.step] at taken
  split at taken
  next calling =>
    rw [← Option.some.inj taken]
    refine ⟨?_, fun some => ?_⟩
    · have accounted := sound.accounted
      rw [inHand, calling] at accounted
      exact accounted
    · rcases sound.willLook some with woken | later
      · rw [calling] at woken
        cases woken
      · exact Or.inr later
  · cases taken

theorem step {input : AsyncStep τ α} (sound : core.Sound) (taken : core.step input = some next) : next.Sound := by
  cases input with
  | push thread callback => exact sound.push taken
  | send thread => exact sound.send taken
  | wake => exact sound.wake taken
  | swap => exact sound.swap taken
  | call => exact sound.call taken
  | finish => exact sound.finish taken

end Sound

/-! ## What the loop thread has left to do -/

/-- A bound for the steps of the loop thread when no other thread takes one. -/
def left (core : AsyncCore τ α) : Nat :=
  core.cbQueue.length + core.loop.weight + if core.pending then 3 else 0

/-- What a step of the loop thread keeps and uses up. -/
theorem step_ofLoop {core next : AsyncCore τ α} {input : AsyncStep τ α} (own : input.ofLoop = true)
    (taken : core.step input = some next) :
    next.posted = core.posted ∧ next.sending = core.sending ∧ next.left < core.left := by
  cases input with
  | push thread callback => cases own
  | send thread => cases own
  | wake =>
      rw [AsyncCore.step] at taken
      split at taken
      next polling =>
        split at taken
        next pending =>
          rw [← Option.some.inj taken]
          refine ⟨rfl, rfl, ?_⟩
          simp only [left, polling, pending, LoopThread.weight, if_true, Bool.false_eq_true, if_false]
          omega
        · cases taken
      · cases taken
  | swap =>
      rw [AsyncCore.step] at taken
      split at taken
      next woken =>
        rw [← Option.some.inj taken]
        refine ⟨rfl, rfl, ?_⟩
        simp only [left, woken, LoopThread.weight, List.length_nil]
        omega
      · cases taken
  | call =>
      rw [AsyncCore.step] at taken
      split at taken
      next callback callbacks calling =>
        rw [← Option.some.inj taken]
        refine ⟨rfl, rfl, ?_⟩
        simp only [left, calling, LoopThread.weight, List.length_cons]
        omega
      · cases taken
  | finish =>
      rw [AsyncCore.step] at taken
      split at taken
      next calling =>
        rw [← Option.some.inj taken]
        refine ⟨rfl, rfl, ?_⟩
        simp only [left, calling, LoopThread.weight, List.length_nil]
        omega
      · cases taken

/-- Where the loop thread has nothing to do, it waits for a mark. -/
theorem rests_of_stuck {core : AsyncCore τ α} (stuck : forall input, input.ofLoop = true -> core.step input = none) :
    core.loop = .polling ∧ core.pending = false := by
  have waking := stuck .wake rfl
  have swapping := stuck .swap rfl
  have calling := stuck .call rfl
  have finishing := stuck .finish rfl
  cases place : core.loop with
  | polling =>
      cases pending : core.pending with
      | false => exact ⟨rfl, rfl⟩
      | true => simp only [step, place, pending, if_true, reduceCtorEq] at waking
  | woken => simp only [step, place, reduceCtorEq] at swapping
  | calling callbacks =>
      cases callbacks with
      | nil => simp only [step, place, reduceCtorEq] at finishing
      | cons callback callbacks => simp only [step, place, reduceCtorEq] at calling

/-- The callbacks that a run posts, in the order of its steps. -/
theorem posted_of_run {start core : AsyncCore τ α} {inputs : List (AsyncStep τ α)}
    (ran : runAll step start inputs = some core) :
    core.posted = start.posted ++ inputs.filterMap AsyncStep.posts := by
  have once {before after : AsyncCore τ α} {input : AsyncStep τ α} (taken : before.step input = some after) :
      after.posted = before.posted ++ input.posts.toList := by
    by_cases own : input.ofLoop = true
    · rw [(step_ofLoop own taken).1]
      cases input with
      | push thread callback => cases own
      | send thread => cases own
      | _ => exact (List.append_nil _).symm
    · cases input with
      | push thread callback =>
          rw [step] at taken
          split at taken
          · cases taken
          · rw [← Option.some.inj taken]
            rfl
      | send thread =>
          rw [step] at taken
          split at taken
          · rw [← Option.some.inj taken]
            exact (List.append_nil _).symm
          · cases taken
      | _ => exact absurd rfl own
  induction inputs generalizing start with
  | nil =>
      rw [← Option.some.inj ran]
      exact (List.append_nil _).symm
  | cons input inputs inductionHypothesis =>
      rcases Option.bind_eq_some_iff.mp ran with ⟨middle, taken, rest⟩
      rw [inductionHypothesis rest, once taken, List.append_assoc]
      congr 1
      rw [List.filterMap_cons]
      cases input.posts <;> rfl

/-- The loop thread alone: it uses up its steps and changes nothing else. -/
theorem loop_run {core after : AsyncCore τ α} {more : List (AsyncStep τ α)}
    (own : forall input, input ∈ more -> input.ofLoop = true) (ran : runAll step core more = some after) :
    after.posted = core.posted ∧ after.sending = core.sending ∧ more.length + after.left ≤ core.left := by
  induction more generalizing core with
  | nil =>
      rw [← Option.some.inj ran]
      exact ⟨rfl, rfl, Nat.le_of_eq (Nat.zero_add _)⟩
  | cons input more inductionHypothesis =>
      rcases Option.bind_eq_some_iff.mp ran with ⟨middle, taken, rest⟩
      have first := step_ofLoop (own input List.mem_cons_self) taken
      have others := inductionHypothesis (fun later member => own later (List.mem_cons_of_mem input member)) rest
      refine ⟨others.1.trans first.1, others.2.1.trans first.2.1, ?_⟩
      have lower := first.2.2
      have behind := others.2.2
      rw [List.length_cons]
      omega

/-- In every interleaving the callbacks are called in the order in which they
were posted, none twice; and once no thread is between its push and its
`uv_async_send`, the loop thread comes to rest after a bounded number of steps,
with every callback called. -/
theorem callbacks_once {core : AsyncCore τ α} {inputs : List (AsyncStep τ α)}
    (ran : runAll step new inputs = some core) :
    List.IsPrefix core.called (inputs.filterMap AsyncStep.posts) ∧
      ((forall thread, core.sending thread = false) ->
        forall more after, (forall input, input ∈ more -> input.ofLoop = true) ->
          runAll step core more = some after ->
            more.length ≤ core.left ∧
              ((forall input, input.ofLoop = true -> after.step input = none) ->
                after.called = inputs.filterMap AsyncStep.posts)) := by
  have preserved : forall (before : AsyncCore τ α) input after, Sound before -> before.step input = some after ->
      after.Sound :=
    fun _ _ _ sound taken => sound.step taken
  have sound := runAll_invariant preserved Sound.new ran
  have posted : core.posted = inputs.filterMap AsyncStep.posts := posted_of_run ran
  refine ⟨?_, ?_⟩
  · rw [← posted, sound.accounted]
    exact List.prefix_append _ _
  · intro sent more after own ranLoop
    have alone := loop_run own ranLoop
    refine ⟨by omega, fun stuck => ?_⟩
    have soundAfter := runAll_invariant preserved sound ranLoop
    have rests := rests_of_stuck stuck
    have empty : after.cbQueue = [] := by
      by_contra waiting
      rcases soundAfter.willLook waiting with woken | pending | ⟨thread, sending⟩
      · rw [rests.1] at woken
        cases woken
      · rw [rests.2] at pending
        cases pending
      · rw [alone.2.1, sent thread] at sending
        cases sending
    rw [← posted, ← alone.1, soundAfter.accounted, inHand, rests.1, empty]
    exact (List.append_nil _).symm

/-- Two threads post before the loop looks, and a third callback comes while the
first two are called. -/
def threePosts : List (AsyncStep Nat Nat) :=
  [.push 1 10, .push 2 20, .send 2, .wake, .send 1, .swap, .call, .push 1 30, .call, .send 1, .finish]

theorem callbacks_once_three : Exists fun core => runAll step new threePosts = some core ∧
    List.IsPrefix core.called (threePosts.filterMap AsyncStep.posts) ∧
      ((forall thread, core.sending thread = false) ->
        forall more after, (forall input, input ∈ more -> input.ofLoop = true) ->
          runAll step core more = some after ->
            more.length ≤ core.left ∧
              ((forall input, input.ofLoop = true -> after.step input = none) ->
                after.called = threePosts.filterMap AsyncStep.posts)) := by
  have ran : (runAll step new threePosts).isSome = true := by decide
  rcases Option.isSome_iff_exists.mp ran with ⟨core, reached⟩
  exact ⟨core, reached, callbacks_once reached⟩

end AsyncCore

end Net
end RtmpClient
