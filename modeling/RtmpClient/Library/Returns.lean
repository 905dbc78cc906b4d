import RtmpClient.Library.Codec

namespace RtmpClient
namespace Library

/-!
# Calls that return

Rules for what a call on bounded buffers comes to, when it comes to an end
without touching memory outside of them.  A reader is described by the least
number of cells that it consumes; it never consumes more than it was given.
-/

variable {γ : Type} {α β : Type}

namespace Outcome

/-- The call returns: a value of which `post` holds, or a negative error code. -/
def Returns (call : Outcome α) (post : α -> Prop) : Prop :=
  match call with
  | .ok value => post value
  | .error code => code < 0
  | .fault => False

variable {call : Outcome α} {post post' : α -> Prop}

theorem Returns.mono (returns : call.Returns post) (weaker : forall value, post value -> post' value) :
    call.Returns post' := by
  cases call with
  | ok value => exact weaker value returns
  | error code => exact returns
  | fault => exact returns

theorem Returns.bind {next : α -> Outcome β} {after : β -> Prop} (returns : call.Returns post)
    (continues : forall value, post value -> (next value).Returns after) : (call >>= next).Returns after := by
  cases call with
  | ok value => exact continues value returns
  | error code => exact returns
  | fault => exact returns

theorem Returns.errorAs {code : Int} (negative : code < 0) (returns : call.Returns post) :
    (call.errorAs code).Returns post := by
  cases call with
  | ok value => exact returns
  | error given => exact negative
  | fault => exact returns

/-- Both sides of a check, each with what the check says. -/
theorem Returns.ite {check : Prop} [Decidable check] {otherwise : Outcome α}
    (passed : check -> call.Returns post) (failed : ¬ check -> otherwise.Returns post) :
    (if check then call else otherwise).Returns post := by
  by_cases holds : check
  · rw [if_pos holds]
    exact passed holds
  · rw [if_neg holds]
    exact failed holds

theorem Returns.of_ok {value : α} (returns : call.Returns post) (found : call = .ok value) : post value := by
  rw [found] at returns
  exact returns

/-- The value of a call that returns is the one it has. -/
theorem Returns.found (returns : call.Returns post) : call.Returns fun value => post value ∧ call = .ok value := by
  cases call with
  | ok value => exact ⟨returns, rfl⟩
  | error code => exact returns
  | fault => exact returns

theorem Returns.cases (returns : call.Returns post) :
    (Exists fun value => call = .ok value ∧ post value) ∨ Exists fun code => call = .error code ∧ code < 0 := by
  cases call with
  | ok value => exact Or.inl ⟨value, rfl, returns⟩
  | error code => exact Or.inr ⟨code, rfl, returns⟩
  | fault => exact returns.elim

theorem Returns.ne_fault (returns : call.Returns post) : call ≠ .fault := by
  rintro rfl
  exact returns

/-- Behind a call that returns only the next one can fault. -/
theorem Returns.bind_fault {next : α -> Outcome β} (returns : call.Returns post)
    (faulted : (call >>= next) = .fault) : Exists fun value => call = .ok value ∧ next value = .fault := by
  rcases bind_eq_fault faulted with first | second
  · exact absurd first returns.ne_fault
  · exact second

/-- The call returns as `post` says, if it comes to an end. -/
def Yields (call : Outcome α) (post : α -> Prop) : Prop := call ≠ .fault -> call.Returns post

theorem returns_iff : call.Returns post ↔ call ≠ .fault ∧ call.Yields post :=
  ⟨fun returns => ⟨returns.ne_fault, fun _ => returns⟩, fun both => both.2 both.1⟩

theorem Returns.yields (returns : call.Returns post) : call.Yields post := fun _ => returns

theorem Yields.mono (yields : call.Yields post) (weaker : forall value, post value -> post' value) :
    call.Yields post' := fun ended => (yields ended).mono weaker

theorem Yields.bind {next : α -> Outcome β} {after : β -> Prop} (yields : call.Yields post)
    (continues : forall value, post value -> (next value).Yields after) : (call >>= next).Yields after := by
  cases call with
  | ok value =>
      refine continues value (yields ?_)
      exact fun impossible => by cases impossible
  | error code => exact fun _ => yields fun impossible => by cases impossible
  | fault => exact fun ended => absurd rfl ended

theorem Yields.errorAs {code : Int} (negative : code < 0) (yields : call.Yields post) :
    (call.errorAs code).Yields post :=
  fun ended => (yields (mt errorAs_eq_fault_iff.mpr ended)).errorAs negative

theorem Yields.ite {check : Prop} [Decidable check] {otherwise : Outcome α}
    (passed : check -> call.Yields post) (failed : ¬ check -> otherwise.Yields post) :
    (if check then call else otherwise).Yields post := by
  by_cases holds : check
  · rw [if_pos holds]
    exact passed holds
  · rw [if_neg holds]
    exact failed holds

theorem Yields.of_ok {value : α} (yields : call.Yields post) (found : call = .ok value) : post value :=
  (yields (by rw [found]; exact fun impossible => by cases impossible)).of_ok found

theorem yields_ok {value : α} (holds : post value) : (ok value).Yields post := fun _ => holds

theorem yields_error {code : Int} (negative : code < 0) : (error code : Outcome α).Yields post := fun _ => negative

theorem read_returns {buffer : List α} {index : Nat} (inside : index < buffer.length) :
    (read buffer index).Returns fun _ => True := by
  rw [read_of_lt inside]
  trivial

theorem slice_returns {buffer : List α} {offset width : Nat} (inside : offset + width ≤ buffer.length) :
    (slice buffer offset width).Returns fun cells => cells.length = width := by
  rw [slice_of_le inside]
  show ((buffer.drop offset).take width).length = width
  rw [List.length_take, List.length_drop]
  omega

/-- The call returns a negative error code. -/
def Refused (call : Outcome α) : Prop := Exists fun code => call = .error code ∧ code < 0

theorem refused_error {code : Int} (negative : code < 0) : (error code : Outcome α).Refused :=
  ⟨code, rfl, negative⟩

/-- A check of the length that fails. -/
theorem refused_of_short {size length : Nat} (short : length < size) :
    (if length < size then .error (-1) else call).Refused := by
  rw [if_pos short]
  exact refused_error (by decide)

theorem Refused.bind {next : α -> Outcome β} (refused : call.Refused) : (call >>= next).Refused := by
  rcases refused with ⟨code, rfl, negative⟩
  exact refused_error negative

theorem Refused.errorAs {code : Int} (negative : code < 0) (refused : call.Refused) :
    (call.errorAs code).Refused := by
  rcases refused with ⟨given, rfl, -⟩
  exact refused_error negative

theorem Refused.not_ok {value : α} (refused : call.Refused) : call ≠ .ok value := by
  rcases refused with ⟨code, rfl, -⟩
  intro impossible
  cases impossible

/-- The call returns no value: it is refused, or does not come to an end. -/
def Fails (call : Outcome α) : Prop := forall value, call ≠ .ok value

theorem Refused.fails (refused : call.Refused) : call.Fails := fun _ => refused.not_ok

theorem Fails.bind {next : α -> Outcome β} (fails : call.Fails) : (call >>= next).Fails := by
  cases call with
  | ok value => exact absurd rfl (fails value)
  | error code => exact (fun _ impossible => by cases impossible)
  | fault => exact (fun _ impossible => by cases impossible)

theorem Fails.errorAs {code : Int} (fails : call.Fails) : (call.errorAs code).Fails := by
  cases call with
  | ok value => exact absurd rfl (fails value)
  | error code => exact (fun _ impossible => by cases impossible)
  | fault => exact (fun _ impossible => by cases impossible)

/-- The call returns no error code: it has a value or touches memory outside of
its buffers. -/
def Unchecked (call : Outcome α) : Prop := forall code, call ≠ .error code

theorem unchecked_ok (value : α) : (ok value).Unchecked := fun _ equal => by cases equal

theorem unchecked_fault : (fault : Outcome α).Unchecked := fun _ equal => by cases equal

theorem unchecked_read (buffer : List α) (index : Nat) : (read buffer index).Unchecked := by
  rw [read]
  split
  · exact unchecked_ok _
  · exact unchecked_fault

theorem unchecked_slice (buffer : List α) (offset width : Nat) : (slice buffer offset width).Unchecked := by
  rw [slice]
  split
  · exact unchecked_ok _
  · exact unchecked_fault

theorem Unchecked.bind {next : α -> Outcome β} (unchecked : call.Unchecked)
    (continues : forall value, (next value).Unchecked) : (call >>= next).Unchecked := by
  cases call with
  | ok value => exact continues value
  | error code => exact absurd rfl (unchecked code)
  | fault => exact unchecked_fault

theorem Unchecked.ne_fault_iff (unchecked : call.Unchecked) :
    call ≠ .fault ↔ Exists fun value => call = .ok value := by
  constructor
  · intro returned
    cases call with
    | ok value => exact ⟨value, rfl⟩
    | error code => exact absurd rfl (unchecked code)
    | fault => exact absurd rfl returned
  · rintro ⟨value, rfl⟩ faulted
    cases faulted

end Outcome

/-- The writer refuses every room that is smaller than this. -/
def RefusesBelow (write : Writer γ) (size : Nat) : Prop := forall room, room < size -> (write room).Refused

/-- A number of cells between these bounds. -/
def Between (least most : Nat) (found : Nat × α) : Prop := least ≤ found.1 ∧ found.1 ≤ most

/-- On this buffer the reader returns, and a value takes at least so many
cells off its front. -/
def Consumes (least : Nat) (read : Reader γ α) (buffer : List γ) : Prop :=
  (read buffer).Returns (Between least buffer.length)

namespace Consumes

variable {least least' : Nat} {read : Reader γ α} {buffer : List γ}

theorem errorAs {code : Int} (consumes : Consumes least read buffer) (negative : code < 0) :
    Consumes least (fun buffer => (read buffer).errorAs code) buffer :=
  Outcome.Returns.errorAs negative consumes

end Consumes

/-- What a call comes to where it accepts these counts and does not come to an end
in this case. -/
inductive Decides (accepts : Nat -> Prop) (fatal : Prop) : Outcome (Nat × α) -> Prop where
  | accepted {count : Nat} {value : α} (accepted : accepts count) (safe : ¬ fatal) :
      Decides accepts fatal (.ok (count, value))
  | refused {code : Int} (negative : code < 0) (none : forall count, ¬ accepts count) (safe : ¬ fatal) :
      Decides accepts fatal (.error code)
  | faulted (none : forall count, ¬ accepts count) (faulted : fatal) : Decides accepts fatal .fault

namespace Decides

variable {accepts accepts' : Nat -> Prop} {fatal fatal' : Prop} {call : Outcome (Nat × α)}

theorem congr (decides : Decides accepts fatal call) (same : forall count, accepts' count ↔ accepts count)
    (same' : fatal' ↔ fatal) : Decides accepts' fatal' call := by
  cases decides with
  | accepted accepted safe => exact .accepted ((same _).mpr accepted) (mt same'.mp safe)
  | refused negative none safe => exact .refused negative (fun count => mt (same count).mp (none count)) (mt same'.mp safe)
  | faulted none faulted => exact .faulted (fun count => mt (same count).mp (none count)) (same'.mpr faulted)

/-- What is made of the value decides nothing. -/
theorem map (decides : Decides accepts fatal call) (build : α -> β) :
    Decides accepts fatal (call >>= fun found => .ok (found.1, build found.2)) := by
  cases decides with
  | accepted accepted safe => exact .accepted accepted safe
  | refused negative none safe => exact .refused negative none safe
  | faulted none faulted => exact .faulted none faulted

theorem errorAs {code : Int} (decides : Decides accepts fatal call) (negative : code < 0) :
    Decides accepts fatal (call.errorAs code) := by
  cases decides with
  | accepted accepted safe => exact .accepted accepted safe
  | refused _ none safe => exact .refused negative none safe
  | faulted none faulted => exact .faulted none faulted

theorem of_refused (refused : call.Refused) (none : forall count, ¬ accepts count) (safe : ¬ fatal) :
    Decides accepts fatal call := by
  rcases refused with ⟨code, rfl, negative⟩
  exact .refused negative none safe

theorem fault_iff (decides : Decides accepts fatal call) : call = .fault ↔ fatal := by
  cases decides with
  | accepted _ safe => exact iff_of_false (fun impossible => by cases impossible) safe
  | refused _ _ safe => exact iff_of_false (fun impossible => by cases impossible) safe
  | faulted _ faulted => exact iff_of_true rfl faulted

/-- A call that accepts one count at most. -/
theorem ok_iff (decides : Decides accepts fatal call)
    (unique : forall count count', accepts count -> accepts count' -> count = count') (count : Nat) :
    (Exists fun value => call = .ok (count, value)) ↔ accepts count := by
  cases decides with
  | @accepted found value accepted _ =>
      constructor
      · rintro ⟨other, same⟩
        rw [← (Prod.mk.inj (Outcome.ok.inj same)).1]
        exact accepted
      · intro accepted'
        rw [unique count found accepted' accepted]
        exact ⟨value, rfl⟩
  | refused _ none _ => exact iff_of_false (by rintro ⟨_, impossible⟩; cases impossible) (none count)
  | faulted none _ => exact iff_of_false (by rintro ⟨_, impossible⟩; cases impossible) (none count)

/-- Outside of the fatal case the call returns, and what it accepts is in bounds. -/
theorem returns {post : Nat × α -> Prop} (decides : Decides accepts fatal call) (safe : ¬ fatal)
    (bounds : forall count value, accepts count -> post (count, value)) : call.Returns post := by
  cases decides with
  | accepted accepted _ => exact bounds _ _ accepted
  | refused negative _ _ => exact negative
  | faulted _ faulted => exact safe faulted

end Decides

/-- From `offset` to `finish` the reader takes this value off the buffer. -/
structure Took (read : Reader γ α) (buffer : List γ) (offset : Nat) (value : α) (finish : Nat) : Prop where
  forward : offset < finish
  inside : finish ≤ buffer.length
  found : read (buffer.drop offset) = .ok (finish - offset, value)

namespace Took

variable {read : Reader γ α} {buffer : List γ} {offset finish : Nat} {value : α}

/-- What a reader that consumes something has read. -/
theorem of_consumes {width : Nat} (consumes : Consumes 1 read (buffer.drop offset))
    (found : read (buffer.drop offset) = .ok (width, value)) : Took read buffer offset value (offset + width) := by
  have bounds : Between 1 (buffer.drop offset).length (width, value) := Outcome.Returns.of_ok consumes found
  rcases bounds with ⟨atLeast, atMost⟩
  rw [List.length_drop] at atMost
  refine ⟨Nat.lt_add_of_pos_right atLeast, by omega, ?_⟩
  rw [Nat.add_sub_cancel_left]
  exact found

/-- The next call of a decoder: it is refused, or its value is taken. -/
theorem returns (consumes : Consumes 1 read (buffer.drop offset)) :
    (read (buffer.drop offset)).Returns fun found => Took read buffer offset found.2 (offset + found.1) := by
  cases found : read (buffer.drop offset) with
  | ok result => exact of_consumes consumes found
  | error code =>
      rw [Consumes, found] at consumes
      exact consumes
  | fault =>
      rw [Consumes, found] at consumes
      exact consumes

/-- So is that of a call that returns where it comes to an end. -/
theorem yields (consumes : read (buffer.drop offset) ≠ .fault -> Consumes 1 read (buffer.drop offset)) :
    (read (buffer.drop offset)).Yields fun found => Took read buffer offset found.2 (offset + found.1) :=
  fun ended => returns (consumes ended)

/-- The bytes decide what is taken. -/
theorem unique {value' : α} {finish' : Nat} (took : Took read buffer offset value finish)
    (took' : Took read buffer offset value' finish') : value = value' ∧ finish = finish' := by
  have same : (finish - offset, value) = (finish' - offset, value') :=
    Outcome.ok.inj (took.found.symm.trans took'.found)
  rw [Prod.mk.injEq] at same
  have forward := took.forward
  have forward' := took'.forward
  exact ⟨same.2, by omega⟩

end Took

end Library
end RtmpClient
