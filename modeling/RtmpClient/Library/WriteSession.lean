import Mathlib.Data.List.Basic
import RtmpClient.Library.SharedBuffer

namespace RtmpClient
namespace Library

universe u

/-!
# Schedules of a shared buffer

The owner goes through a list of operations while the writer reads and completes
at its own pace.  When the owner refills the buffer from the front for every
submission, all schedules write what was submitted exactly when the submissions
agree wherever they overlap.
-/

/-- One move of the owner or of the writer. -/
inductive Move where
  | own
  | read (write position : Nat)
  | complete
  deriving DecidableEq, Repr

/-- What the owner has still to do, and the buffer. -/
structure Session (β : Type u) where
  todo : List (BufferOp β)
  buffer : AsyncBuffer β

variable {β : Type u}

namespace Session

def start (memory : Memory β) (ops : List (BufferOp β)) : Session β where
  todo := ops
  buffer := AsyncBuffer.new memory

def step (session : Session β) : Move -> Session β
  | .own =>
      match session.todo with
      | [] => session
      | op :: todo => { todo, buffer := session.buffer.own op }
  | .read write position => { session with buffer := session.buffer.read write position }
  | .complete => { session with buffer := session.buffer.complete }

def run (session : Session β) (moves : List Move) : Session β := moves.foldl step session

/-- Whenever nothing is pending, what was written is what was submitted. -/
def Faithful (session : Session β) : Prop :=
  forall moves, (session.run moves).buffer.pending = [] ->
    (session.run moves).buffer.written = (session.run moves).buffer.submitted.flatten

theorem Faithful.step {session : Session β} (faithful : Faithful session) (move : Move) :
    Faithful (session.step move) :=
  fun moves => faithful (move :: moves)

/-- All pending writes can complete at once. -/
theorem run_complete (session : Session β) :
    Exists fun moves => (session.run moves).buffer.pending = [] ∧
      (session.run moves).buffer.submitted = session.buffer.submitted ∧
      (session.run moves).buffer.written = session.buffer.written ++
        (session.buffer.pending.map (AsyncBuffer.readNow session.buffer.memory)).flatten := by
  induction pending : session.buffer.pending generalizing session with
  | nil => exact ⟨[], pending, rfl, (List.append_nil _).symm⟩
  | cons write rest inductionHypothesis =>
      have completed : (session.step .complete).buffer =
          { session.buffer with
            pending := rest
            written := session.buffer.written ++
              AsyncBuffer.readNow session.buffer.memory write } := by
        simp only [Session.step, AsyncBuffer.complete, pending]
      rcases inductionHypothesis (session.step .complete) (by rw [completed]) with
        ⟨moves, empty, submitted, written⟩
      refine ⟨.complete :: moves, empty, ?_, ?_⟩
      · refine Eq.trans submitted ?_
        rw [completed]
      · refine Eq.trans written ?_
        rw [completed, List.map_cons, List.flatten_cons, List.append_assoc]

/-- A session that is faithful in every schedule does not let the owner change
a cell that a pending write still has to read. -/
theorem Faithful.undisturbed {session : Session β} (faithful : Faithful session)
    (before : AsyncBuffer.Faithful session.buffer) {op : BufferOp β} {todo : List (BufferOp β)}
    (next : session.todo = op :: todo) : AsyncBuffer.Undisturbed session.buffer op := by
  cases op with
  | submit length => trivial
  | store index cells =>
      have stored : (session.step .own).buffer =
          { session.buffer with memory := session.buffer.memory.store index cells } := by
        simp only [Session.step, next, AsyncBuffer.own]
      rcases run_complete (session.step .own) with ⟨moves, empty, submitted, written⟩
      have wire := faithful.step .own moves empty
      rcases before.split with ⟨completed, split, done⟩
      rw [written, submitted, stored] at wire
      simp only [split, done, List.flatten_append, List.append_cancel_left_eq] at wire
      have lengths : (session.buffer.pending.map
            (AsyncBuffer.readNow (session.buffer.memory.store index cells))).map List.length =
          (session.buffer.pending.map (AsyncBuffer.readNow session.buffer.memory)).map List.length := by
        simp only [List.map_map]
        apply List.map_congr_left
        intro write _
        simp only [Function.comp_apply, AsyncBuffer.readNow, List.length_mapIdx]
      have same := List.eq_iff_flatten_eq.mpr ⟨wire, lengths⟩
      intro write member position unread
      have reads := List.map_inj_left.mp same write member
      have bound : position < write.length := (List.getElem?_eq_some_iff.mp unread).1
      have cell : forall memory : Memory β,
          (AsyncBuffer.readNow memory write)[position]? = some (memory position) := by
        intro memory
        rw [AsyncBuffer.readNow, List.getElem?_mapIdx, unread]
        rfl
      have both := congrArg (fun cells => cells[position]?) reads
      simp only [cell, Option.some.injEq] at both
      exact both

end Session

/-! ## Refilling from the front -/

/-- The owner fills the buffer from the front, without gaps, and submits all it
has filled; `index` cells are filled so far. -/
def Refills : (index : Nat) -> List (BufferOp β) -> Prop
  | index, [] => index = 0
  | index, .store position cells :: ops => position = index ∧ Refills (index + cells.length) ops
  | index, .submit length :: ops => length = index ∧ Refills 0 ops

theorem Refills.append {index : Nat} {first second : List (BufferOp β)} (fills : Refills index first)
    (more : Refills 0 second) : Refills index (first ++ second) := by
  induction first generalizing index with
  | nil =>
      have empty : index = 0 := fills
      rw [List.nil_append, empty]
      exact more
  | cons op ops inductionHypothesis =>
      cases op with
      | store position cells => exact ⟨fills.1, inductionHypothesis fills.2⟩
      | submit length => exact ⟨fills.1, inductionHypothesis fills.2⟩

/-- Two contents agree wherever both have a cell. -/
def Compatible (first second : List β) : Prop :=
  forall position, position < first.length -> position < second.length ->
    first[position]? = second[position]?

/-- The buffer still holds everything that was submitted. -/
def Agrees (memory : Memory β) (submitted : List (List β)) : Prop :=
  forall contents, contents ∈ submitted -> forall position, position < contents.length ->
    contents[position]? = some (memory position)

namespace Memory

theorem store_before (memory : Memory β) {index position : Nat} (cells : List β)
    (before : position < index) : memory.store index cells position = memory position :=
  if_neg (Nat.not_le.mpr before)

theorem store_behind (memory : Memory β) {index position : Nat} {cells : List β}
    (behind : index + cells.length ≤ position) : memory.store index cells position = memory position := by
  have none : cells[position - index]? = none := List.getElem?_eq_none (by omega)
  rw [store, if_pos (by omega), none, Option.getD_none]

theorem contents_getElem? (memory : Memory β) {length position : Nat} (inside : position < length) :
    (memory.contents length)[position]? = some (memory position) := by
  rw [contents, List.getElem?_map, List.getElem?_range inside]
  rfl

end Memory

/-- The buffer holds what is submitted now. -/
theorem Agrees.submit {memory : Memory β} {submitted : List (List β)} (agrees : Agrees memory submitted)
    (length : Nat) : Agrees memory (submitted ++ [memory.contents length]) := by
  intro contents member position inside
  rcases List.mem_append.mp member with old | new
  · exact agrees contents old position inside
  · rw [List.mem_singleton.mp new] at inside ⊢
    rw [Memory.contents_length] at inside
    exact Memory.contents_getElem? memory inside

/-- What is filled so far is the front of the next submission. -/
theorem Refills.next {index : Nat} {ops : List (BufferOp β)} (fills : Refills index ops) (some : 0 < index)
    (memory : Memory β) :
    Exists fun first => Exists fun later => BufferOp.submissions memory ops = first :: later ∧
      forall position, position < index -> first[position]? = .some (memory position) := by
  induction ops generalizing index memory with
  | nil => exact absurd fills (Nat.ne_of_gt some)
  | cons op ops inductionHypothesis =>
      cases op with
      | store position cells =>
          rcases fills with ⟨rfl, more⟩
          rcases inductionHypothesis more (Nat.lt_of_lt_of_le some (Nat.le_add_right _ _))
            (memory.store position cells) with ⟨first, later, submissions, front⟩
          refine ⟨first, later, submissions, ?_⟩
          intro other before
          rw [front other (Nat.lt_of_lt_of_le before (Nat.le_add_right _ _)),
            Memory.store_before memory cells before]
      | submit length =>
          rcases fills with ⟨rfl, _⟩
          exact ⟨_, _, rfl, fun position inside => Memory.contents_getElem? memory inside⟩

/-- A store that agrees with the submission it belongs to changes no cell that
was submitted before. -/
theorem agrees_store {memory : Memory β} {submitted : List (List β)} (agrees : Agrees memory submitted)
    {index : Nat} {cells : List β} {ops : List (BufferOp β)} (fills : Refills index (.store index cells :: ops))
    (compatible : (submitted ++ BufferOp.submissions memory (.store index cells :: ops)).Pairwise Compatible) :
    Agrees (memory.store index cells) submitted := by
  intro contents member position inside
  by_cases before : position < index
  · rw [Memory.store_before memory cells before]
    exact agrees contents member position inside
  · by_cases behind : index + cells.length ≤ position
    · rw [Memory.store_behind memory behind]
      exact agrees contents member position inside
    · rcases fills.2.next (by omega) (memory.store index cells) with ⟨first, later, submissions, front⟩
      have cell := front position (by omega)
      have bound : position < first.length := (List.getElem?_eq_some_iff.mp cell).1
      have belongs : first ∈ BufferOp.submissions memory (.store index cells :: ops) := by
        rw [BufferOp.submissions, submissions]
        exact List.mem_cons_self ..
      have pair := (List.pairwise_append.mp compatible).2.2 contents member first belongs
      rw [pair position inside bound, cell]

/-- Stores that keep what was submitted do not disturb a pending write. -/
theorem undisturbed_of_agrees {buffer : AsyncBuffer β} (faithful : AsyncBuffer.Faithful buffer) {index : Nat}
    {cells : List β} (agrees : Agrees buffer.memory buffer.submitted)
    (kept : Agrees (buffer.memory.store index cells) buffer.submitted) :
    AsyncBuffer.Undisturbed buffer (.store index cells) := by
  intro write member position unread
  rcases faithful.split with ⟨completed, split, _⟩
  have bound : position < write.length := (List.getElem?_eq_some_iff.mp unread).1
  have inside : position < (AsyncBuffer.readNow buffer.memory write).length := by
    rw [AsyncBuffer.readNow, List.length_mapIdx]
    exact bound
  have submitted : AsyncBuffer.readNow buffer.memory write ∈ buffer.submitted := by
    rw [split]
    exact List.mem_append_right _ (List.mem_map_of_mem member)
  have old := agrees _ submitted position inside
  have new := kept _ submitted position inside
  rw [old, Option.some.injEq] at new
  exact new.symm

namespace Session

/-- What holds in every schedule if the submissions are compatible. -/
structure Steady (session : Session β) : Prop where
  faithful : AsyncBuffer.Faithful session.buffer
  agrees : Agrees session.buffer.memory session.buffer.submitted
  refills : Exists fun index => Refills index session.todo
  compatible : (session.buffer.submitted ++
    BufferOp.submissions session.buffer.memory session.todo).Pairwise Compatible

theorem Steady.own {session : Session β} (steady : Steady session) : Steady (session.step .own) := by
  rcases steady.refills with ⟨index, refills⟩
  have compatible := steady.compatible
  cases todo : session.todo with
  | nil =>
      have same : session.step .own = session := by
        simp only [step, todo]
      rw [same]
      exact steady
  | cons op ops =>
      have moved : session.step .own = { todo := ops, buffer := session.buffer.own op } := by
        simp only [step, todo]
      rw [todo] at refills compatible
      rw [moved]
      cases op with
      | store position cells =>
          rcases refills with ⟨rfl, more⟩
          have kept := agrees_store steady.agrees ⟨rfl, more⟩ compatible
          exact
            { faithful := AsyncBuffer.own_faithful steady.faithful
                (undisturbed_of_agrees steady.faithful steady.agrees kept)
              agrees := kept
              refills := ⟨_, more⟩
              compatible := compatible }
      | submit length =>
          have joined : session.buffer.submitted ++
                BufferOp.submissions session.buffer.memory (.submit length :: ops) =
              session.buffer.submitted ++ [session.buffer.memory.contents length] ++
                BufferOp.submissions session.buffer.memory ops := List.append_cons _ _ _
          rw [joined] at compatible
          exact
            { faithful := AsyncBuffer.own_faithful steady.faithful
                (show AsyncBuffer.Undisturbed session.buffer (.submit length) from trivial)
              agrees := steady.agrees.submit length
              refills := ⟨0, refills.2⟩
              compatible := compatible }

theorem Steady.read {session : Session β} (steady : Steady session) (write position : Nat) :
    Steady (session.step (.read write position)) where
  faithful := AsyncBuffer.read_faithful steady.faithful write position
  agrees := steady.agrees
  refills := steady.refills
  compatible := steady.compatible

theorem Steady.complete {session : Session β} (steady : Steady session) :
    Steady (session.step .complete) := by
  have same : (session.step .complete).buffer.memory = session.buffer.memory ∧
      (session.step .complete).buffer.submitted = session.buffer.submitted := by
    simp only [step, AsyncBuffer.complete]
    split
    · exact ⟨rfl, rfl⟩
    · exact ⟨rfl, rfl⟩
  exact
    { faithful := AsyncBuffer.complete_faithful steady.faithful
      agrees := by
        rw [same.1, same.2]
        exact steady.agrees
      refills := steady.refills
      compatible := by
        rw [same.1, same.2]
        exact steady.compatible }

theorem Steady.run {session : Session β} (steady : Steady session) (moves : List Move) :
    Steady (session.run moves) := by
  induction moves generalizing session with
  | nil => exact steady
  | cons move moves inductionHypothesis =>
      cases move with
      | own => exact inductionHypothesis steady.own
      | read write position => exact inductionHypothesis (steady.read write position)
      | complete => exact inductionHypothesis steady.complete

theorem Steady.faithful_all {session : Session β} (steady : Steady session) : Faithful session := by
  intro moves empty
  have written := (steady.run moves).faithful.written_eq
  rw [empty, List.length_nil, Nat.sub_zero, List.take_length] at written
  exact written

/-- Nothing that was submitted is read yet. -/
structure Unread (session : Session β) : Prop where
  pending_eq : session.buffer.pending =
    session.buffer.submitted.map fun contents => List.replicate contents.length none
  written_eq : session.buffer.written = []
  agrees : Agrees session.buffer.memory session.buffer.submitted

theorem Unread.faithful {session : Session β} (unread : Unread session) :
    AsyncBuffer.Faithful session.buffer where
  split := by
    have whole : forall contents, contents ∈ session.buffer.submitted ->
        (AsyncBuffer.readNow session.buffer.memory ∘
          fun contents => List.replicate contents.length none) contents = id contents := by
      intro contents member
      rw [Function.comp_apply, AsyncBuffer.readNow_replicate, id]
      apply List.ext_getElem?
      intro position
      by_cases inside : position < contents.length
      · rw [Memory.contents_getElem? _ inside, unread.agrees contents member position inside]
      · have outside := Nat.le_of_not_lt inside
        rw [List.getElem?_eq_none (by rw [Memory.contents_length]; exact outside),
          List.getElem?_eq_none outside]
    refine ⟨[], ?_, unread.written_eq⟩
    rw [List.nil_append, unread.pending_eq, List.map_map, List.map_congr_left whole, List.map_id]

/-- If the writer may leave everything unread, later submissions must be
compatible with earlier ones. -/
theorem Unread.compatible {session : Session β} (unread : Unread session) (faithful : Faithful session)
    (before : session.buffer.submitted.Pairwise Compatible) :
    (session.buffer.submitted ++
      BufferOp.submissions session.buffer.memory session.todo).Pairwise Compatible := by
  induction todo : session.todo generalizing session with
  | nil =>
      rw [BufferOp.submissions, List.append_nil]
      exact before
  | cons op ops inductionHypothesis =>
      have moved : session.step .own = { todo := ops, buffer := session.buffer.own op } := by
        simp only [step, todo]
      have later := faithful.step .own
      rw [moved] at later
      cases op with
      | store index cells =>
          have undisturbed := faithful.undisturbed unread.faithful todo
          have nextUnread : Unread { todo := ops, buffer := session.buffer.own (.store index cells) } := by
            refine { pending_eq := unread.pending_eq, written_eq := unread.written_eq, agrees := ?_ }
            intro contents member position inside
            have pending : List.replicate contents.length none ∈ session.buffer.pending := by
              rw [unread.pending_eq]
              exact List.mem_map_of_mem member
            have cell : (List.replicate contents.length (none : Option β))[position]? = some none :=
              List.getElem?_replicate_of_lt inside
            exact (unread.agrees contents member position inside).trans
              (congrArg some (undisturbed _ pending position cell).symm)
          exact inductionHypothesis nextUnread later before rfl
      | submit length =>
          have nextUnread : Unread { todo := ops, buffer := session.buffer.own (.submit length) } := by
            refine
              { pending_eq := ?_, written_eq := unread.written_eq, agrees := unread.agrees.submit length }
            rw [AsyncBuffer.own, unread.pending_eq, List.map_append, List.map_cons, List.map_nil,
              Memory.contents_length]
          have nextCompatible : (session.buffer.submitted ++
              [session.buffer.memory.contents length]).Pairwise Compatible := by
            refine List.pairwise_append.mpr ⟨before, List.pairwise_singleton _ _, ?_⟩
            intro contents member last new position inside insideLast
            rw [List.mem_singleton.mp new] at insideLast ⊢
            rw [Memory.contents_length] at insideLast
            rw [unread.agrees contents member position inside,
              Memory.contents_getElem? session.buffer.memory insideLast]
          have rest := inductionHypothesis nextUnread later nextCompatible rfl
          rw [BufferOp.submissions, List.append_cons]
          exact rest

/-- All schedules write what was submitted exactly when the submissions agree
wherever they overlap. -/
theorem faithful_iff_compatible (memory : Memory β) {ops : List (BufferOp β)} (refills : Refills 0 ops) :
    Faithful (start memory ops) ↔ (BufferOp.submissions memory ops).Pairwise Compatible := by
  have none : Agrees memory [] := by
    intro contents member
    cases member
  constructor
  · intro faithful
    have unread : Unread (start memory ops) := { pending_eq := rfl, written_eq := rfl, agrees := none }
    exact unread.compatible faithful List.Pairwise.nil
  · intro compatible
    have steady : Steady (start memory ops) :=
      { faithful := AsyncBuffer.new_faithful memory
        agrees := none
        refills := ⟨0, refills⟩
        compatible := compatible }
    exact steady.faithful_all

end Session

end Library
end RtmpClient
