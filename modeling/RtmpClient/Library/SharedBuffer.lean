import Mathlib.Tactic.Common

namespace RtmpClient
namespace Library

universe u

/-!
# A buffer that is handed over without a copy

The owner of a buffer stores cells into it and submits its front for writing.
The writer is given the address only and may read each cell at any moment until
it reports the write complete.  Writes complete in the order of submission.
What reaches the other end is what the owner meant exactly as long as no store
changes a cell that a pending write has not read.
-/

/-- The cells of a buffer. -/
abbrev Memory (β : Type u) := Nat -> β

namespace Memory

variable {β : Type u}

/-- The buffer after cells were stored from `index` on. -/
def store (memory : Memory β) (index : Nat) (cells : List β) : Memory β := fun position =>
  if index ≤ position then (cells[position - index]?).getD (memory position) else memory position

/-- The first `length` cells. -/
def contents (memory : Memory β) (length : Nat) : List β := (List.range length).map memory

@[simp] theorem contents_length (memory : Memory β) (length : Nat) :
    (memory.contents length).length = length := by
  simp only [contents, List.length_map, List.length_range]

@[simp] theorem contents_zero (memory : Memory β) : memory.contents 0 = [] := rfl

/-- Storing right behind a prefix extends it. -/
theorem contents_store (memory : Memory β) (index : Nat) (cells : List β) :
    (memory.store index cells).contents (index + cells.length) = memory.contents index ++ cells := by
  apply List.ext_getElem
  · rw [contents_length, List.length_append, contents_length]
  · intro position inside _
    rw [contents_length] at inside
    by_cases before : position < index
    · rw [List.getElem_append_left (by rw [contents_length]; exact before)]
      simp only [contents, List.getElem_map, List.getElem_range, store, Nat.not_le.mpr before, if_false]
    · have behind : index ≤ position := Nat.le_of_not_lt before
      rw [List.getElem_append_right (by rw [contents_length]; exact behind)]
      simp only [contents, List.getElem_map, List.getElem_range, store, behind, if_true, List.length_map,
        List.length_range]
      rw [List.getElem?_eq_getElem (by omega), Option.getD_some]

end Memory

/-- What the owner of the buffer does. -/
inductive BufferOp (β : Type u) where
  | store (index : Nat) (cells : List β)
  | submit (length : Nat)

namespace BufferOp

variable {β : Type u}

/-- The contents of each submission at the moment it is made. -/
def submissions (memory : Memory β) : List (BufferOp β) -> List (List β)
  | [] => []
  | .store index cells :: ops => submissions (memory.store index cells) ops
  | .submit length :: ops => memory.contents length :: submissions memory ops

/-- The buffer after the operations. -/
def memoryAfter (memory : Memory β) : List (BufferOp β) -> Memory β
  | [] => memory
  | .store index cells :: ops => memoryAfter (memory.store index cells) ops
  | .submit _ :: ops => memoryAfter memory ops

theorem submissions_append (memory : Memory β) (first second : List (BufferOp β)) :
    submissions memory (first ++ second) =
      submissions memory first ++ submissions (memoryAfter memory first) second := by
  induction first generalizing memory with
  | nil => rfl
  | cons op ops inductionHypothesis =>
      cases op with
      | store index cells => exact inductionHypothesis (memory.store index cells)
      | submit length => exact congrArg (memory.contents length :: ·) (inductionHypothesis memory)

end BufferOp

/-! ## Writing later -/

/-- The owner's buffer, the pending writes with the cells already read, oldest
first, what has been written, and what each submission held when it was made. -/
structure AsyncBuffer (β : Type u) where
  memory : Memory β
  pending : List (List (Option β))
  written : List β
  submitted : List (List β)

namespace AsyncBuffer

variable {β : Type u}

/-- A buffer of which nothing was ever submitted. -/
def new (memory : Memory β) : AsyncBuffer β where
  memory := memory
  pending := []
  written := []
  submitted := []

/-- The write as it comes out if the cells not read yet are read now. -/
def readNow (memory : Memory β) (write : List (Option β)) : List β :=
  write.mapIdx (fun position cell => cell.getD (memory position))

/-- An operation of the owner. -/
def own (buffer : AsyncBuffer β) : BufferOp β -> AsyncBuffer β
  | .store index cells => { buffer with memory := buffer.memory.store index cells }
  | .submit length =>
      { buffer with
        pending := buffer.pending ++ [List.replicate length none]
        submitted := buffer.submitted ++ [buffer.memory.contents length] }

/-- Read one cell for a pending write, unless it is read already. -/
def readCell (memory : Memory β) (position : Nat) (write : List (Option β)) : List (Option β) :=
  write.modify position (fun cell => some (cell.getD (memory position)))

/-- The writer reads one cell of one pending write. -/
def read (buffer : AsyncBuffer β) (write position : Nat) : AsyncBuffer β :=
  { buffer with pending := buffer.pending.modify write (readCell buffer.memory position) }

/-- The oldest write completes; its last cells are read now. -/
def complete (buffer : AsyncBuffer β) : AsyncBuffer β :=
  match buffer.pending with
  | [] => buffer
  | write :: pending =>
      { buffer with pending, written := buffer.written ++ readNow buffer.memory write }

/-- Everything written and everything pending is what the submissions held. -/
structure Faithful (buffer : AsyncBuffer β) : Prop where
  split : Exists fun completed : List (List β) =>
    buffer.submitted = completed ++ buffer.pending.map (readNow buffer.memory) ∧
      buffer.written = completed.flatten

theorem new_faithful (memory : Memory β) : Faithful (new memory) where
  split := ⟨[], rfl, rfl⟩

/-- The owner's operation changes no cell that a pending write has not read. -/
def Undisturbed (buffer : AsyncBuffer β) : BufferOp β -> Prop
  | .store index cells => forall write, write ∈ buffer.pending -> forall position,
      write[position]? = some none ->
        buffer.memory.store index cells position = buffer.memory position
  | .submit _ => True

theorem readNow_congr {first second : Memory β} {write : List (Option β)}
    (same : forall position, write[position]? = some none -> first position = second position) :
    readNow first write = readNow second write := by
  apply List.ext_getElem
  · simp only [readNow, List.length_mapIdx]
  · intro position inside _
    simp only [readNow, List.getElem_mapIdx]
    have bound : position < write.length := by
      simpa only [readNow, List.length_mapIdx] using inside
    cases cell : write[position] with
    | some value => rfl
    | none =>
        have unread : write[position]? = some none := by
          rw [List.getElem?_eq_getElem bound, cell]
        exact same position unread

/-- A write of which nothing is read comes out as the contents. -/
theorem readNow_replicate (memory : Memory β) (length : Nat) :
    readNow memory (List.replicate length none) = memory.contents length := by
  apply List.ext_getElem
  · simp only [readNow, List.length_mapIdx, List.length_replicate, Memory.contents_length]
  · intro position _ _
    simp only [readNow, List.getElem_mapIdx, List.getElem_replicate, Option.getD_none, Memory.contents,
      List.getElem_map, List.getElem_range]

/-- Reading a cell now does not change what comes out if all is read now. -/
theorem readNow_readCell (memory : Memory β) (position : Nat) (write : List (Option β)) :
    readNow memory (readCell memory position write) = readNow memory write := by
  apply List.ext_getElem
  · simp only [readNow, readCell, List.length_mapIdx, List.length_modify]
  · intro other _ _
    simp only [readNow, readCell, List.getElem_mapIdx, List.getElem_modify]
    by_cases here : position = other
    · simp only [here, if_true, Option.getD_some]
    · simp only [here, if_false]

theorem own_faithful {buffer : AsyncBuffer β} (faithful : Faithful buffer) {op : BufferOp β}
    (undisturbed : Undisturbed buffer op) : Faithful (buffer.own op) where
  split := by
    rcases faithful.split with ⟨completed, submitted, written⟩
    refine ⟨completed, ?_, ?_⟩
    · cases op with
      | store index cells =>
          have same : buffer.pending.map (readNow (buffer.memory.store index cells)) =
              buffer.pending.map (readNow buffer.memory) := by
            apply List.map_congr_left
            intro write member
            exact readNow_congr (undisturbed write member)
          rw [own, same]
          exact submitted
      | submit length =>
          rw [own, submitted, List.map_append, List.append_assoc, List.map_cons, List.map_nil,
            readNow_replicate]
    · cases op with
      | store index cells => exact written
      | submit length => exact written

theorem read_faithful {buffer : AsyncBuffer β} (faithful : Faithful buffer) (write position : Nat) :
    Faithful (buffer.read write position) where
  split := by
    rcases faithful.split with ⟨completed, submitted, written⟩
    have same : (buffer.pending.modify write (readCell buffer.memory position)).map (readNow buffer.memory) =
        buffer.pending.map (readNow buffer.memory) := by
      apply List.ext_getElem
      · simp only [List.length_map, List.length_modify]
      · intro index _ _
        simp only [List.getElem_map, List.getElem_modify]
        by_cases here : write = index
        · simp only [here, if_true, readNow_readCell]
        · simp only [here, if_false]
    refine ⟨completed, ?_, written⟩
    rw [read, same]
    exact submitted

theorem complete_faithful {buffer : AsyncBuffer β} (faithful : Faithful buffer) :
    Faithful buffer.complete := by
  unfold complete
  cases shape : buffer.pending with
  | nil => exact faithful
  | cons write pending =>
      rcases faithful.split with ⟨completed, submitted, written⟩
      refine ⟨completed ++ [readNow buffer.memory write], ?_, ?_⟩
      · rw [shape, List.map_cons] at submitted
        rw [List.append_assoc]
        exact submitted
      · rw [written, List.flatten_append, List.flatten_cons, List.flatten_nil, List.append_nil]

/-- What a faithful buffer has written: the submissions that are no longer
pending, as they were when they were made. -/
theorem Faithful.written_eq {buffer : AsyncBuffer β} (faithful : Faithful buffer) :
    buffer.written =
      (buffer.submitted.take (buffer.submitted.length - buffer.pending.length)).flatten := by
  rcases faithful.split with ⟨completed, submitted, written⟩
  have count : buffer.submitted.length - buffer.pending.length = completed.length := by
    rw [submitted, List.length_append, List.length_map, Nat.add_sub_cancel]
  rw [count, submitted, List.take_left, written]

end AsyncBuffer

end Library
end RtmpClient
