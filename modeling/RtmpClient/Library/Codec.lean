import Mathlib.Algebra.Ring.Nat
import Mathlib.Data.List.Basic
import RtmpClient.Library.Outcome

namespace RtmpClient
namespace Library

/-!
# Self-delimiting codes

A writer is given the room that is left in its buffer and returns the cells it
wrote there; a reader is given a buffer and returns how many cells it consumed
with the value it found.  A code is self-delimiting when its reader finds the
same value whatever stands behind the encoding.  Loops over such codes are
described by the calls they make, apart from what they do with the values.
-/

variable {γ α β : Type}

abbrev Writer (γ : Type) := Nat -> Outcome (List γ)

abbrev Reader (γ α : Type) := List γ -> Outcome (Nat × α)

/-- Put cells at the front of the room that is left, without a check of its
own: what does not fit is a fault. -/
def store (room : Nat) (cells : List γ) : Outcome (List γ) :=
  if cells.length ≤ room then .ok cells else .fault

theorem store_of_le {room : Nat} {cells : List γ} (fits : cells.length ≤ room) :
    store room cells = .ok cells :=
  if_pos fits

/-- A buffer of fixed size after cells were stored at its front. -/
def overlay (buffer cells : List γ) : List γ := cells.take buffer.length ++ buffer.drop cells.length

@[simp] theorem overlay_length (buffer cells : List γ) : (overlay buffer cells).length = buffer.length := by
  rw [overlay, List.length_append, List.length_take, List.length_drop]
  omega

/-- Cells that fill the buffer leave nothing of what it held. -/
theorem overlay_full {buffer cells : List γ} (full : cells.length = buffer.length) :
    overlay buffer cells = cells := by
  rw [overlay, ← full, List.take_length, full, List.drop_length, List.append_nil]

/-- `memcpy` to the room that is left. -/
def writeCells (cells : List γ) : Writer γ := fun room => store room cells

/-- The writer produces these cells wherever they fit. -/
def Emits (write : Writer γ) (cells : List γ) : Prop :=
  forall room, cells.length ≤ room -> write room = .ok cells

/-- Writers in turn, each in the room that the ones before it left. -/
def writeAll : List (Writer γ) -> Writer γ
  | [] => fun _ => .ok []
  | write :: others => fun room => do
      let cells ← write room
      let more ← writeAll others (room - cells.length)
      return cells ++ more

namespace Emits

variable {write : Writer γ} {cells more : List γ}

theorem copied (cells : List γ) : Emits (writeCells cells) cells := fun _ enough => store_of_le enough

theorem nil : Emits (writeAll ([] : List (Writer γ))) [] := fun _ _ => rfl

theorem cons {others : List (Writer γ)} (first : Emits write cells) (rest : Emits (writeAll others) more) :
    Emits (writeAll (write :: others)) (cells ++ more) := by
  intro room enough
  rw [List.length_append] at enough
  have head := first room (by omega)
  have tail := rest (room - cells.length) (by omega)
  simp only [writeAll, head, tail, Outcome.ok_bind_do, Outcome.pure_eq]

/-- Answering errors with a code of one's own changes nothing where there are
none. -/
theorem errorAs (emits : Emits write cells) (code : Int) :
    Emits (fun room => (write room).errorAs code) cells := by
  intro room enough
  simp only [emits room enough, Outcome.errorAs_ok]

end Emits

/-- In this much room the writer ends, and it takes no more of it. -/
def EndsWithin (write : Writer γ) (size : Nat) : Prop :=
  forall room, size ≤ room -> Exists fun cells => write room = .ok cells ∧ cells.length ≤ size

namespace EndsWithin

variable {write : Writer γ} {size more : Nat}

theorem nil : EndsWithin (writeAll ([] : List (Writer γ))) 0 := fun _ _ => ⟨[], rfl, Nat.le_refl 0⟩

theorem cons {others : List (Writer γ)} (first : EndsWithin write size) (rest : EndsWithin (writeAll others) more) :
    EndsWithin (writeAll (write :: others)) (size + more) := by
  intro room enough
  rcases first room (by omega) with ⟨cells, written, short⟩
  rcases rest (room - cells.length) (by omega) with ⟨others, writtenToo, shortToo⟩
  refine ⟨cells ++ others, ?_, ?_⟩
  · simp only [writeAll, written, writtenToo, Outcome.ok_bind_do, Outcome.pure_eq]
  · rw [List.length_append]
    exact Nat.add_le_add short shortToo

theorem errorAs (ends : EndsWithin write size) (code : Int) :
    EndsWithin (fun room => (write room).errorAs code) size := by
  intro room enough
  rcases ends room enough with ⟨cells, written, short⟩
  exact ⟨cells, by simp only [written, Outcome.errorAs_ok], short⟩

/-- One writer for many values. -/
theorem all {write : α -> Writer γ} {size : α -> Nat} {values : List α}
    (each : forall value, value ∈ values -> EndsWithin (write value) (size value)) :
    EndsWithin (writeAll (values.map write)) (values.map size).sum := by
  induction values with
  | nil => exact nil
  | cons value values inductionHypothesis =>
      have rest := inductionHypothesis fun later member => each later (List.mem_cons_of_mem value member)
      rw [List.map_cons, List.map_cons, List.sum_cons]
      exact cons (each value List.mem_cons_self) rest

end EndsWithin

/-- In this much room the writer ends, with a number of cells that does not
depend on how much room there is. -/
def Takes (write : Writer γ) (size count : Nat) : Prop :=
  count ≤ size ∧ forall room, size ≤ room -> Exists fun cells => write room = .ok cells ∧ cells.length = count

namespace Takes

variable {write : Writer γ} {size count : Nat}

theorem of_emits {cells : List γ} (emits : Emits write cells) : Takes write cells.length cells.length :=
  ⟨Nat.le_refl _, fun room enough => ⟨cells, emits room enough, rfl⟩⟩

theorem endsWithin {more : Nat} (takes : Takes write size count) (larger : size ≤ more) : EndsWithin write more := by
  intro room enough
  rcases takes.2 room (Nat.le_trans larger enough) with ⟨cells, written, length⟩
  exact ⟨cells, written, length ▸ Nat.le_trans takes.1 larger⟩

end Takes

/-- Values written by one writer, one behind another. -/
theorem writeAll_emits {write : α -> Writer γ} {encode : α -> List γ} {values : List α}
    (each : forall value, value ∈ values -> Emits (write value) (encode value)) :
    Emits (writeAll (values.map write)) (values.flatMap encode) := by
  induction values with
  | nil => exact Emits.nil
  | cons value values inductionHypothesis =>
      have rest := inductionHypothesis fun later member => each later (List.mem_cons_of_mem value member)
      rw [List.map_cons, List.flatMap_cons]
      exact Emits.cons (each value List.mem_cons_self) rest

/-- The reader takes exactly these cells off the front of a buffer, as this
value, whatever follows them. -/
def Recovers (read : Reader γ α) (cells : List γ) (value : α) : Prop :=
  forall rest, read (cells ++ rest) = .ok (cells.length, value)

namespace Recovers

variable {read : Reader γ α} {cells cells' : List γ} {value value' : α}

/-- The encoding may stand anywhere in the buffer. -/
theorem behind (recovers : Recovers read cells value) (before rest : List γ) :
    read ((before ++ (cells ++ rest)).drop before.length) = .ok (cells.length, value) := by
  rw [List.drop_left]
  exact recovers rest

/-- What is built from the value that was read. -/
theorem map (recovers : Recovers read cells value) (build : α -> β) :
    Recovers (fun buffer => do
      let (width, value) ← read buffer
      return (width, build value)) cells (build value) := by
  intro rest
  simp only [recovers rest, Outcome.ok_bind_do, Outcome.pure_eq]

end Recovers

/-- Read one value and another right behind it. -/
def readPair (first : Reader γ α) (second : Reader γ β) : Reader γ (α × β) := fun buffer => do
  let (width, left) ← first buffer
  let (width', right) ← second (buffer.drop width)
  return (width + width', (left, right))

theorem Recovers.pair {first : Reader γ α} {second : Reader γ β} {cells cells' : List γ}
    {left : α} {right : β} (recovers : Recovers first cells left)
    (recovers' : Recovers second cells' right) :
    Recovers (readPair first second) (cells ++ cells') (left, right) := by
  intro rest
  rw [readPair, List.append_assoc, recovers (cells' ++ rest), List.length_append]
  simp only [Outcome.ok_bind_do, List.drop_left, recovers' rest, Outcome.pure_eq]

/-! ## Encodings that break off -/

/-- The beginning of these cells, without their end. -/
def CutOff (cut cells : List γ) : Prop := List.IsPrefix cut cells ∧ cut ≠ cells

namespace CutOff

variable {cut first second tail : List γ}

theorem length_lt (broken : CutOff cut first) : cut.length < first.length := by
  rcases broken with ⟨⟨rest, whole⟩, proper⟩
  rw [← whole, List.length_append]
  have more : 0 < rest.length := by
    apply List.length_pos_of_ne_nil
    intro none
    rw [none, List.append_nil] at whole
    exact proper whole
  omega

theorem of_append (first : List γ) (some : second ≠ []) : CutOff first (first ++ second) := by
  refine ⟨List.prefix_append first second, fun whole => some ?_⟩
  exact List.self_eq_append_right.mp whole

theorem not_nil (broken : CutOff cut ([] : List γ)) : False :=
  absurd broken.length_lt (Nat.not_lt_zero _)

/-- A cut falls into the first part, or behind it. -/
theorem append (broken : CutOff cut (first ++ second)) :
    CutOff cut first ∨ Exists fun part => cut = first ++ part ∧ CutOff part second := by
  rcases broken with ⟨⟨rest, whole⟩, proper⟩
  rcases List.append_eq_append_iff.mp whole with ⟨more, split, -⟩ | ⟨part, split, behind⟩
  · by_cases all : cut = first
    · refine Or.inr ⟨[], by rw [all, List.append_nil], ⟨List.nil_prefix, ?_⟩⟩
      intro none
      apply proper
      rw [all, ← none, List.append_nil]
    · exact Or.inl ⟨⟨more, split.symm⟩, all⟩
  · refine Or.inr ⟨part, split, ⟨rest, behind.symm⟩, ?_⟩
    intro all
    apply proper
    rw [split, all]

/-- A cut of encodings that stand one behind another falls into one of them or
into what follows them. -/
theorem flatMap (encode : α -> List γ) {values : List α} (broken : CutOff cut (values.flatMap encode ++ tail)) :
    (Exists fun done => Exists fun value => Exists fun more => Exists fun part =>
      values = done ++ value :: more ∧ cut = done.flatMap encode ++ part ∧ CutOff part (encode value)) ∨
      Exists fun part => cut = values.flatMap encode ++ part ∧ CutOff part tail := by
  induction values generalizing cut with
  | nil => exact Or.inr ⟨cut, rfl, broken⟩
  | cons value values inductionHypothesis =>
      rw [List.flatMap_cons, List.append_assoc] at broken
      rcases broken.append with here | ⟨later, rfl, behind⟩
      · exact Or.inl ⟨[], value, values, cut, rfl, rfl, here⟩
      · rcases inductionHypothesis behind with ⟨done, other, more, part, rfl, rfl, inside⟩ | ⟨part, rfl, inside⟩
        · refine Or.inl ⟨value :: done, other, more, part, rfl, ?_, inside⟩
          rw [List.flatMap_cons, List.append_assoc]
        · refine Or.inr ⟨part, ?_, inside⟩
          rw [List.flatMap_cons, List.append_assoc]

end CutOff

/-! ## Repetition -/

/-- One encoding is no longer than all of them. -/
theorem length_encode_le (encode : α -> List γ) {value : α} {values : List α}
    (member : value ∈ values) : (encode value).length ≤ (values.flatMap encode).length := by
  rw [List.flatMap_def]
  exact (List.sublist_flatten_of_mem (List.mem_map_of_mem member)).length_le

/-- Encodings that are not empty are no more than the cells they take. -/
theorem length_le_flatMap (encode : α -> List γ) (values : List α)
    (nonempty : forall value, value ∈ values -> 0 < (encode value).length) :
    values.length ≤ (values.flatMap encode).length := by
  induction values with
  | nil => exact Nat.le_refl 0
  | cons value values inductionHypothesis =>
      have first := nonempty value List.mem_cons_self
      have others := inductionHypothesis
        (fun later member => nonempty later (List.mem_cons_of_mem value member))
      rw [List.flatMap_cons, List.length_append, List.length_cons]
      omega

/-- A run of successful calls of one reader along a buffer, from one cursor to
another.  `guard` is what held of the remaining buffer before each call. -/
inductive Reads (guard : List γ -> Prop) (read : Reader γ α) (buffer : List γ) :
    Nat -> List α -> Nat -> Prop where
  | done (offset : Nat) : Reads guard read buffer offset [] offset
  | next {offset width finish : Nat} {value : α} {values : List α}
      (guarded : guard (buffer.drop offset))
      (head : read (buffer.drop offset) = .ok (width, value))
      (tail : Reads guard read buffer (offset + width) values finish) :
      Reads guard read buffer offset (value :: values) finish

/-- Encodings that stand one behind another are read one after another. -/
theorem Reads.of_recovers {guard : List γ -> Prop} {read : Reader γ α} (encode : α -> List γ)
    (values : List α) (guarded : forall value, value ∈ values -> forall rest, guard (encode value ++ rest))
    (recovers : forall value, value ∈ values -> Recovers read (encode value) value) (before rest : List γ) :
    Reads guard read (before ++ (values.flatMap encode ++ rest)) before.length values
      (before.length + (values.flatMap encode).length) := by
  induction values generalizing before with
  | nil => exact .done before.length
  | cons value values inductionHypothesis =>
      have tail := inductionHypothesis
        (fun later member => guarded later (List.mem_cons_of_mem value member))
        (fun later member => recovers later (List.mem_cons_of_mem value member))
        (before ++ encode value)
      rw [List.length_append, List.append_assoc, Nat.add_assoc] at tail
      rw [List.flatMap_cons, List.length_append, List.append_assoc]
      refine .next ?_ ?_ tail
      · rw [List.drop_left]
        exact guarded value List.mem_cons_self _
      · exact (recovers value List.mem_cons_self).behind before _

end Library
end RtmpClient
