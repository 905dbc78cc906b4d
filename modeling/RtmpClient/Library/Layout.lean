import Mathlib.Data.List.Basic
import Mathlib.Data.List.Induction
import RtmpClient.Library.Outcome

namespace RtmpClient
namespace Library

/-!
# Fields at positions

A record of bytes is cut at positions that other bytes of it announce.  A
position is known as the length of what stands before it.
-/

variable {α : Type}

/-- The `width` cells from `start` on. -/
def fieldAt (cells : List α) (start width : Nat) : List α := (cells.drop start).take width

/-- Everything but those cells. -/
def withoutField (cells : List α) (start width : Nat) : List α :=
  cells.take start ++ cells.drop (start + width)

theorem fieldAt_middle (before field after : List α) :
    fieldAt (before ++ (field ++ after)) before.length field.length = field := by
  rw [fieldAt, List.drop_left, List.take_left]

theorem withoutField_middle (before field after : List α) :
    withoutField (before ++ (field ++ after)) before.length field.length = before ++ after := by
  rw [withoutField, List.take_left, List.drop_length_add_append, List.drop_left]

/-- Two fields without a gap between them are one. -/
theorem fieldAt_append (cells : List α) (start width width' : Nat) :
    fieldAt cells start width ++ fieldAt cells (start + width) width' = fieldAt cells start (width + width') := by
  rw [fieldAt, fieldAt, fieldAt, List.take_add, List.drop_drop]

/-- A field of a part is a field of the whole. -/
theorem fieldAt_within (before part after : List α) {start width : Nat}
    (inside : start + width ≤ part.length) :
    fieldAt (before ++ (part ++ after)) (before.length + start) width = fieldAt part start width := by
  have early : start ≤ part.length := by omega
  have room : width ≤ (part.drop start).length := by
    rw [List.length_drop]
    omega
  rw [fieldAt, fieldAt, List.drop_length_add_append, List.drop_append_of_le_length early,
    List.take_append_of_le_length room]

/-- Taking cells out of a part leaves the rest of the whole. -/
theorem withoutField_within (before part after : List α) {start width : Nat}
    (inside : start + width ≤ part.length) :
    withoutField (before ++ (part ++ after)) (before.length + start) width =
      before ++ (withoutField part start width ++ after) := by
  have early : start ≤ part.length := by omega
  rw [withoutField, withoutField, Nat.add_assoc, List.drop_length_add_append,
    List.drop_append_of_le_length inside, List.take_length_add_append,
    List.take_append_of_le_length early, List.append_assoc, List.append_assoc]

theorem fieldAt_length {cells : List α} {start width : Nat} (inside : start + width ≤ cells.length) :
    (fieldAt cells start width).length = width := by
  rw [fieldAt, List.length_take, List.length_drop]
  omega

theorem fieldAt_take {cells : List α} {start width least : Nat} (fewer : least ≤ width) :
    (fieldAt cells start width).take least = fieldAt cells start least := by
  rw [fieldAt, fieldAt, List.take_take, Nat.min_eq_left fewer]

theorem fieldAt_drop (cells : List α) (start width least : Nat) :
    (fieldAt cells start width).drop least = fieldAt cells (start + least) (width - least) := by
  rw [fieldAt, fieldAt, List.drop_take, List.drop_drop]

/-! ## Cells that are copied over others -/

/-- The cells after a piece was copied over them. -/
def overwrite (cells : List α) (start : Nat) (piece : List α) : List α :=
  cells.take start ++ (piece ++ cells.drop (start + piece.length))

section Overwrite

variable {cells piece : List α} {start start' width : Nat} (inside : start + piece.length ≤ cells.length)

include inside

theorem overwrite_length : (overwrite cells start piece).length = cells.length := by
  rw [overwrite, List.length_append, List.length_append, List.length_take, List.length_drop]
  omega

/-- The piece stands where it was copied to. -/
theorem fieldAt_overwrite : fieldAt (overwrite cells start piece) start piece.length = piece := by
  have before : (cells.take start).length = start := List.length_take_of_le (by omega)
  have middle := fieldAt_middle (cells.take start) piece (cells.drop (start + piece.length))
  rwa [before] at middle

theorem fieldAt_overwrite_before (apart : start' + width ≤ start) :
    fieldAt (overwrite cells start piece) start' width = fieldAt cells start' width := by
  have before : (cells.take start).length = start := List.length_take_of_le (by omega)
  rw [fieldAt, fieldAt, overwrite, List.drop_append_of_le_length (by omega),
    List.take_append_of_le_length (by rw [List.length_drop]; omega), List.drop_take, List.take_take,
    Nat.min_eq_left (by omega)]

theorem fieldAt_overwrite_behind (apart : start + piece.length ≤ start') :
    fieldAt (overwrite cells start piece) start' width = fieldAt cells start' width := by
  have before : (cells.take start).length = start := List.length_take_of_le (by omega)
  have far : start' = (cells.take start).length + (piece.length + (start' - (start + piece.length))) := by omega
  have split : start' = start + piece.length + (start' - (start + piece.length)) := by omega
  rw [fieldAt, fieldAt, overwrite]
  conv => lhs; rw [far, List.drop_length_add_append, List.drop_length_add_append, List.drop_drop, ← split]

end Overwrite

/-- Copy a piece into a buffer.  The access is a fault unless all of it lies
inside. -/
def Outcome.copyInto (buffer : List α) (offset : Nat) (piece : List α) : Outcome (List α) :=
  if offset + piece.length ≤ buffer.length then .ok (overwrite buffer offset piece) else .fault

theorem Outcome.copyInto_of_le {buffer piece : List α} {offset : Nat} (inside : offset + piece.length ≤ buffer.length) :
    Outcome.copyInto buffer offset piece = .ok (overwrite buffer offset piece) := if_pos inside

/-! ## Cells that are read -/

/-- Cells read from a buffer, as many as asked for. -/
def Outcome.sliceExact (buffer : List α) (offset width : Nat) :
    Outcome { cells : List α // cells.length = width } :=
  if inside : offset + width ≤ buffer.length then
    .ok ⟨fieldAt buffer offset width, by
      rw [fieldAt, List.length_take, List.length_drop]
      omega⟩
  else .fault

theorem Outcome.sliceExact_of_le {buffer : List α} {offset width : Nat}
    (inside : offset + width ≤ buffer.length) :
    Exists fun exact => Outcome.sliceExact buffer offset width = .ok exact ∧
      exact.1 = fieldAt buffer offset width := by
  rw [sliceExact, dif_pos inside]
  exact ⟨_, rfl, rfl⟩

theorem Outcome.sliceExact_eq {buffer : List α} {offset width : Nat} {exact : { cells : List α // cells.length = width }}
    (found : Outcome.sliceExact buffer offset width = .ok exact) : exact.1 = fieldAt buffer offset width := by
  rw [sliceExact] at found
  split at found
  · rw [← Outcome.ok.inj found]
  · cases found

/-- Pieces that reach a bound: there is one that takes them over it. -/
theorem exists_crossing {bound : Nat} (positive : 0 < bound) {pieces : List (List α)}
    (enough : bound ≤ pieces.flatten.length) :
    Exists fun before => Exists fun piece => Exists fun after => pieces = before ++ piece :: after ∧
      before.flatten.length < bound ∧ bound ≤ (before.flatten ++ piece).length := by
  induction pieces using List.reverseRecOn with
  | nil => exact absurd enough (Nat.not_le.mpr positive)
  | append_singleton pieces last inductionHypothesis =>
      by_cases early : bound ≤ pieces.flatten.length
      · rcases inductionHypothesis early with ⟨before, piece, after, split, short, reached⟩
        refine ⟨before, piece, after ++ [last], ?_, short, reached⟩
        rw [split, List.append_assoc, List.cons_append]
      · refine ⟨pieces, last, [], rfl, Nat.not_le.mp early, ?_⟩
        rw [List.flatten_append, List.flatten_singleton] at enough
        exact enough

/-! ## Reads within the first cells -/

variable {β γ : Type}

/-- On a buffer of at least `bound` cells the read succeeds, with the same value
whatever stands behind them. -/
def ReadsWithin (bound : Nat) (read : List α -> Outcome β) : Prop :=
  forall buffer more, bound ≤ buffer.length ->
    Exists fun value => read buffer = .ok value ∧ read (buffer ++ more) = .ok value

namespace ReadsWithin

variable {bound : Nat} {read : List α -> Outcome β}

theorem const (value : β) : ReadsWithin bound (fun _ : List α => .ok value) := fun _ _ _ => ⟨value, rfl, rfl⟩

theorem mono {larger : Nat} (within : ReadsWithin bound read) (le : bound ≤ larger) :
    ReadsWithin larger read :=
  fun buffer more enough => within buffer more (Nat.le_trans le enough)

/-- One read after the other; the second may use what the first can find. -/
theorem bind {next : β -> List α -> Outcome γ} (first : ReadsWithin bound read)
    (second : forall value, (Exists fun buffer => read buffer = .ok value) -> ReadsWithin bound (next value)) :
    ReadsWithin bound (fun buffer => read buffer >>= fun value => next value buffer) := by
  intro buffer more enough
  rcases first buffer more enough with ⟨value, here, longer⟩
  simp only [here, longer]
  exact second value ⟨buffer, here⟩ buffer more enough

/-- Behind a part that is skipped. -/
theorem behind (within : ReadsWithin bound read) (skipped : Nat) :
    ReadsWithin (skipped + bound) (fun buffer => read (buffer.drop skipped)) := by
  intro buffer more enough
  have length : (buffer.drop skipped).length = buffer.length - skipped := List.length_drop
  have grown : (buffer ++ more).drop skipped = buffer.drop skipped ++ more :=
    List.drop_append_of_le_length (by omega)
  simp only [grown]
  exact within (buffer.drop skipped) more (by omega)

theorem read_at {index : Nat} (inside : index < bound) :
    ReadsWithin bound (fun buffer : List α => Outcome.read buffer index) := by
  intro buffer more enough
  have here : index < buffer.length := Nat.lt_of_lt_of_le inside enough
  have longer : index < (buffer ++ more).length := by
    rw [List.length_append]
    omega
  have same : (buffer ++ more)[index] = buffer[index] := List.getElem_append_left here
  exact ⟨buffer[index], Outcome.read_of_lt here, (Outcome.read_of_lt longer).trans (congrArg Outcome.ok same)⟩

theorem slice {offset width : Nat} (inside : offset + width ≤ bound) :
    ReadsWithin bound (fun buffer : List α => Outcome.slice buffer offset width) := by
  intro buffer more enough
  have here : offset + width ≤ buffer.length := Nat.le_trans inside enough
  exact ⟨_, Outcome.slice_of_le here, (Outcome.slice_append here).trans (Outcome.slice_of_le here)⟩

theorem sliceExact {offset width : Nat} (inside : offset + width ≤ bound) :
    ReadsWithin bound (fun buffer : List α => Outcome.sliceExact buffer offset width) := by
  intro buffer more enough
  have here : offset + width ≤ buffer.length := Nat.le_trans inside enough
  have longer : offset + width ≤ (buffer ++ more).length := by
    rw [List.length_append]
    omega
  rcases Outcome.sliceExact_of_le here with ⟨exact, found, cells⟩
  rcases Outcome.sliceExact_of_le longer with ⟨exactToo, foundToo, cellsToo⟩
  have field := fieldAt_within [] buffer more here
  rw [List.nil_append, List.length_nil, Nat.zero_add] at field
  have same : exactToo = exact := by
    apply Subtype.ext
    rw [cells, cellsToo, field]
  exact ⟨exact, found, foundToo.trans (congrArg Outcome.ok same)⟩

end ReadsWithin

end Library
end RtmpClient
