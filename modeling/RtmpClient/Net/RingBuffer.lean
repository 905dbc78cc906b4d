import RtmpClient.Library.BoundedQueue
import RtmpClient.Library.Layout
import Mathlib.Algebra.Ring.Nat

namespace RtmpClient
namespace Net

open Library

/-!
# The ring buffer (`net/DataBuf.cc`, `DataRingBuf`)

Two positions in an array of `length` bytes.  The stored bytes begin at the read
position and end in front of the write position, past the end of the array if
need be.  Both positions are the same only when the array is full: an empty
buffer has the read position at the end and the write position at the front.
-/

/-- `DataRingBuf`. -/
structure DataRingBuf where
  buf : List UInt8
  rPos : Nat
  wPos : Nat
  length : Nat

def maxDataLen : Nat := 65535

def errorNotHaveSpace : Int := -2
def errorNotHaveData : Int := -1

/-- `new char[length]`: nothing is known of what stands there. -/
def newChars (fresh : Nat -> UInt8) (length : Nat) : List UInt8 := (List.range length).map fresh

@[simp] theorem newChars_length (fresh : Nat -> UInt8) (length : Nat) : (newChars fresh length).length = length := by
  rw [newChars, List.length_map, List.length_range]

namespace DataRingBuf

def new (fresh : Nat -> UInt8) (size : Nat) : DataRingBuf :=
  let length := if size = 0 then maxDataLen else size
  { buf := newChars fresh length, rPos := length, wPos := 0, length }

/-- `writeData`. -/
def writeData (ring : DataRingBuf) (data : List UInt8) : Outcome (Int × DataRingBuf) :=
  let len := data.length
  if ring.wPos > ring.rPos then
    let left := ring.length - (ring.wPos - ring.rPos)
    if len > left then .ok (errorNotHaveSpace, ring)
    else if ring.length - ring.wPos ≥ len then do
      let buf ← Outcome.copyInto ring.buf ring.wPos data
      return (len, { ring with buf, wPos := ring.wPos + len })
    else do
      let l := ring.length - ring.wPos
      let buf ← Outcome.copyInto ring.buf ring.wPos (data.take l)
      let buf ← Outcome.copyInto buf 0 (data.drop l)
      return (len, { ring with buf, wPos := len - l })
  else if ring.wPos < ring.rPos then
    let left := ring.rPos - ring.wPos
    if len > left then .ok (errorNotHaveSpace, ring)
    else do
      let buf ← Outcome.copyInto ring.buf ring.wPos data
      return (len, { ring with buf, wPos := ring.wPos + len })
  else .ok (errorNotHaveSpace, ring)

/-- The end of `readData`: a buffer whose positions meet is empty. -/
def rewind (ring : DataRingBuf) : DataRingBuf :=
  if ring.rPos = ring.wPos then { ring with rPos := ring.length, wPos := 0 } else ring

/-- `readData`, with the bytes that it copies to its caller. -/
def readData (ring : DataRingBuf) (size : Nat) : Outcome (Int × List UInt8 × DataRingBuf) :=
  if ring.wPos > ring.rPos then
    let used := ring.wPos - ring.rPos
    let len := if used ≥ size then size else used
    do
      let data ← Outcome.slice ring.buf ring.rPos len
      return (len, data, rewind { ring with rPos := ring.rPos + len })
  else if ring.wPos < ring.rPos then
    let used := ring.length - (ring.rPos - ring.wPos)
    let len := if used ≥ size then size else used
    if len ≤ ring.length - ring.rPos then do
      let data ← Outcome.slice ring.buf ring.rPos len
      return (len, data, rewind { ring with rPos := ring.rPos + len })
    else do
      let t := ring.length - ring.rPos
      let data ← Outcome.slice ring.buf ring.rPos t
      let more ← Outcome.slice ring.buf 0 (len - t)
      return (len, data ++ more, rewind { ring with rPos := len - t })
  else .ok (errorNotHaveData, [], ring)

def getUsed (ring : DataRingBuf) : Nat :=
  if ring.wPos > ring.rPos then ring.wPos - ring.rPos
  else if ring.wPos < ring.rPos then ring.length - (ring.rPos - ring.wPos)
  else 0

def isFull (ring : DataRingBuf) : Bool := ring.rPos == ring.wPos

def isEmpty (ring : DataRingBuf) : Bool := ring.rPos == ring.length && ring.wPos == 0

/-- `clear`. -/
def clear (ring : DataRingBuf) : DataRingBuf := { ring with rPos := ring.length, wPos := 0 }

/-- What `addRingBufSpace` takes out of the buffer before it replaces the array. -/
def takeUsed (ring : DataRingBuf) : Outcome (Option (List UInt8) × DataRingBuf) :=
  if ring.getUsed > 0 then do
    let (_, tmp, ring) ← ring.readData ring.getUsed
    return (some tmp, ring)
  else return (none, ring)

/-- `addRingBufSpace`.  The sum of two lengths past the largest `int` is
undefined. -/
def addRingBufSpace (fresh : Nat -> UInt8) (ring : DataRingBuf) (addSize : Nat) : Outcome (Int × DataRingBuf) := do
  let (tmp, ring) ← ring.takeUsed
  if 2 ^ 31 ≤ ring.length + addSize then .fault
  else
    let length := ring.length + addSize
    let ring : DataRingBuf := { buf := newChars fresh length, rPos := length, wPos := 0, length }
    match tmp with
    | none => return (0, ring)
    | some tmp => do
        let (_, ring) ← ring.writeData tmp
        return (0, ring)

/-! ## Calls -/

/-- What a call returns, and the bytes that it copies out. -/
def answer (fresh : Nat -> UInt8) (ring : DataRingBuf) : QueueCall UInt8 -> Option ((Int × List UInt8) × DataRingBuf)
  | .write cells =>
      match ring.writeData cells with
      | .ok (ret, ring) => some ((ret, []), ring)
      | _ => none
  | .read size =>
      match ring.readData size with
      | .ok (ret, data, ring) => some ((ret, data), ring)
      | _ => none
  | .grow more =>
      match ring.addRingBufSpace fresh more with
      | .ok (ret, ring) => some ((ret, []), ring)
      | _ => none
  | .clear => some ((0, []), ring.clear)

/-- The answers of a queue as the buffer codes them. -/
def code : QueueAnswer UInt8 -> Int × List UInt8
  | .accepted count => (count, [])
  | .noRoom => (errorNotHaveSpace, [])
  | .cells cells => (cells.length, cells)
  | .nothing => (errorNotHaveData, [])
  | .done => (0, [])

/-- What `getUsed`, `isFull` and `isEmpty` return fits the queue. -/
structure Shows (ring : DataRingBuf) (queue : BoundedQueue UInt8) : Prop where
  used : ring.getUsed = queue.stored.length
  full : ring.isFull = true ↔ queue.IsFull
  empty : ring.isEmpty = true ↔ queue.IsEmpty

/-- The calls that the buffer answers as a queue does: nothing is read from an
empty one, and no array is longer than the largest `int`. -/
def Answerable (queue : BoundedQueue UInt8) : QueueCall UInt8 -> Prop
  | .write _ => True
  | .read _ => ¬ queue.IsEmpty
  | .grow more => queue.capacity + more < 2 ^ 31
  | .clear => True

/-! ## Where the bytes are -/

/-- The stored bytes. -/
def contents (ring : DataRingBuf) : List UInt8 :=
  if ring.wPos > ring.rPos then fieldAt ring.buf ring.rPos (ring.wPos - ring.rPos)
  else fieldAt ring.buf ring.rPos (ring.length - ring.rPos) ++ fieldAt ring.buf 0 ring.wPos

/-- The buffer holds what the queue does.  The positions lie inside the array,
and the read position never at its front. -/
structure Represents (ring : DataRingBuf) (queue : BoundedQueue UInt8) : Prop where
  allocated : ring.buf.length = ring.length
  started : 1 ≤ ring.rPos
  rInside : ring.rPos ≤ ring.length
  wInside : ring.wPos ≤ ring.length
  small : ring.length < 2 ^ 31
  capacity : queue.capacity = ring.length
  stored : queue.stored = ring.contents

theorem contents_ahead {ring : DataRingBuf} (ahead : ring.wPos > ring.rPos) :
    ring.contents = fieldAt ring.buf ring.rPos (ring.wPos - ring.rPos) := if_pos ahead

theorem contents_around {ring : DataRingBuf} (around : ring.wPos ≤ ring.rPos) :
    ring.contents = fieldAt ring.buf ring.rPos (ring.length - ring.rPos) ++ fieldAt ring.buf 0 ring.wPos :=
  if_neg (Nat.not_lt.mpr around)

/-- An array that was just allocated. -/
theorem represents_empty {buf : List UInt8} {length : Nat} (allocated : buf.length = length) (positive : 1 ≤ length)
    (small : length < 2 ^ 31) :
    Represents { buf, rPos := length, wPos := 0, length } (BoundedQueue.empty length) := by
  refine ⟨allocated, positive, Nat.le_refl length, Nat.zero_le length, small, rfl, ?_⟩
  rw [contents_around (Nat.zero_le length), Nat.sub_self]
  rfl

theorem represents_new (fresh : Nat -> UInt8) {size : Nat} (positive : 1 ≤ size) (small : size < 2 ^ 31) :
    Represents (new fresh size) (BoundedQueue.empty size) := by
  have sized : new fresh size = { buf := newChars fresh size, rPos := size, wPos := 0, length := size } := by
    rw [new, if_neg (Nat.ne_of_gt positive)]
  rw [sized]
  exact represents_empty (newChars_length fresh size) positive small

namespace Represents

variable {ring : DataRingBuf} {queue : BoundedQueue UInt8}

theorem length_ahead (represents : Represents ring queue) (ahead : ring.wPos > ring.rPos) :
    queue.stored.length = ring.wPos - ring.rPos := by
  have allocated := represents.allocated
  have inside := represents.wInside
  rw [represents.stored, contents_ahead ahead, fieldAt_length (by omega)]

theorem length_around (represents : Represents ring queue) (around : ring.wPos ≤ ring.rPos) :
    queue.stored.length = ring.length - ring.rPos + ring.wPos := by
  have allocated := represents.allocated
  have inside := represents.rInside
  rw [represents.stored, contents_around around, List.length_append, fieldAt_length (by omega), fieldAt_length (by omega)]

/-- The queue is full exactly when the positions are the same. -/
theorem full_iff (represents : Represents ring queue) : queue.IsFull ↔ ring.rPos = ring.wPos := by
  have started := represents.started
  have inside := represents.rInside
  have inside' := represents.wInside
  rw [BoundedQueue.IsFull, represents.capacity]
  by_cases ahead : ring.wPos > ring.rPos
  · rw [represents.length_ahead ahead]
    omega
  · rw [represents.length_around (Nat.not_lt.mp ahead)]
    omega

theorem empty_iff (represents : Represents ring queue) :
    queue.IsEmpty ↔ ring.rPos = ring.length ∧ ring.wPos = 0 := by
  have inside := represents.rInside
  have inside' := represents.wInside
  rw [BoundedQueue.IsEmpty, ← List.length_eq_zero_iff]
  by_cases ahead : ring.wPos > ring.rPos
  · rw [represents.length_ahead ahead]
    omega
  · rw [represents.length_around (Nat.not_lt.mp ahead)]
    omega

/-- The three functions that change nothing are right exactly when the buffer is
not full. -/
theorem shows_iff (represents : Represents ring queue) : Shows ring queue ↔ ¬ queue.IsFull := by
  have started := represents.started
  have inside := represents.rInside
  have full : ring.isFull = true ↔ queue.IsFull := by
    rw [isFull, beq_iff_eq, represents.full_iff]
  have empty : ring.isEmpty = true ↔ queue.IsEmpty := by
    rw [isEmpty, Bool.and_eq_true, beq_iff_eq, beq_iff_eq, represents.empty_iff]
  have used : ring.getUsed = queue.stored.length ↔ ¬ queue.IsFull := by
    rw [getUsed, represents.full_iff]
    by_cases ahead : ring.wPos > ring.rPos
    · rw [if_pos ahead, represents.length_ahead ahead]
      omega
    · rw [if_neg ahead, represents.length_around (Nat.not_lt.mp ahead)]
      split <;> omega
  exact ⟨fun shows => used.mp shows.used, fun notFull => ⟨used.mpr notFull, full, empty⟩⟩

/-! ## Writing -/

/-- What a write that fits leaves. -/
structure Wrote (ring : DataRingBuf) (data : List UInt8) (after : DataRingBuf) : Prop where
  call : ring.writeData data = .ok ((data.length : Int), after)
  length : after.length = ring.length
  rPos : after.rPos = ring.rPos
  allocated : after.buf.length = after.length
  wInside : after.wPos ≤ after.length
  contents : after.contents = ring.contents ++ data

theorem wrote_straight (represents : Represents ring queue) (ahead : ring.wPos > ring.rPos) {data : List UInt8}
    (room : queue.stored.length + data.length ≤ queue.capacity) (straight : data.length ≤ ring.length - ring.wPos) :
    Exists fun after => Wrote ring data after := by
  have allocated := represents.allocated
  have inside := represents.wInside
  rw [represents.length_ahead ahead, represents.capacity] at room
  have fits : ring.wPos + data.length ≤ ring.buf.length := by omega
  refine ⟨{ ring with buf := overwrite ring.buf ring.wPos data, wPos := ring.wPos + data.length }, ?_, rfl, rfl, ?_, ?_, ?_⟩
  · simp only [writeData]
    rw [if_pos ahead, if_neg (by omega), if_pos straight, Outcome.copyInto_of_le fits]
    rfl
  · exact (overwrite_length fits).trans allocated
  · show ring.wPos + data.length ≤ ring.length
    omega
  · have width : ring.wPos + data.length - ring.rPos = (ring.wPos - ring.rPos) + data.length := by omega
    have joint : ring.rPos + (ring.wPos - ring.rPos) = ring.wPos := by omega
    rw [contents_ahead ahead, contents_ahead (show ring.wPos + data.length > ring.rPos by omega)]
    show fieldAt (overwrite ring.buf ring.wPos data) ring.rPos (ring.wPos + data.length - ring.rPos) = _
    rw [width, ← fieldAt_append, joint, fieldAt_overwrite_before fits (Nat.le_of_eq joint), fieldAt_overwrite fits]

theorem wrote_wrapped (represents : Represents ring queue) (ahead : ring.wPos > ring.rPos) {data : List UInt8}
    (room : queue.stored.length + data.length ≤ queue.capacity) (wrapped : ring.length - ring.wPos < data.length) :
    Exists fun after => Wrote ring data after := by
  have allocated := represents.allocated
  have inside := represents.wInside
  rw [represents.length_ahead ahead, represents.capacity] at room
  have first : (data.take (ring.length - ring.wPos)).length = ring.length - ring.wPos := List.length_take_of_le (by omega)
  have second : (data.drop (ring.length - ring.wPos)).length = data.length - (ring.length - ring.wPos) := List.length_drop
  have fits : ring.wPos + (data.take (ring.length - ring.wPos)).length ≤ ring.buf.length := by omega
  have size := overwrite_length fits
  have fits' : 0 + (data.drop (ring.length - ring.wPos)).length ≤
      (overwrite ring.buf ring.wPos (data.take (ring.length - ring.wPos))).length := by omega
  refine ⟨{ ring with
    buf := overwrite (overwrite ring.buf ring.wPos (data.take (ring.length - ring.wPos))) 0
      (data.drop (ring.length - ring.wPos))
    wPos := data.length - (ring.length - ring.wPos) }, ?_, rfl, rfl, ?_, ?_, ?_⟩
  · simp only [writeData]
    rw [if_pos ahead, if_neg (by omega), if_neg (by omega), Outcome.copyInto_of_le fits, Outcome.ok_bind_do,
      Outcome.copyInto_of_le fits']
    rfl
  · exact (overwrite_length fits').trans (size.trans allocated)
  · show data.length - (ring.length - ring.wPos) ≤ ring.length
    omega
  · have behind : data.length - (ring.length - ring.wPos) ≤ ring.rPos := by omega
    have width : ring.length - ring.rPos =
        (ring.wPos - ring.rPos) + (data.take (ring.length - ring.wPos)).length := by omega
    have joint : ring.rPos + (ring.wPos - ring.rPos) = ring.wPos := by omega
    have front := fieldAt_overwrite fits'
    rw [second] at front
    rw [contents_ahead ahead, contents_around behind]
    show fieldAt (overwrite (overwrite ring.buf ring.wPos (data.take (ring.length - ring.wPos))) 0
        (data.drop (ring.length - ring.wPos))) ring.rPos (ring.length - ring.rPos) ++ fieldAt _ 0 _ = _
    rw [front, fieldAt_overwrite_behind fits' (by omega), width, ← fieldAt_append, joint,
      fieldAt_overwrite_before fits (Nat.le_of_eq joint), fieldAt_overwrite fits, List.append_assoc, List.take_append_drop]

theorem wrote_around (represents : Represents ring queue) (around : ring.wPos < ring.rPos) {data : List UInt8}
    (room : queue.stored.length + data.length ≤ queue.capacity) : Exists fun after => Wrote ring data after := by
  have allocated := represents.allocated
  have inside := represents.rInside
  rw [represents.length_around (Nat.le_of_lt around), represents.capacity] at room
  have fits : ring.wPos + data.length ≤ ring.buf.length := by omega
  refine ⟨{ ring with buf := overwrite ring.buf ring.wPos data, wPos := ring.wPos + data.length }, ?_, rfl, rfl, ?_, ?_, ?_⟩
  · simp only [writeData]
    rw [if_neg (by omega), if_pos around, if_neg (by omega), Outcome.copyInto_of_le fits]
    rfl
  · exact (overwrite_length fits).trans allocated
  · show ring.wPos + data.length ≤ ring.length
    omega
  · have behind : ring.wPos + data.length ≤ ring.rPos := by omega
    rw [contents_around (Nat.le_of_lt around), contents_around behind]
    show fieldAt (overwrite ring.buf ring.wPos data) ring.rPos (ring.length - ring.rPos) ++
        fieldAt (overwrite ring.buf ring.wPos data) 0 (ring.wPos + data.length) = _
    have piece : fieldAt (overwrite ring.buf ring.wPos data) (0 + ring.wPos) data.length = data := by
      rw [Nat.zero_add]
      exact fieldAt_overwrite fits
    rw [fieldAt_overwrite_behind fits behind, ← fieldAt_append, piece,
      fieldAt_overwrite_before fits (Nat.le_of_eq (Nat.zero_add ring.wPos)), List.append_assoc]

/-- A buffer that is not full takes what fits. -/
theorem wrote (represents : Represents ring queue) (notFull : ¬ queue.IsFull) {data : List UInt8}
    (room : queue.stored.length + data.length ≤ queue.capacity) : Exists fun after => Wrote ring data after := by
  rw [represents.full_iff] at notFull
  by_cases ahead : ring.wPos > ring.rPos
  · by_cases straight : data.length ≤ ring.length - ring.wPos
    · exact represents.wrote_straight ahead room straight
    · exact represents.wrote_wrapped ahead room (Nat.not_le.mp straight)
  · exact represents.wrote_around (by omega) room

theorem writeData_refused (represents : Represents ring queue) {data : List UInt8}
    (full : queue.capacity < queue.stored.length + data.length) :
    ring.writeData data = .ok (errorNotHaveSpace, ring) := by
  have inside := represents.rInside
  have inside' := represents.wInside
  rw [represents.capacity] at full
  simp only [writeData]
  by_cases ahead : ring.wPos > ring.rPos
  · rw [represents.length_ahead ahead] at full
    rw [if_pos ahead, if_pos (by omega)]
  · rw [represents.length_around (Nat.not_lt.mp ahead)] at full
    rw [if_neg ahead]
    split
    · rw [if_pos (by omega)]
    · rfl

theorem of_wrote (represents : Represents ring queue) {data : List UInt8} {after : DataRingBuf}
    (wrote : Wrote ring data after) {queue' : BoundedQueue UInt8} (capacity : queue'.capacity = queue.capacity)
    (stored : queue'.stored = queue.stored ++ data) : Represents after queue' where
  allocated := wrote.allocated
  started := wrote.rPos.symm ▸ represents.started
  rInside := by
    rw [wrote.rPos, wrote.length]
    exact represents.rInside
  wInside := wrote.wInside
  small := wrote.length.symm ▸ represents.small
  capacity := by rw [capacity, wrote.length, represents.capacity]
  stored := by rw [stored, wrote.contents, represents.stored]

/-! ## Reading -/

/-- What a read leaves when it takes the oldest `len` bytes. -/
structure Took (ring : DataRingBuf) (size : Nat) (data : List UInt8) (after : DataRingBuf) : Prop where
  call : ring.readData size = .ok ((data.length : Int), data, after)
  length : after.length = ring.length
  buf : after.buf = ring.buf
  started : 1 ≤ after.rPos
  rInside : after.rPos ≤ after.length
  wInside : after.wPos ≤ after.length
  taken : data = ring.contents.take size
  contents : after.contents = ring.contents.drop size

/-- The end of a read: the read position has moved past the bytes that were
copied, and a buffer whose positions meet has nothing left. -/
theorem Took.of_moved {ring : DataRingBuf} {size position len : Nat} {data : List UInt8}
    (call : ring.readData size = .ok ((data.length : Int), data, rewind { ring with rPos := position }))
    (started : 1 ≤ position) (rInside : position ≤ ring.length) (wInside : ring.wPos ≤ ring.length)
    (most : len = min size ring.contents.length) (taken : data = ring.contents.take len)
    (left : position ≠ ring.wPos -> DataRingBuf.contents { ring with rPos := position } = ring.contents.drop len)
    (met : position = ring.wPos -> ring.contents.length ≤ len) :
    Took ring size data (rewind { ring with rPos := position }) := by
  have all : data = ring.contents.take size := by rw [taken, most, ← List.take_eq_take_min]
  have rest : ring.contents.drop size = ring.contents.drop len := by rw [most, ← List.drop_eq_drop_min]
  by_cases same : position = ring.wPos
  · have nothing : ring.contents.drop size = [] := by rw [rest, List.drop_eq_nil_of_le (met same)]
    rw [rewind, if_pos same] at call ⊢
    refine ⟨call, rfl, rfl, Nat.le_trans started rInside, Nat.le_refl _, Nat.zero_le _, all, ?_⟩
    rw [nothing, contents_around (Nat.zero_le _)]
    show fieldAt ring.buf ring.length (ring.length - ring.length) ++ fieldAt ring.buf 0 0 = []
    rw [Nat.sub_self]
    rfl
  · rw [rewind, if_neg same] at call ⊢
    exact ⟨call, rfl, rfl, started, rInside, wInside, all, (left same).trans rest.symm⟩

theorem took_ahead (represents : Represents ring queue) (ahead : ring.wPos > ring.rPos) (size : Nat) :
    Exists fun data => Exists fun after => Took ring size data after := by
  have allocated := represents.allocated
  have started := represents.started
  have inside := represents.wInside
  have all : ring.contents = fieldAt ring.buf ring.rPos (ring.wPos - ring.rPos) := contents_ahead ahead
  have used : ring.contents.length = ring.wPos - ring.rPos := by rw [all, fieldAt_length (by omega)]
  -- `len` of the source
  generalize lenIs : (if ring.wPos - ring.rPos ≥ size then size else ring.wPos - ring.rPos) = len
  have most : len = min size (ring.wPos - ring.rPos) := by
    rw [← lenIs]
    split <;> omega
  have fits : ring.rPos + len ≤ ring.buf.length := by omega
  refine ⟨fieldAt ring.buf ring.rPos len, _,
    @Took.of_moved ring size (ring.rPos + len) len _ ?_ (Nat.le_trans started (Nat.le_add_right _ len)) (by omega) inside
      (by omega) ?_ (fun apart => ?_) (by omega)⟩
  · simp only [readData]
    rw [if_pos ahead, lenIs, Outcome.slice_of_le fits, fieldAt_length fits]
    rfl
  · rw [all, fieldAt_take (by omega)]
  · rw [@contents_ahead { ring with rPos := ring.rPos + len } (show ring.wPos > ring.rPos + len by omega), all,
      fieldAt_drop, Nat.sub_sub]

theorem took_around (represents : Represents ring queue) (around : ring.wPos < ring.rPos) (size : Nat) :
    Exists fun data => Exists fun after => Took ring size data after := by
  have allocated := represents.allocated
  have started := represents.started
  have inside := represents.rInside
  have all : ring.contents = fieldAt ring.buf ring.rPos (ring.length - ring.rPos) ++ fieldAt ring.buf 0 ring.wPos :=
    contents_around (Nat.le_of_lt around)
  have behind : (fieldAt ring.buf ring.rPos (ring.length - ring.rPos)).length = ring.length - ring.rPos :=
    fieldAt_length (by omega)
  have front : (fieldAt ring.buf 0 ring.wPos).length = ring.wPos := fieldAt_length (by omega)
  have used : ring.contents.length = ring.length - ring.rPos + ring.wPos := by rw [all, List.length_append, behind, front]
  generalize lenIs : (if ring.length - (ring.rPos - ring.wPos) ≥ size then size
    else ring.length - (ring.rPos - ring.wPos)) = len
  have most : len = min size (ring.length - ring.rPos + ring.wPos) := by
    rw [← lenIs]
    split <;> omega
  by_cases straight : len ≤ ring.length - ring.rPos
  · have fits : ring.rPos + len ≤ ring.buf.length := by omega
    refine ⟨fieldAt ring.buf ring.rPos len, _,
      @Took.of_moved ring size (ring.rPos + len) len _ ?_ (Nat.le_trans started (Nat.le_add_right _ len)) (by omega)
        (by omega) (by omega) ?_ (fun apart => ?_) (by omega)⟩
    · simp only [readData]
      rw [if_neg (by omega), if_pos around, lenIs, if_pos straight, Outcome.slice_of_le fits, fieldAt_length fits]
      rfl
    · rw [all, List.take_append_of_le_length (by omega), fieldAt_take straight]
    · rw [@contents_around { ring with rPos := ring.rPos + len } (show ring.wPos ≤ ring.rPos + len by omega), all,
        List.drop_append_of_le_length (by omega),
        fieldAt_drop, Nat.sub_sub]
  · have past : len = (fieldAt ring.buf ring.rPos (ring.length - ring.rPos)).length + (len - (ring.length - ring.rPos)) := by
      omega
    have fits : ring.rPos + (ring.length - ring.rPos) ≤ ring.buf.length := by omega
    have fits' : 0 + (len - (ring.length - ring.rPos)) ≤ ring.buf.length := by omega
    refine ⟨fieldAt ring.buf ring.rPos (ring.length - ring.rPos) ++ fieldAt ring.buf 0 (len - (ring.length - ring.rPos)), _,
      @Took.of_moved ring size (len - (ring.length - ring.rPos)) len _ ?_ (by omega) (by omega) (by omega) (by omega) ?_
        (fun apart => ?_) (by omega)⟩
    · simp only [readData]
      rw [if_neg (by omega), if_pos around, lenIs, if_neg straight, Outcome.slice_of_le fits, Outcome.ok_bind_do,
        Outcome.slice_of_le fits', List.length_append, behind, fieldAt_length fits', Nat.add_sub_cancel' (by omega)]
      rfl
    · rw [all, past, List.take_length_add_append, ← past, fieldAt_take (by omega)]
    · rw [@contents_ahead { ring with rPos := len - (ring.length - ring.rPos) }
        (show ring.wPos > len - (ring.length - ring.rPos) by omega), all, past,
        List.drop_length_add_append, ← past, fieldAt_drop, Nat.zero_add]

/-- A buffer that is not full gives the oldest bytes, as many as there are. -/
theorem took (represents : Represents ring queue) (notFull : ¬ queue.IsFull) (size : Nat) :
    Exists fun data => Exists fun after => Took ring size data after := by
  rw [represents.full_iff] at notFull
  by_cases ahead : ring.wPos > ring.rPos
  · exact represents.took_ahead ahead size
  · exact represents.took_around (by omega) size

theorem of_took (represents : Represents ring queue) {size : Nat} {data : List UInt8} {after : DataRingBuf}
    (took : Took ring size data after) {queue' : BoundedQueue UInt8} (capacity : queue'.capacity = queue.capacity)
    (stored : queue'.stored = queue.stored.drop size) : Represents after queue' where
  allocated := by
    rw [took.buf, took.length]
    exact represents.allocated
  started := took.started
  rInside := took.rInside
  wInside := took.wInside
  small := took.length.symm ▸ represents.small
  capacity := by rw [capacity, took.length, represents.capacity]
  stored := by rw [stored, took.contents, represents.stored]

theorem clear (represents : Represents ring queue) : Represents ring.clear (BoundedQueue.empty queue.capacity) := by
  rw [represents.capacity]
  exact represents_empty represents.allocated (Nat.le_trans represents.started represents.rInside) represents.small

/-! ## Growing -/

/-- Everything is taken out, so that nothing is lost with the array. -/
theorem takeUsed (represents : Represents ring queue) (notFull : ¬ queue.IsFull) : Exists fun tmp => Exists fun after =>
    ring.takeUsed = .ok (tmp, after) ∧ after.length = ring.length ∧ tmp.getD [] = queue.stored := by
  have used := (represents.shows_iff.mpr notFull).used
  rw [DataRingBuf.takeUsed, used]
  by_cases some : queue.stored.length > 0
  · rcases represents.took notFull queue.stored.length with ⟨data, after, took⟩
    rw [if_pos some, took.call]
    refine ⟨_, after, rfl, took.length, ?_⟩
    rw [Option.getD_some, took.taken, ← represents.stored, List.take_length]
  · rw [if_neg some]
    exact ⟨none, ring, rfl, rfl, (List.eq_nil_of_length_eq_zero (by omega)).symm⟩

theorem addRingBufSpace (represents : Represents ring queue) (notFull : ¬ queue.IsFull) (fresh : Nat -> UInt8) {more : Nat}
    (small : queue.capacity + more < 2 ^ 31) : Exists fun after => ring.addRingBufSpace fresh more = .ok (0, after) ∧
      Represents after (queue.step (.grow more)).2 := by
  rcases represents.takeUsed notFull with ⟨tmp, emptied, taken, length, all⟩
  have positive : 1 ≤ ring.length := Nat.le_trans represents.started represents.rInside
  have capacity := represents.capacity
  have fits := queue.fits
  have larger := @represents_empty (newChars fresh (ring.length + more)) (ring.length + more) (newChars_length _ _)
    (by omega) (by omega)
  have grown : (queue.step (.grow more)).2.capacity = ring.length + more := by
    rw [← capacity]
    rfl
  have roomy : ¬ 2 ^ 31 ≤ ring.length + more := by omega
  rw [DataRingBuf.addRingBufSpace, taken]
  simp only [Outcome.ok_bind_do, length, if_neg roomy]
  cases tmp with
  | none =>
      refine ⟨_, rfl, larger.allocated, larger.started, larger.rInside, larger.wInside, larger.small, grown, ?_⟩
      rw [← larger.stored]
      exact all.symm
  | some data =>
      rw [Option.getD_some] at all
      have notFull' : ¬ (BoundedQueue.empty (ring.length + more) : BoundedQueue UInt8).IsFull := by
        intro full
        have none : 0 = ring.length + more := full
        omega
      have room : ([] : List UInt8).length + data.length ≤ ring.length + more := by
        rw [all, List.length_nil]
        omega
      rcases larger.wrote notFull' room with ⟨after, wrote⟩
      refine ⟨after, ?_, larger.of_wrote wrote grown all.symm⟩
      simp only [wrote.call, Outcome.ok_bind_do]
      rfl

theorem addRingBufSpace_overflows (represents : Represents ring queue) (notFull : ¬ queue.IsFull) (fresh : Nat -> UInt8)
    {more : Nat} (large : 2 ^ 31 ≤ queue.capacity + more) : ring.addRingBufSpace fresh more = .fault := by
  rcases represents.takeUsed notFull with ⟨tmp, emptied, taken, length, _⟩
  rw [represents.capacity] at large
  rw [DataRingBuf.addRingBufSpace, taken]
  simp only [Outcome.ok_bind_do, length, if_pos large]

/-! ## Every call -/

/-- What the buffer answers in a state that is not full is what the queue
answers, and it represents the queue behind the call. -/
theorem answered (represents : Represents ring queue) (notFull : ¬ queue.IsFull) (fresh : Nat -> UInt8)
    {call : QueueCall UInt8} (answerable : Answerable queue call) : Exists fun after =>
      ring.answer fresh call = some (code (queue.step call).1, after) ∧ Represents after (queue.step call).2 := by
  cases call with
  | write cells =>
      by_cases room : queue.stored.length + cells.length ≤ queue.capacity
      · rcases represents.wrote notFull room with ⟨after, wrote⟩
        rcases BoundedQueue.step_write room with ⟨answer, capacity, stored⟩
        refine ⟨after, ?_, represents.of_wrote wrote capacity stored⟩
        simp only [DataRingBuf.answer, wrote.call, answer, code]
      · have refused := represents.writeData_refused (Nat.not_le.mp room)
        rw [BoundedQueue.step_write_refused (Nat.not_le.mp room)]
        refine ⟨ring, ?_, represents⟩
        simp only [DataRingBuf.answer, refused, code]
  | read size =>
      rcases represents.took notFull size with ⟨data, after, took⟩
      rcases @BoundedQueue.step_read UInt8 queue size (List.length_pos_iff.mpr answerable) with ⟨answer, capacity, stored⟩
      refine ⟨after, ?_, represents.of_took took capacity stored⟩
      simp only [DataRingBuf.answer, took.call, answer, code, took.taken, represents.stored]
  | grow more =>
      rcases represents.addRingBufSpace notFull fresh answerable with ⟨after, grown, represents'⟩
      refine ⟨after, ?_, represents'⟩
      simp only [DataRingBuf.answer, grown, BoundedQueue.step, code]
  | clear => exact ⟨ring.clear, rfl, represents.clear⟩

/-- No other call is answered so. -/
theorem answerable_of_answered (represents : Represents ring queue) (notFull : ¬ queue.IsFull) (fresh : Nat -> UInt8)
    {call : QueueCall UInt8} {after : DataRingBuf}
    (found : ring.answer fresh call = some (code (queue.step call).1, after)) : Answerable queue call := by
  cases call with
  | write cells => trivial
  | read size =>
      intro empty
      rcases represents.took notFull size with ⟨data, moved, took⟩
      have nothing : (queue.step (.read size)).1 = .nothing := by
        rw [BoundedQueue.step, if_pos (List.length_eq_zero_iff.mpr empty)]
      rw [DataRingBuf.answer, took.call, nothing, Option.some.injEq, Prod.mk.injEq] at found
      have count : (data.length : Int) = -1 := congrArg Prod.fst found.1
      omega
  | grow more =>
      refine Nat.not_le.mp fun large => ?_
      rw [DataRingBuf.answer, represents.addRingBufSpace_overflows notFull fresh large] at found
      cases found
  | clear => trivial

end Represents

/-- The buffer behaves as a bounded queue over a run exactly when the queue is
never exactly full, never read when it is empty, and never grows past the
largest `int`. -/
theorem implements_queue_iff (fresh : Nat -> UInt8) (size : Nat) (positive : 1 ≤ size) (small : size < 2 ^ 31)
    (calls : List (QueueCall UInt8)) :
    Implements (answer fresh) code Shows (new fresh size) (BoundedQueue.empty size) calls ↔
      (BoundedQueue.empty size).Meets (fun queue => ¬ queue.IsFull) Answerable calls := by
  have shown (ring : DataRingBuf) (queue : BoundedQueue UInt8) (represents : Represents ring queue) :
      Shows ring queue ↔ ¬ queue.IsFull := represents.shows_iff
  refine implements_iff (answer fresh) code Shows shown ?_ ?_ (represents_new fresh positive small) calls
  · intro ring queue call represents notFull answerable
    exact represents.answered notFull fresh answerable
  · intro ring queue call after represents notFull found
    exact represents.answerable_of_answered notFull fresh found

/-- Two bytes go through an array of three, around its end. -/
theorem implements_queue_iff_three :
    let calls : List (QueueCall UInt8) := [.write [1, 2], .read 2, .write [3, 4], .grow 2, .read 1]
    Implements (answer fun _ => 0) code Shows (new (fun _ => 0) 3) (BoundedQueue.empty 3) calls ↔
      (BoundedQueue.empty 3).Meets (fun queue => ¬ queue.IsFull) Answerable calls :=
  implements_queue_iff (fun _ => 0) 3 (by decide) (by decide) _

/-- One byte fills an array of one, and the buffer shows none. -/
theorem full_buffer_shows_nothing : ¬ Implements (answer fun _ => 0) code Shows (new (fun _ => 0) 1)
    (BoundedQueue.empty 1) [.write [7]] := by
  rintro ⟨_, after, call, shows⟩
  have full : after = { buf := [7], rPos := 1, wPos := 1, length := 1 } := by
    have same : ({ buf := [7], rPos := 1, wPos := 1, length := 1 } : DataRingBuf) = after :=
      congrArg Prod.snd (Option.some.inj call)
    exact same.symm
  rw [full] at shows
  have used : 0 = 1 := shows.used
  cases used

end DataRingBuf

end Net
end RtmpClient
