import RtmpClient.Library.Runs
import RtmpClient.Library.SharedHeap
import RtmpClient.Media.Timer
import Mathlib.Data.List.Nodup
import Mathlib.Data.List.Infix

namespace RtmpClient
namespace Media

open Library Rtmp

/-!
# The media queue between its threads (`rtmpclient.cc`, `av_codec.cc`)

The threads of the two devices encode, queue copies of their packets and free
their own.  The loop's timer empties the queue.  A `MediaPacketShareData` is
known by the number of the `MediaPacketData` that it points at.  A step is a
section under `data_mutex`, or one access to a `shareCnt` outside of it.  The
destructor of a share makes two of these: the decrement, and the test behind it.
-/

/-! ## The state -/

inductive Device where
  | video
  | audio
  deriving DecidableEq, Repr

def Device.other : Device -> Device
  | video => audio
  | audio => video

/-- Where the thread of a device is in `YuvDataIsAvailable` or
`RecordDataIsAvailable`.  `iter` is what the current loop has still to visit. -/
inductive DeviceCall where
  | idle
  /-- In the loop, in front of `data->copy()`. -/
  | copying (outpkts iter : List Nat)
  /-- In front of the push of `copy`. -/
  | pushing (copy : Nat) (outpkts iter : List Nat)
  /-- In `freePackets`, in front of `delete`. -/
  | freeing (iter : List Nat)
  /-- Behind `shareCnt--`, in front of the test of `data`. -/
  | testing (data : Nat) (iter : List Nat)
  deriving DecidableEq, Repr

namespace DeviceCall

/-- The shares that the call holds. -/
def own : DeviceCall -> List Nat
  | idle => []
  | copying outpkts _ => outpkts
  | pushing copy outpkts _ => copy :: outpkts
  | freeing iter => iter
  | testing _ iter => iter

/-- What it has decremented and not yet tested. -/
def pending : DeviceCall -> List Nat
  | testing data _ => [data]
  | _ => []

/-- The packets of the call that are not freed yet. -/
def outstanding : DeviceCall -> List Nat
  | idle => []
  | copying outpkts _ => outpkts
  | pushing _ outpkts _ => outpkts
  | freeing iter => iter
  | testing data iter => data :: iter

/-- Those whose copy has still to be queued. -/
def unqueued : DeviceCall -> List Nat
  | copying _ iter => iter
  | pushing copy _ iter => copy :: iter
  | _ => []

/-- The loop of a call is at the end of its packets. -/
def Looping : DeviceCall -> Prop
  | copying outpkts iter => iter <:+ outpkts
  | pushing copy outpkts iter => copy :: iter <:+ outpkts
  | _ => True

variable (call : DeviceCall) {id : Nat}

theorem outstanding_cases (member : id ∈ call.outstanding) : id ∈ call.own ∨ id ∈ call.pending := by
  cases call with
  | idle => exact .inl member
  | copying outpkts iter => exact .inl member
  | pushing copy outpkts iter => exact .inl (List.mem_cons_of_mem copy member)
  | freeing iter => exact .inl member
  | testing data iter =>
      rcases List.mem_cons.mp member with here | behind
      · exact .inr (List.mem_singleton.mpr here)
      · exact .inl behind

theorem outstanding_of_pending (member : id ∈ call.pending) : id ∈ call.outstanding := by
  cases call with
  | testing data iter =>
      rw [List.mem_singleton.mp member]
      exact List.mem_cons_self
  | _ => cases member

variable {call}

theorem outstanding_of_unqueued (looping : call.Looping) (member : id ∈ call.unqueued) : id ∈ call.outstanding := by
  cases call with
  | copying outpkts iter => exact looping.subset member
  | pushing copy outpkts iter => exact looping.subset member
  | _ => cases member

end DeviceCall

/-- The publish client with its devices.  `queued` and `sent` record what was
pushed to `datalist`, and whose media data was handed to `sendRtmpPacket`. -/
structure MediaQueue where
  heap : SharedHeap (MediaData × Int)
  timestamps : Timestamps
  datalist : List Nat
  call : Device -> DeviceCall
  recording : Device -> Bool
  destroyed : Bool
  queued : List Nat
  sent : List Nat

namespace MediaQueue

/-- After `sendMetaData` has started the devices. -/
def new (audio : Bool) : MediaQueue where
  heap := .new
  timestamps := .new
  datalist := []
  call := fun _ => .idle
  recording := fun
    | .video => true
    | .audio => audio
  destroyed := false
  queued := []
  sent := []

/-- Every live `MediaPacketShareData`. -/
def shares (queue : MediaQueue) : List Nat :=
  (queue.call .video).own ++ ((queue.call .audio).own ++ queue.datalist)

/-- Every decrement whose test is still to come. -/
def pending (queue : MediaQueue) : List Nat := (queue.call .video).pending ++ (queue.call .audio).pending

def setCall (queue : MediaQueue) (device : Device) (call : DeviceCall) : MediaQueue :=
  { queue with call := fun other => if other = device then call else queue.call other }

/-! ## The steps -/

/-- `encode`, which puts a new packet into `outpkts` for each element. -/
def encode (queue : MediaQueue) (device : Device) (media : List (MediaData × Int)) : Option MediaQueue :=
  if queue.recording device ∧ queue.call device = .idle then
    let outpkts := List.range' queue.heap.cells.length media.length
    some ({ queue with heap := queue.heap.createAll media }.setCall device
      (if outpkts = [] then .idle else .copying outpkts outpkts))
  else none

/-- The next step of a call that is under way. -/
def advance (queue : MediaQueue) (device : Device) : Option MediaQueue :=
  match queue.call device with
  | .idle => none
  | .copying outpkts (data :: iter) =>
      some ({ queue with heap := queue.heap.retain data }.setCall device (.pushing data outpkts iter))
  | .copying outpkts [] => some (queue.setCall device (.freeing outpkts))
  | .pushing copy outpkts iter =>
      some ({ queue with datalist := queue.datalist ++ [copy], queued := queue.queued ++ [copy] }.setCall device
        (.copying outpkts iter))
  | .freeing (data :: iter) =>
      some ({ queue with heap := queue.heap.release data }.setCall device (.testing data iter))
  | .freeing [] => some (queue.setCall device .idle)
  | .testing data iter =>
      some ({ queue with heap := queue.heap.reclaim data }.setCall device (.freeing iter))

/-- The packets of the front of the queue are sent. -/
def send (queue : MediaQueue) (share : Nat) : MediaQueue :=
  match queue.heap.values[share]? with
  | none => { queue with heap := queue.heap.use share }
  | some (media, type) =>
      let (packets, timestamps) := timerPackets queue.timestamps media type
      { queue with
        heap := queue.heap.use share
        timestamps
        sent := queue.sent ++ (packets.filter carriesMedia).map fun _ => share }

/-- `pop_front` and `delete share`. -/
def popFront (queue : MediaQueue) (share : Nat) (datalist : List Nat) : MediaQueue :=
  { queue with datalist, heap := queue.heap.drop share }

/-- The loop of `onTimer`. -/
def onTimerLoop : List Nat -> MediaQueue -> MediaQueue
  | [], queue => queue
  | share :: datalist, queue => onTimerLoop datalist ((queue.send share).popFront share datalist)

/-- `onTimer`, all of it under `data_mutex`. -/
def onTimer (queue : MediaQueue) : MediaQueue := onTimerLoop queue.datalist queue

/-- `StopRecord` waits for the mutex that the device holds during a call. -/
def stopRecord (queue : MediaQueue) (device : Device) : Option MediaQueue :=
  if queue.call device = .idle then
    some { queue with recording := fun other => if other = device then false else queue.recording other }
  else none

/-- `~RtmpPublishClient`.  It is only reached through `onPublishStop`, which has
stopped the devices. -/
def destroy (queue : MediaQueue) : Option MediaQueue :=
  if queue.recording .video ∨ queue.recording .audio then none
  else some { queue with heap := queue.heap.dropAll queue.datalist, datalist := [], destroyed := true }

/-- What the threads do. -/
inductive Input where
  | yuvDataIsAvailable (encoded : List VideoMediaPacketData)
  | recordDataIsAvailable (encoded : List AudioMediaPacketData)
  | advance (device : Device)
  | onTimer
  | stopRecord (device : Device)
  | destroy

def step (queue : MediaQueue) (input : Input) : Option MediaQueue :=
  if queue.destroyed then none
  else
    match input with
    | .yuvDataIsAvailable encoded => queue.encode .video (encoded.map fun data => (.video data, 1))
    | .recordDataIsAvailable encoded => queue.encode .audio (encoded.map fun data => (.audio data, 0))
    | .advance device => queue.advance device
    | .onTimer => some queue.onTimer
    | .stopRecord device => queue.stopRecord device
    | .destroy => queue.destroy

/-! ## What should hold -/

/-- Nothing is lost or sent twice, and the counts delete each packet once,
behind everything that is done with it. -/
structure Sound (queue : MediaQueue) : Prop where
  once : queue.sent.Nodup
  order : queue.sent <+: queue.queued
  kept : queue.destroyed = false -> queue.queued = queue.sent ++ queue.datalist
  counts : forall id cell, queue.heap.cells[id]? = some cell -> cell.deleted = 0 ->
    cell.count = (queue.shares.count id : Int)
  unused : queue.heap.misused = false
  alive : forall id, id ∈ queue.shares -> queue.heap.alive id = true
  deletedOnce : forall cell, cell ∈ queue.heap.cells -> cell.deleted ≤ 1
  released : forall id cell, queue.heap.cells[id]? = some cell -> id ∉ queue.shares ++ queue.pending ->
    cell.deleted = 1
  finished : queue.destroyed = true -> forall cell, cell ∈ queue.heap.cells -> cell.deleted = 1

/-- The timer does not run while a device is between the decrement and the test
of a packet that is queued. -/
def Guard (queue : MediaQueue) (input : Input) : Prop :=
  match input with
  | .onTimer => forall id, id ∈ queue.datalist -> id ∉ queue.pending
  | _ => True

instance (queue : MediaQueue) (input : Input) : Decidable (queue.Guard input) :=
  match input with
  | .onTimer => inferInstanceAs (Decidable (forall id, id ∈ queue.datalist -> id ∉ queue.pending))
  | .yuvDataIsAvailable _ => isTrue trivial
  | .recordDataIsAvailable _ => isTrue trivial
  | .advance _ => isTrue trivial
  | .stopRecord _ => isTrue trivial
  | .destroy => isTrue trivial

/-! ## The invariant -/

/-- What the queue and the calls of the two devices, in either order, have to
do with each other. -/
structure Consistent (queue : MediaQueue) (mine theirs : DeviceCall) : Prop where
  counted : queue.heap.Counted (mine.own ++ (theirs.own ++ queue.datalist)) (mine.pending ++ theirs.pending)
  encoded : forall value, value ∈ queue.heap.values -> Encoded value.1 value.2
  order : queue.sent <+: queue.queued
  kept : queue.destroyed = false -> queue.queued = queue.sent ++ queue.datalist
  known : forall id, id ∈ queue.queued -> id < queue.heap.cells.length
  distinct : (queue.queued ++ (mine.unqueued ++ theirs.unqueued)).Nodup
  apart : (mine.outstanding ++ theirs.outstanding).Nodup
  looping : mine.Looping ∧ theirs.Looping

namespace Consistent

variable {queue : MediaQueue} {mine theirs : DeviceCall}

theorem swap (consistent : queue.Consistent mine theirs) : queue.Consistent theirs mine where
  counted := by
    apply consistent.counted.perm
    · rw [← List.append_assoc, ← List.append_assoc]
      exact List.perm_append_comm.append_right queue.datalist
    · exact List.perm_append_comm
  encoded := consistent.encoded
  order := consistent.order
  kept := consistent.kept
  known := consistent.known
  distinct := (List.perm_append_comm.append_left queue.queued).nodup_iff.mp consistent.distinct
  apart := List.perm_append_comm.nodup_iff.mp consistent.apart
  looping := consistent.looping.symm

theorem lt_of_outstanding (consistent : queue.Consistent mine theirs) {id : Nat} (member : id ∈ mine.outstanding) :
    id < queue.heap.cells.length := by
  apply consistent.counted.known
  rcases mine.outstanding_cases member with owned | tested
  · exact List.mem_append_left _ (List.mem_append_left _ owned)
  · exact List.mem_append_right _ (List.mem_append_left _ tested)

/-- A call begins with new packets. -/
theorem encode (consistent : queue.Consistent .idle theirs) {media : List (MediaData × Int)}
    (encoded : forall value, value ∈ media -> Encoded value.1 value.2) :
    let outpkts := List.range' queue.heap.cells.length media.length
    Consistent { queue with heap := queue.heap.createAll media } (.copying outpkts outpkts) theirs := by
  intro outpkts
  have new : forall id, id ∈ outpkts -> queue.heap.cells.length ≤ id := fun id member =>
    (List.mem_range'_1.mp member).1
  have length : (queue.heap.createAll media).cells.length = queue.heap.cells.length + media.length := by
    rw [← SharedHeap.length_values, SharedHeap.createAll_values, List.length_append, SharedHeap.length_values]
  have apart : (outpkts ++ theirs.outstanding).Nodup := by
    apply List.nodup_append'.mpr ⟨List.nodup_range', consistent.swap.apart.of_append_left, ?_⟩
    intro id here there
    exact Nat.not_lt.mpr (new id here) (consistent.swap.lt_of_outstanding there)
  refine ⟨consistent.counted.createAll media, ?_, consistent.order, consistent.kept, ?_, ?_, apart, ?_⟩
  · intro value member
    rw [SharedHeap.createAll_values] at member
    rcases List.mem_append.mp member with before | added
    · exact consistent.encoded value before
    · exact encoded value added
  · intro id member
    have before := consistent.known id member
    show id < (queue.heap.createAll media).cells.length
    omega
  · apply (List.perm_append_comm_assoc outpkts queue.queued theirs.unqueued).nodup_iff.mp
    apply List.nodup_append'.mpr ⟨List.nodup_range', consistent.distinct, ?_⟩
    intro id here there
    apply Nat.not_lt.mpr (new id here)
    rcases List.mem_append.mp there with before | coming
    · exact consistent.known id before
    · exact consistent.swap.lt_of_outstanding (DeviceCall.outstanding_of_unqueued consistent.looping.2 coming)
  · exact ⟨List.suffix_refl outpkts, consistent.looping.2⟩

/-- A step of the call that changes the counts only. -/
theorem recount {heap : SharedHeap (MediaData × Int)} {call : DeviceCall} (consistent : queue.Consistent mine theirs)
    (values : heap.values = queue.heap.values)
    (counted : heap.Counted (call.own ++ (theirs.own ++ queue.datalist)) (call.pending ++ theirs.pending))
    (unqueued : call.unqueued = mine.unqueued) (apart : (call.outstanding ++ theirs.outstanding).Nodup)
    (looping : call.Looping) : Consistent { queue with heap } call theirs where
  counted := counted
  encoded := by
    rw [values]
    exact consistent.encoded
  order := consistent.order
  kept := consistent.kept
  known := by
    rw [← SharedHeap.length_values, values, SharedHeap.length_values]
    exact consistent.known
  distinct := by
    rw [unqueued]
    exact consistent.distinct
  apart := apart
  looping := ⟨looping, consistent.looping.2⟩

/-- `data->copy()`. -/
theorem copy {data : Nat} {outpkts iter : List Nat}
    (consistent : queue.Consistent (.copying outpkts (data :: iter)) theirs) :
    Consistent { queue with heap := queue.heap.retain data } (.pushing data outpkts iter) theirs := by
  refine consistent.recount (queue.heap.retain_values data) ?_ rfl consistent.apart consistent.looping.1
  apply consistent.counted.retain
  exact List.mem_append_left _ (consistent.looping.1.subset List.mem_cons_self)

/-- `datalist.push_back(copy)`. -/
theorem push {copy : Nat} {outpkts iter : List Nat}
    (consistent : queue.Consistent (.pushing copy outpkts iter) theirs) :
    Consistent { queue with datalist := queue.datalist ++ [copy], queued := queue.queued ++ [copy] }
      (.copying outpkts iter) theirs where
  counted := by
    refine consistent.counted.perm ?_ (.refl _)
    show (copy :: (outpkts ++ (theirs.own ++ queue.datalist))).Perm
      (outpkts ++ (theirs.own ++ (queue.datalist ++ [copy])))
    rw [← List.append_assoc, ← List.append_assoc, ← List.append_assoc]
    exact (List.perm_append_singleton copy _).symm
  encoded := consistent.encoded
  order := consistent.order.trans (List.prefix_append queue.queued [copy])
  kept := by
    intro running
    show queue.queued ++ [copy] = queue.sent ++ (queue.datalist ++ [copy])
    rw [consistent.kept running, List.append_assoc]
  known := by
    intro id member
    rcases List.mem_append.mp member with before | pushed
    · exact consistent.known id before
    · apply consistent.counted.known
      rw [List.mem_singleton.mp pushed]
      exact List.mem_append_left _ List.mem_cons_self
  distinct := by
    rw [List.append_assoc]
    exact consistent.distinct
  apart := consistent.apart
  looping := ⟨List.IsSuffix.trans (List.suffix_cons copy iter) consistent.looping.1, consistent.looping.2⟩

/-- The loop of copies has ended. -/
theorem free {outpkts : List Nat} (consistent : queue.Consistent (.copying outpkts []) theirs) :
    queue.Consistent (.freeing outpkts) theirs :=
  { consistent with looping := ⟨trivial, consistent.looping.2⟩ }

/-- `shareCnt--`. -/
theorem release {data : Nat} {iter : List Nat} (consistent : queue.Consistent (.freeing (data :: iter)) theirs) :
    Consistent { queue with heap := queue.heap.release data } (.testing data iter) theirs :=
  consistent.recount (queue.heap.release_values data) consistent.counted.release rfl consistent.apart trivial

/-- `if (shareCnt <= 0)`.  The other device is not testing the same packet. -/
theorem test {data : Nat} {iter : List Nat} (consistent : queue.Consistent (.testing data iter) theirs) :
    Consistent { queue with heap := queue.heap.reclaim data } (.freeing iter) theirs := by
  refine consistent.recount (queue.heap.reclaim_values data) ?_ rfl consistent.apart.tail trivial
  apply consistent.counted.reclaim
  intro tested
  cases List.disjoint_of_nodup_append consistent.apart List.mem_cons_self (theirs.outstanding_of_pending tested)

/-- The call has ended. -/
theorem finish (consistent : queue.Consistent (.freeing []) theirs) : queue.Consistent .idle theirs :=
  { consistent with looping := consistent.looping }

/-- `send` hands over the media data of the packet at the front, once. -/
theorem send {share : Nat} {datalist : List Nat} (consistent : queue.Consistent mine theirs)
    (front : queue.datalist = share :: datalist) :
    Exists fun timestamps => queue.send share = { queue with timestamps, sent := queue.sent ++ [share] } := by
  have held : share ∈ (mine.own ++ (theirs.own ++ queue.datalist)) ++ (mine.pending ++ theirs.pending) := by
    rw [front]
    apply List.mem_append_left
    apply List.mem_append_right
    exact List.mem_append_right _ List.mem_cons_self
  have inside : share < queue.heap.values.length := by
    rw [SharedHeap.length_values]
    exact consistent.counted.known share held
  have found : queue.heap.values[share]? = some queue.heap.values[share] := List.getElem?_eq_getElem inside
  have encoded := consistent.encoded _ (List.getElem_mem inside)
  generalize queue.heap.values[share] = value at found encoded
  rcases value with ⟨media, type⟩
  rcases timerPackets_media encoded queue.timestamps with ⟨packet, carried⟩
  refine ⟨(timerPackets queue.timestamps media type).2, ?_⟩
  rw [MediaQueue.send, found]
  show MediaQueue.mk _ _ _ _ _ _ _ (queue.sent ++ ((timerPackets _ media type).1.filter carriesMedia).map _) = _
  rw [carried, consistent.counted.use held]
  rfl

/-- One packet of the loop of `onTimer`. -/
theorem visit {share : Nat} {datalist : List Nat} (consistent : queue.Consistent mine theirs)
    (running : queue.destroyed = false) (front : queue.datalist = share :: datalist)
    (tested : share ∉ mine.pending ++ theirs.pending) :
    ((queue.send share).popFront share datalist).Consistent mine theirs := by
  rcases consistent.send front with ⟨timestamps, sends⟩
  have kept : queue.queued = queue.sent ++ [share] ++ datalist := by
    rw [consistent.kept running, front, List.append_assoc, List.singleton_append]
  rw [sends, popFront]
  refine ⟨?_, ?_, ?_, fun _ => kept, ?_, consistent.distinct, consistent.apart, consistent.looping⟩
  · apply SharedHeap.Counted.drop
    · refine consistent.counted.perm ?_ (.refl _)
      rw [front, ← List.append_assoc, ← List.append_assoc]
      exact List.perm_middle
    · exact fun member => absurd member tested
  · rw [SharedHeap.drop_values]
    exact consistent.encoded
  · show queue.sent ++ [share] <+: queue.queued
    rw [kept]
    exact List.prefix_append _ datalist
  · rw [SharedHeap.drop_length]
    exact consistent.known

/-- The loop of `onTimer`.  It touches neither the calls nor the devices. -/
theorem onTimerLoop {datalist : List Nat} (consistent : queue.Consistent mine theirs)
    (running : queue.destroyed = false) (all : queue.datalist = datalist)
    (tested : forall id, id ∈ datalist -> id ∉ mine.pending ++ theirs.pending) :
    (MediaQueue.onTimerLoop datalist queue).Consistent mine theirs ∧
      (MediaQueue.onTimerLoop datalist queue).destroyed = false ∧
      (MediaQueue.onTimerLoop datalist queue).call = queue.call ∧
      (MediaQueue.onTimerLoop datalist queue).recording = queue.recording := by
  induction datalist generalizing queue with
  | nil => exact ⟨consistent, running, rfl, rfl⟩
  | cons share datalist inductionHypothesis =>
      have visited := consistent.visit running all (tested share List.mem_cons_self)
      rcases consistent.send all with ⟨timestamps, sends⟩
      rw [sends] at visited
      rw [MediaQueue.onTimerLoop, sends]
      exact inductionHypothesis visited running rfl fun id member => tested id (List.mem_cons_of_mem share member)

end Consistent

/-- The invariant of the run. -/
structure Tidy (queue : MediaQueue) : Prop where
  consistent : queue.Consistent (queue.call .video) (queue.call .audio)
  quiet : forall device, queue.recording device = false -> queue.call device = .idle
  finished : queue.destroyed = true -> queue.datalist = [] ∧ forall device, queue.call device = .idle

namespace Tidy

variable {queue next : MediaQueue} {device : Device}

theorem new (audio : Bool) : (MediaQueue.new audio).Tidy where
  consistent :=
    { counted := .new
      encoded := List.forall_mem_nil _
      order := List.nil_prefix
      kept := fun _ => rfl
      known := List.forall_mem_nil _
      distinct := List.nodup_nil
      apart := List.nodup_nil
      looping := ⟨trivial, trivial⟩ }
  quiet := fun _ _ => rfl
  finished := fun destroyed => nomatch destroyed

/-- The invariant as the thread of one device sees it. -/
theorem of (tidy : queue.Tidy) (device : Device) : queue.Consistent (queue.call device) (queue.call device.other) := by
  cases device with
  | video => exact tidy.consistent
  | audio => exact tidy.consistent.swap

/-- A step of a device that is recording, and was not stopped. -/
theorem setCall {call : DeviceCall} (tidy : queue.Tidy) (running : queue.destroyed = false)
    (recording : queue.recording device = true)
    (frame : next.call = queue.call ∧ next.recording = queue.recording ∧ next.destroyed = queue.destroyed)
    (consistent : next.Consistent call (queue.call device.other)) : (next.setCall device call).Tidy where
  consistent := by
    rw [← frame.1] at consistent
    cases device with
    | video => exact { consistent with }
    | audio => exact { consistent.swap with }
  quiet := by
    intro other stopped
    have stopped : queue.recording other = false := by
      rw [← frame.2.1]
      exact stopped
    have different : other ≠ device := by
      intro same
      rw [same, recording] at stopped
      cases stopped
    show (if other = device then call else next.call other) = .idle
    rw [if_neg different, frame.1]
    exact tidy.quiet other stopped
  finished := by
    intro destroyed
    have destroyed : queue.destroyed = true := by
      rw [← frame.2.2]
      exact destroyed
    rw [running] at destroyed
    cases destroyed

theorem encode {media : List (MediaData × Int)} (tidy : queue.Tidy) (running : queue.destroyed = false)
    (encoded : forall value, value ∈ media -> Encoded value.1 value.2)
    (taken : queue.encode device media = some next) : next.Tidy := by
  rw [MediaQueue.encode] at taken
  split at taken
  next ready =>
    rw [← Option.some.inj taken]
    have view := tidy.of device
    rw [ready.2] at view
    refine tidy.setCall running ready.1 ⟨rfl, rfl, rfl⟩ ?_
    split
    next nothing =>
      have none : media = [] := by
        rw [← List.length_eq_zero_iff]
        rw [← List.length_eq_zero_iff, List.length_range'] at nothing
        exact nothing
      rw [none]
      exact view
    next => exact view.encode encoded
  next => cases taken

theorem advance (tidy : queue.Tidy) (running : queue.destroyed = false)
    (taken : queue.advance device = some next) : next.Tidy := by
  have view := tidy.of device
  have recording : queue.call device ≠ .idle -> queue.recording device = true := by
    intro busy
    cases state : queue.recording device with
    | true => rfl
    | false => exact absurd (tidy.quiet device state) busy
  rw [MediaQueue.advance] at taken
  cases place : queue.call device with
  | idle =>
      rw [place] at taken
      cases taken
  | copying outpkts iter =>
      rw [place] at taken view recording
      cases iter with
      | nil =>
          rw [← Option.some.inj taken]
          exact tidy.setCall running (recording nofun) ⟨rfl, rfl, rfl⟩ view.free
      | cons data iter =>
          rw [← Option.some.inj taken]
          exact tidy.setCall running (recording nofun) ⟨rfl, rfl, rfl⟩ view.copy
  | pushing copy outpkts iter =>
      rw [place] at taken view recording
      rw [← Option.some.inj taken]
      exact tidy.setCall running (recording nofun) ⟨rfl, rfl, rfl⟩ view.push
  | freeing iter =>
      rw [place] at taken view recording
      cases iter with
      | nil =>
          rw [← Option.some.inj taken]
          exact tidy.setCall running (recording nofun) ⟨rfl, rfl, rfl⟩ view.finish
      | cons data iter =>
          rw [← Option.some.inj taken]
          exact tidy.setCall running (recording nofun) ⟨rfl, rfl, rfl⟩ view.release
  | testing data iter =>
      rw [place] at taken view recording
      rw [← Option.some.inj taken]
      exact tidy.setCall running (recording nofun) ⟨rfl, rfl, rfl⟩ view.test

theorem onTimer (tidy : queue.Tidy) (running : queue.destroyed = false)
    (tested : forall id, id ∈ queue.datalist -> id ∉ queue.pending) : queue.onTimer.Tidy := by
  rcases tidy.consistent.onTimerLoop running rfl tested with ⟨consistent, alive, calls, recording⟩
  refine ⟨?_, ?_, ?_⟩
  · rw [MediaQueue.onTimer, calls]
    exact consistent
  · rw [MediaQueue.onTimer, calls, recording]
    exact tidy.quiet
  · intro destroyed
    rw [MediaQueue.onTimer, alive] at destroyed
    cases destroyed

theorem stopRecord (tidy : queue.Tidy) (taken : queue.stopRecord device = some next) : next.Tidy := by
  rw [MediaQueue.stopRecord] at taken
  split at taken
  next idle =>
    rw [← Option.some.inj taken]
    refine ⟨{ tidy.consistent with }, ?_, tidy.finished⟩
    intro other stopped
    by_cases here : other = device
    · rw [here]
      exact idle
    · have before : (if other = device then false else queue.recording other) = false := stopped
      rw [if_neg here] at before
      exact tidy.quiet other before
  next => cases taken

theorem destroy (tidy : queue.Tidy) (taken : queue.destroy = some next) : next.Tidy := by
  rw [MediaQueue.destroy] at taken
  split at taken
  next => cases taken
  next stopped =>
    rw [not_or, Bool.not_eq_true, Bool.not_eq_true] at stopped
    have video := tidy.quiet .video stopped.1
    have audio := tidy.quiet .audio stopped.2
    have idle : forall device, queue.call device = .idle := fun
      | .video => video
      | .audio => audio
    have view := tidy.consistent
    rw [video, audio] at view
    rw [← Option.some.inj taken]
    refine ⟨?_, tidy.quiet, fun _ => ⟨rfl, idle⟩⟩
    show MediaQueue.Consistent _ (queue.call .video) (queue.call .audio)
    rw [video, audio]
    refine ⟨?_, ?_, view.order, (fun alive => nomatch alive), ?_, view.distinct, view.apart, view.looping⟩
    · apply SharedHeap.Counted.dropAll
      · refine view.counted.perm ?_ (.refl [])
        exact .of_eq (List.append_nil queue.datalist).symm
      · exact fun _ _ => List.not_mem_nil
    · rw [SharedHeap.dropAll_values]
      exact view.encoded
    · rw [← SharedHeap.length_values, SharedHeap.dropAll_values, SharedHeap.length_values]
      exact view.known

theorem step {input : Input} (tidy : queue.Tidy) (guarded : queue.Guard input)
    (taken : queue.step input = some next) : next.Tidy := by
  unfold MediaQueue.step at taken
  split at taken
  next => cases taken
  next alive =>
    have running := Bool.eq_false_of_not_eq_true alive
    cases input with
    | yuvDataIsAvailable encoded =>
        apply tidy.encode running _ taken
        intro value member
        rcases List.mem_map.mp member with ⟨data, -, made⟩
        rw [← made]
        exact .video data
    | recordDataIsAvailable encoded =>
        apply tidy.encode running _ taken
        intro value member
        rcases List.mem_map.mp member with ⟨data, -, made⟩
        rw [← made]
        exact .audio data
    | advance device => exact tidy.advance running taken
    | onTimer =>
        rw [← Option.some.inj taken]
        exact tidy.onTimer running guarded
    | stopRecord device => exact tidy.stopRecord taken
    | destroy => exact tidy.destroy taken

theorem shares_nil (tidy : queue.Tidy) (destroyed : queue.destroyed = true) :
    queue.shares = [] ∧ queue.pending = [] := by
  rcases tidy.finished destroyed with ⟨empty, idle⟩
  rw [shares, pending, idle, idle, empty]
  exact ⟨rfl, rfl⟩

theorem sound (tidy : queue.Tidy) : queue.Sound := by
  have counted : queue.heap.Counted queue.shares queue.pending := tidy.consistent.counted
  refine ⟨?_, tidy.consistent.order, tidy.consistent.kept, ?_, counted.safe, ?_, ?_, ?_, ?_⟩
  · exact tidy.consistent.distinct.of_append_left.sublist tidy.consistent.order.sublist
  · intro id cell found undeleted
    by_cases owned : id ∈ queue.shares ++ queue.pending
    · exact (counted.held_of_mem owned found).2
    · rw [counted.gone_of_not_mem owned found] at undeleted
      cases undeleted
  · intro id owned
    exact counted.alive (List.mem_append_left _ owned)
  · intro cell member
    rcases List.mem_iff_getElem?.mp member with ⟨id, found⟩
    by_cases owned : id ∈ queue.shares ++ queue.pending
    · rw [(counted.held_of_mem owned found).1]
      exact Nat.zero_le 1
    · exact Nat.le_of_eq (counted.gone_of_not_mem owned found)
  · exact fun id cell found left => counted.gone_of_not_mem left found
  · intro destroyed cell member
    rw [(tidy.shares_nil destroyed).1, (tidy.shares_nil destroyed).2] at counted
    exact counted.all_gone member

end Tidy

/-! ## Every run -/

/-- In a run whose timer keeps away from half released packets, everything
holds all the time. -/
theorem sound_of_guarded (audio : Bool) (inputs : List Input) (guarded : Guarded step Guard (new audio) inputs) :
    Always step Sound (new audio) inputs := by
  have preserved : forall queue input next, Tidy queue -> queue.Guard input -> queue.step input = some next ->
      Tidy next := fun _ _ _ tidy kept taken => tidy.step kept taken
  have implies : forall queue, Tidy queue -> queue.Sound := fun _ tidy => tidy.sound
  exact guarded.always preserved implies (Tidy.new audio)

/-- One packet from the encoder to the destructor. -/
theorem sound_of_guarded_one :
    Always step Sound (new false)
      [.yuvDataIsAvailable [.new [0x41] 0 0], .advance .video, .advance .video, .advance .video, .advance .video,
        .advance .video, .onTimer, .advance .video, .stopRecord .video, .destroy] :=
  sound_of_guarded false _ (by decide)

/-- The timer runs between the decrement and the test: it deletes the packet,
and the test finds the count at zero once more. -/
theorem released_by_both :
    ¬ Always step Sound (new false)
      [.yuvDataIsAvailable [.new [0x41] 0 0], .advance .video, .advance .video, .advance .video, .advance .video,
        .onTimer, .advance .video] := by
  intro always
  have ran : (runAll step (new false)
      [.yuvDataIsAvailable [.new [0x41] 0 0], .advance .video, .advance .video, .advance .video, .advance .video,
        .onTimer, .advance .video]).map (fun queue => queue.heap.misused) = some true := by
    decide
  rcases Option.map_eq_some_iff.mp ran with ⟨queue, reached, misused⟩
  have unused := (always _ [] (List.append_nil _).symm queue reached).unused
  rw [misused] at unused
  cases unused

end MediaQueue

end Media
end RtmpClient
