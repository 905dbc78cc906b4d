import RtmpClient.Library.Runs

namespace RtmpClient
namespace Media

open Library

/-!
# The thread of the audio devices (`av_device.cc`)

`AudioDevices` and `AudioDeviceThread`, with each section under
`audioThreadMutex_` as one step.  What a section does with the samples of a
frame is left out; it leaves the flags as they are.
-/

/-- Where a device thread is: at the test of the loop, in front of the section, in
front of the wait, behind the loop, or at its end. -/
inductive DeviceThread where
  | testing
  | locking
  | waiting
  | leaving
  | finished
  deriving DecidableEq, Repr

namespace DeviceThread

/-- It is in its loop. -/
def Looping (thread : DeviceThread) : Prop := thread = testing ∨ thread = locking ∨ thread = waiting

instance (thread : DeviceThread) : Decidable thread.Looping := inferInstanceAs (Decidable (_ ∨ _))

end DeviceThread

/-- The flags, `audioDeviceThread_.joinable()`, and the device threads created so
far.  A `std::thread` that is assigned while another is joinable terminates the
program. -/
structure AudioDevices where
  playing : Bool
  recording : Bool
  playIsInitialized : Bool
  recIsInitialized : Bool
  start : Bool
  joinable : Bool
  threads : List DeviceThread
  terminated : Bool
  deriving DecidableEq, Repr

namespace AudioDevices

/-- The constructor. -/
def new : AudioDevices where
  playing := false
  recording := false
  playIsInitialized := false
  recIsInitialized := false
  start := false
  joinable := false
  threads := []
  terminated := false

/-- `audioDeviceThread_ = std::thread(...)`. -/
def assignThread (devices : AudioDevices) : AudioDevices :=
  let created : AudioDevices := { devices with threads := devices.threads ++ [.testing] }
  if devices.joinable then { created with terminated := true } else { created with joinable := true }

/-- The end of `StartPlay` and of `StartRecord`. -/
def startThread (devices : AudioDevices) : AudioDevices :=
  if devices.start = false then { devices with start := true }.assignThread else devices

def initPlayDevice (devices : AudioDevices) : Int × AudioDevices := (0, { devices with playIsInitialized := true })

def startPlay (devices : AudioDevices) : Int × AudioDevices :=
  if devices.playIsInitialized = false then (-1, devices) else (0, { devices with playing := true }.startThread)

def stopPlay (devices : AudioDevices) : Int × AudioDevices := (0, { devices with playing := false })

def initRecordDevice (devices : AudioDevices) : Int × AudioDevices := (0, { devices with recIsInitialized := true })

def startRecord (devices : AudioDevices) : Int × AudioDevices :=
  if devices.recIsInitialized = false then (-1, devices) else (0, { devices with recording := true }.startThread)

def stopRecord (devices : AudioDevices) : Int × AudioDevices := (0, { devices with recording := false })

def shouldStopAudioThread (devices : AudioDevices) : Bool := !devices.recording && !devices.playing

/-- A step of `AudioDeviceThread`: where the thread is then, and the devices. -/
def audioDeviceThread (devices : AudioDevices) : DeviceThread -> Option (DeviceThread × AudioDevices)
  | .testing => some (if devices.start then .locking else .leaving, devices)
  | .locking =>
      if devices.shouldStopAudioThread then some (.leaving, { devices with start := false })
      else some (.waiting, devices)
  | .waiting => some (.testing, devices)
  | .leaving => some (.finished, devices)
  | .finished => none

/-- A call of the program, or a step of one of the device threads. -/
inductive Event where
  | initPlayDevice
  | startPlay
  | stopPlay
  | initRecordDevice
  | startRecord
  | stopRecord
  | advance (index : Nat)
  deriving DecidableEq, Repr

/-- The thread at this index takes its next step. -/
def advance (devices : AudioDevices) (index : Nat) : Option AudioDevices :=
  (devices.threads[index]?).bind fun thread =>
    (devices.audioDeviceThread thread).map fun next => { next.2 with threads := devices.threads.set index next.1 }

/-- Nothing happens in a program that has been terminated. -/
def step (devices : AudioDevices) (event : Event) : Option AudioDevices :=
  if devices.terminated then none
  else
    match event with
    | .initPlayDevice => some devices.initPlayDevice.2
    | .startPlay => some devices.startPlay.2
    | .stopPlay => some devices.stopPlay.2
    | .initRecordDevice => some devices.initRecordDevice.2
    | .startRecord => some devices.startRecord.2
    | .stopRecord => some devices.stopRecord.2
    | .advance index => devices.advance index

/-! ## What has to hold -/

/-- At most one device thread runs, no thread is assigned to a joinable one, and
while a device is started a thread is in its loop, with the flag that keeps it
there. -/
structure Sound (devices : AudioDevices) : Prop where
  one : (devices.threads.filter (· ≠ .finished)).length ≤ 1
  unassigned : devices.terminated = false
  served : devices.playing = true ∨ devices.recording = true ->
    devices.start = true ∧ Exists fun thread => thread ∈ devices.threads ∧ thread.Looping

/-- The event is a start of a device that is initialized. -/
def Starts (devices : AudioDevices) : Event -> Prop
  | .startPlay => devices.playIsInitialized = true
  | .startRecord => devices.recIsInitialized = true
  | _ => False

instance (devices : AudioDevices) : (event : Event) -> Decidable (devices.Starts event)
  | .startPlay => inferInstanceAs (Decidable (_ = _))
  | .startRecord => inferInstanceAs (Decidable (_ = _))
  | .initPlayDevice => inferInstanceAs (Decidable False)
  | .stopPlay => inferInstanceAs (Decidable False)
  | .initRecordDevice => inferInstanceAs (Decidable False)
  | .stopRecord => inferInstanceAs (Decidable False)
  | .advance _ => inferInstanceAs (Decidable False)

/-- No start comes when a device thread has been created and has taken its last
section. -/
def Guard (devices : AudioDevices) (event : Event) : Prop :=
  devices.Starts event -> devices.start = true ∨ devices.joinable = false

instance (devices : AudioDevices) (event : Event) : Decidable (devices.Guard event) :=
  inferInstanceAs (Decidable (_ -> _))

/-! ## The one thread -/

/-- What holds in a run without such a start: no thread has been created, the only
one is in its loop, or it has left it and no device is started. -/
inductive Tidy (devices : AudioDevices) : Prop where
  | fresh (threads : devices.threads = []) (joinable : devices.joinable = false) (start : devices.start = false)
      (idle : devices.shouldStopAudioThread = true) (alive : devices.terminated = false)
  | looping (thread : DeviceThread) (threads : devices.threads = [thread]) (looping : thread.Looping)
      (joinable : devices.joinable = true) (start : devices.start = true) (alive : devices.terminated = false)
  | ended (thread : DeviceThread) (threads : devices.threads = [thread])
      (left : thread = .leaving ∨ thread = .finished) (joinable : devices.joinable = true)
      (start : devices.start = false) (idle : devices.shouldStopAudioThread = true) (alive : devices.terminated = false)

theorem idle_iff (devices : AudioDevices) :
    devices.shouldStopAudioThread = true ↔ devices.playing = false ∧ devices.recording = false := by
  rw [shouldStopAudioThread, Bool.and_eq_true, Bool.not_eq_true', Bool.not_eq_true', and_comm]

namespace Tidy

variable {devices after : AudioDevices}

theorem new : AudioDevices.new.Tidy := .fresh rfl rfl rfl rfl rfl

theorem alive (tidy : devices.Tidy) : devices.terminated = false := by
  cases tidy with
  | fresh _ _ _ _ alive => exact alive
  | looping _ _ _ _ _ alive => exact alive
  | ended _ _ _ _ _ _ alive => exact alive

/-- Flags that are lowered, and those that nothing of this depends on. -/
theorem lower (tidy : devices.Tidy) {playing recording playIsInitialized recIsInitialized : Bool}
    (idle : devices.shouldStopAudioThread = true -> playing = false ∧ recording = false) :
    Tidy { devices with playing, recording, playIsInitialized, recIsInitialized } := by
  cases tidy with
  | fresh threads joinable start still alive =>
      exact .fresh threads joinable start ((idle_iff _).mpr (idle still)) alive
  | looping thread threads looping joinable start alive => exact .looping thread threads looping joinable start alive
  | ended thread threads left joinable start still alive =>
      exact .ended thread threads left joinable start ((idle_iff _).mpr (idle still)) alive

/-- A start that is not taken behind the last section. -/
theorem startThread (tidy : devices.Tidy) (guard : devices.start = true ∨ devices.joinable = false)
    (playing recording : Bool) : ({ devices with playing, recording } : AudioDevices).startThread.Tidy := by
  rw [AudioDevices.startThread]
  cases tidy with
  | fresh threads joinable start still alive =>
      rw [if_pos start, assignThread]
      dsimp only
      rw [joinable, threads]
      exact .looping .testing rfl (.inl rfl) rfl rfl alive
  | looping thread threads looping joinable start alive =>
      rw [if_neg (by rw [start]; decide)]
      exact .looping thread threads looping joinable start alive
  | ended thread threads left joinable start still alive =>
      rcases guard with started | unjoined
      · rw [start] at started
        cases started
      · rw [joinable] at unjoined
        cases unjoined

/-- A step of the thread. -/
theorem advance (tidy : devices.Tidy) {index : Nat} (taken : devices.advance index = some after) : after.Tidy := by
  rcases Option.bind_eq_some_iff.mp taken with ⟨current, found, taken'⟩
  rcases Option.map_eq_some_iff.mp taken' with ⟨⟨next, changed⟩, stepped, rfl⟩
  cases tidy with
  | fresh threads joinable start still alive =>
      rw [threads] at found
      cases found
  | looping thread threads looping joinable start alive =>
      rw [threads] at found ⊢
      cases index with
      | succ index => cases found
      | zero =>
          cases found
          rcases looping with rfl | rfl | rfl
          · rw [audioDeviceThread, if_pos start] at stepped
            cases stepped
            exact .looping .locking rfl (.inr (.inl rfl)) joinable start alive
          · rw [audioDeviceThread] at stepped
            split at stepped
            next idle =>
              cases stepped
              exact .ended .leaving rfl (.inl rfl) joinable rfl idle alive
            · cases stepped
              exact .looping .waiting rfl (.inr (.inr rfl)) joinable start alive
          · cases stepped
            exact .looping .testing rfl (.inl rfl) joinable start alive
  | ended thread threads left joinable start still alive =>
      rw [threads] at found ⊢
      cases index with
      | succ index => cases found
      | zero =>
          cases found
          rcases left with rfl | rfl
          · cases stepped
            exact .ended .finished rfl (.inr rfl) joinable start still alive
          · cases stepped

theorem step {event : Event} (tidy : devices.Tidy) (guard : devices.Guard event)
    (taken : devices.step event = some after) : after.Tidy := by
  unfold AudioDevices.step at taken
  rw [if_neg (by rw [tidy.alive]; decide)] at taken
  cases event with
  | initPlayDevice =>
      cases taken
      exact tidy.lower fun idle => (idle_iff devices).mp idle
  | startPlay =>
      rw [← Option.some.inj taken, startPlay]
      split
      · exact tidy
      · next initialized => exact tidy.startThread (guard (Bool.of_not_eq_false initialized)) true devices.recording
  | stopPlay =>
      cases taken
      exact tidy.lower fun idle => ⟨rfl, ((idle_iff devices).mp idle).2⟩
  | initRecordDevice =>
      cases taken
      exact tidy.lower fun idle => (idle_iff devices).mp idle
  | startRecord =>
      rw [← Option.some.inj taken, startRecord]
      split
      · exact tidy
      · next initialized => exact tidy.startThread (guard (Bool.of_not_eq_false initialized)) devices.playing true
  | stopRecord =>
      cases taken
      exact tidy.lower fun idle => ⟨((idle_iff devices).mp idle).1, rfl⟩
  | advance index => exact tidy.advance taken

theorem sound (tidy : devices.Tidy) : devices.Sound := by
  have stopped : devices.shouldStopAudioThread = true -> ¬ (devices.playing = true ∨ devices.recording = true) := by
    intro idle
    rcases (idle_iff devices).mp idle with ⟨playing, recording⟩
    rw [playing, recording]
    decide
  cases tidy with
  | fresh threads joinable start idle alive =>
      refine ⟨?_, alive, fun started => absurd started (stopped idle)⟩
      rw [threads]
      exact Nat.zero_le 1
  | looping thread threads looping joinable start alive =>
      refine ⟨?_, alive, fun _ => ⟨start, thread, ?_, looping⟩⟩
      · rw [threads]
        exact List.length_filter_le _ [thread]
      · rw [threads]
        exact List.mem_singleton_self thread
  | ended thread threads left joinable start idle alive =>
      refine ⟨?_, alive, fun started => absurd started (stopped idle)⟩
      rw [threads]
      exact List.length_filter_le _ [thread]

end Tidy

/-! ## Every run -/

/-- A start behind the last section of a thread assigns a second one. -/
theorem terminated_of_unguarded {devices : AudioDevices} {event : Event} (alive : devices.terminated = false)
    (unguarded : ¬ devices.Guard event) :
    Exists fun after => devices.step event = some after ∧ after.terminated = true := by
  rw [Guard, Classical.not_imp, not_or, Bool.not_eq_true, Bool.not_eq_false] at unguarded
  rcases unguarded with ⟨starts, left, joinable⟩
  have assigned : forall playing recording : Bool,
      ({ devices with playing, recording } : AudioDevices).startThread.terminated = true := by
    intro playing recording
    rw [startThread, if_pos left, assignThread]
    dsimp only
    rw [joinable]
    rfl
  cases event with
  | startPlay =>
      replace starts : devices.playIsInitialized = true := starts
      refine ⟨_, if_neg (by rw [alive]; decide), ?_⟩
      rw [startPlay, if_neg (by rw [starts]; decide)]
      exact assigned true devices.recording
  | startRecord =>
      replace starts : devices.recIsInitialized = true := starts
      refine ⟨_, if_neg (by rw [alive]; decide), ?_⟩
      rw [startRecord, if_neg (by rw [starts]; decide)]
      exact assigned devices.playing true
  | initPlayDevice => cases starts
  | stopPlay => cases starts
  | initRecordDevice => cases starts
  | stopRecord => cases starts
  | advance index => cases starts

/-- A run is sound where no start comes behind the last section of a thread. -/
theorem always_sound_iff_guarded (events : List Event) :
    Always step Sound new events ↔ Guarded step Guard new events := by
  constructor
  · intro always done event later split devices reached
    by_contra unguarded
    have sound := always done (event :: later) split devices reached
    rcases terminated_of_unguarded sound.unassigned unguarded with ⟨after, taken, terminated⟩
    have ran : runAll step new (done ++ [event]) = some after := by
      rw [runAll_concat reached]
      exact taken
    have behind := always (done ++ [event]) later (by rw [split, List.append_assoc, List.singleton_append]) after ran
    rw [behind.unassigned] at terminated
    cases terminated
  · have preserved : forall devices event after, Tidy devices -> devices.Guard event ->
        devices.step event = some after -> Tidy after := fun _ _ _ tidy guard taken => tidy.step guard taken
    exact Guarded.always preserved (fun _ tidy => tidy.sound) Tidy.new

/-- A device that is started again before the thread has seen that it was stopped. -/
theorem always_sound_startedInTime :
    Always step Sound new
      [.initRecordDevice, .startRecord, .advance 0, .stopRecord, .startRecord, .advance 0, .advance 0, .stopRecord,
        .advance 0, .advance 0, .advance 0] :=
  (always_sound_iff_guarded _).mpr (by decide)

/-- One that is started again when the thread has taken its last section. -/
theorem not_always_sound_startedLate :
    ¬ Always step Sound new [.initRecordDevice, .startRecord, .advance 0, .stopRecord, .advance 0, .startRecord] := by
  intro always
  have ran : (runAll step new
      [.initRecordDevice, .startRecord, .advance 0, .stopRecord, .advance 0, .startRecord]).map terminated =
        some true := by
    decide
  rcases Option.map_eq_some_iff.mp ran with ⟨devices, reached, terminated⟩
  have unassigned := (always _ [] (List.append_nil _).symm devices reached).unassigned
  rw [terminated] at unassigned
  cases unassigned

end AudioDevices

end Media
end RtmpClient
