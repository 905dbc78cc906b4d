import RtmpClient.Library.Runs

namespace RtmpClient
namespace Client

open Library

/-!
# How the publish client is taken down (`rtmpclient.cc`, `NetCore.cc`)

The client owns `timer_`, its socket owns the TCP handle, and each is closed with
`uv_close`, whose callback comes in a later turn of the loop.  Client and socket
delete themselves.  Only what these functions touch is kept: the handles, the
flag `havestop`, the pointer `rtmp_socket_`, and a log of what was done.
-/

/-- Where a handle stands with `uv_close`: `closing` until its callback runs. -/
inductive HandleStatus where
  | opened
  | closing
  | closed
  deriving DecidableEq, Repr

inductive LoopHandle where
  | timer
  | tcp
  deriving DecidableEq, Repr

/-- What is done; a deletion with what it meets. -/
inductive LoopAction where
  | uvClose (handle : LoopHandle)
  | deleteClient (timer tcp : HandleStatus)
  | deleteSocket (rtmpSocket : Bool) (timer tcp : HandleStatus)
  deriving DecidableEq, Repr

structure EventLoop where
  havestop : Bool
  rtmpSocket : Bool
  timer : HandleStatus
  tcp : HandleStatus
  actions : List LoopAction
  deriving DecidableEq, Repr

namespace EventLoop

/-- A client that is connected.  The constructor does not set `havestop`. -/
def start (havestop : Bool) : EventLoop where
  havestop := havestop
  rtmpSocket := true
  timer := .opened
  tcp := .opened
  actions := []

def act (action : LoopAction) (loop : EventLoop) : EventLoop :=
  { loop with actions := loop.actions ++ [action] }

/-- `delete this` of the client. -/
def deleteClient (loop : EventLoop) : EventLoop := loop.act (.deleteClient loop.timer loop.tcp)

/-- `delete this` of the socket. -/
def deleteSocket (loop : EventLoop) : EventLoop :=
  loop.act (.deleteSocket loop.rtmpSocket loop.timer loop.tcp)

/-- `onPublishStop`. -/
def onPublishStop (loop : EventLoop) : EventLoop :=
  ({ loop with timer := .closing } : EventLoop).act (.uvClose .timer)

/-- `RtmpClient::onClose`. -/
def onClose (loop : EventLoop) : EventLoop :=
  let loop := { loop with rtmpSocket := false }
  if loop.havestop then loop.deleteClient else onPublishStop { loop with havestop := true }

/-- `BaseSocket::onClosed`. -/
def onClosed (loop : EventLoop) : EventLoop := loop.onClose.deleteSocket

/-- `TcpSocket::close`.  `uv_is_closing` holds from `uv_close` on. -/
def close (loop : EventLoop) : EventLoop :=
  if loop.tcp = .opened then ({ loop with tcp := .closing } : EventLoop).act (.uvClose .tcp)
  else loop.onClosed

/-- `onStoped`. -/
def onStoped (loop : EventLoop) : EventLoop := if loop.rtmpSocket then loop.close else loop.deleteClient

end EventLoop

/-- What the loop calls the program for.  Reads end with `uv_close`. -/
inductive LoopEvent where
  | unpublishSuccess
  | peerClose
  | timerClosed
  | socketClosed
  deriving DecidableEq, Repr

/-- One call; `none` where the loop does not make it. -/
def loopStep (loop : EventLoop) : LoopEvent -> Option EventLoop
  | .unpublishSuccess =>
      if loop.tcp = .opened then some (EventLoop.onPublishStop { loop with havestop := true }) else none
  | .peerClose => if loop.tcp = .opened then some loop.close else none
  | .timerClosed =>
      if loop.timer = .closing then some (EventLoop.onStoped { loop with timer := .closed }) else none
  | .socketClosed =>
      if loop.tcp = .closing then some (EventLoop.onClosed { loop with tcp := .closed }) else none

/-! ## What is asked of the log -/

/-- No callback is to come that uses what is deleted: the one of a handle it owns
or, for the socket, the one of the timer through `rtmp_socket_`. -/
def LoopAction.Late : LoopAction -> Prop
  | .uvClose _ => True
  | .deleteClient timer tcp => timer ≠ .closing ∧ tcp ≠ .closing
  | .deleteSocket rtmpSocket timer tcp => tcp ≠ .closing ∧ (timer = .closing -> rtmpSocket = false)

def LoopAction.deletesClient : LoopAction -> Bool
  | .deleteClient _ _ => true
  | _ => false

def LoopAction.deletesSocket : LoopAction -> Bool
  | .deleteSocket _ _ _ => true
  | _ => false

/-- Each handle is closed once, each object deleted once, and neither early. -/
structure ShutdownSafe (actions : List LoopAction) : Prop where
  timerOnce : actions.count (.uvClose .timer) ≤ 1
  tcpOnce : actions.count (.uvClose .tcp) ≤ 1
  clientOnce : actions.countP LoopAction.deletesClient ≤ 1
  socketOnce : actions.countP LoopAction.deletesSocket ≤ 1
  late : forall action, action ∈ actions -> action.Late

instance (action : LoopAction) : Decidable action.Late :=
  match action with
  | .uvClose _ => inferInstanceAs (Decidable True)
  | .deleteClient timer tcp => inferInstanceAs (Decidable (timer ≠ .closing ∧ tcp ≠ .closing))
  | .deleteSocket rtmpSocket timer tcp =>
      inferInstanceAs (Decidable (tcp ≠ .closing ∧ (timer = .closing -> rtmpSocket = false)))

theorem shutdownSafe_iff (actions : List LoopAction) : ShutdownSafe actions ↔
    actions.count (.uvClose .timer) ≤ 1 ∧ actions.count (.uvClose .tcp) ≤ 1 ∧
      actions.countP LoopAction.deletesClient ≤ 1 ∧ actions.countP LoopAction.deletesSocket ≤ 1 ∧
      forall action, action ∈ actions -> action.Late :=
  ⟨fun safe => ⟨safe.timerOnce, safe.tcpOnce, safe.clientOnce, safe.socketOnce, safe.late⟩,
    fun ⟨timerOnce, tcpOnce, clientOnce, socketOnce, late⟩ => ⟨timerOnce, tcpOnce, clientOnce, socketOnce, late⟩⟩

instance (actions : List LoopAction) : Decidable (ShutdownSafe actions) :=
  decidable_of_iff _ (shutdownSafe_iff actions).symm

/-- A log that has become unsafe remains so. -/
theorem ShutdownSafe.of_later {earlier later : List LoopAction} (safe : ShutdownSafe later)
    (begins : earlier <+: later) : ShutdownSafe earlier where
  timerOnce := Nat.le_trans (begins.sublist.count_le _) safe.timerOnce
  tcpOnce := Nat.le_trans (begins.sublist.count_le _) safe.tcpOnce
  clientOnce := Nat.le_trans begins.sublist.countP_le safe.clientOnce
  socketOnce := Nat.le_trans begins.sublist.countP_le safe.socketOnce
  late := fun action member => safe.late action (begins.subset member)

theorem not_safe_of_mem {actions : List LoopAction} {action : LoopAction} (member : action ∈ actions)
    (early : ¬ action.Late) : ¬ ShutdownSafe actions := fun safe => early (safe.late action member)

/-! ## The steps of an orderly shutdown -/

/-- Nothing that starts a shutdown comes between `uv_close` on the timer and its
callback. -/
def Undisturbed (loop : EventLoop) (event : LoopEvent) : Prop :=
  event = .unpublishSuccess ∨ event = .peerClose -> loop.timer = .opened

instance (loop : EventLoop) (event : LoopEvent) : Decidable (Undisturbed loop event) :=
  inferInstanceAs (Decidable (_ -> _))

/-- The shutdown the code is written for, begun by the server or by the peer. -/
inductive Phase where
  | connected
  | unpublished
  | socketClosing
  | finished
  | peerGone
  | timerClosing
  | abandoned
  deriving DecidableEq, Repr

/-- With `havestop` set from the start the timer is never closed. -/
def Phase.next (havestop : Bool) : Phase -> LoopEvent -> Option Phase
  | .connected, .unpublishSuccess => some .unpublished
  | .connected, .peerClose => some .peerGone
  | .unpublished, .timerClosed => some .socketClosing
  | .socketClosing, .socketClosed => some .finished
  | .peerGone, .socketClosed => some (if havestop then .abandoned else .timerClosing)
  | .timerClosing, .timerClosed => some .finished
  | _, _ => none

/-- The states of the client that are a phase of it. -/
inductive InPhase (havestop : Bool) : Phase -> EventLoop -> Prop where
  | connected : InPhase havestop .connected (.start havestop)
  | unpublished : InPhase havestop .unpublished ⟨true, true, .closing, .opened, [.uvClose .timer]⟩
  | socketClosing : InPhase havestop .socketClosing
      ⟨true, true, .closed, .closing, [.uvClose .timer, .uvClose .tcp]⟩
  | finishedBySocket : InPhase havestop .finished ⟨true, false, .closed, .closed,
      [.uvClose .timer, .uvClose .tcp, .deleteClient .closed .closed, .deleteSocket false .closed .closed]⟩
  | peerGone : InPhase havestop .peerGone ⟨havestop, true, .opened, .closing, [.uvClose .tcp]⟩
  | timerClosing : InPhase havestop .timerClosing ⟨true, false, .closing, .closed,
      [.uvClose .tcp, .uvClose .timer, .deleteSocket false .closing .closed]⟩
  | finishedByTimer : InPhase havestop .finished ⟨true, false, .closed, .closed,
      [.uvClose .tcp, .uvClose .timer, .deleteSocket false .closing .closed, .deleteClient .closed .closed]⟩
  | abandoned : InPhase havestop .abandoned ⟨true, false, .opened, .closed,
      [.uvClose .tcp, .deleteClient .opened .closed, .deleteSocket false .opened .closed]⟩

variable {havestop : Bool} {phase : Phase} {loop after : EventLoop} {event : LoopEvent}

/-- In a phase nothing is done twice or early. -/
theorem InPhase.safe (inPhase : InPhase havestop phase loop) : ShutdownSafe loop.actions := by
  cases havestop <;> cases inPhase <;> decide

/-- An undisturbed step of the client is a step of the shutdown. -/
theorem InPhase.step (inPhase : InPhase havestop phase loop) (undisturbed : Undisturbed loop event)
    (taken : loopStep loop event = some after) :
    Exists fun next => phase.next havestop event = some next ∧ InPhase havestop next after := by
  cases inPhase with
  | connected =>
      cases event with
      | unpublishSuccess =>
          cases taken
          exact ⟨.unpublished, rfl, .unpublished⟩
      | peerClose =>
          cases taken
          exact ⟨.peerGone, rfl, .peerGone⟩
      | timerClosed => cases taken
      | socketClosed => cases taken
  | unpublished =>
      cases event with
      | unpublishSuccess => cases undisturbed (Or.inl rfl)
      | peerClose => cases undisturbed (Or.inr rfl)
      | timerClosed =>
          cases taken
          exact ⟨.socketClosing, rfl, .socketClosing⟩
      | socketClosed => cases taken
  | socketClosing =>
      cases event with
      | socketClosed =>
          cases taken
          exact ⟨.finished, rfl, .finishedBySocket⟩
      | unpublishSuccess => cases taken
      | peerClose => cases taken
      | timerClosed => cases taken
  | peerGone =>
      cases event with
      | socketClosed =>
          cases havestop with
          | false =>
              cases taken
              exact ⟨.timerClosing, rfl, .timerClosing⟩
          | true =>
              cases taken
              exact ⟨.abandoned, rfl, .abandoned⟩
      | unpublishSuccess => cases taken
      | peerClose => cases taken
      | timerClosed => cases taken
  | timerClosing =>
      cases event with
      | timerClosed =>
          cases taken
          exact ⟨.finished, rfl, .finishedByTimer⟩
      | unpublishSuccess => cases taken
      | peerClose => cases taken
      | socketClosed => cases taken
  | finishedBySocket => cases event <;> cases taken
  | finishedByTimer => cases event <;> cases taken
  | abandoned => cases event <;> cases taken

/-! ## Once it is disturbed -/

/-- The log is unsafe, or will be with whichever callback comes first. -/
def Doomed (loop : EventLoop) : Prop :=
  ¬ ShutdownSafe loop.actions ∨
    loop.havestop = true ∧ loop.rtmpSocket = true ∧ loop.timer = .closing ∧ loop.tcp = .closing

/-! Every call of the loop only adds to the log. -/

theorem EventLoop.act_grows (action : LoopAction) (loop : EventLoop) :
    loop.actions <+: (loop.act action).actions := List.prefix_append _ _

theorem EventLoop.onClose_grows (loop : EventLoop) : loop.actions <+: loop.onClose.actions := by
  simp only [onClose]
  split
  · exact act_grows _ _
  · exact act_grows _ _

theorem EventLoop.onClosed_grows (loop : EventLoop) : loop.actions <+: loop.onClosed.actions :=
  loop.onClose_grows.trans (act_grows _ _)

theorem EventLoop.close_grows (loop : EventLoop) : loop.actions <+: loop.close.actions := by
  unfold close
  split
  · exact act_grows _ _
  · exact loop.onClosed_grows

theorem EventLoop.onStoped_grows (loop : EventLoop) : loop.actions <+: loop.onStoped.actions := by
  unfold onStoped
  split
  · exact loop.close_grows
  · exact act_grows _ _

theorem loopStep_grows (taken : loopStep loop event = some after) : loop.actions <+: after.actions := by
  unfold loopStep at taken
  cases event with
  | unpublishSuccess =>
      rcases Option.ite_some_none_eq_some.mp taken with ⟨_, rfl⟩
      exact EventLoop.act_grows _ _
  | peerClose =>
      rcases Option.ite_some_none_eq_some.mp taken with ⟨_, rfl⟩
      exact loop.close_grows
  | timerClosed =>
      rcases Option.ite_some_none_eq_some.mp taken with ⟨_, rfl⟩
      exact EventLoop.onStoped_grows { loop with timer := .closed }
  | socketClosed =>
      rcases Option.ite_some_none_eq_some.mp taken with ⟨_, rfl⟩
      exact EventLoop.onClosed_grows { loop with tcp := .closed }

/-- With `havestop` set, what closes the socket deletes the client. -/
theorem EventLoop.onClosed_not_safe (loop : EventLoop) (stopped : loop.havestop = true)
    (due : loop.timer = .closing ∨ loop.tcp = .closing) : ¬ ShutdownSafe loop.onClosed.actions := by
  have deleted : .deleteClient loop.timer loop.tcp ∈ loop.onClosed.actions := by
    simp only [onClosed, onClose, stopped, if_true]
    apply List.mem_append_left
    exact List.mem_append_right _ (List.mem_singleton_self _)
  apply not_safe_of_mem deleted
  intro late
  rcases due with timerClosing | tcpClosing
  · exact late.1 timerClosing
  · exact late.2 tcpClosing

/-- With both callbacks to come, the first one deletes the client. -/
theorem not_safe_of_callback (stopped : loop.havestop = true) (connected : loop.rtmpSocket = true)
    (timerClosing : loop.timer = .closing) (tcpClosing : loop.tcp = .closing)
    (taken : loopStep loop event = some after) : ¬ ShutdownSafe after.actions := by
  unfold loopStep at taken
  cases event with
  | unpublishSuccess =>
      rw [tcpClosing] at taken
      cases taken
  | peerClose =>
      rw [tcpClosing] at taken
      cases taken
  | timerClosed =>
      rcases Option.ite_some_none_eq_some.mp taken with ⟨_, rfl⟩
      -- `close` finds the handle closing and runs `onClosed` at once
      have closes : EventLoop.onStoped { loop with timer := .closed } =
          EventLoop.onClosed { loop with timer := .closed } := by
        simp only [EventLoop.onStoped, connected, if_true, EventLoop.close, tcpClosing, reduceCtorEq, if_false]
      rw [closes]
      exact EventLoop.onClosed_not_safe _ stopped (Or.inr tcpClosing)
  | socketClosed =>
      rcases Option.ite_some_none_eq_some.mp taken with ⟨_, rfl⟩
      exact EventLoop.onClosed_not_safe _ stopped (Or.inl timerClosing)

theorem Doomed.step (doomed : Doomed loop) (taken : loopStep loop event = some after) : Doomed after := by
  rcases doomed with broken | ⟨stopped, connected, timerClosing, tcpClosing⟩
  · exact Or.inl fun safe => broken (safe.of_later (loopStep_grows taken))
  · exact Or.inl (not_safe_of_callback stopped connected timerClosing tcpClosing taken)

/-- In one phase the timer is given to `uv_close` and the socket still reads. -/
theorem InPhase.begun (inPhase : InPhase havestop phase loop) (reads : loop.tcp = .opened)
    (begun : loop.timer ≠ .opened) : loop = ⟨true, true, .closing, .opened, [.uvClose .timer]⟩ := by
  cases inPhase with
  | unpublished => rfl
  | connected => cases begun rfl
  | socketClosing => cases reads
  | finishedBySocket => cases reads
  | peerGone => cases reads
  | timerClosing => cases reads
  | finishedByTimer => cases reads
  | abandoned => cases reads

theorem InPhase.disturbed (inPhase : InPhase havestop phase loop) (disturbed : ¬ Undisturbed loop event)
    (taken : loopStep loop event = some after) : Doomed after := by
  rcases Classical.not_imp.mp disturbed with ⟨disturbs, begun⟩
  rcases disturbs with rfl | rfl
  · rcases Option.ite_some_none_eq_some.mp taken with ⟨reads, rfl⟩
    rw [inPhase.begun reads begun]
    exact Or.inl (by decide)
  · rcases Option.ite_some_none_eq_some.mp taken with ⟨reads, rfl⟩
    rw [inPhase.begun reads begun]
    exact Or.inr ⟨rfl, rfl, rfl, rfl⟩

/-! ## Whole runs -/

/-- Every callback that is due has come. -/
def EventLoop.Settled (loop : EventLoop) : Prop := loop.timer ≠ .closing ∧ loop.tcp ≠ .closing

theorem Doomed.not_safe (doomed : Doomed loop) (settled : loop.Settled) : ¬ ShutdownSafe loop.actions := by
  rcases doomed with broken | ⟨_, _, timerClosing, _⟩
  · exact broken
  · cases settled.1 timerClosing

def Orderly (havestop : Bool) (loop : EventLoop) : Prop := Exists fun phase => InPhase havestop phase loop

/-- A step that disturbs dooms the client, if it was not doomed before. -/
theorem doomed_of_disturbed (before : Orderly havestop loop ∨ Doomed loop) (disturbed : ¬ Undisturbed loop event)
    (taken : loopStep loop event = some after) : Doomed after := by
  rcases before with ⟨phase, inPhase⟩ | doomed
  · exact inPhase.disturbed disturbed taken
  · exact doomed.step taken

theorem orderly_or_doomed {events : List LoopEvent}
    (ran : runAll loopStep (.start havestop) events = some loop) : Orderly havestop loop ∨ Doomed loop := by
  have preserved : forall state event after, Orderly havestop state ∨ Doomed state ->
      loopStep state event = some after -> Orderly havestop after ∨ Doomed after := by
    intro state event after before taken
    by_cases undisturbed : Undisturbed state event
    · rcases before with ⟨phase, inPhase⟩ | doomed
      · rcases inPhase.step undisturbed taken with ⟨next, _, reached⟩
        exact Or.inl ⟨next, reached⟩
      · exact Or.inr (doomed.step taken)
    · exact Or.inr (doomed_of_disturbed before undisturbed taken)
  exact runAll_invariant preserved (Or.inl ⟨.connected, .connected⟩) ran

/-- An undisturbed run of the client is a run of the shutdown. -/
theorem shutdown_simulated {events : List LoopEvent}
    (guarded : Guarded loopStep Undisturbed (.start havestop) events)
    (ran : runAll loopStep (.start havestop) events = some loop) :
    Exists fun phase => runAll (Phase.next havestop) .connected events = some phase ∧
      InPhase havestop phase loop := by
  apply guarded.simulated _ InPhase.connected ran
  intro phase loop event after inPhase undisturbed taken
  exact inPhase.step undisturbed taken

/-- A run in which all callbacks have come is doomed by one disturbance. -/
theorem undisturbed_of_safe {events : List LoopEvent}
    (ran : runAll loopStep (.start havestop) events = some loop) (settled : loop.Settled)
    (safe : ShutdownSafe loop.actions) : Guarded loopStep Undisturbed (.start havestop) events := by
  intro done event later split state reached
  by_contra disturbed
  rw [split, runAll_append, reached, Option.bind_some, runAll] at ran
  rcases Option.bind_eq_some_iff.mp ran with ⟨after, taken, rest⟩
  have doomed : Doomed after := doomed_of_disturbed (orderly_or_doomed reached) disturbed taken
  have doomedLast : Doomed loop :=
    runAll_invariant (fun state event after before taken => before.step taken) doomed rest
  exact doomedLast.not_safe settled safe

/-- The shutdown is safe in the runs where no Unpublish.Success, close or error
of the peer comes between `uv_close` on the timer and its callback, and, where
all callbacks have come, in no others. -/
theorem shutdown_undisturbed (havestop : Bool) (events : List LoopEvent) :
    (Guarded loopStep Undisturbed (.start havestop) events ->
      Always loopStep (fun loop => ShutdownSafe loop.actions) (.start havestop) events) ∧
    forall loop, runAll loopStep (.start havestop) events = some loop -> loop.Settled ->
      Always loopStep (fun loop => ShutdownSafe loop.actions) (.start havestop) events ->
      Guarded loopStep Undisturbed (.start havestop) events := by
  constructor
  · intro guarded done later split loop ran
    rw [split] at guarded
    rcases shutdown_simulated guarded.of_append ran with ⟨phase, _, inPhase⟩
    exact inPhase.safe
  · intro loop ran settled always
    exact undisturbed_of_safe ran settled (always events [] (List.append_nil events).symm loop ran)

/-- Taken down by the server, the client and its socket are deleted once each. -/
theorem unpublish_shutdown :
    Always loopStep (fun loop => ShutdownSafe loop.actions) (.start false)
      [.unpublishSuccess, .timerClosed, .socketClosed] := by
  apply (shutdown_undisturbed false _).1
  refine Guarded.cons (by decide) ?_
  intro unpublished taken
  cases taken
  refine Guarded.cons (by decide) ?_
  intro timerClosed taken
  cases taken
  refine Guarded.cons (by decide) ?_
  intro socketClosed _
  exact Guarded.nil socketClosed

/-- A second Unpublish.Success closes the timer twice.  If the peer closes
instead, the timer's callback deletes the client before the socket's has come. -/
theorem unpublish_disturbed :
    ¬ Always loopStep (fun loop => ShutdownSafe loop.actions) (.start false)
        [.unpublishSuccess, .unpublishSuccess] ∧
      ¬ Always loopStep (fun loop => ShutdownSafe loop.actions) (.start false)
        [.unpublishSuccess, .peerClose, .timerClosed] := by
  constructor
  · intro always
    have safe := always [.unpublishSuccess, .unpublishSuccess] [] rfl _ rfl
    revert safe
    decide
  · intro always
    have safe := always [.unpublishSuccess, .peerClose, .timerClosed] [] rfl _ rfl
    revert safe
    decide

end Client
end RtmpClient
