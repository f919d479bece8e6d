import SleepySession.Lib.Run

/-!
# The startup barrier

Required tasks acknowledge on a channel and wait for the outcome; the owner of
the barrier collects the acknowledgements, sends the service-ready notification
and releases everybody.  The outcome is one atomic value that only a holder of
the blocking mutex changes; asynchronous waiters read it without the mutex.
Failures of a task come from its handle, which fails the barrier when it is
dropped before it was handed off, from its own report or from a clone of its
cancellation.
-/

namespace SleepySession
namespace Sessiond

inductive StartupState where
  | pending
  | released
  | cancelled
  deriving DecidableEq, Repr

inductive StartupAcknowledgement (ι : Type) where
  | ready (c : ι)
  | failed (c : ι)
  deriving DecidableEq, Repr

/-- What the holder of the blocking mutex is doing. -/
inductive BlockingHolder (ι : Type) where
  /-- In `fail`. -/
  | failing (c : ι)
  /-- In `cancel`. -/
  | cancelling
  /-- In `notify_and_release`, before the state is read. -/
  | notifying
  /-- The notification has been tried; the transition is next. -/
  | notified (success : Bool)
  /-- The state has changed; the waiters are woken next. -/
  | waking (sender : Option ι)
  /-- In `wait_blocking`. -/
  | waiter (c : ι)
  deriving DecidableEq, Repr

inductive TaskStage where
  | unregistered
  | held
  /-- At the top of the loop of `wait_async`. -/
  | async
  /-- The notification future exists; the state is read next. -/
  | listening (epoch : Nat)
  | parked (epoch : Nat)
  /-- About to take the mutex in `wait_blocking`. -/
  | blocking
  | sleeping (epoch : Nat)
  | observed (success : Bool)
  /-- In the destructor of the handle, about to take the mutex. -/
  | dropping
  | dropped
  deriving DecidableEq, Repr

/-- The owner of the barrier in `complete_startup`. -/
inductive OwnerStage where
  | preparing
  | receiving (count : Nat)
  | acknowledged
  | returned
  deriving DecidableEq, Repr

inductive StartupAction (ι : Type) where
  | ready (c : ι)
  | failed (c : ι)
  /-- A handle that was not handed off holds the mutex in order to fail the barrier. -/
  | dropped (c : ι)
  /-- The service-ready notification was sent, or its sending failed. -/
  | notified (success : Bool)
  | settled (state : StartupState)
  | observed (c : ι) (success : Bool)
  deriving DecidableEq, Repr

structure StartupRun (ι : Type) where
  state : StartupState
  /-- How often the waiters have been woken. -/
  epoch : Nat
  mutex : Option (BlockingHolder ι)
  channel : List (StartupAcknowledgement ι)
  consumed : List (StartupAcknowledgement ι)
  required : List ι
  owner : OwnerStage
  tasks : ι → TaskStage
  /-- A failure that was decided and not yet reported on the channel. -/
  sending : Option ι
  /-- The newest action comes first. -/
  history : List (StartupAction ι)

inductive StartupEvent (ι : Type) where
  | register (c : ι)
  | ready (c : ι) (blocking : Bool)
  | listen (c : ι)
  | load (c : ι)
  | resume (c : ι)
  | lockWait (c : ι)
  | checkWait (c : ι)
  | drop (c : ι)
  | lockDrop (c : ι)
  | lockFail (c : ι)
  | decideFail (c : ι)
  | sendFailed
  | wake
  | beginWaiting
  | receive
  | allReceived
  | lockNotify
  | notify (success : Bool)
  | release
  | lockCancel
  | decideCancel
  deriving DecidableEq, Repr

section Steps

variable {ι : Type} [DecidableEq ι]

def StartupRun.setTask (s : StartupRun ι) (c : ι) (stage : TaskStage) : StartupRun ι :=
  { s with tasks := Function.update s.tasks c stage }

def StartupRun.log (s : StartupRun ι) (action : StartupAction ι) : StartupRun ι :=
  { s with history := action :: s.history }

/-- `transition_locked`: the compare-and-exchange from the pending state. -/
def StartupRun.transition
    (s : StartupRun ι) (state : StartupState) (sender : Option ι) : StartupRun ι :=
  if s.state = .pending then
    { s with
      state := state
      mutex := some (.waking sender)
      history := .settled state :: s.history }
  else { s with mutex := none }

/-- A waiter has read a state that is not pending. -/
def StartupRun.observe (s : StartupRun ι) (c : ι) (success : Bool) : StartupRun ι :=
  (s.setTask c (.observed success)).log (.observed c success)

/-- The handle may still be dropped: `wait_blocking` cannot be interrupted. -/
def TaskStage.droppable : TaskStage → Bool
  | .held => true
  | .async => true
  | .listening _ => true
  | .parked _ => true
  | .observed false => true
  | _ => false

/-- The owner is inside `notify_and_release` or `cancel`. -/
def BlockingHolder.ofOwner : BlockingHolder ι → Bool
  | .cancelling => true
  | .notifying => true
  | .notified _ => true
  | _ => false

/-- One atomic step of a task or of the owner. -/
def StartupRun.after (s : StartupRun ι) : StartupEvent ι → Option (StartupRun ι)
  | .register c =>
      if s.owner = .preparing ∧ s.tasks c = .unregistered then
        some ({ s with required := c :: s.required }.setTask c .held)
      else none
  | .ready c blocking =>
      if s.tasks c = .held then
        some ((StartupRun.setTask { s with channel := s.channel ++ [.ready c] } c
          (if blocking then .blocking else .async)).log (.ready c))
      else none
  | .listen c =>
      if s.tasks c = .async then some (s.setTask c (.listening s.epoch)) else none
  | .load c =>
      match s.tasks c with
      | .listening epoch =>
          match s.state with
          | .released => some (s.observe c true)
          | .cancelled => some (s.observe c false)
          | .pending => some (s.setTask c (.parked epoch))
      | _ => none
  | .resume c =>
      match s.tasks c with
      | .parked epoch => if epoch < s.epoch then some (s.setTask c .async) else none
      | _ => none
  | .lockWait c =>
      -- a sleeper may also wake without having been notified
      match s.tasks c, s.mutex with
      | .blocking, none => some { s.setTask c .blocking with mutex := some (.waiter c) }
      | .sleeping _, none => some { s.setTask c .blocking with mutex := some (.waiter c) }
      | _, _ => none
  | .checkWait c =>
      if s.mutex = some (.waiter c) ∧ s.tasks c = .blocking then
        match s.state with
        | .released => some { s.observe c true with mutex := none }
        | .cancelled => some { s.observe c false with mutex := none }
        | .pending => some { s.setTask c (.sleeping s.epoch) with mutex := none }
      else none
  | .drop c =>
      -- a handle that was handed off is dropped without effect
      if s.tasks c = .observed true then some s
      else if (s.tasks c).droppable then some (s.setTask c .dropping)
      else none
  | .lockDrop c =>
      if s.tasks c = .dropping ∧ s.mutex = none then
        some ((StartupRun.setTask { s with mutex := some (.failing c) } c .dropped).log
          (.dropped c))
      else none
  | .lockFail c =>
      if s.tasks c ≠ .unregistered ∧ s.mutex = none then
        some { s with mutex := some (.failing c) }
      else none
  | .decideFail c =>
      if s.mutex = some (.failing c) then
        some ((s.transition .cancelled (some c)).log (.failed c))
      else none
  | .sendFailed =>
      match s.sending with
      | some c => some { s with channel := s.channel ++ [.failed c], sending := none }
      | none => none
  | .wake =>
      match s.mutex with
      | some (.waking sender) =>
          some { s with
            epoch := s.epoch + 1
            mutex := none
            sending := if sender.isSome then sender else s.sending }
      | _ => none
  | .beginWaiting =>
      match s.owner with
      | .preparing => some { s with owner := .receiving 0 }
      | .returned =>
          if s.mutex.any (·.ofOwner) then none else some { s with owner := .receiving 0 }
      | _ => none
  | .receive =>
      match s.owner, s.channel with
      | .receiving count, .ready c :: rest =>
          if count < s.required.length then
            some { s with
              channel := rest
              consumed := s.consumed ++ [.ready c]
              owner := .receiving (count + 1) }
          else none
      | .receiving count, .failed c :: rest =>
          if count < s.required.length then
            some { s with
              channel := rest
              consumed := s.consumed ++ [.failed c]
              owner := .returned }
          else none
      | _, _ => none
  | .allReceived =>
      if s.owner = .receiving s.required.length then some { s with owner := .acknowledged }
      else none
  | .lockNotify =>
      if s.owner = .acknowledged ∧ s.mutex = none then
        some { s with mutex := some .notifying }
      else none
  | .notify success =>
      if s.mutex = some .notifying then
        match s.state with
        | .pending =>
            some { s with
              mutex := some (.notified success)
              owner := .returned
              history := .notified success :: s.history }
        | _ => some { s with mutex := none, owner := .returned }
      else none
  | .release =>
      match s.mutex with
      | some (.notified success) =>
          some (s.transition (if success then .released else .cancelled) none)
      | _ => none
  | .lockCancel =>
      if s.mutex = none then some { s with mutex := some .cancelling, owner := .returned }
      else none
  | .decideCancel =>
      if s.mutex = some .cancelling then some (s.transition .cancelled none) else none

def StartupRun.start : StartupRun ι where
  state := .pending
  epoch := 0
  mutex := none
  channel := []
  consumed := []
  required := []
  owner := .preparing
  tasks := fun _ => .unregistered
  sending := none
  history := []

/-- All interleavings of the tasks and the owner of one barrier. -/
def startupSystem (ι : Type) [DecidableEq ι] : System (StartupRun ι) (StartupEvent ι) :=
  .ofStep (fun s => s = StartupRun.start) (fun s e => s.after e)

end Steps

end Sessiond
end SleepySession
