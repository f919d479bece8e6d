import SleepySession.Notifications.Service

/-!
# The D-Bus notification server

One thread owns the bus connection.  It sends the queued action signals,
answers calls and reacts to lost peers, and then closes the popups whose time
is over.  Commands of the desktop and action invocations reach the service
from other threads, in any order with the steps of the server thread.
-/

namespace SleepySession

open Program SecureDirectory

/-- The signals of `org.freedesktop.Notifications`. -/
inductive Signal where
  | actionInvoked (id : Nat) (action : String)
  | notificationClosed (id : Nat) (reason : Nat)
deriving DecidableEq, Repr

structure NotificationDbusServer where
  service : NotificationEventService
  /-- Action signals that the server thread has yet to send. -/
  controls : List (Nat × String)
  /-- Invocations that passed their check and were not queued yet. -/
  invoking : List (Nat × String)
  signals : List Signal
  /-- The fate of the signals to come: whether the connection rejects them. -/
  rejections : List Bool
  failure : Option String
  /-- Whether the server thread has ended. -/
  stopped : Bool

/-- Programs over a server. -/
abbrev ServerProgram (α : Type) :=
  Program (Answer NotificationFile String) NotificationDbusServer IoError α

/-- The steps of the server thread and of the other threads. -/
inductive ServerEvent where
  | drain
  | notify (request : NotifyRequest) (now : Nat)
  | closeNotification (id : Nat)
  | ownerLost (name : String)
  | tick (now : Nat)
  | command (command : NotificationCommand)
  | invoke (id : Nat) (action : String)
  | enqueue (position : Nat)
deriving DecidableEq, Repr

namespace NotificationDbusServer

def onService {α : Type} (m : ServiceProgram α) : ServerProgram α :=
  m.zoom service fun service self => { self with service := service }

def sendSignal (signal : Signal) : ServerProgram Unit := do
  let self ← get
  let rejected := self.rejections.headD false
  modify fun self => { self with rejections := self.rejections.tail }
  if rejected then
    throw ⟨.brokenPipe, "failed to send D-Bus signal"⟩
  else
    modify fun self => { self with signals := self.signals ++ [signal] }

def reportFailure (error : IoError) : ServerProgram Unit :=
  modify fun self => { self with failure := some error.message }

/-- The server thread ends with a failure. -/
def stop (error : IoError) : ServerProgram Unit := do
  reportFailure error
  modify fun self => { self with stopped := true }

/-- Send the action signal at the head of the queue. -/
def drain : ServerProgram Unit := do
  let self ← get
  match self.controls with
  | [] => pure ()
  | (id, action) :: controls => do
      modify fun self => { self with controls := controls }
      let sent ← (sendSignal (.actionInvoked id action)).attempt
      match sent with
      | .ok _ => pure ()
      | .error e => stop e

variable (sdk : NotificationSdk)

def handleNotify (request : NotifyRequest) (now : Nat) : ServerProgram Unit := do
  let _ ← onService (NotificationEventService.notify sdk request now)
  pure ()

def handleClose (id : Nat) : ServerProgram Unit := do
  onService (NotificationEventService.execute sdk (.dismiss id))
  sendSignal (.notificationClosed id 3)

/-- The callback of `NameOwnerChanged` for a unique name without a new owner. -/
def ownerLost (name : String) : ServerProgram Unit := do
  let result ← (onService (NotificationEventService.originLost sdk name)).attempt
  match result with
  | .ok _ => pure ()
  | .error e => reportFailure e

/-- The end of one round of the server thread. -/
def tick (now : Nat) : ServerProgram Unit := do
  let self ← get
  if self.failure.isSome then
    modify fun self => { self with stopped := true }
  else do
    let expired ← (onService (NotificationEventService.advancePopupTime now)).attempt
    match expired with
    | .error e => stop e
    | .ok ids => do
        let closed ← (each (fun id => sendSignal (.notificationClosed id 1))
          (ids.filter (· ≤ maxNotificationId))).attempt
        match closed with
        | .ok _ => pure ()
        | .error e => stop e

def command (command : NotificationCommand) : ServerProgram Unit :=
  onService (NotificationEventService.execute sdk command)

/-- The check of `NotificationActionDispatcher::invoke`. -/
def invoke (id : Nat) (action : String) : ServerProgram Unit := do
  let self ← get
  if id > maxNotificationId then
    throw ⟨.invalidInput, "notification id exceeds D-Bus range"⟩
  else do
    let _ ← orThrow (self.service.provider.invokeAction id action)
    modify fun self => { self with invoking := self.invoking ++ [(id, action)] }

/-- The rest of `NotificationActionDispatcher::invoke`, for one of its callers. -/
def enqueue (position : Nat) : ServerProgram Unit := do
  let self ← get
  match self.invoking[position]? with
  | none => pure ()
  | some invocation => do
      modify fun self => { self with invoking := self.invoking.eraseIdx position }
      if self.stopped then
        throw ⟨.brokenPipe, "D-Bus server stopped"⟩
      else
        modify fun self => { self with controls := self.controls ++ [invocation] }

def step : ServerEvent → ServerProgram Unit
  | .drain => drain
  | .notify request now => handleNotify sdk request now
  | .closeNotification id => handleClose sdk id
  | .ownerLost name => ownerLost sdk name
  | .tick now => tick now
  | .command c => command sdk c
  | .invoke id action => invoke id action
  | .enqueue position => enqueue position

end NotificationDbusServer

/-- Whether a step belongs to the server thread. -/
def ServerEvent.ofServerThread : ServerEvent → Bool
  | .drain | .notify _ _ | .closeNotification _ | .ownerLost _ | .tick _ => true
  | .command _ | .invoke _ _ | .enqueue _ => false

/-- The server just started over a provider that operations have led to. -/
def serverSystem (sdk : NotificationSdk) :
    System NotificationDbusServer (ServerEvent × List (Answer NotificationFile String)) where
  initial s :=
    s.controls = [] ∧ s.invoking = [] ∧ s.signals = [] ∧ s.failure = none ∧
      s.stopped = false ∧
      ∃ history, (providerSystem sdk).Reachable ⟨s.service.provider, history⟩
  step s event s' :=
    (event.1.ofServerThread = true → s.stopped = false) ∧
      ∃ outcome, outcome ≠ .crashed ∧
        (NotificationDbusServer.step sdk event.1).run event.2 s = (outcome, s')

end SleepySession
