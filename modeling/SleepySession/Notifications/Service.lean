import SleepySession.Notifications.ProviderInvariant

/-!
# The notification service

`NotificationEventService` commits an operation to its provider and then
publishes what changed, one event after another.  A publication that fails
ends the operation; the provider keeps what was committed.
-/

namespace SleepySession

open Program SecureDirectory

inductive NotificationChange where
  | added
  | updated
  | archived
  | actionExpired
deriving DecidableEq, Repr

/-- The events that the service publishes. -/
inductive SessionEvent where
  | notification (notificationId : Nat) (change : NotificationChange)
  | provider (providerId : String) (online : Bool)
deriving DecidableEq, Repr

structure NotificationEventService where
  provider : FreedesktopNotificationProvider
  /-- What the event hub has received from the service. -/
  published : List SessionEvent
  /-- The fate of the publications to come: the error of each that fails. -/
  fates : List (Option IoError)

/-- The error of the next publication, if it fails. -/
def NotificationEventService.nextFate (self : NotificationEventService) : Option IoError :=
  self.fates.headD none

/-- Programs over a service. -/
abbrev ServiceProgram (α : Type) :=
  Program (Answer NotificationFile String) NotificationEventService IoError α

namespace NotificationEventService

def onProvider {α : Type} (m : ProviderProgram α) : ServiceProgram α :=
  m.zoom provider fun provider self => { self with provider := provider }

/-- Publish one event through the generation authority. -/
def publish (event : SessionEvent) : ServiceProgram Unit := do
  let self ← get
  match self.nextFate with
  | none => modify fun self =>
      { self with published := self.published ++ [event], fates := self.fates.tail }
  | some error => do
      modify fun self => { self with fates := self.fates.tail }
      throw error

variable (sdk : NotificationSdk)

def notify (request : NotifyRequest) (now : Nat) : ServiceProgram NotifyOutcome := do
  let self ← get
  let requestedId := request.notification.id
  let change :=
    if requestedId ≠ 0 ∧ requestedId ∈ notificationIds self.provider.store.active then
      NotificationChange.updated
    else
      NotificationChange.added
  let outcome ← onProvider (FreedesktopNotificationProvider.notifyAt sdk request now)
  each (fun id => publish (.notification id .archived)) outcome.archivedIds
  publish (.notification outcome.id change)
  pure outcome

/-- The event of a command. -/
def commandEvent : NotificationCommand → SessionEvent
  | .markRead id => .notification id .updated
  | .dismiss id | .archive id => .notification id .archived
  | .setDnd enabled => .provider "org.freedesktop.Notifications.dnd" !enabled
  | .purgeArchive => .provider "org.freedesktop.Notifications.archive" true

def execute (command : NotificationCommand) : ServiceProgram Unit := do
  onProvider (FreedesktopNotificationProvider.execute sdk command)
  publish (commandEvent command)

def advancePopupTime (now : Nat) : ServiceProgram (List Nat) := do
  let expired ← onProvider (FreedesktopNotificationProvider.advancePopupTime now)
  each (fun id => publish (.notification id .updated)) expired
  pure expired

def originLost (origin : String) : ServiceProgram Unit := do
  let self ← get
  let ids := self.provider.idsForOrigin origin
  onProvider (FreedesktopNotificationProvider.originLost sdk origin)
  each (fun id => publish (.notification id .actionExpired)) ids

/-- The operations of the service, by the operation of the provider. -/
def program : ProviderCall → ServiceProgram ProviderReply
  | .notify request now => do
      let outcome ← notify sdk request now
      pure (.notified outcome)
  | .execute command => do
      execute sdk command
      pure .done
  | .advancePopupTime now => do
      let ids ← advancePopupTime now
      pure (.expired ids)
  | .originLost origin => do
      originLost sdk origin
      pure .done

end NotificationEventService

/-- The events of an operation, one for each notification that it changes. -/
def plannedEvents (p : FreedesktopNotificationProvider) : ProviderCall → List SessionEvent
  | .notify request _ =>
      let n := request.notification
      let id := if n.id = 0 then p.store.preferences.nextNotificationId else n.id
      let active := NotificationStore.pushed p.store.active { n with id := id }
      let archived := active.take (active.length - p.store.capacity)
      (notificationIds archived).map (.notification · .archived) ++
        [.notification id
          (if n.id ≠ 0 ∧ n.id ∈ notificationIds p.store.active then .updated else .added)]
  | .execute command => [NotificationEventService.commandEvent command]
  | .advancePopupTime now =>
      (FreedesktopNotificationProvider.sortedIds
        (FreedesktopNotificationProvider.expired now) p.popups).map
          (.notification · .updated)
  | .originLost origin => (p.idsForOrigin origin).map (.notification · .actionExpired)

section Publishing

open NotificationEventService

variable {sdk : NotificationSdk} {s : NotificationEventService}

/-- Publish a list of events until one fails. -/
def publishAll : List SessionEvent → NotificationEventService →
    Outcome IoError Unit × NotificationEventService
  | [], s => (.ok (), s)
  | event :: events, s =>
      match s.nextFate with
      | none => publishAll events
          { s with published := s.published ++ [event], fates := s.fates.tail }
      | some error => (.error error, { s with fates := s.fates.tail })

/-- The end of an operation: publish its events, then return its result. -/
def announce {α : Type} (events : List SessionEvent) (result : α)
    (s : NotificationEventService) : Outcome IoError α × NotificationEventService :=
  Outcome.thenRun (fun _ s' => (.ok result, s')) (publishAll events s)

/-- The outcome of an operation from that of the provider. -/
def finish (events : ProviderReply → List SessionEvent)
    (s : NotificationEventService)
    (result : Outcome IoError ProviderReply × FreedesktopNotificationProvider) :
    Outcome IoError ProviderReply × NotificationEventService :=
  Outcome.thenRun (fun reply s' => announce (events reply) reply s')
    (result.1, { s with provider := result.2 })

theorem run_publish
    (event : SessionEvent) (script : List (Answer NotificationFile String))
    (s : NotificationEventService) :
    (publish event).run script s = publishAll [event] s := by
  cases hfate : s.nextFate with
  | none => simp [publish, publishAll, run, Program.get, Program.modify, hfate, andThen, bind]
  | some error =>
      simp [publish, publishAll, run, Program.get, Program.modify, hfate, andThen, bind]

theorem publishAll_append
    (events events' : List SessionEvent) (s : NotificationEventService) :
    publishAll (events ++ events') s =
      Outcome.thenRun (fun _ s' => publishAll events' s') (publishAll events s) := by
  induction events generalizing s with
  | nil => rfl
  | cons event events ih =>
      rw [List.cons_append, publishAll, publishAll]
      cases s.nextFate with
      | none => exact ih _
      | some error => rfl

theorem run_each_publish
    {α : Type}
    (f : α → SessionEvent) (l : List α)
    (script : List (Answer NotificationFile String)) (s : NotificationEventService) :
    (each (fun a => publish (f a)) l).run script s = publishAll (l.map f) s := by
  induction l generalizing script s with
  | nil => rfl
  | cons a l ih =>
      rw [each, run_bind fun _ script s => ih script s, run_publish]
      exact (publishAll_append [f a] (l.map f) s).symm

/-- The events of an operation that the provider answered. -/
def announcedEvents (s : NotificationEventService) :
    ProviderCall → ProviderReply → List SessionEvent
  | .notify request _, .notified outcome =>
      outcome.archivedIds.map (.notification · .archived) ++
        [.notification outcome.id
          (if request.notification.id ≠ 0 ∧
              request.notification.id ∈ notificationIds s.provider.store.active then
            .updated
          else
            .added)]
  | .execute command, _ => [commandEvent command]
  | .advancePopupTime _, .expired ids => ids.map (.notification · .updated)
  | .originLost origin, _ =>
      (s.provider.idsForOrigin origin).map (.notification · .actionExpired)
  | _, _ => []

/-- A provider operation, followed by what asks nothing any more. -/
theorem run_onProvider_bind
    {α β : Type}
    {f : α → ServiceProgram β}
    {g : α → NotificationEventService → Outcome IoError β × NotificationEventService}
    (hf : ∀ a script s, (f a).run script s = g a s)
    (m : ProviderProgram α) (script : List (Answer NotificationFile String))
    (s : NotificationEventService) :
    (onProvider m >>= f).run script s =
      Outcome.thenRun g
        ((m.run script s.provider).1, { s with provider := (m.run script s.provider).2 }) := by
  have hzoom : (onProvider m).run script s =
      ((m.run script s.provider).1, { s with provider := (m.run script s.provider).2 }) := by
    unfold onProvider
    refine run_zoom ?_ ?_ ?_ m script s
    · exact fun _ _ => rfl
    · exact fun _ => rfl
    · exact fun _ _ _ => rfl
  rw [run_bind hf, hzoom]

theorem run_publish_pure
    {α : Type}
    (event : SessionEvent) (result : α)
    (script : List (Answer NotificationFile String)) (s : NotificationEventService) :
    (publish event >>= fun _ => pure result).run script s = announce [event] result s := by
  rw [run_bind (g := fun _ s => (.ok result, s)) fun _ _ _ => rfl, run_publish]
  rfl

theorem announce_append
    {α : Type}
    (events events' : List SessionEvent) (result : α) (s : NotificationEventService) :
    announce (events ++ events') result s =
      Outcome.thenRun (fun _ s' => announce events' result s') (publishAll events s) := by
  unfold announce
  rw [publishAll_append]
  rcases publishAll events s with ⟨outcome, s'⟩
  cases outcome <;> rfl

/-- Answering with the result of the provider changes nothing else. -/
theorem run_reply
    {α : Type}
    {m : ServiceProgram α} {m' : ProviderProgram α} (reply : α → ProviderReply)
    {events : α → List SessionEvent}
    {script : List (Answer NotificationFile String)} {s : NotificationEventService}
    (hrun : m.run script s =
      Outcome.thenRun (fun a s' => announce (events a) a s')
        ((m'.run script s.provider).1,
          { s with provider := (m'.run script s.provider).2 }))
    {planned : ProviderReply → List SessionEvent}
    (hevents : ∀ a, planned (reply a) = events a) :
    (m >>= fun a => pure (reply a)).run script s =
      finish planned s ((m' >>= fun a => pure (reply a)).run script s.provider) := by
  rw [run_bind (g := fun a s => (.ok (reply a), s)) fun _ _ _ => rfl, hrun,
    run_bind (g := fun a p => (.ok (reply a), p)) fun _ _ _ => rfl]
  rcases m'.run script s.provider with ⟨outcome, p'⟩
  cases outcome with
  | ok a =>
      simp only [Outcome.thenRun, finish, hevents, announce]
      rcases publishAll (events a) _ with ⟨outcome, s'⟩
      cases outcome <;> rfl
  | error e => rfl
  | crashed => rfl

/-- An operation is that of the provider, followed by its events. -/
theorem run_program
    (call : ProviderCall) (script : List (Answer NotificationFile String))
    (s : NotificationEventService) :
    (NotificationEventService.program sdk call).run script s =
      finish (announcedEvents s call) s ((call.program sdk).run script s.provider) := by
  cases call with
  | notify request now =>
      refine run_reply ProviderReply.notified
        (run_onProvider_bind ?_ _ script s) fun _ => rfl
      intro outcome script s'
      rw [run_bind fun _ script s => run_publish_pure _ outcome script s, run_each_publish]
      exact (announce_append _ _ outcome s').symm
  | execute command =>
      refine run_reply (fun _ => ProviderReply.done)
        (run_onProvider_bind ?_ _ script s) fun _ => rfl
      intro _ script s'
      rw [run_publish]
      rcases h : publishAll [commandEvent command] s' with ⟨outcome, s''⟩
      simp only [announce, announcedEvents, h]
      cases outcome <;> rfl
  | advancePopupTime now =>
      refine run_reply ProviderReply.expired
        (run_onProvider_bind ?_ _ script s) fun _ => rfl
      intro ids script s'
      rw [run_bind (g := fun _ s => (.ok ids, s)) fun _ _ _ => rfl, run_each_publish]
      rfl
  | originLost origin =>
      refine run_reply (fun _ => ProviderReply.done)
        (run_onProvider_bind ?_ _ script s) fun _ => rfl
      intro _ script s'
      rw [run_each_publish]
      rcases h : publishAll _ s' with ⟨outcome, s''⟩
      simp only [announce, announcedEvents, h]
      cases outcome <;> rfl

end Publishing

end SleepySession
