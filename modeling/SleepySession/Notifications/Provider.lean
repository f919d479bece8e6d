import SleepySession.Lib.Table
import SleepySession.Notifications.Store

/-!
# The notification provider

`FreedesktopNotificationProvider` adds to the store who sent a notification,
by its D-Bus name, and which notifications are shown as popups, with the time
at which a popup expires.
-/

namespace SleepySession

open Program SecureDirectory

structure NotifyRequest where
  origin : String
  notification : NotificationDocument
deriving DecidableEq, Repr

structure NotifyOutcome where
  id : Nat
  popup : Bool
  archivedIds : List Nat
deriving DecidableEq, Repr

structure ActionInvocation where
  notificationId : Nat
  actionId : String
  origin : String
deriving DecidableEq, Repr

inductive NotificationCommand where
  | markRead (id : Nat)
  | dismiss (id : Nat)
  | archive (id : Nat)
  | setDnd (enabled : Bool)
  | purgeArchive
deriving DecidableEq, Repr

structure FreedesktopNotificationProvider where
  store : NotificationStore
  origins : Table Nat String
  popups : Table Nat (Option Nat)

/-- Programs over a provider. -/
abbrev ProviderProgram (α : Type) :=
  Program (Answer NotificationFile String) FreedesktopNotificationProvider IoError α

/-- Nanoseconds in a millisecond; instants are counted in nanoseconds. -/
def nanosPerMilli : Nat := 1000000

namespace FreedesktopNotificationProvider

def onStore {α : Type} (m : NotificationProgram α) : ProviderProgram α :=
  m.zoom store fun store self => { self with store := store }

/-- The rejection of an origin that is blank or too long. -/
def checkOrigin (origin : String) : Except IoError Unit :=
  if blank origin || origin.utf8ByteSize > 255 then
    .error ⟨.invalidInput, "invalid notification D-Bus origin"⟩
  else
    .ok ()

/-- Only the sender of an active notification may replace it. -/
def checkReplacement (self : FreedesktopNotificationProvider) (request : NotifyRequest) :
    Except IoError Unit :=
  if request.notification.id = 0 then
    .ok ()
  else if request.notification.id ∈ notificationIds self.store.active ∧
      self.origins.get? request.notification.id = some request.origin then
    .ok ()
  else
    .error ⟨.permissionDenied,
      "replaces_id is not an active notification owned by this D-Bus source"⟩

/-- A positive timeout counts from now; no timeout means that a popup stays. -/
def popupDeadline (timeoutMs : Option Nat) (now : Nat) : Option Nat :=
  (timeoutMs.filter (0 < ·)).map fun timeout => now + timeout * nanosPerMilli

def removeAll {α : Type} (ids : List Nat) (table : Table Nat α) : Table Nat α :=
  ids.foldl Table.remove table

variable (sdk : NotificationSdk)

def notifyAt (request : NotifyRequest) (now : Nat) : ProviderProgram NotifyOutcome := do
  let self ← get
  orThrow (checkOrigin request.origin)
  orThrow (checkReplacement self request)
  let popup := self.store.popupAllowed request.notification
  let result ← onStore (NotificationStore.push sdk request.notification)
  modify fun self =>
    let popups := removeAll result.archivedIds self.popups
    { self with
      origins := self.origins.insert result.id request.origin
      popups :=
        if popup then
          popups.insert result.id (popupDeadline request.notification.timeoutMs now)
        else
          popups.remove result.id }
  pure ⟨result.id, popup, result.archivedIds⟩

def criticalIds (documents : List NotificationDocument) : List Nat :=
  notificationIds (documents.filter (·.urgency = .critical))

def execute : NotificationCommand → ProviderProgram Unit
  | .markRead id => onStore (NotificationStore.markRead sdk id)
  | .dismiss id | .archive id => do
      onStore (NotificationStore.dismiss sdk id)
      modify fun self => { self with popups := self.popups.remove id }
  | .setDnd enabled => do
      onStore (NotificationStore.setDnd sdk enabled)
      if enabled then
        modify fun self =>
          { self with
            popups := self.popups.retain (· ∈ criticalIds self.store.active) }
      else
        pure ()
  | .purgeArchive => do
      let self ← get
      let purged := notificationIds self.store.archive
      onStore (NotificationStore.purgeArchive sdk)
      modify fun self =>
        { self with
          origins := removeAll purged self.origins
          popups := removeAll purged self.popups }

def popupVisible (self : FreedesktopNotificationProvider) (id : Nat) : Bool :=
  self.popups.contains id

/-- Whether a deadline has passed. -/
def expired (now : Nat) : Option Nat → Bool
  | some deadline => now ≥ deadline
  | none => false

/-- The identifiers whose value satisfies `p`, in ascending order. -/
def sortedIds {α : Type} (p : α → Bool) (table : Table Nat α) : List Nat :=
  ((table.entries.filter fun entry => p entry.2).map Prod.fst).mergeSort

def advancePopupTime (now : Nat) : ProviderProgram (List Nat) := do
  let self ← get
  let ids := sortedIds (expired now) self.popups
  modify fun self => { self with popups := removeAll ids self.popups }
  pure ids

/-- The identifiers that an origin has sent, in ascending order. -/
def idsForOrigin (self : FreedesktopNotificationProvider) (origin : String) : List Nat :=
  sortedIds (· = origin) self.origins

def originLost (origin : String) : ProviderProgram Unit := do
  let self ← get
  let ids := self.idsForOrigin origin
  onStore (NotificationStore.expireActions sdk ids)
  modify fun self => { self with origins := removeAll ids self.origins }

def invokeAction (self : FreedesktopNotificationProvider)
    (notificationId : Nat) (actionId : String) : Except IoError ActionInvocation :=
  match self.store.active.find? (·.id = notificationId) with
  | none => .error ⟨.notFound, "notification not found"⟩
  | some notification =>
      match notification.actions.find? (·.id = actionId) with
      | none => .error ⟨.notFound, "notification action not found"⟩
      | some action =>
          match self.origins.get? notificationId with
          | none => .error ⟨.notConnected, "notification origin is no longer available"⟩
          | some origin =>
              if action.state ≠ .available then
                .error ⟨.notConnected, "notification action has expired"⟩
              else
                .ok ⟨notificationId, action.id, origin⟩

/-- `FreedesktopNotificationProvider::new`. -/
def new : NotificationProgram FreedesktopNotificationProvider := do
  NotificationStore.expireAllActions sdk
  let store ← get
  pure ⟨store, .empty, .empty⟩

end FreedesktopNotificationProvider

end SleepySession
