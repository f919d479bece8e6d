import SleepySession.Notifications.Directory

/-!
# The notification store

The store keeps the active and the archived notifications and the preferences
in memory.  Every operation computes a candidate for all three, commits it to
the directory under a journal, and only then replaces what is in memory.
-/

namespace SleepySession

open Program SecureDirectory

structure NotificationStore where
  /-- What the directory of the store holds. -/
  directory : NotificationFiles
  capacity : Nat
  aggregateLimit : Nat
  active : List NotificationDocument
  archive : List NotificationDocument
  preferences : Preferences

/-- Programs over a store and its directory. -/
abbrev NotificationProgram (α : Type) :=
  Program (Answer NotificationFile String) NotificationStore IoError α

structure PushResult where
  id : Nat
  archivedIds : List Nat
deriving DecidableEq, Repr

inductive NotificationCommitStage where
  | journalCommitted
  | activeCommitted
  | archiveCommitted
  | preferencesCommitted
  | journalRemoved
  | directorySynced
deriving DecidableEq, Repr

/-- The observer of a stage decides whether the commit goes on. -/
def NotificationStore.observe (_ : NotificationCommitStage) : DirectoryProgram Unit :=
  system SecureDir.syscall

section Files

variable (sdk : NotificationSdk)

/-- The three replacements of a journal's contents. -/
def writeState (active archive : List NotificationDocument) (preferences : Preferences)
    (observe : NotificationCommitStage → DirectoryProgram Unit) :
    DirectoryProgram Unit := do
  writeDocuments sdk .active active
  observe .activeCommitted
  writeDocuments sdk .archive archive
  observe .archiveCommitted
  atomicJson .preferences preferences.json
  observe .preferencesCommitted
  remove .transaction
  observe .journalRemoved
  sync

/-- The part of `commit_candidate` that works on the directory. -/
def commitFiles (active archive : List NotificationDocument) (preferences : Preferences) :
    DirectoryProgram Unit := do
  atomicJson .transaction
    (sdk.transactionJson ⟨sdk.durableSchemaVersion, active, archive, preferences⟩)
  NotificationStore.observe .journalCommitted
  writeState sdk active archive preferences NotificationStore.observe
  NotificationStore.observe .directorySynced

def reconcile : DirectoryProgram Unit := do
  let transaction ← readJson sdk.parseTransaction .transaction
  match transaction with
  | none => pure ()
  | some transaction => do
      orThrow (sdk.requireDurableVersion transaction.schemaVersion)
      orThrow (sdk.requireDurableVersion transaction.preferences.schemaVersion)
      orThrow (sdk.validateDocuments transaction.active)
      orThrow (sdk.validateDocuments transaction.archive)
      writeState sdk transaction.active transaction.archive transaction.preferences
        fun _ => pure ()

/-- The greatest identifier of a list, or zero. -/
def greatestId (ids : List Nat) : Nat :=
  ids.foldr max 0

/-- The limits that a store is opened with. -/
def checkLimits (capacity aggregateLimit : Nat) : Except IoError Unit :=
  if capacity = 0 then
    .error ⟨.invalidInput, "notification capacity must be positive"⟩
  else if aggregateLimit = 0 ∨ aggregateLimit ≥ maxDurableFileBytes then
    .error ⟨.invalidInput, "notification aggregate limit must fit in one durable document"⟩
  else
    .ok ()

/-- `open_with_limits`; opening the directory itself is left out. -/
def openWithLimits (capacity aggregateLimit : Nat) :
    DirectoryProgram NotificationStore := do
  orThrow (checkLimits capacity aggregateLimit)
  reconcile sdk
  let active ← readDocuments sdk .active
  let archive ← readDocuments sdk .archive
  let preferences ← readPreferences sdk
  let greatest := greatestId (notificationIds (active ++ archive))
  let preferences :=
    { preferences with
      nextNotificationId :=
        max preferences.nextNotificationId (min (greatest + 1) maxCounter) }
  orThrow (validateUniqueIds active archive)
  orThrow (sdk.validateAggregate active archive preferences aggregateLimit)
  let directory ← get
  pure ⟨directory, capacity, aggregateLimit, active, archive, preferences⟩

end Files

namespace NotificationStore

def dnd (self : NotificationStore) : Bool :=
  self.preferences.dnd

def popupAllowed (self : NotificationStore) (notification : NotificationDocument) : Bool :=
  !self.preferences.dnd || notification.urgency == .critical

def onDirectory {α : Type} (m : DirectoryProgram α) : NotificationProgram α :=
  m.zoom directory fun files self => { self with directory := files }

variable (sdk : NotificationSdk)

def commitCandidate (active archive : List NotificationDocument)
    (preferences : Preferences) : NotificationProgram Unit := do
  let self ← get
  orThrow (validateUniqueIds active archive)
  orThrow (sdk.validateAggregate active archive preferences self.aggregateLimit)
  onDirectory (commitFiles sdk active archive preferences)
  modify fun self =>
    { self with active := active, archive := archive, preferences := preferences }

def setDnd (enabled : Bool) : NotificationProgram Unit := do
  let self ← get
  commitCandidate sdk self.active self.archive { self.preferences with dnd := enabled }

/-- The identifier of a pushed notification, and the counter after it. -/
def assignId (preferences : Preferences) (notification : NotificationDocument) :
    Except IoError (NotificationDocument × Preferences) :=
  if notification.id = 0 then
    if preferences.nextNotificationId > maxNotificationId then
      .error ⟨.outOfMemory, "D-Bus notification identifiers exhausted"⟩
    else if preferences.nextNotificationId + 1 > maxCounter then
      .error ⟨.outOfMemory, "notification identifiers exhausted"⟩
    else
      .ok ({ notification with id := preferences.nextNotificationId },
        { preferences with nextNotificationId := preferences.nextNotificationId + 1 })
  else if notification.id ≥ preferences.nextNotificationId then
    if notification.id + 1 > maxCounter then
      .error ⟨.outOfMemory, "notification identifiers exhausted"⟩
    else
      .ok (notification, { preferences with nextNotificationId := notification.id + 1 })
  else
    .ok (notification, preferences)

/-- Take the first notification with the given identifier out of a list. -/
def takeOut (id : Nat) (documents : List NotificationDocument) :
    Option (NotificationDocument × List NotificationDocument) := do
  let index ← documents.findIdx? (·.id = id)
  let notification ← documents[index]?
  pure (notification, documents.eraseIdx index)

/-- The active list of a push, without the notification that is replaced. -/
def pushed (active : List NotificationDocument) (notification : NotificationDocument) :
    List NotificationDocument :=
  (active.eraseP (·.id = notification.id)) ++ [notification]

def markArchived (notification : NotificationDocument) : NotificationDocument :=
  { notification with archived := true }

def push (notification : NotificationDocument) : NotificationProgram PushResult := do
  let self ← get
  let (notification, preferences) ← orThrow (assignId self.preferences notification)
  orThrow (sdk.validateDocument notification)
  if self.archive.any (·.id = notification.id) then
    throw ⟨.alreadyExists, "archived notification identifiers cannot be reused"⟩
  let active := pushed self.active { notification with archived := false }
  let overflow := active.length - self.capacity
  let archived := (active.take overflow).map markArchived
  commitCandidate sdk (active.drop overflow) (self.archive ++ archived) preferences
  pure ⟨notification.id, notificationIds archived⟩

def notificationNotFound : IoError :=
  ⟨.notFound, "notification not found"⟩

def dismiss (id : Nat) : NotificationProgram Unit := do
  let self ← get
  match takeOut id self.active with
  | none => throw notificationNotFound
  | some (notification, active) =>
      commitCandidate sdk active (self.archive ++ [markArchived notification])
        self.preferences

/-- Change the first notification with the given identifier. -/
def updateFirst (id : Nat) (f : NotificationDocument → NotificationDocument)
    (documents : List NotificationDocument) : Option (List NotificationDocument) := do
  let index ← documents.findIdx? (·.id = id)
  pure (documents.modify index f)

def markRead (id : Nat) : NotificationProgram Unit := do
  let self ← get
  match updateFirst id (fun notification => { notification with read := true })
      self.active with
  | none => throw notificationNotFound
  | some active => commitCandidate sdk active self.archive self.preferences

def expireAction (action : NotificationAction) : NotificationAction :=
  { action with state := .expired }

def expireDocument (notification : NotificationDocument) : NotificationDocument :=
  { notification with actions := notification.actions.map expireAction }

def expireIn (ids : List Nat) (documents : List NotificationDocument) :
    List NotificationDocument :=
  documents.map fun notification =>
    if notification.id ∈ ids then expireDocument notification else notification

def expireActions (ids : List Nat) : NotificationProgram Unit := do
  if ids.isEmpty then
    pure ()
  else do
    let self ← get
    if ids.all (· ∈ notificationIds (self.active ++ self.archive)) then
      commitCandidate sdk (expireIn ids self.active) (expireIn ids self.archive)
        self.preferences
    else
      throw notificationNotFound

def purgeArchive : NotificationProgram Unit := do
  let self ← get
  commitCandidate sdk self.active [] self.preferences

/-- Whether some action of the notification can still be invoked. -/
def hasAvailableAction (notification : NotificationDocument) : Bool :=
  notification.actions.any (·.state = .available)

def expireAllActions : NotificationProgram Unit := do
  let self ← get
  if (self.active ++ self.archive).any hasAvailableAction then
    commitCandidate sdk (self.active.map expireDocument) (self.archive.map expireDocument)
      self.preferences
  else
    pure ()

end NotificationStore

end SleepySession
