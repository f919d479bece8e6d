import SleepySession.Lib.Program
import SleepySession.Store.IoError

/-!
# Notifications as documents

The document of one notification, the preferences of the store, the three
kinds of durable files, and the failures of the notification service.  The
text of a document, its validation and the parsing of the durable files belong
to libraries and are collected in `NotificationSdk`.
-/

namespace SleepySession

inductive NotificationUrgency where
  | low
  | normal
  | critical
deriving DecidableEq, Repr

inductive NotificationActionState where
  | available
  | expired
deriving DecidableEq, Repr

structure NotificationAction where
  id : String
  label : String
  state : NotificationActionState
deriving DecidableEq, Repr

structure NotificationDocument where
  schemaVersion : Nat
  id : Nat
  applicationId : String
  summary : String
  body : String
  urgency : NotificationUrgency
  createdAt : String
  timeoutMs : Option Nat
  read : Bool
  archived : Bool
  actions : List NotificationAction
deriving DecidableEq, Repr

def maxNotificationBytes : Nat := 64 * 1024

def maxDurableFileBytes : Nat := 64 * 1024 * 1024

/-- `u32::MAX`. -/
def maxNotificationId : Nat := 2 ^ 32 - 1

/-- `u64::MAX`. -/
def maxCounter : Nat := 2 ^ 64 - 1

def firstNotificationId : Nat := 1

structure Preferences where
  schemaVersion : Nat
  dnd : Bool
  nextNotificationId : Nat
deriving DecidableEq, Repr

structure DurableNotifications where
  schemaVersion : Nat
  notifications : List NotificationDocument
deriving DecidableEq, Repr

structure NotificationTransaction where
  schemaVersion : Nat
  active : List NotificationDocument
  archive : List NotificationDocument
  preferences : Preferences
deriving DecidableEq, Repr

/-- What the libraries do for the store. -/
structure NotificationSdk where
  durableSchemaVersion : Nat
  /-- `serde_json::to_string` of one notification. -/
  documentJson : NotificationDocument → String
  validateNotificationDocument : String → Except String Unit
  parseTransaction : String → Except String NotificationTransaction
  parseDocuments : String → Except String DurableNotifications
  parsePreferences : String → Except String Preferences

def invalidData (error : String) : IoError :=
  ⟨.invalidData, error⟩

/-- `map_err(invalid_data)`. -/
def orInvalidData {α : Type} : Except String α → Except IoError α
  | .ok a => .ok a
  | .error e => .error (invalidData e)

section Json

variable (sdk : NotificationSdk)

def NotificationSdk.listJson (documents : List NotificationDocument) : String :=
  "[" ++ ",".intercalate (documents.map sdk.documentJson) ++ "]"

def Preferences.json (preferences : Preferences) : String :=
  "\x7b\"schemaVersion\":" ++ toString preferences.schemaVersion ++
    ",\"dnd\":" ++ toString preferences.dnd ++
    ",\"nextNotificationId\":" ++ toString preferences.nextNotificationId ++ "\x7d"

def NotificationSdk.documentsJson (document : DurableNotifications) : String :=
  "\x7b\"schemaVersion\":" ++ toString document.schemaVersion ++
    ",\"notifications\":" ++ sdk.listJson document.notifications ++ "\x7d"

def NotificationSdk.transactionJson (transaction : NotificationTransaction) : String :=
  "\x7b\"schemaVersion\":" ++ toString transaction.schemaVersion ++
    ",\"active\":" ++ sdk.listJson transaction.active ++
    ",\"archive\":" ++ sdk.listJson transaction.archive ++
    ",\"preferences\":" ++ transaction.preferences.json ++ "\x7d"

end Json

section Validation

variable (sdk : NotificationSdk)

/-- `Preferences::default`. -/
def NotificationSdk.defaultPreferences : Preferences :=
  ⟨sdk.durableSchemaVersion, false, firstNotificationId⟩

def NotificationSdk.requireDurableVersion (version : Nat) : Except IoError Unit :=
  if version ≠ sdk.durableSchemaVersion then
    .error (invalidData
      s!"unsupported notification durable schema version {version}")
  else
    .ok ()

def NotificationSdk.validateDocument (document : NotificationDocument) :
    Except IoError Unit :=
  if (sdk.documentJson document).utf8ByteSize > maxNotificationBytes then
    .error ⟨.invalidInput, "notification exceeds the 64 KiB input limit"⟩
  else
    orInvalidData (sdk.validateNotificationDocument (sdk.documentJson document))

def NotificationSdk.validateDocuments (documents : List NotificationDocument) :
    Except IoError Unit :=
  documents.forM sdk.validateDocument

/-- The identifiers that occur, in order. -/
def notificationIds (documents : List NotificationDocument) : List Nat :=
  documents.map (·.id)

/-- Identifiers of the wire's range, none of them twice. -/
def ValidIds (ids : List Nat) : Prop :=
  (∀ id ∈ ids, id ≠ 0 ∧ id ≤ maxNotificationId) ∧ ids.Nodup

instance (ids : List Nat) : Decidable (ValidIds ids) :=
  inferInstanceAs (Decidable (_ ∧ _))

def validateUniqueIds (active archive : List NotificationDocument) :
    Except IoError Unit :=
  if ValidIds (notificationIds (active ++ archive)) then
    .ok ()
  else
    .error (invalidData
      "notification identifiers must be nonzero and unique across active and archive")

def NotificationSdk.validateAggregate
    (active archive : List NotificationDocument) (preferences : Preferences)
    (limit : Nat) : Except IoError Unit :=
  if (sdk.transactionJson
      ⟨sdk.durableSchemaVersion, active, archive, preferences⟩).utf8ByteSize > limit then
    .error ⟨.invalidInput, "notification state exceeds the configured aggregate limit"⟩
  else
    .ok ()

end Validation

end SleepySession
