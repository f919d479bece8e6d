import SleepySession.Store.SecureDir
import SleepySession.Notifications.Document

/-!
# The directory of the notification store

Four files in one private directory.  The operations of `SecureDirectory` are
those of the configuration directories with a different clean-up: a temporary
file is removed after every failure, also after one that follows the rename.
-/

namespace SleepySession

inductive NotificationFile where
  | active
  | archive
  | preferences
  | transaction
deriving DecidableEq, Repr

/-- The directory of the notification store. -/
abbrev NotificationFiles := Volume Unit (Entry NotificationFile) String

instance : DisplayPath Unit NotificationFile :=
  ⟨fun _ _ => "notification state"⟩

/-- Programs over the directory of the notification store. -/
abbrev DirectoryProgram (α : Type) :=
  Program (Answer NotificationFile String) NotificationFiles IoError α

/-- `unsafe_path`. -/
def unsafePath : IoError :=
  ⟨.permissionDenied, "unsafe notification state path"⟩

/-- The failure of a system call as this directory reports it. -/
def IoError.system (e : Failure) : IoError :=
  match e.code with
  | .unsafePath => unsafePath
  | _ => ⟨.os, e.message⟩

namespace SecureDirectory

open Program

section Programs

variable {α : Type}

def system (m : Disk Unit NotificationFile String α) : DirectoryProgram α :=
  m.mapError IoError.system

def readOptional (name : NotificationFile) : DirectoryProgram (Option String) := do
  let bytes ← system (SecureDir.readOptional () (.named name))
  match bytes with
  | none => pure none
  | some bytes =>
      if bytes.utf8ByteSize > maxDurableFileBytes then
        throw (invalidData "notification state exceeds 64 MiB")
      else
        pure (some bytes)

/-- The closure of `atomic_replace`, once the temporary file exists. -/
def replaceWith (name : NotificationFile) (uuid : String) (bytes : String) :
    DirectoryProgram Unit := do
  system (SecureDir.writeAll () (.temporary name uuid) bytes)
  system (SecureDir.syncAll () (.temporary name uuid))
  system (SecureDir.rename () (.temporary name uuid) (.named name))
  system (SecureDir.sync ())

def atomicReplace (name : NotificationFile) (bytes : String) :
    DirectoryProgram Unit := do
  let _ ← system (SecureDir.openRegularOptional () (.named name))
  let uuid ← system SecureDir.newUuid
  system (SecureDir.createNew () (.temporary name uuid) "")
  let result ← (replaceWith name uuid bytes).attempt
  match result with
  | .ok _ => pure ()
  | .error e => do
      -- whatever comes of the removal, the first failure is reported
      let _ ← (system (SecureDir.removeFile () (.temporary name uuid)) :
        DirectoryProgram Unit).attempt
      throw e

def remove (name : NotificationFile) : DirectoryProgram Unit :=
  system (SecureDir.removeFile () (.named name))

def sync : DirectoryProgram Unit :=
  system (SecureDir.sync ())

end Programs

def atomicJson (name : NotificationFile) (json : String) : DirectoryProgram Unit :=
  atomicReplace name (json ++ "\n")

section Documents

variable (sdk : NotificationSdk)

/-- `read_json` with the parser of one kind of file. -/
def readJson {α : Type} (parse : String → Except String α) (name : NotificationFile) :
    DirectoryProgram (Option α) := do
  let bytes ← readOptional name
  match bytes with
  | none => pure none
  | some bytes => do
      let value ← orThrow (orInvalidData (parse bytes))
      pure (some value)

def writeDocuments (name : NotificationFile) (notifications : List NotificationDocument) :
    DirectoryProgram Unit :=
  atomicJson name (sdk.documentsJson ⟨sdk.durableSchemaVersion, notifications⟩)

def readDocuments (name : NotificationFile) :
    DirectoryProgram (List NotificationDocument) := do
  let document ← readJson sdk.parseDocuments name
  match document with
  | none => pure []
  | some document => do
      orThrow (sdk.requireDurableVersion document.schemaVersion)
      orThrow (sdk.validateDocuments document.notifications)
      pure document.notifications

def readPreferences : DirectoryProgram Preferences := do
  let preferences ← readJson sdk.parsePreferences .preferences
  let preferences := preferences.getD sdk.defaultPreferences
  orThrow (sdk.requireDurableVersion preferences.schemaVersion)
  pure preferences

end Documents

end SecureDirectory

end SleepySession
