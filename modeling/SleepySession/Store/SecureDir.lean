import SleepySession.Lib.Program
import SleepySession.Lib.Volume
import SleepySession.Store.Error
import SleepySession.Store.Text

/-!
# Private directories

The operations of `SecureDir` as programs over a volume.  Every system call
first asks the environment whether it takes effect, fails or never happens
because the process stops; the content of a file that is being written is
arbitrary until the write has completed.
-/

namespace SleepySession

/-- The fate of one system call. -/
inductive Fault where
  | proceed
  | refuse
  | fail
  | crash
deriving DecidableEq, Repr

/-- An entry name: one of the closed names, or the temporary file next to it. -/
inductive Entry (N : Type) where
  | named (name : N)
  | temporary (name : N) (uuid : String)
deriving DecidableEq, Repr

/-- What the environment says when a program asks. -/
structure Answer (N β : Type) where
  fault : Fault := .proceed
  /-- The text of a system or collaborator error. -/
  text : String := ""
  /-- A fresh identifier. -/
  uuid : String := nilUuid
  /-- The content of a file whose write did not complete. -/
  torn : β
  /-- The names that an enumeration returns. -/
  listing : List N := []
  /-- Whether a collaborator accepted a request. -/
  accepted : Bool := true
  /-- Whether a collaborator is there at all. -/
  available : Bool := true

instance {N β : Type} [Inhabited β] : Inhabited (Answer N β) :=
  ⟨{ torn := default }⟩

/-- The path text that error messages show. -/
class DisplayPath (D N : Type) where
  display : D → Entry N → String

/-- Programs over directories `D` with closed names `N` and contents `β`. -/
abbrev Disk (D N β α : Type) :=
  Program (Answer N β) (Volume D (Entry N) β) Failure α

namespace SecureDir

open Program

variable {D N β α : Type} [DecidableEq D] [DecidableEq N] [DisplayPath D N]

/-- One system call that has no other effect than to succeed or fail. -/
def syscall : Disk D N β Unit := do
  let a ← answer
  match a.fault with
  | .proceed => pure ()
  | .refuse => throw (.io a.text)
  | .fail => throw (.io a.text)
  | .crash => crash

/-- `Uuid::new_v4` in its hyphenated form. -/
def newUuid : Disk D N β String := do
  let a ← answer
  pure a.uuid

/-- Open an entry without following links; refuse what is not a private file. -/
def openRegularOptional (d : D) (n : Entry N) : Disk D N β Bool := do
  let a ← answer
  match a.fault with
  | .proceed => do
      let v ← get
      pure (v d n).current.isSome
  | .refuse => throw (.unsafePath (DisplayPath.display d n))
  | .fail => throw (.io a.text)
  | .crash => crash

def readOptional (d : D) (n : Entry N) : Disk D N β (Option β) := do
  let present ← openRegularOptional d n
  if present then do
    syscall
    let v ← get
    pure (v d n).current
  else
    pure none

def read (d : D) (n : Entry N) : Disk D N β β := do
  let bytes ← readOptional d n
  match bytes with
  | some bytes => pure bytes
  | none => throw (.io s!"{DisplayPath.display d n} does not exist")

def «exists» (d : D) (n : Entry N) : Disk D N β Bool :=
  openRegularOptional d n

def validateFileIfPresent (d : D) (n : Entry N) : Disk D N β Unit := do
  let _ ← openRegularOptional d n
  pure ()

/-- `openat` with `O_CREAT | O_EXCL`. -/
def createNew (d : D) (n : Entry N) (empty : β) : Disk D N β Unit := do
  let a ← answer
  match a.fault with
  | .proceed => do
      let v ← get
      if (v d n).current.isSome then
        throw (.io a.text)
      else
        modify fun v => v.update d n ((v d n).replace (some empty))
  | .refuse => throw (.unsafePath (DisplayPath.display d n))
  | .fail => throw (.io a.text)
  | .crash => crash

/-- Write to an open file; a write that does not complete leaves any content. -/
def writeAll (d : D) (n : Entry N) (bytes : β) : Disk D N β Unit := do
  let a ← answer
  match a.fault with
  | .proceed => modify fun v => v.update d n ((v d n).overwrite bytes)
  | .crash => do
      modify fun v => v.update d n ((v d n).overwrite a.torn)
      crash
  | _ => do
      modify fun v => v.update d n ((v d n).overwrite a.torn)
      throw (.io a.text)

/-- `File::sync_all`. -/
def syncAll (d : D) (n : Entry N) : Disk D N β Unit := do
  syscall
  modify fun v => v.update d n (v d n).flush

def rename (d : D) (source destination : Entry N) : Disk D N β Unit := do
  syscall
  modify fun v => v.rename d source destination

/-- `unlinkat`; a missing file is not an error. -/
def removeFile (d : D) (n : Entry N) : Disk D N β Unit := do
  syscall
  modify fun v => v.update d n ((v d n).replace none)

/-- `fsync` of the directory. -/
def sync (d : D) : Disk D N β Unit := do
  syscall
  modify fun v => v.sync d

/-- The closed names that an enumeration of the directory returns. -/
def entries (d : D) : Disk D N β (List N) := do
  syscall
  let a ← answer
  let v ← get
  pure (a.listing.filter fun n => (v d (.named n)).current.isSome)

def writeNew (d : D) (n : Entry N) (empty bytes : β) : Disk D N β Unit := do
  createNew d n empty
  writeAll d n bytes
  syncAll d n

/-- Remove a temporary file, whatever comes of it, and pass a failure on. -/
def discard (d : D) (n : Entry N) (e : Failure) : Disk D N β α := do
  let _ ← (removeFile d n : Disk D N β Unit).attempt
  throw e

/-- The first half of `atomic_replace`: write, sync and inspect a temporary file. -/
def stageFile
    (d : D) (name : N) (empty bytes : β) (afterFileSync : Disk D N β α) :
    Disk D N β (String × α) := do
  validateFileIfPresent d (.named name)
  let uuid ← newUuid
  let written ← (writeNew d (.temporary name uuid) empty bytes).attempt
  match written with
  | .error e => discard d (.temporary name uuid) e
  | .ok _ => do
      let observed ← afterFileSync.attempt
      match observed with
      | .error e => discard d (.temporary name uuid) e
      | .ok a => pure (uuid, a)

/-- The second half of `atomic_replace`: move the temporary file into place. -/
def commitFile
    (d : D) (name : N) (uuid : String)
    (afterRename afterDirectorySync : Disk D N β Unit) :
    Disk D N β Unit := do
  rename d (.temporary name uuid) (.named name)
  afterRename
  (sync d).mapError fun e => Failure.commitStateUnknown e.display
  afterDirectorySync

def atomicReplace
    (d : D) (name : N) (empty bytes : β)
    (afterFileSync afterRename afterDirectorySync : Disk D N β Unit) :
    Disk D N β Unit := do
  let staged ← stageFile d name empty bytes afterFileSync
  commitFile d name staged.1 afterRename afterDirectorySync

/-- The points at which a publication can be observed. -/
inductive PublicationBoundary where
  | partialWritten
  | fileSyncStarted
  | fileSynced
  | renamed
  | directorySyncStarted
  | directorySynced
deriving DecidableEq, Repr

/-- The first half of the closure of `publish_new`, up to the rename. -/
def publishFile
    (d : D) (temporary destination : N) (bytes : β)
    (observe : PublicationBoundary → Disk D N β Unit) :
    Disk D N β Unit := do
  let a ← answer
  writeAll d (.named temporary) a.torn
  observe .partialWritten
  writeAll d (.named temporary) bytes
  observe .fileSyncStarted
  syncAll d (.named temporary)
  observe .fileSynced
  rename d (.named temporary) (.named destination)

/-- The second half of the closure of `publish_new`. -/
def publishDirectory
    (d : D)
    (observe : PublicationBoundary → Disk D N β Unit) :
    Disk D N β Unit := do
  observe .renamed
  observe .directorySyncStarted
  (sync d).mapError fun e => Failure.commitStateUnknown e.display
  observe .directorySynced

/-- `publish_new`: the temporary file is removed only before the rename. -/
def publishNew
    (d : D) (temporary destination : N) (empty bytes : β)
    (observe : PublicationBoundary → Disk D N β Unit) :
    Disk D N β Unit := do
  let present ← «exists» d (.named destination)
  if present then
    throw (.conflict s!"{DisplayPath.display d (Entry.named destination)} already exists")
  else do
    createNew d (.named temporary) empty
    let published ← (publishFile d temporary destination bytes observe).attempt
    match published with
    | .error e => discard d (.named temporary) e
    | .ok _ => publishDirectory d observe

end SecureDir

end SleepySession
