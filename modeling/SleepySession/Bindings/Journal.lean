import SleepySession.Store.Paths

/-!
# The binding transaction journal

A binding transaction replaces `presets.json`, `settings.json` and the
generated bindings together.  The journal records how far it got and to which
side recovery has to go; two sidecars for each of the three artifacts hold the
old and the candidate content.

File contents are abstract.  What the code computes from them (the digest, the
serialized journal, the active preset id of a settings document) is given by
`Contents`.
-/

namespace SleepySession

open Program SecureDir

inductive JournalPhase where
  | prepared
  | presetCommitted
  | settingsCommitted
  | bindingsCommitted
  | reloadPending
  | reloadConfirmed
deriving DecidableEq, Repr

inductive RecoveryTarget where
  | candidate
  | previous
deriving DecidableEq, Repr

/-- A path in a journal: one of the closed paths, or any other. -/
inductive FilePath where
  | inside (directory : Directory) (name : FileName)
  | foreign (path : String) (fileName : Option String)
deriving DecidableEq, Repr

structure JournalArtifact where
  kind : ArtifactKind
  destination : FilePath
  oldArtifact : FilePath
  newArtifact : FilePath
  oldExisted : Bool
  oldHash : String
  newHash : String
deriving DecidableEq, Repr

structure TransactionJournal where
  schemaVersion : UInt32
  transactionId : String
  phase : JournalPhase
  recoveryTarget : RecoveryTarget
  sidecarsComplete : Bool
  activePresetId : String
  previousActivePresetId : Option String
  artifacts : List JournalArtifact
deriving DecidableEq, Repr

/-- What the transaction code computes from file contents. -/
structure Contents (β : Type) where
  empty : β
  hash : β → String
  encode : TransactionJournal → β
  decode : β → Except String TransactionJournal
  /-- The active preset id of a valid settings document. -/
  settingsActivePresetId : β → Option String

/-- Reading a journal back gives the journal that was written. -/
def Contents.RoundTrips {β : Type} (contents : Contents β) : Prop :=
  ∀ journal, contents.decode (contents.encode journal) = .ok journal

structure CandidateArtifacts (β : Type) where
  preset : β
  settings : β
  bindings : β

def CandidateArtifacts.get {β : Type} (a : CandidateArtifacts β) :
    ArtifactKind → β
  | .preset => a.preset
  | .settings => a.settings
  | .bindings => a.bindings

/-- The stages at which an observer can stop a transaction. -/
inductive ApplyStage where
  | writableDirectoriesOpened
  | publication (boundary : PublicationBoundary)
  | preparedSynced
  | committedSynced (kind : ArtifactKind)
  | reloadPendingSynced
  | reloadRequested
  | reloadConfirmedSynced
  | artifactsRemoved
  | artifactDirectoriesSynced
  | journalRemoved
  | journalDirectorySynced
  | artifactRenamed (kind : ArtifactKind) (target : RecoveryTarget)
  | directorySynced (kind : ArtifactKind) (target : RecoveryTarget)
  | sidecarSynced (kind : ArtifactKind) (new : Bool)
deriving DecidableEq, Repr

/-- Programs of the binding engine. -/
abbrev Binding (β α : Type) := StoreProgram β α

def journalName : FileName :=
  .journal

def destinationOf (kind : ArtifactKind) : FilePath :=
  .inside (artifactDir kind) (artifactName kind)

def sidecarPath
    (kind : ArtifactKind) (transactionId : String) (new : Bool) : FilePath :=
  .inside (artifactDir kind) (.sidecar kind transactionId new)

def publicationTemp (name : FileName) : FileName :=
  .publishTemporary name

section Programs

variable {β : Type} [DisplayPath Directory FileName] (contents : Contents β)

/-- `BindingPaths::observe`: the observer may stop the operation here. -/
def observe (_stage : ApplyStage) : Binding β Unit := do
  let a ← answer
  match a.fault with
  | .proceed => pure ()
  | .crash => crash
  | _ => throw ⟨.faultInjected, a.text⟩

def sidecarName (path : FilePath) : Binding β FileName :=
  match path with
  | .inside _ name => pure name
  | .foreign _ (some name) => pure (.other name)
  | .foreign _ none => throw ⟨.invalidJournal, "sidecar has no file name"⟩

def invalidJournal (message : String) : Failure :=
  ⟨.invalidJournal, message⟩

/-- The check of one sidecar of a complete journal. -/
def validateSidecar
    (journal : TransactionJournal) (kind : ArtifactKind)
    (sidecar : FilePath × String) : Binding β Unit := do
  let name ← sidecarName sidecar.1
  let bytes ← readOptional (artifactDir kind) (.named name)
  match bytes with
  | none =>
      if !journal.sidecarsComplete || journal.phase == .reloadConfirmed then
        pure ()
      else
        throw (invalidJournal "binding transaction sidecar is missing")
  | some bytes =>
      if contents.hash bytes ≠ sidecar.2 then
        throw (invalidJournal "binding transaction sidecar hash mismatch")
      else
        pure ()

def validateArtifact
    (journal : TransactionJournal) (kind : ArtifactKind) : Binding β Unit :=
  match journal.artifacts.filter (·.kind == kind) with
  | [a] =>
      if a.destination ≠ destinationOf kind then
        throw (invalidJournal "binding transaction artifact destination is invalid")
      else if a.oldArtifact ≠ sidecarPath kind journal.transactionId false ∨
          a.newArtifact ≠ sidecarPath kind journal.transactionId true then
        throw (invalidJournal "binding transaction sidecar path is invalid")
      else if !journal.sidecarsComplete then
        pure ()
      else
        each (validateSidecar contents journal kind)
          [(a.oldArtifact, a.oldHash), (a.newArtifact, a.newHash)]
  | _ => throw (invalidJournal "binding transaction artifact destination is invalid")

def TransactionJournal.validate
    (journal : TransactionJournal) : Binding β Unit :=
  if journal.schemaVersion ≠ 1 ∨ canonicalUuid journal.transactionId = false ∨
      blank journal.activePresetId = true ∨ journal.artifacts.length ≠ 3 then
    throw (invalidJournal "binding transaction journal header is invalid")
  else
    each (validateArtifact contents journal) artifactKinds

/-- The transaction id in the name of an abandoned initial journal. -/
def preparedId? : FileName → Option String
  | .prepareTemporary id => if canonicalUuid id then some id else none
  | _ => none

def cleanupOrphanJournalTemps : Binding β Unit := do
  let names ← entries .presets
  let ids := names.filterMap preparedId?
  each (fun id => removeFile .presets (.named (.prepareTemporary id))) ids
  if ids.isEmpty then
    pure ()
  else
    sync .presets

def TransactionJournal.load : Binding β (Option TransactionJournal) := do
  let bytes ← readOptional .presets (.named journalName)
  match bytes with
  | none => do
      cleanupOrphanJournalTemps
      pure none
  | some bytes =>
      match contents.decode bytes with
      | .error e => throw (invalidJournal e)
      | .ok journal => do
          journal.validate contents
          pure (some journal)

def TransactionJournal.persist (journal : TransactionJournal) : Binding β Unit :=
  atomicReplace .presets journalName contents.empty (contents.encode journal)
    (pure ()) (pure ()) (pure ())

def observePublication (boundary : PublicationBoundary) : Binding β Unit :=
  observe (.publication boundary)

def TransactionJournal.persistInitial
    (journal : TransactionJournal) : Binding β Unit :=
  publishNew .presets (.prepareTemporary journal.transactionId) journalName
    contents.empty (contents.encode journal) observePublication

def publishSidecar
    (kind : ArtifactKind) (path : FilePath) (bytes : β) : Binding β Unit := do
  let name ← sidecarName path
  publishNew (artifactDir kind) (publicationTemp name) name contents.empty bytes
    observePublication

/-- One artifact as `prepare` finds it, with the contents of its sidecars. -/
structure Captured (β : Type) where
  artifact : JournalArtifact
  old : Option β
  new : β

def captureArtifact
    (transactionId : String) (candidate : CandidateArtifacts β)
    (kind : ArtifactKind) : Binding β (Captured β) := do
  let old ← readOptional (artifactDir kind) (.named (artifactName kind))
  pure
    { artifact :=
        { kind := kind
          destination := destinationOf kind
          oldArtifact := sidecarPath kind transactionId false
          newArtifact := sidecarPath kind transactionId true
          oldExisted := old.isSome
          oldHash := contents.hash (old.getD contents.empty)
          newHash := contents.hash (candidate.get kind) }
      old := old
      new := candidate.get kind }

def publishSidecars (c : Captured β) : Binding β Unit := do
  publishSidecar contents c.artifact.kind c.artifact.oldArtifact
    (c.old.getD contents.empty)
  observe (.sidecarSynced c.artifact.kind false)
  publishSidecar contents c.artifact.kind c.artifact.newArtifact c.new
  observe (.sidecarSynced c.artifact.kind true)
  sync (artifactDir c.artifact.kind)

def TransactionJournal.prepare
    (activePresetId : String) (candidate : CandidateArtifacts β) :
    Binding β TransactionJournal := do
  let transactionId ← newUuid
  let preset ← captureArtifact contents transactionId candidate .preset
  let settings ← captureArtifact contents transactionId candidate .settings
  let bindings ← captureArtifact contents transactionId candidate .bindings
  let journal : TransactionJournal :=
    { schemaVersion := 1
      transactionId := transactionId
      phase := .prepared
      recoveryTarget := .candidate
      sidecarsComplete := false
      activePresetId := activePresetId
      previousActivePresetId :=
        settings.old.bind contents.settingsActivePresetId
      artifacts := [preset.artifact, settings.artifact, bindings.artifact] }
  journal.persistInitial contents
  each (publishSidecars contents) [preset, settings, bindings]
  let complete := { journal with sidecarsComplete := true }
  complete.persist contents
  observe .preparedSynced
  pure complete

def TransactionJournal.activePresetIdFor
    (journal : TransactionJournal) (target : RecoveryTarget) : String :=
  match target with
  | .candidate => journal.activePresetId
  | .previous => journal.previousActivePresetId.getD "unknown"

def verifyLiveNoop (artifact : JournalArtifact) : Binding β Unit := do
  let current ←
    readOptional (artifactDir artifact.kind) (.named (artifactName artifact.kind))
  if current.map contents.hash = some artifact.oldHash then
    pure ()
  else
    throw ⟨.concurrentStateChange,
      "transaction artifact changed before a no-op install"⟩

/-- The module-level `install` of one artifact. -/
def install
    (artifact : JournalArtifact) (target : RecoveryTarget) : Binding β Unit :=
  if artifact.oldHash = artifact.newHash then
    verifyLiveNoop contents artifact
  else if target = .previous ∧ artifact.oldExisted = false then do
    removeFile (artifactDir artifact.kind) (.named (artifactName artifact.kind))
    observe (.artifactRenamed artifact.kind target)
    sync (artifactDir artifact.kind)
    observe (.directorySynced artifact.kind target)
  else do
    let name ← sidecarName
      (match target with
      | .candidate => artifact.newArtifact
      | .previous => artifact.oldArtifact)
    let bytes ← read (artifactDir artifact.kind) (.named name)
    if contents.hash bytes ≠
        (match target with
        | .candidate => artifact.newHash
        | .previous => artifact.oldHash) then
      throw (invalidJournal "durable transaction artifact hash mismatch")
    else
      atomicReplace (artifactDir artifact.kind) (artifactName artifact.kind)
        contents.empty bytes (pure ())
        (observe (.artifactRenamed artifact.kind target))
        (observe (.directorySynced artifact.kind target))

def TransactionJournal.verifyNoopArtifacts
    (journal : TransactionJournal) : Binding β Unit :=
  each
    (fun artifact =>
      if artifact.oldHash = artifact.newHash then
        verifyLiveNoop contents artifact
      else
        pure ())
    journal.artifacts

/-- `install_target`, and with the target `previous` also `restore_all`. -/
def TransactionJournal.installTarget
    (journal : TransactionJournal) (target : RecoveryTarget) : Binding β Unit :=
  each
    (fun artifact => do
      if artifact.kind = .bindings then
        journal.verifyNoopArtifacts contents
      install contents artifact target)
    journal.artifacts

def TransactionJournal.restoreAll (journal : TransactionJournal) : Binding β Unit :=
  journal.installTarget contents .previous

def TransactionJournal.installNew
    (journal : TransactionJournal) (kind : ArtifactKind) : Binding β Unit := do
  if kind = .bindings then
    journal.verifyNoopArtifacts contents
  match journal.artifacts.find? (·.kind == kind) with
  | some artifact => install contents artifact .candidate
  | none => crash

def phaseStage : JournalPhase → ApplyStage
  | .prepared => .preparedSynced
  | .presetCommitted => .committedSynced .preset
  | .settingsCommitted => .committedSynced .settings
  | .bindingsCommitted => .committedSynced .bindings
  | .reloadPending => .reloadPendingSynced
  | .reloadConfirmed => .reloadConfirmedSynced

def TransactionJournal.setPhase
    (journal : TransactionJournal) (phase : JournalPhase) :
    Binding β TransactionJournal := do
  let journal := { journal with phase := phase }
  journal.persist contents
  observe (phaseStage phase)
  pure journal

def TransactionJournal.setRecoveryTarget
    (journal : TransactionJournal) (target : RecoveryTarget) :
    Binding β TransactionJournal := do
  let journal := { journal with recoveryTarget := target }
  journal.persist contents
  pure journal

/-- Remove the sidecars of one artifact and their temporary files. -/
def removeSidecars (artifact : JournalArtifact) : Binding β Unit := do
  let oldName ← sidecarName artifact.oldArtifact
  removeFile (artifactDir artifact.kind) (.named oldName)
  let newName ← sidecarName artifact.newArtifact
  removeFile (artifactDir artifact.kind) (.named newName)
  removeFile (artifactDir artifact.kind) (.named (publicationTemp oldName))
  removeFile (artifactDir artifact.kind) (.named (publicationTemp newName))

def TransactionJournal.cleanup (journal : TransactionJournal) : Binding β Unit := do
  each removeSidecars journal.artifacts
  observe .artifactsRemoved
  each (fun kind => sync (artifactDir kind))
    (artifactKinds.filter fun kind => journal.artifacts.any (·.kind == kind))
  observe .artifactDirectoriesSynced
  removeFile .presets (.named journalName)
  observe .journalRemoved
  sync .presets
  observe .journalDirectorySynced

end Programs

end SleepySession
