import SleepySession.Store.Documents
import SleepySession.Store.Paths

/-!
# The state store

Every operation of the store runs as one transaction under the lock of the
configuration root: it reads the two documents, checks the request and
replaces one file.  The observers of the store may stop an operation at the
points where the code calls them.
-/

namespace SleepySession

open Program SecureDir

/-- The document library, the packaged documents, and the empty file. -/
structure StateStore (β τ ν : Type) where
  sdk : Sdk β τ ν
  defaults : Defaults
  empty : β

/-- What an operation of the store answers. -/
inductive StoreReply where
  | preset (preset : PresetDocument)
  | removed (preset : PresetDocument)
  | settings (settings : SettingsDocument)
deriving DecidableEq, Repr

section Programs

variable {β τ ν α : Type} [DisplayPath Directory FileName]

def ofExcept : Except Failure α → StoreProgram β α
  | .ok a => pure a
  | .error e => throw e

/-- `open_lock` on `.sleepy-session.lock`. -/
def openLock : StoreProgram β Unit := do
  let a ← answer
  match a.fault with
  | .proceed => pure ()
  | .refuse => throw (.unsafePath a.text)
  | .fail => throw (.io a.text)
  | .crash => crash

def withTransaction (operation : StoreProgram β α) : StoreProgram β α := do
  openLock
  syscall
  let result ← operation.attempt
  -- the lock is released before the result is looked at
  syscall
  ofExcept result

/-- An observer that stops the operation with the given failure. -/
def reached (failure : String → Failure) : StoreProgram β Unit := do
  let a ← answer
  match a.fault with
  | .proceed => pure ()
  | .crash => crash
  | _ => throw (failure a.text)

namespace StateStore

variable (store : StateStore β τ ν)

def loadSettings : StoreProgram β SettingsDocument := do
  let bytes ← read .settings (.named (artifactName .settings))
  ofExcept (store.sdk.settings bytes)

def loadUserPresets : StoreProgram β (List PresetDocument) := do
  let bytes ← read .presets (.named (artifactName .preset))
  ofExcept (store.sdk.userPresets bytes)

def findPreset (id : String) : StoreProgram β (Option PresetDocument) :=
  match Keyed.lookup PresetDocument.id store.defaults.builtins id with
  | some preset => pure (some preset)
  | none => do
      let users ← store.loadUserPresets
      pure (Keyed.lookup PresetDocument.id users id)

/-- `find_preset` where a missing preset is an error. -/
def requirePreset (id : String) : StoreProgram β PresetDocument := do
  let found ← store.findPreset id
  match found with
  | some preset => pure preset
  | none => throw (.notFound id)

/-- The replacement of one store file, with the observer's two points. -/
def replaceFile (kind : ArtifactKind) (bytes : β) : StoreProgram β Unit :=
  atomicReplace (artifactDir kind) (artifactName kind) store.empty bytes
    (reached .io) (reached .commitStateUnknown) (pure ())

def writeSettings (settings : SettingsDocument) : StoreProgram β Unit := do
  let validated ← ofExcept (store.sdk.parseSettings (store.sdk.settingsToValue settings))
  store.replaceFile .settings (store.sdk.settingsToVec validated)

def writeUserPresets (presets : List PresetDocument) : StoreProgram β Unit := do
  ofExcept (store.sdk.checkUserPresets presets)
  store.replaceFile .preset (store.sdk.presetsToVec (sortById presets))

/-- Write a file that is not there yet. -/
def createMissing (kind : ArtifactKind) (write : StoreProgram β Unit) :
    StoreProgram β Unit := do
  let present ← «exists» (artifactDir kind) (.named (artifactName kind))
  if present then
    pure ()
  else
    write

def initializeFiles : StoreProgram β Unit := do
  createMissing .settings (store.writeSettings store.defaults.settings)
  createMissing .preset (store.writeUserPresets [])

/-- `StateStore::open`, once its directories are open. -/
def «open» : StoreProgram β Unit :=
  withTransaction do
    store.initializeFiles
    let settings ← store.loadSettings
    let _ ← store.loadUserPresets
    let active ← store.findPreset settings.activePresetId
    if active.isNone then
      throw (.invalid "settings activePresetId does not exist")
    else
      pure ()

/-- The position of a preset in the user's list. -/
def positionOf (users : List PresetDocument) (id : String) : StoreProgram β Nat :=
  match users.findIdx? fun preset => preset.id = id with
  | some position => pure position
  | none => throw (.notFound id)

/-- Append a preset to the user's list. -/
def appendPreset (preset : PresetDocument) : StoreProgram β StoreReply := do
  let users ← store.loadUserPresets
  store.writeUserPresets (users ++ [preset])
  pure (.preset preset)

/-- Replace the preset with the given id in the user's list. -/
def replacePreset (id : String) (preset : PresetDocument) :
    StoreProgram β StoreReply := do
  let users ← store.loadUserPresets
  let position ← positionOf users id
  store.writeUserPresets (users.set position preset)
  pure (.preset preset)

def createUserPreset (preset : ν) : StoreProgram β StoreReply :=
  withTransaction do
    let preset ← ofExcept (store.sdk.parsePreset preset)
    if preset.origin ≠ .user then
      throw (.invalid "created presets must have origin user")
    else do
      let existing ← store.findPreset preset.id
      if existing.isSome then
        throw (.invalid "preset id already exists")
      else
        store.appendPreset preset

def duplicatePreset (sourceId name : String) : StoreProgram β StoreReply :=
  withTransaction do
    let preset ← store.requirePreset sourceId
    let id ← newUuid
    let name ← ofExcept (checkedName name)
    store.appendPreset
      { preset with
        id := id
        name := name
        origin := .user
        basePresetId := some sourceId }

def renamePreset (id name : String) : StoreProgram β StoreReply :=
  withTransaction do
    if id = builtinPresetId then
      throw (.immutable id)
    else do
      let users ← store.loadUserPresets
      let position ← positionOf users id
      let name ← ofExcept (checkedName name)
      match users[position]? with
      | none => throw (.notFound id)
      | some preset => do
          store.writeUserPresets (users.set position { preset with name := name })
          pure (.preset { preset with name := name })

def replaceSettings (settings : ν) : StoreProgram β StoreReply :=
  withTransaction do
    let settings ← ofExcept (store.sdk.parseSettings settings)
    let active ← store.findPreset settings.activePresetId
    if active.isNone then
      throw (.invalid "settings activePresetId does not exist")
    else do
      let current ← store.loadSettings
      if current.activePresetId ≠ settings.activePresetId then
        throw (.applyRequired settings.activePresetId)
      else do
        store.writeSettings settings
        pure (.settings settings)

def updateUserPreset (id : String) (candidate : ν) : StoreProgram β StoreReply :=
  withTransaction do
    let existing ← store.requirePreset id
    if existing.origin = .builtin ∨ id = builtinPresetId then
      throw (.immutable id)
    else do
      let candidate ← ofExcept (store.sdk.parsePreset candidate)
      if candidate.origin ≠ .user then
        throw (.immutable id)
      else if candidate.id ≠ id then
        throw (.conflict s!"candidate id {debugText candidate.id} does not match target {debugText id}")
      else do
        let settings ← store.loadSettings
        if settings.activePresetId = id then
          throw (.applyRequired id)
        else
          store.replacePreset id candidate

def deleteUserPreset (id : String) : StoreProgram β StoreReply :=
  withTransaction do
    let existing ← store.requirePreset id
    if existing.origin = .builtin ∨ id = builtinPresetId then
      throw (.immutable id)
    else do
      let settings ← store.loadSettings
      if settings.activePresetId = id then
        throw (.active id)
      else do
        let users ← store.loadUserPresets
        let position ← positionOf users id
        match users[position]? with
        | none => throw (.notFound id)
        | some preset => do
            store.writeUserPresets (users.eraseIdx position)
            pure (.removed preset)

/-- The keybindings after the request, the accelerator in its canonical form. -/
def changedKeybindings
    (action : String) (accelerator : Option String)
    (keybindings : List (String × String)) :
    Except Failure (List (String × String)) :=
  match accelerator with
  | none => .ok (removeKeybinding action keybindings)
  | some accelerator =>
      match withCode .invalid (store.sdk.canonicalizeAccelerator accelerator) with
      | .error e => .error e
      | .ok canonical => .ok (insertKeybinding action canonical keybindings)

def mutateUserKeybinding
    (id action : String) (accelerator : Option String) :
    StoreProgram β StoreReply :=
  withTransaction do
    let candidate ← store.requirePreset id
    if candidate.origin = .builtin ∨ id = builtinPresetId then
      throw (.immutable id)
    else do
      let settings ← store.loadSettings
      if settings.activePresetId = id then
        throw (.applyRequired id)
      else do
        reached .io
        let keybindings ← ofExcept
          (store.changedKeybindings action accelerator candidate.keybindings)
        let candidate ← ofExcept
          (store.sdk.parsePreset
            (store.sdk.presetToValue { candidate with keybindings := keybindings }))
        store.replacePreset id candidate

/-- The user's own copy of an imported preset. -/
def importedCopy (candidate : PresetDocument) (id : String) : PresetDocument :=
  { candidate with
    id := id
    origin := .user
    basePresetId := some candidate.id }

def importPreset (candidate : ν) (mode : ImportMode) : StoreProgram β StoreReply :=
  withTransaction do
    let candidate ← ofExcept (store.sdk.parsePreset candidate)
    if candidate.origin = .builtin ∨ mode = .copy then do
      let id ← newUuid
      store.appendPreset (importedCopy candidate id)
    else do
      let existing ← store.findPreset candidate.id
      match existing with
      | none => store.appendPreset candidate
      | some existing =>
          if mode = .reject then
            throw (.conflict s!"preset id {debugText candidate.id} already exists")
          else if existing.origin = .builtin then
            throw (.immutable candidate.id)
          else do
            let settings ← store.loadSettings
            if settings.activePresetId = candidate.id then
              throw (.applyRequired candidate.id)
            else
              store.replacePreset candidate.id candidate

end StateStore

end Programs

end SleepySession
