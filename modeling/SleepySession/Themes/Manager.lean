import SleepySession.Lib.Maintains
import SleepySession.Lib.Run
import SleepySession.Themes.Transaction

/-!
# The theme manager

Stored documents are files named after the canonical form of an identifier;
the current theme and the journal carry whole documents.  Every operation
takes the mutation lock, so operations follow one another.  The process may
end in any of them; reopening the store changes nothing.
-/

set_option linter.unusedSectionVars false

namespace SleepySession
namespace Themes

open Program

inductive ThemeOrigin where
  | builtin
  | user
  deriving DecidableEq, Repr

/-- A theme document; `rest` is its appearance, effects and colours. -/
structure ThemeDocument (β : Type) where
  id : String
  name : String
  origin : ThemeOrigin
  reducedMotion : Bool
  opaqueFallback : Bool
  rest : β
  deriving DecidableEq, Repr

/-- The libraries that the theme manager builds on. -/
structure Platform (υ β : Type) where
  /-- `Uuid::parse_str`. -/
  parseStr : String → Option υ
  hyphenated : υ → String
  /-- The appearance and the colours of a built-in theme. -/
  palette : String → β
  /-- `validate_theme_document`. -/
  validateThemeDocument : String → Option (ThemeDocument β)
  /-- `validate_document`. -/
  validateDocument : ThemeDocument β → Bool

variable {υ β : Type} [DecidableEq υ]

/-- The documents by the identifier in their file names, and the state directory. -/
structure ThemeManager (υ β : Type) where
  documents : υ → Option (ThemeDocument β)
  session : Session (ThemeDocument β)

/-- The operations of the theme manager as programs. -/
abbrev Action (υ β α : Type) :=
  Program Unit (ThemeManager υ β) ThemeError α

section Definitions

variable (p : Platform υ β)

def builtinNamed (id name : String) : ThemeDocument β :=
  ⟨id, name, .builtin, false, false, p.palette id⟩

def builtin (id : String) : Option (ThemeDocument β) :=
  if id = "builtin.sleepy-dark" then some (builtinNamed p id "Sleepy Dark")
  else if id = "builtin.sleepy-light" then some (builtinNamed p id "Sleepy Light")
  else if id = "builtin.sleepy-system" then some (builtinNamed p id "Sleepy System")
  else none

/-- The theme that is current as long as none was written. -/
def defaultTheme : ThemeDocument β :=
  builtinNamed p "builtin.sleepy-dark" "Sleepy Dark"

namespace ThemeManager

/-- `theme`. -/
def theme (m : ThemeManager υ β) (id : String) : Option (ThemeDocument β) :=
  match builtin p id with
  | some d => some d
  | none => (p.parseStr id).bind m.documents

def catalogue (m : ThemeManager υ β) : Catalogue (ThemeDocument β) where
  fallback := defaultTheme p
  lookup := m.theme p
  valid := p.validateDocument
  isUuid text := (p.parseStr text).isSome

/-- `current`. -/
def current (m : ThemeManager υ β) : ThemeDocument β :=
  m.session.theme (m.catalogue p)

/-- The theme that is current once a pending journal has been reconciled. -/
def reconciled (m : ThemeManager υ β) : ThemeDocument β :=
  m.session.restores (m.catalogue p)

def setSession (s : Session (ThemeDocument β)) (m : ThemeManager υ β) :
    ThemeManager υ β :=
  { m with session := s }

def putDocument (u : υ) (d : Option (ThemeDocument β)) (m : ThemeManager υ β) :
    ThemeManager υ β :=
  { m with documents := Function.update m.documents u d }

end ThemeManager

/-- Run a program of the state directory. -/
def onSession {α : Type} (m : Transaction (ThemeDocument β) α) : Action υ β α :=
  m.zoom ThemeManager.session ThemeManager.setSession

/-- `theme_file_name`. -/
def themeFileName (id : String) : Action υ β υ :=
  match p.parseStr id with
  | some u => pure u
  | none => throw (.unknownTheme id)

def readTheme (env : Environment) (id : String) : Action υ β (ThemeDocument β) := do
  step (env.fate .readTheme) .readTheme
  let m ← get
  match m.theme p id with
  | some d => pure d
  | none => throw (.unknownTheme id)

def readCurrent (env : Environment) : Action υ β (ThemeDocument β) := do
  step (env.fate .readCurrent) .readCurrent
  let m ← get
  pure (m.current p)

def writeUser (env : Environment) (document : ThemeDocument β) : Action υ β Unit := do
  let u ← themeFileName p document.id
  step (env.fate (.document .replace)) (.document .replace)
  modify (ThemeManager.putDocument u (some document))
  step (env.fate (.document .sync)) (.document .sync)

def checkDocument (document : ThemeDocument β) : Action υ β Unit :=
  if p.validateDocument document then pure () else throw .invalidDocument

/-- Refuse to work on top of an unreconciled transaction. -/
def requireNoJournal (env : Environment) : Action υ β Unit := do
  step (env.fate .readJournal) .readJournal
  let m ← get
  if m.session.journal.current.isSome then throw .alreadyPending else pure ()

def writeCurrent (env : Environment) (document : ThemeDocument β) : Action υ β Unit :=
  onSession (atomicStateWrite env .current (Session.putCurrent document))

def activateForDesktop (env : Environment) (id : String) :
    Action υ β (ThemeDocument β) := do
  step (env.fate .lock) .lock
  requireNoJournal env
  let candidate ← readTheme p env id
  writeCurrent env candidate
  pure candidate

/-- The document with the preferences, under a new identifier if it is built in. -/
def withPreferences
    (reducedMotion opaqueFallback : Option Bool) (fresh : υ) (d : ThemeDocument β) :
    ThemeDocument β :=
  let d := { d with
    reducedMotion := reducedMotion.getD d.reducedMotion
    opaqueFallback := opaqueFallback.getD d.opaqueFallback }
  match d.origin with
  | .builtin =>
      { d with id := p.hyphenated fresh, name := d.name ++ " preferences", origin := .user }
  | .user => d

def setDesktopEffectPreferences
    (env : Environment) (reducedMotion opaqueFallback : Option Bool) (fresh : υ) :
    Action υ β (ThemeDocument β) := do
  step (env.fate .lock) .lock
  requireNoJournal env
  let current ← readCurrent p env
  let candidate := withPreferences p reducedMotion opaqueFallback fresh current
  checkDocument p candidate
  writeUser p env candidate
  writeCurrent env candidate
  pure candidate

def «import» (env : Environment) (input : String) (fresh : υ) :
    Action υ β (ThemeDocument β) := do
  step (env.fate .lock) .lock
  match p.validateThemeDocument input with
  | none => throw .invalidDocument
  | some document => do
      let document := { document with id := p.hyphenated fresh, origin := .user }
      checkDocument p document
      writeUser p env document
      pure document

/-- `name.trim()`. -/
def trimName (name : String) : String :=
  String.ofList
    ((name.toList.dropWhile isWhiteSpace).reverse.dropWhile isWhiteSpace).reverse

def copyForEdit (env : Environment) (id name : String) (fresh : υ) :
    Action υ β (ThemeDocument β) := do
  step (env.fate .lock) .lock
  if blank name then
    throw .emptyName
  else do
    let original ← readTheme p env id
    let copy :=
      { original with id := p.hyphenated fresh, name := trimName name, origin := .user }
    checkDocument p copy
    writeUser p env copy
    pure copy

def delete (env : Environment) (id : String) : Action υ β Unit := do
  step (env.fate .lock) .lock
  if (builtin p id).isSome then
    throw .immutable
  else do
    let current ← readCurrent p env
    if current.id = id then
      throw .currentTheme
    else do
      let u ← themeFileName p id
      step (env.fate .remove) .remove
      modify (ThemeManager.putDocument u none)
      step (env.fate .sync) .sync

def apply (env : Environment) (request : ApplyRequest) :
    Action υ β (AppliedTheme (ThemeDocument β)) := do
  let m ← get
  onSession (applyTransaction (m.catalogue p) env request)

def reconcileThemes (env : Environment) : Action υ β ThemeReconciliationOutcome := do
  let m ← get
  onSession (reconcile (m.catalogue p) env)

end Definitions

/-- One operation, with the environment it meets. -/
inductive Operation (υ : Type) where
  | «import» (env : Environment) (input : String) (fresh : υ)
  | copyForEdit (env : Environment) (id name : String) (fresh : υ)
  | apply (env : Environment) (request : ApplyRequest)
  | activateForDesktop (env : Environment) (id : String)
  | setDesktopEffectPreferences
      (env : Environment) (reducedMotion opaqueFallback : Option Bool) (fresh : υ)
  | delete (env : Environment) (id : String)
  | reconcile (env : Environment)
  | restart (generation : Nat)

/-- The store after an operation, whether it completed, failed or was cut off. -/
def perform (p : Platform υ β) (m : ThemeManager υ β) : Operation υ → ThemeManager υ β
  | .import env input fresh => ((«import» p env input fresh).run [] m).2
  | .copyForEdit env id name fresh => ((copyForEdit p env id name fresh).run [] m).2
  | .apply env request => ((apply p env request).run [] m).2
  | .activateForDesktop env id => ((activateForDesktop p env id).run [] m).2
  | .setDesktopEffectPreferences env reducedMotion opaqueFallback fresh =>
      ((setDesktopEffectPreferences p env reducedMotion opaqueFallback fresh).run [] m).2
  | .delete env id => ((delete p env id).run [] m).2
  | .reconcile env => ((reconcileThemes p env).run [] m).2
  | .restart generation => m.setSession { m.session with generation := generation }

/-- Nothing was ever stored. -/
def ThemeManager.fresh (generation : Nat) : ThemeManager υ β where
  documents _ := none
  session := ⟨.settled none, .settled none, generation, false⟩

/-- The theme manager over any sequence of operations from a fresh store. -/
def themeSystem (p : Platform υ β) : System (ThemeManager υ β) (Operation υ) :=
  System.ofStep (fun m => ∃ generation, m = ThemeManager.fresh generation)
    fun m op => some (perform p m op)

/-- The current theme can be found, and so can the one a reconciliation would leave. -/
def CurrentResolves (p : Platform υ β) (m : ThemeManager υ β) : Prop :=
  (m.theme p (m.current p).id).isSome ∧ (m.theme p (m.reconciled p).id).isSome

/-- The steps of a deletion up to the removal of the file take effect. -/
def deletes (env : Environment) : Bool :=
  completes [env.fate .lock, env.fate .readCurrent, env.fate .remove]

/-- No document is removed under another spelling of the current theme's identifier,
nor the document of a theme that a pending journal would make current again. -/
def KeepsCurrent (p : Platform υ β) (m : ThemeManager υ β) : Operation υ → Prop
  | .delete env id =>
      deletes env = true → (m.current p).id ≠ id → ∀ u, p.parseStr id = some u →
        p.parseStr (m.current p).id ≠ some u ∧
        p.parseStr (m.reconciled p).id ≠ some u
  | _ => True

end Themes
end SleepySession
