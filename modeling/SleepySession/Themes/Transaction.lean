import SleepySession.Store.SecureDir

/-!
# The theme transaction

`apply_transaction` journals the previous and the candidate theme, asks the
desktop for its acknowledgement, publishes a generation, writes the current
theme and removes the journal.  `rollback` undoes it and `reconcile` runs a
rollback for a journal that was left behind.  The environment decides the fate
of every step: it takes effect, it fails, or the process ends there.  Documents
are values; their encoding is left out.
-/

namespace SleepySession
namespace Themes

open Program

inductive ThemeApplyStage where
  | journalWritten
  | desktopAcknowledged
  | generationCommitted
  | currentWritten
  | rollbackAcknowledged
  | rollbackWritten
  | journalRemoveStarted
  | journalRemoved
  | journalDirectorySynced
  | cleanupRecoveryWritten
  deriving DecidableEq, Repr

/-- The two halves of `atomic_replace`: up to the rename, and the directory sync. -/
inductive WritePart where
  | replace
  | sync
  deriving DecidableEq, Repr

/-- The steps of a rollback that may fail. -/
inductive RollbackPoint where
  | acknowledge
  | active
  | current (part : WritePart)
  | publish
  | remove
  | sync
  | restore (part : WritePart)
  deriving DecidableEq, Repr

/-- The steps of the theme operations that may fail. -/
inductive Point where
  | lock
  | readJournal
  | readTheme
  | readCurrent
  | document (part : WritePart)
  | journal (part : WritePart)
  | acknowledge
  | active
  | publish
  | current (part : WritePart)
  | remove
  | sync
  | recovery (part : WritePart)
  | stage (stage : ThemeApplyStage)
  | rollback (point : RollbackPoint)
  deriving DecidableEq, Repr

/-- What happens at each step, and what the observer answers. -/
structure Environment where
  fate : Point → Fault
  observer : ThemeApplyStage → Fault

def noopObserver : ThemeApplyStage → Fault := fun _ => .proceed

structure ApplyJournal (δ : Type) where
  schemaVersion : Nat
  requestId : String
  previous : δ
  candidate : δ
  deriving DecidableEq, Repr

inductive ThemeError where
  | fault (point : Point)
  | requestId
  | alreadyPending
  | staleGeneration (expected current : Nat)
  | unknownTheme (id : String)
  | journalSchema
  | invalidDocument
  | emptyName
  | immutable
  | currentTheme
  | journalRestored (error : ThemeError)
  | recoveryFailed (error recovery : ThemeError)
  | rollbackFailed (error rollback : ThemeError)
  deriving DecidableEq, Repr

/-- The state directory and the generation authority. -/
structure Session (δ : Type) where
  current : Cell δ
  journal : Cell (ApplyJournal δ)
  generation : Nat
  /-- The journal was completely written and has not been removed since. -/
  journalDurable : Bool
  deriving DecidableEq, Repr

structure ApplyRequest where
  themeId : String
  requestId : String
  expectedGeneration : Nat
  deriving DecidableEq, Repr

structure AppliedTheme (δ : Type) where
  theme : δ
  generation : Nat
  deriving DecidableEq, Repr

structure ThemeReconciliationOutcome where
  reconciled : Bool
  generation : Option Nat
  deriving DecidableEq, Repr

/-- What the theme operations take from elsewhere. -/
structure Catalogue (δ : Type) where
  /-- The theme that is current when none was ever written. -/
  fallback : δ
  /-- `theme`: a built-in theme or a stored document. -/
  lookup : String → Option δ
  /-- `validate_document`. -/
  valid : δ → Bool
  /-- `Uuid::parse_str` accepts the text. -/
  isUuid : String → Bool

variable {δ : Type}

namespace Session

/-- `current`. -/
def theme (c : Catalogue δ) (s : Session δ) : δ :=
  s.current.current.getD c.fallback

/-- The theme that a reconciliation leaves. -/
def restores (c : Catalogue δ) (s : Session δ) : δ :=
  match s.journal.current with
  | some j => j.previous
  | none => s.theme c

def putCurrent (d : δ) (s : Session δ) : Session δ :=
  { s with current := s.current.replace (some d) }

def putJournal (j : ApplyJournal δ) (s : Session δ) : Session δ :=
  { s with journal := s.journal.replace (some j) }

def dropJournal (s : Session δ) : Session δ :=
  { s with journal := s.journal.replace none, journalDurable := false }

/-- Both files are in the same directory. -/
def sync (s : Session δ) : Session δ :=
  { s with current := s.current.sync, journal := s.journal.sync }

def markDurable (s : Session δ) : Session δ :=
  { s with journalDurable := true }

def bumpGeneration (s : Session δ) : Session δ :=
  { s with generation := s.generation + 1 }

end Session

/-- Programs over the theme state; the environment is an argument. -/
abbrev Transaction (δ α : Type) :=
  Program Unit (Session δ) ThemeError α

/-- One step that only succeeds, fails, or is where the process ends. -/
def step {σ : Type} (fault : Fault) (point : Point) : Program Unit σ ThemeError Unit :=
  match fault with
  | .proceed => pure ()
  | .refuse => throw (.fault point)
  | .fail => throw (.fault point)
  | .crash => crash

def observe (observer : ThemeApplyStage → Fault) (stage : ThemeApplyStage) :
    Transaction δ Unit :=
  step (observer stage) (.stage stage)

/-- `atomic_state_write`. -/
def atomicStateWrite
    (env : Environment) (point : WritePart → Point) (put : Session δ → Session δ) :
    Transaction δ Unit := do
  step (env.fate (point .replace)) (point .replace)
  modify put
  step (env.fate (point .sync)) (point .sync)
  modify Session.sync

def writeJournal
    (env : Environment) (point : WritePart → Point) (journal : ApplyJournal δ) :
    Transaction δ Unit := do
  atomicStateWrite env point (Session.putJournal journal)
  modify Session.markDurable

/-- `GenerationGuard::publish`; it may fail before or after it has committed. -/
def publish (fault : Fault) (point : Point) : Transaction δ Nat :=
  match fault with
  | .proceed => do
      modify Session.bumpGeneration
      let s ← get
      pure s.generation
  | .refuse => throw (.fault point)
  | .fail => do
      modify Session.bumpGeneration
      throw (.fault point)
  | .crash => crash

def cleanupJournal
    (env : Environment) (observer : ThemeApplyStage → Fault) (removal directorySync : Point) :
    Transaction δ Unit := do
  observe observer .journalRemoveStarted
  step (env.fate removal) removal
  modify Session.dropJournal
  observe observer .journalRemoved
  step (env.fate directorySync) directorySync
  modify Session.sync
  observe observer .journalDirectorySynced

def rollback
    (env : Environment) (observer : ThemeApplyStage → Fault) (journal : ApplyJournal δ) :
    Transaction δ Nat := do
  step (env.fate (.rollback .acknowledge)) (.rollback .acknowledge)
  observe observer .rollbackAcknowledged
  step (env.fate (.rollback .active)) (.rollback .active)
  atomicStateWrite env (fun part => .rollback (.current part))
    (Session.putCurrent journal.previous)
  observe observer .rollbackWritten
  let generation ← publish (env.fate (.rollback .publish)) (.rollback .publish)
  let cleaned ←
    (cleanupJournal env noopObserver (.rollback .remove) (.rollback .sync)).attempt
  match cleaned with
  | .ok _ => pure generation
  | .error e => do
      writeJournal env (fun part => .rollback (.restore part)) journal
      throw (.journalRestored e)

def continueApply (env : Environment) (candidate : δ) : Transaction δ Nat := do
  observe env.observer .journalWritten
  step (env.fate .acknowledge) .acknowledge
  observe env.observer .desktopAcknowledged
  step (env.fate .active) .active
  let generation ← publish (env.fate .publish) .publish
  observe env.observer .generationCommitted
  atomicStateWrite env .current (Session.putCurrent candidate)
  observe env.observer .currentWritten
  pure generation

/-- The first half of `apply_transaction`: its checks and the journal. -/
def prepare
    (c : Catalogue δ) (env : Environment) (request : ApplyRequest) :
    Transaction δ (ApplyJournal δ) := do
  step (env.fate .lock) .lock
  if c.isUuid request.requestId = false then
    throw .requestId
  else do
    step (env.fate .readJournal) .readJournal
    let s ← get
    if s.journal.current.isSome then
      throw .alreadyPending
    else if s.generation ≠ request.expectedGeneration then
      throw (.staleGeneration request.expectedGeneration s.generation)
    else do
      step (env.fate .readTheme) .readTheme
      match c.lookup request.themeId with
      | none => throw (.unknownTheme request.themeId)
      | some candidate => do
          step (env.fate .readCurrent) .readCurrent
          let journal : ApplyJournal δ := ⟨1, request.requestId, s.theme c, candidate⟩
          writeJournal env .journal journal
          pure journal

/-- The journal could not be cleaned up after the candidate became current. -/
def recoverCleanup
    (env : Environment) (journal : ApplyJournal δ) (cleanup : ThemeError) :
    Transaction δ (AppliedTheme δ) := do
  let written ←
    (writeJournal env .recovery journal : Transaction δ Unit).attempt
  let recovery ←
    (match written with
      | .ok _ => do
          observe env.observer .cleanupRecoveryWritten
          pure none
      | .error e => pure (some e) : Transaction δ (Option ThemeError))
  let rolledBack ← (rollback env env.observer journal).attempt
  match rolledBack with
  | .ok _ =>
      match recovery with
      | some e => throw (.recoveryFailed cleanup e)
      | none => throw cleanup
  | .error e => throw (.rollbackFailed cleanup e)

def applyTransaction
    (c : Catalogue δ) (env : Environment) (request : ApplyRequest) :
    Transaction δ (AppliedTheme δ) := do
  let journal ← prepare c env request
  let outcome ← (continueApply env journal.candidate).attempt
  match outcome with
  | .ok generation => do
      let cleaned ← (cleanupJournal env env.observer .remove .sync).attempt
      match cleaned with
      | .ok _ => pure ⟨journal.candidate, generation⟩
      | .error e => recoverCleanup env journal e
  | .error e => do
      let rolledBack ← (rollback env env.observer journal).attempt
      match rolledBack with
      | .ok _ => throw e
      | .error e' => throw (.rollbackFailed e e')

/-- `reconcile_controlled`. -/
def reconcile (c : Catalogue δ) (env : Environment) :
    Transaction δ ThemeReconciliationOutcome := do
  step (env.fate .lock) .lock
  step (env.fate .readJournal) .readJournal
  let s ← get
  match s.journal.current with
  | none => pure ⟨false, none⟩
  | some journal =>
      if journal.schemaVersion ≠ 1 then
        throw .journalSchema
      else if (c.valid journal.previous && c.valid journal.candidate) = false then
        throw .invalidDocument
      else do
        let generation ← rollback env noopObserver journal
        pure ⟨true, some generation⟩

section Atomicity

/-- The state in which the store is found after the process ended in `s`. -/
inductive Restarted (s : Session δ) : Session δ → Prop
  | stopped : Restarted s s
  | powerLoss
      {x : Option δ} {y : Option (ApplyJournal δ)}
      (hx : x ∈ s.current.values) (hy : y ∈ s.journal.values) :
      Restarted s ⟨.settled x, .settled y, s.generation, y.isSome⟩

/-- The states after any number of reconciliation runs, completed or not. -/
inductive Reconciling (c : Catalogue δ) (s : Session δ) : Session δ → Prop
  | start : Reconciling c s s
  | run {t : Session δ} (h : Reconciling c s t) (env : Environment) :
      Reconciling c s ((reconcile c env).run [] t).2

/-- Reconciliation runs keep a way back to `previous`, and a completed one gets there. -/
def Recovers (c : Catalogue δ) (previous : δ) (s : Session δ) : Prop :=
  ∀ t, Reconciling c s t →
    (t.theme c = previous ∨
      ∃ j, t.journal.current = some j ∧ j.previous = previous) ∧
    ∀ env outcome t', (reconcile c env).run [] t = (.ok outcome, t') →
      t'.theme c = previous ∧ t'.journal.current = none

/-- The candidate is current for good. -/
def Committed (c : Catalogue δ) (candidate : δ) (s : Session δ) : Prop :=
  ∀ t, Reconciling c s t → t.theme c = candidate ∧ t.journal.current = none

/-- One run of `apply_transaction` is atomic. -/
def TransactionAtomic
    (c : Catalogue δ) (env : Environment) (request : ApplyRequest) (s : Session δ) :
    Prop :=
  match (applyTransaction c env request).run [] s with
  | (.ok applied, t) =>
      c.lookup request.themeId = some applied.theme ∧ Committed c applied.theme t
  | (.error _, t) => Recovers c (s.restores c) t
  | (.crashed, t) =>
      t.journalDurable = true → ∀ t', Restarted t t' → Recovers c (s.restores c) t'

end Atomicity

section Fates

/-- Every step of the list takes effect. -/
def completes : List Fault → Bool
  | [] => true
  | .proceed :: rest => completes rest
  | _ :: _ => false

/-- The first step of the list that does not take effect fails. -/
def fails : List Fault → Bool
  | [] => false
  | .proceed :: rest => fails rest
  | .refuse :: _ => true
  | .fail :: _ => true
  | .crash :: _ => false

namespace Environment

/-- The steps up to the journal. -/
def preparation (env : Environment) : List Fault :=
  [env.fate .lock, env.fate .readJournal, env.fate .readTheme, env.fate .readCurrent,
    env.fate (.journal .replace), env.fate (.journal .sync)]

/-- The steps of `continue_apply`. -/
def forward (env : Environment) : List Fault :=
  [env.observer .journalWritten, env.fate .acknowledge,
    env.observer .desktopAcknowledged, env.fate .active, env.fate .publish,
    env.observer .generationCommitted, env.fate (.current .replace),
    env.fate (.current .sync), env.observer .currentWritten]

/-- The journal is removed, and the cleanup fails all the same. -/
def removalFails (env : Environment) : Bool :=
  completes [env.observer .journalRemoveStarted, env.fate .remove] &&
    fails [env.observer .journalRemoved, env.fate .sync,
      env.observer .journalDirectorySynced]

/-- The steps of the rollback before the previous theme is in place. -/
def rollbackStops (env : Environment) (observer : ThemeApplyStage → Fault) : Bool :=
  fails [env.fate (.rollback .acknowledge), observer .rollbackAcknowledged,
    env.fate (.rollback .active), env.fate (.rollback (.current .replace))]

/-- Cleanup, the rewriting of the journal and the rollback fail one after the other. -/
def strands (env : Environment) : Bool :=
  completes env.preparation && completes env.forward && env.removalFails &&
    fails [env.fate (.recovery .replace)] && env.rollbackStops env.observer

end Environment

/-- The transaction gets as far as a journal that replaces the current theme. -/
def Changes (c : Catalogue δ) (request : ApplyRequest) (s : Session δ) : Prop :=
  c.isUuid request.requestId = true ∧
  s.journal.current = none ∧
  s.generation = request.expectedGeneration ∧
  ∃ candidate, c.lookup request.themeId = some candidate ∧ candidate ≠ s.theme c

end Fates

end Themes
end SleepySession
