import SleepySession.Bindings.Journal

/-!
# Applying a candidate and reconciling a journal

The two locked operations of the binding engine.  `applyCandidateLocked` runs
a transaction and, when the compositor rejects the candidate, rolls it back;
`reconcileBindingsLocked` finishes whatever an earlier run left behind.  The
validator, the reloader and its event stream are collaborators: the
environment answers for them, and the process may stop while it waits.
-/

namespace SleepySession

open Program SecureDir

inductive ApplyStatus where
  | committed
  | rolledBackConfirmed
  | commitStateUnknown
  | reloadPending
deriving DecidableEq, Repr

structure ApplyReport where
  status : ApplyStatus
  activePresetId : String
deriving DecidableEq, Repr

def statusFor : RecoveryTarget → ApplyStatus
  | .candidate => .committed
  | .previous => .rolledBackConfirmed

section Programs

variable {β : Type} [DisplayPath Directory FileName] (contents : Contents β)

/-- The reply of a collaborator: an error text, or whether something was there. -/
def collaborator : Binding β (Except String Bool) := do
  let a ← answer
  if a.fault = .crash then
    crash
  else if a.accepted then
    pure (.ok a.available)
  else
    pure (.error a.text)

/-- `subscribe`, or `subscribe_required` when the compositor has to be online. -/
def subscribe (onlineRequired : Bool) : Binding β (Except String Bool) := do
  let reply ← collaborator
  match reply with
  | .ok false =>
      if onlineRequired then
        pure (.error "Niri socket or event stream is unavailable")
      else
        pure (.ok false)
  | reply => pure reply

/-- Subscribe and wait for the initial snapshot; a refusal ends the operation. -/
def openStream (onlineRequired : Bool) : Binding β Bool := do
  let code := if onlineRequired then ErrorCode.niriUnavailable else .reloadFailed
  let reply ← subscribe onlineRequired
  match reply with
  | .error message => throw ⟨code, message⟩
  | .ok false => pure false
  | .ok true => do
      let snapshot ← collaborator
      match snapshot with
      | .error message => throw ⟨code, message⟩
      | .ok _ => pure true

/-- The stream for a rollback; a refusal only means that there is none. -/
def openRollbackStream (onlineRequired : Bool) : Binding β Bool := do
  let reply ← subscribe onlineRequired
  match reply with
  | .error _ => pure false
  | .ok false => pure false
  | .ok true => do
      let snapshot ← collaborator
      match snapshot with
      | .error _ => pure false
      | .ok _ => pure true

def reloadConfirmed : Binding β Bool := do
  let request ← collaborator
  match request with
  | .error _ => pure false
  | .ok _ => do
      observe .reloadRequested
      let loaded ← collaborator
      match loaded with
      | .ok true => pure true
      | _ => pure false

/-- The check of the candidate in a staging directory of its own. -/
def validateCandidateTree : Binding β Unit := do
  syscall
  let reply ← collaborator
  match reply with
  | .ok _ => pure ()
  | .error message => throw ⟨.validationFailed, message⟩

/-- The end of a confirmed transaction. -/
def confirm (journal : TransactionJournal) : Binding β Unit := do
  journal.verifyNoopArtifacts contents
  let journal ← journal.setPhase contents .reloadConfirmed
  journal.cleanup

/-- The rollback after a rejected candidate, the same in both operations. -/
def rollBack
    (onlineRequired : Bool) (journal : TransactionJournal) :
    Binding β ApplyReport := do
  let stream ← openRollbackStream onlineRequired
  let journal ← journal.setRecoveryTarget contents .previous
  journal.restoreAll contents
  let journal ← journal.setPhase contents .reloadPending
  let previous := journal.activePresetIdFor .previous
  journal.verifyNoopArtifacts contents
  let confirmed ← (if stream then reloadConfirmed else pure false)
  if confirmed then do
    confirm contents journal
    pure ⟨.rolledBackConfirmed, previous⟩
  else
    pure ⟨.commitStateUnknown, previous⟩

/-- The side to which an unconfirmed journal has to be recovered. -/
def recoverySide (journal : TransactionJournal) : RecoveryTarget :=
  match journal.phase with
  | .prepared | .presetCommitted | .settingsCommitted => .previous
  | _ => journal.recoveryTarget

/-- Install one side and record it: `previous` is recorded before, `candidate` after. -/
def installSide
    (journal : TransactionJournal) (target : RecoveryTarget) :
    Binding β TransactionJournal :=
  match target with
  | .previous => do
      let journal ← journal.setRecoveryTarget contents .previous
      journal.installTarget contents .previous
      journal.setPhase contents .reloadPending
  | .candidate => do
      journal.installTarget contents .candidate
      let journal ← journal.setRecoveryTarget contents .candidate
      journal.setPhase contents .reloadPending

/-- The part of reconciliation that resumes an unconfirmed transaction. -/
def resume
    (onlineRequired : Bool) (journal : TransactionJournal) :
    Binding β ApplyReport := do
  let target := recoverySide journal
  let stream ← openStream onlineRequired
  let journal ← installSide contents journal target
  let active := journal.activePresetIdFor target
  if stream then do
    journal.verifyNoopArtifacts contents
    let confirmed ← reloadConfirmed
    if confirmed then do
      confirm contents journal
      pure ⟨statusFor target, active⟩
    else if target = .previous then
      pure ⟨.commitStateUnknown, active⟩
    else
      rollBack contents onlineRequired journal
  else
    pure ⟨.reloadPending, active⟩

def reconcileBindingsLocked
    (onlineRequired : Bool) : Binding β (Option ApplyReport) := do
  let loaded ← TransactionJournal.load contents
  match loaded with
  | none => pure none
  | some journal =>
      if journal.sidecarsComplete = false then do
        journal.cleanup
        pure none
      else if journal.phase = .reloadConfirmed then do
        journal.cleanup
        pure (some
          ⟨statusFor journal.recoveryTarget,
            journal.activePresetIdFor journal.recoveryTarget⟩)
      else do
        let report ← resume contents onlineRequired journal
        pure (some report)

/-- Install the candidate artifact by artifact, recording each phase. -/
def commitCandidate (journal : TransactionJournal) :
    Binding β TransactionJournal := do
  journal.installNew contents .preset
  let journal ← journal.setPhase contents .presetCommitted
  journal.installNew contents .settings
  let journal ← journal.setPhase contents .settingsCommitted
  journal.installNew contents .bindings
  let journal ← journal.setPhase contents .bindingsCommitted
  journal.setPhase contents .reloadPending

def applyCandidateLocked
    (activePresetId : String) (artifacts : CandidateArtifacts β) :
    Binding β ApplyReport := do
  observe .writableDirectoriesOpened
  let pending ← «exists» .presets (.named journalName)
  if pending then
    throw ⟨.transactionInProgress,
      "reconcile the existing binding transaction before starting another"⟩
  else do
    validateCandidateTree
    let stream ← openStream false
    let journal ← TransactionJournal.prepare contents activePresetId artifacts
    let journal ← commitCandidate contents journal
    if stream then do
      journal.verifyNoopArtifacts contents
      let confirmed ← reloadConfirmed
      if confirmed then do
        confirm contents journal
        pure ⟨.committed, activePresetId⟩
      else
        rollBack contents false journal
    else
      pure ⟨.reloadPending, activePresetId⟩

end Programs

end SleepySession
