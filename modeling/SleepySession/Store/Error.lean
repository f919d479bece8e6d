import Mathlib.Tactic
import SleepySession.Store.Text

/-!
# Structured failures

The store and the binding engine report failures as a stable code and a
message.  `BindingError::from_store` copies both, so one type serves for both.
-/

namespace SleepySession

/-- The stable codes of store and binding failures. -/
inductive ErrorCode where
  | ioError
  | unsafePath
  | commitStateUnknown
  | faultInjected
  | presetConflict
  | presetNotFound
  | immutablePreset
  | activePreset
  | applyRequired
  | keybindingConflict
  | invalidDocument
  | invalidJournal
  | concurrentStateChange
  | transactionInProgress
  | validationFailed
  | reloadFailed
  | niriUnavailable
deriving DecidableEq, Repr

/-- The code as callers read it. -/
def ErrorCode.text : ErrorCode → String
  | ioError => "io_error"
  | unsafePath => "unsafe_path"
  | commitStateUnknown => "commit_state_unknown"
  | faultInjected => "fault_injected"
  | presetConflict => "preset_conflict"
  | presetNotFound => "preset_not_found"
  | immutablePreset => "immutable_preset"
  | activePreset => "active_preset"
  | applyRequired => "apply_required"
  | keybindingConflict => "keybinding_conflict"
  | invalidDocument => "invalid_document"
  | invalidJournal => "invalid_journal"
  | concurrentStateChange => "concurrent_state_change"
  | transactionInProgress => "transaction_in_progress"
  | validationFailed => "validation_failed"
  | reloadFailed => "reload_failed"
  | niriUnavailable => "niri_unavailable"

/-- Codes of failures that cut an operation off at an arbitrary system call. -/
def ErrorCode.interrupts : ErrorCode → Bool
  | ioError | unsafePath | commitStateUnknown | faultInjected => true
  | _ => false

/-- A failure as callers see it. -/
structure Failure where
  code : ErrorCode
  message : String
deriving DecidableEq, Repr

namespace Failure

/-- A failure as it is printed. -/
def display (e : Failure) : String :=
  s!"{e.code.text}: {e.message}"

def io (error : String) : Failure :=
  ⟨.ioError, error⟩

def unsafePath (path : String) : Failure :=
  ⟨.unsafePath, s!"refusing symlinked store path: {path}"⟩

def conflict (message : String) : Failure :=
  ⟨.presetConflict, message⟩

def commitStateUnknown (error : String) : Failure :=
  ⟨.commitStateUnknown,
    s!"the replacement may already be visible and durable state is unknown: {error}"⟩

def invalid (message : String) : Failure :=
  ⟨.invalidDocument, message⟩

def notFound (id : String) : Failure :=
  ⟨.presetNotFound, s!"preset {debugText id} was not found"⟩

def immutable (id : String) : Failure :=
  ⟨.immutablePreset, s!"preset {debugText id} is immutable"⟩

def active (id : String) : Failure :=
  ⟨.activePreset, s!"preset {debugText id} is active and cannot be deleted"⟩

def applyRequired (id : String) : Failure :=
  ⟨.applyRequired, s!"preset {debugText id} requires the journaled apply path"⟩

def keybindingConflict (message : String) : Failure :=
  ⟨.keybindingConflict, message⟩

/-- The failure came from a system call or from an injected fault. -/
def Interrupts (e : Failure) : Prop :=
  e.code.interrupts = true

@[simp] theorem interrupts_io (error : String) :
    (io error).Interrupts :=
  rfl

@[simp] theorem interrupts_unsafePath (path : String) :
    (unsafePath path).Interrupts :=
  rfl

@[simp] theorem interrupts_commitStateUnknown (error : String) :
    (commitStateUnknown error).Interrupts :=
  rfl

@[simp] theorem interrupts_faultInjected (message : String) :
    Interrupts ⟨.faultInjected, message⟩ :=
  rfl

end Failure

end SleepySession
