import SleepySession.Compositor.Snapshot

/-!
# Commands to Hyprland

A command is planned against a snapshot, its requests are dispatched, and the
snapshots that follow are polled until one confirms it.  The answers of the
compositor and the clock are given; a request is the text that is sent.
-/

namespace SleepySession
namespace Compositor

open Checks

inductive HyprlandCommand where
  | focusWindow (windowId : Text)
  | moveWindowToWorkspace (windowId workspaceId : Text)
  | closeWindow (windowId : Text)
  | focusWorkspace (workspaceId : Text)
  | moveWorkspaceToMonitor (workspaceId monitorId : Text)
  | toggleFullscreen (windowId : Text)
  | toggleFloating (windowId : Text)
  | togglePinned (windowId : Text)
  | toggleGroup (windowId : Text)
  | exit
deriving DecidableEq

section Targets

def rejectedTarget (description : String) : CompositorError :=
  ⟨.rejected, s!"Hyprland command referenced an unknown {description}"⟩

def unsupportedFocusedAction : CompositorError :=
  ⟨.unsupported, "Hyprland legacy IPC has no target-aware fullscreen or group dispatcher"⟩

def orReject {α : Type} (description : String) : Option α → Except CompositorError α
  | some a => .ok a
  | none => .error (rejectedTarget description)

def findWindow (snapshot : HyprlandSnapshot) (id : Text) : Except CompositorError Window :=
  orReject "window" (snapshot.windows.find? fun window => window.id = id)

def findWorkspace (snapshot : HyprlandSnapshot) (id : Text) : Except CompositorError Workspace :=
  orReject "workspace" (snapshot.workspaces.find? fun workspace => workspace.id = id)

def findMonitor (snapshot : HyprlandSnapshot) (id : Text) : Except CompositorError Monitor :=
  orReject "monitor" (snapshot.monitors.find? fun monitor => monitor.id = id)

/-- What a dispatcher token may consist of. -/
def isTokenChar (c : Char) : Bool :=
  isAsciiDigit c || (0x41 ≤ c.toNat && c.toNat ≤ 0x5A) || (0x61 ≤ c.toNat && c.toNat ≤ 0x7A) ||
    c == '.' || c == '_' || c == ':' || c == '-'

def validateDispatchToken (value : Text) (description : String) : Except CompositorError Unit :=
  ensure (value ≠ [] ∧ value.byteLength ≤ 256 ∧ value.all isTokenChar = true)
    ⟨.rejected, s!"Hyprland {description} cannot be encoded as a fixed dispatcher argument"⟩

def specialPrefix : Text :=
  "special:".toList

def namePrefix : Text :=
  "name:".toList

/-- The workspace is named by its own positive number. -/
def Workspace.Numeric (workspace : Workspace) : Prop :=
  workspace.name = workspace.id ∧ (parseUnsigned (2 ^ 64) workspace.id).any (0 < ·) = true

instance : DecidablePred Workspace.Numeric :=
  fun _ => inferInstanceAs (Decidable (_ ∧ _))

def workspaceDispatchTarget (workspace : Workspace) (allowSpecial : Bool) :
    Except CompositorError Text :=
  if specialPrefix.isPrefixOf workspace.name then
    if allowSpecial then do
      validateDispatchToken workspace.name "special workspace"
      pure workspace.name
    else
      .error ⟨.unsupported,
        "Hyprland special workspace operation has no deterministic legacy dispatcher"⟩
  else if workspace.Numeric then
    .ok workspace.id
  else do
    validateDispatchToken workspace.name "named workspace"
    pure (namePrefix ++ workspace.name)

def dispatch (argument : Text) : Except CompositorError Text := do
  ensure (argument.byteLength ≤ 1024 ∧ argument.any isControl = false)
    (⟨.rejected, "Hyprland dispatcher argument was outside the fixed encoding bounds"⟩ :
      CompositorError)
  pure ("dispatch ".toList ++ argument)

end Targets

section Plans

inductive ExpectedPostcondition where
  | windowFocused (windowId : Text)
  | windowWorkspace (windowId workspaceId : Text)
  | windowClosed (windowId : Text)
  | workspaceFocused (workspaceId : Text)
  | workspaceMonitor (workspaceId monitorId : Text)
  | windowFloating (windowId : Text) (expected : Bool)
  | windowPinned (windowId : Text) (expected : Bool)
deriving DecidableEq

structure ActionPlan where
  requests : List Text
  expected : ExpectedPostcondition
deriving DecidableEq

/-- A request about one window. -/
def windowRequest (dispatcher : String) (window : Window) : Except CompositorError Text :=
  dispatch (dispatcher.toList ++ " address:".toList ++ window.id)

namespace ActionPlan

def fromCommand (snapshot : HyprlandSnapshot) :
    HyprlandCommand → Except CompositorError ActionPlan
  | .focusWindow windowId => do
      let window ← findWindow snapshot windowId
      let request ← windowRequest "focuswindow" window
      pure ⟨[request], .windowFocused window.id⟩
  | .moveWindowToWorkspace windowId workspaceId => do
      let window ← findWindow snapshot windowId
      let workspace ← findWorkspace snapshot workspaceId
      let target ← workspaceDispatchTarget workspace true
      let request ← dispatch
        ("movetoworkspacesilent ".toList ++ target ++ ",address:".toList ++ window.id)
      pure ⟨[request], .windowWorkspace window.id workspace.id⟩
  | .closeWindow windowId => do
      let window ← findWindow snapshot windowId
      let request ← windowRequest "closewindow" window
      pure ⟨[request], .windowClosed window.id⟩
  | .focusWorkspace workspaceId => do
      let workspace ← findWorkspace snapshot workspaceId
      let target ← workspaceDispatchTarget workspace false
      let request ← dispatch ("workspace ".toList ++ target)
      pure ⟨[request], .workspaceFocused workspace.id⟩
  | .moveWorkspaceToMonitor workspaceId monitorId => do
      let workspace ← findWorkspace snapshot workspaceId
      let monitor ← findMonitor snapshot monitorId
      validateDispatchToken monitor.id "monitor"
      let target ← workspaceDispatchTarget workspace false
      let request ← dispatch
        ("moveworkspacetomonitor ".toList ++ target ++ ' ' :: monitor.id)
      pure ⟨[request], .workspaceMonitor workspace.id monitor.id⟩
  | .toggleFullscreen _ => .error unsupportedFocusedAction
  | .toggleFloating windowId => do
      let window ← findWindow snapshot windowId
      let request ← windowRequest "togglefloating" window
      pure ⟨[request], .windowFloating window.id (! window.floating)⟩
  | .togglePinned windowId => do
      let window ← findWindow snapshot windowId
      let request ← windowRequest "pin" window
      pure ⟨[request], .windowPinned window.id (! window.pinned)⟩
  | .toggleGroup _ => .error unsupportedFocusedAction
  | .exit => .error ⟨.panic, "exit is handled without snapshot readback"⟩

end ActionPlan

def ExpectedPostcondition.confirms (snapshot : HyprlandSnapshot) : ExpectedPostcondition → Bool
  | .windowFocused windowId =>
      snapshot.windows.any fun window => window.id = windowId ∧ window.focused
  | .windowWorkspace windowId workspaceId =>
      snapshot.windows.any fun window => window.id = windowId ∧ window.workspaceId = workspaceId
  | .windowClosed windowId => snapshot.windows.all fun window => window.id ≠ windowId
  | .workspaceFocused workspaceId =>
      snapshot.workspaces.any fun workspace => workspace.id = workspaceId ∧ workspace.focused
  | .workspaceMonitor workspaceId monitorId =>
      snapshot.workspaces.any fun workspace =>
        workspace.id = workspaceId ∧ workspace.monitorId = monitorId
  | .windowFloating windowId expected =>
      snapshot.windows.any fun window => window.id = windowId ∧ window.floating = expected
  | .windowPinned windowId expected =>
      snapshot.windows.any fun window => window.id = windowId ∧ window.pinned = expected

end Plans

section Execution

inductive CompositorExecution where
  | snapshot (snapshot : HyprlandSnapshot)
  | exited
deriving DecidableEq

/-- One turn of a confirmation loop: whether the deadline has passed, what is read, and whether
the wait after it is cancelled. -/
structure Poll (α : Type) where
  expired : Bool
  read : Except CompositorError α
  cancelled : Bool

def unconfirmed : CompositorError :=
  ⟨.unconfirmed, "Hyprland readback did not confirm the requested postcondition"⟩

/-- The loop of `execute`; behind the last poll the deadline has passed. -/
def confirm (expected : ExpectedPostcondition) :
    List (Poll HyprlandSnapshot) → Except CompositorError CompositorExecution
  | [] => .error unconfirmed
  | poll :: polls =>
      if poll.expired then
        .error unconfirmed
      else
        match poll.read with
        | .error e => .error (if e.kind = .timeout then unconfirmed else e)
        | .ok post =>
            if expected.confirms post then
              .ok (.snapshot post)
            else if poll.cancelled then
              .error ⟨.cancelled, "Hyprland confirmation was cancelled"⟩
            else
              confirm expected polls

/-- `confirm_exit`; each poll says whether either socket is gone. -/
def confirmExit : List (Poll (Bool × Bool)) → Except CompositorError CompositorExecution
  | [] =>
      .error ⟨.unconfirmed, "Hyprland exit was not confirmed by both IPC sockets disappearing"⟩
  | poll :: polls =>
      if poll.expired then
        .error ⟨.unconfirmed, "Hyprland exit was not confirmed by both IPC sockets disappearing"⟩
      else
        match poll.read with
        | .error e => .error e
        | .ok (commandGone, eventsGone) =>
            if commandGone && eventsGone then
              .ok .exited
            else if poll.cancelled then
              .error ⟨.cancelled, "Hyprland exit confirmation was cancelled"⟩
            else
              confirmExit polls

/-- What the compositor answers while a command is executed. -/
structure Answers where
  pre : Except CompositorError HyprlandSnapshot
  response : Text → Except CompositorError Text
  polls : List (Poll HyprlandSnapshot)
  exitPolls : List (Poll (Bool × Bool))

/-- `dispatch_at`. -/
def dispatchAt (answers : Answers) (request : Text) : Except CompositorError Unit := do
  let response ← answers.response request
  ensure (response = "ok".toList)
    (⟨.rejected, "Hyprland rejected a fixed compositor dispatcher"⟩ : CompositorError)

def focusCommandAlreadySatisfied (snapshot : HyprlandSnapshot) : HyprlandCommand → Bool
  | .focusWindow windowId =>
      snapshot.windows.any fun window => window.id = windowId ∧ window.focused
  | .focusWorkspace workspaceId =>
      snapshot.workspaces.any fun workspace => workspace.id = workspaceId ∧ workspace.focused
  | _ => false

/-- A command on a snapshot: planned, dispatched and confirmed. -/
def executePlanned (answers : Answers) (command : HyprlandCommand) :
    Except CompositorError CompositorExecution := do
  let pre ← answers.pre
  if focusCommandAlreadySatisfied pre command then
    pure (.snapshot pre)
  else do
    let plan ← ActionPlan.fromCommand pre command
    plan.requests.forM (dispatchAt answers)
    confirm plan.expected answers.polls

def execute (answers : Answers) : HyprlandCommand → Except CompositorError CompositorExecution
  | .toggleFullscreen _ => .error unsupportedFocusedAction
  | .toggleGroup _ => .error unsupportedFocusedAction
  | .exit => do
      dispatchAt answers "dispatch exit".toList
      confirmExit answers.exitPolls
  | command => executePlanned answers command

end Execution

end Compositor
end SleepySession
