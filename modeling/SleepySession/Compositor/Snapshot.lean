import SleepySession.Desktop.CommandText
import SleepySession.Lib.Checks
import SleepySession.Lib.Table

/-!
# Snapshots of Hyprland

What `parse_full_snapshot` makes of the decoded monitor, workspace and client
lists.  Each pass of the source is a checked loop over one list with the sets
and maps that later passes look into; numbers are within the ranges of their
types, and a scale is exact.
-/

namespace SleepySession
namespace Compositor

open Checks

/-- `panic` stands for a failed `expect` and for code that is not reached. -/
inductive CompositorErrorKind where
  | unavailable
  | unsafeInstance
  | io
  | timeout
  | parse
  | inconsistent
  | bounds
  | rejected
  | unsupported
  | unconfirmed
  | lagged
  | cancelled
  | panic
deriving DecidableEq

structure CompositorError where
  kind : CompositorErrorKind
  message : String
deriving DecidableEq

def parseError (message : String) : CompositorError :=
  ⟨.parse, message⟩

def inconsistentError (message : String) : CompositorError :=
  ⟨.inconsistent, message⟩

def boundsError (message : String) : CompositorError :=
  ⟨.bounds, message⟩

section Upstream

structure UpstreamWorkspaceRef where
  id : Int
  name : Text
deriving DecidableEq

structure UpstreamMonitor where
  id : Int
  name : Text
  width : Nat
  height : Nat
  scale : Level
  focused : Bool
  activeWorkspace : UpstreamWorkspaceRef
  specialWorkspace : UpstreamWorkspaceRef
deriving DecidableEq

structure UpstreamWorkspace where
  id : Int
  name : Text
  monitor : Text
deriving DecidableEq

structure UpstreamClient where
  address : Text
  workspace : UpstreamWorkspaceRef
  floating : Bool
  monitor : Int
  applicationId : Text
  title : Text
  pinned : Bool
  fullscreen : Int
  grouped : List Text
  focusHistoryId : Int
deriving DecidableEq

end Upstream

section Domain

structure Monitor where
  id : Text
  name : Text
  width : Nat
  height : Nat
  scale : Level
  focused : Bool
deriving DecidableEq

structure Workspace where
  id : Text
  name : Text
  monitorId : Text
  focused : Bool
deriving DecidableEq

structure Window where
  id : Text
  title : Text
  applicationId : Text
  workspaceId : Text
  focused : Bool
  fullscreen : Bool
  floating : Bool
  pinned : Bool
  grouped : Bool
deriving DecidableEq

/-- The capabilities, which are the same for every snapshot, are left out. -/
structure HyprlandSnapshot where
  monitors : List Monitor
  workspaces : List Workspace
  windows : List Window
deriving DecidableEq

end Domain

section Validation

def maxMonitors : Nat :=
  64

def maxWorkspaces : Nat :=
  1024

def maxWindows : Nat :=
  16384

def maxGroupMembers : Nat :=
  maxWindows

def maxNameBytes : Nat :=
  256

def maxApplicationIdBytes : Nat :=
  512

def maxTitleBytes : Nat :=
  4096

/-- `char::is_control`. -/
def isControl (c : Char) : Bool :=
  c.toNat < 0x20 || (0x7F ≤ c.toNat && c.toNat < 0xA0)

/-- `i64::to_string`. -/
def integerText (n : Int) : Text :=
  if n < 0 then '-' :: decimalText n.natAbs else decimalText n.natAbs

def enforceMaximum (actual maximum : Nat) (description : String) :
    Except CompositorError Unit :=
  ensure (actual ≤ maximum)
    (boundsError s!"Hyprland {description} exceed maximum of {maximum}")

def validateNumericId (id : Int) (description : String) : Except CompositorError Unit :=
  ensure (0 ≤ id) (parseError s!"Hyprland {description} must be nonnegative")

def validateWorkspaceId (id : Int) : Except CompositorError Unit :=
  ensure (id ≠ 0) (parseError "Hyprland workspace id must not be zero")

/-- The texts that `validate_bounded_string` lets through. -/
def BoundedString (value : Text) (maximum : Nat) (allowEmpty : Bool) : Prop :=
  (allowEmpty = true ∨ value ≠ []) ∧ value.byteLength ≤ maximum ∧ value.any isControl = false

instance (value : Text) (maximum : Nat) (allowEmpty : Bool) :
    Decidable (BoundedString value maximum allowEmpty) :=
  inferInstanceAs (Decidable (_ ∧ _))

def validateBoundedString (value : Text) (maximum : Nat) (description : String)
    (allowEmpty : Bool) : Except CompositorError Unit :=
  ensure (BoundedString value maximum allowEmpty)
    (parseError s!"Hyprland {description} is empty, overlong, or contains controls")

def validateWorkspaceRef (workspace : UpstreamWorkspaceRef) (required : Bool) :
    Except CompositorError Unit := do
  if required then
    validateWorkspaceId workspace.id
  validateBoundedString workspace.name maxNameBytes "workspace reference name" (! required)

/-- The digits that `validate_address` lets through. -/
def AddressDigits (digits : Text) : Prop :=
  digits ≠ [] ∧ digits.length ≤ 16 ∧ digits ≠ ['0'] ∧
    ¬ (1 < digits.length ∧ digits.head? = some '0') ∧ digits.all isLowerHex = true

instance : DecidablePred AddressDigits :=
  fun _ => inferInstanceAs (Decidable (_ ∧ _))

def addressPrefix : Text :=
  "0x".toList

def validateAddress (address : Text) : Except CompositorError Unit :=
  match stripPrefix addressPrefix address with
  | none =>
      .error (parseError "Hyprland window address must use the canonical 0x prefix")
  | some digits =>
      ensure (AddressDigits digits)
        (parseError "Hyprland window address must contain 1..=16 lowercase hexadecimal digits")

end Validation

section Monitors

/-- `is_finite`, positive and at most 16. -/
def Level.ValidScale : Level → Prop
  | .finite value => 0 < value ∧ value ≤ 16
  | _ => False

instance : DecidablePred Level.ValidScale
  | .finite value => inferInstanceAs (Decidable (0 < value ∧ value ≤ 16))
  | .infinite _ => isFalse not_false
  | .nan => isFalse not_false

namespace UpstreamMonitor

/-- The workspace that has the focus if the monitor has. -/
def focusedWorkspace (monitor : UpstreamMonitor) : Int :=
  if monitor.specialWorkspace.id = 0 then
    monitor.activeWorkspace.id
  else
    monitor.specialWorkspace.id

/-- The workspaces that the monitor says it shows. -/
def workspaceRefs (monitor : UpstreamMonitor) : List UpstreamWorkspaceRef :=
  if monitor.specialWorkspace.id = 0 then
    [monitor.activeWorkspace]
  else
    [monitor.activeWorkspace, monitor.specialWorkspace]

def monitor (monitor : UpstreamMonitor) : Monitor :=
  ⟨monitor.name, monitor.name, monitor.width, monitor.height, monitor.scale, monitor.focused⟩

end UpstreamMonitor

/-- `focused` is `focused_monitor_workspace`. -/
structure MonitorPass where
  ids : List Text := []
  numericIds : List Int := []
  numbers : Table Text Int := .empty
  monitors : List Monitor := []
  focused : Option (Text × Int) := none
  workspaceRefs : List (Text × UpstreamWorkspaceRef) := []

def MonitorPass.add (pass : MonitorPass) (monitor : UpstreamMonitor) : MonitorPass where
  ids := monitor.name :: pass.ids
  numericIds := monitor.id :: pass.numericIds
  numbers := pass.numbers.insert monitor.name monitor.id
  monitors := pass.monitors ++ [monitor.monitor]
  focused :=
    if monitor.focused then some (monitor.name, monitor.focusedWorkspace) else pass.focused
  workspaceRefs :=
    pass.workspaceRefs ++ monitor.workspaceRefs.map fun workspace => (monitor.name, workspace)

def parseMonitor (pass : MonitorPass) (monitor : UpstreamMonitor) :
    Except CompositorError MonitorPass := do
  validateNumericId monitor.id "monitor id"
  validateBoundedString monitor.name maxNameBytes "monitor name" false
  ensure (monitor.name ∉ pass.ids) (parseError "Hyprland monitors contain duplicate stable IDs")
  ensure (monitor.id ∉ pass.numericIds)
    (parseError "Hyprland monitors contain duplicate numeric IDs")
  ensure (monitor.width < 2 ^ 32) (parseError "Hyprland monitor width exceeds u32")
  ensure (monitor.height < 2 ^ 32) (parseError "Hyprland monitor height exceeds u32")
  ensure (monitor.width ≠ 0 ∧ monitor.height ≠ 0 ∧ Level.ValidScale monitor.scale)
    (parseError "Hyprland monitor geometry and scale must be finite and positive")
  validateWorkspaceRef monitor.activeWorkspace true
  if monitor.specialWorkspace.id ≠ 0 then
    validateWorkspaceRef monitor.specialWorkspace true
  else
    ensure (monitor.specialWorkspace.name = [])
      (parseError "Hyprland inactive special workspace must have an empty name")
  ensure (monitor.focused = true → pass.focused.isSome = false)
    (parseError "Hyprland reported multiple focused monitors")
  pure (pass.add monitor)

end Monitors

section Workspaces

structure WorkspacePass where
  ids : List Text := []
  locations : Table Int (Text × Text) := .empty
  workspaces : List Workspace := []

def UpstreamWorkspace.workspace (focused : Option (Text × Int)) (workspace : UpstreamWorkspace) :
    Workspace :=
  ⟨integerText workspace.id, workspace.name, workspace.monitor,
    focused.any fun entry => entry.2 = workspace.id⟩

def WorkspacePass.add (focused : Option (Text × Int)) (pass : WorkspacePass)
    (workspace : UpstreamWorkspace) : WorkspacePass where
  ids := integerText workspace.id :: pass.ids
  locations := pass.locations.insert workspace.id (workspace.name, workspace.monitor)
  workspaces := pass.workspaces ++ [workspace.workspace focused]

def parseWorkspace (monitorIds : List Text) (focused : Option (Text × Int))
    (pass : WorkspacePass) (workspace : UpstreamWorkspace) :
    Except CompositorError WorkspacePass := do
  validateWorkspaceId workspace.id
  validateBoundedString workspace.name maxNameBytes "workspace name" false
  validateBoundedString workspace.monitor maxNameBytes "workspace monitor" false
  ensure (workspace.monitor ∈ monitorIds)
    (inconsistentError "Hyprland workspace references an unknown monitor")
  ensure (integerText workspace.id ∉ pass.ids)
    (parseError "Hyprland workspaces contain duplicate stable IDs")
  pure (pass.add focused workspace)

/-- One turn of the loop over `workspace_refs`. -/
def checkWorkspaceRef (locations : Table Int (Text × Text))
    (entry : Text × UpstreamWorkspaceRef) : Except CompositorError Unit :=
  match locations.get? entry.2.id with
  | none => .error (inconsistentError "Hyprland monitor references an unknown workspace")
  | some location =>
      ensure (location = (entry.2.name, entry.1))
        (inconsistentError "Hyprland monitor and workspace queries disagree")

end Workspaces

section Groups

def addAddress (seen : List Text) (client : UpstreamClient) :
    Except CompositorError (List Text) := do
  validateAddress client.address
  ensure (client.address ∉ seen) (parseError "Hyprland clients contain duplicate addresses")
  pure (client.address :: seen)

def addMember (windowIds members : List Text) (address : Text) :
    Except CompositorError (List Text) := do
  validateAddress address
  ensure (address ∉ members) (parseError "Hyprland group contains duplicate member addresses")
  ensure (address ∈ windowIds) (parseError "Hyprland group references an unknown window")
  pure (address :: members)

/-- `sets` is `group_sets`. -/
structure GroupPass where
  total : Nat := 0
  sets : Table Text (List Text) := .empty

def parseGroup (windowIds : List Text) (pass : GroupPass) (client : UpstreamClient) :
    Except CompositorError GroupPass := do
  enforceMaximum client.grouped.length maxGroupMembers "group members"
  let total := pass.total + client.grouped.length
  ensure (total < 2 ^ 64) (boundsError "Hyprland aggregate group topology overflowed")
  enforceMaximum total maxGroupMembers "aggregate group members"
  let members ← client.grouped.foldlM (addMember windowIds) []
  ensure (client.grouped ≠ [] → client.address ∈ members)
    (parseError "Hyprland grouped window does not include itself")
  pure ⟨total, pass.sets.insert client.address members⟩

/-- Equality of sets. -/
def SameMembers (left right : List Text) : Prop :=
  ∀ address, address ∈ left ↔ address ∈ right

instance (left right : List Text) : Decidable (SameMembers left right) :=
  decidable_of_iff ((∀ address ∈ left, address ∈ right) ∧ ∀ address ∈ right, address ∈ left)
    ⟨fun h address => ⟨h.1 address, h.2 address⟩, fun h =>
      ⟨fun address => (h address).mp, fun address => (h address).mpr⟩⟩

/-- One member of a group has the same group. -/
def checkPeer (sets : Table Text (List Text)) (members : List Text) (address : Text) :
    Except CompositorError Unit :=
  match sets.get? address with
  | none => .error ⟨.panic, "group foreign keys were validated"⟩
  | some peerMembers =>
      ensure (SameMembers peerMembers members)
        (parseError "Hyprland group members do not report reciprocal topology")

/-- One turn of the loop over the groups; the members of a group are validated with it. -/
def checkGroup (sets : Table Text (List Text)) (validated : List Text)
    (client : UpstreamClient) : Except CompositorError (List Text) :=
  if client.grouped = [] ∨ client.address ∈ validated then
    .ok validated
  else
    match sets.get? client.address with
    | none => .error ⟨.panic, "every client has a validated group set"⟩
    | some members => do
        members.forM (checkPeer sets members)
        pure (members ++ validated)

end Groups

section Windows

/-- What the passes over monitors and workspaces have collected. -/
structure Topology where
  numbers : Table Text Int
  focused : Option (Text × Int)
  workspaceIds : List Text
  locations : Table Int (Text × Text)

structure WindowPass where
  windows : List Window := []
  focusedWindowSeen : Bool := false

namespace UpstreamClient

/-- `unknown` stands for an empty application id. -/
def application (client : UpstreamClient) : Text :=
  if client.applicationId = [] then "unknown".toList else client.applicationId

def focused (client : UpstreamClient) : Bool :=
  client.focusHistoryId = 0

def window (client : UpstreamClient) : Window where
  id := client.address
  title := client.title
  applicationId := client.application
  workspaceId := integerText client.workspace.id
  focused := client.focused
  fullscreen := client.fullscreen ≠ 0
  floating := client.floating
  pinned := client.pinned
  grouped := ! client.grouped.isEmpty

end UpstreamClient

def WindowPass.add (pass : WindowPass) (client : UpstreamClient) : WindowPass :=
  ⟨pass.windows ++ [client.window], pass.focusedWindowSeen || client.focused⟩

/-- A value that a failed `expect` would panic without. -/
def expected {α : Type} (message : String) : Option α → Except CompositorError α
  | some a => .ok a
  | none => .error ⟨.panic, message⟩

/-- The checks of a focused window. -/
def checkFocusedWindow (topology : Topology) (client : UpstreamClient)
    (workspaceMonitor : Text) : Except CompositorError Unit :=
  match topology.focused with
  | none => .error (inconsistentError "Hyprland focused window has no focused monitor")
  | some (monitorName, workspaceId) => do
      let number ← expected "focused monitor was validated" (topology.numbers.get? monitorName)
      ensure (client.workspace.id = workspaceId ∨
          (client.pinned = true ∧ workspaceMonitor = monitorName ∧ client.monitor = number))
        (inconsistentError "Hyprland focused window and focused workspace disagree")

def parseWindow (topology : Topology) (pass : WindowPass) (client : UpstreamClient) :
    Except CompositorError WindowPass := do
  validateWorkspaceRef client.workspace true
  validateBoundedString client.application maxApplicationIdBytes "window application id" false
  validateBoundedString client.title maxTitleBytes "window title" true
  ensure (integerText client.workspace.id ∈ topology.workspaceIds)
    (inconsistentError "Hyprland window references an unknown workspace")
  let location ← expected "workspace foreign key was validated"
    (topology.locations.get? client.workspace.id)
  let number ← expected "workspace monitor foreign key was validated"
    (topology.numbers.get? location.2)
  ensure (location.1 = client.workspace.name ∧ client.monitor = number)
    (inconsistentError "Hyprland client and workspace queries disagree")
  ensure (0 ≤ client.fullscreen ∧ client.fullscreen ≤ 2)
    (parseError "Hyprland fullscreen mode is outside 0..=2")
  ensure (client.focused = true → pass.focusedWindowSeen = false)
    (parseError "Hyprland reported multiple focused windows")
  if client.focused then
    checkFocusedWindow topology client location.2
  pure (pass.add client)

end Windows

/-- `parse_full_snapshot`, behind the decoding of its three texts. -/
def parseFullSnapshot (upstreamMonitors : List UpstreamMonitor)
    (upstreamWorkspaces : List UpstreamWorkspace) (upstreamClients : List UpstreamClient) :
    Except CompositorError HyprlandSnapshot := do
  enforceMaximum upstreamMonitors.length maxMonitors "monitors"
  enforceMaximum upstreamWorkspaces.length maxWorkspaces "workspaces"
  enforceMaximum upstreamClients.length maxWindows "windows"
  let monitors ← upstreamMonitors.foldlM parseMonitor {}
  let workspaces ← upstreamWorkspaces.foldlM (parseWorkspace monitors.ids monitors.focused) {}
  monitors.workspaceRefs.forM (checkWorkspaceRef workspaces.locations)
  let windowIds ← upstreamClients.foldlM addAddress []
  let groups ← upstreamClients.foldlM (parseGroup windowIds) {}
  let _ ← upstreamClients.foldlM (checkGroup groups.sets) []
  let windows ← upstreamClients.foldlM
    (parseWindow ⟨monitors.numbers, monitors.focused, workspaces.ids, workspaces.locations⟩) {}
  pure ⟨monitors.monitors, workspaces.workspaces, windows.windows⟩

end Compositor
end SleepySession
