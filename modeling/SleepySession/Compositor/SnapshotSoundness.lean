import SleepySession.Compositor.SnapshotRules

/-!
# Soundness of snapshots

What an accepted snapshot says of itself: identifiers are unique, references
lead to listed monitors and workspaces, the focus is one chain, and the groups
are a partition.  None of it depends on the order of the lists.
-/

namespace SleepySession
namespace Compositor

section Statements

/-- A window reports another one as a member of its group. -/
def Grouped (clients : List UpstreamClient) (address member : Text) : Prop :=
  ∃ client ∈ clients, client.address = address ∧ member ∈ client.grouped

/-- The group lists are the classes of an equivalence relation on the grouped windows. -/
structure GroupPartition (clients : List UpstreamClient) : Prop where
  listed : ∀ address member, Grouped clients address member →
    ∃ client ∈ clients, client.address = member
  reflexive : ∀ client ∈ clients, client.grouped ≠ [] →
    Grouped clients client.address client.address
  symmetric : ∀ address member, Grouped clients address member → Grouped clients member address
  transitive : ∀ address member other, Grouped clients address member →
    Grouped clients member other → Grouped clients address other
  equal : ∀ client ∈ clients, ∀ member ∈ clients, member.address ∈ client.grouped →
    SameMembers member.grouped client.grouped

structure Sound (clients : List UpstreamClient) (snapshot : HyprlandSnapshot) : Prop where
  monitorIds : (snapshot.monitors.map Monitor.id).Nodup
  workspaceIds : (snapshot.workspaces.map Workspace.id).Nodup
  windowIds : (snapshot.windows.map Window.id).Nodup
  workspaceMonitor : ∀ workspace ∈ snapshot.workspaces,
    ∃ monitor ∈ snapshot.monitors, monitor.id = workspace.monitorId
  windowWorkspace : ∀ window ∈ snapshot.windows,
    ∃ workspace ∈ snapshot.workspaces, workspace.id = window.workspaceId
  oneMonitor : snapshot.monitors.countP Monitor.focused ≤ 1
  oneWorkspace : snapshot.workspaces.countP Workspace.focused ≤ 1
  oneWindow : snapshot.windows.countP Window.focused ≤ 1
  focusedWorkspace : ∀ workspace ∈ snapshot.workspaces, workspace.focused = true →
    ∃ monitor ∈ snapshot.monitors, monitor.focused = true ∧ monitor.id = workspace.monitorId
  focusedMonitor : ∀ monitor ∈ snapshot.monitors, monitor.focused = true →
    ∃ workspace ∈ snapshot.workspaces, workspace.focused = true ∧
      workspace.monitorId = monitor.id
  focusedWindow : ∀ window ∈ snapshot.windows, window.focused = true →
    ∃ workspace ∈ snapshot.workspaces, workspace.id = window.workspaceId ∧
      (workspace.focused = true ∨
        (window.pinned = true ∧ ∃ monitor ∈ snapshot.monitors, monitor.focused = true ∧
          monitor.id = workspace.monitorId))
  groups : GroupPartition clients

end Statements

section Soundness

variable {monitors : List UpstreamMonitor} {workspaces : List UpstreamWorkspace}
variable {clients : List UpstreamClient}

theorem groupPartition_of_accepted (h : Accepted monitors workspaces clients) :
    GroupPartition clients := by
  have hsame : ∀ client ∈ clients, ∀ member ∈ clients, member.address ∈ client.grouped →
      SameMembers member.grouped client.grouped := by
    intro client hclient member hmember hmem
    exact h.reciprocal client hclient (List.ne_nil_of_mem hmem) _ hmem member hmember rfl
  have hself : ∀ client ∈ clients, ∀ member, member ∈ client.grouped →
      client.address ∈ client.grouped := fun client hclient member hmem =>
    (h.groups.group client hclient).self (List.ne_nil_of_mem hmem)
  refine ⟨?_, ?_, ?_, ?_, hsame⟩
  · rintro address member ⟨client, hclient, rfl, hmem⟩
    exact (h.groups.group client hclient).listed member hmem
  · intro client hclient hne
    exact ⟨client, hclient, rfl, (h.groups.group client hclient).self hne⟩
  · rintro address member ⟨client, hclient, rfl, hmem⟩
    obtain ⟨peer, hpeer, rfl⟩ := (h.groups.group client hclient).listed member hmem
    exact ⟨peer, hpeer, rfl,
      (hsame client hclient peer hpeer hmem _).mpr (hself client hclient _ hmem)⟩
  · rintro address member other ⟨client, hclient, rfl, hmem⟩ ⟨peer, hpeer, rfl, hother⟩
    exact ⟨client, hclient, rfl, (hsame client hclient peer hpeer hmem _).mp hother⟩

/-- The workspace of the focused monitor is the one that is marked. -/
theorem focused_workspace_iff (h : Accepted monitors workspaces clients)
    {workspace : UpstreamWorkspace} :
    (workspace.workspace (monitorPass monitors).focused).focused = true ↔
      ∃ monitor ∈ monitors, monitor.focused = true ∧
        monitor.focusedWorkspace = workspace.id := by
  rw [UpstreamWorkspace.workspace, Option.any_eq_true]
  constructor
  · rintro ⟨entry, hentry, hid⟩
    obtain ⟨monitor, hmonitor, hfocused, rfl⟩ := (monitorPass_focused h.monitorList).mp hentry
    exact ⟨monitor, hmonitor, hfocused, of_decide_eq_true hid⟩
  · rintro ⟨monitor, hmonitor, hfocused, hid⟩
    exact ⟨_, (monitorPass_focused h.monitorList).mpr ⟨monitor, hmonitor, hfocused, rfl⟩,
      decide_eq_true hid⟩

/-- The focused workspace of a monitor is one that it says it shows. -/
theorem focusedWorkspace_ref (monitor : UpstreamMonitor) :
    ∃ ref ∈ monitor.workspaceRefs, ref.id = monitor.focusedWorkspace := by
  unfold UpstreamMonitor.workspaceRefs UpstreamMonitor.focusedWorkspace
  split_ifs
  · exact ⟨monitor.activeWorkspace, by simp, rfl⟩
  · exact ⟨monitor.specialWorkspace, by simp, rfl⟩

/-- It is listed on that monitor. -/
theorem focusedWorkspace_listed (h : Accepted monitors workspaces clients)
    {monitor : UpstreamMonitor} (hmonitor : monitor ∈ monitors) :
    ∃ workspace ∈ workspaces, workspace.id = monitor.focusedWorkspace ∧
      workspace.monitor = monitor.name := by
  obtain ⟨ref, href, hid⟩ := focusedWorkspace_ref monitor
  obtain ⟨workspace, hworkspace, hworkspaceId, -, hplace⟩ := h.refs monitor hmonitor ref href
  exact ⟨workspace, hworkspace, hworkspaceId.trans hid, hplace⟩

theorem workspace_of_id (h : Accepted monitors workspaces clients)
    {workspace workspace' : UpstreamWorkspace} (hworkspace : workspace ∈ workspaces)
    (hworkspace' : workspace' ∈ workspaces) (hid : workspace.id = workspace'.id) :
    workspace = workspace' :=
  List.inj_on_of_nodup_map h.workspaceList.ids hworkspace hworkspace' hid

theorem one_focused_workspace (h : Accepted monitors workspaces clients) :
    (snapshotOf monitors workspaces clients).workspaces.countP Workspace.focused ≤ 1 := by
  rw [snapshotOf, List.countP_map]
  cases hfocused : (monitorPass monitors).focused with
  | none => simp [Function.comp_def, UpstreamWorkspace.workspace]
  | some entry =>
      have hcount := List.nodup_iff_count_le_one.mp h.workspaceList.ids entry.2
      rw [List.count, List.countP_map] at hcount
      refine le_trans (le_of_eq (List.countP_congr fun workspace _ => ?_)) hcount
      simp only [Function.comp_apply, UpstreamWorkspace.workspace, Option.any_some,
        decide_eq_true_eq, beq_iff_eq]
      exact eq_comm

theorem sound_of_accepted (h : Accepted monitors workspaces clients) :
    Sound clients (snapshotOf monitors workspaces clients) where
  monitorIds := by
    rw [snapshotOf, List.map_map]
    exact h.monitorList.names
  workspaceIds := by
    rw [snapshotOf, List.map_map]
    have hids := (List.nodup_map_iff integerText_injective).mpr h.workspaceList.ids
    rw [List.map_map] at hids
    exact hids
  windowIds := by
    rw [snapshotOf, List.map_map]
    exact h.addresses.addresses
  workspaceMonitor := by
    intro _ hmem
    obtain ⟨workspace, hworkspace, rfl⟩ := List.mem_map.mp hmem
    obtain ⟨monitor, hmonitor, hname⟩ := h.workspaceList.monitors workspace hworkspace
    exact ⟨_, List.mem_map_of_mem hmonitor, hname⟩
  windowWorkspace := by
    intro _ hmem
    obtain ⟨client, hclient, rfl⟩ := List.mem_map.mp hmem
    obtain ⟨workspace, hworkspace, hid, -⟩ := (h.clientList.client client hclient).placed
    exact ⟨_, List.mem_map_of_mem hworkspace, congrArg integerText hid⟩
  oneMonitor := by
    rw [snapshotOf, List.countP_map]
    exact h.monitorList.focused
  oneWorkspace := one_focused_workspace h
  oneWindow := by
    rw [snapshotOf, List.countP_map]
    exact h.clientList.focused
  focusedWorkspace := by
    intro _ hmem hfocused
    obtain ⟨workspace, hworkspace, rfl⟩ := List.mem_map.mp hmem
    obtain ⟨monitor, hmonitor, hmonitorFocused, hid⟩ := (focused_workspace_iff h).mp hfocused
    obtain ⟨shown, hshown, hshownId, hplace⟩ := focusedWorkspace_listed h hmonitor
    obtain rfl := workspace_of_id h hshown hworkspace (hshownId.trans hid)
    exact ⟨_, List.mem_map_of_mem hmonitor, hmonitorFocused, hplace.symm⟩
  focusedMonitor := by
    intro _ hmem hfocused
    obtain ⟨monitor, hmonitor, rfl⟩ := List.mem_map.mp hmem
    obtain ⟨workspace, hworkspace, hid, hplace⟩ := focusedWorkspace_listed h hmonitor
    exact ⟨_, List.mem_map_of_mem hworkspace,
      (focused_workspace_iff h).mpr ⟨monitor, hmonitor, hfocused, hid.symm⟩, hplace⟩
  focusedWindow := by
    intro _ hmem hfocused
    obtain ⟨client, hclient, rfl⟩ := List.mem_map.mp hmem
    have haccepted := h.clientList.client client hclient
    obtain ⟨workspace, hworkspace, hid, -, place, hplace, hname, hplaceId⟩ := haccepted.placed
    refine ⟨_, List.mem_map_of_mem hworkspace, congrArg integerText hid, ?_⟩
    obtain ⟨monitor, hmonitor, hmonitorFocused, hon | ⟨hpinned, hnumber⟩⟩ :=
      haccepted.focused hfocused
    · exact Or.inl ((focused_workspace_iff h).mpr
        ⟨monitor, hmonitor, hmonitorFocused, hon.symm.trans hid.symm⟩)
    · have hsame := List.inj_on_of_nodup_map h.monitorList.ids hmonitor hplace
        (hnumber.trans hplaceId.symm)
      exact Or.inr ⟨hpinned, _, List.mem_map_of_mem hmonitor, hmonitorFocused,
        (congrArg UpstreamMonitor.name hsame).trans hname⟩
  groups := groupPartition_of_accepted h

end Soundness

section Order

variable {monitors monitors' : List UpstreamMonitor}
variable {workspaces workspaces' : List UpstreamWorkspace}
variable {clients clients' : List UpstreamClient}

def sampleMonitor : UpstreamMonitor :=
  ⟨0, "DP-1".toList, 2560, 1440, .finite 1, true, ⟨1, "one".toList⟩, ⟨0, []⟩⟩

def sampleWorkspaces : List UpstreamWorkspace :=
  [⟨1, "one".toList, "DP-1".toList⟩, ⟨-99, "special:notes".toList, "DP-1".toList⟩]

/-- Two windows in one group. -/
def sampleClients : List UpstreamClient :=
  [⟨"0xa1".toList, ⟨1, "one".toList⟩, false, 0, "term".toList, [], false, 0,
      ["0xa1".toList, "0xb2".toList], 0⟩,
    ⟨"0xb2".toList, ⟨1, "one".toList⟩, false, 0, [], "b".toList, false, 0,
      ["0xb2".toList, "0xa1".toList], 1⟩]

theorem sampleSnapshot_ok :
    parseFullSnapshot [sampleMonitor] sampleWorkspaces sampleClients =
      .ok (snapshotOf [sampleMonitor] sampleWorkspaces sampleClients) := by
  decide

end Order

end Compositor
end SleepySession
