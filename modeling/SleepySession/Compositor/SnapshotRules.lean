import SleepySession.Compositor.Snapshot

/-!
# What snapshots are accepted

Conditions on the three lists that do not depend on their order, and that
`parse_full_snapshot` succeeds exactly under them, with the snapshot that maps
each list element by element.
-/

namespace SleepySession
namespace Compositor

open Checks

section Texts

theorem decimalText_injective : Function.Injective decimalText := by
  intro m n h
  rw [← @Nat.ofDigitChars_ten_toDigits m, ← @Nat.ofDigitChars_ten_toDigits n]
  exact congrArg (fun digits => Nat.ofDigitChars 10 digits 0) h

theorem minus_not_mem_decimalText (n : Nat) : '-' ∉ decimalText n := by
  intro h
  have hdigit := Nat.isDigit_of_mem_toDigits (by decide) (by decide) h
  exact absurd hdigit (by decide)

/-- The text of a number determines it. -/
theorem integerText_injective : Function.Injective integerText := by
  intro m n h
  unfold integerText at h
  split_ifs at h with hm hn hn
  · have hsame := decimalText_injective (List.cons.inj h).2
    omega
  · exact absurd (h ▸ List.mem_cons_self) (minus_not_mem_decimalText _)
  · exact absurd (h.symm ▸ List.mem_cons_self) (minus_not_mem_decimalText _)
  · have hsame := decimalText_injective h
    omega

def UpstreamWorkspaceRef.Valid (ref : UpstreamWorkspaceRef) : Prop :=
  ref.id ≠ 0 ∧ BoundedString ref.name maxNameBytes false

@[simp] theorem validateWorkspaceRef_eq_ok_iff {ref : UpstreamWorkspaceRef} {u : Unit} :
    validateWorkspaceRef ref true = .ok u ↔ ref.Valid := by
  simp only [validateWorkspaceRef, validateWorkspaceId, validateBoundedString, if_true,
    check_bind_eq_ok_iff, ensure_eq_ok_iff, UpstreamWorkspaceRef.Valid, Bool.not_true]

@[simp] theorem validateBoundedString_eq_ok_iff {value : Text} {maximum : Nat}
    {description : String} {allowEmpty : Bool} {u : Unit} :
    validateBoundedString value maximum description allowEmpty = .ok u ↔
      BoundedString value maximum allowEmpty :=
  ensure_eq_ok_iff

@[simp] theorem enforceMaximum_eq_ok_iff {actual maximum : Nat} {description : String}
    {u : Unit} : enforceMaximum actual maximum description = .ok u ↔ actual ≤ maximum :=
  ensure_eq_ok_iff

/-- The addresses that `validate_address` lets through. -/
def ValidAddress (address : Text) : Prop :=
  ∃ digits, address = addressPrefix ++ digits ∧ AddressDigits digits

theorem stripPrefix_eq_some_iff {pattern text rest : Text} :
    stripPrefix pattern text = some rest ↔ text = pattern ++ rest := by
  unfold stripPrefix
  split_ifs with h
  · obtain ⟨after, rfl⟩ := List.isPrefixOf_iff_prefix.mp h
    simp [eq_comm]
  · refine iff_of_false nofun ?_
    rintro rfl
    exact h (List.isPrefixOf_iff_prefix.mpr (List.prefix_append _ _))

@[simp] theorem validateAddress_eq_ok_iff {address : Text} {u : Unit} :
    validateAddress address = .ok u ↔ ValidAddress address := by
  unfold validateAddress
  split
  · next hnone =>
      refine iff_of_false nofun ?_
      rintro ⟨digits, haddress, -⟩
      rw [stripPrefix_eq_some_iff.mpr haddress] at hnone
      cases hnone
  · next digits hdigits =>
      rw [ensure_eq_ok_iff]
      have haddress := stripPrefix_eq_some_iff.mp hdigits
      constructor
      · exact fun h => ⟨digits, haddress, h⟩
      · rintro ⟨other, hother, h⟩
        have hsame : digits = other := List.append_cancel_left (haddress.symm.trans hother)
        exact hsame ▸ h

end Texts

section Monitors

structure UpstreamMonitor.Valid (monitor : UpstreamMonitor) : Prop where
  id : 0 ≤ monitor.id
  name : BoundedString monitor.name maxNameBytes false
  width : monitor.width < 2 ^ 32
  height : monitor.height < 2 ^ 32
  geometry : monitor.width ≠ 0 ∧ monitor.height ≠ 0 ∧ Level.ValidScale monitor.scale
  active : monitor.activeWorkspace.Valid
  special : monitor.specialWorkspace.id ≠ 0 → monitor.specialWorkspace.Valid
  hidden : monitor.specialWorkspace.id = 0 → monitor.specialWorkspace.name = []

theorem parseMonitor_eq_ok_iff {pass pass' : MonitorPass} {monitor : UpstreamMonitor} :
    parseMonitor pass monitor = .ok pass' ↔
      (monitor.Valid ∧ monitor.name ∉ pass.ids ∧ monitor.id ∉ pass.numericIds ∧
          (monitor.focused = true → pass.focused.isSome = false)) ∧
        pass' = pass.add monitor := by
  simp only [parseMonitor, validateNumericId, check_bind_eq_ok_iff, ensure_eq_ok_iff,
    validateBoundedString_eq_ok_iff, validateWorkspaceRef_eq_ok_iff]
  by_cases hspecial : monitor.specialWorkspace.id = 0
  · simp only [hspecial, ne_eq, not_true_eq_false, if_false, check_bind_eq_ok_iff,
      ensure_eq_ok_iff, pure_eq_ok_iff]
    constructor
    · rintro ⟨hid, hname, hnames, hids, hwidth, hheight, hgeometry, hactive, hhidden, hfocused,
        hpass⟩
      exact ⟨⟨⟨hid, hname, hwidth, hheight, hgeometry, hactive, fun h => absurd hspecial h,
        fun _ => hhidden⟩, hnames, hids, hfocused⟩, hpass⟩
    · rintro ⟨⟨hvalid, hnames, hids, hfocused⟩, hpass⟩
      exact ⟨hvalid.id, hvalid.name, hnames, hids, hvalid.width, hvalid.height, hvalid.geometry,
        hvalid.active, hvalid.hidden hspecial, hfocused, hpass⟩
  · simp only [ne_eq, hspecial, not_false_eq_true, if_true, check_bind_eq_ok_iff,
      ensure_eq_ok_iff, validateWorkspaceRef_eq_ok_iff, pure_eq_ok_iff]
    constructor
    · rintro ⟨hid, hname, hnames, hids, hwidth, hheight, hgeometry, hactive, hvalid, hfocused,
        hpass⟩
      exact ⟨⟨⟨hid, hname, hwidth, hheight, hgeometry, hactive, fun _ => hvalid,
        fun h => absurd h hspecial⟩, hnames, hids, hfocused⟩, hpass⟩
    · rintro ⟨⟨hvalid, hnames, hids, hfocused⟩, hpass⟩
      exact ⟨hvalid.id, hvalid.name, hnames, hids, hvalid.width, hvalid.height, hvalid.geometry,
        hvalid.active, hvalid.special hspecial, hfocused, hpass⟩

/-- What the pass over the monitors collects. -/
def monitorPass (monitors : List UpstreamMonitor) : MonitorPass :=
  monitors.foldl MonitorPass.add {}

structure MonitorsAccepted (monitors : List UpstreamMonitor) : Prop where
  valid : ∀ monitor ∈ monitors, monitor.Valid
  names : (monitors.map UpstreamMonitor.name).Nodup
  ids : (monitors.map UpstreamMonitor.id).Nodup
  focused : monitors.countP UpstreamMonitor.focused ≤ 1

theorem parseMonitors_eq_ok_iff {monitors : List UpstreamMonitor} {pass : MonitorPass} :
    monitors.foldlM parseMonitor {} = .ok pass ↔
      MonitorsAccepted monitors ∧ pass = monitorPass monitors := by
  rw [foldlM_eq_ok_iff fun _ _ _ => parseMonitor_eq_ok_iff]
  refine and_congr_left' ?_
  rw [along_and, along_and, along_and, along_const,
    along_fresh MonitorPass.ids UpstreamMonitor.name fun _ _ => rfl,
    along_fresh MonitorPass.numericIds UpstreamMonitor.id fun _ _ => rfl,
    along_once (fun pass : MonitorPass => pass.focused.isSome) UpstreamMonitor.focused]
  · constructor
    · rintro ⟨hvalid, ⟨-, hnames⟩, ⟨-, hids⟩, hfocused⟩
      exact ⟨hvalid, hnames, hids, by simpa using hfocused⟩
    · rintro ⟨hvalid, hnames, hids, hfocused⟩
      exact ⟨hvalid, ⟨fun _ _ => List.not_mem_nil, hnames⟩, ⟨fun _ _ => List.not_mem_nil, hids⟩,
        by simpa using hfocused⟩
  · intro pass monitor
    cases hfocused : monitor.focused <;> simp [MonitorPass.add, hfocused]

section Pass

variable {monitors : List UpstreamMonitor}

theorem mem_monitorPass_ids {name : Text} :
    name ∈ (monitorPass monitors).ids ↔ ∃ monitor ∈ monitors, monitor.name = name := by
  rw [monitorPass, mem_foldl_keys MonitorPass.ids UpstreamMonitor.name fun _ _ => rfl]
  simp

theorem monitorPass_numbers (h : MonitorsAccepted monitors) {name : Text} {number : Int} :
    (monitorPass monitors).numbers.get? name = some number ↔
      ∃ monitor ∈ monitors, monitor.name = name ∧ monitor.id = number := by
  have hfold : (monitorPass monitors).numbers =
      monitors.foldl (fun t m => t.insert m.name m.id) Table.empty :=
    (List.foldl_hom MonitorPass.numbers fun _ _ => rfl).symm
  rw [hfold, Table.get?_foldl_insert h.names]
  simp

theorem monitorPass_monitors :
    (monitorPass monitors).monitors = monitors.map UpstreamMonitor.monitor := by
  rw [monitorPass, foldl_collects MonitorPass.monitors fun _ _ => rfl, List.map_eq_flatMap]
  rfl

theorem monitorPass_focused (h : MonitorsAccepted monitors) {entry : Text × Int} :
    (monitorPass monitors).focused = some entry ↔
      ∃ monitor ∈ monitors, monitor.focused = true ∧
        (monitor.name, monitor.focusedWorkspace) = entry := by
  have hfold : (monitorPass monitors).focused =
      monitors.foldl
        (fun o m => if m.focused then some (m.name, m.focusedWorkspace) else o) none :=
    (List.foldl_hom MonitorPass.focused fun _ _ => rfl).symm
  rw [hfold, foldl_once h.focused fun _ => rfl]
  simp

theorem mem_monitorPass_workspaceRefs {entry : Text × UpstreamWorkspaceRef} :
    entry ∈ (monitorPass monitors).workspaceRefs ↔
      ∃ monitor ∈ monitors, monitor.name = entry.1 ∧ entry.2 ∈ monitor.workspaceRefs := by
  rw [monitorPass, foldl_collects MonitorPass.workspaceRefs fun _ _ => rfl]
  obtain ⟨name, workspace⟩ := entry
  simp [and_comm]

end Pass

end Monitors

section Workspaces

structure UpstreamWorkspace.Valid (workspace : UpstreamWorkspace) : Prop where
  id : workspace.id ≠ 0
  name : BoundedString workspace.name maxNameBytes false
  monitor : BoundedString workspace.monitor maxNameBytes false

theorem parseWorkspace_eq_ok_iff {monitorIds : List Text} {focused : Option (Text × Int)}
    {pass pass' : WorkspacePass} {workspace : UpstreamWorkspace} :
    parseWorkspace monitorIds focused pass workspace = .ok pass' ↔
      ((workspace.Valid ∧ workspace.monitor ∈ monitorIds) ∧
          integerText workspace.id ∉ pass.ids) ∧
        pass' = pass.add focused workspace := by
  simp only [parseWorkspace, validateWorkspaceId, check_bind_eq_ok_iff, ensure_eq_ok_iff,
    validateBoundedString_eq_ok_iff, pure_eq_ok_iff]
  constructor
  · rintro ⟨hid, hname, hmonitor, hlisted, hnew, hpass⟩
    exact ⟨⟨⟨⟨hid, hname, hmonitor⟩, hlisted⟩, hnew⟩, hpass⟩
  · rintro ⟨⟨⟨hvalid, hlisted⟩, hnew⟩, hpass⟩
    exact ⟨hvalid.id, hvalid.name, hvalid.monitor, hlisted, hnew, hpass⟩

def workspacePass (focused : Option (Text × Int)) (workspaces : List UpstreamWorkspace) :
    WorkspacePass :=
  workspaces.foldl (WorkspacePass.add focused) {}

structure WorkspacesAccepted (monitors : List UpstreamMonitor)
    (workspaces : List UpstreamWorkspace) : Prop where
  valid : ∀ workspace ∈ workspaces, workspace.Valid
  monitors : ∀ workspace ∈ workspaces, ∃ monitor ∈ monitors, monitor.name = workspace.monitor
  ids : (workspaces.map UpstreamWorkspace.id).Nodup

variable {monitors : List UpstreamMonitor} {workspaces : List UpstreamWorkspace}
variable {focused : Option (Text × Int)}

theorem parseWorkspaces_eq_ok_iff {pass : WorkspacePass} :
    workspaces.foldlM (parseWorkspace (monitorPass monitors).ids focused) {} = .ok pass ↔
      WorkspacesAccepted monitors workspaces ∧ pass = workspacePass focused workspaces := by
  rw [foldlM_eq_ok_iff fun _ _ _ => parseWorkspace_eq_ok_iff]
  refine and_congr_left' ?_
  have hids : (workspaces.map fun workspace => integerText workspace.id).Nodup ↔
      (workspaces.map UpstreamWorkspace.id).Nodup := by
    rw [← List.nodup_map_iff integerText_injective, List.map_map]
    rfl
  rw [along_and, along_const, along_fresh WorkspacePass.ids
    (fun workspace : UpstreamWorkspace => integerText workspace.id) fun _ _ => rfl, hids]
  constructor
  · rintro ⟨hvalid, -, hids⟩
    exact ⟨fun w hw => (hvalid w hw).1, fun w hw => mem_monitorPass_ids.mp (hvalid w hw).2, hids⟩
  · rintro ⟨hvalid, hmonitors, hids⟩
    exact ⟨fun w hw => ⟨hvalid w hw, mem_monitorPass_ids.mpr (hmonitors w hw)⟩,
      fun _ _ => List.not_mem_nil, hids⟩

theorem mem_workspacePass_ids {id : Int} :
    integerText id ∈ (workspacePass focused workspaces).ids ↔
      ∃ workspace ∈ workspaces, workspace.id = id := by
  rw [workspacePass, mem_foldl_keys WorkspacePass.ids
    (fun workspace : UpstreamWorkspace => integerText workspace.id) fun _ _ => rfl]
  simp [integerText_injective.eq_iff]

theorem workspacePass_locations (h : WorkspacesAccepted monitors workspaces) {id : Int}
    {location : Text × Text} :
    (workspacePass focused workspaces).locations.get? id = some location ↔
      ∃ workspace ∈ workspaces, workspace.id = id ∧
        (workspace.name, workspace.monitor) = location := by
  have hfold : (workspacePass focused workspaces).locations =
      workspaces.foldl (fun t w => t.insert w.id (w.name, w.monitor)) Table.empty :=
    (List.foldl_hom WorkspacePass.locations fun _ _ => rfl).symm
  rw [hfold, Table.get?_foldl_insert h.ids]
  simp

theorem workspacePass_workspaces :
    (workspacePass focused workspaces).workspaces =
      workspaces.map (UpstreamWorkspace.workspace focused) := by
  rw [workspacePass, foldl_collects WorkspacePass.workspaces fun _ _ => rfl,
    List.map_eq_flatMap]
  rfl

/-- Every workspace that a monitor says it shows is listed on that monitor. -/
def RefsAccepted (monitors : List UpstreamMonitor) (workspaces : List UpstreamWorkspace) : Prop :=
  ∀ monitor ∈ monitors, ∀ ref ∈ monitor.workspaceRefs, ∃ workspace ∈ workspaces,
    workspace.id = ref.id ∧ workspace.name = ref.name ∧ workspace.monitor = monitor.name

theorem checkWorkspaceRefs_eq_ok_iff (h : WorkspacesAccepted monitors workspaces) {u : Unit} :
    (monitorPass monitors).workspaceRefs.forM
        (checkWorkspaceRef (workspacePass focused workspaces).locations) = .ok u ↔
      RefsAccepted monitors workspaces := by
  have hcheck : ∀ entry : Text × UpstreamWorkspaceRef,
      checkWorkspaceRef (workspacePass focused workspaces).locations entry = .ok () ↔
        ∃ workspace ∈ workspaces, workspace.id = entry.2.id ∧
          workspace.name = entry.2.name ∧ workspace.monitor = entry.1 := by
    intro entry
    have hlocation := @workspacePass_locations _ _ focused h entry.2.id (entry.2.name, entry.1)
    unfold checkWorkspaceRef
    cases hget : (workspacePass focused workspaces).locations.get? entry.2.id with
    | none =>
        refine iff_of_false nofun ?_
        rintro ⟨workspace, hworkspace, hid, hname, hmonitor⟩
        have hsome := hlocation.mpr ⟨workspace, hworkspace, hid, by rw [hname, hmonitor]⟩
        cases hget.symm.trans hsome
    | some location =>
        rw [hget] at hlocation
        simp only [ensure_eq_ok_iff]
        rw [← Option.some_inj, hlocation]
        simp [Prod.ext_iff]
  rw [forM_eq_ok_iff]
  constructor
  · intro hall monitor hmonitor ref href
    exact (hcheck (monitor.name, ref)).mp (hall _ (mem_monitorPass_workspaceRefs.mpr
      ⟨monitor, hmonitor, rfl, href⟩))
  · intro hall entry hentry
    obtain ⟨monitor, hmonitor, hname, href⟩ := mem_monitorPass_workspaceRefs.mp hentry
    exact (hcheck entry).mpr (hname ▸ hall monitor hmonitor entry.2 href)

end Workspaces

section Groups

variable {clients : List UpstreamClient}

/-- Every client has a valid address of its own. -/
structure AddressesAccepted (clients : List UpstreamClient) : Prop where
  valid : ∀ client ∈ clients, ValidAddress client.address
  addresses : (clients.map UpstreamClient.address).Nodup

theorem addAddresses_eq_ok_iff {windowIds : List Text} :
    clients.foldlM addAddress [] = .ok windowIds ↔
      AddressesAccepted clients ∧
        windowIds = clients.foldl (fun seen client => client.address :: seen) [] := by
  have hstep : ∀ (seen : List Text) (client : UpstreamClient) (seen' : List Text),
      addAddress seen client = .ok seen' ↔
        (ValidAddress client.address ∧ client.address ∉ seen) ∧
          seen' = client.address :: seen := by
    intro seen client seen'
    simp only [addAddress, check_bind_eq_ok_iff, validateAddress_eq_ok_iff, ensure_eq_ok_iff]
    rw [and_assoc]
    exact and_congr_right' (and_congr_right'
      ⟨fun h => (Except.ok.inj h).symm, fun h => congrArg _ h.symm⟩)
  rw [foldlM_eq_ok_iff hstep]
  refine and_congr_left' ?_
  rw [along_and, along_const, along_fresh (fun seen => seen) UpstreamClient.address
    fun _ _ => rfl]
  constructor
  · rintro ⟨hvalid, -, haddresses⟩
    exact ⟨hvalid, haddresses⟩
  · rintro ⟨hvalid, haddresses⟩
    exact ⟨hvalid, fun _ _ => List.not_mem_nil, haddresses⟩

theorem mem_windowIds {address : Text} :
    address ∈ clients.foldl (fun seen client => client.address :: seen) [] ↔
      ∃ client ∈ clients, client.address = address := by
  rw [mem_foldl_keys (fun seen => seen) UpstreamClient.address fun _ _ => rfl]
  simp

/-- The group of a client: addresses of listed clients, each once, and itself among them. -/
structure GroupAccepted (clients : List UpstreamClient) (client : UpstreamClient) : Prop where
  valid : ∀ address ∈ client.grouped, ValidAddress address
  nodup : client.grouped.Nodup
  listed : ∀ address ∈ client.grouped, ∃ member ∈ clients, member.address = address
  self : client.grouped ≠ [] → client.address ∈ client.grouped

theorem addMembers_eq_ok_iff {windowIds grouped members : List Text} :
    grouped.foldlM (addMember windowIds) [] = .ok members ↔
      ((∀ address ∈ grouped, ValidAddress address) ∧ grouped.Nodup ∧
          ∀ address ∈ grouped, address ∈ windowIds) ∧
        members = grouped.reverse := by
  have hstep : ∀ (members : List Text) (address : Text) (members' : List Text),
      addMember windowIds members address = .ok members' ↔
        ((ValidAddress address ∧ address ∈ windowIds) ∧ address ∉ members) ∧
          members' = address :: members := by
    intro members address members'
    simp only [addMember, check_bind_eq_ok_iff, validateAddress_eq_ok_iff, ensure_eq_ok_iff]
    rw [pure_eq_ok_iff]
    tauto
  rw [foldlM_eq_ok_iff hstep]
  have hreverse : grouped.foldl (fun members address => address :: members) [] =
      grouped.reverse := by
    simp
  rw [hreverse, along_and, along_const, along_fresh (fun members => members) (fun a : Text => a)
    fun _ _ => rfl, List.map_id']
  refine and_congr_left' ?_
  constructor
  · rintro ⟨hvalid, -, hnodup⟩
    exact ⟨fun a ha => (hvalid a ha).1, hnodup, fun a ha => (hvalid a ha).2⟩
  · rintro ⟨hvalid, hnodup, hlisted⟩
    exact ⟨fun a ha => ⟨hvalid a ha, hlisted a ha⟩, fun _ _ => List.not_mem_nil, hnodup⟩

def GroupPass.add (pass : GroupPass) (client : UpstreamClient) : GroupPass :=
  ⟨pass.total + client.grouped.length, pass.sets.insert client.address client.grouped.reverse⟩

theorem parseGroup_eq_ok_iff {windowIds : List Text} {pass pass' : GroupPass}
    {client : UpstreamClient}
    (hids : ∀ address, address ∈ windowIds ↔ ∃ member ∈ clients, member.address = address) :
    parseGroup windowIds pass client = .ok pass' ↔
      (GroupAccepted clients client ∧
          pass.total + client.grouped.length ≤ maxGroupMembers) ∧
        pass' = pass.add client := by
  simp only [parseGroup, check_bind_eq_ok_iff, enforceMaximum_eq_ok_iff, ensure_eq_ok_iff]
  rw [bind_eq_ok_iff]
  simp only [addMembers_eq_ok_iff, check_bind_eq_ok_iff, ensure_eq_ok_iff]
  constructor
  · rintro ⟨-, -, htotal, members, ⟨⟨hvalid, hnodup, hlisted⟩, rfl⟩, hself, hpass⟩
    refine ⟨⟨⟨hvalid, hnodup, fun a ha => (hids a).mp (hlisted a ha), ?_⟩, htotal⟩,
      (Except.ok.inj hpass).symm⟩
    exact fun hne => List.mem_reverse.mp (hself hne)
  · rintro ⟨⟨hgroup, htotal⟩, rfl⟩
    have hbound : maxGroupMembers < 2 ^ 64 := by decide
    refine ⟨by omega, by omega, htotal, _, ⟨⟨hgroup.valid, hgroup.nodup, fun a ha =>
      (hids a).mpr (hgroup.listed a ha)⟩, rfl⟩, ?_, rfl⟩
    exact fun hne => List.mem_reverse.mpr (hgroup.self hne)

structure GroupsAccepted (clients : List UpstreamClient) : Prop where
  group : ∀ client ∈ clients, GroupAccepted clients client
  total : (clients.map fun client => client.grouped.length).sum ≤ maxGroupMembers

def groupPass (clients : List UpstreamClient) : GroupPass :=
  clients.foldl GroupPass.add {}

theorem parseGroups_eq_ok_iff {windowIds : List Text} {pass : GroupPass}
    (hids : ∀ address, address ∈ windowIds ↔ ∃ member ∈ clients, member.address = address) :
    clients.foldlM (parseGroup windowIds) {} = .ok pass ↔
      GroupsAccepted clients ∧ pass = groupPass clients := by
  rw [foldlM_eq_ok_iff fun _ _ _ => parseGroup_eq_ok_iff hids]
  refine and_congr_left' ?_
  rw [along_and, along_const, along_bounded GroupPass.total
    (fun client : UpstreamClient => client.grouped.length) (fun _ _ => rfl) (Nat.zero_le _)]
  constructor
  · rintro ⟨hgroup, htotal⟩
    exact ⟨hgroup, by simpa using htotal⟩
  · rintro ⟨hgroup, htotal⟩
    exact ⟨hgroup, by simpa using htotal⟩

theorem groupPass_sets (h : AddressesAccepted clients) {address : Text} {members : List Text} :
    (groupPass clients).sets.get? address = some members ↔
      ∃ client ∈ clients, client.address = address ∧ client.grouped.reverse = members := by
  have hfold : (groupPass clients).sets =
      clients.foldl (fun t c => t.insert c.address c.grouped.reverse) Table.empty :=
    (List.foldl_hom GroupPass.sets fun _ _ => rfl).symm
  rw [hfold, Table.get?_foldl_insert h.addresses]
  simp

end Groups

section Reciprocity

variable {clients : List UpstreamClient}

/-- The members of a client's group report the same group. -/
def Reciprocal (clients : List UpstreamClient) (client : UpstreamClient) : Prop :=
  ∀ address ∈ client.grouped, ∀ member ∈ clients, member.address = address →
    SameMembers member.grouped client.grouped

theorem sameMembers_reverse {left right : List Text} :
    SameMembers left.reverse right.reverse ↔ SameMembers left right := by
  simp [SameMembers]

theorem checkPeer_eq_ok_iff (h : AddressesAccepted clients) (hgroups : GroupsAccepted clients)
    {client : UpstreamClient} (hclient : client ∈ clients) {address : Text}
    (haddress : address ∈ client.grouped) {u : Unit} :
    checkPeer (groupPass clients).sets client.grouped.reverse address = .ok u ↔
      ∀ member ∈ clients, member.address = address →
        SameMembers member.grouped client.grouped := by
  obtain ⟨peer, hpeer, rfl⟩ := (hgroups.group client hclient).listed address haddress
  rw [checkPeer, (groupPass_sets h).mpr ⟨peer, hpeer, rfl, rfl⟩]
  simp only [ensure_eq_ok_iff, sameMembers_reverse]
  constructor
  · intro hsame member hmember hmemberAddress
    rw [List.inj_on_of_nodup_map h.addresses hmember hpeer hmemberAddress]
    exact hsame
  · exact fun hall => hall peer hpeer rfl

theorem checkGroup_eq_ok_iff (h : AddressesAccepted clients) (hgroups : GroupsAccepted clients)
    {client : UpstreamClient} (hclient : client ∈ clients) {validated validated' : List Text} :
    checkGroup (groupPass clients).sets validated client = .ok validated' ↔
      if client.grouped = [] ∨ client.address ∈ validated then
        validated' = validated
      else
        Reciprocal clients client ∧ validated' = client.grouped.reverse ++ validated := by
  unfold checkGroup
  split_ifs with hskip
  · exact ⟨fun hv => (Except.ok.inj hv).symm, fun hv => congrArg _ hv.symm⟩
  · rw [(groupPass_sets h).mpr ⟨client, hclient, rfl, rfl⟩]
    simp only [check_bind_eq_ok_iff, forM_eq_ok_iff, List.mem_reverse]
    refine and_congr ?_ ⟨fun hv => (Except.ok.inj hv).symm, fun hv => congrArg _ hv.symm⟩
    exact forall₂_congr fun address haddress =>
      checkPeer_eq_ok_iff h hgroups hclient haddress

/-- The loop skips the members of a group that it has validated; they are reciprocal too. -/
theorem checkGroups_eq_ok_iff (h : AddressesAccepted clients) (hgroups : GroupsAccepted clients) :
    (∃ validated, clients.foldlM (checkGroup (groupPass clients).sets) [] = .ok validated) ↔
      ∀ client ∈ clients, client.grouped ≠ [] → Reciprocal clients client := by
  -- what is validated is reciprocal, which is what the loop carries on
  have hfold : ∀ rest : List UpstreamClient, (∀ client ∈ rest, client ∈ clients) →
      ∀ validated, (∀ client ∈ clients, client.address ∈ validated → Reciprocal clients client) →
      ((∃ validated', rest.foldlM (checkGroup (groupPass clients).sets) validated =
          .ok validated') ↔
        ∀ client ∈ rest, client.grouped ≠ [] → Reciprocal clients client) := by
    intro rest
    induction rest with
    | nil =>
        intro _ validated _
        exact iff_of_true ⟨validated, rfl⟩ nofun
    | cons client rest ih =>
        intro hrest validated hvalidated
        have hclient := hrest client List.mem_cons_self
        have htail : ∀ other ∈ rest, other ∈ clients := fun other hother =>
          hrest other (List.mem_cons_of_mem _ hother)
        have hstep := fun validated' =>
          @checkGroup_eq_ok_iff _ h hgroups _ hclient validated validated'
        rw [List.foldlM_cons, List.forall_mem_cons]
        by_cases hskip : client.grouped = [] ∨ client.address ∈ validated
        · have hthis : client.grouped ≠ [] → Reciprocal clients client := fun hne =>
            hvalidated client hclient (hskip.resolve_left hne)
          rw [(hstep validated).mpr (by rw [if_pos hskip])]
          exact (ih htail validated hvalidated).trans (and_iff_right hthis).symm
        · simp only [if_neg hskip] at hstep
          by_cases hthis : Reciprocal clients client
          · rw [(hstep _).mpr ⟨hthis, rfl⟩]
            refine (ih htail _ ?_).trans (and_iff_right fun _ => hthis).symm
            intro member hmember hmem
            rcases List.mem_append.mp hmem with hmem | hmem
            · have hsame := hthis _ (List.mem_reverse.mp hmem) member hmember rfl
              intro address haddress other hother hotherAddress candidate
              rw [hthis address ((hsame address).mp haddress) other hother hotherAddress,
                hsame candidate]
            · exact hvalidated member hmember hmem
          · rw [not_or] at hskip
            refine iff_of_false ?_ fun hall => hthis (hall.1 hskip.1)
            rintro ⟨validated', hrun⟩
            obtain ⟨next, hnext, -⟩ := bind_eq_ok_iff.mp hrun
            exact hthis ((hstep next).mp hnext).1
  exact hfold clients (fun _ h => h) [] nofun

end Reciprocity

section Windows

variable {monitors : List UpstreamMonitor} {workspaces : List UpstreamWorkspace}

/-- A client on a listed workspace; where it has the focus, so has its place. -/
structure ClientAccepted (monitors : List UpstreamMonitor) (workspaces : List UpstreamWorkspace)
    (client : UpstreamClient) : Prop where
  workspace : client.workspace.Valid
  application : BoundedString client.application maxApplicationIdBytes false
  title : BoundedString client.title maxTitleBytes true
  placed : ∃ workspace ∈ workspaces, workspace.id = client.workspace.id ∧
    workspace.name = client.workspace.name ∧
      ∃ monitor ∈ monitors, monitor.name = workspace.monitor ∧ monitor.id = client.monitor
  fullscreen : 0 ≤ client.fullscreen ∧ client.fullscreen ≤ 2
  focused : client.focused = true → ∃ monitor ∈ monitors, monitor.focused = true ∧
    (client.workspace.id = monitor.focusedWorkspace ∨
      (client.pinned = true ∧ monitor.id = client.monitor))

/-- What the passes over the accepted monitors and workspaces have collected. -/
def topology (monitors : List UpstreamMonitor) (workspaces : List UpstreamWorkspace) : Topology :=
  ⟨(monitorPass monitors).numbers, (monitorPass monitors).focused,
    (workspacePass (monitorPass monitors).focused workspaces).ids,
    (workspacePass (monitorPass monitors).focused workspaces).locations⟩

theorem expected_eq_ok_iff {α : Type} {message : String} {value : Option α} {a : α} :
    expected message value = .ok a ↔ value = some a := by
  cases value with
  | none => exact iff_of_false nofun nofun
  | some b =>
      rw [expected]
      exact ⟨fun h => congrArg _ (Except.ok.inj h), fun h => congrArg _ (Option.some.inj h)⟩

theorem checkFocusedWindow_eq_ok_iff (h : MonitorsAccepted monitors) {client : UpstreamClient}
    {workspaceMonitor : Text}
    (hplaced : ∃ monitor ∈ monitors, monitor.name = workspaceMonitor ∧
      monitor.id = client.monitor) {u : Unit} :
    checkFocusedWindow (topology monitors workspaces) client workspaceMonitor = .ok u ↔
      ∃ monitor ∈ monitors, monitor.focused = true ∧
        (client.workspace.id = monitor.focusedWorkspace ∨
          (client.pinned = true ∧ monitor.id = client.monitor)) := by
  unfold checkFocusedWindow
  split
  · next hnone =>
      refine iff_of_false nofun ?_
      rintro ⟨monitor, hmonitor, hfocused, -⟩
      have hsome := (monitorPass_focused h).mpr ⟨monitor, hmonitor, hfocused, rfl⟩
      cases hnone.symm.trans hsome
  · next name workspaceId hsome =>
      obtain ⟨monitor, hmonitor, hfocused, hentry⟩ := (monitorPass_focused h).mp hsome
      obtain ⟨rfl, rfl⟩ := Prod.mk.inj hentry
      have honly : ∀ other ∈ monitors, other.focused = true → other = monitor := by
        intro other hother hotherFocused
        have hsame := (monitorPass_focused h).mpr ⟨other, hother, hotherFocused, rfl⟩
        rw [show (monitorPass monitors).focused = _ from hsome] at hsame
        exact List.inj_on_of_nodup_map h.names hother hmonitor
          (Prod.mk.inj (Option.some.inj hsame)).1.symm
      have hpinned : (workspaceMonitor = monitor.name ∧ client.monitor = monitor.id) ↔
          monitor.id = client.monitor := by
        refine ⟨fun hboth => hboth.2.symm, fun hid => ⟨?_, hid.symm⟩⟩
        obtain ⟨place, hplace, hname, hplaceId⟩ := hplaced
        rw [← hname, List.inj_on_of_nodup_map h.ids hplace hmonitor (hplaceId.trans hid.symm)]
      rw [bind_eq_ok_iff]
      simp only [expected_eq_ok_iff, ensure_eq_ok_iff]
      constructor
      · rintro ⟨number, hnumber, hcheck⟩
        obtain ⟨named, hnamed, hname, rfl⟩ := (monitorPass_numbers h).mp hnumber
        obtain rfl := List.inj_on_of_nodup_map h.names hnamed hmonitor hname
        exact ⟨named, hmonitor, hfocused, hcheck.imp_right fun hp => ⟨hp.1, hpinned.mp hp.2⟩⟩
      · rintro ⟨other, hother, hotherFocused, hcheck⟩
        obtain rfl := honly other hother hotherFocused
        exact ⟨other.id, (monitorPass_numbers h).mpr ⟨other, hother, rfl, rfl⟩,
          hcheck.imp_right fun hp => ⟨hp.1, hpinned.mpr hp.2⟩⟩

theorem parseWindow_eq_ok_iff (h : MonitorsAccepted monitors)
    (hworkspaces : WorkspacesAccepted monitors workspaces) {pass pass' : WindowPass}
    {client : UpstreamClient} :
    parseWindow (topology monitors workspaces) pass client = .ok pass' ↔
      (ClientAccepted monitors workspaces client ∧
          (client.focused = true → pass.focusedWindowSeen = false)) ∧
        pass' = pass.add client := by
  simp only [parseWindow, check_bind_eq_ok_iff, validateWorkspaceRef_eq_ok_iff,
    validateBoundedString_eq_ok_iff, ensure_eq_ok_iff]
  rw [bind_eq_ok_iff]
  simp only [expected_eq_ok_iff]
  constructor
  · rintro ⟨hworkspace, happlication, htitle, -, location, hlocation, hrest⟩
    obtain ⟨workspace, hlisted, hid, rfl⟩ := (workspacePass_locations hworkspaces).mp hlocation
    obtain ⟨number, hnumber, hrest⟩ := bind_eq_ok_iff.mp hrest
    obtain ⟨monitor, hmonitor, hname, rfl⟩ :=
      (monitorPass_numbers h).mp (expected_eq_ok_iff.mp hnumber)
    simp only [check_bind_eq_ok_iff, ensure_eq_ok_iff] at hrest
    obtain ⟨⟨hsame, hnumber⟩, hfullscreen, honce, hrest⟩ := hrest
    have hplaced : ∃ monitor ∈ monitors, monitor.name = workspace.monitor ∧
        monitor.id = client.monitor := ⟨monitor, hmonitor, hname, hnumber.symm⟩
    by_cases hfocused : client.focused = true
    · rw [if_pos hfocused, check_bind_eq_ok_iff, checkFocusedWindow_eq_ok_iff h hplaced,
        pure_eq_ok_iff] at hrest
      exact ⟨⟨⟨hworkspace, happlication, htitle, ⟨workspace, hlisted, hid, hsame, hplaced⟩,
        hfullscreen, fun _ => hrest.1⟩, honce⟩, hrest.2⟩
    · rw [if_neg hfocused, pure_eq_ok_iff] at hrest
      exact ⟨⟨⟨hworkspace, happlication, htitle, ⟨workspace, hlisted, hid, hsame, hplaced⟩,
        hfullscreen, fun hf => absurd hf hfocused⟩, honce⟩, hrest⟩
  · rintro ⟨⟨hclient, honce⟩, hpass⟩
    obtain ⟨workspace, hlisted, hid, hsame, hplaced⟩ := hclient.placed
    obtain ⟨monitor, hmonitor, hname, hnumber⟩ := hplaced
    refine ⟨hclient.workspace, hclient.application, hclient.title,
      mem_workspacePass_ids.mpr ⟨workspace, hlisted, hid⟩, (workspace.name, workspace.monitor),
      (workspacePass_locations hworkspaces).mpr ⟨workspace, hlisted, hid, rfl⟩, ?_⟩
    refine bind_eq_ok_iff.mpr ⟨monitor.id, expected_eq_ok_iff.mpr
      ((monitorPass_numbers h).mpr ⟨monitor, hmonitor, hname, rfl⟩), ?_⟩
    simp only [check_bind_eq_ok_iff, ensure_eq_ok_iff]
    refine ⟨⟨hsame, hnumber.symm⟩, hclient.fullscreen, honce, ?_⟩
    by_cases hfocused : client.focused = true
    · rw [if_pos hfocused, check_bind_eq_ok_iff,
        checkFocusedWindow_eq_ok_iff h ⟨monitor, hmonitor, hname, hnumber⟩, pure_eq_ok_iff]
      exact ⟨hclient.focused hfocused, hpass⟩
    · rw [if_neg hfocused, pure_eq_ok_iff]
      exact hpass

structure ClientsAccepted (monitors : List UpstreamMonitor) (workspaces : List UpstreamWorkspace)
    (clients : List UpstreamClient) : Prop where
  client : ∀ client ∈ clients, ClientAccepted monitors workspaces client
  focused : clients.countP UpstreamClient.focused ≤ 1

theorem parseWindows_eq_ok_iff (h : MonitorsAccepted monitors)
    (hworkspaces : WorkspacesAccepted monitors workspaces) {clients : List UpstreamClient}
    {pass : WindowPass} :
    clients.foldlM (parseWindow (topology monitors workspaces)) {} = .ok pass ↔
      ClientsAccepted monitors workspaces clients ∧ pass = clients.foldl WindowPass.add {} := by
  rw [foldlM_eq_ok_iff fun _ _ _ => parseWindow_eq_ok_iff h hworkspaces]
  refine and_congr_left' ?_
  rw [along_and, along_const, along_once (fun pass : WindowPass => pass.focusedWindowSeen)
    UpstreamClient.focused fun _ _ => rfl]
  constructor
  · rintro ⟨hclient, hfocused⟩
    exact ⟨hclient, by simpa using hfocused⟩
  · rintro ⟨hclient, hfocused⟩
    exact ⟨hclient, by simpa using hfocused⟩

theorem windowPass_windows (clients : List UpstreamClient) :
    (clients.foldl WindowPass.add {}).windows = clients.map UpstreamClient.window := by
  rw [foldl_collects WindowPass.windows fun _ _ => rfl, List.map_eq_flatMap]
  rfl

end Windows

section Snapshots

variable {monitors : List UpstreamMonitor} {workspaces : List UpstreamWorkspace}
variable {clients : List UpstreamClient}

/-- The lists that `parse_full_snapshot` accepts. -/
structure Accepted (monitors : List UpstreamMonitor) (workspaces : List UpstreamWorkspace)
    (clients : List UpstreamClient) : Prop where
  monitorCount : monitors.length ≤ maxMonitors
  workspaceCount : workspaces.length ≤ maxWorkspaces
  clientCount : clients.length ≤ maxWindows
  monitorList : MonitorsAccepted monitors
  workspaceList : WorkspacesAccepted monitors workspaces
  refs : RefsAccepted monitors workspaces
  addresses : AddressesAccepted clients
  groups : GroupsAccepted clients
  reciprocal : ∀ client ∈ clients, client.grouped ≠ [] → Reciprocal clients client
  clientList : ClientsAccepted monitors workspaces clients

/-- The snapshot of accepted lists. -/
def snapshotOf (monitors : List UpstreamMonitor) (workspaces : List UpstreamWorkspace)
    (clients : List UpstreamClient) : HyprlandSnapshot :=
  ⟨monitors.map UpstreamMonitor.monitor,
    workspaces.map (UpstreamWorkspace.workspace (monitorPass monitors).focused),
    clients.map UpstreamClient.window⟩

/-- What is accepted, and what comes of it. -/
theorem parseFullSnapshot_eq_ok_iff {snapshot : HyprlandSnapshot} :
    parseFullSnapshot monitors workspaces clients = .ok snapshot ↔
      Accepted monitors workspaces clients ∧
        snapshot = snapshotOf monitors workspaces clients := by
  have hwindows := fun h hworkspaces =>
    @parseWindows_eq_ok_iff monitors workspaces h hworkspaces clients
  unfold topology at hwindows
  simp only [parseFullSnapshot, check_bind_eq_ok_iff, enforceMaximum_eq_ok_iff]
  constructor
  · rintro ⟨hmonitorCount, hworkspaceCount, hclientCount, h⟩
    obtain ⟨_, h₁, h⟩ := bind_eq_ok_iff.mp h
    obtain ⟨hmonitors, rfl⟩ := parseMonitors_eq_ok_iff.mp h₁
    obtain ⟨_, h₁, h⟩ := bind_eq_ok_iff.mp h
    obtain ⟨hworkspaces, rfl⟩ := parseWorkspaces_eq_ok_iff.mp h₁
    obtain ⟨h₁, h⟩ := check_bind_eq_ok_iff.mp h
    have hrefs := (checkWorkspaceRefs_eq_ok_iff hworkspaces).mp h₁
    obtain ⟨_, h₁, h⟩ := bind_eq_ok_iff.mp h
    obtain ⟨haddresses, rfl⟩ := addAddresses_eq_ok_iff.mp h₁
    obtain ⟨_, h₁, h⟩ := bind_eq_ok_iff.mp h
    obtain ⟨hgroups, rfl⟩ := (parseGroups_eq_ok_iff fun _ => mem_windowIds).mp h₁
    obtain ⟨_, h₁, h⟩ := bind_eq_ok_iff.mp h
    have hreciprocal := (checkGroups_eq_ok_iff haddresses hgroups).mp ⟨_, h₁⟩
    obtain ⟨_, h₁, h⟩ := bind_eq_ok_iff.mp h
    obtain ⟨hclients, rfl⟩ := (hwindows hmonitors hworkspaces).mp h₁
    refine ⟨⟨hmonitorCount, hworkspaceCount, hclientCount, hmonitors, hworkspaces, hrefs,
      haddresses, hgroups, hreciprocal, hclients⟩, (Except.ok.inj h).symm.trans ?_⟩
    rw [snapshotOf, monitorPass_monitors, workspacePass_workspaces, windowPass_windows]
  · rintro ⟨h, rfl⟩
    refine ⟨h.monitorCount, h.workspaceCount, h.clientCount, ?_⟩
    refine bind_eq_ok_iff.mpr ⟨_, parseMonitors_eq_ok_iff.mpr ⟨h.monitorList, rfl⟩, ?_⟩
    refine bind_eq_ok_iff.mpr ⟨_, parseWorkspaces_eq_ok_iff.mpr ⟨h.workspaceList, rfl⟩, ?_⟩
    refine check_bind_eq_ok_iff.mpr ⟨(checkWorkspaceRefs_eq_ok_iff h.workspaceList).mpr h.refs, ?_⟩
    refine bind_eq_ok_iff.mpr ⟨_, addAddresses_eq_ok_iff.mpr ⟨h.addresses, rfl⟩, ?_⟩
    refine bind_eq_ok_iff.mpr ⟨_, (parseGroups_eq_ok_iff fun _ => mem_windowIds).mpr
      ⟨h.groups, rfl⟩, ?_⟩
    obtain ⟨validated, hvalidated⟩ :=
      (checkGroups_eq_ok_iff h.addresses h.groups).mpr h.reciprocal
    refine bind_eq_ok_iff.mpr ⟨validated, hvalidated, ?_⟩
    refine bind_eq_ok_iff.mpr ⟨_, (hwindows h.monitorList h.workspaceList).mpr
      ⟨h.clientList, rfl⟩, ?_⟩
    rw [snapshotOf, monitorPass_monitors, workspacePass_workspaces, windowPass_windows]
    rfl

end Snapshots

end Compositor
end SleepySession
