import Mathlib.Data.Bool.AllAny
import SleepySession.Compositor.Commands
import SleepySession.Compositor.SnapshotSoundness

/-!
# The targets of commands

A request names its window by address, its monitor by identifier and its
workspace by number or by name.  Names are not unique: two workspaces of one
name are told apart only where one of them is named by its own number.
-/

namespace SleepySession
namespace Compositor

open Checks

section Statements

/-- The target that a workspace is dispatched with. -/
def Workspace.target (workspace : Workspace) : Text :=
  if specialPrefix.isPrefixOf workspace.name then
    workspace.name
  else if workspace.Numeric then
    workspace.id
  else
    namePrefix ++ workspace.name

def targetOf (snapshot : HyprlandSnapshot) (workspaceId : Text) : Text :=
  ((snapshot.workspaces.find? fun workspace => workspace.id = workspaceId).map
    Workspace.target).getD []

namespace HyprlandCommand

def windowIds : HyprlandCommand → List Text
  | focusWindow windowId => [windowId]
  | moveWindowToWorkspace windowId _ => [windowId]
  | closeWindow windowId => [windowId]
  | toggleFloating windowId => [windowId]
  | togglePinned windowId => [windowId]
  | _ => []

def workspaceIds : HyprlandCommand → List Text
  | moveWindowToWorkspace _ workspaceId => [workspaceId]
  | focusWorkspace workspaceId => [workspaceId]
  | moveWorkspaceToMonitor workspaceId _ => [workspaceId]
  | _ => []

def monitorIds : HyprlandCommand → List Text
  | moveWorkspaceToMonitor _ monitorId => [monitorId]
  | _ => []

inductive SameKind : HyprlandCommand → HyprlandCommand → Prop where
  | focusWindow (windowId windowId' : Text) :
      SameKind (.focusWindow windowId) (.focusWindow windowId')
  | moveWindowToWorkspace (windowId workspaceId windowId' workspaceId' : Text) :
      SameKind (.moveWindowToWorkspace windowId workspaceId)
        (.moveWindowToWorkspace windowId' workspaceId')
  | closeWindow (windowId windowId' : Text) :
      SameKind (.closeWindow windowId) (.closeWindow windowId')
  | focusWorkspace (workspaceId workspaceId' : Text) :
      SameKind (.focusWorkspace workspaceId) (.focusWorkspace workspaceId')
  | moveWorkspaceToMonitor (workspaceId monitorId workspaceId' monitorId' : Text) :
      SameKind (.moveWorkspaceToMonitor workspaceId monitorId)
        (.moveWorkspaceToMonitor workspaceId' monitorId')
  | toggleFullscreen (windowId windowId' : Text) :
      SameKind (.toggleFullscreen windowId) (.toggleFullscreen windowId')
  | toggleFloating (windowId windowId' : Text) :
      SameKind (.toggleFloating windowId) (.toggleFloating windowId')
  | togglePinned (windowId windowId' : Text) :
      SameKind (.togglePinned windowId) (.togglePinned windowId')
  | toggleGroup (windowId windowId' : Text) :
      SameKind (.toggleGroup windowId) (.toggleGroup windowId')
  | exit : SameKind .exit .exit

/-- The argument of the dispatch of a command, with the targets of workspaces. -/
def argument (target : Text → Text) : HyprlandCommand → Text
  | focusWindow windowId => "focuswindow address:".toList ++ windowId
  | moveWindowToWorkspace windowId workspaceId =>
      "movetoworkspacesilent ".toList ++ target workspaceId ++ ",address:".toList ++ windowId
  | closeWindow windowId => "closewindow address:".toList ++ windowId
  | focusWorkspace workspaceId => "workspace ".toList ++ target workspaceId
  | moveWorkspaceToMonitor workspaceId monitorId =>
      "moveworkspacetomonitor ".toList ++ target workspaceId ++ ' ' :: monitorId
  | toggleFloating windowId => "togglefloating address:".toList ++ windowId
  | togglePinned windowId => "pin address:".toList ++ windowId
  | _ => []

end HyprlandCommand

def isSeparator (c : Char) : Bool :=
  c == ' ' || c == ','

/-- The separators of a command's request. -/
def shape : HyprlandCommand → Text
  | .moveWindowToWorkspace _ _ => "  ,".toList
  | .moveWorkspaceToMonitor _ _ => "   ".toList
  | _ => "  ".toList

/-- Two workspaces of one name, of which neither is named by its own number. -/
def Ambiguous (snapshot : HyprlandSnapshot) (workspaceId workspaceId' : Text) : Prop :=
  workspaceId ≠ workspaceId' ∧ ∃ workspace ∈ snapshot.workspaces,
    ∃ workspace' ∈ snapshot.workspaces, workspace.id = workspaceId ∧
      workspace'.id = workspaceId' ∧ workspace.name = workspace'.name ∧
        ¬ workspace.Numeric ∧ ¬ workspace'.Numeric

/-- Two commands that differ in nothing but workspaces that are ambiguous. -/
def Confused (snapshot : HyprlandSnapshot) : HyprlandCommand → HyprlandCommand → Prop
  | .moveWindowToWorkspace windowId workspaceId, .moveWindowToWorkspace windowId' workspaceId' =>
      windowId = windowId' ∧ Ambiguous snapshot workspaceId workspaceId'
  | .focusWorkspace workspaceId, .focusWorkspace workspaceId' =>
      Ambiguous snapshot workspaceId workspaceId'
  | .moveWorkspaceToMonitor workspaceId monitorId,
      .moveWorkspaceToMonitor workspaceId' monitorId' =>
      monitorId = monitorId' ∧ Ambiguous snapshot workspaceId workspaceId'
  | _, _ => False

/-- What a command asks for, of the very window, workspace or monitor that it names. -/
def Requested (pre post : HyprlandSnapshot) : HyprlandCommand → Prop
  | .focusWindow windowId => ∃ window ∈ post.windows, window.id = windowId ∧ window.focused = true
  | .moveWindowToWorkspace windowId workspaceId =>
      ∃ window ∈ post.windows, window.id = windowId ∧ window.workspaceId = workspaceId
  | .closeWindow windowId => ∀ window ∈ post.windows, window.id ≠ windowId
  | .focusWorkspace workspaceId =>
      ∃ workspace ∈ post.workspaces, workspace.id = workspaceId ∧ workspace.focused = true
  | .moveWorkspaceToMonitor workspaceId monitorId =>
      ∃ workspace ∈ post.workspaces, workspace.id = workspaceId ∧
        workspace.monitorId = monitorId
  | .toggleFloating windowId =>
      ∃ before ∈ pre.windows, before.id = windowId ∧
        ∃ after ∈ post.windows, after.id = windowId ∧ after.floating = ! before.floating
  | .togglePinned windowId =>
      ∃ before ∈ pre.windows, before.id = windowId ∧
        ∃ after ∈ post.windows, after.id = windowId ∧ after.pinned = ! before.pinned
  | _ => False

end Statements

section Separators

/-- A text without separators. -/
def Plain (text : Text) : Prop :=
  ∀ c ∈ text, isSeparator c = false

theorem filter_plain {text : Text} (h : Plain text) : text.filter isSeparator = [] :=
  List.filter_eq_nil_iff.mpr fun c hc => by simp [h c hc]

/-- Texts of characters among which there is no separator. -/
theorem plain_of_all {p : Char → Bool} (hblank : p ' ' = false) (hcomma : p ',' = false)
    {text : Text} (h : text.all p = true) : Plain text := by
  intro c hc
  have hp := List.all_eq_true.mp h c hc
  rw [Bool.eq_false_iff]
  intro hseparator
  simp only [isSeparator, Bool.or_eq_true, beq_iff_eq] at hseparator
  rcases hseparator with rfl | rfl
  · exact absurd hp (by simp [hblank])
  · exact absurd hp (by simp [hcomma])

theorem plain_token {text : Text} (h : text.all isTokenChar = true) : Plain text :=
  plain_of_all (by decide) (by decide) h

theorem plain_append {left right : Text} (hleft : Plain left) (hright : Plain right) :
    Plain (left ++ right) := by
  intro c hc
  rcases List.mem_append.mp hc with hc | hc
  · exact hleft c hc
  · exact hright c hc

theorem plain_address {address : Text} (h : ValidAddress address) : Plain address := by
  obtain ⟨digits, rfl, hdigits⟩ := h
  exact plain_append (List.all_iff_forall_prop.mp (by decide))
    (plain_of_all (by decide) (by decide) hdigits.2.2.2.2)

/-- What `str::parse` accepts consists of digits behind at most one sign. -/
theorem parseUnsigned_chars {bound n : Nat} {text : Text} (h : parseUnsigned bound text = some n) :
    ∀ c ∈ text, c = '+' ∨ isAsciiDigit c = true := by
  unfold parseUnsigned at h
  simp only [Option.ite_none_right_eq_some] at h
  obtain ⟨⟨-, hdigits, -⟩, -⟩ := h
  intro c hc
  split_ifs at hdigits with hsign
  · cases text with
    | nil => cases hc
    | cons first rest =>
        rcases List.mem_cons.mp hc with rfl | hc
        · exact Or.inl (by simpa using hsign)
        · exact Or.inr (List.all_eq_true.mp hdigits c hc)
  · exact Or.inr (List.all_eq_true.mp hdigits c hc)

theorem numeric_chars {workspace : Workspace} (h : workspace.Numeric) :
    ∀ c ∈ workspace.id, c = '+' ∨ isAsciiDigit c = true := by
  obtain ⟨-, hpositive⟩ := h
  obtain ⟨n, hn, -⟩ := (Option.any_eq_true _ _).mp hpositive
  exact parseUnsigned_chars hn

theorem plain_numeric {workspace : Workspace} (h : workspace.Numeric) : Plain workspace.id := by
  intro c hc
  rcases numeric_chars h c hc with rfl | hdigit
  · decide
  · rw [Bool.eq_false_iff]
    intro hseparator
    simp only [isSeparator, Bool.or_eq_true, beq_iff_eq] at hseparator
    rcases hseparator with rfl | rfl
    · exact absurd hdigit (by decide)
    · exact absurd hdigit (by decide)

end Separators

section Targets

variable {workspace workspace' : Workspace}

theorem workspaceDispatchTarget_ok {allowSpecial : Bool} {target : Text}
    (h : workspaceDispatchTarget workspace allowSpecial = .ok target) :
    target = workspace.target ∧ Plain target := by
  have hname : ∀ description, validateDispatchToken workspace.name description = .ok () →
      Plain workspace.name := fun description hok => plain_token (ensure_eq_ok_iff.mp hok).2.2
  unfold workspaceDispatchTarget at h
  unfold Workspace.target
  split_ifs at h ⊢ with hspecial hallow hnumeric
  · obtain ⟨htoken, htarget⟩ := check_bind_eq_ok_iff.mp h
    obtain rfl := Except.ok.inj htarget
    exact ⟨rfl, hname _ htoken⟩
  · obtain rfl := Except.ok.inj h
    exact ⟨rfl, plain_numeric hnumeric⟩
  · obtain ⟨htoken, htarget⟩ := check_bind_eq_ok_iff.mp h
    obtain rfl := Except.ok.inj htarget
    exact ⟨rfl, plain_append (List.all_iff_forall_prop.mp (by decide)) (hname _ htoken)⟩

/-- A name with a letter in front is no number. -/
theorem not_numeric_of_letter {c : Char} {rest : Text} (hname : workspace.name = c :: rest)
    (hc : isAsciiDigit c = false) (hplus : c ≠ '+') : ¬ workspace.Numeric := by
  intro h
  rcases numeric_chars h c (by rw [← h.1, hname]; exact List.mem_cons_self) with hsign | hdigit
  · exact hplus hsign
  · exact Bool.false_ne_true (hc.symm.trans hdigit)

theorem special_cons (h : specialPrefix.isPrefixOf workspace.name = true) :
    ∃ rest, workspace.name = 's' :: rest := by
  obtain ⟨rest, hrest⟩ := List.isPrefixOf_iff_prefix.mp h
  exact ⟨_, hrest.symm⟩

theorem not_numeric_of_special (h : specialPrefix.isPrefixOf workspace.name = true) :
    ¬ workspace.Numeric := by
  obtain ⟨rest, hname⟩ := special_cons h
  exact not_numeric_of_letter hname (by decide) (by decide)

/-- A special name stands for itself, a number too, and any other name is prefixed. -/
theorem target_cases (workspace : Workspace) :
    (specialPrefix.isPrefixOf workspace.name = true ∧ ¬ workspace.Numeric ∧
        workspace.target = workspace.name) ∨
      (workspace.Numeric ∧ workspace.target = workspace.name) ∨
      (specialPrefix.isPrefixOf workspace.name = false ∧ ¬ workspace.Numeric ∧
        workspace.target = namePrefix ++ workspace.name) := by
  unfold Workspace.target
  split_ifs with hspecial hnumeric
  · exact Or.inl ⟨hspecial, not_numeric_of_special hspecial, rfl⟩
  · exact Or.inr (Or.inl ⟨hnumeric, hnumeric.1.symm⟩)
  · exact Or.inr (Or.inr ⟨Bool.eq_false_iff.mpr hspecial, hnumeric, rfl⟩)

/-- Targets are equal for equal names, numbers apart. -/
theorem target_eq_iff :
    workspace.target = workspace'.target ↔
      workspace.name = workspace'.name ∧ (workspace.Numeric ↔ workspace'.Numeric) := by
  have hnamed : ∀ {w w' : Workspace}, w'.Numeric → namePrefix ++ w.name ≠ w'.name := by
    intro w w' hnumeric hname
    exact not_numeric_of_letter (c := 'n') hname.symm (by decide) (by decide) hnumeric
  have hspecialNamed : ∀ {w w' : Workspace}, specialPrefix.isPrefixOf w'.name = true →
      namePrefix ++ w.name ≠ w'.name := by
    intro w w' hspecial hname
    obtain ⟨rest, hrest⟩ := special_cons hspecial
    rw [hrest] at hname
    exact absurd (List.cons.inj hname).1 (by decide)
  have hnumber : ∀ {w w' : Workspace}, specialPrefix.isPrefixOf w.name = true → w'.Numeric →
      w.name ≠ w'.name := by
    intro w w' hspecial hnumeric hname
    obtain ⟨rest, hrest⟩ := special_cons hspecial
    exact not_numeric_of_letter (hname.symm.trans hrest) (by decide) (by decide) hnumeric
  rcases target_cases workspace with ⟨hs, hn, ht⟩ | ⟨hn, ht⟩ | ⟨hs, hn, ht⟩ <;>
    rcases target_cases workspace' with ⟨hs', hn', ht'⟩ | ⟨hn', ht'⟩ | ⟨hs', hn', ht'⟩ <;>
    rw [ht, ht']
  · simp [hn, hn']
  · simp [hnumber hs hn']
  · refine iff_of_false (fun h => hspecialNamed hs h.symm) fun h => ?_
    exact Bool.false_ne_true (hs'.symm.trans (h.1 ▸ hs))
  · exact iff_of_false (fun h => hnumber hs' hn h.symm) fun h => hn' (h.2.mp hn)
  · simp [hn, hn']
  · exact iff_of_false (fun h => hnamed hn h.symm) fun h => hn' (h.2.mp hn)
  · refine iff_of_false (hspecialNamed hs') fun h => ?_
    exact Bool.false_ne_true (hs.symm.trans (h.1 ▸ hs'))
  · exact iff_of_false (hnamed hn') fun h => hn (h.2.mpr hn')
  · simp [hn, hn']

end Targets

section Plans

variable {snapshot : HyprlandSnapshot}

/-- The windows, workspaces and monitors that a planned command names are there, and the
texts that stand for them are plain. -/
structure Addressed (snapshot : HyprlandSnapshot) (command : HyprlandCommand) : Prop where
  windows : ∀ id ∈ command.windowIds, ∃ window ∈ snapshot.windows, window.id = id
  workspaces : ∀ id ∈ command.workspaceIds, ∃ workspace,
    (snapshot.workspaces.find? fun workspace => workspace.id = id) = some workspace
  targets : ∀ id ∈ command.workspaceIds, Plain (targetOf snapshot id)
  monitors : ∀ id ∈ command.monitorIds, Plain id

theorem orReject_eq_ok_iff {α : Type} {description : String} {found : Option α} {a : α} :
    orReject description found = .ok a ↔ found = some a := by
  cases found with
  | none => exact iff_of_false nofun nofun
  | some b =>
      rw [orReject]
      exact ⟨fun h => congrArg _ (Except.ok.inj h), fun h => congrArg _ (Option.some.inj h)⟩

theorem findWindow_ok {id : Text} {window : Window} (h : findWindow snapshot id = .ok window) :
    window ∈ snapshot.windows ∧ window.id = id := by
  have hfound := orReject_eq_ok_iff.mp h
  exact ⟨List.mem_of_find?_eq_some hfound, by simpa using List.find?_some hfound⟩

theorem findMonitor_ok {id : Text} {monitor : Monitor}
    (h : findMonitor snapshot id = .ok monitor) : monitor.id = id := by
  have hfound := orReject_eq_ok_iff.mp h
  simpa using List.find?_some hfound

/-- A workspace that was found, its identifier and its target. -/
theorem findWorkspace_ok {id target : Text} {workspace : Workspace} {allowSpecial : Bool}
    (h : findWorkspace snapshot id = .ok workspace)
    (htarget : workspaceDispatchTarget workspace allowSpecial = .ok target) :
    (snapshot.workspaces.find? fun workspace => workspace.id = id) = some workspace ∧
      workspace.id = id ∧ target = targetOf snapshot id ∧ Plain (targetOf snapshot id) := by
  have hfound := orReject_eq_ok_iff.mp h
  obtain ⟨hsame, hplain⟩ := workspaceDispatchTarget_ok htarget
  have htargetOf : targetOf snapshot id = workspace.target := by simp [targetOf, hfound]
  exact ⟨hfound, by simpa using List.find?_some hfound, hsame.trans htargetOf.symm,
    by rw [htargetOf, ← hsame]; exact hplain⟩

theorem dispatch_ok {argument request : Text} (h : dispatch argument = .ok request) :
    request = "dispatch ".toList ++ argument :=
  (Except.ok.inj (check_bind_eq_ok_iff.mp h).2).symm

/-- A plan for a command about one window. -/
theorem plan_window {windowId : Text} {dispatcher : String} {expected : Window → ExpectedPostcondition}
    {plan : ActionPlan}
    (h : (do
      let window ← findWindow snapshot windowId
      let request ← windowRequest dispatcher window
      pure ⟨[request], expected window⟩ : Except CompositorError ActionPlan) = .ok plan) :
    ∃ window ∈ snapshot.windows, window.id = windowId ∧
      plan = ⟨["dispatch ".toList ++ (dispatcher.toList ++ " address:".toList ++ windowId)],
        expected window⟩ := by
  obtain ⟨window, hfound, h⟩ := bind_eq_ok_iff.mp h
  obtain ⟨request, hrequest, h⟩ := bind_eq_ok_iff.mp h
  obtain ⟨hmem, rfl⟩ := findWindow_ok hfound
  obtain rfl := dispatch_ok hrequest
  exact ⟨window, hmem, rfl, (Except.ok.inj h).symm⟩

/-- What a plan sends, and what it takes for its postcondition. -/
theorem fromCommand_spec {command : HyprlandCommand} {plan : ActionPlan}
    (h : ActionPlan.fromCommand snapshot command = .ok plan) :
    Addressed snapshot command ∧
      plan.requests = ["dispatch ".toList ++ command.argument (targetOf snapshot)] ∧
      ∀ post, plan.expected.confirms post = true → Requested snapshot post command := by
  have hwindow : ∀ {id : Text} {window : Window}, window ∈ snapshot.windows → window.id = id →
      ∀ other ∈ [id], ∃ window ∈ snapshot.windows, window.id = other := by
    intro id window hmem hid other hother
    exact ⟨window, hmem, hid.trans (List.mem_singleton.mp hother).symm⟩
  cases command with
  | focusWindow windowId =>
      obtain ⟨window, hmem, hid, rfl⟩ := plan_window h
      refine ⟨⟨hwindow hmem hid, nofun, nofun, nofun⟩, rfl, fun post hpost => ?_⟩
      simpa [ExpectedPostcondition.confirms, Requested, hid] using hpost
  | moveWindowToWorkspace windowId workspaceId =>
      obtain ⟨window, hfound, h⟩ := bind_eq_ok_iff.mp h
      obtain ⟨workspace, hworkspace, h⟩ := bind_eq_ok_iff.mp h
      obtain ⟨target, htarget, h⟩ := bind_eq_ok_iff.mp h
      obtain ⟨request, hrequest, h⟩ := bind_eq_ok_iff.mp h
      obtain ⟨hmem, rfl⟩ := findWindow_ok hfound
      obtain ⟨hworkspaceFound, rfl, rfl, hplain⟩ := findWorkspace_ok hworkspace htarget
      obtain rfl := dispatch_ok hrequest
      obtain rfl := Except.ok.inj h
      refine ⟨⟨hwindow hmem rfl, ?_, ?_, nofun⟩, rfl, fun post hpost => ?_⟩
      · exact List.forall_mem_singleton.mpr ⟨workspace, hworkspaceFound⟩
      · exact List.forall_mem_singleton.mpr hplain
      · simpa [ExpectedPostcondition.confirms, Requested] using hpost
  | closeWindow windowId =>
      obtain ⟨window, hmem, hid, rfl⟩ := plan_window h
      refine ⟨⟨hwindow hmem hid, nofun, nofun, nofun⟩, rfl, fun post hpost => ?_⟩
      simpa [ExpectedPostcondition.confirms, Requested, hid] using hpost
  | focusWorkspace workspaceId =>
      obtain ⟨workspace, hworkspace, h⟩ := bind_eq_ok_iff.mp h
      obtain ⟨target, htarget, h⟩ := bind_eq_ok_iff.mp h
      obtain ⟨request, hrequest, h⟩ := bind_eq_ok_iff.mp h
      obtain ⟨hworkspaceFound, rfl, rfl, hplain⟩ := findWorkspace_ok hworkspace htarget
      obtain rfl := dispatch_ok hrequest
      obtain rfl := Except.ok.inj h
      refine ⟨⟨nofun, ?_, ?_, nofun⟩, rfl, fun post hpost => ?_⟩
      · exact List.forall_mem_singleton.mpr ⟨workspace, hworkspaceFound⟩
      · exact List.forall_mem_singleton.mpr hplain
      · simpa [ExpectedPostcondition.confirms, Requested] using hpost
  | moveWorkspaceToMonitor workspaceId monitorId =>
      obtain ⟨workspace, hworkspace, h⟩ := bind_eq_ok_iff.mp h
      obtain ⟨monitor, hmonitor, h⟩ := bind_eq_ok_iff.mp h
      obtain ⟨htoken, h⟩ := check_bind_eq_ok_iff.mp h
      obtain ⟨target, htarget, h⟩ := bind_eq_ok_iff.mp h
      obtain ⟨request, hrequest, h⟩ := bind_eq_ok_iff.mp h
      obtain ⟨hworkspaceFound, rfl, rfl, hplain⟩ := findWorkspace_ok hworkspace htarget
      obtain rfl := findMonitor_ok hmonitor
      obtain rfl := dispatch_ok hrequest
      obtain rfl := Except.ok.inj h
      refine ⟨⟨nofun, ?_, ?_, ?_⟩, rfl, fun post hpost => ?_⟩
      · exact List.forall_mem_singleton.mpr ⟨workspace, hworkspaceFound⟩
      · exact List.forall_mem_singleton.mpr hplain
      · exact List.forall_mem_singleton.mpr (plain_token (ensure_eq_ok_iff.mp htoken).2.2)
      · simpa [ExpectedPostcondition.confirms, Requested] using hpost
  | toggleFullscreen windowId => cases h
  | toggleFloating windowId =>
      obtain ⟨window, hmem, hid, rfl⟩ := plan_window h
      refine ⟨⟨hwindow hmem hid, nofun, nofun, nofun⟩, rfl, fun post hpost => ?_⟩
      refine ⟨window, hmem, hid, ?_⟩
      simpa [ExpectedPostcondition.confirms, hid] using hpost
  | togglePinned windowId =>
      obtain ⟨window, hmem, hid, rfl⟩ := plan_window h
      refine ⟨⟨hwindow hmem hid, nofun, nofun, nofun⟩, rfl, fun post hpost => ?_⟩
      refine ⟨window, hmem, hid, ?_⟩
      simpa [ExpectedPostcondition.confirms, hid] using hpost
  | toggleGroup windowId => cases h
  | exit => cases h

end Plans

section Requests

variable {snapshot : HyprlandSnapshot} {command command' : HyprlandCommand}

/-- Workspaces of one target are ambiguous, and conversely. -/
theorem targetOf_eq_iff (hids : (snapshot.workspaces.map Workspace.id).Nodup) {id id' : Text}
    {workspace workspace' : Workspace}
    (hfound : (snapshot.workspaces.find? fun workspace => workspace.id = id) = some workspace)
    (hfound' : (snapshot.workspaces.find? fun workspace => workspace.id = id') = some workspace')
    (hne : id ≠ id') :
    targetOf snapshot id = targetOf snapshot id' ↔ Ambiguous snapshot id id' := by
  have hmem := List.mem_of_find?_eq_some hfound
  have hmem' := List.mem_of_find?_eq_some hfound'
  have hid : workspace.id = id := by simpa using List.find?_some hfound
  have hid' : workspace'.id = id' := by simpa using List.find?_some hfound'
  have htargets : targetOf snapshot id = targetOf snapshot id' ↔
      workspace.target = workspace'.target := by
    simp [targetOf, hfound, hfound']
  rw [htargets, target_eq_iff]
  constructor
  · rintro ⟨hname, hnumeric⟩
    have hnot : ¬ workspace.Numeric := fun h => hne <| by
      rw [← hid, ← hid', ← h.1, ← (hnumeric.mp h).1, hname]
    exact ⟨hne, workspace, hmem, workspace', hmem', hid, hid', hname, hnot,
      fun h => hnot (hnumeric.mpr h)⟩
  · rintro ⟨-, other, hother, other', hother', hotherId, hotherId', hname, hnot, hnot'⟩
    obtain rfl := List.inj_on_of_nodup_map hids hother hmem (hotherId.trans hid.symm)
    obtain rfl := List.inj_on_of_nodup_map hids hother' hmem' (hotherId'.trans hid'.symm)
    exact ⟨hname, iff_of_false hnot hnot'⟩

/-- A request consists of the plain texts of what it names, and of its separators. -/
theorem separators_request (haddressed : Addressed snapshot command)
    (hwindows : ∀ window ∈ snapshot.windows, Plain window.id)
    {plan : ActionPlan} (h : ActionPlan.fromCommand snapshot command = .ok plan) :
    ("dispatch ".toList ++ command.argument (targetOf snapshot)).filter isSeparator =
      shape command := by
  have hone : ∀ {dispatcher text : Text}, text.filter isSeparator = [] →
      ("dispatch ".toList ++ (dispatcher ++ text)).filter isSeparator =
        ' ' :: dispatcher.filter isSeparator := by
    intro dispatcher text htext
    rw [List.filter_append, List.filter_append, htext, List.append_nil]
    rfl
  have hwindow : ∀ id ∈ command.windowIds, id.filter isSeparator = [] := by
    intro id hid
    obtain ⟨window, hwindow, rfl⟩ := haddressed.windows id hid
    exact filter_plain (hwindows window hwindow)
  have htarget : ∀ id ∈ command.workspaceIds, (targetOf snapshot id).filter isSeparator = [] :=
    fun id hid => filter_plain (haddressed.targets id hid)
  have hmonitor : ∀ id ∈ command.monitorIds, id.filter isSeparator = [] :=
    fun id hid => filter_plain (haddressed.monitors id hid)
  cases command with
  | focusWindow windowId => exact hone (hwindow windowId (List.mem_cons_self ..))
  | moveWindowToWorkspace windowId workspaceId =>
      refine (hone (hwindow windowId (List.mem_cons_self ..))).trans ?_
      rw [List.filter_append, List.filter_append, htarget workspaceId (List.mem_cons_self ..)]
      rfl
  | closeWindow windowId => exact hone (hwindow windowId (List.mem_cons_self ..))
  | focusWorkspace workspaceId => exact hone (htarget workspaceId (List.mem_cons_self ..))
  | moveWorkspaceToMonitor workspaceId monitorId =>
      have hspace : (' ' :: monitorId).filter isSeparator = [' '] :=
        congrArg (' ' :: ·) (hmonitor monitorId (List.mem_cons_self ..))
      have hrequest : ("dispatch ".toList ++ ("moveworkspacetomonitor ".toList ++
          targetOf snapshot workspaceId ++ ' ' :: monitorId)).filter isSeparator =
          "   ".toList := by
        rw [List.filter_append, List.filter_append, List.filter_append, hspace,
          htarget workspaceId (List.mem_cons_self ..)]
        rfl
      exact hrequest
  | toggleFullscreen windowId => cases h
  | toggleFloating windowId => exact hone (hwindow windowId (List.mem_cons_self ..))
  | togglePinned windowId => exact hone (hwindow windowId (List.mem_cons_self ..))
  | toggleGroup windowId => cases h
  | exit => cases h

/-- Two plain texts before a separator, and what follows it. -/
theorem plain_split {text text' rest rest' : Text} {c : Char} (hc : isSeparator c = true)
    (h : Plain text) (h' : Plain text') :
    text ++ c :: rest = text' ++ c :: rest' ↔ text = text' ∧ rest = rest' := by
  constructor
  · intro heq
    have hspan : ∀ {text rest : Text}, Plain text →
        (text ++ c :: rest).takeWhile (fun c => ! isSeparator c) = text := by
      intro text rest htext
      rw [List.takeWhile_append_of_pos fun d hd => by simp [htext d hd],
        List.takeWhile_cons_of_neg (by simp [hc]), List.append_nil]
    obtain rfl : text = text' := by
      rw [← @hspan text rest h, heq, hspan h']
    exact ⟨rfl, (List.cons.inj (List.append_cancel_left heq)).2⟩
  · rintro ⟨rfl, rfl⟩
    rfl

/-- Commands of one kind have the same argument where nothing or only an ambiguous workspace
tells them apart. -/
theorem argument_eq_iff (hids : (snapshot.workspaces.map Workspace.id).Nodup)
    (hkind : command.SameKind command') (haddressed : Addressed snapshot command)
    (haddressed' : Addressed snapshot command') (hne : command ≠ command') {plan : ActionPlan}
    (h : ActionPlan.fromCommand snapshot command = .ok plan) :
    command.argument (targetOf snapshot) = command'.argument (targetOf snapshot) ↔
      Confused snapshot command command' := by
  cases hkind with
  | focusWindow windowId windowId' =>
      refine iff_of_false (fun hargument => hne ?_) not_false
      rw [List.append_cancel_left hargument]
  | closeWindow windowId windowId' =>
      refine iff_of_false (fun hargument => hne ?_) not_false
      rw [List.append_cancel_left hargument]
  | toggleFloating windowId windowId' =>
      refine iff_of_false (fun hargument => hne ?_) not_false
      rw [List.append_cancel_left hargument]
  | togglePinned windowId windowId' =>
      refine iff_of_false (fun hargument => hne ?_) not_false
      rw [List.append_cancel_left hargument]
  | moveWindowToWorkspace windowId workspaceId windowId' workspaceId' =>
      obtain ⟨workspace, hfound⟩ := haddressed.workspaces workspaceId (List.mem_cons_self ..)
      obtain ⟨workspace', hfound'⟩ :=
        haddressed'.workspaces workspaceId' (List.mem_cons_self ..)
      have hsplit : targetOf snapshot workspaceId ++ ',' :: ("address:".toList ++ windowId) =
          targetOf snapshot workspaceId' ++ ',' :: ("address:".toList ++ windowId') ↔ _ :=
        plain_split (by decide) (haddressed.targets workspaceId (List.mem_cons_self ..))
          (haddressed'.targets workspaceId' (List.mem_cons_self ..))
      constructor
      · intro hargument
        have hrest : targetOf snapshot workspaceId ++ ',' :: ("address:".toList ++ windowId) =
            targetOf snapshot workspaceId' ++ ',' :: ("address:".toList ++ windowId') := by
          refine @List.append_cancel_left _ "movetoworkspacesilent ".toList _ _ ?_
          rw [← List.append_assoc, ← List.append_assoc]
          exact (List.append_assoc _ ",address:".toList _).symm.trans
            (hargument.trans (List.append_assoc _ ",address:".toList _))
        obtain ⟨htarget, hwindow⟩ := hsplit.mp hrest
        have hwindow := List.append_cancel_left hwindow
        refine ⟨hwindow, (targetOf_eq_iff hids hfound hfound' fun hid => hne ?_).mp htarget⟩
        rw [hwindow, hid]
      · rintro ⟨rfl, hambiguous⟩
        have htarget := (targetOf_eq_iff hids hfound hfound' hambiguous.1).mpr hambiguous
        exact congrArg (fun target => "movetoworkspacesilent ".toList ++ target ++
          ",address:".toList ++ windowId) htarget
  | focusWorkspace workspaceId workspaceId' =>
      obtain ⟨workspace, hfound⟩ := haddressed.workspaces workspaceId (List.mem_cons_self ..)
      obtain ⟨workspace', hfound'⟩ :=
        haddressed'.workspaces workspaceId' (List.mem_cons_self ..)
      have hambiguous := targetOf_eq_iff hids hfound hfound' fun hid => hne (congrArg _ hid)
      constructor
      · exact fun hargument => hambiguous.mp (List.append_cancel_left hargument)
      · exact fun hconfused => congrArg ("workspace ".toList ++ ·) (hambiguous.mpr hconfused)
  | moveWorkspaceToMonitor workspaceId monitorId workspaceId' monitorId' =>
      obtain ⟨workspace, hfound⟩ := haddressed.workspaces workspaceId (List.mem_cons_self ..)
      obtain ⟨workspace', hfound'⟩ :=
        haddressed'.workspaces workspaceId' (List.mem_cons_self ..)
      have hsplit : targetOf snapshot workspaceId ++ ' ' :: monitorId =
          targetOf snapshot workspaceId' ++ ' ' :: monitorId' ↔ _ :=
        plain_split (by decide) (haddressed.targets workspaceId (List.mem_cons_self ..))
          (haddressed'.targets workspaceId' (List.mem_cons_self ..))
      constructor
      · intro hargument
        have hrest : targetOf snapshot workspaceId ++ ' ' :: monitorId =
            targetOf snapshot workspaceId' ++ ' ' :: monitorId' := by
          refine @List.append_cancel_left _ "moveworkspacetomonitor ".toList _ _ ?_
          rw [← List.append_assoc, ← List.append_assoc]
          exact hargument
        obtain ⟨htarget, hmonitor⟩ := hsplit.mp hrest
        refine ⟨hmonitor, (targetOf_eq_iff hids hfound hfound' fun hid => hne ?_).mp htarget⟩
        rw [hmonitor, hid]
      · rintro ⟨rfl, hambiguous⟩
        have htarget := (targetOf_eq_iff hids hfound hfound' hambiguous.1).mpr hambiguous
        exact congrArg (fun target => "moveworkspacetomonitor ".toList ++ target ++
          ' ' :: monitorId) htarget
  | toggleFullscreen windowId windowId' => cases h
  | toggleGroup windowId windowId' => cases h
  | exit => cases h

end Requests

section Execution

theorem confirm_ok {expected : ExpectedPostcondition} {polls : List (Poll HyprlandSnapshot)}
    {execution : CompositorExecution} (h : confirm expected polls = .ok execution) :
    ∃ post, execution = .snapshot post ∧ expected.confirms post = true := by
  induction polls with
  | nil => cases h
  | cons poll polls ih =>
      rw [confirm] at h
      split at h
      · cases h
      · split at h
        · cases h
        · next post hread =>
            split at h
            · next hconfirms => exact ⟨post, (Except.ok.inj h).symm, hconfirms⟩
            · split at h
              · cases h
              · exact ih h

theorem confirmExit_ok {polls : List (Poll (Bool × Bool))} {execution : CompositorExecution}
    (h : confirmExit polls = .ok execution) : execution = .exited := by
  induction polls with
  | nil => cases h
  | cons poll polls ih =>
      rw [confirmExit] at h
      split at h
      · cases h
      · split at h
        · cases h
        · split at h
          · exact (Except.ok.inj h).symm
          · split at h
            · cases h
            · exact ih h

theorem requested_of_satisfied {snapshot : HyprlandSnapshot} {command : HyprlandCommand}
    (h : focusCommandAlreadySatisfied snapshot command = true) :
    Requested snapshot snapshot command := by
  cases command with
  | focusWindow windowId => simpa [focusCommandAlreadySatisfied, Requested] using h
  | focusWorkspace workspaceId => simpa [focusCommandAlreadySatisfied, Requested] using h
  | moveWindowToWorkspace windowId workspaceId => cases h
  | closeWindow windowId => cases h
  | moveWorkspaceToMonitor workspaceId monitorId => cases h
  | toggleFullscreen windowId => cases h
  | toggleFloating windowId => cases h
  | togglePinned windowId => cases h
  | toggleGroup windowId => cases h
  | exit => cases h

theorem executePlanned_ok {answers : Answers} {command : HyprlandCommand}
    {pre post : HyprlandSnapshot} (hpre : answers.pre = .ok pre)
    (h : executePlanned answers command = .ok (.snapshot post)) : Requested pre post command := by
  unfold executePlanned at h
  obtain ⟨pre', hpre', h⟩ := bind_eq_ok_iff.mp h
  obtain rfl := Except.ok.inj (hpre.symm.trans hpre')
  split at h
  · next hsatisfied =>
      cases h
      exact requested_of_satisfied hsatisfied
  · obtain ⟨plan, hplan, h⟩ := bind_eq_ok_iff.mp h
    obtain ⟨-, h⟩ := check_bind_eq_ok_iff.mp h
    obtain ⟨confirmed, hconfirmed, hconfirms⟩ := confirm_ok h
    cases hconfirmed
    exact (fromCommand_spec hplan).2.2 _ hconfirms

/-- A snapshot that is returned shows what was asked for. -/
theorem execute_ok {answers : Answers} {command : HyprlandCommand} {pre post : HyprlandSnapshot}
    (hpre : answers.pre = .ok pre) (h : execute answers command = .ok (.snapshot post)) :
    Requested pre post command := by
  cases command with
  | toggleFullscreen windowId => cases h
  | toggleGroup windowId => cases h
  | exit =>
      obtain ⟨-, h⟩ := check_bind_eq_ok_iff.mp h
      cases confirmExit_ok h
  | focusWindow windowId => exact executePlanned_ok hpre h
  | moveWindowToWorkspace windowId workspaceId => exact executePlanned_ok hpre h
  | closeWindow windowId => exact executePlanned_ok hpre h
  | focusWorkspace workspaceId => exact executePlanned_ok hpre h
  | moveWorkspaceToMonitor workspaceId monitorId => exact executePlanned_ok hpre h
  | toggleFloating windowId => exact executePlanned_ok hpre h
  | togglePinned windowId => exact executePlanned_ok hpre h

end Execution

section Addresses

variable {monitors : List UpstreamMonitor} {workspaces : List UpstreamWorkspace}
variable {clients : List UpstreamClient} {snapshot : HyprlandSnapshot}

theorem plain_windows (h : parseFullSnapshot monitors workspaces clients = .ok snapshot) :
    ∀ window ∈ snapshot.windows, Plain window.id := by
  obtain ⟨haccepted, rfl⟩ := parseFullSnapshot_eq_ok_iff.mp h
  intro window hwindow
  obtain ⟨client, hclient, rfl⟩ := List.mem_map.mp hwindow
  exact plain_address (haccepted.addresses.valid client hclient)

theorem workspace_ids_nodup (h : parseFullSnapshot monitors workspaces clients = .ok snapshot) :
    (snapshot.workspaces.map Workspace.id).Nodup := by
  obtain ⟨haccepted, rfl⟩ := parseFullSnapshot_eq_ok_iff.mp h
  exact (sound_of_accepted haccepted).workspaceIds

/-- Requests have the shape of their dispatcher, those of different commands of one kind differ
but for ambiguous workspaces, and what is returned shows what was asked for. -/
theorem commands_addressed_iff (monitors : List UpstreamMonitor)
    (workspaces : List UpstreamWorkspace) (clients : List UpstreamClient)
    (snapshot : HyprlandSnapshot)
    (h : parseFullSnapshot monitors workspaces clients = .ok snapshot) :
    (∀ command plan, ActionPlan.fromCommand snapshot command = .ok plan →
        ∀ request ∈ plan.requests, request.filter isSeparator = shape command) ∧
      (∀ command command' plan plan', ActionPlan.fromCommand snapshot command = .ok plan →
        ActionPlan.fromCommand snapshot command' = .ok plan' → command.SameKind command' →
        command ≠ command' →
        (plan.requests ≠ plan'.requests ↔ ¬ Confused snapshot command command')) ∧
      ∀ answers command post, answers.pre = .ok snapshot →
        execute answers command = .ok (.snapshot post) → Requested snapshot post command := by
  refine ⟨?_, ?_, fun answers command post hpre hrun => execute_ok hpre hrun⟩
  · intro command plan hplan request hrequest
    obtain ⟨haddressed, hrequests, -⟩ := fromCommand_spec hplan
    rw [hrequests] at hrequest
    obtain rfl := List.mem_singleton.mp hrequest
    exact separators_request haddressed (plain_windows h) hplan
  · intro command command' plan plan' hplan hplan' hkind hne
    obtain ⟨haddressed, hrequests, -⟩ := fromCommand_spec hplan
    obtain ⟨haddressed', hrequests', -⟩ := fromCommand_spec hplan'
    rw [hrequests, hrequests', ne_eq, not_iff_not, List.singleton_inj,
      List.append_right_inj]
    exact argument_eq_iff (workspace_ids_nodup h) hkind haddressed haddressed' hne hplan

/-- The windows of the sample are moved to its first workspace by requests that differ. -/
theorem commands_addressed_sample :
    ["dispatch movetoworkspacesilent name:one,address:0xa1".toList] ≠
      ["dispatch movetoworkspacesilent name:one,address:0xb2".toList] :=
  ((commands_addressed_iff [sampleMonitor] sampleWorkspaces sampleClients _ sampleSnapshot_ok).2.1
    (.moveWindowToWorkspace "0xa1".toList "1".toList)
    (.moveWindowToWorkspace "0xb2".toList "1".toList)
    ⟨["dispatch movetoworkspacesilent name:one,address:0xa1".toList],
      .windowWorkspace "0xa1".toList "1".toList⟩
    ⟨["dispatch movetoworkspacesilent name:one,address:0xb2".toList],
      .windowWorkspace "0xb2".toList "1".toList⟩
    (by decide) (by decide)
    (.moveWindowToWorkspace "0xa1".toList "1".toList "0xb2".toList "1".toList)
    (by decide)).mpr fun h => absurd h.1 (by decide)

/-- Two workspaces that were given the same name. -/
def twinWorkspaces : List UpstreamWorkspace :=
  [⟨1, "one".toList, "DP-1".toList⟩, ⟨2, "one".toList, "DP-1".toList⟩]

/-- Focusing either of them is the same request. -/
theorem twin_workspaces_confused :
    ¬ ∀ snapshot, parseFullSnapshot [sampleMonitor] twinWorkspaces [] = .ok snapshot →
      ∀ command command' plan plan', ActionPlan.fromCommand snapshot command = .ok plan →
        ActionPlan.fromCommand snapshot command' = .ok plan' → command.SameKind command' →
        command ≠ command' → plan.requests ≠ plan'.requests := by
  intro h
  have hsnapshot : parseFullSnapshot [sampleMonitor] twinWorkspaces [] =
      .ok (snapshotOf [sampleMonitor] twinWorkspaces []) := by
    decide
  exact h _ hsnapshot (.focusWorkspace "1".toList) (.focusWorkspace "2".toList)
    ⟨["dispatch workspace name:one".toList], .workspaceFocused "1".toList⟩
    ⟨["dispatch workspace name:one".toList], .workspaceFocused "2".toList⟩
    (by decide) (by decide) (.focusWorkspace _ _) (by decide) rfl

end Addresses

end Compositor
end SleepySession
