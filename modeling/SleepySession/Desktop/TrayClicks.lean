import SleepySession.Desktop.Tray

/-!
# What a click in the tray reaches

The actions of a menu are those of its enabled entries, and an identifier says
which node of the layout it stands for.  So what is shown can be invoked, and
what is invoked was shown.
-/

namespace SleepySession
namespace Tray

open Compositor (integerText integerText_injective)

section Menus

variable {hash : UInt64} {path : Text} {id : Text} {node other : TrayMenuNode}
variable {nodes nodes' : List TrayMenuNode} {before between after : Actions}

/-- A node stands somewhere in the tree below another, or is that node. -/
inductive Occurs : TrayMenuNode → TrayMenuNode → Prop where
  | self (node : TrayMenuNode) : Occurs node node
  | child {node child other : TrayMenuNode}
      (hchild : child ∈ node.children) (h : Occurs child other) : Occurs node other

/-- An enabled node with the identifier stands somewhere in the trees. -/
def Clickable (nodes : List TrayMenuNode) (id : Text) : Prop :=
  ∃ top ∈ nodes, ∃ node, Occurs top node ∧ node.enabled = true ∧ node.id = id

theorem clickable_append :
    Clickable (nodes ++ nodes') id ↔ Clickable nodes id ∨ Clickable nodes' id := by
  simp [Clickable, or_and_right, exists_or]

theorem not_clickable_nil : ¬ Clickable [] id := by
  rintro ⟨top, htop, -⟩
  cases htop

theorem clickable_singleton :
    Clickable [node] id ↔ (node.enabled = true ∧ node.id = id) ∨ Clickable node.children id := by
  constructor
  · rintro ⟨top, htop, found, hoccurs, henabled, hid⟩
    obtain rfl := List.mem_singleton.mp htop
    cases hoccurs with
    | self => exact Or.inl ⟨henabled, hid⟩
    | child hchild h => exact Or.inr ⟨_, hchild, found, h, henabled, hid⟩
  · rintro (⟨henabled, hid⟩ | ⟨top, htop, found, hoccurs, henabled, hid⟩)
    · exact ⟨node, List.mem_singleton_self node, node, .self node, henabled, hid⟩
    · exact ⟨node, List.mem_singleton_self node, found, .child htop hoccurs, henabled, hid⟩

/-- The identifier of a node of the layout. -/
def nodeEntryId (hash : UInt64) (nodeId : Int) : Text :=
  entryId hash (integerText nodeId)

theorem entryId_injective (hash : UInt64) : Function.Injective (entryId hash) := by
  intro x y h
  exact (List.cons.inj (List.append_cancel_left h)).2

theorem nodeEntryId_injective (hash : UInt64) : Function.Injective (nodeEntryId hash) :=
  (entryId_injective hash).comp integerText_injective

/-- What the trees add to the actions: one for each enabled node. -/
structure Parsed (hash : UInt64) (path : Text) (nodes : List TrayMenuNode)
    (before after : Actions) : Prop where
  entries : ∀ id, Clickable nodes id →
    ∃ nodeId, id = nodeEntryId hash nodeId ∧ after id = some (.menu path nodeId)
  others : ∀ id, ¬ Clickable nodes id → after id = before id

theorem Parsed.nil : Parsed hash path [] before before :=
  ⟨fun _ h => (not_clickable_nil h).elim, fun _ _ => rfl⟩

theorem Parsed.append (h : Parsed hash path nodes before between)
    (h' : Parsed hash path nodes' between after) :
    Parsed hash path (nodes ++ nodes') before after := by
  refine ⟨fun id hid => ?_, fun id hid => ?_⟩
  · by_cases hlater : Clickable nodes' id
    · exact h'.entries id hlater
    · rw [h'.others id hlater]
      exact h.entries id ((clickable_append.mp hid).resolve_right hlater)
  · rw [h'.others id fun hlater => hid (clickable_append.mpr (Or.inr hlater))]
    exact h.others id fun hearlier => hid (clickable_append.mpr (Or.inl hearlier))

/-- A node is added once its children are. -/
theorem Parsed.push (nodeId : Int) (label : Text) (enabled : Bool)
    (h : Parsed hash path nodes before after) :
    Parsed hash path [⟨nodeEntryId hash nodeId, label, enabled, nodes⟩] before
      (if enabled then
        Function.update after (nodeEntryId hash nodeId) (some (.menu path nodeId))
      else after) := by
  refine ⟨fun id hid => ?_, fun id hid => ?_⟩
  · rcases clickable_singleton.mp hid with ⟨henabled, hsame⟩ | hbelow
    · refine ⟨nodeId, hsame.symm, ?_⟩
      rw [if_pos henabled, ← hsame, Function.update_self]
    · obtain ⟨below, hbelow, hafter⟩ := h.entries id hbelow
      refine ⟨below, hbelow, ?_⟩
      split_ifs
      · by_cases hsame : id = nodeEntryId hash nodeId
        · obtain rfl := nodeEntryId_injective hash (hbelow.symm.trans hsame)
          rw [hsame, Function.update_self]
        · rw [Function.update_of_ne hsame]
          exact hafter
      · exact hafter
  · have hnot := mt clickable_singleton.mpr hid
    obtain ⟨hself, hbelow⟩ := not_or.mp hnot
    split_ifs with henabled
    · rw [Function.update_of_ne fun hsame => hself ⟨henabled, hsame.symm⟩]
      exact h.others id hbelow
    · exact h.others id hbelow

mutual

theorem parsed_of_parseChild (hash : UInt64) (path : Text) :
    ∀ (child : MenuChild) (depth : Nat) (parse : MenuParse)
      (result : Option TrayMenuNode × MenuParse),
        parseChild hash path child depth parse = .ok result →
          Parsed hash path result.1.toList parse.actions result.2.actions
  | .malformed, depth, parse, result, h => by cases h
  | .short none properties, depth, parse, result, h => by cases h
  | .short (some nodeId) none, depth, parse, result, h => by cases h
  | .short (some nodeId) (some properties), depth, parse, result, h => by cases h
  | .node none properties children, depth, parse, result, h => by cases h
  | .node (some nodeId) properties children, depth, parse, result, h => by
      simp only [parseChild] at h
      split at h
      · obtain rfl := Except.ok.inj h
        exact .nil
      split at h
      · cases h
      split at h
      · cases h
      · cases hchildren : parseChildren hash path children (depth + 1)
            { parse with count := parse.count + 1 } with
        | error e =>
            rw [hchildren] at h
            cases h
        | ok inner =>
            rw [hchildren] at h
            obtain rfl := Except.ok.inj h
            have hinner := parsed_of_parseChildren hash path children (depth + 1) _ inner hchildren
            have hnode := hinner.push nodeId (properties.label.getD [])
              ((properties.enabled.map (· != 0)).getD true)
            split_ifs at hnode ⊢
            · exact hnode
            · exact hnode

theorem parsed_of_parseChildren (hash : UInt64) (path : Text) :
    ∀ (children : List MenuChild) (depth : Nat) (parse : MenuParse)
      (result : List TrayMenuNode × MenuParse),
        parseChildren hash path children depth parse = .ok result →
          Parsed hash path result.1 parse.actions result.2.actions
  | [], depth, parse, result, h => by
      simp only [parseChildren] at h
      obtain rfl := Except.ok.inj h
      exact .nil
  | child :: rest, depth, parse, result, h => by
      simp only [parseChildren] at h
      cases hchild : parseChild hash path child depth parse with
      | error e =>
          rw [hchild] at h
          cases h
      | ok first =>
          rw [hchild] at h
          simp only at h
          cases hrest : parseChildren hash path rest depth first.2 with
          | error e =>
              rw [hrest] at h
              cases h
          | ok last =>
              rw [hrest] at h
              obtain rfl := Except.ok.inj h
              exact (parsed_of_parseChild hash path child depth parse first hchild).append
                (parsed_of_parseChildren hash path rest depth first.2 last hrest)

end

/-- What an action of a menu does. -/
def Acts (hash : UInt64) (menu : TrayMenuNode) (id : Text) (action : MenuAction) : Prop :=
  (id = menu.id ∧ action = .activate) ∨
    id ≠ menu.id ∧ ∃ path nodeId, id = nodeEntryId hash nodeId ∧ action = .menu path nodeId

/-- The actions are those of the enabled nodes of a menu. -/
structure Faithful (hash : UInt64) (menu : TrayMenuNode) (actions : Actions) : Prop where
  entries : ∀ id, Clickable [menu] id →
    ∃ action, actions id = some action ∧ Acts hash menu id action
  others : ∀ id, ¬ Clickable [menu] id → actions id = none

theorem integerText_ne_root (nodeId : Int) : integerText nodeId ≠ "root".toList := by
  intro h
  have hmem : 'r' ∈ integerText nodeId := by
    rw [h]
    decide
  unfold integerText decimalText at hmem
  have hdigits : 'r' ∈ Nat.toDigits 10 nodeId.natAbs := by
    split_ifs at hmem
    · exact (List.mem_cons.mp hmem).resolve_left (by decide)
    · exact hmem
  have hdigit := Nat.isDigit_of_mem_toDigits (by decide) (by decide) hdigits
  exact absurd hdigit (by decide)

theorem faithful_of_menuForItem {answers : ItemAnswers} {title : Text}
    {result : TrayMenuNode × Actions} (h : menuForItem answers hash title = .ok result) :
    Faithful hash result.1 result.2 := by
  obtain ⟨menuPath, -, h⟩ := Checks.bind_eq_ok_iff.mp h
  split_ifs at h
  obtain ⟨layout, -, h⟩ := Checks.bind_eq_ok_iff.mp h
  obtain ⟨⟨children, parse⟩, hparse, h⟩ := Checks.bind_eq_ok_iff.mp h
  obtain rfl := Except.ok.inj h
  have hparsed := parsed_of_parseChildren hash menuPath layout 0 _ _ hparse
  have hroot : ∀ nodeId, nodeEntryId hash nodeId ≠ entryId hash "root".toList :=
    fun nodeId heq => integerText_ne_root nodeId (entryId_injective hash heq)
  refine ⟨fun id hid => ?_, fun id hid => ?_⟩
  · by_cases hsame : id = entryId hash "root".toList
    · exact ⟨.activate, by simp only [hsame, Function.update_self], Or.inl ⟨hsame, rfl⟩⟩
    · have hbelow : Clickable children id :=
        (clickable_singleton.mp hid).resolve_left fun hself => hsame hself.2.symm
      obtain ⟨nodeId, hentry, haction⟩ := hparsed.entries id hbelow
      refine ⟨.menu menuPath nodeId, ?_, Or.inr ⟨hsame, menuPath, nodeId, hentry, rfl⟩⟩
      simp only [Function.update_of_ne hsame]
      exact haction
  · obtain ⟨hself, hbelow⟩ := not_or.mp (mt clickable_singleton.mpr hid)
    have hne : id ≠ entryId hash "root".toList := fun hsame => hself ⟨rfl, hsame.symm⟩
    simp only [Function.update_of_ne hne]
    exact hparsed.others id hbelow

theorem faithful_fallbackMenu (hash : UInt64) (title : Text) :
    Faithful hash (fallbackMenu hash title).1 (fallbackMenu hash title).2 := by
  refine ⟨fun id hid => ?_, fun id hid => ?_⟩
  · have hself : entryId hash "activate".toList = id :=
      ((clickable_singleton.mp hid).resolve_right not_clickable_nil).2
    refine ⟨.activate, ?_, Or.inl ⟨hself.symm, rfl⟩⟩
    simp only [fallbackMenu, ← hself, Function.update_self]
  · have hne : id ≠ entryId hash "activate".toList := by
      rintro rfl
      exact hid (clickable_singleton.mpr (Or.inl ⟨rfl, rfl⟩))
    simp only [fallbackMenu, Function.update_of_ne hne]

theorem faithful_of_menuOrFallback {answers : ItemAnswers} {title : Text}
    {result : TrayMenuNode × Actions} (h : menuOrFallback answers hash title = .ok result) :
    Faithful hash result.1 result.2 := by
  unfold menuOrFallback at h
  cases hmenu : menuForItem answers hash title with
  | ok menu =>
      rw [hmenu] at h
      obtain rfl := Except.ok.inj h
      exact faithful_of_menuForItem hmenu
  | error e =>
      rw [hmenu] at h
      simp only at h
      split_ifs at h
      obtain rfl := Except.ok.inj h
      exact faithful_fallbackMenu hash title

end Menus

section Runs

variable {s s' : TrayRun} {targets : Targets} {items : List TrayItem} {item : TrayItem}

/-- What a shown item stands for. -/
structure Resolves (targets : Targets) (item : TrayItem) (service path : Text)
    (actions : Actions) : Prop where
  id : item.id = itemId (stableHash service path)
  target : targets item.id = some ⟨service, path, actions⟩
  menu : Faithful (stableHash service path) item.menu actions

/-- The targets are those of the items. -/
structure Matches (targets : Targets) (items : List TrayItem) : Prop where
  unique : (items.map (·.id)).Nodup
  resolves : ∀ item ∈ items, ∃ service path actions, Resolves targets item service path actions
  known : ∀ id, (targets id).isSome = true → id ∈ items.map (·.id)

theorem Matches.nil : Matches (fun _ => none) [] :=
  ⟨List.nodup_nil, fun _ h => (by cases h), fun _ h => (by cases h)⟩

/-- An item with a new identifier. -/
theorem Matches.push (h : Matches targets items) {service path title : Text}
    {menu : TrayMenuNode × Actions}
    (hfresh : targets (itemId (stableHash service path)) = none)
    (hmenu : Faithful (stableHash service path) menu.1 menu.2) :
    Matches
      (Function.update targets (itemId (stableHash service path)) (some ⟨service, path, menu.2⟩))
      (items ++ [⟨itemId (stableHash service path), title, menu.1⟩]) := by
  have hnew : itemId (stableHash service path) ∉ items.map (·.id) := by
    intro hmem
    obtain ⟨item, hitem, hid⟩ := List.mem_map.mp hmem
    obtain ⟨_, _, _, hresolves⟩ := h.resolves item hitem
    have htarget := hresolves.target
    rw [hid, hfresh] at htarget
    cases htarget
  refine ⟨?_, fun item hitem => ?_, fun id hid => ?_⟩
  · rw [List.map_append, List.nodup_append]
    refine ⟨h.unique, List.nodup_singleton _, ?_⟩
    rintro id hid _ hlast rfl
    have hsame : id = itemId (stableHash service path) := List.mem_singleton.mp hlast
    exact hnew (hsame ▸ hid)
  · rcases List.mem_append.mp hitem with hold | hlast
    · obtain ⟨service', path', actions, hresolves⟩ := h.resolves item hold
      refine ⟨service', path', actions, hresolves.id, ?_, hresolves.menu⟩
      have hne : item.id ≠ itemId (stableHash service path) :=
        fun heq => hnew (heq ▸ List.mem_map_of_mem hold)
      rw [Function.update_of_ne hne]
      exact hresolves.target
    · obtain rfl := List.mem_singleton.mp hlast
      exact ⟨service, path, menu.2, rfl, Function.update_self _ _ _, hmenu⟩
  · rw [List.map_append, List.mem_append]
    by_cases hsame : id = itemId (stableHash service path)
    · exact Or.inr (hsame ▸ List.mem_singleton_self _)
    · rw [Function.update_of_ne hsame] at hid
      exact Or.inl (h.known id hid)

theorem matches_of_probeItems {registrations : List (Text × ItemAnswers)}
    {result : Targets × List TrayItem} (hmatches : Matches targets items)
    (h : probeItems registrations targets items = .ok result) : Matches result.1 result.2 := by
  induction registrations generalizing targets items with
  | nil =>
      obtain rfl := Except.ok.inj h
      exact hmatches
  | cons first rest ih =>
      obtain ⟨registration, answers⟩ := first
      obtain ⟨⟨service, path⟩, -, h⟩ := Checks.bind_eq_ok_iff.mp h
      obtain ⟨title, -, h⟩ := Checks.bind_eq_ok_iff.mp h
      split_ifs at h
      obtain ⟨menu, hmenu, h⟩ := Checks.bind_eq_ok_iff.mp h
      cases hfresh : targets (itemId (stableHash service path)) with
      | some target =>
          simp only [hfresh] at h
          cases h
      | none =>
          simp only [hfresh] at h
          exact ih (hmatches.push hfresh (faithful_of_menuOrFallback hmenu)) h

theorem matches_of_probeUntil {answers : TrayAnswers} {result : Targets × List TrayItem}
    (h : probeUntil answers = .ok result) : Matches result.1 result.2 := by
  obtain ⟨registrations, -, h⟩ := Checks.bind_eq_ok_iff.mp h
  split_ifs at h
  obtain ⟨probed, hprobed, h⟩ := Checks.bind_eq_ok_iff.mp h
  obtain ⟨_, -, h⟩ := Checks.bind_eq_ok_iff.mp h
  obtain rfl := Except.ok.inj h
  exact matches_of_probeItems .nil hprobed

/-- What an entry of a shown item does when it is invoked. -/
def Meant (item : TrayItem) (entry : Text) (sent : TrayInvocation) : Prop :=
  ∃ service path, item.id = itemId (stableHash service path) ∧
    ((entry = item.menu.id ∧ sent = .activate service path) ∨
      entry ≠ item.menu.id ∧ ∃ menuPath nodeId,
        entry = nodeEntryId (stableHash service path) nodeId ∧ sent = .menu service menuPath nodeId)

/-- An enabled entry of an item that is shown, and what it does. -/
def Offered (items : List TrayItem) (itemKey entry : Text) (sent : TrayInvocation) : Prop :=
  ∃ item ∈ items, item.id = itemKey ∧ Clickable [item.menu] entry ∧ Meant item entry sent

/-- What an action sends. -/
theorem meant_of_acts {service path entry : Text} {actions : Actions} {action : MenuAction}
    (hresolves : Resolves targets item service path actions)
    (haction : actions entry = some action)
    (hacts : Acts (stableHash service path) item.menu entry action) :
    ∃ sent, invocation targets item.id entry = .ok sent ∧ Meant item entry sent := by
  unfold invocation
  rw [hresolves.target]
  simp only [haction]
  rcases hacts with ⟨hroot, rfl⟩ | ⟨hroot, menuPath, nodeId, hentry, rfl⟩
  · exact ⟨_, rfl, service, path, hresolves.id, Or.inl ⟨hroot, rfl⟩⟩
  · exact ⟨_, rfl, service, path, hresolves.id, Or.inr ⟨hroot, menuPath, nodeId, hentry, rfl⟩⟩

/-- An invocation that finds its target is that of an enabled entry. -/
theorem offered_of_invocation (h : Matches targets items) {itemKey entry : Text}
    {sent : TrayInvocation} (hsent : invocation targets itemKey entry = .ok sent) :
    Offered items itemKey entry sent := by
  cases htarget : targets itemKey with
  | none =>
      simp only [invocation, htarget] at hsent
      cases hsent
  | some target =>
      obtain ⟨item, hitem, rfl⟩ := List.mem_map.mp (h.known itemKey (by rw [htarget]; rfl))
      obtain ⟨service, path, actions, hresolves⟩ := h.resolves item hitem
      obtain rfl : target = ⟨service, path, actions⟩ :=
        Option.some.inj (htarget.symm.trans hresolves.target)
      by_cases hclickable : Clickable [item.menu] entry
      · obtain ⟨action, haction, hacts⟩ := hresolves.menu.entries entry hclickable
        obtain ⟨sent', hsent', hmeant⟩ := meant_of_acts hresolves haction hacts
        obtain rfl := Except.ok.inj (hsent.symm.trans hsent')
        exact ⟨item, hitem, rfl, hclickable, hmeant⟩
      · simp only [invocation, htarget, hresolves.menu.others entry hclickable] at hsent
        cases hsent

/-- What a client of the tray can count on. -/
structure TrayGuarantees (s : TrayRun) : Prop where
  /-- Identifiers of items are not shared. -/
  unique : (s.shown.map (·.id)).Nodup
  /-- Every enabled entry that is shown can be invoked. -/
  offered : ∀ item ∈ s.shown, ∀ entry, Clickable [item.menu] entry →
    ∃ sent, invocation s.targets item.id entry = .ok sent ∧ Meant item entry sent
  /-- Whatever went out was an enabled entry of the list shown at that time. -/
  clicked : ∀ click ∈ s.clicks, Offered click.shown click.item click.entry click.sent

/-- The step lemma. -/
theorem tray_step (hmatches : Matches s.targets s.shown)
    (hclicked : ∀ click ∈ s.clicks, Offered click.shown click.item click.entry click.sent)
    (e : TrayEvent) :
    Matches (s.after e).targets (s.after e).shown ∧
      ∀ click ∈ (s.after e).clicks, Offered click.shown click.item click.entry click.sent := by
  cases e with
  | probe answers =>
      cases hprobe : probeUntil answers with
      | error error =>
          simp only [TrayRun.after, hprobe]
          exact ⟨hmatches, hclicked⟩
      | ok result =>
          simp only [TrayRun.after, hprobe]
          exact ⟨matches_of_probeUntil hprobe, hclicked⟩
  | invoke itemKey entry =>
      cases hsent : invocation s.targets itemKey entry with
      | error error =>
          simp only [TrayRun.after, hsent]
          exact ⟨hmatches, hclicked⟩
      | ok sent =>
          simp only [TrayRun.after, hsent]
          exact ⟨hmatches, List.forall_mem_cons.mpr
            ⟨offered_of_invocation hmatches hsent, hclicked⟩⟩

/-- Over any run of probes and clicks, what is shown can be invoked and nothing else is. -/
theorem tray_clicks_reach_what_is_shown (h : traySystem.Reachable s) : TrayGuarantees s := by
  have hrun : Matches s.targets s.shown ∧
      ∀ click ∈ s.clicks, Offered click.shown click.item click.entry click.sent := by
    refine h.invariant (I := fun s => Matches s.targets s.shown ∧
      ∀ click ∈ s.clicks, Offered click.shown click.item click.entry click.sent) ?_ ?_
    · rintro s rfl
      exact ⟨.nil, fun _ hclick => (by cases hclick)⟩
    · rintro s e s' ⟨hmatches, hclicked⟩ rfl
      exact tray_step hmatches hclicked e
  obtain ⟨hmatches, hclicked⟩ := hrun
  refine ⟨hmatches.unique, fun item hitem entry hentry => ?_, hclicked⟩
  obtain ⟨service, path, actions, hresolves⟩ := hmatches.resolves item hitem
  obtain ⟨action, haction, hacts⟩ := hresolves.menu.entries entry hentry
  exact meant_of_acts hresolves haction hacts

end Runs

section Sample

/-- One item whose menu has an entry and a separator. -/
def sampleAnswers : TrayAnswers where
  registrations := .ok [("org.example.Tray".toList,
    ⟨.ok "Example".toList, .ok "/Menu".toList,
      .ok [.node (some 7) ⟨some "Open".toList, none⟩ [], .node (some 8) ⟨none, none⟩ []]⟩)]
  finished := .ok ()

def shownTray : TrayRun :=
  (⟨fun _ => none, [], []⟩ : TrayRun).after (.probe sampleAnswers)

def sampleHash : UInt64 :=
  stableHash "org.example.Tray".toList "/StatusNotifierItem".toList

/-- The entry is clicked. -/
def clickedTray : TrayRun :=
  shownTray.after (.invoke (itemId sampleHash) (nodeEntryId sampleHash 7))

theorem clickedTray_reachable : traySystem.Reachable clickedTray :=
  .step (e := .invoke (itemId sampleHash) (nodeEntryId sampleHash 7))
    (.step (e := .probe sampleAnswers) (.initial rfl) rfl) rfl

theorem tray_clicks_reach_what_is_shown_sample :
    clickedTray.clicks.map (·.sent) = [.menu "org.example.Tray".toList "/Menu".toList 7] ∧
      TrayGuarantees clickedTray :=
  ⟨by decide +kernel, tray_clicks_reach_what_is_shown clickedTray_reachable⟩

end Sample

end Tray
end SleepySession
