import SleepySession.Compositor.SnapshotRules
import SleepySession.Lib.Transition
import SleepySession.Store.IoError

/-!
# The tray

A probe turns the registered items and their menus into entries for the client
and remembers for each what it stands for.  An entry is invoked by its
identifiers alone.
-/

namespace SleepySession
namespace Tray

open Compositor (integerText)

section Model

inductive MenuAction where
  | activate
  | menu (path : Text) (nodeId : Int)
deriving DecidableEq, Repr

abbrev Actions :=
  Text → Option MenuAction

structure Target where
  service : Text
  path : Text
  actions : Actions

inductive TrayInvocation where
  | activate (service path : Text)
  | menu (service path : Text) (nodeId : Int)
deriving DecidableEq, Repr

/-- The SDK's `TrayMenuNode`. -/
structure TrayMenuNode where
  id : Text
  label : Text
  enabled : Bool
  children : List TrayMenuNode

/-- The SDK's `TrayItem`. -/
structure TrayItem where
  id : Text
  title : Text
  menu : TrayMenuNode

def invalid (message : String) : IoError :=
  ⟨.invalidData, message⟩

def isAsciiAlphanumeric (c : Char) : Bool :=
  c.isAlphanum

def validBusName (value : Text) : Bool :=
  !value.isEmpty && decide (value.byteLength ≤ 255) &&
    (value.head? == some ':' || value.contains '.') &&
    (splitParts '.' none (trimStartMatches (· == ':') value)).all fun component =>
      !component.isEmpty && component.head? != some '-' &&
        component.all fun c => isAsciiAlphanumeric c || c == '_' || c == '-'

def validObjectPath (value : Text) : Bool :=
  value.head? == some '/' && !decide (['/', '/'] <:+: value) &&
    value.all fun c => isAsciiAlphanumeric c || c == '/' || c == '_'

def splitRegistration (value : Text) : Except IoError (Text × Text) :=
  let service := value.takeWhile (· != '/')
  let path :=
    match value.dropWhile (· != '/') with
    | [] => "/StatusNotifierItem".toList
    | path => path
  if validBusName service && validObjectPath path then .ok (service, path)
  else .error (invalid "invalid StatusNotifierItem registration")

/-- `stable_hash` of a service and a path, whose characters are ASCII. -/
def stableHash (service path : Text) : UInt64 :=
  (service.map (·.toNat) ++ 0 :: path.map (·.toNat)).foldl
    (fun hash byte => (hash ^^^ UInt64.ofNat byte) * 0x100000001b3) 0xcbf29ce484222325

/-- A number of 64 bits with the format `016x`. -/
def hex16 (hash : UInt64) : Text :=
  let digits := Nat.toDigits 16 hash.toNat
  List.replicate (16 - digits.length) '0' ++ digits

def itemId (hash : UInt64) : Text :=
  "tray:".toList ++ hex16 hash

/-- The identifier of a menu entry. -/
def entryId (hash : UInt64) (entry : Text) : Text :=
  "tray-menu:".toList ++ hex16 hash ++ ':' :: entry

/-- What the properties of a node in the layout say. -/
structure MenuProperties where
  label : Option Text
  enabled : Option Int

/-- A node of the layout, as far as its fields can be read; a `none` is no number of 32 bits, and
children that are no list are none. -/
inductive MenuChild where
  | malformed
  /-- The third field is missing, or also the second. -/
  | short (nodeId : Option Int) (properties : Option MenuProperties)
  | node (nodeId : Option Int) (properties : MenuProperties) (children : List MenuChild)

/-- What `parse_children` has collected. -/
structure MenuParse where
  actions : Actions
  count : Nat

mutual

/-- One round of the loop in `parse_children`, at a depth that was allowed. -/
def parseChild (hash : UInt64) (path : Text) :
    MenuChild → Nat → MenuParse → Except IoError (Option TrayMenuNode × MenuParse)
  | .malformed, _, _ => .error (invalid "tray menu node malformed")
  | .short none _, _, _ => .error (invalid "tray menu node ID invalid")
  | .short (some _) none, _, _ => .error (invalid "tray menu properties omitted")
  | .short (some _) (some _), _, _ => .error (invalid "tray menu children omitted")
  | .node none _ _, _, _ => .error (invalid "tray menu node ID invalid")
  | .node (some nodeId) properties children, depth, parse =>
      let label := properties.label.getD []
      if label.all isWhiteSpace then .ok (none, parse)
      else if 65536 < parse.count + 1 then
        .error (invalid "tray menu node count exceeds 65536")
      else if 32 < depth + 1 then .error (invalid "tray menu nesting exceeds 32 levels")
      else
        match parseChildren hash path children (depth + 1)
            { parse with count := parse.count + 1 } with
        | .error e => .error e
        | .ok (nodes, inner) =>
            let id := entryId hash (integerText nodeId)
            let enabled := (properties.enabled.map (· != 0)).getD true
            .ok (some ⟨id, label, enabled, nodes⟩,
              if enabled then
                { inner with
                  actions := Function.update inner.actions id (some (.menu path nodeId)) }
              else inner)

/-- The loop in `parse_children`. -/
def parseChildren (hash : UInt64) (path : Text) :
    List MenuChild → Nat → MenuParse → Except IoError (List TrayMenuNode × MenuParse)
  | [], _, parse => .ok ([], parse)
  | child :: rest, depth, parse =>
      match parseChild hash path child depth parse with
      | .error e => .error e
      | .ok (node, inner) =>
          match parseChildren hash path rest depth inner with
          | .error e => .error e
          | .ok (nodes, outer) => .ok (node.toList ++ nodes, outer)

end

/-- The answers of one item, the errors of the connection and of the control among them. -/
structure ItemAnswers where
  title : Except IoError Text
  menuPath : Except IoError Text
  layout : Except IoError (List MenuChild)

def menuForItem (answers : ItemAnswers) (hash : UInt64) (title : Text) :
    Except IoError (TrayMenuNode × Actions) := do
  let menuPath ← answers.menuPath
  if menuPath = "/NO_DBUSMENU".toList then .error ⟨.notFound, "tray menu absent"⟩
  else do
    let layout ← answers.layout
    let (children, parse) ← parseChildren hash menuPath layout 0 ⟨fun _ => none, 1⟩
    let rootId := entryId hash "root".toList
    .ok (⟨rootId, title, true, children⟩, Function.update parse.actions rootId (some .activate))

def fallbackMenu (hash : UInt64) (title : Text) : TrayMenuNode × Actions :=
  let id := entryId hash "activate".toList
  (⟨id, title, true, []⟩, Function.update (fun _ => none) id (some .activate))

/-- The menu of an item, or an entry that activates it. -/
def menuOrFallback (answers : ItemAnswers) (hash : UInt64) (title : Text) :
    Except IoError (TrayMenuNode × Actions) :=
  match menuForItem answers hash title with
  | .ok menu => .ok menu
  | .error e => if e.kind = .notFound then .ok (fallbackMenu hash title) else .error e

abbrev Targets :=
  Text → Option Target

/-- The loop of `probe_until`. -/
def probeItems : List (Text × ItemAnswers) → Targets → List TrayItem →
    Except IoError (Targets × List TrayItem)
  | [], targets, items => .ok (targets, items)
  | (registration, answers) :: rest, targets, items => do
      let (service, path) ← splitRegistration registration
      let title ← answers.title
      if title.all isWhiteSpace then .error (invalid "StatusNotifierItem title is empty")
      else do
        let hash := stableHash service path
        let (menu, actions) ← menuOrFallback answers hash title
        match targets (itemId hash) with
        | some _ => .error (invalid "StatusNotifierItem stable ID collision")
        | none =>
            probeItems rest
              (Function.update targets (itemId hash) (some ⟨service, path, actions⟩))
              (items ++ [⟨itemId hash, title, menu⟩])

/-- What a probe is answered. -/
structure TrayAnswers where
  registrations : Except IoError (List (Text × ItemAnswers))
  /-- The last check of the control. -/
  finished : Except IoError Unit

def probeUntil (answers : TrayAnswers) : Except IoError (Targets × List TrayItem) := do
  let registrations ← answers.registrations
  if 1024 < registrations.length then
    .error (invalid "too many StatusNotifierItem registrations")
  else do
    let result ← probeItems registrations (fun _ => none) []
    answers.finished
    .ok result

def unknownTarget : IoError :=
  ⟨.invalidInput, "unknown tray menu target"⟩

def invocation (targets : Targets) (item entry : Text) : Except IoError TrayInvocation :=
  match targets item with
  | none => .error unknownTarget
  | some target =>
      match target.actions entry with
      | none => .error unknownTarget
      | some .activate => .ok (.activate target.service target.path)
      | some (.menu path nodeId) => .ok (.menu target.service path nodeId)

/-- An invocation that went out, with what was shown at that time. -/
structure Click where
  item : Text
  entry : Text
  shown : List TrayItem
  sent : TrayInvocation

/-- The service, with what the last probe that succeeded has returned and all clicks. -/
structure TrayRun where
  targets : Targets
  shown : List TrayItem
  clicks : List Click

inductive TrayEvent where
  /-- A probe is over; those of the refresh after an invocation too. -/
  | probe (answers : TrayAnswers)
  /-- `invoke_with` up to its transport. -/
  | invoke (item entry : Text)

def TrayRun.after (s : TrayRun) : TrayEvent → TrayRun
  | .probe answers =>
      match probeUntil answers with
      | .error _ => s
      | .ok (targets, items) => { s with targets := targets, shown := items }
  | .invoke item entry =>
      match invocation s.targets item entry with
      | .error _ => s
      | .ok sent => { s with clicks := ⟨item, entry, s.shown, sent⟩ :: s.clicks }

def traySystem : System TrayRun TrayEvent where
  initial s := s = ⟨fun _ => none, [], []⟩
  step s e s' := s' = s.after e

end Model

end Tray
end SleepySession
