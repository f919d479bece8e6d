import SleepySession.Lib.Run
import SleepySession.Lib.Table
import SleepySession.Overview.Channel

/-!
# The workspaces of the compositor

The supervisor of the compositor's event stream reads a line, derives an
overview event from it and then updates its map from workspaces to outputs,
which it rebuilds from every list of workspaces.  It leaves the list at the
first focused workspace, so the workspaces listed after that one are missing
until the next list.  A line that is too long or that one of the two parsers
refuses ends the stream and clears the map.  The JSON parser is a parameter.
-/

namespace SleepySession
namespace Sessiond

open Overview (OverviewEvent)

/-- `serde_json::Value`; of a number only its value as `u64` is kept. -/
inductive Value where
  | null
  | bool (b : Bool)
  | number (asU64 : Option Nat)
  | string (s : String)
  | array (items : List Value)
  | object (fields : List (String × Value))

namespace Value

/-- `Value::get` with a field name. -/
def get (name : String) : Value → Option Value
  | object fields => (fields.find? fun field => field.1 = name).map Prod.snd
  | _ => none

def asU64 : Value → Option Nat
  | number n => n
  | _ => none

def asStr : Value → Option String
  | string s => some s
  | _ => none

def asBool : Value → Option Bool
  | bool b => some b
  | _ => none

def asArray : Value → Option (List Value)
  | array items => some items
  | _ => none

end Value

/-- The list of a `WorkspacesChanged` message. -/
def workspaceList (value : Value) : Option (List Value) :=
  ((value.get "WorkspacesChanged").bind (Value.get "workspaces")).bind Value.asArray

/-- The id and the output of a well-formed workspace. -/
def workspaceEntry (workspace : Value) : Option (Nat × String) :=
  match (workspace.get "id").bind Value.asU64, (workspace.get "output").bind Value.asStr with
  | some id, some output => some (id, output)
  | _, _ => none

def isFocused (workspace : Value) : Bool :=
  (workspace.get "is_focused").bind Value.asBool == some true

/-- The loop over the list: it returns at the first focused workspace. -/
def collectWorkspaces :
    List Value → Table Nat String → Option String × Table Nat String
  | [], workspaces => (none, workspaces)
  | workspace :: rest, workspaces =>
      match workspaceEntry workspace with
      | none => collectWorkspaces rest workspaces
      | some (id, output) =>
          if isFocused workspace then (some output, workspaces.insert id output)
          else collectWorkspaces rest (workspaces.insert id output)

/-- The `WorkspaceActivated` part of a message with the focus. -/
def focusedActivation (value : Value) : Option Value :=
  (value.get "WorkspaceActivated").filter fun activated =>
    (activated.get "focused").bind Value.asBool == some true

/-- `parse_niri_event` after the JSON parser. -/
def parseNiriValue (value : Value) (workspaces : Table Nat String) :
    Except IoError (Option String) × Table Nat String :=
  match workspaceList value with
  | some items =>
      let (focused, workspaces) := collectWorkspaces items Table.empty
      (.ok focused, workspaces)
  | none =>
      match focusedActivation value with
      | none => (.ok none, workspaces)
      | some activated =>
          match (activated.get "id").bind Value.asU64 with
          | none => (.error ⟨.invalidData, "focused Niri workspace omitted id"⟩, workspaces)
          | some id => (.ok (workspaces.get? id), workspaces)

/-- `parse_niri_event`. -/
def parseNiriEvent
    (fromSlice : List UInt8 → Except String Value)
    (bytes : List UInt8) (workspaces : Table Nat String) :
    Except IoError (Option String) × Table Nat String :=
  match fromSlice bytes with
  | .error e => (.error ⟨.invalidData, e⟩, workspaces)
  | .ok value => parseNiriValue value workspaces

/-- What `parse_overview_event` keeps from one line to the next. -/
structure OverviewCursor where
  sequence : Nat
  focusedWorkspace : Nat
  focusedWindow : Option Nat
deriving DecidableEq, Repr

/-- The next sequence number; it saturates. -/
def OverviewCursor.advance (c : OverviewCursor) : OverviewCursor :=
  { c with sequence := min (c.sequence + 1) (2 ^ 64 - 1) }

/-- The first workspace of a list that has the focus, well formed or not. -/
def focusedListed (value : Value) : Option Value :=
  (workspaceList value).bind fun items => items.find? isFocused

/-- The focused window, as a message that changes it says. -/
def followWindow (value : Value) (c : OverviewCursor) : OverviewCursor :=
  match value.get "WindowFocusChanged" with
  | some focus => { c with focusedWindow := (focus.get "id").bind Value.asU64 }
  | none => c

/-- The end of `parse_overview_event`. -/
def reportFocus (value : Value) (workspaces : Table Nat String) (c : OverviewCursor) :
    Except IoError (Option OverviewEvent) × OverviewCursor :=
  match workspaces.get? c.focusedWorkspace with
  | none => (.ok none, c)
  | some outputId =>
      if (value.get "WindowFocusChanged").isSome || (value.get "WorkspaceActivated").isSome then
        (.ok (some (.focusChanged outputId c.focusedWindow c.focusedWorkspace
          c.advance.sequence)), c.advance)
      else (.ok none, c)

/-- `parse_overview_event` after its lists and closed windows. -/
def followFocus (value : Value) (workspaces : Table Nat String) (c : OverviewCursor) :
    Except IoError (Option OverviewEvent) × OverviewCursor :=
  let c := followWindow value c
  match focusedActivation value with
  | none => reportFocus value workspaces c
  | some activated =>
      match (activated.get "id").bind Value.asU64 with
      | none => (.error ⟨.invalidData, "focused Niri workspace omitted id"⟩, c)
      | some id => reportFocus value workspaces { c with focusedWorkspace := id }

/-- `parse_overview_event` after the JSON parser. -/
def parseOverviewValue (value : Value) (workspaces : Table Nat String) (c : OverviewCursor) :
    Except IoError (Option OverviewEvent) × OverviewCursor :=
  match focusedListed value with
  | some workspace =>
      match (workspace.get "id").bind Value.asU64 with
      | none => (.error ⟨.invalidData, "focused Niri workspace omitted id"⟩, c)
      | some id =>
          let c := { c with focusedWorkspace := id }
          match (workspace.get "output").bind Value.asStr with
          | none => (.error ⟨.invalidData, "focused Niri workspace omitted output"⟩, c)
          | some outputId =>
              (.ok (some (.focusChanged outputId c.focusedWindow id c.advance.sequence)),
                c.advance)
  | none =>
      match value.get "WindowClosed" with
      | none => followFocus value workspaces c
      | some closed =>
          match (closed.get "id").bind Value.asU64 with
          | none => (.error ⟨.invalidData, "Niri WindowClosed omitted id"⟩, c)
          | some windowId =>
              (.ok (some (.windowClosed windowId c.advance.sequence)), c.advance)

/-- `parse_overview_event`. -/
def parseOverviewEvent
    (fromSlice : List UInt8 → Except String Value)
    (bytes : List UInt8) (workspaces : Table Nat String) (c : OverviewCursor) :
    Except IoError (Option OverviewEvent) × OverviewCursor :=
  match fromSlice bytes with
  | .error e => (.error ⟨.invalidData, e⟩, c)
  | .ok value => parseOverviewValue value workspaces c

def maxEventLine : Nat :=
  64 * 1024

/-- `read_bounded_line` on a line of the stream, in whatever pieces it arrives. -/
def readBoundedLine (line : List UInt8) : Except IoError (List UInt8) :=
  if maxEventLine < line.length then .error ⟨.invalidData, "event line exceeded 64 KiB"⟩
  else .ok line

/-- `run_niri_source` over one stream. -/
structure NiriSource where
  workspaces : Table Nat String
  cursor : OverviewCursor
  focusedOutput : Option String

namespace NiriSource

/-- A new stream; the sequence numbers go on. -/
def start (sequence : Nat) : NiriSource where
  workspaces := Table.empty
  cursor := ⟨sequence, 0, none⟩
  focusedOutput := none

/-- The stream has ended: the overview is told and the next one begins. -/
def stop (cursor : OverviewCursor) : NiriSource :=
  start cursor.advance.sequence

/-- The body of the loop on a line: the output it reports, or the end of the stream. -/
def handle (fromSlice : List UInt8 → Except String Value) (s : NiriSource) (bytes : List UInt8) :
    Except NiriSource (Option String × NiriSource) :=
  match readBoundedLine bytes with
  | .error _ => .error (stop s.cursor)
  | .ok line =>
      match parseOverviewEvent fromSlice line s.workspaces s.cursor with
      | (.error _, cursor) => .error (stop cursor)
      | (.ok _, cursor) =>
          match parseNiriEvent fromSlice line s.workspaces with
          | (.error _, _) => .error (stop cursor)
          | (.ok output, workspaces) =>
              .ok (output, ⟨workspaces, cursor, output.or s.focusedOutput⟩)

end NiriSource

/-- What a message found listed, and what was reported for it. -/
structure Handled where
  value : Value
  known : Option (List Value)
  report : Option String

/-- The source with the last list and the last message. -/
structure NiriTracker where
  source : NiriSource
  /-- The list of the last `WorkspacesChanged` message, unless the stream has ended since. -/
  listed : Option (List Value)
  handled : Option Handled

namespace NiriTracker

inductive Event where
  | message (bytes : List UInt8)
  /-- The stream ends or fails and a new one begins. -/
  | restart

/-- The record is taken from the message alone, and from whether the stream goes on. -/
def after (fromSlice : List UInt8 → Except String Value) (s : NiriTracker) :
    Event → Option NiriTracker
  | .restart => some ⟨.stop s.source.cursor, none, none⟩
  | .message bytes =>
      let value := (fromSlice bytes).toOption
      let listed := value.bind workspaceList
      match s.source.handle fromSlice bytes with
      | .ok (output, source) =>
          some ⟨source, listed.or s.listed, value.map fun value => ⟨value, s.listed, output⟩⟩
      | .error source => some ⟨source, listed, value.map fun value => ⟨value, s.listed, none⟩⟩

def start : NiriTracker where
  source := .start 0
  listed := none
  handled := none

/-- All message sequences, over any number of streams. -/
def system (fromSlice : List UInt8 → Except String Value) : System NiriTracker Event :=
  .ofStep (fun s => s = start) (after fromSlice)

end NiriTracker

section Completeness

/-- The output that a list of workspaces gives for an id; the last entry counts. -/
def listedOutput (items : List Value) (id : Nat) : Option String :=
  ((items.filterMap workspaceEntry).reverse.find? fun entry => entry.1 = id).map Prod.snd

/-- The list up to its first focused well-formed workspace. -/
def upToFocus : List Value → List Value
  | [] => []
  | workspace :: rest =>
      if (workspaceEntry workspace).isSome && isFocused workspace then [workspace]
      else workspace :: upToFocus rest

/-- What is listed after the focused workspace repeats what was listed up to it. -/
def NothingNewAfterFocus (items : List Value) : Prop :=
  ∀ id, listedOutput (upToFocus items) id = listedOutput items id

theorem listedOutput_nil (id : Nat) : listedOutput [] id = none :=
  rfl

theorem listedOutput_cons (workspace : Value) (rest : List Value) (id : Nat) :
    listedOutput (workspace :: rest) id =
      (listedOutput rest id).or
        (((workspaceEntry workspace).filter fun entry => entry.1 = id).map Prod.snd) := by
  unfold listedOutput
  cases hentry : workspaceEntry workspace with
  | none => simp [hentry]
  | some entry =>
      simp only [List.filterMap_cons, hentry, List.reverse_cons, List.find?_append,
        Option.map_or]
      by_cases hid : entry.1 = id <;> simp [hid, Option.filter]

/-- The loop adds the list up to the focused workspace to the map. -/
theorem get?_collectWorkspaces (items : List Value) (workspaces : Table Nat String) (id : Nat) :
    (collectWorkspaces items workspaces).2.get? id =
      (listedOutput (upToFocus items) id).or (workspaces.get? id) := by
  induction items generalizing workspaces with
  | nil => simp [collectWorkspaces, upToFocus, listedOutput_nil]
  | cons workspace rest ih =>
      cases hentry : workspaceEntry workspace with
      | none =>
          simp [collectWorkspaces, upToFocus, listedOutput_cons, hentry, ih]
      | some entry =>
          by_cases hfocused : isFocused workspace <;> by_cases hid : entry.1 = id
          · simp [collectWorkspaces, upToFocus, listedOutput_cons, listedOutput_nil, hentry,
              hfocused, hid, Option.filter]
          · simp [collectWorkspaces, upToFocus, listedOutput_cons, listedOutput_nil, hentry,
              hfocused, hid, Ne.symm hid, Option.filter]
          · simp [collectWorkspaces, upToFocus, listedOutput_cons, hentry, hfocused, hid, ih,
              Option.filter]
          · simp [collectWorkspaces, upToFocus, listedOutput_cons, hentry, hfocused, hid, ih,
              Ne.symm hid, Option.filter]

/-- A list is taken over completely exactly when nothing new follows the focused workspace. -/
theorem collects_all_iff (items : List Value) :
    (∀ id, (collectWorkspaces items Table.empty).2.get? id = listedOutput items id) ↔
      NothingNewAfterFocus items := by
  simp [get?_collectWorkspaces, NothingNewAfterFocus]

theorem listedOutput_eq_none_iff {items : List Value} {id : Nat} :
    listedOutput items id = none ↔
      ∀ item ∈ items, ∀ entry, workspaceEntry item = some entry → entry.1 ≠ id := by
  simp only [listedOutput, Option.map_eq_none_iff, List.find?_eq_none, List.mem_reverse,
    List.mem_filterMap, decide_eq_true_eq]
  exact ⟨fun h item hitem entry hentry => h entry ⟨item, hitem, hentry⟩,
    fun h entry ⟨item, hitem, hentry⟩ => h item hitem entry hentry⟩

theorem upToFocus_subset (items : List Value) : upToFocus items ⊆ items := by
  induction items with
  | nil => simp [upToFocus]
  | cons workspace rest ih =>
      unfold upToFocus
      split
      · simp
      · exact List.cons_subset_cons _ ih

/-- A list that gives no output says nothing new anywhere. -/
theorem nothingNew_of_none {items : List Value} (h : ∀ id, listedOutput items id = none) :
    NothingNewAfterFocus items := by
  intro id
  rw [h id, listedOutput_eq_none_iff]
  exact fun item hitem => listedOutput_eq_none_iff.mp (h id) item (upToFocus_subset items hitem)

end Completeness

section Acceptance

variable {fromSlice : List UInt8 → Except String Value}

/--
The overview finds what it needs: the first listed workspace with the focus has
an id and an output; without one, a closed window has an id, and if no window is
closed a focused activation has one.
-/
def OverviewAccepts (value : Value) : Prop :=
  match focusedListed value with
  | some workspace => (workspaceEntry workspace).isSome
  | none =>
      match value.get "WindowClosed" with
      | some closed => ((closed.get "id").bind Value.asU64).isSome
      | none => ∀ activated, focusedActivation value = some activated →
          ((activated.get "id").bind Value.asU64).isSome

/-- The line is read and the overview accepts it. -/
def StaysInStream (bytes : List UInt8) (value : Value) : Prop :=
  bytes.length ≤ maxEventLine ∧ OverviewAccepts value

theorem reportFocus_isOk (value : Value) (workspaces : Table Nat String) (c : OverviewCursor) :
    (reportFocus value workspaces c).1.isOk = true := by
  unfold reportFocus
  split
  · rfl
  · split <;> rfl

theorem followFocus_isOk (value : Value) (workspaces : Table Nat String) (c : OverviewCursor) :
    (followFocus value workspaces c).1.isOk = true ↔
      ∀ activated, focusedActivation value = some activated →
        ((activated.get "id").bind Value.asU64).isSome := by
  unfold followFocus
  cases hactivated : focusedActivation value with
  | none => exact iff_of_true (reportFocus_isOk _ _ _) nofun
  | some activated =>
      cases hid : (activated.get "id").bind Value.asU64 with
      | none =>
          refine iff_of_false ?_ fun h => ?_
          · simp [hid, Except.isOk, Except.toBool]
          · have hsome := h activated rfl
            rw [hid] at hsome
            cases hsome
      | some id =>
          refine iff_of_true ?_ fun activated' h => ?_
          · simp only [hid]
            exact reportFocus_isOk _ _ _
          · cases h
            rw [hid]
            rfl

theorem parseOverviewValue_isOk
    (value : Value) (workspaces : Table Nat String) (c : OverviewCursor) :
    (parseOverviewValue value workspaces c).1.isOk = true ↔ OverviewAccepts value := by
  unfold parseOverviewValue OverviewAccepts
  cases focusedListed value with
  | some workspace =>
      unfold workspaceEntry
      cases hid : (workspace.get "id").bind Value.asU64 with
      | none => simp [hid, Except.isOk, Except.toBool]
      | some id =>
          cases houtput : (workspace.get "output").bind Value.asStr <;>
            simp [hid, houtput, Except.isOk, Except.toBool]
  | none =>
      cases value.get "WindowClosed" with
      | none => exact followFocus_isOk value workspaces c
      | some closed =>
          simp only
          cases (closed.get "id").bind Value.asU64 <;> simp [Except.isOk, Except.toBool]

namespace NiriSource

variable {s : NiriSource} {bytes : List UInt8} {value : Value}

theorem readBoundedLine_eq_ok (h : bytes.length ≤ maxEventLine) :
    readBoundedLine bytes = .ok bytes :=
  if_neg (Nat.not_lt.mpr h)

/-- A line that stays in the stream is left to the second parser. -/
theorem handle_of_stays
    (hvalue : fromSlice bytes = .ok value) (hstays : StaysInStream bytes value)
    {output : Option String} {workspaces : Table Nat String}
    (hparse : parseNiriValue value s.workspaces = (.ok output, workspaces)) :
    ∃ source, s.handle fromSlice bytes = .ok (output, source) ∧
      source.workspaces = workspaces := by
  have haccepts := (parseOverviewValue_isOk value s.workspaces s.cursor).mpr hstays.2
  unfold handle parseOverviewEvent parseNiriEvent
  simp only [readBoundedLine_eq_ok hstays.1, hvalue, hparse]
  rcases hoverview : parseOverviewValue value s.workspaces s.cursor with ⟨e | event, cursor⟩
  · rw [hoverview] at haccepts
    cases haccepts
  · exact ⟨_, rfl, rfl⟩

/-- Any other line ends the stream. -/
theorem handle_of_leaves
    (hvalue : fromSlice bytes = .ok value)
    (hleaves : ¬ StaysInStream bytes value ∨ (parseNiriValue value s.workspaces).1.isOk = false) :
    ∃ cursor, s.handle fromSlice bytes = .error (stop cursor) := by
  unfold handle
  by_cases hlength : bytes.length ≤ maxEventLine
  · simp only [readBoundedLine_eq_ok hlength, parseOverviewEvent, parseNiriEvent, hvalue]
    have haccepts := parseOverviewValue_isOk value s.workspaces s.cursor
    rcases hoverview : parseOverviewValue value s.workspaces s.cursor with ⟨e | event, cursor⟩
    · exact ⟨_, rfl⟩
    · rw [hoverview] at haccepts
      rcases hleaves with hleaves | hrefused
      · exact absurd ⟨hlength, haccepts.mp rfl⟩ hleaves
      · rcases hparse : parseNiriValue value s.workspaces with ⟨e | output, workspaces⟩
        · exact ⟨_, rfl⟩
        · rw [hparse] at hrefused
          cases hrefused
  · rw [readBoundedLine, if_pos (Nat.not_le.mp hlength)]
    exact ⟨_, rfl⟩

theorem handle_of_unparsed {e : String} (herror : fromSlice bytes = .error e) :
    ∃ cursor, s.handle fromSlice bytes = .error (stop cursor) := by
  unfold handle
  by_cases hlength : bytes.length ≤ maxEventLine
  · simp only [readBoundedLine_eq_ok hlength, parseOverviewEvent, herror]
    exact ⟨_, rfl⟩
  · rw [readBoundedLine, if_pos (Nat.not_le.mp hlength)]
    exact ⟨_, rfl⟩

end NiriSource

end Acceptance

section Runs

variable {fromSlice : List UInt8 → Except String Value}

/-- The message activates the workspace `id` with the focus. -/
def Activates (value : Value) (id : Nat) : Prop :=
  workspaceList value = none ∧ ∃ activated, focusedActivation value = some activated ∧
    (activated.get "id").bind Value.asU64 = some id

theorem parseNiriValue_of_list
    {value : Value} {items : List Value} (hitems : workspaceList value = some items)
    (workspaces : Table Nat String) :
    parseNiriValue value workspaces =
      (.ok (collectWorkspaces items Table.empty).1,
        (collectWorkspaces items Table.empty).2) := by
  simp [parseNiriValue, hitems]

theorem parseNiriValue_of_activates
    {value : Value} {id : Nat} (h : Activates value id) (workspaces : Table Nat String) :
    parseNiriValue value workspaces = (.ok (workspaces.get? id), workspaces) := by
  obtain ⟨hnone, activated, hactivated, hid⟩ := h
  simp [parseNiriValue, hnone, hactivated, hid]

/-- Without a list the map stays as it is. -/
theorem parseNiriValue_frame
    {value : Value} (hnone : workspaceList value = none) (workspaces : Table Nat String) :
    (parseNiriValue value workspaces).2 = workspaces := by
  unfold parseNiriValue
  rw [hnone]
  simp only
  split
  · rfl
  · split <;> rfl

namespace NiriTracker

/-- The map is the last list, and a focused workspace of the list is reported. -/
structure Tracks (s : NiriTracker) : Prop where
  complete : ∀ items, s.listed = some items →
    ∀ id, s.source.workspaces.get? id = listedOutput items id
  reported : ∀ handled, s.handled = some handled → ∀ id, Activates handled.value id →
    ∀ items output, handled.known = some items → listedOutput items id = some output →
      handled.report = some output

/--
A list that has a well-formed workspace stays in the stream and says nothing new
after its focused workspace; an activation of a listed workspace stays in the
stream.
-/
def Tracked (fromSlice : List UInt8 → Except String Value) (s : NiriTracker) : Event → Prop
  | .message bytes => ∀ value, fromSlice bytes = .ok value →
      (∀ items, workspaceList value = some items → NothingNewAfterFocus items ∧
        ((∃ id output, listedOutput items id = some output) → StaysInStream bytes value)) ∧
      ∀ id, Activates value id → ∀ items output, s.listed = some items →
        listedOutput items id = some output → StaysInStream bytes value
  | .restart => True

variable {s s' : NiriTracker} {bytes : List UInt8} {value : Value}

theorem tracks_start : start.Tracks where
  complete items h := by cases h
  reported handled h := by cases h

/-- What is on record after a message that is JSON. -/
theorem after_record (hvalue : fromSlice bytes = .ok value)
    (h : s.after fromSlice (.message bytes) = some s') :
    (∃ output, s.source.handle fromSlice bytes = .ok (output, s'.source) ∧
      s'.listed = (workspaceList value).or s.listed ∧
      s'.handled = some ⟨value, s.listed, output⟩) ∨
    (s.source.handle fromSlice bytes = .error s'.source ∧ s'.listed = workspaceList value ∧
      s'.handled = some ⟨value, s.listed, none⟩) := by
  simp only [after, hvalue, Except.toOption, Option.bind_some, Option.map_some] at h
  split at h
  · rename_i output source hhandle
    cases h
    exact Or.inl ⟨output, hhandle, rfl, rfl⟩
  · rename_i source hhandle
    cases h
    exact Or.inr ⟨hhandle, rfl, rfl⟩

/-- A message that is not JSON ends the stream, and nothing is on record. -/
theorem tracks_of_unparsed {e : String} (herror : fromSlice bytes = .error e)
    (h : s.after fromSlice (.message bytes) = some s') : s'.Tracks := by
  obtain ⟨cursor, hhandle⟩ := s.source.handle_of_unparsed herror
  simp only [after, herror, hhandle, Except.toOption, Option.bind_none, Option.map_none,
    Option.some.injEq] at h
  rw [← h]
  exact ⟨nofun, nofun⟩

/-- The step of a message that stays in the stream and is a list. -/
theorem tracks_of_list_iff {items : List Value} (hvalue : fromSlice bytes = .ok value)
    (hstays : StaysInStream bytes value) (hitems : workspaceList value = some items)
    (h : s.after fromSlice (.message bytes) = some s') :
    s'.Tracks ↔ NothingNewAfterFocus items := by
  obtain ⟨source, hhandle, hworkspaces⟩ := s.source.handle_of_stays hvalue hstays
    (parseNiriValue_of_list hitems s.source.workspaces)
  obtain ⟨output, hsource, hlisted, hhandled⟩ | ⟨hsource, -, -⟩ := after_record hvalue h
  · rw [hhandle] at hsource
    cases hsource
    rw [hitems, Option.some_or] at hlisted
    rw [← collects_all_iff, ← hworkspaces]
    refine ⟨fun htracks => htracks.complete items hlisted, fun hall => ⟨?_, ?_⟩⟩
    · intro items' hitems'
      rw [hlisted] at hitems'
      cases hitems'
      exact hall
    · intro handled hhandled' id hactivates
      rw [hhandled] at hhandled'
      cases hhandled'
      have hnone : workspaceList value = none := hactivates.1
      rw [hitems] at hnone
      cases hnone
  · rw [hhandle] at hsource
    cases hsource

/-- The step of a message that ends the stream. -/
theorem tracks_of_leaves_iff (hvalue : fromSlice bytes = .ok value)
    {cursor : OverviewCursor}
    (hhandle : s.source.handle fromSlice bytes = .error (.stop cursor))
    (h : s.after fromSlice (.message bytes) = some s') :
    s'.Tracks ↔
      (∀ items, workspaceList value = some items → ∀ id, listedOutput items id = none) ∧
      ∀ id, Activates value id → ∀ items output, s.listed = some items →
        listedOutput items id ≠ some output := by
  obtain ⟨output, hsource, -, -⟩ | ⟨hsource, hlisted, hhandled⟩ := after_record hvalue h
  · rw [hhandle] at hsource
    cases hsource
  rw [hhandle] at hsource
  have hempty : ∀ id, s'.source.workspaces.get? id = none := by
    intro id
    rw [← Except.error.inj hsource]
    exact Table.get?_empty
  constructor
  · intro htracks
    refine ⟨fun items hitems id => ?_, fun id hactivates items output hitems houtput => ?_⟩
    · rw [← htracks.complete items (hlisted.trans hitems), hempty]
    · cases htracks.reported _ hhandled id hactivates items output hitems houtput
  · intro ⟨hlists, hactivations⟩
    refine ⟨fun items hitems id => ?_, fun handled hhandled' id hactivates items output hitems
      houtput => ?_⟩
    · rw [hempty, hlists items (hlisted.symm.trans hitems)]
    · rw [hhandled] at hhandled'
      cases hhandled'
      exact absurd houtput (hactivations id hactivates items output hitems)

/-- The step of a message that stays in the stream and is no list. -/
theorem tracks_of_stays (hs : s.Tracks) (hvalue : fromSlice bytes = .ok value)
    (hstays : StaysInStream bytes value) (hnone : workspaceList value = none)
    (h : s.after fromSlice (.message bytes) = some s') : s'.Tracks := by
  rcases hparse : parseNiriValue value s.source.workspaces with ⟨e | report, workspaces⟩
  · obtain ⟨cursor, hhandle⟩ := s.source.handle_of_leaves hvalue
      (Or.inr (by rw [hparse]; rfl))
    refine (tracks_of_leaves_iff hvalue hhandle h).mpr ⟨fun items hitems => ?_, fun id
      hactivates => ?_⟩
    · rw [hnone] at hitems
      cases hitems
    · rw [parseNiriValue_of_activates hactivates] at hparse
      cases hparse
  · obtain ⟨source, hhandle, hworkspaces⟩ := s.source.handle_of_stays hvalue hstays hparse
    have hframe : workspaces = s.source.workspaces := by
      simpa [hparse] using parseNiriValue_frame hnone s.source.workspaces
    obtain ⟨output, hsource, hlisted, hhandled⟩ | ⟨hsource, -, -⟩ := after_record hvalue h
    · rw [hhandle] at hsource
      cases hsource
      rw [hnone, Option.none_or] at hlisted
      refine ⟨fun items hitems id => ?_, fun handled hhandled' id hactivates items out hitems
        hout => ?_⟩
      · rw [hworkspaces, hframe]
        exact hs.complete items (hlisted.symm.trans hitems) id
      · rw [hhandled] at hhandled'
        cases hhandled'
        rw [parseNiriValue_of_activates hactivates] at hparse
        cases hparse
        rw [hs.complete items hitems id]
        exact hout
    · rw [hhandle] at hsource
      cases hsource

/-- A message keeps the source on track exactly if it meets the condition. -/
theorem tracks_after_iff (hs : s.Tracks)
    (h : s.after fromSlice (.message bytes) = some s') :
    s'.Tracks ↔ Tracked fromSlice s (.message bytes) := by
  cases hvalue : fromSlice bytes with
  | error e =>
      refine iff_of_true (tracks_of_unparsed hvalue h) fun value h => ?_
      rw [hvalue] at h
      cases h
  | ok value =>
      have htracked : Tracked fromSlice s (.message bytes) ↔
          (∀ items, workspaceList value = some items → NothingNewAfterFocus items ∧
            ((∃ id output, listedOutput items id = some output) →
              StaysInStream bytes value)) ∧
          ∀ id, Activates value id → ∀ items output, s.listed = some items →
            listedOutput items id = some output → StaysInStream bytes value := by
        simp [Tracked, hvalue]
      rw [htracked]
      by_cases hstays : StaysInStream bytes value
      · cases hitems : workspaceList value with
        | none =>
            exact iff_of_true (tracks_of_stays hs hvalue hstays hitems h)
              ⟨nofun, fun _ _ _ _ _ _ => hstays⟩
        | some items =>
            rw [tracks_of_list_iff hvalue hstays hitems h]
            refine ⟨fun hnew => ⟨fun items' hitems' => ?_, fun _ _ _ _ _ _ => hstays⟩,
              fun h => (h.1 items rfl).1⟩
            cases hitems'
            exact ⟨hnew, fun _ => hstays⟩
      · obtain ⟨cursor, hhandle⟩ := s.source.handle_of_leaves hvalue (Or.inl hstays)
        rw [tracks_of_leaves_iff hvalue hhandle h]
        constructor
        · intro ⟨hlists, hactivations⟩
          refine ⟨fun items hitems => ⟨nothingNew_of_none (hlists items hitems), ?_⟩, ?_⟩
          · rintro ⟨id, output, houtput⟩
            rw [hlists items hitems id] at houtput
            cases houtput
          · exact fun id hactivates items output hitems houtput =>
              absurd houtput (hactivations id hactivates items output hitems)
        · intro ⟨hlists, hactivations⟩
          refine ⟨fun items hitems id => ?_, fun id hactivates items output hitems houtput =>
            hstays (hactivations id hactivates items output hitems houtput)⟩
          cases houtput : listedOutput items id with
          | none => rfl
          | some output => exact absurd ((hlists items hitems).2 ⟨id, output, houtput⟩) hstays

/--
In every run whose messages meet the condition, the map is the last list and
activations are reported from it; any other message leaves the map incomplete
or its activation unreported.
-/
theorem workspaces_tracked {fromSlice : List UInt8 → Except String Value} {s : NiriTracker}
    (h : ((system fromSlice).restrict (Tracked fromSlice)).Reachable s) :
    s.Tracks ∧
      ∀ bytes s', s.after fromSlice (.message bytes) = some s' →
        (s'.Tracks ↔ Tracked fromSlice s (.message bytes)) := by
  have hs : s.Tracks := by
    refine h.invariant (fun s hs => ?_) (fun s e s' hs hstep => ?_)
    · rw [show s = start from hs]
      exact tracks_start
    · cases e with
      | restart =>
          cases hstep.2
          exact ⟨nofun, nofun⟩
      | message bytes => exact (tracks_after_iff hs hstep.2).mpr hstep.1
  exact ⟨hs, fun bytes s' hafter => tracks_after_iff hs hafter⟩

end NiriTracker

end Runs

section Sample

namespace NiriTracker

def workspace (id : Nat) (output : String) (focused : Bool) : Value :=
  .object [("id", .number (some id)), ("output", .string output), ("is_focused", .bool focused)]

def changed (items : List Value) : Value :=
  .object [("WorkspacesChanged", .object [("workspaces", .array items)])]

def activated (id : Nat) : Value :=
  .object [("WorkspaceActivated", .object [("id", .number (some id)), ("focused", .bool true)])]

def line (text : String) : List UInt8 :=
  text.toList.map fun c => UInt8.ofNat c.toNat

def focusFirst : List UInt8 :=
  line ("\x7b\"WorkspacesChanged\":\x7b\"workspaces\":[" ++
    "\x7b\"id\":7,\"output\":\"DP-1\",\"is_focused\":true\x7d," ++
    "\x7b\"id\":8,\"output\":\"DP-2\",\"is_focused\":false\x7d]\x7d\x7d")

def focusLast : List UInt8 :=
  line ("\x7b\"WorkspacesChanged\":\x7b\"workspaces\":[" ++
    "\x7b\"id\":8,\"output\":\"DP-2\",\"is_focused\":false\x7d," ++
    "\x7b\"id\":7,\"output\":\"DP-1\",\"is_focused\":true\x7d]\x7d\x7d")

def activateSecond : List UInt8 :=
  line "\x7b\"WorkspaceActivated\":\x7b\"id\":8,\"focused\":true\x7d\x7d"

/-- The JSON parser on the three lines. -/
def sampleParser (bytes : List UInt8) : Except String Value :=
  if bytes = focusFirst then .ok (changed [workspace 7 "DP-1" true, workspace 8 "DP-2" false])
  else if bytes = focusLast then
    .ok (changed [workspace 8 "DP-2" false, workspace 7 "DP-1" true])
  else if bytes = activateSecond then .ok (activated 8)
  else .error "expected value at line 1 column 1"

theorem focusLast_ne_focusFirst : focusLast ≠ focusFirst := by
  simp only [focusLast, focusFirst, line, String.toList_append, List.map_append,
    List.append_assoc]
  intro h
  -- the lines begin alike, and comparing the rest is cheaper
  have hrest := List.append_cancel_left h
  revert hrest
  rw [String.toList, String.toList]
  decide

theorem length_focusLast : focusLast.length = focusFirst.length := by
  simp only [focusLast, focusFirst, line, List.length_map, String.length_toList,
    String.length_append]
  decide

theorem length_activateSecond : activateSecond.length < focusFirst.length := by
  simp only [activateSecond, focusFirst, line, List.length_map, String.length_toList,
    String.length_append]
  decide

theorem sampleParser_focusLast :
    sampleParser focusLast = .ok (changed [workspace 8 "DP-2" false, workspace 7 "DP-1" true]) := by
  rw [sampleParser, if_neg focusLast_ne_focusFirst, if_pos rfl]

theorem sampleParser_activateSecond : sampleParser activateSecond = .ok (activated 8) := by
  have hfirst : activateSecond ≠ focusFirst :=
    fun h => length_activateSecond.ne (congrArg List.length h)
  have hlast : activateSecond ≠ focusLast :=
    fun h => (length_activateSecond.trans_eq length_focusLast.symm).ne (congrArg List.length h)
  rw [sampleParser, if_neg hfirst, if_neg hlast, if_pos rfl]

theorem length_focusFirst : focusFirst.length ≤ maxEventLine := by
  simp only [focusFirst, line, List.length_map, String.length_toList, String.length_append]
  decide

theorem after_stays {fromSlice : List UInt8 → Except String Value} {s : NiriTracker}
    {bytes : List UInt8} {value : Value} {output : Option String}
    {workspaces : Table Nat String} (hvalue : fromSlice bytes = .ok value)
    (hstays : StaysInStream bytes value)
    (hparse : parseNiriValue value s.source.workspaces = (.ok output, workspaces)) :
    ∃ source, source.workspaces = workspaces ∧
      s.after fromSlice (.message bytes) =
        some ⟨source, (workspaceList value).or s.listed, some ⟨value, s.listed, output⟩⟩ := by
  obtain ⟨source, hhandle, hworkspaces⟩ := s.source.handle_of_stays hvalue hstays hparse
  refine ⟨source, hworkspaces, ?_⟩
  simp [after, hhandle, hvalue, Except.toOption]

/-- With the focus at the end of the list the second output is known. -/
theorem workspaces_tracked_focusLast :
    ∃ s, (system sampleParser).Reachable s ∧ s.source.workspaces.get? 8 = some "DP-2" := by
  have hstays : StaysInStream focusLast
      (changed [workspace 8 "DP-2" false, workspace 7 "DP-1" true]) :=
    ⟨length_focusLast.trans_le length_focusFirst, rfl⟩
  obtain ⟨source, -, hstep⟩ :=
    @after_stays sampleParser start focusLast _ _ _ sampleParser_focusLast hstays rfl
  have htracked : Tracked sampleParser start (.message focusLast) := by
    intro value hvalue
    rw [sampleParser_focusLast] at hvalue
    cases hvalue
    refine ⟨fun items hitems => ⟨?_, fun _ => hstays⟩, fun _ _ _ _ _ _ => hstays⟩
    cases hitems
    exact fun id => rfl
  have htracks := (workspaces_tracked (.step (.initial rfl) ⟨htracked, hstep⟩)).1
  exact ⟨_, .step (.initial rfl) hstep, (htracks.complete _ rfl 8).trans rfl⟩

/-- With the focus first the second workspace is lost, and its activation reports nothing. -/
theorem workspaces_lost :
    ∃ s, (system sampleParser).Reachable s ∧ ¬ s.Tracks ∧
      ∃ items, s.handled = some ⟨activated 8, some items, none⟩ ∧
        listedOutput items 8 = some "DP-2" := by
  obtain ⟨source, hworkspaces, hlist⟩ := @after_stays sampleParser start focusFirst _ _ _
    (if_pos rfl) ⟨length_focusFirst, rfl⟩ rfl
  have hactivates : Activates (activated 8) 8 := ⟨rfl, _, rfl, rfl⟩
  have hmissing : parseNiriValue (activated 8) source.workspaces =
      (.ok none, source.workspaces) := by
    rw [parseNiriValue_of_activates hactivates, hworkspaces]
    rfl
  have hstays : StaysInStream activateSecond (activated 8) := by
    refine ⟨length_activateSecond.le.trans length_focusFirst, fun activated h => ?_⟩
    cases h
    rfl
  obtain ⟨source', -, hactivate⟩ :=
    @after_stays sampleParser ⟨source, _, _⟩ _ _ _ _ sampleParser_activateSecond hstays hmissing
  refine ⟨_, .step (.step (.initial rfl) hlist) hactivate, fun htracks => ?_, _, rfl, rfl⟩
  have hfound := htracks.reported _ rfl 8 hactivates _ "DP-2" rfl rfl
  cases hfound

end NiriTracker

end Sample

end Sessiond
end SleepySession
