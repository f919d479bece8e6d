import SleepySession.Desktop.CommandRunner

/-!
# The audio adapter

`wpctl` reports the audio graph as a tree of text and the volume of each
object separately.  A command is confirmed by a new report.
-/

namespace SleepySession

namespace Audio

open Program

inductive AudioCommand where
  | setDefaultNode (nodeId : Text)
  | setNodeVolume (nodeId : Text) (level : Level)
  | setNodeMuted (nodeId : Text) (muted : Bool)
  | setStreamVolume (streamId : Text) (level : Level)
  | setStreamMuted (streamId : Text) (muted : Bool)

/-- The audio part of `SystemMutation`; `other` stands for the rest of it. -/
inductive SystemMutation where
  | audioVolume (level : Level)
  | audioMuted (muted : Bool)
  | audioMicrophoneLevel (level : Level)
  | audioMicrophoneMuted (muted : Bool)
  | audioOutputDevice (id : Text)
  | other

inductive AudioNodeKind where
  | output
  | input
deriving DecidableEq

structure AudioNode where
  id : Text
  name : Text
  kind : AudioNodeKind
  volume : Level
  muted : Bool
  isDefault : Bool
deriving DecidableEq

structure AudioStream where
  id : Text
  name : Text
  nodeId : Text
  volume : Level
  muted : Bool
deriving DecidableEq

structure AudioSnapshot where
  nodes : List AudioNode
  streams : List AudioStream
deriving DecidableEq

def nodePrefix : Text :=
  "audio-node:".toList

def streamPrefix : Text :=
  "audio-stream:".toList

def maxProbedAudioObjects : Nat :=
  128

def numeric (value : Text) : Except IoError Text :=
  match parseUnsigned (2 ^ 64) value with
  | none => inputError "invalid numeric audio ID"
  | some parsed =>
      if decimalText parsed = value then
        .ok value
      else
        inputError "audio ID is not canonical"

def numericId (id idPrefix : Text) : Except IoError Text :=
  match stripPrefix idPrefix id with
  | none => inputError "invalid audio ID"
  | some value => numeric value

def nodeId (value : Text) : Except IoError Text := do
  let value ← numeric value
  pure (nodePrefix ++ value)

def streamId (value : Text) : Except IoError Text := do
  let value ← numeric value
  pure (streamPrefix ++ value)

def normalized (value : Level) : Except IoError Text :=
  if value.Normalized then
    .ok value.format
  else
    inputError "audio level is not normalized"

def boolean (value : Bool) : Text :=
  if value then "1".toList else "0".toList

def wpctl (args : List Text) : CommandSpec :=
  { CommandSpec.new "wpctl" args with timeout := 5000 }

def mutationSpec : AudioCommand → Except IoError CommandSpec
  | .setDefaultNode node => do
      let id ← numericId node nodePrefix
      pure (wpctl ["set-default".toList, id])
  | .setNodeVolume node level => do
      let id ← numericId node nodePrefix
      let level ← normalized level
      pure (wpctl ["set-volume".toList, id, level])
  | .setNodeMuted node muted => do
      let id ← numericId node nodePrefix
      pure (wpctl ["set-mute".toList, id, boolean muted])
  | .setStreamVolume stream level => do
      let id ← numericId stream streamPrefix
      let level ← normalized level
      pure (wpctl ["set-volume".toList, id, level])
  | .setStreamMuted stream muted => do
      let id ← numericId stream streamPrefix
      pure (wpctl ["set-mute".toList, id, boolean muted])

inductive RowKind where
  | output
  | input
  | stream
deriving DecidableEq

structure Row where
  id : Text
  name : Text
  kind : RowKind
  isDefault : Bool
deriving DecidableEq

/-- What `parse_rows` has seen so far; its identifiers are those of the rows. -/
structure RowParser where
  inAudio : Bool := false
  kind : Option RowKind := none
  headings : List Text := []
  unparsedRow : Bool := false
  rows : List Row := []

def isTreeMark (c : Char) : Bool :=
  c = ' ' || c = '│' || c = '├' || c = '└' || c = '─'

def headingKind (heading : Text) : Option RowKind :=
  if heading = "Sinks:".toList then
    some .output
  else if heading = "Sources:".toList then
    some .input
  else if heading = "Streams:".toList then
    some .stream
  else
    none

/-- The row that a line below a heading describes. -/
def parseRow (parser : RowParser) (kind : RowKind) (trimmed : Text) :
    Except IoError RowParser :=
  let row := trimText (trimStartMatches (· = '*') trimmed)
  match splitOnce '.' row with
  | none => .ok { parser with unparsedRow := true }
  | some (id, remainder) =>
      match numeric (trimText id) with
      | .error e => .error e
      | .ok id =>
          let name := trimText (beforeFirst " [".toList remainder)
          if id ∈ parser.rows.map Row.id then
            dataError "duplicate audio identifier"
          else if name = [] then
            dataError "audio row name is empty"
          else if 512 < Text.byteLength name then
            dataError "audio row name exceeds its bound"
          else if maxProbedAudioObjects < parser.rows.length + 1 then
            dataError "audio identifier probe exceeds its call budget"
          else
            .ok
              { parser with
                rows := parser.rows ++ [⟨id, name, kind, trimmed.head? = some '*'⟩] }

def parseLine (parser : RowParser) (line : Text) : Except IoError RowParser :=
  let trimmed := trimStartMatches isTreeMark line
  if trimmed = "Audio".toList ∨ trimmed = "Video".toList ∨ trimmed = "Settings".toList then
    .ok { parser with inAudio := trimmed = "Audio".toList, kind := none }
  else if parser.inAudio = false then
    .ok parser
  else
    match headingKind trimmed with
    | some kind =>
        .ok { parser with kind := some kind, headings := trimmed :: parser.headings }
    | none =>
        let parser :=
          if trimmed.getLast? = some ':' then { parser with kind := none } else parser
        if trimmed = [] then
          .ok parser
        else
          match parser.kind with
          | none => .ok parser
          | some kind => parseRow parser kind trimmed

def parseRows (status : Printed) : Except IoError (List Row) := do
  let text ← textOf "wpctl output is not UTF-8" status
  let parser ← (textLines text).foldlM parseLine ({} : RowParser)
  if parser.rows = [] ∧ parser.headings.dedup.length = 3 ∧ parser.unparsedRow = false then
    .error ⟨.notConnected, "no audio nodes are available"⟩
  else if ¬ parser.rows.any (·.kind = .output) then
    dataError "wpctl omitted audio outputs"
  else
    .ok parser.rows

def parseVolume (printed : Printed) : Except IoError (Level × Bool) := do
  let text ← textOf "volume output is not UTF-8" printed
  match splitWhitespace text with
  | first :: fields =>
      if first ≠ "Volume:".toList then
        dataError "volume output is malformed"
      else
        match fields with
        | [] => dataError "volume value omitted"
        | value :: _ =>
            match parseLevel value with
            | none => dataError "volume is not numeric"
            | some volume =>
                if volume.Normalized then
                  .ok (volume, containsText "[MUTED]".toList text)
                else
                  dataError "volume is not normalized"
  | [] => dataError "volume output is malformed"

/-- A node or a stream of the snapshot. -/
inductive AudioObject where
  | node (node : AudioNode)
  | stream (stream : AudioStream)

def parseObject (defaultOutput : Text) (volumes : List (Text × Printed)) (row : Row) :
    Except IoError AudioObject := do
  match volumes.lookup row.id with
  | none => dataError "audio volume readback omitted"
  | some printed => do
      let (volume, muted) ← parseVolume printed
      match row.kind with
      | .output => do
          let id ← nodeId row.id
          pure (.node ⟨id, row.name, .output, volume, muted, row.isDefault⟩)
      | .input => do
          let id ← nodeId row.id
          pure (.node ⟨id, row.name, .input, volume, muted, row.isDefault⟩)
      | .stream => do
          let id ← streamId row.id
          let node ← nodeId defaultOutput
          pure (.stream ⟨id, row.name, node, volume, muted⟩)

def AudioObject.node? : AudioObject → Option AudioNode
  | .node found => some found
  | .stream _ => none

def AudioObject.stream? : AudioObject → Option AudioStream
  | .node _ => none
  | .stream found => some found

def parseSnapshot (status : Printed) (volumes : List (Text × Printed)) :
    Except IoError AudioSnapshot := do
  let rows ← parseRows status
  match rows.find? fun row => row.kind = .output ∧ row.isDefault = true with
  | none => dataError "audio output default omitted"
  | some default => do
      let objects ← rows.mapM (parseObject default.id volumes)
      let snapshot : AudioSnapshot :=
        ⟨objects.filterMap AudioObject.node?, objects.filterMap AudioObject.stream?⟩
      if 4096 < snapshot.nodes.length ∨ 16384 < snapshot.streams.length then
        dataError "audio snapshot exceeds its bound"
      else
        pure snapshot

def statusSpec : CommandSpec :=
  .new "wpctl" ["status".toList, "--name".toList]

def volumeSpec (identifier : Text) : CommandSpec :=
  .new "wpctl" ["get-volume".toList, identifier]

def probe : Adapter AudioSnapshot := do
  let status ← runAdapter statusSpec
  let rows ← orThrow (parseRows status)
  let volumes ← runEach volumeSpec (rows.map Row.id)
  orThrow (parseSnapshot status volumes)

/-- What `mutate` looks for in the readback. -/
def confirmed (snapshot : AudioSnapshot) : AudioCommand → Bool
  | .setDefaultNode id => snapshot.nodes.any fun node => node.id = id ∧ node.isDefault = true
  | .setNodeVolume id level =>
      snapshot.nodes.any fun node => node.id = id ∧ node.volume.Close level
  | .setNodeMuted id muted => snapshot.nodes.any fun node => node.id = id ∧ node.muted = muted
  | .setStreamVolume id level =>
      snapshot.streams.any fun stream => stream.id = id ∧ stream.volume.Close level
  | .setStreamMuted id muted =>
      snapshot.streams.any fun stream => stream.id = id ∧ stream.muted = muted

def mutate (command : AudioCommand) : Adapter AudioSnapshot := do
  let spec ← orThrow (mutationSpec command)
  let _ ← runAdapter spec
  let snapshot ← probe
  orThrow (checkConfirmed "WirePlumber readback did not confirm the requested state"
    (confirmed snapshot command))
  pure snapshot

/-- What `mutate_legacy` sends and then looks for. -/
structure LegacyTarget where
  spec : CommandSpec
  kind : AudioNodeKind
  targetId : Option Text
  level : Option Level
  muted : Option Bool
  default : Bool

def legacyTarget : SystemMutation → Except IoError LegacyTarget
  | .audioVolume level =>
      .ok ⟨.new "wpctl" ["set-volume".toList, "@DEFAULT_AUDIO_SINK@".toList, level.format],
        .output, none, some level, none, false⟩
  | .audioMuted muted =>
      .ok ⟨.new "wpctl" ["set-mute".toList, "@DEFAULT_AUDIO_SINK@".toList, boolean muted],
        .output, none, none, some muted, false⟩
  | .audioMicrophoneLevel level =>
      .ok ⟨.new "wpctl" ["set-volume".toList, "@DEFAULT_AUDIO_SOURCE@".toList, level.format],
        .input, none, some level, none, false⟩
  | .audioMicrophoneMuted muted =>
      .ok ⟨.new "wpctl" ["set-mute".toList, "@DEFAULT_AUDIO_SOURCE@".toList, boolean muted],
        .input, none, none, some muted, false⟩
  | .audioOutputDevice id => do
      let target ← nodeId id
      let spec ← mutationSpec (.setDefaultNode target)
      pure ⟨spec, .output, some target, none, none, true⟩
  | .other => inputError "legacy mutation is not an audio action"

/-- The level and the mute state that a legacy command asks for. -/
def LegacyTarget.Shows (target : LegacyTarget) (node : AudioNode) : Prop :=
  (∀ level, target.level = some level → node.volume.Close level) ∧
    ∀ muted, target.muted = some muted → node.muted = muted

instance (target : LegacyTarget) : DecidablePred target.Shows := fun node =>
  match hlevel : target.level, hmuted : target.muted with
  | none, none => isTrue ⟨by simp [hlevel], by simp [hmuted]⟩
  | some level, none =>
      decidable_of_iff (node.volume.Close level) (by simp [LegacyTarget.Shows, hlevel, hmuted])
  | none, some muted =>
      decidable_of_iff (node.muted = muted) (by simp [LegacyTarget.Shows, hlevel, hmuted])
  | some level, some muted =>
      decidable_of_iff (node.volume.Close level ∧ node.muted = muted)
        (by simp [LegacyTarget.Shows, hlevel, hmuted])

/-- What `mutate_legacy` accepts as the node it addressed. -/
def LegacyTarget.accepts (target : LegacyTarget) (node : AudioNode) : Bool :=
  node.kind = target.kind ∧ (target.targetId = none ∨ target.targetId = some node.id) ∧
    (target.default = true → node.isDefault = true) ∧ target.Shows node

def mutateLegacy (mutation : SystemMutation) : Adapter AudioSnapshot := do
  let target ← orThrow (legacyTarget mutation)
  let _ ← runAdapter target.spec
  let snapshot ← probe
  orThrow (checkConfirmed "legacy audio readback did not confirm the requested state"
    (snapshot.nodes.any target.accepts))
  pure snapshot

end Audio

end SleepySession
