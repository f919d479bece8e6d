import SleepySession.Desktop.CommandRunner

/-!
# The media adapter

`playerctl` lists the players and describes each of them in one row.  A
command is confirmed by comparing the player before and after.
-/

namespace SleepySession

namespace Media

open Program

inductive MediaTransport where
  | playPause
  | next
  | previous
deriving DecidableEq

/-- `MediaCommand::Transport`. -/
structure MediaCommand where
  playerId : Text
  transport : MediaTransport

structure MediaPlayer where
  id : Text
  identity : Text
  title : Text
  artist : Text
  playing : Bool
  progress : ℚ
deriving DecidableEq

structure MediaSnapshot where
  players : List MediaPlayer
deriving DecidableEq

structure MediaObservation where
  snapshot : MediaSnapshot
  trackIds : List (Text × Option Text)
deriving DecidableEq

def playerPrefix : Text :=
  "mpris:".toList

def maxProbedPlayers : Nat :=
  64

def isAsciiAlphanumeric (c : Char) : Bool :=
  isAsciiDigit c || (0x41 ≤ c.toNat && c.toNat ≤ 0x5A) || (0x61 ≤ c.toNat && c.toNat ≤ 0x7A)

def validBusName (value : Text) : Bool :=
  ! value.isEmpty && value.length ≤ 255 && value.contains '.' &&
    value.all (fun c => isAsciiAlphanumeric c || c = '.' || c = '_' || c = '-') &&
    ! (value.head? == some '-')

def playerId (value : Text) : Except IoError Text :=
  if validBusName value then
    .ok (playerPrefix ++ value)
  else
    dataError "invalid MPRIS player name"

def MediaTransport.action : MediaTransport → Text
  | .playPause => "play-pause".toList
  | .next => "next".toList
  | .previous => "previous".toList

def mutationSpec (command : MediaCommand) : Except IoError CommandSpec :=
  match (stripPrefix playerPrefix command.playerId).filter validBusName with
  | none => inputError "invalid MPRIS player ID"
  | some player =>
      .ok
        { CommandSpec.new "playerctl"
            ["--player".toList, player, command.transport.action] with
          timeout := 5000 }

def parsePlayerName (names : List Text) (name : Text) : Except IoError (List Text) :=
  match playerId name with
  | .error e => .error e
  | .ok _ =>
      if name ∈ names then
        dataError "duplicate MPRIS player name"
      else if maxProbedPlayers < names.length + 1 then
        dataError "MPRIS player probe exceeds its call budget"
      else
        .ok (names ++ [name])

def playerNames (printed : Printed) : Except IoError (List Text) := do
  let text ← textOf "MPRIS player list is not UTF-8" printed
  ((textLines text).filter fun line => ! line.isEmpty).foldlM parsePlayerName []

/-- `length > 0.0` and `position / length` for numbers of type `f64`. -/
def progressOf (position length : Level) : Level :=
  match position, length with
  | .finite position, .finite length =>
      if 0 < length then .finite (position / length) else .finite 0
  | .finite _, .infinite false => .finite 0
  | .infinite negative, .finite length =>
      if 0 < length then .infinite negative else .finite 0
  | .infinite _, .infinite false => .nan
  | .nan, .finite length => if 0 < length then .nan else .finite 0
  | .nan, .infinite false => .nan
  | _, _ => .finite 0

def parsePlaying (value : Text) : Except IoError Bool :=
  if value = "Playing".toList then
    .ok true
  else if value = "Paused".toList ∨ value = "Stopped".toList then
    .ok false
  else
    dataError "MPRIS playback state is unknown"

def parseNumber (message : String) (value : Text) : Except IoError Level :=
  match parseLevel value with
  | some level => .ok level
  | none => dataError message

def parseProgress (position length : Level) : Except IoError ℚ :=
  match progressOf position length with
  | .finite progress =>
      if 0 ≤ progress ∧ progress ≤ 1 then
        .ok progress
      else
        dataError "MPRIS normalized progress is invalid"
  | _ => dataError "MPRIS normalized progress is invalid"

def parseTrackId (value : Text) : Except IoError (Option Text) :=
  if value = [] then
    .ok none
  else if 4096 < Text.byteLength value ∨ value.head? ≠ some '/' then
    dataError "MPRIS track identity is malformed or exceeds its bound"
  else
    .ok (some value)

/-- The row of one player. -/
def parsePlayer (metadata : List (Text × Printed)) (name : Text) :
    Except IoError (MediaPlayer × Option Text) := do
  match metadata.lookup name with
  | none => dataError "MPRIS metadata omitted"
  | some printed => do
      let text ← textOf "MPRIS metadata is not UTF-8" printed
      match splitN 7 '\t' (trimEndMatches isWhiteSpace text) with
      | identity :: title :: artist :: status :: position :: length :: track =>
          if trimText identity = [] then
            dataError "MPRIS metadata row is malformed"
          else if 256 < Text.byteLength identity ∨ 4096 < Text.byteLength title ∨
              2048 < Text.byteLength artist then
            dataError "MPRIS metadata text exceeds its bound"
          else do
            let playing ← parsePlaying status
            let position ← parseNumber "MPRIS position is invalid" position
            let length ← parseNumber "MPRIS length is invalid" length
            let progress ← parseProgress position length
            let track ← parseTrackId (track.headD [])
            let id ← playerId name
            pure (⟨id, identity, title, artist, playing, progress⟩, track)
      | _ => dataError "MPRIS metadata row is malformed"

def parseObservation (players : Printed) (metadata : List (Text × Printed)) :
    Except IoError MediaObservation := do
  let names ← playerNames players
  if 256 < names.length then
    dataError "too many MPRIS players"
  else do
    let parsed ← names.mapM (parsePlayer metadata)
    pure ⟨⟨parsed.map Prod.fst⟩, parsed.map fun player => (player.1.id, player.2)⟩

def listSpec : CommandSpec :=
  .new "playerctl" ["--list-all".toList]

/-- The format that is asked for; the braces are those of the source. -/
def metadataFormat : Text :=
  String.toList "\x7b\x7bplayerName\x7d\x7d\\t\x7b\x7btitle\x7d\x7d\\t\x7b\x7bartist\x7d\x7d\\t\x7b\x7bstatus\x7d\x7d\\t\x7b\x7bposition\x7d\x7d\\t\x7b\x7bmpris:length\x7d\x7d\\t\x7b\x7bmpris:trackid\x7d\x7d"

def metadataSpec (player : Text) : CommandSpec :=
  .new "playerctl"
    ["--player".toList, player, "metadata".toList, "--format".toList, metadataFormat]

def probeObservation : Adapter MediaObservation := do
  let players ← runAdapter listSpec
  let names ← orThrow (playerNames players)
  let metadata ← runEach metadataSpec names
  orThrow (parseObservation players metadata)

def probe : Adapter MediaSnapshot := do
  let observation ← probeObservation
  pure observation.snapshot

def findPlayer (message : String) (observation : MediaObservation) (id : Text) :
    Except IoError MediaPlayer :=
  match observation.snapshot.players.find? fun player => player.id = id with
  | some player => .ok player
  | none => .error ⟨.other, message⟩

/-- What `mutate` compares. -/
def confirmed
    (before after : MediaObservation) (beforePlayer afterPlayer : MediaPlayer)
    (command : MediaCommand) : Bool :=
  match command.transport with
  | .playPause => beforePlayer.playing ≠ afterPlayer.playing
  | _ =>
      match (before.trackIds.lookup command.playerId).join,
          (after.trackIds.lookup command.playerId).join with
      | some before, some after => before ≠ after
      | _, _ => false

def mutate (command : MediaCommand) : Adapter MediaSnapshot := do
  let before ← probeObservation
  let beforePlayer ←
    orThrow (findPlayer "MPRIS pre-state omitted the targeted player" before command.playerId)
  let spec ← orThrow (mutationSpec command)
  let _ ← runAdapter spec
  let after ← probeObservation
  let afterPlayer ←
    orThrow (findPlayer "MPRIS readback omitted the targeted player" after command.playerId)
  orThrow (checkConfirmed "MPRIS readback did not confirm the requested transport"
    (confirmed before after beforePlayer afterPlayer command))
  pure after.snapshot

def mutateLegacy (transport : MediaTransport) : Adapter MediaSnapshot := do
  let before ← probe
  match before.players with
  | [player] => mutate ⟨player.id, transport⟩
  | _ =>
      throw ⟨.invalidInput, "legacy media action requires exactly one MPRIS player"⟩

end Media

end SleepySession
