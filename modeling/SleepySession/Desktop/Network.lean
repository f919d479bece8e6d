import SleepySession.Desktop.CommandRunner

/-!
# The network adapter

`nmcli` reports the radio, the access points and the active connections in
rows of escaped fields.
-/

namespace SleepySession

namespace Network

open Program

inductive NetworkCommand where
  | setWifiEnabled (enabled : Bool)
  | scanWifi
  | connectWifi (accessPointId : Text)
  | disconnect (connectionId : Text)

inductive NetworkConnectionKind where
  | wifi
  | ethernet
  | vpn
deriving DecidableEq

structure NetworkAccessPoint where
  id : Text
  ssid : Text
  signalLevel : ℚ
  secured : Bool
deriving DecidableEq

structure NetworkConnection where
  id : Text
  name : Text
  kind : NetworkConnectionKind
  connected : Bool
deriving DecidableEq

structure NetworkSnapshot where
  wifiEnabled : Bool
  scanning : Bool
  accessPoints : List NetworkAccessPoint
  connections : List NetworkConnection
deriving DecidableEq

structure NetworkReadback where
  snapshot : NetworkSnapshot
  activeAccessPoints : List Text
deriving DecidableEq

def accessPointPrefix : Text :=
  "wifi-ap:".toList

def connectionPrefix : Text :=
  "nm-connection:".toList

def isAsciiHexDigit (c : Char) : Bool :=
  isAsciiDigit c || (0x41 ≤ c.toNat && c.toNat ≤ 0x46) || (0x61 ≤ c.toNat && c.toNat ≤ 0x66)

def toAsciiUppercase (c : Char) : Char :=
  if 0x61 ≤ c.toNat ∧ c.toNat ≤ 0x7A then Char.ofNat (c.toNat - 0x20) else c

def replaceChar (old new : Char) (text : Text) : Text :=
  text.map fun c => if c = old then new else c

def canonicalMac (value : Text) : Except IoError Text :=
  if value.length = 17 ∧ value.zipIdx.all (fun entry =>
      if entry.2 % 3 = 2 then entry.1 = ':' else isAsciiHexDigit entry.1) = true then
    .ok (value.map toAsciiUppercase)
  else
    inputError "invalid hardware address"

def accessPointId (mac : Text) : Except IoError Text := do
  let mac ← canonicalMac mac
  pure (accessPointPrefix ++ replaceChar ':' '-' mac)

/-- The texts that `Uuid::parse_str` accepts. -/
def parsesAsUuid (uuid : Text) : Bool :=
  let lower := uuid.map Char.toLower
  let hyphenated := hyphenatedGroups [8, 4, 4, 4, 12]
  hyphenatedGroups [32] lower || hyphenated lower ||
    ("urn:uuid:".toList.isPrefixOf uuid && hyphenated (lower.drop 9)) ||
    (uuid.head? == some '{' && uuid.getLast? == some '}' && hyphenated lower.tail.dropLast)

def connectionId (uuid : Text) : Except IoError Text :=
  if parsesAsUuid uuid = false then
    inputError "invalid connection UUID"
  else if hyphenatedGroups [8, 4, 4, 4, 12] uuid then
    .ok (connectionPrefix ++ uuid)
  else
    inputError "connection UUID is not canonical"

def decodeUuid (id : Text) : Except IoError Text :=
  match stripPrefix connectionPrefix id with
  | none => inputError "invalid connection ID"
  | some value => do
      let _ ← connectionId value
      pure value

def decodeMac (id idPrefix : Text) : Except IoError Text :=
  match stripPrefix idPrefix id with
  | none => inputError "invalid device ID"
  | some encoded => canonicalMac (replaceChar '-' ':' encoded)

def nmcli (args : List Text) : CommandSpec :=
  { CommandSpec.new "nmcli" args with timeout := 10000 }

def mutationSpec : NetworkCommand → Except IoError CommandSpec
  | .setWifiEnabled enabled => .ok (nmcli ["radio".toList, "wifi".toList, onOff enabled])
  | .scanWifi => .ok (nmcli ["device".toList, "wifi".toList, "rescan".toList])
  | .connectWifi id => do
      let mac ← decodeMac id accessPointPrefix
      pure (nmcli ["device".toList, "wifi".toList, "connect".toList, mac])
  | .disconnect id => do
      let uuid ← decodeUuid id
      pure (nmcli ["connection".toList, "down".toList, "uuid".toList, uuid])

/-- One step of `split_escaped`: the finished fields, the open one, the escape. -/
def splitEscapedFrom : List Text → Text → Bool → Text → Except IoError (List Text)
  | fields, field, escaped, [] =>
      if escaped then
        dataError "adapter row ends with an incomplete escape"
      else
        .ok (fields ++ [field])
  | fields, field, true, c :: text => splitEscapedFrom fields (field ++ [c]) false text
  | fields, field, false, c :: text =>
      if c = '\\' then
        splitEscapedFrom fields field true text
      else if c = ':' then
        splitEscapedFrom (fields ++ [field]) [] false text
      else
        splitEscapedFrom fields (field ++ [c]) false text

def splitEscaped (line : Text) : Except IoError (List Text) :=
  splitEscapedFrom [] [] false line

/-- Access points found so far; `seen` is `access_point_ids`. -/
structure AccessPointParser where
  seen : List Text := []
  active : List Text := []
  accessPoints : List NetworkAccessPoint := []

def parseAccessPoint (parser : AccessPointParser) (line : Text) :
    Except IoError AccessPointParser := do
  let fields ← splitEscaped line
  match fields with
  | [inUse, bssid, ssid, signal, security] =>
      if inUse ≠ [] ∧ inUse ≠ ['*'] then
        dataError "NetworkManager access-point row is malformed"
      else if ssid = [] then
        .ok parser
      else
        match accessPointId bssid with
        | .error e => .error e
        | .ok id =>
            if id ∈ parser.seen then
              .ok parser
            else
              match parseUnsigned 256 signal with
              | none => dataError "invalid Wi-Fi signal"
              | some signal =>
                  if 100 < signal then
                    dataError "Wi-Fi signal is outside 0..100"
                  else if 4096 < parser.accessPoints.length + 1 then
                    dataError "too many Wi-Fi access points"
                  else
                    .ok
                      { seen := id :: parser.seen
                        active := if inUse = ['*'] then id :: parser.active else parser.active
                        accessPoints := parser.accessPoints ++
                          [⟨id, ssid, signal / 100,
                            ! (security = [] || security = "--".toList ||
                              security = "NONE".toList)⟩] }
  | _ => dataError "NetworkManager access-point row is malformed"

def connectionKind (value : Text) : Option NetworkConnectionKind :=
  if value = "802-11-wireless".toList ∨ value = "wifi".toList then
    some .wifi
  else if value = "802-3-ethernet".toList ∨ value = "ethernet".toList then
    some .ethernet
  else if containsText "vpn".toList value = true ∨ value = "wireguard".toList then
    some .vpn
  else
    none

def parseConnection (connections : List NetworkConnection) (line : Text) :
    Except IoError (List NetworkConnection) := do
  let fields ← splitEscaped line
  match fields with
  | [uuid, name, kind, device] =>
      if name = [] then
        dataError "NetworkManager connection row is malformed"
      else
        match connectionKind kind with
        | none => .ok connections
        | some kind =>
            match connectionId uuid with
            | .error e => .error e
            | .ok id =>
                if id ∈ connections.map NetworkConnection.id then
                  dataError "duplicate NetworkManager connection UUID"
                else
                  .ok (connections ++ [⟨id, name, kind, ! (device = [] || device = "--".toList)⟩])
  | _ => dataError "NetworkManager connection row is malformed"

def nonEmptyLines (text : Text) : List Text :=
  (textLines text).filter fun line => ! line.isEmpty

def adapterText (printed : Printed) : Except IoError Text :=
  textOf "adapter output is not UTF-8" printed

def parseWifiState (radio : Printed) : Except IoError Bool := do
  let text ← adapterText radio
  if trimText text = "enabled".toList then
    .ok true
  else if trimText text = "disabled".toList then
    .ok false
  else
    dataError "NetworkManager returned an unknown Wi-Fi state"

def parseAccessPoints (wifiEnabled : Bool) (printed : Printed) :
    Except IoError AccessPointParser :=
  if wifiEnabled then do
    let text ← adapterText printed
    (nonEmptyLines text).foldlM parseAccessPoint ({} : AccessPointParser)
  else
    .ok {}

def parseReadback (radio accessPoints connections : Printed) :
    Except IoError NetworkReadback := do
  let wifiEnabled ← parseWifiState radio
  let found ← parseAccessPoints wifiEnabled accessPoints
  let text ← adapterText connections
  let connections ← (nonEmptyLines text).foldlM parseConnection []
  pure ⟨⟨wifiEnabled, false, found.accessPoints, connections⟩, found.active⟩

def radioSpec : CommandSpec :=
  .new "nmcli" ["--terse".toList, "--fields".toList, "WIFI".toList, "general".toList]

def accessPointsSpec : CommandSpec :=
  .new "nmcli"
    ["--terse".toList, "--escape".toList, "yes".toList, "--fields".toList,
      "IN-USE,BSSID,SSID,SIGNAL,SECURITY".toList, "device".toList, "wifi".toList,
      "list".toList, "--rescan".toList, "no".toList]

def connectionsSpec : CommandSpec :=
  .new "nmcli"
    ["--terse".toList, "--escape".toList, "yes".toList, "--fields".toList,
      "UUID,NAME,TYPE,DEVICE".toList, "connection".toList, "show".toList,
      "--active".toList]

def probeReadback : Adapter NetworkReadback := do
  let radio ← runAdapter radioSpec
  let accessPoints ← runAdapter accessPointsSpec
  let connections ← runAdapter connectionsSpec
  orThrow (parseReadback radio accessPoints connections)

/-- What `mutate` looks for in the readback. -/
def confirmed (readback : NetworkReadback) : NetworkCommand → Bool
  | .setWifiEnabled enabled => readback.snapshot.wifiEnabled = enabled
  | .scanWifi => ! readback.snapshot.scanning
  | .connectWifi id => id ∈ readback.activeAccessPoints
  | .disconnect id =>
      readback.snapshot.connections.all fun connection =>
        connection.id ≠ id ∨ connection.connected = false

def mutate (command : NetworkCommand) : Adapter NetworkSnapshot := do
  let spec ← orThrow (mutationSpec command)
  let _ ← runAdapter spec
  let readback ← probeReadback
  orThrow (checkConfirmed "NetworkManager readback did not confirm the requested state"
    (confirmed readback command))
  pure readback.snapshot

end Network

end SleepySession
