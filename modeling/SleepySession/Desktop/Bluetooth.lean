import SleepySession.Desktop.Network

/-!
# The Bluetooth adapter

`bluetoothctl` lists the devices and describes each of them separately.
-/

namespace SleepySession

namespace Bluetooth

open Program Network

inductive BluetoothCommand where
  | setPowered (powered : Bool)
  | scan
  | pair (deviceId : Text)
  | connect (deviceId : Text)
  | disconnect (deviceId : Text)

structure BluetoothDevice where
  id : Text
  name : Text
  paired : Bool
  connected : Bool
deriving DecidableEq

structure BluetoothSnapshot where
  powered : Bool
  scanning : Bool
  devices : List BluetoothDevice
deriving DecidableEq

def devicePrefix : Text :=
  "bluetooth:".toList

def maxProbedDevices : Nat :=
  64

def deviceId (mac : Text) : Except IoError Text := do
  let mac ← canonicalMac mac
  pure (devicePrefix ++ replaceChar ':' '-' mac)

def decode (id : Text) : Except IoError Text :=
  match stripPrefix devicePrefix id with
  | none => inputError "invalid Bluetooth device ID"
  | some value => canonicalMac (replaceChar '-' ':' value)

def bluetoothctl (args : List Text) : CommandSpec :=
  { CommandSpec.new "bluetoothctl" args with timeout := 10000 }

def mutationSpec : BluetoothCommand → Except IoError CommandSpec
  | .setPowered powered => .ok (bluetoothctl ["power".toList, onOff powered])
  | .scan => .ok (bluetoothctl ["scan".toList, "on".toList])
  | .pair id => do
      let mac ← decode id
      pure (bluetoothctl ["pair".toList, mac])
  | .connect id => do
      let mac ← decode id
      pure (bluetoothctl ["connect".toList, mac])
  | .disconnect id => do
      let mac ← decode id
      pure (bluetoothctl ["disconnect".toList, mac])

def bluetoothText (printed : Printed) : Except IoError Text :=
  textOf "Bluetooth output is not UTF-8" printed

/-- The value of the first line that starts with the name and a colon. -/
def property (text : Text) (name : String) : Option Text :=
  ((textLines text).map trimText).findSome? (stripPrefix (name.toList ++ ": ".toList))

def yesNo (value : Text) : Except IoError Bool :=
  if value = "yes".toList then
    .ok true
  else if value = "no".toList then
    .ok false
  else
    dataError "Bluetooth boolean property is malformed"

def requiredFlag (text : Text) (name : String) : Except IoError Bool :=
  match property text name with
  | none => dataError "Bluetooth property omitted"
  | some value => yesNo value

def controllerState (printed : Printed) : Except IoError (Bool × Bool) := do
  let text ← bluetoothText printed
  let powered ← requiredFlag text "Powered"
  let discovering ← requiredFlag text "Discovering"
  pure (powered, discovering)

def parseDeviceRow (rows : List (Text × Text)) (line : Text) :
    Except IoError (List (Text × Text)) :=
  match splitN 3 ' ' line with
  | first :: rest =>
      if first ≠ "Device".toList then
        dataError "Bluetooth device row is malformed"
      else
        match rest with
        | [] => dataError "Bluetooth MAC omitted"
        | mac :: name =>
            match canonicalMac mac with
            | .error e => .error e
            | .ok mac =>
                let name := trimText (name.headD [])
                if mac ∈ rows.map Prod.fst then
                  dataError "duplicate Bluetooth device identifier"
                else if 512 < Text.byteLength name then
                  dataError "Bluetooth device name exceeds its bound"
                else if maxProbedDevices < rows.length + 1 then
                  dataError "Bluetooth device probe exceeds its call budget"
                else
                  .ok (rows ++ [(mac, name)])
  | [] => dataError "Bluetooth device row is malformed"

def parseDeviceRows (printed : Printed) : Except IoError (List (Text × Text)) := do
  let text ← bluetoothText printed
  ((textLines text).filter fun line => trimText line ≠ []).foldlM parseDeviceRow []

def parseDevice (details : List (Text × Printed)) (row : Text × Text) :
    Except IoError BluetoothDevice := do
  match details.lookup row.1 with
  | none => dataError "Bluetooth details omitted"
  | some printed => do
      let info ← bluetoothText printed
      let name := ((property info "Name").filter fun name => ! name.isEmpty).getD row.2
      if name = [] ∨ 512 < Text.byteLength name then
        dataError "Bluetooth device name is empty or exceeds its bound"
      else do
        let id ← deviceId row.1
        let paired ← requiredFlag info "Paired"
        let connected ← requiredFlag info "Connected"
        pure ⟨id, name, paired, connected⟩

def parseSnapshot (printed devices : Printed) (details : List (Text × Printed)) :
    Except IoError BluetoothSnapshot := do
  let state ← controllerState printed
  let rows ← parseDeviceRows devices
  if 1024 < rows.length then
    dataError "too many Bluetooth devices"
  else do
    let parsed ← rows.mapM (parseDevice details)
    pure ⟨state.1, state.2, parsed⟩

def ownerSpec : CommandSpec :=
  .new "busctl"
    ["--system".toList, "--timeout=1".toList, "call".toList,
      "org.freedesktop.DBus".toList, "/org/freedesktop/DBus".toList,
      "org.freedesktop.DBus".toList, "NameHasOwner".toList, "s".toList,
      "org.bluez".toList]

def showSpec : CommandSpec :=
  .new "bluetoothctl" ["show".toList]

def devicesSpec : CommandSpec :=
  .new "bluetoothctl" ["devices".toList]

def infoSpec (mac : Text) : CommandSpec :=
  .new "bluetoothctl" ["info".toList, mac]

def checkOwner (printed : Printed) : Except IoError Unit := do
  let text ← bluetoothText printed
  if trimText text = "b false".toList then
    .error ⟨.notConnected, "Bluetooth service is unavailable"⟩
  else if trimText text = "b true".toList then
    .ok ()
  else
    dataError "D-Bus owner reply is malformed"

/-- The exact diagnostic of `bluetoothctl show` without a controller. -/
def checkController (result : CommandResult) : Except IoError Printed :=
  match result with
  | .ok output =>
      if output.status = 1 ∧
          output.stdout = some "No default controller available\n".toList then
        .error ⟨.notConnected, "no Bluetooth controller is available"⟩
      else
        commandOutput result
  | .error _ => commandOutput result

def probe : Adapter BluetoothSnapshot := do
  let owner ← runAdapter ownerSpec
  orThrow (checkOwner owner)
  let result ← runCommand showSpec
  let shown ← orThrow (checkController result)
  let _ ← orThrow (controllerState shown)
  let devices ← runAdapter devicesSpec
  let rows ← orThrow (parseDeviceRows devices)
  let details ← runEach infoSpec (rows.map Prod.fst)
  orThrow (parseSnapshot shown devices details)

/-- What `mutate` looks for in the readback. -/
def confirmed (snapshot : BluetoothSnapshot) : BluetoothCommand → Bool
  | .setPowered powered => snapshot.powered = powered
  | .scan => snapshot.scanning
  | .pair id => snapshot.devices.any fun device => device.id = id ∧ device.paired = true
  | .connect id => snapshot.devices.any fun device => device.id = id ∧ device.connected = true
  | .disconnect id =>
      snapshot.devices.any fun device => device.id = id ∧ device.connected = false

def mutate (command : BluetoothCommand) : Adapter BluetoothSnapshot := do
  let spec ← orThrow (mutationSpec command)
  let _ ← runAdapter spec
  let snapshot ← probe
  orThrow (checkConfirmed "Bluetooth readback did not confirm the requested state"
    (confirmed snapshot command))
  pure snapshot

end Bluetooth

end SleepySession
