import SleepySession.Desktop.CommandText
import SleepySession.Sessiond.Hub
import SleepySession.Store.IoError

/-!
# The desktop aggregate

Every desktop domain has a producer, and the aggregate assembles one snapshot
from the last state of each of them.  A change of one domain is published as an
update of that domain; a new subscriber gets the whole snapshot.  The payloads
of the domains belong to the SDK, as do serialization and its validation; the
budget of a serialized envelope is computed here.
-/

namespace SleepySession
namespace Desktop

open Sessiond (EventCause EventCauseKind)

inductive DesktopDomainId where
  | network
  | bluetooth
  | audio
  | media
  | battery
  | brightness
  | nightLight
  | power
  | osd
  | lock
  | hyprland
  | notifications
  | launcher
  | calendar
  | weather
  | appearance
  | resources
  | tray
  | clipboard
  | recording
  | idleInhibit
  | gameMode
  | screenshot
  | colorPicker
deriving DecidableEq, Repr

namespace DesktopDomainId

/-- `DesktopDomainId::ALL`, in the order of the enumeration. -/
def all : List DesktopDomainId :=
  [network, bluetooth, audio, media, battery, brightness, nightLight, power, osd, lock, hyprland,
    notifications, launcher, calendar, weather, appearance, resources, tray, clipboard, recording,
    idleInhibit, gameMode, screenshot, colorPicker]

theorem mem_all (domain : DesktopDomainId) : domain ∈ all := by
  cases domain <;> decide

/-- A domain as `{:?}` shows it. -/
def debug : DesktopDomainId → String
  | network => "Network"
  | bluetooth => "Bluetooth"
  | audio => "Audio"
  | media => "Media"
  | battery => "Battery"
  | brightness => "Brightness"
  | nightLight => "NightLight"
  | power => "Power"
  | osd => "Osd"
  | lock => "Lock"
  | hyprland => "Hyprland"
  | notifications => "Notifications"
  | launcher => "Launcher"
  | calendar => "Calendar"
  | weather => "Weather"
  | appearance => "Appearance"
  | resources => "Resources"
  | tray => "Tray"
  | clipboard => "Clipboard"
  | recording => "Recording"
  | idleInhibit => "IdleInhibit"
  | gameMode => "GameMode"
  | screenshot => "Screenshot"
  | colorPicker => "ColorPicker"

end DesktopDomainId

inductive CapabilityAvailability where
  | available
  | unavailable
  | unsupported
  | permissionDenied
  | timeout
  | parse
  | error
deriving DecidableEq, Repr

/-- `CapabilityFailure`. -/
structure CapabilityFailure where
  message : String
deriving DecidableEq, Repr

/-- One alternative for each domain, with the payload that the SDK defines. -/
abbrev DesktopDomainValue (V : DesktopDomainId → Type) :=
  Σ domain, V domain

/-- A state has a value of its own domain, or a status and a diagnostic. -/
structure DesktopDomainState (V : DesktopDomainId → Type) where
  domain : DesktopDomainId
  status : CapabilityAvailability
  value : Option (DesktopDomainValue V)
  diagnostic : Option String
  valid :
    (status = .available ∧ (∃ v, value = some ⟨domain, v⟩) ∧ diagnostic = none) ∨
      (status ≠ .available ∧ value = none ∧ ∃ text, diagnostic = some text ∧ blank text = false)

namespace DesktopDomainState

variable {V : DesktopDomainId → Type}

def terminal (domain : DesktopDomainId) (status : CapabilityAvailability) (diagnostic : String) :
    Except IoError (DesktopDomainState V) :=
  if hstatus : status = .available then
    .error ⟨.invalidInput, "available desktop domain state requires typed data"⟩
  else if hblank : blank diagnostic = true then
    .error ⟨.invalidInput, "terminal desktop domain state requires a diagnostic"⟩
  else
    .ok
      { domain := domain
        status := status
        value := none
        diagnostic := some diagnostic
        valid := .inr ⟨hstatus, rfl, diagnostic, rfl, Bool.eq_false_iff.mpr hblank⟩ }

def available (domain : DesktopDomainId) (value : DesktopDomainValue V) :
    Except IoError (DesktopDomainState V) :=
  if hdomain : value.1 = domain then
    .ok
      { domain := domain
        status := .available
        value := some value
        diagnostic := none
        valid := .inl ⟨rfl, ⟨hdomain ▸ value.2, by subst hdomain; rfl⟩, rfl⟩ }
  else
    .error ⟨.invalidInput, "desktop domain value belongs to a different producer"⟩

end DesktopDomainState

structure DesktopDomainUpdate (V : DesktopDomainId → Type) where
  state : DesktopDomainState V
  observationRevision : Option Nat

def DesktopDomainUpdate.unversioned {V : DesktopDomainId → Type} (state : DesktopDomainState V) :
    DesktopDomainUpdate V :=
  ⟨state, none⟩

structure DesktopObservation where
  domain : DesktopDomainId
  revision : Nat
deriving DecidableEq, Repr

def DesktopObservation.finish {V : DesktopDomainId → Type} (observation : DesktopObservation)
    (state : DesktopDomainState V) : Except IoError (DesktopDomainUpdate V) :=
  if state.domain ≠ observation.domain then
    .error ⟨.invalidInput, "desktop observation belongs to a different producer"⟩
  else
    .ok ⟨state, some observation.revision⟩

section Snapshot

structure DesktopCapability (α : Type) where
  status : CapabilityAvailability
  data : Option α
  diagnostic : Option CapabilityFailure

structure ProducerAvailability where
  status : CapabilityAvailability
  diagnostic : Option CapabilityFailure
deriving DecidableEq, Repr

/-- A value that is shown together with the availability of its producer. -/
structure Produced (α : Type) where
  availability : ProducerAvailability
  content : α

variable (V : DesktopDomainId → Type)

structure DesktopSystemSnapshot where
  network : DesktopCapability (V .network)
  bluetooth : DesktopCapability (V .bluetooth)
  audio : DesktopCapability (V .audio)
  media : DesktopCapability (V .media)
  battery : DesktopCapability (V .battery)
  brightness : DesktopCapability (V .brightness)
  nightLight : DesktopCapability (V .nightLight)
  power : DesktopCapability (V .power)
  osd : DesktopCapability (V .osd)
  lock : DesktopCapability (V .lock)

structure DesktopCompositorSnapshot where
  hyprland : DesktopCapability (V .hyprland)

structure DesktopUtilitySnapshot where
  trayItems : DesktopCapability (V .tray)
  clipboardEntries : DesktopCapability (V .clipboard)
  recording : DesktopCapability (V .recording)
  idleInhibited : DesktopCapability (V .idleInhibit)
  gameMode : DesktopCapability (V .gameMode)
  screenshot : ProducerAvailability
  colorPicker : ProducerAvailability

structure DesktopSnapshot where
  system : DesktopSystemSnapshot V
  compositor : DesktopCompositorSnapshot V
  notifications : V .notifications
  launcher : Produced (V .launcher)
  calendar : Produced (V .calendar)
  weather : Produced (V .weather)
  appearance : Produced (V .appearance)
  resources : Produced (V .resources)
  utilities : DesktopUtilitySnapshot V

inductive DesktopSystemUpdate where
  | network (value : DesktopCapability (V .network))
  | bluetooth (value : DesktopCapability (V .bluetooth))
  | audio (value : DesktopCapability (V .audio))
  | media (value : DesktopCapability (V .media))
  | battery (value : DesktopCapability (V .battery))
  | brightness (value : DesktopCapability (V .brightness))
  | nightLight (value : DesktopCapability (V .nightLight))
  | power (value : DesktopCapability (V .power))
  | osd (value : DesktopCapability (V .osd))
  | lock (value : DesktopCapability (V .lock))

inductive DesktopUtilityUpdate where
  | trayItems (value : DesktopCapability (V .tray))
  | clipboardEntries (value : DesktopCapability (V .clipboard))
  | recording (value : DesktopCapability (V .recording))
  | idleInhibited (value : DesktopCapability (V .idleInhibit))
  | gameMode (value : DesktopCapability (V .gameMode))
  | screenshot (value : ProducerAvailability)
  | colorPicker (value : ProducerAvailability)

/-- The SDK's `DesktopDomainUpdate`. -/
inductive SdkDomainUpdate where
  | system (update : DesktopSystemUpdate V)
  | compositor (hyprland : DesktopCapability (V .hyprland))
  | notifications (value : V .notifications)
  | launcher (value : Produced (V .launcher))
  | calendar (value : Produced (V .calendar))
  | weather (value : Produced (V .weather))
  | appearance (value : Produced (V .appearance))
  | resources (value : Produced (V .resources))
  | utilities (update : DesktopUtilityUpdate V)

end Snapshot

inductive DesktopResultStatus where
  | succeeded
  | failed
deriving DecidableEq, Repr

structure DesktopResult where
  schemaVersion : Nat
  requestId : String
  generation : Nat
  status : DesktopResultStatus
  diagnostic : Option CapabilityFailure
deriving DecidableEq, Repr

inductive DesktopEvent (V : DesktopDomainId → Type) where
  | fullSnapshot (snapshot : DesktopSnapshot V)
  | domainUpdate (update : SdkDomainUpdate V)
  | commandResult (result : DesktopResult)

structure DesktopEnvelope (V : DesktopDomainId → Type) where
  schemaVersion : Nat
  generation : Nat
  eventId : String
  emittedAt : String
  cause : EventCause
  payload : DesktopEvent V

/-- `serde_json::Value`, as far as the budget looks into it. -/
inductive JsonValue where
  | null
  | bool (value : Bool)
  | number (text : Text)
  | string (value : Text)
  | array (values : List JsonValue)
  | object (values : List (Text × JsonValue))

/-- What the libraries do for the aggregate. -/
structure DesktopSdk (V : DesktopDomainId → Type) where
  wireVersion : Nat
  /-- `serde_json::to_string` of an envelope. -/
  encode : DesktopEnvelope V → Except String Text
  /-- `serde_json::from_str`. -/
  parse : Text → Except String JsonValue
  /-- `validate_desktop_envelope`. -/
  validateEnvelope : Text → Except String Unit
  /-- The length of `serde_json::to_vec` of a snapshot. -/
  snapshotBytes : DesktopSnapshot V → Option Nat
  /-- `validate_desktop_result` of the encoded result. -/
  validateResult : DesktopResult → Except String Unit
  /-- The notifications with another availability. -/
  withAvailability : V .notifications → ProducerAvailability → V .notifications
  /-- No notifications and no do-not-disturb. -/
  noNotifications : ProducerAvailability → V .notifications
  noEntries : V .launcher
  emptyCalendar : V .calendar
  emptyWeather : V .weather
  /-- The built-in dark theme with the wallpaper `unavailable`. -/
  noAppearance : V .appearance
  noSamples : V .resources

section Budget

def maxDesktopFrameBytes : Nat := 896 * 1024

def maxDesktopSerializedItems : Nat := 20000

def maxDesktopStringBytes : Nat := 768 * 1024

/-- The two counters of a serialized envelope. -/
structure Budget where
  items : Nat
  stringBytes : Nat
deriving DecidableEq, Repr

def Budget.addItems (budget : Budget) (n : Nat) : Except IoError Budget :=
  if budget.items + n < 2 ^ 64 then .ok { budget with items := budget.items + n }
  else .error ⟨.invalidData, "desktop.item-budget-overflow"⟩

def Budget.addBytes (budget : Budget) (n : Nat) : Except IoError Budget :=
  if budget.stringBytes + n < 2 ^ 64 then
    .ok { budget with stringBytes := budget.stringBytes + n }
  else .error ⟨.invalidData, "desktop.string-budget-overflow"⟩

mutual

def accumulateSerializedBudget (value : JsonValue) (depth : Nat) (budget : Budget) :
    Except IoError Budget :=
  if depth > 64 then
    .error ⟨.invalidData, "desktop.serialization-depth-exceeded"⟩
  else
    match value with
    | .string text => budget.addBytes text.byteLength
    | .array values => do
        let budget ← budget.addItems values.length
        accumulateValues values (depth + 1) budget
    | .object values => do
        let budget ← budget.addItems values.length
        accumulateEntries values (depth + 1) budget
    | _ => .ok budget

/-- The loop over the values of an array. -/
def accumulateValues (values : List JsonValue) (depth : Nat) (budget : Budget) :
    Except IoError Budget :=
  match values with
  | [] => .ok budget
  | value :: rest => do
      let budget ← accumulateSerializedBudget value depth budget
      accumulateValues rest depth budget

/-- The loop over the entries of an object. -/
def accumulateEntries (values : List (Text × JsonValue)) (depth : Nat) (budget : Budget) :
    Except IoError Budget :=
  match values with
  | [] => .ok budget
  | (key, value) :: rest => do
      let budget ← budget.addBytes (Text.byteLength key)
      let budget ← accumulateSerializedBudget value depth budget
      accumulateEntries rest depth budget

end

def IoError.otherText (text : String) : IoError :=
  ⟨.other, text⟩

variable {V : DesktopDomainId → Type} (sdk : DesktopSdk V)

def validateSerializedBudget (encoded : Text) : Except IoError Unit := do
  if encoded.byteLength > maxDesktopFrameBytes then
    .error ⟨.invalidData, "desktop.frame-too-large"⟩
  else
    match sdk.parse encoded with
    | .error e => .error (IoError.otherText e)
    | .ok value => do
        let budget ← accumulateSerializedBudget value 0 ⟨0, 0⟩
        if budget.items > maxDesktopSerializedItems ∨
            budget.stringBytes > maxDesktopStringBytes then
          .error ⟨.invalidData, "desktop.aggregate-budget-exceeded"⟩
        else
          .ok ()

/-- The checks that an envelope passes before it is used. -/
def checkEnvelope (envelope : DesktopEnvelope V) : Except IoError Unit :=
  match sdk.encode envelope with
  | .error e => .error (IoError.otherText e)
  | .ok json => do
      validateSerializedBudget sdk json
      match sdk.validateEnvelope json with
      | .error e => .error ⟨.invalidData, e⟩
      | .ok _ => .ok ()

/-- What is new in every envelope: a UUID, and `utc_now`. -/
structure Stamp where
  eventId : String
  emittedAt : Except IoError String

def validatedEnvelope (stamp : Stamp) (generation : Nat) (cause : EventCause)
    (payload : DesktopEvent V) : Except IoError (DesktopEnvelope V) := do
  let emittedAt ← stamp.emittedAt
  let event : DesktopEnvelope V :=
    ⟨sdk.wireVersion, generation, stamp.eventId, emittedAt, cause, payload⟩
  checkEnvelope sdk event
  .ok event

end Budget

section Assembly

variable {V : DesktopDomainId → Type} (sdk : DesktopSdk V)

/-- `BTreeMap<DesktopDomainId, DesktopDomainState>`. -/
abbrev StateMap (V : DesktopDomainId → Type) :=
  DesktopDomainId → Option (DesktopDomainState V)

def StateMap.insert (states : StateMap V) (domain : DesktopDomainId)
    (state : DesktopDomainState V) : StateMap V :=
  Function.update states domain (some state)

/-- The lookup `state`. -/
def stateOf (states : StateMap V) (domain : DesktopDomainId) :
    Except IoError (DesktopDomainState V) :=
  match states domain with
  | none => .error ⟨.invalidInput, "desktop state omitted " ++ domain.debug⟩
  | some state => .ok state

def publicProducerDiagnostic : CapabilityAvailability → String
  | .available => "producer.available"
  | .unavailable => "producer.unavailable"
  | .unsupported => "producer.unsupported"
  | .permissionDenied => "producer.permission-denied"
  | .timeout => "producer.timeout"
  | .parse => "producer.parse-invalid"
  | .error => "producer.failed"

def producerAvailability (state : DesktopDomainState V) : ProducerAvailability :=
  { status := state.status
    diagnostic :=
      if state.status ≠ .available then some ⟨publicProducerDiagnostic state.status⟩ else none }

/-- The payload of a value of the given domain, as the closures `extract` find it. -/
def extract (domain : DesktopDomainId) (value : DesktopDomainValue V) : Option (V domain) :=
  if h : value.1 = domain then some (h ▸ value.2) else none

def capability (states : StateMap V) (domain : DesktopDomainId) :
    Except IoError (DesktopCapability (V domain)) := do
  let state ← stateOf states domain
  if state.status = .available then
    match state.value.bind (extract domain) with
    | none => .error ⟨.invalidData, "available domain omitted its typed value"⟩
    | some data => .ok ⟨.available, some data, none⟩
  else
    .ok ⟨state.status, none, some ⟨publicProducerDiagnostic state.status⟩⟩

/-- The value of a domain that always shows one, or what stands in for it. -/
def valueOr (state : DesktopDomainState V) (domain : DesktopDomainId) (absent : V domain) :
    V domain :=
  (state.value.bind (extract domain)).getD absent

def notificationsSnapshot (states : StateMap V) : Except IoError (V .notifications) := do
  let state ← stateOf states .notifications
  let snapshot := valueOr state .notifications (sdk.noNotifications (producerAvailability state))
  .ok (sdk.withAvailability snapshot (producerAvailability state))

/-- The snapshots of launcher, calendar, weather, appearance and resources. -/
def producedSnapshot (states : StateMap V) (domain : DesktopDomainId) (absent : V domain) :
    Except IoError (Produced (V domain)) := do
  let state ← stateOf states domain
  .ok ⟨producerAvailability state, valueOr state domain absent⟩

def launcherSnapshot (states : StateMap V) : Except IoError (Produced (V .launcher)) :=
  producedSnapshot states .launcher sdk.noEntries

def calendarSnapshot (states : StateMap V) : Except IoError (Produced (V .calendar)) :=
  producedSnapshot states .calendar sdk.emptyCalendar

def weatherSnapshot (states : StateMap V) : Except IoError (Produced (V .weather)) :=
  producedSnapshot states .weather sdk.emptyWeather

def appearanceSnapshot (states : StateMap V) : Except IoError (Produced (V .appearance)) :=
  producedSnapshot states .appearance sdk.noAppearance

def resourcesSnapshot (states : StateMap V) : Except IoError (Produced (V .resources)) :=
  producedSnapshot states .resources sdk.noSamples

def availabilityOf (states : StateMap V) (domain : DesktopDomainId) :
    Except IoError ProducerAvailability := do
  let state ← stateOf states domain
  .ok (producerAvailability state)

def utilitiesSnapshot (states : StateMap V) : Except IoError (DesktopUtilitySnapshot V) := do
  let trayItems ← capability states .tray
  let clipboardEntries ← capability states .clipboard
  let recording ← capability states .recording
  let idleInhibited ← capability states .idleInhibit
  let gameMode ← capability states .gameMode
  let screenshot ← availabilityOf states .screenshot
  let colorPicker ← availabilityOf states .colorPicker
  .ok ⟨trayItems, clipboardEntries, recording, idleInhibited, gameMode, screenshot, colorPicker⟩

def systemSnapshot (states : StateMap V) : Except IoError (DesktopSystemSnapshot V) := do
  let network ← capability states .network
  let bluetooth ← capability states .bluetooth
  let audio ← capability states .audio
  let media ← capability states .media
  let battery ← capability states .battery
  let brightness ← capability states .brightness
  let nightLight ← capability states .nightLight
  let power ← capability states .power
  let osd ← capability states .osd
  let lock ← capability states .lock
  .ok ⟨network, bluetooth, audio, media, battery, brightness, nightLight, power, osd, lock⟩

/-- The first loop of `assemble`, over the remaining domains. -/
def checkStates (states : StateMap V) : List DesktopDomainId → Except IoError Unit
  | [] => .ok ()
  | domain :: rest =>
      match states domain with
      | none => .error ⟨.invalidInput, "desktop state omitted " ++ domain.debug⟩
      | some state =>
          if state.domain ≠ domain then
            .error ⟨.invalidInput, "desktop state map key does not match its state domain"⟩
          else
            checkStates states rest

/-- The envelope with which `validate_assembled_snapshot` probes the budget. -/
def probeEnvelope (snapshot : DesktopSnapshot V) : DesktopEnvelope V :=
  { schemaVersion := sdk.wireVersion
    generation := 1
    eventId := "00000000-0000-4000-8000-000000000001"
    emittedAt := "1970-01-01T00:00:00Z"
    cause := ⟨.lifecycle, none⟩
    payload := .fullSnapshot snapshot }

def validateAssembledSnapshot (snapshot : DesktopSnapshot V) :
    Except IoError (DesktopSnapshot V) := do
  checkEnvelope sdk (probeEnvelope sdk snapshot)
  .ok snapshot

/-- The snapshot of `assemble` before its validation. -/
def assembleFields (states : StateMap V) : Except IoError (DesktopSnapshot V) := do
  let system ← systemSnapshot states
  let hyprland ← capability states .hyprland
  let notifications ← notificationsSnapshot sdk states
  let launcher ← launcherSnapshot sdk states
  let calendar ← calendarSnapshot sdk states
  let weather ← weatherSnapshot sdk states
  let appearance ← appearanceSnapshot sdk states
  let resources ← resourcesSnapshot sdk states
  let utilities ← utilitiesSnapshot states
  .ok ⟨system, ⟨hyprland⟩, notifications, launcher, calendar, weather, appearance, resources,
    utilities⟩

def assemble (states : StateMap V) : Except IoError (DesktopSnapshot V) := do
  checkStates states DesktopDomainId.all
  let snapshot ← assembleFields sdk states
  validateAssembledSnapshot sdk snapshot

def domainUpdate (domain : DesktopDomainId) (snapshot : DesktopSnapshot V) : SdkDomainUpdate V :=
  match domain with
  | .network => .system (.network snapshot.system.network)
  | .bluetooth => .system (.bluetooth snapshot.system.bluetooth)
  | .audio => .system (.audio snapshot.system.audio)
  | .media => .system (.media snapshot.system.media)
  | .battery => .system (.battery snapshot.system.battery)
  | .brightness => .system (.brightness snapshot.system.brightness)
  | .nightLight => .system (.nightLight snapshot.system.nightLight)
  | .power => .system (.power snapshot.system.power)
  | .osd => .system (.osd snapshot.system.osd)
  | .lock => .system (.lock snapshot.system.lock)
  | .hyprland => .compositor snapshot.compositor.hyprland
  | .notifications => .notifications snapshot.notifications
  | .launcher => .launcher snapshot.launcher
  | .calendar => .calendar snapshot.calendar
  | .weather => .weather snapshot.weather
  | .appearance => .appearance snapshot.appearance
  | .resources => .resources snapshot.resources
  | .tray => .utilities (.trayItems snapshot.utilities.trayItems)
  | .clipboard => .utilities (.clipboardEntries snapshot.utilities.clipboardEntries)
  | .recording => .utilities (.recording snapshot.utilities.recording)
  | .idleInhibit => .utilities (.idleInhibited snapshot.utilities.idleInhibited)
  | .gameMode => .utilities (.gameMode snapshot.utilities.gameMode)
  | .screenshot => .utilities (.screenshot snapshot.utilities.screenshot)
  | .colorPicker => .utilities (.colorPicker snapshot.utilities.colorPicker)

end Assembly

end Desktop
end SleepySession
