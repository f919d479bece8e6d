import SleepySession.Sessiond.HubDelivery

/-!
# The mutation pipeline

A request takes the generation authority, checks the generation it expects,
runs a command, reads the mutated capability back into the retained snapshot
and publishes the result as a full snapshot.  Sources publish through the same
authority.  Command outcomes, read-back records and deadlines are answers of
the environment; levels are exact numbers.
-/

namespace SleepySession
namespace Sessiond

inductive RuntimeCapabilityId where
  | network
  | bluetooth
  | audio
  | battery
  | brightness
  | powerProfile
  | media
  | nightLight
  | niri
  | resources
  deriving Repr

/-- The place of a capability in `initial_snapshot`. -/
def RuntimeCapabilityId.rank : RuntimeCapabilityId → Nat
  | .network => 0
  | .bluetooth => 1
  | .audio => 2
  | .battery => 3
  | .brightness => 4
  | .powerProfile => 5
  | .media => 6
  | .nightLight => 7
  | .niri => 8
  | .resources => 9

theorem RuntimeCapabilityId.rank_injective : Function.Injective RuntimeCapabilityId.rank := by
  intro a b h
  cases a <;> cases b <;> first | rfl | cases h

instance : LinearOrder RuntimeCapabilityId :=
  LinearOrder.lift' RuntimeCapabilityId.rank RuntimeCapabilityId.rank_injective

inductive PowerProfile where
  | powerSaver
  | balanced
  | performance
  deriving DecidableEq, Repr

inductive SystemMutation where
  | networkEnabled (enabled : Bool)
  | bluetoothEnabled (enabled : Bool)
  | audioVolume (level : Rat)
  | audioMuted (muted : Bool)
  | audioMicrophoneLevel (level : Rat)
  | audioMicrophoneMuted (muted : Bool)
  | audioOutputDevice (id : String)
  | displayBrightness (level : Rat)
  | displayNightLightEnabled (enabled : Bool)
  | powerProfile (profile : PowerProfile)
  | mediaTransport (action : String)
  deriving DecidableEq, Repr

/-- The parts of a capability value that confirmations look at. -/
inductive CapabilityValue where
  | network (wifiEnabled : Bool)
  | bluetooth (powered : Bool)
  | audio (outputLevel : Rat) (outputMuted : Bool) (inputLevel : Rat) (inputMuted : Bool)
      (defaultOutputId : Option String)
  | brightness (level : Rat)
  | battery (percentage : Nat) (charging : Bool)
  | powerProfile (active : String)
  | media (playing : Bool)
  | nightLight (enabled : Bool)
  deriving DecidableEq, Repr

def runtimeCapability : SystemMutation → RuntimeCapabilityId
  | .networkEnabled _ => .network
  | .bluetoothEnabled _ => .bluetooth
  | .audioVolume _ => .audio
  | .audioMuted _ => .audio
  | .audioMicrophoneLevel _ => .audio
  | .audioMicrophoneMuted _ => .audio
  | .audioOutputDevice _ => .audio
  | .displayBrightness _ => .brightness
  | .displayNightLightEnabled _ => .nightLight
  | .powerProfile _ => .powerProfile
  | .mediaTransport _ => .media

def profileText : PowerProfile → String
  | .powerSaver => "power-saver"
  | .balanced => "balanced"
  | .performance => "performance"

def closeTo (value expected : Rat) : Bool :=
  decide (|value - expected| < 1 / 1000)

def runtimeConfirms : SystemMutation → Option CapabilityValue → Bool
  | .networkEnabled expected, some (.network wifiEnabled) => wifiEnabled == expected
  | .bluetoothEnabled expected, some (.bluetooth powered) => powered == expected
  | .audioVolume expected, some (.audio level _ _ _ _) => closeTo level expected
  | .audioMuted expected, some (.audio _ muted _ _ _) => muted == expected
  | .audioMicrophoneLevel expected, some (.audio _ _ level _ _) => closeTo level expected
  | .audioMicrophoneMuted expected, some (.audio _ _ _ muted _) => muted == expected
  | .audioOutputDevice expected, some (.audio _ _ _ _ id) => id == some expected
  | .displayBrightness expected, some (.brightness level) => closeTo level expected
  | .displayNightLightEnabled expected, some (.nightLight enabled) => enabled == expected
  | .powerProfile expected, some (.powerProfile active) => active == profileText expected
  | .mediaTransport _, some (.media _) => true
  | _, _ => false

abbrev Snapshot :=
  RuntimeSnapshot RuntimeCapabilityId CapabilityValue

abbrev Record :=
  CapabilityRecord RuntimeCapabilityId CapabilityValue

section Pipeline

variable {τ π χ : Type}

structure MutationRequest where
  requestId : String
  expectedGeneration : Nat
  mutation : SystemMutation
  deriving DecidableEq, Repr

/-- The value of a capability, as `confirms` looks it up. -/
def RuntimeSnapshot.valueOf (snapshot : Snapshot) (id : RuntimeCapabilityId) :
    Option CapabilityValue :=
  (snapshot.capabilities.find? (fun record => record.id = id)).bind (·.value)

inductive MutationOutcome (τ : Type) where
  | confirmed (event : EventEnvelope RuntimeCapabilityId CapabilityValue τ)
  | rejected
  /-- Unknown, with the failing step. -/
  | unknown (code : String)

/-- What the hub retains and what it has accepted. -/
structure HubView (τ : Type) where
  latest : EventEnvelope RuntimeCapabilityId CapabilityValue τ
  accepted : List (EventEnvelope RuntimeCapabilityId CapabilityValue τ)

def HubRun.view (hub : HubRun RuntimeCapabilityId CapabilityValue τ π χ) : HubView τ where
  latest := hub.latestSnapshot
  accepted := hub.accepted

/-- Where a request stands; `entered` is what the hub was when it got the authority. -/
inductive RequestStage (τ : Type) where
  | waiting
  | locked (entered : HubView τ)
  | executing (entered : HubView τ)
  | executed (entered : HubView τ)
  | probed (entered : HubView τ) (record : Record)
  | readBack (entered : HubView τ) (snapshot : Snapshot)
  | confirmed (entered : HubView τ) (snapshot : Snapshot)
  | publishing (entered : HubView τ) (event : EventEnvelope RuntimeCapabilityId CapabilityValue τ)
  | folded (entered : HubView τ) (event : EventEnvelope RuntimeCapabilityId CapabilityValue τ)
  | sent (entered : HubView τ) (event : EventEnvelope RuntimeCapabilityId CapabilityValue τ)
  | refused (entered : HubView τ)
  | responding (entered : HubView τ) (outcome : MutationOutcome τ)
  | responded (entered left : HubView τ) (outcome : MutationOutcome τ)

structure PipelineRun (τ π χ : Type) where
  hub : HubRun RuntimeCapabilityId CapabilityValue τ π χ
  /-- The mutation that `execute` has left for `readback`. -/
  pending : Option SystemMutation
  stages : π → RequestStage τ

inductive PipelineEvent (τ π χ : Type) where
  /-- A step of a source or of a subscriber. -/
  | hub (event : HubEvent RuntimeCapabilityId CapabilityValue τ π χ)
  | lock (p : π)
  | checkGeneration (p : π)
  /-- `execute` has succeeded, or failed with a code. -/
  | execute (p : π) (answer : Except String Unit)
  | probe (p : π) (status : CapabilityAvailability) (value : Option CapabilityValue)
      (diagnostic : Option String)
  | readBack (p : π)
  /-- The read-back failed or exceeded the deadline. -/
  | readBackFailed (p : π) (code : String)
  | confirm (p : π)
  /-- The allocator answers above the current generation, or fails. -/
  | allocate (p : π) (answer : Option (Nat × Nat × String × String))
  | fold (p : π)
  | send (p : π)
  | settle (p : π)
  | respond (p : π)

/-- The publisher that takes a step of the hub. -/
def HubEvent.publisher? {κ ν : Type} : HubEvent κ ν τ π χ → Option π
  | .lock p => some p
  | .allocate p _ => some p
  | .fold p => some p
  | .send p => some p
  | .settle p => some p
  | .unlock p => some p
  | _ => none

variable [DecidableEq π] [DecidableEq χ]

def PipelineRun.setStage (s : PipelineRun τ π χ) (p : π) (stage : RequestStage τ) :
    PipelineRun τ π χ :=
  { s with stages := Function.update s.stages p stage }

/-- The read-back snapshot: the retained one with the probed record in its place. -/
def readbackSnapshot
    (latest : EventEnvelope RuntimeCapabilityId CapabilityValue τ) (record : Record) :
    Option Snapshot :=
  match latest.payload with
  | .fullSnapshot snapshot =>
      if snapshot.capabilities.any (fun current => current.id = record.id) then
        some { snapshot with capabilities := replaceFirst record snapshot.capabilities }
      else none
  | _ => none

/-- One step of the pipeline or of the hub it publishes to. -/
def PipelineRun.after
    (slots : Nat) (request : π → Option MutationRequest) (s : PipelineRun τ π χ) :
    PipelineEvent τ π χ → Option (PipelineRun τ π χ)
  | .hub event =>
      if event.publisher?.all (fun p => (request p).isNone) then
        (s.hub.after slots event).map fun hub => { s with hub := hub }
      else none
  | .lock p =>
      match s.stages p, request p with
      | .waiting, some _ =>
          (s.hub.after slots (.lock p)).map fun hub =>
            { s.setStage p (.locked s.hub.view) with hub := hub }
      | _, _ => none
  | .checkGeneration p =>
      match s.stages p, request p with
      | .locked entered, some r =>
          if r.expectedGeneration ≠ s.hub.currentGeneration then
            some (s.setStage p (.responding entered .rejected))
          else some (s.setStage p (.executing entered))
      | _, _ => none
  | .execute p answer =>
      match s.stages p, request p, answer with
      | .executing entered, some r, .ok () =>
          some { s.setStage p (.executed entered) with pending := some r.mutation }
      | .executing entered, some _, .error code =>
          some (s.setStage p (.responding entered (.unknown code)))
      | _, _, _ => none
  | .probe p status value diagnostic =>
      match s.stages p, s.pending with
      | .executed entered, some mutation =>
          some (s.setStage p (.probed entered
            { id := runtimeCapability mutation, status := status, value := value
              diagnostic := diagnostic }))
      | .executed entered, none =>
          some (s.setStage p (.responding entered (.unknown "readback")))
      | _, _ => none
  | .readBack p =>
      match s.stages p with
      | .probed entered record =>
          match readbackSnapshot s.hub.latestSnapshot record with
          | some snapshot => some (s.setStage p (.readBack entered snapshot))
          | none => some (s.setStage p (.responding entered (.unknown "readback")))
      | _ => none
  | .readBackFailed p code =>
      match s.stages p with
      | .executed entered => some (s.setStage p (.responding entered (.unknown code)))
      | .probed entered _ => some (s.setStage p (.responding entered (.unknown code)))
      | _ => none
  | .confirm p =>
      match s.stages p, request p with
      | .readBack entered snapshot, some r =>
          if runtimeConfirms r.mutation (snapshot.valueOf (runtimeCapability r.mutation)) then
            some (s.setStage p (.confirmed entered snapshot))
          else some (s.setStage p (.responding entered (.unknown "readbackMismatch")))
      | _, _ => none
  | .allocate p answer =>
      match s.stages p, request p, answer with
      | .confirmed entered snapshot, some r, some (generation, schemaVersion, eventId, emittedAt) =>
          if s.hub.currentGeneration < generation then
            let event : EventEnvelope RuntimeCapabilityId CapabilityValue τ :=
              { schemaVersion := schemaVersion, generation := generation, eventId := eventId
                emittedAt := emittedAt
                cause := { kind := .request, requestId := some r.requestId }
                payload := .fullSnapshot snapshot }
            (s.hub.after slots (.allocate p event)).map fun hub =>
              { s.setStage p (.publishing entered event) with hub := hub }
          else none
      | .confirmed entered _, some _, none =>
          some (s.setStage p (.responding entered (.unknown "publication")))
      | _, _, _ => none
  | .fold p =>
      match s.stages p with
      | .publishing entered event =>
          (s.hub.after slots (.fold p)).map fun hub =>
            match hub.holder with
            | some (_, .folded _) => { s.setStage p (.folded entered event) with hub := hub }
            | _ => { s.setStage p (.refused entered) with hub := hub }
      | _ => none
  | .send p =>
      match s.stages p with
      | .folded entered event =>
          (s.hub.after slots (.send p)).map fun hub =>
            { s.setStage p (.sent entered event) with hub := hub }
      | _ => none
  | .settle p =>
      match s.stages p with
      | .sent entered event =>
          (s.hub.after slots (.settle p)).map fun hub =>
            { s.setStage p (.responding entered (.confirmed event)) with hub := hub }
      | .refused entered =>
          (s.hub.after slots (.settle p)).map fun hub =>
            { s.setStage p (.responding entered (.unknown "publication")) with hub := hub }
      | _ => none
  | .respond p =>
      match s.stages p with
      | .responding entered outcome =>
          (s.hub.after slots (.unlock p)).map fun hub =>
            { s.setStage p (.responded entered s.hub.view outcome) with hub := hub }
      | _ => none

/-- All interleavings of requests, sources and subscribers of one hub. -/
def pipelineSystem
    (slots generation : Nat) (initial : Snapshot) (request : π → Option MutationRequest) :
    System (PipelineRun τ π χ) (PipelineEvent τ π χ) :=
  .ofStep
    (fun s => (∃ envelope currentGeneration, envelope.payload = .fullSnapshot initial ∧
        envelope.generation = generation ∧ s.hub = HubRun.start envelope currentGeneration) ∧
      ∀ p, s.stages p = .waiting)
    (fun s e => s.after slots request e)

end Pipeline

end Sessiond
end SleepySession
