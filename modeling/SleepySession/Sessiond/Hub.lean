import SleepySession.Lib.Run

/-!
# The session event hub

The retained snapshot, the broadcast channel and the generation authority in
front of them.  Publishers hold the authority lock while they allocate a
generation, fold the event into the retained snapshot and send it; subscribers
attach to the channel first and read the snapshot afterwards.  Capability
identifiers, capability values and the events that the hub does not look into
are parameters.
-/

namespace SleepySession
namespace Sessiond

inductive EventCauseKind where
  | request
  | external
  | lifecycle
  | replay
  deriving DecidableEq, Repr

structure EventCause where
  kind : EventCauseKind
  requestId : Option String
  deriving DecidableEq, Repr

inductive CapabilityAvailability where
  | available
  | unsupported
  | permissionDenied
  | timeout
  | parse
  | error
  deriving DecidableEq, Repr

structure CapabilityRecord (κ ν : Type) where
  id : κ
  status : CapabilityAvailability
  value : Option ν
  diagnostic : Option String
  deriving DecidableEq, Repr

structure RuntimeSnapshot (κ ν : Type) where
  capabilities : List (CapabilityRecord κ ν)
  focusedOutputId : Option String
  deriving DecidableEq, Repr

/-- Events as far as the hub distinguishes them. -/
inductive SessionEvent (κ ν τ : Type) where
  | fullSnapshot (snapshot : RuntimeSnapshot κ ν)
  | capabilityUpdate (update : CapabilityRecord κ ν)
  | niri (focusedOutputId : Option String)
  | other (event : τ)
  deriving DecidableEq, Repr

structure EventEnvelope (κ ν τ : Type) where
  schemaVersion : Nat
  generation : Nat
  eventId : String
  emittedAt : String
  cause : EventCause
  payload : SessionEvent κ ν τ
  deriving DecidableEq, Repr

inductive PublishError where
  | staleGeneration (attempted current : Nat)
  deriving DecidableEq, Repr

section Fold

variable {κ ν τ : Type} [LinearOrder κ]

/-- The first record of the update's identifier becomes the update. -/
def replaceFirst (update : CapabilityRecord κ ν) :
    List (CapabilityRecord κ ν) → List (CapabilityRecord κ ν)
  | [] => []
  | current :: rest =>
      if current.id = update.id then update :: rest
      else current :: replaceFirst update rest

def sortByKey (records : List (CapabilityRecord κ ν)) : List (CapabilityRecord κ ν) :=
  records.mergeSort (fun a b => decide (a.id ≤ b.id))

/-- What a capability update does to the retained snapshot. -/
def RuntimeSnapshot.update
    (snapshot : RuntimeSnapshot κ ν) (update : CapabilityRecord κ ν) : RuntimeSnapshot κ ν :=
  { snapshot with
    capabilities :=
      if snapshot.capabilities.any (fun current => current.id = update.id) then
        replaceFirst update snapshot.capabilities
      else sortByKey (snapshot.capabilities ++ [update]) }

/-- The retained snapshot after an event. -/
def RuntimeSnapshot.fold
    (snapshot : RuntimeSnapshot κ ν) : SessionEvent κ ν τ → RuntimeSnapshot κ ν
  | .fullSnapshot next => next
  | .capabilityUpdate update => snapshot.update update
  | .niri focusedOutputId => { snapshot with focusedOutputId := focusedOutputId }
  | .other _ => snapshot

def replayCause : EventCause :=
  { kind := .replay, requestId := none }

def advanceReplayEnvelope (replay event : EventEnvelope κ ν τ) : EventEnvelope κ ν τ :=
  { replay with
    schemaVersion := event.schemaVersion
    generation := event.generation
    eventId := event.eventId
    emittedAt := event.emittedAt
    cause := replayCause }

/-- The envelope that `EventHub::new` retains. -/
def initialReplay (initialSnapshot : EventEnvelope κ ν τ) : EventEnvelope κ ν τ :=
  match initialSnapshot.payload with
  | .fullSnapshot _ => { initialSnapshot with cause := replayCause }
  | _ => initialSnapshot

/-- The section of `EventHub::publish` under the write lock. -/
def acceptEvent (replay event : EventEnvelope κ ν τ) :
    Except PublishError (EventEnvelope κ ν τ) :=
  if event.generation ≤ replay.generation then
    .error (.staleGeneration event.generation replay.generation)
  else
    match event.payload, replay.payload with
    | .fullSnapshot _, _ => .ok (advanceReplayEnvelope event event)
    | payload, .fullSnapshot snapshot =>
        .ok (advanceReplayEnvelope
          { replay with payload := .fullSnapshot (snapshot.fold payload) } event)
    | _, _ => .ok replay

end Fold

/-- A subscriber, with what its `recv` has returned so far. -/
structure EventSubscriber (κ ν τ : Type) where
  replay : Option (EventEnvelope κ ν τ)
  lastGeneration : Nat
  /-- The position of the receiver in the channel. -/
  cursor : Nat
  delivered : List (EventEnvelope κ ν τ)
  lagged : Bool
  /-- The replay and the number of events accepted when it was read. -/
  replayed : EventEnvelope κ ν τ
  joined : Nat

/-- The two stages of `EventHub::subscribe`. -/
inductive Subscription (κ ν τ : Type) where
  | attached (cursor : Nat)
  | subscribed (subscriber : EventSubscriber κ ν τ)

/-- How far the holder of the authority lock is with a publication. -/
inductive PublishStage (κ ν τ : Type) where
  | idle
  | allocated (event : EventEnvelope κ ν τ)
  | folded (event : EventEnvelope κ ν τ)
  | sent (event : EventEnvelope κ ν τ)
  | rejected (error : PublishError)

/-- The hub, its authority and everybody who uses them. -/
structure HubRun (κ ν τ π χ : Type) where
  latestSnapshot : EventEnvelope κ ν τ
  /-- Everything sent on the channel, oldest first. -/
  channel : List (EventEnvelope κ ν τ)
  currentGeneration : Nat
  holder : Option (π × PublishStage κ ν τ)
  subscribers : χ → Option (Subscription κ ν τ)
  /-- The events accepted by the hub, oldest first. -/
  accepted : List (EventEnvelope κ ν τ)

inductive HubEvent (κ ν τ π χ : Type) where
  /-- A publisher takes the authority lock. -/
  | lock (p : π)
  /-- The allocator answers; the event is built around its generation. -/
  | allocate (p : π) (event : EventEnvelope κ ν τ)
  | fold (p : π)
  | send (p : π)
  | settle (p : π)
  /-- The publisher drops its guard, or is dropped itself. -/
  | unlock (p : π)
  | attach (c : χ)
  | readSnapshot (c : χ)
  | recv (c : χ)
  | leave (c : χ)

section Steps

variable {κ ν τ π χ : Type} [LinearOrder κ] [DecidableEq π] [DecidableEq χ]

/-- One round of `EventSubscriber::recv` against a channel of `slots` places. -/
def EventSubscriber.recv
    (slots : Nat) (channel : List (EventEnvelope κ ν τ)) (subscriber : EventSubscriber κ ν τ) :
    Option (EventSubscriber κ ν τ) :=
  match subscriber.replay with
  | some replay =>
      some { subscriber with replay := none, delivered := subscriber.delivered ++ [replay] }
  | none =>
      if subscriber.cursor + slots < channel.length then
        some { subscriber with cursor := channel.length - slots, lagged := true }
      else
        match channel[subscriber.cursor]? with
        | none => none
        | some event =>
            if subscriber.lastGeneration < event.generation then
              some { subscriber with
                cursor := subscriber.cursor + 1
                lastGeneration := event.generation
                delivered := subscriber.delivered ++ [event] }
            else some { subscriber with cursor := subscriber.cursor + 1 }

/-- The subscriber right after `EventHub::subscribe` has returned. -/
def newSubscriber
    (cursor : Nat) (replay : EventEnvelope κ ν τ) (joined : Nat) : EventSubscriber κ ν τ where
  replay := some replay
  lastGeneration := replay.generation
  cursor := cursor
  delivered := []
  lagged := false
  replayed := replay
  joined := joined

/-- One atomic step of a publisher or a subscriber. -/
def HubRun.after (slots : Nat) (s : HubRun κ ν τ π χ) :
    HubEvent κ ν τ π χ → Option (HubRun κ ν τ π χ)
  | .lock p =>
      if s.holder.isNone then some { s with holder := some (p, .idle) } else none
  | .allocate p event =>
      match s.holder with
      | some (q, .idle) =>
          if p = q then some { s with holder := some (p, .allocated event) } else none
      | _ => none
  | .fold p =>
      match s.holder with
      | some (q, .allocated event) =>
          if p = q then
            match acceptEvent s.latestSnapshot event with
            | .ok latestSnapshot =>
                some { s with
                  latestSnapshot := latestSnapshot
                  accepted := s.accepted ++ [event]
                  holder := some (p, .folded event) }
            | .error e => some { s with holder := some (p, .rejected e) }
          else none
      | _ => none
  | .send p =>
      match s.holder with
      | some (q, .folded event) =>
          if p = q then
            some { s with channel := s.channel ++ [event], holder := some (p, .sent event) }
          else none
      | _ => none
  | .settle p =>
      match s.holder with
      | some (q, .sent event) =>
          if p = q then
            some { s with currentGeneration := event.generation, holder := some (p, .idle) }
          else none
      | some (q, .rejected (.staleGeneration _ current)) =>
          if p = q then
            some { s with currentGeneration := current, holder := some (p, .idle) }
          else none
      | _ => none
  | .unlock p =>
      -- no await stands between the fold and the settled generation
      match s.holder with
      | some (q, .idle) => if p = q then some { s with holder := none } else none
      | some (q, .allocated _) => if p = q then some { s with holder := none } else none
      | _ => none
  | .attach c =>
      if (s.subscribers c).isNone then
        some { s with
          subscribers := Function.update s.subscribers c (some (.attached s.channel.length)) }
      else none
  | .readSnapshot c =>
      match s.subscribers c with
      | some (.attached cursor) =>
          some { s with
            subscribers := Function.update s.subscribers c
              (some (.subscribed
                (newSubscriber cursor s.latestSnapshot s.accepted.length))) }
      | _ => none
  | .recv c =>
      match s.subscribers c with
      | some (.subscribed subscriber) =>
          (subscriber.recv slots s.channel).map fun subscriber =>
            { s with
              subscribers := Function.update s.subscribers c (some (.subscribed subscriber)) }
      | _ => none
  | .leave c => some { s with subscribers := Function.update s.subscribers c none }

/-- A hub around a full snapshot, whatever generation the authority starts from. -/
def HubRun.start (initialSnapshot : EventEnvelope κ ν τ) (currentGeneration : Nat) :
    HubRun κ ν τ π χ where
  latestSnapshot := initialReplay initialSnapshot
  channel := []
  currentGeneration := currentGeneration
  holder := none
  subscribers := fun _ => none
  accepted := []

/-- All interleavings of publishers and subscribers of one hub. -/
def hubSystem (slots generation : Nat) (initial : RuntimeSnapshot κ ν) :
    System (HubRun κ ν τ π χ) (HubEvent κ ν τ π χ) :=
  .ofStep
    (fun s => ∃ envelope currentGeneration,
      envelope.payload = .fullSnapshot initial ∧ envelope.generation = generation ∧
        s = HubRun.start envelope currentGeneration)
    (fun s e => s.after slots e)

end Steps

end Sessiond
end SleepySession
