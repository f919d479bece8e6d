import SleepySession.Desktop.Localization
import SleepySession.Sessiond.GenerationRuns

/-!
# The desktop state authority

One lock guards the states, the generation and the snapshot that new
subscribers get.  A publication replaces one state under it, takes a generation
from the allocator, and sends the update; the result of a command is sent the
same way.  The first snapshot is assembled in one critical section and stored in
another.  Producers observe their domains outside the lock, so a confirmed
mutation outdates every observation that has begun before it.

An allocator that is gone stands for a process that is gone.
-/

namespace SleepySession

/-- Another result of a finished run. -/
def Outcome.map {ε α β : Type} (f : α → β) : Outcome ε α → Outcome ε β
  | .ok a => .ok (f a)
  | .error e => .error e
  | .crashed => .crashed

namespace Desktop

open Sessiond
open Sessiond.GenerationAllocator (Call)

/-- What a `RunControl` shows. -/
inductive ControlState where
  | active
  | cancelled
  | expired
deriving DecidableEq, Repr

/-- The answers of a control, in the order in which it is asked. -/
abbrev PublicationControl :=
  Option (Nat → ControlState)

def ensurePublicationActive (control : PublicationControl) (i : Nat) : Except IoError Unit :=
  match control with
  | none => .ok ()
  | some state =>
      match state i with
      | .active => .ok ()
      | .cancelled => .error ⟨.interrupted, "desktop publication was cancelled"⟩
      | .expired => .error ⟨.timedOut, "desktop publication exceeded its deadline"⟩

/-- `ensure_initial_deadline`, where `elapsed` says what the clock shows. -/
def ensureInitialDeadline (elapsed : Bool) : Except IoError Unit :=
  if elapsed then .error ⟨.timedOut, "desktop.initialization-timeout"⟩ else .ok ()

def notInitialized : IoError :=
  ⟨.notConnected, "desktop authority has not initialized"⟩

section Functions

variable {V : DesktopDomainId → Type} (sdk : DesktopSdk V)

/-- `DesktopStateAuthority` with its transaction; the allocator stands outside. -/
structure DesktopStateAuthority (V : DesktopDomainId → Type) where
  states : Option (StateMap V)
  currentGeneration : Nat
  latestSnapshot : Option (DesktopEnvelope V)
  observationRevisions : DesktopDomainId → Nat
  /-- Everything sent on the channel, oldest first. -/
  events : List (DesktopEnvelope V)

def DesktopStateAuthority.new (V : DesktopDomainId → Type) : DesktopStateAuthority V :=
  ⟨none, 0, none, fun _ => 0, []⟩

/-- The states with a new one, or with a failure in its place. -/
def stageStates (states : StateMap V) (state : DesktopDomainState V) :
    Except IoError (StateMap V × DesktopSnapshot V) :=
  let domain := state.domain
  let staged := states.insert domain state
  match assemble sdk staged with
  | .ok snapshot => .ok (staged, snapshot)
  | .error _ => do
      let failed ← DesktopDomainState.terminal domain .parse "producer.contract-invalid"
      let staged := staged.insert domain failed
      let snapshot ← assemble sdk staged
      .ok (staged, snapshot)

/-- What a publication is about to store. -/
structure StagedPublication (V : DesktopDomainId → Type) where
  domain : DesktopDomainId
  states : StateMap V
  snapshot : DesktopSnapshot V

/-- `publish_domain_transaction` up to its generation; an outdated observation is discarded. -/
def preparePublication (authority : DesktopStateAuthority V) (control : PublicationControl)
    (update : DesktopDomainUpdate V) : Except IoError (Option (StagedPublication V)) := do
  ensurePublicationActive control 0
  -- the last round of the loop that takes the lock
  ensurePublicationActive control 1
  ensurePublicationActive control 2
  match authority.states with
  | none => .error notInitialized
  | some current =>
      let domain := update.state.domain
      if ∃ expected ∈ update.observationRevision,
          expected ≠ authority.observationRevisions domain then
        .ok none
      else do
        let (staged, snapshot) ← stageStates sdk current update.state
        ensurePublicationActive control 3
        .ok (some ⟨domain, staged, snapshot⟩)

/-- What the two envelopes of a publication are stamped with. -/
structure Stamps where
  event : Stamp
  replay : Stamp

/-- The rest of `publish_domain_transaction`. -/
def finishPublication (authority : DesktopStateAuthority V) (staged : StagedPublication V)
    (cause : EventCause) (stamps : Stamps) (generation : Nat) :
    Except IoError (DesktopEnvelope V × DesktopEnvelope V) × DesktopStateAuthority V :=
  let envelopes : Except IoError (DesktopEnvelope V × DesktopEnvelope V) := do
    let incremental ← validatedEnvelope sdk stamps.event generation cause
      (.domainUpdate (domainUpdate staged.domain staged.snapshot))
    let replay ← validatedEnvelope sdk stamps.replay generation replayCause
      (.fullSnapshot staged.snapshot)
    .ok (incremental, replay)
  match envelopes with
  | .error e => (.error e, authority)
  | .ok (incremental, replay) =>
      (.ok (incremental, replay),
        { states := some staged.states
          currentGeneration := generation
          latestSnapshot := some replay
          observationRevisions :=
            if cause.kind = .request then
              Function.update authority.observationRevisions staged.domain
                ((authority.observationRevisions staged.domain + 1) % 2 ^ 64)
            else authority.observationRevisions
          events := authority.events ++ [incremental] })

/-- `publish_command_result` up to its generation. -/
def prepareCommandResult (authority : DesktopStateAuthority V) :
    Except IoError (DesktopSnapshot V) :=
  match authority.states with
  | none => .error notInitialized
  | some states => assemble sdk states

/-- What a command has come to. -/
structure CommandOutcome where
  requestId : String
  status : DesktopResultStatus
  diagnostic : Option CapabilityFailure
deriving DecidableEq, Repr

def CommandOutcome.result (outcome : CommandOutcome) (wireVersion generation : Nat) :
    DesktopResult :=
  ⟨wireVersion, outcome.requestId, generation, outcome.status, outcome.diagnostic⟩

/-- The rest of `publish_command_result`. -/
def finishCommandResult (authority : DesktopStateAuthority V) (snapshot : DesktopSnapshot V)
    (outcome : CommandOutcome) (stamps : Stamps) (generation : Nat) :
    Except IoError (DesktopEnvelope V × DesktopEnvelope V) × DesktopStateAuthority V :=
  let result := outcome.result sdk.wireVersion generation
  let envelopes : Except IoError (DesktopEnvelope V × DesktopEnvelope V) := do
    match sdk.validateResult result with
    | .error e => .error ⟨.invalidData, e⟩
    | .ok _ => do
        let event ← validatedEnvelope sdk stamps.event generation
          ⟨.request, some outcome.requestId⟩ (.commandResult result)
        let replay ← validatedEnvelope sdk stamps.replay generation replayCause
          (.fullSnapshot snapshot)
        .ok (event, replay)
  match envelopes with
  | .error e => (.error e, authority)
  | .ok (event, replay) =>
      (.ok (event, replay),
        { authority with
          latestSnapshot := some replay
          currentGeneration := generation
          events := authority.events ++ [event] })

/-- The blocking task of `initialize` up to its generation. -/
def prepareInitial (elapsed : Nat → Bool) (states : StateMap V) :
    Except IoError (StateMap V × DesktopSnapshot V) := do
  ensureInitialDeadline (elapsed 0)
  let states ← localizeContractFailures sdk states
  ensureInitialDeadline (elapsed 1)
  let snapshot ← assemble sdk states
  ensureInitialDeadline (elapsed 2)
  .ok (states, snapshot)

/-- `InitializationAssembly::Staged`. -/
structure StagedInitial (V : DesktopDomainId → Type) where
  states : StateMap V
  generation : Nat
  event : DesktopEnvelope V

/-- The rest of the blocking task. -/
def finishInitial (elapsed : Nat → Bool) (states : StateMap V) (snapshot : DesktopSnapshot V)
    (stamp : Stamp) (generation : Nat) : Except IoError (StagedInitial V) := do
  ensureInitialDeadline (elapsed 3)
  let event ← validatedEnvelope sdk stamp generation replayCause (.fullSnapshot snapshot)
  ensureInitialDeadline (elapsed 4)
  .ok ⟨states, generation, event⟩

/-- The second critical section of `initialize`, once its lock is taken in time. -/
def commitInitial (authority : DesktopStateAuthority V) (staged : StagedInitial V) :
    DesktopStateAuthority V :=
  match authority.latestSnapshot with
  | some _ => authority
  | none =>
      { authority with
        states := some staged.states
        currentGeneration := staged.generation
        latestSnapshot := some staged.event }

end Functions

/-- A subscriber, with what its `recv` has returned so far. -/
structure DesktopSubscriber (V : DesktopDomainId → Type) where
  replay : List (DesktopEnvelope V)
  /-- The position of the receiver in the channel. -/
  cursor : Nat
  received : List (DesktopEnvelope V)
  /-- Whether `recv` has ever returned an error. -/
  lagged : Bool
  /-- The position at which it has joined. -/
  joined : Nat

namespace DesktopSubscriber

variable {V : DesktopDomainId → Type}

/-- What `subscribe` returns, from one critical section. -/
def new (snapshot : DesktopEnvelope V) (position : Nat) : DesktopSubscriber V :=
  ⟨[snapshot], position, [], false, position⟩

/-- `recv` against a channel of `slots` places; without a result it waits. -/
def recv (slots : Nat) (events : List (DesktopEnvelope V)) (subscriber : DesktopSubscriber V) :
    Option (DesktopSubscriber V) :=
  match subscriber.replay with
  | event :: replay =>
      some { subscriber with replay := replay, received := subscriber.received ++ [event] }
  | [] =>
      if subscriber.cursor + slots < events.length then
        some { subscriber with cursor := events.length - slots, lagged := true }
      else
        match events[subscriber.cursor]? with
        | none => none
        | some event =>
            some { subscriber with
              cursor := subscriber.cursor + 1, received := subscriber.received ++ [event] }

end DesktopSubscriber

section Runs

variable {V : DesktopDomainId → Type} (sdk : DesktopSdk V)

/-- What matters for the freshness of observations. -/
inductive ObservationRecord where
  /-- A producer has begun an observation. -/
  | began (observation : DesktopObservation)
  /-- What an observation has found is published. -/
  | published (observation : DesktopObservation)
  /-- What a request has confirmed is published. -/
  | confirmed (domain : DesktopDomainId)
deriving DecidableEq, Repr

/-- The authority, its allocator among the others of the generation file, and its users. -/
structure AuthorityRun (V : DesktopDomainId → Type) where
  authority : DesktopStateAuthority V
  generations : GenerationRun
  me : Nat
  staged : Option (StagedInitial V)
  subscribers : Nat → Option (DesktopSubscriber V)
  /-- All values of `latest_snapshot`, oldest first. -/
  snapshots : List (DesktopEnvelope V)
  /-- Newest first. -/
  observations : List ObservationRecord

abbrev GenerationScript :=
  List (Answer GenerationFile (List UInt8))

inductive AuthorityEvent (V : DesktopDomainId → Type) where
  /-- A process opens its authority. -/
  | openAuthority (script : GenerationScript)
  | stageInitial (elapsed : Nat → Bool) (states : StateMap V) (stamp : Stamp)
      (script : GenerationScript)
  | commitInitial
  /-- The future of `initialize` is dropped or out of time. -/
  | dropInitial
  | beginObservation (domain : DesktopDomainId)
  | publishDomain (update : DesktopDomainUpdate V) (cause : EventCause)
      (control : PublicationControl) (stamps : Stamps) (script : GenerationScript)
  | publishCommandResult (outcome : CommandOutcome) (stamps : Stamps) (script : GenerationScript)
  | subscribe (i : Nat)
  | recv (i : Nat)
  | leave (i : Nat)
  /-- Others use the generation file, a process ends or the machine does. -/
  | others (e : GenerationEvent)

namespace AuthorityRun

variable (s : AuthorityRun V)

/-- The call with which a publication takes its generation. -/
def generationCall (control : PublicationControl) : AllocatorProgram Nat :=
  if control.isSome then
    GenerationAllocator.nextGenerationWithCommit >>= fun result => pure result.1
  else GenerationAllocator.nextGeneration

/-- A generation for the authority from its allocator. -/
def allocate (a : GenerationAllocator) (call : AllocatorProgram Nat)
    (script : GenerationScript) : Outcome IoError Nat × GenerationRun :=
  let answered := call.run script ⟨s.generations.files, a⟩
  (answered.1, s.generations.afterCall s.me none (answered.1.map some, answered.2))

/-- What is recorded once a publication has gone out. -/
def record (update : DesktopDomainUpdate V) (cause : EventCause) :
    List ObservationRecord → List ObservationRecord :=
  fun observations =>
    (if cause.kind = .request then [.confirmed update.state.domain] else []) ++
      (update.observationRevision.toList.map fun revision =>
        .published ⟨update.state.domain, revision⟩) ++ observations

/-- The end of a publication that has its generation. -/
def afterPublication (update : DesktopDomainUpdate V) (cause : EventCause) :
    Except IoError (DesktopEnvelope V × DesktopEnvelope V) × DesktopStateAuthority V →
      Outcome IoError (Option (DesktopEnvelope V)) × AuthorityRun V
  | (.error e, _) => (.error e, s)
  | (.ok (incremental, replay), authority) =>
      (.ok (some incremental),
        { s with
          authority := authority
          snapshots := s.snapshots ++ [replay]
          observations := record update cause s.observations })

/-- `publish_domain_transaction`; a result of `none` has discarded the update. -/
def publishDomain (a : GenerationAllocator) (update : DesktopDomainUpdate V)
    (cause : EventCause) (control : PublicationControl) (stamps : Stamps)
    (script : GenerationScript) :
    Outcome IoError (Option (DesktopEnvelope V)) × AuthorityRun V :=
  match preparePublication sdk s.authority control update with
  | .error e => (.error e, s)
  | .ok none => (.ok none, s)
  | .ok (some staged) =>
      match s.allocate a (generationCall control) script with
      | (.ok generation, generations) =>
          { s with generations := generations }.afterPublication update cause
            (finishPublication sdk s.authority staged cause stamps generation)
      | (.error e, generations) => (.error e, { s with generations := generations })
      | (.crashed, generations) => (.crashed, { s with generations := generations })

/-- The end of a command result that has its generation. -/
def afterCommandResult (result : DesktopResult) :
    Except IoError (DesktopEnvelope V × DesktopEnvelope V) × DesktopStateAuthority V →
      Outcome IoError (DesktopEnvelope V × DesktopResult) × AuthorityRun V
  | (.error e, _) => (.error e, s)
  | (.ok (event, replay), authority) =>
      (.ok (event, result),
        { s with authority := authority, snapshots := s.snapshots ++ [replay] })

/-- `publish_command_result`. -/
def publishCommandResult (a : GenerationAllocator) (outcome : CommandOutcome) (stamps : Stamps)
    (script : GenerationScript) :
    Outcome IoError (DesktopEnvelope V × DesktopResult) × AuthorityRun V :=
  match prepareCommandResult sdk s.authority with
  | .error e => (.error e, s)
  | .ok snapshot =>
      match s.allocate a GenerationAllocator.nextGeneration script with
      | (.ok generation, generations) =>
          { s with generations := generations }.afterCommandResult
            (outcome.result sdk.wireVersion generation)
            (finishCommandResult sdk s.authority snapshot outcome stamps generation)
      | (.error e, generations) => (.error e, { s with generations := generations })
      | (.crashed, generations) => (.crashed, { s with generations := generations })

def stageInitial (a : GenerationAllocator) (elapsed : Nat → Bool) (states : StateMap V)
    (stamp : Stamp) (script : GenerationScript) : AuthorityRun V :=
  match s.authority.latestSnapshot with
  | some _ => s
  | none =>
      match prepareInitial sdk elapsed states with
      | .error _ => s
      | .ok (states, snapshot) =>
          match s.allocate a GenerationAllocator.nextGeneration script with
          | (.ok generation, generations) =>
              match finishInitial sdk elapsed states snapshot stamp generation with
              | .error _ => { s with generations := generations }
              | .ok staged => { s with generations := generations, staged := some staged }
          | (_, generations) => { s with generations := generations }

def commitInitial (staged : StagedInitial V) : AuthorityRun V :=
  match s.authority.latestSnapshot with
  | some _ => { s with staged := none }
  | none =>
      { s with
        authority := Desktop.commitInitial s.authority staged
        staged := none
        snapshots := s.snapshots ++ [staged.event] }

/-- The state after `DesktopStateAuthority::open`, whose blocks have 64 numbers. -/
def openAuthority (script : GenerationScript) : AuthorityRun V :=
  let opened := GenerationAllocator.open.run script ⟨s.generations.files, .new 64⟩
  match opened.1 with
  | .ok _ =>
      { authority := .new V
        generations := s.generations.afterOpen opened
        me := s.generations.count
        staged := none
        subscribers := fun _ => none
        snapshots := []
        observations := [] }
  | _ => { s with generations := s.generations.afterOpen opened }

/-- One critical section of the authority, or one step of its users. -/
def step (slots : Nat) : AuthorityEvent V → AuthorityRun V → Prop
  | .openAuthority script, s' => s' = s.openAuthority script
  | .stageInitial elapsed states stamp script, s' =>
      ∃ a, s.generations.allocators s.me = some a ∧
        s' = s.stageInitial sdk a elapsed states stamp script
  | .commitInitial, s' => ∃ staged, s.staged = some staged ∧ s' = s.commitInitial staged
  | .dropInitial, s' => s' = { s with staged := none }
  | .beginObservation domain, s' =>
      s' = { s with
        observations :=
          .began ⟨domain, s.authority.observationRevisions domain⟩ :: s.observations }
  | .publishDomain update cause control stamps script, s' =>
      ∃ a, s.generations.allocators s.me = some a ∧
        s' = (s.publishDomain sdk a update cause control stamps script).2
  | .publishCommandResult outcome stamps script, s' =>
      ∃ a, s.generations.allocators s.me = some a ∧
        s' = (s.publishCommandResult sdk a outcome stamps script).2
  | .subscribe i, s' =>
      ∃ snapshot, s.authority.latestSnapshot = some snapshot ∧
        s' = { s with
          subscribers := Function.update s.subscribers i
            (some (.new snapshot s.authority.events.length)) }
  | .recv i, s' =>
      ∃ subscriber subscriber', s.subscribers i = some subscriber ∧
        subscriber.recv slots s.authority.events = some subscriber' ∧
        s' = { s with subscribers := Function.update s.subscribers i (some subscriber') }
  | .leave i, s' => s' = { s with subscribers := Function.update s.subscribers i none }
  | .others e, s' =>
      (∀ call script, e ≠ .call s.me call script) ∧
        ∃ generations, s.generations.step e generations ∧
          s' = { s with generations := generations }

/-- Before the first authority is opened. -/
def start (V : DesktopDomainId → Type) (generations : GenerationRun) : AuthorityRun V :=
  { authority := .new V
    generations := generations
    me := generations.count
    staged := none
    subscribers := fun _ => none
    snapshots := []
    observations := [] }

end AuthorityRun

/-- All runs of authorities one after another over one generation file, with all their
producers, commands and subscribers. -/
def authoritySystem (slots : Nat) : System (AuthorityRun V) (AuthorityEvent V) where
  initial s := ∃ generations script, generationSystem.Reachable generations ∧
    (GenerationAllocator.open.run script ⟨generations.files, .new 64⟩).1 = .ok () ∧
      s = (AuthorityRun.start V generations).openAuthority script
  step s e s' := s.step sdk slots e s'

end Runs

end Desktop
end SleepySession
