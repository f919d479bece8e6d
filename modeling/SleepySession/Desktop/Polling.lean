import SleepySession.Desktop.Observations

/-!
# Producers that poll

A producer that polls sends what it has read only if that differs from what it
has sent before, and is not told whether the authority has taken it.  Between
the two is a channel, which one aggregator empties.  What a producer has sent
last is what the authority holds, unless a request has changed the domain since
the producer looked.
-/

namespace SleepySession
namespace Desktop

open Sessiond

section Model

variable {V : DesktopDomainId → Type}

instance [∀ domain, DecidableEq (V domain)] : DecidableEq (DesktopDomainState V) :=
  fun a b => decidable_of_iff
    (a.domain = b.domain ∧ a.status = b.status ∧ a.value = b.value ∧ a.diagnostic = b.diagnostic)
    ⟨fun h => by
      obtain ⟨domain, status, value, diagnostic, valid⟩ := a
      obtain ⟨rfl, rfl, rfl, rfl⟩ := h
      rfl,
    fun h => by
      subst h
      exact ⟨rfl, rfl, rfl, rfl⟩⟩

/-- Where an attempt of a polling producer stands, with what had been recorded when it began to
look. -/
inductive PollStage (V : DesktopDomainId → Type) where
  /-- Between two ticks. -/
  | waiting
  | probing (observation : DesktopObservation) (since : List ObservationRecord)
  /-- The update waits for a place in the channel. -/
  | sending (update : DesktopDomainUpdate V) (since : List ObservationRecord)
  /-- The attempt is over and not yet reported. -/
  | ended

/-- A tick of `poll_updates` once its probe has returned. -/
def finishTick [DecidableEq (DesktopDomainState V)] (previous : Option (DesktopDomainState V))
    (observation : DesktopObservation) (since : List ObservationRecord) :
    Option (DesktopDomainState V) → PollStage V
  | none => .waiting
  | some current =>
      if previous = some current then .waiting
      else
        match observation.finish current with
        | .error _ => .ended
        | .ok update => .sending update since

/-- The authority, one polling producer and what it has in the channel. -/
structure PollingRun (V : DesktopDomainId → Type) where
  run : AuthorityRun V
  stage : PollStage V
  previous : Option (DesktopDomainState V)
  /-- The updates of the domain in the channel, oldest first. -/
  queue : List (DesktopDomainUpdate V)
  /-- Whether the aggregator has met no error. -/
  aggregating : Bool
  /-- What had been recorded when the producer began to look at `previous`. -/
  noted : List ObservationRecord

inductive PollingEvent (V : DesktopDomainId → Type) where
  /-- Other producers, the commands and the subscribers use the authority. -/
  | authority (e : AuthorityEvent V)
  | tick
  | probed (current : Option (DesktopDomainState V))
  | sent
  /-- The attempt returns, panics or is cancelled. -/
  | ended
  /-- The wrapper reports the end of an attempt and begins another. -/
  | reported (diagnostic : String)
  /-- The aggregator receives an update of the domain. -/
  | received (control : Nat → ControlState) (stamps : Stamps) (script : GenerationScript)
  /-- The aggregator returns. -/
  | stopped

/-- What others do to the authority: requests alone publish the domain of another's producer. -/
def Outside (domain : DesktopDomainId) : AuthorityEvent V → Prop
  | .openAuthority _ => False
  | .publishDomain update cause _ _ _ => update.state.domain ≠ domain ∨ cause.kind = .request
  | _ => True

namespace PollingRun

variable (sdk : DesktopSdk V) (p : PollingRun V)

def start (run : AuthorityRun V) : PollingRun V :=
  ⟨run, .waiting, none, [], true, []⟩

/-- A tick with its `begin_observation`. -/
def tick (domain : DesktopDomainId) : PollingRun V :=
  let observation := ⟨domain, p.run.authority.observationRevisions domain⟩
  let records := .began observation :: p.run.observations
  { p with
    run := { p.run with observations := records }
    stage := .probing observation records }

/-- The update is in the channel. -/
def sent (update : DesktopDomainUpdate V) (since : List ObservationRecord) : PollingRun V :=
  { p with
    stage := .waiting
    previous := some update.state
    queue := p.queue ++ [update]
    noted := since }

/-- The wrapper sends the state of a failed attempt; the next one knows of nothing sent. -/
def reported (state : DesktopDomainState V) : PollingRun V :=
  { p with
    stage := .waiting
    previous := none
    queue := p.queue ++ [.unversioned state] }

/-- A round of the aggregator; after an error there is none. -/
def receive (a : GenerationAllocator) (update : DesktopDomainUpdate V)
    (rest : List (DesktopDomainUpdate V)) (control : Nat → ControlState) (stamps : Stamps)
    (script : GenerationScript) : PollingRun V :=
  let published := p.run.publishDomain sdk a update ⟨.external, none⟩ (some control) stamps script
  { p with
    run := published.2
    queue := rest
    aggregating :=
      match published.1 with
      | .ok _ => p.aggregating
      | _ => false }

def step [DecidableEq (DesktopDomainState V)] (slots : Nat) (domain : DesktopDomainId) :
    PollingEvent V → PollingRun V → Prop
  | .authority e, p' =>
      Outside domain e ∧ ∃ run, p.run.step sdk slots e run ∧ p' = { p with run := run }
  | .tick, p' => p.stage = .waiting ∧ p' = p.tick domain
  | .probed current, p' =>
      ∃ observation since, p.stage = .probing observation since ∧
        p' = { p with stage := finishTick p.previous observation since current }
  | .sent, p' =>
      ∃ update since, p.stage = .sending update since ∧ p.aggregating = true ∧
        p' = p.sent update since
  | .ended, p' => p' = { p with stage := .ended }
  | .reported diagnostic, p' =>
      p.stage = .ended ∧ p.aggregating = true ∧
        ∃ state, DesktopDomainState.terminal domain .error diagnostic = .ok state ∧
          p' = p.reported state
  | .received control stamps script, p' =>
      -- a publication that is under way outlives the aggregator
      ∃ a update rest, p.run.generations.allocators p.run.me = some a ∧
        p.queue = update :: rest ∧ p' = p.receive sdk a update rest control stamps script
  | .stopped, p' => p' = { p with aggregating := false }

end PollingRun

/-- The runs of the attempts of one polling producer in one process. -/
def pollingSystem (sdk : DesktopSdk V) [DecidableEq (DesktopDomainState V)] (slots : Nat)
    (domain : DesktopDomainId) : System (PollingRun V) (PollingEvent V) where
  initial p := (authoritySystem sdk slots).Reachable p.run ∧ p = .start p.run
  step p e p' := p.step sdk slots domain e p'

/-- The state of a domain that the authority holds. -/
def AuthorityRun.held (s : AuthorityRun V) (domain : DesktopDomainId) :
    Option (DesktopDomainState V) :=
  s.authority.states.bind fun states => states domain

end Model

section Publications

variable {V : DesktopDomainId → Type} {sdk : DesktopSdk V} {slots : Nat}
variable {s s' : AuthorityRun V} {domain : DesktopDomainId}

theorem AuthorityRun.held_of_insert {current : StateMap V} {state : DesktopDomainState V}
    (h : s.authority.states = some (current.insert domain state)) :
    s.held domain = some state := by
  simp [AuthorityRun.held, h, StateMap.insert]

theorem AuthorityRun.held_of_insert_ne {current : StateMap V} {other : DesktopDomainId}
    {state : DesktopDomainState V} (hne : other ≠ domain)
    (hcurrent : s.authority.states = some current)
    (h : s'.authority.states = some (current.insert other state)) :
    s'.held domain = s.held domain := by
  simp [AuthorityRun.held, h, hcurrent, StateMap.insert, Ne.symm hne]

/-- What a publication comes to. -/
inductive Publication (s : AuthorityRun V) (update : DesktopDomainUpdate V) (cause : EventCause) :
    Outcome IoError (Option (DesktopEnvelope V)) × AuthorityRun V → Prop where
  | discarded {expected : Nat}
      (hexpected : expected ∈ update.observationRevision)
      (hne : expected ≠ s.authority.observationRevisions update.state.domain) :
      Publication s update cause (.ok none, s)
  | published {envelope : DesktopEnvelope V} {s' : AuthorityRun V} {current : StateMap V}
      {shown : DesktopDomainState V}
      (hcurrent : s.authority.states = some current)
      (hshown : shown = update.state ∨ shown = contractInvalid V update.state.domain)
      (hstates : s'.authority.states = some (current.insert update.state.domain shown))
      (hobservations : s'.observations = AuthorityRun.record update cause s.observations) :
      Publication s update cause (.ok (some envelope), s')
  | failed {outcome : Outcome IoError (Option (DesktopEnvelope V))} {s' : AuthorityRun V}
      (houtcome : ∀ r, outcome ≠ .ok r)
      (hstates : s'.authority.states = s.authority.states)
      (hobservations : s'.observations = s.observations) :
      Publication s update cause (outcome, s')

/-- An update is only discarded because of its revision. -/
theorem preparePublication_none {authority : DesktopStateAuthority V}
    {control : PublicationControl} {update : DesktopDomainUpdate V}
    (h : preparePublication sdk authority control update = .ok none) :
    ∃ expected ∈ update.observationRevision,
      expected ≠ authority.observationRevisions update.state.domain := by
  obtain ⟨_, -, h⟩ := except_bind_ok h
  obtain ⟨_, -, h⟩ := except_bind_ok h
  obtain ⟨_, -, h⟩ := except_bind_ok h
  cases hstates : authority.states with
  | none =>
      rw [hstates] at h
      cases h
  | some current =>
      rw [hstates] at h
      simp only at h
      split at h
      · assumption
      · obtain ⟨result, -, h⟩ := except_bind_ok h
        obtain ⟨_, -, h⟩ := except_bind_ok h
        cases h

theorem publication_of_publishDomain (a : GenerationAllocator) (update : DesktopDomainUpdate V)
    (cause : EventCause) (control : PublicationControl) (stamps : Stamps)
    (script : GenerationScript) :
    Publication s update cause (s.publishDomain sdk a update cause control stamps script) := by
  have hpublishes := publishes sdk s a update cause control stamps script
  generalize s.publishDomain sdk a update cause control stamps script = result at hpublishes ⊢
  cases hpublishes with
  | discarded hprepare =>
      obtain ⟨expected, hexpected, hne⟩ := preparePublication_none hprepare
      exact .discarded hexpected hne
  | refused e => exact .failed (fun r h => by cases h) rfl rfl
  | failed hallocate hresult => exact .failed (fun r => hresult r) rfl rfl
  | published hprepare hallocate hfinish =>
      obtain ⟨current, shown, hcurrent, hdomain, hstates, -, hshown, -⟩ :=
        preparePublication_some hprepare
      obtain ⟨-, -, hstates', -⟩ := finishPublication_ok hfinish
      refine .published hcurrent hshown ?_ rfl
      rw [← hdomain, ← hstates]
      exact hstates'

/-- The records grow, and the state of a domain stays until a request changes it. -/
def Grown (domain : DesktopDomainId) (s s' : AuthorityRun V) : Prop :=
  ∃ newer, s'.observations = newer ++ s.observations ∧
    (.confirmed domain ∉ newer → ∀ state, s.held domain = some state →
      s'.held domain = some state)

theorem Grown.same (hstates : s'.authority.states = s.authority.states)
    (hobservations : s'.observations = s.observations) : Grown domain s s' :=
  ⟨[], hobservations, fun _ state h => by rwa [AuthorityRun.held, hstates]⟩

theorem Publication.grown {update : DesktopDomainUpdate V} {cause : EventCause}
    {result : Outcome IoError (Option (DesktopEnvelope V)) × AuthorityRun V}
    (h : Publication s update cause result)
    (houtside : update.state.domain ≠ domain ∨ cause.kind = .request) :
    Grown domain s result.2 := by
  cases h with
  | discarded hexpected hne => exact .same rfl rfl
  | failed houtcome hstates hobservations => exact .same hstates hobservations
  | @published envelope s' current shown hcurrent hshown hstates hobservations =>
      refine ⟨_, hobservations, fun hconfirmed state hstate => ?_⟩
      by_cases hdomain : update.state.domain = domain
      · subst hdomain
        refine absurd ?_ hconfirmed
        rw [if_pos (houtside.resolve_left fun hne => hne rfl)]
        exact List.mem_append_left _ List.mem_cons_self
      · rw [AuthorityRun.held_of_insert_ne hdomain hcurrent hstates]
        exact hstate

theorem stageInitial_kept (a : GenerationAllocator) (elapsed : Nat → Bool) (states : StateMap V)
    (stamp : Stamp) (script : GenerationScript) :
    Grown domain s (s.stageInitial sdk a elapsed states stamp script) := by
  have hstages := stages sdk s a elapsed states stamp script
  generalize s.stageInitial sdk a elapsed states stamp script = result at hstages ⊢
  cases hstages with
  | refused => exact .same rfl rfl
  | failed hallocate => exact .same rfl rfl
  | staged hprepare hallocate hfinish => exact .same rfl rfl

theorem publishCommandResult_kept (a : GenerationAllocator) (outcome : CommandOutcome)
    (stamps : Stamps) (script : GenerationScript) :
    Grown domain s (s.publishCommandResult sdk a outcome stamps script).2 := by
  have hsettles := settles sdk s a outcome stamps script
  generalize s.publishCommandResult sdk a outcome stamps script = result at hsettles ⊢
  cases hsettles with
  | refused e => exact .same rfl rfl
  | failed hallocate hresult => exact .same rfl rfl
  | settled hprepare hallocate hfinish =>
      obtain ⟨-, -, rfl⟩ := finishCommandResult_ok hfinish
      exact .same rfl rfl

/-- The step lemma of the authority. -/
theorem AuthorityRun.Invariant.grown (hs : s.Invariant sdk) {e : AuthorityEvent V}
    (houtside : Outside domain e) (h : s.step sdk slots e s') : Grown domain s s' := by
  cases e with
  | openAuthority script => exact houtside.elim
  | stageInitial elapsed states stamp script =>
      obtain ⟨a, -, rfl⟩ := h
      exact stageInitial_kept a elapsed states stamp script
  | commitInitial =>
      obtain ⟨staged, -, rfl⟩ := h
      unfold AuthorityRun.commitInitial
      rcases hs.shown with hunseen | ⟨states, snapshot, replay, hshown⟩
      · rw [hunseen.latest]
        -- nothing was held before
        refine ⟨[], rfl, fun _ state hstate => ?_⟩
        simp [AuthorityRun.held, hunseen.states] at hstate
      · rw [hshown.latest]
        exact .same rfl rfl
  | dropInitial =>
      obtain rfl := h
      exact .same rfl rfl
  | beginObservation other =>
      obtain rfl := h
      exact ⟨[_], rfl, fun _ _ hstate => hstate⟩
  | publishDomain update cause control stamps script =>
      obtain ⟨a, -, rfl⟩ := h
      exact (publication_of_publishDomain a update cause control stamps script).grown houtside
  | publishCommandResult outcome stamps script =>
      obtain ⟨a, -, rfl⟩ := h
      exact publishCommandResult_kept a outcome stamps script
  | subscribe i =>
      obtain ⟨snapshot, -, rfl⟩ := h
      exact .same rfl rfl
  | recv i =>
      obtain ⟨subscriber, subscriber', -, -, rfl⟩ := h
      exact .same rfl rfl
  | leave i =>
      obtain rfl := h
      exact .same rfl rfl
  | others e =>
      obtain ⟨-, generations, -, rfl⟩ := h
      exact .same rfl rfl

end Publications

section Runs

variable {V : DesktopDomainId → Type} {sdk : DesktopSdk V} {slots : Nat}
variable {s s' : AuthorityRun V} {p p' : PollingRun V} {domain : DesktopDomainId}
variable {update : DesktopDomainUpdate V} {since : List ObservationRecord}
variable {state : DesktopDomainState V}

theorem Grown.suffix (h : Grown domain s s') (hsince : since <:+ s.observations) :
    since <:+ s'.observations := by
  obtain ⟨newer, hobservations, -⟩ := h
  rw [hobservations]
  exact hsince.trans (List.suffix_append _ _)

/-- A state is held, or in its place the failure of the registry. -/
def Shows (domain : DesktopDomainId) (s : AuthorityRun V) (state : DesktopDomainState V) : Prop :=
  s.held domain = some state ∨ s.held domain = some (contractInvalid V domain)

/-- A state is held unless a request has changed the domain since. -/
def ShowsSince (domain : DesktopDomainId) (s : AuthorityRun V) (since : List ObservationRecord)
    (state : DesktopDomainState V) : Prop :=
  ∃ newer, s.observations = newer ++ since ∧ (.confirmed domain ∉ newer → Shows domain s state)

theorem ShowsSince.grown (h : ShowsSince domain s since state) (hgrown : Grown domain s s') :
    ShowsSince domain s' since state := by
  obtain ⟨newer, hnewer, hshows⟩ := h
  obtain ⟨newest, hnewest, hkept⟩ := hgrown
  refine ⟨newest ++ newer, by rw [hnewest, hnewer, List.append_assoc], fun hconfirmed => ?_⟩
  obtain ⟨hnone, hnone'⟩ := not_or.mp (mt List.mem_append.mpr hconfirmed)
  exact (hshows hnone').imp (hkept hnone _) (hkept hnone _)

/-- An update of the domain bears the revision of the moment at which its observation began. -/
structure Versioned (domain : DesktopDomainId) (s : AuthorityRun V)
    (since : List ObservationRecord) (update : DesktopDomainUpdate V) : Prop where
  owner : update.state.domain = domain
  revision : update.observationRevision = some (since.count (.confirmed domain) % 2 ^ 64)
  began : since <:+ s.observations

theorem Versioned.grown (h : Versioned domain s since update) (hgrown : Grown domain s s') :
    Versioned domain s' since update :=
  ⟨h.owner, h.revision, hgrown.suffix h.began⟩

theorem Publication.suffix {cause : EventCause}
    {result : Outcome IoError (Option (DesktopEnvelope V)) × AuthorityRun V}
    (h : Publication s update cause result) : s.observations <:+ result.2.observations := by
  cases h with
  | discarded hexpected hne => exact List.suffix_rfl
  | published hcurrent hshown hstates hobservations =>
      rw [hobservations]
      exact List.suffix_append _ _
  | failed houtcome hstates hobservations => exact hobservations ▸ List.suffix_rfl

/-- The aggregator is done with an update: it is shown, or a request came in between. -/
theorem Publication.showsSince (hs : s.Revised) (h : Versioned domain s since update)
    {result : Outcome IoError (Option (DesktopEnvelope V)) × AuthorityRun V}
    (hpublication : Publication s update ⟨.external, none⟩ result)
    (hok : ∃ r, result.1 = .ok r) : ShowsSince domain result.2 since update.state := by
  obtain ⟨newer, hnewer⟩ := h.began
  obtain ⟨newest, hnewest⟩ := hpublication.suffix
  cases hpublication with
  | @discarded expected hexpected hne =>
      refine ⟨newer, hnewer.symm, fun hconfirmed => absurd ?_ hne⟩
      rw [h.revision] at hexpected
      obtain rfl := Option.some.inj hexpected
      rw [h.owner, hs.current domain, ← hnewer, List.count_append,
        List.count_eq_zero.mpr hconfirmed, Nat.zero_add]
  | @published envelope s' current shown hcurrent hshown hstates hobservations =>
      have hheld : s'.held domain = some shown :=
        AuthorityRun.held_of_insert (h.owner ▸ hstates)
      refine ⟨newest ++ newer, ?_, fun _ => ?_⟩
      · rw [← hnewest, ← hnewer, List.append_assoc]
      · rcases hshown with rfl | rfl
        · exact Or.inl hheld
        · exact Or.inr (h.owner ▸ hheld)
  | failed houtcome hstates hobservations =>
      obtain ⟨r, hr⟩ := hok
      exact absurd hr (houtcome r)

/-- The invariant of a producer and its channel. -/
structure PollingRun.Invariant (sdk : DesktopSdk V) (slots : Nat) (domain : DesktopDomainId)
    (p : PollingRun V) : Prop where
  reachable : (authoritySystem sdk slots).Reachable p.run
  probing : ∀ observation since, p.stage = .probing observation since →
    observation = ⟨domain, since.count (.confirmed domain) % 2 ^ 64⟩ ∧ since <:+ p.run.observations
  sending : ∀ update since, p.stage = .sending update since → Versioned domain p.run since update
  queued : ∀ update ∈ p.queue, update.state.domain = domain
  -- what has been sent last has been dealt with, or is the last in the channel
  previous : ∀ state, p.previous = some state → p.aggregating = true →
    (p.queue = [] ∧ ShowsSince domain p.run p.noted state) ∨
      ∃ front update, p.queue = front ++ [update] ∧ update.state = state ∧
        Versioned domain p.run p.noted update

namespace PollingRun.Invariant

/-- The authority goes on while the producer stays where it is. -/
theorem advance (hp : p.Invariant sdk slots domain) {run : AuthorityRun V}
    (hrun : (authoritySystem sdk slots).Reachable run) (hgrown : Grown domain p.run run) :
    { p with run := run : PollingRun V }.Invariant sdk slots domain where
  reachable := hrun
  probing observation since hstage :=
    (hp.probing observation since hstage).imp_right hgrown.suffix
  sending update since hstage := (hp.sending update since hstage).grown hgrown
  queued := hp.queued
  previous state hprevious haggregating := by
    rcases hp.previous state hprevious haggregating with
      ⟨hqueue, hshows⟩ | ⟨front, update, hqueue, hstate, hversioned⟩
    · exact Or.inl ⟨hqueue, hshows.grown hgrown⟩
    · exact Or.inr ⟨front, update, hqueue, hstate, hversioned.grown hgrown⟩

/-- The producer goes on to another stage. -/
theorem restage (hp : p.Invariant sdk slots domain) {stage : PollStage V}
    (hprobing : ∀ observation since, stage = .probing observation since →
      observation = ⟨domain, since.count (.confirmed domain) % 2 ^ 64⟩ ∧
        since <:+ p.run.observations)
    (hsending : ∀ update since, stage = .sending update since →
      Versioned domain p.run since update) :
    { p with stage := stage : PollingRun V }.Invariant sdk slots domain :=
  ⟨hp.reachable, hprobing, hsending, hp.queued, hp.previous⟩

theorem tick (hp : p.Invariant sdk slots domain) : (p.tick domain).Invariant sdk slots domain := by
  have hrevised := AuthorityRun.revised_of_reachable hp.reachable
  have hstep : p.run.step sdk slots (.beginObservation domain) (p.tick domain).run := rfl
  have hgrown : Grown domain p.run (p.tick domain).run :=
    (AuthorityRun.invariant_of_reachable hp.reachable).grown
      (e := .beginObservation domain) trivial hstep
  refine (hp.advance (.step (e := .beginObservation domain) hp.reachable hstep) hgrown).restage
    ?_ ?_
  · rintro observation since hstage
    obtain ⟨rfl, rfl⟩ := PollStage.probing.inj hstage
    refine ⟨?_, List.suffix_rfl⟩
    rw [List.count_cons_of_ne (by simp), hrevised.current domain]
  · intro update since hstage
    cases hstage

theorem sent (hp : p.Invariant sdk slots domain) (hstage : p.stage = .sending update since) :
    (p.sent update since).Invariant sdk slots domain := by
  have hversioned := hp.sending _ _ hstage
  refine ⟨hp.reachable, fun _ _ h => (by cases h), fun _ _ h => (by cases h), ?_, ?_⟩
  · intro update' hupdate
    rcases List.mem_append.mp hupdate with hold | hnew
    · exact hp.queued _ hold
    · obtain rfl := List.mem_singleton.mp hnew
      exact hversioned.owner
  · intro state hprevious _
    exact Or.inr ⟨p.queue, update, rfl, Option.some.inj hprevious, hversioned⟩

theorem reported (hp : p.Invariant sdk slots domain) (hdomain : state.domain = domain) :
    (p.reported state).Invariant sdk slots domain := by
  refine ⟨hp.reachable, fun _ _ h => (by cases h), fun _ _ h => (by cases h), ?_,
    fun _ hprevious => (by cases hprevious)⟩
  intro update hupdate
  rcases List.mem_append.mp hupdate with hold | hnew
  · exact hp.queued _ hold
  · obtain rfl := List.mem_singleton.mp hnew
    exact hdomain

theorem receive (hp : p.Invariant sdk slots domain) {a : GenerationAllocator}
    (ha : p.run.generations.allocators p.run.me = some a)
    {rest : List (DesktopDomainUpdate V)} (hqueue : p.queue = update :: rest)
    (control : Nat → ControlState) (stamps : Stamps) (script : GenerationScript) :
    (p.receive sdk a update rest control stamps script).Invariant sdk slots domain := by
  have hpublication : Publication p.run update ⟨.external, none⟩
      (p.run.publishDomain sdk a update ⟨.external, none⟩ (some control) stamps script) :=
    publication_of_publishDomain a update _ _ stamps script
  have hreachable : (authoritySystem sdk slots).Reachable
      (p.run.publishDomain sdk a update ⟨.external, none⟩ (some control) stamps script).2 :=
    .step (e := .publishDomain update ⟨.external, none⟩ (some control) stamps script) hp.reachable
      ⟨a, ha, rfl⟩
  have hrevised := AuthorityRun.revised_of_reachable hp.reachable
  unfold PollingRun.receive
  generalize p.run.publishDomain sdk a update ⟨.external, none⟩ (some control) stamps script =
    published at hpublication hreachable
  have hsuffix : ∀ since, since <:+ p.run.observations → since <:+ published.2.observations :=
    fun since hsince => hsince.trans hpublication.suffix
  refine ⟨hreachable, fun observation since hstage => ?_, fun update' since hstage => ?_,
    fun update' hupdate => ?_, fun state hprevious haggregating => ?_⟩
  · exact (hp.probing observation since hstage).imp_right (hsuffix since)
  · have hversioned := hp.sending update' since hstage
    exact ⟨hversioned.owner, hversioned.revision, hsuffix since hversioned.began⟩
  · exact hp.queued update' (hqueue ▸ List.mem_cons_of_mem _ hupdate)
  · obtain ⟨hok, hbefore⟩ : (∃ r, published.1 = .ok r) ∧ p.aggregating = true := by
      simp only at haggregating
      split at haggregating
      · rename_i r hr
        exact ⟨⟨r, hr⟩, haggregating⟩
      · cases haggregating
    rcases hp.previous state hprevious hbefore with
      ⟨hempty, -⟩ | ⟨front, last, hlast, rfl, hversioned⟩
    · rw [hqueue] at hempty
      cases hempty
    · rw [hqueue] at hlast
      cases front with
      | nil =>
          obtain ⟨rfl, rfl⟩ := List.cons.inj hlast
          exact Or.inl ⟨rfl, hpublication.showsSince hrevised hversioned hok⟩
      | cons first front =>
          obtain ⟨-, rfl⟩ := List.cons.inj hlast
          exact Or.inr ⟨front, last, rfl, rfl, hversioned.owner, hversioned.revision,
            hsuffix _ hversioned.began⟩

variable [DecidableEq (DesktopDomainState V)]

theorem probed (hp : p.Invariant sdk slots domain) {observation : DesktopObservation}
    (hstage : p.stage = .probing observation since) (current : Option (DesktopDomainState V)) :
    { p with stage := finishTick p.previous observation since current : PollingRun V }.Invariant
      sdk slots domain := by
  obtain ⟨rfl, hsince⟩ := hp.probing _ _ hstage
  cases current with
  | none =>
      exact hp.restage (fun _ _ h => by cases h) (fun _ _ h => by cases h)
  | some state =>
      simp only [finishTick, DesktopObservation.finish]
      by_cases hsame : p.previous = some state
      · rw [if_pos hsame]
        exact hp.restage (fun _ _ h => by cases h) (fun _ _ h => by cases h)
      · rw [if_neg hsame]
        by_cases hdomain : state.domain = domain
        · rw [if_neg (not_not.mpr hdomain)]
          refine hp.restage (fun _ _ h => by cases h) fun update since' h => ?_
          obtain ⟨rfl, rfl⟩ := PollStage.sending.inj h
          exact ⟨hdomain, rfl, hsince⟩
        · rw [if_pos hdomain]
          exact hp.restage (fun _ _ h => by cases h) (fun _ _ h => by cases h)

/-- The step lemma. -/
theorem step (hp : p.Invariant sdk slots domain) {e : PollingEvent V}
    (h : p.step sdk slots domain e p') : p'.Invariant sdk slots domain := by
  cases e with
  | authority e =>
      obtain ⟨houtside, run, hstep, rfl⟩ := h
      exact hp.advance (.step hp.reachable hstep)
        ((AuthorityRun.invariant_of_reachable hp.reachable).grown houtside hstep)
  | tick =>
      obtain ⟨-, rfl⟩ := h
      exact hp.tick
  | probed current =>
      obtain ⟨observation, since, hstage, rfl⟩ := h
      exact hp.probed hstage current
  | sent =>
      obtain ⟨update, since, hstage, -, rfl⟩ := h
      exact hp.sent hstage
  | ended =>
      obtain rfl := h
      exact hp.restage (fun _ _ h => by cases h) (fun _ _ h => by cases h)
  | reported diagnostic =>
      obtain ⟨-, -, state, hstate, rfl⟩ := h
      refine hp.reported ?_
      unfold DesktopDomainState.terminal at hstate
      split at hstate
      · cases hstate
      · split at hstate
        · cases hstate
        · obtain rfl := Except.ok.inj hstate
          rfl
  | received control stamps script =>
      obtain ⟨a, update, rest, ha, hqueue, rfl⟩ := h
      exact hp.receive ha hqueue control stamps script
  | stopped =>
      obtain rfl := h
      exact ⟨hp.reachable, hp.probing, hp.sending, hp.queued,
        fun _ _ hstopped => (by cases hstopped)⟩

end PollingRun.Invariant

variable [DecidableEq (DesktopDomainState V)]

theorem PollingRun.invariant_of_reachable (h : (pollingSystem sdk slots domain).Reachable p) :
    p.Invariant sdk slots domain := by
  refine h.invariant ?_ fun p e p' hp hstep => hp.step hstep
  rintro p ⟨hrun, hp⟩
  rw [hp]
  exact ⟨hrun, fun _ _ h => (by cases h), fun _ _ h => (by cases h), fun _ h => (by cases h),
    fun _ h => (by cases h)⟩

/-- Once the channel has nothing more of a producer, the authority holds what the producer has
sent last, unless a request has changed the domain since the producer looked. -/
theorem pollers_agree_with_the_authority (h : (pollingSystem sdk slots domain).Reachable p)
    (hprevious : p.previous = some state) (hqueue : p.queue = [])
    (haggregating : p.aggregating = true) :
    ∃ newer, p.run.observations = newer ++ p.noted ∧
      (.confirmed domain ∉ newer →
        p.run.held domain = some state ∨ p.run.held domain = some (contractInvalid V domain)) := by
  have hp := PollingRun.invariant_of_reachable h
  rcases hp.previous state hprevious haggregating with
    ⟨-, hshows⟩ | ⟨front, update, hlast, -, -⟩
  · exact hshows
  · rw [hqueue] at hlast
    exact absurd hlast.symm (List.append_ne_nil_of_right_ne_nil _ (by simp))

end Runs

section Sample

/-- The producer of the battery ticks. -/
def tickedSample : PollingRun SampleValue :=
  (PollingRun.start shownSample).tick .battery

/-- It has read a state of the battery. -/
def probedSample : PollingRun SampleValue :=
  { tickedSample with stage := .sending ⟨sampleState, some 0⟩ tickedSample.run.observations }

def sentSample : PollingRun SampleValue :=
  probedSample.sent ⟨sampleState, some 0⟩ tickedSample.run.observations

/-- The aggregator has received it. -/
def polledSample : PollingRun SampleValue :=
  sentSample.receive sampleSdk ⟨64, 2, 65⟩ ⟨sampleState, some 0⟩ [] (fun _ => .active)
    ⟨sampleStamp, sampleStamp⟩ []

theorem polledSample_reachable : (pollingSystem sampleSdk 16 .battery).Reachable polledSample := by
  have hstarted : (pollingSystem sampleSdk 16 .battery).Reachable (.start shownSample) :=
    .initial ⟨shownSample_reachable, rfl⟩
  have hticked : (pollingSystem sampleSdk 16 .battery).Reachable tickedSample :=
    .step (e := .tick) hstarted ⟨rfl, rfl⟩
  have hprobed : (pollingSystem sampleSdk 16 .battery).Reachable probedSample :=
    .step (e := .probed (some sampleState)) hticked ⟨_, _, rfl, rfl⟩
  have hsent : (pollingSystem sampleSdk 16 .battery).Reachable sentSample :=
    .step (e := .sent) hprobed ⟨_, _, rfl, rfl, rfl⟩
  exact .step (e := .received (fun _ => .active) ⟨sampleStamp, sampleStamp⟩ []) hsent
    ⟨⟨64, 2, 65⟩, ⟨sampleState, some 0⟩, [], by decide, rfl, rfl⟩

/-- The authority holds the state of the battery. -/
theorem pollers_agree_with_the_authority_sample :
    polledSample.previous = some sampleState ∧
      (polledSample.run.held .battery = some sampleState ∨
        polledSample.run.held .battery = some (contractInvalid SampleValue .battery)) := by
  have hprevious : polledSample.previous = some sampleState := rfl
  obtain ⟨newer, hnewer, hshows⟩ := pollers_agree_with_the_authority polledSample_reachable
    hprevious rfl (by decide)
  refine ⟨hprevious, hshows ?_⟩
  have hrecords : .confirmed .battery ∉ polledSample.run.observations := by decide
  rw [hnewer] at hrecords
  exact fun hconfirmed => hrecords (List.mem_append_left _ hconfirmed)

end Sample

end Desktop
end SleepySession
