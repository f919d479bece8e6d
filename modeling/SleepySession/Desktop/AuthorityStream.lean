import SleepySession.Desktop.Authority
import SleepySession.Lib.Cut

/-!
# What subscribers of the desktop authority see

Every value of the latest snapshot is what the event sent with it makes of the
value before, and carries its generation.  A subscriber joins with the value
that belongs to its place in the channel, so what it has received comes to the
value that belongs to the place where it stands.
-/

namespace SleepySession
namespace Desktop

open Sessiond
open Sessiond.GenerationAllocator (Call)

variable {V : DesktopDomainId → Type} {sdk : DesktopSdk V} {slots : Nat}

section Chains

/-- An event takes one value of the latest snapshot to the next. -/
structure Links (before event after : DesktopEnvelope V) : Prop where
  generation : event.generation = after.generation
  increasing : before.generation < after.generation
  snapshots : ∃ x y, before.payload = .fullSnapshot x ∧ after.payload = .fullSnapshot y ∧
    clientApply (some x) event.payload = some y

/-- The events lead through the values of the latest snapshot, one by one. -/
structure Chain (snapshots events : List (DesktopEnvelope V)) : Prop where
  length : snapshots.length = events.length + 1
  full : ∀ replay ∈ snapshots, ∃ x, replay.payload = .fullSnapshot x
  links : ∀ k (event before after : DesktopEnvelope V), events[k]? = some event →
    snapshots[k]? = some before → snapshots[k + 1]? = some after → Links before event after

variable {snapshots events : List (DesktopEnvelope V)} {event before after : DesktopEnvelope V}

theorem Chain.single {x : DesktopSnapshot V} (h : before.payload = .fullSnapshot x) :
    Chain [before] [] :=
  ⟨rfl, fun replay hreplay => ⟨x, List.mem_singleton.mp hreplay ▸ h⟩,
    fun k event before after hevent => by simp at hevent⟩

theorem Chain.push (h : Chain snapshots events) (hlast : snapshots.getLast? = some before)
    (hlinks : Links before event after) : Chain (snapshots ++ [after]) (events ++ [event]) := by
  refine ⟨by simp [h.length], ?_, fun k event' before' after' hevent hbefore hafter => ?_⟩
  · intro replay hreplay
    rcases List.mem_append.mp hreplay with hold | hnew
    · exact h.full replay hold
    · obtain ⟨x, y, -, hy, -⟩ := hlinks.snapshots
      exact ⟨y, List.mem_singleton.mp hnew ▸ hy⟩
  · rcases Nat.lt_trichotomy k events.length with hk | rfl | hk
    · rw [List.getElem?_append_left hk] at hevent
      rw [List.getElem?_append_left (by rw [h.length]; omega)] at hbefore hafter
      exact h.links k event' before' after' hevent hbefore hafter
    · have hplace : events.length = snapshots.length - 1 := by rw [h.length]; rfl
      rw [List.getElem?_append_left (by rw [h.length]; omega), hplace,
        ← List.getLast?_eq_getElem?, hlast] at hbefore
      rw [List.getElem?_append_right le_rfl, Nat.sub_self] at hevent
      rw [List.getElem?_append_right (by rw [h.length]), h.length, Nat.sub_self] at hafter
      obtain rfl := Option.some.inj hevent
      obtain rfl := Option.some.inj hbefore
      obtain rfl := Option.some.inj hafter
      exact hlinks
    · rw [List.getElem?_eq_none (by simp; omega)] at hevent
      cases hevent

/-- What a client has got after a value of the latest snapshot and `n` further events. -/
structure Follows (snapshots received : List (DesktopEnvelope V)) (position : Nat)
    (shown : DesktopEnvelope V) (snapshot : DesktopSnapshot V) : Prop where
  place : snapshots[position]? = some shown
  payload : shown.payload = .fullSnapshot snapshot
  view : clientView received = some snapshot
  generation : received.getLast?.map (·.generation) = some shown.generation
  increasing : received.Pairwise fun a b => a.generation < b.generation
  bounded : ∀ e ∈ received, e.generation ≤ shown.generation

theorem Chain.follows (h : Chain snapshots events) {first : DesktopEnvelope V} {joined : Nat}
    (hfirst : snapshots[joined]? = some first) (n : Nat) (hn : joined + n ≤ events.length) :
    ∃ shown snapshot, Follows snapshots (first :: (events.drop joined).take n) (joined + n)
      shown snapshot := by
  induction n with
  | zero =>
      obtain ⟨x, hx⟩ := h.full first (List.mem_of_getElem? hfirst)
      refine ⟨first, x, hfirst, hx, ?_, rfl, List.pairwise_singleton _ _, fun e he => ?_⟩
      · simp [clientView, hx, clientApply]
      · rw [List.take_zero, List.mem_singleton] at he
        rw [he]
  | succ n ih =>
      obtain ⟨shown, snapshot, hshown⟩ := ih (by omega)
      obtain ⟨event, hevent⟩ : ∃ event, events[joined + n]? = some event :=
        ⟨_, List.getElem?_eq_getElem (by omega)⟩
      obtain ⟨after, hafter⟩ : ∃ after, snapshots[joined + n + 1]? = some after :=
        ⟨_, List.getElem?_eq_getElem (by rw [h.length]; omega)⟩
      have hlinks := h.links (joined + n) event shown after hevent hshown.place hafter
      obtain ⟨x, y, hx, hy, hxy⟩ := hlinks.snapshots
      obtain rfl : snapshot = x := DesktopEvent.fullSnapshot.inj (hshown.payload.symm.trans hx)
      have hreceived : first :: (events.drop joined).take (n + 1) =
          (first :: (events.drop joined).take n) ++ [event] := by
        rw [List.take_add_one, List.getElem?_drop, hevent]
        rfl
      rw [hreceived]
      refine ⟨after, y, hafter, hy, ?_, ?_, ?_, fun e he => ?_⟩
      · rw [clientView_append_singleton, hshown.view, hxy]
      · rw [List.getLast?_append]
        simp [hlinks.generation]
      · refine List.pairwise_append.mpr ⟨hshown.increasing, List.pairwise_singleton _ _, ?_⟩
        intro e he e' he'
        obtain rfl := List.mem_singleton.mp he'
        rw [hlinks.generation]
        exact (hshown.bounded e he).trans_lt hlinks.increasing
      · rcases List.mem_append.mp he with hold | hnew
        · exact (hshown.bounded e hold).trans hlinks.increasing.le
        · rw [List.mem_singleton.mp hnew, hlinks.generation]

end Chains

section Generations

/-- The generation was returned to the allocator `me`. -/
def Issued (g : GenerationRun) (me generation : Nat) : Prop :=
  ∃ r ∈ g.returned, r.who = me ∧ r.generation = generation

/-- Whatever the allocator `me` returns from now on is greater. -/
def Behind (g : GenerationRun) (me generation : Nat) : Prop :=
  ∃ r ∈ g.returned, generation ≤ r.generation ∧ (r.who = me ∨ r.generation ∈ g.before me)

/-- What the file and its users do as far as it matters for the allocator `me`. -/
structure Advanced (me : Nat) (g g' : GenerationRun) : Prop where
  invariant : g'.Invariant
  returned : ∀ r ∈ g.returned, r ∈ g'.returned
  count : g.count ≤ g'.count
  before : g'.before me = g.before me

variable {g g' : GenerationRun} {me generation : Nat}

theorem Issued.behind (h : Issued g me generation) : Behind g me generation := by
  obtain ⟨r, hr, hwho, rfl⟩ := h
  exact ⟨r, hr, le_rfl, Or.inl hwho⟩

theorem Issued.advanced (h : Issued g me generation) (hadvanced : Advanced me g g') :
    Issued g' me generation := by
  obtain ⟨r, hr, hwho, hgeneration⟩ := h
  exact ⟨r, hadvanced.returned r hr, hwho, hgeneration⟩

theorem Behind.advanced (h : Behind g me generation) (hadvanced : Advanced me g g') :
    Behind g' me generation := by
  obtain ⟨r, hr, hle, hwho⟩ := h
  refine ⟨r, hadvanced.returned r hr, hle, ?_⟩
  rw [hadvanced.before]
  exact hwho

theorem advanced_of_step (hg : g.Invariant) (hme : me < g.count) {e : GenerationEvent}
    (h : g.step e g') : Advanced me g g' := by
  suffices hkept : (∀ r ∈ g.returned, r ∈ g'.returned) ∧ g.count ≤ g'.count ∧
      g'.before me = g.before me from ⟨hg.step h, hkept.1, hkept.2.1, hkept.2.2⟩
  cases e with
  | «open» blockSize script =>
      obtain rfl := h
      cases GenerationAllocator.open.run script ⟨g.files, .new blockSize⟩ with
      | mk outcome state =>
          cases outcome with
          | ok _ =>
              exact ⟨fun _ hr => hr, Nat.le_succ _, Function.update_of_ne (Nat.ne_of_lt hme) _ _⟩
          | error e => exact ⟨fun _ hr => hr, le_rfl, rfl⟩
          | crashed => exact ⟨fun _ hr => hr, le_rfl, rfl⟩
  | call who call script =>
      obtain ⟨a, -, rfl⟩ := h
      cases call.program.run script ⟨g.files, a⟩ with
      | mk outcome state =>
          cases outcome with
          | ok result =>
              cases result with
              | none => exact ⟨fun _ hr => hr, le_rfl, rfl⟩
              | some generation =>
                  exact ⟨fun _ hr => List.mem_cons_of_mem _ hr, le_rfl, rfl⟩
          | error e => exact ⟨fun _ hr => hr, le_rfl, rfl⟩
          | crashed => exact ⟨fun _ hr => hr, le_rfl, rfl⟩
  | close who =>
      obtain rfl := h
      exact ⟨fun _ hr => hr, le_rfl, rfl⟩
  | powerLoss =>
      obtain ⟨files, -, rfl⟩ := h
      exact ⟨fun _ hr => hr, le_rfl, rfl⟩

variable {s : AuthorityRun V} {a : GenerationAllocator} {script : GenerationScript}
variable {generations : GenerationRun} {outcome : Outcome IoError Nat}

/-- The program of a call that always returns a generation. -/
theorem run_some (m : AllocatorProgram Nat) (script : GenerationScript) (state : Allocation) :
    (m >>= fun generation => pure (some generation)).run script state =
      ((m.run script state).1.map some, (m.run script state).2) := by
  rw [Program.run_bind (fun generation script state => rfl) m script state]
  cases m.run script state with
  | mk outcome state' => cases outcome <;> rfl

/-- The programs with which the authority takes a generation are calls of its allocator. -/
theorem exists_call (control : PublicationControl) :
    ∃ call : Call, call.floor = none ∧
      call.program = AuthorityRun.generationCall control >>= fun generation =>
        pure (some generation) := by
  unfold AuthorityRun.generationCall
  split
  · refine ⟨.nextWithCommit, rfl, ?_⟩
    rw [Program.bind_assoc]
    rfl
  · exact ⟨.next, rfl, rfl⟩

theorem allocate_nextGeneration :
    s.allocate a (AuthorityRun.generationCall none) script =
      s.allocate a GenerationAllocator.nextGeneration script :=
  rfl

/-- How an allocation changes the generations. -/
theorem allocate_spec (hs : s.generations.Invariant) (hme : s.me < s.generations.count)
    (ha : s.generations.allocators s.me = some a) {control : PublicationControl}
    (h : s.allocate a (AuthorityRun.generationCall control) script = (outcome, generations)) :
    Advanced s.me s.generations generations ∧
      ∀ generation, outcome = .ok generation →
        Issued generations s.me generation ∧
          ∀ old, Behind s.generations s.me old → old < generation := by
  obtain ⟨call, hfloor, hcall⟩ := exists_call control
  obtain ⟨houtcome, hgenerations⟩ := Prod.mk.inj h
  have hstep : s.generations.step (.call s.me call script) generations := by
    refine ⟨a, ha, ?_⟩
    rw [hfloor, hcall, run_some]
    exact hgenerations.symm
  have hinvariant := hs.step hstep
  refine ⟨advanced_of_step hs hme hstep, fun generation hgeneration => ?_⟩
  subst hgeneration
  have hreturned : generations.returned =
      ⟨s.me, generation, none, s.generations.before s.me⟩ :: s.generations.returned := by
    rw [← hgenerations, houtcome]
    rfl
  refine ⟨⟨_, hreturned ▸ List.mem_cons_self, rfl, rfl⟩, ?_⟩
  rintro old ⟨r, hr, hle, hwho | hbefore⟩
  · have hincreasing := hinvariant.increasing
    rw [hreturned] at hincreasing
    exact hle.trans_lt ((List.pairwise_cons.mp hincreasing).1 r hr hwho)
  · obtain ⟨-, -, -, hlater⟩ := hinvariant.results _ (hreturned ▸ List.mem_cons_self)
    exact hle.trans_lt (hlater _ hbefore)

end Generations

section Envelopes

variable {stamp : Stamp} {generation : Nat} {cause : EventCause} {payload : DesktopEvent V}
variable {event : DesktopEnvelope V}

theorem validatedEnvelope_ok
    (h : validatedEnvelope sdk stamp generation cause payload = .ok event) :
    event.generation = generation ∧ event.payload = payload := by
  obtain ⟨emittedAt, -, h⟩ := except_bind_ok h
  obtain ⟨_, -, h⟩ := except_bind_ok h
  cases h
  exact ⟨rfl, rfl⟩

variable {authority authority' : DesktopStateAuthority V} {control : PublicationControl}
variable {update : DesktopDomainUpdate V} {staged : StagedPublication V} {stamps : Stamps}
variable {replay : DesktopEnvelope V}

theorem stageStates_ok {states : StateMap V} {state : DesktopDomainState V}
    {result : StateMap V × DesktopSnapshot V} (h : stageStates sdk states state = .ok result) :
    assemble sdk result.1 = .ok result.2 ∧
      ∃ shown, result.1 = states.insert state.domain shown ∧
        (shown = state ∨ shown = contractInvalid V state.domain) := by
  unfold stageStates at h
  cases hassembled : assemble sdk (states.insert state.domain state) with
  | ok snapshot =>
      simp only [hassembled] at h
      cases h
      exact ⟨hassembled, state, rfl, Or.inl rfl⟩
  | error e =>
      simp only [hassembled] at h
      obtain ⟨failed, hfailed, h⟩ := except_bind_ok h
      obtain ⟨snapshot, hsnapshot, h⟩ := except_bind_ok h
      cases h
      rw [terminal_eq state.domain (by decide) (by decide)] at hfailed
      refine ⟨hsnapshot, failed, ?_, Or.inr (Except.ok.inj hfailed).symm⟩
      unfold StateMap.insert
      exact Function.update_idem _ _ _

/-- A prepared publication replaces the state of one domain. -/
theorem preparePublication_some
    (h : preparePublication sdk authority control update = .ok (some staged)) :
    ∃ current shown, authority.states = some current ∧
      staged.domain = update.state.domain ∧
      staged.states = current.insert staged.domain shown ∧
      assemble sdk staged.states = .ok staged.snapshot ∧
      (shown = update.state ∨ shown = contractInvalid V update.state.domain) ∧
      ∀ expected ∈ update.observationRevision,
        expected = authority.observationRevisions staged.domain := by
  obtain ⟨_, -, h⟩ := except_bind_ok h
  obtain ⟨_, -, h⟩ := except_bind_ok h
  obtain ⟨_, -, h⟩ := except_bind_ok h
  cases hstates : authority.states with
  | none =>
      rw [hstates] at h
      cases h
  | some current =>
      rw [hstates] at h
      simp only at h
      split at h
      · cases h
      · rename_i hcurrent
        obtain ⟨result, hresult, h⟩ := except_bind_ok h
        obtain ⟨_, -, h⟩ := except_bind_ok h
        cases h
        obtain ⟨hassembled, shown, hshown, hkind⟩ := stageStates_ok hresult
        refine ⟨current, shown, rfl, rfl, hshown, hassembled, hkind, fun expected hexpected => ?_⟩
        by_contra hne
        exact hcurrent ⟨expected, hexpected, hne⟩

/-- What a finished publication has stored and sent. -/
theorem finishPublication_ok
    (h : finishPublication sdk authority staged cause stamps generation =
      (.ok (event, replay), authority')) :
    (event.generation = generation ∧
        event.payload = .domainUpdate (domainUpdate staged.domain staged.snapshot)) ∧
      (replay.generation = generation ∧ replay.payload = .fullSnapshot staged.snapshot) ∧
      authority'.states = some staged.states ∧ authority'.currentGeneration = generation ∧
      authority'.latestSnapshot = some replay ∧
      authority'.observationRevisions =
        (if cause.kind = .request then
          Function.update authority.observationRevisions staged.domain
            ((authority.observationRevisions staged.domain + 1) % 2 ^ 64)
        else authority.observationRevisions) ∧
      authority'.events = authority.events ++ [event] := by
  unfold finishPublication at h
  cases hevent : validatedEnvelope sdk stamps.event generation cause
      (.domainUpdate (domainUpdate staged.domain staged.snapshot)) with
  | error e =>
      simp only [hevent, Bind.bind, Except.bind, Prod.mk.injEq, reduceCtorEq, false_and] at h
  | ok event' =>
      cases hreplay : validatedEnvelope sdk stamps.replay generation replayCause
          (.fullSnapshot staged.snapshot) with
      | error e =>
          simp only [hevent, hreplay, Bind.bind, Except.bind, Prod.mk.injEq, reduceCtorEq,
            false_and] at h
      | ok replay' =>
          simp only [hevent, hreplay, Bind.bind, Except.bind, Prod.mk.injEq, Except.ok.injEq] at h
          obtain ⟨⟨rfl, rfl⟩, rfl⟩ := h
          exact ⟨validatedEnvelope_ok hevent, validatedEnvelope_ok hreplay, rfl, rfl, rfl, rfl, rfl⟩

theorem finishCommandResult_ok {snapshot : DesktopSnapshot V} {outcome : CommandOutcome}
    (h : finishCommandResult sdk authority snapshot outcome stamps generation =
      (.ok (event, replay), authority')) :
    (event.generation = generation ∧
        event.payload = .commandResult (outcome.result sdk.wireVersion generation)) ∧
      (replay.generation = generation ∧ replay.payload = .fullSnapshot snapshot) ∧
      authority' =
        { authority with
          latestSnapshot := some replay
          currentGeneration := generation
          events := authority.events ++ [event] } := by
  unfold finishCommandResult at h
  cases hvalid : sdk.validateResult (outcome.result sdk.wireVersion generation) with
  | error e => simp only [hvalid, Prod.mk.injEq, reduceCtorEq, false_and] at h
  | ok valid =>
      cases hevent : validatedEnvelope sdk stamps.event generation
          ⟨.request, some outcome.requestId⟩
          (.commandResult (outcome.result sdk.wireVersion generation)) with
      | error e =>
          simp only [hvalid, hevent, Bind.bind, Except.bind, Prod.mk.injEq, reduceCtorEq,
            false_and] at h
      | ok event' =>
          cases hreplay : validatedEnvelope sdk stamps.replay generation replayCause
              (.fullSnapshot snapshot) with
          | error e =>
              simp only [hvalid, hevent, hreplay, Bind.bind, Except.bind, Prod.mk.injEq,
                reduceCtorEq, false_and] at h
          | ok replay' =>
              simp only [hvalid, hevent, hreplay, Bind.bind, Except.bind, Prod.mk.injEq,
                Except.ok.injEq] at h
              obtain ⟨⟨rfl, rfl⟩, rfl⟩ := h
              exact ⟨validatedEnvelope_ok hevent, validatedEnvelope_ok hreplay, rfl⟩

theorem prepareInitial_ok {elapsed : Nat → Bool} {states : StateMap V}
    {result : StateMap V × DesktopSnapshot V}
    (h : prepareInitial sdk elapsed states = .ok result) :
    assemble sdk result.1 = .ok result.2 := by
  obtain ⟨_, -, h⟩ := except_bind_ok h
  obtain ⟨localized, -, h⟩ := except_bind_ok h
  obtain ⟨_, -, h⟩ := except_bind_ok h
  obtain ⟨snapshot, hsnapshot, h⟩ := except_bind_ok h
  obtain ⟨_, -, h⟩ := except_bind_ok h
  cases h
  exact hsnapshot

theorem finishInitial_ok {elapsed : Nat → Bool} {states : StateMap V}
    {snapshot : DesktopSnapshot V} {initial : StagedInitial V}
    (h : finishInitial sdk elapsed states snapshot stamp generation = .ok initial) :
    initial.states = states ∧ initial.generation = generation ∧
      initial.event.generation = generation ∧ initial.event.payload = .fullSnapshot snapshot := by
  obtain ⟨_, -, h⟩ := except_bind_ok h
  obtain ⟨event, hevent, h⟩ := except_bind_ok h
  obtain ⟨_, -, h⟩ := except_bind_ok h
  cases h
  exact ⟨rfl, rfl, validatedEnvelope_ok hevent⟩

end Envelopes

section Invariant

/-- Nothing has been shown yet. -/
structure Unseen (authority : DesktopStateAuthority V) (snapshots : List (DesktopEnvelope V)) :
    Prop where
  states : authority.states = none
  latest : authority.latestSnapshot = none
  generation : authority.currentGeneration = 0
  events : authority.events = []
  snapshots : snapshots = []

/-- The latest snapshot is what the states come to. -/
structure Shown (sdk : DesktopSdk V) (authority : DesktopStateAuthority V)
    (snapshots : List (DesktopEnvelope V)) (states : StateMap V) (snapshot : DesktopSnapshot V)
    (replay : DesktopEnvelope V) : Prop where
  current : authority.states = some states
  assembled : assemble sdk states = .ok snapshot
  latest : authority.latestSnapshot = some replay
  generation : authority.currentGeneration = replay.generation
  payload : replay.payload = .fullSnapshot snapshot
  last : snapshots.getLast? = some replay
  chain : Chain snapshots authority.events

/-- Where a subscriber stands that has never lagged. -/
structure Subscribed (snapshots events : List (DesktopEnvelope V))
    (subscriber : DesktopSubscriber V) : Prop where
  joined : subscriber.joined ≤ subscriber.cursor
  cursor : subscriber.cursor ≤ events.length
  received : ∃ first, snapshots[subscriber.joined]? = some first ∧
    ((subscriber.replay = [first] ∧ subscriber.received = [] ∧
        subscriber.cursor = subscriber.joined) ∨
      (subscriber.replay = [] ∧ subscriber.received =
        first :: (events.drop subscriber.joined).take (subscriber.cursor - subscriber.joined)))

/-- The invariant of the authority and its subscribers. -/
structure AuthorityRun.Invariant (sdk : DesktopSdk V) (s : AuthorityRun V) : Prop where
  generations : s.generations.Invariant
  numbered : s.me < s.generations.count
  issued : ∀ replay ∈ s.snapshots, Issued s.generations s.me replay.generation
  shown : Unseen s.authority s.snapshots ∨
    ∃ states snapshot replay, Shown sdk s.authority s.snapshots states snapshot replay
  staged : ∀ staged, s.staged = some staged →
    staged.event.generation = staged.generation ∧
      Issued s.generations s.me staged.event.generation ∧ ∃ snapshot,
        assemble sdk staged.states = .ok snapshot ∧ staged.event.payload = .fullSnapshot snapshot
  subscribers : ∀ i subscriber, s.subscribers i = some subscriber → subscriber.lagged = false →
    Subscribed s.snapshots s.authority.events subscriber

variable {s s' : AuthorityRun V} {generations : GenerationRun}
variable {snapshots events : List (DesktopEnvelope V)}
variable {subscriber subscriber' : DesktopSubscriber V}

/-- What is sent later does not move a subscriber. -/
theorem Subscribed.extend (h : Subscribed snapshots events subscriber)
    (snapshots' events' : List (DesktopEnvelope V)) :
    Subscribed (snapshots ++ snapshots') (events ++ events') subscriber := by
  obtain ⟨first, hfirst, hplace⟩ := h.received
  have hlength : subscriber.joined < snapshots.length :=
    (List.getElem?_eq_some_iff.mp hfirst).1
  refine ⟨h.joined, h.cursor.trans (by simp), first, ?_, ?_⟩
  · rw [List.getElem?_append_left hlength]
    exact hfirst
  · rcases hplace with hwaiting | ⟨hreplay, hreceived⟩
    · exact Or.inl hwaiting
    · refine Or.inr ⟨hreplay, ?_⟩
      have hcursor := h.cursor
      rw [List.drop_append_of_le_length (h.joined.trans hcursor),
        List.take_append_of_le_length (by rw [List.length_drop]; omega)]
      exact hreceived

/-- What `recv` does: replay, skip what the channel no longer holds, or go on to the next event. -/
theorem recv_cases (hrecv : subscriber.recv slots events = some subscriber') :
    (∃ event replay, subscriber.replay = event :: replay ∧ subscriber' =
      { subscriber with replay := replay, received := subscriber.received ++ [event] }) ∨
    (subscriber.replay = [] ∧ subscriber.cursor + slots < events.length ∧
      subscriber' = { subscriber with cursor := events.length - slots, lagged := true }) ∨
    ∃ event, subscriber.replay = [] ∧ events[subscriber.cursor]? = some event ∧ subscriber' =
      { subscriber with
        cursor := subscriber.cursor + 1, received := subscriber.received ++ [event] } := by
  unfold DesktopSubscriber.recv at hrecv
  cases hreplay : subscriber.replay with
  | cons event replay =>
      rw [hreplay] at hrecv
      exact Or.inl ⟨event, replay, rfl, (Option.some.inj hrecv).symm⟩
  | nil =>
      rw [hreplay] at hrecv
      simp only at hrecv
      split at hrecv
      case isTrue hlags =>
        exact Or.inr (Or.inl ⟨rfl, hlags, (Option.some.inj hrecv).symm⟩)
      case isFalse =>
        cases hevent : events[subscriber.cursor]? with
        | none =>
            rw [hevent] at hrecv
            cases hrecv
        | some event =>
            rw [hevent] at hrecv
            exact Or.inr (Or.inr ⟨event, rfl, rfl, (Option.some.inj hrecv).symm⟩)

/-- The step lemma of `recv`. -/
theorem Subscribed.recv (h : Subscribed snapshots events subscriber)
    (hrecv : subscriber.recv slots events = some subscriber') (hlagged : subscriber'.lagged = false) :
    Subscribed snapshots events subscriber' := by
  obtain ⟨first, hfirst, hplace⟩ := h.received
  obtain ⟨event, replay, hreplay, rfl⟩ | ⟨-, -, rfl⟩ | ⟨event, hreplay, hevent, rfl⟩ :=
    recv_cases hrecv
  · rcases hplace with ⟨hfull, hreceived, hcursor⟩ | ⟨hempty, -⟩
    · obtain ⟨rfl, rfl⟩ := List.cons.inj (hreplay.symm.trans hfull)
      refine ⟨h.joined, h.cursor, event, hfirst, Or.inr ⟨rfl, ?_⟩⟩
      simp [hreceived, hcursor]
    · rw [hempty] at hreplay
      cases hreplay
  · cases hlagged
  · rcases hplace with ⟨hfull, -⟩ | ⟨-, hreceived⟩
    · rw [hreplay] at hfull
      cases hfull
    · have hlength : subscriber.cursor < events.length :=
        (List.getElem?_eq_some_iff.mp hevent).1
      refine ⟨h.joined.trans (Nat.le_succ _), hlength, first, hfirst, Or.inr ⟨hreplay, ?_⟩⟩
      have hjoined := h.joined
      have hplace : subscriber.joined + (subscriber.cursor - subscriber.joined) =
          subscriber.cursor := by omega
      simp only [hreceived]
      rw [show subscriber.cursor + 1 - subscriber.joined =
        subscriber.cursor - subscriber.joined + 1 by omega, List.take_add_one,
        List.getElem?_drop, hplace, hevent]
      rfl

/-- A subscriber that has lagged stays so. -/
theorem lagged_of_recv (hrecv : subscriber.recv slots events = some subscriber')
    (hlagged : subscriber'.lagged = false) : subscriber.lagged = false := by
  obtain ⟨event, replay, -, rfl⟩ | ⟨-, -, rfl⟩ | ⟨event, -, -, rfl⟩ := recv_cases hrecv
  · exact hlagged
  · cases hlagged
  · exact hlagged

/-- What `publish_domain_transaction` can do. -/
inductive Publishes (sdk : DesktopSdk V) (s : AuthorityRun V) (a : GenerationAllocator)
    (update : DesktopDomainUpdate V) (cause : EventCause) (control : PublicationControl)
    (stamps : Stamps) (script : GenerationScript) :
    Outcome IoError (Option (DesktopEnvelope V)) × AuthorityRun V → Prop where
  | discarded (hprepare : preparePublication sdk s.authority control update = .ok none) :
      Publishes sdk s a update cause control stamps script (.ok none, s)
  | refused (e : IoError) : Publishes sdk s a update cause control stamps script (.error e, s)
  /-- It fails with its generation, or without one. -/
  | failed {outcome : Outcome IoError Nat} {generations : GenerationRun}
      {result : Outcome IoError (Option (DesktopEnvelope V))}
      (hallocate : s.allocate a (AuthorityRun.generationCall control) script =
        (outcome, generations))
      (hresult : ∀ event, result ≠ .ok event) :
      Publishes sdk s a update cause control stamps script
        (result, { s with generations := generations })
  | published {staged : StagedPublication V} {generation : Nat} {generations : GenerationRun}
      {event replay : DesktopEnvelope V} {authority : DesktopStateAuthority V}
      (hprepare : preparePublication sdk s.authority control update = .ok (some staged))
      (hallocate : s.allocate a (AuthorityRun.generationCall control) script =
        (.ok generation, generations))
      (hfinish : finishPublication sdk s.authority staged cause stamps generation =
        (.ok (event, replay), authority)) :
      Publishes sdk s a update cause control stamps script
        (.ok (some event), { s with
          generations := generations
          authority := authority
          snapshots := s.snapshots ++ [replay]
          observations := AuthorityRun.record update cause s.observations })

theorem publishes (sdk : DesktopSdk V) (s : AuthorityRun V) (a : GenerationAllocator)
    (update : DesktopDomainUpdate V) (cause : EventCause) (control : PublicationControl)
    (stamps : Stamps) (script : GenerationScript) :
    Publishes sdk s a update cause control stamps script
      (s.publishDomain sdk a update cause control stamps script) := by
  unfold AuthorityRun.publishDomain
  cases hprepare : preparePublication sdk s.authority control update with
  | error e => exact .refused e
  | ok prepared =>
      cases prepared with
      | none => exact .discarded hprepare
      | some staged =>
          cases hallocate : s.allocate a (AuthorityRun.generationCall control) script with
          | mk outcome generations =>
              cases outcome with
              | error e => exact .failed hallocate fun _ h => (by cases h)
              | crashed => exact .failed hallocate fun _ h => (by cases h)
              | ok generation =>
                  simp only
                  cases hfinish :
                      finishPublication sdk s.authority staged cause stamps generation with
                  | mk result authority =>
                      cases result with
                      | error e => exact .failed hallocate fun _ h => (by cases h)
                      | ok envelopes => exact .published hprepare hallocate hfinish

/-- What `publish_command_result` can do. -/
inductive Settles (sdk : DesktopSdk V) (s : AuthorityRun V) (a : GenerationAllocator)
    (outcome : CommandOutcome) (stamps : Stamps) (script : GenerationScript) :
    Outcome IoError (DesktopEnvelope V × DesktopResult) × AuthorityRun V → Prop where
  | refused (e : IoError) : Settles sdk s a outcome stamps script (.error e, s)
  /-- It fails with its generation, or without one. -/
  | failed {allocated : Outcome IoError Nat} {generations : GenerationRun}
      {result : Outcome IoError (DesktopEnvelope V × DesktopResult)}
      (hallocate : s.allocate a GenerationAllocator.nextGeneration script =
        (allocated, generations))
      (hresult : ∀ answer, result ≠ .ok answer) :
      Settles sdk s a outcome stamps script (result, { s with generations := generations })
  | settled {snapshot : DesktopSnapshot V} {generation : Nat} {generations : GenerationRun}
      {event replay : DesktopEnvelope V} {authority : DesktopStateAuthority V}
      (hprepare : prepareCommandResult sdk s.authority = .ok snapshot)
      (hallocate : s.allocate a GenerationAllocator.nextGeneration script =
        (.ok generation, generations))
      (hfinish : finishCommandResult sdk s.authority snapshot outcome stamps generation =
        (.ok (event, replay), authority)) :
      Settles sdk s a outcome stamps script
        (.ok (event, outcome.result sdk.wireVersion generation), { s with
          generations := generations
          authority := authority
          snapshots := s.snapshots ++ [replay] })

theorem settles (sdk : DesktopSdk V) (s : AuthorityRun V) (a : GenerationAllocator)
    (outcome : CommandOutcome) (stamps : Stamps) (script : GenerationScript) :
    Settles sdk s a outcome stamps script
      (s.publishCommandResult sdk a outcome stamps script) := by
  unfold AuthorityRun.publishCommandResult
  cases hprepare : prepareCommandResult sdk s.authority with
  | error e => exact .refused e
  | ok snapshot =>
      cases hallocate : s.allocate a GenerationAllocator.nextGeneration script with
      | mk allocated generations =>
          cases allocated with
          | error e => exact .failed hallocate fun _ h => (by cases h)
          | crashed => exact .failed hallocate fun _ h => (by cases h)
          | ok generation =>
              simp only
              cases hfinish :
                  finishCommandResult sdk s.authority snapshot outcome stamps generation with
              | mk result authority =>
                  cases result with
                  | error e => exact .failed hallocate fun _ h => (by cases h)
                  | ok envelopes => exact .settled hprepare hallocate hfinish

/-- What the first critical section of `initialize` can do. -/
inductive Stages (sdk : DesktopSdk V) (s : AuthorityRun V) (a : GenerationAllocator)
    (elapsed : Nat → Bool) (states : StateMap V) (stamp : Stamp) (script : GenerationScript) :
    AuthorityRun V → Prop where
  | refused : Stages sdk s a elapsed states stamp script s
  | failed {allocated : Outcome IoError Nat} {generations : GenerationRun}
      (hallocate : s.allocate a GenerationAllocator.nextGeneration script =
        (allocated, generations)) :
      Stages sdk s a elapsed states stamp script { s with generations := generations }
  | staged {localized : StateMap V} {snapshot : DesktopSnapshot V} {generation : Nat}
      {generations : GenerationRun} {initial : StagedInitial V}
      (hprepare : prepareInitial sdk elapsed states = .ok (localized, snapshot))
      (hallocate : s.allocate a GenerationAllocator.nextGeneration script =
        (.ok generation, generations))
      (hfinish : finishInitial sdk elapsed localized snapshot stamp generation = .ok initial) :
      Stages sdk s a elapsed states stamp script
        { s with generations := generations, staged := some initial }

theorem stages (sdk : DesktopSdk V) (s : AuthorityRun V) (a : GenerationAllocator)
    (elapsed : Nat → Bool) (states : StateMap V) (stamp : Stamp) (script : GenerationScript) :
    Stages sdk s a elapsed states stamp script
      (s.stageInitial sdk a elapsed states stamp script) := by
  unfold AuthorityRun.stageInitial
  cases s.authority.latestSnapshot with
  | some existing => exact .refused
  | none =>
      cases hprepare : prepareInitial sdk elapsed states with
      | error e => exact .refused
      | ok prepared =>
          simp only
          cases hallocate : s.allocate a GenerationAllocator.nextGeneration script with
          | mk allocated generations =>
              cases allocated with
              | error e => exact .failed hallocate
              | crashed => exact .failed hallocate
              | ok generation =>
                  simp only
                  cases hfinish :
                      finishInitial sdk elapsed prepared.1 prepared.2 stamp generation with
                  | error e => exact .failed hallocate
                  | ok initial => exact .staged hprepare hallocate hfinish

namespace AuthorityRun.Invariant

/-- Only the generations have changed. -/
theorem regenerate (hs : s.Invariant sdk) {generations : GenerationRun}
    (hadvanced : Advanced s.me s.generations generations) :
    { s with generations := generations : AuthorityRun V }.Invariant sdk :=
  { generations := hadvanced.invariant
    numbered := hs.numbered.trans_le hadvanced.count
    issued := fun replay hreplay => (hs.issued replay hreplay).advanced hadvanced
    shown := hs.shown
    staged := fun staged hstaged =>
      ⟨(hs.staged staged hstaged).1, (hs.staged staged hstaged).2.1.advanced hadvanced,
        (hs.staged staged hstaged).2.2⟩
    subscribers := hs.subscribers }

/-- The first snapshot is staged, or given up. -/
theorem restage (hs : s.Invariant sdk) {staged : Option (StagedInitial V)}
    (h : ∀ initial, staged = some initial → initial.event.generation = initial.generation ∧
      Issued s.generations s.me initial.event.generation ∧ ∃ snapshot,
        assemble sdk initial.states = .ok snapshot ∧
          initial.event.payload = .fullSnapshot snapshot) :
    { s with staged := staged : AuthorityRun V }.Invariant sdk :=
  { hs with
    staged := h }

/-- The records of the observations do not matter here. -/
theorem observe (hs : s.Invariant sdk) (observations : List ObservationRecord) :
    { s with observations := observations : AuthorityRun V }.Invariant sdk :=
  { hs with }

/-- One subscriber has changed. -/
theorem resubscribe (hs : s.Invariant sdk) {i : Nat} {changed : Option (DesktopSubscriber V)}
    (h : ∀ subscriber, changed = some subscriber → subscriber.lagged = false →
      Subscribed s.snapshots s.authority.events subscriber) :
    { s with subscribers := Function.update s.subscribers i changed : AuthorityRun V }.Invariant
      sdk :=
  { hs with
    subscribers := fun j subscriber hj hlagged => by
      by_cases hij : j = i
      · subst hij
        exact h subscriber (by simpa using hj) hlagged
      · exact hs.subscribers j subscriber (by simpa [hij] using hj) hlagged }

/-- A value of the latest snapshot is followed by the next one. -/
theorem push (hs : s.Invariant sdk) {states : StateMap V} {snapshot : DesktopSnapshot V}
    {before event replay : DesktopEnvelope V} {authority : DesktopStateAuthority V}
    {x : DesktopSnapshot V} {states₀ : StateMap V}
    (hshown : Shown sdk s.authority s.snapshots states₀ x before)
    (hissued : Issued s.generations s.me replay.generation)
    (hlinks : Links before event replay)
    (hstates : authority.states = some states) (hassembled : assemble sdk states = .ok snapshot)
    (hlatest : authority.latestSnapshot = some replay)
    (hgeneration : authority.currentGeneration = replay.generation)
    (hpayload : replay.payload = .fullSnapshot snapshot)
    (hevents : authority.events = s.authority.events ++ [event])
    (observations : List ObservationRecord) :
    { s with
      authority := authority
      snapshots := s.snapshots ++ [replay]
      observations := observations : AuthorityRun V }.Invariant sdk :=
  { generations := hs.generations
    numbered := hs.numbered
    issued := fun other hother => by
      rcases List.mem_append.mp hother with hold | hnew
      · exact hs.issued other hold
      · exact List.mem_singleton.mp hnew ▸ hissued
    shown := Or.inr ⟨states, snapshot, replay, hstates, hassembled, hlatest, hgeneration, hpayload,
      by simp,
      by
        have hchain := hshown.chain.push hshown.last hlinks
        simpa only [hevents] using hchain⟩
    staged := hs.staged
    subscribers := fun i subscriber hi hlagged => by
      have hsubscribed := (hs.subscribers i subscriber hi hlagged).extend [replay] [event]
      simpa only [hevents] using hsubscribed }

/-- A publication that has its generation. -/
theorem published (hs : { s with generations := generations : AuthorityRun V }.Invariant sdk)
    {control : PublicationControl} {update : DesktopDomainUpdate V} {cause : EventCause}
    {staged : StagedPublication V} {stamps : Stamps} {generation : Nat}
    {envelopes : DesktopEnvelope V × DesktopEnvelope V} {authority : DesktopStateAuthority V}
    (hprepare : preparePublication sdk s.authority control update = .ok (some staged))
    (hissued : Issued generations s.me generation ∧
      ∀ old, Behind s.generations s.me old → old < generation)
    (hold : ∀ replay ∈ s.snapshots, Issued s.generations s.me replay.generation)
    (hfinish : finishPublication sdk s.authority staged cause stamps generation =
      (.ok envelopes, authority)) :
    ({ s with generations := generations : AuthorityRun V }.afterPublication update cause
      (.ok envelopes, authority)).2.Invariant sdk := by
  obtain ⟨event, replay⟩ := envelopes
  obtain ⟨current, shown, hcurrent, -, hstates, hassembled, -⟩ :=
    preparePublication_some hprepare
  obtain ⟨⟨hgeneration, hpayload⟩, ⟨hgeneration', hpayload'⟩, hstates', hcurrent', hlatest, -, hevents⟩ :=
    finishPublication_ok hfinish
  rcases hs.shown with hunseen | ⟨states, snapshot, before, hbefore⟩
  · exact absurd (hunseen.states.symm.trans hcurrent) (by simp)
  · obtain rfl : states = current := Option.some.inj (hbefore.current.symm.trans hcurrent)
    have hmem : before ∈ s.snapshots := List.mem_of_getLast? hbefore.last
    refine hs.push hbefore (hgeneration' ▸ hissued.1) ⟨?_, ?_, ?_⟩ hstates' hassembled hlatest
      (hcurrent'.trans hgeneration'.symm) hpayload' hevents _
    · rw [hgeneration, hgeneration']
    · rw [hgeneration']
      exact hissued.2 _ (hold before hmem).behind
    · refine ⟨snapshot, staged.snapshot, hbefore.payload, hpayload', ?_⟩
      rw [hpayload]
      refine congrArg some (Eq.symm ?_)
      exact assemble_insert hbefore.assembled (hstates ▸ hassembled)

/-- A command result that has its generation. -/
theorem answered (hs : { s with generations := generations : AuthorityRun V }.Invariant sdk)
    {snapshot : DesktopSnapshot V} {outcome : CommandOutcome} {stamps : Stamps}
    {generation : Nat} {envelopes : DesktopEnvelope V × DesktopEnvelope V}
    {authority : DesktopStateAuthority V}
    (hprepare : prepareCommandResult sdk s.authority = .ok snapshot)
    (hissued : Issued generations s.me generation ∧
      ∀ old, Behind s.generations s.me old → old < generation)
    (hold : ∀ replay ∈ s.snapshots, Issued s.generations s.me replay.generation)
    (hfinish : finishCommandResult sdk s.authority snapshot outcome stamps generation =
      (.ok envelopes, authority)) :
    ({ s with generations := generations : AuthorityRun V }.afterCommandResult
      (outcome.result sdk.wireVersion generation) (.ok envelopes, authority)).2.Invariant sdk := by
  obtain ⟨event, replay⟩ := envelopes
  obtain ⟨⟨hgeneration, hpayload⟩, ⟨hgeneration', hpayload'⟩, hauthority⟩ :=
    finishCommandResult_ok hfinish
  unfold prepareCommandResult at hprepare
  rcases hs.shown with hunseen | ⟨states, x, before, hbefore⟩
  · rw [show s.authority.states = none from hunseen.states] at hprepare
    cases hprepare
  · have hcurrent : s.authority.states = some states := hbefore.current
    rw [hcurrent] at hprepare
    obtain rfl : x = snapshot := Except.ok.inj (hbefore.assembled.symm.trans hprepare)
    have hmem : before ∈ s.snapshots := List.mem_of_getLast? hbefore.last
    refine hs.push hbefore (hgeneration' ▸ hissued.1) ⟨?_, ?_, ?_⟩ (hauthority ▸ hcurrent)
      hprepare (by rw [hauthority]) (by rw [hauthority, hgeneration']) hpayload'
      (by rw [hauthority]) s.observations
    · rw [hgeneration, hgeneration']
    · rw [hgeneration']
      exact hissued.2 _ (hold before hmem).behind
    · exact ⟨x, x, hbefore.payload, hpayload', by rw [hpayload]; rfl⟩

/-- The step lemma of a publication. -/
theorem publishDomain (hs : s.Invariant sdk) {a : GenerationAllocator}
    (ha : s.generations.allocators s.me = some a) (update : DesktopDomainUpdate V)
    (cause : EventCause) (control : PublicationControl) (stamps : Stamps)
    (script : GenerationScript) :
    (s.publishDomain sdk a update cause control stamps script).2.Invariant sdk := by
  have hpublishes := publishes sdk s a update cause control stamps script
  generalize s.publishDomain sdk a update cause control stamps script = result at hpublishes ⊢
  cases hpublishes with
  | discarded hprepare => exact hs
  | refused e => exact hs
  | failed hallocate hresult =>
      exact hs.regenerate (allocate_spec hs.generations hs.numbered ha hallocate).1
  | published hprepare hallocate hfinish =>
      obtain ⟨hadvanced, hissued⟩ := allocate_spec hs.generations hs.numbered ha hallocate
      exact (hs.regenerate hadvanced).published hprepare (hissued _ rfl) hs.issued hfinish

/-- The step lemma of a command result. -/
theorem publishCommandResult (hs : s.Invariant sdk) {a : GenerationAllocator}
    (ha : s.generations.allocators s.me = some a) (outcome : CommandOutcome) (stamps : Stamps)
    (script : GenerationScript) :
    (s.publishCommandResult sdk a outcome stamps script).2.Invariant sdk := by
  have hsettles := settles sdk s a outcome stamps script
  generalize s.publishCommandResult sdk a outcome stamps script = result at hsettles ⊢
  cases hsettles with
  | refused e => exact hs
  | failed hallocate hresult =>
      exact hs.regenerate
        (allocate_spec hs.generations hs.numbered ha (allocate_nextGeneration.trans hallocate)).1
  | settled hprepare hallocate hfinish =>
      obtain ⟨hadvanced, hissued⟩ :=
        allocate_spec hs.generations hs.numbered ha (allocate_nextGeneration.trans hallocate)
      exact (hs.regenerate hadvanced).answered hprepare (hissued _ rfl) hs.issued hfinish

/-- The step lemma of the first critical section of `initialize`. -/
theorem stageInitial (hs : s.Invariant sdk) {a : GenerationAllocator}
    (ha : s.generations.allocators s.me = some a) (elapsed : Nat → Bool) (states : StateMap V)
    (stamp : Stamp) (script : GenerationScript) :
    (s.stageInitial sdk a elapsed states stamp script).Invariant sdk := by
  have hstages := stages sdk s a elapsed states stamp script
  generalize s.stageInitial sdk a elapsed states stamp script = result at hstages ⊢
  cases hstages with
  | refused => exact hs
  | failed hallocate =>
      exact hs.regenerate
        (allocate_spec hs.generations hs.numbered ha (allocate_nextGeneration.trans hallocate)).1
  | @staged localized snapshot generation generations initial hprepare hallocate hfinish =>
      obtain ⟨hadvanced, hissued⟩ :=
        allocate_spec hs.generations hs.numbered ha (allocate_nextGeneration.trans hallocate)
      obtain ⟨hstates, hgeneration, hgeneration', hpayload⟩ := finishInitial_ok hfinish
      exact (hs.regenerate hadvanced).restage fun staged' hstaged' => by
        obtain rfl := Option.some.inj hstaged'
        exact ⟨hgeneration'.trans hgeneration.symm,
          hgeneration' ▸ (hissued generation rfl).1, snapshot,
          hstates ▸ prepareInitial_ok hprepare, hpayload⟩

/-- The step lemma of the second critical section of `initialize`. -/
theorem commitInitial (hs : s.Invariant sdk) {staged : StagedInitial V}
    (hstaged : s.staged = some staged) : (s.commitInitial staged).Invariant sdk := by
  unfold AuthorityRun.commitInitial
  have hnone : { s with staged := none : AuthorityRun V }.Invariant sdk :=
    hs.restage fun staged hstaged => by cases hstaged
  rcases hs.shown with hunseen | ⟨states, snapshot, replay, hshown⟩
  · rw [hunseen.latest]
    obtain ⟨hgeneration, hissued, snapshot, hassembled, hpayload⟩ := hs.staged staged hstaged
    have hcommit : Desktop.commitInitial s.authority staged =
        { s.authority with
          states := some staged.states
          currentGeneration := staged.generation
          latestSnapshot := some staged.event } := by
      unfold Desktop.commitInitial
      rw [hunseen.latest]
    simp only [hcommit]
    exact
      { generations := hs.generations
        numbered := hs.numbered
        issued := fun replay hreplay => by
          simp only [hunseen.snapshots, List.nil_append, List.mem_singleton] at hreplay
          exact hreplay ▸ hissued
        shown := Or.inr ⟨staged.states, snapshot, staged.event, rfl, hassembled, rfl, hgeneration.symm,
          hpayload, by simp, by
            simp only [hunseen.snapshots, hunseen.events]
            exact Chain.single hpayload⟩
        staged := fun staged hstaged => by cases hstaged
        subscribers := fun i subscriber hi hlagged => by
          have hsubscribed := (hs.subscribers i subscriber hi hlagged).extend [staged.event] []
          simpa only [List.append_nil] using hsubscribed }
  · rw [hshown.latest]
    exact hnone

/-- The step lemma of `open`. -/
theorem openAuthority (hs : s.Invariant sdk) (script : GenerationScript) :
    (s.openAuthority script).Invariant sdk := by
  have hstep : s.generations.step (.open 64 script)
      (s.generations.afterOpen (GenerationAllocator.open.run script ⟨s.generations.files, .new 64⟩)) :=
    rfl
  have hgenerations := hs.generations.step hstep
  unfold AuthorityRun.openAuthority
  cases hrun : GenerationAllocator.open.run script ⟨s.generations.files, .new 64⟩ with
  | mk outcome state =>
      rw [hrun] at hstep hgenerations
      cases outcome with
      | ok _ =>
          exact
            { generations := hgenerations
              numbered := Nat.lt_succ_self _
              issued := fun replay hreplay => by cases hreplay
              shown := Or.inl ⟨rfl, rfl, rfl, rfl, rfl⟩
              staged := fun staged hstaged => by cases hstaged
              subscribers := fun i subscriber hi => by cases hi }
      | error e => exact hs.regenerate (advanced_of_step hs.generations hs.numbered hstep)
      | crashed => exact hs.regenerate (advanced_of_step hs.generations hs.numbered hstep)

/-- The step lemma. -/
theorem step (hs : s.Invariant sdk) {e : AuthorityEvent V} (h : s.step sdk slots e s') :
    s'.Invariant sdk := by
  cases e with
  | openAuthority script =>
      obtain rfl := h
      exact hs.openAuthority script
  | stageInitial elapsed states stamp script =>
      obtain ⟨a, ha, rfl⟩ := h
      exact hs.stageInitial ha elapsed states stamp script
  | commitInitial =>
      obtain ⟨staged, hstaged, rfl⟩ := h
      exact hs.commitInitial hstaged
  | dropInitial =>
      obtain rfl := h
      exact hs.restage fun staged hstaged => by cases hstaged
  | beginObservation domain =>
      obtain rfl := h
      exact hs.observe _
  | publishDomain update cause control stamps script =>
      obtain ⟨a, ha, rfl⟩ := h
      exact hs.publishDomain ha update cause control stamps script
  | publishCommandResult outcome stamps script =>
      obtain ⟨a, ha, rfl⟩ := h
      exact hs.publishCommandResult ha outcome stamps script
  | subscribe i =>
      obtain ⟨snapshot, hlatest, rfl⟩ := h
      refine hs.resubscribe fun subscriber hsubscriber _ => ?_
      obtain rfl := Option.some.inj hsubscriber
      rcases hs.shown with hunseen | ⟨states, x, replay, hshown⟩
      · rw [hunseen.latest] at hlatest
        cases hlatest
      · obtain rfl : replay = snapshot := Option.some.inj (hshown.latest.symm.trans hlatest)
        refine ⟨le_rfl, le_rfl, replay, ?_, Or.inl ⟨rfl, rfl, rfl⟩⟩
        have hlength := hshown.chain.length
        have hlast := hshown.last
        rw [List.getLast?_eq_getElem?, hlength, Nat.add_sub_cancel] at hlast
        exact hlast
  | recv i =>
      obtain ⟨subscriber, subscriber', hsubscriber, hrecv, rfl⟩ := h
      refine hs.resubscribe fun other hother hlagged => ?_
      obtain rfl := Option.some.inj hother
      have hbefore : subscriber.lagged = false := lagged_of_recv hrecv hlagged
      exact (hs.subscribers i subscriber hsubscriber hbefore).recv hrecv hlagged
  | leave i =>
      obtain rfl := h
      exact hs.resubscribe fun subscriber hsubscriber => by cases hsubscriber
  | others e =>
      obtain ⟨-, generations, hstep, rfl⟩ := h
      exact hs.regenerate (advanced_of_step hs.generations hs.numbered hstep)

end AuthorityRun.Invariant

end Invariant

section Results

variable {s s' : AuthorityRun V}

/-- A new authority has shown nothing yet. -/
theorem AuthorityRun.Invariant.opened {generations : GenerationRun}
    (hs : generations.Invariant) {script : GenerationScript}
    (hopen : (GenerationAllocator.open.run script ⟨generations.files, .new 64⟩).1 = .ok ()) :
    ((AuthorityRun.start V generations).openAuthority script).Invariant sdk := by
  have hgenerations := hs.step (e := .open 64 script) rfl
  unfold AuthorityRun.openAuthority AuthorityRun.start
  cases hrun : GenerationAllocator.open.run script ⟨generations.files, .new 64⟩ with
  | mk outcome state =>
      rw [hrun] at hopen hgenerations
      obtain rfl : outcome = .ok () := hopen
      exact
        { generations := hgenerations
          numbered := Nat.lt_succ_self _
          issued := fun replay hreplay => by cases hreplay
          shown := Or.inl ⟨rfl, rfl, rfl, rfl, rfl⟩
          staged := fun staged hstaged => by cases hstaged
          subscribers := fun i subscriber hi => by cases hi }

theorem AuthorityRun.invariant_of_reachable (h : (authoritySystem sdk slots).Reachable s) :
    s.Invariant sdk := by
  refine h.invariant ?_ fun s e s' hs hstep => hs.step hstep
  rintro s ⟨generations, script, hgenerations, hopen, rfl⟩
  exact .opened (GenerationRun.invariant_of_reachable hgenerations) hopen

/-- More events were sent since the last one that the subscriber took than the channel holds. -/
def AuthorityRun.Overrun (slots : Nat) (s : AuthorityRun V) (subscriber : DesktopSubscriber V) :
    Prop :=
  subscriber.replay = [] ∧ subscriber.cursor + slots < s.authority.events.length

/-- What is left for a subscriber: its snapshot until it has taken it, and the later events. -/
def AuthorityRun.queued (s : AuthorityRun V) (subscriber : DesktopSubscriber V) :
    List (DesktopEnvelope V) :=
  subscriber.replay ++ s.authority.events.drop subscriber.cursor

/-- What the holder of a subscriber gets from `recv`. -/
structure AuthorityRun.Served (sdk : DesktopSdk V) (slots : Nat) (s : AuthorityRun V) (i : Nat)
    (subscriber : DesktopSubscriber V) : Prop where
  /-- The next of what is left, at once. -/
  returns : ∀ e rest, s.queued subscriber = e :: rest → ¬ s.Overrun slots subscriber →
    ∃ s' subscriber', s.step sdk slots (.recv i) s' ∧ s'.subscribers i = some subscriber' ∧
      subscriber'.received = subscriber.received ++ [e] ∧ s'.queued subscriber' = rest ∧
      subscriber'.lagged = false
  /-- Lag is reported exactly when the subscriber is overrun. -/
  lags : (∃ s' subscriber', s.step sdk slots (.recv i) s' ∧
    s'.subscribers i = some subscriber' ∧ subscriber'.lagged = true) ↔ s.Overrun slots subscriber
  /-- It waits only when nothing is left. -/
  waits : (¬ ∃ s', s.step sdk slots (.recv i) s') ↔ s.queued subscriber = []

theorem AuthorityRun.served {i : Nat} {subscriber : DesktopSubscriber V}
    (hsubscriber : s.subscribers i = some subscriber) (hlagged : subscriber.lagged = false) :
    s.Served sdk slots i subscriber := by
  have hstep : ∀ subscriber', subscriber.recv slots s.authority.events = some subscriber' →
      s.step sdk slots (.recv i)
        { s with subscribers := Function.update s.subscribers i (some subscriber') } :=
    fun subscriber' hrecv => ⟨subscriber, subscriber', hsubscriber, hrecv, rfl⟩
  have htaken : ∀ s', s.step sdk slots (.recv i) s' → ∃ subscriber',
      subscriber.recv slots s.authority.events = some subscriber' ∧
        s'.subscribers i = some subscriber' := by
    rintro s' ⟨other, subscriber', hother, hrecv, rfl⟩
    obtain rfl := Option.some.inj (hsubscriber.symm.trans hother)
    exact ⟨subscriber', hrecv, Function.update_self _ _ _⟩
  refine ⟨fun e rest hqueue hoverrun => ?_, ⟨?_, fun hoverrun => ?_⟩, ⟨fun hwaits => ?_, ?_⟩⟩
  · have hrecv : ∃ subscriber', subscriber.recv slots s.authority.events = some subscriber' ∧
        subscriber'.received = subscriber.received ++ [e] ∧ s.queued subscriber' = rest ∧
          subscriber'.lagged = false := by
      unfold DesktopSubscriber.recv
      cases hreplay : subscriber.replay with
      | cons event replay =>
          rw [AuthorityRun.queued, hreplay] at hqueue
          obtain ⟨rfl, hrest⟩ := List.cons.inj hqueue
          exact ⟨_, rfl, rfl, hrest, hlagged⟩
      | nil =>
          rw [AuthorityRun.queued, hreplay, List.nil_append] at hqueue
          have hfit : ¬ subscriber.cursor + slots < s.authority.events.length :=
            fun h => hoverrun ⟨hreplay, h⟩
          cases hnext : s.authority.events[subscriber.cursor]? with
          | none =>
              rw [List.drop_eq_nil_of_le (List.getElem?_eq_none_iff.mp hnext)] at hqueue
              cases hqueue
          | some event =>
              rw [CutAt.drop_eq_cons hnext] at hqueue
              obtain ⟨rfl, hrest⟩ := List.cons.inj hqueue
              simp only [if_neg hfit]
              exact ⟨_, rfl, rfl, by simpa [AuthorityRun.queued, hreplay] using hrest, hlagged⟩
    obtain ⟨subscriber', hrecv, hreturned⟩ := hrecv
    exact ⟨_, subscriber', hstep subscriber' hrecv, Function.update_self _ _ _, hreturned⟩
  · rintro ⟨s', other, hs', hother, hlags⟩
    obtain ⟨subscriber', hrecv, hsame⟩ := htaken s' hs'
    obtain rfl := Option.some.inj (hsame.symm.trans hother)
    obtain ⟨event, replay, -, rfl⟩ | ⟨hreplay, hover, -⟩ | ⟨event, -, -, rfl⟩ := recv_cases hrecv
    · rw [hlagged] at hlags
      cases hlags
    · exact ⟨hreplay, hover⟩
    · rw [hlagged] at hlags
      cases hlags
  · refine ⟨_, _, hstep { subscriber with
      cursor := s.authority.events.length - slots, lagged := true } ?_,
      Function.update_self _ _ _, rfl⟩
    unfold DesktopSubscriber.recv
    rw [hoverrun.1]
    simp only [if_pos hoverrun.2]
  · by_contra hqueue
    refine hwaits ?_
    suffices h : ∃ subscriber', subscriber.recv slots s.authority.events = some subscriber' by
      obtain ⟨subscriber', hrecv⟩ := h
      exact ⟨_, hstep subscriber' hrecv⟩
    unfold DesktopSubscriber.recv
    cases hreplay : subscriber.replay with
    | cons event replay => exact ⟨_, rfl⟩
    | nil =>
        simp only
        split
        · exact ⟨_, rfl⟩
        · have hlt : subscriber.cursor < s.authority.events.length := by
            by_contra hend
            exact hqueue (by simp [AuthorityRun.queued, hreplay, List.drop_eq_nil_of_le
              (Nat.le_of_not_lt hend)])
          rw [List.getElem?_eq_getElem hlt]
          exact ⟨_, rfl⟩
  · rintro hqueue ⟨s', hs'⟩
    obtain ⟨subscriber', hrecv, -⟩ := htaken s' hs'
    obtain ⟨hreplay, hdrop⟩ := List.append_eq_nil_iff.mp hqueue
    have hend := List.drop_eq_nil_iff.mp hdrop
    obtain ⟨event, replay, hreplay', -⟩ | ⟨-, hover, -⟩ | ⟨event, -, hevent, -⟩ :=
      recv_cases hrecv
    · rw [hreplay] at hreplay'
      cases hreplay'
    · omega
    · have := (List.getElem?_eq_some_iff.mp hevent).1
      omega

/-- A subscriber that has not lagged has taken nothing yet and holds a full snapshot, or has
received that snapshot and every event since, once, in order and with increasing generations.
They come to the snapshot that the authority showed after the last of them, which carries the
same generation and is the latest one if nothing is left to receive.  `recv` returns what is
left, one after the other. -/
theorem subscribers_follow_the_authority (h : (authoritySystem sdk slots).Reachable s) {i : Nat}
    {subscriber : DesktopSubscriber V} (hsubscriber : s.subscribers i = some subscriber)
    (hlagged : subscriber.lagged = false) :
    (subscriber.received = [] ∧ subscriber.cursor = subscriber.joined ∧
      (∃ first, s.snapshots[subscriber.joined]? = some first ∧ subscriber.replay = [first]) ∨
    subscriber.replay = [] ∧ ∃ shown snapshot,
      Follows s.snapshots subscriber.received subscriber.cursor shown snapshot ∧
        s.snapshots[subscriber.joined]? = subscriber.received.head? ∧
        subscriber.received.tail = (s.authority.events.drop subscriber.joined).take
          (subscriber.cursor - subscriber.joined) ∧
        (subscriber.cursor = s.authority.events.length →
          s.authority.latestSnapshot = some shown ∧
            s.authority.currentGeneration = shown.generation)) ∧
    s.Served sdk slots i subscriber := by
  have hs := AuthorityRun.invariant_of_reachable h
  refine ⟨?_, AuthorityRun.served hsubscriber hlagged⟩
  obtain ⟨hjoined, hcursor, first, hfirst, hplace⟩ :=
    hs.subscribers i subscriber hsubscriber hlagged
  rcases hplace with ⟨hreplay, hempty, hposition⟩ | ⟨hreplay, hall⟩
  · exact Or.inl ⟨hempty, hposition, first, hfirst, hreplay⟩
  rcases hs.shown with hunseen | ⟨states, x, replay, hshown⟩
  · rw [hunseen.snapshots] at hfirst
    cases hfirst
  have hplace : subscriber.joined + (subscriber.cursor - subscriber.joined) =
      subscriber.cursor := by omega
  obtain ⟨shown, snapshot, hfollows⟩ :=
    hshown.chain.follows hfirst (subscriber.cursor - subscriber.joined) (by omega)
  rw [hplace] at hfollows
  refine Or.inr ⟨hreplay, shown, snapshot, hall ▸ hfollows, ?_, ?_, fun hend => ?_⟩
  · rw [hall, hfirst]
    rfl
  · rw [hall]
    rfl
  · have hlast := hshown.last
    rw [List.getLast?_eq_getElem?, hshown.chain.length, Nat.add_sub_cancel, ← hend,
      hfollows.place] at hlast
    obtain rfl := Option.some.inj hlast
    exact ⟨hshown.latest, hshown.generation⟩

end Results

section Sample

/-- Every payload is a number. -/
abbrev SampleValue : DesktopDomainId → Type :=
  fun _ => Nat

def sampleSdk : DesktopSdk SampleValue where
  wireVersion := 3
  encode _ := .ok ['n', 'u', 'l', 'l']
  parse _ := .ok .null
  validateEnvelope _ := .ok ()
  snapshotBytes _ := some 4
  validateResult _ := .ok ()
  withAvailability value _ := value
  noNotifications _ := 0
  noEntries := 0
  emptyCalendar := 0
  emptyWeather := 0
  noAppearance := 0
  noSamples := 0

def sampleStamp : Stamp :=
  ⟨"00000000-0000-4000-8000-000000000002", .ok "2026-01-01T00:00:00Z"⟩

/-- The battery is at seven. -/
def sampleState : DesktopDomainState SampleValue :=
  ⟨.battery, .available, some ⟨.battery, 7⟩, none, .inl ⟨rfl, ⟨7, rfl⟩, rfl⟩⟩

def openedSample : AuthorityRun SampleValue :=
  (AuthorityRun.start SampleValue (GenerationRun.start emptyFiles)).openAuthority []

def stagedSample : AuthorityRun SampleValue :=
  openedSample.stageInitial sampleSdk ⟨64, 1, 65⟩ (fun _ => false) (placeholders SampleValue)
    sampleStamp []

/-- The first snapshot is shown. -/
def shownSample : AuthorityRun SampleValue :=
  stagedSample.staged.elim stagedSample stagedSample.commitInitial

/-- A client joins and an observation of the battery begins. -/
def joinedSample : AuthorityRun SampleValue :=
  shownSample.authority.latestSnapshot.elim shownSample fun snapshot =>
    { shownSample with
      subscribers := Function.update shownSample.subscribers 0
        (some (.new snapshot shownSample.authority.events.length))
      observations := .began ⟨.battery, shownSample.authority.observationRevisions .battery⟩ ::
        shownSample.observations }

/-- What the observation has found is published. -/
def publishedSample : AuthorityRun SampleValue :=
  (joinedSample.publishDomain sampleSdk ⟨64, 2, 65⟩ ⟨sampleState, some 0⟩ ⟨.external, none⟩ none
    ⟨sampleStamp, sampleStamp⟩ []).2

/-- A client receives. -/
def receiveSample (s : AuthorityRun SampleValue) : AuthorityRun SampleValue :=
  ((s.subscribers 0).bind fun subscriber => subscriber.recv 16 s.authority.events).elim s
    fun subscriber => { s with subscribers := Function.update s.subscribers 0 (some subscriber) }

theorem shownSample_reachable : (authoritySystem sampleSdk 16).Reachable shownSample := by
  have hopened : (authoritySystem sampleSdk 16).Reachable openedSample :=
    .initial ⟨_, [], .initial ⟨emptyFiles, none, rfl, rfl⟩, by decide, rfl⟩
  have hstaged : (authoritySystem sampleSdk 16).Reachable stagedSample :=
    .step (e := .stageInitial (fun _ => false) (placeholders SampleValue) sampleStamp []) hopened
      ⟨⟨64, 1, 65⟩, by decide, rfl⟩
  obtain ⟨staged, h⟩ := Option.isSome_iff_exists.mp
    (show stagedSample.staged.isSome = true by decide)
  refine .step (e := .commitInitial) hstaged ⟨staged, h, ?_⟩
  rw [shownSample, h]
  rfl

theorem joinedSample_reachable : (authoritySystem sampleSdk 16).Reachable joinedSample := by
  obtain ⟨snapshot, h⟩ := Option.isSome_iff_exists.mp
    (show shownSample.authority.latestSnapshot.isSome = true by decide)
  refine .step (e := .beginObservation .battery)
    (.step (e := .subscribe 0) shownSample_reachable ⟨snapshot, h, rfl⟩) ?_
  rw [joinedSample, h]
  rfl

theorem publishedSample_reachable : (authoritySystem sampleSdk 16).Reachable publishedSample :=
  .step (e := .publishDomain ⟨sampleState, some 0⟩ ⟨.external, none⟩ none
    ⟨sampleStamp, sampleStamp⟩ []) joinedSample_reachable ⟨⟨64, 2, 65⟩, by decide, rfl⟩

theorem receiveSample_reachable {s : AuthorityRun SampleValue}
    (hs : (authoritySystem sampleSdk 16).Reachable s) :
    (authoritySystem sampleSdk 16).Reachable (receiveSample s) := by
  cases h : (s.subscribers 0).bind fun subscriber => subscriber.recv 16 s.authority.events with
  | none =>
      rw [receiveSample, h]
      exact hs
  | some subscriber' =>
      obtain ⟨subscriber, hsubscriber, hrecv⟩ := Option.bind_eq_some_iff.mp h
      refine .step (e := .recv 0) hs ⟨subscriber, subscriber', hsubscriber, hrecv, ?_⟩
      rw [receiveSample, h]
      rfl

/-- The client has received the snapshot and the update. -/
def receivedSample : AuthorityRun SampleValue :=
  receiveSample (receiveSample publishedSample)

/-- The client has the latest snapshot. -/
theorem subscribers_follow_the_authority_sample :
    ∃ subscriber shown snapshot, receivedSample.subscribers 0 = some subscriber ∧
      receivedSample.authority.latestSnapshot = some shown ∧
      shown.payload = .fullSnapshot snapshot ∧ clientView subscriber.received = some snapshot ∧
      receivedSample.Served sampleSdk 16 0 subscriber := by
  obtain ⟨subscriber, h⟩ := Option.isSome_iff_exists.mp
    (show (receivedSample.subscribers 0).isSome = true by decide)
  have hplace : (receivedSample.subscribers 0).map (fun x => (x.lagged, x.cursor, x.received.length)) =
      some (false, 1, 2) := by
    decide
  rw [h] at hplace
  obtain ⟨hlagged, hcursor, hlength⟩ : subscriber.lagged = false ∧ subscriber.cursor = 1 ∧
      subscriber.received.length = 2 := by
    simpa using hplace
  have hevents : receivedSample.authority.events.length = 1 := by decide
  obtain ⟨⟨hempty, -⟩ | ⟨-, shown, snapshot, hfollows, -, -, hlatest⟩, hserved⟩ :=
    subscribers_follow_the_authority
      (receiveSample_reachable (receiveSample_reachable publishedSample_reachable)) h hlagged
  · rw [hempty] at hlength
    cases hlength
  · exact ⟨subscriber, shown, snapshot, h, (hlatest (hcursor.trans hevents.symm)).1,
      hfollows.payload, hfollows.view, hserved⟩

end Sample

end Desktop
end SleepySession
