import SleepySession.Lib.Run

/-!
# Cancellation and commit guards

`RunCancellation` as its parties use it: cancellers request the cancellation
and wait until no commit guard is live; committers take a guard right before
they rename the generation file and keep it until the result is published.
The critical sections of the mutex are single steps, except that a canceller
keeps the mutex between its last two stores, where a reader of the flag can
look in between.  System calls of a reservation can fail.  Over this stands a
record of the calls that each party has made under its guard, which is taken
from the events alone.
-/

namespace SleepySession
namespace Sessiond

/-- How a reservation has ended. -/
inductive ReservationEnd where
  /-- Refused, or given up before the guard was asked for. -/
  | notBegun
  | committed
  /-- A failure under the guard, with or without the file renamed. -/
  | failed (renamed : Bool)
deriving DecidableEq, Repr

/-- How far a reservation of `next_generation_with_commit` is. -/
inductive ReservationStage where
  /-- Up to `begin_commit`: nothing is visible yet. -/
  | preparing
  /-- The guard is granted. -/
  | guarded
  | renamed
  /-- The directory is synced and the allocator owns the block. -/
  | durable
  /-- The generation is taken; the guard protects its publication. -/
  | taken
  /-- The guard is being dropped. -/
  | releasing (result : ReservationEnd)
deriving DecidableEq, Repr

/-- The guard of a reservation is live. -/
def ReservationStage.holdsGuard : ReservationStage → Bool
  | preparing => false
  | _ => true

/-- What a party is doing. -/
inductive CommitParty where
  | idle
  /-- In `cancel`, waiting for the condition variable. -/
  | waiting
  /-- In `cancel`, between its two stores and with the mutex. -/
  | storing
  /-- `cancel` has returned. -/
  | continued
  | reserving (stage : ReservationStage)
  | reserved (result : ReservationEnd)
  /-- `begin_commit` has panicked on the overflow of its counter. -/
  | panicked
deriving DecidableEq, Repr

def CommitParty.holdsGuard : CommitParty → Bool
  | reserving stage => stage.holdsGuard
  | _ => false

/-- One `RunCancellation` and everybody who uses it. -/
structure CommitRun (π : Type) where
  observable : Bool
  requested : Bool
  cancelled : Bool
  commits : Nat
  /-- The canceller that keeps the mutex. -/
  holder : Option π
  parties : π → CommitParty
  /-- Somebody has read the flag as set. -/
  observed : Bool
  /-- The parties with a live guard. -/
  guards : List π

inductive CommitEvent (π : Type) where
  /-- A party begins with the preparations of a reservation. -/
  | prepare (p : π)
  /-- The preparations fail, or the deadline or a cancellation ends them. -/
  | giveUp (p : π)
  | beginCommit (p : π)
  | rename (p : π) (succeeds : Bool)
  | syncDirectory (p : π) (succeeds : Bool)
  /-- The generation is taken from the block, unless unlocking fails or it is exhausted. -/
  | take (p : π) (succeeds : Bool)
  /-- The publication is over. -/
  | publish (p : π)
  | dropGuard (p : π)
  | cancel (p : π)
  | wake (p : π)
  | store (p : π)
  | isCancelled (p : π)

section Steps

variable {π : Type} [DecidableEq π]

def CommitRun.setParty (s : CommitRun π) (p : π) (party : CommitParty) : CommitRun π :=
  { s with parties := Function.update s.parties p party }

/-- The end of `cancel` with the mutex: no guard is live, or the canceller waits. -/
def CommitRun.settle (s : CommitRun π) (p : π) : CommitRun π :=
  if s.commits ≠ 0 then s.setParty p .waiting
  else { s.setParty p .storing with cancelled := true, holder := some p }

/-- `begin_commit` with the mutex. -/
def CommitRun.grant (s : CommitRun π) (p : π) : CommitRun π :=
  if s.requested || s.cancelled then s.setParty p (.reserved .notBegun)
  else if 2 ^ 64 ≤ s.commits + 1 then s.setParty p .panicked
  else
    { s.setParty p (.reserving .guarded) with
      commits := s.commits + 1
      guards := p :: s.guards }

/-- The parties that can begin something new. -/
def CommitParty.free : CommitParty → Bool
  | idle | continued | reserved _ => true
  | _ => false

/-- One atomic step of a party. -/
def CommitRun.after (s : CommitRun π) : CommitEvent π → Option (CommitRun π)
  | .prepare p =>
      if (s.parties p).free then some (s.setParty p (.reserving .preparing)) else none
  | .giveUp p =>
      if s.parties p = .reserving .preparing then some (s.setParty p (.reserved .notBegun))
      else none
  | .beginCommit p =>
      if s.parties p = .reserving .preparing ∧ s.holder = none then some (s.grant p) else none
  | .rename p succeeds =>
      if s.parties p = .reserving .guarded then
        some (s.setParty p (.reserving (if succeeds then .renamed else .releasing (.failed false))))
      else none
  | .syncDirectory p succeeds =>
      if s.parties p = .reserving .renamed then
        some (s.setParty p (.reserving (if succeeds then .durable else .releasing (.failed true))))
      else none
  | .take p succeeds =>
      -- a block that still has generations is not reserved again
      if s.parties p = .reserving .durable then
        some (s.setParty p (.reserving (if succeeds then .taken else .releasing (.failed true))))
      else if s.parties p = .reserving .guarded then
        some (s.setParty p (.reserving (if succeeds then .taken else .releasing (.failed false))))
      else none
  | .publish p =>
      if s.parties p = .reserving .taken then
        some (s.setParty p (.reserving (.releasing .committed)))
      else none
  | .dropGuard p =>
      match s.parties p with
      | .reserving (.releasing result) =>
          if s.holder = none then
            some { s.setParty p (.reserved result) with
              commits := s.commits - 1
              guards := s.guards.erase p }
          else none
      | _ => none
  | .cancel p =>
      if (s.parties p).free ∧ s.holder = none then
        some ({ s with requested := true }.settle p)
      else none
  | .wake p =>
      if s.parties p = .waiting ∧ s.holder = none then some (s.settle p) else none
  | .store p =>
      if s.holder = some p then
        some { s.setParty p .continued with observable := true, holder := none }
      else none
  | .isCancelled _ => some { s with observed := s.observed || s.observable }

def CommitRun.new : CommitRun π where
  observable := false
  requested := false
  cancelled := false
  commits := 0
  holder := none
  parties := fun _ => .idle
  observed := false
  guards := []

/-- All interleavings of the parties of one `RunCancellation`. -/
def commitSystem : System (CommitRun π) (CommitEvent π) :=
  .ofStep (fun s => s = CommitRun.new) CommitRun.after

end Steps

section Safety

variable {π : Type} [DecidableEq π]

/-- What holds of the flag, the counter and the guards at any time. -/
structure CommitRun.Invariant (s : CommitRun π) : Prop where
  counted : s.commits = s.guards.length
  nodup : s.guards.Nodup
  guards_iff : ∀ p, p ∈ s.guards ↔ (s.parties p).holdsGuard = true
  cancelled_requested : s.cancelled = true → s.requested = true
  cancelled_guards : s.cancelled = true → s.guards = []
  observable_cancelled : s.observable = true → s.cancelled = true
  observed_observable : s.observed = true → s.observable = true
  holder_iff : ∀ p, s.holder = some p ↔ s.parties p = .storing
  holder_cancelled : ∀ p, s.holder = some p → s.cancelled = true
  continued_observable : ∀ p, s.parties p = .continued → s.observable = true
  waiting_requested : ∀ p, s.parties p = .waiting → s.requested = true

variable {s s' : CommitRun π}

@[simp] theorem CommitRun.setParty_self (p : π) (party : CommitParty) :
    (s.setParty p party).parties p = party := by
  simp [setParty]

theorem CommitRun.setParty_other {p q : π} (hq : q ≠ p) (party : CommitParty) :
    (s.setParty p party).parties q = s.parties q := by
  simp [setParty, hq]

/-- A stage that is not the new one is an old one. -/
theorem CommitRun.parties_of_setParty {p q : π} {party stage : CommitParty} (hne : party ≠ stage)
    (h : (s.setParty p party).parties q = stage) : s.parties q = stage := by
  by_cases hq : q = p
  · subst hq
    rw [setParty_self] at h
    exact absurd h hne
  · rwa [setParty_other hq] at h

/-- A party that neither leaves nor enters a stage changes nobody in it. -/
theorem CommitRun.setParty_eq_iff {p q : π} {party stage : CommitParty}
    (hbefore : s.parties p ≠ stage) (hafter : party ≠ stage) :
    (s.setParty p party).parties q = stage ↔ s.parties q = stage := by
  refine ⟨parties_of_setParty hafter, fun h => ?_⟩
  have hq : q ≠ p := fun heq => hbefore (heq ▸ h)
  rwa [setParty_other hq]

/-- Only the guard of the party that moves can change. -/
theorem CommitRun.Invariant.guards_setParty
    (hs : s.Invariant) {p : π} {party : CommitParty} {guards : List π}
    (hself : p ∈ guards ↔ party.holdsGuard = true)
    (hother : ∀ q, q ≠ p → (q ∈ guards ↔ q ∈ s.guards)) (q : π) :
    q ∈ guards ↔ ((s.setParty p party).parties q).holdsGuard = true := by
  by_cases hq : q = p
  · subst hq
    rw [setParty_self]
    exact hself
  · rw [setParty_other hq, hother q hq]
    exact hs.guards_iff q

/-- A step of a party between two stages with the same guard. -/
theorem CommitRun.Invariant.setParty
    (hs : s.Invariant) {p : π} {party : CommitParty}
    (hguard : party.holdsGuard = (s.parties p).holdsGuard)
    (hbefore : s.parties p ≠ .storing) (hafter : party ≠ .storing)
    (hcontinued : party ≠ .continued) (hwaiting : party = .waiting → s.requested = true) :
    (s.setParty p party).Invariant where
  counted := hs.counted
  nodup := hs.nodup
  guards_iff := hs.guards_setParty (by rw [hguard]; exact hs.guards_iff p) fun _ _ => Iff.rfl
  cancelled_requested := hs.cancelled_requested
  cancelled_guards := hs.cancelled_guards
  observable_cancelled := hs.observable_cancelled
  observed_observable := hs.observed_observable
  holder_iff q := (hs.holder_iff q).trans (setParty_eq_iff hbefore hafter).symm
  holder_cancelled := hs.holder_cancelled
  continued_observable q hq := hs.continued_observable q (parties_of_setParty hcontinued hq)
  waiting_requested q hq := by
    by_cases hqp : q = p
    · subst hqp
      rw [setParty_self] at hq
      exact hwaiting hq
    · rw [setParty_other hqp] at hq
      exact hs.waiting_requested q hq

/-- The end of `cancel` keeps the invariant. -/
theorem CommitRun.Invariant.settle
    (hs : s.Invariant) {p : π} (hrequested : s.requested = true)
    (hholder : s.holder = none) (hguard : (s.parties p).holdsGuard = false) :
    (s.settle p).Invariant := by
  have hbefore : s.parties p ≠ .storing := fun h => by
    rw [(hs.holder_iff p).mpr h] at hholder
    cases hholder
  unfold CommitRun.settle
  split
  · exact hs.setParty (by rw [hguard]; rfl) hbefore (by simp) (by simp) fun _ => hrequested
  · rename_i hcommits
    have hnone : s.guards = [] := by
      have := hs.counted
      rw [not_not.mp hcommits] at this
      exact List.length_eq_zero_iff.mp this.symm
    refine ⟨hs.counted, hs.nodup, hs.guards_setParty ?_ fun _ _ => Iff.rfl, fun _ => hrequested,
      fun _ => hnone, fun _ => rfl, hs.observed_observable, fun q => ?_, fun _ _ => rfl,
      fun q hq => ?_, fun _ _ => hrequested⟩
    · simp [CommitRun.setParty, hnone, CommitParty.holdsGuard]
    · by_cases hq : q = p
      · subst hq
        simp [CommitRun.setParty]
      · have := hs.holder_iff q
        rw [hholder] at this
        simp only [CommitRun.setParty, Function.update_of_ne hq, Option.some.injEq]
        exact ⟨fun h => absurd h.symm hq, fun h => by simpa using this.mpr h⟩
    · exact hs.continued_observable q (CommitRun.parties_of_setParty (by simp) hq)

theorem CommitRun.Invariant.grant
    (hs : s.Invariant) {p : π} (hparty : s.parties p = .reserving .preparing) :
    (s.grant p).Invariant := by
  have hguard : (s.parties p).holdsGuard = false := by rw [hparty]; rfl
  have hbefore : s.parties p ≠ .storing := by rw [hparty]; simp
  unfold CommitRun.grant
  split
  · exact hs.setParty (by rw [hguard]; rfl) hbefore (by simp) (by simp) (by simp)
  · rename_i hfree
    split
    · exact hs.setParty (by rw [hguard]; rfl) hbefore (by simp) (by simp) (by simp)
    · have hnot : s.cancelled = false := by
        cases hcancelled : s.cancelled with
        | false => rfl
        | true => simp [hcancelled] at hfree
      have hnotin : p ∉ s.guards := fun hmem => by
        rw [hs.guards_iff p, hguard] at hmem
        cases hmem
      refine ⟨by simp [hs.counted], List.nodup_cons.mpr ⟨hnotin, hs.nodup⟩,
        hs.guards_setParty ?_ fun q hq => ?_, hs.cancelled_requested, fun h => ?_,
        hs.observable_cancelled, hs.observed_observable, fun q => ?_, hs.holder_cancelled, fun q hq => ?_, fun q hq => ?_⟩
      · simp [CommitParty.holdsGuard, ReservationStage.holdsGuard]
      · simp [hq]
      · have : s.cancelled = true := h
        rw [hnot] at this
        cases this
      · exact (hs.holder_iff q).trans (CommitRun.setParty_eq_iff hbefore (by simp)).symm
      · exact hs.continued_observable q (CommitRun.parties_of_setParty (by simp) hq)
      · exact hs.waiting_requested q (CommitRun.parties_of_setParty (by simp) hq)

theorem CommitRun.Invariant.dropGuard
    (hs : s.Invariant) {p : π} {result : ReservationEnd}
    (hparty : s.parties p = .reserving (.releasing result)) :
    ({ s.setParty p (.reserved result) with
        commits := s.commits - 1
        guards := s.guards.erase p } : CommitRun π).Invariant := by
  have hmem : p ∈ s.guards := (hs.guards_iff p).mpr (by rw [hparty]; rfl)
  have hbefore : s.parties p ≠ .storing := by rw [hparty]; simp
  refine ⟨?_, hs.nodup.erase p, hs.guards_setParty ?_ fun q hq => ?_, hs.cancelled_requested,
    fun h => ?_, hs.observable_cancelled, hs.observed_observable, fun q => ?_, hs.holder_cancelled,
    fun q hq => ?_, fun q hq => ?_⟩
  · rw [List.length_erase_of_mem hmem]
    exact congrArg (· - 1) hs.counted
  · simp [hs.nodup.mem_erase_iff, CommitParty.holdsGuard]
  · simp [hs.nodup.mem_erase_iff, hq]
  · rw [hs.cancelled_guards h] at hmem
    cases hmem
  · exact (hs.holder_iff q).trans (CommitRun.setParty_eq_iff hbefore (by simp)).symm
  · exact hs.continued_observable q (CommitRun.parties_of_setParty (by simp) hq)
  · exact hs.waiting_requested q (CommitRun.parties_of_setParty (by simp) hq)

/-- A step between two stages of a reservation. -/
theorem CommitRun.Invariant.advance
    (hs : s.Invariant) {p : π} {stage stage' : ReservationStage}
    (hparty : s.parties p = .reserving stage) (hguard : stage'.holdsGuard = stage.holdsGuard) :
    (s.setParty p (.reserving stage')).Invariant :=
  hs.setParty (by rw [hparty]; exact hguard) (by rw [hparty]; simp) (by simp) (by simp) (by simp)

theorem CommitParty.holdsGuard_of_free {party : CommitParty} (h : party.free = true) :
    party.holdsGuard = false ∧ party ≠ .storing := by
  cases party <;> simp_all [CommitParty.free, CommitParty.holdsGuard]

/-- The last store of `cancel` releases the mutex. -/
theorem CommitRun.Invariant.store
    (hs : s.Invariant) {p : π} (hholder : s.holder = some p) :
    ({ s.setParty p .continued with observable := true, holder := none } :
      CommitRun π).Invariant := by
  have hcancelled := hs.holder_cancelled p hholder
  have hstoring := (hs.holder_iff p).mp hholder
  refine ⟨hs.counted, hs.nodup, hs.guards_setParty ?_ fun _ _ => Iff.rfl,
    hs.cancelled_requested, hs.cancelled_guards, fun _ => hcancelled, fun _ => rfl, fun q => ?_,
    (fun q hq => by cases hq), fun q _ => rfl, fun q hq => ?_⟩
  · have hmem := hs.guards_iff p
    rw [hstoring] at hmem
    exact hmem
  · by_cases hq : q = p
    · subst hq
      simp [CommitRun.setParty]
    · have hother := hs.holder_iff q
      rw [hholder, Option.some.injEq] at hother
      simp only [CommitRun.setParty, Function.update_of_ne hq, reduceCtorEq, false_iff]
      exact fun h => hq (hother.mpr h).symm
  · exact hs.waiting_requested q (CommitRun.parties_of_setParty (by simp) hq)

theorem CommitRun.Invariant.after
    {e : CommitEvent π} (hs : s.Invariant) (h : s.after e = some s') : s'.Invariant := by
  cases e with
  | prepare p =>
      obtain ⟨hfree, rfl⟩ : (s.parties p).free = true ∧ _ = s' := by
        simpa [CommitRun.after] using h
      obtain ⟨hguard, hstoring⟩ := CommitParty.holdsGuard_of_free hfree
      exact hs.setParty (by rw [hguard]; rfl) hstoring (by simp) (by simp) (by simp)
  | giveUp p =>
      obtain ⟨hparty, rfl⟩ : s.parties p = .reserving .preparing ∧ _ = s' := by
        simpa [CommitRun.after] using h
      exact hs.setParty (by rw [hparty]; rfl) (by rw [hparty]; simp) (by simp) (by simp) (by simp)
  | beginCommit p =>
      obtain ⟨⟨hparty, -⟩, rfl⟩ :
          (s.parties p = .reserving .preparing ∧ s.holder = none) ∧ _ = s' := by
        simpa [CommitRun.after] using h
      exact hs.grant hparty
  | rename p succeeds =>
      obtain ⟨hparty, rfl⟩ : s.parties p = .reserving .guarded ∧ _ = s' := by
        simpa [CommitRun.after] using h
      exact hs.advance hparty (by cases succeeds <;> rfl)
  | syncDirectory p succeeds =>
      obtain ⟨hparty, rfl⟩ : s.parties p = .reserving .renamed ∧ _ = s' := by
        simpa [CommitRun.after] using h
      exact hs.advance hparty (by cases succeeds <;> rfl)
  | take p succeeds =>
      simp only [CommitRun.after] at h
      split at h
      · rename_i hparty
        cases h
        exact hs.advance hparty (by cases succeeds <;> rfl)
      · obtain ⟨hparty, rfl⟩ : s.parties p = .reserving .guarded ∧ _ = s' := by
          simpa using h
        exact hs.advance hparty (by cases succeeds <;> rfl)
  | publish p =>
      obtain ⟨hparty, rfl⟩ : s.parties p = .reserving .taken ∧ _ = s' := by
        simpa [CommitRun.after] using h
      exact hs.advance hparty rfl
  | dropGuard p =>
      simp only [CommitRun.after] at h
      split at h
      · rename_i result hparty
        obtain ⟨-, rfl⟩ : s.holder = none ∧ _ = s' := by simpa using h
        exact hs.dropGuard hparty
      · cases h
  | cancel p =>
      obtain ⟨⟨hfree, hholder⟩, rfl⟩ :
          ((s.parties p).free = true ∧ s.holder = none) ∧ _ = s' := by
        simpa [CommitRun.after] using h
      obtain ⟨hguard, -⟩ := CommitParty.holdsGuard_of_free hfree
      have hrequested : ({ s with requested := true } : CommitRun π).Invariant :=
        { hs with cancelled_requested := fun _ => rfl, waiting_requested := fun _ _ => rfl }
      exact hrequested.settle rfl hholder hguard
  | wake p =>
      obtain ⟨⟨hparty, hholder⟩, rfl⟩ :
          (s.parties p = .waiting ∧ s.holder = none) ∧ _ = s' := by
        simpa [CommitRun.after] using h
      exact hs.settle (hs.waiting_requested p hparty) hholder (by rw [hparty]; rfl)
  | store p =>
      obtain ⟨hholder, rfl⟩ : s.holder = some p ∧ _ = s' := by
        simpa [CommitRun.after] using h
      exact hs.store hholder
  | isCancelled p =>
      cases h
      refine { hs with observed_observable := fun hobserved => ?_ }
      rcases Bool.or_eq_true_iff.mp hobserved with hobserved | hobserved
      · exact hs.observed_observable hobserved
      · exact hobserved

omit [DecidableEq π] in
theorem CommitRun.invariant_new : (CommitRun.new : CommitRun π).Invariant := by
  refine ⟨rfl, List.nodup_nil, fun p => ?_, ?_, fun _ => rfl, ?_, ?_, fun p => ?_,
    fun p h => ?_, fun p h => ?_, fun p h => ?_⟩ <;>
  simp_all [CommitRun.new, CommitParty.holdsGuard]

theorem CommitRun.invariant_of_reachable (h : commitSystem.Reachable s) : s.Invariant := by
  refine h.invariant (fun s hs => ?_) (fun s e s' hs hstep => hs.after hstep)
  rw [show s = CommitRun.new from hs]
  exact CommitRun.invariant_new

/-- After a request no party is granted a guard. -/
theorem CommitRun.grant_of_requested (hrequested : s.requested = true) (p : π) :
    s.grant p = s.setParty p (.reserved .notBegun) := by
  simp [CommitRun.grant, hrequested]

theorem CommitRun.beginCommit_refused
    (hrequested : s.requested = true) {p : π} (h : s.after (.beginCommit p) = some s') :
    s'.guards = s.guards ∧ s'.parties p = .reserved .notBegun := by
  obtain ⟨-, rfl⟩ : (s.parties p = .reserving .preparing ∧ s.holder = none) ∧ _ = s' := by
    simpa [CommitRun.after] using h
  rw [CommitRun.grant_of_requested hrequested]
  exact ⟨rfl, CommitRun.setParty_self p _⟩

end Safety

section Calls

/-- A call of a reservation under its guard, and whether it succeeded. -/
inductive CommitCall where
  | rename (succeeds : Bool)
  | syncDirectory (succeeds : Bool)
  | take (succeeds : Bool)
  | publish
deriving DecidableEq, Repr

def CommitCall.succeeds : CommitCall → Bool
  | rename succeeds | syncDirectory succeeds | take succeeds => succeeds
  | publish => true

/-- The generation was taken from a block that was reserved durably, and published. -/
def Committed (calls : List CommitCall) : Prop :=
  calls = [.publish, .take true] ∨
    calls = [.publish, .take true, .syncDirectory true, .rename true]

/-- The end of a reservation is what its calls have come to. -/
def ReservationEnd.Describes : ReservationEnd → List CommitCall → Prop
  | notBegun, calls => calls = []
  | committed, calls => Committed calls
  | failed renamed, calls =>
      (∃ call ∈ calls, call.succeeds = false) ∧ (renamed = true ↔ .rename true ∈ calls)

/-- A party that is at this point has made these calls for its last reservation. -/
def CommitParty.Made : CommitParty → List CommitCall → Prop
  | .reserving .preparing, calls => calls = []
  | .reserving .guarded, calls => calls = []
  | .reserving .renamed, calls => calls = [.rename true]
  | .reserving .durable, calls => calls = [.syncDirectory true, .rename true]
  | .reserving .taken, calls => Committed (.publish :: calls)
  | .reserving (.releasing result), calls => result.Describes calls
  | .reserved result, calls => result.Describes calls
  | .panicked, calls => calls = []
  | _, _ => True

variable {π : Type} [DecidableEq π]

/-- The parties with the calls that each has made for its last reservation, the newest first. -/
structure CommitRecord (π : Type) where
  run : CommitRun π
  calls : π → List CommitCall

/-- An event goes on the record of the party that makes it. -/
def CommitRecord.record (calls : π → List CommitCall) : CommitEvent π → π → List CommitCall
  | .prepare p => Function.update calls p []
  | .rename p succeeds => Function.update calls p (.rename succeeds :: calls p)
  | .syncDirectory p succeeds => Function.update calls p (.syncDirectory succeeds :: calls p)
  | .take p succeeds => Function.update calls p (.take succeeds :: calls p)
  | .publish p => Function.update calls p (.publish :: calls p)
  | _ => calls

def CommitRecord.after (s : CommitRecord π) (e : CommitEvent π) : Option (CommitRecord π) :=
  (s.run.after e).map fun run => ⟨run, record s.calls e⟩

def CommitRecord.new : CommitRecord π where
  run := .new
  calls := fun _ => []

/-- All interleavings of the parties, on record. -/
def recordedCommits : System (CommitRecord π) (CommitEvent π) :=
  .ofStep (fun s => s = CommitRecord.new) CommitRecord.after

variable {s s' : CommitRecord π}

theorem CommitRecord.after_eq_some {e : CommitEvent π} (h : s.after e = some s') :
    s.run.after e = some s'.run ∧ s'.calls = record s.calls e := by
  obtain ⟨run, hrun, rfl⟩ := Option.map_eq_some_iff.mp h
  exact ⟨hrun, rfl⟩

theorem CommitRecord.reachable_run (h : recordedCommits.Reachable s) :
    commitSystem.Reachable s.run := by
  refine h.invariant (I := fun s => commitSystem.Reachable s.run) (fun s hs => ?_)
    (fun s e s' hs hstep => ?_)
  · rw [show s = CommitRecord.new from hs]
    exact .initial rfl
  · exact .step (e := e) hs (after_eq_some hstep).1

/-- Each party has made the calls that have brought it where it is. -/
def CommitRecord.Traced (run : CommitRun π) (calls : π → List CommitCall) : Prop :=
  ∀ p, (run.parties p).Made (calls p)

/-- A party moves on, and its calls with it. -/
theorem CommitRecord.Traced.update
    {run : CommitRun π} {calls : π → List CommitCall} (hs : Traced run calls) {p : π}
    {party : CommitParty} {made : List CommitCall} (hmade : party.Made made) :
    Traced (run.setParty p party) (Function.update calls p made) := by
  intro q
  by_cases hq : q = p
  · subst hq
    rw [CommitRun.setParty_self, Function.update_self]
    exact hmade
  · rw [CommitRun.setParty_other hq, Function.update_of_ne hq]
    exact hs q

/-- A party moves on without a call. -/
theorem CommitRecord.Traced.setParty
    {run : CommitRun π} {calls : π → List CommitCall} (hs : Traced run calls) {p : π}
    {party : CommitParty} (hmade : party.Made (calls p)) :
    Traced (run.setParty p party) calls := by
  have hupdated := hs.update (p := p) hmade
  rwa [Function.update_eq_self] at hupdated

/-- A canceller stores the cancellation or waits. -/
theorem CommitRecord.Traced.settle
    {run : CommitRun π} {calls : π → List CommitCall} (hs : Traced run calls) (p : π) :
    Traced (run.settle p) calls := by
  have hmoved : ∀ party : CommitParty, party = .waiting ∨ party = .storing →
      Traced (run.setParty p party) calls := by
    rintro party (rfl | rfl) <;> exact hs.setParty trivial
  unfold CommitRun.settle
  split
  · exact hmoved .waiting (Or.inl rfl)
  · exact hmoved .storing (Or.inr rfl)

/-- A step takes each party where its calls bring it. -/
theorem CommitRecord.Traced.after
    {run run' : CommitRun π} {calls : π → List CommitCall} {e : CommitEvent π}
    (hs : Traced run calls) (h : run.after e = some run') :
    Traced run' (record calls e) := by
  cases e with
  | prepare p =>
      obtain ⟨-, rfl⟩ : (run.parties p).free = true ∧ _ = run' := by
        simpa [CommitRun.after] using h
      exact hs.update rfl
  | giveUp p =>
      obtain ⟨hparty, rfl⟩ : run.parties p = .reserving .preparing ∧ _ = run' := by
        simpa [CommitRun.after] using h
      have hmade := hs p
      rw [hparty] at hmade
      exact hs.setParty hmade
  | beginCommit p =>
      obtain ⟨⟨hparty, -⟩, rfl⟩ :
          (run.parties p = .reserving .preparing ∧ run.holder = none) ∧ _ = run' := by
        simpa [CommitRun.after] using h
      have hmade := hs p
      rw [hparty] at hmade
      unfold CommitRun.grant
      split
      · exact hs.setParty hmade
      · split
        · exact hs.setParty hmade
        · have hguarded : Traced (run.setParty p (.reserving .guarded)) calls :=
            hs.setParty hmade
          exact hguarded
  | rename p succeeds =>
      obtain ⟨hparty, rfl⟩ : run.parties p = .reserving .guarded ∧ _ = run' := by
        simpa [CommitRun.after] using h
      have hmade : calls p = [] := by simpa [hparty, CommitParty.Made] using hs p
      refine hs.update ?_
      rw [hmade]
      cases succeeds <;> simp [CommitParty.Made, ReservationEnd.Describes, CommitCall.succeeds]
  | syncDirectory p succeeds =>
      obtain ⟨hparty, rfl⟩ : run.parties p = .reserving .renamed ∧ _ = run' := by
        simpa [CommitRun.after] using h
      have hmade : calls p = [.rename true] := by simpa [hparty, CommitParty.Made] using hs p
      refine hs.update ?_
      rw [hmade]
      cases succeeds <;> simp [CommitParty.Made, ReservationEnd.Describes, CommitCall.succeeds]
  | take p succeeds =>
      simp only [CommitRun.after] at h
      split at h
      · rename_i hparty
        cases h
        have hmade : calls p = [.syncDirectory true, .rename true] := by
          simpa [hparty, CommitParty.Made] using hs p
        refine hs.update ?_
        rw [hmade]
        cases succeeds <;>
          simp [CommitParty.Made, ReservationEnd.Describes, CommitCall.succeeds, Committed]
      · obtain ⟨hparty, rfl⟩ : run.parties p = .reserving .guarded ∧ _ = run' := by
          simpa using h
        have hmade : calls p = [] := by simpa [hparty, CommitParty.Made] using hs p
        refine hs.update ?_
        rw [hmade]
        cases succeeds <;>
          simp [CommitParty.Made, ReservationEnd.Describes, CommitCall.succeeds, Committed]
  | publish p =>
      obtain ⟨hparty, rfl⟩ : run.parties p = .reserving .taken ∧ _ = run' := by
        simpa [CommitRun.after] using h
      have hmade := hs p
      rw [hparty] at hmade
      exact hs.update hmade
  | dropGuard p =>
      simp only [CommitRun.after] at h
      split at h
      · rename_i result hparty
        obtain ⟨-, rfl⟩ : run.holder = none ∧ _ = run' := by simpa using h
        have hmade := hs p
        rw [hparty] at hmade
        have hended : Traced (run.setParty p (.reserved result)) calls := hs.setParty hmade
        exact hended
      · cases h
  | cancel p =>
      obtain ⟨-, rfl⟩ : ((run.parties p).free = true ∧ run.holder = none) ∧ _ = run' := by
        simpa [CommitRun.after] using h
      have hrequested : Traced { run with requested := true } calls := hs
      exact hrequested.settle p
  | wake p =>
      obtain ⟨-, rfl⟩ : (run.parties p = .waiting ∧ run.holder = none) ∧ _ = run' := by
        simpa [CommitRun.after] using h
      exact hs.settle p
  | store p =>
      obtain ⟨-, rfl⟩ : run.holder = some p ∧ _ = run' := by simpa [CommitRun.after] using h
      have hcontinued : Traced (run.setParty p .continued) calls := hs.setParty trivial
      exact hcontinued
  | isCancelled p =>
      cases h
      exact hs

theorem CommitRecord.traced_of_reachable (h : recordedCommits.Reachable s) :
    Traced s.run s.calls := by
  refine h.invariant (I := fun s => Traced s.run s.calls) (fun s hs => ?_)
    (fun s e s' hs hstep => ?_)
  · rw [show s = CommitRecord.new from hs]
    exact fun p => trivial
  · obtain ⟨hrun, hcalls⟩ := after_eq_some hstep
    rw [hcalls]
    exact hs.after hrun

/-- A reservation none of whose calls fails has not begun or is committed. -/
theorem ReservationEnd.Describes.complete
    {result : ReservationEnd} {calls : List CommitCall} (h : result.Describes calls)
    (hsucceeds : ∀ call ∈ calls, call.succeeds = true) :
    result = .notBegun ∨ result = .committed := by
  cases result with
  | notBegun => exact Or.inl rfl
  | committed => exact Or.inr rfl
  | failed renamed =>
      obtain ⟨⟨call, hmem, hfails⟩, -⟩ := h
      rw [hsucceeds call hmem] at hfails
      cases hfails

/--
The counter counts the live guards.  No guard is granted after somebody has
seen the cancellation, the cancellation is not to be seen while a guard is
live, and when a canceller continues every reservation is still before its
guard, where it will be refused, or has ended.  One that has ended has made no
call, or all calls of a commit, or one of its own calls has failed; it is not
reported as failed unless one of them has.
-/
theorem cancellation_waits_for_commits (h : recordedCommits.Reachable s) :
    (s.run.commits = s.run.guards.length ∧
      ∀ p, p ∈ s.run.guards ↔ (s.run.parties p).holdsGuard = true) ∧
    (s.run.observed = true → ∀ p run, s.run.after (.beginCommit p) = some run →
      run.guards = s.run.guards ∧ run.parties p = .reserved .notBegun) ∧
    (s.run.observable = true → s.run.guards = []) ∧
    (∀ canceller, s.run.parties canceller = .continued → ∀ p,
      (∀ stage, s.run.parties p = .reserving stage → stage = .preparing ∧ s.calls p = []) ∧
      ∀ run, s.run.after (.beginCommit p) = some run → run.parties p = .reserved .notBegun) ∧
    ∀ p result, s.run.parties p = .reserved result →
      result.Describes (s.calls p) ∧
        ((∀ call ∈ s.calls p, call.succeeds = true) →
          result = .notBegun ∨ result = .committed) := by
  have hs := CommitRun.invariant_of_reachable (CommitRecord.reachable_run h)
  have htraced := CommitRecord.traced_of_reachable h
  have hrequested : s.run.observable = true → s.run.requested = true := fun hobservable =>
    hs.cancelled_requested (hs.observable_cancelled hobservable)
  have hguards : s.run.observable = true → s.run.guards = [] := fun hobservable =>
    hs.cancelled_guards (hs.observable_cancelled hobservable)
  refine ⟨⟨hs.counted, hs.guards_iff⟩, fun hobserved p run hafter => ?_, hguards,
    fun canceller hcanceller p => ⟨fun stage hstage => ?_, fun run hafter => ?_⟩,
    fun p result hresult => ?_⟩
  · exact CommitRun.beginCommit_refused (hrequested (hs.observed_observable hobserved)) hafter
  · have hnone := hguards (hs.continued_observable canceller hcanceller)
    have hguard := (hs.guards_iff p).not.mp (by simp [hnone])
    rw [hstage] at hguard
    have hstage' : stage = .preparing := by
      cases stage <;> simp_all [CommitParty.holdsGuard, ReservationStage.holdsGuard]
    have hmade := htraced p
    rw [hstage, hstage'] at hmade
    exact ⟨hstage', hmade⟩
  · have hobservable := hs.continued_observable canceller hcanceller
    exact (CommitRun.beginCommit_refused (hrequested hobservable) hafter).2
  · have hmade := htraced p
    rw [hresult] at hmade
    exact ⟨hmade, ReservationEnd.Describes.complete hmade⟩

end Calls

section Sample

/-- A reservation whose directory sync fails while the canceller 1 waits. -/
def failedSync : List (CommitEvent Nat) :=
  [.prepare 0, .beginCommit 0, .cancel 1, .rename 0 true, .syncDirectory 0 false, .dropGuard 0,
    .wake 1, .store 1]

/-- A reservation that commits while the canceller 1 waits, and one that comes too late. -/
def committedReservation : List (CommitEvent Nat) :=
  [.prepare 0, .prepare 2, .beginCommit 0, .cancel 1, .rename 0 true, .syncDirectory 0 true,
    .take 0 true, .wake 1, .publish 0, .dropGuard 0, .wake 1, .store 1]

theorem cancellation_waits_for_commits_committed :
    ∃ s : CommitRecord Nat, recordedCommits.Reachable s ∧ s.run.parties 0 = .reserved .committed ∧
      Committed (s.calls 0) ∧ s.run.guards = [] ∧
      ∀ run, s.run.after (.beginCommit 2) = some run → run.parties 2 = .reserved .notBegun := by
  have hrun : ((System.replay CommitRecord.after .new committedReservation).any fun s =>
      s.run.parties 0 = .reserved .committed ∧ s.run.parties 1 = .continued ∧
        s.run.observable) = true := by
    decide
  obtain ⟨s, hs, hend⟩ := (Option.any_eq_true _ _).mp hrun
  obtain ⟨hcommitted, hcontinued, hobservable⟩ := of_decide_eq_true hend
  have hreachable : recordedCommits.Reachable s := System.reachable_replay (.initial rfl) hs
  obtain ⟨-, -, hguards, hcontinue, hended⟩ := cancellation_waits_for_commits hreachable
  exact ⟨s, hreachable, hcommitted, (hended 0 _ hcommitted).1, hguards hobservable,
    (hcontinue 1 hcontinued 2).2⟩

/-- The canceller continues after a reservation that renamed the file and committed nothing. -/
theorem failed_reservation_half_done :
    ¬ ∀ s : CommitRecord Nat, recordedCommits.Reachable s → ∀ canceller,
      s.run.parties canceller = .continued → ∀ p result, s.run.parties p = .reserved result →
        s.calls p = [] ∨ Committed (s.calls p) := by
  intro h
  have hrun : ((System.replay CommitRecord.after .new failedSync).any fun s =>
      s.run.parties 0 = .reserved (.failed true) ∧ s.run.parties 1 = .continued ∧
        s.calls 0 = [.syncDirectory false, .rename true]) = true := by
    decide
  obtain ⟨s, hs, hend⟩ := (Option.any_eq_true _ _).mp hrun
  obtain ⟨hfailed, hcontinued, hcalls⟩ := of_decide_eq_true hend
  have hreachable : recordedCommits.Reachable s := System.reachable_replay (.initial rfl) hs
  have hended := h s hreachable 1 hcontinued 0 _ hfailed
  rw [hcalls] at hended
  simp [Committed] at hended

end Sample

end Sessiond
end SleepySession
