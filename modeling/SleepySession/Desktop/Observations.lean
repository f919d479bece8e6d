import SleepySession.Desktop.AuthorityStream

/-!
# The freshness of observations

A producer notes the observation revision of its domain before it looks, and a
publication caused by a request advances it.  The authority discards what was
observed under an older revision.
-/

namespace SleepySession
namespace Desktop

open Sessiond

variable {V : DesktopDomainId → Type} {sdk : DesktopSdk V} {slots : Nat}

section Observations

variable {s s' : AuthorityRun V} {revisions : DesktopDomainId → Nat}
variable {observations : List ObservationRecord}

/-- The revisions count the confirmed publications, in the width of the counter. -/
structure Revised (revisions : DesktopDomainId → Nat) (observations : List ObservationRecord) :
    Prop where
  current : ∀ domain, revisions domain = observations.count (.confirmed domain) % 2 ^ 64
  began : ∀ observation older, .began observation :: older <:+ observations →
    observation.revision = older.count (.confirmed observation.domain) % 2 ^ 64
  published : ∀ observation older, .published observation :: older <:+ observations →
    observation.revision = older.count (.confirmed observation.domain) % 2 ^ 64

theorem Revised.nil : Revised (fun _ => 0) [] :=
  ⟨fun _ => rfl, fun _ _ h => by simp at h, fun _ _ h => by simp at h⟩

theorem Revised.pushBegan (h : Revised revisions observations) (domain : DesktopDomainId) :
    Revised revisions (.began ⟨domain, revisions domain⟩ :: observations) := by
  refine ⟨fun other => ?_, fun observation older hsuffix => ?_, fun observation older hsuffix => ?_⟩
  · rw [List.count_cons_of_ne (by simp)]
    exact h.current other
  · rcases List.suffix_cons_iff.mp hsuffix with heq | hold
    · obtain ⟨hhead, rfl⟩ := List.cons.inj heq
      obtain rfl := ObservationRecord.began.inj hhead
      exact h.current domain
    · exact h.began observation older hold
  · rcases List.suffix_cons_iff.mp hsuffix with heq | hold
    · cases (List.cons.inj heq).1
    · exact h.published observation older hold

theorem Revised.pushPublished (h : Revised revisions observations)
    (observation : DesktopObservation)
    (hrevision : observation.revision = revisions observation.domain) :
    Revised revisions (.published observation :: observations) := by
  refine ⟨fun other => ?_, fun observation' older hsuffix => ?_, fun observation' older hsuffix => ?_⟩
  · rw [List.count_cons_of_ne (by simp)]
    exact h.current other
  · rcases List.suffix_cons_iff.mp hsuffix with heq | hold
    · cases (List.cons.inj heq).1
    · exact h.began observation' older hold
  · rcases List.suffix_cons_iff.mp hsuffix with heq | hold
    · obtain ⟨hhead, rfl⟩ := List.cons.inj heq
      obtain rfl := ObservationRecord.published.inj hhead
      exact hrevision.trans (h.current _)
    · exact h.published observation' older hold

theorem Revised.pushConfirmed (h : Revised revisions observations) (domain : DesktopDomainId) :
    Revised (Function.update revisions domain ((revisions domain + 1) % 2 ^ 64))
      (.confirmed domain :: observations) := by
  refine ⟨fun other => ?_, fun observation older hsuffix => ?_, fun observation older hsuffix => ?_⟩
  · by_cases hother : other = domain
    · subst hother
      rw [Function.update_self, List.count_cons_self, h.current other, Nat.mod_add_mod]
    · rw [Function.update_of_ne hother,
        List.count_cons_of_ne (by simpa using Ne.symm hother)]
      exact h.current other
  · rcases List.suffix_cons_iff.mp hsuffix with heq | hold
    · cases (List.cons.inj heq).1
    · exact h.began observation older hold
  · rcases List.suffix_cons_iff.mp hsuffix with heq | hold
    · cases (List.cons.inj heq).1
    · exact h.published observation older hold

/-- What a publication records. -/
theorem Revised.record (h : Revised revisions observations) (update : DesktopDomainUpdate V)
    (cause : EventCause)
    (hcurrent : ∀ expected ∈ update.observationRevision,
      expected = revisions update.state.domain) :
    Revised
      (if cause.kind = .request then
        Function.update revisions update.state.domain
          ((revisions update.state.domain + 1) % 2 ^ 64)
      else revisions)
      (AuthorityRun.record update cause observations) := by
  have hpublished : Revised revisions ((update.observationRevision.toList.map fun revision =>
      .published ⟨update.state.domain, revision⟩) ++ observations) := by
    cases hrevision : update.observationRevision with
    | none => exact h
    | some revision => exact h.pushPublished _ (hcurrent revision hrevision)
  unfold AuthorityRun.record
  by_cases hcause : cause.kind = .request
  · rw [if_pos hcause, if_pos hcause]
    exact hpublished.pushConfirmed _
  · rw [if_neg hcause, if_neg hcause]
    exact hpublished

/-- The records follow the revisions of the run. -/
def AuthorityRun.Revised (s : AuthorityRun V) : Prop :=
  Desktop.Revised s.authority.observationRevisions s.observations

theorem revised_publishDomain (hs : s.Revised) (a : GenerationAllocator)
    (update : DesktopDomainUpdate V) (cause : EventCause) (control : PublicationControl)
    (stamps : Stamps) (script : GenerationScript) :
    (s.publishDomain sdk a update cause control stamps script).2.Revised := by
  have hpublishes := publishes sdk s a update cause control stamps script
  generalize s.publishDomain sdk a update cause control stamps script = result at hpublishes ⊢
  cases hpublishes with
  | discarded hprepare => exact hs
  | refused e => exact hs
  | failed hallocate hresult => exact hs
  | published hprepare hallocate hfinish =>
      obtain ⟨-, -, -, hdomain, -, -, -, hcurrent⟩ := preparePublication_some hprepare
      obtain ⟨-, -, -, -, -, hrevisions, -⟩ := finishPublication_ok hfinish
      have hrecord := Desktop.Revised.record hs update cause (hdomain ▸ hcurrent)
      rw [hdomain] at hrevisions
      rwa [← hrevisions] at hrecord

theorem revised_publishCommandResult (hs : s.Revised) (a : GenerationAllocator)
    (outcome : CommandOutcome) (stamps : Stamps) (script : GenerationScript) :
    (s.publishCommandResult sdk a outcome stamps script).2.Revised := by
  have hsettles := settles sdk s a outcome stamps script
  generalize s.publishCommandResult sdk a outcome stamps script = result at hsettles ⊢
  cases hsettles with
  | refused e => exact hs
  | failed hallocate hresult => exact hs
  | settled hprepare hallocate hfinish =>
      obtain ⟨-, -, rfl⟩ := finishCommandResult_ok hfinish
      exact hs

theorem revised_stageInitial (hs : s.Revised) (a : GenerationAllocator) (elapsed : Nat → Bool)
    (states : StateMap V) (stamp : Stamp) (script : GenerationScript) :
    (s.stageInitial sdk a elapsed states stamp script).Revised := by
  have hstages := stages sdk s a elapsed states stamp script
  generalize s.stageInitial sdk a elapsed states stamp script = result at hstages ⊢
  cases hstages with
  | refused => exact hs
  | failed hallocate => exact hs
  | staged hprepare hallocate hfinish => exact hs

theorem revised_commitInitial (hs : s.Revised) (staged : StagedInitial V) :
    (s.commitInitial staged).Revised := by
  unfold AuthorityRun.commitInitial
  cases hlatest : s.authority.latestSnapshot with
  | some existing => exact hs
  | none =>
      have hcommit : (Desktop.commitInitial s.authority staged).observationRevisions =
          s.authority.observationRevisions := by
        unfold Desktop.commitInitial
        rw [hlatest]
      unfold AuthorityRun.Revised
      simp only [hcommit]
      exact hs

theorem revised_openAuthority (hs : s.Revised) (script : GenerationScript) :
    (s.openAuthority script).Revised := by
  unfold AuthorityRun.openAuthority
  cases GenerationAllocator.open.run script ⟨s.generations.files, .new 64⟩ with
  | mk outcome state =>
      cases outcome with
      | ok _ => exact Revised.nil
      | error e => exact hs
      | crashed => exact hs

/-- The step lemma. -/
theorem AuthorityRun.Revised.step (hs : s.Revised) {e : AuthorityEvent V}
    (h : s.step sdk slots e s') : s'.Revised := by
  cases e with
  | openAuthority script =>
      obtain rfl := h
      exact revised_openAuthority hs script
  | stageInitial elapsed states stamp script =>
      obtain ⟨a, -, rfl⟩ := h
      exact revised_stageInitial hs a elapsed states stamp script
  | commitInitial =>
      obtain ⟨staged, -, rfl⟩ := h
      exact revised_commitInitial hs staged
  | dropInitial =>
      obtain rfl := h
      exact hs
  | beginObservation domain =>
      obtain rfl := h
      exact hs.pushBegan domain
  | publishDomain update cause control stamps script =>
      obtain ⟨a, -, rfl⟩ := h
      exact revised_publishDomain hs a update cause control stamps script
  | publishCommandResult outcome stamps script =>
      obtain ⟨a, -, rfl⟩ := h
      exact revised_publishCommandResult hs a outcome stamps script
  | subscribe i =>
      obtain ⟨snapshot, -, rfl⟩ := h
      exact hs
  | recv i =>
      obtain ⟨subscriber, subscriber', -, -, rfl⟩ := h
      exact hs
  | leave i =>
      obtain rfl := h
      exact hs
  | others e =>
      obtain ⟨-, generations, -, rfl⟩ := h
      exact hs

theorem AuthorityRun.revised_of_reachable (h : (authoritySystem sdk slots).Reachable s) :
    s.Revised := by
  refine h.invariant ?_ fun s e s' hs hstep => hs.step hstep
  rintro s ⟨generations, script, -, -, rfl⟩
  exact revised_openAuthority (s := .start V generations) Revised.nil script

/-- When the finding of an observation is published, no mutation of its domain has been
confirmed since the observation began. -/
theorem observations_are_fresh (h : (authoritySystem sdk slots).Reachable s)
    {observation : DesktopObservation} {newer between older : List ObservationRecord}
    (hobservations : s.observations =
      newer ++ .published observation :: between ++ .began observation :: older)
    (hbound : s.observations.length < 2 ^ 64) :
    .confirmed observation.domain ∉ between := by
  have hs := AuthorityRun.revised_of_reachable h
  have hpublished := hs.published observation (between ++ .began observation :: older)
    ⟨newer, by rw [hobservations]; simp⟩
  have hbegan := hs.began observation older
    ⟨newer ++ .published observation :: between, hobservations.symm⟩
  have hlength : between.length + older.length + 2 ≤ s.observations.length := by
    rw [hobservations]
    simp only [List.length_append, List.length_cons]
    omega
  have hbetween : between.count (.confirmed observation.domain) ≤ between.length :=
    List.count_le_length
  have holder : older.count (.confirmed observation.domain) ≤ older.length :=
    List.count_le_length
  rw [List.count_append, List.count_cons_of_ne (by simp), Nat.mod_eq_of_lt (by omega)] at hpublished
  rw [Nat.mod_eq_of_lt (by omega)] at hbegan
  exact List.count_eq_zero.mp (by omega)

end Observations

section Sample

def brightnessState : DesktopDomainState SampleValue :=
  ⟨.brightness, .available, some ⟨.brightness, 3⟩, none, .inl ⟨rfl, ⟨3, rfl⟩, rfl⟩⟩

/-- The battery and the brightness are being observed. -/
def observedSample : AuthorityRun SampleValue :=
  { joinedSample with
    observations :=
      .began ⟨.brightness, joinedSample.authority.observationRevisions .brightness⟩ ::
        joinedSample.observations }

/-- A request has changed the brightness. -/
def changedSample : AuthorityRun SampleValue :=
  (observedSample.publishDomain sampleSdk ⟨64, 2, 65⟩ (.unversioned brightnessState)
    ⟨.request, some "00000000-0000-4000-8000-000000000003"⟩ none ⟨sampleStamp, sampleStamp⟩ []).2

/-- What the observation of the battery has found is published. -/
def freshSample : AuthorityRun SampleValue :=
  (changedSample.publishDomain sampleSdk ⟨64, 3, 65⟩ ⟨sampleState, some 0⟩ ⟨.external, none⟩ none
    ⟨sampleStamp, sampleStamp⟩ []).2

theorem freshSample_reachable : (authoritySystem sampleSdk 16).Reachable freshSample := by
  have hobserved : (authoritySystem sampleSdk 16).Reachable observedSample :=
    .step (e := .beginObservation .brightness) joinedSample_reachable rfl
  have hchanged : (authoritySystem sampleSdk 16).Reachable changedSample :=
    .step (e := .publishDomain (.unversioned brightnessState)
      ⟨.request, some "00000000-0000-4000-8000-000000000003"⟩ none ⟨sampleStamp, sampleStamp⟩ [])
      hobserved ⟨⟨64, 2, 65⟩, by decide, rfl⟩
  exact .step (e := .publishDomain ⟨sampleState, some 0⟩ ⟨.external, none⟩ none
    ⟨sampleStamp, sampleStamp⟩ []) hchanged ⟨⟨64, 3, 65⟩, by decide, rfl⟩

/-- The observation of the battery is fresh, and that of the brightness is discarded. -/
theorem observations_are_fresh_sample :
    freshSample.observations =
        [] ++ .published ⟨.battery, 0⟩ :: [.confirmed .brightness, .began ⟨.brightness, 0⟩] ++
          .began ⟨.battery, 0⟩ :: [] ∧
      ObservationRecord.confirmed .battery ∉
        [.confirmed .brightness, .began ⟨.brightness, 0⟩] ∧
      (freshSample.publishDomain sampleSdk ⟨64, 4, 65⟩ ⟨brightnessState, some 0⟩
        ⟨.external, none⟩ none ⟨sampleStamp, sampleStamp⟩ []).1 = .ok none := by
  have hobservations : freshSample.observations =
      [] ++ .published ⟨.battery, 0⟩ :: [.confirmed .brightness, .began ⟨.brightness, 0⟩] ++
        .began ⟨.battery, 0⟩ :: [] := by
    decide
  have hdiscarded : preparePublication sampleSdk freshSample.authority none
      ⟨brightnessState, some 0⟩ = .ok none := by
    have hstates : freshSample.authority.states.isSome = true := by decide
    obtain ⟨states, hstates⟩ := Option.isSome_iff_exists.mp hstates
    have hrevision : freshSample.authority.observationRevisions .brightness = 1 := by
      decide
    simp only [preparePublication, hstates]
    rw [if_pos ⟨0, rfl, by simpa only [brightnessState, hrevision] using Nat.zero_ne_one⟩]
    rfl
  refine ⟨hobservations, observations_are_fresh freshSample_reachable hobservations
    (by decide), ?_⟩
  rw [AuthorityRun.publishDomain, hdiscarded]

end Sample

end Desktop
end SleepySession
