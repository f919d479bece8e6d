import SleepySession.Sessiond.Mutation

/-!
# What a mutation result says

A request keeps the authority from its generation check to its answer, so what
it read back is still the retained snapshot when it publishes.  Its stage fixes
who holds the authority and what the hub has become since the request entered.
-/

set_option linter.unusedSectionVars false

namespace SleepySession
namespace Sessiond

section Stages

variable {τ π χ : Type} [DecidableEq π] [DecidableEq χ]

/-- A read-back that differs from the retained snapshot in the mutated record only. -/
def ReadsBack (r : MutationRequest) (previous snapshot : Snapshot) : Prop :=
  ∃ record : Record, record.id = runtimeCapability r.mutation ∧
    (∃ current ∈ previous.capabilities, current.id = record.id) ∧
    snapshot = { previous with capabilities := replaceFirst record previous.capabilities }

def Confirms (r : MutationRequest) (snapshot : Snapshot) : Prop :=
  runtimeConfirms r.mutation (snapshot.valueOf (runtimeCapability r.mutation)) = true

/-- The event of a confirmed request, right after what the request had found. -/
def Published
    (initial : Snapshot) (r : MutationRequest) (entered : HubView τ)
    (event : EventEnvelope RuntimeCapabilityId CapabilityValue τ)
    (accepted : List (EventEnvelope RuntimeCapabilityId CapabilityValue τ)) : Prop :=
  (∃ later, accepted = entered.accepted ++ event :: later) ∧
    r.expectedGeneration < event.generation ∧
    event.cause = { kind := .request, requestId := some r.requestId } ∧
    ∃ snapshot, event.payload = .fullSnapshot snapshot ∧
      ReadsBack r (snapshotAfter initial entered.accepted) snapshot ∧ Confirms r snapshot

/-- The request holds the authority and the hub is as it was found. -/
def Holds
    (hub : HubRun RuntimeCapabilityId CapabilityValue τ π χ) (p : π) (entered : HubView τ) : Prop :=
  hub.holder = some (p, .idle) ∧ hub.view = entered

/-- What an outcome says about the hub, found as `entered` and left as `left`. -/
def OutcomeFits
    (initial : Snapshot) (r : MutationRequest) (entered left : HubView τ)
    (accepted : List (EventEnvelope RuntimeCapabilityId CapabilityValue τ)) :
    MutationOutcome τ → Prop
  | .confirmed event => Published initial r entered event accepted
  | .rejected => left = entered
  | .unknown _ => left = entered

/-- What the stage of a request says about the hub. -/
def StageFits
    (initial : Snapshot) (hub : HubRun RuntimeCapabilityId CapabilityValue τ π χ)
    (pending : Option SystemMutation) (p : π) (r : MutationRequest) : RequestStage τ → Prop
  | .waiting => True
  | .locked entered => Holds hub p entered
  | .executing entered => Holds hub p entered ∧ r.expectedGeneration = hub.currentGeneration
  | .executed entered => Holds hub p entered ∧ r.expectedGeneration = hub.currentGeneration ∧
      pending = some r.mutation
  | .probed entered record => Holds hub p entered ∧
      r.expectedGeneration = hub.currentGeneration ∧ record.id = runtimeCapability r.mutation
  | .readBack entered snapshot => Holds hub p entered ∧
      r.expectedGeneration = hub.currentGeneration ∧
      ReadsBack r (snapshotAfter initial entered.accepted) snapshot
  | .confirmed entered snapshot => Holds hub p entered ∧
      r.expectedGeneration = hub.currentGeneration ∧
      ReadsBack r (snapshotAfter initial entered.accepted) snapshot ∧ Confirms r snapshot
  | .publishing entered event => hub.holder = some (p, .allocated event) ∧ hub.view = entered ∧
      Published initial r entered event (entered.accepted ++ [event])
  | .folded entered event => hub.holder = some (p, .folded event) ∧
      Published initial r entered event hub.accepted
  | .sent entered event => hub.holder = some (p, .sent event) ∧
      Published initial r entered event hub.accepted
  | .refused entered => (∃ e, hub.holder = some (p, .rejected e)) ∧ hub.view = entered
  | .responding entered outcome => hub.holder = some (p, .idle) ∧
      OutcomeFits initial r entered hub.view hub.accepted outcome
  | .responded entered left outcome =>
      OutcomeFits initial r entered left hub.accepted outcome

/-- The request holds the authority. -/
def RequestStage.Active : RequestStage τ → Prop
  | .waiting => False
  | .responded _ _ _ => False
  | _ => True

theorem Published.grow
    {initial : Snapshot} {r : MutationRequest} {entered : HubView τ}
    {event : EventEnvelope RuntimeCapabilityId CapabilityValue τ}
    {accepted more : List (EventEnvelope RuntimeCapabilityId CapabilityValue τ)}
    (h : Published initial r entered event accepted) :
    Published initial r entered event (accepted ++ more) := by
  obtain ⟨⟨later, rfl⟩, hrest⟩ := h
  exact ⟨⟨later ++ more, by simp⟩, hrest⟩

theorem StageFits.holder
    {initial : Snapshot} {hub : HubRun RuntimeCapabilityId CapabilityValue τ π χ}
    {pending : Option SystemMutation} {p : π} {r : MutationRequest} {stage : RequestStage τ}
    (h : StageFits initial hub pending p r stage) (hactive : stage.Active) :
    ∃ publish, hub.holder = some (p, publish) := by
  cases stage with
  | waiting => exact hactive.elim
  | locked entered => exact ⟨_, h.1⟩
  | executing entered => exact ⟨_, h.1.1⟩
  | executed entered => exact ⟨_, h.1.1⟩
  | probed entered record => exact ⟨_, h.1.1⟩
  | readBack entered snapshot => exact ⟨_, h.1.1⟩
  | confirmed entered snapshot => exact ⟨_, h.1.1⟩
  | publishing entered event => exact ⟨_, h.1⟩
  | folded entered event => exact ⟨_, h.1⟩
  | sent entered event => exact ⟨_, h.1⟩
  | refused entered =>
      obtain ⟨⟨e, he⟩, -⟩ := h
      exact ⟨_, he⟩
  | responding entered outcome => exact ⟨_, h.1⟩
  | responded entered left outcome => exact hactive.elim

/-- A request without the authority is not concerned by what others publish. -/
theorem StageFits.inactive
    {initial : Snapshot} {hub hub' : HubRun RuntimeCapabilityId CapabilityValue τ π χ}
    {pending pending' : Option SystemMutation} {p : π} {r : MutationRequest}
    {stage : RequestStage τ}
    (h : StageFits initial hub pending p r stage) (hinactive : ¬ stage.Active)
    (hgrow : ∃ more, hub'.accepted = hub.accepted ++ more) :
    StageFits initial hub' pending' p r stage := by
  obtain ⟨more, hmore⟩ := hgrow
  cases stage with
  | waiting => trivial
  | responded entered left outcome =>
      cases outcome with
      | confirmed event =>
          have : Published initial r entered event hub.accepted := h
          show Published initial r entered event hub'.accepted
          rw [hmore]
          exact this.grow
      | rejected => exact h
      | unknown code => exact h
  | _ => exact absurd trivial hinactive

/-- A step that only subscribers notice. -/
theorem StageFits.congr
    {initial : Snapshot} {hub hub' : HubRun RuntimeCapabilityId CapabilityValue τ π χ}
    {pending : Option SystemMutation} {p : π} {r : MutationRequest} {stage : RequestStage τ}
    (h : StageFits initial hub pending p r stage)
    (hholder : hub'.holder = hub.holder) (hview : hub'.view = hub.view)
    (hcurrent : hub'.currentGeneration = hub.currentGeneration) :
    StageFits initial hub' pending p r stage := by
  have haccepted : hub'.accepted = hub.accepted := congrArg HubView.accepted hview
  cases stage <;> simp only [StageFits, Holds, hholder, hview, hcurrent, haccepted] at h ⊢ <;>
    exact h

/-- Acceptances are never taken back. -/
theorem HubRun.accepted_after
    {slots : Nat} {hub hub' : HubRun RuntimeCapabilityId CapabilityValue τ π χ}
    {e : HubEvent RuntimeCapabilityId CapabilityValue τ π χ}
    (h : hub.after slots e = some hub') :
    ∃ more, hub'.accepted = hub.accepted ++ more := by
  cases e with
  | recv c =>
      unfold HubRun.after at h
      dsimp only at h
      split at h
      · obtain ⟨x, -, rfl⟩ := Option.map_eq_some_iff.mp h
        exact ⟨[], (List.append_nil _).symm⟩
      · cases h
  | leave c =>
      cases h
      exact ⟨[], (List.append_nil _).symm⟩
  | fold p =>
      unfold HubRun.after at h
      dsimp only at h
      (repeat' split at h) <;> cases h
      · exact ⟨[_], rfl⟩
      · exact ⟨[], (List.append_nil _).symm⟩
  | _ =>
      unfold HubRun.after at h
      dsimp only at h
      (repeat' split at h) <;> cases h <;> exact ⟨[], (List.append_nil _).symm⟩

/-- A publisher's step finds the lock free or its own. -/
theorem HubRun.holder_of_after
    {slots : Nat} {hub hub' : HubRun RuntimeCapabilityId CapabilityValue τ π χ}
    {e : HubEvent RuntimeCapabilityId CapabilityValue τ π χ} {p q : π}
    {publish : PublishStage RuntimeCapabilityId CapabilityValue τ}
    (h : hub.after slots e = some hub') (hpublisher : e.publisher? = some p)
    (hholder : hub.holder = some (q, publish)) :
    q = p := by
  cases e with
  | attach c => cases hpublisher
  | readSnapshot c => cases hpublisher
  | recv c => cases hpublisher
  | leave c => cases hpublisher
  | _ =>
      cases hpublisher
      simp only [HubRun.after, hholder] at h
      (repeat' split at h) <;> simp_all

/-- The steps of subscribers. -/
theorem HubRun.subscriber_after
    {slots : Nat} {hub hub' : HubRun RuntimeCapabilityId CapabilityValue τ π χ}
    {e : HubEvent RuntimeCapabilityId CapabilityValue τ π χ}
    (h : hub.after slots e = some hub') (hpublisher : e.publisher? = none) :
    hub'.holder = hub.holder ∧ hub'.view = hub.view ∧
      hub'.currentGeneration = hub.currentGeneration := by
  cases e with
  | attach c =>
      unfold HubRun.after at h
      dsimp only at h
      split at h <;> cases h
      exact ⟨rfl, rfl, rfl⟩
  | readSnapshot c =>
      unfold HubRun.after at h
      dsimp only at h
      split at h <;> cases h
      exact ⟨rfl, rfl, rfl⟩
  | recv c =>
      unfold HubRun.after at h
      dsimp only at h
      split at h
      · obtain ⟨x, -, rfl⟩ := Option.map_eq_some_iff.mp h
        exact ⟨rfl, rfl, rfl⟩
      · cases h
  | leave c =>
      cases h
      exact ⟨rfl, rfl, rfl⟩
  | _ => cases hpublisher

end Stages

section Runs

variable {τ π χ : Type} [DecidableEq π] [DecidableEq χ]
variable {slots generation : Nat} {initial : Snapshot} {request : π → Option MutationRequest}

/-- What holds of the requests at any time. -/
structure PipelineRun.Invariant
    (initial : Snapshot) (request : π → Option MutationRequest) (s : PipelineRun τ π χ) :
    Prop where
  hub : s.hub.Invariant initial
  fits : ∀ p r, request p = some r → StageFits initial s.hub s.pending p r (s.stages p)
  sources : ∀ p, request p = none → s.stages p = .waiting

/-- A request moves on, alone with the authority. -/
theorem PipelineRun.Invariant.advance
    {s : PipelineRun τ π χ}
    (hs : s.Invariant initial request)
    {p : π} {r : MutationRequest} (hrequest : request p = some r)
    {hub : HubRun RuntimeCapabilityId CapabilityValue τ π χ} {pending : Option SystemMutation}
    {stage : RequestStage τ}
    (hhub : hub.Invariant initial)
    (hgrow : ∃ more, hub.accepted = s.hub.accepted ++ more)
    (hown : ∀ q publish, s.hub.holder = some (q, publish) → q = p)
    (hfits : StageFits initial hub pending p r stage) :
    PipelineRun.Invariant initial request
      ⟨hub, pending, Function.update s.stages p stage⟩ where
  hub := hhub
  fits q r' hq := by
    by_cases hqp : q = p
    · subst hqp
      rw [hrequest, Option.some.injEq] at hq
      subst hq
      simpa using hfits
    · have hold := hs.fits q r' hq
      simp only [Function.update_of_ne hqp]
      refine hold.inactive (fun hactive => ?_) hgrow
      obtain ⟨publish, hholder⟩ := hold.holder hactive
      exact hqp (hown q publish hholder)
  sources q hq := by
    have hqp : q ≠ p := by
      rintro rfl
      rw [hrequest] at hq
      cases hq
    simpa [Function.update_of_ne hqp] using hs.sources q hq

/-- A request moves on without touching the hub. -/
theorem PipelineRun.Invariant.setStage
    {s : PipelineRun τ π χ}
    (hs : s.Invariant initial request)
    {p : π} {r : MutationRequest} (hrequest : request p = some r)
    (hactive : (s.stages p).Active)
    (pending : Option SystemMutation) (stage : RequestStage τ)
    (hfits : StageFits initial s.hub pending p r stage) :
    PipelineRun.Invariant initial request
      ⟨s.hub, pending, Function.update s.stages p stage⟩ := by
  obtain ⟨publish, hholder⟩ := (hs.fits p r hrequest).holder hactive
  refine hs.advance hrequest hs.hub ⟨[], (List.append_nil _).symm⟩ (fun q publish' h => ?_) hfits
  rw [hholder] at h
  cases h
  rfl

/-- A request publishes a step of its event. -/
theorem PipelineRun.Invariant.publish
    {s : PipelineRun τ π χ}
    (hs : s.Invariant initial request)
    {p : π} {r : MutationRequest} (hrequest : request p = some r)
    {e : HubEvent RuntimeCapabilityId CapabilityValue τ π χ}
    {hub : HubRun RuntimeCapabilityId CapabilityValue τ π χ}
    (hstep : s.hub.after slots e = some hub) (hpublisher : e.publisher? = some p)
    (stage : RequestStage τ)
    (hfits : StageFits initial hub s.pending p r stage) :
    PipelineRun.Invariant initial request
      ⟨hub, s.pending, Function.update s.stages p stage⟩ :=
  hs.advance hrequest (hs.hub.after hstep) (HubRun.accepted_after hstep)
    (fun _ _ hholder => HubRun.holder_of_after hstep hpublisher hholder) hfits

/-- Whoever is not waiting has a request. -/
theorem PipelineRun.Invariant.request_of_stage
    {s : PipelineRun τ π χ}
    (hs : s.Invariant initial request) {p : π} (hstage : s.stages p ≠ .waiting) :
    ∃ r, request p = some r := by
  cases hrequest : request p with
  | none => exact absurd (hs.sources p hrequest) hstage
  | some r => exact ⟨r, rfl⟩

theorem readbackSnapshot_eq_some
    {hub : HubRun RuntimeCapabilityId CapabilityValue τ π χ} {record : Record}
    {snapshot : Snapshot} {r : MutationRequest} {entered : HubView τ}
    (hhub : hub.Invariant initial) (hview : hub.view = entered)
    (hrecord : record.id = runtimeCapability r.mutation)
    (h : readbackSnapshot hub.latestSnapshot record = some snapshot) :
    ReadsBack r (snapshotAfter initial entered.accepted) snapshot := by
  have haccepted : hub.accepted = entered.accepted := congrArg HubView.accepted hview
  unfold readbackSnapshot at h
  rw [hhub.folded, haccepted] at h
  simp only at h
  split at h
  · rename_i hany
    cases h
    refine ⟨record, hrecord, ?_, rfl⟩
    simpa using hany
  · cases h

theorem PipelineRun.Invariant.hubStep
    {s : PipelineRun τ π χ}
    (hs : s.Invariant initial request)
    {e : HubEvent RuntimeCapabilityId CapabilityValue τ π χ}
    {hub : HubRun RuntimeCapabilityId CapabilityValue τ π χ}
    (hsource : e.publisher?.all (fun p => (request p).isNone) = true)
    (hstep : s.hub.after slots e = some hub) :
    PipelineRun.Invariant initial request { s with hub := hub } where
  hub := hs.hub.after hstep
  sources := hs.sources
  fits p r hrequest := by
    have hold := hs.fits p r hrequest
    cases hpublisher : e.publisher? with
    | none =>
        obtain ⟨hholder, hview, hcurrent⟩ := HubRun.subscriber_after hstep hpublisher
        exact hold.congr hholder hview hcurrent
    | some q =>
        refine hold.inactive (fun hactive => ?_) (HubRun.accepted_after hstep)
        obtain ⟨publish, hholder⟩ := hold.holder hactive
        have hpq := HubRun.holder_of_after hstep hpublisher hholder
        subst hpq
        simp [hpublisher, hrequest] at hsource

/-- A request at a stage has what the stage stands for. -/
theorem PipelineRun.Invariant.fits_at
    {s : PipelineRun τ π χ}
    (hs : s.Invariant initial request)
    {p : π} {r : MutationRequest} (hrequest : request p = some r)
    {stage : RequestStage τ} (hstage : s.stages p = stage) :
    StageFits initial s.hub s.pending p r stage := by
  subst hstage
  exact hs.fits p r hrequest

theorem PipelineRun.Invariant.request_fits
    {s : PipelineRun τ π χ}
    (hs : s.Invariant initial request)
    {p : π} {stage : RequestStage τ} (hstage : s.stages p = stage)
    (hstarted : stage ≠ .waiting) :
    ∃ r, request p = some r ∧ StageFits initial s.hub s.pending p r stage := by
  obtain ⟨r, hrequest⟩ := hs.request_of_stage (p := p) (by rwa [hstage])
  exact ⟨r, hrequest, hs.fits_at hrequest hstage⟩

/-- A request at an active stage moves on without touching the hub. -/
theorem PipelineRun.Invariant.moveStage
    {s : PipelineRun τ π χ}
    (hs : s.Invariant initial request)
    {p : π} {r : MutationRequest} (hrequest : request p = some r)
    {old : RequestStage τ} (hstage : s.stages p = old) (hactive : old.Active)
    (pending : Option SystemMutation) (stage : RequestStage τ)
    (hfits : StageFits initial s.hub pending p r stage) :
    PipelineRun.Invariant initial request
      ⟨s.hub, pending, Function.update s.stages p stage⟩ := by
  subst hstage
  exact hs.setStage hrequest hactive pending stage hfits

/-- A step of the hub that no request takes is one of a source or of a subscriber. -/
theorem PipelineRun.Invariant.after_hub
    {s s' : PipelineRun τ π χ} {event : HubEvent RuntimeCapabilityId CapabilityValue τ π χ}
    (hs : s.Invariant initial request)
    (h : s.after slots request (.hub event) = some s') :
    s'.Invariant initial request := by
  unfold PipelineRun.after at h
  dsimp only at h
  split at h
  · rename_i hsource
    obtain ⟨hub, hstep, rfl⟩ := Option.map_eq_some_iff.mp h
    exact hs.hubStep hsource hstep
  · cases h

theorem PipelineRun.Invariant.after_lock
    {s s' : PipelineRun τ π χ} {p : π}
    (hs : s.Invariant initial request)
    (h : s.after slots request (.lock p) = some s') :
    s'.Invariant initial request := by
  unfold PipelineRun.after at h
  dsimp only at h
  split at h
  · rename_i r hstage hrequest
    obtain ⟨hub, hstep, rfl⟩ := Option.map_eq_some_iff.mp h
    refine hs.publish hrequest hstep rfl _ ?_
    unfold HubRun.after at hstep
    dsimp only at hstep
    split at hstep <;> cases hstep
    exact ⟨rfl, rfl⟩
  · cases h

theorem PipelineRun.Invariant.after_checkGeneration
    {s s' : PipelineRun τ π χ} {p : π}
    (hs : s.Invariant initial request)
    (h : s.after slots request (.checkGeneration p) = some s') :
    s'.Invariant initial request := by
  unfold PipelineRun.after at h
  dsimp only at h
  split at h
  · rename_i entered r hstage hrequest
    have hfits := hs.fits_at hrequest hstage
    split at h <;> cases h
    · exact hs.moveStage hrequest hstage trivial _ _ ⟨hfits.1, hfits.2⟩
    · rename_i hcurrent
      exact hs.moveStage hrequest hstage trivial _ _ ⟨hfits, not_not.mp hcurrent⟩
  · cases h

theorem PipelineRun.Invariant.after_execute
    {s s' : PipelineRun τ π χ} {p : π} {answer : Except String Unit}
    (hs : s.Invariant initial request)
    (h : s.after slots request (.execute p answer) = some s') :
    s'.Invariant initial request := by
  unfold PipelineRun.after at h
  dsimp only at h
  split at h
  · rename_i entered r hstage hrequest
    have hfits := hs.fits_at hrequest hstage
    cases h
    exact hs.moveStage hrequest hstage trivial _ _ ⟨hfits.1, hfits.2, rfl⟩
  · rename_i entered r code hstage hrequest
    have hfits := hs.fits_at hrequest hstage
    cases h
    exact hs.moveStage hrequest hstage trivial _ _ ⟨hfits.1.1, hfits.1.2⟩
  · cases h

/-- The record that is read back is the one that was asked for, or the probe has failed. -/
theorem PipelineRun.Invariant.after_probe
    {s s' : PipelineRun τ π χ}
    {p : π} {status : CapabilityAvailability} {value : Option CapabilityValue} {diagnostic : Option String}
    (hs : s.Invariant initial request)
    (h : s.after slots request (.probe p status value diagnostic) = some s') :
    s'.Invariant initial request := by
  unfold PipelineRun.after at h
  dsimp only at h
  split at h
  · rename_i entered mutation hstage hpending
    obtain ⟨r, hrequest, hfits⟩ := hs.request_fits hstage (by simp)
    cases h
    refine hs.moveStage hrequest hstage trivial _ _ ⟨hfits.1, hfits.2.1, ?_⟩
    have hsame := hfits.2.2
    rw [hpending, Option.some.injEq] at hsame
    simp [hsame]
  · rename_i entered hstage hpending
    obtain ⟨r, hrequest, hfits⟩ := hs.request_fits hstage (by simp)
    cases h
    exact hs.moveStage hrequest hstage trivial _ _ ⟨hfits.1.1, hfits.1.2⟩
  · cases h

theorem PipelineRun.Invariant.after_readBack
    {s s' : PipelineRun τ π χ} {p : π}
    (hs : s.Invariant initial request)
    (h : s.after slots request (.readBack p) = some s') :
    s'.Invariant initial request := by
  unfold PipelineRun.after at h
  dsimp only at h
  split at h
  · rename_i entered record hstage
    obtain ⟨r, hrequest, hfits⟩ := hs.request_fits hstage (by simp)
    split at h
    · rename_i snapshot hsnapshot
      cases h
      exact hs.moveStage hrequest hstage trivial _ _ ⟨hfits.1, hfits.2.1,
        readbackSnapshot_eq_some hs.hub hfits.1.2 hfits.2.2 hsnapshot⟩
    · cases h
      exact hs.moveStage hrequest hstage trivial _ _ ⟨hfits.1.1, hfits.1.2⟩
  · cases h

theorem PipelineRun.Invariant.after_readBackFailed
    {s s' : PipelineRun τ π χ} {p : π} {code : String}
    (hs : s.Invariant initial request)
    (h : s.after slots request (.readBackFailed p code) = some s') :
    s'.Invariant initial request := by
  unfold PipelineRun.after at h
  dsimp only at h
  split at h
  · rename_i entered hstage
    obtain ⟨r, hrequest, hfits⟩ := hs.request_fits hstage (by simp)
    cases h
    exact hs.moveStage hrequest hstage trivial _ _ ⟨hfits.1.1, hfits.1.2⟩
  · rename_i entered record hstage
    obtain ⟨r, hrequest, hfits⟩ := hs.request_fits hstage (by simp)
    cases h
    exact hs.moveStage hrequest hstage trivial _ _ ⟨hfits.1.1, hfits.1.2⟩
  · cases h

/-- What is confirmed was read back under the generation the request expects. -/
theorem PipelineRun.Invariant.after_confirm
    {s s' : PipelineRun τ π χ} {p : π}
    (hs : s.Invariant initial request)
    (h : s.after slots request (.confirm p) = some s') :
    s'.Invariant initial request := by
  unfold PipelineRun.after at h
  dsimp only at h
  split at h
  · rename_i entered snapshot r hstage hrequest
    have hfits := hs.fits_at hrequest hstage
    split at h <;> cases h
    · rename_i hconfirms
      exact hs.moveStage hrequest hstage trivial _ _
        ⟨hfits.1, hfits.2.1, hfits.2.2, hconfirms⟩
    · exact hs.moveStage hrequest hstage trivial _ _ ⟨hfits.1.1, hfits.1.2⟩
  · cases h

/-- The event that is allocated carries the snapshot that was read back. -/
theorem PipelineRun.Invariant.after_allocate
    {s s' : PipelineRun τ π χ} {p : π} {answer : Option (Nat × Nat × String × String)}
    (hs : s.Invariant initial request)
    (h : s.after slots request (.allocate p answer) = some s') :
    s'.Invariant initial request := by
  unfold PipelineRun.after at h
  dsimp only at h
  split at h
  · rename_i entered snapshot r g schemaVersion eventId emittedAt hstage hrequest
    have hfits := hs.fits_at hrequest hstage
    obtain ⟨⟨hholder, hview⟩, hexpected, hreads, hconfirms⟩ := hfits
    split at h
    · rename_i hcurrent
      obtain ⟨hub, hstep, rfl⟩ := Option.map_eq_some_iff.mp h
      refine hs.publish hrequest hstep rfl _ ?_
      simp only [HubRun.after, hholder, if_true] at hstep
      cases hstep
      exact ⟨rfl, hview, ⟨[], rfl⟩, hexpected ▸ hcurrent, rfl, snapshot, rfl, hreads,
        hconfirms⟩
    · cases h
  · rename_i entered snapshot r hstage hrequest
    have hfits := hs.fits_at hrequest hstage
    cases h
    exact hs.moveStage hrequest hstage trivial _ _ ⟨hfits.1.1, hfits.1.2⟩
  · cases h

/-- The hub takes the event over, or refuses it as stale. -/
theorem PipelineRun.Invariant.after_fold
    {s s' : PipelineRun τ π χ} {p : π}
    (hs : s.Invariant initial request)
    (h : s.after slots request (.fold p) = some s') :
    s'.Invariant initial request := by
  unfold PipelineRun.after at h
  dsimp only at h
  split at h
  · rename_i entered event hstage
    obtain ⟨r, hrequest, hfits⟩ := hs.request_fits hstage (by simp)
    obtain ⟨hholder, hview, hpublished⟩ := hfits
    obtain ⟨hub, hstep, rfl⟩ := Option.map_eq_some_iff.mp h
    have hfold := hstep
    simp only [HubRun.after, hholder, if_true] at hfold
    split at hfold
    · cases hfold
      refine hs.publish hrequest hstep rfl (.folded entered event) ⟨rfl, ?_⟩
      have haccepted : s.hub.accepted = entered.accepted := congrArg HubView.accepted hview
      simpa only [haccepted] using hpublished
    · rename_i e _
      cases hfold
      exact hs.publish hrequest hstep rfl (.refused entered) ⟨⟨e, rfl⟩, hview⟩
  · cases h

theorem PipelineRun.Invariant.after_send
    {s s' : PipelineRun τ π χ} {p : π}
    (hs : s.Invariant initial request)
    (h : s.after slots request (.send p) = some s') :
    s'.Invariant initial request := by
  unfold PipelineRun.after at h
  dsimp only at h
  split at h
  · rename_i entered event hstage
    obtain ⟨r, hrequest, hfits⟩ := hs.request_fits hstage (by simp)
    obtain ⟨hub, hstep, rfl⟩ := Option.map_eq_some_iff.mp h
    refine hs.publish hrequest hstep rfl _ ?_
    simp only [HubRun.after, hfits.1, if_true] at hstep
    cases hstep
    exact ⟨rfl, hfits.2⟩
  · cases h

theorem PipelineRun.Invariant.after_settle
    {s s' : PipelineRun τ π χ} {p : π}
    (hs : s.Invariant initial request)
    (h : s.after slots request (.settle p) = some s') :
    s'.Invariant initial request := by
  unfold PipelineRun.after at h
  dsimp only at h
  split at h
  · rename_i entered event hstage
    obtain ⟨r, hrequest, hfits⟩ := hs.request_fits hstage (by simp)
    obtain ⟨hub, hstep, rfl⟩ := Option.map_eq_some_iff.mp h
    refine hs.publish hrequest hstep rfl _ ?_
    simp only [HubRun.after, hfits.1, if_true] at hstep
    cases hstep
    exact ⟨rfl, hfits.2⟩
  · rename_i entered hstage
    obtain ⟨r, hrequest, hfits⟩ := hs.request_fits hstage (by simp)
    obtain ⟨⟨e, hholder⟩, hview⟩ := hfits
    obtain ⟨hub, hstep, rfl⟩ := Option.map_eq_some_iff.mp h
    refine hs.publish hrequest hstep rfl _ ?_
    cases e with
    | staleGeneration attempted current =>
        simp only [HubRun.after, hholder, if_true] at hstep
        cases hstep
        exact ⟨rfl, hview⟩
  · cases h

theorem PipelineRun.Invariant.after_respond
    {s s' : PipelineRun τ π χ} {p : π}
    (hs : s.Invariant initial request)
    (h : s.after slots request (.respond p) = some s') :
    s'.Invariant initial request := by
  unfold PipelineRun.after at h
  dsimp only at h
  split at h
  · rename_i entered outcome hstage
    obtain ⟨r, hrequest, hfits⟩ := hs.request_fits hstage (by simp)
    obtain ⟨hub, hstep, rfl⟩ := Option.map_eq_some_iff.mp h
    refine hs.publish hrequest hstep rfl _ ?_
    simp only [HubRun.after, hfits.1, if_true] at hstep
    cases hstep
    exact hfits.2
  · cases h

theorem PipelineRun.Invariant.after
    {s s' : PipelineRun τ π χ} {e : PipelineEvent τ π χ}
    (hs : s.Invariant initial request)
    (h : s.after slots request e = some s') :
    s'.Invariant initial request := by
  cases e with
  | hub event => exact hs.after_hub h
  | lock p => exact hs.after_lock h
  | checkGeneration p => exact hs.after_checkGeneration h
  | execute p answer => exact hs.after_execute h
  | probe p status value diagnostic => exact hs.after_probe h
  | readBack p => exact hs.after_readBack h
  | readBackFailed p code => exact hs.after_readBackFailed h
  | confirm p => exact hs.after_confirm h
  | allocate p answer => exact hs.after_allocate h
  | fold p => exact hs.after_fold h
  | send p => exact hs.after_send h
  | settle p => exact hs.after_settle h
  | respond p => exact hs.after_respond h

theorem PipelineRun.invariant_of_reachable
    {s : PipelineRun τ π χ}
    (h : (pipelineSystem slots generation initial request).Reachable s) :
    s.Invariant initial request := by
  refine h.invariant (I := PipelineRun.Invariant initial request) (fun s hs => ?_)
    (fun s e s' hs hstep => hs.after (e := e) hstep)
  obtain ⟨⟨envelope, currentGeneration, hpayload, -, hhub⟩, hstages⟩ := hs
  refine ⟨?_, fun p r _ => ?_, fun p _ => hstages p⟩
  · rw [hhub]
    exact HubRun.invariant_start hpayload currentGeneration
  · rw [hstages p]
    trivial

/-- Every capability but one has the record it had, and the focus is the same. -/
theorem ReadsBack.others
    {r : MutationRequest} {previous snapshot : Snapshot} (h : ReadsBack r previous snapshot) :
    snapshot.view.focusedOutputId = previous.view.focusedOutputId ∧
      ∀ id, id ≠ runtimeCapability r.mutation →
        snapshot.view.record id = previous.view.record id := by
  obtain ⟨record, hrecord, hpresent, rfl⟩ := h
  refine ⟨rfl, fun id hid => ?_⟩
  simp only [RuntimeSnapshot.view]
  rw [find?_replaceFirst record id previous.capabilities hpresent,
    if_neg (by rw [hrecord]; exact hid)]

/-- The capability holds the value that was asked for; a level may be off by what `near`
allows. -/
def HoldsUpTo (near : Rat → Rat → Prop) : SystemMutation → Option CapabilityValue → Prop
  | .networkEnabled enabled, value => value = some (.network enabled)
  | .bluetoothEnabled powered, value => value = some (.bluetooth powered)
  | .audioVolume expected, value => ∃ level muted input inputMuted id,
      near level expected ∧ value = some (.audio level muted input inputMuted id)
  | .audioMuted muted, value => ∃ level input inputMuted id,
      value = some (.audio level muted input inputMuted id)
  | .audioMicrophoneLevel expected, value => ∃ level muted input inputMuted id,
      near input expected ∧ value = some (.audio level muted input inputMuted id)
  | .audioMicrophoneMuted inputMuted, value => ∃ level muted input id,
      value = some (.audio level muted input inputMuted id)
  | .audioOutputDevice id, value => ∃ level muted input inputMuted,
      value = some (.audio level muted input inputMuted (some id))
  | .displayBrightness expected, value => ∃ level,
      near level expected ∧ value = some (.brightness level)
  | .displayNightLightEnabled enabled, value => value = some (.nightLight enabled)
  | .powerProfile profile, value => value = some (.powerProfile (profileText profile))
  | .mediaTransport _, value => ∃ playing, value = some (.media playing)

/-- The capability holds exactly the value that was asked for. -/
def HoldsValue : SystemMutation → Option CapabilityValue → Prop :=
  HoldsUpTo fun level expected => level = expected

/-- The comparison accepts a level that is less than a thousandth off. -/
theorem holdsUpTo_of_confirms {mutation : SystemMutation} {value : Option CapabilityValue}
    (h : runtimeConfirms mutation value = true) :
    HoldsUpTo (fun level expected => |level - expected| < 1 / 1000) mutation value := by
  unfold runtimeConfirms at h
  split at h <;>
    simp only [closeTo, decide_eq_true_eq, beq_iff_eq, Bool.false_eq_true] at h
  · exact h ▸ rfl
  · exact h ▸ rfl
  · exact ⟨_, _, _, _, _, h, rfl⟩
  · subst h
    exact ⟨_, _, _, _, rfl⟩
  · exact ⟨_, _, _, _, _, h, rfl⟩
  · subst h
    exact ⟨_, _, _, _, rfl⟩
  · subst h
    exact ⟨_, _, _, _, rfl⟩
  · exact ⟨_, h, rfl⟩
  · exact h ▸ rfl
  · exact h ▸ rfl
  · exact ⟨_, rfl⟩

/--
A confirmed result has published, right after what its request had found, a
full snapshot of a later generation that differs in the mutated capability only,
passes the read-back comparison and so holds the value that was asked for, a
level up to less than a thousandth; any other result leaves the hub as its
request found it.
-/
theorem mutation_results_hold
    {s : PipelineRun τ π χ}
    (h : (pipelineSystem slots generation initial request).Reachable s)
    {p : π} {r : MutationRequest} (hrequest : request p = some r)
    {entered left : HubView τ} {outcome : MutationOutcome τ}
    (hresponded : s.stages p = .responded entered left outcome) :
    (∀ event, outcome = .confirmed event →
      ∃ later snapshot, s.hub.accepted = entered.accepted ++ event :: later ∧
        r.expectedGeneration < event.generation ∧
        event.cause = { kind := .request, requestId := some r.requestId } ∧
        event.payload = .fullSnapshot snapshot ∧
        ReadsBack r (snapshotAfter initial entered.accepted) snapshot ∧
        (∀ id, id ≠ runtimeCapability r.mutation →
          snapshot.view.record id = (snapshotAfter initial entered.accepted).view.record id) ∧
        runtimeConfirms r.mutation
          (snapshot.valueOf (runtimeCapability r.mutation)) = true ∧
        HoldsUpTo (fun level expected => |level - expected| < 1 / 1000) r.mutation
          (snapshot.valueOf (runtimeCapability r.mutation))) ∧
    ((∀ event, outcome ≠ .confirmed event) → left = entered) := by
  have hfits := (PipelineRun.invariant_of_reachable h).fits p r hrequest
  rw [hresponded] at hfits
  cases outcome with
  | confirmed event =>
      refine ⟨fun event' h => ?_, fun h => absurd rfl (h event)⟩
      cases h
      obtain ⟨⟨later, hlater⟩, hgeneration, hcause, snapshot, hpayload, hreads, hconfirms⟩ := hfits
      exact ⟨later, snapshot, hlater, hgeneration, hcause, hpayload, hreads, hreads.others.2,
        hconfirms, holdsUpTo_of_confirms hconfirms⟩
  | rejected =>
      refine ⟨fun event h => ?_, fun _ => hfits⟩
      cases h
  | unknown code =>
      refine ⟨fun event h => ?_, fun _ => hfits⟩
      cases h

end Runs

section Sample

def volumeRequest : Nat → Option MutationRequest := fun p =>
  if p = 0 then
    some { requestId := "volume", expectedGeneration := 1, mutation := .audioVolume (1 / 2) }
  else none

def audioSnapshot : Snapshot where
  capabilities :=
    [{ id := .audio, status := .available
       value := some (.audio (3 / 10) false (1 / 2) false none), diagnostic := none }]
  focusedOutputId := none

def volumePipeline : PipelineRun Unit Nat Unit where
  hub := HubRun.start
    { schemaVersion := 1, generation := 1, eventId := "first", emittedAt := "now"
      cause := replayCause, payload := .fullSnapshot audioSnapshot } 1
  pending := none
  stages := fun _ => .waiting

/-- The read-back finds the volume a little off. -/
def volumeEvents : List (PipelineEvent Unit Nat Unit) :=
  [.lock 0, .checkGeneration 0, .execute 0 (.ok ()),
    .probe 0 .available (some (.audio (1001 / 2000) false (1 / 2) false none)) none,
    .readBack 0, .confirm 0, .allocate 0 (some (2, 1, "second", "later")), .fold 0, .send 0,
    .settle 0, .respond 0]

/-- What the sample run ends with. -/
def volumeConfirmed (s : PipelineRun Unit Nat Unit) : Bool :=
  match s.stages 0 with
  | .responded _ _ (.confirmed event) =>
      match event.payload with
      | .fullSnapshot snapshot => decide (snapshot.valueOf .audio =
          some (.audio (1001 / 2000) false (1 / 2) false none))
      | _ => false
  | _ => false

theorem volume_run :
    ∃ s entered left event snapshot,
      (pipelineSystem 4 1 audioSnapshot volumeRequest).Reachable (s : PipelineRun Unit Nat Unit) ∧
        s.stages 0 = .responded entered left (.confirmed event) ∧
        event.payload = .fullSnapshot snapshot ∧
        snapshot.valueOf .audio = some (.audio (1001 / 2000) false (1 / 2) false none) := by
  have hrun : ((System.replay (fun s e => s.after 4 volumeRequest e) volumePipeline
      volumeEvents).any volumeConfirmed) = true := by
    decide +kernel
  obtain ⟨s, hs, hconfirmed⟩ := (Option.any_eq_true _ _).mp hrun
  have hreachable : (pipelineSystem 4 1 audioSnapshot volumeRequest).Reachable s :=
    System.reachable_replay (.initial ⟨⟨_, _, rfl, rfl, rfl⟩, fun _ => rfl⟩) hs
  unfold volumeConfirmed at hconfirmed
  split at hconfirmed
  · rename_i entered left event hstage
    split at hconfirmed
    · rename_i snapshot hpayload
      exact ⟨s, entered, left, event, snapshot, hreachable, hstage, hpayload,
        of_decide_eq_true hconfirmed⟩
    · cases hconfirmed
  · cases hconfirmed

/-- A volume of 0.5 is confirmed by 0.5005. -/
theorem confirmed_value_differs :
    ¬ ∀ (s : PipelineRun Unit Nat Unit) p r entered left event,
      (pipelineSystem 4 1 audioSnapshot volumeRequest).Reachable s →
      volumeRequest p = some r →
      s.stages p = .responded entered left (.confirmed event) →
      ∃ snapshot, event.payload = .fullSnapshot snapshot ∧
        HoldsValue r.mutation (snapshot.valueOf (runtimeCapability r.mutation)) := by
  intro h
  obtain ⟨s, entered, left, event, snapshot, hreachable, hstage, hpayload, hvalue⟩ := volume_run
  obtain ⟨snapshot', hpayload', level, muted, input, inputMuted, id, hlevel, hholds⟩ :=
    h s 0 _ entered left event hreachable rfl hstage
  rw [hpayload, SessionEvent.fullSnapshot.injEq] at hpayload'
  subst hpayload'
  have hsame := hvalue.symm.trans hholds
  simp only [Option.some.injEq, CapabilityValue.audio.injEq] at hsame
  rw [hlevel] at hsame
  norm_num at hsame

theorem mutation_results_hold_volume :
    ∃ entered left event, ∃ s : PipelineRun Unit Nat Unit,
      s.stages 0 = .responded entered left (.confirmed event) ∧ 1 < event.generation := by
  obtain ⟨s, entered, left, event, snapshot, hreachable, hstage, -, -⟩ := volume_run
  obtain ⟨_, _, _, hgeneration, _⟩ :=
    (mutation_results_hold hreachable (p := 0) rfl hstage).1 event rfl
  exact ⟨entered, left, event, s, hstage, hgeneration⟩

end Sample

end Sessiond
end SleepySession
