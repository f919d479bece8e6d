import SleepySession.Bindings.Reconciliation

/-!
# Applying a candidate keeps the stages

`prepare` publishes an incomplete record, then the sidecars, and only then the
complete record; `commit_candidate` installs the three artifacts one by one.
Together with confirmation and rollback they give the specification of
`apply_candidate_locked`: it leads from every stage to a stage, its report
tells which side is live, and a failure for another reason than an
interruption has not touched the transaction state.
-/

namespace SleepySession

open Program SecureDir

section Application

variable {β : Type}
variable {contents : Contents β} {S : Prop} {P : Triple β → Prop}
variable {A : Answer FileName β → Prop}
variable {N : Failure → Files β → Prop}
variable {v v' : Files β} {L : Triple β} {T : Transaction β}

section Preparation

/-- The incomplete record is durable, and so are some of the sidecars. -/
structure Staging
    (contents : Contents β) (S : Prop) (T : Transaction β)
    (done : List (ArtifactKind × Bool)) (v : Files β) : Prop where
  header : S → T.HeaderValid
  live : Settled T.old v
  journal : (journalCell v).All
    (· = T.recorded contents .prepared .candidate false)
  sidecars : ∀ p ∈ done, (sidecarCell v p.1 T.id p.2).All
    (· = some (T.sidecar contents p.1 p.2))

theorem Staging.quiet
    {done : List (ArtifactKind × Bool)}
    (h : Staging contents S T done v) :
    Quiet contents S T.old v :=
  quiet_of_incomplete h.live h.header h.journal

theorem Staging.writesSidecar
    {done : List (ArtifactKind × Bool)} {k : ArtifactKind} {new : Bool}
    (h : Staging contents S T done v)
    (hv : WritesOnly (.sidecar k T.id new) v v') :
    Staging contents S T [] v' :=
  ⟨h.header, h.live.shrinks fun k' => hv.live k' (by simp [artifactName]),
    (hv.journal (by simp [journalName])).all h.journal, by simp⟩

theorem Staging.publish
    {done : List (ArtifactKind × Bool)} {k : ArtifactKind} {new : Bool}
    (h : Staging contents S T done v)
    (hv : WritesOnly (.sidecar k T.id new) v v')
    (hcell : sidecarCell v' k T.id new =
      Cell.settled (some (T.sidecar contents k new))) :
    Staging contents S T ((k, new) :: done) v' := by
  have hless := h.writesSidecar hv
  refine ⟨hless.header, hless.live, hless.journal, ?_⟩
  intro p hp
  by_cases heq : p = (k, new)
  · subst heq
    rw [hcell, Cell.all_settled]
  · have hdone : p ∈ done := by simpa [heq] using hp
    refine (hv.sidecar ?_).all (h.sidecars p hdone)
    intro hname
    injection hname with hk _ hnew
    exact heq (Prod.ext hk.symm hnew.symm)

theorem Staging.writesNothing
    {done : List (ArtifactKind × Bool)}
    (h : Staging contents S T done v)
    (hv : WritesNothing v v') :
    Staging contents S T done v' := by
  have hj := hv.writesOnly (.other "")
  exact ⟨h.header, h.live.shrinks fun k => hj.live k (by simp [artifactName]),
    (hj.journal (by simp [journalName])).all h.journal,
    fun p hp => (hj.sidecar (by simp)).all (h.sidecars p hp)⟩

/-- All sidecars, for each artifact the old one before the new one. -/
def allSidecars : List (ArtifactKind × Bool) :=
  [(.bindings, true), (.bindings, false), (.settings, true), (.settings, false),
    (.preset, true), (.preset, false)]

theorem Staging.intact
    (h : Staging contents S T allSidecars v) :
    T.SidecarsIntact contents v := by
  intro k new
  refine h.sidecars (k, new) ?_
  cases k <;> cases new <;> simp [allSidecars]

/-- Writing the complete record starts to seal the transaction. -/
theorem Staging.seal
    (h : Staging contents S T allSidecars v)
    (hlive : S → T.Live contents)
    (hv : WritesOnly journalName v v')
    (hj : (journalCell v).Wrote (T.recorded contents .prepared .candidate true)
      (journalCell v')) :
    Sealing contents S T v' := by
  have hintact : T.SidecarsIntact contents v' :=
    h.intact.shrinks fun k new => hv.sidecar (by simp [journalName])
  refine ⟨h.live.shrinks fun k => hv.live k (by simp [journalName, artifactName]),
    ⟨.candidate, hj.1⟩, ?_, h.header, hintact.sound,
    fun hS => ⟨h.header hS, hlive hS, hintact⟩⟩
  exact hj.all (Or.inr ⟨.candidate, rfl⟩) (h.journal.mono fun x hx => Or.inl hx)

end Preparation

set_option linter.unusedSectionVars false

variable [DisplayPath Directory FileName]

section Preparing

theorem SecureDir.Publishing.writesOnly
    {d : Directory} {temporary n : FileName} {x : Option β}
    (h : Publishing d temporary n x v v')
    (htemporary : Untracked temporary) :
    WritesOnly n v v' := by
  refine h.1.mono ?_
  rintro d' n' ⟨_, rfl | rfl⟩
  · exact Or.inr htemporary
  · exact Or.inl rfl

theorem SecureDir.Published.writesOnly
    {d : Directory} {temporary n : FileName} {x : Option β}
    (h : Published d temporary n x v v')
    (htemporary : Untracked temporary) :
    WritesOnly n v v' := by
  refine h.1.mono ?_
  rintro d' n' ⟨_, rfl | rfl⟩
  · exact Or.inr htemporary
  · exact Or.inl rfl

theorem publishSidecar_staging
    {done : List (ArtifactKind × Bool)} {k : ArtifactKind} {new : Bool}
    (hP : P T.old)
    (hN : ∀ message v', Quiet contents S T.old v' → N (.conflict message) v')
    (h : Staging contents S T done v) :
    (publishSidecar contents k (sidecarPath k T.id new)
        (T.sidecar contents k new)).wp A
      (ends contents S P N fun _ v' =>
        Staging contents S T ((k, new) :: done) v') v := by
  unfold publishSidecar
  simp only [sidecarPath, sidecarName, wp_bind, wp_pure]
  refine wp_publishNew (fun boundary => silent_observe _)
    (by simp [publicationTemp]) ?_ ?_ ?_
  · intro v' hpublishing
    have hv := hpublishing.writesOnly trivial
    exact cut_ends (.quiet _ hP (h.writesSidecar hv).quiet)
  · intro message
    exact ⟨.quiet _ hP h.quiet, fun _ => Or.inr (hN message v h.quiet)⟩
  · intro _ v' hpublished
    exact h.publish (hpublished.writesOnly trivial) hpublished.2

theorem publishSidecars_staging
    {done : List (ArtifactKind × Bool)} {k : ArtifactKind}
    (hP : P T.old)
    (hN : ∀ message v', Quiet contents S T.old v' → N (.conflict message) v')
    (h : Staging contents S T done v) :
    (publishSidecars contents
        ⟨T.artifact contents k, T.old k, T.candidate.get k⟩).wp A
      (ends contents S P N fun _ v' =>
        Staging contents S T ((k, true) :: (k, false) :: done) v') v := by
  have hcut : ∀ {v : Files β} {done : List (ArtifactKind × Bool)}
      {δ : Type} {R : δ → Files β → Prop},
      Staging contents S T done v → Cut (ends contents S P N R) v :=
    fun hs => cut_ends (.quiet _ hP hs.quiet)
  unfold publishSidecars
  simp only [Transaction.artifact]
  refine ends_bind
    (publishSidecar_staging (k := k) (N := N) hP hN h) ?_
  rintro _ v₁ h₁
  rw [wp_bind]
  refine wp_observe (hcut h₁) ?_
  simp only
  refine ends_bind (publishSidecar_staging hP hN h₁) ?_
  rintro _ v₂ h₂
  rw [wp_bind]
  refine wp_observe (hcut h₂) ?_
  exact wp_sync (hcut h₂) (h₂.writesNothing (writesNothing_sync v₂ _))

/-- What the caller of `prepare` promises about the transaction it starts. -/
structure Admits
    (contents : Contents β) (S : Prop) (P : Triple β → Prop)
    (activePresetId : String) (candidate : CandidateArtifacts β)
    (L : Triple β) : Prop where
  active : S → blank activePresetId = false
  live : S → ∀ T : Transaction β, T.old = L → T.candidate = candidate →
    T.Live contents
  permits : ∀ T : Transaction β, T.old = L → T.candidate = candidate →
    Permits contents P T

/-- `prepare` leads from a quiet stage to an open transaction. -/
theorem prepare_quiet
    {activePresetId : String} {candidate : CandidateArtifacts β}
    (hA : S → ∀ a, A a → canonicalUuid a.uuid = true)
    (hadmits : Admits contents S P activePresetId candidate L)
    (hN : ∀ message v', Quiet contents S L v' → N (.conflict message) v')
    (hP : P L)
    (h : Quiet contents S L v) :
    (TransactionJournal.prepare contents activePresetId candidate).wp A
      (ends contents S P N fun j v' =>
        ∃ T : Transaction β, T.old = L ∧ T.candidate = candidate ∧
          j = T.journal contents .prepared .candidate true ∧
          Progress contents S T .candidate [] v') v := by
  have hstage : Stage contents S P v := .quiet L hP h
  unfold TransactionJournal.prepare newUuid captureArtifact
  simp only [wp_bind, wp_answer, wp_pure]
  refine ⟨(cut_ends hstage).2, ?_⟩
  intro a ha
  have hcurrent : ∀ k,
      (v (artifactDir k) (.named (artifactName k))).current = L k :=
    fun k => h.live.current k
  refine wp_readOptional (cut_ends hstage) ?_
  simp only [hcurrent]
  refine wp_readOptional (cut_ends hstage) ?_
  simp only [hcurrent]
  refine wp_readOptional (cut_ends hstage) ?_
  simp only [hcurrent]
  let T : Transaction β :=
    { id := a.uuid
      activePresetId := activePresetId
      previousActivePresetId :=
        (L .settings).bind contents.settingsActivePresetId
      old := L
      candidate := candidate }
  have hheader : S → T.HeaderValid := fun hS => ⟨hA hS a ha, hadmits.active hS⟩
  have hpermits : Permits contents P T := hadmits.permits T rfl rfl
  have hleftover : ∀ v, Leftover contents S v
      (T.recorded contents .prepared .candidate false) :=
    fun v => ⟨T, .prepared, .candidate, false, rfl, hheader, Or.inl rfl⟩
  refine wp_publishNew (fun boundary => silent_observe _)
    (by simp [journalName]) ?_ ?_ ?_
  · intro v' hpublishing
    refine cut_ends (.quiet L hP ?_)
    exact h.record (hpublishing.writesOnly trivial) (Or.inr (hleftover v))
      hpublishing.2
  · intro message
    exact ⟨hstage, fun _ => Or.inr (hN message v h)⟩
  intro _ v₁ hpublished
  have hv₁ : WritesOnly journalName v v₁ := hpublished.writesOnly trivial
  have h₁ : Staging contents S T [] v₁ := by
    refine ⟨hheader,
      h.live.shrinks fun k => hv₁.live k (by simp [journalName, artifactName]),
      ?_, by simp⟩
    have hcell : journalCell v₁ =
        Cell.settled (T.recorded contents .prepared .candidate false) :=
      hpublished.2
    rw [hcell, Cell.all_settled]
  simp only
  refine ends_each
    (publishSidecars_staging (T := T) (k := .preset) (N := N) hP hN h₁) ?_
  intro v₂ h₂
  refine ends_each
    (publishSidecars_staging (T := T) (k := .settings) (N := N) hP hN h₂) ?_
  intro v₃ h₃
  refine ends_each
    (publishSidecars_staging (T := T) (k := .bindings) (N := N) hP hN h₃) ?_
  intro v₄ h₄
  have hlive : S → T.Live contents := fun hS => hadmits.live hS T rfl rfl
  simp only [wp_each_nil]
  refine wp_persist ?_ ?_
  · intro v' hv hj
    refine cut_ends ?_
    rcases hj with hj | hj
    · refine .quiet L hP ?_
      exact h₄.quiet.record hv (Or.inl rfl) (Or.inl hj)
    · exact .sealing T hpermits (h₄.seal hlive hv hj)
  · intro v' hv hj
    have hsealing : Sealing contents S T v' :=
      h₄.seal hlive hv (wrote_of_settled hj)
    have hopen : Open contents S T v' :=
      hsealing.seal (Keeps.refl _ v') hj
    simp only
    refine wp_observe (cut_ends (.open T hpermits hopen)) ?_
    exact ⟨T, rfl, rfl, rfl, hopen, by simp⟩

end Preparing

section Applying

theorem installNew_progress
    {done : List ArtifactKind} {k : ArtifactKind}
    {phase : JournalPhase} {target : RecoveryTarget}
    (hP : Permits contents P T)
    (h : Progress contents S T .candidate done v) :
    ((T.journal contents phase target true).installNew contents k).wp A
      (ends contents S P N fun _ v' =>
        Progress contents S T .candidate (k :: done) v' ∧
          (k = .bindings → T.Live contents)) v := by
  unfold TransactionJournal.installNew
  cases k with
  | preset =>
      refine ends_mono (install_progress hP h) ?_ (fun _ _ hN => hN)
      exact fun _ _ h' => ⟨h', by simp⟩
  | settings =>
      refine ends_mono (install_progress hP h) ?_ (fun _ _ hN => hN)
      exact fun _ _ h' => ⟨h', by simp⟩
  | bindings =>
      refine ends_bind (verifyNoopArtifacts_open hP h.isOpen) ?_
      rintro _ _ ⟨rfl, hlive⟩
      refine ends_mono (install_progress hP h) ?_ (fun _ _ hN => hN)
      exact fun _ _ h' => ⟨h', fun _ => hlive⟩

theorem commitCandidate_progress
    (hP : Permits contents P T)
    (h : Progress contents S T .candidate [] v) :
    (commitCandidate contents (T.journal contents .prepared .candidate true)).wp A
      (ends contents S P N fun j v' =>
        j = T.journal contents .reloadPending .candidate true ∧
          Installed contents S T .candidate v' ∧
          Recorded contents T .reloadPending .candidate v' ∧
          T.Live contents) v := by
  unfold commitCandidate
  refine ends_bind (installNew_progress hP h) ?_
  rintro _ v₁ ⟨h₁, _⟩
  refine ends_bind (setPhase_progress hP h₁ (by simp)) ?_
  rintro _ v₂ ⟨rfl, h₂, _⟩
  refine ends_bind (installNew_progress hP h₂) ?_
  rintro _ v₃ ⟨h₃, _⟩
  refine ends_bind (setPhase_progress hP h₃ (by simp)) ?_
  rintro _ v₄ ⟨rfl, h₄, _⟩
  refine ends_bind (installNew_progress hP h₄) ?_
  rintro _ v₅ ⟨h₅, hlive⟩
  refine ends_bind (setPhase_progress hP h₅ (by simp)) ?_
  rintro _ v₆ ⟨rfl, h₆, _⟩
  refine ends_mono (setPhase_progress hP h₆ (by simp)) ?_ (fun _ _ hN => hN)
  rintro _ v₇ ⟨rfl, h₇, hrecorded⟩
  exact ⟨rfl, h₇, hrecorded, hlive rfl⟩

/-- A failure that left the transaction state as it was. -/
def Unstarted
    (contents : Contents β) (S : Prop) (v : Files β) (e : Failure) (v' : Files β) :
    Prop :=
  e.code ≠ .invalidJournal ∧ e.code ≠ .concurrentStateChange ∧
    ∀ P : Triple β → Prop, Stage contents S P v → Stage contents S P v'

/-- What the report of an application says about the live files. -/
def Reported
    (contents : Contents β) (S : Prop) (candidate : CandidateArtifacts β)
    (L : Triple β) (report : ApplyReport) (v : Files β) : Prop :=
  match report.status with
  | .committed | .reloadPending =>
      ∃ T : Transaction β, T.old = L ∧ T.candidate = candidate ∧
        T.Live contents ∧ Settled (T.content contents .candidate) v
  | .rolledBackConfirmed => Quiet contents S L v
  | .commitStateUnknown => Settled L v

theorem Settled.liveTriple
    (h : Settled L v) :
    liveTriple v = L :=
  funext fun k => h.current k

theorem Stage.quiet_of_none
    (h : Stage contents S P v)
    (hnone : (journalCell v).current = none) :
    P (liveTriple v) ∧ Quiet contents S (liveTriple v) v := by
  cases h with
  | quiet L hP h =>
      rw [h.live.liveTriple]
      exact ⟨hP, h⟩
  | sealing T hP h =>
      obtain ⟨target, hc⟩ := h.shown
      rw [hc] at hnone
      cases hnone
  | «open» T hP h =>
      obtain ⟨phase, target, _, hc⟩ := h.journal.current
      rw [hc] at hnone
      cases hnone
  | closing T target hP hside h =>
      rw [h.shown] at hnone
      cases hnone

/-- The end of an application, once the candidate is installed. -/
theorem conclude_installed
    {stream : Bool} {activePresetId : String}
    (hP : Permits contents P T)
    (h : Installed contents S T .candidate v)
    (hrecorded : Recorded contents T .reloadPending .candidate v)
    (hlive : T.Live contents) :
    (if stream then do
        (T.journal contents .reloadPending .candidate true).verifyNoopArtifacts
          contents
        let confirmed ← reloadConfirmed
        if confirmed then do
          confirm contents (T.journal contents .reloadPending .candidate true)
          pure ⟨.committed, activePresetId⟩
        else
          rollBack contents false
            (T.journal contents .reloadPending .candidate true)
      else
        pure ⟨.reloadPending, activePresetId⟩ : Binding β ApplyReport).wp A
      (ends contents S P N fun report v' =>
        Stage contents S P v' ∧ Reported contents S T.candidate T.old report v')
      v := by
  cases stream with
  | false =>
      exact ⟨.open T hP h.isOpen, T, rfl, rfl, hlive, h.settled⟩
  | true =>
      simp only [if_true]
      refine ends_bind (verifyNoopArtifacts_open hP h.isOpen) ?_
      rintro _ v₁ ⟨rfl, _⟩
      rw [wp_bind]
      refine wp_reloadConfirmed (cut_ends (.open T hP h.isOpen)) ?_
      intro confirmed
      cases confirmed with
      | true =>
          simp only [if_true]
          refine ends_bind (confirm_installed hP h hrecorded) ?_
          rintro _ v₂ ⟨hside, h₂⟩
          exact ⟨.quiet _ hside h₂, T, rfl, rfl, hlive, h₂.live⟩
      | false =>
          simp only [Bool.false_eq_true, if_false]
          refine ends_mono (rollBack_open hP h.isOpen (by simp)) ?_
            (fun _ _ hN => hN)
          rintro report v₂ ⟨hs, hsettled, hstatus⟩
          refine ⟨hs, ?_⟩
          unfold Reported
          rcases hstatus with ⟨heq, hquiet⟩ | heq
          · rw [heq]
            exact hquiet
          · rw [heq]
            exact hsettled

/-- `apply_candidate_locked` leads from every stage to a stage. -/
theorem apply_stage
    {activePresetId : String} {candidate : CandidateArtifacts β}
    (hA : S → ∀ a, A a → canonicalUuid a.uuid = true)
    (hadmits : Admits contents S P activePresetId candidate (liveTriple v))
    (h : Stage contents S P v) :
    (applyCandidateLocked contents activePresetId candidate).wp A
      (ends contents S P (Unstarted contents S v) fun report v' =>
        Stage contents S P v' ∧
          Reported contents S candidate (liveTriple v) report v') v := by
  have hunstarted : ∀ (code : ErrorCode) (message : String),
      code ≠ .invalidJournal → code ≠ .concurrentStateChange →
      (ends contents S P (Unstarted contents S v)
        (fun (report : ApplyReport) v' => Stage contents S P v' ∧
          Reported contents S candidate (liveTriple v) report v')).error
        ⟨code, message⟩ v :=
    fun code message hinvalid hconcurrent =>
      ⟨h, fun _ => Or.inr ⟨hinvalid, hconcurrent, fun _ hs => hs⟩⟩
  unfold applyCandidateLocked
  rw [wp_bind]
  refine wp_observe (cut_ends h) ?_
  simp only [«exists», wp_bind]
  refine wp_openRegularOptional (cut_ends h) ?_
  cases hpending : (v .presets (.named journalName)).current with
  | some bytes => exact hunstarted _ _ (by simp) (by simp)
  | none =>
      obtain ⟨hL, hquiet⟩ := h.quiet_of_none hpending
      simp only [Option.isSome_none, Bool.false_eq_true, if_false, wp_bind]
      unfold validateCandidateTree
      simp only [wp_bind]
      refine wp_syscall (cut_ends h) ?_
      simp only
      refine wp_collaborator (cut_ends h) ?_
      intro reply
      rcases reply with message | _
      · exact hunstarted _ _ (by simp) (by simp)
      simp only [wp_pure]
      refine wp_openStream (cut_ends h) ?_ ?_
      · intro code message hcode
        rcases hcode with rfl | rfl <;> exact hunstarted _ _ (by simp) (by simp)
      intro stream
      simp only
      have hconflict : ∀ message v',
          Quiet contents S (liveTriple v) v' →
          Unstarted contents S v (.conflict message) v' := by
        intro message v' h'
        refine ⟨by simp [Failure.conflict], by simp [Failure.conflict], ?_⟩
        intro P' hs
        exact .quiet _ (hs.quiet_of_none hpending).1 h'
      refine wp_mono ?_ ?_ ?_ (prepare_quiet hA hadmits hconflict hL hquiet)
      · rintro _ v₁ ⟨T, hold, hcandidate, rfl, h₁⟩
        have hpermits := hadmits.permits T hold hcandidate
        simp only
        refine wp_mono ?_ ?_ ?_
          (commitCandidate_progress (N := Unstarted contents S v) hpermits h₁)
        · rintro _ v₂ ⟨rfl, h₂, hrecorded, hlive⟩
          simp only
          rw [← hold, ← hcandidate]
          exact conclude_installed hpermits h₂ hrecorded hlive
        · exact fun _ _ he => he
        · exact fun _ hc => hc
      · exact fun _ _ he => he
      · exact fun _ hc => hc

end Applying

end Application

end SleepySession
