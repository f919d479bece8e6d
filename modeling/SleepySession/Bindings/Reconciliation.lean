import SleepySession.Bindings.Loading

/-!
# Reconciliation keeps the stages

Rollback and the resumption of an unfinished transaction, assembled into the
specification of `reconcile_bindings_locked`: from every stage it reaches a
stage, and when it succeeds the live files are durable and form a triple that
`P` permits.
-/

namespace SleepySession

open Program SecureDir

section Reconciliation

variable {β : Type}
variable {contents : Contents β} {S : Prop} {P : Triple β → Prop}
variable {A : Answer FileName β → Prop}
variable {N : Failure → Files β → Prop}
variable {v v' : Files β} {L : Triple β} {T : Transaction β}

set_option linter.unusedSectionVars false

variable [DisplayPath Directory FileName]

section Collaborators

theorem wp_collaborator
    {Q : Post (Files β) Failure (Except String Bool)}
    (hcut : Cut Q v)
    (hok : ∀ reply, Q.ok reply v) :
    (collaborator : Binding β (Except String Bool)).wp A Q v := by
  unfold collaborator
  rw [wp_bind, wp_answer]
  refine ⟨hcut.2, ?_⟩
  intro a _
  simp only
  split
  · exact hcut.2
  split
  · exact hok _
  · exact hok _

theorem wp_subscribe
    {Q : Post (Files β) Failure (Except String Bool)}
    {onlineRequired : Bool}
    (hcut : Cut Q v)
    (hok : ∀ reply, Q.ok reply v) :
    (subscribe onlineRequired : Binding β (Except String Bool)).wp A Q v := by
  unfold subscribe
  rw [wp_bind]
  refine wp_collaborator hcut ?_
  intro reply
  simp only
  split
  · split <;> exact hok _
  · exact hok _

theorem wp_openStream
    {Q : Post (Files β) Failure Bool}
    {onlineRequired : Bool}
    (hcut : Cut Q v)
    (hrefused : ∀ (code : ErrorCode) message,
      code = .niriUnavailable ∨ code = .reloadFailed → Q.error ⟨code, message⟩ v)
    (hok : ∀ stream, Q.ok stream v) :
    (openStream onlineRequired : Binding β Bool).wp A Q v := by
  have hcode : ∀ message,
      Q.error ⟨if onlineRequired then .niriUnavailable else .reloadFailed, message⟩
        v := by
    intro message
    refine hrefused _ _ ?_
    cases onlineRequired <;> simp
  unfold openStream
  simp only [wp_bind]
  refine wp_subscribe hcut ?_
  intro reply
  rcases reply with message | stream
  · exact hcode message
  cases stream with
  | false => exact hok false
  | true =>
      simp only [wp_bind]
      refine wp_collaborator hcut ?_
      intro reply'
      rcases reply' with message | _
      · exact hcode message
      · exact hok true

theorem wp_openRollbackStream
    {Q : Post (Files β) Failure Bool}
    {onlineRequired : Bool}
    (hcut : Cut Q v)
    (hok : ∀ stream, Q.ok stream v) :
    (openRollbackStream onlineRequired : Binding β Bool).wp A Q v := by
  unfold openRollbackStream
  simp only [wp_bind]
  refine wp_subscribe hcut ?_
  intro reply
  rcases reply with message | stream
  · exact hok false
  cases stream with
  | false => exact hok false
  | true =>
      simp only [wp_bind]
      refine wp_collaborator hcut ?_
      intro reply'
      rcases reply' with message | _ <;> exact hok _

theorem wp_reloadConfirmed
    {Q : Post (Files β) Failure Bool}
    (hcut : Cut Q v)
    (hok : ∀ confirmed, Q.ok confirmed v) :
    (reloadConfirmed : Binding β Bool).wp A Q v := by
  unfold reloadConfirmed
  simp only [wp_bind]
  refine wp_collaborator hcut ?_
  intro request
  rcases request with message | _
  · exact hok false
  simp only [wp_bind]
  refine wp_observe hcut ?_
  simp only
  refine wp_collaborator hcut ?_
  intro loaded
  rcases loaded with message | loaded
  · exact hok false
  · cases loaded <;> exact hok _

end Collaborators

section Resumption

/-- The rollback of a rejected candidate. -/
theorem rollBack_open
    {onlineRequired : Bool} {phase : JournalPhase} {target : RecoveryTarget}
    (hP : Permits contents P T)
    (h : Open contents S T v)
    (hphase : phase ≠ .reloadConfirmed) :
    (rollBack contents onlineRequired (T.journal contents phase target true)).wp A
      (ends contents S P N fun report v' =>
        Stage contents S P v' ∧ Settled T.old v' ∧
          (report.status = .rolledBackConfirmed ∧ Quiet contents S T.old v' ∨
            report.status = .commitStateUnknown)) v := by
  have hstart : Progress contents S T .previous [] v := ⟨h, by simp⟩
  have hold : T.content contents .previous = T.old :=
    funext fun k => T.content_previous contents k
  unfold rollBack
  rw [wp_bind]
  refine wp_openRollbackStream (cut_ends (.open T hP h)) ?_
  intro stream
  refine ends_bind (setRecoveryTarget_progress hP hstart hphase) ?_
  rintro _ v₁ ⟨rfl, h₁⟩
  refine ends_bind (installTarget_progress hP h₁) ?_
  rintro _ v₂ ⟨h₂, _⟩
  refine ends_bind (setPhase_progress hP h₂ (by simp)) ?_
  rintro _ v₃ ⟨rfl, h₃, hrecorded⟩
  have hsettled : Settled T.old v₃ := by
    rw [← hold]
    exact h₃.settled
  simp only
  refine ends_bind (verifyNoopArtifacts_open hP h₃.isOpen) ?_
  rintro _ v₄ ⟨rfl, _⟩
  rw [wp_bind]
  have hdecide : ∀ confirmed : Bool,
      (if confirmed then do
          confirm contents (T.journal contents .reloadPending .previous true)
          pure ⟨.rolledBackConfirmed,
            (T.journal contents .reloadPending .previous true).activePresetIdFor
              .previous⟩
        else
          pure ⟨.commitStateUnknown,
            (T.journal contents .reloadPending .previous true).activePresetIdFor
              .previous⟩ : Binding β ApplyReport).wp A
        (ends contents S P N fun report v' =>
          Stage contents S P v' ∧ Settled T.old v' ∧
            (report.status = .rolledBackConfirmed ∧ Quiet contents S T.old v' ∨
              report.status = .commitStateUnknown)) v₄ := by
    intro confirmed
    cases confirmed with
    | false => exact ⟨.open T hP h₃.isOpen, hsettled, Or.inr rfl⟩
    | true =>
        refine ends_bind (confirm_installed hP h₃ hrecorded) ?_
        rintro _ v₅ ⟨hside, h₅⟩
        rw [hold] at hside h₅
        exact ⟨.quiet _ hside h₅, h₅.live, Or.inl ⟨rfl, h₅⟩⟩
  cases stream with
  | false => exact hdecide false
  | true => exact wp_reloadConfirmed (cut_ends (.open T hP h₃.isOpen)) hdecide

/-- The states from which a transaction can be resumed. -/
def Resumable
    (contents : Contents β) (S : Prop) (T : Transaction β)
    (phase : JournalPhase) (v : Files β) : Prop :=
  phase ≠ .reloadConfirmed ∧
    (Open contents S T v ∨ phase = .prepared ∧ Sealing contents S T v)

theorem Resumable.stage
    {phase : JournalPhase}
    (hP : Permits contents P T)
    (h : Resumable contents S T phase v) :
    Stage contents S P v := by
  rcases h.2 with hopen | ⟨_, hsealing⟩
  · exact .open T hP hopen
  · exact .sealing T hP hsealing

/-- Installing the side to which an unfinished transaction is recovered. -/
theorem installSide_resumable
    {phase : JournalPhase} {target : RecoveryTarget}
    (hP : Permits contents P T)
    (h : Resumable contents S T phase v) :
    (installSide contents (T.journal contents phase target true)
        (recoverySide (T.journal contents phase target true))).wp A
      (ends contents S P N fun j v' =>
        j = T.journal contents .reloadPending
            (recoverySide (T.journal contents phase target true)) true ∧
          Installed contents S T
            (recoverySide (T.journal contents phase target true)) v' ∧
          Recorded contents T .reloadPending
            (recoverySide (T.journal contents phase target true)) v' ∧
          T.Live contents) v := by
  cases hside : recoverySide (T.journal contents phase target true) with
  | previous =>
      unfold installSide
      refine ends_bind
        (R := fun j v' => j = T.journal contents phase .previous true ∧
          Progress contents S T .previous [] v') ?_ ?_
      · rcases h.2 with hopen | ⟨hprepared, hsealing⟩
        · exact setRecoveryTarget_progress hP ⟨hopen, by simp⟩ h.1
        · subst hprepared
          exact setRecoveryTarget_sealing hP hsealing
      rintro _ v₁ ⟨rfl, h₁⟩
      refine ends_bind (installTarget_progress hP h₁) ?_
      rintro _ v₂ ⟨h₂, hlive⟩
      refine ends_mono (setPhase_progress hP h₂ (by simp)) ?_ (fun _ _ hN => hN)
      rintro _ v₃ ⟨rfl, h₃, hrecorded⟩
      exact ⟨rfl, h₃, hrecorded, hlive⟩
  | candidate =>
      -- an unsealed transaction is always rolled back
      have hopen : Open contents S T v := by
        rcases h.2 with hopen | ⟨hprepared, _⟩
        · exact hopen
        · subst hprepared
          cases hside
      unfold installSide
      have hstart : Progress contents S T .candidate [] v := ⟨hopen, by simp⟩
      refine ends_bind (installTarget_progress hP hstart) ?_
      rintro _ v₁ ⟨h₁, hlive⟩
      refine ends_bind (setRecoveryTarget_progress hP h₁ h.1) ?_
      rintro _ v₂ ⟨rfl, h₂⟩
      refine ends_mono (setPhase_progress hP h₂ (by simp)) ?_ (fun _ _ hN => hN)
      rintro _ v₃ ⟨rfl, h₃, hrecorded⟩
      exact ⟨rfl, h₃, hrecorded, hlive⟩

/-- A refusal of the compositor before anything is written. -/
def Refused (v : Files β) (e : Failure) (v' : Files β) : Prop :=
  (e.code = .niriUnavailable ∨ e.code = .reloadFailed) ∧ v' = v

/-- The live files are durable and form a permitted triple. -/
def Concluded
    (contents : Contents β) (S : Prop) (P : Triple β → Prop) (v : Files β) :
    Prop :=
  Stage contents S P v ∧ ∃ L, P L ∧ Settled L v

theorem resume_resumable
    {onlineRequired : Bool} {phase : JournalPhase} {target : RecoveryTarget}
    (hP : Permits contents P T)
    (h : Resumable contents S T phase v) :
    (resume contents onlineRequired (T.journal contents phase target true)).wp A
      (ends contents S P (Refused v) fun _ v' => Concluded contents S P v') v := by
  have hstage : Stage contents S P v := h.stage hP
  unfold resume
  rw [wp_bind]
  refine wp_openStream (cut_ends hstage) ?_ ?_
  · intro code message hcode
    exact ⟨hstage, fun _ => Or.inr ⟨hcode, rfl⟩⟩
  intro stream
  refine ends_bind (installSide_resumable hP h) ?_
  generalize recoverySide (T.journal contents phase target true) = side
  rintro _ v₁ ⟨rfl, h₁, hrecorded, hlive⟩
  have hside := hP.side hlive side
  have hdone : Concluded contents S P v₁ :=
    ⟨.open T hP h₁.isOpen, _, hside, h₁.settled⟩
  cases stream with
  | false => exact hdone
  | true =>
      simp only [if_true]
      refine ends_bind (verifyNoopArtifacts_open hP h₁.isOpen) ?_
      rintro _ v₂ ⟨rfl, _⟩
      rw [wp_bind]
      refine wp_reloadConfirmed (cut_ends (.open T hP h₁.isOpen)) ?_
      intro confirmed
      cases confirmed with
      | true =>
          simp only [if_true]
          refine ends_bind (confirm_installed hP h₁ hrecorded) ?_
          rintro _ v₃ ⟨_, h₃⟩
          exact ⟨.quiet _ hside h₃, _, hside, h₃.live⟩
      | false =>
          simp only [Bool.false_eq_true, if_false]
          split
          · exact hdone
          · refine ends_mono (rollBack_open hP h₁.isOpen (by simp)) ?_
              (fun _ _ hN => hN)
            rintro _ v₃ ⟨hs, hsettled, _⟩
            exact ⟨hs, _, hP.1, hsettled⟩

/-- `reconcile_bindings_locked` leads from every stage to a stage. -/
theorem reconcile_stage
    (hcodec : contents.RoundTrips)
    (h : Stage contents S P v)
    (onlineRequired : Bool) :
    (reconcileBindingsLocked contents onlineRequired).wp A
      (ends contents S P (Refused v) fun _ v' => Concluded contents S P v') v := by
  have hcleanup : ∀ (T : Transaction β) phase target complete L
      (report : Option ApplyReport), Ending contents S P T L v →
      (do
        (T.journal contents phase target complete).cleanup
        pure report : Binding β (Option ApplyReport)).wp A
        (ends contents S P (Refused v) fun _ v' => Concluded contents S P v') v := by
    intro T phase target complete L report hending
    refine ends_bind (cleanup_ending hending) ?_
    rintro _ v₁ ⟨hL, h₁⟩
    exact ⟨.quiet L hL h₁, L, hL, h₁.live⟩
  unfold reconcileBindingsLocked
  rw [wp_bind]
  refine load_stage hcodec h (fun v' h' => cut_ends h') ?_ ?_ ?_ ?_
  · intro hS message
    exact ⟨h, fun hS' => absurd hS' hS⟩
  · intro L v' hL h'
    exact ⟨.quiet L hL h', L, hL, h'.live⟩
  · intro T phase target complete L hending hkind
    rcases hkind with hincomplete | hphase
    · simp only [Transaction.journal, hincomplete, if_true]
      exact hcleanup T phase target false L none hending
    · subst hphase
      cases complete with
      | false => exact hcleanup T _ target false L none hending
      | true => exact hcleanup T _ target true L _ hending
  · intro T phase target hP hphase hwhere
    have hresume : Resumable contents S T phase v := ⟨hphase, hwhere⟩
    simp only [Transaction.journal, Bool.true_eq_false, if_false, hphase]
    refine ends_bind (resume_resumable hP hresume) ?_
    exact fun _ v' h' => h'

end Resumption

end Reconciliation

end SleepySession
