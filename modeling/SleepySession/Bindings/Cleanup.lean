import SleepySession.Bindings.Recovery

/-!
# Confirming and cleaning up

Cleanup removes the sidecars before the record, and the record may still be
unsynced when it starts.  `Ending` covers both situations; syncing the first
directory settles the difference.
-/

namespace SleepySession

open Program SecureDir

section Cleaning

variable {β : Type}
variable {contents : Contents β} {S : Prop} {P : Triple β → Prop}
variable {A : Answer FileName β → Prop}
variable {N : Failure → Files β → Prop}
variable {v v' : Files β} {L : Triple β} {T : Transaction β}

section Ending

/-- A transaction whose record is only to be cleaned up. -/
inductive Ending
    (contents : Contents β) (S : Prop) (P : Triple β → Prop)
    (T : Transaction β) (L : Triple β) (v : Files β) : Prop where
  | quiet (hP : P L) (h : Quiet contents S L v)
  | closing (target : RecoveryTarget) (hP : Permits contents P T)
      (hside : P (T.content contents target))
      (hL : L = T.content contents target)
      (h : Closing contents S T target v)

theorem Ending.stage
    (h : Ending contents S P T L v) :
    Stage contents S P v := by
  cases h with
  | quiet hP h => exact .quiet L hP h
  | closing t hP hside hL h => exact .closing T t hP hside h

theorem Ending.writesNothing
    (h : Ending contents S P T L v)
    (hv : WritesNothing v v') :
    Ending contents S P T L v' := by
  cases h with
  | quiet hP h => exact .quiet hP (h.writesNothing hv)
  | closing t hP hside hL h => exact .closing t hP hside hL (h.writesNothing hv)

theorem Ending.removeSidecar
    (h : Ending contents S P T L v)
    {k : ArtifactKind} {id : String} {new : Bool}
    (hv : WritesOnly (.sidecar k id new) v v')
    (hnone : (sidecarCell v k id new).Wrote none (sidecarCell v' k id new)) :
    Ending contents S P T L v' := by
  cases h with
  | quiet hP h => exact .quiet hP (h.removeSidecar hv hnone)
  | closing t hP hside hL h =>
      exact .closing t hP hside hL (h.removeSidecar hv hnone)

theorem Ending.sync
    (h : Ending contents S P T L v) :
    P L ∧ Quiet contents S L (v.sync .presets) := by
  cases h with
  | quiet hP h => exact ⟨hP, h.writesNothing (writesNothing_sync v .presets)⟩
  | closing t hP hside hL h =>
      subst hL
      exact ⟨hside, h.sync⟩

end Ending

set_option linter.unusedSectionVars false

variable [DisplayPath Directory FileName]

section Cleanup

theorem removeSidecars_ending
    {k : ArtifactKind}
    (h : Ending contents S P T L v) :
    (removeSidecars (T.artifact contents k) : Binding β Unit).wp A
      (ends contents S P N fun _ v' => Ending contents S P T L v') v := by
  unfold removeSidecars
  simp only [Transaction.artifact, sidecarPath, sidecarName, wp_bind, wp_pure]
  refine wp_removeFile (cut_ends h.stage) ?_
  intro v₁ hframe₁ hnone₁
  have h₁ := h.removeSidecar (writesOnly_of_frame hframe₁) hnone₁
  simp only
  refine wp_removeFile (cut_ends h₁.stage) ?_
  intro v₂ hframe₂ hnone₂
  have h₂ := h₁.removeSidecar (writesOnly_of_frame hframe₂) hnone₂
  simp only
  refine wp_removeFile (cut_ends h₂.stage) ?_
  intro v₃ hframe₃ _
  have h₃ := h₂.writesNothing (writesNothing_of_frame hframe₃ trivial)
  simp only
  refine wp_removeFile (cut_ends h₃.stage) ?_
  intro v₄ hframe₄ _
  exact h₃.writesNothing (writesNothing_of_frame hframe₄ trivial)

/-- `cleanup` of a record that is not needed any more. -/
theorem cleanup_ending
    {phase : JournalPhase} {target : RecoveryTarget} {complete : Bool}
    (h : Ending contents S P T L v) :
    ((T.journal contents phase target complete).cleanup : Binding β Unit).wp A
      (ends contents S P N fun _ v' => P L ∧ Quiet contents S L v') v := by
  unfold TransactionJournal.cleanup
  refine ends_bind (R := fun _ v' => Ending contents S P T L v') ?_ ?_
  · simp only [Transaction.journal]
    refine ends_each (removeSidecars_ending h) ?_
    intro v₁ h₁
    refine ends_each (removeSidecars_ending h₁) ?_
    intro v₂ h₂
    refine ends_each (removeSidecars_ending h₂) ?_
    intro v₃ h₃
    exact h₃
  rintro _ v₁ h₁
  rw [wp_bind]
  refine wp_observe (cut_ends h₁.stage) ?_
  -- syncing the first directory already makes the confirmation durable
  refine ends_bind (R := fun _ v' => P L ∧ Quiet contents S L v') ?_ ?_
  · simp only [Transaction.journal, Transaction.artifact, artifactKinds,
      List.any_cons, List.any_nil]
    refine ends_each (R := fun _ v' => P L ∧ Quiet contents S L v') ?_ ?_
    · exact wp_sync (cut_ends h₁.stage) h₁.sync
    rintro v₂ ⟨hP, h₂⟩
    refine ends_each (R := fun _ v' => P L ∧ Quiet contents S L v') ?_ ?_
    · exact wp_sync (cut_ends (.quiet L hP h₂))
        ⟨hP, h₂.writesNothing (writesNothing_sync v₂ _)⟩
    rintro v₃ ⟨_, h₃⟩
    refine ends_each (R := fun _ v' => P L ∧ Quiet contents S L v') ?_ ?_
    · exact wp_sync (cut_ends (.quiet L hP h₃))
        ⟨hP, h₃.writesNothing (writesNothing_sync v₃ _)⟩
    · exact fun v₄ h₄ => h₄
  rintro _ v₂ ⟨hP, h₂⟩
  have hcut : ∀ {v : Files β} {R : Unit → Files β → Prop},
      Quiet contents S L v → Cut (ends contents S P N R) v :=
    fun hq => cut_ends (.quiet L hP hq)
  rw [wp_bind]
  refine wp_observe (hcut h₂) ?_
  simp only [wp_bind]
  refine wp_removeFile (hcut h₂) ?_
  intro v₃ hframe hnone
  have h₃ : Quiet contents S L v₃ :=
    h₂.record (writesOnly_of_frame hframe) (Or.inl rfl) (Or.inr hnone)
  simp only
  refine wp_observe (hcut h₃) ?_
  simp only
  refine wp_sync (hcut h₃) ?_
  have h₄ := h₃.writesNothing (writesNothing_sync v₃ .presets)
  simp only
  exact wp_observe (hcut h₄) ⟨hP, h₄⟩

end Cleanup

section Confirmation

/-- The whole of one side is installed. -/
abbrev Installed
    (contents : Contents β) (S : Prop) (T : Transaction β)
    (side : RecoveryTarget) (v : Files β) : Prop :=
  Progress contents S T side [.bindings, .settings, .preset] v

theorem Progress.settled
    {side : RecoveryTarget}
    (h : Installed contents S T side v) :
    Settled (T.content contents side) v := by
  intro k
  refine h.installed k ?_
  cases k <;> simp

theorem Permits.side
    (hP : Permits contents P T)
    (hlive : T.Live contents)
    (side : RecoveryTarget) :
    P (T.content contents side) := by
  cases side with
  | candidate => exact hP.2 hlive
  | previous =>
      have hold : T.content contents .previous = T.old :=
        funext fun k => T.content_previous contents k
      rw [hold]
      exact hP.1

/-- The confirmation of an installed side. -/
theorem confirm_installed
    {side : RecoveryTarget}
    (hP : Permits contents P T)
    (h : Installed contents S T side v)
    (hrecorded : Recorded contents T .reloadPending side v) :
    (confirm contents (T.journal contents .reloadPending side true)).wp A
      (ends contents S P N fun _ v' =>
        P (T.content contents side) ∧
          Quiet contents S (T.content contents side) v') v := by
  unfold confirm TransactionJournal.setPhase
  refine ends_bind (verifyNoopArtifacts_open hP h.isOpen) ?_
  rintro _ v₀ ⟨rfl, hlive⟩
  have hside := hP.side hlive side
  have hheader : S → T.HeaderValid := fun hS => (h.isOpen.tracked hS).header
  have hconfirmed : ∀ v', WritesOnly journalName v₀ v' →
      (∀ k new,
        (sidecarCell v₀ k T.id new).Shrinks (sidecarCell v' k T.id new)) ∧
        Settled (T.content contents side) v' :=
    fun v' hv => ⟨fun k new => hv.sidecar (by simp [journalName]),
      h.settled.shrinks fun k => hv.live k (by simp [journalName, artifactName])⟩
  simp only [wp_bind]
  refine wp_persist ?_ ?_
  · intro v' hv hj
    obtain ⟨hsidecars, hsettled⟩ := hconfirmed v' hv
    refine cut_ends ?_
    rcases hj with hj | hj
    · have hkept : (journalCell v₀).Shrinks (journalCell v') ∨
          (journalCell v₀).Wrote (T.recorded contents .reloadPending side true)
            (journalCell v') :=
        Or.inl hj
      exact .open T hP (h.isOpen.record (by simp) hv hkept)
    · refine .closing T side hP hside
        ⟨hsettled, hj.1, hj.2.1, ?_, h.isOpen.sound.shrinks hsidecars, hheader,
          fun _ => hlive⟩
      refine hj.all (Or.inl rfl) ?_
      rw [hrecorded, Cell.all_settled]
      exact Or.inr rfl
  · intro v' hv hj
    obtain ⟨hsidecars, hsettled⟩ := hconfirmed v' hv
    have hquiet : Quiet contents S (T.content contents side) v' := by
      refine ⟨hsettled, ?_⟩
      rw [hj, Cell.all_settled]
      exact Or.inr ⟨T, .reloadConfirmed, side, true, rfl, hheader,
        Or.inr ⟨rfl, h.isOpen.sound.shrinks hsidecars⟩⟩
    simp only
    refine wp_observe (cut_ends (.quiet _ hside hquiet)) ?_
    exact cleanup_ending (.quiet hside hquiet)

end Confirmation

end Cleaning

end SleepySession
