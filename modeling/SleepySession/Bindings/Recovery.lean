import SleepySession.Bindings.Stages

/-!
# Every step of a transaction keeps the stages

The operations of the journal, of `apply_candidate_locked` and of
`reconcile_bindings_locked` are shown to move between the stages only.  The
postcondition `ends` carries the stage through every failure and every crash;
its error clause also says that a tracked run fails only for reasons that lie
outside the journal.
-/

namespace SleepySession

open Program SecureDir

section Recovery

variable {β α : Type}
variable {contents : Contents β} {S : Prop} {P : Triple β → Prop}
variable {A : Answer FileName β → Prop}
variable {N : Failure → Files β → Prop}
variable {v v' : Files β} {L : Triple β} {T : Transaction β}

/--
A run that succeeds with `R`, and that otherwise stops in some stage.  When
the sidecars are tracked, it fails only by an interruption or as `N` says.
-/
def ends
    (contents : Contents β) (S : Prop) (P : Triple β → Prop)
    (N : Failure → Files β → Prop) (R : α → Files β → Prop) :
    Post (Files β) Failure α :=
  ⟨R, fun e v => Stage contents S P v ∧ (S → e.Interrupts ∨ N e v),
    Stage contents S P⟩

section Rules

theorem cut_ends
    {R : α → Files β → Prop}
    (h : Stage contents S P v) :
    Cut (ends contents S P N R) v :=
  ⟨fun _ he => ⟨h, fun _ => Or.inl he⟩, h⟩

theorem ends_bind
    {δ : Type}
    {m : Binding β α} {f : α → Binding β δ}
    {R : α → Files β → Prop} {R' : δ → Files β → Prop}
    (hm : m.wp A (ends contents S P N R) v)
    (hf : ∀ a v', R a v' → (f a).wp A (ends contents S P N R') v') :
    (m >>= f).wp A (ends contents S P N R') v := by
  rw [wp_bind]
  refine wp_mono ?_ ?_ ?_ hm
  · exact hf
  · exact fun _ _ h => h
  · exact fun _ h => h

theorem ends_each
    {f : α → Binding β Unit} {a : α} {rest : List α}
    {R R' : Unit → Files β → Prop}
    (hm : (f a).wp A (ends contents S P N R) v)
    (hf : ∀ v', R () v' → (each f rest).wp A (ends contents S P N R') v') :
    (each f (a :: rest)).wp A (ends contents S P N R') v := by
  rw [wp_each_cons]
  refine wp_mono ?_ ?_ ?_ hm
  · exact fun _ v' h => hf v' h
  · exact fun _ _ h => h
  · exact fun _ h => h

theorem ends_mono
    {m : Binding β α}
    {N' : Failure → Files β → Prop}
    {R R' : α → Files β → Prop}
    (hm : m.wp A (ends contents S P N R) v)
    (hR : ∀ a v', R a v' → R' a v')
    (hN : ∀ e v', N e v' → N' e v') :
    m.wp A (ends contents S P N' R') v := by
  refine wp_mono ?_ ?_ ?_ hm
  · exact hR
  · exact fun e v' h => ⟨h.1, fun hS => (h.2 hS).imp_right (hN e v')⟩
  · exact fun _ h => h

theorem silent_observe (stage : ApplyStage) :
    Silent A (observe stage : Binding β Unit) := by
  intro Q v hcut hok
  refine ⟨hcut.2, ?_⟩
  intro a _
  cases a with
  | mk fault text uuid torn listing accepted available =>
      cases fault with
      | proceed => exact hok ()
      | refuse => exact hcut.1 _ (Failure.interrupts_faultInjected text)
      | fail => exact hcut.1 _ (Failure.interrupts_faultInjected text)
      | crash => exact hcut.2

theorem wp_observe
    {Q : Post (Files β) Failure Unit}
    {stage : ApplyStage}
    (hcut : Cut Q v)
    (hok : Q.ok () v) :
    (observe stage : Binding β Unit).wp A Q v :=
  silent_observe stage Q v hcut fun _ => hok

theorem SecureDir.Touched.writesOnly
    {d : Directory} {n : FileName} {x : Option β}
    (h : Touched d n x v v') :
    WritesOnly n v v' :=
  h.1.mono fun _ _ hn => Or.inl hn.2

theorem SecureDir.Replaced.writesOnly
    {d : Directory} {n : FileName} {x : Option β}
    (h : Replaced d n x v v') :
    WritesOnly n v v' :=
  h.1.mono fun _ _ hn => Or.inl hn.2

theorem writesOnly_of_frame
    {d : Directory} {n : FileName}
    (h : v.Frame (fun d' n' => d' = d ∧ n' = Entry.named n) v') :
    WritesOnly n v v' :=
  keeps_of_frame_named h (Or.inl rfl)

theorem writesNothing_of_frame
    {d : Directory} {n : FileName}
    (h : v.Frame (fun d' n' => d' = d ∧ n' = Entry.named n) v')
    (hn : Untracked n) :
    WritesNothing v v' :=
  keeps_of_frame_named h hn

end Rules

section Progress

/-- The transaction is open and the given artifacts are on one side. -/
structure Progress
    (contents : Contents β) (S : Prop) (T : Transaction β)
    (side : RecoveryTarget) (done : List ArtifactKind) (v : Files β) : Prop where
  isOpen : Open contents S T v
  installed : ∀ k ∈ done, (liveCell v k).All (· = T.content contents side k)

/-- The record on disk is exactly the given one. -/
def Recorded
    (contents : Contents β) (T : Transaction β)
    (phase : JournalPhase) (target : RecoveryTarget) (v : Files β) : Prop :=
  journalCell v = Cell.settled (T.recorded contents phase target true)

theorem Progress.record
    {side target : RecoveryTarget} {done : List ArtifactKind}
    {phase : JournalPhase}
    (h : Progress contents S T side done v)
    (hphase : phase ≠ .reloadConfirmed)
    (hv : WritesOnly journalName v v')
    (hj : (journalCell v).Shrinks (journalCell v') ∨
      (journalCell v).Wrote (T.recorded contents phase target true)
        (journalCell v')) :
    Progress contents S T side done v' := by
  refine ⟨h.isOpen.record hphase hv hj, ?_⟩
  intro k hk
  exact (hv.live k (by simp [journalName, artifactName])).all (h.installed k hk)

theorem wrote_of_settled
    {x : Option β} {c c' : Cell β}
    (h : c' = Cell.settled x) :
    c.Wrote x c' := by
  subst h
  exact ⟨rfl, rfl, fun y hy => Or.inl (by simpa [Cell.settled, Cell.values] using hy)⟩

theorem Progress.install
    {side : RecoveryTarget} {done : List ArtifactKind} {k : ArtifactKind}
    (h : Progress contents S T side done v)
    (hv : WritesOnly (artifactName k) v v')
    (hk : liveCell v' k = Cell.settled (T.content contents side k)) :
    Progress contents S T side (k :: done) v' := by
  refine ⟨h.isOpen.install hv (Or.inr (wrote_of_settled hk)), ?_⟩
  intro k' hk'
  by_cases heq : k' = k
  · subst heq
    rw [hk]
    simp
  · have hdone : k' ∈ done := by simpa [heq] using hk'
    have hne : artifactName k ≠ artifactName k' := by
      simpa [artifactName] using Ne.symm heq
    exact (hv.live k' hne).all (h.installed k' hdone)

end Progress

section Records

variable [DisplayPath Directory FileName]

/-- Persisting a record. -/
theorem wp_persist
    {Q : Post (Files β) Failure Unit}
    {j : TransactionJournal}
    (hcut :
      ∀ v', WritesOnly journalName v v' →
        ((journalCell v).Shrinks (journalCell v') ∨
          (journalCell v).Wrote (some (contents.encode j)) (journalCell v')) →
        Cut Q v')
    (hok :
      ∀ v', WritesOnly journalName v v' →
        journalCell v' = Cell.settled (some (contents.encode j)) → Q.ok () v') :
    (j.persist contents).wp A Q v :=
  wp_atomicReplace Silent.pure Silent.pure Silent.pure
    (fun v' h => hcut v' h.writesOnly h.2)
    (fun v' h => hok v' h.writesOnly h.2)

theorem persist_progress
    {side target : RecoveryTarget} {done : List ArtifactKind}
    {phase : JournalPhase}
    (hP : Permits contents P T)
    (h : Progress contents S T side done v)
    (hphase : phase ≠ .reloadConfirmed) :
    ((T.journal contents phase target true).persist contents).wp A
      (ends contents S P N fun _ v' =>
        Progress contents S T side done v' ∧ Recorded contents T phase target v')
      v := by
  refine wp_persist ?_ ?_
  · intro v' hv hj
    exact cut_ends (.open T hP (h.record hphase hv hj).isOpen)
  · intro v' hv hj
    exact ⟨h.record hphase hv (Or.inr (wrote_of_settled hj)), hj⟩

theorem setPhase_progress
    {side target : RecoveryTarget} {done : List ArtifactKind}
    {phase phase' : JournalPhase}
    (hP : Permits contents P T)
    (h : Progress contents S T side done v)
    (hphase : phase' ≠ .reloadConfirmed) :
    ((T.journal contents phase target true).setPhase contents phase').wp A
      (ends contents S P N fun j v' =>
        j = T.journal contents phase' target true ∧
          Progress contents S T side done v' ∧
          Recorded contents T phase' target v')
      v := by
  unfold TransactionJournal.setPhase
  refine ends_bind (persist_progress hP h hphase) ?_
  rintro _ v₁ ⟨h₁, hrecorded⟩
  rw [wp_bind]
  exact wp_observe (cut_ends (.open T hP h₁.isOpen)) ⟨rfl, h₁, hrecorded⟩

theorem setRecoveryTarget_progress
    {side target target' : RecoveryTarget} {done : List ArtifactKind}
    {phase : JournalPhase}
    (hP : Permits contents P T)
    (h : Progress contents S T side done v)
    (hphase : phase ≠ .reloadConfirmed) :
    ((T.journal contents phase target true).setRecoveryTarget contents target').wp A
      (ends contents S P N fun j v' =>
        j = T.journal contents phase target' true ∧
          Progress contents S T side done v')
      v := by
  unfold TransactionJournal.setRecoveryTarget
  refine ends_bind (persist_progress hP h hphase) ?_
  rintro _ v₁ ⟨h₁, _⟩
  exact ⟨rfl, h₁⟩

/-- The first record of a recovery also ends the sealing of the transaction. -/
theorem setRecoveryTarget_sealing
    {target target' side : RecoveryTarget}
    (hP : Permits contents P T)
    (h : Sealing contents S T v) :
    ((T.journal contents .prepared target true).setRecoveryTarget contents
        target').wp A
      (ends contents S P N fun j v' =>
        j = T.journal contents .prepared target' true ∧
          Progress contents S T side [] v')
      v := by
  unfold TransactionJournal.setRecoveryTarget
  rw [wp_bind]
  refine wp_persist ?_ ?_
  · intro v' hv hj
    exact cut_ends (.sealing T hP (h.record hv hj))
  · intro v' hv hj
    exact ⟨rfl, h.seal hv hj, by simp⟩

end Records

section Installation

variable [DisplayPath Directory FileName]

theorem wp_verifyLiveNoop
    {Q : Post (Files β) Failure Unit}
    {k : ArtifactKind}
    (hk : (liveCell v k).All (· = T.old k))
    (hcut : Cut Q v)
    (hmissing : T.old k = none → ∀ e, Q.error e v)
    (hok : T.old k ≠ none → Q.ok () v) :
    (verifyLiveNoop contents (T.artifact contents k)).wp A Q v := by
  unfold verifyLiveNoop
  rw [wp_bind]
  refine wp_readOptional hcut ?_
  have hcurrent : (v (artifactDir k) (.named (artifactName k))).current = T.old k :=
    hk.current
  simp only [Transaction.artifact, hcurrent]
  cases hold : T.old k with
  | none => exact hmissing hold _
  | some bytes => simpa [hold] using hok

theorem verifyLiveNoop_open
    {k : ArtifactKind}
    (hP : Permits contents P T)
    (h : Open contents S T v)
    (hnoop : T.Noop contents k) :
    (verifyLiveNoop contents (T.artifact contents k)).wp A
      (ends contents S P N fun _ v' => v' = v ∧ T.old k ≠ none) v := by
  have hlive : (liveCell v k).All (· = T.old k) := by
    refine (h.live k).mono ?_
    intro x hx
    simpa [T.content_noop contents hnoop] using hx
  have hstage : Stage contents S P v := .open T hP h
  refine wp_verifyLiveNoop hlive (cut_ends hstage) ?_ (fun hne => ⟨rfl, hne⟩)
  intro hnone e
  exact ⟨hstage, fun hS => absurd hnone ((h.tracked hS).live k hnoop)⟩

theorem verifyNoopArtifacts_open
    {phase : JournalPhase} {target : RecoveryTarget} {complete : Bool}
    (hP : Permits contents P T)
    (h : Open contents S T v) :
    ((T.journal contents phase target complete).verifyNoopArtifacts contents).wp A
      (ends contents S P N fun _ v' => v' = v ∧ T.Live contents) v := by
  have hone : ∀ k,
      (if (T.artifact contents k).oldHash = (T.artifact contents k).newHash then
          verifyLiveNoop contents (T.artifact contents k)
        else (pure () : Binding β Unit)).wp A
        (ends contents S P N fun _ v' =>
          v' = v ∧ (T.Noop contents k → T.old k ≠ none)) v := by
    intro k
    split
    · rename_i hnoop
      exact ends_mono (verifyLiveNoop_open hP h hnoop)
        (fun _ _ hv => ⟨hv.1, fun _ => hv.2⟩) (fun _ _ hN => hN)
    · rename_i hnoop
      exact ⟨rfl, fun hn => absurd hn hnoop⟩
  unfold TransactionJournal.verifyNoopArtifacts
  simp only [Transaction.journal]
  refine ends_each (hone .preset) ?_
  rintro _ ⟨rfl, hpreset⟩
  refine ends_each (hone .settings) ?_
  rintro _ ⟨rfl, hsettings⟩
  refine ends_each (hone .bindings) ?_
  rintro _ ⟨rfl, hbindings⟩
  refine ⟨rfl, ?_⟩
  intro k
  cases k with
  | preset => exact hpreset
  | settings => exact hsettings
  | bindings => exact hbindings

/-- Installing one artifact on one side. -/
theorem install_progress
    {side : RecoveryTarget} {done : List ArtifactKind} {k : ArtifactKind}
    (hP : Permits contents P T)
    (h : Progress contents S T side done v) :
    (install contents (T.artifact contents k) side).wp A
      (ends contents S P N fun _ v' => Progress contents S T side (k :: done) v')
      v := by
  unfold install
  split
  · -- equal digests: the live file has to be the old one
    rename_i hnoop
    have hcell : (liveCell v k).All (· = T.content contents side k) := by
      refine (h.isOpen.live k).mono ?_
      intro x hx
      have hnoop' : T.Noop contents k := hnoop
      simpa [T.content_noop contents hnoop'] using hx
    refine ends_mono (verifyLiveNoop_open hP h.isOpen hnoop) ?_ (fun _ _ hN => hN)
    rintro _ _ ⟨rfl, _⟩
    refine ⟨h.isOpen, ?_⟩
    intro k' hk'
    rcases List.mem_cons.mp hk' with rfl | hk'
    · exact hcell
    · exact h.installed k' hk'
  rename_i hnoop
  have hnoop' : ¬ T.Noop contents k := hnoop
  split
  · -- the artifact did not exist: remove it
    rename_i hremove
    obtain ⟨rfl, hexisted⟩ := hremove
    have hold : T.old k = none := by
      simpa [Transaction.artifact] using hexisted
    rw [wp_bind]
    refine wp_removeFile (cut_ends (.open T hP h.isOpen)) ?_
    intro v₁ hframe hremoved
    have hv : WritesOnly (artifactName k) v v₁ := writesOnly_of_frame hframe
    have hwrote : (liveCell v k).Wrote none (liveCell v₁ k) := hremoved
    have hcontent : T.content contents .previous k = none := by simpa using hold
    have hside : (liveCell v k).Wrote (T.content contents .previous k)
        (liveCell v₁ k) := by
      rw [hcontent]
      exact hwrote
    have hopen : Open contents S T v₁ := h.isOpen.install hv (Or.inr hside)
    simp only [wp_bind]
    refine wp_observe (cut_ends (.open T hP hopen)) ?_
    simp only
    refine wp_sync (cut_ends (.open T hP hopen)) ?_
    have hnothing := writesNothing_sync v₁ (artifactDir k)
    have hopen₂ : Open contents S T (v₁.sync (artifactDir k)) :=
      hopen.writesNothing hnothing
    have hv₂ : WritesOnly (artifactName k) v (v₁.sync (artifactDir k)) :=
      hv.trans (hnothing.writesOnly _)
    have hsettled : liveCell (v₁.sync (artifactDir k)) k =
        Cell.settled (T.content contents .previous k) := by
      have hsync : liveCell (v₁.sync (artifactDir k)) k = (liveCell v₁ k).sync := by
        simp [liveCell]
      rw [hsync, Cell.sync_eq_settled hwrote.2.1, hcontent]
      exact congrArg Cell.settled hwrote.1
    simp only
    exact wp_observe (cut_ends (.open T hP hopen₂)) (h.install hv₂ hsettled)
  · -- replace it by the content of the sidecar
    rename_i hremove
    have hsidecar :
        ∀ new : Bool, (new = true ↔ side = .candidate) →
          some (T.sidecar contents k new) = T.content contents side k := by
      intro new hnew
      cases side with
      | candidate =>
          have : new = true := hnew.mpr rfl
          simp [Transaction.sidecar, this, T.content_candidate contents hnoop']
      | previous =>
          have hfalse : new = false := by simpa using hnew
          have hexists : T.old k ≠ none := by
            simpa [Transaction.artifact] using hremove
          obtain ⟨bytes, hbytes⟩ := Option.ne_none_iff_exists'.mp hexists
          simp [Transaction.sidecar, hfalse, hbytes]
    have hreplace : ∀ bytes, some bytes = T.content contents side k →
        (atomicReplace (artifactDir k) (artifactName k) contents.empty bytes
          (pure ()) (observe (.artifactRenamed k side))
          (observe (.directorySynced k side)) : Binding β Unit).wp A
          (ends contents S P N fun _ v' =>
            Progress contents S T side (k :: done) v') v := by
      intro bytes hbytes
      refine wp_atomicReplace Silent.pure (silent_observe _) (silent_observe _) ?_ ?_
      · intro v' htouched
        have hwrote := htouched.2
        rw [hbytes] at hwrote
        exact cut_ends (.open T hP (h.isOpen.install htouched.writesOnly hwrote))
      · intro v' hreplaced
        have hcell : liveCell v' k = Cell.settled (T.content contents side k) := by
          rw [← hbytes]
          exact hreplaced.2
        exact h.install hreplaced.writesOnly hcell
    have hread : ∀ (new : Bool) (expected : String),
        (new = true ↔ side = .candidate) →
        contents.hash (T.sidecar contents k new) = expected →
        (do
          let bytes ← read (artifactDir k) (.named (.sidecar k T.id new))
          if contents.hash bytes ≠ expected then
            throw (invalidJournal "durable transaction artifact hash mismatch")
          else
            atomicReplace (artifactDir k) (artifactName k) contents.empty bytes
              (pure ()) (observe (.artifactRenamed k side))
              (observe (.directorySynced k side)) : Binding β Unit).wp A
          (ends contents S P N fun _ v' =>
            Progress contents S T side (k :: done) v') v := by
      intro new expected hnew hexpected
      rw [wp_bind]
      refine wp_read (cut_ends (.open T hP h.isOpen)) ?_
      intro bytes hbytes
      have hright : bytes = T.sidecar contents k new := by
        have hcurrent := (h.isOpen.sound k new).current
        rw [show (sidecarCell v k T.id new).current = some bytes from hbytes]
          at hcurrent
        simpa using hcurrent
      subst hright
      simp only [hexpected, ne_eq, not_true_eq_false, if_false]
      exact hreplace _ (hsidecar new hnew)
    cases side with
    | candidate => exact hread true _ (by simp) rfl
    | previous => exact hread false _ (by simp) rfl

/-- `install_target` and `restore_all`. -/
theorem installTarget_progress
    {phase : JournalPhase} {target side : RecoveryTarget} {complete : Bool}
    (hP : Permits contents P T)
    (h : Progress contents S T side [] v) :
    ((T.journal contents phase target complete).installTarget contents side).wp A
      (ends contents S P N fun _ v' =>
        Progress contents S T side [.bindings, .settings, .preset] v' ∧
          T.Live contents)
      v := by
  unfold TransactionJournal.installTarget
  simp only [Transaction.journal]
  refine ends_each (install_progress hP h) ?_
  intro v₁ h₁
  refine ends_each (install_progress hP h₁) ?_
  intro v₂ h₂
  refine ends_each
    (R := fun _ v' =>
      Progress contents S T side [.bindings, .settings, .preset] v' ∧
        T.Live contents) ?_ (fun _ h₃ => h₃)
  refine ends_bind (verifyNoopArtifacts_open hP h₂.isOpen) ?_
  rintro _ _ ⟨rfl, hlive⟩
  refine ends_mono (install_progress hP h₂) ?_ (fun _ _ hN => hN)
  exact fun _ _ h₃ => ⟨h₃, hlive⟩

end Installation

end Recovery

end SleepySession
