import SleepySession.Bindings.Cleanup

/-!
# Reading the journal back

In every stage the record that is found is either only to be cleaned up or
belongs to a transaction that can be resumed.  As long as the sidecars are
tracked, the validation accepts it.
-/

namespace SleepySession

open Program SecureDir

section Reading

variable {β : Type}
variable {contents : Contents β} {S : Prop} {P : Triple β → Prop}
variable {A : Answer FileName β → Prop}
variable {N : Failure → Files β → Prop}
variable {v v' : Files β} {L : Triple β} {T : Transaction β}

set_option linter.unusedSectionVars false

variable [DisplayPath Directory FileName]

section Loading

/-- A check that leaves the volume alone and rejects nothing that is tracked. -/
def Checks
    (S : Prop) (A : Answer FileName β → Prop) (v : Files β)
    (m : Binding β Unit) : Prop :=
  ∀ Q : Post (Files β) Failure Unit,
    Cut Q v → (¬ S → ∀ message, Q.error (invalidJournal message) v) →
      Q.ok () v → m.wp A Q v

theorem Checks.each
    {α : Type} {f : α → Binding β Unit} {l : List α}
    (h : ∀ a ∈ l, Checks S A v (f a)) :
    Checks S A v (each f l) := by
  induction l with
  | nil => exact fun Q _ _ hok => hok
  | cons a rest ih =>
      intro Q hcut hinvalid hok
      rw [wp_each_cons]
      refine h a (by simp) _ hcut hinvalid ?_
      exact ih (fun b hb => h b (by simp [hb])) Q hcut hinvalid hok

theorem checks_invalid
    (hS : ¬ S) (message : String) :
    Checks S A v (throw (invalidJournal message) : Binding β Unit) :=
  fun _ _ hinvalid _ => hinvalid hS message

theorem validateSidecar_checks
    {phase : JournalPhase} {target : RecoveryTarget}
    {k : ArtifactKind} {new : Bool} {expected : String}
    (hexpected : expected = contents.hash (T.sidecar contents k new))
    (hfound : S →
      (sidecarCell v k T.id new).current = some (T.sidecar contents k new) ∨
        phase = .reloadConfirmed ∧ (sidecarCell v k T.id new).current = none) :
    Checks S A v
      (validateSidecar contents (T.journal contents phase target true) k
        (sidecarPath k T.id new, expected)) := by
  intro Q hcut hinvalid hok
  unfold validateSidecar
  simp only [sidecarPath, sidecarName, wp_bind, wp_pure]
  refine wp_readOptional hcut ?_
  cases hc : (v (artifactDir k) (.named (.sidecar k T.id new))).current with
  | none =>
      by_cases hphase : phase = .reloadConfirmed
      · simpa [Transaction.journal, hphase] using hok
      · have hS : ¬ S := by
          intro hS
          rcases hfound hS with hright | ⟨hph, _⟩
          · rw [sidecarCell, hc] at hright
            cases hright
          · exact hphase hph
        simpa [Transaction.journal, hphase] using hinvalid hS _
  | some bytes =>
      by_cases hhash : contents.hash bytes = expected
      · simpa [hhash] using hok
      · have hS : ¬ S := by
          intro hS
          rcases hfound hS with hright | ⟨_, hnone⟩
          · rw [sidecarCell, hc] at hright
            rw [Option.some.inj hright, hexpected] at hhash
            exact hhash rfl
          · rw [sidecarCell, hc] at hnone
            cases hnone
        simpa [hhash] using hinvalid hS _

/-- What the validation of a record needs in order to accept it. -/
structure Loadable
    (contents : Contents β) (S : Prop) (T : Transaction β)
    (phase : JournalPhase) (complete : Bool) (v : Files β) : Prop where
  header : S → T.HeaderValid
  sidecars : S → complete = true → ∀ k new,
    (sidecarCell v k T.id new).current = some (T.sidecar contents k new) ∨
      phase = .reloadConfirmed ∧ (sidecarCell v k T.id new).current = none

theorem Loadable.validate
    {phase : JournalPhase} {target : RecoveryTarget} {complete : Bool}
    (h : Loadable contents S T phase complete v) :
    Checks S A v
      ((T.journal contents phase target complete).validate contents) := by
  have hartifact : ∀ k, Checks S A v
      (validateArtifact contents (T.journal contents phase target complete) k) := by
    intro k
    have hfilter :
        (T.journal contents phase target complete).artifacts.filter
          (·.kind == k) = [T.artifact contents k] := by
      cases k <;> rfl
    unfold validateArtifact
    rw [hfilter]
    cases complete with
    | false =>
        intro Q _ _ hok
        simpa [Transaction.artifact, Transaction.journal] using hok
    | true =>
        have hboth : Checks S A v
            (each (validateSidecar contents (T.journal contents phase target true) k)
              [(sidecarPath k T.id false, (T.artifact contents k).oldHash),
                (sidecarPath k T.id true, (T.artifact contents k).newHash)]) := by
          refine Checks.each ?_
          intro s hs
          rcases List.mem_pair.mp hs with rfl | rfl
          · exact validateSidecar_checks rfl fun hS => h.sidecars hS rfl k false
          · exact validateSidecar_checks rfl fun hS => h.sidecars hS rfl k true
        intro Q hcut hinvalid hok
        simpa [Transaction.artifact, Transaction.journal] using
          hboth Q hcut hinvalid hok
  unfold TransactionJournal.validate
  split
  · rename_i hbad
    refine checks_invalid ?_ _
    intro hS
    obtain ⟨hid, hactive⟩ := h.header hS
    simp [Transaction.journal, hid, hactive] at hbad
  · exact Checks.each fun k _ => hartifact k

theorem removeOrphans_quiet
    {Q : Post (Files β) Failure Unit}
    (hcut : ∀ v', Quiet contents S L v' → Cut Q v')
    (hok : ∀ v', Quiet contents S L v' → Q.ok () v')
    (ids : List String)
    (h : Quiet contents S L v) :
    (each (fun id => removeFile .presets (.named (.prepareTemporary id)))
      ids : Binding β Unit).wp A Q v := by
  induction ids generalizing v with
  | nil => exact hok v h
  | cons id rest ih =>
      rw [wp_each_cons]
      refine wp_removeFile (hcut v h) ?_
      intro v' hframe _
      exact ih (h.writesNothing (writesNothing_of_frame hframe trivial))

theorem cleanupOrphanJournalTemps_quiet
    {Q : Post (Files β) Failure Unit}
    (h : Quiet contents S L v)
    (hcut : ∀ v', Quiet contents S L v' → Cut Q v')
    (hok : ∀ v', Quiet contents S L v' → Q.ok () v') :
    (cleanupOrphanJournalTemps : Binding β Unit).wp A Q v := by
  unfold cleanupOrphanJournalTemps entries
  simp only [wp_bind]
  refine wp_syscall (hcut v h) ?_
  simp only [wp_answer, wp_get, wp_pure]
  refine ⟨(hcut v h).2, ?_⟩
  intro a _
  refine removeOrphans_quiet ?_ ?_ _ h
  · exact fun v' h' => hcut v' h'
  intro v' h'
  simp only
  split
  · exact hok v' h'
  · exact wp_sync (hcut v' h')
      (hok _ (h'.writesNothing (writesNothing_sync v' _)))

/-- What `load` finds in a stage. -/
theorem load_stage
    {Q : Post (Files β) Failure (Option TransactionJournal)}
    (hcodec : contents.RoundTrips)
    (h : Stage contents S P v)
    (hcut : ∀ v', Stage contents S P v' → Cut Q v')
    (hinvalid : ¬ S → ∀ message, Q.error (invalidJournal message) v)
    (hnone : ∀ L v', P L → Quiet contents S L v' → Q.ok none v')
    (hleftover :
      ∀ (T : Transaction β) phase target complete L,
        Ending contents S P T L v →
        complete = false ∨ phase = .reloadConfirmed →
        Q.ok (some (T.journal contents phase target complete)) v)
    (hresume :
      ∀ (T : Transaction β) phase target, Permits contents P T →
        phase ≠ .reloadConfirmed →
        Open contents S T v ∨ phase = .prepared ∧ Sealing contents S T v →
        Q.ok (some (T.journal contents phase target true)) v) :
    (TransactionJournal.load contents).wp A Q v := by
  have hvalidate :
      ∀ (T : Transaction β) phase target complete,
        (journalCell v).current = T.recorded contents phase target complete →
        Loadable contents S T phase complete v →
        Q.ok (some (T.journal contents phase target complete)) v →
        (TransactionJournal.load contents).wp A Q v := by
    intro T phase target complete hcurrent hload hok
    unfold TransactionJournal.load
    rw [wp_bind]
    refine wp_readOptional (hcut v h) ?_
    have hdecode := hcodec (T.journal contents phase target complete)
    rw [show (v .presets (.named journalName)).current = _ from hcurrent]
    simp only [Transaction.recorded, hdecode, wp_bind]
    exact hload.validate _ (hcut v h) hinvalid hok
  cases h with
  | quiet L hP h =>
      rcases h.journal.current with hc | ⟨T, phase, target, complete, hc, hheader, hkind⟩
      · unfold TransactionJournal.load
        rw [wp_bind]
        refine wp_readOptional (hcut v (.quiet L hP h)) ?_
        rw [show (v .presets (.named journalName)).current = none from hc]
        simp only [wp_bind]
        exact cleanupOrphanJournalTemps_quiet h
          (fun v' h' => hcut v' (.quiet L hP h'))
          (fun v' h' => hnone L v' hP h')
      · refine hvalidate T phase target complete hc ⟨hheader, ?_⟩
          (hleftover T phase target complete L (.quiet hP h)
            (hkind.imp_right And.left))
        intro hS hcomplete k new
        rcases hkind with hincomplete | ⟨hphase, hsound⟩
        · rw [hincomplete] at hcomplete
          cases hcomplete
        · rcases (hsound k new).current with hmissing | hright
          · exact Or.inr ⟨hphase, hmissing⟩
          · exact Or.inl hright
  | sealing T hP h =>
      obtain ⟨target, hc⟩ := h.shown
      refine hvalidate T .prepared target true hc ⟨h.header, ?_⟩
        (hresume T .prepared target hP (by simp) (Or.inr ⟨rfl, h⟩))
      exact fun hS _ k new => Or.inl ((h.tracked hS).intact k new).current
  | «open» T hP h =>
      obtain ⟨phase, target, hphase, hc⟩ := h.journal.current
      refine hvalidate T phase target true hc
        ⟨fun hS => (h.tracked hS).header, ?_⟩
        (hresume T phase target hP hphase (Or.inl h))
      exact fun hS _ k new => Or.inl ((h.tracked hS).intact k new).current
  | closing T target hP hside h =>
      refine hvalidate T .reloadConfirmed target true h.shown ⟨h.header, ?_⟩
        (hleftover T _ target true _ (.closing target hP hside rfl h) (Or.inr rfl))
      intro hS _ k new
      rcases (h.sound k new).current with hmissing | hright
      · exact Or.inr ⟨rfl, hmissing⟩
      · exact Or.inl hright

end Loading

end Reading

end SleepySession
