import SleepySession.Notifications.Recovery

/-!
# The stages of a commit

A commit writes the journal, then the three files, then removes the journal.
Wherever it ends, the directory stands for the state before or for the
candidate; `reconcile` goes through the same stages from the journal it finds.
-/

namespace SleepySession

namespace StoreState

open Program SecureDirectory SecureDir

section Stages

variable {sdk : NotificationSdk} {limit : Nat} {L : StoreState} {T T' : StoreState → Prop}
variable {v v' : NotificationFiles} {name : NotificationFile}

theorem Consistent.mono
    (h : Consistent sdk T v)
    (hT : ∀ L, T L → T' L) :
    Consistent sdk T' v where
  torn := h.torn
  journals := h.journals.mono fun _ hx => hx.imp_right fun ⟨L, hL, hholds⟩ => ⟨L, hT L hL, hholds⟩
  idle hnone := by
    obtain ⟨L, hL, hrest⟩ := h.idle hnone
    exact ⟨L, hT L hL, hrest⟩

theorem Recoverable.mono
    (h : Recoverable sdk T v)
    (hT : ∀ L, T L → T' L) :
    Recoverable sdk T' v := by
  intro hnone
  obtain ⟨L, hL, hkeeps⟩ := h hnone
  exact ⟨L, hT L hL, hkeeps⟩

theorem KeepsState.shrinks
    (h : KeepsState sdk L v)
    (hshrinks : ∀ name, name ≠ .transaction → (fileCell v name).Shrinks (fileCell v' name)) :
    KeepsState sdk L v' :=
  fun name hname => (hshrinks name hname).all (h name hname)

theorem Journaled.consistent
    (h : Journaled sdk L v)
    (hL : T L) :
    Consistent sdk T v where
  torn := h.1
  journals := h.2.mono fun _ hx => Or.inr ⟨L, hL, hx⟩
  idle hnone := by
    have hcurrent := h.2.current
    rw [hnone] at hcurrent
    exact hcurrent.elim

theorem Journaled.recoverable
    (h : Journaled sdk L v) :
    Recoverable sdk T v :=
  fun hnone => (h.2 _ hnone).elim

theorem Finished.consistent
    (h : Finished sdk L v)
    (hL : T L) :
    Consistent sdk T v where
  torn := h.2.1
  journals := h.2.2.mono fun _ hx => hx.imp_right fun hholds => ⟨L, hL, hholds⟩
  idle _ := ⟨L, hL, h⟩

theorem Finished.recoverable
    (h : Finished sdk L v)
    (hL : T L) :
    Recoverable sdk T v :=
  fun _ => ⟨L, hL, h.1⟩

theorem Journaled.shrinks
    (h : Journaled sdk L v)
    (hshrinks : (fileCell v .transaction).Shrinks (fileCell v' .transaction)) :
    Journaled sdk L v' :=
  ⟨hshrinks.2.1.trans h.1, hshrinks.all h.2⟩

/-- A write to one of the three files leaves the journal where it is. -/
theorem shrinks_of_keeps
    (h : SecureDir.Keeps (fun d n => d = () ∧ n = name) v v')
    {other : NotificationFile}
    (hother : other ≠ name) :
    (fileCell v other).Shrinks (fileCell v' other) :=
  h.shrinks fun hsame => hother hsame.2

/-- The journal of a candidate is being written. -/
theorem Consistent.journal
    {bytes : String}
    (h : Consistent sdk T v)
    (hT : ∀ L, T L → T' L)
    (hL : T' L)
    (hholds : HoldsTransaction sdk L (some bytes))
    (htouched : Touched () .transaction (some bytes) v v') :
    Consistent sdk T' v' := by
  obtain ⟨hkeeps, hjournal⟩ := htouched
  rcases hjournal with hshrinks | hwrote
  · refine ⟨hshrinks.2.1.trans h.torn, hshrinks.all ((h.mono hT).journals), fun hnone => ?_⟩
    obtain ⟨L₀, hL₀, hfinished⟩ := h.idle (hshrinks.1.symm.trans hnone)
    exact ⟨L₀, hT L₀ hL₀, hfinished.1.shrinks fun name hname => shrinks_of_keeps hkeeps hname,
      hshrinks.2.1.trans hfinished.2.1, hshrinks.all hfinished.2.2⟩
  · refine ⟨hwrote.2.1, hwrote.all (Or.inr ⟨L, hL, hholds⟩) (h.mono hT).journals, fun hnone => ?_⟩
    have hsome := hwrote.1.symm.trans hnone
    cases hsome

theorem Recoverable.journal
    {bytes : String}
    (h : Recoverable sdk T v)
    (hT : ∀ L, T L → T' L)
    (htouched : Touched () .transaction (some bytes) v v') :
    Recoverable sdk T' v' := by
  intro hnone
  have hold : none ∈ (fileCell v .transaction).values := by
    rcases htouched.2 with hshrinks | hwrote
    · exact hshrinks.values_subset hnone
    · exact (hwrote.2.2 none hnone).resolve_left (by simp)
  obtain ⟨L, hL, hkeeps⟩ := h hold
  exact ⟨L, hT L hL, hkeeps.shrinks fun name hname => shrinks_of_keeps htouched.1 hname⟩

theorem Consistent.settled
    (h : Consistent sdk T v)
    (hsynced : DirectorySynced v) :
    fileCell v .transaction = Cell.settled (fileCell v .transaction).current := by
  have htorn := h.torn
  have hstale := hsynced (.named .transaction)
  show Cell.mk _ _ _ = Cell.mk _ _ _
  rw [htorn, hstale]

/-- The files that a replay has brought up to date. -/
def Replayed (sdk : NotificationSdk) (L : StoreState) (names : List NotificationFile)
    (v : NotificationFiles) : Prop :=
  ∀ name ∈ names, (fileCell v name).All (FileHolds sdk L name)

theorem Replayed.replaced
    {names : List NotificationFile} {bytes : String}
    (h : Replayed sdk L names v)
    (hreplaced : Replaced () name (some bytes) v v')
    (hholds : FileHolds sdk L name (some bytes)) :
    Replayed sdk L (name :: names) v' := by
  intro other hother
  by_cases hsame : other = name
  · subst hsame
    have hcell : fileCell v' other = Cell.settled (some bytes) := hreplaced.2
    rw [hcell, Cell.all_settled]
    exact hholds
  · have hmem : other ∈ names := (List.mem_cons.mp hother).resolve_left hsame
    exact (shrinks_of_keeps hreplaced.1 hsame).all (h other hmem)

theorem Journaled.remove
    (h : Journaled sdk L v)
    (hwritten : Replayed sdk L [.preferences, .archive, .active] v)
    (hkeeps : SecureDir.Keeps (fun _ n => n = .transaction) v v')
    (hwrote : (fileCell v .transaction).Wrote none (fileCell v' .transaction)) :
    Finished sdk L v' := by
  refine ⟨fun name hname => ?_, hwrote.2.1, ?_⟩
  · refine (hkeeps.shrinks hname).all (hwritten name ?_)
    cases name <;> simp at hname ⊢
  · exact hwrote.all (Or.inl rfl) (h.2.mono fun _ hx => Or.inr hx)

theorem Finished.sync
    (h : Finished sdk L v) :
    Finished sdk L (v.sync ()) := by
  have hshrinks : ∀ name, (fileCell v name).Shrinks (fileCell (v.sync ()) name) := by
    intro name
    show (fileCell v name).Shrinks ((v.sync ()) () (.named name))
    rw [Volume.sync_same]
    exact Cell.shrinks_sync _
  exact ⟨h.1.shrinks fun name _ => hshrinks name, (hshrinks _).2.1.trans h.2.1,
    (hshrinks _).all h.2.2⟩

end Stages

section Programs

variable {sdk : NotificationSdk} {limit : Nat} {L : StoreState} {T : StoreState → Prop}
variable {A : Answer NotificationFile String → Prop} {v : NotificationFiles}

/-- What the store writes for a state is read back as that state. -/
theorem Storable.holds
    (hcodec : sdk.RoundTrips)
    (hlimit : limit < maxDurableFileBytes)
    (h : Storable sdk limit L) :
    HoldsTransaction sdk L
        (some (sdk.transactionJson (L.transaction sdk.durableSchemaVersion) ++ "\n")) ∧
      FileHolds sdk L .active
        (some (sdk.documentsJson ⟨sdk.durableSchemaVersion, L.active⟩ ++ "\n")) ∧
      FileHolds sdk L .archive
        (some (sdk.documentsJson ⟨sdk.durableSchemaVersion, L.archive⟩ ++ "\n")) ∧
      FileHolds sdk L .preferences (some (L.preferences.json ++ "\n")) := by
  obtain ⟨htransaction, hactive, harchive, hpreferences⟩ := file_fits hlimit h.fits
  exact ⟨⟨htransaction, hcodec.transaction L h.active h.archive h.version h.bounded⟩,
    ⟨hactive, hcodec.documents L.active h.active, h.active⟩,
    ⟨harchive, hcodec.documents L.archive h.archive, h.archive⟩,
    L.preferences,
    ⟨hpreferences, hcodec.preferences L.preferences h.version h.bounded, h.version⟩,
    openedPreferences_eq h.counter h.positive⟩

/-- An observer of a stage that can only stop the commit. -/
def SilentStep (A : Answer NotificationFile String → Prop) (m : DirectoryProgram Unit) : Prop :=
  ∀ (Q : Post NotificationFiles IoError Unit) (v : NotificationFiles),
    Ends Q v → Q.ok () v → m.wp A Q v

/-- A replay goes on once the first file is replaced. -/
theorem wp_writeRest
    {Q : Post NotificationFiles IoError Unit}
    {observe : NotificationCommitStage → DirectoryProgram Unit}
    (hcodec : sdk.RoundTrips)
    (hlimit : limit < maxDurableFileBytes)
    (hL : Storable sdk limit L)
    (hobserve : ∀ stage, SilentStep A (observe stage))
    (hjournaled : Journaled sdk L v)
    (hwritten : Replayed sdk L [.active] v)
    (hends : ∀ v', Journaled sdk L v' ∨ Finished sdk L v' → Ends Q v')
    (hok : ∀ v', Finished sdk L v' → Q.ok () v') :
    (do
        observe .activeCommitted
        writeDocuments sdk .archive L.archive
        observe .archiveCommitted
        atomicJson .preferences L.preferences.json
        observe .preferencesCommitted
        SecureDirectory.remove .transaction
        observe .journalRemoved
        SecureDirectory.sync : DirectoryProgram Unit).wp A Q v := by
  obtain ⟨_, _, harchive, hpreferences⟩ := hL.holds hcodec hlimit
  simp only [wp_bind]
  refine hobserve _ _ v (hends v (Or.inl hjournaled)) ?_
  refine wp_atomicReplace
    (fun v' htouched => hends v' (Or.inl (hjournaled.shrinks
      (shrinks_of_keeps htouched.1 (by simp))))) ?_
  intro v₁ hreplaced₁ _
  have hjournaled₁ := hjournaled.shrinks (shrinks_of_keeps hreplaced₁.1 (by simp))
  have hwritten₁ := hwritten.replaced hreplaced₁ harchive
  refine hobserve _ _ v₁ (hends v₁ (Or.inl hjournaled₁)) ?_
  refine wp_atomicReplace
    (fun v' htouched => hends v' (Or.inl (hjournaled₁.shrinks
      (shrinks_of_keeps htouched.1 (by simp))))) ?_
  intro v₂ hreplaced₂ _
  have hjournaled₂ := hjournaled₁.shrinks (shrinks_of_keeps hreplaced₂.1 (by simp))
  have hwritten₂ := hwritten₁.replaced hreplaced₂ hpreferences
  refine hobserve _ _ v₂ (hends v₂ (Or.inl hjournaled₂)) ?_
  refine wp_remove (hends v₂ (Or.inl hjournaled₂)) ?_
  intro v₃ hkeeps hwrote
  have hfinished := hjournaled₂.remove hwritten₂ hkeeps hwrote
  refine hobserve _ _ v₃ (hends v₃ (Or.inr hfinished)) ?_
  exact wp_syncDirectory (hends v₃ (Or.inr hfinished)) (hok _ hfinished.sync)

theorem quiet_observe (stage : NotificationCommitStage) :
    SilentStep A (NotificationStore.observe stage) :=
  fun _ _ hends hok => wp_silent hends hok

theorem quiet_pure :
    SilentStep A (pure ()) :=
  fun _ _ _ hok => hok

/-- The specification of the part of `commit_candidate` that works on the directory. -/
theorem wp_commitFiles
    {Q : Post NotificationFiles IoError Unit} {T' : StoreState → Prop}
    (hcodec : sdk.RoundTrips)
    (hlimit : limit < maxDurableFileBytes)
    (hL : Storable sdk limit L)
    (hconsistent : Consistent sdk T v)
    (hrecoverable : Recoverable sdk T v)
    (hT : ∀ L, T L → T' L)
    (hTL : T' L)
    (hends : ∀ v', Consistent sdk T' v' → Recoverable sdk T' v' → Ends Q v')
    (hok : ∀ v', Finished sdk L v' → Q.ok () v') :
    (commitFiles sdk L.active L.archive L.preferences).wp A Q v := by
  obtain ⟨htransaction, hactive, _, _⟩ := hL.holds hcodec hlimit
  have hends' : ∀ v', Journaled sdk L v' ∨ Finished sdk L v' → Ends Q v' := by
    rintro v' (hjournaled | hfinished)
    · exact hends v' (hjournaled.consistent hTL) hjournaled.recoverable
    · exact hends v' (hfinished.consistent hTL) (hfinished.recoverable hTL)
  unfold commitFiles
  simp only [wp_bind]
  refine wp_atomicReplace
    (fun v' htouched => hends v' (hconsistent.journal hT hTL htransaction htouched)
      (hrecoverable.journal hT htouched)) ?_
  intro v₁ hreplaced _
  have hjournaled : Journaled sdk L v₁ := by
    have hcell : fileCell v₁ .transaction = Cell.settled (some _) := hreplaced.2
    refine ⟨by rw [hcell]; rfl, ?_⟩
    rw [hcell, Cell.all_settled]
    exact htransaction
  refine quiet_observe .journalCommitted _ v₁ (hends' v₁ (Or.inl hjournaled)) ?_
  unfold writeState
  dsimp only
  rw [wp_bind]
  refine wp_atomicReplace
    (fun v' htouched => hends' v' (Or.inl (hjournaled.shrinks
      (shrinks_of_keeps htouched.1 (by simp))))) ?_
  intro v₂ hreplaced₂ _
  have hnone : Replayed sdk L [] v₁ := by
    intro _ h
    cases h
  have hwritten : Replayed sdk L [.active] v₂ := hnone.replaced hreplaced₂ hactive
  refine wp_writeRest hcodec hlimit hL quiet_observe
    (hjournaled.shrinks (shrinks_of_keeps hreplaced₂.1 (by simp))) hwritten hends' ?_
  intro v₃ hfinished
  exact quiet_observe .directorySynced _ v₃ (hends' v₃ (Or.inr hfinished)) (hok v₃ hfinished)

theorem requireDurableVersion_eq_ok
    {version : Nat} :
    sdk.requireDurableVersion version = .ok () ↔ version = sdk.durableSchemaVersion := by
  unfold NotificationSdk.requireDurableVersion
  split <;> simp_all

theorem wp_readDocuments
    {Q : Post NotificationFiles IoError (List NotificationDocument)}
    {name : NotificationFile} {documents : List NotificationDocument}
    (hholds : HoldsDocuments sdk documents (fileCell v name).current)
    (hends : Ends Q v)
    (hok : Q.ok documents v) :
    (readDocuments sdk name).wp A Q v := by
  unfold readDocuments readJson
  simp only [wp_bind]
  refine wp_readOptional hends ?_ ?_
  · intro bytes hcurrent
    rw [hcurrent] at hholds
    exact hholds.1
  · cases hcurrent : (fileCell v name).current with
    | none =>
        rw [hcurrent] at hholds
        cases hholds
        exact hok
    | some bytes =>
        rw [hcurrent] at hholds
        obtain ⟨_, hparse, hvalid⟩ := hholds
        simp only [wp_bind, hparse, orInvalidData]
        refine wp_orThrow_of_ok A rfl ?_
        simp only [wp_pure, wp_bind]
        refine wp_orThrow_of_ok A (requireDurableVersion_eq_ok.mpr rfl) ?_
        exact wp_orThrow_of_ok A hvalid hok

theorem wp_readPreferences
    {Q : Post NotificationFiles IoError Preferences} {preferences : Preferences}
    (hholds : HoldsPreferences sdk preferences (fileCell v .preferences).current)
    (hends : Ends Q v)
    (hok : Q.ok preferences v) :
    (readPreferences sdk).wp A Q v := by
  unfold readPreferences readJson
  simp only [wp_bind]
  refine wp_readOptional hends ?_ ?_
  · intro bytes hcurrent
    rw [hcurrent] at hholds
    exact hholds.1
  · cases hcurrent : (fileCell v .preferences).current with
    | none =>
        rw [hcurrent] at hholds
        cases hholds
        exact wp_orThrow_of_ok A (requireDurableVersion_eq_ok.mpr rfl) hok
    | some bytes =>
        rw [hcurrent] at hholds
        obtain ⟨_, hparse, hversion⟩ := hholds
        simp only [wp_bind, hparse, orInvalidData]
        refine wp_orThrow_of_ok A rfl ?_
        simp only [wp_pure]
        exact wp_orThrow_of_ok A (requireDurableVersion_eq_ok.mpr hversion) hok

/-- A replay that ends early leaves a directory that a later one recovers. -/
def CutShort (sdk : NotificationSdk) (T : StoreState → Prop) (v v' : NotificationFiles) : Prop :=
  Consistent sdk T v' ∧
    (Recoverable sdk T v →
      (fileCell v .transaction).current = none ∨ none ∉ (fileCell v .transaction).values →
      Recoverable sdk T v')

/-- The specification of `reconcile`. -/
theorem wp_reconcile
    {Q : Post NotificationFiles IoError Unit}
    (hcodec : sdk.RoundTrips)
    (hlimit : limit < maxDurableFileBytes)
    (hT : ∀ L, T L → Storable sdk limit L)
    (hconsistent : Consistent sdk T v)
    (hends : ∀ v', CutShort sdk T v v' → Ends Q v')
    (hok : ∀ L v', T L → Finished sdk L v' → Q.ok () v') :
    (reconcile sdk).wp A Q v := by
  have hself : Ends Q v := hends v ⟨hconsistent, fun h _ => h⟩
  unfold reconcile readJson
  simp only [wp_bind]
  refine wp_readOptional hself ?_ ?_
  · intro bytes hcurrent
    have hjournal := hconsistent.journals.current
    rw [hcurrent] at hjournal
    obtain ⟨L, _, hholds⟩ := hjournal.resolve_left (by simp)
    exact hholds.1
  cases hcurrent : (fileCell v .transaction).current with
  | none =>
      obtain ⟨L, hL, hfinished⟩ := hconsistent.idle hcurrent
      exact hok L v hL hfinished
  | some bytes =>
      have hjournal := hconsistent.journals.current
      rw [hcurrent] at hjournal
      obtain ⟨L, hL, _, hparse⟩ := hjournal.resolve_left (by simp)
      have hstorable := hT L hL
      obtain ⟨_, hactive, _, _⟩ := hstorable.holds hcodec hlimit
      have hends' : ∀ v', Journaled sdk L v' ∨ Finished sdk L v' → Ends Q v' := by
        rintro v' (hjournaled | hfinished)
        · exact hends v' ⟨hjournaled.consistent hL, fun _ _ => hjournaled.recoverable⟩
        · exact hends v' ⟨hfinished.consistent hL, fun _ _ => hfinished.recoverable hL⟩
      simp only [wp_bind, hparse, orInvalidData]
      refine wp_orThrow_of_ok A rfl ?_
      simp only [wp_pure, wp_bind]
      refine wp_orThrow_of_ok A (requireDurableVersion_eq_ok.mpr rfl) ?_
      refine wp_orThrow_of_ok A (requireDurableVersion_eq_ok.mpr hstorable.version) ?_
      refine wp_orThrow_of_ok A hstorable.active ?_
      refine wp_orThrow_of_ok A hstorable.archive ?_
      dsimp only
      unfold writeState
      rw [wp_bind]
      refine SecureDirectory.wp_atomicReplace ?_ ?_
      · intro v' htouched
        have hshrinks : (fileCell v .transaction).Shrinks (fileCell v' .transaction) :=
          shrinks_of_keeps htouched.1 (by simp)
        refine hends v' ⟨⟨hshrinks.2.1.trans hconsistent.torn, hshrinks.all hconsistent.journals,
          fun hnone => ?_⟩, fun _ hjournal hnone => ?_⟩
        · rw [hshrinks.1, hcurrent] at hnone
          cases hnone
        · rcases hjournal with hmissing | hpresent
          · rw [hcurrent] at hmissing
            cases hmissing
          · exact absurd (hshrinks.values_subset hnone) hpresent
      · intro v₁ hreplaced hsynced
        have hshrinks : (fileCell v .transaction).Shrinks (fileCell v₁ .transaction) :=
          shrinks_of_keeps hreplaced.1 (by simp)
        -- the directory is synced now, so the journal that was read can no longer be lost
        have hjournaled : Journaled sdk L v₁ := by
          have hcell : fileCell v₁ .transaction = Cell.settled (some bytes) := by
            show Cell.mk _ _ _ = Cell.mk _ _ _
            rw [hshrinks.1, hcurrent, hshrinks.2.1, hconsistent.torn,
              hsynced (.named .transaction)]
          refine ⟨by rw [hcell]; rfl, ?_⟩
          rw [hcell, Cell.all_settled]
          exact ⟨by assumption, hparse⟩
        have hnone : Replayed sdk L [] v := by
          intro _ h
          cases h
        have hwritten : Replayed sdk L [.active] v₁ := hnone.replaced hreplaced hactive
        exact wp_writeRest hcodec hlimit hstorable (fun _ => quiet_pure) hjournaled hwritten
          hends' fun v' hfinished => hok L v' hL hfinished

/-- The store that `open_with_limits` returns for a state. -/
def opened (capacity limit : Nat) (L : StoreState) (v : NotificationFiles) : NotificationStore :=
  ⟨v, capacity, limit, L.active, L.archive, L.preferences⟩

/-- The specification of `open_with_limits`. -/
theorem wp_openWithLimits
    {Q : Post NotificationFiles IoError NotificationStore} {capacity : Nat}
    (hcodec : sdk.RoundTrips)
    (hlimits : checkLimits capacity limit = .ok ())
    (hT : ∀ L, T L → Storable sdk limit L)
    (hconsistent : Consistent sdk T v)
    (hends : ∀ v', CutShort sdk T v v' → Ends Q v')
    (hok : ∀ L v', T L → Finished sdk L v' → Q.ok (opened capacity limit L v') v') :
    (openWithLimits sdk capacity limit).wp A Q v := by
  have hlimit := (checkLimits_eq_ok.mp hlimits).2.2
  unfold openWithLimits
  simp only [wp_bind, wp_orThrow]
  refine ⟨fun _ _ => ?_, fun e he => by rw [hlimits] at he; cases he⟩
  refine wp_reconcile hcodec hlimit hT hconsistent hends ?_
  intro L v₁ hL hfinished
  have hends₁ : Ends Q v₁ :=
    hends v₁ ⟨hfinished.consistent hL, fun _ _ => hfinished.recoverable hL⟩
  have hstorable := hT L hL
  refine wp_readDocuments (hfinished.1 .active (by simp)).current hends₁ ?_
  refine wp_readDocuments (hfinished.1 .archive (by simp)).current hends₁ ?_
  obtain ⟨preferences, hholds, hopened⟩ := (hfinished.1 .preferences (by simp)).current
  refine wp_readPreferences hholds hends₁ ?_
  have hpreferences : (⟨preferences.schemaVersion, preferences.dnd,
      max preferences.nextNotificationId
        (min (greatestId (notificationIds (L.active ++ L.archive)) + 1) maxCounter)⟩ :
      Preferences) = L.preferences := hopened
  simp only [hpreferences, validateUniqueIds_eq_ok.mpr hstorable.ids, hstorable.fits, wp_get,
    wp_pure]
  simpa [opened] using hok L v₁ hL hfinished

end Programs

end StoreState

end SleepySession
