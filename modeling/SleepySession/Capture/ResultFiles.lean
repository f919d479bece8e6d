import SleepySession.Capture.JobRuns

/-!
# Result files of captures

A file that the service has made belongs to a completed job of the table or to
the worker that has just published it.  This holds in every run that removes
what it means to remove; a Begin request that loses its memory file after it has
dropped an old job is the exception in the table itself.
-/

namespace SleepySession
namespace Capture

theorem resultName_injective : Function.Injective resultName := by
  intro a b h
  have hlist := congrArg String.toList h
  simpa [resultName, String.toList_append, String.toList_inj] using hlist

theorem removeKnown_self {files : Files} {name : String} {identity : Identity} {origin : Option Nat}
    (h : files name = some ⟨identity, true, origin⟩) :
    removeKnown files name identity true = Function.update files name none := by
  simp [removeKnown, h]

theorem final_holds (result : Except CaptureDiagnostic (Option (CapturePng × Identity))) :
    (Phase.final result).holds = publishedIdentity result := by
  match result with
  | .ok (some (png, identity)) => rfl
  | .ok none => rfl
  | .error _ => rfl

section Files

variable {s s' : CaptureService} {k : Nat} {w : Worker}

/-- How files, completed jobs and workers belong together. -/
structure CaptureService.Filed (s : CaptureService) : Prop where
  kept : ∀ e ∈ s.jobs, e.job.state = .completed →
    ∃ png identity, e.job.result = some png ∧
      png.path = s.path ++ "/" ++ resultName e.job.jobId ∧ e.identity = some identity ∧
      s.files (resultName e.job.jobId) = some ⟨identity, true, some e.serial⟩
  held : ∀ k w identity, s.workers k = some w → w.phase.holds = some identity →
    s.files (resultName w.id) = some ⟨identity, true, some k⟩
  traced : ∀ name node k, s.files name = some node → node.origin = some k →
    ∃ e ∈ s.jobs, e.serial = k ∧ name = resultName e.job.jobId ∧
      (e.job.state = .completed ∨ ∃ w, s.workers k = some w ∧ w.phase.holds ≠ none)
  addressed : ∀ k w png identity, s.workers k = some w →
    w.phase = .final (.ok (some (png, identity))) →
      png.path = s.path ++ "/" ++ resultName w.id
  snapshots : ∀ k w, s.workers k = some w → w.phase ≠ .withdrawing none

theorem CaptureService.Filed.frame {t : CaptureService}
    (hs : s.Filed) (hjobs : t.jobs = s.jobs) (hfiles : t.files = s.files)
    (hworkers : t.workers = s.workers) (hpath : t.path = s.path) : t.Filed := by
  obtain ⟨hkept, hheld, htraced, haddressed, hsnapshots⟩ := hs
  refine ⟨?_, ?_, ?_, ?_, ?_⟩
  · rw [hjobs, hfiles, hpath]
    exact hkept
  · rw [hworkers, hfiles]
    exact hheld
  · rw [hworkers, hfiles, hjobs]
    exact htraced
  · rw [hworkers, hpath]
    exact haddressed
  · rw [hworkers]
    exact hsnapshots

/-- A worker without a file has left no trace. -/
theorem CaptureService.Filed.untraced
    (hs : s.Filed) (ht : s.Tabled) (hw : s.workers k = some w) (hheld : w.phase.holds = none)
    {name : String} {node : FileNode} (hname : s.files name = some node) :
    node.origin ≠ some k := by
  intro horigin
  obtain ⟨e, he, hk, -, hcompleted | ⟨w', hw', hholds⟩⟩ := hs.traced name node k hname horigin
  · obtain ⟨e', he', hk', -, hact⟩ := ht.working k w hw
    obtain rfl := ht.eq_of_serial he he' (hk.trans hk'.symm)
    rw [hcompleted] at hact
    cases hact
  · rw [hw] at hw'
    cases hw'
    exact hholds hheld

/-- Only the worker that moves changes its phase. -/
theorem CaptureService.workers_of_setPhase {phase : Phase} {k' : Nat} {w' : Worker}
    (hw' : (s.setPhase k w phase).workers k' = some w') :
    (k' = k ∧ w' = ⟨w.id, phase⟩) ∨ (k' ≠ k ∧ s.workers k' = some w') := by
  by_cases hk : k' = k
  · subst hk
    refine Or.inl ⟨rfl, ?_⟩
    simpa [CaptureService.setPhase, eq_comm] using hw'
  · exact Or.inr ⟨hk, by simpa [CaptureService.setPhase, hk] using hw'⟩

/-- The files stay and a worker without a file goes on without one. -/
theorem CaptureService.Filed.setPhase
    (hs : s.Filed) (ht : s.Tabled) (hw : s.workers k = some w) (hheld : w.phase.holds = none)
    {phase : Phase} (hholds : phase.holds = none) (hsnapshot : phase ≠ .withdrawing none) :
    (s.setPhase k w phase).Filed := by
  refine ⟨hs.kept, fun k' w' identity hw' hidentity => ?_, fun name node k' hname horigin => ?_,
    fun k' w' png identity hw' hphase => ?_, fun k' w' hw' => ?_⟩
  · rcases CaptureService.workers_of_setPhase hw' with ⟨-, rfl⟩ | ⟨-, hold⟩
    · rw [hholds] at hidentity
      cases hidentity
    · exact hs.held k' w' identity hold hidentity
  · have hk : k' ≠ k := fun hk => hs.untraced ht hw hheld hname (hk ▸ horigin)
    obtain ⟨e, he, hserial, hresult, hcase⟩ := hs.traced name node k' hname horigin
    refine ⟨e, he, hserial, hresult, hcase.imp_right fun ⟨w', hw', hholds'⟩ => ?_⟩
    exact ⟨w', by simpa [CaptureService.setPhase, hk] using hw', hholds'⟩
  · rcases CaptureService.workers_of_setPhase hw' with ⟨-, rfl⟩ | ⟨-, hold⟩
    · rw [show phase = _ from hphase] at hholds
      cases hholds
    · exact hs.addressed k' w' png identity hold hphase
  · rcases CaptureService.workers_of_setPhase hw' with ⟨-, rfl⟩ | ⟨-, hold⟩
    · exact hsnapshot
    · exact hs.snapshots k' w' hold

theorem CaptureService.Filed.updateState
    (hs : s.Filed) (ht : s.Tabled) (hw : s.workers k = some w) :
    (s.updateState w.id .capturing).Filed := by
  have hjobs : (s.updateState w.id .capturing).jobs =
      s.jobs.map (updated w.id (setState .capturing)) := updateEntry_eq_map ht.ids
  have hsame : ∀ e ∈ s.jobs, (updated w.id (setState .capturing) e).job.state = .completed →
      updated w.id (setState .capturing) e = e := by
    intro e he hcompleted
    by_cases hid : e.job.jobId = w.id
    · rw [updated, if_pos hid] at hcompleted
      cases hcompleted
    · rw [updated, if_neg hid]
  refine ⟨fun e he hcompleted => ?_, hs.held, fun name node k' hname horigin => ?_, hs.addressed,
    hs.snapshots⟩
  · rw [hjobs] at he
    obtain ⟨old, hold, rfl⟩ := List.mem_map.mp he
    have heq := hsame old hold hcompleted
    rw [heq] at hcompleted ⊢
    exact hs.kept old hold hcompleted
  · obtain ⟨e, he, hserial, hresult, hcase⟩ := hs.traced name node k' hname horigin
    refine ⟨updated w.id (setState .capturing) e, hjobs ▸ List.mem_map_of_mem he,
      (updated_serial (f := setState .capturing) (fun _ => rfl) e).trans hserial, ?_, ?_⟩
    · rw [updated_jobId (f := setState .capturing) fun _ => rfl]
      exact hresult
    · refine hcase.imp_left fun hcompleted => ?_
      have hid : e.job.jobId ≠ w.id := fun hid => by
        have hact := (ht.entry_of_id hw he hid).2
        rw [hcompleted] at hact
        cases hact
      rw [updated, if_neg hid]
      exact hcompleted

theorem CaptureService.Tabled.completed_elsewhere
    (ht : s.Tabled) (hw : s.workers k = some w) {e : Entry} (he : e ∈ s.jobs)
    (hended : active e.job.state = false) :
    e.job.jobId ≠ w.id ∧ resultName e.job.jobId ≠ resultName w.id := by
  have hid : e.job.jobId ≠ w.id := fun hid => by
    rw [(ht.entry_of_id hw he hid).2] at hended
    cases hended
  exact ⟨hid, fun heq => hid (resultName_injective heq)⟩

theorem CaptureService.Tabled.worker_elsewhere
    (ht : s.Tabled) (hw : s.workers k = some w) {k' : Nat} {w' : Worker}
    (hw' : s.workers k' = some w') (hk : k' ≠ k) : resultName w'.id ≠ resultName w.id := by
  intro heq
  obtain ⟨e, he, hserial, hid, -⟩ := ht.working k' w' hw'
  have hsame := (ht.entry_of_id hw he (hid.trans (resultName_injective heq))).1
  exact hk (hserial.symm.trans hsame)

/-- The worker publishes the file of its job. -/
theorem CaptureService.Filed.published
    (hs : s.Filed) (ht : s.Tabled) (hw : s.workers k = some w) {phase : Phase}
    {identity : Identity} (hholds : phase.holds = some identity)
    (haddressed : ∀ png i, phase = .final (.ok (some (png, i))) →
      png.path = s.path ++ "/" ++ resultName w.id) :
    ({ s.setPhase k w phase with
      files := Function.update s.files (resultName w.id) (some ⟨identity, true, some k⟩) } :
      CaptureService).Filed := by
  refine ⟨fun e he hcompleted => ?_, fun k' w' i hw' hi => ?_, fun name node k' hname horigin => ?_,
    fun k' w' png i hw' hphase => ?_, fun k' w' hw' => ?_⟩
  · obtain ⟨png, i, hresult, hpath, hidentity, hfile⟩ := hs.kept e he hcompleted
    have hne := (ht.completed_elsewhere hw he (by rw [hcompleted]; rfl)).2
    exact ⟨png, i, hresult, hpath, hidentity, (Function.update_of_ne hne _ _).trans hfile⟩
  · by_cases hk : k' = k
    · subst hk
      obtain rfl : ⟨w.id, phase⟩ = w' := by simpa [CaptureService.setPhase] using hw'
      obtain rfl : identity = i := Option.some.inj (hholds.symm.trans hi)
      exact Function.update_self _ _ _
    · have hold : s.workers k' = some w' := by simpa [CaptureService.setPhase, hk] using hw'
      have hne := ht.worker_elsewhere hw hold hk
      exact (Function.update_of_ne hne _ _).trans (hs.held k' w' i hold hi)
  · by_cases hresult : name = resultName w.id
    · subst hresult
      obtain rfl : _ = node := by simpa using hname
      obtain rfl : k = k' := by simpa using horigin
      obtain ⟨e, he, hserial, hid, -⟩ := ht.working k w hw
      exact ⟨e, he, hserial, by rw [hid], Or.inr ⟨⟨w.id, phase⟩, Function.update_self _ _ _,
        by simp [hholds]⟩⟩
    · have hold : s.files name = some node := (Function.update_of_ne hresult _ _).symm.trans hname
      obtain ⟨e, he, hserial, hat, hcase⟩ := hs.traced name node k' hold horigin
      refine ⟨e, he, hserial, hat, hcase.imp_right ?_⟩
      rintro ⟨w', hw', hheld⟩
      by_cases hk : k' = k
      · subst hk
        exact ⟨⟨w.id, phase⟩, Function.update_self _ _ _, by simp [hholds]⟩
      · exact ⟨w', by simpa [CaptureService.setPhase, hk] using hw', hheld⟩
  · by_cases hk : k' = k
    · subst hk
      obtain rfl : ⟨w.id, phase⟩ = w' := by simpa [CaptureService.setPhase] using hw'
      exact haddressed png i hphase
    · exact hs.addressed k' w' png i (by simpa [CaptureService.setPhase, hk] using hw') hphase
  · by_cases hk : k' = k
    · subst hk
      obtain rfl : ⟨w.id, phase⟩ = w' := by simpa [CaptureService.setPhase] using hw'
      rintro (rfl : phase = _)
      cases hholds
    · exact hs.snapshots k' w' (by simpa [CaptureService.setPhase, hk] using hw')

/-- The file that a worker holds is removed. -/
theorem CaptureService.Filed.removed
    (hs : s.Filed) (ht : s.Tabled) (hw : s.workers k = some w) {identity : Identity}
    (hholds : w.phase.holds = some identity) :
    removeIfKnown s.files (resultName w.id) (some identity) true =
        Function.update s.files (resultName w.id) none ∧
      ∀ name node, Function.update s.files (resultName w.id) none name = some node →
        s.files name = some node ∧ node.origin ≠ some k := by
  refine ⟨removeKnown_self (hs.held k w identity hw hholds), fun name node hname => ?_⟩
  have hne : name ≠ resultName w.id := by
    rintro rfl
    simp at hname
  have hold : s.files name = some node := by rwa [Function.update_of_ne hne] at hname
  refine ⟨hold, fun horigin => hne ?_⟩
  obtain ⟨e, he, hk, hat, -⟩ := hs.traced name node k hold horigin
  obtain ⟨e', he', hk', hid, -⟩ := ht.working k w hw
  obtain rfl := ht.eq_of_serial he he' (hk.trans hk'.symm)
  rw [hat, hid]

theorem CaptureService.Filed.withdrawn
    (hs : s.Filed) (ht : s.Tabled) (hw : s.workers k = some w) {snapshot : Option Identity}
    (hphase : w.phase = .withdrawing snapshot) {phase : Phase} (hholds : phase.holds = none)
    (hsnapshot : phase ≠ .withdrawing none) :
    ({ s.setPhase k w phase with
      files := removeIfKnown s.files (resultName w.id) snapshot true } : CaptureService).Filed := by
  cases snapshot with
  | none => exact absurd hphase (hs.snapshots k w hw)
  | some identity =>
      have hheld : w.phase.holds = some identity := by rw [hphase]; rfl
      obtain ⟨hremove, hrest⟩ := hs.removed ht hw hheld
      rw [hremove]
      refine ⟨fun e he hcompleted => ?_, fun k' w' i hw' hi => ?_,
        fun name node k' hname horigin => ?_, fun k' w' png i hw' hfinal => ?_, fun k' w' hw' => ?_⟩
      · obtain ⟨png, i, hresult, hpath, hidentity, hfile⟩ := hs.kept e he hcompleted
        have hne := (ht.completed_elsewhere hw he (by rw [hcompleted]; rfl)).2
        exact ⟨png, i, hresult, hpath, hidentity, (Function.update_of_ne hne _ _).trans hfile⟩
      · rcases CaptureService.workers_of_setPhase hw' with ⟨-, rfl⟩ | ⟨hk, hold⟩
        · rw [hholds] at hi
          cases hi
        · exact (Function.update_of_ne (ht.worker_elsewhere hw hold hk) _ _).trans
            (hs.held k' w' i hold hi)
      · obtain ⟨hold, hother⟩ := hrest name node hname
        obtain ⟨e, he, hserial, hat, hcase⟩ := hs.traced name node k' hold horigin
        have hk : k' ≠ k := fun hk => hother (hk ▸ horigin)
        refine ⟨e, he, hserial, hat, hcase.imp_right fun ⟨w', hw', hheld'⟩ => ?_⟩
        exact ⟨w', by simpa [CaptureService.setPhase, hk] using hw', hheld'⟩
      · rcases CaptureService.workers_of_setPhase hw' with ⟨-, rfl⟩ | ⟨-, hold⟩
        · rw [show phase = _ from hfinal] at hholds
          cases hholds
        · exact hs.addressed k' w' png i hold hfinal
      · rcases CaptureService.workers_of_setPhase hw' with ⟨-, rfl⟩ | ⟨-, hold⟩
        · exact hsnapshot
        · exact hs.snapshots k' w' hold

/-- The worker is done and its job has the recorded result. -/
theorem CaptureService.Filed.concluded {t : CaptureService}
    {recorded : Except CaptureDiagnostic (Option (CapturePng × Identity))}
    (hs : s.Filed) (ht : s.Tabled) (hw : s.workers k = some w)
    (hjobs : t.jobs = s.jobs.map (updated w.id (conclude recorded)))
    (hworkers : t.workers = Function.update s.workers k none) (hpath : t.path = s.path)
    (hstay : ∀ name, name ≠ resultName w.id → t.files name = s.files name)
    (hgone : ∀ name node, t.files name = some node → s.files name = some node ∧
      (node.origin = some k → ∃ png identity, recorded = .ok (some (png, identity))))
    (hdone : ∀ png identity, recorded = .ok (some (png, identity)) →
      t.files (resultName w.id) = some ⟨identity, true, some k⟩ ∧
        png.path = s.path ++ "/" ++ resultName w.id) : t.Filed := by
  have hcases : ∀ k' w', t.workers k' = some w' → k' ≠ k ∧ s.workers k' = some w' := by
    intro k' w' hw'
    rw [hworkers] at hw'
    by_cases hk : k' = k
    · subst hk
      simp at hw'
    · exact ⟨hk, by rwa [Function.update_of_ne hk] at hw'⟩
  refine ⟨fun e' he' hcompleted => ?_, fun k' w' i hw' hi => ?_,
    fun name node k' hname horigin => ?_, fun k' w' png i hw' hphase => ?_, fun k' w' hw' => ?_⟩
  · rw [hjobs] at he'
    obtain ⟨e, he, rfl⟩ := List.mem_map.mp he'
    by_cases hid : e.job.jobId = w.id
    · rw [updated, if_pos hid] at hcompleted ⊢
      obtain ⟨hk, -⟩ := ht.entry_of_id hw he hid
      rcases recorded with _ | (_ | ⟨png, i⟩)
      · cases hcompleted
      · cases hcompleted
      · obtain ⟨hfile, haddress⟩ := hdone png i rfl
        refine ⟨png, i, rfl, ?_, rfl, ?_⟩
        · rw [hpath, haddress, conclude_jobId, hid]
        · rw [conclude_jobId, conclude_serial, hid, hk]
          exact hfile
    · rw [updated, if_neg hid] at hcompleted ⊢
      obtain ⟨png, i, hresult, haddress, hidentity, hfile⟩ := hs.kept e he hcompleted
      have hne : resultName e.job.jobId ≠ resultName w.id := fun h => hid (resultName_injective h)
      exact ⟨png, i, hresult, by rw [hpath]; exact haddress, hidentity, (hstay _ hne).trans hfile⟩
  · obtain ⟨hk, hold⟩ := hcases k' w' hw'
    exact (hstay _ (ht.worker_elsewhere hw hold hk)).trans (hs.held k' w' i hold hi)
  · obtain ⟨hold, hown⟩ := hgone name node hname
    obtain ⟨e, he, hserial, hat, hcase⟩ := hs.traced name node k' hold horigin
    refine ⟨updated w.id (conclude recorded) e, hjobs ▸ List.mem_map_of_mem he,
      (updated_serial (conclude_serial _) e).trans hserial, ?_, ?_⟩
    · rw [updated_jobId (conclude_jobId _)]
      exact hat
    · by_cases hk : k' = k
      · obtain ⟨e₀, he₀, hk₀, hid, -⟩ := ht.working k w hw
        obtain rfl := ht.eq_of_serial he he₀ (hserial.trans (hk.trans hk₀.symm))
        obtain ⟨png, i, hrecorded⟩ := hown (hk ▸ horigin)
        rw [updated, if_pos hid, hrecorded]
        exact Or.inl rfl
      · have hid : e.job.jobId ≠ w.id := fun hid =>
          hk (hserial.symm.trans (ht.entry_of_id hw he hid).1)
        rw [updated, if_neg hid]
        refine hcase.imp_right ?_
        rintro ⟨w', hw', hheld⟩
        refine ⟨w', ?_, hheld⟩
        rw [hworkers, Function.update_of_ne hk]
        exact hw'
  · obtain ⟨-, hold⟩ := hcases k' w' hw'
    rw [hpath]
    exact hs.addressed k' w' png i hold hphase
  · exact hs.snapshots k' w' (hcases k' w' hw').2

theorem CaptureService.Filed.finish
    (hs : s.Filed) (ht : s.Tabled) (hw : s.workers k = some w)
    {result : Except CaptureDiagnostic (Option (CapturePng × Identity))}
    (hphase : w.phase = .final result) : (s.finish k w result true).Filed := by
  obtain ⟨hjobs, hworkers, -, -⟩ := CaptureService.finish_jobs (k := k) (w := w) ht result true
  have hpath : (s.finish k w result true).path = s.path := by
    unfold CaptureService.finish
    dsimp only
    split <;> rfl
  have hheld : w.phase.holds = publishedIdentity result := by
    rw [hphase]
    exact final_holds result
  by_cases htoken : s.tokens k = true
  · have hrecorded : s.recorded k result = .ok none := if_pos htoken
    have hfiles : (s.finish k w result true).files =
        removeIfKnown s.files (resultName w.id) (publishedIdentity result) true := by
      simp only [CaptureService.finish, if_pos htoken]
    rw [hrecorded] at hjobs
    cases hidentity : publishedIdentity result with
    | none =>
        have hsame : (s.finish k w result true).files = s.files := by rw [hfiles, hidentity]; rfl
        refine hs.concluded ht hw hjobs hworkers hpath (fun name _ => by rw [hsame])
          (fun name node hname => ?_) fun _ _ h => by cases h
        rw [hsame] at hname
        exact ⟨hname, fun horigin =>
          (hs.untraced ht hw (hheld.trans hidentity) hname horigin).elim⟩
    | some identity =>
        obtain ⟨hremove, hrest⟩ := hs.removed ht hw (hheld.trans hidentity)
        rw [hidentity, hremove] at hfiles
        refine hs.concluded ht hw hjobs hworkers hpath (fun name hne => ?_)
          (fun name node hname => ?_) fun _ _ h => by cases h
        · rw [hfiles, Function.update_of_ne hne]
        · rw [hfiles] at hname
          obtain ⟨hold, hother⟩ := hrest name node hname
          exact ⟨hold, fun horigin => (hother horigin).elim⟩
  · have hrecorded : s.recorded k result = result := if_neg htoken
    have hfiles : (s.finish k w result true).files = s.files := by
      simp only [CaptureService.finish, if_neg htoken]
    rw [hrecorded] at hjobs
    refine hs.concluded ht hw hjobs hworkers hpath (fun name _ => by rw [hfiles])
      (fun name node hname => ?_) fun png identity hok => ?_
    · rw [hfiles] at hname
      refine ⟨hname, fun horigin => ?_⟩
      by_contra hnone
      refine hs.untraced ht hw (hheld.trans ?_) hname horigin
      rcases result with _ | (_ | ⟨png, identity⟩)
      · rfl
      · rfl
      · exact absurd ⟨png, identity, rfl⟩ hnone
    · have hidentity : w.phase.holds = some identity := by rw [hphase, hok]; rfl
      rw [hfiles]
      exact ⟨hs.held k w identity hw hidentity, hs.addressed k w png identity hw (hok ▸ hphase)⟩

theorem removeIfKnown_cases (files : Files) (name : String) (identity : Option Identity)
    (works : Bool) :
    removeIfKnown files name identity works = files ∨
      removeIfKnown files name identity works = Function.update files name none := by
  cases identity with
  | none => exact Or.inl rfl
  | some identity =>
      change removeKnown files name identity works = files ∨
        removeKnown files name identity works = Function.update files name none
      unfold removeKnown
      cases files name with
      | none => exact Or.inl rfl
      | some node =>
          dsimp only
          split
          · exact Or.inr rfl
          · exact Or.inl rfl

theorem removeIfKnown_other {files : Files} {name other : String} {identity : Option Identity}
    {works : Bool} (h : other ≠ name) :
    removeIfKnown files name identity works other = files other := by
  rcases removeIfKnown_cases files name identity works with heq | heq
  · rw [heq]
  · rw [heq, Function.update_of_ne h]

theorem removeIfKnown_some {files : Files} {name other : String} {identity : Option Identity}
    {works : Bool} {node : FileNode}
    (h : removeIfKnown files name identity works other = some node) :
    files other = some node := by
  rcases removeIfKnown_cases files name identity works with heq | heq
  · rwa [heq] at h
  · rw [heq] at h
    by_cases hother : other = name
    · subst hother
      simp at h
    · rwa [Function.update_of_ne hother] at h

theorem CaptureService.Tabled.no_worker
    (ht : s.Tabled) (hidle : ∀ e ∈ s.jobs, active e.job.state = false) (k : Nat) (w : Worker) :
    s.workers k ≠ some w := by
  intro hw
  obtain ⟨e, he, -, -, hact⟩ := ht.working k w hw
  rw [hidle e he] at hact
  cases hact

/-- The oldest job leaves the table together with its file. -/
theorem CaptureService.Filed.evictOldest
    (hs : s.Filed) (ht : s.Tabled) (hidle : ∀ e ∈ s.jobs, active e.job.state = false)
    {old : Entry} {rest : List Entry} (hjobs : s.jobs = old :: rest) :
    ({ s with
      jobs := rest
      files := removeIfKnown s.files (resultName old.job.jobId) old.identity true } :
      CaptureService).Filed := by
  have hmem : ∀ e ∈ rest, e ∈ s.jobs := fun e he => hjobs ▸ List.mem_cons_of_mem _ he
  have hnew : ∀ e ∈ rest, e.job.jobId ≠ old.job.jobId := by
    have hids := ht.ids
    rw [hjobs, List.map_cons, List.nodup_cons] at hids
    exact fun e he heq => hids.1 (heq ▸ List.mem_map_of_mem he)
  refine ⟨fun e he hcompleted => ?_, fun k w i hw => (ht.no_worker hidle k w hw).elim,
    fun name node k hname horigin => ?_, fun k w png i hw => (ht.no_worker hidle k w hw).elim,
    fun k w hw => (ht.no_worker hidle k w hw).elim⟩
  · obtain ⟨png, i, hresult, hpath, hidentity, hfile⟩ := hs.kept e (hmem e he) hcompleted
    have hne : resultName e.job.jobId ≠ resultName old.job.jobId := fun h =>
      hnew e he (resultName_injective h)
    exact ⟨png, i, hresult, hpath, hidentity, (removeIfKnown_other hne).trans hfile⟩
  · obtain ⟨e, he, hserial, hat, hcompleted | ⟨w, hw, -⟩⟩ :=
      hs.traced name node k (removeIfKnown_some hname) horigin
    · rw [hjobs] at he
      rcases List.mem_cons.mp he with rfl | he
      · -- the file of the old job has just been removed
        obtain ⟨png, i, -, -, hidentity, hfile⟩ :=
          hs.kept e (hjobs ▸ List.mem_cons_self) hcompleted
        dsimp only at hname
        rw [hidentity, hat] at hname
        rw [show removeIfKnown s.files _ (some i) true = _ from removeKnown_self hfile,
          Function.update_self] at hname
        cases hname
      · exact ⟨e, he, hserial, hat, Or.inl hcompleted⟩
    · exact (ht.no_worker hidle k w hw).elim

theorem CaptureService.Filed.evict
    (hs : s.Filed) (ht : s.Tabled) (hidle : ∀ e ∈ s.jobs, active e.job.state = false)
    {removable : String → Bool} (hremovable : ∀ name, removable name = true) :
    ({ s with
      jobs := (Capture.evict removable s.jobs s.files).1
      files := (Capture.evict removable s.jobs s.files).2 } : CaptureService).Filed := by
  rcases ht.history.lt_or_eq with hlt | hfull
  · rw [evict_short hlt]
    exact hs
  · cases hjobs : s.jobs with
    | nil =>
        rw [hjobs] at hfull
        cases hfull
    | cons old rest =>
        rw [hjobs] at hfull
        rw [evict_full hfull, hremovable]
        exact hs.evictOldest ht hidle hjobs

theorem CaptureService.Filed.spawn
    (hs : s.Filed) (ht : s.Tabled) (hidle : ∀ e ∈ s.jobs, active e.job.state = false)
    (id output : String) : (s.spawn id output).Filed := by
  have hcases : ∀ k w, (s.spawn id output).workers k = some w → w = ⟨id, .spawning⟩ := by
    intro k w hw
    by_cases hk : k = s.begun
    · subst hk
      simpa [CaptureService.spawn, eq_comm] using hw
    · exact (ht.no_worker hidle k w (by simpa [CaptureService.spawn, hk] using hw)).elim
  refine ⟨fun e he hcompleted => ?_, fun k w i hw hi => ?_, fun name node k hname horigin => ?_,
    fun k w png i hw hphase => ?_, fun k w hw => ?_⟩
  · rcases List.mem_append.mp he with he | he
    · exact hs.kept e he hcompleted
    · rw [List.mem_singleton.mp he] at hcompleted
      cases hcompleted
  · rw [hcases k w hw] at hi
    cases hi
  · obtain ⟨e, he, hserial, hat, hcompleted | ⟨w, hw, -⟩⟩ := hs.traced name node k hname horigin
    · exact ⟨e, List.mem_append_left _ he, hserial, hat, Or.inl hcompleted⟩
    · exact (ht.no_worker hidle k w hw).elim
  · rw [hcases k w hw] at hphase
    cases hphase
  · rw [hcases k w hw]
    simp

theorem CaptureService.Filed.advanced {event : WorkerEvent}
    (hs : s.Filed) (ht : s.Tabled) (hw : s.workers k = some w)
    (hcareful : Careful s (.worker k event)) (h : Advanced s k w event s') : s'.Filed := by
  cases h with
  | moved hheld hholds hsnapshot => exact hs.setPhase ht hw hheld hholds hsnapshot
  | @capturing _ phase hheld hholds hsnapshot =>
      have hmoved : (s.setPhase k w phase).workers k = some { w with phase := phase } :=
        Function.update_self _ _ _
      exact CaptureService.Filed.updateState (w := ⟨w.id, phase⟩)
        (hs.setPhase ht hw hheld hholds hsnapshot) (ht.setPhase hw phase) hmoved
  | left => cases hcareful
  | @published _ phase identity hfree hphase =>
      rcases hphase with ⟨snapshot, rfl, rfl⟩ | ⟨width, height, rfl⟩
      · have hsnapshot : snapshot = true := hcareful
        rw [hsnapshot]
        exact hs.published ht hw rfl fun png i h => by cases h
      · exact hs.published ht hw rfl fun png i h => by cases h; rfl
  | withdrawn hphase =>
      have hworks : _ = true := hcareful
      rw [hworks]
      exact hs.withdrawn ht hw hphase rfl (by simp)
  | finished hphase =>
      have hworks : _ = true := hcareful
      rw [hworks]
      exact hs.finish ht hw hphase

theorem CaptureService.Filed.after {step : CaptureStep}
    (hs : s.Filed) (ht : s.Tabled) (hcareful : Careful s step) (h : s.after step = some s') :
    s'.Filed := by
  cases step with
  | status id =>
      cases h
      exact hs
  | cancel id =>
      cases h
      unfold CaptureService.cancel
      split
      · exact hs
      · split
        · split
          · exact hs.frame rfl rfl rfl rfl
          · exact hs
        · exact hs
  | begin id output answers =>
      obtain ⟨hmemory, hremovable⟩ := hcareful
      have hbegun := s.begin_cases id output answers
      cases h
      generalize s.begin id output answers = reply at hbegun ⊢
      cases hbegun with
      | refused => exact hs
      | repeated => exact hs
      | evicted hmemfd hidle => exact hs.evict ht hidle hremovable
      | spawned hnew hidle hfree =>
          obtain ⟨hevicted, hmem⟩ := ht.evict hidle answers.removable
          exact (hs.evict ht hidle hremovable).spawn hevicted (fun e he => hidle e (hmem e he))
            id output
  | shutdown =>
      cases h
      exact hs.frame rfl rfl rfl rfl
  | worker k event =>
      obtain ⟨w, hw, hadvance⟩ := Option.bind_eq_some_iff.mp h
      exact hs.advanced ht hw hcareful (CaptureService.advance_cases hadvance)

theorem CaptureService.IsNew.filed (h : s.IsNew) : s.Filed := by
  obtain ⟨hjobs, -, hworkers, hfiles, -⟩ := h
  refine ⟨fun e he => ?_, fun k w i hw => ?_, fun name node k hname horigin => ?_,
    fun k w png i hw => ?_, fun k w hw => ?_⟩
  · rw [hjobs] at he
    cases he
  · rw [hworkers] at hw
    cases hw
  · rw [hfiles name node hname] at horigin
    cases horigin
  · rw [hworkers] at hw
    cases hw
  · rw [hworkers] at hw
    cases hw

/-- A Begin request that is answered with an error changes nothing, if it is careful. -/
theorem CaptureService.begin_error {id output : String} {answers : BeginAnswers}
    {diagnostic : CaptureDiagnostic} (hcareful : Careful s (.begin id output answers))
    (h : (s.begin id output answers).1 = .error diagnostic) :
    (s.begin id output answers).2 = s := by
  have hbegun := s.begin_cases id output answers
  generalize s.begin id output answers = reply at hbegun h ⊢
  cases hbegun with
  | refused => rfl
  | repeated => cases h
  | evicted hmemfd hidle =>
      rcases hcareful.1 with hmemory | hroom
      · rw [hmemory] at hmemfd
        cases hmemfd
      · rw [evict_short hroom]
  | spawned => cases h

/-- What table and files look like at any time. -/
structure CaptureService.Consistent (s : CaptureService) : Prop where
  oneActive : ∀ e ∈ s.jobs, ∀ e' ∈ s.jobs, active e.job.state = true →
    active e'.job.state = true → e = e'
  history : s.jobs.length ≤ HISTORY
  ids : (s.jobs.map fun e => e.job.jobId).Nodup
  completed : ∀ e ∈ s.jobs, e.job.state = .completed →
    ∃ png node, e.job.result = some png ∧ png.path = s.path ++ "/" ++ resultName e.job.jobId ∧
      s.files (resultName e.job.jobId) = some node ∧ node.origin = some e.serial
  remains : ∀ name node k, s.files name = some node → node.origin = some k →
    ∃ e ∈ s.jobs, e.serial = k ∧ (e.job.state = .completed ∨ active e.job.state = true)

theorem CaptureService.Filed.consistent (hs : s.Filed) (ht : s.Tabled) : s.Consistent where
  oneActive := ht.oneActive
  history := ht.history
  ids := ht.ids
  completed e he hcompleted := by
    obtain ⟨png, identity, hresult, hpath, -, hfile⟩ := hs.kept e he hcompleted
    exact ⟨png, _, hresult, hpath, hfile, rfl⟩
  remains name node k hname horigin := by
    obtain ⟨e, he, hserial, -, hcompleted | ⟨w, hw, -⟩⟩ := hs.traced name node k hname horigin
    · exact ⟨e, he, hserial, Or.inl hcompleted⟩
    · obtain ⟨e', he', hserial', -, hact⟩ := ht.working k w hw
      exact ⟨e', he', hserial', Or.inr hact⟩

/-- A cancelled token of an active job leads to no end but cancellation. -/
theorem CaptureService.Tabled.ends_cancelled {t : CaptureService}
    (hs : s.Tabled) (h : Leads s t) {e : Entry} (he : e ∈ s.jobs)
    (hact : active e.job.state = true) (htoken : s.tokens e.serial = true) :
    ∀ e' ∈ t.jobs, e'.serial = e.serial →
      active e'.job.state = true ∨ e'.job.state = .cancelled := by
  intro e' he' hserial
  obtain ⟨-, -, hfollows⟩ := hs.follows_run h
  exact ((hfollows e he e' he' hserial).cancelled hact htoken).imp_left And.left

theorem CaptureService.Tabled.cancel_token
    (hs : s.Tabled) {id : String} (hrunning : s.stopping = false) {e : Entry} (he : e ∈ s.jobs)
    (hid : e.job.jobId = id) (hact : active e.job.state = true) :
    (s.cancel id).2.jobs = s.jobs ∧ (s.cancel id).2.tokens e.serial = true := by
  have hfind : s.find id = some e := by
    cases hfound : s.find id with
    | none => exact absurd hid (CaptureService.find_none hfound e he)
    | some e' =>
        have hid' : e'.job.jobId = id := by simpa using List.find?_some hfound
        rw [hs.eq_of_id (List.mem_of_find?_eq_some hfound) he (hid'.trans hid.symm)]
  simp only [CaptureService.cancel, hrunning, hfind, hact, if_true]
  exact ⟨rfl, Function.update_self _ _ _⟩

/--
In runs whose removals work, whose publications leave a snapshot and whose Begin
requests get their memory file when the history is full: table and files are
consistent, a Begin request answered with an error has changed nothing, an ended
job stays as it is, and a job that is cancelled, or active at the shutdown, does
not end in another way.
-/
theorem capture_jobs (h : (captureSystem.restrict Careful).Reachable s) :
    s.Consistent ∧
    (∀ id output answers diagnostic, Careful s (.begin id output answers) →
      (s.begin id output answers).1 = .error diagnostic →
        (s.begin id output answers).2 = s) ∧
    (∀ t, Leads s t → ∀ e ∈ s.jobs, active e.job.state = false →
      ∀ e' ∈ t.jobs, e'.serial = e.serial → e' = e) ∧
    (∀ id t, s.stopping = false → Leads (s.cancel id).2 t → ∀ e ∈ s.jobs, e.job.jobId = id →
      active e.job.state = true → ∀ e' ∈ t.jobs, e'.serial = e.serial →
        active e'.job.state = true ∨ e'.job.state = .cancelled) ∧
    ∀ t, Leads s.shutdown t → ∀ e ∈ s.jobs, active e.job.state = true →
      ∀ e' ∈ t.jobs, e'.serial = e.serial →
        active e'.job.state = true ∨ e'.job.state = .cancelled := by
  have hs : s.Tabled ∧ s.Filed := by
    refine h.invariant (I := fun s => s.Tabled ∧ s.Filed) (fun s hs => ?_)
      fun s step s' hs hstep => ?_
    · exact ⟨CaptureService.IsNew.tabled hs, CaptureService.IsNew.filed hs⟩
    · exact ⟨hs.1.after hstep.2, hs.2.after hs.1 hstep.1 hstep.2⟩
  obtain ⟨ht, hf⟩ := hs
  refine ⟨hf.consistent ht, fun id output answers diagnostic hcareful herror =>
    CaptureService.begin_error hcareful herror, fun t hrun e he hended e' he' hserial => ?_,
    fun id t hrunning hrun e he hid hact => ?_, fun t hrun e he hact => ?_⟩
  · exact ((ht.follows_run hrun).2.2 e he e' he' hserial).ended hended
  · obtain ⟨hjobs, htoken⟩ := ht.cancel_token hrunning he hid hact
    have hstep : s.after (.cancel id) = some (s.cancel id).2 := rfl
    have hcancelled := ht.after hstep
    exact hcancelled.ends_cancelled hrun (hjobs ▸ he) hact htoken
  · have hstep : s.after .shutdown = some s.shutdown := rfl
    have hstopped := ht.after hstep
    refine hstopped.ends_cancelled hrun he hact ?_
    simp only [CaptureService.shutdown, Bool.or_eq_true, List.any_eq_true, beq_iff_eq]
    exact Or.inr ⟨e, he, rfl⟩

end Files

section Sample

def sampleAnswers : BeginAnswers where
  metadata := true
  removable := fun _ => true
  memfd := true

def sampleService : CaptureService where
  path := "/run/user/1000/sleepy/captures"
  helper := some "sleepy-capture-job-helper"
  jobs := []
  stopping := false
  files := fun _ => none
  workers := fun _ => none
  tokens := fun _ => false
  begun := 0

/-- A job whose image is published. -/
def completedJob (id : String) (k : Nat) : List CaptureStep :=
  [.begin id "output:DP-1" sampleAnswers, .worker k .spawned,
    .worker k (.line (some (.ok (some ⟨.capturing, none⟩)))),
    .worker k (.line (some (.ok (some ⟨.completed, none⟩)))), .worker k (.line none),
    .worker k (.exited true), .worker k (.reaped (some true)),
    .worker k (.published (1, k) 1920 1080), .worker k (.finished true)]

theorem isNew_sampleService : sampleService.IsNew :=
  ⟨rfl, rfl, rfl, (fun name node h => by cases h), rfl⟩

/-- The ids of sixteen jobs. -/
def sampleId (n : Nat) : String :=
  String.singleton (Nat.digitChar n) ++ "0000000-0000-4000-8000-000000000000"

/-- One job has its file, another is taking its image. -/
def twoJobs : List CaptureStep :=
  completedJob (sampleId 0) 0 ++
    [.begin (sampleId 1) "output:DP-1" sampleAnswers, .worker 1 .spawned,
      .worker 1 (.line (some (.ok (some ⟨.capturing, none⟩))))]

theorem capture_jobs_sample :
    ∃ s : CaptureService, System.replay CaptureService.after sampleService twoJobs = some s ∧
      s.jobs.map (·.job.state) = [.completed, .capturing] ∧ s.Consistent ∧
      (∀ t, Leads s t → ∀ e ∈ s.jobs, e.job.state = .completed → ∀ e' ∈ t.jobs,
        e'.serial = e.serial → e' = e) ∧
      ∀ t, Leads (s.cancel (sampleId 1)).2 t → ∀ e ∈ s.jobs, e.job.jobId = sampleId 1 →
        e.job.state = .capturing → ∀ e' ∈ t.jobs, e'.serial = e.serial →
          active e'.job.state = true ∨ e'.job.state = .cancelled := by
  have hrun : ((System.replay CaptureService.after sampleService twoJobs).any fun s =>
      s.jobs.map (·.job.state) = [.completed, .capturing] ∧ s.stopping = false) = true := by
    decide
  obtain ⟨s, hs, hend⟩ := (Option.any_eq_true _ _).mp hrun
  obtain ⟨hstates, hrunning⟩ := of_decide_eq_true hend
  have hmeet : System.AllMeet CaptureService.after Careful sampleService twoJobs := by
    simp [twoJobs, completedJob, System.AllMeet, Careful, sampleAnswers]
  have hreachable : (captureSystem.restrict Careful).Reachable s :=
    System.reachable_restrict_replay (.initial isNew_sampleService) hmeet hs
  obtain ⟨hconsistent, -, hended, hcancelled, -⟩ := capture_jobs hreachable
  refine ⟨s, hs, hstates, hconsistent, fun t hrun e he hstate => ?_,
    fun t hrun e he hid hstate => ?_⟩
  · exact hended t hrun e he (by rw [hstate]; rfl)
  · exact hcancelled _ t hrunning hrun e he hid (by rw [hstate]; rfl)

/-- As many completed jobs as the history holds. -/
def fullHistory : List CaptureStep :=
  (List.range HISTORY).flatMap fun n => completedJob (sampleId n) n

def newId : String :=
  "00000000-0000-4000-8000-000000000010"

/-- Without a memory file the Begin request fails, and the oldest job is gone with its file. -/
theorem begin_without_memfd :
    ∃ s : CaptureService, captureSystem.Reachable s ∧
      (s.begin newId "output:DP-1" { sampleAnswers with memfd := false }).1 =
        failure .unavailable "Capture memory file could not be created" ∧
      (s.begin newId "output:DP-1" { sampleAnswers with memfd := false }).2.jobs ≠ s.jobs ∧
      (s.files (resultName (sampleId 0))).isSome = true ∧
      (s.begin newId "output:DP-1" { sampleAnswers with memfd := false }).2.files
        (resultName (sampleId 0)) = none := by
  have hrun : ((System.replay CaptureService.after sampleService fullHistory).any fun s =>
      (s.begin newId "output:DP-1" { sampleAnswers with memfd := false }).1 =
        failure .unavailable "Capture memory file could not be created" ∧
      (s.begin newId "output:DP-1" { sampleAnswers with memfd := false }).2.jobs ≠ s.jobs ∧
      (s.files (resultName (sampleId 0))).isSome = true ∧
      (s.begin newId "output:DP-1" { sampleAnswers with memfd := false }).2.files
        (resultName (sampleId 0)) = none) = true := by
    decide +kernel
  obtain ⟨s, hs, hend⟩ := (Option.any_eq_true _ _).mp hrun
  exact ⟨s, System.reachable_replay (.initial isNew_sampleService) hs, of_decide_eq_true hend⟩

end Sample

end Capture
end SleepySession
