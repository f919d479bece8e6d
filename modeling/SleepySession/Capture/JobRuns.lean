import SleepySession.Capture.Jobs

/-!
# Runs of the capture service

The table keeps its shape in every run: unique jobs in the order of their begin,
at most one of them active, and exactly the active one has a worker.  A job that
has ended stays as it is, and a cancelled one ends cancelled.  Table and files
belong together as long as the removals of the service work and a Begin request
that has dropped an old job does not fail afterwards.
-/

namespace SleepySession
namespace Capture

section Entries

variable {l : List Entry} {id : String} {f : Entry → Entry}

/-- What an update does to the entry of a job. -/
def updated (id : String) (f : Entry → Entry) (e : Entry) : Entry :=
  if e.job.jobId = id then f e else e

theorem updateEntry_eq_map (hids : (l.map fun e => e.job.jobId).Nodup) :
    updateEntry id f l = l.map (updated id f) := by
  induction l with
  | nil => rfl
  | cons e rest ih =>
      obtain ⟨hnew, hrest⟩ := List.nodup_cons.mp hids
      by_cases he : e.job.jobId = id
      · have hothers : rest.map (updated id f) = rest := by
          conv_rhs => rw [← List.map_id rest]
          refine List.map_congr_left fun x hx => if_neg fun hid => hnew ?_
          exact List.mem_map.mpr ⟨x, hx, hid.trans he.symm⟩
        simp [updateEntry, updated, he, hothers]
      · simp [updateEntry, updated, he, ih hrest]

theorem evict_short {removable : String → Bool} {files : Files} (h : l.length < HISTORY) :
    evict removable l files = (l, files) := by
  cases l with
  | nil => rfl
  | cons old rest => rw [evict, if_neg (by omega)]

theorem evict_full {removable : String → Bool} {files : Files} {old : Entry} {rest : List Entry}
    (h : (old :: rest).length = HISTORY) :
    evict removable (old :: rest) files =
      (rest, removeIfKnown files (resultName old.job.jobId) old.identity
        (removable (resultName old.job.jobId))) := by
  rw [evict, if_pos h.ge, evict_short (by simp at h; omega)]

theorem evict_suffix {removable : String → Bool} {files : Files} (h : l.length ≤ HISTORY) :
    (evict removable l files).1 <:+ l ∧ (evict removable l files).1.length < HISTORY := by
  rcases h.lt_or_eq with hlt | hfull
  · rw [evict_short hlt]
    exact ⟨List.suffix_refl l, hlt⟩
  · cases l with
    | nil => cases hfull
    | cons old rest =>
        rw [evict_full hfull]
        refine ⟨List.suffix_cons old rest, ?_⟩
        simp at hfull
        simp
        omega

end Entries

section Shape

variable {s s' : CaptureService} {k : Nat} {w : Worker}

/-- The shape of the table and of the workers. -/
structure CaptureService.Tabled (s : CaptureService) : Prop where
  serials : s.jobs.Pairwise fun a b => a.serial < b.serial
  below : ∀ e ∈ s.jobs, e.serial < s.begun
  ids : (s.jobs.map fun e => e.job.jobId).Nodup
  history : s.jobs.length ≤ HISTORY
  attended : ∀ e ∈ s.jobs, active e.job.state = true → ∃ w, s.workers e.serial = some w
  working : ∀ k w, s.workers k = some w →
    ∃ e ∈ s.jobs, e.serial = k ∧ e.job.jobId = w.id ∧ active e.job.state = true
  oneActive : ∀ e ∈ s.jobs, ∀ e' ∈ s.jobs, active e.job.state = true →
    active e'.job.state = true → e = e'

theorem CaptureService.Tabled.eq_of_id (hs : s.Tabled) {e e' : Entry}
    (he : e ∈ s.jobs) (he' : e' ∈ s.jobs) (h : e.job.jobId = e'.job.jobId) : e = e' :=
  List.inj_on_of_nodup_map hs.ids he he' h

theorem CaptureService.Tabled.eq_of_serial (hs : s.Tabled) {e e' : Entry}
    (he : e ∈ s.jobs) (he' : e' ∈ s.jobs) (h : e.serial = e'.serial) : e = e' := by
  have hserials : (s.jobs.map Entry.serial).Nodup :=
    List.pairwise_map.mpr (hs.serials.imp fun h => h.ne)
  exact List.inj_on_of_nodup_map hserials he he' h

/-- The file that a worker has published and not yet handed over. -/
def Phase.holds : Phase → Option Identity
  | .withdrawing snapshot => snapshot
  | .final (.ok (some (_, identity))) => some identity
  | _ => none

/-- What the step of a worker can do. -/
inductive Advanced (s : CaptureService) (k : Nat) (w : Worker) :
    WorkerEvent → CaptureService → Prop where
  | moved {event : WorkerEvent} {phase : Phase}
      (hheld : w.phase.holds = none) (hholds : phase.holds = none)
      (hsnapshot : phase ≠ .withdrawing none) :
      Advanced s k w event (s.setPhase k w phase)
  | capturing {event : WorkerEvent} {phase : Phase}
      (hheld : w.phase.holds = none) (hholds : phase.holds = none)
      (hsnapshot : phase ≠ .withdrawing none) :
      Advanced s k w event ((s.setPhase k w phase).updateState w.id .capturing)
  | left {temporary : String} {files : Files} (hheld : w.phase.holds = none) :
      Advanced s k w (.notPublished (some temporary))
        { s.setPhase k w (.final (.error notPng)) with files := files }
  | published {event : WorkerEvent} {phase : Phase} {identity : Identity}
      (hfree : s.files (resultName w.id) = none)
      (hphase : (∃ snapshot, event = .publishedWithError identity snapshot ∧
          phase = .withdrawing (if snapshot then some identity else none)) ∨
        ∃ width height, phase = .final (.ok (some (s.pngOf w.id width height, identity)))) :
      Advanced s k w event { s.setPhase k w phase with
        files := Function.update s.files (resultName w.id) (some ⟨identity, true, some k⟩) }
  | withdrawn {snapshot : Option Identity} {works : Bool}
      (hphase : w.phase = .withdrawing snapshot) :
      Advanced s k w (.withdrawn works)
        { s.setPhase k w (.final (.error notPng)) with
          files := removeIfKnown s.files (resultName w.id) snapshot works }
  | finished {result : Except CaptureDiagnostic (Option (CapturePng × Identity))} {works : Bool}
      (hphase : w.phase = .final result) :
      Advanced s k w (.finished works) (s.finish k w result works)

theorem HelperLoop.line_holds (loop : HelperLoop)
    (message : Option (Except Unit (Option HelperStatus))) :
    (loop.line message).1.holds = none ∧ (loop.line message).1 ≠ .withdrawing none := by
  unfold HelperLoop.line
  split
  · exact ⟨rfl, by simp⟩
  · exact ⟨rfl, by simp⟩
  · dsimp only
    split
    · exact ⟨rfl, by simp⟩
    · split
      · exact ⟨rfl, by simp⟩
      · split <;> exact ⟨rfl, by simp⟩

theorem HelperLoop.stderr_holds (loop : HelperLoop) (bytes : Nat) :
    (loop.stderr bytes).holds = none ∧ loop.stderr bytes ≠ .withdrawing none := by
  unfold HelperLoop.stderr
  split
  · exact ⟨rfl, by simp⟩
  · split <;> exact ⟨rfl, by simp⟩

theorem CaptureService.advance_cases {event : WorkerEvent}
    (h : s.advance k w event = some s') : Advanced s k w event s' := by
  unfold CaptureService.advance at h
  split at h
  case h_1 hphase => cases h; exact .moved (by rw [hphase]; rfl) rfl (by simp)
  case h_2 hphase => cases h; exact .moved (by rw [hphase]; rfl) rfl (by simp)
  case h_3 loop hphase =>
    split at h
    · cases h; exact .moved (by rw [hphase]; rfl) rfl (by simp)
    · cases h
  case h_4 loop hphase => cases h; exact .moved (by rw [hphase]; rfl) rfl (by simp)
  case h_5 loop message hphase =>
    split at h
    · cases h
    · obtain ⟨hholds, hsnapshot⟩ := loop.line_holds message
      have hheld : w.phase.holds = none := by rw [hphase]; rfl
      generalize loop.line message = next at h hholds hsnapshot
      cases h
      split
      · exact .capturing hheld hholds hsnapshot
      · exact .moved hheld hholds hsnapshot
  case h_6 loop bytes hphase =>
    split at h
    · cases h
    · cases h
      obtain ⟨hholds, hsnapshot⟩ := loop.stderr_holds bytes
      exact .moved (by rw [hphase]; rfl) hholds hsnapshot
  case h_7 loop waited hphase =>
    split at h
    · cases h
    · split at h <;> · cases h; exact .moved (by rw [hphase]; rfl) rfl (by simp)
  case h_8 loop status hphase =>
    split at h
    · cases h; exact .moved (by rw [hphase]; rfl) rfl (by simp)
    · cases h
  case h_9 left hphase =>
    unfold CaptureService.leave at h
    split at h
    · cases h; exact .moved (by rw [hphase]; rfl) rfl (by simp)
    · split at h
      · cases h
      · cases h; exact .left (by rw [hphase]; rfl)
  case h_10 identity width height hphase =>
    unfold CaptureService.publish at h
    split at h
    · cases h
    · rename_i hfree
      cases h
      exact .published (by simpa using hfree) (Or.inr ⟨width, height, rfl⟩)
  case h_11 identity snapshot hphase =>
    unfold CaptureService.publish at h
    split at h
    · cases h
    · rename_i hfree
      cases h
      exact .published (by simpa using hfree) (Or.inl ⟨snapshot, rfl, rfl⟩)
  case h_12 state hphase =>
    split at h
    · cases h
    · cases h; exact .moved (by rw [hphase]; rfl) rfl (by simp)
  case h_13 error hphase => cases h; exact .moved (by rw [hphase]; rfl) rfl (by simp)
  case h_14 snapshot works hphase => cases h; exact .withdrawn hphase
  case h_15 result works hphase => cases h; exact .finished hphase
  case h_16 => cases h

/-- The shape is kept when entries change in place and no job becomes active. -/
theorem CaptureService.Tabled.map {t : CaptureService} {g : Entry → Entry}
    (hs : s.Tabled) (hjobs : t.jobs = s.jobs.map g) (hbegun : t.begun = s.begun)
    (hserial : ∀ e, (g e).serial = e.serial) (hid : ∀ e, (g e).job.jobId = e.job.jobId)
    (hactive : ∀ e ∈ s.jobs, active (g e).job.state = true → active e.job.state = true)
    (hattended : ∀ e ∈ s.jobs, active (g e).job.state = true → ∃ w, t.workers e.serial = some w)
    (hworking : ∀ k w, t.workers k = some w →
      ∃ e ∈ s.jobs, e.serial = k ∧ e.job.jobId = w.id ∧ active (g e).job.state = true) :
    t.Tabled where
  serials := by
    rw [hjobs]
    exact List.pairwise_map.mpr (hs.serials.imp fun h => by simpa [hserial] using h)
  below := by
    intro e he
    rw [hjobs] at he
    obtain ⟨old, hold, rfl⟩ := List.mem_map.mp he
    rw [hserial, hbegun]
    exact hs.below old hold
  ids := by
    have hsame : (s.jobs.map g).map (fun e => e.job.jobId) = s.jobs.map fun e => e.job.jobId := by
      rw [List.map_map]
      exact List.map_congr_left fun e _ => hid e
    rw [hjobs, hsame]
    exact hs.ids
  history := by
    rw [hjobs, List.length_map]
    exact hs.history
  attended := by
    intro e he hact
    rw [hjobs] at he
    obtain ⟨old, hold, rfl⟩ := List.mem_map.mp he
    rw [hserial]
    exact hattended old hold hact
  working := by
    intro k w hw
    obtain ⟨e, he, hk, hi, hact⟩ := hworking k w hw
    exact ⟨g e, hjobs ▸ List.mem_map_of_mem he, (hserial e).trans hk, (hid e).trans hi, hact⟩
  oneActive := by
    intro e he e' he' hact hact'
    rw [hjobs] at he he'
    obtain ⟨old, hold, rfl⟩ := List.mem_map.mp he
    obtain ⟨old', hold', rfl⟩ := List.mem_map.mp he'
    rw [hs.oneActive old hold old' hold' (hactive old hold hact) (hactive old' hold' hact')]

/-- Tokens, files and the stopping mark have no part in the shape. -/
theorem CaptureService.Tabled.frame {t : CaptureService}
    (hs : s.Tabled) (hjobs : t.jobs = s.jobs) (hbegun : t.begun = s.begun)
    (hworkers : t.workers = s.workers) : t.Tabled := by
  refine hs.map (hjobs.trans (List.map_id s.jobs).symm) hbegun (fun _ => rfl) (fun _ => rfl)
    (fun _ _ h => h) (fun e he h => hworkers ▸ hs.attended e he h) fun k w hw => ?_
  rw [hworkers] at hw
  exact hs.working k w hw

theorem CaptureService.Tabled.setPhase
    (hs : s.Tabled) (hw : s.workers k = some w) (phase : Phase) :
    (s.setPhase k w phase).Tabled := by
  refine hs.map (List.map_id s.jobs).symm rfl (fun _ => rfl) (fun _ => rfl) (fun _ _ h => h)
    (fun e he hact => ?_) fun k' w' hw' => ?_
  · by_cases hk : e.serial = k
    · exact ⟨_, by rw [hk]; exact Function.update_self _ _ _⟩
    · obtain ⟨w', hw'⟩ := hs.attended e he hact
      exact ⟨w', by simpa [CaptureService.setPhase, hk] using hw'⟩
  · by_cases hk : k' = k
    · subst hk
      obtain rfl : _ = w' := by simpa [CaptureService.setPhase] using hw'
      exact hs.working k' w hw
    · exact hs.working k' w' (by simpa [CaptureService.setPhase, hk] using hw')

/-- The entry that a worker works for. -/
theorem CaptureService.Tabled.entry_of_id (hs : s.Tabled) (hw : s.workers k = some w)
    {e : Entry} (he : e ∈ s.jobs) (hid : e.job.jobId = w.id) :
    e.serial = k ∧ active e.job.state = true := by
  obtain ⟨e', he', hk, hid', hact⟩ := hs.working k w hw
  obtain rfl := hs.eq_of_id he he' (hid.trans hid'.symm)
  exact ⟨hk, hact⟩

theorem updated_serial {id : String} {f : Entry → Entry} (hf : ∀ e, (f e).serial = e.serial)
    (e : Entry) : (updated id f e).serial = e.serial := by
  unfold updated
  split
  · exact hf e
  · rfl

theorem updated_jobId {id : String} {f : Entry → Entry}
    (hf : ∀ e, (f e).job.jobId = e.job.jobId) (e : Entry) :
    (updated id f e).job.jobId = e.job.jobId := by
  unfold updated
  split
  · exact hf e
  · rfl

theorem CaptureService.Tabled.updateState
    (hs : s.Tabled) (hw : s.workers k = some w) :
    (s.updateState w.id .capturing).Tabled := by
  have hstate : ∀ e ∈ s.jobs,
      active (updated w.id (setState .capturing) e).job.state = active e.job.state := by
    intro e he
    by_cases hid : e.job.jobId = w.id
    · rw [updated, if_pos hid, (hs.entry_of_id hw he hid).2]
      rfl
    · rw [updated, if_neg hid]
  refine hs.map (updateEntry_eq_map hs.ids) rfl (updated_serial fun _ => rfl)
    (updated_jobId fun _ => rfl) (fun e he h => hstate e he ▸ h)
    (fun e he h => hs.attended e he (hstate e he ▸ h)) fun k' w' hw' => ?_
  obtain ⟨e, he, hk, hid, hact⟩ := hs.working k' w' hw'
  exact ⟨e, he, hk, hid, (hstate e he).trans hact⟩

theorem conclude_serial (result : Except CaptureDiagnostic (Option (CapturePng × Identity)))
    (e : Entry) : (conclude result e).serial = e.serial := by
  unfold conclude
  split <;> rfl

theorem conclude_jobId (result : Except CaptureDiagnostic (Option (CapturePng × Identity)))
    (e : Entry) : (conclude result e).job.jobId = e.job.jobId := by
  unfold conclude
  split <;> rfl

theorem conclude_ended (result : Except CaptureDiagnostic (Option (CapturePng × Identity)))
    (e : Entry) : active (conclude result e).job.state = false := by
  unfold conclude
  split <;> rfl

/-- The result that `finish` records: none once the token is cancelled. -/
def CaptureService.recorded (s : CaptureService) (k : Nat)
    (result : Except CaptureDiagnostic (Option (CapturePng × Identity))) :
    Except CaptureDiagnostic (Option (CapturePng × Identity)) :=
  if s.tokens k then .ok none else result

theorem CaptureService.finish_jobs
    (hs : s.Tabled) (result : Except CaptureDiagnostic (Option (CapturePng × Identity)))
    (works : Bool) :
    (s.finish k w result works).jobs = s.jobs.map (updated w.id (conclude (s.recorded k result))) ∧
      (s.finish k w result works).workers = Function.update s.workers k none ∧
      (s.finish k w result works).begun = s.begun ∧
      (s.finish k w result works).tokens = s.tokens := by
  by_cases htoken : s.tokens k = true
  · simp only [CaptureService.finish, CaptureService.recorded, if_pos htoken]
    exact ⟨updateEntry_eq_map hs.ids, trivial, trivial, trivial⟩
  · simp only [CaptureService.finish, CaptureService.recorded, if_neg htoken]
    exact ⟨updateEntry_eq_map hs.ids, trivial, trivial, trivial⟩

theorem CaptureService.Tabled.finish
    (hs : s.Tabled) (hw : s.workers k = some w)
    (result : Except CaptureDiagnostic (Option (CapturePng × Identity))) (works : Bool) :
    (s.finish k w result works).Tabled := by
  obtain ⟨hjobs, hworkers, hbegun, -⟩ := CaptureService.finish_jobs (k := k) (w := w) hs result works
  have hother : ∀ e ∈ s.jobs,
      active (updated w.id (conclude (s.recorded k result)) e).job.state = true →
        e.job.jobId ≠ w.id ∧ active e.job.state = true := by
    intro e he hact
    by_cases hid : e.job.jobId = w.id
    · rw [updated, if_pos hid, conclude_ended] at hact
      cases hact
    · rw [updated, if_neg hid] at hact
      exact ⟨hid, hact⟩
  refine hs.map hjobs hbegun (updated_serial (conclude_serial _)) (updated_jobId (conclude_jobId _))
    (fun e he hact => (hother e he hact).2) (fun e he hact => ?_) fun k' w' hw' => ?_
  · obtain ⟨hid, hact⟩ := hother e he hact
    obtain ⟨e', he', hk, hid', -⟩ := hs.working k w hw
    obtain ⟨w', hw'⟩ := hs.attended e he hact
    have hne : e.serial ≠ k := fun heq =>
      hid ((hs.eq_of_serial he he' (heq.trans hk.symm)) ▸ hid')
    exact ⟨w', by rw [hworkers]; simpa [hne] using hw'⟩
  · rw [hworkers] at hw'
    by_cases hk : k' = k
    · subst hk
      simp at hw'
    · rw [Function.update_of_ne hk] at hw'
      obtain ⟨e, he, hserial, hid, hact⟩ := hs.working k' w' hw'
      refine ⟨e, he, hserial, hid, ?_⟩
      have hne : e.job.jobId ≠ w.id := fun heq =>
        hk (hserial.symm.trans (hs.entry_of_id hw he heq).1)
      rw [updated, if_neg hne]
      exact hact

theorem CaptureService.Tabled.advanced {event : WorkerEvent}
    (hs : s.Tabled) (hw : s.workers k = some w) (h : Advanced s k w event s') : s'.Tabled := by
  cases h with
  | moved => exact hs.setPhase hw _
  | @capturing _ phase =>
      have hmoved : (s.setPhase k w phase).workers k = some { w with phase := phase } :=
        Function.update_self _ _ _
      exact CaptureService.Tabled.updateState (w := ⟨w.id, phase⟩) (hs.setPhase hw phase) hmoved
  | left => exact (hs.setPhase hw _).frame rfl rfl rfl
  | published => exact (hs.setPhase hw _).frame rfl rfl rfl
  | withdrawn => exact (hs.setPhase hw _).frame rfl rfl rfl
  | finished => exact hs.finish hw _ _

theorem CaptureService.find_none {id : String} (h : s.find id = none) :
    ∀ e ∈ s.jobs, e.job.jobId ≠ id := by
  intro e he
  simpa using List.find?_eq_none.mp h e he

/-- What a Begin request can do. -/
inductive Begun (s : CaptureService) (id output : String) (answers : BeginAnswers) :
    CapturePayload × CaptureService → Prop where
  | refused {diagnostic : CaptureDiagnostic} : Begun s id output answers (.error diagnostic, s)
  | repeated {e : Entry} (he : e ∈ s.jobs) : Begun s id output answers (.job e.job, s)
  | evicted {diagnostic : CaptureDiagnostic} (hmemfd : answers.memfd = false)
      (hidle : ∀ e ∈ s.jobs, active e.job.state = false) :
      Begun s id output answers (.error diagnostic,
        { s with
          jobs := (evict answers.removable s.jobs s.files).1
          files := (evict answers.removable s.jobs s.files).2 })
  | spawned (hnew : ∀ e ∈ s.jobs, e.job.jobId ≠ id)
      (hidle : ∀ e ∈ s.jobs, active e.job.state = false)
      (hfree : s.files (resultName id) = none) :
      Begun s id output answers (.job (CaptureService.newJob id output),
        ({ s with
          jobs := (evict answers.removable s.jobs s.files).1
          files := (evict answers.removable s.jobs s.files).2 } : CaptureService).spawn id output)

theorem CaptureService.begin_cases (s : CaptureService) (id output : String)
    (answers : BeginAnswers) : Begun s id output answers (s.begin id output answers) := by
  unfold CaptureService.begin
  split
  · exact .refused
  · split
    · rename_i e hfind
      split
      · exact .repeated (List.mem_of_find?_eq_some hfind)
      · exact .refused
    · rename_i hfind
      split
      · exact .refused
      · rename_i hidle
        have hidle : ∀ e ∈ s.jobs, active e.job.state = false := by simpa using hidle
        split
        · exact .refused
        · split
          · exact .refused
          · rename_i hmissing
            dsimp only
            split
            · rename_i hmemfd
              exact .evicted (by simpa using hmemfd) hidle
            · have hfree : answers.metadata = true ∧ s.files (resultName id) = none := by
                simpa using hmissing
              exact .spawned (CaptureService.find_none hfind) hidle hfree.2

/-- The table after room has been made, with no job active. -/
theorem CaptureService.Tabled.evict
    (hs : s.Tabled) (hidle : ∀ e ∈ s.jobs, active e.job.state = false)
    (removable : String → Bool) :
    ({ s with
      jobs := (evict removable s.jobs s.files).1
      files := (evict removable s.jobs s.files).2 } : CaptureService).Tabled ∧
      ∀ e ∈ (Capture.evict removable s.jobs s.files).1, e ∈ s.jobs := by
  obtain ⟨hsuffix, hlength⟩ := @evict_suffix s.jobs removable s.files hs.history
  have hmem : ∀ e ∈ (Capture.evict removable s.jobs s.files).1, e ∈ s.jobs :=
    fun e he => hsuffix.subset he
  have hnone : ∀ k, s.workers k = none := by
    intro k
    cases hw : s.workers k with
    | none => rfl
    | some w =>
        obtain ⟨e, he, -, -, hact⟩ := hs.working k w hw
        rw [hidle e he] at hact
        cases hact
  refine ⟨⟨hs.serials.sublist hsuffix.sublist, fun e he => hs.below e (hmem e he),
    hs.ids.sublist (hsuffix.sublist.map _), hlength.le, fun e he hact => ?_, fun k w hw => ?_,
    fun e he e' he' => hs.oneActive e (hmem e he) e' (hmem e' he')⟩, hmem⟩
  · rw [hidle e (hmem e he)] at hact
    cases hact
  · have hsome : s.workers k = some w := hw
    rw [hnone k] at hsome
    cases hsome

theorem CaptureService.Tabled.spawn
    (hs : s.Tabled) {id : String} (hnew : ∀ e ∈ s.jobs, e.job.jobId ≠ id)
    (hidle : ∀ e ∈ s.jobs, active e.job.state = false) (hroom : s.jobs.length < HISTORY)
    (output : String) : (s.spawn id output).Tabled := by
  have hmem : ∀ e ∈ (s.spawn id output).jobs,
      e ∈ s.jobs ∨ e = ⟨s.begun, none, CaptureService.newJob id output⟩ := fun e he => by
    simpa [CaptureService.spawn] using he
  have hlast : ∀ e ∈ (s.spawn id output).jobs, active e.job.state = true →
      e = ⟨s.begun, none, CaptureService.newJob id output⟩ := by
    intro e he hact
    rcases hmem e he with he | he
    · rw [hidle e he] at hact
      cases hact
    · exact he
  refine ⟨?_, fun e he => ?_, ?_, ?_, fun e he hact => ?_, fun k w hw => ?_,
    fun e he e' he' hact hact' => (hlast e he hact).trans (hlast e' he' hact').symm⟩
  · refine List.pairwise_append.mpr ⟨hs.serials, List.pairwise_singleton _ _, ?_⟩
    intro a ha b hb
    rw [List.mem_singleton.mp hb]
    exact hs.below a ha
  · rcases hmem e he with he | rfl
    · exact Nat.lt_succ_of_lt (hs.below e he)
    · exact Nat.lt_succ_self _
  · rw [CaptureService.spawn, List.map_append]
    refine List.nodup_append.mpr ⟨hs.ids, by simp, fun a ha b hb heq => ?_⟩
    obtain ⟨e, he, rfl⟩ := List.mem_map.mp ha
    exact hnew e he (heq.trans (List.mem_singleton.mp hb))
  · rw [CaptureService.spawn, List.length_append]
    exact hroom
  · rw [hlast e he hact]
    exact ⟨⟨id, .spawning⟩, Function.update_self _ _ _⟩
  · by_cases hk : k = s.begun
    · subst hk
      obtain rfl : (⟨id, .spawning⟩ : Worker) = w := by simpa [CaptureService.spawn] using hw
      exact ⟨_, List.mem_append_right _ (List.mem_singleton_self _), rfl, rfl, rfl⟩
    · obtain ⟨e, he, -, -, hact⟩ := hs.working k w (by simpa [CaptureService.spawn, hk] using hw)
      rw [hidle e he] at hact
      cases hact

theorem CaptureService.Tabled.after {step : CaptureStep}
    (hs : s.Tabled) (h : s.after step = some s') : s'.Tabled := by
  cases step with
  | status id =>
      cases h
      exact hs
  | cancel id =>
      cases h
      unfold CaptureService.cancel
      split
      · exact hs
      · split
        · split
          · exact hs.frame rfl rfl rfl
          · exact hs
        · exact hs
  | begin id output answers =>
      have hbegun := s.begin_cases id output answers
      cases h
      generalize s.begin id output answers = reply at hbegun ⊢
      cases hbegun with
      | refused => exact hs
      | repeated => exact hs
      | evicted hmemfd hidle => exact (hs.evict hidle _).1
      | spawned hnew hidle hfree =>
          obtain ⟨hevicted, hmem⟩ := hs.evict hidle answers.removable
          exact hevicted.spawn (fun e he => hnew e (hmem e he)) (fun e he => hidle e (hmem e he))
            (evict_suffix hs.history).2 output
  | shutdown =>
      cases h
      exact hs.frame rfl rfl rfl
  | worker k event =>
      obtain ⟨w, hw, hadvance⟩ := Option.bind_eq_some_iff.mp h
      exact hs.advanced hw (CaptureService.advance_cases hadvance)

theorem CaptureService.IsNew.tabled (h : s.IsNew) : s.Tabled := by
  obtain ⟨hjobs, -, hworkers, -, -⟩ := h
  constructor <;> simp [hjobs, hworkers]

end Shape

section History

variable {s s' t : CaptureService} {k : Nat} {w : Worker} {e e' : Entry}

/-- What becomes of an entry: an ended job stays, and a cancelled one ends cancelled. -/
structure Follows (s t : CaptureService) (e e' : Entry) : Prop where
  serial : e'.serial = e.serial
  ended : active e.job.state = false → e' = e
  cancelled : active e.job.state = true → s.tokens e.serial = true →
    (active e'.job.state = true ∧ t.tokens e.serial = true) ∨ e'.job.state = .cancelled

theorem follows_same (htokens : s.tokens e.serial = true → t.tokens e.serial = true) :
    Follows s t e e where
  serial := rfl
  ended _ := rfl
  cancelled hact htoken := Or.inl ⟨hact, htokens htoken⟩

theorem Follows.trans {e'' : Entry} (h : Follows s s' e e') (h' : Follows s' t e' e'') :
    Follows s t e e'' where
  serial := h'.serial.trans h.serial
  ended hended := by
    obtain rfl := h.ended hended
    exact h'.ended hended
  cancelled hact htoken := by
    rcases h.cancelled hact htoken with ⟨hact', htoken'⟩ | hcancelled
    · rw [← h.serial] at htoken' ⊢
      exact h'.cancelled hact' htoken'
    · have hended : active e'.job.state = false := by rw [hcancelled]; rfl
      rw [h'.ended hended]
      exact Or.inr hcancelled

/-- An updated entry is the one of the worker, or as before. -/
theorem CaptureService.Tabled.updated_follows {f : Entry → Entry}
    (hs : s.Tabled) (hw : s.workers k = some w) (htokens : t.tokens = s.tokens)
    (hf : ∀ e ∈ s.jobs, e.serial = k → active e.job.state = true → Follows s t e (f e)) :
    ∀ e' ∈ s.jobs.map (updated w.id f), ∃ e ∈ s.jobs, Follows s t e e' := by
  intro e' he'
  obtain ⟨e, he, rfl⟩ := List.mem_map.mp he'
  refine ⟨e, he, ?_⟩
  by_cases hid : e.job.jobId = w.id
  · obtain ⟨hk, hact⟩ := hs.entry_of_id hw he hid
    rw [updated, if_pos hid]
    exact hf e he hk hact
  · rw [updated, if_neg hid]
    exact follows_same fun h => htokens ▸ h

theorem CaptureService.Tabled.follows_advanced {event : WorkerEvent}
    (hs : s.Tabled) (hw : s.workers k = some w) (h : Advanced s k w event s') :
    s'.begun = s.begun ∧ ∀ e' ∈ s'.jobs, ∃ e ∈ s.jobs, Follows s s' e e' := by
  cases h with
  | moved => exact ⟨rfl, fun e he => ⟨e, he, follows_same id⟩⟩
  | @capturing _ phase =>
      have hjobs : ((s.setPhase k w phase).updateState w.id .capturing).jobs =
          s.jobs.map (updated w.id (setState .capturing)) := updateEntry_eq_map hs.ids
      refine ⟨rfl, ?_⟩
      rw [hjobs]
      refine hs.updated_follows hw rfl fun e he hk hact => ⟨rfl, fun hended => ?_, fun _ h => ?_⟩
      · rw [hact] at hended
        cases hended
      · exact Or.inl ⟨rfl, h⟩
  | left => exact ⟨rfl, fun e he => ⟨e, he, follows_same id⟩⟩
  | published => exact ⟨rfl, fun e he => ⟨e, he, follows_same id⟩⟩
  | withdrawn => exact ⟨rfl, fun e he => ⟨e, he, follows_same id⟩⟩
  | @finished result works _ =>
      obtain ⟨hjobs, -, hbegun, htokens⟩ :=
        CaptureService.finish_jobs (k := k) (w := w) hs result works
      refine ⟨hbegun, ?_⟩
      rw [hjobs]
      refine hs.updated_follows hw htokens fun e he hk hact =>
        ⟨conclude_serial _ e, fun hended => ?_, fun _ h => ?_⟩
      · rw [hact] at hended
        cases hended
      · -- a cancelled token makes the recorded result empty
        rw [hk] at h
        rw [CaptureService.recorded, if_pos h]
        exact Or.inr rfl

/-- Every entry after a step continues an earlier one or is new. -/
theorem CaptureService.Tabled.follows_after {step : CaptureStep}
    (hs : s.Tabled) (h : s.after step = some s') :
    s.begun ≤ s'.begun ∧
      ∀ e' ∈ s'.jobs, s.begun ≤ e'.serial ∨ ∃ e ∈ s.jobs, Follows s s' e e' := by
  cases step with
  | status id =>
      cases h
      exact ⟨le_refl _, fun e he => Or.inr ⟨e, he, follows_same fun h => h⟩⟩
  | cancel id =>
      cases h
      unfold CaptureService.cancel
      split
      · exact ⟨le_refl _, fun e he => Or.inr ⟨e, he, follows_same fun h => h⟩⟩
      · split
        · split
          · refine ⟨le_refl _, fun e he => Or.inr ⟨e, he, follows_same fun h => ?_⟩⟩
            dsimp only
            rw [Function.update_apply]
            split
            · rfl
            · exact h
          · exact ⟨le_refl _, fun e he => Or.inr ⟨e, he, follows_same fun h => h⟩⟩
        · exact ⟨le_refl _, fun e he => Or.inr ⟨e, he, follows_same fun h => h⟩⟩
  | begin id output answers =>
      have hbegun := s.begin_cases id output answers
      cases h
      generalize s.begin id output answers = reply at hbegun ⊢
      cases hbegun with
      | refused => exact ⟨le_refl _, fun e he => Or.inr ⟨e, he, follows_same fun h => h⟩⟩
      | repeated => exact ⟨le_refl _, fun e he => Or.inr ⟨e, he, follows_same fun h => h⟩⟩
      | evicted hmemfd hidle =>
          obtain ⟨-, hmem⟩ := hs.evict hidle answers.removable
          exact ⟨le_refl _, fun e he => Or.inr ⟨e, hmem e he, follows_same fun h => h⟩⟩
      | spawned hnew hidle hfree =>
          obtain ⟨-, hmem⟩ := hs.evict hidle answers.removable
          refine ⟨Nat.le_succ _, fun e he => ?_⟩
          rcases List.mem_append.mp he with he | he
          · refine Or.inr ⟨e, hmem e he, follows_same fun h => ?_⟩
            have hne : e.serial ≠ s.begun := (hs.below e (hmem e he)).ne
            simpa [CaptureService.spawn, hne] using h
          · rw [List.mem_singleton.mp he]
            exact Or.inl (le_refl _)
  | shutdown =>
      cases h
      refine ⟨le_refl _, fun e he => Or.inr ⟨e, he, follows_same fun h => ?_⟩⟩
      simp [CaptureService.shutdown, h]
  | worker k event =>
      obtain ⟨w, hw, hadvance⟩ := Option.bind_eq_some_iff.mp h
      obtain ⟨hbegun, hjobs⟩ :=
        hs.follows_advanced hw (CaptureService.advance_cases hadvance)
      exact ⟨hbegun.ge, fun e he => Or.inr (hjobs e he)⟩

/-- A finite run from one state to another. -/
def Leads : CaptureService → CaptureService → Prop :=
  Relation.ReflTransGen fun a b => ∃ step, a.after step = some b

/-- What one step does to a job, a run does. -/
theorem CaptureService.Tabled.follows_run (hs : s.Tabled) (h : Leads s t) :
    t.Tabled ∧ s.begun ≤ t.begun ∧
      ∀ e ∈ s.jobs, ∀ e' ∈ t.jobs, e'.serial = e.serial → Follows s t e e' := by
  induction h with
  | refl =>
      refine ⟨hs, le_refl _, fun e he e' he' hserial => ?_⟩
      obtain rfl := hs.eq_of_serial he' he hserial
      exact follows_same fun h => h
  | tail _ hstep ih =>
      obtain ⟨step, hstep⟩ := hstep
      obtain ⟨ht, hbegun, hfollows⟩ := ih
      obtain ⟨hle, hback⟩ := ht.follows_after hstep
      refine ⟨ht.after hstep, hbegun.trans hle, fun e he e' he' hserial => ?_⟩
      rcases hback e' he' with hnew | ⟨mid, hmid, hmid'⟩
      · have := hs.below e he
        omega
      · exact (hfollows e he mid hmid (hmid'.serial.symm.trans hserial)).trans hmid'

end History

end Capture
end SleepySession
