import SleepySession.Desktop.ControlAuthority

/-!
# Requests are executed at most once

A request that has been executed is either still pending in the log, in memory
and in whatever its file may show after a loss of power, or its generation has
passed: the current one is greater, and so is every later one.  Pending records
are never evicted, and a result is recorded only after its generation has moved
the current one.
-/

namespace SleepySession
namespace Desktop

open Sessiond
open DurableDedupe
open Program (holds_of_run)

section Pending

variable {β ρ : Type} {sdk : DedupeSdk β ρ} {maximumRecords : Nat} {c c' : Cell β}
variable {document staged : DedupeDocument ρ} {requestId : String}

/-- The document has a record of the request without a result. -/
def PendingIn (document : DedupeDocument ρ) (requestId : String) : Prop :=
  ∃ record ∈ document.records, record.requestId = requestId ∧ record.result = none

/-- Whatever the file may show has the request pending. -/
def PendingFile (sdk : DedupeSdk β ρ) (maximumRecords : Nat) (c : Cell β) (requestId : String) :
    Prop :=
  ∀ content ∈ c.values, ∀ found, FoundLog sdk maximumRecords content found →
    PendingIn found requestId

/-- The request is pending, in memory if there is one, and in the file. -/
def Pending (sdk : DedupeSdk β ρ) (maximumRecords : Nat) : LogState β ρ → String → Prop
  | .running log, requestId =>
      PendingIn log.document requestId ∧
        PendingFile sdk maximumRecords (cell log.directory) requestId
  | .closed files, requestId => PendingFile sdk maximumRecords (cell files) requestId

theorem Pending.closed {log : LogState β ρ} (h : Pending sdk maximumRecords log requestId) :
    Pending sdk maximumRecords (.closed log.files) requestId := by
  cases log with
  | running log => exact h.2
  | closed files => exact h

theorem not_pendingIn_of_lookup (h : DurableDedupe.lookup document requestId = none) :
    ¬ PendingIn document requestId := by
  rintro ⟨record, hmem, hid, -⟩
  unfold DurableDedupe.lookup at h
  rw [Option.map_eq_none_iff, List.find?_eq_none] at h
  exact h record hmem (by simpa using hid)

/-- No operation but the completion of a request takes it from the pending ones. -/
theorem pendingIn_stage {call : Call ρ} (hcall : ∀ result, call ≠ .complete requestId result)
    (hstage : stage sdk maximumRecords document call = .ok staged)
    (h : PendingIn document requestId) : PendingIn staged requestId := by
  obtain ⟨record, hmem, rfl, hpending⟩ := h
  rcases stage_pending hstage hmem hpending with hkept | ⟨result, hcompleted, -⟩
  · exact ⟨record, hkept, rfl, hpending⟩
  · exact absurd hcompleted (hcall result)

theorem pendingIn_stageBegin
    (hstage : stage sdk maximumRecords document (.begin requestId) = .ok staged) :
    PendingIn staged requestId := by
  obtain ⟨-, -, records, -, rfl⟩ := stageBegin_eq_ok hstage
  exact ⟨⟨requestId, none⟩, List.mem_append_right _ (List.mem_singleton_self _), rfl, rfl⟩

variable (hcodec : ∀ document, sdk.decode (sdk.encode document) = .ok document)

include hcodec in
/-- The only document that the bytes of a staged one decode to. -/
theorem found_encode {found : DedupeDocument ρ}
    (h : FoundLog sdk maximumRecords (some (sdk.encode staged)) found) : found = staged := by
  have hcheck := checkBytes_eq_ok.mp (foundLog_some h)
  exact Except.ok.inj (hcheck.2.1.symm.trans (hcodec staged))

include hcodec in
/-- A file that had the request pending and may now show the staged document. -/
theorem pendingFile_written (h : PendingFile sdk maximumRecords c requestId)
    (hwritten : Written (sdk.encode staged) c c') (hstaged : PendingIn staged requestId) :
    PendingFile sdk maximumRecords c' requestId := by
  intro content hmem found hfound
  rcases hwritten.values hmem with rfl | hold
  · exact found_encode hcodec hfound ▸ hstaged
  · exact h content hold found hfound

theorem pendingFile_settled {bytes : β} (hdecode : sdk.decode bytes = .ok document)
    (h : PendingIn document requestId) :
    PendingFile sdk maximumRecords (Cell.settled (some bytes)) requestId := by
  intro content hmem found hfound
  obtain rfl : content = some bytes := by
    simpa [Cell.settled, Cell.values] using hmem
  have hcheck := checkBytes_eq_ok.mp (foundLog_some hfound)
  exact Except.ok.inj (hdecode.symm.trans hcheck.2.1) ▸ h

variable [DecidableEq ρ] {A : Answer Unit β → Prop} {log : DurableDedupe β ρ}

include hcodec in
/-- A pending request stays pending over the operations that do not complete it. -/
theorem wp_call_pending {call : Call ρ} (hcall : ∀ result, call ≠ .complete requestId result)
    (hlog : LogInvariant sdk maximumRecords log)
    (h : Pending sdk maximumRecords (.running log) requestId) :
    (call.program sdk).wp A
      ⟨fun _ log' => Pending sdk maximumRecords (.running log') requestId,
        fun _ log' => Pending sdk maximumRecords (.running log') requestId,
        fun log' => Pending sdk maximumRecords (.closed log'.directory) requestId⟩ log := by
  rw [program_eq]
  simp only [Program.wp_bind, Program.wp_get, Program.wp_orThrow, hlog.maximum]
  refine ⟨fun staged hstage => ?_, fun _ _ => h⟩
  have hstaged := pendingIn_stage hcall hstage h.1
  refine wp_commit (hcodec staged) hlog.file.torn ?_ ?_
  · intro files bytes hsettled hdecode _
    refine ⟨hstaged, ?_⟩
    show PendingFile sdk maximumRecords (cell files) requestId
    rw [hsettled]
    exact pendingFile_settled hdecode hstaged
  · intro files fault hcell
    have hfile : PendingFile sdk maximumRecords (cell files) requestId :=
      pendingFile_written hcodec h.2 (hcell.imp_right fun hwrote => hwrote.2) hstaged
    exact ⟨fun _ => ⟨h.1, hfile⟩, hfile⟩

include hcodec in
/-- A request that is begun is pending. -/
theorem wp_begin_pending (hlog : LogInvariant sdk maximumRecords log) :
    ((Call.begin requestId).program sdk).wp A
      ⟨fun _ log' => Pending sdk maximumRecords (.running log') requestId,
        fun _ _ => True, fun _ => True⟩ log := by
  rw [program_eq]
  simp only [Program.wp_bind, Program.wp_get, Program.wp_orThrow, hlog.maximum]
  refine ⟨fun staged hstage => ?_, fun _ _ => trivial⟩
  have hstaged := pendingIn_stageBegin hstage
  refine wp_commit (hcodec staged) hlog.file.torn ?_ fun _ _ _ => ⟨fun _ => trivial, trivial⟩
  intro files bytes hsettled hdecode _
  refine ⟨hstaged, ?_⟩
  show PendingFile sdk maximumRecords (cell files) requestId
  rw [hsettled]
  exact pendingFile_settled hdecode hstaged

end Pending

section Later

variable {V : DesktopDomainId → Type} {sdk : DesktopSdk V} {slots : Nat}
variable {run run' : AuthorityRun V} {a : GenerationAllocator} {generation : Nat}

/-- What a step of one authority does to its generations. -/
structure Later (run run' : AuthorityRun V) : Prop where
  me : run'.me = run.me
  advanced : Advanced run.me run.generations run'.generations
  current : run'.authority.currentGeneration = run.authority.currentGeneration ∨
    (∀ g, Behind run.generations run.me g → g < run'.authority.currentGeneration) ∨
      (run.authority.latestSnapshot = none ∧ ∃ staged, run.staged = some staged ∧
        run'.authority.currentGeneration = staged.generation)
  latest : run'.authority.latestSnapshot = none → run.authority.latestSnapshot = none
  staged : ∀ staged, run'.staged = some staged →
    run.staged = some staged ∨ ∀ g, Behind run.generations run.me g → g < staged.generation

/-- The generation has passed: the current one is not it, and no later one will be. -/
structure Stale (run : AuthorityRun V) (generation : Nat) : Prop where
  behind : Behind run.generations run.me generation
  current : run.authority.currentGeneration = 0 ∨ generation < run.authority.currentGeneration
  staged : run.authority.latestSnapshot = none → ∀ staged, run.staged = some staged →
    generation < staged.generation

theorem Behind.later (h : Behind run.generations run.me generation) (hlater : Later run run') :
    Behind run'.generations run'.me generation := by
  rw [hlater.me]
  exact h.advanced hlater.advanced

theorem Issued.later (h : Issued run.generations run.me generation) (hlater : Later run run') :
    Issued run'.generations run'.me generation := by
  rw [hlater.me]
  exact h.advanced hlater.advanced

theorem Stale.later (h : Stale run generation) (hlater : Later run run') :
    Stale run' generation := by
  refine ⟨h.behind.later hlater, ?_, fun hlatest staged hstaged => ?_⟩
  · rcases hlater.current with hsame | hnew | ⟨hlatest, staged, hstaged, hcommitted⟩
    · rw [hsame]
      exact h.current
    · exact Or.inr (hnew generation h.behind)
    · rw [hcommitted]
      exact Or.inr (h.staged hlatest staged hstaged)
  · rcases hlater.staged staged hstaged with hold | hnew
    · exact h.staged (hlater.latest hlatest) staged hold
    · exact hnew generation h.behind

/-- A step that leaves the authority itself alone. -/
theorem later_of_advanced {generations : GenerationRun}
    (hadvanced : Advanced run.me run.generations generations) :
    Later run { run with generations := generations } :=
  ⟨rfl, hadvanced, Or.inl rfl, fun h => h, fun _ h => Or.inl h⟩

theorem later_publishDomain (hrun : run.Invariant sdk)
    (ha : run.generations.allocators run.me = some a) (update : DesktopDomainUpdate V)
    (cause : EventCause) (control : PublicationControl) (stamps : Stamps)
    (script : GenerationScript) :
    Later run (run.publishDomain sdk a update cause control stamps script).2 := by
  have hrefl : Later run run :=
    later_of_advanced ⟨hrun.generations, fun _ h => h, le_rfl, rfl⟩
  have hpublishes := publishes sdk run a update cause control stamps script
  generalize run.publishDomain sdk a update cause control stamps script = result at hpublishes ⊢
  cases hpublishes with
  | discarded hprepare => exact hrefl
  | refused e => exact hrefl
  | failed hallocate hresult =>
      exact later_of_advanced (allocate_spec hrun.generations hrun.numbered ha hallocate).1
  | published hprepare hallocate hfinish =>
      obtain ⟨hadvanced, hissued⟩ := allocate_spec hrun.generations hrun.numbered ha hallocate
      obtain ⟨-, -, -, hcurrent, hlatest, -, -⟩ := finishPublication_ok hfinish
      refine ⟨rfl, hadvanced, Or.inr (Or.inl ?_), fun h => ?_, fun _ h => Or.inl h⟩
      · intro g hg
        exact hcurrent.symm ▸ (hissued _ rfl).2 g hg
      · exact absurd (hlatest.symm.trans h) (by simp)

/-- The generation of a result has passed all earlier ones. -/
theorem later_publishCommandResult (hrun : run.Invariant sdk)
    (ha : run.generations.allocators run.me = some a) {outcome : CommandOutcome}
    {stamps : Stamps} {script : GenerationScript}
    {answer : Outcome IoError (DesktopEnvelope V × DesktopResult)}
    (h : run.publishCommandResult sdk a outcome stamps script = (answer, run')) :
    Later run run' ∧ ∀ result, answer = .ok result →
      run'.authority.latestSnapshot ≠ none ∧
        ∀ g, Behind run.generations run.me g → g < run'.authority.currentGeneration := by
  have hrefl : Later run run :=
    later_of_advanced ⟨hrun.generations, fun _ h => h, le_rfl, rfl⟩
  have hsettles := settles sdk run a outcome stamps script
  rw [h] at hsettles
  cases hsettles with
  | refused e => exact ⟨hrefl, fun result hresult => by cases hresult⟩
  | failed hallocate hresult =>
      obtain ⟨hadvanced, -⟩ := allocate_spec hrun.generations hrun.numbered ha
        (allocate_nextGeneration.trans hallocate)
      exact ⟨later_of_advanced hadvanced, fun result h => absurd h (hresult result)⟩
  | settled hprepare hallocate hfinish =>
      obtain ⟨hadvanced, hissued⟩ := allocate_spec hrun.generations hrun.numbered ha
        (allocate_nextGeneration.trans hallocate)
      obtain ⟨-, -, rfl⟩ := finishCommandResult_ok hfinish
      have hnew := (hissued _ rfl).2
      exact ⟨⟨rfl, hadvanced, Or.inr (Or.inl hnew), fun h => (by cases h),
        fun _ h => Or.inl h⟩, fun _ _ => ⟨by simp, hnew⟩⟩

theorem later_stageInitial (hrun : run.Invariant sdk)
    (ha : run.generations.allocators run.me = some a) (elapsed : Nat → Bool)
    (states : StateMap V) (stamp : Stamp) (script : GenerationScript) :
    Later run (run.stageInitial sdk a elapsed states stamp script) := by
  have hrefl : Later run run :=
    later_of_advanced ⟨hrun.generations, fun _ h => h, le_rfl, rfl⟩
  have hstages := stages sdk run a elapsed states stamp script
  generalize run.stageInitial sdk a elapsed states stamp script = result at hstages ⊢
  cases hstages with
  | refused => exact hrefl
  | failed hallocate =>
      exact later_of_advanced (allocate_spec hrun.generations hrun.numbered ha
        (allocate_nextGeneration.trans hallocate)).1
  | staged hprepare hallocate hfinish =>
      obtain ⟨hadvanced, hissued⟩ := allocate_spec hrun.generations hrun.numbered ha
        (allocate_nextGeneration.trans hallocate)
      obtain ⟨-, hgeneration, -, -⟩ := finishInitial_ok hfinish
      refine ⟨rfl, hadvanced, Or.inl rfl, fun h => h, fun other hother => ?_⟩
      obtain rfl := Option.some.inj hother
      exact Or.inr (hgeneration.symm ▸ (hissued _ rfl).2)

theorem later_commitInitial (hrun : run.Invariant sdk) {staged : StagedInitial V}
    (hstaged : run.staged = some staged) : Later run (run.commitInitial staged) := by
  have hadvanced : Advanced run.me run.generations run.generations :=
    ⟨hrun.generations, fun _ h => h, le_rfl, rfl⟩
  unfold AuthorityRun.commitInitial
  cases hlatest : run.authority.latestSnapshot with
  | some existing =>
      exact ⟨rfl, hadvanced, Or.inl rfl, fun h => h, fun _ h => by cases h⟩
  | none =>
      have hcommit : commitInitial run.authority staged =
          { run.authority with
            states := some staged.states
            currentGeneration := staged.generation
            latestSnapshot := some staged.event } := by
        unfold commitInitial
        rw [hlatest]
      refine ⟨rfl, hadvanced, Or.inr (Or.inr ⟨hlatest, staged, hstaged, ?_⟩), fun h => ?_,
        fun _ h => by cases h⟩
      · simp only [hcommit]
      · simp only [hcommit] at h
        cases h

/-- The step lemma for the generations of one authority. -/
theorem later_of_step (hrun : run.Invariant sdk) {e : AuthorityEvent V}
    (hordinary : Ordinary run.me e) (h : run.step sdk slots e run') : Later run run' := by
  have hadvanced : Advanced run.me run.generations run.generations :=
    ⟨hrun.generations, fun _ h => h, le_rfl, rfl⟩
  cases e with
  | openAuthority script => exact hordinary.elim
  | stageInitial elapsed states stamp script =>
      obtain ⟨a, ha, rfl⟩ := h
      exact later_stageInitial hrun ha elapsed states stamp script
  | commitInitial =>
      obtain ⟨staged, hstaged, rfl⟩ := h
      exact later_commitInitial hrun hstaged
  | dropInitial =>
      obtain rfl := h
      exact ⟨rfl, hadvanced, Or.inl rfl, fun h => h, fun _ h => by cases h⟩
  | beginObservation domain =>
      obtain rfl := h
      exact ⟨rfl, hadvanced, Or.inl rfl, fun h => h, fun _ h => Or.inl h⟩
  | publishDomain update cause control stamps script =>
      obtain ⟨a, ha, rfl⟩ := h
      exact later_publishDomain hrun ha update cause control stamps script
  | publishCommandResult outcome stamps script =>
      obtain ⟨a, ha, rfl⟩ := h
      exact (later_publishCommandResult hrun ha (Prod.mk.eta).symm).1
  | subscribe i =>
      obtain ⟨snapshot, -, rfl⟩ := h
      exact ⟨rfl, hadvanced, Or.inl rfl, fun h => h, fun _ h => Or.inl h⟩
  | recv i =>
      obtain ⟨subscriber, subscriber', -, -, rfl⟩ := h
      exact ⟨rfl, hadvanced, Or.inl rfl, fun h => h, fun _ h => Or.inl h⟩
  | leave i =>
      obtain rfl := h
      exact ⟨rfl, hadvanced, Or.inl rfl, fun h => h, fun _ h => Or.inl h⟩
  | others e =>
      obtain ⟨-, generations, hstep, rfl⟩ := h
      exact later_of_advanced (advanced_of_step hrun.generations hrun.numbered hstep)

/-- A new authority has the generations of all earlier ones behind it. -/
theorem Stale.openAuthority (h : Stale run generation) {script : GenerationScript}
    (hopen : (GenerationAllocator.open.run script ⟨run.generations.files, .new 64⟩).1 = .ok ()) :
    Stale (run.openAuthority script) generation := by
  obtain ⟨r, hr, hle, -⟩ := h.behind
  unfold AuthorityRun.openAuthority
  cases hopened : GenerationAllocator.open.run script ⟨run.generations.files, .new 64⟩ with
  | mk outcome state =>
      rw [hopened] at hopen
      obtain rfl : outcome = .ok () := hopen
      refine ⟨⟨r, hr, hle, Or.inr ?_⟩, Or.inl rfl, fun _ staged hstaged => by cases hstaged⟩
      rw [show (run.generations.afterOpen (.ok (), state)).before run.generations.count =
        run.generations.returned.map (·.generation) from Function.update_self _ _ _]
      exact List.mem_map_of_mem hr

end Later

section Invariant

variable {V : DesktopDomainId → Type} {β ω : Type} {sdk : DesktopSdk V} {slots : Nat}
variable {dedupe : DedupeSdk β DesktopResult} {maximumRecords : Nat}
variable {run run' : AuthorityRun V} {log log' : LogState β DesktopResult}
variable {executed : List (DesktopRequest ω)} {request : DesktopRequest ω}
variable {stage : HandleStage V ω}

/-- The executed requests with this identifier have passed. -/
def Settled (run : AuthorityRun V) (executed : List (DesktopRequest ω)) (requestId : String) :
    Prop :=
  ∀ e ∈ executed, e.requestId = requestId → 0 < e.expectedGeneration →
    Stale run e.expectedGeneration

/-- The generation of the request has been current, and the request was not executed. -/
def Fresh (run : AuthorityRun V) (executed : List (DesktopRequest ω))
    (request : DesktopRequest ω) : Prop :=
  0 < request.expectedGeneration →
    Issued run.generations run.me request.expectedGeneration ∧
      ∀ e ∈ executed, e.requestId = request.requestId →
        e.expectedGeneration ≠ request.expectedGeneration

/-- What is known of the request at hand. -/
def StageHolds (dedupe : DedupeSdk β DesktopResult) (maximumRecords : Nat) (run : AuthorityRun V)
    (log : LogState β DesktopResult) (executed : List (DesktopRequest ω)) :
    HandleStage V ω → Prop
  | .idle => True
  | .unknown request => Settled run executed request.requestId
  | .refused request _ => Settled run executed request.requestId
  | .matched request =>
      Settled run executed request.requestId ∧ Fresh run executed request
  | .begun request =>
      Settled run executed request.requestId ∧ Fresh run executed request ∧
        Pending dedupe maximumRecords log request.requestId
  | .executed request _ =>
      (∀ e ∈ executed, e.requestId = request.requestId → 0 < e.expectedGeneration →
        Stale run e.expectedGeneration ∨ e.expectedGeneration = request.expectedGeneration) ∧
        (0 < request.expectedGeneration →
          Issued run.generations run.me request.expectedGeneration)
  | .answered request _ => Settled run executed request.requestId

/-- An executed request is pending or has passed. -/
def Covered (dedupe : DedupeSdk β DesktopResult) (maximumRecords : Nat) (run : AuthorityRun V)
    (log : LogState β DesktopResult) (executed : List (DesktopRequest ω)) : Prop :=
  ∀ e ∈ executed, 0 < e.expectedGeneration →
    Pending dedupe maximumRecords log e.requestId ∨ Stale run e.expectedGeneration

/-- The invariant of the control authority. -/
structure ControlRun.Invariant (sdk : DesktopSdk V) (dedupe : DedupeSdk β DesktopResult)
    (maximumRecords : Nat) (s : ControlRun V β ω) : Prop where
  run : s.run.Invariant sdk
  log : LogStateInvariant dedupe maximumRecords s.log
  covered : Covered dedupe maximumRecords s.run s.log s.executed
  stage : StageHolds dedupe maximumRecords s.run s.log s.executed s.stage
  once : s.executed.Pairwise fun a b => 0 < a.expectedGeneration →
    a.requestId = b.requestId → b.expectedGeneration ≠ a.expectedGeneration

theorem Settled.later {requestId : String} (h : Settled run executed requestId)
    (hlater : Later run run') : Settled run' executed requestId :=
  fun e he hid hpos => (h e he hid hpos).later hlater

theorem Fresh.later (h : Fresh run executed request) (hlater : Later run run') :
    Fresh run' executed request :=
  fun hpos => ⟨(h hpos).1.later hlater, (h hpos).2⟩

theorem Covered.later (h : Covered dedupe maximumRecords run log executed)
    (hlater : Later run run') : Covered dedupe maximumRecords run' log executed :=
  fun e he hpos => (h e he hpos).imp_right fun hstale => hstale.later hlater

theorem StageHolds.later (h : StageHolds dedupe maximumRecords run log executed stage)
    (hlater : Later run run') : StageHolds dedupe maximumRecords run' log executed stage := by
  cases stage with
  | idle => trivial
  | unknown request => exact Settled.later h hlater
  | refused request result => exact Settled.later h hlater
  | matched request => exact ⟨h.1.later hlater, h.2.later hlater⟩
  | begun request => exact ⟨h.1.later hlater, h.2.1.later hlater, h.2.2⟩
  | executed request settlement =>
      exact ⟨fun e he hid hpos => (h.1 e he hid hpos).imp_left fun hstale => hstale.later hlater,
        fun hpos => (h.2 hpos).later hlater⟩
  | answered request result => exact Settled.later h hlater

variable {s s' : ControlRun V β ω}

namespace ControlRun.Invariant

/-- The state authority has gone on. -/
theorem goOn (hs : s.Invariant sdk dedupe maximumRecords) (hrun : run'.Invariant sdk)
    (hlater : Later s.run run') :
    { s with run := run' : ControlRun V β ω }.Invariant sdk dedupe maximumRecords :=
  ⟨hrun, hs.log, hs.covered.later hlater, hs.stage.later hlater, hs.once⟩

/-- The request at hand is given up or done. -/
theorem idle (hs : s.Invariant sdk dedupe maximumRecords) :
    { s with stage := .idle : ControlRun V β ω }.Invariant sdk dedupe maximumRecords :=
  ⟨hs.run, hs.log, hs.covered, trivial, hs.once⟩

theorem exited (hs : s.Invariant sdk dedupe maximumRecords) :
    s.exited.Invariant sdk dedupe maximumRecords := by
  have hadvanced : Advanced s.run.me s.run.generations
      (s.run.generations.place s.run.me s.run.generations.files none) :=
    advanced_of_step hs.run.generations hs.run.numbered (e := .close s.run.me) rfl
  have hlater := later_of_advanced hadvanced
  refine ⟨hs.run.regenerate hadvanced, ?_, fun e he hpos => ?_, trivial, hs.once⟩
  · have hlog := hs.log
    unfold ControlRun.exited
    cases hstate : s.log with
    | running log =>
        rw [hstate] at hlog
        exact hlog.file
    | closed files =>
        rw [hstate] at hlog
        exact hlog
  · exact (hs.covered e he hpos).imp Pending.closed fun hstale => hstale.later hlater

/-- A request is received. -/
theorem receive (hs : s.Invariant sdk dedupe maximumRecords)
    {log : DurableDedupe β DesktopResult} (hlog : s.log = .running log)
    (request : DesktopRequest ω) :
    (s.receive log request).Invariant sdk dedupe maximumRecords := by
  unfold ControlRun.receive
  cases hlookup : DurableDedupe.lookup log.document request.requestId with
  | some found => exact hs
  | none =>
      refine ⟨hs.run, hs.log, hs.covered, fun e he hid hpos => ?_, hs.once⟩
      rcases hs.covered e he hpos with hpending | hstale
      · rw [hlog] at hpending
        exact absurd (hid ▸ hpending.1) (not_pendingIn_of_lookup hlookup)
      · exact hstale

/-- A current generation was issued. -/
theorem issued_current (hs : s.Invariant sdk dedupe maximumRecords)
    (hpos : 0 < s.run.authority.currentGeneration) :
    Issued s.run.generations s.run.me s.run.authority.currentGeneration := by
  rcases hs.run.shown with hunseen | ⟨states, snapshot, replay, hshown⟩
  · rw [hunseen.generation] at hpos
    exact absurd hpos (Nat.lt_irrefl 0)
  · rw [hshown.generation]
    exact hs.run.issued replay (List.mem_of_getLast? hshown.last)

/-- The generation of the request is compared. -/
theorem checkGeneration (hs : s.Invariant sdk dedupe maximumRecords)
    (hstage : s.stage = .unknown request) :
    (s.checkGeneration sdk request).Invariant sdk dedupe maximumRecords := by
  have hsettled : Settled s.run s.executed request.requestId := by
    have hholds := hs.stage
    rwa [hstage] at hholds
  unfold ControlRun.checkGeneration
  split
  · rename_i hcurrent
    refine ⟨hs.run, hs.log, hs.covered, ⟨hsettled, fun hpos => ⟨?_, fun e he hid hsame => ?_⟩⟩,
      hs.once⟩
    · rw [← hcurrent] at hpos ⊢
      exact hs.issued_current hpos
    · -- an executed request of this generation would have passed
      have hstale := hsettled e he hid (hsame ▸ hpos)
      rcases hstale.current with hzero | hpassed
      · omega
      · omega
  · cases failedResult sdk request.requestId s.run.authority.currentGeneration
        "request.generation-stale" with
    | error e => exact hs.idle
    | ok result => exact ⟨hs.run, hs.log, hs.covered, hsettled, hs.once⟩

variable [Inhabited β]

/-- An operation of the log. -/
theorem afterLog (hcodec : ∀ document, dedupe.decode (dedupe.encode document) = .ok document)
    (hs : s.Invariant sdk dedupe maximumRecords) {log : DurableDedupe β DesktopResult}
    (hlog : s.log = .running log) {call : Call DesktopResult} {script : DedupeScript β}
    (hcall : ∀ e ∈ s.executed, 0 < e.expectedGeneration →
      (∃ result, call = .complete e.requestId result) → Stale s.run e.expectedGeneration)
    (hstage : ∀ log', ((call.program dedupe).run script log) = (.ok (), log') →
      StageHolds dedupe maximumRecords s.run (.running log') s.executed stage) :
    (s.afterLog stage ((call.program dedupe).run script log)).Invariant sdk dedupe
      maximumRecords := by
  have hinvariant : LogInvariant dedupe maximumRecords log := by
    have hholds := hs.log
    rwa [hlog] at hholds
  cases hrun : (call.program dedupe).run script log with
  | mk outcome log' =>
      have hpost := holds_of_run hrun (call_wp hcodec call hinvariant)
      have hcovered : ∀ e ∈ s.executed, 0 < e.expectedGeneration →
          Stale s.run e.expectedGeneration ∨
            (outcome ≠ .crashed →
              Pending dedupe maximumRecords (.running log') e.requestId) ∧
            Pending dedupe maximumRecords (.closed log'.directory) e.requestId := by
        intro e he hpos
        rcases hs.covered e he hpos with hpending | hstale
        · by_cases hcompletes : ∃ result, call = .complete e.requestId result
          · exact Or.inl (hcall e he hpos hcompletes)
          · rw [hlog] at hpending
            have hkept := holds_of_run hrun (wp_call_pending hcodec
              (fun result hresult => hcompletes ⟨result, hresult⟩) hinvariant hpending)
            cases outcome with
            | ok _ => exact Or.inr ⟨fun _ => hkept, hkept.2⟩
            | error e => exact Or.inr ⟨fun _ => hkept, hkept.2⟩
            | crashed => exact Or.inr ⟨fun h => absurd rfl h, hkept⟩
        · exact Or.inl hstale
      cases outcome with
      | ok _ =>
          refine ⟨hs.run, hpost.1, fun e he hpos => ?_, hstage log' hrun, hs.once⟩
          exact (hcovered e he hpos).symm.imp_left fun h => h.1 (by simp)
      | error e =>
          refine ⟨hs.run, hpost.1, fun e he hpos => ?_, trivial, hs.once⟩
          exact (hcovered e he hpos).symm.imp_left fun h => h.1 (by simp)
      | crashed =>
          have hadvanced : Advanced s.run.me s.run.generations
              (s.run.generations.place s.run.me s.run.generations.files none) :=
            advanced_of_step hs.run.generations hs.run.numbered (e := .close s.run.me) rfl
          refine ⟨hs.run.regenerate hadvanced, hpost.1.file, fun e he hpos => ?_, trivial, hs.once⟩
          exact (hcovered e he hpos).symm.imp (fun h => h.2)
            fun hstale => hstale.later (later_of_advanced hadvanced)

/-- The request is recorded. -/
theorem begin (hcodec : ∀ document, dedupe.decode (dedupe.encode document) = .ok document)
    (hs : s.Invariant sdk dedupe maximumRecords) {log : DurableDedupe β DesktopResult}
    (hstage : s.stage = .matched request) (hlog : s.log = .running log)
    (script : DedupeScript β) :
    (s.afterLog (.begun request)
      (((Call.begin request.requestId).program dedupe).run script log)).Invariant sdk dedupe
        maximumRecords := by
  have hmatched := hs.stage
  rw [hstage] at hmatched
  have hinvariant : LogInvariant dedupe maximumRecords log := by
    have hholds := hs.log
    rwa [hlog] at hholds
  refine hs.afterLog hcodec hlog (fun e he hpos hcompletes => ?_) fun log' hrun => ?_
  · obtain ⟨result, hresult⟩ := hcompletes
    cases hresult
  · exact ⟨hmatched.1, hmatched.2, holds_of_run hrun (wp_begin_pending hcodec hinvariant)⟩

/-- The result is recorded. -/
theorem complete (hcodec : ∀ document, dedupe.decode (dedupe.encode document) = .ok document)
    (hs : s.Invariant sdk dedupe maximumRecords) {log : DurableDedupe β DesktopResult}
    {result : DesktopResult}
    (hstage : s.stage = .answered request result ∨ s.stage = .refused request result)
    (hlog : s.log = .running log) (script : DedupeScript β) :
    (s.afterLog .idle
      (((Call.complete request.requestId result).program dedupe).run script log)).Invariant sdk
        dedupe maximumRecords := by
  have hsettled : Settled s.run s.executed request.requestId := by
    have hholds := hs.stage
    rcases hstage with hanswered | hrefused
    · rwa [hanswered] at hholds
    · rwa [hrefused] at hholds
  refine hs.afterLog hcodec hlog (fun e he hpos hcompletes => ?_) fun _ _ => trivial
  obtain ⟨result', hresult⟩ := hcompletes
  exact hsettled e he (Call.complete.inj hresult).1.symm hpos

omit [Inhabited β] in
/-- The request is handed to the executor. -/
theorem execute (hs : s.Invariant sdk dedupe maximumRecords) (hstage : s.stage = .begun request)
    (settlement : Settlement V) :
    { s with
      stage := .executed request settlement
      executed := request :: s.executed : ControlRun V β ω }.Invariant sdk dedupe
        maximumRecords := by
  have hbegun := hs.stage
  rw [hstage] at hbegun
  obtain ⟨hsettled, hfresh, hpending⟩ := hbegun
  refine ⟨hs.run, hs.log, fun e he hpos => ?_, ⟨fun e he hid hpos => ?_, fun hpos => (hfresh hpos).1⟩,
    List.pairwise_cons.mpr ⟨fun e he hpos hid => (hfresh hpos).2 e he hid.symm, hs.once⟩⟩
  · rcases List.mem_cons.mp he with rfl | hold
    · exact Or.inl hpending
    · exact hs.covered e hold hpos
  · rcases List.mem_cons.mp he with rfl | hold
    · exact Or.inr rfl
    · exact Or.inl (hsettled e hold hid hpos)

omit [Inhabited β] in
/-- What was read back is published. -/
theorem publishReadback (hs : s.Invariant sdk dedupe maximumRecords) {a : GenerationAllocator}
    {settlement settlement' : Settlement V} {stamps : Stamps} {script : GenerationScript}
    (hstage : s.stage = .executed request settlement)
    (ha : s.run.generations.allocators s.run.me = some a) (update : DesktopDomainUpdate V) :
    (s.afterReadback (.executed request settlement')
      (s.run.publishDomain sdk a update (requestCause request) none stamps script)).Invariant sdk
        dedupe maximumRecords := by
  have hlater := later_publishDomain hs.run ha update (requestCause request) none stamps script
  have hrun := hs.run.publishDomain ha update (requestCause request) none stamps script
  cases hpublish : s.run.publishDomain sdk a update (requestCause request) none stamps script with
  | mk outcome run' =>
      rw [hpublish] at hlater hrun
      have hs' := hs.goOn hrun hlater
      cases outcome with
      | crashed => exact hs'.exited
      | error e => exact hs'.idle
      | ok result =>
          cases result with
          | none => exact hs'.idle
          | some envelope =>
              have hholds := hs'.stage
              rw [show ({ s with run := run' } : ControlRun V β ω).stage = _ from hstage] at hholds
              exact ⟨hs'.run, hs'.log, hs'.covered, hholds, hs'.once⟩

omit [Inhabited β] in
/-- The result is published; its generation has passed that of the request. -/
theorem publishResult (hs : s.Invariant sdk dedupe maximumRecords) {a : GenerationAllocator}
    {settlement : Settlement V} {stamps : Stamps} {script : GenerationScript}
    {outcome : CommandOutcome} (hstage : s.stage = .executed request settlement)
    (ha : s.run.generations.allocators s.run.me = some a) :
    (s.afterResult request
      (s.run.publishCommandResult sdk a outcome stamps script)).Invariant sdk dedupe
        maximumRecords := by
  have hrun := hs.run.publishCommandResult ha outcome stamps script
  cases hpublish : s.run.publishCommandResult sdk a outcome stamps script with
  | mk answer run' =>
      rw [hpublish] at hrun
      obtain ⟨hlater, hanswer⟩ := later_publishCommandResult hs.run ha hpublish
      have hs' := hs.goOn hrun hlater
      cases answer with
      | crashed => exact hs'.exited
      | error e => exact hs'.idle
      | ok result =>
          have hholds := hs.stage
          rw [hstage] at hholds
          obtain ⟨hexecuted, hissued⟩ := hholds
          obtain ⟨hlatest, hnew⟩ := hanswer result rfl
          refine ⟨hs'.run, hs'.log, hs'.covered, fun e he hid hpos => ?_, hs'.once⟩
          rcases hexecuted e he hid hpos with hstale | hsame
          · exact hstale.later hlater
          · rw [hsame] at hpos ⊢
            have hbehind := (hissued hpos).behind
            exact ⟨hbehind.later hlater, Or.inr (hnew _ hbehind), fun h => absurd h hlatest⟩

theorem powerLoss (hcodec : ∀ document, dedupe.decode (dedupe.encode document) = .ok document)
    (hs : s.Invariant sdk dedupe maximumRecords) {generations : GenerationRun}
    {files : DedupeFiles β} (hgenerations : s.run.generations.step .powerLoss generations)
    (hreverts : s.log.files.Reverts files) :
    { s with
      run := { s.run with generations := generations }
      log := .closed files
      stage := .idle : ControlRun V β ω }.Invariant sdk dedupe maximumRecords := by
  have hadvanced := advanced_of_step hs.run.generations hs.run.numbered hgenerations
  have hclosed : LogStateInvariant dedupe maximumRecords (.closed s.log.files) := hs.exited.log
  have hstep : logStep dedupe maximumRecords (.closed s.log.files) .powerLoss (.closed files) :=
    ⟨files, hreverts, rfl⟩
  have hlog := logStateInvariant_step hcodec hclosed hstep
  refine ⟨hs.run.regenerate hadvanced, hlog, fun e he hpos => ?_, trivial, hs.once⟩
  refine (hs.covered e he hpos).imp (fun hpending content hmem found hfound => ?_)
    fun hstale => hstale.later (later_of_advanced hadvanced)
  obtain ⟨shown, hshown, hcell⟩ := hreverts () (.named ())
  have hcell : cell files = Cell.settled shown := hcell
  rw [hcell] at hmem
  obtain rfl : content = shown := by
    simpa [Cell.settled, Cell.values] using hmem
  exact hpending.closed content hshown found hfound

/-- The next process has found the log and the generations. -/
theorem restart (hs : s.Invariant sdk dedupe maximumRecords) {files files' : DedupeFiles β}
    {generationScript : GenerationScript} {script : DedupeScript β}
    {log : DurableDedupe β DesktopResult} (hlog : s.log = .closed files)
    (hopen : (GenerationAllocator.open.run generationScript
      ⟨s.run.generations.files, .new 64⟩).1 = .ok ())
    (hrun : (DurableDedupe.open dedupe maximumRecords).run script files = (.ok log, files')) :
    { s with
      run := s.run.openAuthority generationScript
      log := .running log
      stage := .idle : ControlRun V β ω }.Invariant sdk dedupe maximumRecords := by
  have hclosed := hs.log
  rw [hlog] at hclosed
  obtain ⟨-, hdirectory, -, hfound⟩ := holds_of_run hrun (open_wp files)
  refine ⟨hs.run.openAuthority generationScript, logInvariant_open (fun _ _ => hclosed) hrun,
    fun e he hpos => ?_, trivial, hs.once⟩
  rcases hs.covered e he hpos with hpending | hstale
  · rw [hlog] at hpending
    refine Or.inl ⟨hpending _ (Cell.current_mem_values _) _ hfound, ?_⟩
    rw [hdirectory]
    exact hpending
  · exact Or.inr (hstale.openAuthority hopen)

/-- The step lemma. -/
theorem step (hcodec : ∀ document, dedupe.decode (dedupe.encode document) = .ok document)
    (hs : s.Invariant sdk dedupe maximumRecords) {e : ControlEvent V β ω}
    (h : s.step sdk dedupe maximumRecords slots e s') :
    s'.Invariant sdk dedupe maximumRecords := by
  cases e with
  | receive request =>
      obtain ⟨-, log, hlog, rfl⟩ := h
      exact hs.receive hlog request
  | checkGeneration =>
      obtain ⟨request, hstage, rfl⟩ := h
      exact hs.checkGeneration hstage
  | begin script =>
      obtain ⟨request, log, hstage, hlog, rfl⟩ := h
      exact hs.begin hcodec hstage hlog script
  | execute result =>
      obtain ⟨request, hstage, rfl⟩ := h
      exact hs.execute hstage (settle result)
  | publishReadback stamps script =>
      obtain ⟨request, readback, rest, status, diagnostic, a, hstage, ha, rfl⟩ := h
      exact hs.publishReadback hstage ha (.unversioned readback)
  | publishResult stamps script =>
      obtain ⟨request, status, diagnostic, a, hstage, ha, rfl⟩ := h
      exact hs.publishResult hstage ha
  | complete script =>
      obtain ⟨request, result, log, hstage, hlog, rfl⟩ := h
      exact hs.complete hcodec hstage hlog script
  | authority e =>
      obtain ⟨hordinary, run, hstep, rfl⟩ := h
      exact hs.goOn (hs.run.step hstep) (later_of_step hs.run hordinary hstep)
  | exit =>
      obtain rfl := h
      exact hs.exited
  | powerLoss =>
      obtain ⟨generations, files, hgenerations, hreverts, rfl⟩ := h
      exact hs.powerLoss hcodec hgenerations hreverts
  | restart generationScript script =>
      obtain ⟨files, hlog, hopen, log, files', hrun, rfl⟩ := h
      exact hs.restart hlog hopen hrun

end ControlRun.Invariant

variable [Inhabited β]

theorem ControlRun.invariant_of_reachable
    (hcodec : ∀ document, dedupe.decode (dedupe.encode document) = .ok document)
    (h : (controlSystem sdk dedupe maximumRecords slots).Reachable s) :
    s.Invariant sdk dedupe maximumRecords := by
  refine h.invariant ?_ fun s e s' hs hstep => hs.step hcodec hstep
  rintro s ⟨run, files, files', script, log, content, hrun, hcell, hopen, rfl⟩
  refine ⟨AuthorityRun.invariant_of_reachable (.initial hrun), logInvariant_open ?_ hopen,
    fun e he => (by cases he), trivial, List.Pairwise.nil⟩
  intro document hfound
  rw [hcell] at hfound ⊢
  refine ⟨rfl, fun content' hmem => ?_⟩
  obtain rfl : content' = content := by
    simpa [Cell.settled, Cell.values] using hmem
  exact ⟨document, by simpa using hfound⟩

/-- No request is executed twice: of the executions for one identifier and one positive
generation there is at most one, whatever fails, whichever records are evicted, and however
often the process or the machine stops and starts again. -/
theorem requests_execute_at_most_once
    (hcodec : ∀ document, dedupe.decode (dedupe.encode document) = .ok document)
    (h : (controlSystem sdk dedupe maximumRecords slots).Reachable s) :
    s.executed.Pairwise fun a b => 0 < a.expectedGeneration →
      a.requestId = b.requestId → b.expectedGeneration ≠ a.expectedGeneration :=
  (ControlRun.invariant_of_reachable hcodec h).once

end Invariant

section Sample

/-- Contents are documents, or text that is none. -/
abbrev SampleContent :=
  Option (DedupeDocument DesktopResult)

def sampleDedupe : DedupeSdk SampleContent DesktopResult where
  empty := none
  encode document := some document
  decode content := content.elim (.error "EOF while parsing a value") .ok
  size _ := 64
  parseUuid := some
  requestId := DesktopResult.requestId
  validateResult _ := .ok ()

theorem sampleDedupe_codec (document : DedupeDocument DesktopResult) :
    sampleDedupe.decode (sampleDedupe.encode document) = .ok document :=
  rfl

def sampleRequest : DesktopRequest Unit :=
  ⟨"00000000-0000-4000-8000-000000000003", 1, ()⟩

def sampleFiles : DedupeFiles SampleContent :=
  ⟨fun _ _ => Cell.settled none⟩

/-- An empty log with room for one request. -/
def sampleControl (run : AuthorityRun SampleValue) (stage : HandleStage SampleValue Unit) :
    ControlRun SampleValue SampleContent Unit :=
  ⟨run, .running ⟨sampleFiles, 1, ⟨1, []⟩, none⟩, stage, []⟩

/-- The next critical section of the request at hand, without failures. -/
def ControlRun.proceed (s : ControlRun SampleValue SampleContent Unit) :
    ControlRun SampleValue SampleContent Unit :=
  match s.stage, s.log, s.run.generations.allocators s.run.me with
  | .unknown request, _, _ => s.checkGeneration sampleSdk request
  | .matched request, .running log, _ =>
      s.afterLog (.begun request) (((Call.begin request.requestId).program sampleDedupe).run [] log)
  | .begun request, _, _ =>
      { s with
        stage := .executed request (settle (.ok .acknowledged))
        executed := request :: s.executed }
  | .executed request ⟨[], status, diagnostic⟩, _, some a =>
      s.afterResult request
        (s.run.publishCommandResult sampleSdk a ⟨request.requestId, status, diagnostic⟩
          ⟨sampleStamp, sampleStamp⟩ [])
  | .answered request result, .running log, _ =>
      s.afterLog .idle
        (((Call.complete request.requestId result).program sampleDedupe).run [] log)
  | _, _, _ => s

/-- The request is looked up, if none is being handled. -/
def ControlRun.meet (request : DesktopRequest Unit)
    (s : ControlRun SampleValue SampleContent Unit) : ControlRun SampleValue SampleContent Unit :=
  match s.stage, s.log with
  | .idle, .running log => s.receive log request
  | _, _ => s

theorem reachable_proceed {s : ControlRun SampleValue SampleContent Unit}
    (h : (controlSystem sampleSdk sampleDedupe 1 16).Reachable s) :
    (controlSystem sampleSdk sampleDedupe 1 16).Reachable s.proceed := by
  unfold ControlRun.proceed
  split
  · next request hstage =>
      exact .step (e := .checkGeneration) h ⟨request, hstage, rfl⟩
  · next request log hstage hlog =>
      exact .step (e := .begin []) h ⟨request, log, hstage, hlog, rfl⟩
  · next request hstage =>
      exact .step (e := .execute (.ok .acknowledged)) h ⟨request, hstage, rfl⟩
  · next request status diagnostic a hstage ha =>
      exact .step (e := .publishResult ⟨sampleStamp, sampleStamp⟩ []) h
        ⟨request, status, diagnostic, a, hstage, ha, rfl⟩
  · next request result log hstage hlog =>
      exact .step (e := .complete []) h ⟨request, result, log, Or.inl hstage, hlog, rfl⟩
  · exact h

theorem reachable_meet {s : ControlRun SampleValue SampleContent Unit}
    (request : DesktopRequest Unit)
    (h : (controlSystem sampleSdk sampleDedupe 1 16).Reachable s) :
    (controlSystem sampleSdk sampleDedupe 1 16).Reachable (s.meet request) := by
  unfold ControlRun.meet
  split
  · next log hstage hlog => exact .step (e := .receive request) h ⟨hstage, log, hlog, rfl⟩
  · exact h

/-- A request from its arrival to its answer. -/
def ControlRun.handled (request : DesktopRequest Unit)
    (s : ControlRun SampleValue SampleContent Unit) : ControlRun SampleValue SampleContent Unit :=
  (s.meet request).proceed.proceed.proceed.proceed.proceed

theorem reachable_handled {s : ControlRun SampleValue SampleContent Unit}
    (request : DesktopRequest Unit)
    (h : (controlSystem sampleSdk sampleDedupe 1 16).Reachable s) :
    (controlSystem sampleSdk sampleDedupe 1 16).Reachable (s.handled request) :=
  reachable_proceed (reachable_proceed (reachable_proceed (reachable_proceed (reachable_proceed
    (reachable_meet request h)))))

def laterRequest : DesktopRequest Unit :=
  ⟨"00000000-0000-4000-8000-000000000004", 2, ()⟩

/-- Two requests are handled one after the other; the log keeps the second one only. -/
def handledControl : ControlRun SampleValue SampleContent Unit :=
  ((sampleControl shownSample .idle).handled sampleRequest).handled laterRequest

/-- The first request arrives once more. -/
def repeatedControl : ControlRun SampleValue SampleContent Unit :=
  (handledControl.meet sampleRequest).proceed

def HandleStage.refusal {V : DesktopDomainId → Type} {ω : Type} :
    HandleStage V ω → Option (DesktopRequest ω)
  | .refused request _ => some request
  | _ => none

theorem shownControl_reachable :
    (controlSystem sampleSdk sampleDedupe 1 16).Reachable (sampleControl shownSample .idle) := by
  have hopened : (controlSystem sampleSdk sampleDedupe 1 16).Reachable
      (sampleControl openedSample .idle) :=
    .initial ⟨openedSample, sampleFiles, sampleFiles, [], _, none,
      ⟨_, [], .initial ⟨emptyFiles, none, rfl, rfl⟩, by decide, rfl⟩, rfl, rfl, rfl⟩
  have hstaged : (controlSystem sampleSdk sampleDedupe 1 16).Reachable
      (sampleControl stagedSample .idle) :=
    .step (e := .authority (.stageInitial (fun _ => false) (placeholders SampleValue) sampleStamp
      [])) hopened ⟨trivial, stagedSample, ⟨⟨64, 1, 65⟩, by decide, rfl⟩, rfl⟩
  obtain ⟨staged, h⟩ := Option.isSome_iff_exists.mp
    (show stagedSample.staged.isSome = true by decide)
  refine .step (e := .authority .commitInitial) hstaged
    ⟨trivial, shownSample, ⟨staged, h, ?_⟩, rfl⟩
  rw [shownSample, h]
  rfl

/-- The log has forgotten the first of two executed requests, which is refused all the same. -/
theorem requests_execute_at_most_once_sample :
    repeatedControl.executed = [laterRequest, sampleRequest] ∧
      repeatedControl.stage.refusal = some sampleRequest ∧
      repeatedControl.executed.Pairwise fun a b => 0 < a.expectedGeneration →
        a.requestId = b.requestId → b.expectedGeneration ≠ a.expectedGeneration :=
  ⟨by decide, by decide,
    requests_execute_at_most_once sampleDedupe_codec (reachable_proceed
      (reachable_meet sampleRequest (reachable_handled laterRequest
        (reachable_handled sampleRequest shownControl_reachable))))⟩

end Sample

end Desktop
end SleepySession
