import SleepySession.Launcher.Metrics
import SleepySession.Lib.Transition
import SleepySession.Store.PlainReplacement

/-!
# Launch counts over whole runs

A launch that is counted in memory reaches the file only if the replacement
succeeds, and the file can be opened again only if the document is within the
limit of `open`.  In runs in which both hold before every launch, memory and
file agree after every operation, crash and loss of power.
-/

namespace SleepySession
namespace Launcher

open Program

variable {β : Type} {sdk : MetricsSdk β}
variable {entries entries' found : Table Text Usage} {desktopId : Text} {now : UInt64}

section Documents

/-- Two tables with the same entries, in any order. -/
def SameEntries (entries entries' : Table Text Usage) : Prop :=
  ∀ desktopId, entries.get? desktopId = entries'.get? desktopId

/-- Reading a document that was written gives the same document. -/
def MetricsSdk.RoundTrips (sdk : MetricsSdk β) : Prop :=
  ∀ document, ∃ document', sdk.decode (sdk.encode document) = .ok document' ∧
    document'.schemaVersion = document.schemaVersion ∧
    SameEntries document'.entries document.entries

/-- The content that `persist` writes. -/
def document (sdk : MetricsSdk β) (entries : Table Text Usage) : β :=
  sdk.encode ⟨metricsVersion, entries⟩

/-- What `open` finds in a file with the given content. -/
def FoundMetrics (sdk : MetricsSdk β) (content : Option β) (entries : Table Text Usage) :
    Prop :=
  match content with
  | none => entries = Table.empty
  | some bytes => LauncherMetrics.checkBytes sdk bytes = .ok entries

/-- A document within the limit is accepted and decodes to the entries it was made of. -/
theorem checkBytes_document
    (hround : sdk.RoundTrips)
    (hsize : sdk.size (document sdk entries) ≤ maxEntryBytes) :
    ∃ found, LauncherMetrics.checkBytes sdk (document sdk entries) = .ok found ∧
      SameEntries found entries := by
  obtain ⟨⟨version, found⟩, hdecode, rfl, hsame⟩ := hround ⟨metricsVersion, entries⟩
  refine ⟨found, ?_, hsame⟩
  unfold LauncherMetrics.checkBytes
  rw [if_neg (Nat.not_lt.mpr hsize), document, hdecode]
  simp

/-- A document beyond the limit is refused. -/
theorem checkBytes_oversized
    (hsize : maxEntryBytes < sdk.size (document sdk entries)) :
    LauncherMetrics.checkBytes sdk (document sdk entries) =
      .error ⟨.invalidData, "launcher metrics exceed limit"⟩ :=
  if_pos hsize

end Documents

section Steps

/-- The entry of the metrics. -/
def metricsCell (files : MetricsFiles β) : Cell β :=
  files () (.named .launcher)

/-- Whatever the file may show, now or after a loss of power, is accepted. -/
structure Openable (sdk : MetricsSdk β) (files : MetricsFiles β) : Prop where
  torn : (metricsCell files).torn = []
  values : ∀ content ∈ (metricsCell files).values, ∃ found, FoundMetrics sdk content found

/-- Memory and file agree. -/
structure InStep (sdk : MetricsSdk β) (metrics : LauncherMetrics β) : Prop where
  file : Openable sdk metrics.directory
  current : ∃ found, FoundMetrics sdk (metricsCell metrics.directory).current found ∧
    SameEntries found metrics.entries

/-- An answer that refuses nothing, with a free name for a temporary file. -/
def Favourable (files : MetricsFiles β) (answer : Answer MetricsFile β) : Prop :=
  (answer.fault = .proceed ∨ answer.fault = .crash) ∧
    (files () (.temporary .launcher answer.uuid)).current = none

variable {A : Answer MetricsFile β → Prop} {metrics metrics' : LauncherMetrics β}
variable {files files' : MetricsFiles β}

theorem wp_onDirectory
    {α : Type}
    (m : Program (Answer MetricsFile β) (MetricsFiles β) IoError α)
    (Q : Post (LauncherMetrics β) IoError α) :
    (LauncherMetrics.onDirectory m).wp A Q metrics ↔
      m.wp A
        ⟨fun a files => Q.ok a { metrics with directory := files },
          fun e files => Q.error e { metrics with directory := files },
          fun files => Q.crashed { metrics with directory := files }⟩ metrics.directory :=
  wp_zoom_field m Q metrics

/-- Opening takes over what the file shows, and changes nothing. -/
theorem open_wp :
    (LauncherMetrics.open sdk).wp A
      ⟨fun metrics files' => files' = files ∧ metrics.directory = files ∧
          FoundMetrics sdk (metricsCell files).current metrics.entries,
        fun _ files' => files' = files, fun files' => files' = files⟩ files := by
  unfold LauncherMetrics.open SecureDir.validateFileIfPresent
  simp only [wp_bind, LauncherMetrics.other, wp_mapError]
  refine SecureDir.wp_syscall ⟨fun _ _ => rfl, rfl⟩ ?_
  simp only
  refine SecureDir.wp_openRegularOptional ⟨fun _ _ => rfl, rfl⟩ ?_
  simp only [wp_pure]
  refine SecureDir.wp_readOptional ⟨fun _ _ => rfl, rfl⟩ ?_
  simp only [metricsCell]
  cases (files () (.named .launcher)).current with
  | none => exact ⟨rfl, rfl, rfl⟩
  | some bytes =>
      simp only [wp_orThrow, wp_bind, wp_get, wp_pure]
      exact ⟨fun found hfound => ⟨trivial, trivial, hfound⟩, fun _ _ => trivial⟩

/-- Opening does not refuse a content that passes its checks. -/
theorem open_neverFails
    (hA : SecureDir.Willing A)
    (hfound : FoundMetrics sdk (metricsCell files).current found) :
    (LauncherMetrics.open sdk).wp A SecureDir.neverFails files := by
  unfold LauncherMetrics.open SecureDir.validateFileIfPresent
  simp only [wp_bind, LauncherMetrics.other, wp_mapError]
  refine SecureDir.wp_syscall_willing hA trivial ?_
  simp only
  refine SecureDir.wp_openRegularOptional_willing hA trivial ?_
  simp only [wp_pure]
  refine SecureDir.wp_readOptional_willing hA trivial ?_
  unfold metricsCell at hfound
  cases hcontent : (files () (.named .launcher)).current with
  | none => trivial
  | some bytes =>
      rw [hcontent] at hfound
      simp only [wp_bind]
      exact wp_orThrow_of_ok A hfound trivial

/-- What a replacement of the document may have done to the file, at any point. -/
def Attempted (sdk : MetricsSdk β) (entries : Table Text Usage)
    (files files' : MetricsFiles β) : Prop :=
  (metricsCell files).Shrinks (metricsCell files') ∨
    (metricsCell files).Wrote (some (document sdk entries)) (metricsCell files')

theorem Openable.attempted
    (h : Openable sdk files)
    (hround : sdk.RoundTrips)
    (hsize : sdk.size (document sdk entries) ≤ maxEntryBytes)
    (hattempted : Attempted sdk entries files files') :
    Openable sdk files' := by
  rcases hattempted with hshrinks | hwrote
  · exact ⟨hshrinks.2.1.trans h.torn, fun content hmem =>
      h.values content (hshrinks.values_subset hmem)⟩
  · refine ⟨hwrote.2.1, ?_⟩
    intro content hmem
    rcases hwrote.2.2 content hmem with rfl | hold
    · obtain ⟨found, hfound, _⟩ := checkBytes_document hround hsize
      exact ⟨found, hfound⟩
    · exact h.values content hold

theorem InStep.of_settled
    (hround : sdk.RoundTrips)
    (hsize : sdk.size (document sdk metrics.entries) ≤ maxEntryBytes)
    (hcell : metricsCell metrics.directory =
      Cell.settled (some (document sdk metrics.entries))) :
    InStep sdk metrics := by
  obtain ⟨found, hfound, hsame⟩ := checkBytes_document hround hsize
  refine ⟨⟨by rw [hcell]; rfl, ?_⟩, found, ?_, hsame⟩
  · rw [hcell]
    intro content hmem
    obtain rfl : content = some (document sdk metrics.entries) := by
      simpa [Cell.settled, Cell.values] using hmem
    exact ⟨found, hfound⟩
  · rw [hcell]
    exact hfound

theorem recordLaunch_invalid
    (hinvalid : validDesktopId desktopId = false) :
    LauncherMetrics.recordLaunch sdk desktopId now =
      Program.throw ⟨.invalidInput, "invalid desktop id"⟩ := by
  unfold LauncherMetrics.recordLaunch
  simp [hinvalid]

/-- Memory changes before the file does; the file is the old or the new document. -/
theorem recordLaunch_wp
    (hvalid : validDesktopId desktopId = true) :
    (LauncherMetrics.recordLaunch sdk desktopId now).wp A
      ⟨fun _ metrics' => metrics'.entries = launched metrics.entries desktopId now ∧
          metricsCell metrics'.directory = Cell.settled (some (document sdk metrics'.entries)),
        fun _ metrics' => metrics'.entries = launched metrics.entries desktopId now ∧
          Attempted sdk metrics'.entries metrics.directory metrics'.directory,
        fun metrics' => Attempted sdk (launched metrics.entries desktopId now)
          metrics.directory metrics'.directory⟩ metrics := by
  unfold LauncherMetrics.recordLaunch LauncherMetrics.persist LauncherMetrics.replace
  simp only [hvalid, Bool.not_true, Bool.false_eq_true, if_false, wp_bind, wp_modify, wp_get]
  rw [wp_onDirectory]
  simp only [LauncherMetrics.other, wp_mapError]
  refine SecureDir.wp_atomicReplace SecureDir.Silent.pure SecureDir.Silent.pure
    SecureDir.Silent.pure ?_ ?_
  · intro files' htouched
    exact ⟨fun _ _ => ⟨trivial, htouched.2⟩, htouched.2⟩
  · intro files' hreplaced
    exact ⟨trivial, hreplaced.2⟩

/-- An accepted launch that nothing refuses is not an error. -/
theorem recordLaunch_neverFails
    (hvalid : validDesktopId desktopId = true)
    (hA : ∀ answer, A answer → Favourable metrics.directory answer) :
    (LauncherMetrics.recordLaunch sdk desktopId now).wp A SecureDir.neverFails metrics := by
  unfold LauncherMetrics.recordLaunch LauncherMetrics.persist LauncherMetrics.replace
  simp only [hvalid, Bool.not_true, Bool.false_eq_true, if_false, wp_bind, wp_modify, wp_get]
  rw [wp_onDirectory]
  simp only [LauncherMetrics.other, wp_mapError]
  exact SecureDir.atomicReplace_neverFails (fun answer h => (hA answer h).1)
    fun answer h => (hA answer h).2

end Steps

section Runs

variable [Inhabited β]

/-- Metrics in use, or the file that a process has left behind. -/
inductive MetricsState (β : Type) where
  | running (metrics : LauncherMetrics β)
  | closed (files : MetricsFiles β)

/-- What may happen to the metrics. -/
inductive MetricsEvent (β : Type) where
  | recordLaunch (desktopId : Text) (now : UInt64) (script : List (Answer MetricsFile β))
  | close
  | powerLoss
  | reopen (script : List (Answer MetricsFile β))

/-- The steps of the metrics; a process that stops leaves the file as it is. -/
def metricsStep (sdk : MetricsSdk β) :
    MetricsState β → MetricsEvent β → MetricsState β → Prop
  | .running metrics, .recordLaunch desktopId now script, s' =>
      ∃ outcome metrics',
        (LauncherMetrics.recordLaunch sdk desktopId now).run script metrics =
          (outcome, metrics') ∧
        ((outcome ≠ .crashed ∧ s' = .running metrics') ∨ s' = .closed metrics'.directory)
  | .running metrics, .close, s' => s' = .closed metrics.directory
  | .closed files, .powerLoss, s' => ∃ files', files.Reverts files' ∧ s' = .closed files'
  | .closed files, .reopen script, s' =>
      ∃ outcome files', (LauncherMetrics.open sdk).run script files = (outcome, files') ∧
        ((∃ metrics, outcome = .ok metrics ∧ s' = .running metrics) ∨ s' = .closed files')
  | _, _, _ => False

/-- The runs of metrics that were opened over any durable file. -/
def metricsSystem (sdk : MetricsSdk β) : System (MetricsState β) (MetricsEvent β) where
  initial s :=
    ∃ files files' script metrics content, metricsCell files = Cell.settled content ∧
      (LauncherMetrics.open sdk).run script files = (.ok metrics, files') ∧
      s = .running metrics
  step := metricsStep sdk

/-- An accepted launch leaves a document within the limit, and nothing refuses to write it. -/
def Safe (sdk : MetricsSdk β) (metrics : LauncherMetrics β) (desktopId : Text) (now : UInt64)
    (script : List (Answer MetricsFile β)) : Prop :=
  validDesktopId desktopId = true →
    sdk.size (document sdk (launched metrics.entries desktopId now)) ≤ maxEntryBytes ∧
      ∀ answer ∈ default :: script, Favourable metrics.directory answer

/-- The condition on a step. -/
def SafeEvent (sdk : MetricsSdk β) : MetricsState β → MetricsEvent β → Prop
  | .running metrics, .recordLaunch desktopId now script =>
      Safe sdk metrics desktopId now script
  | _, _ => True

variable {metrics metrics' : LauncherMetrics β} {files files' : MetricsFiles β}
variable {script : List (Answer MetricsFile β)} {outcome : Outcome IoError Unit}

/-- What a launch may do, by how it ends. -/
def LaunchResult (sdk : MetricsSdk β) (metrics : LauncherMetrics β) (desktopId : Text)
    (now : UInt64) (metrics' : LauncherMetrics β) : Outcome IoError Unit → Prop
  | .ok _ => validDesktopId desktopId = true ∧
      metrics'.entries = launched metrics.entries desktopId now ∧
      metricsCell metrics'.directory = Cell.settled (some (document sdk metrics'.entries))
  | .error _ => validDesktopId desktopId = false ∧ metrics' = metrics
  | .crashed => Openable sdk metrics'.directory

/-- The step lemma of a launch. -/
theorem launchResult_of_run
    (hround : sdk.RoundTrips)
    (h : InStep sdk metrics)
    (hsafe : Safe sdk metrics desktopId now script)
    (hrun : (LauncherMetrics.recordLaunch sdk desktopId now).run script metrics =
      (outcome, metrics')) :
    LaunchResult sdk metrics desktopId now metrics' outcome := by
  cases hvalid : validDesktopId desktopId with
  | false =>
      rw [recordLaunch_invalid hvalid] at hrun
      cases hrun
      exact ⟨hvalid, rfl⟩
  | true =>
      obtain ⟨hsize, hfavourable⟩ := hsafe hvalid
      have hdefault := hfavourable default List.mem_cons_self
      have hscript : ∀ answer ∈ script, Favourable metrics.directory answer :=
        fun answer h => hfavourable answer (List.mem_cons_of_mem _ h)
      have hpost := holds_of_allowed_run hdefault hscript hrun
        (wp_and (recordLaunch_wp hvalid) (recordLaunch_neverFails hvalid fun _ h => h))
      cases outcome with
      | ok _ => exact ⟨hvalid, hpost.1⟩
      | error _ => exact hpost.2.elim
      | crashed => exact h.file.attempted hround hsize hpost.1

theorem LaunchResult.inStep
    (hround : sdk.RoundTrips)
    (h : InStep sdk metrics)
    (hsafe : Safe sdk metrics desktopId now script)
    (hresult : LaunchResult sdk metrics desktopId now metrics' outcome)
    (hne : outcome ≠ .crashed) :
    InStep sdk metrics' := by
  cases outcome with
  | ok _ =>
      obtain ⟨hvalid, hentries, hcell⟩ := hresult
      refine InStep.of_settled hround ?_ hcell
      rw [hentries]
      exact (hsafe hvalid).1
  | error _ =>
      rw [hresult.2]
      exact h
  | crashed => exact absurd rfl hne

theorem LaunchResult.openable
    (hround : sdk.RoundTrips)
    (h : InStep sdk metrics)
    (hsafe : Safe sdk metrics desktopId now script)
    (hresult : LaunchResult sdk metrics desktopId now metrics' outcome) :
    Openable sdk metrics'.directory := by
  by_cases hcrashed : outcome = .crashed
  · subst hcrashed
    exact hresult
  · exact (hresult.inStep hround h hsafe hcrashed).file

/-- Metrics that were just opened. -/
theorem inStep_open
    {script : List (Answer MetricsFile β)}
    (hfile : ∀ found, FoundMetrics sdk (metricsCell files).current found → Openable sdk files)
    (hrun : (LauncherMetrics.open sdk).run script files = (.ok metrics, files')) :
    InStep sdk metrics := by
  have hopen := holds_of_run hrun open_wp
  obtain ⟨_, rfl, hfound⟩ := hopen
  exact ⟨hfile _ hfound, _, hfound, fun _ => rfl⟩

omit [Inhabited β] in
theorem Openable.of_settled
    {content : Option β}
    (hcell : metricsCell files = Cell.settled content)
    (hfound : ∃ found, FoundMetrics sdk content found) :
    Openable sdk files := by
  refine ⟨by rw [hcell]; rfl, ?_⟩
  rw [hcell]
  intro content' hmem
  obtain rfl : content' = content := by
    simpa [Cell.settled, Cell.values] using hmem
  exact hfound

/-- The invariant of the runs that meet the condition. -/
def MetricsInvariant (sdk : MetricsSdk β) : MetricsState β → Prop
  | .running metrics => InStep sdk metrics
  | .closed files => Openable sdk files

theorem metricsInvariant_step
    {s s' : MetricsState β} {event : MetricsEvent β}
    (hround : sdk.RoundTrips)
    (h : MetricsInvariant sdk s)
    (hsafe : SafeEvent sdk s event)
    (hstep : metricsStep sdk s event s') :
    MetricsInvariant sdk s' := by
  cases s with
  | running metrics =>
      cases event with
      | recordLaunch desktopId now script =>
          obtain ⟨outcome, metrics', hrun, hnext⟩ := hstep
          have hresult := launchResult_of_run hround h hsafe hrun
          rcases hnext with ⟨hne, rfl⟩ | rfl
          · exact hresult.inStep hround h hsafe hne
          · exact hresult.openable hround h hsafe
      | close =>
          cases hstep
          exact h.file
      | powerLoss => exact hstep.elim
      | reopen script => exact hstep.elim
  | closed files =>
      cases event with
      | recordLaunch desktopId now script => exact hstep.elim
      | close => exact hstep.elim
      | powerLoss =>
          obtain ⟨files', hreverts, rfl⟩ := hstep
          obtain ⟨content, hmem, hcell⟩ := hreverts () (.named .launcher)
          exact Openable.of_settled hcell (h.values content hmem)
      | reopen script =>
          obtain ⟨outcome, files', hrun, hnext⟩ := hstep
          rcases hnext with ⟨metrics, rfl, rfl⟩ | rfl
          · exact inStep_open (fun _ _ => h) hrun
          · have hopen := holds_of_run hrun open_wp
            have hsame : files' = files := by
              cases outcome with
              | ok _ => exact hopen.1
              | error _ => exact hopen
              | crashed => exact hopen
            rw [hsame]
            exact h

theorem metricsInvariant_of_reachable
    {s : MetricsState β}
    (hround : sdk.RoundTrips)
    (h : ((metricsSystem sdk).restrict (SafeEvent sdk)).Reachable s) :
    MetricsInvariant sdk s := by
  refine h.invariant ?_ ?_
  swap
  · rintro s event s' hinvariant ⟨hsafe, hstep⟩
    exact metricsInvariant_step hround hinvariant hsafe hstep
  rintro s ⟨files, files', script, metrics, content, hcell, hrun, rfl⟩
  refine inStep_open ?_ hrun
  intro found hfound
  rw [hcell] at hfound
  exact Openable.of_settled hcell ⟨found, hfound⟩

/-- What metrics in use guarantee. -/
structure MetricsSurvive (sdk : MetricsSdk β) (metrics : LauncherMetrics β) : Prop where
  /-- The file is accepted and decodes to the metrics in memory. -/
  in_file : ∃ found, FoundMetrics sdk (metricsCell metrics.directory).current found ∧
    SameEntries found metrics.entries
  /-- So does the document that the next launch writes. -/
  launch_ok : ∀ desktopId now script metrics', Safe sdk metrics desktopId now script →
    (LauncherMetrics.recordLaunch sdk desktopId now).run script metrics = (.ok (), metrics') →
      metrics'.entries = launched metrics.entries desktopId now ∧
        metricsCell metrics'.directory =
          Cell.settled (some (document sdk metrics'.entries)) ∧
        ∃ found, LauncherMetrics.checkBytes sdk (document sdk metrics'.entries) = .ok found ∧
          SameEntries found metrics'.entries
  /-- A launch that is an error changes neither memory nor file. -/
  launch_error : ∀ desktopId now script e metrics', Safe sdk metrics desktopId now script →
    (LauncherMetrics.recordLaunch sdk desktopId now).run script metrics =
        (.error e, metrics') →
      metrics' = metrics
  /-- However the launch ends, a later `open` does not refuse what it left behind. -/
  reopened : ∀ desktopId now script outcome metrics', Safe sdk metrics desktopId now script →
    (LauncherMetrics.recordLaunch sdk desktopId now).run script metrics = (outcome, metrics') →
      ∀ files', files' = metrics'.directory ∨ metrics'.directory.Reverts files' →
        ∀ later, (∀ answer ∈ default :: later,
            answer.fault = .proceed ∨ answer.fault = .crash) →
          ∀ e files'', (LauncherMetrics.open sdk).run later files' ≠ (.error e, files'')

theorem Openable.open_ne_error
    {later : List (Answer MetricsFile β)}
    (h : Openable sdk files)
    (hwilling : ∀ answer ∈ default :: later, answer.fault = .proceed ∨ answer.fault = .crash)
    (e : IoError) :
    (LauncherMetrics.open sdk).run later files ≠ (.error e, files') := by
  intro hrun
  obtain ⟨found, hfound⟩ := h.values _ (metricsCell files).current_mem_values
  exact holds_of_allowed_run (hwilling default List.mem_cons_self)
    (fun answer h => hwilling answer (List.mem_cons_of_mem _ h)) hrun
    (open_neverFails (fun _ h => h) hfound)

/-- In runs whose launches are safe the metrics survive their own persistence. -/
theorem metrics_survive
    (sdk : MetricsSdk β)
    (hround : sdk.RoundTrips)
    {metrics : LauncherMetrics β}
    (h : ((metricsSystem sdk).restrict (SafeEvent sdk)).Reachable (.running metrics)) :
    MetricsSurvive sdk metrics := by
  have hinStep : InStep sdk metrics := metricsInvariant_of_reachable hround h
  refine ⟨hinStep.current, ?_, ?_, ?_⟩
  · intro desktopId now script metrics' hsafe hrun
    obtain ⟨hvalid, hentries, hcell⟩ := launchResult_of_run hround hinStep hsafe hrun
    refine ⟨hentries, hcell, checkBytes_document hround ?_⟩
    rw [hentries]
    exact (hsafe hvalid).1
  · intro desktopId now script e metrics' hsafe hrun
    exact (launchResult_of_run hround hinStep hsafe hrun).2
  · intro desktopId now script outcome metrics' hsafe hrun files' hfiles later hwilling e files''
    have hfile := (launchResult_of_run hround hinStep hsafe hrun).openable hround hinStep hsafe
    rcases hfiles with rfl | hreverts
    · exact hfile.open_ne_error hwilling e
    · obtain ⟨content, hmem, hcell⟩ := hreverts () (.named .launcher)
      exact (Openable.of_settled hcell (hfile.values content hmem)).open_ne_error hwilling e

/-- An accepted launch that fails is counted in memory all the same. -/
theorem launch_failed
    {e : IoError}
    (hvalid : validDesktopId desktopId = true)
    (hrun : (LauncherMetrics.recordLaunch sdk desktopId now).run script metrics =
      (.error e, metrics')) :
    metrics'.entries = launched metrics.entries desktopId now := by
  have hpost := holds_of_run hrun (recordLaunch_wp hvalid)
  exact hpost.1

/-- A document beyond the limit is written, and `open` refuses it. -/
theorem launch_oversized
    (hvalid : validDesktopId desktopId = true)
    (hsize : maxEntryBytes < sdk.size (document sdk (launched metrics.entries desktopId now)))
    (hrun : (LauncherMetrics.recordLaunch sdk desktopId now).run script metrics =
      (.ok (), metrics')) :
    ∃ bytes, metricsCell metrics'.directory = Cell.settled (some bytes) ∧
      LauncherMetrics.checkBytes sdk bytes =
        .error ⟨.invalidData, "launcher metrics exceed limit"⟩ := by
  have hpost := holds_of_run hrun (recordLaunch_wp hvalid)
  obtain ⟨hentries, hcell⟩ := hpost
  refine ⟨_, hcell, checkBytes_oversized ?_⟩
  rw [hentries]
  exact hsize

end Runs

section Sample

/-- Contents by what they say: an empty file, or a document. -/
abbrev MetricsText := Option MetricsDocument

/-- The length of a number in JSON. -/
def digits (n : Nat) : Nat :=
  (Nat.toDigits 10 n).length

/-- The length of a document in JSON, for ids without escapes. -/
def jsonSize (document : MetricsDocument) : Nat :=
  32 + digits document.schemaVersion.toNat + (document.entries.entries.length - 1) +
    (document.entries.entries.map fun entry =>
      25 + entry.1.byteLength + digits entry.2.count.toNat + digits entry.2.lastUsed.toNat).sum

def sampleSdk : MetricsSdk MetricsText where
  empty := none
  encode document := some document
  decode
    | some document => .ok document
    | none => .error "EOF while parsing a value at line 1 column 0"
  size
    | some document => jsonSize document
    | none => 0

theorem sampleSdk_roundTrips : sampleSdk.RoundTrips :=
  fun document => ⟨document, rfl, rfl, fun _ => rfl⟩

/-- A directory without metrics. -/
def noFiles : MetricsFiles MetricsText :=
  ⟨fun _ _ => Cell.settled none⟩

def sampleMetrics : LauncherMetrics MetricsText :=
  ⟨noFiles, Table.empty⟩

theorem open_noFiles : (LauncherMetrics.open sampleSdk).run [] noFiles = (.ok sampleMetrics, noFiles) :=
  rfl

def sampleId : Text :=
  "a.desktop".toList

/-- The metrics after their first launch. -/
def sampleLaunch : Outcome IoError Unit × LauncherMetrics MetricsText :=
  (LauncherMetrics.recordLaunch sampleSdk sampleId 5).run [] sampleMetrics

theorem sampleLaunch_ok : sampleLaunch.1 = .ok () := by
  decide

theorem sampleLaunch_safe : Safe sampleSdk sampleMetrics sampleId 5 [] := by
  refine fun _ => ⟨by decide, ?_⟩
  intro answer h
  obtain rfl := List.mem_singleton.mp h
  exact ⟨Or.inl rfl, rfl⟩

theorem sampleLaunch_reachable :
    ((metricsSystem sampleSdk).restrict (SafeEvent sampleSdk)).Reachable
      (.running sampleLaunch.2) := by
  have hopened : ((metricsSystem sampleSdk).restrict (SafeEvent sampleSdk)).Reachable
      (.running sampleMetrics) :=
    .initial ⟨noFiles, noFiles, [], sampleMetrics, none, rfl, open_noFiles, rfl⟩
  refine .step (e := .recordLaunch sampleId 5 []) hopened
    ⟨sampleLaunch_safe, sampleLaunch.1, sampleLaunch.2, rfl, Or.inl ⟨?_, rfl⟩⟩
  rw [sampleLaunch_ok]
  exact nofun

theorem metrics_survive_sample : MetricsSurvive sampleSdk sampleLaunch.2 :=
  metrics_survive sampleSdk sampleSdk_roundTrips sampleLaunch_reachable

/-- A directory that cannot be read. -/
def unreadable : Answer MetricsFile MetricsText :=
  { fault := .fail, text := "EIO", torn := none }

def failedLaunch : Outcome IoError Unit × LauncherMetrics MetricsText :=
  (LauncherMetrics.recordLaunch sampleSdk sampleId 5).run [unreadable] sampleMetrics

theorem failedLaunch_error : failedLaunch.1 = .error ⟨.other, "io_error: EIO"⟩ := by
  decide

/-- A launch that returns an error can change the metrics in memory. -/
theorem failed_launch_counted :
    ¬ ∀ (metrics metrics' : LauncherMetrics MetricsText) (desktopId : Text) (now : UInt64)
        (script : List (Answer MetricsFile MetricsText)) (e : IoError),
      (metricsSystem sampleSdk).Reachable (.running metrics) →
      validDesktopId desktopId = true →
      (LauncherMetrics.recordLaunch sampleSdk desktopId now).run script metrics =
          (.error e, metrics') →
        metrics'.entries = metrics.entries := by
  intro hclaim
  have hrun : (LauncherMetrics.recordLaunch sampleSdk sampleId 5).run [unreadable]
      sampleMetrics = (.error ⟨.other, "io_error: EIO"⟩, failedLaunch.2) :=
    Prod.ext failedLaunch_error rfl
  have hsame := hclaim sampleMetrics failedLaunch.2 sampleId 5 [unreadable] _
    (.initial ⟨noFiles, noFiles, [], sampleMetrics, none, rfl, open_noFiles, rfl⟩)
    (by decide) hrun
  rw [launch_failed (by decide) hrun] at hsame
  have hget := congrArg (fun entries => entries.get? sampleId) hsame
  simp only [launched, Table.get?_insert, if_true] at hget
  cases hget

end Sample

end Launcher
end SleepySession
