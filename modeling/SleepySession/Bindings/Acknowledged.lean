import SleepySession.Bindings.Reentry
import SleepySession.Store.Mutations

/-!
# Acknowledged mutations and binding recovery

Mutations of the store and binding transactions write the same two files under
the same lock, one whole operation after the other.  The ledger of a session
lists the values that acknowledged mutations gave to presets and settings and
that no later operation was asked to change.

A mutation does not look for a pending journal, although a second application
does.  If one is pending, recovery installs contents from before the mutation,
or waits forever for contents that the mutation has replaced.  As long as no
mutation runs then, every value of the ledger stays visible.
-/

namespace SleepySession

open Program SecureDir

/-- The files, and the values that acknowledged mutations gave. -/
structure StoreSession (β : Type) where
  files : Files β
  acknowledged : StoreKey → StoreValue → Prop

/-- One operation under the lock. -/
inductive StoreEvent (β ν : Type) where
  | mutate (m : Mutation ν) (script : List (Answer FileName β))
  | apply (activePresetId : String) (candidate : CandidateArtifacts β)
      (script : List (Answer FileName β))
  | reconcile (onlineRequired : Bool) (script : List (Answer FileName β))

def StoreEvent.script {β ν : Type} : StoreEvent β ν → List (Answer FileName β)
  | .mutate _ script => script
  | .apply _ _ script => script
  | .reconcile _ script => script

section Operations

variable {β : Type} [DisplayPath Directory FileName] (contents : Contents β)

/-- An application under the lock of the store. -/
def applyCandidate
    (activePresetId : String) (candidate : CandidateArtifacts β) :
    StoreProgram β ApplyReport :=
  withTransaction do
    -- `BindingFileSystem::open`
    syscall
    applyCandidateLocked contents activePresetId candidate

/-- `reconcile_bindings` and `reconcile_bindings_online_required`. -/
def reconcileBindings (onlineRequired : Bool) :
    StoreProgram β (Option ApplyReport) :=
  withTransaction do
    syscall
    observe .writableDirectoriesOpened
    reconcileBindingsLocked contents onlineRequired

end Operations

section Ledger

variable {β τ ν : Type} (sdk : Sdk β τ ν)

/-- The ledger after a mutation; one that was cut off may have taken effect. -/
def StoreSession.afterMutation
    (s : StoreSession β) (m : Mutation ν) :
    Outcome Failure StoreReply → StoreKey → StoreValue → Prop
  | .ok reply, key, value =>
      (reply.announces key).elim (s.acknowledged key value) (value = ·)
  | .error e, key, value =>
      s.acknowledged key value ∧
        (e.Interrupts → ¬ m.touches sdk (liveTriple s.files) key)
  | .crashed, key, value =>
      s.acknowledged key value ∧ ¬ m.touches sdk (liveTriple s.files) key

/-- The values that a candidate changes. -/
def CandidateArtifacts.changes
    (candidate : CandidateArtifacts β) (L : Triple β) (key : StoreKey) : Prop :=
  sdk.visible (fun k => some (candidate.get k)) key ≠ sdk.visible L key

/-- The ledger after an application; a confirmed rollback changes nothing. -/
def StoreSession.afterApply
    (s : StoreSession β) (candidate : CandidateArtifacts β) :
    Outcome Failure ApplyReport → StoreKey → StoreValue → Prop
  | .ok report, key, value =>
      s.acknowledged key value ∧
        (report.status ≠ .rolledBackConfirmed →
          ¬ candidate.changes sdk (liveTriple s.files) key)
  | .error e, key, value =>
      s.acknowledged key value ∧
        (e.Interrupts → ¬ candidate.changes sdk (liveTriple s.files) key)
  | .crashed, key, value =>
      s.acknowledged key value ∧
        ¬ candidate.changes sdk (liveTriple s.files) key

/-- A triple in which every value of a ledger is visible. -/
def Shows (acknowledged : StoreKey → StoreValue → Prop) (L : Triple β) : Prop :=
  ∀ key value, acknowledged key value → sdk.visible L key = value

end Ledger

section StoreSystem

variable {β τ ν : Type} [Inhabited β] [DisplayPath Directory FileName]
variable (contents : Contents β) (store : StateStore β τ ν)

/-- One operation; without a loss of power readers see all of it. -/
def StoreSession.after (s : StoreSession β) : StoreEvent β ν → StoreSession β
  | .mutate m script =>
      let result := (store.mutate m).run script s.files
      ⟨result.2.settle, s.afterMutation store.sdk m result.1⟩
  | .apply activePresetId candidate script =>
      let result := (applyCandidate contents activePresetId candidate).run script s.files
      ⟨result.2.settle, s.afterApply store.sdk candidate result.1⟩
  | .reconcile onlineRequired script =>
      let result := (reconcileBindings contents onlineRequired).run script s.files
      ⟨result.2.settle, s.acknowledged⟩

/-- Whole operations in any order. -/
def storeSystem : System (StoreSession β) (StoreEvent β ν) where
  initial s :=
    s.files.settle = s.files ∧ (journalCell s.files).current = none ∧
      ∀ key value, ¬ s.acknowledged key value
  step s event s' := FreshIds event.script ∧ s' = s.after contents store event

/-- A journal is present that recovery will act on. -/
def RecoveryPending (v : Files β) : Prop :=
  ∃ bytes journal,
    (journalCell v).current = some bytes ∧
      contents.decode bytes = .ok journal ∧
      journal.sidecarsComplete = true ∧ journal.phase ≠ .reloadConfirmed

/-- No mutation while recovery is pending; applications as in `Careful`. -/
def Prudent (s : StoreSession β) : StoreEvent β ν → Prop
  | .mutate _ _ => ¬ RecoveryPending contents s.files
  | .apply activePresetId candidate script =>
      Careful contents s.files (.apply activePresetId candidate script)
  | .reconcile _ _ => True

/-- The invariant of prudent runs. -/
structure Consistent (s : StoreSession β) : Prop where
  steady : s.files.settle = s.files
  stage : Stage contents True (Shows store.sdk s.acknowledged) s.files

variable {contents store}

theorem after_mutate_acknowledged
    {s : StoreSession β} {m : Mutation ν} {script : List (Answer FileName β)} :
    (s.after contents store (.mutate m script)).acknowledged =
      s.afterMutation store.sdk m ((store.mutate m).run script s.files).1 :=
  rfl

theorem after_reconcile_acknowledged
    {s : StoreSession β} {onlineRequired : Bool}
    {script : List (Answer FileName β)} :
    (s.after contents store (.reconcile onlineRequired script)).acknowledged =
      s.acknowledged :=
  rfl

omit [Inhabited β] [DisplayPath Directory FileName] in
theorem visible_eq
    {sdk : Sdk β τ ν} {L L' : Triple β} {key : StoreKey}
    (h : L key.file = L' key.file) :
    sdk.visible L key = sdk.visible L' key := by
  simp [Sdk.visible, h]

omit [Inhabited β] [DisplayPath Directory FileName] in
theorem Shows.mono
    {sdk : Sdk β τ ν} {acknowledged acknowledged' : StoreKey → StoreValue → Prop}
    {L : Triple β}
    (h : Shows sdk acknowledged L)
    (hless : ∀ key value, acknowledged' key value → acknowledged key value) :
    Shows sdk acknowledged' L :=
  fun key value hack => h key value (hless key value hack)

omit [Inhabited β] [DisplayPath Directory FileName] in
/-- In every stage the ledger is visible in the files as they are now. -/
theorem Stage.shows
    {sdk : Sdk β τ ν} {acknowledged : StoreKey → StoreValue → Prop}
    {v : Files β}
    (h : Stage contents True (Shows sdk acknowledged) v) :
    Shows sdk acknowledged (liveTriple v) := by
  cases h with
  | quiet L hL h => rwa [h.live.liveTriple]
  | sealing T hT h => rw [h.live.liveTriple]; exact hT.1
  | closing T target hT hside h => rwa [h.live.liveTriple]
  | «open» T hT h =>
      intro key value hack
      have hlive := (h.tracked trivial).live
      rcases (h.live key.file).current with hold | hnew
      · rw [T.content_previous] at hold
        exact (visible_eq hold).trans (hT.1 key value hack)
      · exact (visible_eq hnew).trans (hT.2 hlive key value hack)

omit [Inhabited β] [DisplayPath Directory FileName] in
/-- Where no recovery is pending, no transaction is unfinished. -/
theorem Consistent.quiet
    {s : StoreSession β}
    (hcodec : contents.RoundTrips)
    (h : Consistent contents store s)
    (hpending : ¬ RecoveryPending contents s.files) :
    Shows store.sdk s.acknowledged (liveTriple s.files) ∧
      Quiet contents True (liveTriple s.files) s.files := by
  refine ⟨h.stage.shows, ?_⟩
  have hcomplete : ∀ (T : Transaction β) phase target, phase ≠ .reloadConfirmed →
      (journalCell s.files).current ≠ T.recorded contents phase target true := by
    intro T phase target hphase hcurrent
    exact hpending ⟨_, _, hcurrent, hcodec _, rfl, hphase⟩
  cases h.stage with
  | quiet L hL h => rwa [h.live.liveTriple]
  | sealing T hT h =>
      obtain ⟨target, hshown⟩ := h.shown
      exact absurd hshown (hcomplete T _ target (by simp))
  | «open» T hT h =>
      obtain ⟨phase, target, hphase, hshown⟩ := h.journal.current
      exact absurd hshown (hcomplete T phase target hphase)
  | closing T target hT hside hclosing =>
      have hquiet := hclosing.settle
      rw [h.steady] at hquiet
      rwa [hclosing.live.liveTriple]

section Mutating

variable {L : Triple β} {v v' : Files β}
variable {acknowledged acknowledged' : StoreKey → StoreValue → Prop}

omit [Inhabited β] [DisplayPath Directory FileName] in
theorem update_liveTriple (v : Files β) (k : ArtifactKind) :
    Function.update (liveTriple v) k (liveTriple v k) = liveTriple v :=
  Function.update_eq_self k (liveTriple v)

omit [Inhabited β] [DisplayPath Directory FileName] in
/-- A mutation that was cut off leaves the values it does not touch. -/
theorem Disturbed.stage
    {touches : StoreKey → Prop}
    (hquiet : Quiet contents True (liveTriple v) v)
    (hshows : Shows store.sdk acknowledged (liveTriple v))
    (h : Disturbed store.sdk touches v v')
    (hless : ∀ key value, acknowledged' key value →
      acknowledged key value ∧ ¬ touches key) :
    Stage contents True (Shows store.sdk acknowledged') v'.settle := by
  have hold : Shows store.sdk acknowledged' (liveTriple v) :=
    hshows.mono fun key value hack => (hless key value hack).1
  rcases h with rfl | ⟨k, bytes, htouched, hvisible⟩
  · exact .quiet _ hold (hquiet.reverts v'.reverts_settle)
  · refine .quiet _ ?_ (hquiet.rewrite htouched.writesOnly)
    rcases htouched.2 with hsame | hnew
    · have hcurrent : liveTriple v' k = liveTriple v k := hsame.1
      rwa [hcurrent, update_liveTriple]
    · have hcurrent : liveTriple v' k = some bytes := hnew.1
      rw [hcurrent]
      intro key value hack
      obtain ⟨hacknowledged, huntouched⟩ := hless key value hack
      exact (hvisible key huntouched).trans (hshows key value hacknowledged)

omit [Inhabited β] [DisplayPath Directory FileName] in
/-- A mutation that succeeded shows what it announced. -/
theorem Rewritten.stage
    {touches : StoreKey → Prop} {reply : StoreReply}
    (hquiet : Quiet contents True (liveTriple v) v)
    (hshows : Shows store.sdk acknowledged (liveTriple v))
    (h : Rewritten store.sdk touches reply v v')
    (hledger : ∀ key value, acknowledged' key value →
      (reply.announces key).elim (acknowledged key value) (value = ·)) :
    Stage contents True (Shows store.sdk acknowledged') v'.settle := by
  obtain ⟨k, bytes, hreplaced, hkeys⟩ := h
  refine .quiet _ ?_ (hquiet.rewrite hreplaced.touched.writesOnly)
  have hcurrent : liveTriple v' k = some bytes := by
    simp [liveTriple, liveCell, hreplaced.2]
  rw [hcurrent]
  intro key value hack
  have hvisible := (hkeys key).2
  have hvalue := hledger key value hack
  cases hannounced : reply.announces key with
  | none =>
      simp only [hannounced, Option.elim_none, Option.getD_none] at hvalue hvisible
      exact hvisible.trans (hshows key value hvalue)
  | some value' =>
      simp only [hannounced, Option.elim_some, Option.getD_some] at hvalue hvisible
      exact hvisible.trans hvalue.symm

theorem mutate_consistent
    {s : StoreSession β} {m : Mutation ν} {script : List (Answer FileName β)}
    (hcodec : contents.RoundTrips)
    (hsdk : store.sdk.RoundTrips)
    (h : Consistent contents store s)
    (hpending : ¬ RecoveryPending contents s.files) :
    Consistent contents store (s.after contents store (.mutate m script)) := by
  obtain ⟨hshows, hquiet⟩ := h.quiet hcodec hpending
  refine ⟨rfl, ?_⟩
  simp only [StoreSession.after]
  have hpost := wp_sound (A := fun _ => True) trivial _ _ script s.files
    (fun _ _ => trivial) (mutate_mutates hsdk m)
  revert hpost
  rcases (store.mutate m).run script s.files with ⟨reply | e | _, v'⟩
  · exact fun hpost => Rewritten.stage hquiet hshows hpost fun _ _ hack => hack
  · rintro (hsame | ⟨hinterrupt, hdisturbed⟩)
    · subst hsame
      exact .quiet _ (hshows.mono fun _ _ hack => hack.1)
        (hquiet.reverts s.files.reverts_settle)
    · exact Disturbed.stage hquiet hshows hdisturbed
        fun _ _ hack => ⟨hack.1, hack.2 hinterrupt⟩
  · exact fun hpost => Disturbed.stage hquiet hshows hpost fun _ _ hack => hack

end Mutating

section Recovering

variable {P : Triple β → Prop} {v : Files β} {α : Type}
variable {A : Answer FileName β → Prop}
variable {N : Failure → Files β → Prop} {R : α → Files β → Prop}

omit [Inhabited β] in
theorem withTransaction_ends
    {m : StoreProgram β α}
    (h : Stage contents True P v)
    (hm : m.wp A (ends contents True P N R) v)
    (hR : ∀ a v', R a v' → Stage contents True P v') :
    (withTransaction m).wp A (ends contents True P N R) v := by
  refine wp_withTransaction (cut_ends h) ?_
  refine wp_mono ?_ ?_ ?_ hm
  · exact fun a v' ha => ⟨ha, cut_ends (hR a v' ha)⟩
  · exact fun e v' he => ⟨he, cut_ends he.1⟩
  · exact fun _ hc => hc

theorem reconcile_consistent
    {s : StoreSession β} {onlineRequired : Bool}
    {script : List (Answer FileName β)}
    (hcodec : contents.RoundTrips)
    (h : Consistent contents store s) :
    Consistent contents store
      (s.after contents store (.reconcile onlineRequired script)) := by
  have hwhole : (reconcileBindings contents onlineRequired).wp (fun _ => True)
      (ends contents True (Shows store.sdk s.acknowledged) (Refused s.files)
        fun _ v' => Concluded contents True (Shows store.sdk s.acknowledged) v')
      s.files := by
    refine withTransaction_ends h.stage ?_ fun _ _ h' => h'.1
    rw [wp_bind]
    refine wp_syscall (cut_ends h.stage) ?_
    simp only [wp_bind]
    refine wp_observe (cut_ends h.stage) ?_
    exact reconcile_stage hcodec h.stage onlineRequired
  refine ⟨rfl, Stage.settle ?_⟩
  exact run_stage trivial (fun _ _ => trivial) hwhole fun _ _ h' => h'.1

omit [Inhabited β] [DisplayPath Directory FileName] in
/-- Values that a candidate leaves alone are visible on both of its sides. -/
theorem admits_shows
    {sdk : Sdk β τ ν} {acknowledged acknowledged' : StoreKey → StoreValue → Prop}
    {activePresetId : String} {candidate : CandidateArtifacts β} {L : Triple β}
    (hadmits : Admits contents True (fun _ => True) activePresetId candidate L)
    (hshows : Shows sdk acknowledged L)
    (hless : ∀ key value, acknowledged' key value →
      acknowledged key value ∧ ¬ candidate.changes sdk L key) :
    Admits contents True (Shows sdk acknowledged') activePresetId candidate L := by
  refine ⟨hadmits.active, hadmits.live, ?_⟩
  rintro T rfl rfl
  refine ⟨hshows.mono fun key value hack => (hless key value hack).1, ?_⟩
  intro _ key value hack
  obtain ⟨hacknowledged, hsame⟩ := hless key value hack
  have hvalue := hshows key value hacknowledged
  by_cases hnoop : T.Noop contents key.file
  · exact (visible_eq (T.content_noop contents hnoop .candidate)).trans hvalue
  · have hcandidate : sdk.visible (T.content contents .candidate) key =
        sdk.visible (fun k => some (T.candidate.get k)) key :=
      visible_eq (T.content_candidate contents hnoop)
    rw [hcandidate, not_not.mp hsame, hvalue]

theorem apply_consistent
    {s : StoreSession β} {activePresetId : String}
    {candidate : CandidateArtifacts β} {script : List (Answer FileName β)}
    (hfresh : FreshIds script)
    (hcareful : Careful contents s.files (.apply activePresetId candidate script))
    (h : Consistent contents store s) :
    Consistent contents store
      (s.after contents store (.apply activePresetId candidate script)) := by
  have hshows := h.stage.shows
  have hadmits := admits_of_careful hcareful.1 hcareful.2
  -- the ledger of everything that the candidate leaves alone
  let kept : StoreKey → StoreValue → Prop := fun key value =>
    s.acknowledged key value ∧
      ¬ candidate.changes store.sdk (liveTriple s.files) key
  have hkept : Stage contents True (Shows store.sdk kept) s.files :=
    h.stage.mono fun L hL => hL.mono fun _ _ hack => hack.1
  have hlocked := apply_stage (A := fun a => canonicalUuid a.uuid = true)
    (fun _ _ ha => ha) (admits_shows hadmits hshows fun _ _ hack => hack) hkept
  have hwhole : (applyCandidate contents activePresetId candidate).wp
      (fun a => canonicalUuid a.uuid = true)
      (ends contents True (Shows store.sdk kept) (Unstarted contents True s.files)
        fun report v' => Stage contents True (Shows store.sdk kept) v' ∧
          Reported contents True candidate (liveTriple s.files) report v')
      s.files := by
    refine withTransaction_ends hkept ?_ fun _ _ h' => h'.1
    rw [wp_bind]
    exact wp_syscall (cut_ends hkept) hlocked
  refine ⟨rfl, ?_⟩
  have hpost := wp_sound canonicalUuid_nilUuid _ _ script s.files hfresh hwhole
  simp only [StoreSession.after]
  revert hpost
  rcases (applyCandidate contents activePresetId candidate).run script s.files with
    ⟨report | e | _, v'⟩
  · rintro ⟨hstage, hreported⟩
    by_cases hstatus : report.status = .rolledBackConfirmed
    · unfold Reported at hreported
      rw [hstatus] at hreported
      exact .quiet _ (hshows.mono fun _ _ hack => hack.1)
        (hreported.reverts v'.reverts_settle)
    · exact hstage.settle.mono fun L hL =>
        hL.mono fun _ _ hack => ⟨hack.1, hack.2 hstatus⟩
  · rintro ⟨hstage, hkind⟩
    by_cases hinterrupt : e.Interrupts
    · exact hstage.settle.mono fun L hL =>
        hL.mono fun _ _ hack => ⟨hack.1, hack.2 hinterrupt⟩
    · have hunstarted := (hkind trivial).resolve_left hinterrupt
      exact (hunstarted.2.2 _ h.stage).settle.mono fun L hL =>
        hL.mono fun _ _ hack => hack.1
  · exact fun hstage => Stage.settle hstage

end Recovering

theorem prudent_step
    {s s' : StoreSession β} {event : StoreEvent β ν}
    (hcodec : contents.RoundTrips)
    (hsdk : store.sdk.RoundTrips)
    (h : Consistent contents store s)
    (hstep : ((storeSystem contents store).restrict (Prudent contents)).step
      s event s') :
    Consistent contents store s' := by
  obtain ⟨hprudent, hfresh, rfl⟩ := hstep
  cases event with
  | mutate m script => exact mutate_consistent hcodec hsdk h hprudent
  | apply activePresetId candidate script => exact apply_consistent hfresh hprudent h
  | reconcile onlineRequired script => exact reconcile_consistent hcodec h

/--
In every prudent run each acknowledged value is visible, and recovery does not
fail because of what it finds.
-/
theorem prudent_run_keeps_acknowledged
    {s : StoreSession β}
    (hcodec : contents.RoundTrips)
    (hsdk : store.sdk.RoundTrips)
    (h : ((storeSystem contents store).restrict (Prudent contents)).Reachable s) :
    (∀ key value, s.acknowledged key value →
        store.sdk.visible (liveTriple s.files) key = value) ∧
      Reentrant contents s.files := by
  have hconsistent : Consistent contents store s := by
    refine h.invariant ?_ ?_
    · rintro s ⟨hsteady, hjournal, hempty⟩
      refine ⟨hsteady, .quiet (liveTriple s.files) ?_ ⟨?_, ?_⟩⟩
      · exact fun key value hack => absurd hack (hempty key value)
      · intro k
        rw [← hsteady]
        simp [liveTriple, liveCell, Volume.settle]
      · rw [← hsteady]
        simp only [journalCell, Volume.settle, Cell.all_settled]
        exact Or.inl hjournal
    · exact fun _ _ _ hs hstep => prudent_step hcodec hsdk hs hstep
  exact ⟨hconsistent.stage.shows, hconsistent.stage.reentrant hcodec⟩

end StoreSystem

section LostMutation

/-- JSON values of symbolic documents. -/
inductive SymbolValue where
  | preset (preset : PresetDocument)
  | settings (settings : SettingsDocument)
deriving DecidableEq, Repr

/-- Texts of symbolic documents are the documents themselves. -/
def symbolicSdk : Sdk Symbol Symbol SymbolValue where
  fromUtf8 := .ok
  valuesFromStr
    | .presets presets => .ok (presets.map .preset)
    | _ => .error "expected an array"
  valueToString
    | .preset preset => .presets [preset]
    | .settings settings => .settings settings
  presetFromValue
    | .preset preset => some preset
    | .settings _ => none
  presetToValue := .preset
  presetsToVec := .presets
  settingsToValue := .settings
  settingsToVec := .settings
  keybindingConflict _ := none
  canonicalizeAccelerator := .ok
  validatePreset
    | .presets [preset] => .ok preset
    | _ => .error "expected a preset"
  validateSettings
    | .settings settings => .ok settings
    | _ => .error "expected settings"

theorem symbolicSdk_roundTrips : symbolicSdk.RoundTrips where
  presets _ := ⟨_, rfl, rfl⟩
  preset _ _ h := (Except.ok.inj h).symm
  settings _ _ h := ⟨(Except.ok.inj h).symm, _, rfl, rfl⟩

def sampleSettings : SettingsDocument :=
  { schemaVersion := 1
    activePresetId := builtinPresetId
    appearanceMode := "dark"
    paletteSource := "sleepy"
    reducedMotion := false
    effectsProfile := "full"
    panelVisibility := "always"
    webSearchEnabled := true }

def samplePreset (id : String) : PresetDocument :=
  { id := id
    name := id
    origin := .user
    basePresetId := none
    keybindings := []
    content := "" }

def symbolicStore : StateStore Symbol Symbol SymbolValue where
  sdk := symbolicSdk
  defaults := ⟨sampleSettings, [{ samplePreset builtinPresetId with origin := .builtin }]⟩
  empty := .text ""

/-- Empty user presets, packaged settings, no bindings, nothing acknowledged. -/
def freshSession : StoreSession Symbol :=
  ⟨initialVolume fun
      | .preset => some (.presets [])
      | .settings => some (.settings sampleSettings)
      | .bindings => none,
    fun _ _ => False⟩

def addedPreset : CandidateArtifacts Symbol :=
  ⟨.presets [samplePreset "first"], .settings sampleSettings, .text "binds"⟩

theorem initial_freshSession :
    (storeSystem symbolic symbolicStore).initial freshSession := by
  refine ⟨?_, rfl, fun _ _ => not_false⟩
  refine congrArg Volume.mk ?_
  funext d n
  simp only [freshSession, initialVolume]
  split <;> rfl

/-- An application while the compositor is offline. -/
def offline : List (Answer FileName Symbol) :=
  answersUntil 20 nilUuid .proceed |>.map fun a => { a with available := false }

theorem freshIds_nil : FreshIds ([] : List (Answer FileName Symbol)) :=
  fun _ h => absurd h List.not_mem_nil

def createSecond : StoreEvent Symbol SymbolValue :=
  .mutate (.create (.preset (samplePreset "second"))) []

/-- The compositor is offline, the journal stays. -/
def pendingApply : StoreSession Symbol :=
  freshSession.after symbolic symbolicStore (.apply builtinPresetId addedPreset offline)

def createdMeanwhile : StoreSession Symbol :=
  pendingApply.after symbolic symbolicStore createSecond

def lostMutation : StoreSession Symbol :=
  createdMeanwhile.after symbolic symbolicStore (.reconcile false [])

theorem freshIds_offline : FreshIds offline := by
  intro a ha
  obtain ⟨b, hb, rfl⟩ := List.mem_map.mp ha
  exact freshIds_answersUntil canonicalUuid_nilUuid 20 .proceed b hb

/-- The pending application is finished before anything else happens. -/
def reconciledSession : StoreSession Symbol :=
  pendingApply.after symbolic symbolicStore (.reconcile false [])

def createdAfterwards : StoreSession Symbol :=
  reconciledSession.after symbolic symbolicStore createSecond

theorem prudent_apply :
    @Prudent Symbol SymbolValue symbolic freshSession
      (.apply builtinPresetId addedPreset offline) := by
  refine ⟨by decide, fun k hmissing => ?_⟩
  cases k with
  | preset => cases hmissing
  | settings => cases hmissing
  | bindings => decide

theorem prudent_reconciledSession : Prudent symbolic reconciledSession createSecond := by
  rintro ⟨bytes, _, hcurrent, _⟩
  have hnone : (journalCell reconciledSession.files).current = none := by
    decide +kernel
  rw [hnone] at hcurrent
  cases hcurrent

theorem createSecond_afterwards :
    ((symbolicStore.mutate (.create (.preset (samplePreset "second")))).run []
        reconciledSession.files).1 =
      .ok (.preset (samplePreset "second")) := by
  decide +kernel

/-- Both the preset of the application and the one that was created later are visible. -/
theorem prudent_run_keeps_acknowledged_recovered :
    symbolicStore.sdk.visible (liveTriple createdAfterwards.files) (.preset "first") =
        .preset (some (samplePreset "first")) ∧
      symbolicStore.sdk.visible (liveTriple createdAfterwards.files) (.preset "second") =
        .preset (some (samplePreset "second")) ∧
      Reentrant symbolic createdAfterwards.files := by
  have hpending : ((storeSystem symbolic symbolicStore).restrict (Prudent symbolic)).Reachable
      pendingApply :=
    .step (e := .apply builtinPresetId addedPreset offline) (.initial initial_freshSession)
      ⟨prudent_apply, freshIds_offline, rfl⟩
  have hrecovered : ((storeSystem symbolic symbolicStore).restrict (Prudent symbolic)).Reachable
      reconciledSession :=
    .step (e := .reconcile false []) hpending ⟨trivial, freshIds_nil, rfl⟩
  have hcreated : ((storeSystem symbolic symbolicStore).restrict (Prudent symbolic)).Reachable
      createdAfterwards :=
    .step (e := createSecond) hrecovered ⟨prudent_reconciledSession, freshIds_nil, rfl⟩
  obtain ⟨hvisible, hreentrant⟩ :=
    prudent_run_keeps_acknowledged symbolic_roundTrips symbolicSdk_roundTrips hcreated
  refine ⟨by decide +kernel, hvisible _ _ ?_, hreentrant⟩
  unfold createdAfterwards createSecond
  rw [after_mutate_acknowledged, createSecond_afterwards]
  simp [StoreSession.afterMutation, StoreReply.announces, samplePreset]

theorem reachable_lostMutation :
    (storeSystem symbolic symbolicStore).Reachable lostMutation := by
  have hpending : (storeSystem symbolic symbolicStore).Reachable pendingApply :=
    .step (e := .apply builtinPresetId addedPreset offline)
      (.initial initial_freshSession) ⟨freshIds_offline, rfl⟩
  have hcreated : (storeSystem symbolic symbolicStore).Reachable createdMeanwhile :=
    .step (e := createSecond) hpending ⟨freshIds_nil, rfl⟩
  exact .step (e := .reconcile false []) hcreated ⟨freshIds_nil, rfl⟩

theorem createSecond_acknowledged :
    ((symbolicStore.mutate (.create (.preset (samplePreset "second")))).run []
        pendingApply.files).1 =
      .ok (.preset (samplePreset "second")) := by
  decide

theorem acknowledged_lostMutation :
    lostMutation.acknowledged (.preset "second")
      (.preset (some (samplePreset "second"))) := by
  unfold lostMutation createdMeanwhile createSecond
  rw [after_reconcile_acknowledged, after_mutate_acknowledged,
    createSecond_acknowledged]
  simp [StoreSession.afterMutation, StoreReply.announces, samplePreset]

theorem not_visible_lostMutation :
    symbolicSdk.visible (liveTriple lostMutation.files) (.preset "second") =
      .preset none := by
  decide +kernel

/-- The preset that was created while the journal was pending is gone. -/
theorem lostMutation_not_visible :
    (storeSystem symbolic symbolicStore).Reachable lostMutation ∧
      lostMutation.acknowledged (.preset "second")
        (.preset (some (samplePreset "second"))) ∧
      symbolicSdk.visible (liveTriple lostMutation.files) (.preset "second") ≠
        .preset (some (samplePreset "second")) := by
  refine ⟨reachable_lostMutation, acknowledged_lostMutation, ?_⟩
  rw [not_visible_lostMutation]
  simp

end LostMutation

end SleepySession
