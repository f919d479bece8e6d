import SleepySession.Bindings.Application
import SleepySession.Store.Documents

/-!
# Crash atomicity of the binding transaction

One application of a candidate, cut off anywhere, followed by any number of
reconciliations, each cut off anywhere, and by losses of power in between.
Once a reconciliation succeeds, the three live files are all old or all
candidate.
-/

namespace SleepySession

open Program SecureDir

section CrashAtomicity

variable {β : Type} [Inhabited β] [DisplayPath Directory FileName]
variable (contents : Contents β)

/--
Recovery of a volume: reconciliations that end anyhow, and losses of power.
A run that crashes without a loss of power leaves what readers see.
-/
inductive Recovering (v : Files β) : Files β → Prop where
  | refl : Recovering v v
  | reconcile
      {v₁ : Files β}
      (h : Recovering v v₁)
      (onlineRequired : Bool)
      (script : List (Answer FileName β)) :
      Recovering v
        ((reconcileBindingsLocked contents onlineRequired).run script v₁).2
  | powerLoss
      {v₁ v₂ : Files β}
      (h : Recovering v v₁)
      (hrevert : v₁.Reverts v₂) :
      Recovering v v₂

/-- The digest tells the old content of each artifact from its candidate. -/
def CollisionFree (old : Triple β) (candidate : CandidateArtifacts β) : Prop :=
  ∀ k, contents.hash ((old k).getD contents.empty) =
      contents.hash (candidate.get k) →
    (old k).getD contents.empty = candidate.get k

/-- The live files are durable and no transaction is pending. -/
structure Idle (old : Triple β) (v : Files β) : Prop where
  live : ∀ k, liveCell v k = Cell.settled (old k)
  journal : journalCell v = Cell.settled none

/-- All three live files are the old ones, or all three are the candidates. -/
def OldOrCandidate
    (old : Triple β) (candidate : CandidateArtifacts β) (L : Triple β) : Prop :=
  (∀ k, L k = old k) ∨ ∀ k, L k = some (candidate.get k)

variable {contents}
variable {old : Triple β} {candidate : CandidateArtifacts β} {v v' : Files β}

omit [Inhabited β] [DisplayPath Directory FileName] in
theorem Idle.settled
    (h : Idle old v) :
    Settled old v := by
  intro k
  rw [h.live k, Cell.all_settled]

omit [Inhabited β] [DisplayPath Directory FileName] in
theorem Idle.quiet
    {S : Prop}
    (h : Idle old v) :
    Quiet contents S old v := by
  refine ⟨h.settled, ?_⟩
  rw [h.journal, Cell.all_settled]
  exact Or.inl rfl

omit [Inhabited β] [DisplayPath Directory FileName] in
/-- Without collisions a completed installation leaves the candidates. -/
theorem content_eq_candidate
    {T : Transaction β}
    (hcollision : CollisionFree contents T.old T.candidate)
    (hlive : T.Live contents)
    (k : ArtifactKind) :
    T.content contents .candidate k = some (T.candidate.get k) := by
  by_cases hnoop : T.Noop contents k
  · obtain ⟨bytes, hbytes⟩ := Option.ne_none_iff_exists'.mp (hlive k hnoop)
    have heq := hcollision k hnoop
    rw [T.content_noop contents hnoop, hbytes]
    rw [hbytes] at heq
    exact congrArg some heq
  · exact T.content_candidate contents hnoop

omit [Inhabited β] [DisplayPath Directory FileName] in
theorem admits_oldOrCandidate
    {activePresetId : String}
    (hcollision : CollisionFree contents old candidate) :
    Admits contents False (OldOrCandidate old candidate) activePresetId candidate
      old := by
  refine ⟨False.elim, False.elim, ?_⟩
  rintro T rfl rfl
  exact ⟨Or.inl fun _ => rfl,
    fun hlive => Or.inr (content_eq_candidate hcollision hlive)⟩

omit [DisplayPath Directory FileName] in
/-- However a run ends, it leaves a stage behind. -/
theorem run_stage
    {α : Type} {S : Prop} {P : Triple β → Prop}
    {A : Answer FileName β → Prop} {N : Failure → Files β → Prop}
    {R : α → Files β → Prop}
    {m : Binding β α} {script : List (Answer FileName β)}
    (hdefault : A default)
    (hscript : ∀ a ∈ script, A a)
    (hm : m.wp A (ends contents S P N R) v)
    (hR : ∀ a v', R a v' → Stage contents S P v') :
    Stage contents S P (m.run script v).2 := by
  have hpost := wp_sound hdefault m _ script v hscript hm
  revert hpost
  rcases m.run script v with ⟨value | failure | _, v'⟩
  · exact fun hpost => hR value v' hpost
  · exact fun hpost => hpost.1
  · exact fun hpost => hpost

/-- Recovery keeps the stages. -/
theorem Recovering.stage
    {P : Triple β → Prop}
    (hcodec : contents.RoundTrips)
    (h : Recovering contents v v')
    (hv : Stage contents False P v) :
    Stage contents False P v' := by
  induction h with
  | refl => exact hv
  | reconcile _ onlineRequired script ih =>
      exact run_stage (A := fun _ => True) trivial (fun _ _ => trivial)
        (reconcile_stage hcodec ih onlineRequired) (fun _ _ h' => h'.1)
  | powerLoss _ hrevert ih => exact ih.reverts hcodec hrevert False.elim

/--
Crash atomicity: after a successful reconciliation the live files are all old
or all candidate, and the report of the application was right about them when
it was given.
-/
theorem apply_recover_atomic
    (hcodec : contents.RoundTrips)
    (hcollision : CollisionFree contents old candidate)
    (hidle : Idle old v)
    (activePresetId : String)
    (script : List (Answer FileName β)) :
    (∀ report v₁,
        (applyCandidateLocked contents activePresetId candidate).run script v =
          (.ok report, v₁) →
        (report.status = .committed ∨ report.status = .reloadPending →
            ∀ k, (liveCell v₁ k).current = some (candidate.get k)) ∧
          (report.status = .rolledBackConfirmed →
            ∀ k, (liveCell v₁ k).current = old k)) ∧
      ∀ v₁ onlineRequired script' report v₂,
        Recovering contents
          ((applyCandidateLocked contents activePresetId candidate).run script v).2
          v₁ →
        (reconcileBindingsLocked contents onlineRequired).run script' v₁ =
          (.ok report, v₂) →
        (∀ k, (liveCell v₂ k).current = old k) ∨
          ∀ k, (liveCell v₂ k).current = some (candidate.get k) := by
  have hstart : Stage contents False (OldOrCandidate old candidate) v :=
    .quiet old (Or.inl fun _ => rfl) hidle.quiet
  have htriple : liveTriple v = old := hidle.settled.liveTriple
  have hadmits : Admits contents False (OldOrCandidate old candidate)
      activePresetId candidate (liveTriple v) := by
    rw [htriple]
    exact admits_oldOrCandidate hcollision
  have happly := apply_stage (A := fun _ => True) False.elim hadmits hstart
  rw [htriple] at happly
  constructor
  · intro report v₁ hrun
    have hpost := holds_of_run hrun happly
    have hreport : Reported contents False candidate old report v₁ := hpost.2
    unfold Reported at hreport
    constructor
    · intro hstatus k
      have hinstalled : ∃ T : Transaction β, T.old = old ∧ T.candidate = candidate ∧
          T.Live contents ∧ Settled (T.content contents .candidate) v₁ := by
        rcases hstatus with heq | heq <;> rw [heq] at hreport <;> exact hreport
      obtain ⟨T, rfl, rfl, hlive, hsettled⟩ := hinstalled
      rw [hsettled.current k]
      exact content_eq_candidate hcollision hlive k
    · intro hstatus k
      rw [hstatus] at hreport
      exact hreport.live.current k
  · intro v₁ onlineRequired script' report v₂ hrecovering hrun
    have hstage : Stage contents False (OldOrCandidate old candidate)
        ((applyCandidateLocked contents activePresetId candidate).run script v).2 :=
      run_stage trivial (fun _ _ => trivial) happly (fun _ _ h' => h'.1)
    have hfinal := holds_of_run hrun
      (reconcile_stage hcodec (hrecovering.stage hcodec hstage) onlineRequired)
    obtain ⟨_, L, hL, hsettled⟩ := hfinal
    rcases hL with hL | hL
    · exact Or.inl fun k => (hsettled.current k).trans (hL k)
    · exact Or.inr fun k => (hsettled.current k).trans (hL k)

end CrashAtomicity

section Symbolic

/-- File contents as terms: a record, a document, or any other text. -/
inductive Symbol where
  | record (journal : TransactionJournal)
  | presets (presets : List PresetDocument)
  | settings (settings : SettingsDocument)
  | text (content : String)
deriving DecidableEq, Repr

instance : Inhabited Symbol :=
  ⟨.text ""⟩

/-- Digests of symbolic contents show what the samples differ in. -/
def symbolic : Contents Symbol where
  empty := .text ""
  hash
    | .record _ => "record"
    | .presets presets => "presets " ++ String.join (presets.map (·.id))
    | .settings settings => "settings " ++ settings.activePresetId
    | .text content => content
  encode := .record
  decode
    | .record journal => .ok journal
    | _ => .error "expected value at line 1 column 1"
  settingsActivePresetId
    | .settings settings => some settings.activePresetId
    | _ => none

theorem symbolic_roundTrips : symbolic.RoundTrips :=
  fun _ => rfl

instance : DisplayPath Directory FileName :=
  ⟨fun _ _ => "path"⟩

/-- The given live files, and nothing else. -/
def initialVolume (old : Triple Symbol) : Files Symbol :=
  ⟨fun d n =>
    match d, n with
    | .presets, .named (.artifact .preset) => Cell.settled (old .preset)
    | .settings, .named (.artifact .settings) => Cell.settled (old .settings)
    | .niri, .named (.artifact .bindings) => Cell.settled (old .bindings)
    | _, _ => Cell.settled none⟩

theorem initialVolume_idle (old : Triple Symbol) :
    Idle old (initialVolume old) := by
  refine ⟨?_, rfl⟩
  intro k
  cases k <;> rfl

/-- An answer that stops the process. -/
def stop : Answer FileName Symbol :=
  { fault := .crash, torn := .text "" }

def sampleOld : Triple Symbol
  | .preset => some (.text "presets")
  | .settings => some (.text "settings")
  | .bindings => none

def sampleCandidate : CandidateArtifacts Symbol :=
  ⟨.text "new presets", .text "new settings", .text "new bindings"⟩

/-- The process stops after two of the three renames. -/
def interruptedApply : Files Symbol :=
  ((applyCandidateLocked symbolic "active" sampleCandidate).run
    (List.replicate 160 default ++ [stop]) (initialVolume sampleOld)).2

/-- Successful answers with another identifier for temporary files. -/
def laterAnswers : List (Answer FileName Symbol) :=
  List.replicate 200 { uuid := "later", torn := .text "" }

def recoveredApply : Files Symbol :=
  ((reconcileBindingsLocked symbolic false).run laterAnswers interruptedApply).2

example :
    (liveCell interruptedApply .settings).current = some (.text "new settings") ∧
      (liveCell interruptedApply .bindings).current = none := by
  decide

theorem apply_recover_atomic_interrupted :
    (∀ k, (liveCell recoveredApply k).current = sampleOld k) ∨
      ∀ k, (liveCell recoveredApply k).current = some (sampleCandidate.get k) :=
  (apply_recover_atomic symbolic_roundTrips
    (by intro k; cases k <;> decide) (initialVolume_idle sampleOld) "active"
    (List.replicate 160 default ++ [stop])).2
    interruptedApply false laterAnswers (some ⟨.rolledBackConfirmed, "unknown"⟩)
    recoveredApply .refl (Prod.ext (by decide) rfl)

end Symbolic

end SleepySession
