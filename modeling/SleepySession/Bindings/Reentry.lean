import SleepySession.Bindings.CrashAtomicity
import SleepySession.Lib.Transition

/-!
# Re-entering an interrupted transaction

Applications and reconciliations follow each other in any order; each may be
cut off anywhere, and power may be lost in between.  The question is whether
the journal that is found afterwards is always accepted.

It is not: cleanup of a confirmed transaction starts although the rename of
the confirmed record may not have reached the disk.  If a sidecar disappears
first and the record then reverts to the unconfirmed one, the record is
rejected from then on.  Outside that window, and for candidates that can be
told from an absent file, every record is accepted.
-/

namespace SleepySession

open Program SecureDir

/-- What happens to the directories between two looks at them. -/
inductive BindingEvent (β : Type) where
  | apply (activePresetId : String) (candidate : CandidateArtifacts β)
      (script : List (Answer FileName β))
  | reconcile (onlineRequired : Bool) (script : List (Answer FileName β))
  | powerLoss

section Reentry

variable {β : Type} [Inhabited β] [DisplayPath Directory FileName]
variable (contents : Contents β)

/-- Fresh identifiers are canonical. -/
def FreshIds (script : List (Answer FileName β)) : Prop :=
  ∀ a ∈ script, canonicalUuid a.uuid = true

/-- Transactions, cut off anywhere, and losses of power. -/
def bindingSystem : System (Files β) (BindingEvent β) where
  initial v := ∃ old, Idle old v
  step v e v' :=
    match e with
    | .apply activePresetId candidate script =>
        FreshIds script ∧
          v' = ((applyCandidateLocked contents activePresetId candidate).run
            script v).2
    | .reconcile onlineRequired script =>
        FreshIds script ∧
          v' = ((reconcileBindingsLocked contents onlineRequired).run script v).2
    | .powerLoss => v.Reverts v'

/-- The journal that is found is accepted, or there is none. -/
def Accepted (v : Files β) : Prop :=
  ∀ script e v', (TransactionJournal.load contents).run script v = (.error e, v') →
    e.code ≠ .invalidJournal

/-- Reconciliation does not fail because of what it finds. -/
def Reentrant (v : Files β) : Prop :=
  ∀ onlineRequired script e v',
    (reconcileBindingsLocked contents onlineRequired).run script v =
        (.error e, v') →
      e.code ≠ .invalidJournal ∧ e.code ≠ .concurrentStateChange

/--
The active preset id of an application is not blank, a candidate for an absent
file can be told from an empty one, and power is not lost while cleanup of a
confirmed record has begun that may still revert.
-/
def Careful (v : Files β) : BindingEvent β → Prop
  | .apply activePresetId candidate _ =>
      blank activePresetId = false ∧
        ∀ k, liveTriple v k = none →
          contents.hash contents.empty ≠ contents.hash (candidate.get k)
  | .reconcile _ _ => True
  | .powerLoss => ¬ Exposed contents v

variable {contents}
variable {v v' : Files β}

theorem apply_step
    {activePresetId : String} {candidate : CandidateArtifacts β}
    {script : List (Answer FileName β)}
    (h : FreshIds script) :
    (bindingSystem contents).step v (.apply activePresetId candidate script)
      ((applyCandidateLocked contents activePresetId candidate).run script v).2 :=
  ⟨h, rfl⟩

theorem reconcile_step
    {onlineRequired : Bool} {script : List (Answer FileName β)}
    (h : FreshIds script) :
    (bindingSystem contents).step v (.reconcile onlineRequired script)
      ((reconcileBindingsLocked contents onlineRequired).run script v).2 :=
  ⟨h, rfl⟩

omit [Inhabited β] [DisplayPath Directory FileName] in
theorem Interrupts.code_ne
    {e : Failure}
    (h : e.Interrupts) :
    e.code ≠ .invalidJournal ∧ e.code ≠ .concurrentStateChange := by
  constructor <;> intro hcode <;> simp [Failure.Interrupts, hcode, ErrorCode.interrupts] at h

omit [Inhabited β] [DisplayPath Directory FileName] in
theorem admits_of_careful
    {activePresetId : String} {candidate : CandidateArtifacts β}
    (hactive : blank activePresetId = false)
    (habsent : ∀ k, liveTriple v k = none →
      contents.hash contents.empty ≠ contents.hash (candidate.get k)) :
    Admits contents True (fun _ => True) activePresetId candidate
      (liveTriple v) := by
  refine ⟨fun _ => hactive, ?_, fun _ _ _ => ⟨trivial, fun _ => trivial⟩⟩
  rintro _ T hold rfl k hnoop hnone
  rw [hold] at hnone
  refine habsent k hnone ?_
  simpa [Transaction.Noop, hold, hnone] using hnoop

/-- A step that meets the condition keeps the stages. -/
theorem careful_step
    (hcodec : contents.RoundTrips)
    {e : BindingEvent β}
    (h : Stage contents True (fun _ => True) v)
    (hstep : ((bindingSystem contents).restrict (Careful contents)).step v e v') :
    Stage contents True (fun _ => True) v' := by
  obtain ⟨hcareful, hstep⟩ := hstep
  cases e with
  | apply activePresetId candidate script =>
      obtain ⟨hfresh, rfl⟩ := hstep
      exact run_stage (A := fun a => canonicalUuid a.uuid = true)
        canonicalUuid_nilUuid hfresh
        (apply_stage (fun _ _ ha => ha)
          (admits_of_careful hcareful.1 hcareful.2) h)
        (fun _ _ h' => h'.1)
  | reconcile onlineRequired script =>
      obtain ⟨_, rfl⟩ := hstep
      exact run_stage (A := fun _ => True) trivial (fun _ _ => trivial)
        (reconcile_stage hcodec h onlineRequired) (fun _ _ h' => h'.1)
  | powerLoss => exact h.reverts hcodec hstep fun _ => hcareful

/-- A run that is known to fail is one of the runs to be considered. -/
theorem Accepted.code_ne
    {script : List (Answer FileName β)} {e : Failure}
    (h : Accepted contents v)
    (hrun : ((TransactionJournal.load contents).run script v).1 = .error e) :
    e.code ≠ .invalidJournal :=
  h script e _ (Prod.ext hrun rfl)

theorem Reentrant.code_ne
    {onlineRequired : Bool} {script : List (Answer FileName β)} {e : Failure}
    (h : Reentrant contents v)
    (hrun : ((reconcileBindingsLocked contents onlineRequired).run script v).1 =
      .error e) :
    e.code ≠ .invalidJournal ∧ e.code ≠ .concurrentStateChange :=
  h onlineRequired script e _ (Prod.ext hrun rfl)

theorem Stage.accepted
    {P : Triple β → Prop}
    (hcodec : contents.RoundTrips)
    (h : Stage contents True P v) :
    Accepted contents v := by
  intro script e v' hrun
  let Q : Post (Files β) Failure (Option TransactionJournal) :=
    ⟨fun _ _ => True, fun e _ => e.Interrupts, fun _ => True⟩
  have hcut : ∀ v', Cut Q v' := fun _ => ⟨fun _ he => he, trivial⟩
  have hload : (TransactionJournal.load contents).wp (fun _ => True) Q v :=
    load_stage hcodec h (fun v' _ => hcut v') (fun hS => absurd trivial hS)
      (fun _ _ _ _ => trivial) (fun _ _ _ _ _ _ _ => trivial)
      (fun _ _ _ _ _ _ => trivial)
  have hpost := holds_of_run hrun hload
  exact (Interrupts.code_ne hpost).1

theorem Stage.reentrant
    {P : Triple β → Prop}
    (hcodec : contents.RoundTrips)
    (h : Stage contents True P v) :
    Reentrant contents v := by
  intro onlineRequired script e v' hrun
  have hpost := holds_of_run hrun (reconcile_stage hcodec h onlineRequired)
  rcases hpost.2 trivial with hinterrupt | ⟨hcode, _⟩
  · exact Interrupts.code_ne hinterrupt
  · rcases hcode with hcode | hcode <;> rw [hcode] <;> exact ⟨by simp, by simp⟩

/-- In every careful run the journal that is found is accepted. -/
theorem careful_run_reentrant
    (hcodec : contents.RoundTrips)
    (h : ((bindingSystem contents).restrict (Careful contents)).Reachable v) :
    Accepted contents v ∧ Reentrant contents v := by
  have hstage : Stage contents True (fun _ => True) v := by
    refine h.invariant ?_ ?_
    · rintro s ⟨old, hidle⟩
      exact .quiet old trivial hidle.quiet
    · exact fun _ _ _ hs hstep => careful_step hcodec hs hstep
  exact ⟨hstage.accepted hcodec, hstage.reentrant hcodec⟩

end Reentry

section LostConfirmation

/-- Successful answers up to a last one, all with one identifier. -/
def answersUntil (count : Nat) (uuid : String) (last : Fault) :
    List (Answer FileName Symbol) :=
  List.replicate count { uuid := uuid, torn := .text "" } ++
    [{ fault := last, uuid := uuid, torn := .text "" }]

theorem freshIds_answersUntil
    {uuid : String}
    (h : canonicalUuid uuid = true)
    (count : Nat) (last : Fault) :
    FreshIds (answersUntil count uuid last) := by
  intro a ha
  rcases List.mem_append.mp ha with ha | ha
  · rw [List.eq_of_mem_replicate ha]
    exact h
  · rw [List.mem_singleton.mp ha]
    exact h

/-- The process stops after two of the three renames. -/
def stoppedApply : Files Symbol :=
  ((applyCandidateLocked symbolic "active" sampleCandidate).run
    (answersUntil 160 nilUuid .crash) (initialVolume sampleOld)).2

theorem careful_sample (script : List (Answer FileName Symbol)) :
    Careful symbolic (initialVolume sampleOld)
      (.apply "active" sampleCandidate script) := by
  refine ⟨by decide, ?_⟩
  intro k
  cases k <;> decide

theorem careful_run_reentrant_stopped :
    Accepted symbolic stoppedApply ∧ Reentrant symbolic stoppedApply :=
  careful_run_reentrant symbolic_roundTrips
    (.step (.initial ⟨sampleOld, initialVolume_idle sampleOld⟩)
      ⟨careful_sample _,
        apply_step (freshIds_answersUntil canonicalUuid_nilUuid 160 .crash)⟩)

/-- The process stops between the rename of the confirmed record and its sync. -/
def unsyncedConfirmation : Files Symbol :=
  ((applyCandidateLocked symbolic "active" sampleCandidate).run
    (answersUntil 201 nilUuid .crash) (initialVolume sampleOld)).2

def secondUuid : String :=
  "11111111-1111-1111-1111-111111111111"

theorem canonicalUuid_secondUuid : canonicalUuid secondUuid = true := by
  decide

/-- Reconciliation cleans up and stops after removing a sidecar of the settings. -/
def startedCleanup : Files Symbol :=
  ((reconcileBindingsLocked symbolic false).run
    (answersUntil 19 secondUuid .crash) unsyncedConfirmation).2

/-- The directory of the presets loses its unsynced changes, the others keep theirs. -/
def lostConfirmation : Files Symbol :=
  startedCleanup.powerLoss fun d _ => if d = .presets then 1 else 0

theorem reachable_lostConfirmation :
    (bindingSystem symbolic).Reachable lostConfirmation := by
  have happlied : (bindingSystem symbolic).Reachable unsyncedConfirmation :=
    .step (.initial ⟨sampleOld, initialVolume_idle sampleOld⟩)
      (apply_step (freshIds_answersUntil canonicalUuid_nilUuid 201 .crash))
  have hstarted : (bindingSystem symbolic).Reachable startedCleanup :=
    .step happlied
      (reconcile_step (freshIds_answersUntil canonicalUuid_secondUuid 19 .crash))
  exact .step (e := .powerLoss) hstarted (Volume.reverts_powerLoss _ _)

def missingSidecar : Failure :=
  invalidJournal "binding transaction sidecar is missing"

theorem load_lostConfirmation :
    ((TransactionJournal.load symbolic).run [] lostConfirmation).1 =
      .error missingSidecar := by
  decide +kernel

theorem reconcile_lostConfirmation :
    ((reconcileBindingsLocked symbolic false).run [] lostConfirmation).1 =
      .error missingSidecar := by
  decide +kernel

/-- Recovery refuses its own state where the confirmed record is lost after cleanup began. -/
theorem lostConfirmation_not_reentrant :
    (bindingSystem symbolic).Reachable lostConfirmation ∧
      ¬ Accepted symbolic lostConfirmation ∧
      ¬ Reentrant symbolic lostConfirmation := by
  refine ⟨reachable_lostConfirmation, ?_, ?_⟩
  · intro haccepted
    exact haccepted.code_ne load_lostConfirmation rfl
  · intro hreentrant
    exact (hreentrant.code_ne reconcile_lostConfirmation).1 rfl

end LostConfirmation

end SleepySession
