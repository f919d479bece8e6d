import SleepySession.Store.PlainReplacement
import SleepySession.Notifications.Commit

/-!
# Opening where nothing is refused

Where every system call takes effect and the names of the temporary files are
free, `open_with_limits` can fail in a check only.  As no check rejects a
directory that the store has left behind, it succeeds there.
-/

namespace SleepySession

open Program SecureDir

/-- A failure that the store reports itself. -/
def IoError.OfCheck (e : IoError) : Prop :=
  e.kind = .invalidData ∨ e.kind = .invalidInput

theorem not_ofCheck_system (f : Failure) : ¬ (IoError.system f).OfCheck := by
  unfold IoError.system IoError.OfCheck
  split <;> simp [unsafePath]

/-- Every system call takes effect, and the identifiers are those of `U`. -/
def Obliging (U : String → Prop) (a : Answer NotificationFile String) : Prop :=
  a.fault = .proceed ∧ U a.uuid

/-- No temporary file has one of the identifiers. -/
def TemporariesFree (U : String → Prop) (v : NotificationFiles) : Prop :=
  ∀ name uuid, U uuid → (v () (.temporary name uuid)).current = none

/-- Where every system call takes effect, the program fails in a check only. -/
structure Unhindered {α : Type} (U : String → Prop) (m : DirectoryProgram α) : Prop where
  fails : ∀ v, TemporariesFree U v →
    m.wp (Obliging U)
      ⟨fun _ v' => TemporariesFree U v', fun e _ => e.OfCheck, fun _ => True⟩ v
  survives : m.Survives (Obliging U)

section Programs

variable {α β : Type} {U : String → Prop} {m : DirectoryProgram α} {v : NotificationFiles}

theorem willing_obliging : Willing (Obliging U) :=
  fun _ h => Or.inl h.1

theorem proceeds_obliging : Proceeds (Obliging U) :=
  fun _ h => h.1

namespace Unhindered

theorem pure (a : α) : Unhindered U (pure a : DirectoryProgram α) :=
  ⟨fun _ hfree => hfree, trivial⟩

theorem bind
    {f : α → DirectoryProgram β}
    (hm : Unhindered U m)
    (hf : ∀ a, Unhindered U (f a)) :
    Unhindered U (m >>= f) := by
  refine ⟨fun v hfree => ?_, hm.survives.bind fun a => (hf a).survives⟩
  rw [wp_bind]
  refine wp_mono ?_ ?_ ?_ (hm.fails v hfree)
  · exact fun a v' hfree' => (hf a).fails v' hfree'
  · exact fun _ _ h => h
  · exact fun _ h => h

theorem orThrow
    {x : Except IoError α}
    (h : ∀ e, x = .error e → e.OfCheck) :
    Unhindered U (orThrow x : DirectoryProgram α) := by
  refine ⟨fun v hfree => ?_, Survives.orThrow x⟩
  rw [wp_orThrow]
  exact ⟨fun _ _ => hfree, h⟩

theorem throw {e : IoError} (h : e.OfCheck) :
    Unhindered U (throw e : DirectoryProgram α) :=
  ⟨fun _ _ => h, trivial⟩

theorem get : Unhindered U (get : DirectoryProgram NotificationFiles) :=
  ⟨fun _ hfree => hfree, fun _ => trivial⟩

end Unhindered

theorem TemporariesFree.update
    {name : NotificationFile} {c : Cell String}
    (h : TemporariesFree U v) :
    TemporariesFree U (v.update () (.named name) c) := by
  intro other uuid huuid
  rw [Volume.update_other _ _ (by simp)]
  exact h other uuid huuid

theorem TemporariesFree.sync
    (h : TemporariesFree U v) :
    TemporariesFree U (v.sync ()) := by
  intro name uuid huuid
  rw [Volume.sync_same]
  exact h name uuid huuid

/-- The temporary file of a replacement is gone after the rename. -/
theorem TemporariesFree.renamed
    {name : NotificationFile} {uuid : String} {v' : NotificationFiles}
    (h : TemporariesFree U v)
    (hother : ∀ other uuid', (other, uuid') ≠ (name, uuid) →
      v' () (.temporary other uuid') = v () (.temporary other uuid')) :
    TemporariesFree U (v'.rename () (.temporary name uuid) (.named name)) := by
  intro other uuid' huuid
  unfold Volume.rename
  by_cases hsame : (other, uuid') = (name, uuid)
  · cases hsame
    rw [Volume.update_same]
    rfl
  · have hne : Entry.temporary other uuid' ≠ Entry.temporary name uuid := by
      rintro heq
      cases heq
      exact hsame rfl
    rw [Volume.update_other _ _ (by simp [hne]), Volume.update_other _ _ (by simp),
      hother _ _ hsame]
    exact h other uuid' huuid

namespace Unhindered

open SecureDirectory

theorem ofDisk
    {disk : Disk Unit NotificationFile String α}
    (hfails : ∀ v, TemporariesFree U v →
      disk.wp (Obliging U) ⟨fun _ v' => TemporariesFree U v', fun _ _ => False, fun _ => True⟩ v)
    (hsurvives : disk.Survives (Obliging U)) :
    Unhindered U (system disk) := by
  refine ⟨fun v hfree => ?_, hsurvives.mapError _⟩
  rw [wp_system]
  refine wp_mono ?_ ?_ ?_ (hfails v hfree)
  · exact fun _ _ h => h
  · exact fun _ _ h => h.elim
  · exact fun _ h => h

theorem remove (name : NotificationFile) : Unhindered U (remove name) := by
  refine ofDisk (fun v hfree => ?_) (survives_effect proceeds_obliging)
  unfold removeFile
  rw [wp_bind]
  exact wp_syscall_willing willing_obliging trivial hfree.update

theorem sync : Unhindered U SecureDirectory.sync := by
  refine ofDisk (fun v hfree => ?_) (survives_effect proceeds_obliging)
  unfold SecureDir.sync
  rw [wp_bind]
  exact wp_syscall_willing willing_obliging trivial hfree.sync

theorem readOptional (name : NotificationFile) : Unhindered U (readOptional name) := by
  refine bind (ofDisk (fun v hfree => ?_) (survives_readOptional proceeds_obliging)) fun bytes => ?_
  · exact wp_readOptional_willing willing_obliging trivial hfree
  · cases bytes with
    | none => exact .pure _
    | some bytes =>
        dsimp only
        split
        · exact .throw (Or.inl rfl)
        · exact .pure _

/-- A replacement creates, writes, syncs and moves its temporary file. -/
theorem atomicReplace (name : NotificationFile) (bytes : String) :
    Unhindered U (atomicReplace name bytes) := by
  refine ⟨fun v hfree => ?_, ?_⟩
  · unfold SecureDirectory.atomicReplace
    simp only [wp_bind, wp_system]
    refine wp_openRegularOptional_willing willing_obliging trivial ?_
    refine ⟨trivial, fun answer hanswer => ?_⟩
    refine ⟨trivial, fun created hcreated => ?_⟩
    simp only [andThen, hcreated.1, wp_bind, wp_get,
      hfree name answer.uuid hanswer.2, Option.isSome_none, Bool.false_eq_true, if_false]
    rw [wp_modify]
    unfold replaceWith
    simp only [wp_attempt, wp_bind, wp_system]
    refine ⟨trivial, fun written hwritten => ?_⟩
    simp only [andThen, hwritten.1, syncAll, wp_modify, wp_bind]
    refine wp_syscall_willing willing_obliging trivial ?_
    unfold SecureDir.rename SecureDir.sync
    simp only [wp_bind, wp_modify]
    refine wp_syscall_willing willing_obliging trivial ?_
    refine wp_syscall_willing willing_obliging trivial ?_
    refine (hfree.renamed fun other uuid' hne => ?_).sync
    have hentry : Entry.temporary other uuid' ≠ Entry.temporary name answer.uuid := by
      rintro heq
      cases heq
      exact hne rfl
    simp only [Volume.update_other _ _ (show ¬(() = () ∧ _) from fun h => hentry h.2)]
  · have hA : Proceeds (Obliging U) := proceeds_obliging
    refine ((survives_openRegularOptional hA).mapError _).bind fun _ => ?_
    refine (Survives.mapError _ (m := newUuid) fun _ _ => trivial).bind fun uuid => ?_
    refine ((survives_createNew hA).mapError _).bind fun _ => ?_
    refine Survives.bind (Survives.attempt ?_) fun result => ?_
    · refine ((survives_writeAll hA).mapError _).bind fun _ => ?_
      refine ((survives_effect hA).mapError _).bind fun _ => ?_
      refine ((survives_effect hA).mapError _).bind fun _ => ?_
      exact (survives_effect hA).mapError _
    · cases result with
      | ok _ => trivial
      | error e => exact (Survives.attempt ((survives_effect hA).mapError _)).bind fun _ => trivial

variable {sdk : NotificationSdk}

theorem readJson
    (parse : String → Except String α) (name : NotificationFile) :
    Unhindered U (readJson parse name) := by
  refine bind (readOptional name) fun bytes => ?_
  cases bytes with
  | none => exact .pure _
  | some bytes =>
      refine bind (.orThrow fun e he => ?_) fun value => .pure _
      unfold orInvalidData at he
      split at he <;> cases he
      exact Or.inl rfl

theorem requireDurableVersion (version : Nat) :
    Unhindered U (Program.orThrow (sdk.requireDurableVersion version) : DirectoryProgram Unit) := by
  refine .orThrow fun e he => ?_
  unfold NotificationSdk.requireDurableVersion at he
  split at he <;> cases he
  exact Or.inl rfl

theorem validateDocuments (documents : List NotificationDocument) :
    Unhindered U (Program.orThrow (sdk.validateDocuments documents) : DirectoryProgram Unit) := by
  refine .orThrow fun e he => ?_
  unfold NotificationSdk.validateDocuments at he
  induction documents with
  | nil => cases he
  | cons d documents ih =>
      change (sdk.validateDocument d >>= fun _ => documents.forM sdk.validateDocument) = _ at he
      cases hd : sdk.validateDocument d with
      | ok _ =>
          rw [hd] at he
          exact ih he
      | error e' =>
          rw [hd] at he
          cases he
          unfold NotificationSdk.validateDocument at hd
          split at hd
          · cases hd
            exact Or.inr rfl
          · unfold orInvalidData at hd
            split at hd <;> cases hd
            exact Or.inl rfl

theorem writeState
    (active archive : List NotificationDocument) (preferences : Preferences) :
    Unhindered U (writeState sdk active archive preferences fun _ => Pure.pure ()) := by
  refine bind (atomicReplace _ _) fun _ => bind (.pure _) fun _ => ?_
  refine bind (atomicReplace _ _) fun _ => bind (.pure _) fun _ => ?_
  refine bind (atomicReplace _ _) fun _ => bind (.pure _) fun _ => ?_
  exact bind (remove _) fun _ => bind (.pure _) fun _ => sync

theorem reconcile : Unhindered U (reconcile sdk) := by
  refine bind (readJson _ _) fun transaction => ?_
  cases transaction with
  | none => exact .pure _
  | some transaction =>
      refine bind (requireDurableVersion _) fun _ => bind (requireDurableVersion _) fun _ => ?_
      refine bind (validateDocuments _) fun _ => bind (validateDocuments _) fun _ => ?_
      exact writeState _ _ _

theorem readDocuments (name : NotificationFile) : Unhindered U (readDocuments sdk name) := by
  refine bind (readJson _ _) fun document => ?_
  cases document with
  | none => exact .pure _
  | some document =>
      exact bind (requireDurableVersion _) fun _ => bind (validateDocuments _) fun _ => .pure _

theorem readPreferences : Unhindered U (readPreferences sdk) :=
  bind (readJson _ _) fun _ => bind (requireDurableVersion _) fun _ => .pure _

theorem openWithLimits (capacity limit : Nat) :
    Unhindered U (openWithLimits sdk capacity limit) := by
  refine bind (.orThrow fun e he => ?_) fun _ => ?_
  · unfold checkLimits at he
    split at he
    · cases he
      exact Or.inr rfl
    · split at he <;> cases he
      exact Or.inr rfl
  refine bind reconcile fun _ => bind (readDocuments _) fun active => ?_
  refine bind (readDocuments _) fun archive => bind readPreferences fun preferences => ?_
  refine bind (.orThrow fun e he => ?_) fun _ => bind (.orThrow fun e he => ?_) fun _ => ?_
  · unfold validateUniqueIds at he
    split at he <;> cases he
    exact Or.inl rfl
  · unfold NotificationSdk.validateAggregate at he
    split at he <;> cases he
    exact Or.inr rfl
  · exact bind .get fun _ => .pure _

end Unhindered

end Programs

/-- Every system call of a script takes effect, and the names it gives are free. -/
def NothingRefused (files : NotificationFiles)
    (script : List (Answer NotificationFile String)) : Prop :=
  ∀ a, a = default ∨ a ∈ script →
    a.fault = .proceed ∧ ∀ name, (files () (.temporary name a.uuid)).current = none

/-- Then opening a store succeeds, unless one of its checks fails. -/
theorem openWithLimits_of_nothingRefused
    {sdk : NotificationSdk} {capacity limit : Nat} {files : NotificationFiles}
    {script : List (Answer NotificationFile String)}
    (h : NothingRefused files script)
    (hchecks : ∀ e files', (openWithLimits sdk capacity limit).run script files =
      (.error e, files') → ∃ f, e = IoError.system f) :
    ∃ s files', (openWithLimits sdk capacity limit).run script files = (.ok s, files') := by
  let U : String → Prop := fun uuid =>
    ∃ a : Answer NotificationFile String, (a = default ∨ a ∈ script) ∧ a.uuid = uuid
  have hfree : TemporariesFree U files := by
    rintro name uuid ⟨a, ha, rfl⟩
    exact (h a ha).2 name
  have hdefault : Obliging U default := ⟨rfl, default, Or.inl rfl, rfl⟩
  have hscript : ∀ a ∈ script, Obliging U a :=
    fun a ha => ⟨(h a (Or.inr ha)).1, a, Or.inr ha, rfl⟩
  have hopen : Unhindered U (openWithLimits sdk capacity limit) :=
    Unhindered.openWithLimits capacity limit
  cases hrun : (openWithLimits sdk capacity limit).run script files with
  | mk outcome files' =>
      cases outcome with
      | ok s => exact ⟨s, files', rfl⟩
      | error e =>
          obtain ⟨f, rfl⟩ := hchecks e files' hrun
          exact absurd (holds_of_allowed_run hdefault hscript hrun (hopen.fails files hfree))
            (not_ofCheck_system f)
      | crashed =>
          exact absurd (congrArg Prod.fst hrun)
            (hopen.survives.run hdefault script files hscript)

end SleepySession
