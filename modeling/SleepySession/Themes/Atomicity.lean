import SleepySession.Themes.Transaction

/-!
# Atomicity of the theme transaction

Each program has one specification, stated for every environment.  The journal
names the theme to return to, so everything follows from what a program leaves
in the journal and in the current theme: `Session.restores` combines the two.
The transaction loses its way back only when the removed journal cannot be
written again and the rollback stops before it has written the current theme.
-/

namespace SleepySession
namespace Themes

open Program

variable {δ : Type}

section Sessions

variable (c : Catalogue δ) (s : Session δ) (d : δ) (j : ApplyJournal δ)

@[simp] theorem theme_putCurrent : (s.putCurrent d).theme c = d := rfl

@[simp] theorem theme_putJournal : (s.putJournal j).theme c = s.theme c := rfl

@[simp] theorem theme_dropJournal : s.dropJournal.theme c = s.theme c := rfl

@[simp] theorem theme_sync : s.sync.theme c = s.theme c := rfl

@[simp] theorem theme_markDurable : s.markDurable.theme c = s.theme c := rfl

@[simp] theorem theme_bumpGeneration : s.bumpGeneration.theme c = s.theme c := rfl

@[simp] theorem journal_putCurrent : (s.putCurrent d).journal = s.journal := rfl

@[simp] theorem journal_putJournal :
    (s.putJournal j).journal = s.journal.replace (some j) := rfl

@[simp] theorem journal_dropJournal :
    s.dropJournal.journal = s.journal.replace none := rfl

@[simp] theorem journal_sync : s.sync.journal = s.journal.sync := rfl

@[simp] theorem journal_markDurable : s.markDurable.journal = s.journal := rfl

@[simp] theorem journal_bumpGeneration : s.bumpGeneration.journal = s.journal := rfl

@[simp] theorem durable_putCurrent :
    (s.putCurrent d).journalDurable = s.journalDurable := rfl

@[simp] theorem durable_putJournal :
    (s.putJournal j).journalDurable = s.journalDurable := rfl

@[simp] theorem durable_dropJournal : s.dropJournal.journalDurable = false := rfl

@[simp] theorem durable_sync : s.sync.journalDurable = s.journalDurable := rfl

@[simp] theorem durable_markDurable : s.markDurable.journalDurable = true := rfl

@[simp] theorem durable_bumpGeneration :
    s.bumpGeneration.journalDurable = s.journalDurable := rfl

end Sessions

section Cells

variable {β : Type}

@[simp] theorem current_replace (cell : Cell β) (x : Option β) :
    (cell.replace x).current = x := rfl

@[simp] theorem current_sync (cell : Cell β) : cell.sync.current = cell.current := rfl

@[simp] theorem sync_replace (cell : Cell β) (x : Option β) :
    (cell.replace x).sync = .settled x := rfl

@[simp] theorem sync_settled (x : Option β) :
    (Cell.settled x).sync = .settled x := rfl

end Cells

section Fates

variable {f : Fault} {l : List Fault}

theorem completes_eq_false (hf : f ∈ l) (hne : f ≠ .proceed) : completes l = false := by
  induction l with
  | nil => cases hf
  | cons g rest ih =>
      cases g with
      | proceed =>
          rcases List.mem_cons.mp hf with rfl | hf
          · exact absurd rfl hne
          · exact ih hf
      | refuse => rfl
      | fail => rfl
      | crash => rfl

/-- A script that begins with a failure fails. -/
theorem fails_of_head (hf : fails [f] = true) : fails (f :: l) = true := by
  cases f with
  | proceed => cases hf
  | refuse => rfl
  | fail => rfl
  | crash => cases hf

theorem ne_of_fails (hf : fails [f] = true) : f ≠ .proceed := by
  rintro rfl
  cases hf

theorem ne_of_crash (hf : f = .crash) : f ≠ .proceed := by
  rw [hf]
  decide

end Fates

/-- While the journal counts as durable, nothing else can be found after a crash. -/
def Kept (j : ApplyJournal δ) (s : Session δ) : Prop :=
  s.journalDurable = true → s.journal.All (· = some j)

namespace Kept

variable {j : ApplyJournal δ} {s : Session δ}

theorem putCurrent (h : Kept j s) (d : δ) : Kept j (s.putCurrent d) := h

theorem bumpGeneration (h : Kept j s) : Kept j s.bumpGeneration := h

theorem putJournal (h : Kept j s) : Kept j (s.putJournal j) :=
  fun hd => (Cell.wrote_replace s.journal (some j)).all rfl (h hd)

theorem sync (h : Kept j s) : Kept j s.sync :=
  fun hd => (Cell.shrinks_sync s.journal).all (h hd)

theorem dropJournal (j : ApplyJournal δ) (s : Session δ) : Kept j s.dropJournal := by
  intro hd
  cases hd

theorem of_settled (h : s.journal = .settled (some j)) : Kept j s := by
  intro _
  simp [h]

end Kept

section Steps

variable {A : Unit → Prop} {s : Session δ}

/-- One system call, under every fate. -/
theorem wp_step
    {σ : Type} {s : σ} {f : Fault} {p : Point} {Q : Post σ ThemeError Unit}
    (hok : f = .proceed → Q.ok () s)
    (herror : fails [f] = true → Q.error (.fault p) s)
    (hcrash : f = .crash → Q.crashed s) :
    (step f p : Program Unit σ ThemeError Unit).wp A Q s := by
  cases f with
  | proceed => exact hok rfl
  | refuse => exact herror rfl
  | fail => exact herror rfl
  | crash => exact hcrash rfl

theorem wp_observe
    {observer : ThemeApplyStage → Fault} {stage : ThemeApplyStage}
    {Q : Post (Session δ) ThemeError Unit}
    (hok : observer stage = .proceed → Q.ok () s)
    (herror : fails [observer stage] = true → Q.error (.fault (.stage stage)) s)
    (hcrash : observer stage = .crash → Q.crashed s) :
    (observe observer stage : Transaction δ Unit).wp A Q s :=
  wp_step hok herror hcrash

/-- A publication that fails may have counted the generation already. -/
theorem wp_publish
    {f : Fault} {p : Point} {Q : Post (Session δ) ThemeError Nat}
    (hok : f = .proceed → Q.ok s.bumpGeneration.generation s.bumpGeneration)
    (herror : fails [f] = true →
      Q.error (.fault p) s ∧ Q.error (.fault p) s.bumpGeneration)
    (hcrash : f = .crash → Q.crashed s) :
    (publish f p : Transaction δ Nat).wp A Q s := by
  cases f with
  | proceed => exact hok rfl
  | refuse => exact (herror rfl).1
  | fail => exact (herror rfl).2
  | crash => exact hcrash rfl

/-- A write fails before the new value is in place, or when it is in place but not synced. -/
theorem wp_atomicStateWrite
    {env : Environment} {point : WritePart → Point} {put : Session δ → Session δ}
    {Q : Post (Session δ) ThemeError Unit}
    (hok : completes [env.fate (point .replace), env.fate (point .sync)] = true →
      Q.ok () (put s).sync)
    (hbefore : fails [env.fate (point .replace)] = true → ∀ e, Q.error e s)
    (hafter : env.fate (point .replace) = .proceed →
      fails [env.fate (point .sync)] = true → ∀ e, Q.error e (put s))
    (hcrash : env.fate (point .replace) = .crash → Q.crashed s)
    (hcrashAfter : env.fate (point .replace) = .proceed →
      env.fate (point .sync) = .crash → Q.crashed (put s)) :
    (atomicStateWrite env point put).wp A Q s := by
  unfold atomicStateWrite
  rw [wp_bind]
  apply wp_step
  · intro hreplace
    show Program.wp A (step _ _ >>= _) Q (put s)
    rw [wp_bind]
    apply wp_step
    · intro hsync
      exact hok (by simp [completes, hreplace, hsync])
    · exact fun hf => hafter hreplace hf _
    · exact fun hf => hcrashAfter hreplace hf
  · exact fun hf => hbefore hf _
  · exact hcrash

/-- A journal that was written and synced counts as durable. -/
theorem wp_writeJournal
    {env : Environment} {point : WritePart → Point} {j : ApplyJournal δ}
    {Q : Post (Session δ) ThemeError Unit}
    (hok : completes [env.fate (point .replace), env.fate (point .sync)] = true →
      Q.ok () (s.putJournal j).sync.markDurable)
    (hbefore : fails [env.fate (point .replace)] = true → ∀ e, Q.error e s)
    (hafter : env.fate (point .replace) = .proceed →
      fails [env.fate (point .sync)] = true → ∀ e, Q.error e (s.putJournal j))
    (hcrash : env.fate (point .replace) = .crash → Q.crashed s)
    (hcrashAfter : env.fate (point .replace) = .proceed →
      env.fate (point .sync) = .crash → Q.crashed (s.putJournal j)) :
    (writeJournal env point j).wp A Q s := by
  unfold writeJournal
  rw [wp_bind]
  exact wp_atomicStateWrite hok hbefore hafter hcrash hcrashAfter

/-- A cleanup ends before or after it has removed the journal. -/
theorem wp_cleanupJournal
    {env : Environment} {observer : ThemeApplyStage → Fault}
    {removal directorySync : Point}
    {Q : Post (Session δ) ThemeError Unit}
    (hok : completes [observer .journalRemoveStarted, env.fate removal,
        observer .journalRemoved, env.fate directorySync,
        observer .journalDirectorySynced] = true →
      Q.ok () s.dropJournal.sync)
    (hbefore : fails [observer .journalRemoveStarted, env.fate removal] = true →
      ∀ e, Q.error e s)
    (hafter : completes [observer .journalRemoveStarted, env.fate removal] = true →
      fails [observer .journalRemoved, env.fate directorySync,
        observer .journalDirectorySynced] = true →
      ∀ e, Q.error e s.dropJournal ∧ Q.error e s.dropJournal.sync)
    (hcrash : completes [observer .journalRemoveStarted, env.fate removal] = false →
      Q.crashed s)
    (hcrashAfter :
      fails [observer .journalRemoved, env.fate directorySync,
        observer .journalDirectorySynced] = false →
      Q.crashed s.dropJournal ∧ Q.crashed s.dropJournal.sync) :
    (cleanupJournal env observer removal directorySync).wp A Q s := by
  unfold cleanupJournal
  rw [wp_bind]
  apply wp_observe
  · intro hstarted
    show Program.wp A (step _ _ >>= _) Q s
    rw [wp_bind]
    apply wp_step
    · intro hremoved
      have hgone : completes [observer .journalRemoveStarted, env.fate removal] = true := by
        simp [completes, hstarted, hremoved]
      show Program.wp A (observe _ _ >>= _) Q s.dropJournal
      rw [wp_bind]
      apply wp_observe
      · intro hobserved
        show Program.wp A (step _ _ >>= _) Q s.dropJournal
        rw [wp_bind]
        apply wp_step
        · intro hsynced
          show Program.wp A (observe _ _) Q s.dropJournal.sync
          apply wp_observe
          · intro hlast
            exact hok (by simp [completes, *])
          · intro hf
            exact (hafter hgone (by simpa [fails, hobserved, hsynced] using hf) _).2
          · intro hf
            exact (hcrashAfter (by simp [fails, hobserved, hsynced, hf])).2
        · intro hf
          refine (hafter hgone ?_ _).1
          simp [fails, hobserved, fails_of_head hf]
        · intro hf
          exact (hcrashAfter (by simp [fails, hobserved, hf])).1
      · intro hf
        exact (hafter hgone (fails_of_head hf) _).1
      · intro hf
        exact (hcrashAfter (by simp [fails, hf])).1
    · intro hf
      exact hbefore (by simpa [fails, hstarted] using hf) _
    · intro hf
      exact hcrash (by simp [completes, hstarted, hf])
  · intro hf
    exact hbefore (fails_of_head hf) _
  · intro hf
    exact hcrash (by simp [completes, hf])

end Steps

section Rollback

variable {A : Unit → Prop} {s : Session δ} {j : ApplyJournal δ}
variable {env : Environment} {observer : ThemeApplyStage → Fault}

/-- The journal is not there, or it is the one of the transaction. -/
def Own (j : ApplyJournal δ) (s : Session δ) : Prop :=
  s.journal.current = none ∨ s.journal.current = some j

/-- Whether the journal is there or not, recovery leads back to the previous theme. -/
theorem Own.restores (c : Catalogue δ) (h : Own j s) (htheme : s.theme c = j.previous) :
    s.restores c = j.previous := by
  unfold Session.restores
  rcases h with h | h
  · rw [h]
    exact htheme
  · rw [h]

/-- How a rollback may end. -/
def rollbackPost
    (c : Catalogue δ) (env : Environment) (observer : ThemeApplyStage → Fault)
    (j : ApplyJournal δ) (s : Session δ) : Post (Session δ) ThemeError Nat where
  ok _ t :=
    env.rollbackStops observer = false ∧ t.theme c = j.previous ∧
      t.journal.current = none
  error _ t :=
    (env.rollbackStops observer = false ∧ t.theme c = j.previous ∧ Own j t) ∨
      (env.rollbackStops observer = true ∧ t = s)
  crashed t :=
    env.rollbackStops observer = false ∧ (Kept j s → Kept j t) ∧
      ((t.theme c = j.previous ∧ Own j t) ∨ t = s)

/-- After the previous theme has been written everything that follows is safe. -/
theorem wp_rollback_rest
    (c : Catalogue δ)
    (hstops : env.rollbackStops observer = false)
    {s₀ : Session δ}
    (hown : Own j s) (hkept : Kept j s₀ → Kept j s) (htheme : s.theme c = j.previous) :
    (do
      observe observer .rollbackWritten
      let generation ← publish (env.fate (.rollback .publish)) (.rollback .publish)
      let cleaned ←
        (cleanupJournal env noopObserver (.rollback .remove) (.rollback .sync)).attempt
      match cleaned with
      | .ok _ => pure generation
      | .error e => do
          writeJournal env (fun part => .rollback (.restore part)) j
          throw (.journalRestored e) : Transaction δ Nat).wp A
      (rollbackPost c env observer j s₀) s := by
  rw [wp_bind]
  apply wp_observe
  · intro _
    dsimp only
    rw [wp_bind]
    apply wp_publish
    · intro _
      dsimp only
      have htheme' : s.bumpGeneration.theme c = j.previous := htheme
      have hrestored : ∀ (e : ThemeError) (t : Session δ),
          t.theme c = j.previous → Own j t → (Kept j s₀ → Kept j t) →
          (do
            writeJournal env (fun part => .rollback (.restore part)) j
            throw (.journalRestored e) : Transaction δ Nat).wp A
            (rollbackPost c env observer j s₀) t := by
        intro e t ht hto htk
        rw [wp_bind]
        apply wp_writeJournal
        · exact fun _ => .inl ⟨hstops, ht, .inr rfl⟩
        · exact fun _ _ => .inl ⟨hstops, ht, hto⟩
        · exact fun _ _ _ => .inl ⟨hstops, ht, .inr rfl⟩
        · exact fun _ => ⟨hstops, htk, .inl ⟨ht, hto⟩⟩
        · exact fun _ _ => ⟨hstops, fun h => (htk h).putJournal, .inl ⟨ht, .inr rfl⟩⟩
      rw [wp_bind, wp_attempt]
      apply wp_cleanupJournal
      · exact fun _ => ⟨hstops, htheme', rfl⟩
      · exact fun _ e => hrestored e _ htheme' hown hkept
      · intro _ _ e
        exact ⟨hrestored e _ htheme' (.inl rfl) fun _ => Kept.dropJournal j _,
          hrestored e _ htheme' (.inl rfl) fun _ => (Kept.dropJournal j _).sync⟩
      · exact fun _ => ⟨hstops, hkept, .inl ⟨htheme', hown⟩⟩
      · exact fun _ =>
          ⟨⟨hstops, fun _ => Kept.dropJournal j _, .inl ⟨htheme', .inl rfl⟩⟩,
            ⟨hstops, fun _ => (Kept.dropJournal j _).sync, .inl ⟨htheme', .inl rfl⟩⟩⟩
    · exact fun _ => ⟨.inl ⟨hstops, htheme, hown⟩, .inl ⟨hstops, htheme, hown⟩⟩
    · exact fun _ => ⟨hstops, hkept, .inl ⟨htheme, hown⟩⟩
  · exact fun _ => .inl ⟨hstops, htheme, hown⟩
  · exact fun _ => ⟨hstops, hkept, .inl ⟨htheme, hown⟩⟩

/-- How a rollback ends, by the fate of each of its steps. -/
theorem wp_rollback
    (c : Catalogue δ)
    (hown : Own j s) :
    (rollback env observer j).wp A (rollbackPost c env observer j s) s := by
  unfold rollback
  rw [wp_bind]
  apply wp_step
  · intro hack
    dsimp only
    rw [wp_bind]
    apply wp_observe
    · intro hobserved
      dsimp only
      rw [wp_bind]
      apply wp_step
      · intro hactive
        dsimp only
        rw [wp_bind]
        have hstops :
            env.rollbackStops observer =
              fails [env.fate (.rollback (.current .replace))] := by
          simp [Environment.rollbackStops, fails, hack, hobserved, hactive]
        apply wp_atomicStateWrite
        · intro hwritten
          refine wp_rollback_rest (s := (s.putCurrent j.previous).sync)
            c ?_ hown (fun h => (h.putCurrent _).sync) rfl
          rw [hstops]
          revert hwritten
          cases env.fate (.rollback (.current .replace)) <;> simp [completes, fails]
        · exact fun hf _ => .inr ⟨hstops.trans hf, rfl⟩
        · intro hreplaced _ _
          exact .inl ⟨by simp [hstops, fails, hreplaced], rfl, hown⟩
        · intro hf
          exact ⟨by simp [hstops, fails, hf], id, .inr rfl⟩
        · intro hreplaced _
          exact ⟨by simp [hstops, fails, hreplaced], fun h => h.putCurrent _,
            .inl ⟨rfl, hown⟩⟩
      · intro hf
        refine .inr ⟨?_, rfl⟩
        simp [Environment.rollbackStops, fails, hack, hobserved, fails_of_head hf]
      · intro hf
        exact ⟨by simp [Environment.rollbackStops, fails, hack, hobserved, hf],
          id, .inr rfl⟩
    · intro hf
      refine .inr ⟨?_, rfl⟩
      simp [Environment.rollbackStops, fails, hack, fails_of_head hf]
    · intro hf
      exact ⟨by simp [Environment.rollbackStops, fails, hack, hf], id, .inr rfl⟩
  · intro hf
    exact .inr ⟨fails_of_head hf, rfl⟩
  · intro hf
    exact ⟨by simp [Environment.rollbackStops, fails, hf], id, .inr rfl⟩

end Rollback

section Forward

variable {A : Unit → Prop} {s : Session δ} {j : ApplyJournal δ} {env : Environment}

/-- How `continue_apply` may end: unless all its steps take effect the journal is as it
was, and it always stays in place. -/
def continuePost
    (c : Catalogue δ) (env : Environment) (candidate : δ) (j : ApplyJournal δ) :
    Post (Session δ) ThemeError Nat where
  ok _ t :=
    completes env.forward = true ∧ t.theme c = candidate ∧ t.journal = .settled (some j)
  error _ t := completes env.forward = false ∧ t.journal = .settled (some j)
  crashed t := completes env.forward = false ∧ t.journal = .settled (some j)

/-- A step of the forward path that does not take effect ends it. -/
theorem wp_forward_step
    {c : Catalogue δ} {candidate : δ} {f : Fault} {p : Point}
    {rest : Unit → Transaction δ Nat}
    (hmem : f ∈ env.forward)
    (hjournal : s.journal = .settled (some j))
    (hok : f = .proceed → (rest ()).wp A (continuePost c env candidate j) s) :
    ((step f p : Transaction δ Unit) >>= rest).wp A (continuePost c env candidate j) s := by
  rw [wp_bind]
  apply wp_step hok
  · exact fun hf => ⟨completes_eq_false hmem (ne_of_fails hf), hjournal⟩
  · exact fun hf => ⟨completes_eq_false hmem (ne_of_crash hf), hjournal⟩

/-- How the transaction goes on once its journal is written. -/
theorem wp_continueApply
    (c : Catalogue δ) (candidate : δ)
    (hjournal : s.journal = .settled (some j)) :
    (continueApply env candidate).wp A (continuePost c env candidate j) s := by
  have hfails : ∀ f ∈ env.forward, fails [f] = true → completes env.forward = false :=
    fun _ hmem hf => completes_eq_false hmem (ne_of_fails hf)
  have hcrash : ∀ f ∈ env.forward, f = .crash → completes env.forward = false :=
    fun _ hmem hf => completes_eq_false hmem (ne_of_crash hf)
  unfold continueApply observe
  refine wp_forward_step (by simp [Environment.forward]) hjournal fun h₁ => ?_
  refine wp_forward_step (by simp [Environment.forward]) hjournal fun h₂ => ?_
  refine wp_forward_step (by simp [Environment.forward]) hjournal fun h₃ => ?_
  refine wp_forward_step (by simp [Environment.forward]) hjournal fun h₄ => ?_
  rw [wp_bind]
  apply wp_publish
  · intro h₅
    refine wp_forward_step (by simp [Environment.forward]) hjournal fun h₆ => ?_
    rw [wp_bind]
    apply wp_atomicStateWrite
    · intro h₇
      refine wp_forward_step (by simp [Environment.forward]) (by simp [hjournal])
        fun h₈ => ⟨?_, rfl, by simp [hjournal]⟩
      simp only [Environment.forward, completes, h₁, h₂, h₃, h₄, h₅, h₆]
      revert h₇
      cases env.fate (.current .replace) <;>
        cases env.fate (.current .sync) <;> simp [completes, h₈]
    · exact fun hf _ => ⟨hfails _ (by simp [Environment.forward]) hf, hjournal⟩
    · exact fun _ hf _ => ⟨hfails _ (by simp [Environment.forward]) hf, hjournal⟩
    · exact fun hf => ⟨hcrash _ (by simp [Environment.forward]) hf, hjournal⟩
    · exact fun _ hf => ⟨hcrash _ (by simp [Environment.forward]) hf, hjournal⟩
  · intro hf
    have hstop := hfails _ (by simp [Environment.forward]) hf
    exact ⟨⟨hstop, hjournal⟩, hstop, hjournal⟩
  · exact fun hf => ⟨hcrash _ (by simp [Environment.forward]) hf, hjournal⟩

end Forward

section Apply

variable {A : Unit → Prop} {s : Session δ} {j : ApplyJournal δ} {env : Environment}

/-- The journal is back, or the previous theme is, unless the rollback stops first. -/
theorem wp_recoverCleanup
    (c : Catalogue δ) (e : ThemeError)
    (hown : Own j s) (hkept : Kept j s) :
    (recoverCleanup env j e).wp A
      ⟨fun _ _ => False,
        fun _ t =>
          (fails [env.fate (.recovery .replace)] && env.rollbackStops env.observer) =
              false ∧ t.restores c = j.previous ∨
            (fails [env.fate (.recovery .replace)] && env.rollbackStops env.observer) =
              true ∧ t = s,
        fun t =>
          (fails [env.fate (.recovery .replace)] && env.rollbackStops env.observer) =
              false ∧ Kept j t⟩ s := by
  have hrollback : ∀ (k : Except ThemeError Nat → Transaction δ (AppliedTheme δ))
      (t : Session δ), (∀ r, ∃ e', k r = throw e') →
      Own j t → Kept j t →
      (t = s ∧ fails [env.fate (.recovery .replace)] = true ∨
        t.restores c = j.previous ∧ fails [env.fate (.recovery .replace)] = false) →
      ((rollback env env.observer j).attempt >>= k).wp A
        ⟨fun _ _ => False,
          fun _ t =>
            (fails [env.fate (.recovery .replace)] && env.rollbackStops env.observer) =
                false ∧ t.restores c = j.previous ∨
              (fails [env.fate (.recovery .replace)] && env.rollbackStops env.observer) =
                true ∧ t = s,
          fun t =>
            (fails [env.fate (.recovery .replace)] && env.rollbackStops env.observer) =
                false ∧ Kept j t⟩ t := by
    intro k t hthrows hown hk hcase
    rw [wp_bind, wp_attempt]
    refine wp_mono ?_ ?_ ?_ (wp_rollback c hown)
    · rintro generation t' ⟨hstops, htheme, hjournal⟩
      obtain ⟨e', hthrow⟩ := hthrows (.ok generation)
      dsimp only
      rw [hthrow]
      exact .inl ⟨by simp [hstops], Own.restores c (.inl hjournal) htheme⟩
    · rintro e₀ t' (⟨hstops, htheme, hown'⟩ | ⟨hstops, rfl⟩) <;>
        obtain ⟨e', hthrow⟩ := hthrows (.error e₀) <;> dsimp only <;> rw [hthrow]
      · exact .inl ⟨by simp [hstops], hown'.restores c htheme⟩
      · rcases hcase with ⟨rfl, hf⟩ | ⟨hback, hf⟩
        · exact .inr ⟨by simp [hstops, hf], rfl⟩
        · exact .inl ⟨by simp [hf], hback⟩
    · rintro t' ⟨hstops, hk', -⟩
      exact ⟨by simp [hstops], hk' hk⟩
  have hput : ∀ t : Session δ, t.journal.current = some j → t.restores c = j.previous := by
    intro t ht
    simp [Session.restores, ht]
  unfold recoverCleanup
  rw [wp_bind, wp_attempt]
  apply wp_writeJournal
  · intro hok
    have hf : fails [env.fate (.recovery .replace)] = false := by
      revert hok
      cases env.fate (.recovery .replace) <;> simp [completes, fails]
    dsimp only
    rw [wp_bind, wp_bind]
    apply wp_observe
    · exact fun _ =>
        hrollback _ _ (by rintro (_ | _) <;> exact ⟨_, rfl⟩) (.inr rfl) (Kept.of_settled rfl)
          (.inr ⟨hput _ rfl, hf⟩)
    · exact fun _ => .inl ⟨by simp [hf], hput _ rfl⟩
    · exact fun _ => ⟨by simp [hf], Kept.of_settled rfl⟩
  · exact fun hf e' =>
      hrollback _ _ (by rintro (_ | _) <;> exact ⟨_, rfl⟩) hown hkept (.inl ⟨rfl, hf⟩)
  · intro hf _ e'
    exact hrollback _ _ (by rintro (_ | _) <;> exact ⟨_, rfl⟩) (.inr rfl) hkept.putJournal
      (.inr ⟨hput _ rfl, by simp [fails, hf]⟩)
  · exact fun hf => ⟨by simp [fails, hf], hkept⟩
  · exact fun hf _ => ⟨by simp [fails, hf], hkept.putJournal⟩

/-- The run changes the current theme and then loses the journal and the rollback. -/
def Strands
    (c : Catalogue δ) (env : Environment) (request : ApplyRequest) (s : Session δ) :
    Prop :=
  env.strands = true ∧ Changes c request s

/-- How a transaction may end. -/
def applyPost
    (c : Catalogue δ) (env : Environment) (request : ApplyRequest) (s : Session δ) :
    Post (Session δ) ThemeError (AppliedTheme δ) where
  ok applied t :=
    ¬ Strands c env request s ∧ c.lookup request.themeId = some applied.theme ∧
      t.theme c = applied.theme ∧ t.journal.current = none
  error _ t :=
    (¬ Strands c env request s ∧ t.restores c = s.restores c) ∨
      (Strands c env request s ∧ t.journal.current = none ∧
        t.theme c ≠ s.restores c)
  crashed t :=
    ¬ Strands c env request s ∧
      (t.journalDurable = true →
        ∃ j : ApplyJournal δ, j.previous = s.restores c ∧
          t.journal.All (· = some j))

theorem restores_eq_theme (c : Catalogue δ) (h : s.journal.current = none) :
    s.restores c = s.theme c := by
  simp [Session.restores, h]

/-- After the journal has been written. -/
theorem wp_transact
    (c : Catalogue δ) {request : ApplyRequest} {s₀ : Session δ}
    (hjournal : s.journal = .settled (some j))
    (hprevious : j.previous = s₀.restores c)
    (hcandidate : c.lookup request.themeId = some j.candidate)
    (hprepared : completes env.preparation = true)
    (hchanges : j.candidate ≠ j.previous → Changes c request s₀)
    (hsame : Changes c request s₀ → j.candidate ≠ j.previous) :
    (do
      let outcome ← (continueApply env j.candidate).attempt
      match outcome with
      | .ok generation => do
          let cleaned ← (cleanupJournal env env.observer .remove .sync).attempt
          match cleaned with
          | .ok _ => pure ⟨j.candidate, generation⟩
          | .error e => recoverCleanup env j e
      | .error e => do
          let rolledBack ← (rollback env env.observer j).attempt
          match rolledBack with
          | .ok _ => throw e
          | .error e' => throw (.rollbackFailed e e') :
        Transaction δ (AppliedTheme δ)).wp A (applyPost c env request s₀) s := by
  have hput : ∀ t : Session δ, t.journal = .settled (some j) →
      t.restores c = s₀.restores c := by
    intro t ht
    simp [Session.restores, ht, hprevious]
  have hkeeps : ∀ t : Session δ, Kept j t → t.journalDurable = true →
      ∃ j : ApplyJournal δ, j.previous = s₀.restores c ∧ t.journal.All (· = some j) :=
    fun t hk hd => ⟨j, hprevious, hk hd⟩
  rw [wp_bind, wp_attempt]
  refine wp_mono ?_ ?_ ?_ (wp_continueApply c j.candidate hjournal)
  · rintro generation t ⟨hforward, htheme, ht⟩
    dsimp only
    rw [wp_bind, wp_attempt]
    have hkept : Kept j t := Kept.of_settled ht
    have hlost : ∀ t' : Session δ, t'.theme c = j.candidate →
        t'.journal.current = none → Kept j t' → env.removalFails = true → ∀ e,
        (recoverCleanup env j e).wp A (applyPost c env request s₀) t' := by
      intro t' htheme' hnone hkept' hremoval e
      refine wp_mono ?_ ?_ ?_ (wp_recoverCleanup c e (.inl hnone) hkept')
      · exact fun _ _ h => h.elim
      · rintro _ t'' (⟨hsafe, hback⟩ | ⟨hstranded, rfl⟩)
        · refine .inl ⟨?_, hback.trans hprevious⟩
          rintro ⟨hstrands, -⟩
          simp only [Environment.strands, hprepared, hforward, hremoval, Bool.true_and]
            at hstrands
          rw [hsafe] at hstrands
          cases hstrands
        · by_cases hne : j.candidate = j.previous
          · refine .inl ⟨fun h => hsame h.2 hne, ?_⟩
            rw [restores_eq_theme c hnone, htheme', hne, hprevious]
          · refine .inr ⟨⟨?_, hchanges hne⟩, hnone, ?_⟩
            · simpa [Environment.strands, hprepared, hforward, hremoval] using hstranded
            · rw [htheme', ← hprevious]
              exact hne
      · rintro t'' ⟨hsafe, hk⟩
        refine ⟨?_, hkeeps t'' hk⟩
        rintro ⟨hstrands, -⟩
        simp only [Environment.strands, hprepared, hforward, hremoval, Bool.true_and]
          at hstrands
        rw [hsafe] at hstrands
        cases hstrands
    have hsafe : env.removalFails = false → ¬ Strands c env request s₀ := by
      rintro hremoval ⟨hstrands, -⟩
      simp [Environment.strands, hremoval] at hstrands
    apply wp_cleanupJournal
    · intro hcompletes
      refine ⟨hsafe ?_, hcandidate, htheme, rfl⟩
      revert hcompletes
      simp only [Environment.removalFails]
      cases env.observer .journalRemoveStarted <;> cases env.fate .remove <;>
        cases env.observer .journalRemoved <;> cases env.fate .sync <;>
        cases env.observer .journalDirectorySynced <;> simp [completes, fails]
    · intro hf e
      have hremoval : env.removalFails = false := by
        revert hf
        simp only [Environment.removalFails]
        cases env.observer .journalRemoveStarted <;> cases env.fate .remove <;>
          simp [completes, fails]
      refine wp_mono ?_ ?_ ?_ (wp_recoverCleanup c e (.inr (by simp [ht])) hkept)
      · exact fun _ _ h => h.elim
      · rintro _ t' (⟨-, hback⟩ | ⟨-, rfl⟩)
        · exact .inl ⟨hsafe hremoval, hback.trans hprevious⟩
        · exact .inl ⟨hsafe hremoval, hput _ ht⟩
      · rintro t' ⟨-, hk⟩
        exact ⟨hsafe hremoval, hkeeps t' hk⟩
    · intro hgone hf e
      have hremoval : env.removalFails = true := by
        simp [Environment.removalFails, hgone, hf]
      exact ⟨hlost t.dropJournal htheme rfl (Kept.dropJournal j _) hremoval e,
        hlost t.dropJournal.sync htheme rfl (Kept.dropJournal j _).sync hremoval e⟩
    · intro hf
      refine ⟨hsafe ?_, hkeeps t hkept⟩
      simp [Environment.removalFails, hf]
    · intro hf
      have hremoval : env.removalFails = false := by
        simp [Environment.removalFails, hf]
      exact ⟨⟨hsafe hremoval, hkeeps _ (Kept.dropJournal j _)⟩,
        ⟨hsafe hremoval, hkeeps _ (Kept.dropJournal j _).sync⟩⟩
  · rintro e t ⟨hforward, ht⟩
    have hsafe : ¬ Strands c env request s₀ := by
      rintro ⟨hstrands, -⟩
      simp [Environment.strands, hforward] at hstrands
    dsimp only
    rw [wp_bind, wp_attempt]
    refine wp_mono ?_ ?_ ?_ (wp_rollback c (.inr (by simp [ht])))
    · rintro _ t' ⟨-, htheme, hnone⟩
      exact .inl ⟨hsafe, ((restores_eq_theme c hnone).trans htheme).trans hprevious⟩
    · rintro _ t' (⟨-, htheme, hown⟩ | ⟨-, rfl⟩)
      · exact .inl ⟨hsafe, (hown.restores c htheme).trans hprevious⟩
      · exact .inl ⟨hsafe, hput _ ht⟩
    · rintro t' ⟨-, hk, -⟩
      exact ⟨hsafe, hkeeps t' (hk (Kept.of_settled ht))⟩
  · rintro t ⟨hforward, ht⟩
    refine ⟨?_, hkeeps t (Kept.of_settled ht)⟩
    rintro ⟨hstrands, -⟩
    simp [Environment.strands, hforward] at hstrands

/-- A journal that counts as durable is one, and the only one. -/
def Coherent (s : Session δ) : Prop :=
  s.journalDurable = true → ∃ j : ApplyJournal δ, s.journal.All (· = some j)

/-- How the preparation may end. -/
def preparePost
    (c : Catalogue δ) (env : Environment) (request : ApplyRequest) (s : Session δ) :
    Post (Session δ) ThemeError (ApplyJournal δ) where
  ok j t :=
    t.journal = .settled (some j) ∧ j.previous = s.restores c ∧
      c.lookup request.themeId = some j.candidate ∧
      completes env.preparation = true ∧
      (Changes c request s ↔ j.candidate ≠ j.previous)
  error := (applyPost c env request s).error
  crashed := (applyPost c env request s).crashed

/-- A durable journal of a coherent session names the theme that recovery restores. -/
theorem Coherent.names_restored
    (h : Coherent s) (c : Catalogue δ) (hd : s.journalDurable = true) :
    ∃ j : ApplyJournal δ, j.previous = s.restores c ∧ s.journal.All (· = some j) := by
  obtain ⟨j, hj⟩ := h hd
  refine ⟨j, ?_, hj⟩
  simp [Session.restores, hj.current]

theorem not_strands_of_preparation
    {c : Catalogue δ} {request : ApplyRequest} {f : Fault}
    (hmem : f ∈ env.preparation) (hne : f ≠ .proceed) :
    ¬ Strands c env request s := by
  rintro ⟨hstrands, -⟩
  simp [Environment.strands, completes_eq_false hmem hne] at hstrands

/-- A step of the preparation that does not take effect ends it. -/
theorem wp_preparation_step
    {c : Catalogue δ} {request : ApplyRequest} {f : Fault} {p : Point}
    {rest : Unit → Transaction δ (ApplyJournal δ)}
    (hcoherent : Coherent s)
    (hmem : f ∈ env.preparation)
    (hok : f = .proceed → (rest ()).wp A (preparePost c env request s) s) :
    ((step f p : Transaction δ Unit) >>= rest).wp A (preparePost c env request s) s := by
  rw [wp_bind]
  apply wp_step hok
  · exact fun hf => .inl ⟨not_strands_of_preparation hmem (ne_of_fails hf), rfl⟩
  · exact fun hf =>
      ⟨not_strands_of_preparation hmem (ne_of_crash hf), hcoherent.names_restored c⟩

/-- How the preparation ends, by the fate of each of its steps. -/
theorem wp_prepare
    (c : Catalogue δ) (request : ApplyRequest)
    (hcoherent : Coherent s) :
    (prepare c env request).wp A (preparePost c env request s) s := by
  unfold prepare
  refine wp_preparation_step hcoherent (by simp [Environment.preparation]) fun h₁ => ?_
  split_ifs with huuid
  · exact .inl ⟨fun h => by simp [h.2.1] at huuid, rfl⟩
  refine wp_preparation_step hcoherent (by simp [Environment.preparation]) fun h₂ => ?_
  rw [wp_bind, wp_get]
  dsimp only
  split_ifs with hpending hstale
  · refine .inl ⟨fun h => ?_, rfl⟩
    simp [h.2.2.1] at hpending
  · exact .inl ⟨fun h => hstale h.2.2.2.1, rfl⟩
  have hnone : s.journal.current = none := by simpa using hpending
  refine wp_preparation_step hcoherent (by simp [Environment.preparation]) fun h₃ => ?_
  cases hlookup : c.lookup request.themeId with
  | none =>
      refine .inl ⟨?_, rfl⟩
      rintro ⟨-, -, -, -, candidate, hsome, -⟩
      rw [hlookup] at hsome
      cases hsome
  | some candidate =>
      refine wp_preparation_step hcoherent (by simp [Environment.preparation]) fun h₄ => ?_
      rw [wp_bind]
      apply wp_writeJournal
      · intro h₅
        refine ⟨rfl, (restores_eq_theme c hnone).symm, hlookup, ?_, ?_⟩
        · simpa [Environment.preparation, completes, h₁, h₂, h₃, h₄] using h₅
        · constructor
          · rintro ⟨-, -, -, candidate', hsome, hne⟩
            cases hlookup.symm.trans hsome
            exact hne
          · exact fun hne =>
              ⟨by simpa using huuid, hnone, by simpa using hstale, candidate, hlookup, hne⟩
      · exact fun hf _ =>
          .inl ⟨not_strands_of_preparation (by simp [Environment.preparation])
            (ne_of_fails hf), rfl⟩
      · exact fun _ hf _ =>
          .inl ⟨not_strands_of_preparation (by simp [Environment.preparation])
            (ne_of_fails hf), (restores_eq_theme c hnone).symm⟩
      · exact fun hf =>
          ⟨not_strands_of_preparation (by simp [Environment.preparation])
            (ne_of_crash hf), hcoherent.names_restored c⟩
      · intro _ hf
        refine ⟨not_strands_of_preparation (by simp [Environment.preparation])
          (ne_of_crash hf), fun hd => ?_⟩
        -- nothing was durable while there was no journal
        obtain ⟨j, -, hj⟩ := hcoherent.names_restored c hd
        rw [hj.current] at hnone
        cases hnone

/-- The transaction is its preparation and what follows it. -/
theorem wp_applyTransaction
    (c : Catalogue δ) (request : ApplyRequest)
    (hcoherent : Coherent s) :
    (applyTransaction c env request).wp A (applyPost c env request s) s := by
  unfold applyTransaction
  rw [wp_bind]
  refine wp_mono ?_ ?_ ?_ (wp_prepare c request hcoherent)
  · rintro j t ⟨hjournal, hprevious, hcandidate, hprepared, hchanges⟩
    exact wp_transact c hjournal hprevious hcandidate hprepared hchanges.mpr hchanges.mp
  · exact fun _ _ h => h
  · exact fun _ h => h

end Apply

section Reconcile

variable {A : Unit → Prop} {s : Session δ} {env : Environment}

/-- Without a journal a reconciliation changes nothing; with one it rolls back. -/
theorem wp_reconcile (c : Catalogue δ) :
    (reconcile c env).wp A
      ⟨fun _ t => t.restores c = s.restores c ∧ t.journal.current = none ∧
          (s.journal.current = none → t = s),
        fun _ t => t.restores c = s.restores c ∧ (s.journal.current = none → t = s),
        fun t => t.restores c = s.restores c ∧ (s.journal.current = none → t = s)⟩ s := by
  unfold reconcile
  rw [wp_bind]
  apply wp_step
  · intro _
    dsimp only
    rw [wp_bind]
    apply wp_step
    · intro _
      dsimp only
      rw [wp_bind, wp_get]
      dsimp only
      cases hcurrent : s.journal.current with
      | none => exact ⟨rfl, hcurrent, fun _ => rfl⟩
      | some j =>
          have hprevious : s.restores c = j.previous := by
            simp [Session.restores, hcurrent]
          dsimp only
          split_ifs
          · exact ⟨rfl, nofun⟩
          · exact ⟨rfl, nofun⟩
          · rw [wp_bind]
            refine wp_mono ?_ ?_ ?_ (wp_rollback c (.inr hcurrent))
            · rintro _ t ⟨-, htheme, hnone⟩
              refine ⟨?_, hnone, nofun⟩
              rw [restores_eq_theme c hnone, htheme, hprevious]
            · rintro _ t (⟨-, htheme, hown⟩ | ⟨-, rfl⟩)
              · exact ⟨(hown.restores c htheme).trans hprevious.symm, nofun⟩
              · exact ⟨rfl, nofun⟩
            · rintro t ⟨-, -, ⟨htheme, hown⟩ | rfl⟩
              · exact ⟨(hown.restores c htheme).trans hprevious.symm, nofun⟩
              · exact ⟨rfl, nofun⟩
    · exact fun _ => ⟨rfl, fun _ => rfl⟩
    · exact fun _ => ⟨rfl, fun _ => rfl⟩
  · exact fun _ => ⟨rfl, fun _ => rfl⟩
  · exact fun _ => ⟨rfl, fun _ => rfl⟩

/-- What one reconciliation leaves, however it ends. -/
theorem reconcile_run (c : Catalogue δ) (env : Environment) (s : Session δ) :
    ((reconcile c env).run [] s).2.restores c = s.restores c ∧
      (s.journal.current = none → ((reconcile c env).run [] s).2 = s) := by
  have h := wp_sound (A := fun _ => True) trivial (reconcile c env) _ [] s
    (fun _ _ => trivial) (wp_reconcile c)
  revert h
  rcases (reconcile c env).run [] s with ⟨_ | _ | _, t⟩
  · exact fun h => ⟨h.1, h.2.2⟩
  · exact fun h => h
  · exact fun h => h

/-- Reconciling again and again does not change which theme is restored. -/
theorem Reconciling.restores
    {c : Catalogue δ} {s t : Session δ} (h : Reconciling c s t) :
    t.restores c = s.restores c := by
  induction h with
  | start => rfl
  | run _ env ih => exact (reconcile_run c env _).1.trans ih

theorem Reconciling.eq_of_none
    {c : Catalogue δ} {s t : Session δ} (h : Reconciling c s t)
    (hnone : s.journal.current = none) :
    t = s := by
  induction h with
  | start => rfl
  | run _ env ih =>
      rw [(reconcile_run c env _).2 (by rw [ih]; exact hnone), ih]

/-- A session that restores the previous theme recovers to it. -/
theorem recovers_of_restores
    {c : Catalogue δ} {previous : δ} {s : Session δ}
    (h : s.restores c = previous) :
    Recovers c previous s := by
  intro t ht
  have hback : t.restores c = previous := ht.restores.trans h
  constructor
  · cases hj : t.journal.current with
    | none => exact .inl (by rw [← restores_eq_theme c hj, hback])
    | some j => exact .inr ⟨j, rfl, by simpa [Session.restores, hj] using hback⟩
  · intro env outcome t' hrun
    have hpost := holds_of_run hrun (wp_reconcile c)
    obtain ⟨hkeeps, hnone, -⟩ := hpost
    exact ⟨by rw [← restores_eq_theme c hnone, hkeeps, hback], hnone⟩

/-- A candidate that is shown without a journal is committed. -/
theorem committed_of_none
    {c : Catalogue δ} {candidate : δ} {s : Session δ}
    (htheme : s.theme c = candidate) (hnone : s.journal.current = none) :
    Committed c candidate s := by
  intro t ht
  rw [ht.eq_of_none hnone]
  exact ⟨htheme, hnone⟩

end Reconcile

section Main

/-- A transaction is atomic unless cleanup, recovery and rollback fail in turn. -/
theorem applyTransaction_atomic_iff
    (c : Catalogue δ) (env : Environment) (request : ApplyRequest) (s : Session δ)
    (hcoherent : Coherent s) :
    TransactionAtomic c env request s ↔ ¬ Strands c env request s := by
  have hpost := wp_sound (A := fun _ => True) trivial (applyTransaction c env request) _ []
    s (fun _ _ => trivial) (wp_applyTransaction c request hcoherent)
  unfold TransactionAtomic
  revert hpost
  rcases (applyTransaction c env request).run [] s with ⟨applied | e | _, t⟩
  · rintro ⟨hsafe, hlookup, htheme, hnone⟩
    exact ⟨fun _ => hsafe, fun _ => ⟨hlookup, committed_of_none htheme hnone⟩⟩
  · rintro (⟨hsafe, hback⟩ | ⟨hstrands, hnone, hlost⟩)
    · exact ⟨fun _ => hsafe, fun _ => recovers_of_restores hback⟩
    · refine ⟨fun h => ?_, fun h => absurd hstrands h⟩
      rcases (h t .start).1 with htheme | ⟨j, hj, -⟩
      · exact absurd htheme hlost
      · rw [hnone] at hj
        cases hj
  · rintro ⟨hsafe, hkept⟩
    refine ⟨fun _ => hsafe, fun _ hd t' ht' => ?_⟩
    obtain ⟨j, hprevious, hj⟩ := hkept hd
    refine recovers_of_restores ?_
    cases ht' with
    | stopped => simp [Session.restores, hj.current, hprevious]
    | powerLoss hx hy => simp [Session.restores, hj _ hy, hprevious]

/-- The stages at which the run of the example is made to fail. -/
def strandingFate : Point → Fault
  | .sync => .fail
  | .recovery .replace => .fail
  | .rollback .acknowledge => .fail
  | _ => .proceed

/-- Two themes: the built-in one and one stored document. -/
def twoThemes : Catalogue Nat where
  fallback := 0
  lookup id := if id = "1" then some 1 else none
  valid _ := true
  isUuid id := id = nilUuid

/-- A store in which nothing was ever applied. -/
def freshSession : Session Nat := ⟨.settled none, .settled none, 1, false⟩

def applyOne : ApplyRequest := ⟨"1", nilUuid, 1⟩

/-- An error may leave the candidate in place with no journal to take it back. -/
theorem applyTransaction_not_atomic :
    ¬ TransactionAtomic twoThemes ⟨strandingFate, noopObserver⟩ applyOne freshSession := by
  have hfailed : ∃ e,
      ((applyTransaction twoThemes ⟨strandingFate, noopObserver⟩ applyOne).run []
        freshSession).1 = .error e :=
    ⟨_, rfl⟩
  have hlost :
      ((applyTransaction twoThemes ⟨strandingFate, noopObserver⟩ applyOne).run []
        freshSession).2.theme twoThemes = 1 ∧
      ((applyTransaction twoThemes ⟨strandingFate, noopObserver⟩ applyOne).run []
        freshSession).2.journal.current = none := by
    decide
  unfold TransactionAtomic
  generalize (applyTransaction twoThemes ⟨strandingFate, noopObserver⟩ applyOne).run []
    freshSession = r at hfailed hlost ⊢
  obtain ⟨outcome, t⟩ := r
  obtain ⟨e, rfl⟩ := hfailed
  intro h
  rcases (h t .start).1 with htheme | ⟨j, hj, -⟩
  · rw [hlost.1] at htheme
    cases htheme
  · rw [hlost.2] at hj
    cases hj

/-- With only the failed sync the transaction is undone, and stays undone. -/
theorem applyTransaction_atomic_cleanup :
    TransactionAtomic twoThemes
      ⟨fun p => if p = .sync then .fail else .proceed, noopObserver⟩ applyOne
      freshSession :=
  (applyTransaction_atomic_iff twoThemes
    ⟨fun p => if p = .sync then .fail else .proceed, noopObserver⟩ applyOne freshSession
    (fun h => by cases h)).mpr fun h => absurd h.1 (by decide)

end Main

end Themes
end SleepySession
