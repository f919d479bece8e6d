import SleepySession.Themes.Atomicity
import SleepySession.Themes.Manager

/-!
# The current theme can always be found

The current document and the previous document of a pending journal are either
built in or stored under their own identifier.  The programs of the state
directory only ever put such documents in place, the documents directory only
grows, and a deletion is the one operation that has to spare both.
-/

set_option linter.unusedSectionVars false

namespace SleepySession
namespace Themes

open Program

section StateDirectory

variable {δ : Type} (F : δ → Prop)

/-- Everything that may become the current theme satisfies `F`. -/
def Holds (s : Session δ) : Prop :=
  (∀ d, s.current.current = some d → F d) ∧
    ∀ j, s.journal.current = some j → F j.previous

variable {F}

namespace Holds

variable {s : Session δ}

theorem sync (h : Holds F s) : Holds F s.sync := h

theorem markDurable (h : Holds F s) : Holds F s.markDurable := h

theorem bumpGeneration (h : Holds F s) : Holds F s.bumpGeneration := h

theorem dropJournal (h : Holds F s) : Holds F s.dropJournal :=
  ⟨h.1, nofun⟩

theorem putCurrent {d : δ} (hd : F d) (h : Holds F s) : Holds F (s.putCurrent d) := by
  refine ⟨?_, h.2⟩
  rintro d' hd'
  cases hd'
  exact hd

theorem putJournal {j : ApplyJournal δ} (hj : F j.previous) (h : Holds F s) :
    Holds F (s.putJournal j) := by
  refine ⟨h.1, ?_⟩
  rintro j' hj'
  cases hj'
  exact hj

theorem theme {c : Catalogue δ} (hc : F c.fallback) (h : Holds F s) : F (s.theme c) := by
  unfold Session.theme
  cases hd : s.current.current with
  | none => exact hc
  | some d => exact h.1 d hd

theorem restores {c : Catalogue δ} (hc : F c.fallback) (h : Holds F s) :
    F (s.restores c) := by
  unfold Session.restores
  cases hj : s.journal.current with
  | none => exact h.theme hc
  | some j => exact h.2 j hj

end Holds

theorem maintains_step {σ : Type} {I : σ → Prop} (f : Fault) (point : Point) :
    Maintains I (fun _ => True) (step f point : Program Unit σ ThemeError Unit) :=
  fun _ hs => wp_step (fun _ => ⟨trivial, hs⟩) (fun _ => hs) (fun _ => hs)

theorem maintains_observe (observer : ThemeApplyStage → Fault) (stage : ThemeApplyStage) :
    Maintains (Holds F) (fun _ => True) (observe observer stage) :=
  maintains_step _ _

theorem maintains_publish (f : Fault) (point : Point) :
    Maintains (Holds F) (fun _ => True) (publish f point) :=
  fun _ hs => wp_publish (fun _ => ⟨trivial, hs⟩) (fun _ => ⟨hs, hs⟩) (fun _ => hs)

theorem maintains_sync :
    Maintains (Holds F) (fun _ => True) (modify Session.sync : Transaction δ Unit) :=
  fun _ hs => ⟨trivial, hs.sync⟩

theorem maintains_dropJournal :
    Maintains (Holds F) (fun _ => True) (modify Session.dropJournal : Transaction δ Unit) :=
  fun _ hs => ⟨trivial, hs.dropJournal⟩

theorem maintains_markDurable :
    Maintains (Holds F) (fun _ => True) (modify Session.markDurable : Transaction δ Unit) :=
  fun _ hs => ⟨trivial, hs.markDurable⟩

theorem maintains_atomicStateWrite
    (env : Environment) (point : WritePart → Point) {put : Session δ → Session δ}
    (h : ∀ s, Holds F s → Holds F (put s)) :
    Maintains (Holds F) (fun _ => True) (atomicStateWrite env point put) :=
  (maintains_step _ _).bind fun _ _ => (Maintains.modify h).bind fun _ _ =>
    (maintains_step _ _).bind fun _ _ => maintains_sync

theorem maintains_writeJournal
    (env : Environment) (point : WritePart → Point) {j : ApplyJournal δ}
    (hj : F j.previous) :
    Maintains (Holds F) (fun _ => True) (writeJournal env point j) :=
  (maintains_atomicStateWrite env point fun _ => Holds.putJournal hj).bind fun _ _ =>
    maintains_markDurable

theorem maintains_cleanupJournal
    (env : Environment) (observer : ThemeApplyStage → Fault)
    (removal directorySync : Point) :
    Maintains (Holds F) (fun _ => True)
      (cleanupJournal env observer removal directorySync) :=
  (maintains_observe _ _).bind fun _ _ => (maintains_step _ _).bind fun _ _ =>
    maintains_dropJournal.bind fun _ _ =>
    (maintains_observe _ _).bind fun _ _ => (maintains_step _ _).bind fun _ _ =>
    maintains_sync.bind fun _ _ => maintains_observe _ _

theorem maintains_rollback
    (env : Environment) (observer : ThemeApplyStage → Fault) {j : ApplyJournal δ}
    (hj : F j.previous) :
    Maintains (Holds F) (fun _ => True) (rollback env observer j) := by
  refine (maintains_step _ _).bind fun _ _ => (maintains_observe _ _).bind fun _ _ =>
    (maintains_step _ _).bind fun _ _ =>
    (maintains_atomicStateWrite _ _ fun _ => Holds.putCurrent hj).bind fun _ _ =>
    (maintains_observe _ _).bind fun _ _ => (maintains_publish _ _).bind fun _ _ =>
    (maintains_cleanupJournal _ _ _ _).attempt.bind fun cleaned _ => ?_
  cases cleaned with
  | ok _ => exact Maintains.pure trivial
  | error e =>
      exact (maintains_writeJournal _ _ hj).bind fun _ _ => Maintains.throw _

theorem maintains_continueApply (env : Environment) {candidate : δ} (h : F candidate) :
    Maintains (Holds F) (fun _ => True) (continueApply env candidate) :=
  (maintains_observe _ _).bind fun _ _ => (maintains_step _ _).bind fun _ _ =>
    (maintains_observe _ _).bind fun _ _ => (maintains_step _ _).bind fun _ _ =>
    (maintains_publish _ _).bind fun _ _ => (maintains_observe _ _).bind fun _ _ =>
    (maintains_atomicStateWrite _ _ fun _ => Holds.putCurrent h).bind fun _ _ =>
    (maintains_observe _ _).bind fun _ _ => Maintains.pure trivial

/-- The journal of a transaction names two findable themes. -/
theorem maintains_prepare
    {c : Catalogue δ} (env : Environment) (request : ApplyRequest)
    (hfallback : F c.fallback) (hlookup : ∀ id d, c.lookup id = some d → F d) :
    Maintains (Holds F) (fun j : ApplyJournal δ => F j.previous ∧ F j.candidate)
      (prepare c env request) := by
  refine (maintains_step _ _).bind fun _ _ => ?_
  split_ifs
  · exact Maintains.throw _
  · refine (maintains_step _ _).bind fun _ _ => Maintains.get.bind fun s hs => ?_
    split_ifs
    · exact Maintains.throw _
    · exact Maintains.throw _
    · refine (maintains_step _ _).bind fun _ _ => ?_
      cases hd : c.lookup request.themeId with
      | none => exact Maintains.throw _
      | some candidate =>
          exact (maintains_step _ _).bind fun _ _ =>
            (maintains_writeJournal _ _ (hs.theme hfallback)).bind fun _ _ =>
            Maintains.pure ⟨hs.theme hfallback, hlookup _ _ hd⟩

theorem maintains_recoverCleanup
    (env : Environment) {j : ApplyJournal δ} (e : ThemeError) (hj : F j.previous) :
    Maintains (Holds F) (fun _ => True) (recoverCleanup env j e) := by
  refine (maintains_writeJournal _ _ hj).attempt.bind fun written _ =>
    Maintains.bind (R := fun _ => True) ?_ fun recovery _ =>
    (maintains_rollback _ _ hj).attempt.bind fun rolledBack _ => ?_
  · cases written with
    | ok _ => exact (maintains_observe _ _).bind fun _ _ => Maintains.pure trivial
    | error e' => exact Maintains.pure trivial
  · cases rolledBack with
    | error e' => exact Maintains.throw _
    | ok _ =>
        cases recovery with
        | none => exact Maintains.throw _
        | some e' => exact Maintains.throw _

theorem maintains_applyTransaction
    {c : Catalogue δ} (env : Environment) (request : ApplyRequest)
    (hfallback : F c.fallback) (hlookup : ∀ id d, c.lookup id = some d → F d) :
    Maintains (Holds F) (fun _ => True) (applyTransaction c env request) := by
  refine (maintains_prepare env request hfallback hlookup).bind fun j hj =>
    (maintains_continueApply env hj.2).attempt.bind fun outcome _ => ?_
  cases outcome with
  | ok generation =>
      refine (maintains_cleanupJournal _ _ _ _).attempt.bind fun cleaned _ => ?_
      cases cleaned with
      | ok _ => exact Maintains.pure trivial
      | error e => exact maintains_recoverCleanup env e hj.1
  | error e =>
      refine (maintains_rollback _ _ hj.1).attempt.bind fun rolledBack _ => ?_
      cases rolledBack with
      | ok _ => exact Maintains.throw _
      | error e' => exact Maintains.throw _

theorem maintains_reconcile (c : Catalogue δ) (env : Environment) :
    Maintains (Holds F) (fun _ => True) (reconcile c env) := by
  refine (maintains_step _ _).bind fun _ _ => (maintains_step _ _).bind fun _ _ =>
    Maintains.get.bind fun s hs => ?_
  cases hj : s.journal.current with
  | none => exact Maintains.pure trivial
  | some j =>
      dsimp only
      split_ifs
      · exact Maintains.throw _
      · exact Maintains.throw _
      · exact (maintains_rollback _ _ (hs.2 j hj)).bind fun _ _ => Maintains.pure trivial

end StateDirectory

section Manager

variable {υ β : Type} [DecidableEq υ] (p : Platform υ β)

/-- The theme is built in, or there is a document under its identifier. -/
def Findable (documents : υ → Option (ThemeDocument β)) (d : ThemeDocument β) : Prop :=
  (builtin p d.id).isSome = true ∨
    ∃ u, p.parseStr d.id = some u ∧ (documents u).isSome = true

/-- Documents are stored under their own identifier. -/
def Named (documents : υ → Option (ThemeDocument β)) : Prop :=
  ∀ u d, documents u = some d → p.parseStr d.id = some u

/-- What every operation maintains. -/
structure Consistent (m : ThemeManager υ β) : Prop where
  named : Named p m.documents
  holds : Holds (Findable p m.documents) m.session

variable {p} {m : ThemeManager υ β}

theorem findable_defaultTheme (documents : υ → Option (ThemeDocument β)) :
    Findable p documents (defaultTheme p) := by
  left
  simp [defaultTheme, builtinNamed, builtin]

theorem Findable.theme_isSome {d : ThemeDocument β} (h : Findable p m.documents d) :
    (m.theme p d.id).isSome = true := by
  unfold ThemeManager.theme
  cases hb : builtin p d.id with
  | some d' => rfl
  | none =>
      rcases h with h | ⟨u, hu, hdoc⟩
      · rw [hb] at h
        cases h
      · simpa [hu] using hdoc

theorem builtin_id {id : String} {d : ThemeDocument β} (h : builtin p id = some d) :
    d.id = id := by
  unfold builtin at h
  split_ifs at h <;> cases h <;> rfl

/-- Whatever `theme` returns can be found again. -/
theorem Named.findable_theme
    (h : Named p m.documents) {id : String} {d : ThemeDocument β}
    (hd : m.theme p id = some d) :
    Findable p m.documents d := by
  unfold ThemeManager.theme at hd
  cases hb : builtin p id with
  | some d' =>
      rw [hb] at hd
      cases hd
      left
      rw [builtin_id hb, hb]
      rfl
  | none =>
      rw [hb] at hd
      obtain ⟨u, -, hdoc⟩ := Option.bind_eq_some_iff.mp hd
      exact .inr ⟨u, h u d hdoc, by simp [hdoc]⟩

/-- Storing a document makes nothing disappear. -/
theorem Findable.putDocument
    {d d' : ThemeDocument β} (u : υ) (h : Findable p m.documents d) :
    Findable p (m.putDocument u (some d')).documents d := by
  refine h.imp_right ?_
  rintro ⟨v, hv, hdoc⟩
  refine ⟨v, hv, ?_⟩
  by_cases hvu : v = u
  · simp [ThemeManager.putDocument, hvu]
  · simpa [ThemeManager.putDocument, Function.update_of_ne hvu] using hdoc

theorem Holds.mono
    {δ : Type} {F G : δ → Prop} {s : Session δ} (h : Holds F s) (hFG : ∀ d, F d → G d) :
    Holds G s :=
  ⟨fun d hd => hFG d (h.1 d hd), fun j hj => hFG _ (h.2 j hj)⟩

theorem Consistent.putDocument
    (h : Consistent p m) {u : υ} {d : ThemeDocument β} (hd : p.parseStr d.id = some u) :
    Consistent p (m.putDocument u (some d)) where
  named := by
    intro v d' hv
    by_cases hvu : v = u
    · subst hvu
      simp only [ThemeManager.putDocument, Function.update_self] at hv
      cases hv
      exact hd
    · simp only [ThemeManager.putDocument, Function.update_of_ne hvu] at hv
      exact h.named v d' hv
  holds := h.holds.mono fun _ => Findable.putDocument u

theorem Consistent.current (h : Consistent p m) :
    Findable p m.documents (m.current p) :=
  h.holds.theme (findable_defaultTheme _)

theorem Consistent.reconciled (h : Consistent p m) :
    Findable p m.documents (m.reconciled p) :=
  h.holds.restores (findable_defaultTheme _)

theorem Consistent.currentResolves (h : Consistent p m) : CurrentResolves p m :=
  ⟨h.current.theme_isSome, h.reconciled.theme_isSome⟩

theorem consistent_fresh (generation : Nat) :
    Consistent p (ThemeManager.fresh generation : ThemeManager υ β) :=
  ⟨nofun, nofun, nofun⟩

/-- The documents stay the same and the state directory stays consistent. -/
def Stays (p : Platform υ β) (documents : υ → Option (ThemeDocument β))
    (m : ThemeManager υ β) : Prop :=
  m.documents = documents ∧ Consistent p m

theorem maintains_onSession
    {α : Type} {R : α → Prop} {documents : υ → Option (ThemeDocument β)}
    {action : Transaction (ThemeDocument β) α}
    (h : Maintains (Holds (Findable p documents)) R action) :
    Maintains (Stays p documents) R (onSession action : Action υ β α) := by
  refine Maintains.zoom (fun _ _ => rfl) (fun _ => rfl) (fun _ _ _ => rfl) ?_
  rintro t ⟨rfl, ht⟩
  exact ⟨_, ht.holds, fun s hs => ⟨rfl, ht.named, hs⟩, h⟩

theorem maintains_readTheme (env : Environment) (id : String)
    (documents : υ → Option (ThemeDocument β)) :
    Maintains (Stays p documents) (Findable p documents) (readTheme p env id) := by
  refine (maintains_step _ _).bind fun _ _ => Maintains.get.bind fun m hm => ?_
  cases hd : m.theme p id with
  | none => exact Maintains.throw _
  | some d =>
      refine Maintains.pure ?_
      rw [← hm.1]
      exact hm.2.named.findable_theme hd

theorem maintains_requireNoJournal {I : ThemeManager υ β → Prop} (env : Environment) :
    Maintains I (fun _ => True) (requireNoJournal env : Action υ β Unit) := by
  refine (maintains_step _ _).bind fun _ _ => Maintains.get.bind fun m _ => ?_
  split_ifs
  · exact Maintains.throw _
  · exact Maintains.pure trivial

theorem maintains_writeCurrent
    {documents : υ → Option (ThemeDocument β)} (env : Environment)
    {d : ThemeDocument β} (hd : Findable p documents d) :
    Maintains (Stays p documents) (fun _ => True)
      (writeCurrent env d : Action υ β Unit) :=
  maintains_onSession (maintains_atomicStateWrite _ _ fun _ => Holds.putCurrent hd)

theorem maintains_activateForDesktop (env : Environment) (id : String)
    (documents : υ → Option (ThemeDocument β)) :
    Maintains (Stays p documents) (fun _ => True) (activateForDesktop p env id) :=
  (maintains_step _ _).bind fun _ _ => (maintains_requireNoJournal _).bind fun _ _ =>
    (maintains_readTheme _ _ _).bind fun _ hd =>
    (maintains_writeCurrent _ hd).bind fun _ _ => Maintains.pure trivial

theorem maintains_apply (env : Environment) (request : ApplyRequest)
    (documents : υ → Option (ThemeDocument β)) :
    Maintains (Stays p documents) (fun _ => True) (apply p env request) := by
  refine Maintains.get.bind fun m hm => maintains_onSession ?_
  refine maintains_applyTransaction _ _ (findable_defaultTheme _) ?_
  intro id d hd
  rw [← hm.1]
  exact hm.2.named.findable_theme hd

theorem maintains_reconcileThemes (env : Environment)
    (documents : υ → Option (ThemeDocument β)) :
    Maintains (Stays p documents) (fun _ => True) (reconcileThemes p env) :=
  Maintains.get.bind fun _ _ => maintains_onSession (maintains_reconcile _ _)

/-- A program that leaves the documents alone keeps the store consistent. -/
theorem consistent_of_stays
    {α : Type} {R : α → Prop} {action : Action υ β α} (hm : Consistent p m)
    (h : Maintains (Stays p m.documents) R action) :
    Consistent p (action.run [] m).2 :=
  (Program.Maintains.run h ⟨rfl, hm⟩ []).2

section Documents

/-- What keeps any documents keeps the store consistent. -/
theorem maintains_of_stays
    {α : Type} {R : (υ → Option (ThemeDocument β)) → α → Prop} {action : Action υ β α}
    (h : ∀ documents, Maintains (Stays p documents) (R documents) action) :
    Maintains (Consistent p) (fun _ => True) action := by
  intro m hm
  refine wp_mono ?_ ?_ ?_ (h m.documents m ⟨rfl, hm⟩)
  · exact fun _ _ h => ⟨trivial, h.2.2⟩
  · exact fun _ _ h => h.2
  · exact fun _ h => h.2

theorem maintains_checkDocument
    {I : ThemeManager υ β → Prop} (d : ThemeDocument β) :
    Maintains I (fun _ => True) (checkDocument p d : Action υ β Unit) := by
  unfold checkDocument
  split_ifs
  · exact Maintains.pure trivial
  · exact Maintains.throw _

theorem maintains_readCurrent {I : ThemeManager υ β → Prop} (env : Environment) :
    Maintains I (fun _ => True) (readCurrent p env : Action υ β (ThemeDocument β)) :=
  (maintains_step _ _).bind fun _ _ => Maintains.get.bind fun _ _ => Maintains.pure trivial

/-- A stored document can be found afterwards. -/
theorem wp_writeUser
    (env : Environment) (d : ThemeDocument β) (hm : Consistent p m) :
    (writeUser p env d).wp (fun _ => True)
      ⟨fun _ t => Consistent p t ∧ Findable p t.documents d,
        fun _ t => Consistent p t, fun t => Consistent p t⟩ m := by
  unfold writeUser themeFileName
  cases hu : p.parseStr d.id with
  | none => exact hm
  | some u =>
      have hput : Consistent p (m.putDocument u (some d)) := hm.putDocument hu
      show Program.wp _ (step _ _ >>= _) _ m
      rw [wp_bind]
      apply wp_step
      · intro _
        show Program.wp _ (step _ _) _ (m.putDocument u (some d))
        apply wp_step
        · intro _
          refine ⟨hput, .inr ⟨u, hu, ?_⟩⟩
          simp [ThemeManager.putDocument]
        · exact fun _ => hput
        · exact fun _ => hput
      · exact fun _ => hm
      · exact fun _ => hm

theorem maintains_writeUser (env : Environment) (d : ThemeDocument β) :
    Maintains (Consistent p) (fun _ => True) (writeUser p env d) := by
  intro m hm
  refine wp_mono ?_ ?_ ?_ (wp_writeUser env d hm)
  · exact fun _ _ h => ⟨trivial, h.1⟩
  · exact fun _ _ h => h
  · exact fun _ h => h

theorem maintains_import (env : Environment) (input : String) (fresh : υ) :
    Maintains (Consistent p) (fun _ => True) («import» p env input fresh) := by
  refine (maintains_step _ _).bind fun _ _ => ?_
  cases p.validateThemeDocument input with
  | none => exact Maintains.throw _
  | some d =>
      exact (maintains_checkDocument _).bind fun _ _ =>
        (maintains_writeUser _ _).bind fun _ _ => Maintains.pure trivial

theorem maintains_copyForEdit (env : Environment) (id name : String) (fresh : υ) :
    Maintains (Consistent p) (fun _ => True) (copyForEdit p env id name fresh) := by
  refine (maintains_step _ _).bind fun _ _ => ?_
  split_ifs
  · exact Maintains.throw _
  · exact (maintains_of_stays (maintains_readTheme env id)).bind fun _ _ =>
      (maintains_checkDocument _).bind fun _ _ =>
      (maintains_writeUser _ _).bind fun _ _ => Maintains.pure trivial

/-- The document is stored before it becomes the current theme. -/
theorem maintains_setDesktopEffectPreferences
    (env : Environment) (reducedMotion opaqueFallback : Option Bool) (fresh : υ) :
    Maintains (Consistent p) (fun _ => True)
      (setDesktopEffectPreferences p env reducedMotion opaqueFallback fresh) := by
  refine (maintains_step _ _).bind fun _ _ => (maintains_requireNoJournal _).bind fun _ _ =>
    (maintains_readCurrent _).bind fun current _ =>
    (maintains_checkDocument _).bind fun _ _ => ?_
  intro m hm
  rw [wp_bind]
  refine wp_mono ?_ ?_ ?_ (wp_writeUser env _ hm)
  · rintro _ t ⟨ht, hfound⟩
    have hwrite : Maintains (Stays p t.documents) (fun _ => True)
        (writeCurrent env (withPreferences p reducedMotion opaqueFallback fresh current) >>=
          fun _ => pure (withPreferences p reducedMotion opaqueFallback fresh current)) :=
      (maintains_writeCurrent env hfound).bind fun _ _ => Maintains.pure trivial
    refine wp_mono ?_ ?_ ?_ (hwrite t ⟨rfl, ht⟩)
    · exact fun _ _ h => ⟨trivial, h.2.2⟩
    · exact fun _ _ h => h.2
    · exact fun _ h => h.2
  · exact fun _ _ h => h
  · exact fun _ h => h

end Documents

section Deletion

/-- A document that is not under the deleted identifier can still be found. -/
theorem Findable.deleted
    {d : ThemeDocument β} {u : υ} (h : Findable p m.documents d)
    (hne : p.parseStr d.id ≠ some u) :
    Findable p (m.putDocument u none).documents d := by
  refine h.imp_right ?_
  rintro ⟨v, hv, hdoc⟩
  have hvu : v ≠ u := by
    rintro rfl
    exact hne hv
  refine ⟨v, hv, ?_⟩
  simpa [ThemeManager.putDocument, Function.update_of_ne hvu] using hdoc

theorem Consistent.deleted
    (h : Consistent p m) {u : υ}
    (hcurrent : p.parseStr (m.current p).id ≠ some u)
    (hreconciled : p.parseStr (m.reconciled p).id ≠ some u) :
    Consistent p (m.putDocument u none) where
  named := by
    intro v d hv
    by_cases hvu : v = u
    · subst hvu
      simp [ThemeManager.putDocument] at hv
    · simp only [ThemeManager.putDocument, Function.update_of_ne hvu] at hv
      exact h.named v d hv
  holds := by
    constructor
    · intro d hd
      have hd' : m.session.current.current = some d := hd
      have hcur : m.current p = d := by
        simp [ThemeManager.current, Session.theme, hd']
      exact (h.holds.1 d hd').deleted (by rwa [← hcur])
    · intro j hj
      have hj' : m.session.journal.current = some j := hj
      have hrec : m.reconciled p = j.previous := by
        simp [ThemeManager.reconciled, Session.restores, hj']
      exact (h.holds.2 j hj').deleted (by rwa [← hrec])

theorem wp_delete
    (env : Environment) (id : String) (hm : Consistent p m)
    (hkeeps : KeepsCurrent p m (.delete env id)) :
    (delete p env id).wp (fun _ => True)
      ⟨fun _ t => Consistent p t, fun _ t => Consistent p t, fun t => Consistent p t⟩ m := by
  unfold delete
  rw [wp_bind]
  apply wp_step
  · intro hlock
    dsimp only
    split_ifs with hbuiltin
    · exact hm
    · unfold readCurrent
      simp only [wp_bind]
      apply wp_step
      · intro hread
        show Program.wp _ (if _ then _ else _) _ m
        split_ifs with hcurrent
        · exact hm
        · unfold themeFileName
          cases hu : p.parseStr id with
          | none => exact hm
          | some u =>
              show Program.wp _ (step _ _ >>= _) _ m
              rw [wp_bind]
              apply wp_step
              · intro hremove
                obtain ⟨hcur, hrec⟩ :=
                  hkeeps (by simp [deletes, completes, hlock, hread, hremove]) hcurrent u hu
                have hdeleted : Consistent p (m.putDocument u none) :=
                  hm.deleted hcur hrec
                show Program.wp _ (step _ _) _ (m.putDocument u none)
                exact wp_step (fun _ => hdeleted) (fun _ => hdeleted) (fun _ => hdeleted)
              · exact fun _ => hm
              · exact fun _ => hm
      · exact fun _ => hm
      · exact fun _ => hm
  · exact fun _ => hm
  · exact fun _ => hm

end Deletion

section Runs

/-- One operation. -/
theorem Consistent.perform
    (hm : Consistent p m) {op : Operation υ} (hkeeps : KeepsCurrent p m op) :
    Consistent p (perform p m op) := by
  cases op with
  | «import» env input fresh =>
      exact (maintains_import env input fresh).run hm []
  | copyForEdit env id name fresh =>
      exact (maintains_copyForEdit env id name fresh).run hm []
  | apply env request =>
      exact consistent_of_stays hm (maintains_apply env request m.documents)
  | activateForDesktop env id =>
      exact consistent_of_stays hm (maintains_activateForDesktop env id m.documents)
  | setDesktopEffectPreferences env reducedMotion opaqueFallback fresh =>
      exact (maintains_setDesktopEffectPreferences env reducedMotion opaqueFallback fresh).run hm []
  | delete env id =>
      exact run_of_wp trivial (fun _ _ => trivial) (wp_delete env id hm hkeeps)
  | reconcile env =>
      exact consistent_of_stays hm (maintains_reconcileThemes env m.documents)
  | restart generation => exact ⟨hm.named, hm.holds⟩

/-- The current theme resolves in every run whose deletions spare its document and the
document of the theme that a pending journal would make current. -/
theorem current_theme_resolves
    (h : ((themeSystem p).restrict (KeepsCurrent p)).Reachable m) :
    CurrentResolves p m := by
  refine Consistent.currentResolves ?_
  refine System.Reachable.invariant (I := Consistent p) ?_ ?_ h
  · rintro m ⟨generation, rfl⟩
    exact consistent_fresh generation
  · rintro m op m' hm ⟨hkeeps, hstep⟩
    cases hstep
    exact hm.perform hkeeps

end Runs

section Examples

def quiet : Environment := ⟨fun _ => .proceed, noopObserver⟩

/-- The identifier of the example, in its canonical and in its upper-case form. -/
def lowerId : String := "aaaaaaaa-aaaa-4aaa-8aaa-aaaaaaaaaaaa"

def upperId : String := "AAAAAAAA-AAAA-4AAA-8AAA-AAAAAAAAAAAA"

/-- One identifier with its two spellings; every input is the same document. -/
def onePlatform : Platform Unit Unit where
  parseStr text := if text = lowerId ∨ text = upperId then some () else none
  hyphenated _ := lowerId
  palette _ := ()
  validateThemeDocument _ := some ⟨lowerId, "Mine", .user, false, false, ()⟩
  validateDocument _ := true

/-- A theme is imported, selected and deleted under the upper-case spelling. -/
def deletedUnderAnotherSpelling : List (Operation Unit) :=
  [.import quiet "" (), .activateForDesktop quiet lowerId, .delete quiet upperId]

theorem current_theme_lost :
    ∃ m, (themeSystem onePlatform).Reachable m ∧ ¬ CurrentResolves onePlatform m := by
  have hrun : ∃ m, System.replay (fun m op => some (perform onePlatform m op))
      (ThemeManager.fresh 1) deletedUnderAnotherSpelling = some m ∧
      (m.theme onePlatform (m.current onePlatform).id).isSome = false :=
    ⟨_, rfl, by decide⟩
  obtain ⟨m, hm, hlost⟩ := hrun
  refine ⟨m, System.reachable_replay (.initial ⟨1, rfl⟩) hm, ?_⟩
  rintro ⟨hfound, -⟩
  rw [hlost] at hfound
  cases hfound

/-- A theme is imported and selected, and its deletion is refused. -/
def refusedDeletion : List (Operation Unit) :=
  [.import quiet "" (), .activateForDesktop quiet lowerId, .delete quiet lowerId]

theorem current_theme_resolves_selected :
    ∃ m, System.replay (fun m op => some (perform onePlatform m op))
        (ThemeManager.fresh 1) refusedDeletion = some m ∧
      (m.current onePlatform).id = lowerId ∧ CurrentResolves onePlatform m := by
  have hmeet : System.AllMeet (fun m op => some (perform onePlatform m op))
      (KeepsCurrent onePlatform) (ThemeManager.fresh 1) refusedDeletion := by
    refine ⟨trivial, fun _ h => ⟨trivial, fun _ h' => ⟨?_, fun _ _ => trivial⟩⟩⟩
    cases h
    cases h'
    exact fun _ hne => absurd (by decide) hne
  have hrun : ∃ m, System.replay (fun m op => some (perform onePlatform m op))
      (ThemeManager.fresh 1) refusedDeletion = some m ∧
      (m.current onePlatform).id = lowerId :=
    ⟨_, rfl, by decide⟩
  obtain ⟨m, hm, hid⟩ := hrun
  exact ⟨m, hm, hid, current_theme_resolves
    (System.reachable_restrict_replay (.initial ⟨1, rfl⟩) hmeet hm)⟩

end Examples

end Manager

end Themes
end SleepySession
