import SleepySession.Themes.CurrentTheme

/-!
# Sessions stay coherent

A journal that counts as durable is the one that the running transaction wrote.
Every program of a transaction keeps it that way, and so does a restart, so that
every session of a store that starts out empty is coherent.
-/

namespace SleepySession
namespace Themes

open Program

variable {δ : Type} {j : ApplyJournal δ} {s : Session δ}

section Programs

theorem kept_atomicStateWrite
    (env : Environment) (point : WritePart → Point) {put : Session δ → Session δ}
    (h : ∀ s, Kept j s → Kept j (put s)) :
    Maintains (Kept j) (fun _ => True) (atomicStateWrite env point put) := by
  intro s hs
  apply wp_atomicStateWrite
  · exact fun _ => ⟨trivial, (h s hs).sync⟩
  · exact fun _ _ => hs
  · exact fun _ _ _ => h s hs
  · exact fun _ => hs
  · exact fun _ _ => h s hs

theorem kept_writeJournal (env : Environment) (point : WritePart → Point) :
    Maintains (Kept j) (fun _ => True) (writeJournal env point j) := by
  intro s hs
  apply wp_writeJournal
  · exact fun _ => ⟨trivial, Kept.of_settled rfl⟩
  · exact fun _ _ => hs
  · exact fun _ _ _ => hs.putJournal
  · exact fun _ => hs
  · exact fun _ _ => hs.putJournal

theorem kept_publish (f : Fault) (point : Point) :
    Maintains (Kept j) (fun _ => True) (publish f point) :=
  fun _ hs => wp_publish (fun _ => ⟨trivial, hs⟩) (fun _ => ⟨hs, hs⟩) (fun _ => hs)

theorem kept_cleanupJournal
    (env : Environment) (observer : ThemeApplyStage → Fault)
    (removal directorySync : Point) :
    Maintains (Kept j) (fun _ => True)
      (cleanupJournal env observer removal directorySync) := by
  intro s hs
  have hdropped := Kept.dropJournal j s
  apply wp_cleanupJournal
  · exact fun _ => ⟨trivial, hdropped.sync⟩
  · exact fun _ _ => hs
  · exact fun _ _ _ => ⟨hdropped, hdropped.sync⟩
  · exact fun _ => hs
  · exact fun _ => ⟨hdropped, hdropped.sync⟩

theorem kept_rollback (env : Environment) (observer : ThemeApplyStage → Fault) :
    Maintains (Kept j) (fun _ => True) (rollback env observer j) := by
  refine (maintains_step _ _).bind fun _ _ => (maintains_step _ _).bind fun _ _ =>
    (maintains_step _ _).bind fun _ _ =>
    (kept_atomicStateWrite _ _ fun _ h => h.putCurrent _).bind fun _ _ =>
    (maintains_step _ _).bind fun _ _ => (kept_publish _ _).bind fun _ _ =>
    (kept_cleanupJournal _ _ _ _).attempt.bind fun cleaned _ => ?_
  cases cleaned with
  | ok _ => exact Maintains.pure trivial
  | error e => exact (kept_writeJournal _ _).bind fun _ _ => Maintains.throw _

theorem kept_continueApply (env : Environment) (candidate : δ) :
    Maintains (Kept j) (fun _ => True) (continueApply env candidate) :=
  (maintains_step _ _).bind fun _ _ => (maintains_step _ _).bind fun _ _ =>
    (maintains_step _ _).bind fun _ _ => (maintains_step _ _).bind fun _ _ =>
    (kept_publish _ _).bind fun _ _ => (maintains_step _ _).bind fun _ _ =>
    (kept_atomicStateWrite _ _ fun _ h => h.putCurrent _).bind fun _ _ =>
    (maintains_step _ _).bind fun _ _ => Maintains.pure trivial

theorem kept_recoverCleanup (env : Environment) (e : ThemeError) :
    Maintains (Kept j) (fun _ => True) (recoverCleanup env j e) := by
  refine (kept_writeJournal _ _).attempt.bind fun written _ =>
    Maintains.bind (R := fun _ => True) ?_ fun recovery _ =>
    (kept_rollback _ _).attempt.bind fun rolledBack _ => ?_
  · cases written with
    | ok _ => exact (maintains_step _ _).bind fun _ _ => Maintains.pure trivial
    | error e' => exact Maintains.pure trivial
  · cases rolledBack with
    | error e' => exact Maintains.throw _
    | ok _ =>
        cases recovery with
        | none => exact Maintains.throw _
        | some e' => exact Maintains.throw _

end Programs

section Runs

theorem Kept.coherent (h : Kept j s) : Coherent s :=
  fun hd => ⟨j, h hd⟩

/-- The journal that a session shows is the one that counts as durable. -/
theorem Coherent.kept (h : Coherent s) (hj : s.journal.current = some j) : Kept j s := by
  intro hd
  obtain ⟨j', hj'⟩ := h hd
  have hsame : some j = some j' := hj ▸ hj'.current
  cases hsame
  exact hj'

/-- Without a journal nothing counts as durable. -/
theorem Coherent.kept_of_none
    (h : Coherent s) (hnone : s.journal.current = none) (j : ApplyJournal δ) :
    Kept j s := by
  intro hd
  obtain ⟨j', hj'⟩ := h hd
  rw [hj'.current] at hnone
  cases hnone

theorem coherent_prepare
    (c : Catalogue δ) (env : Environment) (request : ApplyRequest) (h : Coherent s) :
    (prepare c env request).wp (fun _ => True)
      ⟨fun j t => Kept j t, fun _ t => Coherent t, fun t => Coherent t⟩ s := by
  unfold prepare
  rw [wp_bind]
  refine wp_step (fun _ => ?_) (fun _ => h) (fun _ => h)
  dsimp only
  split_ifs
  · exact h
  rw [wp_bind]
  refine wp_step (fun _ => ?_) (fun _ => h) (fun _ => h)
  dsimp only
  rw [wp_bind, wp_get]
  dsimp only
  split_ifs with hpending
  · exact h
  · exact h
  have hnone : s.journal.current = none := by simpa using hpending
  rw [wp_bind]
  refine wp_step (fun _ => ?_) (fun _ => h) (fun _ => h)
  dsimp only
  cases c.lookup request.themeId with
  | none => exact h
  | some candidate =>
      dsimp only
      rw [wp_bind]
      refine wp_step (fun _ => ?_) (fun _ => h) (fun _ => h)
      dsimp only
      rw [wp_bind]
      have hkept := h.kept_of_none hnone
        ⟨1, request.requestId, s.theme c, candidate⟩
      refine wp_mono ?_ ?_ ?_ (kept_writeJournal env .journal s hkept)
      · exact fun _ _ ht => ht.2
      · exact fun _ _ ht => ht.coherent
      · exact fun _ ht => ht.coherent

theorem coherent_applyTransaction
    (c : Catalogue δ) (env : Environment) (request : ApplyRequest) (h : Coherent s) :
    Coherent ((applyTransaction c env request).run [] s).2 := by
  refine run_of_wp (I := Coherent) (A := fun _ => True) trivial (fun _ _ => trivial) ?_
  unfold applyTransaction
  rw [wp_bind]
  refine wp_mono ?_ ?_ ?_ (coherent_prepare c env request h)
  · intro j t ht
    -- past the preparation every step keeps what the journal says
    refine wp_mono ?_ ?_ ?_ (Maintains.bind (I := Kept j) (R := fun _ => True)
      (S := fun _ => True) ((kept_continueApply _ _).attempt.mono fun _ _ => trivial) ?_ t ht)
    · exact fun _ _ h => h.2.coherent
    · exact fun _ _ h => h.coherent
    · exact fun _ h => h.coherent
    intro outcome _
    cases outcome with
    | ok generation =>
        refine (kept_cleanupJournal _ _ _ _).attempt.bind fun cleaned _ => ?_
        cases cleaned with
        | ok _ => exact Maintains.pure trivial
        | error e => exact kept_recoverCleanup env e
    | error e =>
        refine (kept_rollback _ _).attempt.bind fun rolledBack _ => ?_
        cases rolledBack with
        | ok _ => exact Maintains.throw _
        | error e' => exact Maintains.throw _
  · exact fun _ _ h => h
  · exact fun _ h => h

theorem coherent_reconcile (c : Catalogue δ) (env : Environment) (h : Coherent s) :
    Coherent ((reconcile c env).run [] s).2 := by
  refine run_of_wp (I := Coherent) (A := fun _ => True) trivial (fun _ _ => trivial) ?_
  unfold reconcile
  rw [wp_bind]
  refine wp_step (fun _ => ?_) (fun _ => h) (fun _ => h)
  dsimp only
  rw [wp_bind]
  refine wp_step (fun _ => ?_) (fun _ => h) (fun _ => h)
  dsimp only
  rw [wp_bind, wp_get]
  dsimp only
  cases hj : s.journal.current with
  | none => exact h
  | some j =>
      dsimp only
      split_ifs
      · exact h
      · exact h
      · rw [wp_bind]
        refine wp_mono ?_ ?_ ?_ (kept_rollback env noopObserver s (h.kept hj))
        · exact fun _ _ ht => ht.2.coherent
        · exact fun _ _ ht => ht.coherent
        · exact fun _ ht => ht.coherent

theorem Restarted.coherent {s' : Session δ} (h : Coherent s) (hr : Restarted s s') :
    Coherent s' := by
  cases hr with
  | stopped => exact h
  | powerLoss hx hy =>
      rename_i x y
      intro hd
      cases y with
      | none => cases hd
      | some j => exact ⟨j, by simp⟩

/-- What happens to the state directory of a store. -/
inductive SessionEvent where
  | apply (env : Environment) (request : ApplyRequest)
  | reconcile (env : Environment)
  | restart

/-- Transactions, reconciliations and restarts of a store that starts out empty. -/
def sessionSystem (c : Catalogue δ) : System (Session δ) SessionEvent where
  initial s := ∃ generation, s = ⟨.settled none, .settled none, generation, false⟩
  step s e s' :=
    match e with
    | .apply env request => s' = ((applyTransaction c env request).run [] s).2
    | .reconcile env => s' = ((reconcile c env).run [] s).2
    | .restart => Restarted s s'

/-- Every session of a store is coherent. -/
theorem coherent_of_reachable {c : Catalogue δ} (h : (sessionSystem c).Reachable s) :
    Coherent s := by
  refine System.Reachable.invariant (I := Coherent) ?_ ?_ h
  · rintro _ ⟨generation, rfl⟩ hd
    cases hd
  · intro s e s' hs hstep
    cases e with
    | apply env request =>
        cases hstep
        exact coherent_applyTransaction c env request hs
    | reconcile env =>
        cases hstep
        exact coherent_reconcile c env hs
    | restart => exact Restarted.coherent hs hstep

end Runs

end Themes
end SleepySession
