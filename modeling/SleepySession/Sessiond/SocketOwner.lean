import SleepySession.Sessiond.PrivateSocket

/-!
# The owner of a private socket

A daemon with an open listener whose file was not removed finds that file at
the path, so a second daemon cannot bind there.  Only the stale removal can take
the file away from it: it acts on what was at the path some calls earlier.
-/

set_option linter.unusedSectionVars false

namespace SleepySession
namespace Sessiond

section Owner

variable {δ : Type} [DecidableEq δ]

/-- The object a daemon has bound and not unlinked. -/
def EndpointStage.holds? : EndpointStage → Option Nat
  | .bound object => some object
  | .chmodded object => some object
  | .endpoint object _ => some object
  | .dropping object => some object
  | _ => none

/-- The object that refused a connection of the daemon. -/
def EndpointStage.stale? : EndpointStage → Option Nat
  | .refused _ object => some object
  | .rechecked object => some object
  | _ => none

/-- What holds of the daemons at any time. -/
structure SocketRun.Invariant (s : SocketRun δ) : Prop where
  entry : ∀ object, s.entry = some object → object < s.next
  holds : ∀ d object, (s.stages d).holds? = some object →
    s.entry = some object ∧ s.listening object = true
  listener : ∀ d object, (s.stages d).listener? = some object → object < s.next
  distinct : ∀ d d' object, (s.stages d).listener? = some object →
    (s.stages d').listener? = some object → d = d'
  stale : ∀ d object, (s.stages d).stale? = some object →
    object < s.next ∧ s.listening object = false

theorem EndpointStage.listener?_of_holds?
    {stage : EndpointStage} {object : Nat} (h : stage.holds? = some object) :
    stage.listener? = some object := by
  cases stage <;> simp_all [EndpointStage.holds?, EndpointStage.listener?]

theorem EndpointStage.holds?_of_alive?
    {stage : EndpointStage} {object : Nat} (h : stage.alive? = some object) :
    stage.holds? = some object := by
  cases stage <;> simp_all [EndpointStage.holds?, EndpointStage.alive?]

/-- The stage of another daemon is what it was. -/
theorem SocketRun.stages_setStage_of_ne
    (s : SocketRun δ) {d d' : δ} (h : d' ≠ d) (stage : EndpointStage) :
    (s.setStage d stage).stages d' = s.stages d' := by
  simp [SocketRun.setStage, Function.update_of_ne h]

theorem SocketRun.stages_setStage_self
    (s : SocketRun δ) (d : δ) (stage : EndpointStage) :
    (s.setStage d stage).stages d = stage := by
  simp [SocketRun.setStage]

/-- A daemon moves on; it gains no listener. -/
theorem SocketRun.Invariant.setStage
    {s : SocketRun δ}
    (hs : s.Invariant) (d : δ) (stage : EndpointStage)
    (hholds : ∀ object, stage.holds? = some object → (s.stages d).holds? = some object)
    (hlistener : ∀ object, stage.listener? = some object →
      (s.stages d).listener? = some object)
    (hstale : ∀ object, stage.stale? = some object →
      object < s.next ∧ s.listening object = false) :
    (s.setStage d stage).Invariant := by
  have hlistener' : ∀ d' object, ((s.setStage d stage).stages d').listener? = some object →
      (s.stages d').listener? = some object := by
    intro d' object h
    by_cases hd : d' = d
    · subst hd
      exact hlistener object (by simpa [SocketRun.setStage] using h)
    · rwa [s.stages_setStage_of_ne hd] at h
  refine ⟨hs.entry, ?_, ?_, ?_, ?_⟩
  · intro d' object h
    by_cases hd : d' = d
    · subst hd
      exact hs.holds d' object (hholds object (by simpa [SocketRun.setStage] using h))
    · rw [s.stages_setStage_of_ne hd] at h
      exact hs.holds d' object h
  · exact fun d' object h => hs.listener d' object (hlistener' d' object h)
  · exact fun d₁ d₂ object h₁ h₂ =>
      hs.distinct d₁ d₂ object (hlistener' d₁ object h₁) (hlistener' d₂ object h₂)
  · intro d' object h
    by_cases hd : d' = d
    · subst hd
      exact hstale object (by simpa [SocketRun.setStage] using h)
    · rw [s.stages_setStage_of_ne hd] at h
      exact hs.stale d' object h

/-- A daemon closes its listener. -/
theorem SocketRun.Invariant.abandon
    {s : SocketRun δ} (hs : s.Invariant) (d : δ) :
    (s.abandon d).Invariant := by
  have hidle := hs.setStage d .idle (by simp [EndpointStage.holds?])
    (by simp [EndpointStage.listener?]) (by simp [EndpointStage.stale?])
  cases hlistener : (s.stages d).listener? with
  | none =>
      simp only [SocketRun.abandon, hlistener]
      exact hidle
  | some own =>
      simp only [SocketRun.abandon, hlistener]
      refine ⟨hidle.entry, ?_, hidle.listener, hidle.distinct, ?_⟩
      · intro d' object h
        obtain ⟨hentry, hlistening⟩ := hidle.holds d' object h
        have hd : d' ≠ d := by
          rintro rfl
          rw [s.stages_setStage_self] at h
          cases h
        have hne : object ≠ own := by
          rintro rfl
          rw [s.stages_setStage_of_ne hd] at h
          exact hd (hs.distinct d' d object (EndpointStage.listener?_of_holds? h) hlistener)
        exact ⟨hentry, by simpa [Function.update_of_ne hne, SocketRun.setStage] using hlistening⟩
      · intro d' object h
        obtain ⟨hlt, hlistening⟩ := hidle.stale d' object h
        refine ⟨hlt, ?_⟩
        by_cases hne : object = own
        · simp [hne]
        · simpa [Function.update_of_ne hne, SocketRun.setStage] using hlistening

/-- The file at the path is removed while no endpoint holds it. -/
theorem SocketRun.Invariant.unlink
    {s : SocketRun δ}
    (hs : s.Invariant) (hfree : ∀ d object, (s.stages d).holds? ≠ some object) :
    SocketRun.Invariant { s with entry := none } where
  entry object h := by cases h
  holds d object h := absurd h (hfree d object)
  listener := hs.listener
  distinct := hs.distinct
  stale := hs.stale

theorem SocketRun.Invariant.bind
    {s : SocketRun δ}
    (hs : s.Invariant) (d : δ) (identity : Nat)
    (hstage : s.stages d = .clear) (hentry : s.entry = none) :
    SocketRun.Invariant
      { s.setStage d (.bound s.next) with
        entry := some s.next
        next := s.next + 1
        identity := Function.update s.identity s.next identity
        isPrivate := Function.update s.isPrivate s.next false
        listening := Function.update s.listening s.next true } := by
  have hfree : ∀ d' object, (s.stages d').holds? ≠ some object := by
    intro d' object h
    have := (hs.holds d' object h).1
    rw [hentry] at this
    cases this
  refine ⟨?_, ?_, ?_, ?_, ?_⟩
  · intro object h
    cases h
    exact Nat.lt_succ_self _
  · intro d' object h
    by_cases hd : d' = d
    · subst hd
      simp only [s.stages_setStage_self, EndpointStage.holds?, Option.some.injEq] at h
      subst h
      simp
    · simp only [s.stages_setStage_of_ne hd] at h
      exact absurd h (hfree d' object)
  · intro d' object h
    by_cases hd : d' = d
    · subst hd
      simp only [s.stages_setStage_self, EndpointStage.listener?, Option.some.injEq] at h
      simp [← h]
    · simp only [s.stages_setStage_of_ne hd] at h
      exact (hs.listener d' object h).trans (Nat.lt_succ_self _)
  · intro d₁ d₂ object h₁ h₂
    by_cases hd₁ : d₁ = d
    · by_cases hd₂ : d₂ = d
      · rw [hd₁, hd₂]
      · subst hd₁
        simp only [s.stages_setStage_self, EndpointStage.listener?, Option.some.injEq] at h₁
        simp only [s.stages_setStage_of_ne hd₂] at h₂
        have := hs.listener d₂ object h₂
        omega
    · by_cases hd₂ : d₂ = d
      · subst hd₂
        simp only [s.stages_setStage_self, EndpointStage.listener?, Option.some.injEq] at h₂
        simp only [s.stages_setStage_of_ne hd₁] at h₁
        have := hs.listener d₁ object h₁
        omega
      · simp only [s.stages_setStage_of_ne hd₁] at h₁
        simp only [s.stages_setStage_of_ne hd₂] at h₂
        exact hs.distinct d₁ d₂ object h₁ h₂
  · intro d' object h
    by_cases hd : d' = d
    · subst hd
      simp [s.stages_setStage_self, EndpointStage.stale?] at h
    · simp only [s.stages_setStage_of_ne hd] at h
      obtain ⟨hlt, hlistening⟩ := hs.stale d' object h
      refine ⟨hlt.trans (Nat.lt_succ_self _), ?_⟩
      have hne : object ≠ s.next := by omega
      simpa [Function.update_of_ne hne] using hlistening

/-- A daemon that binds nothing and holds nothing may move on anywhere before the bind. -/
theorem SocketRun.Invariant.move
    {s : SocketRun δ}
    (hs : s.Invariant) (d : δ) (stage : EndpointStage)
    (hlistener : stage.listener? = none) (hstale : stage.stale? = none) :
    (s.setStage d stage).Invariant := by
  refine hs.setStage d stage (fun object h => ?_) (by simp [hlistener]) (by simp [hstale])
  rw [EndpointStage.listener?_of_holds? h] at hlistener
  cases hlistener

/-- Two daemons do not hold the file at the path. -/
theorem SocketRun.Invariant.holder_eq
    {s : SocketRun δ} {d d' : δ} {object object' : Nat}
    (hs : s.Invariant)
    (h : (s.stages d).holds? = some object) (h' : (s.stages d').holds? = some object') :
    d = d' := by
  have hentry := (hs.holds d object h).1
  rw [(hs.holds d' object' h').1, Option.some.injEq] at hentry
  subst hentry
  exact hs.distinct d d' object' (EndpointStage.listener?_of_holds? h)
    (EndpointStage.listener?_of_holds? h')

theorem SocketRun.Invariant.after_readMetadata
    {s s' : SocketRun δ} {d : δ}
    (hs : s.Invariant)
    (h : s.after (.readMetadata d) = some s') :
    s'.Invariant := by
  unfold SocketRun.after at h
  dsimp only at h
  split at h
  · cases h
    exact hs.move d _ rfl rfl
  · split at h <;> cases h
    · exact hs.move d _ rfl rfl
    · exact hs.abandon d
  · cases h

theorem SocketRun.Invariant.after_connect
    {s s' : SocketRun δ} {d : δ}
    (hs : s.Invariant)
    (h : s.after (.connect d) = some s') :
    s'.Invariant := by
  unfold SocketRun.after at h
  dsimp only at h
  split at h
  · cases h
    exact hs.move d _ rfl rfl
  · rename_i identity object hstage hentry
    split at h <;> cases h
    · exact hs.abandon d
    · rename_i hrefused
      refine hs.setStage d _ (by simp [EndpointStage.holds?])
        (by simp [EndpointStage.listener?]) (fun object' h => ?_)
      simp only [EndpointStage.stale?, Option.some.injEq] at h
      subst h
      exact ⟨hs.entry object hentry, by simpa using hrefused⟩
  · cases h

theorem SocketRun.Invariant.after_recheck
    {s s' : SocketRun δ} {d : δ}
    (hs : s.Invariant)
    (h : s.after (.recheck d) = some s') :
    s'.Invariant := by
  unfold SocketRun.after at h
  dsimp only at h
  split at h
  · cases h
    exact hs.move d _ rfl rfl
  · rename_i identity object current hstage hentry
    split at h <;> cases h
    · refine hs.setStage d _ (by simp [EndpointStage.holds?])
        (by simp [EndpointStage.listener?]) (fun object' h => ?_)
      simp only [EndpointStage.stale?, Option.some.injEq] at h
      subst h
      exact hs.stale d object (by simp [hstage, EndpointStage.stale?])
    · exact hs.abandon d
  · cases h

/-- What is removed is the socket that refused the connection, so nobody loses a listener. -/
theorem SocketRun.Invariant.after_removeStale
    {s s' : SocketRun δ} {d : δ}
    (hs : s.Invariant) (hunreplaced : Unreplaced s (.removeStale d))
    (h : s.after (.removeStale d) = some s') :
    s'.Invariant := by
  unfold SocketRun.after at h
  dsimp only at h
  split at h
  · cases h
    exact hs.abandon d
  · rename_i object current hstage hentry
    cases h
    -- the refusing object is still at the path, so nobody listens there
    have hsame : current = object := hunreplaced object current hstage hentry
    have hdead : s.listening object = false :=
      (hs.stale d object (by simp [hstage, EndpointStage.stale?])).2
    have hfree : ∀ d' object', (s.stages d').holds? ≠ some object' := by
      intro d' object' h
      obtain ⟨hentry', hlistening⟩ := hs.holds d' object' h
      rw [hentry, Option.some.injEq] at hentry'
      rw [← hentry', hsame, hdead] at hlistening
      cases hlistening
    refine (hs.move d .clear rfl rfl).unlink (fun d' object' h => ?_)
    by_cases hd : d' = d
    · subst hd
      rw [s.stages_setStage_self] at h
      cases h
    · rw [s.stages_setStage_of_ne hd] at h
      exact hfree d' object' h
  · cases h

theorem SocketRun.Invariant.after_bind
    {s s' : SocketRun δ} {d : δ} {identity : Nat}
    (hs : s.Invariant)
    (h : s.after (.bind d identity) = some s') :
    s'.Invariant := by
  unfold SocketRun.after at h
  dsimp only at h
  split at h
  · cases h
    exact hs.abandon d
  · rename_i hstage hentry
    cases h
    exact hs.bind d identity hstage hentry
  · cases h

theorem SocketRun.Invariant.after_chmod
    {s s' : SocketRun δ} {d : δ}
    (hs : s.Invariant)
    (h : s.after (.chmod d) = some s') :
    s'.Invariant := by
  unfold SocketRun.after at h
  dsimp only at h
  split at h
  · cases h
    exact hs.abandon d
  · rename_i object current hstage hentry
    cases h
    have hnext := hs.setStage d (.chmodded object) (by simp [hstage, EndpointStage.holds?])
      (by simp [hstage, EndpointStage.listener?]) (by simp [EndpointStage.stale?])
    exact { hnext with }
  · cases h

/-- A socket that is no longer the own one at the path is given up. -/
theorem SocketRun.Invariant.after_record
    {s s' : SocketRun δ} {d : δ}
    (hs : s.Invariant)
    (h : s.after (.record d) = some s') :
    s'.Invariant := by
  unfold SocketRun.after at h
  dsimp only at h
  split at h
  · cases h
    exact hs.abandon d
  · rename_i object current hstage hentry
    split at h <;> cases h
    · exact hs.setStage d _ (by simp [hstage, EndpointStage.holds?])
        (by simp [hstage, EndpointStage.listener?]) (by simp [EndpointStage.stale?])
    · refine (hs.abandon d).unlink (fun d' object' h => ?_)
      by_cases hd : d' = d
      · subst hd
        simp [SocketRun.abandon, SocketRun.setStage, EndpointStage.holds?] at h
      · have hold : (s.stages d').holds? = some object' := by
          simpa [SocketRun.abandon, SocketRun.setStage, Function.update_of_ne hd] using h
        exact hd (hs.holder_eq hold
          (show (s.stages d).holds? = some object by simp [hstage, EndpointStage.holds?]))
  · cases h

theorem SocketRun.Invariant.after_beginDrop
    {s s' : SocketRun δ} {d : δ}
    (hs : s.Invariant)
    (h : s.after (.beginDrop d) = some s') :
    s'.Invariant := by
  unfold SocketRun.after at h
  dsimp only at h
  split at h
  · rename_i object identity hstage
    split at h <;> cases h
    · exact hs.setStage d _ (by simp [hstage, EndpointStage.holds?])
        (by simp [hstage, EndpointStage.listener?]) (by simp [EndpointStage.stale?])
    · exact hs.setStage d _ (by simp [EndpointStage.holds?])
        (by simp [hstage, EndpointStage.listener?]) (by simp [EndpointStage.stale?])
  · cases h

/-- The own file is the one at the path. -/
theorem SocketRun.Invariant.after_removeOwn
    {s s' : SocketRun δ} {d : δ}
    (hs : s.Invariant)
    (h : s.after (.removeOwn d) = some s') :
    s'.Invariant := by
  unfold SocketRun.after at h
  dsimp only at h
  split at h
  · rename_i object hstage
    cases h
    have hnext := hs.setStage d (.closing object) (by simp [EndpointStage.holds?])
      (by simp [hstage, EndpointStage.listener?]) (by simp [EndpointStage.stale?])
    refine hnext.unlink (fun d' object' h => ?_)
    by_cases hd : d' = d
    · subst hd
      rw [s.stages_setStage_self] at h
      cases h
    · rw [s.stages_setStage_of_ne hd] at h
      exact hd (hs.holder_eq h
        (show (s.stages d).holds? = some object by simp [hstage, EndpointStage.holds?]))
  · cases h

theorem SocketRun.Invariant.after_fail
    {s s' : SocketRun δ} {d : δ}
    (hs : s.Invariant)
    (h : s.after (.fail d) = some s') :
    s'.Invariant := by
  unfold SocketRun.after at h
  dsimp only at h
  split at h
  · cases h
  · rename_i object hstage
    cases h
    exact hs.setStage d _ (by simp [EndpointStage.holds?])
      (by simp [hstage, EndpointStage.listener?]) (by simp [EndpointStage.stale?])
  · cases h
  · cases h
    exact hs.abandon d

theorem SocketRun.Invariant.after
    {s s' : SocketRun δ} {e : SocketEvent δ}
    (hs : s.Invariant) (hunreplaced : Unreplaced s e)
    (h : s.after e = some s') :
    s'.Invariant := by
  cases e with
  | readMetadata d => exact hs.after_readMetadata h
  | connect d => exact hs.after_connect h
  | recheck d => exact hs.after_recheck h
  | removeStale d => exact hs.after_removeStale hunreplaced h
  | bind d identity => exact hs.after_bind h
  | chmod d => exact hs.after_chmod h
  | record d => exact hs.after_record h
  | beginDrop d => exact hs.after_beginDrop h
  | removeOwn d => exact hs.after_removeOwn h
  | close d =>
      unfold SocketRun.after at h
      dsimp only at h
      split at h
      · cases h
        exact hs.abandon d
      · cases h
  | fail d => exact hs.after_fail h
  | crash d =>
      cases h
      exact hs.abandon d

theorem SocketRun.invariant_fresh {s : SocketRun δ} (hs : s.Fresh) : s.Invariant where
  entry := hs.2.2
  holds d object h := by simp [hs.1 d, EndpointStage.holds?] at h
  listener d object h := by simp [hs.1 d, EndpointStage.listener?] at h
  distinct d d' object h := by simp [hs.1 d, EndpointStage.listener?] at h
  stale d object h := by simp [hs.1 d, EndpointStage.stale?] at h

theorem SocketRun.invariant_of_reachable
    {s : SocketRun δ} (h : ((socketSystem δ).restrict Unreplaced).Reachable s) :
    s.Invariant := by
  refine h.invariant (I := SocketRun.Invariant) (fun s hs => SocketRun.invariant_fresh hs)
    (fun s e s' hs hstep => ?_)
  exact hs.after (e := e) hstep.1 hstep.2

/-- A step changes the stage of its own daemon only. -/
theorem SocketRun.stages_after
    {s s' : SocketRun δ} {e : SocketEvent δ} {d : δ}
    (h : s.after e = some s') (hd : e.actor ≠ d) :
    s'.stages d = s.stages d := by
  have hd' : d ≠ e.actor := Ne.symm hd
  cases e <;> simp only [SocketRun.after] at h <;> (repeat' split at h) <;> cases h <;>
    exact s.stages_setStage_of_ne hd' _

/--
While each stale removal finds the file that refused the connection, an alive
endpoint is the one at the path and there is one at most; no step of another
daemon removes its file, and no bind succeeds beside it.
-/
theorem socket_one_owner
    {s : SocketRun δ} (h : ((socketSystem δ).restrict Unreplaced).Reachable s) :
    s.OneOwner ∧ ∀ e s', Unreplaced s e → s.after e = some s' → KeepsOwner s e s' := by
  have hs := SocketRun.invariant_of_reachable h
  refine ⟨⟨fun d object halive => hs.holds d object (EndpointStage.holds?_of_alive? halive),
    fun d d' object object' halive halive' => hs.holder_eq
      (EndpointStage.holds?_of_alive? halive) (EndpointStage.holds?_of_alive? halive')⟩, ?_⟩
  intro e s' hunreplaced hstep
  have hs' := hs.after hunreplaced hstep
  have hfile : ∀ d object, s.Alive d object → e.actor ≠ d → (s'.stages d).holds? = some object := by
    intro d object halive hactor
    rw [SocketRun.stages_after hstep hactor]
    exact EndpointStage.holds?_of_alive? halive
  refine ⟨fun d object halive hactor => (hs'.holds d object (hfile d object halive hactor)).1, ?_⟩
  rintro d object halive d' identity rfl object' halive'
  have hentry := (hs.holds d object (EndpointStage.holds?_of_alive? halive)).1
  unfold SocketRun.after at hstep
  dsimp only at hstep
  split at hstep
  · cases hstep
    simp [SocketRun.Alive, SocketRun.abandon, SocketRun.setStage, EndpointStage.alive?] at halive'
  · rename_i hnone
    rw [hnone] at hentry
    cases hentry
  · cases hstep

end Owner

section Sample

/-- A stale socket at the path. -/
def staleSocket : SocketRun Nat where
  entry := some 0
  next := 1
  identity := fun _ => 40
  isPrivate := fun _ => true
  listening := fun _ => false
  stages := fun _ => .idle

/-- Two daemons find the same stale file; the slower one removes the other's socket. -/
def replacedEvents : List (SocketEvent Nat) :=
  [.readMetadata 0, .readMetadata 1, .connect 0, .connect 1, .recheck 0, .recheck 1,
    .removeStale 0, .bind 0 41, .chmod 0, .record 0, .removeStale 1, .bind 1 42]

theorem stale_removal_takes_live_socket :
    ¬ ∀ s : SocketRun Nat, (socketSystem Nat).Reachable s →
      s.OneOwner ∧ ∀ e s', s.after e = some s' → KeepsOwner s e s' := by
  intro h
  have hrun : ((System.replay (fun s e => s.after e) staleSocket replacedEvents).any
      fun s : SocketRun Nat => decide (s.stages 0 = .endpoint 1 41) &&
        decide (s.stages 1 = .bound 2)) = true := by
    decide
  obtain ⟨s, hs, hstages⟩ := (Option.any_eq_true _ _).mp hrun
  simp only [Bool.and_eq_true, decide_eq_true_eq] at hstages
  have hfresh : staleSocket.Fresh :=
    ⟨fun _ => rfl, fun _ => rfl, fun object h => by cases h; exact Nat.one_pos⟩
  have hreachable : (socketSystem Nat).Reachable s :=
    System.reachable_replay (.initial hfresh) hs
  have hunique := (h s hreachable).1.unique 0 1 1 2
    (by simp [SocketRun.Alive, hstages.1, EndpointStage.alive?])
    (by simp [SocketRun.Alive, hstages.2, EndpointStage.alive?])
  cases hunique

/-- One daemon replaces the stale file; the other arrives while it is alive. -/
def ownedEvents : List (SocketEvent Nat) :=
  [.readMetadata 0, .connect 0, .recheck 0, .removeStale 0, .bind 0 41, .chmod 0, .record 0,
    .readMetadata 1, .connect 1]

theorem socket_one_owner_after_restart :
    ∃ s : SocketRun Nat,
      System.replay (fun s e => s.after e) staleSocket ownedEvents = some s ∧
        s.stages 0 = .endpoint 1 41 ∧ s.stages 1 = .idle ∧ s.OneOwner := by
  have hrun : ((System.replay (fun s e => s.after e) staleSocket ownedEvents).any
      fun s : SocketRun Nat => decide (s.stages 0 = .endpoint 1 41) &&
        decide (s.stages 1 = .idle)) = true := by
    decide
  obtain ⟨s, hs, hstages⟩ := (Option.any_eq_true _ _).mp hrun
  simp only [Bool.and_eq_true, decide_eq_true_eq] at hstages
  have hfresh : staleSocket.Fresh :=
    ⟨fun _ => rfl, fun _ => rfl, fun object h => by cases h; exact Nat.one_pos⟩
  have hmeet : System.AllMeet (fun s e => s.after e) Unreplaced staleSocket ownedEvents := by
    refine ⟨trivial, fun _ h₁ => ⟨trivial, fun _ h₂ => ⟨trivial, fun _ h₃ => ⟨?_, fun _ h₄ =>
      ⟨trivial, fun _ h₅ => ⟨trivial, fun _ h₆ => ⟨trivial, fun _ h₇ => ⟨trivial, fun _ h₈ =>
        ⟨trivial, fun _ _ => trivial⟩⟩⟩⟩⟩⟩⟩⟩⟩
    cases h₁
    cases h₂
    cases h₃
    intro object current hstage hentry
    cases hentry
    simpa [SocketRun.setStage] using hstage
  have hreachable : ((socketSystem Nat).restrict Unreplaced).Reachable s :=
    System.reachable_restrict_replay (.initial hfresh) hmeet hs
  exact ⟨s, hs, hstages.1, hstages.2, (socket_one_owner hreachable).1⟩

end Sample

end Sessiond
end SleepySession
