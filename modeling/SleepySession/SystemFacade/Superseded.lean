import SleepySession.SystemFacade.Requests

/-!
# Superseded requests

The accepted generations increase, so a call whose generation is not below the
counter is the newest accepted one.  That is what the runner finds before each
start and what `ensure_current` finds after the last command, when the probes
are joined: the commands of a call that have started and not finished are those
that its stage says to be running.
-/

namespace SleepySession
namespace SystemFacade

section Histories

variable {ι : Type}

def FacadeAction.acceptance? : FacadeAction ι → Option (ι × Nat)
  | .accepted c generation => some (c, generation)
  | _ => none

/-- The acceptances of a history, the newest first. -/
def acceptances (history : List (FacadeAction ι)) : List (ι × Nat) :=
  history.filterMap FacadeAction.acceptance?

def newest (history : List (FacadeAction ι)) : Option (ι × Nat) :=
  (acceptances history).head?

/-- At some moment, when all its commands had finished and after which it started none, the
call was the newest accepted one. -/
def StillNewest [DecidableEq ι] (generation : ι → Nat) (c : ι)
    (history : List (FacadeAction ι)) : Prop :=
  ∃ later earlier, history = later ++ earlier ∧
    (∀ action ∈ later, action ≠ .started c ∧ action ≠ .finished c) ∧
    earlier.count (.started c) = earlier.count (.finished c) ∧
    newest earlier = some (c, generation c)

/-- The commands that a call has started and that have not finished. -/
def CallStage.running : CallStage → Nat
  | .probing _ workers => (Finset.univ.filter fun worker => workers worker = .running).card
  | .commanding running => running.toNat
  | _ => 0

/-- The call has accepted its generation and has not returned. -/
def CallStage.Accepted : CallStage → Prop
  | .accepted => True
  | .probing _ _ => True
  | .commanding _ => True
  | .acted => True
  | .ensured _ => True
  | _ => False

/-- The last check of the call has succeeded. -/
def CallStage.Settled : CallStage → Prop
  | .ensured _ => True
  | .returned true => True
  | _ => False

/-- An action of a call other than its acceptance. -/
def FacadeAction.About (c : ι) (action : FacadeAction ι) : Prop :=
  action = .started c ∨ action = .finished c ∨ ∃ success, action = .returned c success

/-- What holds of the calls at any time. -/
structure FacadeRun.Invariant [DecidableEq ι] (generation : ι → Nat) (s : FacadeRun ι) :
    Prop where
  latest : s.latestGeneration = ((newest s.history).map Prod.snd).getD 0
  ordered : (acceptances s.history).Pairwise (fun a b => b.2 < a.2)
  staged : ∀ c, (s.stages c).Accepted → (c, generation c) ∈ acceptances s.history
  started : ∀ later c earlier, s.history = later ++ .started c :: earlier →
    newest earlier = some (c, generation c)
  balanced : ∀ c, s.history.count (.started c) =
    s.history.count (.finished c) + (s.stages c).running
  settled : ∀ c, (s.stages c).Settled → StillNewest generation c s.history
  returned : ∀ c, .returned c true ∈ s.history → s.stages c = .returned true

variable {generation : ι → Nat}

theorem acceptances_cons_of_none
    {action : FacadeAction ι} (h : action.acceptance? = none)
    (history : List (FacadeAction ι)) :
    acceptances (action :: history) = acceptances history := by
  simp [acceptances, h]

theorem FacadeAction.About.acceptance?_eq_none
    {c : ι} {action : FacadeAction ι} (h : action.About c) :
    action.acceptance? = none := by
  rcases h with rfl | rfl | ⟨success, rfl⟩ <;> rfl

section Running

variable {purpose : CheckPurpose} {workers : Fin 11 → ProbeStage} {worker : Fin 11}

theorem running_start_probe (h : workers worker ≠ .running) :
    (CallStage.probing purpose (Function.update workers worker .running)).running =
      (CallStage.probing purpose workers).running + 1 := by
  have hinsert : (Finset.univ.filter fun i =>
      Function.update workers worker .running i = .running) =
      insert worker (Finset.univ.filter fun i => workers i = .running) := by
    ext i
    by_cases hi : i = worker <;> simp [hi, Function.update_of_ne]
  simp only [CallStage.running, hinsert]
  exact Finset.card_insert_of_notMem (by simpa using h)

theorem running_stop_probe (h : workers worker = .running) :
    (CallStage.probing purpose (Function.update workers worker .ready)).running + 1 =
      (CallStage.probing purpose workers).running := by
  have herase : (Finset.univ.filter fun i =>
      Function.update workers worker .ready i = .running) =
      (Finset.univ.filter fun i => workers i = .running).erase worker := by
    ext i
    by_cases hi : i = worker <;> simp [hi, Function.update_of_ne]
  simp only [CallStage.running, herase]
  exact Finset.card_erase_add_one (by simpa using h)

theorem running_probe_done (h : workers worker ≠ .running) :
    (CallStage.probing purpose (Function.update workers worker .done)).running =
      (CallStage.probing purpose workers).running := by
  have hsame : (Finset.univ.filter fun i =>
      Function.update workers worker .done i = .running) =
      Finset.univ.filter fun i => workers i = .running := by
    ext i
    by_cases hi : i = worker <;> simp [hi, Function.update_of_ne, h]
  simp only [CallStage.running, hsame]

/-- The probes are joined. -/
theorem running_joined (h : ∀ worker, workers worker = .done) :
    (CallStage.probing purpose workers).running = 0 := by
  simp [CallStage.running, h]

@[simp]
theorem running_allReady : (CallStage.probing purpose allReady).running = 0 := by
  simp [CallStage.running, allReady]

end Running

variable [DecidableEq ι]

theorem StillNewest.cons
    {c : ι} {history : List (FacadeAction ι)} {action : FacadeAction ι}
    (h : StillNewest generation c history)
    (hstarted : action ≠ .started c) (hfinished : action ≠ .finished c) :
    StillNewest generation c (action :: history) := by
  obtain ⟨later, earlier, rfl, hlater, hbalanced, hnewest⟩ := h
  refine ⟨action :: later, earlier, rfl, fun a ha => ?_, hbalanced, hnewest⟩
  rcases List.mem_cons.mp ha with rfl | ha
  · exact ⟨hstarted, hfinished⟩
  · exact hlater a ha

/-- What another call does leaves the commands of a call as they are. -/
theorem FacadeAction.About.count_eq {c c' : ι} {action : FacadeAction ι} (h : action.About c)
    (hne : c' ≠ c) (history : List (FacadeAction ι)) :
    (action :: history).count (.started c') = history.count (.started c') ∧
      (action :: history).count (.finished c') = history.count (.finished c') := by
  rcases h with rfl | rfl | ⟨success, rfl⟩ <;> simp [Ne.symm hne]

/-- An accepted call whose generation is not below the counter is the newest one. -/
theorem FacadeRun.Invariant.newest_of_current
    {s : FacadeRun ι} {c : ι}
    (hs : s.Invariant generation)
    (haccepted : (s.stages c).Accepted)
    (hcurrent : ¬ generation c < s.latestGeneration) :
    newest s.history = some (c, generation c) := by
  have hmem := hs.staged c haccepted
  have hlatest := hs.latest
  have hordered := hs.ordered
  unfold newest at hlatest ⊢
  cases hlist : acceptances s.history with
  | nil => simp [hlist] at hmem
  | cons first rest =>
      rw [hlist] at hmem hlatest hordered
      simp only [List.head?_cons, Option.map_some, Option.getD_some] at hlatest
      rcases List.mem_cons.mp hmem with hfirst | hrest
      · rw [← hfirst]
        rfl
      · have := (List.pairwise_cons.mp hordered).1 _ hrest
        simp only at this
        omega

/-- A call moves on without accepting anything. -/
theorem FacadeRun.Invariant.advance
    {s : FacadeRun ι}
    (hs : s.Invariant generation)
    (c : ι) (stage : CallStage) (action : Option (FacadeAction ι))
    (habout : ∀ a ∈ action, a.About c)
    (hactive : s.stages c ≠ .returned true)
    (hstarted : .started c ∈ action → newest s.history = some (c, generation c))
    (hreturned : .returned c true ∈ action → stage = .returned true)
    (haccepted : stage.Accepted → (c, generation c) ∈ acceptances s.history)
    (hbalanced : (action.toList ++ s.history).count (.started c) =
      (action.toList ++ s.history).count (.finished c) + stage.running)
    (hsettled : stage.Settled → StillNewest generation c s.history ∧
      .started c ∉ action ∧ .finished c ∉ action) :
    FacadeRun.Invariant generation
      { s with
        stages := Function.update s.stages c stage
        history := action.toList ++ s.history } := by
  have hacceptances : acceptances (action.toList ++ s.history) = acceptances s.history := by
    cases action with
    | none => rfl
    | some a => exact acceptances_cons_of_none (habout a rfl).acceptance?_eq_none s.history
  have hnewest : newest (action.toList ++ s.history) = newest s.history := by
    rw [newest, newest, hacceptances]
  refine ⟨?_, ?_, ?_, ?_, ?_, ?_, ?_⟩
  · simp only [hnewest]
    exact hs.latest
  · simp only [hacceptances]
    exact hs.ordered
  · intro c' h
    simp only [hacceptances]
    by_cases hc : c' = c
    · subst hc
      exact haccepted (by simpa using h)
    · exact hs.staged c' (by simpa [Function.update_of_ne hc] using h)
  · intro later c' earlier h
    cases action with
    | none => exact hs.started later c' earlier h
    | some a =>
        cases later with
        | nil =>
            obtain ⟨ha, hhistory⟩ := List.cons.inj h
            have hc : c' = c := by
              rcases habout a rfl with rfl | rfl | ⟨success, rfl⟩
              · cases ha
                rfl
              · cases ha
              · cases ha
            subst hc
            rw [← hhistory]
            exact hstarted (by simp [ha])
        | cons b later =>
            obtain ⟨-, hhistory⟩ := List.cons.inj h
            exact hs.started later c' earlier hhistory
  · intro c'
    by_cases hc : c' = c
    · subst hc
      simpa using hbalanced
    · simp only [Function.update_of_ne hc]
      cases action with
      | none => exact hs.balanced c'
      | some a =>
          obtain ⟨hstarted', hfinished'⟩ := (habout a rfl).count_eq hc s.history
          exact (hstarted'.trans (hs.balanced c')).trans
            (congrArg (· + (s.stages c').running) hfinished'.symm)
  · intro c' h
    by_cases hc : c' = c
    · subst hc
      obtain ⟨hstill, hnot, hnot'⟩ := hsettled (by simpa using h)
      cases action with
      | none => exact hstill
      | some a =>
          exact hstill.cons (fun ha => hnot (by simp [ha])) (fun ha => hnot' (by simp [ha]))
    · have hstill := hs.settled c' (by simpa [Function.update_of_ne hc] using h)
      cases action with
      | none => exact hstill
      | some a =>
          refine hstill.cons ?_ ?_ <;> rintro rfl <;>
            rcases habout _ rfl with ha | ha | ⟨success, ha⟩ <;> cases ha <;> exact hc rfl
  · intro c' h
    rcases List.mem_append.mp h with h | h
    · have hmem : .returned c' true ∈ action := by simpa using h
      have hc : c' = c := by
        rcases habout _ hmem with ha | ha | ⟨success, ha⟩ <;> cases ha
        rfl
      subst hc
      simpa using hreturned hmem
    · have hold := hs.returned c' h
      have hc : c' ≠ c := fun hc => hactive (hc ▸ hold)
      simpa [Function.update_of_ne hc] using hold

/-- A call wins the compare-and-exchange. -/
theorem FacadeRun.Invariant.accept
    {s : FacadeRun ι}
    (hs : s.Invariant generation)
    (c : ι)
    (hactive : s.stages c ≠ .returned true)
    (hidle : (s.stages c).running = 0)
    (hlt : s.latestGeneration < generation c) :
    FacadeRun.Invariant generation
      { latestGeneration := generation c
        stages := Function.update s.stages c .accepted
        history := .accepted c (generation c) :: s.history } := by
  have hacceptances : acceptances (.accepted c (generation c) :: s.history) =
      (c, generation c) :: acceptances s.history := rfl
  refine ⟨rfl, ?_, ?_, ?_, ?_, ?_, ?_⟩
  · rw [hacceptances]
    refine List.pairwise_cons.mpr ⟨fun b hb => ?_, hs.ordered⟩
    have hlatest := hs.latest
    have hordered := hs.ordered
    unfold newest at hlatest
    cases hlist : acceptances s.history with
    | nil => simp [hlist] at hb
    | cons first rest =>
        rw [hlist] at hb hlatest hordered
        simp only [List.head?_cons, Option.map_some, Option.getD_some] at hlatest
        rcases List.mem_cons.mp hb with rfl | hb
        · simpa [← hlatest] using hlt
        · have := (List.pairwise_cons.mp hordered).1 _ hb
          simp only
          omega
  · intro c' h
    rw [hacceptances]
    by_cases hc : c' = c
    · subst hc
      exact List.mem_cons_self
    · exact List.mem_cons_of_mem _
        (hs.staged c' (by simpa [Function.update_of_ne hc] using h))
  · intro later c' earlier h
    cases later with
    | nil =>
        obtain ⟨ha, -⟩ := List.cons.inj h
        cases ha
    | cons b later =>
        obtain ⟨-, hhistory⟩ := List.cons.inj h
        exact hs.started later c' earlier hhistory
  · intro c'
    have hold := hs.balanced c'
    by_cases hc : c' = c
    · subst hc
      rw [hidle] at hold
      simpa [CallStage.running] using hold
    · simpa [Function.update_of_ne hc] using hold
  · intro c' h
    by_cases hc : c' = c
    · subst hc
      simp [CallStage.Settled] at h
    · exact (hs.settled c' (by simpa [Function.update_of_ne hc] using h)).cons
        (fun ha => by cases ha) (fun ha => by cases ha)
  · intro c' h
    have hold := hs.returned c' (by simpa using h)
    have hc : c' ≠ c := fun hc => hactive (hc ▸ hold)
    simpa [Function.update_of_ne hc] using hold

end Histories

section Runs

variable {ι : Type} [DecidableEq ι] {request : ι → FacadeRequest} {generation : ι → Nat}
variable {s s' : FacadeRun ι} {c : ι}

/-- A call goes on to a stage in which as many of its commands run. -/
theorem FacadeRun.Invariant.setStage (hs : s.Invariant generation) (c : ι) (stage : CallStage)
    (hactive : s.stages c ≠ .returned true)
    (hrunning : stage.running = (s.stages c).running)
    (haccepted : stage.Accepted → (c, generation c) ∈ acceptances s.history)
    (hsettled : stage.Settled → StillNewest generation c s.history) :
    (s.setStage c stage).Invariant generation :=
  hs.advance c stage none (by simp) hactive (by simp) (by simp) haccepted
    (hrunning ▸ hs.balanced c) (fun h => ⟨hsettled h, by simp, by simp⟩)

/-- A command of an accepted call starts, which is the newest one. -/
theorem FacadeRun.Invariant.startCommand (hs : s.Invariant generation) (c : ι)
    (stage : CallStage) (hactive : (s.stages c).Accepted)
    (hnewest : newest s.history = some (c, generation c))
    (hrunning : stage.running = (s.stages c).running + 1) (hsettled : ¬ stage.Settled) :
    ((s.setStage c stage).log (.started c)).Invariant generation := by
  refine hs.advance c stage (some (.started c)) ?_ ?_ (fun _ => hnewest) (by simp)
    (fun _ => hs.staged c hactive) ?_ (fun h => absurd h hsettled)
  · rintro a ha
    cases ha
    exact Or.inl rfl
  · intro hstage
    simp [hstage, CallStage.Accepted] at hactive
  · have hbalanced := hs.balanced c
    simp only [Option.toList_some, List.singleton_append, List.count_cons_self,
      List.count_cons_of_ne (show FacadeAction.started c ≠ .finished c by simp)]
    omega

/-- A command of an accepted call ends. -/
theorem FacadeRun.Invariant.finishCommand (hs : s.Invariant generation) (c : ι)
    (stage : CallStage) (hactive : (s.stages c).Accepted)
    (hrunning : stage.running + 1 = (s.stages c).running) (hsettled : ¬ stage.Settled) :
    ((s.setStage c stage).log (.finished c)).Invariant generation := by
  refine hs.advance c stage (some (.finished c)) ?_ ?_ (by simp) (by simp)
    (fun _ => hs.staged c hactive) ?_ (fun h => absurd h hsettled)
  · rintro a ha
    cases ha
    exact Or.inr (Or.inl rfl)
  · intro hstage
    simp [hstage, CallStage.Accepted] at hactive
  · have hbalanced := hs.balanced c
    simp only [Option.toList_some, List.singleton_append, List.count_cons_self,
      List.count_cons_of_ne (show FacadeAction.finished c ≠ .started c by simp)]
    omega

/-- A call returns, while none of its commands runs. -/
theorem FacadeRun.Invariant.finish (hs : s.Invariant generation) (c : ι) (success : Bool)
    (hactive : s.stages c ≠ .returned true) (hidle : (s.stages c).running = 0)
    (hsettled : success = true → StillNewest generation c s.history) :
    (s.finish c success).Invariant generation := by
  refine hs.advance c _ (some (.returned c success)) ?_ hactive (by simp) ?_ ?_ ?_ ?_
  · rintro a ha
    cases ha
    exact Or.inr (Or.inr ⟨success, rfl⟩)
  · intro h
    simp only [Option.mem_some_iff, FacadeAction.returned.injEq] at h
    rw [h.2]
  · intro h
    cases success <;> simp [CallStage.Accepted] at h
  · have hbalanced := hs.balanced c
    rw [hidle] at hbalanced
    simpa [CallStage.running] using hbalanced
  · intro h
    cases success with
    | false => simp [CallStage.Settled] at h
    | true => exact ⟨hsettled rfl, by simp, by simp⟩

/-- `ensure_current` has found no newer generation, while none of the commands runs. -/
theorem FacadeRun.Invariant.stillNewest (hs : s.Invariant generation)
    (haccepted : (s.stages c).Accepted) (hidle : (s.stages c).running = 0)
    (hcurrent : ¬ generation c < s.latestGeneration) :
    StillNewest generation c s.history := by
  have hbalanced := hs.balanced c
  rw [hidle, Nat.add_zero] at hbalanced
  exact ⟨[], s.history, rfl, by simp, hbalanced, hs.newest_of_current haccepted hcurrent⟩

namespace FacadeRun.Invariant

theorem afterLoad (hs : s.Invariant generation)
    (h : s.after request generation (.load c) = some s') : s'.Invariant generation := by
  unfold FacadeRun.after at h
  dsimp only at h
  split at h
  · rename_i hstage
    split at h <;> cases h
    · exact hs.finish c false (by simp [hstage]) (by simp [hstage, CallStage.running]) (by simp)
    · exact hs.setStage c _ (by simp [hstage]) (by simp [hstage, CallStage.running])
        (by simp [CallStage.Accepted]) (by simp [CallStage.Settled])
  · cases h

theorem afterExchange (hs : s.Invariant generation)
    (h : s.after request generation (.exchange c) = some s') : s'.Invariant generation := by
  unfold FacadeRun.after at h
  dsimp only at h
  split at h
  · rename_i current hstage
    have hidle : (s.stages c).running = 0 := by simp [hstage, CallStage.running]
    split at h
    · cases h
      exact hs.finish c false (by simp [hstage]) hidle (by simp)
    · rename_i hnewer
      split at h <;> cases h
      · rename_i hcurrent
        exact hs.accept c (by simp [hstage]) hidle (by omega)
      · exact hs.setStage c _ (by simp [hstage]) (by simp [hstage, CallStage.running])
          (by simp [CallStage.Accepted]) (by simp [CallStage.Settled])
  · cases h

theorem afterDispatch {success : Bool} (hs : s.Invariant generation)
    (h : s.after request generation (.dispatch c success) = some s') :
    s'.Invariant generation := by
  unfold FacadeRun.after at h
  dsimp only at h
  split at h
  · rename_i hstage
    have haccepted : (s.stages c).Accepted := by simp [hstage, CallStage.Accepted]
    have hactive : s.stages c ≠ .returned true := by simp [hstage]
    have hidle : (s.stages c).running = 0 := by simp [hstage, CallStage.running]
    -- the work up to the first command or probe
    have hnext : ∀ stage : CallStage, stage.running = 0 → ¬ stage.Settled →
        (s.setStage c stage).Invariant generation := fun stage hrunning hsettled =>
      hs.setStage c stage hactive (hrunning.trans hidle.symm) (fun _ => hs.staged c haccepted)
        (fun h => absurd h hsettled)
    have hfailed := hs.finish c false hactive hidle (by simp)
    split at h
    · cases h
      exact hnext _ (by simp) (by simp [CallStage.Settled])
    · cases h
      exact hnext _ (by simp) (by simp [CallStage.Settled])
    · split at h <;> cases h
      · exact hnext _ (by simp [CallStage.running]) (by simp [CallStage.Settled])
      · exact hfailed
    · split at h <;> cases h
      · exact hnext _ (by simp [CallStage.running]) (by simp [CallStage.Settled])
      · exact hfailed
  · cases h

/-- A probe starts a command only for the newest call. -/
theorem afterRunProbe {worker : Fin 11} (hs : s.Invariant generation)
    (h : s.after request generation (.runProbe c worker) = some s') :
    s'.Invariant generation := by
  unfold FacadeRun.after at h
  dsimp only at h
  split at h
  · rename_i purpose workers hstage
    have haccepted : (s.stages c).Accepted := by simp [hstage, CallStage.Accepted]
    split at h
    · rename_i hready
      split at h <;> cases h
      · exact hs
      · rename_i hcurrent
        exact hs.startCommand c _ haccepted (hs.newest_of_current haccepted hcurrent)
          (by rw [hstage, running_start_probe (by simp [hready])]) (by simp [CallStage.Settled])
    · cases h
  · cases h

theorem afterFinishProbe {worker : Fin 11} (hs : s.Invariant generation)
    (h : s.after request generation (.finishProbe c worker) = some s') :
    s'.Invariant generation := by
  unfold FacadeRun.after at h
  dsimp only at h
  split at h
  · rename_i purpose workers hstage
    split at h
    · rename_i hrunning
      cases h
      exact hs.finishCommand c _ (by simp [hstage, CallStage.Accepted])
        (by rw [hstage, running_stop_probe hrunning]) (by simp [CallStage.Settled])
    · cases h
  · cases h

theorem afterProbeDone {worker : Fin 11} (hs : s.Invariant generation)
    (h : s.after request generation (.probeDone c worker) = some s') :
    s'.Invariant generation := by
  unfold FacadeRun.after at h
  dsimp only at h
  split at h
  · rename_i purpose workers hstage
    split at h
    · rename_i hready
      cases h
      exact hs.setStage c _ (by simp [hstage])
        (by rw [hstage, running_probe_done (by simp [hready])])
        (fun _ => hs.staged c (by simp [hstage, CallStage.Accepted]))
        (by simp [CallStage.Settled])
    · cases h
  · cases h

/-- The command of a mutation or an action starts only for the newest call. -/
theorem afterRunCommand (hs : s.Invariant generation)
    (h : s.after request generation (.runCommand c) = some s') : s'.Invariant generation := by
  unfold FacadeRun.after at h
  dsimp only at h
  split at h
  · rename_i hstage
    have haccepted : (s.stages c).Accepted := by simp [hstage, CallStage.Accepted]
    split at h <;> cases h
    · exact hs
    · rename_i hcurrent
      exact hs.startCommand c _ haccepted (hs.newest_of_current haccepted hcurrent)
        (by simp [hstage, CallStage.running]) (by simp [CallStage.Settled])
  · cases h

theorem afterFinishCommand (hs : s.Invariant generation)
    (h : s.after request generation (.finishCommand c) = some s') : s'.Invariant generation := by
  unfold FacadeRun.after at h
  dsimp only at h
  split at h
  · rename_i hstage
    cases h
    exact hs.finishCommand c _ (by simp [hstage, CallStage.Accepted])
      (by simp [hstage, CallStage.running]) (by simp [CallStage.Settled])
  · cases h

theorem afterCommandResult {success : Bool} (hs : s.Invariant generation)
    (h : s.after request generation (.commandResult c success) = some s') :
    s'.Invariant generation := by
  unfold FacadeRun.after at h
  dsimp only at h
  split at h
  · rename_i hstage
    have haccepted : (s.stages c).Accepted := by simp [hstage, CallStage.Accepted]
    have hactive : s.stages c ≠ .returned true := by simp [hstage]
    have hidle : (s.stages c).running = 0 := by simp [hstage, CallStage.running]
    split at h
    · cases h
      exact hs.setStage c _ hactive (by rw [hidle]; rfl)
        (fun _ => hs.staged c haccepted) (by simp [CallStage.Settled])
    · split at h <;> cases h
      · exact hs.setStage c _ hactive (by rw [hidle, running_allReady]) (fun _ => hs.staged c haccepted)
          (by simp [CallStage.Settled])
      · exact hs.finish c false hactive hidle (by simp)
  · cases h

/-- The last check comes when the probes are joined or the action has answered. -/
theorem afterEnsure (hs : s.Invariant generation)
    (h : s.after request generation (.ensure c) = some s') : s'.Invariant generation := by
  unfold FacadeRun.after at h
  dsimp only at h
  have hchecked : ∀ purpose : CheckPurpose, (s.stages c).Accepted →
      s.stages c ≠ .returned true → (s.stages c).running = 0 →
      (if generation c < s.latestGeneration then some (s.finish c false)
        else some (s.setStage c (.ensured purpose))) = some s' → s'.Invariant generation := by
    intro purpose haccepted hactive hidle hresult
    split at hresult <;> cases hresult
    · exact hs.finish c false hactive hidle (by simp)
    · rename_i hcurrent
      exact hs.setStage c _ hactive (by rw [hidle]; rfl)
        (fun _ => hs.staged c haccepted) (fun _ => hs.stillNewest haccepted hidle hcurrent)
  split at h
  · rename_i purpose workers hstage
    split at h
    · rename_i hdone
      exact hchecked purpose (by simp [hstage, CallStage.Accepted]) (by simp [hstage])
        (by rw [hstage, running_joined hdone]) h
    · cases h
  · rename_i hstage
    exact hchecked .action (by simp [hstage, CallStage.Accepted]) (by simp [hstage])
      (by simp [hstage, CallStage.running]) h
  · cases h

theorem afterConclude {success : Bool} (hs : s.Invariant generation)
    (h : s.after request generation (.conclude c success) = some s') :
    s'.Invariant generation := by
  unfold FacadeRun.after at h
  dsimp only at h
  split at h
  · rename_i hstage
    have hidle : (s.stages c).running = 0 := by simp [hstage, CallStage.running]
    split at h <;> cases h
    · exact hs.setStage c _ (by simp [hstage]) (by rw [hidle]; rfl)
        (fun _ => hs.staged c (by simp [hstage, CallStage.Accepted]))
        (by simp [CallStage.Settled])
    · exact hs.finish c false (by simp [hstage]) hidle (by simp)
  · rename_i purpose hpurpose hstage
    cases h
    exact hs.finish c success (by simp [hstage]) (by simp [hstage, CallStage.running])
      (fun _ => hs.settled c (by simp [hstage, CallStage.Settled]))
  · cases h

/-- The step lemma. -/
theorem after {e : FacadeEvent ι} (hs : s.Invariant generation)
    (h : s.after request generation e = some s') : s'.Invariant generation := by
  cases e with
  | load c => exact hs.afterLoad h
  | exchange c => exact hs.afterExchange h
  | dispatch c success => exact hs.afterDispatch h
  | runProbe c worker => exact hs.afterRunProbe h
  | finishProbe c worker => exact hs.afterFinishProbe h
  | probeDone c worker => exact hs.afterProbeDone h
  | runCommand c => exact hs.afterRunCommand h
  | finishCommand c => exact hs.afterFinishCommand h
  | commandResult c success => exact hs.afterCommandResult h
  | ensure c => exact hs.afterEnsure h
  | conclude c success => exact hs.afterConclude h

end FacadeRun.Invariant

theorem FacadeRun.invariant_start : (FacadeRun.start : FacadeRun ι).Invariant generation where
  latest := rfl
  ordered := List.Pairwise.nil
  staged c h := by simp [FacadeRun.start, CallStage.Accepted] at h
  started later c earlier h := by simp [FacadeRun.start] at h
  balanced c := rfl
  settled c h := by simp [FacadeRun.start, CallStage.Settled] at h
  returned c h := by simp [FacadeRun.start] at h

theorem FacadeRun.invariant_of_reachable (h : (facadeSystem request generation).Reachable s) :
    s.Invariant generation := by
  refine h.invariant (fun s hs => ?_) (fun s e s' hs hstep => hs.after hstep)
  cases hs
  exact FacadeRun.invariant_start

/--
The generations increase in the order of acceptance; a command starts only
while its call is the newest accepted one, which a call that was not accepted
never is; and a call that has returned a success was the newest accepted one at
some moment when each of its commands had finished and after which it started
no further one.
-/
theorem superseded_requests_stop (h : (facadeSystem request generation).Reachable s) :
    (acceptances s.history).Pairwise (fun later earlier => earlier.2 < later.2) ∧
    (∀ c, .started c ∈ s.history → .accepted c (generation c) ∈ s.history) ∧
    (∀ later c earlier, s.history = later ++ .started c :: earlier →
      newest earlier = some (c, generation c)) ∧
    ∀ c, .returned c true ∈ s.history → StillNewest generation c s.history := by
  have hs := FacadeRun.invariant_of_reachable h
  refine ⟨hs.ordered, fun c hc => ?_, hs.started, fun c hc => ?_⟩
  · obtain ⟨later, earlier, hsplit⟩ := List.append_of_mem hc
    have hnewest := hs.started later c earlier hsplit
    have hmem : (c, generation c) ∈ acceptances earlier := List.mem_of_head? hnewest
    obtain ⟨action, haction, heq⟩ := List.mem_filterMap.mp hmem
    cases action with
    | accepted c' g =>
        simp only [FacadeAction.acceptance?, Option.some.injEq, Prod.mk.injEq] at heq
        obtain ⟨rfl, rfl⟩ := heq
        rw [hsplit]
        exact List.mem_append_right _ (List.mem_cons_of_mem _ haction)
    | started c' => cases heq
    | finished c' => cases heq
    | returned c' success => cases heq
  · exact hs.settled c (by rw [hs.returned c hc]; trivial)

end Runs

section Sample

/-- An action is overtaken by a second one while its command runs. -/
def overtakenEvents : List (FacadeEvent Nat) :=
  [.load 0, .exchange 0, .dispatch 0 true, .runCommand 0, .load 1, .exchange 1, .dispatch 1 true,
    .finishCommand 0, .commandResult 0 true, .ensure 0, .runCommand 1, .finishCommand 1,
    .commandResult 1 true, .ensure 1, .conclude 1 true]

theorem superseded_requests_stop_overtaken :
    ∃ s : FacadeRun Nat,
      System.replay (fun s e => s.after (fun _ => .perform) (· + 1) e) .start overtakenEvents =
        some s ∧
      s.stages 0 = .returned false ∧ s.stages 1 = .returned true ∧
      (∀ c, .started c ∈ s.history → .accepted c (c + 1) ∈ s.history) ∧
      StillNewest (· + 1) 1 s.history := by
  have hrun : ((System.replay (fun s e => s.after (fun _ => .perform) (· + 1) e) .start
      overtakenEvents).any fun s : FacadeRun Nat =>
        decide (s.stages 0 = .returned false) && decide (s.stages 1 = .returned true) &&
          decide (.returned 1 true ∈ s.history)) = true := by
    decide
  obtain ⟨s, hs, hstages⟩ := (Option.any_eq_true _ _).mp hrun
  have hreachable : (facadeSystem (ι := Nat) (fun _ => .perform) (· + 1)).Reachable s :=
    System.reachable_replay (.initial rfl) hs
  simp only [Bool.and_eq_true, decide_eq_true_eq] at hstages
  have hlaws := superseded_requests_stop hreachable
  exact ⟨s, hs, hstages.1.1, hstages.1.2, hlaws.2.1, hlaws.2.2.2 1 hstages.2⟩

end Sample

end SystemFacade
end SleepySession
