import SleepySession.Desktop.Shutdown

/-!
# Shutdown reaches every producer worker

A slot is cancelled under its lock, after its token, so that a wrapper either
finds the token cancelled or has its attempt in the slot in time.  A tracker is
swept under its lock, after its flag, so that a worker either is in the list or
registers after the flag.  The invariant records both crossings, and what the
phases of shutdown have already seen.
-/

set_option linter.unusedSectionVars false

namespace SleepySession
namespace Producers

variable {κ : Type} [DecidableEq κ] {r : Registry κ} {s s' : State κ}

section Invariants

/-- The owners whose own token is cancelled. -/
def TokensDone (s : State κ) : Prop :=
  match s.phase with
  | .idle => True
  | .tokens todo => ∀ o, o ∉ todo → s.token o = true
  | .children _ todo => ∀ o, o ∉ todo → s.token o = true
  | _ => ∀ o, s.token o = true

/-- The owners that a cancelling pass has dealt with. -/
def PassDone (s : State κ) : Prop :=
  match s.phase with
  | .idle => True
  | .tokens _ => True
  | .children _ _ => True
  | .cancelling part todo none =>
      (∀ o, o ∉ todo → s.slotDone o = true ∧ s.sweepDone o = true) ∧
      (part ≠ .slot → ∀ o, todo.head? = some o → s.slotDone o = true) ∧
      (part = .sweep → ∀ o, todo.head? = some o → s.flag o = true)
  | _ => ∀ o, s.slotDone o = true ∧ s.sweepDone o = true

/-- The wrappers that have been joined. -/
def JoinDone (s : State κ) : Prop :=
  match s.phase with
  | .joining todo => ∀ k, k ∉ todo → (s.wrapper (some k)).stopped = true
  | .cancelling _ _ (some rest) => ∀ k, k ∉ rest → (s.wrapper (some k)).stopped = true
  | .reaping todo => ∀ k, k ∉ todo → (s.wrapper (some k)).stopped = true
  | .aggregator => ∀ k, (s.wrapper (some k)).stopped = true
  | .draining _ =>
      (∀ k, (s.wrapper (some k)).stopped = true) ∧ s.stage none 0 = .ended
  | .returned =>
      (∀ k, (s.wrapper (some k)).stopped = true) ∧ s.stage none 0 = .ended
  | _ => True

/-- No registered worker of the owner is running. -/
def AllFinished (s : State κ) (o : Option κ) : Prop :=
  ∀ w x, s.workers w = some x → x.owner = o → x.registered = true → x.finished = true

/-- The trackers that have been drained. -/
def DrainDone (s : State κ) : Prop :=
  match s.phase with
  | .draining todo => s.abortedLive = false → ∀ o, o ∉ todo → AllFinished s o
  | .returned => s.abortedLive = false → ∀ o, AllFinished s o
  | _ => True

/-- Attempts and wrappers. -/
structure AttemptsOk (s : State κ) : Prop where
  fresh : ∀ o id, s.nextId o ≤ id → s.stage o id = .absent
  issued : ∀ o id, s.active o = some id → id < s.nextId o
  live : ∀ o id, (s.stage o id).live = true → s.active o = some id
  awaited : s.abortedLive = false → ∀ o id, (s.stage o id).live = true →
    s.wrapper o = .awaiting id
  idle : ∀ o, (s.wrapper o).idle = true → s.active o = none
  awaiting : ∀ o id, s.wrapper o = .awaiting id → s.active o = some id
  finishing : ∀ o id, s.wrapper o = .finishing id → s.active o = some id
  ended : ∀ o id, s.wrapper o = .finishing id → s.stage o id = .ended
  aggregator : s.active none = some 0

/-- The list of a tracker and the workers on their way to it. -/
structure WorkersOk (s : State κ) : Prop where
  locked : ∀ o id w seen, s.stage o id = .registering w seen → s.lock o = some id
  spawned : ∀ o id w, s.stage o id = .spawned w →
    s.workers w = some ⟨o, id, false, s.isFinished w⟩
  registering : ∀ o id w seen, s.stage o id = .registering w seen →
    s.workers w = some ⟨o, id, false, s.isFinished w⟩
  listed : ∀ w x, s.workers w = some x → x.registered = true →
    x.finished = true ∨ ⟨w, x.attempt⟩ ∈ s.tasks x.owner

/-- What has been cancelled. -/
structure CancelsOk (s : State κ) : Prop where
  slot : ∀ o, s.slotDone o = true → s.token o = true
  starting : ∀ o, s.slotDone o = true → s.wrapper o ≠ .starting
  active : ∀ o id, s.slotDone o = true → s.active o = some id →
    s.contextToken o id = true ∧ s.blocking o id = true
  flag : ∀ o, s.sweepDone o = true → s.flag o = true
  swept : ∀ o t, s.sweepDone o = true → t ∈ s.tasks o → s.blocking o t.attempt = true
  seen : ∀ o id w seen, s.sweepDone o = true → s.stage o id = .registering w seen →
    seen = true
  order : ∀ o, s.sweepDone o = true → s.slotDone o = true

structure Invariant (s : State κ) : Prop where
  attempts : AttemptsOk s
  workers : WorkersOk s
  cancels : CancelsOk s
  tokens : TokensDone s
  pass : PassDone s
  join : JoinDone s
  drain : DrainDone s

end Invariants

section Updates

/-- One place of a function of two arguments. -/
theorem update_update_apply
    {α : Type} (f : Option κ → Nat → α) (o o' : Option κ) (id id' : Nat) (x : α) :
    Function.update f o (Function.update (f o) id x) o' id' =
      if o' = o ∧ id' = id then x else f o' id' := by
  by_cases ho : o' = o
  · subst ho
    by_cases hid : id' = id
    · simp [hid]
    · simp [hid]
  · simp [ho]

theorem update_apply_apply
    {α : Type} (f : Option κ → Nat → α) (o o' : Option κ) (g : Nat → α) (id : Nat) :
    Function.update f o g o' id = if o' = o then g id else f o' id := by
  by_cases ho : o' = o
  · simp [ho]
  · simp [ho]

end Updates

section Attempts

theorem AttemptsOk.of_same
    (h : AttemptsOk s)
    (hnext : s'.nextId = s.nextId) (hstage : s'.stage = s.stage)
    (hactive : s'.active = s.active) (hwrapper : s'.wrapper = s.wrapper)
    (haborted : s'.abortedLive = s.abortedLive) :
    AttemptsOk s' := by
  obtain ⟨h₁, h₂, h₃, h₄, h₅, h₆, h₇, h₈, h₉⟩ := h
  constructor
  · rwa [hnext, hstage]
  · rwa [hactive, hnext]
  · rwa [hstage, hactive]
  · rwa [haborted, hstage, hwrapper]
  · rwa [hwrapper, hactive]
  · rwa [hwrapper, hactive]
  · rwa [hwrapper, hactive]
  · rwa [hwrapper, hstage]
  · rwa [hactive]

/-- An attempt that is live moves on, or ends. -/
theorem AttemptsOk.setStage
    (h : AttemptsOk s) {o : Option κ} {id : Nat} {x : Stage}
    (hlive : (s.stage o id).live = true) :
    AttemptsOk (s.setStage o id x) := by
  obtain ⟨hfresh, hissued, hactive, hawaited, hidle, hawaiting, hfinishing, hended, hagg⟩ := h
  constructor <;> dsimp only [State.setStage] <;>
    (try simp only [update_update_apply]) <;> grind -ring -linarith [Stage.live]

/-- A wrapper moves on between two attempts, or stops there. -/
theorem AttemptsOk.setWrapper
    (h : AttemptsOk s) {k : κ} {x : Wrapper}
    (hold : (s.wrapper (some k)).idle = true)
    (hx : x.idle = true ∨ x.stopped = true) :
    AttemptsOk (s.setWrapper (some k) x) := by
  obtain ⟨hfresh, hissued, hactive, hawaited, hidle, hawaiting, hfinishing, hended, hagg⟩ := h
  constructor <;> dsimp only [State.setWrapper] <;>
    grind -ring -linarith [Function.update_apply, Wrapper.idle, Wrapper.stopped]

theorem AttemptsOk.branchWrapper
    (h : AttemptsOk s) {k : κ} {q : Prop} [Decidable q] {old x y : Wrapper}
    (hold : s.wrapper (some k) = old) (hidle : old.idle = true)
    (hx : x.idle = true ∨ x.stopped = true) (hy : y.idle = true ∨ y.stopped = true) :
    AttemptsOk (s.setWrapper (some k) (if q then x else y)) := by
  have hbetween : (s.wrapper (some k)).idle = true := by
    rw [hold]
    exact hidle
  split
  · exact h.setWrapper hbetween hx
  · exact h.setWrapper hbetween hy

end Attempts

section AttemptSteps

theorem AttemptsOk.beginSpawn
    (h : AttemptsOk s) {k : κ} (hstarting : s.wrapper (some k) = .starting)
    (hstep : after r s (.beginSpawn k) = some s') :
    AttemptsOk s' := by
  obtain ⟨hfresh, hissued, hactive, hawaited, hidle, hawaiting, hfinishing, hended, hagg⟩ := h
  simp only [after, hstarting, if_true] at hstep
  cases hstep
  constructor <;> dsimp only [State.setWrapper, State.setStage] <;>
    (try simp only [update_update_apply]) <;>
    grind -ring -linarith [Function.update_apply, Wrapper.idle, Stage.live]

theorem AttemptsOk.joined
    (h : AttemptsOk s) {k : κ} {id : Nat} (hawait : s.wrapper (some k) = .awaiting id)
    (hend : s.stage (some k) id = .ended) :
    AttemptsOk (s.setWrapper (some k) (.finishing id)) := by
  obtain ⟨hfresh, hissued, hactive, hawaited, hidle, hawaiting, hfinishing, hended, hagg⟩ := h
  constructor <;> dsimp only [State.setWrapper] <;>
    grind -ring -linarith [Function.update_apply, Wrapper.idle, Stage.live]

theorem AttemptsOk.finish
    (h : AttemptsOk s) {k : κ} (hstep : after r s (.finish k) = some s') :
    AttemptsOk s' := by
  obtain ⟨hfresh, hissued, hactive, hawaited, hidle, hawaiting, hfinishing, hended, hagg⟩ := h
  unfold after at hstep
  dsimp only at hstep
  split at hstep
  · rename_i id hwrapper
    simp only [hfinishing _ _ hwrapper, if_true] at hstep
    cases hstep
    constructor <;> dsimp only [State.setWrapper, State.cancelContext] <;>
      grind -ring -linarith [Function.update_apply, Wrapper.idle, Stage.live]
  · cases hstep

theorem AttemptsOk.abortWrapper
    (h : AttemptsOk s) (hstep : after r s .abortWrapper = some s') :
    AttemptsOk s' := by
  obtain ⟨hfresh, hissued, hactive, hawaited, hidle, hawaiting, hfinishing, hended, hagg⟩ := h
  unfold after at hstep
  dsimp only at hstep
  split at hstep
  · split at hstep
    · cases hstep
      constructor <;> dsimp only [State.setWrapper, State.awaitsLive] <;>
        grind -ring -linarith [Function.update_apply, Wrapper.idle, Stage.live]
    · cases hstep
  · cases hstep

theorem AttemptsOk.shutdownStep
    (h : AttemptsOk s) (hstep : shutdownStep r s = some s') :
    AttemptsOk s' := by
  unfold Producers.shutdownStep at hstep
  split at hstep <;> (try split at hstep) <;> (try cases hstep) <;>
    first
      | exact h.of_same rfl rfl rfl rfl rfl
      | (split <;> exact h.of_same rfl rfl rfl rfl rfl)

theorem AttemptsOk.cancelBlocking (h : AttemptsOk s) (o : Option κ) (id : Nat) :
    AttemptsOk (s.cancelBlocking o id) :=
  h.of_same rfl rfl rfl rfl rfl

theorem AttemptsOk.after_check
    {o : Option κ} {id : Nat} (h : AttemptsOk s)
    (hstep : after r s (.check o id) = some s') :
    AttemptsOk s' := by
  unfold Producers.after at hstep
  dsimp only at hstep
  split at hstep
  · rename_i hrunning
    cases hstep
    split
    · exact (h.cancelBlocking o id).setStage (by
        show (s.stage o id).live = true
        rw [hrunning]
        rfl)
    · exact h.setStage (by rw [hrunning]; rfl)
  · cases hstep

theorem AttemptsOk.after_spawn
    {o : Option κ} {id w : Nat} (h : AttemptsOk s)
    (hstep : after r s (.spawn o id w) = some s') :
    AttemptsOk s' := by
  unfold Producers.after at hstep
  dsimp only at hstep
  split at hstep
  · rename_i hchecked
    cases hstep
    have hlive : (s.stage o id).live = true := by
      rw [hchecked.1]
      rfl
    exact (h.setStage hlive).of_same rfl rfl rfl rfl rfl
  · cases hstep

theorem AttemptsOk.after_lock
    {o : Option κ} {id : Nat} (h : AttemptsOk s)
    (hstep : after r s (.lock o id) = some s') :
    AttemptsOk s' := by
  unfold Producers.after at hstep
  dsimp only at hstep
  split at hstep
  · rename_i w hspawned
    have hlive : (s.stage o id).live = true := by
      rw [hspawned]
      rfl
    split at hstep
    · cases hstep
      exact (h.setStage hlive).of_same rfl rfl rfl rfl rfl
    · cases hstep
  · cases hstep

theorem AttemptsOk.after_push
    {o : Option κ} {id : Nat} (h : AttemptsOk s)
    (hstep : after r s (.push o id) = some s') :
    AttemptsOk s' := by
  unfold Producers.after at hstep
  dsimp only at hstep
  split at hstep
  · rename_i w seen hregistering
    have hlive : (s.stage o id).live = true := by
      rw [hregistering]
      rfl
    cases hstep
    cases seen with
    | true =>
        exact AttemptsOk.of_same ((h.cancelBlocking o id).setStage hlive)
          rfl rfl rfl rfl rfl
    | false => exact AttemptsOk.of_same (h.setStage hlive) rfl rfl rfl rfl rfl
  · cases hstep

theorem AttemptsOk.after
    {e : Event κ} (h : AttemptsOk s) (hstep : after r s e = some s') :
    AttemptsOk s' := by
  cases e with
  | check o id => exact h.after_check hstep
  | spawn o id w => exact h.after_spawn hstep
  | lock o id => exact h.after_lock hstep
  | push o id => exact h.after_push hstep
  | workerFinished w =>
      unfold Producers.after at hstep
      dsimp only at hstep
      split at hstep
      · cases hstep
        exact h.of_same rfl rfl rfl rfl rfl
      · cases hstep
  | attemptEnded o id =>
      unfold Producers.after at hstep
      dsimp only at hstep
      split at hstep
      · rename_i hrunning
        cases hstep
        exact h.setStage (by rw [hrunning]; rfl)
      · cases hstep
  | loop k =>
      unfold Producers.after at hstep
      dsimp only at hstep
      split at hstep
      · rename_i hwrapper
        cases hstep
        exact h.branchWrapper hwrapper rfl (.inr rfl) (.inl rfl)
      · cases hstep
  | beginLock k =>
      unfold Producers.after at hstep
      dsimp only at hstep
      split at hstep
      · rename_i hwrapper
        cases hstep
        exact h.branchWrapper hwrapper rfl (.inr rfl) (.inl rfl)
      · cases hstep
  | beginSpawn k =>
      by_cases hstarting : s.wrapper (some k) = .starting
      · exact h.beginSpawn hstarting hstep
      · simp [Producers.after, hstarting] at hstep
  | joined k =>
      unfold Producers.after at hstep
      dsimp only at hstep
      split at hstep
      · rename_i id hwrapper
        split at hstep
        · rename_i hend
          cases hstep
          exact h.joined hwrapper hend
        · cases hstep
      · cases hstep
  | finish k => exact h.finish hstep
  | report k =>
      unfold Producers.after at hstep
      dsimp only at hstep
      split at hstep
      · rename_i hwrapper
        cases hstep
        exact h.branchWrapper hwrapper rfl (.inr rfl) (.inl rfl)
      · cases hstep
  | sent k delivered =>
      unfold Producers.after at hstep
      dsimp only at hstep
      split at hstep
      · rename_i hwrapper
        cases hstep
        exact h.branchWrapper hwrapper rfl (.inl rfl) (.inr rfl)
      · cases hstep
  | backoff k =>
      unfold Producers.after at hstep
      dsimp only at hstep
      split at hstep
      · rename_i hwrapper
        cases hstep
        exact h.branchWrapper hwrapper rfl (.inr rfl) (.inl rfl)
      · cases hstep
  | shutdown =>
      unfold Producers.after at hstep
      dsimp only at hstep
      split at hstep
      · cases hstep
        exact h.of_same rfl rfl rfl rfl rfl
      · cases hstep
  | step => exact h.shutdownStep hstep
  | timeout =>
      unfold Producers.after at hstep
      dsimp only at hstep
      split at hstep
      · cases hstep
        exact h.of_same rfl rfl rfl rfl rfl
      · cases hstep
  | abortWrapper => exact h.abortWrapper hstep

end AttemptSteps

section WorkerSteps

theorem WorkersOk.of_same
    (h : WorkersOk s)
    (hstage : s'.stage = s.stage) (hlock : s'.lock = s.lock)
    (hworkers : s'.workers = s.workers) (htasks : s'.tasks = s.tasks) :
    WorkersOk s' := by
  have hfinished : ∀ w, s'.isFinished w = s.isFinished w := by
    intro w
    simp only [State.isFinished, hworkers]
  obtain ⟨h₁, h₂, h₃, h₄⟩ := h
  constructor
  · rwa [hstage, hlock]
  · simpa only [hstage, hworkers, hfinished] using h₂
  · simpa only [hstage, hworkers, hfinished] using h₃
  · rwa [hworkers, htasks]

/-- Only finished workers are taken off a list. -/
theorem WorkersOk.retained
    (h : WorkersOk s) (o : Option κ) :
    ∀ w x, s.workers w = some x → x.registered = true →
      x.finished = true ∨
        ⟨w, x.attempt⟩ ∈ Function.update s.tasks o (s.retain o) x.owner := by
  intro w x hx hregistered
  rcases h.listed w x hx hregistered with hfinished | hmem
  · exact .inl hfinished
  · by_cases hfin : x.finished = true
    · exact .inl hfin
    · right
      by_cases ho : x.owner = o
      · subst ho
        simp [State.retain, State.isFinished, hx, hfin, hmem]
      · simpa [Function.update_of_ne ho] using hmem

theorem WorkersOk.after_check
    {o : Option κ} {id : Nat} (h : WorkersOk s)
    (hstep : after r s (.check o id) = some s') :
    WorkersOk s' := by
  unfold Producers.after at hstep
  dsimp only at hstep
  split at hstep
  · cases hstep
    obtain ⟨hlocked, hspawned, hregistering, hlisted⟩ := h
    split <;> constructor <;>
      dsimp only [State.setStage, State.cancelBlocking, State.isFinished] <;>
      (try simp only [update_update_apply]) <;> grind -ring -linarith [State.isFinished]
  · cases hstep

theorem WorkersOk.after_spawn
    {o : Option κ} {id w : Nat} (h : WorkersOk s)
    (hstep : after r s (.spawn o id w) = some s') :
    WorkersOk s' := by
  unfold Producers.after at hstep
  dsimp only at hstep
  split at hstep
  · cases hstep
    obtain ⟨hlocked, hspawned, hregistering, hlisted⟩ := h
    constructor <;> dsimp only [State.setStage, State.isFinished] <;>
      (try simp only [update_update_apply]) <;>
      grind -ring -linarith [State.isFinished, Function.update_apply]
  · cases hstep

theorem WorkersOk.after_lock
    {o : Option κ} {id : Nat} (h : WorkersOk s)
    (hstep : after r s (.lock o id) = some s') :
    WorkersOk s' := by
  have hretained := h.retained
  unfold Producers.after at hstep
  dsimp only at hstep
  split at hstep
  · split at hstep
    · cases hstep
      obtain ⟨hlocked, hspawned, hregistering, hlisted⟩ := h
      constructor <;> dsimp only [State.setStage, State.isFinished] <;>
        (try simp only [update_update_apply]) <;>
        grind -ring -linarith [State.isFinished, Function.update_apply]
    · cases hstep
  · cases hstep

/-- A task that is registered under the lock is one whose worker was spawned. -/
theorem WorkersOk.after_push
    {o : Option κ} {id : Nat} (h : WorkersOk s)
    (hstep : after r s (.push o id) = some s') :
    WorkersOk s' := by
  unfold Producers.after at hstep
  dsimp only at hstep
  split at hstep
  · rename_i w seen hstage
    cases hstep
    obtain ⟨hlocked, hspawned, hregistering, hlisted⟩ := h
    cases seen <;> constructor <;>
      dsimp only [State.setStage, State.cancelBlocking, State.isFinished] <;>
      (try simp only [update_update_apply]) <;>
      grind -ring -linarith [State.isFinished, Function.update_apply]
  · cases hstep

theorem WorkersOk.after_workerFinished
    {w : Nat} (h : WorkersOk s)
    (hstep : after r s (.workerFinished w) = some s') :
    WorkersOk s' := by
  unfold Producers.after at hstep
  dsimp only at hstep
  split at hstep
  · cases hstep
    obtain ⟨hlocked, hspawned, hregistering, hlisted⟩ := h
    constructor <;> dsimp only [State.isFinished] <;>
      grind -ring -linarith [State.isFinished, Function.update_apply]
  · cases hstep

theorem WorkersOk.after_attemptEnded
    {o : Option κ} {id : Nat} (h : WorkersOk s)
    (hstep : after r s (.attemptEnded o id) = some s') :
    WorkersOk s' := by
  unfold Producers.after at hstep
  dsimp only at hstep
  split at hstep
  · cases hstep
    obtain ⟨hlocked, hspawned, hregistering, hlisted⟩ := h
    constructor <;> dsimp only [State.setStage, State.isFinished] <;>
      (try simp only [update_update_apply]) <;> grind -ring -linarith [State.isFinished]
  · cases hstep

theorem WorkersOk.after_beginSpawn
    {k : κ} (h : WorkersOk s)
    (hstep : after r s (.beginSpawn k) = some s') :
    WorkersOk s' := by
  unfold Producers.after at hstep
  dsimp only at hstep
  split at hstep
  · cases hstep
    obtain ⟨hlocked, hspawned, hregistering, hlisted⟩ := h
    constructor <;> dsimp only [State.setStage, State.setWrapper, State.isFinished] <;>
      (try simp only [update_update_apply]) <;> grind -ring -linarith [State.isFinished]
  · cases hstep

/-- The sweep keeps the tasks that are not finished, and no other step of shutdown touches the workers. -/
theorem WorkersOk.after_step
    (h : WorkersOk s)
    (hstep : after r s .step = some s') :
    WorkersOk s' := by
  have hretained := h.retained
  simp only [Producers.after, shutdownStep] at hstep
  obtain ⟨hlocked, hspawned, hregistering, hlisted⟩ := h
  split at hstep <;> (try split at hstep) <;> (try cases hstep) <;>
    first
      | exact WorkersOk.of_same ⟨hlocked, hspawned, hregistering, hlisted⟩ rfl rfl rfl rfl
      | (split <;>
          exact WorkersOk.of_same ⟨hlocked, hspawned, hregistering, hlisted⟩
            rfl rfl rfl rfl)
      | skip
  · exact ⟨hlocked, hspawned, hregistering, hretained _⟩
  · rename_i hempty
    refine ⟨hlocked, hspawned, hregistering, ?_⟩
    dsimp only
    rw [← hempty.2]
    exact hretained _

theorem WorkersOk.after
    {e : Event κ} (h : WorkersOk s) (hstep : after r s e = some s') :
    WorkersOk s' := by
  cases e with
  | check o id => exact h.after_check hstep
  | spawn o id w => exact h.after_spawn hstep
  | lock o id => exact h.after_lock hstep
  | push o id => exact h.after_push hstep
  | workerFinished w => exact h.after_workerFinished hstep
  | attemptEnded o id => exact h.after_attemptEnded hstep
  | beginSpawn k => exact h.after_beginSpawn hstep
  | step => exact h.after_step hstep
  | loop k =>
      unfold Producers.after at hstep
      dsimp only at hstep
      split at hstep <;> cases hstep
      exact h.of_same rfl rfl rfl rfl
  | beginLock k =>
      unfold Producers.after at hstep
      dsimp only at hstep
      split at hstep <;> cases hstep
      exact h.of_same rfl rfl rfl rfl
  | joined k =>
      unfold Producers.after at hstep
      dsimp only at hstep
      split at hstep
      · split at hstep <;> cases hstep
        exact h.of_same rfl rfl rfl rfl
      · cases hstep
  | finish k =>
      unfold Producers.after at hstep
      dsimp only at hstep
      split at hstep
      · split at hstep <;> cases hstep <;> exact h.of_same rfl rfl rfl rfl
      · cases hstep
  | report k =>
      unfold Producers.after at hstep
      dsimp only at hstep
      split at hstep <;> cases hstep
      exact h.of_same rfl rfl rfl rfl
  | sent k delivered =>
      unfold Producers.after at hstep
      dsimp only at hstep
      split at hstep <;> cases hstep
      exact h.of_same rfl rfl rfl rfl
  | backoff k =>
      unfold Producers.after at hstep
      dsimp only at hstep
      split at hstep <;> cases hstep
      exact h.of_same rfl rfl rfl rfl
  | shutdown =>
      unfold Producers.after at hstep
      dsimp only at hstep
      split at hstep <;> cases hstep
      exact h.of_same rfl rfl rfl rfl
  | timeout =>
      unfold Producers.after at hstep
      dsimp only at hstep
      split at hstep <;> cases hstep
      exact h.of_same rfl rfl rfl rfl
  | abortWrapper =>
      unfold Producers.after at hstep
      dsimp only at hstep
      split at hstep
      · split at hstep <;> cases hstep
        exact h.of_same rfl rfl rfl rfl
      · cases hstep

end WorkerSteps

section CancelSteps

theorem CancelsOk.of_same
    (h : CancelsOk s)
    (htoken : s'.token = s.token) (hactive : s'.active = s.active)
    (hwrapper : s'.wrapper = s.wrapper) (hstage : s'.stage = s.stage)
    (hcontext : s'.contextToken = s.contextToken) (hblocking : s'.blocking = s.blocking)
    (hflag : s'.flag = s.flag) (htasks : s'.tasks = s.tasks)
    (hslot : s'.slotDone = s.slotDone) (hsweep : s'.sweepDone = s.sweepDone) :
    CancelsOk s' := by
  obtain ⟨h₁, h₂, h₃, h₄, h₅, h₆, h₇⟩ := h
  constructor
  · rwa [hslot, htoken]
  · rwa [hslot, hwrapper]
  · rwa [hslot, hactive, hcontext, hblocking]
  · rwa [hsweep, hflag]
  · rwa [hsweep, htasks, hblocking]
  · rwa [hsweep, hstage]
  · rwa [hsweep, hslot]

/-- The wrapper of an owner moves on, but does not get to start an attempt. -/
theorem CancelsOk.setWrapper
    (h : CancelsOk s) {o : Option κ} {x : Wrapper}
    (hx : x = .starting → s.token o = false) :
    CancelsOk (s.setWrapper o x) := by
  obtain ⟨hslot, hstarting, hactive, hflag, hswept, hseen, horder⟩ := h
  constructor <;> dsimp only [State.setWrapper] <;> grind -ring -linarith [Function.update_apply]

/-- What shutdown does to the slots and trackers. -/
theorem CancelsOk.shutdownStep
    (h : CancelsOk s) (hw : WorkersOk s)
    (htokens : TokensDone s) (hpass : PassDone s)
    (hstep : shutdownStep r s = some s') :
    CancelsOk s' := by
  obtain ⟨hslot, hstarting, hactive, hflag, hswept, hseen, horder⟩ := h
  have hsame : CancelsOk s := ⟨hslot, hstarting, hactive, hflag, hswept, hseen, horder⟩
  unfold Producers.shutdownStep at hstep
  split at hstep
  · cases hstep
  · cases hstep
    exact hsame.of_same rfl rfl rfl rfl rfl rfl rfl rfl rfl rfl
  · cases hstep
    constructor <;> dsimp only <;> grind -ring -linarith [Function.update_apply]
  · cases hstep
    constructor <;> dsimp only <;> (try simp only [update_apply_apply]) <;> grind -ring -linarith
  · cases hstep
    exact hsame.of_same rfl rfl rfl rfl rfl rfl rfl rfl rfl rfl
  · cases hstep
    exact hsame.of_same rfl rfl rfl rfl rfl rfl rfl rfl rfl rfl
  · rename_i o todo again hphase
    split at hstep
    · cases hstep
    · rename_i hnot
      cases hstep
      have htoken : ∀ o, s.token o = true := by simpa [TokensDone, hphase] using htokens
      cases hcurrent : s.active o with
      | none =>
          constructor <;> dsimp only [State.cancelContext] <;>
            grind -ring -linarith [Function.update_apply]
      | some id =>
          constructor <;> dsimp only [State.cancelContext] <;>
            (try simp only [update_update_apply]) <;> grind -ring -linarith [Function.update_apply]
  · cases hstep
    constructor <;> dsimp only <;> grind -ring -linarith [Function.update_apply]
  · rename_i o todo again hphase
    split at hstep
    · rename_i hfree
      cases hstep
      have hflagged : s.flag o = true := by
        cases again with
        | none =>
            simp only [PassDone, hphase] at hpass
            exact hpass.2.2 trivial o rfl
        | some rest =>
            simp only [PassDone, hphase] at hpass
            exact hflag o (hpass o).2
      have hslotted : s.slotDone o = true := by
        cases again with
        | none =>
            simp only [PassDone, hphase] at hpass
            exact hpass.2.1 (by simp) o rfl
        | some rest =>
            simp only [PassDone, hphase] at hpass
            exact (hpass o).1
      have hnone : ∀ id w seen, s.stage o id ≠ .registering w seen := by
        intro id w seen hregistering
        have hheld := hw.locked o id w seen hregistering
        rw [hfree] at hheld
        cases hheld
      constructor
      · exact hslot
      · exact hstarting
      · intro o' id hdone hid
        obtain ⟨hcontext, hblocking⟩ := hactive o' id hdone hid
        refine ⟨hcontext, ?_⟩
        by_cases ho : o' = o
        · subst ho
          simp [hblocking]
        · simpa [Function.update_of_ne ho] using hblocking
      · intro o' hdone
        by_cases ho : o' = o
        · subst ho
          exact hflagged
        · exact hflag o' (by simpa [Function.update_of_ne ho] using hdone)
      · intro o' t hdone hmem
        by_cases ho : o' = o
        · subst ho
          have ht : t ∈ s.retain o' := by simpa using hmem
          simp only [Function.update_self, Bool.or_eq_true, List.any_eq_true]
          exact .inr ⟨t, ht, by simp⟩
        · simp only [Function.update_of_ne ho] at hdone hmem ⊢
          exact hswept o' t hdone hmem
      · intro o' id w seen hdone hregistering
        by_cases ho : o' = o
        · subst ho
          exact absurd hregistering (hnone id w seen)
        · exact hseen o' id w seen (by simpa [Function.update_of_ne ho] using hdone)
            hregistering
      · intro o' hdone
        by_cases ho : o' = o
        · subst ho
          exact hslotted
        · exact horder o' (by simpa [Function.update_of_ne ho] using hdone)
    · cases hstep
  all_goals (try split at hstep) <;> (try cases hstep) <;>
    first
      | exact hsame.of_same rfl rfl rfl rfl rfl rfl rfl rfl rfl rfl
      | (constructor <;> dsimp only <;> grind -ring -linarith [Function.update_apply])

theorem CancelsOk.after_check
    {o : Option κ} {id : Nat} (h : CancelsOk s)
    (hstep : after r s (.check o id) = some s') :
    CancelsOk s' := by
  unfold Producers.after at hstep
  dsimp only at hstep
  split at hstep
  · cases hstep
    obtain ⟨hslot, hstarting, hactive, hflag, hswept, hseen, horder⟩ := h
    split <;> constructor <;> dsimp only [State.setStage, State.cancelBlocking] <;>
      (try simp only [update_update_apply]) <;> grind -ring -linarith
  · cases hstep

theorem CancelsOk.after_spawn
    {o : Option κ} {id w : Nat} (h : CancelsOk s)
    (hstep : after r s (.spawn o id w) = some s') :
    CancelsOk s' := by
  unfold Producers.after at hstep
  dsimp only at hstep
  split at hstep
  · cases hstep
    obtain ⟨hslot, hstarting, hactive, hflag, hswept, hseen, horder⟩ := h
    constructor <;> dsimp only [State.setStage] <;>
      (try simp only [update_update_apply]) <;> grind -ring -linarith
  · cases hstep

theorem CancelsOk.after_lock
    {o : Option κ} {id : Nat} (h : CancelsOk s)
    (hstep : after r s (.lock o id) = some s') :
    CancelsOk s' := by
  unfold Producers.after at hstep
  dsimp only at hstep
  split at hstep
  · split at hstep
    · cases hstep
      obtain ⟨hslot, hstarting, hactive, hflag, hswept, hseen, horder⟩ := h
      have hretain : ∀ t ∈ s.retain o, t ∈ s.tasks o := fun t ht =>
        (List.mem_filter.mp ht).1
      constructor <;> dsimp only [State.setStage] <;>
        (try simp only [update_update_apply]) <;> grind -ring -linarith [Function.update_apply]
    · cases hstep
  · cases hstep

/-- A task registered after the sweep is cancelled at once, since its worker saw the flag. -/
theorem CancelsOk.after_push
    {o : Option κ} {id : Nat} (h : CancelsOk s)
    (hstep : after r s (.push o id) = some s') :
    CancelsOk s' := by
  unfold Producers.after at hstep
  dsimp only at hstep
  split at hstep
  · rename_i w seen hstage
    cases hstep
    obtain ⟨hslot, hstarting, hactive, hflag, hswept, hseen, horder⟩ := h
    cases seen with
    | true =>
        simp only [if_true]
        constructor <;> dsimp only [State.setStage, State.cancelBlocking] <;>
          (try simp only [update_update_apply]) <;>
          grind -ring -linarith [Function.update_apply]
    | false =>
        have hopen : s.sweepDone o = false := by
          by_contra hdone
          cases hseen o id w false (by simpa using hdone) hstage
        simp only [Bool.false_eq_true, if_false]
        constructor <;> dsimp only [State.setStage] <;>
          (try simp only [update_update_apply]) <;>
          grind -ring -linarith [Function.update_apply]
  · cases hstep

theorem CancelsOk.after_attemptEnded
    {o : Option κ} {id : Nat} (h : CancelsOk s)
    (hstep : after r s (.attemptEnded o id) = some s') :
    CancelsOk s' := by
  unfold Producers.after at hstep
  dsimp only at hstep
  split at hstep
  · cases hstep
    obtain ⟨hslot, hstarting, hactive, hflag, hswept, hseen, horder⟩ := h
    constructor <;> dsimp only [State.setStage] <;>
      (try simp only [update_update_apply]) <;> grind -ring -linarith
  · cases hstep

/-- No wrapper starts an attempt once its slot is cancelled. -/
theorem CancelsOk.after_beginSpawn
    {k : κ} (h : CancelsOk s)
    (hstep : after r s (.beginSpawn k) = some s') :
    CancelsOk s' := by
  unfold Producers.after at hstep
  dsimp only at hstep
  split at hstep
  · rename_i hwrapper
    cases hstep
    obtain ⟨hslot, hstarting, hactive, hflag, hswept, hseen, horder⟩ := h
    have hopen : s.slotDone (some k) = false := by
      by_contra hdone
      exact hstarting (some k) (by simpa using hdone) hwrapper
    have hunswept : s.sweepDone (some k) = false := by
      by_contra hdone
      rw [horder (some k) (by simpa using hdone)] at hopen
      cases hopen
    constructor <;> dsimp only [State.setWrapper, State.setStage] <;>
      (try simp only [update_update_apply]) <;> grind -ring -linarith [Function.update_apply]
  · cases hstep

theorem CancelsOk.after_finish
    {k : κ} (h : CancelsOk s)
    (hstep : after r s (.finish k) = some s') :
    CancelsOk s' := by
  unfold Producers.after at hstep
  dsimp only at hstep
  split at hstep
  · split at hstep
    · cases hstep
      obtain ⟨hslot, hstarting, hactive, hflag, hswept, hseen, horder⟩ := h
      constructor <;> dsimp only [State.setWrapper, State.cancelContext] <;>
        (try simp only [update_update_apply]) <;> grind -ring -linarith [Function.update_apply]
    · cases hstep
      exact h.setWrapper (by simp)
  · cases hstep

theorem CancelsOk.after
    {e : Event κ} (h : CancelsOk s) (hw : WorkersOk s)
    (htokens : TokensDone s) (hpass : PassDone s) (hstep : after r s e = some s') :
    CancelsOk s' := by
  cases e with
  | check o id => exact h.after_check hstep
  | spawn o id w => exact h.after_spawn hstep
  | lock o id => exact h.after_lock hstep
  | push o id => exact h.after_push hstep
  | workerFinished w =>
      unfold Producers.after at hstep
      dsimp only at hstep
      split at hstep <;> cases hstep
      exact h.of_same rfl rfl rfl rfl rfl rfl rfl rfl rfl rfl
  | attemptEnded o id => exact h.after_attemptEnded hstep
  | loop k =>
      unfold Producers.after at hstep
      dsimp only at hstep
      split at hstep <;> cases hstep
      refine h.setWrapper ?_
      split <;> simp
  | beginLock k =>
      unfold Producers.after at hstep
      dsimp only at hstep
      split at hstep <;> cases hstep
      refine h.setWrapper ?_
      split
      · simp
      · rename_i htoken
        exact fun _ => by simpa using htoken
  | beginSpawn k => exact h.after_beginSpawn hstep
  | joined k =>
      unfold Producers.after at hstep
      dsimp only at hstep
      split at hstep
      · split at hstep <;> cases hstep
        exact h.setWrapper (by simp)
      · cases hstep
  | finish k => exact h.after_finish hstep
  | report k =>
      unfold Producers.after at hstep
      dsimp only at hstep
      split at hstep <;> cases hstep
      refine h.setWrapper ?_
      split <;> simp
  | sent k delivered =>
      unfold Producers.after at hstep
      dsimp only at hstep
      split at hstep <;> cases hstep
      refine h.setWrapper ?_
      split <;> simp
  | backoff k =>
      unfold Producers.after at hstep
      dsimp only at hstep
      split at hstep <;> cases hstep
      refine h.setWrapper ?_
      split <;> simp
  | shutdown =>
      unfold Producers.after at hstep
      dsimp only at hstep
      split at hstep <;> cases hstep
      exact h.of_same rfl rfl rfl rfl rfl rfl rfl rfl rfl rfl
  | step => exact h.shutdownStep hw htokens hpass hstep
  | timeout =>
      unfold Producers.after at hstep
      dsimp only at hstep
      split at hstep <;> cases hstep
      exact h.of_same rfl rfl rfl rfl rfl rfl rfl rfl rfl rfl
  | abortWrapper =>
      unfold Producers.after at hstep
      dsimp only at hstep
      split at hstep
      · split at hstep <;> cases hstep
        exact CancelsOk.of_same (h.setWrapper (x := .aborted) (by simp))
          rfl rfl rfl rfl rfl rfl rfl rfl rfl rfl
      · cases hstep

end CancelSteps

section PhaseSteps

/-- The steps of `shutdown` itself. -/
def Event.ofShutdown : Event κ → Bool
  | .shutdown => true
  | .step => true
  | .timeout => true
  | .abortWrapper => true
  | _ => false

/-- What the steps of the producers leave to shutdown. -/
structure Frame (s s' : State κ) : Prop where
  phase : s'.phase = s.phase
  token : s'.token = s.token
  flag : s'.flag = s.flag
  slotDone : s'.slotDone = s.slotDone
  sweepDone : s'.sweepDone = s.sweepDone
  abortedLive : s'.abortedLive = s.abortedLive
  stopped : ∀ k, (s.wrapper (some k)).stopped = true →
    (s'.wrapper (some k)).stopped = true
  ended : s.stage none 0 = .ended → s'.stage none 0 = .ended
  finished : ∀ o, (∀ id, (s.stage o id).live = false) → AllFinished s o → AllFinished s' o

theorem frame_after
    {e : Event κ} (hw : WorkersOk s) (he : e.ofShutdown = false)
    (hstep : after r s e = some s') :
    Frame s s' := by
  obtain ⟨hlocked, hspawned, hregistering, hlisted⟩ := hw
  cases e with
  | shutdown => cases he
  | step => cases he
  | timeout => cases he
  | abortWrapper => cases he
  | check o id =>
      unfold after at hstep
      dsimp only at hstep
      split at hstep <;> cases hstep
      split <;> constructor <;> dsimp only [State.setStage, State.cancelBlocking, AllFinished] <;>
        (try simp only [update_update_apply]) <;> grind -ring -linarith
  | spawn o id w =>
      unfold after at hstep
      dsimp only at hstep
      split at hstep <;> cases hstep
      constructor <;> dsimp only [State.setStage, AllFinished] <;>
        (try simp only [update_update_apply]) <;> grind -ring -linarith [Function.update_apply]
  | lock o id =>
      unfold after at hstep
      dsimp only at hstep
      split at hstep
      · split at hstep <;> cases hstep
        constructor <;> dsimp only [State.setStage, AllFinished] <;>
          (try simp only [update_update_apply]) <;> grind -ring -linarith
      · cases hstep
  | push o id =>
      unfold after at hstep
      dsimp only at hstep
      split at hstep
      · rename_i w seen hstage
        have hworker := hregistering o id w seen hstage
        have hlive : (s.stage o id).live = true := by
          rw [hstage]
          rfl
        cases hstep
        cases seen <;> simp only [if_true, Bool.false_eq_true, if_false] <;> constructor <;>
          dsimp only [State.setStage, State.cancelBlocking, AllFinished] <;>
          (try simp only [update_update_apply]) <;> grind -ring -linarith [Function.update_apply]
      · cases hstep
  | workerFinished w =>
      unfold after at hstep
      dsimp only at hstep
      split at hstep <;> cases hstep
      constructor <;> dsimp only [AllFinished] <;> grind -ring -linarith [Function.update_apply]
  | attemptEnded o id =>
      unfold after at hstep
      dsimp only at hstep
      split at hstep <;> cases hstep
      constructor <;> dsimp only [State.setStage, AllFinished] <;>
        (try simp only [update_update_apply]) <;> grind -ring -linarith
  | loop k =>
      unfold after at hstep
      dsimp only at hstep
      split at hstep <;> cases hstep
      constructor <;> dsimp only [State.setWrapper, AllFinished] <;>
        grind -ring -linarith [Function.update_apply, Wrapper.stopped]
  | beginLock k =>
      unfold after at hstep
      dsimp only at hstep
      split at hstep <;> cases hstep
      constructor <;> dsimp only [State.setWrapper, AllFinished] <;>
        grind -ring -linarith [Function.update_apply, Wrapper.stopped]
  | beginSpawn k =>
      unfold after at hstep
      dsimp only at hstep
      split at hstep <;> cases hstep
      constructor <;> dsimp only [State.setWrapper, State.setStage, AllFinished] <;>
        (try simp only [update_update_apply]) <;>
        grind -ring -linarith [Function.update_apply, Wrapper.stopped]
  | joined k =>
      unfold after at hstep
      dsimp only at hstep
      split at hstep
      · split at hstep <;> cases hstep
        constructor <;> dsimp only [State.setWrapper, AllFinished] <;>
          grind -ring -linarith [Function.update_apply, Wrapper.stopped]
      · cases hstep
  | finish k =>
      unfold after at hstep
      dsimp only at hstep
      split at hstep
      · split at hstep <;> cases hstep <;> constructor <;>
          dsimp only [State.setWrapper, State.cancelContext, AllFinished] <;>
          grind -ring -linarith [Function.update_apply, Wrapper.stopped]
      · cases hstep
  | report k =>
      unfold after at hstep
      dsimp only at hstep
      split at hstep <;> cases hstep
      constructor <;> dsimp only [State.setWrapper, AllFinished] <;>
        grind -ring -linarith [Function.update_apply, Wrapper.stopped]
  | sent k delivered =>
      unfold after at hstep
      dsimp only at hstep
      split at hstep <;> cases hstep
      constructor <;> dsimp only [State.setWrapper, AllFinished] <;>
        grind -ring -linarith [Function.update_apply, Wrapper.stopped]
  | backoff k =>
      unfold after at hstep
      dsimp only at hstep
      split at hstep <;> cases hstep
      constructor <;> dsimp only [State.setWrapper, AllFinished] <;>
        grind -ring -linarith [Function.update_apply, Wrapper.stopped]

/-- Once everything has been joined no attempt is left, unless one was abandoned. -/
theorem AttemptsOk.no_live
    (h : AttemptsOk s) (haborted : s.abortedLive = false)
    (hstopped : ∀ k, (s.wrapper (some k)).stopped = true)
    (hended : s.stage none 0 = .ended) (o : Option κ) (id : Nat) :
    (s.stage o id).live = false := by
  by_contra hne
  have hlive : (s.stage o id).live = true := by simpa using hne
  cases o with
  | none =>
      have hactive := h.live none id hlive
      rw [h.aggregator] at hactive
      cases hactive
      rw [hended] at hlive
      cases hlive
  | some k =>
      have hk := hstopped k
      rw [h.awaited haborted (some k) id hlive] at hk
      cases hk

theorem TokensDone.frame (h : TokensDone s) (hf : Frame s s') : TokensDone s' := by
  unfold TokensDone at h ⊢
  rw [hf.phase, hf.token]
  exact h

theorem PassDone.frame (h : PassDone s) (hf : Frame s s') : PassDone s' := by
  unfold PassDone at h ⊢
  rw [hf.phase, hf.slotDone, hf.sweepDone, hf.flag]
  exact h

theorem JoinDone.frame (h : JoinDone s) (hf : Frame s s') : JoinDone s' := by
  have hstopped := hf.stopped
  have hended := hf.ended
  unfold JoinDone at h ⊢
  rw [hf.phase]
  cases hphase : s.phase <;> simp only [hphase] at h ⊢ <;> grind -ring -linarith

theorem DrainDone.frame
    (h : DrainDone s) (ha : AttemptsOk s) (hjoin : JoinDone s) (hf : Frame s s') :
    DrainDone s' := by
  unfold DrainDone at h ⊢
  unfold JoinDone at hjoin
  rw [hf.phase, hf.abortedLive]
  cases hphase : s.phase with
  | draining todo =>
      simp only [hphase] at h hjoin
      intro haborted o ho
      exact hf.finished o (ha.no_live haborted hjoin.1 hjoin.2 o) (h haborted o ho)
  | returned =>
      simp only [hphase] at h hjoin
      intro haborted o
      exact hf.finished o (ha.no_live haborted hjoin.1 hjoin.2 o) (h haborted o)
  | idle => trivial
  | tokens todo => trivial
  | children o todo => trivial
  | cancelling part todo again => trivial
  | joining todo => trivial
  | reaping todo => trivial
  | aggregator => trivial

/-- A tracker without unfinished tasks has no running worker. -/
theorem WorkersOk.allFinished
    (h : WorkersOk s) {o : Option κ} (hempty : s.retain o = []) :
    AllFinished s o := by
  intro w x hx howner hregistered
  subst howner
  by_contra hrunning
  have hfinished : x.finished = false := by simpa using hrunning
  have hmem := (h.listed w x hx hregistered).resolve_left hrunning
  have hin : (⟨w, x.attempt⟩ : BlockingTask) ∈ s.retain x.owner := by
    simp [State.retain, State.isFinished, hx, hmem, hfinished]
  rw [hempty] at hin
  cases hin

theorem phases_shutdownStep
    (hi : Invariant s) (hstep : shutdownStep r s = some s') :
    TokensDone s' ∧ PassDone s' ∧ JoinDone s' ∧ DrainDone s' := by
  obtain ⟨hattempts, hworkers, hcancels, htokens, hpass, hjoin, hdrain⟩ := hi
  have howners := r.mem_owners
  have hcomplete := r.complete
  unfold shutdownStep at hstep
  split at hstep
  · cases hstep
  · rename_i hphase
    cases hstep
    simp only [State.setPhase, TokensDone, PassDone, JoinDone, DrainDone, hphase]
      at htokens hpass hjoin hdrain ⊢
    grind -ring -linarith [Function.update_apply]
  · rename_i o todo hphase
    cases hstep
    simp only [TokensDone, PassDone, JoinDone, DrainDone, hphase]
      at htokens hpass hjoin hdrain ⊢
    grind -ring -linarith [Function.update_apply]
  · rename_i o todo hphase
    cases hstep
    simp only [TokensDone, PassDone, JoinDone, DrainDone, hphase]
      at htokens hpass hjoin hdrain ⊢
    grind -ring -linarith [Function.update_apply]
  · rename_i part hphase
    cases hstep
    simp only [State.setPhase, TokensDone, PassDone, JoinDone, DrainDone, hphase]
      at htokens hpass hjoin hdrain ⊢
    grind -ring -linarith [Function.update_apply]
  · rename_i part rest hphase
    cases hstep
    simp only [State.setPhase, TokensDone, PassDone, JoinDone, DrainDone, hphase]
      at htokens hpass hjoin hdrain ⊢
    grind -ring -linarith [Function.update_apply]
  · rename_i o todo again hphase
    split at hstep <;> cases hstep
    cases again <;>
      simp only [TokensDone, PassDone, JoinDone, DrainDone, hphase]
        at htokens hpass hjoin hdrain ⊢ <;>
      split <;> (try dsimp only [State.cancelContext]) <;>
      grind -ring -linarith [Function.update_apply]
  · rename_i o todo again hphase
    cases hstep
    cases again <;>
      simp only [TokensDone, PassDone, JoinDone, DrainDone, hphase]
        at htokens hpass hjoin hdrain ⊢ <;>
      grind -ring -linarith [Function.update_apply]
  · rename_i o todo again hphase
    split at hstep <;> cases hstep
    cases again <;>
      simp only [TokensDone, PassDone, JoinDone, DrainDone, hphase]
        at htokens hpass hjoin hdrain ⊢ <;>
      grind -ring -linarith [Function.update_apply]
  · rename_i hphase
    cases hstep
    simp only [State.setPhase, TokensDone, PassDone, JoinDone, DrainDone, hphase]
      at htokens hpass hjoin hdrain ⊢
    grind -ring -linarith [Function.update_apply]
  · rename_i k todo hphase
    split at hstep <;> cases hstep
    simp only [State.setPhase, TokensDone, PassDone, JoinDone, DrainDone, hphase]
      at htokens hpass hjoin hdrain ⊢
    grind -ring -linarith [Function.update_apply]
  · rename_i hphase
    cases hstep
    simp only [State.setPhase, TokensDone, PassDone, JoinDone, DrainDone, hphase]
      at htokens hpass hjoin hdrain ⊢
    grind -ring -linarith [Function.update_apply]
  · rename_i k todo hphase
    split at hstep <;> cases hstep
    simp only [State.setPhase, TokensDone, PassDone, JoinDone, DrainDone, hphase]
      at htokens hpass hjoin hdrain ⊢
    grind -ring -linarith [Function.update_apply]
  · rename_i hphase
    split at hstep <;> cases hstep
    simp only [State.setPhase, TokensDone, PassDone, JoinDone, DrainDone, hphase]
      at htokens hpass hjoin hdrain ⊢
    grind -ring -linarith [Function.update_apply]
  · rename_i hphase
    cases hstep
    simp only [State.setPhase, TokensDone, PassDone, JoinDone, DrainDone, AllFinished, hphase]
      at htokens hpass hjoin hdrain ⊢
    grind -ring -linarith
  · rename_i o todo hphase
    split at hstep
    · rename_i hidle
      cases hstep
      have hfinished : AllFinished s o := hworkers.allFinished hidle.2
      simp only [TokensDone, PassDone, JoinDone, DrainDone, AllFinished, hphase]
        at htokens hpass hjoin hdrain hfinished ⊢
      grind -ring -linarith
    · cases hstep
  · cases hstep

theorem Invariant.after
    {e : Event κ} (hi : Invariant s) (hstep : after r s e = some s') :
    Invariant s' := by
  have hattempts := hi.attempts.after hstep
  have hworkers := hi.workers.after hstep
  have hcancels := hi.cancels.after hi.workers hi.tokens hi.pass hstep
  have hphases : TokensDone s' ∧ PassDone s' ∧ JoinDone s' ∧ DrainDone s' := by
    by_cases hof : e.ofShutdown = true
    · have htokens := hi.tokens
      have hpass := hi.pass
      have hjoin := hi.join
      have hdrain := hi.drain
      cases e with
      | step => exact phases_shutdownStep hi hstep
      | shutdown =>
          unfold Producers.after at hstep
          dsimp only at hstep
          split at hstep <;> cases hstep
          exact ⟨fun o ho => absurd (r.mem_owners o) ho, trivial, trivial, trivial⟩
      | timeout =>
          unfold Producers.after at hstep
          dsimp only at hstep
          split at hstep
          · rename_i k todo hphase
            cases hstep
            simp only [State.setPhase, TokensDone, PassDone, JoinDone, DrainDone, hphase]
              at htokens hpass hjoin hdrain ⊢
            exact ⟨htokens, hpass, hjoin, trivial⟩
          · cases hstep
      | abortWrapper =>
          unfold Producers.after at hstep
          dsimp only at hstep
          split at hstep
          · rename_i k todo hphase
            split at hstep <;> cases hstep
            simp only [State.setWrapper, TokensDone, PassDone, JoinDone, DrainDone, hphase]
              at htokens hpass hjoin hdrain ⊢
            refine ⟨htokens, hpass, ?_, trivial⟩
            intro k' hk'
            by_cases hk : k' = k
            · subst hk
              simp [Wrapper.stopped]
            · have hne : (some k' : Option κ) ≠ some k := by simpa using hk
              rw [Function.update_of_ne hne]
              exact hjoin k' (by simp [hk, hk'])
          · cases hstep
      | _ => cases hof
    · have hf : Frame s s' := frame_after hi.workers (by simpa using hof) hstep
      exact ⟨hi.tokens.frame hf, hi.pass.frame hf, hi.join.frame hf,
        hi.drain.frame hi.attempts hi.join hf⟩
  exact ⟨hattempts, hworkers, hcancels, hphases.1, hphases.2.1, hphases.2.2.1,
    hphases.2.2.2⟩

theorem invariant_initial : Invariant (initial : State κ) where
  attempts := by
    constructor <;> dsimp only [initial] <;> grind -ring -linarith [Stage.live, Wrapper.idle]
  workers := by
    constructor <;> dsimp only [initial] <;> grind -ring -linarith
  cancels := by
    constructor <;> dsimp only [initial] <;> grind -ring -linarith
  tokens := trivial
  pass := trivial
  join := trivial
  drain := trivial

theorem invariant_of_reachable (h : (producerSystem r).Reachable s) : Invariant s := by
  refine System.Reachable.invariant (I := Invariant) ?_ ?_ h
  · rintro _ rfl
    exact invariant_initial
  · exact fun _ _ _ hi hstep => hi.after hstep

end PhaseSteps

section Main

/-- Only `begin` makes an attempt live. -/
theorem live_of_after
    {e : Event κ} (he : ∀ k, e ≠ .beginSpawn k) (hstep : after r s e = some s')
    {o : Option κ} {id : Nat} (hlive : (s'.stage o id).live = true) :
    (s.stage o id).live = true := by
  cases e with
  | beginSpawn k => exact absurd rfl (he k)
  | step =>
      simp only [after, shutdownStep] at hstep
      split at hstep <;> (try split at hstep) <;> (try cases hstep) <;>
        first
          | exact hlive
          | (split at hlive <;> exact hlive)
  | check o' id' =>
      unfold after at hstep
      dsimp only at hstep
      split at hstep <;> cases hstep
      split at hlive <;> simp only [State.setStage, State.cancelBlocking, update_update_apply]
        at hlive <;> grind -ring -linarith [Stage.live]
  | push o' id' =>
      unfold after at hstep
      dsimp only at hstep
      split at hstep
      · rename_i w seen hstage
        cases hstep
        cases seen <;>
          simp only [State.setStage, State.cancelBlocking, update_update_apply, if_true,
            Bool.false_eq_true, if_false] at hlive <;> grind -ring -linarith [Stage.live]
      · cases hstep
  | finish k =>
      unfold after at hstep
      dsimp only at hstep
      split at hstep
      · split at hstep <;> cases hstep <;> exact hlive
      · cases hstep
  | _ =>
      unfold after at hstep
      dsimp only at hstep
      split at hstep <;> (try split at hstep) <;> (try cases hstep) <;>
        first
          | exact hlive
          | (simp only [State.setStage, update_update_apply] at hlive
             grind -ring -linarith [Stage.live])

theorem Invariant.cancelled (hi : Invariant s) (hpast : s.phase.pastCancel = true)
    (o : Option κ) :
    s.slotDone o = true ∧ s.sweepDone o = true := by
  have hpass := hi.pass
  unfold PassDone at hpass
  cases hphase : s.phase with
  | cancelling part todo again =>
      cases again with
      | none => simp [hphase, Phase.pastCancel] at hpast
      | some rest =>
          rw [hphase] at hpass
          exact hpass o
  | idle => simp [hphase, Phase.pastCancel] at hpast
  | tokens todo => simp [hphase, Phase.pastCancel] at hpast
  | children o' todo => simp [hphase, Phase.pastCancel] at hpast
  | joining todo =>
      rw [hphase] at hpass
      exact hpass o
  | reaping todo =>
      rw [hphase] at hpass
      exact hpass o
  | aggregator =>
      rw [hphase] at hpass
      exact hpass o
  | draining todo =>
      rw [hphase] at hpass
      exact hpass o
  | returned =>
      rw [hphase] at hpass
      exact hpass o

/-- Shutdown reaches every producer worker, in every interleaving. -/
theorem shutdown_reaches_workers
    (r : Registry κ) {s : State κ} (h : (producerSystem r).Reachable s) :
    ShutdownLaws r s := by
  have hi := invariant_of_reachable h
  constructor
  · intro hpast e s' hstep o id hlive
    by_cases he : ∃ k, e = .beginSpawn k
    · obtain ⟨k, rfl⟩ := he
      have hnot := hi.cancels.starting (some k) (hi.cancelled hpast (some k)).1
      simp [after, hnot] at hstep
    · exact live_of_after (fun k hk => he ⟨k, hk⟩) hstep hlive
  · intro hpast o id hactive
    have hslot : s.active o = some id := hactive.elim (hi.attempts.live o id) fun h => h
    exact hi.cancels.active o id (hi.cancelled hpast o).1 hslot
  · intro hpast w x hx hregistered
    refine (hi.workers.listed w x hx hregistered).imp_right fun hmem => ?_
    exact hi.cancels.swept x.owner _ (hi.cancelled hpast x.owner).2 hmem
  · intro k id s' hwrapper hstep o id' hne
    have hactive := hi.attempts.finishing (some k) id hwrapper
    simp only [after, hwrapper, hactive, if_true] at hstep
    cases hstep
    simp only [State.setWrapper, State.cancelContext, update_update_apply]
    grind -ring -linarith [Function.update_apply]
  · intro hphase haborted w x hx hregistered
    have hdrain := hi.drain
    unfold DrainDone at hdrain
    rw [hphase] at hdrain
    exact hdrain haborted x.owner w x hx rfl hregistered

/-- One producer. -/
def oneProducer : Registry Unit := ⟨[()], fun _ => by simp⟩

/-- A worker is registered, everything is shut down, and the worker finishes. -/
def shutdownRun : List (Event Unit) :=
  ([.loop (), .beginLock (), .beginSpawn (), .check (some ()) 1, .spawn (some ()) 1 7,
    .lock (some ()) 1, .push (some ()) 1, .shutdown] : List (Event Unit)) ++
  List.replicate 12 .step ++
  ([.attemptEnded (some ()) 1, .joined (), .finish (), .report (), .workerFinished 7,
    .step, .step, .attemptEnded none 0] : List (Event Unit)) ++
  List.replicate 4 .step

theorem shutdown_reaches_workers_returned :
    ∃ s, System.replay (after oneProducer) initial shutdownRun = some s ∧
      s.phase = .returned ∧ (s.workers 7).isSome = true ∧ ShutdownLaws oneProducer s := by
  have hrun : (System.replay (after oneProducer) initial shutdownRun).any
      (fun s => s.phase = .returned ∧ (s.workers 7).isSome = true) = true := by
    decide +kernel
  obtain ⟨s, hs, hreturned⟩ := (Option.any_eq_true _ _).mp hrun
  obtain ⟨hphase, hworker⟩ := of_decide_eq_true hreturned
  exact ⟨s, hs, hphase, hworker,
    shutdown_reaches_workers oneProducer (System.reachable_replay (.initial rfl) hs)⟩

end Main

end Producers
end SleepySession
