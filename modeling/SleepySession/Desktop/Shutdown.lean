import SleepySession.Lib.Run

/-!
# Producers and their shutdown

Each producer has a wrapper that begins one attempt after another, a slot for
the active attempt and a tracker for its blocking workers; the aggregator is
one more owner whose only attempt is there from the start.  Shutdown cancels
the token tree, then every slot and every tracker, joins the wrappers, and
waits until the trackers are idle.  Steps are as fine as the locks and atomics
allow; timeouts are choices.
-/

set_option linter.unusedSectionVars false

namespace SleepySession
namespace Producers

/-- Where an attempt is; `spawn_blocking` is the part between two awaits. -/
inductive Stage where
  | absent
  | running
  /-- The flags have been looked at. -/
  | checked
  /-- The worker has been started. -/
  | spawned (worker : Nat)
  /-- The tracker is locked and its flag was read. -/
  | registering (worker : Nat) (seen : Bool)
  | ended
  deriving DecidableEq, Repr

def Stage.live : Stage → Bool
  | .absent => false
  | .ended => false
  | _ => true

/-- Where the wrapper of an owner is. -/
inductive Wrapper where
  | looping
  | beginning
  /-- The slot is locked and the token was found not cancelled. -/
  | starting
  | awaiting (attempt : Nat)
  | finishing (attempt : Nat)
  | reporting
  | sending
  | backingOff
  | returned
  | aborted
  deriving DecidableEq, Repr

def Wrapper.stopped : Wrapper → Bool
  | .returned => true
  | .aborted => true
  | _ => false

/-- At an await, where an abort takes effect. -/
def Wrapper.abortable : Wrapper → Bool
  | .looping => true
  | .awaiting _ => true
  | .sending => true
  | .backingOff => true
  | _ => false

/-- Between two attempts. -/
def Wrapper.idle : Wrapper → Bool
  | .awaiting _ => false
  | .finishing _ => false
  | .returned => false
  | .aborted => false
  | _ => true

structure BlockingTask where
  worker : Nat
  /-- The attempt whose cancellation the worker observes. -/
  attempt : Nat
  deriving DecidableEq, Repr

structure Worker (ι : Type) where
  owner : ι
  attempt : Nat
  registered : Bool
  finished : Bool
  deriving DecidableEq, Repr

/-- The parts of cancelling one owner. -/
inductive Part where
  | slot
  | flag
  | sweep
  deriving DecidableEq, Repr

/-- Where `shutdown` is; `again` is the list left when joining timed out. -/
inductive Phase (κ : Type) where
  | idle
  | tokens (todo : List (Option κ))
  | children (owner : Option κ) (todo : List (Option κ))
  | cancelling (part : Part) (todo : List (Option κ)) (again : Option (List κ))
  | joining (todo : List κ)
  | reaping (todo : List κ)
  | aggregator
  | draining (todo : List (Option κ))
  | returned
  deriving DecidableEq, Repr

/-- The producers of the registry, each listed. -/
structure Registry (κ : Type) where
  producers : List κ
  complete : ∀ k, k ∈ producers

namespace Registry

variable {κ : Type}

/-- The producers, then the aggregator. -/
def owners (r : Registry κ) : List (Option κ) :=
  r.producers.map some ++ [none]

theorem mem_owners (r : Registry κ) (o : Option κ) : o ∈ r.owners := by
  cases o with
  | none => simp [owners]
  | some k => simp [owners, r.complete k]

end Registry

structure State (κ : Type) where
  phase : Phase κ
  /-- The owner's own token. -/
  token : Option κ → Bool
  nextId : Option κ → Nat
  active : Option κ → Option Nat
  wrapper : Option κ → Wrapper
  stage : Option κ → Nat → Stage
  /-- The cancellation token of an attempt's context. -/
  contextToken : Option κ → Nat → Bool
  /-- `blocking_cancellation` of an attempt's context. -/
  blocking : Option κ → Nat → Bool
  /-- `BlockingTaskTracker::cancelled`. -/
  flag : Option κ → Bool
  /-- The attempt that holds the lock of the tracker. -/
  lock : Option κ → Option Nat
  tasks : Option κ → List BlockingTask
  workers : Nat → Option (Worker (Option κ))
  /-- The slot of the owner has been cancelled. -/
  slotDone : Option κ → Bool
  /-- The tracker of the owner has been swept. -/
  sweepDone : Option κ → Bool
  /-- A wrapper was aborted whose attempt had not ended. -/
  abortedLive : Bool

variable {κ : Type} [DecidableEq κ]

/-- `start`: the wrappers are about to begin, the aggregator runs. -/
def initial : State κ where
  phase := .idle
  token _ := false
  nextId _ := 1
  active o := if o = none then some 0 else none
  wrapper o := if o = none then .awaiting 0 else .looping
  stage o id := if o = none ∧ id = 0 then .running else .absent
  contextToken _ _ := false
  blocking _ _ := false
  flag _ := false
  lock _ := none
  tasks _ := []
  workers _ := none
  slotDone _ := false
  sweepDone _ := false
  abortedLive := false

namespace State

def isFinished (s : State κ) (w : Nat) : Bool :=
  match s.workers w with
  | some r => r.finished
  | none => false

/-- `tasks.retain(|task| !task.abort.is_finished())`. -/
def retain (s : State κ) (o : Option κ) : List BlockingTask :=
  (s.tasks o).filter fun t => !s.isFinished t.worker

def setStage (s : State κ) (o : Option κ) (id : Nat) (x : Stage) : State κ :=
  { s with stage := Function.update s.stage o (Function.update (s.stage o) id x) }

def setWrapper (s : State κ) (o : Option κ) (x : Wrapper) : State κ :=
  { s with wrapper := Function.update s.wrapper o x }

/-- `DesktopProducerContext::cancel`. -/
def cancelContext (s : State κ) (o : Option κ) (id : Nat) : State κ :=
  { s with
    contextToken := Function.update s.contextToken o (Function.update (s.contextToken o) id true)
    blocking := Function.update s.blocking o (Function.update (s.blocking o) id true) }

def cancelBlocking (s : State κ) (o : Option κ) (id : Nat) : State κ :=
  { s with blocking := Function.update s.blocking o (Function.update (s.blocking o) id true) }

def setPhase (s : State κ) (x : Phase κ) : State κ :=
  { s with phase := x }

/-- The wrapper waits for an attempt that has not ended. -/
def awaitsLive (s : State κ) (o : Option κ) : Bool :=
  match s.wrapper o with
  | .awaiting id => (s.stage o id).live
  | _ => false

end State

/-- The steps of the attempts, the workers, the wrappers and the shutdown. -/
inductive Event (κ : Type) where
  /-- `spawn_blocking` looks at the flags. -/
  | check (o : Option κ) (id : Nat)
  | spawn (o : Option κ) (id w : Nat)
  | lock (o : Option κ) (id : Nat)
  | push (o : Option κ) (id : Nat)
  | workerFinished (w : Nat)
  | attemptEnded (o : Option κ) (id : Nat)
  | loop (k : κ)
  | beginLock (k : κ)
  | beginSpawn (k : κ)
  | joined (k : κ)
  | finish (k : κ)
  | report (k : κ)
  | sent (k : κ) (delivered : Bool)
  | backoff (k : κ)
  | shutdown
  | step
  | timeout
  | abortWrapper
  deriving DecidableEq, Repr

/-- `shutdown` moves on, where it can. -/
def shutdownStep (r : Registry κ) (s : State κ) : Option (State κ) :=
  match s.phase with
  | .idle => none
  | .tokens [] => some (s.setPhase (.cancelling .slot r.owners none))
  | .tokens (o :: todo) =>
      some { s with
        phase := .children o todo
        token := Function.update s.token o true }
  | .children o todo =>
      some { s with
        phase := .tokens todo
        contextToken := Function.update s.contextToken o fun _ => true }
  | .cancelling _ [] none => some (s.setPhase (.joining r.producers))
  | .cancelling _ [] (some rest) => some (s.setPhase (.reaping rest))
  | .cancelling .slot (o :: todo) again =>
      if s.wrapper o = .starting then none
      else
        let s := match s.active o with
          | some id => s.cancelContext o id
          | none => s
        some { s with
          phase := .cancelling .flag (o :: todo) again
          slotDone := Function.update s.slotDone o true }
  | .cancelling .flag (o :: todo) again =>
      some { s with
        phase := .cancelling .sweep (o :: todo) again
        flag := Function.update s.flag o true }
  | .cancelling .sweep (o :: todo) again =>
      if s.lock o = none then
        some { s with
          phase := .cancelling .slot todo again
          tasks := Function.update s.tasks o (s.retain o)
          blocking := Function.update s.blocking o fun id =>
            s.blocking o id || (s.retain o).any fun t => t.attempt = id
          sweepDone := Function.update s.sweepDone o true }
      else none
  | .joining [] => some (s.setPhase .aggregator)
  | .joining (k :: todo) =>
      if (s.wrapper (some k)).stopped then some (s.setPhase (.joining todo)) else none
  | .reaping [] => some (s.setPhase .aggregator)
  | .reaping (k :: todo) =>
      if (s.wrapper (some k)).stopped then some (s.setPhase (.reaping todo)) else none
  | .aggregator =>
      if s.stage none 0 = .ended then some (s.setPhase (.draining r.owners)) else none
  | .draining [] => some (s.setPhase .returned)
  | .draining (o :: todo) =>
      if s.lock o = none ∧ s.retain o = [] then
        some { s with
          phase := .draining todo
          tasks := Function.update s.tasks o [] }
      else none
  | .returned => none

def after (r : Registry κ) (s : State κ) : Event κ → Option (State κ)
  | .check o id =>
      if s.stage o id = .running then
        let s' := if s.contextToken o id || s.flag o then s.cancelBlocking o id else s
        some (s'.setStage o id .checked)
      else none
  | .spawn o id w =>
      if s.stage o id = .checked ∧ s.workers w = none then
        some { s.setStage o id (.spawned w) with
          workers := Function.update s.workers w (some ⟨o, id, false, false⟩) }
      else none
  | .lock o id =>
      match s.stage o id with
      | .spawned w =>
          if s.lock o = none then
            some { s.setStage o id (.registering w (s.flag o)) with
              lock := Function.update s.lock o (some id)
              tasks := Function.update s.tasks o (s.retain o) }
          else none
      | _ => none
  | .push o id =>
      match s.stage o id with
      | .registering w seen =>
          let s' := if seen then s.cancelBlocking o id else s
          some { s'.setStage o id .running with
            lock := Function.update s.lock o none
            tasks := Function.update s.tasks o (s.tasks o ++ [⟨w, id⟩])
            workers := Function.update s.workers w
              ((s.workers w).map fun x => { x with registered := true }) }
      | _ => none
  | .workerFinished w =>
      match s.workers w with
      | some x =>
          some { s with workers := Function.update s.workers w (some { x with finished := true }) }
      | none => none
  | .attemptEnded o id =>
      if s.stage o id = .running then some (s.setStage o id .ended) else none
  | .loop k =>
      if s.wrapper (some k) = .looping then
        some (s.setWrapper (some k) (if s.token (some k) then .returned else .beginning))
      else none
  | .beginLock k =>
      if s.wrapper (some k) = .beginning then
        some (s.setWrapper (some k) (if s.token (some k) then .returned else .starting))
      else none
  | .beginSpawn k =>
      if s.wrapper (some k) = .starting then
        let o := some k
        let id := s.nextId o
        some { (s.setStage o id .running).setWrapper o (.awaiting id) with
          nextId := Function.update s.nextId o (id + 1)
          active := Function.update s.active o (some id)
          contextToken :=
            Function.update s.contextToken o (Function.update (s.contextToken o) id (s.token o))
          blocking := Function.update s.blocking o (Function.update (s.blocking o) id false) }
      else none
  | .joined k =>
      match s.wrapper (some k) with
      | .awaiting id =>
          if s.stage (some k) id = .ended then
            some (s.setWrapper (some k) (.finishing id))
          else none
      | _ => none
  | .finish k =>
      match s.wrapper (some k) with
      | .finishing id =>
          if s.active (some k) = some id then
            some { (s.cancelContext (some k) id).setWrapper (some k) .reporting with
              active := Function.update s.active (some k) none }
          else some (s.setWrapper (some k) .reporting)
      | _ => none
  | .report k =>
      if s.wrapper (some k) = .reporting then
        some (s.setWrapper (some k) (if s.token (some k) then .returned else .sending))
      else none
  | .sent k delivered =>
      if s.wrapper (some k) = .sending then
        some (s.setWrapper (some k) (if delivered then .backingOff else .returned))
      else none
  | .backoff k =>
      if s.wrapper (some k) = .backingOff then
        some (s.setWrapper (some k) (if s.token (some k) then .returned else .looping))
      else none
  | .shutdown =>
      if s.phase = .idle then some (s.setPhase (.tokens r.owners)) else none
  | .step => shutdownStep r s
  | .timeout =>
      match s.phase with
      | .joining (k :: todo) =>
          some (s.setPhase (.cancelling .slot ((k :: todo).map some) (some (k :: todo))))
      | _ => none
  | .abortWrapper =>
      match s.phase with
      | .reaping (k :: todo) =>
          if (s.wrapper (some k)).abortable then
            some { s.setWrapper (some k) .aborted with
              phase := .reaping todo
              abortedLive := s.abortedLive || s.awaitsLive (some k) }
          else none
      | _ => none

/-- Every interleaving of the producers of a registry with their shutdown. -/
def producerSystem (r : Registry κ) : System (State κ) (Event κ) :=
  System.ofStep (· = initial) (after r)

section Properties

/-- The first cancelling pass is over. -/
def Phase.pastCancel : Phase κ → Bool
  | .idle => false
  | .tokens _ => false
  | .children _ _ => false
  | .cancelling _ _ none => false
  | _ => true

/-- What holds of a state of the producers, whatever comes next. -/
structure ShutdownLaws (r : Registry κ) (s : State κ) : Prop where
  /-- No attempt begins once everything has been cancelled. -/
  begins : s.phase.pastCancel = true → ∀ e s', after r s e = some s' →
    ∀ o id, (s'.stage o id).live = true → (s.stage o id).live = true
  /-- Every attempt that is still active has a cancelled context. -/
  attempts : s.phase.pastCancel = true → ∀ o id,
    (s.stage o id).live = true ∨ s.active o = some id →
      s.contextToken o id = true ∧ s.blocking o id = true
  /-- Every registered worker is cancelled, or has finished. -/
  workers : s.phase.pastCancel = true → ∀ w x, s.workers w = some x →
    x.registered = true → x.finished = true ∨ s.blocking x.owner x.attempt = true
  /-- Finishing an attempt leaves every other attempt alone. -/
  finishes : ∀ k id s', s.wrapper (some k) = .finishing id →
    after r s (.finish k) = some s' → ∀ o id', (o, id') ≠ (some k, id) →
      s'.contextToken o id' = s.contextToken o id' ∧ s'.blocking o id' = s.blocking o id' ∧
        (s.active o = some id' → s'.active o = some id')
  /-- Shutdown returns after the last registered worker. -/
  returns : s.phase = .returned → s.abortedLive = false → ∀ w x, s.workers w = some x →
    x.registered = true → x.finished = true

end Properties

end Producers
end SleepySession
