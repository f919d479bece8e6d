import SleepySession.Lib.Run

/-!
# Requests to the system facade

`snapshot`, `mutate` and `perform` share one atomic generation counter.  A call
accepts its generation by a compare-and-exchange loop, starts its commands
through a runner that checks the counter first, and checks it once more before
it reports.  The eleven probes of a snapshot run on threads of their own; what
they run and what the commands answer is up to the environment.
-/

namespace SleepySession
namespace SystemFacade

/-- The operation of a call; a mutation says whether it selects an output device. -/
inductive FacadeRequest where
  | snapshot
  | mutate (outputDevice : Bool)
  | perform
  deriving DecidableEq, Repr

/-- What a thread of `spawn_probe` is doing. -/
inductive ProbeStage where
  | ready
  | running
  | done
  deriving DecidableEq, Repr

/-- What `snapshot_accepted` is run for, or the action of `perform`. -/
inductive CheckPurpose where
  | snapshot
  | outputDevices
  | readback
  | action
  deriving DecidableEq, Repr

inductive CallStage where
  /-- At the load of `accept_generation`. -/
  | start
  /-- At its compare-and-exchange. -/
  | comparing (current : Nat)
  | accepted
  | probing (purpose : CheckPurpose) (workers : Fin 11 → ProbeStage)
  /-- In `run_mutation` or `run_checked`. -/
  | commanding (running : Bool)
  /-- The action has answered; `ensure_current` is next. -/
  | acted
  /-- `ensure_current` has succeeded. -/
  | ensured (purpose : CheckPurpose)
  | returned (success : Bool)
  deriving DecidableEq

/-- What has happened, call by call. -/
inductive FacadeAction (ι : Type) where
  | accepted (c : ι) (generation : Nat)
  | started (c : ι)
  | finished (c : ι)
  | returned (c : ι) (success : Bool)
  deriving DecidableEq, Repr

structure FacadeRun (ι : Type) where
  latestGeneration : Nat
  stages : ι → CallStage
  /-- The newest action comes first. -/
  history : List (FacadeAction ι)

inductive FacadeEvent (ι : Type) where
  | load (c : ι)
  | exchange (c : ι)
  /-- The work up to the first probe or command; it may fail. -/
  | dispatch (c : ι) (success : Bool)
  | runProbe (c : ι) (worker : Fin 11)
  | finishProbe (c : ι) (worker : Fin 11)
  | probeDone (c : ι) (worker : Fin 11)
  | runCommand (c : ι)
  | finishCommand (c : ι)
  /-- The command of a mutation or an action has a result. -/
  | commandResult (c : ι) (success : Bool)
  /-- The probes are joined, or the action has answered: `ensure_current`. -/
  | ensure (c : ι)
  /-- Validation and confirmation of what was read. -/
  | conclude (c : ι) (success : Bool)
  deriving DecidableEq, Repr

section Steps

variable {ι : Type} [DecidableEq ι]

def FacadeRun.setStage (s : FacadeRun ι) (c : ι) (stage : CallStage) : FacadeRun ι :=
  { s with stages := Function.update s.stages c stage }

def FacadeRun.log (s : FacadeRun ι) (action : FacadeAction ι) : FacadeRun ι :=
  { s with history := action :: s.history }

/-- The call returns. -/
def FacadeRun.finish (s : FacadeRun ι) (c : ι) (success : Bool) : FacadeRun ι :=
  (s.setStage c (.returned success)).log (.returned c success)

def allReady : Fin 11 → ProbeStage :=
  fun _ => .ready

/-- One atomic step of one call. -/
def FacadeRun.after (request : ι → FacadeRequest) (generation : ι → Nat) (s : FacadeRun ι) :
    FacadeEvent ι → Option (FacadeRun ι)
  | .load c =>
      match s.stages c with
      | .start =>
          if generation c = 0 then some (s.finish c false)
          else some (s.setStage c (.comparing s.latestGeneration))
      | _ => none
  | .exchange c =>
      match s.stages c with
      | .comparing current =>
          if generation c ≤ current then some (s.finish c false)
          else if s.latestGeneration = current then
            some (({ s with latestGeneration := generation c }.setStage c .accepted).log
              (.accepted c (generation c)))
          else some (s.setStage c (.comparing s.latestGeneration))
      | _ => none
  | .dispatch c success =>
      match s.stages c with
      | .accepted =>
          match request c with
          | .snapshot => some (s.setStage c (.probing .snapshot allReady))
          | .mutate true => some (s.setStage c (.probing .outputDevices allReady))
          | .mutate false =>
              if success then some (s.setStage c (.commanding false)) else some (s.finish c false)
          | .perform =>
              if success then some (s.setStage c (.commanding false)) else some (s.finish c false)
      | _ => none
  | .runProbe c worker =>
      match s.stages c with
      | .probing purpose workers =>
          if workers worker = .ready then
            -- `RequestRunner::run`: the check and the start are one step
            if generation c < s.latestGeneration then some s
            else
              some ((s.setStage c
                (.probing purpose (Function.update workers worker .running))).log (.started c))
          else none
      | _ => none
  | .finishProbe c worker =>
      match s.stages c with
      | .probing purpose workers =>
          if workers worker = .running then
            some ((s.setStage c
              (.probing purpose (Function.update workers worker .ready))).log (.finished c))
          else none
      | _ => none
  | .probeDone c worker =>
      match s.stages c with
      | .probing purpose workers =>
          if workers worker = .ready then
            some (s.setStage c (.probing purpose (Function.update workers worker .done)))
          else none
      | _ => none
  | .runCommand c =>
      match s.stages c with
      | .commanding false =>
          if generation c < s.latestGeneration then some s
          else some ((s.setStage c (.commanding true)).log (.started c))
      | _ => none
  | .finishCommand c =>
      match s.stages c with
      | .commanding true => some ((s.setStage c (.commanding false)).log (.finished c))
      | _ => none
  | .commandResult c success =>
      match s.stages c with
      | .commanding false =>
          match request c with
          | .perform => some (s.setStage c .acted)
          | _ =>
              if success then some (s.setStage c (.probing .readback allReady))
              else some (s.finish c false)
      | _ => none
  | .ensure c =>
      match s.stages c with
      | .probing purpose workers =>
          if ∀ worker, workers worker = .done then
            if generation c < s.latestGeneration then some (s.finish c false)
            else some (s.setStage c (.ensured purpose))
          else none
      | .acted =>
          if generation c < s.latestGeneration then some (s.finish c false)
          else some (s.setStage c (.ensured .action))
      | _ => none
  | .conclude c success =>
      match s.stages c with
      | .ensured .outputDevices =>
          if success then some (s.setStage c (.commanding false)) else some (s.finish c false)
      | .ensured _ => some (s.finish c success)
      | _ => none

def FacadeRun.start : FacadeRun ι where
  latestGeneration := 0
  stages := fun _ => .start
  history := []

/-- All interleavings of the calls; each has its request and its generation. -/
def facadeSystem (request : ι → FacadeRequest) (generation : ι → Nat) :
    System (FacadeRun ι) (FacadeEvent ι) :=
  .ofStep (fun s => s = FacadeRun.start) (fun s e => s.after request generation e)

end Steps

end SystemFacade
end SleepySession
