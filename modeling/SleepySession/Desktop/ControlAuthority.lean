import SleepySession.Desktop.AuthorityStream
import SleepySession.Desktop.DedupeLog

/-!
# The desktop control authority

A control request is executed once.  The authority looks it up in the durable
log, compares the generation that the client has seen with the current one,
records the request, hands it to the executor, publishes what it has read back
and the result, and records the result.  Requests are handled one at a time,
while producers go on publishing.

A process may end anywhere; a request that is being handled is otherwise
handled to its end.  A restart that fails has only used the generation file,
like the other users of that file.
-/

namespace SleepySession

/-- The file of the log, which a process leaves behind. -/
def LogState.files {β ρ : Type} : LogState β ρ → DedupeFiles β
  | .running log => log.directory
  | .closed files => files

namespace Desktop

open Sessiond
open DurableDedupe (Call)

/-- `DesktopRequest`; the executor alone looks at the operation. -/
structure DesktopRequest (ω : Type) where
  requestId : String
  expectedGeneration : Nat
  operation : ω
deriving DecidableEq, Repr

inductive DesktopMutationOutcome (V : DesktopDomainId → Type) where
  | confirmed (readbacks : List (DesktopDomainState V))
  | acknowledged
  | terminalFailure (readbacks : List (DesktopDomainState V)) (diagnosticCode : String)

def publicMutationDiagnostic (code : String) : String :=
  if code = "mutation.readback-missing" then "mutation.readback-missing"
  else if code = "mutation.readback-terminal" then "mutation.readback-terminal"
  else if code = "brightness.output-target-unmapped" then "brightness.output-target-unmapped"
  else if code = "capture.portal-unavailable" then "capture.portal-unavailable"
  else "mutation.terminal-failure"

section Functions

variable {V : DesktopDomainId → Type} {ω : Type}

/-- What `handle_json` makes of an execution: states to publish, and a result. -/
structure Settlement (V : DesktopDomainId → Type) where
  readbacks : List (DesktopDomainState V)
  status : DesktopResultStatus
  diagnostic : Option CapabilityFailure

/-- A failed execution has a `ProducerError`, whose text is not passed on. -/
def settle : Except String (DesktopMutationOutcome V) → Settlement V
  | .ok (.confirmed []) => ⟨[], .failed, some ⟨"mutation.readback-missing"⟩⟩
  | .ok (.confirmed readbacks) =>
      if readbacks.any (fun readback => readback.status ≠ .available) then
        ⟨readbacks, .failed, some ⟨"mutation.readback-terminal"⟩⟩
      else ⟨readbacks, .succeeded, none⟩
  | .ok .acknowledged => ⟨[], .succeeded, none⟩
  | .ok (.terminalFailure readbacks diagnosticCode) =>
      ⟨readbacks, .failed, some ⟨publicMutationDiagnostic diagnosticCode⟩⟩
  | .error _ => ⟨[], .failed, some ⟨"mutation.backend-failed"⟩⟩

def failedResult (sdk : DesktopSdk V) (requestId : String) (generation : Nat)
    (diagnostic : String) : Except IoError DesktopResult :=
  let result : DesktopResult :=
    ⟨sdk.wireVersion, requestId, generation, .failed, some ⟨diagnostic⟩⟩
  match sdk.validateResult result with
  | .error e => .error ⟨.invalidData, e⟩
  | .ok _ => .ok result

def requestCause (request : DesktopRequest ω) : EventCause :=
  ⟨.request, some request.requestId⟩

end Functions

section Runs

variable {V : DesktopDomainId → Type} {β ω : Type}

/-- How far the request is that is being handled. -/
inductive HandleStage (V : DesktopDomainId → Type) (ω : Type) where
  | idle
  /-- The log does not know the request. -/
  | unknown (request : DesktopRequest ω)
  /-- The generation is the one that the client has seen. -/
  | matched (request : DesktopRequest ω)
  /-- The generation is another one, and this is the result. -/
  | refused (request : DesktopRequest ω) (result : DesktopResult)
  /-- The request is recorded. -/
  | begun (request : DesktopRequest ω)
  /-- The request has been executed. -/
  | executed (request : DesktopRequest ω) (settlement : Settlement V)
  /-- The result is published. -/
  | answered (request : DesktopRequest ω) (result : DesktopResult)

/-- The state authority, the log and the request at hand. -/
structure ControlRun (V : DesktopDomainId → Type) (β ω : Type) where
  run : AuthorityRun V
  log : LogState β DesktopResult
  stage : HandleStage V ω
  /-- Everything handed to the executor, newest first. -/
  executed : List (DesktopRequest ω)

abbrev DedupeScript (β : Type) :=
  List (Answer Unit β)

inductive ControlEvent (V : DesktopDomainId → Type) (β ω : Type) where
  | receive (request : DesktopRequest ω)
  | checkGeneration
  | begin (script : DedupeScript β)
  | execute (result : Except String (DesktopMutationOutcome V))
  | publishReadback (stamps : Stamps) (script : GenerationScript)
  | publishResult (stamps : Stamps) (script : GenerationScript)
  | complete (script : DedupeScript β)
  /-- Producers, subscribers and the initialization go on. -/
  | authority (e : AuthorityEvent V)
  | exit
  | powerLoss
  | restart (generationScript : GenerationScript) (script : DedupeScript β)

/-- The events of the state authority that leave its process alone. -/
def Ordinary (me : Nat) : AuthorityEvent V → Prop
  | .openAuthority _ => False
  | .others e => e ≠ .powerLoss ∧ e ≠ .close me
  | _ => True

namespace ControlRun

variable (s : ControlRun V β ω)

/-- The process has ended. -/
def exited : ControlRun V β ω :=
  { s with
    run :=
      { s.run with
        generations := s.run.generations.place s.run.me s.run.generations.files none }
    log := .closed s.log.files
    stage := .idle }

/-- `lookup`, whose answer or error ends the request. -/
def receive (log : DurableDedupe β DesktopResult) (request : DesktopRequest ω) :
    ControlRun V β ω :=
  match DurableDedupe.lookup log.document request.requestId with
  | some _ => s
  | none => { s with stage := .unknown request }

/-- `checked_generation`, and the result for a request that is too late. -/
def checkGeneration (sdk : DesktopSdk V) (request : DesktopRequest ω) : ControlRun V β ω :=
  if s.run.authority.currentGeneration = request.expectedGeneration then
    { s with stage := .matched request }
  else
    match failedResult sdk request.requestId s.run.authority.currentGeneration
        "request.generation-stale" with
    | .error _ => { s with stage := .idle }
    | .ok result => { s with stage := .refused request result }

/-- The state after an operation of the log, with the stage that its success leads to. -/
def afterLog (stage : HandleStage V ω) :
    Outcome IoError Unit × DurableDedupe β DesktopResult → ControlRun V β ω
  | (.ok _, log) => { s with log := .running log, stage := stage }
  | (.error _, log) => { s with log := .running log, stage := .idle }
  | (.crashed, log) => { s with log := .running log }.exited

/-- The state after a publication, with the stage that its success leads to. -/
def afterReadback (stage : HandleStage V ω) :
    Outcome IoError (Option (DesktopEnvelope V)) × AuthorityRun V → ControlRun V β ω
  | (.ok (some _), run) => { s with run := run, stage := stage }
  | (.ok none, run) => { s with run := run, stage := .idle }
  | (.error _, run) => { s with run := run, stage := .idle }
  | (.crashed, run) => { s with run := run }.exited

/-- The state after the publication of the result. -/
def afterResult (request : DesktopRequest ω) :
    Outcome IoError (DesktopEnvelope V × DesktopResult) × AuthorityRun V → ControlRun V β ω
  | (.ok (_, result), run) => { s with run := run, stage := .answered request result }
  | (.error _, run) => { s with run := run, stage := .idle }
  | (.crashed, run) => { s with run := run }.exited

variable (sdk : DesktopSdk V) (dedupe : DedupeSdk β DesktopResult) (maximumRecords : Nat)
variable [Inhabited β]

/-- One critical section of `handle_json`, or a step of the surroundings. -/
def step (slots : Nat) : ControlEvent V β ω → ControlRun V β ω → Prop
  | .receive request, s' =>
      s.stage = .idle ∧ ∃ log, s.log = .running log ∧ s' = s.receive log request
  | .checkGeneration, s' =>
      ∃ request, s.stage = .unknown request ∧ s' = s.checkGeneration sdk request
  | .begin script, s' =>
      ∃ request log, s.stage = .matched request ∧ s.log = .running log ∧
        s' = s.afterLog (.begun request)
          (((Call.begin request.requestId).program dedupe).run script log)
  | .execute result, s' =>
      ∃ request, s.stage = .begun request ∧
        s' = { s with
          stage := .executed request (settle result)
          executed := request :: s.executed }
  | .publishReadback stamps script, s' =>
      ∃ request readback rest status diagnostic a,
        s.stage = .executed request ⟨readback :: rest, status, diagnostic⟩ ∧
        s.run.generations.allocators s.run.me = some a ∧
        s' = s.afterReadback (.executed request ⟨rest, status, diagnostic⟩)
          (s.run.publishDomain sdk a (.unversioned readback) (requestCause request) none stamps
            script)
  | .publishResult stamps script, s' =>
      ∃ request status diagnostic a, s.stage = .executed request ⟨[], status, diagnostic⟩ ∧
        s.run.generations.allocators s.run.me = some a ∧
        s' = s.afterResult request
          (s.run.publishCommandResult sdk a ⟨request.requestId, status, diagnostic⟩ stamps script)
  | .complete script, s' =>
      ∃ request result log,
        (s.stage = .answered request result ∨ s.stage = .refused request result) ∧
        s.log = .running log ∧
        s' = s.afterLog .idle
          (((Call.complete request.requestId result).program dedupe).run script log)
  | .authority e, s' =>
      Ordinary s.run.me e ∧ ∃ run, s.run.step sdk slots e run ∧ s' = { s with run := run }
  | .exit, s' => s' = s.exited
  | .powerLoss, s' =>
      ∃ generations files, s.run.generations.step .powerLoss generations ∧
        s.log.files.Reverts files ∧
        s' = { s with
          run := { s.run with generations := generations }
          log := .closed files
          stage := .idle }
  | .restart generationScript script, s' =>
      ∃ files, s.log = .closed files ∧
        (GenerationAllocator.open.run generationScript
          ⟨s.run.generations.files, .new 64⟩).1 = .ok () ∧
        ∃ log files', (DurableDedupe.open dedupe maximumRecords).run script files =
            (.ok log, files') ∧
          s' = { s with
            run := s.run.openAuthority generationScript
            log := .running log
            stage := .idle }

end ControlRun

/-- All runs of one control authority after another over the same two files. -/
def controlSystem [Inhabited β] (sdk : DesktopSdk V) (dedupe : DedupeSdk β DesktopResult)
    (maximumRecords slots : Nat) : System (ControlRun V β ω) (ControlEvent V β ω) where
  initial s := ∃ run files files' script log content,
    (authoritySystem sdk slots).initial run ∧ DurableDedupe.cell files = Cell.settled content ∧
      (DurableDedupe.open dedupe maximumRecords).run script files = (.ok log, files') ∧
      s = ⟨run, .running log, .idle, []⟩
  step s e s' := s.step sdk dedupe maximumRecords slots e s'

end Runs

end Desktop
end SleepySession
