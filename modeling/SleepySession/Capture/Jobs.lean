import SleepySession.Lib.Run

/-!
# Capture jobs

The capture service keeps a bounded table of jobs.  A job is begun by a request
and carried on by a worker that follows its helper process, publishes the image
and records how the job ended.  Requests and the last step of a worker hold the
lock of the table; the steps of the workers interleave with everything else.

What the system answers is part of the step: whether the memory file can be
created, how a publication ends and which removals work.  Serial numbers of jobs
and the origin of a file are not in the program; they say which job is meant.
-/

namespace SleepySession
namespace Capture

def HISTORY : Nat := 16

inductive CaptureState where
  | awaitingConsent
  | capturing
  | completed
  | cancelled
  | failed
deriving DecidableEq, Repr

inductive CaptureErrorCode where
  | invalidRequest
  | unavailable
  | notFound
  | busy
  | consentTimedOut
  | captureFailed
deriving DecidableEq, Repr

structure CaptureDiagnostic where
  code : CaptureErrorCode
  message : String
deriving DecidableEq, Repr

structure CapturePng where
  path : String
  mimeType : String
  width : Nat
  height : Nat
deriving DecidableEq, Repr

structure CaptureJob where
  jobId : String
  outputId : String
  state : CaptureState
  result : Option CapturePng
  diagnostic : Option CaptureDiagnostic
deriving DecidableEq, Repr

inductive CapturePayload where
  | capabilities (screenshot colorPicker : Bool)
  | job (job : CaptureJob)
  | error (diagnostic : CaptureDiagnostic)
deriving DecidableEq, Repr

/-- Device and inode. -/
abbrev Identity := Nat × Nat

def active : CaptureState → Bool
  | .awaitingConsent | .capturing => true
  | _ => false

def failure (code : CaptureErrorCode) (message : String) : CapturePayload :=
  .error ⟨code, message⟩

structure Entry where
  serial : Nat
  identity : Option Identity
  job : CaptureJob
deriving DecidableEq, Repr

/-- A message of the helper. -/
structure HelperStatus where
  state : CaptureState
  diagnostic : Option CaptureDiagnostic
deriving DecidableEq, Repr

/-- A file of the capture directory; `owned` when it is a regular file of this user. -/
structure FileNode where
  identity : Identity
  owned : Bool
  origin : Option Nat
deriving DecidableEq, Repr

abbrev Files := String → Option FileNode

/-- The variables of the loop that follows the helper. -/
structure HelperLoop where
  frames : Nat
  last : Option HelperStatus
  eof : Bool
  stderrBytes : Nat
  stderrEof : Bool
  leaderExited : Bool

def HelperLoop.new : HelperLoop where
  frames := 0
  last := none
  eof := false
  stderrBytes := 0
  stderrEof := false
  leaderExited := false

inductive Phase where
  | spawning
  | following (loop : HelperLoop)
  /-- The helper is gone. -/
  | outcome (result : Except CaptureDiagnostic CaptureState)
  /-- The image was published with an error; its file is to be removed. -/
  | withdrawing (snapshot : Option Identity)
  | final (result : Except CaptureDiagnostic (Option (CapturePng × Identity)))

structure Worker where
  id : String
  phase : Phase

structure CaptureService where
  path : String
  helper : Option String
  jobs : List Entry
  stopping : Bool
  files : Files
  workers : Nat → Option Worker
  tokens : Nat → Bool
  /-- The number of jobs begun so far. -/
  begun : Nat

/-- What the system answers to a Begin request. -/
structure BeginAnswers where
  /-- `entry_metadata` works. -/
  metadata : Bool
  /-- The file of this name can be looked up and removed. -/
  removable : String → Bool
  /-- `capture_memfd` works. -/
  memfd : Bool

def resultName (jobId : String) : String :=
  "screenshot-" ++ jobId ++ ".png"

/-- `remove_known`, which ignores every failure. -/
def removeKnown (files : Files) (name : String) (identity : Identity) (works : Bool) : Files :=
  match files name with
  | some node =>
      if works && node.owned && node.identity == identity then Function.update files name none
      else files
  | none => files

/-- A file is removed where its identity is known. -/
def removeIfKnown (files : Files) (name : String) (identity : Option Identity) (works : Bool) :
    Files :=
  match identity with
  | some identity => removeKnown files name identity works
  | none => files

/-- The loop of a Begin request that makes room in the history. -/
def evict (removable : String → Bool) : List Entry → Files → List Entry × Files
  | [], files => ([], files)
  | old :: rest, files =>
      if HISTORY ≤ (old :: rest).length then
        evict removable rest
          (removeIfKnown files (resultName old.job.jobId) old.identity
            (removable (resultName old.job.jobId)))
      else (old :: rest, files)

/-- The first entry of a job, changed in place. -/
def updateEntry (id : String) (f : Entry → Entry) : List Entry → List Entry
  | [] => []
  | e :: rest => if e.job.jobId = id then f e :: rest else e :: updateEntry id f rest

namespace CaptureService

variable (s : CaptureService)

def find (id : String) : Option Entry :=
  s.jobs.find? fun e => e.job.jobId = id

def stoppingFailure : CapturePayload :=
  failure .unavailable "Capture service is stopping"

def notFound : CapturePayload :=
  failure .notFound "Capture job was not found"

def capabilities : CapturePayload :=
  if s.stopping then stoppingFailure else .capabilities s.helper.isSome false

def status (id : String) : CapturePayload :=
  if s.stopping then stoppingFailure
  else
    match s.find id with
    | some entry => .job entry.job
    | none => notFound

def cancel (id : String) : CapturePayload × CaptureService :=
  if s.stopping then (stoppingFailure, s)
  else
    match s.find id with
    | some entry =>
        (.job entry.job,
          if active entry.job.state then
            { s with tokens := Function.update s.tokens entry.serial true }
          else s)
    | none => (notFound, s)

def newJob (id output : String) : CaptureJob where
  jobId := id
  outputId := output
  state := .awaitingConsent
  result := none
  diagnostic := none

/-- A new entry and the worker spawned for it. -/
def spawn (id output : String) : CaptureService :=
  { s with
    jobs := s.jobs ++ [⟨s.begun, none, newJob id output⟩]
    workers := Function.update s.workers s.begun (some ⟨id, .spawning⟩)
    tokens := Function.update s.tokens s.begun false
    begun := s.begun + 1 }

/-- `handle` on a Begin request. -/
def begin (id output : String) (answers : BeginAnswers) : CapturePayload × CaptureService :=
  if s.stopping then (stoppingFailure, s)
  else
    match s.find id with
    | some entry =>
        if entry.job.outputId = output then (.job entry.job, s)
        else (failure .invalidRequest "Job ID already has a different output", s)
    | none =>
        if s.jobs.any fun e => active e.job.state then
          (failure .busy "Another capture is active", s)
        else
          match s.helper with
          | none => (failure .unavailable "Capture helper is unavailable", s)
          | some _ =>
              if !(answers.metadata && (s.files (resultName id)).isNone) then
                (failure .invalidRequest "Capture result path already exists or is unsafe", s)
              else
                let (jobs, files) := evict answers.removable s.jobs s.files
                let s := { s with jobs := jobs, files := files }
                if !answers.memfd then
                  (failure .unavailable "Capture memory file could not be created", s)
                else (.job (newJob id output), s.spawn id output)

def shutdown : CaptureService :=
  { s with
    stopping := true
    tokens := fun k => s.tokens k || s.jobs.any fun e => e.serial == k }

end CaptureService

/-- What a worker meets next. -/
inductive WorkerEvent where
  | spawnFailed
  | spawned
  | cancelled
  | deadline
  /-- The next frame of the helper's output, if it has not ended. -/
  | line (message : Option (Except Unit (Option HelperStatus)))
  /-- Bytes of the helper's diagnostics; zero at their end. -/
  | stderr (bytes : Nat)
  | exited (waited : Bool)
  /-- `child.wait` is answered with success or not, or fails. -/
  | reaped (status : Option Bool)
  | settled
  /-- The image is not a private valid PNG, or was not published; a temporary file may be left. -/
  | notPublished (left : Option String)
  | published (identity : Identity) (width height : Nat)
  | publishedWithError (identity : Identity) (snapshot : Bool)
  | withdrawn (works : Bool)
  | finished (works : Bool)

def captureFailed (message : String) : CaptureDiagnostic :=
  ⟨.captureFailed, message⟩

def notPng : CaptureDiagnostic :=
  captureFailed "Capture result is not a private valid PNG"

def safeDiagnostic : Option CaptureDiagnostic → CaptureDiagnostic
  | some v =>
      if !v.message.isEmpty && v.message.utf8ByteSize ≤ 256 &&
          !v.message.toList.any fun c => c.toNat < 32 || (127 ≤ c.toNat && c.toNat < 160) then v
      else captureFailed "Capture helper failed"
  | none => captureFailed "Capture helper failed"

/-- A frame of the helper, with the state that `update_state` is called for. -/
def HelperLoop.line (loop : HelperLoop) :
    Option (Except Unit (Option HelperStatus)) → Phase × Bool
  | none => (.following { loop with eof := true }, false)
  | some (.error _) =>
      (.outcome (.error (captureFailed "Invalid capture helper framing")), false)
  | some (.ok message) =>
      let frames := loop.frames + 1
      if 16 < frames then
        (.outcome (.error (captureFailed "Too many capture helper messages")), false)
      else
        match message with
        | none => (.outcome (.error (captureFailed "Invalid capture helper message")), false)
        | some value =>
            if loop.last.any fun v => !active v.state then
              (.outcome (.error
                (captureFailed "Capture helper sent messages after completion")), false)
            else
              (.following { loop with frames := frames, last := some value },
                value.state == .capturing)

def HelperLoop.stderr (loop : HelperLoop) (bytes : Nat) : Phase :=
  if bytes = 0 then .following { loop with stderrEof := true }
  else if 65536 < loop.stderrBytes + bytes then
    .outcome (.error (captureFailed "Capture helper diagnostics exceeded limit"))
  else .following { loop with stderrBytes := loop.stderrBytes + bytes }

/-- The outcome once the helper has been reaped. -/
def HelperLoop.reaped (loop : HelperLoop) (status : Option Bool) :
    Except CaptureDiagnostic CaptureState :=
  match status, loop.last with
  | some true, some ⟨.completed, _⟩ => .ok .completed
  | some true, some ⟨.cancelled, _⟩ => .ok .cancelled
  | _, some ⟨.failed, diagnostic⟩ => .error (safeDiagnostic diagnostic)
  | _, _ => .error (captureFailed "Capture helper exited without a successful result")

def setState (value : CaptureState) (e : Entry) : Entry :=
  { e with job := { e.job with state := value } }

/-- How the entry of a job records its final result. -/
def conclude (result : Except CaptureDiagnostic (Option (CapturePng × Identity)))
    (e : Entry) : Entry :=
  match result with
  | .ok (some (png, identity)) =>
      { e with
        identity := some identity
        job := { e.job with state := .completed, result := some png } }
  | .ok none => setState .cancelled e
  | .error error =>
      { e with job := { e.job with state := .failed, diagnostic := some error } }

/-- The file of a final result. -/
def publishedIdentity :
    Except CaptureDiagnostic (Option (CapturePng × Identity)) → Option Identity
  | .ok (some (_, identity)) => some identity
  | _ => none

namespace CaptureService

variable (s : CaptureService)

def setPhase (k : Nat) (w : Worker) (phase : Phase) : CaptureService :=
  { s with workers := Function.update s.workers k (some { w with phase := phase }) }

/-- `update_state`. -/
def updateState (id : String) (value : CaptureState) : CaptureService :=
  { s with jobs := updateEntry id (setState value) s.jobs }

def pngOf (id : String) (width height : Nat) : CapturePng where
  path := s.path ++ "/" ++ resultName id
  mimeType := "image/png"
  width := width
  height := height

/-- A new file under the result's name, if nothing is there. -/
def publish (k : Nat) (w : Worker) (identity : Identity) (phase : Phase) :
    Option CaptureService :=
  if (s.files (resultName w.id)).isSome then none
  else
    some { s.setPhase k w phase with
      files := Function.update s.files (resultName w.id) (some ⟨identity, true, some k⟩) }

/-- A failed publication; its temporary file stays when it cannot be removed. -/
def leave (k : Nat) (w : Worker) (left : Option String) : Option CaptureService :=
  match left with
  | none => some (s.setPhase k w (.final (.error notPng)))
  | some temporary =>
      if (s.files temporary).isSome then none
      else
        some { s.setPhase k w (.final (.error notPng)) with
          files := Function.update s.files temporary (some ⟨(0, 0), true, some k⟩) }

/-- The end of `run`, with the lock held. -/
def finish (k : Nat) (w : Worker)
    (result : Except CaptureDiagnostic (Option (CapturePng × Identity))) (works : Bool) :
    CaptureService :=
  let s := { s with workers := Function.update s.workers k none }
  if s.tokens k then
    { s with
      files := removeIfKnown s.files (resultName w.id) (publishedIdentity result) works
      jobs := updateEntry w.id (conclude (.ok none)) s.jobs }
  else { s with jobs := updateEntry w.id (conclude result) s.jobs }

/-- One step of the worker of a job. -/
def advance (k : Nat) (w : Worker) (event : WorkerEvent) : Option CaptureService :=
  match w.phase, event with
  | .spawning, .spawnFailed =>
      some (s.setPhase k w
        (.outcome (.error ⟨.unavailable, "Capture helper could not start"⟩)))
  | .spawning, .spawned => some (s.setPhase k w (.following .new))
  | .following _, .cancelled =>
      if s.tokens k then some (s.setPhase k w (.outcome (.ok .cancelled))) else none
  | .following _, .deadline =>
      some (s.setPhase k w
        (.outcome (.error ⟨.consentTimedOut, "Capture consent or delivery timed out"⟩)))
  | .following loop, .line message =>
      if loop.eof then none
      else
        let (phase, capturing) := loop.line message
        let s := s.setPhase k w phase
        some (if capturing then s.updateState w.id .capturing else s)
  | .following loop, .stderr bytes =>
      if loop.stderrEof then none else some (s.setPhase k w (loop.stderr bytes))
  | .following loop, .exited waited =>
      if loop.leaderExited then none
      else if waited then some (s.setPhase k w (.following { loop with leaderExited := true }))
      else
        some (s.setPhase k w (.outcome (.error (captureFailed "Capture helper wait failed"))))
  | .following loop, .reaped status =>
      if loop.eof && loop.leaderExited then
        some (s.setPhase k w (.outcome (loop.reaped status)))
      else none
  | .outcome (.ok .completed), .notPublished left => s.leave k w left
  | .outcome (.ok .completed), .published identity width height =>
      s.publish k w identity (.final (.ok (some (s.pngOf w.id width height, identity))))
  | .outcome (.ok .completed), .publishedWithError identity snapshot =>
      s.publish k w identity (.withdrawing (if snapshot then some identity else none))
  | .outcome (.ok state), .settled =>
      if state = .completed then none else some (s.setPhase k w (.final (.ok none)))
  | .outcome (.error error), .settled => some (s.setPhase k w (.final (.error error)))
  | .withdrawing snapshot, .withdrawn works =>
      some { s.setPhase k w (.final (.error notPng)) with
        files := removeIfKnown s.files (resultName w.id) snapshot works }
  | .final result, .finished works => some (s.finish k w result works)
  | _, _ => none

end CaptureService

inductive CaptureStep where
  | status (id : String)
  | cancel (id : String)
  | begin (id output : String) (answers : BeginAnswers)
  | shutdown
  | worker (k : Nat) (event : WorkerEvent)

namespace CaptureService

/-- One request, or one step of the worker of a job. -/
def after (s : CaptureService) : CaptureStep → Option CaptureService
  | .status _ => some s
  | .cancel id => some (s.cancel id).2
  | .begin id output answers => some (s.begin id output answers).2
  | .shutdown => some s.shutdown
  | .worker k event => (s.workers k).bind fun w => s.advance k w event

/-- `CaptureService::open` on a directory that holds no file of a job. -/
def IsNew (s : CaptureService) : Prop :=
  s.jobs = [] ∧ s.stopping = false ∧ s.workers = (fun _ => none) ∧
    (∀ name node, s.files name = some node → node.origin = none) ∧ s.begun = 0

end CaptureService

/-- All interleavings of requests and worker steps. -/
def captureSystem : System CaptureService CaptureStep :=
  System.ofStep CaptureService.IsNew CaptureService.after

/--
What keeps table and files together: a Begin request that has to make room gets
its memory file, a publication that ends with an error leaves a snapshot to
remove the file by, and a file that is to be removed can be removed.
-/
def Careful (s : CaptureService) : CaptureStep → Prop
  | .begin _ _ answers =>
      (answers.memfd = true ∨ s.jobs.length < HISTORY) ∧ ∀ name, answers.removable name = true
  | .worker _ (.notPublished left) => left = none
  | .worker _ (.publishedWithError _ snapshot) => snapshot = true
  | .worker _ (.withdrawn works) => works = true
  | .worker _ (.finished works) => works = true
  | _ => True

end Capture
end SleepySession
