import SleepySession.Supervisor.Protocol

/-!
# Captured output

The supervisor captures both outputs of the command up to a limit, in rounds,
until the command ends, the parent cancels, the time is over or something fails.
Whatever the pipes, the processes and the clock do, a response carries at most
the limit of each output.
-/

namespace SleepySession
namespace Supervisor

/-- What one read of a pipe returns; no bytes is the end of the output. -/
inductive ReadResult where
  | bytes (chunk : List UInt8)
  | wouldBlock
  | failed (error : String)
deriving DecidableEq

structure OutputCapture where
  bytes : List UInt8
  limit : Nat
  exceeded : Bool
deriving DecidableEq

namespace OutputCapture

def new (limit : Nat) : OutputCapture :=
  ⟨[], limit, false⟩

/-- Keep as much of a chunk as there is room for. -/
def extend (capture : OutputCapture) (chunk : List UInt8) : OutputCapture :=
  let remaining := capture.limit - capture.bytes.length
  { capture with
    bytes := capture.bytes ++ chunk.take (min chunk.length remaining)
    exceeded := capture.exceeded || decide (chunk.length > remaining) }

/-- `output_error`. -/
def outputError (error : String) : RunnerError :=
  ⟨.io, s!"could not read adapter output: {error}"⟩

/-- The loop of `read_available` over what the reads return. -/
def readLoop : Nat → OutputCapture → List ReadResult → Except RunnerError Bool × OutputCapture
  | 0, capture, _ => (.ok false, capture)
  | _ + 1, capture, [] => (.ok false, capture)
  | _ + 1, capture, .bytes [] :: _ => (.ok true, capture)
  | _ + 1, capture, .wouldBlock :: _ => (.ok false, capture)
  | _ + 1, capture, .failed error :: _ => (.error (outputError error), capture)
  | rounds + 1, capture, .bytes chunk :: reads => readLoop rounds (capture.extend chunk) reads

def readAvailable (capture : OutputCapture) (reads : List ReadResult) :
    Except RunnerError Bool × OutputCapture :=
  readLoop 16 capture reads

def finish (capture : OutputCapture) : Except RunnerError (List UInt8) :=
  if capture.exceeded then
    .error ⟨.io, "adapter output exceeded the bounded capture limit"⟩
  else
    .ok capture.bytes

end OutputCapture

open OutputCapture

/-- What the two outputs return when both are read once. -/
structure Reads where
  stdout : List ReadResult
  stderr : List ReadResult
deriving DecidableEq

/-- What the environment says in one round of the supervisor. -/
structure Round where
  reads : Reads
  /-- `parent_control_cancelled`. -/
  parent : Except String Bool
  /-- `try_wait`: the exit code of a command that ended, if it has one. -/
  child : Except String (Option (Option Int32))
  timeLeft : Bool

/-- What the environment says when the supervisor gives up or is done. -/
structure Closing where
  terminated : Bool
  drained : List Reads

/-- How far the supervisor gets before its first round. -/
inductive Start where
  | noSubreaper
  | noCommand
  | noPipes
  | started
deriving DecidableEq

/-- `drain_closed_boundary`: read on until both outputs are closed or time is over. -/
def drainClosedBoundary (stdout stderr : OutputCapture) :
    List Reads → OutputCapture × OutputCapture
  | [] => (stdout, stderr)
  | reads :: more =>
      let (stdoutClosed, stdout) := stdout.readAvailable reads.stdout
      let (stderrClosed, stderr) := stderr.readAvailable reads.stderr
      if stdoutClosed.toOption.getD true && stderrClosed.toOption.getD true then
        (stdout, stderr)
      else
        drainClosedBoundary stdout stderr more

/-- The response for a command that ended. -/
def exitResponse (code : Option Int32) (captures : OutputCapture × OutputCapture) :
    SupervisorResponse :=
  if captures.1.exceeded || captures.2.exceeded then
    .outputLimit
  else
    match captures.1.finish, captures.2.finish with
    | .ok stdout, .ok stderr => .exited (code.getD 128) stdout stderr
    | _, _ => .io

/-- The loop of `supervise_command`; there is no response while it goes on. -/
def superviseLoop (closing : Closing) :
    OutputCapture → OutputCapture → List Round → Option SupervisorResponse
  | _, _, [] => none
  | stdout, stderr, round :: rounds =>
      match stdout.readAvailable round.reads.stdout with
      | (.error _, _) => some .io
      | (.ok _, stdout) =>
          match stderr.readAvailable round.reads.stderr with
          | (.error _, _) => some .io
          | (.ok _, stderr) =>
              match round.parent with
              | .ok true => some .cancelled
              | .error _ => some .io
              | .ok false =>
                  match round.child with
                  | .ok (some code) =>
                      if closing.terminated then
                        some (exitResponse code (drainClosedBoundary stdout stderr closing.drained))
                      else
                        some .io
                  | .ok none =>
                      if round.timeLeft then
                        superviseLoop closing stdout stderr rounds
                      else
                        some .timeout
                  | .error _ => some .io

/-- `supervise_command`. -/
def superviseCommand (request : SupervisorRequest) (start : Start) (rounds : List Round)
    (closing : Closing) : Option SupervisorResponse :=
  match start with
  | .noSubreaper => some .io
  | .noCommand => some .spawn
  | .noPipes => some .io
  | .started =>
      superviseLoop closing (.new request.maxOutputBytes.toNat)
        (.new request.maxOutputBytes.toNat) rounds

section Bounds

variable {capture stdout stderr : OutputCapture} {limit : Nat}

/-- A capture within the given limit. -/
def Within (limit : Nat) (capture : OutputCapture) : Prop :=
  capture.limit = limit ∧ capture.bytes.length ≤ limit

theorem within_new (limit : Nat) : Within limit (.new limit) :=
  ⟨rfl, Nat.zero_le _⟩

theorem Within.extend (h : Within limit capture) (chunk : List UInt8) :
    Within limit (capture.extend chunk) := by
  refine ⟨h.1, ?_⟩
  have hlength := h.2
  simp only [OutputCapture.extend, List.length_append, List.length_take, h.1]
  omega

theorem Within.readLoop {rounds : Nat} {reads : List ReadResult} (h : Within limit capture) :
    Within limit (readLoop rounds capture reads).2 := by
  fun_induction OutputCapture.readLoop rounds capture reads with
  | case6 rounds capture chunk reads hne ih => exact ih (h.extend chunk)
  | _ => exact h

theorem Within.readAvailable (h : Within limit capture) (reads : List ReadResult) :
    Within limit (capture.readAvailable reads).2 :=
  h.readLoop

theorem within_drain {drained : List Reads} (hout : Within limit stdout)
    (herr : Within limit stderr) :
    Within limit (drainClosedBoundary stdout stderr drained).1 ∧
      Within limit (drainClosedBoundary stdout stderr drained).2 := by
  induction drained generalizing stdout stderr with
  | nil => exact ⟨hout, herr⟩
  | cons reads more ih =>
      have hout' := hout.readAvailable reads.stdout
      have herr' := herr.readAvailable reads.stderr
      simp only [drainClosedBoundary]
      split
      · exact ⟨hout', herr'⟩
      · exact ih hout' herr'

/-- A response that carries at most `limit` bytes of each output. -/
def Carries (limit : Nat) (response : SupervisorResponse) : Prop :=
  response.stdout.length ≤ limit ∧ response.stderr.length ≤ limit

theorem carries_ofError (tag : UInt8) : Carries limit (.ofError tag) :=
  ⟨Nat.zero_le _, Nat.zero_le _⟩

theorem carries_exitResponse {code : Option Int32} {captures : OutputCapture × OutputCapture}
    (hout : Within limit captures.1) (herr : Within limit captures.2) :
    Carries limit (exitResponse code captures) := by
  unfold exitResponse
  split
  · exact carries_ofError _
  · rename_i hexceeded
    simp only [Bool.or_eq_true, not_or, Bool.not_eq_true] at hexceeded
    simp only [OutputCapture.finish, hexceeded, Bool.false_eq_true, if_false]
    exact ⟨hout.2, herr.2⟩

theorem carries_superviseLoop {closing : Closing} {rounds : List Round}
    {response : SupervisorResponse} (hout : Within limit stdout) (herr : Within limit stderr)
    (h : superviseLoop closing stdout stderr rounds = some response) :
    Carries limit response := by
  induction rounds generalizing stdout stderr with
  | nil => cases h
  | cons round rounds ih =>
      have hout' := hout.readAvailable round.reads.stdout
      have herr' := herr.readAvailable round.reads.stderr
      rw [superviseLoop] at h
      rcases hread : stdout.readAvailable round.reads.stdout with ⟨closed, stdout'⟩
      rcases hread' : stderr.readAvailable round.reads.stderr with ⟨closed', stderr'⟩
      rw [hread] at h hout'
      rw [hread'] at h herr'
      cases closed with
      | error _ =>
          cases h
          exact carries_ofError _
      | ok _ =>
      cases closed' with
      | error _ =>
          cases h
          exact carries_ofError _
      | ok _ =>
      simp only at h
      split at h
      · cases h
        exact carries_ofError _
      · cases h
        exact carries_ofError _
      · split at h
        · split at h
          · cases h
            have hdrain := @within_drain _ _ _ closing.drained hout' herr'
            exact carries_exitResponse hdrain.1 hdrain.2
          · cases h
            exact carries_ofError _
        · split at h
          · exact ih hout' herr' h
          · cases h
            exact carries_ofError _
        · cases h
          exact carries_ofError _

/-- The outputs of a response are within the limit of the request. -/
theorem carries_superviseCommand {request : SupervisorRequest} {start : Start}
    {rounds : List Round} {closing : Closing} {response : SupervisorResponse}
    (h : superviseCommand request start rounds closing = some response) :
    Carries request.maxOutputBytes.toNat response := by
  cases start with
  | started => exact carries_superviseLoop (within_new _) (within_new _) h
  | noSubreaper => cases h; exact carries_ofError _
  | noCommand => cases h; exact carries_ofError _
  | noPipes => cases h; exact carries_ofError _

end Bounds

end Supervisor
end SleepySession
