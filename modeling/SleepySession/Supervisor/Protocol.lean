import SleepySession.Desktop.CommandRunner
import SleepySession.Lib.LittleEndian
import SleepySession.Lib.Saturating

/-!
# The messages of the command supervisor

Commands are run by a supervisor process.  The parent sends one request: its
length in four bytes and its JSON text.  The supervisor answers with a fixed
header and the two captured outputs.  `serde_json` of a request is a parameter.
-/

namespace SleepySession
namespace Supervisor

def supervisorMagic : List UInt8 :=
  [0x53, 0x4C, 0x50, 0x43, 0x4D, 0x44, 0x31, 0x00]

def supervisorRequestLimit : Nat := 1024 * 1024

def supervisorResultHeader : Nat := 8 + 1 + 4 + 4 + 4

/-- `CommandSpec` of the runner; the timeout is in nanoseconds. -/
structure CommandSpec where
  program : Text
  args : List Text
  env : List (Text × Text)
  timeout : Nat
  maxOutputBytes : UInt64
deriving DecidableEq

structure SupervisorRequest where
  program : Text
  args : List Text
  env : List (Text × Text)
  timeoutMillis : UInt64
  maxOutputBytes : UInt64
deriving DecidableEq

structure RunnerError where
  kind : RunnerErrorKind
  message : String
deriving DecidableEq, Repr

structure CommandOutput where
  status : Int32
  stdout : List UInt8
  stderr : List UInt8
deriving DecidableEq

/-- `SupervisorRequest::new`. -/
def SupervisorRequest.new (spec : CommandSpec) (timeout : Nat) : SupervisorRequest where
  program := spec.program
  args := spec.args
  env := spec.env
  timeoutMillis := .ofNat (max (min (timeout / 10 ^ 6) u64Max) 1)
  maxOutputBytes := spec.maxOutputBytes

/-- `serde_json` of a request. -/
structure RequestSdk where
  encode : SupervisorRequest → List UInt8
  decode : List UInt8 → Except String SupervisorRequest

section Requests

variable (sdk : RequestSdk)

/-- `write_supervisor_request`: the bytes sent; `sent` is what the pipe says to them. -/
def writeSupervisorRequest (sent : Except String Unit) (request : SupervisorRequest) :
    Except RunnerError (List UInt8) :=
  let bytes := sdk.encode request
  if bytes.length < UInt32.size then
    match sent with
    | .ok _ => .ok (u32Bytes (.ofNat bytes.length) ++ bytes)
    | .error error =>
        .error ⟨.io, s!"could not send adapter command supervisor request: {error}"⟩
  else
    .error ⟨.io, "adapter command supervisor request exceeded its bounded limit"⟩

/-- `Read::read_exact`. -/
def readExact (count : Nat) (bytes : List UInt8) :
    Except IoError (List UInt8 × List UInt8) :=
  if bytes.length < count then
    .error ⟨.os, "failed to fill whole buffer"⟩
  else
    .ok (bytes.take count, bytes.drop count)

/-- `read_supervisor_request`, and what is left of the input. -/
def readSupervisorRequest (stdin : List UInt8) :
    Except IoError (SupervisorRequest × List UInt8) := do
  let (length, stdin) ← readExact 4 stdin
  let length := (u32OfBytes length).toNat
  if length > supervisorRequestLimit then
    .error ⟨.invalidData, "command supervisor request exceeded its bounded limit"⟩
  else do
    let (bytes, stdin) ← readExact length stdin
    match sdk.decode bytes with
    | .ok request => pure (request, stdin)
    | .error error => .error ⟨.invalidData, error⟩

end Requests

structure SupervisorResponse where
  tag : UInt8
  status : Int32
  stdout : List UInt8
  stderr : List UInt8
deriving DecidableEq

namespace SupervisorResponse

def exited (status : Int32) (stdout stderr : List UInt8) : SupervisorResponse :=
  ⟨0, status, stdout, stderr⟩

def ofError (tag : UInt8) : SupervisorResponse :=
  ⟨tag, 0, [], []⟩

def timeout : SupervisorResponse := ofError 1

def cancelled : SupervisorResponse := ofError 2

def spawn : SupervisorResponse := ofError 3

def io : SupervisorResponse := ofError 4

def outputLimit : SupervisorResponse := ofError 5

end SupervisorResponse

section Responses

/-- The bytes of a response whose output lengths fit in four bytes. -/
def responseBytes (response : SupervisorResponse) : List UInt8 :=
  supervisorMagic ++ response.tag :: (u32Bytes response.status.toUInt32 ++
    (u32Bytes (.ofNat response.stdout.length) ++ (u32Bytes (.ofNat response.stderr.length) ++
      (response.stdout ++ response.stderr))))

/-- `write_supervisor_response`. -/
def writeSupervisorResponse (response : SupervisorResponse) : Except IoError (List UInt8) :=
  if ¬ response.stdout.length < UInt32.size then
    .error ⟨.invalidData, "supervisor stdout response exceeded its bounded limit"⟩
  else if ¬ response.stderr.length < UInt32.size then
    .error ⟨.invalidData, "supervisor stderr response exceeded its bounded limit"⟩
  else
    .ok (responseBytes response)

def supervisorResponseLimit (maxOutputBytes : UInt64) : Nat :=
  saturatingAdd supervisorResultHeader (saturatingMul maxOutputBytes.toNat 2)

/-- `parse_supervisor_response`; the fields stand at fixed positions. -/
def parseSupervisorResponse (bytes : List UInt8) : Except RunnerError SupervisorResponse :=
  if bytes.length < supervisorResultHeader ∨ bytes.take 8 ≠ supervisorMagic then
    .error ⟨.io, "adapter command supervisor response was malformed"⟩
  else
    let tag := bytes.getD 8 0
    let status : Int32 := .ofUInt32 (u32OfBytes ((bytes.drop 9).take 4))
    let stdoutLength := (u32OfBytes ((bytes.drop 13).take 4)).toNat
    let stderrLength := (u32OfBytes ((bytes.drop 17).take 4)).toNat
    let expected :=
      saturatingAdd (saturatingAdd supervisorResultHeader stdoutLength) stderrLength
    if bytes.length ≠ expected then
      .error ⟨.io, "adapter command supervisor response size was invalid"⟩
    else
      .ok ⟨tag, status, (bytes.drop supervisorResultHeader).take stdoutLength,
        bytes.drop (supervisorResultHeader + stdoutLength)⟩

/-- `read_supervisor_response_bytes` on the chunks that the pipe returns. -/
def readSupervisorResponseBytes (limit : Nat) :
    List UInt8 → List (List UInt8) → Except RunnerError (List UInt8)
  | response, [] => .ok response
  | response, chunk :: chunks =>
      if saturatingAdd response.length chunk.length > limit then
        .error ⟨.io, "adapter command supervisor response exceeded its bounded limit"⟩
      else
        readSupervisorResponseBytes limit (response ++ chunk) chunks

end Responses

end Supervisor
end SleepySession
