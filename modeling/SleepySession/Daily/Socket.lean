import SleepySession.Lib.Transition
import SleepySession.Store.IoError

/-!
# The daily socket

Connections are admitted while there are permits, and each of them reads one
request after the other.  A request that is valid waits for a worker, and its
answer is written before the next request is read.  Whoever stops the service
takes the handles of all connections and waits for them; a worker is never left
behind.
-/

namespace SleepySession
namespace Daily

section Model

/-- `DailyRequest`, as far as the socket looks at it. -/
structure DailyRequest (ω : Type) where
  schemaVersion : Nat
  requestId : String
  operation : ω

inductive DailyStatus where
  | confirmed
  | busy
  | error
deriving DecidableEq, Repr

structure DailyResponse (ν : Type) where
  schemaVersion : Nat
  requestId : String
  status : DailyStatus
  data : Option ν
  error : Option String

/-- What the socket uses of the SDK and of other libraries. -/
structure DailySdk (β ω : Type) where
  wireSchemaVersion : Nat
  /-- The request of a line, or how the error is shown. -/
  fromSlice : β → Except String (DailyRequest ω)
  isUuid : String → Bool

variable {β ω ν : Type} (sdk : DailySdk β ω)

def errorResponse (requestId message : String) : DailyResponse ν :=
  ⟨sdk.wireSchemaVersion, requestId, .error, none, some (String.ofList (message.toList.take 1024))⟩

def confirmedResponse (requestId : String) (data : ν) : DailyResponse ν :=
  ⟨sdk.wireSchemaVersion, requestId, .confirmed, some data, none⟩

/-- Where a connection stands in `serve_client`. -/
inductive ClientStage (ω ν : Type) where
  | reading
  /-- For a worker. -/
  | waiting (request : DailyRequest ω)
  | working (request : DailyRequest ω)
  /-- The control of the worker is cancelled, and the worker is joined. -/
  | cancelling (request : DailyRequest ω) (timedOut : Bool)
  /-- Once the deadline is over, nothing is written. -/
  | writing (response : DailyResponse ν) (expired : Bool)
  | finished

namespace ClientStage

/-- The connection has its permit. -/
def live : ClientStage ω ν → Bool
  | reading => true
  | waiting _ => true
  | working _ => true
  | cancelling _ _ => true
  | writing _ _ => true
  | finished => false

/-- A worker has its permit. -/
def busy : ClientStage ω ν → Bool
  | reading => false
  | waiting _ => false
  | working _ => true
  | cancelling _ _ => true
  | writing _ _ => false
  | finished => false

@[simp] theorem live_reading : (reading : ClientStage ω ν).live = true :=
  rfl

@[simp] theorem live_waiting (request : DailyRequest ω) :
    (waiting request : ClientStage ω ν).live = true :=
  rfl

@[simp] theorem live_working (request : DailyRequest ω) :
    (working request : ClientStage ω ν).live = true :=
  rfl

@[simp] theorem live_cancelling (request : DailyRequest ω) (timedOut : Bool) :
    (cancelling request timedOut : ClientStage ω ν).live = true :=
  rfl

@[simp] theorem live_writing (response : DailyResponse ν) (expired : Bool) :
    (writing response expired : ClientStage ω ν).live = true :=
  rfl

@[simp] theorem live_finished : (finished : ClientStage ω ν).live = false :=
  rfl

@[simp] theorem busy_reading : (reading : ClientStage ω ν).busy = false :=
  rfl

@[simp] theorem busy_waiting (request : DailyRequest ω) :
    (waiting request : ClientStage ω ν).busy = false :=
  rfl

@[simp] theorem busy_working (request : DailyRequest ω) :
    (working request : ClientStage ω ν).busy = true :=
  rfl

@[simp] theorem busy_cancelling (request : DailyRequest ω) (timedOut : Bool) :
    (cancelling request timedOut : ClientStage ω ν).busy = true :=
  rfl

@[simp] theorem busy_writing (response : DailyResponse ν) (expired : Bool) :
    (writing response expired : ClientStage ω ν).busy = false :=
  rfl

@[simp] theorem busy_finished : (finished : ClientStage ω ν).busy = false :=
  rfl

end ClientStage

/-- A connection, with the lines it has read and the responses it has written. -/
structure Client (β ω ν : Type) where
  stage : ClientStage ω ν
  lines : List β
  written : List (DailyResponse ν)

/-- Where the loop of `serve_inner` stands. -/
inductive ServerStage where
  | accepting
  /-- A connection has its permit. -/
  | admitted
  /-- The list of handles is locked. -/
  | locked
  /-- It is locked, and the service was not stopping. -/
  | spawning
  | stopped
deriving DecidableEq, Repr

def ServerStage.holds : ServerStage → Bool
  | admitted => true
  | locked => true
  | spawning => true
  | _ => false

/-- Where `shutdown_and_drain` stands. -/
inductive DrainStage where
  | idle
  /-- The handles that are still to be joined. -/
  | joining (handles : List Nat)
  | drained
deriving DecidableEq, Repr

/-- The socket, with what the workers have returned. -/
structure DailyRun (β ω ν : Type) where
  server : ServerStage
  stopping : Bool
  shutdown : Bool
  drain : DrainStage
  admission : Nat
  workers : Nat
  handles : List Nat
  clients : List (Client β ω ν)
  results : List (ω × Except IoError ν)

inductive DailyEvent (β ν : Type) where
  /-- A connection of the expected user is accepted. -/
  | accept
  | lock
  | check
  | spawn
  /-- The loop ends with the shutdown or with an error. -/
  | close
  | read (n : Nat) (line : β)
  /-- The client is gone, the line is too long, a write fails or is out of time, or the service
  was found to be stopping. -/
  | leave (n : Nat)
  | acquire (n : Nat)
  | done (n : Nat) (result : Except IoError ν)
  | panic (n : Nat)
  | timeout (n : Nat)
  | seeShutdown (n : Nat)
  | write (n : Nat)
  | stop
  | cancel
  | take
  | join
  | finish

namespace DailyRun

variable (s : DailyRun β ω ν)

def new (maxWorkers : Nat) : DailyRun β ω ν :=
  ⟨.accepting, false, false, .idle, maxWorkers, maxWorkers, [], [], []⟩

def setClient (n : Nat) (client : Client β ω ν) : DailyRun β ω ν :=
  { s with clients := s.clients.set n client }

/-- Where a line leads. -/
def afterLine (line : β) : ClientStage ω ν :=
  match sdk.fromSlice line with
  | .error text => .writing (errorResponse sdk "unknown" ("invalid daily request: " ++ text)) false
  | .ok request =>
      if request.schemaVersion = sdk.wireSchemaVersion ∧ sdk.isUuid request.requestId = true then
        .waiting request
      else .writing (errorResponse sdk request.requestId "invalid daily request contract") false

/-- What a worker has returned goes to the client. -/
def afterResult (request : DailyRequest ω) : Except IoError ν → ClientStage ω ν
  | .ok data => .writing (confirmedResponse sdk request.requestId data) false
  | .error e => .writing (errorResponse sdk request.requestId e.message) false

/-- The end of a worker that was cancelled. -/
def afterCancelled (request : DailyRequest ω) (timedOut : Bool) : ClientStage ω ν :=
  if timedOut then
    .writing (errorResponse sdk request.requestId "daily request exceeded deadline") true
  else .finished

@[simp] theorem setClient_admission (n : Nat) (client : Client β ω ν) :
    (s.setClient n client).admission = s.admission :=
  rfl

@[simp] theorem setClient_workers (n : Nat) (client : Client β ω ν) :
    (s.setClient n client).workers = s.workers :=
  rfl

def step : DailyEvent β ν → DailyRun β ω ν → Prop
  | .accept, s' =>
      s.server = .accepting ∧
        s' =
          if s.stopping then { s with server := .stopped }
          else if 0 < s.admission then
            { s with server := .admitted, admission := s.admission - 1 }
          else s
  | .lock, s' =>
      -- handles of finished connections are removed
      s.server = .admitted ∧
        s' = { s with
          server := .locked
          handles := s.handles.filter fun n =>
            (s.clients[n]?.map fun client => client.stage.live).getD false }
  | .check, s' =>
      s.server = .locked ∧
        s' =
          if s.stopping then { s with server := .stopped, admission := s.admission + 1 }
          else { s with server := .spawning }
  | .spawn, s' =>
      s.server = .spawning ∧
        s' = { s with
          server := .accepting
          handles := s.handles ++ [s.clients.length]
          clients := s.clients ++ [⟨.reading, [], []⟩] }
  | .close, s' => s.server = .accepting ∧ s' = { s with server := .stopped }
  | .read n line, s' =>
      ∃ client, s.clients[n]? = some client ∧ client.stage = .reading ∧
        s' = s.setClient n
          { client with stage := afterLine sdk line, lines := client.lines ++ [line] }
  | .leave n, s' =>
      ∃ client, s.clients[n]? = some client ∧
        (client.stage = .reading ∨ ∃ response expired, client.stage = .writing response expired) ∧
        s' = { s.setClient n { client with stage := .finished } with admission := s.admission + 1 }
  | .acquire n, s' =>
      ∃ client request, s.clients[n]? = some client ∧ client.stage = .waiting request ∧
        0 < s.workers ∧
        s' = { s.setClient n { client with stage := .working request } with
          workers := s.workers - 1 }
  | .done n result, s' =>
      ∃ client request, s.clients[n]? = some client ∧
        ((client.stage = .working request ∧
          s' = { s.setClient n { client with stage := afterResult sdk request result } with
            workers := s.workers + 1, results := (request.operation, result) :: s.results }) ∨
        ∃ timedOut, client.stage = .cancelling request timedOut ∧
          s' = { s.setClient n { client with stage := afterCancelled sdk request timedOut } with
            workers := s.workers + 1
            admission := if timedOut then s.admission else s.admission + 1
            results := (request.operation, result) :: s.results })
  | .panic n, s' =>
      ∃ client, s.clients[n]? = some client ∧ client.stage.busy = true ∧
        s' = { s.setClient n { client with stage := .finished } with
          workers := s.workers + 1, admission := s.admission + 1 }
  | .timeout n, s' =>
      ∃ client request, s.clients[n]? = some client ∧ client.stage = .working request ∧
        s' = s.setClient n { client with stage := .cancelling request true }
  | .seeShutdown n, s' =>
      s.shutdown = true ∧ ∃ client, s.clients[n]? = some client ∧
        ((client.stage.live = true ∧ client.stage.busy = false ∧
          s' = { s.setClient n { client with stage := .finished } with
            admission := s.admission + 1 }) ∨
        ∃ request, client.stage = .working request ∧
          s' = s.setClient n { client with stage := .cancelling request false })
  | .write n, s' =>
      ∃ client response, s.clients[n]? = some client ∧ client.stage = .writing response false ∧
        s' = s.setClient n
          { client with stage := .reading, written := client.written ++ [response] }
  | .stop, s' => s' = { s with stopping := true }
  | .cancel, s' => s.stopping = true ∧ s' = { s with shutdown := true }
  | .take, s' =>
      s.shutdown = true ∧ s.drain = .idle ∧ s.server ≠ .locked ∧ s.server ≠ .spawning ∧
        s' = { s with drain := .joining s.handles, handles := [] }
  | .join, s' =>
      ∃ n handles client, s.drain = .joining (n :: handles) ∧ s.clients[n]? = some client ∧
        client.stage.live = false ∧ s' = { s with drain := .joining handles }
  | .finish, s' => s.drain = .joining [] ∧ s' = { s with drain := .drained }

end DailyRun

/-- The runs of one socket with as many workers as connections. -/
def dailySystem (ν : Type) (maxWorkers : Nat) : System (DailyRun β ω ν) (DailyEvent β ν) where
  initial s := s = .new maxWorkers
  step s e s' := s.step sdk e s'

end Model

end Daily
end SleepySession
