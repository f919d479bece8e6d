import Mathlib.Tactic
import SleepySession.Lib.Transition
import SleepySession.Store.IoError

/-!
# The exchange of Wi-Fi secrets

`NetworkManagerSecretExchange` holds at most one pending request.  A request
is served by a worker thread; the connections of the secret socket hold leases
of it.  The sections under the lock of the exchange are functions here, and
the worker is a machine with one step for each access to shared memory, so
that a run may interleave any number of workers and connections.
-/

namespace SleepySession

structure SecretRequestKey where
  connectionPath : String
  settingName : String
deriving DecidableEq, Repr

/-- A locked secret; it is moved and never copied, and `object` is its identity. -/
structure LockedSecret (σ : Type) where
  object : Nat
  exposed : σ
deriving DecidableEq, Repr

/-- The memory a request shares: the cancellation flag and `sync_channel(1)`. -/
structure RequestCell (σ : Type) where
  cancelled : Bool
  buffer : Option (LockedSecret σ)
  receiverOpen : Bool

/-- The request in the slot; `cell` stands for its sender and its flag. -/
structure PendingSecretRequest (ι : Type) where
  id : ι
  key : SecretRequestKey
  cell : Nat
  deadline : Nat
  replyStarted : Bool
deriving DecidableEq, Repr

/-- What the worker of a request owns. -/
structure PendingSecretReceiver (ι : Type) where
  id : ι
  key : SecretRequestKey
  cell : Nat
  deadline : Nat
deriving DecidableEq, Repr

structure SecretRequestLease (ι : Type) where
  requestId : ι
  key : SecretRequestKey
  deadline : Nat
  cell : Nat
deriving DecidableEq, Repr

/-- `SECRET_DEADLINE` in nanoseconds. -/
def secretDeadline : Nat :=
  30 * 10 ^ 9

/-- The exchange, its shared memory and the clock. -/
structure NetworkManagerSecretExchange (ι σ : Type) where
  pending : Option (PendingSecretRequest ι)
  cells : Nat → RequestCell σ
  allocated : Nat
  now : Nat

namespace NetworkManagerSecretExchange

variable {ι σ : Type} [DecidableEq ι]

def new : NetworkManagerSecretExchange ι σ :=
  ⟨none, fun _ => ⟨false, none, true⟩, 0, 0⟩

def updateCell
    (exchange : NetworkManagerSecretExchange ι σ) (c : Nat) (cell : RequestCell σ) :
    NetworkManagerSecretExchange ι σ :=
  { exchange with cells := Function.update exchange.cells c cell }

/-- `begin`; the identifier is the fresh UUID. -/
def «begin»
    (key : SecretRequestKey) (id : ι) (exchange : NetworkManagerSecretExchange ι σ) :
    Except IoError (PendingSecretReceiver ι × NetworkManagerSecretExchange ι σ) :=
  if exchange.pending.isSome then
    .error ⟨.wouldBlock, "NetworkManager already has a pending secret request"⟩
  else
    let deadline := exchange.now + secretDeadline
    .ok (⟨id, key, exchange.allocated, deadline⟩,
      { exchange with
        pending := some ⟨id, key, exchange.allocated, deadline, false⟩
        allocated := exchange.allocated + 1 })

/-- Take the request out of the slot and set its flag. -/
def revoke
    (request : PendingSecretRequest ι) (exchange : NetworkManagerSecretExchange ι σ) :
    NetworkManagerSecretExchange ι σ :=
  { exchange.updateCell request.cell
      { exchange.cells request.cell with cancelled := true } with
    pending := none }

def cancel (exchange : NetworkManagerSecretExchange ι σ) :
    NetworkManagerSecretExchange ι σ :=
  match exchange.pending with
  | some request => exchange.revoke request
  | none => exchange

def cancelMatching
    (key : SecretRequestKey) (exchange : NetworkManagerSecretExchange ι σ) :
    NetworkManagerSecretExchange ι σ :=
  match exchange.pending with
  | some request =>
      if request.key = key ∧ request.replyStarted = false then
        exchange.revoke request
      else
        exchange
  | none => exchange

def complete (id : ι) (exchange : NetworkManagerSecretExchange ι σ) :
    NetworkManagerSecretExchange ι σ :=
  match exchange.pending with
  | some request =>
      if request.id = id then
        { exchange with pending := none }
      else
        exchange
  | none => exchange

def acquireLease (exchange : NetworkManagerSecretExchange ι σ) :
    Except IoError (SecretRequestLease ι) :=
  match exchange.pending with
  | none => .error ⟨.notConnected, "NetworkManager did not request a secret"⟩
  | some request =>
      if (exchange.cells request.cell).cancelled = true ∨ request.deadline ≤ exchange.now then
        .error ⟨.notConnected, "NetworkManager secret request is no longer live"⟩
      else
        .ok ⟨request.id, request.key, request.deadline, request.cell⟩

/-- Whether `send_reply_if_live` calls `send`, which it does under the lock. -/
def sendReplyIfLive (id : ι) (exchange : NetworkManagerSecretExchange ι σ) :
    Option (NetworkManagerSecretExchange ι σ) :=
  match exchange.pending with
  | none => none
  | some request =>
      if request.id = id ∧ (exchange.cells request.cell).cancelled = false then
        some { exchange with pending := some { request with replyStarted := true } }
      else
        none

/-- `SyncSender::try_send`; the receiver may be gone and the buffer may be full. -/
def trySend
    (cell : RequestCell σ) (secret : LockedSecret σ) : Option (RequestCell σ) :=
  if cell.receiverOpen = true ∧ cell.buffer = none then
    some { cell with buffer := some secret }
  else
    none

/-- The lease was given for this very request. -/
def Matching (lease : SecretRequestLease ι) (request : PendingSecretRequest ι) : Prop :=
  request.id = lease.requestId ∧ request.key = lease.key ∧
    request.deadline = lease.deadline ∧ request.cell = lease.cell

instance (lease : SecretRequestLease ι) (request : PendingSecretRequest ι) :
    Decidable (Matching lease request) :=
  inferInstanceAs (Decidable (_ ∧ _ ∧ _ ∧ _))

def submit
    (lease : SecretRequestLease ι) (secret : LockedSecret σ)
    (exchange : NetworkManagerSecretExchange ι σ) :
    Except IoError (NetworkManagerSecretExchange ι σ) :=
  match exchange.pending with
  | none => .error ⟨.notConnected, "NetworkManager did not request a secret"⟩
  | some request =>
      if ¬ Matching lease request ∨
          (exchange.cells request.cell).cancelled = true ∨
          (exchange.cells lease.cell).cancelled = true ∨
          request.deadline ≤ exchange.now then
        .error ⟨.notConnected, "NetworkManager secret request lease is stale"⟩
      else
        match trySend (exchange.cells request.cell) secret with
        | none => .error ⟨.brokenPipe, "NetworkManager secret request was cancelled"⟩
        | some cell => .ok (exchange.updateCell request.cell cell)

end NetworkManagerSecretExchange

/-- The settings that a reply to `GetSecrets` carries. -/
abbrev SecretReply :=
  List (String × List (String × String))

/-- How far the worker of a request has come. -/
inductive WorkerState (σ : Type) where
  | started
  | receiving
  /-- The receive has failed, and `cancel_matching` is called next. -/
  | failing (error : IoError)
  | received (secret : LockedSecret σ)
  /-- The reply is built, and the flag is looked at once more. -/
  | answering (reply : SecretReply) (secret : LockedSecret σ)
  /-- The receiver is gone, and `send_reply_if_live` is called next. -/
  | replying (reply : SecretReply) (secret : LockedSecret σ)
  | refusing (error : IoError)
  | completing
  | finished

/-- A worker thread. -/
structure SecretWorker (ι σ : Type) where
  receiver : PendingSecretReceiver ι
  state : WorkerState σ

def requestCancelled : IoError :=
  ⟨.interrupted, "NetworkManager secret request was cancelled"⟩

def deadlineExceeded : IoError :=
  ⟨.timedOut, "network secret response exceeded its total deadline"⟩

/-- What happened, newest first. -/
inductive SecretRecord (ι σ : Type) where
  /-- A cancellation took the request of a cell out of the slot. -/
  | removed (cell : Nat)
  /-- A secret was submitted under a lease of a cell. -/
  | submitted (cell object : Nat) (accepted : Bool)
  /-- A reply with a secret was sent for the request of a cell. -/
  | replied (cell object : Nat) (reply : SecretReply)
deriving DecidableEq, Repr

/-- The exchange together with its workers and connections. -/
structure SecretRun (ι σ : Type) where
  exchange : NetworkManagerSecretExchange ι σ
  workers : Nat → Option (SecretWorker ι σ)
  leases : List (SecretRequestLease ι)
  /-- The identity of the next secret that a connection reads. -/
  objects : Nat
  history : List (SecretRecord ι σ)

inductive SecretStep (ι σ : Type) where
  | tick (elapsed : Nat)
  | getSecrets (key : SecretRequestKey) (id : ι)
  | cancelGetSecrets (key : SecretRequestKey)
  | ownerChanged
  | acquireLease
  | submit (lease : Nat) (secret : σ)
  /-- The worker of a cell goes on; `delivered` says what sending a message returns. -/
  | work (cell : Nat) (delivered : Bool)

namespace SecretRun

open NetworkManagerSecretExchange

variable {ι σ : Type} [DecidableEq ι]

def new : SecretRun ι σ :=
  ⟨NetworkManagerSecretExchange.new, fun _ => none, [], 0, []⟩

/-- Note the request that a cancellation has taken out of the slot. -/
def afterCancel (s : SecretRun ι σ) (exchange : NetworkManagerSecretExchange ι σ) :
    SecretRun ι σ :=
  match s.exchange.pending with
  | some request =>
      if exchange.pending.isNone then
        { s with exchange := exchange, history := .removed request.cell :: s.history }
      else
        { s with exchange := exchange }
  | none => { s with exchange := exchange }

def proceed (s : SecretRun ι σ) (worker : SecretWorker ι σ) (state : WorkerState σ) :
    SecretRun ι σ :=
  { s with
    workers := Function.update s.workers worker.receiver.cell
      (some { worker with state := state }) }

/-- `finish_get_secrets` returns, which drops the receiver. -/
def returns (s : SecretRun ι σ) (worker : SecretWorker ι σ) (state : WorkerState σ) :
    SecretRun ι σ :=
  let cell := s.exchange.cells worker.receiver.cell
  proceed
    { s with
      exchange := s.exchange.updateCell worker.receiver.cell
        { cell with buffer := none, receiverOpen := false } }
    worker state

/-- `recv_timeout`: a buffered secret comes first. -/
def receive (s : SecretRun ι σ) (worker : SecretWorker ι σ) : SecretRun ι σ :=
  let cell := s.exchange.cells worker.receiver.cell
  match cell.buffer with
  | some secret =>
      proceed
        { s with
          exchange := s.exchange.updateCell worker.receiver.cell { cell with buffer := none } }
        worker (.received secret)
  | none =>
      -- the sender lives in the slot and nowhere else
      if (s.exchange.pending.map (·.cell)) ≠ some worker.receiver.cell then
        s.proceed worker (.failing ⟨.brokenPipe, "network secret response channel closed"⟩)
      else if worker.receiver.deadline ≤ s.exchange.now then
        s.proceed worker (.failing deadlineExceeded)
      else
        s

/-- One step of the worker of a request. -/
def work
    (fromUtf8 : σ → Option String) (delivered : Bool)
    (s : SecretRun ι σ) (worker : SecretWorker ι σ) : SecretRun ι σ :=
  let cancelled := (s.exchange.cells worker.receiver.cell).cancelled
  match worker.state with
  | .started =>
      if worker.receiver.deadline ≤ s.exchange.now then
        s.proceed worker (.failing deadlineExceeded)
      else
        s.proceed worker .receiving
  | .receiving => s.receive worker
  | .failing e =>
      (s.afterCancel (s.exchange.cancelMatching worker.receiver.key)).returns worker
        (.refusing e)
  | .received secret =>
      if cancelled = true ∨ worker.receiver.deadline ≤ s.exchange.now then
        s.returns worker (.refusing requestCancelled)
      else
        match fromUtf8 secret.exposed with
        | none =>
            s.returns worker
              (.refusing ⟨.invalidData, "NetworkManager Wi-Fi secret must be UTF-8"⟩)
        | some value =>
            s.proceed worker
              (.answering [("802-11-wireless-security", [("psk", value)])] secret)
  | .answering reply secret =>
      if cancelled = true then
        s.returns worker (.refusing requestCancelled)
      else
        s.returns worker (.replying reply secret)
  | .replying reply secret =>
      match s.exchange.sendReplyIfLive worker.receiver.id with
      | none => s.proceed worker (.refusing requestCancelled)
      | some exchange =>
          proceed
            { s with
              exchange := exchange
              history := .replied worker.receiver.cell secret.object reply :: s.history }
            worker (if delivered then .completing else .refusing requestCancelled)
  | .refusing _ => s.proceed worker .completing
  | .completing =>
      proceed { s with exchange := s.exchange.complete worker.receiver.id } worker .finished
  | .finished => s

/-- A connection submits the next secret under a lease it holds. -/
def submitUnder (s : SecretRun ι σ) (lease : SecretRequestLease ι) (secret : σ) :
    SecretRun ι σ :=
  match s.exchange.submit lease ⟨s.objects, secret⟩ with
  | .error _ =>
      { s with
        objects := s.objects + 1
        history := .submitted lease.cell s.objects false :: s.history }
  | .ok exchange =>
      { s with
        exchange := exchange
        objects := s.objects + 1
        history := .submitted lease.cell s.objects true :: s.history }

def after (fromUtf8 : σ → Option String) (s : SecretRun ι σ) :
    SecretStep ι σ → SecretRun ι σ
  | .tick elapsed =>
      { s with exchange := { s.exchange with now := s.exchange.now + elapsed } }
  | .getSecrets key id =>
      match s.exchange.begin key id with
      | .error _ => s
      | .ok (receiver, exchange) =>
          { s with
            exchange := exchange
            workers := Function.update s.workers receiver.cell
              (some ⟨receiver, .started⟩) }
  | .cancelGetSecrets key => s.afterCancel (s.exchange.cancelMatching key)
  | .ownerChanged => s.afterCancel s.exchange.cancel
  | .acquireLease =>
      match s.exchange.acquireLease with
      | .error _ => s
      | .ok lease => { s with leases := s.leases ++ [lease] }
  | .submit lease secret =>
      match s.leases[lease]? with
      | none => s
      | some lease => s.submitUnder lease secret
  | .work cell delivered =>
      match s.workers cell with
      | none => s
      | some worker => s.work fromUtf8 delivered worker

/-- `Uuid::new_v4` does not repeat itself. -/
def Fresh (s : SecretRun ι σ) : SecretStep ι σ → Prop
  | .getSecrets _ id => ∀ c worker, s.workers c = some worker → worker.receiver.id ≠ id
  | _ => True

end SecretRun

/-- Requests, workers and connections in any order. -/
def secretSystem {ι σ : Type} [DecidableEq ι] (fromUtf8 : σ → Option String) :
    System (SecretRun ι σ) (SecretStep ι σ) where
  initial s := s = SecretRun.new
  step s e s' := s.Fresh e ∧ s' = s.after fromUtf8 e

end SleepySession
