import SleepySession.Lib.BigEndian
import SleepySession.Desktop.SecretExchange

/-!
# The socket of the Wi-Fi secrets

A connection takes a lease of the pending request, is given a challenge by the
broker, and answers with the challenge and the secret in one frame.  The socket
serves one connection at a time; the requests of NetworkManager and their
workers go on meanwhile.
-/

namespace SleepySession

/-- `MAX_SECRET_FRAME`. -/
def maxSecretFrame : Nat := 64 * 1024

/-- The bytes of a UUID. -/
structure ChallengeId where
  bytes : List UInt8
  length : bytes.length = 16
deriving DecidableEq, Repr

structure PendingChallenge where
  id : ChallengeId
  deadline : Nat
deriving DecidableEq, Repr

/-- Compare without stopping at the first difference. -/
def constantTimeEqual (left right : List UInt8) : Bool :=
  if left.length ≠ right.length then
    false
  else
    (left.zip right).foldl (fun difference p => difference ||| (p.1 ^^^ p.2)) 0 == 0

/-- The slot of the broker, which its lock protects. -/
structure SecretBroker where
  pending : Option PendingChallenge
deriving DecidableEq, Repr

namespace SecretBroker

/-- `issue_until`; the identifier is the fresh UUID. -/
def issueUntil (deadline : Nat) (id : ChallengeId) (broker : SecretBroker) :
    Except IoError (ChallengeId × SecretBroker) :=
  if broker.pending.isSome then
    .error ⟨.wouldBlock, "a network secret challenge is already pending"⟩
  else
    .ok (id, ⟨some ⟨id, deadline⟩⟩)

/-- The bytes behind the challenge; a frame of a valid size consumes the challenge. -/
def acceptLockedResponse (now : Nat) (response : List UInt8) (broker : SecretBroker) :
    Except IoError (List UInt8) × SecretBroker :=
  if maxSecretFrame < response.length ∨ response.length ≤ 16 then
    (.error ⟨.invalidData, "network secret frame violates its bounded size"⟩, broker)
  else
    match broker.pending with
    | none =>
        (.error ⟨.permissionDenied,
          "network secret challenge is absent or was already consumed"⟩, broker)
    | some challenge =>
        if challenge.deadline ≤ now then
          (.error ⟨.timedOut, "network secret challenge exceeded its total deadline"⟩, ⟨none⟩)
        else if constantTimeEqual (response.take 16) challenge.id.bytes then
          (.ok (response.drop 16), ⟨none⟩)
        else
          (.error ⟨.permissionDenied, "network secret challenge did not match"⟩, ⟨none⟩)

def cancelPending (_ : SecretBroker) : SecretBroker :=
  ⟨none⟩

end SecretBroker

/-- What `read_u32` and `read_exact` report when the client closes its side. -/
def earlyEof : IoError :=
  ⟨.os, "early eof"⟩

/-- `stream` is all that arrives until the frame is there or the client closes its side. -/
def readBinaryFrame (stream : List UInt8) : Except IoError (List UInt8) :=
  if stream.length < 4 then
    .error earlyEof
  else
    let length := beNat (stream.take 4)
    if length = 0 ∨ maxSecretFrame < length then
      .error ⟨.invalidData, "network secret frame violates its bounded size"⟩
    else if (stream.drop 4).length < length then
      .error earlyEof
    else
      .ok ((stream.drop 4).take length)

def writeBinaryFrame (bytes : List UInt8) : Except IoError (List UInt8) :=
  if 2 ^ 32 ≤ bytes.length then
    .error ⟨.invalidData, "secret frame is too large"⟩
  else
    .ok (beBytes 4 bytes.length ++ bytes)

/-- How far `serve_secret` has come. -/
inductive ServeStage (ι : Type) where
  | acquiring
  | checking (lease : SecretRequestLease ι)
  | issuing (lease : SecretRequestLease ι)
  | writing (lease : SecretRequestLease ι) (challenge : ChallengeId)
  | reading (lease : SecretRequestLease ι) (challenge : ChallengeId)
  | accepting (lease : SecretRequestLease ι) (challenge : ChallengeId) (response : List UInt8)
  | submitting (lease : SecretRequestLease ι) (challenge : ChallengeId) (secret : List UInt8)
  /-- The operation is over in one way or another, and `cancel_pending` is called next. -/
  | cancelling
deriving DecidableEq

/-- The lease of an operation that is at an await point of its own. -/
def ServeStage.operating? {ι : Type} : ServeStage ι → Option (SecretRequestLease ι)
  | .issuing lease => some lease
  | .writing lease _ => some lease
  | .reading lease _ => some lease
  | .accepting lease _ _ => some lease
  | _ => none

/-- The handler has not been polled yet, or is at an await point. -/
def ServeStage.abortable {ι : Type} : ServeStage ι → Bool
  | .acquiring => true
  | .cancelling => true
  | stage => stage.operating?.isSome

structure SecretConnection (ι : Type) where
  number : Nat
  stage : ServeStage ι
deriving DecidableEq

/-- What the connections did, newest first. -/
inductive SocketRecord (ι : Type) where
  | leased (connection : Nat) (lease : SecretRequestLease ι)
  | challenged (connection : Nat) (challenge : ChallengeId)
  | accepted (connection : Nat) (response : List UInt8)
  /-- The exchange was handed the secret under this identity. -/
  | submitted (connection object : Nat)
deriving DecidableEq

/-- The socket, its broker and the exchange. -/
structure SecretSocketRun (ι : Type) where
  secrets : SecretRun ι (List UInt8)
  broker : SecretBroker
  /-- The connection that holds the permit; `max_clients` is one. -/
  connection : Option (SecretConnection ι)
  stopping : Bool
  /-- How many connections have had the permit. -/
  served : Nat
  log : List (SocketRecord ι)

inductive SecretSocketEvent (ι : Type) where
  /-- Something outside the socket happens. -/
  | background (e : SecretStep ι (List UInt8))
  | connect
  | acquireLease
  | checkDeadline
  | issue (id : ChallengeId)
  | written
  | ioFailed
  | received (stream : List UInt8)
  | accept
  | submit
  /-- The timeout or the cancellation wins the `select!`. -/
  | interrupt
  | cancelPending
  | stop
  /-- The drain timeout is over. -/
  | abort

/-- Only the connections of the socket take leases and submit secrets. -/
def SecretStep.Background {ι σ : Type} : SecretStep ι σ → Prop
  | .acquireLease => False
  | .submit _ _ => False
  | _ => True

namespace SecretSocketRun

variable {ι : Type} [DecidableEq ι]

def new : SecretSocketRun ι :=
  ⟨SecretRun.new, ⟨none⟩, none, false, 0, []⟩

def toStage (s : SecretSocketRun ι) (n : Nat) (stage : ServeStage ι) : SecretSocketRun ι :=
  { s with connection := some ⟨n, stage⟩ }

def close (s : SecretSocketRun ι) : SecretSocketRun ι :=
  { s with connection := none }

def record (s : SecretSocketRun ι) (r : SocketRecord ι) : SecretSocketRun ι :=
  { s with log := r :: s.log }

/-- A client over the limit is dropped. -/
def connected (s : SecretSocketRun ι) : SecretSocketRun ι :=
  if s.connection.isSome then
    s
  else
    { s.toStage s.served .acquiring with served := s.served + 1 }

/-- A failure here returns before the challenge of the broker is touched. -/
def acquired (s : SecretSocketRun ι) (n : Nat) : SecretSocketRun ι :=
  match s.secrets.exchange.acquireLease with
  | .error _ => s.close
  | .ok lease =>
      ({ s with secrets := { s.secrets with leases := s.secrets.leases ++ [lease] } }.record
        (.leased n lease)).toStage n (.checking lease)

def checked (s : SecretSocketRun ι) (n : Nat) (lease : SecretRequestLease ι) :
    SecretSocketRun ι :=
  if lease.deadline ≤ s.secrets.exchange.now then
    s.close
  else
    s.toStage n (.issuing lease)

def issued (s : SecretSocketRun ι) (n : Nat) (lease : SecretRequestLease ι)
    (id : ChallengeId) : SecretSocketRun ι :=
  match s.broker.issueUntil lease.deadline id with
  | .error _ => s.toStage n .cancelling
  | .ok (challenge, broker) =>
      ({ s with broker := broker }.record (.challenged n challenge)).toStage n
        (.writing lease challenge)

def readFrame (s : SecretSocketRun ι) (n : Nat) (lease : SecretRequestLease ι)
    (challenge : ChallengeId) (stream : List UInt8) : SecretSocketRun ι :=
  match readBinaryFrame stream with
  | .error _ => s.toStage n .cancelling
  | .ok response => s.toStage n (.accepting lease challenge response)

def judged (s : SecretSocketRun ι) (n : Nat) (lease : SecretRequestLease ι)
    (challenge : ChallengeId) (response : List UInt8) : SecretSocketRun ι :=
  let (result, broker) := s.broker.acceptLockedResponse s.secrets.exchange.now response
  match result with
  | .error _ => { s with broker := broker }.toStage n .cancelling
  | .ok secret =>
      ({ s with broker := broker }.record (.accepted n response)).toStage n
        (.submitting lease challenge secret)

def submitted (s : SecretSocketRun ι) (n : Nat) (lease : SecretRequestLease ι)
    (secret : List UInt8) : SecretSocketRun ι :=
  ({ s with secrets := s.secrets.submitUnder lease secret }.record
    (.submitted n s.secrets.objects)).toStage n .cancelling

/-- `Uuid::new_v4` does not repeat itself. -/
def FreshChallenge (s : SecretSocketRun ι) (id : ChallengeId) : Prop :=
  ∀ k, .challenged k id ∉ s.log

def step (fromUtf8 : List UInt8 → Option String) :
    SecretSocketEvent ι → SecretSocketRun ι → SecretSocketRun ι → Prop
  | .background e, s, s' =>
      e.Background ∧ s.secrets.Fresh e ∧
        s' = { s with secrets := s.secrets.after fromUtf8 e }
  | .connect, s, s' => s.stopping = false ∧ s' = s.connected
  | .acquireLease, s, s' =>
      ∃ n, s.connection = some ⟨n, .acquiring⟩ ∧ s' = s.acquired n
  | .checkDeadline, s, s' =>
      ∃ n lease, s.connection = some ⟨n, .checking lease⟩ ∧ s' = s.checked n lease
  | .issue id, s, s' =>
      ∃ n lease, s.connection = some ⟨n, .issuing lease⟩ ∧ s.FreshChallenge id ∧
        s' = s.issued n lease id
  | .written, s, s' =>
      ∃ n lease challenge, s.connection = some ⟨n, .writing lease challenge⟩ ∧
        s' = s.toStage n (.reading lease challenge)
  | .ioFailed, s, s' =>
      ∃ n lease challenge,
        (s.connection = some ⟨n, .writing lease challenge⟩ ∨
          s.connection = some ⟨n, .reading lease challenge⟩) ∧
        s' = s.toStage n .cancelling
  | .received stream, s, s' =>
      ∃ n lease challenge, s.connection = some ⟨n, .reading lease challenge⟩ ∧
        s' = s.readFrame n lease challenge stream
  | .accept, s, s' =>
      ∃ n lease challenge response,
        s.connection = some ⟨n, .accepting lease challenge response⟩ ∧
        s' = s.judged n lease challenge response
  | .submit, s, s' =>
      ∃ n lease challenge secret,
        s.connection = some ⟨n, .submitting lease challenge secret⟩ ∧
        s' = s.submitted n lease secret
  | .interrupt, s, s' =>
      ∃ n stage lease, s.connection = some ⟨n, stage⟩ ∧ stage.operating? = some lease ∧
        (s.stopping = true ∨ lease.deadline ≤ s.secrets.exchange.now) ∧
        s' = s.toStage n .cancelling
  | .cancelPending, s, s' =>
      ∃ n, s.connection = some ⟨n, .cancelling⟩ ∧
        s' = { s with broker := s.broker.cancelPending }.close
  | .stop, s, s' => s' = { s with stopping := true }
  | .abort, s, s' =>
      s.stopping = true ∧
        ∃ n stage, s.connection = some ⟨n, stage⟩ ∧ stage.abortable = true ∧ s' = s.close

end SecretSocketRun

/-- The socket, its clients, the requests and their workers in any order. -/
def secretSocketSystem {ι : Type} [DecidableEq ι] (fromUtf8 : List UInt8 → Option String) :
    System (SecretSocketRun ι) (SecretSocketEvent ι) where
  initial s := s = SecretSocketRun.new
  step s e s' := SecretSocketRun.step fromUtf8 e s s'

end SleepySession
