import SleepySession.Lib.Run

/-!
# Private sockets

Daemons bind a listening socket at one path, after removing a stale file there,
and unlink it when they drop their endpoint.  Each system call is a step.  A
file has a number by which the daemons compare files; here it is also an object
of its own, so that a replaced file can be told from the one before it.
-/

namespace SleepySession
namespace Sessiond

/-- How far a daemon is with `bind_with_observer` or with dropping its endpoint. -/
inductive EndpointStage where
  | idle
  /-- The metadata were read; the connection is tried next. -/
  | checked (identity : Nat)
  /-- The connection was refused by an object; the metadata are read again next. -/
  | refused (identity object : Nat)
  /-- The identity is unchanged; the file is removed next. -/
  | rechecked (object : Nat)
  /-- The socket is bound next. -/
  | clear
  | bound (object : Nat)
  /-- The mode was set; the identity is recorded next. -/
  | chmodded (object : Nat)
  | endpoint (object identity : Nat)
  /-- Dropping; the identity matched and the file is removed next. -/
  | dropping (object : Nat)
  /-- Dropping; the listener is closed next. -/
  | closing (object : Nat)
  deriving DecidableEq, Repr

structure SocketRun (δ : Type) where
  /-- The file at the path. -/
  entry : Option Nat
  next : Nat
  /-- Device and inode of an object, as one number. -/
  identity : Nat → Nat
  /-- The mode of an object is 0600. -/
  isPrivate : Nat → Bool
  listening : Nat → Bool
  stages : δ → EndpointStage

inductive SocketEvent (δ : Type) where
  | readMetadata (d : δ)
  | connect (d : δ)
  | recheck (d : δ)
  | removeStale (d : δ)
  /-- `bind` and `listen`; the file system chooses the inode. -/
  | bind (d : δ) (identity : Nat)
  | chmod (d : δ)
  | record (d : δ)
  | beginDrop (d : δ)
  | removeOwn (d : δ)
  | close (d : δ)
  /-- A call of the daemon fails, or its observer does. -/
  | fail (d : δ)
  /-- The daemon dies; its file stays. -/
  | crash (d : δ)
  deriving DecidableEq, Repr

section Steps

variable {δ : Type} [DecidableEq δ]

/-- The listener that a daemon has open. -/
def EndpointStage.listener? : EndpointStage → Option Nat
  | .bound object => some object
  | .chmodded object => some object
  | .endpoint object _ => some object
  | .dropping object => some object
  | .closing object => some object
  | _ => none

/-- The endpoint is alive: bound and not being dropped. -/
def EndpointStage.alive? : EndpointStage → Option Nat
  | .bound object => some object
  | .chmodded object => some object
  | .endpoint object _ => some object
  | _ => none

def SocketRun.setStage (s : SocketRun δ) (d : δ) (stage : EndpointStage) : SocketRun δ :=
  { s with stages := Function.update s.stages d stage }

/-- The daemon gives up; an open listener is closed without touching the file. -/
def SocketRun.abandon (s : SocketRun δ) (d : δ) : SocketRun δ :=
  { s.setStage d .idle with
    listening := match (s.stages d).listener? with
      | some object => Function.update s.listening object false
      | none => s.listening }

/-- One system call of one daemon. -/
def SocketRun.after (s : SocketRun δ) : SocketEvent δ → Option (SocketRun δ)
  | .readMetadata d =>
      match s.stages d, s.entry with
      | .idle, none => some (s.setStage d .clear)
      | .idle, some object =>
          if s.isPrivate object then some (s.setStage d (.checked (s.identity object)))
          else some (s.abandon d)
      | _, _ => none
  | .connect d =>
      match s.stages d, s.entry with
      | .checked _, none => some (s.setStage d .clear)
      | .checked identity, some object =>
          if s.listening object then some (s.abandon d)
          else some (s.setStage d (.refused identity object))
      | _, _ => none
  | .recheck d =>
      match s.stages d, s.entry with
      | .refused _ _, none => some (s.setStage d .clear)
      | .refused identity object, some current =>
          if s.identity current = identity then some (s.setStage d (.rechecked object))
          else some (s.abandon d)
      | _, _ => none
  | .removeStale d =>
      match s.stages d, s.entry with
      | .rechecked _, none => some (s.abandon d)
      | .rechecked _, some _ => some { s.setStage d .clear with entry := none }
      | _, _ => none
  | .bind d identity =>
      match s.stages d, s.entry with
      | .clear, some _ => some (s.abandon d)
      | .clear, none =>
          some { s.setStage d (.bound s.next) with
            entry := some s.next
            next := s.next + 1
            identity := Function.update s.identity s.next identity
            isPrivate := Function.update s.isPrivate s.next false
            listening := Function.update s.listening s.next true }
      | _, _ => none
  | .chmod d =>
      match s.stages d, s.entry with
      | .bound _, none => some (s.abandon d)
      | .bound object, some current =>
          some { s.setStage d (.chmodded object) with
            isPrivate := Function.update s.isPrivate current true }
      | _, _ => none
  | .record d =>
      match s.stages d, s.entry with
      | .chmodded _, none => some (s.abandon d)
      | .chmodded object, some current =>
          if s.isPrivate current then
            some (s.setStage d (.endpoint object (s.identity current)))
          else some { s.abandon d with entry := none }
      | _, _ => none
  | .beginDrop d =>
      match s.stages d with
      | .endpoint object identity =>
          if s.entry.any (fun current => s.identity current = identity) then
            some (s.setStage d (.dropping object))
          else some (s.setStage d (.closing object))
      | _ => none
  | .removeOwn d =>
      match s.stages d with
      | .dropping object => some { s.setStage d (.closing object) with entry := none }
      | _ => none
  | .close d =>
      match s.stages d with
      | .closing _ => some (s.abandon d)
      | _ => none
  | .fail d =>
      match s.stages d with
      | .endpoint _ _ => none
      | .dropping object => some (s.setStage d (.closing object))
      | .closing _ => none
      | _ => some (s.abandon d)
  | .crash d => some (s.abandon d)

/-- At most a stale file at the path, and no daemon at work. -/
def SocketRun.Fresh (s : SocketRun δ) : Prop :=
  (∀ d, s.stages d = .idle) ∧ (∀ object, s.listening object = false) ∧
    ∀ object, s.entry = some object → object < s.next

/-- All interleavings of the daemons at one path. -/
def socketSystem (δ : Type) [DecidableEq δ] : System (SocketRun δ) (SocketEvent δ) :=
  .ofStep SocketRun.Fresh (fun s e => s.after e)

/-- A stale removal finds the very file at the path that refused its connection. -/
def Unreplaced (s : SocketRun δ) : SocketEvent δ → Prop
  | .removeStale d =>
      ∀ object current, s.stages d = .rechecked object → s.entry = some current →
        current = object
  | _ => True

/-- The endpoint of a daemon is alive at an object. -/
def SocketRun.Alive (s : SocketRun δ) (d : δ) (object : Nat) : Prop :=
  (s.stages d).alive? = some object

/-- What clients find: an alive endpoint is the one at the path, so there is one at most. -/
structure SocketRun.OneOwner (s : SocketRun δ) : Prop where
  reached : ∀ d object, s.Alive d object → s.entry = some object ∧ s.listening object = true
  unique : ∀ d d' object object', s.Alive d object → s.Alive d' object' → d = d'

def SocketEvent.actor : SocketEvent δ → δ
  | .readMetadata d => d
  | .connect d => d
  | .recheck d => d
  | .removeStale d => d
  | .bind d _ => d
  | .chmod d => d
  | .record d => d
  | .beginDrop d => d
  | .removeOwn d => d
  | .close d => d
  | .fail d => d
  | .crash d => d

/-- A step leaves the file of another daemon's alive endpoint and binds nothing beside it. -/
structure KeepsOwner (s : SocketRun δ) (e : SocketEvent δ) (s' : SocketRun δ) : Prop where
  file : ∀ d object, s.Alive d object → e.actor ≠ d → s'.entry = some object
  bind : ∀ d object, s.Alive d object → ∀ d' identity, e = .bind d' identity →
    ∀ object', ¬ s'.Alive d' object'

end Steps

end Sessiond
end SleepySession
