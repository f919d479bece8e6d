import SleepySession.Desktop.CommandText
import SleepySession.Lib.Utf8
import SleepySession.Store.IoError
import SleepySession.Store.SecureDir

/-!
# The generation allocator

`GenerationAllocator` takes blocks of numbers from a private file: the file
holds the first number that nobody has reserved.  A block is reserved under an
exclusive file lock by replacing the file; the allocator changes only after the
replacement is durable.  Numbers are `u64`, so additions are checked.

The checks of the path and the opening of the directory are left out.
-/

namespace SleepySession
namespace Sessiond

open Program

/-- The state file; the lock file has no content. -/
inductive GenerationFile where
  | state
deriving DecidableEq, Repr

abbrev GenerationFiles := Volume Unit (Entry GenerationFile) (List UInt8)

instance : DisplayPath Unit GenerationFile :=
  ⟨fun _ _ => "generation"⟩

structure GenerationAllocator where
  blockSize : Nat
  next : Nat
  «end» : Nat
deriving DecidableEq, Repr

/-- An allocator with the directory that it works in. -/
structure Allocation where
  directory : GenerationFiles
  self : GenerationAllocator

/-- Programs on the directory alone. -/
abbrev GenerationDisk (α : Type) :=
  Program (Answer GenerationFile (List UInt8)) GenerationFiles IoError α

/-- Programs of an allocator. -/
abbrev AllocatorProgram (α : Type) :=
  Program (Answer GenerationFile (List UInt8)) Allocation IoError α

/-- `u64::checked_add`. -/
def checkedAdd (a b : Nat) : Option Nat :=
  if a + b < 2 ^ 64 then some (a + b) else none

def storeError (error : Failure) : IoError :=
  ⟨if error.code = .unsafePath then .permissionDenied else .other, error.display⟩

section Directory

variable {α : Type}

/-- A directory operation with the errors of this module. -/
def onStore (m : Disk Unit GenerationFile (List UInt8) α) : GenerationDisk α :=
  m.mapError storeError

/-- A system call outside `SecureDir`; its error is passed on as it is. -/
def osCall : GenerationDisk Unit :=
  (SecureDir.syscall : Disk Unit GenerationFile (List UInt8) Unit).mapError
    fun e => ⟨.os, e.message⟩

/-- Calls the closure `cancelled`; without a control nothing is ever cancelled. -/
def isCancelled (controlled : Bool) : Disk Unit GenerationFile (List UInt8) Bool :=
  if controlled then do
    let a ← answer
    pure (! a.accepted)
  else
    pure false

def cancelledError : IoError :=
  ⟨.interrupted, "generation allocation was cancelled"⟩

def ensureNotCancelled (controlled : Bool) : GenerationDisk Unit := do
  let cancelled ← onStore (isCancelled controlled)
  if cancelled then throw cancelledError else pure ()

/-- `RunControl::begin_commit`; the result says whether there is a guard. -/
def beginCommit (withCommit : Bool) : Disk Unit GenerationFile (List UInt8) Bool :=
  if withCommit then do
    let a ← answer
    match a.fault with
    | .proceed => pure a.available
    | .crash => crash
    | _ => throw (.io a.text)
  else
    pure false

/-- `validate_private_file` of the open lock. -/
def validatePrivateFile : GenerationDisk Unit := do
  let a ← answer
  match a.fault with
  | .proceed => pure ()
  | .refuse =>
      throw ⟨.permissionDenied, "generation lock must be an owned mode-0600 regular file"⟩
  | .fail => throw ⟨.os, a.text⟩
  | .crash => crash

/-- The loop around `try_lock_exclusive`, from its last round on; the others have no effect. -/
def lockExclusive (controlled : Bool) : GenerationDisk Unit := do
  ensureNotCancelled controlled
  osCall

/-- The checks that `read_next` makes on the bytes of the file. -/
def parseGeneration (bytes : List UInt8) : Except IoError Nat :=
  if bytes.length > 64 then
    .error ⟨.invalidData, "generation state exceeds the bounded input limit"⟩
  else
    match (fromUtf8 bytes).bind fun value => parseUnsigned (2 ^ 64) (trimText value) with
    | none => .error ⟨.invalidData, "invalid generation"⟩
    | some parsed =>
        if parsed = 0 then .error ⟨.invalidData, "generation must be positive"⟩
        else .ok parsed

def readNext : GenerationDisk Nat := do
  let bytes ← onStore (SecureDir.readOptional () (.named .state))
  match bytes with
  | some bytes => orThrow (parseGeneration bytes)
  | none => pure 1

/-- The bytes that a reservation writes. -/
def generationBytes («end» : Nat) : List UInt8 :=
  utf8Bytes (decimalText «end» ++ ['\n'])

/-- The closure that `atomic_write_while` runs before the rename. -/
def beforeRename (controlled withCommit : Bool) :
    Disk Unit GenerationFile (List UInt8) Bool := do
  let cancelled ← isCancelled controlled
  if cancelled then throw (.io cancelledError.message) else beginCommit withCommit

/-- The error of a replacement that was given up before the commit had started. -/
def uncommittedError (controlled : Bool) (error : Failure) : GenerationDisk α := do
  let cancelled ← onStore (isCancelled controlled)
  throw (if cancelled then cancelledError else storeError error)

def atomicWriteWhile (controlled withCommit : Bool) (bytes : List UInt8) :
    GenerationDisk Bool := do
  let staged ← onStore
    (SecureDir.stageFile () .state [] bytes (beforeRename controlled withCommit)).attempt
  match staged with
  | .error e => uncommittedError controlled e
  | .ok (uuid, guard) => do
      onStore (SecureDir.commitFile () .state uuid (pure ()) (pure ()))
      pure guard

end Directory

namespace GenerationAllocator

def onDirectory {α : Type} (m : GenerationDisk α) : AllocatorProgram α :=
  m.zoom Allocation.directory fun files state => { state with directory := files }

def reserveBlockWith (controlled withCommit : Bool) : AllocatorProgram Bool := do
  onDirectory (onStore SecureDir.syscall)
  onDirectory validatePrivateFile
  onDirectory (lockExclusive controlled)
  onDirectory (ensureNotCancelled controlled)
  onDirectory (onStore (SecureDir.validateFileIfPresent () (.named .state)))
  let start ← onDirectory readNext
  let state ← get
  match checkedAdd start state.self.blockSize with
  | none => throw ⟨.other, "generation range exhausted"⟩
  | some finish => do
      onDirectory (ensureNotCancelled controlled)
      let guard ← onDirectory
        (atomicWriteWhile controlled withCommit (generationBytes finish))
      modify fun state =>
        { state with self := { state.self with next := start, «end» := finish } }
      -- the lock is released last, and that can fail as well
      onDirectory osCall
      pure guard

def reserveBlock : AllocatorProgram Unit := do
  let _ ← reserveBlockWith false false
  pure ()

/-- Hand out the next number of the block. -/
def takeNext : AllocatorProgram Nat := do
  let state ← get
  match checkedAdd state.self.next 1 with
  | none => throw ⟨.other, "generation exhausted"⟩
  | some next => do
      modify fun state => { state with self := { state.self with next := next } }
      pure state.self.next

def nextGenerationWhile (controlled : Bool) : AllocatorProgram Nat := do
  onDirectory (ensureNotCancelled controlled)
  let state ← get
  if state.self.next = state.self.end then do
    let _ ← reserveBlockWith controlled false
    takeNext
  else do
    onDirectory (ensureNotCancelled controlled)
    takeNext

def nextGeneration : AllocatorProgram Nat :=
  nextGenerationWhile false

/-- `begin_commit` with the caller's own errors. -/
def commitGuard : GenerationDisk Bool :=
  (beginCommit true).mapError fun e => ⟨.interrupted, e.message⟩

def nextGenerationWithCommit : AllocatorProgram (Nat × Bool) := do
  onDirectory (ensureNotCancelled true)
  let state ← get
  let commit ←
    if state.self.next = state.self.end then reserveBlockWith true true
    else onDirectory commitGuard
  let generation ← takeNext
  pure (generation, commit)

/-- One round of the loop of `next_after`, or what follows it. -/
def nextAfterRound (floor : Nat) : AllocatorProgram (Option Nat) := do
  let state ← get
  if state.self.end ≤ floor then do
    reserveBlock
    pure none
  else do
    if state.self.next ≤ floor then
      match checkedAdd floor 1 with
      | none => throw ⟨.other, "generation exhausted"⟩
      | some next =>
          modify fun state => { state with self := { state.self with next := next } }
    else
      pure ()
    let generation ← nextGeneration
    pure (some generation)

/-- The value that `open` starts from. -/
def new (blockSize : Nat) : GenerationAllocator :=
  ⟨blockSize, 0, 0⟩

/-- `open` once its directory is there; it is run on a new allocator. -/
def «open» : AllocatorProgram Unit := do
  let state ← get
  if state.self.blockSize = 0 then
    throw ⟨.invalidInput, "generation block size must be positive"⟩
  else do
    onDirectory (onStore SecureDir.syscall)
    onDirectory (onStore (SecureDir.validateFileIfPresent () (.named .state)))
    reserveBlock

end GenerationAllocator

end Sessiond
end SleepySession
