import Mathlib.Tactic

/-!
# Errors of the standard library

`io::Error` as the session services use it: a kind and a text.
-/

namespace SleepySession

/-- `io::ErrorKind`; `os` stands for whatever a system call reports. -/
inductive ErrorKind where
  | os
  | other
  | invalidInput
  | invalidData
  | notFound
  | permissionDenied
  | notConnected
  | outOfMemory
  | alreadyExists
  | wouldBlock
  | interrupted
  | timedOut
  | brokenPipe
  | fileTooLarge
deriving DecidableEq, Repr

/-- `io::Error`. -/
structure IoError where
  kind : ErrorKind
  message : String
deriving DecidableEq, Repr

end SleepySession
