import SleepySession.Desktop.CommandText
import SleepySession.Lib.Program
import SleepySession.Store.IoError

/-!
# Commands of the desktop adapters

An adapter runs one command after the other and reads what each prints.  What
a command returns is the environment's choice; the state of a run is the list
of commands it has issued, with their results.
-/

namespace SleepySession

open Program

/-- `CommandSpec`; the timeout is in milliseconds. -/
structure CommandSpec where
  program : Text
  args : List Text
  timeout : Nat
deriving DecidableEq

def CommandSpec.new (program : String) (args : List Text) : CommandSpec :=
  ⟨program.toList, args, 900⟩

/-- What a command printed; `none` if it is not UTF-8. -/
abbrev Printed :=
  Option Text

structure CommandOutput where
  status : Int
  stdout : Printed
deriving DecidableEq

inductive RunnerErrorKind where
  | timeout
  | cancelled
  | spawn
  | io
deriving DecidableEq, Repr

abbrev CommandResult :=
  Except RunnerErrorKind CommandOutput

instance : Inhabited CommandResult :=
  ⟨.error .io⟩

/-- The commands issued so far. -/
abbrev Transcript :=
  List (CommandSpec × CommandResult)

abbrev Adapter (α : Type) :=
  Program CommandResult Transcript IoError α

def dataError {α : Type} (message : String) : Except IoError α :=
  .error ⟨.invalidData, message⟩

def inputError {α : Type} (message : String) : Except IoError α :=
  .error ⟨.invalidInput, message⟩

/-- `R::run`. -/
def runCommand (spec : CommandSpec) : Adapter CommandResult := do
  let result ← answer
  modify (· ++ [(spec, result)])
  pure result

def commandOutput : CommandResult → Except IoError Printed
  | .ok output =>
      if output.status = 0 then
        .ok output.stdout
      else
        .error ⟨.other, "desktop adapter command failed"⟩
  | .error .timeout => .error ⟨.timedOut, "desktop adapter command could not complete"⟩
  | .error .cancelled => .error ⟨.timedOut, "desktop adapter command could not complete"⟩
  | .error .spawn => .error ⟨.notFound, "desktop adapter command could not complete"⟩
  | .error .io => .error ⟨.other, "desktop adapter command could not complete"⟩

/-- `network::run`. -/
def runAdapter (spec : CommandSpec) : Adapter Printed := do
  let result ← runCommand spec
  orThrow (commandOutput result)

/-- Run one command for each item, in order. -/
def runEach {α : Type} (spec : α → CommandSpec) : List α → Adapter (List (α × Printed))
  | [] => pure []
  | a :: items => do
      let output ← runAdapter (spec a)
      let outputs ← runEach spec items
      pure ((a, output) :: outputs)

def textOf (message : String) : Printed → Except IoError Text
  | some text => .ok text
  | none => dataError message

def checkConfirmed (message : String) (isConfirmed : Bool) : Except IoError Unit :=
  if isConfirmed then .ok () else .error ⟨.other, message⟩

def onOff (value : Bool) : Text :=
  if value then "on".toList else "off".toList

end SleepySession
