import SleepySession.Desktop.CommandRunner

/-!
# The request of a recording

The arguments with which the daemon starts the recording helper, and how the
helper reads them.  The two check the fields of the request with conditions of
their own.  The region and its JSON text are those of the SDK.
-/

namespace SleepySession
namespace Utilities

/-- What the SDK and `serde_json` do for regions. -/
structure RegionSdk (ρ : Type) where
  isValid : ρ → Bool
  toText : ρ → Except IoError Text
  fromText : Text → Option ρ

section Paths

/-- `Path::is_absolute`. -/
def isAbsolute (path : Text) : Bool :=
  path.head? == some '/'

/-- `Path::file_name`. -/
def fileName (path : Text) : Option Text :=
  ((path.splitOnP (· = '/')).filter fun part => part ≠ [] && part ≠ ['.']).getLast?.filter
    fun part => part ≠ "..".toList

/-- `Path::extension`: what follows the last dot that has something before it. -/
def extension (path : Text) : Option Text :=
  (fileName path).bind fun name =>
    match (name.splitOnP (· = '.')).reverse with
    | last :: before => if before = [] ∨ before = [[]] then none else some last
    | [] => none

end Paths

section Daemon

variable {ρ : Type} (sdk : RegionSdk ρ)

inductive RecordingTarget where
  | output
  | region
deriving DecidableEq

/-- The commands that `action_spec` looks at, with all others as one. -/
inductive UtilityCommand (ρ : Type) where
  | screenshot (outputId : Text)
  | pickColor
  | startRecording (outputId : Text) (target : RecordingTarget) (region : Option ρ) (audio : Bool)
  | other

def isNameChar (c : Char) : Bool :=
  c.isAlphanum || c ∈ ['-', '_', '.']

/-- The name in an output ID. -/
def nameOf (outputId : Text) : Text :=
  (stripPrefix "output:".toList outputId).getD outputId

def outputName (outputId : Text) : Except IoError Text :=
  let value := nameOf outputId
  if value ≠ [] ∧ value.byteLength ≤ 128 ∧ value.all isNameChar then .ok value
  else inputError "invalid output ID"

def validateOutputPath (path : Text) : Except IoError Unit :=
  if isAbsolute path = false ∨ '\x00' ∈ path then inputError "utility output path is invalid"
  else .ok ()

/-- The region arguments of a recording. -/
def regionArgs (target : RecordingTarget) (region : Option ρ) : Except IoError (List Text) :=
  if target = .region then
    match region.filter sdk.isValid with
    | none => inputError "region geometry required"
    | some region => do
        let text ← sdk.toText region
        pure ["--region".toList, text]
  else if region.isSome then inputError "output recording cannot include a region"
  else .ok []

def actionSpec (command : UtilityCommand ρ) (outputPath : Text) :
    Except IoError (Option CommandSpec) :=
  match command with
  | .screenshot outputId => do
      validateOutputPath outputPath
      let name ← outputName outputId
      pure (some (.new "sleepy-capture-helper"
        ["screenshot".toList, "--interactive-consent".toList, "--output-id".toList, name,
          "--output-path".toList, outputPath]))
  | .pickColor =>
      .ok (some (.new "sleepy-capture-helper"
        ["pick-color".toList, "--interactive-consent".toList, "--clipboard".toList]))
  | .startRecording outputId target region audio => do
      validateOutputPath outputPath
      let name ← outputName outputId
      let regionWords ← regionArgs sdk target region
      pure (some (.new "sleepy-recording-helper"
        (["record".toList, "--interactive-consent".toList, "--output-id".toList, name] ++
          regionWords ++ ["--output-path".toList, outputPath] ++
          (if audio then ["--audio".toList] else []) ++ ["--status-fd".toList, "1".toList])))
  | .other => .ok none

end Daemon

section Helper

variable {ρ : Type} (sdk : RegionSdk ρ)

/-- A request as the helper has read it. -/
structure Recording (ρ : Type) where
  output : Text
  path : Text
  region : Option ρ
  audio : Bool
deriving DecidableEq

/-- The variables of the loop in `parse`. -/
structure Parsing (ρ : Type) where
  result : Recording ρ
  consent : Bool
  status : Bool
  seen : List Text

def Parsing.new : Parsing ρ :=
  ⟨⟨[], [], none, false⟩, false, false, []⟩

def invalidRequest {α : Type} : Except IoError α :=
  inputError "invalid capture request"

def consentOption : Text := "--interactive-consent".toList

def audioOption : Text := "--audio".toList

def outputIdOption : Text := "--output-id".toList

def outputPathOption : Text := "--output-path".toList

def regionOption : Text := "--region".toList

def statusFdOption : Text := "--status-fd".toList

/-- The options that take a value. -/
def valueOptions : List Text :=
  [outputIdOption, outputPathOption, regionOption, statusFdOption]

/-- An option with its value. -/
def setValue (s : Parsing ρ) (option value : Text) : Except IoError (Parsing ρ) :=
  if option = outputIdOption then .ok { s with result.output := value }
  else if option = outputPathOption then .ok { s with result.path := value }
  else if option = statusFdOption ∧ value = "1".toList then .ok { s with status := true }
  else if option = regionOption then
    match sdk.fromText value with
    | none => invalidRequest
    | some region => .ok { s with result.region := some region }
  else invalidRequest

/-- The loop over the words behind the first one. -/
def parseOptions (s : Parsing ρ) : List Text → Except IoError (Parsing ρ)
  | [] => .ok s
  | option :: words =>
      if option ∈ s.seen then invalidRequest
      else
        let s := { s with seen := option :: s.seen }
        if option = consentOption then parseOptions { s with consent := true } words
        else if option = audioOption then parseOptions { s with result.audio := true } words
        else if option ∈ valueOptions then
          match words with
          | [] => invalidRequest
          | value :: words =>
              match setValue sdk s option value with
              | .error e => .error e
              | .ok s => parseOptions s words
        else invalidRequest

/-- The checks behind the loop. -/
def complete (s : Parsing ρ) : Bool :=
  s.consent && s.status && !s.result.output.isEmpty && decide (s.result.output.byteLength ≤ 128) &&
    s.result.output.all isNameChar && s.result.output.head? != some '-' &&
    isAbsolute s.result.path && extension s.result.path == some "mp4".toList &&
    !s.result.region.any fun region => !sdk.isValid region

def parse : List Text → Except IoError (Recording ρ)
  | [] => invalidRequest
  | first :: words =>
      if first ≠ "record".toList then invalidRequest
      else
        match parseOptions sdk .new words with
        | .error e => .error e
        | .ok s => if complete sdk s then .ok s.result else invalidRequest

end Helper

end Utilities
end SleepySession
