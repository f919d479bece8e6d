import SleepySession.Launcher.Ranking
import SleepySession.Store.IoError
import SleepySession.Store.SecureDir

/-!
# The launcher's record of launches

`LauncherMetrics` counts the launches of desktop entries in one private file.
`record_launch` changes the counts in memory first and then writes the whole
document; `open` refuses documents beyond `MAX_ENTRY_BYTES`, the writer does not.
-/

namespace SleepySession
namespace Launcher

open Program

variable {β α : Type}

structure MetricsDocument where
  schemaVersion : UInt32
  entries : Table Text Usage
deriving DecidableEq

/-- What `serde_json` does for the metrics; contents are `β`. -/
structure MetricsSdk (β : Type) where
  /-- The content of a file that was just created. -/
  empty : β
  /-- `to_vec` of a document and the newline behind it. -/
  encode : MetricsDocument → β
  decode : β → Except String MetricsDocument
  /-- The length of a content in bytes. -/
  size : β → Nat

/-- The file name of the metrics; there is no other file. -/
inductive MetricsFile where
  | launcher
deriving DecidableEq, Repr

abbrev MetricsFiles (β : Type) := Volume Unit (Entry MetricsFile) β

instance : DisplayPath Unit MetricsFile :=
  ⟨fun _ _ => "launcher.json"⟩

structure LauncherMetrics (β : Type) where
  /-- What the directory of the metrics holds. -/
  directory : MetricsFiles β
  entries : Table Text Usage

abbrev MetricsProgram (β α : Type) :=
  Program (Answer MetricsFile β) (LauncherMetrics β) IoError α

def maxEntryBytes : Nat := 256 * 1024

def metricsVersion : UInt32 := 1

/-- The two checks of an id. -/
def validDesktopId (desktopId : Text) : Bool :=
  ".desktop".toList.isSuffixOf desktopId && ! desktopId.contains '/'

/-- `u64::saturating_add` of one. -/
def incremented (count : UInt64) : UInt64 :=
  if count.toNat + 1 < UInt64.size then count + 1 else count

def Usage.launched (usage : Usage) (now : UInt64) : Usage :=
  ⟨incremented usage.count, max usage.lastUsed now⟩

/-- The entries after a launch. -/
def launched (entries : Table Text Usage) (desktopId : Text) (now : UInt64) :
    Table Text Usage :=
  entries.insert desktopId (((entries.get? desktopId).getD Usage.default).launched now)

namespace LauncherMetrics

variable (sdk : MetricsSdk β)

/-- `io::Error::other` of a directory operation. -/
def other (m : Disk Unit MetricsFile β α) :
    Program (Answer MetricsFile β) (MetricsFiles β) IoError α :=
  m.mapError fun e => ⟨.other, e.display⟩

/-- The checks that `open` makes on the bytes of the file. -/
def checkBytes (bytes : β) : Except IoError (Table Text Usage) :=
  if sdk.size bytes > maxEntryBytes then
    .error ⟨.invalidData, "launcher metrics exceed limit"⟩
  else
    match sdk.decode bytes with
    | .error e => .error ⟨.invalidData, e⟩
    | .ok document =>
        if document.schemaVersion ≠ metricsVersion then
          .error ⟨.invalidData, "unknown launcher metrics schema"⟩
        else
          .ok document.entries

/-- `open`; opening the directory itself is one system call. -/
def «open» : Program (Answer MetricsFile β) (MetricsFiles β) IoError (LauncherMetrics β) := do
  other SecureDir.syscall
  other (SecureDir.validateFileIfPresent () (.named .launcher))
  let bytes ← other (SecureDir.readOptional () (.named .launcher))
  let entries ← match bytes with
    | some bytes => orThrow (checkBytes sdk bytes)
    | none => pure Table.empty
  let directory ← get
  pure ⟨directory, entries⟩

def onDirectory (m : Program (Answer MetricsFile β) (MetricsFiles β) IoError α) :
    MetricsProgram β α :=
  m.zoom directory fun files self => { self with directory := files }

def replace (bytes : β) : Disk Unit MetricsFile β Unit :=
  SecureDir.atomicReplace () .launcher sdk.empty bytes (pure ()) (pure ()) (pure ())

def persist : MetricsProgram β Unit := do
  let self ← get
  onDirectory (other (replace sdk (sdk.encode ⟨metricsVersion, self.entries⟩)))

def recordLaunch (desktopId : Text) (now : UInt64) : MetricsProgram β Unit := do
  if ! validDesktopId desktopId then
    throw ⟨.invalidInput, "invalid desktop id"⟩
  else do
    modify fun self => { self with entries := launched self.entries desktopId now }
    persist sdk

end LauncherMetrics

end Launcher
end SleepySession
