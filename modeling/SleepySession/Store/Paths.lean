import SleepySession.Store.SecureDir

/-!
# Directories and file names

The store keeps `presets.json` and `settings.json` in two private directories;
the generated bindings live in the directory of the compositor.  The journal
and the sidecars of binding transactions are kept next to these files.
-/

namespace SleepySession

/-- The three files that a binding transaction replaces together. -/
inductive ArtifactKind where
  | preset
  | settings
  | bindings
deriving DecidableEq, Repr

/-- The three private directories of the store and the compositor. -/
inductive Directory where
  | presets
  | settings
  | niri
deriving DecidableEq, Repr

/-- The file names that the store and binding transactions use. -/
inductive FileName where
  | artifact (kind : ArtifactKind)
  | journal
  | sidecar (kind : ArtifactKind) (transactionId : String) (new : Bool)
  | publishTemporary (name : FileName)
  | prepareTemporary (transactionId : String)
  | other (name : String)
deriving DecidableEq, Repr

/-- The directories of one session. -/
abbrev Files (β : Type) := Volume Directory (Entry FileName) β

/-- Contents for the three artifacts, each possibly absent. -/
abbrev Triple (β : Type) := ArtifactKind → Option β

/-- Programs over the files of one session. -/
abbrev StoreProgram (β α : Type) := Disk Directory FileName β α

def artifactKinds : List ArtifactKind :=
  [.preset, .settings, .bindings]

def artifactDir : ArtifactKind → Directory
  | .preset => .presets
  | .settings => .settings
  | .bindings => .niri

def artifactName (kind : ArtifactKind) : FileName :=
  .artifact kind

section Live

variable {β : Type}

def liveCell (v : Files β) (k : ArtifactKind) : Cell β :=
  v (artifactDir k) (.named (artifactName k))

/-- The three files as a reader finds them. -/
def liveTriple (v : Files β) : Triple β :=
  fun k => (liveCell v k).current

end Live

end SleepySession
