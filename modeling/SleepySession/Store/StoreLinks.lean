import SleepySession.Lib.LexicalPath
import SleepySession.Store.Error

/-!
# Files behind links into the store

`read_store_regular_for_policy` reads a file of the Nix store through links.  It
opens one component after the other without following links, and when it meets
a link it resolves the target lexically and begins again at the store.
-/

namespace SleepySession
namespace StoreLinks

abbrev Name := List UInt8

abbrev Path := List UInt8

/-- Why an entry could not be opened. -/
inductive OpenError where
  | loop
  | notDirectory
  | other (error : String)
deriving DecidableEq, Repr

/-- What an entry of the file system is; every kind has an owner. -/
inductive Node (ι : Type) where
  | regular (owner : Nat) (contents : Except String (List UInt8))
  | directory (owner : Nat) (entries : Name → Except OpenError ι)
  | link (owner : Nat) (target : Except String Path)
  | special (owner : Nat)

/-- A file system that does not change; links may form any graph. -/
structure FileSystem (ι : Type) where
  root : ι
  node : ι → Node ι
  /-- Opening something other than a link for reading. -/
  openRead : ι → Except OpenError Unit

variable {ι : Type}

section FileSystems

variable (fs : FileSystem ι)

/-- `openat` with `O_PATH | O_NOFOLLOW`. -/
def openPath (directory : ι) (name : Name) : Except OpenError ι :=
  match fs.node directory with
  | .directory _ entries => entries name
  | _ => .error .notDirectory

/-- `openat` with `O_PATH | O_DIRECTORY | O_NOFOLLOW`. -/
def openDirectory (directory : ι) (name : Name) : Except OpenError ι :=
  match openPath fs directory name with
  | .error e => .error e
  | .ok child =>
      match fs.node child with
      | .directory _ _ => .ok child
      | _ => .error .notDirectory

/-- `openat` with `O_RDONLY | O_NONBLOCK | O_NOFOLLOW`. -/
def openFinal (directory : ι) (name : Name) : Except OpenError ι :=
  match openPath fs directory name with
  | .error e => .error e
  | .ok child =>
      match fs.node child with
      | .link _ _ => .error .loop
      | _ =>
          match fs.openRead child with
          | .ok _ => .ok child
          | .error e => .error e

end FileSystems

/-- A path as error messages show it; only printable ASCII is shown as it is. -/
def displayPath (path : Path) : String :=
  String.ofList (path.map fun b => Char.ofNat b.toNat)

def unsafePath (path : Path) : Failure :=
  .unsafePath (displayPath path)

def mapOpenError (path : Path) : OpenError → Failure
  | .loop => unsafePath path
  | .notDirectory => unsafePath path
  | .other error => .io error

def cString (component : Name) (path : Path) : Except Failure Name :=
  if component = [] ∨ component = [dot] ∨ component = [dot, dot] ∨ slash ∈ component ∨
      0 ∈ component then
    .error (unsafePath path)
  else
    .ok component

section Normalization

/-- The loop of `normalize_store_target`. -/
def normalizeComponents (target : Path) :
    List Name → List (Component Name) → Except Failure (List Name)
  | resolved, [] => .ok resolved
  | resolved, .curDir :: rest => normalizeComponents target resolved rest
  | resolved, .normal component :: rest =>
      normalizeComponents target (resolved ++ [component]) rest
  | resolved, .parentDir :: rest =>
      if resolved = [] then .error (unsafePath target)
      else normalizeComponents target resolved.dropLast rest
  | _, .rootDir :: _ => .error (unsafePath target)

/-- `Path::strip_prefix` on components. -/
def stripPrefix : List (Component Name) → List (Component Name) →
    Option (List (Component Name))
  | [], path => some path
  | _ :: _, [] => none
  | b :: base, c :: path => if b = c then stripPrefix base path else none

def normalizeStoreTarget (target storeRoot : Path) (relativeParent : List Name) :
    Except Failure (List Name) :=
  if isAbsolute target then
    match stripPrefix (components storeRoot) (components target) with
    | none => .error (unsafePath target)
    | some relative => normalizeComponents target [] relative
  else
    normalizeComponents target relativeParent (components target)

end Normalization

section Resolution

variable (fs : FileSystem ι)

/-- The loop of `open_directory_path_no_follow`. -/
def openDirectories (path : Path) : ι → List (Component Name) → Except Failure ι
  | descriptor, [] => .ok descriptor
  | descriptor, .rootDir :: rest => openDirectories path descriptor rest
  | descriptor, .normal component :: rest =>
      match cString component path with
      | .error e => .error e
      | .ok name =>
          match openDirectory fs descriptor name with
          | .error e => .error (mapOpenError path e)
          | .ok child => openDirectories path child rest
  | _, _ :: _ => .error (unsafePath path)

def openDirectoryPathNoFollow (path : Path) : Except Failure ι :=
  if ! isAbsolute path then .error (unsafePath path)
  else openDirectories fs path fs.root (components path)

/-- A component of the path, opened; the last one for reading unless it is a link. -/
def openComponent (initialTarget : Path) (directory : ι) (name : Name) (isFinal : Bool) :
    Except Failure ι :=
  if isFinal then
    match openFinal fs directory name with
    | .ok child => .ok child
    | .error .loop => (openPath fs directory name).mapError (mapOpenError initialTarget)
    | .error e => .error (mapOpenError initialTarget e)
  else
    (openPath fs directory name).mapError (mapOpenError initialTarget)

/-- How the walk along a path ends: with a result, or at a link. -/
inductive Walked where
  | done (result : Except Failure (List UInt8))
  | link (before : List Name) (target : Except String Path) (rest : List Name)

/-- The loop over the components of a path that was not seen before. -/
def walk (initialTarget : Path) (requiredOwner : Nat) :
    ι → List Name → List Name → Walked
  -- the next round would find this path among those seen
  | _, _, [] => .done (.error (unsafePath initialTarget))
  | directory, before, component :: rest =>
      match cString component initialTarget with
      | .error e => .done (.error e)
      | .ok name =>
          match openComponent fs initialTarget directory name rest.isEmpty with
          | .error e => .done (.error e)
          | .ok child =>
              match fs.node child with
              | .link _ target => .link before target rest
              | .directory _ _ =>
                  if rest.isEmpty then .done (.error (unsafePath initialTarget))
                  else walk initialTarget requiredOwner child (before ++ [component]) rest
              | .regular owner contents =>
                  if rest.isEmpty ∧ owner = requiredOwner then
                    .done (contents.mapError Failure.io)
                  else .done (.error (unsafePath initialTarget))
              | .special _ => .done (.error (unsafePath initialTarget))

/-- What the loop of the resolution carries from round to round. -/
structure Resolution where
  pending : List Name
  seen : List (List Name)
  followed : Nat
deriving DecidableEq

/-- One round: the result, or what the next round begins with. -/
def resolveRound (initialTarget storeRoot : Path) (requiredOwner maxSymlinkHops : Nat)
    (store : ι) (s : Resolution) : Except Failure (List UInt8) ⊕ Resolution :=
  if s.pending = [] ∨ s.pending ∈ s.seen then
    .inl (.error (unsafePath initialTarget))
  else
    match walk fs initialTarget requiredOwner store [] s.pending with
    | .done result => .inl result
    | .link before target rest =>
        if s.followed + 1 > maxSymlinkHops then
          .inl (.error (unsafePath initialTarget))
        else
          match target with
          | .error e => .inl (.error (.io e))
          | .ok target =>
              match normalizeStoreTarget target storeRoot before with
              | .error e => .inl (.error e)
              | .ok resolved =>
                  .inr ⟨resolved ++ rest, s.pending :: s.seen, s.followed + 1⟩

/-- The loop of the resolution, for at most `fuel` rounds. -/
def resolveRounds (initialTarget storeRoot : Path) (requiredOwner maxSymlinkHops : Nat)
    (store : ι) : Nat → Resolution → Option (Except Failure (List UInt8))
  | 0, _ => none
  | fuel + 1, s =>
      match resolveRound fs initialTarget storeRoot requiredOwner maxSymlinkHops store s with
      | .inl result => some result
      | .inr s' =>
          resolveRounds initialTarget storeRoot requiredOwner maxSymlinkHops store fuel s'

/-- `read_store_regular_for_policy`; there is no result if `fuel` rounds do not suffice. -/
def readStoreRegularForPolicy (fuel : Nat) (initialTarget storeRoot : Path)
    (requiredOwner maxSymlinkHops : Nat) : Option (Except Failure (List UInt8)) :=
  if ! isAbsolute initialTarget then
    some (.error (unsafePath initialTarget))
  else
    match normalizeStoreTarget initialTarget storeRoot [] with
    | .error e => some (.error e)
    | .ok pending =>
        match openDirectoryPathNoFollow fs storeRoot with
        | .error e => some (.error e)
        | .ok store =>
            resolveRounds fs initialTarget storeRoot requiredOwner maxSymlinkHops store fuel
              ⟨pending, [], 0⟩

end Resolution

end StoreLinks
end SleepySession
