import SleepySession.Desktop.CommandText
import SleepySession.Store.IoError

/-!
# Desktop entries and their command lines

How the launcher reads a desktop entry, splits its `Exec` value into tokens and
expands the field codes.  The text of an entry, its path and the answer of
`try_exec` are given.
-/

namespace SleepySession
namespace Launcher

structure DesktopAction where
  id : Text
  name : Text
  exec : Text
deriving DecidableEq

structure DesktopEntry where
  desktopId : Text
  name : Text
  icon : Option Text
  actions : List DesktopAction
  /-- `path.to_string_lossy()`. -/
  path : Text
  exec : Text
deriving DecidableEq

structure LaunchResources where
  files : List Text := []
  urls : List Text := []
deriving DecidableEq

def invalidData (message : String) : IoError :=
  ⟨.invalidData, message⟩

def invalidInput (message : String) : IoError :=
  ⟨.invalidInput, message⟩

section Tokens

/-- The state of the loop in `tokenize`. -/
structure Tokenizer where
  tokens : List Text := []
  token : Text := []
  quoted : Bool := false
  escaped : Bool := false
  active : Bool := false
deriving DecidableEq

def Tokenizer.step (t : Tokenizer) (character : Char) : Tokenizer :=
  if t.escaped then
    { t with token := t.token ++ [character], escaped := false, active := true }
  else if character = '\\' then { t with escaped := true, active := true }
  else if character = '"' then { t with quoted := !t.quoted, active := true }
  else if isWhiteSpace character = true ∧ t.quoted = false then
    if t.active then { t with tokens := t.tokens ++ [t.token], token := [], active := false }
    else t
  else { t with token := t.token ++ [character], active := true }

def tokenize (input : Text) : Except IoError (List Text) :=
  let t := input.foldl Tokenizer.step {}
  if t.escaped = true ∨ t.quoted = true then .error (invalidData "malformed Exec quoting")
  else .ok (if t.active then t.tokens ++ [t.token] else t.tokens)

end Tokens

section Expanding

variable (entry : DesktopEntry) (resources : LaunchResources)

/-- What a field code inside of a token stands for. -/
def fieldCode (code : Char) : Except IoError Text :=
  if code = '%' then .ok ['%']
  else if code = 'c' then .ok entry.name
  else if code = 'k' then .ok entry.path
  else if code = 'f' then .ok (resources.files.head?.getD [])
  else if code = 'u' then .ok (resources.urls.head?.getD [])
  else if code ∈ ['d', 'D', 'n', 'N', 'v', 'm'] then .ok []
  else if code ∈ ['F', 'U', 'i'] then
    .error (invalidData "multi-argument field code must be a complete argument")
  else .error (invalidData "unsupported Exec field code")

/-- The loop over the characters of a token. -/
def expandToken : Text → Except IoError Text
  | [] => .ok []
  | ['%'] => .error (invalidData "trailing Exec field code")
  | '%' :: code :: rest => do
      let text ← fieldCode entry resources code
      let expanded ← expandToken rest
      return text ++ expanded
  | c :: rest => do
      let expanded ← expandToken rest
      return c :: expanded

/-- The arguments that a token becomes. -/
def expandArgument (token : Text) : Except IoError (List Text) :=
  if token = ['%', 'F'] then .ok resources.files
  else if token = ['%', 'U'] then .ok resources.urls
  else if token = ['%', 'i'] then
    .ok (match entry.icon with
      | some icon => ["--icon".toList, icon]
      | none => [])
  else do
    let expanded ← expandToken entry resources token
    return if expanded = [] then [] else [expanded]

/-- The loop over the tokens. -/
def expandTokens : List Text → Except IoError (List Text)
  | [] => .ok []
  | token :: rest => do
      let arguments ← expandArgument entry resources token
      let output ← expandTokens rest
      return arguments ++ output

def expandExec (exec : Text) : Except IoError (List Text) := do
  let tokens ← tokenize exec
  if tokens = [] then .error (invalidData "Exec is empty")
  else do
    let output ← expandTokens entry resources tokens
    if output.head?.getD [] = [] then .error (invalidData "Exec has no program")
    else .ok output

end Expanding

section Resources

def maxResources : Nat :=
  256

def maxResourceBytes : Nat :=
  16 * 1024

def maxResourceTotalBytes : Nat :=
  1024 * 1024

/-- The loop over the resources; `total` counts the bytes so far. -/
def checkResources : Nat → List Text → Except IoError Unit
  | _, [] => .ok ()
  | total, resource :: rest =>
      if resource = [] ∨ Char.ofNat 0 ∈ resource ∨ maxResourceBytes < resource.byteLength then
        .error (invalidInput "launch resource is invalid or oversized")
      else if maxResourceTotalBytes < total + resource.byteLength then
        .error (invalidInput "launch resources exceed aggregate limit")
      else checkResources (total + resource.byteLength) rest

def validateResources (resources : LaunchResources) : Except IoError Unit :=
  if maxResources < resources.files.length + resources.urls.length then
    .error (invalidInput "too many launch resources")
  else checkResources 0 (resources.files ++ resources.urls)

end Resources

section Indexing

/-- The values of an entry by group and key, the latest first. -/
abbrev Groups :=
  List ((Text × Text) × Text)

def Groups.get? (groups : Groups) (group key : Text) : Option Text :=
  (groups.find? fun value => value.1 = (group, key)).map Prod.snd

def Groups.contains (groups : Groups) (group : Text) : Bool :=
  groups.any fun value => value.1.1 = group

/-- One line of an entry; `none` if the entry is malformed. -/
def parseLine (state : Text × Groups) (raw : Text) : Option (Text × Groups) :=
  let line := trimEndMatches (· = '\r') raw
  if line.head? = some '[' ∧ line.getLast? = some ']' then
    some (line.tail.dropLast, state.2)
  else if line ≠ [] ∧ line.head? ≠ some '#' then
    match splitOnce '=' line with
    | none => none
    | some (key, value) => some (state.1, ((state.1, key), value) :: state.2)
  else some state

def boolean (value : Option Text) : Bool :=
  value.any fun value => value.map Char.toLower = "true".toList

/-- `list`. -/
def listOf (value : Option Text) : List Text :=
  match value with
  | some value => (splitParts ';' none value).filter fun part => part ≠ []
  | none => []

def mainGroup : Text :=
  "Desktop Entry".toList

def desktopVisible (groups : Groups) (desktops : List Text) : Bool :=
  let only := listOf (groups.get? mainGroup "OnlyShowIn".toList)
  let excluded := listOf (groups.get? mainGroup "NotShowIn".toList)
  (only.isEmpty || only.any fun name => name ∈ desktops) &&
    desktops.all fun name => name ∉ excluded

/-- The action of an identifier, if its group has a name and a command. -/
def actionOf (groups : Groups) (id : Text) : Option DesktopAction :=
  if id = [] ∨ '/' ∈ id then none
  else
    let group := "Desktop Action ".toList ++ id
    match groups.get? group "Name".toList, groups.get? group "Exec".toList with
    | some name, some exec => some { id, name, exec }
    | _, _ => none

def succeeds {α : Type} (result : Except IoError α) : Bool :=
  match result with
  | .ok _ => true
  | .error _ => false

/-- The check of the commands before an entry is indexed. -/
def execsExpand (candidate : DesktopEntry) : Bool :=
  succeeds (expandExec candidate {} candidate.exec) &&
    candidate.actions.all fun action => succeeds (expandExec candidate {} action.exec)

/-- `parse_entry` on the text of the file. -/
def parseEntry (tryExec : Text → Bool) (desktops : List Text) (desktopId path input : Text) :
    Option DesktopEntry :=
  if Char.ofNat 0 ∈ input then none
  else
    match ((textLines input).take 8193).foldlM parseLine ([], []) with
    | none => none
    | some (_, groups) =>
        if 8192 < (textLines input).length then none
        else if groups.contains mainGroup = false then none
        else if groups.get? mainGroup "Type".toList ≠ some "Application".toList ∨
            boolean (groups.get? mainGroup "Hidden".toList) = true ∨
            boolean (groups.get? mainGroup "NoDisplay".toList) = true ∨
            desktopVisible groups desktops = false then none
        else
          match groups.get? mainGroup "Name".toList, groups.get? mainGroup "Exec".toList with
          | some name, some exec =>
              if name = [] ∨ exec = [] ∨
                  (groups.get? mainGroup "TryExec".toList).any (fun program =>
                    !tryExec program) = true then none
              else
                let candidate : DesktopEntry := {
                  desktopId
                  name
                  icon := groups.get? mainGroup "Icon".toList
                  actions := (listOf (groups.get? mainGroup "Actions".toList)).filterMap
                    (actionOf groups)
                  path
                  exec }
                if execsExpand candidate then some candidate else none
          | _, _ => none

/-- `DesktopEntryIndex`: what `parse_entry` accepted, by identifier. -/
structure DesktopEntryIndex (tryExec : Text → Bool) (desktops : List Text) where
  entries : Text → Option DesktopEntry
  parsed : ∀ id entry, entries id = some entry →
    ∃ path input, parseEntry tryExec desktops id path input = some entry

variable {tryExec : Text → Bool} {desktops : List Text}

/-- The entry and the command that a launch uses. -/
def DesktopEntryIndex.command (index : DesktopEntryIndex tryExec desktops) (desktopId : Text)
    (actionId : Option Text) : Except IoError (DesktopEntry × Text) :=
  match index.entries desktopId with
  | none => .error ⟨.notFound, "Desktop Entry is not indexed"⟩
  | some entry =>
      match actionId with
      | none => .ok (entry, entry.exec)
      | some id =>
          match entry.actions.find? fun action => action.id = id with
          | none => .error ⟨.notFound, "Desktop Action is not indexed"⟩
          | some action => .ok (entry, action.exec)

def DesktopEntryIndex.launchArgv (index : DesktopEntryIndex tryExec desktops) (desktopId : Text)
    (actionId : Option Text) (resources : LaunchResources) : Except IoError (List Text) := do
  validateResources resources
  let (entry, exec) ← index.command desktopId actionId
  expandExec entry resources exec

end Indexing

end Launcher
end SleepySession
