import SleepySession.Store.IoError
import SleepySession.Store.SecureDir

/-!
# The durable log of desktop requests

`DurableDedupe` remembers every request before it is executed and its result
afterwards, in one bounded document.  A change is staged on a copy, written to
the file and only then taken over in memory; after a failed replacement the
file is read back, because the new document may already be in place.
-/

namespace SleepySession

open Program

variable {β ρ α : Type}

structure DedupeRecord (ρ : Type) where
  requestId : String
  result : Option ρ
deriving DecidableEq, Repr

structure DedupeDocument (ρ : Type) where
  schemaVersion : UInt32
  records : List (DedupeRecord ρ)
deriving DecidableEq, Repr

/-- Where a test makes a replacement fail. -/
inductive DedupeFaultPoint where
  | fileSync
  | rename
  | directorySync
deriving DecidableEq, Repr

/-- How a fault point is shown with `{:?}`. -/
def DedupeFaultPoint.text : DedupeFaultPoint → String
  | fileSync => "FileSync"
  | rename => "Rename"
  | directorySync => "DirectorySync"

/-- What the libraries do for the log: contents `β`, results `ρ`. -/
structure DedupeSdk (β ρ : Type) where
  /-- The content of a file that was just created. -/
  empty : β
  /-- `serde_json` of the whole document. -/
  encode : DedupeDocument ρ → β
  decode : β → Except String (DedupeDocument ρ)
  /-- The length of a content in bytes. -/
  size : β → Nat
  /-- The hyphenated form of a UUID that `Uuid::parse_str` accepts. -/
  parseUuid : String → Option String
  requestId : ρ → String
  /-- `validate_desktop_result` of the encoded result. -/
  validateResult : ρ → Except String Unit

/-- The only file of the log. -/
abbrev DedupeFiles (β : Type) := Volume Unit (Entry Unit) β

instance : DisplayPath Unit Unit :=
  ⟨fun _ _ => "desktop dedupe document"⟩

structure DurableDedupe (β ρ : Type) where
  /-- What the directory of the log holds. -/
  directory : DedupeFiles β
  maximumRecords : Nat
  document : DedupeDocument ρ
  fault : Option DedupeFaultPoint

/-- Programs over a log and its directory. -/
abbrev DedupeProgram (β ρ α : Type) :=
  Program (Answer Unit β) (DurableDedupe β ρ) IoError α

def maxDedupeBytes : Nat := 4 * 1024 * 1024

/-- `io::Error::other`. -/
def IoError.ofText (text : String) : IoError :=
  ⟨.other, text⟩

def orElse (error : String → IoError) : Except String α → Except IoError α
  | .ok a => .ok a
  | .error e => .error (error e)

section Checks

variable (sdk : DedupeSdk β ρ)

def DedupeSdk.validateCanonicalRequestId (requestId : String) : Except IoError Unit :=
  match sdk.parseUuid requestId with
  | none => .error ⟨.invalidData, "desktop dedupe requestId is not a UUID"⟩
  | some parsed =>
      if parsed ≠ requestId then
        .error ⟨.invalidData, "desktop dedupe requestId is not canonical"⟩
      else
        .ok ()

/-- The check of one record when the log is opened. -/
def DedupeSdk.checkRecord (record : DedupeRecord ρ) : Except IoError Unit := do
  sdk.validateCanonicalRequestId record.requestId
  match record.result with
  | none => pure ()
  | some result => do
      orElse (⟨.invalidData, ·⟩) (sdk.validateResult result)
      if sdk.requestId result ≠ record.requestId then
        .error ⟨.invalidData, "desktop dedupe key/result requestId mismatch"⟩
      else
        .ok ()

def requestIds (document : DedupeDocument ρ) : List String :=
  document.records.map (·.requestId)

/-- The checks that `open` makes on the bytes of the file. -/
def DedupeSdk.checkBytes (maximumRecords : Nat) (bytes : β) :
    Except IoError (DedupeDocument ρ) := do
  if sdk.size bytes > maxDedupeBytes then
    .error ⟨.invalidData, "desktop dedupe document exceeds its bounded size"⟩
  else do
    let document ← orElse (⟨.invalidData, ·⟩) (sdk.decode bytes)
    if document.schemaVersion ≠ 1 ∨ document.records.length > maximumRecords then
      .error ⟨.invalidData, "desktop dedupe document violates its schema or capacity"⟩
    else if ¬ (requestIds document).Nodup then
      .error ⟨.invalidData, "desktop dedupe document contains duplicate request IDs"⟩
    else do
      document.records.forM sdk.checkRecord
      pure document

end Checks

namespace DurableDedupe

variable (sdk : DedupeSdk β ρ)

/-- A directory operation whose failure is passed on as text. -/
def other (m : Disk Unit Unit β α) : Program (Answer Unit β) (DedupeFiles β) IoError α :=
  m.mapError fun e => .ofText e.display

/-- `open`; opening the directory itself is left out. -/
def «open» (maximumRecords : Nat) :
    Program (Answer Unit β) (DedupeFiles β) IoError (DurableDedupe β ρ) := do
  other SecureDir.syscall
  (SecureDir.validateFileIfPresent () (.named ()) : Disk Unit Unit β Unit).mapError
    fun e => ⟨.permissionDenied, e.display⟩
  let bytes ← other (SecureDir.readOptional () (.named ()))
  let document ← match bytes with
    | some bytes => orThrow (sdk.checkBytes maximumRecords bytes)
    | none => pure ⟨1, []⟩
  let directory ← get
  pure ⟨directory, maximumRecords, document, none⟩

def lookup (document : DedupeDocument ρ) (requestId : String) : Option (Option ρ) :=
  (document.records.find? (·.requestId = requestId)).map (·.result)

/-- The loop of `make_room`; a round removes one record, so there are at most `fuel`. -/
def makeRoomLoop (maximumRecords : Nat) :
    Nat → List (DedupeRecord ρ) → Except IoError (List (DedupeRecord ρ))
  | fuel, records =>
      if records.length ≥ maximumRecords then
        match fuel, records.findIdx? (·.result.isSome) with
        | fuel + 1, some index => makeRoomLoop maximumRecords fuel (records.eraseIdx index)
        | _, _ => .error
            ⟨.wouldBlock, "desktop dedupe capacity is occupied by pending requests"⟩
      else
        .ok records

/-- Remove completed records, oldest first, until there is room for one more. -/
def makeRoom (maximumRecords : Nat) (records : List (DedupeRecord ρ)) :
    Except IoError (List (DedupeRecord ρ)) :=
  makeRoomLoop maximumRecords records.length records

/-- The operations on the log. -/
inductive Call (ρ : Type) where
  | begin (requestId : String)
  | complete (requestId : String) (result : ρ)

/-- The document that `begin` stages. -/
def stageBegin (maximumRecords : Nat) (document : DedupeDocument ρ) (requestId : String) :
    Except IoError (DedupeDocument ρ) := do
  sdk.validateCanonicalRequestId requestId
  if (lookup document requestId).isSome then
    .error ⟨.alreadyExists, "desktop request is already recorded"⟩
  else do
    let records ← makeRoom maximumRecords document.records
    pure { document with records := records ++ [⟨requestId, none⟩] }

/-- The document that `complete` stages. -/
def stageComplete (maximumRecords : Nat) (document : DedupeDocument ρ)
    (requestId : String) (result : ρ) : Except IoError (DedupeDocument ρ) := do
  sdk.validateCanonicalRequestId requestId
  orElse (⟨.invalidData, ·⟩) (sdk.validateResult result)
  if sdk.requestId result ≠ requestId then
    .error ⟨.invalidInput, "desktop dedupe key/result requestId mismatch"⟩
  else
    match document.records.findIdx? (·.requestId = requestId) with
    | some index =>
        .ok
          { document with
            records := document.records.modify index
              fun record => { record with result := some result } }
    | none => do
        let records ← makeRoom maximumRecords document.records
        pure { document with records := records ++ [⟨requestId, some result⟩] }

def injectDedupeFault (configured : Option DedupeFaultPoint) (current : DedupeFaultPoint) :
    Disk Unit Unit β Unit :=
  if configured = some current then
    throw (.io s!"injected desktop dedupe {current.text} fault")
  else
    pure ()

def onDirectory (m : Program (Answer Unit β) (DedupeFiles β) IoError α) :
    DedupeProgram β ρ α :=
  m.zoom directory fun files self => { self with directory := files }

/-- The replacement of the file, and what is found in it after a failure. -/
def replace (bytes : β) (fault : Option DedupeFaultPoint) :
    Disk Unit Unit β Unit :=
  SecureDir.atomicReplace () () sdk.empty bytes
    (injectDedupeFault fault .fileSync)
    (injectDedupeFault fault .rename)
    (injectDedupeFault fault .directorySync)

variable [DecidableEq ρ]

/-- Whether the bytes that were read back are the staged document. -/
def isStaged (staged : DedupeDocument ρ) (found : Except Failure (Option β)) : Bool :=
  match found with
  | .ok (some bytes) =>
      match sdk.decode bytes with
      | .ok document => document = staged
      | .error _ => false
  | _ => false

def commit (staged : DedupeDocument ρ) : DedupeProgram β ρ Unit := do
  let bytes := sdk.encode staged
  if sdk.size bytes > maxDedupeBytes then
    throw ⟨.invalidData, "desktop dedupe document exceeds its bounded size"⟩
  else do
    let self ← get
    modify fun self => { self with fault := none }
    let result ← onDirectory (replace sdk bytes self.fault).attempt
    match result with
    | .ok _ => modify fun self => { self with document := staged }
    | .error error => do
        let found ← onDirectory
          (SecureDir.readOptional () (.named ()) : Disk Unit Unit β (Option β)).attempt
        if isStaged sdk staged found then do
          onDirectory (other (SecureDir.sync ()))
          modify fun self => { self with document := staged }
        else
          throw (.ofText error.display)

/-- The document that an operation stages. -/
def stage (maximumRecords : Nat) (document : DedupeDocument ρ) :
    Call ρ → Except IoError (DedupeDocument ρ)
  | .begin requestId => stageBegin sdk maximumRecords document requestId
  | .complete requestId result =>
      stageComplete sdk maximumRecords document requestId result

def begin (requestId : String) : DedupeProgram β ρ Unit := do
  let self ← get
  let staged ← orThrow (stageBegin sdk self.maximumRecords self.document requestId)
  commit sdk staged

def complete (requestId : String) (result : ρ) : DedupeProgram β ρ Unit := do
  let self ← get
  let staged ← orThrow
    (stageComplete sdk self.maximumRecords self.document requestId result)
  commit sdk staged

def Call.program : Call ρ → DedupeProgram β ρ Unit
  | .begin requestId => DurableDedupe.begin sdk requestId
  | .complete requestId result => DurableDedupe.complete sdk requestId result

end DurableDedupe

end SleepySession
