import SleepySession.Calendar.Source

/-!
# The calendar snapshot

`snapshot_controlled` goes through the sources, gives each what is left of the
bytes of the snapshot, and counts what it adds: its events, or one error.
-/

namespace SleepySession
namespace Calendar

def maxCalendarSources : Nat := 1024

def maxTotalEvents : Nat := 8192

def maxSnapshotBytes : Nat := 2 * 1024 * 1024

def maxSourceErrorMessageBytes : Nat := 512

def sourceErrorBudget : Nat := 2048

section Messages

/-- `str::is_char_boundary`. -/
def isCharBoundary : Text → Nat → Bool
  | _, 0 => true
  | [], _ + 1 => false
  | c :: text, position + 1 =>
      if position + 1 < c.utf8Size then false
      else isCharBoundary text (position + 1 - c.utf8Size)

/-- The loop that goes back to a boundary. -/
def backToBoundary (message : Text) : Nat → Nat
  | 0 => 0
  | boundary + 1 =>
      if isCharBoundary message (boundary + 1) then boundary + 1
      else backToBoundary message boundary

/-- `&message[..boundary]` of a boundary. -/
def sliceTo : Text → Nat → Text
  | [], _ => []
  | c :: text, boundary =>
      if boundary < c.utf8Size then [] else c :: sliceTo text (boundary - c.utf8Size)

def boundedErrorMessage (message : Text) : Text :=
  if message.byteLength ≤ maxSourceErrorMessageBytes then message
  else sliceTo message (backToBoundary message maxSourceErrorMessageBytes)

end Messages

variable (sdk : CalendarSdk)

/-- What an error becomes that takes too many bytes. -/
def replacedError : CalendarSourceError where
  sourceId := "unknown".toList
  message := "calendar source failed within its bounded budget".toList

/-- `bounded_source_error` with the bytes of what it returns. -/
def boundedSourceError (sourceId : Text) (error : IoError) : CalendarSourceError × Nat :=
  let sourceError : CalendarSourceError := ⟨sourceId, boundedErrorMessage error.message.toList⟩
  let bytes := sdk.errorLength sourceError
  if bytes > sourceErrorBudget then (replacedError, sdk.errorLength replacedError)
  else (sourceError, bytes)

/-- The variables of the loop over the sources. -/
structure Progress where
  events : List CalendarEvent
  sourceErrors : List CalendarSourceError
  bytesUsed : Nat

/-- The aggregate limit of events. -/
def eventLimitError : IoError :=
  invalid "calendar aggregate event limit exceeded"

/-- What the loop asks of one source. -/
structure Request where
  windowStart : DateTime
  windowEnd : DateTime
  maxOccurrences : Nat

/-- The bounds that a source is given. -/
def Request.bounds (request : Request) (bytesUsed : Nat) : Bounds where
  windowStart := request.windowStart
  windowEnd := request.windowEnd
  limit := request.maxOccurrences
  byteBudget := maxSnapshotBytes - bytesUsed - sourceErrorBudget

def SourceFile.sourceId (source : SourceFile) : Text :=
  source.name.getD "unknown".toList

/-- One round of the loop over the sources. -/
def addSource (request : Request) (p : Progress) (source : SourceFile) :
    Except Failure Progress :=
  match parseSource sdk source source.sourceId (request.bounds p.bytesUsed) with
  | .ok (parsed, parsedBytes) =>
      if p.events.length + parsed.length > maxTotalEvents then .error (.error eventLimitError)
      else if p.bytesUsed + parsedBytes ≤ maxSnapshotBytes then
        .ok { p with events := p.events ++ parsed, bytesUsed := p.bytesUsed + parsedBytes }
      else .error (.error budgetError)
  | .error .panic => .error .panic
  | .error (.error error) =>
      if error.kind = .interrupted then .error (.error error)
      else
        let (sourceError, errorBytes) := boundedSourceError sdk source.sourceId error
        if p.bytesUsed + (errorBytes + 1) ≤ maxSnapshotBytes then
          .ok { p with
            sourceErrors := p.sourceErrors ++ [sourceError]
            bytesUsed := p.bytesUsed + (errorBytes + 1) }
        else .error (.error budgetError)

/-- Code points are in the order of the bytes of UTF-8. -/
def textLe : Text → Text → Bool
  | [], _ => true
  | _ :: _, [] => false
  | c :: text, d :: text' => decide (c.toNat < d.toNat) || (c = d && textLe text text')

/-- The order of the events. -/
def eventLe (left right : CalendarEvent) : Bool :=
  if left.startsAt = right.startsAt then textLe left.id right.id
  else textLe left.startsAt right.startsAt

/-- The snapshot of what the loop has collected. -/
def calendarSnapshot (windowStart windowEnd : Text) (events : List CalendarEvent)
    (sourceErrors : List CalendarSourceError) : CalendarSnapshot where
  schemaVersion := sdk.wireSchemaVersion
  providerId := "local-ics".toList
  windowStart := windowStart
  windowEnd := windowEnd
  events := events
  sourceErrors := sourceErrors

/-- The variables before the loop over the sources. -/
def Progress.start (windowStart windowEnd : Text) : Progress where
  events := []
  sourceErrors := []
  bytesUsed := sdk.snapshotLength (calendarSnapshot sdk windowStart windowEnd [] [])

/-- What is returned after the loop over the sources. -/
def finish (windowStart windowEnd : Text) (p : Progress) : Except Failure CalendarSnapshot :=
  let snapshot :=
    calendarSnapshot sdk windowStart windowEnd (p.events.mergeSort eventLe) p.sourceErrors
  if sdk.snapshotLength snapshot > maxSnapshotBytes then
    .error (.error (invalid "calendar serialized snapshot exceeded limit"))
  else .ok snapshot

structure IcsCalendarProvider where
  sources : List SourceFile
  maxOccurrences : Nat

namespace IcsCalendarProvider

def new (sources : List SourceFile) (maxOccurrences : Nat) : IcsCalendarProvider where
  sources := sources
  maxOccurrences := occurrenceLimit maxOccurrences

def snapshotControlled (self : IcsCalendarProvider) (windowStart windowEnd : Text) :
    Except Failure CalendarSnapshot :=
  if self.sources.length > maxCalendarSources then
    .error (.error (invalid "calendar source count exceeded limit"))
  else
    match sdk.parseRfc3339 windowStart, sdk.parseRfc3339 windowEnd with
    | some start, some ends =>
        if ends.val ≤ start.val then
          .error (.error ⟨.invalidInput, "calendar window is not ordered"⟩)
        else
          match self.sources.foldlM (addSource sdk ⟨start, ends, self.maxOccurrences⟩)
              (Progress.start sdk windowStart windowEnd) with
          | .error failure => .error failure
          | .ok p => finish sdk windowStart windowEnd p
    | _, _ => .error (.error (invalid "invalid UTC window"))

end IcsCalendarProvider

end Calendar
end SleepySession
