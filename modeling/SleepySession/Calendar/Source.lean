import SleepySession.Calendar.Recurrence
import SleepySession.Calendar.TextEscapes
import SleepySession.Lib.Utf8

/-!
# Calendar sources

`parse_source` reads one file and expands its events inside a window, within a
limit of occurrences and a budget of bytes.  The formats of times and the
serialized lengths are parameters; the request is not cancelled.
-/

namespace SleepySession
namespace Calendar

structure CalendarSourceError where
  sourceId : Text
  message : Text
deriving DecidableEq

structure CalendarSnapshot where
  schemaVersion : Nat
  providerId : Text
  windowStart : Text
  windowEnd : Text
  events : List CalendarEvent
  sourceErrors : List CalendarSourceError
deriving DecidableEq

/-- What the libraries do for the provider. -/
structure CalendarSdk where
  /-- The zone files. -/
  zoneinfo : Text → Option (List UInt8)
  /-- `parse_from_str` of a format; a date stands for its midnight. -/
  parseFromStr : String → Text → Option DateTime
  /-- `parse_from_rfc3339`, in UTC. -/
  parseRfc3339 : Text → Option DateTime
  /-- `format_time`. -/
  formatTime : DateTime → Text
  wireSchemaVersion : Nat
  /-- The lengths of JSON texts. -/
  eventLength : CalendarEvent → Nat
  errorLength : CalendarSourceError → Nat
  snapshotLength : CalendarSnapshot → Nat

/-- A file as `open`, `metadata` and `read` show it. -/
structure SourceFile where
  /-- The file name, if it is Unicode. -/
  name : Option Text
  /-- Whether it is a regular file, and its length. -/
  opened : Except IoError (Bool × Nat)
  content : Except IoError (List UInt8)

def maxIcsBytes : Nat := 2 * 1024 * 1024

def maxUnfoldedLines : Nat := 65536

section Lines

/-- One round of `unfold`. -/
def unfoldLine (lines : List Text) (raw : Text) : Except IoError (List Text) :=
  let line := trimEndMatches (· = '\r') raw
  let added : Except IoError (List Text) :=
    if line.head? = some ' ' ∨ line.head? = some '\t' then
      match lines.getLast? with
      | none => .error (invalid "orphan folded line")
      | some previous => .ok (lines.dropLast ++ [previous ++ line.tail])
    else
      .ok (lines ++ [line])
  match added with
  | .error e => .error e
  | .ok lines =>
      if lines.length > maxUnfoldedLines then .error (invalid "too many ICS lines") else .ok lines

def unfoldText (input : Text) : Except IoError (List Text) :=
  (textLines input).foldlM unfoldLine []

end Lines

variable (sdk : CalendarSdk)

section Properties

def parseTime (value : Text) (parameters : List (Text × Text)) : Except IoError ParsedTime :=
  if parameters.any fun p => p.1 = "VALUE".toList && p.2 = "DATE".toList then
    match sdk.parseFromStr "%Y%m%d" value with
    | none => .error (invalid "invalid all-day date")
    | some midnight => .ok ⟨midnight, true, none⟩
  else if value.getLast? = some 'Z' then
    match sdk.parseFromStr "%Y%m%dT%H%M%SZ" value with
    | none => .error (invalid "invalid UTC date-time")
    | some instant => .ok ⟨instant, false, none⟩
  else
    match parameters.find? fun p => p.1 = "TZID".toList with
    | none => .error (invalid "floating ICS time is unsupported")
    | some (_, timezone) =>
        match sdk.parseFromStr "%Y%m%dT%H%M%S" value with
        | none => .error (invalid "invalid local date-time")
        | some civil =>
            (resolveLocalTime sdk.zoneinfo timezone civil).map fun instant =>
              ⟨instant, false, some (civil, timezone)⟩

def parseDateList (value : Text) (parameters : List (Text × Text)) :
    Except IoError (List DateTime) :=
  (splitParts ',' none value).mapM fun item =>
    (parseTime sdk item parameters).map (·.instant)

/-- A content line inside an event. -/
def addProperty (event : RawEvent) (line : Text) : Except IoError RawEvent :=
  match splitOnce ':' line with
  | none => .error (invalid "malformed ICS content line")
  | some (left, value) =>
      let fields := splitParts ';' none left
      let name := fields.headD []
      let parameters := fields.tail.filterMap (splitOnce '=')
      if name = "UID".toList then .ok { event with uid := some (unescape value) }
      else if name = "SUMMARY".toList then .ok { event with summary := some (unescape value) }
      else if name = "LOCATION".toList then .ok { event with location := some (unescape value) }
      else if name = "DTSTART".toList then
        (parseTime sdk value parameters).map fun start => { event with start := some start }
      else if name = "DTEND".toList then
        (parseTime sdk value parameters).map fun ends => { event with eventEnd := some ends }
      else if name = "RRULE".toList then
        (parseRule (fun value => (parseTime sdk value []).map (·.instant)) value).map fun rule =>
          { event with rule := some rule }
      else if name = "RDATE".toList then
        (parseDateList sdk value parameters).map fun dates =>
          { event with rdates := event.rdates ++ dates }
      else if name = "EXDATE".toList then
        (parseDateList sdk value parameters).map fun dates =>
          { event with exdates := event.exdates ++ dates }
      else .ok event

end Properties

/-- `RawEvent::default`. -/
def RawEvent.empty : RawEvent where
  uid := none
  summary := none
  location := none
  start := none
  eventEnd := none
  rule := none
  rdates := []
  exdates := []

/-- The variables of the loop over the lines. -/
structure LineState where
  raw : Option RawEvent
  parsed : List CalendarEvent
  parsedBytes : Nat

/-- A window with the limits that a source is given. -/
structure Bounds where
  windowStart : DateTime
  windowEnd : DateTime
  limit : Nat
  byteBudget : Nat

/-- The events of the source with one more of them expanded. -/
def endEvent (sourceId : Text) (bounds : Bounds) (s : LineState) (event : RawEvent) :
    Except Failure LineState :=
  match expand sdk.zoneinfo sdk.formatTime sdk.eventLength event sourceId bounds.windowStart
      bounds.windowEnd bounds.limit (bounds.byteBudget - s.parsedBytes) with
  | .error failure => .error failure
  | .ok (expanded, expandedBytes) =>
      if s.parsedBytes + expandedBytes ≤ bounds.byteBudget then
        if (s.parsed ++ expanded).length > bounds.limit then
          .error (.error expansionLimitError)
        else
          .ok ⟨none, s.parsed ++ expanded, s.parsedBytes + expandedBytes⟩
      else
        .error (.error budgetError)

def addLine (sourceId : Text) (bounds : Bounds) (s : LineState) (line : Text) :
    Except Failure LineState :=
  if line = "BEGIN:VEVENT".toList then
    match s.raw with
    | some _ => .error (.error (invalid "nested VEVENT"))
    | none => .ok { s with raw := some RawEvent.empty }
  else if line = "END:VEVENT".toList then
    match s.raw with
    | none => .error (.error (invalid "unmatched VEVENT end"))
    | some event => endEvent sdk sourceId bounds s event
  else
    match s.raw with
    | none => .ok s
    | some event =>
        match addProperty sdk event line with
        | .error e => .error (.error e)
        | .ok event => .ok { s with raw := some event }

/-- The checks of a file up to its lines. -/
def readLines (file : SourceFile) : Except IoError (List Text) :=
  match file.opened with
  | .error e => .error e
  | .ok (isFile, length) =>
      if isFile = false ∨ length > maxIcsBytes then
        .error (invalid "ICS source is not a bounded regular file")
      else
        match file.content with
        | .error e => .error e
        | .ok content =>
            let bytes := content.take (maxIcsBytes + 1)
            if bytes.length > maxIcsBytes then .error (invalid "ICS source exceeded limit")
            else
              match fromUtf8 bytes with
              | none => .error (invalid "ICS source is not UTF-8")
              | some text =>
                  match unfoldText text with
                  | .error e => .error e
                  | .ok lines =>
                      if lines.head? ≠ some "BEGIN:VCALENDAR".toList ∨
                          lines.getLast? ≠ some "END:VCALENDAR".toList then
                        .error (invalid "ICS source is not a VCALENDAR")
                      else
                        .ok lines

def parseSource (file : SourceFile) (sourceId : Text) (bounds : Bounds) :
    Except Failure (List CalendarEvent × Nat) :=
  match readLines file with
  | .error e => .error (.error e)
  | .ok lines =>
      match lines.foldlM (addLine sdk sourceId bounds) ⟨none, [], 0⟩ with
      | .error failure => .error failure
      | .ok s =>
          match s.raw with
          | some _ => .error (.error (invalid "unterminated VEVENT"))
          | none => .ok (s.parsed, s.parsedBytes)

end Calendar
end SleepySession
