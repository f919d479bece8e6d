import SleepySession.Calendar.LocalTimes

/-!
# Recurring calendar events

`expand` turns an event into its occurrences inside a window: the start, the
steps of the rule in local civil time where the start has a zone, and the listed
dates, without the excluded ones.  The zone files, the text of a time and the
serialized length of an event are parameters; the request is not cancelled.
-/

namespace SleepySession
namespace Calendar

/-- A parsed time, with the civil time and the zone where it was given in one. -/
structure ParsedTime where
  instant : DateTime
  allDay : Bool
  civil : Option (DateTime × Text)
deriving DecidableEq

inductive Frequency where
  | daily
  | weekly
deriving DecidableEq, Repr

structure Recurrence where
  frequency : Frequency
  count : Option Nat
  until' : Option DateTime
deriving DecidableEq

structure RawEvent where
  uid : Option Text
  summary : Option Text
  location : Option Text
  start : Option ParsedTime
  eventEnd : Option ParsedTime
  rule : Option Recurrence
  rdates : List DateTime
  exdates : List DateTime

structure CalendarEvent where
  id : Text
  summary : Text
  startsAt : Text
  endsAt : Text
  allDay : Bool
  sourceId : Text
  location : Option Text
deriving DecidableEq

section Rules

/-- One component of `parse_rule`; `parse_time` is a parameter. -/
def parseRulePart (parseTime : Text → Except IoError DateTime)
    (rule : Option Frequency × Option Nat × Option DateTime) (part : Text) :
    Except IoError (Option Frequency × Option Nat × Option DateTime) :=
  match splitOnce '=' part with
  | none => .error (invalid "malformed RRULE")
  | some (key, value) =>
      if key = "FREQ".toList then
        if value = "DAILY".toList then .ok (some .daily, rule.2)
        else if value = "WEEKLY".toList then .ok (some .weekly, rule.2)
        else .error (invalid "unsupported RRULE frequency")
      else if key = "COUNT".toList then
        match parseUnsigned (2 ^ 64) value with
        | none => .error (invalid "invalid RRULE count")
        | some parsed =>
            if parsed = 0 then .error (invalid "invalid RRULE count")
            else .ok (rule.1, some parsed, rule.2.2)
      else if key = "UNTIL".toList then
        (parseTime value).map fun until' => (rule.1, rule.2.1, some until')
      else if key = "INTERVAL".toList ∧ value = ['1'] then .ok rule
      else .error (invalid "unsupported RRULE component")

def parseRule (parseTime : Text → Except IoError DateTime) (value : Text) :
    Except IoError Recurrence :=
  match (splitParts ';' none value).foldlM (parseRulePart parseTime) (none, none, none) with
  | .error e => .error e
  | .ok (frequency, count, until') =>
      match frequency with
      | none => .error (invalid "RRULE missing frequency")
      | some frequency => .ok ⟨frequency, count, until'⟩

variable {parseTime : Text → Except IoError DateTime}
  {rule rule' : Option Frequency × Option Nat × Option DateTime}

theorem parseRulePart_count {part : Text} (h : parseRulePart parseTime rule part = .ok rule')
    (hcount : rule.2.1 ≠ some 0) : rule'.2.1 ≠ some 0 := by
  unfold parseRulePart at h
  split at h
  · cases h
  · split at h
    · split at h
      · cases h
        exact hcount
      · split at h
        · cases h
          exact hcount
        · cases h
    · split at h
      · split at h
        · cases h
        · split at h
          · cases h
          · rename_i hpos
            cases h
            simpa using hpos
      · split at h
        · rename_i value _ _ _ _
          cases htime : parseTime value with
          | error e =>
              rw [htime] at h
              cases h
          | ok until' =>
              rw [htime] at h
              cases h
              exact hcount
        · split at h
          · cases h
            exact hcount
          · cases h

end Rules

/-- The start of an occurrence, with its civil time where it has one. -/
abbrev Start := DateTime × Option (DateTime × Text)

section Expanding

variable (zoneinfo : Text → Option (List UInt8))

def Frequency.seconds : Frequency → Int
  | .daily => 86400
  | .weekly => 604800

/-- One step of a rule, in civil time where the start has a zone. -/
def advance (step : Int) : Start → Except IoError Start
  | (_, some (civil, timezone)) =>
      match fromTimestamp (civil.val + step) with
      | none => .error (invalid "RRULE overflow")
      | some civil =>
          (resolveLocalTime zoneinfo timezone civil).map fun current =>
            (current, some (civil, timezone))
  | (current, none) =>
      match fromTimestamp (current.val + step) with
      | none => .error (invalid "RRULE overflow")
      | some current => .ok (current, none)

def ruleLimitError : IoError :=
  invalid "RRULE expansion exceeded limit"

def expansionLimitError : IoError :=
  invalid "calendar expansion exceeded limit"

/-- `budget_error`. -/
def budgetError : IoError :=
  ⟨.fileTooLarge, "calendar aggregate byte budget exceeded"⟩

/-- The loop over the steps of a rule; the first argument counts its rounds down. -/
def ruleLoop (step : Int) (until' : Option DateTime) (windowEnd : DateTime) (limit : Nat) :
    Nat → List Start → Start → Except IoError (List Start)
  | 0, starts, _ => .ok starts
  | rounds + 1, starts, current =>
      match advance zoneinfo step current with
      | .error e => .error e
      | .ok current =>
          if until'.any fun u => decide (u.val < current.1.val) then .ok starts
          else if windowEnd.val ≤ current.1.val then .ok starts
          else if limit ≤ starts.length then .error ruleLimitError
          else ruleLoop step until' windowEnd limit rounds (starts ++ [current]) current

/-- `usize::MAX`. -/
def usizeMax : Nat :=
  2 ^ 64 - 1

/-- The start and the steps of the rule. -/
def ruleStarts (rule : Option Recurrence) (first : Start) (windowEnd : DateTime) (limit : Nat) :
    Except IoError (List Start) :=
  match rule with
  | none => .ok [first]
  | some rule =>
      ruleLoop zoneinfo rule.frequency.seconds rule.until' windowEnd limit
        (rule.count.getD usizeMax - 1) [first] first

/-- `sort_by_key` and `dedup_by_key` on the starts. -/
def orderStarts (starts : List Start) : List Start :=
  dedupByKey Prod.fst (starts.mergeSort fun a b => decide (a.1.val ≤ b.1.val))

/-- The starts of all occurrences, in order. -/
def allStarts (rule : Option Recurrence) (rdates : List DateTime) (first : Start)
    (windowEnd : DateTime) (limit : Nat) : Except IoError (List Start) :=
  match ruleStarts zoneinfo rule first windowEnd limit with
  | .error e => .error e
  | .ok starts =>
      let starts := orderStarts (starts ++ rdates.map fun instant => (instant, none))
      if limit < starts.length then .error expansionLimitError else .ok starts

/-- What an event needs besides its rule and its lists of dates. -/
structure Interval where
  uid : Text
  summary : Text
  start : ParsedTime
  duration : Int
  /-- The civil length, where start and end are in one zone. -/
  civilDuration : Option Int
deriving DecidableEq

/-- The end of an event that gives none. -/
def defaultEnd (start : ParsedTime) : Except Failure ParsedTime :=
  if start.allDay then
    match fromTimestamp (start.instant.val + 86400) with
    | none => .error .panic
    | some instant => .ok ⟨instant, start.allDay, none⟩
  else .ok ⟨start.instant, start.allDay, none⟩

def civilLength (start endsAt : ParsedTime) : Option Int :=
  match start.civil, endsAt.civil with
  | some (startCivil, startZone), some (endCivil, endZone) =>
      if startZone = endZone then some (endCivil.val - startCivil.val) else none
  | _, _ => none

def nonEmpty (text : Option Text) : Option Text :=
  text.filter fun value => !value.isEmpty

/-- The checks at the head of `expand`. -/
def interval (raw : RawEvent) : Except Failure Interval :=
  match nonEmpty raw.uid with
  | none => .error (.error (invalid "VEVENT missing UID"))
  | some uid =>
      match nonEmpty raw.summary with
      | none => .error (.error (invalid "VEVENT missing SUMMARY"))
      | some summary =>
          match raw.start with
          | none => .error (.error (invalid "VEVENT missing DTSTART"))
          | some start =>
              match raw.eventEnd.elim (defaultEnd start) .ok with
              | .error failure => .error failure
              | .ok endsAt =>
                  if endsAt.instant.val ≤ start.instant.val then
                    .error (.error (invalid "VEVENT interval is not ordered"))
                  else
                    .ok {
                      uid := uid
                      summary := summary
                      start := start
                      duration := endsAt.instant.val - start.instant.val
                      civilDuration := civilLength start endsAt }

/-- The end of an occurrence. -/
def occurrenceEnd (duration : Int) (civilDuration : Option Int) : Start → Except Failure DateTime
  | (instant, civil) =>
      match civil, civilDuration with
      | some (civil, timezone), some length =>
          match fromTimestamp (civil.val + length) with
          | none => .error .panic
          | some civil =>
              match resolveLocalTime zoneinfo timezone civil with
              | .error e => .error (.error e)
              | .ok instant => .ok instant
      | _, _ =>
          match fromTimestamp (instant.val + duration) with
          | none => .error .panic
          | some instant => .ok instant

/-- The decimal digits of a timestamp. -/
def timestampText (instant : DateTime) : Text :=
  if instant.val < 0 then '-' :: decimalText instant.val.natAbs else decimalText instant.val.natAbs

variable (formatTime : DateTime → Text) (jsonLength : CalendarEvent → Nat)

def calendarEvent (raw : RawEvent) (sourceId : Text) (i : Interval) (instant endsAt : DateTime) :
    CalendarEvent where
  id := i.uid ++ ['@'] ++ timestampText instant
  summary := i.summary
  startsAt := formatTime instant
  endsAt := formatTime endsAt
  allDay := i.start.allDay
  sourceId := sourceId
  location := raw.location

/-- The loop that emits the occurrences inside the window. -/
def emit (raw : RawEvent) (sourceId : Text) (i : Interval) (windowStart windowEnd : DateTime)
    (byteBudget : Nat) :
    List Start → List CalendarEvent → Nat → Except Failure (List CalendarEvent × Nat)
  | [], events, bytes => .ok (events, bytes)
  | start :: rest, events, bytes =>
      if start.1 ∈ raw.exdates then
        emit raw sourceId i windowStart windowEnd byteBudget rest events bytes
      else
        match occurrenceEnd zoneinfo i.duration i.civilDuration start with
        | .error failure => .error failure
        | .ok endsAt =>
            if windowStart.val < endsAt.val ∧ start.1.val < windowEnd.val then
              let event := calendarEvent formatTime raw sourceId i start.1 endsAt
              let used := bytes + (jsonLength event + 1)
              if used ≤ byteBudget then
                emit raw sourceId i windowStart windowEnd byteBudget rest (events ++ [event]) used
              else .error (.error budgetError)
            else emit raw sourceId i windowStart windowEnd byteBudget rest events bytes

/-- `expand`. -/
def expand (raw : RawEvent) (sourceId : Text) (windowStart windowEnd : DateTime)
    (limit byteBudget : Nat) : Except Failure (List CalendarEvent × Nat) :=
  match interval raw with
  | .error failure => .error failure
  | .ok i =>
      match allStarts zoneinfo raw.rule raw.rdates (i.start.instant, i.start.civil) windowEnd
          limit with
      | .error e => .error (.error e)
      | .ok starts =>
          emit zoneinfo formatTime jsonLength raw sourceId i windowStart windowEnd byteBudget
            starts [] 0

end Expanding

/-- The limit of occurrences that a provider works with. -/
def occurrenceLimit (maxOccurrences : Nat) : Nat :=
  max 1 (min maxOccurrences 4096)

end Calendar
end SleepySession
