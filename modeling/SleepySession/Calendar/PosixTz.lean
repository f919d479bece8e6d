import SleepySession.Desktop.CommandText

/-!
# The rule at the end of a time zone file

The footer of a time zone file is a POSIX `TZ` text: a standard offset and,
optionally, a daylight offset with the days and times at which it begins and
ends in every year.  Days are counted from 1970-01-01 in the proleptic
Gregorian calendar.
-/

namespace SleepySession
namespace Calendar

section Days

def leapYear (year : Int) : Bool :=
  year % 4 == 0 && (year % 100 != 0 || year % 400 == 0)

/-- The day number of the first of January. -/
def yearStart (year : Int) : Int :=
  365 * (year - 1970) + ((year - 1) / 4 - (year - 1) / 100 + (year - 1) / 400 - 477)

/-- The lengths of the months. -/
def monthLengths (year : Int) : List Int :=
  [31, if leapYear year then 29 else 28, 31, 30, 31, 30, 31, 31, 30, 31, 30, 31]

/-- Day number 0 is a Thursday; Sunday is 0. -/
def weekday (day : Int) : Int :=
  (day + 4) % 7

end Days

/-- The days on which a rule switches. -/
inductive RuleDay where
  /-- `Jn`: the days of a year without the 29th of February, from 1. -/
  | julian (n : Nat)
  /-- `n`: the days of a year, from 0. -/
  | dayOfYear (n : Nat)
  /-- `Mm.w.d`: a weekday of a week of a month; week 5 is the last one. -/
  | weekdayOf (month week weekday : Nat)
deriving DecidableEq, Repr

/-- The day number on which a rule switches in a year. -/
def RuleDay.inYear (year : Int) : RuleDay → Int
  | julian n =>
      yearStart year + (n - 1) + if leapYear year ∧ 60 ≤ n then 1 else 0
  | dayOfYear n => yearStart year + n
  | weekdayOf month week day =>
      let first := yearStart year + ((monthLengths year).take (month - 1)).sum
      let wanted := ((day : Int) - weekday first) % 7 + 7 * (week - 1)
      let length := (monthLengths year).getD (month - 1) 0
      if length ≤ wanted then first + wanted - 7 else first + wanted

/-- A day and the seconds after its midnight. -/
structure RuleSwitch where
  day : RuleDay
  time : Int
deriving DecidableEq, Repr

/-- A `TZ` rule; offsets are seconds east of Greenwich. -/
structure PosixTz where
  standard : Int
  /-- The daylight offset, when it begins and when it ends. -/
  daylight : Option (Int × RuleSwitch × RuleSwitch)
deriving DecidableEq, Repr

namespace PosixTz

/-- The instant of a switch that happens under the given offset. -/
def switchAt (switch : RuleSwitch) (offset : Int) (year : Int) : Int :=
  switch.day.inYear year * 86400 + switch.time - offset

/-- The latest of the instants that is not after `t`. -/
def latest (t : Int) (instants : List Int) : Option Int :=
  (instants.filter (fun instant => decide (instant ≤ t))).max?

/-- The years whose switches can be the latest ones before an instant. -/
def yearsAround (t : Int) : List Int :=
  let year := 1970 + t / 31556952
  [year - 2, year - 1, year, year + 1, year + 2]

/-- The offset that the rule gives for an instant. -/
def offsetAt (tz : PosixTz) (t : Int) : Int :=
  match tz.daylight with
  | none => tz.standard
  | some (offset, begins, ends) =>
      let begun := latest t ((yearsAround t).map (switchAt begins tz.standard))
      let ended := latest t ((yearsAround t).map (switchAt ends offset))
      match begun, ended with
      | some begun, some ended => if ended ≤ begun then offset else tz.standard
      | _, _ => tz.standard

end PosixTz

section Grammar

/-- What is left of a text after one character. -/
def expectChar (c : Char) : Text → Option Text
  | [] => none
  | d :: rest => if d = c then some rest else none

def parseNumber (text : Text) : Option (Nat × Text) :=
  let digits := text.takeWhile Char.isDigit
  if digits.isEmpty then none
  else
    some (digits.foldl (fun n c => n * 10 + (c.toNat - '0'.toNat)) 0, text.drop digits.length)

/-- A designation: three or more letters, or a text between angle brackets. -/
def parseDesignation (text : Text) : Option Text :=
  match text with
  | '<' :: rest =>
      let name := rest.takeWhile fun c => c.isAlphanum || c == '+' || c == '-'
      if name.length < 3 then none else expectChar '>' (rest.drop name.length)
  | _ =>
      let name := text.takeWhile Char.isAlpha
      if name.length < 3 then none else some (text.drop name.length)

/-- A colon and a number of at most 59, or zero if there is no colon. -/
def parseSexagesimal (text : Text) : Option (Nat × Text) :=
  match expectChar ':' text with
  | none => some (0, text)
  | some rest =>
      match parseNumber rest with
      | some (n, rest) => if n ≤ 59 then some (n, rest) else none
      | none => none

/-- `[+-]hh[:mm[:ss]]` in seconds, with a bound on the hours. -/
def parseHms (hours : Nat) (text : Text) : Option (Int × Text) := do
  let (sign, text) :=
    match text with
    | '-' :: rest => ((-1 : Int), rest)
    | '+' :: rest => (1, rest)
    | _ => (1, text)
  let (h, text) ← parseNumber text
  if hours < h then none
  let (m, text) ← parseSexagesimal text
  let (s, text) ← parseSexagesimal text
  return (sign * (h * 3600 + m * 60 + s), text)

def parseRuleDay (text : Text) : Option (RuleDay × Text) :=
  match text with
  | 'J' :: rest => do
      let (n, rest) ← parseNumber rest
      if 1 ≤ n ∧ n ≤ 365 then some (.julian n, rest) else none
  | 'M' :: rest => do
      let (m, rest) ← parseNumber rest
      let rest ← expectChar '.' rest
      let (w, rest) ← parseNumber rest
      let rest ← expectChar '.' rest
      let (d, rest) ← parseNumber rest
      if 1 ≤ m ∧ m ≤ 12 ∧ 1 ≤ w ∧ w ≤ 5 ∧ d ≤ 6 then some (.weekdayOf m w d, rest) else none
  | _ => do
      let (n, rest) ← parseNumber text
      if n ≤ 365 then some (.dayOfYear n, rest) else none

/-- `,date[/time]`; the time is two o'clock unless it is given. -/
def parseRuleSwitch (text : Text) : Option (RuleSwitch × Text) := do
  let text ← expectChar ',' text
  let (day, text) ← parseRuleDay text
  match expectChar '/' text with
  | none => some (⟨day, 7200⟩, text)
  | some rest => do
      let (time, rest) ← parseHms 167 rest
      some (⟨day, time⟩, rest)

/-- The rule that a `TZ` text stands for. -/
def parsePosixTz (text : Text) : Option PosixTz := do
  let text ← parseDesignation text
  let (west, text) ← parseHms 24 text
  if text.isEmpty then return { standard := -west, daylight := none }
  let text ← parseDesignation text
  let (west', text) ←
    if text.head? = some ',' then some (west - 3600, text) else parseHms 24 text
  let (begins, text) ← parseRuleSwitch text
  let (ends, text) ← parseRuleSwitch text
  if text.isEmpty then return { standard := -west, daylight := some (-west', begins, ends) }
  none

/-- Central European time: 02:00 on the last Sundays of March and 03:00 of October. -/
example : parsePosixTz "CET-1CEST,M3.5.0,M10.5.0/3".toList =
    some ⟨3600, some (7200, ⟨.weekdayOf 3 5 0, 7200⟩, ⟨.weekdayOf 10 5 0, 10800⟩)⟩ := by
  decide +kernel

end Grammar

end Calendar
end SleepySession
