import Mathlib.Tactic
import SleepySession.Store.Text

/-!
# The text functions of the desktop adapters

What the adapters use of `str` and of the number parsers of the standard
library, over lists of characters.  Levels are exact: a decimal text stands
for the rational number it denotes.
-/

namespace SleepySession

/-- Text as its characters. -/
abbrev Text :=
  List Char

instance lawfulBEqText : LawfulBEq Text :=
  inferInstance

/-- `str::len`, in bytes of UTF-8. -/
def Text.byteLength (text : Text) : Nat :=
  (text.map fun c => c.utf8Size).sum

def trimStartMatches (p : Char → Bool) (text : Text) : Text :=
  text.dropWhile p

def trimEndMatches (p : Char → Bool) (text : Text) : Text :=
  (text.reverse.dropWhile p).reverse

/-- `str::trim`. -/
def trimText (text : Text) : Text :=
  trimEndMatches isWhiteSpace (trimStartMatches isWhiteSpace text)

/-- The parts between the separators, as many as `limit` allows. -/
def splitParts (separator : Char) : Option Nat → Text → List Text
  | some 0, _ => []
  | some 1, text => [text]
  | _, [] => [[]]
  | limit, c :: text =>
      if c = separator then
        [] :: splitParts separator (limit.map (· - 1)) text
      else
        match splitParts separator limit text with
        | [] => [[c]]
        | part :: parts => (c :: part) :: parts

/-- `str::splitn`. -/
def splitN (n : Nat) (separator : Char) (text : Text) : List Text :=
  splitParts separator (some n) text

/-- One line without the carriage return before its end. -/
def stripCarriageReturn (line : Text) : Text :=
  if line.getLast? = some '\r' then line.dropLast else line

/-- `str::lines`. -/
def textLines (text : Text) : List Text :=
  let parts := splitParts '\n' none text
  let complete := parts.dropLast.map stripCarriageReturn
  match parts.getLast? with
  | none => complete
  | some [] => complete
  | some rest => complete ++ [rest]

/-- `str::split_once`. -/
def splitOnce (separator : Char) (text : Text) : Option (Text × Text) :=
  match text.span (· ≠ separator) with
  | (_, []) => none
  | (before, _ :: after) => some (before, after)

/-- What stands before the first occurrence of a pattern. -/
def beforeFirst (pattern : Text) : Text → Text
  | [] => []
  | c :: text =>
      if pattern.isPrefixOf (c :: text) then
        []
      else
        c :: beforeFirst pattern text

/-- `str::contains`. -/
def containsText (pattern : Text) : Text → Bool
  | [] => pattern.isEmpty
  | c :: text => pattern.isPrefixOf (c :: text) || containsText pattern text

/-- `str::split_whitespace`. -/
def splitWhitespace (text : Text) : List Text :=
  (text.splitOnP isWhiteSpace).filter fun word => ! word.isEmpty

def stripPrefix (pattern text : Text) : Option Text :=
  if pattern.isPrefixOf text then some (text.drop pattern.length) else none

def isAsciiDigit (c : Char) : Bool :=
  0x30 ≤ c.toNat && c.toNat ≤ 0x39

def digitValue (c : Char) : Nat :=
  c.toNat - 0x30

/-- The number that a text of digits denotes. -/
def digitsValue (digits : Text) : Nat :=
  digits.foldl (fun n c => 10 * n + digitValue c) 0

/-- `str::parse` for an unsigned type with the given number of values. -/
def parseUnsigned (bound : Nat) (text : Text) : Option Nat :=
  let digits := if text.head? = some '+' then text.tail else text
  if digits ≠ [] ∧ digits.all isAsciiDigit = true ∧ digitsValue digits < bound then
    some (digitsValue digits)
  else
    none

/-- The decimal digits of a number. -/
def decimalText (n : Nat) : Text :=
  Nat.toDigits 10 n

/-- A number of type `f64`, exact where it is finite. -/
inductive Level where
  | finite (value : ℚ)
  | infinite (negative : Bool)
  | nan
deriving DecidableEq

/-- A sign and what follows it. -/
def parseSign : Text → Bool × Text
  | '-' :: text => (true, text)
  | '+' :: text => (false, text)
  | text => (false, text)

/-- The exponent of a decimal number; `none` if it is malformed. -/
def parseExponent : Text → Option Int
  | [] => some 0
  | c :: text =>
      if c = 'e' ∨ c = 'E' then
        let (negative, digits) := parseSign text
        if digits ≠ [] ∧ digits.all isAsciiDigit = true then
          some (if negative then -(digitsValue digits : Int) else digitsValue digits)
        else
          none
      else
        none

/-- An unsigned decimal number. -/
def parseDecimal (text : Text) : Option ℚ :=
  let (whole, rest) := text.span isAsciiDigit
  let (fraction, rest) :=
    match rest with
    | '.' :: rest => rest.span isAsciiDigit
    | rest => ([], rest)
  if whole = [] ∧ fraction = [] then
    none
  else
    (parseExponent rest).map fun exponent =>
      (digitsValue (whole ++ fraction) : ℚ) * (10 : ℚ) ^ (exponent - (fraction.length : Int))

/-- `str::parse::<f64>`. -/
def parseLevel (text : Text) : Option Level :=
  let (negative, rest) := parseSign text
  let lower := rest.map Char.toLower
  if lower = "inf".toList ∨ lower = "infinity".toList then
    some (.infinite negative)
  else if lower = "nan".toList then
    some .nan
  else
    (parseDecimal rest).map fun value => .finite (if negative then -value else value)

/-- `value.is_finite() && (0.0..=1.0).contains(&value)`. -/
def Level.Normalized : Level → Prop
  | .finite value => 0 ≤ value ∧ value ≤ 1
  | _ => False

instance : DecidablePred Level.Normalized
  | .finite value => inferInstanceAs (Decidable (0 ≤ value ∧ value ≤ 1))
  | .infinite _ => isFalse not_false
  | .nan => isFalse not_false

/-- The comparison tolerance of levels. -/
def levelTolerance : ℚ :=
  5 / 1000

/-- `close`: the difference is within the tolerance; infinities are never close. -/
def Level.Close : Level → Level → Prop
  | .finite left, .finite right => |left - right| ≤ levelTolerance
  | _, _ => False

instance : DecidableRel Level.Close
  | .finite left, .finite right => inferInstanceAs (Decidable (|left - right| ≤ levelTolerance))
  | .finite _, .infinite _ => isFalse not_false
  | .finite _, .nan => isFalse not_false
  | .infinite _, _ => isFalse not_false
  | .nan, _ => isFalse not_false

/-- A rational number in units of 10⁻⁶, rounded half to even. -/
def roundMicros (value : ℚ) : Nat :=
  let scaled : ℚ := |value| * 10 ^ 6
  let floor : Nat := scaled.floor.toNat
  let rest := scaled - (floor : ℚ)
  if rest < 1 / 2 ∨ (rest = 1 / 2 ∧ floor % 2 = 0) then floor else floor + 1

/-- `format!("{value:.6}")`. -/
def Level.format : Level → Text
  | .finite value =>
      let micros := roundMicros value
      let fraction := decimalText (micros % 10 ^ 6)
      (if value < 0 then ['-'] else []) ++ decimalText (micros / 10 ^ 6) ++ ['.'] ++
        List.replicate (6 - fraction.length) '0' ++ fraction
  | .infinite negative => if negative then "-inf".toList else "inf".toList
  | .nan => "NaN".toList

end SleepySession
