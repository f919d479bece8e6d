import Mathlib.Tactic

/-!
# Text checks

The few checks on text that the store and the journal make themselves.
-/

namespace SleepySession

/-- The code points with the Unicode property `White_Space`, as `str::trim` uses them. -/
def isWhiteSpace (c : Char) : Bool :=
  (9 ≤ c.toNat && c.toNat ≤ 13) || c.toNat == 0x20 || c.toNat == 0x85 ||
    c.toNat == 0xA0 || c.toNat == 0x1680 ||
    (0x2000 ≤ c.toNat && c.toNat ≤ 0x200A) || c.toNat == 0x2028 ||
    c.toNat == 0x2029 || c.toNat == 0x202F || c.toNat == 0x205F ||
    c.toNat == 0x3000

/-- `text.trim().is_empty()`. -/
def blank (text : String) : Bool :=
  text.toList.all isWhiteSpace

def isLowerHex (c : Char) : Bool :=
  (0x30 ≤ c.toNat && c.toNat ≤ 0x39) || (0x61 ≤ c.toNat && c.toNat ≤ 0x66)

/-- Groups of lower-case hexadecimal digits of the given lengths, joined by `-`. -/
def hyphenatedGroups : List Nat → List Char → Bool
  | [], rest => rest.isEmpty
  | [n], rest => rest.length == n && rest.all isLowerHex
  | n :: more, rest =>
      (rest.take n).length == n && (rest.take n).all isLowerHex &&
        (rest.drop n).head? == some '-' &&
        hyphenatedGroups more (rest.drop (n + 1))

/-- The texts that `Uuid::parse_str` accepts and that are their own hyphenated form. -/
def canonicalUuid (text : String) : Bool :=
  hyphenatedGroups [8, 4, 4, 4, 12] text.toList

/-- The nil UUID. -/
def nilUuid : String :=
  "00000000-0000-0000-0000-000000000000"

theorem canonicalUuid_nilUuid : canonicalUuid nilUuid = true := by
  decide

/-- One character of a text shown with `{:?}`; control characters only up to DEL. -/
def escapeDebug (c : Char) : String :=
  if c.toNat = 0x22 then "\\\""
  else if c.toNat = 0x5C then "\\\\"
  else if c.toNat = 0x00 then "\\0"
  else if c.toNat = 0x09 then "\\t"
  else if c.toNat = 0x0A then "\\n"
  else if c.toNat = 0x0D then "\\r"
  else if c.toNat < 0x20 ∨ c.toNat = 0x7F then
    "\\u\x7b" ++ String.ofList (Nat.toDigits 16 c.toNat) ++ "\x7d"
  else String.ofList [c]

/-- A text shown with `{:?}`. -/
def debugText (text : String) : String :=
  "\"" ++ String.join (text.toList.map escapeDebug) ++ "\""

end SleepySession
