import SleepySession.Desktop.CommandText
import SleepySession.Lib.BigEndian
import SleepySession.Lib.PartitionPoint
import SleepySession.Store.IoError

/-!
# Time zone files

What the calendar reads of a time zone file, and how it turns a local time into
an instant.  Times are whole seconds since 1970.  `NaiveDateTime` and
`DateTime<Utc>` have one range; both are the seconds of that range.  The zone
files are a parameter.
-/

namespace SleepySession
namespace Calendar

/-- The first second of `NaiveDateTime` and of `DateTime<Utc>`. -/
def minSeconds : Int :=
  -8334601228800

/-- The last second of `NaiveDateTime` and of `DateTime<Utc>`. -/
def maxSeconds : Int :=
  8210266876799

/-- A representable time: an instant of `DateTime<Utc>`, or a civil `NaiveDateTime`. -/
abbrev DateTime :=
  { s : Int // minSeconds ≤ s ∧ s ≤ maxSeconds }

instance lawfulBEqDateTime : LawfulBEq DateTime :=
  inferInstance

/-- `DateTime::from_timestamp` of whole seconds. -/
def fromTimestamp (s : Int) : Option DateTime :=
  if h : minSeconds ≤ s ∧ s ≤ maxSeconds then some ⟨s, h⟩ else none

/-- `invalid`. -/
def invalid (message : String) : IoError :=
  ⟨.invalidData, message⟩

/-- How a computation ends without a result: with an error, or in a panic. -/
inductive Failure where
  | panic
  | error (e : IoError)
deriving DecidableEq

section Reading

/-- The bytes of an integer, if the data has them. -/
def integerBytes (data : List UInt8) (offset width : Nat) : Except IoError (List UInt8) :=
  if offset + width ≤ data.length then .ok ((data.drop offset).take width)
  else .error (invalid "truncated timezone integer")

def readU32 (data : List UInt8) (offset : Nat) : Except IoError Nat :=
  (integerBytes data offset 4).map beNat

def readI32 (data : List UInt8) (offset : Nat) : Except IoError Int :=
  (integerBytes data offset 4).map fun bytes => toSigned 32 (beNat bytes)

def readI64 (data : List UInt8) (offset : Nat) : Except IoError Int :=
  (integerBytes data offset 8).map fun bytes => toSigned 64 (beNat bytes)

end Reading

/-- The counts of a header. -/
structure TzifCounts where
  times : Nat
  types : Nat
  chars : Nat
  leaps : Nat
  std : Nat
  gmt : Nat
deriving DecidableEq, Repr

def counts (header : List UInt8) : Except IoError TzifCounts :=
  if header.length < 44 then .error (invalid "truncated timezone header")
  else do
    let gmt ← readU32 header 20
    let std ← readU32 header 24
    let leaps ← readU32 header 28
    let times ← readU32 header 32
    let types ← readU32 header 36
    let chars ← readU32 header 40
    return { times, types, chars, leaps, std, gmt }

/-- The result of a checked `usize` operation. -/
def checkedUsize (n : Nat) : Option Nat :=
  if n < 2 ^ 64 then some n else none

/-- The size of a data block whose times take `width` bytes, operation by operation. -/
def checkedSize (count : TzifCounts) (width : Nat) : Option Nat := do
  let value ← checkedUsize (count.times * width)
  let value ← checkedUsize (value + count.times)
  let types ← checkedUsize (count.types * 6)
  let value ← checkedUsize (value + types)
  let value ← checkedUsize (value + count.chars)
  let leaps ← checkedUsize (count.leaps * (width + 4))
  let value ← checkedUsize (value + leaps)
  let value ← checkedUsize (value + count.std)
  checkedUsize (value + count.gmt)

/-- `block_size`. -/
def blockSize (count : TzifCounts) (width : Nat) : Except IoError Nat :=
  match checkedSize count width with
  | some size => .ok size
  | none => .error (invalid "timezone data overflow")

/-- `Tzif`. -/
structure Tzif where
  transitions : List Int
  indices : List Nat
  offsets : List Int
  defaultIndex : Nat
deriving DecidableEq, Repr

namespace Tzif

/-- `b"TZif"`. -/
def magic : List UInt8 :=
  [0x54, 0x5A, 0x69, 0x66]

def startsWithMagic (data : List UInt8) : Bool :=
  data.take 4 == magic

/-- The versions with a second header. -/
def versions : List UInt8 :=
  [0x32, 0x33, 0x34]

/-- The offset of the header that counts and the width of its times. -/
def header (data : List UInt8) : Except IoError (Nat × Nat) :=
  if data.length < 44 ∨ startsWithMagic data = false then
    .error (invalid "invalid timezone data")
  else do
    let first ← counts (data.take 44)
    let firstSize ← blockSize first 4
    if versions.contains (data.getD 4 0) then
      match checkedUsize (44 + firstSize) with
      | none => .error (invalid "timezone data overflow")
      | some offset =>
          if data.length < offset + 44 ∨ startsWithMagic (data.drop offset) = false then
            .error (invalid "invalid timezone v2 data")
          else .ok (offset, 8)
    else .ok (0, 4)

def readTime (data : List UInt8) (width cursor : Nat) : Except IoError Int :=
  if width = 8 then readI64 data cursor else readI32 data cursor

/-- The loop over the transition times. -/
def readTransitions (data : List UInt8) (width : Nat) : Nat → Nat → Except IoError (List Int)
  | 0, _ => .ok []
  | n + 1, cursor => do
      let value ← readTime data width cursor
      let rest ← readTransitions data width n (cursor + width)
      return value :: rest

/-- The loop over the local time types: the offset and whether it is daylight time. -/
def readTypes (data : List UInt8) : Nat → Nat → Except IoError (List (Int × Bool))
  | 0, _ => .ok []
  | n + 1, cursor => do
      let offset ← readI32 data cursor
      let rest ← readTypes data n (cursor + 6)
      return (offset, data[cursor + 4]? != some 0) :: rest

/-- The data block that starts at `start`. -/
def parseBlock
    (data : List UInt8) (start width : Nat) (count : TzifCounts) : Except IoError Tzif := do
  let need ← blockSize count width
  if data.length < start + need ∨ count.types = 0 then
    .error (invalid "truncated timezone data")
  else do
    let transitions ← readTransitions data width count.times start
    let cursor := start + count.times * width
    let indices := ((data.drop cursor).take count.times).map UInt8.toNat
    let types ← readTypes data count.types (cursor + count.times)
    let offsets := types.map Prod.fst
    let daylight := types.map Prod.snd
    if indices.any (fun index => decide (offsets.length ≤ index)) then
      .error (invalid "invalid timezone transition type")
    else
      return {
        transitions
        indices
        offsets
        defaultIndex := (daylight.findIdx? (fun value => !value)).getD 0 }

/-- `Tzif::parse`. -/
def parse (data : List UInt8) : Except IoError Tzif := do
  let (header, width) ← Tzif.header data
  let count ← counts ((data.drop header).take 44)
  parseBlock data (header + 44) width count

/-- `Tzif::offset_at`. -/
def offsetAt (zone : Tzif) (epoch : Int) : Int :=
  match partitionPoint (fun transition => decide (transition ≤ epoch)) zone.transitions with
  | 0 => zone.offsets.getD zone.defaultIndex 0
  | position + 1 => zone.offsets.getD (zone.indices.getD position 0) 0

/-- What a successful parse promises about the tables. -/
structure WellFormed (zone : Tzif) : Prop where
  default_lt : zone.defaultIndex < zone.offsets.length
  indices_length : zone.indices.length = zone.transitions.length
  indices_lt : ∀ index ∈ zone.indices, index < zone.offsets.length
  offsets_range : ∀ offset ∈ zone.offsets, SignedRange 32 offset

end Tzif

section Resolving

/-- The elements of a `BTreeSet`, in order. -/
def sortedSet (l : List Int) : List Int :=
  l.dedup.mergeSort (fun a b => decide (a ≤ b))

/-- `Vec::dedup_by_key`: of neighbours with the same key the first one stays. -/
def dedupByKey {α β : Type} [DecidableEq β] (key : α → β) : List α → List α
  | [] => []
  | a :: rest => a :: loop a rest
where
  loop (last : α) : List α → List α
    | [] => []
    | b :: rest => if key b = key last then loop last rest else b :: loop b rest

/-- `i64::checked_sub`. -/
def checkedSub (a b : Int) : Option Int :=
  if -2 ^ 63 ≤ a - b ∧ a - b < 2 ^ 63 then some (a - b) else none

/-- The instants whose local time is the given one. -/
def localMatches (zone : Tzif) (naiveEpoch : Int) : List Int :=
  let candidates := (sortedSet zone.offsets).filterMap fun offset =>
    (checkedSub naiveEpoch offset).bind fun candidate =>
      if zone.offsetAt candidate = offset then some candidate else none
  dedupByKey id (candidates.mergeSort (fun a b => decide (a ≤ b)))

/-- The zone names that are looked up. -/
def validZoneName (name : Text) : Bool :=
  !(name.isEmpty || name.head? == some '/' ||
    (splitParts '/' none name).any fun part =>
      part.isEmpty || part == ['.'] || part == ['.', '.'])

/-- `resolve_local_time` with the zone files as a parameter. -/
def resolveLocalTime
    (zoneinfo : Text → Option (List UInt8)) (name : Text) (local' : DateTime) :
    Except IoError DateTime :=
  if validZoneName name = false then .error (invalid "invalid ICS timezone name")
  else
    match zoneinfo name with
    | none => .error (invalid "unknown ICS timezone")
    | some data => do
        let zone ← Tzif.parse data
        match localMatches zone local'.val with
        | [t] =>
            match fromTimestamp t with
            | some at' => .ok at'
            | none => .error (invalid "timezone conversion overflow")
        | _ => .error (invalid "ambiguous or nonexistent local time")

end Resolving

end Calendar
end SleepySession
