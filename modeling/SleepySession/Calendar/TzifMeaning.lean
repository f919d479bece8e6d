import SleepySession.Calendar.PosixTz
import SleepySession.Calendar.TzifBlocks

/-!
# What a time zone file prescribes

A time zone file of version 2 or later with the offset that it prescribes for
an instant, beside what the calendar keeps of it.  The calendar reads the
second data block and nothing behind it, and it takes the first standard time
type where the file means type 0.
-/

namespace SleepySession
namespace Calendar

/-- The contents of a time zone file with two data blocks and a footer. -/
structure TzifFile where
  version : UInt8
  /-- The reserved bytes of the two headers. -/
  reserved : List UInt8
  reserved' : List UInt8
  /-- The first data block, which readers of version 2 skip. -/
  legacyCounts : TzifCounts
  legacyBlock : List UInt8
  times : List Int
  indices : List Nat
  types : List TzifType
  chars : List UInt8
  /-- Leap second records, twelve bytes each. -/
  leaps : Nat
  leapRecords : List UInt8
  stdFlags : List UInt8
  utFlags : List UInt8
  /-- The `TZ` text between the newlines at the end. -/
  footer : Text

namespace TzifFile

/-- The counts of the second header. -/
def counts (f : TzifFile) : TzifCounts where
  times := f.times.length
  types := f.types.length
  chars := f.chars.length
  leaps := f.leaps
  std := f.stdFlags.length
  gmt := f.utFlags.length

end TzifFile

namespace TzifFile

/-- What a file of version 2 or later has to be like. -/
structure WellFormed (f : TzifFile) : Prop where
  version : f.version ∈ Tzif.versions
  reserved : f.reserved.length = 15 ∧ f.reserved'.length = 15
  legacy : f.legacyCounts.Fits ∧ f.legacyBlock.length = f.legacyCounts.total 4
  counts : f.counts.Fits
  types : f.types ≠ []
  offsets : ∀ entry ∈ f.types, SignedRange 32 entry.offset
  times_sorted : f.times.Pairwise (· < ·)
  times_range : ∀ time ∈ f.times, SignedRange 64 time
  indices_length : f.indices.length = f.times.length
  indices_lt : ∀ index ∈ f.indices, index < f.types.length ∧ index < 256
  leaps : f.leapRecords.length = f.leaps * 12
  footer : f.footer = [] ∨ (parsePosixTz f.footer).isSome

section Encoding

def encodeTime (time : Int) : List UInt8 :=
  beBytes 8 (ofSigned 64 time)

/-- The second data block. -/
def encodeBlock (f : TzifFile) : List UInt8 :=
  f.times.flatMap encodeTime ++ (f.indices.map UInt8.ofNat ++ (f.types.flatMap encodeType ++
    (f.chars ++ (f.leapRecords ++ (f.stdFlags ++ f.utFlags)))))

/-- The bytes of the file. -/
def encode (f : TzifFile) : List UInt8 :=
  encodeHeader f.version f.reserved f.legacyCounts ++ (f.legacyBlock ++
    (encodeHeader f.version f.reserved' f.counts ++ (f.encodeBlock ++
      (0x0A :: (f.footer.flatMap fun c => [UInt8.ofNat c.toNat]) ++ [0x0A]))))

end Encoding

section Meaning

/-- The offset of a time type. -/
def typeOffset (f : TzifFile) (index : Nat) : Int :=
  (f.types.map (·.offset)).getD index 0

/-- How many transitions lie at or before an instant. -/
def transitionsUntil (f : TzifFile) (t : Int) : Nat :=
  f.times.countP fun transition => decide (transition ≤ t)

/-- What the footer gives for an instant, if there is a rule. -/
def footerOffset (f : TzifFile) (t fallback : Int) : Int :=
  match parsePosixTz f.footer with
  | some tz => tz.offsetAt t
  | none => fallback

/-- The offset that the file prescribes for an instant. -/
def prescribed (f : TzifFile) (t : Int) : Int :=
  match f.transitionsUntil t with
  | 0 => if f.times = [] then f.footerOffset t (f.typeOffset 0) else f.typeOffset 0
  | n + 1 =>
      let offset := f.typeOffset (f.indices.getD n 0)
      if n + 1 = f.times.length then f.footerOffset t offset else offset

/-- The offset of the first standard time type, or of type 0 if there is none. -/
def firstStandardOffset (f : TzifFile) : Int :=
  f.typeOffset (((f.types.map (·.daylight)).findIdx? (fun value => !value)).getD 0)

/-- The offset of the last transition. -/
def lastOffset (f : TzifFile) : Int :=
  f.typeOffset (f.indices.getLastD 0)

/-- Where the reading of the calendar agrees with the file. -/
structure MeaningKept (f : TzifFile) (t : Int) : Prop where
  /-- Before the first transition the first standard time type stands for type 0. -/
  before : f.times ≠ [] → (∀ transition ∈ f.times, t < transition) →
    f.firstStandardOffset = f.typeOffset 0
  /-- From the last transition on the footer repeats the last type. -/
  after : f.times ≠ [] → (∀ transition ∈ f.times, transition ≤ t) →
    f.footerOffset t f.lastOffset = f.lastOffset
  /-- Without transitions the footer repeats the first standard time type. -/
  always : f.times = [] → f.footerOffset t (f.typeOffset 0) = f.firstStandardOffset

end Meaning

section Reading

/-- The second data block as the calendar reads it. -/
def block (f : TzifFile) : TzifBlock where
  times := f.times
  indices := f.indices
  types := f.types
  chars := f.chars
  leaps := f.leaps
  leapRecords := f.leapRecords
  stdFlags := f.stdFlags
  utFlags := f.utFlags

/-- What the calendar keeps of a file. -/
def kept (f : TzifFile) : Tzif where
  transitions := f.times
  indices := f.indices
  offsets := f.types.map (·.offset)
  defaultIndex := ((f.types.map (·.daylight)).findIdx? (fun value => !value)).getD 0

variable {f : TzifFile}

theorem WellFormed.block (hf : f.WellFormed) : f.block.WellFormed 8 :=
  ⟨hf.counts, hf.types, hf.offsets, hf.times_range, hf.indices_length, hf.indices_lt, hf.leaps⟩

/-- The calendar reads the second data block as it was written. -/
theorem parse_encode (hf : f.WellFormed) : Tzif.parse f.encode = .ok f.kept := by
  have hcounts : f.counts = f.block.counts := rfl
  have hblock : f.encodeBlock = f.block.encode 8 := rfl
  unfold encode
  rw [hcounts, hblock]
  exact TzifBlock.parse_secondFile hf.version hf.reserved.1 hf.reserved.2 hf.legacy.1
    hf.legacy.2 hf.block

end Reading

section Agreement

variable {f : TzifFile}

/-- The search for the latest transition counts the transitions until the instant. -/
theorem partitionPoint_transitions (hf : f.WellFormed) (t : Int) :
    partitionPoint (fun transition => decide (transition ≤ t)) f.times =
      f.transitionsUntil t := by
  refine partitionPoint_eq (partitioned_countP (hf.times_sorted.imp fun hlt => ?_))
  simp only [decide_eq_true_eq]
  exact fun hle => hlt.le.trans hle

theorem transitionsUntil_eq_zero {t : Int} :
    f.transitionsUntil t = 0 ↔ ∀ transition ∈ f.times, t < transition := by
  simp [transitionsUntil, List.countP_eq_zero]

theorem transitionsUntil_eq_length {t : Int} :
    f.transitionsUntil t = f.times.length ↔ ∀ transition ∈ f.times, transition ≤ t := by
  simp [transitionsUntil, List.countP_eq_length]

/-- The last transition is the one that the last index belongs to. -/
theorem lastOffset_eq (hf : f.WellFormed) {n : Nat} (hn : n + 1 = f.times.length) :
    f.lastOffset = f.typeOffset (f.indices.getD n 0) := by
  have hlength : n + 1 = f.indices.length := hn.trans hf.indices_length.symm
  have hlast : f.indices.getLastD 0 = f.indices.getD n 0 := by
    rw [List.getLastD_eq_getLast?, List.getLast?_eq_getElem?, ← hlength,
      List.getD_eq_getElem?_getD]
    rfl
  rw [lastOffset, hlast]

theorem offsetAt_kept (hf : f.WellFormed) (t : Int) :
    f.kept.offsetAt t =
      match f.transitionsUntil t with
      | 0 => f.firstStandardOffset
      | n + 1 => f.typeOffset (f.indices.getD n 0) := by
  unfold Tzif.offsetAt
  rw [show f.kept.transitions = f.times from rfl, partitionPoint_transitions hf]
  rfl

/--
The calendar reads every well-formed file, and its offset for an instant is the
prescribed one exactly where the first standard type and the last type stand
for type 0 and for the footer.
-/
theorem offsetAt_prescribed_iff (hf : f.WellFormed) (t : Int) :
    ∃ zone, Tzif.parse f.encode = .ok zone ∧
      (zone.offsetAt t = f.prescribed t ↔ f.MeaningKept t) := by
  refine ⟨f.kept, parse_encode hf, ?_⟩
  rw [offsetAt_kept hf, prescribed]
  cases hn : f.transitionsUntil t with
  | zero =>
      have hbefore := transitionsUntil_eq_zero.mp hn
      dsimp only
      by_cases hempty : f.times = []
      · rw [if_pos hempty]
        refine ⟨fun heq => ⟨fun h => absurd hempty h, fun h => absurd hempty h, fun _ => heq.symm⟩,
          fun h => (h.always hempty).symm⟩
      · rw [if_neg hempty]
        refine ⟨fun heq => ⟨fun _ _ => heq, fun _ hafter => ?_, fun h => absurd h hempty⟩,
          fun h => h.before hempty hbefore⟩
        -- no transition lies on both sides of the instant
        obtain ⟨transition, htransition⟩ := List.exists_mem_of_ne_nil _ hempty
        exact absurd (hafter transition htransition) (not_le.mpr (hbefore transition htransition))
  | succ n =>
      have hsome : ¬ ∀ transition ∈ f.times, t < transition := fun h => by
        rw [transitionsUntil_eq_zero.mpr h] at hn
        cases hn
      have hne : f.times ≠ [] := by
        rintro hempty
        simp [hempty] at hsome
      dsimp only
      by_cases hlast : n + 1 = f.times.length
      · have hafter := transitionsUntil_eq_length.mp (hn.trans hlast)
        rw [if_pos hlast, ← lastOffset_eq hf hlast]
        refine ⟨fun heq => ⟨fun _ h => absurd h hsome, fun _ _ => heq.symm, fun h => absurd h hne⟩,
          fun h => (h.after hne hafter).symm⟩
      · rw [if_neg hlast]
        refine ⟨fun _ => ⟨fun _ h => absurd h hsome, fun _ h => ?_, fun h => absurd h hne⟩,
          fun _ => rfl⟩
        rw [transitionsUntil_eq_length.mpr h] at hn
        exact absurd hn.symm hlast

end Agreement

section Sample

/-- Central European time with the two transitions of 2025; later ones are in the footer. -/
def centralEurope : TzifFile where
  version := 0x32
  reserved := List.replicate 15 0
  reserved' := List.replicate 15 0
  legacyCounts := { times := 0, types := 1, chars := 1, leaps := 0, std := 0, gmt := 0 }
  legacyBlock := List.replicate 7 0
  times := [1743296400, 1761440400]
  indices := [1, 0]
  types := [⟨3600, false, 0⟩, ⟨7200, true, 4⟩]
  chars := [67, 69, 84, 0, 67, 69, 83, 84, 0]
  leaps := 0
  leapRecords := []
  stdFlags := []
  utFlags := []
  footer := "CET-1CEST,M3.5.0,M10.5.0/3".toList

theorem centralEurope_wellFormed : centralEurope.WellFormed where
  version := by decide
  reserved := by decide
  legacy := by decide
  counts := by decide
  types := by decide
  offsets := by decide
  times_sorted := by decide
  times_range := by decide
  indices_length := by decide
  indices_lt := by decide
  leaps := by decide
  footer := Or.inr (by decide)

/-- Inside the table the calendar shows summer time as the file does. -/
theorem centralEurope_summer_2025 :
    ∃ zone, Tzif.parse centralEurope.encode = .ok zone ∧ zone.offsetAt 1750000000 = 7200 := by
  obtain ⟨zone, hzone, hiff⟩ := offsetAt_prescribed_iff centralEurope_wellFormed 1750000000
  refine ⟨zone, hzone, (hiff.mpr ⟨?_, ?_, ?_⟩).trans (by decide)⟩
  · intro _ hbefore
    exact absurd (hbefore 1743296400 (by decide)) (by decide)
  · intro _ hafter
    exact absurd (hafter 1761440400 (by decide)) (by decide)
  · intro hempty
    exact absurd hempty (by decide)

/-- In July 2026 the file prescribes summer time and the calendar shows winter time. -/
theorem centralEurope_summer_2026 :
    ¬ ∀ f : TzifFile, f.WellFormed → ∀ zone, Tzif.parse f.encode = .ok zone →
      ∀ t, zone.offsetAt t = f.prescribed t := by
  intro h
  have hcalendar : centralEurope.kept.offsetAt 1782864000 = 3600 := by
    decide
  have hfile : centralEurope.prescribed 1782864000 = 7200 := by
    decide
  have heq := h centralEurope centralEurope_wellFormed _ (parse_encode centralEurope_wellFormed)
    1782864000
  rw [hcalendar, hfile] at heq
  exact absurd heq (by decide)

end Sample

end TzifFile

end Calendar
end SleepySession
