import Mathlib.Data.List.GetD
import SleepySession.Calendar.Tzif
import SleepySession.Lib.Checks

/-!
# Local times

A local time is resolved by trying the offsets of the zone.  Every instant that
shows the local time is found that way, because the offset in force at an
instant is one of the zone's offsets.
-/

namespace SleepySession
namespace Calendar

section Lists

theorem mem_sortedSet {a : Int} {l : List Int} : a ∈ sortedSet l ↔ a ∈ l := by
  simp [sortedSet]

theorem nodup_sortedSet (l : List Int) : (sortedSet l).Nodup :=
  (List.mergeSort_perm _ _).nodup_iff.mpr (List.nodup_dedup l)

variable {α β : Type} [DecidableEq β] {key : α → β}

/-- Nothing is dropped where the keys differ anyway. -/
theorem dedupByKey_of_nodup {l : List α} (h : (l.map key).Nodup) : dedupByKey key l = l := by
  have hloop : ∀ (last : α) (l : List α), ((last :: l).map key).Nodup →
      dedupByKey.loop key last l = l := by
    intro last l
    induction l generalizing last with
    | nil => intro _; rfl
    | cons b rest ih =>
        intro hnodup
        obtain ⟨hlast, hrest⟩ := List.nodup_cons.mp hnodup
        have hne : key b ≠ key last := by
          intro heq
          exact hlast (by simp [heq])
        simp [dedupByKey.loop, hne, ih b hrest]
  cases l with
  | nil => rfl
  | cons a rest => simp [dedupByKey, hloop a rest h]

end Lists

section Parsing

theorem readTransitions_length
    {data : List UInt8} {width n cursor : Nat} {times : List Int}
    (h : Tzif.readTransitions data width n cursor = .ok times) : times.length = n := by
  induction n generalizing cursor times with
  | zero =>
      cases h
      rfl
  | succ n ih =>
      rw [Tzif.readTransitions, Checks.bind_eq_ok_iff] at h
      obtain ⟨value, -, h⟩ := h
      rw [Checks.bind_eq_ok_iff] at h
      obtain ⟨rest, hrest, h⟩ := h
      cases h
      simp [ih hrest]

theorem readI32_range {data : List UInt8} {offset : Nat} {value : Int}
    (h : readI32 data offset = .ok value) : SignedRange 32 value := by
  unfold readI32 integerBytes at h
  split at h
  · rename_i hle
    cases h
    refine signedRange_toSigned (by norm_num) ?_
    refine (beNat_lt _).trans_le ?_
    have hlength : ((data.drop offset).take 4).length ≤ 4 := List.length_take_le ..
    calc 256 ^ ((data.drop offset).take 4).length ≤ 256 ^ 4 :=
          Nat.pow_le_pow_right (by norm_num) hlength
      _ = 2 ^ 32 := by norm_num
  · cases h

theorem readTypes_spec
    {data : List UInt8} {n cursor : Nat} {types : List (Int × Bool)}
    (h : Tzif.readTypes data n cursor = .ok types) :
    types.length = n ∧ ∀ entry ∈ types, SignedRange 32 entry.1 := by
  induction n generalizing cursor types with
  | zero =>
      cases h
      simp
  | succ n ih =>
      rw [Tzif.readTypes, Checks.bind_eq_ok_iff] at h
      obtain ⟨offset, hoffset, h⟩ := h
      rw [Checks.bind_eq_ok_iff] at h
      obtain ⟨rest, hrest, h⟩ := h
      cases h
      obtain ⟨hlength, hrange⟩ := ih hrest
      refine ⟨by simp [hlength], fun entry hentry => ?_⟩
      rcases List.mem_cons.mp hentry with rfl | hentry
      · exact readI32_range hoffset
      · exact hrange entry hentry

theorem checkedUsize_eq_some {n m : Nat} : checkedUsize n = some m ↔ n < 2 ^ 64 ∧ n = m := by
  simp [checkedUsize]

/-- The bytes of a data block. -/
def TzifCounts.total (count : TzifCounts) (width : Nat) : Nat :=
  count.times * width + count.times + count.types * 6 + count.chars +
    count.leaps * (width + 4) + count.std + count.gmt

theorem checkedSize_eq_some {count : TzifCounts} {width need : Nat} :
    checkedSize count width = some need ↔
      count.total width < 2 ^ 64 ∧ count.total width = need := by
  unfold checkedSize TzifCounts.total
  generalize count.times * width = times
  generalize count.leaps * (width + 4) = leaps
  simp only [Option.bind_eq_bind, Option.bind_eq_some_iff, checkedUsize_eq_some]
  constructor
  · rintro ⟨_, ⟨_, rfl⟩, _, ⟨_, rfl⟩, _, ⟨_, rfl⟩, _, ⟨_, rfl⟩, _, ⟨_, rfl⟩, _, ⟨_, rfl⟩,
      _, ⟨_, rfl⟩, _, ⟨_, rfl⟩, hlt, rfl⟩
    exact ⟨hlt, rfl⟩
  · rintro ⟨hlt, rfl⟩
    -- every intermediate value is at most the last one
    exact ⟨_, ⟨by omega, rfl⟩, _, ⟨by omega, rfl⟩, _, ⟨by omega, rfl⟩, _, ⟨by omega, rfl⟩,
      _, ⟨by omega, rfl⟩, _, ⟨by omega, rfl⟩, _, ⟨by omega, rfl⟩, _, ⟨by omega, rfl⟩, hlt, rfl⟩

theorem blockSize_eq_ok {count : TzifCounts} {width need : Nat} :
    blockSize count width = .ok need ↔
      count.total width < 2 ^ 64 ∧ count.total width = need := by
  rw [← checkedSize_eq_some, blockSize]
  cases checkedSize count width <;> simp

/-- The first standard time type, or type 0, is one of the types. -/
theorem findIdx?_getD_lt {p : Bool → Bool} {l : List Bool} (h : 0 < l.length) :
    (l.findIdx? p).getD 0 < l.length := by
  cases hfind : l.findIdx? p with
  | none => simpa using h
  | some i =>
      obtain ⟨hi, -⟩ := List.findIdx?_eq_some_iff_getElem.mp hfind
      simpa using hi

/-- A zone that was parsed has consistent tables. -/
theorem Tzif.wellFormed_of_parse {data : List UInt8} {zone : Tzif}
    (h : Tzif.parse data = .ok zone) : zone.WellFormed := by
  rw [Tzif.parse, Checks.bind_eq_ok_iff] at h
  obtain ⟨⟨header, width⟩, -, h⟩ := h
  rw [Checks.bind_eq_ok_iff] at h
  obtain ⟨count, -, h⟩ := h
  rw [Tzif.parseBlock, Checks.bind_eq_ok_iff] at h
  obtain ⟨need, hneed, h⟩ := h
  split at h
  · cases h
  rename_i henough
  push Not at henough
  obtain ⟨hlong, htypes⟩ := henough
  rw [Checks.bind_eq_ok_iff] at h
  obtain ⟨transitions, htransitions, h⟩ := h
  rw [Checks.bind_eq_ok_iff] at h
  obtain ⟨types, htypesOk, h⟩ := h
  dsimp only at h
  split at h
  · cases h
  rename_i hindices
  cases h
  obtain ⟨htypesLength, hrange⟩ := readTypes_spec htypesOk
  have hblock : count.times * width + count.times ≤ need := by
    obtain ⟨-, rfl⟩ := blockSize_eq_ok.mp hneed
    unfold TzifCounts.total
    omega
  refine ⟨?_, ?_, ?_, ?_⟩
  · have hpos : 0 < (types.map Prod.snd).length := by
      rw [List.length_map, htypesLength]
      exact Nat.pos_of_ne_zero htypes
    simpa using @findIdx?_getD_lt (fun value => !value) _ hpos
  · have hroom : count.times ≤ (data.drop (header + 44 + count.times * width)).length := by
      rw [List.length_drop]
      omega
    rw [List.length_map, List.length_take, readTransitions_length htransitions]
    exact min_eq_left hroom
  · intro index hindex
    by_contra hcontra
    refine hindices (List.any_eq_true.mpr ⟨index, hindex, ?_⟩)
    simpa using Nat.le_of_not_lt hcontra
  · intro offset hoffset
    obtain ⟨entry, hentry, rfl⟩ := List.mem_map.mp hoffset
    exact hrange entry hentry

end Parsing

section Resolving

variable {zone : Tzif}

/-- The offset in force at an instant is one of the zone's offsets. -/
theorem Tzif.offsetAt_mem (hzone : zone.WellFormed) (t : Int) :
    zone.offsetAt t ∈ zone.offsets := by
  have hle := @partitionPoint_le _ (fun transition => decide (transition ≤ t)) zone.transitions
  unfold Tzif.offsetAt
  split
  · rw [List.getD_eq_getElem _ _ hzone.default_lt]
    exact List.getElem_mem _
  · rename_i position hposition
    have hlt : position < zone.indices.length := by
      rw [hzone.indices_length]
      omega
    have hindex := hzone.indices_lt _ (List.getElem_mem hlt)
    rw [List.getD_eq_getElem _ _ hlt, List.getD_eq_getElem _ _ hindex]
    exact List.getElem_mem _

/-- The instant `t` shows the local time `local'`. -/
def Tzif.Shows (zone : Tzif) (t local' : Int) : Prop :=
  t + zone.offsetAt t = local'

theorem checkedSub_eq {a b : Int}
    (ha : minSeconds ≤ a ∧ a ≤ maxSeconds) (hb : SignedRange 32 b) :
    checkedSub a b = some (a - b) := by
  obtain ⟨hlow, hhigh⟩ := ha
  obtain ⟨hblow, hbhigh⟩ := hb
  unfold minSeconds at hlow
  unfold maxSeconds at hhigh
  norm_num at hblow hbhigh
  exact if_pos ⟨by norm_num; omega, by norm_num; omega⟩

/-- What one offset contributes to the candidates. -/
def candidateOf (zone : Tzif) (naiveEpoch offset : Int) : Option Int :=
  (checkedSub naiveEpoch offset).bind fun candidate =>
    if zone.offsetAt candidate = offset then some candidate else none

theorem candidateOf_eq_some
    {offset : Int} (hoffset : SignedRange 32 offset) (local' : DateTime) {t : Int} :
    candidateOf zone local'.val offset = some t ↔
      offset = local'.val - t ∧ zone.Shows t local'.val := by
  rw [candidateOf, checkedSub_eq local'.property hoffset, Option.bind_some]
  unfold Tzif.Shows
  constructor
  · intro h
    split at h
    · rename_i heq
      obtain rfl := Option.some.inj h
      rw [heq]
      omega
    · cases h
  · rintro ⟨rfl, hshows⟩
    have hcandidate : local'.val - (local'.val - t) = t := by omega
    rw [hcandidate, if_pos (by omega)]

theorem candidateOf_injective {zone : Tzif} {naiveEpoch o o' t : Int}
    (h : candidateOf zone naiveEpoch o = some t) (h' : candidateOf zone naiveEpoch o' = some t) :
    o = o' := by
  have hoffset : ∀ {o}, candidateOf zone naiveEpoch o = some t → o = naiveEpoch - t := by
    intro o ho
    obtain ⟨candidate, hsub, hcandidate⟩ := Option.bind_eq_some_iff.mp ho
    unfold checkedSub at hsub
    grind
  rw [hoffset h, hoffset h']

/-- The candidates in order, each of them once. -/
theorem localMatches_eq (zone : Tzif) (naiveEpoch : Int) :
    localMatches zone naiveEpoch =
        ((sortedSet zone.offsets).filterMap (candidateOf zone naiveEpoch)).mergeSort
          (fun a b => decide (a ≤ b)) ∧
      (localMatches zone naiveEpoch).Nodup := by
  have hnodup : (((sortedSet zone.offsets).filterMap (candidateOf zone naiveEpoch)).mergeSort
      (fun a b => decide (a ≤ b))).Nodup := by
    refine (List.mergeSort_perm _ _).nodup_iff.mpr ?_
    exact (nodup_sortedSet _).filterMap fun o o' t h h' => candidateOf_injective h h'
  have heq : localMatches zone naiveEpoch =
      ((sortedSet zone.offsets).filterMap (candidateOf zone naiveEpoch)).mergeSort
        (fun a b => decide (a ≤ b)) :=
    dedupByKey_of_nodup (by rw [List.map_id]; exact hnodup)
  exact ⟨heq, heq ▸ hnodup⟩

/-- The matches are exactly the instants that show the local time. -/
theorem mem_localMatches (hzone : zone.WellFormed) (local' : DateTime) (t : Int) :
    t ∈ localMatches zone local'.val ↔ zone.Shows t local'.val := by
  rw [(localMatches_eq zone local'.val).1, (List.mergeSort_perm _ _).mem_iff,
    List.mem_filterMap]
  constructor
  · rintro ⟨offset, hoffset, hsome⟩
    have hrange := hzone.offsets_range offset (mem_sortedSet.mp hoffset)
    exact ((candidateOf_eq_some hrange local').mp hsome).2
  · intro hshows
    have hmem := Tzif.offsetAt_mem hzone t
    have hoffset : zone.offsetAt t = local'.val - t := by
      unfold Tzif.Shows at hshows
      omega
    refine ⟨zone.offsetAt t, mem_sortedSet.mpr hmem, ?_⟩
    exact (candidateOf_eq_some (hzone.offsets_range _ hmem) local').mpr ⟨hoffset, hshows⟩

/-- One match is one instant that shows the local time, and no other. -/
theorem localMatches_eq_singleton (hzone : zone.WellFormed) (local' : DateTime) (t : Int) :
    localMatches zone local'.val = [t] ↔
      zone.Shows t local'.val ∧ ∀ u, zone.Shows u local'.val → u = t := by
  have hmem := mem_localMatches hzone local'
  have hnodup := (localMatches_eq zone local'.val).2
  constructor
  · intro h
    refine ⟨(hmem t).mp (by simp [h]), fun u hu => ?_⟩
    simpa [h] using (hmem u).mpr hu
  · rintro ⟨hshows, hunique⟩
    refine List.perm_singleton.mp ((List.perm_ext_iff_of_nodup hnodup (by simp)).mpr fun u => ?_)
    rw [hmem u, List.mem_singleton]
    exact ⟨hunique u, fun hu => hu ▸ hshows⟩

theorem fromTimestamp_eq_some {s : Int} {t : DateTime} :
    fromTimestamp s = some t ↔ s = t.val := by
  unfold fromTimestamp
  constructor
  · intro h
    split at h
    · obtain rfl := Option.some.inj h
      rfl
    · cases h
  · rintro rfl
    rw [dif_pos t.property]

/-- In a zone that can be read the matches alone decide. -/
theorem resolveLocalTime_of_parse
    {zoneinfo : Text → Option (List UInt8)} {name : Text} {data : List UInt8}
    (hname : validZoneName name = true) (hdata : zoneinfo name = some data)
    (hzone : Tzif.parse data = .ok zone) (local' : DateTime) :
    resolveLocalTime zoneinfo name local' =
      match localMatches zone local'.val with
      | [t] =>
          match fromTimestamp t with
          | some at' => .ok at'
          | none => .error (invalid "timezone conversion overflow")
      | _ => .error (invalid "ambiguous or nonexistent local time") := by
  unfold resolveLocalTime
  rw [if_neg (by simp [hname]), hdata]
  dsimp only
  rw [hzone]
  rfl

/--
A local time of a parsed zone resolves to `t` exactly when `t` is the only
instant that shows it.  Without an instant, or with several, it is reported as
ambiguous or nonexistent; a single instant outside the range of `DateTime` is
reported as an overflow.
-/
theorem resolveLocalTime_exact
    {zoneinfo : Text → Option (List UInt8)} {name : Text} {data : List UInt8}
    (hname : validZoneName name = true) (hdata : zoneinfo name = some data)
    (hzone : Tzif.parse data = .ok zone) (local' : DateTime) :
    (∀ t : DateTime, resolveLocalTime zoneinfo name local' = .ok t ↔
      zone.Shows t.val local'.val ∧ ∀ u, zone.Shows u local'.val → u = t.val) ∧
    ((¬ ∃ t, zone.Shows t local'.val ∧ ∀ u, zone.Shows u local'.val → u = t) →
      resolveLocalTime zoneinfo name local' =
        .error (invalid "ambiguous or nonexistent local time")) ∧
    (∀ t, zone.Shows t local'.val → (∀ u, zone.Shows u local'.val → u = t) →
      fromTimestamp t = none →
      resolveLocalTime zoneinfo name local' =
        .error (invalid "timezone conversion overflow")) := by
  have hsingle := localMatches_eq_singleton (Tzif.wellFormed_of_parse hzone) local'
  rw [resolveLocalTime_of_parse hname hdata hzone]
  refine ⟨fun t => ?_, fun hnone => ?_, fun t hshows hunique hrange => ?_⟩
  · rw [← hsingle]
    constructor
    · intro h
      split at h
      · rename_i u hmatches
        split at h
        · rename_i at' hat
          cases h
          rw [hmatches, fromTimestamp_eq_some.mp hat]
        · cases h
      · cases h
    · intro hmatches
      rw [hmatches]
      dsimp only
      rw [fromTimestamp_eq_some.mpr rfl]
  · split
    · rename_i u hmatches
      exact absurd ⟨u, (hsingle u).mp hmatches⟩ hnone
    · rfl
  · rw [(hsingle t).mpr ⟨hshows, hunique⟩]
    dsimp only
    rw [hrange]

end Resolving

section Sample

/-- The file of a zone that is always one hour behind. -/
def westernFile : List UInt8 :=
  Tzif.magic ++ List.replicate 16 0 ++
    [0, 0, 0, 0, 0, 0, 0, 0, 0, 0, 0, 0, 0, 0, 0, 0, 0, 0, 0, 1, 0, 0, 0, 0] ++
    [255, 255, 241, 240, 0, 0]

def westernZone : Tzif where
  transitions := []
  indices := []
  offsets := [-3600]
  defaultIndex := 0

theorem parse_westernFile : Tzif.parse westernFile = .ok westernZone := by
  decide +kernel

theorem westernZone_shows {t local' : Int} : westernZone.Shows t local' ↔ t = local' + 3600 := by
  have hoffset : westernZone.offsetAt t = -3600 := rfl
  unfold Tzif.Shows
  rw [hoffset]
  omega

def westernLookup : Text → Option (List UInt8) :=
  fun _ => some westernFile

/-- The file of a zone that falls back an hour at two o'clock, and springs forward again a day
later. -/
def seasonFile : List UInt8 :=
  Tzif.magic ++ List.replicate 16 0 ++
    [0, 0, 0, 0, 0, 0, 0, 0, 0, 0, 0, 0, 0, 0, 0, 2, 0, 0, 0, 2, 0, 0, 0, 0] ++
    [0, 0, 0x1C, 0x20, 0, 1, 0x89, 0xC0] ++ [1, 0] ++
    [0, 0, 0x0E, 0x10, 0, 0] ++ [0, 0, 0, 0, 0, 0]

def seasonZone : Tzif where
  transitions := [7200, 100800]
  indices := [1, 0]
  offsets := [3600, 0]
  defaultIndex := 0

theorem parse_seasonFile : Tzif.parse seasonFile = .ok seasonZone := by
  decide +kernel

theorem seasonZone_offset (t : Int) :
    seasonZone.offsetAt t = if t < 7200 then 3600 else if t < 100800 then 0 else 3600 := by
  have hcount : partitionPoint (fun transition => decide (transition ≤ t)) seasonZone.transitions =
      seasonZone.transitions.countP fun transition => decide (transition ≤ t) := by
    refine partitionPoint_eq (partitioned_countP ?_)
    simp only [seasonZone, List.pairwise_cons, List.mem_cons, decide_eq_true_eq]
    grind
  unfold Tzif.offsetAt
  rw [hcount]
  by_cases h₁ : 7200 ≤ t <;> by_cases h₂ : 100800 ≤ t <;> simp [seasonZone, h₁, h₂] <;> omega

def seasonLookup : Text → Option (List UInt8) :=
  fun _ => some seasonFile

/-- A plain local time, one of the hour that comes twice, and one of the hour that is left
out. -/
theorem resolveLocalTime_season :
    resolveLocalTime seasonLookup ['X'] ⟨3600, by decide⟩ = .ok ⟨0, by decide⟩ ∧
      resolveLocalTime seasonLookup ['X'] ⟨7200, by decide⟩ =
        .error (invalid "ambiguous or nonexistent local time") ∧
      resolveLocalTime seasonLookup ['X'] ⟨100800, by decide⟩ =
        .error (invalid "ambiguous or nonexistent local time") := by
  have hexact := @resolveLocalTime_exact _ seasonLookup ['X'] _ (by decide) rfl parse_seasonFile
  refine ⟨((hexact _).1 _).mpr ⟨?_, fun u hu => ?_⟩, (hexact _).2.1 ?_, (hexact _).2.1 ?_⟩
  · simp [Tzif.Shows, seasonZone_offset]
  · simp only [Tzif.Shows, seasonZone_offset] at hu
    grind
  · rintro ⟨t, -, honly⟩
    have hearly := honly 3600 (by simp [Tzif.Shows, seasonZone_offset])
    have hlate := honly 7200 (by simp [Tzif.Shows, seasonZone_offset])
    omega
  · rintro ⟨t, ht, -⟩
    simp only [Tzif.Shows, seasonZone_offset] at ht
    grind

/-- The last local time shows at one instant, which `DateTime` cannot represent. -/
theorem overflow_reported :
    (∃ t, westernZone.Shows t maxSeconds ∧ ∀ u, westernZone.Shows u maxSeconds → u = t) ∧
    (∀ t, resolveLocalTime westernLookup ['X'] ⟨maxSeconds, by decide⟩ ≠ .ok t) ∧
    resolveLocalTime westernLookup ['X'] ⟨maxSeconds, by decide⟩ ≠
      .error (invalid "ambiguous or nonexistent local time") := by
  have hresult : resolveLocalTime westernLookup ['X'] ⟨maxSeconds, by decide⟩ =
      .error (invalid "timezone conversion overflow") := by
    decide +kernel
  refine ⟨⟨maxSeconds + 3600, westernZone_shows.mpr rfl, fun u hu => westernZone_shows.mp hu⟩,
    fun t => ?_, ?_⟩
  · rw [hresult]
    simp
  · rw [hresult]
    decide

end Sample

end Calendar
end SleepySession
