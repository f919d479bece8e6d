import SleepySession.Lib.Checks
import SleepySession.Weather.Nominatim

/-!
# What the geocoding cache holds

The same checks are made of the cache that is read and of the one that is
written.  An entry that passes the first check of a query need not pass them.
-/

namespace SleepySession
namespace Weather

open Program

variable {β F : Type} {sdk : GeoSdk β F} {queries : Queries F} {key : Text}
variable {results : List (GeocodingResult F)} {result : GeocodingResult F}

section Checks

theorem checkResult_eq_ok_iff :
    checkResult sdk result = .ok () ↔
      validateLocation sdk.number ⟨result.displayName, result.latitude, result.longitude⟩ =
          .ok () ∧
        result.attribution = geocodingAttribution ∧ result.displayName.byteLength ≤ 1024 ∧
        result.displayName.any Compositor.isControl = false := by
  unfold checkResult
  rw [Checks.check_bind_eq_ok_iff]
  refine and_congr_right fun _ => ?_
  split
  · rename_i h
    refine iff_of_false nofun ?_
    rintro ⟨hattribution, hlength, hcontrol⟩
    rcases h with h | h | h
    · exact h hattribution
    · exact absurd h (Nat.not_lt.mpr hlength)
    · rw [hcontrol] at h
      cases h
  · rename_i h
    rw [not_or, not_or, not_not, not_lt, Bool.not_eq_true] at h
    exact iff_of_true rfl h

theorem checkQuery_eq_ok_iff :
    checkQuery sdk (key, results) = .ok () ↔
      (trimText key = key ∧ sdk.lowercase key = key ∧ refusedQuery key = false) ∧
        results.length ≤ 8 ∧ ∀ result ∈ results, checkResult sdk result = .ok () := by
  unfold checkQuery
  simp only
  split
  · rename_i h
    refine iff_of_false nofun ?_
    rintro ⟨⟨htrim, hlower, hrefused⟩, hlength, -⟩
    rcases h with h | h | h | h
    · exact h htrim
    · exact h hlower
    · rw [hrefused] at h
      cases h
    · exact absurd h (Nat.not_lt.mpr hlength)
  · rename_i h
    rw [not_or, not_or, not_or, not_not, not_not, Bool.not_eq_true, not_lt] at h
    rw [Checks.forM_eq_ok_iff]
    obtain ⟨htrim, hlower, hrefused, hlength⟩ := h
    exact ⟨fun hresults => ⟨⟨htrim, hlower, hrefused⟩, hlength, hresults⟩, fun h => h.2.2⟩

theorem validateGeocodeCache_eq_ok_iff :
    validateGeocodeCache sdk queries = .ok () ↔
      queries.entries.length ≤ 1024 ∧
        ∀ entry ∈ queries.entries, checkQuery sdk entry = .ok () := by
  unfold validateGeocodeCache
  split
  · rename_i h
    exact iff_of_false nofun fun hvalid => absurd h (Nat.not_lt.mpr hvalid.1)
  · rename_i h
    rw [Checks.forM_eq_ok_iff]
    exact (and_iff_right (Nat.not_lt.mp h)).symm

/-- What a response says has valid coordinates and the attribution of the provider. -/
theorem convertResult_eq_ok {raw : NominatimResult}
    (h : convertResult sdk raw = .ok result) :
    validateLocation sdk.number ⟨result.displayName, result.latitude, result.longitude⟩ =
        .ok () ∧
      result.attribution = geocodingAttribution := by
  unfold convertResult at h
  split at h
  · cases h
  split at h
  · cases h
  obtain ⟨hvalid, hresult⟩ := Checks.check_bind_eq_ok_iff.mp h
  cases hresult
  exact ⟨hvalid, rfl⟩

theorem parseResults_eq_ok {body : List UInt8}
    (h : parseResults sdk body = .ok results) :
    results.length ≤ 8 ∧ ∀ result ∈ results,
      validateLocation sdk.number ⟨result.displayName, result.latitude, result.longitude⟩ =
          .ok () ∧
        result.attribution = geocodingAttribution := by
  unfold parseResults at h
  split at h
  · cases h
  rename_i raw _
  split at h
  · cases h
  rename_i hraw
  refine ⟨?_, ?_⟩
  · have hunits : results.map (fun _ => ()) = raw.map (fun _ => ()) :=
      Checks.mapM_keys (fun _ _ _ => rfl) _ _ h
    have hlength := congrArg List.length hunits
    rw [List.length_map, List.length_map] at hlength
    omega
  · intro result hresult
    obtain ⟨_, -, hconvert⟩ := Checks.exists_of_mapM_eq_ok h result hresult
    exact convertResult_eq_ok hconvert

/-- The cache has room for the new entry, which passes its checks. -/
structure Cacheable (sdk : GeoSdk β F) (queries : Queries F) (key : Text)
    (results : List (GeocodingResult F)) : Prop where
  room : queries.entries.length < 1024
  normal : trimText key = key ∧ sdk.lowercase key = key ∧ refusedQuery key = false
  names : ∀ result ∈ results, result.displayName.byteLength ≤ 1024 ∧
    result.displayName.any Compositor.isControl = false
  size : sdk.json.size (sdk.json.encode ⟨cacheVersion, queries.insert key results⟩) < maxHttpBody

/-- The checks of a valid cache with the results of a response. -/
theorem cacheable_iff {body : List UInt8}
    (hvalid : validateGeocodeCache sdk queries = .ok ())
    (hnew : queries.get? key = none)
    (hbody : parseResults sdk body = .ok results) :
    Cacheable sdk queries key results ↔
      validateGeocodeCache sdk (queries.insert key results) = .ok () ∧
        sdk.json.size (sdk.json.encode ⟨cacheVersion, queries.insert key results⟩) <
          maxHttpBody := by
  obtain ⟨hcount, hentries⟩ := validateGeocodeCache_eq_ok_iff.mp hvalid
  obtain ⟨hlength, hresults⟩ := parseResults_eq_ok hbody
  rw [validateGeocodeCache_eq_ok_iff, Table.entries_insert_of_get?_eq_none hnew,
    List.length_cons, List.forall_mem_cons, checkQuery_eq_ok_iff]
  constructor
  · rintro ⟨hroom, hkey, hnames, hsize⟩
    refine ⟨⟨hroom, ⟨hkey, hlength, ?_⟩, hentries⟩, hsize⟩
    intro result hresult
    obtain ⟨hlocation, hattribution⟩ := hresults result hresult
    exact checkResult_eq_ok_iff.mpr ⟨hlocation, hattribution, hnames result hresult⟩
  · rintro ⟨⟨hroom, ⟨hkey, -, hchecked⟩, -⟩, hsize⟩
    refine ⟨hroom, hkey, ?_, hsize⟩
    intro result hresult
    exact (checkResult_eq_ok_iff.mp (hchecked result hresult)).2.2

end Checks

section Reading

/-- Results that differ at most in the last digits of their coordinates. -/
structure AlikeResult (sdk : GeoSdk β F) (result result' : GeocodingResult F) : Prop where
  displayName : result.displayName = result'.displayName
  attribution : result.attribution = result'.attribution
  location : ∀ name, validateLocation sdk.number ⟨name, result.latitude, result.longitude⟩ =
    validateLocation sdk.number ⟨name, result'.latitude, result'.longitude⟩

/-- What the libraries promise: JSON of finite numbers is read as it was written, up to the order
of the keys and the last digits of a coordinate. -/
def GeoSdk.Lawful (sdk : GeoSdk β F) : Prop :=
  ∀ document : GeocodeCache F,
    (∀ entry ∈ document.queries.entries, ∀ result ∈ entry.2,
      sdk.number.isFinite result.latitude = true ∧
        sdk.number.isFinite result.longitude = true) →
    ∃ found, sdk.json.decode (cacheContent sdk.json document) = .ok found ∧
      found.schemaVersion = document.schemaVersion ∧
      found.queries.entries.length = document.queries.entries.length ∧
      ∀ entry' ∈ found.queries.entries, ∃ entry ∈ document.queries.entries,
        entry'.1 = entry.1 ∧ List.Forall₂ (AlikeResult sdk) entry.2 entry'.2

theorem AlikeResult.checkResult {result' : GeocodingResult F} (h : AlikeResult sdk result result')
    (hcheck : checkResult sdk result = .ok ()) : Weather.checkResult sdk result' = .ok () := by
  obtain ⟨hlocation, hrest⟩ := checkResult_eq_ok_iff.mp hcheck
  rw [h.location, h.displayName] at hlocation
  rw [h.attribution, h.displayName] at hrest
  exact checkResult_eq_ok_iff.mpr ⟨hlocation, hrest⟩

theorem checkQuery_alike {results' : List (GeocodingResult F)}
    (halike : List.Forall₂ (AlikeResult sdk) results results')
    (h : checkQuery sdk (key, results) = .ok ()) :
    checkQuery sdk (key, results') = .ok () := by
  obtain ⟨hkey, hlength, hresults⟩ := checkQuery_eq_ok_iff.mp h
  refine checkQuery_eq_ok_iff.mpr ⟨hkey, halike.length_eq ▸ hlength, ?_⟩
  clear h hlength
  induction halike with
  | nil => exact nofun
  | cons hresult _ ih =>
      rw [List.forall_mem_cons] at hresults ⊢
      exact ⟨hresult.checkResult hresults.1, ih hresults.2⟩

theorem validateLocation_eq_ok {number : NumberSdk F} {location : WeatherLocation F}
    (h : validateLocation number location = .ok ()) :
    number.isFinite location.latitude = true ∧ number.isFinite location.longitude = true := by
  unfold validateLocation at h
  split at h
  · cases h
  · rename_i hvalid
    simp only [not_or, Bool.not_eq_true', Bool.not_eq_false] at hvalid
    exact ⟨hvalid.2.1, hvalid.2.2.1⟩

/-- A content of the file that `new` accepts. -/
def GeoOpenable (sdk : GeoSdk β F) (content : Option β) : Prop :=
  ∃ found, FoundJson sdk.json content found ∧
    ∃ queries, NominatimProvider.checkCache sdk found = .ok queries

/-- A cache that was checked and written is accepted when it is read. -/
theorem geoOpenable_content (hlawful : sdk.Lawful)
    (hvalid : validateGeocodeCache sdk queries = .ok ())
    (hsize : sdk.json.size (sdk.json.encode ⟨cacheVersion, queries⟩) < maxHttpBody) :
    GeoOpenable sdk (some (cacheContent sdk.json ⟨cacheVersion, queries⟩)) := by
  obtain ⟨hcount, hentries⟩ := validateGeocodeCache_eq_ok_iff.mp hvalid
  have hfinite : ∀ entry ∈ queries.entries, ∀ result ∈ entry.2,
      sdk.number.isFinite result.latitude = true ∧
        sdk.number.isFinite result.longitude = true := by
    intro entry hentry result hresult
    have hchecked := (checkQuery_eq_ok_iff.mp (hentries entry hentry)).2.2 result hresult
    exact validateLocation_eq_ok (checkResult_eq_ok_iff.mp hchecked).1
  obtain ⟨found, hdecode, hversion, hlength, hfound⟩ := hlawful ⟨cacheVersion, queries⟩ hfinite
  refine ⟨some found, ⟨found, ?_, rfl⟩, found.queries, ?_⟩
  · rw [checkJson_cacheContent hsize, hdecode]
  have hreread : validateGeocodeCache sdk found.queries = .ok () := by
    refine validateGeocodeCache_eq_ok_iff.mpr ⟨hlength ▸ hcount, ?_⟩
    intro entry' hentry'
    obtain ⟨entry, hentry, hkey, halike⟩ := hfound entry' hentry'
    have hchecked := checkQuery_alike halike (hentries entry hentry)
    rw [← hkey] at hchecked
    exact hchecked
  unfold NominatimProvider.checkCache
  simp only
  rw [if_pos hversion, hreread]
  rfl

theorem validate_of_checkCache {found : Option (GeocodeCache F)}
    (h : NominatimProvider.checkCache sdk found = .ok queries) :
    validateGeocodeCache sdk queries = .ok () := by
  cases found with
  | none =>
      cases h
      rfl
  | some document =>
      unfold NominatimProvider.checkCache at h
      simp only at h
      split at h
      · obtain ⟨hvalid, hqueries⟩ := Checks.check_bind_eq_ok_iff.mp h
        cases hqueries
        exact hvalid
      · cases h

/-- What holds of a provider: memory and file only have what was checked. -/
structure GeoSound (sdk : GeoSdk β F) (provider : NominatimProvider β F) : Prop where
  memory : validateGeocodeCache sdk provider.cache = .ok ()
  file : (cacheCell provider.directory).All (GeoOpenable sdk)

end Reading

end Weather
end SleepySession
