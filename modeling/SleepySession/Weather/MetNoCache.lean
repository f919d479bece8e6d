import SleepySession.Lib.Checks
import SleepySession.Weather.MetNo

/-!
# What the weather cache holds

The checks of a cache depend on the clock only through its expiry, so a cache
that was accepted stays acceptable.  One call either leaves the provider as it
was or stores a cache that was checked.
-/

namespace SleepySession
namespace Weather

open Program

variable {β F : Type} {sdk : MetSdk β F} {cache found : MetCache F} {now later : Nat}

section Validity

/-- The checks of a cache that do not depend on the time. -/
structure ValidApart (sdk : MetSdk β F) (cache : MetCache F) : Prop where
  location : ∃ location, cachedLocation sdk cache.locationKey = some location ∧
    cache.locationKey.byteLength ≤ 64 ∧ validateLocation sdk.number location = .ok () ∧
    cache.locationKey = locationKey sdk location.latitude location.longitude ∧
    sdk.validateSnapshot (weather sdk location .online .fresh cache.forecast none) = true
  lastModified : cache.lastModified.any invalidHeaderValue = false
  length : cache.forecast.length ≤ 512
  points : cache.forecast.any (invalidPoint sdk) = false

theorem validateMetCache_eq_ok_iff :
    validateMetCache sdk cache now = .ok () ↔
      ValidApart sdk cache ∧ cache.expiresAt ≤ saturatingAdd now maxExpiry := by
  unfold validateMetCache
  cases hlocation : cachedLocation sdk cache.locationKey with
  | none =>
      refine iff_of_false nofun ?_
      rintro ⟨⟨⟨location, hsome, -⟩, -, -, -⟩, -⟩
      rw [hlocation] at hsome
      cases hsome
  | some location =>
      constructor
      · intro h
        simp only at h
        split at h
        · cases h
        rename_i hkey
        split at h
        · cases h
        rename_i hmeta
        split at h
        · cases h
        rename_i hlength
        split at h
        · cases h
        rename_i hpoints
        split at h
        · cases h
        rename_i hcontract
        rw [not_or, not_or, not_lt, not_not, not_not] at hkey
        rw [not_or, not_lt, Bool.not_eq_true] at hmeta
        rw [Bool.not_eq_true] at hpoints
        simp only [Bool.not_eq_true', Bool.not_eq_false] at hcontract
        exact ⟨⟨⟨location, hlocation, hkey.1, hkey.2.1, hkey.2.2, hcontract⟩, hmeta.2,
          Nat.not_lt.mp hlength, hpoints⟩, hmeta.1⟩
      · rintro ⟨⟨⟨location', hsome, hlength, hvalid, hkey, hcontract⟩, hmodified, hcount, hpoints⟩,
          hexpires⟩
        rw [hlocation] at hsome
        cases hsome
        simp only
        rw [if_neg, if_neg, if_neg (Nat.not_lt.mpr hcount), if_neg, if_neg]
        · simp [hcontract]
        · simp [hpoints]
        · rw [not_or, not_lt, Bool.not_eq_true]
          exact ⟨hexpires, hmodified⟩
        · rw [not_or, not_or, not_lt, not_not, not_not]
          exact ⟨hlength, hvalid, hkey⟩

/-- What was accepted is accepted later. -/
theorem validateMetCache_mono (hnow : now ≤ later)
    (h : validateMetCache sdk cache now = .ok ()) :
    validateMetCache sdk cache later = .ok () := by
  obtain ⟨hvalid, hexpires⟩ := validateMetCache_eq_ok_iff.mp h
  exact validateMetCache_eq_ok_iff.mpr ⟨hvalid, hexpires.trans (saturatingAdd_mono hnow)⟩

/-- A new expiry within the limit keeps a cache acceptable. -/
theorem validateMetCache_expires {value : Nat}
    (hvalue : value ≤ saturatingAdd later maxExpiry)
    (h : validateMetCache sdk cache now = .ok ()) :
    validateMetCache sdk { cache with expiresAt := value } later = .ok () := by
  obtain ⟨hvalid, -⟩ := validateMetCache_eq_ok_iff.mp h
  exact validateMetCache_eq_ok_iff.mpr ⟨⟨hvalid.1, hvalid.2, hvalid.3, hvalid.4⟩, hvalue⟩

theorem expires_le {headers : List (Text × Text)} {value : Nat}
    (h : expires sdk headers now = .ok value) : value ≤ saturatingAdd now maxExpiry := by
  unfold expires at h
  split at h
  · cases h
    unfold saturatingAdd maxExpiry
    omega
  · split at h
    · cases h
    · split at h
      · cases h
      · rename_i hvalue
        cases h
        exact Nat.not_lt.mp hvalue

/-- Forecasts that differ at most in the digits of their temperatures. -/
def AlikeForecast (sdk : MetSdk β F) (forecast forecast' : List (ForecastPoint F)) : Prop :=
  List.Forall₂
    (fun p p' => p.at = p'.at ∧ p.symbol = p'.symbol ∧
      sdk.number.isFinite p.temperatureC = sdk.number.isFinite p'.temperatureC)
    forecast forecast'

/-- What the libraries promise: JSON of finite numbers is read as it was written, up to the last
digits of a temperature, and the contract looks at a temperature only for whether it is finite. -/
structure MetSdk.Lawful (sdk : MetSdk β F) : Prop where
  rereads : ∀ cache, cache.expiresAt ≤ u64Max →
    (∀ point ∈ cache.forecast, sdk.number.isFinite point.temperatureC = true) →
    ∃ found, sdk.json.decode (cacheContent sdk.json cache) = .ok found ∧
      found.schemaVersion = cache.schemaVersion ∧ found.locationKey = cache.locationKey ∧
      found.expiresAt = cache.expiresAt ∧ found.lastModified = cache.lastModified ∧
      AlikeForecast sdk cache.forecast found.forecast
  contract : ∀ location forecast forecast', AlikeForecast sdk forecast forecast' →
    sdk.validateSnapshot (weather sdk location .online .fresh forecast none) =
      sdk.validateSnapshot (weather sdk location .online .fresh forecast' none)

theorem AlikeForecast.any {forecast forecast' : List (ForecastPoint F)}
    (h : AlikeForecast sdk forecast forecast') :
    forecast.any (invalidPoint sdk) = forecast'.any (invalidPoint sdk) := by
  induction h with
  | nil => rfl
  | cons hpoint _ ih =>
      obtain ⟨hat, hsymbol, hfinite⟩ := hpoint
      rw [List.any_cons, List.any_cons, ih]
      simp only [invalidPoint, hat, hsymbol, hfinite]

/-- The content of a cache that was accepted is accepted when it is read. -/
theorem found_of_validateMetCache (hlawful : sdk.Lawful)
    (hsize : sdk.json.size (sdk.json.encode cache) < maxHttpBody)
    (hversion : cache.schemaVersion = cacheVersion)
    (h : validateMetCache sdk cache now = .ok ()) :
    ∃ found, checkJson sdk.json (cacheContent sdk.json cache) = .ok found ∧
      MetNoProvider.checkCache sdk (some found) now = .ok () := by
  obtain ⟨⟨⟨location, hlocation, hrest⟩, hlast, hlength, hpoints⟩, hexpires⟩ :=
    validateMetCache_eq_ok_iff.mp h
  have hfinite : ∀ point ∈ cache.forecast, sdk.number.isFinite point.temperatureC = true := by
    intro point hpoint
    have hvalid := List.any_eq_false.mp hpoints point hpoint
    simp only [invalidPoint, Bool.or_eq_true, not_or, Bool.not_eq_true', Bool.not_eq_false]
      at hvalid
    exact hvalid.1.1.1.2
  obtain ⟨found, hdecode, hschema, hkey, hexpiresAt, hmodified, halike⟩ :=
    hlawful.rereads cache (hexpires.trans (Nat.min_le_right _ _)) hfinite
  refine ⟨found, ?_, ?_⟩
  · rw [checkJson_cacheContent hsize, hdecode]
  · rw [hlawful.contract location _ _ halike] at hrest
    unfold MetNoProvider.checkCache
    simp only [hschema, hversion, ne_eq, not_true_eq_false, if_false]
    refine validateMetCache_eq_ok_iff.mpr ⟨⟨⟨location, ?_, ?_⟩, ?_, ?_, ?_⟩, ?_⟩
    · rw [hkey, hlocation]
    · rw [hkey]
      exact hrest
    · rw [hmodified, hlast]
    · rw [← halike.length_eq]
      exact hlength
    · rw [← halike.any, hpoints]
    · rw [hexpiresAt]
      exact hexpires

end Validity

section Files

/-- A content of the file that `new` accepts at a time. -/
def Openable (sdk : MetSdk β F) (now : Nat) (content : Option β) : Prop :=
  ∃ found, FoundJson sdk.json content found ∧ MetNoProvider.checkCache sdk found now = .ok ()

theorem checkCache_mono {found : Option (MetCache F)} (hnow : now ≤ later)
    (h : MetNoProvider.checkCache sdk found now = .ok ()) :
    MetNoProvider.checkCache sdk found later = .ok () := by
  cases found with
  | none => rfl
  | some cache =>
      unfold MetNoProvider.checkCache at h ⊢
      simp only at h ⊢
      split at h
      · cases h
      · rename_i hversion
        rw [if_neg hversion]
        exact validateMetCache_mono hnow h

theorem Openable.mono {content : Option β} (hnow : now ≤ later)
    (h : Openable sdk now content) : Openable sdk later content := by
  obtain ⟨found, hfound, hcheck⟩ := h
  exact ⟨found, hfound, checkCache_mono hnow hcheck⟩

/-- A cache in memory that `new` would accept. -/
def Accepted (sdk : MetSdk β F) (now : Nat) (cache : MetCache F) : Prop :=
  cache.schemaVersion = cacheVersion ∧ validateMetCache sdk cache now = .ok ()

theorem accepted_of_checkCache (h : MetNoProvider.checkCache sdk (some cache) now = .ok ()) :
    Accepted sdk now cache := by
  unfold MetNoProvider.checkCache at h
  simp only at h
  split at h
  · cases h
  · rename_i hversion
    exact ⟨not_not.mp hversion, h⟩

theorem Accepted.mono (hnow : now ≤ later) (h : Accepted sdk now cache) :
    Accepted sdk later cache :=
  ⟨h.1, validateMetCache_mono hnow h.2⟩

/-- What holds of a provider: memory and file only have what was accepted. -/
structure Sound (sdk : MetSdk β F) (now : Nat) (provider : MetNoProvider β F) : Prop where
  memory : ∀ cache, provider.cache = some cache → Accepted sdk now cache
  file : (cacheCell provider.directory).All (Openable sdk now)

theorem Sound.mono {provider : MetNoProvider β F} (hnow : now ≤ later)
    (h : Sound sdk now provider) : Sound sdk later provider :=
  ⟨fun cache hcache => (h.memory cache hcache).mono hnow,
    h.file.mono fun _ hcontent => hcontent.mono hnow⟩

end Files

end Weather
end SleepySession
