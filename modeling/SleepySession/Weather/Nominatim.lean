import SleepySession.Lib.Table
import SleepySession.Lib.Utf8
import SleepySession.Weather.MetNo

/-!
# The geocoding provider

`NominatimProvider` looks places up, at most once in a second, and remembers what
every query returned.  Before the answers are returned, the whole cache with the
new entry is checked and written.  Lowercasing is a parameter.
-/

namespace SleepySession
namespace Weather

open Compositor (isControl)
open Program

variable {β F : Type}

section Data

structure GeocodingResult (F : Type) where
  displayName : Text
  latitude : F
  longitude : F
  attribution : Text

/-- The results of the queries, by their keys. -/
abbrev Queries (F : Type) := Table Text (List (GeocodingResult F))

structure GeocodeCache (F : Type) where
  schemaVersion : UInt32
  queries : Queries F

structure NominatimResult where
  displayName : Text
  lat : Text
  lon : Text
deriving DecidableEq

/-- What the libraries do for the provider. -/
structure GeoSdk (β F : Type) where
  number : NumberSdk F
  json : JsonSdk β (GeocodeCache F)
  /-- `serde_json` of a response body. -/
  parseBody : List UInt8 → Option (List NominatimResult)
  /-- `str::to_lowercase`. -/
  lowercase : Text → Text

end Data

/-- `© OpenStreetMap contributors`. -/
def geocodingAttribution : Text :=
  Char.ofNat 0xA9 :: " OpenStreetMap contributors".toList

section Checks

variable (sdk : GeoSdk β F)

/-- The characters that no query may contain. -/
def forbidden (c : Char) : Bool :=
  c = '@' || c = '\n' || c = '\r' || c.toNat = 0

/-- The first check of a query that was trimmed. -/
def refusedQuery (query : Text) : Bool :=
  decide (query.byteLength < 2) || decide (query.byteLength > 200) || query.any forbidden

def checkResult (result : GeocodingResult F) : Except IoError Unit := do
  validateLocation sdk.number ⟨result.displayName, result.latitude, result.longitude⟩
  if result.attribution ≠ geocodingAttribution ∨ result.displayName.byteLength > 1024 ∨
      result.displayName.any isControl = true then
    .error (invalid "geocoding cache result is invalid")
  else
    .ok ()

def checkQuery (entry : Text × List (GeocodingResult F)) : Except IoError Unit :=
  if trimText entry.1 ≠ entry.1 ∨ sdk.lowercase entry.1 ≠ entry.1 ∨
      refusedQuery entry.1 = true ∨ entry.2.length > 8 then
    .error (invalid "geocoding cache query is invalid")
  else
    entry.2.forM (checkResult sdk)

def validateGeocodeCache (queries : Queries F) : Except IoError Unit :=
  if queries.entries.length > 1024 then
    .error (invalid "geocoding cache query count exceeded limit")
  else
    queries.entries.forM (checkQuery sdk)

def convertResult (result : NominatimResult) : Except IoError (GeocodingResult F) :=
  match sdk.number.parseFloat result.lat with
  | none => .error (invalid "Nominatim latitude is invalid")
  | some latitude =>
      match sdk.number.parseFloat result.lon with
      | none => .error (invalid "Nominatim longitude is invalid")
      | some longitude => do
          validateLocation sdk.number ⟨result.displayName, latitude, longitude⟩
          pure ⟨result.displayName, latitude, longitude, geocodingAttribution⟩

/-- What a response with status 200 says. -/
def parseResults (body : List UInt8) : Except IoError (List (GeocodingResult F)) :=
  match sdk.parseBody body with
  | none => .error (invalid "Nominatim response is malformed")
  | some raw =>
      if raw.length > 8 then
        .error (invalid "Nominatim response exceeded result limit")
      else
        raw.mapM (convertResult sdk)

end Checks

def hexDigit (n : Nat) : Char :=
  if n < 10 then Char.ofNat (0x30 + n) else Char.ofNat (0x37 + n)

def percentEncode (value : Text) : Text :=
  (utf8Bytes value).flatMap fun byte =>
    let c := Char.ofNat byte.toNat
    if byte < 0x80 ∧ (c.isAlphanum = true ∨ c ∈ "-_.~".toList) then [c]
    else ['%', hexDigit (byte.toNat / 16), hexDigit (byte.toNat % 16)]

structure NominatimProvider (β F : Type) where
  /-- What the directory of the cache holds. -/
  directory : CacheFiles β
  endpoint : Text
  userAgent : Text
  /-- When the process last asked, in milliseconds. -/
  lastRequest : Option Nat
  cache : Queries F

abbrev GeoProgram (β F α : Type) :=
  Program (Answer ProviderFile β) (NominatimProvider β F) IoError α

namespace NominatimProvider

variable (sdk : GeoSdk β F)

/-- What `new` makes of the document that it finds. -/
def checkCache : Option (GeocodeCache F) → Except IoError (Queries F)
  | none => .ok Table.empty
  | some document =>
      if document.schemaVersion = cacheVersion then do
        validateGeocodeCache sdk document.queries
        pure document.queries
      else
        .error (invalid "unknown geocoding cache schema")

/-- `new` in a process that has not asked yet. -/
def new (endpoint userAgent : Text) : CacheIo β (NominatimProvider β F) := do
  let document ← readJsonIfPresent sdk.json
  let cache ← orThrow (checkCache sdk document)
  let directory ← get
  pure ⟨directory, endpoint, userAgent, none, cache⟩

def onDirectory {α : Type} (m : CacheIo β α) : GeoProgram β F α :=
  m.zoom directory fun files self => { self with directory := files }

def request (self : NominatimProvider β F) (query : Text) : HttpRequest where
  url := self.endpoint ++ "?q=".toList ++ percentEncode query ++ "&format=jsonv2&limit=8".toList
  headers := [("Accept".toList, "application/json".toList), ("User-Agent".toList, self.userAgent)]
  timeout := 6

/-- Whether the last request is less than a second ago. -/
def limited (self : NominatimProvider β F) (monotonicNow : Nat) : Bool :=
  self.lastRequest.any fun last => decide (monotonicNow < saturatingAdd last 1000)

/-- Check and write the cache with a new entry, and take it over. -/
def storeResults (key : Text) (results : List (GeocodingResult F)) :
    GeoProgram β F (List (GeocodingResult F)) := do
  let self ← get
  let candidate := self.cache.insert key results
  orThrow (validateGeocodeCache sdk candidate)
  onDirectory (writeJsonPrivate sdk.json ⟨cacheVersion, candidate⟩)
  modify fun self => { self with cache := candidate }
  pure results

/-- `submit_controlled`; `transport` is what this call's request returns. -/
def submitControlled (text : Text) (monotonicNow : Nat)
    (transport : HttpRequest → Except IoError HttpResponse) :
    GeoProgram β F (List (GeocodingResult F)) := do
  let query := trimText text
  if refusedQuery query then
    throw ⟨.invalidInput, "geocoding query is invalid or sensitive"⟩
  else do
    let key := sdk.lowercase query
    let self ← get
    match self.cache.get? key with
    | some cached => pure cached
    | none =>
        if self.limited monotonicNow then
          throw ⟨.wouldBlock, "Nominatim requests are limited to one per second"⟩
        else do
          modify fun self => { self with lastRequest := some monotonicNow }
          match transport (self.request query) with
          | .error e => throw e
          | .ok response =>
              if response.status ≠ 200 then
                throw ⟨.other, s!"Nominatim returned HTTP {response.status}"⟩
              else do
                let results ← orThrow (parseResults sdk response.body)
                storeResults sdk key results

end NominatimProvider

end Weather
end SleepySession
