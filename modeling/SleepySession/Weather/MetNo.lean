import SleepySession.Compositor.Snapshot
import SleepySession.Lib.Saturating
import SleepySession.Weather.CacheFile

/-!
# The weather provider

`MetNoProvider` keeps the forecast of one place in memory and in a file, asks
MET.no when it has expired, and falls back on what it has.  Coordinates and
temperatures are of an abstract type; formatting and parsing them, dates, JSON
and the contract of the SDK are parameters.
-/

namespace SleepySession
namespace Weather

open Compositor (isControl)
open Program

variable {β F : Type}

section Data

structure WeatherLocation (F : Type) where
  displayName : Text
  latitude : F
  longitude : F

structure ForecastPoint (F : Type) where
  «at» : Text
  temperatureC : F
  symbol : Text

inductive ProviderStatus where
  | online
  | offline
  | error
deriving DecidableEq, Repr

inductive CacheStatus where
  | fresh
  | stale
  | missing
deriving DecidableEq, Repr

structure WeatherSnapshot (F : Type) where
  schemaVersion : Nat
  providerId : Text
  location : WeatherLocation F
  status : ProviderStatus
  cache : CacheStatus
  attribution : Text
  forecast : List (ForecastPoint F)
  diagnostic : Option String

structure MetCache (F : Type) where
  schemaVersion : UInt32
  locationKey : Text
  expiresAt : Nat
  lastModified : Option Text
  forecast : List (ForecastPoint F)

structure HttpRequest where
  url : Text
  headers : List (Text × Text)
  /-- In seconds. -/
  timeout : Nat

/-- A response; the headers are in the order of their names. -/
structure HttpResponse where
  status : Nat
  headers : List (Text × Text)
  body : List UInt8

/-- One entry of the time series, as far as its values have the right type. -/
structure MetPoint (F : Type) where
  time : Option Text
  airTemperature : Option F
  /-- The symbol of the next hour, if it is there, and if it is a text. -/
  nextHour : Option (Option Text)
  nextSixHours : Option (Option Text)

/-- What the libraries do for numbers. -/
structure NumberSdk (F : Type) where
  isFinite : F → Bool
  /-- Whether a number lies between two whole ones. -/
  inRange : Int → Int → F → Bool
  /-- `format!("{:.4}", value)`. -/
  formatFixed : F → Text
  parseFloat : Text → Option F

/-- What the libraries do for the provider. -/
structure MetSdk (β F : Type) where
  number : NumberSdk F
  json : JsonSdk β (MetCache F)
  /-- `serde_json` of a response body; `none` inside if there is no time series. -/
  parseBody : List UInt8 → Option (Option (List (MetPoint F)))
  parseRfc3339 : Text → Bool
  /-- The time stamp of a date in the form of mail headers. -/
  parseRfc2822 : Text → Option Int
  wireSchemaVersion : Nat
  /-- Whether the serialized snapshot meets the contract. -/
  validateSnapshot : WeatherSnapshot F → Bool

end Data

def cacheVersion : UInt32 := 1

/-- The longest time to an expiry, in seconds. -/
def maxExpiry : Nat := 7 * 24 * 60 * 60

section Checks

variable (sdk : MetSdk β F)

def validateLocation (number : NumberSdk F) (location : WeatherLocation F) :
    Except IoError Unit :=
  if trimText location.displayName = [] ∨ ! number.isFinite location.latitude ∨
      ! number.isFinite location.longitude ∨ ! number.inRange (-90) 90 location.latitude ∨
      ! number.inRange (-180) 180 location.longitude then
    .error ⟨.invalidInput, "weather location is invalid"⟩
  else
    .ok ()

def formatCoordinate (value : F) : Text :=
  trimEndMatches (· = '.') (trimEndMatches (· = '0') (sdk.number.formatFixed value))

def locationKey (latitude longitude : F) : Text :=
  formatCoordinate sdk latitude ++ ',' :: formatCoordinate sdk longitude

/-- `u64::from_str`. -/
def parseU64 (text : Text) : Option Nat :=
  let digits := if text.head? = some '+' then text.tail else text
  let value := digits.foldl (fun n c => n * 10 + (c.toNat - '0'.toNat)) 0
  if digits ≠ [] ∧ digits.all Char.isDigit = true ∧ value ≤ u64Max then some value else none

/-- The value of a header, whatever the case of its name. -/
def header (headers : List (Text × Text)) (name : Text) : Option Text :=
  (headers.find? fun entry => entry.1.map Char.toLower = name.map Char.toLower).map Prod.snd

def expires (headers : List (Text × Text)) (now : Nat) : Except IoError Nat :=
  match header headers "Expires".toList with
  | none => .ok (saturatingAdd now 300)
  | some value =>
      match (parseU64 value).or ((sdk.parseRfc2822 value).map fun time => (max time 0).toNat) with
      | none => .error (invalid "MET Expires header is invalid")
      | some value =>
          if value > saturatingAdd now maxExpiry then
            .error (invalid "MET Expires header is implausibly far in the future")
          else
            .ok value

def invalidHeaderValue (value : Text) : Bool :=
  value = [] || decide (value.byteLength > 1024) || value.any isControl

def weather (location : WeatherLocation F) (status : ProviderStatus) (cache : CacheStatus)
    (forecast : List (ForecastPoint F)) (diagnostic : Option String) : WeatherSnapshot F where
  schemaVersion := sdk.wireSchemaVersion
  providerId := "met-no".toList
  location := location
  status := status
  cache := cache
  attribution := "Weather data from MET Norway".toList
  forecast := forecast
  diagnostic := diagnostic

/-- The snapshot without new data. -/
def unavailable (location : WeatherLocation F) (cache : Option (MetCache F))
    (status : ProviderStatus) (message : String) : WeatherSnapshot F :=
  match cache with
  | none => weather sdk location status .missing [] (some message)
  | some cache => weather sdk location status .stale cache.forecast (some message)

/-- The location that a key stands for. -/
def cachedLocation (key : Text) : Option (WeatherLocation F) := do
  let (latitude, longitude) ← splitOnce ',' key
  let latitude ← sdk.number.parseFloat latitude
  let longitude ← sdk.number.parseFloat longitude
  pure ⟨"cached location".toList, latitude, longitude⟩

def invalidPoint (point : ForecastPoint F) : Bool :=
  point.at.getLast? ≠ some 'Z' || ! sdk.parseRfc3339 point.at ||
    ! sdk.number.isFinite point.temperatureC || point.symbol = [] ||
    decide (point.symbol.byteLength > 128) || point.symbol.any isControl

def validateMetCache (cache : MetCache F) (now : Nat) : Except IoError Unit :=
  match cachedLocation sdk cache.locationKey with
  | none => .error (invalid "MET cache location key is invalid")
  | some location =>
      if cache.locationKey.byteLength > 64 ∨ validateLocation sdk.number location ≠ .ok () ∨
          cache.locationKey ≠ locationKey sdk location.latitude location.longitude then
        .error (invalid "MET cache location key is invalid")
      else if cache.expiresAt > saturatingAdd now maxExpiry ∨
          cache.lastModified.any invalidHeaderValue = true then
        .error (invalid "MET cache metadata is invalid")
      else if cache.forecast.length > 512 then
        .error (invalid "MET cache has too many forecast points")
      else if cache.forecast.any (invalidPoint sdk) then
        .error (invalid "MET cache forecast is invalid")
      else if ! sdk.validateSnapshot (weather sdk location .online .fresh cache.forecast none) then
        .error (invalid "MET cache violates the strict SDK weather contract")
      else
        .ok ()

def parsePoint (point : MetPoint F) : Except IoError (ForecastPoint F) :=
  match point.time with
  | none => .error (invalid "MET point omitted time")
  | some time =>
      if time.getLast? ≠ some 'Z' then
        .error (invalid "MET point time is not canonical UTC")
      else if ! sdk.parseRfc3339 time then
        .error (invalid "MET point time is invalid")
      else
        match point.airTemperature.filter sdk.number.isFinite with
        | none => .error (invalid "MET point omitted temperature")
        | some temperature =>
            match (point.nextHour.or point.nextSixHours).join.filter (· ≠ []) with
            | none => .error (invalid "MET point omitted symbol")
            | some symbol => .ok ⟨time, temperature, symbol⟩

def parseMet (body : List UInt8) : Except IoError (List (ForecastPoint F)) :=
  if body.length > maxHttpBody then
    .error (invalid "MET response exceeded limit")
  else
    match sdk.parseBody body with
    | none => .error (invalid "MET response is malformed")
    | some none => .error (invalid "MET response omitted timeseries")
    | some (some series) =>
        if series.length > 512 then
          .error (invalid "MET response has too many forecast points")
        else
          series.mapM (parsePoint sdk)

end Checks

structure MetNoProvider (β F : Type) where
  /-- What the directory of the cache holds. -/
  directory : CacheFiles β
  endpoint : Text
  userAgent : Text
  cache : Option (MetCache F)

abbrev MetProgram (β F α : Type) :=
  Program (Answer ProviderFile β) (MetNoProvider β F) IoError α

namespace MetNoProvider

variable (sdk : MetSdk β F)

/-- The checks of the document that `new` finds. -/
def checkCache (cache : Option (MetCache F)) (now : Nat) : Except IoError Unit :=
  match cache with
  | none => .ok ()
  | some cache =>
      if cache.schemaVersion ≠ cacheVersion then
        .error (invalid "unknown MET cache schema")
      else
        validateMetCache sdk cache now

/-- `new`, for an endpoint and a user agent that were checked. -/
def new (endpoint userAgent : Text) (now : Nat) : CacheIo β (MetNoProvider β F) := do
  let cache ← readJsonIfPresent sdk.json
  orThrow (checkCache sdk cache now)
  let directory ← get
  pure ⟨directory, trimEndMatches (· = '/') endpoint, userAgent, cache⟩

def onDirectory {α : Type} (m : CacheIo β α) : MetProgram β F α :=
  m.zoom directory fun files self => { self with directory := files }

def request (self : MetNoProvider β F) (location : WeatherLocation F)
    (existing : Option (MetCache F)) : HttpRequest where
  url := self.endpoint ++ "?lat=".toList ++ formatCoordinate sdk location.latitude ++
    "&lon=".toList ++ formatCoordinate sdk location.longitude
  headers := [("Accept".toList, "application/json".toList)] ++
    ((existing.bind (·.lastModified)).map fun value =>
      ("If-Modified-Since".toList, value)).toList ++
    [("User-Agent".toList, self.userAgent)]
  timeout := 6

/-- The cache that a response with a forecast makes. -/
def newCache (key : Text) (now : Nat) (response : HttpResponse) :
    Except IoError (MetCache F) := do
  let forecast ← parseMet sdk response.body
  let lastModified := header response.headers "Last-Modified".toList
  if lastModified.any invalidHeaderValue then
    .error (invalid "MET Last-Modified header is invalid")
  else do
    let expiration ← expires sdk response.headers now
    let cache := ⟨cacheVersion, key, expiration, lastModified, forecast⟩
    validateMetCache sdk cache now
    pure cache

/-- Write a cache that was validated, and take it over. -/
def storeCache (location : WeatherLocation F) (cache : MetCache F) :
    MetProgram β F (WeatherSnapshot F) := do
  onDirectory (writeJsonPrivate sdk.json cache)
  modify fun self => { self with cache := some cache }
  pure (weather sdk location .online .fresh cache.forecast none)

/-- What becomes of a response. -/
def handleResponse (location : WeatherLocation F) (key : Text) (now : Nat)
    (existing : Option (MetCache F)) (response : HttpResponse) :
    MetProgram β F (WeatherSnapshot F) :=
  if response.status = 200 ∨ response.status = 203 then
    match newCache sdk key now response with
    | .error e => pure (unavailable sdk location existing .error e.message)
    | .ok cache => storeCache sdk location cache
  else if response.status = 304 then
    match existing with
    | none => throw (invalid "MET returned 304 without a safe cache")
    | some cache =>
        match expires sdk response.headers now with
        | .error e => pure (unavailable sdk location (some cache) .error e.message)
        | .ok value => do
            let cache := { cache with expiresAt := value }
            orThrow (validateMetCache sdk cache now)
            storeCache sdk location cache
  else if response.status = 429 then
    pure (unavailable sdk location existing .offline "MET.no rate limited the request")
  else
    pure (unavailable sdk location existing .error s!"MET.no returned HTTP {response.status}")

/-- The cache in memory, if it is that of the location. -/
def existingCache (self : MetNoProvider β F) (location : WeatherLocation F) :
    Option (MetCache F) :=
  self.cache.filter (·.locationKey = locationKey sdk location.latitude location.longitude)

/-- `snapshot_controlled`, at the time `now`; `transport` is what this call's request returns. -/
def snapshotControlled (location : WeatherLocation F) (now : Nat)
    (transport : HttpRequest → Except String HttpResponse) :
    MetProgram β F (WeatherSnapshot F) := do
  orThrow (validateLocation sdk.number location)
  let self ← get
  let existing := self.existingCache sdk location
  match existing.filter (now < ·.expiresAt) with
  | some cache => pure (weather sdk location .online .fresh cache.forecast none)
  | none =>
      match transport (self.request sdk location existing) with
      | .error error => pure (unavailable sdk location existing .offline error)
      | .ok response =>
          handleResponse sdk location (locationKey sdk location.latitude location.longitude)
            now existing response

end MetNoProvider

end Weather
end SleepySession
