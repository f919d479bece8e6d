import SleepySession.Lib.Transition
import SleepySession.Weather.MetNoRuns
import SleepySession.Weather.NominatimCache

/-!
# Geocoding over whole runs

A query that is accepted, allowed and answered returns its results exactly when
the cache takes the new entry.  Whatever happens, the file can be opened again.
-/

namespace SleepySession
namespace Weather

open Program

variable {β F : Type} {sdk : GeoSdk β F} {queries : Queries F} {key text : Text}
variable {results : List (GeocodingResult F)} {provider provider' : NominatimProvider β F}
variable {monotonicNow : Nat} {transport : HttpRequest → Except IoError HttpResponse}

section Calls

/-- The old cache in memory, and a file that may already have one that was checked. -/
def Kept (sdk : GeoSdk β F) (provider provider' : NominatimProvider β F) : Prop :=
  provider'.cache = provider.cache ∧
    (provider'.directory = provider.directory ∨
      ∃ candidate, validateGeocodeCache sdk candidate = .ok () ∧
        Written sdk.json ⟨cacheVersion, candidate⟩ provider.directory provider'.directory)

/-- A checked cache in memory and in the file. -/
def Took (sdk : GeoSdk β F) (provider' : NominatimProvider β F) : Prop :=
  validateGeocodeCache sdk provider'.cache = .ok () ∧
    sdk.json.size (sdk.json.encode ⟨cacheVersion, provider'.cache⟩) < maxHttpBody ∧
    cacheCell provider'.directory =
      Cell.settled (some (cacheContent sdk.json ⟨cacheVersion, provider'.cache⟩))

/-- A query that is accepted, allowed and asked, with the results that come back. -/
structure Answered (sdk : GeoSdk β F) (provider : NominatimProvider β F) (text : Text)
    (monotonicNow : Nat) (transport : HttpRequest → Except IoError HttpResponse)
    (results : List (GeocodingResult F)) : Prop where
  accepted : refusedQuery (trimText text) = false
  unknown : provider.cache.get? (sdk.lowercase (trimText text)) = none
  allowed : provider.limited monotonicNow = false
  response : ∃ response, transport (provider.request (trimText text)) = .ok response ∧
    response.status = 200 ∧ parseResults sdk response.body = .ok results

theorem geoSound_of_kept (hlawful : sdk.Lawful) (hsound : GeoSound sdk provider)
    (h : Kept sdk provider provider') : GeoSound sdk provider' := by
  obtain ⟨hmemory, hfile⟩ := h
  refine ⟨hmemory ▸ hsound.memory, ?_⟩
  rcases hfile with hsame | ⟨candidate, hvalid, hwritten⟩
  · rw [hsame]
    exact hsound.file
  · exact hwritten.all (geoOpenable_content hlawful hvalid) hsound.file

theorem geoSound_of_took (hlawful : sdk.Lawful) (h : Took sdk provider') :
    GeoSound sdk provider' := by
  obtain ⟨hvalid, hsize, hcell⟩ := h
  refine ⟨hvalid, ?_⟩
  rw [hcell]
  exact (Cell.all_settled _ _).mpr (geoOpenable_content hlawful hvalid hsize)

namespace NominatimProvider

variable {A : Answer ProviderFile β → Prop}

theorem wp_onDirectory {α : Type} (m : CacheIo β α)
    (Q : Post (NominatimProvider β F) IoError α) :
    (onDirectory m).wp A Q provider ↔
      m.wp A
        ⟨fun a files => Q.ok a { provider with directory := files },
          fun e files => Q.error e { provider with directory := files },
          fun files => Q.crashed { provider with directory := files }⟩ provider.directory :=
  wp_zoom_field m Q provider

/-- The results are returned once the cache with them was checked and written. -/
theorem storeResults_wp :
    (storeResults sdk key results).wp A
      ⟨fun returned provider' => returned = results ∧
          provider'.cache = provider.cache.insert key results ∧ Took sdk provider',
        fun _ provider' => Kept sdk provider provider',
        fun provider' => Kept sdk provider provider'⟩ provider := by
  unfold storeResults
  simp only [wp_bind, wp_get, wp_orThrow, wp_onDirectory]
  refine ⟨?_, fun _ _ => ⟨rfl, Or.inl rfl⟩⟩
  intro _ hvalid
  refine wp_mono ?_ ?_ ?_ writeJsonPrivate_wp
  · rintro _ files ⟨hsize, hcell⟩
    exact ⟨rfl, rfl, hvalid, hsize, hcell⟩
  · exact fun _ files hwritten => ⟨rfl, Or.inr ⟨_, hvalid, hwritten⟩⟩
  · exact fun files hwritten => ⟨rfl, Or.inr ⟨_, hvalid, hwritten⟩⟩

/-- A cache that passes its checks and fits is stored unless the process stops. -/
theorem storeResults_neverFails
    (hA : ∀ answer, A answer → Favourable provider.directory answer)
    (hvalid : validateGeocodeCache sdk (provider.cache.insert key results) = .ok ())
    (hsize : sdk.json.size (sdk.json.encode
      ⟨cacheVersion, provider.cache.insert key results⟩) < maxHttpBody) :
    (storeResults sdk key results).wp A SecureDir.neverFails provider := by
  unfold storeResults
  simp only [wp_bind, wp_get]
  refine wp_orThrow_of_ok A hvalid ((wp_onDirectory _ _).mpr ?_)
  exact wp_mono (fun _ _ _ => trivial) (fun _ _ h => h) (fun _ h => h)
    (writeJsonPrivate_neverFails hA hsize)

/-- A query that is known is not asked again. -/
theorem submitControlled_of_cached (haccepted : refusedQuery (trimText text) = false)
    (hcached : provider.cache.get? (sdk.lowercase (trimText text)) = some results)
    (Q : Post (NominatimProvider β F) IoError (List (GeocodingResult F))) :
    (submitControlled sdk text monotonicNow transport).wp A Q provider ↔
      Q.ok results provider := by
  unfold submitControlled
  simp only [haccepted, Bool.false_eq_true, if_false, wp_bind, wp_get, hcached, wp_pure]

/-- All that is left to do with results is to store them. -/
theorem submitControlled_of_answered
    (h : Answered sdk provider text monotonicNow transport results)
    (Q : Post (NominatimProvider β F) IoError (List (GeocodingResult F))) :
    (submitControlled sdk text monotonicNow transport).wp A Q provider ↔
      (storeResults sdk (sdk.lowercase (trimText text)) results).wp A Q
        { provider with lastRequest := some monotonicNow } := by
  obtain ⟨haccepted, hunknown, hallowed, response, hresponse, hstatus, hresults⟩ := h
  unfold submitControlled
  simp only [haccepted, Bool.false_eq_true, if_false, wp_bind, wp_get, hunknown, hallowed,
    wp_modify, hresponse, hstatus, ne_eq, not_true_eq_false, wp_orThrow, hresults]
  constructor
  · exact fun h => h.1 results rfl
  · intro h
    refine ⟨?_, fun _ herror => by cases herror⟩
    rintro _ hsame
    cases hsame
    exact h

/-- The step lemma of a call. -/
theorem submitControlled_wp :
    (submitControlled sdk text monotonicNow transport).wp A
      ⟨fun _ provider' => Kept sdk provider provider' ∨ Took sdk provider',
        fun _ provider' => Kept sdk provider provider',
        fun provider' => Kept sdk provider provider'⟩ provider := by
  have hsame : ∀ lastRequest, Kept sdk provider { provider with lastRequest := lastRequest } :=
    fun _ => ⟨rfl, Or.inl rfl⟩
  unfold submitControlled
  simp only
  split
  · exact hsame _
  simp only [wp_bind, wp_get]
  split
  · exact Or.inl (hsame _)
  split
  · exact hsame _
  simp only [wp_bind, wp_modify]
  split
  · exact hsame _
  split
  · exact hsame _
  simp only [wp_bind, wp_orThrow]
  refine ⟨?_, fun _ _ => hsame _⟩
  intro results _
  refine wp_mono ?_ ?_ ?_ storeResults_wp
  · rintro _ provider' ⟨-, -, htook⟩
    exact Or.inr htook
  · exact fun _ _ hkept => hkept
  · exact fun _ hkept => hkept

end NominatimProvider

end Calls

section Runs

/-- A provider in use, or the file that a process has left behind. -/
inductive GeoState (β F : Type) where
  | running (provider : NominatimProvider β F)
  | closed (files : CacheFiles β)

/-- What may happen to a provider. -/
inductive GeoEvent (β F : Type) where
  | submit (text : Text) (monotonicNow : Nat)
      (transport : HttpRequest → Except IoError HttpResponse)
      (script : List (Answer ProviderFile β))
  | close
  | powerLoss
  | restart (endpoint userAgent : Text) (script : List (Answer ProviderFile β))

variable [Inhabited β]

def geoStep (sdk : GeoSdk β F) : GeoState β F → GeoEvent β F → GeoState β F → Prop
  | .running provider, .submit text monotonicNow transport script, s' =>
      ∃ outcome provider',
        (NominatimProvider.submitControlled sdk text monotonicNow transport).run script
          provider = (outcome, provider') ∧
        ((outcome ≠ .crashed ∧ s' = .running provider') ∨ s' = .closed provider'.directory)
  | .running provider, .close, s' => s' = .closed provider.directory
  | .closed files, .powerLoss, s' => ∃ files', files.Reverts files' ∧ s' = .closed files'
  | .closed files, .restart endpoint userAgent script, s' =>
      ∃ outcome files',
        (NominatimProvider.new sdk endpoint userAgent).run script files = (outcome, files') ∧
        ((∃ provider, outcome = .ok provider ∧ s' = .running provider) ∨ s' = .closed files')
  | _, _, _ => False

/-- The runs of a provider that was opened over any durable file. -/
def geoSystem (sdk : GeoSdk β F) : System (GeoState β F) (GeoEvent β F) where
  initial s :=
    ∃ files files' endpoint userAgent script provider content,
      cacheCell files = Cell.settled content ∧
      (NominatimProvider.new sdk endpoint userAgent).run script files =
        (.ok provider, files') ∧
      s = .running provider
  step := geoStep sdk

variable {files files' : CacheFiles β} {endpoint userAgent : Text}
variable {script : List (Answer ProviderFile β)}
variable {outcome : Outcome IoError (List (GeocodingResult F))}

namespace NominatimProvider

omit [Inhabited β] in
/-- Opening takes over what the file shows, if it passes the checks, and changes nothing. -/
theorem new_wp {A : Answer ProviderFile β → Prop} :
    (new sdk endpoint userAgent).wp A
      ⟨fun provider files' => files' = files ∧ provider.directory = files ∧
          GeoOpenable sdk (cacheCell files).current ∧
          validateGeocodeCache sdk provider.cache = .ok (),
        fun _ files' => files' = files, fun files' => files' = files⟩ files := by
  unfold new
  rw [wp_bind]
  refine wp_mono ?_ ?_ ?_ readJsonIfPresent_wp
  · rintro found files' ⟨rfl, hfound⟩
    simp only [wp_bind, wp_orThrow, wp_get, wp_pure]
    refine ⟨?_, fun _ _ => trivial⟩
    intro queries hcheck
    exact ⟨trivial, trivial, ⟨found, hfound, queries, hcheck⟩, validate_of_checkCache hcheck⟩
  · exact fun _ _ h => h
  · exact fun _ h => h

omit [Inhabited β] in
/-- Opening does not refuse a content that passes the checks. -/
theorem new_neverFails {A : Answer ProviderFile β → Prop}
    (hA : SecureDir.Willing A)
    (h : GeoOpenable sdk (cacheCell files).current) :
    (new sdk endpoint userAgent).wp A SecureDir.neverFails files := by
  obtain ⟨found, hfound, queries, hcheck⟩ := h
  unfold new
  refine readJsonIfPresent_bind_neverFails hA hfound ?_
  rw [wp_bind]
  exact wp_orThrow_of_ok A hcheck trivial

end NominatimProvider

/-- The invariant of all runs. -/
def GeoInvariant (sdk : GeoSdk β F) : GeoState β F → Prop
  | .running provider => GeoSound sdk provider
  | .closed files => (cacheCell files).All (GeoOpenable sdk)

theorem geoSound_new
    (hfile : GeoOpenable sdk (cacheCell files).current →
      (cacheCell files).All (GeoOpenable sdk))
    (hrun : (NominatimProvider.new sdk endpoint userAgent).run script files =
      (.ok provider, files')) :
    GeoSound sdk provider := by
  have hpost := holds_of_run hrun NominatimProvider.new_wp
  obtain ⟨-, hdirectory, hopenable, hmemory⟩ := hpost
  refine ⟨hmemory, ?_⟩
  rw [hdirectory]
  exact hfile hopenable

/-- Opening changes no file, however it ends. -/
theorem geo_new_files {outcome : Outcome IoError (NominatimProvider β F)}
    (hrun : (NominatimProvider.new sdk endpoint userAgent).run script files =
      (outcome, files')) : files' = files := by
  have hpost := holds_of_run hrun NominatimProvider.new_wp
  cases outcome with
  | ok _ => exact hpost.1
  | error _ => exact hpost
  | crashed => exact hpost

/-- However a call ends, memory and file only have what was checked. -/
theorem geoSound_submit (hlawful : sdk.Lawful) (hsound : GeoSound sdk provider)
    (hrun : (NominatimProvider.submitControlled sdk text monotonicNow transport).run script
      provider = (outcome, provider')) :
    GeoSound sdk provider' := by
  have hpost := holds_of_run hrun NominatimProvider.submitControlled_wp
  cases outcome with
  | ok results =>
      rcases hpost with hkept | htook
      · exact geoSound_of_kept hlawful hsound hkept
      · exact geoSound_of_took hlawful htook
  | error e => exact geoSound_of_kept hlawful hsound hpost
  | crashed => exact geoSound_of_kept hlawful hsound hpost

theorem geoInvariant_step {s s' : GeoState β F} {event : GeoEvent β F}
    (hlawful : sdk.Lawful)
    (h : GeoInvariant sdk s)
    (hstep : geoStep sdk s event s') :
    GeoInvariant sdk s' := by
  cases s with
  | running provider =>
      cases event with
      | submit text monotonicNow transport script =>
          obtain ⟨outcome, provider', hrun, hnext⟩ := hstep
          have hsound' := geoSound_submit hlawful h hrun
          rcases hnext with ⟨-, rfl⟩ | rfl
          · exact hsound'
          · exact hsound'.file
      | close =>
          cases hstep
          exact h.file
      | powerLoss => exact hstep.elim
      | restart endpoint userAgent script => exact hstep.elim
  | closed files =>
      cases event with
      | submit text monotonicNow transport script => exact hstep.elim
      | close => exact hstep.elim
      | powerLoss =>
          obtain ⟨files', hreverts, rfl⟩ := hstep
          exact hreverts.all h
      | restart endpoint userAgent script =>
          obtain ⟨outcome, files', hrun, hnext⟩ := hstep
          rcases hnext with ⟨provider, rfl, rfl⟩ | rfl
          · exact geoSound_new (fun _ => h) hrun
          · rw [geo_new_files hrun]
            exact h

theorem geoInvariant_of_reachable {s : GeoState β F} (hlawful : sdk.Lawful)
    (h : (geoSystem sdk).Reachable s) : GeoInvariant sdk s := by
  refine h.invariant ?_ fun _ _ _ => geoInvariant_step hlawful
  rintro s ⟨files, files', endpoint, userAgent, script, provider, content, hcell, hrun, rfl⟩
  refine geoSound_new ?_ hrun
  intro hopenable
  rw [hcell] at hopenable ⊢
  exact (Cell.all_settled _ _).mpr hopenable

/-- What a provider in use guarantees of its next call. -/
structure KeepsWorking (sdk : GeoSdk β F) (provider : NominatimProvider β F) : Prop where
  /-- A query that is known returns what it returned before. -/
  cached : ∀ text monotonicNow transport script results,
    refusedQuery (trimText text) = false →
    provider.cache.get? (sdk.lowercase (trimText text)) = some results →
      (NominatimProvider.submitControlled sdk text monotonicNow transport).run script provider =
        (.ok results, provider)
  /-- With a working file, the results of a new query are returned exactly when the cache takes
  them. -/
  answered : ∀ text monotonicNow transport script results outcome provider',
    Answered sdk provider text monotonicNow transport results →
    (∀ answer ∈ default :: script, Favourable provider.directory answer) →
    (NominatimProvider.submitControlled sdk text monotonicNow transport).run script provider =
        (outcome, provider') →
    outcome ≠ .crashed →
      (outcome = .ok results ↔
        Cacheable sdk provider.cache (sdk.lowercase (trimText text)) results)
  /-- However a call ends, the file it leaves can be opened, also after a loss of power. -/
  reopened : ∀ text monotonicNow transport script outcome provider',
    (NominatimProvider.submitControlled sdk text monotonicNow transport).run script provider =
        (outcome, provider') →
      ∀ files, files = provider'.directory ∨ provider'.directory.Reverts files →
        ∀ endpoint userAgent script',
          (∀ answer ∈ default :: script', answer.fault = .proceed ∨ answer.fault = .crash) →
            ∀ e files', (NominatimProvider.new sdk endpoint userAgent).run script' files ≠
              (.error e, files')

theorem geo_new_ne_error {e : IoError}
    (h : GeoOpenable sdk (cacheCell files).current)
    (hwilling : ∀ answer ∈ default :: script, answer.fault = .proceed ∨ answer.fault = .crash) :
    (NominatimProvider.new sdk endpoint userAgent).run script files ≠ (.error e, files') := by
  intro hrun
  exact holds_of_allowed_run (hwilling default List.mem_cons_self)
    (fun answer h => hwilling answer (List.mem_cons_of_mem _ h)) hrun
    (NominatimProvider.new_neverFails (fun _ h => h) h)

/-- An answered query returns its results exactly when the cache takes them. -/
theorem answered_ok_iff (hvalid : validateGeocodeCache sdk provider.cache = .ok ())
    (hanswered : Answered sdk provider text monotonicNow transport results)
    (hfavourable : ∀ answer ∈ default :: script, Favourable provider.directory answer)
    (hrun : (NominatimProvider.submitControlled sdk text monotonicNow transport).run script
      provider = (outcome, provider'))
    (hcrashed : outcome ≠ .crashed) :
    outcome = .ok results ↔
      Cacheable sdk provider.cache (sdk.lowercase (trimText text)) results := by
  obtain ⟨response, -, -, hresults⟩ := hanswered.response
  rw [cacheable_iff hvalid hanswered.unknown hresults]
  have hpost := holds_of_run hrun
    ((NominatimProvider.submitControlled_of_answered hanswered _).mpr
      NominatimProvider.storeResults_wp)
  constructor
  · rintro rfl
    obtain ⟨-, hcache, hchecked, hsize, -⟩ := hpost
    rw [hcache] at hchecked hsize
    exact ⟨hchecked, hsize⟩
  · rintro ⟨hchecked, hsize⟩
    have hnever := holds_of_allowed_run (hfavourable default List.mem_cons_self)
      (fun answer h => hfavourable answer (List.mem_cons_of_mem _ h)) hrun
      ((NominatimProvider.submitControlled_of_answered hanswered _).mpr
        (NominatimProvider.storeResults_neverFails (fun _ h => h) hchecked hsize))
    cases outcome with
    | ok returned => exact congrArg _ hpost.1
    | error e => exact hnever.elim
    | crashed => exact absurd rfl hcrashed

/-- In every run, a query fails only when the cache does not take its results. -/
theorem geocoding_keeps_working_iff (sdk : GeoSdk β F) (hlawful : sdk.Lawful)
    {provider : NominatimProvider β F} (h : (geoSystem sdk).Reachable (.running provider)) :
    KeepsWorking sdk provider := by
  have hsound : GeoSound sdk provider := geoInvariant_of_reachable hlawful h
  refine ⟨?_, ?_, ?_⟩
  · intro text monotonicNow transport script results haccepted hcached
    rcases hrun : (NominatimProvider.submitControlled sdk text monotonicNow transport).run script
      provider with ⟨outcome, provider'⟩
    have hpost := holds_of_run hrun
      ((NominatimProvider.submitControlled_of_cached haccepted hcached
        ⟨fun returned provider' => returned = results ∧ provider' = provider,
          fun _ _ => False, fun _ => False⟩).mpr ⟨rfl, rfl⟩)
    cases outcome with
    | ok returned =>
        obtain ⟨rfl, rfl⟩ := hpost
        rfl
    | error e => exact hpost.elim
    | crashed => exact hpost.elim
  · intro text monotonicNow transport script results outcome provider' hanswered hfavourable
      hrun hcrashed
    exact answered_ok_iff hsound.memory hanswered hfavourable hrun hcrashed
  · intro text monotonicNow transport script outcome provider' hrun files hfiles endpoint
      userAgent script' hwilling e files'
    have hsound' := geoSound_submit hlawful hsound hrun
    have hopenable : (cacheCell files).All (GeoOpenable sdk) := by
      rcases hfiles with rfl | hreverts
      · exact hsound'.file
      · exact hreverts.all hsound'.file
    exact geo_new_ne_error hopenable.current hwilling

end Runs

section Sample

/-- The length of results in JSON, for texts without escapes. -/
def resultsSize (results : List (GeocodingResult Int)) : Nat :=
  (results.map fun result => 65 + result.displayName.byteLength +
    (integerText result.latitude).length + (integerText result.longitude).length +
    result.attribution.byteLength).sum - min results.length 1

/-- The length of a cache in JSON, for texts without escapes. -/
def geocodeCacheSize (document : GeocodeCache Int) : Nat :=
  31 + digits document.schemaVersion.toNat +
    (document.queries.entries.map fun entry =>
      6 + entry.1.byteLength + resultsSize entry.2).sum -
    min document.queries.entries.length 1

/-- Lowercasing of ASCII and of the capital letter I with a dot, which becomes two characters. -/
def sampleLowercase (text : Text) : Text :=
  text.flatMap fun c =>
    if c = Char.ofNat 0x130 then ['i', Char.ofNat 0x307] else [c.toLower]

/-- Libraries for one response. -/
def sampleGeo : GeoSdk (Option (GeocodeCache Int) × Nat) Int where
  number := wholeNumbers
  json := contentJson geocodeCacheSize
  parseBody body :=
    if body = sampleBody then some [⟨"Oslo".toList, "60".toList, "11".toList⟩] else none
  lowercase := sampleLowercase

theorem sampleGeo_lawful : sampleGeo.Lawful := by
  refine fun document _ => ⟨document, rfl, rfl, rfl, ?_⟩
  intro entry hentry
  exact ⟨entry, hentry, rfl, List.forall₂_same.mpr fun _ _ => ⟨rfl, rfl, fun _ => rfl⟩⟩

/-- A provider without a cache. -/
def sampleNominatim : NominatimProvider (Option (GeocodeCache Int) × Nat) Int :=
  ⟨⟨fun _ _ => Cell.settled none⟩, "https://geocoding.invalid".toList,
    "session (admin@host)".toList, none, Table.empty⟩

theorem sampleNominatim_reachable :
    (geoSystem sampleGeo).Reachable (.running sampleNominatim) :=
  .initial ⟨sampleNominatim.directory, sampleNominatim.directory, sampleNominatim.endpoint,
    sampleNominatim.userAgent, [], sampleNominatim, none, rfl, rfl, rfl⟩

/-- A hundred capital letters I with a dot: 200 bytes, and 300 when they are lowercased. -/
def dottedQuery : Text :=
  List.replicate 100 (Char.ofNat 0x130)

def sampleTransport (_ : HttpRequest) : Except IoError HttpResponse :=
  .ok ⟨200, [], sampleBody⟩

/-- The provider after a query that was answered. -/
def sampleSubmit :
    Outcome IoError (List (GeocodingResult Int)) ×
      NominatimProvider (Option (GeocodeCache Int) × Nat) Int :=
  (NominatimProvider.submitControlled sampleGeo "Oslo".toList 5000 sampleTransport).run []
    sampleNominatim

theorem sampleSubmit_stored :
    (sampleSubmit.1.get?.map (·.length), sampleSubmit.2.cache.entries.map (·.1)) =
      (some 1, ["oslo".toList]) := by
  decide

theorem sampleSubmit_reachable :
    (geoSystem sampleGeo).Reachable (.running sampleSubmit.2) := by
  have hstored := congrArg Prod.fst sampleSubmit_stored
  refine .step (e := .submit "Oslo".toList 5000 sampleTransport []) sampleNominatim_reachable
    ⟨sampleSubmit.1, sampleSubmit.2, rfl, Or.inl ⟨?_, rfl⟩⟩
  intro hcrashed
  rw [hcrashed] at hstored
  cases hstored

theorem geocoding_keeps_working_sample :
    sampleSubmit.2.cache.entries.map (·.1) = ["oslo".toList] ∧
      KeepsWorking sampleGeo sampleSubmit.2 :=
  ⟨congrArg Prod.snd sampleSubmit_stored,
    geocoding_keeps_working_iff sampleGeo sampleGeo_lawful sampleSubmit_reachable⟩

theorem dottedQuery_answered :
    Answered sampleGeo sampleNominatim dottedQuery 5000 sampleTransport
      [⟨"Oslo".toList, 60, 11, geocodingAttribution⟩] :=
  ⟨by decide, rfl, rfl, ⟨200, [], sampleBody⟩, rfl, rfl, rfl⟩

theorem dottedQuery_not_cacheable :
    ¬ Cacheable sampleGeo sampleNominatim.cache (sampleGeo.lowercase (trimText dottedQuery))
      [⟨"Oslo".toList, 60, 11, geocodingAttribution⟩] := by
  intro h
  have hrefused : refusedQuery (sampleGeo.lowercase (trimText dottedQuery)) = true := by
    decide +kernel
  rw [h.normal.2.2] at hrefused
  cases hrefused

/-- An unusual letter case makes a valid query fail, although nothing is in the cache and no
system call fails. -/
theorem valid_query_fails :
    ¬ ∀ (provider : NominatimProvider (Option (GeocodeCache Int) × Nat) Int) (text : Text)
        (monotonicNow : Nat) (transport : HttpRequest → Except IoError HttpResponse)
        (script : List (Answer ProviderFile (Option (GeocodeCache Int) × Nat)))
        (results : List (GeocodingResult Int)),
      (geoSystem sampleGeo).Reachable (.running provider) →
      Answered sampleGeo provider text monotonicNow transport results →
      (∀ answer ∈ default :: script, answer.fault = .proceed ∧
        (provider.directory () (.temporary .cache answer.uuid)).current = none) →
        ((NominatimProvider.submitControlled sampleGeo text monotonicNow transport).run script
          provider).1 = .ok results := by
  intro hclaim
  have hproceeds : ∀ answer : Answer ProviderFile (Option (GeocodeCache Int) × Nat),
      answer ∈ [default] → answer.fault = .proceed ∧
      (sampleNominatim.directory () (.temporary .cache answer.uuid)).current = none := by
    intro answer hanswer
    rw [List.mem_singleton] at hanswer
    subst hanswer
    exact ⟨rfl, rfl⟩
  have hreturned := hclaim sampleNominatim dottedQuery 5000 sampleTransport [] _
    sampleNominatim_reachable dottedQuery_answered hproceeds
  cases hrun : (NominatimProvider.submitControlled sampleGeo dottedQuery 5000
      sampleTransport).run [] sampleNominatim with
  | mk outcome provider' =>
      rw [hrun] at hreturned
      simp only at hreturned
      have hcacheable := answered_ok_iff rfl dottedQuery_answered
        (fun answer h => ⟨Or.inl (hproceeds answer h).1, (hproceeds answer h).2⟩) hrun
        (by simp [hreturned])
      exact dottedQuery_not_cacheable (hcacheable.mp hreturned)

end Sample

end Weather
end SleepySession
