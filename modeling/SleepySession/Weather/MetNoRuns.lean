import SleepySession.Lib.Transition
import SleepySession.Weather.MetNoCache

/-!
# The weather cache over whole runs

Calls with any responses of the server, failing writes, crashes, losses of power
and restarts, at times that do not go back.  The cache only ever changes to one
that was accepted, and whatever the file shows can be opened again.
-/

namespace SleepySession
namespace Weather

open Program

variable {β F : Type} {sdk : MetSdk β F} {cache : MetCache F} {now last later : Nat}
variable {provider provider' : MetNoProvider β F} {location : WeatherLocation F}
variable {transport : HttpRequest → Except String HttpResponse}

section Calls

/-- The cache that an accepted response makes; there is none without a request. -/
def acceptedCache (sdk : MetSdk β F) (provider : MetNoProvider β F)
    (location : WeatherLocation F) (now : Nat)
    (transport : HttpRequest → Except String HttpResponse) : Option (MetCache F) :=
  let existing := provider.existingCache sdk location
  if validateLocation sdk.number location ≠ .ok () ∨
      (existing.filter (now < ·.expiresAt)).isSome = true then
    none
  else
    match transport (provider.request sdk location existing) with
    | .error _ => none
    | .ok response =>
        if response.status = 200 ∨ response.status = 203 then
          (MetNoProvider.newCache sdk (locationKey sdk location.latitude location.longitude)
            now response).toOption
        else if response.status = 304 then
          match existing, expires sdk response.headers now with
          | some cache, .ok value => some { cache with expiresAt := value }
          | _, _ => none
        else
          none

/-- A response that says that nothing has changed, where there is nothing. -/
def UnmatchedNotModified (sdk : MetSdk β F) (provider : MetNoProvider β F)
    (location : WeatherLocation F)
    (transport : HttpRequest → Except String HttpResponse) : Prop :=
  provider.existingCache sdk location = none ∧
    ∃ response, transport (provider.request sdk location none) = .ok response ∧
      response.status = 304

/-- The cached forecast, marked stale, or nothing at all. -/
def Fallback (location : WeatherLocation F) (existing : Option (MetCache F))
    (snapshot : WeatherSnapshot F) : Prop :=
  snapshot.location = location ∧ snapshot.status ≠ .online ∧ snapshot.diagnostic.isSome = true ∧
    match existing with
    | none => snapshot.cache = .missing ∧ snapshot.forecast = []
    | some cache => snapshot.cache = .stale ∧ snapshot.forecast = cache.forecast

/-- A forecast from the cache that has not expired. -/
def Current (sdk : MetSdk β F) (location : WeatherLocation F) (now : Nat)
    (existing : Option (MetCache F)) (snapshot : WeatherSnapshot F) : Prop :=
  ∃ cache, existing = some cache ∧ now < cache.expiresAt ∧
    snapshot = weather sdk location .online .fresh cache.forecast none

theorem fallback_unavailable {existing : Option (MetCache F)} {status : ProviderStatus}
    {message : String} (hstatus : status ≠ .online) :
    Fallback location existing (unavailable sdk location existing status message) := by
  cases existing with
  | none => exact ⟨rfl, hstatus, rfl, rfl, rfl⟩
  | some cache => exact ⟨rfl, hstatus, rfl, rfl, rfl⟩

theorem newCache_eq_ok {key : Text} {response : HttpResponse}
    (h : MetNoProvider.newCache sdk key now response = .ok cache) :
    Accepted sdk now cache ∧ cache.locationKey = key := by
  unfold MetNoProvider.newCache at h
  obtain ⟨forecast, -, h⟩ := Checks.bind_eq_ok_iff.mp h
  simp only at h
  split at h
  · cases h
  obtain ⟨expiration, -, h⟩ := Checks.bind_eq_ok_iff.mp h
  obtain ⟨_, hvalid, h⟩ := Checks.bind_eq_ok_iff.mp h
  cases h
  exact ⟨⟨rfl, hvalid⟩, rfl⟩

theorem existingCache_eq_some
    (h : provider.existingCache sdk location = some cache) :
    provider.cache = some cache ∧
      cache.locationKey = locationKey sdk location.latitude location.longitude := by
  obtain ⟨hcache, hkey⟩ := Option.filter_eq_some_iff.mp h
  exact ⟨hcache, of_decide_eq_true hkey⟩

/-- What a call may do, by how it ends. -/
def callPost (sdk : MetSdk β F) (provider : MetNoProvider β F) (location : WeatherLocation F)
    (now : Nat) (transport : HttpRequest → Except String HttpResponse) :
    Post (MetNoProvider β F) IoError (WeatherSnapshot F) where
  ok snapshot provider' :=
    match acceptedCache sdk provider location now transport with
    | none => provider' = provider ∧
        (Current sdk location now (provider.existingCache sdk location) snapshot ∨
          Fallback location (provider.existingCache sdk location) snapshot)
    | some cache => snapshot = weather sdk location .online .fresh cache.forecast none ∧
        provider'.cache = some cache ∧
        sdk.json.size (sdk.json.encode cache) < maxHttpBody ∧
        cacheCell provider'.directory = Cell.settled (some (cacheContent sdk.json cache))
  error e provider' :=
    match acceptedCache sdk provider location now transport with
    | none => provider' = provider ∧
        (validateLocation sdk.number location = .error e ∨
          UnmatchedNotModified sdk provider location transport)
    | some cache => provider'.cache = provider.cache ∧
        Written sdk.json cache provider.directory provider'.directory
  crashed provider' :=
    match acceptedCache sdk provider location now transport with
    | none => provider' = provider
    | some cache => provider'.cache = provider.cache ∧
        Written sdk.json cache provider.directory provider'.directory

variable {A : Answer ProviderFile β → Prop}

theorem wp_onDirectory {α : Type} (m : CacheIo β α) (Q : Post (MetNoProvider β F) IoError α) :
    (MetNoProvider.onDirectory m).wp A Q provider ↔
      m.wp A
        ⟨fun a files => Q.ok a { provider with directory := files },
          fun e files => Q.error e { provider with directory := files },
          fun files => Q.crashed { provider with directory := files }⟩ provider.directory :=
  wp_zoom_field m Q provider

/-- A cache is written before it is taken over. -/
theorem storeCache_wp {Q : Post (MetNoProvider β F) IoError (WeatherSnapshot F)}
    (hok : ∀ files, sdk.json.size (sdk.json.encode cache) < maxHttpBody →
      cacheCell files = Cell.settled (some (cacheContent sdk.json cache)) →
        Q.ok (weather sdk location .online .fresh cache.forecast none)
          { provider with directory := files, cache := some cache })
    (hcut : ∀ files, Written sdk.json cache provider.directory files →
      (∀ e, Q.error e { provider with directory := files }) ∧
        Q.crashed { provider with directory := files }) :
    (MetNoProvider.storeCache sdk location cache).wp A Q provider := by
  unfold MetNoProvider.storeCache
  rw [wp_bind, wp_onDirectory]
  refine wp_mono ?_ ?_ ?_ writeJsonPrivate_wp
  · rintro _ files ⟨hsize, hcell⟩
    exact hok files hsize hcell
  · exact fun e files hwritten => (hcut files hwritten).1 e
  · exact fun files hwritten => (hcut files hwritten).2

/-- The step lemma of a call. -/
theorem snapshotControlled_wp (hsound : Sound sdk now provider) :
    (MetNoProvider.snapshotControlled sdk location now transport).wp A
      (callPost sdk provider location now transport) provider := by
  -- a cache that is stored is the accepted one
  have hstore : ∀ cache,
      acceptedCache sdk provider location now transport = some cache →
        (MetNoProvider.storeCache sdk location cache).wp A
          (callPost sdk provider location now transport) provider := by
    intro cache haccepted
    refine storeCache_wp ?_ ?_
    · intro files hsize hcell
      simp only [callPost, haccepted]
      exact ⟨trivial, trivial, hsize, hcell⟩
    · intro files hwritten
      simp only [callPost, haccepted]
      exact ⟨fun _ => ⟨trivial, hwritten⟩, trivial, hwritten⟩
  have hfallback : ∀ status message, status ≠ ProviderStatus.online →
      acceptedCache sdk provider location now transport = none →
        (callPost sdk provider location now transport).ok
          (unavailable sdk location (provider.existingCache sdk location) status message)
          provider := by
    intro status message hstatus hnone
    simp only [callPost, hnone]
    exact ⟨trivial, Or.inr (fallback_unavailable hstatus)⟩
  unfold MetNoProvider.snapshotControlled
  simp only [wp_bind, wp_orThrow, wp_get]
  refine ⟨?_, ?_⟩
  swap
  · intro e hinvalid
    have hnone : acceptedCache sdk provider location now transport = none := by
      unfold acceptedCache
      rw [if_pos (Or.inl (by simp [hinvalid]))]
    simp only [callPost, hnone]
    exact ⟨trivial, Or.inl hinvalid⟩
  intro _ hvalid
  cases hfresh : (provider.existingCache sdk location).filter (now < ·.expiresAt) with
  | some cache =>
      have hnone : acceptedCache sdk provider location now transport = none := by
        unfold acceptedCache
        rw [if_pos (Or.inr (by rw [hfresh]; rfl))]
      obtain ⟨hexisting, hexpires⟩ := Option.filter_eq_some_iff.mp hfresh
      simp only [wp_pure, callPost, hnone]
      exact ⟨trivial, Or.inl ⟨cache, hexisting, of_decide_eq_true hexpires, rfl⟩⟩
  | none =>
      have hrequest : ¬ (validateLocation sdk.number location ≠ .ok () ∨
          ((provider.existingCache sdk location).filter (now < ·.expiresAt)).isSome = true) := by
        rw [hfresh, hvalid]
        simp
      have hunfold : acceptedCache sdk provider location now transport = _ := if_neg hrequest
      simp only
      cases hresponse :
          transport (provider.request sdk location (provider.existingCache sdk location)) with
      | error error =>
          rw [hresponse] at hunfold
          exact hfallback _ _ (by simp) hunfold
      | ok response =>
          rw [hresponse] at hunfold
          simp only at hunfold ⊢
          unfold MetNoProvider.handleResponse
          split
          · rename_i hstatus
            rw [if_pos hstatus] at hunfold
            split
            · rename_i e hnew
              rw [hnew] at hunfold
              exact hfallback _ _ (by simp) hunfold
            · rename_i cache hnew
              rw [hnew] at hunfold
              exact hstore cache hunfold
          rename_i hstatus
          rw [if_neg hstatus] at hunfold
          split
          · rename_i hnotModified
            rw [if_pos hnotModified] at hunfold
            cases hexisting : provider.existingCache sdk location with
            | none =>
                rw [hexisting] at hunfold
                simp only [wp_throw, callPost, hunfold]
                rw [hexisting] at hresponse
                exact ⟨trivial, Or.inr ⟨hexisting, response, hresponse, hnotModified⟩⟩
            | some cache =>
                simp only
                cases hexpires : expires sdk response.headers now with
                | error e =>
                    rw [hexisting, hexpires] at hunfold
                    have hok := hfallback .error e.message (by simp) hunfold
                    rw [hexisting] at hok
                    exact hok
                | ok value =>
                    rw [hexisting, hexpires] at hunfold
                    have haccepted := hsound.memory cache (existingCache_eq_some hexisting).1
                    simp only [wp_bind]
                    refine wp_orThrow_of_ok A
                      (validateMetCache_expires (expires_le hexpires) haccepted.2) ?_
                    exact hstore _ hunfold
          rename_i hnotModified
          rw [if_neg hnotModified] at hunfold
          split
          · exact hfallback _ _ (by simp) hunfold
          · exact hfallback _ _ (by simp) hunfold

/-- An accepted cache was checked, and it is that of the location. -/
theorem accepted_acceptedCache (hsound : Sound sdk now provider)
    (h : acceptedCache sdk provider location now transport = some cache) :
    Accepted sdk now cache ∧
      cache.locationKey = locationKey sdk location.latitude location.longitude := by
  unfold acceptedCache at h
  simp only at h
  split at h
  · cases h
  split at h
  · cases h
  rename_i response hresponse
  split at h
  · cases hnew : MetNoProvider.newCache sdk
        (locationKey sdk location.latitude location.longitude) now response with
    | error e =>
        rw [hnew] at h
        cases h
    | ok found =>
        rw [hnew] at h
        cases h
        exact newCache_eq_ok hnew
  split at h
  · split at h
    · rename_i old value hexisting hexpires
      cases h
      obtain ⟨hmemory, hkey⟩ := existingCache_eq_some hexisting
      have haccepted := hsound.memory old hmemory
      exact ⟨⟨haccepted.1, validateMetCache_expires (expires_le hexpires) haccepted.2⟩, hkey⟩
    · cases h
  · cases h

theorem openable_content (hlawful : sdk.Lawful)
    (haccepted : Accepted sdk now cache)
    (hsize : sdk.json.size (sdk.json.encode cache) < maxHttpBody) :
    Openable sdk now (some (cacheContent sdk.json cache)) := by
  obtain ⟨found, hfound, hcheck⟩ :=
    found_of_validateMetCache hlawful hsize haccepted.1 haccepted.2
  exact ⟨some found, ⟨found, hfound, rfl⟩, hcheck⟩

variable {outcome : Outcome IoError (WeatherSnapshot F)}

/-- Whatever a call does, memory and file only have what was accepted. -/
theorem sound_of_callPost (hlawful : sdk.Lawful) (hsound : Sound sdk now provider)
    (h : (callPost sdk provider location now transport).holds (outcome, provider')) :
    Sound sdk now provider' := by
  cases haccepted : acceptedCache sdk provider location now transport with
  | none =>
      have hsame : provider' = provider := by
        cases outcome <;> simp only [Post.holds, callPost, haccepted] at h
        · exact h.1
        · exact h.1
        · exact h
      rw [hsame]
      exact hsound
  | some cache =>
      have hcache := (accepted_acceptedCache hsound haccepted).1
      have hwritten : ∀ {p : MetNoProvider β F}, p.cache = provider.cache →
          Written sdk.json cache provider.directory p.directory → Sound sdk now p := by
        intro p hmemory hfile
        refine ⟨fun found hfound => hsound.memory found (hmemory ▸ hfound), ?_⟩
        exact hfile.all (openable_content hlawful hcache) hsound.file
      cases outcome with
      | ok snapshot =>
          simp only [Post.holds, callPost, haccepted] at h
          obtain ⟨-, hmemory, hsize, hcell⟩ := h
          refine ⟨?_, ?_⟩
          · intro found hfound
            rw [hmemory] at hfound
            cases hfound
            exact hcache
          · rw [hcell]
            exact (Cell.all_settled _ _).mpr (openable_content hlawful hcache hsize)
      | error e =>
          simp only [Post.holds, callPost, haccepted] at h
          exact hwritten h.1 h.2
      | crashed =>
          simp only [Post.holds, callPost, haccepted] at h
          exact hwritten h.1 h.2

end Calls

section Runs

/-- A provider in use, or the file that a process has left behind, and the latest time read. -/
inductive MetState (β F : Type) where
  | running (provider : MetNoProvider β F) (last : Nat)
  | closed (files : CacheFiles β) (last : Nat)

/-- What may happen to a provider; a time is what the clock says then. -/
inductive MetEvent (β F : Type) where
  | snapshot (location : WeatherLocation F) (now : Nat)
      (transport : HttpRequest → Except String HttpResponse)
      (script : List (Answer ProviderFile β))
  | close
  | powerLoss
  | restart (endpoint userAgent : Text) (now : Nat) (script : List (Answer ProviderFile β))

variable [Inhabited β]

/-- The steps of a provider; the clock does not go back. -/
def metStep (sdk : MetSdk β F) : MetState β F → MetEvent β F → MetState β F → Prop
  | .running provider last, .snapshot location now transport script, s' =>
      last ≤ now ∧ ∃ outcome provider',
        (MetNoProvider.snapshotControlled sdk location now transport).run script provider =
          (outcome, provider') ∧
        ((outcome ≠ .crashed ∧ s' = .running provider' now) ∨
          s' = .closed provider'.directory now)
  | .running provider last, .close, s' => s' = .closed provider.directory last
  | .closed files last, .powerLoss, s' =>
      ∃ files', files.Reverts files' ∧ s' = .closed files' last
  | .closed files last, .restart endpoint userAgent now script, s' =>
      last ≤ now ∧ ∃ outcome files',
        (MetNoProvider.new sdk endpoint userAgent now).run script files = (outcome, files') ∧
        ((∃ provider, outcome = .ok provider ∧ s' = .running provider now) ∨
          s' = .closed files' now)
  | _, _, _ => False

/-- The runs of a provider that was opened over any durable file. -/
def metSystem (sdk : MetSdk β F) : System (MetState β F) (MetEvent β F) where
  initial s :=
    ∃ files files' endpoint userAgent now script provider content,
      cacheCell files = Cell.settled content ∧
      (MetNoProvider.new sdk endpoint userAgent now).run script files =
        (.ok provider, files') ∧
      s = .running provider now
  step := metStep sdk

variable {files files' : CacheFiles β} {endpoint userAgent : Text}
variable {script : List (Answer ProviderFile β)}

omit [Inhabited β] in
/-- Opening takes over what the file shows, if it is accepted, and changes nothing. -/
theorem new_wp {A : Answer ProviderFile β → Prop} :
    (MetNoProvider.new sdk endpoint userAgent now).wp A
      ⟨fun provider files' => files' = files ∧ provider.directory = files ∧
          Openable sdk now (cacheCell files).current ∧
          ∀ cache, provider.cache = some cache → Accepted sdk now cache,
        fun _ files' => files' = files, fun files' => files' = files⟩ files := by
  unfold MetNoProvider.new
  rw [wp_bind]
  refine wp_mono ?_ ?_ ?_ readJsonIfPresent_wp
  · rintro found files' ⟨rfl, hfound⟩
    simp only [wp_bind, wp_orThrow, wp_get, wp_pure]
    refine ⟨?_, fun _ _ => trivial⟩
    intro _ hcheck
    refine ⟨trivial, trivial, ⟨found, hfound, hcheck⟩, ?_⟩
    rintro cache rfl
    exact accepted_of_checkCache hcheck
  · exact fun _ _ h => h
  · exact fun _ h => h

omit [Inhabited β] in
/-- Opening does not refuse an acceptable content. -/
theorem new_neverFails {A : Answer ProviderFile β → Prop}
    (hA : SecureDir.Willing A)
    (h : Openable sdk now (cacheCell files).current) :
    (MetNoProvider.new sdk endpoint userAgent now).wp A SecureDir.neverFails files := by
  obtain ⟨found, hfound, hcheck⟩ := h
  unfold MetNoProvider.new
  refine readJsonIfPresent_bind_neverFails hA hfound ?_
  rw [wp_bind]
  exact wp_orThrow_of_ok A hcheck trivial

/-- The invariant of all runs. -/
def MetInvariant (sdk : MetSdk β F) : MetState β F → Prop
  | .running provider last => Sound sdk last provider
  | .closed files last => (cacheCell files).All (Openable sdk last)

theorem sound_new
    (hfile : Openable sdk now (cacheCell files).current →
      (cacheCell files).All (Openable sdk now))
    (hrun : (MetNoProvider.new sdk endpoint userAgent now).run script files =
      (.ok provider, files')) :
    Sound sdk now provider := by
  have hpost := holds_of_run hrun new_wp
  obtain ⟨-, hdirectory, hopenable, hmemory⟩ := hpost
  refine ⟨hmemory, ?_⟩
  rw [hdirectory]
  exact hfile hopenable

theorem call_holds (hsound : Sound sdk now provider)
    (hrun : (MetNoProvider.snapshotControlled sdk location now transport).run script provider =
      (outcome, provider')) :
    (callPost sdk provider location now transport).holds (outcome, provider') := by
  exact holds_of_run hrun (snapshotControlled_wp hsound)

theorem metInvariant_step {s s' : MetState β F} {event : MetEvent β F}
    (hlawful : sdk.Lawful)
    (h : MetInvariant sdk s)
    (hstep : metStep sdk s event s') :
    MetInvariant sdk s' := by
  cases s with
  | running provider last =>
      cases event with
      | snapshot location now transport script =>
          obtain ⟨hnow, outcome, provider', hrun, hnext⟩ := hstep
          have hsound := Sound.mono hnow h
          have hsound' := sound_of_callPost hlawful hsound (call_holds hsound hrun)
          rcases hnext with ⟨-, rfl⟩ | rfl
          · exact hsound'
          · exact hsound'.file
      | close =>
          cases hstep
          exact h.file
      | powerLoss => exact hstep.elim
      | restart endpoint userAgent now script => exact hstep.elim
  | closed files last =>
      cases event with
      | snapshot location now transport script => exact hstep.elim
      | close => exact hstep.elim
      | powerLoss =>
          obtain ⟨files', hreverts, rfl⟩ := hstep
          exact hreverts.all h
      | restart endpoint userAgent now script =>
          obtain ⟨hnow, outcome, files', hrun, hnext⟩ := hstep
          have hfile : (cacheCell files).All (Openable sdk now) :=
            Cell.All.mono h fun _ hcontent => hcontent.mono hnow
          rcases hnext with ⟨provider, rfl, rfl⟩ | rfl
          · exact sound_new (fun _ => hfile) hrun
          · have hpost := holds_of_run hrun new_wp
            have hsame : files' = files := by
              cases outcome with
              | ok _ => exact hpost.1
              | error _ => exact hpost
              | crashed => exact hpost
            rw [hsame]
            exact hfile

theorem metInvariant_of_reachable {s : MetState β F} (hlawful : sdk.Lawful)
    (h : (metSystem sdk).Reachable s) : MetInvariant sdk s := by
  refine h.invariant ?_ fun _ _ _ => metInvariant_step hlawful
  rintro s ⟨files, files', endpoint, userAgent, now, script, provider, content, hcell, hrun, rfl⟩
  refine sound_new ?_ hrun
  intro hopenable
  rw [hcell] at hopenable ⊢
  exact (Cell.all_settled _ _).mpr hopenable

/-- What a provider in use guarantees of its next call. -/
structure NeverDegrades (sdk : MetSdk β F) (provider : MetNoProvider β F) (last : Nat) :
    Prop where
  /-- Without an accepted response nothing changes, and the answer is the own forecast: the one
  that has not expired, the stale one, or none. -/
  refused : ∀ location now transport script outcome provider', last ≤ now →
    acceptedCache sdk provider location now transport = none →
    (MetNoProvider.snapshotControlled sdk location now transport).run script provider =
        (outcome, provider') →
      provider' = provider ∧
        ((∃ snapshot, outcome = .ok snapshot ∧
            (Current sdk location now (provider.existingCache sdk location) snapshot ∨
              Fallback location (provider.existingCache sdk location) snapshot)) ∨
          (∃ e, outcome = .error e ∧ (validateLocation sdk.number location = .error e ∨
            UnmatchedNotModified sdk provider location transport)) ∨
          outcome = .crashed)
  /-- A failed write of an accepted cache leaves the one in memory. -/
  unwritten : ∀ location now transport script e provider', last ≤ now →
    acceptedCache sdk provider location now transport ≠ none →
    (MetNoProvider.snapshotControlled sdk location now transport).run script provider =
        (.error e, provider') →
      provider'.cache = provider.cache
  /-- What is stored and returned fresh is the accepted cache, which was checked. -/
  stored : ∀ location now transport script snapshot provider' cache, last ≤ now →
    acceptedCache sdk provider location now transport = some cache →
    (MetNoProvider.snapshotControlled sdk location now transport).run script provider =
        (.ok snapshot, provider') →
      snapshot = weather sdk location .online .fresh cache.forecast none ∧
        provider'.cache = some cache ∧
        cacheCell provider'.directory = Cell.settled (some (cacheContent sdk.json cache)) ∧
        validateMetCache sdk cache now = .ok () ∧
        cache.locationKey = locationKey sdk location.latitude location.longitude
  /-- What is in memory was checked, and would be accepted at any later time. -/
  checked : ∀ cache now, provider.cache = some cache → last ≤ now →
    validateMetCache sdk cache now = .ok ()
  /-- However a call ends, the file it leaves can be opened at any later time. -/
  reopened : ∀ location now transport script outcome provider', last ≤ now →
    (MetNoProvider.snapshotControlled sdk location now transport).run script provider =
        (outcome, provider') →
      ∀ files, files = provider'.directory ∨ provider'.directory.Reverts files →
        ∀ endpoint userAgent later script', now ≤ later →
          (∀ answer ∈ default :: script', answer.fault = .proceed ∨ answer.fault = .crash) →
            ∀ e files', (MetNoProvider.new sdk endpoint userAgent later).run script' files ≠
              (.error e, files')

theorem new_ne_error {later : Nat} {e : IoError}
    (h : Openable sdk later (cacheCell files).current)
    (hwilling : ∀ answer ∈ default :: script, answer.fault = .proceed ∨ answer.fault = .crash) :
    (MetNoProvider.new sdk endpoint userAgent later).run script files ≠ (.error e, files') := by
  intro hrun
  exact holds_of_allowed_run (hwilling default List.mem_cons_self)
    (fun answer h => hwilling answer (List.mem_cons_of_mem _ h)) hrun
    (new_neverFails (fun _ h => h) h)

/-- In no run does the weather cache degrade. -/
theorem weather_cache_never_degrades (sdk : MetSdk β F) (hlawful : sdk.Lawful)
    {provider : MetNoProvider β F} {last : Nat}
    (h : (metSystem sdk).Reachable (.running provider last)) :
    NeverDegrades sdk provider last := by
  have hsound : Sound sdk last provider := metInvariant_of_reachable hlawful h
  refine ⟨?_, ?_, ?_, ?_, ?_⟩
  · intro location now transport script outcome provider' hnow hnone hrun
    have hpost := call_holds (hsound.mono hnow) hrun
    cases outcome with
    | ok snapshot =>
        simp only [Post.holds, callPost, hnone] at hpost
        exact ⟨hpost.1, Or.inl ⟨snapshot, rfl, hpost.2⟩⟩
    | error e =>
        simp only [Post.holds, callPost, hnone] at hpost
        exact ⟨hpost.1, Or.inr (Or.inl ⟨e, rfl, hpost.2⟩)⟩
    | crashed =>
        simp only [Post.holds, callPost, hnone] at hpost
        exact ⟨hpost, Or.inr (Or.inr rfl)⟩
  · intro location now transport script e provider' hnow hsome hrun
    have hpost := call_holds (hsound.mono hnow) hrun
    obtain ⟨cache, haccepted⟩ := Option.ne_none_iff_exists'.mp hsome
    simp only [Post.holds, callPost, haccepted] at hpost
    exact hpost.1
  · intro location now transport script snapshot provider' cache hnow haccepted hrun
    have hpost := call_holds (hsound.mono hnow) hrun
    simp only [Post.holds, callPost, haccepted] at hpost
    obtain ⟨hsnapshot, hmemory, -, hcell⟩ := hpost
    obtain ⟨hvalid, hkey⟩ := accepted_acceptedCache (hsound.mono hnow) haccepted
    exact ⟨hsnapshot, hmemory, hcell, hvalid.2, hkey⟩
  · exact fun cache now hcache hnow => ((hsound.memory cache hcache).mono hnow).2
  · intro location now transport script outcome provider' hnow hrun files hfiles endpoint
      userAgent later script' hlater hwilling e files'
    have hsound' := sound_of_callPost hlawful (hsound.mono hnow)
      (call_holds (hsound.mono hnow) hrun)
    have hopenable : (cacheCell files).All (Openable sdk now) := by
      rcases hfiles with rfl | hreverts
      · exact hsound'.file
      · exact hreverts.all hsound'.file
    exact new_ne_error (hopenable.current.mono hlater) hwilling

end Runs

section Sample

/-- The length of a number in JSON. -/
def digits (n : Nat) : Nat :=
  (Nat.toDigits 10 n).length

def integerText (n : Int) : Text :=
  if n < 0 then '-' :: Nat.toDigits 10 n.natAbs else Nat.toDigits 10 n.natAbs

/-- The length of a cache in JSON, for texts without escapes. -/
def metCacheSize (cache : MetCache Int) : Nat :=
  78 + digits cache.schemaVersion.toNat + cache.locationKey.byteLength + digits cache.expiresAt +
    (cache.lastModified.elim 4 fun value => value.byteLength + 2) +
    (cache.forecast.map fun point => 40 + point.at.byteLength +
      (integerText point.temperatureC).length + point.symbol.byteLength).sum -
    min cache.forecast.length 1

def sampleBody : List UInt8 :=
  "{}".toList.map fun c => .ofNat c.toNat

def samplePoint : MetPoint Int :=
  ⟨some "2026-03-01T12:00:00Z".toList, some 7, some (some "cloudy".toList), none⟩

/-- Whole numbers of degrees. -/
def wholeNumbers : NumberSdk Int where
  isFinite _ := true
  inRange low high value := decide (low ≤ value ∧ value ≤ high)
  formatFixed value := integerText value ++ ".0000".toList
  parseFloat text :=
    if text.head? = some '-' then (parseU64 text.tail).map fun n => -(n : Int)
    else (parseU64 text).map fun n => (n : Int)

/-- Libraries for one response and one date. -/
def sampleMet : MetSdk (Option (MetCache Int) × Nat) Int where
  number := wholeNumbers
  json := contentJson metCacheSize
  parseBody body := if body = sampleBody then some (some [samplePoint]) else none
  parseRfc3339 text := text = "2026-03-01T12:00:00Z".toList
  parseRfc2822 _ := none
  wireSchemaVersion := 1
  validateSnapshot _ := true

theorem sampleMet_lawful : sampleMet.Lawful := by
  refine ⟨?_, fun _ _ _ _ => rfl⟩
  refine fun cache _ _ => ⟨cache, rfl, rfl, rfl, rfl, rfl, ?_⟩
  exact List.forall₂_same.mpr fun _ _ => ⟨rfl, rfl, rfl⟩

def noFiles : CacheFiles (Option (MetCache Int) × Nat) :=
  ⟨fun _ _ => Cell.settled none⟩

/-- A provider without a cache. -/
def sampleProvider : MetNoProvider (Option (MetCache Int) × Nat) Int :=
  ⟨noFiles, "https://weather.invalid".toList, "session (admin@host)".toList, none⟩

theorem sampleProvider_reachable :
    (metSystem sampleMet).Reachable (.running sampleProvider 1000) :=
  .initial ⟨noFiles, noFiles, "https://weather.invalid".toList, "session (admin@host)".toList,
    1000, [], sampleProvider, none, rfl, rfl, rfl⟩

def sampleLocation : WeatherLocation Int :=
  ⟨"Oslo".toList, 60, 11⟩

/-- The provider after a response with a forecast. -/
def sampleCall :
    Outcome IoError (WeatherSnapshot Int) × MetNoProvider (Option (MetCache Int) × Nat) Int :=
  (MetNoProvider.snapshotControlled sampleMet sampleLocation 1000 fun _ =>
    .ok ⟨200, [], sampleBody⟩).run [] sampleProvider

theorem sampleCall_stored :
    (sampleCall.1.get?.map (·.forecast.length), sampleCall.2.cache.map (·.expiresAt)) =
      (some 1, some 1300) := by
  decide

theorem sampleCall_reachable :
    (metSystem sampleMet).Reachable (.running sampleCall.2 1000) := by
  have hstored := congrArg Prod.fst sampleCall_stored
  refine .step (e := .snapshot sampleLocation 1000 (fun _ => .ok ⟨200, [], sampleBody⟩) [])
    sampleProvider_reachable
    ⟨Nat.le_refl _, sampleCall.1, sampleCall.2, rfl, Or.inl ⟨?_, rfl⟩⟩
  intro hcrashed
  rw [hcrashed] at hstored
  cases hstored

theorem weather_cache_never_degrades_sample : NeverDegrades sampleMet sampleCall.2 1000 :=
  weather_cache_never_degrades sampleMet sampleMet_lawful sampleCall_reachable

/-- The server says that nothing has changed, although the provider has nothing. -/
def notModified (_ : HttpRequest) : Except String HttpResponse :=
  .ok ⟨304, [], []⟩

/-- Such a response is not answered with a snapshot at all. -/
theorem unmatched_not_modified_fails :
    ¬ ∀ (provider : MetNoProvider (Option (MetCache Int) × Nat) Int) (last now : Nat)
        (location : WeatherLocation Int)
        (transport : HttpRequest → Except String HttpResponse)
        (script : List (Answer ProviderFile (Option (MetCache Int) × Nat))),
      (metSystem sampleMet).Reachable (.running provider last) → last ≤ now →
      validateLocation sampleMet.number location = .ok () →
      acceptedCache sampleMet provider location now transport = none →
        ((MetNoProvider.snapshotControlled sampleMet location now transport).run script
          provider).1.get?.isSome = true := by
  intro hclaim
  have hanswered := hclaim sampleProvider 1000 1000 sampleLocation notModified []
    (.initial ⟨noFiles, noFiles, "https://weather.invalid".toList,
      "session (admin@host)".toList, 1000, [], sampleProvider, none, rfl, rfl, rfl⟩)
    (Nat.le_refl _) (by decide) rfl
  revert hanswered
  decide

end Sample

end Weather
end SleepySession
