import SleepySession.Notifications.DirectoryRules
import SleepySession.Notifications.StoreRules

/-!
# Recovery of the notification store

What the four files stand for, whatever a loss of power makes of them.  As
long as the journal is certain to be there, the other files do not matter;
where it may be missing, they hold one state.
-/

namespace SleepySession

open Program SecureDirectory SecureDir

/-- What a store commits: the lists and the preferences. -/
structure StoreState where
  active : List NotificationDocument
  archive : List NotificationDocument
  preferences : Preferences
deriving DecidableEq

def NotificationStore.state (s : NotificationStore) : StoreState :=
  ⟨s.active, s.archive, s.preferences⟩

def StoreState.transaction (L : StoreState) (schemaVersion : Nat) : NotificationTransaction :=
  ⟨schemaVersion, L.active, L.archive, L.preferences⟩

/--
The texts that the store writes are read back as what they were made of, if the
counter is a `u64`.
-/
structure NotificationSdk.RoundTrips (sdk : NotificationSdk) : Prop where
  transaction : ∀ L : StoreState,
    sdk.validateDocuments L.active = .ok () → sdk.validateDocuments L.archive = .ok () →
    L.preferences.schemaVersion = sdk.durableSchemaVersion →
    L.preferences.nextNotificationId ≤ maxCounter →
    sdk.parseTransaction (sdk.transactionJson (L.transaction sdk.durableSchemaVersion) ++ "\n") =
      .ok (L.transaction sdk.durableSchemaVersion)
  documents : ∀ documents : List NotificationDocument,
    sdk.validateDocuments documents = .ok () →
    sdk.parseDocuments (sdk.documentsJson ⟨sdk.durableSchemaVersion, documents⟩ ++ "\n") =
      .ok ⟨sdk.durableSchemaVersion, documents⟩
  preferences : ∀ preferences : Preferences,
    preferences.schemaVersion = sdk.durableSchemaVersion →
    preferences.nextNotificationId ≤ maxCounter →
    sdk.parsePreferences (preferences.json ++ "\n") = .ok preferences

namespace StoreState

/-- The preferences that `open_with_limits` makes of those on disk. -/
def openedPreferences (active archive : List NotificationDocument)
    (preferences : Preferences) : Preferences :=
  { preferences with
    nextNotificationId :=
      max preferences.nextNotificationId
        (min (greatestId (notificationIds (active ++ archive)) + 1) maxCounter) }

section States

variable (sdk : NotificationSdk) (limit : Nat)

/-- A state that the checks of `commit_candidate` and of `open_with_limits` accept. -/
structure Storable (L : StoreState) : Prop where
  ids : ValidIds (notificationIds (L.active ++ L.archive))
  fits : sdk.validateAggregate L.active L.archive L.preferences limit = .ok ()
  version : L.preferences.schemaVersion = sdk.durableSchemaVersion
  positive : 0 < L.preferences.nextNotificationId
  bounded : L.preferences.nextNotificationId ≤ maxCounter
  counter : ∀ id ∈ notificationIds (L.active ++ L.archive),
    id < L.preferences.nextNotificationId
  active : sdk.validateDocuments L.active = .ok ()
  archive : sdk.validateDocuments L.archive = .ok ()

/-- What `read_documents` makes of a file. -/
def HoldsDocuments (documents : List NotificationDocument) : Option String → Prop
  | none => documents = []
  | some bytes =>
      bytes.utf8ByteSize ≤ maxDurableFileBytes ∧
        sdk.parseDocuments bytes = .ok ⟨sdk.durableSchemaVersion, documents⟩ ∧
        sdk.validateDocuments documents = .ok ()

/-- What `read_preferences` makes of a file. -/
def HoldsPreferences (preferences : Preferences) : Option String → Prop
  | none => preferences = sdk.defaultPreferences
  | some bytes =>
      bytes.utf8ByteSize ≤ maxDurableFileBytes ∧
        sdk.parsePreferences bytes = .ok preferences ∧
        preferences.schemaVersion = sdk.durableSchemaVersion

/-- A journal from which `reconcile` restores the state. -/
def HoldsTransaction (L : StoreState) : Option String → Prop
  | none => False
  | some bytes =>
      bytes.utf8ByteSize ≤ maxDurableFileBytes ∧
        sdk.parseTransaction bytes = .ok (L.transaction sdk.durableSchemaVersion)

/-- The content of one file in a directory that holds the state. -/
def FileHolds (L : StoreState) : NotificationFile → Option String → Prop
  | .active => HoldsDocuments sdk L.active
  | .archive => HoldsDocuments sdk L.archive
  | .preferences => fun bytes =>
      ∃ preferences, HoldsPreferences sdk preferences bytes ∧
        openedPreferences L.active L.archive preferences = L.preferences
  | .transaction => HoldsTransaction sdk L

/-- The three files of a state show it, also after a loss of power. -/
def KeepsState (L : StoreState) (v : NotificationFiles) : Prop :=
  ∀ name, name ≠ .transaction → (fileCell v name).All (FileHolds sdk L name)

/-- The journal is certain to be there. -/
def Journaled (L : StoreState) (v : NotificationFiles) : Prop :=
  (fileCell v .transaction).torn = [] ∧
    (fileCell v .transaction).All (HoldsTransaction sdk L)

/-- The state is in its three files, whether or not the journal is still there. -/
def Finished (L : StoreState) (v : NotificationFiles) : Prop :=
  KeepsState sdk L v ∧ (fileCell v .transaction).torn = [] ∧
    (fileCell v .transaction).All fun x => x = none ∨ HoldsTransaction sdk L x

/-- What a reader finds is one of the states. -/
structure Consistent (T : StoreState → Prop) (v : NotificationFiles) : Prop where
  torn : (fileCell v .transaction).torn = []
  journals : (fileCell v .transaction).All fun x =>
    x = none ∨ ∃ L, T L ∧ HoldsTransaction sdk L x
  idle : (fileCell v .transaction).current = none → ∃ L, T L ∧ Finished sdk L v

/-- What a reader finds after a loss of power is one of the states, too. -/
def Recoverable (T : StoreState → Prop) (v : NotificationFiles) : Prop :=
  none ∈ (fileCell v .transaction).values → ∃ L, T L ∧ KeepsState sdk L v

end States

section Codec

variable {sdk : NotificationSdk} {limit : Nat} {L : StoreState}

theorem validateAggregate_eq_ok :
    sdk.validateAggregate L.active L.archive L.preferences limit = .ok () ↔
      (sdk.transactionJson (L.transaction sdk.durableSchemaVersion)).utf8ByteSize ≤ limit := by
  unfold NotificationSdk.validateAggregate StoreState.transaction
  split <;> simp
  · omega
  · omega

/-- A text with fewer parts is shorter. -/
theorem shorter_parts
    {start version notifications active archive preferences finish : String}
    {first second third : String}
    (h : notifications.utf8ByteSize ≤ active.utf8ByteSize + archive.utf8ByteSize) :
    (start ++ version ++ notifications ++ first ++ finish).utf8ByteSize ≤
        (start ++ version ++ active ++ first ++ archive ++ second ++ preferences ++ third ++
          finish).utf8ByteSize ∧
      (start ++ version ++ notifications ++ second ++ finish).utf8ByteSize ≤
        (start ++ version ++ active ++ first ++ archive ++ second ++ preferences ++ third ++
          finish).utf8ByteSize ∧
      third.utf8ByteSize ≤
        (start ++ version ++ active ++ first ++ archive ++ second ++ preferences ++ third ++
          finish).utf8ByteSize := by
  simp only [String.utf8ByteSize_append]
  omega

/-- Each file of a state is shorter than its journal. -/
theorem json_shorter
    (active archive : List NotificationDocument) (preferences : Preferences) (version : Nat) :
    (sdk.documentsJson ⟨version, active⟩).utf8ByteSize ≤
        (sdk.transactionJson ⟨version, active, archive, preferences⟩).utf8ByteSize ∧
      (sdk.documentsJson ⟨version, archive⟩).utf8ByteSize ≤
        (sdk.transactionJson ⟨version, active, archive, preferences⟩).utf8ByteSize ∧
      preferences.json.utf8ByteSize ≤
        (sdk.transactionJson ⟨version, active, archive, preferences⟩).utf8ByteSize :=
  shorter_parts (by decide)

/-- Every state that fits the aggregate limit fits the limit of each file. -/
theorem file_fits
    (hlimit : limit < maxDurableFileBytes)
    (h : sdk.validateAggregate L.active L.archive L.preferences limit = .ok ()) :
    (sdk.transactionJson (L.transaction sdk.durableSchemaVersion) ++ "\n").utf8ByteSize ≤
        maxDurableFileBytes ∧
      (sdk.documentsJson ⟨sdk.durableSchemaVersion, L.active⟩ ++ "\n").utf8ByteSize ≤
        maxDurableFileBytes ∧
      (sdk.documentsJson ⟨sdk.durableSchemaVersion, L.archive⟩ ++ "\n").utf8ByteSize ≤
        maxDurableFileBytes ∧
      (L.preferences.json ++ "\n").utf8ByteSize ≤ maxDurableFileBytes := by
  have hfits := validateAggregate_eq_ok.mp h
  obtain ⟨hactive, harchive, hpreferences⟩ := @json_shorter sdk L.active L.archive
    L.preferences sdk.durableSchemaVersion
  have hline : ∀ text : String, text.utf8ByteSize ≤ limit →
      (text ++ "\n").utf8ByteSize ≤ maxDurableFileBytes := by
    intro text htext
    have hnewline : ("\n" : String).utf8ByteSize = 1 := by decide
    rw [String.utf8ByteSize_append, hnewline]
    omega
  exact ⟨hline _ hfits, hline _ (hactive.trans hfits), hline _ (harchive.trans hfits),
    hline _ (hpreferences.trans hfits)⟩

theorem openedPreferences_eq
    (h : ∀ id ∈ notificationIds (L.active ++ L.archive),
      id < L.preferences.nextNotificationId)
    (hpositive : 0 < L.preferences.nextNotificationId) :
    openedPreferences L.active L.archive L.preferences = L.preferences := by
  have hgreatest : greatestId (notificationIds (L.active ++ L.archive)) + 1 ≤
      L.preferences.nextNotificationId := by
    revert h
    generalize notificationIds (L.active ++ L.archive) = ids
    intro h
    induction ids with
    | nil => exact hpositive
    | cons id ids ih =>
        have hid := h id List.mem_cons_self
        have hrest := ih fun other hother => h other (List.mem_cons_of_mem _ hother)
        have hcons : greatestId (id :: ids) = max id (greatestId ids) := rfl
        omega
  have hmax : max L.preferences.nextNotificationId
      (min (greatestId (notificationIds (L.active ++ L.archive)) + 1) maxCounter) =
      L.preferences.nextNotificationId := by
    omega
  unfold openedPreferences
  rw [hmax]

end Codec

end StoreState

end SleepySession
