import SleepySession.Notifications.Commit
import SleepySession.Notifications.ProviderInvariant

/-!
# What the operations of the store mean

Each operation is a function from states to states.  The program of an
operation commits the value of that function, or does nothing: because the
operation is rejected, or because nothing would change.
-/

namespace SleepySession

open Program SecureDirectory

/-- The changes that the store makes to a document. -/
inductive Updated : NotificationDocument → NotificationDocument → Prop where
  | same (n : NotificationDocument) : Updated n n
  | read (n : NotificationDocument) : Updated n { n with read := true }
  | archived (n : NotificationDocument) : Updated n (NotificationStore.markArchived n)
  | expired (n : NotificationDocument) : Updated n (NotificationStore.expireDocument n)

theorem Updated.id
    {n n' : NotificationDocument}
    (h : Updated n n') :
    n'.id = n.id := by
  cases h <;> rfl

/--
The words `true` and `expired` are shorter than `false` and `available`, and
either is accepted.
-/
structure NotificationSdk.Steady (sdk : NotificationSdk) : Prop where
  shorter : ∀ n n', Updated n n' →
    (sdk.documentJson n').utf8ByteSize ≤ (sdk.documentJson n).utf8ByteSize
  accepted : ∀ n n', Updated n n' →
    sdk.validateNotificationDocument (sdk.documentJson n) = .ok () →
      sdk.validateNotificationDocument (sdk.documentJson n') = .ok ()

inductive StoreOperation where
  | push (notification : NotificationDocument)
  | markRead (id : Nat)
  | dismiss (id : Nat)
  | setDnd (enabled : Bool)
  | expireActions (ids : List Nat)
  | expireAllActions
  | purgeArchive

namespace StoreOperation

open NotificationStore

/-- The operation as the store runs it, with the result of a push. -/
def perform (sdk : NotificationSdk) : StoreOperation → NotificationProgram (Option PushResult)
  | .push notification => do
      let result ← NotificationStore.push sdk notification
      pure (some result)
  | .markRead id => do
      NotificationStore.markRead sdk id
      pure none
  | .dismiss id => do
      NotificationStore.dismiss sdk id
      pure none
  | .setDnd enabled => do
      NotificationStore.setDnd sdk enabled
      pure none
  | .expireActions ids => do
      NotificationStore.expireActions sdk ids
      pure none
  | .expireAllActions => do
      NotificationStore.expireAllActions sdk
      pure none
  | .purgeArchive => do
      NotificationStore.purgeArchive sdk
      pure none

/-- The state after a push of a notification that has its identifier. -/
def pushedState (capacity : Nat) (L : StoreState) (notification : NotificationDocument)
    (preferences : Preferences) : StoreState :=
  let active := pushed L.active { notification with archived := false }
  let overflow := active.length - capacity
  ⟨active.drop overflow, L.archive ++ (active.take overflow).map markArchived, preferences⟩

/-- The state that an operation leads to; a rejected operation changes nothing. -/
def apply (capacity : Nat) (L : StoreState) : StoreOperation → StoreState
  | .push notification =>
      match assignId L.preferences notification with
      | .error _ => L
      | .ok (notification, preferences) => pushedState capacity L notification preferences
  | .markRead id =>
      match updateFirst id (fun notification => { notification with read := true }) L.active with
      | none => L
      | some active => { L with active := active }
  | .dismiss id =>
      match takeOut id L.active with
      | none => L
      | some (notification, active) =>
          { L with active := active, archive := L.archive ++ [markArchived notification] }
  | .setDnd enabled => { L with preferences := { L.preferences with dnd := enabled } }
  | .expireActions ids =>
      { L with active := expireIn ids L.active, archive := expireIn ids L.archive }
  | .expireAllActions =>
      { L with active := L.active.map expireDocument, archive := L.archive.map expireDocument }
  | .purgeArchive => { L with archive := [] }

/-- What an operation returns. -/
def result (capacity : Nat) (L : StoreState) : StoreOperation → Option PushResult
  | .push notification =>
      match assignId L.preferences notification with
      | .error _ => none
      | .ok (notification, _) =>
          let active := pushed L.active { notification with archived := false }
          some ⟨notification.id,
            notificationIds ((active.take (active.length - capacity)).map markArchived)⟩
  | _ => none

/-- A pushed notification was checked, with its identifier. -/
def Checked (sdk : NotificationSdk) (L : StoreState) : StoreOperation → Prop
  | .push notification =>
      ∃ pushedDocument preferences,
        assignId L.preferences notification = .ok (pushedDocument, preferences) ∧
        sdk.validateDocument pushedDocument = .ok ()
  | _ => True

/--
A pushed notification passes the check also as it is stored, that is with its
`archived` flag cleared.
-/
def StoredAsChecked (sdk : NotificationSdk) (L : StoreState) : StoreOperation → Prop
  | .push notification =>
      ∀ pushedDocument preferences,
        assignId L.preferences notification = .ok (pushedDocument, preferences) →
        sdk.validateDocument pushedDocument = .ok () →
        sdk.validateDocument { pushedDocument with archived := false } = .ok ()
  | _ => True

/-- An operation that finds nothing to do and returns without a commit. -/
def Idle (L : StoreState) : StoreOperation → Prop
  | .expireActions ids => ids = []
  | .expireAllActions => ∀ n ∈ L.active ++ L.archive, hasAvailableAction n = false
  | _ => False

section Programs

variable {sdk : NotificationSdk} {s : NotificationStore} {α : Type}
variable {A : Answer NotificationFile String → Prop}

/-- The store once a state is committed. -/
def committed (s : NotificationStore) (L : StoreState) (files : NotificationFiles) :
    NotificationStore :=
  { s with
    directory := files
    active := L.active
    archive := L.archive
    preferences := L.preferences }

/-- A commit of the state satisfies the postcondition. -/
def Commits (sdk : NotificationSdk) (A : Answer NotificationFile String → Prop)
    (Q : Post NotificationStore IoError α) (s : NotificationStore) (L : StoreState) (a : α) :
    Prop :=
  ValidIds (notificationIds (L.active ++ L.archive)) →
  sdk.validateAggregate L.active L.archive L.preferences s.aggregateLimit = .ok () →
  (commitFiles sdk L.active L.archive L.preferences).wp A
    ⟨fun _ files => Q.ok a (committed s L files),
      fun e files => Q.error e { s with directory := files },
      fun files => Q.crashed { s with directory := files }⟩ s.directory

theorem wp_commitCandidate
    {Q : Post NotificationStore IoError Unit} {L : StoreState}
    (hrejected : ∀ e, Q.error e s)
    (hcommits : Commits sdk A Q s L ()) :
    (NotificationStore.commitCandidate sdk L.active L.archive L.preferences).wp A Q s := by
  unfold NotificationStore.commitCandidate
  simp only [wp_bind, wp_get, wp_orThrow]
  refine ⟨fun _ hids => ⟨fun _ hfits => ?_, fun e _ => hrejected e⟩, fun e _ => hrejected e⟩
  rw [wp_onDirectory]
  exact hcommits (validateUniqueIds_eq_ok.mp hids) hfits

theorem expireDocument_of_unavailable
    {n : NotificationDocument}
    (h : hasAvailableAction n = false) :
    expireDocument n = n := by
  have hactions : n.actions.map expireAction = n.actions := by
    conv_rhs => rw [← List.map_id n.actions]
    refine List.map_congr_left fun action hmem => ?_
    have hstate : action.state ≠ .available := by
      simpa using List.any_eq_false.mp h action hmem
    cases action with
    | mk id label state =>
        cases state with
        | available => exact absurd rfl hstate
        | expired => rfl
  unfold expireDocument
  rw [hactions]

/-- What a program of an operation does to the store. -/
theorem wp_perform
    {Q : Post NotificationStore IoError (Option PushResult)} (op : StoreOperation)
    (hrejected : ∀ e, Q.error e s)
    (hidle : op.Idle s.state → op.apply s.capacity s.state = s.state →
      Q.ok (op.result s.capacity s.state) s)
    (hcommits : op.Checked sdk s.state →
      Commits sdk A Q s (op.apply s.capacity s.state) (op.result s.capacity s.state)) :
    (op.perform sdk).wp A Q s := by
  cases op with
  | push notification =>
      unfold perform NotificationStore.push
      simp only [wp_bind, wp_get, wp_orThrow]
      refine ⟨?_, fun e _ => hrejected e⟩
      rintro ⟨pushedDocument, preferences⟩ hassign
      refine ⟨fun _ hvalid => ?_, fun e _ => hrejected e⟩
      dsimp only
      split
      · exact hrejected _
      · have happly : (StoreOperation.push notification).apply s.capacity s.state =
            pushedState s.capacity s.state pushedDocument preferences := by
          have hassign' : assignId s.state.preferences notification =
              .ok (pushedDocument, preferences) := hassign
          simp only [apply, hassign']
        have hresult : (StoreOperation.push notification).result s.capacity s.state =
            some ⟨pushedDocument.id, notificationIds
              (((pushed s.active { pushedDocument with archived := false }).take
                ((pushed s.active { pushedDocument with archived := false }).length -
                  s.capacity)).map markArchived)⟩ := by
          have hassign' : assignId s.state.preferences notification =
              .ok (pushedDocument, preferences) := hassign
          simp only [result, hassign']
          rfl
        have hcommit := hcommits ⟨pushedDocument, preferences, hassign, hvalid⟩
        rw [happly, hresult] at hcommit
        simp only [wp_pure, wp_bind]
        exact wp_commitCandidate (L := pushedState s.capacity s.state pushedDocument preferences)
          hrejected hcommit
  | markRead id =>
      unfold perform NotificationStore.markRead
      simp only [wp_bind, wp_get]
      split
      · exact hrejected _
      · rename_i active hupdate
        have happly : (StoreOperation.markRead id).apply s.capacity s.state =
            { s.state with active := active } := by
          have hupdate' : updateFirst id (fun n => { n with read := true }) s.state.active =
              some active := hupdate
          simp only [apply, hupdate']
        have hcommit := hcommits trivial
        rw [happly] at hcommit
        exact wp_commitCandidate (L := { s.state with active := active }) hrejected hcommit
  | dismiss id =>
      unfold perform NotificationStore.dismiss
      simp only [wp_bind, wp_get]
      split
      · exact hrejected _
      · rename_i notification active htake
        have happly : (StoreOperation.dismiss id).apply s.capacity s.state =
            { s.state with
              active := active, archive := s.state.archive ++ [markArchived notification] } := by
          have htake' : takeOut id s.state.active = some (notification, active) := htake
          simp only [apply, htake']
        have hcommit := hcommits trivial
        rw [happly] at hcommit
        exact wp_commitCandidate
          (L := { s.state with
            active := active, archive := s.state.archive ++ [markArchived notification] })
          hrejected hcommit
  | setDnd enabled =>
      unfold perform NotificationStore.setDnd
      simp only [wp_bind, wp_get]
      exact wp_commitCandidate
        (L := { s.state with preferences := { s.preferences with dnd := enabled } })
        hrejected (hcommits trivial)
  | expireActions ids =>
      unfold perform NotificationStore.expireActions
      rw [wp_bind]
      split
      · rename_i hempty
        have hids : ids = [] := by simpa using hempty
        refine hidle hids ?_
        subst hids
        simp [apply, expireIn]
      · simp only [wp_bind, wp_get]
        split
        · exact wp_commitCandidate
            (L := { s.state with
              active := expireIn ids s.active, archive := expireIn ids s.archive })
            hrejected (hcommits trivial)
        · exact hrejected _
  | expireAllActions =>
      unfold perform NotificationStore.expireAllActions
      simp only [wp_bind, wp_get]
      split
      · exact wp_commitCandidate
          (L := { s.state with
            active := s.active.map expireDocument, archive := s.archive.map expireDocument })
          hrejected (hcommits trivial)
      · rename_i hnone
        have hunavailable : ∀ n ∈ s.active ++ s.archive, hasAvailableAction n = false :=
          fun n hn => by simpa using List.any_eq_false.mp (Bool.eq_false_iff.mpr hnone) n hn
        refine hidle hunavailable ?_
        have hall : ∀ n ∈ s.active ++ s.archive, expireDocument n = n :=
          fun n hn => expireDocument_of_unavailable (hunavailable n hn)
        have hmap : ∀ documents : List NotificationDocument,
            (∀ n ∈ documents, n ∈ s.active ++ s.archive) →
              documents.map expireDocument = documents := by
          intro documents hsub
          conv_rhs => rw [← List.map_id documents]
          exact List.map_congr_left fun n hn => hall n (hsub n hn)
        have hactive := hmap s.active fun n hn => List.mem_append_left _ hn
        have harchive := hmap s.archive fun n hn => List.mem_append_right _ hn
        show StoreState.mk (s.active.map expireDocument) (s.archive.map expireDocument) _ =
          StoreState.mk s.active s.archive _
        rw [hactive, harchive]
        rfl
  | purgeArchive =>
      unfold perform NotificationStore.purgeArchive
      simp only [wp_bind, wp_get]
      exact wp_commitCandidate (L := { s.state with archive := [] })
        hrejected (hcommits trivial)

end Programs

section States

open StoreState (Storable)

variable {sdk : NotificationSdk} {limit capacity : Nat} {L : StoreState} {op : StoreOperation}
variable {d d₀ : NotificationDocument}

theorem mem_expireIn
    {ids : List Nat} {documents : List NotificationDocument}
    (h : d ∈ expireIn ids documents) :
    ∃ d₀ ∈ documents, Updated d₀ d := by
  obtain ⟨d₀, hmem, rfl⟩ := List.mem_map.mp h
  refine ⟨d₀, hmem, ?_⟩
  split
  · exact .expired d₀
  · exact .same d₀

/-- A document after an operation is one from before, or the pushed one. -/
theorem mem_apply
    (h : d ∈ (op.apply capacity L).active ++ (op.apply capacity L).archive) :
    (∃ d₀ ∈ L.active ++ L.archive, Updated d₀ d) ∨
      ∃ notification pushedDocument preferences, op = .push notification ∧
        assignId L.preferences notification = .ok (pushedDocument, preferences) ∧
        Updated { pushedDocument with archived := false } d := by
  have hsame : ∀ {d}, d ∈ L.active ++ L.archive →
      ∃ d₀ ∈ L.active ++ L.archive, Updated d₀ d := fun {d} hmem => ⟨d, hmem, .same d⟩
  have hlists : ∀ {d}, d ∈ L.active ∨ d ∈ L.archive → d ∈ L.active ++ L.archive :=
    fun {d} => List.mem_append.mpr
  cases op with
  | push notification =>
      simp only [apply] at h
      split at h
      · exact Or.inl (hsame h)
      · rename_i pushedDocument preferences hassign
        have hpushed : ∀ d₀ ∈ pushed L.active { pushedDocument with archived := false },
            ∀ d, Updated d₀ d →
            (∃ d₀ ∈ L.active ++ L.archive, Updated d₀ d) ∨
              ∃ n p preferences, StoreOperation.push notification = .push n ∧
                assignId L.preferences n = .ok (p, preferences) ∧
                Updated { p with archived := false } d := by
          intro d₀ hmem d hupdated
          rcases mem_pushed hmem with hold | rfl
          · exact Or.inl ⟨d₀, hlists (Or.inl hold), hupdated⟩
          · exact Or.inr ⟨notification, pushedDocument, preferences, rfl, hassign, hupdated⟩
        rcases List.mem_append.mp h with hactive | harchive
        · exact hpushed d (List.mem_of_mem_drop hactive) d (.same d)
        · rcases List.mem_append.mp harchive with hold | harchived
          · exact Or.inl (hsame (hlists (Or.inr hold)))
          · obtain ⟨d₀, hmem, rfl⟩ := List.mem_map.mp harchived
            exact hpushed d₀ (List.mem_of_mem_take hmem) _ (.archived d₀)
  | markRead id =>
      left
      simp only [apply] at h
      split at h
      · exact hsame h
      · rename_i active hupdate
        obtain ⟨i, rfl⟩ := updateFirst_eq_some hupdate
        rcases List.mem_append.mp h with hactive | harchive
        · rcases mem_modify hactive with hold | ⟨d₀, hmem, rfl⟩
          · exact hsame (hlists (Or.inl hold))
          · exact ⟨d₀, hlists (Or.inl hmem), .read d₀⟩
        · exact hsame (hlists (Or.inr harchive))
  | dismiss id =>
      left
      simp only [apply] at h
      split at h
      · exact hsame h
      · rename_i notification active htake
        have hperm := (takeOut_eq_some htake).2
        rcases List.mem_append.mp h with hactive | harchive
        · exact hsame (hlists (Or.inl (hperm.mem_iff.mpr (List.mem_cons_of_mem _ hactive))))
        · rcases List.mem_append.mp harchive with hold | hnew
          · exact hsame (hlists (Or.inr hold))
          · rw [List.mem_singleton.mp hnew]
            exact ⟨notification, hlists (Or.inl (hperm.mem_iff.mpr List.mem_cons_self)),
              .archived notification⟩
  | setDnd enabled => exact Or.inl (hsame h)
  | expireActions ids =>
      left
      rcases List.mem_append.mp h with hactive | harchive
      · obtain ⟨d₀, hmem, hupdated⟩ := mem_expireIn hactive
        exact ⟨d₀, hlists (Or.inl hmem), hupdated⟩
      · obtain ⟨d₀, hmem, hupdated⟩ := mem_expireIn harchive
        exact ⟨d₀, hlists (Or.inr hmem), hupdated⟩
  | expireAllActions =>
      left
      rcases List.mem_append.mp h with hactive | harchive
      · obtain ⟨d₀, hmem, rfl⟩ := List.mem_map.mp hactive
        exact ⟨d₀, hlists (Or.inl hmem), .expired d₀⟩
      · obtain ⟨d₀, hmem, rfl⟩ := List.mem_map.mp harchive
        exact ⟨d₀, hlists (Or.inr hmem), .expired d₀⟩
  | purgeArchive =>
      left
      have hactive : d ∈ L.active := by simpa [apply] using h
      exact hsame (hlists (Or.inl hactive))

theorem assignId_version
    {preferences preferences' : Preferences} {n n' : NotificationDocument}
    (h : assignId preferences n = .ok (n', preferences')) :
    preferences'.schemaVersion = preferences.schemaVersion := by
  unfold assignId at h
  split at h
  · split at h
    · cases h
    split at h
    · cases h
    cases h
    rfl
  · split at h
    · split at h
      · cases h
      · cases h
        rfl
    · cases h
      rfl

theorem assignId_bounded
    {preferences preferences' : Preferences} {n n' : NotificationDocument}
    (h : assignId preferences n = .ok (n', preferences'))
    (hbounded : preferences.nextNotificationId ≤ maxCounter) :
    preferences'.nextNotificationId ≤ maxCounter := by
  unfold assignId at h
  split at h
  · split at h
    · cases h
    split at h
    · cases h
    case isFalse hle =>
      cases h
      exact Nat.le_of_not_lt hle
  · split at h
    · split at h
      · cases h
      case isFalse hle =>
        cases h
        exact Nat.le_of_not_lt hle
    · cases h
      exact hbounded

/-- The counter stays a `u64`. -/
theorem apply_bounded (h : L.preferences.nextNotificationId ≤ maxCounter) :
    (op.apply capacity L).preferences.nextNotificationId ≤ maxCounter := by
  cases op with
  | push notification =>
      simp only [apply]
      split
      · exact h
      case h_2 pushedDocument preferences hassign => exact assignId_bounded hassign h
  | markRead id => simp only [apply]; split <;> exact h
  | dismiss id => simp only [apply]; split <;> exact h
  | setDnd enabled => exact h
  | expireActions ids => exact h
  | expireAllActions => exact h
  | purgeArchive => exact h

/-- The counter never goes back. -/
theorem apply_preferences :
    (op.apply capacity L).preferences.schemaVersion = L.preferences.schemaVersion ∧
      L.preferences.nextNotificationId ≤ (op.apply capacity L).preferences.nextNotificationId := by
  cases op with
  | push notification =>
      simp only [apply]
      split
      · exact ⟨rfl, le_rfl⟩
      · rename_i pushedDocument preferences hassign
        exact ⟨assignId_version hassign, (assignId_eq_ok hassign).2.2.2.1⟩
  | markRead id => simp only [apply]; split <;> exact ⟨rfl, le_rfl⟩
  | dismiss id => simp only [apply]; split <;> exact ⟨rfl, le_rfl⟩
  | setDnd enabled => exact ⟨rfl, le_rfl⟩
  | expireActions ids => exact ⟨rfl, le_rfl⟩
  | expireAllActions => exact ⟨rfl, le_rfl⟩
  | purgeArchive => exact ⟨rfl, le_rfl⟩

theorem validateDocuments_eq_ok
    {documents : List NotificationDocument} :
    sdk.validateDocuments documents = .ok () ↔
      ∀ d ∈ documents, sdk.validateDocument d = .ok () := by
  unfold NotificationSdk.validateDocuments
  induction documents with
  | nil => simp [pure, Except.pure]
  | cons d documents ih =>
      rw [List.forall_mem_cons, ← ih]
      show (sdk.validateDocument d >>= fun _ => documents.forM sdk.validateDocument) = _ ↔ _
      cases sdk.validateDocument d <;> simp [bind, Except.bind]

theorem validateDocument_eq_ok :
    sdk.validateDocument d = .ok () ↔
      (sdk.documentJson d).utf8ByteSize ≤ maxNotificationBytes ∧
        sdk.validateNotificationDocument (sdk.documentJson d) = .ok () := by
  unfold NotificationSdk.validateDocument
  split
  · simp
    omega
  · cases sdk.validateNotificationDocument (sdk.documentJson d) <;> simp [orInvalidData]
    omega

theorem valid_of_updated
    (hsteady : sdk.Steady)
    (h : Updated d₀ d)
    (hvalid : sdk.validateDocument d₀ = .ok ()) :
    sdk.validateDocument d = .ok () := by
  obtain ⟨hsize, haccepted⟩ := validateDocument_eq_ok.mp hvalid
  exact validateDocument_eq_ok.mpr
    ⟨(hsteady.shorter d₀ d h).trans hsize, hsteady.accepted d₀ d h haccepted⟩

/-- A state that is committed can be stored. -/
theorem apply_storable
    (hsteady : sdk.Steady)
    (hL : Storable sdk limit L)
    (hchecked : op.Checked sdk L)
    (hstored : op.StoredAsChecked sdk L)
    (hids : ValidIds (notificationIds
      ((op.apply capacity L).active ++ (op.apply capacity L).archive)))
    (hfits : sdk.validateAggregate (op.apply capacity L).active (op.apply capacity L).archive
      (op.apply capacity L).preferences limit = .ok ()) :
    Storable sdk limit (op.apply capacity L) := by
  obtain ⟨hversion, hcounter⟩ := @apply_preferences capacity L op
  have hdocuments : ∀ d ∈ (op.apply capacity L).active ++ (op.apply capacity L).archive,
      sdk.validateDocument d = .ok () ∧
        d.id < (op.apply capacity L).preferences.nextNotificationId := by
    intro d hmem
    rcases mem_apply hmem with ⟨d₀, hmem₀, hupdated⟩ | ⟨n, p, preferences, rfl, hassign, hupdated⟩
    · have hvalid : sdk.validateDocument d₀ = .ok () := by
        rcases List.mem_append.mp hmem₀ with hactive | harchive
        · exact validateDocuments_eq_ok.mp hL.active d₀ hactive
        · exact validateDocuments_eq_ok.mp hL.archive d₀ harchive
      have hid := hL.counter d₀.id (List.mem_map_of_mem hmem₀)
      rw [hupdated.id]
      exact ⟨valid_of_updated hsteady hupdated hvalid, hid.trans_le hcounter⟩
    · obtain ⟨p', preferences', hassign', hvalid⟩ := hchecked
      rw [hassign] at hassign'
      cases hassign'
      have hpreferences :
          ((StoreOperation.push n).apply capacity L).preferences = preferences := by
        simp only [apply, hassign]
        rfl
      rw [hupdated.id, hpreferences]
      exact ⟨valid_of_updated hsteady hupdated (hstored p preferences hassign hvalid),
        (assignId_eq_ok hassign).2.2.2.2⟩
  refine ⟨hids, hfits, hversion.trans hL.version, hL.positive.trans_le hcounter,
    apply_bounded hL.bounded, ?_, ?_, ?_⟩
  · intro id hid
    obtain ⟨d, hmem, rfl⟩ := List.mem_map.mp hid
    exact (hdocuments d hmem).2
  · exact validateDocuments_eq_ok.mpr fun d hd =>
      (hdocuments d (List.mem_append_left _ hd)).1
  · exact validateDocuments_eq_ok.mpr fun d hd =>
      (hdocuments d (List.mem_append_right _ hd)).1

end States

end StoreOperation

end SleepySession
