import SleepySession.Notifications.Store

/-!
# Specifications of the notification store

Each operation either replaces what is in memory by its candidate or leaves it
as it was; the files may have changed in both cases.  The failures of system
calls are never mistaken for a missing notification.
-/

namespace SleepySession

open Program SecureDirectory

/-- A failure that does not come from the lookup of a notification. -/
def Unrelated (e : IoError) : Prop :=
  e.kind ≠ .notFound

section Failures

theorem unrelated_system (e : Failure) : Unrelated (IoError.system e) := by
  unfold IoError.system Unrelated unsafePath
  split <;> simp

theorem fails_system
    {α : Type}
    (m : Disk Unit NotificationFile String α) :
    Fails Unrelated (system m) :=
  Fails.mapError unrelated_system m

theorem fails_replaceWith (name : NotificationFile) (uuid bytes : String) :
    Fails Unrelated (replaceWith name uuid bytes) :=
  (fails_system _).bind fun _ =>
    (fails_system _).bind fun _ => (fails_system _).bind fun _ => fails_system _

/-- The failure of a replacement is that of the call that failed first. -/
theorem fails_atomicReplace (name : NotificationFile) (bytes : String) :
    Fails Unrelated (atomicReplace name bytes) := by
  intro s
  unfold atomicReplace
  simp only [wp_bind]
  refine (fails_system _).wp ?_ (fun e s he => he) (fun s => trivial) s
  intro _ s
  refine (fails_system _).wp ?_ (fun e s he => he) (fun s => trivial) s
  intro uuid s
  refine (fails_system _).wp ?_ (fun e s he => he) (fun s => trivial) s
  intro _ s
  simp only [wp_attempt]
  refine (fails_replaceWith name uuid bytes).wp ?_ ?_ (fun s => trivial) s
  · exact fun _ s => trivial
  · intro e s he
    simp only [wp_bind, wp_attempt]
    exact wp_of_forall (fun _ _ => he) (fun _ _ => he) (fun _ => trivial) s

theorem fails_commitFiles
    (sdk : NotificationSdk)
    (active archive : List NotificationDocument) (preferences : Preferences) :
    Fails Unrelated (commitFiles sdk active archive preferences) := by
  have hobserve : ∀ stage, Fails Unrelated (NotificationStore.observe stage) :=
    fun _ => fails_system _
  refine (fails_atomicReplace _ _).bind fun _ => (hobserve _).bind fun _ => ?_
  refine Fails.bind ?_ fun _ => hobserve _
  refine (fails_atomicReplace _ _).bind fun _ => (hobserve _).bind fun _ => ?_
  refine (fails_atomicReplace _ _).bind fun _ => (hobserve _).bind fun _ => ?_
  refine (fails_atomicReplace _ _).bind fun _ => (hobserve _).bind fun _ => ?_
  exact (fails_system _).bind fun _ => (hobserve _).bind fun _ => fails_system _

end Failures

section Lists

variable {documents : List NotificationDocument} {id : Nat}

theorem validateUniqueIds_eq_ok
    {active archive : List NotificationDocument} :
    validateUniqueIds active archive = .ok () ↔
      ValidIds (notificationIds (active ++ archive)) := by
  unfold validateUniqueIds
  split <;> simp [*]

theorem checkLimits_eq_ok
    {capacity aggregateLimit : Nat} :
    checkLimits capacity aggregateLimit = .ok () ↔
      0 < capacity ∧ 0 < aggregateLimit ∧ aggregateLimit < maxDurableFileBytes := by
  unfold checkLimits
  split
  · simp [*]
  · split
    · simp
      omega
    · simp
      omega

theorem mem_notificationIds :
    id ∈ notificationIds documents ↔ ∃ n ∈ documents, n.id = id := by
  simp [notificationIds]

end Lists

section Rules

variable {A : Answer NotificationFile String → Prop}

namespace NotificationStore

theorem wp_onDirectory
    {α : Type}
    (m : DirectoryProgram α)
    (Q : Post NotificationStore IoError α) (s : NotificationStore) :
    (onDirectory m).wp A Q s ↔
      m.wp A
        ⟨fun a files => Q.ok a { s with directory := files },
          fun e files => Q.error e { s with directory := files },
          fun files => Q.crashed { s with directory := files }⟩ s.directory :=
  wp_zoom_field m Q s

/-- The operation may end here: with any failure allowed by `P`, or in a crash. -/
def Abandons {α : Type} (P : IoError → Prop) (Q : Post NotificationStore IoError α)
    (s : NotificationStore) : Prop :=
  (∀ e files, P e → Q.error e { s with directory := files }) ∧
    ∀ files, Q.crashed { s with directory := files }

variable {sdk : NotificationSdk} {s : NotificationStore}

theorem Abandons.error
    {α : Type} {P : IoError → Prop} {Q : Post NotificationStore IoError α} {e : IoError}
    (h : Abandons P Q s)
    (he : P e) :
    Q.error e s :=
  h.1 e s.directory he

theorem Abandons.mono
    {α : Type} {P R : IoError → Prop} {Q : Post NotificationStore IoError α}
    (h : Abandons P Q s)
    (hR : ∀ e, R e → P e) :
    Abandons R Q s :=
  ⟨fun e files he => h.1 e files (hR e he), h.2⟩

theorem wp_commitCandidate
    {Q : Post NotificationStore IoError Unit}
    {active archive : List NotificationDocument} {preferences : Preferences}
    (habandon : Abandons Unrelated Q s)
    (hok :
      ValidIds (notificationIds (active ++ archive)) →
      ∀ files, Q.ok ()
        { s with
          directory := files, active := active, archive := archive
          preferences := preferences }) :
    (commitCandidate sdk active archive preferences).wp A Q s := by
  unfold commitCandidate
  simp only [wp_bind, wp_get, wp_orThrow]
  refine ⟨?_, ?_⟩
  · intro _ hids
    refine ⟨?_, ?_⟩
    · intro _ _
      rw [wp_onDirectory]
      refine (fails_commitFiles sdk active archive preferences).wp ?_ ?_ ?_ s.directory
      · intro _ files
        exact hok (validateUniqueIds_eq_ok.mp hids) files
      · exact fun e files he => habandon.1 e files he
      · exact habandon.2
    · intro e he
      refine habandon.error ?_
      unfold NotificationSdk.validateAggregate at he
      split at he
      · cases he
        simp [Unrelated]
      · cases he
  · intro e he
    refine habandon.error ?_
    unfold validateUniqueIds at he
    split at he
    · cases he
    · cases he
      simp [Unrelated, invalidData]

theorem wp_push
    {Q : Post NotificationStore IoError PushResult}
    {notification : NotificationDocument}
    (habandon : Abandons (fun _ => True) Q s)
    (hok : ∀ pushedDocument preferences,
      assignId s.preferences notification = .ok (pushedDocument, preferences) →
      pushedDocument.id ∉ notificationIds s.archive →
      ∀ active, active = pushed s.active { pushedDocument with archived := false } →
      ∀ overflow, overflow = active.length - s.capacity →
      ∀ archived, archived = (active.take overflow).map markArchived →
      ValidIds (notificationIds (active.drop overflow ++ (s.archive ++ archived))) →
      ∀ files, Q.ok ⟨pushedDocument.id, notificationIds archived⟩
        { s with
          directory := files
          active := active.drop overflow
          archive := s.archive ++ archived
          preferences := preferences }) :
    (push sdk notification).wp A Q s := by
  unfold push
  simp only [wp_bind, wp_get, wp_orThrow]
  refine ⟨?_, fun e _ => habandon.error trivial⟩
  rintro ⟨pushedDocument, preferences⟩ hassign
  simp only
  refine ⟨?_, fun e _ => habandon.error trivial⟩
  intro _ _
  split
  · exact habandon.error trivial
  · rename_i hfresh
    have hfresh' : pushedDocument.id ∉ notificationIds s.archive := by
      simpa [notificationIds] using hfresh
    simp only [wp_pure, wp_bind]
    refine wp_commitCandidate (habandon.mono fun _ _ => trivial) ?_
    intro hvalid files
    exact hok pushedDocument preferences hassign hfresh' _ rfl _ rfl _ rfl hvalid files

theorem wp_dismiss
    {Q : Post NotificationStore IoError Unit}
    {id : Nat}
    (habandon : Abandons (fun _ => True) Q s)
    (hok : ∀ notification active,
      takeOut id s.active = some (notification, active) →
      ValidIds (notificationIds
        (active ++ (s.archive ++ [markArchived notification]))) →
      ∀ files, Q.ok ()
        { s with
          directory := files
          active := active
          archive := s.archive ++ [markArchived notification] }) :
    (dismiss sdk id).wp A Q s := by
  unfold dismiss
  simp only [wp_bind, wp_get]
  split
  · exact habandon.error trivial
  · rename_i notification active htake
    refine wp_commitCandidate (habandon.mono fun _ _ => trivial) ?_
    exact fun hvalid files => hok notification active htake hvalid files

theorem wp_markRead
    {Q : Post NotificationStore IoError Unit}
    {id : Nat}
    (habandon : Abandons (fun _ => True) Q s)
    (hok : ∀ active,
      updateFirst id (fun notification => { notification with read := true })
        s.active = some active →
      ValidIds (notificationIds (active ++ s.archive)) →
      ∀ files, Q.ok () { s with directory := files, active := active }) :
    (markRead sdk id).wp A Q s := by
  unfold markRead
  simp only [wp_bind, wp_get]
  split
  · exact habandon.error trivial
  · rename_i active hupdate
    refine wp_commitCandidate (habandon.mono fun _ _ => trivial) ?_
    exact fun hvalid files => hok active hupdate hvalid files

theorem wp_setDnd
    {Q : Post NotificationStore IoError Unit}
    {enabled : Bool}
    (habandon : Abandons (fun _ => True) Q s)
    (hok : ∀ files, Q.ok ()
      { s with directory := files, preferences := { s.preferences with dnd := enabled } }) :
    (setDnd sdk enabled).wp A Q s := by
  unfold setDnd
  simp only [wp_bind, wp_get]
  exact wp_commitCandidate (habandon.mono fun _ _ => trivial) fun _ files => hok files

theorem wp_purgeArchive
    {Q : Post NotificationStore IoError Unit}
    (habandon : Abandons (fun _ => True) Q s)
    (hok : ValidIds (notificationIds s.active) →
      ∀ files, Q.ok () { s with directory := files, archive := [] }) :
    (purgeArchive sdk).wp A Q s := by
  unfold purgeArchive
  simp only [wp_bind, wp_get]
  refine wp_commitCandidate (habandon.mono fun _ _ => trivial) ?_
  intro hvalid files
  exact hok (by simpa using hvalid) files

/-- Only an identifier that is nowhere makes the expiry fail with `NotFound`. -/
theorem wp_expireActions
    {Q : Post NotificationStore IoError Unit}
    {ids : List Nat}
    (habandon : Abandons Unrelated Q s)
    (hmissing : (∃ id ∈ ids, id ∉ notificationIds (s.active ++ s.archive)) →
      Q.error notificationNotFound s)
    (hnone : ids = [] → Q.ok () s)
    (hok : ∀ files, Q.ok ()
      { s with
        directory := files
        active := expireIn ids s.active
        archive := expireIn ids s.archive }) :
    (expireActions sdk ids).wp A Q s := by
  unfold expireActions
  split
  · rename_i hempty
    exact hnone (by simpa using hempty)
  · simp only [wp_bind, wp_get]
    split
    · exact wp_commitCandidate habandon fun _ files => hok files
    · rename_i hall
      refine hmissing ?_
      simpa using hall

theorem wp_expireAllActions
    {Q : Post NotificationStore IoError Unit}
    (habandon : Abandons (fun _ => True) Q s)
    (hnone : Q.ok () s)
    (hok : ∀ files, Q.ok ()
      { s with
        directory := files
        active := s.active.map expireDocument
        archive := s.archive.map expireDocument }) :
    (expireAllActions sdk).wp A Q s := by
  unfold expireAllActions
  simp only [wp_bind, wp_get]
  split
  · exact wp_commitCandidate (habandon.mono fun _ _ => trivial) fun _ files => hok files
  · exact hnone

end NotificationStore

end Rules

end SleepySession
