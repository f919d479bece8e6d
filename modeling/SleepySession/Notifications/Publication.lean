import SleepySession.Notifications.Service

/-!
# All or nothing

An operation of the service is all or nothing when it succeeds exactly if it
was committed and every one of its events was published, and otherwise leaves
no trace.  It is so exactly when no publication of a committed operation
fails: the events are published after the commit, and a failed publication is
reported like an operation that was rejected.
-/

namespace SleepySession

open Program SecureDirectory NotificationEventService

/-- The law of one operation of the service. -/
structure AllOrNothing (sdk : NotificationSdk) (s : NotificationEventService)
    (call : ProviderCall) (script : List (Answer NotificationFile String)) : Prop where
  ok_iff :
    (∃ reply, ((NotificationEventService.program sdk call).run script s).1 = .ok reply) ↔
      (∃ reply, ((call.program sdk).run script s.provider).1 = .ok reply) ∧
        ((NotificationEventService.program sdk call).run script s).2.provider =
          ((call.program sdk).run script s.provider).2 ∧
        ((NotificationEventService.program sdk call).run script s).2.published =
          s.published ++ plannedEvents s.provider call
  /-- What is reported as failed was neither committed nor published. -/
  error_unchanged : ∀ e s',
    (NotificationEventService.program sdk call).run script s = (.error e, s') →
      (∀ reply, ((call.program sdk).run script s.provider).1 ≠ .ok reply) ∧
        s'.provider.popups = s.provider.popups ∧
        s'.provider.store =
          { s.provider.store with directory := s'.provider.store.directory } ∧
        s'.published = s.published

section Provider

/-- An operation of the provider that fails changes nothing but files. -/
theorem call_unchanged
    (call : ProviderCall) :
    (call.program sdk).wp A
      ⟨fun _ _ => True, fun _ p' => OnlyFiles p p', fun _ => True⟩ p := by
  have habandon : ∀ {α : Type} (P : IoError → Prop) (ok : α → NotificationStore → Prop),
      NotificationStore.Abandons P
        ⟨ok, fun _ store => OnlyFiles p { p with store := store }, fun _ => True⟩ p.store :=
    fun _ _ => ⟨fun _ files _ => ⟨files, rfl⟩, fun _ => trivial⟩
  cases call with
  | notify request now =>
      simp only [ProviderCall.program, FreedesktopNotificationProvider.notifyAt, wp_bind,
        wp_get, wp_orThrow]
      refine ⟨fun _ _ => ⟨fun _ _ => ?_, fun _ _ => OnlyFiles.refl p⟩,
        fun _ _ => OnlyFiles.refl p⟩
      rw [wp_onStore]
      exact NotificationStore.wp_push (habandon _ _)
        fun _ _ _ _ _ _ _ _ _ _ _ _ => trivial
  | execute command =>
      cases command with
      | markRead id =>
          simp only [ProviderCall.program, FreedesktopNotificationProvider.execute, wp_bind]
          rw [wp_onStore]
          exact NotificationStore.wp_markRead (habandon _ _) fun _ _ _ _ => trivial
      | dismiss id =>
          simp only [ProviderCall.program, FreedesktopNotificationProvider.execute, wp_bind]
          rw [wp_onStore]
          exact NotificationStore.wp_dismiss (habandon _ _) fun _ _ _ _ _ => trivial
      | archive id =>
          simp only [ProviderCall.program, FreedesktopNotificationProvider.execute, wp_bind]
          rw [wp_onStore]
          exact NotificationStore.wp_dismiss (habandon _ _) fun _ _ _ _ _ => trivial
      | setDnd enabled =>
          simp only [ProviderCall.program, FreedesktopNotificationProvider.execute, wp_bind]
          rw [wp_onStore]
          refine NotificationStore.wp_setDnd (habandon _ _) fun _ => ?_
          cases enabled <;> trivial
      | purgeArchive =>
          simp only [ProviderCall.program, FreedesktopNotificationProvider.execute, wp_bind,
            wp_get]
          rw [wp_onStore]
          exact NotificationStore.wp_purgeArchive (habandon _ _) fun _ _ => trivial
  | advancePopupTime now => trivial
  | originLost origin =>
      simp only [ProviderCall.program, FreedesktopNotificationProvider.originLost, wp_bind,
        wp_get]
      rw [wp_onStore]
      exact NotificationStore.wp_expireActions (habandon _ _)
        (fun _ => OnlyFiles.refl p) (fun _ => trivial) fun _ => trivial

/-- The events that follow an answer were known before the operation. -/
theorem call_planned
    (call : ProviderCall) (s : NotificationEventService) :
    (call.program sdk).wp A
      ⟨fun reply _ => announcedEvents s call reply = plannedEvents s.provider call,
        fun _ _ => True, fun _ => True⟩ s.provider := by
  cases call with
  | notify request now =>
      simp only [ProviderCall.program, FreedesktopNotificationProvider.notifyAt, wp_bind,
        wp_get, wp_orThrow]
      refine ⟨fun _ _ => ⟨fun _ _ => ?_, fun _ _ => trivial⟩, fun _ _ => trivial⟩
      rw [wp_onStore]
      refine NotificationStore.wp_push ⟨fun _ _ _ => trivial, fun _ => trivial⟩ ?_
      intro n preferences hassign _ active hactive overflow hoverflow archived harchived _ _
      simp only [wp_modify, wp_pure]
      have hid := (assignId_eq_ok hassign).2.2.1
      have hpushed : notificationIds
            (NotificationStore.pushed s.provider.store.active { n with archived := false }) =
          notificationIds
            (NotificationStore.pushed s.provider.store.active
              { request.notification with
                id :=
                  if request.notification.id = 0 then
                    s.provider.store.preferences.nextNotificationId
                  else request.notification.id }) := by
        simp [NotificationStore.pushed, notificationIds, hid]
      have hlength : ∀ l : List NotificationDocument, l.length = (notificationIds l).length :=
        fun l => by simp [notificationIds]
      have htake : ∀ (l : List NotificationDocument) (k : Nat),
          notificationIds (l.take k) = (notificationIds l).take k :=
        fun l k => by simp [notificationIds]
      have harchivedIds : notificationIds archived = (notificationIds active).take overflow := by
        rw [harchived, ← htake]
        exact notificationIds_map fun _ => rfl
      simp only [announcedEvents, plannedEvents, hid, harchivedIds, htake]
      rw [hoverflow, hactive, hlength, hlength, hpushed]
  | execute command =>
      exact wp_of_forall (fun _ _ => rfl) (fun _ _ => trivial) (fun _ => trivial) _
  | advancePopupTime now => rfl
  | originLost origin =>
      exact wp_of_forall (fun _ _ => rfl) (fun _ _ => trivial) (fun _ => trivial) _

end Provider

section Publishing

/-- Without a failing fate every event is published. -/
theorem publishAll_eq_ok
    {events : List SessionEvent} {s : NotificationEventService}
    (h : ∀ fate ∈ s.fates.take events.length, fate = none) :
    publishAll events s =
      (.ok (),
        { s with
          published := s.published ++ events
          fates := s.fates.drop events.length }) := by
  induction events generalizing s with
  | nil => simp [publishAll]
  | cons event events ih =>
      obtain ⟨provider, published, fates⟩ := s
      cases fates with
      | nil =>
          rw [publishAll]
          simp only [nextFate, List.headD_nil, List.tail_nil]
          rw [ih (by simp)]
          simp
      | cons fate fates =>
          obtain rfl : fate = none := h fate (by simp)
          rw [publishAll]
          simp only [nextFate, List.headD_cons, List.tail_cons]
          rw [ih (fun fate hfate => h fate (by simp [hfate]))]
          simp

/-- A failing fate among those of the events makes the publication fail. -/
theorem publishAll_eq_error
    {events : List SessionEvent} {s : NotificationEventService}
    (h : ∃ fate ∈ s.fates.take events.length, fate ≠ none) :
    ∃ e s', publishAll events s = (.error e, s') := by
  induction events generalizing s with
  | nil => simp at h
  | cons event events ih =>
      obtain ⟨provider, published, fates⟩ := s
      cases fates with
      | nil => simp at h
      | cons fate fates =>
          rw [publishAll]
          cases fate with
          | some error => exact ⟨_, _, rfl⟩
          | none =>
              simp only [nextFate, List.headD_cons, List.tail_cons]
              refine ih ?_
              simpa using h

end Publishing

/-- An operation is all or nothing exactly when no publication after its commit fails. -/
theorem allOrNothing_iff
    (sdk : NotificationSdk) (s : NotificationEventService) (call : ProviderCall)
    (script : List (Answer NotificationFile String)) :
    AllOrNothing sdk s call script ↔
      (∀ reply, ((call.program sdk).run script s.provider).1 ≠ .ok reply) ∨
        ∀ fate ∈ s.fates.take (plannedEvents s.provider call).length, fate = none := by
  have hrun : (NotificationEventService.program sdk call).run script s = _ :=
    run_program call script s
  rcases hprovider : (call.program sdk).run script s.provider with ⟨outcome, p'⟩
  have hunchanged := holds_of_run hprovider (call_unchanged call)
  have hplanned := holds_of_run hprovider (call_planned call s)
  rw [hprovider] at hrun
  cases outcome with
  | error e =>
      obtain ⟨files, rfl⟩ := hunchanged
      refine ⟨fun _ => Or.inl (by simp), fun _ => ⟨?_, ?_⟩⟩
      · simp [hrun, hprovider, finish, Outcome.thenRun]
      · intro e' s' heq
        rw [hrun] at heq
        cases heq
        exact ⟨by simp [hprovider], rfl, rfl, rfl⟩
  | crashed =>
      refine ⟨fun _ => Or.inl (by simp), fun _ => ⟨?_, ?_⟩⟩
      · simp [hrun, hprovider, finish, Outcome.thenRun]
      · intro e' s' heq
        rw [hrun] at heq
        cases heq
  | ok reply =>
      have hevents : announcedEvents s call reply = plannedEvents s.provider call := hplanned
      simp only [finish, Outcome.thenRun, announce, hevents] at hrun
      constructor
      · intro h
        by_contra hneither
        rw [not_or] at hneither
        have hfails : ∃ fate ∈ s.fates.take (plannedEvents s.provider call).length,
            fate ≠ none := by
          simpa using hneither.2
        obtain ⟨e, s', heq⟩ :=
          publishAll_eq_error (s := { s with provider := p' }) hfails
        rw [heq] at hrun
        exact (h.error_unchanged e s' hrun).1 reply (by rw [hprovider])
      · rintro (hnot | hfates)
        · exact absurd rfl (hnot reply)
        · rw [publishAll_eq_ok (s := { s with provider := p' }) hfates] at hrun
          refine ⟨?_, ?_⟩
          · simp [hrun, hprovider]
          · intro e s' heq
            rw [hrun] at heq
            cases heq

section Counterexample

/-- A service whose next publication is rejected by the event hub. -/
def rejecting (provider : FreedesktopNotificationProvider) : NotificationEventService :=
  ⟨provider, [], [some ⟨.invalidData, "event hub rejected a non-monotonic generation"⟩]⟩

theorem rejecting_failed :
    ((NotificationEventService.program plainSdk sampleCall).run []
      (rejecting freshRun.provider)).1 =
        .error ⟨.invalidData, "event hub rejected a non-monotonic generation"⟩ := by
  decide +kernel

theorem not_allOrNothing_rejecting
    {sdk : NotificationSdk} {p : FreedesktopNotificationProvider} {call : ProviderCall}
    {script : List (Answer NotificationFile String)} {reply : ProviderReply} {e : IoError}
    (hcommitted : ((call.program sdk).run script p).1 = .ok reply)
    (hfailed :
      ((NotificationEventService.program sdk call).run script (rejecting p)).1 = .error e) :
    ¬ AllOrNothing sdk (rejecting p) call script :=
  fun h => (h.error_unchanged e _ (Prod.ext hfailed rfl)).1 reply hcommitted

/-- The first notification is stored and shown, and reported as failed. -/
theorem notify_unpublished :
    ¬ AllOrNothing plainSdk (rejecting freshRun.provider) sampleCall [] :=
  not_allOrNothing_rejecting sampleCall_notified rejecting_failed

end Counterexample

end SleepySession
