import SleepySession.Notifications.DbusServer

/-!
# The signals of the notification server

`NotificationClosed` has two reasons.  With reason 3 it answers a call of
`CloseNotification` that took the notification out of the active list; with
reason 1 it reports the end of a popup, and the notification stays.  After
reason 3 nothing closes the notification again, and no invocation of its
actions is accepted any more.
-/

namespace SleepySession

open Program SecureDirectory NotificationDbusServer

/-- The provider of a server. -/
abbrev NotificationDbusServer.provider (s : NotificationDbusServer) :
    FreedesktopNotificationProvider :=
  s.service.provider

/-- What has to be true of a step that emits a signal. -/
def Justified (event : ServerEvent) (s s' : NotificationDbusServer) : Signal → Prop
  | .notificationClosed id reason =>
      (reason = 3 ∧ event = .closeNotification id ∧
        id ∈ notificationIds s.provider.store.active ∧
        id ∉ notificationIds s'.provider.store.active) ∨
      (reason = 1 ∧
        (∃ now deadline, event = .tick now ∧
          s.provider.popups.get? id = some (some deadline) ∧ deadline ≤ now) ∧
        s.provider.popupVisible id = true ∧ s'.provider.popupVisible id = false ∧
        id ∈ notificationIds s.provider.store.active ∧
        s'.provider.store.active = s.provider.store.active)
  | .actionInvoked id action =>
      event = .drain ∧ s.controls = (id, action) :: s'.controls

/-- The signals of one step, each justified and none of them twice. -/
structure Emission (event : ServerEvent) (s s' : NotificationDbusServer)
    (new : List Signal) : Prop where
  signals : s'.signals = s.signals ++ new
  justified : ∀ signal ∈ new, Justified event s s' signal
  nodup : new.Nodup

section Service

variable {A : Answer NotificationFile String → Prop}
variable {sdk : NotificationSdk} {s : NotificationEventService}

theorem wp_onProvider
    {α : Type}
    (m : ProviderProgram α)
    (Q : Post NotificationEventService IoError α)
    (s : NotificationEventService) :
    (NotificationEventService.onProvider m).wp A Q s ↔
      m.wp A
        ⟨fun a provider => Q.ok a { s with provider := provider },
          fun e provider => Q.error e { s with provider := provider },
          fun provider => Q.crashed { s with provider := provider }⟩ s.provider :=
  wp_zoom_field m Q s

/-- A publication may fail, and never touches the provider. -/
theorem wp_publish
    {Q : Post NotificationEventService IoError Unit}
    {event : SessionEvent}
    (hok : ∀ s', s'.provider = s.provider → Q.ok () s')
    (herror : ∀ e s', s'.provider = s.provider → Q.error e s') :
    (NotificationEventService.publish event).wp A Q s := by
  unfold NotificationEventService.publish
  simp only [wp_bind, wp_get]
  cases s.nextFate with
  | none => exact hok _ rfl
  | some error => exact herror _ _ rfl

theorem wp_each_publish
    {Q : Post NotificationEventService IoError Unit}
    {f : Nat → SessionEvent} {ids : List Nat}
    (hok : ∀ s', s'.provider = s.provider → Q.ok () s')
    (herror : ∀ e s', s'.provider = s.provider → Q.error e s') :
    (each (fun id => NotificationEventService.publish (f id)) ids).wp A Q s := by
  induction ids generalizing s with
  | nil => exact hok s rfl
  | cons id ids ih =>
      rw [wp_each_cons]
      refine wp_publish ?_ herror
      intro s' hs'
      refine ih ?_ ?_
      · exact fun s'' hs'' => hok s'' (hs''.trans hs')
      · exact fun e s'' hs'' => herror e s'' (hs''.trans hs')

/-- An operation of the service does what the provider does, or only files change. -/
theorem wp_service
    {call : ProviderCall} {P : ProviderReply → FreedesktopNotificationProvider → Prop}
    {Q : Post NotificationEventService IoError ProviderReply}
    (hcall : (call.program sdk).wp A
      ⟨P, fun _ p' => OnlyFiles s.provider p', fun _ => True⟩ s.provider)
    (hok : ∀ reply s', P reply s'.provider → Q.ok reply s')
    (herror : ∀ e s', ((∃ reply, P reply s'.provider) ∨ OnlyFiles s.provider s'.provider) →
      Q.error e s')
    (hcrash : ∀ s', Q.crashed s') :
    (NotificationEventService.program sdk call).wp A Q s := by
  have hsame : ∀ {reply : ProviderReply} {p' : FreedesktopNotificationProvider}
      {s' : NotificationEventService}, P reply p' → s'.provider = p' →
      P reply s'.provider := by
    rintro reply p' s' hp rfl
    exact hp
  cases call with
  | notify request now =>
      simp only [NotificationEventService.program, NotificationEventService.notify,
        ProviderCall.program, wp_bind, wp_get] at hcall ⊢
      rw [wp_onProvider]
      refine wp_mono ?_ ?_ ?_ hcall
      rotate_left
      · exact fun e p' hp => herror e _ (Or.inr hp)
      · exact fun _ _ => hcrash _
      intro outcome p' hp
      simp only
      refine wp_each_publish ?_ fun e s' hs' => herror e s' (Or.inl ⟨_, hsame hp hs'⟩)
      intro s' hs'
      refine wp_publish ?_ ?_
      · exact fun s'' hs'' => hok _ s'' (hsame hp (hs''.trans hs'))
      · exact fun e s'' hs'' => herror e s'' (Or.inl ⟨_, hsame hp (hs''.trans hs')⟩)
  | execute command =>
      simp only [NotificationEventService.program, NotificationEventService.execute,
        ProviderCall.program, wp_bind] at hcall ⊢
      rw [wp_onProvider]
      refine wp_mono ?_ ?_ ?_ hcall
      rotate_left
      · exact fun e p' hp => herror e _ (Or.inr hp)
      · exact fun _ _ => hcrash _
      intro _ p' hp
      refine wp_publish ?_ fun e s' hs' => herror e s' (Or.inl ⟨_, hsame hp hs'⟩)
      exact fun s' hs' => hok _ s' (hsame hp hs')
  | advancePopupTime now =>
      simp only [NotificationEventService.program, NotificationEventService.advancePopupTime,
        ProviderCall.program, wp_bind] at hcall ⊢
      rw [wp_onProvider]
      refine wp_mono ?_ ?_ ?_ hcall
      rotate_left
      · exact fun e p' hp => herror e _ (Or.inr hp)
      · exact fun _ _ => hcrash _
      intro ids p' hp
      refine wp_each_publish ?_ fun e s' hs' => herror e s' (Or.inl ⟨_, hsame hp hs'⟩)
      exact fun s' hs' => hok _ s' (hsame hp hs')
  | originLost origin =>
      simp only [NotificationEventService.program, NotificationEventService.originLost,
        ProviderCall.program, wp_bind, wp_get] at hcall ⊢
      rw [wp_onProvider]
      refine wp_mono ?_ ?_ ?_ hcall
      rotate_left
      · exact fun e p' hp => herror e _ (Or.inr hp)
      · exact fun _ _ => hcrash _
      intro _ p' hp
      refine wp_each_publish ?_ fun e s' hs' => herror e s' (Or.inl ⟨_, hsame hp hs'⟩)
      exact fun s' hs' => hok _ s' (hsame hp hs')

end Service

/-- The popups whose time is over. -/
def expiredIds (now : Nat) (p : FreedesktopNotificationProvider) : List Nat :=
  FreedesktopNotificationProvider.sortedIds (FreedesktopNotificationProvider.expired now) p.popups

theorem mem_expiredIds {now id : Nat} {p : FreedesktopNotificationProvider} :
    id ∈ expiredIds now p ↔
      ∃ deadline, p.popups.get? id = some (some deadline) ∧ deadline ≤ now := by
  unfold expiredIds
  rw [mem_sortedIds]
  constructor
  · rintro ⟨deadline, hget, hexpired⟩
    cases deadline with
    | none => cases hexpired
    | some deadline =>
        exact ⟨deadline, hget,
          by simpa [FreedesktopNotificationProvider.expired] using hexpired⟩
  · rintro ⟨deadline, hget, hle⟩
    exact ⟨some deadline, hget, by simpa [FreedesktopNotificationProvider.expired] using hle⟩

/-- What a successful operation of the provider does to identifiers and popups. -/
structure CallFacts (call : ProviderCall) (p : FreedesktopNotificationProvider)
    (reply : ProviderReply) (p' : FreedesktopNotificationProvider) : Prop where
  coherent : Coherent p'
  evolves : Evolves p p'
  dismissed : ∀ id, call = .execute (.dismiss id) →
    id ∈ notificationIds p.store.active ∧ id ∉ notificationIds p'.store.active
  expired : ∀ ids, reply = .expired ids →
    ∃ now, call = .advancePopupTime now ∧ ids = expiredIds now p ∧ p'.store = p.store ∧
      ∀ id ∈ ids, p.popupVisible id = true ∧ p'.popupVisible id = false

section Provider

variable {A : Answer NotificationFile String → Prop}
variable {sdk : NotificationSdk} {p : FreedesktopNotificationProvider}

theorem nodup_sortedIds
    {α : Type} (q : α → Bool) (table : Table Nat α) :
    (FreedesktopNotificationProvider.sortedIds q table).Nodup := by
  unfold FreedesktopNotificationProvider.sortedIds
  rw [(List.mergeSort_perm _ _).nodup_iff]
  exact table.nodup.sublist (List.filter_sublist.map Prod.fst)

theorem dismiss_leaves
    {id : Nat} :
    ((ProviderCall.execute (.dismiss id)).program sdk).wp A
      ⟨fun reply p' => reply = .done ∧ id ∈ notificationIds p.store.active ∧
          id ∉ notificationIds p'.store.active,
        fun _ _ => True, fun _ => True⟩ p := by
  simp only [ProviderCall.program, FreedesktopNotificationProvider.execute, wp_bind]
  rw [wp_onStore]
  refine NotificationStore.wp_dismiss ⟨fun _ _ _ => trivial, fun _ => trivial⟩ ?_
  intro n active htake hvalid files
  obtain ⟨rfl, hperm⟩ := takeOut_eq_some htake
  simp only [wp_modify, wp_pure]
  refine ⟨trivial, mem_notificationIds.mpr ⟨n, hperm.symm.subset (by simp), rfl⟩, ?_⟩
  -- the notification is in the archive now, and identifiers are unique
  intro hactive
  rw [notificationIds_append, validIds_append] at hvalid
  refine hvalid.2.2 hactive ?_
  exact mem_notificationIds.mpr ⟨NotificationStore.markArchived n, by simp, rfl⟩

theorem advance_expires
    {now : Nat} :
    ((ProviderCall.advancePopupTime now).program sdk).wp A
      ⟨fun reply p' => reply = .expired (expiredIds now p) ∧ p'.store = p.store ∧
          ∀ id ∈ expiredIds now p, p.popupVisible id = true ∧ p'.popupVisible id = false,
        fun _ _ => True, fun _ => True⟩ p := by
  simp only [ProviderCall.program, FreedesktopNotificationProvider.advancePopupTime,
    wp_bind, wp_get, wp_modify, wp_pure]
  refine ⟨rfl, trivial, ?_⟩
  intro id hid
  refine ⟨?_, ?_⟩
  · obtain ⟨d, hget, _⟩ := mem_sortedIds.mp hid
    exact popupVisible_eq_true_iff.mpr ⟨d, hget⟩
  · rw [← Bool.not_eq_true, popupVisible_eq_true_iff]
    rintro ⟨d, hget⟩
    unfold expiredIds at hid
    rw [removeAll_get?, if_pos hid] at hget
    cases hget

theorem call_facts
    (call : ProviderCall)
    (h : Coherent p) :
    (call.program sdk).wp A
      ⟨CallFacts call p, fun _ p' => OnlyFiles p p', fun _ => True⟩ p := by
  have hstep : (call.program sdk).wp A (stepPost call p) p := call_step call h
  have hcombine : ∀ {R : ProviderReply → FreedesktopNotificationProvider → Prop},
      (∀ reply p', R reply p' →
        (∀ id, call = .execute (.dismiss id) →
          id ∈ notificationIds p.store.active ∧ id ∉ notificationIds p'.store.active) ∧
        ∀ ids, reply = .expired ids →
          ∃ now, call = .advancePopupTime now ∧ ids = expiredIds now p ∧ p'.store = p.store ∧
            ∀ id ∈ ids, p.popupVisible id = true ∧ p'.popupVisible id = false) →
      (call.program sdk).wp A ⟨R, fun _ _ => True, fun _ => True⟩ p →
      (call.program sdk).wp A
        ⟨CallFacts call p, fun _ p' => OnlyFiles p p', fun _ => True⟩ p := by
    intro R hR heffect
    refine wp_mono ?_ ?_ (fun _ _ => trivial) (wp_and hstep heffect)
    · rintro reply p' ⟨hpost, hr⟩
      exact ⟨hpost.1, hpost.2.2, (hR reply p' hr).1, (hR reply p' hr).2⟩
    · rintro e p' ⟨hpost, _⟩
      exact hpost.1
  cases call with
  | notify request now =>
      refine hcombine (R := fun reply _ => ∃ outcome, reply = .notified outcome) ?_ ?_
      · rintro _ _ ⟨outcome, rfl⟩
        exact ⟨by simp, by simp⟩
      · simp only [ProviderCall.program, wp_bind]
        refine wp_of_forall ?_ (fun _ _ => trivial) (fun _ => trivial) p
        exact fun outcome _ => ⟨outcome, rfl⟩
  | advancePopupTime now =>
      refine hcombine ?_ advance_expires
      rintro _ _ ⟨rfl, hfacts⟩
      refine ⟨by simp, ?_⟩
      rintro ids' heq
      cases heq
      exact ⟨now, rfl, rfl, hfacts⟩
  | originLost origin =>
      refine hcombine (R := fun reply _ => reply = .done) ?_ ?_
      · rintro _ _ rfl
        exact ⟨by simp, by simp⟩
      · simp only [ProviderCall.program, wp_bind]
        exact wp_of_forall (fun _ _ => rfl) (fun _ _ => trivial) (fun _ => trivial) p
  | execute command =>
      by_cases hdismiss : ∃ id, command = .dismiss id
      · obtain ⟨id, rfl⟩ := hdismiss
        refine hcombine ?_ dismiss_leaves
        rintro _ _ ⟨rfl, hleaves⟩
        refine ⟨?_, by simp⟩
        rintro id' heq
        cases heq
        exact hleaves
      · refine hcombine (R := fun reply _ => reply = .done) ?_ ?_
        · rintro _ _ rfl
          refine ⟨?_, by simp⟩
          rintro id heq
          cases heq
          exact absurd ⟨id, rfl⟩ hdismiss
        · simp only [ProviderCall.program, wp_bind]
          exact wp_of_forall (fun _ _ => rfl) (fun _ _ => trivial) (fun _ => trivial) p

end Provider

/-- What every step of the server does to the provider and the signals. -/
structure StepLaw (event : ServerEvent) (s s' : NotificationDbusServer) : Prop where
  coherent : Coherent s'.provider
  evolves : Evolves s.provider s'.provider
  emission : ∃ new, Emission event s s' new

/-- A call of `CloseNotification` that succeeds emits its signal, any other step none. -/
def serverPost (event : ServerEvent) (s : NotificationDbusServer) :
    Post NotificationDbusServer IoError Unit where
  ok _ s' := StepLaw event s s' ∧ ∀ id, event = .closeNotification id →
    s'.signals = s.signals ++ [.notificationClosed id 3]
  error _ s' := StepLaw event s s' ∧ ∀ id, event = .closeNotification id →
    s'.signals = s.signals
  crashed _ := True

section Server

variable {A : Answer NotificationFile String → Prop}
variable {sdk : NotificationSdk} {s : NotificationDbusServer} {event : ServerEvent}

theorem wp_onService
    {α : Type}
    (m : ServiceProgram α)
    (Q : Post NotificationDbusServer IoError α)
    (s : NotificationDbusServer) :
    (onService m).wp A Q s ↔
      m.wp A
        ⟨fun a service => Q.ok a { s with service := service },
          fun e service => Q.error e { s with service := service },
          fun service => Q.crashed { s with service := service }⟩ s.service :=
  wp_zoom_field m Q s

theorem wp_sendSignal
    {Q : Post NotificationDbusServer IoError Unit} {signal : Signal}
    (hok : Q.ok ()
      { s with signals := s.signals ++ [signal], rejections := s.rejections.tail })
    (herror : ∀ e, Q.error e { s with rejections := s.rejections.tail }) :
    (sendSignal signal).wp A Q s := by
  unfold sendSignal
  simp only [wp_bind, wp_get, wp_modify]
  split
  · exact herror _
  · exact hok

theorem evolves_refl (p : FreedesktopNotificationProvider) : Evolves p p :=
  .of_subset rfl fun _ hid => hid

theorem OnlyFiles.evolves
    {p p' : FreedesktopNotificationProvider}
    (h : OnlyFiles p p') :
    Evolves p p' := by
  obtain ⟨files, rfl⟩ := h
  exact .of_subset rfl fun _ hid => hid

theorem emission_nil
    {s' : NotificationDbusServer}
    (h : s'.signals = s.signals) :
    Emission event s s' [] :=
  ⟨by simp [h], by simp, by simp⟩

theorem emission_singleton
    {s' : NotificationDbusServer} {signal : Signal}
    (hsignals : s'.signals = s.signals ++ [signal])
    (hjustified : Justified event s s' signal) :
    Emission event s s' [signal] :=
  ⟨hsignals, by simpa using hjustified, by simp⟩

/-- A step that emits nothing, whatever it does to the service. -/
theorem stepLaw_silent
    {s' : NotificationDbusServer}
    (h : Coherent s.provider)
    (hsignals : s'.signals = s.signals)
    (hprovider : (∃ call reply, CallFacts call s.provider reply s'.provider) ∨
      OnlyFiles s.provider s'.provider) :
    StepLaw event s s' := by
  rcases hprovider with ⟨call, reply, hfacts⟩ | hfiles
  · exact ⟨hfacts.coherent, hfacts.evolves, [], emission_nil hsignals⟩
  · exact ⟨hfiles.coherent h, hfiles.evolves, [], emission_nil hsignals⟩

/-- An operation of the service that the server does nothing else with. -/
theorem wp_service_silent
    (A : Answer NotificationFile String → Prop)
    (sdk : NotificationSdk) (event : ServerEvent) (call : ProviderCall)
    (h : Coherent s.provider)
    (hevent : ∀ id, event ≠ .closeNotification id) :
    (NotificationEventService.program sdk call).wp A
      ⟨fun _ service => (serverPost event s).ok () { s with service := service },
        fun e service => (serverPost event s).error e { s with service := service },
        fun service => (serverPost event s).crashed { s with service := service }⟩
      s.service := by
  refine wp_service (call_facts call h) ?_ ?_ fun _ => trivial
  · intro reply s' hfacts
    exact ⟨stepLaw_silent h rfl (Or.inl ⟨call, reply, hfacts⟩),
      fun id heq => absurd heq (hevent id)⟩
  · rintro e s' hprovider
    refine ⟨stepLaw_silent h rfl ?_, fun id heq => absurd heq (hevent id)⟩
    rcases hprovider with ⟨reply, hfacts⟩ | hfiles
    · exact Or.inl ⟨call, reply, hfacts⟩
    · exact Or.inr hfiles

theorem drain_law
    (h : Coherent s.provider) :
    drain.wp A (serverPost .drain s) s := by
  unfold drain
  simp only [wp_bind, wp_get]
  split
  · exact ⟨⟨h, evolves_refl _, [], emission_nil rfl⟩, by simp⟩
  · rename_i id action controls hcontrols
    simp only [wp_bind, wp_modify, wp_attempt]
    refine wp_sendSignal ?_ ?_
    · refine ⟨⟨h, evolves_refl _, _, emission_singleton rfl ⟨rfl, hcontrols⟩⟩, by simp⟩
    · intro e
      exact ⟨⟨h, evolves_refl _, [], emission_nil rfl⟩, by simp⟩

theorem closeNotification_law
    (id : Nat)
    (h : Coherent s.provider) :
    (handleClose sdk id).wp A (serverPost (.closeNotification id) s) s := by
  have hservice : (NotificationEventService.program sdk (.execute (.dismiss id))).wp A
      ⟨fun _ service =>
          (sendSignal (.notificationClosed id 3)).wp A (serverPost (.closeNotification id) s)
            { s with service := service },
        fun e service =>
          (serverPost (.closeNotification id) s).error e { s with service := service },
        fun _ => True⟩ s.service := by
    refine wp_service (call_facts (.execute (.dismiss id)) h) ?_ ?_ fun _ => trivial
    · intro reply s' hfacts
      refine wp_sendSignal ?_ ?_
      · refine ⟨⟨hfacts.coherent, hfacts.evolves, _, emission_singleton rfl ?_⟩, ?_⟩
        · obtain ⟨hbefore, hafter⟩ := hfacts.dismissed id rfl
          exact Or.inl ⟨rfl, rfl, hbefore, hafter⟩
        · rintro id' heq
          cases heq
          rfl
      · intro e
        exact ⟨⟨hfacts.coherent, hfacts.evolves, [], emission_nil rfl⟩, fun _ _ => rfl⟩
    · rintro e s' hprovider
      refine ⟨stepLaw_silent h rfl ?_, fun _ _ => rfl⟩
      rcases hprovider with ⟨reply, hfacts⟩ | hfiles
      · exact Or.inl ⟨_, reply, hfacts⟩
      · exact Or.inr hfiles
  unfold handleClose
  rw [wp_bind, wp_onService]
  simp only [NotificationEventService.program, wp_bind] at hservice
  exact hservice

/-- The signals of expired popups, or as many as the connection takes before it fails. -/
theorem wp_each_sendSignal
    {Q : Post NotificationDbusServer IoError Unit} {ids : List Nat}
    (hok : ∀ rejections, Q.ok ()
      { s with
        signals := s.signals ++ ids.map (.notificationClosed · 1)
        rejections := rejections })
    (herror : ∀ e k rejections, Q.error e
      { s with
        signals := s.signals ++ (ids.take k).map (.notificationClosed · 1)
        rejections := rejections }) :
    (each (fun id => sendSignal (.notificationClosed id 1)) ids).wp A Q s := by
  induction ids generalizing s with
  | nil => simpa using hok s.rejections
  | cons id ids ih =>
      rw [wp_each_cons]
      refine wp_sendSignal ?_ ?_
      · refine ih ?_ ?_
        · intro rejections
          simpa using hok rejections
        · intro e k rejections
          simpa using herror e (k + 1) rejections
      · intro e
        simpa using herror e 0 s.rejections.tail

/-- The popups that an operation has just expired may be reported as closed. -/
theorem emission_expired
    {now : Nat} {ids : List Nat} {service : NotificationEventService}
    {s' : NotificationDbusServer}
    (h : Coherent s.provider)
    (hfacts : CallFacts (.advancePopupTime now) s.provider (.expired ids) service.provider)
    (hservice : s'.service = service)
    {reported : List Nat}
    (hreported : reported.Sublist ids)
    (hsignals : s'.signals = s.signals ++ reported.map (.notificationClosed · 1)) :
    StepLaw (.tick now) s s' := by
  obtain ⟨now', hcall, rfl, hstore, hvisible⟩ := hfacts.expired ids rfl
  cases hcall
  subst hservice
  refine ⟨hfacts.coherent, hfacts.evolves, _, hsignals, ?_, ?_⟩
  · intro signal hmem
    obtain ⟨id, hid, rfl⟩ := List.mem_map.mp hmem
    have hids := hreported.subset hid
    obtain ⟨hbefore, hafter⟩ := hvisible id hids
    obtain ⟨deadline, hget, hle⟩ := mem_expiredIds.mp hids
    refine Or.inr ⟨rfl, ⟨now, deadline, rfl, hget, hle⟩, hbefore, hafter,
      h.popups id _ hget, ?_⟩
    exact congrArg NotificationStore.active hstore
  · refine List.Nodup.map ?_ ((nodup_sortedIds _ _).sublist hreported)
    intro id id' heq
    cases heq
    rfl

/-- Advancing the time expires the popups whose time is over. -/
theorem advance_service
    (sdk : NotificationSdk) (now : Nat)
    (h : Coherent s.provider) :
    (NotificationEventService.advancePopupTime now).wp A
      ⟨fun ids service => ids = expiredIds now s.provider ∧
          CallFacts (.advancePopupTime now) s.provider (.expired ids) service.provider,
        fun _ service =>
          (∃ reply, CallFacts (.advancePopupTime now) s.provider reply service.provider) ∨
            OnlyFiles s.provider service.provider,
        fun _ => True⟩ s.service := by
  have hcall : ((ProviderCall.advancePopupTime now).program sdk).wp A
      ⟨fun reply p' => reply = .expired (expiredIds now s.provider) ∧
          CallFacts (.advancePopupTime now) s.provider reply p',
        fun _ p' => OnlyFiles s.provider p', fun _ => True⟩ s.provider := by
    refine wp_mono ?_ ?_ (fun _ _ => trivial)
      (wp_and (call_facts (.advancePopupTime now) h) advance_expires)
    · rintro reply p' ⟨hfacts, hreply, _⟩
      exact ⟨hreply, hfacts⟩
    · rintro e p' ⟨hfiles, _⟩
      exact hfiles
  have hservice : (NotificationEventService.program sdk (.advancePopupTime now)).wp A
      ⟨fun reply service => reply = .expired (expiredIds now s.provider) ∧
          CallFacts (.advancePopupTime now) s.provider reply service.provider,
        fun _ service =>
          (∃ reply, CallFacts (.advancePopupTime now) s.provider reply service.provider) ∨
            OnlyFiles s.provider service.provider,
        fun _ => True⟩ s.service := by
    refine wp_service hcall ?_ ?_ fun _ => trivial
    · rintro reply s' ⟨hreply, hfacts⟩
      exact ⟨hreply, hfacts⟩
    · rintro e s' (⟨reply, _, hfacts⟩ | hfiles)
      · exact Or.inl ⟨reply, hfacts⟩
      · exact Or.inr hfiles
  simp only [NotificationEventService.program, wp_bind, wp_pure] at hservice
  refine wp_mono ?_ ?_ ?_ hservice
  · rintro ids service ⟨hreply, hfacts⟩
    cases hreply
    exact ⟨rfl, hfacts⟩
  · exact fun _ _ h => h
  · exact fun _ h => h

theorem tick_law
    (sdk : NotificationSdk) (now : Nat)
    (h : Coherent s.provider) :
    (tick now).wp A (serverPost (.tick now) s) s := by
  unfold tick
  simp only [wp_bind, wp_get]
  split
  · exact ⟨⟨h, evolves_refl _, [], emission_nil rfl⟩, by simp⟩
  simp only [wp_bind, wp_attempt]
  rw [wp_onService]
  refine wp_mono ?_ ?_ (fun _ _ => trivial) (advance_service sdk now h)
  · rintro ids service ⟨-, hfacts⟩
    simp only
    refine wp_each_sendSignal ?_ ?_
    · intro rejections
      exact ⟨emission_expired h hfacts rfl List.filter_sublist rfl, by simp⟩
    · intro e k rejections
      exact ⟨emission_expired h hfacts rfl
        ((List.take_sublist k _).trans List.filter_sublist) rfl, by simp⟩
  · rintro e service hprovider
    refine ⟨stepLaw_silent h rfl ?_, by simp⟩
    rcases hprovider with ⟨reply, hfacts⟩ | hfiles
    · exact Or.inl ⟨_, reply, hfacts⟩
    · exact Or.inr hfiles

/-- A tick after which the thread goes on has reported every popup whose time is over. -/
theorem tick_reports
    (sdk : NotificationSdk) (now : Nat)
    (h : Coherent s.provider) :
    (tick now).wp A
      ⟨fun _ s' => s'.stopped = false →
          s'.signals = s.signals ++ (expiredIds now s.provider).map (.notificationClosed · 1),
        fun _ _ => False, fun _ => True⟩ s := by
  have hrange : (expiredIds now s.provider).filter (· ≤ maxNotificationId) =
      expiredIds now s.provider := by
    refine List.filter_eq_self.mpr fun id hid => ?_
    obtain ⟨deadline, hget, -⟩ := mem_expiredIds.mp hid
    have hids := h.ids
    rw [notificationIds_append] at hids
    exact decide_eq_true ((validIds_append.mp hids).1.1 id (h.popups id _ hget)).2
  unfold tick
  simp only [wp_bind, wp_get]
  split
  · exact fun hrunning => by cases hrunning
  simp only [wp_bind, wp_attempt]
  rw [wp_onService]
  refine wp_mono ?_ ?_ (fun _ _ => trivial) (advance_service sdk now h)
  · rintro ids service ⟨rfl, -⟩
    simp only [hrange]
    refine wp_each_sendSignal ?_ ?_
    · exact fun _ _ => rfl
    · exact fun _ _ _ hrunning => by cases hrunning
  · exact fun _ _ _ hrunning => by cases hrunning

/-- Every step of the server obeys the law of its event. -/
theorem step_law
    (sdk : NotificationSdk) (event : ServerEvent)
    (h : Coherent s.provider) :
    (step sdk event).wp A (serverPost event s) s := by
  have hsame : StepLaw event s s := ⟨h, evolves_refl _, [], emission_nil rfl⟩
  cases event with
  | drain => exact drain_law h
  | closeNotification id => exact closeNotification_law id h
  | tick now => exact tick_law sdk now h
  | notify request now =>
      have hservice :=
        wp_service_silent A sdk (.notify request now) (.notify request now) h (by simp)
      simp only [NotificationEventService.program, wp_bind] at hservice
      simp only [step, handleNotify, wp_bind, wp_pure]
      rw [wp_onService]
      exact hservice
  | command c =>
      have hservice :=
        wp_service_silent A sdk (.command c) (.execute c) h (by simp)
      simp only [NotificationEventService.program, wp_bind] at hservice
      simp only [step, command]
      rw [wp_onService]
      exact hservice
  | ownerLost name =>
      have hservice :=
        wp_service_silent A sdk (.ownerLost name) (.originLost name) h (by simp)
      simp only [NotificationEventService.program, wp_bind] at hservice
      simp only [step, ownerLost, wp_bind, wp_attempt]
      rw [wp_onService]
      refine wp_mono ?_ ?_ (fun _ _ => trivial) hservice
      · exact fun _ service hpost => hpost
      · rintro e service ⟨hlaw, _⟩
        refine ⟨⟨hlaw.coherent, hlaw.evolves, [], emission_nil rfl⟩, by simp⟩
  | invoke id action =>
      simp only [step, invoke, wp_bind, wp_get]
      split
      · exact ⟨hsame, by simp⟩
      · simp only [wp_bind, wp_orThrow]
        refine ⟨fun _ _ => ?_, fun _ _ => ⟨hsame, by simp⟩⟩
        exact ⟨⟨h, evolves_refl _, [], emission_nil rfl⟩, by simp⟩
  | enqueue position =>
      simp only [step, enqueue, wp_bind, wp_get]
      split
      · exact ⟨hsame, by simp⟩
      · simp only [wp_bind, wp_modify]
        split
        · exact ⟨⟨h, evolves_refl _, [], emission_nil rfl⟩, by simp⟩
        · exact ⟨⟨h, evolves_refl _, [], emission_nil rfl⟩, by simp⟩

end Server

/-- What a step does to the invocations that are accepted and to the queue. -/
inductive Queues (event : ServerEvent) (outcome : Outcome IoError Unit)
    (s s' : NotificationDbusServer) : Prop where
  | same (hinvoking : s'.invoking = s.invoking) (hcontrols : s'.controls = s.controls)
      (hrefused : ∀ id action, event = .invoke id action → outcome ≠ .ok ())
  /-- An invocation is accepted for an action that can be invoked. -/
  | accepted {id : Nat} {action : String} {invocation : ActionInvocation}
      (hevent : event = .invoke id action) (houtcome : outcome = .ok ())
      (hinvocation : s.provider.invokeAction id action = .ok invocation)
      (hinvoking : s'.invoking = s.invoking ++ [(id, action)])
      (hcontrols : s'.controls = s.controls)
  /-- One that was accepted is queued, unless the thread has ended. -/
  | queued {position : Nat} {invocation : Nat × String}
      (hevent : event = .enqueue position)
      (hposition : s.invoking[position]? = some invocation)
      (hinvoking : s'.invoking = s.invoking.eraseIdx position)
      (hcontrols : s'.controls = s.controls ++ if s.stopped then [] else [invocation])
  /-- The first of the queue is sent, or the thread ends. -/
  | sent {invocation : Nat × String}
      (hevent : event = .drain) (hcontrols : s.controls = invocation :: s'.controls)
      (hinvoking : s'.invoking = s.invoking)
      (hsent : s'.signals = s.signals ++ [.actionInvoked invocation.1 invocation.2] ∨
        s'.stopped = true)

section Queue

variable {A : Answer NotificationFile String → Prop}
variable {sdk : NotificationSdk} {s : NotificationDbusServer} {event : ServerEvent}

/-- A step leaves both lists as they are. -/
def sameQueues (event : ServerEvent) (s : NotificationDbusServer) :
    Post NotificationDbusServer IoError Unit where
  ok _ s' := Queues event (.ok ()) s s'
  error e s' := Queues event (.error e) s s'
  crashed _ := True

theorem queues_of_service {α : Type} {m : ServiceProgram α}
    {f : α → NotificationDbusServer → Prop} {g : IoError → NotificationDbusServer → Prop}
    (hok : ∀ a service, f a { s with service := service })
    (herror : ∀ e service, g e { s with service := service }) :
    (onService m).wp A ⟨f, g, fun _ => True⟩ s := by
  rw [wp_onService]
  exact wp_of_forall hok herror (fun _ => trivial) s.service

theorem queues_law (sdk : NotificationSdk) (event : ServerEvent) (s : NotificationDbusServer) :
    (step sdk event).wp A (sameQueues event s) s := by
  have hsame : ∀ {outcome : Outcome IoError Unit} {s' : NotificationDbusServer},
      (∀ id action, event ≠ .invoke id action) → s'.invoking = s.invoking →
        s'.controls = s.controls → Queues event outcome s s' :=
    fun hevent hinvoking hcontrols =>
      .same hinvoking hcontrols fun id action heq => absurd heq (hevent id action)
  cases event with
  | drain =>
      simp only [step, drain, wp_bind, wp_get]
      split
      · exact hsame (by simp) rfl rfl
      · rename_i id action controls hcontrols
        simp only [wp_bind, wp_modify, wp_attempt]
        refine wp_sendSignal ?_ ?_
        · exact Queues.sent rfl hcontrols rfl (Or.inl rfl)
        · exact fun e => Queues.sent rfl hcontrols rfl (Or.inr rfl)
  | notify request now =>
      simp only [step, handleNotify, wp_bind]
      exact queues_of_service (fun _ _ => hsame (by simp) rfl rfl)
        fun _ _ => hsame (by simp) rfl rfl
  | closeNotification id =>
      simp only [step, handleClose, wp_bind]
      refine queues_of_service (fun _ service => ?_) fun _ _ => hsame (by simp) rfl rfl
      exact wp_sendSignal (hsame (by simp) rfl rfl) fun _ => hsame (by simp) rfl rfl
  | ownerLost name =>
      simp only [step, ownerLost, wp_bind, wp_attempt]
      exact queues_of_service (fun _ _ => hsame (by simp) rfl rfl)
        fun _ _ => hsame (by simp) rfl rfl
  | tick now =>
      simp only [step, tick, wp_bind, wp_get]
      split
      · exact hsame (by simp) rfl rfl
      · simp only [wp_bind, wp_attempt]
        refine queues_of_service (fun ids service => ?_) fun _ _ => hsame (by simp) rfl rfl
        exact wp_each_sendSignal (fun _ => hsame (by simp) rfl rfl)
          fun _ _ _ => hsame (by simp) rfl rfl
  | command c =>
      simp only [step, command]
      exact queues_of_service (fun _ _ => hsame (by simp) rfl rfl)
        fun _ _ => hsame (by simp) rfl rfl
  | invoke id action =>
      have hrefused : ∀ e : IoError, Queues (.invoke id action) (.error e) s s :=
        fun e => .same rfl rfl fun _ _ _ heq => by cases heq
      simp only [step, invoke, wp_bind, wp_get]
      split
      · exact hrefused _
      · simp only [wp_bind, wp_orThrow]
        exact ⟨fun invocation hinvocation => .accepted rfl rfl hinvocation rfl rfl,
          fun e _ => hrefused e⟩
  | enqueue position =>
      simp only [step, enqueue, wp_bind, wp_get]
      split
      · exact hsame (by simp) rfl rfl
      · rename_i invocation hposition
        simp only [wp_bind, wp_modify]
        split
        case isTrue hstopped =>
          exact Queues.queued rfl hposition rfl (by simp [hstopped])
        case isFalse hrunning =>
          exact Queues.queued rfl hposition rfl (by simp [hrunning])

end Queue

/-- What the runs of a server preserve. -/
structure SignalInvariant (s : NotificationDbusServer) : Prop where
  coherent : Coherent s.provider
  retired : ∀ id, Signal.notificationClosed id 3 ∈ s.signals →
    id ∉ notificationIds s.provider.store.active ∧
      id < s.provider.store.preferences.nextNotificationId
  ordered : s.signals.Pairwise fun a b =>
    ∀ id reason, a = .notificationClosed id 3 → b ≠ .notificationClosed id reason

section Runs

variable {sdk : NotificationSdk} {s s' : NotificationDbusServer} {event : ServerEvent}

/-- A notification that is closed by a step was active before it. -/
theorem Justified.active
    {id reason : Nat}
    (h : Justified event s s' (.notificationClosed id reason)) :
    id ∈ notificationIds s.provider.store.active := by
  rcases h with ⟨_, _, hactive, _⟩ | ⟨_, _, _, _, hactive, _⟩
  · exact hactive
  · exact hactive

theorem signalInvariant_step
    (h : SignalInvariant s)
    (hlaw : StepLaw event s s') :
    SignalInvariant s' := by
  obtain ⟨new, hsignals, hjustified, hnodup⟩ := hlaw.emission
  refine ⟨hlaw.coherent, ?_, ?_⟩
  · intro id hmem
    rw [hsignals, List.mem_append] at hmem
    rcases hmem with hmem | hmem
    · obtain ⟨hinactive, hbelow⟩ := h.retired id hmem
      refine ⟨?_, hbelow.trans_le hlaw.evolves.counter⟩
      intro hactive
      rcases hlaw.evolves.active id hactive with hactive | hnew
      · exact hinactive hactive
      · omega
    · rcases hjustified _ hmem with ⟨_, _, hbefore, hafter⟩ | ⟨hreason, _⟩
      · refine ⟨hafter, (h.coherent.fresh id ?_).trans_le hlaw.evolves.counter⟩
        rw [notificationIds_append, List.mem_append]
        exact Or.inl hbefore
      · cases hreason
  · rw [hsignals, List.pairwise_append]
    refine ⟨h.ordered, hnodup.imp_of_mem ?_, ?_⟩
    · rintro a b ha hb hne id reason rfl rfl
      -- both close the same notification in one step, so they are the same signal
      rcases hjustified _ ha with ⟨_, hevent, _⟩ | ⟨hreason, _⟩
      · rcases hjustified _ hb with ⟨hreason, _⟩ | ⟨_, ⟨now, deadline, htick⟩, _⟩
        · exact hne (by rw [hreason])
        · rw [hevent] at htick
          cases htick.1
      · cases hreason
    · rintro a ha b hb id reason rfl rfl
      exact (h.retired id ha).1 (hjustified _ hb).active

theorem run_step
    {script : List (Answer NotificationFile String)} {outcome : Outcome IoError Unit}
    (h : Coherent s.provider)
    (hrun : (step sdk event).run script s = (outcome, s')) :
    (serverPost event s).holds (outcome, s') := by
  exact holds_of_run hrun (step_law sdk event h)

theorem stepLaw_of_run
    {script : List (Answer NotificationFile String)} {outcome : Outcome IoError Unit}
    (h : Coherent s.provider)
    (hcrash : outcome ≠ .crashed)
    (hrun : (step sdk event).run script s = (outcome, s')) :
    StepLaw event s s' := by
  have hpost := run_step h hrun
  cases outcome with
  | ok _ => exact hpost.1
  | error e => exact hpost.1
  | crashed => exact absurd rfl hcrash

theorem signalInvariant_of_reachable
    (h : (serverSystem sdk).Reachable s) :
    SignalInvariant s := by
  refine h.invariant ?_ ?_
  · rintro s ⟨_, _, hsignals, _, _, history, hreachable⟩
    refine ⟨(runInvariant_of_reachable hreachable).1, ?_, ?_⟩ <;> simp [hsignals]
  · rintro s ⟨event, script⟩ s' hs ⟨_, outcome, hcrash, hrun⟩
    exact signalInvariant_step hs (stepLaw_of_run hs.coherent hcrash hrun)

end Runs

/-- The lifecycle that the signals of a server describe. -/
structure SignalLaws (sdk : NotificationSdk) (s : NotificationDbusServer) : Prop where
  /-- Reason 3 is emitted at most once for a notification, and nothing closes it later. -/
  closed_last : s.signals.Pairwise fun a b =>
    ∀ id reason, a = .notificationClosed id 3 → b ≠ .notificationClosed id reason
  closed_inactive : ∀ id, Signal.notificationClosed id 3 ∈ s.signals →
    id ∉ notificationIds s.provider.store.active
  /-- No action of a closed notification is accepted. -/
  closed_refused : ∀ id action script s', Signal.notificationClosed id 3 ∈ s.signals →
    (invoke id action).run script s ≠ (.ok (), s')
  /-- Every signal of a step is justified. -/
  step_justified : ∀ event script outcome s', outcome ≠ .crashed →
    (step sdk event).run script s = (outcome, s') → ∃ new, Emission event s s' new
  /-- A successful call emits exactly its own signal, a failing one none. -/
  close_ok : ∀ id script s',
    (step sdk (.closeNotification id)).run script s = (.ok (), s') →
      s'.signals = s.signals ++ [.notificationClosed id 3]
  close_error : ∀ id script e s',
    (step sdk (.closeNotification id)).run script s = (.error e, s') →
      s'.signals = s.signals
  /-- A tick that does not end the thread reports the popups whose time is over, and no other. -/
  tick_ok : ∀ now script s', (step sdk (.tick now)).run script s = (.ok (), s') →
    s'.stopped = false → ∃ ids : List Nat,
      s'.signals = s.signals ++ ids.map (.notificationClosed · 1) ∧
        ∀ id, id ∈ ids ↔ ∃ deadline, s.provider.popups.get? id = some (some deadline) ∧
          deadline ≤ now
  /-- The queue holds accepted invocations, which leave it in their order. -/
  queues : ∀ event script outcome s', outcome ≠ .crashed →
    (step sdk event).run script s = (outcome, s') → Queues event outcome s s'

theorem wp_invoke_active
    {A : Answer NotificationFile String → Prop}
    {s : NotificationDbusServer} (id : Nat) (action : String) :
    (invoke id action).wp A
      ⟨fun _ _ => id ∈ notificationIds s.provider.store.active, fun _ _ => True,
        fun _ => True⟩ s := by
  unfold invoke
  simp only [wp_bind, wp_get]
  split
  · trivial
  · simp only [wp_bind, wp_orThrow]
    refine ⟨fun invocation hinvoke => ?_, fun _ _ => trivial⟩
    obtain ⟨_, _, ⟨n, hn, hid, _⟩, _⟩ := invokeAction_eq_ok hinvoke
    exact mem_notificationIds.mpr ⟨n, hn, hid⟩

/-- The signals of every run of the server describe the lifecycle of its notifications. -/
theorem signal_laws
    (sdk : NotificationSdk)
    {s : NotificationDbusServer}
    (h : (serverSystem sdk).Reachable s) :
    SignalLaws sdk s := by
  have hinvariant := signalInvariant_of_reachable h
  refine ⟨hinvariant.ordered, fun id hid => (hinvariant.retired id hid).1, ?_, ?_, ?_, ?_, ?_,
    ?_⟩
  · intro id action script s' hclosed hrun
    have hactive := holds_of_run hrun (wp_invoke_active id action)
    exact (hinvariant.retired id hclosed).1 hactive
  · intro event script outcome s' hcrash hrun
    exact (stepLaw_of_run hinvariant.coherent hcrash hrun).emission
  · intro id script s' hrun
    exact (run_step hinvariant.coherent hrun).2 id rfl
  · intro id script e s' hrun
    exact (run_step hinvariant.coherent hrun).2 id rfl
  · intro now script s' hrun hrunning
    exact ⟨_, holds_of_run hrun (tick_reports sdk now hinvariant.coherent) hrunning,
      fun id => mem_expiredIds⟩
  · intro event script outcome s' hcrash hrun
    have hqueues := holds_of_run hrun (queues_law sdk event s)
    cases outcome with
    | ok _ => exact hqueues
    | error e => exact hqueues
    | crashed => exact absurd rfl hcrash

section Sample

/-- A server that was just started over the given provider. -/
def NotificationDbusServer.started (provider : FreedesktopNotificationProvider) :
    NotificationDbusServer :=
  ⟨⟨provider, [], []⟩, [], [], [], [], none, false⟩

/-- The server after one more step. -/
def NotificationDbusServer.after
    (s : NotificationDbusServer) (sdk : NotificationSdk) (event : ServerEvent) :
    NotificationDbusServer :=
  ((step sdk event).run [] s).2

theorem reachable_started
    {sdk : NotificationSdk} {provider : FreedesktopNotificationProvider}
    {history : List ProviderEvent}
    (h : (providerSystem sdk).Reachable ⟨provider, history⟩) :
    (serverSystem sdk).Reachable (.started provider) :=
  .initial ⟨rfl, rfl, rfl, rfl, rfl, history, h⟩

theorem reachable_after_step
    {sdk : NotificationSdk} {s : NotificationDbusServer} (event : ServerEvent)
    (h : (serverSystem sdk).Reachable s)
    (hrunning : s.stopped = false)
    (hok : ((step sdk event).run [] s).1 = .ok ()) :
    (serverSystem sdk).Reachable (s.after sdk event) := by
  refine .step (e := (event, [])) h ⟨fun _ => hrunning, _, ?_, rfl⟩
  rw [hok]
  simp

def sampleNotify : ServerEvent :=
  match sampleCall with
  | .notify request now => .notify request now
  | _ => .drain

/-- A popup is shown, and its time passes. -/
def expiredServer : NotificationDbusServer :=
  ((NotificationDbusServer.started freshProvider).after plainSdk sampleNotify).after plainSdk
    (.tick 6000000000)

/-- No step fails before the popup is reported, and none when its notification is closed. -/
theorem expiredServer_steps :
    (let started := NotificationDbusServer.started freshProvider
      let notified := started.after plainSdk sampleNotify
      ((step plainSdk sampleNotify).run [] started).1 = .ok () ∧
        notified.stopped = false ∧
        ((step plainSdk (.tick 6000000000)).run [] notified).1 = .ok ()) ∧
    expiredServer.signals = [.notificationClosed 1 1] ∧
      expiredServer.stopped = false ∧
      ((step plainSdk (.closeNotification 1)).run [] expiredServer).1 = .ok () ∧
      (expiredServer.after plainSdk (.closeNotification 1)).signals =
        [.notificationClosed 1 1, .notificationClosed 1 3] := by
  decide +kernel

theorem expiredServer_reachable : (serverSystem plainSdk).Reachable expiredServer := by
  obtain ⟨⟨hnotified, hrunning, hticked⟩, -⟩ := expiredServer_steps
  have hstarted : (serverSystem plainSdk).Reachable (.started freshProvider) :=
    reachable_started (.initial freshRun_initial)
  exact reachable_after_step _ (reachable_after_step _ hstarted rfl hnotified) hrunning hticked

theorem signal_laws_expired :
    SignalLaws plainSdk expiredServer ∧
      expiredServer.signals = [.notificationClosed 1 1] :=
  ⟨signal_laws plainSdk expiredServer_reachable, expiredServer_steps.2.1⟩

/-- How often a notification was reported as closed. -/
def closings (id : Nat) (signals : List Signal) : Nat :=
  (signals.filter fun signal =>
    match signal with
    | .notificationClosed id' _ => id' = id
    | .actionInvoked _ _ => false).length

/-- The popup of a notification ends, and later the notification is closed. -/
theorem closed_twice :
    ¬ ∀ s, (serverSystem plainSdk).Reachable s → ∀ id, closings id s.signals ≤ 1 := by
  intro h
  obtain ⟨-, -, hrunning, hclosed, hsignals⟩ := expiredServer_steps
  have hreachable : (serverSystem plainSdk).Reachable
      (expiredServer.after plainSdk (.closeNotification 1)) :=
    reachable_after_step _ expiredServer_reachable hrunning hclosed
  have hcount : closings 1
      (expiredServer.after plainSdk (.closeNotification 1)).signals = 2 := by
    rw [hsignals]
    decide
  have hle := h _ hreachable 1
  rw [hcount] at hle
  omega

end Sample

end SleepySession
