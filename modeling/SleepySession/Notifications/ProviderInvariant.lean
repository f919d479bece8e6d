import SleepySession.Lib.Transition
import SleepySession.Notifications.Provider
import SleepySession.Notifications.StoreRules

/-!
# The invariant of the notification provider

Popups are active notifications, origins belong to notifications of the store,
and with do-not-disturb on only critical notifications are shown.  Every
operation keeps this, whatever becomes of its commit, and an operation that
fails changes nothing but files.  The history of a run tells for every
recorded origin that it sent the notification and was not lost since.
-/

namespace SleepySession

open Program SecureDirectory FreedesktopNotificationProvider

/-- The operations of a provider that change it. -/
inductive ProviderCall where
  | notify (request : NotifyRequest) (now : Nat)
  | execute (command : NotificationCommand)
  | advancePopupTime (now : Nat)
  | originLost (origin : String)
deriving DecidableEq, Repr

inductive ProviderReply where
  | notified (outcome : NotifyOutcome)
  | done
  | expired (ids : List Nat)
deriving DecidableEq, Repr

def ProviderCall.program (sdk : NotificationSdk) : ProviderCall → ProviderProgram ProviderReply
  | .notify request now => do
      let outcome ← notifyAt sdk request now
      pure (.notified outcome)
  | .execute command => do
      FreedesktopNotificationProvider.execute sdk command
      pure .done
  | .advancePopupTime now => do
      let ids ← FreedesktopNotificationProvider.advancePopupTime now
      pure (.expired ids)
  | .originLost origin => do
      FreedesktopNotificationProvider.originLost sdk origin
      pure .done

/-- An operation of a provider together with how it ended. -/
abbrev ProviderEvent := ProviderCall × Outcome IoError ProviderReply

/-- The event in which an origin sent a notification, possibly as a replacement. -/
def Sends (id : Nat) (origin : String) (event : ProviderEvent) : Prop :=
  ∃ request now outcome,
    event = (.notify request now, .ok (.notified outcome)) ∧
      outcome.id = id ∧ request.origin = origin

/-- The event in which the loss of an origin was recorded. -/
def Loses (origin : String) (event : ProviderEvent) : Prop :=
  ∃ reply, event = (.originLost origin, .ok reply)

/-- The origin sent the notification last, and was not lost since. -/
def SentBy (history : List ProviderEvent) (id : Nat) (origin : String) : Prop :=
  ∃ before event after,
    history = before ++ event :: after ∧ Sends id origin event ∧
      ∀ e ∈ after, (∀ o, ¬ Sends id o e) ∧ ¬ Loses origin e

/-- A provider with everything that happened to it. -/
structure ProviderRun where
  provider : FreedesktopNotificationProvider
  history : List ProviderEvent

/-- The runs of a provider over a store that was opened from any directory. -/
def providerSystem (sdk : NotificationSdk) :
    System ProviderRun (ProviderCall × List (Answer NotificationFile String)) where
  initial s :=
    s.history = [] ∧
      ∃ capacity aggregateLimit files files' store store' script script',
        (openWithLimits sdk capacity aggregateLimit).run script files =
          (.ok store, files') ∧
        (FreedesktopNotificationProvider.new sdk).run script' store =
          (.ok s.provider, store')
  step s event s' :=
    ∃ outcome, outcome ≠ .crashed ∧
      (event.1.program sdk).run event.2 s.provider = (outcome, s'.provider) ∧
      s'.history = s.history ++ [(event.1, outcome)]

/-- What holds between the parts of a provider. -/
structure Coherent (p : FreedesktopNotificationProvider) : Prop where
  capacity : 0 < p.store.capacity
  ids : ValidIds (notificationIds (p.store.active ++ p.store.archive))
  /-- The counter is ahead of every identifier in use. -/
  fresh : ∀ id ∈ notificationIds (p.store.active ++ p.store.archive),
    id < p.store.preferences.nextNotificationId
  popups : ∀ id d, p.popups.get? id = some d → id ∈ notificationIds p.store.active
  origins : ∀ id o, p.origins.get? id = some o →
    id ∈ notificationIds (p.store.active ++ p.store.archive)
  dnd : p.store.dnd = true → ∀ id d, p.popups.get? id = some d →
    ∀ n ∈ p.store.active, n.id = id → n.urgency = .critical

/-- Identifiers that are not active any more stay so; new ones come from the counter. -/
structure Evolves (p p' : FreedesktopNotificationProvider) : Prop where
  counter : p.store.preferences.nextNotificationId ≤ p'.store.preferences.nextNotificationId
  active : ∀ id ∈ notificationIds p'.store.active,
    id ∈ notificationIds p.store.active ∨ p.store.preferences.nextNotificationId ≤ id

/-- Nothing but the files of the store may have changed. -/
def OnlyFiles (p p' : FreedesktopNotificationProvider) : Prop :=
  ∃ files, p' = { p with store := { p.store with directory := files } }

/-- The origins that are recorded are those of the history. -/
def Remembers (history : List ProviderEvent) (p : FreedesktopNotificationProvider) : Prop :=
  ∀ id o, p.origins.get? id = some o → SentBy history id o

section Lists

theorem validIds_append {l l' : List Nat} :
    ValidIds (l ++ l') ↔ ValidIds l ∧ ValidIds l' ∧ l.Disjoint l' := by
  simp only [ValidIds, List.mem_append, List.nodup_append']
  constructor
  · rintro ⟨hrange, hl, hl', hdisjoint⟩
    exact ⟨⟨fun id h => hrange id (Or.inl h), hl⟩,
      ⟨fun id h => hrange id (Or.inr h), hl'⟩, hdisjoint⟩
  · rintro ⟨⟨hrange, hl⟩, ⟨hrange', hl'⟩, hdisjoint⟩
    exact ⟨fun id h => h.elim (hrange id) (hrange' id), hl, hl', hdisjoint⟩

variable {documents : List NotificationDocument} {n n' : NotificationDocument} {id : Nat}

@[simp] theorem notificationIds_append (l l' : List NotificationDocument) :
    notificationIds (l ++ l') = notificationIds l ++ notificationIds l' := by
  simp [notificationIds]

theorem notificationIds_map
    {f : NotificationDocument → NotificationDocument}
    (hf : ∀ n, (f n).id = n.id) :
    notificationIds (documents.map f) = notificationIds documents := by
  simp [notificationIds, hf]

theorem removeAll_get?
    {α : Type}
    (ids : List Nat) (table : Table Nat α) (k : Nat) :
    (removeAll ids table).get? k = if k ∈ ids then none else table.get? k := by
  unfold removeAll
  induction ids generalizing table with
  | nil => simp
  | cons id ids ih =>
      rw [List.foldl_cons, ih, Table.get?_remove]
      by_cases hk : k = id
      · simp [hk]
      · by_cases hmem : k ∈ ids <;> simp [hk, hmem]

theorem mem_sortedIds
    {α : Type} {p : α → Bool} {table : Table Nat α} {k : Nat} :
    k ∈ sortedIds p table ↔ ∃ a, table.get? k = some a ∧ p a = true := by
  simp only [sortedIds, List.mem_mergeSort, List.mem_map, List.mem_filter]
  constructor
  · rintro ⟨⟨k', a⟩, ⟨hmem, hp⟩, rfl⟩
    exact ⟨a, Table.get?_eq_some_iff.mpr hmem, hp⟩
  · rintro ⟨a, hget, hp⟩
    exact ⟨(k, a), ⟨Table.get?_eq_some_iff.mp hget, hp⟩, rfl⟩

/-- With unique identifiers an identifier names one notification. -/
theorem eq_of_id_eq
    (hids : (notificationIds documents).Nodup)
    (hn : n ∈ documents)
    (hn' : n' ∈ documents)
    (h : n.id = n'.id) :
    n = n' :=
  List.inj_on_of_nodup_map hids hn hn' h

end Lists

section Steps

variable {A : Answer NotificationFile String → Prop}
variable {sdk : NotificationSdk} {p : FreedesktopNotificationProvider}

theorem wp_onStore
    {α : Type}
    (m : NotificationProgram α)
    (Q : Post FreedesktopNotificationProvider IoError α)
    (p : FreedesktopNotificationProvider) :
    (onStore m).wp A Q p ↔
      m.wp A
        ⟨fun a store => Q.ok a { p with store := store },
          fun e store => Q.error e { p with store := store },
          fun store => Q.crashed { p with store := store }⟩ p.store :=
  wp_zoom_field m Q p

/-- Where an origin that is recorded after an event comes from. -/
def OriginsFrom (event : ProviderEvent) (p p' : FreedesktopNotificationProvider) : Prop :=
  ∀ id o, p'.origins.get? id = some o →
    Sends id o event ∨
      (p.origins.get? id = some o ∧ (∀ o', ¬ Sends id o' event) ∧ ¬ Loses o event)

/-- What an operation may do. -/
def stepPost (call : ProviderCall) (p : FreedesktopNotificationProvider) :
    Post FreedesktopNotificationProvider IoError ProviderReply where
  ok reply p' := Coherent p' ∧ OriginsFrom (call, .ok reply) p p' ∧ Evolves p p'
  error e p' := OnlyFiles p p' ∧ ((∃ origin, call = .originLost origin) → Unrelated e)
  crashed _ := True

theorem OnlyFiles.refl (p : FreedesktopNotificationProvider) : OnlyFiles p p :=
  ⟨p.store.directory, rfl⟩

theorem originsFrom_of_subset
    {event : ProviderEvent} {p' : FreedesktopNotificationProvider}
    (hsends : ∀ id o, ¬ Sends id o event)
    (hloses : ∀ o, ¬ Loses o event)
    (h : ∀ id o, p'.origins.get? id = some o → p.origins.get? id = some o) :
    OriginsFrom event p p' :=
  fun id o hget => Or.inr ⟨h id o hget, hsends id, hloses o⟩

theorem originsFrom_execute
    {command : NotificationCommand} {reply : ProviderReply}
    {p' : FreedesktopNotificationProvider}
    (h : ∀ id o, p'.origins.get? id = some o → p.origins.get? id = some o) :
    OriginsFrom (.execute command, .ok reply) p p' := by
  refine originsFrom_of_subset ?_ ?_ h
  · rintro id o ⟨_, _, _, heq, _⟩
    cases heq
  · rintro o ⟨_, heq⟩
    cases heq

theorem Evolves.of_subset
    {p' : FreedesktopNotificationProvider}
    (hcounter : p'.store.preferences.nextNotificationId =
      p.store.preferences.nextNotificationId)
    (hactive : ∀ id ∈ notificationIds p'.store.active,
      id ∈ notificationIds p.store.active) :
    Evolves p p' :=
  ⟨hcounter.ge, fun id hid => Or.inl (hactive id hid)⟩

theorem assignId_eq_ok
    {preferences preferences' : Preferences} {n n' : NotificationDocument}
    (h : NotificationStore.assignId preferences n = .ok (n', preferences')) :
    n' = { n with id := n'.id } ∧ preferences'.dnd = preferences.dnd ∧
      n'.id = (if n.id = 0 then preferences.nextNotificationId else n.id) ∧
      preferences.nextNotificationId ≤ preferences'.nextNotificationId ∧
      n'.id < preferences'.nextNotificationId := by
  unfold NotificationStore.assignId at h
  split at h
  · split at h
    · cases h
    split at h
    · cases h
    cases h
    refine ⟨rfl, rfl, by simp [*], ?_, ?_⟩ <;> simp
  · split at h
    · rename_i hge
      split at h
      · cases h
      · cases h
        refine ⟨rfl, rfl, by simp [*], ?_, ?_⟩ <;> simp
        omega
    · cases h
      refine ⟨rfl, rfl, by simp [*], le_rfl, ?_⟩
      omega

theorem checkReplacement_eq_ok
    {request : NotifyRequest}
    (hne : request.notification.id ≠ 0)
    (h : p.checkReplacement request = .ok ()) :
    request.notification.id ∈ notificationIds p.store.active ∧
      p.origins.get? request.notification.id = some request.origin := by
  unfold checkReplacement at h
  rw [if_neg hne] at h
  split at h
  · assumption
  · cases h

section Pushed

variable {active : List NotificationDocument} {n m : NotificationDocument}

theorem mem_pushed_of_ne
    (hm : m ∈ active)
    (hne : m.id ≠ n.id) :
    m ∈ NotificationStore.pushed active n := by
  refine List.mem_append_left _ ?_
  rw [List.mem_eraseP_of_neg (by simpa using hne)]
  exact hm

theorem mem_pushed
    (h : m ∈ NotificationStore.pushed active n) :
    m ∈ active ∨ m = n := by
  rcases List.mem_append.mp h with h | h
  · exact Or.inl (List.mem_of_mem_eraseP h)
  · exact Or.inr (by simpa using h)

/-- The capacity is positive, so the new notification is not archived at once. -/
theorem mem_drop_overflow
    {capacity : Nat}
    (hcapacity : 0 < capacity) :
    n ∈ (NotificationStore.pushed active n).drop
      ((NotificationStore.pushed active n).length - capacity) := by
  unfold NotificationStore.pushed
  rw [List.drop_append_of_le_length]
  · simp
  · simp only [List.length_append, List.length_singleton]
    omega

variable {id overflow : Nat} {documents : List NotificationDocument}

/-- A notification of the active list stays, becomes archived or is replaced by the new one. -/
theorem stays_or_archived
    (hm : m ∈ active)
    (hne : m.id ≠ n.id) :
    m ∈ (NotificationStore.pushed active n).drop overflow ∨
      m.id ∈ notificationIds (((NotificationStore.pushed active n).take overflow).map
        NotificationStore.markArchived) := by
  have hmem := mem_pushed_of_ne hm hne
  rw [← List.take_append_drop overflow (NotificationStore.pushed active n),
    List.mem_append] at hmem
  rcases hmem with hmem | hmem
  · exact Or.inr (mem_notificationIds.mpr
      ⟨NotificationStore.markArchived m, List.mem_map_of_mem hmem, rfl⟩)
  · exact Or.inl hmem

theorem mem_notificationIds_pushed
    (h : id ∈ notificationIds (NotificationStore.pushed active n)) :
    id = n.id ∨ id ∈ notificationIds active := by
  obtain ⟨m, hm, rfl⟩ := mem_notificationIds.mp h
  rcases mem_pushed hm with hm | rfl
  · exact Or.inr (mem_notificationIds.mpr ⟨m, hm, rfl⟩)
  · exact Or.inl rfl

theorem mem_notificationIds_of_drop
    (h : id ∈ notificationIds (documents.drop overflow)) :
    id ∈ notificationIds documents := by
  obtain ⟨m, hm, rfl⟩ := mem_notificationIds.mp h
  exact mem_notificationIds.mpr ⟨m, List.mem_of_mem_drop hm, rfl⟩

theorem mem_notificationIds_of_archived
    (h : id ∈ notificationIds ((documents.take overflow).map NotificationStore.markArchived)) :
    id ∈ notificationIds documents := by
  rw [notificationIds_map (f := NotificationStore.markArchived) fun _ => rfl] at h
  obtain ⟨m, hm, rfl⟩ := mem_notificationIds.mp h
  exact mem_notificationIds.mpr ⟨m, List.mem_of_mem_take hm, rfl⟩

end Pushed

/-- A popup that is left after a notification is the new one, or an older one that was not
archived. -/
theorem popup_of_notify
    {popups : Table Nat (Option Nat)} {archived : List Nat} {id new : Nat} {allowed : Bool}
    {deadline d : Option Nat}
    (h : (if allowed then (removeAll archived popups).insert new deadline
      else (removeAll archived popups).remove new).get? id = some d) :
    (id = new ∧ allowed = true) ∨
      (id ≠ new ∧ id ∉ archived ∧ ∃ d, popups.get? id = some d) := by
  split at h
  · rename_i hallowed
    rw [Table.get?_insert, removeAll_get?] at h
    grind
  · rw [Table.get?_remove, removeAll_get?] at h
    grind

theorem notify_step
    (request : NotifyRequest) (now : Nat)
    (h : Coherent p) :
    ((ProviderCall.notify request now).program sdk).wp A
      (stepPost (.notify request now) p) p := by
  have hfail : ∀ e files,
      (stepPost (.notify request now) p).error e
        { p with store := { p.store with directory := files } } := by
    intro e files
    refine ⟨⟨files, rfl⟩, ?_⟩
    rintro ⟨origin, heq⟩
    cases heq
  simp only [ProviderCall.program, notifyAt, wp_bind, wp_get, wp_orThrow]
  refine ⟨fun _ _ => ⟨fun _ hreplacement => ?_, fun e _ => hfail e p.store.directory⟩,
    fun e _ => hfail e p.store.directory⟩
  rw [wp_onStore]
  refine NotificationStore.wp_push ⟨fun e files _ => hfail e files, fun _ => trivial⟩ ?_
  intro n preferences hassign hfresh active hactive overflow hoverflow archived harchived
    hvalid files
  obtain ⟨hn, hdnd, hid, hcounter, hbelow⟩ := assignId_eq_ok hassign
  simp only [wp_modify, wp_pure]
  have hnew : { n with archived := false } ∈ active.drop overflow := by
    rw [hoverflow, hactive]
    exact mem_drop_overflow h.capacity
  have hstays : ∀ m ∈ p.store.active, m.id ≠ n.id →
      m ∈ active.drop overflow ∨ m.id ∈ notificationIds archived := by
    intro m hm hne
    rw [harchived, hactive]
    exact stays_or_archived hm hne
  have hnewId : n.id ∈ notificationIds (active.drop overflow) :=
    mem_notificationIds.mpr ⟨_, hnew, rfl⟩
  have hactiveIds : ∀ id ∈ notificationIds active,
      id = n.id ∨ id ∈ notificationIds p.store.active := by
    intro id hmem
    rw [hactive] at hmem
    have hpushed := mem_notificationIds_pushed hmem
    exact hpushed
  have hdropIds : ∀ id ∈ notificationIds (active.drop overflow),
      id ∈ notificationIds active :=
    fun _ => mem_notificationIds_of_drop
  have harchivedIds : ∀ id ∈ notificationIds archived, id ∈ notificationIds active := by
    intro id hmem
    rw [harchived] at hmem
    exact mem_notificationIds_of_archived hmem
  refine ⟨⟨h.capacity, hvalid, ?_, ?_, ?_, ?_⟩, ?_, hcounter, ?_⟩
  · intro id hmem
    simp only [notificationIds_append, List.mem_append] at hmem
    have hold : id = n.id ∨ id ∈ notificationIds (p.store.active ++ p.store.archive) := by
      rw [notificationIds_append, List.mem_append]
      rcases hmem with hmem | hmem | hmem
      · exact (hactiveIds id (hdropIds id hmem)).imp_right Or.inl
      · exact Or.inr (Or.inr hmem)
      · exact (hactiveIds id (harchivedIds id hmem)).imp_right Or.inl
    rcases hold with rfl | hold
    · exact hbelow
    · exact lt_of_lt_of_le (h.fresh id hold) hcounter
  · intro id d hget
    rcases popup_of_notify hget with ⟨rfl, _⟩ | ⟨hne, harchive, d', hold⟩
    · exact hnewId
    · obtain ⟨m, hm, rfl⟩ := mem_notificationIds.mp (h.popups id d' hold)
      rcases hstays m hm hne with hm' | hm'
      · exact mem_notificationIds.mpr ⟨m, hm', rfl⟩
      · exact absurd hm' harchive
  · intro id o hget
    simp only [notificationIds_append, List.mem_append]
    rw [Table.get?_insert] at hget
    by_cases hid : id = n.id
    · exact Or.inl (hid ▸ hnewId)
    · rw [if_neg hid] at hget
      have hold := h.origins id o hget
      rw [notificationIds_append, List.mem_append] at hold
      rcases hold with hold | hold
      · obtain ⟨m, hm, rfl⟩ := mem_notificationIds.mp hold
        rcases hstays m hm hid with hm' | hm'
        · exact Or.inl (mem_notificationIds.mpr ⟨m, hm', rfl⟩)
        · exact Or.inr (Or.inr hm')
      · exact Or.inr (Or.inl hold)
  · intro hon id d hget m hm hid
    have hdnd' : p.store.preferences.dnd = true := hdnd ▸ hon
    rcases popup_of_notify hget with ⟨rfl, hallowed⟩ | ⟨hne, _, d', hold⟩
    · rw [notificationIds_append, validIds_append] at hvalid
      have heq : m = { n with archived := false } :=
        eq_of_id_eq hvalid.1.2 hm hnew hid
      rw [heq, hn]
      simpa [NotificationStore.popupAllowed, hdnd'] using hallowed
    · refine h.dnd hdnd' id d' hold m ?_ hid
      have hmem := List.mem_of_mem_drop hm
      rw [hactive] at hmem
      rcases mem_pushed hmem with hmem | rfl
      · exact hmem
      · exact absurd hid.symm hne
  · intro id o hget
    rw [Table.get?_insert] at hget
    by_cases hid : id = n.id
    · rw [if_pos hid] at hget
      cases hget
      exact Or.inl ⟨request, now, _, rfl, hid.symm, rfl⟩
    · rw [if_neg hid] at hget
      refine Or.inr ⟨hget, ?_, ?_⟩
      · rintro o' ⟨_, _, _, heq, hsent, _⟩
        cases heq
        exact hid hsent.symm
      · rintro ⟨_, heq⟩
        cases heq
  · intro id hmem
    rcases hactiveIds id (hdropIds id hmem) with rfl | hold
    · rw [hid]
      split
      · exact Or.inr le_rfl
      · rename_i hne
        exact Or.inl (checkReplacement_eq_ok hne hreplacement).1
    · exact Or.inl hold

/-- A failing store operation makes the operation fail, and changes only files. -/
theorem abandons_step
    {α : Type} {call : ProviderCall}
    (hcall : ∀ origin, call ≠ .originLost origin)
    (ok : α → NotificationStore → Prop) :
    NotificationStore.Abandons (fun _ => True)
      ⟨ok, fun e store => (stepPost call p).error e { p with store := store },
        fun store => (stepPost call p).crashed { p with store := store }⟩ p.store := by
  refine ⟨fun e files _ => ⟨⟨files, rfl⟩, ?_⟩, fun _ => trivial⟩
  rintro ⟨origin, heq⟩
  exact absurd heq (hcall origin)

theorem takeOut_eq_some
    {id : Nat} {documents rest : List NotificationDocument} {n : NotificationDocument}
    (h : NotificationStore.takeOut id documents = some (n, rest)) :
    n.id = id ∧ documents.Perm (n :: rest) := by
  unfold NotificationStore.takeOut at h
  simp only [Option.bind_eq_bind, Option.bind_eq_some_iff, Option.pure_def,
    Option.some.injEq, Prod.mk.injEq] at h
  obtain ⟨i, hi, n', hn', rfl, rfl⟩ := h
  obtain ⟨hlt, hid, _⟩ := List.findIdx?_eq_some_iff_getElem.mp hi
  obtain ⟨hlt', rfl⟩ := List.getElem?_eq_some_iff.mp hn'
  exact ⟨by simpa using hid, (List.getElem_cons_eraseIdx_perm hlt').symm⟩

/-- A document of the changed list is one of the old list, up to `f`. -/
theorem updateFirst_eq_some
    {id : Nat} {documents updated : List NotificationDocument}
    {f : NotificationDocument → NotificationDocument}
    (h : NotificationStore.updateFirst id f documents = some updated) :
    ∃ i, updated = documents.modify i f := by
  unfold NotificationStore.updateFirst at h
  simp only [Option.bind_eq_bind, Option.bind_eq_some_iff, Option.pure_def,
    Option.some.injEq] at h
  obtain ⟨i, _, rfl⟩ := h
  exact ⟨i, rfl⟩

theorem notificationIds_modify
    {documents : List NotificationDocument}
    {f : NotificationDocument → NotificationDocument}
    (hf : ∀ n, (f n).id = n.id)
    (i : Nat) :
    notificationIds (documents.modify i f) = notificationIds documents := by
  induction documents generalizing i with
  | nil => simp
  | cons n documents ih =>
      cases i with
      | zero => simp [notificationIds, hf]
      | succ i => simpa [notificationIds] using ih i

theorem mem_modify
    {documents : List NotificationDocument}
    {f : NotificationDocument → NotificationDocument}
    {i : Nat} {m : NotificationDocument}
    (h : m ∈ documents.modify i f) :
    m ∈ documents ∨ ∃ n ∈ documents, m = f n := by
  induction documents generalizing i with
  | nil => simp at h
  | cons n documents ih =>
      cases i with
      | zero =>
          rcases List.mem_cons.mp (by simpa using h) with rfl | h
          · exact Or.inr ⟨n, by simp, rfl⟩
          · exact Or.inl (by simp [h])
      | succ i =>
          rcases List.mem_cons.mp (by simpa using h) with rfl | h
          · exact Or.inl (by simp)
          · rcases ih h with h | ⟨n', hn', rfl⟩
            · exact Or.inl (by simp [h])
            · exact Or.inr ⟨n', by simp [hn'], rfl⟩

/-- Changing documents in place keeps a provider coherent. -/
theorem Coherent.rewrite
    {p' : FreedesktopNotificationProvider}
    (h : Coherent p)
    (hcapacity : p'.store.capacity = p.store.capacity)
    (hpreferences : p'.store.preferences = p.store.preferences)
    (hactive : notificationIds p'.store.active = notificationIds p.store.active)
    (harchive : notificationIds p'.store.archive = notificationIds p.store.archive)
    (hurgency : ∀ m ∈ p'.store.active,
      ∃ n ∈ p.store.active, n.id = m.id ∧ n.urgency = m.urgency)
    (hpopups : p'.popups = p.popups)
    (horigins : ∀ id o, p'.origins.get? id = some o → p.origins.get? id = some o) :
    Coherent p' where
  capacity := hcapacity ▸ h.capacity
  ids := by
    have hids := h.ids
    rw [notificationIds_append] at hids ⊢
    rwa [hactive, harchive]
  fresh := by
    have hfresh := h.fresh
    rw [notificationIds_append] at hfresh ⊢
    rwa [hactive, harchive, hpreferences]
  popups id d hget := by
    rw [hactive]
    exact h.popups id d (hpopups ▸ hget)
  origins id o hget := by
    have hmem := h.origins id o (horigins id o hget)
    rw [notificationIds_append] at hmem ⊢
    rwa [hactive, harchive]
  dnd hon id d hget m hm hid := by
    obtain ⟨n, hn, hnid, hnurgency⟩ := hurgency m hm
    rw [← hnurgency]
    refine h.dnd ?_ id d (hpopups ▸ hget) n hn (hnid.trans hid)
    rw [NotificationStore.dnd, ← hpreferences]
    exact hon

theorem markRead_step
    (id : Nat)
    (h : Coherent p) :
    ((ProviderCall.execute (.markRead id)).program sdk).wp A
      (stepPost (.execute (.markRead id)) p) p := by
  simp only [ProviderCall.program, FreedesktopNotificationProvider.execute, wp_bind]
  rw [wp_onStore]
  refine NotificationStore.wp_markRead (abandons_step (by simp) _) ?_
  intro active hupdate _ files
  obtain ⟨i, rfl⟩ := updateFirst_eq_some hupdate
  have hids : notificationIds
      (p.store.active.modify i fun notification => { notification with read := true }) =
        notificationIds p.store.active := by
    refine notificationIds_modify ?_ i
    exact fun _ => rfl
  refine ⟨h.rewrite rfl rfl hids rfl ?_ rfl ?_,
    originsFrom_execute fun _ _ hget => hget, .of_subset rfl fun id hid => hids ▸ hid⟩
  · intro m hm
    rcases mem_modify hm with hm | ⟨n, hn, rfl⟩
    · exact ⟨m, hm, rfl, rfl⟩
    · exact ⟨n, hn, rfl, rfl⟩
  · exact fun _ _ hget => hget

/-- `Dismiss` and `Archive` are the same command. -/
theorem dismiss_step
    {command : NotificationCommand} {id : Nat}
    (hcommand : command = .dismiss id ∨ command = .archive id)
    (h : Coherent p) :
    ((ProviderCall.execute command).program sdk).wp A
      (stepPost (.execute command) p) p := by
  have hprogram : FreedesktopNotificationProvider.execute sdk command =
      FreedesktopNotificationProvider.execute sdk (.dismiss id) := by
    rcases hcommand with rfl | rfl <;> rfl
  simp only [ProviderCall.program, hprogram]
  simp only [FreedesktopNotificationProvider.execute, wp_bind]
  rw [wp_onStore]
  refine NotificationStore.wp_dismiss (abandons_step (by simp) _) ?_
  intro n active htake hvalid files
  obtain ⟨rfl, hperm⟩ := takeOut_eq_some htake
  simp only [wp_modify, wp_pure]
  have hmem : ∀ id', id' ∈ notificationIds p.store.active →
      id' = n.id ∨ id' ∈ notificationIds active := by
    intro id' hid'
    simpa [notificationIds] using (hperm.map (·.id)).subset hid'
  have hsub : ∀ id', id' ∈ notificationIds active →
      id' ∈ notificationIds p.store.active := by
    intro id' hid'
    obtain ⟨m, hm, rfl⟩ := mem_notificationIds.mp hid'
    exact mem_notificationIds.mpr ⟨m, hperm.symm.subset (List.mem_cons_of_mem _ hm), rfl⟩
  have hself : n.id ∈ notificationIds p.store.active :=
    mem_notificationIds.mpr ⟨n, hperm.symm.subset (by simp), rfl⟩
  refine ⟨⟨h.capacity, hvalid, ?_, ?_, ?_, ?_⟩, originsFrom_execute fun _ _ hget => hget,
    .of_subset rfl hsub⟩
  · intro id' hid'
    refine h.fresh id' ?_
    simp only [notificationIds_append, List.mem_append] at hid' ⊢
    rcases hid' with hid' | hid' | hid'
    · exact Or.inl (hsub id' hid')
    · exact Or.inr hid'
    · obtain ⟨m, hm, rfl⟩ := mem_notificationIds.mp hid'
      obtain rfl : m = NotificationStore.markArchived n := by simpa using hm
      exact Or.inl hself
  · intro id' d hget
    rw [Table.get?_remove] at hget
    by_cases hid : id' = n.id
    · simp [hid] at hget
    · rw [if_neg hid] at hget
      exact (hmem id' (h.popups id' d hget)).resolve_left hid
  · intro id' o hget
    have hold := h.origins id' o hget
    simp only [notificationIds_append, List.mem_append] at hold ⊢
    rcases hold with hold | hold
    · rcases hmem id' hold with rfl | hold
      · exact Or.inr (Or.inr (mem_notificationIds.mpr
          ⟨NotificationStore.markArchived n, by simp, rfl⟩))
      · exact Or.inl hold
    · exact Or.inr (Or.inl hold)
  · intro hon id' d hget m hm hid
    rw [Table.get?_remove] at hget
    split at hget
    · cases hget
    · exact h.dnd hon id' d hget m (hperm.symm.subset (List.mem_cons_of_mem _ hm)) hid

theorem setDnd_step
    (enabled : Bool)
    (h : Coherent p) :
    ((ProviderCall.execute (.setDnd enabled)).program sdk).wp A
      (stepPost (.execute (.setDnd enabled)) p) p := by
  simp only [ProviderCall.program, FreedesktopNotificationProvider.execute, wp_bind]
  rw [wp_onStore]
  refine NotificationStore.wp_setDnd (abandons_step (by simp) _) ?_
  intro files
  cases enabled with
  | false =>
      refine ⟨⟨h.capacity, h.ids, h.fresh, h.popups, h.origins, ?_⟩,
        originsFrom_execute fun _ _ hget => hget, .of_subset rfl fun _ hid => hid⟩
      intro hon
      simp [NotificationStore.dnd] at hon
  | true =>
      simp only [if_true, wp_modify, wp_pure]
      refine ⟨⟨h.capacity, h.ids, h.fresh, ?_, h.origins, ?_⟩,
        originsFrom_execute fun _ _ hget => hget, .of_subset rfl fun _ hid => hid⟩
      · intro id d hget
        rw [Table.get?_retain] at hget
        split at hget
        · exact h.popups id d hget
        · cases hget
      · intro _ id d hget m hm hid
        rw [Table.get?_retain] at hget
        split at hget
        · rename_i hcritical
          obtain ⟨n, hn, rfl⟩ := mem_notificationIds.mp (of_decide_eq_true hcritical)
          obtain ⟨hn, hurgency⟩ := List.mem_filter.mp hn
          have hvalid := h.ids
          rw [notificationIds_append, validIds_append] at hvalid
          rw [eq_of_id_eq hvalid.1.2 hm hn hid]
          simpa using hurgency
        · cases hget

theorem purgeArchive_step
    (h : Coherent p) :
    ((ProviderCall.execute .purgeArchive).program sdk).wp A
      (stepPost (.execute .purgeArchive) p) p := by
  simp only [ProviderCall.program, FreedesktopNotificationProvider.execute, wp_bind, wp_get]
  rw [wp_onStore]
  refine NotificationStore.wp_purgeArchive (abandons_step (by simp) _) ?_
  intro hvalid files
  simp only [wp_modify, wp_pure]
  have hkept : ∀ {α : Type} {table : Table Nat α} {id : Nat} {a : α},
      (removeAll (notificationIds p.store.archive) table).get? id = some a →
      id ∉ notificationIds p.store.archive ∧ table.get? id = some a := by
    intro α table id a hget
    rw [removeAll_get?] at hget
    split at hget
    · cases hget
    · exact ⟨by assumption, hget⟩
  refine ⟨⟨h.capacity, by simpa using hvalid, ?_, ?_, ?_, ?_⟩,
    originsFrom_execute fun _ _ hget => (hkept hget).2, .of_subset rfl fun _ hid => hid⟩
  · intro id hid
    refine h.fresh id ?_
    rw [notificationIds_append, List.mem_append]
    exact Or.inl (by simpa using hid)
  · exact fun id d hget => h.popups id d (hkept hget).2
  · intro id o hget
    obtain ⟨hnot, hold⟩ := hkept hget
    have hmem := h.origins id o hold
    rw [notificationIds_append, List.mem_append] at hmem
    simpa using hmem.resolve_right hnot
  · exact fun hon id d hget m hm hid => h.dnd hon id d (hkept hget).2 m hm hid

theorem advancePopupTime_step
    (now : Nat)
    (h : Coherent p) :
    ((ProviderCall.advancePopupTime now).program sdk).wp A
      (stepPost (.advancePopupTime now) p) p := by
  simp only [ProviderCall.program, FreedesktopNotificationProvider.advancePopupTime,
    wp_bind, wp_get, wp_modify, wp_pure]
  have hkept : ∀ {ids : List Nat} {id : Nat} {d : Option Nat},
      (removeAll ids p.popups).get? id = some d → p.popups.get? id = some d := by
    intro ids id d hget
    rw [removeAll_get?] at hget
    split at hget
    · cases hget
    · exact hget
  refine ⟨⟨h.capacity, h.ids, h.fresh, ?_, h.origins, ?_⟩, originsFrom_of_subset ?_ ?_ ?_,
    .of_subset rfl fun _ hid => hid⟩
  · exact fun id d hget => h.popups id d (hkept hget)
  · exact fun hon id d hget m hm hid => h.dnd hon id d (hkept hget) m hm hid
  · rintro id o ⟨_, _, _, heq, _⟩
    cases heq
  · rintro o ⟨_, heq⟩
    cases heq
  · exact fun _ _ hget => hget

/-- The origins of a coherent provider can all be expired. -/
theorem originLost_step
    (origin : String)
    (h : Coherent p) :
    ((ProviderCall.originLost origin).program sdk).wp A
      (stepPost (.originLost origin) p) p := by
  simp only [ProviderCall.program, FreedesktopNotificationProvider.originLost,
    wp_bind, wp_get]
  rw [wp_onStore]
  let ids := p.idsForOrigin origin
  have hids : ∀ id, id ∈ ids ↔ p.origins.get? id = some origin := by
    intro id
    simp [ids, idsForOrigin, mem_sortedIds]
  have hdone : ∀ store : NotificationStore, Coherent { p with store := store } →
      Evolves p { p with store := store } →
      (stepPost (.originLost origin) p).ok .done
        { p with store := store, origins := removeAll ids p.origins } := by
    intro store hcoherent hevolves
    have hkept : ∀ id o, (removeAll ids p.origins).get? id = some o →
        p.origins.get? id = some o ∧ o ≠ origin := by
      intro id o hget
      rw [removeAll_get?] at hget
      split at hget
      · cases hget
      · rename_i hnot
        refine ⟨hget, ?_⟩
        rintro rfl
        exact hnot ((hids id).mpr hget)
    refine ⟨hcoherent.rewrite rfl rfl rfl rfl ?_ rfl ?_, ?_, hevolves.counter,
      hevolves.active⟩
    · exact fun m hm => ⟨m, hm, rfl, rfl⟩
    · exact fun id o hget => (hkept id o hget).1
    · intro id o hget
      obtain ⟨hold, hne⟩ := hkept id o hget
      refine Or.inr ⟨hold, ?_, ?_⟩
      · rintro o' ⟨_, _, _, heq, _⟩
        cases heq
      · rintro ⟨_, heq⟩
        cases heq
        exact hne rfl
  refine NotificationStore.wp_expireActions ?_ ?_ ?_ ?_
  · exact ⟨fun e files he => ⟨⟨files, rfl⟩, fun _ => he⟩, fun _ => trivial⟩
  · rintro ⟨id, hid, hnot⟩
    exact absurd (h.origins id origin ((hids id).mp hid)) hnot
  · intro _
    simp only [wp_modify, wp_pure]
    exact hdone p.store h (.of_subset rfl fun _ hid => hid)
  · intro files
    simp only [wp_modify, wp_pure]
    have hexpire : ∀ n : NotificationDocument,
        (if n.id ∈ ids then NotificationStore.expireDocument n else n).id = n.id := by
      intro n
      split <;> rfl
    have hids : ∀ documents,
        notificationIds (NotificationStore.expireIn ids documents) =
          notificationIds documents :=
      fun _ => notificationIds_map hexpire
    refine hdone _ (h.rewrite rfl rfl (hids _) (hids _) ?_ rfl fun _ _ hget => hget)
      (.of_subset rfl fun id hid => hids p.store.active ▸ hid)
    intro m hm
    obtain ⟨n, hn, rfl⟩ := List.mem_map.mp hm
    refine ⟨n, hn, (hexpire n).symm, ?_⟩
    split <;> rfl

/-- Every operation keeps a provider coherent, or changes only files. -/
theorem call_step
    (call : ProviderCall)
    (h : Coherent p) :
    (call.program sdk).wp A (stepPost call p) p := by
  cases call with
  | notify request now => exact notify_step request now h
  | advancePopupTime now => exact advancePopupTime_step now h
  | originLost origin => exact originLost_step origin h
  | execute command =>
      cases command with
      | markRead id => exact markRead_step id h
      | dismiss id => exact dismiss_step (Or.inl rfl) h
      | archive id => exact dismiss_step (Or.inr rfl) h
      | setDnd enabled => exact setDnd_step enabled h
      | purgeArchive => exact purgeArchive_step h

end Steps

section Runs

variable {sdk : NotificationSdk}

/-- A new event extends what the history says about every origin left. -/
theorem SentBy.extend
    {history : List ProviderEvent} {event : ProviderEvent} {id : Nat} {o : String}
    (h : SentBy history id o)
    (hsends : ∀ o', ¬ Sends id o' event)
    (hloses : ¬ Loses o event) :
    SentBy (history ++ [event]) id o := by
  obtain ⟨before, sent, after, rfl, hsent, hafter⟩ := h
  refine ⟨before, sent, after ++ [event], by simp, hsent, ?_⟩
  intro e he
  rcases List.mem_append.mp he with he | he
  · exact hafter e he
  · obtain rfl : e = event := by simpa using he
    exact ⟨hsends, hloses⟩

theorem Remembers.extend
    {history : List ProviderEvent} {event : ProviderEvent}
    {p p' : FreedesktopNotificationProvider}
    (h : Remembers history p)
    (hfrom : OriginsFrom event p p') :
    Remembers (history ++ [event]) p' := by
  intro id o hget
  rcases hfrom id o hget with hsends | ⟨hold, hsends, hloses⟩
  · exact ⟨history, event, [], by simp, hsends, by simp⟩
  · exact (h id o hold).extend hsends hloses

/-- What the runs of a provider preserve. -/
def RunInvariant (s : ProviderRun) : Prop :=
  Coherent s.provider ∧ Remembers s.history s.provider

/-- What opening a store establishes. -/
structure Usable (store : NotificationStore) : Prop where
  capacity : 0 < store.capacity
  ids : ValidIds (notificationIds (store.active ++ store.archive))
  fresh : ∀ id ∈ notificationIds (store.active ++ store.archive),
    id < store.preferences.nextNotificationId

theorem le_greatestId
    {ids : List Nat} {id : Nat}
    (h : id ∈ ids) :
    id ≤ greatestId ids := by
  induction ids with
  | nil => simp at h
  | cons first ids ih =>
      rw [greatestId, List.foldr_cons]
      rcases List.mem_cons.mp h with rfl | h
      · exact le_max_left _ _
      · exact (ih h).trans (le_max_right _ _)

theorem wp_openWithLimits
    {A : Answer NotificationFile String → Prop}
    {capacity aggregateLimit : Nat} (files : NotificationFiles) :
    (openWithLimits sdk capacity aggregateLimit).wp A
      ⟨fun store _ => Usable store,
        fun _ _ => True, fun _ => True⟩ files := by
  unfold openWithLimits
  simp only [wp_bind, wp_pure, wp_get, wp_orThrow]
  refine ⟨fun _ hlimits => ?_, fun _ _ => trivial⟩
  refine wp_of_forall ?_ (fun _ _ => trivial) (fun _ => trivial) files
  intro _ files
  refine wp_of_forall ?_ (fun _ _ => trivial) (fun _ => trivial) files
  intro active files
  refine wp_of_forall ?_ (fun _ _ => trivial) (fun _ => trivial) files
  intro archive files
  refine wp_of_forall ?_ (fun _ _ => trivial) (fun _ => trivial) files
  intro preferences files
  refine ⟨fun _ hids => ⟨fun _ _ => ?_, fun _ _ => trivial⟩, fun _ _ => trivial⟩
  have hvalid := validateUniqueIds_eq_ok.mp hids
  refine ⟨(checkLimits_eq_ok.mp hlimits).1, hvalid, ?_⟩
  intro id (hid : id ∈ notificationIds (active ++ archive))
  -- identifiers are far below the limit of the counter, so adding one does not saturate
  have hgreatest := le_greatestId hid
  have hrange := (hvalid.1 id hid).2
  simp only [maxNotificationId] at hrange
  simp only [maxCounter, lt_max_iff, lt_min_iff]
  omega

theorem wp_new
    {A : Answer NotificationFile String → Prop}
    {s : NotificationStore}
    (h : Usable s) :
    (FreedesktopNotificationProvider.new sdk).wp A
      ⟨fun p _ => RunInvariant ⟨p, []⟩, fun _ _ => True, fun _ => True⟩ s := by
  unfold FreedesktopNotificationProvider.new
  simp only [wp_bind, wp_get, wp_pure]
  have hexpire : ∀ n : NotificationDocument, (NotificationStore.expireDocument n).id = n.id :=
    fun _ => rfl
  have hempty : ∀ store : NotificationStore, Usable store →
      RunInvariant ⟨⟨store, .empty, .empty⟩, []⟩ := by
    intro store hstore
    refine ⟨⟨hstore.capacity, hstore.ids, hstore.fresh, ?_, ?_, ?_⟩, ?_⟩ <;>
      simp [Remembers]
  refine NotificationStore.wp_expireAllActions ⟨fun _ _ _ => trivial, fun _ => trivial⟩
    (hempty s h) ?_
  intro files
  have hids : notificationIds
      (s.active.map NotificationStore.expireDocument ++
        s.archive.map NotificationStore.expireDocument) =
      notificationIds (s.active ++ s.archive) := by
    rw [← List.map_append, notificationIds_map hexpire]
  refine hempty _ ⟨h.capacity, ?_, ?_⟩
  · exact hids ▸ h.ids
  · exact fun id hid => h.fresh id (hids ▸ hid)

theorem runInvariant_initial
    {s : ProviderRun}
    (h : (providerSystem sdk).initial s) :
    RunInvariant s := by
  obtain ⟨hhistory, capacity, aggregateLimit, files, files', store, store', script, script',
    hopen, hnew⟩ := h
  have hstore := holds_of_run hopen (wp_openWithLimits files)
  have hprovider := holds_of_run hnew (wp_new hstore)
  obtain ⟨provider, history⟩ := s
  subst hhistory
  exact hprovider

/-- One call, with any fate of its commit. -/
theorem run_call
    {p p' : FreedesktopNotificationProvider} {call : ProviderCall}
    {script : List (Answer NotificationFile String)}
    {outcome : Outcome IoError ProviderReply}
    (h : Coherent p)
    (hrun : (call.program sdk).run script p = (outcome, p')) :
    (stepPost call p).holds (outcome, p') := by
  exact holds_of_run hrun (call_step call h)

theorem OnlyFiles.coherent
    {p p' : FreedesktopNotificationProvider}
    (h : OnlyFiles p p')
    (hp : Coherent p) :
    Coherent p' := by
  obtain ⟨files, rfl⟩ := h
  exact ⟨hp.capacity, hp.ids, hp.fresh, hp.popups, hp.origins, hp.dnd⟩

theorem runInvariant_step
    {s s' : ProviderRun} {event : ProviderCall × List (Answer NotificationFile String)}
    (h : RunInvariant s)
    (hstep : (providerSystem sdk).step s event s') :
    RunInvariant s' := by
  obtain ⟨call, script⟩ := event
  obtain ⟨outcome, hcrash, hrun, hhistory⟩ := hstep
  have hpost := run_call h.1 hrun
  refine ⟨?_, ?_⟩
  · cases outcome with
    | ok reply => exact hpost.1
    | error e => exact hpost.1.coherent h.1
    | crashed => exact absurd rfl hcrash
  · rw [hhistory]
    refine h.2.extend ?_
    cases outcome with
    | ok reply => exact hpost.2.1
    | error e =>
        obtain ⟨⟨files, hp'⟩, -⟩ := hpost
        refine originsFrom_of_subset ?_ ?_ ?_
        · rintro id o ⟨_, _, _, heq, _⟩
          cases heq
        · rintro o ⟨_, heq⟩
          cases heq
        · intro id o hget
          rw [hp'] at hget
          exact hget
    | crashed => exact absurd rfl hcrash

theorem runInvariant_of_reachable
    {s : ProviderRun}
    (h : (providerSystem sdk).Reachable s) :
    RunInvariant s :=
  h.invariant (fun _ => runInvariant_initial) fun _ _ _ => runInvariant_step

end Runs

/-- What every reachable provider guarantees, whatever is done next. -/
structure ProviderGuarantees (sdk : NotificationSdk) (s : ProviderRun) : Prop where
  popups_active : ∀ id, s.provider.popupVisible id = true →
    ∃ n ∈ s.provider.store.active, n.id = id
  origins_known : ∀ id o, s.provider.origins.get? id = some o →
    ∃ n ∈ s.provider.store.active ++ s.provider.store.archive, n.id = id
  dnd_critical : s.provider.store.dnd = true →
    ∀ id, s.provider.popupVisible id = true →
      ∃ n ∈ s.provider.store.active, n.id = id ∧ n.urgency = .critical
  /-- A replacement succeeds only for the origin that owns the identifier. -/
  replacement_owned : ∀ request now script outcome p',
    request.notification.id ≠ 0 →
    (notifyAt sdk request now).run script s.provider = (.ok outcome, p') →
      s.provider.origins.get? request.notification.id = some request.origin ∧
        SentBy s.history request.notification.id request.origin ∧
        ∃ n ∈ s.provider.store.active, n.id = request.notification.id
  /-- Only an available action of an origin that was not lost has a target. -/
  target_live : ∀ id actionId invocation,
    s.provider.invokeAction id actionId = .ok invocation →
      invocation.notificationId = id ∧ invocation.actionId = actionId ∧
        (∃ n ∈ s.provider.store.active, n.id = id ∧
          ∃ action ∈ n.actions, action.id = actionId ∧ action.state = .available) ∧
        SentBy s.history id invocation.origin
  originLost_found : ∀ origin script e p',
    (FreedesktopNotificationProvider.originLost sdk origin).run script s.provider =
      (.error e, p') → e.kind ≠ .notFound
  /-- A failure leaves popups, origins and store as they were. -/
  error_unchanged : ∀ (call : ProviderCall) script e p',
    (call.program sdk).run script s.provider = (.error e, p') →
      p'.popups = s.provider.popups ∧ p'.origins = s.provider.origins ∧
        p'.store = { s.provider.store with directory := p'.store.directory }

section Guarantees

variable {sdk : NotificationSdk} {p : FreedesktopNotificationProvider}

theorem popupVisible_eq_true_iff
    {id : Nat} :
    p.popupVisible id = true ↔ ∃ d, p.popups.get? id = some d :=
  Table.contains_eq_true_iff

theorem wp_notifyAt_owned
    {A : Answer NotificationFile String → Prop}
    (request : NotifyRequest) (now : Nat) :
    (notifyAt sdk request now).wp A
      ⟨fun _ _ => p.checkReplacement request = .ok (), fun _ _ => True, fun _ => True⟩
      p := by
  simp only [notifyAt, wp_bind, wp_get, wp_orThrow]
  refine ⟨fun _ _ => ⟨fun _ hreplacement => ?_, fun _ _ => trivial⟩, fun _ _ => trivial⟩
  rw [wp_onStore]
  exact wp_of_forall (fun _ _ => hreplacement) (fun _ _ => trivial) (fun _ => trivial) _

theorem invokeAction_eq_ok
    {id : Nat} {actionId : String} {invocation : ActionInvocation}
    (h : p.invokeAction id actionId = .ok invocation) :
    invocation.notificationId = id ∧ invocation.actionId = actionId ∧
      (∃ n ∈ p.store.active, n.id = id ∧
        ∃ action ∈ n.actions, action.id = actionId ∧ action.state = .available) ∧
      p.origins.get? id = some invocation.origin := by
  unfold invokeAction at h
  split at h
  · cases h
  rename_i n hn
  split at h
  · cases h
  rename_i action haction
  split at h
  · cases h
  rename_i origin horigin
  split at h
  · cases h
  rename_i havailable
  cases h
  have hid : action.id = actionId := by simpa using List.find?_some haction
  refine ⟨rfl, hid, ⟨n, List.mem_of_find?_eq_some hn, by simpa using List.find?_some hn,
    action, List.mem_of_find?_eq_some haction, hid, ?_⟩, horigin⟩
  exact not_not.mp havailable

/-- The loss of an origin is reported with the failure of the store. -/
theorem originLost_unrelated
    {origin : String} {script : List (Answer NotificationFile String)} {e : IoError}
    {p' : FreedesktopNotificationProvider}
    (h : Coherent p)
    (hrun : (FreedesktopNotificationProvider.originLost sdk origin).run script p =
      (.error e, p')) :
    Unrelated e := by
  have hstep : ((ProviderCall.originLost origin).program sdk).wp (fun _ => True)
      (stepPost (.originLost origin) p) p := originLost_step origin h
  simp only [ProviderCall.program, wp_bind] at hstep
  have hpost := holds_of_run hrun hstep
  exact hpost.2 ⟨origin, rfl⟩

end Guarantees

/-- Every provider that operations lead to, failing or not, keeps its promises. -/
theorem provider_guarantees
    (sdk : NotificationSdk)
    {s : ProviderRun}
    (h : (providerSystem sdk).Reachable s) :
    ProviderGuarantees sdk s := by
  obtain ⟨hcoherent, hremembers⟩ := runInvariant_of_reachable h
  constructor
  · intro id hvisible
    obtain ⟨d, hget⟩ := popupVisible_eq_true_iff.mp hvisible
    exact mem_notificationIds.mp (hcoherent.popups id d hget)
  · intro id o hget
    exact mem_notificationIds.mp (hcoherent.origins id o hget)
  · intro hon id hvisible
    obtain ⟨d, hget⟩ := popupVisible_eq_true_iff.mp hvisible
    obtain ⟨n, hn, hid⟩ := mem_notificationIds.mp (hcoherent.popups id d hget)
    exact ⟨n, hn, hid, hcoherent.dnd hon id d hget n hn hid⟩
  · intro request now script outcome p' hne hrun
    have hchecked := holds_of_run hrun (wp_notifyAt_owned request now)
    obtain ⟨hactive, hget⟩ := checkReplacement_eq_ok hne hchecked
    exact ⟨hget, hremembers _ _ hget, mem_notificationIds.mp hactive⟩
  · intro id actionId invocation hinvoke
    obtain ⟨hid, haction, htarget, hget⟩ := invokeAction_eq_ok hinvoke
    exact ⟨hid, haction, htarget, hremembers _ _ hget⟩
  · exact fun origin script e p' hrun => originLost_unrelated hcoherent hrun
  · intro call script e p' hrun
    obtain ⟨⟨files, hp'⟩, -⟩ := run_call hcoherent hrun
    subst hp'
    exact ⟨rfl, rfl, rfl⟩

section Sample

/-- The text of a plain document up to its flags; none of its strings needs an escape. -/
def plainStart (n : NotificationDocument) : String :=
  let urgency :=
    match n.urgency with
    | .low => "low"
    | .normal => "normal"
    | .critical => "critical"
  let timeout :=
    match n.timeoutMs with
    | none => ""
    | some timeout => ",\"timeoutMs\":" ++ toString timeout
  "\x7b\"schemaVersion\":" ++ toString n.schemaVersion ++ ",\"id\":" ++ toString n.id ++
    ",\"applicationId\":\"" ++ n.applicationId ++ "\",\"summary\":\"" ++ n.summary ++
    "\",\"body\":\"" ++ n.body ++ "\",\"urgency\":\"" ++ urgency ++
    "\",\"createdAt\":\"" ++ n.createdAt ++ "\"" ++ timeout ++ ",\"read\":"

def plainAction (a : NotificationAction) : String :=
  "\x7b\"id\":\"" ++ a.id ++ "\",\"label\":\"" ++ a.label ++ "\",\"state\":\"" ++
    (if a.state = .available then "available" else "expired") ++ "\"\x7d"

def plainJson (n : NotificationDocument) : String :=
  plainStart n ++ toString n.read ++ ",\"archived\":" ++ toString n.archived ++
    ",\"actions\":[" ++ ",".intercalate (n.actions.map plainAction) ++ "]\x7d"

/-- Libraries that accept every document and know no file that was not written. -/
def plainSdk : NotificationSdk where
  durableSchemaVersion := 1
  documentJson := plainJson
  validateNotificationDocument _ := .ok ()
  parseTransaction _ := .error "unexpected text"
  parseDocuments _ := .error "unexpected text"
  parsePreferences _ := .error "unexpected text"

/-- A directory without files. -/
def emptyDirectory : NotificationFiles :=
  ⟨fun _ _ => Cell.settled none⟩

theorem initial_of_runs
    {sdk : NotificationSdk} {capacity aggregateLimit : Nat}
    {files files' : NotificationFiles} {store store' : NotificationStore}
    {provider : FreedesktopNotificationProvider}
    {script script' : List (Answer NotificationFile String)}
    (hopen : (openWithLimits sdk capacity aggregateLimit).run script files =
      (.ok store, files'))
    (hnew : (FreedesktopNotificationProvider.new sdk).run script' store =
      (.ok provider, store')) :
    (providerSystem sdk).initial ⟨provider, []⟩ :=
  ⟨rfl, capacity, aggregateLimit, files, files', store, store', script, script', hopen, hnew⟩

/-- The provider after one more call. -/
def ProviderRun.after
    (s : ProviderRun) (sdk : NotificationSdk) (call : ProviderCall)
    (script : List (Answer NotificationFile String)) : ProviderRun :=
  let result := (call.program sdk).run script s.provider
  ⟨result.2, s.history ++ [(call, result.1)]⟩

theorem reachable_after
    {sdk : NotificationSdk} {s : ProviderRun} {call : ProviderCall}
    {script : List (Answer NotificationFile String)}
    (h : (providerSystem sdk).Reachable s)
    (hcrash : ((call.program sdk).run script s.provider).1 ≠ .crashed) :
    (providerSystem sdk).Reachable (s.after sdk call script) :=
  .step (e := (call, script)) h ⟨_, hcrash, rfl, rfl⟩

/-- A store in an empty directory, with room for one notification. -/
def openedStore : Outcome IoError NotificationStore × NotificationFiles :=
  (openWithLimits plainSdk 1 4096).run [] emptyDirectory

theorem openedStore_isSome : openedStore.1.get?.isSome = true := by
  decide +kernel

def sampleStore : NotificationStore :=
  openedStore.1.get?.get openedStore_isSome

theorem openedStore_eq : openedStore = (.ok sampleStore, openedStore.2) :=
  Outcome.pair_eq_ok openedStore_isSome

def startedProvider :
    Outcome IoError FreedesktopNotificationProvider × NotificationStore :=
  (FreedesktopNotificationProvider.new plainSdk).run [] sampleStore

theorem startedProvider_isSome : startedProvider.1.get?.isSome = true := by
  decide +kernel

/-- A provider that was just started. -/
def freshProvider : FreedesktopNotificationProvider :=
  startedProvider.1.get?.get startedProvider_isSome

theorem startedProvider_eq : startedProvider = (.ok freshProvider, startedProvider.2) :=
  Outcome.pair_eq_ok startedProvider_isSome

def freshRun : ProviderRun :=
  ⟨freshProvider, []⟩

theorem freshRun_initial : (providerSystem plainSdk).initial freshRun :=
  initial_of_runs openedStore_eq startedProvider_eq

def sampleCall : ProviderCall :=
  .notify
    { origin := ":1.7"
      notification :=
        { schemaVersion := 2
          id := 0
          applicationId := "org.example.App"
          summary := "Ready"
          body := "Desktop ready"
          urgency := .normal
          createdAt := "2026-08-30T12:00:00Z"
          timeoutMs := some 5000
          read := false
          archived := false
          actions := [⟨"open", "Open", .available⟩] } } 0

/-- The first notification is shown. -/
theorem sampleCall_notified :
    ((sampleCall.program plainSdk).run [] freshRun.provider).1 =
      .ok (.notified ⟨1, true, []⟩) := by
  decide +kernel

theorem provider_guarantees_notified :
    ProviderGuarantees plainSdk (freshRun.after plainSdk sampleCall []) := by
  refine provider_guarantees plainSdk (reachable_after (.initial freshRun_initial) ?_)
  rw [sampleCall_notified]
  simp

end Sample

end SleepySession
