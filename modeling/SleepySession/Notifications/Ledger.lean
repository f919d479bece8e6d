import SleepySession.Notifications.Linearizable

/-!
# What becomes of notifications

A ledger beside a store notes the identifiers that its pushes have returned and
the operations that were issued since the last acknowledgement.  Identifiers
rise through failures, crashes and restarts, and a notification leaves the two
lists only by a purge.
-/

namespace SleepySession

open Program SecureDirectory

/-- The contents that a notification may have after some operations. -/
def Kept : NotificationDocument → NotificationDocument → Prop :=
  Relation.ReflTransGen Updated

theorem Kept.id {n n' : NotificationDocument} (h : Kept n n') : n'.id = n.id := by
  induction h with
  | refl => rfl
  | tail _ hupdated ih => exact hupdated.id.trans ih

/-- All notifications of a state. -/
def StoreState.documents (L : StoreState) : List NotificationDocument :=
  L.active ++ L.archive

namespace StoreOperation

open NotificationStore

/-- The operation neither purges the archive nor replaces the notification. -/
def Spares (id : Nat) : StoreOperation → Prop
  | .push notification => notification.id ≠ id
  | .purgeArchive => False
  | _ => True

/-- The identifier that a push of a new notification has returned. -/
def freshIds : StoreOperation → Option PushResult → List Nat
  | .push notification, some result => if notification.id = 0 then [result.id] else []
  | _, _ => []

variable {capacity : Nat} {L : StoreState} {op : StoreOperation} {n : NotificationDocument}

theorem mem_modify_of_mem {documents : List NotificationDocument}
    {f : NotificationDocument → NotificationDocument} (i : Nat) (h : n ∈ documents) :
    n ∈ documents.modify i f ∨ f n ∈ documents.modify i f := by
  obtain ⟨j, hj, rfl⟩ := List.mem_iff_getElem.mp h
  have hlength : j < (documents.modify i f).length := by simpa using hj
  have hmem := List.getElem_mem hlength
  rw [List.getElem_modify] at hmem
  split at hmem
  · exact Or.inr hmem
  · exact Or.inl hmem

theorem expireIn_of_mem (ids : List Nat) {documents : List NotificationDocument}
    (h : n ∈ documents) : ∃ n' ∈ expireIn ids documents, Updated n n' := by
  refine ⟨_, List.mem_map_of_mem h, ?_⟩
  split
  · exact .expired n
  · exact .same n

/-- A push moves the oldest notifications to the archive and drops nothing else. -/
theorem pushedState_of_mem {notification : NotificationDocument} {preferences : Preferences}
    (h : n ∈ L.documents) (hne : n.id ≠ notification.id) :
    ∃ n' ∈ (pushedState capacity L notification preferences).documents, Updated n n' := by
  unfold StoreState.documents pushedState
  dsimp only
  generalize hactive : pushed L.active { notification with archived := false } = active
  rcases List.mem_append.mp h with hmem | hmem
  · have hpushed : n ∈ active := hactive ▸ mem_pushed_of_ne hmem hne
    rw [← List.take_append_drop (active.length - capacity) active] at hpushed
    rcases List.mem_append.mp hpushed with htake | hdrop
    · exact ⟨_, List.mem_append_right _ (List.mem_append_right _ (List.mem_map_of_mem htake)),
        .archived n⟩
    · exact ⟨n, List.mem_append_left _ hdrop, .same n⟩
  · exact ⟨n, List.mem_append_right _ (List.mem_append_left _ hmem), .same n⟩

/-- An operation that spares a notification keeps it in one of the lists. -/
theorem apply_of_mem (hspares : op.Spares n.id)
    (hcounter : n.id < L.preferences.nextNotificationId) (h : n ∈ L.documents) :
    ∃ n' ∈ (op.apply capacity L).documents, Updated n n' := by
  cases op with
  | push notification =>
      simp only [apply]
      split
      · exact ⟨n, h, .same n⟩
      case h_2 pushedDocument preferences hassign =>
        obtain ⟨-, -, hid, -, -⟩ := assignId_eq_ok hassign
        refine pushedState_of_mem h ?_
        rw [hid]
        split
        · exact hcounter.ne
        · exact fun heq => hspares heq.symm
  | markRead id =>
      simp only [apply]
      split
      · exact ⟨n, h, .same n⟩
      case h_2 active hupdate =>
        obtain ⟨i, rfl⟩ := updateFirst_eq_some hupdate
        rcases List.mem_append.mp h with hmem | hmem
        · rcases mem_modify_of_mem i hmem with hsame | hread
          · exact ⟨n, List.mem_append_left _ hsame, .same n⟩
          · exact ⟨_, List.mem_append_left _ hread, .read n⟩
        · exact ⟨n, List.mem_append_right _ hmem, .same n⟩
  | dismiss id =>
      simp only [apply]
      split
      · exact ⟨n, h, .same n⟩
      case h_2 notification active htake =>
        have hperm := (takeOut_eq_some htake).2
        rcases List.mem_append.mp h with hmem | hmem
        · rcases List.mem_cons.mp (hperm.mem_iff.mp hmem) with rfl | hrest
          · exact ⟨_, List.mem_append_right _ (List.mem_append_right _ List.mem_cons_self),
              .archived n⟩
          · exact ⟨n, List.mem_append_left _ hrest, .same n⟩
        · exact ⟨n, List.mem_append_right _ (List.mem_append_left _ hmem), .same n⟩
  | setDnd enabled => exact ⟨n, h, .same n⟩
  | expireActions ids =>
      rcases List.mem_append.mp h with hmem | hmem
      · obtain ⟨n', hmem', hupdated⟩ := expireIn_of_mem ids hmem
        exact ⟨n', List.mem_append_left _ hmem', hupdated⟩
      · obtain ⟨n', hmem', hupdated⟩ := expireIn_of_mem ids hmem
        exact ⟨n', List.mem_append_right _ hmem', hupdated⟩
  | expireAllActions =>
      rcases List.mem_append.mp h with hmem | hmem
      · exact ⟨_, List.mem_append_left _ (List.mem_map_of_mem hmem), .expired n⟩
      · exact ⟨_, List.mem_append_right _ (List.mem_map_of_mem hmem), .expired n⟩
  | purgeArchive => exact hspares.elim

/-- The identifier that a push of a new notification returns was the counter. -/
theorem freshIds_result {id : Nat} (h : id ∈ op.freshIds (op.result capacity L)) :
    id = L.preferences.nextNotificationId ∧ id ≤ maxNotificationId ∧
      id < (op.apply capacity L).preferences.nextNotificationId := by
  cases op with
  | push notification =>
      simp only [result] at h
      simp only [apply]
      split at h
      · cases h
      case h_2 pushedDocument preferences hassign =>
        obtain ⟨-, -, hid, -, hlt⟩ := assignId_eq_ok hassign
        simp only [freshIds] at h
        split at h
        case isTrue hzero =>
          obtain rfl := List.mem_singleton.mp h
          rw [if_pos hzero] at hid
          refine ⟨hid, ?_, hlt⟩
          rw [hid]
          unfold assignId at hassign
          rw [if_pos hzero] at hassign
          split at hassign
          · cases hassign
          case isFalse hmax => exact Nat.le_of_not_lt hmax
        case isFalse => cases h
  | markRead id => cases h
  | dismiss id => cases h
  | setDnd enabled => cases h
  | expireActions ids => cases h
  | expireAllActions => cases h
  | purgeArchive => cases h

/-- The active list of a push that returns has at most as many entries as there is room for. -/
theorem length_active_apply {notification : NotificationDocument}
    (h : ((StoreOperation.push notification).result capacity L).isSome = true) :
    ((StoreOperation.push notification).apply capacity L).active.length ≤ capacity := by
  simp only [result] at h
  simp only [apply]
  split at h
  · cases h
  · simp only [pushedState, List.length_drop]
    omega

/-- A push that succeeds returns something. -/
theorem isSome_of_push {sdk : NotificationSdk} {notification : NotificationDocument}
    {script : List (Answer NotificationFile String)} {s s' : NotificationStore}
    {r : Option PushResult}
    (h : ((StoreOperation.push notification).perform sdk).run script s = (.ok r, s')) :
    r.isSome = true := by
  refine holds_of_run (Q := ⟨fun r _ => r.isSome = true, fun _ _ => True, fun _ => True⟩) h ?_
  unfold perform
  rw [wp_bind]
  refine wp_of_forall ?_ (fun _ _ => trivial) (fun _ => trivial) s
  intro result s''
  dsimp only
  rw [wp_pure]
  rfl

end StoreOperation

/-- A store and what its callers remember. -/
structure StoreLedger where
  machine : StoreMachine
  /-- The operations issued since the last acknowledgement or restart. -/
  issued : List StoreOperation
  /-- What the pushes of new notifications have returned, newest first. -/
  returned : List Nat

namespace StoreLedger

variable (sdk : NotificationSdk) (capacity limit : Nat)

/-- The notes on an event that leads the store to the given machine. -/
def after (l : StoreLedger) (e : NotificationStoreEvent) (m' : StoreMachine) : StoreLedger :=
  match e, l.machine.phase with
  | .operate op script, .running s =>
      match ((op.perform sdk).run script s).1 with
      | .ok r => ⟨m', [], op.freshIds r ++ l.returned⟩
      | _ => ⟨m', op :: l.issued, l.returned⟩
  | .reopen script, .down files _ =>
      match ((openWithLimits sdk capacity limit).run script files).1 with
      | .ok _ => ⟨m', [], l.returned⟩
      | _ => ⟨m', l.issued, l.returned⟩
  | _, _ => ⟨m', l.issued, l.returned⟩

def step (l : StoreLedger) (e : NotificationStoreEvent) (l' : StoreLedger) : Prop :=
  ∃ m', PrudentStore sdk l.machine e ∧ StoreStep sdk capacity limit l.machine e m' ∧
    l' = l.after sdk capacity limit e m'

end StoreLedger

/-- The runs of a store, with a ledger that is empty at first. -/
def ledgerSystem (sdk : NotificationSdk) (capacity limit : Nat) :
    System StoreLedger NotificationStoreEvent where
  initial l :=
    ∃ m, (notificationStoreSystem sdk capacity limit).initial m ∧ l = ⟨m, [], []⟩
  step := StoreLedger.step sdk capacity limit

/-- The runs that go on from a ledger and spare a notification. -/
def sparingSystem (sdk : NotificationSdk) (capacity limit id : Nat) (l : StoreLedger) :
    System StoreLedger NotificationStoreEvent where
  initial l' := l' = l
  step l' e l'' :=
    (∀ op script, e = .operate op script → op.Spares id) ∧
      StoreLedger.step sdk capacity limit l' e l''

section Ledgers

variable {sdk : NotificationSdk} {capacity limit : Nat} {l l' : StoreLedger}
  {e : NotificationStoreEvent}

/-- The invariant of the ledger. -/
structure StoreLedger.Invariant (sdk : NotificationSdk) (capacity limit : Nat)
    (l : StoreLedger) : Prop where
  machine : ((notificationStoreSystem sdk capacity limit).restrict (PrudentStore sdk)).Reachable
    l.machine
  attempted : l.machine.attempted = l.issued.map (·.apply capacity l.machine.acknowledged)
  returned : ∀ id ∈ l.returned, 1 ≤ id ∧ id ≤ maxNotificationId ∧
    id < l.machine.acknowledged.preferences.nextNotificationId
  order : l.returned.Pairwise fun newer older => older < newer

/-- What a step of the ledger does, told apart by what the store answers. -/
inductive StoreLedger.Moves (sdk : NotificationSdk) (capacity limit : Nat) (l : StoreLedger) :
    NotificationStoreEvent → StoreLedger → Prop where
  | acknowledged {op : StoreOperation} {script : List (Answer NotificationFile String)}
      {l' : StoreLedger}
      (hacknowledged : l'.machine.acknowledged = op.apply capacity l.machine.acknowledged)
      (hattempted : l'.machine.attempted = [])
      (hissued : l'.issued = [])
      (hreturned : l'.returned =
        op.freshIds (op.result capacity l.machine.acknowledged) ++ l.returned)
      (hresult : ∀ notification, op = .push notification →
        (op.result capacity l.machine.acknowledged).isSome = true) :
      Moves sdk capacity limit l (.operate op script) l'
  | issued {op : StoreOperation} {script : List (Answer NotificationFile String)}
      {l' : StoreLedger}
      (hacknowledged : l'.machine.acknowledged = l.machine.acknowledged)
      (hattempted : l'.machine.attempted =
        op.apply capacity l.machine.acknowledged :: l.machine.attempted)
      (hissued : l'.issued = op :: l.issued)
      (hreturned : l'.returned = l.returned) :
      Moves sdk capacity limit l (.operate op script) l'
  | restarted {script : List (Answer NotificationFile String)} {l' : StoreLedger}
      (hacknowledged : l'.machine.acknowledged = l.machine.acknowledged ∨
        l'.machine.acknowledged ∈ l.machine.attempted)
      (hcounter : l.machine.acknowledged.preferences.nextNotificationId ≤
        l'.machine.acknowledged.preferences.nextNotificationId)
      (hattempted : l'.machine.attempted = [])
      (hissued : l'.issued = [])
      (hreturned : l'.returned = l.returned) :
      Moves sdk capacity limit l (.reopen script) l'
  | unchanged {e : NotificationStoreEvent} {l' : StoreLedger}
      (hother : ∀ op script, e ≠ .operate op script)
      (hacknowledged : l'.machine.acknowledged = l.machine.acknowledged)
      (hattempted : l'.machine.attempted = l.machine.attempted)
      (hissued : l'.issued = l.issued)
      (hreturned : l'.returned = l.returned) :
      Moves sdk capacity limit l e l'

theorem freshIds_pairwise {R : Nat → Nat → Prop} (op : StoreOperation) (r : Option PushResult) :
    (op.freshIds r).Pairwise R := by
  unfold StoreOperation.freshIds
  split
  · split
    · exact List.pairwise_singleton R _
    · exact .nil
  · exact .nil

theorem StoreLedger.moves
    (hcodec : sdk.RoundTrips)
    (hsteady : sdk.Steady)
    (hlimits : checkLimits capacity limit = .ok ())
    (h : ((notificationStoreSystem sdk capacity limit).restrict (PrudentStore sdk)).Reachable
      l.machine)
    (hstep : l.step sdk capacity limit e l') :
    l.Moves sdk capacity limit e l' := by
  have hm := invariant_of_reachable hcodec hsteady hlimits h
  have hlimit := (checkLimits_eq_ok.mp hlimits).2.2
  have hbacked := hm.backed
  obtain ⟨m', hprudent, hstore, rfl⟩ := hstep
  cases hstore with
  | @acknowledge s s' op script r hphase hrun =>
      rw [StoreMachine.Backed, hphase] at hbacked
      obtain ⟨hstate, hcapacity, haggregate, hconsistent, hrecoverable⟩ := hbacked
      have hpost := holds_of_run hrun
        (@operate_wp _ _ _ _ _ (fun L => l.machine.Possible sdk limit L ∨
            (StoreState.Storable sdk limit L ∧ L = op.apply capacity s.state)) _ op
          hcodec hsteady hlimit (hstate ▸ hm.storable) hcapacity haggregate
          (hstate ▸ hprudent.1) hconsistent hrecoverable (fun _ => Or.inl)
          fun hnew => Or.inr ⟨hnew, rfl⟩)
      obtain ⟨hresult, -⟩ := hpost
      rw [hstate] at hresult
      simp only [StoreLedger.after, hphase, hrun]
      refine .acknowledged rfl rfl rfl (by rw [hresult]) ?_
      rintro notification rfl
      rw [← hresult]
      exact StoreOperation.isSome_of_push hrun
  | @reject s s' op script error hphase hrun =>
      simp only [StoreLedger.after, hphase, hrun]
      exact .issued rfl rfl rfl rfl
  | @crash s s' op script hphase hrun =>
      simp only [StoreLedger.after, hphase, hrun]
      exact .issued rfl rfl rfl rfl
  | @kill s hphase =>
      simp only [StoreLedger.after]
      exact .unchanged (fun _ _ heq => by cases heq) rfl rfl rfl rfl
  | @powerLoss files files' cutShort hphase hreverts =>
      simp only [StoreLedger.after]
      exact .unchanged (fun _ _ heq => by cases heq) rfl rfl rfl rfl
  | @opened files files' cutShort script s hphase hrun =>
      obtain ⟨hfound, hcounters⟩ :=
        (hm.linearizable hcodec hlimits).reopened files cutShort script s files' hphase hrun
      simp only [StoreLedger.after, hphase, hrun]
      exact .restarted hfound (hcounters _ List.mem_cons_self) rfl rfl rfl
  | @openFailed files files' cutShort script outcome hphase hrun hfailed =>
      cases outcome with
      | ok s => cases hfailed
      | error error =>
          simp only [StoreLedger.after, hphase, hrun]
          exact .unchanged (fun _ _ heq => by cases heq) rfl rfl rfl rfl
      | crashed =>
          simp only [StoreLedger.after, hphase, hrun]
          exact .unchanged (fun _ _ heq => by cases heq) rfl rfl rfl rfl

theorem StoreLedger.after_machine (m' : StoreMachine) :
    (l.after sdk capacity limit e m').machine = m' := by
  unfold StoreLedger.after
  split
  · split <;> rfl
  · split <;> rfl
  · rfl

theorem StoreLedger.Invariant.step
    (hcodec : sdk.RoundTrips)
    (hsteady : sdk.Steady)
    (hlimits : checkLimits capacity limit = .ok ())
    (h : l.Invariant sdk capacity limit)
    (hstep : l.step sdk capacity limit e l') :
    l'.Invariant sdk capacity limit := by
  have hmoves := StoreLedger.moves hcodec hsteady hlimits h.machine hstep
  have hm := invariant_of_reachable hcodec hsteady hlimits h.machine
  have hmachine : ((notificationStoreSystem sdk capacity limit).restrict
      (PrudentStore sdk)).Reachable l'.machine := by
    obtain ⟨m', hprudent, hstore, rfl⟩ := hstep
    rw [StoreLedger.after_machine]
    exact .step h.machine ⟨hprudent, hstore⟩
  cases hmoves with
  | @acknowledged op script _ hacknowledged hattempted hissued hreturned hresult =>
      have hcounter := (@StoreOperation.apply_preferences capacity l.machine.acknowledged op).2
      refine ⟨hmachine, by rw [hattempted, hissued]; rfl, ?_, ?_⟩
      · rw [hreturned, hacknowledged]
        intro id hid
        rcases List.mem_append.mp hid with hfresh | hold
        · obtain ⟨heq, hmax, hlt⟩ := StoreOperation.freshIds_result hfresh
          exact ⟨heq ▸ hm.storable.positive, hmax, hlt⟩
        · obtain ⟨hpos, hmax, hlt⟩ := h.returned id hold
          exact ⟨hpos, hmax, hlt.trans_le hcounter⟩
      · rw [hreturned]
        refine List.pairwise_append.mpr ⟨freshIds_pairwise op _, h.order, ?_⟩
        intro newer hnewer older holder
        rw [(StoreOperation.freshIds_result hnewer).1]
        exact (h.returned older holder).2.2
  | @issued op script _ hacknowledged hattempted hissued hreturned =>
      refine ⟨hmachine, ?_, ?_, ?_⟩
      · rw [hattempted, hissued, hacknowledged, h.attempted]
        rfl
      · rw [hreturned, hacknowledged]
        exact h.returned
      · rw [hreturned]
        exact h.order
  | @restarted script _ hacknowledged hcounter hattempted hissued hreturned =>
      refine ⟨hmachine, by rw [hattempted, hissued]; rfl, ?_, ?_⟩
      · rw [hreturned]
        intro id hid
        obtain ⟨hpos, hmax, hlt⟩ := h.returned id hid
        exact ⟨hpos, hmax, hlt.trans_le hcounter⟩
      · rw [hreturned]
        exact h.order
  | unchanged hother hacknowledged hattempted hissued hreturned =>
      refine ⟨hmachine, ?_, ?_, ?_⟩
      · rw [hattempted, hissued, hacknowledged, h.attempted]
      · rw [hreturned, hacknowledged]
        exact h.returned
      · rw [hreturned]
        exact h.order

theorem ledger_invariant
    (hcodec : sdk.RoundTrips)
    (hsteady : sdk.Steady)
    (hlimits : checkLimits capacity limit = .ok ())
    (h : (ledgerSystem sdk capacity limit).Reachable l) :
    l.Invariant sdk capacity limit := by
  refine h.invariant ?_ ?_
  · rintro _ ⟨m, hm, rfl⟩
    have hattempted : m.attempted = [] := by
      obtain ⟨L, files, rfl, -, -⟩ := hm
      rfl
    exact ⟨.initial hm, hattempted, fun _ hid => (by cases hid), .nil⟩
  · intro s e t hs hstep
    exact hs.step hcodec hsteady hlimits hstep

/-- A notification is still there, and nothing that threatens it is under way. -/
structure StoreLedger.Holds (n : NotificationDocument) (l : StoreLedger) : Prop where
  kept : ∃ n' ∈ l.machine.acknowledged.documents, Kept n n'
  spared : ∀ op ∈ l.issued, op.Spares n.id

theorem StoreLedger.Holds.step
    (hcodec : sdk.RoundTrips)
    (hsteady : sdk.Steady)
    (hlimits : checkLimits capacity limit = .ok ())
    (hl : l.Invariant sdk capacity limit)
    {n : NotificationDocument}
    (h : l.Holds n)
    (hspares : ∀ op script, e = .operate op script → op.Spares n.id)
    (hstep : l.step sdk capacity limit e l') :
    l'.Holds n := by
  obtain ⟨n', hmem, hkept⟩ := h.kept
  have hm := invariant_of_reachable hcodec hsteady hlimits hl.machine
  -- one further operation that spares the notification
  have hforward : ∀ op : StoreOperation, op.Spares n.id →
      l'.machine.acknowledged = op.apply capacity l.machine.acknowledged →
        ∃ n'' ∈ l'.machine.acknowledged.documents, Kept n n'' := by
    intro op hop heq
    have hcounter := hm.storable.counter n'.id (List.mem_map_of_mem hmem)
    obtain ⟨n'', hmem', hupdated⟩ :=
      @StoreOperation.apply_of_mem capacity _ _ _ (hkept.id.symm ▸ hop) hcounter hmem
    exact ⟨n'', heq ▸ hmem', hkept.tail hupdated⟩
  cases StoreLedger.moves hcodec hsteady hlimits hl.machine hstep with
  | @acknowledged op script _ hacknowledged hattempted hissued hreturned hresult =>
      refine ⟨hforward op (hspares op script rfl) hacknowledged, ?_⟩
      rw [hissued]
      exact fun _ hop => by cases hop
  | @issued op script _ hacknowledged hattempted hissued hreturned =>
      refine ⟨⟨n', hacknowledged ▸ hmem, hkept⟩, ?_⟩
      rw [hissued]
      exact List.forall_mem_cons.mpr ⟨hspares op script rfl, h.spared⟩
  | @restarted script _ hacknowledged hcounter hattempted hissued hreturned =>
      refine ⟨?_, by rw [hissued]; exact fun _ hop => (by cases hop)⟩
      rcases hacknowledged with hsame | hfound
      · exact ⟨n', hsame ▸ hmem, hkept⟩
      · rw [hl.attempted] at hfound
        obtain ⟨op, hop, heq⟩ := List.mem_map.mp hfound
        exact hforward op (h.spared op hop) heq.symm
  | unchanged hother hacknowledged hattempted hissued hreturned =>
      exact ⟨⟨n', hacknowledged ▸ hmem, hkept⟩, hissued ▸ h.spared⟩

/-- What the callers of the store can count on for their notifications. -/
structure LedgerGuarantees (sdk : NotificationSdk) (capacity limit : Nat) (l : StoreLedger) :
    Prop where
  /-- Each identifier that is returned is greater than all that were returned before. -/
  fresh : l.returned.Pairwise fun newer older => older < newer
  range : ∀ id ∈ l.returned, 1 ≤ id ∧ id ≤ maxNotificationId
  /-- The identifiers in the two lists are valid, and no two are equal. -/
  unique : ValidIds (notificationIds l.machine.acknowledged.documents)
  /-- After a push that succeeds the active list fits. -/
  fits : ∀ notification script l',
    l.step sdk capacity limit (.operate (.push notification) script) l' →
      l'.issued = [] → l'.machine.acknowledged.active.length ≤ capacity
  /-- A notification stays until it is replaced or purged. -/
  kept : ∀ n ∈ l.machine.acknowledged.documents, (∀ op ∈ l.issued, op.Spares n.id) →
    ∀ l', (sparingSystem sdk capacity limit n.id l).Reachable l' →
      ∃ n' ∈ l'.machine.acknowledged.documents, Kept n n'

/-- Identifiers rise, and notifications are kept, in every run whose steps meet the condition. -/
theorem notifications_fresh_and_kept
    (hcodec : sdk.RoundTrips)
    (hsteady : sdk.Steady)
    (hlimits : checkLimits capacity limit = .ok ())
    (h : (ledgerSystem sdk capacity limit).Reachable l) :
    LedgerGuarantees sdk capacity limit l := by
  have hl := ledger_invariant hcodec hsteady hlimits h
  have hm := invariant_of_reachable hcodec hsteady hlimits hl.machine
  refine ⟨hl.order, fun id hid => ?_, hm.storable.ids, ?_, ?_⟩
  · obtain ⟨hpos, hmax, -⟩ := hl.returned id hid
    exact ⟨hpos, hmax⟩
  · intro notification script l' hstep hissued
    cases StoreLedger.moves hcodec hsteady hlimits hl.machine hstep with
    | acknowledged hacknowledged _ _ _ hresult =>
        rw [hacknowledged]
        exact StoreOperation.length_active_apply (hresult notification rfl)
    | issued _ _ hpending _ =>
        rw [hpending] at hissued
        cases hissued
    | unchanged hother _ _ _ _ => exact absurd rfl (hother _ script)
  · intro n hn hspared l' hlater
    have hholds : l'.Invariant sdk capacity limit ∧ l'.Holds n := by
      refine hlater.invariant (I := fun t => t.Invariant sdk capacity limit ∧ t.Holds n) ?_ ?_
      · rintro _ rfl
        exact ⟨hl, ⟨n, hn, .refl⟩, hspared⟩
      · rintro t e t' ⟨ht, hkept⟩ ⟨hspares, hstep⟩
        exact ⟨ht.step hcodec hsteady hlimits hstep,
          hkept.step hcodec hsteady hlimits ht hspares hstep⟩
    exact hholds.2.kept

/-- The ledger after an event, where the event is possible. -/
def StoreLedger.next (sdk : NotificationSdk) (capacity limit : Nat) (l : StoreLedger)
    (e : NotificationStoreEvent) : Option StoreLedger :=
  (l.machine.after sdk capacity limit e).map (l.after sdk capacity limit e)

theorem reachable_next
    (h : (ledgerSystem sdk capacity limit).Reachable l)
    (hnext : l.next sdk capacity limit e = some l')
    (hprudent : PrudentStore sdk l.machine e) :
    (ledgerSystem sdk capacity limit).Reachable l' := by
  obtain ⟨m', hafter, rfl⟩ := Option.map_eq_some_iff.mp hnext
  exact .step (e := e) h ⟨m', hprudent, step_of_after hafter, rfl⟩

/-- A new store with the libraries that know three notifications. -/
def newLedger : StoreLedger :=
  ⟨emptyMachine sentSdk, [], []⟩

def StoreLedger.go (l : StoreLedger) (e : NotificationStoreEvent) : StoreLedger :=
  (l.next sentSdk 1 4096 e).getD l

theorem reachable_go
    (h : (ledgerSystem sentSdk 1 4096).Reachable l)
    (hpossible : (l.next sentSdk 1 4096 e).isSome = true)
    (hprudent : PrudentStore sentSdk l.machine e) :
    (ledgerSystem sentSdk 1 4096).Reachable (l.go e) := by
  obtain ⟨l', hl'⟩ := Option.isSome_iff_exists.mp hpossible
  rw [StoreLedger.go, hl']
  exact reachable_next h hl' hprudent

/-- The store is opened, and a first notification is pushed. -/
def firstLedger : StoreLedger :=
  (newLedger.go (.reopen [])).go (.operate firstPush [])

/-- The next push stops in its commit, and the store is opened again. -/
def recoveredLedger : StoreLedger :=
  (firstLedger.go (.operate secondPush (stoppedAfter 6))).go (.reopen [])

/-- After a third notification the store is killed. -/
def killedLedger : StoreLedger :=
  (recoveredLedger.go (.operate thirdPush [])).go .kill

/-- Each of these steps is possible, and so the last ledger is as it should be. -/
theorem possible_killedLedger :
    ((newLedger.next sentSdk 1 4096 (.reopen [])).isSome = true ∧
      ((newLedger.go (.reopen [])).next sentSdk 1 4096 (.operate firstPush [])).isSome = true ∧
      (firstLedger.next sentSdk 1 4096 (.operate secondPush (stoppedAfter 6))).isSome = true ∧
      ((firstLedger.go (.operate secondPush (stoppedAfter 6))).next sentSdk 1 4096
        (.reopen [])).isSome = true ∧
      (recoveredLedger.next sentSdk 1 4096 (.operate thirdPush [])).isSome = true ∧
      ((recoveredLedger.go (.operate thirdPush [])).next sentSdk 1 4096 .kill).isSome = true) ∧
    killedLedger.returned = [3, 1] ∧
      notificationIds killedLedger.machine.acknowledged.documents = [3, 1, 2] := by
  decide +kernel

theorem reachable_killedLedger : (ledgerSystem sentSdk 1 4096).Reachable killedLedger := by
  obtain ⟨⟨hopened, hfirst, hcut, hreopened, hthird, hkilled⟩, -⟩ := possible_killedLedger
  have hnew : (ledgerSystem sentSdk 1 4096).Reachable newLedger :=
    .initial ⟨_, emptyMachine_initial fits_emptyMachine, rfl⟩
  have hpushed : (ledgerSystem sentSdk 1 4096).Reachable firstLedger :=
    reachable_go (reachable_go hnew hopened trivial) hfirst (prudent_push rfl)
  have hrecovered : (ledgerSystem sentSdk 1 4096).Reachable recoveredLedger :=
    reachable_go (reachable_go hpushed hcut (prudent_push rfl)) hreopened trivial
  exact reachable_go (reachable_go hrecovered hthird (prudent_push rfl)) hkilled trivial

/-- The push that was cut off takes its identifier along. -/
theorem notifications_fresh_and_kept_reopened :
    LedgerGuarantees sentSdk 1 4096 killedLedger ∧ killedLedger.returned = [3, 1] ∧
      notificationIds killedLedger.machine.acknowledged.documents = [3, 1, 2] :=
  ⟨notifications_fresh_and_kept sentSdk_roundTrips sentSdk_steady rfl reachable_killedLedger,
    possible_killedLedger.2⟩

end Ledgers

end SleepySession
