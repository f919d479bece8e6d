import SleepySession.Lib.Cut
import SleepySession.Lib.Reader
import SleepySession.Sessiond.Hub

/-!
# Delivery of session events

What the hub retains is the fold of what it accepted, and a subscriber that
does not lag gets its replay and then every later event once, in order.  One
invariant carries both: the channel is a prefix of the accepted events, and the
generation that a subscriber has seen cuts the accepted events at the place
where its reading stands.
-/

namespace SleepySession
namespace Sessiond

section View

variable {κ ν τ : Type} [LinearOrder κ]

/-- A snapshot as its readers see it. -/
structure SnapshotView (κ ν : Type) where
  record : κ → Option (CapabilityRecord κ ν)
  focusedOutputId : Option String

def RuntimeSnapshot.view (snapshot : RuntimeSnapshot κ ν) : SnapshotView κ ν where
  record id := snapshot.capabilities.find? (fun record => record.id = id)
  focusedOutputId := snapshot.focusedOutputId

/-- What an event means for the readers. -/
def SnapshotView.apply (view : SnapshotView κ ν) : SessionEvent κ ν τ → SnapshotView κ ν
  | .fullSnapshot next => next.view
  | .capabilityUpdate update =>
      { view with record := Function.update view.record update.id (some update) }
  | .niri focusedOutputId => { view with focusedOutputId := focusedOutputId }
  | .other _ => view

theorem find?_replaceFirst
    (update : CapabilityRecord κ ν) (id : κ) (l : List (CapabilityRecord κ ν))
    (h : ∃ current ∈ l, current.id = update.id) :
    (replaceFirst update l).find? (fun record => record.id = id) =
      if id = update.id then some update
      else l.find? (fun record => record.id = id) := by
  induction l with
  | nil => simp at h
  | cons current rest ih =>
      by_cases hcurrent : current.id = update.id
      · by_cases hid : id = update.id
        · simp [replaceFirst, hcurrent, hid]
        · simp [replaceFirst, hid, hcurrent, Ne.symm hid]
      · have hrest : ∃ record ∈ rest, record.id = update.id := by
          obtain ⟨record, hmem, hrecord⟩ := h
          rcases List.mem_cons.mp hmem with rfl | hmem
          · exact absurd hrecord hcurrent
          · exact ⟨record, hmem, hrecord⟩
        by_cases hid : current.id = id
        · have hne : id ≠ update.id := hid ▸ hcurrent
          simp [replaceFirst, hid, hne]
        · simp [replaceFirst, hcurrent, hid, ih hrest]

/-- A stable sort by identifier does not change what a lookup finds. -/
theorem find?_sortByKey (l : List (CapabilityRecord κ ν)) (id : κ) :
    (sortByKey l).find? (fun record => record.id = id) =
      l.find? (fun record => record.id = id) := by
  let le : CapabilityRecord κ ν → CapabilityRecord κ ν → Bool :=
    fun a b => decide (a.id ≤ b.id)
  let p : CapabilityRecord κ ν → Bool := fun record => record.id = id
  have hsame : (l.filter p).Pairwise (fun a b => le a b = true) := by
    refine List.pairwise_of_forall_mem_list fun a ha b hb => ?_
    have ha' : a.id = id := by simpa [p] using (List.mem_filter.mp ha).2
    have hb' : b.id = id := by simpa [p] using (List.mem_filter.mp hb).2
    simp [le, ha', hb']
  have hsub : (l.filter p).Sublist (l.mergeSort le) :=
    List.sublist_mergeSort
      (fun a b c hab hbc => by
        simp only [le, decide_eq_true_eq] at hab hbc ⊢
        exact le_trans hab hbc)
      (fun a b => by
        simp only [le, Bool.or_eq_true, decide_eq_true_eq]
        exact le_total a.id b.id)
      hsame List.filter_sublist
  have hfilter : (l.filter p).Sublist ((l.mergeSort le).filter p) := by
    have := hsub.filter p
    rwa [List.filter_filter, List.filter_congr (q := p) (by simp)] at this
  have hperm : ((l.mergeSort le).filter p).Perm (l.filter p) :=
    (List.mergeSort_perm l le).filter p
  have heq : (l.mergeSort le).filter p = l.filter p :=
    (hfilter.eq_of_length hperm.length_eq.symm).symm
  calc (l.mergeSort le).find? p = ((l.mergeSort le).filter p).head? :=
        (List.head?_filter ..).symm
    _ = (l.filter p).head? := by rw [heq]
    _ = l.find? p := List.head?_filter ..

/-- The hub's fold is what the events mean. -/
theorem view_fold (snapshot : RuntimeSnapshot κ ν) (event : SessionEvent κ ν τ) :
    (snapshot.fold event).view = snapshot.view.apply event := by
  cases event with
  | fullSnapshot next => rfl
  | niri focusedOutputId => rfl
  | other event => rfl
  | capabilityUpdate update =>
      have hrecord : ∀ id,
          (snapshot.update update).view.record id =
            Function.update snapshot.view.record update.id (some update) id := by
        intro id
        simp only [RuntimeSnapshot.update, RuntimeSnapshot.view, Function.update_apply]
        by_cases hany : ∃ current ∈ snapshot.capabilities, current.id = update.id
        · rw [if_pos (by simpa using hany), find?_replaceFirst update id _ hany]
        · rw [if_neg (by simpa using hany), find?_sortByKey, List.find?_append]
          by_cases hid : id = update.id
          · subst hid
            have hnone : snapshot.capabilities.find? (fun record => record.id = update.id) =
                none := by
              simpa using hany
            rw [hnone]
            simp
          · simp [hid, Ne.symm hid]
      simp only [RuntimeSnapshot.fold, SnapshotView.apply]
      have := funext hrecord
      simp only [RuntimeSnapshot.view] at this ⊢
      rw [this]
      rfl

theorem view_foldl
    (snapshot : RuntimeSnapshot κ ν) (events : List (SessionEvent κ ν τ)) :
    (events.foldl RuntimeSnapshot.fold snapshot).view =
      events.foldl SnapshotView.apply snapshot.view := by
  induction events generalizing snapshot with
  | nil => rfl
  | cons event rest ih => rw [List.foldl_cons, List.foldl_cons, ih, view_fold]

end View

section Delivery

variable {κ ν τ π χ : Type} [LinearOrder κ] [DecidableEq π] [DecidableEq χ]

/-- The snapshot after a list of accepted events. -/
def snapshotAfter
    (initial : RuntimeSnapshot κ ν) (events : List (EventEnvelope κ ν τ)) :
    RuntimeSnapshot κ ν :=
  (events.map (·.payload)).foldl RuntimeSnapshot.fold initial

/-- The accepted event that its publisher has not sent yet. -/
def HubRun.unsent (s : HubRun κ ν τ π χ) : List (EventEnvelope κ ν τ) :=
  match s.holder with
  | some (_, .folded event) => [event]
  | _ => []

/-- How a subscriber stands to the accepted events and to the channel. -/
structure EventSubscriber.Follows
    (initial : RuntimeSnapshot κ ν) (accepted channel : List (EventEnvelope κ ν τ)) (seen : Nat)
    (x : EventSubscriber κ ν τ) : Prop where
  joined_le : x.joined ≤ accepted.length
  cursor_le : x.cursor ≤ channel.length
  seen_le : x.lastGeneration ≤ seen
  below : ∀ e ∈ accepted.take (max x.cursor x.joined), e.generation ≤ x.lastGeneration
  above : ∀ e ∈ accepted.drop (max x.cursor x.joined), x.lastGeneration < e.generation
  replayed : x.replayed.payload = .fullSnapshot (snapshotAfter initial (accepted.take x.joined))
  replayed_before : ∀ e ∈ accepted.drop x.joined, x.replayed.generation < e.generation
  waiting : ∀ replay, x.replay = some replay →
    replay = x.replayed ∧ x.delivered = [] ∧ x.cursor ≤ x.joined
  delivered : x.replay = none →
    x.delivered = x.replayed :: (accepted.take x.cursor).drop x.joined
  replayed_le : x.replayed.generation ≤ x.lastGeneration

/-- What holds of the hub and its subscribers at any time. -/
structure HubRun.Invariant (initial : RuntimeSnapshot κ ν) (s : HubRun κ ν τ π χ) : Prop where
  folded : s.latestSnapshot.payload = .fullSnapshot (snapshotAfter initial s.accepted)
  ordered : s.accepted.Pairwise (fun a b => a.generation < b.generation)
  latest : ∀ e ∈ s.accepted, e.generation ≤ s.latestSnapshot.generation
  channel : s.accepted = s.channel ++ s.unsent
  attached : ∀ c cursor, s.subscribers c = some (.attached cursor) →
    cursor ≤ s.channel.length
  follows : ∀ c x, s.subscribers c = some (.subscribed x) → x.lagged = false →
    x.Follows initial s.accepted s.channel s.latestSnapshot.generation

variable {slots generation : Nat} {initial : RuntimeSnapshot κ ν}

theorem EventSubscriber.Follows.cut
    {accepted channel : List (EventEnvelope κ ν τ)} {seen : Nat} {x : EventSubscriber κ ν τ}
    (hx : x.Follows initial accepted channel seen) :
    CutAt EventEnvelope.generation accepted (max x.cursor x.joined) x.lastGeneration :=
  ⟨hx.below, hx.above⟩

theorem EventSubscriber.Follows.accept
    {accepted channel : List (EventEnvelope κ ν τ)} {seen : Nat} {x : EventSubscriber κ ν τ}
    (hx : x.Follows initial accepted channel seen)
    (hlength : channel.length ≤ accepted.length)
    {event : EventEnvelope κ ν τ}
    (hevent : seen < event.generation) :
    x.Follows initial (accepted ++ [event]) channel event.generation := by
  have hmax : max x.cursor x.joined ≤ accepted.length :=
    max_le (hx.cursor_le.trans hlength) hx.joined_le
  have hlast : x.lastGeneration < event.generation := hx.seen_le.trans_lt hevent
  refine ⟨?_, hx.cursor_le, hlast.le, ?_, ?_, ?_, ?_, hx.waiting, ?_, hx.replayed_le⟩
  · have := hx.joined_le
    simp
    omega
  · exact (hx.cut.append hmax hlast).below
  · exact (hx.cut.append hmax hlast).above
  · rw [List.take_append_of_le_length hx.joined_le]
    exact hx.replayed
  · rw [List.drop_append_of_le_length hx.joined_le]
    intro e he
    rcases List.mem_append.mp he with he | he
    · exact hx.replayed_before e he
    · rw [List.mem_singleton.mp he]
      exact hx.replayed_le.trans_lt hlast
  · intro hnone
    rw [List.take_append_of_le_length (hx.cursor_le.trans hlength)]
    exact hx.delivered hnone

theorem EventSubscriber.Follows.send
    {accepted channel : List (EventEnvelope κ ν τ)} {seen : Nat} {x : EventSubscriber κ ν τ}
    (hx : x.Follows initial accepted channel seen)
    (event : EventEnvelope κ ν τ) :
    x.Follows initial accepted (channel ++ [event]) seen :=
  { hx with cursor_le := hx.cursor_le.trans (by simp) }

/-- A subscriber that has just read the retained snapshot. -/
theorem follows_newSubscriber
    {accepted channel : List (EventEnvelope κ ν τ)} {replay : EventEnvelope κ ν τ} {cursor : Nat}
    (hpayload : replay.payload = .fullSnapshot (snapshotAfter initial accepted))
    (hlatest : ∀ e ∈ accepted, e.generation ≤ replay.generation)
    (hcursor : cursor ≤ channel.length)
    (hlength : channel.length ≤ accepted.length) :
    (newSubscriber cursor replay accepted.length).Follows
      initial accepted channel replay.generation where
  joined_le := le_refl _
  cursor_le := hcursor
  seen_le := le_refl _
  below e he := hlatest e (List.mem_of_mem_take he)
  above e he := by
    simp only [newSubscriber] at he
    rw [List.drop_of_length_le (le_max_right _ _)] at he
    simp at he
  replayed := by simpa [newSubscriber] using hpayload
  replayed_before e he := by simp [newSubscriber] at he
  waiting r hr := by
    simp only [newSubscriber, Option.some.injEq] at hr
    exact ⟨hr.symm, rfl, hcursor.trans hlength⟩
  delivered hnone := by simp [newSubscriber] at hnone
  replayed_le := le_refl _

/-- One round of `recv` takes the next event, or skips one that the replay contains. -/
theorem EventSubscriber.Follows.recv
    {accepted channel rest : List (EventEnvelope κ ν τ)} {seen : Nat}
    {x x' : EventSubscriber κ ν τ}
    (hx : x.Follows initial accepted channel seen)
    (hordered : accepted.Pairwise (fun a b => a.generation < b.generation))
    (hlatest : ∀ e ∈ accepted, e.generation ≤ seen)
    (hchannel : accepted = channel ++ rest)
    (hrecv : x.recv slots channel = some x')
    (hlagged : x'.lagged = false) :
    x'.Follows initial accepted channel seen := by
  unfold EventSubscriber.recv at hrecv
  split at hrecv
  · rename_i replay hreplay
    obtain ⟨rfl, hdelivered, hcursor⟩ := hx.waiting replay hreplay
    cases hrecv
    exact { hx with
      waiting := fun r hr => by simp at hr
      delivered := fun _ => by simp [hdelivered, CutAt.window_before hcursor] }
  · rename_i hreplay
    split at hrecv
    · cases hrecv
      simp at hlagged
    · split at hrecv
      · cases hrecv
      · rename_i event hevent
        obtain ⟨hlt, -⟩ := List.getElem?_eq_some_iff.mp hevent
        have hnext : accepted[x.cursor]? = some event := by
          rw [hchannel, List.getElem?_append_left hlt]
          exact hevent
        have hdelivered := hx.delivered hreplay
        split at hrecv
        · rename_i hlast
          cases hrecv
          -- the event lies beyond everything the subscriber has seen
          obtain ⟨hjoined, hcut⟩ := hx.cut.new hordered hnext hlast
          refine ⟨hx.joined_le, hlt, ?_, hcut.below, hcut.above, hx.replayed, hx.replayed_before,
            ?_, ?_, ?_⟩
          · exact hlatest event (List.mem_of_getElem? hnext)
          · intro r hr
            rw [hreplay] at hr
            cases hr
          · intro _
            simp only [hdelivered, CutAt.window_succ hnext hjoined, List.cons_append]
          · exact hx.replayed_le.trans hlast.le
        · rename_i hlast
          cases hrecv
          -- the replay contains the event already
          obtain ⟨hjoined, hcut⟩ := hx.cut.old hnext hlast
          exact { hx with
            cursor_le := hlt
            below := hcut.below
            above := hcut.above
            waiting := fun r hr => by rw [hreplay] at hr; cases hr
            delivered := fun _ => by
              simp only [hdelivered, CutAt.window_before hjoined.le, CutAt.window_before hjoined] }

theorem acceptEvent_eq_ok
    {replay event replay' : EventEnvelope κ ν τ} {snapshot : RuntimeSnapshot κ ν}
    (hreplay : replay.payload = .fullSnapshot snapshot)
    (h : acceptEvent replay event = .ok replay') :
    replay'.payload = .fullSnapshot (snapshot.fold event.payload) ∧
      replay'.generation = event.generation ∧ replay.generation < event.generation := by
  unfold acceptEvent at h
  split at h
  · cases h
  · rename_i hstale
    have hlt : replay.generation < event.generation := Nat.lt_of_not_le hstale
    rw [hreplay] at h
    cases hpayload : event.payload with
    | fullSnapshot next =>
        rw [hpayload] at h
        cases h
        exact ⟨hpayload, rfl, hlt⟩
    | capabilityUpdate update =>
        rw [hpayload] at h
        cases h
        exact ⟨rfl, rfl, hlt⟩
    | niri focusedOutputId =>
        rw [hpayload] at h
        cases h
        exact ⟨rfl, rfl, hlt⟩
    | other event' =>
        rw [hpayload] at h
        cases h
        exact ⟨rfl, rfl, hlt⟩

omit [DecidableEq π] [DecidableEq χ] in
theorem HubRun.Invariant.length_le
    {s : HubRun κ ν τ π χ} (hs : s.Invariant initial) :
    s.channel.length ≤ s.accepted.length := by
  rw [hs.channel]
  simp

omit [DecidableEq π] [DecidableEq χ] in
/-- A step of the lock holder before the fold or after the sending. -/
theorem HubRun.Invariant.withHolder
    {s : HubRun κ ν τ π χ}
    (hs : s.Invariant initial)
    (hunsent : s.unsent = [])
    (holder : Option (π × PublishStage κ ν τ)) (currentGeneration : Nat)
    (hunsent' : HubRun.unsent { s with holder := holder, currentGeneration := currentGeneration } =
      []) :
    HubRun.Invariant initial
      { s with holder := holder, currentGeneration := currentGeneration } where
  folded := hs.folded
  ordered := hs.ordered
  latest := hs.latest
  channel := by
    rw [hunsent']
    exact hunsent ▸ hs.channel
  attached := hs.attached
  follows := hs.follows

omit [DecidableEq π] in
/-- A step of one subscriber. -/
theorem HubRun.Invariant.withSubscriber
    {s : HubRun κ ν τ π χ}
    (hs : s.Invariant initial)
    (c : χ) (subscription : Option (Subscription κ ν τ))
    (hattached : ∀ cursor, subscription = some (.attached cursor) → cursor ≤ s.channel.length)
    (hfollows : ∀ x, subscription = some (.subscribed x) → x.lagged = false →
      x.Follows initial s.accepted s.channel s.latestSnapshot.generation) :
    HubRun.Invariant initial
      { s with subscribers := Function.update s.subscribers c subscription } where
  folded := hs.folded
  ordered := hs.ordered
  latest := hs.latest
  channel := hs.channel
  attached c' cursor h := by
    by_cases hc : c' = c
    · subst hc
      exact hattached cursor (by simpa using h)
    · exact hs.attached c' cursor (by simpa [Function.update_of_ne hc] using h)
  follows c' x h hlagged := by
    by_cases hc : c' = c
    · subst hc
      exact hfollows x (by simpa using h) hlagged
    · exact hs.follows c' x (by simpa [Function.update_of_ne hc] using h) hlagged

omit [LinearOrder κ] in
/-- A subscriber that has lagged stays so. -/
theorem EventSubscriber.recv_lagged
    {channel : List (EventEnvelope κ ν τ)} {x x' : EventSubscriber κ ν τ}
    (h : x.recv slots channel = some x')
    (hlagged : x'.lagged = false) :
    x.lagged = false := by
  unfold EventSubscriber.recv at h
  split at h
  · cases h
    exact hlagged
  · split at h
    · cases h
      simp at hlagged
    · split at h
      · cases h
      · split at h <;> cases h <;> exact hlagged

variable {s s' : HubRun κ ν τ π χ}

/-- The lock holder folds the event into the snapshot, or is told that it is stale. -/
theorem HubRun.Invariant.fold {p : π} (hs : s.Invariant initial)
    (h : s.after slots (.fold p) = some s') : s'.Invariant initial := by
  unfold HubRun.after at h
  dsimp only at h
  split at h
  · rename_i q event hholder
    have hunsent : s.unsent = [] := by simp [HubRun.unsent, hholder]
    split at h
    · split at h
      · rename_i replay haccept
        cases h
        obtain ⟨hpayload, hgeneration, hlt⟩ := acceptEvent_eq_ok hs.folded haccept
        refine ⟨?_, ?_, ?_, ?_, hs.attached, ?_⟩
        · simp only [snapshotAfter, List.map_append, List.foldl_append]
          exact hpayload
        · refine List.pairwise_append.mpr ⟨hs.ordered, List.pairwise_singleton _ _, ?_⟩
          intro a ha b hb
          rw [List.mem_singleton.mp hb]
          exact (hs.latest a ha).trans_lt hlt
        · intro a ha
          simp only [hgeneration]
          rcases List.mem_append.mp ha with ha | ha
          · exact ((hs.latest a ha).trans_lt hlt).le
          · exact (List.mem_singleton.mp ha) ▸ le_refl _
        · have hchannel := hs.channel
          rw [hunsent, List.append_nil] at hchannel
          simp [HubRun.unsent, hchannel]
        · intro c x hx hlagged
          simp only [hgeneration]
          exact (hs.follows c x hx hlagged).accept hs.length_le hlt
      · cases h
        exact hs.withHolder hunsent _ s.currentGeneration rfl
    · cases h
  · cases h

/-- What was accepted reaches the channel. -/
theorem HubRun.Invariant.send {p : π} (hs : s.Invariant initial)
    (h : s.after slots (.send p) = some s') : s'.Invariant initial := by
  unfold HubRun.after at h
  dsimp only at h
  split at h
  · rename_i q event hholder
    split at h
    · cases h
      have hunsent : s.unsent = [event] := by simp [HubRun.unsent, hholder]
      refine ⟨hs.folded, hs.ordered, hs.latest, ?_, ?_, ?_⟩
      · have hchannel := hs.channel
        rw [hunsent] at hchannel
        simp [HubRun.unsent, hchannel]
      · intro c cursor hc
        have := hs.attached c cursor hc
        simp
        omega
      · intro c x hx hlagged
        exact (hs.follows c x hx hlagged).send event
    · cases h
  · cases h

/-- The generation is settled once the event was sent, or was refused. -/
theorem HubRun.Invariant.settle {p : π} (hs : s.Invariant initial)
    (h : s.after slots (.settle p) = some s') : s'.Invariant initial := by
  unfold HubRun.after at h
  dsimp only at h
  split at h
  · rename_i q event hholder
    split at h
    · cases h
      exact hs.withHolder (by simp [HubRun.unsent, hholder]) _ _ rfl
    · cases h
  · rename_i q attempted current hholder
    split at h
    · cases h
      exact hs.withHolder (by simp [HubRun.unsent, hholder]) _ _ rfl
    · cases h
  · cases h

theorem HubRun.Invariant.unlock {p : π} (hs : s.Invariant initial)
    (h : s.after slots (.unlock p) = some s') : s'.Invariant initial := by
  unfold HubRun.after at h
  dsimp only at h
  split at h
  · rename_i q hholder
    split at h
    · cases h
      exact hs.withHolder (by simp [HubRun.unsent, hholder]) _ s.currentGeneration rfl
    · cases h
  · rename_i q event hholder
    split at h
    · cases h
      exact hs.withHolder (by simp [HubRun.unsent, hholder]) _ s.currentGeneration rfl
    · cases h
  · cases h

/-- The replay that a subscriber reads covers everything accepted so far. -/
theorem HubRun.Invariant.readSnapshot {c : χ} (hs : s.Invariant initial)
    (h : s.after slots (.readSnapshot c) = some s') : s'.Invariant initial := by
  unfold HubRun.after at h
  dsimp only at h
  split at h
  · rename_i cursor hattached
    cases h
    refine hs.withSubscriber c _ (fun _ hc => by simp at hc) (fun x hx _ => ?_)
    simp only [Option.some.injEq, Subscription.subscribed.injEq] at hx
    exact hx ▸ follows_newSubscriber hs.folded hs.latest (hs.attached c cursor hattached)
      hs.length_le
  · cases h

theorem HubRun.Invariant.recv {c : χ} (hs : s.Invariant initial)
    (h : s.after slots (.recv c) = some s') : s'.Invariant initial := by
  unfold HubRun.after at h
  dsimp only at h
  split at h
  · rename_i x hsubscribed
    obtain ⟨x', hrecv, rfl⟩ := Option.map_eq_some_iff.mp h
    refine hs.withSubscriber c _ (fun _ hc => by simp at hc) (fun y hy hlagged => ?_)
    simp only [Option.some.injEq, Subscription.subscribed.injEq] at hy
    subst hy
    exact (hs.follows c x hsubscribed (EventSubscriber.recv_lagged hrecv hlagged)).recv
      hs.ordered hs.latest hs.channel hrecv hlagged
  · cases h

/-- The step lemma. -/
theorem HubRun.Invariant.after {e : HubEvent κ ν τ π χ}
    (hs : s.Invariant initial) (h : s.after slots e = some s') : s'.Invariant initial := by
  cases e with
  | lock p =>
      unfold HubRun.after at h
      dsimp only at h
      split at h
      · rename_i hfree
        cases h
        have hnone : s.holder = none := by simpa using hfree
        exact hs.withHolder (by simp [HubRun.unsent, hnone]) _ s.currentGeneration rfl
      · cases h
  | allocate p event =>
      unfold HubRun.after at h
      dsimp only at h
      split at h
      · rename_i q hholder
        split at h
        · cases h
          exact hs.withHolder (by simp [HubRun.unsent, hholder]) _ s.currentGeneration rfl
        · cases h
      · cases h
  | fold p => exact hs.fold h
  | send p => exact hs.send h
  | settle p => exact hs.settle h
  | unlock p => exact hs.unlock h
  | attach c =>
      unfold HubRun.after at h
      dsimp only at h
      split at h
      · cases h
        refine hs.withSubscriber c _ (fun cursor hc => ?_) (fun x hx => by simp at hx)
        simp only [Option.some.injEq, Subscription.attached.injEq] at hc
        exact hc.ge
      · cases h
  | readSnapshot c => exact hs.readSnapshot h
  | recv c => exact hs.recv h
  | leave c =>
      cases h
      exact hs.withSubscriber c none (fun _ hc => by simp at hc) (fun _ hx => by simp at hx)

omit [DecidableEq π] [DecidableEq χ] in
theorem HubRun.invariant_start
    {envelope : EventEnvelope κ ν τ} (hpayload : envelope.payload = .fullSnapshot initial)
    (currentGeneration : Nat) :
    HubRun.Invariant initial (HubRun.start (π := π) (χ := χ) envelope currentGeneration) where
  folded := by simp [HubRun.start, initialReplay, hpayload, snapshotAfter]
  ordered := List.Pairwise.nil
  latest e he := by simp [HubRun.start] at he
  channel := rfl
  attached c cursor h := by simp [HubRun.start] at h
  follows c x h := by simp [HubRun.start] at h

theorem HubRun.invariant_of_reachable
    {s : HubRun κ ν τ π χ}
    (h : (hubSystem slots generation initial).Reachable s) :
    s.Invariant initial := by
  refine h.invariant (fun s hs => ?_) (fun s e s' hs hstep => hs.after hstep)
  obtain ⟨envelope, currentGeneration, hpayload, -, rfl⟩ := hs
  exact HubRun.invariant_start hpayload currentGeneration

/-- The events still on their way to a subscriber. -/
def HubRun.waiting (s : HubRun κ ν τ π χ) (x : EventSubscriber κ ν τ) :
    List (EventEnvelope κ ν τ) :=
  (s.channel.drop x.cursor ++ s.unsent).filter
    (fun event => decide (x.lastGeneration < event.generation))

omit [DecidableEq π] [DecidableEq χ] in
theorem EventSubscriber.Follows.waiting_eq
    {s : HubRun κ ν τ π χ} {x : EventSubscriber κ ν τ}
    (hs : s.Invariant initial)
    (hx : x.Follows initial s.accepted s.channel s.latestSnapshot.generation) :
    s.waiting x = s.accepted.drop (max x.cursor x.joined) := by
  have hdrop : s.channel.drop x.cursor ++ s.unsent = s.accepted.drop x.cursor := by
    rw [hs.channel, List.drop_append_of_le_length hx.cursor_le]
  rw [HubRun.waiting, hdrop]
  exact hx.cut.filter_drop (hx.cursor_le.trans hs.length_le)

/-- The replay that a subscriber still holds, and what was sent that it has not seen. -/
def HubRun.queued (s : HubRun κ ν τ π χ) (c : χ) : List (EventEnvelope κ ν τ) :=
  match s.subscribers c with
  | some (.subscribed x) =>
      x.replay.toList ++
        (s.channel.drop x.cursor).filter fun event => decide (x.lastGeneration < event.generation)
  | _ => []

def HubRun.delivered (s : HubRun κ ν τ π χ) (c : χ) : List (EventEnvelope κ ν τ) :=
  match s.subscribers c with
  | some (.subscribed x) => x.delivered
  | _ => []

/-- More events than the channel holds were sent since the last one that the subscriber took. -/
def HubRun.Overrun (slots : Nat) (s : HubRun κ ν τ π χ) (x : EventSubscriber κ ν τ) : Prop :=
  x.replay = none ∧ x.cursor + slots < s.channel.length

/-- The calls of `recv` of one subscriber, between which nobody else takes a step. -/
def recvReader (slots : Nat) (c : χ) : Reader (HubRun κ ν τ π χ) (EventEnvelope κ ν τ) where
  round s := s.after slots (.recv c)
  queue s := s.queued c
  returned s := s.delivered c

omit [DecidableEq π] [DecidableEq χ] in
theorem HubRun.Invariant.sent_ordered (hs : s.Invariant initial) :
    s.channel.Pairwise (fun a b => a.generation < b.generation) :=
  hs.ordered.sublist (hs.channel ▸ List.sublist_append_left _ _)

/-- As long as a subscriber is not overrun, each round returns an event or passes over one. -/
theorem recvReader_advances (slots : Nat) (c : χ) :
    (recvReader slots c).Advances
      (fun s : HubRun κ ν τ π χ => s.channel.Pairwise (fun a b => a.generation < b.generation) ∧
        ∃ x, s.subscribers c = some (.subscribed x) ∧ ¬ s.Overrun slots x)
      (fun s => match s.subscribers c with
        | some (.subscribed x) => s.channel.length - x.cursor
        | _ => 0) := by
  rintro s e rest ⟨hordered, x, hsubscribed, hoverrun⟩ hqueue
  simp only [recvReader, HubRun.queued, HubRun.delivered, hsubscribed, HubRun.after] at hqueue ⊢
  cases hreplay : x.replay with
  | some replay =>
      rw [hreplay] at hqueue
      obtain ⟨rfl, hrest⟩ := List.cons.inj hqueue
      have hrecv : x.recv slots s.channel =
          some { x with replay := none, delivered := x.delivered ++ [replay] } := by
        simp [EventSubscriber.recv, hreplay]
      exact ⟨_, congrArg (Option.map _) hrecv, Or.inl (by simpa using hrest)⟩
  | none =>
      have hfit : ¬ x.cursor + slots < s.channel.length := fun h => hoverrun ⟨hreplay, h⟩
      rw [hreplay, Option.toList_none, List.nil_append] at hqueue
      cases hnext : s.channel[x.cursor]? with
      | none =>
          rw [List.drop_eq_nil_of_le (List.getElem?_eq_none_iff.mp hnext)] at hqueue
          cases hqueue
      | some event =>
          have hlt := (List.getElem?_eq_some_iff.mp hnext).1
          by_cases hnew : x.lastGeneration < event.generation
          · rw [CutAt.filter_drop_new hordered hnext hnew] at hqueue
            obtain ⟨rfl, hrest⟩ := List.cons.inj hqueue
            have hrecv : x.recv slots s.channel =
                some { x with
                  cursor := x.cursor + 1
                  lastGeneration := event.generation
                  delivered := x.delivered ++ [event] } := by
              simp [EventSubscriber.recv, hreplay, hfit, hnext, hnew]
            exact ⟨_, congrArg (Option.map _) hrecv, Or.inl (by simpa [hreplay] using hrest)⟩
          · rw [@CutAt.filter_drop_old _ EventEnvelope.generation _ _ _ _ hnext hnew] at hqueue
            have hrecv : x.recv slots s.channel = some { x with cursor := x.cursor + 1 } := by
              simp [EventSubscriber.recv, hreplay, hfit, hnext, hnew]
            refine ⟨_, congrArg (Option.map _) hrecv,
              Or.inr ⟨⟨hordered, _, Function.update_self _ _ _, fun h => hfit ?_⟩, ?_⟩⟩
            · have := h.2
              simp only at this
              omega
            · simp only [Function.update_self, hreplay]
              exact ⟨hqueue, trivial, by omega⟩

/-- What the holder of a subscriber gets from `recv`. -/
structure HubRun.Served (slots : Nat) (s : HubRun κ ν τ π χ) (c : χ)
    (x : EventSubscriber κ ν τ) : Prop where
  /-- The next event, as long as something is queued. -/
  returns : ∀ e rest, s.queued c = e :: rest → ¬ s.Overrun slots x →
    ∃ s', (recvReader slots c).Returns s e s'
  /-- Lag is reported exactly when the subscriber is overrun. -/
  lags : (∃ s' x', s.after slots (.recv c) = some s' ∧
    s'.subscribers c = some (.subscribed x') ∧ x'.lagged = true) ↔ s.Overrun slots x
  /-- It waits only when nothing is left. -/
  waits : s.after slots (.recv c) = none ↔ x.replay = none ∧ s.channel.length ≤ x.cursor

theorem HubRun.Invariant.served {c : χ} {x : EventSubscriber κ ν τ} (hs : s.Invariant initial)
    (hsubscribed : s.subscribers c = some (.subscribed x)) (hlagged : x.lagged = false) :
    s.Served slots c x := by
  refine ⟨fun e rest hqueue hoverrun => ?_, ?_, ?_⟩
  · obtain ⟨s', hreturns, -⟩ := (recvReader_advances slots c).returns
      ⟨hs.sent_ordered, x, hsubscribed, hoverrun⟩ hqueue
    exact ⟨s', hreturns⟩
  all_goals
    simp only [HubRun.after, hsubscribed, HubRun.Overrun]
    unfold EventSubscriber.recv
    cases hreplay : x.replay with
    | some replay => simp [hlagged]
    | none =>
        by_cases hover : x.cursor + slots < s.channel.length
        · simp [hover]
          try omega
        · cases hnext : s.channel[x.cursor]? with
          | none =>
              have hend := List.getElem?_eq_none_iff.mp hnext
              simp [hover, hend]
          | some event =>
              have hlt := (List.getElem?_eq_some_iff.mp hnext).1
              by_cases hnew : x.lastGeneration < event.generation
              · simp [hover, hnew, hlagged, hlt]
              · simp [hover, hnew, hlagged, hlt]

/--
The hub retains the fold of all accepted events, whose generations increase.  A
subscriber that has not lagged has received nothing yet and still holds its
replay, or has received its replay first; from there on the events accepted
after the replay are exactly those received followed by those on their way, and
`recv` returns them one after the other.
-/
theorem hub_delivers
    {s : HubRun κ ν τ π χ}
    (h : (hubSystem slots generation initial).Reachable s) :
    (∃ snapshot, s.latestSnapshot.payload = .fullSnapshot snapshot ∧
      snapshot = snapshotAfter initial s.accepted ∧
      snapshot.view = (s.accepted.map (·.payload)).foldl SnapshotView.apply initial.view) ∧
    s.accepted.Pairwise (fun a b => a.generation < b.generation) ∧
    ∀ c x, s.subscribers c = some (.subscribed x) → x.lagged = false →
      x.replayed.payload = .fullSnapshot (snapshotAfter initial (s.accepted.take x.joined)) ∧
      (∃ received,
        s.accepted.drop x.joined = received ++ s.waiting x ∧
        (x.replay = some x.replayed ∧ x.delivered = [] ∧ received = [] ∨
          x.replay = none ∧ x.delivered = x.replayed :: received)) ∧
      x.delivered.Pairwise (fun a b => a.generation < b.generation) ∧ s.Served slots c x := by
  have hs := HubRun.invariant_of_reachable h
  refine ⟨⟨_, hs.folded, rfl, view_foldl _ _⟩, hs.ordered, fun c x hsub hlagged => ?_⟩
  have hx := hs.follows c x hsub hlagged
  have hwaiting := hx.waiting_eq hs
  have hsplit : s.accepted.drop x.joined =
      (s.accepted.take x.cursor).drop x.joined ++ s.waiting x := by
    rw [hwaiting]
    exact CutAt.drop_joined (hx.cursor_le.trans hs.length_le)
  refine ⟨hx.replayed, ⟨_, hsplit, ?_⟩, ?_, hs.served hsub hlagged⟩
  · cases hreplay : x.replay with
    | none => exact Or.inr ⟨rfl, hx.delivered hreplay⟩
    | some replay =>
        obtain ⟨rfl, hdelivered, hcursor⟩ := hx.waiting replay hreplay
        exact Or.inl ⟨rfl, hdelivered, CutAt.window_before hcursor⟩
  · cases hreplay : x.replay with
    | some replay =>
        rw [(hx.waiting replay hreplay).2.1]
        exact List.Pairwise.nil
    | none =>
        rw [hx.delivered hreplay]
        refine List.pairwise_cons.mpr ⟨fun e he => hx.replayed_before e ?_, ?_⟩
        · rw [hsplit]
          exact List.mem_append_left _ he
        · exact (hs.ordered.sublist (List.take_sublist _ _)).sublist (List.drop_sublist _ _)

end Delivery

section Sample

/-- A hub with one capability, seen by one subscriber while an update is published. -/
def sampleHub : HubRun Nat Nat Unit Nat Nat :=
  HubRun.start
    { schemaVersion := 1, generation := 1, eventId := "first", emittedAt := "now"
      cause := replayCause
      payload := .fullSnapshot { capabilities := [], focusedOutputId := none } }
    1

def sampleUpdate : EventEnvelope Nat Nat Unit where
  schemaVersion := 1
  generation := 2
  eventId := "second"
  emittedAt := "later"
  cause := { kind := .external, requestId := none }
  payload := .capabilityUpdate
    { id := 4, status := .available, value := some 7, diagnostic := none }

def sampleFocus : EventEnvelope Nat Nat Unit :=
  { sampleUpdate with generation := 3, eventId := "third", payload := .niri (some "DP-1") }

def sampleHubEvents : List (HubEvent Nat Nat Unit Nat Nat) :=
  [.lock 0, .allocate 0 sampleUpdate, .attach 5, .fold 0, .readSnapshot 5, .send 0, .settle 0,
    .unlock 0, .lock 1, .allocate 1 sampleFocus, .fold 1, .send 1, .settle 1, .unlock 1,
    .recv 5, .recv 5, .recv 5]

/-- Subscriber 5 of the sample run has received the events behind its replay. -/
def sampleReplayed (s : HubRun Nat Nat Unit Nat Nat) : Bool :=
  match s.subscribers 5 with
  | some (.subscribed x) => !x.lagged && x.delivered.map (·.generation) = [2, 3]
  | _ => false

/-- The update was folded before the replay was read and is not delivered again. -/
theorem hub_delivers_around_a_replay :
    ∃ s : HubRun Nat Nat Unit Nat Nat,
      System.replay (fun s e => s.after 4 e) sampleHub sampleHubEvents = some s ∧
        ∃ x, s.subscribers 5 = some (.subscribed x) ∧
          x.delivered.map (·.generation) = [2, 3] ∧
          x.delivered.Pairwise (fun a b => a.generation < b.generation) ∧ s.Served 4 5 x := by
  have hrun : ((System.replay (fun s e => s.after 4 e) sampleHub sampleHubEvents).any
      sampleReplayed) = true := by
    decide
  obtain ⟨s, hs, hdelivered⟩ := (Option.any_eq_true _ _).mp hrun
  have hreachable : (hubSystem (τ := Unit) (π := Nat) (χ := Nat) 4 1
      { capabilities := ([] : List (CapabilityRecord Nat Nat)), focusedOutputId := none }).Reachable
      s :=
    System.reachable_replay (.initial ⟨_, _, rfl, rfl, rfl⟩) hs
  refine ⟨s, hs, ?_⟩
  cases hsub : s.subscribers 5 with
  | none => simp [sampleReplayed, hsub] at hdelivered
  | some subscription =>
      cases subscription with
      | attached cursor => simp [sampleReplayed, hsub] at hdelivered
      | subscribed x =>
          obtain ⟨hlagged, hreceived⟩ : x.lagged = false ∧
              x.delivered.map (·.generation) = [2, 3] := by
            simpa [sampleReplayed, hsub] using hdelivered
          obtain ⟨-, -, hdelivery⟩ := hub_delivers hreachable
          exact ⟨x, rfl, hreceived, (hdelivery 5 x hsub hlagged).2.2⟩

end Sample

end Sessiond
end SleepySession
