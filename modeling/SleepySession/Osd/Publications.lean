import SleepySession.Lib.Cut
import SleepySession.Lib.Reader
import SleepySession.Lib.Run

/-!
# Delivery of on-screen publications

The hub keeps the latest publication and sends each accepted one on a bounded
broadcast channel, with the write lock held.  A subscriber attaches to the
channel first and reads the latest publication afterwards; what the channel
repeats of it is filtered by its sequence number alone.  The content of a
publication is a parameter.
-/

namespace SleepySession
namespace Osd

structure OsdPublication (β : Type) where
  sequence : Nat
  content : β
deriving DecidableEq, Repr

/-- A subscriber, with what its `recv` has returned so far. -/
structure OsdPublicationSubscriber (β : Type) where
  replay : Option (OsdPublication β)
  lastSequence : Nat
  /-- The position of the receiver in the channel. -/
  cursor : Nat
  delivered : List (OsdPublication β)
  lagged : Bool
  /-- The replay and the number of publications accepted when it was read. -/
  replayed : Option (OsdPublication β)
  joined : Nat

/-- The two stages of `OsdPublicationHub::subscribe`. -/
inductive OsdSubscription (β : Type) where
  | attached (cursor : Nat)
  | subscribed (subscriber : OsdPublicationSubscriber β)

/-- The hub and everybody who uses it. -/
structure PublicationRun (β χ : Type) where
  latest : Option (OsdPublication β)
  /-- Everything sent on the channel, oldest first. -/
  channel : List (OsdPublication β)
  /-- The publication between its two effects, while its publisher has the write lock. -/
  publishing : Option (OsdPublication β)
  subscribers : χ → Option (OsdSubscription β)
  /-- The accepted publications, oldest first. -/
  accepted : List (OsdPublication β)

inductive PublicationEvent (β χ : Type) where
  | publish (publication : OsdPublication β)
  | send
  | attach (c : χ)
  | readLatest (c : χ)
  | recv (c : χ)

section Steps

variable {β χ : Type} [DecidableEq χ]

/-- `publish` refuses what does not follow the latest publication. -/
def refused (latest : Option (OsdPublication β)) (publication : OsdPublication β) : Bool :=
  latest.any fun current => decide (publication.sequence ≤ current.sequence)

/-- One round of `OsdPublicationSubscriber::recv` against a channel of `slots` places. -/
def OsdPublicationSubscriber.recv
    (slots : Nat) (channel : List (OsdPublication β)) (x : OsdPublicationSubscriber β) :
    Option (OsdPublicationSubscriber β) :=
  match x.replay with
  | some replay =>
      some { x with
        replay := none
        lastSequence := replay.sequence
        delivered := x.delivered ++ [replay] }
  | none =>
      if x.cursor + slots < channel.length then
        some { x with cursor := channel.length - slots, lagged := true }
      else
        match channel[x.cursor]? with
        | none => none
        | some publication =>
            if x.lastSequence < publication.sequence then
              some { x with
                cursor := x.cursor + 1
                lastSequence := publication.sequence
                delivered := x.delivered ++ [publication] }
            else some { x with cursor := x.cursor + 1 }

/-- The subscriber right after `subscribe` has returned. -/
def newPublicationSubscriber
    (cursor : Nat) (replay : Option (OsdPublication β)) (joined : Nat) :
    OsdPublicationSubscriber β where
  replay := replay
  lastSequence := 0
  cursor := cursor
  delivered := []
  lagged := false
  replayed := replay
  joined := joined

/-- One atomic step of a publisher or a subscriber. -/
def PublicationRun.after (slots : Nat) (s : PublicationRun β χ) :
    PublicationEvent β χ → Option (PublicationRun β χ)
  | .publish publication =>
      if s.publishing.isSome then none
      else if refused s.latest publication then some s
      else
        some { s with
          latest := some publication
          publishing := some publication
          accepted := s.accepted ++ [publication] }
  | .send =>
      s.publishing.map fun publication =>
        { s with channel := s.channel ++ [publication], publishing := none }
  | .attach c =>
      if (s.subscribers c).isNone then
        some { s with
          subscribers := Function.update s.subscribers c (some (.attached s.channel.length)) }
      else none
  | .readLatest c =>
      -- the read lock is not granted while a publisher has the write lock
      match s.subscribers c, s.publishing with
      | some (.attached cursor), none =>
          some { s with
            subscribers := Function.update s.subscribers c
              (some (.subscribed
                (newPublicationSubscriber cursor s.latest s.accepted.length))) }
      | _, _ => none
  | .recv c =>
      match s.subscribers c with
      | some (.subscribed x) =>
          (x.recv slots s.channel).map fun x =>
            { s with subscribers := Function.update s.subscribers c (some (.subscribed x)) }
      | _ => none

/-- `OsdPublicationHub::new`. -/
def PublicationRun.new : PublicationRun β χ where
  latest := none
  channel := []
  publishing := none
  subscribers := fun _ => none
  accepted := []

/-- Sequence numbers of published publications are positive. -/
def PublicationEvent.Positive : PublicationEvent β χ → Prop
  | .publish publication => 0 < publication.sequence
  | _ => True

/-- All interleavings of publishers and subscribers of one hub. -/
def publicationSystem (slots : Nat) : System (PublicationRun β χ) (PublicationEvent β χ) :=
  (System.ofStep (fun s => s = PublicationRun.new) (PublicationRun.after slots)).restrict
    fun _ e => e.Positive

end Steps

section Delivery

variable {β χ : Type} [DecidableEq χ] {slots : Nat}

/-- How a subscriber stands to the accepted publications and to the channel. -/
structure OsdPublicationSubscriber.Follows
    (accepted channel : List (OsdPublication β)) (x : OsdPublicationSubscriber β) : Prop where
  joined_le : x.joined ≤ accepted.length
  cursor_le : x.cursor ≤ channel.length
  replayed : x.replayed = (accepted.take x.joined).getLast?
  waiting : ∀ replay, x.replay = some replay →
    x.replayed = some replay ∧ x.delivered = [] ∧ x.cursor ≤ x.joined
  delivered : x.replay = none →
    x.delivered = x.replayed.toList ++ (accepted.take x.cursor).drop x.joined
  below : x.replay = none →
    ∀ e ∈ accepted.take (max x.cursor x.joined), e.sequence ≤ x.lastSequence
  above : x.replay = none →
    ∀ e ∈ accepted.drop (max x.cursor x.joined), x.lastSequence < e.sequence
  seen : x.lastSequence = 0 ∨ ∃ e ∈ accepted, e.sequence = x.lastSequence

/-- What holds of the hub and its subscribers at any time. -/
structure PublicationRun.Invariant (s : PublicationRun β χ) : Prop where
  latest : s.latest = s.accepted.getLast?
  ordered : s.accepted.Pairwise fun a b => a.sequence < b.sequence
  positive : ∀ e ∈ s.accepted, 0 < e.sequence
  channel : s.accepted = s.channel ++ s.publishing.toList
  attached : ∀ c cursor, s.subscribers c = some (.attached cursor) →
    cursor ≤ s.channel.length
  follows : ∀ c x, s.subscribers c = some (.subscribed x) → x.lagged = false →
    x.Follows s.accepted s.channel

/-- In an ordered list the last element has the greatest sequence number. -/
theorem le_last_of_ordered {l : List (OsdPublication β)} {last : OsdPublication β}
    (hordered : l.Pairwise fun a b => a.sequence < b.sequence) (hlast : l.getLast? = some last) :
    ∀ e ∈ l, e.sequence ≤ last.sequence := by
  obtain ⟨front, rfl⟩ := List.getLast?_eq_some_iff.mp hlast
  intro e he
  rcases List.mem_append.mp he with he | he
  · exact ((List.pairwise_append.mp hordered).2.2 e he last (by simp)).le
  · rw [List.mem_singleton.mp he]

/-- After the replay. -/
theorem OsdPublicationSubscriber.Follows.cut
    {accepted channel : List (OsdPublication β)} {x : OsdPublicationSubscriber β}
    (hx : x.Follows accepted channel) (hnone : x.replay = none) :
    CutAt OsdPublication.sequence accepted (max x.cursor x.joined) x.lastSequence :=
  ⟨hx.below hnone, hx.above hnone⟩

theorem OsdPublicationSubscriber.Follows.accept
    {accepted channel : List (OsdPublication β)} {x : OsdPublicationSubscriber β}
    (hx : x.Follows accepted channel) (hlength : channel.length ≤ accepted.length)
    {publication : OsdPublication β}
    (hlast : ∀ e ∈ accepted, e.sequence < publication.sequence)
    (hpositive : 0 < publication.sequence) :
    x.Follows (accepted ++ [publication]) channel := by
  have hmax : max x.cursor x.joined ≤ accepted.length :=
    max_le (hx.cursor_le.trans hlength) hx.joined_le
  have hnew : x.lastSequence < publication.sequence := by
    rcases hx.seen with hzero | ⟨e, he, heq⟩
    · omega
    · exact heq ▸ hlast e he
  refine ⟨?_, hx.cursor_le, ?_, hx.waiting, fun hnone => ?_,
    fun hnone => ((hx.cut hnone).append hmax hnew).below,
    fun hnone => ((hx.cut hnone).append hmax hnew).above, ?_⟩
  · have := hx.joined_le
    simp
    omega
  · rw [List.take_append_of_le_length hx.joined_le]
    exact hx.replayed
  · rw [List.take_append_of_le_length (hx.cursor_le.trans hlength)]
    exact hx.delivered hnone
  · rcases hx.seen with hzero | ⟨e, he, heq⟩
    · exact Or.inl hzero
    · exact Or.inr ⟨e, List.mem_append_left _ he, heq⟩

theorem OsdPublicationSubscriber.Follows.send
    {accepted channel : List (OsdPublication β)} {x : OsdPublicationSubscriber β}
    (hx : x.Follows accepted channel) (publication : OsdPublication β) :
    x.Follows accepted (channel ++ [publication]) :=
  { hx with cursor_le := hx.cursor_le.trans (by simp) }

/-- A subscriber that has just read the latest publication. -/
theorem follows_newPublicationSubscriber
    {accepted channel : List (OsdPublication β)} {cursor : Nat}
    (hpositive : ∀ e ∈ accepted, 0 < e.sequence)
    (hcursor : cursor ≤ channel.length) (hlength : channel.length ≤ accepted.length) :
    (newPublicationSubscriber cursor accepted.getLast? accepted.length).Follows
      accepted channel where
  joined_le := le_refl _
  cursor_le := hcursor
  replayed := by simp [newPublicationSubscriber]
  waiting replay hreplay := ⟨hreplay, rfl, hcursor.trans hlength⟩
  delivered hnone := by
    have hempty : accepted = [] := by simpa [newPublicationSubscriber] using hnone
    simp [newPublicationSubscriber, hempty]
  below hnone e he := by
    have hempty : accepted = [] := by simpa [newPublicationSubscriber] using hnone
    simp [hempty] at he
  above hnone e he := hpositive e (List.mem_of_mem_drop he)
  seen := Or.inl rfl

/-- One round of `recv` takes the replay or the next publication, or skips a repeated one. -/
theorem OsdPublicationSubscriber.Follows.recv
    {accepted channel rest : List (OsdPublication β)} {x x' : OsdPublicationSubscriber β}
    (hx : x.Follows accepted channel)
    (hordered : accepted.Pairwise fun a b => a.sequence < b.sequence)
    (hchannel : accepted = channel ++ rest)
    (hrecv : x.recv slots channel = some x') (hlagged : x'.lagged = false) :
    x'.Follows accepted channel := by
  unfold OsdPublicationSubscriber.recv at hrecv
  split at hrecv
  · rename_i replay hreplay
    obtain ⟨hreplayed, hdelivered, hcursor⟩ := hx.waiting replay hreplay
    cases hrecv
    have hlast : (accepted.take x.joined).getLast? = some replay := by
      rw [← hx.replayed, hreplayed]
    have hmem : replay ∈ accepted :=
      List.mem_of_mem_take (List.mem_of_getLast? hlast)
    have hmax : max x.cursor x.joined = x.joined := max_eq_right hcursor
    have htake : (accepted.take x.joined).Pairwise fun a b => a.sequence < b.sequence :=
      hordered.sublist (List.take_sublist _ _)
    have hparts := hordered
    rw [← List.take_append_drop x.joined accepted, List.pairwise_append] at hparts
    refine ⟨hx.joined_le, hx.cursor_le, hx.replayed, (fun r hr => by cases hr), fun _ => ?_,
      fun _ => ?_, fun _ => ?_, Or.inr ⟨replay, hmem, rfl⟩⟩
    · simp [hdelivered, hreplayed, CutAt.window_before hcursor]
    · rw [hmax]
      exact le_last_of_ordered htake hlast
    · rw [hmax]
      exact fun e he => hparts.2.2 replay (List.mem_of_getLast? hlast) e he
  · rename_i hreplay
    split at hrecv
    · cases hrecv
      simp at hlagged
    · split at hrecv
      · cases hrecv
      · rename_i publication hpublication
        obtain ⟨hlt, -⟩ := List.getElem?_eq_some_iff.mp hpublication
        have hnext : accepted[x.cursor]? = some publication := by
          rw [hchannel, List.getElem?_append_left hlt]
          exact hpublication
        have hdelivered := hx.delivered hreplay
        split at hrecv
        · rename_i hnew
          cases hrecv
          -- the publication lies beyond everything the subscriber has seen
          obtain ⟨hjoined, hcut⟩ := (hx.cut hreplay).new hordered hnext hnew
          refine ⟨hx.joined_le, hlt, hx.replayed, (fun r hr => ?_), fun _ => ?_,
            fun _ => hcut.below, fun _ => hcut.above,
            Or.inr ⟨publication, List.mem_of_getElem? hnext, rfl⟩⟩
          · simp [hreplay] at hr
          · simp only [hdelivered, CutAt.window_succ hnext hjoined, List.append_assoc]
        · rename_i hold
          cases hrecv
          -- the replay or an earlier publication covers it
          obtain ⟨hjoined, hcut⟩ := (hx.cut hreplay).old hnext hold
          refine ⟨hx.joined_le, hlt, hx.replayed, (fun r hr => ?_), fun _ => ?_,
            fun _ => hcut.below, fun _ => hcut.above, hx.seen⟩
          · simp [hreplay] at hr
          · simp only [hdelivered, CutAt.window_before hjoined.le, CutAt.window_before hjoined]

theorem OsdPublicationSubscriber.recv_lagged
    {channel : List (OsdPublication β)} {x x' : OsdPublicationSubscriber β}
    (h : x.recv slots channel = some x') (hlagged : x'.lagged = false) : x.lagged = false := by
  unfold OsdPublicationSubscriber.recv at h
  split at h
  · cases h
    exact hlagged
  · split at h
    · cases h
      simp at hlagged
    · split at h
      · cases h
      · split at h <;> · cases h; exact hlagged

variable {s s' : PublicationRun β χ}

omit [DecidableEq χ] in
theorem PublicationRun.Invariant.length_le (hs : s.Invariant) :
    s.channel.length ≤ s.accepted.length := by
  simp [hs.channel]

/-- One subscription changes and the hub stays. -/
theorem PublicationRun.Invariant.withSubscriber
    (hs : s.Invariant) (c : χ) (subscription : OsdSubscription β)
    (hattached : ∀ cursor, subscription = .attached cursor → cursor ≤ s.channel.length)
    (hfollows : ∀ x, subscription = .subscribed x → x.lagged = false →
      x.Follows s.accepted s.channel) :
    ({ s with subscribers := Function.update s.subscribers c (some subscription) } :
      PublicationRun β χ).Invariant := by
  refine { hs with attached := fun c' cursor h => ?_, follows := fun c' x h hlagged => ?_ }
  · by_cases hc : c' = c
    · subst hc
      exact hattached cursor (by simpa using h)
    · exact hs.attached c' cursor (by simpa [hc] using h)
  · by_cases hc : c' = c
    · subst hc
      exact hfollows x (by simpa using h) hlagged
    · exact hs.follows c' x (by simpa [hc] using h) hlagged

omit [DecidableEq χ] in
/-- What follows the latest publication follows all accepted ones. -/
theorem PublicationRun.Invariant.after_all
    (hs : s.Invariant) {publication : OsdPublication β}
    (hfollows : refused s.latest publication = false) :
    ∀ e ∈ s.accepted, e.sequence < publication.sequence := by
  intro e he
  cases hlast : s.accepted.getLast? with
  | none =>
      rw [List.getLast?_eq_none_iff.mp hlast] at he
      cases he
  | some last =>
      have hle := le_last_of_ordered hs.ordered hlast e he
      have hlt : last.sequence < publication.sequence := by
        simpa [refused, hs.latest, hlast] using hfollows
      omega

theorem PublicationRun.Invariant.after
    {e : PublicationEvent β χ} (hs : s.Invariant) (he : e.Positive)
    (h : s.after slots e = some s') : s'.Invariant := by
  cases e with
  | publish publication =>
      simp only [PublicationRun.after] at h
      split at h
      · cases h
      · rename_i hfree
        split at h
        · cases h
          exact hs
        · rename_i haccepted
          cases h
          have hnone : s.publishing = none := by simpa using hfree
          have hall := hs.after_all (by simpa using haccepted)
          have hchannel := hs.channel
          rw [hnone, Option.toList_none, List.append_nil] at hchannel
          refine ⟨by simp, ?_, fun e he' => ?_, by simp [hchannel], hs.attached,
            fun c x hx hlagged => (hs.follows c x hx hlagged).accept hs.length_le hall he⟩
          · refine List.pairwise_append.mpr ⟨hs.ordered, List.pairwise_singleton _ _, ?_⟩
            intro a ha b hb
            rw [List.mem_singleton.mp hb]
            exact hall a ha
          · rcases List.mem_append.mp he' with he' | he'
            · exact hs.positive e he'
            · exact (List.mem_singleton.mp he') ▸ he
  | send =>
      obtain ⟨publication, hpublishing, rfl⟩ := Option.map_eq_some_iff.mp h
      refine ⟨hs.latest, hs.ordered, hs.positive, ?_, fun c cursor hc => ?_,
        fun c x hx hlagged => (hs.follows c x hx hlagged).send publication⟩
      · have hchannel := hs.channel
        rw [hpublishing] at hchannel
        simpa using hchannel
      · have := hs.attached c cursor hc
        simp
        omega
  | attach c =>
      obtain ⟨-, rfl⟩ : s.subscribers c = none ∧ _ = s' := by
        simpa [PublicationRun.after] using h
      refine hs.withSubscriber c _ (fun cursor hc => ?_) (fun x hx => by cases hx)
      cases hc
      exact le_refl _
  | readLatest c =>
      simp only [PublicationRun.after] at h
      split at h
      · rename_i cursor hattached _
        cases h
        refine hs.withSubscriber c _ (fun _ hc => by cases hc) (fun x hx _ => ?_)
        cases hx
        rw [hs.latest]
        exact follows_newPublicationSubscriber hs.positive (hs.attached c cursor hattached)
          hs.length_le
      · cases h
  | recv c =>
      simp only [PublicationRun.after] at h
      split at h
      · rename_i x hsubscribed
        obtain ⟨x', hrecv, rfl⟩ := Option.map_eq_some_iff.mp h
        refine hs.withSubscriber c _ (fun _ hc => by cases hc) (fun y hy hlagged => ?_)
        cases hy
        exact (hs.follows c x hsubscribed
          (OsdPublicationSubscriber.recv_lagged hrecv hlagged)).recv hs.ordered hs.channel hrecv
          hlagged
      · cases h

theorem PublicationRun.invariant_of_reachable
    (h : (publicationSystem slots).Reachable s) : s.Invariant := by
  refine h.invariant (fun s hs => ?_) (fun s e s' hs hstep => hs.after hstep.1 hstep.2)
  rw [show s = PublicationRun.new from hs]
  refine ⟨rfl, List.Pairwise.nil, (fun e he => by cases he), rfl, (fun c cursor hc => ?_),
    fun c x hx => ?_⟩
  · simp [PublicationRun.new] at hc
  · simp [PublicationRun.new] at hx

/-- The last sequence number that a subscriber has, or has as its replay. -/
def OsdPublicationSubscriber.known (x : OsdPublicationSubscriber β) : Nat :=
  match x.replay with
  | some replay => replay.sequence
  | none => x.lastSequence

/-- The publications still on their way to a subscriber. -/
def PublicationRun.waiting (s : PublicationRun β χ) (x : OsdPublicationSubscriber β) :
    List (OsdPublication β) :=
  (s.channel.drop x.cursor ++ s.publishing.toList).filter
    fun publication => decide (x.known < publication.sequence)

/-- What the subscriber knows cuts the accepted publications where its reading stands. -/
theorem OsdPublicationSubscriber.Follows.known
    {accepted channel : List (OsdPublication β)} {x : OsdPublicationSubscriber β}
    (hx : x.Follows accepted channel)
    (hordered : accepted.Pairwise fun a b => a.sequence < b.sequence) :
    (∀ e ∈ accepted.take (max x.cursor x.joined), e.sequence ≤ x.known) ∧
      ∀ e ∈ accepted.drop (max x.cursor x.joined), x.known < e.sequence := by
  unfold OsdPublicationSubscriber.known
  cases hreplay : x.replay with
  | none => exact ⟨hx.below hreplay, hx.above hreplay⟩
  | some replay =>
      obtain ⟨hreplayed, -, hcursor⟩ := hx.waiting replay hreplay
      have hlast : (accepted.take x.joined).getLast? = some replay := by
        rw [← hx.replayed, hreplayed]
      have htake : (accepted.take x.joined).Pairwise fun a b => a.sequence < b.sequence :=
        hordered.sublist (List.take_sublist _ _)
      have hparts := hordered
      rw [← List.take_append_drop x.joined accepted, List.pairwise_append] at hparts
      rw [max_eq_right hcursor]
      exact ⟨le_last_of_ordered htake hlast,
        fun e he => hparts.2.2 replay (List.mem_of_getLast? hlast) e he⟩

omit [DecidableEq χ] in
theorem PublicationRun.Invariant.waiting_eq
    (hs : s.Invariant) {x : OsdPublicationSubscriber β} (hx : x.Follows s.accepted s.channel) :
    s.waiting x = s.accepted.drop (max x.cursor x.joined) := by
  obtain ⟨hbelow, habove⟩ := hx.known hs.ordered
  have hdrop : s.channel.drop x.cursor ++ s.publishing.toList = s.accepted.drop x.cursor := by
    rw [hs.channel, List.drop_append_of_le_length hx.cursor_le]
  have hcut : CutAt OsdPublication.sequence s.accepted (max x.cursor x.joined) x.known :=
    ⟨hbelow, habove⟩
  rw [PublicationRun.waiting, hdrop]
  exact hcut.filter_drop (hx.cursor_le.trans hs.length_le)

/-- The replay that a subscriber still holds, and what was sent that it has not seen. -/
def PublicationRun.queued (s : PublicationRun β χ) (c : χ) : List (OsdPublication β) :=
  match s.subscribers c with
  | some (.subscribed x) =>
      x.replay.toList ++
        (s.channel.drop x.cursor).filter fun publication => decide (x.known < publication.sequence)
  | _ => []

def PublicationRun.delivered (s : PublicationRun β χ) (c : χ) : List (OsdPublication β) :=
  match s.subscribers c with
  | some (.subscribed x) => x.delivered
  | _ => []

/-- More was sent since the last publication that the subscriber took than the channel holds. -/
def PublicationRun.Overrun (slots : Nat) (s : PublicationRun β χ)
    (x : OsdPublicationSubscriber β) : Prop :=
  x.replay = none ∧ x.cursor + slots < s.channel.length

/-- The calls of `recv` of one subscriber, between which nobody else takes a step. -/
def publicationReader (slots : Nat) (c : χ) : Reader (PublicationRun β χ) (OsdPublication β) where
  round s := s.after slots (.recv c)
  queue s := s.queued c
  returned s := s.delivered c

omit [DecidableEq χ] in
theorem PublicationRun.Invariant.sent_ordered (hs : s.Invariant) :
    s.channel.Pairwise fun a b => a.sequence < b.sequence :=
  hs.ordered.sublist (hs.channel ▸ List.sublist_append_left _ _)

/-- As long as a subscriber is not overrun, each round returns a publication or passes over one. -/
theorem publicationReader_advances (slots : Nat) (c : χ) :
    (publicationReader slots c).Advances
      (fun s : PublicationRun β χ => s.channel.Pairwise (fun a b => a.sequence < b.sequence) ∧
        ∃ x, s.subscribers c = some (.subscribed x) ∧ ¬ s.Overrun slots x)
      (fun s => match s.subscribers c with
        | some (.subscribed x) => s.channel.length - x.cursor
        | _ => 0) := by
  rintro s e rest ⟨hordered, x, hsubscribed, hoverrun⟩ hqueue
  simp only [publicationReader, PublicationRun.queued, PublicationRun.delivered, hsubscribed,
    PublicationRun.after] at hqueue ⊢
  cases hreplay : x.replay with
  | some replay =>
      rw [OsdPublicationSubscriber.known, hreplay] at hqueue
      obtain ⟨rfl, hrest⟩ := List.cons.inj hqueue
      have hrecv : x.recv slots s.channel =
          some { x with
            replay := none
            lastSequence := replay.sequence
            delivered := x.delivered ++ [replay] } := by
        simp [OsdPublicationSubscriber.recv, hreplay]
      refine ⟨_, congrArg (Option.map _) hrecv, Or.inl ⟨?_, by simp⟩⟩
      simp only [Function.update_self, OsdPublicationSubscriber.known]
      exact hrest
  | none =>
      have hfit : ¬ x.cursor + slots < s.channel.length := fun h => hoverrun ⟨hreplay, h⟩
      have hknown : x.known = x.lastSequence := by simp [OsdPublicationSubscriber.known, hreplay]
      rw [hknown, hreplay, Option.toList_none, List.nil_append] at hqueue
      cases hnext : s.channel[x.cursor]? with
      | none =>
          rw [List.drop_eq_nil_of_le (List.getElem?_eq_none_iff.mp hnext)] at hqueue
          cases hqueue
      | some publication =>
          have hlt := (List.getElem?_eq_some_iff.mp hnext).1
          by_cases hnew : x.lastSequence < publication.sequence
          · rw [CutAt.filter_drop_new hordered hnext hnew] at hqueue
            obtain ⟨rfl, hrest⟩ := List.cons.inj hqueue
            have hrecv : x.recv slots s.channel =
                some { x with
                  cursor := x.cursor + 1
                  lastSequence := publication.sequence
                  delivered := x.delivered ++ [publication] } := by
              simp [OsdPublicationSubscriber.recv, hreplay, hfit, hnext, hnew]
            refine ⟨_, congrArg (Option.map _) hrecv, Or.inl ⟨?_, by simp⟩⟩
            simp only [Function.update_self, OsdPublicationSubscriber.known, hreplay]
            exact hrest
          · rw [@CutAt.filter_drop_old _ OsdPublication.sequence _ _ _ _ hnext hnew] at hqueue
            have hrecv : x.recv slots s.channel = some { x with cursor := x.cursor + 1 } := by
              simp [OsdPublicationSubscriber.recv, hreplay, hfit, hnext, hnew]
            refine ⟨_, congrArg (Option.map _) hrecv,
              Or.inr ⟨⟨hordered, _, Function.update_self _ _ _, fun h => hfit ?_⟩, ?_⟩⟩
            · have := h.2
              simp only at this
              omega
            · simp only [Function.update_self, OsdPublicationSubscriber.known, hreplay]
              exact ⟨hqueue, trivial, by omega⟩

/-- What the holder of a subscriber gets from `recv`. -/
structure PublicationRun.Served (slots : Nat) (s : PublicationRun β χ) (c : χ)
    (x : OsdPublicationSubscriber β) : Prop where
  /-- The next publication, as long as something is queued. -/
  returns : ∀ e rest, s.queued c = e :: rest → ¬ s.Overrun slots x →
    ∃ s', (publicationReader slots c).Returns s e s'
  /-- Lag is reported exactly when the subscriber is overrun. -/
  lags : (∃ s' x', s.after slots (.recv c) = some s' ∧
    s'.subscribers c = some (.subscribed x') ∧ x'.lagged = true) ↔ s.Overrun slots x
  /-- It waits only when nothing is left. -/
  waits : s.after slots (.recv c) = none ↔ x.replay = none ∧ s.channel.length ≤ x.cursor

theorem PublicationRun.Invariant.served {c : χ} {x : OsdPublicationSubscriber β}
    (hs : s.Invariant) (hsubscribed : s.subscribers c = some (.subscribed x))
    (hlagged : x.lagged = false) : s.Served slots c x := by
  refine ⟨fun e rest hqueue hoverrun => ?_, ?_, ?_⟩
  · obtain ⟨s', hreturns, -⟩ := (publicationReader_advances slots c).returns
      ⟨hs.sent_ordered, x, hsubscribed, hoverrun⟩ hqueue
    exact ⟨s', hreturns⟩
  all_goals
    simp only [PublicationRun.after, hsubscribed, PublicationRun.Overrun]
    unfold OsdPublicationSubscriber.recv
    cases hreplay : x.replay with
    | some replay => simp [hlagged]
    | none =>
        by_cases hover : x.cursor + slots < s.channel.length
        · simp [hover]
          try omega
        · cases hnext : s.channel[x.cursor]? with
          | none =>
              have hend := List.getElem?_eq_none_iff.mp hnext
              simp [hover, hend]
          | some publication =>
              have hlt := (List.getElem?_eq_some_iff.mp hnext).1
              by_cases hnew : x.lastSequence < publication.sequence
              · simp [hover, hnew, hlagged, hlt]
              · simp [hover, hnew, hlagged, hlt]

/--
The latest publication is the last accepted one, and accepted sequence numbers
increase.  A subscriber that has not lagged holds its replay or has received it
first, if there was one; from there on the publications accepted after the
replay was read are exactly those received followed by those on their way, and
`recv` returns them one after the other.  A rejected publication changes
nothing.
-/
theorem publications_delivered (h : (publicationSystem slots).Reachable s) :
    s.latest = s.accepted.getLast? ∧
    s.accepted.Pairwise (fun a b => a.sequence < b.sequence) ∧
    (∀ c x, s.subscribers c = some (.subscribed x) → x.lagged = false →
      x.replayed = (s.accepted.take x.joined).getLast? ∧
      (∃ received,
        s.accepted.drop x.joined = received ++ s.waiting x ∧
        ((∃ replay, x.replay = some replay ∧ x.replayed = some replay ∧ x.delivered = [] ∧
            received = []) ∨
          x.replay = none ∧ x.delivered = x.replayed.toList ++ received)) ∧
      x.delivered.Pairwise (fun a b => a.sequence < b.sequence) ∧ s.Served slots c x) ∧
    ∀ publication s', refused s.latest publication = true →
      s.after slots (.publish publication) = some s' → s' = s := by
  have hs := PublicationRun.invariant_of_reachable h
  refine ⟨hs.latest, hs.ordered, fun c x hsub hlagged => ?_, fun publication s' hrefused hafter => ?_⟩
  · have hx := hs.follows c x hsub hlagged
    have hwaiting := hs.waiting_eq hx
    have hsplit : s.accepted.drop x.joined =
        (s.accepted.take x.cursor).drop x.joined ++ s.waiting x := by
      rw [hwaiting]
      exact CutAt.drop_joined (hx.cursor_le.trans hs.length_le)
    refine ⟨hx.replayed, ⟨_, hsplit, ?_⟩, ?_, hs.served hsub hlagged⟩
    · cases hreplay : x.replay with
      | none => exact Or.inr ⟨rfl, hx.delivered hreplay⟩
      | some replay =>
          obtain ⟨hreplayed, hdelivered, hcursor⟩ := hx.waiting replay hreplay
          exact Or.inl ⟨replay, rfl, hreplayed, hdelivered, CutAt.window_before hcursor⟩
    · cases hreplay : x.replay with
      | some replay =>
          rw [(hx.waiting replay hreplay).2.1]
          exact List.Pairwise.nil
      | none =>
          rw [hx.delivered hreplay, hx.replayed]
          refine hs.ordered.sublist ?_
          have hlast : (s.accepted.take x.joined).getLast?.toList.Sublist
              (s.accepted.take x.joined) := by
            cases hl : (s.accepted.take x.joined).getLast? with
            | none => exact List.nil_sublist _
            | some last => exact List.singleton_sublist.mpr (List.mem_of_getLast? hl)
          have hrest : ((s.accepted.take x.cursor).drop x.joined).Sublist
              (s.accepted.drop x.joined) := (List.take_sublist _ _).drop _
          have hboth := hlast.append hrest
          rwa [List.take_append_drop] at hboth
  · simp only [PublicationRun.after] at hafter
    split at hafter
    · cases hafter
    · simpa [hrefused] using hafter.symm

end Delivery

section Sample

/-- Publications around a subscription, and one that comes out of order. -/
def samplePublications : List (PublicationEvent Nat Nat) :=
  [.publish ⟨2, 20⟩, .send, .publish ⟨5, 50⟩, .attach 1, .send, .readLatest 1, .recv 1,
    .publish ⟨4, 40⟩, .publish ⟨7, 70⟩, .send, .recv 1, .recv 1]

/-- What subscriber 1 of the sample run has received. -/
def sampleReceived (s : PublicationRun Nat Nat) : Bool :=
  match s.subscribers 1 with
  | some (.subscribed x) => x.lagged = false ∧ x.delivered = [⟨5, 50⟩, ⟨7, 70⟩]
  | _ => false

/-- The replay comes first, its repetition is dropped and the next publication follows. -/
theorem publications_delivered_sample :
    ∃ s : PublicationRun Nat Nat,
      System.replay (PublicationRun.after 4) .new samplePublications = some s ∧
        ∃ x, s.subscribers 1 = some (.subscribed x) ∧
          x.delivered = [⟨5, 50⟩, ⟨7, 70⟩] ∧ s.Served 4 1 x := by
  have hrun : ((System.replay (PublicationRun.after 4) .new samplePublications).any
      sampleReceived) = true := by
    decide
  obtain ⟨s, hs, hdelivered⟩ := (Option.any_eq_true _ _).mp hrun
  have hmeet : System.AllMeet (PublicationRun.after 4) (fun _ e => e.Positive) .new
      samplePublications := by
    simp [samplePublications, System.AllMeet, PublicationEvent.Positive]
  have hreachable : (publicationSystem 4).Reachable s :=
    System.reachable_restrict_replay (.initial rfl) hmeet hs
  refine ⟨s, hs, ?_⟩
  cases hsub : s.subscribers 1 with
  | none => simp [sampleReceived, hsub] at hdelivered
  | some subscription =>
      cases subscription with
      | attached cursor => simp [sampleReceived, hsub] at hdelivered
      | subscribed x =>
          obtain ⟨hlagged, hreceived⟩ : x.lagged = false ∧
              x.delivered = [⟨5, 50⟩, ⟨7, 70⟩] := by
            simpa [sampleReceived, hsub] using hdelivered
          obtain ⟨-, -, hdelivery, -⟩ := publications_delivered hreachable
          exact ⟨x, rfl, hreceived, (hdelivery 1 x hsub hlagged).2.2.2⟩

end Sample

end Osd
end SleepySession
