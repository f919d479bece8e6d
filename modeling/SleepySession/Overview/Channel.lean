import SleepySession.Store.IoError

/-!
# The overview event channel

A bounded queue of compositor events with one consumer.  A full queue drops its
oldest event and remembers how far events were dropped; the consumer keeps the
sequence number it has read to and is told once when events it had not read are
gone.
-/

namespace SleepySession
namespace Overview

inductive OverviewEvent where
  | focusChanged (outputId : String) (windowId : Option Nat) (workspaceId sequence : Nat)
  | windowClosed (windowId sequence : Nat)
  | offline (sequence : Nat)
deriving DecidableEq, Repr

def OverviewEvent.sequence : OverviewEvent → Nat
  | .focusChanged _ _ _ sequence => sequence
  | .windowClosed _ sequence => sequence
  | .offline sequence => sequence

structure ObservedOverviewEvent where
  event : OverviewEvent
  observedAt : Nat
deriving DecidableEq, Repr

def ObservedOverviewEvent.sequence (observed : ObservedOverviewEvent) : Nat :=
  observed.event.sequence

structure OverviewChannelState where
  /-- Oldest first. -/
  events : List ObservedOverviewEvent
  capacity : Nat
  latestSequence : Nat
  droppedThrough : Nat
deriving DecidableEq, Repr

/-- `overview_event_channel`; the consumer's cursor starts at zero. -/
def overviewEventChannel (capacity : Nat) : OverviewChannelState where
  events := []
  capacity := max capacity 1
  latestSequence := 0
  droppedThrough := 0

/-- `OverviewEventSender::publish` once it has the lock. -/
def OverviewChannelState.publish
    (state : OverviewChannelState) (observed : ObservedOverviewEvent) : OverviewChannelState :=
  if observed.sequence ≤ state.latestSequence then state
  else
    let room :=
      if state.events.length = state.capacity then
        match state.events with
        | dropped :: events => { state with events := events, droppedThrough := dropped.sequence }
        | [] => state
      else state
    { room with
      latestSequence := observed.sequence
      events := room.events ++ [observed] }

def laggedError : IoError :=
  ⟨.invalidData, "Niri overview event subscription lagged"⟩

/-- `next_channel_event`, with the cursor it leaves. -/
def nextChannelEvent (state : OverviewChannelState) (cursor : Nat) :
    Except IoError (Option ObservedOverviewEvent) × Nat :=
  if cursor < state.droppedThrough then (.error laggedError, state.droppedThrough)
  else
    match state.events.find? fun event => decide (cursor < event.sequence) with
    | some event => (.ok (some event), event.sequence)
    | none => (.ok none, cursor)

/-- The condition under which `next_event` keeps waiting. -/
def waits (state : OverviewChannelState) (cursor : Nat) : Bool :=
  decide (state.latestSequence ≤ cursor) && decide (state.droppedThrough ≤ cursor)

/-- `ChannelOverviewEvents::next_event` when its wait ends; a wait ends early by an event only. -/
def nextEvent (state : OverviewChannelState) (cursor : Nat) (timedOut : Bool) :
    Option (Except IoError (Option ObservedOverviewEvent) × Nat) :=
  if waits state cursor && !timedOut then none else some (nextChannelEvent state cursor)

def tryEvent (state : OverviewChannelState) (cursor : Nat) :
    Except IoError (Option ObservedOverviewEvent) × Nat :=
  nextChannelEvent state cursor

/-- `ChannelOverviewEvents::prepare_request`, with the cursor it leaves. -/
def prepareRequest (state : OverviewChannelState) (cursor currentSequence : Nat) :
    Except IoError (Nat × List ObservedOverviewEvent) × Nat :=
  if cursor < state.droppedThrough then (.error laggedError, state.droppedThrough)
  else
    let retained := state.events.filter fun event => decide (cursor < event.sequence)
    (.ok (max currentSequence state.latestSequence, retained), state.latestSequence)

section Between

variable {l : List ObservedOverviewEvent} {a b c : Nat}

/-- The events numbered above `a` and up to `b`. -/
def between (l : List ObservedOverviewEvent) (a b : Nat) : List ObservedOverviewEvent :=
  l.filter fun e => decide (a < e.sequence ∧ e.sequence ≤ b)

/-- Sequence numbers increase along the list. -/
def Increasing (l : List ObservedOverviewEvent) : Prop :=
  l.Pairwise fun a b => a.sequence < b.sequence

/-- The last sequence number of a list, zero when it is empty. -/
def lastSequence (l : List ObservedOverviewEvent) : Nat :=
  l.getLast?.elim 0 ObservedOverviewEvent.sequence

@[simp]
theorem lastSequence_concat (l : List ObservedOverviewEvent) (e : ObservedOverviewEvent) :
    lastSequence (l ++ [e]) = e.sequence := by
  simp [lastSequence]

theorem Increasing.le_last (h : Increasing l) : ∀ e ∈ l, e.sequence ≤ lastSequence l := by
  rcases List.eq_nil_or_concat' l with rfl | ⟨front, last, rfl⟩
  · simp
  · intro e he
    rw [lastSequence_concat]
    rcases List.mem_append.mp he with he | he
    · exact ((List.pairwise_append.mp h).2.2 e he last (by simp)).le
    · rw [List.mem_singleton.mp he]

theorem mem_between {e : ObservedOverviewEvent} :
    e ∈ between l a b ↔ e ∈ l ∧ a < e.sequence ∧ e.sequence ≤ b := by
  simp [between]

/-- Intervals that meet cut an increasing list in order. -/
theorem between_append (h : Increasing l) (hab : a ≤ b) (hbc : b ≤ c) :
    between l a b ++ between l b c = between l a c := by
  induction l with
  | nil => rfl
  | cons e rest ih =>
      obtain ⟨hhead, hrest⟩ := List.pairwise_cons.mp h
      have ih := ih hrest
      by_cases hle : e.sequence ≤ b
      · have hright : between (e :: rest) b c = between rest b c := by
          simp only [between, List.filter_cons]
          simp
          omega
        rw [hright]
        by_cases ha : a < e.sequence
        · have hleft : between (e :: rest) a b = e :: between rest a b := by
            simp [between, ha, hle]
          have hboth : between (e :: rest) a c = e :: between rest a c := by
            simp only [between, List.filter_cons]
            simp [ha]
            omega
          rw [hleft, hboth, List.cons_append, ih]
        · simpa [between, List.filter_cons, ha] using ih
      · have hleft : between (e :: rest) a b = [] := by
          refine List.filter_eq_nil_iff.mpr fun x hx => ?_
          rcases List.mem_cons.mp hx with rfl | hx
          · simp
            omega
          · have := hhead x hx
            simp
            omega
        rw [hleft, List.nil_append]
        refine List.filter_congr fun x hx => ?_
        have hx' : b < x.sequence := by
          rcases List.mem_cons.mp hx with rfl | hx
          · omega
          · have := hhead x hx
            omega
        simp only [hx', hab.trans_lt hx']

end Between

section Consistency

variable {accepted : List ObservedOverviewEvent} {state : OverviewChannelState}

/-- How the channel stands to all the events it has accepted. -/
structure Consistent (accepted : List ObservedOverviewEvent) (state : OverviewChannelState) :
    Prop where
  increasing : Increasing accepted
  positive : ∀ e ∈ accepted, 0 < e.sequence
  split : ∃ dropped, accepted = dropped ++ state.events ∧
    state.droppedThrough = lastSequence dropped
  latest : state.latestSequence = lastSequence accepted

theorem consistent_overviewEventChannel (capacity : Nat) :
    Consistent [] (overviewEventChannel capacity) where
  increasing := List.Pairwise.nil
  positive := by simp
  split := ⟨[], rfl, rfl⟩
  latest := rfl

/-- What the channel does with an event that it accepts. -/
theorem Consistent.publish
    (h : Consistent accepted state) {observed : ObservedOverviewEvent}
    (hnew : state.latestSequence < observed.sequence) :
    Consistent (accepted ++ [observed]) (state.publish observed) := by
  obtain ⟨dropped, haccepted, hdropped⟩ := h.split
  have hincreasing : Increasing (accepted ++ [observed]) := by
    refine List.pairwise_append.mpr ⟨h.increasing, List.pairwise_singleton _ _, ?_⟩
    intro a ha b hb
    rw [List.mem_singleton.mp hb]
    have := h.increasing.le_last a ha
    rw [h.latest] at hnew
    omega
  refine ⟨hincreasing, fun e he => ?_, ?_, ?_⟩
  · rcases List.mem_append.mp he with he | he
    · exact h.positive e he
    · rw [List.mem_singleton.mp he]
      omega
  · unfold OverviewChannelState.publish
    rw [if_neg (by omega)]
    by_cases hfull : state.events.length = state.capacity
    · cases hevents : state.events with
      | nil =>
          refine ⟨dropped, ?_, ?_⟩
          · simp [haccepted, hevents]
          · simpa [hevents] using hdropped
      | cons first events =>
          refine ⟨dropped ++ [first], ?_, ?_⟩
          · simp [haccepted, hevents, ← hfull]
          · simp [hevents, ← hfull]
    · exact ⟨dropped, by simp [haccepted, hfull], by simpa [hfull] using hdropped⟩
  · unfold OverviewChannelState.publish
    rw [if_neg (by omega), lastSequence_concat]

theorem OverviewChannelState.publish_stale
    {observed : ObservedOverviewEvent} (hold : observed.sequence ≤ state.latestSequence) :
    state.publish observed = state := by
  simp [OverviewChannelState.publish, hold]

theorem Consistent.le_latest (h : Consistent accepted state) :
    ∀ e ∈ accepted, e.sequence ≤ state.latestSequence := by
  rw [h.latest]
  exact h.increasing.le_last

/-- Exactly the events beyond the drop mark are retained. -/
theorem Consistent.retained (h : Consistent accepted state) {e : ObservedOverviewEvent}
    (he : e ∈ accepted) : e ∈ state.events ↔ state.droppedThrough < e.sequence := by
  obtain ⟨dropped, haccepted, hdropped⟩ := h.split
  have hincreasing := h.increasing
  rw [haccepted] at hincreasing
  obtain ⟨hleft, -, hcross⟩ := List.pairwise_append.mp hincreasing
  constructor
  · intro hretained
    rw [hdropped]
    rcases List.eq_nil_or_concat' dropped with rfl | ⟨front, last, rfl⟩
    · exact h.positive e he
    · rw [lastSequence_concat]
      exact hcross last (by simp) e hretained
  · intro hlt
    rw [haccepted] at he
    rcases List.mem_append.mp he with he | he
    · have := Increasing.le_last hleft e he
      omega
    · exact he

theorem Consistent.droppedThrough_le (h : Consistent accepted state) :
    state.droppedThrough ≤ state.latestSequence := by
  obtain ⟨dropped, haccepted, hdropped⟩ := h.split
  rcases List.eq_nil_or_concat' dropped with rfl | ⟨front, last, rfl⟩
  · simp [hdropped, lastSequence]
  · rw [hdropped, lastSequence_concat]
    exact h.le_latest last (by simp [haccepted])

/-- Dropping only ever moves forward. -/
theorem Consistent.droppedThrough_publish (h : Consistent accepted state)
    (observed : ObservedOverviewEvent) :
    state.droppedThrough ≤ (state.publish observed).droppedThrough := by
  unfold OverviewChannelState.publish
  split
  · exact le_refl _
  · by_cases hfull : state.events.length = state.capacity
    · cases hevents : state.events with
      | nil => simp
      | cons first events =>
          obtain ⟨dropped, haccepted, -⟩ := h.split
          have hmem : first ∈ accepted := by simp [haccepted, hevents]
          have hfirst := (h.retained hmem).mp (by simp [hevents])
          simpa [hevents, ← hfull] using hfirst.le
    · simp [hfull]

/-- The accepted events that the consumer has not read, nor been told to be lost. -/
def unread (accepted : List ObservedOverviewEvent) (cursor : Nat) : List ObservedOverviewEvent :=
  accepted.filter fun e => decide (cursor < e.sequence)

theorem mem_unread {cursor : Nat} {e : ObservedOverviewEvent} :
    e ∈ unread accepted cursor ↔ e ∈ accepted ∧ cursor < e.sequence := by
  simp [unread]

/-- The drop mark is beyond the cursor exactly when an unread event is gone. -/
theorem Consistent.lagged_iff (h : Consistent accepted state) (cursor : Nat) :
    cursor < state.droppedThrough ↔ ∃ e ∈ unread accepted cursor, e ∉ state.events := by
  constructor
  · intro hlt
    obtain ⟨dropped, haccepted, hdropped⟩ := h.split
    rcases List.eq_nil_or_concat' dropped with rfl | ⟨front, last, rfl⟩
    · simp [hdropped, lastSequence] at hlt
    · rw [lastSequence_concat] at hdropped
      have hmem : last ∈ accepted := by simp [haccepted]
      refine ⟨last, mem_unread.mpr ⟨hmem, hdropped ▸ hlt⟩, fun hretained => ?_⟩
      have := (h.retained hmem).mp hretained
      omega
  · rintro ⟨e, he, hgone⟩
    obtain ⟨hmem, hlt⟩ := mem_unread.mp he
    by_contra hle
    exact hgone ((h.retained hmem).mpr (by omega))

/-- Without lag the queue holds every unread event. -/
theorem Consistent.unread_eq (h : Consistent accepted state) {cursor : Nat}
    (hlag : ¬ cursor < state.droppedThrough) :
    state.events.filter (fun e => decide (cursor < e.sequence)) = unread accepted cursor := by
  obtain ⟨dropped, haccepted, hdropped⟩ := h.split
  have hincreasing : Increasing dropped :=
    h.increasing.sublist (haccepted ▸ List.sublist_append_left _ _)
  have hread : dropped.filter (fun e => decide (cursor < e.sequence)) = [] := by
    refine List.filter_eq_nil_iff.mpr fun e he => ?_
    have := hincreasing.le_last e he
    simp
    omega
  rw [unread, haccepted, List.filter_append, hread, List.nil_append]

/-- The next read gives the first unread event, unless an unread event is gone. -/
theorem Consistent.nextChannelEvent (h : Consistent accepted state) {cursor : Nat}
    (hlag : ¬ cursor < state.droppedThrough) :
    nextChannelEvent state cursor =
      match (unread accepted cursor).head? with
      | some e => (.ok (some e), e.sequence)
      | none => (.ok none, cursor) := by
  rw [Overview.nextChannelEvent, if_neg hlag, ← List.head?_filter, h.unread_eq hlag]

theorem Consistent.prepareRequest (h : Consistent accepted state) {cursor : Nat}
    (hlag : ¬ cursor < state.droppedThrough) (currentSequence : Nat) :
    prepareRequest state cursor currentSequence =
      (.ok (max currentSequence state.latestSequence, unread accepted cursor),
        state.latestSequence) := by
  rw [Overview.prepareRequest, if_neg hlag, h.unread_eq hlag]

/-- What a lag error skips. -/
theorem Consistent.lost_eq (h : Consistent accepted state) (cursor : Nat) :
    (unread accepted cursor).filter (fun e => decide (e ∉ state.events)) =
      between accepted cursor state.droppedThrough := by
  rw [unread, List.filter_filter, between]
  refine List.filter_congr fun e he => ?_
  have := h.retained he
  simp only [this, not_lt]
  rw [Bool.and_comm, Bool.decide_and]

/-- Everything up to the latest event that lies beyond the cursor is unread. -/
theorem Consistent.between_latest (h : Consistent accepted state) (cursor : Nat) :
    between accepted cursor state.latestSequence = unread accepted cursor :=
  List.filter_congr fun e he => by simp [h.le_latest e he]

/-- Up to the first unread event there is nothing else to read. -/
theorem Increasing.between_head {cursor : Nat} {e : ObservedOverviewEvent}
    (h : Increasing accepted) (hhead : (unread accepted cursor).head? = some e) :
    between accepted cursor e.sequence = [e] := by
  obtain ⟨rest, hunread⟩ := List.head?_eq_some_iff.mp hhead
  have hsorted : Increasing (e :: rest) :=
    hunread ▸ h.sublist List.filter_sublist
  have hbetween : between accepted cursor e.sequence =
      (unread accepted cursor).filter fun x => decide (x.sequence ≤ e.sequence) := by
    rw [unread, List.filter_filter, between]
    refine List.filter_congr fun x _ => ?_
    rw [Bool.decide_and, Bool.and_comm]
  rw [hbetween, hunread, List.filter_cons_of_pos (by simp)]
  rw [List.filter_eq_nil_iff.mpr fun x hx => ?_]
  have := (List.pairwise_cons.mp hsorted).1 x hx
  simp
  omega

end Consistency

end Overview
end SleepySession
