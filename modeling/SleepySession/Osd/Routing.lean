import SleepySession.Osd.Router

/-!
# Routing of on-screen events

What becomes of every accepted event.  Beside the queue of an output runs a
trace: accepted events are numbered in the order of their arrival, and the
trace says which of them is on display, which are pending, and how the others
have left the display.  The queue is always the image of the trace.
-/

namespace SleepySession
namespace Osd

/-- How an event leaves the display, with the event that comes on display instead. -/
inductive Departure where
  /-- A later event of the same kind takes its place. -/
  | replaced (later : Nat)
  /-- Its display has timed out. -/
  | expired (since now : Nat) (next : Option Nat)
  | completed (next : Option Nat)
deriving DecidableEq, Repr

/-- The event that comes on display next. -/
def Departure.successor : Departure → Option Nat
  | replaced later => some later
  | expired _ _ next => next
  | completed next => next

/-- The pending event that comes on display. -/
def Departure.promoted : Departure → Option Nat
  | replaced _ => none
  | expired _ _ next => next
  | completed next => next

/-- What has happened to the events of one output. -/
structure OutputTrace (κ ℓ : Type) where
  /-- The accepted events in the order of their arrival. -/
  accepted : List (OsdEvent κ ℓ)
  /-- The events that were put behind another one. -/
  enqueued : List Nat
  /-- The events that have been on display, oldest first. -/
  left : List (Nat × Departure)
  current : Option Nat
  pending : List Nat
  rejected : Nat

namespace OutputTrace

variable {κ ℓ : Type}

def empty : OutputTrace κ ℓ where
  accepted := []
  enqueued := []
  left := []
  current := none
  pending := []
  rejected := 0

/-- The next pending event comes on display. -/
def leave (τ : OutputTrace κ ℓ) (departure : Option Nat → Departure) : OutputTrace κ ℓ :=
  { τ with
    left := τ.left ++ τ.current.toList.map fun i => (i, departure τ.pending.head?)
    current := τ.pending.head?
    pending := τ.pending.tail }

/-- An event comes on display at once. -/
def show' (τ : OutputTrace κ ℓ) (event : OsdEvent κ ℓ) : OutputTrace κ ℓ :=
  { τ with
    accepted := τ.accepted ++ [event]
    left := τ.left ++ τ.current.toList.map fun i => (i, .replaced τ.accepted.length)
    current := some τ.accepted.length }

def enqueue (τ : OutputTrace κ ℓ) (event : OsdEvent κ ℓ) : OutputTrace κ ℓ :=
  { τ with
    accepted := τ.accepted ++ [event]
    enqueued := τ.enqueued ++ [τ.accepted.length]
    pending := τ.pending ++ [τ.accepted.length] }

def reject (τ : OutputTrace κ ℓ) : OutputTrace κ ℓ :=
  { τ with rejected := τ.rejected + 1 }

/-- A push into the queue. -/
def push [DecidableEq κ] (τ : OutputTrace κ ℓ)
    (q : OutputQueue κ ℓ) (capacity : Nat) (event : OsdEvent κ ℓ) : OutputTrace κ ℓ :=
  match q.current with
  | none => τ.show' event
  | some current =>
      if current.kind = event.kind then τ.show' event
      else if q.pending.length < capacity then τ.enqueue event
      else τ.reject

/-- The loop of `advance_time`. -/
def advanceLoop (timeout now : Nat) :
    Nat → OutputQueue κ ℓ → OutputTrace κ ℓ → OutputTrace κ ℓ
  | 0, _, τ => τ
  | fuel + 1, q, τ =>
      match q.expired timeout now with
      | none => τ
      | some since =>
          advanceLoop timeout now fuel (q.promote (since + timeout)) (τ.leave (.expired since now))

def advance (τ : OutputTrace κ ℓ) (q : OutputQueue κ ℓ) (timeout now : Nat) : OutputTrace κ ℓ :=
  advanceLoop timeout now (q.pending.length + 1) q τ

/-- Everything that has been on display, oldest first, and what is on display now. -/
def displays (τ : OutputTrace κ ℓ) : List Nat :=
  τ.left.map Prod.fst ++ τ.current.toList

end OutputTrace

/-- How a queue stands to its trace. -/
structure Routed {κ ℓ : Type} (capacity timeout : Nat)
    (q : OutputQueue κ ℓ) (τ : OutputTrace κ ℓ) : Prop where
  current : q.current = τ.current.bind fun i => τ.accepted[i]?
  pending : q.pending.map some = τ.pending.map fun i => τ.accepted[i]?
  since : q.currentSince.isSome = q.current.isSome
  /-- Every accepted event is in exactly one place. -/
  places : (τ.displays ++ τ.pending).Perm (List.range τ.accepted.length)
  /-- Pending events come on display in the order of their arrival, each exactly once. -/
  promoted : τ.enqueued = τ.left.filterMap (fun entry => entry.2.promoted) ++ τ.pending
  arrival : τ.enqueued.Pairwise (· < ·)
  enqueued_lt : ∀ i ∈ τ.enqueued, i < τ.accepted.length
  /-- The successor of a departure is the next event on display. -/
  successor : ∀ k n, (τ.left[k]?.bind fun entry => entry.2.successor) = some n →
    τ.displays[k + 1]? = some n
  /-- Only a later event of the same kind replaces an event on display. -/
  replaced : ∀ i later, (i, Departure.replaced later) ∈ τ.left → i < later ∧
    ∃ event event', τ.accepted[i]? = some event ∧ τ.accepted[later]? = some event' ∧
      event.kind = event'.kind
  /-- An event expires after its time on display. -/
  expired : ∀ i since now next, (i, Departure.expired since now next) ∈ τ.left →
    since + timeout ≤ now
  bounded : q.pending.length ≤ capacity
  nothing_behind : q.current = none → q.pending = []
  overflow : q.overflowCount = min τ.rejected (2 ^ 64 - 1)

section Steps

variable {κ ℓ : Type} {capacity timeout : Nat}
variable {q : OutputQueue κ ℓ} {τ : OutputTrace κ ℓ}

theorem routed_empty : Routed capacity timeout (.empty : OutputQueue κ ℓ) .empty where
  current := rfl
  pending := rfl
  since := rfl
  places := List.Perm.refl _
  promoted := rfl
  arrival := List.Pairwise.nil
  enqueued_lt i h := by cases h
  successor k n h := by simp [OutputTrace.empty] at h
  replaced i later h := by cases h
  expired i since now next h := by cases h
  bounded := Nat.zero_le _
  nothing_behind _ := rfl
  overflow := by simp [OutputQueue.empty, OutputTrace.empty]

theorem getElem?_append_of_some {α : Type} {l l' : List α} {k : Nat} {a : α}
    (h : l[k]? = some a) : (l ++ l')[k]? = some a := by
  obtain ⟨hk, rfl⟩ := List.getElem?_eq_some_iff.mp h
  rw [List.getElem?_append_left hk, List.getElem?_eq_getElem hk]

/-- The numbers in use are those of accepted events. -/
theorem Routed.lt_of_mem (h : Routed capacity timeout q τ) {i : Nat}
    (hi : i ∈ τ.displays ++ τ.pending) : i < τ.accepted.length :=
  List.mem_range.mp (h.places.mem_iff.mp hi)

theorem Routed.current_iff (h : Routed capacity timeout q τ) :
    q.current = none ↔ τ.current = none := by
  rw [h.current]
  cases hcurrent : τ.current with
  | none => simp
  | some i =>
      have hi := h.lt_of_mem (i := i) (by simp [OutputTrace.displays, hcurrent])
      simp [List.getElem?_eq_getElem hi]

/-- A departure other than a replacement, with the next pending event. -/
structure Leaves (timeout : Nat) (departure : Option Nat → Departure) : Prop where
  successor : ∀ next, (departure next).successor = next
  promoted : ∀ next, (departure next).promoted = next
  expired : ∀ next since now next', departure next = .expired since now next' →
    since + timeout ≤ now

theorem Leaves.not_replaced {departure : Option Nat → Departure}
    (h : Leaves timeout departure) (next : Option Nat) (later : Nat) :
    departure next ≠ .replaced later := by
  intro heq
  have hsuccessor := h.successor next
  have hpromoted := h.promoted next
  rw [heq] at hsuccessor hpromoted
  rw [← hpromoted] at hsuccessor
  cases hsuccessor

/-- The event on display leaves and the next one follows. -/
theorem Routed.leave
    (h : Routed capacity timeout q τ) {departure : Option Nat → Departure}
    (hd : Leaves timeout departure) (since : Nat) :
    Routed capacity timeout (q.promote since) (τ.leave departure) := by
  have hpending := h.pending
  have htail : q.pending.tail.map some = τ.pending.tail.map fun i => τ.accepted[i]? := by
    rw [List.map_tail, List.map_tail, hpending]
  have hhead : q.pending.head? = τ.pending.head?.bind fun i => τ.accepted[i]? := by
    have heq := congrArg List.head? hpending
    rw [List.head?_map, List.head?_map] at heq
    cases hq : q.pending.head? <;> cases hτ : τ.pending.head? <;> simp_all
  have hdisplays : (τ.leave departure).displays = τ.displays ++ τ.pending.head?.toList := by
    cases hcurrent : τ.current <;>
      simp [OutputTrace.displays, OutputTrace.leave, hcurrent]
  have hsplit : τ.pending.head?.toList ++ τ.pending.tail = τ.pending := by
    cases τ.pending <;> rfl
  have hbehind : τ.current = none → τ.pending = [] := fun hnone => by
    have hnil := h.nothing_behind (h.current_iff.mpr hnone)
    rw [hnil] at hpending
    simpa using hpending.symm
  refine ⟨hhead, htail, ?_, ?_, ?_, h.arrival, h.enqueued_lt, fun k n hk => ?_,
    fun i later hmem => ?_, fun i since' now next hmem => ?_, ?_, fun hnone => ?_, h.overflow⟩
  · simp [OutputQueue.promote]
  · rw [hdisplays]
    simp only [OutputTrace.leave, List.append_assoc, hsplit]
    exact h.places
  · have hnext : (τ.current.toList.map fun i => (i, departure τ.pending.head?)).filterMap
        (fun entry => entry.2.promoted) = τ.pending.head?.toList := by
      cases hcurrent : τ.current with
      | none => simp [hbehind hcurrent]
      | some i => cases hh : τ.pending.head? <;> simp [hd.promoted]
    simp only [OutputTrace.leave, List.filterMap_append, hnext, List.append_assoc, hsplit]
    exact h.promoted
  · rw [hdisplays]
    cases hcurrent : τ.current with
    | none =>
        have hold : (τ.left[k]?.bind fun entry => entry.2.successor) = some n := by
          simpa [OutputTrace.leave, hcurrent] using hk
        exact getElem?_append_of_some (h.successor k n hold)
    | some i =>
        rcases Nat.lt_trichotomy k τ.left.length with hlt | heq | hgt
        · have hold : (τ.left[k]?.bind fun entry => entry.2.successor) = some n := by
            simpa [OutputTrace.leave, hcurrent, List.getElem?_append_left hlt] using hk
          exact getElem?_append_of_some (h.successor k n hold)
        · subst heq
          have hn : τ.pending.head? = some n := by
            simpa [OutputTrace.leave, hcurrent, hd.successor] using hk
          have hlength : τ.displays.length = τ.left.length + 1 := by
            simp [OutputTrace.displays, hcurrent]
          rw [List.getElem?_append_right (by omega), hn, hlength]
          simp
        · rw [List.getElem?_eq_none (by simp [OutputTrace.leave, hcurrent]; omega)] at hk
          cases hk
  · rcases List.mem_append.mp hmem with hmem | hmem
    · exact h.replaced i later hmem
    · obtain ⟨i', -, heq⟩ := List.mem_map.mp hmem
      cases congrArg Prod.fst heq
      exact absurd (congrArg Prod.snd heq) (hd.not_replaced _ later)
  · rcases List.mem_append.mp hmem with hmem | hmem
    · exact h.expired i since' now next hmem
    · obtain ⟨i', -, heq⟩ := List.mem_map.mp hmem
      exact hd.expired _ since' now next (congrArg Prod.snd heq)
  · rw [OutputQueue.promote_pending, List.length_tail]
    exact (Nat.sub_le _ _).trans h.bounded
  · cases hq : q.pending with
    | nil => simp [hq]
    | cons event rest => simp [OutputQueue.promote, hq] at hnone

theorem Routed.advanceLoop (h : Routed capacity timeout q τ) (now fuel : Nat) :
    Routed capacity timeout (OutputQueue.advanceLoop timeout now fuel q)
      (OutputTrace.advanceLoop timeout now fuel q τ) := by
  induction fuel generalizing q τ with
  | zero => exact h
  | succ fuel ih =>
      simp only [OutputQueue.advanceLoop, OutputTrace.advanceLoop]
      cases hexpired : q.expired timeout now with
      | none => exact h
      | some since =>
          obtain ⟨-, hle, htimeout⟩ := OutputQueue.expired_eq_some.mp hexpired
          refine ih (h.leave ⟨fun _ => rfl, fun _ => rfl, fun next since' now' next' heq => ?_⟩ _)
          cases heq
          omega

/-- The images of earlier numbers do not change. -/
theorem getElem?_accepted_append {accepted : List (OsdEvent κ ℓ)} {event : OsdEvent κ ℓ} {i : Nat}
    (hi : i < accepted.length) : (accepted ++ [event])[i]? = accepted[i]? :=
  List.getElem?_append_left hi

theorem Routed.pending_append (h : Routed capacity timeout q τ) (event : OsdEvent κ ℓ) :
    q.pending.map some = τ.pending.map fun i => (τ.accepted ++ [event])[i]? := by
  rw [h.pending]
  refine List.map_congr_left fun i hi => (getElem?_accepted_append ?_).symm
  exact h.lt_of_mem (List.mem_append_right _ hi)

theorem Routed.replaced_append (h : Routed capacity timeout q τ) (event : OsdEvent κ ℓ)
    {i later : Nat} (hmem : (i, Departure.replaced later) ∈ τ.left) :
    i < later ∧ ∃ event₁ event₂, (τ.accepted ++ [event])[i]? = some event₁ ∧
      (τ.accepted ++ [event])[later]? = some event₂ ∧ event₁.kind = event₂.kind := by
  obtain ⟨hlt, event₁, event₂, h₁, h₂, hkind⟩ := h.replaced i later hmem
  exact ⟨hlt, event₁, event₂, getElem?_append_of_some h₁, getElem?_append_of_some h₂, hkind⟩

/-- An event comes on display at once, if need be in place of one of its kind. -/
theorem Routed.show' (h : Routed capacity timeout q τ) {event : OsdEvent κ ℓ}
    (hkind : ∀ current, q.current = some current → current.kind = event.kind) (now : Nat) :
    Routed capacity timeout { q with current := some event, currentSince := some now }
      (τ.show' event) := by
  have hdisplays : (τ.show' event).displays = τ.displays ++ [τ.accepted.length] := by
    cases hcurrent : τ.current <;>
      simp [OutputTrace.displays, OutputTrace.show', hcurrent]
  refine ⟨?_, h.pending_append event, rfl, ?_, ?_, h.arrival, fun i hi => ?_, fun k n hk => ?_,
    fun i later hmem => ?_, fun i since now next hmem => ?_, h.bounded, fun hnone => ?_,
    h.overflow⟩
  · simp [OutputTrace.show']
  · rw [hdisplays, List.perm_iff_count]
    intro i
    have hcount := List.perm_iff_count.mp h.places i
    simp only [OutputTrace.show', List.length_append, List.length_singleton, List.range_succ,
      List.count_append] at hcount ⊢
    omega
  · have hnext : (τ.current.toList.map fun i => (i, Departure.replaced τ.accepted.length)).filterMap
        (fun entry => entry.2.promoted) = [] := by
      cases τ.current <;> simp [Departure.promoted]
    simp only [OutputTrace.show', List.filterMap_append, hnext, List.append_nil]
    exact h.promoted
  · have := h.enqueued_lt i hi
    simp only [OutputTrace.show', List.length_append, List.length_singleton]
    omega
  · rw [hdisplays]
    cases hcurrent : τ.current with
    | none =>
        have hold : (τ.left[k]?.bind fun entry => entry.2.successor) = some n := by
          simpa [OutputTrace.show', hcurrent] using hk
        exact getElem?_append_of_some (h.successor k n hold)
    | some i =>
        rcases Nat.lt_trichotomy k τ.left.length with hlt | heq | hgt
        · have hold : (τ.left[k]?.bind fun entry => entry.2.successor) = some n := by
            simpa [OutputTrace.show', hcurrent, List.getElem?_append_left hlt] using hk
          exact getElem?_append_of_some (h.successor k n hold)
        · subst heq
          have hn : τ.accepted.length = n := by
            simpa [OutputTrace.show', hcurrent, Departure.successor] using hk
          have hlength : τ.displays.length = τ.left.length + 1 := by
            simp [OutputTrace.displays, hcurrent]
          rw [List.getElem?_append_right (by omega), hlength, hn]
          simp
        · rw [List.getElem?_eq_none (by simp [OutputTrace.show', hcurrent]; omega)] at hk
          cases hk
  · rcases List.mem_append.mp hmem with hmem | hmem
    · exact h.replaced_append event hmem
    · obtain ⟨i', hi', heq⟩ := List.mem_map.mp hmem
      obtain ⟨rfl, hlater⟩ := Prod.mk.inj heq
      obtain rfl : τ.accepted.length = later := by simpa using hlater
      have hcurrent : τ.current = some i' := by simpa using hi'
      have hlt := h.lt_of_mem (i := i') (by simp [OutputTrace.displays, hcurrent])
      have hevent : q.current = some τ.accepted[i'] := by
        rw [h.current, hcurrent, Option.bind_some, List.getElem?_eq_getElem hlt]
      refine ⟨hlt, τ.accepted[i'], event, ?_, by simp [OutputTrace.show'], hkind _ hevent⟩
      exact getElem?_append_of_some (List.getElem?_eq_getElem hlt)
  · rcases List.mem_append.mp hmem with hmem | hmem
    · exact h.expired i since now next hmem
    · obtain ⟨i', -, heq⟩ := List.mem_map.mp hmem
      cases congrArg Prod.snd heq
  · cases hnone

/-- An event is put behind the others. -/
theorem Routed.enqueue (h : Routed capacity timeout q τ) {current : OsdEvent κ ℓ}
    (hcurrent : q.current = some current) (hroom : q.pending.length < capacity)
    (event : OsdEvent κ ℓ) :
    Routed capacity timeout { q with pending := q.pending ++ [event] } (τ.enqueue event) := by
  refine ⟨?_, ?_, h.since, ?_, ?_, ?_, fun i hi => ?_, h.successor, fun i later hmem =>
    h.replaced_append event hmem, h.expired, ?_, fun hnone => ?_, h.overflow⟩
  · rw [show ({ q with pending := q.pending ++ [event] } : OutputQueue κ ℓ).current = q.current
      from rfl, h.current]
    cases hτ : τ.current with
    | none => simp [OutputTrace.enqueue, hτ]
    | some i =>
        have hi := h.lt_of_mem (i := i) (by simp [OutputTrace.displays, hτ])
        simp [OutputTrace.enqueue, hτ, getElem?_accepted_append hi]
  · simp only [OutputTrace.enqueue, List.map_append, h.pending_append event]
    simp
  · rw [List.perm_iff_count]
    intro i
    have hcount := List.perm_iff_count.mp h.places i
    simp only [OutputTrace.enqueue, OutputTrace.displays, List.length_append,
      List.length_singleton, List.range_succ, List.count_append] at hcount ⊢
    omega
  · simp only [OutputTrace.enqueue, h.promoted, List.append_assoc]
  · refine List.pairwise_append.mpr ⟨h.arrival, List.pairwise_singleton _ _, fun i hi j hj => ?_⟩
    rw [List.mem_singleton.mp hj]
    exact h.enqueued_lt i hi
  · simp only [OutputTrace.enqueue, List.length_append, List.length_singleton]
    rcases List.mem_append.mp hi with hi | hi
    · have := h.enqueued_lt i hi
      omega
    · have := List.mem_singleton.mp hi
      omega
  · simp only [List.length_append, List.length_singleton]
    omega
  · have hnone' : q.current = none := hnone
    rw [hcurrent] at hnone'
    cases hnone'

theorem Routed.push [DecidableEq κ] (h : Routed capacity timeout q τ) (event : OsdEvent κ ℓ)
    (now : Nat) :
    Routed capacity timeout (q.push capacity event now).1 (τ.push q capacity event) := by
  unfold OutputQueue.push OutputTrace.push
  cases hcurrent : q.current with
  | none =>
      dsimp only
      exact h.show' (by simp [hcurrent]) now
  | some current =>
      dsimp only
      split
      · rename_i hkind
        exact h.show' (by simpa [hcurrent] using hkind) now
      · split
        · rename_i hroom
          have henqueue := h.enqueue hcurrent hroom event
          rw [hcurrent] at henqueue
          exact henqueue
        · have hreject : Routed capacity timeout
              { q with overflowCount := saturatingSucc q.overflowCount } τ.reject := by
            refine { h with overflow := ?_ }
            simp only [saturatingSucc, OutputTrace.reject, h.overflow]
            omega
          rw [hcurrent] at hreject
          exact hreject

/-- The event on display is completed. -/
theorem Routed.complete (h : Routed capacity timeout q τ) (now : Nat) :
    Routed capacity timeout (q.promote now) (τ.leave .completed) :=
  h.leave ⟨fun _ => rfl, fun _ => rfl, fun _ _ _ _ heq => by cases heq⟩ now

end Steps

section Runs

variable {κ ℓ : Type} [DecidableEq κ]

/-- A router with the time of its last operation and the traces of its outputs. -/
structure OsdRun (κ ℓ : Type) where
  router : OsdRouter κ ℓ
  now : Nat
  traces : String → OutputTrace κ ℓ

inductive OsdOperation (κ ℓ : Type) where
  | observeNiriFocus (focusedOutputId : Option String) (now : Nat)
  | pushFocused (request : FocusedOsdRequest κ ℓ) (now : Nat)
  | advanceTime (now : Nat)
  | complete (outputId : String) (now : Nat)

def OsdOperation.time : OsdOperation κ ℓ → Nat
  | observeNiriFocus _ now | pushFocused _ now | advanceTime now | complete _ now => now

/-- The queue of an output, which is empty until its first event. -/
def OsdRouter.queue (r : OsdRouter κ ℓ) (output : String) : OutputQueue κ ℓ :=
  (r.outputs output).getD .empty

/-- What an operation does to the router. -/
def OsdRouter.operate (validate : OsdEvent κ ℓ → Bool) (r : OsdRouter κ ℓ) :
    OsdOperation κ ℓ → OsdRouter κ ℓ
  | .observeNiriFocus focusedOutputId now => r.observeNiriFocus focusedOutputId now
  | .pushFocused request now => (r.pushFocused validate request now).1
  | .advanceTime now => r.advanceTime now
  | .complete outputId now => r.complete outputId now

/-- What an operation does to the traces. -/
def OsdRun.trace (validate : OsdEvent κ ℓ → Bool) (s : OsdRun κ ℓ) :
    OsdOperation κ ℓ → String → OutputTrace κ ℓ
  | .observeNiriFocus _ _ => s.traces
  | .pushFocused request now =>
      match s.router.focusedEvent validate request now with
      | .error _ => s.traces
      | .ok event =>
          Function.update s.traces event.outputId
            ((s.traces event.outputId).push (s.router.queue event.outputId)
              s.router.pendingCapacity event)
  | .advanceTime now => fun output =>
      (s.traces output).advance (s.router.queue output) s.router.displayTimeout now
  | .complete outputId _ =>
      Function.update s.traces outputId ((s.traces outputId).leave .completed)

/-- An operation whose time is not before that of the last one. -/
def OsdRun.after (validate : OsdEvent κ ℓ → Bool) (s : OsdRun κ ℓ) (operation : OsdOperation κ ℓ) :
    Option (OsdRun κ ℓ) :=
  if s.now ≤ operation.time then
    some {
      router := s.router.operate validate operation
      now := operation.time
      traces := s.trace validate operation }
  else none

/-- All sequences of operations on a fresh router. -/
def osdSystem (validate : OsdEvent κ ℓ → Bool) (capacity timeout ttl : Nat) :
    System (OsdRun κ ℓ) (OsdOperation κ ℓ) :=
  .ofStep
    (fun s => s.router = .withTiming capacity timeout ttl ∧ s.traces = fun _ => .empty)
    (OsdRun.after validate)

/-- The outputs whose queues an operation may change. -/
def OsdOperation.concerns (r : OsdRouter κ ℓ) (output : String) : OsdOperation κ ℓ → Prop
  | .observeNiriFocus _ _ => False
  | .pushFocused _ _ => r.focusedOutput.map (·.outputId) = some output
  | .advanceTime _ => True
  | .complete outputId _ => outputId = output

variable {validate : OsdEvent κ ℓ → Bool}

omit [DecidableEq κ] in
theorem OsdRouter.focusedEvent_eq_ok
    {r : OsdRouter κ ℓ} {request : FocusedOsdRequest κ ℓ} {now : Nat} {event : OsdEvent κ ℓ}
    (h : r.focusedEvent validate request now = .ok event) :
    r.focusedOutput.map (·.outputId) = some event.outputId := by
  unfold OsdRouter.focusedEvent at h
  split at h
  · cases h
  · rename_i focused hfocused
    rw [hfocused]
    split at h
    · cases h
    · split at h
      · cases h
      · dsimp only at h
        split at h
        · cases h
          rfl
        · cases h

/-- The settings of a router do not change. -/
theorem OsdRouter.operate_settings (r : OsdRouter κ ℓ) (operation : OsdOperation κ ℓ) :
    (r.operate validate operation).pendingCapacity = r.pendingCapacity ∧
      (r.operate validate operation).displayTimeout = r.displayTimeout := by
  cases operation with
  | observeNiriFocus focusedOutputId now => exact ⟨rfl, rfl⟩
  | advanceTime now => exact ⟨rfl, rfl⟩
  | pushFocused request now =>
      simp only [OsdRouter.operate, OsdRouter.pushFocused]
      cases r.focusedEvent validate request now <;> exact ⟨rfl, rfl⟩
  | complete outputId now =>
      simp only [OsdRouter.operate, OsdRouter.complete]
      cases r.outputs outputId <;> exact ⟨rfl, rfl⟩

/-- An operation leaves the outputs alone that it does not concern. -/
theorem OsdRouter.operate_other
    (r : OsdRouter κ ℓ) (operation : OsdOperation κ ℓ) {output : String}
    (h : ¬ operation.concerns r output) :
    (r.operate validate operation).outputs output = r.outputs output := by
  cases operation with
  | observeNiriFocus focusedOutputId now => rfl
  | advanceTime now => exact absurd trivial h
  | pushFocused request now =>
      simp only [OsdRouter.operate, OsdRouter.pushFocused]
      cases hevent : r.focusedEvent validate request now with
      | error e => rfl
      | ok event =>
          have hne : output ≠ event.outputId := fun heq =>
            h (heq ▸ OsdRouter.focusedEvent_eq_ok hevent)
          simp [OsdRouter.pushAt, hne]
  | complete outputId now =>
      have hne : output ≠ outputId := fun heq => h heq.symm
      simp only [OsdRouter.operate, OsdRouter.complete]
      cases r.outputs outputId <;> simp [hne]

/-- The trace accepts what the queue accepts, and counts what it rejects. -/
theorem OutputTrace.push_result
    (τ : OutputTrace κ ℓ) (q : OutputQueue κ ℓ) (capacity : Nat) (event : OsdEvent κ ℓ)
    (now : Nat) :
    ((q.push capacity event now).2 = true →
      (τ.push q capacity event).accepted = τ.accepted ++ [event] ∧
        (τ.push q capacity event).rejected = τ.rejected) ∧
    ((q.push capacity event now).2 = false →
      (τ.push q capacity event).accepted = τ.accepted ∧
        (τ.push q capacity event).rejected = τ.rejected + 1) := by
  unfold OutputQueue.push OutputTrace.push
  cases q.current with
  | none => simp [OutputTrace.show']
  | some current =>
      dsimp only
      split
      · simp [OutputTrace.show']
      · split
        · simp [OutputTrace.enqueue]
        · simp [OutputTrace.reject]

/-- Every queue stands to its trace. -/
def OsdRun.Invariant (capacity timeout : Nat) (s : OsdRun κ ℓ) : Prop :=
  s.router.pendingCapacity = capacity ∧ s.router.displayTimeout = timeout ∧
    ∀ output, Routed capacity timeout (s.router.queue output) (s.traces output)

theorem OsdRun.Invariant.operate {capacity timeout : Nat} {s : OsdRun κ ℓ}
    (hs : s.Invariant capacity timeout) (operation : OsdOperation κ ℓ) (output : String) :
    Routed capacity timeout ((s.router.operate validate operation).queue output)
      (s.trace validate operation output) := by
  obtain ⟨rfl, rfl, hrouted⟩ := hs
  cases operation with
  | observeNiriFocus focusedOutputId now => exact hrouted output
  | advanceTime now =>
      have hqueue : (s.router.operate validate (.advanceTime now)).queue output =
          (s.router.queue output).advance s.router.displayTimeout now := by
        simp only [OsdRouter.operate, OsdRouter.advanceTime, OsdRouter.queue]
        cases s.router.outputs output <;> rfl
      rw [hqueue]
      exact (hrouted output).advanceLoop now _
  | pushFocused request now =>
      simp only [OsdRouter.operate, OsdRouter.pushFocused, OsdRun.trace]
      cases s.router.focusedEvent validate request now with
      | error e => exact hrouted output
      | ok event =>
          by_cases hout : output = event.outputId
          · subst hout
            simpa [OsdRouter.queue, OsdRouter.pushAt] using (hrouted event.outputId).push event now
          · simpa [OsdRouter.queue, OsdRouter.pushAt, hout] using hrouted output
  | complete outputId now =>
      simp only [OsdRouter.operate, OsdRouter.complete, OsdRun.trace]
      by_cases hout : output = outputId
      · subst hout
        have hcomplete := (hrouted output).complete now
        cases hqueue : s.router.outputs output with
        | none => simpa [OsdRouter.queue, hqueue, OutputQueue.promote, OutputQueue.empty] using hcomplete
        | some queue => simpa [OsdRouter.queue, hqueue] using hcomplete
      · cases hqueue : s.router.outputs outputId <;>
          simpa [OsdRouter.queue, hout] using hrouted output

/--
On every output each accepted event is in one place: on display, pending, or
gone from the display, replaced by a later one of its kind, expired or
completed.  Pending events come on display in the order of their arrival, each
once, when the one before has left.  The queue stays within its capacity and
empty behind an empty display, overflows are counted, operations leave other
outputs alone, and advancing in two steps is advancing in one.
-/
theorem osd_routing {capacity timeout ttl : Nat} {s : OsdRun κ ℓ}
    (h : (osdSystem validate capacity timeout ttl).Reachable s) :
    (∀ output, Routed capacity (max timeout 1000000) (s.router.queue output) (s.traces output)) ∧
    (∀ operation s', s.after validate operation = some s' → ∀ output,
      ¬ operation.concerns s.router output →
        s'.router.outputs output = s.router.outputs output) ∧
    (∀ output event now,
      let pushed := (s.router.queue output).push s.router.pendingCapacity event now
      let trace := (s.traces output).push (s.router.queue output) s.router.pendingCapacity event
      (pushed.2 = true → trace.accepted = (s.traces output).accepted ++ [event] ∧
        trace.rejected = (s.traces output).rejected) ∧
      (pushed.2 = false → trace.accepted = (s.traces output).accepted ∧
        trace.rejected = (s.traces output).rejected + 1)) ∧
    ∀ t₁ t₂, t₁ ≤ t₂ →
      (s.router.advanceTime t₁).advanceTime t₂ = s.router.advanceTime t₂ := by
  have hs : s.Invariant capacity (max timeout 1000000) := by
    refine h.invariant (fun s hs => ?_) (fun s operation s' hs hstep => ?_)
    · obtain ⟨hrouter, htraces⟩ := hs
      refine ⟨by rw [hrouter]; rfl, by rw [hrouter]; rfl, fun output => ?_⟩
      rw [hrouter, htraces]
      exact routed_empty
    · obtain ⟨-, rfl⟩ : s.now ≤ operation.time ∧ _ = s' := by
        simpa [osdSystem, System.ofStep, OsdRun.after] using hstep
      obtain ⟨hcapacity, htimeout⟩ := s.router.operate_settings operation
      exact ⟨hcapacity.trans hs.1, htimeout.trans hs.2.1, fun output => hs.operate operation output⟩
  refine ⟨hs.2.2, fun operation s' hafter output hconcerns => ?_,
    fun output event now => OutputTrace.push_result _ _ _ event now,
    fun t₁ t₂ hle => OsdRouter.advanceTime_advanceTime hle⟩
  obtain ⟨-, rfl⟩ : s.now ≤ operation.time ∧ _ = s' := by
    simpa [OsdRun.after] using hafter
  exact s.router.operate_other operation hconcerns

end Runs

section Sample

def volume (label : String) : FocusedOsdRequest Bool Nat :=
  { kind := true, level := some 40, muted := some false, label := label }

def microphone : FocusedOsdRequest Bool Nat :=
  { kind := false, level := some 70, muted := some false, label := "microphone" }

/-- Two volume events, of which the second replaces the first, and a microphone event. -/
def sampleOperations : List (OsdOperation Bool Nat) :=
  [.observeNiriFocus (some "DP-1") 0, .pushFocused (volume "40%") 0,
    .pushFocused microphone 100, .pushFocused (volume "45%") 200, .advanceTime 5000200]

/-- When the volume has timed out the microphone event is on display. -/
theorem osd_routing_sample :
    ∃ s : OsdRun Bool Nat, (osdSystem (fun _ => true) 4 5000000 1000).Reachable s ∧
      (s.router.queue "DP-1").current.map (·.label) = some "microphone" ∧
      (s.traces "DP-1").enqueued = [1] ∧
      (s.traces "DP-1").left.filterMap (fun entry => entry.2.promoted) ++
        (s.traces "DP-1").pending = [1] := by
  have hrun : ((System.replay (OsdRun.after fun _ => true)
      ⟨.withTiming 4 5000000 1000, 0, fun _ => .empty⟩ sampleOperations).any fun s =>
        (s.router.queue "DP-1").current.map (·.label) = some "microphone" ∧
          (s.traces "DP-1").enqueued = [1]) = true := by
    decide
  obtain ⟨s, hs, hend⟩ := (Option.any_eq_true _ _).mp hrun
  obtain ⟨hcurrent, henqueued⟩ := of_decide_eq_true hend
  have hreachable : (osdSystem (fun _ => true) 4 5000000 1000).Reachable s :=
    System.reachable_replay (.initial ⟨rfl, rfl⟩) hs
  refine ⟨s, hreachable, hcurrent, henqueued, ?_⟩
  rw [← ((osd_routing hreachable).1 "DP-1").promoted, henqueued]

end Sample

end Osd
end SleepySession
