import SleepySession.Lib.Run
import SleepySession.Store.Text

/-!
# The router of on-screen events

One queue for each output: an event on display since some time, and a bounded
number of events behind it.  An event of the same kind as the one on display
takes its place; time moves the queue on, by several events at once if need
be.  Kinds, levels and the validation of an event are parameters; times are
nanoseconds.
-/

namespace SleepySession
namespace Osd

structure OsdEvent (κ ℓ : Type) where
  schemaVersion : Nat
  outputId : String
  kind : κ
  level : Option ℓ
  muted : Option Bool
  label : String
deriving DecidableEq, Repr

structure FocusedOsdRequest (κ ℓ : Type) where
  kind : κ
  level : Option ℓ
  muted : Option Bool
  label : String

inductive OsdRouteError where
  | missingFocus
  | staleFocus
  | invalidEvent
  | runtimeStopped
deriving DecidableEq, Repr

structure FocusedOutput where
  outputId : String
  observedAt : Nat
deriving DecidableEq, Repr

structure OutputQueue (κ ℓ : Type) where
  current : Option (OsdEvent κ ℓ)
  currentSince : Option Nat
  pending : List (OsdEvent κ ℓ)
  overflowCount : Nat
deriving DecidableEq, Repr

/-- `OutputQueue::default`. -/
def OutputQueue.empty {κ ℓ : Type} : OutputQueue κ ℓ where
  current := none
  currentSince := none
  pending := []
  overflowCount := 0

structure OsdRouter (κ ℓ : Type) where
  pendingCapacity : Nat
  displayTimeout : Nat
  focusTtl : Nat
  focusedOutput : Option FocusedOutput
  outputs : String → Option (OutputQueue κ ℓ)

/-- `u64::saturating_add` of one. -/
def saturatingSucc (n : Nat) : Nat :=
  min (n + 1) (2 ^ 64 - 1)

section Queues

variable {κ ℓ : Type} [DecidableEq κ]

/-- What `push_at` does to the queue of the event's output. -/
def OutputQueue.push
    (q : OutputQueue κ ℓ) (capacity : Nat) (event : OsdEvent κ ℓ) (now : Nat) :
    OutputQueue κ ℓ × Bool :=
  match q.current with
  | none => ({ q with current := some event, currentSince := some now }, true)
  | some current =>
      if current.kind = event.kind then
        ({ q with current := some event, currentSince := some now }, true)
      else if q.pending.length < capacity then
        ({ q with pending := q.pending ++ [event] }, true)
      else ({ q with overflowCount := saturatingSucc q.overflowCount }, false)

/-- The next event comes on display, if there is one. -/
def OutputQueue.promote (q : OutputQueue κ ℓ) (since : Nat) : OutputQueue κ ℓ :=
  { q with
    current := q.pending.head?
    pending := q.pending.tail
    currentSince := q.pending.head?.map fun _ => since }

/-- The time since which an event is on display whose display has timed out. -/
def OutputQueue.expired (q : OutputQueue κ ℓ) (timeout now : Nat) : Option Nat :=
  q.currentSince.filter fun since => decide (since ≤ now ∧ timeout ≤ now - since)

/-- The loop of `advance_time`; `fuel` bounds the number of rounds. -/
def OutputQueue.advanceLoop (timeout now : Nat) : Nat → OutputQueue κ ℓ → OutputQueue κ ℓ
  | 0, q => q
  | fuel + 1, q =>
      match q.expired timeout now with
      | none => q
      | some since => advanceLoop timeout now fuel (q.promote (since + timeout))

/-- Every round takes an event from the queue, so one round more than there are events ends it. -/
def OutputQueue.advance (q : OutputQueue κ ℓ) (timeout now : Nat) : OutputQueue κ ℓ :=
  advanceLoop timeout now (q.pending.length + 1) q

end Queues

namespace OsdRouter

section Operations

variable {κ ℓ : Type} [DecidableEq κ]

/-- `OsdRouter::with_timing`. -/
def withTiming (pendingCapacity displayTimeout focusTtl : Nat) : OsdRouter κ ℓ where
  pendingCapacity := pendingCapacity
  displayTimeout := max displayTimeout 1000000
  focusTtl := focusTtl
  focusedOutput := none
  outputs := fun _ => none

/-- `OsdRouter::push_at`. -/
def pushAt (r : OsdRouter κ ℓ) (event : OsdEvent κ ℓ) (now : Nat) : OsdRouter κ ℓ × Bool :=
  let queue := (r.outputs event.outputId).getD .empty
  let (queue, accepted) := queue.push r.pendingCapacity event now
  ({ r with outputs := Function.update r.outputs event.outputId (some queue) }, accepted)

/-- `OsdRouter::observe_niri_focus`. -/
def observeNiriFocus
    (r : OsdRouter κ ℓ) (focusedOutputId : Option String) (observedAt : Nat) : OsdRouter κ ℓ :=
  { r with
    focusedOutput := focusedOutputId.bind fun outputId =>
      if blank outputId then none else some ⟨outputId, observedAt⟩ }

/-- The wire version that events carry. -/
def wireSchemaVersion : Nat :=
  1

/-- The event of a request, or why there is none. -/
def focusedEvent
    (validate : OsdEvent κ ℓ → Bool)
    (r : OsdRouter κ ℓ) (request : FocusedOsdRequest κ ℓ) (now : Nat) :
    Except OsdRouteError (OsdEvent κ ℓ) :=
  match r.focusedOutput with
  | none => .error .missingFocus
  | some focused =>
      if now < focused.observedAt then .error .staleFocus
      else if r.focusTtl < now - focused.observedAt then .error .staleFocus
      else
        let event : OsdEvent κ ℓ := {
          schemaVersion := wireSchemaVersion
          outputId := focused.outputId
          kind := request.kind
          level := request.level
          muted := request.muted
          label := request.label }
        if validate event then .ok event else .error .invalidEvent

/-- `OsdRouter::push_focused`. -/
def pushFocused
    (validate : OsdEvent κ ℓ → Bool)
    (r : OsdRouter κ ℓ) (request : FocusedOsdRequest κ ℓ) (now : Nat) :
    OsdRouter κ ℓ × Except OsdRouteError Bool :=
  match r.focusedEvent validate request now with
  | .error e => (r, .error e)
  | .ok event =>
      let (r, accepted) := r.pushAt event now
      (r, .ok accepted)

/-- `OsdRouter::advance_time`. -/
def advanceTime (r : OsdRouter κ ℓ) (now : Nat) : OsdRouter κ ℓ :=
  { r with outputs := fun output => (r.outputs output).map (·.advance r.displayTimeout now) }

/-- `OsdRouter::complete` at the time that the clock shows. -/
def complete (r : OsdRouter κ ℓ) (outputId : String) (now : Nat) : OsdRouter κ ℓ :=
  match r.outputs outputId with
  | none => r
  | some queue => { r with outputs := Function.update r.outputs outputId (some (queue.promote now)) }

end Operations

end OsdRouter

section Time

variable {κ ℓ : Type} {q : OutputQueue κ ℓ} {timeout now : Nat}

@[simp] theorem OutputQueue.promote_pending (since : Nat) :
    (q.promote since).pending = q.pending.tail :=
  rfl

theorem OutputQueue.expired_eq_some {since : Nat} :
    q.expired timeout now = some since ↔
      q.currentSince = some since ∧ since ≤ now ∧ timeout ≤ now - since := by
  simp [expired, Option.filter_eq_some_iff]

/-- With nothing behind it an expired event leaves an empty display. -/
theorem OutputQueue.expired_promote_nil (h : q.pending = []) (since : Nat) :
    (q.promote since).expired timeout now = none := by
  simp [promote, expired, h]

/-- More rounds than events change nothing. -/
theorem OutputQueue.advanceLoop_fuel {fuel fuel' : Nat}
    (hfuel : q.pending.length < fuel) (hfuel' : q.pending.length < fuel') :
    advanceLoop timeout now fuel q = advanceLoop timeout now fuel' q := by
  induction fuel generalizing q fuel' with
  | zero => omega
  | succ fuel ih =>
      obtain ⟨fuel', rfl⟩ : ∃ n, fuel' = n + 1 := ⟨fuel' - 1, by omega⟩
      simp only [advanceLoop]
      cases hexpired : q.expired timeout now with
      | none => rfl
      | some since =>
          cases hpending : q.pending with
          | nil =>
              have hnone : ∀ n, advanceLoop timeout now n (q.promote (since + timeout)) =
                  q.promote (since + timeout) := by
                intro n
                cases n with
                | zero => rfl
                | succ n => simp only [advanceLoop, expired_promote_nil hpending]
              simp only [hnone]
          | cons event rest =>
              refine ih ?_ ?_ <;> simp [hpending] at hfuel hfuel' ⊢ <;> omega

/-- One round and then the rest. -/
theorem OutputQueue.advance_eq :
    q.advance timeout now =
      match q.expired timeout now with
      | none => q
      | some since => (q.promote (since + timeout)).advance timeout now := by
  rw [advance, advanceLoop]
  cases hexpired : q.expired timeout now with
  | none => rfl
  | some since =>
      dsimp only
      cases hpending : q.pending with
      | nil =>
          simp only [List.length_nil, advanceLoop, advance]
          rw [expired_promote_nil hpending]
      | cons event rest =>
          refine advanceLoop_fuel ?_ ?_ <;> simp [hpending]

/-- What has expired at a time has expired at any later time. -/
theorem OutputQueue.expired_mono {now' since : Nat} (hle : now ≤ now')
    (h : q.expired timeout now = some since) : q.expired timeout now' = some since := by
  rw [expired_eq_some] at h ⊢
  exact ⟨h.1, by omega, by omega⟩

theorem OutputQueue.advance_of_not_expired (h : q.expired timeout now = none) :
    q.advance timeout now = q := by
  rw [advance_eq, h]

theorem OutputQueue.advance_of_expired {since : Nat} (h : q.expired timeout now = some since) :
    q.advance timeout now = (q.promote (since + timeout)).advance timeout now := by
  rw [advance_eq, h]

/-- Advancing in two steps is advancing in one. -/
theorem OutputQueue.advance_advance {now' : Nat} (hle : now ≤ now') :
    (q.advance timeout now).advance timeout now' = q.advance timeout now' := by
  induction hn : q.pending.length generalizing q with
  | zero =>
      have hnil : q.pending = [] := List.length_eq_zero_iff.mp hn
      cases hexpired : q.expired timeout now with
      | none => rw [advance_of_not_expired hexpired]
      | some since =>
          rw [advance_of_expired hexpired, advance_of_expired (expired_mono hle hexpired),
            advance_of_not_expired (expired_promote_nil hnil (since + timeout))]
  | succ n ih =>
      cases hexpired : q.expired timeout now with
      | none => rw [advance_of_not_expired hexpired]
      | some since =>
          rw [advance_of_expired hexpired, advance_of_expired (expired_mono hle hexpired)]
          exact ih (by simp [hn])

theorem OsdRouter.advanceTime_advanceTime {r : OsdRouter κ ℓ} {now now' : Nat} (hle : now ≤ now') :
    (r.advanceTime now).advanceTime now' = r.advanceTime now' := by
  simp only [OsdRouter.advanceTime, Option.map_map]
  congr 1
  funext output
  cases r.outputs output with
  | none => rfl
  | some queue => simp [OutputQueue.advance_advance hle]

end Time

end Osd
end SleepySession
