import SleepySession.Lib.Transition

/-!
# Runs of a partial step function

A system whose steps are computed: an event is possible where the step function
has a result.  A list of events is replayed from a state, which is how concrete
runs are shown to be runs.
-/

namespace SleepySession

namespace System

variable {σ ε : Type}

/-- The system of a partial step function. -/
def ofStep (initial : σ → Prop) (after : σ → ε → Option σ) : System σ ε where
  initial := initial
  step s e s' := after s e = some s'

/-- The state after a list of events, if all of them are possible. -/
def replay (after : σ → ε → Option σ) (s : σ) : List ε → Option σ
  | [] => some s
  | e :: rest => (after s e).bind fun s' => replay after s' rest

/-- The condition holds before each event of the list. -/
def AllMeet (after : σ → ε → Option σ) (condition : σ → ε → Prop) (s : σ) : List ε → Prop
  | [] => True
  | e :: rest => condition s e ∧ ∀ s', after s e = some s' → AllMeet after condition s' rest

theorem reachable_restrict_replay
    {initial : σ → Prop} {after : σ → ε → Option σ} {condition : σ → ε → Prop}
    {events : List ε} {s s' : σ}
    (hs : ((ofStep initial after).restrict condition).Reachable s)
    (hmeet : AllMeet after condition s events)
    (h : replay after s events = some s') :
    ((ofStep initial after).restrict condition).Reachable s' := by
  induction events generalizing s with
  | nil =>
      cases h
      exact hs
  | cons e rest ih =>
      obtain ⟨t, ht, hrest⟩ := Option.bind_eq_some_iff.mp h
      exact ih (.step hs ⟨hmeet.1, ht⟩) (hmeet.2 t ht) hrest

theorem reachable_replay
    {initial : σ → Prop} {after : σ → ε → Option σ}
    {events : List ε} {s s' : σ}
    (hs : (ofStep initial after).Reachable s)
    (h : replay after s events = some s') :
    (ofStep initial after).Reachable s' := by
  induction events generalizing s with
  | nil =>
      cases h
      exact hs
  | cons e rest ih =>
      obtain ⟨t, ht, hrest⟩ := Option.bind_eq_some_iff.mp h
      exact ih (.step hs ht) hrest

end System

end SleepySession
