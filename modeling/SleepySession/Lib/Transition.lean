import Mathlib.Tactic

/-!
# Transition systems

States, events and the steps they cause.  `Reachable` collects the states of
all finite runs; `restrict` keeps the steps that meet a condition on the state
and the event.  An invariant needs one lemma about a single step.
-/

namespace SleepySession

/-- A transition system with labelled steps. -/
structure System (σ ε : Type) where
  initial : σ → Prop
  step : σ → ε → σ → Prop

namespace System

variable {σ ε : Type}

/-- The states of all finite runs. -/
inductive Reachable (sys : System σ ε) : σ → Prop where
  | initial {s : σ} (h : sys.initial s) : Reachable sys s
  | step {s s' : σ} {e : ε}
      (h : Reachable sys s) (hstep : sys.step s e s') : Reachable sys s'

/-- The runs all of whose steps meet a condition. -/
def restrict (sys : System σ ε) (condition : σ → ε → Prop) : System σ ε where
  initial := sys.initial
  step s e s' := condition s e ∧ sys.step s e s'

/-- What holds initially and is kept by every step holds in every run. -/
theorem Reachable.invariant
    {sys : System σ ε}
    {I : σ → Prop}
    (hinitial : ∀ s, sys.initial s → I s)
    (hstep : ∀ s e s', I s → sys.step s e s' → I s')
    {s : σ}
    (h : sys.Reachable s) :
    I s := by
  induction h with
  | initial h => exact hinitial _ h
  | step _ hs ih => exact hstep _ _ _ ih hs

end System

end SleepySession
