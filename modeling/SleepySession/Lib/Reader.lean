import Mathlib.Logic.Relation
import Mathlib.Tactic

/-!
# Readers

A reader has a queue and returns one element of it after the other.  A call may
take several rounds before it returns, because it passes over what it does not
return.  Rounds that return or come closer to it make every call return the
first element of the queue.
-/

namespace SleepySession

/-- What one round does, what is queued and what the calls have returned so far. -/
structure Reader (σ ε : Type) where
  round : σ → Option σ
  queue : σ → List ε
  returned : σ → List ε

namespace Reader

variable {σ ε : Type} {r : Reader σ ε} {P : σ → Prop} {size : σ → Nat} {s : σ} {e : ε}
variable {rest : List ε}

/-- A call that begins in `s` takes the first element of the queue and returns it. -/
structure Returns (r : Reader σ ε) (s : σ) (e : ε) (s' : σ) : Prop where
  rounds : Relation.ReflTransGen (fun s s' => r.round s = some s') s s'
  taken : r.queue s = e :: r.queue s'
  returned : r.returned s' = r.returned s ++ [e]

/-- While something is queued, a round returns its first element or comes closer to it. -/
def Advances (r : Reader σ ε) (P : σ → Prop) (size : σ → Nat) : Prop :=
  ∀ s e rest, P s → r.queue s = e :: rest → ∃ s', r.round s = some s' ∧
    (r.queue s' = rest ∧ r.returned s' = r.returned s ++ [e] ∨
      P s' ∧ r.queue s' = e :: rest ∧ r.returned s' = r.returned s ∧ size s' < size s)

/-- The calls of a reader that advances return what is queued, in order. -/
theorem Advances.returns (h : r.Advances P size) (hs : P s) (hqueue : r.queue s = e :: rest) :
    ∃ s', r.Returns s e s' ∧ r.queue s' = rest := by
  -- by induction on how far the call is from its element
  induction hsize : size s using Nat.strong_induction_on generalizing s with
  | _ n ih =>
      obtain ⟨t, hround, hreturned | ⟨ht, hkept, hsame, hless⟩⟩ := h s e rest hs hqueue
      · exact ⟨t, ⟨.single hround, hreturned.1 ▸ hqueue, hreturned.2⟩, hreturned.1⟩
      · obtain ⟨s', hreturns, hrest⟩ := ih (size t) (hsize ▸ hless) ht hkept rfl
        refine ⟨s', ⟨.head hround hreturns.rounds, ?_, ?_⟩, hrest⟩
        · rw [hrest]
          exact hqueue
        · rw [hreturns.returned, hsame]

end Reader

end SleepySession
