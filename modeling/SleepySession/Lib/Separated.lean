import Mathlib.Tactic

/-!
# Lengths of lists with separators

A list is written with a separator between its elements.  Who counts one for
each element counts at least what is written.
-/

namespace SleepySession

variable {α : Type} {length : α → Nat} {xs ys : List α} {x : α}

/-- The elements with a separator between them. -/
def separatedLength (length : α → Nat) (xs : List α) : Nat :=
  (xs.map length).sum + (xs.length - 1)

/-- The elements with a separator for each. -/
def charged (length : α → Nat) (xs : List α) : Nat :=
  (xs.map fun x => length x + 1).sum

@[simp] theorem charged_nil : charged length ([] : List α) = 0 :=
  rfl

@[simp] theorem charged_append :
    charged length (xs ++ ys) = charged length xs + charged length ys := by
  simp [charged]

@[simp] theorem charged_singleton : charged length [x] = length x + 1 :=
  Nat.add_zero _

theorem charged_eq : charged length xs = (xs.map length).sum + xs.length := by
  induction xs with
  | nil => rfl
  | cons x xs ih =>
      have hcons : charged length (x :: xs) = (length x + 1) + charged length xs :=
        List.sum_cons
      rw [hcons, ih, List.map_cons, List.sum_cons, List.length_cons]
      omega

/-- One separator for each element is enough. -/
theorem separatedLength_le : separatedLength length xs ≤ charged length xs := by
  rw [charged_eq, separatedLength]
  omega

theorem separatedLength_perm (h : xs.Perm ys) : separatedLength length xs = separatedLength length ys := by
  rw [separatedLength, separatedLength, (h.map length).sum_eq, h.length_eq]

end SleepySession
