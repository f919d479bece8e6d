import Mathlib.Tactic

/-!
# Lists with unique keys

A list whose elements carry different keys, read as a finite map.  Appending,
replacing and removing one element change the map at one key, and sorting the
list does not change it.
-/

namespace SleepySession

namespace Keyed

variable {α κ : Type} [DecidableEq κ] (key : α → κ)

/-- The first element with the given key. -/
def lookup (l : List α) (k : κ) : Option α :=
  l.find? fun x => key x = k

def Unique (l : List α) : Prop :=
  (l.map key).Nodup

instance (l : List α) : Decidable (Unique key l) :=
  inferInstanceAs (Decidable (l.map key).Nodup)

variable {key} {l l' : List α} {a b : α} {k : κ}

@[simp] theorem lookup_nil : lookup key [] k = none :=
  rfl

theorem lookup_cons :
    lookup key (a :: l) k = if key a = k then some a else lookup key l k := by
  by_cases h : key a = k <;> simp [lookup, h]

theorem mem_of_lookup
    (h : lookup key l k = some a) :
    a ∈ l ∧ key a = k :=
  ⟨List.mem_of_find?_eq_some h, by simpa using List.find?_some h⟩

theorem lookup_eq_none_iff :
    lookup key l k = none ↔ ∀ x ∈ l, key x ≠ k := by
  simp [lookup]

omit [DecidableEq κ] in
theorem unique_cons :
    Unique key (a :: l) ↔ (∀ x ∈ l, key x ≠ key a) ∧ Unique key l := by
  simp [Unique]

theorem lookup_of_mem
    (hl : Unique key l)
    (ha : a ∈ l) :
    lookup key l (key a) = some a := by
  induction l with
  | nil => simp at ha
  | cons x l ih =>
      obtain ⟨hx, hrest⟩ := unique_cons.mp hl
      rw [lookup_cons]
      rcases List.mem_cons.mp ha with rfl | ha
      · simp
      · rw [if_neg (fun heq => hx a ha heq.symm)]
        exact ih hrest ha

/-- The order of the elements does not matter. -/
theorem lookup_perm
    (hp : l.Perm l')
    (hl : Unique key l)
    (k : κ) :
    lookup key l' k = lookup key l k := by
  have hl' : Unique key l' := (hp.map key).nodup_iff.mp hl
  cases h : lookup key l k with
  | some x =>
      obtain ⟨hx, rfl⟩ := mem_of_lookup h
      exact lookup_of_mem hl' (hp.subset hx)
  | none =>
      rw [lookup_eq_none_iff] at h ⊢
      exact fun x hx => h x (hp.symm.subset hx)

theorem lookup_append
    (h : Unique key (l ++ [a]))
    (k : κ) :
    lookup key (l ++ [a]) k = if key a = k then some a else lookup key l k := by
  have hp : (a :: l).Perm (l ++ [a]) := (List.perm_append_singleton a l).symm
  have hcons : Unique key (a :: l) := (hp.map key).nodup_iff.mpr h
  rw [lookup_perm hp hcons k, lookup_cons]

theorem lookup_set
    {i : Nat}
    (hl : Unique key l)
    (hb : l[i]? = some b)
    (hkey : key a = key b)
    (k : κ) :
    lookup key (l.set i a) k = if key a = k then some a else lookup key l k := by
  induction l generalizing i with
  | nil => simp at hb
  | cons x l ih =>
      obtain ⟨hx, hrest⟩ := unique_cons.mp hl
      cases i with
      | zero =>
          obtain rfl : x = b := by simpa using hb
          rw [List.set_cons_zero, lookup_cons, lookup_cons]
          by_cases hk : key a = k
          · simp [hk]
          · simp [hk, ← hkey]
      | succ i =>
          have hb' : l[i]? = some b := by simpa using hb
          have hne : key a ≠ key x := by
            rw [hkey]
            exact hx b (List.mem_of_getElem? hb')
          rw [List.set_cons_succ, lookup_cons, lookup_cons, ih hrest hb']
          by_cases hk : key x = k
          · subst hk
            simp [hne]
          · simp [hk]

theorem lookup_eraseIdx
    {i : Nat}
    (hl : Unique key l)
    (hb : l[i]? = some b)
    (k : κ) :
    lookup key (l.eraseIdx i) k = if key b = k then none else lookup key l k := by
  induction l generalizing i with
  | nil => simp at hb
  | cons x l ih =>
      obtain ⟨hx, hrest⟩ := unique_cons.mp hl
      cases i with
      | zero =>
          obtain rfl : x = b := by simpa using hb
          rw [List.eraseIdx_cons_zero, lookup_cons]
          by_cases hk : key x = k
          · subst hk
            simpa [lookup_eq_none_iff] using hx
          · simp [hk]
      | succ i =>
          have hb' : l[i]? = some b := by simpa using hb
          have hne : key b ≠ key x := hx b (List.mem_of_getElem? hb')
          rw [List.eraseIdx_cons_succ, lookup_cons, lookup_cons, ih hrest hb']
          by_cases hk : key x = k
          · subst hk
            simp [hne]
          · simp [hk]

end Keyed

end SleepySession
