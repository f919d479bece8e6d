import Mathlib.Tactic

/-!
# Finite tables

A table is a list of keys with their values in which no key occurs twice.
-/

namespace SleepySession

structure Table (κ α : Type) where
  entries : List (κ × α)
  nodup : (entries.map Prod.fst).Nodup
deriving DecidableEq

namespace Table

variable {κ α : Type}

def empty : Table κ α :=
  ⟨[], by simp⟩

/-- Keep the entries whose key satisfies `p`. -/
def retain (t : Table κ α) (p : κ → Bool) : Table κ α :=
  ⟨t.entries.filter fun e => p e.1,
    t.nodup.sublist (List.filter_sublist.map Prod.fst)⟩

def keys (t : Table κ α) : List κ :=
  t.entries.map Prod.fst

section Lookup

variable [DecidableEq κ]

def get? (t : Table κ α) (k : κ) : Option α :=
  (t.entries.find? fun e => e.1 = k).map Prod.snd

def contains (t : Table κ α) (k : κ) : Bool :=
  (t.get? k).isSome

def remove (t : Table κ α) (k : κ) : Table κ α :=
  t.retain fun k' => decide (k' ≠ k)

def insert (t : Table κ α) (k : κ) (a : α) : Table κ α where
  entries := (k, a) :: (t.remove k).entries
  nodup := by
    rw [List.map_cons, List.nodup_cons]
    refine ⟨?_, (t.remove k).nodup⟩
    simp [remove, retain]

variable {t : Table κ α} {k k' : κ} {a : α}

/-- The value of a key is the one that is listed with it. -/
theorem get?_eq_some_iff :
    t.get? k = some a ↔ (k, a) ∈ t.entries := by
  constructor
  · intro h
    obtain ⟨e, he, rfl⟩ := Option.map_eq_some_iff.mp h
    have hkey : e.1 = k := by simpa using List.find?_some he
    rw [← hkey]
    exact List.mem_of_find?_eq_some he
  · intro h
    cases hfind : t.entries.find? fun e => e.1 = k with
    | none =>
        have hnone := List.find?_eq_none.mp hfind (k, a) h
        simp at hnone
    | some e =>
        have hkey : e.1 = k := by simpa using List.find?_some hfind
        have hmem : e ∈ t.entries := List.mem_of_find?_eq_some hfind
        have heq : e = (k, a) :=
          List.inj_on_of_nodup_map t.nodup hmem h hkey
        simp [get?, hfind, heq]

@[simp] theorem get?_empty : (empty : Table κ α).get? k = none :=
  rfl

@[simp] theorem get?_retain
    (p : κ → Bool) :
    (t.retain p).get? k = if p k then t.get? k else none := by
  ext a
  rw [get?_eq_some_iff]
  by_cases h : p k
  · rw [if_pos h, get?_eq_some_iff]
    simp [retain, h]
  · simp [retain, h]

@[simp] theorem get?_remove :
    (t.remove k).get? k' = if k' = k then none else t.get? k' := by
  simp [remove]

@[simp] theorem get?_insert :
    (t.insert k a).get? k' = if k' = k then some a else t.get? k' := by
  ext b
  rw [get?_eq_some_iff]
  by_cases h : k' = k
  · subst h
    simp [insert, remove, retain, eq_comm]
  · have hremoved : (t.remove k).get? k' = some b ↔ (k', b) ∈ (t.remove k).entries :=
      get?_eq_some_iff
    rw [if_neg h]
    simp only [get?_remove, if_neg h] at hremoved
    simp [insert, h, hremoved]

theorem contains_eq_true_iff :
    t.contains k = true ↔ ∃ a, t.get? k = some a :=
  Option.isSome_iff_exists

theorem entries_insert_of_get?_eq_none (h : t.get? k = none) :
    (t.insert k a).entries = (k, a) :: t.entries := by
  have hother : ∀ e ∈ t.entries, decide (e.1 ≠ k) = true := by
    rintro ⟨k', b⟩ he
    rw [decide_eq_true_eq]
    rintro rfl
    rw [get?_eq_some_iff.mpr he] at h
    cases h
  exact congrArg _ (List.filter_eq_self.mpr hother)

/-- A table that is filled in a loop. -/
theorem get?_foldl_insert {β : Type} {key : β → κ} {value : β → α} {xs : List β}
    (h : (xs.map key).Nodup) {t : Table κ α} {k : κ} {a : α} :
    (xs.foldl (fun t x => t.insert (key x) (value x)) t).get? k = some a ↔
      (∃ x ∈ xs, key x = k ∧ value x = a) ∨ (∀ x ∈ xs, key x ≠ k) ∧ t.get? k = some a := by
  induction xs generalizing t with
  | nil => simp
  | cons x xs ih =>
      obtain ⟨hx, hxs⟩ := List.nodup_cons.mp h
      rw [List.foldl_cons, ih hxs, get?_insert]
      by_cases hk : key x = k
      · subst hk
        have hother : ∀ y ∈ xs, key y ≠ key x := fun y hy hkey =>
          hx (hkey ▸ List.mem_map_of_mem hy)
        rw [if_pos rfl]
        constructor
        · rintro (⟨y, hy, hkey, -⟩ | ⟨-, hvalue⟩)
          · exact absurd hkey (hother y hy)
          · exact Or.inl ⟨x, List.mem_cons_self, rfl, Option.some.inj hvalue⟩
        · rintro (⟨y, hy, hkey, hvalue⟩ | ⟨hnone, -⟩)
          · rcases List.mem_cons.mp hy with rfl | hy
            · exact Or.inr ⟨hother, congrArg some hvalue⟩
            · exact absurd hkey (hother y hy)
          · exact absurd rfl (hnone x List.mem_cons_self)
      · rw [if_neg (Ne.symm hk)]
        simp [hk]

end Lookup

end Table

end SleepySession
