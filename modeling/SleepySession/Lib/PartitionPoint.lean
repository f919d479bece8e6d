import Mathlib.Tactic

/-!
# Binary search for a partition point

`slice::partition_point`: the binary search of the standard library.  On a list
that is partitioned by the predicate it finds the border; on any other list it
still answers with a place of the list.
-/

namespace SleepySession

variable {α : Type} (pred : α → Bool) (xs : List α)

/-- The halving loop; `fuel` bounds the number of rounds. -/
def partitionLoop : Nat → Nat → Nat → Nat
  | 0, _, base => base
  | fuel + 1, size, base =>
      if 1 < size then
        let half := size / 2
        let mid := base + half
        partitionLoop fuel (size - half) (if xs[mid]?.any pred then mid else base)
      else base

/-- `slice::partition_point`. -/
def partitionPoint : Nat :=
  if xs.isEmpty then 0
  else
    let base := partitionLoop pred xs xs.length xs.length 0
    base + if xs[base]?.any pred then 1 else 0

variable {pred xs}

/-- The place found lies in the part that is left. -/
theorem partitionLoop_lt
    {fuel size base : Nat} (hsize : 0 < size) (hbase : base + size ≤ xs.length) :
    partitionLoop pred xs fuel size base < xs.length := by
  induction fuel generalizing size base with
  | zero =>
      simp only [partitionLoop]
      omega
  | succ fuel ih =>
      simp only [partitionLoop]
      split
      · split <;> exact ih (by omega) (by omega)
      · omega

theorem partitionPoint_le : partitionPoint pred xs ≤ xs.length := by
  unfold partitionPoint
  split
  · exact Nat.zero_le _
  · rename_i hne
    have hpos : 0 < xs.length := by
      cases xs with
      | nil => simp at hne
      | cons x rest => simp
    have := @partitionLoop_lt _ pred xs xs.length _ 0 hpos (by omega)
    dsimp only
    split <;> omega

/-- The elements before the border satisfy the predicate, those from the border on do not. -/
def Partitioned (pred : α → Bool) (xs : List α) (border : Nat) : Prop :=
  border ≤ xs.length ∧ ∀ i (h : i < xs.length), pred xs[i] = true ↔ i < border

theorem Partitioned.any_iff
    {border : Nat} (h : Partitioned pred xs border) {i : Nat} (hi : i < xs.length) :
    xs[i]?.any pred = true ↔ i < border := by
  rw [List.getElem?_eq_getElem hi, Option.any_some]
  exact h.2 i hi

/-- The border stays between the base and the end of the part that is left. -/
theorem partitionLoop_spec
    {border : Nat} (h : Partitioned pred xs border)
    {fuel size base : Nat} (hfuel : size ≤ fuel + 1) (hsize : 0 < size)
    (hbase : base + size ≤ xs.length)
    (hlow : base = 0 ∨ base < border) (hhigh : border ≤ base + size) :
    let place := partitionLoop pred xs fuel size base
    (place = 0 ∨ place < border) ∧ border ≤ place + 1 := by
  induction fuel generalizing size base with
  | zero =>
      simp only [partitionLoop]
      exact ⟨hlow, by omega⟩
  | succ fuel ih =>
      simp only [partitionLoop]
      split
      · have hmid := h.any_iff (show base + size / 2 < xs.length by omega)
        split
        · rename_i hany
          exact ih (by omega) (by omega) (by omega) (Or.inr (hmid.mp hany)) (by omega)
        · rename_i hany
          have hborder : border ≤ base + size / 2 := by
            by_contra hcontra
            exact hany (hmid.mpr (by omega))
          exact ih (by omega) (by omega) (by omega) hlow (by omega)
      · exact ⟨hlow, by omega⟩

/-- On a partitioned list the search finds the border. -/
theorem partitionPoint_eq {border : Nat} (h : Partitioned pred xs border) :
    partitionPoint pred xs = border := by
  unfold partitionPoint
  split
  · rename_i hempty
    have := h.1
    simp_all
  · rename_i hne
    have hpos : 0 < xs.length := by
      cases xs with
      | nil => simp at hne
      | cons x rest => simp
    have hle := h.1
    obtain ⟨hlow, hhigh⟩ := @partitionLoop_spec _ pred xs _ h xs.length xs.length 0
      (by omega) hpos (by omega) (Or.inl rfl) (by omega)
    have hplace := @partitionLoop_lt _ pred xs xs.length _ 0 hpos (by omega)
    have hany := h.any_iff hplace
    dsimp only
    split
    · rename_i hsome
      have := hany.mp hsome
      omega
    · rename_i hnone
      have : ¬ partitionLoop pred xs xs.length xs.length 0 < border := fun hlt =>
        hnone (hany.mpr hlt)
      omega

/-- A list on which the predicate stops once and for all is partitioned. -/
theorem partitioned_countP (h : xs.Pairwise fun a b => pred b = true → pred a = true) :
    Partitioned pred xs (xs.countP pred) := by
  induction xs with
  | nil => simp [Partitioned]
  | cons a rest ih =>
      obtain ⟨hhead, htail⟩ := List.pairwise_cons.mp h
      obtain ⟨hle, hrest⟩ := ih htail
      by_cases ha : pred a = true
      · refine ⟨List.countP_le_length, fun i hi => ?_⟩
        rw [List.countP_cons_of_pos ha]
        cases i with
        | zero => simpa using ha
        | succ i => simpa using hrest i (by simpa using hi)
      · have hnone : ∀ b ∈ rest, ¬ pred b = true := fun b hb hpred => ha (hhead b hb hpred)
        have hzero : (a :: rest).countP pred = 0 := by
          rw [List.countP_eq_zero]
          intro b hb
          rcases List.mem_cons.mp hb with rfl | hb
          · exact ha
          · exact hnone b hb
        refine ⟨by omega, fun i hi => ?_⟩
        rw [hzero]
        have hnot : ¬ pred (a :: rest)[i] = true :=
          List.countP_eq_zero.mp hzero _ (List.getElem_mem hi)
        simp [hnot]

end SleepySession
