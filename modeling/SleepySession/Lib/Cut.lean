import Mathlib.Tactic

/-!
# Readers of an ordered sequence

A reader goes through a sequence whose keys increase and remembers the greatest
key it has seen.  It joined at one position and stands at another: what lies
before the later of the two it has seen, what lies behind it is new.
-/

namespace SleepySession

variable {α : Type} {key : α → Nat} {l : List α} {cursor joined position last : Nat} {e : α}

/-- `last` separates the sequence at a position. -/
structure CutAt (key : α → Nat) (l : List α) (position last : Nat) : Prop where
  below : ∀ e ∈ l.take position, key e ≤ last
  above : ∀ e ∈ l.drop position, last < key e

namespace CutAt

theorem append (h : CutAt key l position last) (hposition : position ≤ l.length)
    (he : last < key e) : CutAt key (l ++ [e]) position last := by
  refine ⟨?_, ?_⟩
  · rw [List.take_append_of_le_length hposition]
    exact h.below
  · rw [List.drop_append_of_le_length hposition, List.forall_mem_append]
    exact ⟨h.above, List.forall_mem_singleton.mpr he⟩

theorem drop_eq_cons (hget : l[cursor]? = some e) : l.drop cursor = e :: l.drop (cursor + 1) := by
  obtain ⟨hlt, rfl⟩ := List.getElem?_eq_some_iff.mp hget
  exact List.drop_eq_getElem_cons hlt

theorem take_succ (hget : l[cursor]? = some e) : l.take (cursor + 1) = l.take cursor ++ [e] := by
  rw [List.take_add_one, hget]
  rfl

/-- An element that is new to the reader lies behind the position where it joined. -/
theorem new (h : CutAt key l (max cursor joined) last)
    (hordered : l.Pairwise fun a b => key a < key b) (hget : l[cursor]? = some e)
    (hnew : last < key e) :
    joined ≤ cursor ∧ CutAt key l (max (cursor + 1) joined) (key e) := by
  have hjoined : joined ≤ cursor := by
    by_contra hcontra
    have hmem : e ∈ l.take (max cursor joined) := by
      obtain ⟨hlt, rfl⟩ := List.getElem?_eq_some_iff.mp hget
      exact List.mem_take_iff_getElem.mpr ⟨cursor, by omega, rfl⟩
    exact absurd (h.below e hmem) (by omega)
  have hmax : max (cursor + 1) joined = cursor + 1 := by omega
  rw [← List.take_append_drop cursor l, drop_eq_cons hget, List.pairwise_append] at hordered
  obtain ⟨-, hright, hcross⟩ := hordered
  refine ⟨hjoined, ?_, ?_⟩
  · rw [hmax, take_succ hget, List.forall_mem_append]
    exact ⟨fun a ha => (hcross a ha e List.mem_cons_self).le, List.forall_mem_singleton.mpr le_rfl⟩
  · rw [hmax]
    exact (List.pairwise_cons.mp hright).1

/-- An element that the reader has seen lies before that position. -/
theorem old (h : CutAt key l (max cursor joined) last) (hget : l[cursor]? = some e)
    (hold : ¬ last < key e) :
    cursor < joined ∧ CutAt key l (max (cursor + 1) joined) last := by
  have hjoined : cursor < joined := by
    by_contra hcontra
    have hmax : max cursor joined = cursor := by omega
    have hmem : e ∈ l.drop (max cursor joined) := by
      rw [hmax, drop_eq_cons hget]
      exact List.mem_cons_self
    exact hold (h.above e hmem)
  have hmax : max (cursor + 1) joined = max cursor joined := by omega
  exact ⟨hjoined, hmax.symm ▸ h⟩

/-- Up to the position where it joined a reader gets nothing. -/
theorem window_before (h : cursor ≤ joined) : (l.take cursor).drop joined = [] :=
  List.drop_of_length_le ((List.length_take_le _ _).trans h)

theorem window_succ (hget : l[cursor]? = some e) (hjoined : joined ≤ cursor) :
    (l.take (cursor + 1)).drop joined = (l.take cursor).drop joined ++ [e] := by
  obtain ⟨hlt, -⟩ := List.getElem?_eq_some_iff.mp hget
  have hlength : joined ≤ (l.take cursor).length := by
    rw [List.length_take]
    omega
  rw [take_succ hget, List.drop_append_of_le_length hlength]

/-- What the reader got since it joined, and what is still to come. -/
theorem drop_joined (hcursor : cursor ≤ l.length) :
    l.drop joined = (l.take cursor).drop joined ++ l.drop (max cursor joined) := by
  rcases Nat.le_total joined cursor with hle | hle
  · have hlength : joined ≤ (l.take cursor).length := by
      rw [List.length_take]
      omega
    rw [max_eq_left hle, ← List.drop_append_of_le_length hlength, List.take_append_drop]
  · rw [max_eq_right hle, window_before hle, List.nil_append]

/-- Of what lies behind the reader it will take what is new to it. -/
theorem filter_drop (h : CutAt key l (max cursor joined) last) (hcursor : cursor ≤ l.length) :
    (l.drop cursor).filter (fun e => decide (last < key e)) = l.drop (max cursor joined) := by
  have hlength : cursor ≤ (l.take (max cursor joined)).length := by
    rw [List.length_take]
    omega
  have hparts : l.drop cursor =
      (l.take (max cursor joined)).drop cursor ++ l.drop (max cursor joined) := by
    rw [← List.drop_append_of_le_length hlength, List.take_append_drop]
  have hseen : ((l.take (max cursor joined)).drop cursor).filter
      (fun e => decide (last < key e)) = [] :=
    List.filter_eq_nil_iff.mpr fun e he => by
      simpa using h.below e (List.mem_of_mem_drop he)
  have hnew : (l.drop (max cursor joined)).filter (fun e => decide (last < key e)) =
      l.drop (max cursor joined) :=
    List.filter_eq_self.mpr fun e he => by simpa using h.above e he
  rw [hparts, List.filter_append, hseen, hnew, List.nil_append]

/-- A reader takes the next element when it is new to it. -/
theorem filter_drop_new (hordered : l.Pairwise fun a b => key a < key b)
    (hget : l[cursor]? = some e) (hnew : last < key e) :
    (l.drop cursor).filter (fun a => decide (last < key a)) =
      e :: (l.drop (cursor + 1)).filter (fun a => decide (key e < key a)) := by
  have hsorted : (e :: l.drop (cursor + 1)).Pairwise fun a b => key a < key b := by
    rw [← drop_eq_cons hget]
    exact hordered.sublist (List.drop_sublist _ _)
  rw [drop_eq_cons hget, List.filter_cons_of_pos (by simpa using hnew)]
  congr 1
  refine List.filter_congr fun a ha => ?_
  have hafter := (List.pairwise_cons.mp hsorted).1 a ha
  simp only [hafter, hnew.trans hafter]

/-- A reader passes over the next element when it has seen it. -/
theorem filter_drop_old (hget : l[cursor]? = some e) (hold : ¬ last < key e) :
    (l.drop cursor).filter (fun a => decide (last < key a)) =
      (l.drop (cursor + 1)).filter (fun a => decide (last < key a)) := by
  rw [drop_eq_cons hget, List.filter_cons_of_neg (by simpa using hold)]

end CutAt

end SleepySession
