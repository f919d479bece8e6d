import SleepySession.Themes.Palette

/-!
# The colors that a palette takes

The background is the darkest color of the pixels and the accent the most
saturated one; ties are broken by frequency and by the order of the colors.
-/

namespace SleepySession
namespace Themes

section Statements

/-- The color with the least key; among those, the first one. -/
structure Darkest (pixels : List Pixel) (p : Pixel) : Prop where
  mem : p ∈ pixels
  least : ∀ q ∈ pixels, luminanceKey p < luminanceKey q ∨
    (luminanceKey p = luminanceKey q ∧ p.code ≤ q.code)

/-- The color with the greatest saturation; among those, the most frequent one, and among
those, the last one. -/
structure MostSaturated (pixels : List Pixel) (p : Pixel) : Prop where
  mem : p ∈ pixels
  greatest : ∀ q ∈ pixels, ¬ accentBelow (p, pixels.count p) (q, pixels.count q)

end Statements

section Colors

theorem Pixel.code_injective : Function.Injective Pixel.code := by
  rintro ⟨r, g, b⟩ ⟨r', g', b'⟩ h
  have hbound : ∀ n : UInt8, n.toNat < 256 := UInt8.toNat_lt
  simp only [Pixel.code] at h
  have hg := hbound g
  have hg' := hbound g'
  have hb := hbound b
  have hb' := hbound b'
  have hr : r.toNat = r'.toNat := by omega
  have hg : g.toNat = g'.toNat := by omega
  have hb : b.toNat = b'.toNat := by omega
  rw [UInt8.toNat_inj.mp hr, UInt8.toNat_inj.mp hg, UInt8.toNat_inj.mp hb]

theorem Darkest.unique {pixels : List Pixel} {p q : Pixel} (hp : Darkest pixels p)
    (hq : Darkest pixels q) : p = q := by
  refine Pixel.code_injective ?_
  have hpq := hp.least q hq.mem
  have hqp := hq.least p hp.mem
  omega

theorem MostSaturated.unique {pixels : List Pixel} {p q : Pixel} (hp : MostSaturated pixels p)
    (hq : MostSaturated pixels q) : p = q := by
  have hpq := hp.greatest q hq.mem
  have hqp := hq.greatest p hp.mem
  have hkeys := le_antisymm (not_lt.mp hqp) (not_lt.mp hpq)
  have hcode : p.code = q.code := by
    have hpair := toLex.injective hkeys
    exact congrArg Prod.snd (toLex.injective (congrArg Prod.snd hpair))
  exact Pixel.code_injective hcode

end Colors

section Frequency

/-- Sorted by color. -/
def Sorted (counts : List (Pixel × Nat)) : Prop :=
  counts.Pairwise fun left right => left.1.code < right.1.code

/-- One more pixel changes the entry of its color and no other. -/
theorem mem_countPixel {counts : List (Pixel × Nat)} (h : Sorted counts) {p q : Pixel} {n : Nat} :
    (q, n) ∈ countPixel p counts ↔
      (q ≠ p ∧ (q, n) ∈ counts) ∨
        (q = p ∧ ((∃ m, (p, m) ∈ counts ∧ n = m + 1) ∨ ((∀ m, (p, m) ∉ counts) ∧ n = 1))) := by
  induction counts with
  | nil => simp [countPixel]
  | cons entry rest ih =>
      obtain ⟨other, m⟩ := entry
      obtain ⟨hentry, hrest⟩ := List.pairwise_cons.mp h
      have ih := ih hrest
      rw [countPixel]
      split_ifs with hp hlt
      · subst hp
        have hnew : ∀ n, (p, n) ∉ rest := fun n hn =>
          lt_irrefl p.code (hentry (p, n) hn)
        by_cases hq : q = p
        · subst hq
          simp [hnew]
        · simp [hq]
      · have hnew : ∀ n, (p, n) ∉ (other, m) :: rest := by
          intro n hn
          rcases List.mem_cons.mp hn with heq | hn
          · exact hp (Prod.mk.inj heq).1
          · exact lt_irrefl p.code (hlt.trans (hentry (p, n) hn))
        by_cases hq : q = p
        · subst hq
          rw [List.mem_cons]
          simp [hnew]
        · rw [List.mem_cons]
          simp [hq]
      · rw [List.mem_cons, ih]
        by_cases hq : q = p
        · subst hq
          simp [hp]
        · simp [hq]

theorem sorted_countPixel {counts : List (Pixel × Nat)} (h : Sorted counts) (p : Pixel) :
    Sorted (countPixel p counts) := by
  induction counts with
  | nil => exact List.pairwise_singleton _ _
  | cons entry rest ih =>
      obtain ⟨other, m⟩ := entry
      obtain ⟨hentry, hrest⟩ := List.pairwise_cons.mp h
      rw [countPixel]
      split_ifs with hp hlt
      · exact List.pairwise_cons.mpr ⟨hentry, hrest⟩
      · refine List.pairwise_cons.mpr ⟨?_, h⟩
        intro next hnext
        rcases List.mem_cons.mp hnext with rfl | hnext
        · exact hlt
        · exact hlt.trans (hentry next hnext)
      · refine List.pairwise_cons.mpr ⟨?_, ih hrest⟩
        rintro ⟨q, n⟩ hnext
        rcases (mem_countPixel hrest).mp hnext with ⟨-, hmem⟩ | ⟨rfl, -⟩
        · exact hentry _ hmem
        · refine lt_of_le_of_ne (not_lt.mp hlt) fun hcode => hp ?_
          exact (Pixel.code_injective hcode).symm

theorem frequency_spec (pixels : List Pixel) :
    Sorted (frequency pixels) ∧
      ∀ p n, (p, n) ∈ frequency pixels ↔ p ∈ pixels ∧ n = pixels.count p := by
  induction pixels using List.reverseRecOn with
  | nil => exact ⟨List.Pairwise.nil, by simp [frequency]⟩
  | append_singleton pixels q ih =>
      obtain ⟨hsorted, hmem⟩ := ih
      have hstep : frequency (pixels ++ [q]) = countPixel q (frequency pixels) := by
        simp [frequency]
      rw [hstep]
      refine ⟨sorted_countPixel hsorted q, fun p n => ?_⟩
      rw [mem_countPixel hsorted]
      simp only [hmem, List.count_append, List.mem_append, List.mem_singleton]
      by_cases hp : p = q
      · subst hp
        by_cases hold : p ∈ pixels
        · simp [hold]
        · simp [hold, List.count_eq_zero_of_not_mem hold]
      · simp [hp, Ne.symm hp]

theorem mem_frequency_map (pixels : List Pixel) {p : Pixel} :
    p ∈ (frequency pixels).map Prod.fst ↔ p ∈ pixels := by
  constructor
  · intro h
    obtain ⟨⟨q, n⟩, hmem, rfl⟩ := List.mem_map.mp h
    exact (((frequency_spec pixels).2 q n).mp hmem).1
  · exact fun h => List.mem_map.mpr
      ⟨(p, pixels.count p), ((frequency_spec pixels).2 p _).mpr ⟨h, rfl⟩, rfl⟩

end Frequency

section Choices

/-- The first of the least, in a sorted list. -/
theorem minByKey_spec {key : Pixel → Nat} {colors : List Pixel}
    (h : colors.Pairwise fun left right => left.code < right.code) (hne : colors ≠ []) :
    ∃ p, minByKey key colors = some p ∧ p ∈ colors ∧
      ∀ q ∈ colors, key p < key q ∨ (key p = key q ∧ p.code ≤ q.code) := by
  induction colors with
  | nil => exact absurd rfl hne
  | cons first rest ih =>
      obtain ⟨hfirst, hrest⟩ := List.pairwise_cons.mp h
      by_cases hempty : rest = []
      · subst hempty
        exact ⟨first, rfl, List.mem_cons_self, by simp⟩
      · obtain ⟨p, hp, hmem, hleast⟩ := ih hrest hempty
        rw [minByKey, hp]
        dsimp only
        split_ifs with hlt
        · refine ⟨p, rfl, List.mem_cons_of_mem _ hmem, List.forall_mem_cons.mpr ⟨Or.inl hlt, ?_⟩⟩
          exact hleast
        · refine ⟨first, rfl, List.mem_cons_self, List.forall_mem_cons.mpr
            ⟨Or.inr ⟨rfl, le_rfl⟩, fun q hq => ?_⟩⟩
          have hq' := hleast q hq
          have hcode := hfirst q hq
          omega

/-- The background is the darkest color. -/
theorem background_spec {pixels : List Pixel} (h : pixels ≠ []) :
    ∃ p, minByKey luminanceKey ((frequency pixels).map Prod.fst) = some p ∧
      Darkest pixels p := by
  have hne : (frequency pixels).map Prod.fst ≠ [] := by
    obtain ⟨first, hfirst⟩ := List.exists_mem_of_ne_nil _ h
    exact List.ne_nil_of_mem ((mem_frequency_map pixels).mpr hfirst)
  have hsorted : ((frequency pixels).map Prod.fst).Pairwise
      fun left right => left.code < right.code :=
    List.pairwise_map.mpr (frequency_spec pixels).1
  obtain ⟨p, hp, hmem, hleast⟩ := @minByKey_spec luminanceKey _ hsorted hne
  exact ⟨p, hp, (mem_frequency_map pixels).mp hmem, fun q hq =>
    hleast q ((mem_frequency_map pixels).mpr hq)⟩

theorem maxAccent_spec {counts : List (Pixel × Nat)} (hne : counts ≠ []) :
    ∃ entry, maxAccent counts = some entry ∧ entry ∈ counts ∧
      ∀ other ∈ counts, ¬ accentBelow entry other := by
  induction counts with
  | nil => exact absurd rfl hne
  | cons first rest ih =>
      by_cases hempty : rest = []
      · subst hempty
        exact ⟨first, rfl, List.mem_cons_self, by simp [accentBelow]⟩
      · obtain ⟨entry, hentry, hmem, hgreatest⟩ := ih hempty
        rw [maxAccent, hentry]
        dsimp only
        split_ifs with hbelow
        · refine ⟨first, rfl, List.mem_cons_self, List.forall_mem_cons.mpr
            ⟨lt_irrefl _, fun other hother habove => ?_⟩⟩
          exact hgreatest other hother (lt_trans hbelow habove)
        · exact ⟨entry, rfl, List.mem_cons_of_mem _ hmem,
            List.forall_mem_cons.mpr ⟨hbelow, hgreatest⟩⟩

/-- The accent is the most saturated color. -/
theorem accent_spec {pixels : List Pixel} (h : pixels ≠ []) :
    ∃ p, (maxAccent (frequency pixels)).map Prod.fst = some p ∧ MostSaturated pixels p := by
  have hne : frequency pixels ≠ [] := by
    obtain ⟨first, hfirst⟩ := List.exists_mem_of_ne_nil _ h
    exact fun hnil => List.not_mem_nil (hnil ▸ (mem_frequency_map pixels).mpr hfirst)
  obtain ⟨⟨p, n⟩, hentry, hmem, hgreatest⟩ := maxAccent_spec hne
  obtain ⟨hp, rfl⟩ := ((frequency_spec pixels).2 p n).mp hmem
  refine ⟨p, by rw [hentry]; rfl, hp, fun q hq => ?_⟩
  exact hgreatest _ (((frequency_spec pixels).2 q _).mpr ⟨hq, rfl⟩)

end Choices

end Themes
end SleepySession
