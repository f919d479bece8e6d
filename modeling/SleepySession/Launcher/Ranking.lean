import SleepySession.Desktop.CommandText
import SleepySession.Lib.Checks
import SleepySession.Lib.Table

/-!
# Ranking of launcher entries

The score of a candidate for a query, and the order in which the launcher lists
candidates.  `fuzzy_score` walks through the candidate by positions in its bytes;
a position inside a character would be a panic.  Lowercasing is a parameter.
-/

namespace SleepySession
namespace Launcher

section Positions

/-- `str` cut at a position that is not the beginning of a character. -/
inductive Panic where
  | charBoundary
deriving DecidableEq

/-- `&text[position..]`. -/
def sliceFrom : Text → Nat → Except Panic Text
  | text, 0 => .ok text
  | [], _ + 1 => .error .charBoundary
  | c :: text, position + 1 =>
      if position + 1 < c.utf8Size then .error .charBoundary
      else sliceFrom text (position + 1 - c.utf8Size)

/-- `str::find` of a character, as a position in the bytes. -/
def findChar (c : Char) : Text → Option Nat
  | [] => none
  | d :: text => if d = c then some 0 else (findChar c text).map (d.utf8Size + ·)

variable {before after text : Text} {c : Char}

@[simp] theorem byteLength_nil : Text.byteLength [] = 0 :=
  rfl

@[simp] theorem byteLength_cons : Text.byteLength (c :: text) = c.utf8Size + text.byteLength :=
  rfl

@[simp] theorem byteLength_append :
    Text.byteLength (before ++ after) = before.byteLength + after.byteLength := by
  simp [Text.byteLength]

theorem sliceFrom_zero : sliceFrom text 0 = .ok text := by
  cases text <;> rfl

/-- The position behind some characters is the beginning of the next one. -/
theorem sliceFrom_byteLength : sliceFrom (before ++ after) before.byteLength = .ok after := by
  induction before with
  | nil => exact sliceFrom_zero
  | cons c before ih =>
      have hpos := c.utf8Size_pos
      obtain ⟨n, hn⟩ : ∃ n, c.utf8Size + Text.byteLength before = n + 1 :=
        ⟨c.utf8Size + Text.byteLength before - 1, by omega⟩
      have hinside : ¬ n + 1 < c.utf8Size := by omega
      have hrest : n + 1 - c.utf8Size = Text.byteLength before := by omega
      rw [byteLength_cons, hn, List.cons_append, sliceFrom, if_neg hinside, hrest, ih]

theorem findChar_eq_none : findChar c text = none ↔ c ∉ text := by
  induction text with
  | nil => simp [findChar]
  | cons d text ih =>
      rw [findChar]
      split_ifs with hd
      · simp [hd]
      · rw [Option.map_eq_none_iff, ih, List.mem_cons, not_or]
        exact ⟨fun h => ⟨fun hc => hd hc.symm, h⟩, fun h => h.2⟩

/-- What is found is the first occurrence. -/
theorem exists_of_findChar {found : Nat} (h : findChar c text = some found) :
    ∃ before after, text = before ++ c :: after ∧ c ∉ before ∧ found = before.byteLength := by
  induction text generalizing found with
  | nil => cases h
  | cons d text ih =>
      rw [findChar] at h
      split_ifs at h with hd
      · cases h
        exact ⟨[], text, by rw [hd]; rfl, List.not_mem_nil, rfl⟩
      · obtain ⟨n, hn, rfl⟩ := Option.map_eq_some_iff.mp h
        obtain ⟨before, after, rfl, hnot, rfl⟩ := ih hn
        refine ⟨d :: before, after, rfl, ?_, rfl⟩
        rw [List.mem_cons, not_or]
        exact ⟨fun hc => hd hc.symm, hnot⟩

end Positions

section Scores

/-- The loop of `fuzzy_score`. -/
def scoreFrom (candidate : Text) : Text → Nat → Int → Except Panic (Option Int)
  | [], _, score => .ok (some score)
  | character :: query, position, score =>
      match sliceFrom candidate position with
      | .error e => .error e
      | .ok rest =>
          match findChar character rest with
          | none => .ok none
          | some found =>
              scoreFrom candidate query (position + (found + character.utf8Size))
                (score + (100 - (found : Int)))

def fuzzyScore (query candidate : Text) : Except Panic (Option Int) :=
  if query = [] then .ok (some 0) else scoreFrom candidate query 0 0

variable {query candidate before after : Text} {c : Char}

/-- The first occurrence of a character loses no subsequence. -/
theorem cons_sublist_append (h : c ∉ before) :
    (c :: query).Sublist (before ++ c :: after) ↔ query.Sublist after := by
  induction before with
  | nil => exact List.cons_sublist_cons
  | cons d before ih =>
      rw [List.mem_cons, not_or] at h
      rw [List.cons_append, List.cons_sublist_cons', ih h.2]
      exact or_iff_left fun hc => h.1 hc.1

/-- Behind the characters that were passed the search finds the rest of the query
exactly as a subsequence. -/
theorem scoreFrom_spec (query passed rest : Text) (score : Int) :
    ∃ result, scoreFrom (passed ++ rest) query passed.byteLength score = .ok result ∧
      (result.isSome = true ↔ query.Sublist rest) := by
  induction query generalizing passed rest score with
  | nil => exact ⟨some score, rfl, iff_of_true rfl (List.nil_sublist _)⟩
  | cons c query ih =>
      rw [scoreFrom, sliceFrom_byteLength]
      simp only
      cases hfound : findChar c rest with
      | none =>
          refine ⟨none, rfl, iff_of_false nofun fun hsub => ?_⟩
          exact findChar_eq_none.mp hfound (hsub.subset List.mem_cons_self)
      | some found =>
          obtain ⟨before, after, rfl, hnot, rfl⟩ := exists_of_findChar hfound
          obtain ⟨result, hresult, hiff⟩ :=
            ih (passed ++ (before ++ [c])) after (score + (100 - (before.byteLength : Int)))
          refine ⟨result, ?_, hiff.trans (cons_sublist_append hnot).symm⟩
          simpa [Nat.add_assoc] using hresult

/-- The score is defined exactly on subsequences, and no cut is inside a character. -/
theorem fuzzyScore_spec (query candidate : Text) :
    ∃ result, fuzzyScore query candidate = .ok result ∧
      (result.isSome = true ↔ query.Sublist candidate) := by
  unfold fuzzyScore
  split_ifs with hquery
  · exact ⟨some 0, rfl, iff_of_true rfl (hquery ▸ List.nil_sublist _)⟩
  · exact scoreFrom_spec query [] candidate 0

/-- The score stays far from the bounds of an `i64`. -/
theorem scoreFrom_bounds (query passed rest : Text) (score result : Int)
    (h : scoreFrom (passed ++ rest) query passed.byteLength score = .ok (some result)) :
    score - rest.byteLength ≤ result ∧ result ≤ score + 100 * query.length := by
  induction query generalizing passed rest score with
  | nil =>
      obtain rfl := Option.some.inj (Except.ok.inj h)
      simp
  | cons c query ih =>
      rw [scoreFrom, sliceFrom_byteLength] at h
      simp only at h
      cases hfound : findChar c rest with
      | none =>
          rw [hfound] at h
          cases h
      | some found =>
          rw [hfound] at h
          obtain ⟨before, after, rfl, -, rfl⟩ := exists_of_findChar hfound
          obtain ⟨hlow, hhigh⟩ := ih (passed ++ (before ++ [c])) after
            (score + (100 - (before.byteLength : Int))) (by simpa [Nat.add_assoc] using h)
          simp only [byteLength_append, byteLength_cons, List.length_cons]
          push_cast
          omega

end Scores

section Order

/-- What the launcher remembers of a desktop ID. -/
structure Usage where
  count : UInt64
  lastUsed : UInt64
deriving DecidableEq

def Usage.default : Usage :=
  ⟨0, 0⟩

structure Scored where
  name : Text
  fuzzy : Int
  count : UInt64
  lastUsed : UInt64

/-- The comparison by which `rank` sorts. -/
def compareScored : Scored → Scored → Ordering :=
  compareLex (fun a b => compareOn Scored.fuzzy b a)
    (compareLex (fun a b => compareOn (fun s : Scored => s.count.toNat) b a)
      (compareLex (fun a b => compareOn (fun s : Scored => s.lastUsed.toNat) b a)
        (compareOn Scored.name)))

instance : Std.TransCmp compareScored :=
  inferInstanceAs (Std.TransCmp (compareLex _ _))

theorem eq_of_compareScored {a b : Scored} (h : compareScored a b = .eq) : a = b := by
  unfold compareScored at h
  simp only [compareLex_eq_eq, compareOn, Std.LawfulEqOrd.compare_eq_iff_eq] at h
  obtain ⟨hfuzzy, hcount, hlast, hname⟩ := h
  obtain ⟨name, fuzzy, count, lastUsed⟩ := a
  obtain ⟨name', fuzzy', count', lastUsed'⟩ := b
  simp only at hfuzzy hcount hlast hname
  rw [hfuzzy, hname, UInt64.toNat_inj.mp hcount, UInt64.toNat_inj.mp hlast]

/-- `slice::sort_by`. -/
def sortScored (scored : List Scored) : List Scored :=
  scored.mergeSort fun a b => (compareScored a b).isLE

/-- The order of the sorted list does not depend on the order of the given one. -/
theorem sortScored_perm {scored scored' : List Scored} (h : scored.Perm scored') :
    sortScored scored = sortScored scored' := by
  have hsorted : ∀ scored, (sortScored scored).Pairwise
      fun a b => (compareScored a b).isLE = true :=
    List.pairwise_mergeSort (fun _ _ _ => Std.TransCmp.isLE_trans) fun a b => by
      rw [← Std.OrientedCmp.isGE_eq_isLE]
      cases compareScored b a <;> rfl
  refine List.Perm.eq_of_pairwise ?_ (hsorted scored) (hsorted scored') ?_
  · intro a b _ _ hab hba
    exact eq_of_compareScored (Std.OrientedCmp.isLE_antisymm hab hba)
  · exact (List.mergeSort_perm _ _).trans (h.trans (List.mergeSort_perm _ _).symm)

end Order

section Ranking

/-- The usage of a candidate; what was never launched counts as unused. -/
def usageOf (entries : Table Text Usage) (candidate : Text) : Usage :=
  (entries.get? candidate).getD .default

/-- The closure in `rank`. -/
def score (lowercase : Text → Text) (entries : Table Text Usage) (query candidate : Text) :
    Except Panic (Option Scored) := do
  let fuzzy ← fuzzyScore query (lowercase candidate)
  let usage := usageOf entries candidate
  pure (fuzzy.map fun fuzzy => ⟨candidate, fuzzy, usage.count, usage.lastUsed⟩)

def scoreAll (lowercase : Text → Text) (entries : Table Text Usage) (query : Text) :
    List Text → Except Panic (List Scored)
  | [] => .ok []
  | candidate :: candidates => do
      let scored ← score lowercase entries query candidate
      let rest ← scoreAll lowercase entries query candidates
      pure (scored.toList ++ rest)

/-- `LauncherMetricsSnapshot::rank`. -/
def rank (lowercase : Text → Text) (entries : Table Text Usage) (query : Text)
    (candidates : List Text) : Except Panic (List Text) := do
  let scored ← scoreAll lowercase entries (lowercase query) candidates
  pure ((sortScored scored).map Scored.name)

variable {lowercase : Text → Text} {entries : Table Text Usage} {query : Text}

/-- The entry of a candidate in the list that is sorted, if it has one. -/
def scoredOf (lowercase : Text → Text) (entries : Table Text Usage) (query candidate : Text) :
    Option Scored :=
  match score lowercase entries query candidate with
  | .ok scored => scored
  | .error _ => none

theorem score_eq (candidate : Text) :
    score lowercase entries query candidate = .ok (scoredOf lowercase entries query candidate) := by
  obtain ⟨result, hresult, -⟩ := fuzzyScore_spec query (lowercase candidate)
  rw [scoredOf, score, hresult]
  rfl

theorem isSome_scoredOf (candidate : Text) :
    (scoredOf lowercase entries query candidate).isSome = true ↔
      query.Sublist (lowercase candidate) := by
  obtain ⟨result, hresult, hiff⟩ := fuzzyScore_spec query (lowercase candidate)
  rw [← hiff, scoredOf, score, hresult]
  cases result <;> rfl

theorem name_of_scoredOf {candidate : Text} {scored : Scored}
    (h : scoredOf lowercase entries query candidate = some scored) : scored.name = candidate := by
  obtain ⟨result, hresult, -⟩ := fuzzyScore_spec query (lowercase candidate)
  rw [scoredOf, score, hresult] at h
  obtain ⟨fuzzy, -, rfl⟩ := Option.map_eq_some_iff.mp h
  rfl

theorem scoreAll_eq (candidates : List Text) :
    scoreAll lowercase entries query candidates =
      .ok (candidates.filterMap (scoredOf lowercase entries query)) := by
  induction candidates with
  | nil => rfl
  | cons candidate candidates ih =>
      rw [scoreAll, score_eq, ih, List.filterMap_cons]
      cases scoredOf lowercase entries query candidate <;> rfl

/-- The names of the scored candidates, in the order of the list. -/
theorem names_filterMap (candidates : List Text) :
    (candidates.filterMap (scoredOf lowercase entries query)).map Scored.name =
      candidates.filter fun candidate => query.isSublist (lowercase candidate) := by
  induction candidates with
  | nil => rfl
  | cons candidate candidates ih =>
      have hsome := @isSome_scoredOf lowercase entries query candidate
      rw [List.filterMap_cons, List.filter_cons]
      cases hscored : scoredOf lowercase entries query candidate with
      | none =>
          have hnot : ¬ query.Sublist (lowercase candidate) := fun h => by
            have hs := hsome.mpr h
            rw [hscored] at hs
            cases hs
          rw [if_neg (mt List.isSublist_iff_sublist.mp hnot)]
          exact ih
      | some scored =>
          have hsub : query.Sublist (lowercase candidate) := hsome.mp (by rw [hscored]; rfl)
          rw [if_pos (List.isSublist_iff_sublist.mpr hsub), List.map_cons, ih,
            name_of_scoredOf hscored]

theorem rank_eq (candidates : List Text) :
    rank lowercase entries query candidates =
      .ok ((sortScored (candidates.filterMap
        (scoredOf lowercase entries (lowercase query)))).map Scored.name) := by
  rw [rank, scoreAll_eq]
  rfl

/-- What `rank` lists are the candidates that contain the query as a subsequence,
in an order of their own. -/
theorem rank_filters (lowercase : Text → Text) :
    (∀ entries query candidates, ∃ ranked,
      rank lowercase entries query candidates = .ok ranked ∧
      ranked.Perm (candidates.filter fun candidate =>
        (lowercase query).isSublist (lowercase candidate)) ∧
      ∀ candidates' : List Text, candidates'.Perm candidates →
        rank lowercase entries query candidates' = .ok ranked) ∧
    ∀ query candidate, ∃ result, fuzzyScore query candidate = .ok result ∧
      (result.isSome = true ↔ query.Sublist candidate) := by
  refine ⟨fun entries query candidates => ?_, fuzzyScore_spec⟩
  refine ⟨_, rank_eq candidates, ?_, fun candidates' hperm => ?_⟩
  · rw [← names_filterMap]
    exact (List.mergeSort_perm _ _).map Scored.name
  · rw [rank_eq, sortScored_perm (hperm.filterMap _)]

end Ranking

end Launcher
end SleepySession
