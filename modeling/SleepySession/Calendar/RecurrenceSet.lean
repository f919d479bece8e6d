import SleepySession.Calendar.Recurrence

/-!
# The starts of a rule

The starts of a rule are stated step by step, without the loop that computes
them, and the loop is shown to collect them.  Before that come the stable order
of the starts and the errors that no limit causes.
-/

namespace SleepySession
namespace Calendar

section Ordering

variable {α β : Type} [DecidableEq β] {key : α → β}

/-- The first element with a key stays. -/
theorem find?_dedupByKey (l : List α) (b : β) :
    (dedupByKey key l).find? (fun a => decide (key a = b)) =
      l.find? fun a => decide (key a = b) := by
  have hloop : ∀ (last : α) (l : List α),
      (last :: dedupByKey.loop key last l).find? (fun a => decide (key a = b)) =
        (last :: l).find? fun a => decide (key a = b) := by
    intro last l
    induction l generalizing last with
    | nil => rfl
    | cons c rest ih =>
        by_cases hsame : key c = key last
        · rw [dedupByKey.loop, if_pos hsame, ih last]
          by_cases hb : key last = b
          · simp [hb]
          · simp [hb, hsame]
        · rw [dedupByKey.loop, if_neg hsame]
          by_cases hb : key last = b
          · simp [hb]
          · have hskip : ∀ l : List α, (last :: l).find? (fun a => decide (key a = b)) =
                l.find? fun a => decide (key a = b) :=
              fun l => List.find?_cons_of_neg (by simpa using hb)
            rw [hskip, hskip, ih c]
  cases l with
  | nil => rfl
  | cons a rest => exact hloop a rest

variable {rank : α → Int}

/-- Neighbours of a sorted list that differ are in strict order. -/
theorem pairwise_dedupByKey (hrank : ∀ a b, rank a = rank b → key a = key b) {l : List α}
    (h : l.Pairwise fun a b => rank a ≤ rank b) :
    (dedupByKey key l).Pairwise fun a b => rank a < rank b := by
  have hloop : ∀ (last : α) (l : List α),
      (last :: l).Pairwise (fun a b => rank a ≤ rank b) →
        (last :: dedupByKey.loop key last l).Pairwise fun a b => rank a < rank b := by
    intro last l
    induction l generalizing last with
    | nil => intro _; exact List.pairwise_singleton _ _
    | cons c rest ih =>
        intro hsorted
        obtain ⟨hlast, htail⟩ := List.pairwise_cons.mp hsorted
        obtain ⟨hc, hrest⟩ := List.pairwise_cons.mp htail
        by_cases hsame : key c = key last
        · rw [dedupByKey.loop, if_pos hsame]
          exact ih last (List.pairwise_cons.mpr
            ⟨fun x hx => hlast x (List.mem_cons_of_mem _ hx), hrest⟩)
        · rw [dedupByKey.loop, if_neg hsame]
          have hlt : rank last < rank c :=
            lt_of_le_of_ne (hlast c List.mem_cons_self) fun heq => hsame (hrank _ _ heq.symm)
          have hrec := ih c htail
          refine List.pairwise_cons.mpr ⟨fun x hx => ?_, hrec⟩
          rcases List.mem_cons.mp hx with rfl | hx
          · exact hlt
          · exact hlt.trans ((List.pairwise_cons.mp hrec).1 x hx)
  cases l with
  | nil => exact List.Pairwise.nil
  | cons a rest => exact hloop a rest h

theorem decide_rank_trans (a b c : α) (hab : decide (rank a ≤ rank b) = true)
    (hbc : decide (rank b ≤ rank c) = true) : decide (rank a ≤ rank c) = true := by
  simp only [decide_eq_true_eq] at *
  exact hab.trans hbc

theorem decide_rank_total (a b : α) :
    (decide (rank a ≤ rank b) || decide (rank b ≤ rank a)) = true := by
  simpa using le_total (rank a) (rank b)

theorem pairwise_mergeSort_rank (l : List α) :
    (l.mergeSort fun a b => decide (rank a ≤ rank b)).Pairwise fun a b => rank a ≤ rank b := by
  exact (List.pairwise_mergeSort decide_rank_trans decide_rank_total l).imp
    fun h => by simpa using h

/-- A stable sort keeps the first element with a key. -/
theorem find?_mergeSort (hkey : ∀ a b, key a = key b → rank a = rank b) (l : List α) (b : β) :
    (l.mergeSort fun a c => decide (rank a ≤ rank c)).find? (fun a => decide (key a = b)) =
      l.find? fun a => decide (key a = b) := by
  have hequal : (l.filter fun a => decide (key a = b)).Pairwise fun a c =>
      decide (rank a ≤ rank c) = true := by
    refine List.pairwise_of_forall_mem_list fun a ha c hc => ?_
    have hab : key a = b := by simpa using (List.mem_filter.mp ha).2
    have hcb : key c = b := by simpa using (List.mem_filter.mp hc).2
    simp [hkey a c (hab.trans hcb.symm)]
  have hsub := List.sublist_mergeSort decide_rank_trans decide_rank_total hequal
    List.filter_sublist
  have hfilter := hsub.filter fun a => decide (key a = b)
  rw [List.filter_filter, show (fun a => decide (key a = b) && decide (key a = b)) =
    fun a => decide (key a = b) from funext fun a => Bool.and_self _] at hfilter
  have hlength : (l.filter fun a => decide (key a = b)).length =
      ((l.mergeSort fun a c => decide (rank a ≤ rank c)).filter
        fun a => decide (key a = b)).length :=
    ((List.mergeSort_perm l _).filter _).length_eq.symm
  rw [← List.head?_filter, ← List.head?_filter, hfilter.eq_of_length hlength]

end Ordering

section Errors

/-- An error that is neither an exceeded limit nor an exceeded budget. -/
def Benign (e : IoError) : Prop :=
  e.kind = .invalidData ∧
    e.message ∉ ["RRULE expansion exceeded limit", "calendar expansion exceeded limit"]

theorem Benign.not_limit {e : IoError} (h : Benign e) :
    ¬ (e = ruleLimitError ∨ e = expansionLimitError) := by
  rintro (rfl | rfl)
  · exact h.2 (by decide)
  · exact h.2 (by decide)

theorem Benign.not_budget {e : IoError} (h : Benign e) : e ≠ budgetError := by
  rintro rfl
  cases h.1

def OnlyBenign {α : Type} (x : Except IoError α) : Prop :=
  ∀ e, x = .error e → Benign e

variable {α β : Type}

theorem onlyBenign_ok (a : α) : OnlyBenign (.ok a : Except IoError α) :=
  fun _ h => by cases h

theorem onlyBenign_error {e : IoError} (h : Benign e) : OnlyBenign (.error e : Except IoError α) :=
  fun _ heq => by cases heq; exact h

theorem OnlyBenign.bind {x : Except IoError α} {f : α → Except IoError β}
    (hx : OnlyBenign x) (hf : ∀ a, OnlyBenign (f a)) : OnlyBenign (x >>= f) := by
  intro e h
  cases x with
  | error e' =>
      cases h
      exact hx _ rfl
  | ok a => exact hf a e h

theorem OnlyBenign.map {x : Except IoError α} (hx : OnlyBenign x) (f : α → β) :
    OnlyBenign (x.map f) := by
  intro e h
  cases x with
  | error e' =>
      cases h
      exact hx _ rfl
  | ok a => cases h

theorem onlyBenign_integerBytes (data : List UInt8) (offset width : Nat) :
    OnlyBenign (integerBytes data offset width) := by
  unfold integerBytes
  split
  · exact onlyBenign_ok _
  · exact onlyBenign_error ⟨rfl, by decide⟩

theorem onlyBenign_counts (header : List UInt8) : OnlyBenign (counts header) := by
  have hread : ∀ offset, OnlyBenign (readU32 header offset) := fun offset =>
    (onlyBenign_integerBytes header offset 4).map _
  unfold counts
  split
  · exact onlyBenign_error ⟨rfl, by decide⟩
  · exact (hread 20).bind fun _ => (hread 24).bind fun _ => (hread 28).bind fun _ =>
      (hread 32).bind fun _ => (hread 36).bind fun _ => (hread 40).bind fun _ => onlyBenign_ok _

theorem onlyBenign_blockSize (count : TzifCounts) (width : Nat) :
    OnlyBenign (blockSize count width) := by
  unfold blockSize
  split
  · exact onlyBenign_ok _
  · exact onlyBenign_error ⟨rfl, by decide⟩

theorem onlyBenign_header (data : List UInt8) : OnlyBenign (Tzif.header data) := by
  unfold Tzif.header
  split
  · exact onlyBenign_error ⟨rfl, by decide⟩
  · refine (onlyBenign_counts _).bind fun first => (onlyBenign_blockSize _ _).bind fun size => ?_
    split
    · split
      · exact onlyBenign_error ⟨rfl, by decide⟩
      · split
        · exact onlyBenign_error ⟨rfl, by decide⟩
        · exact onlyBenign_ok _
    · exact onlyBenign_ok _

theorem onlyBenign_readTransitions (data : List UInt8) (width n cursor : Nat) :
    OnlyBenign (Tzif.readTransitions data width n cursor) := by
  induction n generalizing cursor with
  | zero => exact onlyBenign_ok _
  | succ n ih =>
      rw [Tzif.readTransitions]
      refine OnlyBenign.bind ?_ fun value => (ih _).bind fun rest => onlyBenign_ok _
      unfold Tzif.readTime
      split
      · exact (onlyBenign_integerBytes data cursor 8).map _
      · exact (onlyBenign_integerBytes data cursor 4).map _

theorem onlyBenign_readTypes (data : List UInt8) (n cursor : Nat) :
    OnlyBenign (Tzif.readTypes data n cursor) := by
  induction n generalizing cursor with
  | zero => exact onlyBenign_ok _
  | succ n ih =>
      rw [Tzif.readTypes]
      exact ((onlyBenign_integerBytes data cursor 4).map _).bind fun offset =>
        (ih _).bind fun rest => onlyBenign_ok _

theorem onlyBenign_parse (data : List UInt8) : OnlyBenign (Tzif.parse data) := by
  unfold Tzif.parse
  refine (onlyBenign_header data).bind fun (header, width) =>
    (onlyBenign_counts _).bind fun count => ?_
  unfold Tzif.parseBlock
  refine (onlyBenign_blockSize _ _).bind fun need => ?_
  split
  · exact onlyBenign_error ⟨rfl, by decide⟩
  · refine (onlyBenign_readTransitions data width _ _).bind fun transitions =>
      (onlyBenign_readTypes data _ _).bind fun types => ?_
    dsimp only
    split
    · exact onlyBenign_error ⟨rfl, by decide⟩
    · exact onlyBenign_ok _

theorem onlyBenign_resolveLocalTime (zoneinfo : Text → Option (List UInt8)) (name : Text)
    (civil : DateTime) : OnlyBenign (resolveLocalTime zoneinfo name civil) := by
  unfold resolveLocalTime
  split
  · exact onlyBenign_error ⟨rfl, by decide⟩
  · split
    · exact onlyBenign_error ⟨rfl, by decide⟩
    · refine (onlyBenign_parse _).bind fun zone => ?_
      split
      · split
        · exact onlyBenign_ok _
        · exact onlyBenign_error ⟨rfl, by decide⟩
      · exact onlyBenign_error ⟨rfl, by decide⟩

theorem onlyBenign_advance (zoneinfo : Text → Option (List UInt8)) (step : Int) (x : Start) :
    OnlyBenign (advance zoneinfo step x) := by
  unfold advance
  split
  · split
    · exact onlyBenign_error ⟨rfl, by decide⟩
    · exact (onlyBenign_resolveLocalTime _ _ _).map _
  · split
    · exact onlyBenign_error ⟨rfl, by decide⟩
    · exact onlyBenign_ok _

end Errors

section Instances

/--
The starts of a rule by their number: the start of the event, then every step
that COUNT and UNTIL admit and that meets the condition `before`.
-/
inductive Instance (zoneinfo : Text → Option (List UInt8)) (rule : Option Recurrence)
    (first : Start) (before : DateTime → Prop) : Nat → Start → Prop where
  | first : Instance zoneinfo rule first before 0 first
  | next {r : Recurrence} {n : Nat} {x y : Start}
      (h : Instance zoneinfo rule first before n x) (hrule : rule = some r)
      (hcount : ∀ count, r.count = some count → n + 1 < count)
      (hstep : advance zoneinfo r.frequency.seconds x = .ok y)
      (huntil : ∀ u, r.until' = some u → y.1.val ≤ u.val) (hbefore : before y.1) :
      Instance zoneinfo rule first before (n + 1) y

/-- A time before the end of the window. -/
def Before (windowEnd t : DateTime) : Prop :=
  t.val < windowEnd.val

/-- The civil time of the start resolves to its instant, as `parse_time` leaves it. -/
def Resolved (zoneinfo : Text → Option (List UInt8)) (first : Start) : Prop :=
  ∀ civil timezone, first.2 = some (civil, timezone) →
    resolveLocalTime zoneinfo timezone civil = .ok first.1

variable {zoneinfo : Text → Option (List UInt8)} {rule : Option Recurrence} {first x y : Start}
  {before : DateTime → Prop} {n m : Nat} {r : Recurrence}

theorem Instance.unique (h : Instance zoneinfo rule first before n x)
    (h' : Instance zoneinfo rule first before n y) : x = y := by
  induction h generalizing y with
  | first =>
      cases h'
      rfl
  | next h hrule hcount hstep huntil hbefore ih =>
      cases h' with
      | next h' hrule' hcount' hstep' huntil' hbefore' =>
          obtain rfl := ih h'
          obtain rfl := Option.some.inj (hrule.symm.trans hrule')
          exact Except.ok.inj (hstep.symm.trans hstep')

theorem Instance.earlier (h : Instance zoneinfo rule first before n x) (hm : m ≤ n) :
    ∃ y, Instance zoneinfo rule first before m y := by
  induction h with
  | first =>
      obtain rfl := Nat.le_zero.mp hm
      exact ⟨first, .first⟩
  | next h hrule hcount hstep huntil hbefore ih =>
      rcases Nat.lt_or_eq_of_le hm with hlt | rfl
      · exact ih (Nat.lt_succ_iff.mp hlt)
      · exact ⟨_, .next h hrule hcount hstep huntil hbefore⟩

theorem Instance.mono {after : DateTime → Prop} (himp : ∀ t, before t → after t)
    (h : Instance zoneinfo rule first before n x) : Instance zoneinfo rule first after n x := by
  induction h with
  | first => exact .first
  | next h hrule hcount hstep huntil hbefore ih =>
      exact .next ih hrule hcount hstep huntil (himp _ hbefore)

/-- What a local time resolves to shows it. -/
theorem shows_of_resolveLocalTime {name : Text} {civil t : DateTime}
    (h : resolveLocalTime zoneinfo name civil = .ok t) :
    ∃ data zone, zoneinfo name = some data ∧ Tzif.parse data = .ok zone ∧
      zone.Shows t.val civil.val := by
  unfold resolveLocalTime at h
  split at h
  · cases h
  · split at h
    · cases h
    · rename_i data hdata
      rw [Checks.bind_eq_ok_iff] at h
      obtain ⟨zone, hzone, h⟩ := h
      refine ⟨data, zone, hdata, hzone, ?_⟩
      split at h
      · rename_i u hmatches
        split at h
        · rename_i instant hinstant
          cases h
          have hmem : u ∈ localMatches zone civil.val := by simp [hmatches]
          rw [mem_localMatches (Tzif.wellFormed_of_parse hzone)] at hmem
          rwa [← fromTimestamp_eq_some.mp hinstant]
        · cases h
      · cases h

theorem resolveLocalTime_injective {name : Text} {civil civil' t : DateTime}
    (h : resolveLocalTime zoneinfo name civil = .ok t)
    (h' : resolveLocalTime zoneinfo name civil' = .ok t) : civil = civil' := by
  obtain ⟨data, zone, hdata, hzone, hshows⟩ := shows_of_resolveLocalTime h
  obtain ⟨data', zone', hdata', hzone', hshows'⟩ := shows_of_resolveLocalTime h'
  obtain rfl := Option.some.inj (hdata.symm.trans hdata')
  obtain rfl := Except.ok.inj (hzone.symm.trans hzone')
  exact Subtype.ext (hshows.symm.trans hshows')

theorem advance_absolute {step : Int} {t : DateTime} (h : advance zoneinfo step (t, none) = .ok y) :
    y.2 = none ∧ y.1.val = t.val + step := by
  unfold advance at h
  dsimp only at h
  split at h
  · cases h
  · rename_i current hcurrent
    cases h
    exact ⟨rfl, (fromTimestamp_eq_some.mp hcurrent).symm⟩

theorem advance_civil {step : Int} {t civil : DateTime} {timezone : Text}
    (h : advance zoneinfo step (t, some (civil, timezone)) = .ok y) :
    ∃ civil' : DateTime, y.2 = some (civil', timezone) ∧ civil'.val = civil.val + step ∧
      resolveLocalTime zoneinfo timezone civil' = .ok y.1 := by
  unfold advance at h
  dsimp only at h
  split at h
  · cases h
  · rename_i civil' hcivil
    cases hresolve : resolveLocalTime zoneinfo timezone civil' with
    | error e =>
        rw [hresolve] at h
        cases h
    | ok current =>
        rw [hresolve] at h
        cases h
        exact ⟨civil', rfl, (fromTimestamp_eq_some.mp hcivil).symm, hresolve⟩

/-- Without a zone the steps are equally long. -/
theorem Instance.absolute (hrule : rule = some r) (hfirst : first.2 = none)
    (h : Instance zoneinfo rule first before n x) :
    x.2 = none ∧ x.1.val = first.1.val + n * r.frequency.seconds := by
  induction h with
  | first => exact ⟨hfirst, by simp⟩
  | @next r' n x y h hrule' hcount hstep huntil hbefore ih =>
      obtain rfl := Option.some.inj (hrule.symm.trans hrule')
      obtain ⟨t, civil⟩ := x
      obtain ⟨rfl, ht⟩ := ih
      obtain ⟨hnone, hval⟩ := advance_absolute hstep
      refine ⟨hnone, ?_⟩
      simp only at ht
      rw [hval, ht]
      push_cast
      ring

/-- With a zone the civil times are equally far apart. -/
theorem Instance.civil {civil : DateTime} {timezone : Text} (hrule : rule = some r)
    (hresolved : Resolved zoneinfo first) (hfirst : first.2 = some (civil, timezone))
    (h : Instance zoneinfo rule first before n x) :
    ∃ civil' : DateTime, x.2 = some (civil', timezone) ∧
      civil'.val = civil.val + n * r.frequency.seconds ∧
      resolveLocalTime zoneinfo timezone civil' = .ok x.1 := by
  induction h with
  | first => exact ⟨civil, hfirst, by simp, hresolved _ _ hfirst⟩
  | @next r' n x y h hrule' hcount hstep huntil hbefore ih =>
      obtain rfl := Option.some.inj (hrule.symm.trans hrule')
      obtain ⟨t, local'⟩ := x
      obtain ⟨civil', rfl, hcivil', -⟩ := ih
      obtain ⟨next, hnext, hval, hresolve⟩ := advance_civil hstep
      refine ⟨next, hnext, ?_, hresolve⟩
      rw [hval, hcivil']
      push_cast
      ring

theorem Frequency.seconds_pos (frequency : Frequency) : 0 < frequency.seconds := by
  cases frequency <;> decide

/-- Different steps have different instants. -/
theorem Instance.injective (hresolved : Resolved zoneinfo first)
    (h : Instance zoneinfo rule first before n x) (h' : Instance zoneinfo rule first before m y)
    (heq : x.1 = y.1) : n = m := by
  cases hrule : rule with
  | none =>
      have hzero : ∀ {k z}, Instance zoneinfo rule first before k z → k = 0 := by
        intro k z hz
        cases hz with
        | first => rfl
        | next _ hsome => rw [hrule] at hsome; cases hsome
      rw [hzero h, hzero h']
  | some r =>
      have hpos := r.frequency.seconds_pos
      have hcancel : ∀ a : Int, a + n * r.frequency.seconds = a + m * r.frequency.seconds →
          n = m := by
        intro a ha
        have hmul : (n : Int) * r.frequency.seconds = m * r.frequency.seconds := by omega
        exact_mod_cast mul_right_cancel₀ hpos.ne' hmul
      cases hfirst : first.2 with
      | none =>
          obtain ⟨-, hx⟩ := h.absolute hrule hfirst
          obtain ⟨-, hy⟩ := h'.absolute hrule hfirst
          exact hcancel _ (by rw [← hx, ← hy, heq])
      | some pair =>
          obtain ⟨civil, timezone⟩ := pair
          obtain ⟨a, -, ha, hresolve⟩ := h.civil hrule hresolved hfirst
          obtain ⟨b, -, hb, hresolve'⟩ := h'.civil hrule hresolved hfirst
          rw [heq] at hresolve
          obtain rfl := resolveLocalTime_injective hresolve hresolve'
          exact hcancel _ (ha.symm.trans hb)

end Instances

section Looping

variable {zoneinfo : Text → Option (List UInt8)} {rule : Option Recurrence} {first : Start}
  {before : DateTime → Prop} {starts : List Start} {current : Start} {n : Nat}

/-- The starts that the loop has collected are the first ones of the rule. -/
structure Reached (zoneinfo : Text → Option (List UInt8)) (rule : Option Recurrence)
    (first : Start) (before : DateTime → Prop) (starts : List Start) (n : Nat)
    (current : Start) : Prop where
  current : Instance zoneinfo rule first before n current
  mem : ∀ x, x ∈ starts ↔ ∃ m ≤ n, Instance zoneinfo rule first before m x
  length : starts.length = n + 1
  nodup : (starts.map Prod.fst).Nodup

theorem reached_first : Reached zoneinfo rule first before [first] 0 first where
  current := .first
  mem x := by
    constructor
    · intro hx
      rw [List.mem_singleton.mp hx]
      exact ⟨0, le_refl _, .first⟩
    · rintro ⟨m, hm, hx⟩
      obtain rfl := Nat.le_zero.mp hm
      rw [hx.unique .first]
      exact List.mem_singleton_self _
  length := rfl
  nodup := by simp

theorem Reached.step {next : Start} (h : Reached zoneinfo rule first before starts n current)
    (hresolved : Resolved zoneinfo first)
    (hnext : Instance zoneinfo rule first before (n + 1) next) :
    Reached zoneinfo rule first before (starts ++ [next]) (n + 1) next where
  current := hnext
  mem x := by
    rw [List.mem_append, h.mem, List.mem_singleton]
    constructor
    · rintro (⟨m, hm, hx⟩ | rfl)
      · exact ⟨m, hm.trans (Nat.le_succ n), hx⟩
      · exact ⟨n + 1, le_refl _, hnext⟩
    · rintro ⟨m, hm, hx⟩
      rcases Nat.lt_or_eq_of_le hm with hlt | rfl
      · exact Or.inl ⟨m, Nat.lt_succ_iff.mp hlt, hx⟩
      · exact Or.inr (hx.unique hnext)
  length := by rw [List.length_append, h.length, List.length_singleton]
  nodup := by
    rw [List.map_append]
    refine List.nodup_append.mpr ⟨h.nodup, by simp, fun a ha b hb hab => ?_⟩
    obtain ⟨x, hx, rfl⟩ := List.mem_map.mp ha
    obtain ⟨m, hm, hx⟩ := (h.mem x).mp hx
    have heq : x.1 = next.1 := hab.trans (by simpa using hb)
    have := hx.injective hresolved hnext heq
    omega

/-- The loop has ended where there is no further step. -/
theorem Reached.complete (h : Reached zoneinfo rule first before starts n current)
    (hnone : ∀ y, ¬ Instance zoneinfo rule first before (n + 1) y) (x : Start) :
    x ∈ starts ↔ ∃ m, Instance zoneinfo rule first before m x := by
  rw [h.mem]
  constructor
  · rintro ⟨m, -, hx⟩
    exact ⟨m, hx⟩
  · rintro ⟨m, hx⟩
    refine ⟨m, ?_, hx⟩
    by_contra hlt
    obtain ⟨y, hy⟩ := hx.earlier (Nat.lt_of_not_le hlt)
    exact hnone y hy

/-- What the loop over the steps of a rule returns. -/
theorem ruleLoop_spec {r : Recurrence} {windowEnd : DateTime} {limit rounds : Nat}
    (hrule : rule = some r) (hresolved : Resolved zoneinfo first)
    (hrounds : n + 1 + rounds = max 1 (r.count.getD usizeMax)) (hlimit : limit < usizeMax)
    (h : Reached zoneinfo rule first (Before windowEnd) starts n current)
    (hlength : starts.length ≤ max 1 limit) :
    (∀ result, ruleLoop zoneinfo r.frequency.seconds r.until' windowEnd limit rounds starts current =
        .ok result →
      (∀ x, x ∈ result ↔ ∃ m, Instance zoneinfo rule first (Before windowEnd) m x) ∧
        (result.map Prod.fst).Nodup) ∧
    ∀ e, ruleLoop zoneinfo r.frequency.seconds r.until' windowEnd limit rounds starts current =
        .error e →
      Benign e ∨ (e = ruleLimitError ∧ ∃ l : List Start, (l.map Prod.fst).Nodup ∧
        limit < l.length ∧ ∀ x ∈ l, ∃ m, Instance zoneinfo rule first (Before windowEnd) m x) := by
  induction rounds generalizing n starts current with
  | zero =>
      refine ⟨fun result hresult => ?_, fun e he => by cases he⟩
      cases hresult
      refine ⟨h.complete fun y hy => ?_, h.nodup⟩
      cases hy with
      | next hy hrule' hcount =>
          obtain rfl := Option.some.inj (hrule.symm.trans hrule')
          cases hcounted : r.count with
          | none =>
              -- the loop cannot run out of rounds without a COUNT
              rw [hcounted, Option.getD_none] at hrounds
              have := h.length
              unfold usizeMax at hrounds hlimit
              omega
          | some count =>
              have := hcount count hcounted
              rw [hcounted, Option.getD_some] at hrounds
              omega
  | succ rounds ih =>
      rw [ruleLoop]
      cases hstep : advance zoneinfo r.frequency.seconds current with
      | error e =>
          refine ⟨fun result hresult => (by cases hresult), fun e' he => ?_⟩
          cases he
          exact Or.inl (onlyBenign_advance _ _ _ _ hstep)
      | ok next =>
          have hinvert : ∀ y, Instance zoneinfo rule first (Before windowEnd) (n + 1) y →
              y = next ∧ (∀ u, r.until' = some u → y.1.val ≤ u.val) ∧ Before windowEnd y.1 := by
            intro y hy
            cases hy with
            | next hy hrule' _ hstep' huntil hbefore =>
                obtain rfl := Option.some.inj (hrule.symm.trans hrule')
                obtain rfl := hy.unique h.current
                exact ⟨Except.ok.inj (hstep'.symm.trans hstep), huntil, hbefore⟩
          dsimp only
          split
          · rename_i hover
            refine ⟨fun result hresult => ?_, fun e he => by cases he⟩
            cases hresult
            refine ⟨h.complete fun y hy => ?_, h.nodup⟩
            obtain ⟨rfl, huntil, -⟩ := hinvert y hy
            obtain ⟨u, hu, hlt⟩ := (Option.any_eq_true _ _).mp hover
            exact absurd (huntil u hu) (not_le.mpr (by simpa using hlt))
          · rename_i hunder
            split
            · rename_i hafter
              refine ⟨fun result hresult => ?_, fun e he => by cases he⟩
              cases hresult
              refine ⟨h.complete fun y hy => ?_, h.nodup⟩
              obtain ⟨rfl, -, hlt⟩ := hinvert y hy
              exact absurd hafter (not_le.mpr hlt)
            · rename_i hinside
              have hnext : Instance zoneinfo rule first (Before windowEnd) (n + 1) next := by
                refine .next h.current hrule (fun count hcounted => ?_) hstep (fun u hu => ?_)
                  (not_le.mp hinside)
                · rw [hcounted, Option.getD_some] at hrounds
                  omega
                · by_contra hlt
                  refine hunder ((Option.any_eq_true _ _).mpr ⟨u, hu, ?_⟩)
                  simpa using hlt
              have hreached := h.step hresolved hnext
              split
              · rename_i hfull
                refine ⟨fun result hresult => (by cases hresult), fun e he => ?_⟩
                cases he
                refine Or.inr ⟨rfl, starts ++ [next], hreached.nodup, ?_, fun x hx => ?_⟩
                · rw [List.length_append, List.length_singleton]
                  omega
                · obtain ⟨m, -, hm⟩ := (hreached.mem x).mp hx
                  exact ⟨m, hm⟩
              · rename_i hroom
                refine ih (by omega) hreached ?_
                rw [List.length_append, List.length_singleton]
                omega

end Looping

end Calendar
end SleepySession
