import SleepySession.Calendar.RecurrenceSet

/-!
# The expansion of an event

What `expand` emits are the members of the recurrence set that meet the window.
Its loop ends at the first step that is not before the end of the window; where
every step goes forward in time, nothing inside the window comes later.  The
limit counts all the starts before the end of the window, in it or not.
-/

namespace SleepySession
namespace Calendar

section Candidates

variable {zoneinfo : Text → Option (List UInt8)} {rule : Option Recurrence}
  {rdates : List DateTime} {first : Start} {before : DateTime → Prop} {windowEnd : DateTime}
  {limit : Nat}

/-- A start of the rule, or a listed date that is none of its starts. -/
def Candidate (zoneinfo : Text → Option (List UInt8)) (rule : Option Recurrence)
    (rdates : List DateTime) (first : Start) (before : DateTime → Prop) (x : Start) : Prop :=
  (∃ n, Instance zoneinfo rule first before n x) ∨
    (x.2 = none ∧ x.1 ∈ rdates ∧ ∀ n y, Instance zoneinfo rule first before n y → y.1 ≠ x.1)

theorem find?_of_nodup {l : List Start} (h : (l.map Prod.fst).Nodup) {x : Start} (hx : x ∈ l) :
    l.find? (fun a => decide (a.1 = x.1)) = some x := by
  cases hfind : l.find? (fun a => decide (a.1 = x.1)) with
  | none => exact absurd (List.find?_eq_none.mp hfind x hx) (by simp)
  | some y =>
      have hy : y.1 = x.1 := by simpa using List.find?_some hfind
      rw [List.inj_on_of_nodup_map h (List.mem_of_find?_eq_some hfind) hx hy]

theorem pairwise_orderStarts (l : List Start) :
    (orderStarts l).Pairwise fun a b => a.1.val < b.1.val := by
  exact pairwise_dedupByKey (fun a b h => Subtype.ext h)
    (@pairwise_mergeSort_rank Start (fun a => a.1.val) l)

theorem nodup_orderStarts (l : List Start) : ((orderStarts l).map Prod.fst).Nodup := by
  exact List.pairwise_map.mpr ((pairwise_orderStarts l).imp
    fun h heq => h.ne (congrArg Subtype.val heq))

/-- The ordered starts keep, for each instant, what came first. -/
theorem mem_orderStarts {l : List Start} (h : (l.map Prod.fst).Nodup) {x : Start} :
    x ∈ orderStarts (l ++ rdates.map fun instant => (instant, none)) ↔
      x ∈ l ∨ (x.2 = none ∧ x.1 ∈ rdates ∧ ∀ y ∈ l, y.1 ≠ x.1) := by
  have hnodup := nodup_orderStarts (l ++ rdates.map fun instant => (instant, none))
  have hfind : ∀ t : DateTime,
      (orderStarts (l ++ rdates.map fun instant => (instant, none))).find?
          (fun a => decide (a.1 = t)) =
        (l.find? fun a => decide (a.1 = t)).or
          ((rdates.map fun instant => ((instant, none) : Start)).find?
            fun a => decide (a.1 = t)) := by
    intro t
    rw [orderStarts, find?_dedupByKey]
    exact (@find?_mergeSort Start DateTime _ Prod.fst (fun a => a.1.val)
      (fun a b h => congrArg Subtype.val h) _ t).trans List.find?_append
  constructor
  · intro hx
    have hself := find?_of_nodup hnodup hx
    rw [hfind] at hself
    cases hl : l.find? fun a => decide (a.1 = x.1) with
    | some y =>
        rw [hl, Option.some_or] at hself
        exact Or.inl (Option.some.inj hself ▸ List.mem_of_find?_eq_some hl)
    | none =>
        rw [hl, Option.none_or] at hself
        obtain ⟨t, ht, rfl⟩ := List.mem_map.mp (List.mem_of_find?_eq_some hself)
        refine Or.inr ⟨rfl, ht, fun y hy heq => ?_⟩
        exact List.find?_eq_none.mp hl y hy (by simpa using heq)
  · intro hx
    have hself : (orderStarts (l ++ rdates.map fun instant => (instant, none))).find?
        (fun a => decide (a.1 = x.1)) = some x := by
      rw [hfind]
      rcases hx with hx | ⟨hnone, hrdate, hother⟩
      · rw [find?_of_nodup h hx, Option.some_or]
      · have hl : l.find? (fun a => decide (a.1 = x.1)) = none :=
          List.find?_eq_none.mpr fun y hy => by simpa using hother y hy
        rw [hl, Option.none_or]
        cases hfound : (rdates.map fun instant => ((instant, none) : Start)).find?
            (fun a => decide (a.1 = x.1)) with
        | none =>
            have := List.find?_eq_none.mp hfound (x.1, none) (List.mem_map_of_mem hrdate)
            exact absurd this (by simp)
        | some y =>
            obtain ⟨t, -, rfl⟩ := List.mem_map.mp (List.mem_of_find?_eq_some hfound)
            have ht : t = x.1 := by simpa using List.find?_some hfound
            rw [ht, ← hnone]
    exact List.mem_of_find?_eq_some hself

/-- What `allStarts` returns. -/
theorem allStarts_spec (hresolved : Resolved zoneinfo first) (hlimit : limit < usizeMax) :
    (∀ starts, allStarts zoneinfo rule rdates first windowEnd limit = .ok starts →
      starts.Pairwise (fun a b => a.1.val < b.1.val) ∧
      ∀ x, x ∈ starts ↔ Candidate zoneinfo rule rdates first (Before windowEnd) x) ∧
    ∀ e, allStarts zoneinfo rule rdates first windowEnd limit = .error e →
      Benign e ∨ ((e = ruleLimitError ∨ e = expansionLimitError) ∧
        ∃ l : List DateTime, l.Nodup ∧ limit < l.length ∧ ∀ t ∈ l,
          (∃ n x, Instance zoneinfo rule first (Before windowEnd) n x ∧ x.1 = t) ∨ t ∈ rdates) := by
  have hstarts : (∀ starts, ruleStarts zoneinfo rule first windowEnd limit = .ok starts →
      (∀ x, x ∈ starts ↔ ∃ n, Instance zoneinfo rule first (Before windowEnd) n x) ∧
        (starts.map Prod.fst).Nodup) ∧
      ∀ e, ruleStarts zoneinfo rule first windowEnd limit = .error e →
        Benign e ∨ (e = ruleLimitError ∧ ∃ l : List Start, (l.map Prod.fst).Nodup ∧
          limit < l.length ∧
            ∀ x ∈ l, ∃ n, Instance zoneinfo rule first (Before windowEnd) n x) := by
    unfold ruleStarts
    cases rule with
    | none =>
        refine ⟨fun starts h => ?_, fun e h => by cases h⟩
        cases h
        refine ⟨fun x => ?_, by simp⟩
        constructor
        · intro hx
          rw [List.mem_singleton.mp hx]
          exact ⟨0, .first⟩
        · rintro ⟨n, hx⟩
          cases hx with
          | first => exact List.mem_singleton_self _
          | next _ hrule => cases hrule
    | some r =>
        refine ruleLoop_spec rfl hresolved ?_ hlimit reached_first (le_max_left _ _)
        omega
  obtain ⟨hok, herror⟩ := hstarts
  unfold allStarts
  cases hrule : ruleStarts zoneinfo rule first windowEnd limit with
  | error e =>
      refine ⟨fun starts h => (by cases h), fun e' h => ?_⟩
      cases h
      refine (herror e hrule).imp_right fun ⟨heq, l, hnodup, hlong, hmem⟩ => ?_
      refine ⟨Or.inl heq, l.map Prod.fst, hnodup, by simpa using hlong, fun t ht => ?_⟩
      obtain ⟨x, hx, rfl⟩ := List.mem_map.mp ht
      obtain ⟨n, hn⟩ := hmem x hx
      exact Or.inl ⟨n, x, hn, rfl⟩
  | ok starts =>
      obtain ⟨hmem, hnodup⟩ := hok starts hrule
      have hsorted := pairwise_orderStarts (starts ++ rdates.map fun instant => (instant, none))
      have hcandidate : ∀ x, x ∈ orderStarts (starts ++ rdates.map fun instant =>
          (instant, none)) ↔ Candidate zoneinfo rule rdates first (Before windowEnd) x := by
        intro x
        rw [mem_orderStarts hnodup, hmem, Candidate]
        refine or_congr Iff.rfl (and_congr Iff.rfl (and_congr Iff.rfl ?_))
        constructor
        · exact fun h n y hy => h y ((hmem y).mpr ⟨n, hy⟩)
        · exact fun h y hy => ((hmem y).mp hy).elim fun n hn => h n y hn
      dsimp only
      split
      · rename_i hlong
        refine ⟨fun starts h => (by cases h), fun e h => ?_⟩
        cases h
        refine Or.inr ⟨Or.inr rfl, (orderStarts (starts ++ rdates.map fun instant =>
          (instant, none))).map Prod.fst, nodup_orderStarts _, by simpa using hlong, fun t ht => ?_⟩
        obtain ⟨x, hx, rfl⟩ := List.mem_map.mp ht
        rcases (hcandidate x).mp hx with ⟨n, hn⟩ | ⟨-, hrdate, -⟩
        · exact Or.inl ⟨n, x, hn, rfl⟩
        · exact Or.inr hrdate
      · refine ⟨fun result h => ?_, fun e h => by cases h⟩
        cases h
        exact ⟨hsorted, hcandidate⟩

end Candidates

section Emitting

variable {zoneinfo : Text → Option (List UInt8)} {formatTime : DateTime → Text}
  {jsonLength : CalendarEvent → Nat} {raw : RawEvent} {sourceId : Text} {i : Interval}
  {windowStart windowEnd : DateTime} {byteBudget : Nat}

/-- The occurrence of a start, if it is not excluded, has an end and meets the window. -/
def shown (zoneinfo : Text → Option (List UInt8)) (raw : RawEvent) (i : Interval)
    (windowStart windowEnd : DateTime) (x : Start) : Option (Start × DateTime) :=
  if x.1 ∈ raw.exdates then none
  else
    match occurrenceEnd zoneinfo i.duration i.civilDuration x with
    | .ok endsAt =>
        if windowStart.val < endsAt.val ∧ x.1.val < windowEnd.val then some (x, endsAt) else none
    | .error _ => none

/-- The event that is emitted for an occurrence. -/
def eventOf (formatTime : DateTime → Text) (raw : RawEvent) (sourceId : Text) (i : Interval)
    (o : Start × DateTime) : CalendarEvent :=
  calendarEvent formatTime raw sourceId i o.1.1 o.2

/-- The bytes of some occurrences. -/
def occurrenceBytes (formatTime : DateTime → Text) (jsonLength : CalendarEvent → Nat)
    (raw : RawEvent) (sourceId : Text) (i : Interval) (l : List (Start × DateTime)) : Nat :=
  (l.map fun o => jsonLength (eventOf formatTime raw sourceId i o) + 1).sum

theorem shown_eq_some {x : Start} {o : Start × DateTime} :
    shown zoneinfo raw i windowStart windowEnd x = some o ↔
      x = o.1 ∧ x.1 ∉ raw.exdates ∧
        occurrenceEnd zoneinfo i.duration i.civilDuration x = .ok o.2 ∧
        windowStart.val < o.2.val ∧ x.1.val < windowEnd.val := by
  unfold shown
  constructor
  · intro h
    split at h
    · cases h
    · rename_i hincluded
      split at h
      · rename_i endsAt hend
        split at h
        · rename_i hvisible
          obtain rfl := Option.some.inj h
          exact ⟨rfl, hincluded, hend, hvisible⟩
        · cases h
      · cases h
  · rintro ⟨rfl, hincluded, hend, hvisible⟩
    rw [if_neg hincluded, hend]
    dsimp only
    rw [if_pos hvisible]

theorem occurrenceEnd_error {x : Start} {e : IoError}
    (h : occurrenceEnd zoneinfo i.duration i.civilDuration x = .error (.error e)) : Benign e := by
  obtain ⟨instant, civil⟩ := x
  cases civil with
  | none =>
      cases ht : fromTimestamp (instant.val + i.duration) <;> simp [occurrenceEnd, ht] at h
  | some pair =>
      obtain ⟨civil, timezone⟩ := pair
      cases hlength : i.civilDuration with
      | none =>
          cases ht : fromTimestamp (instant.val + i.duration) <;>
            simp [occurrenceEnd, hlength, ht] at h
      | some length =>
          cases hcivil : fromTimestamp (civil.val + length) with
          | none => simp [occurrenceEnd, hlength, hcivil] at h
          | some civil' =>
              cases hresolve : resolveLocalTime zoneinfo timezone civil' with
              | ok instant => simp [occurrenceEnd, hlength, hcivil, hresolve] at h
              | error e' =>
                  obtain rfl : e' = e := by
                    simpa [occurrenceEnd, hlength, hcivil, hresolve] using h
                  exact onlyBenign_resolveLocalTime _ _ _ _ hresolve

/-- What an emitting loop over some starts may end with. -/
def Emits (zoneinfo : Text → Option (List UInt8)) (formatTime : DateTime → Text)
    (jsonLength : CalendarEvent → Nat) (raw : RawEvent) (sourceId : Text) (i : Interval)
    (windowStart windowEnd : DateTime) (byteBudget : Nat) (starts : List Start)
    (events : List CalendarEvent) (bytes : Nat)
    (outcome : Except Failure (List CalendarEvent × Nat)) : Prop :=
  (∀ result, outcome = .ok result →
    result.1 = events ++ (starts.filterMap (shown zoneinfo raw i windowStart windowEnd)).map
        (eventOf formatTime raw sourceId i) ∧
      result.2 = bytes + occurrenceBytes formatTime jsonLength raw sourceId i
        (starts.filterMap (shown zoneinfo raw i windowStart windowEnd))) ∧
  ∀ e, outcome = .error (.error e) →
    Benign e ∨ (e = budgetError ∧ ∃ front, front <+: starts ∧
      byteBudget < bytes + occurrenceBytes formatTime jsonLength raw sourceId i
        (front.filterMap (shown zoneinfo raw i windowStart windowEnd)))

variable {x : Start} {o : Start × DateTime} {rest : List Start} {events : List CalendarEvent}
  {bytes : Nat} {outcome : Except Failure (List CalendarEvent × Nat)}

theorem Emits.skip (hnone : shown zoneinfo raw i windowStart windowEnd x = none)
    (h : Emits zoneinfo formatTime jsonLength raw sourceId i windowStart windowEnd byteBudget
      rest events bytes outcome) :
    Emits zoneinfo formatTime jsonLength raw sourceId i windowStart windowEnd byteBudget
      (x :: rest) events bytes outcome := by
  unfold Emits
  rw [List.filterMap_cons_none hnone]
  refine ⟨h.1, fun e he => (h.2 e he).imp_right fun ⟨hbudget, front, hfront, hlt⟩ => ?_⟩
  refine ⟨hbudget, x :: front, List.cons_prefix_cons.mpr ⟨rfl, hfront⟩, ?_⟩
  rw [List.filterMap_cons_none hnone]
  exact hlt

theorem occurrenceBytes_cons (l : List (Start × DateTime)) :
    occurrenceBytes formatTime jsonLength raw sourceId i (o :: l) =
      (jsonLength (eventOf formatTime raw sourceId i o) + 1) +
        occurrenceBytes formatTime jsonLength raw sourceId i l := by
  simp [occurrenceBytes]

theorem Emits.show (hshown : shown zoneinfo raw i windowStart windowEnd x = some o)
    (h : Emits zoneinfo formatTime jsonLength raw sourceId i windowStart windowEnd byteBudget
      rest (events ++ [eventOf formatTime raw sourceId i o])
      (bytes + (jsonLength (eventOf formatTime raw sourceId i o) + 1)) outcome) :
    Emits zoneinfo formatTime jsonLength raw sourceId i windowStart windowEnd byteBudget
      (x :: rest) events bytes outcome := by
  unfold Emits
  rw [List.filterMap_cons_some hshown, occurrenceBytes_cons]
  refine ⟨fun result hresult => ?_,
    fun e he => (h.2 e he).imp_right fun ⟨hbudget, front, hfront, hlt⟩ => ?_⟩
  · obtain ⟨hevents, hbytes⟩ := h.1 result hresult
    refine ⟨?_, ?_⟩
    · rw [hevents, List.map_cons, List.append_assoc, List.singleton_append]
    · rw [hbytes, Nat.add_assoc]
  · refine ⟨hbudget, x :: front, List.cons_prefix_cons.mpr ⟨rfl, hfront⟩, ?_⟩
    rw [List.filterMap_cons_some hshown, occurrenceBytes_cons]
    omega

/-- The emitting loop maps the occurrences in the window and counts their bytes. -/
theorem emits_emit (starts : List Start) (events : List CalendarEvent) (bytes : Nat) :
    Emits zoneinfo formatTime jsonLength raw sourceId i windowStart windowEnd byteBudget
      starts events bytes
      (emit zoneinfo formatTime jsonLength raw sourceId i windowStart windowEnd byteBudget
        starts events bytes) := by
  induction starts generalizing events bytes with
  | nil =>
      refine ⟨fun result h => ?_, fun e h => by cases h⟩
      cases h
      simp [occurrenceBytes]
  | cons x rest ih =>
      rw [emit]
      by_cases hexcluded : x.1 ∈ raw.exdates
      · rw [if_pos hexcluded]
        exact (ih events bytes).skip (by simp [shown, hexcluded])
      · rw [if_neg hexcluded]
        cases hend : occurrenceEnd zoneinfo i.duration i.civilDuration x with
        | error failure =>
            refine ⟨fun result h => (by cases h), fun e h => ?_⟩
            cases h
            exact Or.inl (occurrenceEnd_error hend)
        | ok endsAt =>
            dsimp only
            by_cases hvisible : windowStart.val < endsAt.val ∧ x.1.val < windowEnd.val
            · have hshown : shown zoneinfo raw i windowStart windowEnd x = some (x, endsAt) :=
                shown_eq_some.mpr ⟨rfl, hexcluded, hend, hvisible⟩
              rw [if_pos hvisible]
              by_cases hroom : bytes + (jsonLength (calendarEvent formatTime raw sourceId i x.1
                  endsAt) + 1) ≤ byteBudget
              · rw [if_pos hroom]
                exact (ih _ _).show hshown
              · rw [if_neg hroom]
                refine ⟨fun result h => (by cases h), fun e h => ?_⟩
                cases h
                refine Or.inr ⟨rfl, [x], (List.prefix_append [x] rest), ?_⟩
                rw [List.filterMap_cons_some hshown, occurrenceBytes_cons]
                change ¬ bytes + (jsonLength (eventOf formatTime raw sourceId i (x, endsAt)) + 1) ≤
                  byteBudget at hroom
                omega
            · rw [if_neg hvisible]
              refine (ih events bytes).skip ?_
              rw [shown, if_neg hexcluded, hend]
              exact if_neg hvisible

end Emitting

section Expansion

variable {zoneinfo : Text → Option (List UInt8)} {formatTime : DateTime → Text}
  {jsonLength : CalendarEvent → Nat} {raw : RawEvent} {sourceId : Text} {i : Interval}
  {windowStart windowEnd : DateTime} {byteBudget maxOccurrences : Nat}

/-- The start of an event with its civil time. -/
def Interval.first (i : Interval) : Start :=
  (i.start.instant, i.start.civil)

/-- An occurrence of the event that meets the window; `before` is asked of every step. -/
structure Occurs (zoneinfo : Text → Option (List UInt8)) (raw : RawEvent) (i : Interval)
    (windowStart windowEnd : DateTime) (before : DateTime → Prop) (o : Start × DateTime) :
    Prop where
  candidate : Candidate zoneinfo raw.rule raw.rdates i.first before o.1
  included : o.1.1 ∉ raw.exdates
  ends : occurrenceEnd zoneinfo i.duration i.civilDuration o.1 = .ok o.2
  meets : windowStart.val < o.2.val ∧ o.1.1.val < windowEnd.val

/-- Every step of the rule is later than the one before. -/
def Forward (zoneinfo : Text → Option (List UInt8)) (rule : Option Recurrence)
    (first : Start) : Prop :=
  ∀ n x y, Instance zoneinfo rule first (fun _ => True) n x →
    Instance zoneinfo rule first (fun _ => True) (n + 1) y → x.1.val < y.1.val

theorem forward_of_absolute {rule : Option Recurrence} {first : Start} (hfirst : first.2 = none) :
    Forward zoneinfo rule first := by
  intro n x y hx hy
  obtain ⟨r, hrule⟩ : ∃ r, rule = some r := by
    cases hy with
    | next _ hrule => exact ⟨_, hrule⟩
  obtain ⟨-, hxval⟩ := hx.absolute hrule hfirst
  obtain ⟨-, hyval⟩ := hy.absolute hrule hfirst
  have hpos := r.frequency.seconds_pos
  rw [hxval, hyval]
  push_cast
  rw [add_mul]
  omega

/-- Going forward, a step before the end of the window comes after such steps only. -/
theorem Forward.instance_before {rule : Option Recurrence} {first : Start}
    (hforward : Forward zoneinfo rule first) {n : Nat} {x : Start} {windowEnd : DateTime}
    (h : Instance zoneinfo rule first (fun _ => True) n x) (hx : Before windowEnd x.1) :
    Instance zoneinfo rule first (Before windowEnd) n x := by
  induction h with
  | first => exact .first
  | @next r n x y h hrule hcount hstep huntil hbefore ih =>
      have hlt := hforward n x y h (.next h hrule hcount hstep huntil hbefore)
      exact .next (ih (hlt.trans hx)) hrule hcount hstep huntil hx

theorem Forward.candidate_iff {rule : Option Recurrence} {rdates : List DateTime} {first x : Start}
    (hforward : Forward zoneinfo rule first) {windowEnd : DateTime} (hx : Before windowEnd x.1) :
    Candidate zoneinfo rule rdates first (Before windowEnd) x ↔
      Candidate zoneinfo rule rdates first (fun _ => True) x := by
  have hsame : ∀ n y, Before windowEnd y.1 → (Instance zoneinfo rule first (Before windowEnd) n y ↔
      Instance zoneinfo rule first (fun _ => True) n y) := fun n y hy =>
    ⟨Instance.mono fun _ _ => trivial, fun h => hforward.instance_before h hy⟩
  unfold Candidate
  refine or_congr (exists_congr fun n => hsame n x hx) (and_congr Iff.rfl (and_congr Iff.rfl ?_))
  constructor
  · intro h n y hy heq
    exact h n y ((hsame n y (heq ▸ hx)).mpr hy) heq
  · intro h n y hy heq
    exact h n y ((hsame n y (heq ▸ hx)).mp hy) heq

theorem expand_of_interval {windowStart windowEnd : DateTime} {byteBudget limit : Nat}
    (hraw : interval raw = .ok i) :
    expand zoneinfo formatTime jsonLength raw sourceId windowStart windowEnd limit byteBudget =
      match allStarts zoneinfo raw.rule raw.rdates i.first windowEnd limit with
      | .error e => .error (.error e)
      | .ok starts =>
          emit zoneinfo formatTime jsonLength raw sourceId i windowStart windowEnd byteBudget
            starts [] 0 := by
  unfold expand
  rw [hraw]
  rfl

/--
When `expand` succeeds it emits, in strict order, the occurrences that meet the
window, where the rule ends at its first step that is not before the end of the
window; if the steps go forward, these are all the occurrences that meet the
window.  An exceeded limit means that the start, the steps before the end of the
window and the listed dates are more instants than the limit, an exceeded budget
that occurrences in the window need more bytes.
-/
theorem expand_exact (hraw : interval raw = .ok i) (hresolved : Resolved zoneinfo i.first) :
    (∀ events bytes, expand zoneinfo formatTime jsonLength raw sourceId windowStart windowEnd
        (occurrenceLimit maxOccurrences) byteBudget = .ok (events, bytes) →
      ∃ occurrences : List (Start × DateTime),
        occurrences.Pairwise (fun a b => a.1.1.val < b.1.1.val) ∧
        (∀ o, o ∈ occurrences ↔
          Occurs zoneinfo raw i windowStart windowEnd (Before windowEnd) o) ∧
        events = occurrences.map (eventOf formatTime raw sourceId i) ∧
        bytes = occurrenceBytes formatTime jsonLength raw sourceId i occurrences) ∧
    (∀ e, expand zoneinfo formatTime jsonLength raw sourceId windowStart windowEnd
        (occurrenceLimit maxOccurrences) byteBudget = .error (.error e) →
      (e = ruleLimitError ∨ e = expansionLimitError) →
      ∃ l : List DateTime, l.Nodup ∧ occurrenceLimit maxOccurrences < l.length ∧ ∀ t ∈ l,
        (∃ n x, Instance zoneinfo raw.rule i.first (Before windowEnd) n x ∧ x.1 = t) ∨
          t ∈ raw.rdates) ∧
    (expand zoneinfo formatTime jsonLength raw sourceId windowStart windowEnd
        (occurrenceLimit maxOccurrences) byteBudget = .error (.error budgetError) →
      ∃ occurrences : List (Start × DateTime),
        occurrences.Pairwise (fun a b => a.1.1.val < b.1.1.val) ∧
        (∀ o ∈ occurrences, Occurs zoneinfo raw i windowStart windowEnd (Before windowEnd) o) ∧
        byteBudget < occurrenceBytes formatTime jsonLength raw sourceId i occurrences) ∧
    ((i.start.civil = none ∨ Forward zoneinfo raw.rule i.first) →
      ∀ o, Occurs zoneinfo raw i windowStart windowEnd (Before windowEnd) o ↔
        Occurs zoneinfo raw i windowStart windowEnd (fun _ => True) o) := by
  have hlimit : occurrenceLimit maxOccurrences < usizeMax := by
    unfold occurrenceLimit usizeMax
    omega
  obtain ⟨hok, herror⟩ := @allStarts_spec zoneinfo raw.rule raw.rdates i.first windowEnd
    (occurrenceLimit maxOccurrences) hresolved hlimit
  have hexpand :
      expand zoneinfo formatTime jsonLength raw sourceId windowStart windowEnd
        (occurrenceLimit maxOccurrences) byteBudget = _ := expand_of_interval hraw
  -- the shown starts of a sorted list are occurrences in order
  have hshown : ∀ l : List Start, l.Pairwise (fun a b => a.1.val < b.1.val) →
      (∀ x ∈ l, Candidate zoneinfo raw.rule raw.rdates i.first (Before windowEnd) x) →
      (l.filterMap (shown zoneinfo raw i windowStart windowEnd)).Pairwise
          (fun a b => a.1.1.val < b.1.1.val) ∧
        ∀ o ∈ l.filterMap (shown zoneinfo raw i windowStart windowEnd),
          Occurs zoneinfo raw i windowStart windowEnd (Before windowEnd) o := by
    intro l hsorted hcandidate
    constructor
    · refine List.Pairwise.filterMap _ (fun a b hab o ho p hp => ?_) hsorted
      obtain ⟨rfl, -⟩ := shown_eq_some.mp ho
      obtain ⟨rfl, -⟩ := shown_eq_some.mp hp
      exact hab
    · intro o ho
      obtain ⟨x, hx, hox⟩ := List.mem_filterMap.mp ho
      obtain ⟨rfl, hincluded, hend, hmeets⟩ := shown_eq_some.mp hox
      exact ⟨hcandidate _ hx, hincluded, hend, hmeets⟩
  have hall : (i.start.civil = none ∨ Forward zoneinfo raw.rule i.first) →
      ∀ o, Occurs zoneinfo raw i windowStart windowEnd (Before windowEnd) o ↔
        Occurs zoneinfo raw i windowStart windowEnd (fun _ => True) o := by
    intro h o
    have hforward : Forward zoneinfo raw.rule i.first :=
      h.elim (@forward_of_absolute zoneinfo raw.rule i.first) id
    constructor
    · exact fun ho => ⟨(hforward.candidate_iff ho.meets.2).mp ho.candidate, ho.included, ho.ends,
        ho.meets⟩
    · exact fun ho => ⟨(hforward.candidate_iff ho.meets.2).mpr ho.candidate, ho.included, ho.ends,
        ho.meets⟩
  rw [hexpand]
  cases hstarts : allStarts zoneinfo raw.rule raw.rdates i.first windowEnd
      (occurrenceLimit maxOccurrences) with
  | error e =>
      refine ⟨fun events bytes h => (by cases h), fun e' h hexceeded => ?_, fun h => ?_, hall⟩
      · cases h
        rcases herror e hstarts with hbenign | ⟨-, hl⟩
        · exact absurd hexceeded hbenign.not_limit
        · exact hl
      · cases h
        rcases herror _ hstarts with hbenign | ⟨hexceeded, -⟩
        · exact absurd rfl hbenign.not_budget
        · exact absurd hexceeded (by decide)
  | ok starts =>
      obtain ⟨hsorted, hcandidate⟩ := hok starts hstarts
      have hemit := @emits_emit zoneinfo formatTime jsonLength raw sourceId i windowStart windowEnd
        byteBudget starts [] 0
      refine ⟨fun events bytes h => ?_, fun e h hexceeded => ?_, fun h => ?_, hall⟩
      · obtain ⟨hevents, hbytes⟩ := hemit.1 _ h
        obtain ⟨hpairwise, hoccurs⟩ := hshown starts hsorted fun x hx => (hcandidate x).mp hx
        refine ⟨_, hpairwise, fun o => ⟨hoccurs o, fun ho => ?_⟩, by simpa using hevents,
          by simpa using hbytes⟩
        exact List.mem_filterMap.mpr ⟨o.1, (hcandidate o.1).mpr ho.candidate,
          shown_eq_some.mpr ⟨rfl, ho.included, ho.ends, ho.meets⟩⟩
      · rcases hemit.2 e h with hbenign | ⟨rfl, -⟩
        · exact absurd hexceeded hbenign.not_limit
        · exact absurd hexceeded (by decide)
      · rcases hemit.2 _ h with hbenign | ⟨-, front, hfront, hlt⟩
        · exact absurd rfl hbenign.not_budget
        · obtain ⟨hpairwise, hoccurs⟩ := hshown front (hsorted.sublist hfront.sublist)
            fun x hx => (hcandidate x).mp (hfront.subset hx)
          exact ⟨_, hpairwise, hoccurs, by simpa using hlt⟩

end Expansion

section Sample

def noZones : Text → Option (List UInt8) :=
  fun _ => none

def noText : DateTime → Text :=
  fun _ => []

/-- One hour, every day since the epoch. -/
def dailyEvent : RawEvent where
  uid := some ['u']
  summary := some ['s']
  location := none
  start := some ⟨⟨0, by decide⟩, false, none⟩
  eventEnd := some ⟨⟨3600, by decide⟩, false, none⟩
  rule := some ⟨.daily, some 10, none⟩
  rdates := []
  exdates := []

def dailyInterval : Interval where
  uid := ['u']
  summary := ['s']
  start := ⟨⟨0, by decide⟩, false, none⟩
  duration := 3600
  civilDuration := none

/-- Day 3 of the daily event is a window with one occurrence. -/
theorem dailyEvent_occurs {o : Start × DateTime}
    (h : Occurs noZones dailyEvent dailyInterval ⟨259200, by decide⟩ ⟨345600, by decide⟩
      (fun _ => True) o) : o.1.1.val = 259200 := by
  obtain ⟨hcandidate, -, hend, hmeets⟩ := h
  have hinstance : ∃ n, Instance noZones dailyEvent.rule dailyInterval.first (fun _ => True) n o.1 := by
    rcases hcandidate with hn | ⟨-, hrdate, -⟩
    · exact hn
    · cases hrdate
  obtain ⟨n, hn⟩ := hinstance
  obtain ⟨-, hval⟩ := hn.absolute rfl rfl
  have hendsAt : o.2.val = o.1.1.val + 3600 := by
    obtain ⟨⟨instant, civil⟩, endsAt⟩ := o
    unfold occurrenceEnd at hend
    dsimp only [dailyInterval] at hend
    split at hend
    · rename_i hnone
      cases hnone
    · split at hend
      · cases hend
      · rename_i t ht
        cases hend
        exact (fromTimestamp_eq_some.mp ht).symm
  have hfirst : dailyInterval.first.1.val = 0 := rfl
  have hstep : Frequency.seconds .daily = 86400 := rfl
  obtain ⟨hafter, hbefore⟩ := hmeets
  simp only [hfirst, hstep] at hval
  simp only at hafter hbefore
  omega

/-- Before T1 the zone is at its base, then a day ahead, a day behind, and a day ahead again. -/
def leapingFile : List UInt8 :=
  Tzif.magic ++ List.replicate 16 0 ++
    [0, 0, 0, 0, 0, 0, 0, 0, 0, 0, 0, 0, 0, 0, 0, 3, 0, 0, 0, 3, 0, 0, 0, 0] ++
    [0, 0, 0xA8, 0xC0, 0, 1, 0xFA, 0x40, 0, 2, 0xF7, 0x60] ++ [1, 2, 1] ++
    [0, 0, 0, 0, 0, 0] ++ [0, 1, 0x51, 0x80, 0, 0] ++ [0xFF, 0xFE, 0xAE, 0x80, 0, 0]

def leapingZone : Tzif where
  transitions := [43200, 129600, 194400]
  indices := [1, 2, 1]
  offsets := [0, 86400, -86400]
  defaultIndex := 0

theorem parse_leapingFile : Tzif.parse leapingFile = .ok leapingZone := by
  decide +kernel

def leapingLookup : Text → Option (List UInt8) :=
  fun _ => some leapingFile

theorem leapingZone_offset (u : Int) :
    leapingZone.offsetAt u =
      if u < 43200 then 0 else if u < 129600 then 86400 else if u < 194400 then -86400
      else 86400 := by
  have hcount : partitionPoint (fun transition => decide (transition ≤ u)) leapingZone.transitions =
      leapingZone.transitions.countP fun transition => decide (transition ≤ u) := by
    refine partitionPoint_eq (partitioned_countP ?_)
    simp only [leapingZone, List.pairwise_cons, List.mem_cons, decide_eq_true_eq]
    grind
  unfold Tzif.offsetAt
  rw [hcount]
  by_cases h₁ : 43200 ≤ u <;> by_cases h₂ : 129600 ≤ u <;> by_cases h₃ : 194400 ≤ u <;>
    simp [leapingZone, h₁, h₂, h₃] <;> omega

/-- A local time that shows at one instant of the leaping zone resolves to it. -/
theorem resolveLocalTime_leaping {civil t : DateTime}
    (hshows : leapingZone.Shows t.val civil.val)
    (hunique : ∀ u, leapingZone.Shows u civil.val → u = t.val) :
    resolveLocalTime leapingLookup ['X'] civil = .ok t := by
  have hmatches := (localMatches_eq_singleton (Tzif.wellFormed_of_parse parse_leapingFile) civil
    t.val).mpr ⟨hshows, hunique⟩
  have hvalid : validZoneName ['X'] = true := by decide
  rw [resolveLocalTime_of_parse hvalid rfl parse_leapingFile, hmatches]
  dsimp only
  rw [fromTimestamp_eq_some.mpr rfl]

/-- The times of the leaping zone that the sample needs. -/
theorem leaping_times :
    resolveLocalTime leapingLookup ['X'] ⟨0, by decide⟩ = .ok ⟨0, by decide⟩ ∧
      resolveLocalTime leapingLookup ['X'] ⟨3600, by decide⟩ = .ok ⟨3600, by decide⟩ ∧
      resolveLocalTime leapingLookup ['X'] ⟨86400, by decide⟩ = .ok ⟨172800, by decide⟩ ∧
      resolveLocalTime leapingLookup ['X'] ⟨172800, by decide⟩ = .ok ⟨86400, by decide⟩ ∧
      resolveLocalTime leapingLookup ['X'] ⟨176400, by decide⟩ = .ok ⟨90000, by decide⟩ := by
  refine ⟨resolveLocalTime_leaping ?_ ?_, resolveLocalTime_leaping ?_ ?_,
    resolveLocalTime_leaping ?_ ?_, resolveLocalTime_leaping ?_ ?_,
    resolveLocalTime_leaping ?_ ?_⟩
  all_goals
    simp only [Tzif.Shows, leapingZone_offset]
    grind

/-- One hour, every day from local time zero of the leaping zone. -/
def leapingEvent : RawEvent where
  uid := some ['u']
  summary := some ['s']
  location := none
  start := some ⟨⟨0, by decide⟩, false, some (⟨0, by decide⟩, ['X'])⟩
  eventEnd := some ⟨⟨3600, by decide⟩, false, some (⟨3600, by decide⟩, ['X'])⟩
  rule := some ⟨.daily, some 10, none⟩
  rdates := []
  exdates := []

def leapingInterval : Interval where
  uid := ['u']
  summary := ['s']
  start := ⟨⟨0, by decide⟩, false, some (⟨0, by decide⟩, ['X'])⟩
  duration := 3600
  civilDuration := some 3600

theorem interval_leapingEvent : interval leapingEvent = .ok leapingInterval := by
  decide

theorem advance_leaping {t civil next : DateTime} (hnext : civil.val + 86400 = next.val) :
    advance leapingLookup 86400 (t, some (civil, ['X'])) =
      (resolveLocalTime leapingLookup ['X'] next).map fun current =>
        (current, some (next, ['X'])) := by
  unfold advance
  dsimp only
  rw [fromTimestamp_eq_some.mpr hnext]

/-- The first step lies behind the window, so the loop ends with the start alone. -/
theorem allStarts_leapingEvent :
    allStarts leapingLookup leapingEvent.rule leapingEvent.rdates leapingInterval.first
        ⟨129600, by decide⟩ (occurrenceLimit 10) = .ok [leapingInterval.first] := by
  have hstep : advance leapingLookup (Frequency.seconds .daily) leapingInterval.first =
      .ok (⟨172800, by decide⟩, some (⟨86400, by decide⟩, ['X'])) := by
    have hadvance := @advance_leaping ⟨0, by decide⟩ ⟨0, by decide⟩ ⟨86400, by decide⟩ rfl
    rw [leaping_times.2.2.1] at hadvance
    exact hadvance
  have hrule : ruleStarts leapingLookup leapingEvent.rule leapingInterval.first
      ⟨129600, by decide⟩ (occurrenceLimit 10) = .ok [leapingInterval.first] := by
    change ruleLoop leapingLookup (Frequency.seconds .daily) none ⟨129600, by decide⟩
      (occurrenceLimit 10) (8 + 1) [leapingInterval.first] leapingInterval.first = _
    rw [ruleLoop, hstep]
    rfl
  unfold allStarts
  rw [hrule]
  simp [leapingEvent, orderStarts, dedupByKey, dedupByKey.loop, occurrenceLimit]

theorem expand_leapingEvent :
    expand leapingLookup noText (fun _ => 0) leapingEvent ['x'] ⟨77760, by decide⟩
      ⟨129600, by decide⟩ (occurrenceLimit 10) 1000 = .ok ([], 0) := by
  have hend : occurrenceEnd leapingLookup leapingInterval.duration leapingInterval.civilDuration
      leapingInterval.first = .ok ⟨3600, by decide⟩ := by
    have hcivil : fromTimestamp (0 + 3600) = some ⟨3600, by decide⟩ := by decide
    simp only [occurrenceEnd, leapingInterval, Interval.first, hcivil, leaping_times.2.1]
  unfold expand
  rw [interval_leapingEvent]
  dsimp only
  rw [show allStarts leapingLookup leapingEvent.rule leapingEvent.rdates
    (leapingInterval.start.instant, leapingInterval.start.civil) ⟨129600, by decide⟩
      (occurrenceLimit 10) = _ from allStarts_leapingEvent]
  dsimp only
  rw [emit, if_neg (by simp [leapingEvent]), hend]
  rfl

/-- Three days of the event, the second of which comes last. -/
def leapingThrice : RawEvent :=
  { leapingEvent with rule := some ⟨.daily, some 3, none⟩ }

/-- Both steps of the rule, put in the order of time. -/
theorem allStarts_leapingThrice :
    allStarts leapingLookup leapingThrice.rule leapingThrice.rdates leapingInterval.first
        ⟨1000000, by decide⟩ (occurrenceLimit 10) =
      .ok [leapingInterval.first,
        (⟨86400, by decide⟩, some (⟨172800, by decide⟩, ['X'])),
        (⟨172800, by decide⟩, some (⟨86400, by decide⟩, ['X']))] := by
  have hone := @advance_leaping ⟨0, by decide⟩ ⟨0, by decide⟩ ⟨86400, by decide⟩ rfl
  rw [leaping_times.2.2.1] at hone
  have htwo := @advance_leaping ⟨172800, by decide⟩ ⟨86400, by decide⟩ ⟨172800, by decide⟩ rfl
  rw [leaping_times.2.2.2.1] at htwo
  have hrule : ruleStarts leapingLookup leapingThrice.rule leapingInterval.first
      ⟨1000000, by decide⟩ (occurrenceLimit 10) =
        .ok [leapingInterval.first,
          (⟨172800, by decide⟩, some (⟨86400, by decide⟩, ['X'])),
          (⟨86400, by decide⟩, some (⟨172800, by decide⟩, ['X']))] := by
    change ruleLoop leapingLookup 86400 none ⟨1000000, by decide⟩ (occurrenceLimit 10) (1 + 1)
      [leapingInterval.first] (⟨0, by decide⟩, some (⟨0, by decide⟩, ['X'])) = _
    rw [ruleLoop, hone]
    change ruleLoop leapingLookup 86400 none ⟨1000000, by decide⟩ (occurrenceLimit 10) (0 + 1)
      [leapingInterval.first, (⟨172800, by decide⟩, some (⟨86400, by decide⟩, ['X']))]
      (⟨172800, by decide⟩, some (⟨86400, by decide⟩, ['X'])) = _
    rw [ruleLoop, htwo]
    rfl
  unfold allStarts
  rw [hrule]
  simp [leapingThrice, leapingEvent, leapingInterval, Interval.first, orderStarts, List.mergeSort,
    List.MergeSort.Internal.splitInTwo, dedupByKey, dedupByKey.loop, occurrenceLimit]

/-- A start that is not excluded and meets the window is emitted, within the budget. -/
theorem emit_shown {start : Start} {starts : List Start} {events : List CalendarEvent}
    {bytes byteBudget : Nat} {endsAt : DateTime} (hexdate : start.1 ∉ raw.exdates)
    (hend : occurrenceEnd zoneinfo i.duration i.civilDuration start = .ok endsAt)
    (hmeets : windowStart.val < endsAt.val ∧ start.1.val < windowEnd.val)
    (hbudget : bytes + (jsonLength (calendarEvent formatTime raw sourceId i start.1 endsAt) + 1) ≤
      byteBudget) :
    emit zoneinfo formatTime jsonLength raw sourceId i windowStart windowEnd byteBudget
        (start :: starts) events bytes =
      emit zoneinfo formatTime jsonLength raw sourceId i windowStart windowEnd byteBudget starts
        (events ++ [calendarEvent formatTime raw sourceId i start.1 endsAt])
        (bytes + (jsonLength (calendarEvent formatTime raw sourceId i start.1 endsAt) + 1)) := by
  rw [emit, if_neg hexdate, hend]
  simp only [hmeets, hbudget, and_self, if_true]

theorem occurrenceEnd_leaping {instant civil local' endsAt : DateTime}
    (hcivil : fromTimestamp (civil.val + 3600) = some local')
    (hresolve : resolveLocalTime leapingLookup ['X'] local' = .ok endsAt) :
    occurrenceEnd leapingLookup leapingInterval.duration leapingInterval.civilDuration
      (instant, some (civil, ['X'])) = .ok endsAt := by
  simp only [occurrenceEnd, leapingInterval, hcivil, hresolve]

theorem expand_leapingThrice :
    (expand leapingLookup noText (fun _ => 0) leapingThrice ['x'] ⟨0, by decide⟩
      ⟨1000000, by decide⟩ (occurrenceLimit 10) 1000).toOption.map (·.1.map (·.id)) =
        some ["u@0".toList, "u@86400".toList, "u@172800".toList] := by
  have hthird : resolveLocalTime leapingLookup ['X'] ⟨90000, by decide⟩ =
      .ok ⟨176400, by decide⟩ := by
    refine resolveLocalTime_leaping ?_ ?_
    all_goals
      simp only [Tzif.Shows, leapingZone_offset]
      grind
  have hends : occurrenceEnd leapingLookup leapingInterval.duration leapingInterval.civilDuration
      leapingInterval.first = .ok ⟨3600, by decide⟩ :=
    occurrenceEnd_leaping rfl leaping_times.2.1
  rw [@expand_of_interval leapingLookup noText (fun _ => 0) leapingThrice ['x'] leapingInterval
    ⟨0, by decide⟩ ⟨1000000, by decide⟩ 1000 (occurrenceLimit 10) (by decide),
    allStarts_leapingThrice]
  dsimp only
  rw [emit_shown (by simp [leapingThrice, leapingEvent]) hends (by decide) (by decide),
    emit_shown (by simp [leapingThrice, leapingEvent])
      (occurrenceEnd_leaping rfl leaping_times.2.2.2.2) (by decide) (by decide),
    emit_shown (by simp [leapingThrice, leapingEvent]) (occurrenceEnd_leaping rfl hthird)
      (by decide) (by decide)]
  decide

/-- In a window that holds all of them, the three occurrences are emitted in time order. -/
theorem expand_exact_leaping :
    ∃ occurrences : List (Start × DateTime),
      (∀ o, o ∈ occurrences ↔ Occurs leapingLookup leapingThrice leapingInterval
        ⟨0, by decide⟩ ⟨1000000, by decide⟩ (Before ⟨1000000, by decide⟩) o) ∧
      (occurrences.map (eventOf noText leapingThrice ['x'] leapingInterval)).map (·.id) =
        ["u@0".toList, "u@86400".toList, "u@172800".toList] := by
  have hresolved : Resolved leapingLookup leapingInterval.first := by
    intro civil timezone h
    cases h
    exact leaping_times.1
  obtain ⟨hok, -⟩ := @expand_exact leapingLookup noText (fun _ => 0) leapingThrice ['x']
    leapingInterval ⟨0, by decide⟩ ⟨1000000, by decide⟩ 1000 10 (by decide) hresolved
  have hexpand := expand_leapingThrice
  rcases hrun : expand leapingLookup noText (fun _ => 0) leapingThrice ['x'] ⟨0, by decide⟩
      ⟨1000000, by decide⟩ (occurrenceLimit 10) 1000 with e | ⟨events, bytes⟩
  · rw [hrun] at hexpand
    cases hexpand
  · obtain ⟨occurrences, -, hmem, hevents, -⟩ := hok _ _ hrun
    rw [hrun] at hexpand
    exact ⟨occurrences, hmem, hevents ▸ Option.some.inj hexpand⟩

/-- The second step of the event is back inside the window. -/
theorem leapingEvent_occurs :
    Occurs leapingLookup leapingEvent leapingInterval ⟨77760, by decide⟩ ⟨129600, by decide⟩
      (fun _ => True)
      ((⟨86400, by decide⟩, some (⟨172800, by decide⟩, ['X'])), ⟨90000, by decide⟩) := by
  obtain ⟨-, -, hfirst, hsecond, hend⟩ := leaping_times
  have hone := @advance_leaping ⟨0, by decide⟩ ⟨0, by decide⟩ ⟨86400, by decide⟩ rfl
  rw [hfirst] at hone
  have htwo := @advance_leaping ⟨172800, by decide⟩ ⟨86400, by decide⟩ ⟨172800, by decide⟩ rfl
  rw [hsecond] at htwo
  have hcount : ∀ n count : Nat, n < 2 → some 10 = some count → n + 1 < count := by
    intro n count hn h
    cases h
    omega
  have hstart : Instance leapingLookup leapingEvent.rule leapingInterval.first (fun _ => True) 0
      leapingInterval.first := .first
  have hnext := hstart.next rfl (fun count h => hcount 0 count (by omega) h) hone
    (fun u h => by cases h) trivial
  refine ⟨Or.inl ⟨2, hnext.next rfl (fun count h => hcount 1 count (by omega) h) htwo
    (fun u h => by cases h) trivial⟩, by simp [leapingEvent], ?_, by decide, by decide⟩
  have hcivil : fromTimestamp (172800 + 3600) = some ⟨176400, by decide⟩ := by decide
  simp only [occurrenceEnd, leapingInterval, hcivil, hend]

/--
Two daily events: the limit is exceeded by days before the window, in which one
occurrence lies; and where the zone leaps, an occurrence inside the window comes
after a step behind it and is not emitted.
-/
theorem expand_misses :
    (expand noZones noText (fun _ => 0) dailyEvent ['x'] ⟨259200, by decide⟩ ⟨345600, by decide⟩
        (occurrenceLimit 2) 1000 = .error (.error ruleLimitError) ∧
      ∀ o, Occurs noZones dailyEvent dailyInterval ⟨259200, by decide⟩ ⟨345600, by decide⟩
        (fun _ => True) o → o.1.1.val = 259200) ∧
    expand leapingLookup noText (fun _ => 0) leapingEvent ['x'] ⟨77760, by decide⟩
        ⟨129600, by decide⟩ (occurrenceLimit 10) 1000 = .ok ([], 0) ∧
      ∃ o, Occurs leapingLookup leapingEvent leapingInterval ⟨77760, by decide⟩
        ⟨129600, by decide⟩ (fun _ => True) o := by
  refine ⟨⟨by decide, fun o h => dailyEvent_occurs h⟩, expand_leapingEvent,
    _, leapingEvent_occurs⟩

end Sample

end Calendar
end SleepySession
