import SleepySession.Desktop.AggregateRules

/-!
# Localized contract failures

Before the first snapshot every state is tried alone among placeholders, and a
state whose snapshot is refused gives way to a failure of its own domain.  When
the states that are left are too large together, the largest ones give way
until the rest fits.
-/

namespace SleepySession
namespace Desktop

section Definitions

variable {V : DesktopDomainId → Type} (sdk : DesktopSdk V)

/-- The place of a domain in the derived order. -/
def DesktopDomainId.index (domain : DesktopDomainId) : Nat :=
  DesktopDomainId.all.idxOf domain

/-- The loop that fills the placeholders. -/
def fillBaseline : List DesktopDomainId → StateMap V → Except IoError (StateMap V)
  | [], baseline => .ok baseline
  | domain :: rest, baseline => do
      let state ← DesktopDomainState.terminal domain .unsupported "producer.probe-isolation"
      fillBaseline rest (baseline.insert domain state)

/-- The loop that tries every state alone. -/
def isolateFailures (baseline : StateMap V) :
    List DesktopDomainId → StateMap V → Except IoError (StateMap V)
  | [], localized => .ok localized
  | domain :: rest, localized =>
      match localized domain with
      | none => isolateFailures baseline rest localized
      | some candidate =>
          match assemble sdk (baseline.insert domain candidate) with
          | .ok _ => isolateFailures baseline rest localized
          | .error _ => do
              let state ← DesktopDomainState.terminal domain .parse "producer.contract-invalid"
              isolateFailures baseline rest (localized.insert domain state)

def budgetError (error : IoError) : Bool :=
  error.message = "desktop.frame-too-large" ∨ error.message = "desktop.aggregate-budget-exceeded"

/-- The size of a snapshot that shows one state among placeholders. -/
def contributionBytes (baseline : StateMap V) (domain : DesktopDomainId)
    (state : DesktopDomainState V) : Nat :=
  match assemble sdk (baseline.insert domain state) with
  | .ok snapshot => (sdk.snapshotBytes snapshot).getD 0
  | .error _ => 0

/-- What an available domain contributes. -/
def contribution (baseline localized : StateMap V) (domain : DesktopDomainId) :
    Option (Nat × DesktopDomainId) :=
  match localized domain with
  | none => none
  | some state =>
      if state.status = .available then
        some (contributionBytes sdk baseline domain state, domain)
      else none

/-- The comparison of `sort_by`, by size and then by domain, the greatest first. -/
def contributionBefore (left right : Nat × DesktopDomainId) : Bool :=
  right.1 < left.1 ∨ (right.1 = left.1 ∧ right.2.index ≤ left.2.index)

def contributions (baseline localized : StateMap V) : List (Nat × DesktopDomainId) :=
  (DesktopDomainId.all.filterMap (contribution sdk baseline localized)).mergeSort
    contributionBefore

/-- The loop that gives up the largest states. -/
def demoteLargest (error : IoError) :
    List (Nat × DesktopDomainId) → StateMap V → Except IoError (StateMap V)
  | [], _ => .error error
  | (_, domain) :: rest, localized => do
      let state ← DesktopDomainState.terminal domain .parse "producer.aggregate-budget-exceeded"
      let localized := localized.insert domain state
      match assemble sdk localized with
      | .ok _ => .ok localized
      | .error _ => demoteLargest error rest localized

def localizeContractFailures (states : StateMap V) : Except IoError (StateMap V) := do
  let baseline ← fillBaseline DesktopDomainId.all fun _ => none
  let localized ← isolateFailures sdk baseline DesktopDomainId.all states
  match assemble sdk localized with
  | .ok _ => .ok localized
  | .error error =>
      if budgetError error then
        demoteLargest sdk error (contributions sdk baseline localized) localized
      else
        .error error

end Definitions

section Placeholders

variable {V : DesktopDomainId → Type} {sdk : DesktopSdk V}

/-- The state of a domain that has failed with a diagnostic of the registry. -/
def failedState (domain : DesktopDomainId) (status : CapabilityAvailability) (text : String)
    (hstatus : status ≠ .available) (htext : blank text = false) : DesktopDomainState V :=
  ⟨domain, status, none, some text, .inr ⟨hstatus, rfl, text, rfl, htext⟩⟩

theorem terminal_eq (domain : DesktopDomainId) {status : CapabilityAvailability} {text : String}
    (hstatus : status ≠ .available) (htext : blank text = false) :
    (DesktopDomainState.terminal domain status text : Except IoError (DesktopDomainState V)) =
      .ok (failedState domain status text hstatus htext) := by
  unfold DesktopDomainState.terminal
  rw [dif_neg hstatus, dif_neg (by simp [htext])]
  rfl

/-- The state that stands for a refused one. -/
def contractInvalid (V : DesktopDomainId → Type) (domain : DesktopDomainId) :
    DesktopDomainState V :=
  failedState domain .parse "producer.contract-invalid" (by decide) (by decide)

/-- The state that stands for one that is too large. -/
def budgetExceeded (V : DesktopDomainId → Type) (domain : DesktopDomainId) :
    DesktopDomainState V :=
  failedState domain .parse "producer.aggregate-budget-exceeded" (by decide)
    (by decide)

/-- The placeholder of a domain. -/
def placeholder (V : DesktopDomainId → Type) (domain : DesktopDomainId) : DesktopDomainState V :=
  failedState domain .unsupported "producer.probe-isolation" (by decide) (by decide)

def placeholders (V : DesktopDomainId → Type) : StateMap V :=
  fun domain => some (placeholder V domain)

theorem fillBaseline_eq (domains : List DesktopDomainId) (baseline : StateMap V) :
    fillBaseline domains baseline =
      .ok fun domain => if domain ∈ domains then some (placeholder V domain)
        else baseline domain := by
  induction domains generalizing baseline with
  | nil => simp [fillBaseline]
  | cons first rest ih =>
      rw [fillBaseline, terminal_eq first (by decide) (by decide)]
      refine (ih _).trans (congrArg Except.ok (funext fun domain => ?_))
      by_cases hrest : domain ∈ rest
      · simp [hrest]
      · by_cases hfirst : domain = first
        · subst hfirst
          simp [hrest, StateMap.insert, placeholder]
        · simp [hrest, hfirst, StateMap.insert]

theorem fillBaseline_all :
    fillBaseline DesktopDomainId.all (fun _ => none) = .ok (placeholders V) := by
  rw [fillBaseline_eq]
  refine congrArg Except.ok (funext fun domain => ?_)
  rw [if_pos (DesktopDomainId.mem_all domain)]
  rfl

end Placeholders

section Isolation

variable {V : DesktopDomainId → Type} (sdk : DesktopSdk V)

/-- The state is accepted when it stands alone among placeholders. -/
def AcceptedAlone (domain : DesktopDomainId) (state : DesktopDomainState V) : Prop :=
  ∃ snapshot, assemble sdk ((placeholders V).insert domain state) = .ok snapshot

open Classical in
/-- What the states are after every one of them was tried alone. -/
noncomputable def isolated (states : StateMap V) : StateMap V :=
  fun domain => (states domain).map fun state =>
    if AcceptedAlone sdk domain state then state else contractInvalid V domain

variable {sdk}

/-- The trial of a domain looks at its own state only, so the order does not matter. -/
theorem isolateFailures_eq {domains : List DesktopDomainId} (hnodup : domains.Nodup)
    (states : StateMap V) :
    isolateFailures sdk (placeholders V) domains states =
      .ok fun domain => if domain ∈ domains then isolated sdk states domain
        else states domain := by
  induction domains generalizing states with
  | nil => simp [isolateFailures]
  | cons first rest ih =>
      obtain ⟨hfirst, hrest⟩ := List.nodup_cons.mp hnodup
      have hresult : ∀ states' : StateMap V, states' first = isolated sdk states first →
          (∀ domain, domain ≠ first → states' domain = states domain) →
          isolateFailures sdk (placeholders V) rest states' =
            .ok fun domain => if domain ∈ first :: rest then isolated sdk states domain
              else states domain := by
        intro states' hself hother
        rw [ih hrest states']
        refine congrArg Except.ok (funext fun domain => ?_)
        by_cases heq : domain = first
        · subst heq
          simp [hfirst, hself]
        · by_cases hmem : domain ∈ rest <;> simp [hmem, heq, isolated, hother domain heq]
      rw [isolateFailures]
      cases hstate : states first with
      | none => exact hresult states (by simp [isolated, hstate]) fun _ _ => rfl
      | some candidate =>
          cases htrial : assemble sdk ((placeholders V).insert first candidate) with
          | ok snapshot =>
              have haccepted : AcceptedAlone sdk first candidate := ⟨snapshot, htrial⟩
              simp only [htrial]
              exact hresult states (by simp [isolated, hstate, haccepted]) fun _ _ => rfl
          | error e =>
              have hrefused : ¬ AcceptedAlone sdk first candidate := by
                rintro ⟨snapshot, hsnapshot⟩
                rw [htrial] at hsnapshot
                cases hsnapshot
              simp only [htrial]
              rw [terminal_eq first (by decide) (by decide)]
              refine hresult _ ?_ fun domain hdomain => Function.update_of_ne hdomain _ _
              rw [show (states.insert first (failedState first .parse
                "producer.contract-invalid" (by decide) (by decide))) first = _ from
                Function.update_self _ _ _]
              simp [isolated, hstate, hrefused, contractInvalid]

theorem isolateFailures_all (states : StateMap V) :
    isolateFailures sdk (placeholders V) DesktopDomainId.all states =
      .ok (isolated sdk states) := by
  rw [isolateFailures_eq (by decide)]
  refine congrArg Except.ok (funext fun domain => ?_)
  rw [if_pos (DesktopDomainId.mem_all domain)]

end Isolation

section Demotion

variable {V : DesktopDomainId → Type} {sdk : DesktopSdk V}

/-- The states after the given domains were given up. -/
def demoted (states : StateMap V) (domains : List DesktopDomainId) : StateMap V :=
  fun domain => if domain ∈ domains then some (budgetExceeded V domain) else states domain

theorem demoted_nil (states : StateMap V) : demoted states [] = states := by
  funext domain
  simp [demoted]

theorem demoted_cons (states : StateMap V) (domain : DesktopDomainId)
    (domains : List DesktopDomainId) :
    demoted (states.insert domain (budgetExceeded V domain)) domains =
      demoted states (domain :: domains) := by
  funext other
  by_cases hmem : other ∈ domains
  · simp [demoted, hmem]
  · by_cases heq : other = domain
    · subst heq
      simp [demoted, hmem, StateMap.insert]
    · simp [demoted, hmem, heq, StateMap.insert]

/-- The states fit together. -/
def Fits (sdk : DesktopSdk V) (states : StateMap V) : Prop :=
  ∃ snapshot, assemble sdk states = .ok snapshot

theorem demoteLargest_of_fits {error : IoError} {bytes : Nat} {domain : DesktopDomainId}
    {rest : List (Nat × DesktopDomainId)} {states : StateMap V}
    (h : Fits sdk (states.insert domain (budgetExceeded V domain))) :
    demoteLargest sdk error ((bytes, domain) :: rest) states =
      .ok (states.insert domain (budgetExceeded V domain)) := by
  obtain ⟨snapshot, hsnapshot⟩ := h
  rw [demoteLargest, terminal_eq domain (by decide) (by decide)]
  simp only [Bind.bind, Except.bind]
  rw [show failedState domain .parse "producer.aggregate-budget-exceeded" (by decide)
    (by decide) = budgetExceeded V domain from rfl, hsnapshot]

theorem demoteLargest_of_not_fits {error : IoError} {bytes : Nat} {domain : DesktopDomainId}
    {rest : List (Nat × DesktopDomainId)} {states : StateMap V}
    (h : ¬ Fits sdk (states.insert domain (budgetExceeded V domain))) :
    demoteLargest sdk error ((bytes, domain) :: rest) states =
      demoteLargest sdk error rest (states.insert domain (budgetExceeded V domain)) := by
  rw [demoteLargest, terminal_eq domain (by decide) (by decide)]
  simp only [Bind.bind, Except.bind]
  rw [show failedState domain .parse "producer.aggregate-budget-exceeded" (by decide)
    (by decide) = budgetExceeded V domain from rfl]
  cases hassembled : assemble sdk (states.insert domain (budgetExceeded V domain)) with
  | ok snapshot => exact absurd ⟨snapshot, hassembled⟩ h
  | error e => rfl

/-- What the first candidates leave once the very first one was given up. -/
theorem demoted_take_succ (states : StateMap V) (bytes : Nat) (domain : DesktopDomainId)
    (rest : List (Nat × DesktopDomainId)) (n : Nat) :
    demoted states ((((bytes, domain) :: rest).take (n + 1)).map (·.2)) =
      demoted (states.insert domain (budgetExceeded V domain)) ((rest.take n).map (·.2)) := by
  rw [List.take_succ_cons, List.map_cons, demoted_cons]

/-- As few of the candidates as possible are given up, in their order. -/
theorem demoteLargest_ok {error : IoError} {candidates : List (Nat × DesktopDomainId)}
    {states result : StateMap V} (h : demoteLargest sdk error candidates states = .ok result) :
    ∃ n, 0 < n ∧ n ≤ candidates.length ∧
      result = demoted states ((candidates.take n).map (·.2)) ∧ Fits sdk result ∧
      ∀ k, 0 < k → k < n → ¬ Fits sdk (demoted states ((candidates.take k).map (·.2))) := by
  induction candidates generalizing states with
  | nil => cases h
  | cons first rest ih =>
      obtain ⟨bytes, domain⟩ := first
      by_cases hfits : Fits sdk (states.insert domain (budgetExceeded V domain))
      · rw [demoteLargest_of_fits hfits] at h
        obtain rfl := Except.ok.inj h
        refine ⟨1, Nat.one_pos, Nat.succ_le_succ (Nat.zero_le _), ?_, hfits,
          fun k hk hk' => absurd hk' (by omega)⟩
        rw [demoted_take_succ, List.take_zero, List.map_nil, demoted_nil]
      · rw [demoteLargest_of_not_fits hfits] at h
        obtain ⟨n, hpos, hle, hresult, hfits', hleast⟩ := ih h
        refine ⟨n + 1, Nat.succ_pos n, Nat.succ_le_succ hle, ?_, hfits', fun k hk hk' => ?_⟩
        · rw [hresult, demoted_take_succ]
        · obtain ⟨m, rfl⟩ : ∃ m, k = m + 1 := ⟨k - 1, by omega⟩
          rw [demoted_take_succ]
          rcases Nat.eq_zero_or_pos m with rfl | hm
          · rwa [List.take_zero, List.map_nil, demoted_nil]
          · exact hleast m hm (by omega)

/-- When no number of demotions helps, the first error is returned. -/
theorem demoteLargest_error {error e : IoError} {candidates : List (Nat × DesktopDomainId)}
    {states : StateMap V} (h : demoteLargest sdk error candidates states = .error e) :
    e = error ∧ ∀ k, 0 < k → k ≤ candidates.length →
      ¬ Fits sdk (demoted states ((candidates.take k).map (·.2))) := by
  induction candidates generalizing states with
  | nil =>
      cases h
      exact ⟨rfl, fun k hk hk' => absurd hk' (Nat.not_le.mpr hk)⟩
  | cons first rest ih =>
      obtain ⟨bytes, domain⟩ := first
      by_cases hfits : Fits sdk (states.insert domain (budgetExceeded V domain))
      · rw [demoteLargest_of_fits hfits] at h
        cases h
      · rw [demoteLargest_of_not_fits hfits] at h
        obtain ⟨herror, hnone⟩ := ih h
        refine ⟨herror, fun k hk hk' => ?_⟩
        obtain ⟨m, rfl⟩ : ∃ m, k = m + 1 := ⟨k - 1, by omega⟩
        rw [demoted_take_succ]
        rcases Nat.eq_zero_or_pos m with rfl | hm
        · rwa [List.take_zero, List.map_nil, demoted_nil]
        · exact hnone m hm (Nat.le_of_succ_le_succ hk')

end Demotion

section Order

variable {V : DesktopDomainId → Type} {sdk : DesktopSdk V}

theorem contributionBefore_trans (a b c : Nat × DesktopDomainId)
    (hab : contributionBefore a b = true) (hbc : contributionBefore b c = true) :
    contributionBefore a c = true := by
  simp only [contributionBefore, decide_eq_true_eq] at *
  omega

theorem contributionBefore_total (a b : Nat × DesktopDomainId) :
    (contributionBefore a b || contributionBefore b a) = true := by
  simp only [contributionBefore, Bool.or_eq_true, decide_eq_true_eq]
  omega

theorem contributions_sorted (baseline localized : StateMap V) :
    (contributions sdk baseline localized).Pairwise fun a b => b.1 ≤ a.1 := by
  refine (List.pairwise_mergeSort contributionBefore_trans contributionBefore_total _).imp ?_
  intro a b hab
  simp only [contributionBefore, decide_eq_true_eq] at hab
  omega

end Order

section Result

variable {V : DesktopDomainId → Type} {sdk : DesktopSdk V}

/-- The candidates for a demotion, the largest first. -/
noncomputable def candidates (sdk : DesktopSdk V) (states : StateMap V) :
    List (Nat × DesktopDomainId) :=
  contributions sdk (placeholders V) (isolated sdk states)

/-- The candidates are the domains whose state is available, each with its size. -/
theorem mem_candidates {states : StateMap V} {size : Nat} {domain : DesktopDomainId} :
    (size, domain) ∈ candidates sdk states ↔
      ∃ state, isolated sdk states domain = some state ∧ state.status = .available ∧
        size = contributionBytes sdk (placeholders V) domain state := by
  simp only [candidates, contributions, List.mem_mergeSort, List.mem_filterMap, contribution]
  constructor
  · rintro ⟨domain', -, h⟩
    split at h
    · cases h
    · rename_i state hstate
      split at h
      · rename_i havailable
        cases h
        exact ⟨state, hstate, havailable, rfl⟩
      · cases h
  · rintro ⟨state, hstate, havailable, rfl⟩
    refine ⟨domain, by cases domain <;> decide, ?_⟩
    rw [hstate]
    exact if_pos havailable

/-- No domain is a candidate twice. -/
theorem nodup_candidates (states : StateMap V) :
    ((candidates sdk states).map (·.2)).Nodup := by
  have hdomains : ∀ domains : List DesktopDomainId,
      ((domains.filterMap (contribution sdk (placeholders V) (isolated sdk states))).map
        (·.2)).Sublist domains := by
    intro domains
    induction domains with
    | nil => exact .slnil
    | cons domain rest ih =>
        rw [List.filterMap_cons]
        split
        · exact ih.cons _
        · rename_i found hfound
          have hsame : found.2 = domain := by
            unfold contribution at hfound
            split at hfound
            · cases hfound
            · split at hfound <;> cases hfound
              rfl
          rw [List.map_cons, hsame]
          exact ih.cons_cons _
  have hperm := (List.mergeSort_perm (DesktopDomainId.all.filterMap
    (contribution sdk (placeholders V) (isolated sdk states))) contributionBefore).map (·.2)
  exact hperm.nodup_iff.mpr ((hdomains _).nodup (by decide))

/-- What is left when the first candidates are given up. -/
noncomputable def withoutLargest (sdk : DesktopSdk V) (states : StateMap V) (n : Nat) :
    StateMap V :=
  demoted (isolated sdk states) (((candidates sdk states).take n).map (·.2))

theorem withoutLargest_zero (states : StateMap V) :
    withoutLargest sdk states 0 = isolated sdk states := by
  unfold withoutLargest
  rw [List.take_zero, List.map_nil, demoted_nil]

/-- What the localization of `states` may come to.  As few of the largest states as possible
are given up; an error is that of the states that were accepted alone, and if it is one of the
budget then no demotion would have helped. -/
def LocalizedAs (sdk : DesktopSdk V) (states : StateMap V) :
    Except IoError (StateMap V) → Prop
  | .ok result =>
      Fits sdk result ∧ ∃ n, n ≤ (candidates sdk states).length ∧
        result = withoutLargest sdk states n ∧
        (∀ k, k < n → ¬ Fits sdk (withoutLargest sdk states k)) ∧
        ∀ kept ∈ (candidates sdk states).drop n, ∀ lost ∈ (candidates sdk states).take n,
          kept.1 ≤ lost.1
  | .error e =>
      assemble sdk (isolated sdk states) = .error e ∧
        (budgetError e = true → ∀ k, k ≤ (candidates sdk states).length →
          ¬ Fits sdk (withoutLargest sdk states k))

theorem kept_le_lost (states : StateMap V) (n : Nat) :
    ∀ kept ∈ (candidates sdk states).drop n, ∀ lost ∈ (candidates sdk states).take n,
      kept.1 ≤ lost.1 := by
  intro kept hkept lost hlost
  have hsorted : (candidates sdk states).Pairwise fun a b => b.1 ≤ a.1 :=
    contributions_sorted (placeholders V) (isolated sdk states)
  rw [← List.take_append_drop n (candidates sdk states)] at hsorted
  exact (List.pairwise_append.mp hsorted).2.2 lost hlost kept hkept

/-- The localization does what it may come to. -/
theorem localizedAs_localizeContractFailures (states : StateMap V) :
    LocalizedAs sdk states (localizeContractFailures sdk states) := by
  unfold localizeContractFailures
  rw [fillBaseline_all]
  simp only [Bind.bind, Except.bind, isolateFailures_all]
  cases hassembled : assemble sdk (isolated sdk states) with
  | ok snapshot =>
      refine ⟨⟨snapshot, hassembled⟩, 0, Nat.zero_le _, (withoutLargest_zero states).symm,
        fun k hk => absurd hk (Nat.not_lt_zero k), kept_le_lost states 0⟩
  | error e =>
      have hnot : ¬ Fits sdk (withoutLargest sdk states 0) := by
        rw [withoutLargest_zero]
        rintro ⟨snapshot, hsnapshot⟩
        rw [hassembled] at hsnapshot
        cases hsnapshot
      by_cases hbudget : budgetError e = true
      · simp only [if_pos hbudget]
        cases hdemote : demoteLargest sdk e
            (contributions sdk (placeholders V) (isolated sdk states)) (isolated sdk states) with
        | ok result =>
            obtain ⟨n, hpos, hle, hresult, hfits, hleast⟩ := demoteLargest_ok hdemote
            refine ⟨hfits, n, hle, hresult, fun k hk => ?_, kept_le_lost states n⟩
            rcases Nat.eq_zero_or_pos k with rfl | hk'
            · exact hnot
            · exact hleast k hk' hk
        | error e' =>
            obtain ⟨rfl, hnone⟩ := demoteLargest_error hdemote
            refine ⟨hassembled, fun _ k hk => ?_⟩
            rcases Nat.eq_zero_or_pos k with rfl | hk'
            · exact hnot
            · exact hnone k hk' hk
      · simp only [if_neg hbudget]
        exact ⟨hassembled, fun h => absurd h hbudget⟩

/-- The localization gives up as little as possible, the largest of the available states first,
and whatever it returns is assembled without an error. -/
theorem localization_gives_up_least (states : StateMap V) :
    LocalizedAs sdk states (localizeContractFailures sdk states) ∧
      ((candidates sdk states).map (·.2)).Nodup ∧
      ∀ size domain, (size, domain) ∈ candidates sdk states ↔
        ∃ state, isolated sdk states domain = some state ∧ state.status = .available ∧
          size = contributionBytes sdk (placeholders V) domain state :=
  ⟨localizedAs_localizeContractFailures states, nodup_candidates states,
    fun _ _ => mem_candidates⟩

end Result

end Desktop
end SleepySession
