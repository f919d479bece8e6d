import Mathlib.Tactic

/-!
# Checked folds

A loop that checks each element against what it has collected so far, and stops
at the first error.  Where one turn of the loop succeeds exactly under a guard,
the loop succeeds exactly when the guards hold along it; the usual guards come
down to conditions in which the order of the elements does not matter.
-/

namespace SleepySession

namespace Checks

variable {ε σ α β κ : Type}

theorem bind_eq_ok_iff {x : Except ε α} {f : α → Except ε β} {b : β} :
    x >>= f = .ok b ↔ ∃ a, x = .ok a ∧ f a = .ok b := by
  cases x with
  | error e =>
      constructor
      · exact fun h => nomatch h
      · rintro ⟨a, h, -⟩
        cases h
  | ok a =>
      constructor
      · exact fun h => ⟨a, rfl, h⟩
      · rintro ⟨a', h, hb⟩
        cases h
        exact hb

theorem pure_eq_ok_iff {a b : α} : (pure a : Except ε α) = .ok b ↔ b = a :=
  ⟨fun h => (Except.ok.inj h).symm, fun h => congrArg _ h.symm⟩

/-- The rest of a block behind a check. -/
theorem check_bind_eq_ok_iff {x : Except ε Unit} {y : Except ε β} {b : β} :
    (x >>= fun _ => y) = .ok b ↔ x = .ok () ∧ y = .ok b := by
  rw [bind_eq_ok_iff]
  exact ⟨fun ⟨_, hx, hy⟩ => ⟨hx, hy⟩, fun ⟨hx, hy⟩ => ⟨(), hx, hy⟩⟩

def ensure (condition : Prop) [Decidable condition] (e : ε) : Except ε Unit :=
  if condition then .ok () else .error e

@[simp] theorem ensure_eq_ok_iff {condition : Prop} [Decidable condition] {e : ε} {u : Unit} :
    ensure condition e = .ok u ↔ condition := by
  unfold ensure
  split_ifs with h
  · exact iff_of_true rfl h
  · exact iff_of_false nofun h

/-- A loop of checks that collects nothing. -/
theorem forM_eq_ok_iff {f : α → Except ε Unit} {xs : List α} {u : Unit} :
    xs.forM f = .ok u ↔ ∀ x ∈ xs, f x = .ok () := by
  induction xs with
  | nil => exact ⟨nofun, fun _ => rfl⟩
  | cons x xs ih =>
      rw [List.forall_mem_cons, ← ih]
      exact check_bind_eq_ok_iff

/-- The guard holds of each element and the state in which the loop meets it. -/
def Along (guard : σ → α → Prop) (add : σ → α → σ) : σ → List α → Prop
  | _, [] => True
  | s, x :: xs => guard s x ∧ Along guard add (add s x) xs

section Folds

variable {f : σ → α → Except ε σ} {guard guard' : σ → α → Prop} {add : σ → α → σ}
variable {s s' : σ} {xs : List α}

theorem foldlM_eq_ok_iff (h : ∀ s x s', f s x = .ok s' ↔ guard s x ∧ s' = add s x) :
    xs.foldlM f s = .ok s' ↔ Along guard add s xs ∧ s' = xs.foldl add s := by
  induction xs generalizing s with
  | nil =>
      rw [List.foldlM_nil]
      exact ⟨fun hs => ⟨trivial, (Except.ok.inj hs).symm⟩, fun hs => congrArg _ hs.2.symm⟩
  | cons x xs ih =>
      rw [List.foldlM_cons, bind_eq_ok_iff]
      constructor
      · rintro ⟨next, hstep, hrest⟩
        obtain ⟨hguard, rfl⟩ := (h s x next).mp hstep
        obtain ⟨hguards, hs'⟩ := ih.mp hrest
        exact ⟨⟨hguard, hguards⟩, hs'⟩
      · rintro ⟨⟨hguard, hguards⟩, hs'⟩
        exact ⟨add s x, (h s x _).mpr ⟨hguard, rfl⟩, ih.mpr ⟨hguards, hs'⟩⟩

/-- What every step of a fold preserves holds of its result. -/
theorem foldlM_invariant
    {step : σ → α → Except ε σ} (I : σ → Prop)
    (hstep : ∀ b x b', I b → step b x = .ok b' → I b') :
    ∀ (items : List α) (b b' : σ), I b → items.foldlM step b = .ok b' → I b' := by
  intro items
  induction items with
  | nil =>
      intro b b' hb h
      cases h
      exact hb
  | cons x items ih =>
      intro b b' hb h
      rw [List.foldlM_cons, bind_eq_ok_iff] at h
      obtain ⟨mid, hmid, hrest⟩ := h
      exact ih mid b' (hstep b x mid hb hmid) hrest

theorem along_and :
    Along (fun s x => guard s x ∧ guard' s x) add s xs ↔
      Along guard add s xs ∧ Along guard' add s xs := by
  induction xs generalizing s with
  | nil => exact ⟨fun _ => ⟨trivial, trivial⟩, fun _ => trivial⟩
  | cons x xs ih =>
      simp only [Along, ih]
      tauto

theorem along_append {ys : List α} :
    Along guard add s (xs ++ ys) ↔ Along guard add s xs ∧ Along guard add (xs.foldl add s) ys := by
  induction xs generalizing s with
  | nil => simp [Along]
  | cons x xs ih => rw [List.cons_append, Along, ih, Along, List.foldl_cons, and_assoc]

/-- A guard that does not look at the state. -/
theorem along_const {P : α → Prop} : Along (fun _ x => P x) add s xs ↔ ∀ x ∈ xs, P x := by
  induction xs generalizing s with
  | nil => simp [Along]
  | cons x xs ih => rw [Along, ih, List.forall_mem_cons]

theorem mem_foldl_keys (keys : σ → List κ) (key : α → κ) {k : κ}
    (h : ∀ s x, keys (add s x) = key x :: keys s) :
    k ∈ keys (xs.foldl add s) ↔ k ∈ keys s ∨ ∃ x ∈ xs, key x = k := by
  induction xs generalizing s with
  | nil => simp
  | cons x xs ih =>
      rw [List.foldl_cons, ih, h, List.mem_cons]
      simp only [List.mem_cons, exists_eq_or_imp]
      rw [eq_comm (a := k)]
      tauto

/-- What a loop appends. -/
theorem foldl_collects (collected : σ → List β) {g : α → List β}
    (h : ∀ s x, collected (add s x) = collected s ++ g x) :
    collected (xs.foldl add s) = collected s ++ xs.flatMap g := by
  induction xs generalizing s with
  | nil => simp
  | cons x xs ih => rw [List.foldl_cons, ih, h, List.flatMap_cons, List.append_assoc]

/-- A guard against keys that were met before. -/
theorem along_fresh (keys : σ → List κ) (key : α → κ)
    (h : ∀ s x, keys (add s x) = key x :: keys s) :
    Along (fun s x => key x ∉ keys s) add s xs ↔
      (∀ x ∈ xs, key x ∉ keys s) ∧ (xs.map key).Nodup := by
  induction xs generalizing s with
  | nil => simp [Along]
  | cons x xs ih =>
      rw [Along, ih, h, List.map_cons, List.nodup_cons, List.forall_mem_cons]
      constructor
      · rintro ⟨hx, hxs, hnodup⟩
        refine ⟨⟨hx, fun y hy hmem => hxs y hy (List.mem_cons_of_mem _ hmem)⟩, ?_, hnodup⟩
        intro hmem
        obtain ⟨y, hy, hkey⟩ := List.mem_map.mp hmem
        exact hxs y hy (hkey ▸ List.mem_cons_self)
      · rintro ⟨⟨hx, hxs⟩, hnew, hnodup⟩
        refine ⟨hx, fun y hy hmem => ?_, hnodup⟩
        rcases List.mem_cons.mp hmem with hkey | hmem
        · exact hnew (hkey ▸ List.mem_map_of_mem hy)
        · exact hxs y hy hmem

/-- A guard against a second element of a kind. -/
theorem along_once (seen : σ → Bool) (p : α → Bool)
    (h : ∀ s x, seen (add s x) = (seen s || p x)) :
    Along (fun s x => p x = true → seen s = false) add s xs ↔
      xs.countP p + (if seen s then 1 else 0) ≤ 1 := by
  induction xs generalizing s with
  | nil => cases hs : seen s <;> simp [Along]
  | cons x xs ih =>
      rw [Along, ih, h, List.countP_cons]
      cases hp : p x <;> cases hs : seen s <;> simp

/-- A guard that bounds a running total. -/
theorem along_bounded (total : σ → Nat) (size : α → Nat) {bound : Nat}
    (h : ∀ s x, total (add s x) = total s + size x) (hs : total s ≤ bound) :
    Along (fun s x => total s + size x ≤ bound) add s xs ↔
      total s + (xs.map size).sum ≤ bound := by
  induction xs generalizing s with
  | nil => simp [Along, hs]
  | cons x xs ih =>
      rw [Along, List.map_cons, List.sum_cons, ← Nat.add_assoc, ← h]
      constructor
      · rintro ⟨hx, hxs⟩
        exact (ih hx).mp hxs
      · intro hsum
        have hx : total (add s x) ≤ bound := (Nat.le_add_right _ _).trans hsum
        exact ⟨hx, (ih hx).mpr hsum⟩

/-- What a loop remembers of the one element of a kind. -/
theorem foldl_once {p : α → Bool} {g : α → β} {found : Option β} (hcount : xs.countP p ≤ 1)
    (hfound : 0 < xs.countP p → found = none) {b : β} :
    xs.foldl (fun o x => if p x then some (g x) else o) found = some b ↔
      found = some b ∨ ∃ x ∈ xs, p x = true ∧ g x = b := by
  induction xs generalizing found with
  | nil => simp
  | cons x xs ih =>
      rw [List.countP_cons] at hcount hfound
      rw [List.foldl_cons]
      cases hp : p x with
      | false =>
          simp only [hp, Bool.false_eq_true, if_false, Nat.add_zero] at hcount hfound ⊢
          rw [ih hcount hfound]
          simp [hp]
      | true =>
          simp only [hp, if_true] at hcount hfound ⊢
          have hnone : xs.countP p = 0 := by omega
          rw [ih (by omega) (fun h => by omega), hfound (by omega)]
          have hrest : ∀ y ∈ xs, p y = false := by
            simpa [List.countP_eq_zero] using hnone
          constructor
          · rintro (hx | ⟨y, hy, hpy, -⟩)
            · exact Or.inr ⟨x, List.mem_cons_self, hp, Option.some.inj hx⟩
            · exact absurd hpy (by simp [hrest y hy])
          · rintro (h | ⟨y, hy, hpy, hgy⟩)
            · cases h
            · rcases List.mem_cons.mp hy with rfl | hy
              · exact Or.inl (congrArg some hgy)
              · exact absurd hpy (by simp [hrest y hy])

end Folds

section Maps

theorem mapM_eq_ok_map
    {f : α → Except ε β} {g : α → β} {l : List α}
    (h : ∀ a ∈ l, f a = .ok (g a)) :
    l.mapM f = .ok (l.map g) := by
  induction l with
  | nil => rfl
  | cons a l ih =>
      rw [List.mapM_cons, h a (by simp), ih fun x hx => h x (by simp [hx])]
      rfl

theorem of_mapM_eq_ok
    {f : α → Except ε β} {l : List α} {l' : List β}
    (h : l.mapM f = .ok l') :
    ∀ a ∈ l, ∃ b, f a = .ok b := by
  induction l generalizing l' with
  | nil => simp
  | cons a l ih =>
      rw [List.mapM_cons, bind_eq_ok_iff] at h
      obtain ⟨b, hb, h⟩ := h
      obtain ⟨bs, hbs, _⟩ := bind_eq_ok_iff.mp h
      intro x hx
      rcases List.mem_cons.mp hx with rfl | hx
      · exact ⟨b, hb⟩
      · exact ih hbs x hx

theorem exists_of_mapM_eq_ok
    {f : α → Except ε β} {l : List α} {l' : List β}
    (h : l.mapM f = .ok l') :
    ∀ b ∈ l', ∃ a ∈ l, f a = .ok b := by
  induction l generalizing l' with
  | nil =>
      cases h
      simp
  | cons a l ih =>
      rw [List.mapM_cons] at h
      obtain ⟨b, hb, h⟩ := bind_eq_ok_iff.mp h
      obtain ⟨bs, hbs, h⟩ := bind_eq_ok_iff.mp h
      cases h
      intro x hx
      rcases List.mem_cons.mp hx with rfl | hx
      · exact ⟨a, by simp, hb⟩
      · obtain ⟨y, hy, hfy⟩ := ih hbs x hx
        exact ⟨y, by simp [hy], hfy⟩

/-- A key that survives the conversion of each element is that of the results. -/
theorem mapM_keys
    {f : α → Except ε β} {key : α → κ} {key' : β → κ}
    (hf : ∀ x y, f x = .ok y → key' y = key x) :
    ∀ (items : List α) (results : List β),
      items.mapM f = .ok results → results.map key' = items.map key := by
  intro items
  induction items with
  | nil =>
      intro results h
      cases h
      rfl
  | cons x items ih =>
      intro results h
      rw [List.mapM_cons, bind_eq_ok_iff] at h
      obtain ⟨y, hy, h⟩ := h
      obtain ⟨ys, hys, h⟩ := bind_eq_ok_iff.mp h
      cases h
      simp [hf x y hy, ih ys hys]

end Maps

section Reports

/-- A loop that says whether one of its steps reported something. -/
def reportM (step : σ → α → Except ε (σ × Bool)) (s : σ) (xs : List α) : Except ε (σ × Bool) :=
  xs.foldlM (fun acc x => do
    let r ← step acc.1 x
    pure (r.1, acc.2 || r.2)) (s, false)

/-- Whether a step of the loop reports something, each in the state in which the
loop meets its element. -/
def Reported (report : σ → α → Bool) (add : σ → α → σ) : σ → List α → Bool
  | _, [] => false
  | s, x :: xs => report s x || Reported report add (add s x) xs

variable {step : σ → α → Except ε (σ × Bool)} {guard : σ → α → Prop} {add : σ → α → σ}
variable {report : σ → α → Bool} {s : σ} {x : α} {xs ys : List α} {r : σ × Bool}

theorem reported_iff :
    Reported report add s xs = true ↔
      ∃ before x after, xs = before ++ x :: after ∧ report (before.foldl add s) x = true := by
  induction xs generalizing s with
  | nil => simp [Reported]
  | cons y xs ih =>
      rw [Reported, Bool.or_eq_true, ih]
      constructor
      · rintro (hy | ⟨before, x, after, rfl, hx⟩)
        · exact ⟨[], y, xs, rfl, hy⟩
        · exact ⟨y :: before, x, after, rfl, hx⟩
      · rintro ⟨before, x, after, heq, hx⟩
        cases before with
        | nil =>
            obtain ⟨rfl, rfl⟩ := List.cons.inj heq
            exact Or.inl hx
        | cons z before =>
            obtain ⟨rfl, rfl⟩ := List.cons.inj heq
            exact Or.inr ⟨before, x, after, rfl, hx⟩

theorem reported_append :
    Reported report add s (xs ++ ys) =
      (Reported report add s xs || Reported report add (xs.foldl add s) ys) := by
  induction xs generalizing s with
  | nil => rfl
  | cons x xs ih => rw [List.cons_append, Reported, ih, Reported, List.foldl_cons, Bool.or_assoc]

/-- The report of the loop can be joined to an earlier one at its end. -/
theorem foldlM_report {changed : Bool} :
    xs.foldlM (fun acc x => do
      let r ← step acc.1 x
      pure (r.1, acc.2 || r.2)) (s, changed) =
      (reportM step s xs).map fun r => (r.1, changed || r.2) := by
  induction xs generalizing s changed with
  | nil => simp [reportM, Except.map, pure, Except.pure]
  | cons x xs ih =>
      rw [reportM, List.foldlM_cons, List.foldlM_cons]
      cases hx : step s x with
      | error e => rfl
      | ok next =>
          change List.foldlM _ (next.1, changed || next.2) xs =
            Except.map _ (List.foldlM _ (next.1, false || next.2) xs)
          rw [ih, ih]
          cases reportM step next.1 xs with
          | error e => rfl
          | ok r => simp [Except.map, Bool.or_assoc]

@[simp] theorem reportM_nil : reportM step s [] = .ok (s, false) :=
  rfl

theorem reportM_append :
    reportM step s (xs ++ ys) =
      (reportM step s xs >>= fun r =>
        (reportM step r.1 ys).map fun r' => (r'.1, r.2 || r'.2)) := by
  rw [reportM, List.foldlM_append]
  exact bind_congr fun r => foldlM_report

theorem reportM_singleton : reportM step s [x] = step s x := by
  rw [reportM, List.foldlM_cons]
  cases hx : step s x with
  | error e => rfl
  | ok r => simp [pure, Except.pure, bind, Except.bind]

/-- Where every step reports nothing but what it is known to report. -/
theorem reportM_eq_ok_iff
    (h : ∀ s x r, step s x = .ok r ↔ guard s x ∧ r = (add s x, report s x)) :
    reportM step s xs = .ok r ↔
      Along guard add s xs ∧ r = (xs.foldl add s, Reported report add s xs) := by
  induction xs generalizing s r with
  | nil =>
      rw [reportM_nil]
      exact ⟨fun hr => ⟨trivial, (Except.ok.inj hr).symm⟩, fun hr => congrArg _ hr.2.symm⟩
  | cons x xs ih =>
      rw [← List.singleton_append, reportM_append, reportM_singleton, bind_eq_ok_iff]
      constructor
      · rintro ⟨next, hstep, hrest⟩
        obtain ⟨hguard, rfl⟩ := (h s x next).mp hstep
        cases hxs : reportM step (add s x) xs with
        | error e =>
            rw [hxs] at hrest
            cases hrest
        | ok r' =>
            rw [hxs] at hrest
            obtain ⟨hguards, rfl⟩ := ih.mp hxs
            exact ⟨⟨hguard, hguards⟩, (Except.ok.inj hrest).symm⟩
      · rintro ⟨⟨hguard, hguards⟩, rfl⟩
        refine ⟨_, (h s x _).mpr ⟨hguard, rfl⟩, ?_⟩
        rw [ih.mpr ⟨hguards, rfl⟩]
        rfl

end Reports

end Checks

end SleepySession
