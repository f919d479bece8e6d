import Mathlib.Tactic

/-!
# Directories that lose power

A cell is one directory entry.  Besides the content that a reader sees, it
records what a loss of power may bring back: earlier contents of the same
file, as long as the file itself has not been synced, and earlier entries, as
long as the directory has not been synced.  Each entry reverts on its own, so
nothing is assumed about the order in which unsynced changes reach the disk.

Invariants over a volume are stated for all *values* of a cell, that is for
what it shows and for everything it may still revert to.  Such an invariant
survives a loss of power by construction.
-/

namespace SleepySession

/-- One directory entry together with the contents it may still revert to. -/
structure Cell (β : Type) where
  current : Option β
  torn : List β
  stale : List (Option β)
deriving DecidableEq, Repr

namespace Cell

variable {β : Type}

/-- A durable entry. -/
def settled (x : Option β) : Cell β :=
  ⟨x, [], []⟩

/-- What a reader may find, now or after a loss of power. -/
def values (c : Cell β) : List (Option β) :=
  c.current :: (c.torn.map some ++ c.stale)

/-- Replace the entry by one whose content is on disk. -/
def replace (c : Cell β) (x : Option β) : Cell β :=
  ⟨x, [], c.values⟩

/-- Move the file of another entry here. -/
def receive (c source : Cell β) : Cell β :=
  ⟨source.current, source.torn, c.values⟩

/-- Change the content of the file without syncing it. -/
def overwrite (c : Cell β) (b : β) : Cell β :=
  ⟨some b, c.current.toList ++ c.torn, c.stale⟩

/-- Sync the file. -/
def flush (c : Cell β) : Cell β :=
  ⟨c.current, [], c.stale⟩

/-- Sync the directory. -/
def sync (c : Cell β) : Cell β :=
  ⟨c.current, c.torn, []⟩

/-- Every value of the cell satisfies `P`. -/
def All (P : Option β → Prop) (c : Cell β) : Prop :=
  ∀ x ∈ c.values, P x

/-- The cell holds the same file and may revert to nothing new. -/
def Shrinks (c c' : Cell β) : Prop :=
  c'.current = c.current ∧ c'.torn = c.torn ∧ c'.stale ⊆ c.stale

/-- The cell now shows `x`, and may revert to `x` or to an earlier value. -/
def Wrote (x : Option β) (c c' : Cell β) : Prop :=
  c'.current = x ∧ c'.torn = [] ∧ ∀ y ∈ c'.values, y = x ∨ y ∈ c.values

theorem current_mem_values (c : Cell β) :
    c.current ∈ c.values := by
  simp [values]

theorem All.current
    {P : Option β → Prop}
    {c : Cell β}
    (h : c.All P) :
    P c.current :=
  h _ c.current_mem_values

theorem All.mono
    {P Q : Option β → Prop}
    {c : Cell β}
    (h : c.All P)
    (hPQ : ∀ x, P x → Q x) :
    c.All Q :=
  fun x hx => hPQ x (h x hx)

@[simp] theorem all_settled
    (P : Option β → Prop) (x : Option β) :
    (settled x).All P ↔ P x := by
  simp [All, settled, values]

@[simp] theorem current_settled (x : Option β) :
    (settled x).current = x :=
  rfl

theorem Shrinks.refl (c : Cell β) : c.Shrinks c :=
  ⟨rfl, rfl, List.Subset.refl _⟩

theorem Shrinks.trans
    {c₁ c₂ c₃ : Cell β}
    (h₁ : c₁.Shrinks c₂)
    (h₂ : c₂.Shrinks c₃) :
    c₁.Shrinks c₃ :=
  ⟨h₂.1.trans h₁.1, h₂.2.1.trans h₁.2.1, fun _ hx => h₁.2.2 (h₂.2.2 hx)⟩

theorem Shrinks.values_subset
    {c c' : Cell β}
    (h : c.Shrinks c') :
    c'.values ⊆ c.values := by
  intro x hx
  simp only [values, List.mem_cons, List.mem_append, h.1, h.2.1] at hx ⊢
  rcases hx with hx | hx | hx
  · exact Or.inl hx
  · exact Or.inr (Or.inl hx)
  · exact Or.inr (Or.inr (h.2.2 hx))

theorem Shrinks.all
    {P : Option β → Prop}
    {c c' : Cell β}
    (h : c.Shrinks c')
    (hc : c.All P) :
    c'.All P :=
  fun x hx => hc x (h.values_subset hx)

theorem shrinks_sync (c : Cell β) : c.Shrinks c.sync :=
  ⟨rfl, rfl, List.nil_subset _⟩

theorem wrote_replace (c : Cell β) (x : Option β) :
    Wrote x c (c.replace x) := by
  refine ⟨rfl, rfl, ?_⟩
  intro y hy
  simpa [replace, values] using hy

/-- Syncing the directory leaves nothing but the file that is shown. -/
theorem sync_eq_settled
    {c : Cell β}
    (htorn : c.torn = []) :
    c.sync = settled c.current := by
  simp [sync, settled, htorn]

theorem Wrote.all
    {P : Option β → Prop}
    {x : Option β}
    {c c' : Cell β}
    (h : Wrote x c c')
    (hx : P x)
    (hc : c.All P) :
    c'.All P := by
  intro y hy
  rcases h.2.2 y hy with rfl | hy
  · exact hx
  · exact hc y hy

theorem Wrote.shrinks
    {x : Option β}
    {c c₁ c₂ : Cell β}
    (h : Wrote x c c₁)
    (h₁ : c₁.Shrinks c₂) :
    Wrote x c c₂ :=
  ⟨h₁.1.trans h.1, h₁.2.1.trans h.2.1,
    fun y hy => h.2.2 y (h₁.values_subset hy)⟩

theorem Shrinks.wrote
    {x : Option β}
    {c c₁ c₂ : Cell β}
    (h : c.Shrinks c₁)
    (h₁ : Wrote x c₁ c₂) :
    Wrote x c c₂ :=
  ⟨h₁.1, h₁.2.1, fun y hy => (h₁.2.2 y hy).imp_right (h.values_subset ·)⟩

end Cell

/-- Directories `D` with entry names `N` and file contents `β`. -/
structure Volume (D N β : Type) where
  cell : D → N → Cell β

instance {D N β : Type} : CoeFun (Volume D N β) fun _ => D → N → Cell β :=
  ⟨Volume.cell⟩

namespace Volume

variable {D N β : Type}

section PowerLoss

/-- What may be found after a loss of power: every entry on its own. -/
def Reverts (v v' : Volume D N β) : Prop :=
  ∀ d n, ∃ x ∈ (v d n).values, v' d n = Cell.settled x

/-- The loss of power that keeps what the given choice function selects. -/
def powerLoss
    (v : Volume D N β) (choice : D → N → Nat) : Volume D N β :=
  ⟨fun d n =>
    Cell.settled ((v d n).values.getD (choice d n) (v d n).current)⟩

theorem reverts_powerLoss
    (v : Volume D N β) (choice : D → N → Nat) :
    v.Reverts (v.powerLoss choice) := by
  intro d n
  refine ⟨_, ?_, rfl⟩
  rw [List.getD_eq_getElem?_getD]
  cases hx : (v d n).values[choice d n]? with
  | none => exact (v d n).current_mem_values
  | some x => exact List.mem_of_getElem? hx

/-- Everything is as readers see it, and nothing can come back. -/
def settle (v : Volume D N β) : Volume D N β :=
  ⟨fun d n => Cell.settled (v d n).current⟩

theorem reverts_settle (v : Volume D N β) :
    v.Reverts v.settle :=
  fun d n => ⟨_, (v d n).current_mem_values, rfl⟩

@[simp] theorem settle_settle (v : Volume D N β) :
    v.settle.settle = v.settle :=
  rfl

/-- A value invariant of an entry survives a loss of power. -/
theorem Reverts.all
    {v v' : Volume D N β}
    {P : Option β → Prop}
    {d : D} {n : N}
    (h : v.Reverts v')
    (hP : (v d n).All P) :
    (v' d n).All P := by
  obtain ⟨x, hx, heq⟩ := h d n
  rw [heq]
  simpa using hP x hx

end PowerLoss

section Frame

/-- Outside `W` every entry shows the same and may revert to nothing new. -/
def Frame (W : D → N → Prop) (v v' : Volume D N β) : Prop :=
  ∀ d n, ¬ W d n → (v d n).Shrinks (v' d n)

variable {W W' : D → N → Prop} {v v₁ v₂ : Volume D N β}

theorem Frame.refl (W : D → N → Prop) (v : Volume D N β) :
    v.Frame W v :=
  fun d n _ => Cell.Shrinks.refl (v d n)

theorem Frame.trans
    (h₁ : v.Frame W v₁)
    (h₂ : v₁.Frame W v₂) :
    v.Frame W v₂ :=
  fun d n hn => (h₁ d n hn).trans (h₂ d n hn)

theorem Frame.mono
    (h : v.Frame W v₁)
    (hW : ∀ d n, W d n → W' d n) :
    v.Frame W' v₁ :=
  fun d n hn => h d n fun hw => hn (hW d n hw)

end Frame

section Operations

variable [DecidableEq D] [DecidableEq N]

/-- Change one entry. -/
def update
    (v : Volume D N β) (d : D) (n : N) (c : Cell β) :
    Volume D N β :=
  ⟨fun d' n' => if d' = d ∧ n' = n then c else v d' n'⟩

/-- Rename inside one directory. -/
def rename
    (v : Volume D N β) (d : D) (source destination : N) :
    Volume D N β :=
  (v.update d destination ((v d destination).receive (v d source))).update
    d source ((v d source).replace none)

@[simp] theorem update_same
    (v : Volume D N β) (d : D) (n : N) (c : Cell β) :
    v.update d n c d n = c := by
  simp [update]

theorem update_other
    (v : Volume D N β) {d d' : D} {n n' : N} (c : Cell β)
    (h : ¬(d' = d ∧ n' = n)) :
    v.update d n c d' n' = v d' n' := by
  simp [update, h]

theorem frame_update
    {W : D → N → Prop}
    (v : Volume D N β) {d : D} {n : N} (c : Cell β)
    (hW : W d n) :
    v.Frame W (v.update d n c) := by
  intro d' n' hn
  have hother : ¬(d' = d ∧ n' = n) := by
    rintro ⟨rfl, rfl⟩
    exact hn hW
  rw [update_other v c hother]
  exact Cell.Shrinks.refl _

theorem frame_rename
    {W : D → N → Prop}
    (v : Volume D N β) {d : D} {source destination : N}
    (hsource : W d source)
    (hdestination : W d destination) :
    v.Frame W (v.rename d source destination) :=
  (frame_update v _ hdestination).trans (frame_update _ _ hsource)

theorem rename_destination
    (v : Volume D N β) {d : D} {source destination : N}
    (hne : destination ≠ source) :
    v.rename d source destination d destination =
      (v d destination).receive (v d source) := by
  rw [rename, update_other _ _ (by simp [hne]), update_same]

/-- Sync one directory. -/
def sync (v : Volume D N β) (d : D) : Volume D N β :=
  ⟨fun d' n => if d' = d then (v d' n).sync else v d' n⟩

omit [DecidableEq N] in
@[simp] theorem sync_same
    (v : Volume D N β) (d : D) (n : N) :
    v.sync d d n = (v d n).sync := by
  simp [sync]

omit [DecidableEq N] in
theorem frame_sync
    (W : D → N → Prop) (v : Volume D N β) (d : D) :
    v.Frame W (v.sync d) := by
  intro d' n _
  by_cases hd : d' = d
  · subst hd
    simpa using Cell.shrinks_sync (v d' n)
  · simpa [sync, hd] using Cell.Shrinks.refl (v d' n)

end Operations

end Volume

end SleepySession
