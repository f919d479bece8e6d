import Mathlib.Tactic

/-!
# Programs that consult their environment

A program of this module is a finite tree of steps.  A step reads or replaces
the state, asks the environment for an answer, or ends the run: with a value,
with a failure, or in a crash.  The environment's answers stand for whatever
the code does not decide itself, such as the fate of one system call or the
reply of a collaborator.

`Program.run` executes a program against a list of answers.  `Program.wp` is
the weakest precondition over *every* list of answers that satisfies a given
predicate; it has one clause for each way a run can end, so a property of
crash states is proved together with the property of the results.
`Program.wp_sound` connects the two.
-/

namespace SleepySession

/-- How one run of a program ended. -/
inductive Outcome (ε α : Type) where
  | ok (value : α)
  | error (failure : ε)
  | crashed
deriving DecidableEq, Repr

/-- The result of a run, where there is one. -/
def Outcome.get? {ε α : Type} : Outcome ε α → Option α
  | .ok a => some a
  | .error _ => none
  | .crashed => none

theorem Outcome.eq_ok_of_isSome
    {ε α : Type} {outcome : Outcome ε α}
    (h : outcome.get?.isSome = true) :
    outcome = .ok (outcome.get?.get h) := by
  cases outcome with
  | ok a => rfl
  | error e => cases h
  | crashed => cases h

theorem Outcome.pair_eq_ok
    {ε α σ : Type} {x : Outcome ε α × σ}
    (h : x.1.get?.isSome = true) :
    x = (.ok (x.1.get?.get h), x.2) :=
  Prod.ext (Outcome.eq_ok_of_isSome h) rfl

/-- Go on with a finished run. -/
def Outcome.thenRun {σ ε α β : Type}
    (g : α → σ → Outcome ε β × σ) : Outcome ε α × σ → Outcome ε β × σ
  | (.ok a, s) => g a s
  | (.error e, s) => (.error e, s)
  | (.crashed, s) => (.crashed, s)

/-- A program over state `σ` with answers `Ans`, failures `ε` and results `α`. -/
inductive Program (Ans σ ε α : Type) where
  | ret (value : α)
  | throw (failure : ε)
  | crash
  | ask (next : Ans → Program Ans σ ε α)
  | read (next : σ → Program Ans σ ε α)
  | write (state : σ) (next : Program Ans σ ε α)

namespace Program

variable {Ans σ τ ε δ α β : Type}

/-- Sequential composition. -/
def andThen :
    Program Ans σ ε α →
    (α → Program Ans σ ε β) →
    Program Ans σ ε β
  | ret a, f => f a
  | throw e, _ => throw e
  | crash, _ => crash
  | ask k, f => ask fun x => (k x).andThen f
  | read k, f => read fun s => (k s).andThen f
  | write s k, f => write s (k.andThen f)

instance : Monad (Program Ans σ ε) where
  pure := ret
  bind := andThen

/-- Ask the environment. -/
def answer : Program Ans σ ε Ans :=
  ask ret

/-- A result or a failure that is already known. -/
def orThrow : Except ε α → Program Ans σ ε α
  | .ok a => ret a
  | .error e => throw e

/-- Read the state. -/
def get : Program Ans σ ε σ :=
  read ret

/-- Replace the state. -/
def modify (f : σ → σ) : Program Ans σ ε Unit :=
  read fun s => write (f s) (ret ())

/-- Turn a failure into a result, as a caller does that inspects it. -/
def attempt :
    Program Ans σ ε α → Program Ans σ δ (Except ε α)
  | ret a => ret (.ok a)
  | throw e => ret (.error e)
  | crash => crash
  | ask k => ask fun x => (k x).attempt
  | read k => read fun s => (k s).attempt
  | write s k => write s k.attempt

/-- Rename the failures of a program. -/
def mapError (f : ε → δ) :
    Program Ans σ ε α → Program Ans σ δ α
  | ret a => ret a
  | throw e => throw (f e)
  | crash => crash
  | ask k => ask fun x => (k x).mapError f
  | read k => read fun s => (k s).mapError f
  | write s k => write s (k.mapError f)

/-- Run a program on a component of a larger state. -/
def zoom (view : τ → σ) (put : σ → τ → τ) :
    Program Ans σ ε α → Program Ans τ ε α
  | ret a => ret a
  | throw e => throw e
  | crash => crash
  | ask k => ask fun x => (k x).zoom view put
  | read k => read fun t => (k (view t)).zoom view put
  | write s k => read fun t => write (put s t) (k.zoom view put)

/-- Execute a program; the default answer is used once the script is over. -/
def run [Inhabited Ans] :
    Program Ans σ ε α → List Ans → σ → Outcome ε α × σ
  | ret a, _, s => (.ok a, s)
  | throw e, _, s => (.error e, s)
  | crash, _, s => (.crashed, s)
  | ask k, script, s => (k (script.headD default)).run script.tail s
  | read k, script, s => (k s).run script s
  | write s' k, script, _ => k.run script s'

/-- Nested sequences can be flattened. -/
theorem bind_assoc
    {γ : Type}
    (m : Program Ans σ ε α)
    (f : α → Program Ans σ ε β)
    (g : β → Program Ans σ ε γ) :
    (m >>= f) >>= g = m >>= fun a => f a >>= g := by
  show (m.andThen f).andThen g = m.andThen fun a => (f a).andThen g
  induction m with
  | ret a => rfl
  | throw e => rfl
  | crash => rfl
  | ask k ih => exact congrArg ask (funext ih)
  | read k ih => exact congrArg read (funext ih)
  | write s k ih => exact congrArg (write s) ih

/-- A postcondition: one clause for each way a run can end. -/
structure Post (σ ε α : Type) where
  ok : α → σ → Prop
  error : ε → σ → Prop
  crashed : σ → Prop

/-- The clause of a postcondition that a finished run has to satisfy. -/
def Post.holds (Q : Post σ ε α) : Outcome ε α × σ → Prop
  | (.ok a, s) => Q.ok a s
  | (.error e, s) => Q.error e s
  | (.crashed, s) => Q.crashed s

/-- Weakest precondition over all answers that `A` allows; asking may be the end. -/
def wp (A : Ans → Prop) :
    Program Ans σ ε α → Post σ ε α → σ → Prop
  | ret a, Q, s => Q.ok a s
  | throw e, Q, s => Q.error e s
  | crash, Q, s => Q.crashed s
  | ask k, Q, s => Q.crashed s ∧ ∀ x, A x → (k x).wp A Q s
  | read k, Q, s => (k s).wp A Q s
  | write s' k, Q, _ => k.wp A Q s'

/-- Every run on allowed answers ends in the postcondition. -/
theorem wp_sound
    [Inhabited Ans]
    {A : Ans → Prop}
    (hdefault : A default)
    (m : Program Ans σ ε α)
    (Q : Post σ ε α) :
    ∀ (script : List Ans) (s : σ),
      (∀ x ∈ script, A x) →
      m.wp A Q s →
      Q.holds (m.run script s) := by
  induction m with
  | ret a => intro script s _ h; exact h
  | throw e => intro script s _ h; exact h
  | crash => intro script s _ h; exact h
  | ask k ih =>
      intro script s hscript h
      cases script with
      | nil =>
          exact ih default [] s (by simp) (h.2 default hdefault)
      | cons x script =>
          have hx : A x := hscript x (by simp)
          have hrest : ∀ y ∈ script, A y :=
            fun y hy => hscript y (List.mem_cons_of_mem _ hy)
          exact ih x script s hrest (h.2 x hx)
  | read k ih =>
      intro script s hscript h
      exact ih s script s hscript h
  | write s' k ih =>
      intro script s hscript h
      exact ih script s' hscript h

section Runs

variable [Inhabited Ans] {A : Ans → Prop} {m : Program Ans σ ε α} {Q : Post σ ε α}
variable {script : List Ans} {s s' : σ} {outcome : Outcome ε α}

/-- How a given run ends, where its answers and those that follow are allowed. -/
theorem holds_of_allowed_run
    (hdefault : A default)
    (hscript : ∀ x ∈ script, A x)
    (hrun : m.run script s = (outcome, s'))
    (h : m.wp A Q s) :
    Q.holds (outcome, s') := by
  rw [← hrun]
  exact wp_sound hdefault m Q script s hscript h

/-- How a given run ends, whatever its answers are. -/
theorem holds_of_run
    (hrun : m.run script s = (outcome, s'))
    (h : m.wp (fun _ => True) Q s) :
    Q.holds (outcome, s') :=
  holds_of_allowed_run trivial (fun _ _ => trivial) hrun h

end Runs

/-- Strengthening the postcondition. -/
theorem wp_mono
    {A : Ans → Prop}
    {m : Program Ans σ ε α}
    {Q R : Post σ ε α}
    (hok : ∀ a s, Q.ok a s → R.ok a s)
    (herror : ∀ e s, Q.error e s → R.error e s)
    (hcrash : ∀ s, Q.crashed s → R.crashed s) :
    ∀ {s : σ}, m.wp A Q s → m.wp A R s := by
  induction m with
  | ret a => intro s h; exact hok a s h
  | throw e => intro s h; exact herror e s h
  | crash => intro s h; exact hcrash s h
  | ask k ih => intro s h; exact ⟨hcrash s h.1, fun x hx => ih x (h.2 x hx)⟩
  | read k ih => intro s h; exact ih s h
  | write s' k ih => intro s h; exact ih h

/-- A stronger condition on the answers. -/
theorem wp_weaken
    {A B : Ans → Prop}
    {m : Program Ans σ ε α}
    {Q : Post σ ε α}
    (hA : ∀ x, A x → B x) :
    ∀ {s : σ}, m.wp B Q s → m.wp A Q s := by
  induction m with
  | ret a => intro s h; exact h
  | throw e => intro s h; exact h
  | crash => intro s h; exact h
  | ask k ih => intro s h; exact ⟨h.1, fun x hx => ih x (h.2 x (hA x hx))⟩
  | read k ih => intro s h; exact ih s h
  | write s' k ih => intro s h; exact ih h

/-- What holds in every state holds after every run. -/
theorem wp_of_forall
    {A : Ans → Prop}
    {m : Program Ans σ ε α}
    {Q : Post σ ε α}
    (hok : ∀ a s, Q.ok a s)
    (herror : ∀ e s, Q.error e s)
    (hcrash : ∀ s, Q.crashed s) :
    ∀ s : σ, m.wp A Q s := by
  induction m with
  | ret a => exact fun s => hok a s
  | throw e => exact fun s => herror e s
  | crash => exact fun s => hcrash s
  | ask k ih => exact fun s => ⟨hcrash s, fun x _ => ih x s⟩
  | read k ih => exact fun s => ih s s
  | write s' k ih => exact fun _ => ih s'

/-- Two postconditions established separately hold together. -/
theorem wp_and
    {A : Ans → Prop}
    {m : Program Ans σ ε α}
    {Q R : Post σ ε α} :
    ∀ {s : σ}, m.wp A Q s → m.wp A R s →
      m.wp A
        ⟨fun a s => Q.ok a s ∧ R.ok a s,
          fun e s => Q.error e s ∧ R.error e s,
          fun s => Q.crashed s ∧ R.crashed s⟩ s := by
  induction m with
  | ret a => intro s h₁ h₂; exact ⟨h₁, h₂⟩
  | throw e => intro s h₁ h₂; exact ⟨h₁, h₂⟩
  | crash => intro s h₁ h₂; exact ⟨h₁, h₂⟩
  | ask k ih =>
      intro s h₁ h₂
      exact ⟨⟨h₁.1, h₂.1⟩, fun x hx => ih x (h₁.2 x hx) (h₂.2 x hx)⟩
  | read k ih => intro s h₁ h₂; exact ih s h₁ h₂
  | write s' k ih => intro s h₁ h₂; exact ih h₁ h₂

section Rules

variable (A : Ans → Prop)

@[simp] theorem wp_pure
    (a : α) (Q : Post σ ε α) (s : σ) :
    (pure a : Program Ans σ ε α).wp A Q s ↔ Q.ok a s :=
  Iff.rfl

@[simp] theorem wp_ret
    (a : α) (Q : Post σ ε α) (s : σ) :
    (ret a : Program Ans σ ε α).wp A Q s ↔ Q.ok a s :=
  Iff.rfl

@[simp] theorem wp_throw
    (e : ε) (Q : Post σ ε α) (s : σ) :
    (throw e : Program Ans σ ε α).wp A Q s ↔ Q.error e s :=
  Iff.rfl

@[simp] theorem wp_crash
    (Q : Post σ ε α) (s : σ) :
    (crash : Program Ans σ ε α).wp A Q s ↔ Q.crashed s :=
  Iff.rfl

@[simp] theorem wp_answer
    (Q : Post σ ε Ans) (s : σ) :
    (answer : Program Ans σ ε Ans).wp A Q s ↔
      Q.crashed s ∧ ∀ x, A x → Q.ok x s :=
  Iff.rfl

@[simp] theorem wp_orThrow
    (x : Except ε α) (Q : Post σ ε α) (s : σ) :
    (orThrow x : Program Ans σ ε α).wp A Q s ↔
      (∀ a, x = .ok a → Q.ok a s) ∧ ∀ e, x = .error e → Q.error e s := by
  cases x <;> simp [orThrow]

theorem wp_orThrow_of_ok
    {x : Except ε α} {a : α} {Q : Post σ ε α} {s : σ}
    (hx : x = .ok a)
    (hok : Q.ok a s) :
    (orThrow x : Program Ans σ ε α).wp A Q s := by
  subst hx
  exact hok

@[simp] theorem wp_get
    (Q : Post σ ε σ) (s : σ) :
    (get : Program Ans σ ε σ).wp A Q s ↔ Q.ok s s :=
  Iff.rfl

@[simp] theorem wp_modify
    (f : σ → σ) (Q : Post σ ε Unit) (s : σ) :
    (modify f : Program Ans σ ε Unit).wp A Q s ↔ Q.ok () (f s) :=
  Iff.rfl

theorem wp_andThen
    (m : Program Ans σ ε α)
    (f : α → Program Ans σ ε β)
    (Q : Post σ ε β) :
    ∀ s : σ,
      (m.andThen f).wp A Q s ↔
        m.wp A ⟨fun a s => (f a).wp A Q s, Q.error, Q.crashed⟩ s := by
  induction m with
  | ret a => intro s; rfl
  | throw e => intro s; rfl
  | crash => intro s; rfl
  | ask k ih =>
      intro s
      exact and_congr Iff.rfl (forall₂_congr fun x _ => ih x s)
  | read k ih => intro s; exact ih s s
  | write s' k ih => intro s; exact ih s'

@[simp] theorem wp_bind
    (m : Program Ans σ ε α)
    (f : α → Program Ans σ ε β)
    (Q : Post σ ε β) (s : σ) :
    (m >>= f).wp A Q s ↔
      m.wp A ⟨fun a s => (f a).wp A Q s, Q.error, Q.crashed⟩ s :=
  wp_andThen A m f Q s

@[simp] theorem wp_attempt
    (m : Program Ans σ ε α)
    (Q : Post σ δ (Except ε α)) :
    ∀ s : σ,
      (m.attempt : Program Ans σ δ (Except ε α)).wp A Q s ↔
        m.wp A
          ⟨fun a s => Q.ok (.ok a) s,
            fun e s => Q.ok (.error e) s, Q.crashed⟩ s := by
  induction m with
  | ret a => intro s; rfl
  | throw e => intro s; rfl
  | crash => intro s; rfl
  | ask k ih =>
      intro s
      exact and_congr Iff.rfl (forall₂_congr fun x _ => ih x s)
  | read k ih => intro s; exact ih s s
  | write s' k ih => intro s; exact ih s'

@[simp] theorem wp_mapError
    (f : ε → δ)
    (m : Program Ans σ ε α)
    (Q : Post σ δ α) :
    ∀ s : σ,
      (m.mapError f).wp A Q s ↔
        m.wp A ⟨Q.ok, fun e s => Q.error (f e) s, Q.crashed⟩ s := by
  induction m with
  | ret a => intro s; rfl
  | throw e => intro s; rfl
  | crash => intro s; rfl
  | ask k ih =>
      intro s
      exact and_congr Iff.rfl (forall₂_congr fun x _ => ih x s)
  | read k ih => intro s; exact ih s s
  | write s' k ih => intro s; exact ih s'

end Rules

/-- A program on a component leaves the rest of the state as it was. -/
theorem wp_zoom
    (A : Ans → Prop)
    {view : τ → σ} {put : σ → τ → τ}
    (hget : ∀ s t, view (put s t) = s)
    (hput : ∀ t, put (view t) t = t)
    (hputPut : ∀ s s' t, put s (put s' t) = put s t)
    (m : Program Ans σ ε α)
    (Q : Post τ ε α) :
    ∀ t : τ,
      (m.zoom view put).wp A Q t ↔
        m.wp A
          ⟨fun a s => Q.ok a (put s t),
            fun e s => Q.error e (put s t),
            fun s => Q.crashed (put s t)⟩ (view t) := by
  induction m with
  | ret a => intro t; simp [zoom, hput]
  | throw e => intro t; simp [zoom, hput]
  | crash => intro t; simp [zoom, hput]
  | ask k ih =>
      intro t
      refine and_congr ?_ (forall₂_congr fun x _ => ih x t)
      simp only [hput]
  | read k ih => intro t; exact ih (view t) t
  | write s' k ih =>
      intro t
      show (k.zoom view put).wp A Q (put s' t) ↔ _
      rw [ih (put s' t), hget]
      simp only [hputPut]
      rfl

/-- The component is a field of a record, so that its laws hold by computation. -/
theorem wp_zoom_field
    {A : Ans → Prop}
    {view : τ → σ} {put : σ → τ → τ}
    (m : Program Ans σ ε α)
    (Q : Post τ ε α)
    (t : τ)
    (hget : ∀ s t, view (put s t) = s := by intros; rfl)
    (hput : ∀ t, put (view t) t = t := by intros; rfl)
    (hputPut : ∀ s s' t, put s (put s' t) = put s t := by intros; rfl) :
    (m.zoom view put).wp A Q t ↔
      m.wp A
        ⟨fun a s => Q.ok a (put s t),
          fun e s => Q.error e (put s t),
          fun s => Q.crashed (put s t)⟩ (view t) :=
  wp_zoom A hget hput hputPut m Q t

section Runs

variable [Inhabited Ans]

/-- What follows a program and asks nothing can be run on its own. -/
theorem run_bind
    {f : α → Program Ans σ ε β}
    {g : α → σ → Outcome ε β × σ}
    (hf : ∀ a script s, (f a).run script s = g a s)
    (m : Program Ans σ ε α) :
    ∀ script s, (m >>= f).run script s = Outcome.thenRun g (m.run script s) := by
  induction m with
  | ret a => exact fun script s => hf a script s
  | throw e => exact fun _ _ => rfl
  | crash => exact fun _ _ => rfl
  | ask k ih => exact fun script s => ih _ script.tail s
  | read k ih => exact fun script s => ih s script s
  | write s' k ih => exact fun script _ => ih script s'

theorem run_zoom
    {view : τ → σ} {put : σ → τ → τ}
    (hget : ∀ s t, view (put s t) = s)
    (hput : ∀ t, put (view t) t = t)
    (hputPut : ∀ s s' t, put s (put s' t) = put s t)
    (m : Program Ans σ ε α) :
    ∀ script t,
      (m.zoom view put).run script t =
        ((m.run script (view t)).1, put (m.run script (view t)).2 t) := by
  induction m with
  | ret a => simp [zoom, run, hput]
  | throw e => simp [zoom, run, hput]
  | crash => simp [zoom, run, hput]
  | ask k ih => exact fun script t => ih _ script.tail t
  | read k ih => exact fun script t => ih (view t) script t
  | write s' k ih =>
      intro script t
      show (k.zoom view put).run script (put s' t) = _
      rw [ih script (put s' t), hget, hputPut]
      rfl

end Runs

section Failures

/-- Every failure of the program satisfies `P`. -/
def Fails (P : ε → Prop) (m : Program Ans σ ε α) : Prop :=
  ∀ s, m.wp (fun _ => True) ⟨fun _ _ => True, fun e _ => P e, fun _ => True⟩ s

variable {P : ε → Prop} {m : Program Ans σ ε α}

theorem Fails.pure (a : α) : Fails P (pure a : Program Ans σ ε α) :=
  fun _ => trivial

theorem Fails.throw {e : ε} (h : P e) : Fails P (throw e : Program Ans σ ε α) :=
  fun _ => h

theorem Fails.bind
    {f : α → Program Ans σ ε β}
    (hm : Fails P m)
    (hf : ∀ a, Fails P (f a)) :
    Fails P (m >>= f) := by
  intro s
  rw [wp_bind]
  refine wp_mono ?_ ?_ ?_ (hm s)
  · exact fun a s' _ => hf a s'
  · exact fun _ _ h => h
  · exact fun _ h => h

theorem Fails.mapError
    {f : δ → ε}
    (h : ∀ e, P (f e))
    (m : Program Ans σ δ α) :
    Fails P (m.mapError f) := by
  intro s
  rw [wp_mapError]
  exact wp_of_forall (fun _ _ => trivial) (fun e _ => h e) (fun _ => trivial) s

theorem Fails.attempt
    (m : Program Ans σ δ α) :
    Fails P (m.attempt : Program Ans σ ε (Except δ α)) := by
  intro s
  rw [wp_attempt]
  exact wp_of_forall (fun _ _ => trivial) (fun _ _ => trivial) (fun _ => trivial) s

/-- Only the failures that a program has need to be considered. -/
theorem Fails.wp
    {A : Ans → Prop}
    {Q : Post σ ε α}
    (h : Fails P m)
    (hok : ∀ a s, Q.ok a s)
    (herror : ∀ e s, P e → Q.error e s)
    (hcrash : ∀ s, Q.crashed s)
    (s : σ) :
    m.wp A Q s := by
  refine wp_mono (fun a s _ => hok a s) herror (fun s _ => hcrash s)
    (wp_weaken (fun _ _ => trivial) (h s))

end Failures

section Crashes

/-- No answer that `A` allows makes the program crash. -/
def Survives (A : Ans → Prop) : Program Ans σ ε α → Prop
  | ret _ => True
  | throw _ => True
  | crash => False
  | ask k => ∀ x, A x → (k x).Survives A
  | read k => ∀ s, (k s).Survives A
  | write _ k => k.Survives A

variable {A : Ans → Prop} {m : Program Ans σ ε α}

theorem Survives.bind
    {f : α → Program Ans σ ε β}
    (hm : m.Survives A)
    (hf : ∀ a, (f a).Survives A) :
    (m >>= f).Survives A := by
  show (m.andThen f).Survives A
  induction m with
  | ret a => exact hf a
  | throw e => trivial
  | crash => exact hm.elim
  | ask k ih => exact fun x hx => ih x (hm x hx)
  | read k ih => exact fun s => ih s (hm s)
  | write s k ih => exact ih hm

theorem Survives.attempt
    (h : m.Survives A) :
    (m.attempt : Program Ans σ δ (Except ε α)).Survives A := by
  induction m with
  | ret a => trivial
  | throw e => trivial
  | crash => exact h.elim
  | ask k ih => exact fun x hx => ih x (h x hx)
  | read k ih => exact fun s => ih s (h s)
  | write s k ih => exact ih h

theorem Survives.mapError
    (f : ε → δ)
    (h : m.Survives A) :
    (m.mapError f).Survives A := by
  induction m with
  | ret a => trivial
  | throw e => trivial
  | crash => exact h.elim
  | ask k ih => exact fun x hx => ih x (h x hx)
  | read k ih => exact fun s => ih s (h s)
  | write s k ih => exact ih h

theorem Survives.orThrow
    (x : Except ε α) :
    (orThrow x : Program Ans σ ε α).Survives A := by
  cases x <;> trivial

/-- A run on allowed answers does not crash. -/
theorem Survives.run
    [Inhabited Ans]
    (h : m.Survives A)
    (hdefault : A default) :
    ∀ (script : List Ans) (s : σ), (∀ x ∈ script, A x) → (m.run script s).1 ≠ .crashed := by
  induction m with
  | ret a => exact fun _ _ _ hcrashed => by cases hcrashed
  | throw e => exact fun _ _ _ hcrashed => by cases hcrashed
  | crash => exact h.elim
  | ask k ih =>
      intro script s hscript
      cases script with
      | nil => exact ih default (h default hdefault) [] s hscript
      | cons x script =>
          exact ih x (h x (hscript x List.mem_cons_self)) script s
            fun y hy => hscript y (List.mem_cons_of_mem _ hy)
  | read k ih => exact fun script s hscript => ih s (h s) script s hscript
  | write s' k ih => exact fun script _ hscript => ih h script s' hscript

end Crashes

/-- Visit a list in order. -/
def each (f : α → Program Ans σ ε Unit) :
    List α → Program Ans σ ε Unit
  | [] => ret ()
  | a :: rest => f a >>= fun _ => each f rest

@[simp] theorem wp_each_nil
    (A : Ans → Prop)
    (f : α → Program Ans σ ε Unit)
    (Q : Post σ ε Unit) (s : σ) :
    (each f []).wp A Q s ↔ Q.ok () s :=
  Iff.rfl

@[simp] theorem wp_each_cons
    (A : Ans → Prop)
    (f : α → Program Ans σ ε Unit)
    (a : α) (rest : List α)
    (Q : Post σ ε Unit) (s : σ) :
    (each f (a :: rest)).wp A Q s ↔
      (f a).wp A
        ⟨fun _ s => (each f rest).wp A Q s, Q.error, Q.crashed⟩ s :=
  wp_bind A (f a) (fun _ => each f rest) Q s

end Program

end SleepySession
