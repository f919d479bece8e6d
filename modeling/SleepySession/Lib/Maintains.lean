import SleepySession.Lib.Program

/-!
# Programs that maintain an invariant

`Program.Maintains I R m` says that no step of `m` breaks the invariant `I`,
however the run ends, and that a result satisfies `R`.  The rules follow the
ways in which programs are put together.
-/

namespace SleepySession

namespace Program

variable {Ans σ τ ε δ α β : Type}

/-- From a state with `I`, every run ends in a state with `I`, a result having `R`. -/
def Maintains (I : σ → Prop) (R : α → Prop) (m : Program Ans σ ε α) : Prop :=
  ∀ s, I s → m.wp (fun _ => True) ⟨fun a t => R a ∧ I t, fun _ t => I t, I⟩ s

/-- What holds whichever way a run may end holds after the run. -/
theorem run_of_wp
    [Inhabited Ans] {A : Ans → Prop} {I : σ → Prop} {m : Program Ans σ ε α}
    {script : List Ans} {s : σ} (hdefault : A default) (hscript : ∀ x ∈ script, A x)
    (h : m.wp A ⟨fun _ t => I t, fun _ t => I t, I⟩ s) :
    I (m.run script s).2 := by
  have hpost := wp_sound hdefault m _ script s hscript h
  revert hpost
  rcases m.run script s with ⟨_ | _ | _, t⟩
  · exact fun h => h
  · exact fun h => h
  · exact fun h => h

namespace Maintains

variable {I : σ → Prop} {R R' : α → Prop} {S : β → Prop} {m : Program Ans σ ε α}

theorem pure {a : α} (h : R a) : Maintains I R (Pure.pure a : Program Ans σ ε α) :=
  fun _ hs => ⟨h, hs⟩

theorem throw (e : ε) : Maintains I R (Program.throw e : Program Ans σ ε α) :=
  fun _ hs => hs

theorem crash : Maintains I R (Program.crash : Program Ans σ ε α) :=
  fun _ hs => hs

theorem get {I : σ → Prop} : Maintains I I (Program.get : Program Ans σ ε σ) :=
  fun _ hs => ⟨hs, hs⟩

theorem modify {f : σ → σ} (h : ∀ s, I s → I (f s)) :
    Maintains I (fun _ => True) (Program.modify f : Program Ans σ ε Unit) :=
  fun s hs => ⟨trivial, h s hs⟩

theorem bind
    {f : α → Program Ans σ ε β}
    (hm : Maintains I R m)
    (hf : ∀ a, R a → Maintains I S (f a)) :
    Maintains I S (m >>= f) := by
  intro s hs
  rw [wp_bind]
  refine wp_mono ?_ ?_ ?_ (hm s hs)
  · exact fun a t h => hf a h.1 t h.2
  · exact fun _ _ h => h
  · exact fun _ h => h

theorem mono (h : Maintains I R m) (hR : ∀ a, R a → R' a) : Maintains I R' m := by
  intro s hs
  refine wp_mono ?_ ?_ ?_ (h s hs)
  · exact fun a _ ha => ⟨hR a ha.1, ha.2⟩
  · exact fun _ _ ht => ht
  · exact fun _ ht => ht

theorem attempt (h : Maintains I R m) :
    Maintains I (fun r : Except ε α => ∀ a, r = .ok a → R a)
      (m.attempt : Program Ans σ δ (Except ε α)) := by
  intro s hs
  rw [wp_attempt]
  refine wp_mono ?_ ?_ ?_ (h s hs)
  · rintro a t ⟨ha, ht⟩
    refine ⟨?_, ht⟩
    rintro a' h'
    cases h'
    exact ha
  · exact fun _ t ht => ⟨nofun, ht⟩
  · exact fun _ ht => ht

/-- A program on a component maintains what its steps maintain of the whole. -/
theorem zoom
    {view : τ → σ} {put : σ → τ → τ} {J : τ → Prop}
    (hget : ∀ s t, view (put s t) = s)
    (hput : ∀ t, put (view t) t = t)
    (hputPut : ∀ s s' t, put s (put s' t) = put s t)
    (h : ∀ t, J t → ∃ I : σ → Prop, I (view t) ∧ (∀ s, I s → J (put s t)) ∧
      Maintains I R m) :
    Maintains J R (m.zoom view put : Program Ans τ ε α) := by
  intro t ht
  obtain ⟨I, hview, hback, hm⟩ := h t ht
  rw [wp_zoom _ hget hput hputPut]
  refine wp_mono ?_ ?_ ?_ (hm (view t) hview)
  · exact fun a s hs => ⟨hs.1, hback s hs.2⟩
  · exact fun _ s hs => hback s hs
  · exact fun s hs => hback s hs

theorem run [Inhabited Ans] (h : Maintains I R m) {s : σ} (hs : I s) (script : List Ans) :
    I (m.run script s).2 := by
  refine run_of_wp trivial (fun _ _ => trivial) (wp_mono ?_ ?_ ?_ (h s hs))
  · exact fun _ _ ht => ht.2
  · exact fun _ _ ht => ht
  · exact fun _ ht => ht

end Maintains

end Program

end SleepySession
