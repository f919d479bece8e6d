import SleepySession.Store.SecureDirRules

/-!
# Replacements that nothing refuses

When every system call takes effect or the process stops in it, and the name of
the temporary file is free, a replacement without hooks has no failure.
-/

namespace SleepySession

namespace SecureDir

open Program

variable {D N β α : Type} [DecidableEq D] [DecidableEq N] [DisplayPath D N]
variable {A : Answer N β → Prop} {v : Volume D (Entry N) β} {d : D} {n : Entry N}

/-- The environment refuses nothing. -/
def Willing (A : Answer N β → Prop) : Prop :=
  ∀ a, A a → a.fault = .proceed ∨ a.fault = .crash

/-- The postcondition of a program without failures. -/
def neverFails {σ ε α : Type} : Post σ ε α :=
  ⟨fun _ _ => True, fun _ _ => False, fun _ => True⟩

set_option linter.unusedSectionVars false

section Calls

theorem wp_syscall_willing
    {Q : Post (Volume D (Entry N) β) Failure Unit}
    (hA : Willing A)
    (hcrash : Q.crashed v)
    (hok : Q.ok () v) :
    (syscall : Disk D N β Unit).wp A Q v := by
  refine ⟨hcrash, ?_⟩
  intro a ha
  cases a with
  | mk fault text uuid torn listing accepted available =>
      rcases hA _ ha with rfl | rfl
      · exact hok
      · exact hcrash

theorem wp_openRegularOptional_willing
    {Q : Post (Volume D (Entry N) β) Failure Bool}
    (hA : Willing A)
    (hcrash : Q.crashed v)
    (hok : Q.ok (v d n).current.isSome v) :
    (openRegularOptional d n : Disk D N β Bool).wp A Q v := by
  refine ⟨hcrash, ?_⟩
  intro a ha
  cases a with
  | mk fault text uuid torn listing accepted available =>
      rcases hA _ ha with rfl | rfl
      · exact hok
      · exact hcrash

theorem wp_readOptional_willing
    {Q : Post (Volume D (Entry N) β) Failure (Option β)}
    (hA : Willing A)
    (hcrash : Q.crashed v)
    (hok : Q.ok (v d n).current v) :
    (readOptional d n : Disk D N β (Option β)).wp A Q v := by
  unfold readOptional
  rw [wp_bind]
  refine wp_openRegularOptional_willing hA hcrash ?_
  cases hc : (v d n).current with
  | none => simpa [hc] using hok
  | some bytes =>
      simp only [Option.isSome_some, if_true, wp_bind]
      refine wp_syscall_willing hA hcrash ?_
      simpa [hc] using hok

theorem wp_createNew_willing
    {Q : Post (Volume D (Entry N) β) Failure Unit} {empty : β}
    (hA : Willing A)
    (hfree : (v d n).current = none)
    (hcrash : Q.crashed v)
    (hok : ∀ v', Q.ok () v') :
    (createNew d n empty : Disk D N β Unit).wp A Q v := by
  refine ⟨hcrash, ?_⟩
  intro a ha
  cases a with
  | mk fault text uuid torn listing accepted available =>
      rcases hA _ ha with rfl | rfl
      · simp only [andThen, wp_bind, wp_get, hfree, Option.isSome_none, Bool.false_eq_true,
          if_false]
        exact hok _
      · exact hcrash

theorem wp_writeAll_willing
    {Q : Post (Volume D (Entry N) β) Failure Unit} {bytes : β}
    (hA : Willing A)
    (hcrash : ∀ v', Q.crashed v')
    (hok : ∀ v', Q.ok () v') :
    (writeAll d n bytes : Disk D N β Unit).wp A Q v := by
  refine ⟨hcrash _, ?_⟩
  intro a ha
  cases a with
  | mk fault text uuid torn listing accepted available =>
      rcases hA _ ha with rfl | rfl
      · exact hok _
      · exact hcrash _

end Calls

section Survival

/-- Every system call takes effect. -/
def Proceeds (A : Answer N β → Prop) : Prop :=
  ∀ a, A a → a.fault = .proceed

theorem survives_syscall (hA : Proceeds A) : (syscall : Disk D N β Unit).Survives A := by
  intro a ha
  simp only [andThen, hA a ha]
  trivial

theorem survives_openRegularOptional (hA : Proceeds A) :
    (openRegularOptional d n : Disk D N β Bool).Survives A := by
  intro a ha
  simp only [andThen, hA a ha]
  exact fun _ => trivial

theorem survives_readOptional (hA : Proceeds A) :
    (readOptional d n : Disk D N β (Option β)).Survives A := by
  refine (survives_openRegularOptional hA).bind fun present => ?_
  cases present with
  | false => trivial
  | true => exact (survives_syscall hA).bind fun _ _ => trivial

theorem survives_createNew {empty : β} (hA : Proceeds A) :
    (createNew d n empty : Disk D N β Unit).Survives A := by
  intro a ha
  simp only [andThen, hA a ha]
  intro v
  simp only [andThen]
  split
  · trivial
  · exact fun _ => trivial

theorem survives_writeAll {bytes : β} (hA : Proceeds A) :
    (writeAll d n bytes : Disk D N β Unit).Survives A := by
  intro a ha
  simp only [andThen, hA a ha]
  exact fun _ => trivial

/-- A system call with an effect. -/
theorem survives_effect (hA : Proceeds A)
    {f : Volume D (Entry N) β → Volume D (Entry N) β} :
    ((syscall : Disk D N β Unit) >>= fun _ => modify f).Survives A :=
  (survives_syscall hA).bind fun _ _ => trivial

end Survival

/-- A replacement that is not refused ends with a success, or not at all. -/
theorem atomicReplace_neverFails
    {name : N} {empty bytes : β}
    (hA : Willing A)
    (hfree : ∀ a, A a → (v d (.temporary name a.uuid)).current = none) :
    (atomicReplace d name empty bytes (pure ()) (pure ()) (pure ()) :
      Disk D N β Unit).wp A neverFails v := by
  unfold atomicReplace stageFile validateFileIfPresent newUuid
  simp only [wp_bind]
  refine wp_openRegularOptional_willing hA trivial ?_
  refine ⟨trivial, ?_⟩
  intro a ha
  simp only [wp_bind, wp_attempt, writeNew, syncAll]
  refine wp_createNew_willing hA (hfree a ha) trivial ?_
  intro v₁
  refine wp_writeAll_willing hA (fun _ => trivial) ?_
  intro v₂
  refine wp_syscall_willing hA trivial ?_
  unfold commitFile rename sync
  simp only [wp_modify, wp_pure, wp_bind, wp_mapError]
  refine wp_syscall_willing hA trivial ?_
  refine wp_syscall_willing hA trivial ?_
  trivial

end SecureDir

end SleepySession
