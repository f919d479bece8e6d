import SleepySession.Store.SecureDirRules
import SleepySession.Notifications.Directory

/-!
# Specifications of the directory of the notification store

A replacement that does not complete leaves the file as it was, or lets it
show the new content while the old one may return.  A completed one has synced
the directory, so no entry can revert any more.
-/

namespace SleepySession

open Program SecureDir

/-- The postcondition covers a failed system call and a crash in the given state. -/
def Ends {σ α : Type} (Q : Post σ IoError α) (s : σ) : Prop :=
  (∀ e, Q.error (IoError.system e) s) ∧ Q.crashed s

/-- Every entry of the directory is the one on disk. -/
def DirectorySynced (v : NotificationFiles) : Prop :=
  ∀ n, (v () n).stale = []

/-- The entry of one of the four files. -/
abbrev fileCell (v : NotificationFiles) (name : NotificationFile) : Cell String :=
  v () (.named name)

namespace SecureDirectory

variable {A : Answer NotificationFile String → Prop} {v : NotificationFiles}

theorem directorySynced_sync :
    DirectorySynced (v.sync ()) := by
  intro n
  rw [Volume.sync_same]
  rfl

theorem wp_system
    {α : Type} {m : Disk Unit NotificationFile String α}
    {Q : Post NotificationFiles IoError α} :
    (system m).wp A Q v ↔
      m.wp A ⟨Q.ok, fun e v => Q.error (IoError.system e) v, Q.crashed⟩ v :=
  wp_mapError A IoError.system m Q v

theorem Ends.cut
    {α : Type} {Q : Post NotificationFiles IoError α}
    (h : Ends Q v) :
    Cut ⟨Q.ok, fun e v => Q.error (IoError.system e) v, Q.crashed⟩ v :=
  ⟨fun _ _ => h.1 _, h.2⟩

theorem wp_readOptional
    {Q : Post NotificationFiles IoError (Option String)} {name : NotificationFile}
    (hends : Ends Q v)
    (hfits : ∀ bytes, (fileCell v name).current = some bytes →
      bytes.utf8ByteSize ≤ maxDurableFileBytes)
    (hok : Q.ok (fileCell v name).current v) :
    (readOptional name).wp A Q v := by
  unfold readOptional
  rw [wp_bind, wp_system]
  refine SecureDir.wp_readOptional (Ends.cut (Q := ⟨_, Q.error, Q.crashed⟩) hends) ?_
  cases hcurrent : (v () (.named name)).current with
  | none =>
      rw [hcurrent] at hok
      exact hok
  | some bytes =>
      rw [hcurrent] at hok
      dsimp only
      rw [if_neg (by have := hfits bytes hcurrent; omega)]
      exact hok

theorem wp_remove
    {Q : Post NotificationFiles IoError Unit} {name : NotificationFile}
    (hends : Ends Q v)
    (hok : ∀ v', SecureDir.Keeps (fun _ n => n = name) v v' →
      (fileCell v name).Wrote none (fileCell v' name) → Q.ok () v') :
    (remove name).wp A Q v := by
  unfold remove
  rw [wp_system]
  refine SecureDir.wp_removeFile (Ends.cut hends) fun v' hframe hwrote => ?_
  exact hok v' (SecureDir.keeps_of_frame_named hframe rfl) hwrote

theorem wp_syncDirectory
    {Q : Post NotificationFiles IoError Unit}
    (hends : Ends Q v)
    (hok : Q.ok () (v.sync ())) :
    (sync).wp A Q v := by
  unfold sync
  rw [wp_system]
  exact SecureDir.wp_sync (Ends.cut hends) hok

theorem wp_silent
    {Q : Post NotificationFiles IoError Unit}
    (hends : Ends Q v)
    (hok : Q.ok () v) :
    (system SecureDir.syscall).wp A Q v := by
  rw [wp_system]
  exact SecureDir.wp_syscall (Ends.cut hends) hok

/-- The specification of `atomic_replace`. -/
theorem wp_atomicReplace
    {Q : Post NotificationFiles IoError Unit} {name : NotificationFile} {bytes : String}
    (hends : ∀ v', Touched () name (some bytes) v v' → Ends Q v')
    (hok : ∀ v', Replaced () name (some bytes) v v' → DirectorySynced v' → Q.ok () v') :
    (atomicReplace name bytes).wp A Q v := by
  have huntouched : ∀ v', SecureDir.Keeps (fun _ _ => False) v v' → Ends Q v' := by
    intro v' hkeeps
    exact hends v' ⟨hkeeps.mono (by simp), Or.inl (hkeeps.shrinks (by simp))⟩
  have hself : Ends Q v := huntouched v (SecureDir.Keeps.refl _ v)
  unfold atomicReplace
  simp only [wp_bind, wp_system]
  refine SecureDir.wp_openRegularOptional ⟨fun _ _ => hself.1 _, hself.2⟩ ?_
  refine ⟨hself.2, fun answer _ => ?_⟩
  simp only
  refine SecureDir.wp_createNew ⟨fun _ _ => hself.1 _, hself.2⟩ ?_
  intro v₁ hcreated
  -- whatever fails from here on is followed by an attempt to remove the temporary file
  have hcleanup : ∀ (e : Failure) (v' : NotificationFiles),
      Touched () name (some bytes) v v' →
      ((system (SecureDir.removeFile () (.temporary name answer.uuid)) :
          DirectoryProgram Unit).attempt : DirectoryProgram (Except IoError Unit)).wp A
        ⟨fun _ s => (throw (IoError.system e) : DirectoryProgram Unit).wp A Q s,
          Q.error, Q.crashed⟩ v' := by
    intro e v' htouched
    rw [wp_attempt, wp_system]
    refine SecureDir.wp_removeFile
      ⟨fun _ _ => (hends v' htouched).1 _, (hends v' htouched).2⟩ ?_
    intro v'' hframe _
    have hkeeps := SecureDir.keeps_of_frame_temporary
      (W := fun d n => d = () ∧ n = name) hframe
    have hstill : (v' () (.named name)).Shrinks (v'' () (.named name)) :=
      hframe () (.named name) (by simp)
    refine (hends v'' ⟨htouched.1.trans hkeeps, ?_⟩).1 e
    rcases htouched.2 with hshrinks | hwrote
    · exact Or.inl (hshrinks.trans hstill)
    · exact Or.inr (hwrote.shrinks hstill)
  have hearly : ∀ v', v.Frame (fun d n => d = () ∧ n = Entry.temporary name answer.uuid) v' →
      Touched () name (some bytes) v v' := by
    intro v' hframe
    exact ⟨SecureDir.keeps_of_frame_temporary hframe,
      Or.inl (hframe () (.named name) (by simp))⟩
  dsimp only
  rw [wp_attempt]
  unfold replaceWith
  simp only [wp_bind, wp_system]
  refine SecureDir.wp_writeAll ?_ ?_
  · intro v₂ hwritten
    have htouched := hearly v₂ (hcreated.trans hwritten)
    exact ⟨fun e _ => hcleanup _ v₂ htouched, (hends v₂ htouched).2⟩
  intro v₂ hwritten hcurrent
  have htouched₂ := hearly v₂ (hcreated.trans hwritten)
  refine SecureDir.wp_syncAll ⟨fun e _ => hcleanup _ v₂ htouched₂, (hends v₂ htouched₂).2⟩ ?_
  intro v₃ hflushed hsame htorn
  have hframe₃ := (hcreated.trans hwritten).trans hflushed
  have htouched₃ := hearly v₃ hframe₃
  refine SecureDir.wp_rename (by simp) (hsame.trans hcurrent) htorn
    ⟨fun e _ => hcleanup _ v₃ htouched₃, (hends v₃ htouched₃).2⟩ ?_
  intro v₄ hrenamed hwrote
  have hkeeps₄ : SecureDir.Keeps (fun d n => d = () ∧ n = name) v v₄ := by
    refine (SecureDir.keeps_of_frame_temporary hframe₃).trans ?_
    refine Volume.Frame.mono hrenamed ?_
    rintro d e ⟨rfl, rfl | rfl⟩
    · trivial
    · exact ⟨rfl, rfl⟩
  have hwrote₄ := (hframe₃ () (.named name) (by simp)).wrote hwrote
  have htouched₄ : Touched () name (some bytes) v v₄ := ⟨hkeeps₄, Or.inr hwrote₄⟩
  refine SecureDir.wp_sync ⟨fun e _ => hcleanup _ v₄ htouched₄, (hends v₄ htouched₄).2⟩ ?_
  refine hok _ ⟨hkeeps₄.trans (Volume.frame_sync _ v₄ ()), ?_⟩ directorySynced_sync
  rw [Volume.sync_same, Cell.sync_eq_settled hwrote₄.2.1, hwrote₄.1]

end SecureDirectory

end SleepySession
