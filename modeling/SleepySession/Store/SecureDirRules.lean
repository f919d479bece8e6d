import SleepySession.Store.SecureDir

/-!
# Specifications of the directory operations

Each operation of `SecureDir` has one specification, stated for all answers of
the environment.  A replacement that fails or is interrupted leaves the
destination as it was, or lets it show the new content with the old one still
able to return; a completed one is durable.  Temporary files next to the
destination are not tracked.
-/

namespace SleepySession

namespace SecureDir

open Program

variable {D N β α : Type}

section Frames

/-- The postcondition covers every way to be cut off in the given state. -/
def Cut (Q : Post (Volume D (Entry N) β) Failure α) (v : Volume D (Entry N) β) :
    Prop :=
  (∀ e : Failure, e.Interrupts → Q.error e v) ∧ Q.crashed v

/-- A hook of an operation: it can stop the operation but changes nothing. -/
def Silent (A : Answer N β → Prop) (m : Disk D N β α) : Prop :=
  ∀ (Q : Post (Volume D (Entry N) β) Failure α) (v : Volume D (Entry N) β),
    Cut Q v → (∀ a, Q.ok a v) → m.wp A Q v

/-- Closed names outside `W` are untouched; temporary files are not tracked. -/
def Keeps (W : D → N → Prop) (v v' : Volume D (Entry N) β) : Prop :=
  v.Frame
    (fun d e =>
      match e with
      | .named n => W d n
      | .temporary _ _ => True)
    v'

/-- A replacement by `x` that was cut off somewhere. -/
def Touched
    (d : D) (n : N) (x : Option β) (v v' : Volume D (Entry N) β) : Prop :=
  Keeps (fun d' n' => d' = d ∧ n' = n) v v' ∧
    ((v d (.named n)).Shrinks (v' d (.named n)) ∨
      (v d (.named n)).Wrote x (v' d (.named n)))

/-- A replacement by `x` that completed. -/
def Replaced
    (d : D) (n : N) (x : Option β) (v v' : Volume D (Entry N) β) : Prop :=
  Keeps (fun d' n' => d' = d ∧ n' = n) v v' ∧
    v' d (.named n) = Cell.settled x

/-- A publication of `x` that was cut off somewhere. -/
def Publishing
    (d : D) (temporary n : N) (x : Option β) (v v' : Volume D (Entry N) β) :
    Prop :=
  Keeps (fun d' n' => d' = d ∧ (n' = temporary ∨ n' = n)) v v' ∧
    ((v d (.named n)).Shrinks (v' d (.named n)) ∨
      (v d (.named n)).Wrote x (v' d (.named n)))

/-- A publication of `x` that completed. -/
def Published
    (d : D) (temporary n : N) (x : Option β) (v v' : Volume D (Entry N) β) :
    Prop :=
  Keeps (fun d' n' => d' = d ∧ (n' = temporary ∨ n' = n)) v v' ∧
    v' d (.named n) = Cell.settled x

theorem Keeps.refl (W : D → N → Prop) (v : Volume D (Entry N) β) :
    Keeps W v v :=
  Volume.Frame.refl _ v

theorem Keeps.trans
    {W : D → N → Prop}
    {v v₁ v₂ : Volume D (Entry N) β}
    (h₁ : Keeps W v v₁)
    (h₂ : Keeps W v₁ v₂) :
    Keeps W v v₂ :=
  Volume.Frame.trans h₁ h₂

theorem Keeps.mono
    {W W' : D → N → Prop}
    {v v' : Volume D (Entry N) β}
    (h : Keeps W v v')
    (hW : ∀ d n, W d n → W' d n) :
    Keeps W' v v' := by
  refine Volume.Frame.mono h ?_
  intro d e he
  cases e with
  | named n => exact hW d n he
  | temporary n uuid => trivial

theorem Keeps.shrinks
    {W : D → N → Prop}
    {v v' : Volume D (Entry N) β}
    (h : Keeps W v v')
    {d : D} {n : N}
    (hn : ¬ W d n) :
    (v d (.named n)).Shrinks (v' d (.named n)) :=
  h d (.named n) hn

/-- Nothing that only concerns a temporary file is tracked. -/
theorem keeps_of_frame_temporary
    {W : D → N → Prop}
    {v v' : Volume D (Entry N) β}
    {d : D} {n : N} {uuid : String}
    (h : v.Frame (fun d' n' => d' = d ∧ n' = Entry.temporary n uuid) v') :
    Keeps W v v' := by
  refine Volume.Frame.mono h ?_
  rintro d' n' ⟨rfl, rfl⟩
  trivial

theorem keeps_of_frame_named
    {W : D → N → Prop}
    {v v' : Volume D (Entry N) β}
    {d : D} {n : N}
    (h : v.Frame (fun d' n' => d' = d ∧ n' = Entry.named n) v')
    (hW : W d n) :
    Keeps W v v' := by
  refine Volume.Frame.mono h ?_
  rintro d' n' ⟨rfl, rfl⟩
  exact hW

end Frames

set_option linter.unusedSectionVars false

variable [DecidableEq D] [DecidableEq N] [DisplayPath D N]
variable {A : Answer N β → Prop}

section SystemCalls

theorem wp_syscall
    {Q : Post (Volume D (Entry N) β) Failure Unit}
    {v : Volume D (Entry N) β}
    (hcut : Cut Q v)
    (hok : Q.ok () v) :
    (syscall : Disk D N β Unit).wp A Q v := by
  refine ⟨hcut.2, ?_⟩
  intro a _
  cases a with
  | mk fault text uuid torn listing accepted available =>
      cases fault with
      | proceed => exact hok
      | refuse => exact hcut.1 _ (Failure.interrupts_io text)
      | fail => exact hcut.1 _ (Failure.interrupts_io text)
      | crash => exact hcut.2

theorem wp_openRegularOptional
    {Q : Post (Volume D (Entry N) β) Failure Bool}
    {v : Volume D (Entry N) β}
    {d : D} {n : Entry N}
    (hcut : Cut Q v)
    (hok : Q.ok (v d n).current.isSome v) :
    (openRegularOptional d n : Disk D N β Bool).wp A Q v := by
  refine ⟨hcut.2, ?_⟩
  intro a _
  cases a with
  | mk fault text uuid torn listing accepted available =>
      cases fault with
      | proceed => exact hok
      | refuse => exact hcut.1 _ (Failure.interrupts_unsafePath _)
      | fail => exact hcut.1 _ (Failure.interrupts_io text)
      | crash => exact hcut.2

theorem wp_readOptional
    {Q : Post (Volume D (Entry N) β) Failure (Option β)}
    {v : Volume D (Entry N) β}
    {d : D} {n : Entry N}
    (hcut : Cut Q v)
    (hok : Q.ok (v d n).current v) :
    (readOptional d n : Disk D N β (Option β)).wp A Q v := by
  unfold readOptional
  rw [wp_bind]
  refine wp_openRegularOptional hcut ?_
  cases hc : (v d n).current with
  | none => simpa [hc] using hok
  | some bytes =>
      simp only [Option.isSome_some, if_true, wp_bind]
      refine wp_syscall hcut ?_
      simpa [hc] using hok

theorem wp_read
    {Q : Post (Volume D (Entry N) β) Failure β}
    {v : Volume D (Entry N) β}
    {d : D} {n : Entry N}
    (hcut : Cut Q v)
    (hok : ∀ bytes, (v d n).current = some bytes → Q.ok bytes v) :
    (read d n : Disk D N β β).wp A Q v := by
  unfold read
  rw [wp_bind]
  refine wp_readOptional hcut ?_
  cases hc : (v d n).current with
  | none => exact hcut.1 _ (Failure.interrupts_io _)
  | some bytes => exact hok bytes hc

theorem wp_removeFile
    {Q : Post (Volume D (Entry N) β) Failure Unit}
    {v : Volume D (Entry N) β}
    {d : D} {n : Entry N}
    (hcut : Cut Q v)
    (hok :
      ∀ v', v.Frame (fun d' n' => d' = d ∧ n' = n) v' →
        (v d n).Wrote none (v' d n) → Q.ok () v') :
    (removeFile d n : Disk D N β Unit).wp A Q v := by
  unfold removeFile
  rw [wp_bind]
  refine wp_syscall hcut ?_
  refine hok _ (Volume.frame_update v _ ⟨rfl, rfl⟩) ?_
  simpa using Cell.wrote_replace (v d n) none

theorem wp_sync
    {Q : Post (Volume D (Entry N) β) Failure Unit}
    {v : Volume D (Entry N) β}
    {d : D}
    (hcut : Cut Q v)
    (hok : Q.ok () (v.sync d)) :
    (sync d : Disk D N β Unit).wp A Q v := by
  unfold sync
  rw [wp_bind]
  exact wp_syscall hcut hok

theorem wp_discard
    {Q : Post (Volume D (Entry N) β) Failure α}
    {v : Volume D (Entry N) β}
    {d : D} {n : Entry N} {e : Failure}
    (hcut :
      ∀ v', v.Frame (fun d' n' => d' = d ∧ n' = n) v' →
        Q.error e v' ∧ Q.crashed v') :
    (discard d n e : Disk D N β α).wp A Q v := by
  have hself := hcut v (Volume.Frame.refl _ v)
  unfold discard
  simp only [wp_bind, wp_attempt]
  refine wp_removeFile ⟨fun _ _ => hself.1, hself.2⟩ ?_
  intro v' h' _
  exact (hcut v' h').1

theorem wp_createNew
    {Q : Post (Volume D (Entry N) β) Failure Unit}
    {v : Volume D (Entry N) β}
    {d : D} {n : Entry N} {empty : β}
    (hcut : Cut Q v)
    (hok : ∀ v', v.Frame (fun d' n' => d' = d ∧ n' = n) v' → Q.ok () v') :
    (createNew d n empty : Disk D N β Unit).wp A Q v := by
  refine ⟨hcut.2, ?_⟩
  intro a _
  cases a with
  | mk fault text uuid torn listing accepted available =>
      cases fault with
      | refuse => exact hcut.1 _ (Failure.interrupts_unsafePath _)
      | fail => exact hcut.1 _ (Failure.interrupts_io text)
      | crash => exact hcut.2
      | proceed =>
          simp only [andThen, wp_bind, wp_get]
          split
          · exact hcut.1 _ (Failure.interrupts_io text)
          · exact hok _ (Volume.frame_update v _ ⟨rfl, rfl⟩)

theorem wp_writeAll
    {Q : Post (Volume D (Entry N) β) Failure Unit}
    {v : Volume D (Entry N) β}
    {d : D} {n : Entry N} {bytes : β}
    (hcut : ∀ v', v.Frame (fun d' n' => d' = d ∧ n' = n) v' → Cut Q v')
    (hok :
      ∀ v', v.Frame (fun d' n' => d' = d ∧ n' = n) v' →
        (v' d n).current = some bytes → Q.ok () v') :
    (writeAll d n bytes : Disk D N β Unit).wp A Q v := by
  have hframe : ∀ c : Cell β,
      v.Frame (fun d' n' => d' = d ∧ n' = n) (v.update d n c) :=
    fun c => Volume.frame_update v c ⟨rfl, rfl⟩
  refine ⟨(hcut v (Volume.Frame.refl _ v)).2, ?_⟩
  intro a _
  cases a with
  | mk fault text uuid torn listing accepted available =>
      cases fault with
      | refuse => exact (hcut _ (hframe _)).1 _ (Failure.interrupts_io text)
      | fail => exact (hcut _ (hframe _)).1 _ (Failure.interrupts_io text)
      | crash => exact (hcut _ (hframe _)).2
      | proceed => exact hok _ (hframe _) (by simp [Cell.overwrite])

theorem wp_syncAll
    {Q : Post (Volume D (Entry N) β) Failure Unit}
    {v : Volume D (Entry N) β}
    {d : D} {n : Entry N}
    (hcut : Cut Q v)
    (hok :
      ∀ v', v.Frame (fun d' n' => d' = d ∧ n' = n) v' →
        (v' d n).current = (v d n).current → (v' d n).torn = [] → Q.ok () v') :
    (syncAll d n : Disk D N β Unit).wp A Q v := by
  unfold syncAll
  rw [wp_bind]
  refine wp_syscall hcut ?_
  exact hok _ (Volume.frame_update v _ ⟨rfl, rfl⟩)
    (by simp [Cell.flush]) (by simp [Cell.flush])

theorem wp_writeNew
    {Q : Post (Volume D (Entry N) β) Failure Unit}
    {v : Volume D (Entry N) β}
    {d : D} {n : Entry N} {empty bytes : β}
    (hcut : ∀ v', v.Frame (fun d' n' => d' = d ∧ n' = n) v' → Cut Q v')
    (hok :
      ∀ v', v.Frame (fun d' n' => d' = d ∧ n' = n) v' →
        (v' d n).current = some bytes → (v' d n).torn = [] → Q.ok () v') :
    (writeNew d n empty bytes : Disk D N β Unit).wp A Q v := by
  unfold writeNew
  rw [wp_bind]
  refine wp_createNew (hcut v (Volume.Frame.refl _ v)) ?_
  intro v₁ h₁
  simp only [wp_bind]
  refine wp_writeAll (fun v₂ h₂ => hcut v₂ (h₁.trans h₂)) ?_
  intro v₂ h₂ hcurrent
  refine wp_syncAll (hcut v₂ (h₁.trans h₂)) ?_
  intro v₃ h₃ hsame htorn
  exact hok v₃ ((h₁.trans h₂).trans h₃) (hsame.trans hcurrent) htorn

theorem wp_rename
    {Q : Post (Volume D (Entry N) β) Failure Unit}
    {v : Volume D (Entry N) β}
    {d : D} {source destination : Entry N} {bytes : β}
    (hne : destination ≠ source)
    (hcurrent : (v d source).current = some bytes)
    (htorn : (v d source).torn = [])
    (hcut : Cut Q v)
    (hok :
      ∀ v',
        v.Frame (fun d' n' => d' = d ∧ (n' = source ∨ n' = destination)) v' →
        (v d destination).Wrote (some bytes) (v' d destination) → Q.ok () v') :
    (rename d source destination : Disk D N β Unit).wp A Q v := by
  unfold rename
  rw [wp_bind]
  refine wp_syscall hcut ?_
  have hdestination : v.rename d source destination d destination =
      (v d destination).receive (v d source) :=
    Volume.rename_destination v hne
  refine hok (v.rename d source destination)
    (Volume.frame_rename v ⟨rfl, Or.inl rfl⟩ ⟨rfl, Or.inr rfl⟩) ?_
  rw [hdestination]
  refine ⟨hcurrent, htorn, ?_⟩
  intro y hy
  simpa [Cell.receive, Cell.values, hcurrent, htorn] using hy

theorem Silent.pure :
    Silent A (pure () : Disk D N β Unit) :=
  fun _ _ _ hok => hok ()

end SystemCalls

section Replacement

/-- A temporary file that is ready to be moved into place. -/
def Staged
    (d : D) (name : N) (bytes : β) (uuid : String) (v v' : Volume D (Entry N) β) :
    Prop :=
  Keeps (fun _ _ => False) v v' ∧
    (v' d (.temporary name uuid)).current = some bytes ∧
    (v' d (.temporary name uuid)).torn = []

/-- Only temporary files change before the rename. -/
theorem wp_stageFile
    {Q : Post (Volume D (Entry N) β) Failure (String × α)}
    {v : Volume D (Entry N) β}
    {d : D} {name : N} {empty bytes : β} {afterFileSync : Disk D N β α}
    (hfile : Silent A afterFileSync)
    (hcut : ∀ v', Keeps (fun _ _ => False) v v' → Cut Q v')
    (hok : ∀ uuid a v', Staged d name bytes uuid v v' → Q.ok (uuid, a) v') :
    (stageFile d name empty bytes afterFileSync).wp A Q v := by
  unfold stageFile validateFileIfPresent
  simp only [wp_bind]
  refine wp_openRegularOptional (hcut v (Keeps.refl _ v)) ?_
  simp only [wp_pure, newUuid, wp_bind, wp_answer]
  refine ⟨(hcut v (Keeps.refl _ v)).2, ?_⟩
  intro a _
  have hremove : ∀ (e : Failure) v', e.Interrupts →
      Keeps (fun _ _ => False) v v' →
      (discard d (.temporary name a.uuid) e : Disk D N β (String × α)).wp A Q v' := by
    intro e v' he h
    refine wp_discard ?_
    intro v'' h''
    have hcut'' := hcut v'' (h.trans (keeps_of_frame_temporary h''))
    exact ⟨hcut''.1 e he, hcut''.2⟩
  rw [wp_attempt]
  refine wp_writeNew ?_ ?_
  · intro v₁ h₁
    have hkeep := keeps_of_frame_temporary (W := fun _ _ => False) h₁
    exact ⟨fun e he => hremove e v₁ he hkeep, (hcut v₁ hkeep).2⟩
  intro v₁ h₁ hcurrent htorn
  have hkeep := keeps_of_frame_temporary (W := fun _ _ => False) h₁
  simp only [wp_bind, wp_attempt]
  refine hfile _ v₁ ⟨fun e he => hremove e v₁ he hkeep, (hcut v₁ hkeep).2⟩ ?_
  intro hook
  exact hok a.uuid hook v₁ ⟨hkeep, hcurrent, htorn⟩

/-- From the rename on the destination shows the new content. -/
theorem wp_commitFile
    {Q : Post (Volume D (Entry N) β) Failure Unit}
    {v v₁ : Volume D (Entry N) β}
    {d : D} {name : N} {bytes : β} {uuid : String}
    {afterRename afterDirectorySync : Disk D N β Unit}
    (hrename : Silent A afterRename)
    (hdirectory : Silent A afterDirectorySync)
    (hstaged : Staged d name bytes uuid v v₁)
    (hcut : ∀ v', Touched d name (some bytes) v v' → Cut Q v')
    (hok : ∀ v', Replaced d name (some bytes) v v' → Q.ok () v') :
    (commitFile d name uuid afterRename afterDirectorySync).wp A Q v₁ := by
  obtain ⟨hkeep, hcurrent, htorn⟩ := hstaged
  have hearly : Cut Q v₁ :=
    hcut v₁ ⟨hkeep.mono (by simp), Or.inl (hkeep.shrinks (by simp))⟩
  unfold commitFile
  simp only [wp_bind]
  refine wp_rename (by simp) hcurrent htorn hearly ?_
  intro v₂ h₂ hwrote
  have hframe : Keeps (fun d' n' => d' = d ∧ n' = name) v v₂ := by
    refine (hkeep.mono (by simp)).trans ?_
    refine Volume.Frame.mono h₂ ?_
    rintro d' e ⟨rfl, rfl | rfl⟩
    · trivial
    · exact ⟨rfl, rfl⟩
  have htouched : Touched d name (some bytes) v v₂ :=
    ⟨hframe, Or.inr ((hkeep.shrinks (by simp)).wrote hwrote)⟩
  refine hrename _ v₂ (hcut v₂ htouched) ?_
  intro _
  simp only [wp_mapError]
  refine wp_sync
    ⟨fun e _ =>
      (hcut v₂ htouched).1 _ (Failure.interrupts_commitStateUnknown e.display),
      (hcut v₂ htouched).2⟩ ?_
  have hreplaced : Replaced d name (some bytes) v (v₂.sync d) := by
    refine ⟨hframe.trans (Volume.frame_sync _ v₂ d), ?_⟩
    rw [Volume.sync_same, Cell.sync_eq_settled hwrote.2.1, hwrote.1]
  have hdone : Touched d name (some bytes) v (v₂.sync d) :=
    ⟨hreplaced.1, Or.inr
      (((hkeep.shrinks (by simp)).wrote hwrote).shrinks
        (Volume.frame_sync (fun _ _ => False) v₂ d d (.named name) (by simp)))⟩
  exact hdirectory _ _ (hcut _ hdone) fun _ => hok _ hreplaced

/-- The specification of `atomic_replace`. -/
theorem wp_atomicReplace
    {Q : Post (Volume D (Entry N) β) Failure Unit}
    {v : Volume D (Entry N) β}
    {d : D} {name : N} {empty bytes : β}
    {afterFileSync afterRename afterDirectorySync : Disk D N β Unit}
    (hfile : Silent A afterFileSync)
    (hrename : Silent A afterRename)
    (hdirectory : Silent A afterDirectorySync)
    (hcut : ∀ v', Touched d name (some bytes) v v' → Cut Q v')
    (hok : ∀ v', Replaced d name (some bytes) v v' → Q.ok () v') :
    (atomicReplace d name empty bytes afterFileSync afterRename
      afterDirectorySync).wp A Q v := by
  unfold atomicReplace
  rw [wp_bind]
  refine wp_stageFile hfile ?_ ?_
  · intro v' h
    exact hcut v' ⟨h.mono (by simp), Or.inl (h.shrinks (by simp))⟩
  · intro uuid _ v' hstaged
    exact wp_commitFile hrename hdirectory hstaged hcut hok

/-- The specification of `publish_new`. -/
theorem wp_publishNew
    {Q : Post (Volume D (Entry N) β) Failure Unit}
    {v : Volume D (Entry N) β}
    {d : D} {temporary destination : N} {empty bytes : β}
    {observe : PublicationBoundary → Disk D N β Unit}
    (hobserve : ∀ boundary, Silent A (observe boundary))
    (hne : destination ≠ temporary)
    (hcut : ∀ v', Publishing d temporary destination (some bytes) v v' → Cut Q v')
    (hconflict : ∀ message, Q.error (.conflict message) v)
    (hok :
      (v d (.named destination)).current = none →
      ∀ v', Published d temporary destination (some bytes) v v' → Q.ok () v') :
    (publishNew d temporary destination empty bytes observe).wp A Q v := by
  -- up to the rename only the temporary file changes
  have htemporary : ∀ {v₁ v₂ : Volume D (Entry N) β},
      Keeps (fun d' n' => d' = d ∧ n' = temporary) v v₁ →
      v₁.Frame (fun d' n' => d' = d ∧ n' = Entry.named temporary) v₂ →
      Keeps (fun d' n' => d' = d ∧ n' = temporary) v v₂ :=
    fun h₁ h₂ => h₁.trans (keeps_of_frame_named h₂ ⟨rfl, rfl⟩)
  have hsame : ∀ {v' : Volume D (Entry N) β},
      Keeps (fun d' n' => d' = d ∧ n' = temporary) v v' →
      (v d (.named destination)).Shrinks (v' d (.named destination)) :=
    fun h => h.shrinks (by simp [hne])
  have hearly : ∀ v', Keeps (fun d' n' => d' = d ∧ n' = temporary) v v' →
      Cut Q v' := by
    intro v' h
    refine hcut v' ⟨h.mono ?_, Or.inl (hsame h)⟩
    rintro d' n' ⟨hd, hn⟩
    exact ⟨hd, Or.inl hn⟩
  unfold publishNew «exists»
  simp only [wp_bind]
  refine wp_openRegularOptional (hearly v (Keeps.refl _ v)) ?_
  cases hpresent : (v d (.named destination)).current with
  | some old =>
      simpa using hconflict _
  | none =>
      simp only [Option.isSome_none, Bool.false_eq_true, if_false, wp_bind]
      refine wp_createNew (hearly v (Keeps.refl _ v)) ?_
      intro v₁ h₁
      have hk₁ := htemporary (Keeps.refl _ v) h₁
      simp only [wp_attempt]
      have hremove : ∀ (e : Failure) v', e.Interrupts →
          Keeps (fun d' n' => d' = d ∧ n' = temporary) v v' →
          (discard d (.named temporary) e : Disk D N β Unit).wp A Q v' := by
        intro e v' he h
        refine wp_discard ?_
        intro v'' h''
        have hcut'' := hearly v'' (htemporary h h'')
        exact ⟨hcut''.1 e he, hcut''.2⟩
      have hstop : ∀ v', Keeps (fun d' n' => d' = d ∧ n' = temporary) v v' →
          (∀ e : Failure, e.Interrupts →
            (discard d (.named temporary) e : Disk D N β Unit).wp A Q v') ∧
            Q.crashed v' :=
        fun v' h => ⟨fun e he => hremove e v' he h, (hearly v' h).2⟩
      unfold publishFile
      simp only [wp_bind, wp_answer]
      refine ⟨(hstop v₁ hk₁).2, ?_⟩
      intro a _
      refine wp_writeAll (fun v' h => hstop v' (htemporary hk₁ h)) ?_
      intro v₂ h₂ _
      have hk₂ := htemporary hk₁ h₂
      refine hobserve _ _ v₂ (hstop v₂ hk₂) ?_
      intro _
      refine wp_writeAll (fun v' h => hstop v' (htemporary hk₂ h)) ?_
      intro v₃ h₃ hcurrent₃
      have hk₃ := htemporary hk₂ h₃
      refine hobserve _ _ v₃ (hstop v₃ hk₃) ?_
      intro _
      refine wp_syncAll (hstop v₃ hk₃) ?_
      intro v₄ h₄ hcurrent₄ htorn₄
      have hk₄ := htemporary hk₃ h₄
      refine hobserve _ _ v₄ (hstop v₄ hk₄) ?_
      intro _
      refine wp_rename (by simp [hne]) (hcurrent₄.trans hcurrent₃) htorn₄
        (hstop v₄ hk₄) ?_
      intro v₅ h₅ hwrote
      -- from here on the destination shows the new content
      have hframe :
          Keeps (fun d' n' => d' = d ∧ (n' = temporary ∨ n' = destination))
            v v₅ := by
        refine (hk₄.mono fun d' n' h => ⟨h.1, Or.inl h.2⟩).trans ?_
        refine Volume.Frame.mono h₅ ?_
        rintro d' e ⟨rfl, rfl | rfl⟩
        · exact ⟨rfl, Or.inl rfl⟩
        · exact ⟨rfl, Or.inr rfl⟩
      have hwritten := (hsame hk₄).wrote hwrote
      have hcut₅ := hcut v₅ ⟨hframe, Or.inr hwritten⟩
      unfold publishDirectory
      simp only [wp_bind]
      refine hobserve _ _ v₅ hcut₅ ?_
      intro _
      refine hobserve _ _ v₅ hcut₅ ?_
      intro _
      simp only [wp_mapError]
      refine wp_sync
        ⟨fun e _ => hcut₅.1 _ (Failure.interrupts_commitStateUnknown e.display),
          hcut₅.2⟩ ?_
      have hpublished :
          Published d temporary destination (some bytes) v (v₅.sync d) := by
        refine ⟨hframe.trans (Volume.frame_sync _ v₅ d), ?_⟩
        rw [Volume.sync_same, Cell.sync_eq_settled hwrote.2.1, hwrote.1]
      have hdone := hwritten.shrinks
        (Volume.frame_sync (fun _ _ => False) v₅ d d (.named destination) (by simp))
      exact hobserve _ _ _ (hcut _ ⟨hpublished.1, Or.inr hdone⟩)
        fun _ => hok hpresent _ hpublished

end Replacement

end SecureDir

end SleepySession
