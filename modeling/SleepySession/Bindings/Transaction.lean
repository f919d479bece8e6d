import SleepySession.Store.SecureDirRules
import SleepySession.Bindings.Apply

/-!
# Stages of a binding transaction

A `Transaction` is what one run of `prepare` fixes: its identifier, the three
old contents and the three candidates.  On disk it passes through four stages,
told apart by the journal records that a reader may find.

* `Quiet`: no record, or only records that recovery merely cleans up.  The
  live files are durable.
* `Sealing`: the complete record has been renamed into place but may still
  revert to the incomplete one.  The live files are the old ones.
* `Open`: every record is complete and unconfirmed.  Each live file is the old
  or the candidate one.
* `Closing`: the confirmed record has been renamed into place but may still
  revert to the unconfirmed one.  The live files are those of one side.

Each stage speaks about all values of the cells, so every stage is closed
under a loss of power, up to the step from `Sealing` and `Closing` to one of
their neighbours.  The proposition `S` says whether the sidecars are tracked
as well: it is what the readability of the journal needs, and what the
atomicity of the live files does not.
-/

namespace SleepySession

open Program SecureDir

section Cells

variable {β : Type}

def journalCell (v : Files β) : Cell β :=
  v .presets (.named journalName)

def sidecarCell
    (v : Files β) (k : ArtifactKind) (id : String) (new : Bool) : Cell β :=
  v (artifactDir k) (.named (.sidecar k id new))

/-- The live files are durable and equal to the given triple. -/
def Settled (L : Triple β) (v : Files β) : Prop :=
  ∀ k, (liveCell v k).All (· = L k)

/-- Names that no stage speaks about. -/
def Untracked : FileName → Prop
  | .artifact _ => False
  | .journal => False
  | .sidecar _ _ _ => False
  | _ => True

/-- Of the tracked names only `n` may have been written. -/
def WritesOnly (n : FileName) (v v' : Files β) : Prop :=
  Keeps (fun _ n' => n' = n ∨ Untracked n') v v'

/-- No tracked name has been written. -/
def WritesNothing (v v' : Files β) : Prop :=
  Keeps (fun _ n => Untracked n) v v'

variable {v v₁ v' : Files β} {n : FileName}

theorem WritesOnly.live
    (h : WritesOnly n v v')
    (k : ArtifactKind)
    (hn : n ≠ artifactName k) :
    (liveCell v k).Shrinks (liveCell v' k) := by
  refine h.shrinks ?_
  rintro (heq | hun)
  · exact hn heq.symm
  · exact hun

theorem WritesOnly.journal
    (h : WritesOnly n v v')
    (hn : n ≠ journalName) :
    (journalCell v).Shrinks (journalCell v') := by
  refine h.shrinks ?_
  rintro (heq | hun)
  · exact hn heq.symm
  · exact hun

theorem WritesOnly.sidecar
    (h : WritesOnly n v v')
    {k : ArtifactKind} {id : String} {new : Bool}
    (hn : n ≠ .sidecar k id new) :
    (sidecarCell v k id new).Shrinks (sidecarCell v' k id new) := by
  refine h.shrinks ?_
  rintro (heq | hun)
  · exact hn heq.symm
  · exact hun

theorem WritesNothing.writesOnly
    (h : WritesNothing v v')
    (n : FileName) :
    WritesOnly n v v' :=
  h.mono fun _ _ hun => Or.inr hun

theorem WritesNothing.refl (v : Files β) : WritesNothing v v :=
  Keeps.refl _ v

theorem WritesNothing.trans
    (h₁ : WritesNothing v v₁)
    (h₂ : WritesNothing v₁ v') :
    WritesNothing v v' :=
  Keeps.trans h₁ h₂

theorem writesNothing_sync (v : Files β) (d : Directory) :
    WritesNothing v (v.sync d) :=
  Volume.frame_sync _ v d

theorem Settled.shrinks
    {L : Triple β}
    (h : Settled L v)
    (hv : ∀ k, (liveCell v k).Shrinks (liveCell v' k)) :
    Settled L v' :=
  fun k => (hv k).all (h k)

theorem Settled.reverts
    {L : Triple β}
    (h : Settled L v)
    (hv : v.Reverts v') :
    Settled L v' :=
  fun k => hv.all (h k)

/-- What a reader of the live files sees. -/
theorem Settled.current
    {L : Triple β}
    (h : Settled L v)
    (k : ArtifactKind) :
    (liveCell v k).current = L k :=
  (h k).current

end Cells

/-- What one run of `prepare` fixes. -/
structure Transaction (β : Type) where
  id : String
  activePresetId : String
  previousActivePresetId : Option String
  old : Triple β
  candidate : CandidateArtifacts β

namespace Transaction

variable {β : Type} (contents : Contents β) (T : Transaction β)

def artifact (k : ArtifactKind) : JournalArtifact :=
  { kind := k
    destination := destinationOf k
    oldArtifact := sidecarPath k T.id false
    newArtifact := sidecarPath k T.id true
    oldExisted := (T.old k).isSome
    oldHash := contents.hash ((T.old k).getD contents.empty)
    newHash := contents.hash (T.candidate.get k) }

/-- The journal record of the transaction. -/
def journal
    (phase : JournalPhase) (target : RecoveryTarget) (complete : Bool) :
    TransactionJournal :=
  { schemaVersion := 1
    transactionId := T.id
    phase := phase
    recoveryTarget := target
    sidecarsComplete := complete
    activePresetId := T.activePresetId
    previousActivePresetId := T.previousActivePresetId
    artifacts :=
      [T.artifact contents .preset, T.artifact contents .settings,
        T.artifact contents .bindings] }

/-- The serialized record, as it is found under the journal's name. -/
def recorded
    (phase : JournalPhase) (target : RecoveryTarget) (complete : Bool) :
    Option β :=
  some (contents.encode (T.journal contents phase target complete))

/-- The artifact has equal digests on both sides, so it is never installed. -/
def Noop (k : ArtifactKind) : Prop :=
  contents.hash ((T.old k).getD contents.empty) =
    contents.hash (T.candidate.get k)

instance (k : ArtifactKind) : Decidable (T.Noop contents k) :=
  inferInstanceAs (Decidable (_ = _))

/-- The live file that a completed installation of one side leaves. -/
def content (target : RecoveryTarget) (k : ArtifactKind) : Option β :=
  if T.Noop contents k then
    T.old k
  else
    match target with
    | .candidate => some (T.candidate.get k)
    | .previous => T.old k

/-- The content of a sidecar. -/
def sidecar (k : ArtifactKind) (new : Bool) : β :=
  if new then T.candidate.get k else (T.old k).getD contents.empty

/-- Every artifact that is never installed exists. -/
def Live : Prop :=
  ∀ k, T.Noop contents k → T.old k ≠ none

/-- The header of the journal passes its own check. -/
def HeaderValid : Prop :=
  canonicalUuid T.id = true ∧ blank T.activePresetId = false

/-- Each sidecar that can be found has the right content. -/
def SidecarsSound (v : Files β) : Prop :=
  ∀ k new, (sidecarCell v k T.id new).All
    fun x => x = none ∨ x = some (T.sidecar contents k new)

/-- Each sidecar is there, durably. -/
def SidecarsIntact (v : Files β) : Prop :=
  ∀ k new, (sidecarCell v k T.id new).All (· = some (T.sidecar contents k new))

@[simp] theorem content_previous (k : ArtifactKind) :
    T.content contents .previous k = T.old k := by
  unfold content
  split <;> rfl

theorem content_noop
    {k : ArtifactKind}
    (h : T.Noop contents k)
    (target : RecoveryTarget) :
    T.content contents target k = T.old k := by
  simp [content, h]

theorem content_candidate
    {k : ArtifactKind}
    (h : ¬ T.Noop contents k) :
    T.content contents .candidate k = some (T.candidate.get k) := by
  simp [content, h]

variable {contents T}
variable {v v' : Files β}

theorem SidecarsIntact.sound
    (h : T.SidecarsIntact contents v) :
    T.SidecarsSound contents v :=
  fun k new => (h k new).mono fun _ hx => Or.inr hx

theorem SidecarsSound.shrinks
    (h : T.SidecarsSound contents v)
    (hv : ∀ k new,
      (sidecarCell v k T.id new).Shrinks (sidecarCell v' k T.id new)) :
    T.SidecarsSound contents v' :=
  fun k new => (hv k new).all (h k new)

theorem SidecarsIntact.shrinks
    (h : T.SidecarsIntact contents v)
    (hv : ∀ k new,
      (sidecarCell v k T.id new).Shrinks (sidecarCell v' k T.id new)) :
    T.SidecarsIntact contents v' :=
  fun k new => (hv k new).all (h k new)

theorem SidecarsSound.reverts
    (h : T.SidecarsSound contents v)
    (hv : v.Reverts v') :
    T.SidecarsSound contents v' :=
  fun k new => hv.all (h k new)

theorem SidecarsIntact.reverts
    (h : T.SidecarsIntact contents v)
    (hv : v.Reverts v') :
    T.SidecarsIntact contents v' :=
  fun k new => hv.all (h k new)

/-- A removed sidecar is still a sound one. -/
theorem SidecarsSound.remove
    (h : T.SidecarsSound contents v)
    {k : ArtifactKind} {id : String} {new : Bool}
    (hv : WritesOnly (.sidecar k id new) v v')
    (hnone : (sidecarCell v k id new).Wrote none (sidecarCell v' k id new)) :
    T.SidecarsSound contents v' := by
  intro k' new'
  by_cases heq : FileName.sidecar k id new = .sidecar k' T.id new'
  · injection heq with hk hid hnew
    subst hk hid hnew
    exact hnone.all (Or.inl rfl) (h k new)
  · exact (hv.sidecar heq).all (h k' new')

end Transaction

section Stages

variable {β : Type} (contents : Contents β) (S : Prop)

/-- A record that recovery only has to clean up. -/
def Leftover (v : Files β) (x : Option β) : Prop :=
  ∃ (T : Transaction β) (phase : JournalPhase) (target : RecoveryTarget)
    (complete : Bool),
    x = T.recorded contents phase target complete ∧
      (S → T.HeaderValid) ∧
      (complete = false ∨
        phase = .reloadConfirmed ∧ T.SidecarsSound contents v)

structure Quiet (L : Triple β) (v : Files β) : Prop where
  live : Settled L v
  journal : (journalCell v).All fun x => x = none ∨ Leftover contents S v x

/-- What the tracked part of an unfinished transaction has to satisfy. -/
structure Tracked (T : Transaction β) (v : Files β) : Prop where
  header : T.HeaderValid
  live : T.Live contents
  intact : T.SidecarsIntact contents v

structure Sealing (T : Transaction β) (v : Files β) : Prop where
  live : Settled T.old v
  shown : ∃ target,
    (journalCell v).current = T.recorded contents .prepared target true
  journal : (journalCell v).All fun x =>
    x = T.recorded contents .prepared .candidate false ∨
      ∃ target, x = T.recorded contents .prepared target true
  header : S → T.HeaderValid
  sound : T.SidecarsSound contents v
  tracked : S → Tracked contents T v

structure Open (T : Transaction β) (v : Files β) : Prop where
  live : ∀ k, (liveCell v k).All fun x =>
    x = T.content contents .previous k ∨ x = T.content contents .candidate k
  journal : (journalCell v).All fun x =>
    ∃ phase target, phase ≠ .reloadConfirmed ∧
      x = T.recorded contents phase target true
  sound : T.SidecarsSound contents v
  tracked : S → Tracked contents T v

structure Closing
    (T : Transaction β) (target : RecoveryTarget) (v : Files β) : Prop where
  live : Settled (T.content contents target) v
  shown : (journalCell v).current =
    T.recorded contents .reloadConfirmed target true
  torn : (journalCell v).torn = []
  journal : (journalCell v).All fun x =>
    x = T.recorded contents .reloadConfirmed target true ∨
      x = T.recorded contents .reloadPending target true
  sound : T.SidecarsSound contents v
  header : S → T.HeaderValid
  liveOk : S → T.Live contents

/-- Both outcomes of the transaction are acceptable. -/
def Permits (P : Triple β → Prop) (T : Transaction β) : Prop :=
  P T.old ∧ (T.Live contents → P (T.content contents .candidate))

/-- The stages; `P` holds of every triple that recovery may end in. -/
inductive Stage (P : Triple β → Prop) (v : Files β) : Prop where
  | quiet (L : Triple β) (hP : P L) (h : Quiet contents S L v)
  | sealing (T : Transaction β) (hP : Permits contents P T)
      (h : Sealing contents S T v)
  | «open» (T : Transaction β) (hP : Permits contents P T)
      (h : Open contents S T v)
  | closing (T : Transaction β) (target : RecoveryTarget)
      (hP : Permits contents P T) (hside : P (T.content contents target))
      (h : Closing contents S T target v)

end Stages

end SleepySession
