import SleepySession.Bindings.Transaction

/-!
# How the stages follow each other

The facts about single stages that need no program: which writes keep a stage,
which lead to the next one, and what a loss of power makes of it.  The only
loss of power that can break the readability of the journal is the one in an
`Exposed` volume, where cleanup has begun although the confirmed record may
still revert to the unconfirmed one.
-/

namespace SleepySession

open Program SecureDir

section Stages

variable {β : Type} {contents : Contents β} {S : Prop}
variable {v v' : Files β} {L : Triple β} {T : Transaction β}
variable {target : RecoveryTarget}

section Codec

variable (hcodec : contents.RoundTrips)

include hcodec

/-- Records with the same serialization are the same record. -/
theorem encode_injective
    {j j' : TransactionJournal}
    (h : contents.encode j = contents.encode j') :
    j = j' := by
  have hj := hcodec j
  rw [h, hcodec j'] at hj
  exact (Except.ok.inj hj).symm

end Codec

section Quiet

theorem Leftover.mono
    {x : Option β}
    (h : Leftover contents S v x)
    (hsound : ∀ T : Transaction β,
      T.SidecarsSound contents v → T.SidecarsSound contents v') :
    Leftover contents S v' x := by
  obtain ⟨T, phase, target, complete, hx, hheader, hkind⟩ := h
  refine ⟨T, phase, target, complete, hx, hheader, ?_⟩
  rcases hkind with hincomplete | ⟨hphase, hs⟩
  · exact Or.inl hincomplete
  · exact Or.inr ⟨hphase, hsound T hs⟩

theorem soundness_of_writesOnly
    {n : FileName}
    (h : WritesOnly n v v')
    (hn : ∀ k id new, n ≠ .sidecar k id new)
    (T : Transaction β)
    (hs : T.SidecarsSound contents v) :
    T.SidecarsSound contents v' :=
  hs.shrinks fun k new => h.sidecar (hn k T.id new)

theorem Quiet.writesNothing
    (h : Quiet contents S L v)
    (hv : WritesNothing v v') :
    Quiet contents S L v' := by
  have hj := hv.writesOnly (.other "")
  refine ⟨h.live.shrinks fun k => hj.live k (by simp [artifactName]), ?_⟩
  refine (hj.journal (by simp [journalName])).all (h.journal.mono ?_)
  intro x hx
  exact hx.imp_right fun hl =>
    hl.mono fun T => soundness_of_writesOnly hj (by simp) T

/-- Writing a record that is only cleaned up, or removing the record. -/
theorem Quiet.record
    {x : Option β}
    (h : Quiet contents S L v)
    (hv : WritesOnly journalName v v')
    (hx : x = none ∨ Leftover contents S v x)
    (hj : (journalCell v).Shrinks (journalCell v') ∨
      (journalCell v).Wrote x (journalCell v')) :
    Quiet contents S L v' := by
  have hsound : ∀ T : Transaction β,
      T.SidecarsSound contents v → T.SidecarsSound contents v' :=
    soundness_of_writesOnly hv (by simp [journalName])
  refine ⟨h.live.shrinks fun k => hv.live k (by simp [journalName, artifactName]), ?_⟩
  have hall : (journalCell v').All
      fun x => x = none ∨ Leftover contents S v x := by
    rcases hj with hj | hj
    · exact hj.all h.journal
    · exact hj.all hx h.journal
  exact hall.mono fun y hy => hy.imp_right fun hl => hl.mono hsound

theorem Quiet.removeSidecar
    (h : Quiet contents S L v)
    {k : ArtifactKind} {id : String} {new : Bool}
    (hv : WritesOnly (.sidecar k id new) v v')
    (hnone : (sidecarCell v k id new).Wrote none (sidecarCell v' k id new)) :
    Quiet contents S L v' := by
  refine ⟨h.live.shrinks fun k' => hv.live k' (by simp [artifactName]), ?_⟩
  refine (hv.journal (by simp [journalName])).all (h.journal.mono ?_)
  intro x hx
  exact hx.imp_right fun hl => hl.mono fun T hs => hs.remove hv hnone

theorem Quiet.reverts
    (h : Quiet contents S L v)
    (hv : v.Reverts v') :
    Quiet contents S L v' := by
  refine ⟨h.live.reverts hv, hv.all (h.journal.mono ?_)⟩
  intro x hx
  exact hx.imp_right fun hl => hl.mono fun T hs => hs.reverts hv

/-- Replacing one live file by another one. -/
theorem Quiet.rewrite
    (h : Quiet contents S L v)
    {k : ArtifactKind}
    (hv : WritesOnly (artifactName k) v v') :
    Quiet contents S (Function.update L k (liveTriple v' k)) v'.settle := by
  have hrevert := v'.reverts_settle
  constructor
  · intro j
    have hcell : liveCell v'.settle j = Cell.settled (liveTriple v' j) := rfl
    rw [hcell, Cell.all_settled]
    by_cases hj : j = k
    · subst hj
      simp
    · have hsame := hv.live j (by simpa [artifactName] using Ne.symm hj)
      rw [Function.update_of_ne hj]
      exact (hsame.1).trans (h.live.current j)
  · have hjournal := hv.journal (by simp [journalName, artifactName])
    refine hrevert.all ((hjournal.all h.journal).mono ?_)
    intro x hx
    refine hx.imp_right fun hl => hl.mono fun T hs => ?_
    exact (soundness_of_writesOnly hv (by simp [artifactName]) T hs).reverts hrevert

/-- As long as the record is incomplete, the sidecars do not matter. -/
theorem quiet_of_incomplete
    (hlive : Settled L v)
    (hheader : S → T.HeaderValid)
    (hj : (journalCell v).All
      (· = T.recorded contents .prepared .candidate false)) :
    Quiet contents S L v := by
  refine ⟨hlive, hj.mono ?_⟩
  intro x hx
  exact Or.inr ⟨T, .prepared, .candidate, false, hx, hheader, Or.inl rfl⟩

end Quiet

section Unfinished

theorem Tracked.shrinks
    (h : Tracked contents T v)
    (hv : ∀ k new,
      (sidecarCell v k T.id new).Shrinks (sidecarCell v' k T.id new)) :
    Tracked contents T v' :=
  ⟨h.header, h.live, h.intact.shrinks hv⟩

theorem Tracked.reverts
    (h : Tracked contents T v)
    (hv : v.Reverts v') :
    Tracked contents T v' :=
  ⟨h.header, h.live, h.intact.reverts hv⟩

/-- Recording another target while the complete record is not yet durable. -/
theorem Sealing.record
    (h : Sealing contents S T v)
    (hv : WritesOnly journalName v v')
    (hj : (journalCell v).Shrinks (journalCell v') ∨
      (journalCell v).Wrote (T.recorded contents .prepared target true)
        (journalCell v')) :
    Sealing contents S T v' := by
  have hside : ∀ k new,
      (sidecarCell v k T.id new).Shrinks (sidecarCell v' k T.id new) :=
    fun k new => hv.sidecar (by simp [journalName])
  have hshown : ∃ target,
      (journalCell v').current = T.recorded contents .prepared target true := by
    rcases hj with hj | hj
    · obtain ⟨t, ht⟩ := h.shown
      exact ⟨t, hj.1.trans ht⟩
    · exact ⟨target, hj.1⟩
  refine ⟨h.live.shrinks fun k => hv.live k (by simp [journalName, artifactName]),
    hshown, ?_, h.header, h.sound.shrinks hside,
    fun hS => (h.tracked hS).shrinks hside⟩
  rcases hj with hj | hj
  · exact hj.all h.journal
  · exact hj.all (Or.inr ⟨target, rfl⟩) h.journal

/-- Once the complete record is durable, the transaction is open. -/
theorem Sealing.seal
    (h : Sealing contents S T v)
    (hv : WritesOnly journalName v v')
    (hj : journalCell v' =
      Cell.settled (T.recorded contents .prepared target true)) :
    Open contents S T v' := by
  have hside : ∀ k new,
      (sidecarCell v k T.id new).Shrinks (sidecarCell v' k T.id new) :=
    fun k new => hv.sidecar (by simp [journalName])
  refine ⟨?_, ?_, h.sound.shrinks hside, fun hS => (h.tracked hS).shrinks hside⟩
  · intro k
    have hlive := hv.live k (by simp [journalName, artifactName])
    refine (hlive.all (h.live k)).mono ?_
    intro x hx
    exact Or.inl (by simpa using hx)
  · rw [hj, Cell.all_settled]
    exact ⟨.prepared, target, by simp, rfl⟩

theorem Open.writesNothing
    (h : Open contents S T v)
    (hv : WritesNothing v v') :
    Open contents S T v' := by
  have hj := hv.writesOnly (.other "")
  have hside : ∀ k new,
      (sidecarCell v k T.id new).Shrinks (sidecarCell v' k T.id new) :=
    fun k new => hj.sidecar (by simp)
  exact
    ⟨fun k => (hj.live k (by simp [artifactName])).all (h.live k),
      (hj.journal (by simp [journalName])).all h.journal,
      h.sound.shrinks hside, fun hS => (h.tracked hS).shrinks hside⟩

theorem Open.record
    {phase : JournalPhase}
    (h : Open contents S T v)
    (hphase : phase ≠ .reloadConfirmed)
    (hv : WritesOnly journalName v v')
    (hj : (journalCell v).Shrinks (journalCell v') ∨
      (journalCell v).Wrote (T.recorded contents phase target true)
        (journalCell v')) :
    Open contents S T v' := by
  have hside : ∀ k new,
      (sidecarCell v k T.id new).Shrinks (sidecarCell v' k T.id new) :=
    fun k new => hv.sidecar (by simp [journalName])
  refine ⟨fun k => ?_, ?_, h.sound.shrinks hside,
    fun hS => (h.tracked hS).shrinks hside⟩
  · exact (hv.live k (by simp [journalName, artifactName])).all (h.live k)
  · rcases hj with hj | hj
    · exact hj.all h.journal
    · exact hj.all ⟨phase, target, hphase, rfl⟩ h.journal

/-- Installing one side of an artifact. -/
theorem Open.install
    {k : ArtifactKind}
    (h : Open contents S T v)
    (hv : WritesOnly (artifactName k) v v')
    (hk : (liveCell v k).Shrinks (liveCell v' k) ∨
      (liveCell v k).Wrote (T.content contents target k) (liveCell v' k)) :
    Open contents S T v' := by
  have hside : ∀ k' new,
      (sidecarCell v k' T.id new).Shrinks (sidecarCell v' k' T.id new) :=
    fun k' new => hv.sidecar (by simp [artifactName])
  refine ⟨fun k' => ?_, ?_, h.sound.shrinks hside,
    fun hS => (h.tracked hS).shrinks hside⟩
  · by_cases heq : k = k'
    · subst heq
      rcases hk with hk | hk
      · exact hk.all (h.live k)
      · refine hk.all ?_ (h.live k)
        cases target with
        | candidate => exact Or.inr rfl
        | previous => exact Or.inl rfl
    · exact (hv.live k' (by simpa [artifactName] using heq)).all (h.live k')
  · exact (hv.journal (by simp [artifactName, journalName])).all h.journal

theorem Open.reverts
    (h : Open contents S T v)
    (hv : v.Reverts v') :
    Open contents S T v' :=
  ⟨fun k => hv.all (h.live k), hv.all h.journal, h.sound.reverts hv,
    fun hS => (h.tracked hS).reverts hv⟩

theorem Closing.writesNothing
    (h : Closing contents S T target v)
    (hv : WritesNothing v v') :
    Closing contents S T target v' := by
  have hj := hv.writesOnly (.other "")
  have hjournal := hj.journal (by simp [journalName])
  exact
    ⟨h.live.shrinks fun k => hj.live k (by simp [artifactName]),
      hjournal.1.trans h.shown, hjournal.2.1.trans h.torn,
      hjournal.all h.journal,
      h.sound.shrinks fun k new => hj.sidecar (by simp),
      h.header, h.liveOk⟩

theorem Closing.removeSidecar
    (h : Closing contents S T target v)
    {k : ArtifactKind} {id : String} {new : Bool}
    (hv : WritesOnly (.sidecar k id new) v v')
    (hnone : (sidecarCell v k id new).Wrote none (sidecarCell v' k id new)) :
    Closing contents S T target v' := by
  have hjournal := hv.journal (by simp [journalName])
  exact
    ⟨h.live.shrinks fun k' => hv.live k' (by simp [artifactName]),
      hjournal.1.trans h.shown, hjournal.2.1.trans h.torn,
      hjournal.all h.journal, h.sound.remove hv hnone, h.header, h.liveOk⟩

/-- Syncing the journal's directory makes the confirmation durable. -/
theorem Closing.sync
    (h : Closing contents S T target v) :
    Quiet contents S (T.content contents target) (v.sync .presets) := by
  have hn := writesNothing_sync v .presets
  have hj := hn.writesOnly (.other "")
  refine ⟨h.live.shrinks fun k => hj.live k (by simp [artifactName]), ?_⟩
  have hsettled : journalCell (v.sync .presets) =
      Cell.settled (T.recorded contents .reloadConfirmed target true) := by
    have hsync : journalCell (v.sync .presets) = (journalCell v).sync := by
      simp [journalCell]
    rw [hsync, Cell.sync_eq_settled h.torn, h.shown]
  rw [hsettled, Cell.all_settled]
  refine Or.inr ⟨T, .reloadConfirmed, target, true, rfl, h.header,
    Or.inr ⟨rfl, ?_⟩⟩
  exact h.sound.shrinks fun k new => hj.sidecar (by simp)

/-- Cleanup has begun, and the confirmed record may still revert. -/
def Exposed (contents : Contents β) (v : Files β) : Prop :=
  ∃ bytes journal,
    (journalCell v).current = some bytes ∧
      contents.decode bytes = .ok journal ∧
      journal.phase = .reloadConfirmed ∧
      (∃ bytes' journal', some bytes' ∈ (journalCell v).values ∧
        contents.decode bytes' = .ok journal' ∧
        journal'.sidecarsComplete = true ∧
        journal'.phase ≠ .reloadConfirmed) ∧
      ∃ k new, none ∈ (sidecarCell v k journal.transactionId new).values

end Unfinished

section PowerLoss

variable {P : Triple β → Prop}

theorem Stage.mono
    {P' : Triple β → Prop}
    (h : Stage contents S P v)
    (hP : ∀ L, P L → P' L) :
    Stage contents S P' v := by
  have hpermits : ∀ T : Transaction β,
      Permits contents P T → Permits contents P' T :=
    fun T hT => ⟨hP _ hT.1, fun hl => hP _ (hT.2 hl)⟩
  cases h with
  | quiet L hL h => exact .quiet L (hP L hL) h
  | sealing T hT h => exact .sealing T (hpermits T hT) h
  | «open» T hT h => exact .open T (hpermits T hT) h
  | closing T t hT hside h => exact .closing T t (hpermits T hT) (hP _ hside) h

/-- What a loss of power makes of a transaction that is being sealed. -/
theorem Sealing.reverts
    (h : Sealing contents S T v)
    (hv : v.Reverts v') :
    Quiet contents S T.old v' ∨ Open contents S T v' := by
  obtain ⟨x, hx, hcell⟩ := hv .presets (.named journalName)
  have hlive := h.live.reverts hv
  rcases h.journal x hx with hinc | ⟨t, hcomplete⟩
  · refine Or.inl (quiet_of_incomplete hlive h.header ?_)
    change (v' .presets (.named journalName)).All _
    rw [hcell, Cell.all_settled]
    exact hinc
  · refine Or.inr ⟨?_, ?_, h.sound.reverts hv, fun hS => (h.tracked hS).reverts hv⟩
    · intro k
      exact (hlive k).mono fun y hy => Or.inl (by simpa using hy)
    · change (v' .presets (.named journalName)).All _
      rw [hcell, Cell.all_settled]
      exact ⟨.prepared, t, by simp, hcomplete⟩

/-- What a loss of power makes of a transaction that is being confirmed. -/
theorem Closing.reverts
    (hcodec : contents.RoundTrips)
    (h : Closing contents S T target v)
    (hv : v.Reverts v')
    (hexposed : S → ¬ Exposed contents v) :
    Quiet contents S (T.content contents target) v' ∨ Open contents S T v' := by
  obtain ⟨x, hx, hcell⟩ := hv .presets (.named journalName)
  have hlive := h.live.reverts hv
  have hsound := h.sound.reverts hv
  rcases h.journal x hx with hconfirmed | hpending
  · refine Or.inl ⟨hlive, ?_⟩
    change (v' .presets (.named journalName)).All _
    rw [hcell, Cell.all_settled]
    exact Or.inr ⟨T, .reloadConfirmed, target, true, hconfirmed, h.header,
      Or.inr ⟨rfl, hsound⟩⟩
  · refine Or.inr ⟨?_, ?_, hsound, ?_⟩
    · intro k
      refine (hlive k).mono ?_
      rintro y rfl
      cases target with
      | candidate => exact Or.inr rfl
      | previous => exact Or.inl rfl
    · change (v' .presets (.named journalName)).All _
      rw [hcell, Cell.all_settled]
      exact ⟨.reloadPending, target, by simp, hpending⟩
    · intro hS
      refine ⟨h.header hS, h.liveOk hS, ?_⟩
      intro k new
      refine hv.all ?_
      intro y hy
      rcases h.sound k new y hy with rfl | hright
      · -- a missing sidecar next to a record that may revert
        refine absurd ?_ (hexposed hS)
        refine ⟨_, T.journal contents .reloadConfirmed target true, h.shown,
          hcodec _, rfl, ?_, k, new, hy⟩
        refine ⟨contents.encode (T.journal contents .reloadPending target true),
          T.journal contents .reloadPending target true, ?_, hcodec _, rfl,
          by simp [Transaction.journal]⟩
        rw [hpending] at hx
        exact hx
      · exact hright

/-- A loss of power leads from every stage to a stage. -/
theorem Stage.reverts
    (hcodec : contents.RoundTrips)
    (h : Stage contents S P v)
    (hv : v.Reverts v')
    (hexposed : S → ¬ Exposed contents v) :
    Stage contents S P v' := by
  cases h with
  | quiet L hL h => exact .quiet L hL (h.reverts hv)
  | sealing T hT h =>
      rcases h.reverts hv with hquiet | hopen
      · exact .quiet _ hT.1 hquiet
      · exact .open T hT hopen
  | «open» T hT h => exact .open T hT (h.reverts hv)
  | closing T t hT hside h =>
      rcases h.reverts hcodec hv hexposed with hquiet | hopen
      · exact .quiet _ hside hquiet
      · exact .open T hT hopen

/-- The confirmed record is there to stay if nothing can come back. -/
theorem Closing.settle
    (h : Closing contents S T target v) :
    Quiet contents S (T.content contents target) v.settle := by
  have hrevert := v.reverts_settle
  refine ⟨h.live.reverts hrevert, ?_⟩
  have hcell : journalCell v.settle = Cell.settled (journalCell v).current := rfl
  rw [hcell, Cell.all_settled, h.shown]
  exact Or.inr ⟨T, .reloadConfirmed, target, true, rfl, h.header,
    Or.inr ⟨rfl, h.sound.reverts hrevert⟩⟩

/-- Without a loss of power only what readers see matters. -/
theorem Stage.settle
    (h : Stage contents S P v) :
    Stage contents S P v.settle := by
  have hrevert := v.reverts_settle
  cases h with
  | quiet L hL h => exact .quiet L hL (h.reverts hrevert)
  | sealing T hT h =>
      rcases h.reverts hrevert with hquiet | hopen
      · exact .quiet _ hT.1 hquiet
      · exact .open T hT hopen
  | «open» T hT h => exact .open T hT (h.reverts hrevert)
  | closing T t hT hside h => exact .quiet _ hside h.settle

end PowerLoss

end Stages

end SleepySession
