import SleepySession.Desktop.AckChunks
import SleepySession.Desktop.RecordingRuntime
import SleepySession.Lib.Transition

/-!
# Runs of the recording operations

Between operations a recording is either idle, with nothing left of a helper, or
active, with one helper whose last acknowledgement is the status kept.  Deleting
a recording works on names alone: it leaves this as it is, also where it takes
the file of the active recording.
-/

namespace SleepySession
namespace Recording

section Acknowledgements

theorem acknowledges_unique {status status' : RecordingStatus} {line : List UInt8}
    (h : acknowledges status line = true) (h' : acknowledges status' line = true) :
    status = status' := by
  have hinjective : ∀ status status' : RecordingStatus,
      ackText status = ackText status' → status = status' := by
    intro status status'
    cases status <;> cases status' <;> decide
  unfold acknowledges at h h'
  cases htext : fromUtf8 line with
  | none =>
      rw [htext] at h
      cases h
  | some text =>
      rw [htext] at h h'
      simp only [Bool.and_eq_true, beq_iff_eq] at h h'
      exact hinjective _ _ (h.2.symm.trans h'.2)

theorem acknowledgedStatus_eq {status : RecordingStatus} {line : List UInt8}
    (h : acknowledges status line = true) : acknowledgedStatus line = some status := by
  cases hfound : acknowledgedStatus line with
  | none =>
      have hnone := List.find?_eq_none.mp hfound status (by cases status <;> decide)
      exact absurd h hnone
  | some other =>
      have hother : acknowledges other line = true :=
        List.find?_some (p := fun status => acknowledges status line) hfound
      rw [acknowledges_unique h hother]

theorem judgedLine_eq {r : StatusReader} (h : r.exhausted ≠ true) :
    judgedLine r =
      match readLine r with
      | (.line text, _) => some text
      | (.wouldBlock _, r') => judgedLine r'
      | (.closed [] (.ok false), r') => judgedLine r'
      | (.closed [] _, _) => none
      | (.closed text _, _) => some text
      | (.failed _, _) => none := by
  rw [judgedLine, dif_neg h]
  split
  · next hread => conv_rhs => rw [hread]
  · next hread => conv_rhs => rw [hread]
  · next text exited r' hread =>
      conv_rhs => rw [hread]
      cases text with
      | nil => rcases exited with e | _ | _ <;> rfl
      | cons c text => rfl
  · next hread => conv_rhs => rw [hread]

/-- A wait that succeeds has judged a line that acknowledges the expected status. -/
theorem judgedLine_of_ok {expected : RecordingStatus} {r r' : StatusReader}
    (h : waitForRecordingAck expected r = (.ok (), r')) :
    ∃ line, judgedLine r = some line ∧ acknowledgedStatus line = some expected := by
  have hjudge : ∀ line r₁, (judge expected line, r₁) = (Except.ok (), r') →
      acknowledgedStatus line = some expected := by
    intro line r₁ hline
    refine acknowledgedStatus_eq ?_
    rw [← isOk_judge, (Prod.mk.inj hline).1]
    rfl
  obtain ⟨n, hn⟩ : ∃ n, r.size = n := ⟨_, rfl⟩
  induction n using Nat.strong_induction_on generalizing r with
  | _ n ih =>
      rw [waitForRecordingAck] at h
      split at h
      · cases h
      · next hexhausted =>
          have hsize := readLine_size (Bool.eq_false_iff.mpr hexhausted)
          rw [judgedLine_eq hexhausted]
          split at h
          · next text r₁ hread =>
              rw [hread]
              exact ⟨text, rfl, hjudge _ _ h⟩
          · next text r₁ hread =>
              rw [hread] at hsize ⊢
              exact ih _ (hn ▸ hsize) h rfl
          · next text exited r₁ hread =>
              rw [hread] at hsize ⊢
              cases text with
              | nil =>
                  rcases exited with e | _ | _
                  · cases h
                  · exact ih _ (hn ▸ hsize) h rfl
                  · cases h
              | cons c text => exact ⟨c :: text, rfl, hjudge _ _ h⟩
          · cases h

end Acknowledgements

section Phases

variable {w : World}

/-- Nothing is left of a helper. -/
def Idle (w : World) : Prop :=
  w.runtime = {} ∧ w.alive = []

/-- The runtime holds a helper and the status that this helper has acknowledged last. -/
structure Active (w : World) (child : Nat) : Prop where
  runtime : ∃ status recordingId outputId buffer,
    w.runtime = ⟨⟨status, some recordingId, some outputId⟩, some child, some buffer⟩ ∧
      status ≠ .inactive ∧ w.acknowledged child = some status
  alive : w.alive = [] ∨ w.alive = [child]

structure Settled (w : World) : Prop where
  phase : Idle w ∨ ∃ child, Active w child
  mostAlive : w.mostAlive ≤ 1

/-- What an operation replies and leaves behind. -/
structure Good (reply : Reply) (w : World) : Prop where
  settled : Settled w
  refused : ∀ e, reply.acknowledgement = some (.error e) → Idle w
  reported : ∀ state, reply.reported = some state → state.status ≠ .inactive →
    ∃ child, w.runtime.child = some child ∧ child ∈ w.alive ∧
      w.acknowledged child = some state.status

theorem Settled.quiet (h : Settled w) (result : Except IoError Unit) :
    Good ⟨result, none, none⟩ w :=
  ⟨h, nofun, nofun⟩

theorem reap_alive {child : Nat} (h : w.alive = [] ∨ w.alive = [child]) :
    (w.reap child).alive = [] := by
  rcases h with h | h <;> simp [World.reap, h]

theorem Settled.reap (h : Settled w) (child : Nat) : Settled (w.reap child) := by
  refine ⟨?_, h.mostAlive⟩
  rcases h.phase with hidle | ⟨other, hactive⟩
  · exact Or.inl ⟨hidle.1, by rw [World.reap, hidle.2, List.filter_nil]⟩
  · refine Or.inr ⟨other, hactive.runtime, ?_⟩
    rcases hactive.alive with halive | halive
    · exact Or.inl (by rw [World.reap, halive, List.filter_nil])
    · by_cases hchild : other = child
      · exact Or.inl (by simp [World.reap, halive, hchild])
      · exact Or.inr (by simp [World.reap, halive, hchild])

theorem Settled.ended (h : w.mostAlive ≤ 1) (halive : w.alive = []) :
    Settled { w with runtime := {} } :=
  ⟨Or.inl ⟨rfl, halive⟩, h⟩

theorem idle_of_child (h : Settled w) (hchild : w.runtime.child = none) : Idle w := by
  rcases h.phase with hidle | ⟨child, hactive⟩
  · exact hidle
  · obtain ⟨status, recordingId, outputId, buffer, hruntime, -⟩ := hactive.runtime
    rw [hruntime] at hchild
    cases hchild

theorem active_of_child {child : Nat} (h : Settled w) (hchild : w.runtime.child = some child) :
    Active w child := by
  rcases h.phase with hidle | ⟨other, hactive⟩
  · rw [hidle.1] at hchild
    cases hchild
  · obtain ⟨status, recordingId, outputId, buffer, hruntime, -⟩ := hactive.runtime
    have hsame : other = child := by simpa [hruntime] using hchild
    exact hsame ▸ hactive

/-- `try_wait` changes nothing but that a helper may have died. -/
theorem tryWait_cases {child : Nat} {exited : TryWait} {result : Except IoError Bool}
    {w' : World} (h : w.tryWait child exited = (result, w')) :
    (w' = w ∨ w' = w.reap child) ∧ (result = .ok false → w' = w ∧ child ∈ w.alive) ∧
      (result = .ok true → child ∉ w'.alive) := by
  cases exited with
  | running =>
      obtain ⟨rfl, rfl⟩ := Prod.mk.inj h
      simp
  | exits =>
      obtain ⟨rfl, rfl⟩ := Prod.mk.inj h
      simp [World.reap]
  | failed e =>
      obtain ⟨rfl, rfl⟩ := Prod.mk.inj h
      simp

theorem tryWait_settled {child : Nat} {exited : TryWait} {result : Except IoError Bool}
    {w' : World} (hw : Settled w) (h : w.tryWait child exited = (result, w')) : Settled w' := by
  rcases (tryWait_cases h).1 with rfl | rfl
  · exact hw
  · exact hw.reap child

/-- A helper that was found dead leaves no helper alive. -/
theorem tryWait_dead {child : Nat} {exited : TryWait} {w' : World} (hw : Settled w)
    (hchild : w.runtime.child = some child) (h : w.tryWait child exited = (.ok true, w')) :
    w'.alive = [] := by
  obtain ⟨hsame, -, hdead⟩ := tryWait_cases h
  have halive := (active_of_child hw hchild).alive
  rcases hsame with rfl | rfl
  · rcases halive with halive | halive
    · exact halive
    · exact absurd (halive ▸ List.mem_singleton_self child) (hdead rfl)
  · exact reap_alive halive

end Phases

section Steps

variable {w : World}

theorem good_startRecording (hw : Settled w) (outputId : Text)
    (prepared : Except IoError (Text × Text)) (spawned stream : Except IoError Unit)
    (reads : List StatusRead) :
    Good (w.startRecording outputId prepared spawned stream reads).1
      (w.startRecording outputId prepared spawned stream reads).2 := by
  unfold World.startRecording
  split
  · exact hw.quiet _
  · next hchild =>
      obtain ⟨hruntime, halive⟩ := idle_of_child hw hchild
      have hmost : w.spawn.mostAlive ≤ 1 := by
        simpa [World.spawn, halive] using hw.mostAlive
      have hspawned : w.spawn.alive = [w.started] := by simp [World.spawn, halive]
      have hheard : ∀ line, (w.spawn.hear w.started line).runtime = {} ∧
          (w.spawn.hear w.started line).alive = [w.started] ∧
          (w.spawn.hear w.started line).mostAlive ≤ 1 := by
        intro line
        cases line with
        | none => exact ⟨hruntime, hspawned, hmost⟩
        | some line => exact ⟨hruntime, hspawned, hmost⟩
      split
      · exact hw.quiet _
      · split
        · exact hw.quiet _
        · dsimp only
          split
          · exact Settled.quiet (w := w.spawn.reap w.started)
              ⟨Or.inl ⟨hruntime, reap_alive (Or.inr hspawned)⟩, hmost⟩ _
          · obtain ⟨hnone, hone, hheardMost⟩ := hheard (judgedLine ⟨[], reads⟩)
            split
            · have hidle : Idle ((w.spawn.hear w.started (judgedLine ⟨[], reads⟩)).reap
                  w.started) := ⟨hnone, reap_alive (Or.inr hone)⟩
              exact ⟨⟨Or.inl hidle, hheardMost⟩, fun _ _ => hidle, nofun⟩
            · next hack =>
                obtain ⟨line, hline, hstatus⟩ := judgedLine_of_ok hack
                refine ⟨⟨Or.inr ⟨w.started, ⟨.recording, _, _, _, rfl, nofun, ?_⟩, Or.inr hone⟩,
                  hheardMost⟩, nofun, nofun⟩
                simp [World.hear, hline, hstatus]

theorem good_pauseRecording (hw : Settled w) (exited : TryWait) (signal : Except IoError Unit)
    (reads : List StatusRead) :
    Good (w.pauseRecording exited signal reads).1 (w.pauseRecording exited signal reads).2 := by
  unfold World.pauseRecording
  split
  · exact hw.quiet _
  · next desired hdesired =>
      split
      · exact hw.quiet _
      · next child hchild =>
          split
          · next hwait => exact (tryWait_settled hw hwait).quiet _
          · next w' hwait =>
              exact (Settled.ended (tryWait_settled hw hwait).mostAlive
                (tryWait_dead hw hchild hwait)).quiet _
          · next w' hwait =>
              obtain ⟨rfl, halive⟩ := (tryWait_cases hwait).2.1 rfl
              split
              · exact hw.quiet _
              · split
                · exact hw.quiet _
                · next buffer hbuffer =>
                    have hactive := active_of_child hw hchild
                    obtain ⟨status, recordingId, outputId, buffer', hruntime, hstatus, -⟩ :=
                      hactive.runtime
                    have hsame : ∀ line, (w'.hear child line).runtime = w'.runtime ∧
                        (w'.hear child line).alive = w'.alive ∧
                        (w'.hear child line).mostAlive = w'.mostAlive := by
                      intro line
                      cases line <;> exact ⟨rfl, rfl, rfl⟩
                    obtain ⟨hkeeps, hlives, hmost⟩ := hsame (judgedLine ⟨buffer, reads⟩)
                    dsimp only
                    split
                    · have hidle : Idle (w'.hear child
                          (judgedLine ⟨buffer, reads⟩)).invalidateRecordingRuntime := by
                        rw [World.invalidateRecordingRuntime, hkeeps, hchild]
                        exact ⟨rfl, reap_alive (hlives ▸ hactive.alive)⟩
                      refine ⟨⟨Or.inl hidle, ?_⟩, fun _ _ => hidle, nofun⟩
                      rw [World.invalidateRecordingRuntime, hkeeps, hchild]
                      exact hmost ▸ hw.mostAlive
                    · next r hack =>
                        obtain ⟨line, hline, hacknowledged⟩ := judgedLine_of_ok hack
                        refine ⟨⟨Or.inr ⟨child, ⟨desired, recordingId, outputId, r.buffer, ?_, ?_,
                          ?_⟩, hlives ▸ hactive.alive⟩, hmost ▸ hw.mostAlive⟩, nofun, nofun⟩
                        · rw [hruntime]
                        · rintro rfl
                          rw [hruntime] at hdesired
                          cases status <;> cases hdesired
                        · simp [World.hear, hline, hacknowledged]

/-- `terminate_child` changes nothing but that the helper may have died. -/
theorem terminateChild_cases {child : Nat} {signal : Except IoError Unit} {wait : WaitChild}
    {result : Except IoError Unit} {w' : World}
    (h : w.terminateChild child signal wait = (result, w')) :
    (w' = w ∨ w' = w.reap child) ∧ (result = .ok () → w' = w.reap child) := by
  cases signal with
  | error e =>
      obtain ⟨rfl, rfl⟩ := Prod.mk.inj h
      exact ⟨Or.inl rfl, nofun⟩
  | ok _ =>
      rcases wait with (_ | _) | e | _
      · obtain ⟨rfl, rfl⟩ := Prod.mk.inj h
        exact ⟨Or.inr rfl, nofun⟩
      · obtain ⟨rfl, rfl⟩ := Prod.mk.inj h
        exact ⟨Or.inr rfl, fun _ => rfl⟩
      · obtain ⟨rfl, rfl⟩ := Prod.mk.inj h
        exact ⟨Or.inl rfl, nofun⟩
      · obtain ⟨rfl, rfl⟩ := Prod.mk.inj h
        exact ⟨Or.inr rfl, nofun⟩

theorem good_stopRecording (hw : Settled w) (signal : Except IoError Unit) (wait : WaitChild) :
    Good (w.stopRecording signal wait).1 (w.stopRecording signal wait).2 := by
  unfold World.stopRecording
  split
  · exact hw.quiet _
  · next child hchild =>
      have halive := (active_of_child hw hchild).alive
      split
      · next e w' hend =>
          rcases (terminateChild_cases hend).1 with rfl | rfl
          · exact (Settled.ended (w := w'.reap child) hw.mostAlive (reap_alive halive)).quiet _
          · exact (Settled.ended (w := (w.reap child).reap child) hw.mostAlive
              (reap_alive (Or.inl (reap_alive halive)))).quiet _
      · next w' hend =>
          obtain rfl := (terminateChild_cases hend).2 rfl
          exact (Settled.ended (w := w.reap child) hw.mostAlive (reap_alive halive)).quiet _

theorem good_recordingSnapshot (hw : Settled w) (executables : Except IoError Unit)
    (exited : TryWait) :
    Good (w.recordingSnapshot executables exited).1
      (w.recordingSnapshot executables exited).2 := by
  unfold World.recordingSnapshot
  split
  · exact hw.quiet _
  · split
    · next hchild =>
        refine ⟨hw, nofun, ?_⟩
        rintro state hstate hactive
        cases hstate
        rw [(idle_of_child hw hchild).1] at hactive
        exact absurd rfl hactive
    · next child hchild =>
        split
        · next hwait => exact (tryWait_settled hw hwait).quiet _
        · next w' hwait =>
            refine ⟨Settled.ended (tryWait_settled hw hwait).mostAlive
              (tryWait_dead hw hchild hwait), nofun, ?_⟩
            rintro state hstate hactive
            cases hstate
            exact absurd rfl hactive
        · next w' hwait =>
            obtain ⟨rfl, halive⟩ := (tryWait_cases hwait).2.1 rfl
            refine ⟨hw, nofun, ?_⟩
            rintro state hstate -
            cases hstate
            obtain ⟨status, recordingId, outputId, buffer, hruntime, -, hacknowledged⟩ :=
              (active_of_child hw hchild).runtime
            exact ⟨child, hchild, halive, by rw [hacknowledged, hruntime]⟩

/-- Deleting leaves everything but the named file as it is. -/
theorem deleteRecording_frame (w : World) (uid : Nat) (name : Text)
    (looked removed : Except IoError Unit) :
    ∃ files, (w.deleteRecording uid name looked removed).2 = { w with files } ∧
      ∀ other, other ≠ name → files other = w.files other := by
  unfold World.deleteRecording
  split
  · exact ⟨w.files, rfl, fun _ _ => rfl⟩
  · split
    · exact ⟨w.files, rfl, fun _ _ => rfl⟩
    · split
      · exact ⟨w.files, rfl, fun _ _ => rfl⟩
      · split
        · split
          · exact ⟨w.files, rfl, fun _ _ => rfl⟩
          · exact ⟨_, rfl, fun _ hother => if_neg hother⟩
        · exact ⟨w.files, rfl, fun _ _ => rfl⟩

theorem deleteRecording_reply (w : World) (uid : Nat) (name : Text)
    (looked removed : Except IoError Unit) :
    ∃ result, (w.deleteRecording uid name looked removed).1 = ⟨result, none, none⟩ := by
  unfold World.deleteRecording
  split
  · exact ⟨_, rfl⟩
  · split
    · exact ⟨_, rfl⟩
    · split
      · exact ⟨_, rfl⟩
      · split
        · split
          · exact ⟨_, rfl⟩
          · exact ⟨_, rfl⟩
        · exact ⟨_, rfl⟩

/-- The files play no part in whether a world is settled. -/
theorem Settled.withFiles (hw : Settled w) (files : Text → Option FileMetadata) :
    Settled { w with files } := by
  refine ⟨?_, hw.mostAlive⟩
  rcases hw.phase with hidle | ⟨child, hactive⟩
  · exact Or.inl hidle
  · exact Or.inr ⟨child, hactive.runtime, hactive.alive⟩

theorem good_perform (hw : Settled w) (operation : Operation) :
    Good (w.perform operation).1 (w.perform operation).2 := by
  cases operation with
  | startRecording outputId prepared spawned stream reads =>
      exact good_startRecording hw outputId prepared spawned stream reads
  | pauseRecording exited signal reads => exact good_pauseRecording hw exited signal reads
  | stopRecording signal wait => exact good_stopRecording hw signal wait
  | deleteRecording uid name looked removed =>
      obtain ⟨result, hreply⟩ := deleteRecording_reply w uid name looked removed
      obtain ⟨files, hfiles, -⟩ := deleteRecording_frame w uid name looked removed
      rw [World.perform, hreply, hfiles]
      exact (hw.withFiles files).quiet result
  | snapshot executables exited => exact good_recordingSnapshot hw executables exited
  | poll busy executables exited =>
      rw [World.perform, World.recordingSnapshotForPoll]
      split
      · exact hw.quiet _
      · exact good_recordingSnapshot hw executables exited
  | helperExits child => exact (hw.reap child).quiet _
  | filesChange files => exact (hw.withFiles files).quiet _

end Steps

section Runs

/-- A fresh runtime, over any files, and any sequence of operations. -/
def recordingSystem : System World Operation where
  initial w := ∃ files, w = { files }
  step w operation w' := (w.perform operation).2 = w'

theorem settled_of_reachable {w : World} (h : recordingSystem.Reachable w) : Settled w := by
  refine h.invariant ?_ ?_
  · rintro w ⟨files, rfl⟩
    exact ⟨Or.inl ⟨rfl, rfl⟩, Nat.zero_le 1⟩
  · rintro w operation w' hw rfl
    exact (good_perform hw operation).settled

/-- The state machine of recordings, in every run. -/
theorem recording_machine {w : World} (h : recordingSystem.Reachable w) :
    ((w.runtime.state.status = .inactive ↔ w.runtime.child = none) ∧
        (w.runtime.state.status = .inactive ↔ w.runtime.status = none) ∧
        (w.runtime.state.status = .inactive ↔ w.runtime.state.recordingId = none)) ∧
      (w.alive.length ≤ 1 ∧ w.mostAlive ≤ 1) ∧
      ∀ operation reply w', w.perform operation = (reply, w') →
        (∀ e, reply.acknowledgement = some (.error e) →
          w'.alive = [] ∧ w'.runtime.state.status = .inactive) ∧
        (∀ state, reply.reported = some state → state.status ≠ .inactive →
          ∃ child, w'.runtime.child = some child ∧ child ∈ w'.alive ∧
            w'.acknowledged child = some state.status) ∧
        ∀ uid name looked removed, operation = .deleteRecording uid name looked removed →
          w'.runtime = w.runtime ∧ w'.alive = w.alive ∧
            ∀ active, w.runtime.state.recordingId = some active → active ≠ name →
              w'.files active = w.files active := by
  have hw := settled_of_reachable h
  refine ⟨?_, ⟨?_, hw.mostAlive⟩, ?_⟩
  · rcases hw.phase with hidle | ⟨child, hactive⟩
    · simp [hidle.1]
    · obtain ⟨status, recordingId, outputId, buffer, hruntime, hstatus, -⟩ := hactive.runtime
      simp [hruntime, hstatus]
  · rcases hw.phase with hidle | ⟨child, hactive⟩
    · simp [hidle.2]
    · rcases hactive.alive with halive | halive <;> simp [halive]
  · intro operation reply w' hperform
    have hgood := good_perform hw operation
    rw [hperform] at hgood
    refine ⟨?_, hgood.reported, ?_⟩
    · intro e he
      have hidle := hgood.refused e he
      exact ⟨hidle.2, by rw [hidle.1]⟩
    · rintro uid name looked removed rfl
      obtain ⟨files, hfiles, hframe⟩ := deleteRecording_frame w uid name looked removed
      have hw' : w' = { w with files } := (congrArg Prod.snd hperform).symm.trans hfiles
      rw [hw']
      exact ⟨rfl, rfl, fun active _ hother => hframe active hother⟩

theorem initial_reachable : recordingSystem.Reachable {} :=
  .initial ⟨fun _ => none, rfl⟩

theorem deleteRecording_deletes {w : World} {uid : Nat} {name : Text} {metadata : FileMetadata}
    (hname : World.isRecordingName name = true) (hfile : w.files name = some metadata)
    (hdeletable : metadata.Deletable uid) :
    w.deleteRecording uid name (.ok ()) (.ok ()) =
      (⟨.ok (), none, none⟩,
        { w with files := fun other => if other = name then none else w.files other }) := by
  rw [World.deleteRecording, if_neg (by simp [hname])]
  simp only [hfile, if_pos hdeletable]

def sampleName : Text :=
  World.recordingName "20260101_12-00-00".toList "0123456789abcdef0123456789abcdef".toList

def sampleStart : Operation :=
  .startRecording "monitor:1".toList
    (.ok ("20260101_12-00-00".toList, "0123456789abcdef0123456789abcdef".toList)) (.ok ())
    (.ok ()) [.bytes recordingLine]

/-- A recording is started and acknowledged. -/
def startedWorld : World :=
  (World.perform {} sampleStart).2

theorem startedWorld_reachable : recordingSystem.Reachable startedWorld :=
  .step (e := sampleStart) initial_reachable rfl

theorem ack_of_bytes {expected : RecordingStatus} {line : List UInt8}
    (hline : readLine ⟨[], [.bytes line]⟩ = (.line line, ⟨[], []⟩))
    (hjudge : judge expected line = .ok ()) :
    waitForRecordingAck expected ⟨[], [.bytes line]⟩ = (.ok (), ⟨[], []⟩) := by
  have hreads : (StatusReader.mk [] [.bytes line]).exhausted ≠ true := nofun
  rw [waitForRecordingAck_of_line (by simpa using hreads) hline, hjudge]

theorem hear_alive (w : World) (child : Nat) (line : Option (List UInt8)) :
    (w.hear child line).alive = w.alive := by
  cases line <;> rfl

theorem startedWorld_runtime :
    startedWorld.runtime =
        ⟨⟨.recording, some sampleName, some "monitor:1".toList⟩, some 0, some []⟩ ∧
      startedWorld.alive = [0] := by
  have hack := @ack_of_bytes .recording recordingLine rfl (by decide)
  have hstarted : startedWorld = { World.hear (World.spawn {}) 0
        (judgedLine ⟨[], [.bytes recordingLine]⟩) with
      runtime := ⟨⟨.recording, some sampleName, some "monitor:1".toList⟩, some 0, some []⟩ } := by
    simp only [startedWorld, sampleStart, World.perform, World.startRecording, hack]
    rfl
  rw [hstarted]
  exact ⟨rfl, hear_alive _ _ _⟩

def pausedLine : List UInt8 :=
  [0x53, 0x54, 0x41, 0x54, 0x45, 0x20, 0x70, 0x61, 0x75, 0x73, 0x65, 0x64, 10]

def samplePause : Operation :=
  .pauseRecording .running (.ok ()) [.bytes pausedLine]

/-- The recording is paused, which its helper acknowledges. -/
def pausedWorld : World :=
  (startedWorld.perform samplePause).2

theorem pausedWorld_reachable : recordingSystem.Reachable pausedWorld :=
  .step (e := samplePause) startedWorld_reachable rfl

theorem pausedWorld_runtime :
    pausedWorld.runtime =
        ⟨⟨.paused, some sampleName, some "monitor:1".toList⟩, some 0, some []⟩ ∧
      pausedWorld.alive = [0] := by
  obtain ⟨hruntime, halive⟩ := startedWorld_runtime
  have hack := @ack_of_bytes .paused pausedLine rfl (by decide)
  have hpaused : pausedWorld = { World.hear startedWorld 0
        (judgedLine ⟨[], [.bytes pausedLine]⟩) with
      runtime := ⟨⟨.paused, some sampleName, some "monitor:1".toList⟩, some 0, some []⟩ } := by
    simp [pausedWorld, samplePause, World.perform, World.pauseRecording, hruntime, World.toggled,
      World.tryWait, halive, hack]
  rw [hpaused]
  exact ⟨rfl, (hear_alive _ _ _).trans halive⟩

/-- The status of the paused recording is reported, and a resume without an answer ends it. -/
theorem recording_machine_paused :
    pausedWorld.runtime.state.status = .paused ∧ pausedWorld.alive.length ≤ 1 ∧
      pausedWorld.acknowledged 0 = some .paused ∧
      (pausedWorld.perform (.pauseRecording .running (.ok ()) [])).2.alive = [] := by
  obtain ⟨hruntime, halive⟩ := pausedWorld_runtime
  obtain ⟨-, ⟨hone, -⟩, hstep⟩ := recording_machine pausedWorld_reachable
  refine ⟨congrArg (fun r => r.state.status) hruntime, hone, ?_, ?_⟩
  · have hsnapshot : pausedWorld.perform (.snapshot (.ok ()) .running) =
        (⟨.ok (), none, some pausedWorld.runtime.state⟩, pausedWorld) := by
      simp [World.perform, World.recordingSnapshot, hruntime, World.tryWait, halive]
    obtain ⟨child, hchild, -, hacknowledged⟩ :=
      (hstep _ _ _ hsnapshot).2.1 _ rfl (by simp [hruntime])
    rw [hruntime] at hchild hacknowledged
    cases hchild
    exact hacknowledged
  · have hunanswered :
        (pausedWorld.perform (.pauseRecording .running (.ok ()) [])).1.acknowledgement = some
          (.error ⟨.timedOut, "recording helper acknowledgement timed out"⟩) := by
      have hack : waitForRecordingAck .recording ⟨[], []⟩ =
          (.error ⟨.timedOut, "recording helper acknowledgement timed out"⟩, ⟨[], []⟩) := by
        rw [waitForRecordingAck]
        exact dif_pos (by decide)
      simp [World.perform, World.pauseRecording, hruntime, World.toggled, World.tryWait, halive,
        hack]
    exact ((hstep (.pauseRecording .running (.ok ()) []) _ _ rfl).1 _ hunanswered).1

/-- A recording is started, its helper writes the file, and the file is deleted under it. -/
theorem active_recording_deleted :
    ∃ w, recordingSystem.Reachable w ∧ w.runtime.state.status = .recording ∧
      w.runtime.state.recordingId = some sampleName ∧ w.files sampleName ≠ none ∧
      (w.perform (.deleteRecording 1000 sampleName (.ok ()) (.ok ()))).1.result = .ok () ∧
      (w.perform (.deleteRecording 1000 sampleName (.ok ()) (.ok ()))).2.files sampleName = none ∧
      (w.perform (.deleteRecording 1000 sampleName (.ok ()) (.ok ()))).2.runtime = w.runtime := by
  have hdelete := @deleteRecording_deletes { startedWorld with files := fun _ => some ⟨0o100600, 1000⟩ } 1000
    sampleName _ (by decide) rfl (by decide)
  obtain ⟨hruntime, -⟩ := startedWorld_runtime
  refine ⟨_, .step (e := .filesChange fun _ => some ⟨0o100600, 1000⟩) startedWorld_reachable rfl,
    ?_⟩
  refine ⟨congrArg (fun r => r.state.status) hruntime,
    congrArg (fun r => r.state.recordingId) hruntime, nofun, ?_, ?_, ?_⟩
  · exact congrArg (fun r => r.1.result) hdelete
  · refine (congrArg (fun r => r.2.files sampleName) hdelete).trans ?_
    simp only [if_true]
  · exact congrArg (fun r => r.2.runtime) hdelete

end Runs

end Recording
end SleepySession
