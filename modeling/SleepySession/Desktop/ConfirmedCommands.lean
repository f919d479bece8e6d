import SleepySession.Desktop.Confirmation

/-!
# Confirmed commands

Every command of the adapters is confirmed by a report that was taken after it
and shows the requested state of its own target, with one exception: a legacy
volume or mute command takes any node of the kind for the default one.
-/

namespace SleepySession

open Program

/-- A command of one of the adapters. -/
inductive DesktopCommand where
  | network (command : Network.NetworkCommand)
  | bluetooth (command : Bluetooth.BluetoothCommand)
  | audio (command : Audio.AudioCommand)
  | legacyAudio (mutation : Audio.SystemMutation)
  | media (command : Media.MediaCommand)
  | legacyMedia (transport : Media.MediaTransport)

namespace Network

/-- The command, then the reads of a report that shows the requested state. -/
def ConfirmedBy (command : NetworkCommand) (transcript : Transcript)
    (snapshot : NetworkSnapshot) : Prop :=
  ∃ spec printed reads readback,
    mutationSpec command = .ok spec ∧ transcript = succeeded spec printed :: reads ∧
    Reads reads readback ∧ snapshot = readback.snapshot ∧ Shows readback command

theorem mutate_confirmed
    {command : NetworkCommand} {script : List CommandResult} {snapshot : NetworkSnapshot}
    {transcript : Transcript}
    (h : (mutate command).run script [] = (.ok snapshot, transcript)) :
    ConfirmedBy command transcript snapshot := by
  obtain ⟨spec, printed, reads, readback, _, hspec, _, hreads, hcheck, hresult, htranscript⟩ :=
    (run_confirmed probeReadback_reads).mp h
  refine ⟨spec, printed, reads, readback, hspec, by simpa using htranscript, hreads, hresult, ?_⟩
  obtain ⟨_, _, _, _, hparse⟩ := hreads
  exact shows_of_confirmed hparse hcheck

end Network

namespace Bluetooth

def ConfirmedBy (command : BluetoothCommand) (transcript : Transcript)
    (snapshot : BluetoothSnapshot) : Prop :=
  ∃ spec printed reads,
    mutationSpec command = .ok spec ∧ transcript = succeeded spec printed :: reads ∧
    Reads reads snapshot ∧ Shows snapshot command

theorem mutate_confirmed
    {command : BluetoothCommand} {script : List CommandResult} {snapshot : BluetoothSnapshot}
    {transcript : Transcript}
    (h : (mutate command).run script [] = (.ok snapshot, transcript)) :
    ConfirmedBy command transcript snapshot := by
  obtain ⟨spec, printed, reads, _, _, hspec, _, hreads, hcheck, rfl, htranscript⟩ :=
    (run_confirmed (g := id) probe_reads).mp h
  refine ⟨spec, printed, reads, hspec, by simpa using htranscript, hreads, ?_⟩
  obtain ⟨_, _, _, _, _, _, _, hparse⟩ := hreads
  exact shows_of_confirmed hparse hcheck

end Bluetooth

namespace Audio

def ConfirmedBy (command : AudioCommand) (transcript : Transcript)
    (snapshot : AudioSnapshot) : Prop :=
  ∃ spec printed reads,
    mutationSpec command = .ok spec ∧ transcript = succeeded spec printed :: reads ∧
    Reads reads snapshot ∧ Shows snapshot command

theorem mutate_confirmed
    {command : AudioCommand} {script : List CommandResult} {snapshot : AudioSnapshot}
    {transcript : Transcript}
    (h : (mutate command).run script [] = (.ok snapshot, transcript)) :
    ConfirmedBy command transcript snapshot := by
  obtain ⟨spec, printed, reads, _, _, hspec, _, hreads, hcheck, rfl, htranscript⟩ :=
    (run_confirmed (g := id) probe_reads).mp h
  refine ⟨spec, printed, reads, hspec, by simpa using htranscript, hreads, ?_⟩
  obtain ⟨_, _, _, _, hparse⟩ := hreads
  exact shows_of_confirmed hparse hcheck

def LegacyConfirmedBy (mutation : SystemMutation) (transcript : Transcript)
    (snapshot : AudioSnapshot) : Prop :=
  ∃ target printed reads,
    legacyTarget mutation = .ok target ∧ transcript = succeeded target.spec printed :: reads ∧
    Reads reads snapshot ∧ target.ShownBy snapshot

theorem run_mutateLegacy
    {mutation : SystemMutation} {script : List CommandResult} {snapshot : AudioSnapshot}
    {transcript : Transcript} :
    (mutateLegacy mutation).run script [] = (.ok snapshot, transcript) ↔
      ∃ target printed reads rest, legacyTarget mutation = .ok target ∧
        script = .ok ⟨0, printed⟩ :: (answers reads ++ rest) ∧ Reads reads snapshot ∧
        snapshot.nodes.any target.accepts = true ∧
        transcript = succeeded target.spec printed :: reads := by
  unfold mutateLegacy
  rw [run_orThrow_bind]
  constructor
  · rintro ⟨target, htarget, hrun⟩
    obtain ⟨_, printed, reads, _, rest, hspec, hscript, hreads, hcheck, rfl, htranscript⟩ :=
      (run_confirmed (e := .ok target.spec) (g := id) probe_reads).mp hrun
    cases hspec
    exact ⟨target, printed, reads, rest, htarget, hscript, hreads, hcheck, htranscript⟩
  · rintro ⟨target, printed, reads, rest, htarget, hscript, hreads, hcheck, htranscript⟩
    refine ⟨target, htarget, ?_⟩
    exact (run_confirmed (e := .ok target.spec) (g := id) probe_reads).mpr
      ⟨_, printed, reads, snapshot, rest, rfl, hscript, hreads, hcheck, rfl, htranscript⟩

/-- A node of the kind shows the requested state in place of the default one. -/
def LegacyTarget.Mistaken (target : LegacyTarget) (snapshot : AudioSnapshot) : Prop :=
  target.targetId = none ∧
    (∃ node ∈ snapshot.nodes, node.kind = target.kind ∧ target.Shows node) ∧
    ((∀ node ∈ snapshot.nodes, node.kind = target.kind → node.isDefault = false) ∨
      ∃ node ∈ snapshot.nodes,
        node.kind = target.kind ∧ node.isDefault = true ∧ ¬ target.Shows node)

theorem LegacyTarget.Mistaken.not_shownBy
    {target : LegacyTarget} {snapshot : AudioSnapshot}
    (h : target.Mistaken snapshot) :
    ¬ target.ShownBy snapshot := by
  obtain ⟨hid, _, hdefault⟩ := h
  intro hshown
  simp only [LegacyTarget.ShownBy, hid] at hshown
  obtain ⟨⟨node, hmem, hkind, hmarked⟩, hall⟩ := hshown
  rcases hdefault with hnone | ⟨other, hother, hkind', hmarked', hnot⟩
  · rw [hnone node hmem hkind] at hmarked
    cases hmarked
  · exact hnot (hall other hother hkind' hmarked')

/-- A confirmation that is not mistaken is one by the addressed node. -/
theorem shownBy_of_accepts
    {status : Printed} {volumes : List (Text × Printed)} {snapshot : AudioSnapshot}
    {mutation : SystemMutation} {target : LegacyTarget}
    (hparse : parseSnapshot status volumes = .ok snapshot)
    (htarget : legacyTarget mutation = .ok target)
    (haccepts : snapshot.nodes.any target.accepts = true)
    (h : ¬ target.Mistaken snapshot) :
    target.ShownBy snapshot := by
  cases hid : target.targetId with
  | some id => exact shownBy_of_named hparse htarget hid haccepts
  | none =>
      obtain ⟨node, hmem, hnode⟩ := List.any_eq_true.mp haccepts
      obtain ⟨hkind, _, _, hshows⟩ := of_decide_eq_true hnode
      simp only [LegacyTarget.ShownBy, hid]
      by_contra hcontra
      refine h ⟨hid, ⟨node, hmem, hkind, hshows⟩, ?_⟩
      by_cases hdefault : ∃ other ∈ snapshot.nodes, other.kind = target.kind ∧ other.isDefault = true
      · right
        by_contra hall
        refine hcontra ⟨hdefault, fun other hother hkind' hmarked => ?_⟩
        by_contra hnot
        exact hall ⟨other, hother, hkind', hmarked, hnot⟩
      · left
        intro other hother hkind'
        by_contra hmarked
        exact hdefault ⟨other, hother, hkind', by simpa using hmarked⟩

end Audio

namespace Media

/-- The reads before the command, the command, and the reads after it. -/
def ConfirmedBy (command : MediaCommand) (transcript : Transcript)
    (snapshot : MediaSnapshot) : Prop :=
  ∃ earlier before spec printed reads after,
    mutationSpec command = .ok spec ∧
    transcript = earlier ++ succeeded spec printed :: reads ∧
    Reads earlier before ∧ Reads reads after ∧ snapshot = after.snapshot ∧
    Shows before after command

/-- The command goes to the only player of a first report. -/
def LegacyConfirmedBy (transport : MediaTransport) (transcript : Transcript)
    (snapshot : MediaSnapshot) : Prop :=
  ∃ first observation player rest,
    Reads first observation ∧ observation.snapshot.players = [player] ∧
    transcript = first ++ rest ∧ ConfirmedBy ⟨player.id, transport⟩ rest snapshot

theorem mutateLegacy_confirmed
    {transport : MediaTransport} {script : List CommandResult} {snapshot : MediaSnapshot}
    {transcript : Transcript}
    (h : (mutateLegacy transport).run script [] = (.ok snapshot, transcript)) :
    LegacyConfirmedBy transport transcript snapshot := by
  unfold mutateLegacy probe at h
  rw [Program.bind_assoc, probeObservation_reads] at h
  obtain ⟨first, observation, rest, hfirst, rfl, h⟩ := h
  have hpure : ∀ f : MediaSnapshot → Adapter MediaSnapshot,
      (pure observation.snapshot >>= f) = f observation.snapshot := fun _ => rfl
  rw [hpure] at h
  split at h
  case h_1 player hplayers =>
    obtain ⟨earlier, before, spec, printed, reads, after, hspec, rfl, hbefore, hafter, rfl,
      hshows⟩ := run_mutate h
    exact ⟨first, observation, player, _, hfirst, hplayers, by simp,
      earlier, before, spec, printed, reads, after, hspec, rfl, hbefore, hafter, rfl, hshows⟩
  case h_2 => cases h

end Media

/-- A command that succeeds was confirmed by its own target. -/
def DesktopCommand.OnlyConfirmed (script : List CommandResult) : DesktopCommand → Prop
  | .network command =>
      ∀ snapshot transcript,
        (Network.mutate command).run script [] = (.ok snapshot, transcript) →
          Network.ConfirmedBy command transcript snapshot
  | .bluetooth command =>
      ∀ snapshot transcript,
        (Bluetooth.mutate command).run script [] = (.ok snapshot, transcript) →
          Bluetooth.ConfirmedBy command transcript snapshot
  | .audio command =>
      ∀ snapshot transcript,
        (Audio.mutate command).run script [] = (.ok snapshot, transcript) →
          Audio.ConfirmedBy command transcript snapshot
  | .legacyAudio mutation =>
      ∀ snapshot transcript,
        (Audio.mutateLegacy mutation).run script [] = (.ok snapshot, transcript) →
          Audio.LegacyConfirmedBy mutation transcript snapshot
  | .media command =>
      ∀ snapshot transcript,
        (Media.mutate command).run script [] = (.ok snapshot, transcript) →
          Media.ConfirmedBy command transcript snapshot
  | .legacyMedia transport =>
      ∀ snapshot transcript,
        (Media.mutateLegacy transport).run script [] = (.ok snapshot, transcript) →
          Media.LegacyConfirmedBy transport transcript snapshot

/--
The report after a legacy volume or mute command shows the requested state of
some node of the kind, while no node of it is the default one or a default one
shows another state.
-/
def DesktopCommand.Mistaken (script : List CommandResult) : DesktopCommand → Prop
  | .legacyAudio mutation =>
      ∃ target printed reads snapshot rest,
        Audio.legacyTarget mutation = .ok target ∧
        script = .ok ⟨0, printed⟩ :: (answers reads ++ rest) ∧
        Audio.Reads reads snapshot ∧ target.Mistaken snapshot
  | _ => False

theorem onlyConfirmed_iff
    (command : DesktopCommand) (script : List CommandResult) :
    command.OnlyConfirmed script ↔ ¬ command.Mistaken script := by
  cases command with
  | network command =>
      exact ⟨fun _ h => h, fun _ _ _ => Network.mutate_confirmed⟩
  | bluetooth command =>
      exact ⟨fun _ h => h, fun _ _ _ => Bluetooth.mutate_confirmed⟩
  | audio command =>
      exact ⟨fun _ h => h, fun _ _ _ => Audio.mutate_confirmed⟩
  | media command =>
      refine ⟨fun _ h => h, fun _ snapshot transcript h => ?_⟩
      simpa [Media.ConfirmedBy] using Media.run_mutate h
  | legacyMedia transport =>
      exact ⟨fun _ h => h, fun _ _ _ => Media.mutateLegacy_confirmed⟩
  | legacyAudio mutation =>
      constructor
      · rintro honly ⟨target, printed, reads, snapshot, rest, htarget, hscript, hreads, hmistaken⟩
        have hsame := hmistaken
        obtain ⟨hid, ⟨node, hmem, hkind, hshows⟩, _⟩ := hsame
        have haccepts : snapshot.nodes.any target.accepts = true := by
          refine List.any_eq_true.mpr ⟨node, hmem, decide_eq_true ⟨hkind, Or.inl hid, ?_, hshows⟩⟩
          intro hdefault
          rw [Audio.legacyTarget_default htarget, hid] at hdefault
          cases hdefault
        obtain ⟨target', _, _, htarget', _, _, hshown⟩ := honly snapshot _
          (Audio.run_mutateLegacy.mpr
            ⟨target, printed, reads, rest, htarget, hscript, hreads, haccepts, rfl⟩)
        rw [htarget] at htarget'
        cases htarget'
        exact hmistaken.not_shownBy hshown
      · intro hnot snapshot transcript h
        obtain ⟨target, printed, reads, rest, htarget, hscript, hreads, haccepts, htranscript⟩ :=
          Audio.run_mutateLegacy.mp h
        refine ⟨target, printed, reads, htarget, htranscript, hreads, ?_⟩
        have hmistaken : ¬ target.Mistaken snapshot := fun hmistaken =>
          hnot ⟨target, printed, reads, snapshot, rest, htarget, hscript, hreads, hmistaken⟩
        obtain ⟨_, _, _, _, hparse⟩ := hreads
        exact Audio.shownBy_of_accepts hparse htarget haccepts hmistaken

namespace Audio

/-- Two outputs; the default one is quiet, the other one at half its volume. -/
def twoOutputs : List CommandResult :=
  [.ok ⟨0, some []⟩,
    .ok ⟨0, some "Audio\n ├─ Sinks:\n │  *   35. Speakers\n │      36. Headset\n".toList⟩,
    .ok ⟨0, some "Volume: 0.20\n".toList⟩,
    .ok ⟨0, some "Volume: 0.50\n".toList⟩]

def twoOutputsSnapshot : AudioSnapshot :=
  ⟨[⟨"audio-node:35".toList, "Speakers".toList, .output, .finite (1 / 5), false, true⟩,
      ⟨"audio-node:36".toList, "Headset".toList, .output, .finite (1 / 2), false, false⟩], []⟩

theorem run_twoOutputs :
    ((mutateLegacy (.audioVolume (.finite (1 / 2)))).run twoOutputs []).1 =
      .ok twoOutputsSnapshot := by
  decide +kernel

end Audio

/-- The volume of the default output is confirmed by another output. -/
theorem other_output_confirms :
    ¬ ∀ (command : DesktopCommand) (script : List CommandResult),
      command.OnlyConfirmed script := by
  intro hall
  obtain ⟨target, _, _, htarget, _, _, hshown⟩ :=
    hall (.legacyAudio (.audioVolume (.finite (1 / 2)))) Audio.twoOutputs
      Audio.twoOutputsSnapshot _ (Prod.ext Audio.run_twoOutputs rfl)
  cases htarget
  have hspeakers := (hshown.2 _ List.mem_cons_self rfl rfl).1 _ rfl
  exact absurd hspeakers (by decide +kernel)

end SleepySession
