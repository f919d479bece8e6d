import SleepySession.Desktop.RecordingAck

/-!
# The recording runtime

The operations on a recording, each under the lock of the runtime.  What the
operating system answers comes with an operation.  A world holds besides the
runtime what it is about: which helpers are alive, what each of them has
acknowledged last, and the files of the capture directory.
-/

namespace SleepySession
namespace Recording

structure RecordingState where
  status : RecordingStatus := .inactive
  recordingId : Option Text := none
  outputId : Option Text := none
deriving DecidableEq

/-- `child` is the number of the helper; `status` holds what its reader has buffered. -/
structure RecordingRuntime where
  state : RecordingState := {}
  child : Option Nat := none
  status : Option (List UInt8) := none

structure FileMetadata where
  mode : Nat
  uid : Nat
deriving DecidableEq

/-- A regular file of the session user. -/
def FileMetadata.Deletable (uid : Nat) (metadata : FileMetadata) : Prop :=
  metadata.mode &&& 0o170000 = 0o100000 ∧ metadata.uid = uid

instance (uid : Nat) : DecidablePred (FileMetadata.Deletable uid) :=
  fun _ => inferInstanceAs (Decidable (_ ∧ _))

/-- Helpers are numbered in the order in which they are started. -/
structure World where
  runtime : RecordingRuntime := {}
  started : Nat := 0
  alive : List Nat := []
  /-- The most helpers that have been alive at once. -/
  mostAlive : Nat := 0
  acknowledged : Nat → Option RecordingStatus := fun _ => none
  files : Text → Option FileMetadata := fun _ => none

/-- What comes of `try_wait`: the helper runs on if it was alive, or it has exited by now. -/
inductive TryWait where
  | running
  | exits
  | failed (e : IoError)

/-- What comes of `wait_child`. -/
inductive WaitChild where
  | exits (success : Bool)
  | failed (e : IoError)
  | timedOut

/-- What an operation returns; `acknowledgement` is set where it waited for one. -/
structure Reply where
  result : Except IoError Unit
  acknowledgement : Option (Except IoError Unit) := none
  reported : Option RecordingState := none

section Acknowledgements

/-- The line that a call of `wait_for_recording_ack` judges. -/
def judgedLine (r : StatusReader) : Option (List UInt8) :=
  if h : r.exhausted = true then
    none
  else
    have _hsize := readLine_size (Bool.eq_false_iff.mpr h)
    match _hread : readLine r with
    | (.line text, _) => some text
    | (.wouldBlock _, r') => judgedLine r'
    | (.closed text exited, r') =>
        if text = [] then
          match exited with
          | .ok false => judgedLine r'
          | _ => none
        else some text
    | (.failed _, _) => none
termination_by r.size
decreasing_by
  all_goals
    rw [_hread] at _hsize
    exact _hsize

/-- The status that a line acknowledges. -/
def acknowledgedStatus (line : List UInt8) : Option RecordingStatus :=
  [.recording, .paused, .inactive].find? fun status => acknowledges status line

end Acknowledgements

namespace World

section Helpers

def spawn (w : World) : World :=
  { w with
    started := w.started + 1
    alive := w.started :: w.alive
    mostAlive := max w.mostAlive (w.alive.length + 1) }

/-- The helper is dead: killed and waited for, or exited by itself. -/
def reap (w : World) (child : Nat) : World :=
  { w with alive := w.alive.filter (· ≠ child) }

/-- The line that a helper was heard to say, if it said one. -/
def hear (w : World) (child : Nat) (line : Option (List UInt8)) : World :=
  match line with
  | none => w
  | some line =>
      { w with
        acknowledged := fun other =>
          if other = child then acknowledgedStatus line else w.acknowledged other }

def tryWait (w : World) (child : Nat) : TryWait → Except IoError Bool × World
  | .running => (.ok (child ∉ w.alive), w)
  | .exits => (.ok true, w.reap child)
  | .failed e => (.error e, w)

/-- `terminate_child`. -/
def terminateChild (w : World) (child : Nat) (signal : Except IoError Unit) :
    WaitChild → Except IoError Unit × World
  | wait =>
      match signal with
      | .error e => (.error e, w)
      | .ok () =>
          match wait with
          | .exits true => (.ok (), w.reap child)
          | .exits false => (.error ⟨.other, "utility process failed"⟩, w.reap child)
          | .failed e => (.error e, w)
          | .timedOut =>
              (.error ⟨.timedOut, "utility process exceeded its deadline"⟩, w.reap child)

/-- `invalidate_recording_runtime`. -/
def invalidateRecordingRuntime (w : World) : World :=
  match w.runtime.child with
  | none => { w with runtime := {} }
  | some child => { w.reap child with runtime := {} }

end Helpers

section Operations

def recordingName (stamp uuid : Text) : Text :=
  "recording_".toList ++ stamp ++ ['_'] ++ uuid ++ ".mp4".toList

/-- `recording_snapshot`; `executables` says whether both programs are there. -/
def recordingSnapshot (w : World) (executables : Except IoError Unit) (exited : TryWait) :
    Reply × World :=
  match executables with
  | .error e => (⟨.error e, none, none⟩, w)
  | .ok () =>
      match w.runtime.child with
      | none => (⟨.ok (), none, some w.runtime.state⟩, w)
      | some child =>
          match w.tryWait child exited with
          | (.error e, w) => (⟨.error e, none, none⟩, w)
          | (.ok true, w) => (⟨.ok (), none, some {}⟩, { w with runtime := {} })
          | (.ok false, w) => (⟨.ok (), none, some w.runtime.state⟩, w)

/-- `recording_snapshot_for_poll`; `busy` says whether an operation holds the lock. -/
def recordingSnapshotForPoll (w : World) (busy : Bool) (executables : Except IoError Unit)
    (exited : TryWait) : Reply × World :=
  if busy then
    (⟨.error ⟨.wouldBlock, "recording state is busy"⟩, none, none⟩, w)
  else
    w.recordingSnapshot executables exited

/-- `start_recording`.  `prepared` is the name of the recording, once the command is there,
`stream` whether the status stream could be set up; a guard that is dropped kills its child. -/
def startRecording (w : World) (outputId : Text) (prepared : Except IoError (Text × Text))
    (spawned stream : Except IoError Unit) (reads : List StatusRead) : Reply × World :=
  match w.runtime.child with
  | some _ => (⟨.error ⟨.alreadyExists, "a recording is already active"⟩, none, none⟩, w)
  | none =>
      match prepared with
      | .error e => (⟨.error e, none, none⟩, w)
      | .ok (stamp, uuid) =>
          match spawned with
          | .error e => (⟨.error e, none, none⟩, w)
          | .ok () =>
              let child := w.started
              match stream with
              | .error e => (⟨.error e, none, none⟩, w.spawn.reap child)
              | .ok () =>
                  let heard := w.spawn.hear child (judgedLine ⟨[], reads⟩)
                  match waitForRecordingAck .recording ⟨[], reads⟩ with
                  | (.error e, _) => (⟨.error e, some (.error e), none⟩, heard.reap child)
                  | (.ok (), r) =>
                      (⟨.ok (), some (.ok ()), none⟩,
                        { heard with
                          runtime :=
                            ⟨⟨.recording, some (recordingName stamp uuid), some outputId⟩,
                              some child, some r.buffer⟩ })

/-- The status that a pause asks for. -/
def toggled : RecordingStatus → Option RecordingStatus
  | .recording => some .paused
  | .paused => some .recording
  | .inactive => none

/-- `pause_recording`; `signal` is what `kill` returns. -/
def pauseRecording (w : World) (exited : TryWait) (signal : Except IoError Unit)
    (reads : List StatusRead) : Reply × World :=
  match toggled w.runtime.state.status with
  | none => (⟨.error ⟨.other, "recording state mismatch"⟩, none, none⟩, w)
  | some desired =>
      match w.runtime.child with
      | none => (⟨.error ⟨.notFound, "no recording is active"⟩, none, none⟩, w)
      | some child =>
          match w.tryWait child exited with
          | (.error e, w) => (⟨.error e, none, none⟩, w)
          | (.ok true, w) =>
              (⟨.error ⟨.brokenPipe, "recording process already exited"⟩, none, none⟩,
                { w with runtime := {} })
          | (.ok false, w) =>
              match signal with
              | .error e => (⟨.error e, none, none⟩, w)
              | .ok () =>
                  match w.runtime.status with
                  | none =>
                      (⟨.error ⟨.other, "recording helper status stream missing"⟩, none, none⟩, w)
                  | some buffer =>
                      let heard := w.hear child (judgedLine ⟨buffer, reads⟩)
                      match waitForRecordingAck desired ⟨buffer, reads⟩ with
                      | (.error e, _) =>
                          (⟨.error e, some (.error e), none⟩, heard.invalidateRecordingRuntime)
                      | (.ok (), r) =>
                          (⟨.ok (), some (.ok ()), none⟩,
                            { heard with
                              runtime :=
                                ⟨{ w.runtime.state with status := desired }, some child,
                                  some r.buffer⟩ })

/-- `stop_recording`. -/
def stopRecording (w : World) (signal : Except IoError Unit) (wait : WaitChild) :
    Reply × World :=
  match w.runtime.child with
  | none => (⟨.error ⟨.notFound, "no recording is active"⟩, none, none⟩, w)
  | some child =>
      match w.terminateChild child signal wait with
      | (.error e, w) => (⟨.error e, none, none⟩, { w.reap child with runtime := {} })
      | (.ok (), w) => (⟨.ok (), none, none⟩, { w with runtime := {} })

/-- The names that `delete_recording` takes. -/
def isRecordingName (name : Text) : Bool :=
  "recording_".toList.isPrefixOf name && ".mp4".toList.isSuffixOf name &&
    decide (name.byteLength ≤ 96) &&
    name.all fun c =>
      isAsciiDigit c || (0x41 ≤ c.toNat && c.toNat ≤ 0x5A) || (0x61 ≤ c.toNat && c.toNat ≤ 0x7A) ||
        c == '_' || c == '-' || c == '.'

/-- `delete_recording`; the answers are those of reading the metadata and of removing. -/
def deleteRecording (w : World) (uid : Nat) (name : Text) (looked removed : Except IoError Unit) :
    Reply × World :=
  if isRecordingName name = false then
    (⟨.error ⟨.invalidInput, "invalid recording basename"⟩, none, none⟩, w)
  else
    match looked with
    | .error e => (⟨.error e, none, none⟩, w)
    | .ok () =>
        match w.files name with
        | none => (⟨.error ⟨.notFound, "recording not found"⟩, none, none⟩, w)
        | some metadata =>
            if metadata.Deletable uid then
              match removed with
              | .error e => (⟨.error e, none, none⟩, w)
              | .ok () =>
                  (⟨.ok (), none, none⟩,
                    { w with files := fun other => if other = name then none else w.files other })
            else
              (⟨.error ⟨.permissionDenied,
                "recording must be a regular file owned by the session user"⟩, none, none⟩, w)

end Operations

end World

/-- One operation with the answers it gets, or what happens between operations. -/
inductive Operation where
  | startRecording (outputId : Text) (prepared : Except IoError (Text × Text))
      (spawned stream : Except IoError Unit) (reads : List StatusRead)
  | pauseRecording (exited : TryWait) (signal : Except IoError Unit) (reads : List StatusRead)
  | stopRecording (signal : Except IoError Unit) (wait : WaitChild)
  | deleteRecording (uid : Nat) (name : Text) (looked removed : Except IoError Unit)
  | snapshot (executables : Except IoError Unit) (exited : TryWait)
  | poll (busy : Bool) (executables : Except IoError Unit) (exited : TryWait)
  | helperExits (child : Nat)
  | filesChange (files : Text → Option FileMetadata)

def World.perform (w : World) : Operation → Reply × World
  | .startRecording outputId prepared spawned stream reads =>
      w.startRecording outputId prepared spawned stream reads
  | .pauseRecording exited signal reads => w.pauseRecording exited signal reads
  | .stopRecording signal wait => w.stopRecording signal wait
  | .deleteRecording uid name looked removed => w.deleteRecording uid name looked removed
  | .snapshot executables exited => w.recordingSnapshot executables exited
  | .poll busy executables exited => w.recordingSnapshotForPoll busy executables exited
  | .helperExits child => (⟨.ok (), none, none⟩, w.reap child)
  | .filesChange files => (⟨.ok (), none, none⟩, { w with files })

end Recording
end SleepySession
