import SleepySession.Desktop.CommandText
import SleepySession.Lib.Utf8
import SleepySession.Store.IoError

/-!
# Acknowledgements of the recording helper

How the session reads the status lines of the recording helper from its
non-blocking pipe.  The results of the reads until the deadline are given.
`read_line` leaves the bytes it has consumed in its buffer when a read would
block, and the loop around it clears that buffer.
-/

namespace SleepySession
namespace Recording

inductive RecordingStatus where
  | inactive
  | recording
  | paused
deriving DecidableEq

/-- The line that acknowledges a status. -/
def ackText : RecordingStatus → Text
  | .recording => "STATE recording".toList
  | .paused => "STATE paused".toList
  | .inactive => "STATE inactive".toList

/-- The result of one read of the pipe. -/
inductive StatusRead where
  | bytes (chunk : List UInt8)
  | wouldBlock
  /-- The end of the stream, with what `try_wait` says after it. -/
  | closed (exited : Except IoError Bool)
  | failed (e : IoError)

/-- The `BufReader` of the pipe, with the reads that are still to come. -/
structure StatusReader where
  buffer : List UInt8
  reads : List StatusRead

namespace StatusReader

/-- Nothing is left to read before the deadline. -/
def exhausted (r : StatusReader) : Bool :=
  r.buffer.isEmpty && r.reads.isEmpty

def readSize : StatusRead → Nat
  | .bytes chunk => chunk.length + 1
  | _ => 1

/-- The bytes and the reads that are left. -/
def size (r : StatusReader) : Nat :=
  r.buffer.length + (r.reads.map readSize).sum

end StatusReader

section Reading

/-- The result of `read_line`; `text` is what it appended. -/
inductive LineRead where
  | line (text : List UInt8)
  | wouldBlock (text : List UInt8)
  | closed (text : List UInt8) (exited : Except IoError Bool)
  | failed (e : IoError)

def newline : UInt8 :=
  10

/-- The loop of `read_line`; `line` holds the bytes consumed so far. -/
def readLineFrom (line buffer : List UInt8) (reads : List StatusRead) :
    LineRead × StatusReader :=
  match buffer.span (· ≠ newline) with
  | (before, stop :: after) => (.line (line ++ before ++ [stop]), ⟨after, reads⟩)
  | (before, []) =>
      match reads with
      | [] => (.wouldBlock (line ++ before), ⟨[], []⟩)
      | .bytes chunk :: rest => readLineFrom (line ++ before) chunk rest
      | .wouldBlock :: rest => (.wouldBlock (line ++ before), ⟨[], rest⟩)
      | .closed exited :: rest => (.closed (line ++ before) exited, ⟨[], rest⟩)
      | .failed e :: rest => (.failed e, ⟨[], rest⟩)

def readLine (r : StatusReader) : LineRead × StatusReader :=
  readLineFrom [] r.buffer r.reads

theorem readLineFrom_size (line buffer : List UInt8) (reads : List StatusRead)
    (h : buffer ≠ [] ∨ reads ≠ []) :
    (readLineFrom line buffer reads).2.size < (StatusReader.mk buffer reads).size := by
  induction reads generalizing line buffer with
  | nil =>
      have hbuffer : buffer ≠ [] := h.resolve_right (not_not.mpr rfl)
      have hspan := List.takeWhile_append_dropWhile (p := (· ≠ newline)) (l := buffer)
      rw [readLineFrom, List.span_eq_takeWhile_dropWhile]
      cases hrest : buffer.dropWhile (· ≠ newline) with
      | nil => simpa [StatusReader.size] using List.length_pos_of_ne_nil hbuffer
      | cons stop after =>
          rw [hrest] at hspan
          have hlength := congrArg List.length hspan
          simp only [List.length_append, List.length_cons] at hlength
          simp only [StatusReader.size]
          omega
  | cons read rest ih =>
      have hspan := List.takeWhile_append_dropWhile (p := (· ≠ newline)) (l := buffer)
      rw [readLineFrom, List.span_eq_takeWhile_dropWhile]
      cases hrest : buffer.dropWhile (· ≠ newline) with
      | nil =>
          cases read with
          | bytes chunk =>
              by_cases hempty : chunk ≠ [] ∨ rest ≠ []
              · refine (ih _ chunk hempty).trans ?_
                simp only [StatusReader.size, StatusReader.readSize, List.map_cons, List.sum_cons]
                omega
              · obtain ⟨rfl, rfl⟩ : chunk = [] ∧ rest = [] := by
                  simpa [not_or] using hempty
                simp [readLineFrom, StatusReader.size, StatusReader.readSize]
          | wouldBlock =>
              simp only [StatusReader.size, StatusReader.readSize, List.map_cons, List.sum_cons,
                List.length_nil]
              omega
          | closed exited =>
              simp only [StatusReader.size, StatusReader.readSize, List.map_cons, List.sum_cons,
                List.length_nil]
              omega
          | failed e =>
              simp only [StatusReader.size, StatusReader.readSize, List.map_cons, List.sum_cons,
                List.length_nil]
              omega
      | cons stop after =>
          rw [hrest] at hspan
          have hlength := congrArg List.length hspan
          simp only [List.length_append, List.length_cons] at hlength
          simp only [StatusReader.size]
          omega

theorem readLine_size {r : StatusReader} (h : r.exhausted = false) :
    (readLine r).2.size < r.size := by
  obtain ⟨buffer, reads⟩ := r
  refine readLineFrom_size [] buffer reads ?_
  by_contra hempty
  obtain ⟨rfl, rfl⟩ : buffer = [] ∧ reads = [] := by simpa [not_or] using hempty
  cases h

end Reading

section Waiting

/-- A line that is short enough and, trimmed at its end, the expected one. -/
def acknowledges (expected : RecordingStatus) (line : List UInt8) : Bool :=
  match fromUtf8 line with
  | some text => line.length ≤ 64 && trimEndMatches isWhiteSpace text == ackText expected
  | none => false

/-- What a call makes of the bytes that `read_line` left in its buffer. -/
def judge (expected : RecordingStatus) (line : List UInt8) : Except IoError Unit :=
  match fromUtf8 line with
  | none => .error ⟨.invalidData, "stream did not contain valid UTF-8"⟩
  | some text =>
      if 64 < line.length ∨ trimEndMatches isWhiteSpace text ≠ ackText expected then
        .error ⟨.invalidData, "recording helper returned an invalid acknowledgement"⟩
      else .ok ()

/-- `wait_for_recording_ack`, with the reader that the next call finds. -/
def waitForRecordingAck (expected : RecordingStatus) (r : StatusReader) :
    Except IoError Unit × StatusReader :=
  if h : r.exhausted = true then
    (.error ⟨.timedOut, "recording helper acknowledgement timed out"⟩, r)
  else
    have _hsize := readLine_size (Bool.eq_false_iff.mpr h)
    match _hread : readLine r with
    | (.line text, r') => (judge expected text, r')
    -- the next round clears the line
    | (.wouldBlock _, r') => waitForRecordingAck expected r'
    | (.closed text exited, r') =>
        if text = [] then
          match exited with
          | .error e => (.error e, r')
          | .ok true =>
              (.error ⟨.brokenPipe, "recording helper exited before acknowledgement"⟩, r')
          | .ok false => waitForRecordingAck expected r'
        else (judge expected text, r')
    | (.failed e, r') => (.error e, r')
termination_by r.size
decreasing_by
  all_goals
    rw [_hread] at _hsize
    exact _hsize

/-- Successive calls, each with the status it expects: whether each one accepts. -/
def acks : List RecordingStatus → StatusReader → List Bool × StatusReader
  | [], r => ([], r)
  | expected :: rest, r =>
      let (result, r') := waitForRecordingAck expected r
      let (results, last) := acks rest r'
      (result.isOk :: results, last)

end Waiting

end Recording
end SleepySession
