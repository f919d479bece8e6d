import Mathlib.Data.List.TakeWhile
import SleepySession.Lib.Run

/-!
# Framing of Hyprland events

The event loop reads lines through a buffered reader.  The reader of one line
keeps the part it has read in a variable of its own and is created anew at each
turn of the loop; when the fallback timer wins a turn while such a reader
waits, the part is lost.  `parse_event_line` is a parameter, since nothing here
depends on what it accepts; each snapshot succeeds.
-/

namespace SleepySession
namespace Compositor

inductive EventDisposition where
  | ignore
  | reconcile
  deriving DecidableEq, Repr

def maxEventLineBytes : Nat :=
  64 * 1024

def newline : UInt8 :=
  10

/-- Why a connection ended. -/
inductive ConnectionError (ε : Type) where
  | bounds
  | disconnected
  | parse (error : ε)
  deriving DecidableEq, Repr

inductive FramingAction where
  /-- A line is handed to `parse_event_line`. -/
  | handed (line : List UInt8)
  | published
  deriving DecidableEq, Repr

structure EventConnection (ε : Type) where
  /-- Bytes of the buffered reader that no line reader has consumed. -/
  buffer : List UInt8
  /-- What the pending line reader has consumed. -/
  line : List UInt8
  ended : Option (ConnectionError ε)
  /-- The newest action comes first. -/
  history : List FramingAction
  /-- The number of bytes dropped together with a pending reader. -/
  lost : Nat
  deriving DecidableEq, Repr

inductive ScanResult where
  | bounds
  | pending (line : List UInt8)
  | complete (line rest : List UInt8)

/-- `read_bounded_event_line` on the bytes that are available. -/
def scan (line available : List UInt8) : ScanResult :=
  match available.span (· ≠ newline) with
  | (before, []) =>
      if maxEventLineBytes < line.length + before.length then .bounds
      else .pending (line ++ before)
  | (before, _ :: rest) =>
      if maxEventLineBytes < line.length + before.length then .bounds
      else .complete (line ++ before) rest

inductive FramingStep where
  /-- A read of the socket while a line reader waits. -/
  | read (chunk : List UInt8)
  /-- A new line reader finds bytes in the buffer. -/
  | resume
  /-- The fallback timer wins the turn. -/
  | fallback
  | close
  deriving DecidableEq, Repr

section Steps

variable {ε : Type} (parseEventLine : List UInt8 → Except ε EventDisposition)

/-- The branch of the loop that has read a line. -/
def EventConnection.handle
    (s : EventConnection ε) (line rest : List UInt8) : EventConnection ε :=
  let handed : EventConnection ε :=
    { s with buffer := rest, line := [], history := .handed line :: s.history }
  match parseEventLine line with
  | .error e => { handed with ended := some (.parse e) }
  | .ok .ignore => handed
  | .ok .reconcile => { handed with history := .published :: handed.history }

/-- The line reader runs until it has a line, fails or waits for the socket. -/
def EventConnection.poll
    (s : EventConnection ε) (available : List UInt8) : EventConnection ε :=
  match scan s.line available with
  | .bounds => { s with buffer := available, ended := some .bounds }
  | .pending line => { s with buffer := [], line := line }
  | .complete line rest => s.handle parseEventLine line rest

/-- One turn of the event loop. -/
def EventConnection.after (s : EventConnection ε) : FramingStep → Option (EventConnection ε)
  | .read chunk =>
      if s.ended.isNone ∧ s.buffer = [] ∧ chunk ≠ [] then some (s.poll parseEventLine chunk)
      else none
  | .resume =>
      if s.ended.isNone ∧ s.buffer ≠ [] then some (s.poll parseEventLine s.buffer) else none
  | .fallback =>
      if s.ended.isNone then
        -- the pending `read_bounded_event_line` is dropped with its line
        some { s with
          line := []
          history := .published :: s.history
          lost := s.lost + s.line.length }
      else none
  | .close =>
      if s.ended.isNone ∧ s.buffer = [] then some { s with ended := some .disconnected }
      else none

/-- The connection has published its first snapshot. -/
def EventConnection.start : EventConnection ε where
  buffer := []
  line := []
  ended := none
  history := [.published]
  lost := 0

/-- The state after a list of turns. -/
def EventConnection.run (steps : List FramingStep) : Option (EventConnection ε) :=
  System.replay (EventConnection.after parseEventLine) .start steps

end Steps

/-- The bytes that a list of turns has read from the socket. -/
def bytesRead (steps : List FramingStep) : List UInt8 :=
  (steps.map fun
    | .read chunk => chunk
    | _ => []).flatten

/-- A stream of newline-terminated lines. -/
def encode (lines : List (List UInt8)) : List UInt8 :=
  (lines.map (· ++ [newline])).flatten

/-- The lines handed to the parser, the oldest first. -/
def handedLines (history : List FramingAction) : List (List UInt8) :=
  history.reverse.filterMap fun
    | .handed line => some line
    | .published => none

/-- No timer wins while a line reader holds part of a line. -/
def Unbroken {ε : Type} (parseEventLine : List UInt8 → Except ε EventDisposition)
    (steps : List FramingStep) : Prop :=
  System.AllMeet (EventConnection.after parseEventLine)
    (fun s step => step = .fallback → s.line = []) .start steps

/-- Every line whose disposition is `Reconcile` is followed by a snapshot at once. -/
def Followed {ε : Type} (parseEventLine : List UInt8 → Except ε EventDisposition)
    (history : List FramingAction) : Prop :=
  ∀ later line earlier, history = later ++ .handed line :: earlier →
    parseEventLine line = .ok .reconcile → later.getLast? = some .published

/-- The turns have read the stream and worked through all of it, or have ended. -/
def Finished {ε : Type} (s : EventConnection ε) (steps : List FramingStep)
    (stream : List UInt8) : Prop :=
  bytesRead steps <+: stream ∧ .close ∉ steps ∧
    (s.ended.isSome ∨ bytesRead steps = stream ∧ s.buffer = [])

section Encoding

theorem encode_cons (line : List UInt8) (lines : List (List UInt8)) :
    encode (line :: lines) = line ++ newline :: encode lines := by
  simp [encode]

theorem encode_append (a b : List (List UInt8)) : encode (a ++ b) = encode a ++ encode b := by
  simp [encode]

/-- The first newline of a stream ends its first line. -/
theorem append_newline_inj
    {a b s t : List UInt8}
    (ha : newline ∉ a) (hb : newline ∉ b)
    (h : a ++ newline :: s = b ++ newline :: t) :
    a = b ∧ s = t := by
  induction a generalizing b with
  | nil =>
      cases b with
      | nil => exact ⟨rfl, by simpa using h⟩
      | cons c b =>
          obtain ⟨hc, -⟩ := List.cons.inj h
          exact absurd (by simp [hc]) hb
  | cons c a ih =>
      cases b with
      | nil =>
          obtain ⟨hc, -⟩ := List.cons.inj h
          exact absurd (by simp [hc]) ha
      | cons d b =>
          obtain ⟨rfl, htail⟩ := List.cons.inj h
          obtain ⟨rfl, rfl⟩ := ih (fun hmem => ha (List.mem_cons_of_mem _ hmem))
            (fun hmem => hb (List.mem_cons_of_mem _ hmem)) htail
          exact ⟨rfl, rfl⟩

/-- Lines read from the front of a stream are its first lines. -/
theorem prefix_of_encode
    {handed lines : List (List UInt8)} {rest : List UInt8}
    (hhanded : ∀ line ∈ handed, newline ∉ line) (hlines : ∀ line ∈ lines, newline ∉ line)
    (h : encode handed ++ rest <+: encode lines) :
    ∃ unread, lines = handed ++ unread ∧ rest <+: encode unread := by
  induction handed generalizing lines with
  | nil => exact ⟨lines, rfl, by simpa [encode] using h⟩
  | cons first handed ih =>
      obtain ⟨tail, htail⟩ := h
      cases lines with
      | nil => simp [encode] at htail
      | cons line lines =>
          rw [encode_cons, encode_cons] at htail
          have hparts : first ++ newline :: (encode handed ++ rest ++ tail) =
              line ++ newline :: encode lines := by
            simpa using htail
          obtain ⟨rfl, hrest⟩ := append_newline_inj (hhanded _ List.mem_cons_self)
            (hlines _ List.mem_cons_self) hparts
          obtain ⟨unread, rfl, hunread⟩ := ih
            (fun l hl => hhanded l (List.mem_cons_of_mem _ hl))
            (fun l hl => hlines l (List.mem_cons_of_mem _ hl)) ⟨tail, hrest⟩
          exact ⟨unread, rfl, hunread⟩

end Encoding

section Progress

variable {ε : Type} {parseEventLine : List UInt8 → Except ε EventDisposition}

theorem handedLines_handed (line : List UInt8) (history : List FramingAction) :
    handedLines (.handed line :: history) = handedLines history ++ [line] := by
  simp [handedLines]

theorem handedLines_published (history : List FramingAction) :
    handedLines (.published :: history) = handedLines history := by
  simp [handedLines]

theorem Followed.published
    {history : List FramingAction} (h : Followed parseEventLine history) :
    Followed parseEventLine (.published :: history) := by
  intro later line earlier hsplit hparse
  cases later with
  | nil => cases hsplit
  | cons action later =>
      obtain ⟨rfl, hrest⟩ := List.cons.inj hsplit
      have := h later line earlier hrest hparse
      rw [List.getLast?_cons, this]
      rfl

/-- A line is handed over and, if it asks for it, a snapshot is published. -/
theorem Followed.handed
    {history : List FramingAction} (h : Followed parseEventLine history) (line : List UInt8)
    (hline : parseEventLine line ≠ .ok .reconcile) :
    Followed parseEventLine (.handed line :: history) := by
  intro later line' earlier hsplit hparse
  cases later with
  | nil =>
      cases hsplit
      exact absurd hparse hline
  | cons action later =>
      obtain ⟨rfl, hrest⟩ := List.cons.inj hsplit
      have := h later line' earlier hrest hparse
      rw [List.getLast?_cons, this]
      rfl

theorem Followed.reconciled
    {history : List FramingAction} (h : Followed parseEventLine history) (line : List UInt8) :
    Followed parseEventLine (.published :: .handed line :: history) := by
  intro later line' earlier hsplit hparse
  rcases later with _ | ⟨first, _ | ⟨second, later⟩⟩
  · cases hsplit
  · obtain ⟨rfl, -⟩ := List.cons.inj hsplit
    rfl
  · simp only [List.cons_append, List.cons.injEq] at hsplit
    obtain ⟨rfl, rfl, hrest⟩ := hsplit
    have : later.getLast? = some .published := h later line' earlier hrest hparse
    rw [List.getLast?_cons, List.getLast?_cons, this]
    rfl

/-- How a connection stands to the bytes it has read. -/
structure EventConnection.Progress
    (parseEventLine : List UInt8 → Except ε EventDisposition) (bytes : List UInt8)
    (s : EventConnection ε) : Prop where
  line : newline ∉ s.line
  bound : s.line.length ≤ maxEventLineBytes
  handed : ∀ line ∈ handedLines s.history, newline ∉ line ∧ line.length ≤ maxEventLineBytes
  total : (encode (handedLines s.history)).length + s.line.length + s.buffer.length + s.lost =
    bytes.length
  exact : s.lost = 0 → bytes = encode (handedLines s.history) ++ s.line ++ s.buffer
  parseError : ∀ e, s.ended = some (.parse e) →
    ∃ line ∈ handedLines s.history, parseEventLine line = .error e
  bounds : s.ended = some .bounds →
    maxEventLineBytes < s.line.length + (s.buffer.takeWhile (· ≠ newline)).length
  followed : Followed parseEventLine s.history

theorem takeWhile_of_span
    {available before rest : List UInt8} (h : available.span (· ≠ newline) = (before, rest)) :
    available.takeWhile (· ≠ newline) = before := by
  rw [List.span_eq_takeWhile_dropWhile, Prod.mk.injEq] at h
  exact h.1

theorem span_newline_eq_nil
    {available before : List UInt8} (h : available.span (· ≠ newline) = (before, [])) :
    available = before ∧ newline ∉ before := by
  rw [List.span_eq_takeWhile_dropWhile, Prod.mk.injEq] at h
  obtain ⟨rfl, hdrop⟩ := h
  have hsplit := List.takeWhile_append_dropWhile (p := fun b => decide (b ≠ newline)) (l := available)
  rw [hdrop, List.append_nil] at hsplit
  refine ⟨hsplit.symm, fun hmem => ?_⟩
  simpa using List.mem_takeWhile_imp hmem

theorem span_newline_eq_cons
    {available before rest : List UInt8} {b : UInt8}
    (h : available.span (· ≠ newline) = (before, b :: rest)) :
    available = before ++ newline :: rest ∧ newline ∉ before := by
  rw [List.span_eq_takeWhile_dropWhile, Prod.mk.injEq] at h
  obtain ⟨rfl, hdrop⟩ := h
  have hsplit := List.takeWhile_append_dropWhile (p := fun b => decide (b ≠ newline)) (l := available)
  have hb : b = newline := by
    have := List.head?_dropWhile_not (fun b => decide (b ≠ newline)) available
    rw [hdrop] at this
    simpa using this
  rw [hdrop, hb] at hsplit
  refine ⟨hsplit.symm, fun hmem => ?_⟩
  simpa using List.mem_takeWhile_imp hmem

theorem EventConnection.Progress.handle
    {s : EventConnection ε} {bytes before rest : List UInt8}
    (hs : s.Progress parseEventLine bytes)
    (hended : s.ended = none)
    (hbuffer : s.buffer = before ++ newline :: rest) (hbefore : newline ∉ before)
    (hbound : (s.line ++ before).length ≤ maxEventLineBytes) :
    (s.handle parseEventLine (s.line ++ before) rest).Progress parseEventLine bytes := by
  have hfree : newline ∉ s.line ++ before := by
    simp [hs.line, hbefore]
  have hhanded : ∀ line ∈ handedLines s.history ++ [s.line ++ before],
      newline ∉ line ∧ line.length ≤ maxEventLineBytes := by
    intro line hline
    rcases List.mem_append.mp hline with hline | hline
    · exact hs.handed line hline
    · rw [List.mem_singleton.mp hline]
      exact ⟨hfree, hbound⟩
  have htotal : (encode (handedLines s.history ++ [s.line ++ before])).length +
      ([] : List UInt8).length + rest.length + s.lost = bytes.length := by
    have := hs.total
    rw [hbuffer] at this
    simp [encode] at this ⊢
    omega
  have hexact : s.lost = 0 → bytes =
      encode (handedLines s.history ++ [s.line ++ before]) ++ [] ++ rest := by
    intro hlost
    rw [hs.exact hlost, hbuffer]
    simp [encode]
  unfold EventConnection.handle
  cases hparse : parseEventLine (s.line ++ before) with
  | error e =>
      refine ⟨by simp, by simp, ?_, ?_, ?_, ?_, by simp, ?_⟩
      · simpa only [handedLines_handed] using hhanded
      · simpa only [handedLines_handed] using htotal
      · simpa only [handedLines_handed] using hexact
      · intro e' he'
        simp only [Option.some.injEq, ConnectionError.parse.injEq] at he'
        exact ⟨_, by rw [handedLines_handed]; simp, he' ▸ hparse⟩
      · exact hs.followed.handed _ (by simp [hparse])
  | ok disposition =>
      cases disposition with
      | ignore =>
          refine ⟨by simp, by simp, ?_, ?_, ?_, by simp [hended], by simp [hended], ?_⟩
          · simpa only [handedLines_handed] using hhanded
          · simpa only [handedLines_handed] using htotal
          · simpa only [handedLines_handed] using hexact
          · exact hs.followed.handed _ (by simp [hparse])
      | reconcile =>
          refine ⟨by simp, by simp, ?_, ?_, ?_, by simp [hended], by simp [hended], ?_⟩
          · simpa only [handedLines_published, handedLines_handed] using hhanded
          · simpa only [handedLines_published, handedLines_handed] using htotal
          · simpa only [handedLines_published, handedLines_handed] using hexact
          · exact hs.followed.reconciled _

theorem EventConnection.Progress.poll
    {s : EventConnection ε} {bytes : List UInt8}
    (hs : s.Progress parseEventLine bytes)
    (hended : s.ended = none) :
    (s.poll parseEventLine s.buffer).Progress parseEventLine bytes := by
  unfold EventConnection.poll scan
  cases hspan : s.buffer.span (· ≠ newline) with
  | mk before rest =>
      cases rest with
      | nil =>
          obtain ⟨hbuffer, hbefore⟩ := span_newline_eq_nil hspan
          by_cases hlong : maxEventLineBytes < s.line.length + before.length
          · simp only [hlong, if_true]
            refine { hs with parseError := by simp, bounds := fun _ => ?_ }
            simpa only [takeWhile_of_span hspan] using hlong
          · simp only [hlong, if_false]
            refine ⟨by simp [hs.line, hbefore], ?_, hs.handed, ?_, ?_, by simp [hended],
              by simp [hended], hs.followed⟩
            · simp
              omega
            · have := hs.total
              rw [hbuffer] at this
              simp
              omega
            · intro hlost
              have := hs.exact hlost
              rw [hbuffer] at this
              simpa using this
      | cons b rest =>
          obtain ⟨hbuffer, hbefore⟩ := span_newline_eq_cons hspan
          by_cases hlong : maxEventLineBytes < s.line.length + before.length
          · simp only [hlong, if_true]
            refine { hs with parseError := by simp, bounds := fun _ => ?_ }
            simpa only [takeWhile_of_span hspan] using hlong
          · simp only [hlong, if_false]
            exact hs.handle hended hbuffer hbefore (by simp; omega)

/-- A read, seen as a poll of a connection that has the chunk in its buffer. -/
theorem EventConnection.poll_eq
    (s : EventConnection ε) (available : List UInt8) :
    s.poll parseEventLine available =
      EventConnection.poll parseEventLine { s with buffer := available } available := by
  unfold EventConnection.poll
  cases scan s.line available <;> rfl

end Progress

section Runs

variable {ε : Type} {parseEventLine : List UInt8 → Except ε EventDisposition}

theorem EventConnection.Progress.after
    {s s' : EventConnection ε} {bytes : List UInt8} {step : FramingStep}
    (hs : s.Progress parseEventLine bytes)
    (h : s.after parseEventLine step = some s') :
    s'.Progress parseEventLine (bytes ++ bytesRead [step]) := by
  cases step with
  | read chunk =>
      unfold EventConnection.after at h
      dsimp only at h
      split at h
      · rename_i hguard
        cases h
        obtain ⟨hended, hbuffer, -⟩ := hguard
        have hread : EventConnection.Progress parseEventLine (bytes ++ chunk)
            { s with buffer := chunk } := by
          refine ⟨hs.line, hs.bound, hs.handed, ?_, ?_, hs.parseError, ?_, hs.followed⟩
          · have := hs.total
            rw [hbuffer] at this
            simp only [List.length_nil, List.length_append] at this ⊢
            omega
          · intro hlost
            rw [hs.exact hlost, hbuffer]
            simp
          · intro hbounds
            simp only at hbounds
            simp [hbounds] at hended
        rw [EventConnection.poll_eq]
        simpa [bytesRead] using hread.poll (by simpa using hended)
      · cases h
  | resume =>
      unfold EventConnection.after at h
      dsimp only at h
      split at h
      · rename_i hguard
        cases h
        simpa [bytesRead] using hs.poll (by simpa using hguard.1)
      · cases h
  | fallback =>
      unfold EventConnection.after at h
      dsimp only at h
      split at h
      · rename_i hended
        cases h
        have hnone : s.ended = none := by simpa using hended
        refine ⟨by simp, by simp, ?_, ?_, ?_, ?_, ?_, hs.followed.published⟩
        · simpa only [handedLines_published] using hs.handed
        · have := hs.total
          simp only [handedLines_published, bytesRead, List.length_nil, List.map_cons,
            List.map_nil, List.flatten_cons, List.flatten_nil, List.append_nil]
          omega
        · intro hlost
          simp only [Nat.add_eq_zero_iff, List.length_eq_zero_iff] at hlost
          have := hs.exact hlost.1
          rw [hlost.2] at this
          simpa [bytesRead, handedLines_published] using this
        · simp [hnone]
        · simp [hnone]
      · cases h
  | close =>
      unfold EventConnection.after at h
      dsimp only at h
      split at h
      · cases h
        simpa [bytesRead] using
          ({ hs with parseError := by simp, bounds := by simp } :
            EventConnection.Progress parseEventLine bytes { s with ended := some .disconnected })
      · cases h

theorem EventConnection.progress_start :
    EventConnection.Progress parseEventLine [] (.start : EventConnection ε) := by
  refine ⟨by simp [EventConnection.start], by simp [EventConnection.start], ?_, ?_, ?_, ?_, ?_, ?_⟩
  · simp [EventConnection.start, handedLines]
  · simp [EventConnection.start, handedLines, encode]
  · simp [EventConnection.start, handedLines, encode]
  · simp [EventConnection.start]
  · simp [EventConnection.start]
  · intro later line earlier hsplit
    have := congrArg (List.length) hsplit
    rcases later with _ | ⟨first, later⟩
    · cases hsplit
    · simp [EventConnection.start] at this

theorem bytesRead_cons (step : FramingStep) (steps : List FramingStep) :
    bytesRead (step :: steps) = bytesRead [step] ++ bytesRead steps := by
  simp [bytesRead]

theorem EventConnection.Progress.replay
    {s s' : EventConnection ε} {bytes : List UInt8} {steps : List FramingStep}
    (hs : s.Progress parseEventLine bytes)
    (h : System.replay (EventConnection.after parseEventLine) s steps = some s') :
    s'.Progress parseEventLine (bytes ++ bytesRead steps) := by
  induction steps generalizing s bytes with
  | nil =>
      cases h
      simpa [bytesRead] using hs
  | cons step steps ih =>
      obtain ⟨t, ht, hrest⟩ := Option.bind_eq_some_iff.mp h
      rw [bytesRead_cons, ← List.append_assoc]
      exact ih (hs.after ht) hrest

/-- Bytes are dropped by a timer that finds a line reader with part of a line, and only then. -/
theorem EventConnection.lost_after
    {s s' : EventConnection ε} {step : FramingStep}
    (h : s.after parseEventLine step = some s') :
    s.lost ≤ s'.lost ∧ ((step = .fallback → s.line = []) ↔ s'.lost = s.lost) := by
  have hpoll : ∀ available, (s.poll parseEventLine available).lost = s.lost := by
    intro available
    unfold EventConnection.poll
    cases scan s.line available with
    | bounds => rfl
    | pending line => rfl
    | complete line rest =>
        simp only [EventConnection.handle]
        split <;> rfl
  cases step with
  | read chunk =>
      unfold EventConnection.after at h
      dsimp only at h
      split at h <;> cases h
      simp [hpoll]
  | resume =>
      unfold EventConnection.after at h
      dsimp only at h
      split at h <;> cases h
      simp [hpoll]
  | fallback =>
      unfold EventConnection.after at h
      dsimp only at h
      split at h <;> cases h
      simp
  | close =>
      unfold EventConnection.after at h
      dsimp only at h
      split at h <;> cases h
      simp

theorem EventConnection.lost_replay
    {s s' : EventConnection ε} {steps : List FramingStep}
    (h : System.replay (EventConnection.after parseEventLine) s steps = some s') :
    s.lost ≤ s'.lost ∧
      (System.AllMeet (EventConnection.after parseEventLine)
        (fun s step => step = .fallback → s.line = []) s steps ↔ s'.lost = s.lost) := by
  induction steps generalizing s with
  | nil =>
      cases h
      exact ⟨le_refl _, by simp [System.AllMeet]⟩
  | cons step steps ih =>
      obtain ⟨t, ht, hrest⟩ := Option.bind_eq_some_iff.mp h
      obtain ⟨hle, hiff⟩ := EventConnection.lost_after ht
      obtain ⟨hle', hiff'⟩ := ih hrest
      refine ⟨hle.trans hle', ?_⟩
      have hmeet : (∀ s₁, s.after parseEventLine step = some s₁ →
          System.AllMeet (EventConnection.after parseEventLine)
            (fun s step => step = .fallback → s.line = []) s₁ steps) ↔
          System.AllMeet (EventConnection.after parseEventLine)
            (fun s step => step = .fallback → s.line = []) t steps := by
        refine ⟨fun hall => hall t ht, fun hone s₁ hs₁ => ?_⟩
        rw [ht] at hs₁
        cases hs₁
        exact hone
      simp only [System.AllMeet, hmeet, hiff, hiff']
      omega

/-- A run that has dropped nothing has handed over the first lines of its stream. -/
theorem EventConnection.Progress.unread
    {s : EventConnection ε} {bytes : List UInt8} {lines : List (List UInt8)}
    (hs : s.Progress parseEventLine bytes)
    (hlost : s.lost = 0)
    (hlines : ∀ line ∈ lines, newline ∉ line)
    (hbytes : bytes <+: encode lines) :
    ∃ unread, lines = handedLines s.history ++ unread ∧ s.line ++ s.buffer <+: encode unread := by
  refine prefix_of_encode (fun line hline => (hs.handed line hline).1) hlines ?_
  rw [hs.exact hlost, List.append_assoc] at hbytes
  exact hbytes

/-- The part of a line that lies before the next newline of the stream is part of its line. -/
theorem EventConnection.Progress.not_bounds
    {s : EventConnection ε} {bytes : List UInt8} {unread : List (List UInt8)}
    (hs : s.Progress parseEventLine bytes)
    (hunread : s.line ++ s.buffer <+: encode unread)
    (hfirst : ∀ line ∈ unread.head?, line.length ≤ maxEventLineBytes) :
    s.ended ≠ some .bounds := by
  intro hbounds
  have hlong := hs.bounds hbounds
  obtain ⟨tail, htail⟩ := hunread
  have hsplit : s.buffer = s.buffer.takeWhile (· ≠ newline) ++ s.buffer.dropWhile (· ≠ newline) :=
    List.takeWhile_append_dropWhile.symm
  have hpart : newline ∉ s.line ++ s.buffer.takeWhile (· ≠ newline) := by
    intro hmem
    rcases List.mem_append.mp hmem with hmem | hmem
    · exact hs.line hmem
    · simpa using List.mem_takeWhile_imp hmem
  cases unread with
  | nil =>
      simp only [encode, List.map_nil, List.flatten_nil, List.append_eq_nil_iff] at htail
      rw [htail.1.1, htail.1.2] at hlong
      simp at hlong
  | cons line unread =>
      have hline := hfirst line rfl
      have hprefix : s.line ++ s.buffer.takeWhile (· ≠ newline) <+:
          line ++ newline :: encode unread := by
        rw [← encode_cons, ← htail]
        conv_rhs => rw [hsplit]
        exact ⟨s.buffer.dropWhile (· ≠ newline) ++ tail, by simp only [List.append_assoc]⟩
      have hle : (s.line ++ s.buffer.takeWhile (· ≠ newline)).length ≤ line.length := by
        by_contra hgt
        have hlt : line.length < (s.line ++ s.buffer.takeWhile (· ≠ newline)).length := by omega
        have hget := hprefix.getElem hlt
        rw [List.getElem_append_right (le_refl _)] at hget
        simp only [Nat.sub_self, List.getElem_cons_zero] at hget
        have hmem := List.getElem_mem hlt
        rw [hget] at hmem
        exact hpart hmem
      simp only [List.length_append] at hle
      omega

theorem EventConnection.not_disconnected
    {s s' : EventConnection ε} {steps : List FramingStep}
    (h : System.replay (EventConnection.after parseEventLine) s steps = some s')
    (hopen : .close ∉ steps)
    (hs : s.ended ≠ some .disconnected) :
    s'.ended ≠ some .disconnected := by
  induction steps generalizing s with
  | nil =>
      cases h
      exact hs
  | cons step steps ih =>
      obtain ⟨t, ht, hrest⟩ := Option.bind_eq_some_iff.mp h
      refine ih hrest (fun hmem => hopen (List.mem_cons_of_mem _ hmem)) ?_
      have hpoll : ∀ available, s.ended.isNone →
          (s.poll parseEventLine available).ended ≠ some .disconnected := by
        intro available hnone
        have hended : s.ended = none := by simpa using hnone
        unfold EventConnection.poll
        cases scan s.line available with
        | bounds => simp
        | pending line => simp [hended]
        | complete line rest =>
            simp only [EventConnection.handle]
            split <;> simp [hended]
      cases step with
      | read chunk =>
          unfold EventConnection.after at ht
          dsimp only at ht
          split at ht
          · rename_i hguard
            cases ht
            exact hpoll chunk hguard.1
          · cases ht
      | resume =>
          unfold EventConnection.after at ht
          dsimp only at ht
          split at ht
          · rename_i hguard
            cases ht
            exact hpoll s.buffer hguard.1
          · cases ht
      | fallback =>
          unfold EventConnection.after at ht
          dsimp only at ht
          split at ht
          · cases ht
            exact hs
          · cases ht
      | close => exact absurd List.mem_cons_self hopen

/-- Nothing is left unread once the rest of the stream holds no newline. -/
theorem EventConnection.Progress.all_read
    {s : EventConnection ε} {bytes : List UInt8} {unread : List (List UInt8)}
    (hs : s.Progress parseEventLine bytes)
    (h : encode unread = s.line) :
    unread = [] := by
  cases unread with
  | nil => rfl
  | cons line unread =>
      rw [encode_cons] at h
      exact absurd (by simp [← h]) hs.line

/-- The first lines of a list stay before an element that is not among them. -/
theorem prefix_before
    {handed unread before after : List (List UInt8)} {long : List UInt8}
    (h : handed ++ unread = before ++ long :: after) (hlong : long ∉ handed) :
    handed <+: before := by
  rcases List.append_eq_append_iff.mp h with ⟨middle, hbefore, -⟩ | ⟨middle, hhanded, hrest⟩
  · exact ⟨middle, hbefore.symm⟩
  · cases middle with
    | nil => exact ⟨[], by simpa using hhanded⟩
    | cons first middle =>
        obtain ⟨rfl, -⟩ := List.cons.inj hrest
        exact absurd (by simp [hhanded]) hlong

/--
For a stream of lines within the limit that the parser accepts, the lines are
handed over exactly, each `Reconcile` followed by a snapshot, if and only if no
timer wins while a line reader holds part of a line; in such a run a line over
the limit ends the connection with an error.
-/
theorem framing_exact_iff
    {lines : List (List UInt8)} {steps : List FramingStep} {s : EventConnection ε}
    (hlines : ∀ line ∈ lines, newline ∉ line)
    (hrun : EventConnection.run parseEventLine steps = some s)
    (hfinished : Finished s steps (encode lines)) :
    ((∀ line ∈ lines, line.length ≤ maxEventLineBytes) →
      (∀ line ∈ lines, ∃ disposition, parseEventLine line = .ok disposition) →
      (handedLines s.history = lines ∧ s.ended = none ∧ Followed parseEventLine s.history ↔
        Unbroken parseEventLine steps)) ∧
    (∀ before long after, lines = before ++ long :: after →
      (∀ line ∈ before, line.length ≤ maxEventLineBytes) →
      maxEventLineBytes < long.length →
      (∀ line ∈ before, ∃ disposition, parseEventLine line = .ok disposition) →
      Unbroken parseEventLine steps → s.ended = some .bounds) := by
  obtain ⟨hbytes, hopen, hdone⟩ := hfinished
  have hs : s.Progress parseEventLine (bytesRead steps) := by
    simpa using EventConnection.progress_start.replay hrun
  have hlostIff : Unbroken parseEventLine steps ↔ s.lost = 0 := (EventConnection.lost_replay hrun).2
  have hconnected : s.ended ≠ some .disconnected := 
    EventConnection.not_disconnected hrun hopen (by simp [EventConnection.start])
  constructor
  · intro hbound hparse
    constructor
    · rintro ⟨hhanded, -, -⟩
      rw [hlostIff]
      have htotal := hs.total
      have hle := hbytes.length_le
      rw [hhanded] at htotal
      omega
    · intro hunbroken
      have hlost := hlostIff.mp hunbroken
      obtain ⟨unread, hsplit, hunread⟩ := hs.unread hlost hlines hbytes
      have hended : s.ended = none := by
        rcases hcases : s.ended with _ | e
        · rfl
        · exfalso
          cases e with
          | bounds =>
              refine hs.not_bounds hunread (fun line hline => ?_) hcases
              exact hbound line (hsplit ▸ List.mem_append_right _ (List.mem_of_mem_head? hline))
          | disconnected => exact hconnected hcases
          | parse e =>
              obtain ⟨line, hline, herror⟩ := hs.parseError e hcases
              obtain ⟨disposition, hok⟩ := hparse line (hsplit ▸ List.mem_append_left _ hline)
              rw [hok] at herror
              cases herror
      refine ⟨?_, hended, hs.followed⟩
      rcases hdone with hdone | ⟨hall, hbuffer⟩
      · simp [hended] at hdone
      · have hexact := hs.exact hlost
        rw [hall, hbuffer, List.append_nil] at hexact
        rw [hsplit, encode_append] at hexact
        exact (hs.all_read (List.append_cancel_left hexact) ▸ hsplit).symm ▸ by simp
  · intro before long after hsplit hbefore hlong hparse hunbroken
    have hlost := hlostIff.mp hunbroken
    obtain ⟨unread, hlines', hunread⟩ := hs.unread hlost hlines hbytes
    have hhanded : handedLines s.history <+: before := by
      refine prefix_before (hlines'.symm.trans hsplit) (fun hmem => ?_)
      exact absurd (hs.handed long hmem).2 (by omega)
    rcases hcases : s.ended with _ | e
    · exfalso
      rcases hdone with hdone | ⟨hall, hbuffer⟩
      · simp [hcases] at hdone
      · have hexact := hs.exact hlost
        rw [hall, hbuffer, List.append_nil, hlines', encode_append] at hexact
        have hnil := hs.all_read (List.append_cancel_left hexact)
        rw [hnil, List.append_nil, hsplit] at hlines'
        obtain ⟨tail, rfl⟩ := hhanded
        have := congrArg List.length hlines'
        simp at this
    · cases e with
      | bounds => rfl
      | disconnected => exact absurd hcases hconnected
      | parse e =>
          exfalso
          obtain ⟨line, hline, herror⟩ := hs.parseError e hcases
          obtain ⟨disposition, hok⟩ := hparse line (hhanded.subset hline)
          rw [hok] at herror
          cases herror

end Runs

section Sample

/-- `workspace>>1`, of which the timer separates the first letter. -/
def workspaceLine : List UInt8 :=
  "workspace>>1".toUTF8.toList

/-- The parser on the two lines that the sample hands over. -/
def sampleParse (line : List UInt8) : Except Unit EventDisposition :=
  if line = workspaceLine then .ok .reconcile else .ok .ignore

def brokenSteps : List FramingStep :=
  [.read (workspaceLine.take 1), .fallback, .read (workspaceLine.drop 1 ++ [newline])]

/-- The rest of the line is taken for an unknown event and nothing is reconciled. -/
theorem fallback_breaks_line :
    ¬ ∀ (ε : Type) (parseEventLine : List UInt8 → Except ε EventDisposition)
      (lines : List (List UInt8)) (steps : List FramingStep) (s : EventConnection ε),
      (∀ line ∈ lines, newline ∉ line) →
      EventConnection.run parseEventLine steps = some s →
      Finished s steps (encode lines) →
      (∀ line ∈ lines, line.length ≤ maxEventLineBytes) →
      (∀ line ∈ lines, ∃ disposition, parseEventLine line = .ok disposition) →
      handedLines s.history = lines ∧ s.ended = none ∧ Followed parseEventLine s.history := by
  intro h
  have hrun : EventConnection.run sampleParse brokenSteps =
      some ⟨[], [], none, [.handed (workspaceLine.drop 1), .published, .published], 1⟩ := by
    decide +kernel
  have hfinished : Finished (ε := Unit)
      ⟨[], [], none, [.handed (workspaceLine.drop 1), .published, .published], 1⟩
      brokenSteps (encode [workspaceLine]) := by
    have hbytes : bytesRead brokenSteps = encode [workspaceLine] := by decide +kernel
    exact ⟨hbytes ▸ List.prefix_refl _, by decide, Or.inr ⟨hbytes, rfl⟩⟩
  have hlines := (h Unit sampleParse [workspaceLine] brokenSteps _ (by decide +kernel) hrun
    hfinished (by decide +kernel) (fun line _ => ?_)).1
  · exact absurd hlines (by decide +kernel)
  · unfold sampleParse
    split <;> exact ⟨_, rfl⟩

/-- The same line in two reads, with the timer before and after it. -/
def unbrokenSteps : List FramingStep :=
  [.fallback, .read (workspaceLine.take 1), .read (workspaceLine.drop 1 ++ [newline]), .fallback]

theorem framing_exact_between_lines :
    Unbroken sampleParse unbrokenSteps ∧
      ∃ s : EventConnection Unit,
        EventConnection.run sampleParse unbrokenSteps = some s ∧
          handedLines s.history = [workspaceLine] := by
  have hrun : EventConnection.run sampleParse unbrokenSteps =
      some ⟨[], [], none,
        [.published, .published, .handed workspaceLine, .published, .published], 0⟩ := by
    decide +kernel
  have hbytes : bytesRead unbrokenSteps = encode [workspaceLine] := by decide +kernel
  have hiff := (@framing_exact_iff _ sampleParse [workspaceLine] _ _
    (by decide +kernel) hrun
    ⟨hbytes ▸ List.prefix_refl _, by decide, Or.inr ⟨hbytes, rfl⟩⟩).1 (by decide +kernel)
    (fun line _ => by
      unfold sampleParse
      split
      · exact ⟨_, rfl⟩
      · exact ⟨_, rfl⟩)
  have hunbroken : Unbroken sampleParse unbrokenSteps :=
    (EventConnection.lost_replay hrun).2.mpr rfl
  exact ⟨hunbroken, _, hrun, (hiff.mpr hunbroken).1⟩

end Sample

end Compositor
end SleepySession
