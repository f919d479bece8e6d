import SleepySession.Overview.Channel
import SleepySession.Lib.Run

/-!
# Confirmed overview commands

A command is started against a prepared baseline, the compositor command runs,
and the events that arrive afterwards are read until one of them shows the state
the command asked for.  Publications interleave with every stage.  What the
command runner answers and when a wait ends is arbitrary.
-/

namespace SleepySession
namespace Overview

/-- The commands of the overview; `other` stands for every other daemon command. -/
inductive DaemonCommand where
  | focusWindow (windowId : Nat)
  | closeWindow (windowId : Nat)
  | focusWorkspace (workspaceId : Nat)
  | other
deriving DecidableEq, Repr

/-- What `NiriOverview` keeps of the events. -/
structure NiriOverview where
  sequence : Nat
  focusedOutput : Option String
  online : Bool
deriving DecidableEq, Repr

def NiriOverview.new : NiriOverview where
  sequence := 0
  focusedOutput := none
  online := true

def NiriOverview.observe (overview : NiriOverview) (event : OverviewEvent) : NiriOverview :=
  if event.sequence ≤ overview.sequence then overview
  else
    let overview := { overview with sequence := event.sequence }
    match event with
    | .focusChanged outputId _ _ _ =>
        { overview with online := true, focusedOutput := some outputId }
    | .offline _ => { overview with online := false }
    | .windowClosed _ _ => { overview with online := true }

/-- The output that a change of the focus names. -/
def OverviewEvent.focuses : OverviewEvent → Option String
  | .focusChanged outputId _ _ _ => some outputId
  | _ => none

/-- The output that the newest focus change names, among the events that were new in their turn. -/
def outputInFocus : List OverviewEvent → Option String
  | [] => none
  | event :: earlier =>
      if 0 < event.sequence ∧ ∀ e ∈ earlier, e.sequence < event.sequence then
        event.focuses.or (outputInFocus earlier)
      else outputInFocus earlier

/-- The overview is what the observed events make of it; the newest comes first. -/
structure NiriOverview.Reflects (overview : NiriOverview) (observed : List OverviewEvent) :
    Prop where
  focused : overview.focusedOutput = outputInFocus observed
  bound : ∀ e ∈ observed, e.sequence ≤ overview.sequence
  reached : overview.sequence = 0 ∨ ∃ e ∈ observed, e.sequence = overview.sequence

theorem NiriOverview.reflects_new : NiriOverview.new.Reflects [] :=
  ⟨rfl, nofun, Or.inl rfl⟩

theorem NiriOverview.Reflects.observe {overview : NiriOverview} {observed : List OverviewEvent}
    (h : overview.Reflects observed) (event : OverviewEvent) :
    (overview.observe event).Reflects (event :: observed) := by
  by_cases hstale : event.sequence ≤ overview.sequence
  · have hold : ¬ (0 < event.sequence ∧ ∀ e ∈ observed, e.sequence < event.sequence) := by
      rintro ⟨hpositive, hall⟩
      rcases h.reached with hzero | ⟨e, he, hseq⟩
      · omega
      · have := hall e he
        omega
    rw [NiriOverview.observe, if_pos hstale]
    refine ⟨?_, ?_, ?_⟩
    · rw [outputInFocus, if_neg hold]
      exact h.focused
    · exact List.forall_mem_cons.mpr ⟨hstale, h.bound⟩
    · exact h.reached.imp_right fun ⟨e, he, hseq⟩ => ⟨e, List.mem_cons_of_mem _ he, hseq⟩
  · have hnew : 0 < event.sequence ∧ ∀ e ∈ observed, e.sequence < event.sequence :=
      ⟨by omega, fun e he => by have := h.bound e he; omega⟩
    have hsequence : (overview.observe event).sequence = event.sequence := by
      rw [NiriOverview.observe, if_neg hstale]
      cases event <;> rfl
    refine ⟨?_, ?_, ?_⟩
    · rw [outputInFocus, if_pos hnew, NiriOverview.observe, if_neg hstale]
      cases event with
      | focusChanged outputId windowId workspaceId sequence => rfl
      | windowClosed windowId sequence => exact h.focused
      | offline sequence => exact h.focused
    · rw [hsequence]
      exact List.forall_mem_cons.mpr ⟨le_refl _, fun e he => (hnew.2 e he).le⟩
    · rw [hsequence]
      exact Or.inr ⟨event, List.mem_cons_self, rfl⟩

def fixedArgs : DaemonCommand → Except IoError (List String)
  | .focusWindow windowId =>
      if 0 < windowId then .ok ["msg", "action", "focus-window", "--id", toString windowId]
      else .error ⟨.invalidInput, "command is not a typed Niri overview action"⟩
  | .closeWindow windowId =>
      if 0 < windowId then .ok ["msg", "action", "close-window", "--id", toString windowId]
      else .error ⟨.invalidInput, "command is not a typed Niri overview action"⟩
  | .focusWorkspace workspaceId =>
      if 0 < workspaceId then .ok ["msg", "action", "focus-workspace", toString workspaceId]
      else .error ⟨.invalidInput, "command is not a typed Niri overview action"⟩
  | .other => .error ⟨.invalidInput, "command is not a typed Niri overview action"⟩

def confirms (command : DaemonCommand) (event : OverviewEvent) (expectedOutput : Option String) :
    Bool :=
  match command, event with
  | .focusWindow windowId, .focusChanged outputId actual _ _ =>
      actual == some windowId && outputId != ""
  | .closeWindow windowId, .windowClosed actual _ => windowId == actual
  | .focusWorkspace workspaceId, .focusChanged outputId _ actual _ =>
      workspaceId == actual && expectedOutput.all fun expected => expected == outputId
  | _, _ => false

/-- The event shows the state that the command asked for. -/
inductive Shows (routedOutput : Option String) : DaemonCommand → OverviewEvent → Prop where
  | window {windowId workspaceId sequence : Nat} {outputId : String} (h : outputId ≠ "") :
      Shows routedOutput (.focusWindow windowId)
        (.focusChanged outputId (some windowId) workspaceId sequence)
  | closed {windowId sequence : Nat} :
      Shows routedOutput (.closeWindow windowId) (.windowClosed windowId sequence)
  | workspace {workspaceId sequence : Nat} {windowId : Option Nat} {outputId : String}
      (h : ∀ expected, routedOutput = some expected → expected = outputId) :
      Shows routedOutput (.focusWorkspace workspaceId)
        (.focusChanged outputId windowId workspaceId sequence)

theorem confirms_iff {command : DaemonCommand} {event : OverviewEvent}
    {routedOutput : Option String} :
    confirms command event routedOutput = true ↔ Shows routedOutput command event := by
  constructor
  · intro h
    unfold confirms at h
    split at h
    · obtain ⟨rfl, houtput⟩ : _ = some _ ∧ _ ≠ "" := by simpa using h
      exact .window houtput
    · obtain rfl : _ = _ := by simpa using h
      exact .closed
    · obtain ⟨rfl, houtput⟩ := Bool.and_eq_true_iff.mp h |>.imp beq_iff_eq.mp id
      refine .workspace fun expected hexpected => ?_
      simpa [hexpected] using houtput
    · cases h
  · rintro (houtput | _ | houtput)
    · simp [confirms, houtput]
    · simp [confirms]
    · simpa [confirms, Option.all_eq_true] using houtput

/-- A command between its preparation and its answer. -/
structure OverviewRequest where
  command : DaemonCommand
  args : List String
  baseline : Nat
  routedOutput : Option String
  startedAt : Option Nat
  /-- Everything published before the request was prepared. -/
  before : List ObservedOverviewEvent
  /-- What had been observed or was still unread then, the newest first. -/
  known : List OverviewEvent

/-- What `execute_controlled` returned, and for which request. -/
structure OverviewAnswer where
  command : DaemonCommand
  startedAt : Option Nat
  before : List ObservedOverviewEvent
  known : List OverviewEvent
  result : Except IoError OverviewEvent

/-- The channel with its consumer, the overview and what has happened so far. -/
structure OverviewRun where
  channel : OverviewChannelState
  cursor : Nat
  overview : NiriOverview
  /-- The events handed to the overview, the newest first. -/
  observed : List OverviewEvent
  request : Option OverviewRequest
  /-- All events handed to `publish`, and those of them that the channel took. -/
  published : List ObservedOverviewEvent
  accepted : List ObservedOverviewEvent
  /-- The events that reads have returned, those that a lag error stands for, and its count. -/
  seen : List ObservedOverviewEvent
  skipped : List ObservedOverviewEvent
  lags : Nat
  answers : List OverviewAnswer

inductive OverviewStep where
  | publish (observed : ObservedOverviewEvent)
  | tryEvent
  | nextEvent (timedOut : Bool)
  | observe (event : OverviewEvent)
  | execute (command : DaemonCommand)
  | commandStarted (startedAt : Nat)
  | commandFailed (error : IoError)
  | giveUp (cancelled : Bool)
  | confirm (timedOut : Bool)

namespace OverviewRun

def unread (s : OverviewRun) : List ObservedOverviewEvent :=
  Overview.unread s.accepted s.cursor

/-- A read has returned events. -/
def saw (s : OverviewRun) (events : List ObservedOverviewEvent) (cursor : Nat) : OverviewRun :=
  { s with cursor := cursor, seen := s.seen ++ events }

/-- A read has reported lag: the unread events that the channel dropped are skipped. -/
def lagged (s : OverviewRun) (cursor : Nat) : OverviewRun :=
  { s with
    cursor := cursor
    skipped := s.skipped ++ s.unread.filter fun e => decide (e ∉ s.channel.events)
    lags := s.lags + 1 }

def read (s : OverviewRun) : Except IoError (Option ObservedOverviewEvent) × Nat → OverviewRun
  | (.ok event, cursor) => s.saw event.toList cursor
  | (.error _, cursor) => s.lagged cursor

def answer (s : OverviewRun) (r : OverviewRequest) (result : Except IoError OverviewEvent) :
    OverviewRun :=
  { s with
    request := none
    answers := s.answers ++ [⟨r.command, r.startedAt, r.before, r.known, result⟩] }

/-- The overview observes an event. -/
def observe (s : OverviewRun) (event : OverviewEvent) : OverviewRun :=
  { s with overview := s.overview.observe event, observed := event :: s.observed }

/-- `execute_controlled` up to the start of the compositor command. -/
def execute (s : OverviewRun) (command : DaemonCommand) : OverviewRun :=
  let known := (s.unread.map ObservedOverviewEvent.event).reverse ++ s.observed
  let request : OverviewRequest := ⟨command, [], 0, none, none, s.published, known⟩
  match prepareRequest s.channel s.cursor s.overview.sequence with
  | (.error error, cursor) => (s.lagged cursor).answer request (.error error)
  | (.ok (baseline, retained), cursor) =>
      let s := retained.foldl (fun s e => s.observe e.event) (s.saw retained cursor)
      if !s.overview.online then
        s.answer request (.error ⟨.notConnected, "Niri event stream is offline"⟩)
      else
        match fixedArgs command with
        | .error error => s.answer request (.error error)
        | .ok args =>
            { s with
              request := some { request with
                args := args
                baseline := max baseline s.overview.sequence
                routedOutput := s.overview.focusedOutput } }

/-- What the confirmation loop does with an event it has read. -/
def judge (s : OverviewRun) (r : OverviewRequest) (startedAt : Nat)
    (observed : ObservedOverviewEvent) : OverviewRun :=
  let event := observed.event
  if event.sequence ≤ r.baseline then s
  else
    let s := s.observe event
    match event with
    | .offline _ => s.answer r (.error ⟨.notConnected, "Niri went offline before confirmation"⟩)
    | event =>
        if startedAt ≤ observed.observedAt && confirms r.command event r.routedOutput then
          s.answer r (.ok event)
        else s

def notConfirmed : IoError :=
  ⟨.timedOut, "Niri did not confirm the command"⟩

/-- One round of the confirmation loop, after its checks of cancellation and time. -/
def confirm (s : OverviewRun) (r : OverviewRequest) (startedAt : Nat) (timedOut : Bool) :
    Option OverviewRun :=
  match nextEvent s.channel s.cursor timedOut with
  | none => none
  | some (.error error, cursor) => some ((s.lagged cursor).answer r (.error error))
  | some (.ok none, cursor) => some ((s.saw [] cursor).answer r (.error notConfirmed))
  | some (.ok (some observed), cursor) =>
      some ((s.saw [observed] cursor).judge r startedAt observed)

/-- One atomic step of a publisher, of the consumer or of the running command. -/
def after (s : OverviewRun) : OverviewStep → Option OverviewRun
  | .publish observed =>
      some { s with
        channel := s.channel.publish observed
        published := s.published ++ [observed]
        accepted :=
          if observed.sequence ≤ s.channel.latestSequence then s.accepted
          else s.accepted ++ [observed] }
  | .tryEvent => some (s.read (tryEvent s.channel s.cursor))
  | .nextEvent timedOut => (nextEvent s.channel s.cursor timedOut).map s.read
  | .observe event =>
      if s.request.isSome then none
      else some (s.observe event)
  | .execute command => if s.request.isSome then none else some (s.execute command)
  | .commandStarted startedAt =>
      match s.request with
      | some r =>
          if r.startedAt.isSome then none
          else some { s with request := some { r with startedAt := some startedAt } }
      | none => none
  | .commandFailed error =>
      match s.request with
      | some r => if r.startedAt.isSome then none else some (s.answer r (.error error))
      | none => none
  | .giveUp cancelled =>
      match s.request with
      | some r =>
          if r.startedAt.isNone then none
          else if cancelled then
            some (s.answer r (.error ⟨.interrupted, "Niri confirmation cancelled"⟩))
          else some (s.answer r (.error notConfirmed))
      | none => none
  | .confirm timedOut =>
      match s.request with
      | some r =>
          match r.startedAt with
          | some startedAt => s.confirm r startedAt timedOut
          | none => none
      | none => none

/-- A new channel of a capacity with its overview. -/
def new (capacity : Nat) : OverviewRun where
  channel := overviewEventChannel capacity
  cursor := 0
  overview := .new
  observed := []
  request := none
  published := []
  accepted := []
  seen := []
  skipped := []
  lags := 0
  answers := []

end OverviewRun

/-- All interleavings of publishers, reads and commands around one channel. -/
def overviewSystem (capacity : Nat) : System OverviewRun OverviewStep :=
  System.ofStep (fun s => s = .new capacity) OverviewRun.after

section Reads

variable {s : OverviewRun}

/-- What the consumer has read and skipped, up to its cursor. -/
structure OverviewRun.Consumed (s : OverviewRun) : Prop where
  channel : Consistent s.accepted s.channel
  cursor_le : s.cursor ≤ s.channel.latestSequence
  seen : s.seen = (between s.accepted 0 s.cursor).filter fun e => decide (e ∉ s.skipped)
  skipped : ∀ e ∈ s.skipped,
    e ∈ s.accepted ∧ e.sequence ≤ s.cursor ∧ e.sequence ≤ s.channel.droppedThrough
  calm : s.lags = 0 → s.skipped = []
  published : ∀ e ∈ s.published, e.sequence ≤ s.channel.latestSequence

theorem OverviewChannelState.latestSequence_publish
    (state : OverviewChannelState) (observed : ObservedOverviewEvent) :
    (state.publish observed).latestSequence = max state.latestSequence observed.sequence := by
  unfold OverviewChannelState.publish
  split
  · omega
  · simp
    omega

theorem OverviewRun.Consumed.publish
    (hs : s.Consumed) (observed : ObservedOverviewEvent) :
    ({ s with
      channel := s.channel.publish observed
      published := s.published ++ [observed]
      accepted :=
        if observed.sequence ≤ s.channel.latestSequence then s.accepted
        else s.accepted ++ [observed] } : OverviewRun).Consumed := by
  have hlatest := s.channel.latestSequence_publish observed
  have hpublished : ∀ e ∈ s.published ++ [observed],
      e.sequence ≤ (s.channel.publish observed).latestSequence := by
    intro e he
    rcases List.mem_append.mp he with he | he
    · have := hs.published e he
      omega
    · rw [List.mem_singleton.mp he]
      omega
  have hcursor : s.cursor ≤ (s.channel.publish observed).latestSequence := by
    have := hs.cursor_le
    omega
  by_cases hold : observed.sequence ≤ s.channel.latestSequence
  · refine ⟨?_, hcursor, ?_, ?_, hs.calm, hpublished⟩
    · simpa [hold, OverviewChannelState.publish_stale] using hs.channel
    · simpa [hold] using hs.seen
    · simpa [hold, OverviewChannelState.publish_stale] using hs.skipped
  · refine ⟨?_, hcursor, ?_, fun e he => ?_, hs.calm, hpublished⟩
    · simpa [hold] using hs.channel.publish (by omega : _ < observed.sequence)
    · have hbetween : between [observed] 0 s.cursor = [] := by
        have := hs.cursor_le
        simp [between]
        omega
      simp only [if_neg hold]
      rw [between, List.filter_append, ← between, ← between, hbetween, List.append_nil]
      exact hs.seen
    · obtain ⟨hmem, hle, hdropped⟩ := hs.skipped e he
      refine ⟨?_, hle, hdropped.trans (hs.channel.droppedThrough_publish observed)⟩
      simp [hold, hmem]

/-- A read that gives all the events up to its new cursor. -/
theorem OverviewRun.Consumed.saw
    (hs : s.Consumed) {cursor : Nat}
    (hle : s.cursor ≤ cursor) (hlatest : cursor ≤ s.channel.latestSequence) :
    (s.saw (between s.accepted s.cursor cursor) cursor).Consumed := by
  refine ⟨hs.channel, hlatest, ?_, fun e he => ?_, hs.calm, hs.published⟩
  · change s.seen ++ between s.accepted s.cursor cursor =
      (between s.accepted 0 cursor).filter fun e => decide (e ∉ s.skipped)
    have hnew : (between s.accepted s.cursor cursor).filter (fun e => decide (e ∉ s.skipped)) =
        between s.accepted s.cursor cursor := by
      refine List.filter_eq_self.mpr fun e he => ?_
      have hlt := (mem_between.mp he).2.1
      have hfresh : e ∉ s.skipped := fun hskipped => by
        have := (hs.skipped e hskipped).2.1
        omega
      simpa using hfresh
    rw [← between_append hs.channel.increasing (Nat.zero_le _) hle, List.filter_append, hnew,
      hs.seen]
  · obtain ⟨hmem, hcursor, hdropped⟩ := hs.skipped e he
    exact ⟨hmem, hcursor.trans hle, hdropped⟩

/-- A lag error leaves the consumer at the drop mark. -/
theorem OverviewRun.Consumed.lagged
    (hs : s.Consumed) (hlag : s.cursor < s.channel.droppedThrough) :
    (s.lagged s.channel.droppedThrough).Consumed := by
  have hlost : s.unread.filter (fun e => decide (e ∉ s.channel.events)) =
      between s.accepted s.cursor s.channel.droppedThrough := hs.channel.lost_eq s.cursor
  have hskipped : (s.lagged s.channel.droppedThrough).skipped =
      s.skipped ++ between s.accepted s.cursor s.channel.droppedThrough := by
    rw [OverviewRun.lagged, hlost]
  refine ⟨hs.channel, hs.channel.droppedThrough_le, ?_, fun e he => ?_, fun h => by
    simp [OverviewRun.lagged] at h, hs.published⟩
  · rw [hskipped]
    change s.seen = List.filter _ (between s.accepted 0 s.channel.droppedThrough)
    rw [← between_append hs.channel.increasing (Nat.zero_le _) hlag.le, List.filter_append,
      hs.seen]
    have hgone : (between s.accepted s.cursor s.channel.droppedThrough).filter (fun e =>
        decide (e ∉ s.skipped ++ between s.accepted s.cursor s.channel.droppedThrough)) = [] :=
      List.filter_eq_nil_iff.mpr fun e he => by simp [he]
    rw [hgone, List.append_nil]
    refine List.filter_congr fun e he => ?_
    have hle := (mem_between.mp he).2.2
    have hout : e ∉ between s.accepted s.cursor s.channel.droppedThrough := fun hin => by
      have := (mem_between.mp hin).2.1
      omega
    simp [hout]
  · rw [hskipped] at he
    rcases List.mem_append.mp he with he | he
    · obtain ⟨hmem, hcursor, hdropped⟩ := hs.skipped e he
      exact ⟨hmem, hcursor.trans hlag.le, hdropped⟩
    · obtain ⟨hmem, -, hle⟩ := mem_between.mp he
      exact ⟨hmem, hle, hle⟩

/-- The three outcomes of a read and the cursor that each leaves. -/
theorem OverviewRun.Consumed.nextChannelEvent_cases (hs : s.Consumed) :
    (s.cursor < s.channel.droppedThrough ∧
      nextChannelEvent s.channel s.cursor = (.error laggedError, s.channel.droppedThrough)) ∨
    (∃ e, nextChannelEvent s.channel s.cursor = (.ok (some e), e.sequence) ∧
      s.unread.head? = some e ∧ (s.saw [e] e.sequence).Consumed) ∨
    (nextChannelEvent s.channel s.cursor = (.ok none, s.cursor) ∧ s.unread = []) := by
  by_cases hlag : s.cursor < s.channel.droppedThrough
  · exact Or.inl ⟨hlag, if_pos hlag⟩
  · refine Or.inr ?_
    have hnext := hs.channel.nextChannelEvent hlag
    cases hhead : (Overview.unread s.accepted s.cursor).head? with
    | none =>
        rw [hhead] at hnext
        exact Or.inr ⟨hnext, List.head?_eq_none_iff.mp hhead⟩
    | some e =>
        rw [hhead] at hnext
        obtain ⟨hmem, hlt⟩ := mem_unread.mp (List.mem_of_head? hhead)
        have hsaw := hs.saw hlt.le (hs.channel.le_latest e hmem)
        rw [hs.channel.increasing.between_head hhead] at hsaw
        exact Or.inl ⟨e, hnext, hhead, hsaw⟩

theorem OverviewRun.saw_nil (s : OverviewRun) : s.saw [] s.cursor = s := by
  simp [OverviewRun.saw]

theorem OverviewRun.Consumed.read (hs : s.Consumed) :
    (s.read (nextChannelEvent s.channel s.cursor)).Consumed := by
  obtain ⟨hlag, h⟩ | ⟨e, h, -, hsaw⟩ | ⟨h, -⟩ := hs.nextChannelEvent_cases
  · rw [h]
    exact hs.lagged hlag
  · rw [h]
    exact hsaw
  · rw [h]
    simpa only [OverviewRun.read, Option.toList_none, OverviewRun.saw_nil] using hs

theorem nextEvent_eq {state : OverviewChannelState} {cursor : Nat} {timedOut : Bool}
    {result : Except IoError (Option ObservedOverviewEvent) × Nat}
    (h : nextEvent state cursor timedOut = some result) :
    result = nextChannelEvent state cursor := by
  unfold nextEvent at h
  split at h
  · cases h
  · exact (Option.some.inj h).symm

/-- Reads do not depend on the overview and its requests. -/
theorem OverviewRun.Consumed.reframe
    (hs : s.Consumed) (overview : NiriOverview) (observed : List OverviewEvent)
    (request : Option OverviewRequest) (answers : List OverviewAnswer) :
    ({ s with
      overview := overview
      observed := observed
      request := request
      answers := answers } : OverviewRun).Consumed :=
  ⟨hs.channel, hs.cursor_le, hs.seen, hs.skipped, hs.calm, hs.published⟩

end Reads

section Requests

variable {s : OverviewRun}

/--
An event that was read confirms the command: it is numbered above what was
published before, it shows the state the command asked for, and it was observed
after the compositor command was started.
-/
structure OverviewAnswer.ConfirmedBy
    (answer : OverviewAnswer) (seen : List ObservedOverviewEvent) (event : OverviewEvent) :
    Prop where
  later : ∀ e ∈ answer.before, e.sequence < event.sequence
  matched : Shows (outputInFocus answer.known) answer.command event
  read : ∃ observed ∈ seen, observed.event = event ∧
    ∃ startedAt, answer.startedAt = some startedAt ∧ startedAt ≤ observed.observedAt

/-- A prepared request lies beyond what was published, and its output is what was known. -/
structure OverviewRequest.Prepared (r : OverviewRequest) : Prop where
  later : ∀ e ∈ r.before, e.sequence ≤ r.baseline
  routed : r.routedOutput = outputInFocus r.known

/-- What holds of the channel, its consumer and the commands at any time. -/
structure OverviewRun.Invariant (s : OverviewRun) : Prop where
  consumed : s.Consumed
  reflects : s.overview.Reflects s.observed
  request : ∀ r, s.request = some r → r.Prepared
  answers : ∀ answer ∈ s.answers, ∀ event, answer.result = .ok event →
    answer.ConfirmedBy s.seen event

/-- Reading more events leaves requests and answers alone. -/
theorem OverviewRun.Invariant.frame {t : OverviewRun}
    (hs : s.Invariant) (ht : t.Consumed) (hreflects : t.overview.Reflects t.observed)
    (hrequest : t.request = s.request) (hanswers : t.answers = s.answers)
    (hseen : s.seen ⊆ t.seen) : t.Invariant := by
  refine ⟨ht, hreflects, fun r hr => hs.request r (hrequest ▸ hr),
    fun answer hmem event hok => ?_⟩
  rw [hanswers] at hmem
  obtain ⟨hlater, hshows, observed, hread, hevent⟩ := hs.answers answer hmem event hok
  exact ⟨hlater, hshows, observed, hseen hread, hevent⟩

theorem OverviewRun.Invariant.answer
    (hs : s.Invariant) (r : OverviewRequest) (result : Except IoError OverviewEvent)
    (hresult : ∀ event, result = .ok event →
      OverviewAnswer.ConfirmedBy ⟨r.command, r.startedAt, r.before, r.known, result⟩ s.seen
        event) :
    (s.answer r result).Invariant := by
  refine ⟨hs.consumed.reframe _ _ _ _, hs.reflects, (fun r hr => by cases hr),
    fun answer hmem event hok => ?_⟩
  rcases List.mem_append.mp hmem with hmem | hmem
  · exact hs.answers answer hmem event hok
  · obtain rfl := List.mem_singleton.mp hmem
    exact hresult event hok

theorem OverviewRun.Invariant.answer_error
    (hs : s.Invariant) (r : OverviewRequest) (error : IoError) :
    (s.answer r (.error error)).Invariant :=
  hs.answer r _ fun _ h => by cases h

theorem OverviewRun.Invariant.observe
    (hs : s.Invariant) (event : OverviewEvent) :
    (s.observe event).Invariant :=
  hs.frame (hs.consumed.reframe _ _ _ _) (hs.reflects.observe event) rfl rfl
    (List.Subset.refl _)

theorem OverviewRun.Invariant.observeAll
    (hs : s.Invariant) (events : List ObservedOverviewEvent) :
    (events.foldl (fun s e => s.observe e.event) s).Invariant := by
  induction events generalizing s with
  | nil => exact hs
  | cons e events ih => exact ih (hs.observe e.event)

/-- The retained events are what the overview has observed last. -/
theorem OverviewRun.observed_foldl (s : OverviewRun) (events : List ObservedOverviewEvent) :
    (events.foldl (fun s e => s.observe e.event) s).observed =
      (events.map ObservedOverviewEvent.event).reverse ++ s.observed := by
  induction events generalizing s with
  | nil => rfl
  | cons e events ih =>
      rw [List.foldl_cons, ih]
      simp [OverviewRun.observe]

theorem OverviewRun.Invariant.lagged
    (hs : s.Invariant) (hlag : s.cursor < s.channel.droppedThrough) :
    (s.lagged s.channel.droppedThrough).Invariant :=
  hs.frame (hs.consumed.lagged hlag) hs.reflects rfl rfl (List.Subset.refl _)

theorem OverviewRun.Invariant.execute (hs : s.Invariant) (command : DaemonCommand) :
    (s.execute command).Invariant := by
  by_cases hlag : s.cursor < s.channel.droppedThrough
  · have hprepare : prepareRequest s.channel s.cursor s.overview.sequence =
        (.error laggedError, s.channel.droppedThrough) := if_pos hlag
    simp only [OverviewRun.execute, hprepare]
    exact (hs.lagged hlag).answer_error _ _
  · have hprepare := hs.consumed.channel.prepareRequest hlag s.overview.sequence
    have hunread := hs.consumed.channel.between_latest s.cursor
    have hsaw : (s.saw (Overview.unread s.accepted s.cursor) s.channel.latestSequence).Invariant := by
      rw [← hunread]
      exact hs.frame (hs.consumed.saw hs.consumed.cursor_le (le_refl _)) hs.reflects rfl rfl
        (List.subset_append_left _ _)
    have hall := hsaw.observeAll (Overview.unread s.accepted s.cursor)
    simp only [OverviewRun.execute, hprepare]
    split
    · exact hall.answer_error _ _
    · split
      · exact hall.answer_error _ _
      · refine ⟨hall.consumed.reframe _ _ _ _, hall.reflects, fun r hr => ?_, hall.answers⟩
        cases hr
        refine ⟨fun e he => ?_, ?_⟩
        · -- everything published so far is covered by the baseline
          have := hs.consumed.published e he
          simp only [le_max_iff]
          omega
        · have hfocused := hall.reflects.focused
          rw [OverviewRun.observed_foldl] at hfocused
          exact hfocused

/-- The loop answers with an event only when it lies beyond the baseline and shows the state. -/
theorem OverviewRun.Invariant.judge
    (hs : s.Invariant) {r : OverviewRequest} (hr : r.Prepared)
    {startedAt : Nat} (hstarted : r.startedAt = some startedAt)
    {observed : ObservedOverviewEvent} (hread : observed ∈ s.seen) :
    (s.judge r startedAt observed).Invariant := by
  unfold OverviewRun.judge
  dsimp only
  split
  · exact hs
  · rename_i hnew
    split
    · exact (hs.observe _).answer_error _ _
    · split
      · rename_i hmatches
        obtain ⟨htime, hconfirms⟩ := Bool.and_eq_true_iff.mp hmatches
        refine (hs.observe _).answer _ _ fun event hok => ?_
        cases hok
        refine ⟨fun e he => ?_, ?_, observed, hread, rfl, startedAt, hstarted,
          of_decide_eq_true htime⟩
        · have := hr.later e he
          omega
        · rw [hr.routed] at hconfirms
          exact confirms_iff.mp hconfirms
      · exact hs.observe _

theorem OverviewRun.Invariant.confirm {s' : OverviewRun}
    (hs : s.Invariant) {r : OverviewRequest} (hr : r.Prepared)
    {startedAt : Nat} (hstarted : r.startedAt = some startedAt) {timedOut : Bool}
    (h : s.confirm r startedAt timedOut = some s') : s'.Invariant := by
  unfold OverviewRun.confirm at h
  cases hnext : nextEvent s.channel s.cursor timedOut with
  | none => simp [hnext] at h
  | some result =>
      rw [hnext, nextEvent_eq hnext] at h
      obtain ⟨hlag, hread⟩ | ⟨e, hread, -, hsaw⟩ | ⟨hread, -⟩ :=
        hs.consumed.nextChannelEvent_cases
      · rw [hread] at h
        cases h
        exact (hs.lagged hlag).answer_error _ _
      · rw [hread] at h
        cases h
        refine OverviewRun.Invariant.judge ?_ hr hstarted (by simp [OverviewRun.saw])
        exact hs.frame hsaw hs.reflects rfl rfl (List.subset_append_left _ _)
      · rw [hread] at h
        cases h
        rw [OverviewRun.saw_nil]
        exact hs.answer_error _ _

theorem OverviewRun.read_frame (s : OverviewRun)
    (result : Except IoError (Option ObservedOverviewEvent) × Nat) :
    (s.read result).request = s.request ∧ (s.read result).answers = s.answers ∧
      s.seen ⊆ (s.read result).seen ∧ (s.read result).overview = s.overview ∧
      (s.read result).observed = s.observed := by
  obtain ⟨error | event, cursor⟩ := result
  · exact ⟨rfl, rfl, List.Subset.refl _, rfl, rfl⟩
  · exact ⟨rfl, rfl, List.subset_append_left _ _, rfl, rfl⟩

theorem OverviewRun.Invariant.read (hs : s.Invariant) :
    (s.read (nextChannelEvent s.channel s.cursor)).Invariant := by
  obtain ⟨hrequest, hanswers, hseen, hoverview, hobserved⟩ :=
    s.read_frame (nextChannelEvent s.channel s.cursor)
  refine hs.frame hs.consumed.read ?_ hrequest hanswers hseen
  rw [hoverview, hobserved]
  exact hs.reflects

theorem OverviewRun.Invariant.after {step : OverviewStep} {s' : OverviewRun}
    (hs : s.Invariant) (h : s.after step = some s') : s'.Invariant := by
  cases step with
  | publish observed =>
      cases h
      exact hs.frame (hs.consumed.publish observed) hs.reflects rfl rfl (List.Subset.refl _)
  | tryEvent =>
      cases h
      exact hs.read
  | nextEvent timedOut =>
      obtain ⟨result, hnext, rfl⟩ := Option.map_eq_some_iff.mp h
      rw [nextEvent_eq hnext]
      exact hs.read
  | observe event =>
      unfold OverviewRun.after at h
      dsimp only at h
      split at h
      · cases h
      · cases h
        exact hs.observe _
  | execute command =>
      unfold OverviewRun.after at h
      dsimp only at h
      split at h
      · cases h
      · cases h
        exact hs.execute command
  | commandStarted startedAt =>
      unfold OverviewRun.after at h
      dsimp only at h
      split at h
      · rename_i r hrequest
        split at h
        · cases h
        · cases h
          refine ⟨hs.consumed.reframe _ _ _ _, hs.reflects, fun r' hr' => ?_, hs.answers⟩
          cases hr'
          exact ⟨(hs.request r hrequest).later, (hs.request r hrequest).routed⟩
      · cases h
  | commandFailed error =>
      unfold OverviewRun.after at h
      dsimp only at h
      split at h
      · split at h
        · cases h
        · cases h
          exact hs.answer_error _ _
      · cases h
  | giveUp cancelled =>
      unfold OverviewRun.after at h
      dsimp only at h
      split at h
      · split at h
        · cases h
        · split at h <;> · cases h; exact hs.answer_error _ _
      · cases h
  | confirm timedOut =>
      unfold OverviewRun.after at h
      dsimp only at h
      split at h
      · rename_i r hrequest
        split at h
        · rename_i startedAt hstarted
          exact hs.confirm (hs.request r hrequest) hstarted h
        · cases h
      · cases h

theorem OverviewRun.invariant_of_reachable {capacity : Nat}
    (h : (overviewSystem capacity).Reachable s) : s.Invariant := by
  refine h.invariant (fun s hs => ?_) (fun s e s' hs hstep => hs.after hstep)
  rw [show s = .new capacity from hs]
  refine ⟨⟨consistent_overviewEventChannel capacity, Nat.zero_le _, rfl, ?_, fun _ => rfl, ?_⟩,
    NiriOverview.reflects_new, (fun r hr => by cases hr), ?_⟩
  all_goals simp [OverviewRun.new]

/-- Lag is reported exactly when an unread event is gone, and reads give what is unread. -/
structure OverviewRun.Honest (s : OverviewRun) : Prop where
  lag : (tryEvent s.channel s.cursor).1 = .error laggedError ↔
    ∃ e ∈ s.unread, e ∉ s.channel.events
  lag_prepare : ∀ current, (prepareRequest s.channel s.cursor current).1 = .error laggedError ↔
    ∃ e ∈ s.unread, e ∉ s.channel.events
  next : (∀ e ∈ s.unread, e ∈ s.channel.events) →
    (tryEvent s.channel s.cursor).1 = .ok s.unread.head?
  prepare : ∀ current, (∀ e ∈ s.unread, e ∈ s.channel.events) →
    (prepareRequest s.channel s.cursor current).1 =
      .ok (max current s.channel.latestSequence, s.unread)
  /-- A wait goes on while nothing is unread, and ends like an attempt. -/
  waits : ∀ timedOut, nextEvent s.channel s.cursor timedOut = none ↔
    s.unread = [] ∧ timedOut = false
  woken : ∀ timedOut result, nextEvent s.channel s.cursor timedOut = some result →
    result = tryEvent s.channel s.cursor
  /-- A lag error stands for the unread events that are gone and for no other. -/
  rest : (∃ e ∈ s.unread, e ∉ s.channel.events) →
    (s.lagged s.channel.droppedThrough).unread =
      s.unread.filter fun e => decide (e ∈ s.channel.events)

/-- A read of the consumer. -/
def OverviewStep.Reads (step : OverviewStep) : Prop :=
  step = .tryEvent ∨ ∃ timedOut, step = .nextEvent timedOut

/-- What a read of the consumer does: the first unread event, or one lag for those gone. -/
structure OverviewRun.ReadStep (s s' : OverviewRun) : Prop where
  lost : (∃ e ∈ s.unread, e ∉ s.channel.events) →
    s'.lags = s.lags + 1 ∧ s'.seen = s.seen ∧
      s'.skipped = s.skipped ++ s.unread.filter fun e => decide (e ∉ s.channel.events)
  returned : (∀ e ∈ s.unread, e ∈ s.channel.events) →
    s'.lags = s.lags ∧ s'.seen = s.seen ++ s.unread.head?.toList ∧ s'.skipped = s.skipped

theorem OverviewRun.Consumed.readStep {step : OverviewStep} {s' : OverviewRun}
    (hs : s.Consumed) (hstep : step.Reads) (h : s.after step = some s') : s.ReadStep s' := by
  have hread : s' = s.read (nextChannelEvent s.channel s.cursor) := by
    rcases hstep with rfl | ⟨timedOut, rfl⟩
    · cases h
      rfl
    · obtain ⟨result, hnext, rfl⟩ := Option.map_eq_some_iff.mp h
      rw [nextEvent_eq hnext]
  have hlagged : s.cursor < s.channel.droppedThrough ↔ ∃ e ∈ s.unread, e ∉ s.channel.events :=
    hs.channel.lagged_iff s.cursor
  by_cases hlag : s.cursor < s.channel.droppedThrough
  · have hresult : nextChannelEvent s.channel s.cursor =
        (.error laggedError, s.channel.droppedThrough) := if_pos hlag
    rw [hread, hresult]
    refine ⟨fun _ => ⟨rfl, rfl, rfl⟩, fun hall => ?_⟩
    obtain ⟨e, he, hgone⟩ := hlagged.mp hlag
    exact absurd (hall e he) hgone
  · rw [hread, hs.channel.nextChannelEvent hlag]
    refine ⟨fun hgone => absurd (hlagged.mpr hgone) hlag, fun _ => ?_⟩
    rw [OverviewRun.unread]
    cases (Overview.unread s.accepted s.cursor).head? with
    | none => exact ⟨rfl, rfl, rfl⟩
    | some e => exact ⟨rfl, rfl, rfl⟩

theorem OverviewRun.Consumed.honest (hs : s.Consumed) : s.Honest := by
  have hlagged : s.cursor < s.channel.droppedThrough ↔ ∃ e ∈ s.unread, e ∉ s.channel.events :=
    hs.channel.lagged_iff s.cursor
  have hno : (∀ e ∈ s.unread, e ∈ s.channel.events) → ¬ s.cursor < s.channel.droppedThrough := by
    intro hall hlag
    obtain ⟨e, he, hgone⟩ := hlagged.mp hlag
    exact hgone (hall e he)
  have hnext : ¬ s.cursor < s.channel.droppedThrough →
      (nextChannelEvent s.channel s.cursor).1 = .ok s.unread.head? := by
    intro hlag
    rw [hs.channel.nextChannelEvent hlag, OverviewRun.unread]
    cases (Overview.unread s.accepted s.cursor).head? <;> rfl
  have hprepare : ∀ current, ¬ s.cursor < s.channel.droppedThrough →
      (prepareRequest s.channel s.cursor current).1 =
        .ok (max current s.channel.latestSequence, s.unread) := by
    intro current hlag
    rw [hs.channel.prepareRequest hlag, OverviewRun.unread]
  refine ⟨?_, fun current => ?_, fun hall => hnext (hno hall),
    fun current hall => hprepare current (hno hall), ?_,
    fun timedOut result hresult => nextEvent_eq hresult, fun hgone => ?_⟩
  · rw [← hlagged]
    by_cases hlag : s.cursor < s.channel.droppedThrough
    · simp [tryEvent, nextChannelEvent, hlag]
    · simp [tryEvent, hnext hlag, hlag]
  · rw [← hlagged]
    by_cases hlag : s.cursor < s.channel.droppedThrough
    · simp [prepareRequest, hlag]
    · simp [hprepare current hlag, hlag]
  · have hdropped := hs.channel.droppedThrough_le
    have hunread : s.unread = [] ↔ s.channel.latestSequence ≤ s.cursor := by
      rw [OverviewRun.unread, Overview.unread, List.filter_eq_nil_iff]
      constructor
      · intro hnone
        rw [hs.channel.latest]
        rcases List.eq_nil_or_concat' s.accepted with hempty | ⟨front, last, haccepted⟩
        · simp [hempty, lastSequence]
        · rw [haccepted, lastSequence_concat]
          simpa using hnone last (by simp [haccepted])
      · intro hle e he
        have := hs.channel.le_latest e he
        simp
        omega
    intro timedOut
    have hwaits : Overview.waits s.channel s.cursor = true ↔
        s.channel.latestSequence ≤ s.cursor := by
      rw [Overview.waits, Bool.and_eq_true, decide_eq_true_iff, decide_eq_true_iff]
      omega
    rw [hunread, ← hwaits, nextEvent]
    cases Overview.waits s.channel s.cursor <;> cases timedOut <;> simp
  · have hlag := hlagged.mpr hgone
    change Overview.unread s.accepted s.channel.droppedThrough = _
    rw [OverviewRun.unread, Overview.unread, Overview.unread, List.filter_filter]
    refine List.filter_congr fun e he => ?_
    rw [Bool.eq_iff_iff, Bool.and_eq_true, decide_eq_true_iff, decide_eq_true_iff,
      decide_eq_true_iff, hs.channel.retained he]
    omega

/--
Accepted events have increasing sequence numbers; the events read are among
them, each once and in order, and an event is unread, read or skipped by a lag
error, which stands for dropped events only.  Without a lag error nothing is
skipped.  A command that succeeds returns an event that was read, that shows the
state the command asked for, that is numbered above everything published before
the command was prepared, and that was observed after the command was started.
-/
theorem overview_confirmed {capacity : Nat} (h : (overviewSystem capacity).Reachable s) :
    Increasing s.accepted ∧
    s.seen.Sublist s.accepted ∧
    (∀ e ∈ s.accepted, e ∈ s.seen ∨ e ∈ s.skipped ∨ e ∈ s.unread) ∧
    (∀ e ∈ s.seen, e ∉ s.skipped ∧ e ∉ s.unread) ∧
    (∀ e ∈ s.skipped, e ∈ s.accepted ∧ e ∉ s.channel.events ∧ e ∉ s.unread) ∧
    (s.lags = 0 → s.seen ++ s.unread = s.accepted) ∧
    s.Honest ∧
    (∀ step s', step.Reads → s.after step = some s' → s.ReadStep s') ∧
    ∀ answer ∈ s.answers, ∀ event, answer.result = .ok event →
      (∀ e ∈ answer.before, e.sequence < event.sequence) ∧
      Shows (outputInFocus answer.known) answer.command event ∧
      ∃ observed ∈ s.seen, observed.event = event ∧ observed ∉ answer.before ∧
        ∃ startedAt, answer.startedAt = some startedAt ∧ startedAt ≤ observed.observedAt := by
  have hs := OverviewRun.invariant_of_reachable h
  have hc := hs.consumed
  have hsplit : between s.accepted 0 s.cursor ++ s.unread = s.accepted := by
    rw [OverviewRun.unread, ← hc.channel.between_latest,
      between_append hc.channel.increasing (Nat.zero_le _) hc.cursor_le]
    refine List.filter_eq_self.mpr fun e he => ?_
    simpa using ⟨hc.channel.positive e he, hc.channel.le_latest e he⟩
  refine ⟨hc.channel.increasing, ?_, fun e he => ?_, fun e he => ?_, fun e he => ?_, fun hlags => ?_,
    hc.honest, fun step s' hreads hstep => hc.readStep hreads hstep,
    fun answer hmem event hok => ?_⟩
  · rw [hc.seen]
    exact List.filter_sublist.trans List.filter_sublist
  · rw [← hsplit] at he
    rcases List.mem_append.mp he with he | he
    · by_cases hskipped : e ∈ s.skipped
      · exact Or.inr (Or.inl hskipped)
      · refine Or.inl ?_
        rw [hc.seen]
        exact List.mem_filter.mpr ⟨he, by simpa using hskipped⟩
    · exact Or.inr (Or.inr he)
  · rw [hc.seen] at he
    obtain ⟨hin, hfresh⟩ := List.mem_filter.mp he
    have hle := (mem_between.mp hin).2.2
    refine ⟨by simpa using hfresh, fun hunread => ?_⟩
    have := (mem_unread.mp hunread).2
    omega
  · obtain ⟨hmem, hcursor, hdropped⟩ := hc.skipped e he
    refine ⟨hmem, fun hin => ?_, fun hunread => ?_⟩
    · have := (hc.channel.retained hmem).mp hin
      omega
    · have := (mem_unread.mp hunread).2
      omega
  · have hseen : s.seen = between s.accepted 0 s.cursor := by
      rw [hc.seen, hc.calm hlags]
      simp
    rw [hseen, hsplit]
  · obtain ⟨hlater, hshows, observed, hread, hevent, hstarted⟩ :=
      hs.answers answer hmem event hok
    refine ⟨hlater, hshows, observed, hread, hevent, fun hbefore => ?_, hstarted⟩
    have hlt := hlater observed hbefore
    rw [← hevent] at hlt
    exact absurd hlt (lt_irrefl _)

end Requests

section Sample

def focused (sequence observedAt : Nat) : ObservedOverviewEvent :=
  ⟨.focusChanged "DP-1" (some 42) 3 sequence, observedAt⟩

/-- The focus event of before the command is not taken for its confirmation. -/
def sampleSteps : List OverviewStep :=
  [.publish (focused 1 10), .execute (.focusWindow 42), .commandStarted 20,
    .publish (focused 2 30), .confirm false]

theorem overview_confirmed_sample :
    ∃ s : OverviewRun, System.replay OverviewRun.after (.new 1) sampleSteps = some s ∧
      s.answers.map (·.result.toOption) = [some (focused 2 30).event] ∧
      s.seen ++ s.unread = s.accepted := by
  have hrun : ((System.replay OverviewRun.after (.new 1) sampleSteps).any fun s =>
      s.lags = 0 ∧ s.answers.map (·.result.toOption) = [some (focused 2 30).event]) = true := by
    decide
  obtain ⟨s, hs, hend⟩ := (Option.any_eq_true _ _).mp hrun
  obtain ⟨hlags, hanswers⟩ := of_decide_eq_true hend
  have hreachable : (overviewSystem 1).Reachable s := System.reachable_replay (.initial rfl) hs
  exact ⟨s, hs, hanswers, (overview_confirmed hreachable).2.2.2.2.2.1 hlags⟩

end Sample

end Overview
end SleepySession
