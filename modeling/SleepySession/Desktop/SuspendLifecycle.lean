import SleepySession.Lib.Run
import SleepySession.Desktop.CommandRules

/-!
# The suspend lifecycle

A sleep request checks the capability, takes a delay inhibitor from logind and
a hold from the locker, invokes the sleep and waits for `PrepareForSleep(true)`
and then `PrepareForSleep(false)`.  Signals reach a queue of four places
whenever the connection is processed.  The history of a request keeps the
answers it got and the signals it took from the queue.  Up to these, its stage
determines its history, so what may happen when is read off the histories.
-/

namespace SleepySession
namespace Suspend

inductive SleepErrorKind where
  | unsupported
  | permissionDenied
  | wouldBlock
  | invalidData
  | invalidInput
  | unexpectedEof
  | brokenPipe
  | timedOut
  | other
  deriving DecidableEq, Repr

def validateSleepCapability (value : String) : Except SleepErrorKind Unit :=
  if value = "yes" ∨ value = "challenge" then .ok ()
  else if value = "na" then .error .unsupported
  else if value = "no" then .error .permissionDenied
  else if value = "inhibited" ∨ value = "inhibitor-blocked" ∨
      value = "challenge-inhibitor-blocked" then .error .wouldBlock
  else .error .invalidData

/-- What the locker and the system answer to `acquire_suspend_hold_at`. -/
structure LockerAnswers where
  validatePath : Except SleepErrorKind Unit
  connect : Except SleepErrorKind Unit
  write : Except SleepErrorKind Unit
  flush : Except SleepErrorKind Unit
  /-- At most eight bytes, up to the end of the stream. -/
  reply : Except SleepErrorKind String
  /-- Whether `poll` reports a hang-up. -/
  poll : Except SleepErrorKind Bool
  intoStd : Except SleepErrorKind Unit
  deriving Repr

def lockedReply : String :=
  "locked\n"

def acquireSuspendHoldAt (a : LockerAnswers) : Except SleepErrorKind Unit := do
  a.validatePath
  a.connect
  a.write
  a.flush
  let reply ← a.reply
  if reply ≠ lockedReply then throw .invalidData
  let hangup ← a.poll
  if hangup then throw .unexpectedEof
  a.intoStd

/-- The locker acknowledged the hold and has not hung up. -/
structure LockerAnswers.Acknowledged (a : LockerAnswers) : Prop where
  valid : a.validatePath = .ok ()
  connected : a.connect = .ok ()
  written : a.write = .ok () ∧ a.flush = .ok ()
  locked : a.reply = .ok lockedReply
  present : a.poll = .ok false
  kept : a.intoStd = .ok ()

/-- Why the hold had to be retained before the inhibitor was released. -/
inductive FailedStep where
  | invocation
  | prepareWait
  deriving DecidableEq, Repr

/-- How a request ended. -/
inductive SuspendEnding where
  | incapable
  | uninhibited
  | refused
  | failed (step : FailedStep)
  | resumeFailed
  | completed
  deriving DecidableEq, Repr

inductive SuspendStage where
  | checkCapability
  | acquireInhibitor
  | acquireHold
  /-- The hold was refused; the inhibitor is released next. -/
  | holdRefused
  | invoke
  | waitPrepare
  /-- The hold is retained next, then the inhibitor is released. -/
  | failing (step : FailedStep)
  | failedClosed (step : FailedStep)
  /-- `PrepareForSleep(true)` was observed; the inhibitor is released next. -/
  | prepared
  | waitResume
  | resumeFailing
  | resumed
  | returned (ending : SuspendEnding)
  deriving DecidableEq, Repr

/-- An answer of the system, a signal that was taken, or what became of a resource. -/
inductive SuspendAction where
  | capability (answer : Except SleepErrorKind String)
  | inhibit (answer : Except SleepErrorKind Unit)
  | hold (answers : LockerAnswers)
  | invoke (answer : Except SleepErrorKind Unit)
  /-- A wait ended; the first of the queue is what it took. -/
  | waited (taken : Option Bool) (failure : Option SleepErrorKind)
  | inhibitorReleased
  | holdReleased
  | holdRetained
  deriving Repr

structure SuspendRun where
  stage : SuspendStage
  /-- The signals received and not yet taken. -/
  queue : List Bool
  /-- The sending half of the signal channel exists. -/
  connected : Bool
  /-- The newest action comes first. -/
  history : List SuspendAction

inductive SuspendEvent where
  /-- logind's signal is received while the connection is processed. -/
  | signal (preparing : Bool)
  | disconnect
  | capability (answer : Except SleepErrorKind String)
  | inhibit (answer : Except SleepErrorKind Unit)
  | hold (answers : LockerAnswers)
  | invoke (answer : Except SleepErrorKind Unit)
  /-- A round of `wait_for_sleep_transition`; the deadline or the connection may fail it. -/
  | poll (failure : Option SleepErrorKind)
  | dispose

/-- One look into the signal queue. -/
def receiveTransition
    (queue : List Bool) (connected expected : Bool) (failure : Option SleepErrorKind) :
    Option (Except SleepErrorKind Unit) :=
  match queue with
  | observed :: _ => some (if observed = expected then .ok () else .error .invalidData)
  | [] => if connected then failure.map .error else some (.error .brokenPipe)

def SuspendRun.advance
    (s : SuspendRun) (stage : SuspendStage) (action : SuspendAction) : SuspendRun :=
  { s with stage := stage, history := action :: s.history }

/-- A round of waiting: a transition was observed, the waiting failed, or it goes on. -/
def SuspendRun.wait
    (s : SuspendRun) (expected : Bool) (failure : Option SleepErrorKind)
    (success failed : SuspendStage) : SuspendRun :=
  match receiveTransition s.queue s.connected expected failure with
  | some (.ok ()) =>
      { s.advance success (.waited s.queue.head? none) with queue := s.queue.tail }
  | some (.error kind) =>
      { s.advance failed (.waited s.queue.head? (some kind)) with queue := s.queue.tail }
  | none => s

/-- One step of `execute_suspend_lifecycle`. -/
def SuspendRun.after (s : SuspendRun) : SuspendEvent → Option SuspendRun
  | .signal preparing =>
      if s.connected then
        -- `try_send` drops a signal that finds the channel full
        some (if s.queue.length < 4 then { s with queue := s.queue ++ [preparing] } else s)
      else none
  | .disconnect => some { s with connected := false }
  | .capability answer =>
      match s.stage, answer.bind validateSleepCapability with
      | .checkCapability, .ok () => some (s.advance .acquireInhibitor (.capability answer))
      | .checkCapability, .error _ =>
          some (s.advance (.returned .incapable) (.capability answer))
      | _, _ => none
  | .inhibit answer =>
      match s.stage, answer with
      | .acquireInhibitor, .ok () => some (s.advance .acquireHold (.inhibit answer))
      | .acquireInhibitor, .error _ =>
          some (s.advance (.returned .uninhibited) (.inhibit answer))
      | _, _ => none
  | .hold answers =>
      match s.stage, acquireSuspendHoldAt answers with
      | .acquireHold, .ok () => some (s.advance .invoke (.hold answers))
      | .acquireHold, .error _ => some (s.advance .holdRefused (.hold answers))
      | _, _ => none
  | .invoke answer =>
      match s.stage, answer with
      | .invoke, .ok () => some (s.advance .waitPrepare (.invoke answer))
      | .invoke, .error _ => some (s.advance (.failing .invocation) (.invoke answer))
      | _, _ => none
  | .poll failure =>
      match s.stage with
      | .waitPrepare => some (s.wait true failure .prepared (.failing .prepareWait))
      | .waitResume => some (s.wait false failure .resumed .resumeFailing)
      | _ => none
  | .dispose =>
      match s.stage with
      | .holdRefused => some (s.advance (.returned .refused) .inhibitorReleased)
      | .failing step => some (s.advance (.failedClosed step) .holdRetained)
      | .failedClosed step => some (s.advance (.returned (.failed step)) .inhibitorReleased)
      | .prepared => some (s.advance .waitResume .inhibitorReleased)
      | .resumeFailing => some (s.advance (.returned .resumeFailed) .holdRetained)
      | .resumed => some (s.advance (.returned .completed) .holdReleased)
      | _ => none

/-- A request before its first step; signals may be waiting already. -/
def suspendSystem : System SuspendRun SuspendEvent :=
  .ofStep (fun s => s.stage = .checkCapability ∧ s.history = []) (fun s e => s.after e)

section Histories

/-- What the system has answered a request, as far as its stage leaves it open. -/
structure Answered where
  capability : Except SleepErrorKind String
  inhibit : SleepErrorKind
  locker : LockerAnswers
  invoke : SleepErrorKind
  prepare : Option Bool × SleepErrorKind
  resume : Option Bool × SleepErrorKind

def held (a : Answered) : List SuspendAction :=
  [.hold a.locker, .inhibit (.ok ()), .capability a.capability]

def invoked (a : Answered) : List SuspendAction :=
  .invoke (.ok ()) :: held a

def failedPath (a : Answered) : FailedStep → List SuspendAction
  | .invocation => .invoke (.error a.invoke) :: held a
  | .prepareWait => .waited a.prepare.1 (some a.prepare.2) :: invoked a

def preparedPath (a : Answered) : List SuspendAction :=
  .inhibitorReleased :: .waited (some true) none :: invoked a

def resumeFailedPath (a : Answered) : List SuspendAction :=
  .waited a.resume.1 (some a.resume.2) :: preparedPath a

/-- The history of a request at each of its stages. -/
def SuspendStage.path (a : Answered) : SuspendStage → List SuspendAction
  | .checkCapability => []
  | .acquireInhibitor => [.capability a.capability]
  | .acquireHold => [.inhibit (.ok ()), .capability a.capability]
  | .holdRefused => held a
  | .invoke => held a
  | .waitPrepare => invoked a
  | .failing step => failedPath a step
  | .failedClosed step => .holdRetained :: failedPath a step
  | .prepared => .waited (some true) none :: invoked a
  | .waitResume => preparedPath a
  | .resumeFailing => resumeFailedPath a
  | .resumed => .waited (some false) none :: preparedPath a
  | .returned .incapable => [.capability a.capability]
  | .returned .uninhibited => [.inhibit (.error a.inhibit), .capability a.capability]
  | .returned .refused => .inhibitorReleased :: held a
  | .returned (.failed step) => .inhibitorReleased :: .holdRetained :: failedPath a step
  | .returned .resumeFailed => .holdRetained :: resumeFailedPath a
  | .returned .completed => .holdReleased :: .waited (some false) none :: preparedPath a

/-- Whether a request at this stage was refused the hold, or has got it. -/
def SuspendStage.holding : SuspendStage → Option Bool
  | .checkCapability => none
  | .acquireInhibitor => none
  | .acquireHold => none
  | .holdRefused => some false
  | .returned .incapable => none
  | .returned .uninhibited => none
  | .returned .refused => some false
  | _ => some true

/-- The answers have led a request to its stage. -/
structure Leads (a : Answered) (stage : SuspendStage) : Prop where
  locker : ∀ got, stage.holding = some got → (got = true ↔ a.locker.Acknowledged)
  resume : a.resume.1 ≠ some false

/-- The history is that of the stage, for some answers. -/
def SuspendRun.Traced (s : SuspendRun) : Prop :=
  ∃ a, Leads a s.stage ∧ s.history = s.stage.path a

/-- The hold is acquired exactly with the locker's acknowledgement. -/
theorem acquireSuspendHoldAt_eq_ok_iff
    {a : LockerAnswers} :
    acquireSuspendHoldAt a = .ok () ↔ a.Acknowledged := by
  unfold acquireSuspendHoldAt
  rw [Checks.check_bind_eq_ok_iff, Checks.check_bind_eq_ok_iff, Checks.check_bind_eq_ok_iff,
    Checks.check_bind_eq_ok_iff, Checks.bind_eq_ok_iff]
  constructor
  · rintro ⟨hvalid, hconnected, hwritten, hflushed, reply, hreply, h⟩
    by_cases hlocked : reply = lockedReply
    · simp only [hlocked, ne_eq, not_true_eq_false, if_false] at h
      obtain ⟨hangup, hpoll, h⟩ := Checks.bind_eq_ok_iff.mp h
      cases hangup with
      | true => cases h
      | false => exact ⟨hvalid, hconnected, ⟨hwritten, hflushed⟩, by rw [hreply, hlocked], hpoll, h⟩
    · simp only [hlocked, ne_eq, not_false_eq_true, if_true] at h
      cases h
  · intro h
    refine ⟨h.valid, h.connected, h.written.1, h.written.2, lockedReply, h.locked, ?_⟩
    simp only [ne_eq, not_true_eq_false, if_false]
    exact Checks.bind_eq_ok_iff.mpr ⟨false, h.present, h.kept⟩

/-- A wait that succeeds has taken the signal it waits for, and no other ends it so. -/
theorem receiveTransition_eq_ok
    {queue : List Bool} {connected expected : Bool} {failure : Option SleepErrorKind}
    (h : receiveTransition queue connected expected failure = some (.ok ())) :
    queue.head? = some expected := by
  cases queue with
  | nil => cases connected <;> cases failure <;> cases h
  | cons observed queue =>
      by_cases hobserved : observed = expected
      · rw [hobserved]
        rfl
      · simp [receiveTransition, hobserved] at h

theorem receiveTransition_eq_error
    {queue : List Bool} {connected expected : Bool} {failure : Option SleepErrorKind}
    {kind : SleepErrorKind}
    (h : receiveTransition queue connected expected failure = some (.error kind)) :
    queue.head? ≠ some expected := by
  cases queue with
  | nil => exact nofun
  | cons observed queue =>
      rintro hobserved
      cases hobserved
      simp [receiveTransition] at h

/-- An action is added to the history and the stage follows it. -/
theorem SuspendRun.Traced.advance
    {s : SuspendRun} {a : Answered} {stage : SuspendStage} {action : SuspendAction}
    (h : Leads a stage)
    (hpath : stage.path a = action :: s.history) :
    (s.advance stage action).Traced :=
  ⟨a, h, hpath.symm⟩

theorem SuspendRun.wait_traced
    {s : SuspendRun} {expected : Bool} {failure : Option SleepErrorKind}
    {success failed : SuspendStage}
    (hs : s.Traced)
    (hsuccess : ∃ a, Leads a success ∧
      success.path a = .waited (some expected) none :: s.history)
    (hfailed : ∀ kind, s.queue.head? ≠ some expected → ∃ a, Leads a failed ∧
      failed.path a = .waited s.queue.head? (some kind) :: s.history) :
    (s.wait expected failure success failed).Traced := by
  unfold SuspendRun.wait
  split
  · rename_i hreceive
    obtain ⟨a, hleads, hpath⟩ := hsuccess
    rw [receiveTransition_eq_ok hreceive]
    exact ⟨a, hleads, hpath.symm⟩
  · rename_i kind hreceive
    obtain ⟨a, hleads, hpath⟩ := hfailed kind (receiveTransition_eq_error hreceive)
    exact ⟨a, hleads, hpath.symm⟩
  · exact hs

theorem SuspendRun.after_traced
    {s s' : SuspendRun} {e : SuspendEvent}
    (hs : s.Traced)
    (h : s.after e = some s') :
    s'.Traced := by
  obtain ⟨a, hleads, hhistory⟩ := hs
  cases e with
  | signal preparing =>
      unfold SuspendRun.after at h
      dsimp only at h
      split at h
      · cases h
        split <;> exact ⟨a, hleads, hhistory⟩
      · cases h
  | disconnect =>
      cases h
      exact ⟨a, hleads, hhistory⟩
  | capability answer =>
      unfold SuspendRun.after at h
      dsimp only at h
      split at h
      all_goals cases h
      all_goals rename_i hstage _
      all_goals
        exact SuspendRun.Traced.advance (a := { a with capability := answer })
          ⟨nofun, hleads.resume⟩ (by rw [hhistory, hstage]; rfl)
  | inhibit answer =>
      unfold SuspendRun.after at h
      dsimp only at h
      split at h
      · cases h
        rename_i hstage
        exact SuspendRun.Traced.advance (a := a) ⟨nofun, hleads.resume⟩
          (by rw [hhistory, hstage]; rfl)
      · cases h
        rename_i kind hstage
        exact SuspendRun.Traced.advance (a := { a with inhibit := kind })
          ⟨nofun, hleads.resume⟩ (by rw [hhistory, hstage]; rfl)
      · cases h
  | hold answers =>
      unfold SuspendRun.after at h
      dsimp only at h
      split at h
      · cases h
        rename_i hstage hok
        refine SuspendRun.Traced.advance (a := { a with locker := answers }) ⟨?_, hleads.resume⟩
          (by rw [hhistory, hstage]; rfl)
        rintro got ⟨⟩
        simpa using acquireSuspendHoldAt_eq_ok_iff.mp hok
      · cases h
        rename_i kind hstage herror
        refine SuspendRun.Traced.advance (a := { a with locker := answers }) ⟨?_, hleads.resume⟩
          (by rw [hhistory, hstage]; rfl)
        rintro got ⟨⟩
        simp [← acquireSuspendHoldAt_eq_ok_iff, herror]
      · cases h
  | invoke answer =>
      unfold SuspendRun.after at h
      dsimp only at h
      split at h
      · cases h
        rename_i hstage
        rw [hstage] at hleads
        exact SuspendRun.Traced.advance (a := a) ⟨hleads.locker, hleads.resume⟩
          (by rw [hhistory, hstage]; rfl)
      · cases h
        rename_i kind hstage
        rw [hstage] at hleads
        exact SuspendRun.Traced.advance (a := { a with invoke := kind })
          ⟨hleads.locker, hleads.resume⟩ (by rw [hhistory, hstage]; rfl)
      · cases h
  | poll failure =>
      unfold SuspendRun.after at h
      dsimp only at h
      split at h
      · rename_i hstage
        cases h
        rw [hstage] at hleads hhistory
        refine SuspendRun.wait_traced ⟨a, by rwa [hstage], by rwa [hstage]⟩
          ⟨a, ⟨hleads.locker, hleads.resume⟩, by rw [hhistory]; rfl⟩ fun kind _ => ?_
        exact ⟨{ a with prepare := (s.queue.head?, kind) }, ⟨hleads.locker, hleads.resume⟩,
          by rw [hhistory]; rfl⟩
      · rename_i hstage
        cases h
        rw [hstage] at hleads hhistory
        refine SuspendRun.wait_traced ⟨a, by rwa [hstage], by rwa [hstage]⟩
          ⟨a, ⟨hleads.locker, hleads.resume⟩, by rw [hhistory]; rfl⟩ fun kind htaken => ?_
        exact ⟨{ a with resume := (s.queue.head?, kind) }, ⟨hleads.locker, htaken⟩,
          by rw [hhistory]; rfl⟩
      · cases h
  | dispose =>
      unfold SuspendRun.after at h
      dsimp only at h
      split at h
      all_goals cases h
      all_goals rename_i hstage
      all_goals rw [hstage] at hleads hhistory
      all_goals
        exact SuspendRun.Traced.advance (a := a) ⟨hleads.locker, hleads.resume⟩
          (by rw [hhistory]; rfl)

theorem SuspendRun.traced_of_reachable
    {s : SuspendRun} (h : suspendSystem.Reachable s) :
    s.Traced := by
  refine h.invariant (I := SuspendRun.Traced) (fun s hs => ?_) (fun s e s' hs hstep => ?_)
  · refine ⟨⟨.ok "", .other, ⟨.ok (), .ok (), .ok (), .ok (), .ok "", .ok false, .ok ()⟩, .other,
      (none, .other), (none, .other)⟩, ⟨?_, nofun⟩, ?_⟩
    · rw [hs.1]
      exact nofun
    · rw [hs.1, hs.2]
      rfl
  · exact SuspendRun.after_traced (e := e) hs hstep

end Histories

section Disposal

def InhibitorHeld (history : List SuspendAction) : Prop :=
  .inhibit (.ok ()) ∈ history ∧ .inhibitorReleased ∉ history

def HoldAcquired (history : List SuspendAction) : Prop :=
  ∃ answers, .hold answers ∈ history ∧ answers.Acknowledged

/-- The hold was acquired with the locker's acknowledgement and is still in hand. -/
def HoldHeld (history : List SuspendAction) : Prop :=
  HoldAcquired history ∧ .holdReleased ∉ history ∧ .holdRetained ∉ history

/-- A wait has taken the signal `PrepareForSleep(preparing)`. -/
def Observed (preparing : Bool) (history : List SuspendAction) : Prop :=
  ∃ failure, .waited (some preparing) failure ∈ history

def WaitFailed (history : List SuspendAction) : Prop :=
  ∃ taken kind, .waited taken (some kind) ∈ history

/-- `PrepareForSleep(true)` and later `PrepareForSleep(false)` were observed. -/
def ObservedInOrder : List SuspendAction → Prop
  | [] => False
  | .waited (some false) _ :: earlier => Observed true earlier
  | _ :: earlier => ObservedInOrder earlier

/-- What an action must find before it. -/
def Allowed : SuspendAction → List SuspendAction → Prop
  | .invoke _, earlier => InhibitorHeld earlier ∧ HoldHeld earlier
  | .inhibitorReleased, earlier =>
      InhibitorHeld earlier ∧ (∃ answers, .hold answers ∈ earlier) ∧
        (.invoke (.ok ()) ∈ earlier → Observed true earlier ∨ WaitFailed earlier)
  | .holdReleased, earlier => HoldHeld earlier ∧ ObservedInOrder earlier
  | .holdRetained, earlier => HoldHeld earlier ∧ ¬ ObservedInOrder earlier
  | .hold _, earlier => ∀ answers, .hold answers ∉ earlier
  | .inhibit _, earlier => ∀ answer, .inhibit answer ∉ earlier
  | _, _ => True

/-- Every action of a history was allowed when it happened. -/
def Guarded : List SuspendAction → Prop
  | [] => True
  | action :: earlier => Allowed action earlier ∧ Guarded earlier

/-- What a finished request has done with its two resources. -/
structure Disposed (history : List SuspendAction) : Prop where
  inhibitor : .inhibit (.ok ()) ∈ history → .inhibitorReleased ∈ history
  released : .holdReleased ∈ history → ObservedInOrder history
  retained : HoldAcquired history → .holdReleased ∉ history → .holdRetained ∈ history
  neither : ¬ HoldAcquired history → ¬ InhibitorHeld history ∧ ¬ HoldHeld history

section Paths

variable {a : Answered}

theorem holdAcquired_cons
    {action : SuspendAction} {history : List SuspendAction}
    (h : HoldAcquired history) :
    HoldAcquired (action :: history) := by
  obtain ⟨answers, hmem, hacknowledged⟩ := h
  exact ⟨answers, List.mem_cons_of_mem _ hmem, hacknowledged⟩

theorem holdAcquired_held (h : a.locker.Acknowledged) : HoldAcquired (held a) :=
  ⟨a.locker, List.mem_cons_self, h⟩

theorem holdAcquired_failedPath
    (h : a.locker.Acknowledged) (step : FailedStep) :
    HoldAcquired (failedPath a step) := by
  cases step with
  | invocation => exact holdAcquired_cons (holdAcquired_held h)
  | prepareWait => exact holdAcquired_cons (holdAcquired_cons (holdAcquired_held h))

theorem holdAcquired_preparedPath
    (h : a.locker.Acknowledged) :
    HoldAcquired (preparedPath a) :=
  holdAcquired_cons (holdAcquired_cons (holdAcquired_cons (holdAcquired_held h)))

theorem guarded_held : Guarded (held a) := by
  simp [held, Guarded, Allowed]

theorem guarded_invoke
    (h : a.locker.Acknowledged) (answer : Except SleepErrorKind Unit) :
    Guarded (.invoke answer :: held a) := by
  refine ⟨⟨?_, holdAcquired_held h, ?_⟩, guarded_held⟩
  · simp [InhibitorHeld, held]
  · simp [held]

theorem guarded_failedPath
    (h : a.locker.Acknowledged) (step : FailedStep) :
    Guarded (failedPath a step) := by
  cases step with
  | invocation => exact guarded_invoke h _
  | prepareWait => exact ⟨trivial, guarded_invoke h _⟩

theorem guarded_retained
    (h : a.locker.Acknowledged) (step : FailedStep) :
    Guarded (.holdRetained :: failedPath a step) := by
  refine ⟨⟨⟨holdAcquired_failedPath h step, ?_⟩, ?_⟩, guarded_failedPath h step⟩
  · cases step <;> simp [failedPath, invoked, held]
  · rcases a with ⟨_, _, _, _, ⟨_ | _ | _, _⟩, _⟩ <;> cases step <;>
      simp [failedPath, ObservedInOrder, Observed, invoked, held]

theorem guarded_preparedPath (h : a.locker.Acknowledged) : Guarded (preparedPath a) := by
  refine ⟨?_, trivial, guarded_invoke h _⟩
  simp [Allowed, InhibitorHeld, Observed, invoked, held]

/-- The resume was not observed, so the hold is retained. -/
theorem guarded_resumeFailed
    (h : a.locker.Acknowledged) (hresume : a.resume.1 ≠ some false) :
    Guarded (.holdRetained :: resumeFailedPath a) := by
  refine ⟨⟨⟨holdAcquired_cons (holdAcquired_preparedPath h), ?_⟩, ?_⟩, trivial,
    guarded_preparedPath h⟩
  · simp [resumeFailedPath, preparedPath, invoked, held]
  · rcases a with ⟨_, _, _, _, _, ⟨_ | _ | _, _⟩⟩
    · simp [resumeFailedPath, preparedPath, invoked, held, ObservedInOrder]
    · exact absurd rfl hresume
    · simp [resumeFailedPath, preparedPath, invoked, held, ObservedInOrder]

theorem guarded_path
    {stage : SuspendStage}
    (h : Leads a stage) :
    Guarded (stage.path a) := by
  have hgot : stage.holding = some true → a.locker.Acknowledged :=
    fun hholding => (h.locker true hholding).mp rfl
  cases stage with
  | checkCapability => trivial
  | acquireInhibitor => exact ⟨trivial, trivial⟩
  | acquireHold => simp [SuspendStage.path, Guarded, Allowed]
  | holdRefused => exact guarded_held
  | invoke => exact guarded_held
  | waitPrepare => exact guarded_invoke (hgot rfl) _
  | failing step => exact guarded_failedPath (hgot rfl) step
  | failedClosed step => exact guarded_retained (hgot rfl) step
  | prepared => exact ⟨trivial, guarded_invoke (hgot rfl) _⟩
  | waitResume => exact guarded_preparedPath (hgot rfl)
  | resumeFailing => exact ⟨trivial, guarded_preparedPath (hgot rfl)⟩
  | resumed => exact ⟨trivial, guarded_preparedPath (hgot rfl)⟩
  | returned ending =>
      cases ending with
      | incapable => exact ⟨trivial, trivial⟩
      | uninhibited => simp [SuspendStage.path, Guarded, Allowed]
      | refused =>
          refine ⟨?_, guarded_held⟩
          simp [Allowed, InhibitorHeld, held]
      | failed step =>
          refine ⟨?_, guarded_retained (hgot rfl) step⟩
          cases step <;> simp [Allowed, InhibitorHeld, WaitFailed, failedPath, invoked, held]
      | resumeFailed => exact guarded_resumeFailed (hgot rfl) h.resume
      | completed =>
          refine ⟨⟨⟨holdAcquired_cons (holdAcquired_preparedPath (hgot rfl)), ?_⟩, ?_⟩, trivial,
            guarded_preparedPath (hgot rfl)⟩
          · simp [preparedPath, invoked, held]
          · simp [ObservedInOrder, Observed, preparedPath]

theorem disposed_path
    {ending : SuspendEnding}
    (h : Leads a (.returned ending)) :
    Disposed (SuspendStage.path a (.returned ending)) := by
  have hgot : (SuspendStage.returned ending).holding = some true → a.locker.Acknowledged :=
    fun hholding => (h.locker true hholding).mp rfl
  cases ending with
  | incapable =>
      constructor <;> simp [SuspendStage.path, InhibitorHeld, HoldHeld, HoldAcquired]
  | uninhibited =>
      constructor <;> simp [SuspendStage.path, InhibitorHeld, HoldHeld, HoldAcquired]
  | refused =>
      have hrefused : ¬ a.locker.Acknowledged := by
        simpa using (h.locker false rfl)
      constructor <;>
        simp [SuspendStage.path, held, InhibitorHeld, HoldHeld, HoldAcquired, hrefused]
  | failed step =>
      have hacquired := @holdAcquired_cons .inhibitorReleased _
        (@holdAcquired_cons .holdRetained _ (holdAcquired_failedPath (hgot rfl) step))
      refine ⟨?_, ?_, ?_, fun hnot => absurd hacquired hnot⟩
      · simp [SuspendStage.path]
      · cases step <;> simp [SuspendStage.path, failedPath, invoked, held]
      · simp [SuspendStage.path]
  | resumeFailed =>
      have hacquired := @holdAcquired_cons .holdRetained _
        (@holdAcquired_cons (.waited a.resume.1 (some a.resume.2)) _
          (holdAcquired_preparedPath (hgot rfl)))
      refine ⟨?_, ?_, ?_, fun hnot => absurd hacquired hnot⟩
      · simp [SuspendStage.path, resumeFailedPath, preparedPath]
      · simp [SuspendStage.path, resumeFailedPath, preparedPath, invoked, held]
      · simp [SuspendStage.path]
  | completed =>
      have hacquired := @holdAcquired_cons .holdReleased _
        (@holdAcquired_cons (.waited (some false) none) _
          (holdAcquired_preparedPath (hgot rfl)))
      refine ⟨?_, ?_, ?_, fun hnot => absurd hacquired hnot⟩
      · simp [SuspendStage.path, preparedPath]
      · simp [SuspendStage.path, ObservedInOrder, Observed, preparedPath]
      · simp [SuspendStage.path]

end Paths

theorem Guarded.allowed
    {later earlier : List SuspendAction} {action : SuspendAction}
    (h : Guarded (later ++ action :: earlier)) :
    Allowed action earlier := by
  induction later with
  | nil => exact h.1
  | cons first later ih => exact ih h.2

/--
Sleep is invoked while the inhibitor and the acknowledged hold are in hand; the
inhibitor is released once, after the locker answered and, if the invocation was
accepted, after the preparation was observed or its wait failed; the hold is
released only after the two signals were observed in order and is retained
otherwise; a request that got no hold ends with neither.
-/
theorem suspend_keeps_lock
    {s : SuspendRun} (h : suspendSystem.Reachable s) :
    (∀ later action earlier, s.history = later ++ action :: earlier →
      Allowed action earlier) ∧
    ∀ ending, s.stage = .returned ending → Disposed s.history := by
  obtain ⟨a, hleads, hpath⟩ := SuspendRun.traced_of_reachable h
  refine ⟨fun later action earlier hsplit => ?_, fun ending hstage => ?_⟩
  · exact @Guarded.allowed later _ _ (by rw [← hsplit, hpath]; exact guarded_path hleads)
  · rw [hstage] at hleads
    rw [hpath, hstage]
    exact disposed_path hleads

/-- A locker that holds and a logind that reports the resume twice. -/
def holdingLocker : LockerAnswers where
  validatePath := .ok ()
  connect := .ok ()
  write := .ok ()
  flush := .ok ()
  reply := .ok lockedReply
  poll := .ok false
  intoStd := .ok ()

def suspendedEvents : List SuspendEvent :=
  [.capability (.ok "yes"), .inhibit (.ok ()), .hold holdingLocker, .invoke (.ok ()), .poll none,
    .signal true, .poll none, .dispose, .poll none, .signal false, .signal false, .poll none,
    .dispose]

theorem suspend_keeps_lock_completed :
    ∃ s : SuspendRun,
      System.replay (fun s e => s.after e)
        { stage := .checkCapability, queue := [], connected := true, history := [] }
        suspendedEvents = some s ∧
      s.stage = .returned .completed ∧ Disposed s.history := by
  have hrun : ((System.replay (fun s e => s.after e)
      { stage := .checkCapability, queue := [], connected := true, history := [] }
      suspendedEvents).any fun s : SuspendRun => decide (s.stage = .returned .completed)) =
        true := by
    decide
  obtain ⟨s, hs, hstage⟩ := (Option.any_eq_true _ _).mp hrun
  have hreachable : suspendSystem.Reachable s :=
    System.reachable_replay (.initial ⟨rfl, rfl⟩) hs
  exact ⟨s, hs, by simpa using hstage,
    (suspend_keeps_lock hreachable).2 .completed (by simpa using hstage)⟩

end Disposal

end Suspend
end SleepySession
