import SleepySession.Sessiond.StartupBarrier

/-!
# The outcome of the startup barrier

The history of a barrier is ordered: the notification comes after all
acknowledgements and before any failure, the outcome is settled once, and a
waiter observes what was settled.  The state of the barrier says how far the
history is, which is what each step needs to extend it.
-/

set_option linter.unusedSectionVars false

namespace SleepySession
namespace Sessiond

section Outcome

variable {ι : Type} [DecidableEq ι]

/-- The outcome that a waiter reports. -/
def outcomeOf (success : Bool) : StartupState :=
  if success then .released else .cancelled

/-- No task has failed, and no handle was dropped that was not handed off. -/
def Unfailed (history : List (StartupAction ι)) : Prop :=
  ∀ c, .failed c ∉ history ∧ .dropped c ∉ history

/-- What each action of a history finds before it. -/
def Ordered (required : List ι) : List (StartupAction ι) → Prop
  | [] => True
  | .ready _ :: earlier => Ordered required earlier
  | .failed _ :: earlier =>
      (.notified true ∈ earlier → .settled .released ∈ earlier) ∧ Ordered required earlier
  | .dropped _ :: earlier =>
      (.notified true ∈ earlier → .settled .released ∈ earlier) ∧ Ordered required earlier
  | .notified _ :: earlier =>
      (∀ c ∈ required, .ready c ∈ earlier) ∧ Unfailed earlier ∧
        (∀ success, .notified success ∉ earlier) ∧ Ordered required earlier
  | .settled state :: earlier =>
      (∀ state, .settled state ∉ earlier) ∧
        (state = .released → .notified true ∈ earlier ∧ Unfailed earlier) ∧
        Ordered required earlier
  | .observed _ success :: earlier =>
      .settled (outcomeOf success) ∈ earlier ∧ Ordered required earlier

/-- How the barrier stands to its history. -/
structure StartupRun.Outcome (s : StartupRun ι) : Prop where
  ordered : Ordered s.required s.history
  pending : s.state = .pending → (∀ c, .failed c ∉ s.history) ∧
    (∀ state, .settled state ∉ s.history) ∧
    ∀ success, .notified success ∈ s.history → s.mutex = some (.notified success)
  /-- A handle that was dropped decides the outcome before anybody else gets the mutex. -/
  dropped : s.state = .pending → ∀ c, .dropped c ∈ s.history → s.mutex = some (.failing c)
  decided : s.state ≠ .pending → .settled s.state ∈ s.history ∧
    (.notified true ∈ s.history → .settled .released ∈ s.history)
  settled : ∀ state, .settled state ∈ s.history → s.state = state
  holder : ∀ success, s.mutex = some (.notified success) →
    s.state = .pending ∧ .notified success ∈ s.history
  waking : ∀ sender, s.mutex = some (.waking sender) → s.state ≠ .pending
  sending : s.sending ≠ none → s.state ≠ .pending
  owner : ∀ success, .notified success ∈ s.history → s.owner ≠ .preparing

theorem Ordered.register
    {required required' : List ι} {history : List (StartupAction ι)}
    (h : Ordered required history)
    (hquiet : ∀ success, .notified success ∉ history) :
    Ordered required' history := by
  induction history with
  | nil => trivial
  | cons action earlier ih =>
      have hrest : ∀ success, .notified success ∉ earlier :=
        fun success hmem => hquiet success (List.mem_cons_of_mem _ hmem)
      cases action with
      | ready c => exact ih h hrest
      | failed c => exact ⟨h.1, ih h.2 hrest⟩
      | dropped c => exact ⟨h.1, ih h.2 hrest⟩
      | notified success => exact absurd List.mem_cons_self (hquiet success)
      | settled state => exact ⟨h.1, h.2.1, ih h.2.2 hrest⟩
      | observed c success => exact ⟨h.1, ih h.2 hrest⟩

/-- The mutex changes hands or the owner moves on; nothing is decided. -/
theorem StartupRun.Outcome.frame
    {s s' : StartupRun ι}
    (hs : s.Outcome)
    (hrequired : s'.required = s.required) (hhistory : s'.history = s.history)
    (hstate : s'.state = s.state)
    (hmutex : s'.mutex = s.mutex ∨
      ∀ success, s.mutex ≠ some (.notified success) ∧ s'.mutex ≠ some (.notified success))
    (hfailing : s.state = .pending → s'.mutex = s.mutex ∨ ∀ c, s.mutex ≠ some (.failing c))
    (hwaking : ∀ sender, s'.mutex = some (.waking sender) → s.mutex = some (.waking sender))
    (hsending : s'.sending ≠ none → s.state ≠ .pending)
    (howner : s'.owner ≠ .preparing ∨ s'.owner = s.owner) :
    s'.Outcome where
  ordered := by rw [hrequired, hhistory]; exact hs.ordered
  pending h := by
    rw [hstate] at h
    obtain ⟨hfailed, hsettled, hnotified⟩ := hs.pending h
    rw [hhistory]
    refine ⟨hfailed, hsettled, fun success hmem => ?_⟩
    have hold := hnotified success hmem
    rcases hmutex with heq | hne
    · rw [heq, hold]
    · exact absurd hold (hne success).1
  dropped h c hmem := by
    rw [hstate] at h
    rw [hhistory] at hmem
    have hold := hs.dropped h c hmem
    rcases hfailing h with heq | hne
    · rw [heq, hold]
    · exact absurd hold (hne c)
  decided h := by
    rw [hstate] at h
    rw [hstate, hhistory]
    exact hs.decided h
  settled state h := by
    rw [hhistory] at h
    rw [hstate]
    exact hs.settled state h
  holder success h := by
    rw [hstate, hhistory]
    rcases hmutex with heq | hne
    · exact hs.holder success (heq ▸ h)
    · exact absurd h (hne success).2
  waking sender h := by
    rw [hstate]
    exact hs.waking sender (hwaking sender h)
  sending h := by
    rw [hstate]
    exact hsending h
  owner success h := by
    rw [hhistory] at h
    rcases howner with hne | heq
    · exact hne
    · rw [heq]
      exact hs.owner success h

/-- An acknowledgement is added. -/
theorem StartupRun.Outcome.ready
    {s : StartupRun ι} (hs : s.Outcome) (c : ι) :
    (s.log (.ready c)).Outcome where
  ordered := hs.ordered
  pending h := by simpa [StartupRun.log] using hs.pending h
  dropped h c' hmem := hs.dropped h c' (by simpa [StartupRun.log] using hmem)
  decided h := by simpa [StartupRun.log] using hs.decided h
  settled state h := hs.settled state (by simpa [StartupRun.log] using h)
  holder success h := by simpa [StartupRun.log] using hs.holder success h
  waking := hs.waking
  sending := hs.sending
  owner success h := hs.owner success (by simpa [StartupRun.log] using h)

/-- A waiter observes the outcome. -/
theorem StartupRun.Outcome.observe
    {s : StartupRun ι}
    (hs : s.Outcome) (c : ι) (success : Bool)
    (hstate : s.state = outcomeOf success) :
    (s.observe c success).Outcome where
  ordered := by
    refine ⟨?_, hs.ordered⟩
    have hdecided : s.state ≠ .pending := by cases success <;> simp [hstate, outcomeOf]
    exact hstate ▸ (hs.decided hdecided).1
  pending h := by simpa [StartupRun.observe, StartupRun.log, StartupRun.setTask] using hs.pending h
  dropped h c' hmem :=
    hs.dropped h c' (by simpa [StartupRun.observe, StartupRun.log, StartupRun.setTask] using hmem)
  decided h := by simpa [StartupRun.observe, StartupRun.log, StartupRun.setTask] using hs.decided h
  settled state h :=
    hs.settled state (by simpa [StartupRun.observe, StartupRun.log, StartupRun.setTask] using h)
  holder success' h := by
    simpa [StartupRun.observe, StartupRun.log, StartupRun.setTask] using hs.holder success' h
  waking := hs.waking
  sending := hs.sending
  owner success' h :=
    hs.owner success' (by simpa [StartupRun.observe, StartupRun.log, StartupRun.setTask] using h)

/-- The transition of `cancel`, `fail` and `notify_and_release`. -/
theorem StartupRun.Outcome.transition
    {s : StartupRun ι}
    (hs : s.Outcome) (state : StartupState) (sender : Option ι)
    (hstate : state ≠ .pending)
    (hnotified : s.state = .pending →
      (state = .released ↔ .notified true ∈ s.history))
    (hholder : ∀ success, s.mutex = some (.notified success) → s.state = .pending) :
    (s.transition state sender).Outcome := by
  unfold StartupRun.transition
  split
  · rename_i hpending
    obtain ⟨hfailed, hsettled, hmutex⟩ := hs.pending hpending
    refine ⟨?_, ?_, ?_, ?_, ?_, ?_, ?_, ?_, ?_⟩
    · refine ⟨hsettled, fun h => ?_, hs.ordered⟩
      have hready := (hnotified hpending).mp h
      refine ⟨hready, fun c => ⟨hfailed c, fun hdropped => ?_⟩⟩
      -- the mutex belongs to the owner, which has sent the notification
      have hfailing := hs.dropped hpending c hdropped
      rw [hmutex true hready] at hfailing
      cases hfailing
    · exact fun h => absurd h hstate
    · exact fun h => absurd h hstate
    · refine fun _ => ⟨List.mem_cons_self, fun h => ?_⟩
      have hmem : .notified true ∈ s.history := by simpa using h
      rw [(hnotified hpending).mpr hmem]
      exact List.mem_cons_self
    · intro state' h
      rcases List.mem_cons.mp h with h | h
      · cases h
        rfl
      · exact absurd h (hsettled state')
    · intro success h
      cases h
    · exact fun _ _ => hstate
    · exact fun _ => hstate
    · exact fun success h => hs.owner success (by simpa using h)
  · rename_i hdecided
    refine hs.frame rfl rfl rfl (Or.inr fun success => ⟨?_, by simp⟩)
      (fun h => absurd h hdecided) (by simp) hs.sending (Or.inr rfl)
    exact fun h => hdecided (hholder success h)

end Outcome

section Tasks

variable {ι : Type} [DecidableEq ι]

/-- The tasks that a list of messages acknowledges. -/
def readies (messages : List (StartupAcknowledgement ι)) : List ι :=
  messages.filterMap fun
    | .ready c => some c
    | .failed _ => none

/-- The wake-up count a waiter compares with. -/
def TaskStage.epoch? : TaskStage → Option Nat
  | .listening epoch => some epoch
  | .parked epoch => some epoch
  | .sleeping epoch => some epoch
  | _ => none

/-- The wake-up count of a waiter that has nothing to do but wait. -/
def TaskStage.asleep? : TaskStage → Option Nat
  | .parked epoch => some epoch
  | .sleeping epoch => some epoch
  | _ => none

/-- The messages the owner has taken, at each of its stages. -/
def StartupRun.CountFits (s : StartupRun ι) : Prop :=
  match s.owner with
  | .preparing => s.consumed = []
  | .receiving count => s.consumed.length = count
  | .acknowledged => s.consumed.length = s.required.length
  | .returned => s.mutex.any (·.ofOwner) = true

/-- How the tasks stand to the channel and to the outcome. -/
structure StartupRun.Tasks (s : StartupRun ι) : Prop where
  required : s.required.Nodup
  registered : ∀ c, c ∈ s.required ↔ s.tasks c ≠ .unregistered
  acknowledged : (readies (s.consumed ++ s.channel)).Nodup
  recorded : ∀ c ∈ readies (s.consumed ++ s.channel),
    c ∈ s.required ∧ .ready c ∈ s.history ∧ s.tasks c ≠ .held
  messages : s.state = .pending → ∀ c, .failed c ∉ s.consumed ++ s.channel
  count : s.state = .pending → s.CountFits
  captured : ∀ c epoch, (s.tasks c).epoch? = some epoch → epoch ≤ s.epoch
  awake : ∀ c epoch, (s.tasks c).asleep? = some epoch → s.state ≠ .pending →
    epoch = s.epoch → ∃ sender, s.mutex = some (.waking sender)

theorem StartupRun.Tasks.setTask
    {s : StartupRun ι}
    (hs : s.Tasks) (c : ι) (stage : TaskStage)
    (hold : s.tasks c ≠ .unregistered)
    (hnew : stage ≠ .unregistered ∧ stage ≠ .held)
    (hcaptured : ∀ epoch, stage.epoch? = some epoch → epoch ≤ s.epoch)
    (hawake : ∀ epoch, stage.asleep? = some epoch → s.state = .pending) :
    (s.setTask c stage).Tasks where
  required := hs.required
  registered c' := by
    by_cases hc : c' = c
    · subst hc
      simpa [StartupRun.setTask, hnew.1] using (hs.registered c').mpr hold
    · simpa [StartupRun.setTask, Function.update_of_ne hc] using hs.registered c'
  acknowledged := hs.acknowledged
  recorded c' h := by
    obtain ⟨hrequired, hready, hheld⟩ := hs.recorded c' h
    refine ⟨hrequired, hready, ?_⟩
    by_cases hc : c' = c
    · subst hc
      simpa [StartupRun.setTask] using hnew.2
    · simpa [StartupRun.setTask, Function.update_of_ne hc] using hheld
  messages := hs.messages
  count := hs.count
  captured c' epoch h := by
    by_cases hc : c' = c
    · subst hc
      exact hcaptured epoch (by simpa [StartupRun.setTask] using h)
    · exact hs.captured c' epoch (by simpa [StartupRun.setTask, Function.update_of_ne hc] using h)
  awake c' epoch h hstate hepoch := by
    by_cases hc : c' = c
    · subst hc
      exact absurd (hawake epoch (by simpa [StartupRun.setTask] using h)) hstate
    · exact hs.awake c' epoch (by simpa [StartupRun.setTask, Function.update_of_ne hc] using h)
        hstate hepoch

/-- More is on record. -/
theorem StartupRun.Tasks.log
    {s : StartupRun ι} (hs : s.Tasks) (action : StartupAction ι) :
    (s.log action).Tasks :=
  { hs with
    recorded := fun c h =>
      let ⟨hrequired, hready, hheld⟩ := hs.recorded c h
      ⟨hrequired, List.mem_cons_of_mem _ hready, hheld⟩ }

/-- The mutex changes hands between transitions, and the owner may move on. -/
theorem StartupRun.Tasks.frame
    {s : StartupRun ι}
    (hs : s.Tasks) (mutex : Option (BlockingHolder ι)) (owner : OwnerStage)
    (hcount : s.state = .pending →
      StartupRun.CountFits { s with mutex := mutex, owner := owner })
    (hawake : ∀ sender, s.mutex = some (.waking sender) → mutex = some (.waking sender)) :
    StartupRun.Tasks { s with mutex := mutex, owner := owner } :=
  { hs with
    count := hcount
    awake := fun c epoch h hstate hepoch =>
      let ⟨sender, hsender⟩ := hs.awake c epoch h hstate hepoch
      ⟨sender, hawake sender hsender⟩ }

theorem StartupRun.Tasks.transition
    {s : StartupRun ι}
    (hs : s.Tasks) (state : StartupState) (sender : Option ι)
    (hstate : state ≠ .pending)
    (hmutex : ∀ sender, s.mutex ≠ some (.waking sender)) :
    (s.transition state sender).Tasks := by
  unfold StartupRun.transition
  split
  · exact { hs with
      recorded := fun c h =>
        let ⟨hrequired, hready, hheld⟩ := hs.recorded c h
        ⟨hrequired, List.mem_cons_of_mem _ hready, hheld⟩
      messages := fun h => absurd h hstate
      count := fun h => absurd h hstate
      awake := fun _ _ _ _ _ => ⟨sender, rfl⟩ }
  · rename_i hdecided
    exact { hs with
      count := fun h => absurd h hdecided
      awake := fun c epoch h hstate hepoch =>
        let ⟨sender, hsender⟩ := hs.awake c epoch h hstate hepoch
        absurd hsender (hmutex sender) }

/-- All required tasks have acknowledged once the owner has counted them. -/
theorem StartupRun.Tasks.all_ready
    {s : StartupRun ι}
    (hs : s.Tasks)
    (hpending : s.state = .pending)
    (hcount : s.consumed.length = s.required.length) :
    ∀ c ∈ s.required, .ready c ∈ s.history := by
  have hmessages := hs.messages hpending
  have hlength : ∀ messages : List (StartupAcknowledgement ι),
      (∀ c, .failed c ∉ messages) → (readies messages).length = messages.length := by
    intro messages
    induction messages with
    | nil => exact fun _ => rfl
    | cons message rest ih =>
        intro h
        have hrest := ih fun c hmem => h c (List.mem_cons_of_mem _ hmem)
        cases message with
        | ready c => simpa [readies] using hrest
        | failed c => exact absurd List.mem_cons_self (h c)
  have hparts : readies (s.consumed ++ s.channel) = readies s.consumed ++ readies s.channel := by
    simp [readies]
  have hnodup : (readies s.consumed).Nodup := by
    have := hs.acknowledged
    rw [hparts] at this
    exact (List.nodup_append.mp this).1
  have hsub : readies s.consumed ⊆ s.required := by
    intro c hc
    exact (hs.recorded c (by rw [hparts]; exact List.mem_append_left _ hc)).1
  have hfull : (readies s.consumed).length = s.required.length := by
    rw [hlength s.consumed fun c hc => hmessages c (List.mem_append_left _ hc), hcount]
  have hperm : (readies s.consumed).Perm s.required :=
    (hnodup.subperm hsub).perm_of_length_le hfull.ge
  intro c hc
  have hmem : c ∈ readies s.consumed := hperm.mem_iff.mpr hc
  exact (hs.recorded c (by rw [hparts]; exact List.mem_append_left _ hmem)).2.1

/-- What holds of the barrier at any time. -/
structure StartupRun.Invariant (s : StartupRun ι) : Prop where
  outcome : s.Outcome
  tasks : s.Tasks
  notifying : s.mutex = some .notifying → s.owner = .acknowledged

end Tasks

section Runs

variable {ι : Type} [DecidableEq ι]

/-- A task moves on without deciding or recording anything. -/
theorem StartupRun.Invariant.setTask
    {s : StartupRun ι}
    (hs : s.Invariant) (c : ι) (stage : TaskStage)
    (hold : s.tasks c ≠ .unregistered)
    (hnew : stage ≠ .unregistered ∧ stage ≠ .held)
    (hcaptured : ∀ epoch, stage.epoch? = some epoch → epoch ≤ s.epoch)
    (hawake : ∀ epoch, stage.asleep? = some epoch → s.state = .pending) :
    (s.setTask c stage).Invariant where
  outcome := { hs.outcome with }
  tasks := hs.tasks.setTask c stage hold hnew hcaptured hawake
  notifying := hs.notifying

/-- The mutex is taken, or given back by a holder that decided nothing. -/
theorem StartupRun.Invariant.withMutex
    {s : StartupRun ι}
    (hs : s.Invariant) (mutex : Option (BlockingHolder ι))
    (hold : s.mutex = none ∨ ∃ c, s.mutex = some (.waiter c))
    (hnew : ∀ sender success, mutex ≠ some (.waking sender) ∧ mutex ≠ some (.notified success))
    (hnotifying : mutex = some .notifying → s.owner = .acknowledged) :
    StartupRun.Invariant { s with mutex := mutex } where
  notifying := hnotifying
  outcome := by
    refine hs.outcome.frame rfl rfl rfl (Or.inr fun success => ⟨?_, (hnew none success).2⟩)
      (fun _ => Or.inr fun c' => ?_) (fun sender h => absurd h (hnew sender true).1)
      hs.outcome.sending (Or.inr rfl)
    · rcases hold with h | ⟨c, h⟩ <;> simp [h]
    · rcases hold with h | ⟨c, h⟩ <;> simp [h]
  tasks := by
    refine hs.tasks.frame mutex s.owner (fun hpending => ?_) (fun sender h => ?_)
    · have hcount := hs.tasks.count hpending
      unfold StartupRun.CountFits at hcount ⊢
      cases howner : s.owner with
      | returned =>
          rw [howner] at hcount
          rcases hold with h | ⟨c, h⟩ <;> simp [h, BlockingHolder.ofOwner] at hcount
      | preparing => simpa [howner] using hcount
      | receiving count => simpa [howner] using hcount
      | acknowledged => simpa [howner] using hcount
    · rcases hold with hold | ⟨c, hold⟩ <;> rw [hold] at h <;> cases h

/-- A handle is dropped that was not handed off: it takes the mutex to fail the barrier. -/
theorem StartupRun.Invariant.lockDrop
    {s : StartupRun ι}
    (hs : s.Invariant) (c : ι)
    (hstage : s.tasks c = .dropping) (hmutex : s.mutex = none) :
    ((StartupRun.setTask { s with mutex := some (.failing c) } c .dropped).log
      (.dropped c)).Invariant := by
  have htaken : StartupRun.Invariant { s with mutex := some (.failing c) } :=
    hs.withMutex _ (Or.inl hmutex) (by simp) (by simp)
  have hmoved := htaken.setTask c .dropped (by simp [hstage]) (by simp)
    (by simp [TaskStage.epoch?]) (by simp [TaskStage.asleep?])
  refine ⟨⟨⟨fun h => ?_, hmoved.outcome.ordered⟩, fun h => ?_, fun h c' hmem => ?_, fun h => ?_,
    fun state h => ?_, fun success h => ?_, fun sender h => ?_, hmoved.outcome.sending,
    fun success h => ?_⟩, hmoved.tasks.log _, fun h => ?_⟩
  · -- while the outcome is open, nobody holds the mutex and nothing was sent
    by_cases hpending : s.state = .pending
    · have hnotified := (hs.outcome.pending hpending).2.2 true h
      rw [hmutex] at hnotified
      cases hnotified
    · exact (hs.outcome.decided hpending).2 h
  · simpa [StartupRun.log] using hmoved.outcome.pending h
  · rcases List.mem_cons.mp hmem with hmem | hmem
    · cases hmem
      rfl
    · exact hmoved.outcome.dropped h c' hmem
  · simpa [StartupRun.log] using hmoved.outcome.decided h
  · exact hmoved.outcome.settled state (by simpa [StartupRun.log] using h)
  · cases h
  · cases h
  · exact hmoved.outcome.owner success (by simpa [StartupRun.log] using h)
  · cases h

theorem StartupRun.Invariant.observe
    {s : StartupRun ι}
    (hs : s.Invariant) (c : ι) (success : Bool)
    (hold : s.tasks c ≠ .unregistered)
    (hstate : s.state = outcomeOf success) :
    (s.observe c success).Invariant where
  outcome := hs.outcome.observe c success hstate
  notifying := hs.notifying
  tasks := (hs.tasks.setTask c _ hold (by simp) (by simp [TaskStage.epoch?])
    (by simp [TaskStage.asleep?])).log _

theorem StartupRun.Invariant.register
    {s : StartupRun ι}
    (hs : s.Invariant) (c : ι)
    (howner : s.owner = .preparing) (hstage : s.tasks c = .unregistered) :
    (StartupRun.setTask { s with required := c :: s.required } c .held).Invariant where
  outcome := { hs.outcome with
    ordered := hs.outcome.ordered.register fun success h => hs.outcome.owner success h howner }
  notifying := hs.notifying
  tasks := by
    have hfresh : c ∉ s.required := fun h => (hs.tasks.registered c).mp h hstage
    refine ⟨List.nodup_cons.mpr ⟨hfresh, hs.tasks.required⟩, ?_, hs.tasks.acknowledged, ?_,
      hs.tasks.messages, ?_, ?_, ?_⟩
    · intro c'
      by_cases hc : c' = c
      · subst hc
        simp [StartupRun.setTask]
      · simp only [StartupRun.setTask, List.mem_cons, hc, false_or, Function.update_of_ne hc,
          ne_eq]
        exact hs.tasks.registered c'
    · intro c' h
      obtain ⟨hrequired, hready, hheld⟩ := hs.tasks.recorded c' h
      have hc : c' ≠ c := fun hc => hfresh (hc ▸ hrequired)
      refine ⟨List.mem_cons_of_mem _ hrequired, hready, ?_⟩
      simpa [StartupRun.setTask, Function.update_of_ne hc] using hheld
    · intro hpending
      have hcount := hs.tasks.count hpending
      unfold StartupRun.CountFits at hcount ⊢
      simpa [StartupRun.setTask, howner] using hcount
    · intro c' epoch h
      by_cases hc : c' = c
      · subst hc
        simp [StartupRun.setTask, TaskStage.epoch?] at h
      · exact hs.tasks.captured c' epoch
          (by simpa [StartupRun.setTask, Function.update_of_ne hc] using h)
    · intro c' epoch h
      by_cases hc : c' = c
      · subst hc
        simp [StartupRun.setTask, TaskStage.asleep?] at h
      · exact hs.tasks.awake c' epoch
          (by simpa [StartupRun.setTask, Function.update_of_ne hc] using h)

theorem StartupRun.Invariant.ready
    {s : StartupRun ι}
    (hs : s.Invariant) (c : ι) (stage : TaskStage)
    (hheld : s.tasks c = .held)
    (hstage : stage = .blocking ∨ stage = .async) :
    ((StartupRun.setTask { s with channel := s.channel ++ [.ready c] } c stage).log
      (.ready c)).Invariant where
  outcome := { hs.outcome.ready c with }
  notifying := hs.notifying
  tasks := by
    have hunread : c ∉ readies (s.consumed ++ s.channel) :=
      fun h => (hs.tasks.recorded c h).2.2 hheld
    have hreadies : readies (s.consumed ++ (s.channel ++ [.ready c])) =
        readies (s.consumed ++ s.channel) ++ [c] := by
      simp [readies]
    have hregistered : c ∈ s.required := (hs.tasks.registered c).mpr (by simp [hheld])
    refine ⟨hs.tasks.required, ?_, ?_, ?_, ?_, hs.tasks.count, ?_, ?_⟩
    · intro c'
      by_cases hc : c' = c
      · subst hc
        rcases hstage with rfl | rfl <;> simp [StartupRun.setTask, StartupRun.log, hregistered]
      · simpa [StartupRun.setTask, StartupRun.log, Function.update_of_ne hc] using
          hs.tasks.registered c'
    · simp only [StartupRun.setTask, StartupRun.log, hreadies]
      exact List.nodup_append.mpr ⟨hs.tasks.acknowledged, by simp, fun a ha b hb => by
        rw [List.mem_singleton.mp hb]
        exact fun hab => hunread (hab ▸ ha)⟩
    · intro c' h
      simp only [StartupRun.setTask, StartupRun.log, hreadies] at h
      rcases List.mem_append.mp h with h | h
      · obtain ⟨hrequired, hready, hheld'⟩ := hs.tasks.recorded c' h
        have hc : c' ≠ c := fun hc => hunread (hc ▸ h)
        refine ⟨hrequired, List.mem_cons_of_mem _ hready, ?_⟩
        simpa [StartupRun.setTask, StartupRun.log, Function.update_of_ne hc] using hheld'
      · rw [List.mem_singleton.mp h]
        refine ⟨hregistered, List.mem_cons_self, ?_⟩
        rcases hstage with rfl | rfl <;> simp [StartupRun.setTask, StartupRun.log]
    · intro hpending c' h
      have hmem : .failed c' ∈ s.consumed ++ s.channel := by
        simpa [StartupRun.setTask, StartupRun.log] using h
      exact hs.tasks.messages hpending c' hmem
    · intro c' epoch h
      by_cases hc : c' = c
      · subst hc
        rcases hstage with rfl | rfl <;>
          simp [StartupRun.setTask, StartupRun.log, TaskStage.epoch?] at h
      · exact hs.tasks.captured c' epoch
          (by simpa [StartupRun.setTask, StartupRun.log, Function.update_of_ne hc] using h)
    · intro c' epoch h
      by_cases hc : c' = c
      · subst hc
        rcases hstage with rfl | rfl <;>
          simp [StartupRun.setTask, StartupRun.log, TaskStage.asleep?] at h
      · exact hs.tasks.awake c' epoch
          (by simpa [StartupRun.setTask, StartupRun.log, Function.update_of_ne hc] using h)

theorem transition_not_notifying
    (s : StartupRun ι) (state : StartupState) (sender : Option ι) :
    (s.transition state sender).mutex = some .notifying →
      (s.transition state sender).owner = .acknowledged := by
  unfold StartupRun.transition
  split <;> simp

/-- `fail` inside the mutex. -/
theorem StartupRun.Invariant.decideFail
    {s : StartupRun ι}
    (hs : s.Invariant) (c : ι)
    (hmutex : s.mutex = some (.failing c)) :
    ((s.transition .cancelled (some c)).log (.failed c)).Invariant := by
  have hunnotified : s.state = .pending → ∀ success, .notified success ∉ s.history := by
    intro hpending success h
    have := (hs.outcome.pending hpending).2.2 success h
    rw [hmutex] at this
    cases this
  have htransition := hs.outcome.transition .cancelled (some c) (by simp)
    (fun hpending => ⟨by simp, fun h => absurd h (hunnotified hpending true)⟩)
    (fun success h => by rw [hmutex] at h; cases h)
  have hdecided : (s.transition .cancelled (some c)).state ≠ .pending := by
    unfold StartupRun.transition
    split
    · simp
    · assumption
  refine ⟨⟨⟨(htransition.decided hdecided).2, htransition.ordered⟩, ?_, ?_, ?_, ?_, ?_,
    htransition.waking, htransition.sending, ?_⟩,
    (hs.tasks.transition .cancelled (some c) (by simp) (by simp [hmutex])).log _,
    transition_not_notifying s _ _⟩
  · exact fun h => absurd h hdecided
  · exact fun h => absurd h hdecided
  · exact fun h => by simpa [StartupRun.log] using htransition.decided h
  · exact fun state h => htransition.settled state (by simpa [StartupRun.log] using h)
  · exact fun success h => by simpa [StartupRun.log] using htransition.holder success h
  · exact fun success h => htransition.owner success (by simpa [StartupRun.log] using h)

/-- The service-ready notification is tried while nothing is decided. -/
theorem StartupRun.Invariant.notify
    {s : StartupRun ι}
    (hs : s.Invariant) (success : Bool)
    (hmutex : s.mutex = some .notifying) (hpending : s.state = .pending) :
    StartupRun.Invariant { s with
      mutex := some (.notified success)
      owner := .returned
      history := .notified success :: s.history } := by
  obtain ⟨hfailed, hsettled, hnotified⟩ := hs.outcome.pending hpending
  have hquiet : ∀ success', .notified success' ∉ s.history := by
    intro success' h
    have := hnotified success' h
    rw [hmutex] at this
    cases this
  have hcount : s.consumed.length = s.required.length := by
    have := hs.tasks.count hpending
    unfold StartupRun.CountFits at this
    simpa [hs.notifying hmutex] using this
  have hkept : ∀ c, .dropped c ∉ s.history := by
    intro c h
    have := hs.outcome.dropped hpending c h
    rw [hmutex] at this
    cases this
  refine ⟨⟨?_, ?_, ?_, ?_, ?_, ?_, ?_, hs.outcome.sending, ?_⟩, ?_, fun h => by cases h⟩
  · exact ⟨hs.tasks.all_ready hpending hcount, fun c => ⟨hfailed c, hkept c⟩, hquiet,
      hs.outcome.ordered⟩
  · intro _
    refine ⟨by simpa using hfailed, by simpa using hsettled, fun success' h => ?_⟩
    rcases List.mem_cons.mp h with h | h
    · cases h
      rfl
    · exact absurd h (hquiet success')
  · exact fun _ c h => absurd (by simpa using h) (hkept c)
  · exact fun h => absurd hpending h
  · intro state h
    exact absurd (by simpa using h) (hsettled state)
  · intro success' h
    simp only [Option.some.injEq, BlockingHolder.notified.injEq] at h
    exact ⟨hpending, h ▸ List.mem_cons_self⟩
  · exact fun _ h => by cases h
  · exact fun _ _ h => by cases h
  · exact { hs.tasks with
      recorded := fun c h =>
        let ⟨hrequired, hready, hheld⟩ := hs.tasks.recorded c h
        ⟨hrequired, List.mem_cons_of_mem _ hready, hheld⟩
      count := fun _ => rfl
      awake := fun c epoch h hstate _ => absurd hpending hstate }

/-- The owner moves on without the mutex. -/
theorem StartupRun.Invariant.withOwner
    {s : StartupRun ι}
    (hs : s.Invariant) (owner : OwnerStage)
    (hold : s.owner ≠ .acknowledged) (hnew : owner ≠ .preparing)
    (hcount : s.state = .pending → StartupRun.CountFits { s with owner := owner }) :
    StartupRun.Invariant { s with owner := owner } where
  outcome := hs.outcome.frame rfl rfl rfl (Or.inl rfl) (fun _ => Or.inl rfl) (fun _ h => h)
    hs.outcome.sending (Or.inl hnew)
  tasks := hs.tasks.frame s.mutex owner hcount (fun _ h => h)
  notifying h := absurd (hs.notifying h) hold

theorem StartupRun.Invariant.receive
    {s : StartupRun ι}
    (hs : s.Invariant) (message : StartupAcknowledgement ι)
    (rest : List (StartupAcknowledgement ι)) (owner : OwnerStage)
    (hchannel : s.channel = message :: rest)
    (hold : s.owner ≠ .acknowledged) (hnew : owner ≠ .preparing)
    (hcount : s.state = .pending → StartupRun.CountFits
      { s with channel := rest, consumed := s.consumed ++ [message], owner := owner }) :
    StartupRun.Invariant
      { s with channel := rest, consumed := s.consumed ++ [message], owner := owner } where
  outcome := hs.outcome.frame rfl rfl rfl (Or.inl rfl) (fun _ => Or.inl rfl) (fun _ h => h)
    hs.outcome.sending (Or.inl hnew)
  tasks := by
    have hsame : s.consumed ++ [message] ++ rest = s.consumed ++ s.channel := by simp [hchannel]
    exact { hs.tasks with
      acknowledged := by simpa only [hsame] using hs.tasks.acknowledged
      recorded := by simpa only [hsame] using hs.tasks.recorded
      messages := by simpa only [hsame] using hs.tasks.messages
      count := hcount }
  notifying h := absurd (hs.notifying h) hold

/-- A waiter reads the state, and observes the outcome or parks. -/
theorem StartupRun.Invariant.after_load
    {s s' : StartupRun ι} {c : ι}
    (hs : s.Invariant)
    (h : s.after (.load c) = some s') :
    s'.Invariant := by
  unfold StartupRun.after at h
  dsimp only at h
  split at h
  · rename_i epoch hstage
    split at h
    · rename_i hstate
      cases h
      exact hs.observe c true (by simp [hstage]) hstate
    · rename_i hstate
      cases h
      exact hs.observe c false (by simp [hstage]) hstate
    · rename_i hstate
      cases h
      refine hs.setTask c _ (by simp [hstage]) (by simp) (fun epoch' h => ?_)
        (fun _ _ => hstate)
      simp only [TaskStage.epoch?, Option.some.injEq] at h
      exact h ▸ hs.tasks.captured c epoch (by simp [hstage, TaskStage.epoch?])
  · cases h

theorem StartupRun.Invariant.after_lockWait
    {s s' : StartupRun ι} {c : ι}
    (hs : s.Invariant)
    (h : s.after (.lockWait c) = some s') :
    s'.Invariant := by
  unfold StartupRun.after at h
  dsimp only at h
  split at h
  · rename_i hstage hmutex
    cases h
    exact (hs.setTask c .blocking (by simp [hstage]) (by simp) (by simp [TaskStage.epoch?])
      (by simp [TaskStage.asleep?])).withMutex _ (Or.inl hmutex) (by simp) (by simp)
  · rename_i epoch hstage hmutex
    cases h
    exact (hs.setTask c .blocking (by simp [hstage]) (by simp) (by simp [TaskStage.epoch?])
      (by simp [TaskStage.asleep?])).withMutex _ (Or.inl hmutex) (by simp) (by simp)
  · cases h

theorem StartupRun.Invariant.after_checkWait
    {s s' : StartupRun ι} {c : ι}
    (hs : s.Invariant)
    (h : s.after (.checkWait c) = some s') :
    s'.Invariant := by
  unfold StartupRun.after at h
  dsimp only at h
  split at h
  · rename_i hguard
    obtain ⟨hmutex, hstage⟩ := hguard
    have hregistered : s.tasks c ≠ .unregistered := by simp [hstage]
    split at h
    · rename_i hstate
      cases h
      exact (hs.observe c true hregistered hstate).withMutex none (Or.inr ⟨c, hmutex⟩)
        (by simp) (by simp)
    · rename_i hstate
      cases h
      exact (hs.observe c false hregistered hstate).withMutex none (Or.inr ⟨c, hmutex⟩)
        (by simp) (by simp)
    · rename_i hstate
      cases h
      refine (hs.setTask c (.sleeping s.epoch) hregistered (by simp) (fun epoch h => ?_)
        (fun _ _ => hstate)).withMutex none (Or.inr ⟨c, hmutex⟩) (by simp) (by simp)
      simp only [TaskStage.epoch?, Option.some.injEq] at h
      exact h.ge
  · cases h

/-- A failure is reported after it has decided the outcome. -/
theorem StartupRun.Invariant.after_sendFailed
    {s s' : StartupRun ι}
    (hs : s.Invariant)
    (h : s.after .sendFailed = some s') :
    s'.Invariant := by
  unfold StartupRun.after at h
  dsimp only at h
  split at h
  · rename_i c hsending
    cases h
    have hdecided : s.state ≠ .pending := hs.outcome.sending (by simp [hsending])
    have hreadies : readies (s.consumed ++ (s.channel ++ [.failed c])) =
        readies (s.consumed ++ s.channel) := by
      simp [readies]
    refine ⟨hs.outcome.frame rfl rfl rfl (Or.inl rfl) (fun _ => Or.inl rfl) (fun _ h => h)
      (by simp) (Or.inr rfl),
      { hs.tasks with
        acknowledged := by simpa only [hreadies] using hs.tasks.acknowledged
        recorded := by simpa only [hreadies] using hs.tasks.recorded
        messages := fun h => absurd h hdecided }, hs.notifying⟩
  · cases h

/-- All waiters are woken. -/
theorem StartupRun.Invariant.after_wake
    {s s' : StartupRun ι}
    (hs : s.Invariant)
    (h : s.after .wake = some s') :
    s'.Invariant := by
  unfold StartupRun.after at h
  dsimp only at h
  split at h
  · rename_i sender hmutex
    cases h
    have hdecided : s.state ≠ .pending := hs.outcome.waking sender hmutex
    refine ⟨hs.outcome.frame rfl rfl rfl (Or.inr fun success => ⟨by simp [hmutex], by simp⟩)
      (fun h => absurd h hdecided) (by simp) (fun _ => hdecided) (Or.inr rfl),
      { hs.tasks with
        count := fun h => absurd h hdecided
        captured := fun c epoch h => (hs.tasks.captured c epoch h).trans (Nat.le_succ _)
        awake := fun c epoch h _ hepoch => ?_ }, by simp⟩
    have hle := hs.tasks.captured c epoch (by
      cases hstage : s.tasks c <;> simp_all [TaskStage.asleep?, TaskStage.epoch?])
    simp only at hepoch
    omega
  · cases h

theorem StartupRun.Invariant.after_beginWaiting
    {s s' : StartupRun ι}
    (hs : s.Invariant)
    (h : s.after .beginWaiting = some s') :
    s'.Invariant := by
  unfold StartupRun.after at h
  dsimp only at h
  split at h
  · rename_i howner
    cases h
    refine hs.withOwner _ (by simp [howner]) (by simp) (fun hpending => ?_)
    have hcount := hs.tasks.count hpending
    unfold StartupRun.CountFits at hcount ⊢
    simpa [howner] using hcount
  · rename_i howner
    split at h <;> cases h
    rename_i hfree
    refine hs.withOwner _ (by simp [howner]) (by simp) (fun hpending => ?_)
    have hcount := hs.tasks.count hpending
    unfold StartupRun.CountFits at hcount
    rw [howner] at hcount
    exact absurd hcount hfree
  · cases h

/-- The owner takes an acknowledgement. -/
theorem StartupRun.Invariant.after_receive
    {s s' : StartupRun ι}
    (hs : s.Invariant)
    (h : s.after .receive = some s') :
    s'.Invariant := by
  unfold StartupRun.after at h
  dsimp only at h
  split at h
  · rename_i count c rest howner hchannel
    split at h <;> cases h
    refine hs.receive _ rest _ hchannel (by simp [howner]) (by simp) (fun hpending => ?_)
    have hcount := hs.tasks.count hpending
    unfold StartupRun.CountFits at hcount ⊢
    rw [howner] at hcount
    simpa using hcount
  · rename_i count c rest howner hchannel
    split at h <;> cases h
    refine hs.receive _ rest _ hchannel (by simp [howner]) (by simp) (fun hpending => ?_)
    exact absurd (by simp [hchannel]) (hs.tasks.messages hpending c)
  · cases h

theorem StartupRun.Invariant.after_notify
    {s s' : StartupRun ι} {success : Bool}
    (hs : s.Invariant)
    (h : s.after (.notify success) = some s') :
    s'.Invariant := by
  unfold StartupRun.after at h
  dsimp only at h
  split at h
  · rename_i hmutex
    split at h
    · rename_i hpending
      cases h
      exact hs.notify success hmutex hpending
    · rename_i hdecided
      cases h
      exact ⟨hs.outcome.frame rfl rfl rfl (Or.inr fun success => ⟨by simp [hmutex], by simp⟩)
        (fun h => absurd h hdecided) (by simp) hs.outcome.sending (Or.inl (by simp)),
        hs.tasks.frame none .returned (fun h => absurd h hdecided)
          (fun sender h => by rw [hmutex] at h; cases h), by simp⟩
  · cases h

/-- What the notification has brought is settled. -/
theorem StartupRun.Invariant.after_release
    {s s' : StartupRun ι}
    (hs : s.Invariant)
    (h : s.after .release = some s') :
    s'.Invariant := by
  unfold StartupRun.after at h
  dsimp only at h
  split at h
  · rename_i success hmutex
    cases h
    obtain ⟨hpending, hnotified⟩ := hs.outcome.holder success hmutex
    refine ⟨hs.outcome.transition _ none (by cases success <;> simp) (fun _ => ?_)
      (fun _ _ => hpending),
      hs.tasks.transition _ none (by cases success <;> simp) (by simp [hmutex]),
      transition_not_notifying s _ _⟩
    cases success with
    | true => simpa using hnotified
    | false =>
        refine ⟨by simp, fun h => ?_⟩
        have := (hs.outcome.pending hpending).2.2 true h
        rw [hmutex] at this
        cases this
  · cases h

/-- `cancel` inside the mutex. -/
theorem StartupRun.Invariant.after_decideCancel
    {s s' : StartupRun ι}
    (hs : s.Invariant)
    (h : s.after .decideCancel = some s') :
    s'.Invariant := by
  unfold StartupRun.after at h
  dsimp only at h
  split at h
  · rename_i hmutex
    cases h
    refine ⟨hs.outcome.transition .cancelled none (by simp) (fun hpending => ⟨by simp, ?_⟩)
      (fun success h => by rw [hmutex] at h; cases h),
      hs.tasks.transition .cancelled none (by simp) (by simp [hmutex]),
      transition_not_notifying s _ _⟩
    intro h
    have := (hs.outcome.pending hpending).2.2 true h
    rw [hmutex] at this
    cases this
  · cases h

theorem StartupRun.Invariant.after
    {s s' : StartupRun ι} {e : StartupEvent ι}
    (hs : s.Invariant)
    (h : s.after e = some s') :
    s'.Invariant := by
  cases e with
  | register c =>
      unfold StartupRun.after at h
      dsimp only at h
      split at h
      · rename_i hguard
        cases h
        exact hs.register c hguard.1 hguard.2
      · cases h
  | ready c blocking =>
      unfold StartupRun.after at h
      dsimp only at h
      split at h
      · rename_i hheld
        cases h
        exact hs.ready c _ hheld (by cases blocking <;> simp)
      · cases h
  | listen c =>
      unfold StartupRun.after at h
      dsimp only at h
      split at h
      · rename_i hstage
        cases h
        refine hs.setTask c _ (by simp [hstage]) (by simp) (fun epoch h => ?_)
          (by simp [TaskStage.asleep?])
        simp only [TaskStage.epoch?, Option.some.injEq] at h
        exact h.ge
      · cases h
  | load c => exact hs.after_load h
  | resume c =>
      unfold StartupRun.after at h
      dsimp only at h
      split at h
      · rename_i epoch hstage
        split at h <;> cases h
        exact hs.setTask c _ (by simp [hstage]) (by simp) (by simp [TaskStage.epoch?])
          (by simp [TaskStage.asleep?])
      · cases h
  | lockWait c => exact hs.after_lockWait h
  | checkWait c => exact hs.after_checkWait h
  | drop c =>
      unfold StartupRun.after at h
      dsimp only at h
      split at h
      · cases h
        exact hs
      · split at h <;> cases h
        rename_i hdroppable
        refine hs.setTask c _ (fun hstage => ?_) (by simp) (by simp [TaskStage.epoch?])
          (by simp [TaskStage.asleep?])
        simp [hstage, TaskStage.droppable] at hdroppable
  | lockDrop c =>
      unfold StartupRun.after at h
      dsimp only at h
      split at h
      · rename_i hguard
        cases h
        exact hs.lockDrop c hguard.1 hguard.2
      · cases h
  | lockFail c =>
      unfold StartupRun.after at h
      dsimp only at h
      split at h
      · rename_i hguard
        cases h
        exact hs.withMutex _ (Or.inl hguard.2) (by simp) (by simp)
      · cases h
  | decideFail c =>
      unfold StartupRun.after at h
      dsimp only at h
      split at h
      · rename_i hmutex
        cases h
        exact hs.decideFail c hmutex
      · cases h
  | sendFailed => exact hs.after_sendFailed h
  | wake => exact hs.after_wake h
  | beginWaiting => exact hs.after_beginWaiting h
  | receive => exact hs.after_receive h
  | allReceived =>
      unfold StartupRun.after at h
      dsimp only at h
      split at h
      · rename_i howner
        cases h
        refine hs.withOwner _ (by simp [howner]) (by simp) (fun hpending => ?_)
        have hcount := hs.tasks.count hpending
        unfold StartupRun.CountFits at hcount ⊢
        simpa [howner] using hcount
      · cases h
  | lockNotify =>
      unfold StartupRun.after at h
      dsimp only at h
      split at h
      · rename_i hguard
        cases h
        exact hs.withMutex _ (Or.inl hguard.2) (by simp) (fun _ => hguard.1)
      · cases h
  | notify success => exact hs.after_notify h
  | release => exact hs.after_release h
  | lockCancel =>
      unfold StartupRun.after at h
      dsimp only at h
      split at h
      · rename_i hmutex
        cases h
        exact ⟨hs.outcome.frame rfl rfl rfl (Or.inr fun success => ⟨by simp [hmutex], by simp⟩)
          (fun _ => Or.inr (by simp [hmutex])) (by simp) hs.outcome.sending (Or.inl (by simp)),
          hs.tasks.frame _ .returned (fun _ => rfl)
            (fun sender h => by rw [hmutex] at h; cases h), by simp⟩
      · cases h
  | decideCancel => exact hs.after_decideCancel h

theorem StartupRun.invariant_start : (StartupRun.start : StartupRun ι).Invariant where
  outcome :=
    { ordered := trivial
      pending := fun _ => ⟨by simp [StartupRun.start], by simp [StartupRun.start],
        by simp [StartupRun.start]⟩
      dropped := by simp [StartupRun.start]
      decided := fun h => absurd rfl h
      settled := by simp [StartupRun.start]
      holder := by simp [StartupRun.start]
      waking := by simp [StartupRun.start]
      sending := by simp [StartupRun.start]
      owner := by simp [StartupRun.start] }
  tasks :=
    { required := List.nodup_nil
      registered := by simp [StartupRun.start]
      acknowledged := List.nodup_nil
      recorded := by simp [StartupRun.start, readies]
      messages := by simp [StartupRun.start]
      count := fun _ => rfl
      captured := by simp [StartupRun.start, TaskStage.epoch?]
      awake := by simp [StartupRun.start, TaskStage.asleep?] }
  notifying := by simp [StartupRun.start]

theorem StartupRun.invariant_of_reachable
    {s : StartupRun ι} (h : (startupSystem ι).Reachable s) :
    s.Invariant := by
  refine h.invariant (fun s hs => ?_) (fun s e s' hs hstep => hs.after hstep)
  cases hs
  exact StartupRun.invariant_start

theorem Ordered.drop
    {required : List ι} {later earlier : List (StartupAction ι)}
    (h : Ordered required (later ++ earlier)) :
    Ordered required earlier := by
  induction later with
  | nil => exact h
  | cons action later ih =>
      cases action with
      | ready c => exact ih h
      | failed c => exact ih h.2
      | dropped c => exact ih h.2
      | notified success => exact ih h.2.2.2
      | settled state => exact ih h.2.2
      | observed c success => exact ih h.2

/-- A failure that finds the barrier unreleased is not followed by readiness. -/
theorem Ordered.never_ready
    {required : List ι} {later earlier : List (StartupAction ι)} {action : StartupAction ι}
    (hfailure : ¬ Unfailed [action])
    (h : Ordered required (later ++ action :: earlier))
    (hbefore : .settled .released ∉ earlier) :
    .notified true ∉ later ++ action :: earlier ∧
      .settled .released ∉ later ++ action :: earlier := by
  have haction : ∃ c, action = .failed c ∨ action = .dropped c := by
    by_contra hnone
    refine hfailure fun c => ⟨fun hmem => ?_, fun hmem => ?_⟩
    · exact hnone ⟨c, Or.inl (List.mem_singleton.mp hmem).symm⟩
    · exact hnone ⟨c, Or.inr (List.mem_singleton.mp hmem).symm⟩
  have hunready : .notified true ∉ earlier := by
    intro hmem
    obtain ⟨c, rfl | rfl⟩ := haction
    · exact hbefore (h.drop.1 hmem)
    · exact hbefore (h.drop.1 hmem)
  induction later with
  | nil =>
      obtain ⟨c, rfl | rfl⟩ := haction
      · exact ⟨by simpa using hunready, by simpa using hbefore⟩
      · exact ⟨by simpa using hunready, by simpa using hbefore⟩
  | cons next later ih =>
      have hfailed : ¬ Unfailed (later ++ action :: earlier) := by
        intro hunfailed
        obtain ⟨c, rfl | rfl⟩ := haction
        · exact (hunfailed c).1 (by simp)
        · exact (hunfailed c).2 (by simp)
      obtain ⟨hready, hreleased⟩ := ih (@Ordered.drop _ _ _ [next] _ h)
      refine ⟨fun hmem => ?_, fun hmem => ?_⟩
      · rcases List.mem_cons.mp hmem with rfl | hmem
        · exact hfailed h.2.1
        · exact hready hmem
      · rcases List.mem_cons.mp hmem with rfl | hmem
        · exact hfailed (h.2.1 rfl).2
        · exact hreleased hmem

/-- A waiter that only waits, after the outcome has been decided and announced. -/
def StartupRun.LeftAsleep (s : StartupRun ι) (c : ι) : Prop :=
  ∃ epoch, (s.tasks c).asleep? = some epoch ∧ epoch = s.epoch ∧ s.state ≠ .pending ∧
    ∀ sender, s.mutex ≠ some (.waking sender)

/--
The notification is tried at most once, after every required task has
acknowledged and before any failure; the outcome is settled at most once and
is the state from then on; whoever observes an outcome observes that one, and
nobody sleeps through it.  A handle that is dropped before it was handed off
fails the barrier if nothing is decided yet, and any failure before the release
excludes readiness.
-/
theorem startup_barrier_safe
    {s : StartupRun ι} (h : (startupSystem ι).Reachable s) :
    (∀ later success earlier, s.history = later ++ .notified success :: earlier →
      (∀ success', .notified success' ∉ earlier) ∧
        (∀ c ∈ s.required, .ready c ∈ earlier) ∧ Unfailed earlier) ∧
    (∀ later state earlier, s.history = later ++ .settled state :: earlier →
      (∀ state', .settled state' ∉ earlier) ∧ state ≠ .pending ∧ s.state = state) ∧
    (s.state ≠ .pending → .settled s.state ∈ s.history) ∧
    (∀ c success, .observed c success ∈ s.history → s.state = outcomeOf success) ∧
    (∀ c, ¬ s.LeftAsleep c) ∧
    (∀ c, .dropped c ∈ s.history → s.state = .pending → s.mutex = some (.failing c)) ∧
    ∀ later action earlier, s.history = later ++ action :: earlier → ¬ Unfailed [action] →
      .settled .released ∉ earlier →
        .notified true ∉ s.history ∧ .settled .released ∉ s.history := by
  have hs := StartupRun.invariant_of_reachable h
  have hordered := hs.outcome.ordered
  refine ⟨?_, ?_, fun hdecided => (hs.outcome.decided hdecided).1, ?_, ?_,
    fun c hmem hpending => hs.outcome.dropped hpending c hmem, ?_⟩
  · intro later success earlier hsplit
    rw [hsplit] at hordered
    obtain ⟨hready, hfailed, hnotified, -⟩ := hordered.drop
    exact ⟨hnotified, hready, hfailed⟩
  · intro later state earlier hsplit
    have hmem : .settled state ∈ s.history := by simp [hsplit]
    have hstate := hs.outcome.settled state hmem
    rw [hsplit] at hordered
    refine ⟨hordered.drop.1, fun hpending => ?_, hstate⟩
    exact (hs.outcome.pending (hstate.trans hpending)).2.1 state hmem
  · intro c success hmem
    obtain ⟨later, earlier, hsplit⟩ := List.append_of_mem hmem
    rw [hsplit] at hordered
    refine hs.outcome.settled _ ?_
    rw [hsplit]
    exact List.mem_append_right _ (List.mem_cons_of_mem _ hordered.drop.1)
  · rintro c ⟨epoch, hasleep, hepoch, hdecided, hmutex⟩
    obtain ⟨sender, hsender⟩ := hs.tasks.awake c epoch hasleep hdecided hepoch
    exact hmutex sender hsender
  · intro later action earlier hsplit hfailure hbefore
    rw [hsplit] at hordered ⊢
    exact hordered.never_ready hfailure hbefore

end Runs

section Sample

/-- One task waits asynchronously, the other blocks; both are released. -/
def startedEvents : List (StartupEvent Nat) :=
  [.register 0, .register 1, .ready 1 true, .lockWait 1, .checkWait 1, .beginWaiting, .receive,
    .ready 0 false, .listen 0, .load 0, .receive, .allReceived, .lockNotify, .notify true,
    .release, .wake, .resume 0, .listen 0, .load 0, .lockWait 1, .checkWait 1]

/-- Both tasks acknowledge, and the handle of the second is dropped before the release. -/
def abandonedEvents : List (StartupEvent Nat) :=
  [.register 0, .register 1, .ready 0 false, .ready 1 false, .listen 1, .load 1, .beginWaiting,
    .receive, .receive, .allReceived, .drop 1, .lockDrop 1, .decideFail 1, .wake, .sendFailed,
    .lockNotify, .notify true, .listen 0, .load 0]

def abandonedHistory : List (StartupAction Nat) :=
  [.observed 0 false, .failed 1, .settled .cancelled, .dropped 1, .ready 1, .ready 0]

theorem startup_barrier_safe_started :
    (∃ s : StartupRun Nat,
      System.replay (fun s e => s.after e) .start startedEvents = some s ∧
      s.tasks 0 = .observed true ∧ s.tasks 1 = .observed true ∧ ∀ c, ¬ s.LeftAsleep c) ∧
    ∃ s : StartupRun Nat,
      System.replay (fun s e => s.after e) .start abandonedEvents = some s ∧
      s.history = abandonedHistory ∧ .notified true ∉ s.history := by
  have hrun : ((System.replay (fun s e => s.after e) .start startedEvents).any
      fun s : StartupRun Nat => decide (s.tasks 0 = .observed true) &&
        decide (s.tasks 1 = .observed true)) = true := by
    decide
  have habandoned : ((System.replay (fun s e => s.after e) .start abandonedEvents).any
      fun s : StartupRun Nat => decide (s.history = abandonedHistory)) = true := by
    decide
  have hreachable : ∀ {events : List (StartupEvent Nat)} {s : StartupRun Nat},
      System.replay (fun s e => s.after e) .start events = some s →
        (startupSystem Nat).Reachable s :=
    fun hs => System.reachable_replay (.initial rfl) hs
  constructor
  · obtain ⟨s, hs, hobserved⟩ := (Option.any_eq_true _ _).mp hrun
    simp only [Bool.and_eq_true, decide_eq_true_eq] at hobserved
    exact ⟨s, hs, hobserved.1, hobserved.2,
      (startup_barrier_safe (hreachable hs)).2.2.2.2.1⟩
  · obtain ⟨s, hs, hhistory⟩ := (Option.any_eq_true _ _).mp habandoned
    have hsplit : s.history = [.observed 0 false, .failed 1, .settled .cancelled] ++
        .dropped 1 :: [.ready 1, .ready 0] := by
      exact of_decide_eq_true hhistory
    obtain ⟨-, -, -, -, -, -, hnever⟩ := startup_barrier_safe (hreachable hs)
    exact ⟨s, hs, of_decide_eq_true hhistory,
      (hnever _ _ _ hsplit (by simp [Unfailed]) (by simp)).1⟩

end Sample

end Sessiond
end SleepySession
