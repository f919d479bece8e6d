import SleepySession.Lib.Transition
import SleepySession.Notifications.Opening
import SleepySession.Notifications.PlainTexts

/-!
# Crashes of the notification store

A store runs operations, is killed, loses power and is opened again.  What it
finds then is the acknowledged state, or that state after one of the
operations that were issued since.
-/

namespace SleepySession

open Program SecureDirectory StoreState

inductive StorePhase where
  | running (store : NotificationStore)
  /-- Nobody runs; the flag says that a replay of an unsynced journal was cut short. -/
  | down (files : NotificationFiles) (cutShort : Bool)

/-- A store with what its callers know about it. -/
structure StoreMachine where
  phase : StorePhase
  /-- The state reached by the acknowledged operations. -/
  acknowledged : StoreState
  /-- The states that were acknowledged before. -/
  history : List StoreState
  /-- What the operations issued since would have led to. -/
  attempted : List StoreState

inductive NotificationStoreEvent where
  | operate (op : StoreOperation) (script : List (Answer NotificationFile String))
  | kill
  | powerLoss
  | reopen (script : List (Answer NotificationFile String))

/-- There is a journal, and its entry may still be lost. -/
def unsyncedJournal (files : NotificationFiles) : Bool :=
  (fileCell files .transaction).current.isSome &&
    (fileCell files .transaction).values.contains none

section Runs

variable (sdk : NotificationSdk) (capacity limit : Nat)

inductive StoreStep : StoreMachine → NotificationStoreEvent → StoreMachine → Prop where
  | acknowledge {m : StoreMachine} {s s' : NotificationStore} {op : StoreOperation}
      {script : List (Answer NotificationFile String)} {r : Option PushResult}
      (hphase : m.phase = .running s)
      (hrun : (op.perform sdk).run script s = (.ok r, s')) :
      StoreStep m (.operate op script)
        ⟨.running s', op.apply capacity m.acknowledged, m.acknowledged :: m.history, []⟩
  | reject {m : StoreMachine} {s s' : NotificationStore} {op : StoreOperation}
      {script : List (Answer NotificationFile String)} {e : IoError}
      (hphase : m.phase = .running s)
      (hrun : (op.perform sdk).run script s = (.error e, s')) :
      StoreStep m (.operate op script)
        ⟨.running s', m.acknowledged, m.history,
          op.apply capacity m.acknowledged :: m.attempted⟩
  | crash {m : StoreMachine} {s s' : NotificationStore} {op : StoreOperation}
      {script : List (Answer NotificationFile String)}
      (hphase : m.phase = .running s)
      (hrun : (op.perform sdk).run script s = (.crashed, s')) :
      StoreStep m (.operate op script)
        ⟨.down s'.directory false, m.acknowledged, m.history,
          op.apply capacity m.acknowledged :: m.attempted⟩
  | kill {m : StoreMachine} {s : NotificationStore}
      (hphase : m.phase = .running s) :
      StoreStep m .kill ⟨.down s.directory false, m.acknowledged, m.history, m.attempted⟩
  | powerLoss {m : StoreMachine} {files files' : NotificationFiles} {cutShort : Bool}
      (hphase : m.phase = .down files cutShort)
      (hreverts : files.Reverts files') :
      StoreStep m .powerLoss ⟨.down files' false, m.acknowledged, m.history, m.attempted⟩
  | opened {m : StoreMachine} {files files' : NotificationFiles} {cutShort : Bool}
      {script : List (Answer NotificationFile String)} {s : NotificationStore}
      (hphase : m.phase = .down files cutShort)
      (hrun : (openWithLimits sdk capacity limit).run script files = (.ok s, files')) :
      StoreStep m (.reopen script) ⟨.running s, s.state, m.acknowledged :: m.history, []⟩
  | openFailed {m : StoreMachine} {files files' : NotificationFiles} {cutShort : Bool}
      {script : List (Answer NotificationFile String)}
      {outcome : Outcome IoError NotificationStore}
      (hphase : m.phase = .down files cutShort)
      (hrun : (openWithLimits sdk capacity limit).run script files = (outcome, files'))
      (hfailed : outcome.get? = none) :
      StoreStep m (.reopen script)
        ⟨.down files' (cutShort || unsyncedJournal files), m.acknowledged, m.history,
          m.attempted⟩

/-- The runs of a store over a directory that holds a state. -/
def notificationStoreSystem : System StoreMachine NotificationStoreEvent where
  initial m :=
    ∃ L files, m = ⟨.down files false, L, [], []⟩ ∧ Storable sdk limit L ∧ Finished sdk L files
  step := StoreStep sdk capacity limit

/--
What the store relies on: a pushed notification is stored as it was checked,
an operation without effect is issued only while nothing but the acknowledged
state can be on disk, and no power is lost while the journal of a replay that
was cut short may still disappear.
-/
def PrudentStore (m : StoreMachine) : NotificationStoreEvent → Prop
  | .operate op _ =>
      op.StoredAsChecked sdk m.acknowledged ∧
        (op.Idle m.acknowledged →
          ∀ s, m.phase = .running s → Finished sdk m.acknowledged s.directory)
  | .powerLoss =>
      ∀ files, m.phase = .down files true → none ∉ (fileCell files .transaction).values
  | _ => True

/-- What the callers of the store can count on. -/
structure Linearizable (m : StoreMachine) : Prop where
  /-- A running store has the acknowledged state in memory. -/
  running : ∀ s, m.phase = .running s → s.state = m.acknowledged
  /-- Opening finds the acknowledged state, or that state after one further operation. -/
  reopened : ∀ files cutShort script s files', m.phase = .down files cutShort →
    (openWithLimits sdk capacity limit).run script files = (.ok s, files') →
    (s.state = m.acknowledged ∨ s.state ∈ m.attempted) ∧
      ∀ L ∈ m.acknowledged :: m.history,
        L.preferences.nextNotificationId ≤ s.preferences.nextNotificationId
  /-- Opening fails only with a system call. -/
  accepted : ∀ files cutShort script e files', m.phase = .down files cutShort →
    (openWithLimits sdk capacity limit).run script files = (.error e, files') →
    ∃ f, e = IoError.system f
  /-- Where every system call takes effect, opening succeeds. -/
  opens : ∀ files cutShort script, m.phase = .down files cutShort →
    NothingRefused files script →
    ∃ s files', (openWithLimits sdk capacity limit).run script files = (.ok s, files')

/-- The states that the directory may stand for. -/
def StoreMachine.Possible (m : StoreMachine) (L : StoreState) : Prop :=
  Storable sdk limit L ∧ (L = m.acknowledged ∨ L ∈ m.attempted)

/-- What the directory holds in each phase. -/
def StoreMachine.Backed (m : StoreMachine) : Prop :=
  match m.phase with
  | .running s =>
      s.state = m.acknowledged ∧ s.capacity = capacity ∧ s.aggregateLimit = limit ∧
        Consistent sdk (m.Possible sdk limit) s.directory ∧
        Recoverable sdk (m.Possible sdk limit) s.directory
  | .down files cutShort =>
      Consistent sdk (m.Possible sdk limit) files ∧
        (cutShort = false → Recoverable sdk (m.Possible sdk limit) files)

structure StoreMachine.Invariant (m : StoreMachine) : Prop where
  storable : Storable sdk limit m.acknowledged
  history : ∀ L ∈ m.history,
    L.preferences.nextNotificationId ≤ m.acknowledged.preferences.nextNotificationId
  attempted : ∀ L ∈ m.attempted,
    m.acknowledged.preferences.nextNotificationId ≤ L.preferences.nextNotificationId
  backed : m.Backed sdk capacity limit

end Runs

section Invariant

variable {sdk : NotificationSdk} {capacity limit : Nat} {T : StoreState → Prop}
variable {m m' : StoreMachine} {v v' : NotificationFiles}

/-- A loss of power leaves one of the states. -/
theorem reverts_consistent
    (hconsistent : Consistent sdk T v)
    (hrecoverable : Recoverable sdk T v)
    (hreverts : v.Reverts v') :
    Consistent sdk T v' ∧ Recoverable sdk T v' := by
  obtain ⟨x, hx, hcell⟩ := hreverts () (.named .transaction)
  have hcell' : fileCell v' .transaction = Cell.settled x := hcell
  have hkept : ∀ L, KeepsState sdk L v → KeepsState sdk L v' :=
    fun L hkeeps name hname => hreverts.all (hkeeps name hname)
  have hrecoverable' : Recoverable sdk T v' := by
    intro hnone
    have hx' : none = x := by simpa [hcell', Cell.settled, Cell.values] using hnone
    subst hx'
    obtain ⟨L, hL, hkeeps⟩ := hrecoverable hx
    exact ⟨L, hL, hkept L hkeeps⟩
  refine ⟨⟨by rw [hcell']; rfl, hreverts.all hconsistent.journals, fun hnone => ?_⟩, hrecoverable'⟩
  obtain ⟨L, hL, hkeeps⟩ := hrecoverable' (hnone ▸ Cell.current_mem_values _)
  refine ⟨L, hL, hkeeps, by rw [hcell']; rfl, ?_⟩
  rw [hcell'] at hnone ⊢
  rw [Cell.all_settled]
  exact Or.inl hnone

/-- What one operation does to a store and its directory. -/
def operated (sdk : NotificationSdk) (capacity limit : Nat) (op : StoreOperation)
    (T' : StoreState → Prop) (s : NotificationStore) :
    Post NotificationStore IoError (Option PushResult) where
  ok r s' :=
    r = op.result capacity s.state ∧ s'.state = op.apply capacity s.state ∧
      s'.capacity = capacity ∧ s'.aggregateLimit = limit ∧
      ((Storable sdk limit (op.apply capacity s.state) ∧
          Finished sdk (op.apply capacity s.state) s'.directory) ∨
        (op.Idle s.state ∧ s'.state = s.state ∧ s'.directory = s.directory))
  error _ s' :=
    s'.state = s.state ∧ s'.capacity = capacity ∧ s'.aggregateLimit = limit ∧
      Consistent sdk T' s'.directory ∧ Recoverable sdk T' s'.directory
  crashed s' := Consistent sdk T' s'.directory ∧ Recoverable sdk T' s'.directory

theorem operate_wp
    {A : Answer NotificationFile String → Prop} {T' : StoreState → Prop}
    {s : NotificationStore} {op : StoreOperation}
    (hcodec : sdk.RoundTrips)
    (hsteady : sdk.Steady)
    (hlimit : limit < maxDurableFileBytes)
    (hstorable : Storable sdk limit s.state)
    (hcapacity : s.capacity = capacity)
    (haggregate : s.aggregateLimit = limit)
    (hstored : op.StoredAsChecked sdk s.state)
    (hconsistent : Consistent sdk T s.directory)
    (hrecoverable : Recoverable sdk T s.directory)
    (hT : ∀ L, T L → T' L)
    (hT' : Storable sdk limit (op.apply capacity s.state) → T' (op.apply capacity s.state)) :
    (op.perform sdk).wp A (operated sdk capacity limit op T' s) s := by
  subst hcapacity haggregate
  refine StoreOperation.wp_perform op ?_ ?_ ?_
  · exact fun e => ⟨rfl, rfl, rfl, hconsistent.mono hT, hrecoverable.mono hT⟩
  · exact fun hidle hsame => ⟨rfl, hsame.symm, rfl, rfl, Or.inr ⟨hidle, rfl, rfl⟩⟩
  · intro hchecked hids hfits
    have hnew := StoreOperation.apply_storable hsteady hstorable hchecked hstored hids hfits
    refine wp_commitFiles hcodec hlimit hnew hconsistent hrecoverable hT (hT' hnew) ?_ ?_
    · intro v' hconsistent' hrecoverable'
      exact ⟨fun _ => ⟨rfl, rfl, rfl, hconsistent', hrecoverable'⟩, hconsistent', hrecoverable'⟩
    · intro v' hfinished
      exact ⟨rfl, rfl, rfl, rfl, Or.inl ⟨hnew, hfinished⟩⟩

/-- What opening a store makes of a directory. -/
def reopening (sdk : NotificationSdk) (capacity limit : Nat) (T : StoreState → Prop)
    (v : NotificationFiles) : Post NotificationFiles IoError NotificationStore where
  ok s v' := ∃ L, T L ∧ Finished sdk L v' ∧ s = opened capacity limit L v'
  error e v' := (∃ f, e = IoError.system f) ∧ CutShort sdk T v v'
  crashed v' := CutShort sdk T v v'

theorem reopen_run
    (hcodec : sdk.RoundTrips)
    (hlimits : checkLimits capacity limit = .ok ())
    (hT : ∀ L, T L → Storable sdk limit L)
    (hconsistent : Consistent sdk T v)
    (script : List (Answer NotificationFile String)) :
    (reopening sdk capacity limit T v).holds
      ((openWithLimits sdk capacity limit).run script v) := by
  refine wp_sound (A := fun _ => True) trivial _ _ script v (fun _ _ => trivial) ?_
  refine StoreState.wp_openWithLimits hcodec hlimits hT hconsistent ?_ ?_
  · exact fun v' hcut => ⟨fun f => ⟨⟨f, rfl⟩, hcut⟩, hcut⟩
  · exact fun L v' hL hfinished => ⟨L, hL, hfinished, rfl⟩

/-- A further attempt adds its state to what is possible. -/
theorem possible_attempt
    (m : StoreMachine) (phase : StorePhase) (L' : StoreState) :
    (∀ L, m.Possible sdk limit L →
        StoreMachine.Possible sdk limit ⟨phase, m.acknowledged, m.history, L' :: m.attempted⟩ L) ∧
      (Storable sdk limit L' →
        StoreMachine.Possible sdk limit
          ⟨phase, m.acknowledged, m.history, L' :: m.attempted⟩ L') := by
  refine ⟨?_, fun hL' => ⟨hL', Or.inr List.mem_cons_self⟩⟩
  rintro L ⟨hL, hack | hmem⟩
  · exact ⟨hL, Or.inl hack⟩
  · exact ⟨hL, Or.inr (List.mem_cons_of_mem _ hmem)⟩

theorem attempted_attempt
    (hm : m.Invariant sdk capacity limit)
    (op : StoreOperation) :
    ∀ L ∈ op.apply capacity m.acknowledged :: m.attempted,
      m.acknowledged.preferences.nextNotificationId ≤ L.preferences.nextNotificationId := by
  intro L hL
  rcases List.mem_cons.mp hL with rfl | hold
  · exact (@StoreOperation.apply_preferences _ _ op).2
  · exact hm.attempted L hold

theorem counter_le_of_possible
    {L : StoreState}
    (hm : m.Invariant sdk capacity limit)
    (hL : m.Possible sdk limit L) :
    m.acknowledged.preferences.nextNotificationId ≤ L.preferences.nextNotificationId := by
  rcases hL.2 with rfl | hmem
  · exact le_rfl
  · exact hm.attempted L hmem

/-- Every step whose condition is met keeps the invariant. -/
theorem invariant_step
    {e : NotificationStoreEvent}
    (hcodec : sdk.RoundTrips)
    (hsteady : sdk.Steady)
    (hlimits : checkLimits capacity limit = .ok ())
    (hm : m.Invariant sdk capacity limit)
    (hprudent : PrudentStore sdk m e)
    (hstep : StoreStep sdk capacity limit m e m') :
    m'.Invariant sdk capacity limit := by
  have hlimit := (checkLimits_eq_ok.mp hlimits).2.2
  have hpossible : ∀ L, m.Possible sdk limit L → Storable sdk limit L := fun _ h => h.1
  have hbacked := hm.backed
  cases hstep with
  | @acknowledge s s' op script r hphase hrun =>
      rw [StoreMachine.Backed, hphase] at hbacked
      obtain ⟨hstate, hcapacity, haggregate, hconsistent, hrecoverable⟩ := hbacked
      have hpost := holds_of_run hrun
        (@operate_wp _ _ _ _ _ (fun L => m.Possible sdk limit L ∨
            (Storable sdk limit L ∧ L = op.apply capacity s.state)) _ op
          hcodec hsteady hlimit (hstate ▸ hm.storable) hcapacity haggregate
          (hstate ▸ hprudent.1) hconsistent hrecoverable (fun _ => Or.inl)
          fun hnew => Or.inr ⟨hnew, rfl⟩)
      obtain ⟨_, happly, hcapacity', haggregate', hdirectory⟩ := hpost
      rw [hstate] at happly hdirectory
      have hcounter := (@StoreOperation.apply_preferences capacity m.acknowledged op).2
      have hhistory : ∀ L ∈ m.acknowledged :: m.history, L.preferences.nextNotificationId ≤
          (op.apply capacity m.acknowledged).preferences.nextNotificationId := by
        intro L hL
        rcases List.mem_cons.mp hL with rfl | hold
        · exact hcounter
        · exact (hm.history L hold).trans hcounter
      rcases hdirectory with ⟨hnew, hfinished⟩ | ⟨hidle, hsame, hunchanged⟩
      · refine ⟨hnew, hhistory, by simp, happly, hcapacity', haggregate', ?_, ?_⟩
        · exact hfinished.consistent ⟨hnew, Or.inl rfl⟩
        · exact hfinished.recoverable ⟨hnew, Or.inl rfl⟩
      · have heq : op.apply capacity m.acknowledged = m.acknowledged := happly.symm.trans hsame
        have hfinished := hprudent.2 hidle s hphase
        rw [← hunchanged, ← heq] at hfinished
        have hnew : Storable sdk limit (op.apply capacity m.acknowledged) :=
          heq.symm ▸ hm.storable
        refine ⟨hnew, hhistory, by simp, happly, hcapacity', haggregate', ?_, ?_⟩
        · exact hfinished.consistent ⟨hnew, Or.inl rfl⟩
        · exact hfinished.recoverable ⟨hnew, Or.inl rfl⟩
  | @reject s s' op script e hphase hrun =>
      rw [StoreMachine.Backed, hphase] at hbacked
      obtain ⟨hstate, hcapacity, haggregate, hconsistent, hrecoverable⟩ := hbacked
      obtain ⟨hmono, hnew⟩ := @possible_attempt sdk limit m
        (.running s') (op.apply capacity m.acknowledged)
      have hpost := holds_of_run hrun
        (@operate_wp _ _ _ _ _ _ _ op hcodec hsteady hlimit (hstate ▸ hm.storable) hcapacity haggregate
          (hstate ▸ hprudent.1) hconsistent hrecoverable hmono (hstate ▸ hnew))
      obtain ⟨hsame, hcapacity', haggregate', hconsistent', hrecoverable'⟩ := hpost
      exact ⟨hm.storable, hm.history, attempted_attempt hm op,
        hsame.trans hstate, hcapacity', haggregate', hconsistent', hrecoverable'⟩
  | @crash s s' op script hphase hrun =>
      rw [StoreMachine.Backed, hphase] at hbacked
      obtain ⟨hstate, hcapacity, haggregate, hconsistent, hrecoverable⟩ := hbacked
      obtain ⟨hmono, hnew⟩ := @possible_attempt sdk limit m
        (.down s'.directory false) (op.apply capacity m.acknowledged)
      have hpost := holds_of_run hrun
        (@operate_wp _ _ _ _ _ _ _ op hcodec hsteady hlimit (hstate ▸ hm.storable) hcapacity haggregate
          (hstate ▸ hprudent.1) hconsistent hrecoverable hmono (hstate ▸ hnew))
      exact ⟨hm.storable, hm.history, attempted_attempt hm op, hpost.1, fun _ => hpost.2⟩
  | @kill s hphase =>
      rw [StoreMachine.Backed, hphase] at hbacked
      obtain ⟨_, _, _, hconsistent, hrecoverable⟩ := hbacked
      exact ⟨hm.storable, hm.history, hm.attempted, hconsistent, fun _ => hrecoverable⟩
  | @powerLoss files files' cutShort hphase hreverts =>
      rw [StoreMachine.Backed, hphase] at hbacked
      obtain ⟨hconsistent, hrecoverable⟩ := hbacked
      have hrecoverable₁ : Recoverable sdk (m.Possible sdk limit) files := by
        cases cutShort with
        | false => exact hrecoverable rfl
        | true => exact fun hnone => absurd hnone (hprudent files hphase)
      obtain ⟨hconsistent', hrecoverable'⟩ :=
        reverts_consistent hconsistent hrecoverable₁ hreverts
      exact ⟨hm.storable, hm.history, hm.attempted, hconsistent', fun _ => hrecoverable'⟩
  | @opened files files' cutShort script s hphase hrun =>
      rw [StoreMachine.Backed, hphase] at hbacked
      have hpost := reopen_run hcodec hlimits hpossible hbacked.1 script
      rw [hrun] at hpost
      obtain ⟨L, hL, hfinished, rfl⟩ := hpost
      have hcounter := counter_le_of_possible hm hL
      refine ⟨hL.1, fun L₀ hL₀ => ?_, by simp, rfl, rfl, rfl, ?_, ?_⟩
      · rcases List.mem_cons.mp hL₀ with rfl | hold
        · exact hcounter
        · exact (hm.history L₀ hold).trans hcounter
      · exact hfinished.consistent ⟨hL.1, Or.inl rfl⟩
      · exact hfinished.recoverable ⟨hL.1, Or.inl rfl⟩
  | @openFailed files files' cutShort script outcome hphase hrun hfailed =>
      rw [StoreMachine.Backed, hphase] at hbacked
      have hpost := reopen_run hcodec hlimits hpossible hbacked.1 script
      rw [hrun] at hpost
      have hcut : CutShort sdk (m.Possible sdk limit) files files' := by
        cases outcome with
        | ok s => cases hfailed
        | error e => exact hpost.2
        | crashed => exact hpost
      refine ⟨hm.storable, hm.history, hm.attempted, hcut.1, fun hflag => ?_⟩
      obtain ⟨hflag, hsynced⟩ := Bool.or_eq_false_iff.mp hflag
      refine hcut.2 (hbacked.2 hflag) ?_
      rcases Bool.and_eq_false_iff.mp hsynced with hmissing | hpresent
      · exact Or.inl (by simpa using hmissing)
      · exact Or.inr (by simpa using hpresent)

theorem invariant_of_reachable
    (hcodec : sdk.RoundTrips)
    (hsteady : sdk.Steady)
    (hlimits : checkLimits capacity limit = .ok ())
    (h : ((notificationStoreSystem sdk capacity limit).restrict (PrudentStore sdk)).Reachable m) :
    m.Invariant sdk capacity limit := by
  refine System.Reachable.invariant ?_ ?_ h
  · rintro _ ⟨L, files, rfl, hL, hfinished⟩
    refine ⟨hL, by simp, by simp, ?_, fun _ => ?_⟩
    · exact hfinished.consistent ⟨hL, Or.inl rfl⟩
    · exact hfinished.recoverable ⟨hL, Or.inl rfl⟩
  · exact fun _ _ _ hm hstep => invariant_step hcodec hsteady hlimits hm hstep.1 hstep.2

/-- The invariant says what the callers can count on. -/
theorem StoreMachine.Invariant.linearizable
    (hcodec : sdk.RoundTrips)
    (hlimits : checkLimits capacity limit = .ok ())
    (hm : m.Invariant sdk capacity limit) :
    Linearizable sdk capacity limit m := by
  have hbacked := hm.backed
  have hpossible : ∀ L, m.Possible sdk limit L → Storable sdk limit L := fun _ h => h.1
  have haccepted : ∀ files cutShort script e files', m.phase = .down files cutShort →
      (openWithLimits sdk capacity limit).run script files = (.error e, files') →
      ∃ f, e = IoError.system f := by
    intro files cutShort script e files' hphase hrun
    rw [StoreMachine.Backed, hphase] at hbacked
    have hpost := reopen_run hcodec hlimits hpossible hbacked.1 script
    rw [hrun] at hpost
    exact hpost.1
  refine ⟨?_, ?_, haccepted, ?_⟩
  · intro s hphase
    rw [StoreMachine.Backed, hphase] at hbacked
    exact hbacked.1
  · intro files cutShort script s files' hphase hrun
    rw [StoreMachine.Backed, hphase] at hbacked
    have hpost := reopen_run hcodec hlimits hpossible hbacked.1 script
    rw [hrun] at hpost
    obtain ⟨L, hL, _, rfl⟩ := hpost
    have hcounter := counter_le_of_possible hm hL
    refine ⟨hL.2, fun L₀ hL₀ => ?_⟩
    rcases List.mem_cons.mp hL₀ with rfl | hold
    · exact hcounter
    · exact (hm.history L₀ hold).trans hcounter
  · intro files cutShort script hphase hrefused
    exact openWithLimits_of_nothingRefused hrefused
      fun e files' hrun => haccepted files cutShort script e files' hphase hrun

/--
In every run whose steps meet the condition, opening a store finds the
acknowledged state or one further operation on it, fails only with a system
call and succeeds where none fails; and every state that is accepted can be
read back.
-/
theorem store_linearizable
    (hcodec : sdk.RoundTrips)
    (hsteady : sdk.Steady)
    (hlimits : checkLimits capacity limit = .ok ()) :
    (∀ m, ((notificationStoreSystem sdk capacity limit).restrict (PrudentStore sdk)).Reachable m →
        Linearizable sdk capacity limit m) ∧
      ∀ L : StoreState,
        sdk.validateAggregate L.active L.archive L.preferences limit = .ok () →
        (sdk.transactionJson (L.transaction sdk.durableSchemaVersion) ++ "\n").utf8ByteSize ≤
            maxDurableFileBytes ∧
          (sdk.documentsJson ⟨sdk.durableSchemaVersion, L.active⟩ ++ "\n").utf8ByteSize ≤
            maxDurableFileBytes ∧
          (sdk.documentsJson ⟨sdk.durableSchemaVersion, L.archive⟩ ++ "\n").utf8ByteSize ≤
            maxDurableFileBytes ∧
          (L.preferences.json ++ "\n").utf8ByteSize ≤ maxDurableFileBytes :=
  ⟨fun _ h => (invariant_of_reachable hcodec hsteady hlimits h).linearizable hcodec hlimits,
    fun _ hfits => file_fits (checkLimits_eq_ok.mp hlimits).2.2 hfits⟩

end Invariant

section Sample

/-- A directory without files, as a new installation has it. -/
def emptyMachine (sdk : NotificationSdk) : StoreMachine :=
  ⟨.down emptyDirectory false, ⟨[], [], sdk.defaultPreferences⟩, [], []⟩

theorem emptyMachine_initial
    {sdk : NotificationSdk} {capacity limit : Nat}
    (hfits : sdk.validateAggregate [] [] sdk.defaultPreferences limit = .ok ()) :
    (notificationStoreSystem sdk capacity limit).initial (emptyMachine sdk) := by
  refine ⟨_, _, rfl, ⟨by simp [notificationIds, ValidIds], hfits, rfl, Nat.one_pos,
    show 1 ≤ 2 ^ 64 - 1 by decide, by simp [notificationIds], rfl, rfl⟩, ?_⟩
  refine ⟨fun name hname => ?_, rfl, ?_⟩
  · rw [show fileCell emptyDirectory name = Cell.settled none from rfl, Cell.all_settled]
    cases name with
    | active => rfl
    | archive => rfl
    | transaction => exact absurd rfl hname
    | preferences => exact ⟨sdk.defaultPreferences, rfl, by rfl⟩
  · rw [show fileCell emptyDirectory .transaction = Cell.settled none from rfl, Cell.all_settled]
    exact Or.inl rfl

/-- The machine after an event, where the event is possible. -/
def StoreMachine.after (sdk : NotificationSdk) (capacity limit : Nat) (m : StoreMachine) :
    NotificationStoreEvent → Option StoreMachine
  | .operate op script =>
      match m.phase with
      | .down _ _ => none
      | .running s =>
          match (op.perform sdk).run script s with
          | (.ok _, s') =>
              some ⟨.running s', op.apply capacity m.acknowledged,
                m.acknowledged :: m.history, []⟩
          | (.error _, s') =>
              some ⟨.running s', m.acknowledged, m.history,
                op.apply capacity m.acknowledged :: m.attempted⟩
          | (.crashed, s') =>
              some ⟨.down s'.directory false, m.acknowledged, m.history,
                op.apply capacity m.acknowledged :: m.attempted⟩
  | .kill =>
      match m.phase with
      | .running s => some ⟨.down s.directory false, m.acknowledged, m.history, m.attempted⟩
      | .down _ _ => none
  | .powerLoss => none
  | .reopen script =>
      match m.phase with
      | .running _ => none
      | .down files cutShort =>
          match (openWithLimits sdk capacity limit).run script files with
          | (.ok s, _) => some ⟨.running s, s.state, m.acknowledged :: m.history, []⟩
          | (.error _, files') =>
              some ⟨.down files' (cutShort || unsyncedJournal files), m.acknowledged,
                m.history, m.attempted⟩
          | (.crashed, files') =>
              some ⟨.down files' (cutShort || unsyncedJournal files), m.acknowledged,
                m.history, m.attempted⟩

theorem step_of_after
    {sdk : NotificationSdk} {capacity limit : Nat} {m m' : StoreMachine}
    {e : NotificationStoreEvent}
    (h : m.after sdk capacity limit e = some m') :
    StoreStep sdk capacity limit m e m' := by
  cases e with
  | operate op script =>
      simp only [StoreMachine.after] at h
      split at h
      · cases h
      case h_2 s hphase =>
        split at h <;> cases h
        case h_1 hrun => exact .acknowledge hphase hrun
        case h_2 hrun => exact .reject hphase hrun
        case h_3 hrun => exact .crash hphase hrun
  | kill =>
      simp only [StoreMachine.after] at h
      split at h <;> cases h
      case h_1 hphase => exact .kill hphase
  | powerLoss => cases h
  | reopen script =>
      simp only [StoreMachine.after] at h
      split at h
      · cases h
      case h_2 files cutShort hphase =>
        split at h <;> cases h
        case h_1 hrun => exact .opened hphase hrun
        case h_2 hrun => exact .openFailed hphase hrun rfl
        case h_3 hrun => exact .openFailed hphase hrun rfl

theorem prudent_after
    {sdk : NotificationSdk} {capacity limit : Nat} {m m' : StoreMachine}
    {e : NotificationStoreEvent}
    (h : ((notificationStoreSystem sdk capacity limit).restrict (PrudentStore sdk)).Reachable m)
    (hafter : m.after sdk capacity limit e = some m')
    (hprudent : PrudentStore sdk m e) :
    ((notificationStoreSystem sdk capacity limit).restrict (PrudentStore sdk)).Reachable m' :=
  .step (e := e) h ⟨hprudent, step_of_after hafter⟩

theorem reachable_of_after
    {sdk : NotificationSdk} {capacity limit : Nat} {m m' : StoreMachine}
    {e : NotificationStoreEvent}
    (h : (notificationStoreSystem sdk capacity limit).Reachable m)
    (hafter : m.after sdk capacity limit e = some m') :
    (notificationStoreSystem sdk capacity limit).Reachable m' :=
  .step (e := e) h (step_of_after hafter)

/-- A notification as a client sends it. -/
def sentNotification (summary : String) : NotificationDocument :=
  { schemaVersion := 2
    id := 0
    applicationId := "org.example.App"
    summary := summary
    body := "Desktop ready"
    urgency := .normal
    createdAt := "2026-08-30T12:00:00Z"
    timeoutMs := none
    read := false
    archived := false
    actions := [] }

def firstPush : StoreOperation :=
  .push (sentNotification "First")

def secondPush : StoreOperation :=
  .push (sentNotification "Second")

def thirdPush : StoreOperation :=
  .push (sentNotification "Third")

/-- The three notifications with the identifiers that they get. -/
def sentDocuments : List NotificationDocument :=
  [{ sentNotification "First" with id := 1 }, { sentNotification "Second" with id := 2 },
    { sentNotification "Third" with id := 3 }]

/-- What the second push writes. -/
def pushedSecond : StoreState :=
  secondPush.apply 1 (firstPush.apply 1 ⟨[], [], ⟨1, false, 1⟩⟩)

theorem legible_sentDocuments : Legible sentDocuments where
  plain d hd := by
    simp only [sentDocuments, List.mem_cons, List.not_mem_nil, or_false] at hd
    rcases hd with rfl | rfl | rfl <;> exact ⟨rfl, rfl, by decide, by decide⟩
  distinct d hd := by
    simp only [sentDocuments, List.mem_cons, List.not_mem_nil, or_false] at hd
    rcases hd with rfl | rfl | rfl <;> rfl

theorem readable_pushedSecond : Readable sentDocuments pushedSecond where
  active := by decide +kernel
  archive := by decide +kernel
  version := rfl
  bounded := by decide

/-- Libraries that know the three notifications. -/
def sentSdk : NotificationSdk :=
  knownSdk sentDocuments [pushedSecond]

theorem sentSdk_roundTrips : sentSdk.RoundTrips :=
  knownSdk_roundTrips legible_sentDocuments fun L hL => by
    rw [List.mem_singleton.mp hL]
    exact readable_pushedSecond

theorem sentSdk_steady : sentSdk.Steady :=
  knownSdk_steady legible_sentDocuments

/-- The machine after an event that is possible. -/
def StoreMachine.next (m : StoreMachine) (e : NotificationStoreEvent) : StoreMachine :=
  (m.after sentSdk 1 4096 e).getD m

/-- Everything goes well until the process stops. -/
def stoppedAfter (calls : Nat) : List (Answer NotificationFile String) :=
  List.replicate calls default ++ [{ fault := .crash, torn := "" }]

section Recovered

variable {m : StoreMachine}

/-- The runs of a store with these libraries. -/
def SentReachable (m : StoreMachine) : Prop :=
  ((notificationStoreSystem sentSdk 1 4096).restrict (PrudentStore sentSdk)).Reachable m

theorem prudent_next {e : NotificationStoreEvent}
    (h : SentReachable m)
    (hpossible : (m.after sentSdk 1 4096 e).isSome = true)
    (hprudent : PrudentStore sentSdk m e) :
    SentReachable (m.next e) := by
  obtain ⟨m', hm'⟩ := Option.isSome_iff_exists.mp hpossible
  rw [StoreMachine.next, hm']
  exact prudent_after h hm' hprudent

theorem step_next {e : NotificationStoreEvent}
    (hpossible : (m.after sentSdk 1 4096 e).isSome = true) :
    StoreStep sentSdk 1 4096 m e (m.next e) := by
  obtain ⟨m', hm'⟩ := Option.isSome_iff_exists.mp hpossible
  rw [StoreMachine.next, hm']
  exact step_of_after hm'

/-- A push that clients send meets the condition: its document is not archived. -/
theorem prudent_push {notification : NotificationDocument}
    {script : List (Answer NotificationFile String)} (h : notification.archived = false) :
    PrudentStore sentSdk m (.operate (.push notification) script) := by
  refine ⟨fun p preferences hassign hvalid => ?_, False.elim⟩
  have hp := (assignId_eq_ok hassign).1
  have harchived : p.archived = false := by
    rw [hp]
    exact h
  rwa [← harchived]

/-- After a commit the directory holds the acknowledged state alone. -/
theorem finished_of_committed {op : StoreOperation}
    {script : List (Answer NotificationFile String)} {m' : StoreMachine}
    (h : SentReachable m)
    (hprudent : PrudentStore sentSdk m (.operate op script))
    (hstep : StoreStep sentSdk 1 4096 m (.operate op script) m')
    (hbusy : ¬ op.Idle m.acknowledged) (hnone : m'.attempted = []) :
    ∀ s, m'.phase = .running s → Finished sentSdk m'.acknowledged s.directory := by
  have hm := invariant_of_reachable sentSdk_roundTrips sentSdk_steady rfl h
  have hbacked := hm.backed
  cases hstep with
  | @acknowledge s s' op script r hphase hrun =>
      rw [StoreMachine.Backed, hphase] at hbacked
      obtain ⟨hstate, hcapacity, haggregate, hconsistent, hrecoverable⟩ := hbacked
      have hpost := holds_of_run hrun
        (@operate_wp _ _ _ _ _ (fun L => m.Possible sentSdk 4096 L ∨
            (Storable sentSdk 4096 L ∧ L = op.apply 1 s.state)) _ op
          sentSdk_roundTrips sentSdk_steady (by decide) (hstate ▸ hm.storable) hcapacity haggregate
          (hstate ▸ hprudent.1) hconsistent hrecoverable (fun _ => Or.inl)
          fun hnew => Or.inr ⟨hnew, rfl⟩)
      rintro t ht
      cases ht
      rcases hpost.2.2.2.2 with ⟨-, hfinished⟩ | ⟨hidle, -⟩
      · rw [hstate] at hfinished
        exact hfinished
      · rw [hstate] at hidle
        exact absurd hidle hbusy
  | reject => cases hnone
  | crash => cases hnone

/-- An operation that finds its notification missing touches nothing. -/
theorem finished_of_missing {id : Nat}
    {script : List (Answer NotificationFile String)} {m' : StoreMachine}
    (hfinished : ∀ s, m.phase = .running s → Finished sentSdk m.acknowledged s.directory)
    (hstep : StoreStep sentSdk 1 4096 m (.operate (.markRead id) script) m')
    (hmissing : ∀ s, m.phase = .running s →
      NotificationStore.updateFirst id (fun n => { n with read := true }) s.active = none) :
    ∀ s, m'.phase = .running s → Finished sentSdk m'.acknowledged s.directory := by
  have hrun : ∀ s, m.phase = .running s →
      ((StoreOperation.markRead id).perform sentSdk).run script s =
        (.error NotificationStore.notificationNotFound, s) := by
    intro s hphase
    simp only [StoreOperation.perform, NotificationStore.markRead, bind, andThen, Program.get,
      run, hmissing s hphase]
  cases hstep with
  | acknowledge hphase hacknowledged =>
      rw [hrun _ hphase] at hacknowledged
      cases hacknowledged
  | reject hphase hrejected =>
      rw [hrun _ hphase] at hrejected
      cases hrejected
      rintro t ht
      cases ht
      exact hfinished _ hphase
  | crash hphase hcrashed =>
      rw [hrun _ hphase] at hcrashed
      cases hcrashed

end Recovered

def openedFirst : StoreMachine :=
  (emptyMachine sentSdk).next (.reopen [])

/-- The first notification is pushed into a new store. -/
def pushedFirst : StoreMachine :=
  openedFirst.next (.operate firstPush [])

/-- An unknown notification is asked for. -/
def missed : StoreMachine :=
  pushedFirst.next (.operate (.markRead 7) [])

/-- An expiry finds nothing to do. -/
def idled : StoreMachine :=
  missed.next (.operate .expireAllActions [])

/-- The next push stops before its journal is synced. -/
def crashedSecond : StoreMachine :=
  idled.next (.operate secondPush (stoppedAfter 6))

/-- The store replays the journal, takes a third notification and is killed. -/
def recovered : StoreMachine :=
  crashedSecond.next (.reopen [])

def pushedThird : StoreMachine :=
  recovered.next (.operate thirdPush [])

def killedThird : StoreMachine :=
  pushedThird.next .kill

theorem fits_emptyMachine :
    sentSdk.validateAggregate [] [] sentSdk.defaultPreferences 4096 = .ok () := by
  decide +kernel

/-- No notification of the first push has the identifier that is asked for. -/
def missesSeventh (m : StoreMachine) : Bool :=
  match m.phase with
  | .running s =>
      (NotificationStore.updateFirst 7 (fun n => { n with read := true }) s.active).isNone
  | .down _ _ => true

/-- Each of these steps is possible, and so the states that they lead to are as they should be. -/
theorem possible_killedThird :
    (((emptyMachine sentSdk).after sentSdk 1 4096 (.reopen [])).isSome = true ∧
      (openedFirst.after sentSdk 1 4096 (.operate firstPush [])).isSome = true ∧
      (pushedFirst.after sentSdk 1 4096 (.operate (.markRead 7) [])).isSome = true ∧
      (missed.after sentSdk 1 4096 (.operate .expireAllActions [])).isSome = true ∧
      (idled.after sentSdk 1 4096 (.operate secondPush (stoppedAfter 6))).isSome = true ∧
      (crashedSecond.after sentSdk 1 4096 (.reopen [])).isSome = true ∧
      (recovered.after sentSdk 1 4096 (.operate thirdPush [])).isSome = true ∧
      (pushedThird.after sentSdk 1 4096 .kill).isSome = true) ∧
    (pushedFirst.attempted = [] ∧ missesSeventh pushedFirst = true) ∧
    (crashedSecond.attempted = [pushedSecond] ∧
      notificationIds crashedSecond.acknowledged.active = [1]) ∧
    notificationIds killedThird.acknowledged.active = [3] ∧
      notificationIds killedThird.acknowledged.archive = [1, 2] := by
  decide +kernel

theorem missing_pushedFirst : ∀ s, pushedFirst.phase = .running s →
    NotificationStore.updateFirst 7 (fun n => { n with read := true }) s.active = none := by
  intro s hphase
  have hcheck := possible_killedThird.2.1.2
  rw [missesSeventh, hphase] at hcheck
  exact Option.isNone_iff_eq_none.mp hcheck

/-- The failed operation has left the directory alone, so the expiry may be acknowledged. -/
theorem reachable_crashedSecond : SentReachable crashedSecond := by
  obtain ⟨⟨hopened, hpushed, hmissed, hidled, hcrashed, -⟩, ⟨hattempted, -⟩, -⟩ :=
    possible_killedThird
  have hfirst : SentReachable openedFirst :=
    prudent_next (.initial (@emptyMachine_initial sentSdk 1 4096 fits_emptyMachine)) hopened
      trivial
  have hfinished := finished_of_committed hfirst (prudent_push rfl) (step_next hpushed) id
    hattempted
  have hmissing := finished_of_missing hfinished (step_next hmissed) missing_pushedFirst
  have hasked : SentReachable missed :=
    prudent_next (prudent_next hfirst hpushed (prudent_push rfl)) hmissed
      ⟨trivial, False.elim⟩
  exact prudent_next (prudent_next hasked hidled ⟨trivial, fun _ => hmissing⟩) hcrashed
    (prudent_push rfl)

theorem reachable_killedThird : SentReachable killedThird := by
  obtain ⟨⟨-, -, -, -, -, hreopened, hthird, hkilled⟩, -⟩ := possible_killedThird
  have hpushed : SentReachable pushedThird :=
    prudent_next (prudent_next reachable_crashedSecond hreopened trivial) hthird
      (prudent_push rfl)
  exact prudent_next hpushed hkilled trivial

/-- A push that is cut off by a crash is recovered, and one that succeeds survives a kill. -/
theorem store_linearizable_killed :
    (Linearizable sentSdk 1 4096 crashedSecond ∧ crashedSecond.attempted = [pushedSecond] ∧
      notificationIds crashedSecond.acknowledged.active = [1]) ∧
    Linearizable sentSdk 1 4096 killedThird ∧
      notificationIds killedThird.acknowledged.active = [3] ∧
      notificationIds killedThird.acknowledged.archive = [1, 2] :=
  have h := (@store_linearizable sentSdk 1 4096 sentSdk_roundTrips sentSdk_steady rfl).1
  have hstates := possible_killedThird.2.2
  ⟨⟨h _ reachable_crashedSecond, hstates.1⟩, h _ reachable_killedThird, hstates.2⟩

/-- The states that two pushes into a store with room for one lead to. -/
def pushedStates : List StoreState :=
  let first := firstPush.apply 1 ⟨[], [], plainSdk.defaultPreferences⟩
  [first, secondPush.apply 1 first]

/-- Libraries that know what is written for these states. -/
def pushedSdk : NotificationSdk :=
  { plainSdk with
    parseTransaction := fun text =>
      match pushedStates.find? fun L => plainSdk.transactionJson (L.transaction 1) ++ "\n" = text with
      | some L => .ok (L.transaction 1)
      | none => .error "unexpected text"
    parseDocuments := fun text =>
      match (pushedStates.flatMap fun L => [L.active, L.archive]).find? fun documents =>
          plainSdk.documentsJson ⟨1, documents⟩ ++ "\n" = text with
      | some documents => .ok ⟨1, documents⟩
      | none => .error "unexpected text"
    parsePreferences := fun text =>
      match pushedStates.find? fun L => L.preferences.json ++ "\n" = text with
      | some L => .ok L.preferences
      | none => .error "unexpected text" }

/--
The second push stops before the journal is synced, and the replay of the
journal stops before the first of the three files is.
-/
def replayCutShort : Option StoreMachine := do
  let opened ← (emptyMachine pushedSdk).after pushedSdk 1 4096 (.reopen [])
  let first ← opened.after pushedSdk 1 4096 (.operate firstPush [])
  let second ← first.after pushedSdk 1 4096 (.operate secondPush (stoppedAfter 6))
  second.after pushedSdk 1 4096 (.reopen (stoppedAfter 8))

/-- The journal is lost, and everything else is kept. -/
def withoutJournal (files : NotificationFiles) : NotificationFiles :=
  files.powerLoss fun _ n => if n = .named .transaction then 1 else 0

/-- A store opened without the journal finds neither of the two states. -/
def findsNeither (m : StoreMachine) : Bool :=
  match m.phase with
  | .running _ => false
  | .down files _ =>
      match (openWithLimits pushedSdk 1 4096).run [] (withoutJournal files) with
      | (.ok s, _) => s.state ≠ m.acknowledged ∧ s.state ∉ m.attempted
      | (.error _, _) => false
      | (.crashed, _) => false

theorem replayCutShort_findsNeither : replayCutShort.any findsNeither = true := by
  decide +kernel

theorem replayCutShort_reachable
    {m : StoreMachine}
    (h : replayCutShort = some m) :
    (notificationStoreSystem pushedSdk 1 4096).Reachable m := by
  unfold replayCutShort at h
  obtain ⟨opened, hopened, hrest⟩ := Option.bind_eq_some_iff.mp h
  obtain ⟨first, hfirst, hrest⟩ := Option.bind_eq_some_iff.mp hrest
  obtain ⟨second, hsecond, hreplay⟩ := Option.bind_eq_some_iff.mp hrest
  have hempty : (notificationStoreSystem pushedSdk 1 4096).initial (emptyMachine pushedSdk) :=
    emptyMachine_initial (by decide +kernel)
  have hrunning := reachable_of_after (.initial hempty) hopened
  exact reachable_of_after (reachable_of_after (reachable_of_after hrunning hfirst) hsecond)
    hreplay

/-- A loss of power during a replay leaves a mixture of two states. -/
theorem replay_mixes_states :
    ¬ ∀ m, (notificationStoreSystem pushedSdk 1 4096).Reachable m → Linearizable pushedSdk 1 4096 m := by
  intro hall
  obtain ⟨m, hm, hneither⟩ := (Option.any_eq_true _ _).mp replayCutShort_findsNeither
  unfold findsNeither at hneither
  split at hneither
  · cases hneither
  case h_2 files cutShort hphase =>
    have hstep : StoreStep pushedSdk 1 4096 m .powerLoss
        ⟨.down (withoutJournal files) false, m.acknowledged, m.history, m.attempted⟩ :=
      .powerLoss hphase (files.reverts_powerLoss _)
    have hlost : (notificationStoreSystem pushedSdk 1 4096).Reachable _ :=
      .step (e := .powerLoss) (replayCutShort_reachable hm) hstep
    split at hneither
    case h_1 s files' hrun =>
      have hfound := ((hall _ hlost).reopened _ _ _ _ _ rfl hrun).1
      obtain ⟨hacknowledged, hattempted⟩ := of_decide_eq_true hneither
      exact hfound.elim hacknowledged hattempted
    · cases hneither
    · cases hneither

end Sample

end SleepySession
