import SleepySession.Desktop.SecretRuns

/-!
# What the worker of a finished request can do

A worker that has lost its request notices this at any later time.  Its reply
and its completion name the request by id and find nothing; the cancellation
after a failed receive names it by key alone and can hit a newer request.  A
connection can moreover be told that its secret was accepted after the worker
has already taken another one.
-/

namespace SleepySession

open NetworkManagerSecretExchange

section Laws

variable {ι σ : Type} [DecidableEq ι]

/-- Nothing changes but the channel and the worker of one cell. -/
structure LeavesOthers (c : Nat) (s s' : SecretRun ι σ) : Prop where
  pending : s'.exchange.pending = s.exchange.pending
  others : ∀ c', c' ≠ c →
    s'.exchange.cells c' = s.exchange.cells c' ∧ s'.workers c' = s.workers c'

/-- What a step is allowed to do to the requests. -/
structure SecretRun.Lawful
    (fromUtf8 : σ → Option String) (s : SecretRun ι σ) (e : SecretStep ι σ) : Prop where
  /-- The worker of a request that is not pending touches nothing else. -/
  stale : ∀ c delivered, e = .work c delivered →
    s.exchange.pending.map (·.cell) ≠ some c → LeavesOthers c s (s.after fromUtf8 e)
  /-- A request is cancelled by the owner, by a matching message or by its deadline. -/
  cancelled : ∀ c, (s.exchange.cells c).cancelled = false →
    ((s.after fromUtf8 e).exchange.cells c).cancelled = true →
      e = .ownerChanged ∨
        (∃ request, e = .cancelGetSecrets request.key ∧
          s.exchange.pending = some request ∧ request.cell = c) ∨
        ∃ delivered worker, e = .work c delivered ∧ s.workers c = some worker ∧
          worker.receiver.deadline ≤ s.exchange.now
  /-- No second submission is acknowledged for a request. -/
  acknowledged : ∀ c object object',
    .submitted c object true ∈ (s.after fromUtf8 e).history →
    .submitted c object' true ∈ s.history → .submitted c object true ∈ s.history

/-- The worker has taken a secret, and its receiver is still there. -/
def WorkerState.Took : WorkerState σ → Prop
  | .received _ => True
  | .answering _ _ => True
  | _ => False

/-- The two situations that the exchange does not guard against are absent. -/
def SecretRun.Undisturbed (s : SecretRun ι σ) : SecretStep ι σ → Prop
  | .work c _ => ∀ worker e, s.workers c = some worker → worker.state = .failing e →
      ∀ request, s.exchange.pending = some request → request.cell ≠ c →
        request.key = worker.receiver.key → request.replyStarted = true
  | .submit i _ => ∀ lease request worker, s.leases[i]? = some lease →
      s.exchange.pending = some request → Matching lease request →
        s.exchange.now < request.deadline →
          s.workers request.cell = some worker → ¬ worker.state.Took
  | _ => True

/-- No submission was acknowledged for the request of a cell. -/
def SecretRun.Unanswered (s : SecretRun ι σ) (c : Nat) : Prop :=
  ∀ object, .submitted c object true ∉ s.history

/-- How the channel of a worker stands to its progress. -/
def SecretRun.WorkerLaw (s : SecretRun ι σ) (c : Nat) (worker : SecretWorker ι σ) : Prop :=
  let cell := s.exchange.cells c
  match worker.state with
  | .started => cell.receiverOpen = true ∧ (cell.buffer = none → s.Unanswered c)
  | .receiving => cell.receiverOpen = true ∧ (cell.buffer = none → s.Unanswered c)
  | .failing _ => worker.receiver.deadline ≤ s.exchange.now ∨
      s.exchange.pending.map (·.cell) ≠ some c
  | .received _ => cell.receiverOpen = true ∧ cell.buffer = none
  | .answering _ _ => cell.receiverOpen = true ∧ cell.buffer = none
  | _ => cell.receiverOpen = false

/-- At most one submission was acknowledged for each request. -/
def SecretRun.AnsweredOnce (s : SecretRun ι σ) : Prop :=
  s.history.Pairwise fun newer older => ∀ c object object',
    ¬ (newer = .submitted c object true ∧ older = .submitted c object' true)

/-- The invariant of the runs without the two situations. -/
structure SecretRun.Orderly (s : SecretRun ι σ) : Prop where
  coherent : s.Coherent
  workers : ∀ c worker, s.workers c = some worker → s.WorkerLaw c worker
  answers : s.AnsweredOnce

end Laws

section Effects

variable {ι σ : Type} [DecidableEq ι] {s s' : SecretRun ι σ} {worker : SecretWorker ι σ}
variable {c : Nat}

/-- The channel of a cell is the same, whatever its flag says. -/
def SameChannel (cell cell' : RequestCell σ) : Prop :=
  cell'.buffer = cell.buffer ∧ cell'.receiverOpen = cell.receiverOpen

omit [DecidableEq ι] in
/-- A worker that is not concerned keeps its law. -/
theorem SecretRun.WorkerLaw.mono
    (h : s.WorkerLaw c worker)
    (hcell : SameChannel (s.exchange.cells c) (s'.exchange.cells c))
    (hnow : s.exchange.now ≤ s'.exchange.now)
    (hpending : s.exchange.pending.map (·.cell) ≠ some c →
      s'.exchange.pending.map (·.cell) ≠ some c)
    (hanswered : s.Unanswered c → s'.Unanswered c) :
    s'.WorkerLaw c worker := by
  obtain ⟨hbuffer, hopen⟩ := hcell
  unfold SecretRun.WorkerLaw at *
  dsimp only at *
  rw [hbuffer, hopen]
  split
  case h_1 hstate =>
    rw [hstate] at h
    exact ⟨h.1, fun hnone => hanswered (h.2 hnone)⟩
  case h_2 hstate =>
    rw [hstate] at h
    exact ⟨h.1, fun hnone => hanswered (h.2 hnone)⟩
  case h_3 e hstate =>
    rw [hstate] at h
    exact h.imp hnow.trans' hpending
  all_goals
    rename_i hstate
    simp_all

/-- What a step of the worker of a cell changes besides itself. -/
structure WorkEffect (c : Nat) (worker : SecretWorker ι σ) (s s' : SecretRun ι σ) :
    Prop where
  workers : ∀ c', c' ≠ c → s'.workers c' = s.workers c'
  now : s'.exchange.now = s.exchange.now
  history : s'.history = s.history ∨ ∃ record, s'.history = record :: s.history ∧
    ∀ c' object, record ≠ .submitted c' object true
  channels : ∀ c', c' ≠ c → SameChannel (s.exchange.cells c') (s'.exchange.cells c')
  exchange :
    (s'.exchange.pending = s.exchange.pending ∧
        (∀ c', c' ≠ c → s'.exchange.cells c' = s.exchange.cells c') ∧
        ∀ c', (s'.exchange.cells c').cancelled = (s.exchange.cells c').cancelled) ∨
      (∃ e request, worker.state = .failing e ∧ s.exchange.pending = some request ∧
        request.key = worker.receiver.key ∧ request.replyStarted = false ∧
        s'.exchange.pending = none ∧
        ∀ c', c' ≠ request.cell →
          (s'.exchange.cells c').cancelled = (s.exchange.cells c').cancelled) ∨
      (∃ request, s.exchange.pending = some request ∧ request.cell = c ∧
        (s'.exchange.pending = none ∨ s'.exchange.pending.map (·.cell) = some c) ∧
        ∀ c', (s'.exchange.cells c').cancelled = (s.exchange.cells c').cancelled)

omit [DecidableEq ι] in
/-- A step that changes nothing but the own worker and the own channel. -/
theorem workEffect_own
    (hcell : worker.receiver.cell = c)
    {state : WorkerState σ} {cell : RequestCell σ}
    (hflag : cell.cancelled = (s.exchange.cells c).cancelled) :
    WorkEffect c worker s
      (SecretRun.proceed { s with exchange := s.exchange.updateCell c cell } worker state) := by
  refine ⟨?_, rfl, Or.inl rfl, ?_, Or.inl ⟨rfl, ?_, ?_⟩⟩
  · intro c' hne
    rw [proceed_workers, hcell, if_neg hne]
  · intro c' hne
    simp [SameChannel, SecretRun.proceed, updateCell_cells, hne]
  · intro c' hne
    simp [SecretRun.proceed, updateCell_cells, hne]
  · intro c'
    by_cases hc : c' = c
    · simp [SecretRun.proceed, updateCell_cells, hc, hflag]
    · simp [SecretRun.proceed, updateCell_cells, hc]

omit [DecidableEq ι] in
theorem workEffect_proceed
    (hcell : worker.receiver.cell = c)
    (state : WorkerState σ) :
    WorkEffect c worker s (s.proceed worker state) := by
  refine ⟨?_, rfl, Or.inl rfl, fun _ _ => ⟨rfl, rfl⟩,
    Or.inl ⟨rfl, fun _ _ => rfl, fun _ => rfl⟩⟩
  intro c' hne
  rw [proceed_workers, hcell, if_neg hne]

omit [DecidableEq ι] in
theorem workEffect_returns
    (hcell : worker.receiver.cell = c)
    (state : WorkerState σ) :
    WorkEffect c worker s (s.returns worker state) := by
  subst hcell
  exact workEffect_own rfl rfl

omit [DecidableEq ι] in
theorem workEffect_refl : WorkEffect c worker s s :=
  ⟨fun _ _ => rfl, rfl, Or.inl rfl, fun _ _ => ⟨rfl, rfl⟩,
    Or.inl ⟨rfl, fun _ _ => rfl, fun _ => rfl⟩⟩

omit [DecidableEq ι] in
/-- The cancellation by key that follows a failed receive. -/
theorem workEffect_failing
    (hcell : worker.receiver.cell = c)
    {e : IoError}
    (hstate : worker.state = .failing e) :
    WorkEffect c worker s
      ((s.afterCancel (s.exchange.cancelMatching worker.receiver.key)).returns worker
        (.refusing e)) := by
  rcases cancelMatching_cases worker.receiver.key s.exchange with
    hsame | ⟨request, hrequest, hkey, hstarted, hrevoked⟩
  · have hidle : s.afterCancel (s.exchange.cancelMatching worker.receiver.key) = s := by
      rw [hsame]
      unfold SecretRun.afterCancel
      cases hpending : s.exchange.pending <;> simp
    rw [hidle]
    exact workEffect_returns hcell _
  · have hcancelled : s.afterCancel (s.exchange.cancelMatching worker.receiver.key) =
        { s with
          exchange := s.exchange.revoke request
          history := .removed request.cell :: s.history } := by
      rw [hrevoked]
      simp [SecretRun.afterCancel, hrequest, revoke]
    rw [hcancelled]
    have hflag : ∀ c', c' ≠ request.cell →
        (((s.exchange.revoke request).cells c').cancelled =
          (s.exchange.cells c').cancelled) := by
      intro c' hne
      simp [revoke, updateCell_cells, hne]
    have hchannel : ∀ c', SameChannel (s.exchange.cells c')
        ((s.exchange.revoke request).cells c') := by
      intro c'
      by_cases hc : c' = request.cell
      · simp [SameChannel, revoke, updateCell_cells, hc]
      · simp [SameChannel, revoke, updateCell_cells, hc]
    subst hcell
    refine ⟨?_, rfl, ?_, ?_, Or.inr (Or.inl ⟨e, request, hstate, hrequest, hkey, hstarted, rfl,
      ?_⟩)⟩
    · intro c' hne
      rw [SecretRun.returns, proceed_workers, if_neg hne]
    · exact Or.inr ⟨.removed request.cell, rfl, fun _ _ => by simp⟩
    · intro c' hne
      have := hchannel c'
      simpa [SecretRun.returns, SecretRun.proceed, updateCell_cells, hne] using this
    · intro c' hne
      have hflag' := hflag c' hne
      by_cases hc : c' = worker.receiver.cell
      · subst hc
        simpa [SecretRun.returns, SecretRun.proceed, updateCell_cells] using hflag'
      · simpa [SecretRun.returns, SecretRun.proceed, updateCell_cells, hc] using hflag'

/-- The effect of every step of a worker. -/
theorem work_effect
    (h : s.Coherent)
    (hworker : s.workers c = some worker)
    (fromUtf8 : σ → Option String) (delivered : Bool) :
    WorkEffect c worker s (s.work fromUtf8 delivered worker) := by
  have hcell := (h.workers c worker hworker).1
  unfold SecretRun.work
  dsimp only
  split
  case h_1 =>
    split <;> exact workEffect_proceed hcell _
  case h_2 =>
    unfold SecretRun.receive
    dsimp only
    split
    · subst hcell
      exact workEffect_own rfl rfl
    split
    · exact workEffect_proceed hcell _
    split
    · exact workEffect_proceed hcell _
    · exact workEffect_refl
  case h_3 e hstate => exact workEffect_failing hcell hstate
  case h_4 =>
    split
    · exact workEffect_returns hcell _
    split
    · exact workEffect_returns hcell _
    · exact workEffect_proceed hcell _
  case h_5 =>
    split <;> exact workEffect_returns hcell _
  case h_6 reply secret hstate =>
    split
    · exact workEffect_proceed hcell _
    case h_2 exchange hsend =>
      obtain ⟨request, hrequest, hid, rfl⟩ := sendReplyIfLive_eq_some hsend
      have hown := h.own hworker hrequest hid
      refine ⟨?_, rfl, ?_, fun _ _ => ⟨rfl, rfl⟩, Or.inr (Or.inr
        ⟨request, hrequest, hown, Or.inr (congrArg some hown), fun _ => rfl⟩)⟩
      · intro c' hne
        rw [proceed_workers, hcell, if_neg hne]
      · exact Or.inr ⟨.replied worker.receiver.cell secret.object reply, rfl,
          fun _ _ => by simp⟩
  case h_7 => exact workEffect_proceed hcell _
  case h_8 =>
    rcases complete_cases worker.receiver.id s.exchange with
      hsame | ⟨request, hrequest, hid, hvacant⟩
    · rw [hsame]
      exact workEffect_proceed hcell _
    · rw [hvacant]
      have hown := h.own hworker hrequest hid
      refine ⟨?_, rfl, Or.inl rfl, fun _ _ => ⟨rfl, rfl⟩, Or.inr (Or.inr
        ⟨request, hrequest, hown, Or.inl rfl, fun _ => rfl⟩)⟩
      intro c' hne
      rw [proceed_workers, hcell, if_neg hne]
  case h_9 => exact workEffect_refl

end Effects

section Order

variable {ι σ : Type} [DecidableEq ι] {s s' : SecretRun ι σ} {worker : SecretWorker ι σ}
variable {c : Nat} {fromUtf8 : σ → Option String}

omit [DecidableEq ι] in
theorem SecretRun.AnsweredOnce.cons
    {record : SecretRecord ι σ}
    (h : s.AnsweredOnce)
    (hrecord : ∀ c object, record = .submitted c object true → s.Unanswered c) :
    (record :: s.history).Pairwise fun newer older => ∀ c object object',
      ¬ (newer = .submitted c object true ∧ older = .submitted c object' true) := by
  refine List.Pairwise.cons ?_ h
  rintro older hmem c object object' ⟨hnew, rfl⟩
  exact hrecord c object hnew object' hmem

/-- Where the worker of a cell stands after its own step. -/
theorem workerLaw_work
    (h : s.Coherent)
    (hworker : s.workers c = some worker)
    (hlaw : s.WorkerLaw c worker)
    (fromUtf8 : σ → Option String) (delivered : Bool) :
    ∀ worker', (s.work fromUtf8 delivered worker).workers c = some worker' →
      (s.work fromUtf8 delivered worker).WorkerLaw c worker' := by
  obtain ⟨rfl, _⟩ := h.workers c worker hworker
  -- the law of the next state for the three forms of a step
  have hproceed : ∀ (t : SecretRun ι σ) (state : WorkerState σ),
      t.WorkerLaw worker.receiver.cell ⟨worker.receiver, state⟩ →
      ∀ worker', (t.proceed worker state).workers worker.receiver.cell = some worker' →
        (t.proceed worker state).WorkerLaw worker.receiver.cell worker' := by
    intro t state hnext worker' hworker'
    rw [proceed_workers, if_pos rfl] at hworker'
    obtain rfl := Option.some.inj hworker'
    exact hnext
  have hreturns : ∀ (t : SecretRun ι σ) (state : WorkerState σ),
      (state = .refusing requestCancelled ∨ (∃ e, state = .refusing e) ∨
        ∃ reply secret, state = .replying reply secret) →
      ∀ worker', (t.returns worker state).workers worker.receiver.cell = some worker' →
        (t.returns worker state).WorkerLaw worker.receiver.cell worker' := by
    intro t state hstate
    refine hproceed _ state ?_
    rcases hstate with rfl | ⟨e, rfl⟩ | ⟨reply, secret, rfl⟩ <;>
      simp [SecretRun.WorkerLaw, updateCell_cells]
  unfold SecretRun.WorkerLaw at hlaw
  dsimp only at hlaw
  unfold SecretRun.work
  dsimp only
  split
  case h_1 hstate =>
    rw [hstate] at hlaw
    split
    case isTrue hdeadline => exact hproceed _ _ (Or.inl hdeadline)
    case isFalse => exact hproceed _ _ hlaw
  case h_2 hstate =>
    rw [hstate] at hlaw
    unfold SecretRun.receive
    dsimp only
    split
    case h_1 secret hbuffer =>
      refine hproceed _ _ ?_
      simp [SecretRun.WorkerLaw, updateCell_cells, hlaw.1]
    case h_2 hbuffer =>
      split
      case isTrue hgone => exact hproceed _ _ (Or.inr hgone)
      split
      case isTrue hdeadline => exact hproceed _ _ (Or.inl hdeadline)
      case isFalse =>
        intro worker' hworker'
        obtain rfl := Option.some.inj (hworker.symm.trans hworker')
        unfold SecretRun.WorkerLaw
        rw [hstate]
        exact hlaw
  case h_3 => exact hreturns _ _ (Or.inr (Or.inl ⟨_, rfl⟩))
  case h_4 secret hstate =>
    rw [hstate] at hlaw
    split
    · exact hreturns _ _ (Or.inl rfl)
    split
    · exact hreturns _ _ (Or.inr (Or.inl ⟨_, rfl⟩))
    · exact hproceed _ _ hlaw
  case h_5 =>
    split
    · exact hreturns _ _ (Or.inl rfl)
    · exact hreturns _ _ (Or.inr (Or.inr ⟨_, _, rfl⟩))
  case h_6 reply secret hstate =>
    rw [hstate] at hlaw
    split
    · exact hproceed _ _ hlaw
    case h_2 exchange hsend =>
      obtain ⟨request, _, _, rfl⟩ := sendReplyIfLive_eq_some hsend
      refine hproceed _ _ ?_
      cases delivered <;> exact hlaw
  case h_7 e hstate =>
    rw [hstate] at hlaw
    exact hproceed _ _ hlaw
  case h_8 hstate =>
    rw [hstate] at hlaw
    refine hproceed _ _ ?_
    rcases complete_cases worker.receiver.id s.exchange with hsame | ⟨_, _, _, hvacant⟩
    · rw [hsame]
      exact hlaw
    · rw [hvacant]
      exact hlaw
  case h_9 hstate =>
    intro worker' hworker'
    obtain rfl := Option.some.inj (hworker.symm.trans hworker')
    unfold SecretRun.WorkerLaw
    rw [hstate]
    rw [hstate] at hlaw
    exact hlaw

/-- A submission that is accepted is the first one for its request. -/
theorem unanswered_of_submit
    (h : s.Orderly)
    {lease : SecretRequestLease ι} {i : Nat} {secret : σ}
    (hlease : s.leases[i]? = some lease)
    (hundisturbed : s.Undisturbed (.submit i secret))
    {locked : LockedSecret σ} {exchange : NetworkManagerSecretExchange ι σ}
    (hsubmit : s.exchange.submit lease locked = .ok exchange) :
    s.Unanswered lease.cell := by
  obtain ⟨request, hrequest, hmatch, hnow, hopen, hbuffer, _⟩ := submit_eq_ok hsubmit
  obtain ⟨⟨worker, hworker, hserves⟩, _⟩ := h.coherent.pending request hrequest
  have htook := hundisturbed lease request worker hlease hrequest hmatch hnow hworker
  have hlaw := h.workers _ worker hworker
  have hcell : request.cell = lease.cell := hmatch.2.2.2
  rw [← hcell]
  unfold SecretRun.WorkerLaw at hlaw
  dsimp only at hlaw
  split at hlaw
  case h_1 => exact hlaw.2 hbuffer
  case h_2 => exact hlaw.2 hbuffer
  case h_3 e hstate =>
    rcases hlaw with hdeadline | hgone
    · rw [hserves.deadline] at hdeadline
      exact absurd hnow (not_lt.mpr hdeadline)
    · rw [hrequest] at hgone
      exact absurd rfl hgone
  case h_4 hstate =>
    rw [hstate] at htook
    exact absurd trivial htook
  case h_5 hstate =>
    rw [hstate] at htook
    exact absurd trivial htook
  case h_6 =>
    rw [hopen] at hlaw
    cases hlaw

omit [DecidableEq ι] in
/-- What a step may do to the workers it does not concern. -/
theorem SecretRun.Unanswered.of_history
    (hhistory : s'.history = s.history ∨ ∃ record, s'.history = record :: s.history ∧
      ∀ c' object, record ≠ .submitted c' object true)
    (h : s.Unanswered c) :
    s'.Unanswered c := by
  intro object hmem
  rcases hhistory with hsame | ⟨record, hrecord, hne⟩
  · rw [hsame] at hmem
    exact h object hmem
  · rw [hrecord] at hmem
    rcases List.mem_cons.mp hmem with heq | hmem
    · exact hne c object heq.symm
    · exact h object hmem

omit [DecidableEq ι] in
theorem SecretRun.AnsweredOnce.of_history
    (hhistory : s'.history = s.history ∨ ∃ record, s'.history = record :: s.history ∧
      ∀ c' object, record ≠ .submitted c' object true)
    (h : s.AnsweredOnce) :
    s'.AnsweredOnce := by
  unfold SecretRun.AnsweredOnce
  rcases hhistory with hsame | ⟨record, hrecord, hne⟩
  · rw [hsame]
    exact h
  · rw [hrecord]
    exact h.cons fun c object heq => absurd heq (hne c object)

omit [DecidableEq ι] in
theorem afterCancel_history (exchange : NetworkManagerSecretExchange ι σ) :
    (s.afterCancel exchange).history = s.history ∨
      ∃ record, (s.afterCancel exchange).history = record :: s.history ∧
        ∀ c object, record ≠ .submitted c object true := by
  unfold SecretRun.afterCancel
  split
  · split
    · exact Or.inr ⟨_, rfl, fun _ _ => by simp⟩
    · exact Or.inl rfl
  · exact Or.inl rfl

omit [DecidableEq ι] in
/-- A cancellation changes no channel, and the slot at most becomes empty. -/
theorem SecretRun.Orderly.afterCancel
    (h : s.Orderly)
    {exchange : NetworkManagerSecretExchange ι σ}
    (hexchange : exchange = s.exchange ∨
      ∃ request, s.exchange.pending = some request ∧ exchange = s.exchange.revoke request) :
    (s.afterCancel exchange).Orderly := by
  refine ⟨h.coherent.afterCancel hexchange, ?_, h.answers.of_history (afterCancel_history _)⟩
  intro c worker hworker
  rw [afterCancel_workers] at hworker
  have hunanswered : s.Unanswered c → (s.afterCancel exchange).Unanswered c :=
    SecretRun.Unanswered.of_history (afterCancel_history _)
  rcases hexchange with rfl | ⟨request, hrequest, rfl⟩
  · refine (h.workers c worker hworker).mono ?_ ?_ ?_ hunanswered <;>
      rw [afterCancel_exchange]
    · exact ⟨rfl, rfl⟩
    · exact id
  · refine (h.workers c worker hworker).mono ?_ ?_ ?_ hunanswered <;>
      rw [afterCancel_exchange]
    · by_cases hc : c = request.cell
      · simp [SameChannel, revoke, updateCell_cells, hc]
      · simp [SameChannel, revoke, updateCell_cells, hc]
    · exact le_rfl
    · simp [revoke]

theorem SecretRun.Orderly.submitUnder
    (h : s.Orderly)
    {lease : SecretRequestLease ι} {i : Nat}
    (hlease : s.leases[i]? = some lease)
    (secret : σ)
    (hundisturbed : s.Undisturbed (.submit i secret)) :
    (s.submitUnder lease secret).Orderly := by
  have hcoherent := h.coherent.submitUnder (List.mem_of_getElem? hlease) secret
  cases hsubmit : s.exchange.submit lease ⟨s.objects, secret⟩ with
  | error e =>
      have hhistory : (s.submitUnder lease secret).history =
          .submitted lease.cell s.objects false :: s.history := by
        simp [SecretRun.submitUnder, hsubmit]
      have hrecord : (s.submitUnder lease secret).history = s.history ∨
          ∃ record, (s.submitUnder lease secret).history = record :: s.history ∧
            ∀ c object, record ≠ .submitted c object true :=
        Or.inr ⟨_, hhistory, fun _ _ => by simp⟩
      refine ⟨hcoherent, ?_, h.answers.of_history hrecord⟩
      intro c worker hworker
      have hsame : (s.submitUnder lease secret).exchange = s.exchange := by
        simp [SecretRun.submitUnder, hsubmit]
      have hworker : s.workers c = some worker := by
        simpa [SecretRun.submitUnder, hsubmit] using hworker
      refine (h.workers c worker hworker).mono ?_ ?_ ?_
        (SecretRun.Unanswered.of_history hrecord) <;> rw [hsame]
      · exact ⟨rfl, rfl⟩
      · exact id
  | ok exchange =>
      have hfirst := unanswered_of_submit h hlease hundisturbed hsubmit
      have hhistory : (s.submitUnder lease secret).history =
          .submitted lease.cell s.objects true :: s.history := by
        simp [SecretRun.submitUnder, hsubmit]
      have hexchange : (s.submitUnder lease secret).exchange = exchange := by
        simp [SecretRun.submitUnder, hsubmit]
      obtain ⟨request, hrequest, hmatch, hnow, hopen, hbuffer, rfl⟩ := submit_eq_ok hsubmit
      have hcell : request.cell = lease.cell := hmatch.2.2.2
      refine ⟨hcoherent, ?_, ?_⟩
      · intro c worker hworker
        have hworker : s.workers c = some worker := by
          simpa [SecretRun.submitUnder, hsubmit] using hworker
        have hlaw := h.workers c worker hworker
        by_cases hc : c = request.cell
        · subst hc
          have htook := hundisturbed lease request worker hlease hrequest hmatch hnow hworker
          unfold SecretRun.WorkerLaw at hlaw ⊢
          rw [hexchange]
          dsimp only at hlaw ⊢
          simp only [updateCell_cells, if_true]
          cases hstate : worker.state with
          | started => exact ⟨hopen, fun hnone => by cases hnone⟩
          | receiving => exact ⟨hopen, fun hnone => by cases hnone⟩
          | failing e =>
              rw [hstate] at hlaw
              exact hlaw
          | received taken =>
              rw [hstate] at htook
              exact absurd trivial htook
          | answering reply taken =>
              rw [hstate] at htook
              exact absurd trivial htook
          | _ =>
              rw [hstate, hopen] at hlaw
              cases hlaw
        · refine hlaw.mono ?_ ?_ ?_ ?_
          · rw [hexchange]
            simp [SameChannel, updateCell_cells, hc]
          · rw [hexchange]
            exact le_rfl
          · rw [hexchange]
            exact id
          · intro hunanswered object hmem
            rw [hhistory] at hmem
            rcases List.mem_cons.mp hmem with heq | hmem
            · obtain ⟨hsame, _, _⟩ := SecretRecord.submitted.inj heq
              exact hc (hsame.trans hcell.symm)
            · exact hunanswered object hmem
      · unfold SecretRun.AnsweredOnce
        rw [hhistory]
        refine h.answers.cons ?_
        rintro c object heq
        obtain ⟨rfl, _, _⟩ := SecretRecord.submitted.inj heq
        exact hfirst

theorem SecretRun.Orderly.work
    (h : s.Orderly)
    (hworker : s.workers c = some worker)
    (fromUtf8 : σ → Option String) (delivered : Bool) :
    (s.work fromUtf8 delivered worker).Orderly := by
  have heffect := work_effect h.coherent hworker fromUtf8 delivered
  refine ⟨h.coherent.work hworker fromUtf8 delivered, ?_,
    h.answers.of_history heffect.history⟩
  intro c' worker' hworker'
  by_cases hc : c' = c
  · subst hc
    exact workerLaw_work h.coherent hworker (h.workers _ _ hworker) fromUtf8 delivered
      worker' hworker'
  · rw [heffect.workers c' hc] at hworker'
    refine (h.workers c' worker' hworker').mono (heffect.channels c' hc) ?_ ?_ ?_
    · rw [heffect.now]
    · intro hother
      rcases heffect.exchange with ⟨hsame, _⟩ | ⟨_, _, _, _, _, _, hnone, _⟩ |
        ⟨_, _, _, hslot, _⟩
      · rw [hsame]
        exact hother
      · rw [hnone]
        exact fun heq => by cases heq
      · rcases hslot with hnone | hown
        · rw [hnone]
          exact fun heq => by cases heq
        · rw [hown]
          exact fun heq => hc (Option.some.inj heq).symm
    · exact SecretRun.Unanswered.of_history heffect.history

theorem SecretRun.Orderly.after
    (h : s.Orderly)
    (fromUtf8 : σ → Option String)
    {e : SecretStep ι σ}
    (hfresh : s.Fresh e)
    (hundisturbed : s.Undisturbed e) :
    (s.after fromUtf8 e).Orderly := by
  have hcoherent := h.coherent.after fromUtf8 hfresh
  cases e with
  | tick elapsed =>
      refine ⟨hcoherent, fun c worker hworker => ?_, h.answers⟩
      exact (h.workers c worker hworker).mono ⟨rfl, rfl⟩ (Nat.le_add_right _ _) id id
  | getSecrets key uuid =>
      cases hbegin : s.exchange.begin key uuid with
      | error e =>
          simpa only [SecretRun.after, hbegin] using h
      | ok begun =>
          simp only [SecretRun.after, hbegin] at hcoherent ⊢
          unfold NetworkManagerSecretExchange.begin at hbegin
          split at hbegin
          · cases hbegin
          obtain rfl := Except.ok.inj hbegin
          refine ⟨hcoherent, ?_, h.answers⟩
          intro c worker hworker
          simp only [Function.update_apply] at hworker
          split at hworker
          case isTrue hc =>
            obtain rfl := Option.some.inj hworker
            have hblank := h.coherent.unused c hc.ge
            refine ⟨?_, fun _ object hmem => ?_⟩
            · simp [hblank]
            · have := h.coherent.records _ hmem
              simp only [SecretRecord.cell] at this
              omega
          case isFalse hc =>
            refine (h.workers c worker hworker).mono ⟨rfl, rfl⟩ le_rfl ?_ id
            exact fun _ heq => hc (Option.some.inj heq).symm
  | cancelGetSecrets key =>
      refine h.afterCancel ?_
      rcases cancelMatching_cases key s.exchange with hsame | ⟨request, hrequest, _, _, hrevoked⟩
      · exact Or.inl hsame
      · exact Or.inr ⟨request, hrequest, hrevoked⟩
  | ownerChanged => exact h.afterCancel (cancel_cases s.exchange)
  | acquireLease =>
      cases hlease : s.exchange.acquireLease with
      | error e => simpa only [SecretRun.after, hlease] using h
      | ok lease =>
          simp only [SecretRun.after, hlease] at hcoherent ⊢
          exact ⟨hcoherent, h.workers, h.answers⟩
  | submit i secret =>
      cases hlease : s.leases[i]? with
      | none => simpa only [SecretRun.after, hlease] using h
      | some lease =>
          simp only [SecretRun.after, hlease]
          exact h.submitUnder hlease secret hundisturbed
  | work c delivered =>
      cases hworker : s.workers c with
      | none => simpa only [SecretRun.after, hworker] using h
      | some worker =>
          simp only [SecretRun.after, hworker]
          exact h.work hworker fromUtf8 delivered

end Order

section Finished

variable {ι σ : Type} [DecidableEq ι] {s : SecretRun ι σ} {fromUtf8 : σ → Option String}

theorem orderly_of_reachable
    (h : ((secretSystem (ι := ι) fromUtf8).restrict SecretRun.Undisturbed).Reachable s) :
    s.Orderly := by
  refine h.invariant ?_ ?_
  · rintro s rfl
    exact ⟨.new, fun _ _ h => by (cases h), List.Pairwise.nil⟩
  · rintro s e s' hs ⟨hundisturbed, hfresh, rfl⟩
    exact hs.after fromUtf8 hfresh hundisturbed

omit [DecidableEq ι] in
theorem cancelled_revoke
    {request : PendingSecretRequest ι} {exchange : NetworkManagerSecretExchange ι σ} {c : Nat}
    (hbefore : (exchange.cells c).cancelled = false)
    (hafter : ((exchange.revoke request).cells c).cancelled = true) :
    request.cell = c := by
  by_contra hne
  have hsame : (exchange.revoke request).cells c = exchange.cells c := by
    simp [revoke, updateCell_cells, Ne.symm hne]
  rw [hsame, hbefore] at hafter
  cases hafter

/-- Without the two situations a worker's step is lawful. -/
theorem lawful_work
    (h : s.Orderly)
    {c : Nat} {delivered : Bool}
    (hundisturbed : s.Undisturbed (.work c delivered)) :
    s.Lawful fromUtf8 (.work c delivered) := by
  cases hworker : s.workers c with
  | none =>
      have hidle : s.after fromUtf8 (.work c delivered) = s := by
        simp [SecretRun.after, hworker]
      refine ⟨?_, ?_, ?_⟩
      · intro _ _ _ _
        rw [hidle]
        exact ⟨rfl, fun _ _ => ⟨rfl, rfl⟩⟩
      · intro _ hbefore hafter
        rw [hidle, hbefore] at hafter
        cases hafter
      · intro _ _ _ hmem _
        rwa [hidle] at hmem
  | some worker =>
      have hafter : s.after fromUtf8 (.work c delivered) =
          s.work fromUtf8 delivered worker := by
        simp [SecretRun.after, hworker]
      have heffect := work_effect h.coherent hworker fromUtf8 delivered
      rw [← hafter] at heffect
      have hown : ∀ e request, worker.state = .failing e →
          s.exchange.pending = some request → request.key = worker.receiver.key →
          request.replyStarted = false → request.cell = c := by
        intro e request hstate hrequest hkey hstarted
        by_contra hne
        have := hundisturbed worker e hworker hstate request hrequest hne hkey
        rw [hstarted] at this
        cases this
      refine ⟨?_, ?_, ?_⟩
      · rintro c' delivered' heq hstale
        obtain ⟨rfl, rfl⟩ := SecretStep.work.inj heq
        rcases heffect.exchange with ⟨hsame, hcells, _⟩ |
          ⟨e, request, hstate, hrequest, hkey, hstarted, _⟩ | ⟨request, hrequest, hcell, _⟩
        · exact ⟨hsame, fun c' hne => ⟨hcells c' hne, heffect.workers c' hne⟩⟩
        · rw [hrequest] at hstale
          exact absurd (congrArg some (hown e request hstate hrequest hkey hstarted)) hstale
        · rw [hrequest] at hstale
          exact absurd (congrArg some hcell) hstale
      · intro c' hbefore hcancelled
        rcases heffect.exchange with ⟨_, _, hflags⟩ |
          ⟨e, request, hstate, hrequest, hkey, hstarted, _, hflags⟩ | ⟨_, _, _, _, hflags⟩
        · rw [hflags, hbefore] at hcancelled
          cases hcancelled
        · have hcell := hown e request hstate hrequest hkey hstarted
          have hc : c' = request.cell := by
            by_contra hne
            rw [hflags c' hne, hbefore] at hcancelled
            cases hcancelled
          rw [hc, hcell]
          refine Or.inr (Or.inr ⟨delivered, worker, rfl, hworker, ?_⟩)
          have hlaw := h.workers c worker hworker
          unfold SecretRun.WorkerLaw at hlaw
          rw [hstate] at hlaw
          refine hlaw.resolve_right ?_
          rw [hrequest]
          exact fun hne => hne (congrArg some hcell)
        · rw [hflags, hbefore] at hcancelled
          cases hcancelled
      · intro c' object object' hmem _
        rcases heffect.history with hsame | ⟨record, hrecord, hne⟩
        · rwa [hsame] at hmem
        · rw [hrecord] at hmem
          rcases List.mem_cons.mp hmem with heq | hmem
          · exact absurd heq.symm (hne c' object)
          · exact hmem

omit [DecidableEq ι] in
/-- Steps that change neither flags nor acknowledgements are lawful. -/
theorem cancel_lawful
    {exchange : NetworkManagerSecretExchange ι σ} {c object : Nat}
    (hmem : .submitted c object true ∈ (s.afterCancel exchange).history) :
    .submitted c object true ∈ s.history := by
  rcases afterCancel_history (s := s) exchange with hsame | ⟨record, hrecord, hne⟩
  · rwa [hsame] at hmem
  · rw [hrecord] at hmem
    rcases List.mem_cons.mp hmem with heq | hmem
    · exact absurd heq.symm (hne c object)
    · exact hmem

theorem lawful_of_undisturbed
    (h : s.Orderly)
    {e : SecretStep ι σ}
    (hundisturbed : s.Undisturbed e) :
    s.Lawful fromUtf8 e := by
  cases e with
  | work c delivered => exact lawful_work h hundisturbed
  | tick elapsed =>
      refine ⟨fun _ _ heq => by (cases heq), fun c hbefore hafter => ?_, fun _ _ _ h _ => h⟩
      simp [SecretRun.after, hbefore] at hafter
  | getSecrets key uuid =>
      have hcells : ∀ c, (s.after fromUtf8 (.getSecrets key uuid)).exchange.cells c =
          s.exchange.cells c := by
        intro c
        unfold SecretRun.after NetworkManagerSecretExchange.begin
        dsimp only
        split_ifs <;> rfl
      have hhistory : (s.after fromUtf8 (.getSecrets key uuid)).history = s.history := by
        unfold SecretRun.after NetworkManagerSecretExchange.begin
        dsimp only
        split_ifs <;> rfl
      refine ⟨fun _ _ heq => by (cases heq), fun c hbefore hafter => ?_, ?_⟩
      · rw [hcells, hbefore] at hafter
        cases hafter
      · intro c object object' hmem _
        rwa [hhistory] at hmem
  | cancelGetSecrets key =>
      refine ⟨fun _ _ heq => by (cases heq), ?_, fun _ _ _ hmem _ => cancel_lawful hmem⟩
      intro c hbefore hafter
      simp only [SecretRun.after, afterCancel_exchange] at hafter
      rcases cancelMatching_cases key s.exchange with
        hsame | ⟨request, hrequest, rfl, _, hrevoked⟩
      · rw [hsame, hbefore] at hafter
        cases hafter
      · rw [hrevoked] at hafter
        exact Or.inr (Or.inl ⟨request, rfl, hrequest, cancelled_revoke hbefore hafter⟩)
  | ownerChanged =>
      exact ⟨fun _ _ heq => by (cases heq), fun _ _ _ => Or.inl rfl,
        fun _ _ _ hmem _ => cancel_lawful hmem⟩
  | acquireLease =>
      have hsame : (s.after fromUtf8 .acquireLease).exchange = s.exchange ∧
          (s.after fromUtf8 .acquireLease).history = s.history := by
        unfold SecretRun.after
        dsimp only
        split <;> exact ⟨rfl, rfl⟩
      refine ⟨fun _ _ heq => by (cases heq), fun c hbefore hafter => ?_, ?_⟩
      · rw [hsame.1, hbefore] at hafter
        cases hafter
      · intro c object object' hmem _
        rwa [hsame.2] at hmem
  | submit i secret =>
      cases hlease : s.leases[i]? with
      | none =>
          have hidle : s.after fromUtf8 (.submit i secret) = s := by
            simp [SecretRun.after, hlease]
          refine ⟨fun _ _ heq => by (cases heq), fun c hbefore hafter => ?_, ?_⟩
          · rw [hidle, hbefore] at hafter
            cases hafter
          · intro c object object' hmem _
            rwa [hidle] at hmem
      | some lease =>
          have hafter : s.after fromUtf8 (.submit i secret) = s.submitUnder lease secret := by
            simp [SecretRun.after, hlease]
          refine ⟨fun _ _ heq => by (cases heq), ?_, ?_⟩
          · intro c hbefore hcancelled
            rw [hafter] at hcancelled
            unfold SecretRun.submitUnder at hcancelled
            split at hcancelled
            · rw [hbefore] at hcancelled
              cases hcancelled
            case h_2 exchange hsubmit =>
              obtain ⟨request, _, _, _, _, _, rfl⟩ := submit_eq_ok hsubmit
              simp only [updateCell_cells] at hcancelled
              split at hcancelled
              case isTrue hc =>
                rw [hc] at hbefore
                rw [hbefore] at hcancelled
                cases hcancelled
              case isFalse =>
                rw [hbefore] at hcancelled
                cases hcancelled
          · intro c object object' hmem hanswered
            rw [hafter] at hmem
            unfold SecretRun.submitUnder at hmem
            split at hmem
            · simpa using hmem
            case h_2 exchange hsubmit =>
              rcases List.mem_cons.mp hmem with heq | hmem
              · obtain ⟨rfl, _, _⟩ := SecretRecord.submitted.inj heq
                exact absurd hanswered
                  (unanswered_of_submit h hlease hundisturbed hsubmit object')
              · exact hmem

/-- In either of the two situations something is disturbed. -/
theorem undisturbed_of_lawful
    (h : s.Orderly)
    {e : SecretStep ι σ}
    (hlawful : s.Lawful fromUtf8 e) :
    s.Undisturbed e := by
  cases e with
  | work c delivered =>
      intro worker e hworker hstate request hrequest hne hkey
      by_contra hstarted
      have hstarted : request.replyStarted = false := by simpa using hstarted
      have hstale := (hlawful.stale c delivered rfl (by
        rw [hrequest]
        exact fun heq => hne (Option.some.inj heq))).pending
      have hrevoked : (s.after fromUtf8 (.work c delivered)).exchange.pending = none := by
        simp [SecretRun.after, hworker, SecretRun.work, hstate, SecretRun.returns,
          SecretRun.proceed, afterCancel_exchange, cancelMatching, hrequest, hkey, hstarted,
          revoke, updateCell]
      rw [hrevoked, hrequest] at hstale
      cases hstale
  | submit i secret =>
      intro lease request worker hlease hrequest hmatch hnow hworker htook
      obtain ⟨_, hflag, _⟩ := h.coherent.pending request hrequest
      have hcell : request.cell = lease.cell := hmatch.2.2.2
      -- the worker holds a secret that was acknowledged, and its channel is empty
      have hheld : ∃ taken, worker.state.secret? = some taken ∧
          (s.exchange.cells request.cell).receiverOpen = true ∧
          (s.exchange.cells request.cell).buffer = none := by
        have hlaw := h.workers _ worker hworker
        unfold SecretRun.WorkerLaw at hlaw
        cases hstate : worker.state with
        | received taken =>
            rw [hstate] at hlaw
            exact ⟨taken, rfl, hlaw⟩
        | answering reply taken =>
            rw [hstate] at hlaw
            exact ⟨taken, rfl, hlaw⟩
        | _ =>
            rw [hstate] at htook
            exact htook.elim
      obtain ⟨taken, htaken, hopen, hbuffer⟩ := hheld
      have hanswered := h.coherent.taken _ worker taken hworker htaken
      have haccepted : .submitted request.cell s.objects true ∈
          (s.after fromUtf8 (.submit i secret)).history := by
        have hsubmit : ∃ exchange,
            s.exchange.submit lease ⟨s.objects, secret⟩ = .ok exchange := by
          simp [NetworkManagerSecretExchange.submit, hrequest, hmatch, hflag, ← hcell,
            not_le.mpr hnow, trySend, hopen, hbuffer]
        obtain ⟨exchange, hsubmit⟩ := hsubmit
        simp [SecretRun.after, hlease, SecretRun.submitUnder, hsubmit, hcell]
      have hearlier := hlawful.acknowledged _ _ taken.object haccepted hanswered
      exact absurd (h.coherent.objects _ _ _ hearlier) (lt_irrefl _)
  | tick elapsed => trivial
  | getSecrets key uuid => trivial
  | cancelGetSecrets key => trivial
  | ownerChanged => trivial
  | acquireLease => trivial

/-- Finished requests disturb nothing exactly as long as the two situations are absent. -/
theorem finished_requests
    (fromUtf8 : σ → Option String)
    (h : ((secretSystem (ι := ι) fromUtf8).restrict SecretRun.Undisturbed).Reachable s) :
    s.AnsweredOnce ∧ ∀ e, s.Lawful fromUtf8 e ↔ s.Undisturbed e := by
  have hs := orderly_of_reachable h
  exact ⟨hs.answers, fun e => ⟨undisturbed_of_lawful hs, lawful_of_undisturbed hs⟩⟩

end Finished

section Sample

/-- The first request is cancelled, and its worker waits for a secret. -/
def abandoned : SecretRun Nat String :=
  (requested.after some (.cancelGetSecrets homeNetwork)).after some (.work 0 true)

/-- The request is restarted, and the worker of the first one sees its channel closed. -/
def restarted : SecretRun Nat String :=
  (abandoned.after some (.getSecrets homeNetwork 1)).after some (.work 0 true)

theorem reachable_abandoned : (secretSystem some).Reachable abandoned :=
  reachable_secretStep (e := .work 0 true)
    (reachable_secretStep (e := .cancelGetSecrets homeNetwork) reachable_requested trivial)
    trivial

theorem reachable_restarted : (secretSystem some).Reachable restarted := by
  have hfresh : abandoned.Fresh (.getSecrets homeNetwork 1) :=
    fresh_of_allocated reachable_abandoned (by decide)
  exact reachable_secretStep (e := .work 0 true)
    (reachable_secretStep reachable_abandoned hfresh) trivial

/-- The finished worker cancels the new request; a second secret is acknowledged. -/
theorem restarted_request_cancelled :
    ((secretSystem some).Reachable restarted ∧
        restarted.exchange.pending.map (·.cell) = some 1 ∧
        (restarted.after some (.work 0 true)).exchange.pending = none ∧
        ((restarted.after some (.work 0 true)).exchange.cells 1).cancelled = true ∧
        ¬ restarted.Lawful some (.work 0 true)) ∧
      (secretSystem some).Reachable taken ∧
      (taken.after some (.submit 0 "battery staple")).history =
        [.submitted 0 1 true, .submitted 0 0 true] ∧
      ¬ taken.Lawful some (.submit 0 "battery staple") := by
  have hslot : restarted.exchange.pending.map (·.cell) = some 1 := by decide
  have hvacant : (restarted.after some (.work 0 true)).exchange.pending = none := by
    decide
  have hhistory : (taken.after some (.submit 0 "battery staple")).history =
      [.submitted 0 1 true, .submitted 0 0 true] := by
    decide
  have hearlier : taken.history = [.submitted 0 0 true] := by decide
  refine ⟨⟨reachable_restarted, hslot, hvacant, by decide, ?_⟩, reachable_taken,
    hhistory, ?_⟩
  · intro hlawful
    have hsame := (hlawful.stale 0 true rfl (by rw [hslot]; decide)).pending
    rw [hvacant] at hsame
    rw [← hsame] at hslot
    cases hslot
  · intro hlawful
    have hmem := hlawful.acknowledged 0 1 0 (by rw [hhistory]; simp) (by rw [hearlier]; simp)
    rw [hearlier] at hmem
    simp at hmem

section Undisturbed

variable {s : SecretRun Nat String} {c : Nat}

def WorkerState.isFailing : WorkerState String → Bool
  | .failing _ => true
  | _ => false

/-- There is no newer request, or the worker is not about to cancel by key. -/
theorem undisturbed_work {delivered : Bool}
    (h : (∀ request ∈ s.exchange.pending, request.cell = c) ∨
      ∀ worker ∈ s.workers c, worker.state.isFailing = false) :
    s.Undisturbed (.work c delivered) := by
  intro worker e hworker hstate request hrequest hne
  rcases h with hcell | hstates
  · exact absurd (hcell request hrequest) hne
  · have := hstates worker hworker
    rw [hstate] at this
    cases this

/-- The worker of the pending request has taken nothing out of its channel. -/
theorem undisturbed_submit {i : Nat} {secret : String}
    (h : ∀ request ∈ s.exchange.pending, ∀ worker ∈ s.workers request.cell,
      worker.state.secret?.isNone) :
    s.Undisturbed (.submit i secret) := by
  intro lease request worker _ hrequest _ _ hworker htook
  have hnone := h request hrequest worker hworker
  cases hstate : worker.state <;> rw [hstate] at hnone htook <;>
    first | exact htook | cases hnone

theorem reachable_undisturbed {e : SecretStep Nat String}
    (h : ((secretSystem some).restrict SecretRun.Undisturbed).Reachable s)
    (hundisturbed : s.Undisturbed e) (hfresh : s.Fresh e) :
    ((secretSystem some).restrict SecretRun.Undisturbed).Reachable (s.after some e) :=
  .step h ⟨hundisturbed, hfresh, rfl⟩

theorem reachable_works_undisturbed {n : Nat}
    (h : ((secretSystem some).restrict SecretRun.Undisturbed).Reachable s)
    (hundisturbed : ∀ k < n, (s.works c k).Undisturbed (.work c true)) :
    ((secretSystem some).restrict SecretRun.Undisturbed).Reachable (s.works c n) := by
  induction n generalizing s with
  | zero => exact h
  | succ n ih =>
      exact ih (reachable_undisturbed h (hundisturbed 0 (Nat.succ_pos n)) trivial)
        fun k hk => hundisturbed (k + 1) (Nat.succ_lt_succ hk)

end Undisturbed

theorem undisturbed_requested :
    ((secretSystem some).restrict SecretRun.Undisturbed).Reachable requested :=
  reachable_undisturbed (.initial rfl) trivial fun _ _ h => by cases h

/-- Up to the cancellation by key nothing disturbs the new request. -/
theorem undisturbed_restarted :
    ((secretSystem some).restrict SecretRun.Undisturbed).Reachable restarted := by
  have hcancelled := reachable_undisturbed (e := .cancelGetSecrets homeNetwork)
    undisturbed_requested trivial trivial
  have habandoned : ((secretSystem some).restrict SecretRun.Undisturbed).Reachable abandoned :=
    reachable_undisturbed (e := .work 0 true) hcancelled
      (undisturbed_work (.inl (by decide))) trivial
  have hrestarted := reachable_undisturbed (e := .getSecrets homeNetwork 1) habandoned trivial
    (fresh_of_allocated reachable_abandoned (by decide))
  exact reachable_undisturbed (e := .work 0 true) hrestarted
    (undisturbed_work (.inr (by decide))) trivial

/-- The first worker ends before anything can disturb the new request. -/
theorem undisturbed_reanswered :
    ((secretSystem some).restrict SecretRun.Undisturbed).Reachable reanswered := by
  have hlapsed : ((secretSystem some).restrict SecretRun.Undisturbed).Reachable lapsed :=
    reachable_undisturbed (e := .cancelGetSecrets homeNetwork)
      (reachable_undisturbed (e := .acquireLease) undisturbed_requested trivial trivial)
      trivial trivial
  have hrenewed : ((secretSystem some).restrict SecretRun.Undisturbed).Reachable renewed :=
    reachable_undisturbed (e := .getSecrets homeNetwork 1)
      (reachable_works_undisturbed hlapsed fun k hk =>
        undisturbed_work (.inl (by revert k; decide)))
      trivial fresh_lapsed
  have hstale : ((secretSystem some).restrict SecretRun.Undisturbed).Reachable stale :=
    reachable_works_undisturbed
      (reachable_undisturbed (e := .submit 0 "correct horse") hrenewed
        (undisturbed_submit (by decide)) trivial)
      fun k hk => undisturbed_work (.inr (by revert k; decide))
  exact reachable_works_undisturbed
    (reachable_undisturbed (e := .submit 1 "battery staple")
      (reachable_undisturbed (e := .acquireLease) hstale trivial trivial)
      (undisturbed_submit (by decide)) trivial)
    fun k hk => undisturbed_work (.inl (by revert k; decide))

/--
The first request is cancelled and made again.  Where its worker is about to
cancel by key, that step is the one that is not lawful; where it has ended
before, the secret of the new request arrives.
-/
theorem finished_requests_requested :
    (restarted.AnsweredOnce ∧
      (∀ e, restarted.Lawful some e ↔ restarted.Undisturbed e) ∧
      ¬ restarted.Lawful some (.work 0 true) ∧ restarted.Lawful some (.work 1 true)) ∧
    reanswered.AnsweredOnce ∧ .submitted 1 1 true ∈ reanswered.history ∧
      ∀ e, reanswered.Lawful some e ↔ reanswered.Undisturbed e := by
  have hrestarted := finished_requests some undisturbed_restarted
  have hreanswered := finished_requests some undisturbed_reanswered
  refine ⟨⟨hrestarted.1, hrestarted.2, ?_, ?_⟩, hreanswered.1, by decide,
    hreanswered.2⟩
  · rw [hrestarted.2]
    intro hundisturbed
    have hnew : ∃ worker e request, restarted.workers 0 = some worker ∧
        worker.state = .failing e ∧ restarted.exchange.pending = some request ∧
        request.cell ≠ 0 ∧ request.key = worker.receiver.key ∧
        request.replyStarted = false :=
      ⟨_, _, _, rfl, rfl, rfl, by decide, by decide, by decide⟩
    obtain ⟨worker, e, request, hworker, hstate, hrequest, hne, hkey, hnone⟩ := hnew
    have := hundisturbed worker e hworker hstate request hrequest hne hkey
    rw [hnone] at this
    cases this
  · rw [hrestarted.2]
    exact undisturbed_work (.inl (by decide))

end Sample

end SleepySession
