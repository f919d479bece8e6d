import SleepySession.Desktop.SecretRuns

/-!
# What a Wi-Fi secret says on its way

A secret keeps what is known about it from the channel of its request to the
worker and to the reply, and the reply says nothing but the secret.
-/

namespace SleepySession

open NetworkManagerSecretExchange

section Contents

variable {ι σ : Type}

/-- The settings that a secret is put into. -/
def ReplyOf (fromUtf8 : σ → Option String) (exposed : σ) (reply : SecretReply) : Prop :=
  ∃ value, fromUtf8 exposed = some value ∧
    reply = [("802-11-wireless-security", [("psk", value)])]

/-- The reply that a worker has built, and the secret it was built from. -/
def WorkerState.reply? : WorkerState σ → Option (SecretReply × σ)
  | .answering reply secret => some (reply, secret.exposed)
  | .replying reply secret => some (reply, secret.exposed)
  | _ => none

structure WorkerState.Carries
    (fromUtf8 : σ → Option String) (P : LockedSecret σ → Prop) (state : WorkerState σ) :
    Prop where
  secret : ∀ secret, state.secret? = some secret → P secret
  reply : ∀ reply exposed, state.reply? = some (reply, exposed) →
    ReplyOf fromUtf8 exposed reply

/-- All secrets on their way, and those that have arrived, have a property. -/
structure SecretRun.Carried
    (fromUtf8 : σ → Option String) (P : Nat → LockedSecret σ → Prop) (s : SecretRun ι σ) :
    Prop where
  cells : ∀ c worker, s.workers c = some worker → worker.receiver.cell = c
  buffered : ∀ c secret, (s.exchange.cells c).buffer = some secret → P c secret
  workers : ∀ c worker, s.workers c = some worker → worker.state.Carries fromUtf8 (P c)
  replied : ∀ c object reply, .replied c object reply ∈ s.history →
    ∃ exposed, P c ⟨object, exposed⟩ ∧ ReplyOf fromUtf8 exposed reply

variable {fromUtf8 : σ → Option String} {P : Nat → LockedSecret σ → Prop}

theorem WorkerState.Carries.empty {P : LockedSecret σ → Prop} {state : WorkerState σ}
    (hsecret : state.secret? = none) (hreply : state.reply? = none) :
    state.Carries fromUtf8 P := by
  constructor
  · intro secret h
    rw [hsecret] at h
    cases h
  · intro reply exposed h
    rw [hreply] at h
    cases h

theorem SecretRun.Carried.new :
    (SecretRun.new : SecretRun ι σ).Carried fromUtf8 P := by
  constructor <;> simp [SecretRun.new, NetworkManagerSecretExchange.new]

theorem SecretRun.Carried.mono
    {s : SecretRun ι σ} {Q : Nat → LockedSecret σ → Prop}
    (h : s.Carried fromUtf8 P) (hPQ : ∀ c secret, P c secret → Q c secret) :
    s.Carried fromUtf8 Q := by
  refine ⟨h.cells, fun c secret hc => hPQ c secret (h.buffered c secret hc), ?_, ?_⟩
  · intro c worker hworker
    have hcarries := h.workers c worker hworker
    exact ⟨fun secret hsecret => hPQ c secret (hcarries.secret secret hsecret), hcarries.reply⟩
  · intro c object reply hreply
    obtain ⟨exposed, hP, hof⟩ := h.replied c object reply hreply
    exact ⟨exposed, hPQ c _ hP, hof⟩

end Contents

section Steps

variable {ι σ : Type} [DecidableEq ι] {fromUtf8 : σ → Option String}
  {P : Nat → LockedSecret σ → Prop} {s : SecretRun ι σ} {worker : SecretWorker ι σ}

omit [DecidableEq ι] in
theorem SecretRun.Carried.proceed
    (h : s.Carried fromUtf8 P) {c : Nat} (hworker : s.workers c = some worker)
    {state : WorkerState σ} (hstate : state.Carries fromUtf8 (P c)) :
    (s.proceed worker state).Carried fromUtf8 P := by
  have hcell := h.cells c worker hworker
  refine ⟨?_, h.buffered, ?_, h.replied⟩
  · intro c' worker' h'
    have := h.cells c' worker'
    rw [proceed_workers] at h'
    grind
  · intro c' worker' h'
    rw [proceed_workers, hcell] at h'
    split at h'
    case isTrue hc =>
      obtain rfl := Option.some.inj h'
      exact hc ▸ hstate
    case isFalse => exact h.workers c' worker' h'

omit [DecidableEq ι] in
/-- The exchange may change as long as no channel is filled. -/
theorem SecretRun.Carried.withExchange
    (h : s.Carried fromUtf8 P) {exchange : NetworkManagerSecretExchange ι σ}
    (hbuffer : ∀ c secret, (exchange.cells c).buffer = some secret →
      (s.exchange.cells c).buffer = some secret) :
    SecretRun.Carried fromUtf8 P { s with exchange := exchange } :=
  ⟨h.cells, fun c secret hc => h.buffered c secret (hbuffer c secret hc), h.workers, h.replied⟩

omit [DecidableEq ι] in
theorem SecretRun.Carried.afterCancel
    (h : s.Carried fromUtf8 P) {exchange : NetworkManagerSecretExchange ι σ}
    (hexchange : exchange = s.exchange ∨
      ∃ request, s.exchange.pending = some request ∧ exchange = s.exchange.revoke request) :
    (s.afterCancel exchange).Carried fromUtf8 P := by
  have hbuffer : ∀ c secret, (exchange.cells c).buffer = some secret →
      (s.exchange.cells c).buffer = some secret := by
    rcases hexchange with rfl | ⟨request, -, rfl⟩
    · exact fun _ _ hc => hc
    · intro c secret hc
      simp only [revoke, updateCell_cells] at hc
      split at hc
      case isTrue hcell => rw [hcell, hc]
      case isFalse => exact hc
  have hcarried := h.withExchange hbuffer
  refine ⟨?_, ?_, ?_, ?_⟩
  · rw [afterCancel_workers]
    exact h.cells
  · rw [afterCancel_exchange]
    exact hcarried.buffered
  · rw [afterCancel_workers]
    exact h.workers
  · intro c object reply hreply
    refine h.replied c object reply ?_
    unfold SecretRun.afterCancel at hreply
    split at hreply
    · split at hreply
      · simpa using hreply
      · exact hreply
    · exact hreply

omit [DecidableEq ι] in
theorem SecretRun.Carried.cancelMatching
    (h : s.Carried fromUtf8 P) (key : SecretRequestKey) :
    (s.afterCancel (s.exchange.cancelMatching key)).Carried fromUtf8 P := by
  refine h.afterCancel ?_
  rcases cancelMatching_cases key s.exchange with hsame | ⟨request, hrequest, -, -, hrevoked⟩
  · exact Or.inl hsame
  · exact Or.inr ⟨request, hrequest, hrevoked⟩

omit [DecidableEq ι] in
/-- A channel is emptied, and its receiver may close. -/
theorem SecretRun.Carried.emptied
    (h : s.Carried fromUtf8 P) (c : Nat) (cell : RequestCell σ) (hcell : cell.buffer = none) :
    SecretRun.Carried fromUtf8 P { s with exchange := s.exchange.updateCell c cell } := by
  refine h.withExchange fun c' secret hc => ?_
  rw [updateCell_cells] at hc
  split at hc
  · rw [hcell] at hc
    cases hc
  · exact hc

omit [DecidableEq ι] in
theorem SecretRun.Carried.returns
    (h : s.Carried fromUtf8 P) {c : Nat} (hworker : s.workers c = some worker)
    {state : WorkerState σ} (hstate : state.Carries fromUtf8 (P c)) :
    (s.returns worker state).Carried fromUtf8 P :=
  (h.emptied worker.receiver.cell
    { s.exchange.cells worker.receiver.cell with buffer := none, receiverOpen := false }
    rfl).proceed hworker hstate

omit [DecidableEq ι] in
theorem SecretRun.Carried.receive
    (h : s.Carried fromUtf8 P) {c : Nat} (hworker : s.workers c = some worker) :
    (s.receive worker).Carried fromUtf8 P := by
  have hcell := h.cells c worker hworker
  unfold SecretRun.receive
  dsimp only
  split
  case h_1 secret hbuffer =>
    refine (h.emptied worker.receiver.cell
      { s.exchange.cells worker.receiver.cell with buffer := none } rfl).proceed hworker ?_
    refine ⟨?_, fun _ _ hreply => by cases hreply⟩
    rintro secret' ⟨⟩
    exact hcell ▸ h.buffered _ secret hbuffer
  case h_2 =>
    split
    · exact h.proceed hworker (.empty rfl rfl)
    split
    · exact h.proceed hworker (.empty rfl rfl)
    · exact h

theorem SecretRun.Carried.work
    (h : s.Carried fromUtf8 P) {c : Nat} (hworker : s.workers c = some worker)
    (delivered : Bool) :
    (s.work fromUtf8 delivered worker).Carried fromUtf8 P := by
  have hcarries := h.workers c worker hworker
  have hcell := h.cells c worker hworker
  unfold SecretRun.work
  dsimp only
  split
  case h_1 => split <;> exact h.proceed hworker (.empty rfl rfl)
  case h_2 => exact h.receive hworker
  case h_3 =>
    have hcancelled : (s.afterCancel
        (s.exchange.cancelMatching worker.receiver.key)).workers c = some worker := by
      rw [afterCancel_workers]
      exact hworker
    exact (h.cancelMatching _).returns hcancelled (.empty rfl rfl)
  case h_4 secret hstate =>
    split
    · exact h.returns hworker (.empty rfl rfl)
    split
    · exact h.returns hworker (.empty rfl rfl)
    case h_2 value hvalue =>
      refine h.proceed hworker ⟨?_, ?_⟩
      · rintro secret' ⟨⟩
        exact hcarries.secret secret (by rw [hstate]; rfl)
      · rintro reply exposed ⟨⟩
        exact ⟨value, hvalue, rfl⟩
  case h_5 reply secret hstate =>
    split
    · exact h.returns hworker (.empty rfl rfl)
    · refine h.returns hworker ⟨?_, ?_⟩
      · rintro secret' ⟨⟩
        exact hcarries.secret secret (by rw [hstate]; rfl)
      · rintro reply' exposed ⟨⟩
        exact hcarries.reply reply secret.exposed (by rw [hstate]; rfl)
  case h_6 reply secret hstate =>
    split
    · exact h.proceed hworker (.empty rfl rfl)
    case h_2 exchange hsend =>
      obtain ⟨request, -, -, rfl⟩ := sendReplyIfLive_eq_some hsend
      have hP : P c secret := hcarries.secret secret (by rw [hstate]; rfl)
      have hof : ReplyOf fromUtf8 secret.exposed reply :=
        hcarries.reply reply secret.exposed (by rw [hstate]; rfl)
      have hreplied : SecretRun.Carried fromUtf8 P
          { s with
            exchange :=
              { s.exchange with pending := some { request with replyStarted := true } }
            history := .replied worker.receiver.cell secret.object reply :: s.history } := by
        refine ⟨h.cells, h.buffered, h.workers, ?_⟩
        intro c' object reply' hmem
        rcases List.mem_cons.mp hmem with heq | hmem
        · obtain ⟨rfl, rfl, rfl⟩ := SecretRecord.replied.inj heq
          exact ⟨secret.exposed, hcell ▸ hP, hof⟩
        · exact h.replied c' object reply' hmem
      refine hreplied.proceed hworker ?_
      cases delivered <;> exact .empty rfl rfl
  case h_7 => exact h.proceed hworker (.empty rfl rfl)
  case h_8 =>
    have hcompleted : SecretRun.Carried fromUtf8 P
        { s with exchange := s.exchange.complete worker.receiver.id } := by
      refine h.withExchange fun c' secret hc => ?_
      rcases complete_cases worker.receiver.id s.exchange with hsame | ⟨request, -, -, hvacant⟩
      · rwa [hsame] at hc
      · rwa [hvacant] at hc
    exact hcompleted.proceed hworker (.empty rfl rfl)
  case h_9 => exact h

omit [DecidableEq ι] in
theorem SecretRun.Carried.began
    (h : s.Carried fromUtf8 P) {key : SecretRequestKey} {id : ι}
    {receiver : PendingSecretReceiver ι} {exchange : NetworkManagerSecretExchange ι σ}
    (hbegin : s.exchange.begin key id = .ok (receiver, exchange)) :
    SecretRun.Carried fromUtf8 P
      { s with
        exchange := exchange
        workers := Function.update s.workers receiver.cell (some ⟨receiver, .started⟩) } := by
  unfold NetworkManagerSecretExchange.begin at hbegin
  split at hbegin
  · cases hbegin
  simp only [Except.ok.injEq, Prod.mk.injEq] at hbegin
  obtain ⟨rfl, rfl⟩ := hbegin
  refine ⟨?_, h.buffered, ?_, h.replied⟩
  · intro c worker hworker
    have := h.cells c worker
    simp only [Function.update_apply] at hworker
    grind
  · intro c worker hworker
    simp only [Function.update_apply] at hworker
    split at hworker
    · obtain rfl := Option.some.inj hworker
      exact .empty rfl rfl
    · exact h.workers c worker hworker

/-- Whatever is not a submission leaves the secrets as they are. -/
theorem SecretRun.Carried.after
    (h : s.Carried fromUtf8 P) {e : SecretStep ι σ}
    (hsubmit : ∀ lease secret, e ≠ .submit lease secret) :
    (s.after fromUtf8 e).Carried fromUtf8 P := by
  cases e with
  | tick elapsed => exact h.withExchange fun _ _ hc => hc
  | getSecrets key id =>
      simp only [SecretRun.after]
      split
      · exact h
      case h_2 receiver exchange hbegin => exact h.began hbegin
  | cancelGetSecrets key => exact h.cancelMatching key
  | ownerChanged => exact h.afterCancel (cancel_cases s.exchange)
  | acquireLease =>
      simp only [SecretRun.after]
      split
      · exact h
      · exact ⟨h.cells, h.buffered, h.workers, h.replied⟩
  | submit lease secret => exact absurd rfl (hsubmit lease secret)
  | work cell delivered =>
      simp only [SecretRun.after]
      split
      · exact h
      case h_2 worker hworker => exact h.work hworker delivered

/-- A secret is submitted of which the property is known. -/
theorem SecretRun.Carried.submitUnder
    (h : s.Carried fromUtf8 P) {lease : SecretRequestLease ι} {secret : σ}
    (hP : P lease.cell ⟨s.objects, secret⟩) :
    (s.submitUnder lease secret).Carried fromUtf8 P := by
  have hreplied : ∀ accepted c object reply, .replied c object reply ∈
      (.submitted lease.cell s.objects accepted :: s.history : List (SecretRecord ι σ)) →
        ∃ exposed, P c ⟨object, exposed⟩ ∧ ReplyOf fromUtf8 exposed reply :=
    fun _ c object reply hreply => h.replied c object reply (by simpa using hreply)
  unfold SecretRun.submitUnder
  cases hsubmit : s.exchange.submit lease ⟨s.objects, secret⟩ with
  | error e => exact ⟨h.cells, h.buffered, h.workers, hreplied false⟩
  | ok exchange =>
      obtain ⟨request, -, hmatch, -, -, -, rfl⟩ := submit_eq_ok hsubmit
      refine ⟨h.cells, ?_, h.workers, hreplied true⟩
      intro c x hx
      simp only [updateCell_cells] at hx
      split at hx
      case isTrue hc =>
        obtain rfl := Option.some.inj hx
        rw [hc, hmatch.2.2.2]
        exact hP
      case isFalse => exact h.buffered c x hx

end Steps

end SleepySession
