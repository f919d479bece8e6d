import SleepySession.Desktop.SecretExchange

/-!
# Where a Wi-Fi secret can go

A secret is accepted only from a connection that holds a lease of the pending
request; it goes into the channel of that request, to its worker, and from
there into at most one reply.  The record of a run says so for every
interleaving of workers and connections.
-/

namespace SleepySession

open NetworkManagerSecretExchange

section Records

variable {ι σ : Type}

/-- The secret that a worker has taken out of its channel. -/
def WorkerState.secret? : WorkerState σ → Option (LockedSecret σ)
  | .received secret => some secret
  | .answering _ secret => some secret
  | .replying _ secret => some secret
  | _ => none

/-- The worker has nothing left to do but to refuse and to complete. -/
def WorkerState.Past : WorkerState σ → Prop
  | .refusing _ => True
  | .completing => True
  | .finished => True
  | _ => False

def SecretRecord.cell : SecretRecord ι σ → Nat
  | .removed cell => cell
  | .submitted cell _ _ => cell
  | .replied cell _ _ => cell

/-- What a record may say after an older one. -/
def SecretRecord.Follows : SecretRecord ι σ → SecretRecord ι σ → Prop
  | .replied c _ _, .replied c' _ _ => c ≠ c'
  | .replied c _ _, .removed c' => c ≠ c'
  | .submitted _ n _, .submitted _ n' _ => n ≠ n'
  | _, _ => True

/-- The worker of the request in the slot. -/
structure Serves
    (request : PendingSecretRequest ι) (worker : SecretWorker ι σ) : Prop where
  id : worker.receiver.id = request.id
  key : worker.receiver.key = request.key
  deadline : worker.receiver.deadline = request.deadline

/-- The invariant of all interleavings. -/
structure SecretRun.Coherent (s : SecretRun ι σ) : Prop where
  workers : ∀ c worker, s.workers c = some worker →
    worker.receiver.cell = c ∧ c < s.exchange.allocated
  ids : ∀ c c' worker worker', s.workers c = some worker → s.workers c' = some worker' →
    worker.receiver.id = worker'.receiver.id → c = c'
  pending : ∀ request, s.exchange.pending = some request →
    (∃ worker, s.workers request.cell = some worker ∧ Serves request worker) ∧
      (s.exchange.cells request.cell).cancelled = false ∧
      .removed request.cell ∉ s.history
  leases : ∀ lease ∈ s.leases, lease.cell < s.exchange.allocated
  unused : ∀ c, s.exchange.allocated ≤ c → (s.exchange.cells c) = ⟨false, none, true⟩
  records : ∀ record ∈ s.history, record.cell < s.exchange.allocated
  buffered : ∀ c secret, (s.exchange.cells c).buffer = some secret →
    .submitted c secret.object true ∈ s.history
  taken : ∀ c worker secret, s.workers c = some worker →
    worker.state.secret? = some secret → .submitted c secret.object true ∈ s.history
  replied : ∀ c object reply, .replied c object reply ∈ s.history →
    .submitted c object true ∈ s.history ∧
      ∃ worker, s.workers c = some worker ∧ worker.state.Past
  objects : ∀ c object accepted, .submitted c object accepted ∈ s.history →
    object < s.objects
  order : s.history.Pairwise SecretRecord.Follows

end Records

section Steps

variable {ι σ : Type} [DecidableEq ι] {s : SecretRun ι σ} {worker : SecretWorker ι σ}

omit [DecidableEq ι] in
@[grind =] theorem proceed_workers (state : WorkerState σ) (c : Nat) :
    (s.proceed worker state).workers c =
      if c = worker.receiver.cell then some ⟨worker.receiver, state⟩ else s.workers c := by
  simp [SecretRun.proceed, Function.update_apply]

omit [DecidableEq ι] in
@[grind =] theorem updateCell_cells
    (exchange : NetworkManagerSecretExchange ι σ) (c c' : Nat) (cell : RequestCell σ) :
    (exchange.updateCell c cell).cells c' = if c' = c then cell else exchange.cells c' := by
  simp [updateCell, Function.update_apply]

omit [DecidableEq ι] in
theorem SecretRun.Coherent.new : (SecretRun.new : SecretRun ι σ).Coherent := by
  constructor <;> simp [SecretRun.new, NetworkManagerSecretExchange.new]

omit [DecidableEq ι] in
/-- A worker goes on with a secret it has already taken. -/
theorem SecretRun.Coherent.proceed
    (h : s.Coherent)
    {c : Nat}
    (hworker : s.workers c = some worker)
    {state : WorkerState σ}
    (hsecret : ∀ secret, state.secret? = some secret →
      .submitted c secret.object true ∈ s.history)
    (hpast : worker.state.Past → state.Past) :
    (s.proceed worker state).Coherent := by
  obtain ⟨hcell, hbound⟩ := h.workers c worker hworker
  subst hcell
  constructor
  · intro c' worker' h'
    have := h.workers c'
    rw [proceed_workers] at h'
    grind [SecretRun.proceed]
  · intro c₁ c₂ w₁ w₂ h₁ h₂ hid
    have := h.ids
    rw [proceed_workers] at h₁ h₂
    grind
  · intro request hrequest
    have := h.pending request hrequest
    obtain ⟨⟨w, hw, hserves⟩, hrest⟩ := h.pending request hrequest
    refine ⟨?_, hrest⟩
    rw [proceed_workers]
    by_cases hc : request.cell = worker.receiver.cell
    · rw [hc] at hw
      obtain rfl := Option.some.inj (hworker.symm.trans hw)
      exact ⟨_, if_pos hc, ⟨hserves.id, hserves.key, hserves.deadline⟩⟩
    · exact ⟨w, by rw [if_neg hc, hw], hserves⟩
  · exact h.leases
  · exact h.unused
  · exact h.records
  · exact h.buffered
  · intro c' worker' secret h'
    rw [proceed_workers] at h'
    have := h.taken c' worker' secret
    grind [SecretRun.proceed]
  · intro c' object reply h'
    obtain ⟨hsubmitted, w, hw, hwpast⟩ := h.replied c' object reply h'
    refine ⟨hsubmitted, ?_⟩
    rw [proceed_workers]
    by_cases hc : c' = worker.receiver.cell
    · subst hc
      obtain rfl := Option.some.inj (hworker.symm.trans hw)
      exact ⟨_, if_pos rfl, hpast hwpast⟩
    · exact ⟨w, by rw [if_neg hc, hw], hwpast⟩
  · exact h.objects
  · exact h.order

omit [DecidableEq ι] in
/-- The content of a channel may disappear, and its receiver may close. -/
theorem SecretRun.Coherent.updateCell
    (h : s.Coherent)
    {c : Nat} {cell : RequestCell σ}
    (hc : c < s.exchange.allocated)
    (hcancelled : cell.cancelled = (s.exchange.cells c).cancelled)
    (hbuffer : ∀ secret, cell.buffer = some secret →
      .submitted c secret.object true ∈ s.history) :
    SecretRun.Coherent { s with exchange := s.exchange.updateCell c cell } := by
  refine ⟨h.workers, h.ids, ?_, h.leases, ?_, h.records, ?_, h.taken, h.replied, h.objects,
    h.order⟩
  · intro request hrequest
    obtain ⟨hworker, hflag, hremoved⟩ := h.pending request hrequest
    refine ⟨hworker, ?_, hremoved⟩
    grind
  · intro c' hc'
    have := h.unused c' hc'
    have hne : c' ≠ c := by
      have hle : s.exchange.allocated ≤ c' := hc'
      omega
    grind
  · intro c' secret hsecret
    have := h.buffered c' secret
    grind

omit [DecidableEq ι] in
/-- The slot may be emptied at any time. -/
theorem SecretRun.Coherent.vacate
    (h : s.Coherent) :
    SecretRun.Coherent { s with exchange := { s.exchange with pending := none } } :=
  ⟨h.workers, h.ids, fun _ h' => absurd h' (by simp), h.leases, h.unused, h.records,
    h.buffered, h.taken, h.replied, h.objects, h.order⟩

omit [DecidableEq ι] in
theorem SecretRun.Coherent.revoke
    (h : s.Coherent)
    {request : PendingSecretRequest ι}
    (hrequest : s.exchange.pending = some request) :
    SecretRun.Coherent
      { s with
        exchange := s.exchange.revoke request
        history := .removed request.cell :: s.history } := by
  obtain ⟨⟨worker, hworker, _⟩, _⟩ := h.pending request hrequest
  have hbound := (h.workers _ _ hworker).2
  refine ⟨h.workers, h.ids, fun _ h' => absurd h' (by simp [NetworkManagerSecretExchange.revoke]),
    h.leases, ?_, ?_, ?_, ?_, ?_, ?_, ?_⟩
  · intro c hc
    have hle : s.exchange.allocated ≤ c := hc
    have hne : c ≠ request.cell := by omega
    have := h.unused c hle
    simp only [NetworkManagerSecretExchange.revoke, updateCell_cells, if_neg hne]
    exact this
  · intro record hrecord
    rcases List.mem_cons.mp hrecord with rfl | hrecord
    · exact hbound
    · exact h.records record hrecord
  · intro c secret hsecret
    refine List.mem_cons_of_mem _ (h.buffered c secret ?_)
    simp only [NetworkManagerSecretExchange.revoke, updateCell_cells] at hsecret
    split at hsecret
    case isTrue hc => rw [hc, hsecret]
    case isFalse => exact hsecret
  · intro c worker secret hworker hsecret
    exact List.mem_cons_of_mem _ (h.taken c worker secret hworker hsecret)
  · intro c object reply hreply
    have hreply : .replied c object reply ∈ s.history := by simpa using hreply
    obtain ⟨hsubmitted, hpast⟩ := h.replied c object reply hreply
    exact ⟨List.mem_cons_of_mem _ hsubmitted, hpast⟩
  · intro c object accepted hsubmitted
    exact h.objects c object accepted (by simpa using hsubmitted)
  · exact h.order.cons fun _ _ => trivial

omit [DecidableEq ι] in
/-- A cancellation either leaves the slot alone or revokes what is in it. -/
theorem SecretRun.Coherent.afterCancel
    (h : s.Coherent)
    {exchange : NetworkManagerSecretExchange ι σ}
    (hexchange : exchange = s.exchange ∨
      ∃ request, s.exchange.pending = some request ∧ exchange = s.exchange.revoke request) :
    (s.afterCancel exchange).Coherent := by
  unfold SecretRun.afterCancel
  rcases hexchange with rfl | ⟨request, hrequest, rfl⟩
  · cases hpending : s.exchange.pending with
    | none => exact h
    | some request => simpa using h
  · rw [hrequest]
    simpa [NetworkManagerSecretExchange.revoke] using h.revoke hrequest

omit [DecidableEq ι] in
theorem cancel_cases (exchange : NetworkManagerSecretExchange ι σ) :
    exchange.cancel = exchange ∨
      ∃ request, exchange.pending = some request ∧
        exchange.cancel = exchange.revoke request := by
  unfold NetworkManagerSecretExchange.cancel
  cases hpending : exchange.pending with
  | none => exact Or.inl rfl
  | some request => exact Or.inr ⟨request, rfl, rfl⟩

omit [DecidableEq ι] in
theorem cancelMatching_cases
    (key : SecretRequestKey) (exchange : NetworkManagerSecretExchange ι σ) :
    exchange.cancelMatching key = exchange ∨
      ∃ request, exchange.pending = some request ∧ request.key = key ∧
        request.replyStarted = false ∧
        exchange.cancelMatching key = exchange.revoke request := by
  unfold NetworkManagerSecretExchange.cancelMatching
  cases hpending : exchange.pending with
  | none => exact Or.inl rfl
  | some request =>
      by_cases hmatch : request.key = key ∧ request.replyStarted = false
      · exact Or.inr ⟨request, rfl, hmatch.1, hmatch.2, if_pos hmatch⟩
      · exact Or.inl (if_neg hmatch)

theorem complete_cases (id : ι) (exchange : NetworkManagerSecretExchange ι σ) :
    exchange.complete id = exchange ∨
      ∃ request, exchange.pending = some request ∧ request.id = id ∧
        exchange.complete id = { exchange with pending := none } := by
  unfold NetworkManagerSecretExchange.complete
  cases hpending : exchange.pending with
  | none => exact Or.inl rfl
  | some request =>
      by_cases hid : request.id = id
      · exact Or.inr ⟨request, rfl, hid, if_pos hid⟩
      · exact Or.inl (if_neg hid)

omit [DecidableEq ι] in
theorem SecretRun.Coherent.began
    (h : s.Coherent)
    {key : SecretRequestKey} {id : ι}
    (hfresh : ∀ c worker, s.workers c = some worker → worker.receiver.id ≠ id)
    {receiver : PendingSecretReceiver ι} {exchange : NetworkManagerSecretExchange ι σ}
    (hbegin : s.exchange.begin key id = .ok (receiver, exchange)) :
    SecretRun.Coherent
      { s with
        exchange := exchange
        workers := Function.update s.workers receiver.cell (some ⟨receiver, .started⟩) } := by
  unfold NetworkManagerSecretExchange.begin at hbegin
  split at hbegin
  · cases hbegin
  simp only [Except.ok.injEq, Prod.mk.injEq] at hbegin
  obtain ⟨rfl, rfl⟩ := hbegin
  have hnone : s.workers s.exchange.allocated = none := by
    by_contra hsome
    obtain ⟨worker, hworker⟩ := Option.ne_none_iff_exists'.mp hsome
    exact absurd (h.workers _ _ hworker).2 (lt_irrefl _)
  refine ⟨?_, ?_, ?_, ?_, ?_, ?_, h.buffered, ?_, ?_, h.objects, h.order⟩
  · intro c worker hworker
    have := h.workers c worker
    simp only [Function.update_apply] at hworker
    grind
  · intro c c' worker worker' hworker hworker' hid
    have := h.ids c c' worker worker'
    simp only [Function.update_apply] at hworker hworker'
    grind
  · rintro _ ⟨⟩
    refine ⟨⟨⟨⟨id, key, s.exchange.allocated, _⟩, .started⟩, by simp, ⟨rfl, rfl, rfl⟩⟩, ?_, ?_⟩
    · simp [h.unused s.exchange.allocated le_rfl]
    · exact fun hmem => absurd (h.records _ hmem) (lt_irrefl _)
  · exact fun lease hlease => Nat.lt_succ_of_lt (h.leases lease hlease)
  · exact fun c hc => h.unused c (Nat.le_of_succ_le hc)
  · exact fun record hrecord => Nat.lt_succ_of_lt (h.records record hrecord)
  · intro c worker secret hworker hsecret
    have := h.taken c worker secret
    simp only [Function.update_apply] at hworker
    split at hworker
    · obtain rfl := Option.some.inj hworker
      cases hsecret
    · exact this hworker hsecret
  · intro c object reply hreply
    obtain ⟨hsubmitted, worker, hworker, hpast⟩ := h.replied c object reply hreply
    refine ⟨hsubmitted, worker, ?_, hpast⟩
    have hne : c ≠ s.exchange.allocated := fun hc => by simp [hc, hnone] at hworker
    simp [Function.update_of_ne hne, hworker]

/-- What an accepted submission finds and does. -/
theorem submit_eq_ok
    {lease : SecretRequestLease ι} {secret : LockedSecret σ}
    {exchange exchange' : NetworkManagerSecretExchange ι σ}
    (h : exchange.submit lease secret = .ok exchange') :
    ∃ request, exchange.pending = some request ∧ Matching lease request ∧
      exchange.now < request.deadline ∧
      (exchange.cells request.cell).receiverOpen = true ∧
      (exchange.cells request.cell).buffer = none ∧
      exchange' = exchange.updateCell request.cell
        { exchange.cells request.cell with buffer := some secret } := by
  unfold NetworkManagerSecretExchange.submit at h
  cases hpending : exchange.pending with
  | none => simp [hpending] at h
  | some request =>
      simp only [hpending] at h
      split at h
      · cases h
      case isFalse hlive =>
        simp only [not_or, not_not, not_le] at hlive
        unfold trySend at h
        by_cases hopen : (exchange.cells request.cell).receiverOpen = true ∧
            (exchange.cells request.cell).buffer = none
        · rw [if_pos hopen] at h
          exact ⟨request, rfl, hlive.1, hlive.2.2.2, hopen.1, hopen.2,
            (Except.ok.inj h).symm⟩
        · rw [if_neg hopen] at h
          cases h

theorem SecretRun.Coherent.submitUnder
    (h : s.Coherent)
    {lease : SecretRequestLease ι}
    (hlease : lease ∈ s.leases)
    (secret : σ) :
    (s.submitUnder lease secret).Coherent := by
  have hbound := h.leases lease hlease
  have hrecords : ∀ accepted, ∀ record ∈
      (.submitted lease.cell s.objects accepted :: s.history : List (SecretRecord ι σ)),
      record.cell < s.exchange.allocated := by
    rintro accepted record (_ | ⟨_, hrecord⟩)
    · exact hbound
    · exact h.records record hrecord
  have hreplied : ∀ accepted c object reply, .replied c object reply ∈
      (.submitted lease.cell s.objects accepted :: s.history : List (SecretRecord ι σ)) →
      .submitted c object true ∈
          (.submitted lease.cell s.objects accepted :: s.history : List (SecretRecord ι σ)) ∧
        ∃ worker, s.workers c = some worker ∧ worker.state.Past := by
    intro accepted c object reply hreply
    obtain ⟨hsubmitted, hpast⟩ := h.replied c object reply (by simpa using hreply)
    exact ⟨List.mem_cons_of_mem _ hsubmitted, hpast⟩
  have hobjects : ∀ accepted c object accepted', .submitted c object accepted' ∈
      (.submitted lease.cell s.objects accepted :: s.history : List (SecretRecord ι σ)) →
      object < s.objects + 1 := by
    intro accepted c object accepted' hsubmitted
    rcases List.mem_cons.mp hsubmitted with heq | hsubmitted
    · obtain ⟨_, rfl, _⟩ := SecretRecord.submitted.inj heq
      exact Nat.lt_succ_self _
    · exact Nat.lt_succ_of_lt (h.objects c object accepted' hsubmitted)
  have horder : ∀ accepted,
      (.submitted lease.cell s.objects accepted :: s.history : List (SecretRecord ι σ)).Pairwise
        SecretRecord.Follows := by
    intro accepted
    refine h.order.cons fun record hrecord => ?_
    cases record with
    | removed c => trivial
    | replied c object reply => trivial
    | submitted c object accepted' => exact (h.objects c object accepted' hrecord).ne'
  unfold SecretRun.submitUnder
  cases hsubmit : s.exchange.submit lease ⟨s.objects, secret⟩ with
  | error e =>
      refine ⟨h.workers, h.ids, ?_, h.leases, h.unused, hrecords false, ?_, ?_, hreplied false,
        hobjects false, horder false⟩
      · intro request hrequest
        obtain ⟨hworker, hflag, hremoved⟩ := h.pending request hrequest
        exact ⟨hworker, hflag, by simpa using hremoved⟩
      · exact fun c x hx => List.mem_cons_of_mem _ (h.buffered c x hx)
      · exact fun c worker x hw hx => List.mem_cons_of_mem _ (h.taken c worker x hw hx)
  | ok exchange =>
      obtain ⟨request, hrequest, hmatch, _, _, _, rfl⟩ := submit_eq_ok hsubmit
      have hcell : request.cell = lease.cell := hmatch.2.2.2
      refine ⟨h.workers, h.ids, ?_, h.leases, ?_, hrecords true, ?_, ?_, hreplied true,
        hobjects true, horder true⟩
      · intro request' hrequest'
        obtain ⟨hworker, hflag, hremoved⟩ := h.pending request' hrequest'
        refine ⟨hworker, ?_, by simpa using hremoved⟩
        grind
      · intro c hc
        have hne : c ≠ request.cell := by
          have hle : s.exchange.allocated ≤ c := hc
          omega
        have := h.unused c hc
        grind
      · intro c x hx
        simp only [updateCell_cells] at hx
        split at hx
        case isTrue hc =>
          obtain rfl := Option.some.inj hx
          rw [hc, hcell]
          exact List.mem_cons_self
        case isFalse => exact List.mem_cons_of_mem _ (h.buffered c x hx)
      · exact fun c worker x hw hx => List.mem_cons_of_mem _ (h.taken c worker x hw hx)

/-- A reply goes out for the request in the slot, and only while it is there. -/
theorem sendReplyIfLive_eq_some
    {id : ι} {exchange exchange' : NetworkManagerSecretExchange ι σ}
    (h : exchange.sendReplyIfLive id = some exchange') :
    ∃ request, exchange.pending = some request ∧ request.id = id ∧
      exchange' =
        { exchange with pending := some { request with replyStarted := true } } := by
  unfold NetworkManagerSecretExchange.sendReplyIfLive at h
  cases hpending : exchange.pending with
  | none => simp [hpending] at h
  | some request =>
      simp only [hpending] at h
      split at h
      case isTrue hlive => exact ⟨request, rfl, hlive.1, (Option.some.inj h).symm⟩
      case isFalse => cases h

omit [DecidableEq ι] in
/-- The request in the slot that has the id of a worker is the worker's own. -/
theorem SecretRun.Coherent.own
    (h : s.Coherent)
    {c : Nat}
    (hworker : s.workers c = some worker)
    {request : PendingSecretRequest ι}
    (hrequest : s.exchange.pending = some request)
    (hid : request.id = worker.receiver.id) :
    request.cell = c := by
  obtain ⟨⟨worker', hworker', hserves⟩, _⟩ := h.pending request hrequest
  exact h.ids _ _ worker' worker hworker' hworker (hserves.id.trans hid)

theorem SecretRun.Coherent.reply
    (h : s.Coherent)
    {c : Nat}
    (hworker : s.workers c = some worker)
    {reply : SecretReply} {secret : LockedSecret σ}
    (hstate : worker.state = .replying reply secret)
    {exchange : NetworkManagerSecretExchange ι σ}
    (hsend : s.exchange.sendReplyIfLive worker.receiver.id = some exchange)
    {state : WorkerState σ}
    (hpast : state.Past) :
    (SecretRun.proceed
      { s with
        exchange := exchange
        history := .replied worker.receiver.cell secret.object reply :: s.history }
      worker state).Coherent := by
  obtain ⟨request, hrequest, hid, rfl⟩ := sendReplyIfLive_eq_some hsend
  have hown := h.own hworker hrequest hid
  obtain ⟨hcell, hbound⟩ := h.workers c worker hworker
  obtain ⟨⟨worker', hworker', hserves⟩, hflag, hremoved⟩ := h.pending request hrequest
  have hsubmitted := h.taken c worker secret hworker (by rw [hstate]; rfl)
  have hnotPast : ¬ worker.state.Past := by
    rw [hstate]
    exact not_false
  have hsecret : state.secret? = none := by
    cases state <;> first | rfl | exact absurd hpast not_false
  subst hcell
  refine ⟨?_, ?_, ?_, h.leases, h.unused, ?_, ?_, ?_, ?_, ?_, ?_⟩
  · intro c' w hw
    have := h.workers c' w
    rw [proceed_workers] at hw
    grind [SecretRun.proceed]
  · intro c₁ c₂ w₁ w₂ h₁ h₂ hsame
    have := h.ids c₁ c₂
    rw [proceed_workers] at h₁ h₂
    grind
  · rintro _ ⟨⟩
    rw [hown] at hworker'
    obtain rfl := Option.some.inj (hworker.symm.trans hworker')
    refine ⟨⟨_, by rw [proceed_workers]; exact if_pos hown, ?_⟩, hflag, ?_⟩
    · exact ⟨hserves.id, hserves.key, hserves.deadline⟩
    · simpa [SecretRun.proceed] using hremoved
  · intro record hrecord
    rcases List.mem_cons.mp hrecord with rfl | hrecord
    · exact hbound
    · exact h.records record hrecord
  · exact fun c' x hx => List.mem_cons_of_mem _ (h.buffered c' x hx)
  · intro c' w x hw hx
    rw [proceed_workers] at hw
    split at hw
    · obtain rfl := Option.some.inj hw
      simp [hsecret] at hx
    · exact List.mem_cons_of_mem _ (h.taken c' w x hw hx)
  · intro c' object reply' hreply
    rw [proceed_workers]
    rcases List.mem_cons.mp hreply with heq | hreply
    · obtain ⟨rfl, rfl, rfl⟩ := SecretRecord.replied.inj heq
      exact ⟨List.mem_cons_of_mem _ hsubmitted, _, if_pos rfl, hpast⟩
    · obtain ⟨hsub, w, hw, hwpast⟩ := h.replied c' object reply' hreply
      have hne : c' ≠ worker.receiver.cell := by
        rintro rfl
        obtain rfl := Option.some.inj (hworker.symm.trans hw)
        exact hnotPast hwpast
      exact ⟨List.mem_cons_of_mem _ hsub, w, by rw [if_neg hne]; exact hw, hwpast⟩
  · exact fun c' object accepted hsub =>
      h.objects c' object accepted (by simpa [SecretRun.proceed] using hsub)
  · refine h.order.cons fun record hrecord => ?_
    cases record with
    | submitted c' object accepted => trivial
    | removed c' =>
        rintro rfl
        rw [hown] at hremoved
        exact hremoved hrecord
    | replied c' object reply' =>
        rintro rfl
        obtain ⟨_, w, hw, hwpast⟩ := h.replied _ object reply' hrecord
        obtain rfl := Option.some.inj (hworker.symm.trans hw)
        exact hnotPast hwpast

omit [DecidableEq ι] in
theorem afterCancel_workers (exchange : NetworkManagerSecretExchange ι σ) :
    (s.afterCancel exchange).workers = s.workers := by
  unfold SecretRun.afterCancel
  split
  · split <;> rfl
  · rfl

omit [DecidableEq ι] in
theorem afterCancel_exchange (exchange : NetworkManagerSecretExchange ι σ) :
    (s.afterCancel exchange).exchange = exchange := by
  unfold SecretRun.afterCancel
  split
  · split <;> rfl
  · rfl

omit [DecidableEq ι] in
theorem SecretRun.Coherent.cancelMatching
    (h : s.Coherent)
    (key : SecretRequestKey) :
    (s.afterCancel (s.exchange.cancelMatching key)).Coherent := by
  refine h.afterCancel ?_
  rcases cancelMatching_cases key s.exchange with hsame | ⟨request, hrequest, _, _, hrevoked⟩
  · exact Or.inl hsame
  · exact Or.inr ⟨request, hrequest, hrevoked⟩

omit [DecidableEq ι] in
/-- `finish_get_secrets` returns and drops the receiver. -/
theorem SecretRun.Coherent.returns
    (h : s.Coherent)
    {c : Nat}
    (hworker : s.workers c = some worker)
    {state : WorkerState σ}
    (hsecret : ∀ secret, state.secret? = some secret →
      .submitted c secret.object true ∈ s.history)
    (hpast : worker.state.Past → state.Past) :
    (s.returns worker state).Coherent := by
  obtain ⟨hcell, hbound⟩ := h.workers c worker hworker
  have hclosed : SecretRun.Coherent
      { s with
        exchange := s.exchange.updateCell worker.receiver.cell
          { s.exchange.cells worker.receiver.cell with
            buffer := none, receiverOpen := false } } :=
    h.updateCell (hcell ▸ hbound) rfl fun _ hx => by cases hx
  exact hclosed.proceed hworker hsecret hpast

omit [DecidableEq ι] in
theorem SecretRun.Coherent.receive
    (h : s.Coherent)
    {c : Nat}
    (hworker : s.workers c = some worker)
    (hstate : worker.state = .receiving) :
    (s.receive worker).Coherent := by
  obtain ⟨hcell, hbound⟩ := h.workers c worker hworker
  have hnotPast : ∀ state : WorkerState σ, worker.state.Past → state.Past := by
    intro state hpast
    rw [hstate] at hpast
    exact hpast.elim
  unfold SecretRun.receive
  dsimp only
  split
  case h_1 secret hbuffer =>
    have hsubmitted : .submitted c secret.object true ∈ s.history := by
      rw [← hcell]
      exact h.buffered _ secret hbuffer
    have hemptied : SecretRun.Coherent
        { s with
          exchange := s.exchange.updateCell worker.receiver.cell
            { s.exchange.cells worker.receiver.cell with buffer := none } } :=
      h.updateCell (hcell ▸ hbound) rfl fun _ hx => by cases hx
    refine hemptied.proceed hworker ?_ (hnotPast _)
    rintro secret' ⟨⟩
    exact hsubmitted
  case h_2 =>
    split
    · exact h.proceed hworker (fun _ hx => by cases hx) (hnotPast _)
    split
    · exact h.proceed hworker (fun _ hx => by cases hx) (hnotPast _)
    · exact h

theorem SecretRun.Coherent.work
    (h : s.Coherent)
    {c : Nat}
    (hworker : s.workers c = some worker)
    (fromUtf8 : σ → Option String) (delivered : Bool) :
    (s.work fromUtf8 delivered worker).Coherent := by
  have hkeeps : ∀ {state : WorkerState σ}, worker.state = state → ¬ state.Past →
      ∀ state' : WorkerState σ, worker.state.Past → state'.Past :=
    fun heq hnot _ hpast => absurd (heq ▸ hpast) hnot
  have hnone : ∀ {state : WorkerState σ}, state.secret? = none →
      ∀ secret, state.secret? = some secret →
        .submitted c secret.object true ∈ s.history := by
    intro state hstate secret hsecret
    rw [hstate] at hsecret
    cases hsecret
  have htaken : ∀ secret, worker.state.secret? = some secret →
      .submitted c secret.object true ∈ s.history := fun secret => h.taken c worker secret hworker
  unfold SecretRun.work
  dsimp only
  split
  case h_1 hstate =>
    split <;> exact h.proceed hworker (hnone rfl) (hkeeps hstate not_false _)
  case h_2 hstate => exact h.receive hworker hstate
  case h_3 e hstate =>
    have hcancelled : (s.afterCancel
        (s.exchange.cancelMatching worker.receiver.key)).workers c = some worker := by
      rw [afterCancel_workers]
      exact hworker
    exact (h.cancelMatching _).returns hcancelled (fun _ hx => by cases hx)
      (hkeeps hstate not_false _)
  case h_4 secret hstate =>
    split
    · exact h.returns hworker (hnone rfl) (hkeeps hstate not_false _)
    split
    · exact h.returns hworker (hnone rfl) (hkeeps hstate not_false _)
    · refine h.proceed hworker ?_ (hkeeps hstate not_false _)
      rintro secret' ⟨⟩
      exact htaken secret (by rw [hstate]; rfl)
  case h_5 reply secret hstate =>
    split
    · exact h.returns hworker (hnone rfl) (hkeeps hstate not_false _)
    · refine h.returns hworker ?_ (hkeeps hstate not_false _)
      rintro secret' ⟨⟩
      exact htaken secret (by rw [hstate]; rfl)
  case h_6 reply secret hstate =>
    split
    · exact h.proceed hworker (hnone rfl) (hkeeps hstate not_false _)
    case h_2 exchange hsend =>
      refine h.reply hworker hstate hsend ?_
      cases delivered <;> trivial
  case h_7 => exact h.proceed hworker (hnone rfl) fun _ => trivial
  case h_8 =>
    have hcompleted : SecretRun.Coherent
        { s with exchange := s.exchange.complete worker.receiver.id } := by
      rcases complete_cases worker.receiver.id s.exchange with hsame | ⟨request, _, _, hvacant⟩
      · rw [hsame]
        exact h
      · rw [hvacant]
        exact h.vacate
    exact hcompleted.proceed hworker (fun _ hx => by cases hx) fun _ => trivial
  case h_9 => exact h

/-- Every step of every party keeps the invariant. -/
theorem SecretRun.Coherent.after
    (h : s.Coherent)
    (fromUtf8 : σ → Option String)
    {e : SecretStep ι σ}
    (hfresh : s.Fresh e) :
    (s.after fromUtf8 e).Coherent := by
  cases e with
  | tick elapsed =>
      exact ⟨h.workers, h.ids, h.pending, h.leases, h.unused, h.records, h.buffered, h.taken,
        h.replied, h.objects, h.order⟩
  | getSecrets key id =>
      simp only [SecretRun.after]
      split
      · exact h
      case h_2 receiver exchange hbegin => exact h.began hfresh hbegin
  | cancelGetSecrets key => exact h.cancelMatching key
  | ownerChanged => exact h.afterCancel (cancel_cases s.exchange)
  | acquireLease =>
      simp only [SecretRun.after]
      split
      · exact h
      case h_2 lease hlease =>
        have hbound : lease.cell < s.exchange.allocated := by
          unfold NetworkManagerSecretExchange.acquireLease at hlease
          split at hlease
          · cases hlease
          case h_2 request hrequest =>
            split at hlease
            · cases hlease
            · obtain rfl := Except.ok.inj hlease
              obtain ⟨⟨worker, hworker, _⟩, _⟩ := h.pending request hrequest
              exact (h.workers _ _ hworker).2
        refine ⟨h.workers, h.ids, h.pending, ?_, h.unused, h.records, h.buffered, h.taken,
          h.replied, h.objects, h.order⟩
        intro lease' hmem
        rcases List.mem_append.mp hmem with hmem | hmem
        · exact h.leases lease' hmem
        · obtain rfl := List.mem_singleton.mp hmem
          exact hbound
  | submit lease secret =>
      simp only [SecretRun.after]
      split
      · exact h
      case h_2 lease' hlease => exact h.submitUnder (List.mem_of_getElem? hlease) secret
  | work cell delivered =>
      simp only [SecretRun.after]
      split
      · exact h
      case h_2 worker hworker => exact h.work hworker fromUtf8 delivered

end Steps

section Delivery

variable {ι σ : Type} [DecidableEq ι] {fromUtf8 : σ → Option String} {s : SecretRun ι σ}

theorem coherent_of_reachable
    (h : (secretSystem (ι := ι) fromUtf8).Reachable s) :
    s.Coherent := by
  refine h.invariant ?_ ?_
  · rintro s rfl
    exact .new
  · rintro s e s' hs ⟨hfresh, rfl⟩
    exact hs.after fromUtf8 hfresh

/-- What the record of a run says about secrets. -/
structure SecretGuarantees (s : SecretRun ι σ) : Prop where
  /-- A secret is replied only to the request whose lease the submitting connection held. -/
  leased : ∀ c object reply, .replied c object reply ∈ s.history →
    ∀ c' accepted, .submitted c' object accepted ∈ s.history → c' = c ∧ accepted = true
  /-- It was submitted at all. -/
  submitted : ∀ c object reply, .replied c object reply ∈ s.history →
    .submitted c object true ∈ s.history
  /-- There is at most one such reply for a request. -/
  once : s.history.Pairwise fun newer older => ∀ c object object' reply reply',
    ¬ (newer = .replied c object reply ∧ older = .replied c object' reply')
  /-- There is none after a cancellation has taken the request out of the slot. -/
  removed : s.history.Pairwise fun newer older => ∀ c object reply,
    ¬ (newer = .replied c object reply ∧ older = .removed c)
  /-- A submission under the lease of a request that is not pending is refused. -/
  refused : ∀ lease secret, s.exchange.pending.map (·.cell) ≠ some lease.cell →
    ∃ e, s.exchange.submit lease secret = .error e
  /-- What was refused is not in any channel, with any worker or in any reply. -/
  lost : ∀ c object, .submitted c object false ∈ s.history →
    (∀ c' secret, (s.exchange.cells c').buffer = some secret → secret.object ≠ object) ∧
      (∀ c' worker secret, s.workers c' = some worker →
        worker.state.secret? = some secret → secret.object ≠ object) ∧
      ∀ c' reply, .replied c' object reply ∉ s.history

omit [DecidableEq ι] in
/-- A secret is submitted once. -/
theorem SecretRun.Coherent.submitted_unique
    (h : s.Coherent)
    {c c' object : Nat} {accepted accepted' : Bool}
    (h₁ : .submitted c object accepted ∈ s.history)
    (h₂ : .submitted c' object accepted' ∈ s.history) :
    c' = c ∧ accepted' = accepted := by
  let R : SecretRecord ι σ → SecretRecord ι σ → Prop := fun r r' =>
    ∀ c c' n n' a a', r = .submitted c n a → r' = .submitted c' n' a' → n ≠ n'
  have : Std.Symm R := ⟨fun _ _ hR c c' n n' a a' h₁ h₂ =>
    (hR c' c n' n a' a h₂ h₁).symm⟩
  have horder : s.history.Pairwise R := by
    refine h.order.imp ?_
    rintro newer older hfollows c c' n n' a a' rfl rfl
    exact hfollows
  by_contra hne
  refine horder.forall h₁ h₂ ?_ c c' object object accepted accepted' rfl rfl rfl
  intro heq
  obtain ⟨hc, _, ha⟩ := SecretRecord.submitted.inj heq
  exact hne ⟨hc.symm, ha.symm⟩

/-- A secret reaches only the request it was given for. -/
theorem secret_guarantees
    (fromUtf8 : σ → Option String)
    (h : (secretSystem (ι := ι) fromUtf8).Reachable s) :
    SecretGuarantees s := by
  have hs := coherent_of_reachable h
  refine ⟨?_, fun c object reply hreply => (hs.replied c object reply hreply).1, ?_, ?_, ?_, ?_⟩
  · intro c object reply hreply c' accepted hsubmitted
    exact hs.submitted_unique (hs.replied c object reply hreply).1 hsubmitted
  · refine hs.order.imp ?_
    rintro newer older hfollows c object object' reply reply' ⟨rfl, rfl⟩
    exact hfollows rfl
  · refine hs.order.imp ?_
    rintro newer older hfollows c object reply ⟨rfl, rfl⟩
    exact hfollows rfl
  · intro lease secret hpending
    cases hsubmit : s.exchange.submit lease secret with
    | error e => exact ⟨e, rfl⟩
    | ok exchange =>
        obtain ⟨request, hrequest, hmatch, _⟩ := submit_eq_ok hsubmit
        rw [hrequest] at hpending
        exact absurd (congrArg some hmatch.2.2.2) hpending
  · intro c object hrefused
    have hnot : ∀ c', .submitted c' object true ∉ s.history :=
      fun c' hmem => by cases (hs.submitted_unique hrefused hmem).2
    refine ⟨?_, ?_, ?_⟩
    · rintro c' secret hbuffer rfl
      exact hnot c' (hs.buffered c' secret hbuffer)
    · rintro c' worker secret hworker hsecret rfl
      exact hnot c' (hs.taken c' worker secret hworker hsecret)
    · exact fun c' reply hreply => hnot c' (hs.replied c' object reply hreply).1

theorem reachable_secretStep
    (h : (secretSystem (ι := ι) fromUtf8).Reachable s)
    {e : SecretStep ι σ}
    (hfresh : s.Fresh e) :
    (secretSystem fromUtf8).Reachable (s.after fromUtf8 e) :=
  .step h ⟨hfresh, rfl⟩

/-- An identifier is fresh if no request so far has it. -/
theorem fresh_of_allocated
    (h : (secretSystem (ι := ι) fromUtf8).Reachable s)
    {key : SecretRequestKey} {id : ι}
    (hid : ∀ c < s.exchange.allocated,
      (s.workers c).map (fun worker => worker.receiver.id) ≠ some id) :
    s.Fresh (.getSecrets key id) := by
  intro c worker hworker heq
  have hbound := ((coherent_of_reachable h).workers c worker hworker).2
  refine hid c hbound ?_
  rw [hworker, ← heq]
  rfl

end Delivery

section Sample

def homeNetwork : SecretRequestKey :=
  ⟨"/org/freedesktop/NetworkManager/Settings/1", "802-11-wireless-security"⟩

def requested : SecretRun Nat String :=
  SecretRun.new.after some (.getSecrets homeNetwork 0)

def leased : SecretRun Nat String :=
  requested.after some .acquireLease

def submitted : SecretRun Nat String :=
  leased.after some (.submit 0 "correct horse")

def taken : SecretRun Nat String :=
  (submitted.after some (.work 0 true)).after some (.work 0 true)

def answered : SecretRun Nat String :=
  ((taken.after some (.work 0 true)).after some (.work 0 true)).after some (.work 0 true)

theorem reachable_requested : (secretSystem some).Reachable requested :=
  reachable_secretStep (.initial rfl) fun _ _ h => by cases h

theorem reachable_leased : (secretSystem some).Reachable leased :=
  reachable_secretStep (e := .acquireLease) reachable_requested trivial

theorem reachable_submitted : (secretSystem some).Reachable submitted :=
  reachable_secretStep (e := .submit 0 "correct horse") reachable_leased trivial

theorem reachable_taken : (secretSystem some).Reachable taken :=
  reachable_secretStep (e := .work 0 true)
    (reachable_secretStep (e := .work 0 true) reachable_submitted trivial) trivial

theorem reachable_answered : (secretSystem some).Reachable answered :=
  reachable_secretStep (e := .work 0 true)
    (reachable_secretStep (e := .work 0 true)
      (reachable_secretStep (e := .work 0 true) reachable_taken trivial) trivial) trivial

/-- The worker of a cell goes on for some steps. -/
def SecretRun.works (c n : Nat) (s : SecretRun Nat String) : SecretRun Nat String :=
  (fun s => s.after some (.work c true))^[n] s

/-- The request is cancelled while a connection holds its lease. -/
def lapsed : SecretRun Nat String :=
  leased.after some (.cancelGetSecrets homeNetwork)

/-- Its worker has seen the channel closed; the request is made again. -/
def renewed : SecretRun Nat String :=
  (lapsed.works 0 3).after some (.getSecrets homeNetwork 1)

/-- The connection submits under the stale lease, and the first worker ends. -/
def stale : SecretRun Nat String :=
  (renewed.after some (.submit 0 "correct horse")).works 0 2

/-- A lease of the new request is used, and its worker answers. -/
def reanswered : SecretRun Nat String :=
  ((stale.after some .acquireLease).after some (.submit 1 "battery staple")).works 1 6

theorem reachable_works {s : SecretRun Nat String} (h : (secretSystem some).Reachable s)
    (c n : Nat) : (secretSystem some).Reachable (s.works c n) := by
  induction n generalizing s with
  | zero => exact h
  | succ n ih => exact ih (reachable_secretStep (e := .work c true) h trivial)

theorem reachable_lapsed : (secretSystem some).Reachable lapsed :=
  reachable_secretStep (e := .cancelGetSecrets homeNetwork) reachable_leased trivial

theorem fresh_lapsed : (lapsed.works 0 3).Fresh (.getSecrets homeNetwork 1) :=
  fresh_of_allocated (reachable_works reachable_lapsed 0 3) (by decide)

theorem reachable_stale : (secretSystem some).Reachable stale :=
  reachable_works (reachable_secretStep (e := .submit 0 "correct horse")
    (reachable_secretStep (reachable_works reachable_lapsed 0 3) fresh_lapsed) trivial) 0 2

theorem reachable_reanswered : (secretSystem some).Reachable reanswered :=
  reachable_works (reachable_secretStep (e := .submit 1 "battery staple")
    (reachable_secretStep (e := .acquireLease) reachable_stale trivial) trivial) 1 6

/-- A run in which the secret arrives, and one in which it is given under a stale lease. -/
theorem secret_guarantees_answered :
    (SecretGuarantees answered ∧
      answered.history =
        [.replied 0 0 [("802-11-wireless-security", [("psk", "correct horse")])],
          .submitted 0 0 true]) ∧
    SecretGuarantees reanswered ∧
      reanswered.history =
        [.replied 1 1 [("802-11-wireless-security", [("psk", "battery staple")])],
          .submitted 1 1 true, .submitted 0 0 false, .removed 0] :=
  ⟨⟨secret_guarantees some reachable_answered, by decide⟩,
    secret_guarantees some reachable_reanswered, by decide⟩

end Sample

end SleepySession
