import SleepySession.Desktop.SecretContents
import SleepySession.Desktop.SecretSocket

/-!
# Whose secret a reply carries

The socket serves one connection at a time and takes back the challenge of each
before it serves the next.  So a response can answer no challenge but its own
connection's, and a reply to NetworkManager carries what one connection sent
for the request that it held a lease of.
-/

namespace SleepySession

open NetworkManagerSecretExchange

section Frames

theorem foldl_or_xor_eq_zero (l : List (UInt8 × UInt8)) (d : UInt8) :
    l.foldl (fun difference p => difference ||| (p.1 ^^^ p.2)) d = 0 ↔
      d = 0 ∧ ∀ p ∈ l, p.1 = p.2 := by
  induction l generalizing d with
  | nil => simp
  | cons p l ih => simp [ih, and_assoc]

@[simp] theorem constantTimeEqual_iff {left right : List UInt8} :
    constantTimeEqual left right = true ↔ left = right := by
  unfold constantTimeEqual
  split
  case isTrue hlength =>
    constructor
    · intro h
      cases h
    · rintro rfl
      exact absurd rfl hlength
  case isFalse hlength =>
    have hlength : left.length = right.length := not_not.mp hlength
    rw [beq_iff_eq, foldl_or_xor_eq_zero]
    constructor
    · rintro ⟨-, h⟩
      refine List.ext_getElem hlength fun i hi hi' => ?_
      exact h (left[i], right[i])
        (List.mem_iff_getElem.mpr ⟨i, by simp [hi, hi'], by simp⟩)
    · rintro rfl
      refine ⟨rfl, fun p hp => ?_⟩
      obtain ⟨i, hi, rfl⟩ := List.mem_iff_getElem.mp hp
      simp

/-- What makes the broker expose the bytes behind a challenge. -/
theorem acceptLockedResponse_eq_ok {broker : SecretBroker} {now : Nat}
    {response secret : List UInt8} :
    (broker.acceptLockedResponse now response).1 = .ok secret ↔
      ∃ challenge, broker.pending = some challenge ∧ now < challenge.deadline ∧
        response = challenge.id.bytes ++ secret ∧ secret ≠ [] ∧
        response.length ≤ maxSecretFrame := by
  unfold SecretBroker.acceptLockedResponse
  split
  case isTrue hsize =>
    constructor
    · intro h
      cases h
    · rintro ⟨challenge, -, -, rfl, hsecret, hbound⟩
      have := List.length_pos_iff.mpr hsecret
      rw [List.length_append, challenge.id.length] at hsize hbound
      omega
  case isFalse hsize =>
    have hsize : response.length ≤ maxSecretFrame ∧ 16 < response.length := by
      simpa [not_or] using hsize
    cases hpending : broker.pending with
    | none => simp
    | some challenge =>
        simp only [Option.some.injEq, exists_eq_left']
        by_cases hexpired : challenge.deadline ≤ now
        · rw [if_pos hexpired]
          simp [Nat.not_lt.mpr hexpired]
        rw [if_neg hexpired]
        have hlive : now < challenge.deadline := Nat.lt_of_not_le hexpired
        by_cases hequal : response.take 16 = challenge.id.bytes
        · rw [if_pos (constantTimeEqual_iff.mpr hequal)]
          constructor
          · intro h
            obtain rfl := Except.ok.inj h
            refine ⟨hlive, ?_, ?_, hsize.1⟩
            · rw [← hequal, List.take_append_drop]
            · exact List.ne_nil_of_length_pos (by rw [List.length_drop]; omega)
          · rintro ⟨-, rfl, -, -⟩
            rw [List.drop_left' challenge.id.length]
        · rw [if_neg (fun h => hequal (constantTimeEqual_iff.mp h))]
          constructor
          · intro h
            cases h
          · rintro ⟨-, rfl, -, -⟩
            exact absurd (List.take_left' challenge.id.length) hequal

/-- A response of a valid size consumes the challenge, whatever comes of it. -/
theorem acceptLockedResponse_pending {broker : SecretBroker} {now : Nat}
    {response secret : List UInt8}
    (h : (broker.acceptLockedResponse now response).1 = .ok secret) :
    (broker.acceptLockedResponse now response).2.pending = none := by
  unfold SecretBroker.acceptLockedResponse at h ⊢
  split
  case isTrue hsize =>
    rw [if_pos hsize] at h
    cases h
  case isFalse hsize =>
    cases hpending : broker.pending with
    | none => exact hpending
    | some challenge =>
        dsimp only
        split
        · rfl
        split <;> rfl

end Frames

section Records

variable {ι : Type}

def SocketRecord.connection : SocketRecord ι → Nat
  | .leased n _ => n
  | .challenged n _ => n
  | .accepted n _ => n
  | .submitted n _ => n

/-- A connection does each thing once, and in this order. -/
def SocketRecord.rank : SocketRecord ι → Nat
  | .leased _ _ => 0
  | .challenged _ _ => 1
  | .accepted _ _ => 2
  | .submitted _ _ => 3

/-- The place of a record in the order of all connections. -/
def SocketRecord.Before (r : SocketRecord ι) (n rank : Nat) : Prop :=
  r.connection < n ∨ r.connection = n ∧ r.rank < rank

def Below (log : List (SocketRecord ι)) (n rank : Nat) : Prop :=
  ∀ r ∈ log, r.Before n rank

/-- A connection that took a lease was given a challenge and sent it back with a secret. -/
structure Answered (log : List (SocketRecord ι)) (k : Nat) (lease : SecretRequestLease ι)
    (challenge : ChallengeId) (secret : List UInt8) : Prop where
  leased : .leased k lease ∈ log
  challenged : .challenged k challenge ∈ log
  accepted : .accepted k (challenge.bytes ++ secret) ∈ log
  nonempty : secret ≠ []
  bounded : (challenge.bytes ++ secret).length ≤ maxSecretFrame

/-- A connection submitted the secret under a lease of the cell. -/
def Sent (log : List (SocketRecord ι)) (c : Nat) (secret : LockedSecret (List UInt8)) : Prop :=
  ∃ k lease challenge, .submitted k secret.object ∈ log ∧ lease.cell = c ∧
    Answered log k lease challenge secret.exposed

theorem Answered.mono {log log' : List (SocketRecord ι)} {k : Nat}
    {lease : SecretRequestLease ι} {challenge : ChallengeId} {secret : List UInt8}
    (h : Answered log k lease challenge secret) (hlog : log ⊆ log') :
    Answered log' k lease challenge secret :=
  ⟨hlog h.leased, hlog h.challenged, hlog h.accepted, h.nonempty, h.bounded⟩

theorem Sent.mono {log log' : List (SocketRecord ι)} {c : Nat}
    {secret : LockedSecret (List UInt8)} (h : Sent log c secret) (hlog : log ⊆ log') :
    Sent log' c secret := by
  obtain ⟨k, lease, challenge, hsubmitted, hcell, hanswered⟩ := h
  exact ⟨k, lease, challenge, hlog hsubmitted, hcell, hanswered.mono hlog⟩

theorem Below.mono {log : List (SocketRecord ι)} {n rank rank' : Nat} (h : Below log n rank)
    (hrank : rank ≤ rank') : Below log n rank' := by
  intro r hr
  rcases h r hr with hlt | ⟨heq, hlt⟩
  · exact Or.inl hlt
  · exact Or.inr ⟨heq, lt_of_lt_of_le hlt hrank⟩

theorem Below.next {log : List (SocketRecord ι)} {n rank : Nat} (h : Below log n rank) :
    Below log (n + 1) 0 := by
  intro r hr
  rcases h r hr with hlt | ⟨heq, -⟩ <;> exact Or.inl (by omega)

theorem Below.cons {log : List (SocketRecord ι)} {n rank : Nat} (h : Below log n rank)
    (r : SocketRecord ι) (hconnection : r.connection = n) (hrank : r.rank = rank) :
    Below (r :: log) n (rank + 1) := by
  intro r' hr'
  rcases List.mem_cons.mp hr' with rfl | hr'
  · exact Or.inr ⟨hconnection, by omega⟩
  · exact h.mono (Nat.le_succ rank) r' hr'

/-- In the order of the connections, records of one kind and connection are equal. -/
theorem eq_of_pairwise {log : List (SocketRecord ι)}
    (h : log.Pairwise fun newer older => older.Before newer.connection newer.rank)
    {r r' : SocketRecord ι} (hr : r ∈ log) (hr' : r' ∈ log)
    (hconnection : r.connection = r'.connection) (hrank : r.rank = r'.rank) : r = r' := by
  have : Std.Symm fun x y : SocketRecord ι =>
      ¬ (x.connection = y.connection ∧ x.rank = y.rank) :=
    ⟨fun _ _ hxy hyx => hxy ⟨hyx.1.symm, hyx.2.symm⟩⟩
  have hapart : log.Pairwise fun x y => ¬ (x.connection = y.connection ∧ x.rank = y.rank) := by
    refine h.imp ?_
    rintro x y (hlt | ⟨-, hlt⟩) ⟨hc, hk⟩ <;> omega
  by_contra hne
  exact hapart.forall hr hr' hne ⟨hconnection, hrank⟩

end Records

section Runs

variable {ι : Type} [DecidableEq ι] {fromUtf8 : List UInt8 → Option String}
  {secrets : SecretRun ι (List UInt8)} {log : List (SocketRecord ι)}

/-- What the records of the socket say about the exchange. -/
structure SocketRecorded (fromUtf8 : List UInt8 → Option String)
    (secrets : SecretRun ι (List UInt8)) (log : List (SocketRecord ι)) : Prop where
  reachable : (secretSystem fromUtf8).Reachable secrets
  carried : secrets.Carried fromUtf8 (Sent log)
  order : log.Pairwise fun newer older => older.Before newer.connection newer.rank
  fresh : ∀ k k' challenge, .challenged k challenge ∈ log → .challenged k' challenge ∈ log →
    k = k'
  answered : ∀ k response, .accepted k response ∈ log → ∃ lease challenge secret,
    response = challenge.bytes ++ secret ∧ Answered log k lease challenge secret
  objects : ∀ k object, .submitted k object ∈ log → object < secrets.objects
  single : ∀ k k' object, .submitted k object ∈ log → .submitted k' object ∈ log → k = k'

theorem SocketRecorded.new : SocketRecorded fromUtf8 (SecretRun.new : SecretRun ι (List UInt8)) [] :=
  ⟨.initial rfl, .new, .nil, fun _ _ _ h => (by cases h), fun _ _ h => (by cases h),
    fun _ _ h => (by cases h), fun _ _ _ h => (by cases h)⟩

omit [DecidableEq ι] in
theorem afterCancel_frame (s : SecretRun ι (List UInt8))
    (exchange : NetworkManagerSecretExchange ι (List UInt8)) :
    (s.afterCancel exchange).leases = s.leases ∧
      (s.afterCancel exchange).objects = s.objects := by
  unfold SecretRun.afterCancel
  split
  · split <;> exact ⟨rfl, rfl⟩
  · exact ⟨rfl, rfl⟩

omit [DecidableEq ι] in
theorem receive_frame (s : SecretRun ι (List UInt8)) (worker : SecretWorker ι (List UInt8)) :
    (s.receive worker).leases = s.leases ∧ (s.receive worker).objects = s.objects := by
  unfold SecretRun.receive
  dsimp only
  split
  · exact ⟨rfl, rfl⟩
  · split
    · exact ⟨rfl, rfl⟩
    · split <;> exact ⟨rfl, rfl⟩

/-- A worker takes no lease and submits nothing. -/
theorem work_frame (s : SecretRun ι (List UInt8)) (delivered : Bool)
    (worker : SecretWorker ι (List UInt8)) :
    (s.work fromUtf8 delivered worker).leases = s.leases ∧
      (s.work fromUtf8 delivered worker).objects = s.objects := by
  unfold SecretRun.work
  dsimp only
  split
  case h_1 => split <;> exact ⟨rfl, rfl⟩
  case h_2 => exact receive_frame s worker
  case h_3 => exact afterCancel_frame s _
  case h_4 =>
    split
    · exact ⟨rfl, rfl⟩
    · split <;> exact ⟨rfl, rfl⟩
  case h_5 => split <;> exact ⟨rfl, rfl⟩
  case h_6 => split <;> exact ⟨rfl, rfl⟩
  case h_7 => exact ⟨rfl, rfl⟩
  case h_8 => exact ⟨rfl, rfl⟩
  case h_9 => exact ⟨rfl, rfl⟩

/-- What happens outside the socket takes no lease and submits nothing. -/
theorem background_frame {e : SecretStep ι (List UInt8)} (h : e.Background) :
    (secrets.after fromUtf8 e).leases = secrets.leases ∧
      (secrets.after fromUtf8 e).objects = secrets.objects := by
  cases e with
  | tick elapsed => exact ⟨rfl, rfl⟩
  | getSecrets key id =>
      simp only [SecretRun.after]
      split <;> exact ⟨rfl, rfl⟩
  | cancelGetSecrets key => exact afterCancel_frame secrets _
  | ownerChanged => exact afterCancel_frame secrets _
  | acquireLease => exact h.elim
  | submit lease secret => exact h.elim
  | work cell delivered =>
      simp only [SecretRun.after]
      split
      · exact ⟨rfl, rfl⟩
      · exact work_frame secrets delivered _

theorem SocketRecorded.background (h : SocketRecorded fromUtf8 secrets log)
    {e : SecretStep ι (List UInt8)} (hback : e.Background) (hfresh : secrets.Fresh e) :
    SocketRecorded fromUtf8 (secrets.after fromUtf8 e) log := by
  refine ⟨.step h.reachable ⟨hfresh, rfl⟩, h.carried.after ?_, h.order, h.fresh, h.answered,
    ?_, h.single⟩
  · rintro lease secret rfl
    exact hback
  · rw [(background_frame hback).2]
    exact h.objects

omit [DecidableEq ι] in
theorem SocketRecorded.answered_cons
    (h : ∀ k response, .accepted k response ∈ log → ∃ lease challenge secret,
      response = challenge.bytes ++ secret ∧ Answered log k lease challenge secret)
    (r : SocketRecord ι) {k : Nat} {response : List UInt8} (hmem : .accepted k response ∈ log) :
    ∃ lease challenge secret, response = challenge.bytes ++ secret ∧
      Answered (r :: log) k lease challenge secret := by
  obtain ⟨lease, challenge, secret, hresponse, hanswered⟩ := h k response hmem
  exact ⟨lease, challenge, secret, hresponse, hanswered.mono (List.subset_cons_self r log)⟩

theorem SocketRecorded.leased (h : SocketRecorded fromUtf8 secrets log) {n : Nat}
    (hbelow : Below log n 0) {lease : SecretRequestLease ι}
    (hlease : secrets.exchange.acquireLease = .ok lease) :
    SocketRecorded fromUtf8 { secrets with leases := secrets.leases ++ [lease] }
      (.leased n lease :: log) := by
  have hafter : secrets.after fromUtf8 .acquireLease =
      { secrets with leases := secrets.leases ++ [lease] } := by
    simp only [SecretRun.after, hlease]
  have hsubset : log ⊆ (.leased n lease :: log) := List.subset_cons_self _ log
  rw [← hafter]
  refine ⟨.step (e := .acquireLease) h.reachable ⟨trivial, rfl⟩,
    (h.carried.after fun _ _ heq => by cases heq).mono fun c secret hsent => hsent.mono hsubset,
    h.order.cons hbelow, ?_, ?_, ?_, ?_⟩
  · intro k k' challenge hk hk'
    exact h.fresh k k' challenge (by simpa using hk) (by simpa using hk')
  · intro k response hmem
    exact SocketRecorded.answered_cons h.answered _ (by simpa using hmem)
  · intro k object hmem
    rw [hafter]
    exact h.objects k object (by simpa using hmem)
  · intro k k' object hk hk'
    exact h.single k k' object (by simpa using hk) (by simpa using hk')

theorem SocketRecorded.challenged (h : SocketRecorded fromUtf8 secrets log) {n : Nat}
    (hbelow : Below log n 1) {challenge : ChallengeId}
    (hfresh : ∀ k, .challenged k challenge ∉ log) :
    SocketRecorded fromUtf8 secrets (.challenged n challenge :: log) := by
  have hsubset : log ⊆ (.challenged n challenge :: log) := List.subset_cons_self _ log
  refine ⟨h.reachable, h.carried.mono fun c secret hsent => hsent.mono hsubset,
    h.order.cons hbelow, ?_, ?_, ?_, ?_⟩
  · intro k k' challenge' hk hk'
    rcases List.mem_cons.mp hk with heq | hk <;> rcases List.mem_cons.mp hk' with heq' | hk'
    · exact (SocketRecord.challenged.inj heq).1.trans (SocketRecord.challenged.inj heq').1.symm
    · exact absurd ((SocketRecord.challenged.inj heq).2 ▸ hk') (hfresh k')
    · exact absurd ((SocketRecord.challenged.inj heq').2 ▸ hk) (hfresh k)
    · exact h.fresh k k' challenge' hk hk'
  · intro k response hmem
    exact SocketRecorded.answered_cons h.answered _ (by simpa using hmem)
  · intro k object hmem
    exact h.objects k object (by simpa using hmem)
  · intro k k' object hk hk'
    exact h.single k k' object (by simpa using hk) (by simpa using hk')

theorem SocketRecorded.accepted (h : SocketRecorded fromUtf8 secrets log) {n : Nat}
    (hbelow : Below log n 2) {lease : SecretRequestLease ι} {challenge : ChallengeId}
    {secret : List UInt8}
    (hanswered : Answered (.accepted n (challenge.bytes ++ secret) :: log) n lease challenge
      secret) :
    SocketRecorded fromUtf8 secrets (.accepted n (challenge.bytes ++ secret) :: log) := by
  have hsubset : log ⊆ (.accepted n (challenge.bytes ++ secret) :: log) :=
    List.subset_cons_self _ log
  refine ⟨h.reachable, h.carried.mono fun c secret hsent => hsent.mono hsubset,
    h.order.cons hbelow, ?_, ?_, ?_, ?_⟩
  · intro k k' challenge' hk hk'
    exact h.fresh k k' challenge' (by simpa using hk) (by simpa using hk')
  · intro k response hmem
    rcases List.mem_cons.mp hmem with heq | hmem
    · obtain ⟨rfl, rfl⟩ := SocketRecord.accepted.inj heq
      exact ⟨lease, challenge, secret, rfl, hanswered⟩
    · exact SocketRecorded.answered_cons h.answered _ hmem
  · intro k object hmem
    exact h.objects k object (by simpa using hmem)
  · intro k k' object hk hk'
    exact h.single k k' object (by simpa using hk) (by simpa using hk')

theorem submitUnder_eq_after {lease : SecretRequestLease ι} {i : Nat}
    (hlease : secrets.leases[i]? = some lease) (secret : List UInt8) :
    secrets.after fromUtf8 (.submit i secret) = secrets.submitUnder lease secret := by
  simp only [SecretRun.after, hlease]

theorem submitUnder_frame (lease : SecretRequestLease ι) (secret : List UInt8) :
    (secrets.submitUnder lease secret).leases = secrets.leases ∧
      (secrets.submitUnder lease secret).objects = secrets.objects + 1 := by
  unfold SecretRun.submitUnder
  split <;> exact ⟨rfl, rfl⟩

theorem SocketRecorded.submitted (h : SocketRecorded fromUtf8 secrets log) {n : Nat}
    (hbelow : Below log n 3) {lease : SecretRequestLease ι} (hlease : lease ∈ secrets.leases)
    {challenge : ChallengeId} {secret : List UInt8}
    (hanswered : Answered log n lease challenge secret) :
    SocketRecorded fromUtf8 (secrets.submitUnder lease secret)
      (.submitted n secrets.objects :: log) := by
  have hsubset : log ⊆ (.submitted n secrets.objects :: log) := List.subset_cons_self _ log
  have hsent : Sent (.submitted n secrets.objects :: log) lease.cell
      ⟨secrets.objects, secret⟩ :=
    ⟨n, lease, challenge, List.mem_cons_self, rfl, hanswered.mono hsubset⟩
  obtain ⟨i, hi⟩ := List.mem_iff_getElem?.mp hlease
  refine ⟨?_, (h.carried.mono fun c secret hsent => hsent.mono hsubset).submitUnder hsent,
    h.order.cons hbelow, ?_, ?_, ?_, ?_⟩
  · rw [← submitUnder_eq_after hi secret]
    exact .step (e := .submit i secret) h.reachable ⟨trivial, rfl⟩
  · intro k k' challenge' hk hk'
    exact h.fresh k k' challenge' (by simpa using hk) (by simpa using hk')
  · intro k response hmem
    exact SocketRecorded.answered_cons h.answered _ (by simpa using hmem)
  · intro k object hmem
    rw [(submitUnder_frame lease secret).2]
    rcases List.mem_cons.mp hmem with heq | hmem
    · obtain ⟨-, rfl⟩ := SocketRecord.submitted.inj heq
      exact Nat.lt_succ_self _
    · exact Nat.lt_succ_of_lt (h.objects k object hmem)
  · intro k k' object hk hk'
    rcases List.mem_cons.mp hk with heq | hk <;> rcases List.mem_cons.mp hk' with heq' | hk'
    · exact (SocketRecord.submitted.inj heq).1.trans (SocketRecord.submitted.inj heq').1.symm
    · exact absurd (h.objects k' object hk') (by simp [(SocketRecord.submitted.inj heq).2])
    · exact absurd (h.objects k object hk) (by simp [(SocketRecord.submitted.inj heq').2])
    · exact h.single k k' object hk hk'

end Runs

section Socket

variable {ι : Type} [DecidableEq ι] {fromUtf8 : List UInt8 → Option String}
  {s : SecretSocketRun ι} {n : Nat}

namespace SecretSocketRun

/-- What is true of the connection that is being served. -/
def StageHolds (s : SecretSocketRun ι) (n : Nat) : ServeStage ι → Prop
  | .acquiring => s.broker.pending = none ∧ Below s.log n 0
  | .checking lease | .issuing lease =>
      s.broker.pending = none ∧ Below s.log n 1 ∧ lease ∈ s.secrets.leases ∧
        .leased n lease ∈ s.log
  | .writing lease challenge | .reading lease challenge | .accepting lease challenge _ =>
      s.broker.pending = some ⟨challenge, lease.deadline⟩ ∧ Below s.log n 2 ∧
        lease ∈ s.secrets.leases ∧ .leased n lease ∈ s.log ∧ .challenged n challenge ∈ s.log
  | .submitting lease challenge secret =>
      s.broker.pending = none ∧ Below s.log n 3 ∧ lease ∈ s.secrets.leases ∧
        Answered s.log n lease challenge secret
  | .cancelling => Below s.log n 4

/-- Between two connections the broker has no challenge. -/
def ConnectionHolds (s : SecretSocketRun ι) : Option (SecretConnection ι) → Prop
  | none => Below s.log s.served 0 ∧ (s.stopping = false → s.broker.pending = none)
  | some connection =>
      connection.number + 1 = s.served ∧ s.StageHolds connection.number connection.stage

/-- The invariant of the socket. -/
structure Invariant (fromUtf8 : List UInt8 → Option String) (s : SecretSocketRun ι) : Prop where
  recorded : SocketRecorded fromUtf8 s.secrets s.log
  holds : s.ConnectionHolds s.connection

theorem Invariant.new : (SecretSocketRun.new : SecretSocketRun ι).Invariant fromUtf8 :=
  ⟨.new, fun _ hr => (by cases hr), fun _ => rfl⟩

omit [DecidableEq ι] in
/-- Whatever the connection has done, it has done it in order. -/
theorem StageHolds.below {stage : ServeStage ι} (h : s.StageHolds n stage) :
    Below s.log n 4 := by
  cases stage with
  | acquiring => exact h.2.mono (by omega)
  | checking lease => exact h.2.1.mono (by omega)
  | issuing lease => exact h.2.1.mono (by omega)
  | writing lease challenge => exact h.2.1.mono (by omega)
  | reading lease challenge => exact h.2.1.mono (by omega)
  | accepting lease challenge response => exact h.2.1.mono (by omega)
  | submitting lease challenge secret => exact h.2.1.mono (by omega)
  | cancelling => exact h

omit [DecidableEq ι] in
/-- The facts about a stage stay true when the exchange keeps its leases. -/
theorem StageHolds.withSecrets {stage : ServeStage ι} (h : s.StageHolds n stage)
    {secrets : SecretRun ι (List UInt8)} (hleases : secrets.leases = s.secrets.leases) :
    StageHolds { s with secrets := secrets } n stage := by
  cases stage with
  | acquiring => exact h
  | checking lease => exact ⟨h.1, h.2.1, hleases ▸ h.2.2.1, h.2.2.2⟩
  | issuing lease => exact ⟨h.1, h.2.1, hleases ▸ h.2.2.1, h.2.2.2⟩
  | writing lease challenge => exact ⟨h.1, h.2.1, hleases ▸ h.2.2.1, h.2.2.2⟩
  | reading lease challenge => exact ⟨h.1, h.2.1, hleases ▸ h.2.2.1, h.2.2.2⟩
  | accepting lease challenge response => exact ⟨h.1, h.2.1, hleases ▸ h.2.2.1, h.2.2.2⟩
  | submitting lease challenge secret => exact ⟨h.1, h.2.1, hleases ▸ h.2.2.1, h.2.2.2⟩
  | cancelling => exact h

theorem Invariant.current (h : s.Invariant fromUtf8) {stage : ServeStage ι}
    (hconnection : s.connection = some ⟨n, stage⟩) :
    n + 1 = s.served ∧ s.StageHolds n stage := by
  have hholds := h.holds
  rw [hconnection] at hholds
  exact hholds

/-- The connection ends, and no challenge is left behind. -/
theorem Invariant.close (h : s.Invariant fromUtf8) {stage : ServeStage ι}
    (hconnection : s.connection = some ⟨n, stage⟩)
    (hidle : s.stopping = false → s.broker.pending = none) :
    s.close.Invariant fromUtf8 := by
  obtain ⟨hserved, hstage⟩ := h.current hconnection
  refine ⟨h.recorded, ?_, hidle⟩
  have := hstage.below.next
  rwa [hserved] at this

theorem Invariant.cancelling (h : s.Invariant fromUtf8) {stage : ServeStage ι}
    (hconnection : s.connection = some ⟨n, stage⟩) :
    (s.toStage n .cancelling).Invariant fromUtf8 := by
  obtain ⟨hserved, hstage⟩ := h.current hconnection
  exact ⟨h.recorded, hserved, hstage.below⟩

theorem Invariant.background (h : s.Invariant fromUtf8) {e : SecretStep ι (List UInt8)}
    (hback : e.Background) (hfresh : s.secrets.Fresh e) :
    Invariant fromUtf8 { s with secrets := s.secrets.after fromUtf8 e } := by
  refine ⟨h.recorded.background hback hfresh, ?_⟩
  have hholds := h.holds
  cases hconnection : s.connection with
  | none =>
      rw [hconnection] at hholds
      exact hholds
  | some connection =>
      rw [hconnection] at hholds
      exact ⟨hholds.1, hholds.2.withSecrets (background_frame hback).1⟩

theorem Invariant.connected (h : s.Invariant fromUtf8) (hrunning : s.stopping = false) :
    s.connected.Invariant fromUtf8 := by
  unfold SecretSocketRun.connected
  split
  · exact h
  case isFalse hfree =>
    have hholds := h.holds
    rw [Option.not_isSome_iff_eq_none.mp hfree] at hholds
    exact ⟨h.recorded, rfl, hholds.2 hrunning, hholds.1⟩

theorem Invariant.acquired (h : s.Invariant fromUtf8)
    (hconnection : s.connection = some ⟨n, .acquiring⟩) :
    (s.acquired n).Invariant fromUtf8 := by
  obtain ⟨hserved, hpending, hbelow⟩ := h.current hconnection
  unfold SecretSocketRun.acquired
  split
  · exact h.close hconnection fun _ => hpending
  case h_2 lease hlease =>
    exact ⟨h.recorded.leased hbelow hlease, hserved, hpending, hbelow.cons _ rfl rfl,
      List.mem_append_right _ List.mem_cons_self, List.mem_cons_self⟩

theorem Invariant.checked (h : s.Invariant fromUtf8) {lease : SecretRequestLease ι}
    (hconnection : s.connection = some ⟨n, .checking lease⟩) :
    (s.checked n lease).Invariant fromUtf8 := by
  obtain ⟨hserved, hstage⟩ := h.current hconnection
  unfold SecretSocketRun.checked
  split
  · exact h.close hconnection fun _ => hstage.1
  · exact ⟨h.recorded, hserved, hstage⟩

/-- While a connection is about to be given a challenge, there is none. -/
theorem Invariant.issueUntil (h : s.Invariant fromUtf8) {lease : SecretRequestLease ι}
    (hconnection : s.connection = some ⟨n, .issuing lease⟩) (id : ChallengeId) :
    s.broker.issueUntil lease.deadline id = .ok (id, ⟨some ⟨id, lease.deadline⟩⟩) := by
  obtain ⟨-, hpending, -⟩ := h.current hconnection
  unfold SecretBroker.issueUntil
  rw [hpending]
  rfl

theorem Invariant.issued (h : s.Invariant fromUtf8) {lease : SecretRequestLease ι}
    (hconnection : s.connection = some ⟨n, .issuing lease⟩) {id : ChallengeId}
    (hfresh : s.FreshChallenge id) :
    (s.issued n lease id).Invariant fromUtf8 := by
  obtain ⟨hserved, -, hbelow, hlease, hleased⟩ := h.current hconnection
  unfold SecretSocketRun.issued
  rw [h.issueUntil hconnection id]
  exact ⟨h.recorded.challenged hbelow hfresh, hserved, rfl, hbelow.cons _ rfl rfl, hlease,
    List.mem_cons_of_mem _ hleased, List.mem_cons_self⟩

theorem Invariant.readFrame (h : s.Invariant fromUtf8) {lease : SecretRequestLease ι}
    {challenge : ChallengeId} (hconnection : s.connection = some ⟨n, .reading lease challenge⟩)
    (stream : List UInt8) :
    (s.readFrame n lease challenge stream).Invariant fromUtf8 := by
  obtain ⟨hserved, hstage⟩ := h.current hconnection
  unfold SecretSocketRun.readFrame
  split
  · exact h.cancelling hconnection
  · exact ⟨h.recorded, hserved, hstage⟩

/-- The responses that a connection can make are the ones to its own challenge. -/
theorem Invariant.acceptLockedResponse (h : s.Invariant fromUtf8)
    {lease : SecretRequestLease ι} {challenge : ChallengeId} {response : List UInt8}
    (hconnection : s.connection = some ⟨n, .accepting lease challenge response⟩)
    (now : Nat) (secret : List UInt8) :
    (s.broker.acceptLockedResponse now response).1 = .ok secret ↔
      now < lease.deadline ∧ response = challenge.bytes ++ secret ∧ secret ≠ [] ∧
        response.length ≤ maxSecretFrame := by
  obtain ⟨-, hpending, -⟩ := h.current hconnection
  rw [acceptLockedResponse_eq_ok]
  constructor
  · rintro ⟨challenge', hchallenge, hrest⟩
    rw [hpending] at hchallenge
    obtain rfl := Option.some.inj hchallenge
    exact hrest
  · intro hrest
    exact ⟨_, hpending, hrest⟩

theorem Invariant.judged (h : s.Invariant fromUtf8) {lease : SecretRequestLease ι}
    {challenge : ChallengeId} {response : List UInt8}
    (hconnection : s.connection = some ⟨n, .accepting lease challenge response⟩) :
    (s.judged n lease challenge response).Invariant fromUtf8 := by
  obtain ⟨hserved, -, hbelow, hlease, hleased, hchallenged⟩ := h.current hconnection
  unfold SecretSocketRun.judged
  cases hresult : s.broker.acceptLockedResponse s.secrets.exchange.now response with
  | mk result broker =>
      dsimp only
      split
      · exact ⟨h.recorded, hserved, hbelow.mono (by omega)⟩
      case h_2 secret =>
        have hok : (s.broker.acceptLockedResponse s.secrets.exchange.now response).1 =
            .ok secret := by rw [hresult]
        obtain ⟨-, rfl, hsecret, hsize⟩ :=
          (h.acceptLockedResponse hconnection s.secrets.exchange.now secret).mp hok
        have hnone := acceptLockedResponse_pending hok
        rw [hresult] at hnone
        have hanswered : Answered (.accepted n (challenge.bytes ++ secret) :: s.log) n lease
            challenge secret :=
          ⟨List.mem_cons_of_mem _ hleased, List.mem_cons_of_mem _ hchallenged,
            List.mem_cons_self, hsecret, hsize⟩
        exact ⟨h.recorded.accepted hbelow hanswered, hserved, hnone, hbelow.cons _ rfl rfl,
          hlease, hanswered⟩

theorem Invariant.submitted (h : s.Invariant fromUtf8) {lease : SecretRequestLease ι}
    {challenge : ChallengeId} {secret : List UInt8}
    (hconnection : s.connection = some ⟨n, .submitting lease challenge secret⟩) :
    (s.submitted n lease secret).Invariant fromUtf8 := by
  obtain ⟨hserved, -, hbelow, hlease, hanswered⟩ := h.current hconnection
  exact ⟨h.recorded.submitted hbelow hlease hanswered, hserved, hbelow.cons _ rfl rfl⟩

/-- Every step of the socket and of everything outside it keeps the invariant. -/
theorem Invariant.step (h : s.Invariant fromUtf8) {e : SecretSocketEvent ι}
    {t : SecretSocketRun ι} (hstep : SecretSocketRun.step fromUtf8 e s t) :
    t.Invariant fromUtf8 := by
  cases e with
  | background e =>
      obtain ⟨hback, hfresh, rfl⟩ := hstep
      exact h.background hback hfresh
  | connect =>
      obtain ⟨hrunning, rfl⟩ := hstep
      exact h.connected hrunning
  | acquireLease =>
      obtain ⟨n, hconnection, rfl⟩ := hstep
      exact h.acquired hconnection
  | checkDeadline =>
      obtain ⟨n, lease, hconnection, rfl⟩ := hstep
      exact h.checked hconnection
  | issue id =>
      obtain ⟨n, lease, hconnection, hfresh, rfl⟩ := hstep
      exact h.issued hconnection hfresh
  | written =>
      obtain ⟨n, lease, challenge, hconnection, rfl⟩ := hstep
      obtain ⟨hserved, hstage⟩ := h.current hconnection
      exact ⟨h.recorded, hserved, hstage⟩
  | ioFailed =>
      obtain ⟨n, lease, challenge, hconnection | hconnection, rfl⟩ := hstep
      · exact h.cancelling hconnection
      · exact h.cancelling hconnection
  | received stream =>
      obtain ⟨n, lease, challenge, hconnection, rfl⟩ := hstep
      exact h.readFrame hconnection stream
  | accept =>
      obtain ⟨n, lease, challenge, response, hconnection, rfl⟩ := hstep
      exact h.judged hconnection
  | submit =>
      obtain ⟨n, lease, challenge, secret, hconnection, rfl⟩ := hstep
      exact h.submitted hconnection
  | interrupt =>
      obtain ⟨n, stage, lease, hconnection, -, -, rfl⟩ := hstep
      exact h.cancelling hconnection
  | cancelPending =>
      obtain ⟨n, hconnection, rfl⟩ := hstep
      have hcancelled : Invariant fromUtf8 { s with broker := s.broker.cancelPending } := by
        obtain ⟨hserved, hstage⟩ := h.current hconnection
        refine ⟨h.recorded, ?_⟩
        rw [hconnection]
        exact ⟨hserved, hstage⟩
      exact hcancelled.close hconnection fun _ => rfl
  | stop =>
      obtain rfl := hstep
      refine ⟨h.recorded, ?_⟩
      have hholds := h.holds
      cases hconnection : s.connection with
      | none =>
          rw [hconnection] at hholds
          exact ⟨hholds.1, fun hrunning => by cases hrunning⟩
      | some connection =>
          rw [hconnection] at hholds
          refine ⟨hholds.1, ?_⟩
          have hstage := hholds.2
          cases hcase : connection.stage <;> rw [hcase] at hstage <;> exact hstage
  | abort =>
      obtain ⟨hstopping, n, stage, hconnection, -, rfl⟩ := hstep
      exact h.close hconnection fun hrunning => by rw [hstopping] at hrunning; cases hrunning

theorem invariant_of_reachable (h : (secretSocketSystem fromUtf8).Reachable s) :
    s.Invariant fromUtf8 := by
  refine h.invariant ?_ ?_
  · rintro s rfl
    exact .new
  · intro s e t hs hstep
    exact hs.step hstep

end SecretSocketRun

end Socket

section Guarantees

variable {ι : Type} [DecidableEq ι] {fromUtf8 : List UInt8 → Option String}
  {s : SecretSocketRun ι}

/-- What every run of the socket guarantees. -/
structure SocketGuarantees (fromUtf8 : List UInt8 → Option String) (s : SecretSocketRun ι) :
    Prop where
  /-- A reply carries what a connection sent behind its challenge, under a lease of the request. -/
  replied : ∀ c object reply, .replied c object reply ∈ s.secrets.history →
    ∃ k lease challenge secret, .submitted k object ∈ s.log ∧ lease.cell = c ∧
      Answered s.log k lease challenge secret ∧ ReplyOf fromUtf8 secret reply
  /-- What one connection sent is in one reply. -/
  once : ∀ k c c' object object' reply reply',
    .replied c object reply ∈ s.secrets.history →
      .replied c' object' reply' ∈ s.secrets.history →
        .submitted k object ∈ s.log → .submitted k object' ∈ s.log →
          c = c' ∧ object = object' ∧ reply = reply'
  /-- The connections are served one after another, each of them in its order. -/
  order : s.log.Pairwise fun newer older => older.Before newer.connection newer.rank
  /-- No challenge is answered twice. -/
  replay : ∀ k k' response response', .accepted k response ∈ s.log →
    .accepted k' response' ∈ s.log → response.take 16 = response'.take 16 →
      k = k' ∧ response = response'
  /-- No challenge outlives its connection. -/
  idle : s.connection = none → s.stopping = false → s.broker.pending = none
  /-- A connection is never refused a challenge. -/
  issues : ∀ n lease id, s.connection = some ⟨n, .issuing lease⟩ →
    s.broker.issueUntil lease.deadline id = .ok (id, ⟨some ⟨id, lease.deadline⟩⟩)
  /-- It has to answer its own one, with a secret, in time. -/
  accepts : ∀ n lease challenge response now secret,
    s.connection = some ⟨n, .accepting lease challenge response⟩ →
      ((s.broker.acceptLockedResponse now response).1 = .ok secret ↔
        now < lease.deadline ∧ response = challenge.bytes ++ secret ∧ secret ≠ [] ∧
          response.length ≤ maxSecretFrame)

omit [DecidableEq ι] in
/-- A request is replied to once. -/
theorem SecretRun.Coherent.replied_unique {σ : Type} {secrets : SecretRun ι σ}
    (h : secrets.Coherent) {c object object' : Nat} {reply reply' : SecretReply}
    (h₁ : .replied c object reply ∈ secrets.history)
    (h₂ : .replied c object' reply' ∈ secrets.history) :
    object = object' ∧ reply = reply' := by
  let R : SecretRecord ι σ → SecretRecord ι σ → Prop := fun r r' =>
    ∀ c c' n n' a a', r = .replied c n a → r' = .replied c' n' a' → c ≠ c'
  have : Std.Symm R := ⟨fun _ _ hR c c' n n' a a' h₁ h₂ => (hR c' c n' n a' a h₂ h₁).symm⟩
  have horder : secrets.history.Pairwise R := by
    refine h.order.imp ?_
    rintro newer older hfollows c c' n n' a a' rfl rfl
    exact hfollows
  by_contra hne
  refine horder.forall h₁ h₂ ?_ c c object object' reply reply' rfl rfl rfl
  intro heq
  obtain ⟨-, hobject, hreply⟩ := SecretRecord.replied.inj heq
  exact hne ⟨hobject, hreply⟩

/-- Whatever NetworkManager is told was sent for this very request, by a connection that
answered the challenge it had been given. -/
theorem replies_carry_answered_secrets (h : (secretSocketSystem fromUtf8).Reachable s) :
    SocketGuarantees fromUtf8 s := by
  have hs := SecretSocketRun.invariant_of_reachable h
  have hcoherent := coherent_of_reachable hs.recorded.reachable
  have horder := hs.recorded.order
  refine ⟨?_, ?_, horder, ?_, ?_, ?_, ?_⟩
  · intro c object reply hreply
    obtain ⟨secret, ⟨k, lease, challenge, hsubmitted, hcell, hanswered⟩, hof⟩ :=
      hs.recorded.carried.replied c object reply hreply
    exact ⟨k, lease, challenge, secret, hsubmitted, hcell, hanswered, hof⟩
  · intro k c c' object object' reply reply' hreply hreply' hsubmitted hsubmitted'
    obtain ⟨-, rfl⟩ :=
      SocketRecord.submitted.inj (eq_of_pairwise horder hsubmitted hsubmitted' rfl rfl)
    obtain ⟨rfl, -⟩ := hcoherent.submitted_unique (hcoherent.replied c object reply hreply).1
      (hcoherent.replied c' object reply' hreply').1
    exact ⟨rfl, rfl, (hcoherent.replied_unique hreply hreply').2⟩
  · intro k k' response response' haccepted haccepted' htake
    obtain ⟨lease, challenge, secret, hresponse, hanswered⟩ := hs.recorded.answered k _ haccepted
    obtain ⟨lease', challenge', secret', hresponse', hanswered'⟩ :=
      hs.recorded.answered k' _ haccepted'
    rw [hresponse, hresponse', List.take_left' challenge.length,
      List.take_left' challenge'.length] at htake
    have hchallenge : challenge = challenge' := by
      cases challenge
      cases challenge'
      cases htake
      rfl
    obtain rfl : k = k' :=
      hs.recorded.fresh k k' challenge hanswered.challenged (hchallenge ▸ hanswered'.challenged)
    exact ⟨rfl, (SocketRecord.accepted.inj
      (eq_of_pairwise horder haccepted haccepted' rfl rfl)).2⟩
  · intro hconnection hrunning
    have hholds := hs.holds
    rw [hconnection] at hholds
    exact hholds.2 hrunning
  · intro n lease id hconnection
    exact hs.issueUntil hconnection id
  · intro n lease challenge response now secret hconnection
    exact hs.acceptLockedResponse hconnection now secret

end Guarantees

section Sample

/-- What `String::from_utf8` makes of ASCII. -/
def fromAscii (bytes : List UInt8) : Option String :=
  some (String.ofList (bytes.map fun b => Char.ofNat b.toNat))

def homeLease : SecretRequestLease Nat :=
  ⟨0, homeNetwork, secretDeadline, 0⟩

def sampleChallenge : ChallengeId :=
  ⟨List.replicate 16 7, rfl⟩

/-- The bytes of "passphrase". -/
def samplePassphrase : List UInt8 :=
  [112, 97, 115, 115, 112, 104, 114, 97, 115, 101]

def sampleResponse : List UInt8 :=
  sampleChallenge.bytes ++ samplePassphrase

def waitingSocket : SecretSocketRun Nat :=
  { SecretSocketRun.new with secrets := SecretRun.new.after fromAscii (.getSecrets homeNetwork 0) }

def challengedSocket : SecretSocketRun Nat :=
  ((waitingSocket.connected.acquired 0).checked 0 homeLease).issued 0 homeLease sampleChallenge

def answeredSocket : SecretSocketRun Nat :=
  (challengedSocket.toStage 0 (.reading homeLease sampleChallenge)).readFrame 0 homeLease
    sampleChallenge (beBytes 4 26 ++ sampleResponse)

def submittedSocket : SecretSocketRun Nat :=
  (answeredSocket.judged 0 homeLease sampleChallenge sampleResponse).submitted 0 homeLease
    samplePassphrase

/-- The worker of the request goes on. -/
def workSocket (s : SecretSocketRun Nat) : SecretSocketRun Nat :=
  { s with secrets := s.secrets.after fromAscii (.work 0 true) }

def deliveredSocket : SecretSocketRun Nat :=
  workSocket (workSocket (workSocket (workSocket (workSocket submittedSocket))))

theorem reachable_waitingSocket : (secretSocketSystem fromAscii).Reachable waitingSocket :=
  .step (e := .background (.getSecrets homeNetwork 0)) (.initial rfl)
    ⟨trivial, fun _ _ h => (by cases h), rfl⟩

theorem reachable_challengedSocket :
    (secretSocketSystem fromAscii).Reachable challengedSocket := by
  have hconnected : (secretSocketSystem fromAscii).Reachable waitingSocket.connected :=
    .step (e := .connect) reachable_waitingSocket ⟨rfl, rfl⟩
  have hacquired : (secretSocketSystem fromAscii).Reachable
      (waitingSocket.connected.acquired 0) :=
    .step (e := .acquireLease) hconnected ⟨0, rfl, rfl⟩
  have hchecked : (secretSocketSystem fromAscii).Reachable
      ((waitingSocket.connected.acquired 0).checked 0 homeLease) :=
    .step (e := .checkDeadline) hacquired ⟨0, homeLease, by decide, rfl⟩
  exact .step (e := .issue sampleChallenge) hchecked
    ⟨0, homeLease, by decide, fun k hk => (by cases hk with | tail _ hk => cases hk), rfl⟩

theorem reachable_answeredSocket :
    (secretSocketSystem fromAscii).Reachable answeredSocket := by
  have hwritten : (secretSocketSystem fromAscii).Reachable
      (challengedSocket.toStage 0 (.reading homeLease sampleChallenge)) :=
    .step (e := .written) reachable_challengedSocket
      ⟨0, homeLease, sampleChallenge, by decide, rfl⟩
  exact .step (e := .received (beBytes 4 26 ++ sampleResponse)) hwritten
    ⟨0, homeLease, sampleChallenge, rfl, rfl⟩

theorem reachable_submittedSocket :
    (secretSocketSystem fromAscii).Reachable submittedSocket := by
  have hjudged : (secretSocketSystem fromAscii).Reachable
      (answeredSocket.judged 0 homeLease sampleChallenge sampleResponse) :=
    .step (e := .accept) reachable_answeredSocket
      ⟨0, homeLease, sampleChallenge, sampleResponse, by decide, rfl⟩
  exact .step (e := .submit) hjudged
    ⟨0, homeLease, sampleChallenge, samplePassphrase, by decide, rfl⟩

theorem reachable_workSocket {s : SecretSocketRun Nat}
    (h : (secretSocketSystem fromAscii).Reachable s) :
    (secretSocketSystem fromAscii).Reachable (workSocket s) :=
  .step (e := .background (.work 0 true)) h ⟨trivial, trivial, rfl⟩

theorem reachable_deliveredSocket :
    (secretSocketSystem fromAscii).Reachable deliveredSocket :=
  reachable_workSocket (reachable_workSocket (reachable_workSocket (reachable_workSocket
    (reachable_workSocket reachable_submittedSocket))))

/-- A run in which the passphrase arrives. -/
theorem replies_carry_answered_secrets_sample :
    SocketGuarantees fromAscii deliveredSocket ∧
      deliveredSocket.secrets.history =
        [.replied 0 0 [("802-11-wireless-security", [("psk", "passphrase")])],
          .submitted 0 0 true] :=
  ⟨replies_carry_answered_secrets reachable_deliveredSocket, by decide⟩

end Sample

end SleepySession
