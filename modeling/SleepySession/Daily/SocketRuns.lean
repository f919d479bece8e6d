import SleepySession.Daily.Socket

/-!
# What the daily socket guarantees

The permits count the open connections and the running workers.  A connection
that is open has a handle that somebody will join, and whoever has taken the
handles can rely on no further connection: the loop that accepts looks again
once it has locked them.  The responses of a connection follow its lines.
-/

namespace SleepySession
namespace Daily

section Invariant

variable {β ω ν : Type} {sdk : DailySdk β ω} {maxWorkers : Nat}
variable {s s' : DailyRun β ω ν} {client client' : Client β ω ν} {n : Nat}
variable {results : List (ω × Except IoError ν)}

/-- What may be answered to a line: an error that names its fault, or what a worker has returned
for its operation. -/
def Answers (sdk : DailySdk β ω) (results : List (ω × Except IoError ν)) (line : β)
    (response : DailyResponse ν) : Prop :=
  match sdk.fromSlice line with
  | .error text => response = errorResponse sdk "unknown" ("invalid daily request: " ++ text)
  | .ok request =>
      if request.schemaVersion = sdk.wireSchemaVersion ∧ sdk.isUuid request.requestId = true then
        (∃ data, (request.operation, .ok data) ∈ results ∧
          response = confirmedResponse sdk request.requestId data) ∨
        ∃ e : IoError, (request.operation, .error e) ∈ results ∧
          response = errorResponse sdk request.requestId e.message
      else response = errorResponse sdk request.requestId "invalid daily request contract"

/-- The line is that of a valid request. -/
def Requests (sdk : DailySdk β ω) (line : β) (request : DailyRequest ω) : Prop :=
  sdk.fromSlice line = .ok request ∧ request.schemaVersion = sdk.wireSchemaVersion ∧
    sdk.isUuid request.requestId = true

/-- The last line is being dealt with. -/
def Pending (sdk : DailySdk β ω) (results : List (ω × Except IoError ν)) (lines : List β) :
    ClientStage ω ν → Prop
  | .waiting request => ∃ line, lines = [line] ∧ Requests sdk line request
  | .working request => ∃ line, lines = [line] ∧ Requests sdk line request
  | .cancelling request _ => ∃ line, lines = [line] ∧ Requests sdk line request
  | .writing response false => ∃ line, lines = [line] ∧ Answers sdk results line response
  | .writing _ true => True
  | .reading => lines = []
  | .finished => True

/-- The responses answer the first lines, one each and in order. -/
structure Answered (sdk : DailySdk β ω) (results : List (ω × Except IoError ν))
    (client : Client β ω ν) : Prop where
  lines : ∃ rest, ∃ front, client.lines = front ++ rest ∧
    List.Forall₂ (Answers sdk results) front client.written ∧
      Pending sdk results rest client.stage

theorem Answers.mono {line : β} {response : DailyResponse ν} (entry : ω × Except IoError ν)
    (h : Answers sdk results line response) : Answers sdk (entry :: results) line response := by
  unfold Answers at *
  split at h
  · exact h
  · split_ifs at h ⊢
    · rcases h with ⟨data, hdata, hresponse⟩ | ⟨e, he, hresponse⟩
      · exact Or.inl ⟨data, List.mem_cons_of_mem _ hdata, hresponse⟩
      · exact Or.inr ⟨e, List.mem_cons_of_mem _ he, hresponse⟩
    · exact h

theorem Pending.mono {lines : List β} {stage : ClientStage ω ν} (entry : ω × Except IoError ν)
    (h : Pending sdk results lines stage) : Pending sdk (entry :: results) lines stage := by
  cases stage with
  | writing response expired =>
      cases expired with
      | true => trivial
      | false =>
          obtain ⟨line, hline, hanswers⟩ := h
          exact ⟨line, hline, hanswers.mono entry⟩
  | _ => exact h

theorem Answered.mono (entry : ω × Except IoError ν) (h : Answered sdk results client) :
    Answered sdk (entry :: results) client := by
  obtain ⟨rest, front, hlines, hwritten, hpending⟩ := h.lines
  exact ⟨rest, front, hlines, hwritten.imp fun _ _ hanswers => hanswers.mono entry,
    hpending.mono entry⟩

/-- The connection goes on with the same line. -/
theorem Answered.restage (h : Answered sdk results client) {stage : ClientStage ω ν}
    (hpending : ∀ rest, Pending sdk results rest client.stage → Pending sdk results rest stage) :
    Answered sdk results { client with stage := stage } := by
  obtain ⟨rest, front, hlines, hwritten, hold⟩ := h.lines
  exact ⟨rest, front, hlines, hwritten, hpending rest hold⟩

theorem pending_afterLine (line : β) :
    Pending sdk results [line] (DailyRun.afterLine sdk line : ClientStage ω ν) := by
  unfold DailyRun.afterLine
  cases hline : sdk.fromSlice line with
  | error text => exact ⟨line, rfl, by simp [Answers, hline]⟩
  | ok request =>
      simp only
      split_ifs with hvalid
      · exact ⟨line, rfl, hline, hvalid⟩
      · exact ⟨line, rfl, by simp [Answers, hline, hvalid]⟩

theorem pending_afterResult {line : β} {request : DailyRequest ω}
    (hline : Requests sdk line request) (result : Except IoError ν)
    (hresult : (request.operation, result) ∈ results) :
    Pending sdk results [line] (DailyRun.afterResult sdk request result) := by
  obtain ⟨hslice, hvalid⟩ := hline
  cases result with
  | ok data =>
      refine ⟨line, rfl, ?_⟩
      simp only [Answers, hslice]
      rw [if_pos hvalid]
      exact Or.inl ⟨data, hresult, rfl⟩
  | error e =>
      refine ⟨line, rfl, ?_⟩
      simp only [Answers, hslice]
      rw [if_pos hvalid]
      exact Or.inr ⟨e, hresult, rfl⟩

/-- The handles that somebody will still join. -/
def DailyRun.joinable (s : DailyRun β ω ν) : List Nat :=
  match s.drain with
  | .joining handles => handles
  | _ => s.handles

/-- The invariant of the socket. -/
structure DailyRun.Invariant (sdk : DailySdk β ω) (maxWorkers : Nat) (s : DailyRun β ω ν) :
    Prop where
  admission : s.admission + s.server.holds.toNat +
    s.clients.countP (fun client => client.stage.live) = maxWorkers
  workers : s.workers + s.clients.countP (fun client => client.stage.busy) = maxWorkers
  answered : ∀ client ∈ s.clients, Answered sdk s.results client
  -- no connection is left behind
  joined : ∀ n client, s.clients[n]? = some client → client.stage.live = true → n ∈ s.joinable
  stopped : s.drain ≠ .idle → s.stopping = true ∧ s.server ≠ .spawning
  stopping : s.shutdown = true → s.stopping = true
  handed : s.drain ≠ .idle → s.handles = []

theorem countP_set_add {α : Type} (p : α → Bool) {l : List α} {a b : α} (h : l[n]? = some a) :
    (l.set n b).countP p + (p a).toNat = l.countP p + (p b).toNat := by
  induction l generalizing n with
  | nil => cases h
  | cons c l ih =>
      cases n with
      | zero =>
          obtain rfl := Option.some.inj h
          simp only [List.set_cons_zero, List.countP_cons]
          cases p c <;> cases p b <;> simp
      | succ n =>
          have hrest := ih h
          simp only [List.set_cons_succ, List.countP_cons]
          omega

/-- One connection goes on. -/
theorem DailyRun.Invariant.move (hs : s.Invariant sdk maxWorkers)
    (hclient : s.clients[n]? = some client)
    {admission workers : Nat} {results : List (ω × Except IoError ν)}
    (hadmission : admission + client'.stage.live.toNat = s.admission + client.stage.live.toNat)
    (hworkers : workers + client'.stage.busy.toNat = s.workers + client.stage.busy.toNat)
    (hresults : ∀ other, Answered sdk s.results other → Answered sdk results other)
    (hanswered : Answered sdk results client')
    (hlive : client'.stage.live = true → client.stage.live = true) :
    { s.setClient n client' with
      admission := admission, workers := workers, results := results : DailyRun β ω ν }.Invariant
        sdk maxWorkers := by
  have hadmitted := hs.admission
  have hworking := hs.workers
  have hcountLive := countP_set_add (fun client => client.stage.live) (b := client') hclient
  have hcountBusy := countP_set_add (fun client => client.stage.busy) (b := client') hclient
  refine { hs with
    admission := ?_
    workers := ?_
    answered := fun other hother => ?_
    joined := fun m other hother hotherLive => ?_ }
  · simp only [DailyRun.setClient] at *
    omega
  · simp only [DailyRun.setClient] at *
    omega
  · rcases List.mem_or_eq_of_mem_set hother with hold | rfl
    · exact hresults other (hs.answered other hold)
    · exact hanswered
  · simp only [DailyRun.setClient, List.getElem?_set] at hother
    split_ifs at hother with hsame hlength
    · subst hsame
      obtain rfl := Option.some.inj hother
      exact hs.joined n client hclient (hlive hotherLive)
    · exact hs.joined m other hother hotherLive

end Invariant

section Steps

variable {β ω ν : Type} {sdk : DailySdk β ω} {maxWorkers : Nat}
variable {s s' : DailyRun β ω ν}

namespace DailyRun.Invariant

/-- The step lemma of the loop that accepts. -/
theorem accept (hs : s.Invariant sdk maxWorkers) (h : s.step sdk .accept s') :
    s'.Invariant sdk maxWorkers := by
  obtain ⟨hserver, rfl⟩ := h
  have hadmitted := hs.admission
  rw [hserver] at hadmitted
  split_ifs with hstopping hpermit
  · exact { hs with
      admission := hadmitted
      stopped := fun hdrain => ⟨(hs.stopped hdrain).1, by simp⟩ }
  · refine { hs with
      admission := ?_
      stopped := fun hdrain => ⟨(hs.stopped hdrain).1, by simp⟩ }
    simp only [ServerStage.holds, Bool.toNat_true, Bool.toNat_false] at *
    omega
  · exact hs

theorem lock (hs : s.Invariant sdk maxWorkers) (h : s.step sdk .lock s') :
    s'.Invariant sdk maxWorkers := by
  obtain ⟨hserver, rfl⟩ := h
  have hadmitted := hs.admission
  rw [hserver] at hadmitted
  refine { hs with
    admission := hadmitted
    joined := fun n client hclient hlive => ?_
    stopped := fun hdrain => ⟨(hs.stopped hdrain).1, by simp⟩
    handed := fun hdrain => by simp [hs.handed hdrain] }
  have hjoined := hs.joined n client hclient hlive
  unfold DailyRun.joinable at *
  simp only at *
  split at hjoined
  · exact hjoined
  · exact List.mem_filter.mpr ⟨hjoined, by simp [hclient, hlive]⟩

theorem check (hs : s.Invariant sdk maxWorkers) (h : s.step sdk .check s') :
    s'.Invariant sdk maxWorkers := by
  obtain ⟨hserver, rfl⟩ := h
  have hadmitted := hs.admission
  rw [hserver] at hadmitted
  split_ifs with hstopping
  · refine { hs with
      admission := ?_
      stopped := fun hdrain => ⟨(hs.stopped hdrain).1, by simp⟩ }
    simp only [ServerStage.holds, Bool.toNat_true, Bool.toNat_false] at *
    omega
  · exact { hs with
      admission := hadmitted
      stopped := fun hdrain => absurd (hs.stopped hdrain).1 hstopping }

/-- A connection is only added while nobody has taken the handles. -/
theorem spawn (hs : s.Invariant sdk maxWorkers) (h : s.step sdk .spawn s') :
    s'.Invariant sdk maxWorkers := by
  obtain ⟨hserver, rfl⟩ := h
  have hidle : s.drain = .idle := by
    by_contra hdrain
    exact (hs.stopped hdrain).2 hserver
  have hadmitted := hs.admission
  have hworking := hs.workers
  rw [hserver] at hadmitted
  refine { hs with
    admission := ?_
    workers := ?_
    answered := fun client hclient => ?_
    joined := fun n client hclient hlive => ?_
    stopped := fun hdrain => absurd hidle hdrain
    handed := fun hdrain => absurd hidle hdrain }
  · simp only [List.countP_append, List.countP_singleton, ClientStage.live_reading,
      ServerStage.holds, Bool.toNat_true, Bool.toNat_false, if_true] at *
    omega
  · simp only [List.countP_append, List.countP_singleton, ClientStage.busy_reading,
      Bool.false_eq_true, if_false] at *
    omega
  · rcases List.mem_append.mp hclient with hold | hnew
    · exact hs.answered client hold
    · obtain rfl := List.mem_singleton.mp hnew
      exact ⟨[], [], rfl, .nil, rfl⟩
  · simp only [DailyRun.joinable, hidle]
    rcases Nat.lt_or_ge n s.clients.length with hn | hn
    · rw [List.getElem?_append_left hn] at hclient
      have hjoined := hs.joined n client hclient hlive
      simp only [DailyRun.joinable, hidle] at hjoined
      exact List.mem_append_left _ hjoined
    · rw [List.getElem?_append_right hn] at hclient
      obtain ⟨hlt, -⟩ := List.getElem?_eq_some_iff.mp hclient
      simp only [List.length_singleton] at hlt
      refine List.mem_append_right _ (List.mem_singleton.mpr ?_)
      omega

section Connections

variable {n : Nat}

/-- A connection that holds no worker gives its permit back. -/
theorem ended {client : Client β ω ν} (hs : s.Invariant sdk maxWorkers)
    (hclient : s.clients[n]? = some client) (hlive : client.stage.live = true)
    (hbusy : client.stage.busy = false) :
    { s.setClient n { client with stage := .finished } with
      admission := s.admission + 1 : DailyRun β ω ν }.Invariant sdk maxWorkers :=
  hs.move hclient (by simp [hlive]) (by simp [hbusy]) (fun _ hother => hother)
    ((hs.answered client (List.mem_of_getElem? hclient)).restage fun _ _ => trivial)
    (fun hfinished => by cases hfinished)

/-- The control of a worker is cancelled. -/
theorem cancelled {client : Client β ω ν} {request : DailyRequest ω}
    (hs : s.Invariant sdk maxWorkers) (hclient : s.clients[n]? = some client)
    (hstage : client.stage = .working request) (timedOut : Bool) :
    (s.setClient n { client with stage := .cancelling request timedOut }).Invariant
      sdk maxWorkers := by
  refine hs.move hclient (by simp [hstage]) (by simp [hstage]) (fun _ hother => hother)
    ((hs.answered client (List.mem_of_getElem? hclient)).restage fun rest hrest => ?_)
    (fun _ => by simp [hstage])
  rw [hstage] at hrest
  exact hrest

theorem read {line : β} (hs : s.Invariant sdk maxWorkers) (h : s.step sdk (.read n line) s') :
    s'.Invariant sdk maxWorkers := by
  obtain ⟨client, hclient, hstage, rfl⟩ := h
  obtain ⟨rest, front, hlines, hwritten, hpending⟩ :=
    (hs.answered client (List.mem_of_getElem? hclient)).lines
  rw [hstage] at hpending
  obtain rfl : rest = [] := hpending
  have hafter : (DailyRun.afterLine sdk line : ClientStage ω ν).live = true ∧
      (DailyRun.afterLine sdk line : ClientStage ω ν).busy = false := by
    unfold DailyRun.afterLine
    split
    · exact ⟨rfl, rfl⟩
    · split_ifs <;> exact ⟨rfl, rfl⟩
  refine hs.move hclient (by simp [hstage, hafter.1])
    (by simp [hstage, hafter.2]) (fun _ hother => hother) ?_
    (fun _ => by simp [hstage])
  exact ⟨[line], front, by simp [hlines], hwritten, pending_afterLine line⟩

theorem leave (hs : s.Invariant sdk maxWorkers) (h : s.step sdk (.leave n) s') :
    s'.Invariant sdk maxWorkers := by
  obtain ⟨client, hclient, hstage, rfl⟩ := h
  have hkind : client.stage.live = true ∧ client.stage.busy = false := by
    rcases hstage with hstage | ⟨response, expired, hstage⟩ <;> rw [hstage] <;> exact ⟨rfl, rfl⟩
  exact hs.ended hclient hkind.1 hkind.2

theorem acquire (hs : s.Invariant sdk maxWorkers) (h : s.step sdk (.acquire n) s') :
    s'.Invariant sdk maxWorkers := by
  obtain ⟨client, request, hclient, hstage, hworkers, rfl⟩ := h
  refine hs.move hclient (by simp [hstage]) ?_ (fun _ hother => hother)
    ((hs.answered client (List.mem_of_getElem? hclient)).restage fun rest hrest => ?_)
    (fun _ => by simp [hstage])
  · simp only [hstage, ClientStage.busy_working, ClientStage.busy_waiting, Bool.toNat_true,
      Bool.toNat_false]
    omega
  · rw [hstage] at hrest
    exact hrest

/-- What a worker has returned answers the pending line, unless it was cancelled. -/
theorem done {result : Except IoError ν} (hs : s.Invariant sdk maxWorkers)
    (h : s.step sdk (.done n result) s') : s'.Invariant sdk maxWorkers := by
  obtain ⟨client, request, hclient, ⟨hstage, rfl⟩ | ⟨timedOut, hstage, rfl⟩⟩ := h
  · have hafter : (DailyRun.afterResult sdk request result).live = true ∧
        (DailyRun.afterResult sdk request result).busy = false := by
      cases result <;> exact ⟨rfl, rfl⟩
    refine hs.move hclient (by simp [hstage, hafter.1])
      (by simp [hstage, hafter.2])
      (fun _ hother => hother.mono (request.operation, result))
      (((hs.answered client (List.mem_of_getElem? hclient)).mono
        (request.operation, result)).restage fun rest hrest => ?_)
      (fun _ => by simp [hstage])
    rw [hstage] at hrest
    obtain ⟨line, rfl, hline⟩ := hrest
    exact pending_afterResult hline result List.mem_cons_self
  · refine hs.move hclient ?_ ?_ (fun _ hother => hother.mono (request.operation, result))
      (((hs.answered client (List.mem_of_getElem? hclient)).mono
        (request.operation, result)).restage fun _ _ => ?_)
      (fun _ => by simp [hstage])
    · cases timedOut <;> simp [hstage, DailyRun.afterCancelled]
    · cases timedOut <;> simp [hstage, DailyRun.afterCancelled]
    · cases timedOut <;> exact trivial

theorem panic (hs : s.Invariant sdk maxWorkers) (h : s.step sdk (.panic n) s') :
    s'.Invariant sdk maxWorkers := by
  obtain ⟨client, hclient, hbusy, rfl⟩ := h
  have hlive : client.stage.live = true := by
    cases hstage : client.stage <;> simp [hstage] at hbusy ⊢
  exact hs.move hclient (by simp [hlive]) (by simp [hbusy])
    (fun _ hother => hother)
    ((hs.answered client (List.mem_of_getElem? hclient)).restage fun _ _ => trivial)
    (fun hfinished => by cases hfinished)

theorem timeout (hs : s.Invariant sdk maxWorkers) (h : s.step sdk (.timeout n) s') :
    s'.Invariant sdk maxWorkers := by
  obtain ⟨client, request, hclient, hstage, rfl⟩ := h
  exact hs.cancelled hclient hstage true

theorem seeShutdown (hs : s.Invariant sdk maxWorkers) (h : s.step sdk (.seeShutdown n) s') :
    s'.Invariant sdk maxWorkers := by
  obtain ⟨-, client, hclient, ⟨hlive, hbusy, rfl⟩ | ⟨request, hstage, rfl⟩⟩ := h
  · exact hs.ended hclient hlive hbusy
  · exact hs.cancelled hclient hstage false

/-- A response that is written answers the line before the next one is read. -/
theorem write (hs : s.Invariant sdk maxWorkers) (h : s.step sdk (.write n) s') :
    s'.Invariant sdk maxWorkers := by
  obtain ⟨client, response, hclient, hstage, rfl⟩ := h
  obtain ⟨rest, front, hlines, hwritten, hpending⟩ :=
    (hs.answered client (List.mem_of_getElem? hclient)).lines
  rw [hstage] at hpending
  obtain ⟨line, rfl, hanswers⟩ := hpending
  refine hs.move hclient (by simp [hstage]) (by simp [hstage])
    (fun _ hother => hother) ?_ (fun _ => by simp [hstage])
  refine ⟨[], front ++ [line], by simp [hlines], ?_, rfl⟩
  exact List.rel_append hwritten (.cons hanswers .nil)

end Connections

section Draining

/-- The handles that are taken are those of all open connections. -/
theorem take (hs : s.Invariant sdk maxWorkers) (h : s.step sdk .take s') :
    s'.Invariant sdk maxWorkers := by
  obtain ⟨hshutdown, hidle, -, hserver, rfl⟩ := h
  refine { hs with
    joined := fun n client hclient hlive => ?_
    stopped := fun _ => ⟨hs.stopping hshutdown, hserver⟩
    handed := fun _ => rfl }
  have hjoined := hs.joined n client hclient hlive
  simp only [DailyRun.joinable, hidle] at hjoined
  exact hjoined

theorem join (hs : s.Invariant sdk maxWorkers) (h : s.step sdk .join s') :
    s'.Invariant sdk maxWorkers := by
  obtain ⟨m, handles, finished, hdrain, hfinished, hdead, rfl⟩ := h
  have hbusy : s.drain ≠ .idle := by simp [hdrain]
  refine { hs with
    joined := fun n client hclient hlive => ?_
    stopped := fun _ => hs.stopped hbusy
    handed := fun _ => hs.handed hbusy }
  have hjoined := hs.joined n client hclient hlive
  simp only [DailyRun.joinable, hdrain] at hjoined
  refine (List.mem_cons.mp hjoined).resolve_left ?_
  rintro rfl
  obtain rfl := Option.some.inj (hclient.symm.trans hfinished)
  rw [hlive] at hdead
  cases hdead

theorem finish (hs : s.Invariant sdk maxWorkers) (h : s.step sdk .finish s') :
    s'.Invariant sdk maxWorkers := by
  obtain ⟨hdrain, rfl⟩ := h
  have hbusy : s.drain ≠ .idle := by simp [hdrain]
  refine { hs with
    joined := fun n client hclient hlive => ?_
    stopped := fun _ => hs.stopped hbusy
    handed := fun _ => hs.handed hbusy }
  have hjoined := hs.joined n client hclient hlive
  simp only [DailyRun.joinable, hdrain] at hjoined
  cases hjoined

end Draining

/-- The step lemma. -/
theorem step {e : DailyEvent β ν} (hs : s.Invariant sdk maxWorkers) (h : s.step sdk e s') :
    s'.Invariant sdk maxWorkers := by
  cases e with
  | accept => exact hs.accept h
  | lock => exact hs.lock h
  | check => exact hs.check h
  | spawn => exact hs.spawn h
  | close =>
      obtain ⟨hserver, rfl⟩ := h
      have hadmitted := hs.admission
      rw [hserver] at hadmitted
      exact { hs with
        admission := hadmitted
        stopped := fun hdrain => ⟨(hs.stopped hdrain).1, by simp⟩ }
  | read n line => exact hs.read h
  | leave n => exact hs.leave h
  | acquire n => exact hs.acquire h
  | done n result => exact hs.done h
  | panic n => exact hs.panic h
  | timeout n => exact hs.timeout h
  | seeShutdown n => exact hs.seeShutdown h
  | write n => exact hs.write h
  | stop =>
      obtain rfl := h
      exact { hs with
        stopped := fun hdrain => ⟨rfl, (hs.stopped hdrain).2⟩
        stopping := fun _ => rfl }
  | cancel =>
      obtain ⟨hstopping, rfl⟩ := h
      exact { hs with stopping := fun _ => hstopping }
  | take => exact hs.take h
  | join => exact hs.join h
  | finish => exact hs.finish h

end DailyRun.Invariant

theorem DailyRun.invariant_of_reachable (h : (dailySystem sdk ν maxWorkers).Reachable s) :
    s.Invariant sdk maxWorkers := by
  refine h.invariant ?_ fun s e s' hs hstep => hs.step hstep
  rintro s rfl
  exact {
    admission := rfl
    workers := rfl
    answered := nofun
    joined := nofun
    stopped := fun h => absurd rfl h
    stopping := nofun
    handed := fun h => absurd rfl h }

/-- What the clients of the socket and whoever stops it can count on. -/
structure DailyGuarantees (sdk : DailySdk β ω) (maxWorkers : Nat) (s : DailyRun β ω ν) : Prop where
  connections : s.clients.countP (fun client => client.stage.live) ≤ maxWorkers
  running : s.clients.countP (fun client => client.stage.busy) ≤ maxWorkers
  /-- Nobody waits for a worker in vain. -/
  available : ∀ client ∈ s.clients, ∀ request, client.stage = .waiting request → 0 < s.workers
  /-- The responses of a connection answer its first lines, one each and in order. -/
  answered : ∀ client ∈ s.clients, ∃ front, front <+: client.lines ∧
    List.Forall₂ (Answers sdk s.results) front client.written
  /-- Once the service is drained, no connection is open and no worker runs. -/
  drained : s.drain = .drained → ∀ client ∈ s.clients,
    client.stage.live = false ∧ client.stage.busy = false

theorem busy_lt_live {clients : List (Client β ω ν)} {client : Client β ω ν}
    (hclient : client ∈ clients) (hlive : client.stage.live = true)
    (hbusy : client.stage.busy = false) :
    clients.countP (fun client => client.stage.busy) <
      clients.countP (fun client => client.stage.live) := by
  have hle : ∀ others : List (Client β ω ν), others.countP (fun client => client.stage.busy) ≤
      others.countP (fun client => client.stage.live) := by
    intro others
    refine List.countP_mono_left fun other _ hother => ?_
    cases hstage : other.stage <;> simp [hstage] at hother ⊢
  obtain ⟨front, rest, rfl⟩ := List.append_of_mem hclient
  simp only [List.countP_append, List.countP_cons, hlive, hbusy, if_true, Bool.false_eq_true,
    if_false]
  have hfront := hle front
  have hrest := hle rest
  omega

/-- The socket keeps to its limits, answers in order and leaves nothing behind. -/
theorem daily_socket_guarantees (h : (dailySystem sdk ν maxWorkers).Reachable s) :
    DailyGuarantees sdk maxWorkers s := by
  have hs := DailyRun.invariant_of_reachable h
  have hadmitted := hs.admission
  have hworking := hs.workers
  refine ⟨by omega, by omega, fun client hclient request hstage => ?_, fun client hclient => ?_,
    fun hdrain client hclient => ?_⟩
  · have hlt := busy_lt_live hclient (by simp [hstage])
      (by simp [hstage])
    omega
  · obtain ⟨rest, front, hlines, hwritten, -⟩ := (hs.answered client hclient).lines
    exact ⟨front, ⟨rest, hlines.symm⟩, hwritten⟩
  · obtain ⟨n, hn⟩ := List.mem_iff_getElem?.mp hclient
    have hdead : client.stage.live = false := by
      by_contra hlive
      have hjoined := hs.joined n client hn (Bool.eq_true_of_not_eq_false hlive)
      simp only [DailyRun.joinable, hdrain] at hjoined
      rw [hs.handed (by simp [hdrain])] at hjoined
      cases hjoined
    refine ⟨hdead, ?_⟩
    cases hstage : client.stage <;> simp [hstage] at hdead ⊢

end Steps

section Sample

/-- Every line is a request with its number as operation. -/
def sampleDailySdk : DailySdk Nat Nat where
  wireSchemaVersion := 1
  fromSlice line := .ok ⟨1, "00000000-0000-4000-8000-000000000002", line⟩
  isUuid _ := true

/-- A socket for two connections that nobody stops. -/
def sampleDaily (server : ServerStage) (admission workers : Nat)
    (clients : List (Client Nat Nat Nat)) (results : List (Nat × Except IoError Nat)) :
    DailyRun Nat Nat Nat :=
  ⟨server, false, false, .idle, admission, workers, List.range clients.length, clients, results⟩

def sampleRequest : DailyRequest Nat :=
  ⟨1, "00000000-0000-4000-8000-000000000002", 7⟩

def sampleResponse : DailyResponse Nat :=
  confirmedResponse sampleDailySdk "00000000-0000-4000-8000-000000000002" 8

/-- A connection that was answered. -/
def answeredClient (stage : ClientStage Nat Nat) : Client Nat Nat Nat :=
  ⟨stage, [7], [sampleResponse]⟩

/-- A connection whose request no worker has taken. -/
def unansweredClient (stage : ClientStage Nat Nat) : Client Nat Nat Nat :=
  ⟨stage, [7], []⟩

theorem answeredDaily_reachable :
    (dailySystem sampleDailySdk Nat 2).Reachable
      (sampleDaily .accepting 1 2 [answeredClient .reading] [(7, .ok 8)]) := by
  have hadmitted : (dailySystem sampleDailySdk Nat 2).Reachable
      (sampleDaily .admitted 1 2 [] []) :=
    .step (e := .accept) (.initial rfl) ⟨rfl, rfl⟩
  have hlocked : (dailySystem sampleDailySdk Nat 2).Reachable (sampleDaily .locked 1 2 [] []) :=
    .step (e := .lock) hadmitted ⟨rfl, rfl⟩
  have hspawning : (dailySystem sampleDailySdk Nat 2).Reachable
      (sampleDaily .spawning 1 2 [] []) :=
    .step (e := .check) hlocked ⟨rfl, rfl⟩
  have hspawned : (dailySystem sampleDailySdk Nat 2).Reachable
      (sampleDaily .accepting 1 2 [⟨.reading, [], []⟩] []) :=
    .step (e := .spawn) hspawning ⟨rfl, rfl⟩
  have hread : (dailySystem sampleDailySdk Nat 2).Reachable
      (sampleDaily .accepting 1 2 [unansweredClient (.waiting sampleRequest)] []) :=
    .step (e := .read 0 7) hspawned ⟨_, rfl, rfl, rfl⟩
  have hworking : (dailySystem sampleDailySdk Nat 2).Reachable
      (sampleDaily .accepting 1 1 [unansweredClient (.working sampleRequest)] []) :=
    .step (e := .acquire 0) hread ⟨_, sampleRequest, rfl, rfl, Nat.two_pos, rfl⟩
  have hdone : (dailySystem sampleDailySdk Nat 2).Reachable
      (sampleDaily .accepting 1 2 [unansweredClient (.writing sampleResponse false)]
        [(7, .ok 8)]) :=
    .step (e := .done 0 (.ok 8)) hworking ⟨_, sampleRequest, rfl, Or.inl ⟨rfl, rfl⟩⟩
  exact .step (e := .write 0) hdone ⟨_, sampleResponse, rfl, rfl, rfl⟩

/-- The second connection has a request, and no worker has it yet. -/
def crowdedDaily : DailyRun Nat Nat Nat :=
  sampleDaily .accepting 0 2
    [answeredClient .reading, unansweredClient (.waiting sampleRequest)] [(7, .ok 8)]

theorem crowdedDaily_reachable :
    (dailySystem sampleDailySdk Nat 2).Reachable crowdedDaily := by
  have hadmitted : (dailySystem sampleDailySdk Nat 2).Reachable
      (sampleDaily .admitted 0 2 [answeredClient .reading] [(7, .ok 8)]) :=
    .step (e := .accept) answeredDaily_reachable ⟨rfl, rfl⟩
  have hlocked : (dailySystem sampleDailySdk Nat 2).Reachable
      (sampleDaily .locked 0 2 [answeredClient .reading] [(7, .ok 8)]) :=
    .step (e := .lock) hadmitted ⟨rfl, rfl⟩
  have hspawning : (dailySystem sampleDailySdk Nat 2).Reachable
      (sampleDaily .spawning 0 2 [answeredClient .reading] [(7, .ok 8)]) :=
    .step (e := .check) hlocked ⟨rfl, rfl⟩
  have hspawned : (dailySystem sampleDailySdk Nat 2).Reachable
      (sampleDaily .accepting 0 2 [answeredClient .reading, ⟨.reading, [], []⟩]
        [(7, .ok 8)]) :=
    .step (e := .spawn) hspawning ⟨rfl, rfl⟩
  exact .step (e := .read 1 7) hspawned ⟨_, rfl, rfl, rfl⟩

/-- The socket once its shutdown was announced. -/
def closingDaily (drain : DrainStage) (admission : Nat) (handles : List Nat)
    (clients : List (Client Nat Nat Nat)) : DailyRun Nat Nat Nat :=
  ⟨.accepting, true, true, drain, admission, 2, handles, clients, [(7, .ok 8)]⟩

/-- The second request was never answered. -/
def drainedDaily : DailyRun Nat Nat Nat :=
  closingDaily .drained 2 [] [answeredClient .finished, unansweredClient .finished]

theorem drainedDaily_reachable :
    (dailySystem sampleDailySdk Nat 2).Reachable drainedDaily := by
  have hstopping : (dailySystem sampleDailySdk Nat 2).Reachable
      { crowdedDaily with stopping := true } :=
    .step (e := .stop) crowdedDaily_reachable rfl
  have hclosing : (dailySystem sampleDailySdk Nat 2).Reachable
      (closingDaily .idle 0 [0, 1]
        [answeredClient .reading, unansweredClient (.waiting sampleRequest)]) :=
    .step (e := .cancel) hstopping ⟨rfl, rfl⟩
  have hfirst : (dailySystem sampleDailySdk Nat 2).Reachable
      (closingDaily .idle 1 [0, 1]
        [answeredClient .finished, unansweredClient (.waiting sampleRequest)]) :=
    .step (e := .seeShutdown 0) hclosing ⟨rfl, _, rfl, Or.inl ⟨rfl, rfl, rfl⟩⟩
  have hsecond : (dailySystem sampleDailySdk Nat 2).Reachable
      (closingDaily .idle 2 [0, 1] [answeredClient .finished, unansweredClient .finished]) :=
    .step (e := .seeShutdown 1) hfirst ⟨rfl, _, rfl, Or.inl ⟨rfl, rfl, rfl⟩⟩
  have htaken : (dailySystem sampleDailySdk Nat 2).Reachable
      (closingDaily (.joining [0, 1]) 2 []
        [answeredClient .finished, unansweredClient .finished]) :=
    .step (e := .take) hsecond ⟨rfl, rfl, nofun, nofun, rfl⟩
  have hjoined : (dailySystem sampleDailySdk Nat 2).Reachable
      (closingDaily (.joining [1]) 2 []
        [answeredClient .finished, unansweredClient .finished]) :=
    .step (e := .join) htaken ⟨0, [1], _, rfl, rfl, rfl, rfl⟩
  have hall : (dailySystem sampleDailySdk Nat 2).Reachable
      (closingDaily (.joining []) 2 []
        [answeredClient .finished, unansweredClient .finished]) :=
    .step (e := .join) hjoined ⟨1, [], _, rfl, rfl, rfl, rfl⟩
  exact .step (e := .finish) hall ⟨rfl, rfl⟩

theorem daily_socket_guarantees_sample :
    DailyGuarantees sampleDailySdk 2 crowdedDaily ∧
      DailyGuarantees sampleDailySdk 2 drainedDaily :=
  ⟨daily_socket_guarantees crowdedDaily_reachable,
    daily_socket_guarantees drainedDaily_reachable⟩

end Sample

end Daily
end SleepySession
