import SleepySession.Desktop.Dedupe
import SleepySession.Lib.Checks
import SleepySession.Lib.Transition
import SleepySession.Store.SecureDirRules

/-!
# The invariant of the request log

Every document that an operation writes passes the checks of `open`, keeps the
pending requests and stays within its capacity.  Memory and disk agree after a
success; after a failure memory is as before and the file is the old or the
staged one.
-/

namespace SleepySession

open Program

namespace DurableDedupe

variable {β ρ : Type} {sdk : DedupeSdk β ρ} {maximumRecords : Nat}
variable {document staged : DedupeDocument ρ} {records records' : List (DedupeRecord ρ)}

section Documents

/-- The documents that `open` accepts. -/
structure Accepted (sdk : DedupeSdk β ρ) (maximumRecords : Nat)
    (document : DedupeDocument ρ) : Prop where
  schemaVersion : document.schemaVersion = 1
  capacity : document.records.length ≤ maximumRecords
  ids : (requestIds document).Nodup
  checked : ∀ record ∈ document.records, sdk.checkRecord record = .ok ()

theorem orElse_eq_ok
    {α : Type} {error : String → IoError} {x : Except String α} {a : α} :
    orElse error x = .ok a ↔ x = .ok a := by
  cases x <;> simp [orElse]

theorem checkBytes_eq_ok {bytes : β} :
    sdk.checkBytes maximumRecords bytes = .ok document ↔
      sdk.size bytes ≤ maxDedupeBytes ∧ sdk.decode bytes = .ok document ∧
        Accepted sdk maximumRecords document := by
  unfold DedupeSdk.checkBytes
  by_cases hsize : sdk.size bytes > maxDedupeBytes
  · simp [hsize, Nat.not_le.mpr hsize]
  rw [if_neg hsize]
  simp only [Checks.bind_eq_ok_iff, orElse_eq_ok]
  constructor
  · rintro ⟨d, hdecode, h⟩
    split at h
    · cases h
    rename_i hschema
    split at h
    · cases h
    rename_i hids
    obtain ⟨_, hchecked, h⟩ := Checks.bind_eq_ok_iff.mp h
    cases h
    rw [not_or, not_not, not_lt] at hschema
    exact ⟨Nat.not_lt.mp hsize, hdecode, hschema.1, hschema.2, not_not.mp hids,
      Checks.forM_eq_ok_iff.mp hchecked⟩
  · rintro ⟨_, hdecode, haccepted⟩
    refine ⟨document, hdecode, ?_⟩
    rw [if_neg, if_neg (not_not.mpr haccepted.ids)]
    · exact Checks.bind_eq_ok_iff.mpr ⟨(), Checks.forM_eq_ok_iff.mpr haccepted.checked, rfl⟩
    · simp [haccepted.schemaVersion, haccepted.capacity]

theorem checkRecord_eq_ok
    {record : DedupeRecord ρ} :
    sdk.checkRecord record = .ok () ↔
      sdk.validateCanonicalRequestId record.requestId = .ok () ∧
        ∀ result, record.result = some result →
          sdk.validateResult result = .ok () ∧ sdk.requestId result = record.requestId := by
  unfold DedupeSdk.checkRecord
  simp only [Checks.bind_eq_ok_iff]
  constructor
  · rintro ⟨_, hid, h⟩
    refine ⟨hid, ?_⟩
    intro result hresult
    simp only [hresult] at h
    obtain ⟨_, hvalid, h⟩ := Checks.bind_eq_ok_iff.mp h
    split at h
    · cases h
    · rename_i heq
      exact ⟨orElse_eq_ok.mp hvalid, not_not.mp heq⟩
  · rintro ⟨hid, h⟩
    refine ⟨(), hid, ?_⟩
    cases hresult : record.result with
    | none => rfl
    | some result =>
        obtain ⟨hvalid, heq⟩ := h result hresult
        refine Checks.bind_eq_ok_iff.mpr ⟨(), orElse_eq_ok.mpr hvalid, ?_⟩
        rw [if_neg (not_not.mpr heq)]

/-- Making room removes completed records only. -/
theorem makeRoomLoop_eq_ok
    {fuel : Nat}
    (h : makeRoomLoop maximumRecords fuel records = .ok records') :
    records'.Sublist records ∧ records'.length < maximumRecords ∧
      ∀ record ∈ records, record.result = none → record ∈ records' := by
  induction fuel generalizing records with
  | zero =>
      unfold makeRoomLoop at h
      split at h
      · cases h
      · rename_i hlt
        cases h
        exact ⟨.refl _, Nat.not_le.mp hlt, fun _ hmem _ => hmem⟩
  | succ fuel ih =>
      unfold makeRoomLoop at h
      split at h
      · split at h
        · rename_i fuel' index hfuel hindex
          cases hfuel
          obtain ⟨hsub, hlt, hpending⟩ := ih h
          refine ⟨hsub.trans (List.eraseIdx_sublist _ _), hlt, ?_⟩
          intro record hmem hnone
          refine hpending record ?_ hnone
          obtain ⟨hbound, hsome, _⟩ := List.findIdx?_eq_some_iff_getElem.mp hindex
          rw [List.mem_eraseIdx_iff_getElem]
          obtain ⟨i, hi, rfl⟩ := List.mem_iff_getElem.mp hmem
          refine ⟨i, hi, ?_, rfl⟩
          rintro rfl
          simp [hnone] at hsome
        · cases h
      · rename_i hlt
        cases h
        exact ⟨.refl _, Nat.not_le.mp hlt, fun _ hmem _ => hmem⟩

theorem makeRoom_eq_ok
    (h : makeRoom maximumRecords records = .ok records') :
    records'.Sublist records ∧ records'.length < maximumRecords ∧
      ∀ record ∈ records, record.result = none → record ∈ records' :=
  makeRoomLoop_eq_ok h

/-- The pending records of one log are also in another one. -/
def KeepsPending (document document' : DedupeDocument ρ) : Prop :=
  ∀ record ∈ document.records, record.result = none →
    record.requestId ∈ requestIds document'

theorem mem_requestIds
    {record : DedupeRecord ρ}
    (h : record ∈ document.records) :
    record.requestId ∈ requestIds document :=
  List.mem_map_of_mem h

theorem KeepsPending.refl (document : DedupeDocument ρ) :
    KeepsPending document document :=
  fun _ hmem _ => mem_requestIds hmem

/-- Room for one more record, and the record itself. -/
theorem accepted_append
    {record : DedupeRecord ρ}
    (h : Accepted sdk maximumRecords document)
    (hroom : makeRoom maximumRecords document.records = .ok records)
    (hfresh : record.requestId ∉ requestIds document)
    (hrecord : sdk.checkRecord record = .ok ()) :
    Accepted sdk maximumRecords { document with records := records ++ [record] } := by
  obtain ⟨hsub, hlt, _⟩ := makeRoom_eq_ok hroom
  refine ⟨h.schemaVersion, ?_, ?_, ?_⟩
  · rw [List.length_append, List.length_singleton]
    omega
  · have hids : (records.map (·.requestId)).Sublist (requestIds document) :=
      hsub.map _
    simp only [requestIds, List.map_append, List.map_cons, List.map_nil]
    rw [List.nodup_append']
    refine ⟨h.ids.sublist hids, by simp, ?_⟩
    rw [List.disjoint_singleton]
    exact fun hmem => hfresh (hids.subset hmem)
  · intro record' hmem
    rcases List.mem_append.mp hmem with hmem | hmem
    · exact h.checked record' (hsub.subset hmem)
    · obtain rfl : record' = record := by simpa using hmem
      exact hrecord

theorem stageBegin_eq_ok
    {requestId : String}
    (h : stageBegin sdk maximumRecords document requestId = .ok staged) :
    sdk.validateCanonicalRequestId requestId = .ok () ∧
      requestId ∉ requestIds document ∧
      ∃ records, makeRoom maximumRecords document.records = .ok records ∧
        staged = { document with records := records ++ [⟨requestId, none⟩] } := by
  unfold stageBegin at h
  obtain ⟨_, hid, h⟩ := Checks.bind_eq_ok_iff.mp h
  split at h
  · cases h
  rename_i hlookup
  obtain ⟨records, hroom, h⟩ := Checks.bind_eq_ok_iff.mp h
  cases h
  refine ⟨hid, ?_, records, hroom, rfl⟩
  simpa [lookup, requestIds] using hlookup

theorem modify_eq_set_getElem
    {α : Type} {l : List α} {i : Nat} {f : α → α}
    (h : i < l.length) :
    l.modify i f = l.set i (f l[i]) := by
  refine List.ext_getElem (by simp) ?_
  intro j _ _
  rw [List.getElem_modify, List.getElem_set]
  split
  · rename_i heq
    subst heq
    rfl
  · rfl

theorem map_set_eq
    {α γ : Type} {l : List α} {i : Nat} {a : α} {f : α → γ}
    (h : i < l.length)
    (heq : f a = f l[i]) :
    (l.set i a).map f = l.map f := by
  refine List.ext_getElem (by simp) ?_
  intro j _ _
  rw [List.getElem_map, List.getElem_map, List.getElem_set]
  split
  · rename_i hij
    subst hij
    exact heq
  · rfl

/-- Completing a request replaces its record, or adds one. -/
theorem stageComplete_eq_ok
    {requestId : String} {result : ρ}
    (h : stageComplete sdk maximumRecords document requestId result = .ok staged) :
    sdk.checkRecord ⟨requestId, some result⟩ = .ok () ∧
      ((∃ (index : Nat) (hindex : index < document.records.length),
        document.records[index].requestId = requestId ∧
          staged =
            { document with
              records := document.records.set index ⟨requestId, some result⟩ }) ∨
      (requestId ∉ requestIds document ∧
        ∃ records, makeRoom maximumRecords document.records = .ok records ∧
          staged = { document with records := records ++ [⟨requestId, some result⟩] })) := by
  unfold stageComplete at h
  obtain ⟨_, hid, h⟩ := Checks.bind_eq_ok_iff.mp h
  obtain ⟨_, hvalid, h⟩ := Checks.bind_eq_ok_iff.mp h
  split at h
  · cases h
  rename_i hown
  refine ⟨checkRecord_eq_ok.mpr ⟨hid, ?_⟩, ?_⟩
  · rintro _ ⟨⟩
    exact ⟨orElse_eq_ok.mp hvalid, not_not.mp hown⟩
  split at h
  · rename_i index hindex
    obtain ⟨hbound, heq, _⟩ := List.findIdx?_eq_some_iff_getElem.mp hindex
    have hkey : document.records[index].requestId = requestId := by simpa using heq
    cases h
    refine Or.inl ⟨index, hbound, hkey, ?_⟩
    rw [modify_eq_set_getElem hbound, hkey]
  · rename_i hnone
    obtain ⟨records, hroom, h⟩ := Checks.bind_eq_ok_iff.mp h
    cases h
    refine Or.inr ⟨?_, records, hroom, rfl⟩
    simpa [requestIds] using hnone

theorem stage_accepted
    {call : Call ρ}
    (h : Accepted sdk maximumRecords document)
    (hstage : stage sdk maximumRecords document call = .ok staged) :
    Accepted sdk maximumRecords staged := by
  cases call with
  | begin requestId =>
      obtain ⟨hid, hfresh, records, hroom, rfl⟩ := stageBegin_eq_ok hstage
      refine accepted_append h hroom hfresh (checkRecord_eq_ok.mpr ⟨hid, ?_⟩)
      rintro result ⟨⟩
  | complete requestId result =>
      obtain ⟨hchecked, hset | ⟨hfresh, records, hroom, rfl⟩⟩ := stageComplete_eq_ok hstage
      · obtain ⟨index, hbound, hkey, rfl⟩ := hset
        have hids : requestIds
            { document with
              records := document.records.set index ⟨requestId, some result⟩ } =
              requestIds document := by
          exact map_set_eq hbound hkey.symm
        refine ⟨h.schemaVersion, by simpa using h.capacity, hids ▸ h.ids, ?_⟩
        intro record hmem
        rcases List.mem_or_eq_of_mem_set hmem with hmem | rfl
        · exact h.checked record hmem
        · exact hchecked
      · exact accepted_append h hroom hfresh hchecked

/-- A pending record stays, or is the one that is completed. -/
theorem stage_pending
    {call : Call ρ} {record : DedupeRecord ρ}
    (hstage : stage sdk maximumRecords document call = .ok staged)
    (hmem : record ∈ document.records)
    (hpending : record.result = none) :
    record ∈ staged.records ∨
      ∃ result, call = .complete record.requestId result ∧
        ⟨record.requestId, some result⟩ ∈ staged.records := by
  cases call with
  | begin requestId =>
      obtain ⟨_, _, records, hroom, rfl⟩ := stageBegin_eq_ok hstage
      exact Or.inl (List.mem_append_left _
        ((makeRoom_eq_ok hroom).2.2 record hmem hpending))
  | complete requestId result =>
      obtain ⟨_, hset | ⟨_, records, hroom, rfl⟩⟩ := stageComplete_eq_ok hstage
      · obtain ⟨index, hbound, hkey, rfl⟩ := hset
        obtain ⟨i, hi, rfl⟩ := List.mem_iff_getElem.mp hmem
        by_cases heq : index = i
        · subst heq
          refine Or.inr ⟨result, by rw [hkey], ?_⟩
          rw [hkey]
          exact List.mem_set hbound _
        · refine Or.inl (List.mem_iff_getElem.mpr ⟨i, by simpa using hi, ?_⟩)
          rw [List.getElem_set_ne heq]
      · exact Or.inl (List.mem_append_left _
          ((makeRoom_eq_ok hroom).2.2 record hmem hpending))

theorem stage_keepsPending
    {call : Call ρ}
    (hstage : stage sdk maximumRecords document call = .ok staged) :
    KeepsPending document staged := by
  intro record hmem hpending
  rcases stage_pending hstage hmem hpending with hkept | ⟨result, _, hcompleted⟩
  · exact mem_requestIds hkept
  · exact List.mem_map.mpr ⟨_, hcompleted, rfl⟩

end Documents

section Commit

variable {A : Answer Unit β → Prop}

/-- The entry of the log. -/
def cell (files : DedupeFiles β) : Cell β :=
  files () (.named ())

/-- What a commit of the given bytes may have done to the entry, at any point. -/
def Written (bytes : β) (c c' : Cell β) : Prop :=
  c.Shrinks c' ∨ c.Wrote (some bytes) c'

theorem silent_injectDedupeFault
    (configured : Option DedupeFaultPoint) (current : DedupeFaultPoint) :
    SecureDir.Silent A (injectDedupeFault configured current : Disk Unit Unit β Unit) := by
  intro Q v hcut hok
  unfold injectDedupeFault
  split
  · exact hcut.1 _ (Failure.interrupts_io _)
  · exact hok ()

theorem Written.torn
    {bytes : β} {c c' : Cell β}
    (h : Written bytes c c')
    (hc : c.torn = []) :
    c'.torn = [] := by
  rcases h with h | h
  · exact h.2.1.trans hc
  · exact h.2.1

theorem Written.values
    {bytes : β} {c c' : Cell β} {x : Option β}
    (h : Written bytes c c')
    (hx : x ∈ c'.values) :
    x = some bytes ∨ x ∈ c.values := by
  rcases h with h | h
  · exact Or.inr (h.values_subset hx)
  · exact h.2.2 x hx

theorem Written.sync
    {bytes : β} {c c' : Cell β}
    (h : Written bytes c c') :
    Written bytes c c'.sync := by
  rcases h with h | h
  · exact Or.inl (h.trans (Cell.shrinks_sync c'))
  · exact Or.inr (h.shrinks (Cell.shrinks_sync c'))

theorem wp_onDirectory
    {α : Type}
    (m : Program (Answer Unit β) (DedupeFiles β) IoError α)
    (Q : Post (DurableDedupe β ρ) IoError α) (s : DurableDedupe β ρ) :
    (onDirectory m).wp A Q s ↔
      m.wp A
        ⟨fun a files => Q.ok a { s with directory := files },
          fun e files => Q.error e { s with directory := files },
          fun files => Q.crashed { s with directory := files }⟩ s.directory :=
  wp_zoom_field m Q s

variable [DecidableEq ρ]

theorem isStaged_eq_true
    {found : Option β}
    (h : isStaged sdk staged (.ok found) = true) :
    ∃ bytes, found = some bytes ∧ sdk.decode bytes = .ok staged := by
  cases found with
  | none => simp [isStaged] at h
  | some bytes =>
      cases hdecode : sdk.decode bytes with
      | error e => simp [isStaged, hdecode] at h
      | ok document =>
          obtain rfl : document = staged := by simpa [isStaged, hdecode] using h
          exact ⟨bytes, rfl, hdecode⟩

/-- What a commit does: all of it with a success, possibly some of it otherwise. -/
theorem wp_commit
    {Q : Post (DurableDedupe β ρ) IoError Unit} {s : DurableDedupe β ρ}
    (hcodec : sdk.decode (sdk.encode staged) = .ok staged)
    (htorn : (cell s.directory).torn = [])
    (hok : ∀ files bytes, cell files = Cell.settled (some bytes) →
      sdk.decode bytes = .ok staged →
      (some bytes ∈ (cell s.directory).values ∨
        (bytes = sdk.encode staged ∧ sdk.size bytes ≤ maxDedupeBytes)) →
      Q.ok () { s with directory := files, document := staged, fault := none })
    (hcut : ∀ files fault,
      ((cell s.directory).Shrinks (cell files) ∨
        (sdk.size (sdk.encode staged) ≤ maxDedupeBytes ∧
          (cell s.directory).Wrote (some (sdk.encode staged)) (cell files))) →
      (∀ e, Q.error e { s with directory := files, fault := fault }) ∧
        Q.crashed { s with directory := files, fault := fault }) :
    (commit sdk staged).wp A Q s := by
  unfold commit
  dsimp only
  split
  · exact (hcut s.directory s.fault (Or.inl (Cell.Shrinks.refl _))).1 _
  rename_i hsize
  have hsize' : sdk.size (sdk.encode staged) ≤ maxDedupeBytes := Nat.not_lt.mp hsize
  have hwritten : ∀ files, Written (sdk.encode staged) (cell s.directory) (cell files) →
      (∀ e, Q.error e { s with directory := files, fault := none }) ∧
        Q.crashed { s with directory := files, fault := none } :=
    fun files h => hcut files none (h.imp_right fun h => ⟨hsize', h⟩)
  simp only [wp_bind, wp_get, wp_modify]
  rw [wp_onDirectory]
  simp only [wp_attempt]
  refine SecureDir.wp_atomicReplace (silent_injectDedupeFault _ _)
    (silent_injectDedupeFault _ _) (silent_injectDedupeFault _ _) ?_ ?_
  · intro files htouched
    have htouched' : Written (sdk.encode staged) (cell s.directory) (cell files) :=
      htouched.2
    refine ⟨?_, (hwritten files htouched').2⟩
    -- the replacement failed: the file is read back
    intro e _
    simp only [wp_bind]
    rw [wp_onDirectory]
    simp only [wp_attempt]
    have hfailed : ∀ found : Except Failure (Option β),
        isStaged sdk staged found = false →
        (if isStaged sdk staged found = true then do
          onDirectory (other (SecureDir.sync ()))
          modify fun self => { self with document := staged }
        else throw (.ofText e.display) : DedupeProgram β ρ Unit).wp A Q
          { s with directory := files, fault := none } := by
      intro found hfound
      rw [hfound]
      exact (hwritten files htouched').1 _
    refine SecureDir.wp_readOptional ⟨fun e' _ => hfailed (.error e') rfl,
      (hwritten files htouched').2⟩ ?_
    cases hstaged : isStaged sdk staged (.ok (cell files).current) with
    | false => exact hfailed _ hstaged
    | true =>
        obtain ⟨bytes, hbytes, hdecode⟩ := isStaged_eq_true hstaged
        have hsettled : cell (files.sync ()) = Cell.settled (some bytes) := by
          rw [← hbytes]
          exact (Volume.sync_same files () (.named ())).trans
            (Cell.sync_eq_settled (htouched'.torn htorn))
        simp only [cell] at hstaged
        simp only [hstaged, if_true, wp_bind]
        rw [wp_onDirectory]
        simp only [other, wp_mapError]
        refine SecureDir.wp_sync ⟨fun e' _ => (hwritten files htouched').1 _,
          (hwritten files htouched').2⟩ ?_
        refine hok _ bytes hsettled hdecode ?_
        have hvalue : some bytes ∈ (cell files).values :=
          hbytes ▸ (cell files).current_mem_values
        rcases htouched'.values hvalue with heq | hold
        · cases heq
          exact Or.inr ⟨rfl, hsize'⟩
        · exact Or.inl hold
  · intro files hreplaced
    simp only [wp_modify]
    exact hok files _ hreplaced.2 hcodec (Or.inr ⟨rfl, hsize'⟩)

end Commit

section Invariant

/-- The log that `open` makes of the content of the file. -/
def FoundLog (sdk : DedupeSdk β ρ) (maximumRecords : Nat) (content : Option β)
    (document : DedupeDocument ρ) : Prop :=
  (content = none ∧ document = ⟨1, []⟩) ∨
    ∃ bytes, content = some bytes ∧ sdk.checkBytes maximumRecords bytes = .ok document

/-- Whatever the file may show, now or after a loss of power, is accepted. -/
structure Recoverable (sdk : DedupeSdk β ρ) (maximumRecords : Nat) (c : Cell β) : Prop where
  torn : c.torn = []
  values : ∀ content ∈ c.values, ∃ document, FoundLog sdk maximumRecords content document

/-- What holds of a log in memory and its file. -/
structure LogInvariant (sdk : DedupeSdk β ρ) (maximumRecords : Nat)
    (log : DurableDedupe β ρ) : Prop where
  maximum : log.maximumRecords = maximumRecords
  accepted : Accepted sdk maximumRecords log.document
  file : Recoverable sdk maximumRecords (cell log.directory)
  pending : ∀ found, FoundLog sdk maximumRecords (cell log.directory).current found →
    KeepsPending log.document found

theorem foundLog_some
    {bytes : β}
    (h : FoundLog sdk maximumRecords (some bytes) document) :
    sdk.checkBytes maximumRecords bytes = .ok document := by
  rcases h with ⟨hnone, _⟩ | ⟨bytes', heq, hcheck⟩
  · cases hnone
  · cases heq
    exact hcheck

theorem foundLog_unique
    {content : Option β} {document' : DedupeDocument ρ}
    (h : FoundLog sdk maximumRecords content document)
    (h' : FoundLog sdk maximumRecords content document') :
    document = document' := by
  rcases h with ⟨rfl, rfl⟩ | ⟨bytes, rfl, hcheck⟩
  · rcases h' with ⟨_, rfl⟩ | ⟨_, heq, _⟩
    · rfl
    · cases heq
  · have hcheck' := foundLog_some h'
    rw [hcheck] at hcheck'
    exact Except.ok.inj hcheck'

/-- What may have become of the file when an operation did not succeed. -/
def Attempted (sdk : DedupeSdk β ρ) (staged : Except IoError (DedupeDocument ρ))
    (c c' : Cell β) : Prop :=
  c.Shrinks c' ∨
    ∃ document, staged = .ok document ∧ sdk.size (sdk.encode document) ≤ maxDedupeBytes ∧
      c.Wrote (some (sdk.encode document)) c'

variable (hcodec : ∀ document, sdk.decode (sdk.encode document) = .ok document)

include hcodec in
theorem checkBytes_encode
    {call : Call ρ}
    (h : Accepted sdk maximumRecords document)
    (hstage : stage sdk maximumRecords document call = .ok staged)
    (hsize : sdk.size (sdk.encode staged) ≤ maxDedupeBytes) :
    sdk.checkBytes maximumRecords (sdk.encode staged) = .ok staged :=
  checkBytes_eq_ok.mpr ⟨hsize, hcodec staged, stage_accepted h hstage⟩

include hcodec in
/-- An operation that did not succeed leaves a file that keeps the pending requests. -/
theorem LogInvariant.attempted
    {log : DurableDedupe β ρ} {call : Call ρ} {files : DedupeFiles β}
    (h : LogInvariant sdk maximumRecords log)
    (hattempted : Attempted sdk (stage sdk maximumRecords log.document call)
      (cell log.directory) (cell files))
    (fault : Option DedupeFaultPoint) :
    LogInvariant sdk maximumRecords { log with directory := files, fault := fault } := by
  rcases hattempted with hshrinks | ⟨staged, hstage, hsize, hwrote⟩
  · refine ⟨h.maximum, h.accepted, ⟨hshrinks.2.1.trans h.file.torn, ?_⟩, ?_⟩
    · exact fun content hmem => h.file.values content (hshrinks.values_subset hmem)
    · intro found hfound
      simp only [hshrinks.1] at hfound
      exact h.pending found hfound
  · have hcheck := checkBytes_encode hcodec h.accepted hstage hsize
    refine ⟨h.maximum, h.accepted, ⟨hwrote.2.1, ?_⟩, ?_⟩
    · intro content hmem
      rcases hwrote.2.2 content hmem with rfl | hold
      · exact ⟨staged, Or.inr ⟨_, rfl, hcheck⟩⟩
      · exact h.file.values content hold
    · intro found hfound
      simp only [hwrote.1] at hfound
      obtain rfl := foundLog_unique (Or.inr ⟨_, rfl, hcheck⟩) hfound
      exact stage_keepsPending hstage

variable {A : Answer Unit β → Prop}

/-- Opening takes over what the file shows, and changes nothing. -/
theorem open_wp
    (files : DedupeFiles β) :
    (DurableDedupe.open sdk maximumRecords).wp A
      ⟨fun log files' => files' = files ∧ log.directory = files ∧
          log.maximumRecords = maximumRecords ∧
          FoundLog sdk maximumRecords (cell files).current log.document,
        fun _ files' => files' = files, fun files' => files' = files⟩ files := by
  unfold DurableDedupe.open SecureDir.validateFileIfPresent
  simp only [wp_bind, other, wp_mapError]
  refine SecureDir.wp_syscall ⟨fun _ _ => rfl, rfl⟩ ?_
  simp only
  refine SecureDir.wp_openRegularOptional ⟨fun _ _ => rfl, rfl⟩ ?_
  simp only [wp_pure]
  refine SecureDir.wp_readOptional ⟨fun _ _ => rfl, rfl⟩ ?_
  simp only [cell]
  cases (files () (.named ())).current with
  | none => exact ⟨rfl, rfl, rfl, Or.inl ⟨rfl, rfl⟩⟩
  | some bytes =>
      simp only [wp_bind, wp_orThrow, wp_get, wp_pure]
      refine ⟨?_, fun _ _ => trivial⟩
      exact fun document hcheck => ⟨trivial, trivial, trivial, Or.inr ⟨bytes, rfl, hcheck⟩⟩

theorem accepted_of_foundLog
    {content : Option β} {document : DedupeDocument ρ}
    (h : FoundLog sdk maximumRecords content document) :
    Accepted sdk maximumRecords document := by
  rcases h with ⟨_, rfl⟩ | ⟨bytes, _, hcheck⟩
  · exact ⟨rfl, by simp, by simp [requestIds], by simp⟩
  · exact (checkBytes_eq_ok.mp hcheck).2.2

variable [DecidableEq ρ]

/-- What an operation may do to a log. -/
def callPost (sdk : DedupeSdk β ρ) (maximumRecords : Nat) (call : Call ρ)
    (log : DurableDedupe β ρ) : Post (DurableDedupe β ρ) IoError Unit where
  ok _ log' := LogInvariant sdk maximumRecords log' ∧
    stage sdk maximumRecords log.document call = .ok log'.document ∧
    ∃ bytes, cell log'.directory = Cell.settled (some bytes) ∧
      sdk.checkBytes maximumRecords bytes = .ok log'.document
  error _ log' := LogInvariant sdk maximumRecords log' ∧ log'.document = log.document ∧
    Attempted sdk (stage sdk maximumRecords log.document call)
      (cell log.directory) (cell log'.directory)
  crashed log' := LogInvariant sdk maximumRecords log' ∧ log'.document = log.document

theorem program_eq (call : Call ρ) :
    call.program sdk = (do
      let self ← Program.get
      let staged ← orThrow (stage sdk self.maximumRecords self.document call)
      commit sdk staged : DedupeProgram β ρ Unit) := by
  cases call <;> rfl

include hcodec in
/-- The step lemma of the log. -/
theorem call_wp
    {log : DurableDedupe β ρ} (call : Call ρ)
    (h : LogInvariant sdk maximumRecords log) :
    (call.program sdk).wp A (callPost sdk maximumRecords call log) log := by
  have hsame : Attempted sdk (stage sdk maximumRecords log.document call)
      (cell log.directory) (cell log.directory) := Or.inl (Cell.Shrinks.refl _)
  rw [program_eq]
  simp only [wp_bind, wp_get, wp_orThrow, h.maximum]
  refine ⟨?_, fun _ _ => ⟨h, rfl, hsame⟩⟩
  intro staged hstage
  refine wp_commit (hcodec staged) h.file.torn ?_ ?_
  · intro files bytes hsettled hdecode hbytes
    have hcheck : sdk.checkBytes maximumRecords bytes = .ok staged := by
      rcases hbytes with hold | ⟨rfl, hsize⟩
      · obtain ⟨document, hfound⟩ := h.file.values _ hold
        have hcheck := foundLog_some hfound
        have hdocument := (checkBytes_eq_ok.mp hcheck).2.1
        rw [hdecode] at hdocument
        rw [hcheck, Except.ok.inj hdocument]
      · exact checkBytes_encode hcodec h.accepted hstage hsize
    refine ⟨⟨h.maximum, stage_accepted h.accepted hstage, ?_, ?_⟩, hstage,
      bytes, hsettled, hcheck⟩
    · simp only [hsettled]
      refine ⟨rfl, ?_⟩
      intro content hmem
      obtain rfl : content = some bytes := by
        simpa [Cell.settled, Cell.values] using hmem
      exact ⟨staged, Or.inr ⟨bytes, rfl, hcheck⟩⟩
    · intro found hfound
      simp only [hsettled, Cell.current_settled] at hfound
      obtain rfl := foundLog_unique (Or.inr ⟨bytes, rfl, hcheck⟩) hfound
      exact KeepsPending.refl _
  · intro files fault hcell
    have hattempted : Attempted sdk (stage sdk maximumRecords log.document call)
        (cell log.directory) (cell files) := by
      rcases hcell with hshrinks | ⟨hsize, hwrote⟩
      · exact Or.inl hshrinks
      · exact Or.inr ⟨staged, hstage, hsize, hwrote⟩
    have hinvariant := h.attempted hcodec hattempted fault
    exact ⟨fun _ => ⟨hinvariant, rfl, hattempted⟩, hinvariant, rfl⟩

end Invariant

end DurableDedupe

open DurableDedupe

section Runs

variable {β ρ : Type} [Inhabited β] [DecidableEq ρ]

/-- A log in use, or the file that a process has left behind. -/
inductive LogState (β ρ : Type) where
  | running (log : DurableDedupe β ρ)
  | closed (files : DedupeFiles β)

/-- What may happen to a log. -/
inductive LogEvent (β ρ : Type) where
  | call (call : Call ρ) (script : List (Answer Unit β))
  | close
  | powerLoss
  | reopen (script : List (Answer Unit β))

/-- The steps of a log; a process that ends in an operation leaves the file as it is. -/
def logStep (sdk : DedupeSdk β ρ) (maximumRecords : Nat) :
    LogState β ρ → LogEvent β ρ → LogState β ρ → Prop
  | .running log, .call call script, s' =>
      ∃ outcome log', (call.program sdk).run script log = (outcome, log') ∧
        ((outcome ≠ .crashed ∧ s' = .running log') ∨ s' = .closed log'.directory)
  | .running log, .close, s' => s' = .closed log.directory
  | .closed files, .powerLoss, s' => ∃ files', files.Reverts files' ∧ s' = .closed files'
  | .closed files, .reopen script, s' =>
      ∃ outcome files', (DurableDedupe.open sdk maximumRecords).run script files =
        (outcome, files') ∧
        ((∃ log, outcome = .ok log ∧ s' = .running log) ∨ s' = .closed files')
  | _, _, _ => False

/-- The runs of a log that was opened over any durable file. -/
def logSystem (sdk : DedupeSdk β ρ) (maximumRecords : Nat) :
    System (LogState β ρ) (LogEvent β ρ) where
  initial s :=
    ∃ files files' script log content, cell files = Cell.settled content ∧
      (DurableDedupe.open sdk maximumRecords).run script files = (.ok log, files') ∧
      s = .running log
  step := logStep sdk maximumRecords

variable {sdk : DedupeSdk β ρ} {maximumRecords : Nat}

omit [DecidableEq ρ] in
/-- A log that was just opened. -/
theorem logInvariant_open
    {files files' : DedupeFiles β} {script : List (Answer Unit β)}
    {log : DurableDedupe β ρ}
    (hfile : ∀ document, FoundLog sdk maximumRecords (cell files).current document →
      Recoverable sdk maximumRecords (cell files))
    (hrun : (DurableDedupe.open sdk maximumRecords).run script files = (.ok log, files')) :
    LogInvariant sdk maximumRecords log := by
  have hopen := holds_of_run hrun (open_wp files)
  obtain ⟨_, hdirectory, hmaximum, hfound⟩ := hopen
  refine ⟨hmaximum, accepted_of_foundLog hfound, ?_, ?_⟩
  · rw [hdirectory]
    exact hfile _ hfound
  · intro found hfound'
    rw [hdirectory] at hfound'
    rw [foundLog_unique hfound hfound']
    exact KeepsPending.refl _

/-- The invariant of all runs. -/
def LogStateInvariant (sdk : DedupeSdk β ρ) (maximumRecords : Nat) : LogState β ρ → Prop
  | .running log => LogInvariant sdk maximumRecords log
  | .closed files => Recoverable sdk maximumRecords (cell files)

theorem logStateInvariant_step
    {s s' : LogState β ρ} {event : LogEvent β ρ}
    (hcodec : ∀ document, sdk.decode (sdk.encode document) = .ok document)
    (h : LogStateInvariant sdk maximumRecords s)
    (hstep : logStep sdk maximumRecords s event s') :
    LogStateInvariant sdk maximumRecords s' := by
  cases s with
  | running log =>
      cases event with
      | call call script =>
          obtain ⟨outcome, log', hrun, hnext⟩ := hstep
          have hpost := holds_of_run hrun (call_wp hcodec call h)
          have hinvariant : LogInvariant sdk maximumRecords log' := by
            cases outcome with
            | ok _ => exact hpost.1
            | error _ => exact hpost.1
            | crashed => exact hpost.1
          rcases hnext with ⟨_, rfl⟩ | rfl
          · exact hinvariant
          · exact hinvariant.file
      | close =>
          cases hstep
          exact h.file
      | powerLoss => exact hstep.elim
      | reopen script => exact hstep.elim
  | closed files =>
      cases event with
      | call call script => exact hstep.elim
      | close => exact hstep.elim
      | powerLoss =>
          obtain ⟨files', hreverts, rfl⟩ := hstep
          obtain ⟨content, hmem, heq⟩ := hreverts () (.named ())
          have hcell : cell files' = Cell.settled content := heq
          refine ⟨by simp [hcell, Cell.settled], ?_⟩
          rw [hcell]
          intro content' hmem'
          obtain rfl : content' = content := by
            simpa [Cell.settled, Cell.values] using hmem'
          exact h.values content' hmem
      | reopen script =>
          obtain ⟨outcome, files', hrun, hnext⟩ := hstep
          rcases hnext with ⟨log, rfl, rfl⟩ | rfl
          · exact logInvariant_open (fun _ _ => h) hrun
          · have hopen := holds_of_run hrun (open_wp files)
            have hsame : files' = files := by
              cases outcome with
              | ok _ => exact hopen.1
              | error _ => exact hopen
              | crashed => exact hopen
            rw [hsame]
            exact h

theorem logStateInvariant_of_reachable
    {s : LogState β ρ}
    (hcodec : ∀ document, sdk.decode (sdk.encode document) = .ok document)
    (h : (logSystem sdk maximumRecords).Reachable s) :
    LogStateInvariant sdk maximumRecords s := by
  refine h.invariant ?_ fun _ _ _ => logStateInvariant_step hcodec
  rintro s ⟨files, files', script, log, content, hcell, hrun, rfl⟩
  refine logInvariant_open ?_ hrun
  intro document hfound
  rw [hcell] at hfound ⊢
  refine ⟨rfl, ?_⟩
  intro content' hmem
  obtain rfl : content' = content := by
    simpa [Cell.settled, Cell.values] using hmem
  exact ⟨document, hfound⟩

/-- What a log in use guarantees. -/
structure LogGuarantees (sdk : DedupeSdk β ρ) (maximumRecords : Nat)
    (log : DurableDedupe β ρ) : Prop where
  ids_unique : (requestIds log.document).Nodup
  capacity : log.document.records.length ≤ maximumRecords
  completed_own : ∀ record ∈ log.document.records, ∀ result,
    record.result = some result → sdk.requestId result = record.requestId
  /-- No operation evicts a pending record; one may complete it. -/
  pending_kept : ∀ call staged, stage sdk maximumRecords log.document call = .ok staged →
    ∀ record ∈ log.document.records, record.result = none →
      record ∈ staged.records ∨
        ∃ result, call = .complete record.requestId result ∧
          ⟨record.requestId, some result⟩ ∈ staged.records
  /-- After a success the file decodes to the log in memory. -/
  call_ok : ∀ call script log', (Call.program sdk call).run script log = (.ok (), log') →
    stage sdk maximumRecords log.document call = .ok log'.document ∧
      ∃ bytes, cell log'.directory = Cell.settled (some bytes) ∧
        sdk.decode bytes = .ok log'.document
  /-- After a failure memory is unchanged, and the file is the old or the staged one. -/
  call_error : ∀ call script e log',
    (Call.program sdk call).run script log = (.error e, log') →
      log'.document = log.document ∧
        ((cell log'.directory).current = (cell log.directory).current ∨
          ∃ staged, stage sdk maximumRecords log.document call = .ok staged ∧
            (cell log'.directory).current = some (sdk.encode staged))
  /-- Whatever operation wrote it, and however it ended, the file can be opened. -/
  written_accepted : ∀ call script outcome log',
    (Call.program sdk call).run script log = (outcome, log') →
      ∀ content ∈ (cell log'.directory).values,
        ∃ document, FoundLog sdk maximumRecords content document
  staged_accepted : ∀ call staged, stage sdk maximumRecords log.document call = .ok staged →
    sdk.size (sdk.encode staged) ≤ maxDedupeBytes →
      sdk.checkBytes maximumRecords (sdk.encode staged) = .ok staged
  /-- Reopening finds every pending request again. -/
  pending_found : ∀ call script outcome log',
    (Call.program sdk call).run script log = (outcome, log') →
      ∀ found, FoundLog sdk maximumRecords (cell log'.directory).current found →
        KeepsPending log'.document found

/-- The log keeps its guarantees in every run, with failures and reopenings anywhere. -/
theorem log_guarantees
    (sdk : DedupeSdk β ρ) (maximumRecords : Nat)
    (hcodec : ∀ document, sdk.decode (sdk.encode document) = .ok document)
    {log : DurableDedupe β ρ}
    (h : (logSystem sdk maximumRecords).Reachable (.running log)) :
    LogGuarantees sdk maximumRecords log := by
  have hinvariant : LogInvariant sdk maximumRecords log :=
    logStateInvariant_of_reachable hcodec h
  have hcall : ∀ {call script outcome log'},
      (Call.program sdk call).run script log = (outcome, log') →
        (callPost sdk maximumRecords call log).holds (outcome, log') := by
    intro call script outcome log' hrun
    exact holds_of_run hrun (call_wp hcodec call hinvariant)
  have hafter : ∀ {call script outcome log'},
      (Call.program sdk call).run script log = (outcome, log') →
        LogInvariant sdk maximumRecords log' := by
    intro call script outcome log' hrun
    have hpost := hcall hrun
    cases outcome with
    | ok _ => exact hpost.1
    | error _ => exact hpost.1
    | crashed => exact hpost.1
  refine ⟨hinvariant.accepted.ids, hinvariant.accepted.capacity, ?_, ?_, ?_, ?_, ?_, ?_, ?_⟩
  · intro record hmem result hresult
    exact ((checkRecord_eq_ok.mp (hinvariant.accepted.checked record hmem)).2
      result hresult).2
  · exact fun call staged hstage record hmem hnone => stage_pending hstage hmem hnone
  · intro call script log' hrun
    obtain ⟨_, hstage, bytes, hcell, hcheck⟩ := hcall hrun
    exact ⟨hstage, bytes, hcell, (checkBytes_eq_ok.mp hcheck).2.1⟩
  · intro call script e log' hrun
    obtain ⟨_, hdocument, hattempted⟩ := hcall hrun
    refine ⟨hdocument, ?_⟩
    rcases hattempted with hshrinks | ⟨staged, hstage, _, hwrote⟩
    · exact Or.inl hshrinks.1
    · exact Or.inr ⟨staged, hstage, hwrote.1⟩
  · exact fun call script outcome log' hrun => (hafter hrun).file.values
  · exact fun call staged hstage hsize =>
      checkBytes_encode hcodec hinvariant.accepted hstage hsize
  · exact fun call script outcome log' hrun => (hafter hrun).pending

end Runs

section Sample

/-- Contents by what they say: an empty file, or a document. -/
abbrev DedupeText := Option (DedupeDocument String)

/-- Libraries over such contents; a result is its own request id. -/
def symbolicDedupe : DedupeSdk DedupeText String where
  empty := none
  encode document := some document
  decode
    | some document => .ok document
    | none => .error "EOF while parsing a value"
  size
    | some document => 100 * (document.records.length + 1)
    | none => 0
  parseUuid text := if canonicalUuid text then some text else none
  requestId result := result
  validateResult _ := .ok ()

theorem symbolicDedupe_codec (document : DedupeDocument String) :
    symbolicDedupe.decode (symbolicDedupe.encode document) = .ok document :=
  rfl

def openedLog : Outcome IoError (DurableDedupe DedupeText String) × DedupeFiles DedupeText :=
  (DurableDedupe.open symbolicDedupe 2).run [] ⟨fun _ _ => Cell.settled none⟩

theorem openedLog_isSome : openedLog.1.get?.isSome = true := by
  decide

/-- A log with room for two requests, over a directory without files. -/
def sampleLog : DurableDedupe DedupeText String :=
  openedLog.1.get?.get openedLog_isSome

theorem openedLog_eq : openedLog = (.ok sampleLog, openedLog.2) :=
  Outcome.pair_eq_ok openedLog_isSome

theorem sampleLog_reachable : (logSystem symbolicDedupe 2).Reachable (.running sampleLog) :=
  .initial ⟨_, openedLog.2, [], sampleLog, none, rfl, openedLog_eq, rfl⟩

def secondRequestId : String :=
  "00000000-0000-0000-0000-000000000001"

def thirdRequestId : String :=
  "00000000-0000-0000-0000-000000000002"

def callLog (call : Call String) (log : DurableDedupe DedupeText String) :
    Outcome IoError Unit × DurableDedupe DedupeText String :=
  (call.program symbolicDedupe).run [] log

/-- An operation that did not crash goes on with its log. -/
theorem callLog_reachable {call : Call String} {log : DurableDedupe DedupeText String}
    (h : (logSystem symbolicDedupe 2).Reachable (.running log))
    (hok : (callLog call log).1 = .ok ()) :
    (logSystem symbolicDedupe 2).Reachable (.running (callLog call log).2) := by
  refine .step (e := .call call []) h ⟨(callLog call log).1, (callLog call log).2, rfl,
    Or.inl ⟨?_, rfl⟩⟩
  rw [hok]
  exact nofun

/-- The first request is answered, the second one is not; the third takes the first one's
place. -/
def busyLog : DurableDedupe DedupeText String :=
  (callLog (.begin thirdRequestId) (callLog (.begin secondRequestId)
    (callLog (.complete nilUuid nilUuid) (callLog (.begin nilUuid) sampleLog).2).2).2).2

theorem busyLog_reachable : (logSystem symbolicDedupe 2).Reachable (.running busyLog) := by
  refine callLog_reachable (callLog_reachable (callLog_reachable
    (callLog_reachable sampleLog_reachable ?_) ?_) ?_) ?_
  · decide
  · decide
  · decide
  · decide

theorem log_guarantees_busy :
    busyLog.document.records.map (·.requestId) = [secondRequestId, thirdRequestId] ∧
      LogGuarantees symbolicDedupe 2 busyLog :=
  ⟨by decide, log_guarantees symbolicDedupe 2 symbolicDedupe_codec busyLog_reachable⟩

end Sample

end SleepySession
