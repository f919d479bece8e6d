import SleepySession.Calendar.ByteAccounting

/-!
# The isolation of calendar sources

The count is never less than the length of the snapshot.  A source that fails
adds one error and changes nothing else, but the room for errors is kept once
and not for every source.
-/

namespace SleepySession
namespace Calendar

variable {sdk : CalendarSdk}

section Snapshots

variable {request : Request} {source : SourceFile} {p p' : Progress}
variable {windowStart windowEnd : Text} {sources before after : List SourceFile}

/-- The invariant of the loop over the sources. -/
structure Progress.Counted (sdk : CalendarSdk) (windowStart windowEnd : Text) (p : Progress) :
    Prop where
  bytes : p.bytesUsed = (Progress.start sdk windowStart windowEnd).bytesUsed +
    charged sdk.eventLength p.events + charged sdk.errorLength p.sourceErrors
  budget : p.bytesUsed ≤ maxSnapshotBytes

/-- What one source does to the variables of the loop. -/
def Contributes (sdk : CalendarSdk) (request : Request) (p : Progress) (source : SourceFile)
    (p' : Progress) : Prop :=
  match parseSource sdk source source.sourceId (request.bounds p.bytesUsed) with
  | .ok (parsed, _) =>
      p'.events = p.events ++ parsed ∧ p'.sourceErrors = p.sourceErrors
  | .error (.error error) =>
      p'.events = p.events ∧
        p'.sourceErrors =
          p.sourceErrors ++ [(boundedSourceError sdk source.sourceId error).1]
  | .error .panic => False

theorem contributes_addSource (h : addSource sdk request p source = .ok p') :
    Contributes sdk request p source p' := by
  unfold addSource at h
  unfold Contributes
  cases hparsed : parseSource sdk source source.sourceId (request.bounds p.bytesUsed) with
  | ok result =>
      rw [hparsed] at h
      simp only at h
      split at h
      · cases h
      split at h
      · cases h
        exact ⟨rfl, rfl⟩
      · cases h
  | error failure =>
      rw [hparsed] at h
      cases failure with
      | panic => cases h
      | error error =>
          simp only at h
          split at h
          · cases h
          split at h
          · cases h
            exact ⟨rfl, rfl⟩
          · cases h

theorem counted_addSource (hlawful : sdk.Lawful) (hp : p.Counted sdk windowStart windowEnd)
    (h : addSource sdk request p source = .ok p') : p'.Counted sdk windowStart windowEnd := by
  have hbytes := hp.bytes
  unfold addSource at h
  split at h
  · rename_i parsed parsedBytes hparsed
    have hcharged := (parseSource_charged hparsed).1
    split at h
    · cases h
    split at h
    · rename_i hbudget
      cases h
      refine ⟨?_, hbudget⟩
      simp only [charged_append]
      omega
    · cases h
  · cases h
  · rename_i error _
    have hbounded := boundedError_boundedSourceError hlawful source.sourceId error
    split at h
    · cases h
    simp only at h
    split at h
    · rename_i hbudget
      cases h
      refine ⟨?_, hbudget⟩
      simp only [charged_append, charged_singleton, ← hbounded.bytes]
      omega
    · cases h

theorem counted_foldlM (hlawful : sdk.Lawful) (hp : p.Counted sdk windowStart windowEnd)
    (h : sources.foldlM (addSource sdk request) p = .ok p') :
    p'.Counted sdk windowStart windowEnd :=
  Checks.foldlM_invariant (Progress.Counted sdk windowStart windowEnd)
    (fun _ _ _ hp hsource => counted_addSource hlawful hp hsource) _ _ _ hp h

/-- The count covers the snapshot of what was collected, in any order of the events. -/
theorem snapshotLength_le (hlawful : sdk.Lawful) (hp : p.Counted sdk windowStart windowEnd)
    {events : List CalendarEvent} (hevents : events.Perm p.events) :
    sdk.snapshotLength (calendarSnapshot sdk windowStart windowEnd events p.sourceErrors) ≤
      p.bytesUsed := by
  have hstart : (Progress.start sdk windowStart windowEnd).bytesUsed =
      sdk.snapshotLength (calendarSnapshot sdk windowStart windowEnd [] []) := rfl
  have hbytes := hp.bytes
  have heventsLength : separatedLength sdk.eventLength p.events ≤ charged sdk.eventLength p.events :=
    separatedLength_le
  have herrorsLength :
      separatedLength sdk.errorLength p.sourceErrors ≤ charged sdk.errorLength p.sourceErrors :=
    separatedLength_le
  rw [hlawful.arrays, separatedLength_perm hevents]
  omega

/-- What the accounting has accepted passes the last check. -/
theorem finish_eq_ok (hlawful : sdk.Lawful) (hp : p.Counted sdk windowStart windowEnd) :
    finish sdk windowStart windowEnd p =
      .ok (calendarSnapshot sdk windowStart windowEnd (p.events.mergeSort eventLe)
        p.sourceErrors) := by
  have hlength := snapshotLength_le hlawful hp (List.mergeSort_perm p.events eventLe)
  unfold finish
  exact if_neg (Nat.not_lt.mpr (hlength.trans hp.budget))

/-- What was collected is kept. -/
theorem kept_foldlM (h : sources.foldlM (addSource sdk request) p = .ok p') :
    p.events <+: p'.events ∧ p.sourceErrors <+: p'.sourceErrors := by
  refine Checks.foldlM_invariant
    (fun q : Progress => p.events <+: q.events ∧ p.sourceErrors <+: q.sourceErrors)
    ?_ _ _ _ ⟨List.prefix_rfl, List.prefix_rfl⟩ h
  rintro q source q' ⟨hevents, herrors⟩ hsource
  have hcontributes := contributes_addSource hsource
  unfold Contributes at hcontributes
  split at hcontributes
  · rw [hcontributes.1, hcontributes.2]
    exact ⟨hevents.trans (List.prefix_append _ _), herrors⟩
  · rw [hcontributes.1, hcontributes.2]
    exact ⟨hevents, herrors.trans (List.prefix_append _ _)⟩
  · exact hcontributes.elim

/-- The errors of the sources that fail fit into the snapshot, where `total` is what it takes so
far, up to the source that exceeds the aggregate limit of events. -/
def ErrorsFit (sdk : CalendarSdk) (request : Request) : Nat → Nat → List SourceFile → Prop
  | _, _, [] => True
  | events, total, source :: rest =>
      match parseSource sdk source source.sourceId (request.bounds total) with
      | .ok (parsed, bytes) =>
          events + parsed.length ≤ maxTotalEvents →
            ErrorsFit sdk request (events + parsed.length) (total + bytes) rest
      | .error .panic => False
      | .error (.error error) =>
          error.kind ≠ .interrupted ∧
            total + ((boundedSourceError sdk source.sourceId error).2 + 1) ≤ maxSnapshotBytes ∧
            ErrorsFit sdk request events
              (total + ((boundedSourceError sdk source.sourceId error).2 + 1)) rest

/-- A snapshot, or one with too many events in all: no error of a single source. -/
def Survives {α : Type} (outcome : Except Failure α) : Prop :=
  (∃ a, outcome = .ok a) ∨ outcome = .error (.error eventLimitError)

theorem survives_ok {α : Type} (a : α) : Survives (.ok a) :=
  Or.inl ⟨a, rfl⟩

theorem not_survives_error {α : Type} {failure : Failure}
    (h : failure ≠ .error eventLimitError) : ¬ Survives (.error failure : Except Failure α) := by
  rintro (⟨a, ha⟩ | heq)
  · cases ha
  · exact h (Except.error.inj heq)

/-- The events of a source within its budget fit. -/
theorem parsed_fits (hp : p.bytesUsed ≤ maxSnapshotBytes) {parsed : List CalendarEvent}
    {bytes : Nat}
    (h : parseSource sdk source source.sourceId (request.bounds p.bytesUsed) =
      .ok (parsed, bytes)) :
    p.bytesUsed + bytes ≤ maxSnapshotBytes := by
  have hbudget := (parseSource_charged h).2
  simp only [Request.bounds] at hbudget
  omega

/-- One source, with what the loop makes of the others. -/
theorem survives_cons_iff {rest : List SourceFile} (hp : p.bytesUsed ≤ maxSnapshotBytes)
    (hrest : ∀ q : Progress, q.bytesUsed ≤ maxSnapshotBytes →
      (Survives (rest.foldlM (addSource sdk request) q) ↔
        ErrorsFit sdk request q.events.length q.bytesUsed rest)) :
    Survives (addSource sdk request p source >>= fun q =>
        rest.foldlM (addSource sdk request) q) ↔
      ErrorsFit sdk request p.events.length p.bytesUsed (source :: rest) := by
  rw [ErrorsFit, addSource]
  cases hparsed : parseSource sdk source source.sourceId (request.bounds p.bytesUsed) with
  | ok result =>
      obtain ⟨parsed, bytes⟩ := result
      have hfits := parsed_fits hp hparsed
      simp only
      by_cases hevents : p.events.length + parsed.length > maxTotalEvents
      · rw [if_pos hevents]
        exact iff_of_true (Or.inr rfl) fun hle => absurd hle (Nat.not_le.mpr hevents)
      · rw [if_neg hevents, if_pos hfits, forall_prop_of_true (Nat.not_lt.mp hevents),
          ← List.length_append]
        exact hrest _ hfits
  | error failure =>
      cases failure with
      | panic => exact iff_of_false (not_survives_error nofun) id
      | error error =>
          simp only
          by_cases hkind : error.kind = .interrupted
          · rw [if_pos hkind]
            refine iff_of_false (not_survives_error ?_) fun h => h.1 hkind
            rintro heq
            cases heq
            cases hkind
          rw [if_neg hkind]
          by_cases hbudget : p.bytesUsed +
              ((boundedSourceError sdk source.sourceId error).2 + 1) ≤ maxSnapshotBytes
          · rw [if_pos hbudget, and_iff_right hkind, and_iff_right hbudget]
            exact hrest _ hbudget
          · rw [if_neg hbudget]
            exact iff_of_false (not_survives_error (by decide)) fun h => hbudget h.2.1

theorem survives_foldlM_iff (sources : List SourceFile) (p : Progress)
    (hp : p.bytesUsed ≤ maxSnapshotBytes) :
    Survives (sources.foldlM (addSource sdk request) p) ↔
      ErrorsFit sdk request p.events.length p.bytesUsed sources := by
  induction sources generalizing p with
  | nil => exact iff_of_true (survives_ok p) trivial
  | cons source rest ih =>
      rw [List.foldlM_cons]
      exact survives_cons_iff hp ih

/-- A request with an allowed number of sources and an ordered window in canonical form. -/
structure CanonicalRequest (sdk : CalendarSdk) (provider : IcsCalendarProvider)
    (windowStart windowEnd : Text) (request : Request) : Prop where
  sources : provider.sources.length ≤ maxCalendarSources
  start : sdk.parseRfc3339 windowStart = some request.windowStart ∧
    sdk.formatTime request.windowStart = windowStart
  ends : sdk.parseRfc3339 windowEnd = some request.windowEnd ∧
    sdk.formatTime request.windowEnd = windowEnd
  ordered : request.windowStart.val < request.windowEnd.val
  limit : request.maxOccurrences = provider.maxOccurrences

variable {provider : IcsCalendarProvider}

theorem CanonicalRequest.snapshotControlled
    (h : CanonicalRequest sdk provider windowStart windowEnd request) :
    provider.snapshotControlled sdk windowStart windowEnd =
      match provider.sources.foldlM (addSource sdk request)
          (Progress.start sdk windowStart windowEnd) with
      | .error failure => .error failure
      | .ok p => finish sdk windowStart windowEnd p := by
  obtain ⟨start, ends, limit⟩ := request
  obtain ⟨hsources, ⟨hstart, -⟩, ⟨hends, -⟩, hordered, rfl⟩ := h
  unfold IcsCalendarProvider.snapshotControlled
  rw [if_neg (Nat.not_lt.mpr hsources), hstart, hends]
  exact if_neg (Int.not_le.mpr hordered)

theorem CanonicalRequest.counted (hlawful : sdk.Lawful)
    (h : CanonicalRequest sdk provider windowStart windowEnd request) :
    (Progress.start sdk windowStart windowEnd).Counted sdk windowStart windowEnd := by
  refine ⟨rfl, ?_⟩
  have hwindow := hlawful.window request.windowStart request.windowEnd
  rw [h.start.2, h.ends.2] at hwindow
  exact hwindow

/-- The accounting of one request. -/
structure Accounted (sdk : CalendarSdk) (provider : IcsCalendarProvider)
    (windowStart windowEnd : Text) (request : Request) : Prop where
  /-- At every step the count is at least the length of the snapshot built so far. -/
  covered : ∀ before after p, provider.sources = before ++ after →
    before.foldlM (addSource sdk request) (Progress.start sdk windowStart windowEnd) = .ok p →
      sdk.snapshotLength (calendarSnapshot sdk windowStart windowEnd p.events p.sourceErrors) ≤
          p.bytesUsed ∧
        p.bytesUsed ≤ maxSnapshotBytes
  /-- The last check does not reject what the accounting has accepted. -/
  accepted : ∀ p,
    provider.sources.foldlM (addSource sdk request)
        (Progress.start sdk windowStart windowEnd) = .ok p →
      provider.snapshotControlled sdk windowStart windowEnd =
        .ok (calendarSnapshot sdk windowStart windowEnd (p.events.mergeSort eventLe)
          p.sourceErrors)
  /-- In a snapshot every source has contributed its events or one bounded error, and what the
  sources before have contributed is kept. -/
  isolated : ∀ before source after snapshot,
    provider.sources = before ++ source :: after →
    provider.snapshotControlled sdk windowStart windowEnd = .ok snapshot →
      ∃ p p', before.foldlM (addSource sdk request)
          (Progress.start sdk windowStart windowEnd) = .ok p ∧
        Contributes sdk request p source p' ∧
        (∃ later, snapshot.events.Perm (p'.events ++ later)) ∧
        p'.sourceErrors <+: snapshot.sourceErrors
  /-- The errors of the sources are short. -/
  bounded : ∀ sourceId error, BoundedError sdk (boundedSourceError sdk sourceId error)
  /-- No failure of a source becomes the error of the whole exactly when their errors fit. -/
  survives : Survives (provider.snapshotControlled sdk windowStart windowEnd) ↔
    ErrorsFit sdk request 0 (sdk.snapshotLength
      (calendarSnapshot sdk windowStart windowEnd [] [])) provider.sources

theorem survives_snapshotControlled_iff (hlawful : sdk.Lawful)
    (h : CanonicalRequest sdk provider windowStart windowEnd request) :
    Survives (provider.snapshotControlled sdk windowStart windowEnd) ↔
      ErrorsFit sdk request 0 (sdk.snapshotLength
        (calendarSnapshot sdk windowStart windowEnd [] [])) provider.sources := by
  have hcounted := h.counted hlawful
  have hfold := @survives_foldlM_iff sdk request provider.sources
    (Progress.start sdk windowStart windowEnd) hcounted.budget
  refine Iff.trans ?_ hfold
  rw [h.snapshotControlled]
  cases hsources : provider.sources.foldlM (addSource sdk request)
      (Progress.start sdk windowStart windowEnd) with
  | error failure =>
      simp only
      constructor
      · rintro (⟨a, ha⟩ | heq)
        · cases ha
        · exact Or.inr (congrArg _ (Except.error.inj heq))
      · rintro (⟨a, ha⟩ | heq)
        · cases ha
        · exact Or.inr (congrArg _ (Except.error.inj heq))
  | ok p =>
      simp only
      rw [finish_eq_ok hlawful (counted_foldlM hlawful hcounted hsources)]
      exact iff_of_true (survives_ok _) (survives_ok _)

/-- A snapshot contains what each source has contributed to it. -/
theorem isolated_of_snapshot (hlawful : sdk.Lawful)
    (h : CanonicalRequest sdk provider windowStart windowEnd request)
    (hsources : provider.sources = before ++ source :: after) {snapshot : CalendarSnapshot}
    (hsnapshot : provider.snapshotControlled sdk windowStart windowEnd = .ok snapshot) :
    ∃ p p', before.foldlM (addSource sdk request)
        (Progress.start sdk windowStart windowEnd) = .ok p ∧
      Contributes sdk request p source p' ∧
      (∃ later, snapshot.events.Perm (p'.events ++ later)) ∧
      p'.sourceErrors <+: snapshot.sourceErrors := by
  rw [h.snapshotControlled] at hsnapshot
  split at hsnapshot
  · cases hsnapshot
  rename_i q hq
  have hcounted := counted_foldlM hlawful (h.counted hlawful) hq
  rw [finish_eq_ok hlawful hcounted] at hsnapshot
  cases hsnapshot
  rw [hsources, List.foldlM_append] at hq
  obtain ⟨p, hp, hrest⟩ := Checks.bind_eq_ok_iff.mp hq
  rw [List.foldlM_cons] at hrest
  obtain ⟨p', hp', hafter⟩ := Checks.bind_eq_ok_iff.mp hrest
  obtain ⟨⟨later, hlater⟩, herrors⟩ := kept_foldlM hafter
  refine ⟨p, p', hp, contributes_addSource hp', ⟨later, ?_⟩, herrors⟩
  rw [hlater]
  exact List.mergeSort_perm q.events eventLe

/-- The bytes of every snapshot are accounted for, and the sources that fail are isolated as
long as their errors fit. -/
theorem calendar_accounting_iff (sdk : CalendarSdk) (hlawful : sdk.Lawful)
    (provider : IcsCalendarProvider) (windowStart windowEnd : Text) (request : Request)
    (h : CanonicalRequest sdk provider windowStart windowEnd request) :
    Accounted sdk provider windowStart windowEnd request := by
  refine ⟨?_, ?_, ?_, ?_, ?_⟩
  · intro before after p _ hp
    have hcounted := counted_foldlM hlawful (h.counted hlawful) hp
    exact ⟨snapshotLength_le hlawful hcounted (List.Perm.refl _), hcounted.budget⟩
  · intro p hp
    rw [h.snapshotControlled, hp]
    exact finish_eq_ok hlawful (counted_foldlM hlawful (h.counted hlawful) hp)
  · intro before source after snapshot hsources hsnapshot
    exact isolated_of_snapshot hlawful h hsources hsnapshot
  · exact fun sourceId error => boundedError_boundedSourceError hlawful sourceId error
  · exact survives_snapshotControlled_iff hlawful h

end Snapshots

section Sample

/-- The length of a character in a JSON text. -/
def jsonCharLength (c : Char) : Nat :=
  if c = '"' ∨ c = '\\' ∨ c.toNat ∈ [8, 9, 10, 12, 13] then 2
  else if c.toNat < 32 then 6
  else c.utf8Size

def jsonTextLength (text : Text) : Nat :=
  2 + (text.map jsonCharLength).sum

def sampleEventLength (event : CalendarEvent) : Nat :=
  62 + jsonTextLength event.id + jsonTextLength event.summary + jsonTextLength event.startsAt +
    jsonTextLength event.endsAt + (if event.allDay then 4 else 5) +
    jsonTextLength event.sourceId + event.location.elim 0 fun text => 12 + jsonTextLength text

def sampleErrorLength (error : CalendarSourceError) : Nat :=
  24 + jsonTextLength error.sourceId + jsonTextLength error.message

def sampleSnapshotLength (snapshot : CalendarSnapshot) : Nat :=
  90 + (Nat.toDigits 10 snapshot.schemaVersion).length + jsonTextLength snapshot.providerId +
    jsonTextLength snapshot.windowStart + jsonTextLength snapshot.windowEnd +
    separatedLength sampleEventLength snapshot.events +
    separatedLength sampleErrorLength snapshot.sourceErrors

/-- Some times of one day, in the form of calendar files and in that of the window. -/
def sampleTimes : List (Text × Text × DateTime) :=
  [("20260301T000000Z".toList, "2026-03-01T00:00:00Z".toList, ⟨1772323200, by decide⟩),
    ("20260301T120000Z".toList, "2026-03-01T12:00:00Z".toList, ⟨1772366400, by decide⟩),
    ("20260301T130000Z".toList, "2026-03-01T13:00:00Z".toList, ⟨1772370000, by decide⟩),
    ("20260302T000000Z".toList, "2026-03-02T00:00:00Z".toList, ⟨1772409600, by decide⟩)]

def sampleCalendar : CalendarSdk where
  zoneinfo _ := none
  parseFromStr _ value := (sampleTimes.find? fun time => time.1 = value).map (·.2.2)
  parseRfc3339 value := (sampleTimes.find? fun time => time.2.1 = value).map (·.2.2)
  formatTime instant := ((sampleTimes.find? fun time => time.2.2 = instant).map (·.2.1)).getD []
  wireSchemaVersion := 2
  eventLength := sampleEventLength
  errorLength := sampleErrorLength
  snapshotLength := sampleSnapshotLength

theorem jsonTextLength_formatTime (instant : DateTime) :
    jsonTextLength (sampleCalendar.formatTime instant) ≤ 22 := by
  unfold sampleCalendar
  simp only
  cases hfind : sampleTimes.find? fun time => time.2.2 = instant with
  | none => decide
  | some time =>
      have hall : ∀ time ∈ sampleTimes, jsonTextLength time.2.1 ≤ 22 := by
        decide
      exact hall time (List.mem_of_find?_eq_some hfind)

theorem sampleSnapshotLength_nil (windowStart windowEnd : Text) :
    sampleSnapshotLength (calendarSnapshot sampleCalendar windowStart windowEnd [] []) =
      102 + jsonTextLength windowStart + jsonTextLength windowEnd := by
  have hconstant : 90 + (Nat.toDigits 10 sampleCalendar.wireSchemaVersion).length +
      jsonTextLength "local-ics".toList = 102 := by decide
  unfold sampleSnapshotLength calendarSnapshot
  simp only
  rw [hconstant]
  rfl

theorem sampleCalendar_lawful : sampleCalendar.Lawful where
  arrays windowStart windowEnd events sourceErrors := rfl
  window start ends := by
    have hstart := jsonTextLength_formatTime start
    have hends := jsonTextLength_formatTime ends
    refine (sampleSnapshotLength_nil _ _).trans_le ?_
    have hmax : maxSnapshotBytes = 2097152 := rfl
    omega
  replaced := by decide

def sampleRequest : Request where
  windowStart := ⟨1772323200, by decide⟩
  windowEnd := ⟨1772409600, by decide⟩
  maxOccurrences := 64

/-- An event whose summary has 700 control characters, which JSON escapes. -/
def escapedText : Text :=
  "BEGIN:VCALENDAR\nBEGIN:VEVENT\nUID:u\nSUMMARY:".toList ++
    List.replicate 700 (Char.ofNat 1) ++
    "\nDTSTART:20260301T120000Z\nDTEND:20260301T130000Z\nEND:VEVENT\nEND:VCALENDAR\n".toList

def escapedSource : SourceFile where
  name := some "full.ics".toList
  opened := .ok (true, escapedText.length)
  content := .ok (utf8Bytes escapedText)

def missingSource : SourceFile where
  name := some "missing.ics".toList
  opened := .error ⟨.notFound, "No such file or directory (os error 2)"⟩
  content := .ok []

/-- Sources with an event each, and then files that are missing. -/
def crowdedProvider (full missing : Nat) : IcsCalendarProvider :=
  .new (List.replicate full escapedSource ++ List.replicate missing missingSource) 64

theorem crowdedProvider_request {full missing : Nat} (h : full + missing ≤ maxCalendarSources) :
    CanonicalRequest sampleCalendar (crowdedProvider full missing)
      "2026-03-01T00:00:00Z".toList "2026-03-02T00:00:00Z".toList sampleRequest where
  sources := by
    unfold crowdedProvider IcsCalendarProvider.new
    rw [List.length_append, List.length_replicate, List.length_replicate]
    exact h
  start := ⟨by decide, by decide⟩
  ends := ⟨by decide, by decide⟩
  ordered := by decide
  limit := rfl

theorem calendar_accounting_sample :
    Accounted sampleCalendar (crowdedProvider 1 1) "2026-03-01T00:00:00Z".toList
      "2026-03-02T00:00:00Z".toList sampleRequest :=
  calendar_accounting_iff sampleCalendar sampleCalendar_lawful (crowdedProvider 1 1) _ _ _
    (crowdedProvider_request (by decide))

theorem readLines_of_text {file : SourceFile} {text : Text} {lines : List Text} {length : Nat}
    (hopened : file.opened = .ok (true, length)) (hlength : length ≤ maxIcsBytes)
    (hcontent : file.content = .ok (utf8Bytes text))
    (hbytes : (utf8Bytes text).length ≤ maxIcsBytes)
    (hunfold : unfoldText text = .ok lines)
    (hfirst : lines.head? = some "BEGIN:VCALENDAR".toList)
    (hlast : lines.getLast? = some "END:VCALENDAR".toList) :
    readLines file = .ok lines := by
  have htake : (utf8Bytes text).take (maxIcsBytes + 1) = utf8Bytes text :=
    List.take_of_length_le (Nat.le_succ_of_le hbytes)
  unfold readLines
  rw [hopened]
  simp only
  rw [if_neg (by simp [hlength]), hcontent]
  simp only
  rw [htake, if_neg (Nat.not_lt.mpr hbytes), fromUtf8_utf8Bytes]
  simp only
  rw [hunfold]
  simp [hfirst, hlast]

/-- The lines of the event up to its end. -/
def eventLines (summary : Text) : List Text :=
  ["BEGIN:VCALENDAR".toList, "BEGIN:VEVENT".toList, "UID:u".toList, "SUMMARY:".toList ++ summary,
    "DTSTART:20260301T120000Z".toList, "DTEND:20260301T130000Z".toList]

def escapedSummary : Text :=
  List.replicate 700 (Char.ofNat 1)

theorem readLines_escapedSource :
    readLines escapedSource =
      .ok (eventLines escapedSummary ++ ["END:VEVENT".toList, "END:VCALENDAR".toList]) :=
  @readLines_of_text escapedSource escapedText _ escapedText.length rfl
    (by decide +kernel) rfl (by decide +kernel) (by decide +kernel) rfl rfl

def escapedRaw : RawEvent where
  uid := some ['u']
  summary := some escapedSummary
  location := none
  start := some ⟨⟨1772366400, by decide⟩, false, none⟩
  eventEnd := some ⟨⟨1772370000, by decide⟩, false, none⟩
  rule := none
  rdates := []
  exdates := []

def escapedEvent : CalendarEvent where
  id := "u@1772366400".toList
  summary := escapedSummary
  startsAt := "2026-03-01T12:00:00Z".toList
  endsAt := "2026-03-01T13:00:00Z".toList
  allDay := false
  sourceId := "full.ics".toList
  location := none

theorem foldlM_eventLines {bounds : Bounds} (summary : Text) :
    (eventLines summary).foldlM (addLine sampleCalendar "full.ics".toList bounds) ⟨none, [], 0⟩ =
      .ok ⟨some { escapedRaw with summary := some (unescape summary) }, [], 0⟩ :=
  rfl

theorem expand_escapedRaw :
    expand sampleCalendar.zoneinfo sampleCalendar.formatTime sampleCalendar.eventLength escapedRaw
      "full.ics".toList sampleRequest.windowStart sampleRequest.windowEnd
      sampleRequest.maxOccurrences 4338 = .ok ([escapedEvent], 4338) := by
  decide +kernel

theorem addLine_eventEnd {bounds : Bounds} (hbudget : 4338 ≤ bounds.byteBudget)
    (hwindow : bounds.windowStart = sampleRequest.windowStart ∧
      bounds.windowEnd = sampleRequest.windowEnd ∧
      bounds.limit = sampleRequest.maxOccurrences) :
    addLine sampleCalendar "full.ics".toList bounds ⟨some escapedRaw, [], 0⟩
      "END:VEVENT".toList = .ok ⟨none, [escapedEvent], 4338⟩ := by
  obtain ⟨hstart, hend, hlimit⟩ := hwindow
  have hexpand := @expand_of_le sampleCalendar _ _ (bounds.byteBudget - 0) _ _ _ _ _
    expand_escapedRaw hbudget
  rw [← hstart, ← hend, ← hlimit] at hexpand
  have hstep : addLine sampleCalendar "full.ics".toList bounds ⟨some escapedRaw, [], 0⟩
      "END:VEVENT".toList =
        endEvent sampleCalendar "full.ics".toList bounds ⟨some escapedRaw, [], 0⟩ escapedRaw := rfl
  rw [hstep, endEvent, hexpand]
  simp only
  rw [if_pos (by omega), if_neg]
  · rfl
  · rw [hlimit]
    decide

/-- The source has one event of 4338 bytes. -/
theorem parseSource_escapedSource {total : Nat} (htotal : total + 4338 + 2048 ≤ 2097152) :
    parseSource sampleCalendar escapedSource escapedSource.sourceId
      (sampleRequest.bounds total) = .ok ([escapedEvent], 4338) := by
  have hunescape : unescape escapedSummary = escapedSummary := by decide +kernel
  have hproperties := @foldlM_eventLines (sampleRequest.bounds total) escapedSummary
  rw [hunescape] at hproperties
  have hbudget : 4338 ≤ (sampleRequest.bounds total).byteBudget := by
    change 4338 ≤ 2097152 - total - 2048
    omega
  have hlines : (eventLines escapedSummary ++
      ["END:VEVENT".toList, "END:VCALENDAR".toList]).foldlM
        (addLine sampleCalendar "full.ics".toList (sampleRequest.bounds total))
        ⟨none, [], 0⟩ = .ok ⟨none, [escapedEvent], 4338⟩ := by
    rw [List.foldlM_append]
    refine Checks.bind_eq_ok_iff.mpr ⟨_, hproperties, ?_⟩
    exact Checks.bind_eq_ok_iff.mpr ⟨_, addLine_eventEnd hbudget ⟨rfl, rfl, rfl⟩, rfl⟩
  have hname : escapedSource.sourceId = "full.ics".toList := rfl
  rw [parseSource, readLines_escapedSource, hname]
  simp only [hlines]

/-- The bytes of the error of a missing file. -/
theorem parseSource_missingSource (total : Nat) :
    parseSource sampleCalendar missingSource missingSource.sourceId
      (sampleRequest.bounds total) =
        .error (.error ⟨.notFound, "No such file or directory (os error 2)"⟩) :=
  rfl

theorem missingSource_bytes :
    (boundedSourceError sampleCalendar missingSource.sourceId
      ⟨.notFound, "No such file or directory (os error 2)"⟩).2 = 77 := by
  decide

theorem errorsFit_escapedSources {events total : Nat} {rest : List SourceFile} (count : Nat)
    (hevents : events + count ≤ maxTotalEvents)
    (htotal : total + count * 4338 + 2048 ≤ 2097152)
    (h : ErrorsFit sampleCalendar sampleRequest events total
      (List.replicate count escapedSource ++ rest)) :
    ErrorsFit sampleCalendar sampleRequest (events + count) (total + count * 4338) rest := by
  induction count generalizing events total with
  | zero =>
      rw [Nat.zero_mul]
      exact h
  | succ count ih =>
      rw [List.replicate_succ, List.cons_append, ErrorsFit,
        parseSource_escapedSource (by omega)] at h
      simp only [List.length_singleton] at h
      have hrest := ih (by omega) (by omega) (h (by omega))
      have hcount : events + 1 + count = events + (count + 1) := by omega
      have hbytes : total + 4338 + count * 4338 = total + (count + 1) * 4338 := by omega
      rw [hcount, hbytes] at hrest
      exact hrest

theorem errorsFit_missingSources {events total : Nat} (count : Nat)
    (htotal : total ≤ maxSnapshotBytes)
    (h : ErrorsFit sampleCalendar sampleRequest events total
      (List.replicate count missingSource)) :
    total + count * 78 ≤ maxSnapshotBytes := by
  induction count generalizing total with
  | zero => exact htotal
  | succ count ih =>
      rw [List.replicate_succ, ErrorsFit, parseSource_missingSource] at h
      simp only [missingSource_bytes] at h
      have hrest := ih h.2.1 h.2.2
      omega

/-- The errors of the missing files come after the events of the others. -/
theorem crowdedProvider_not_fit {full missing : Nat} (hevents : full ≤ maxTotalEvents)
    (hfull : 146 + full * 4338 + 2048 ≤ 2097152)
    (hmissing : 2097152 < 146 + full * 4338 + missing * 78) :
    ¬ ErrorsFit sampleCalendar sampleRequest 0 146 (crowdedProvider full missing).sources := by
  intro h
  have hrest := errorsFit_escapedSources full (by omega) hfull h
  have hmax : maxSnapshotBytes = 2097152 := rfl
  have hbytes := errorsFit_missingSources missing (by omega) hrest
  omega

theorem crowdedProvider_fails {full missing : Nat}
    (hcount : full + missing ≤ maxCalendarSources)
    (hfull : 146 + full * 4338 + 2048 ≤ 2097152)
    (hmissing : 2097152 < 146 + full * 4338 + missing * 78) :
    ¬ Survives ((crowdedProvider full missing).snapshotControlled sampleCalendar
      "2026-03-01T00:00:00Z".toList "2026-03-02T00:00:00Z".toList) := by
  have hstart : sampleCalendar.snapshotLength (calendarSnapshot sampleCalendar
      "2026-03-01T00:00:00Z".toList "2026-03-02T00:00:00Z".toList [] []) = 146 := by
    decide
  have hevents : full ≤ maxTotalEvents := by
    unfold maxCalendarSources at hcount
    unfold maxTotalEvents
    omega
  rw [survives_snapshotControlled_iff sampleCalendar_lawful (crowdedProvider_request hcount),
    hstart]
  exact crowdedProvider_not_fit hevents hfull hmissing

/-- After 482 files with an event each, 79 missing files turn the snapshot into an error. -/
theorem failing_sources_fail_snapshot :
    ¬ ∀ (provider : IcsCalendarProvider) (windowStart windowEnd : Text) (request : Request),
      CanonicalRequest sampleCalendar provider windowStart windowEnd request →
        Survives (provider.snapshotControlled sampleCalendar windowStart windowEnd) := by
  intro hclaim
  have hcount : 482 + 79 ≤ maxCalendarSources := by decide
  exact crowdedProvider_fails hcount (by decide) (by decide)
    (hclaim (crowdedProvider 482 79) _ _ sampleRequest (crowdedProvider_request hcount))

end Sample

end Calendar
end SleepySession
