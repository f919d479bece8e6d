import SleepySession.Lib.Checks
import SleepySession.Lib.Separated
import SleepySession.Calendar.Snapshot

/-!
# The bytes of a calendar snapshot

Every event and every error is counted with a comma.  A source counts the events
that it emits, within the budget it was given; an error that takes too many bytes
is replaced.
-/

namespace SleepySession
namespace Calendar

variable {sdk : CalendarSdk}

section Messages

theorem backToBoundary_le (message : Text) (boundary : Nat) :
    backToBoundary message boundary ≤ boundary := by
  induction boundary with
  | zero => exact Nat.le_refl 0
  | succ boundary ih =>
      unfold backToBoundary
      split
      · exact Nat.le_refl _
      · exact ih.trans (Nat.le_succ _)

theorem byteLength_sliceTo (message : Text) (boundary : Nat) :
    (sliceTo message boundary).byteLength ≤ boundary := by
  induction message generalizing boundary with
  | nil => exact Nat.zero_le _
  | cons c message ih =>
      unfold sliceTo
      split
      · exact Nat.zero_le _
      · rename_i hsize
        have hrest := ih (boundary - c.utf8Size)
        have hcons : Text.byteLength (c :: sliceTo message (boundary - c.utf8Size)) =
            c.utf8Size + Text.byteLength (sliceTo message (boundary - c.utf8Size)) := rfl
        rw [hcons]
        omega

theorem byteLength_boundedErrorMessage (message : Text) :
    (boundedErrorMessage message).byteLength ≤ maxSourceErrorMessageBytes := by
  unfold boundedErrorMessage
  split
  · assumption
  · exact (byteLength_sliceTo _ _).trans (backToBoundary_le _ _)

/-- What the libraries promise: the elements of the arrays are written with commas between
them, and the constant parts are short. -/
structure CalendarSdk.Lawful (sdk : CalendarSdk) : Prop where
  arrays : ∀ windowStart windowEnd events sourceErrors,
    sdk.snapshotLength (calendarSnapshot sdk windowStart windowEnd events sourceErrors) =
      sdk.snapshotLength (calendarSnapshot sdk windowStart windowEnd [] []) +
        separatedLength sdk.eventLength events + separatedLength sdk.errorLength sourceErrors
  window : ∀ start ends, sdk.snapshotLength
    (calendarSnapshot sdk (sdk.formatTime start) (sdk.formatTime ends) [] []) ≤ maxSnapshotBytes
  replaced : sdk.errorLength replacedError ≤ sourceErrorBudget

/-- An error with a short message and a short text, and its bytes. -/
structure BoundedError (sdk : CalendarSdk) (error : CalendarSourceError × Nat) : Prop where
  bytes : error.2 = sdk.errorLength error.1
  bounded : sdk.errorLength error.1 ≤ sourceErrorBudget
  message : error.1.message.byteLength ≤ maxSourceErrorMessageBytes

theorem byteLength_replacedError :
    replacedError.message.byteLength ≤ maxSourceErrorMessageBytes := by
  decide

theorem boundedError_boundedSourceError (hlawful : sdk.Lawful) (sourceId : Text)
    (error : IoError) : BoundedError sdk (boundedSourceError sdk sourceId error) := by
  unfold boundedSourceError
  simp only
  split
  · exact ⟨rfl, hlawful.replaced, byteLength_replacedError⟩
  · rename_i hbytes
    exact ⟨rfl, Nat.not_lt.mp hbytes, byteLength_boundedErrorMessage _⟩

end Messages

section Sources

variable {sourceId : Text} {bounds : Bounds} {source : SourceFile}

/-- The loop over the occurrences counts what it emits, within its budget. -/
theorem emit_charged {raw : RawEvent} {i : Interval} {windowStart windowEnd : DateTime}
    {byteBudget : Nat} {starts : List Start} {events : List CalendarEvent} {bytes : Nat}
    {result : List CalendarEvent × Nat}
    (hbytes : bytes = charged sdk.eventLength events) (hbudget : bytes ≤ byteBudget)
    (h : emit sdk.zoneinfo sdk.formatTime sdk.eventLength raw sourceId i windowStart windowEnd
      byteBudget starts events bytes = .ok result) :
    result.2 = charged sdk.eventLength result.1 ∧ result.2 ≤ byteBudget := by
  induction starts generalizing events bytes with
  | nil =>
      cases h
      exact ⟨hbytes, hbudget⟩
  | cons start rest ih =>
      unfold emit at h
      split at h
      · exact ih hbytes hbudget h
      split at h
      · cases h
      split at h
      · simp only at h
        split at h
        · rename_i hused
          refine ih ?_ hused h
          rw [charged_append, charged_singleton, hbytes]
        · cases h
      · exact ih hbytes hbudget h

theorem expand_charged {raw : RawEvent} {windowStart windowEnd : DateTime}
    {limit byteBudget : Nat} {result : List CalendarEvent × Nat}
    (h : expand sdk.zoneinfo sdk.formatTime sdk.eventLength raw sourceId windowStart windowEnd
      limit byteBudget = .ok result) :
    result.2 = charged sdk.eventLength result.1 ∧ result.2 ≤ byteBudget := by
  unfold expand at h
  split at h
  · cases h
  split at h
  · cases h
  exact emit_charged rfl (Nat.zero_le _) h

/-- The invariant of the loop over the lines. -/
structure LineState.Charged (sdk : CalendarSdk) (bounds : Bounds) (s : LineState) : Prop where
  bytes : s.parsedBytes = charged sdk.eventLength s.parsed
  budget : s.parsedBytes ≤ bounds.byteBudget

theorem charged_endEvent {s s' : LineState} {event : RawEvent}
    (hs : s.Charged sdk bounds) (h : endEvent sdk sourceId bounds s event = .ok s') :
    s'.Charged sdk bounds := by
  unfold endEvent at h
  split at h
  · cases h
  rename_i expanded expandedBytes hexpand
  split at h
  · rename_i hbudget
    split at h
    · cases h
    · cases h
      have hexpanded : expandedBytes = charged sdk.eventLength expanded :=
        (expand_charged hexpand).1
      refine ⟨?_, hbudget⟩
      rw [charged_append, hs.bytes, hexpanded]
  · cases h

theorem charged_addLine {s s' : LineState} {line : Text}
    (hs : s.Charged sdk bounds) (h : addLine sdk sourceId bounds s line = .ok s') :
    s'.Charged sdk bounds := by
  unfold addLine at h
  split at h
  · split at h
    · cases h
    · cases h
      exact ⟨hs.bytes, hs.budget⟩
  split at h
  · split at h
    · cases h
    · exact charged_endEvent hs h
  split at h
  · cases h
    exact hs
  split at h
  · cases h
  · cases h
    exact ⟨hs.bytes, hs.budget⟩

/-- A source counts its events, within its budget. -/
theorem parseSource_charged {events : List CalendarEvent} {bytes : Nat}
    (h : parseSource sdk source sourceId bounds = .ok (events, bytes)) :
    bytes = charged sdk.eventLength events ∧ bytes ≤ bounds.byteBudget := by
  unfold parseSource at h
  split at h
  · cases h
  split at h
  · cases h
  rename_i s hlines
  split at h
  · cases h
  · cases h
    have hs : s.Charged sdk bounds :=
      Checks.foldlM_invariant (LineState.Charged sdk bounds)
        (fun _ _ _ hs hline => charged_addLine hs hline) _ _ _ ⟨rfl, Nat.zero_le _⟩ hlines
    exact ⟨hs.bytes, hs.budget⟩

end Sources

section Budgets

variable {sourceId : Text} {byteBudget byteBudget' : Nat}

/-- What is emitted within one budget is emitted within every budget that has its bytes. -/
theorem emit_of_le {raw : RawEvent} {i : Interval} {windowStart windowEnd : DateTime}
    {starts : List Start} {events : List CalendarEvent} {bytes : Nat}
    {result : List CalendarEvent × Nat}
    (h : emit sdk.zoneinfo sdk.formatTime sdk.eventLength raw sourceId i windowStart windowEnd
      byteBudget starts events bytes = .ok result) :
    bytes ≤ result.2 ∧ (result.2 ≤ byteBudget' →
      emit sdk.zoneinfo sdk.formatTime sdk.eventLength raw sourceId i windowStart windowEnd
        byteBudget' starts events bytes = .ok result) := by
  induction starts generalizing events bytes with
  | nil =>
      cases h
      exact ⟨Nat.le_refl _, fun _ => rfl⟩
  | cons start rest ih =>
      unfold emit at h ⊢
      by_cases hexcluded : start.1 ∈ raw.exdates
      · rw [if_pos hexcluded] at h
        simp only [if_pos hexcluded]
        exact ih h
      rw [if_neg hexcluded] at h
      simp only [if_neg hexcluded]
      cases hend : occurrenceEnd sdk.zoneinfo i.duration i.civilDuration start with
      | error failure =>
          rw [hend] at h
          cases h
      | ok endsAt =>
          rw [hend] at h
          simp only at h ⊢
          by_cases hvisible : windowStart.val < endsAt.val ∧ start.1.val < windowEnd.val
          · rw [if_pos hvisible] at h
            rw [if_pos hvisible]
            split at h
            · obtain ⟨hle, hmore⟩ := ih h
              refine ⟨(Nat.le_add_right _ _).trans hle, ?_⟩
              intro hbudget
              rw [if_pos (hle.trans hbudget)]
              exact hmore hbudget
            · cases h
          · rw [if_neg hvisible] at h
            rw [if_neg hvisible]
            exact ih h

theorem expand_of_le {raw : RawEvent} {windowStart windowEnd : DateTime} {limit : Nat}
    {result : List CalendarEvent × Nat}
    (h : expand sdk.zoneinfo sdk.formatTime sdk.eventLength raw sourceId windowStart windowEnd
      limit byteBudget = .ok result) (hbudget : result.2 ≤ byteBudget') :
    expand sdk.zoneinfo sdk.formatTime sdk.eventLength raw sourceId windowStart windowEnd
      limit byteBudget' = .ok result := by
  unfold expand at h ⊢
  cases hinterval : interval raw with
  | error failure =>
      rw [hinterval] at h
      cases h
  | ok i =>
      rw [hinterval] at h
      simp only at h ⊢
      cases hstarts : allStarts sdk.zoneinfo raw.rule raw.rdates
          (i.start.instant, i.start.civil) windowEnd limit with
      | error e =>
          rw [hstarts] at h
          cases h
      | ok starts =>
          rw [hstarts] at h
          exact (emit_of_le h).2 hbudget

end Budgets

end Calendar
end SleepySession
