import SleepySession.Sessiond.AudioMonitor

/-!
# Framing of the pw-dump stream

What the monitor has made of a stream is determined by its bytes alone: complete
arrays with white space between them, and at the end a frame that is still open
within the limits.  How the stream was cut into reads does not matter.
-/

namespace SleepySession
namespace AudioMonitor

open Checks (Along Reported along_append reported_append bind_eq_ok_iff reportM_append)
open JsonText (Scan ArrayText Document openArray closeArray quote opens closes ascii)

section Events

/-- What an object counts as after an event that names it. -/
def kindAfter (objects : Objects) (id : UInt32) (event : Json) : Option Bool :=
  if isRemoval event then none
  else match (event.get "type").bind Json.asStr with
    | some type => typeKind type
    | none => objects.get? id

def updateObjects (objects : Objects) (event : Json) : Objects :=
  match eventId event with
  | none => objects
  | some id =>
      match kindAfter objects id event with
      | some metadata => objects.insert id metadata
      | none => objects.remove id

/-- A change of a node or a device, of the defaults, or the removal of an object
that was retained. -/
def relevant (objects : Objects) (event : Json) : Bool :=
  (eventId event).any fun id =>
    match kindAfter objects id event with
    | some true => announcesDefault event
    | some false => true
    | none => isRemoval event && objects.contains id

/-- The event names an object, and there is room to retain it. -/
def Tracked (objects : Objects) (event : Json) : Prop :=
  ∃ id, eventId event = some id ∧
    ∀ metadata, kindAfter objects id event = some metadata →
      (objects.insert id metadata).entries.length ≤ maxObjects

variable {objects : Objects} {event : Json} {r : Objects × Bool}

theorem remove_of_get?_eq_none {id : UInt32} (h : objects.get? id = none) :
    objects.remove id = objects := by
  obtain ⟨entries, nodup⟩ := objects
  have hkeep : ∀ e ∈ entries, e.1 ≠ id := by
    rintro ⟨k, a⟩ he rfl
    have hsome := (Table.get?_eq_some_iff (t := ⟨entries, nodup⟩)).mpr he
    rw [h] at hsome
    cases hsome
  simp only [Table.remove, Table.retain, Table.mk.injEq]
  exact List.filter_eq_self.mpr fun e he => by simpa using hkeep e he

theorem retainObject_eq_ok_iff {id : UInt32} {metadata : Bool} :
    retainObject objects id metadata event = .ok r ↔
      (objects.insert id metadata).entries.length ≤ maxObjects ∧
        r = (objects.insert id metadata, if metadata then announcesDefault event else true) := by
  unfold retainObject
  by_cases hroom : maxObjects < (objects.insert id metadata).entries.length
  · simp [hroom, invalid]
  · cases metadata <;> simp [hroom, Nat.le_of_not_lt hroom, eq_comm]

theorem applyEvent_eq_ok_iff :
    applyEvent objects event = .ok r ↔
      Tracked objects event ∧ r = (updateObjects objects event, relevant objects event) := by
  unfold applyEvent Tracked updateObjects relevant kindAfter
  cases hid : eventId event with
  | none => simp [invalid]
  | some id =>
      by_cases hremoval : isRemoval event = true
      · simp [hremoval, eq_comm]
      · cases htype : (event.get "type").bind Json.asStr with
        | some type =>
            cases hkind : typeKind type with
            | none => simp [hremoval, hkind, eq_comm]
            | some metadata =>
                cases metadata <;> simp [hremoval, hkind, retainObject_eq_ok_iff]
        | none =>
            cases hkind : objects.get? id with
            | none => simp [hremoval, hkind, remove_of_get?_eq_none hkind, eq_comm]
            | some metadata =>
                cases metadata <;> simp [hremoval, hkind, retainObject_eq_ok_iff]

theorem batch_eq_ok_iff {value : Json} :
    batch objects value = .ok r ↔
      ∃ events, value = .array events ∧ Along Tracked updateObjects objects events ∧
        r = (events.foldl updateObjects objects,
          Reported relevant updateObjects objects events) := by
  unfold batch
  cases value with
  | array events =>
      simp only [Json.asArray, Json.array.injEq, exists_eq_left']
      exact Checks.reportM_eq_ok_iff fun _ _ _ => applyEvent_eq_ok_iff
  | _ => simp [Json.asArray, invalid]

end Events

section Scanning

def Monitor.scan (m : Monitor) : Scan :=
  ⟨m.depth, m.quoted, m.escaped⟩

/-- The monitor with more in its open frame. -/
def Monitor.extend (m : Monitor) (bytes : List UInt8) (s : Scan) : Monitor :=
  { m with
    frame := m.frame ++ bytes
    depth := s.depth
    quoted := s.quoted
    escaped := s.escaped }

@[simp] theorem Monitor.scan_extend (m : Monitor) (bytes : List UInt8) (s : Scan) :
    (m.extend bytes s).scan = s :=
  rfl

@[simp] theorem Monitor.frame_extend (m : Monitor) (bytes : List UInt8) (s : Scan) :
    (m.extend bytes s).frame = m.frame ++ bytes :=
  rfl

theorem Monitor.extend_extend (m : Monitor) (bytes bytes' : List UInt8) (s s' : Scan) :
    (m.extend bytes s).extend bytes' s' = m.extend (bytes ++ bytes') s' := by
  simp [Monitor.extend]

variable {parse : List UInt8 → Option Json} {m : Monitor} {byte : UInt8} {bytes : List UInt8}
variable {s : Scan} {r : Monitor × Bool}

/-- A byte after which the frame is still open. -/
theorem scanByte_of_step (h : m.scan.step maxDepth byte = some s) :
    scanByte parse m byte = .ok (m.extend [] s, false) := by
  obtain ⟨frame, depth, quoted, escaped, objects, yielded⟩ := m
  change Scan.step maxDepth ⟨depth, quoted, escaped⟩ byte = some s at h
  rw [Scan.step_mk] at h
  simp only [scanByte, Monitor.extend, List.append_nil]
  split_ifs at h ⊢ <;> first
    | omega
    | (cases h; rfl)

/-- A byte that breaks the limit or closes the frame. -/
theorem scanByte_of_step_none (hdepth : 1 ≤ m.depth) (h : m.scan.step maxDepth byte = none) :
    (opens byte = true ∧ scanByte parse m byte = invalid "pw-dump nesting exceeds bound") ∨
      (closes byte = true ∧ m.depth = 1 ∧ m.quoted = false ∧
        scanByte parse m byte = closeFrame parse { m with depth := 0 }) := by
  obtain ⟨frame, depth, quoted, escaped, objects, yielded⟩ := m
  change 1 ≤ depth at hdepth
  change Scan.step maxDepth ⟨depth, quoted, escaped⟩ byte = none at h
  rw [Scan.step_mk] at h
  split_ifs at h with hquoted hescaped hback hquote hstart hopens hlimit hcloses hlast
  · refine Or.inl ⟨hopens, ?_⟩
    have hover : maxDepth < depth + 1 := by omega
    simp [scanByte, hquoted, hstart, hopens, hover]
  · have hone : depth = 1 := by omega
    subst hone
    refine Or.inr ⟨hcloses, rfl, by simpa using hquoted, ?_⟩
    simp [scanByte, hquoted, hstart, hopens, hcloses]

/-- A byte inside an open frame is pushed and scanned. -/
theorem feedByte_open (hframe : m.frame ≠ []) (hroom : m.frame.length < maxFrame) :
    feedByte parse m byte = scanByte parse { m with frame := m.frame ++ [byte] } byte := by
  have hnonempty : m.frame.isEmpty = false := by simpa using hframe
  simp [feedByte, hnonempty, hroom.ne]

theorem feedByte_full (hframe : m.frame ≠ []) (hfull : m.frame.length = maxFrame) :
    feedByte parse m byte = invalid "pw-dump frame exceeds 1 MiB" := by
  have hnonempty : m.frame.isEmpty = false := by simpa using hframe
  simp [feedByte, hnonempty, hfull]

theorem feedByte_of_step (hframe : m.frame ≠ []) (hroom : m.frame.length < maxFrame)
    (h : m.scan.step maxDepth byte = some s) :
    feedByte parse m byte = .ok (m.extend [byte] s, false) := by
  rw [feedByte_open hframe hroom]
  have hbyte := @scanByte_of_step parse { m with frame := m.frame ++ [byte] } byte s h
  rw [hbyte]
  simp [Monitor.extend]

theorem feed_cons :
    feed parse m (byte :: bytes) =
      (feedByte parse m byte >>= fun r =>
        (feed parse r.1 bytes).map fun r' => (r'.1, r.2 || r'.2)) := by
  rw [feed, ← List.singleton_append, reportM_append, Checks.reportM_singleton]
  rfl

/-- Bytes through which the scan goes. -/
theorem feed_open (hframe : m.frame ≠ []) (hroom : m.frame.length + bytes.length ≤ maxFrame)
    (h : JsonText.scan maxDepth m.scan bytes = some s) :
    feed parse m bytes = .ok (m.extend bytes s, false) := by
  induction bytes generalizing m with
  | nil =>
      obtain rfl := Option.some.inj h
      simp [feed, Monitor.extend, Monitor.scan]
  | cons byte bytes ih =>
      rw [JsonText.scan_cons] at h
      obtain ⟨next, hstep, hrest⟩ := Option.bind_eq_some_iff.mp h
      rw [List.length_cons] at hroom
      have hbyte := @feedByte_of_step parse m byte next hframe (by omega) hstep
      have hlength : (m.extend [byte] next).frame.length + bytes.length ≤ maxFrame := by
        simp
        omega
      rw [feed_cons, hbyte]
      change (feed parse (m.extend [byte] next) bytes).map _ = _
      rw [ih (by simp) hlength hrest, Monitor.extend_extend]
      rfl

end Scanning

section Streams

/-- Arrays within the limits, with white space around them. -/
inductive Stream : List UInt8 → List (List UInt8) → Prop where
  | done : Stream [] []
  | blank {byte : UInt8} {bytes : List UInt8} {frames : List (List UInt8)}
      (hblank : isAsciiWhitespace byte = true) (rest : Stream bytes frames) :
      Stream (byte :: bytes) frames
  | array {frame bytes : List UInt8} {frames : List (List UInt8)}
      (harray : ArrayText maxDepth frame) (hlength : frame.length ≤ maxFrame)
      (rest : Stream bytes frames) :
      Stream (frame ++ bytes) (frame :: frames)

/-- What stands behind the last array: nothing, or a frame that is open within
the limits, with the state of its scan. -/
inductive OpenFrame : List UInt8 → Scan → Prop where
  | idle : OpenFrame [] (.outside 0)
  | opened {bytes : List UInt8} {s : Scan}
      (hscan : JsonText.scan maxDepth (.outside 1) bytes = some s)
      (hlength : bytes.length + 1 ≤ maxFrame) :
      OpenFrame (openArray :: bytes) s

/-- The events of each frame. -/
def Decoded (parse : List UInt8 → Option Json) (frames : List (List UInt8))
    (batches : List (List Json)) : Prop :=
  List.Forall₂ (fun frame events => parse frame = some (.array events)) frames batches

variable {parse : List UInt8 → Option Json} {m m' : Monitor} {byte : UInt8}
variable {bytes bytes' rest : List UInt8} {frames frames' : List (List UInt8)}
variable {batches : List (List Json)} {s : Scan} {changed changed' : Bool}

theorem Stream.append (h : Stream bytes frames) (h' : Stream bytes' frames') :
    Stream (bytes ++ bytes') (frames ++ frames') := by
  induction h with
  | done => exact h'
  | blank hblank _ ih => exact .blank hblank ih
  | array harray hlength _ ih =>
      rw [List.append_assoc]
      exact .array harray hlength ih

/-- No frame is open. -/
def Monitor.Idle (m : Monitor) : Prop :=
  m.frame = [] ∧ m.scan = .outside 0

/-- The bracket that opens a frame. -/
theorem feedByte_begin (h : m.Idle) :
    feedByte parse m openArray = .ok (m.extend [openArray] (.outside 1), false) := by
  obtain ⟨frame, depth, quoted, escaped, objects, yielded⟩ := m
  obtain ⟨hframe, hscan⟩ := h
  cases hframe
  cases hscan
  rfl

theorem feedByte_blank (h : m.Idle) (hblank : isAsciiWhitespace byte = true) :
    feedByte parse m byte = .ok (m, false) := by
  simp [feedByte, h.1, hblank]

theorem feed_begin (h : m.Idle) (hscan : JsonText.scan maxDepth (.outside 1) bytes = some s)
    (hlength : bytes.length + 1 ≤ maxFrame) :
    feed parse m (openArray :: bytes) = .ok (m.extend (openArray :: bytes) s, false) := by
  have hroom : (m.extend [openArray] (.outside 1)).frame.length + bytes.length ≤ maxFrame := by
    rw [Monitor.frame_extend, h.1]
    simp
    omega
  rw [feed_cons, feedByte_begin h]
  change (feed parse (m.extend [openArray] (.outside 1)) bytes).map _ = _
  rw [feed_open (by simp) hroom hscan, Monitor.extend_extend]
  rfl

/-- The monitor behind a frame with these events. -/
def Monitor.after (m : Monitor) (frame : List UInt8) (events : List Json) : Monitor :=
  { m with
    frame := []
    depth := 0
    quoted := false
    escaped := false
    objects := events.foldl updateObjects m.objects
    yielded := m.yielded ++ [frame] }

theorem Monitor.idle_after (m : Monitor) (frame : List UInt8) (events : List Json) :
    (m.after frame events).Idle :=
  ⟨rfl, rfl⟩

/-- The bracket that closes a frame. -/
theorem feedByte_end (hframe : m.frame ≠ []) (hroom : m.frame.length < maxFrame)
    (hscan : m.scan = .outside 1) (hbyte : closes byte = true)
    {r : Monitor × Bool} :
    feedByte parse m byte = .ok r ↔
      ∃ events, parse (m.frame ++ [byte]) = some (.array events) ∧
        Along Tracked updateObjects m.objects events ∧
        r = (m.after (m.frame ++ [byte]) events,
          Reported relevant updateObjects m.objects events) := by
  obtain ⟨frame, depth, quoted, escaped, objects, yielded⟩ := m
  cases hscan
  have hquote : byte ≠ quote := by
    rintro rfl
    exact absurd hbyte (by decide)
  have hopens : opens byte = false := by
    rcases Bool.or_eq_true _ _ ▸ hbyte with hb | hb <;>
      · rw [eq_of_beq hb]
        decide
  rw [feedByte_open hframe hroom]
  simp only [scanByte, hquote, hopens, hbyte, if_true, if_false, Bool.false_eq_true, closeFrame,
    Nat.sub_self, Nat.one_ne_zero]
  cases hparse : parse (frame ++ [byte]) with
  | none => simp [invalid]
  | some value =>
      rw [bind_eq_ok_iff]
      simp only [batch_eq_ok_iff, Option.some.injEq]
      constructor
      · rintro ⟨_, ⟨events, rfl, htracked, rfl⟩, hr⟩
        exact ⟨events, rfl, htracked, (Except.ok.inj hr).symm⟩
      · rintro ⟨events, rfl, htracked, rfl⟩
        exact ⟨_, ⟨events, rfl, htracked, rfl⟩, rfl⟩

theorem feed_append :
    feed parse m (bytes ++ bytes') =
      (feed parse m bytes >>= fun r =>
        (feed parse r.1 bytes').map fun r' => (r'.1, r.2 || r'.2)) :=
  reportM_append

/-- Bytes that follow accepted ones. -/
theorem feed_append_of_ok (h : feed parse m bytes = .ok (m', changed)) :
    feed parse m (bytes ++ bytes') =
      (feed parse m' bytes').map fun r => (r.1, changed || r.2) := by
  rw [feed_append, h]
  rfl

theorem feed_frame {frame : List UInt8} {events : List Json} (h : m.Idle)
    (harray : ArrayText maxDepth frame) (hlength : frame.length ≤ maxFrame)
    (hparse : parse frame = some (.array events))
    (htracked : Along Tracked updateObjects m.objects events) :
    feed parse m frame =
      .ok (m.after frame events, Reported relevant updateObjects m.objects events) := by
  obtain ⟨inner, rfl, hscan⟩ := harray.scan
  simp only [List.length_cons, List.length_append, List.length_nil] at hlength
  have hopen : feed parse m (openArray :: inner) =
      .ok (m.extend (openArray :: inner) (.outside 1), false) :=
    feed_begin h hscan (by omega)
  have hframe : (m.extend (openArray :: inner) (.outside 1)).frame = openArray :: inner := by
    rw [Monitor.frame_extend, h.1, List.nil_append]
  have hclose : feedByte parse (m.extend (openArray :: inner) (.outside 1)) closeArray =
      .ok (m.after (openArray :: (inner ++ [closeArray])) events,
        Reported relevant updateObjects m.objects events) := by
    rw [feedByte_end (by simp) (by rw [hframe]; simp; omega) rfl (by decide), hframe]
    exact ⟨events, hparse, htracked, rfl⟩
  rw [← List.cons_append, feed_append_of_ok hopen, feed, Checks.reportM_singleton, hclose]
  simp [Except.map]

/-- The arrays of a stream are handed to `batch` one after the other. -/
theorem feed_stream (h : Stream bytes frames) (hdecoded : Decoded parse frames batches)
    (hidle : m.Idle) (htracked : Along Tracked updateObjects m.objects batches.flatten) :
    ∃ m', feed parse m bytes =
        .ok (m', Reported relevant updateObjects m.objects batches.flatten) ∧
      m'.Idle ∧ m'.objects = batches.flatten.foldl updateObjects m.objects ∧
      m'.yielded = m.yielded ++ frames := by
  induction h generalizing m batches with
  | done =>
      cases hdecoded
      exact ⟨m, rfl, hidle, rfl, (List.append_nil _).symm⟩
  | blank hblank _ ih =>
      obtain ⟨m', hfeed, hm'⟩ := ih hdecoded hidle htracked
      refine ⟨m', ?_, hm'⟩
      rw [feed_cons, feedByte_blank hidle hblank]
      change (feed parse m _).map _ = _
      rw [hfeed]
      rfl
  | @array frame bytes frames harray hlength _ ih =>
      cases hdecoded with
      | @cons _ events _ batches hparse hdecoded =>
          rw [List.flatten_cons, along_append] at htracked
          have hframe := feed_frame hidle harray hlength hparse htracked.1
          obtain ⟨m', hfeed, hidle', hobjects, hyielded⟩ :=
            ih hdecoded (m.idle_after frame events) htracked.2
          refine ⟨m', ?_, hidle', ?_, ?_⟩
          · rw [feed_append_of_ok hframe, hfeed, List.flatten_cons, reported_append]
            rfl
          · rw [hobjects, List.flatten_cons, List.foldl_append]
            rfl
          · rw [hyielded, Monitor.after, List.append_assoc, List.singleton_append]

/-- What a monitor has made of a stream: `complete` is the part up to the last
array, with the events `batches`. -/
structure Accounts (parse : List UInt8 → Option Json) (bytes complete : List UInt8)
    (batches : List (List Json)) (m : Monitor) (changed : Bool) : Prop where
  split : bytes = complete ++ m.frame
  stream : Stream complete m.yielded
  openFrame : OpenFrame m.frame m.scan
  decoded : Decoded parse m.yielded batches
  tracked : Along Tracked updateObjects .empty batches.flatten
  objects : m.objects = batches.flatten.foldl updateObjects .empty
  changed : changed = Reported relevant updateObjects .empty batches.flatten

def Accepted (parse : List UInt8 → Option Json) (bytes : List UInt8) (m : Monitor)
    (changed : Bool) : Prop :=
  ∃ complete batches, Accounts parse bytes complete batches m changed

section Steps

variable {complete : List UInt8}

/-- Outside a frame a byte is white space or opens an array. -/
theorem accepted_idle (h : Accounts parse bytes complete batches m changed) (hidle : m.Idle)
    (hstep : feedByte parse m byte = .ok (m', changed')) :
    Accepted parse (bytes ++ [byte]) m' (changed || changed') := by
  by_cases hblank : isAsciiWhitespace byte = true
  · rw [feedByte_blank hidle hblank] at hstep
    cases hstep
    refine ⟨complete ++ [byte], batches, { h with split := ?_, stream := ?_, changed := ?_ }⟩
    · rw [h.split, hidle.1]
      simp
    · have hmore := h.stream.append (.blank hblank .done)
      rwa [List.append_nil] at hmore
    · rw [Bool.or_false, h.changed]
  · by_cases hopen : byte = openArray
    · rw [hopen, feedByte_begin hidle] at hstep
      cases hstep
      refine ⟨complete, batches, { h with split := ?_, openFrame := ?_, changed := ?_ }⟩
      · rw [h.split, hidle.1, hopen, Monitor.frame_extend, hidle.1]
        simp
      · rw [Monitor.frame_extend, hidle.1]
        exact .opened rfl (by decide)
      · rw [Bool.or_false, h.changed]
    · simp [feedByte, hidle.1, hblank, hopen, invalid] at hstep

theorem closes_of_step_none (hframe : m.frame ≠ []) (hroom : m.frame.length < maxFrame)
    (hinside : m.scan.Inside) (hnext : m.scan.step maxDepth byte = none)
    (hstep : feedByte parse m byte = .ok (m', changed')) :
    closes byte = true ∧ m.scan = .outside 1 := by
  rw [feedByte_open hframe hroom] at hstep
  have hcases :=
    @scanByte_of_step_none parse { m with frame := m.frame ++ [byte] } byte hinside.1 hnext
  rcases hcases with ⟨-, hover⟩ | ⟨hbyte, hdepth, hquoted, -⟩
  · rw [hover] at hstep
    cases hstep
  · refine ⟨hbyte, ?_⟩
    have hescaped : m.escaped = false := hinside.2 hquoted
    have hone : m.depth = 1 := hdepth
    have houtside : m.quoted = false := hquoted
    rw [Monitor.scan, hone, houtside, hescaped, Scan.outside]

/-- Inside a frame a byte keeps it open or closes it. -/
theorem accepted_inside
    (hsound : ∀ frame value, parse frame = some value → Document frame) {inner : List UInt8}
    (h : Accounts parse bytes complete batches m changed) (hframe : m.frame = openArray :: inner)
    (hscan : JsonText.scan maxDepth (.outside 1) inner = some m.scan)
    (hlength : m.frame.length ≤ maxFrame) (hstep : feedByte parse m byte = .ok (m', changed')) :
    Accepted parse (bytes ++ [byte]) m' (changed || changed') := by
  have hnonempty : m.frame ≠ [] := by simp [hframe]
  have hroom : m.frame.length < maxFrame := by
    refine lt_of_le_of_ne hlength fun hfull => ?_
    rw [feedByte_full hnonempty hfull] at hstep
    cases hstep
  cases hnext : m.scan.step maxDepth byte with
  | some next =>
      rw [feedByte_of_step hnonempty hroom hnext] at hstep
      cases hstep
      refine ⟨complete, batches, { h with split := ?_, openFrame := ?_, changed := ?_ }⟩
      · rw [h.split, Monitor.frame_extend, List.append_assoc]
      · rw [Monitor.frame_extend, hframe, List.cons_append]
        refine .opened ?_ ?_
        · rw [JsonText.scan_append, hscan]
          simpa using hnext
        · rw [hframe] at hroom
          simpa using hroom
      · rw [Bool.or_false, h.changed]
  | none =>
      have hinside : m.scan.Inside :=
        Scan.Inside.scan (s := .outside 1) ⟨le_rfl, fun _ => rfl⟩ hscan
      obtain ⟨hbyte, hlast⟩ := closes_of_step_none hnonempty hroom hinside hnext hstep
      obtain ⟨events, hparse, htracked, hr⟩ :=
        (feedByte_end hnonempty hroom hlast hbyte).mp hstep
      cases hr
      have harray : ArrayText maxDepth (m.frame ++ [byte]) := by
        have hdocument := hsound _ _ hparse
        rw [hframe] at hdocument ⊢
        exact .of_scan hdocument hbyte (by decide) hscan
      have hlength' : (m.frame ++ [byte]).length ≤ maxFrame := by
        simpa using hroom
      have hflatten : (batches ++ [events]).flatten = batches.flatten ++ events := by simp
      refine ⟨complete ++ (m.frame ++ [byte]), batches ++ [events], ?_, ?_, .idle, ?_, ?_, ?_, ?_⟩
      · rw [h.split, List.append_assoc]
        exact (List.append_nil _).symm
      · have hmore := h.stream.append (.array harray hlength' .done)
        rwa [List.append_nil] at hmore
      · exact List.rel_append h.decoded (.cons hparse .nil)
      · rw [hflatten]
        exact along_append.mpr ⟨h.tracked, h.objects ▸ htracked⟩
      · rw [hflatten, List.foldl_append, ← h.objects]
        rfl
      · rw [hflatten, reported_append, ← h.objects, ← h.changed]

theorem accepted_step
    (hsound : ∀ frame value, parse frame = some value → Document frame)
    (h : Accepted parse bytes m changed) (hstep : feedByte parse m byte = .ok (m', changed')) :
    Accepted parse (bytes ++ [byte]) m' (changed || changed') := by
  obtain ⟨complete, batches, h⟩ := h
  cases hframe : m.frame with
  | nil =>
      have hopen := h.openFrame
      rw [hframe] at hopen
      cases hscan : m.scan
      rw [hscan] at hopen
      cases hopen
      exact accepted_idle h ⟨hframe, hscan⟩ hstep
  | cons first inner =>
      have hopen := h.openFrame
      rw [hframe] at hopen
      cases hopen with
      | opened hscan hlength =>
          exact accepted_inside hsound h hframe hscan (by simpa [hframe] using hlength) hstep

end Steps

section Runs

theorem accepted_initial : Accepted parse [] .default false :=
  ⟨[], [], rfl, .done, .idle, .nil, trivial, rfl, rfl⟩

theorem accepted_of_feed
    (hsound : ∀ frame value, parse frame = some value → Document frame)
    (h : feed parse .default bytes = .ok (m, changed)) : Accepted parse bytes m changed := by
  induction bytes using List.reverseRecOn generalizing m changed with
  | nil =>
      cases h
      exact accepted_initial
  | append_singleton bytes byte ih =>
      rw [feed_append, bind_eq_ok_iff] at h
      obtain ⟨⟨before, changed'⟩, hbefore, hlast⟩ := h
      rw [feed, Checks.reportM_singleton] at hlast
      cases hbyte : feedByte parse before byte with
      | error e =>
          rw [hbyte] at hlast
          cases hlast
      | ok r =>
          rw [hbyte] at hlast
          cases hlast
          exact accepted_step hsound (ih hbefore) hbyte

/-- Two monitors that agree are one. -/
theorem Monitor.ext_scan {n n' : Monitor} (hframe : n.frame = n'.frame) (hscan : n.scan = n'.scan)
    (hobjects : n.objects = n'.objects) (hyielded : n.yielded = n'.yielded) : n = n' := by
  obtain ⟨frame, depth, quoted, escaped, objects, yielded⟩ := n
  obtain ⟨frame', depth', quoted', escaped', objects', yielded'⟩ := n'
  cases hframe
  cases hscan
  cases hobjects
  cases hyielded
  rfl

theorem feed_of_accepted (h : Accepted parse bytes m changed) :
    feed parse .default bytes = .ok (m, changed) := by
  obtain ⟨complete, batches, h⟩ := h
  obtain ⟨before, hfeed, hidle, hobjects, hyielded⟩ :=
    feed_stream h.stream h.decoded (m := .default) ⟨rfl, rfl⟩ h.tracked
  have hobjects' : before.objects = m.objects := hobjects.trans h.objects.symm
  rw [h.split, feed_append_of_ok hfeed, h.changed]
  cases hframe : m.frame with
  | nil =>
      have hopen := h.openFrame
      rw [hframe] at hopen
      have hscan : m.scan = .outside 0 := by
        cases hm : m.scan
        rw [hm] at hopen
        cases hopen
        rfl
      have hsame : before = m :=
        Monitor.ext_scan (hidle.1.trans hframe.symm) (hidle.2.trans hscan.symm) hobjects' hyielded
      rw [hsame]
      simp [feed, Except.map]
      rfl
  | cons first inner =>
      have hopen := h.openFrame
      rw [hframe] at hopen
      cases hopen with
      | opened hscan hlength =>
          have hsame : before.extend (openArray :: inner) m.scan = m := by
            refine Monitor.ext_scan ?_ rfl hobjects' hyielded
            rw [Monitor.frame_extend, hidle.1, hframe]
            rfl
          rw [feed_begin hidle hscan hlength, hsame]
          simp [Except.map]
          rfl

/-- The bytes of a stream determine what the monitor makes of it. -/
theorem feed_eq_ok_iff
    (hsound : ∀ frame value, parse frame = some value → Document frame) :
    feed parse .default bytes = .ok (m, changed) ↔ Accepted parse bytes m changed :=
  ⟨accepted_of_feed hsound, feed_of_accepted⟩

/-- Reading a stream in pieces. -/
theorem feedChunks_eq_feed (m : Monitor) (chunks : List (List UInt8)) :
    (feedChunks parse m chunks).map (fun r => (r.1, r.2.any id)) =
      feed parse m chunks.flatten := by
  induction chunks generalizing m with
  | nil => rfl
  | cons bytes chunks ih =>
      rw [List.flatten_cons, feed_append, feedChunks]
      cases hbytes : feed parse m bytes with
      | error e => rfl
      | ok r =>
          change Except.map _ (feedChunks parse r.1 chunks >>= _) =
            (feed parse r.1 chunks.flatten).map _
          rw [← ih]
          cases feedChunks parse r.1 chunks <;> rfl

end Runs

/-- The framing of the stream under every cut into reads. -/
theorem framing_exact (parse : List UInt8 → Option Json)
    (hsound : ∀ frame value, parse frame = some value → Document frame) :
    (∀ m chunks,
      (feedChunks parse m chunks).map (fun r => (r.1, r.2.any id)) =
        feed parse m chunks.flatten) ∧
    (∀ chunks frames batches, Stream chunks.flatten frames → Decoded parse frames batches →
      Along Tracked updateObjects .empty batches.flatten →
      ∃ m reports, feedChunks parse .default chunks = .ok (m, reports) ∧ m.Idle ∧
        m.yielded = frames ∧
        (true ∈ reports ↔ ∃ before event after, batches.flatten = before ++ event :: after ∧
          relevant (before.foldl updateObjects .empty) event = true)) ∧
    (∀ bytes m changed,
      feed parse .default bytes = .ok (m, changed) ↔ Accepted parse bytes m changed) ∧
    (∀ arrived chunks, arrived <+: chunks.flatten →
      (∀ m changed, ¬ Accepted parse arrived m changed) →
      ∃ e, feedChunks parse .default chunks = .error e) := by
  refine ⟨feedChunks_eq_feed, ?_, fun _ _ _ => feed_eq_ok_iff hsound, ?_⟩
  · intro chunks frames batches hstream hdecoded htracked
    obtain ⟨m, hfeed, hidle, -, hyielded⟩ :=
      feed_stream hstream hdecoded (m := .default) ⟨rfl, rfl⟩ htracked
    have hchunks := @feedChunks_eq_feed parse .default chunks
    rw [hfeed] at hchunks
    cases hreads : feedChunks parse .default chunks with
    | error e =>
        rw [hreads] at hchunks
        cases hchunks
    | ok r =>
        rw [hreads] at hchunks
        obtain ⟨rfl, hreports⟩ := Prod.mk.inj (Except.ok.inj hchunks)
        refine ⟨r.1, r.2, rfl, hidle, hyielded, ?_⟩
        rw [← Checks.reported_iff]
        change true ∈ r.2 ↔
          Reported relevant updateObjects Monitor.default.objects batches.flatten = true
        rw [← hreports]
        simp
  · rintro arrived chunks ⟨more, hmore⟩ hnot
    have hchunks := @feedChunks_eq_feed parse .default chunks
    have harrived : ∃ e, feed parse .default arrived = .error e := by
      cases hfeed : feed parse .default arrived with
      | error e => exact ⟨e, rfl⟩
      | ok r => exact absurd (accepted_of_feed hsound hfeed) (hnot r.1 r.2)
    obtain ⟨e, he⟩ := harrived
    rw [← hmore, feed_append, he] at hchunks
    cases hreads : feedChunks parse .default chunks with
    | error e => exact ⟨e, rfl⟩
    | ok r =>
        rw [hreads] at hchunks
        cases hchunks

section Sample

/-- A node that appears. -/
def sampleFrame : List UInt8 :=
  ascii "[\x7b\"id\":7,\"type\":\"PipeWire:Interface:Node\"\x7d]"

def sampleEvent : Json :=
  .object [("id", .number (some 7)), ("type", .string "PipeWire:Interface:Node")]

/-- The node is gone again. -/
def removalFrame : List UInt8 :=
  ascii "[\x7b\"id\":7,\"info\":null\x7d]"

def removalEvent : Json :=
  .object [("id", .number (some 7)), ("info", .null)]

def sampleParse (frame : List UInt8) : Option Json :=
  if frame = sampleFrame then some (.array [sampleEvent])
  else if frame = removalFrame then some (.array [removalEvent])
  else none

theorem quoted_id : JsonText.Quoted (ascii "\"id\"") :=
  @JsonText.quoted_of_plain (ascii "id") (List.all_iff_forall_prop.mp (by decide))

theorem number_seven : JsonText.Number (ascii "7") :=
  ⟨"", ascii "7", [], [], by simp, ⟨by decide, List.all_iff_forall_prop.mp (by decide)⟩,
    by decide, Or.inl rfl, Or.inl rfl, by decide⟩

theorem blank_nil : JsonText.Blank [] := by
  simp [JsonText.Blank]

theorem sampleFrame_text (n : Nat) : JsonText.Text .value (n + 2) sampleFrame := by
  have htype : JsonText.Quoted (ascii "\"type\"") :=
    @JsonText.quoted_of_plain (ascii "type") (List.all_iff_forall_prop.mp (by decide))
  have hnode : JsonText.Quoted (ascii "\"PipeWire:Interface:Node\"") :=
    @JsonText.quoted_of_plain (ascii "PipeWire:Interface:Node")
      (List.all_iff_forall_prop.mp (by decide))
  have hmembers := JsonText.Text.members blank_nil quoted_id blank_nil blank_nil
    (@JsonText.Text.number n _ number_seven) blank_nil
    (.member blank_nil htype blank_nil blank_nil (.string hnode) blank_nil)
  exact JsonText.Text.array (.element blank_nil (.object hmembers) blank_nil)

theorem removalFrame_text (n : Nat) : JsonText.Text .value (n + 2) removalFrame := by
  have hinfo : JsonText.Quoted (ascii "\"info\"") :=
    @JsonText.quoted_of_plain (ascii "info") (List.all_iff_forall_prop.mp (by decide))
  have hnull : JsonText.Text .value n (ascii "null") := .literal (by decide)
  have hmembers := JsonText.Text.members blank_nil quoted_id blank_nil blank_nil
    (@JsonText.Text.number n _ number_seven) blank_nil
    (.member blank_nil hinfo blank_nil blank_nil hnull blank_nil)
  exact JsonText.Text.array (.element blank_nil (.object hmembers) blank_nil)

theorem sampleParse_sound (frame : List UInt8) (value : Json)
    (h : sampleParse frame = some value) : Document frame := by
  unfold sampleParse at h
  split_ifs at h with hframe hremoval
  · exact ⟨[], frame, [], 2, blank_nil, hframe ▸ sampleFrame_text 0, blank_nil,
      (List.append_nil _).symm⟩
  · exact ⟨[], frame, [], 2, blank_nil, hremoval ▸ removalFrame_text 0, blank_nil,
      (List.append_nil _).symm⟩

theorem sampleEvent_tracked : Tracked .empty sampleEvent := by
  refine ⟨7, rfl, fun metadata hkind => ?_⟩
  cases hkind
  decide

theorem removalEvent_tracked : Tracked (updateObjects .empty sampleEvent) removalEvent := by
  refine ⟨7, rfl, fun metadata hkind => ?_⟩
  cases hkind

/-- The node comes and goes; the second array is cut from its bracket. -/
def sampleChunks : List (List UInt8) :=
  [sampleFrame.take 5, sampleFrame.drop 5 ++ ascii "\n[", removalFrame.drop 1]

theorem framing_exact_sample :
    ∃ m reports,
      feedChunks sampleParse .default sampleChunks = .ok (m, reports) ∧
      m.Idle ∧ m.yielded = [sampleFrame, removalFrame] ∧
      (true ∈ reports ↔ ∃ before event after,
        [[sampleEvent], [removalEvent]].flatten = before ++ event :: after ∧
          relevant (before.foldl updateObjects .empty) event = true) := by
  have hstream : Stream sampleChunks.flatten [sampleFrame, removalFrame] := by
    have hlast := Stream.array ⟨removalFrame_text 62, rfl⟩ (by decide) .done
    have hboth := Stream.array ⟨sampleFrame_text 62, rfl⟩ (by decide)
      (@Stream.blank 10 _ _ (by decide) hlast)
    exact hboth
  have hdifferent : removalFrame ≠ sampleFrame := by decide
  have hdecoded : Decoded sampleParse [sampleFrame, removalFrame]
      [[sampleEvent], [removalEvent]] :=
    .cons (by simp [sampleParse]) (.cons (by simp [sampleParse, hdifferent]) .nil)
  exact (framing_exact sampleParse sampleParse_sound).2.1 _ _ _ hstream hdecoded
    ⟨sampleEvent_tracked, removalEvent_tracked, trivial⟩

end Sample

/-- No array begins with these bytes, but its bracket is still open; and an array
need not hold events. -/
theorem malformed_array_waits :
    feedChunks sampleParse .default [ascii "[x"] =
        .ok (Monitor.default.extend (ascii "[x") (.outside 1), [false]) ∧
      (∀ more frames, ¬ Stream (ascii "[x" ++ more) frames) ∧
      Stream (ascii "[1]") [ascii "[1]"] ∧
      feedChunks (fun _ => some (.array [.number (some 1)])) .default [ascii "[1]"] =
        .error ⟨"pw-dump missing object ID"⟩ := by
  refine ⟨rfl, ?_, ?_, rfl⟩
  · intro more frames h
    generalize hbytes : ascii "[x" ++ more = bytes at h
    cases h with
    | done => cases hbytes
    | blank hblank =>
        obtain ⟨hbyte, -⟩ := List.cons.inj hbytes
        rw [← hbyte] at hblank
        exact absurd hblank (by decide)
    | @array frame _ _ harray =>
        obtain ⟨inner, m, -, rfl, hinner⟩ := harray.1.array_inv harray.2
        have htail := (List.cons.inj hbytes).2
        cases inner with
        | nil => exact absurd (List.cons.inj htail).1 (by decide)
        | cons b inner =>
            have hb : 'x'.toUInt8 = b := (List.cons.inj htail).1
            rcases hinner with hblank | helements
            · have hx := hblank b List.mem_cons_self
              rw [← hb] at hx
              exact absurd hx (by decide)
            · obtain ⟨b', hhead, hx⟩ := helements.begins
              cases hhead
              rw [← hb] at hx
              exact absurd hx (by decide)
  · have hblank : JsonText.Blank [] := by simp [JsonText.Blank]
    have hone : JsonText.Number (ascii "1") :=
      ⟨"", ascii "1", [], [], by simp, ⟨by decide, List.all_iff_forall_prop.mp (by decide)⟩,
        by decide, Or.inl rfl, Or.inl rfl, by decide⟩
    have harray : ArrayText maxDepth (ascii "[1]") :=
      ⟨JsonText.Text.array (.element hblank (@JsonText.Text.number 63 _ hone) hblank), rfl⟩
    have hstream := Stream.array harray (by decide) .done
    rwa [List.append_nil] at hstream

end Streams

end AudioMonitor
end SleepySession
