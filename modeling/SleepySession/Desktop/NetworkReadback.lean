import Mathlib.Data.List.Perm.Subperm
import SleepySession.Desktop.Network

/-!
# The readback of `nmcli` tables

Access points and active connections as `nmcli --terse --escape yes` prints
them, and what the network adapter reads back.  Of the rows of one access point
the adapter keeps the first, with its mark; a later row with a mark is dropped.
-/

namespace SleepySession
namespace Network

section Rendering

def escapeChar (c : Char) : Text :=
  if c = ':' ∨ c = '\\' then ['\\', c] else [c]

/-- A field with a backslash before each colon and backslash. -/
def escapeField (field : Text) : Text :=
  field.flatMap escapeChar

def renderRow : List Text → Text
  | [] => []
  | [field] => escapeField field
  | field :: rest => escapeField field ++ ':' :: renderRow rest

def renderTable (rows : List (List Text)) : Text :=
  rows.flatMap fun fields => renderRow fields ++ ['\n']

/-- A field that does not break its line. -/
def LineFree (field : Text) : Prop :=
  '\n' ∉ field ∧ '\r' ∉ field

instance : DecidablePred LineFree :=
  fun _ => inferInstanceAs (Decidable (_ ∧ _))

structure AccessPointRow where
  inUse : Bool
  bssid : Text
  ssid : Text
  signal : Nat
  security : Text
deriving DecidableEq

structure ConnectionRow where
  uuid : Text
  name : Text
  kind : Text
  device : Text
deriving DecidableEq

namespace AccessPointRow

def fields (row : AccessPointRow) : List Text :=
  [if row.inUse then ['*'] else [], row.bssid, row.ssid, decimalText row.signal, row.security]

/-- The identifier of the access point. -/
def id (row : AccessPointRow) : Text :=
  accessPointPrefix ++ replaceChar ':' '-' (row.bssid.map toAsciiUppercase)

/-- The row has an SSID. -/
def visible (row : AccessPointRow) : Bool :=
  !row.ssid.isEmpty

def accessPoint (row : AccessPointRow) : NetworkAccessPoint :=
  ⟨row.id, row.ssid, row.signal / 100,
    ! (row.security = [] || row.security = "--".toList || row.security = "NONE".toList)⟩

structure WellFormed (row : AccessPointRow) : Prop where
  lineFree : ∀ field ∈ row.fields, LineFree field
  bssid : ∃ mac, canonicalMac row.bssid = .ok mac
  signal : row.signal ≤ 100

end AccessPointRow

namespace ConnectionRow

def fields (row : ConnectionRow) : List Text :=
  [row.uuid, row.name, row.kind, row.device]

/-- The connection of a row of a known kind. -/
def connection (row : ConnectionRow) : Option NetworkConnection :=
  (connectionKind row.kind).map fun kind =>
    ⟨connectionPrefix ++ row.uuid, row.name, kind, ! (row.device = [] || row.device = "--".toList)⟩

structure WellFormed (row : ConnectionRow) : Prop where
  lineFree : ∀ field ∈ row.fields, LineFree field
  uuid : hyphenatedGroups [8, 4, 4, 4, 12] row.uuid = true

end ConnectionRow

/-- The first row with an SSID of an access point. -/
def firstRow (rows : List AccessPointRow) (id : Text) : Option AccessPointRow :=
  rows.find? fun row => row.visible && row.id = id

/-- Where a row with an SSID is marked in use, the first one of its access point is. -/
def FirstMarked (rows : List AccessPointRow) : Prop :=
  ∀ row ∈ rows, row.visible = true → row.inUse = true →
    ∃ first, firstRow rows row.id = some first ∧ first.inUse = true

/-- What the tables say, and nothing else. -/
structure Exact (points : List AccessPointRow) (connections : List ConnectionRow)
    (readback : NetworkReadback) : Prop where
  once : (readback.snapshot.accessPoints.map NetworkAccessPoint.id).Nodup
  listed : ∀ row ∈ points, row.visible = true →
    row.id ∈ readback.snapshot.accessPoints.map NetworkAccessPoint.id
  reported : ∀ accessPoint ∈ readback.snapshot.accessPoints,
    ∃ row ∈ points, row.visible = true ∧ accessPoint = row.accessPoint
  connections : readback.snapshot.connections = connections.filterMap ConnectionRow.connection
  active : ∀ id, id ∈ readback.activeAccessPoints ↔
    ∃ row ∈ points, row.visible = true ∧ row.inUse = true ∧ row.id = id

end Rendering

section Fields

theorem splitEscapedFrom_field (fields : List Text) (open' field rest : Text) :
    splitEscapedFrom fields open' false (escapeField field ++ rest) =
      splitEscapedFrom fields (open' ++ field) false rest := by
  induction field generalizing open' with
  | nil => simp [escapeField]
  | cons c field ih =>
      have hrest := ih (open' ++ [c])
      rw [List.append_assoc, List.singleton_append] at hrest
      rw [← hrest, escapeField, List.flatMap_cons, List.append_assoc]
      by_cases hc : c = ':' ∨ c = '\\'
      · rw [show escapeChar c = ['\\', c] from if_pos hc]
        simp [splitEscapedFrom, escapeField]
      · rw [show escapeChar c = [c] from if_neg hc]
        rw [not_or] at hc
        simp [splitEscapedFrom, escapeField, hc.1, hc.2]

/-- Splitting undoes escaping. -/
theorem splitEscaped_renderRow {fields : List Text} (h : fields ≠ []) :
    splitEscaped (renderRow fields) = .ok fields := by
  have hfrom : ∀ (done fields : List Text), fields ≠ [] →
      splitEscapedFrom done [] false (renderRow fields) = .ok (done ++ fields) := by
    intro done fields
    induction fields generalizing done with
    | nil => exact fun h => absurd rfl h
    | cons field rest ih =>
        intro _
        cases rest with
        | nil =>
            have hfield := splitEscapedFrom_field done [] field []
            rw [List.append_nil] at hfield
            rw [renderRow, hfield]
            simp [splitEscapedFrom]
        | cons next rest =>
            rw [renderRow, splitEscapedFrom_field, splitEscapedFrom]
            · rw [if_neg (by decide), if_pos rfl, ih _ (by simp)]
              simp
            all_goals simp
  exact hfrom [] fields h

theorem mem_renderRow {fields : List Text} {c : Char} (h : c ∈ renderRow fields) :
    c = ':' ∨ c = '\\' ∨ ∃ field ∈ fields, c ∈ field := by
  have hfield : ∀ field : Text, c ∈ escapeField field → c = '\\' ∨ c ∈ field := by
    intro field hc
    obtain ⟨d, hd, hc⟩ := List.mem_flatMap.mp hc
    unfold escapeChar at hc
    split at hc
    · rcases List.mem_cons.mp hc with rfl | hc
      · exact Or.inl rfl
      · exact Or.inr (List.mem_singleton.mp hc ▸ hd)
    · exact Or.inr (List.mem_singleton.mp hc ▸ hd)
  induction fields with
  | nil => cases h
  | cons field rest ih =>
      cases rest with
      | nil =>
          rcases hfield field h with hc | hc
          · exact Or.inr (Or.inl hc)
          · exact Or.inr (Or.inr ⟨field, List.mem_cons_self, hc⟩)
      | cons next rest =>
          rcases List.mem_append.mp (show c ∈ escapeField field ++ ':' :: renderRow (next :: rest)
            from h) with h | h
          · rcases hfield field h with hc | hc
            · exact Or.inr (Or.inl hc)
            · exact Or.inr (Or.inr ⟨field, List.mem_cons_self, hc⟩)
          · rcases List.mem_cons.mp h with rfl | h
            · exact Or.inl rfl
            · rcases ih h with hc | hc | ⟨other, hother, hc⟩
              · exact Or.inl hc
              · exact Or.inr (Or.inl hc)
              · exact Or.inr (Or.inr ⟨other, List.mem_cons_of_mem _ hother, hc⟩)

theorem lineFree_renderRow {fields : List Text} (h : ∀ field ∈ fields, LineFree field) :
    LineFree (renderRow fields) := by
  constructor
  · intro hmem
    rcases mem_renderRow hmem with hc | hc | ⟨field, hfield, hc⟩
    · exact absurd hc (by decide)
    · exact absurd hc (by decide)
    · exact (h field hfield).1 hc
  · intro hmem
    rcases mem_renderRow hmem with hc | hc | ⟨field, hfield, hc⟩
    · exact absurd hc (by decide)
    · exact absurd hc (by decide)
    · exact (h field hfield).2 hc

theorem splitParts_line {line : Text} (h : '\n' ∉ line) (rest : Text) :
    splitParts '\n' none (line ++ '\n' :: rest) = line :: splitParts '\n' none rest := by
  induction line with
  | nil => simp [splitParts]
  | cons c line ih =>
      obtain ⟨hc, hline⟩ : '\n' ≠ c ∧ '\n' ∉ line := by simpa using h
      rw [List.cons_append, splitParts, if_neg (Ne.symm hc), ih hline]
      all_goals simp

/-- The lines of terminated lines. -/
theorem textLines_flatMap {lines : List Text} (h : ∀ line ∈ lines, LineFree line) :
    textLines (lines.flatMap fun line => line ++ ['\n']) = lines := by
  have hparts : splitParts '\n' none (lines.flatMap fun line => line ++ ['\n']) =
      lines ++ [[]] := by
    induction lines with
    | nil => rfl
    | cons line lines ih =>
        rw [List.flatMap_cons, List.append_assoc, List.singleton_append,
          splitParts_line (h line List.mem_cons_self).1,
          ih fun other hother => h other (List.mem_cons_of_mem _ hother)]
        rfl
  have hstrip : lines.map stripCarriageReturn = lines := by
    refine (List.map_congr_left fun line hline => ?_).trans (List.map_id _)
    refine if_neg fun hlast => ?_
    exact (h line hline).2 (List.mem_of_getLast? hlast)
  simp [textLines, hparts, hstrip]

theorem nonEmptyLines_renderTable {rows : List (List Text)}
    (hlength : ∀ fields ∈ rows, 2 ≤ fields.length)
    (h : ∀ fields ∈ rows, ∀ field ∈ fields, LineFree field) :
    nonEmptyLines (renderTable rows) = rows.map renderRow := by
  have hlines : renderTable rows = (rows.map renderRow).flatMap fun line => line ++ ['\n'] := by
    rw [List.flatMap_map]
    rfl
  rw [nonEmptyLines, hlines, textLines_flatMap, List.filter_eq_self]
  · intro line hline
    obtain ⟨fields, hfields, rfl⟩ := List.mem_map.mp hline
    match fields, hlength fields hfields with
    | first :: second :: rest, _ => simp [renderRow]
  · intro line hline
    obtain ⟨fields, hfields, rfl⟩ := List.mem_map.mp hline
    exact lineFree_renderRow (h fields hfields)

end Fields

section AccessPoints

/-- The rows whose access point is listed, after those of `seen`. -/
def listedRows : List Text → List AccessPointRow → List AccessPointRow
  | _, [] => []
  | seen, row :: rows =>
      if row.visible = false ∨ row.id ∈ seen then
        listedRows seen rows
      else
        row :: listedRows (row.id :: seen) rows

theorem firstRow_cons (row : AccessPointRow) (rows : List AccessPointRow) (id : Text) :
    firstRow (row :: rows) id =
      if row.visible = true ∧ row.id = id then some row else firstRow rows id := by
  by_cases h : row.visible = true ∧ row.id = id
  · simp [firstRow, h]
  · rw [if_neg h]
    exact List.find?_cons_of_neg (by simpa using h)

theorem firstRow_spec {rows : List AccessPointRow} {id : Text} {row : AccessPointRow}
    (h : firstRow rows id = some row) : row ∈ rows ∧ row.visible = true ∧ row.id = id := by
  have hfound := List.find?_some h
  rw [Bool.and_eq_true, decide_eq_true_eq] at hfound
  exact ⟨List.mem_of_find?_eq_some h, hfound⟩

theorem exists_firstRow {rows : List AccessPointRow} {row : AccessPointRow} (h : row ∈ rows)
    (hvisible : row.visible = true) : ∃ first, firstRow rows row.id = some first := by
  refine Option.isSome_iff_exists.mp (List.find?_isSome.mpr ⟨row, h, ?_⟩)
  simp [hvisible]

theorem mem_listedRows {seen : List Text} {rows : List AccessPointRow} {row : AccessPointRow} :
    row ∈ listedRows seen rows ↔ row.id ∉ seen ∧ firstRow rows row.id = some row := by
  induction rows generalizing seen with
  | nil => simp [listedRows, firstRow]
  | cons next rows ih =>
      rw [listedRows, firstRow_cons]
      split
      · next hskip =>
          rw [ih]
          refine and_congr_right fun hseen => ?_
          rw [if_neg]
          rintro ⟨hvisible, hid⟩
          rcases hskip with hhidden | hmem
          · exact absurd (hvisible.symm.trans hhidden) (by decide)
          · exact hseen (hid ▸ hmem)
      · next hkeep =>
          rw [not_or, Bool.not_eq_false] at hkeep
          rw [List.mem_cons, ih, List.mem_cons, not_or]
          constructor
          · rintro (rfl | ⟨⟨hid, hseen⟩, hfirst⟩)
            · exact ⟨hkeep.2, if_pos ⟨hkeep.1, rfl⟩⟩
            · exact ⟨hseen, by rw [if_neg fun h => hid h.2.symm, hfirst]⟩
          · rintro ⟨hseen, hfirst⟩
            by_cases hid : next.id = row.id
            · rw [if_pos ⟨hkeep.1, hid⟩] at hfirst
              exact Or.inl (Option.some.inj hfirst).symm
            · rw [if_neg fun h => hid h.2] at hfirst
              exact Or.inr ⟨⟨fun h => hid h.symm, hseen⟩, hfirst⟩

theorem nodup_listedRows (seen : List Text) (rows : List AccessPointRow) :
    ((listedRows seen rows).map AccessPointRow.id).Nodup := by
  induction rows generalizing seen with
  | nil => exact List.nodup_nil
  | cons row rows ih =>
      rw [listedRows]
      split
      · exact ih seen
      · refine List.nodup_cons.mpr ⟨fun hmem => ?_, ih _⟩
        obtain ⟨other, hother, hid⟩ := List.mem_map.mp hmem
        exact (mem_listedRows.mp hother).1 (hid ▸ List.mem_cons_self)

theorem mem_listedRows_nil {rows : List AccessPointRow} {row : AccessPointRow}
    (h : row ∈ listedRows [] rows) : row ∈ rows ∧ row.visible = true :=
  have hfirst := firstRow_spec (mem_listedRows.mp h).2
  ⟨hfirst.1, hfirst.2.1⟩

theorem firstRow_listed {rows : List AccessPointRow} {id : Text} {row : AccessPointRow}
    (h : firstRow rows id = some row) : row ∈ listedRows [] rows :=
  mem_listedRows.mpr ⟨List.not_mem_nil, by rw [(firstRow_spec h).2.2]; exact h⟩

/-- No more rows are listed than there are access points. -/
theorem length_listedRows (rows : List AccessPointRow) :
    (listedRows [] rows).length ≤ (rows.map AccessPointRow.id).dedup.length := by
  have hlisted : (listedRows [] rows).map AccessPointRow.id ⊆
      (rows.map AccessPointRow.id).dedup := by
    intro id hid
    obtain ⟨row, hrow, rfl⟩ := List.mem_map.mp hid
    exact List.mem_dedup.mpr (List.mem_map_of_mem (mem_listedRows_nil hrow).1)
  have hsub := List.subperm_of_subset (nodup_listedRows [] rows) hlisted
  simpa using hsub.length_le

theorem parseUnsigned_decimalText {n : Nat} (h : n ≤ 100) :
    parseUnsigned 256 (decimalText n) = some n := by
  revert h
  revert n
  decide

/-- What one row adds. -/
def AccessPointParser.add (parser : AccessPointParser) (row : AccessPointRow) :
    AccessPointParser :=
  { seen := row.id :: parser.seen
    active := if row.inUse then row.id :: parser.active else parser.active
    accessPoints := parser.accessPoints ++ [row.accessPoint] }

theorem parseAccessPoint_renderRow {parser : AccessPointParser} {row : AccessPointRow}
    (h : row.WellFormed) :
    parseAccessPoint parser (renderRow row.fields) =
      if row.visible = false ∨ row.id ∈ parser.seen then
        .ok parser
      else if 4096 < parser.accessPoints.length + 1 then
        dataError "too many Wi-Fi access points"
      else
        .ok (parser.add row) := by
  obtain ⟨mac, hmac⟩ := h.bssid
  have hid : accessPointId row.bssid = .ok row.id := by
    unfold canonicalMac at hmac
    split at hmac
    · next hvalid =>
        simp only [accessPointId, canonicalMac, if_pos hvalid]
        rfl
    · cases hmac
  have hmark : ¬ ((if row.inUse then ['*'] else []) ≠ ([] : Text) ∧
      (if row.inUse then ['*'] else []) ≠ ['*']) := by
    cases row.inUse <;> decide
  unfold parseAccessPoint
  rw [splitEscaped_renderRow (by simp [AccessPointRow.fields])]
  simp only [AccessPointRow.fields, bind, Except.bind, if_neg hmark, hid,
    parseUnsigned_decimalText h.signal, if_neg (Nat.not_lt.mpr h.signal)]
  by_cases hssid : row.ssid = []
  · simp [hssid, AccessPointRow.visible]
  · rw [if_neg hssid]
    by_cases hseen : row.id ∈ parser.seen
    · simp [hseen]
    · have hvisible : row.visible = true := by simp [AccessPointRow.visible, hssid]
      cases hinUse : row.inUse <;>
        simp [hseen, hvisible, hinUse, AccessPointParser.add, AccessPointRow.accessPoint]

theorem foldlM_parseAccessPoint {rows : List AccessPointRow}
    (h : ∀ row ∈ rows, row.WellFormed) (parser : AccessPointParser)
    (hcount : parser.accessPoints.length + (listedRows parser.seen rows).length ≤ 4096) :
    (rows.map fun row => renderRow row.fields).foldlM parseAccessPoint parser =
      .ok ((listedRows parser.seen rows).foldl AccessPointParser.add parser) := by
  induction rows generalizing parser with
  | nil => rfl
  | cons row rows ih =>
      have hrest : ∀ row ∈ rows, row.WellFormed := fun other hother =>
        h other (List.mem_cons_of_mem _ hother)
      rw [List.map_cons, List.foldlM_cons,
        parseAccessPoint_renderRow (h row List.mem_cons_self)]
      rw [listedRows] at hcount ⊢
      split
      · next hskip =>
          rw [if_pos hskip] at hcount
          exact ih hrest parser hcount
      · next hkeep =>
          rw [if_neg hkeep, List.length_cons] at hcount
          rw [if_neg (by omega)]
          refine ih hrest (parser.add row) ?_
          have hlength : (parser.add row).accessPoints.length = parser.accessPoints.length + 1 :=
            List.length_append
          have hseen : (parser.add row).seen = row.id :: parser.seen := rfl
          rw [hlength, hseen]
          omega

theorem foldl_add_accessPoints (rows : List AccessPointRow) (parser : AccessPointParser) :
    (rows.foldl AccessPointParser.add parser).accessPoints =
      parser.accessPoints ++ rows.map AccessPointRow.accessPoint := by
  induction rows generalizing parser with
  | nil => simp
  | cons row rows ih => rw [List.foldl_cons, ih]; simp [AccessPointParser.add]

theorem mem_foldl_add_active {rows : List AccessPointRow} {parser : AccessPointParser} {id : Text} :
    id ∈ (rows.foldl AccessPointParser.add parser).active ↔
      id ∈ parser.active ∨ ∃ row ∈ rows, row.inUse = true ∧ row.id = id := by
  induction rows generalizing parser with
  | nil => simp
  | cons row rows ih =>
      rw [List.foldl_cons, ih, AccessPointParser.add]
      by_cases hinUse : row.inUse = true
      · rw [if_pos hinUse]
        simp only [List.mem_cons, exists_eq_or_imp, hinUse, true_and]
        rw [eq_comm (a := id), or_assoc, or_left_comm]
      · rw [if_neg hinUse]
        simp [hinUse]

end AccessPoints

section Connections

theorem lowerHex_toLower {c : Char} (h : isLowerHex c = true) : c.toLower = c := by
  refine dif_neg ?_
  rintro ⟨hlow, hhigh⟩
  have hlow : 65 ≤ c.toNat := hlow
  have hhigh : c.toNat ≤ 90 := hhigh
  simp only [isLowerHex, Bool.or_eq_true, Bool.and_eq_true, decide_eq_true_eq] at h
  omega

theorem hyphenatedGroups_toLower {groups : List Nat} {text : Text}
    (h : hyphenatedGroups groups text = true) : text.map Char.toLower = text := by
  have hmap : ∀ text : Text, text.all isLowerHex = true → text.map Char.toLower = text :=
    fun text htext => (List.map_congr_left fun c hc =>
      lowerHex_toLower (List.all_eq_true.mp htext c hc)).trans (List.map_id _)
  induction groups generalizing text with
  | nil =>
      rw [hyphenatedGroups, List.isEmpty_iff] at h
      rw [h, List.map_nil]
  | cons n more ih =>
      cases more with
      | nil =>
          rw [hyphenatedGroups, Bool.and_eq_true] at h
          exact hmap text h.2
      | cons next more =>
          simp only [hyphenatedGroups, Bool.and_eq_true] at h
          obtain ⟨⟨⟨-, htake⟩, hhead⟩, hrest⟩ := h
          have hsplit : text = text.take n ++ '-' :: text.drop (n + 1) := by
            conv_lhs => rw [← List.take_append_drop n text]
            rw [← List.cons_head?_tail (beq_iff_eq.mp hhead), List.tail_drop]
          rw [hsplit, List.map_append, List.map_cons, hmap _ htake, ih hrest]
          rfl

theorem connectionId_canonical {uuid : Text}
    (h : hyphenatedGroups [8, 4, 4, 4, 12] uuid = true) :
    connectionId uuid = .ok (connectionPrefix ++ uuid) := by
  have hparses : parsesAsUuid uuid = true := by
    simp [parsesAsUuid, hyphenatedGroups_toLower h, h]
  rw [connectionId, if_neg (by simp [hparses]), if_pos h]

theorem parseConnection_renderRow {connections : List NetworkConnection} {row : ConnectionRow}
    (h : row.WellFormed)
    (hnew : connectionPrefix ++ row.uuid ∉ connections.map NetworkConnection.id) :
    parseConnection connections (renderRow row.fields) =
      if row.name = [] then
        dataError "NetworkManager connection row is malformed"
      else
        .ok (connections ++ row.connection.toList) := by
  unfold parseConnection
  rw [splitEscaped_renderRow (by simp [ConnectionRow.fields])]
  simp only [ConnectionRow.fields, bind, Except.bind]
  by_cases hname : row.name = []
  · rw [if_pos hname, if_pos hname]
  · rw [if_neg hname, if_neg hname]
    cases hkind : connectionKind row.kind with
    | none => simp [ConnectionRow.connection, hkind]
    | some kind =>
        simp [ConnectionRow.connection, hkind, connectionId_canonical h.uuid, hnew]

theorem foldlM_parseConnection {rows : List ConnectionRow} (h : ∀ row ∈ rows, row.WellFormed)
    (hdistinct : (rows.map ConnectionRow.uuid).Nodup) (connections : List NetworkConnection)
    (hnew : ∀ row ∈ rows, connectionPrefix ++ row.uuid ∉ connections.map NetworkConnection.id)
    (result : List NetworkConnection) :
    (rows.map fun row => renderRow row.fields).foldlM parseConnection connections = .ok result ↔
      (∀ row ∈ rows, row.name ≠ []) ∧
        result = connections ++ rows.filterMap ConnectionRow.connection := by
  induction rows generalizing connections with
  | nil =>
      rw [List.map_nil, List.foldlM_nil]
      simp [pure, Except.pure, eq_comm]
  | cons row rows ih =>
      rw [List.map_cons, List.foldlM_cons,
        parseConnection_renderRow (h row List.mem_cons_self) (hnew row List.mem_cons_self)]
      by_cases hname : row.name = []
      · rw [if_pos hname]
        constructor
        · exact fun hrun => nomatch hrun
        · exact fun hall => absurd hname (hall.1 row List.mem_cons_self)
      · rw [if_neg hname]
        obtain ⟨huuid, hdistinct⟩ := List.nodup_cons.mp hdistinct
        have hids : row.connection.toList.map NetworkConnection.id ⊆
            [connectionPrefix ++ row.uuid] := by
          cases hkind : connectionKind row.kind <;> simp [ConnectionRow.connection, hkind]
        refine (ih (fun other hother => h other (List.mem_cons_of_mem _ hother)) hdistinct
          (connections ++ row.connection.toList) fun other hother hmem => ?_).trans ?_
        · rw [List.map_append] at hmem
          rcases List.mem_append.mp hmem with hmem | hmem
          · exact hnew other (List.mem_cons_of_mem _ hother) hmem
          · have hsame := List.append_cancel_left (List.mem_singleton.mp (hids hmem))
            exact huuid (hsame ▸ List.mem_map_of_mem hother)
        · have hlist : row.connection.toList ++ rows.filterMap ConnectionRow.connection =
              (row :: rows).filterMap ConnectionRow.connection := by
            cases hconnection : row.connection <;> simp [hconnection]
          rw [List.append_assoc, hlist, List.forall_mem_cons]
          exact and_congr_left' ⟨fun hall => ⟨hname, hall⟩, fun hall => hall.2⟩

end Connections

section Readback

theorem accessPointRow_fields (row : AccessPointRow) : 2 ≤ row.fields.length := by
  simp [AccessPointRow.fields]

theorem connectionRow_fields (row : ConnectionRow) : 2 ≤ row.fields.length := by
  simp [ConnectionRow.fields]

/-- What the adapter makes of the access points. -/
def listedParser (points : List AccessPointRow) : AccessPointParser :=
  (listedRows [] points).foldl AccessPointParser.add {}

theorem parseAccessPoints_renderTable {points : List AccessPointRow}
    (h : ∀ row ∈ points, row.WellFormed)
    (hcount : (points.map AccessPointRow.id).dedup.length ≤ 4096) :
    parseAccessPoints true (some (renderTable (points.map AccessPointRow.fields))) =
      .ok (listedParser points) := by
  have hlines := @nonEmptyLines_renderTable (points.map AccessPointRow.fields)
    (by simpa using fun row _ => accessPointRow_fields row)
    (by simpa using fun row hrow => (h row hrow).lineFree)
  have hfold := foldlM_parseAccessPoint h {} (by
    simpa using Nat.le_trans (length_listedRows points) hcount)
  simp only [parseAccessPoints, if_true, adapterText, textOf, bind, Except.bind, hlines,
    List.map_map]
  exact hfold

theorem exact_iff_firstMarked {points : List AccessPointRow} {connections : List ConnectionRow}
    {readback : NetworkReadback}
    (hpoints : readback.snapshot.accessPoints = (listedParser points).accessPoints)
    (hactive : readback.activeAccessPoints = (listedParser points).active)
    (hconnections : readback.snapshot.connections =
      connections.filterMap ConnectionRow.connection) :
    Exact points connections readback ↔ FirstMarked points := by
  have hlisted : readback.snapshot.accessPoints =
      (listedRows [] points).map AccessPointRow.accessPoint := by
    rw [hpoints, listedParser, foldl_add_accessPoints, List.nil_append]
  have hids : readback.snapshot.accessPoints.map NetworkAccessPoint.id =
      (listedRows [] points).map AccessPointRow.id := by
    rw [hlisted, List.map_map]
    rfl
  have hmarked : ∀ id, id ∈ readback.activeAccessPoints ↔
      ∃ first, firstRow points id = some first ∧ first.inUse = true := by
    intro id
    rw [hactive, listedParser, mem_foldl_add_active]
    constructor
    · rintro (hmem | ⟨row, hrow, hinUse, rfl⟩)
      · cases hmem
      · exact ⟨row, (mem_listedRows.mp hrow).2, hinUse⟩
    · rintro ⟨first, hfirst, hinUse⟩
      exact Or.inr ⟨first, firstRow_listed hfirst, hinUse, (firstRow_spec hfirst).2.2⟩
  constructor
  · intro hexact row hrow hvisible hinUse
    exact (hmarked row.id).mp ((hexact.active row.id).mpr ⟨row, hrow, hvisible, hinUse, rfl⟩)
  · intro hfirstMarked
    refine ⟨hids ▸ nodup_listedRows [] points, ?_, ?_, hconnections, ?_⟩
    · intro row hrow hvisible
      obtain ⟨first, hfirst⟩ := exists_firstRow hrow hvisible
      rw [hids, ← (firstRow_spec hfirst).2.2]
      exact List.mem_map_of_mem (firstRow_listed hfirst)
    · intro accessPoint hmem
      rw [hlisted] at hmem
      obtain ⟨row, hrow, rfl⟩ := List.mem_map.mp hmem
      exact ⟨row, (mem_listedRows_nil hrow).1, (mem_listedRows_nil hrow).2, rfl⟩
    · intro id
      rw [hmarked]
      constructor
      · rintro ⟨first, hfirst, hinUse⟩
        have hspec := firstRow_spec hfirst
        exact ⟨first, hspec.1, hspec.2.1, hinUse, hspec.2.2⟩
      · rintro ⟨row, hrow, hvisible, hinUse, rfl⟩
        exact hfirstMarked row hrow hvisible hinUse

/-- The readback is exact just when no connection is nameless and no mark is on a later
row of an access point only. -/
theorem readback_exact_iff (radio : Printed) (points : List AccessPointRow)
    (connections : List ConnectionRow) (hradio : parseWifiState radio = .ok true)
    (hpoints : ∀ row ∈ points, row.WellFormed)
    (hconnections : ∀ row ∈ connections, row.WellFormed)
    (hdistinct : (connections.map ConnectionRow.uuid).Nodup)
    (hcount : (points.map AccessPointRow.id).dedup.length ≤ 4096) :
    (∀ row ∈ points, splitEscaped (renderRow row.fields) = .ok row.fields) ∧
      (∀ row ∈ connections, splitEscaped (renderRow row.fields) = .ok row.fields) ∧
      ((∃ readback,
          parseReadback radio (some (renderTable (points.map AccessPointRow.fields)))
              (some (renderTable (connections.map ConnectionRow.fields))) = .ok readback ∧
            Exact points connections readback) ↔
        (∀ row ∈ connections, row.name ≠ []) ∧ FirstMarked points) := by
  refine ⟨fun row _ => splitEscaped_renderRow (by simp [AccessPointRow.fields]),
    fun row _ => splitEscaped_renderRow (by simp [ConnectionRow.fields]), ?_⟩
  have hlines := @nonEmptyLines_renderTable (connections.map ConnectionRow.fields)
    (by simpa using fun row _ => connectionRow_fields row)
    (by simpa using fun row hrow => (hconnections row hrow).lineFree)
  rw [List.map_map] at hlines
  have hfold := foldlM_parseConnection hconnections hdistinct [] (by simp)
  have hread : ∀ readback,
      parseReadback radio (some (renderTable (points.map AccessPointRow.fields)))
          (some (renderTable (connections.map ConnectionRow.fields))) = .ok readback ↔
        (∀ row ∈ connections, row.name ≠ []) ∧
          readback = ⟨⟨true, false, (listedParser points).accessPoints,
            connections.filterMap ConnectionRow.connection⟩, (listedParser points).active⟩ := by
    intro readback
    simp only [parseReadback, hradio, parseAccessPoints_renderTable hpoints hcount, adapterText,
      textOf, bind, Except.bind, hlines]
    cases hrun : (connections.map fun row => renderRow row.fields).foldlM parseConnection [] with
    | error e =>
        simp only [Function.comp_def, hrun]
        constructor
        · exact fun h => nomatch h
        · exact fun h => absurd (hrun.symm.trans ((hfold _).mpr ⟨h.1, rfl⟩)) (by simp)
    | ok result =>
        obtain ⟨hnames, rfl⟩ := (hfold result).mp hrun
        simp only [Function.comp_def, hrun, pure, Except.pure, Except.ok.injEq]
        exact ⟨fun h => ⟨hnames, h.symm⟩, fun h => h.2.symm⟩
  constructor
  · rintro ⟨readback, hrun, hexact⟩
    obtain ⟨hnames, rfl⟩ := (hread readback).mp hrun
    exact ⟨hnames, (exact_iff_firstMarked rfl rfl rfl).mp hexact⟩
  · rintro ⟨hnames, hmarked⟩
    exact ⟨_, (hread _).mpr ⟨hnames, rfl⟩, (exact_iff_firstMarked rfl rfl rfl).mpr hmarked⟩

/-- A row of the access point `AA:BB:CC:DD:EE:01`, as one radio reports it. -/
def cafeRow (inUse : Bool) (signal : Nat) : AccessPointRow :=
  ⟨inUse, "AA:BB:CC:DD:EE:01".toList, "caf\\e:5".toList, signal, "WPA2".toList⟩

def cafeConnection : ConnectionRow :=
  ⟨"7d3b0a54-8f5c-4a2e-9a41-0c6f1d2e3b4a".toList, "caf\\e:5".toList, "802-11-wireless".toList,
    "wlan0".toList⟩

theorem cafeRow_wellFormed (inUse : Bool) {signal : Nat} (h : signal ≤ 100)
    (hline : ∀ field ∈ (cafeRow inUse signal).fields, LineFree field) :
    (cafeRow inUse signal).WellFormed where
  lineFree := hline
  bssid := ⟨_, rfl⟩
  signal := h

theorem cafeConnection_wellFormed : cafeConnection.WellFormed where
  lineFree := by decide
  uuid := by decide

theorem readback_exact_cafe :
    (∀ row ∈ [cafeRow true 70, cafeRow false 65],
        splitEscaped (renderRow row.fields) = .ok row.fields) ∧
      (∀ row ∈ [cafeConnection], splitEscaped (renderRow row.fields) = .ok row.fields) ∧
      ((∃ readback,
          parseReadback (some "enabled\n".toList)
              (some (renderTable ([cafeRow true 70, cafeRow false 65].map AccessPointRow.fields)))
              (some (renderTable ([cafeConnection].map ConnectionRow.fields))) = .ok readback ∧
            Exact [cafeRow true 70, cafeRow false 65] [cafeConnection] readback) ↔
        (∀ row ∈ [cafeConnection], row.name ≠ []) ∧
          FirstMarked [cafeRow true 70, cafeRow false 65]) :=
  readback_exact_iff (some "enabled\n".toList) [cafeRow true 70, cafeRow false 65]
    [cafeConnection] (by decide)
    (List.forall_mem_cons.mpr ⟨cafeRow_wellFormed true (by decide) (by decide),
      List.forall_mem_singleton.mpr (cafeRow_wellFormed false (by decide) (by decide))⟩)
    (List.forall_mem_singleton.mpr cafeConnection_wellFormed) (by simp) (by decide)

/-- Two radios report one access point and the second row is marked: the mark is lost. -/
theorem later_mark_lost :
    (∀ row ∈ [cafeRow false 70, cafeRow true 65], row.WellFormed) ∧
      ([cafeRow false 70, cafeRow true 65].map AccessPointRow.id).dedup.length ≤ 4096 ∧
      ¬ ∃ readback,
        parseReadback (some "enabled\n".toList)
            (some (renderTable ([cafeRow false 70, cafeRow true 65].map AccessPointRow.fields)))
            (some (renderTable [])) = .ok readback ∧
          Exact [cafeRow false 70, cafeRow true 65] [] readback := by
  refine ⟨List.forall_mem_cons.mpr ⟨cafeRow_wellFormed false (by decide) (by decide),
    List.forall_mem_singleton.mpr (cafeRow_wellFormed true (by decide) (by decide))⟩,
    by decide, ?_⟩
  rintro ⟨readback, hrun, hexact⟩
  have hnone : (parseReadback (some "enabled\n".toList)
      (some (renderTable ([cafeRow false 70, cafeRow true 65].map AccessPointRow.fields)))
      (some (renderTable []))).toOption.map NetworkReadback.activeAccessPoints = some [] := by
    decide
  rw [hrun] at hnone
  have hactive := (hexact.active (cafeRow true 65).id).mpr
    ⟨cafeRow true 65, by simp, by decide, rfl, rfl⟩
  rw [Option.some.inj hnone] at hactive
  cases hactive

end Readback

end Network
end SleepySession
