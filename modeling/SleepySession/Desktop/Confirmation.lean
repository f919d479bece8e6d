import SleepySession.Desktop.Audio
import SleepySession.Desktop.Bluetooth
import SleepySession.Desktop.CommandRules
import SleepySession.Desktop.Media

/-!
# What a confirmed command has shown

A state-setting command is confirmed by a report taken after it.  A report
names each object once, so a search by identifier finds the addressed object
or nothing.  The legacy volume and mute commands address the default output or
input without an identifier and look at every node of the kind.
-/

namespace SleepySession

open Program

/-- An object that is the only one with its identifier, in a certain state. -/
def Shown {α : Type} (key : α → Text) (items : List α) (id : Text) (P : α → Prop) : Prop :=
  ∃ item ∈ items, key item = id ∧ (∀ other ∈ items, key other = id → other = item) ∧ P item

theorem shown_of_mem
    {α : Type} {key : α → Text} {items : List α} {P : α → Prop} {item : α}
    (hnodup : (items.map key).Nodup)
    (hmem : item ∈ items)
    (hstate : P item) :
    Shown key items (key item) P :=
  ⟨item, hmem, rfl,
    fun _ hother hkey => List.inj_on_of_nodup_map hnodup hother hmem hkey, hstate⟩

theorem shown_of_any
    {α : Type} {key : α → Text} {items : List α} {id : Text} {P : α → Prop} [DecidablePred P]
    (hnodup : (items.map key).Nodup)
    (h : (items.any fun item => key item = id ∧ P item) = true) :
    Shown key items id P := by
  obtain ⟨item, hmem, hitem⟩ := List.any_eq_true.mp h
  obtain ⟨rfl, hstate⟩ := of_decide_eq_true hitem
  exact shown_of_mem hnodup hmem hstate

theorem nodup_map_append_singleton
    {α : Type} {key : α → Text} {items : List α} {item : α}
    (hnodup : (items.map key).Nodup)
    (hnew : key item ∉ items.map key) :
    ((items ++ [item]).map key).Nodup := by
  rw [List.map_append, List.map_singleton, ← List.concat_eq_append]
  exact hnodup.concat hnew

namespace Network

/-- The reads of `probe_readback`. -/
def Reads (reads : Transcript) (readback : NetworkReadback) : Prop :=
  ∃ radio accessPoints connections,
    reads = [succeeded radioSpec radio, succeeded accessPointsSpec accessPoints,
      succeeded connectionsSpec connections] ∧
    parseReadback radio accessPoints connections = .ok readback

/-- A read-back is the parsed output of the tools. -/
theorem probeReadback_reads :
    ReadsExactly probeReadback Reads := by
  intro β f script s s' b
  simp only [probeReadback, Program.bind_assoc, run_runAdapter_bind, run_orThrow_bind]
  constructor
  · rintro ⟨radio, _, rfl, accessPoints, _, rfl, connections, rest, rfl, readback, hparse, hrun⟩
    refine ⟨_, readback, rest, ⟨radio, accessPoints, connections, rfl, hparse⟩, rfl, ?_⟩
    simpa using hrun
  · rintro ⟨_, readback, rest, ⟨radio, accessPoints, connections, rfl, hparse⟩, rfl, hrun⟩
    refine ⟨radio, _, rfl, accessPoints, _, rfl, connections, rest, rfl, readback, hparse, ?_⟩
    simpa using hrun

/-- The active access points are among those that are listed, each once. -/
structure AccessPointParser.Distinct (parser : AccessPointParser) : Prop where
  nodup : (parser.accessPoints.map NetworkAccessPoint.id).Nodup
  seen : ∀ accessPoint ∈ parser.accessPoints, accessPoint.id ∈ parser.seen
  active : ∀ id ∈ parser.active, ∃ accessPoint ∈ parser.accessPoints, accessPoint.id = id

theorem AccessPointParser.Distinct.add
    {parser : AccessPointParser} {accessPoint : NetworkAccessPoint} {id : Text}
    {active : List Text}
    (hdistinct : parser.Distinct)
    (hid : accessPoint.id = id)
    (hnew : id ∉ parser.seen)
    (hactive : ∀ other ∈ active, other = id ∨ other ∈ parser.active) :
    AccessPointParser.Distinct
      ⟨id :: parser.seen, active, parser.accessPoints ++ [accessPoint]⟩ := by
  subst hid
  refine ⟨?_, ?_, ?_⟩
  · refine nodup_map_append_singleton hdistinct.nodup fun hold => ?_
    obtain ⟨old, hmem, hid⟩ := List.mem_map.mp hold
    exact hnew (hid ▸ hdistinct.seen old hmem)
  · intro other hmem
    rcases List.mem_append.mp hmem with hold | hlast
    · exact List.mem_cons_of_mem _ (hdistinct.seen other hold)
    · rw [List.mem_singleton.mp hlast]
      exact List.mem_cons_self
  · intro id hid
    rcases hactive id hid with rfl | hold
    · exact ⟨accessPoint, List.mem_append_right _ (List.mem_singleton_self _), rfl⟩
    · obtain ⟨old, hmem, hid⟩ := hdistinct.active id hold
      exact ⟨old, List.mem_append_left _ hmem, hid⟩

/-- A parsed line adds an access point that is not there yet. -/
theorem parseAccessPoint_distinct
    {parser parser' : AccessPointParser} {line : Text}
    (hdistinct : parser.Distinct)
    (h : parseAccessPoint parser line = .ok parser') :
    parser'.Distinct := by
  unfold parseAccessPoint at h
  obtain ⟨fields, _, h⟩ := Checks.bind_eq_ok_iff.mp h
  split at h
  case h_2 => cases h
  case h_1 inUse bssid ssid signal security =>
    -- One case for each way the row is rejected, skipped or kept.
    split at h
    · cases h
    split at h
    · cases h
      exact hdistinct
    split at h
    · cases h
    split at h
    · cases h
      exact hdistinct
    case isFalse hseen =>
      split at h
      · cases h
      split at h
      · cases h
      split at h
      · cases h
      cases h
      refine hdistinct.add rfl hseen fun other hother => ?_
      split at hother
      · exact List.mem_cons.mp hother
      · exact Or.inr hother

theorem parseConnection_nodup
    {connections connections' : List NetworkConnection} {line : Text}
    (hnodup : (connections.map NetworkConnection.id).Nodup)
    (h : parseConnection connections line = .ok connections') :
    (connections'.map NetworkConnection.id).Nodup := by
  unfold parseConnection at h
  obtain ⟨fields, _, h⟩ := Checks.bind_eq_ok_iff.mp h
  split at h
  case h_2 => cases h
  case h_1 uuid name kind device =>
    split at h
    · cases h
    split at h
    · cases h
      exact hnodup
    split at h
    · cases h
    split at h
    · cases h
    case isFalse hseen =>
      cases h
      exact nodup_map_append_singleton hnodup hseen

/-- The connections and access points of a read-back are distinct. -/
theorem parseReadback_distinct
    {radio accessPoints connections : Printed} {readback : NetworkReadback}
    (h : parseReadback radio accessPoints connections = .ok readback) :
    ((readback.snapshot.accessPoints.map NetworkAccessPoint.id).Nodup ∧
      ∀ id ∈ readback.activeAccessPoints,
        ∃ accessPoint ∈ readback.snapshot.accessPoints, accessPoint.id = id) ∧
    (readback.snapshot.connections.map NetworkConnection.id).Nodup := by
  obtain ⟨wifiEnabled, _, h⟩ := Checks.bind_eq_ok_iff.mp h
  obtain ⟨found, hfound, h⟩ := Checks.bind_eq_ok_iff.mp h
  obtain ⟨text, _, h⟩ := Checks.bind_eq_ok_iff.mp h
  obtain ⟨rows, hrows, h⟩ := Checks.bind_eq_ok_iff.mp h
  cases h
  have hempty : AccessPointParser.Distinct {} :=
    ⟨List.nodup_nil, by simp, by simp⟩
  have hdistinct : found.Distinct := by
    unfold parseAccessPoints at hfound
    split at hfound
    · obtain ⟨text, _, hfold⟩ := Checks.bind_eq_ok_iff.mp hfound
      exact Checks.foldlM_invariant AccessPointParser.Distinct
        (fun _ _ _ => parseAccessPoint_distinct) _ _ _ hempty hfold
    · cases hfound
      exact hempty
  refine ⟨⟨hdistinct.nodup, hdistinct.active⟩, ?_⟩
  exact Checks.foldlM_invariant (fun connections => (connections.map NetworkConnection.id).Nodup)
    (fun _ _ _ => parseConnection_nodup) _ _ _ List.nodup_nil hrows

/-- The readback shows the requested state of the addressed object. -/
def Shows (readback : NetworkReadback) : NetworkCommand → Prop
  | .setWifiEnabled enabled => readback.snapshot.wifiEnabled = enabled
  | .scanWifi => True
  | .connectWifi id =>
      Shown NetworkAccessPoint.id readback.snapshot.accessPoints id fun accessPoint =>
        accessPoint.id ∈ readback.activeAccessPoints
  | .disconnect id =>
      (readback.snapshot.connections.map NetworkConnection.id).Nodup ∧
        ∀ connection ∈ readback.snapshot.connections,
          connection.id = id → connection.connected = false

theorem shows_of_confirmed
    {radio accessPoints connections : Printed} {readback : NetworkReadback}
    {command : NetworkCommand}
    (hparse : parseReadback radio accessPoints connections = .ok readback)
    (h : confirmed readback command = true) :
    Shows readback command := by
  obtain ⟨⟨haccessPoints, hactive⟩, hconnections⟩ := parseReadback_distinct hparse
  cases command with
  | setWifiEnabled enabled => simpa [confirmed, Shows] using h
  | scanWifi => trivial
  | connectWifi id =>
      have hid : id ∈ readback.activeAccessPoints := by simpa [confirmed] using h
      obtain ⟨accessPoint, hmem, rfl⟩ := hactive id hid
      exact shown_of_mem haccessPoints hmem hid
  | disconnect id =>
      refine ⟨hconnections, fun connection hmem hid => ?_⟩
      simp only [confirmed, List.all_eq_true, decide_eq_true_eq] at h
      exact (h connection hmem).resolve_left fun hne => hne hid

end Network

namespace Bluetooth

open Network (isAsciiHexDigit toAsciiUppercase replaceChar canonicalMac)

/-- The reads of `probe`. -/
def Reads (reads : Transcript) (snapshot : BluetoothSnapshot) : Prop :=
  ∃ owner shown devices details,
    reads = succeeded ownerSpec owner :: succeeded showSpec shown ::
      succeeded devicesSpec devices :: succeededEach infoSpec details ∧
    checkOwner owner = .ok () ∧
    (∃ rows, parseDeviceRows devices = .ok rows ∧ details.map Prod.fst = rows.map Prod.fst) ∧
    parseSnapshot shown devices details = .ok snapshot

theorem checkController_eq_ok
    (result : CommandResult) (printed : Printed) :
    checkController result = .ok printed ↔ result = .ok ⟨0, printed⟩ := by
  rcases result with kind | ⟨status, stdout⟩
  · exact commandOutput_eq_ok
  · simp only [checkController]
    split
    case isTrue h => simp [h.1]
    case isFalse => exact commandOutput_eq_ok

theorem probe_reads :
    ReadsExactly probe Reads := by
  intro β f script s s' b
  simp only [probe, Program.bind_assoc, run_runAdapter_bind, run_orThrow_bind,
    run_runCommand_checked checkController_eq_ok, run_runEach_bind]
  constructor
  · rintro ⟨owner, _, rfl, _, howner, shown, _, rfl, state, hstate, devices, _, rfl, rows, hrows,
      details, rest, hdetails, rfl, snapshot, hparse, hrun⟩
    refine ⟨_, snapshot, rest,
      ⟨owner, shown, devices, details, rfl, howner, ⟨rows, hrows, hdetails⟩, hparse⟩, ?_, ?_⟩
    · simp
    · simpa using hrun
  · rintro ⟨_, snapshot, rest,
      ⟨owner, shown, devices, details, rfl, howner, ⟨rows, hrows, hdetails⟩, hparse⟩, rfl, hrun⟩
    obtain ⟨state, hstate, _⟩ := Checks.bind_eq_ok_iff.mp hparse
    refine ⟨owner, _, rfl, (), howner, shown, _, rfl, state, hstate, devices, _, rfl, rows, hrows,
      details, rest, hdetails, congrArg (· ++ rest) (answers_succeededEach infoSpec details),
      snapshot, hparse, ?_⟩
    simpa using hrun

theorem toAsciiUppercase_hexDigit
    {c : Char}
    (h : isAsciiHexDigit c = true) :
    toAsciiUppercase (toAsciiUppercase c) = toAsciiUppercase c ∧ toAsciiUppercase c ≠ '-' := by
  have hc : c = Char.ofNat c.toNat := (Char.ofNat_toNat c).symm
  have hrange : (0x30 ≤ c.toNat ∧ c.toNat ≤ 0x39) ∨ (0x41 ≤ c.toNat ∧ c.toNat ≤ 0x46) ∨
      (0x61 ≤ c.toNat ∧ c.toNat ≤ 0x66) := by
    simpa [isAsciiHexDigit, isAsciiDigit, or_assoc] using h
  rw [hc]
  generalize c.toNat = n at hrange
  rcases hrange with ⟨hlow, hhigh⟩ | ⟨hlow, hhigh⟩ | ⟨hlow, hhigh⟩ <;>
    interval_cases n <;> decide

/-- A hardware address in capitals. -/
structure Canonical (mac : Text) : Prop where
  upper : mac.map toAsciiUppercase = mac
  noHyphen : '-' ∉ mac

/-- What is accepted as an address is in canonical form. -/
theorem canonicalMac_canonical
    {value mac : Text}
    (h : canonicalMac value = .ok mac) :
    Canonical mac := by
  unfold canonicalMac at h
  split at h
  case isFalse => cases h
  case isTrue hvalid =>
    cases h
    have hchar : ∀ c ∈ value, c = ':' ∨ isAsciiHexDigit c = true := by
      intro c hc
      obtain ⟨i, hi, rfl⟩ := List.mem_iff_getElem.mp hc
      have hentry := List.all_eq_true.mp hvalid.2 (value[i], i)
        (List.mem_zipIdx_iff_getElem?.mpr (by simp [hi]))
      by_cases hcolon : i % 3 = 2
      · exact Or.inl (by simpa [hcolon] using hentry)
      · exact Or.inr (by simpa [hcolon] using hentry)
    refine ⟨?_, ?_⟩
    · rw [List.map_map]
      refine List.map_congr_left fun c hc => ?_
      rcases hchar c hc with rfl | hhex
      · decide
      · exact (toAsciiUppercase_hexDigit hhex).1
    · intro hmem
      obtain ⟨c, hc, hup⟩ := List.mem_map.mp hmem
      rcases hchar c hc with rfl | hhex
      · exact absurd hup (by decide)
      · exact (toAsciiUppercase_hexDigit hhex).2 hup

theorem replaceChar_replaceChar
    {mac : Text}
    (h : '-' ∉ mac) :
    replaceChar '-' ':' (replaceChar ':' '-' mac) = mac := by
  unfold replaceChar
  rw [List.map_map]
  conv_rhs => rw [← List.map_id mac]
  refine List.map_congr_left fun c hc => ?_
  have hne : c ≠ '-' := fun heq => h (heq ▸ hc)
  by_cases hcolon : c = ':' <;> simp [hcolon, hne]

/-- The identifier of the device of a row. -/
def rowId (row : Text × Text) : Text :=
  devicePrefix ++ replaceChar ':' '-' (row.1.map toAsciiUppercase)

/-- The rows have canonical addresses, each once. -/
def DistinctRows (rows : List (Text × Text)) : Prop :=
  (rows.map Prod.fst).Nodup ∧ ∀ row ∈ rows, Canonical row.1

/-- A parsed row adds a device that is not there yet. -/
theorem parseDeviceRow_distinct
    {rows rows' : List (Text × Text)} {line : Text}
    (hdistinct : DistinctRows rows)
    (h : parseDeviceRow rows line = .ok rows') :
    DistinctRows rows' := by
  unfold parseDeviceRow at h
  split at h
  case h_2 => cases h
  case h_1 first rest _ =>
    split at h
    · cases h
    split at h
    · cases h
    split at h
    · cases h
    case h_2 hmac =>
      dsimp only at h
      split at h
      · cases h
      case isFalse hnew =>
        split at h
        · cases h
        split at h
        · cases h
        cases h
        refine ⟨nodup_map_append_singleton hdistinct.1 hnew, fun row hrow => ?_⟩
        rcases List.mem_append.mp hrow with hold | hlast
        · exact hdistinct.2 row hold
        · rw [List.mem_singleton.mp hlast]
          exact canonicalMac_canonical hmac

theorem rowIds_nodup
    {rows : List (Text × Text)}
    (h : DistinctRows rows) :
    (rows.map rowId).Nodup := by
  have hnodup := List.Nodup.of_map _ h.1
  refine hnodup.map_on fun row hrow other hother heq => ?_
  have hreplaced := List.append_cancel_left heq
  rw [(h.2 row hrow).upper, (h.2 other hother).upper] at hreplaced
  have hmac : row.1 = other.1 := by
    rw [← replaceChar_replaceChar (h.2 row hrow).noHyphen, hreplaced,
      replaceChar_replaceChar (h.2 other hother).noHyphen]
  exact List.inj_on_of_nodup_map h.1 hrow hother hmac

/-- A parsed device has the id of its row. -/
theorem parseDevice_id
    {details : List (Text × Printed)} {row : Text × Text} {device : BluetoothDevice}
    (h : parseDevice details row = .ok device) :
    device.id = rowId row := by
  unfold parseDevice at h
  split at h
  case h_1 => cases h
  case h_2 =>
    obtain ⟨info, _, h⟩ := Checks.bind_eq_ok_iff.mp h
    dsimp only at h
    split at h
    · cases h
    obtain ⟨id, hid, h⟩ := Checks.bind_eq_ok_iff.mp h
    obtain ⟨paired, _, h⟩ := Checks.bind_eq_ok_iff.mp h
    obtain ⟨connected, _, h⟩ := Checks.bind_eq_ok_iff.mp h
    cases h
    obtain ⟨mac, hmac, hid⟩ := Checks.bind_eq_ok_iff.mp hid
    cases hid
    unfold canonicalMac at hmac
    split at hmac
    · cases hmac
      rfl
    · cases hmac

theorem parseSnapshot_nodup
    {shown devices : Printed} {details : List (Text × Printed)} {snapshot : BluetoothSnapshot}
    (h : parseSnapshot shown devices details = .ok snapshot) :
    (snapshot.devices.map BluetoothDevice.id).Nodup := by
  obtain ⟨state, _, h⟩ := Checks.bind_eq_ok_iff.mp h
  obtain ⟨rows, hrows, h⟩ := Checks.bind_eq_ok_iff.mp h
  split at h
  · cases h
  obtain ⟨parsed, hparsed, h⟩ := Checks.bind_eq_ok_iff.mp h
  cases h
  obtain ⟨text, _, hfold⟩ := Checks.bind_eq_ok_iff.mp hrows
  have hdistinct : DistinctRows rows :=
    Checks.foldlM_invariant DistinctRows (fun _ _ _ => parseDeviceRow_distinct) _ _ _
      ⟨by simp, by simp⟩ hfold
  rw [Checks.mapM_keys (fun _ _ => parseDevice_id) rows parsed hparsed]
  exact rowIds_nodup hdistinct

/-- The snapshot shows the requested state of the addressed device. -/
def Shows (snapshot : BluetoothSnapshot) : BluetoothCommand → Prop
  | .setPowered powered => snapshot.powered = powered
  | .scan => True
  | .pair id => Shown BluetoothDevice.id snapshot.devices id fun device => device.paired = true
  | .connect id =>
      Shown BluetoothDevice.id snapshot.devices id fun device => device.connected = true
  | .disconnect id =>
      Shown BluetoothDevice.id snapshot.devices id fun device => device.connected = false

theorem shows_of_confirmed
    {shown devices : Printed} {details : List (Text × Printed)} {snapshot : BluetoothSnapshot}
    {command : BluetoothCommand}
    (hparse : parseSnapshot shown devices details = .ok snapshot)
    (h : confirmed snapshot command = true) :
    Shows snapshot command := by
  have hnodup := parseSnapshot_nodup hparse
  cases command with
  | setPowered powered => simpa [confirmed, Shows] using h
  | scan => trivial
  | pair id => exact shown_of_any hnodup h
  | connect id => exact shown_of_any hnodup h
  | disconnect id => exact shown_of_any hnodup h

end Bluetooth

namespace Audio

/-- The reads of `probe`. -/
def Reads (reads : Transcript) (snapshot : AudioSnapshot) : Prop :=
  ∃ status volumes,
    reads = succeeded statusSpec status :: succeededEach volumeSpec volumes ∧
    (∃ rows, parseRows status = .ok rows ∧ volumes.map Prod.fst = rows.map Row.id) ∧
    parseSnapshot status volumes = .ok snapshot

theorem probe_reads :
    ReadsExactly probe Reads := by
  intro β f script s s' b
  simp only [probe, Program.bind_assoc, run_runAdapter_bind, run_orThrow_bind, run_runEach_bind]
  constructor
  · rintro ⟨status, _, rfl, rows, hrows, volumes, rest, hvolumes, rfl, snapshot, hparse, hrun⟩
    refine ⟨_, snapshot, rest, ⟨status, volumes, rfl, ⟨rows, hrows, hvolumes⟩, hparse⟩, ?_, ?_⟩
    · simp
    · simpa using hrun
  · rintro ⟨_, snapshot, rest, ⟨status, volumes, rfl, ⟨rows, hrows, hvolumes⟩, hparse⟩, rfl, hrun⟩
    refine ⟨status, _, rfl, rows, hrows, volumes, rest, hvolumes,
      congrArg (· ++ rest) (answers_succeededEach volumeSpec volumes), snapshot, hparse, ?_⟩
    simpa using hrun

theorem numeric_eq
    {value id : Text}
    (h : numeric value = .ok id) :
    id = value := by
  unfold numeric at h
  split at h
  · cases h
  split at h
  · cases h
    rfl
  · cases h

/-- The id of a node names its number. -/
theorem nodeId_eq
    {value id : Text}
    (h : nodeId value = .ok id) :
    id = nodePrefix ++ value := by
  obtain ⟨value', hvalue, h⟩ := Checks.bind_eq_ok_iff.mp h
  cases h
  rw [numeric_eq hvalue]

/-- The id of a stream names its number. -/
theorem streamId_eq
    {value id : Text}
    (h : streamId value = .ok id) :
    id = streamPrefix ++ value := by
  obtain ⟨value', hvalue, h⟩ := Checks.bind_eq_ok_iff.mp h
  cases h
  rw [numeric_eq hvalue]

theorem parseRow_nodup
    {parser parser' : RowParser} {kind : RowKind} {trimmed : Text}
    (hnodup : (parser.rows.map Row.id).Nodup)
    (h : parseRow parser kind trimmed = .ok parser') :
    (parser'.rows.map Row.id).Nodup := by
  unfold parseRow at h
  dsimp only at h
  split at h
  · cases h
    exact hnodup
  split at h
  · cases h
  split at h
  · cases h
  case isFalse hnew =>
    split at h
    · cases h
    split at h
    · cases h
    split at h
    · cases h
    cases h
    exact nodup_map_append_singleton hnodup hnew

/-- A line of the status adds a row with a new id, or none. -/
theorem parseLine_nodup
    {parser parser' : RowParser} {line : Text}
    (hnodup : (parser.rows.map Row.id).Nodup)
    (h : parseLine parser line = .ok parser') :
    (parser'.rows.map Row.id).Nodup := by
  unfold parseLine at h
  dsimp only at h
  split at h
  · cases h
    exact hnodup
  split at h
  · cases h
    exact hnodup
  split at h
  · cases h
    exact hnodup
  have hrows : (if (trimStartMatches isTreeMark line).getLast? = some ':' then
      { parser with kind := none } else parser).rows = parser.rows := by
    split <;> rfl
  split at h
  · cases h
    rw [hrows]
    exact hnodup
  split at h
  · cases h
    rw [hrows]
    exact hnodup
  · refine parseRow_nodup ?_ h
    rw [hrows]
    exact hnodup

theorem parseRows_nodup
    {status : Printed} {rows : List Row}
    (h : parseRows status = .ok rows) :
    (rows.map Row.id).Nodup := by
  obtain ⟨text, _, h⟩ := Checks.bind_eq_ok_iff.mp h
  obtain ⟨parser, hfold, h⟩ := Checks.bind_eq_ok_iff.mp h
  have hnodup : (parser.rows.map Row.id).Nodup :=
    Checks.foldlM_invariant (fun parser : RowParser => (parser.rows.map Row.id).Nodup)
      (fun _ _ _ => parseLine_nodup) _ _ _ (by simp) hfold
  split at h
  · cases h
  split at h
  · cases h
  cases h
  exact hnodup

def AudioObject.id : AudioObject → Text
  | .node found => found.id
  | .stream found => found.id

/-- The identifier of the object of a row. -/
def rowId (row : Row) : Text :=
  (if row.kind = .stream then streamPrefix else nodePrefix) ++ row.id

/-- A parsed object has the id of its row. -/
theorem parseObject_id
    {defaultOutput : Text} {volumes : List (Text × Printed)} {row : Row} {object : AudioObject}
    (h : parseObject defaultOutput volumes row = .ok object) :
    object.id = rowId row := by
  unfold parseObject at h
  split at h
  · cases h
  obtain ⟨⟨volume, muted⟩, _, h⟩ := Checks.bind_eq_ok_iff.mp h
  dsimp only at h
  split at h
  case h_1 hkind =>
    obtain ⟨id, hid, h⟩ := Checks.bind_eq_ok_iff.mp h
    cases h
    simp [rowId, hkind, AudioObject.id, nodeId_eq hid]
  case h_2 hkind =>
    obtain ⟨id, hid, h⟩ := Checks.bind_eq_ok_iff.mp h
    cases h
    simp [rowId, hkind, AudioObject.id, nodeId_eq hid]
  case h_3 hkind =>
    obtain ⟨id, hid, h⟩ := Checks.bind_eq_ok_iff.mp h
    obtain ⟨node, _, h⟩ := Checks.bind_eq_ok_iff.mp h
    cases h
    simp [rowId, hkind, AudioObject.id, streamId_eq hid]

/-- No node is taken for a stream. -/
theorem nodePrefix_ne_streamPrefix
    (left right : Text) :
    nodePrefix ++ left ≠ streamPrefix ++ right := by
  intro h
  have hnode : (nodePrefix ++ left)[6]? = some 'n' :=
    List.getElem?_append_left (by decide)
  have hstream : (streamPrefix ++ right)[6]? = some 's' :=
    List.getElem?_append_left (by decide)
  rw [h, hstream] at hnode
  exact absurd hnode (by decide)

theorem rowIds_nodup
    {rows : List Row}
    (h : (rows.map Row.id).Nodup) :
    (rows.map rowId).Nodup := by
  refine (List.Nodup.of_map _ h).map_on fun row hrow other hother heq => ?_
  refine List.inj_on_of_nodup_map h hrow hother ?_
  unfold rowId at heq
  split at heq <;> split at heq
  · exact List.append_cancel_left heq
  · exact absurd heq.symm (nodePrefix_ne_streamPrefix _ _)
  · exact absurd heq (nodePrefix_ne_streamPrefix _ _)
  · exact List.append_cancel_left heq

/-- A choice among the objects keeps their identifiers apart. -/
theorem filterMap_nodup
    {α : Type} {key : α → Text} {choose : AudioObject → Option α}
    (hkey : ∀ object a, choose object = some a → key a = object.id)
    {objects : List AudioObject}
    (h : (objects.map AudioObject.id).Nodup) :
    ((objects.filterMap choose).map key).Nodup := by
  refine h.sublist ?_
  induction objects with
  | nil => exact List.Sublist.refl _
  | cons object objects ih =>
      have hrest := ih (List.nodup_cons.mp h).2
      cases hchoice : choose object with
      | none =>
          rw [List.filterMap_cons_none hchoice]
          exact hrest.cons _
      | some a =>
          rw [List.filterMap_cons_some hchoice, List.map_cons, List.map_cons, hkey _ _ hchoice]
          exact hrest.cons_cons _

theorem parseSnapshot_nodup
    {status : Printed} {volumes : List (Text × Printed)} {snapshot : AudioSnapshot}
    (h : parseSnapshot status volumes = .ok snapshot) :
    (snapshot.nodes.map AudioNode.id).Nodup ∧ (snapshot.streams.map AudioStream.id).Nodup := by
  obtain ⟨rows, hrows, h⟩ := Checks.bind_eq_ok_iff.mp h
  split at h
  · cases h
  obtain ⟨objects, hobjects, h⟩ := Checks.bind_eq_ok_iff.mp h
  dsimp only at h
  split at h
  · cases h
  cases h
  have hnodup : (objects.map AudioObject.id).Nodup := by
    rw [Checks.mapM_keys (fun _ _ => parseObject_id) rows objects hobjects]
    exact rowIds_nodup (parseRows_nodup hrows)
  refine ⟨filterMap_nodup ?_ hnodup, filterMap_nodup ?_ hnodup⟩
  · rintro (node | stream) a ha
    · cases ha
      rfl
    · cases ha
  · rintro (node | stream) a ha
    · cases ha
    · cases ha
      rfl

/-- The snapshot shows the requested state of the addressed node or stream. -/
def Shows (snapshot : AudioSnapshot) : AudioCommand → Prop
  | .setDefaultNode id =>
      Shown AudioNode.id snapshot.nodes id fun node => node.isDefault = true
  | .setNodeVolume id level =>
      Shown AudioNode.id snapshot.nodes id fun node => node.volume.Close level
  | .setNodeMuted id muted =>
      Shown AudioNode.id snapshot.nodes id fun node => node.muted = muted
  | .setStreamVolume id level =>
      Shown AudioStream.id snapshot.streams id fun stream => stream.volume.Close level
  | .setStreamMuted id muted =>
      Shown AudioStream.id snapshot.streams id fun stream => stream.muted = muted

theorem shows_of_confirmed
    {status : Printed} {volumes : List (Text × Printed)} {snapshot : AudioSnapshot}
    {command : AudioCommand}
    (hparse : parseSnapshot status volumes = .ok snapshot)
    (h : confirmed snapshot command = true) :
    Shows snapshot command := by
  obtain ⟨hnodes, hstreams⟩ := parseSnapshot_nodup hparse
  cases command with
  | setDefaultNode id => exact shown_of_any hnodes h
  | setNodeVolume id level => exact shown_of_any hnodes h
  | setNodeMuted id muted => exact shown_of_any hnodes h
  | setStreamVolume id level => exact shown_of_any hstreams h
  | setStreamMuted id muted => exact shown_of_any hstreams h

/--
The snapshot shows the state that a legacy command asks for: of the named
node, or else of the default node of the kind.
-/
def LegacyTarget.ShownBy (target : LegacyTarget) (snapshot : AudioSnapshot) : Prop :=
  match target.targetId with
  | some id =>
      Shown AudioNode.id snapshot.nodes id fun node =>
        node.kind = target.kind ∧ node.isDefault = true ∧ target.Shows node
  | none =>
      (∃ node ∈ snapshot.nodes, node.kind = target.kind ∧ node.isDefault = true) ∧
        ∀ node ∈ snapshot.nodes,
          node.kind = target.kind → node.isDefault = true → target.Shows node

/-- The default mark is looked for exactly where a node is named. -/
theorem legacyTarget_default
    {mutation : SystemMutation} {target : LegacyTarget}
    (htarget : legacyTarget mutation = .ok target) :
    target.default = target.targetId.isSome := by
  cases mutation with
  | audioOutputDevice device =>
      obtain ⟨node, _, htarget⟩ := Checks.bind_eq_ok_iff.mp htarget
      obtain ⟨spec, _, htarget⟩ := Checks.bind_eq_ok_iff.mp htarget
      cases htarget
      rfl
  | other => cases htarget
  | audioVolume _ => cases htarget; rfl
  | audioMuted _ => cases htarget; rfl
  | audioMicrophoneLevel _ => cases htarget; rfl
  | audioMicrophoneMuted _ => cases htarget; rfl

/-- A command that names its node is confirmed by that node alone. -/
theorem shownBy_of_named
    {status : Printed} {volumes : List (Text × Printed)} {snapshot : AudioSnapshot}
    {mutation : SystemMutation} {target : LegacyTarget} {id : Text}
    (hparse : parseSnapshot status volumes = .ok snapshot)
    (htarget : legacyTarget mutation = .ok target)
    (hid : target.targetId = some id)
    (h : snapshot.nodes.any target.accepts = true) :
    target.ShownBy snapshot := by
  obtain ⟨node, hmem, haccepts⟩ := List.any_eq_true.mp h
  obtain ⟨hkind, hnode, hdefault, hshows⟩ := of_decide_eq_true haccepts
  simp only [hid, reduceCtorEq, Option.some.injEq, false_or] at hnode
  subst hnode
  simp only [LegacyTarget.ShownBy, hid]
  exact shown_of_mem (parseSnapshot_nodup hparse).1 hmem
    ⟨hkind, hdefault (by rw [legacyTarget_default htarget, hid]; rfl), hshows⟩

end Audio

namespace Media

/-- The reads of `probe_observation`. -/
def Reads (reads : Transcript) (observation : MediaObservation) : Prop :=
  ∃ players metadata,
    reads = succeeded listSpec players :: succeededEach metadataSpec metadata ∧
    playerNames players = .ok (metadata.map Prod.fst) ∧
    parseObservation players metadata = .ok observation

theorem probeObservation_reads :
    ReadsExactly probeObservation Reads := by
  intro β f script s s' b
  simp only [probeObservation, Program.bind_assoc, run_runAdapter_bind, run_orThrow_bind,
    run_runEach_bind]
  constructor
  · rintro ⟨players, _, rfl, names, hnames, metadata, rest, rfl, rfl, observation, hparse, hrun⟩
    refine ⟨_, observation, rest, ⟨players, metadata, rfl, hnames, hparse⟩, ?_, ?_⟩
    · simp
    · simpa using hrun
  · rintro ⟨_, observation, rest, ⟨players, metadata, rfl, hnames, hparse⟩, rfl, hrun⟩
    refine ⟨players, _, rfl, _, hnames, metadata, rest, rfl,
      congrArg (· ++ rest) (answers_succeededEach metadataSpec metadata), observation, hparse, ?_⟩
    simpa using hrun

/-- The id of a player names its bus. -/
theorem playerId_eq
    {name id : Text}
    (h : playerId name = .ok id) :
    id = playerPrefix ++ name := by
  unfold playerId at h
  split at h
  · cases h
    rfl
  · cases h

theorem parsePlayerName_nodup
    {names names' : List Text} {name : Text}
    (hnodup : names.Nodup)
    (h : parsePlayerName names name = .ok names') :
    names'.Nodup := by
  unfold parsePlayerName at h
  split at h
  · cases h
  split at h
  · cases h
  case isFalse hnew =>
    split at h
    · cases h
    cases h
    rw [← List.concat_eq_append]
    exact hnodup.concat hnew

/-- A parsed player has the id of its bus name. -/
theorem parsePlayer_id
    {metadata : List (Text × Printed)} {name : Text} {player : MediaPlayer × Option Text}
    (h : parsePlayer metadata name = .ok player) :
    player.1.id = playerPrefix ++ name := by
  unfold parsePlayer at h
  split at h
  · cases h
  obtain ⟨text, _, h⟩ := Checks.bind_eq_ok_iff.mp h
  split at h
  case h_2 => cases h
  case h_1 =>
    split at h
    · cases h
    split at h
    · cases h
    obtain ⟨playing, _, h⟩ := Checks.bind_eq_ok_iff.mp h
    obtain ⟨position, _, h⟩ := Checks.bind_eq_ok_iff.mp h
    obtain ⟨length, _, h⟩ := Checks.bind_eq_ok_iff.mp h
    obtain ⟨progress, _, h⟩ := Checks.bind_eq_ok_iff.mp h
    obtain ⟨track, _, h⟩ := Checks.bind_eq_ok_iff.mp h
    obtain ⟨id, hid, h⟩ := Checks.bind_eq_ok_iff.mp h
    cases h
    exact playerId_eq hid

/-- The players of an observation are distinct. -/
theorem parseObservation_nodup
    {players : Printed} {metadata : List (Text × Printed)} {observation : MediaObservation}
    (h : parseObservation players metadata = .ok observation) :
    (observation.snapshot.players.map MediaPlayer.id).Nodup := by
  obtain ⟨names, hnames, h⟩ := Checks.bind_eq_ok_iff.mp h
  split at h
  · cases h
  obtain ⟨parsed, hparsed, h⟩ := Checks.bind_eq_ok_iff.mp h
  cases h
  obtain ⟨text, _, hfold⟩ := Checks.bind_eq_ok_iff.mp hnames
  have hnodup : names.Nodup :=
    Checks.foldlM_invariant List.Nodup (fun _ _ _ => parsePlayerName_nodup) _ _ _ List.nodup_nil hfold
  rw [List.map_map]
  rw [show parsed.map (MediaPlayer.id ∘ Prod.fst) = names.map (playerPrefix ++ ·) from
    Checks.mapM_keys (fun _ _ => parsePlayer_id) names parsed hparsed]
  exact hnodup.map fun _ _ heq => List.append_cancel_left heq

/-- The observations before and after show a change of the addressed player. -/
def Shows (before after : MediaObservation) (command : MediaCommand) : Prop :=
  match command.transport with
  | .playPause =>
      ∃ playing,
        Shown MediaPlayer.id before.snapshot.players command.playerId
          (fun player => player.playing = playing) ∧
        Shown MediaPlayer.id after.snapshot.players command.playerId
          (fun player => player.playing = ! playing)
  | _ => True

/-- A player that is found was observed. -/
theorem findPlayer_mem
    {message : String} {observation : MediaObservation} {id : Text} {player : MediaPlayer}
    (h : findPlayer message observation id = .ok player) :
    player ∈ observation.snapshot.players ∧ player.id = id := by
  unfold findPlayer at h
  split at h
  case h_1 hfind =>
    cases h
    exact ⟨List.mem_of_find?_eq_some hfind, by simpa using List.find?_some hfind⟩
  case h_2 => cases h

/-- What a successful command has read, before and after it. -/
theorem run_mutate
    {command : MediaCommand} {script : List CommandResult} {s s' : Transcript}
    {snapshot : MediaSnapshot}
    (h : (mutate command).run script s = (.ok snapshot, s')) :
    ∃ earlier before spec printed reads after,
      mutationSpec command = .ok spec ∧
      s' = s ++ (earlier ++ succeeded spec printed :: reads) ∧
      Reads earlier before ∧ Reads reads after ∧ snapshot = after.snapshot ∧
      Shows before after command := by
  simp only [mutate, probeObservation_reads _, run_orThrow_bind, run_runAdapter_bind,
    run_pure_eq_ok] at h
  obtain ⟨earlier, before, _, hbefore, rfl, beforePlayer, hbeforePlayer, spec, hspec, printed, _,
    rfl, reads, after, rest, hafter, rfl, afterPlayer, hafterPlayer, _, hcheck, rfl, rfl⟩ := h
  refine ⟨earlier, before, spec, printed, reads, after, hspec, by simp, hbefore, hafter, rfl, ?_⟩
  obtain ⟨_, _, _, _, hparseBefore⟩ := hbefore
  obtain ⟨_, _, _, _, hparseAfter⟩ := hafter
  obtain ⟨hmemBefore, hidBefore⟩ := findPlayer_mem hbeforePlayer
  obtain ⟨hmemAfter, hidAfter⟩ := findPlayer_mem hafterPlayer
  have hconfirmed := checkConfirmed_eq_ok.mp hcheck
  unfold Shows
  unfold confirmed at hconfirmed
  split
  case h_1 htransport =>
    rw [htransport] at hconfirmed
    have hchange : beforePlayer.playing ≠ afterPlayer.playing := of_decide_eq_true hconfirmed
    refine ⟨beforePlayer.playing, ?_, ?_⟩
    · rw [← hidBefore]
      exact shown_of_mem (parseObservation_nodup hparseBefore) hmemBefore rfl
    · rw [← hidAfter]
      refine shown_of_mem (parseObservation_nodup hparseAfter) hmemAfter ?_
      exact Bool.eq_not_of_ne hchange.symm
  case h_2 => trivial

end Media

end SleepySession
