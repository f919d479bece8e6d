import SleepySession.Lib.Checks
import SleepySession.Lib.Keyed
import SleepySession.Store.Error

/-!
# Documents of the store

Presets and settings as the store handles them.  Parsing, validation and
serialization belong to the document library; they are the parameters of
`Sdk`.  What the store adds on top of them is defined here: the order of the
checks and the checks on a whole list of presets.
-/

namespace SleepySession

inductive PresetOrigin where
  | builtin
  | user
deriving DecidableEq, Repr

/-- A preset; `content` stands for the fields that the store never looks at. -/
structure PresetDocument where
  id : String
  name : String
  origin : PresetOrigin
  basePresetId : Option String
  keybindings : List (String × String)
  content : String
deriving DecidableEq, Repr

structure SettingsDocument where
  schemaVersion : Nat
  activePresetId : String
  appearanceMode : String
  paletteSource : String
  reducedMotion : Bool
  effectsProfile : String
  panelVisibility : String
  webSearchEnabled : Bool
deriving DecidableEq, Repr

inductive ImportMode where
  | reject
  | copy
  | replace
deriving DecidableEq, Repr

/-- The packaged documents. -/
structure Defaults where
  settings : SettingsDocument
  builtins : List PresetDocument

def builtinPresetId : String :=
  "builtin.sleepy"

/-- Document functions over file contents `β`, texts `τ` and JSON values `ν`. -/
structure Sdk (β τ ν : Type) where
  fromUtf8 : β → Except String τ
  valuesFromStr : τ → Except String (List ν)
  valueToString : ν → τ
  presetFromValue : ν → Option PresetDocument
  presetToValue : PresetDocument → ν
  presetsToVec : List PresetDocument → β
  settingsToValue : SettingsDocument → ν
  settingsToVec : SettingsDocument → β
  /-- A conflict between the keybindings of a preset, or with a reserved one. -/
  keybindingConflict : PresetDocument → Option String
  canonicalizeAccelerator : String → Except String String
  validatePreset : τ → Except String PresetDocument
  validateSettings : τ → Except String SettingsDocument

/-- Report an error text under a code of the store. -/
def withCode {α : Type} (code : String → Failure) : Except String α → Except Failure α
  | .ok a => .ok a
  | .error e => .error (code e)

/-- Insert into, or overwrite in, a map that is kept in order of its keys. -/
def insertKeybinding
    (action accelerator : String) (keybindings : List (String × String)) :
    List (String × String) :=
  (keybindings.filter fun b => b.1 ≠ action).orderedInsert
    (fun l r => l.1 ≤ r.1) (action, accelerator)

def removeKeybinding
    (action : String) (keybindings : List (String × String)) :
    List (String × String) :=
  keybindings.filter fun b => b.1 ≠ action

/-- `sort_by(|left, right| left.id.cmp(&right.id))`. -/
def sortById (presets : List PresetDocument) : List PresetDocument :=
  presets.insertionSort fun l r => l.id ≤ r.id

def checkedName (name : String) : Except Failure String :=
  if blank name then
    .error (.invalid "preset name must not be empty")
  else
    .ok name

section Checks

variable {β τ ν : Type} (sdk : Sdk β τ ν)

def Sdk.parsePreset (value : ν) : Except Failure PresetDocument := do
  match (sdk.presetFromValue value).bind sdk.keybindingConflict with
  | some conflict => throw (.keybindingConflict conflict)
  | none => pure ()
  withCode .invalid (sdk.validatePreset (sdk.valueToString value))

def Sdk.parseSettings (value : ν) : Except Failure SettingsDocument :=
  withCode .invalid (sdk.validateSettings (sdk.valueToString value))

/-- A preset of the user's own list. -/
def Sdk.parseUserPreset (value : ν) : Except Failure PresetDocument := do
  let preset ← sdk.parsePreset value
  if preset.origin = .user then
    pure preset
  else
    throw (.invalid "user preset store contains a builtin preset")

/-- The presets that `presets.json` holds. -/
def Sdk.userPresets (bytes : β) : Except Failure (List PresetDocument) := do
  let input ← withCode .invalid (sdk.fromUtf8 bytes)
  let values ← withCode .invalid (sdk.valuesFromStr input)
  let presets ← values.mapM sdk.parseUserPreset
  if Keyed.Unique PresetDocument.id presets then
    pure presets
  else
    throw (.invalid "user preset store contains duplicate ids")

/-- The settings that `settings.json` holds. -/
def Sdk.settings (bytes : β) : Except Failure SettingsDocument := do
  let input ← withCode .invalid (sdk.fromUtf8 bytes)
  withCode .invalid (sdk.validateSettings input)

/-- The check of one preset before the list is written. -/
def Sdk.checkUserPreset (preset : PresetDocument) : Except Failure Unit :=
  if preset.origin = .user then do
    let _ ← sdk.parsePreset (sdk.presetToValue preset)
    pure ()
  else
    throw (.invalid "user preset store contains a builtin preset")

/-- The checks of `write_user_presets`. -/
def Sdk.checkUserPresets (presets : List PresetDocument) : Except Failure Unit :=
  if Keyed.Unique PresetDocument.id presets then do
    let _ ← presets.mapM sdk.checkUserPreset
    pure ()
  else
    throw (.invalid "user preset store contains duplicate ids")

/-- `Defaults::from_json`: nothing but `builtin.sleepy` is accepted. -/
def Defaults.fromJson (settings : ν) (presets : List ν) : Except Failure Defaults := do
  let settings ← withCode .invalid (sdk.validateSettings (sdk.valueToString settings))
  let builtins ← presets.mapM fun preset =>
    withCode .invalid (sdk.validatePreset (sdk.valueToString preset))
  if builtins = [] ∨
      (builtins.any fun preset => preset.origin ≠ .builtin) ∨
      (builtins.any fun preset => preset.id ≠ builtinPresetId) ∨
      ¬ Keyed.Unique PresetDocument.id builtins ∨
      settings.activePresetId ∉ builtins.map PresetDocument.id then
    throw (.invalid "defaults must contain only builtin.sleepy")
  else
    pure ⟨settings, builtins⟩

/-- Validation and serialization agree with each other. -/
structure Sdk.RoundTrips : Prop where
  presets : ∀ presets, ∃ input,
    sdk.fromUtf8 (sdk.presetsToVec presets) = .ok input ∧
      sdk.valuesFromStr input = .ok (presets.map sdk.presetToValue)
  preset : ∀ preset preset',
    sdk.validatePreset (sdk.valueToString (sdk.presetToValue preset)) = .ok preset' →
      preset' = preset
  settings : ∀ settings settings',
    sdk.validateSettings (sdk.valueToString (sdk.settingsToValue settings)) =
        .ok settings' →
      settings' = settings ∧ ∃ input,
        sdk.fromUtf8 (sdk.settingsToVec settings) = .ok input ∧
          sdk.validateSettings input = .ok settings

end Checks

section Results

variable {α : Type}

theorem withCode_eq_ok
    {code : String → Failure} {x : Except String α} {a : α} :
    withCode code x = .ok a ↔ x = .ok a := by
  cases x <;> simp [withCode]

end Results

section Stored

variable {β τ ν : Type} {sdk : Sdk β τ ν}
variable {presets : List PresetDocument} {preset : PresetDocument}

theorem sortById_perm (presets : List PresetDocument) :
    (sortById presets).Perm presets :=
  List.perm_insertionSort _ presets

theorem validatePreset_of_parsePreset
    {value : ν}
    (h : sdk.parsePreset value = .ok preset) :
    sdk.validatePreset (sdk.valueToString value) = .ok preset := by
  unfold Sdk.parsePreset at h
  split at h
  · cases h
  · exact withCode_eq_ok.mp h

/-- A preset that passes the check is read back as it is. -/
theorem parseUserPreset_of_check
    (h : sdk.RoundTrips)
    (hcheck : sdk.checkUserPreset preset = .ok ()) :
    sdk.parseUserPreset (sdk.presetToValue preset) = .ok preset := by
  unfold Sdk.checkUserPreset at hcheck
  split at hcheck
  case isFalse => cases hcheck
  case isTrue horigin =>
    obtain ⟨preset', hparse, _⟩ := Checks.bind_eq_ok_iff.mp hcheck
    obtain rfl := h.preset _ _ (validatePreset_of_parsePreset hparse)
    refine Checks.bind_eq_ok_iff.mpr ⟨preset', hparse, ?_⟩
    rw [if_pos horigin]
    rfl

theorem of_checkUserPresets
    (hcheck : sdk.checkUserPresets presets = .ok ()) :
    Keyed.Unique PresetDocument.id presets ∧
      ∀ preset ∈ presets, sdk.checkUserPreset preset = .ok () := by
  unfold Sdk.checkUserPresets at hcheck
  split at hcheck
  case isFalse => cases hcheck
  case isTrue hunique =>
    obtain ⟨_, hmap, _⟩ := Checks.bind_eq_ok_iff.mp hcheck
    refine ⟨hunique, fun preset hp => ?_⟩
    obtain ⟨_, hpreset⟩ := Checks.of_mapM_eq_ok hmap preset hp
    exact hpreset

/-- A list that passes the checks is read back in order. -/
theorem userPresets_presetsToVec
    (h : sdk.RoundTrips)
    (hcheck : sdk.checkUserPresets presets = .ok ()) :
    sdk.userPresets (sdk.presetsToVec (sortById presets)) =
      .ok (sortById presets) := by
  obtain ⟨hunique, hall⟩ := of_checkUserPresets hcheck
  have hperm := sortById_perm presets
  have hsorted : Keyed.Unique PresetDocument.id (sortById presets) :=
    (hperm.map _).nodup_iff.mpr hunique
  have hparse : (sortById presets).mapM
      (sdk.parseUserPreset ∘ sdk.presetToValue) =
        .ok ((sortById presets).map id) :=
    Checks.mapM_eq_ok_map fun preset hp =>
      parseUserPreset_of_check h (hall preset (hperm.subset hp))
  obtain ⟨input, hutf8, hvalues⟩ := h.presets (sortById presets)
  unfold Sdk.userPresets
  refine Checks.bind_eq_ok_iff.mpr ⟨input, withCode_eq_ok.mpr hutf8, ?_⟩
  refine Checks.bind_eq_ok_iff.mpr ⟨_, withCode_eq_ok.mpr hvalues, ?_⟩
  refine Checks.bind_eq_ok_iff.mpr ⟨sortById presets, ?_, ?_⟩
  · rw [List.mapM_map]
    simpa using hparse
  · rw [if_pos hsorted]
    rfl

theorem unique_of_userPresets
    {bytes : β}
    (h : sdk.userPresets bytes = .ok presets) :
    Keyed.Unique PresetDocument.id presets := by
  obtain ⟨_, _, h⟩ := Checks.bind_eq_ok_iff.mp h
  obtain ⟨_, _, h⟩ := Checks.bind_eq_ok_iff.mp h
  obtain ⟨presets', _, h⟩ := Checks.bind_eq_ok_iff.mp h
  by_cases hunique : Keyed.Unique PresetDocument.id presets'
  · rw [if_pos hunique] at h
    cases h
    exact hunique
  · rw [if_neg hunique] at h
    cases h

/-- Settings that pass the check are read back as they are. -/
theorem settings_settingsToVec
    (h : sdk.RoundTrips)
    {settings settings' : SettingsDocument}
    (hparse : sdk.parseSettings (sdk.settingsToValue settings) = .ok settings') :
    settings' = settings ∧
      sdk.settings (sdk.settingsToVec settings) = .ok settings := by
  obtain ⟨hsame, input, hutf8, hvalid⟩ :=
    h.settings _ _ (withCode_eq_ok.mp hparse)
  refine ⟨hsame, ?_⟩
  exact Checks.bind_eq_ok_iff.mpr
    ⟨input, withCode_eq_ok.mpr hutf8, withCode_eq_ok.mpr hvalid⟩

end Stored

end SleepySession
