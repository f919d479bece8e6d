import SleepySession.Store.SecureDirRules
import SleepySession.Store.State

/-!
# What a mutation of the store changes

A reader of the store sees one value for each preset id and for each setting.
A mutation that succeeds changes exactly the values that its reply announces;
one that is cut off changes at most the values it was asked to change; one
that is refused changes nothing.
-/

namespace SleepySession

open Program SecureDir

inductive SettingName where
  | schemaVersion
  | activePresetId
  | appearanceMode
  | paletteSource
  | reducedMotion
  | effectsProfile
  | panelVisibility
  | webSearchEnabled
deriving DecidableEq, Repr

inductive SettingValue where
  | number (n : Nat)
  | text (text : String)
  | flag (on : Bool)
deriving DecidableEq, Repr

def SettingsDocument.get (settings : SettingsDocument) : SettingName → SettingValue
  | .schemaVersion => .number settings.schemaVersion
  | .activePresetId => .text settings.activePresetId
  | .appearanceMode => .text settings.appearanceMode
  | .paletteSource => .text settings.paletteSource
  | .reducedMotion => .flag settings.reducedMotion
  | .effectsProfile => .text settings.effectsProfile
  | .panelVisibility => .text settings.panelVisibility
  | .webSearchEnabled => .flag settings.webSearchEnabled

/-- A single preset of the user, or a single setting. -/
inductive StoreKey where
  | preset (id : String)
  | setting (name : SettingName)
deriving DecidableEq, Repr

inductive StoreValue where
  | preset (document : Option PresetDocument)
  | setting (value : Option SettingValue)
deriving DecidableEq, Repr

/-- The file that holds a value. -/
def StoreKey.file : StoreKey → ArtifactKind
  | .preset _ => .preset
  | .setting _ => .settings

section Visible

variable {β τ ν : Type} (sdk : Sdk β τ ν)

def Sdk.presetsIn (file : Option β) : List PresetDocument :=
  match file.map sdk.userPresets with
  | some (.ok presets) => presets
  | _ => []

def Sdk.settingsIn (file : Option β) : Option SettingsDocument :=
  match file.map sdk.settings with
  | some (.ok settings) => some settings
  | _ => none

/-- What a reader of one file finds under a key. -/
def Sdk.readKey (file : Option β) : StoreKey → StoreValue
  | .preset id => .preset (Keyed.lookup PresetDocument.id (sdk.presetsIn file) id)
  | .setting name => .setting ((sdk.settingsIn file).map (·.get name))

/-- What a reader of the store finds under a key. -/
def Sdk.visible (L : Triple β) (key : StoreKey) : StoreValue :=
  sdk.readKey (L key.file) key

/-- The values that a reply announces. -/
def StoreReply.announces : StoreReply → StoreKey → Option StoreValue
  | .preset document, .preset id =>
      if document.id = id then some (.preset (some document)) else none
  | .removed document, .preset id =>
      if document.id = id then some (.preset none) else none
  | .settings document, .setting name => some (.setting (some (document.get name)))
  | _, _ => none

/-- The mutations that the store offers. -/
inductive Mutation (ν : Type) where
  | create (preset : ν)
  | duplicate (sourceId name : String)
  | rename (id name : String)
  | delete (id : String)
  | «import» (candidate : ν) (mode : ImportMode)
  | update (id : String) (candidate : ν)
  | mutateKeybinding (id action : String) (accelerator : Option String)
  | replaceSettings (settings : ν)

/-- The keys that a mutation may change; new presets get ids that are not taken. -/
def Mutation.touches (L : Triple β) : Mutation ν → StoreKey → Prop
  | .create preset, key =>
      ∃ parsed, sdk.parsePreset preset = .ok parsed ∧ key = .preset parsed.id
  | .duplicate _ _, key =>
      ∃ id, key = .preset id ∧ sdk.visible L key = .preset none
  | .rename id _, key => key = .preset id
  | .delete id, key => key = .preset id
  | .import candidate _, key =>
      ∃ id, key = .preset id ∧
        (sdk.visible L key = .preset none ∨
          ∃ parsed, sdk.parsePreset candidate = .ok parsed ∧ parsed.id = id)
  | .update id _, key => key = .preset id
  | .mutateKeybinding id _ _, key => key = .preset id
  | .replaceSettings _, key => ∃ name, key = .setting name

end Visible

section Specifications

variable {β τ ν : Type} [DisplayPath Directory FileName]

def StateStore.mutate (store : StateStore β τ ν) :
    Mutation ν → StoreProgram β StoreReply
  | .create preset => store.createUserPreset preset
  | .duplicate sourceId name => store.duplicatePreset sourceId name
  | .rename id name => store.renamePreset id name
  | .delete id => store.deleteUserPreset id
  | .import candidate mode => store.importPreset candidate mode
  | .update id candidate => store.updateUserPreset id candidate
  | .mutateKeybinding id action accelerator =>
      store.mutateUserKeybinding id action accelerator
  | .replaceSettings settings => store.replaceSettings settings

/-- The triple after one file has been replaced. -/
def replaced (v : Files β) (k : ArtifactKind) (bytes : β) : Triple β :=
  Function.update (liveTriple v) k (some bytes)

/-- Cut off: nothing happened, or one file is being replaced within bounds. -/
def Disturbed
    (sdk : Sdk β τ ν) (touches : StoreKey → Prop) (v v' : Files β) : Prop :=
  v' = v ∨ ∃ k bytes,
    Touched (artifactDir k) (artifactName k) (some bytes) v v' ∧
      ∀ key, ¬ touches key →
        sdk.visible (replaced v k bytes) key = sdk.visible (liveTriple v) key

/-- Done: one file has been replaced as the reply announces. -/
def Rewritten
    (sdk : Sdk β τ ν) (touches : StoreKey → Prop) (reply : StoreReply)
    (v v' : Files β) : Prop :=
  ∃ k bytes,
    Replaced (artifactDir k) (artifactName k) (some bytes) v v' ∧
      ∀ key,
        ((reply.announces key).isSome → touches key) ∧
          sdk.visible (replaced v k bytes) key =
            (reply.announces key).getD (sdk.visible (liveTriple v) key)

/-- The ways in which a mutation can end. -/
def mutates
    (sdk : Sdk β τ ν) (touches : StoreKey → Prop) (v : Files β) :
    Post (Files β) Failure StoreReply :=
  ⟨fun reply v' => Rewritten sdk touches reply v v',
    fun e v' => v' = v ∨ e.Interrupts ∧ Disturbed sdk touches v v',
    Disturbed sdk touches v⟩

/-- Being stopped, for whatever reason, without having written is allowed. -/
def Stays {α : Type} (Q : Post (Files β) Failure α) (v : Files β) : Prop :=
  (∀ e, Q.error e v) ∧ Q.crashed v

variable {α : Type} {sdk : Sdk β τ ν} {touches : StoreKey → Prop}
variable {v v' : Files β} {A : Answer FileName β → Prop}
variable {Q : Post (Files β) Failure α}

omit [DisplayPath Directory FileName] in
theorem Stays.cut (h : Stays Q v) : Cut Q v :=
  ⟨fun e _ => h.1 e, h.2⟩

omit [DisplayPath Directory FileName] in
theorem stays_mutates (sdk : Sdk β τ ν) (touches : StoreKey → Prop) (v : Files β) :
    Stays (mutates sdk touches v) v :=
  ⟨fun _ => Or.inl rfl, Or.inl rfl⟩

omit [DisplayPath Directory FileName] in
theorem SecureDir.Replaced.touched
    {k : ArtifactKind} {bytes : β}
    (h : Replaced (artifactDir k) (artifactName k) (some bytes) v v') :
    Touched (artifactDir k) (artifactName k) (some bytes) v v' := by
  refine ⟨h.1, Or.inr ?_⟩
  rw [h.2]
  exact ⟨rfl, rfl, fun y hy => Or.inl (by simpa [Cell.settled, Cell.values] using hy)⟩

omit [DisplayPath Directory FileName] in
theorem Rewritten.disturbed
    {reply : StoreReply}
    (h : Rewritten sdk touches reply v v') :
    Disturbed sdk touches v v' := by
  obtain ⟨k, bytes, hreplaced, hkeys⟩ := h
  refine Or.inr ⟨k, bytes, hreplaced.touched, ?_⟩
  intro key hkey
  obtain ⟨htouch, hvisible⟩ := hkeys key
  cases hannounced : reply.announces key with
  | none => simpa [hannounced] using hvisible
  | some value => exact absurd (htouch (by simp [hannounced])) hkey

section Steps

omit [DisplayPath Directory FileName] in
theorem wp_ofExcept
    {x : Except Failure α}
    (hstay : Stays Q v)
    (hok : ∀ a, x = .ok a → Q.ok a v) :
    (ofExcept x : StoreProgram β α).wp A Q v := by
  cases x with
  | error e => exact hstay.1 e
  | ok a => exact hok a rfl

theorem wp_withTransaction
    {m : StoreProgram β α}
    (hcut : Cut Q v)
    (hm : m.wp A
      ⟨fun a v' => Q.ok a v' ∧ Cut Q v', fun e v' => Q.error e v' ∧ Cut Q v',
        Q.crashed⟩ v) :
    (withTransaction m).wp A Q v := by
  unfold withTransaction
  simp only [wp_bind, wp_attempt]
  refine ⟨hcut.2, ?_⟩
  intro a _
  cases a with
  | mk fault text uuid torn listing accepted available =>
      cases fault with
      | refuse => exact hcut.1 _ (Failure.interrupts_unsafePath text)
      | fail => exact hcut.1 _ (Failure.interrupts_io text)
      | crash => exact hcut.2
      | proceed =>
          refine wp_syscall hcut ?_
          refine wp_mono ?_ ?_ ?_ hm
          · exact fun a v' h => wp_syscall h.2 h.1
          · exact fun e v' h => wp_syscall h.2 h.1
          · exact fun _ h => h

omit [DisplayPath Directory FileName] in
theorem wp_reached
    {Q : Post (Files β) Failure Unit}
    {failure : String → Failure}
    (hstay : Stays Q v)
    (hok : Q.ok () v) :
    (reached failure : StoreProgram β Unit).wp A Q v := by
  refine ⟨hstay.2, ?_⟩
  intro a _
  cases a with
  | mk fault text uuid torn listing accepted available =>
      cases fault with
      | proceed => exact hok
      | refuse => exact hstay.1 _
      | fail => exact hstay.1 _
      | crash => exact hstay.2

omit [DisplayPath Directory FileName] in
theorem silent_reached
    {failure : String → Failure}
    (hfailure : ∀ text, (failure text).Interrupts) :
    Silent A (reached failure : StoreProgram β Unit) := by
  intro Q v hcut hok
  refine ⟨hcut.2, ?_⟩
  intro a _
  cases a with
  | mk fault text uuid torn listing accepted available =>
      cases fault with
      | proceed => exact hok ()
      | refuse => exact hcut.1 _ (hfailure text)
      | fail => exact hcut.1 _ (hfailure text)
      | crash => exact hcut.2

variable {store : StateStore β τ ν}

theorem wp_loadSettings
    {Q : Post (Files β) Failure SettingsDocument}
    (hstay : Stays Q v)
    (hok : ∀ settings, Q.ok settings v) :
    (store.loadSettings).wp A Q v := by
  unfold StateStore.loadSettings
  rw [wp_bind]
  refine wp_read hstay.cut ?_
  exact fun bytes _ => wp_ofExcept hstay fun settings _ => hok settings

/-- The user's presets as they are stored now. -/
def Loaded (sdk : Sdk β τ ν) (v : Files β) (users : List PresetDocument) : Prop :=
  ∃ bytes, liveTriple v .preset = some bytes ∧ sdk.userPresets bytes = .ok users

theorem wp_loadUserPresets
    {Q : Post (Files β) Failure (List PresetDocument)}
    (hstay : Stays Q v)
    (hok : ∀ users, Loaded store.sdk v users → Q.ok users v) :
    (store.loadUserPresets).wp A Q v := by
  unfold StateStore.loadUserPresets
  rw [wp_bind]
  refine wp_read hstay.cut ?_
  intro bytes hbytes
  exact wp_ofExcept hstay fun users husers => hok users ⟨bytes, hbytes, husers⟩

theorem wp_findPreset
    {Q : Post (Files β) Failure (Option PresetDocument)}
    {id : String}
    (hstay : Stays Q v)
    (hok : ∀ found, (∀ preset, found = some preset → preset.id = id) →
      Q.ok found v) :
    (store.findPreset id).wp A Q v := by
  unfold StateStore.findPreset
  split
  case h_1 preset hfound =>
    refine hok (some preset) ?_
    rintro _ ⟨⟩
    exact (Keyed.mem_of_lookup hfound).2
  case h_2 =>
    rw [wp_bind]
    refine wp_loadUserPresets hstay ?_
    intro users _
    exact hok _ fun preset hfound => (Keyed.mem_of_lookup hfound).2

theorem wp_requirePreset
    {Q : Post (Files β) Failure PresetDocument}
    {id : String}
    (hstay : Stays Q v)
    (hok : ∀ preset : PresetDocument, preset.id = id → Q.ok preset v) :
    (store.requirePreset id).wp A Q v := by
  unfold StateStore.requirePreset
  rw [wp_bind]
  refine wp_findPreset hstay ?_
  intro found hfound
  cases found with
  | none => exact hstay.1 _
  | some preset => exact hok preset (hfound preset rfl)

omit [DisplayPath Directory FileName] in
theorem wp_positionOf
    {Q : Post (Files β) Failure Nat}
    {users : List PresetDocument} {id : String}
    (hstay : Stays Q v)
    (hok : ∀ position preset, users[position]? = some preset → preset.id = id →
      Q.ok position v) :
    (StateStore.positionOf users id : StoreProgram β Nat).wp A Q v := by
  unfold StateStore.positionOf
  split
  case h_1 position hfound =>
    obtain ⟨hlt, hid, _⟩ := List.findIdx?_eq_some_iff_getElem.mp hfound
    exact hok position users[position] (List.getElem?_eq_getElem hlt)
      (by simpa using hid)
  case h_2 => exact hstay.1 _

end Steps

section Writes

variable {store : StateStore β τ ν}

/-- The specification of the replacement of one store file. -/
theorem wp_replaceFile
    {Q : Post (Files β) Failure Unit}
    {k : ArtifactKind} {bytes : β}
    (hcut : ∀ v', Touched (artifactDir k) (artifactName k) (some bytes) v v' →
      Cut Q v')
    (hok : ∀ v', Replaced (artifactDir k) (artifactName k) (some bytes) v v' →
      Q.ok () v') :
    (store.replaceFile k bytes).wp A Q v :=
  wp_atomicReplace (silent_reached Failure.interrupts_io)
    (silent_reached Failure.interrupts_commitStateUnknown) Silent.pure hcut hok

/-- A file whose new content shows what the reply announces. -/
theorem replaceFile_mutates
    {k : ArtifactKind} {bytes : β} {reply : StoreReply}
    (hkeys : ∀ key,
      ((reply.announces key).isSome → touches key) ∧
        store.sdk.visible (replaced v k bytes) key =
          (reply.announces key).getD (store.sdk.visible (liveTriple v) key)) :
    (store.replaceFile k bytes).wp A
      ⟨fun _ v' => (mutates store.sdk touches v).ok reply v',
        (mutates store.sdk touches v).error,
        (mutates store.sdk touches v).crashed⟩ v := by
  refine wp_replaceFile ?_ ?_
  · intro v' h
    have hdisturbed : Disturbed store.sdk touches v v' := by
      refine Or.inr ⟨k, bytes, h, ?_⟩
      intro key hkey
      cases hannounced : reply.announces key with
      | none => simpa [hannounced] using (hkeys key).2
      | some value => exact absurd ((hkeys key).1 (by simp [hannounced])) hkey
    exact ⟨fun e he => Or.inr ⟨he, hdisturbed⟩, hdisturbed⟩
  · intro v' h
    exact ⟨k, bytes, h, hkeys⟩

omit [DisplayPath Directory FileName] in
theorem Loaded.presetsIn
    {users : List PresetDocument}
    (h : Loaded sdk v users) :
    sdk.presetsIn (liveTriple v .preset) = users := by
  obtain ⟨bytes, hbytes, husers⟩ := h
  simp [Sdk.presetsIn, hbytes, husers]

omit [DisplayPath Directory FileName] in
theorem Loaded.unique
    {users : List PresetDocument}
    (h : Loaded sdk v users) :
    Keyed.Unique PresetDocument.id users := by
  obtain ⟨_, _, husers⟩ := h
  exact unique_of_userPresets husers

/-- The user's list, written with the changes that the reply announces. -/
theorem writeUserPresets_mutates
    {users changed : List PresetDocument} {reply : StoreReply}
    (hsdk : store.sdk.RoundTrips)
    (husers : Loaded store.sdk v users)
    (hsettings : ∀ name, reply.announces (.setting name) = none)
    (hpresets : Keyed.Unique PresetDocument.id changed → ∀ id,
      ((reply.announces (.preset id)).isSome → touches (.preset id)) ∧
        .preset (Keyed.lookup PresetDocument.id changed id) =
          (reply.announces (.preset id)).getD
            (.preset (Keyed.lookup PresetDocument.id users id))) :
    (do
      store.writeUserPresets changed
      pure reply : StoreProgram β StoreReply).wp A
      (mutates store.sdk touches v) v := by
  unfold StateStore.writeUserPresets
  simp only [wp_bind]
  refine wp_ofExcept (stays_mutates _ _ v) ?_
  intro _ hcheck
  have hunique := (of_checkUserPresets hcheck).1
  refine replaceFile_mutates ?_
  intro key
  cases key with
  | setting name => simp [hsettings name, Sdk.visible, StoreKey.file, replaced]
  | preset id =>
      refine ⟨(hpresets hunique id).1, ?_⟩
      have hread := userPresets_presetsToVec hsdk hcheck
      have hlookup := Keyed.lookup_perm (sortById_perm changed).symm hunique id
      have hwritten : store.sdk.presetsIn
          (some (store.sdk.presetsToVec (sortById changed))) = sortById changed := by
        simp [Sdk.presetsIn, hread]
      simp only [Sdk.visible, StoreKey.file, Sdk.readKey, replaced,
        Function.update_self, hwritten, husers.presetsIn, hlookup]
      exact (hpresets hunique id).2

theorem appendPreset_mutates
    {preset : PresetDocument}
    (hsdk : store.sdk.RoundTrips)
    (htouch : store.sdk.visible (liveTriple v) (.preset preset.id) = .preset none →
      touches (.preset preset.id)) :
    (store.appendPreset preset).wp A (mutates store.sdk touches v) v := by
  unfold StateStore.appendPreset
  rw [wp_bind]
  refine wp_loadUserPresets (stays_mutates _ _ v) ?_
  intro users husers
  refine writeUserPresets_mutates hsdk husers (fun _ => rfl) ?_
  intro hunique id
  have hlookup := Keyed.lookup_append hunique id
  refine ⟨?_, ?_⟩
  · intro hannounced
    obtain rfl : preset.id = id := by
      by_contra hne
      simp [StoreReply.announces, hne] at hannounced
    refine htouch ?_
    have hfresh : Keyed.lookup PresetDocument.id users preset.id = none := by
      rw [Keyed.lookup_eq_none_iff]
      intro x hx heq
      have hdisjoint := List.nodup_append.mp (show (users.map PresetDocument.id ++
        [preset.id]).Nodup by simpa [Keyed.Unique] using hunique)
      exact hdisjoint.2.2 _ (List.mem_map_of_mem hx) _ (by simp) heq
    simp [Sdk.visible, Sdk.readKey, StoreKey.file, husers.presetsIn, hfresh]
  · rw [hlookup]
    by_cases hid : preset.id = id <;> simp [StoreReply.announces, hid]

theorem replacePreset_mutates
    {id : String} {preset : PresetDocument}
    (hsdk : store.sdk.RoundTrips)
    (hid : preset.id = id)
    (htouch : touches (.preset id)) :
    (store.replacePreset id preset).wp A (mutates store.sdk touches v) v := by
  unfold StateStore.replacePreset
  rw [wp_bind]
  refine wp_loadUserPresets (stays_mutates _ _ v) ?_
  intro users husers
  simp only [wp_bind]
  refine wp_positionOf (stays_mutates _ _ v) ?_
  intro position old hold holdId
  simp only [← wp_bind]
  refine writeUserPresets_mutates hsdk husers (fun _ => rfl) ?_
  intro _ id'
  rw [Keyed.lookup_set husers.unique hold (hid.trans holdId.symm)]
  by_cases heq : preset.id = id'
  · have htouch' : touches (.preset id') := by
      rwa [← heq, hid]
    simp [StoreReply.announces, heq, htouch']
  · simp [StoreReply.announces, heq]

theorem withTransaction_mutates
    {m : StoreProgram β StoreReply}
    (hm : m.wp A (mutates sdk touches v) v) :
    (withTransaction m).wp A (mutates sdk touches v) v := by
  refine wp_withTransaction (stays_mutates sdk touches v).cut ?_
  refine wp_mono ?_ ?_ ?_ hm
  · intro reply v' h
    exact ⟨h, fun e he => Or.inr ⟨he, h.disturbed⟩, h.disturbed⟩
  · intro e v' h
    refine ⟨h, ?_⟩
    rcases h with rfl | ⟨_, hdisturbed⟩
    · exact (stays_mutates sdk touches v').cut
    · exact ⟨fun e he => Or.inr ⟨he, hdisturbed⟩, hdisturbed⟩
  · exact fun _ h => h

end Writes

section Mutations

variable {store : StateStore β τ ν}

theorem createUserPreset_mutates
    {preset : ν}
    (hsdk : store.sdk.RoundTrips)
    (htouch : ∀ parsed, store.sdk.parsePreset preset = .ok parsed →
      touches (.preset parsed.id)) :
    (store.createUserPreset preset).wp A (mutates store.sdk touches v) v := by
  have hstay := stays_mutates store.sdk touches v
  refine withTransaction_mutates ?_
  rw [wp_bind]
  refine wp_ofExcept hstay ?_
  intro parsed hparsed
  simp only
  split
  · exact hstay.1 _
  rw [wp_bind]
  refine wp_findPreset hstay ?_
  intro existing _
  simp only
  split
  · exact hstay.1 _
  · exact appendPreset_mutates hsdk fun _ => htouch parsed hparsed

theorem duplicatePreset_mutates
    {sourceId name : String}
    (hsdk : store.sdk.RoundTrips)
    (htouch : ∀ id,
      store.sdk.visible (liveTriple v) (.preset id) = .preset none →
        touches (.preset id)) :
    (store.duplicatePreset sourceId name).wp A (mutates store.sdk touches v) v := by
  have hstay := stays_mutates store.sdk touches v
  refine withTransaction_mutates ?_
  rw [wp_bind]
  refine wp_requirePreset hstay ?_
  intro preset _
  simp only [newUuid, wp_bind, wp_answer, wp_pure]
  refine ⟨hstay.2, ?_⟩
  intro a _
  refine wp_ofExcept hstay ?_
  intro name' _
  exact appendPreset_mutates hsdk (htouch a.uuid)

theorem renamePreset_mutates
    {id name : String}
    (hsdk : store.sdk.RoundTrips)
    (htouch : touches (.preset id)) :
    (store.renamePreset id name).wp A (mutates store.sdk touches v) v := by
  have hstay := stays_mutates store.sdk touches v
  refine withTransaction_mutates ?_
  split
  · exact hstay.1 _
  rw [wp_bind]
  refine wp_loadUserPresets hstay ?_
  intro users husers
  simp only [wp_bind]
  refine wp_positionOf hstay ?_
  intro position old hold holdId
  refine wp_ofExcept hstay ?_
  intro name' _
  simp only [hold]
  refine writeUserPresets_mutates hsdk husers (fun _ => rfl) ?_
  intro _ id'
  rw [Keyed.lookup_set husers.unique hold (by rfl)]
  by_cases heq : old.id = id'
  · have htouch' : touches (.preset id') := by
      rwa [← heq, holdId]
    simp [StoreReply.announces, heq, htouch']
  · simp [StoreReply.announces, heq]

theorem deleteUserPreset_mutates
    {id : String}
    (hsdk : store.sdk.RoundTrips)
    (htouch : touches (.preset id)) :
    (store.deleteUserPreset id).wp A (mutates store.sdk touches v) v := by
  have hstay := stays_mutates store.sdk touches v
  refine withTransaction_mutates ?_
  rw [wp_bind]
  refine wp_requirePreset hstay ?_
  intro existing _
  simp only
  split
  · exact hstay.1 _
  rw [wp_bind]
  refine wp_loadSettings hstay ?_
  intro settings
  simp only
  split
  · exact hstay.1 _
  rw [wp_bind]
  refine wp_loadUserPresets hstay ?_
  intro users husers
  simp only [wp_bind]
  refine wp_positionOf hstay ?_
  intro position old hold holdId
  simp only [hold]
  refine writeUserPresets_mutates hsdk husers (fun _ => rfl) ?_
  intro _ id'
  rw [Keyed.lookup_eraseIdx husers.unique hold]
  by_cases heq : old.id = id'
  · have htouch' : touches (.preset id') := by
      rwa [← heq, holdId]
    simp [StoreReply.announces, heq, htouch']
  · simp [StoreReply.announces, heq]

theorem updateUserPreset_mutates
    {id : String} {candidate : ν}
    (hsdk : store.sdk.RoundTrips)
    (htouch : touches (.preset id)) :
    (store.updateUserPreset id candidate).wp A (mutates store.sdk touches v) v := by
  have hstay := stays_mutates store.sdk touches v
  refine withTransaction_mutates ?_
  rw [wp_bind]
  refine wp_requirePreset hstay ?_
  intro existing _
  simp only
  split
  · exact hstay.1 _
  rw [wp_bind]
  refine wp_ofExcept hstay ?_
  intro parsed _
  simp only
  split
  · exact hstay.1 _
  split
  · exact hstay.1 _
  case isFalse hid =>
    rw [wp_bind]
    refine wp_loadSettings hstay ?_
    intro settings
    simp only
    split
    · exact hstay.1 _
    · exact replacePreset_mutates hsdk (not_not.mp hid) htouch

theorem mutateUserKeybinding_mutates
    {id action : String} {accelerator : Option String}
    (hsdk : store.sdk.RoundTrips)
    (htouch : touches (.preset id)) :
    (store.mutateUserKeybinding id action accelerator).wp A
      (mutates store.sdk touches v) v := by
  have hstay := stays_mutates store.sdk touches v
  refine withTransaction_mutates ?_
  rw [wp_bind]
  refine wp_requirePreset hstay ?_
  intro existing hid
  simp only
  split
  · exact hstay.1 _
  rw [wp_bind]
  refine wp_loadSettings hstay ?_
  intro settings
  simp only
  split
  · exact hstay.1 _
  rw [wp_bind]
  refine wp_reached hstay ?_
  simp only [wp_bind]
  refine wp_ofExcept hstay ?_
  intro keybindings _
  refine wp_ofExcept hstay ?_
  intro parsed hparsed
  have hsame := hsdk.preset _ _ (validatePreset_of_parsePreset hparsed)
  refine replacePreset_mutates hsdk ?_ htouch
  rw [hsame]
  exact hid

theorem importPreset_mutates
    {candidate : ν} {mode : ImportMode}
    (hsdk : store.sdk.RoundTrips)
    (hfresh : ∀ id,
      store.sdk.visible (liveTriple v) (.preset id) = .preset none →
        touches (.preset id))
    (htouch : ∀ parsed, store.sdk.parsePreset candidate = .ok parsed →
      touches (.preset parsed.id)) :
    (store.importPreset candidate mode).wp A (mutates store.sdk touches v) v := by
  have hstay := stays_mutates store.sdk touches v
  refine withTransaction_mutates ?_
  rw [wp_bind]
  refine wp_ofExcept hstay ?_
  intro parsed hparsed
  simp only
  split
  · simp only [newUuid, wp_bind, wp_answer, wp_pure]
    refine ⟨hstay.2, ?_⟩
    intro a _
    exact appendPreset_mutates hsdk (hfresh a.uuid)
  rw [wp_bind]
  refine wp_findPreset hstay ?_
  intro existing _
  cases existing with
  | none => exact appendPreset_mutates hsdk fun _ => htouch parsed hparsed
  | some existing =>
      simp only
      split
      · exact hstay.1 _
      split
      · exact hstay.1 _
      rw [wp_bind]
      refine wp_loadSettings hstay ?_
      intro settings
      simp only
      split
      · exact hstay.1 _
      · exact replacePreset_mutates hsdk rfl (htouch parsed hparsed)

theorem replaceSettings_mutates
    {settings : ν}
    (hsdk : store.sdk.RoundTrips)
    (htouch : ∀ name, touches (.setting name)) :
    (store.replaceSettings settings).wp A (mutates store.sdk touches v) v := by
  have hstay := stays_mutates store.sdk touches v
  refine withTransaction_mutates ?_
  rw [wp_bind]
  refine wp_ofExcept hstay ?_
  intro parsed _
  simp only [wp_bind]
  refine wp_findPreset hstay ?_
  intro active _
  simp only
  split
  · exact hstay.1 _
  rw [wp_bind]
  refine wp_loadSettings hstay ?_
  intro current
  simp only
  split
  · exact hstay.1 _
  unfold StateStore.writeSettings
  simp only [wp_bind]
  refine wp_ofExcept hstay ?_
  intro validated hvalidated
  obtain ⟨rfl, hread⟩ := settings_settingsToVec hsdk hvalidated
  refine replaceFile_mutates ?_
  intro key
  cases key with
  | preset id =>
      simp [StoreReply.announces, Sdk.visible, StoreKey.file, replaced]
  | setting name =>
      simp [StoreReply.announces, Sdk.visible, StoreKey.file, Sdk.readKey, replaced,
        Sdk.settingsIn, hread, htouch]

/-- However a mutation ends, it changes what it should. -/
theorem mutate_mutates
    (hsdk : store.sdk.RoundTrips)
    (m : Mutation ν) :
    (store.mutate m).wp A
      (mutates store.sdk (m.touches store.sdk (liveTriple v)) v) v := by
  cases m with
  | create preset =>
      exact createUserPreset_mutates hsdk fun parsed hparsed => ⟨parsed, hparsed, rfl⟩
  | duplicate sourceId name =>
      exact duplicatePreset_mutates hsdk fun id hnone => ⟨id, rfl, hnone⟩
  | rename id name => exact renamePreset_mutates hsdk rfl
  | delete id => exact deleteUserPreset_mutates hsdk rfl
  | «import» candidate mode =>
      exact importPreset_mutates hsdk
        (fun id hnone => ⟨id, rfl, Or.inl hnone⟩)
        (fun parsed hparsed => ⟨parsed.id, rfl, Or.inr ⟨parsed, hparsed, rfl⟩⟩)
  | update id candidate => exact updateUserPreset_mutates hsdk rfl
  | mutateKeybinding id action accelerator =>
      exact mutateUserKeybinding_mutates hsdk rfl
  | replaceSettings settings =>
      exact replaceSettings_mutates hsdk fun name => ⟨name, rfl⟩

end Mutations

end Specifications

end SleepySession
