import SleepySession.Lib.Transition
import SleepySession.Store.Mutations

/-!
# What every run of the store preserves

A run starts with a store that was opened successfully and consists of
mutations in any order, each of which may succeed, fail or be cut off.  After
each of them the two files hold documents that are read back, and the active
preset is the one it was, with the keybindings it had.
-/

namespace SleepySession

open Program SecureDir

/-- What the two files of the store say. -/
structure StoreDocuments where
  users : List PresetDocument
  settings : SettingsDocument

section Documents

variable {β τ ν : Type}

/-- The files hold the documents: the parsers of the store return them. -/
structure Holds (sdk : Sdk β τ ν) (v : Files β) (d : StoreDocuments) : Prop where
  presets : ∃ bytes, liveTriple v .preset = some bytes ∧ sdk.userPresets bytes = .ok d.users
  settings : ∃ bytes, liveTriple v .settings = some bytes ∧ sdk.settings bytes = .ok d.settings

/-- The preset under an id; packaged presets come first. -/
def StateStore.presetAt
    (store : StateStore β τ ν) (users : List PresetDocument) (id : String) :
    Option PresetDocument :=
  (Keyed.lookup PresetDocument.id store.defaults.builtins id).or
    (Keyed.lookup PresetDocument.id users id)

def StateStore.activePreset (store : StateStore β τ ν) (d : StoreDocuments) :
    Option PresetDocument :=
  store.presetAt d.users d.settings.activePresetId

/-- No preset of the user has the id of a packaged one. -/
def StateStore.Apart (store : StateStore β τ ν) (users : List PresetDocument) : Prop :=
  ∀ preset ∈ users, ∀ builtin ∈ store.defaults.builtins, preset.id ≠ builtin.id

def SortedById (users : List PresetDocument) : Prop :=
  users.Pairwise fun l r => l.id ≤ r.id

/-- The documents that a store in use may hold. -/
structure StateStore.Sound (store : StateStore β τ ν) (d : StoreDocuments) : Prop where
  unique : Keyed.Unique PresetDocument.id d.users
  origin : ∀ preset ∈ d.users, preset.origin = .user
  apart : store.Apart d.users
  active : (store.activePreset d).isSome

/-- What an operation may make of the user's presets while others are in use. -/
structure StateStore.Admits
    (store : StateStore β τ ν) (d : StoreDocuments) (changed : List PresetDocument) :
    Prop where
  apart : store.Apart d.users → store.Apart changed
  active : ∀ preset, store.activePreset d = some preset →
    ∃ name, store.presetAt changed d.settings.activePresetId =
      some { preset with name := name }

/-- What an operation keeps. -/
structure StateStore.Continues
    (store : StateStore β τ ν) (d d' : StoreDocuments) : Prop where
  activeId : d'.settings.activePresetId = d.settings.activePresetId
  admits : store.Admits d d'.users
  sorted : d'.users = d.users ∨ SortedById d'.users

variable {store : StateStore β τ ν} {sdk : Sdk β τ ν} {v v' : Files β}
variable {d d' d'' : StoreDocuments}

/-- Files hold at most one pair of documents. -/
theorem Holds.unique
    (h : Holds sdk v d)
    (h' : Holds sdk v d') :
    d = d' := by
  obtain ⟨⟨bytes, hbytes, husers⟩, settings, hsettings, hparsed⟩ := h
  obtain ⟨⟨bytes', hbytes', husers'⟩, settings', hsettings', hparsed'⟩ := h'
  cases d
  cases d'
  simp_all

/-- Only the contents of the two files matter. -/
theorem Holds.of_same
    (h : Holds sdk v d)
    (hpresets : liveTriple v' .preset = liveTriple v .preset)
    (hsettings : liveTriple v' .settings = liveTriple v .settings) :
    Holds sdk v' d :=
  ⟨hpresets ▸ h.presets, hsettings ▸ h.settings⟩

/-- Only user presets are read from the list. -/
theorem origin_of_parseUserPreset
    {value : ν} {preset : PresetDocument}
    (h : sdk.parseUserPreset value = .ok preset) :
    preset.origin = .user := by
  unfold Sdk.parseUserPreset at h
  obtain ⟨preset', _, h⟩ := Checks.bind_eq_ok_iff.mp h
  by_cases horigin : preset'.origin = .user
  · rw [if_pos horigin] at h
    cases h
    exact horigin
  · rw [if_neg horigin] at h
    cases h

/-- Every preset that was read passed the parser. -/
theorem parsed_of_userPresets
    {bytes : β} {users : List PresetDocument}
    (h : sdk.userPresets bytes = .ok users) :
    ∀ preset ∈ users, ∃ value, sdk.parseUserPreset value = .ok preset := by
  obtain ⟨_, _, h⟩ := Checks.bind_eq_ok_iff.mp h
  obtain ⟨values, _, h⟩ := Checks.bind_eq_ok_iff.mp h
  obtain ⟨presets, hparsed, h⟩ := Checks.bind_eq_ok_iff.mp h
  have hsame : users = presets := by
    by_cases hunique : Keyed.Unique PresetDocument.id presets
    · rw [if_pos hunique] at h
      exact (Except.ok.inj h).symm
    · rw [if_neg hunique] at h
      cases h
  subst hsame
  intro preset hmem
  obtain ⟨value, _, hvalue⟩ := Checks.exists_of_mapM_eq_ok hparsed preset hmem
  exact ⟨value, hvalue⟩

theorem Holds.origin
    (h : Holds sdk v d) :
    ∀ preset ∈ d.users, preset.origin = .user := by
  obtain ⟨bytes, _, husers⟩ := h.presets
  intro preset hmem
  obtain ⟨value, hvalue⟩ := parsed_of_userPresets husers preset hmem
  exact origin_of_parseUserPreset hvalue

/-- The ids of the stored presets are distinct. -/
theorem Holds.uniqueIds
    (h : Holds sdk v d) :
    Keyed.Unique PresetDocument.id d.users := by
  obtain ⟨bytes, _, husers⟩ := h.presets
  exact unique_of_userPresets husers

theorem sortedById_sortById (presets : List PresetDocument) :
    SortedById (sortById presets) := by
  have : Std.Total fun l r : PresetDocument => l.id ≤ r.id :=
    ⟨fun l r => String.le_total l.id r.id⟩
  have : IsTrans PresetDocument fun l r => l.id ≤ r.id :=
    ⟨fun _ _ _ => String.le_trans⟩
  exact List.pairwise_insertionSort _ presets

/-- An unchanged list is admitted. -/
theorem StateStore.Admits.refl
    (store : StateStore β τ ν) (d : StoreDocuments) :
    store.Admits d d.users :=
  ⟨id, fun preset h => ⟨preset.name, h⟩⟩

theorem StateStore.Continues.refl
    (store : StateStore β τ ν) (d : StoreDocuments) :
    store.Continues d d :=
  ⟨rfl, .refl store d, Or.inl rfl⟩

/-- One continuation after another is a continuation. -/
theorem StateStore.Continues.trans
    (h : store.Continues d d')
    (h' : store.Continues d' d'') :
    store.Continues d d'' := by
  refine ⟨h'.activeId.trans h.activeId, ⟨h'.admits.apart ∘ h.admits.apart, ?_⟩, ?_⟩
  · intro preset hactive
    obtain ⟨name, hname⟩ := h.admits.active preset hactive
    obtain ⟨name', hname'⟩ := h'.admits.active { preset with name := name } (by
      rw [StateStore.activePreset, h.activeId]
      exact hname)
    rw [h.activeId] at hname'
    exact ⟨name', hname'⟩
  · rcases h'.sorted with hsame | hsorted
    · rw [hsame]
      exact h.sorted
    · exact Or.inr hsorted

/-- Soundness is kept along a continuation. -/
theorem StateStore.Sound.continues
    (h : store.Sound d)
    (hnext : store.Continues d d')
    (hholds : Holds sdk v d') :
    store.Sound d' := by
  refine ⟨hholds.uniqueIds, hholds.origin, hnext.admits.apart h.apart, ?_⟩
  obtain ⟨preset, hactive⟩ := Option.isSome_iff_exists.mp h.active
  obtain ⟨name, hname⟩ := hnext.admits.active preset hactive
  rw [StateStore.activePreset, hnext.activeId, hname]
  rfl

end Documents

section Steps

variable {β τ ν : Type} [DisplayPath Directory FileName]

/-- Readers of the two files of the store see no difference. -/
def Unchanged (v v' : Files β) : Prop :=
  liveTriple v' .preset = liveTriple v .preset ∧
    liveTriple v' .settings = liveTriple v .settings

/-- The files hold documents that continue the given ones. -/
def Moves
    (store : StateStore β τ ν) (d : StoreDocuments) (v' : Files β) : Prop :=
  ∃ d', Holds store.sdk v' d' ∧ store.Continues d d'

/-- One file shows the given content, the others what they showed. -/
def ShowsNew (k : ArtifactKind) (bytes : β) (v v' : Files β) : Prop :=
  liveTriple v' = replaced v k bytes

/-- The whole new content of one file has been moved into place: the presets in the order of
their ids, or the settings. -/
def Renamed (sdk : Sdk β τ ν) (v v' : Files β) : Prop :=
  (∃ presets, sdk.checkUserPresets presets = .ok () ∧
      ShowsNew .preset (sdk.presetsToVec (sortById presets)) v v') ∨
    ∃ settings, ShowsNew .settings (sdk.settingsToVec settings) v v'

/-- The ways in which the body of a transaction ends. -/
def bodyPost
    (store : StateStore β τ ν) (d : StoreDocuments) (v : Files β) :
    Post (Files β) Failure StoreReply :=
  ⟨fun _ v' => Moves store d v' ∧ Renamed store.sdk v v',
    fun e v' => Unchanged v v' ∨
      e.code = .commitStateUnknown ∧ Moves store d v' ∧ Renamed store.sdk v v',
    fun v' => Moves store d v'⟩

/-- The ways in which an operation ends; releasing the lock may fail as well. -/
def operationPost
    (store : StateStore β τ ν) (d : StoreDocuments) (v : Files β) :
    Post (Files β) Failure StoreReply :=
  ⟨fun _ v' => Moves store d v' ∧ Renamed store.sdk v v',
    fun e v' => Unchanged v v' ∨
      (e.code = .commitStateUnknown ∨ e.code = .ioError) ∧
        Moves store d v' ∧ Renamed store.sdk v v',
    fun v' => Moves store d v'⟩

variable {store : StateStore β τ ν} {d d' : StoreDocuments} {v v' : Files β}
variable {A : Answer FileName β → Prop} {α : Type}

omit [DisplayPath Directory FileName] in
theorem Unchanged.refl (v : Files β) : Unchanged v v :=
  ⟨rfl, rfl⟩

omit [DisplayPath Directory FileName] in
/-- Files that show the same hold the same documents. -/
theorem Unchanged.moves
    (h : Unchanged v v')
    (hholds : Holds store.sdk v d) :
    Moves store d v' :=
  ⟨d, hholds.of_same h.1 h.2, .refl store d⟩

omit [DisplayPath Directory FileName] in
/-- Steps that leave every file alone change nothing that is shown. -/
theorem unchanged_of_keeps
    (h : Keeps (fun _ _ => False) v v') :
    Unchanged v v' :=
  ⟨(h.shrinks (d := .presets) (n := artifactName .preset) not_false).1,
    (h.shrinks (d := .settings) (n := artifactName .settings) not_false).1⟩

omit [DisplayPath Directory FileName] in
theorem stays_bodyPost
    (hholds : Holds store.sdk v d) :
    Stays (bodyPost store d v) v :=
  ⟨fun _ => Or.inl (.refl v), (Unchanged.refl v).moves hholds⟩

omit [DisplayPath Directory FileName] in
/-- Steps that touch one file only leave the others as they were. -/
theorem showsNew_of_keeps
    {k : ArtifactKind} {bytes : β}
    (hkeeps : Keeps (fun d' n' => d' = artifactDir k ∧ n' = artifactName k) v v')
    (hcurrent : (liveCell v' k).current = some bytes) :
    ShowsNew k bytes v v' := by
  funext k'
  by_cases hk : k' = k
  · subst hk
    simpa [replaced, liveTriple] using hcurrent
  · have hname : ¬ (artifactDir k' = artifactDir k ∧ artifactName k' = artifactName k) := by
      simp [artifactName, hk]
    simpa [replaced, Function.update_of_ne hk, liveTriple, liveCell] using
      (hkeeps.shrinks hname).1

omit [DisplayPath Directory FileName] in
theorem SecureDir.Replaced.showsNew
    {k : ArtifactKind} {bytes : β}
    (h : Replaced (artifactDir k) (artifactName k) (some bytes) v v') :
    ShowsNew k bytes v v' := by
  refine showsNew_of_keeps h.1 ?_
  rw [liveCell, h.2]
  rfl

/-- A replacement fails before the rename, or in an unknown commit state. -/
theorem replaceFile_wp
    {Q : Post (Files β) Failure Unit} {k : ArtifactKind} {bytes : β}
    (hearly : ∀ v', Unchanged v v' → Stays Q v')
    (hlate : ∀ v', ShowsNew k bytes v v' →
      (∀ text, Q.error (.commitStateUnknown text) v') ∧ Q.crashed v')
    (hok : ∀ v', Replaced (artifactDir k) (artifactName k) (some bytes) v v' →
      Q.ok () v') :
    (store.replaceFile k bytes).wp A Q v := by
  unfold StateStore.replaceFile atomicReplace
  rw [wp_bind]
  refine wp_stageFile (silent_reached Failure.interrupts_io) ?_ ?_
  · exact fun v' h => (hearly v' (unchanged_of_keeps h)).cut
  rintro uuid _ v₁ ⟨hkeep, hcurrent, htorn⟩
  unfold commitFile
  simp only [wp_bind]
  refine wp_rename (by simp) hcurrent htorn (hearly v₁ (unchanged_of_keeps hkeep)).cut ?_
  intro v₂ h₂ hwrote
  have hframe : Keeps (fun d' n' => d' = artifactDir k ∧ n' = artifactName k) v v₂ := by
    refine (hkeep.mono (by simp)).trans ?_
    refine Volume.Frame.mono h₂ ?_
    rintro d' e ⟨rfl, rfl | rfl⟩
    · trivial
    · exact ⟨rfl, rfl⟩
  obtain ⟨hunknown, hcrashed⟩ := hlate v₂ (showsNew_of_keeps hframe hwrote.1)
  have hreplaced :
      Replaced (artifactDir k) (artifactName k) (some bytes) v (v₂.sync (artifactDir k)) := by
    refine ⟨hframe.trans (Volume.frame_sync _ v₂ (artifactDir k)), ?_⟩
    rw [Volume.sync_same, Cell.sync_eq_settled hwrote.2.1, hwrote.1]
  refine ⟨hcrashed, ?_⟩
  intro a _
  cases a with
  | mk fault text uuid torn listing accepted available =>
      cases fault with
      | refuse => exact hunknown text
      | fail => exact hunknown text
      | crash => exact hcrashed
      | proceed =>
          simp only [andThen, wp_mapError]
          refine wp_sync ⟨fun e _ => hunknown e.display, hcrashed⟩ ?_
          exact hok _ hreplaced

omit [DisplayPath Directory FileName] in
theorem syscall_wp
    {Q : Post (Files β) Failure Unit}
    (hio : ∀ text, Q.error (.io text) v)
    (hcrash : Q.crashed v)
    (hok : Q.ok () v) :
    (syscall : StoreProgram β Unit).wp A Q v := by
  refine ⟨hcrash, ?_⟩
  intro a _
  cases a with
  | mk fault text uuid torn listing accepted available =>
      cases fault with
      | proceed => exact hok
      | refuse => exact hio text
      | fail => exact hio text
      | crash => exact hcrash

omit [DisplayPath Directory FileName] in
theorem openLock_wp
    {Q : Post (Files β) Failure Unit}
    (hstay : Stays Q v)
    (hok : Q.ok () v) :
    (openLock : StoreProgram β Unit).wp A Q v := by
  refine ⟨hstay.2, ?_⟩
  intro a _
  cases a with
  | mk fault text uuid torn listing accepted available =>
      cases fault with
      | proceed => exact hok
      | refuse => exact hstay.1 _
      | fail => exact hstay.1 _
      | crash => exact hstay.2

omit [DisplayPath Directory FileName] in
/-- The lock is taken before the body and released after it. -/
theorem withTransaction_wp
    {m : StoreProgram β StoreReply}
    (hholds : Holds store.sdk v d)
    (hm : m.wp A (bodyPost store d v) v) :
    (withTransaction m).wp A (operationPost store d v) v := by
  have hstay : Stays (operationPost store d v) v :=
    ⟨fun _ => Or.inl (.refl v), (Unchanged.refl v).moves hholds⟩
  unfold withTransaction
  simp only [wp_bind, wp_attempt]
  refine openLock_wp ⟨hstay.1, hstay.2⟩ ?_
  refine syscall_wp (fun _ => hstay.1 _) hstay.2 ?_
  refine wp_mono ?_ ?_ ?_ hm
  · rintro reply v' ⟨hmoves, hrenamed⟩
    exact syscall_wp (fun _ => Or.inr ⟨Or.inr rfl, hmoves, hrenamed⟩) hmoves
      ⟨hmoves, hrenamed⟩
  · rintro e v' (h | ⟨hcode, hmoves, hrenamed⟩)
    · exact syscall_wp (fun _ => Or.inl h) (h.moves hholds) (Or.inl h)
    · exact syscall_wp (fun _ => Or.inr ⟨Or.inr rfl, hmoves, hrenamed⟩) hmoves
        (Or.inr ⟨Or.inl hcode, hmoves, hrenamed⟩)
  · exact fun _ h => h

section Reads

/-- The settings that are loaded are those the files hold. -/
theorem loadSettings_wp
    {Q : Post (Files β) Failure SettingsDocument}
    (hholds : Holds store.sdk v d)
    (hstay : Stays Q v)
    (hok : Q.ok d.settings v) :
    (store.loadSettings).wp A Q v := by
  obtain ⟨bytes, hbytes, hparsed⟩ := hholds.settings
  unfold StateStore.loadSettings
  rw [wp_bind]
  refine wp_read hstay.cut ?_
  intro found hfound
  obtain rfl : bytes = found := Option.some.inj (hbytes.symm.trans hfound)
  simp only [hparsed]
  exact hok

/-- So are the presets. -/
theorem loadUserPresets_wp
    {Q : Post (Files β) Failure (List PresetDocument)}
    (hholds : Holds store.sdk v d)
    (hstay : Stays Q v)
    (hok : Q.ok d.users v) :
    (store.loadUserPresets).wp A Q v := by
  obtain ⟨bytes, hbytes, hparsed⟩ := hholds.presets
  refine wp_loadUserPresets hstay ?_
  rintro users ⟨found, hfound, husers⟩
  obtain rfl : bytes = found := Option.some.inj (hbytes.symm.trans hfound)
  obtain rfl : d.users = users := Except.ok.inj (hparsed.symm.trans husers)
  exact hok

/-- A preset is looked for among the packaged ones first. -/
theorem findPreset_wp
    {Q : Post (Files β) Failure (Option PresetDocument)} {id : String}
    (hholds : Holds store.sdk v d)
    (hstay : Stays Q v)
    (hok : Q.ok (store.presetAt d.users id) v) :
    (store.findPreset id).wp A Q v := by
  unfold StateStore.findPreset
  unfold StateStore.presetAt at hok
  split
  case h_1 preset hfound =>
    simpa [hfound] using hok
  case h_2 hfound =>
    rw [wp_bind]
    refine loadUserPresets_wp hholds hstay ?_
    simpa [hfound] using hok

theorem requirePreset_wp
    {Q : Post (Files β) Failure PresetDocument} {id : String}
    (hholds : Holds store.sdk v d)
    (hstay : Stays Q v)
    (hok : ∀ preset, store.presetAt d.users id = some preset → Q.ok preset v) :
    (store.requirePreset id).wp A Q v := by
  unfold StateStore.requirePreset
  rw [wp_bind]
  refine findPreset_wp hholds hstay ?_
  cases hfound : store.presetAt d.users id with
  | none => exact hstay.1 _
  | some preset => exact hok preset hfound

end Reads

section Writes

omit [DisplayPath Directory FileName] in
/-- The order of the list does not matter for what is admitted. -/
theorem StateStore.Admits.sortById
    {changed : List PresetDocument}
    (hunique : Keyed.Unique PresetDocument.id changed)
    (h : store.Admits d changed) :
    store.Admits d (sortById changed) := by
  have hperm := sortById_perm changed
  refine ⟨fun hapart preset hmem => h.apart hapart preset (hperm.subset hmem), ?_⟩
  intro preset hactive
  obtain ⟨name, hname⟩ := h.active preset hactive
  refine ⟨name, ?_⟩
  rw [StateStore.presetAt, Keyed.lookup_perm hperm.symm hunique]
  exact hname

omit [DisplayPath Directory FileName] in
/-- A list that was checked and admitted moves the documents on. -/
theorem moves_of_showsNew_presets
    {changed : List PresetDocument}
    (hsdk : store.sdk.RoundTrips)
    (hholds : Holds store.sdk v d)
    (hcheck : store.sdk.checkUserPresets changed = .ok ())
    (hadmits : store.Admits d changed)
    (h : ShowsNew .preset (store.sdk.presetsToVec (sortById changed)) v v') :
    Moves store d v' ∧ Renamed store.sdk v v' := by
  have hshown : liveTriple v' .preset =
      some (store.sdk.presetsToVec (sortById changed)) := by
    rw [h, replaced, Function.update_self]
  have hread := userPresets_presetsToVec hsdk hcheck
  refine ⟨⟨{ d with users := sortById changed }, ⟨⟨_, hshown, hread⟩, ?_⟩, rfl, ?_, ?_⟩,
    Or.inl ⟨changed, hcheck, h⟩⟩
  · rw [h, replaced, Function.update_of_ne (by simp)]
    exact hholds.settings
  · exact hadmits.sortById (of_checkUserPresets hcheck).1
  · exact Or.inr (sortedById_sortById changed)

/-- The changed list is written if it passes the checks. -/
theorem writeUserPresets_wp
    {changed : List PresetDocument} {reply : StoreReply}
    (hsdk : store.sdk.RoundTrips)
    (hholds : Holds store.sdk v d)
    (hadmits : Keyed.Unique PresetDocument.id changed → store.Admits d changed) :
    (do
      store.writeUserPresets changed
      pure reply : StoreProgram β StoreReply).wp A (bodyPost store d v) v := by
  unfold StateStore.writeUserPresets
  simp only [wp_bind]
  refine wp_ofExcept (stays_bodyPost hholds) ?_
  intro _ hcheck
  have hlate : ∀ v',
      ShowsNew .preset (store.sdk.presetsToVec (sortById changed)) v v' →
        Moves store d v' ∧ Renamed store.sdk v v' :=
    fun _ => moves_of_showsNew_presets hsdk hholds hcheck
      (hadmits (of_checkUserPresets hcheck).1)
  refine replaceFile_wp ?_ ?_ ?_
  · exact fun v' h => ⟨fun _ => Or.inl h, h.moves hholds⟩
  · exact fun v' h => ⟨fun _ => Or.inr ⟨rfl, hlate v' h⟩, (hlate v' h).1⟩
  · exact fun v' h => hlate v' h.showsNew

/-- The settings may change where the active preset stays the same. -/
theorem writeSettings_wp
    {settings : SettingsDocument} {reply : StoreReply}
    (hsdk : store.sdk.RoundTrips)
    (hholds : Holds store.sdk v d)
    (hactive : d.settings.activePresetId = settings.activePresetId) :
    (do
      store.writeSettings settings
      pure reply : StoreProgram β StoreReply).wp A (bodyPost store d v) v := by
  unfold StateStore.writeSettings
  simp only [wp_bind]
  refine wp_ofExcept (stays_bodyPost hholds) ?_
  intro validated hvalidated
  obtain ⟨rfl, hread⟩ := settings_settingsToVec hsdk hvalidated
  have hlate : ∀ v', ShowsNew .settings (store.sdk.settingsToVec validated) v v' →
      Moves store d v' ∧ Renamed store.sdk v v' := by
    intro v' h
    have hshown : liveTriple v' .settings = some (store.sdk.settingsToVec validated) := by
      rw [h, replaced, Function.update_self]
    refine ⟨⟨{ d with settings := validated }, ⟨?_, ⟨_, hshown, hread⟩⟩, ?_⟩,
      Or.inr ⟨validated, h⟩⟩
    · rw [h, replaced, Function.update_of_ne (by simp)]
      exact hholds.presets
    · exact ⟨hactive.symm, .refl store d, Or.inl rfl⟩
  refine replaceFile_wp ?_ ?_ ?_
  · exact fun v' h => ⟨fun _ => Or.inl h, h.moves hholds⟩
  · exact fun v' h => ⟨fun _ => Or.inr ⟨rfl, hlate v' h⟩, (hlate v' h).1⟩
  · exact fun v' h => hlate v' h.showsNew

end Writes

section Lists

omit [DisplayPath Directory FileName]

theorem StateStore.id_of_presetAt
    {users : List PresetDocument} {id : String} {preset : PresetDocument}
    (h : store.presetAt users id = some preset) :
    preset.id = id := by
  rcases Option.or_eq_some_iff.mp h with h | ⟨_, h⟩
  · exact (Keyed.mem_of_lookup h).2
  · exact (Keyed.mem_of_lookup h).2

/-- An id that was found is found before what is appended. -/
theorem lookup_append_of_isSome
    {users : List PresetDocument} {preset : PresetDocument} {id : String}
    (hunique : Keyed.Unique PresetDocument.id (users ++ [preset]))
    {found : PresetDocument}
    (hfound : Keyed.lookup PresetDocument.id users id = some found) :
    Keyed.lookup PresetDocument.id (users ++ [preset]) id = some found := by
  obtain ⟨hmem, hid⟩ := Keyed.mem_of_lookup hfound
  have := Keyed.lookup_of_mem hunique (List.mem_append_left [preset] hmem)
  rwa [hid] at this

/-- A preset under the active id stays what it is but for its name. -/
theorem presetAt_of_lookup
    {changed : List PresetDocument} {id : String}
    (h : ∀ preset, Keyed.lookup PresetDocument.id d.users id = some preset →
      ∃ name, Keyed.lookup PresetDocument.id changed id =
        some { preset with name := name })
    {preset : PresetDocument}
    (hactive : store.presetAt d.users id = some preset) :
    ∃ name, store.presetAt changed id = some { preset with name := name } := by
  unfold StateStore.presetAt at *
  cases hbuiltin : Keyed.lookup PresetDocument.id store.defaults.builtins id with
  | some found =>
      rw [hbuiltin] at hactive
      exact ⟨preset.name, hactive⟩
  | none =>
      rw [hbuiltin] at hactive
      exact h preset hactive

/-- A preset may be added whose id is none of the packaged ones. -/
theorem admits_append
    {preset : PresetDocument}
    (hfresh : Keyed.lookup PresetDocument.id store.defaults.builtins preset.id = none)
    (hunique : Keyed.Unique PresetDocument.id (d.users ++ [preset])) :
    store.Admits d (d.users ++ [preset]) := by
  refine ⟨?_, fun _ => presetAt_of_lookup fun found hfound =>
    ⟨found.name, lookup_append_of_isSome hunique hfound⟩⟩
  intro hapart p hmem builtin hbuiltin heq
  rcases List.mem_append.mp hmem with hmem | hmem
  · exact hapart p hmem builtin hbuiltin heq
  · obtain rfl := List.mem_singleton.mp hmem
    exact (Keyed.lookup_eq_none_iff.mp hfresh) builtin hbuiltin heq.symm

/-- A preset may be replaced where it is not active or only its name changes. -/
theorem admits_set
    {old new : PresetDocument} {position : Nat}
    (hunique : Keyed.Unique PresetDocument.id d.users)
    (hold : d.users[position]? = some old)
    (hid : new.id = old.id)
    (hactive : old.id ≠ d.settings.activePresetId ∨ ∃ name, new = { old with name := name }) :
    store.Admits d (d.users.set position new) := by
  have hmemOld : old ∈ d.users := List.mem_of_getElem? hold
  refine ⟨?_, fun _ => presetAt_of_lookup ?_⟩
  · intro hapart p hmem
    rcases List.mem_or_eq_of_mem_set hmem with hmem | rfl
    · exact hapart p hmem
    · rw [hid]
      exact hapart old hmemOld
  · intro found hfound
    rw [Keyed.lookup_set hunique hold hid]
    by_cases heq : new.id = d.settings.activePresetId
    · rcases hactive with hne | ⟨name, rfl⟩
      · exact absurd (hid.symm.trans heq) hne
      · have hsame := Keyed.lookup_of_mem hunique hmemOld
        rw [← hid, heq, hfound] at hsame
        obtain rfl := Option.some.inj hsame
        exact ⟨name, if_pos heq⟩
    · exact ⟨found.name, by rw [if_neg heq, hfound]⟩

/-- A preset may be deleted that is not active. -/
theorem admits_eraseIdx
    {old : PresetDocument} {position : Nat}
    (hunique : Keyed.Unique PresetDocument.id d.users)
    (hold : d.users[position]? = some old)
    (hactive : old.id ≠ d.settings.activePresetId) :
    store.Admits d (d.users.eraseIdx position) := by
  refine ⟨fun hapart p hmem => hapart p (List.mem_of_mem_eraseIdx hmem), ?_⟩
  refine fun _ => presetAt_of_lookup fun found hfound => ⟨found.name, ?_⟩
  rw [Keyed.lookup_eraseIdx hunique hold, if_neg hactive, hfound]

end Lists

section Operations

/-- A transaction whose body does nothing but move the documents on. -/
def Transacts (A : Answer FileName β → Prop)
    (store : StateStore β τ ν) (m : StoreProgram β StoreReply) : Prop :=
  ∃ body, m = withTransaction body ∧
    ∀ d v, Holds store.sdk v d → body.wp A (bodyPost store d v) v

/-- A new preset is appended to the list that is stored. -/
theorem appendPreset_wp
    {preset : PresetDocument}
    (hsdk : store.sdk.RoundTrips)
    (hholds : Holds store.sdk v d)
    (hfresh : Keyed.lookup PresetDocument.id store.defaults.builtins preset.id = none) :
    (store.appendPreset preset).wp A (bodyPost store d v) v := by
  unfold StateStore.appendPreset
  rw [wp_bind]
  refine loadUserPresets_wp hholds (stays_bodyPost hholds) ?_
  exact writeUserPresets_wp hsdk hholds (admits_append hfresh)

/-- A stored preset that is not active is replaced. -/
theorem replacePreset_wp
    {id : String} {preset : PresetDocument}
    (hsdk : store.sdk.RoundTrips)
    (hholds : Holds store.sdk v d)
    (hid : preset.id = id)
    (hactive : d.settings.activePresetId ≠ id) :
    (store.replacePreset id preset).wp A (bodyPost store d v) v := by
  unfold StateStore.replacePreset
  rw [wp_bind]
  refine loadUserPresets_wp hholds (stays_bodyPost hholds) ?_
  simp only [wp_bind]
  refine wp_positionOf (stays_bodyPost hholds) ?_
  intro position old hold holdId
  simp only [← wp_bind]
  refine writeUserPresets_wp hsdk hholds fun _ => ?_
  refine admits_set hholds.uniqueIds hold (hid.trans holdId.symm) (Or.inl ?_)
  rw [holdId]
  exact hactive.symm

/-- Creating looks for the id among all presets first. -/
theorem createUserPreset_transacts
    (hsdk : store.sdk.RoundTrips)
    (preset : ν) :
    Transacts A store (store.createUserPreset preset) := by
  refine ⟨_, rfl, ?_⟩
  intro d v hholds
  have hstay := stays_bodyPost hholds
  rw [wp_bind]
  refine wp_ofExcept hstay ?_
  intro parsed _
  simp only
  split
  · exact hstay.1 _
  rw [wp_bind]
  refine findPreset_wp hholds hstay ?_
  simp only
  split
  · exact hstay.1 _
  case isFalse hnone =>
    refine appendPreset_wp hsdk hholds ?_
    have hmissing : store.presetAt d.users parsed.id = none := by simpa using hnone
    exact (Option.or_eq_none_iff.mp hmissing).1

/-- A duplicate gets a fresh identifier. -/
theorem duplicatePreset_transacts
    (hsdk : store.sdk.RoundTrips)
    (hfresh : ∀ a, A a →
      Keyed.lookup PresetDocument.id store.defaults.builtins a.uuid = none)
    (sourceId name : String) :
    Transacts A store (store.duplicatePreset sourceId name) := by
  refine ⟨_, rfl, ?_⟩
  intro d v hholds
  have hstay := stays_bodyPost hholds
  rw [wp_bind]
  refine requirePreset_wp hholds hstay ?_
  intro preset _
  simp only [newUuid, wp_bind, wp_answer, wp_pure]
  refine ⟨hstay.2, ?_⟩
  intro a ha
  refine wp_ofExcept hstay ?_
  intro name' _
  exact appendPreset_wp hsdk hholds (hfresh a ha)

/-- Renaming changes nothing but the name. -/
theorem renamePreset_transacts
    (hsdk : store.sdk.RoundTrips)
    (id name : String) :
    Transacts A store (store.renamePreset id name) := by
  refine ⟨_, rfl, ?_⟩
  intro d v hholds
  have hstay := stays_bodyPost hholds
  split
  · exact hstay.1 _
  rw [wp_bind]
  refine loadUserPresets_wp hholds hstay ?_
  simp only [wp_bind]
  refine wp_positionOf hstay ?_
  intro position old hold holdId
  refine wp_ofExcept hstay ?_
  intro name' _
  simp only [hold]
  refine writeUserPresets_wp hsdk hholds fun _ => ?_
  exact admits_set hholds.uniqueIds hold rfl (Or.inr ⟨name', rfl⟩)

/-- The active preset is not deleted. -/
theorem deleteUserPreset_transacts
    (hsdk : store.sdk.RoundTrips)
    (id : String) :
    Transacts A store (store.deleteUserPreset id) := by
  refine ⟨_, rfl, ?_⟩
  intro d v hholds
  have hstay := stays_bodyPost hholds
  rw [wp_bind]
  refine requirePreset_wp hholds hstay ?_
  intro existing _
  simp only
  split
  · exact hstay.1 _
  rw [wp_bind]
  refine loadSettings_wp hholds hstay ?_
  simp only
  split
  · exact hstay.1 _
  case isFalse hactive =>
    rw [wp_bind]
    refine loadUserPresets_wp hholds hstay ?_
    simp only [wp_bind]
    refine wp_positionOf hstay ?_
    intro position old hold holdId
    simp only [hold]
    refine writeUserPresets_wp hsdk hholds fun _ => ?_
    refine admits_eraseIdx hholds.uniqueIds hold ?_
    rw [holdId]
    exact Ne.symm hactive

/-- An update has the id of the preset it replaces. -/
theorem updateUserPreset_transacts
    (hsdk : store.sdk.RoundTrips)
    (id : String) (candidate : ν) :
    Transacts A store (store.updateUserPreset id candidate) := by
  refine ⟨_, rfl, ?_⟩
  intro d v hholds
  have hstay := stays_bodyPost hholds
  rw [wp_bind]
  refine requirePreset_wp hholds hstay ?_
  intro existing _
  simp only
  split
  · exact hstay.1 _
  rw [wp_bind]
  refine wp_ofExcept hstay ?_
  intro parsed _
  simp only
  split
  · exact hstay.1 _
  split
  · exact hstay.1 _
  case isFalse hid =>
    rw [wp_bind]
    refine loadSettings_wp hholds hstay ?_
    simp only
    split
    · exact hstay.1 _
    case isFalse hactive => exact replacePreset_wp hsdk hholds (not_not.mp hid) hactive

theorem mutateUserKeybinding_transacts
    (hsdk : store.sdk.RoundTrips)
    (id action : String) (accelerator : Option String) :
    Transacts A store (store.mutateUserKeybinding id action accelerator) := by
  refine ⟨_, rfl, ?_⟩
  intro d v hholds
  have hstay := stays_bodyPost hholds
  rw [wp_bind]
  refine requirePreset_wp hholds hstay ?_
  intro existing hfound
  simp only
  split
  · exact hstay.1 _
  rw [wp_bind]
  refine loadSettings_wp hholds hstay ?_
  simp only
  split
  · exact hstay.1 _
  case isFalse hactive =>
    rw [wp_bind]
    refine wp_reached hstay ?_
    simp only [wp_bind]
    refine wp_ofExcept hstay ?_
    intro keybindings _
    refine wp_ofExcept hstay ?_
    intro parsed hparsed
    have hsame := hsdk.preset _ _ (validatePreset_of_parsePreset hparsed)
    have hid : existing.id = id := StateStore.id_of_presetAt hfound
    refine replacePreset_wp hsdk hholds ?_ hactive
    rw [hsame]
    exact hid

/-- An import is an addition, or a replacement where the mode allows it. -/
theorem importPreset_transacts
    (hsdk : store.sdk.RoundTrips)
    (hfresh : ∀ a, A a →
      Keyed.lookup PresetDocument.id store.defaults.builtins a.uuid = none)
    (candidate : ν) (mode : ImportMode) :
    Transacts A store (store.importPreset candidate mode) := by
  refine ⟨_, rfl, ?_⟩
  intro d v hholds
  have hstay := stays_bodyPost hholds
  rw [wp_bind]
  refine wp_ofExcept hstay ?_
  intro parsed _
  simp only
  split
  · simp only [newUuid, wp_bind, wp_answer, wp_pure]
    refine ⟨hstay.2, ?_⟩
    intro a ha
    exact appendPreset_wp hsdk hholds (hfresh a ha)
  rw [wp_bind]
  refine findPreset_wp hholds hstay ?_
  cases hfound : store.presetAt d.users parsed.id with
  | none => exact appendPreset_wp hsdk hholds (Option.or_eq_none_iff.mp hfound).1
  | some existing =>
      simp only
      split
      · exact hstay.1 _
      split
      · exact hstay.1 _
      rw [wp_bind]
      refine loadSettings_wp hholds hstay ?_
      simp only
      split
      · exact hstay.1 _
      case isFalse hactive => exact replacePreset_wp hsdk hholds rfl hactive

/-- New settings keep the active preset. -/
theorem replaceSettings_transacts
    (hsdk : store.sdk.RoundTrips)
    (settings : ν) :
    Transacts A store (store.replaceSettings settings) := by
  refine ⟨_, rfl, ?_⟩
  intro d v hholds
  have hstay := stays_bodyPost hholds
  rw [wp_bind]
  refine wp_ofExcept hstay ?_
  intro parsed _
  simp only [wp_bind]
  refine findPreset_wp hholds hstay ?_
  simp only
  split
  · exact hstay.1 _
  rw [wp_bind]
  refine loadSettings_wp hholds hstay ?_
  simp only
  split
  · exact hstay.1 _
  case isFalse hactive => exact writeSettings_wp hsdk hholds (not_not.mp hactive)

/-- Every mutation is one transaction that keeps what it should. -/
theorem mutate_transacts
    (hsdk : store.sdk.RoundTrips)
    (hfresh : ∀ a, A a →
      Keyed.lookup PresetDocument.id store.defaults.builtins a.uuid = none)
    (m : Mutation ν) :
    Transacts A store (store.mutate m) := by
  cases m with
  | create preset => exact createUserPreset_transacts hsdk preset
  | duplicate sourceId name => exact duplicatePreset_transacts hsdk hfresh sourceId name
  | rename id name => exact renamePreset_transacts hsdk id name
  | delete id => exact deleteUserPreset_transacts hsdk id
  | «import» candidate mode => exact importPreset_transacts hsdk hfresh candidate mode
  | update id candidate => exact updateUserPreset_transacts hsdk id candidate
  | mutateKeybinding id action accelerator =>
      exact mutateUserKeybinding_transacts hsdk id action accelerator
  | replaceSettings settings => exact replaceSettings_transacts hsdk settings

end Operations

section Opening

omit [DisplayPath Directory FileName] in
/-- Accepted defaults contain nothing but the packaged preset. -/
theorem id_of_fromJson
    {sdk : Sdk β τ ν} {settings : ν} {presets : List ν} {defaults : Defaults}
    (h : Defaults.fromJson sdk settings presets = .ok defaults) :
    ∀ preset ∈ defaults.builtins, preset.id = builtinPresetId := by
  obtain ⟨settings', _, h⟩ := Checks.bind_eq_ok_iff.mp h
  obtain ⟨builtins, _, h⟩ := Checks.bind_eq_ok_iff.mp h
  split at h
  case isTrue => cases h
  case isFalse haccepted =>
    obtain rfl := Except.ok.inj h
    simp only [not_or] at haccepted
    simpa using haccepted.2.2.1

omit [DisplayPath Directory FileName] in
/-- No fresh identifier is the id of a packaged preset. -/
theorem lookup_uuid
    (hdefaults : ∀ preset ∈ store.defaults.builtins, preset.id = builtinPresetId)
    (a : Answer FileName β) (ha : canonicalUuid a.uuid = true) :
    Keyed.lookup PresetDocument.id store.defaults.builtins a.uuid = none := by
  have hbuiltin : canonicalUuid builtinPresetId = false := by decide
  refine Keyed.lookup_eq_none_iff.mpr fun preset hmem heq => ?_
  rw [← heq, hdefaults preset hmem, hbuiltin] at ha
  cases ha

/-- What has to hold when an operation does not fail. -/
def onSuccess (P : α → Files β → Prop) : Post (Files β) Failure α :=
  ⟨P, fun _ _ => True, fun _ => True⟩

omit [DisplayPath Directory FileName] in
theorem stays_onSuccess (P : α → Files β → Prop) (v : Files β) :
    Stays (onSuccess P) v :=
  ⟨fun _ => trivial, trivial⟩

theorem replaceFile_success
    {k : ArtifactKind} {bytes : β} {P : Unit → Files β → Prop}
    (h : ∀ v', ShowsNew k bytes v v' → P () v') :
    (store.replaceFile k bytes).wp A (onSuccess P) v :=
  replaceFile_wp (fun v' _ => stays_onSuccess P v')
    (fun _ _ => ⟨fun _ => trivial, trivial⟩) fun v' hv => h v' hv.showsNew

/-- Only a missing file is written when the store is opened. -/
theorem createMissing_wp
    {k : ArtifactKind} {write : StoreProgram β Unit} {P : Unit → Files β → Prop}
    (hpresent : (liveTriple v k).isSome → P () v)
    (hwrite : liveTriple v k = none → write.wp A (onSuccess P) v) :
    (StateStore.createMissing k write).wp A (onSuccess P) v := by
  unfold StateStore.createMissing «exists»
  rw [wp_bind]
  refine wp_openRegularOptional (stays_onSuccess _ v).cut ?_
  cases hcurrent : liveTriple v k with
  | none =>
      have hmissing : (v (artifactDir k) (.named (artifactName k))).current = none := hcurrent
      simpa [hmissing] using hwrite hcurrent
  | some bytes =>
      have hfound : (v (artifactDir k) (.named (artifactName k))).current = some bytes :=
        hcurrent
      simpa [hfound, onSuccess] using hpresent (by simp [hcurrent])

/-- A missing list of presets is created empty. -/
theorem initializeFiles_wp
    (hsdk : store.sdk.RoundTrips) :
    (store.initializeFiles).wp A
      (onSuccess fun _ v' => liveTriple v .preset = none →
        ∀ users, Loaded store.sdk v' users → users = []) v := by
  unfold StateStore.initializeFiles
  rw [wp_bind]
  have hcreate : ∀ v₁, liveTriple v₁ .preset = liveTriple v .preset →
      (StateStore.createMissing .preset (store.writeUserPresets [])).wp A
        (onSuccess fun _ v' => liveTriple v .preset = none →
          ∀ users, Loaded store.sdk v' users → users = []) v₁ := by
    intro v₁ hsame
    refine createMissing_wp ?_ ?_
    · intro hpresent hmissing
      simp [hsame, hmissing] at hpresent
    intro _
    unfold StateStore.writeUserPresets
    rw [wp_bind]
    refine wp_ofExcept (stays_onSuccess _ v₁) ?_
    intro _ hcheck
    refine replaceFile_success ?_
    rintro v' hshown _ users ⟨bytes, hbytes, husers⟩
    rw [hshown, replaced, Function.update_self] at hbytes
    obtain rfl := Option.some.inj hbytes
    exact (Except.ok.inj ((userPresets_presetsToVec hsdk hcheck).symm.trans husers)).symm
  refine createMissing_wp (P := fun _ v₁ => (StateStore.createMissing .preset
    (store.writeUserPresets [])).wp A _ v₁) (fun _ => hcreate v rfl) ?_
  intro _
  unfold StateStore.writeSettings
  rw [wp_bind]
  refine wp_ofExcept (stays_onSuccess _ v) ?_
  intro validated _
  refine replaceFile_success fun v' hshown => hcreate v' ?_
  rw [hshown, replaced, Function.update_of_ne (by simp)]

theorem withTransaction_success
    {m : StoreProgram β α} {P : α → Files β → Prop}
    (hm : m.wp A (onSuccess P) v) :
    (withTransaction m).wp A (onSuccess P) v := by
  refine wp_withTransaction (stays_onSuccess P v).cut ?_
  refine wp_mono ?_ ?_ ?_ hm
  · exact fun _ v' h => ⟨h, (stays_onSuccess P v').cut⟩
  · exact fun _ v' _ => ⟨trivial, (stays_onSuccess P v').cut⟩
  · exact fun _ _ => trivial

/-- What a store holds that was opened. -/
theorem open_wp
    (hsdk : store.sdk.RoundTrips) :
    (store.open).wp A
      (onSuccess fun _ v' => ∃ d, Holds store.sdk v' d ∧ (store.activePreset d).isSome ∧
        (liveTriple v .preset = none → d.users = [])) v := by
  refine withTransaction_success ?_
  rw [wp_bind]
  refine wp_mono ?_ (fun _ _ _ => trivial) (fun _ _ => trivial) (initializeFiles_wp hsdk)
  intro _ v' hempty
  unfold StateStore.loadSettings
  simp only [wp_bind]
  refine wp_read (stays_onSuccess _ v').cut ?_
  intro bytes hbytes
  refine wp_ofExcept (stays_onSuccess _ v') ?_
  intro settings hsettings
  refine wp_loadUserPresets (stays_onSuccess _ v') ?_
  intro users husers
  have hholds : Holds store.sdk v' ⟨users, settings⟩ := ⟨husers, bytes, hbytes, hsettings⟩
  refine findPreset_wp hholds (stays_onSuccess _ v') ?_
  simp only
  split
  · trivial
  case isFalse hactive =>
    refine ⟨⟨users, settings⟩, hholds, ?_, fun hmissing => hempty hmissing users husers⟩
    simpa [StateStore.activePreset, Option.isSome_iff_ne_none] using hactive

end Opening

section Runs

variable [Inhabited β]

/-- Mutations in any order, however each of them ends. -/
def mutationSystem (store : StateStore β τ ν) (opened : Files β) :
    System (Files β) (Mutation ν × List (Answer FileName β)) where
  initial v := v = opened
  step v e v' :=
    (∀ a ∈ e.2, canonicalUuid a.uuid = true) ∧ v' = ((store.mutate e.1).run e.2 v).2

/-- What an operation may do to a store whose files hold the given documents. -/
structure StateStore.OperationLaw
    (store : StateStore β τ ν) (d : StoreDocuments) (v : Files β) (m : Mutation ν) :
    Prop where
  /-- However it ends, the files hold documents that continue the given ones. -/
  moves : ∀ script, (∀ a ∈ script, canonicalUuid a.uuid = true) →
    Moves store d ((store.mutate m).run script v).2
  /-- Apart from the lock, a failure leaves the files alone or follows the rename. -/
  failure : ∃ body, store.mutate m = withTransaction body ∧
    ∀ script e v', (∀ a ∈ script, canonicalUuid a.uuid = true) →
      body.run script v = (.error e, v') →
        Unchanged v v' ∨ e.code = .commitStateUnknown ∧ Renamed store.sdk v v'
  outcome : ∀ script e v', (∀ a ∈ script, canonicalUuid a.uuid = true) →
    (store.mutate m).run script v = (.error e, v') →
      Unchanged v v' ∨
        (e.code = .commitStateUnknown ∨ e.code = .ioError) ∧ Renamed store.sdk v v'

/-- What holds after every run of a store that was opened. -/
structure StateStore.RunLaw
    (store : StateStore β τ ν) (d₀ : StoreDocuments) (v : Files β) (d : StoreDocuments) :
    Prop where
  holds : Holds store.sdk v d
  sound : store.Sound d
  continues : store.Continues d₀ d
  sorted : SortedById d.users ∨ d.users = d₀.users
  operations : ∀ m, store.OperationLaw d v m

/-- Whatever the documents are, the next operation keeps to the law. -/
theorem operationLaw
    (hsdk : store.sdk.RoundTrips)
    (hdefaults : ∀ preset ∈ store.defaults.builtins, preset.id = builtinPresetId)
    (hholds : Holds store.sdk v d)
    (m : Mutation ν) :
    store.OperationLaw d v m := by
  obtain ⟨body, hbody, hwp⟩ :=
    mutate_transacts (A := fun a => canonicalUuid a.uuid = true) hsdk
      (lookup_uuid hdefaults) m
  have hoperation : (store.mutate m).wp (fun a => canonicalUuid a.uuid = true)
      (operationPost store d v) v := by
    rw [hbody]
    exact withTransaction_wp hholds (hwp d v hholds)
  refine ⟨?_, ⟨body, hbody, ?_⟩, ?_⟩
  · intro script hscript
    have hpost := wp_sound canonicalUuid_nilUuid _ _ script v hscript hoperation
    rcases hrun : (store.mutate m).run script v with ⟨outcome, v'⟩
    rw [hrun] at hpost
    cases outcome with
    | ok reply => exact hpost.1
    | crashed => exact hpost
    | error e =>
        rcases hpost with h | ⟨_, h, _⟩
        · exact h.moves hholds
        · exact h
  · intro script e v' hscript hrun
    have hpost := holds_of_allowed_run canonicalUuid_nilUuid hscript hrun (hwp d v hholds)
    rcases hpost with h | ⟨hcode, _, h⟩
    · exact Or.inl h
    · exact Or.inr ⟨hcode, h⟩
  · intro script e v' hscript hrun
    have hpost := holds_of_allowed_run canonicalUuid_nilUuid hscript hrun hoperation
    rcases hpost with h | ⟨hcode, _, h⟩
    · exact Or.inl h
    · exact Or.inr ⟨hcode, h⟩

/-- Opening yields documents that are sound, and no presets if there were none. -/
theorem sound_of_open
    (hsdk : store.sdk.RoundTrips)
    (hids : ∀ input preset, store.sdk.validatePreset input = .ok preset →
      preset.origin = .user → canonicalUuid preset.id = true)
    (hdefaults : ∀ preset ∈ store.defaults.builtins, preset.id = builtinPresetId)
    {before opened : Files β} {script : List (Answer FileName β)}
    (hopen : (store.open).run script before = (.ok (), opened)) :
    ∃ d₀, Holds store.sdk opened d₀ ∧ store.Sound d₀ ∧
      (liveTriple before .preset = none → d₀.users = []) := by
  have hpost := holds_of_run hopen (open_wp hsdk)
  obtain ⟨d₀, hholds, hactive, hempty⟩ := hpost
  refine ⟨d₀, hholds, ⟨hholds.uniqueIds, hholds.origin, ?_, hactive⟩, hempty⟩
  intro preset hmem builtin hbuiltin heq
  obtain ⟨bytes, _, husers⟩ := hholds.presets
  obtain ⟨value, hvalue⟩ := parsed_of_userPresets husers preset hmem
  obtain ⟨parsed, hparsed, h⟩ := Checks.bind_eq_ok_iff.mp hvalue
  have hsame : parsed = preset := by
    split at h
    · exact Except.ok.inj h
    · cases h
  subst hsame
  have hcanonical := hids _ _ (validatePreset_of_parsePreset hparsed)
    (origin_of_parseUserPreset hvalue)
  have hbuiltinId : canonicalUuid builtinPresetId = false := by decide
  rw [heq, hdefaults builtin hbuiltin, hbuiltinId] at hcanonical
  cases hcanonical

/-- Every run of an opened store keeps the laws of the store. -/
theorem run_laws
    (store : StateStore β τ ν) {settings : ν} {presets : List ν}
    (hsdk : store.sdk.RoundTrips)
    (hids : ∀ input preset, store.sdk.validatePreset input = .ok preset →
      preset.origin = .user → canonicalUuid preset.id = true)
    (hdefaults : Defaults.fromJson store.sdk settings presets = .ok store.defaults)
    {before opened : Files β} {script : List (Answer FileName β)}
    (hopen : (store.open).run script before = (.ok (), opened)) :
    ∃ d₀, (liveTriple before .preset = none → d₀.users = []) ∧
      store.RunLaw d₀ opened d₀ ∧
      ∀ v, (mutationSystem store opened).Reachable v → ∃ d, store.RunLaw d₀ v d := by
  have hbuiltins := id_of_fromJson hdefaults
  obtain ⟨d₀, hholds₀, hsound₀, hempty⟩ := sound_of_open hsdk hids hbuiltins hopen
  have hlaw : ∀ v, Moves store d₀ v → ∃ d, store.RunLaw d₀ v d := by
    rintro v ⟨d, hholds, hcontinues⟩
    refine ⟨d, hholds, hsound₀.continues hcontinues hholds, hcontinues, ?_, ?_⟩
    · exact hcontinues.sorted.symm
    · exact operationLaw hsdk hbuiltins hholds
  refine ⟨d₀, hempty, ⟨hholds₀, hsound₀, .refl store d₀, Or.inr rfl, ?_⟩, ?_⟩
  · exact operationLaw hsdk hbuiltins hholds₀
  intro v hreach
  refine hlaw v (hreach.invariant (I := Moves store d₀) ?_ ?_)
  · rintro v rfl
    exact ⟨d₀, hholds₀, .refl store d₀⟩
  · rintro v ⟨m, script⟩ v' ⟨d, hholds, hcontinues⟩ ⟨hscript, rfl⟩
    obtain ⟨d', hholds', hnext⟩ :=
      (operationLaw hsdk hbuiltins hholds m).moves script hscript
    exact ⟨d', hholds', hcontinues.trans hnext⟩

end Runs

end Steps

section Sample

/-- Contents, texts and values of a store whose documents are not encoded. -/
inductive PlainContent where
  | empty
  | presets (presets : List PresetDocument)
  | settings (settings : SettingsDocument)
deriving DecidableEq, Repr

instance : Inhabited PlainContent :=
  ⟨.empty⟩

def plainDocuments : Sdk PlainContent PlainContent PlainContent where
  fromUtf8 := .ok
  valuesFromStr
    | .presets presets => .ok (presets.map fun preset => .presets [preset])
    | _ => .error "expected an array"
  valueToString := id
  presetFromValue
    | .presets [preset] => some preset
    | _ => none
  presetToValue preset := .presets [preset]
  presetsToVec := .presets
  settingsToValue := .settings
  settingsToVec := .settings
  keybindingConflict _ := none
  canonicalizeAccelerator := .ok
  validatePreset
    | .presets [preset] =>
        if preset.origin = .user ∧ canonicalUuid preset.id = false then
          .error "expected a UUID"
        else
          .ok preset
    | _ => .error "expected a preset"
  validateSettings
    | .settings settings => .ok settings
    | _ => .error "expected settings"

theorem plainDocuments_roundTrips : plainDocuments.RoundTrips where
  presets _ := ⟨_, rfl, rfl⟩
  preset preset preset' h := by
    simp only [plainDocuments, id_eq] at h
    split at h
    · cases h
    · exact (Except.ok.inj h).symm
  settings _ _ h := ⟨(Except.ok.inj h).symm, _, rfl, rfl⟩

theorem plainDocuments_ids
    (input : PlainContent) (preset : PresetDocument)
    (h : plainDocuments.validatePreset input = .ok preset)
    (horigin : preset.origin = .user) :
    canonicalUuid preset.id = true := by
  simp only [plainDocuments] at h
  split at h
  case h_2 => cases h
  case h_1 =>
    split at h
    case isTrue => cases h
    case isFalse hid =>
      obtain rfl := Except.ok.inj h
      simpa [horigin] using hid

def plainSettings : SettingsDocument :=
  { schemaVersion := 1
    activePresetId := builtinPresetId
    appearanceMode := "dark"
    paletteSource := "sleepy"
    reducedMotion := false
    effectsProfile := "full"
    panelVisibility := "always"
    webSearchEnabled := true }

def plainPreset (id : String) : PresetDocument :=
  { id := id
    name := "Mine"
    origin := .user
    basePresetId := none
    keybindings := []
    content := "" }

def packagedPreset : PresetDocument :=
  { plainPreset builtinPresetId with origin := .builtin }

def plainStore : StateStore PlainContent PlainContent PlainContent where
  sdk := plainDocuments
  defaults := ⟨plainSettings, [packagedPreset]⟩
  empty := .empty

theorem plainStore_defaults :
    Defaults.fromJson plainDocuments (.settings plainSettings) [.presets [packagedPreset]] =
      .ok plainStore.defaults :=
  rfl

local instance plainPaths : DisplayPath Directory FileName :=
  ⟨fun _ _ => ""⟩

def emptyFiles : Files PlainContent :=
  ⟨fun _ _ => Cell.settled none⟩

/-- A store that was opened for the first time. -/
def firstOpened : Files PlainContent :=
  (plainStore.open.run [] emptyFiles).2

/-- Every system call succeeds until the directory is to be synced. -/
def unsyncedDirectory : List (Answer FileName PlainContent) :=
  List.replicate 14 { torn := .empty } ++ [{ torn := .empty, fault := .fail }]

def creation : Mutation PlainContent :=
  .create (.presets [plainPreset nilUuid])

/-- The store after a creation whose directory was not synced. -/
def createdUnsynced : Files PlainContent :=
  ((plainStore.mutate creation).run unsyncedDirectory firstOpened).2

def newName : Mutation PlainContent :=
  .rename nilUuid "Evening"

def renamed : Files PlainContent :=
  ((plainStore.mutate newName).run [] createdUnsynced).2

theorem renamed_shown :
    liveTriple renamed .preset =
      some (.presets [{ plainPreset nilUuid with name := "Evening" }]) := by
  decide

/-- The first store, a creation that failed after its rename, and a new name for the preset. -/
theorem run_laws_renamed :
    ∃ d₀ d, plainStore.RunLaw d₀ renamed d ∧ d₀.users = [] ∧
      d.users = [{ plainPreset nilUuid with name := "Evening" }] := by
  have hopen : (plainStore.open.run [] emptyFiles).1.get?.isSome = true := by
    decide
  obtain ⟨d₀, hempty, -, hruns⟩ :=
    run_laws plainStore plainDocuments_roundTrips plainDocuments_ids plainStore_defaults
      (Outcome.pair_eq_ok hopen)
  have hcreated : (mutationSystem plainStore firstOpened).Reachable createdUnsynced :=
    .step (e := (creation, unsyncedDirectory)) (.initial rfl) ⟨by decide, rfl⟩
  have hrenamed : (mutationSystem plainStore firstOpened).Reachable renamed :=
    .step (e := (newName, [])) hcreated ⟨by decide, rfl⟩
  obtain ⟨d, hlaw⟩ := hruns renamed hrenamed
  obtain ⟨bytes, hbytes, husers⟩ := hlaw.holds.presets
  rw [renamed_shown] at hbytes
  obtain rfl := Option.some.inj hbytes
  refine ⟨d₀, d, hlaw, hempty rfl, Except.ok.inj (husers.symm.trans ?_)⟩
  decide

/-- Files that were written by hand, the presets in any order. -/
def unsortedFiles : Files PlainContent :=
  ⟨fun d n =>
    match d, n with
    | .presets, .named (.artifact .preset) =>
        Cell.settled (some (.presets
          [plainPreset "00000000-0000-0000-0000-000000000001", plainPreset nilUuid]))
    | _, _ => Cell.settled none⟩

/-- A failing creation is visible, and an accepted list need not be sorted. -/
theorem failed_creation_visible :
    ((plainStore.open.run [] emptyFiles).1 = .ok () ∧
        (∃ e, ((plainStore.mutate creation).run unsyncedDirectory firstOpened).1 =
          .error e) ∧
        liveTriple firstOpened .preset = some (.presets []) ∧
        liveTriple createdUnsynced .preset = some (.presets [plainPreset nilUuid])) ∧
      (plainStore.open.run [] unsortedFiles).1 = .ok () ∧
      ∃ users, plainDocuments.userPresets (.presets users) = .ok users ∧
        liveTriple (plainStore.open.run [] unsortedFiles).2 .preset =
          some (.presets users) ∧
        ¬ SortedById users := by
  refine ⟨⟨?_, ⟨.commitStateUnknown (Failure.io "").display, ?_⟩, ?_, ?_⟩, ?_,
    [plainPreset "00000000-0000-0000-0000-000000000001", plainPreset nilUuid], ?_, ?_, ?_⟩
  · decide
  · decide
  · decide
  · decide
  · decide
  · decide
  · decide
  · unfold SortedById
    decide

end Sample

end SleepySession
