import SleepySession.Launcher.Exec

/-!
# The program of a launch

An `Exec` value as slots that know nothing of the resources: whole arguments,
and arguments with positions for a file or a URL.  A launch fills the slots.
The program depends on the resources exactly if a position stands in a slot up
to the first one that always gives an argument; the check at indexing time
fills the slots with no resources and does not see it.
-/

namespace SleepySession
namespace Launcher

/-- A part of an argument: text of the entry, or the position of a resource. -/
inductive Piece where
  | own (text : Text)
  | file
  | url
deriving DecidableEq

/-- What a token stands for. -/
inductive Slot where
  | files
  | urls
  | own (arguments : List Text)
  | argument (pieces : List Piece)
deriving DecidableEq

def Piece.text (resources : LaunchResources) : Piece → Text
  | .own text => text
  | .file => resources.files.head?.getD []
  | .url => resources.urls.head?.getD []

def Piece.isOwn : Piece → Bool
  | .own _ => true
  | _ => false

/-- The arguments that fill a slot. -/
def Slot.arguments (resources : LaunchResources) : Slot → List Text
  | .files => resources.files
  | .urls => resources.urls
  | .own arguments => arguments
  | .argument pieces =>
      let expanded := pieces.flatMap (Piece.text resources)
      if expanded = [] then [] else [expanded]

/-- No resource has a position in the slot. -/
def Slot.resourceFree : Slot → Bool
  | .files | .urls => false
  | .own _ => true
  | .argument pieces => pieces.all Piece.isOwn

/-- Up to the first slot that gives an argument without resources, no resource has a position. -/
def FixedProgram : List Slot → Prop
  | [] => False
  | slot :: rest => slot.resourceFree = true ∧ (slot.arguments {} ≠ [] ∨ FixedProgram rest)

section Slots

variable (entry : DesktopEntry)

/-- The piece of a field code inside of a token. -/
def fieldPiece (code : Char) : Except IoError Piece :=
  if code = 'f' then .ok .file
  else if code = 'u' then .ok .url
  else (fieldCode entry {} code).map Piece.own

def tokenPieces : Text → Except IoError (List Piece)
  | [] => .ok []
  | ['%'] => .error (invalidData "trailing Exec field code")
  | '%' :: code :: rest => do
      let piece ← fieldPiece entry code
      let pieces ← tokenPieces rest
      return piece :: pieces
  | c :: rest => do
      let pieces ← tokenPieces rest
      return .own [c] :: pieces

def tokenSlot (token : Text) : Except IoError Slot :=
  if token = ['%', 'F'] then .ok .files
  else if token = ['%', 'U'] then .ok .urls
  else if token = ['%', 'i'] then
    .ok (.own (match entry.icon with
      | some icon => ["--icon".toList, icon]
      | none => []))
  else (tokenPieces entry token).map Slot.argument

def tokenSlots : List Text → Except IoError (List Slot)
  | [] => .ok []
  | token :: rest => do
      let slot ← tokenSlot entry token
      let slots ← tokenSlots rest
      return slot :: slots

/-- The slots of an `Exec` value. -/
def execSlots (exec : Text) : Except IoError (List Slot) := do
  let tokens ← tokenize exec
  tokenSlots entry tokens

end Slots

section Filling

variable {entry : DesktopEntry} {resources : LaunchResources}

theorem fieldCode_eq (code : Char) :
    fieldCode entry resources code = (fieldPiece entry code).map (Piece.text resources) := by
  unfold fieldPiece
  by_cases hf : code = 'f'
  · subst hf
    rfl
  · rw [if_neg hf]
    by_cases hu : code = 'u'
    · subst hu
      rfl
    · rw [if_neg hu]
      unfold fieldCode
      simp only [if_neg hf, if_neg hu]
      split_ifs <;> rfl

theorem expandToken_eq (token : Text) :
    expandToken entry resources token =
      (tokenPieces entry token).map fun pieces => pieces.flatMap (Piece.text resources) := by
  induction token using expandToken.induct with
  | case1 => rfl
  | case2 => rfl
  | case3 code rest ih =>
      rw [expandToken, tokenPieces, fieldCode_eq, ih]
      cases fieldPiece entry code with
      | error e => rfl
      | ok piece => cases tokenPieces entry rest <;> rfl
  | case4 c rest hlast hcode ih =>
      rw [expandToken, tokenPieces, ih]
      · cases tokenPieces entry rest <;> rfl
      all_goals assumption

theorem expandArgument_eq (token : Text) :
    expandArgument entry resources token =
      (tokenSlot entry token).map (Slot.arguments resources) := by
  unfold expandArgument tokenSlot
  by_cases hfiles : token = ['%', 'F']
  · rw [if_pos hfiles, if_pos hfiles]
    rfl
  · by_cases hurls : token = ['%', 'U']
    · rw [if_neg hfiles, if_pos hurls, if_neg hfiles, if_pos hurls]
      rfl
    · by_cases hicon : token = ['%', 'i']
      · rw [if_neg hfiles, if_neg hurls, if_pos hicon, if_neg hfiles, if_neg hurls, if_pos hicon]
        rfl
      · rw [if_neg hfiles, if_neg hurls, if_neg hicon, if_neg hfiles, if_neg hurls, if_neg hicon,
          expandToken_eq]
        cases tokenPieces entry token <;> rfl

theorem expandTokens_eq (tokens : List Text) :
    expandTokens entry resources tokens =
      (tokenSlots entry tokens).map fun slots => slots.flatMap (Slot.arguments resources) := by
  induction tokens with
  | nil => rfl
  | cons token rest ih =>
      rw [expandTokens, tokenSlots, expandArgument_eq, ih]
      cases tokenSlot entry token with
      | error e => rfl
      | ok slot => cases tokenSlots entry rest <;> rfl

/-- An expansion fills the slots, and the first argument is not empty. -/
theorem expandExec_eq_ok {exec : Text} {argv : List Text} :
    expandExec entry resources exec = .ok argv ↔
      ∃ slots, execSlots entry exec = .ok slots ∧
        argv = slots.flatMap (Slot.arguments resources) ∧ argv.head?.getD [] ≠ [] := by
  unfold expandExec execSlots
  cases tokenize exec with
  | error e => simp [bind, Except.bind]
  | ok tokens =>
      simp only [bind, Except.bind, expandTokens_eq]
      by_cases hempty : tokens = []
      · subst hempty
        rw [if_pos rfl]
        refine ⟨fun h => (by cases h), ?_⟩
        rintro ⟨slots, hslots, rfl, hhead⟩
        cases hslots
        exact absurd rfl hhead
      · rw [if_neg hempty]
        cases tokenSlots entry tokens with
        | error e => simp [Except.map]
        | ok slots =>
            simp only [Except.map]
            by_cases hhead : (slots.flatMap (Slot.arguments resources)).head?.getD [] = []
            · rw [if_pos hhead]
              refine ⟨fun h => (by cases h), ?_⟩
              rintro ⟨_, hslots, rfl, hne⟩
              cases hslots
              exact absurd hhead hne
            · rw [if_neg hhead]
              constructor
              · intro h
                cases h
                exact ⟨slots, rfl, rfl, hhead⟩
              · rintro ⟨_, hslots, rfl, -⟩
                cases hslots
                rfl

end Filling

section Fixed

variable {slot : Slot} {slots : List Slot}

/-- A slot without positions is filled the same way always. -/
theorem Slot.arguments_of_resourceFree (h : slot.resourceFree = true)
    (resources : LaunchResources) : slot.arguments resources = slot.arguments {} := by
  cases slot with
  | files => cases h
  | urls => cases h
  | own arguments => rfl
  | argument pieces =>
      have hsame : pieces.flatMap (Piece.text resources) = pieces.flatMap (Piece.text {}) := by
        refine List.flatMap_congr fun piece hpiece => ?_
        have hown := List.all_eq_true.mp h piece hpiece
        cases piece with
        | own text => rfl
        | file => cases hown
        | url => cases hown
      simp only [Slot.arguments, hsame]

/-- The slot of a program that is fixed. -/
theorem FixedProgram.split (h : FixedProgram slots) :
    ∃ before slot after, slots = before ++ slot :: after ∧
      (∀ resources, before.flatMap (Slot.arguments resources) = []) ∧
      slot.resourceFree = true ∧ slot.arguments {} ≠ [] := by
  induction slots with
  | nil => cases h
  | cons slot rest ih =>
      obtain ⟨hfree, hprogram⟩ := h
      by_cases hempty : slot.arguments {} = []
      · obtain ⟨before, next, after, hrest, hbefore, hnext⟩ :=
          ih (hprogram.resolve_left (not_not.mpr hempty))
        refine ⟨slot :: before, next, after, by rw [hrest, List.cons_append], fun resources => ?_,
          hnext⟩
        rw [List.flatMap_cons, slot.arguments_of_resourceFree hfree, hempty, hbefore]
        rfl
      · exact ⟨[], slot, rest, rfl, fun _ => rfl, hfree, hempty⟩

/-- One file and one URL, both of one character. -/
def sameResources (c : Char) : LaunchResources :=
  ⟨[[c]], [[c]]⟩

/-- Pieces with a position give different texts for different resources. -/
theorem pieces_differ {pieces : List Piece} (h : pieces.all Piece.isOwn ≠ true) {c d : Char}
    (hcd : c ≠ d) :
    pieces.flatMap (Piece.text (sameResources c)) ≠ pieces.flatMap (Piece.text (sameResources d)) := by
  induction pieces with
  | nil => exact absurd rfl h
  | cons piece rest ih =>
      rw [List.flatMap_cons, List.flatMap_cons]
      cases piece with
      | own text =>
          have hrest : rest.all Piece.isOwn ≠ true := by simpa [Piece.isOwn] using h
          exact fun heq => ih hrest (List.append_cancel_left heq)
      | file => exact fun heq => hcd (List.cons.inj heq).1
      | url => exact fun heq => hcd (List.cons.inj heq).1

theorem pieces_nonempty {pieces : List Piece} (h : pieces.all Piece.isOwn ≠ true) (c : Char) :
    pieces.flatMap (Piece.text (sameResources c)) ≠ [] := by
  induction pieces with
  | nil => exact absurd rfl h
  | cons piece rest ih =>
      rw [List.flatMap_cons]
      cases piece with
      | own text =>
          have hrest : rest.all Piece.isOwn ≠ true := by simpa [Piece.isOwn] using h
          exact fun heq => ih hrest (List.append_eq_nil_iff.mp heq).2
      | file => exact fun heq => by cases heq
      | url => exact fun heq => by cases heq

/-- A slot with a position starts with a text that the resources decide. -/
theorem Slot.arguments_differ (h : slot.resourceFree ≠ true) :
    ∃ first : Char → Text, (∀ c, first c ≠ [] ∧ slot.arguments (sameResources c) = [first c]) ∧
      first 'a' ≠ first 'b' := by
  cases slot with
  | files => exact ⟨fun c => [c], fun c => ⟨by simp, rfl⟩, by decide⟩
  | urls => exact ⟨fun c => [c], fun c => ⟨by simp, rfl⟩, by decide⟩
  | own arguments => exact absurd rfl h
  | argument pieces =>
      refine ⟨fun c => pieces.flatMap (Piece.text (sameResources c)), fun c => ?_,
        pieces_differ h (by decide)⟩
      exact ⟨pieces_nonempty h c, if_neg (pieces_nonempty h c)⟩

/-- Where the program is not fixed, two launches run different programs. -/
theorem programs_differ (hfixed : ¬ FixedProgram slots)
    (haccepted : slots.flatMap (Slot.arguments {}) ≠ []) :
    ∃ first : Char → Text, (∀ c, first c ≠ [] ∧
        (slots.flatMap (Slot.arguments (sameResources c))).head? = some (first c)) ∧
      first 'a' ≠ first 'b' := by
  induction slots with
  | nil => exact absurd rfl haccepted
  | cons slot rest ih =>
      by_cases hfree : slot.resourceFree = true
      · have hempty : slot.arguments {} = [] := by
          by_contra hne
          exact hfixed ⟨hfree, Or.inl hne⟩
        have hrest : ¬ FixedProgram rest := fun h => hfixed ⟨hfree, Or.inr h⟩
        rw [List.flatMap_cons, hempty, List.nil_append] at haccepted
        obtain ⟨first, hfirst, hne⟩ := ih hrest haccepted
        refine ⟨first, fun c => ⟨(hfirst c).1, ?_⟩, hne⟩
        rw [List.flatMap_cons, slot.arguments_of_resourceFree hfree, hempty, List.nil_append]
        exact (hfirst c).2
      · obtain ⟨first, hfirst, hne⟩ := Slot.arguments_differ hfree
        refine ⟨first, fun c => ⟨(hfirst c).1, ?_⟩, hne⟩
        rw [List.flatMap_cons, (hfirst c).2]
        rfl

end Fixed

section Launching

variable {tryExec : Text → Bool} {desktops : List Text}

theorem parseEntry_expands {desktopId path input : Text} {entry : DesktopEntry}
    (h : parseEntry tryExec desktops desktopId path input = some entry) :
    execsExpand entry = true := by
  unfold parseEntry at h
  split at h
  · cases h
  · split at h
    · cases h
    · split at h
      · cases h
      · split at h
        · cases h
        · split at h
          · cases h
          · split at h
            · split at h
              · cases h
              · dsimp only at h
                split at h
                · rename_i hexpand
                  cases h
                  exact hexpand
                · cases h
            · cases h

variable {index : DesktopEntryIndex tryExec desktops} {desktopId exec : Text}
  {actionId : Option Text} {entry : DesktopEntry}

/-- What is launched expands without resources. -/
theorem command_expands (h : index.command desktopId actionId = .ok (entry, exec)) :
    ∃ argv, expandExec entry {} exec = .ok argv := by
  unfold DesktopEntryIndex.command at h
  split at h
  · cases h
  · rename_i found hfound
    obtain ⟨path, input, hparse⟩ := index.parsed desktopId found hfound
    have hexpands := parseEntry_expands hparse
    rw [execsExpand, Bool.and_eq_true, List.all_eq_true] at hexpands
    have hargv : ∀ {exec : Text}, succeeds (expandExec found {} exec) = true →
        ∃ argv, expandExec found {} exec = .ok argv := by
      intro exec hsucceeds
      cases hexpand : expandExec found {} exec with
      | error e =>
          rw [hexpand] at hsucceeds
          cases hsucceeds
      | ok argv => exact ⟨argv, rfl⟩
    split at h
    · cases h
      exact hargv hexpands.1
    · split at h
      · cases h
      · rename_i action haction
        cases h
        exact hargv (hexpands.2 action (List.mem_of_find?_eq_some haction))

theorem launchArgv_eq_ok (h : index.command desktopId actionId = .ok (entry, exec))
    {resources : LaunchResources} {argv : List Text} :
    index.launchArgv desktopId actionId resources = .ok argv ↔
      validateResources resources = .ok () ∧ expandExec entry resources exec = .ok argv := by
  unfold DesktopEntryIndex.launchArgv
  cases hvalid : validateResources resources with
  | error e => simp [bind, Except.bind]
  | ok u => simp [bind, Except.bind, h]

/--
The program of a launch: the same for all resources, and made of a slot in which
no resource has a position; every other argument fills a slot behind it.
-/
structure ProgramFixed (index : DesktopEntryIndex tryExec desktops) (desktopId : Text)
    (actionId : Option Text) : Prop where
  same : ∀ resources resources' argv argv',
    index.launchArgv desktopId actionId resources = .ok argv →
    index.launchArgv desktopId actionId resources' = .ok argv' → argv.head? = argv'.head?
  placed : ∀ resources argv, index.launchArgv desktopId actionId resources = .ok argv →
    ∃ entry exec before slot after,
      index.command desktopId actionId = .ok (entry, exec) ∧
      execSlots entry exec = .ok (before ++ slot :: after) ∧
      before.flatMap (Slot.arguments resources) = [] ∧ slot.arguments resources ≠ [] ∧
      slot.resourceFree = true ∧
      argv = slot.arguments resources ++ after.flatMap (Slot.arguments resources)

/-- The program of an indexed entry or action is fixed exactly if no resource comes before it. -/
theorem program_fixed_iff (hcommand : index.command desktopId actionId = .ok (entry, exec)) :
    ProgramFixed index desktopId actionId ↔
      ∃ slots, execSlots entry exec = .ok slots ∧ FixedProgram slots := by
  constructor
  · intro h
    obtain ⟨argv, hargv⟩ := command_expands hcommand
    obtain ⟨slots, hslots, rfl, hhead⟩ := expandExec_eq_ok.mp hargv
    refine ⟨slots, hslots, ?_⟩
    by_contra hfixed
    have haccepted : slots.flatMap (Slot.arguments {}) ≠ [] := by
      intro hempty
      rw [hempty] at hhead
      exact hhead rfl
    obtain ⟨first, hfirst, hne⟩ := programs_differ hfixed haccepted
    have hlaunch : ∀ c, validateResources (sameResources c) = .ok () →
        index.launchArgv desktopId actionId (sameResources c) =
          .ok (slots.flatMap (Slot.arguments (sameResources c))) := by
      intro c hvalid
      refine (launchArgv_eq_ok hcommand).mpr ⟨hvalid, expandExec_eq_ok.mpr
        ⟨slots, hslots, rfl, ?_⟩⟩
      rw [(hfirst c).2]
      exact (hfirst c).1
    have hsame := h.same _ _ _ _ (hlaunch 'a' (by decide)) (hlaunch 'b' (by decide))
    rw [(hfirst 'a').2, (hfirst 'b').2] at hsame
    exact hne (Option.some.inj hsame)
  · rintro ⟨slots, hslots, hfixed⟩
    obtain ⟨before, slot, after, rfl, hbefore, hfree, hslot⟩ := hfixed.split
    have hargv : ∀ resources argv, index.launchArgv desktopId actionId resources = .ok argv →
        argv = slot.arguments {} ++ after.flatMap (Slot.arguments resources) := by
      intro resources argv h
      obtain ⟨_, hslots', rfl, -⟩ := expandExec_eq_ok.mp ((launchArgv_eq_ok hcommand).mp h).2
      rw [hslots] at hslots'
      cases hslots'
      rw [List.flatMap_append, hbefore, List.nil_append, List.flatMap_cons,
        slot.arguments_of_resourceFree hfree]
    refine ⟨fun resources resources' argv argv' h h' => ?_, fun resources argv h => ?_⟩
    · rw [hargv _ _ h, hargv _ _ h', List.head?_append_of_ne_nil _ hslot,
        List.head?_append_of_ne_nil _ hslot]
    · refine ⟨entry, exec, before, slot, after, hcommand, hslots, hbefore resources, ?_, hfree, ?_⟩
      · rw [slot.arguments_of_resourceFree hfree]
        exact hslot
      · rw [slot.arguments_of_resourceFree hfree]
        exact hargv _ _ h

end Launching

section Sample

/-- An index of one file. -/
def indexOf (tryExec : Text → Bool) (desktops : List Text) (desktopId path input : Text) :
    DesktopEntryIndex tryExec desktops where
  entries id := if id = desktopId then parseEntry tryExec desktops desktopId path input else none
  parsed := by
    intro id entry h
    split at h
    · rename_i hid
      subst hid
      exact ⟨path, input, h⟩
    · cases h

/-- An entry with the given command. -/
def entryText (exec : String) : Text :=
  ("[Desktop Entry]\nType=Application\nName=V\nExec=" ++ exec).toList

def sampleIndex (exec : String) : DesktopEntryIndex (fun _ => true) [] :=
  indexOf (fun _ => true) [] ['v'] ['p'] (entryText exec)

theorem sampleIndex_command (exec : String)
    (h : parseEntry (fun _ => true) [] ['v'] ['p'] (entryText exec) =
      some ⟨['v'], ['V'], none, [], ['p'], exec.toList⟩) :
    (sampleIndex exec).command ['v'] none =
      .ok (⟨['v'], ['V'], none, [], ['p'], exec.toList⟩, exec.toList) := by
  have hentry : (sampleIndex exec).entries ['v'] =
      some ⟨['v'], ['V'], none, [], ['p'], exec.toList⟩ := by
    rw [← h]
    simp [sampleIndex, indexOf]
  unfold DesktopEntryIndex.command
  rw [hentry]

/-- A file behind the program does not choose it. -/
theorem program_fixed_behind : ProgramFixed (sampleIndex "v %f") ['v'] none := by
  have hparse : parseEntry (fun _ => true) [] ['v'] ['p'] (entryText "v %f") =
      some ⟨['v'], ['V'], none, [], ['p'], "v %f".toList⟩ := by
    decide
  refine (program_fixed_iff (sampleIndex_command _ hparse)).mpr
    ⟨[.argument [.own ['v']], .argument [.file]], by decide, rfl, Or.inl (by decide)⟩

/-- With the command `%f v` a launch runs the first file. -/
theorem file_chooses_program :
    ¬ ∀ (tryExec : Text → Bool) (desktops : List Text)
      (index : DesktopEntryIndex tryExec desktops) (desktopId : Text) (actionId : Option Text)
      (command : DesktopEntry × Text), index.command desktopId actionId = .ok command →
      ProgramFixed index desktopId actionId := by
  intro h
  have hparse : parseEntry (fun _ => true) [] ['v'] ['p'] (entryText "%f v") =
      some ⟨['v'], ['V'], none, [], ['p'], "%f v".toList⟩ := by
    decide
  have hcommand := sampleIndex_command _ hparse
  have hfile : (sampleIndex "%f v").launchArgv ['v'] none ⟨[['/', 'x']], []⟩ =
      .ok [['/', 'x'], ['v']] :=
    (launchArgv_eq_ok hcommand).mpr ⟨by decide, by decide⟩
  have hnone : (sampleIndex "%f v").launchArgv ['v'] none {} = .ok [['v']] :=
    (launchArgv_eq_ok hcommand).mpr ⟨by decide, by decide⟩
  have hsame := (h _ _ _ _ _ _ hcommand).same _ _ _ _ hfile hnone
  exact absurd hsame (by decide)

end Sample

end Launcher
end SleepySession
