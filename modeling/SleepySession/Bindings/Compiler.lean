import SleepySession.Compositor.Snapshot
import SleepySession.Lib.Kdl
import SleepySession.Store.Documents

/-!
# The compiler of key bindings

A preset becomes the text of a configuration file.  Read as KDL, the text has
one node with one child for each binding: the accelerator, with what the
action stands for below it.
-/

namespace SleepySession
namespace Bindings

open Compositor (isControl)

section Compiler

/-- The SDK's `SemanticAction`. -/
inductive SemanticAction where
  | terminalOpen
  | launcherOpen
  | windowClose
  | windowFocusLeft
  | windowFocusRight
  | windowFocusUp
  | windowFocusDown
  | workspacePrevious
  | workspaceNext
  | controlCenterToggle
  | sessionLock
  | sessionLogout
  | sessionReboot
  | sessionPowerOff
  | sessionPower
  | mediaPlayPause
  | mediaNext
  | mediaPrevious
  | volumeUp
  | volumeDown
  | volumeToggleMute
  | microphoneToggleMute
  | brightnessUp
  | brightnessDown
deriving DecidableEq, Repr

inductive ActionStatement where
  | native (action : String)
  | spawn (arguments : List String)
deriving DecidableEq, Repr

def terminal : List String :=
  ["ghostty"]

def launcher : List String :=
  ["fuzzel"]

/-- A call of the shell, with which the constants of that kind begin. -/
def shellCall (arguments : List String) : List String :=
  ["quickshell", "ipc", "--config", "sleepy", "call", "sleepy"] ++ arguments

def controlCenter : List String :=
  shellCall ["toggleControlCenter"]

def sessionLock : List String :=
  shellCall ["requestSessionAction", "lock"]

def sessionLogout : List String :=
  shellCall ["requestSessionAction", "logout"]

def sessionReboot : List String :=
  shellCall ["requestSessionAction", "reboot"]

def sessionPowerOff : List String :=
  shellCall ["requestSessionAction", "powerOff"]

def openPowerMenu : List String :=
  shellCall ["openPowerMenu"]

def mediaPlayPause : List String :=
  ["playerctl", "play-pause"]

def mediaNext : List String :=
  ["playerctl", "next"]

def mediaPrevious : List String :=
  ["playerctl", "previous"]

def volumeUp : List String :=
  ["wpctl", "set-volume", "@DEFAULT_AUDIO_SINK@", "5%+"]

def volumeDown : List String :=
  ["wpctl", "set-volume", "@DEFAULT_AUDIO_SINK@", "5%-"]

def volumeMute : List String :=
  ["wpctl", "set-mute", "@DEFAULT_AUDIO_SINK@", "toggle"]

def microphoneMute : List String :=
  ["wpctl", "set-mute", "@DEFAULT_AUDIO_SOURCE@", "toggle"]

def brightnessUp : List String :=
  ["brightnessctl", "set", "5%+"]

def brightnessDown : List String :=
  ["brightnessctl", "set", "5%-"]

def statement : SemanticAction → ActionStatement
  | .terminalOpen => .spawn terminal
  | .launcherOpen => .spawn launcher
  | .windowClose => .native "close-window"
  | .windowFocusLeft => .native "focus-column-left"
  | .windowFocusRight => .native "focus-column-right"
  | .windowFocusUp => .native "focus-window-up"
  | .windowFocusDown => .native "focus-window-down"
  | .workspacePrevious => .native "focus-workspace-up"
  | .workspaceNext => .native "focus-workspace-down"
  | .controlCenterToggle => .spawn controlCenter
  | .sessionLock => .spawn sessionLock
  | .sessionLogout => .spawn sessionLogout
  | .sessionReboot => .spawn sessionReboot
  | .sessionPowerOff => .spawn sessionPowerOff
  | .sessionPower => .spawn openPowerMenu
  | .mediaPlayPause => .spawn mediaPlayPause
  | .mediaNext => .spawn mediaNext
  | .mediaPrevious => .spawn mediaPrevious
  | .volumeUp => .spawn volumeUp
  | .volumeDown => .spawn volumeDown
  | .volumeToggleMute => .spawn volumeMute
  | .microphoneToggleMute => .spawn microphoneMute
  | .brightnessUp => .spawn brightnessUp
  | .brightnessDown => .spawn brightnessDown

/-- The SDK's `KeybindingConflict`. -/
structure KeybindingConflict where
  kind : String
  accelerator : String
  actions : List String
deriving DecidableEq, Repr

/-- What the compiler calls in the SDK. -/
structure KeybindingSdk where
  /-- `SemanticAction::try_from`. -/
  semanticAction : String → Option SemanticAction
  /-- `validate_keybindings_with_reserved` with the packaged reserved keybindings. -/
  validateKeybindings : List (String × String) → Except KeybindingConflict Unit
  /-- A conflict as it is shown. -/
  conflictText : KeybindingConflict → String

structure BindingError where
  code : String
  message : String
  details : Option KeybindingConflict
deriving DecidableEq, Repr

def BindingError.new (code message : String) : BindingError :=
  ⟨code, message, none⟩

def BindingError.keybindingConflict (sdk : KeybindingSdk) (conflict : KeybindingConflict) :
    BindingError :=
  ⟨"keybinding_conflict", sdk.conflictText conflict, some conflict⟩

/-- One character of `write_kdl_string`. -/
def writeKdlCharacter (c : Char) : List Char :=
  if c = '"' then ['\\', '"']
  else if c = '\\' then ['\\', '\\']
  else if c = '\n' then ['\\', 'n']
  else if c = '\r' then ['\\', 'r']
  else if c = '\t' then ['\\', 't']
  else if isControl c then ['\\', 'u', '{'] ++ Nat.toDigits 16 c.toNat ++ ['}']
  else [c]

def writeKdlString (value : String) : String :=
  "\"" ++ String.ofList (value.toList.flatMap writeKdlCharacter) ++ "\""

def renderStatement : ActionStatement → String
  | .native action => action ++ ";"
  | .spawn arguments =>
      arguments.foldl (fun output argument => output ++ (" " ++ writeKdlString argument)) "spawn" ++
        ";"

/-- The line of a binding. -/
def renderBinding (binding : (String × String) × SemanticAction) : String :=
  "    " ++ binding.1.2 ++ " \x7b " ++ renderStatement (statement binding.2) ++ " \x7d\n"

/-- The action of an identifier, or the error that names it. -/
def knownAction (sdk : KeybindingSdk) (identifier : String) : Except BindingError SemanticAction :=
  match sdk.semanticAction identifier with
  | some action => .ok action
  | none => .error (.new "unknown_semantic_action" ("unknown semantic action " ++ identifier))

def compileBindings (sdk : KeybindingSdk) (preset : PresetDocument) :
    Except BindingError String := do
  let actions ← preset.keybindings.mapM fun binding => knownAction sdk binding.1
  match sdk.validateKeybindings preset.keybindings with
  | .error conflict => .error (.keybindingConflict sdk conflict)
  | .ok () =>
      .ok ((preset.keybindings.zip actions).foldl
        (fun output binding => output ++ renderBinding binding) "binds \x7b\n" ++ "\x7d\n")

end Compiler

section Meaning

/-- The accelerators that the SDK accepts are modifiers and a key, joined by plus signs. -/
def KeybindingSdk.BareAccelerators (sdk : KeybindingSdk) : Prop :=
  ∀ keybindings, sdk.validateKeybindings keybindings = .ok () →
    ∀ binding ∈ keybindings, Kdl.IsWord binding.2.toList

/-- What an action stands for. -/
def ActionStatement.node : ActionStatement → Kdl.Node
  | .native action => .mk action.toList [] []
  | .spawn arguments => .mk "spawn".toList (arguments.map String.toList) []

/-- What a binding stands for. -/
def bindingNode (binding : (String × String) × SemanticAction) : Kdl.Node :=
  .mk binding.1.2.toList [] [(statement binding.2).node]

open Kdl Checks

theorem toList_foldl {α : Type} (f : α → String) (items : List α) (start : String) :
    (items.foldl (fun output item => output ++ f item) start).toList =
      start.toList ++ items.flatMap fun item => (f item).toList := by
  induction items generalizing start with
  | nil => simp
  | cons item items ih => simp [ih]

theorem encodes_writeKdlCharacter (c : Char) : Encodes (writeKdlCharacter c) c := by
  unfold writeKdlCharacter
  split_ifs with hquote hbackslash hnewline hreturn htab
  · subst hquote
    exact encodes_letter (by decide) (by decide)
  · subst hbackslash
    exact encodes_letter (by decide) (by decide)
  · subst hnewline
    exact encodes_letter (by decide) (by decide)
  · subst hreturn
    exact encodes_letter (by decide) (by decide)
  · subst htab
    exact encodes_letter (by decide) (by decide)
  · exact encodes_hexEscape c
  · exact encodes_self hquote hbackslash

/-- A written string is read as what was written. -/
theorem scan_writeKdlString (value : String) :
    scan .plain (writeKdlString value).toList = some ([.text value.toList], .closed) := by
  have htext : (writeKdlString value).toList =
      '"' :: value.toList.flatMap writeKdlCharacter ++ ['"'] := by
    simp [writeKdlString]
  rw [htext]
  exact scan_string encodes_writeKdlCharacter _

/-- The arguments that follow one. -/
theorem scan_arguments (arguments : List String) :
    scan .closed
        ((arguments.flatMap fun argument => (" " ++ writeKdlString argument).toList) ++ [';']) =
      some (arguments.map (fun argument => .text argument.toList) ++ [.terminator], .plain) := by
  induction arguments with
  | nil => decide
  | cons argument arguments ih =>
      have hspace : scan .closed [' '] = some ([], .plain) := by decide
      have hfirst := scan_append (scan_append hspace (scan_writeKdlString argument)) ih
      simpa using hfirst

/-- The tokens of a statement. -/
def statementTokens : ActionStatement → List Token
  | .native action => [.word action.toList, .terminator]
  | .spawn arguments =>
      .word "spawn".toList ::
        (arguments.map (fun argument => .text argument.toList) ++ [.terminator])

/-- The native actions are bare identifiers. -/
def ActionStatement.Bare : ActionStatement → Prop
  | .native action => IsWord action.toList
  | .spawn _ => True

instance : DecidablePred ActionStatement.Bare
  | .native action => inferInstanceAs (Decidable (IsWord action.toList))
  | .spawn _ => isTrue trivial

theorem statement_bare (action : SemanticAction) : (statement action).Bare := by
  cases action <;> decide

theorem scanPlain_space : scanPlain ' ' = some ([], .plain) := by
  decide

theorem scan_renderStatement {s : ActionStatement} (h : s.Bare) :
    scan .plain (renderStatement s).toList = some (statementTokens s, .plain) := by
  cases s with
  | native action =>
      have htext : (renderStatement (.native action)).toList = action.toList ++ [';'] := by
        simp [renderStatement]
      rw [htext]
      exact scan_word h (by decide) (by decide) (by decide)
  | spawn arguments =>
      have hspawn : IsWord "spawn".toList := by decide
      have htext : (renderStatement (.spawn arguments)).toList = "spawn".toList ++
          ((arguments.flatMap fun argument => (" " ++ writeKdlString argument).toList) ++
            [';']) := by
        simp only [renderStatement, String.toList_append, toList_foldl, List.append_assoc]
        rfl
      rw [htext]
      cases arguments with
      | nil => exact scan_word hspawn (by decide) (by decide) (by decide)
      | cons argument arguments =>
          have hfirst := scan_append
            (scan_word hspawn (by decide) (by decide) scanPlain_space)
            (scan_append (scan_writeKdlString argument) (scan_arguments arguments))
          simpa [statementTokens] using hfirst

/-- The tokens of a binding. -/
def bindingTokens (binding : (String × String) × SemanticAction) : List Token :=
  [.word binding.1.2.toList, .opening] ++ statementTokens (statement binding.2) ++
    [.closing, .terminator]

theorem scan_renderBinding {binding : (String × String) × SemanticAction}
    (h : IsWord binding.1.2.toList) :
    scan .plain (renderBinding binding).toList = some (bindingTokens binding, .plain) := by
  have htext : (renderBinding binding).toList =
      [' ', ' ', ' ', ' '] ++ (binding.1.2.toList ++ [' ']) ++ ['{', ' '] ++
        (renderStatement (statement binding.2)).toList ++ [' ', '}', '\n'] := by
    simp [renderBinding]
  have hindent : scan .plain [' ', ' ', ' ', ' '] = some ([], .plain) := by decide
  have hopen : scan .plain ['{', ' '] = some ([.opening], .plain) := by decide
  have hclose : scan .plain [' ', '}', '\n'] = some ([.closing, .terminator], .plain) := by decide
  have haccelerator := scan_word h (by decide) (by decide) scanPlain_space
  rw [htext]
  exact scan_append (scan_append (scan_append (scan_append hindent haccelerator) hopen)
    (scan_renderStatement (statement_bare binding.2))) hclose

/-- The tokens of a statement are its node. -/
theorem takeAll_statementTokens (s : ActionStatement) (outer : List Block) :
    takeAll (⟨[], none⟩ :: outer) (statementTokens s) = some (⟨[s.node], none⟩ :: outer) := by
  cases s with
  | native action => rfl
  | spawn arguments =>
      have hname : takeAll (⟨[], none⟩ :: outer) [.word "spawn".toList] =
          some (⟨[], some ("spawn".toList, [])⟩ :: outer) := rfl
      have harguments : takeAll (⟨[], some ("spawn".toList, [])⟩ :: outer)
          ((arguments.map String.toList).map .text) =
            some (⟨[], some ("spawn".toList, [] ++ arguments.map String.toList)⟩ :: outer) :=
        takeAll_arguments _ _
      have hend : takeAll (⟨[], some ("spawn".toList, [] ++ arguments.map String.toList)⟩ :: outer)
          [.terminator] = some (⟨[(ActionStatement.spawn arguments).node], none⟩ :: outer) := rfl
      rw [List.map_map] at harguments
      have hall := takeAll_append hname (takeAll_append harguments hend)
      exact hall

theorem takeAll_bindingTokens (binding : (String × String) × SemanticAction) (nodes : List Node)
    (outer : List Block) :
    takeAll (⟨nodes, none⟩ :: outer) (bindingTokens binding) =
      some (⟨nodes ++ [bindingNode binding], none⟩ :: outer) := by
  have hopen : takeAll (⟨nodes, none⟩ :: outer) [.word binding.1.2.toList, .opening] =
      some (⟨[], none⟩ :: ⟨nodes, some (binding.1.2.toList, [])⟩ :: outer) := rfl
  have hclose : takeAll
      (⟨[(statement binding.2).node], none⟩ :: ⟨nodes, some (binding.1.2.toList, [])⟩ :: outer)
      [.closing, .terminator] = some (⟨nodes ++ [bindingNode binding], none⟩ :: outer) := rfl
  exact takeAll_append (takeAll_append hopen (takeAll_statementTokens _ _)) hclose

/-- The lines of the bindings, one after the other. -/
theorem read_renderBindings (bindings : List ((String × String) × SemanticAction))
    (h : ∀ binding ∈ bindings, IsWord binding.1.2.toList) (nodes : List Node)
    (outer : List Block) :
    ∃ tokens, scan .plain (bindings.flatMap fun binding => (renderBinding binding).toList) =
        some (tokens, .plain) ∧
      takeAll (⟨nodes, none⟩ :: outer) tokens =
        some (⟨nodes ++ bindings.map bindingNode, none⟩ :: outer) := by
  induction bindings generalizing nodes with
  | nil => exact ⟨[], rfl, by simp [takeAll]⟩
  | cons binding bindings ih =>
      obtain ⟨hfirst, hrest⟩ := List.forall_mem_cons.mp h
      obtain ⟨tokens, hscan, htake⟩ := ih hrest (nodes ++ [bindingNode binding])
      refine ⟨bindingTokens binding ++ tokens, scan_append (scan_renderBinding hfirst) hscan, ?_⟩
      rw [List.append_assoc] at htake
      exact takeAll_append (takeAll_bindingTokens binding nodes outer) htake

theorem knownAction_eq_ok {sdk : KeybindingSdk} {identifier : String} {action : SemanticAction}
    (h : knownAction sdk identifier = .ok action) :
    sdk.semanticAction identifier = some action := by
  unfold knownAction at h
  cases hknown : sdk.semanticAction identifier with
  | none =>
      rw [hknown] at h
      cases h
  | some known =>
      rw [hknown] at h
      exact congrArg some (Except.ok.inj h)

/-- The actions of a list of bindings, if all are known. -/
theorem mapM_knownAction_eq_ok {sdk : KeybindingSdk} {keybindings : List (String × String)}
    {actions : List SemanticAction}
    (h : (keybindings.mapM fun binding => knownAction sdk binding.1) = .ok actions) :
    keybindings.map (fun binding => sdk.semanticAction binding.1) = actions.map some :=
  (mapM_keys (fun _ _ hknown => (knownAction_eq_ok hknown).symm) keybindings actions h).symm

/-- The node that the compiler writes for a preset. -/
theorem readNodes_compileBindings {sdk : KeybindingSdk} {preset : PresetDocument} {text : String}
    (hsdk : sdk.BareAccelerators) (h : compileBindings sdk preset = .ok text) :
    ∃ actions,
      preset.keybindings.map (fun binding => sdk.semanticAction binding.1) = actions.map some ∧
        readNodes text.toList =
          some [.mk "binds".toList [] ((preset.keybindings.zip actions).map bindingNode)] := by
  obtain ⟨actions, hactions, h⟩ := bind_eq_ok_iff.mp h
  refine ⟨actions, mapM_knownAction_eq_ok hactions, ?_⟩
  cases hvalid : sdk.validateKeybindings preset.keybindings with
  | error conflict =>
      rw [hvalid] at h
      cases h
  | ok valid =>
      rw [hvalid] at h
      obtain rfl := Except.ok.inj h
      have hwords : ∀ binding ∈ preset.keybindings.zip actions, IsWord binding.1.2.toList :=
        fun binding hbinding => hsdk _ hvalid _ (List.of_mem_zip hbinding).1
      generalize preset.keybindings.zip actions = bindings at hwords ⊢
      obtain ⟨tokens, hscan, htake⟩ := read_renderBindings bindings hwords []
        [⟨[], some ("binds".toList, [])⟩]
      have htext : (bindings.foldl (fun output binding => output ++ renderBinding binding)
          "binds \x7b\n" ++ "\x7d\n").toList =
            ("binds".toList ++ [' ']) ++ ['{', '\n'] ++
              (bindings.flatMap fun binding => (renderBinding binding).toList) ++ ['}', '\n'] := by
        simp only [String.toList_append, toList_foldl]
        rfl
      have hname : scan .plain ("binds".toList ++ [' ']) = some ([.word "binds".toList], .plain) :=
        scan_word (by decide) (by decide) (by decide) scanPlain_space
      have hopen : scan .plain ['{', '\n'] = some ([.opening, .terminator], .plain) := by decide
      have hclose : scan .plain ['}', '\n'] = some ([.closing, .terminator], .plain) := by decide
      have hbegin : takeAll [⟨[], none⟩] ([.word "binds".toList] ++ [.opening, .terminator]) =
          some [⟨[], none⟩, ⟨[], some ("binds".toList, [])⟩] := rfl
      have hend : takeAll [⟨[] ++ bindings.map bindingNode, none⟩, ⟨[], some ("binds".toList, [])⟩]
          [.closing, .terminator] =
            some [⟨[.mk "binds".toList [] (bindings.map bindingNode)], none⟩] := rfl
      rw [htext]
      exact readNodes_eq (scan_append (scan_append (scan_append hname hopen) hscan) hclose)
        (takeAll_append (takeAll_append hbegin htake) hend)

/-- Read as KDL, what the compiler writes is one node with the bindings of the preset, each
with what its action stands for; and any string that it writes is read as what it was. -/
theorem compiled_bindings_read_back {sdk : KeybindingSdk} {preset : PresetDocument} {text : String}
    (hsdk : sdk.BareAccelerators) (h : compileBindings sdk preset = .ok text) :
    (∃ actions,
      preset.keybindings.map (fun binding => sdk.semanticAction binding.1) = actions.map some ∧
        readNodes text.toList =
          some [.mk "binds".toList [] ((preset.keybindings.zip actions).map bindingNode)]) ∧
      ∀ value : String,
        scan .plain (writeKdlString value).toList = some ([.text value.toList], .closed) :=
  ⟨readNodes_compileBindings hsdk h, scan_writeKdlString⟩

end Meaning

section Sample

/-- An SDK that knows three actions. -/
def sampleKeybindingSdk : KeybindingSdk where
  semanticAction
    | "app.terminal.open" => some .terminalOpen
    | "audio.volume.up" => some .volumeUp
    | "window.close" => some .windowClose
    | _ => none
  validateKeybindings keybindings :=
    if ∀ binding ∈ keybindings, Kdl.IsWord binding.2.toList then .ok ()
    else .error ⟨"duplicate", "", []⟩
  conflictText conflict := conflict.kind

def samplePreset : PresetDocument where
  id := builtinPresetId
  name := "Sleepy"
  origin := .builtin
  basePresetId := none
  keybindings := [("app.terminal.open", "Mod+Return"), ("audio.volume.up", "XF86AudioRaiseVolume"),
    ("window.close", "Mod+Q")]
  content := ""

theorem sampleKeybindingSdk_bareAccelerators : sampleKeybindingSdk.BareAccelerators := by
  intro keybindings h
  simp only [sampleKeybindingSdk] at h
  split at h
  · assumption
  · cases h

theorem compiled_bindings_read_back_sample :
    compileBindings sampleKeybindingSdk samplePreset = .ok
        ("binds \x7b\n    Mod+Return \x7b spawn \"ghostty\"; \x7d\n" ++
          "    XF86AudioRaiseVolume \x7b spawn \"wpctl\" \"set-volume\" " ++
          "\"@DEFAULT_AUDIO_SINK@\" \"5%+\"; \x7d\n    Mod+Q \x7b close-window; \x7d\n\x7d\n") ∧
      ∃ text actions, compileBindings sampleKeybindingSdk samplePreset = .ok text ∧
        Kdl.readNodes text.toList = some [.mk "binds".toList []
          ((samplePreset.keybindings.zip actions).map bindingNode)] := by
  have h : compileBindings sampleKeybindingSdk samplePreset = .ok
      ("binds \x7b\n    Mod+Return \x7b spawn \"ghostty\"; \x7d\n" ++
        "    XF86AudioRaiseVolume \x7b spawn \"wpctl\" \"set-volume\" " ++
        "\"@DEFAULT_AUDIO_SINK@\" \"5%+\"; \x7d\n    Mod+Q \x7b close-window; \x7d\n\x7d\n") := by
    decide +kernel
  obtain ⟨⟨actions, -, hread⟩, -⟩ :=
    compiled_bindings_read_back sampleKeybindingSdk_bareAccelerators h
  exact ⟨h, _, actions, h, hread⟩

end Sample

end Bindings
end SleepySession
