import SleepySession.Desktop.RecordingRequest
import SleepySession.Lib.Checks

/-!
# Daemon and recording helper

The helper reads its words as option groups, each with the value it takes.  What
it accepts does not depend on the order of the groups, and what the daemon
builds is such a list; but the helper refuses an output whose name looks like an
option, and the daemon does not.
-/

namespace SleepySession
namespace Utilities

open Checks (Along along_and along_const along_fresh)

variable {ρ : Type} {sdk : RegionSdk ρ}

section Groups

/-- An option with its value. -/
inductive OptionGroup where
  | consent
  | audio
  | outputId (name : Text)
  | outputPath (path : Text)
  | region (text : Text)
  | statusFd
deriving DecidableEq

namespace OptionGroup

def name : OptionGroup → Text
  | consent => consentOption
  | audio => audioOption
  | outputId _ => outputIdOption
  | outputPath _ => outputPathOption
  | region _ => regionOption
  | statusFd => statusFdOption

def words (g : OptionGroup) : List Text :=
  match g with
  | consent | audio => [g.name]
  | outputId value | outputPath value | region value => [g.name, value]
  | statusFd => [g.name, "1".toList]

/-- The helper can decode the value. -/
def Decodes (sdk : RegionSdk ρ) : OptionGroup → Prop
  | region text => (sdk.fromText text).isSome = true
  | _ => True

/-- What the group sets. -/
def set (sdk : RegionSdk ρ) (s : Parsing ρ) (g : OptionGroup) : Parsing ρ :=
  match g with
  | consent => { s with consent := true }
  | audio => { s with result.audio := true }
  | outputId value => { s with result.output := value }
  | outputPath value => { s with result.path := value }
  | region text => { s with result.region := sdk.fromText text }
  | statusFd => { s with status := true }

/-- The variables after the group. -/
def add (sdk : RegionSdk ρ) (s : Parsing ρ) (g : OptionGroup) : Parsing ρ :=
  { g.set sdk s with seen := g.name :: s.seen }

/-- The condition under which the loop goes on behind the group. -/
def Accepted (sdk : RegionSdk ρ) (s : Parsing ρ) (g : OptionGroup) : Prop :=
  g.name ∉ s.seen ∧ g.Decodes sdk

end OptionGroup

variable {s s' : Parsing ρ} {g : OptionGroup} {words : List Text}

theorem parseOptions_value {option value : Text} (hnew : option ∉ s.seen)
    (hoption : option ∈ valueOptions) :
    parseOptions sdk s (option :: value :: words) =
      match setValue sdk { s with seen := option :: s.seen } option value with
      | .error e => .error e
      | .ok s => parseOptions sdk s words := by
  have hflags : ∀ option ∈ valueOptions, option ≠ consentOption ∧ option ≠ audioOption := by
    decide
  have hflags := hflags option hoption
  rw [parseOptions, if_neg hnew]
  simp only [hflags.1, hflags.2, if_false]
  exact (if_pos hoption).trans rfl

theorem parseOptions_group (h : g.Accepted sdk s) :
    parseOptions sdk s (g.words ++ words) = parseOptions sdk (g.add sdk s) words := by
  obtain ⟨hnew, hdecodes⟩ := h
  cases g with
  | consent | audio =>
      change parseOptions sdk s (_ :: words) = _
      rw [parseOptions, if_neg hnew]
      rfl
  | outputId value | outputPath value | statusFd =>
      exact parseOptions_value hnew (by simp [OptionGroup.name, valueOptions])
  | region text =>
      obtain ⟨region, hregion⟩ := Option.isSome_iff_exists.mp hdecodes
      have hset : setValue sdk { s with seen := regionOption :: s.seen } regionOption text =
          .ok ((OptionGroup.region text).add sdk s) := by
        unfold setValue
        rw [if_neg (by decide), if_neg (by decide), if_neg fun h => absurd h.1 (by decide),
          if_pos rfl, hregion, OptionGroup.add, OptionGroup.set, hregion]
        rfl
      refine (parseOptions_value (show regionOption ∉ s.seen from hnew)
        (by simp [valueOptions])).trans ?_
      rw [hset]
      rfl

/-- A value that is taken is that of a group. -/
theorem exists_group_of_setValue {option value : Text}
    (h : setValue sdk { s with seen := option :: s.seen } option value = .ok s') :
    ∃ g : OptionGroup, g.words = [option, value] ∧ g.Decodes sdk ∧ s' = g.add sdk s := by
  unfold setValue at h
  split at h
  · next hoption =>
      cases h
      exact ⟨.outputId value, by rw [hoption]; rfl, trivial, by rw [hoption]; rfl⟩
  split at h
  · next hoption =>
      cases h
      exact ⟨.outputPath value, by rw [hoption]; rfl, trivial, by rw [hoption]; rfl⟩
  split at h
  · next hoption =>
      cases h
      exact ⟨.statusFd, by rw [hoption.1, hoption.2]; rfl, trivial, by rw [hoption.1]; rfl⟩
  split at h
  · next hoption =>
      split at h
      · cases h
      · next region hregion =>
          cases h
          refine ⟨.region value, by rw [hoption]; rfl, ?_, ?_⟩
          · exact Option.isSome_iff_exists.mpr ⟨region, hregion⟩
          · rw [hoption, OptionGroup.add, OptionGroup.set, hregion]
            rfl
  · cases h

/-- Words that the loop reads to their end are option groups. -/
theorem exists_groups_of_parseOptions (h : parseOptions sdk s words = .ok s') :
    ∃ groups : List OptionGroup, words = groups.flatMap OptionGroup.words ∧
      Along (OptionGroup.Accepted sdk) (fun s g => g.add sdk s) s groups := by
  fun_induction parseOptions sdk s words with
  | case1 s => exact ⟨[], rfl, trivial⟩
  | case2 => cases h
  | case3 s words hnew next ih =>
      obtain ⟨groups, rfl, halong⟩ := ih h
      exact ⟨.consent :: groups, rfl, ⟨hnew, trivial⟩, halong⟩
  | case4 s words hnew next _ ih =>
      obtain ⟨groups, rfl, halong⟩ := ih h
      exact ⟨.audio :: groups, rfl, ⟨hnew, trivial⟩, halong⟩
  | case5 => cases h
  | case6 => cases h
  | case7 s option hnew next _ _ _ value words behind hset ih =>
      obtain ⟨g, hwords, hdecodes, rfl⟩ := exists_group_of_setValue hset
      obtain ⟨groups, rfl, halong⟩ := ih h
      refine ⟨g :: groups, by rw [List.flatMap_cons, hwords]; rfl, ⟨?_, hdecodes⟩, halong⟩
      have hname : g.name = option := by
        cases g <;> exact (List.cons.inj hwords).1
      rwa [hname]
  | case8 => cases h

theorem parseOptions_groups {groups : List OptionGroup}
    (h : Along (OptionGroup.Accepted sdk) (fun s g => g.add sdk s) s groups) :
    parseOptions sdk s (groups.flatMap OptionGroup.words) =
      .ok (groups.foldl (fun s g => g.add sdk s) s) := by
  induction groups generalizing s with
  | nil => rfl
  | cons g groups ih =>
      obtain ⟨hg, hgroups⟩ := h
      rw [List.flatMap_cons, parseOptions_group hg, ih hgroups, List.foldl_cons]

/-- The loop reads exactly the lists of option groups without repeated options. -/
theorem accepted_groups_iff {groups : List OptionGroup} :
    Along (OptionGroup.Accepted sdk) (fun s g => g.add sdk s) Parsing.new groups ↔
      (groups.map OptionGroup.name).Nodup ∧ ∀ g ∈ groups, g.Decodes sdk := by
  unfold OptionGroup.Accepted
  rw [along_and, along_const, along_fresh Parsing.seen OptionGroup.name fun _ _ => rfl]
  simp [Parsing.new]

end Groups

section Order

variable {groups groups' : List OptionGroup} {s : Parsing ρ} {r : Recording ρ}

/-- What the groups set, without the record of the options that were seen. -/
def setAll (sdk : RegionSdk ρ) (groups : List OptionGroup) (s : Parsing ρ) : Parsing ρ :=
  groups.foldl (fun s g => g.set sdk s) s

theorem set_seen (seen : List Text) (g : OptionGroup) :
    g.set sdk { s with seen := seen } = { g.set sdk s with seen := seen } := by
  cases g <;> rfl

theorem setAll_seen (seen : List Text) :
    setAll sdk groups { s with seen := seen } = { setAll sdk groups s with seen := seen } := by
  induction groups generalizing s with
  | nil => rfl
  | cons g groups ih =>
      unfold setAll at ih ⊢
      rw [List.foldl_cons, set_seen, ih, List.foldl_cons]

theorem foldl_add :
    ∃ seen, groups.foldl (fun s g => g.add sdk s) s = { setAll sdk groups s with seen := seen } := by
  induction groups generalizing s with
  | nil => exact ⟨s.seen, rfl⟩
  | cons g groups ih =>
      obtain ⟨seen, hseen⟩ := @ih (g.add sdk s)
      rw [OptionGroup.add, setAll_seen] at hseen
      exact ⟨seen, hseen⟩

/-- Groups of different options set different fields. -/
theorem set_comm {g g' : OptionGroup} (h : g.name ≠ g'.name) :
    g'.set sdk (g.set sdk s) = g.set sdk (g'.set sdk s) := by
  cases g <;> cases g' <;> first
    | rfl
    | exact absurd rfl h

theorem setAll_perm (hperm : groups'.Perm groups) (hnodup : (groups.map OptionGroup.name).Nodup) :
    setAll sdk groups' s = setAll sdk groups s := by
  refine hperm.foldl_eq' ?_ s
  intro g hg g' hg' s
  by_cases hsame : g = g'
  · rw [hsame]
  · refine set_comm fun hname => hsame ?_
    exact List.inj_on_of_nodup_map hnodup (hperm.mem_iff.mp hg) (hperm.mem_iff.mp hg') hname

theorem parse_groups
    (h : (groups.map OptionGroup.name).Nodup ∧ ∀ g ∈ groups, g.Decodes sdk) :
    parse sdk ("record".toList :: groups.flatMap OptionGroup.words) =
      if complete sdk (setAll sdk groups .new) = true then .ok (setAll sdk groups .new).result
      else invalidRequest := by
  obtain ⟨seen, hfold⟩ := @foldl_add ρ sdk groups .new
  rw [parse, if_neg (not_not.mpr rfl), parseOptions_groups (accepted_groups_iff.mpr h), hfold]
  rfl

theorem exists_groups_of_parse {args : List Text} (h : parse sdk args = .ok r) :
    ∃ groups : List OptionGroup,
      args = "record".toList :: groups.flatMap OptionGroup.words ∧
      ((groups.map OptionGroup.name).Nodup ∧ ∀ g ∈ groups, g.Decodes sdk) ∧
      complete sdk (setAll sdk groups .new) = true ∧ r = (setAll sdk groups .new).result := by
  cases args with
  | nil => cases h
  | cons first words =>
      rw [parse] at h
      split at h
      · cases h
      next hfirst =>
      cases hwords : parseOptions sdk Parsing.new words with
      | error e =>
          rw [hwords] at h
          cases h
      | ok s =>
          obtain ⟨groups, rfl, halong⟩ := exists_groups_of_parseOptions hwords
          have haccepted := accepted_groups_iff.mp halong
          have hparse := parse_groups haccepted
          rw [parse, if_neg (not_not.mpr rfl)] at hparse
          rw [hparse] at h
          split at h
          · next hcomplete =>
              cases h
              exact ⟨groups, by rw [not_not.mp hfirst], haccepted, hcomplete, rfl⟩
          · cases h

end Order

section Contents

variable {groups : List OptionGroup} {s : Parsing ρ}

/-- A flag that only one group sets. -/
theorem setAll_flag {flag : Parsing ρ → Bool} {group : OptionGroup}
    (hset : ∀ g s, flag (g.set sdk s) = true ↔ flag s = true ∨ group = g) :
    flag (setAll sdk groups s) = true ↔ flag s = true ∨ group ∈ groups := by
  induction groups generalizing s with
  | nil => simp [setAll]
  | cons g groups ih =>
      have hnext := @ih (g.set sdk s)
      unfold setAll at hnext ⊢
      rw [List.foldl_cons, hnext, List.mem_cons, hset, or_assoc]

/-- A value comes from the groups that set it, if there is one. -/
theorem setAll_value {value : Parsing ρ → Text} {group : Text → OptionGroup}
    (hset : ∀ g s, value (g.set sdk s) = value s ∨ group (value (g.set sdk s)) = g) :
    value (setAll sdk groups s) = value s ∨ group (value (setAll sdk groups s)) ∈ groups := by
  induction groups generalizing s with
  | nil => exact Or.inl rfl
  | cons g groups ih =>
      have hnext := @ih (g.set sdk s)
      unfold setAll at hnext ⊢
      rw [List.foldl_cons]
      rcases hnext with hsame | hmem
      · rw [hsame]
        refine (hset g s).imp_right fun hgroup => ?_
        rw [hgroup]
        exact List.mem_cons_self
      · exact Or.inr (List.mem_cons_of_mem _ hmem)

theorem setAll_consent :
    (setAll sdk groups s).consent = true ↔ s.consent = true ∨ .consent ∈ groups := by
  refine @setAll_flag _ _ groups s Parsing.consent .consent fun g s => ?_
  cases g <;> simp [OptionGroup.set]

theorem setAll_status :
    (setAll sdk groups s).status = true ↔ s.status = true ∨ .statusFd ∈ groups := by
  refine @setAll_flag _ _ groups s Parsing.status .statusFd fun g s => ?_
  cases g <;> simp [OptionGroup.set]

theorem setAll_output :
    (setAll sdk groups s).result.output = s.result.output ∨
      .outputId (setAll sdk groups s).result.output ∈ groups := by
  refine @setAll_value _ _ groups s (fun s => s.result.output) .outputId fun g s => ?_
  cases g <;> simp [OptionGroup.set]

theorem setAll_path :
    (setAll sdk groups s).result.path = s.result.path ∨
      .outputPath (setAll sdk groups s).result.path ∈ groups := by
  refine @setAll_value _ _ groups s (fun s => s.result.path) .outputPath fun g s => ?_
  cases g <;> simp [OptionGroup.set]

/-- A complete request has what it needs. -/
theorem contents_of_complete (h : complete sdk (setAll sdk groups .new) = true) :
    .consent ∈ groups ∧ .statusFd ∈ groups ∧
      .outputId (setAll sdk groups .new).result.output ∈ groups ∧
      .outputPath (setAll sdk groups .new).result.path ∈ groups := by
  simp only [complete, Bool.and_eq_true, Bool.not_eq_true', List.isEmpty_eq_false_iff,
    decide_eq_true_eq] at h
  obtain ⟨⟨⟨⟨⟨⟨⟨⟨hconsent, hstatus⟩, houtput⟩, -⟩, -⟩, -⟩, hpath⟩, -⟩, -⟩ := h
  refine ⟨?_, ?_, ?_, ?_⟩
  · exact (setAll_consent.mp hconsent).resolve_left nofun
  · exact (setAll_status.mp hstatus).resolve_left nofun
  · exact setAll_output.resolve_left fun hsame => houtput hsame
  · refine setAll_path.resolve_left fun hsame => ?_
    rw [hsame] at hpath
    cases hpath

end Contents

section Agreement

/-- The groups of the words that the daemon builds. -/
def requestGroups (name : Text) (regionText : Option Text) (path : Text) (audio : Bool) :
    List OptionGroup :=
  [.consent, .outputId name] ++ (regionText.map OptionGroup.region).toList ++
    [.outputPath path] ++ (if audio then [.audio] else []) ++ [.statusFd]

theorem requestGroups_nodup (name : Text) (regionText : Option Text) (path : Text) (audio : Bool) :
    ((requestGroups name regionText path audio).map OptionGroup.name).Nodup := by
  have h : ∀ (hasRegion audio : Bool),
      ([consentOption, outputIdOption] ++ (if hasRegion then [regionOption] else []) ++
        [outputPathOption] ++ (if audio then [audioOption] else []) ++ [statusFdOption]).Nodup := by
    decide
  cases regionText <;> cases audio
  · exact h false false
  · exact h false true
  · exact h true false
  · exact h true true

theorem setAll_requestGroups (name : Text) (regionText : Option Text) (path : Text)
    (audio : Bool) :
    ∃ seen, setAll sdk (requestGroups name regionText path audio) .new =
      ⟨⟨name, path, regionText.bind sdk.fromText, audio⟩, true, true, seen⟩ := by
  cases regionText <;> cases audio <;> exact ⟨[], rfl⟩

/-- The words that the daemon builds for a recording. -/
theorem actionSpec_recording {outputId path : Text} {target : RecordingTarget}
    {region : Option ρ} {audio : Bool} {spec : CommandSpec}
    (hdecode : ∀ r text, sdk.toText r = .ok text → sdk.fromText text = some r)
    (h : actionSpec sdk (.startRecording outputId target region audio) path = .ok (some spec)) :
    ∃ regionText, spec.args = "record".toList ::
        (requestGroups (nameOf outputId) regionText path audio).flatMap OptionGroup.words ∧
      regionText.bind sdk.fromText = region ∧ (∀ text ∈ regionText, (sdk.fromText text).isSome) ∧
      region.any (fun r => !sdk.isValid r) = false ∧ nameOf outputId ≠ [] ∧
      (nameOf outputId).byteLength ≤ 128 ∧ (nameOf outputId).all isNameChar = true := by
  unfold actionSpec at h
  simp only at h
  obtain ⟨-, -, h⟩ := Checks.bind_eq_ok_iff.mp h
  obtain ⟨name, hname, h⟩ := Checks.bind_eq_ok_iff.mp h
  obtain ⟨regionWords, hregion, h⟩ := Checks.bind_eq_ok_iff.mp h
  cases h
  unfold outputName at hname
  simp only at hname
  split at hname
  swap
  · cases hname
  next hchecks =>
  cases hname
  obtain ⟨hnonempty, hlength, hchars⟩ := hchecks
  unfold regionArgs at hregion
  split at hregion
  · next htarget =>
      split at hregion
      · cases hregion
      · next valid hvalid =>
          obtain ⟨text, htext, hwords⟩ := Checks.bind_eq_ok_iff.mp hregion
          cases hwords
          obtain ⟨hsome, hisValid⟩ := Option.filter_eq_some_iff.mp hvalid
          have hback := hdecode valid text htext
          refine ⟨some text, ?_, ?_, ?_, ?_, hnonempty, hlength, hchars⟩
          · cases audio <;> rfl
          · rw [hsome]
            exact hback
          · intro text' htext'
            cases htext'
            rw [hback]
            rfl
          · rw [hsome]
            simp [hisValid]
  · split at hregion
    · cases hregion
    · next hnone =>
        cases hregion
        have hregion : region = none := by simpa using hnone
        refine ⟨none, ?_, hregion.symm, nofun, by rw [hregion]; rfl, hnonempty, hlength, hchars⟩
        cases audio <;> rfl

/-- The helper reads back what the daemon asks for, unless the name of the output
looks like an option; and the order of the options does not matter. -/
theorem helper_agrees_iff (sdk : RegionSdk ρ)
    (hdecode : ∀ r text, sdk.toText r = .ok text → sdk.fromText text = some r) :
    (∀ outputId target region audio path spec,
      isAbsolute path = true → extension path = some "mp4".toList →
      actionSpec sdk (.startRecording outputId target region audio) path = .ok (some spec) →
      (parse sdk spec.args = .ok ⟨nameOf outputId, path, region, audio⟩ ↔
        (nameOf outputId).head? ≠ some '-')) ∧
    (∀ args r, parse sdk args = .ok r →
      ∃ groups : List OptionGroup,
        args = "record".toList :: groups.flatMap OptionGroup.words ∧
        .consent ∈ groups ∧ .statusFd ∈ groups ∧ .outputId r.output ∈ groups ∧
        .outputPath r.path ∈ groups ∧ (groups.map OptionGroup.name).Nodup ∧
        ∀ groups' : List OptionGroup, groups'.Perm groups →
          parse sdk ("record".toList :: groups'.flatMap OptionGroup.words) = .ok r) := by
  refine ⟨?_, ?_⟩
  · intro outputId target region audio path spec habsolute hextension hspec
    obtain ⟨regionText, hargs, hregion, hdecodes, hvalid, hnonempty, hlength, hchars⟩ :=
      actionSpec_recording hdecode hspec
    obtain ⟨seen, hset⟩ := @setAll_requestGroups _ sdk (nameOf outputId) regionText path
      audio
    have hgroups : ∀ g ∈ requestGroups (nameOf outputId) regionText path audio,
        g.Decodes sdk := by
      intro g hg
      cases g with
      | region text =>
          have hmem : text ∈ regionText := by
            cases regionText <;> cases audio <;> simp_all [requestGroups]
          exact hdecodes text hmem
      | _ => trivial
    rw [hargs, parse_groups ⟨requestGroups_nodup _ _ _ _, hgroups⟩, hset, hregion]
    have hcomplete : complete sdk
        ⟨⟨nameOf outputId, path, region, audio⟩, true, true, seen⟩ = true ↔
          (nameOf outputId).head? ≠ some '-' := by
      simp [complete, hnonempty, hlength, hchars, habsolute, hextension, hvalid]
    by_cases hhead : (nameOf outputId).head? ≠ some '-'
    · rw [if_pos (hcomplete.mpr hhead)]
      exact iff_of_true rfl hhead
    · rw [if_neg fun h => hhead (hcomplete.mp h)]
      exact iff_of_false nofun hhead
  · intro args r h
    obtain ⟨groups, rfl, haccepted, hdone, rfl⟩ := exists_groups_of_parse h
    obtain ⟨hconsent, hstatus, houtput, hpath⟩ := contents_of_complete hdone
    refine ⟨groups, rfl, hconsent, hstatus, houtput, hpath, haccepted.1, fun groups' hperm => ?_⟩
    have haccepted' : (groups'.map OptionGroup.name).Nodup ∧ ∀ g ∈ groups', g.Decodes sdk :=
      ⟨(hperm.map _).nodup_iff.mpr haccepted.1, fun g hg => haccepted.2 g (hperm.mem_iff.mp hg)⟩
    rw [parse_groups haccepted', setAll_perm hperm haccepted.1, if_pos hdone]

section Sample

def sampleRegionText : Text :=
  "\x7b\"x\":0,\"y\":0,\"width\":640,\"height\":480\x7d".toList

/-- The SDK with one region, as its four numbers. -/
def sampleRegions : RegionSdk (Int × Int × Nat × Nat) where
  isValid r := r = (0, 0, 640, 480)
  toText r := if r = (0, 0, 640, 480) then .ok sampleRegionText else inputError "no sample"
  fromText text := if text = sampleRegionText then some (0, 0, 640, 480) else none

theorem sampleRegions_decodes (r : Int × Int × Nat × Nat) (text : Text)
    (h : sampleRegions.toText r = .ok text) : sampleRegions.fromText text = some r := by
  simp only [sampleRegions] at h ⊢
  split at h
  · next hr =>
      cases h
      rw [if_pos rfl, hr]
  · cases h

/-- The words for the output with this name. -/
def sampleArgs (name : String) : List Text :=
  ["record".toList, "--interactive-consent".toList, "--output-id".toList, name.toList,
    "--output-path".toList, "/captures/a.mp4".toList, "--status-fd".toList, "1".toList]

theorem helper_agrees_display :
    parse sampleRegions (sampleArgs "DP-1") =
      .ok ⟨"DP-1".toList, "/captures/a.mp4".toList, none, false⟩ :=
  ((helper_agrees_iff sampleRegions sampleRegions_decodes).1 "output:DP-1".toList .output none false
    "/captures/a.mp4".toList (.new "sleepy-recording-helper" (sampleArgs "DP-1")) (by decide)
    (by decide) rfl).mpr (by decide)

/-- The daemon starts the helper for this output, and the helper refuses it. -/
theorem dashed_output_refused :
    actionSpec sampleRegions (.startRecording "output:-1".toList .output none false)
        "/captures/a.mp4".toList =
      .ok (some (.new "sleepy-recording-helper" (sampleArgs "-1"))) ∧
    isAbsolute "/captures/a.mp4".toList = true ∧
    extension "/captures/a.mp4".toList = some "mp4".toList ∧
    parse sampleRegions (sampleArgs "-1") = invalidRequest :=
  ⟨rfl, rfl, by decide, rfl⟩

end Sample

end Agreement

end Utilities
end SleepySession
