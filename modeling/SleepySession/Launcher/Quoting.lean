import SleepySession.Launcher.Exec

/-!
# Quoting of command lines

Arguments quoted as the Desktop Entry Specification prescribes, and what the
launcher makes of them.  `tokenize` keeps an empty quoted argument, but the
expansion drops every token that expands to nothing.
-/

namespace SleepySession
namespace Launcher

section Quoting

/-- A character inside of double quotes. -/
def quoteChar (c : Char) : Text :=
  if c ∈ ['"', '`', '$', '\\'] then ['\\', c] else if c = '%' then ['%', '%'] else [c]

def quoteArgument (argument : Text) : Text :=
  '"' :: (argument.flatMap quoteChar ++ ['"'])

/-- The quoted arguments with a space between them. -/
def commandLine : List Text → Text
  | [] => []
  | [argument] => quoteArgument argument
  | argument :: rest => quoteArgument argument ++ ' ' :: commandLine rest

/-- A character with percent doubled. -/
def doubled (c : Char) : Text :=
  if c = '%' then ['%', '%'] else [c]

/-- A value without its escapes; `none` if its last backslash escapes nothing. -/
def unescaped : Text → Option Text
  | [] => some []
  | ['\\'] => none
  | '\\' :: _ :: rest => unescaped rest
  | c :: rest => (unescaped rest).map (c :: ·)

/-- A dangling escape, or a quote that is not terminated. -/
def Malformed (exec : Text) : Prop :=
  match unescaped exec with
  | none => True
  | some rest => rest.count '"' % 2 = 1

end Quoting

section Tokens

variable {t : Tokenizer}

theorem foldl_quoteChar (hquoted : t.quoted = true) (hescaped : t.escaped = false)
    (hactive : t.active = true) (c : Char) :
    (quoteChar c).foldl Tokenizer.step t = { t with token := t.token ++ doubled c } := by
  obtain ⟨tokens, token, quoted, escaped, active⟩ := t
  dsimp only at hquoted hescaped hactive
  subst hquoted hescaped hactive
  by_cases hspecial : c ∈ ['"', '`', '$', '\\']
  · have hpercent : c ≠ '%' := by
      rintro rfl
      exact absurd hspecial (by decide)
    simp [quoteChar, doubled, hspecial, hpercent, Tokenizer.step]
  · by_cases hpercent : c = '%'
    · subst hpercent
      simp [quoteChar, doubled, Tokenizer.step]
    · have hbackslash : c ≠ '\\' := fun h => hspecial (by simp [h])
      have hquote : c ≠ '"' := fun h => hspecial (by simp [h])
      simp [quoteChar, doubled, hspecial, hpercent, hbackslash, hquote, Tokenizer.step]

theorem foldl_quoteChars (hquoted : t.quoted = true) (hescaped : t.escaped = false)
    (hactive : t.active = true) (argument : Text) :
    (argument.flatMap quoteChar).foldl Tokenizer.step t =
      { t with token := t.token ++ argument.flatMap doubled } := by
  induction argument generalizing t with
  | nil => simp
  | cons c rest ih =>
      have hrest := @ih { t with token := t.token ++ doubled c } hquoted hescaped hactive
      rw [List.flatMap_cons, List.foldl_append, foldl_quoteChar hquoted hescaped hactive, hrest,
        List.flatMap_cons, List.append_assoc]

/-- A quoted argument is added to the open token. -/
theorem foldl_quoteArgument (hquoted : t.quoted = false) (hescaped : t.escaped = false)
    (argument : Text) :
    (quoteArgument argument).foldl Tokenizer.step t =
      { t with token := t.token ++ argument.flatMap doubled, active := true } := by
  have hopen : t.step '"' = { t with quoted := true, active := true } := by
    simp [Tokenizer.step, hquoted, hescaped]
  have hclose : ∀ token : Text, Tokenizer.step
      { t with token := token, quoted := true, active := true } '"' =
        { t with token := token, active := true } := by
    intro token
    simp [Tokenizer.step, hquoted, hescaped]
  have hchars := @foldl_quoteChars { t with quoted := true, active := true } rfl hescaped rfl
    argument
  rw [quoteArgument, List.foldl_cons, List.foldl_append, hopen, hchars]
  exact hclose _

theorem foldl_commandLine (hquoted : t.quoted = false) (hescaped : t.escaped = false)
    (htoken : t.token = []) (argument : Text) (rest : List Text) :
    ∃ tokens token, (commandLine (argument :: rest)).foldl Tokenizer.step t =
        { tokens, token, quoted := false, escaped := false, active := true } ∧
      tokens ++ [token] =
        t.tokens ++ (argument :: rest).map fun a => a.flatMap doubled := by
  induction rest generalizing t argument with
  | nil =>
      refine ⟨t.tokens, argument.flatMap doubled, ?_, rfl⟩
      rw [commandLine, foldl_quoteArgument hquoted hescaped, htoken, hquoted, hescaped,
        List.nil_append]
  | cons next rest ih =>
      have hspace : ∀ token : Text, Tokenizer.step { t with token := token, active := true } ' ' =
          { t with tokens := t.tokens ++ [token], token := [], active := false } := by
        intro token
        simp [Tokenizer.step, hquoted, hescaped, show isWhiteSpace ' ' = true from rfl]
      obtain ⟨tokens, token, hfold, hall⟩ :=
        @ih { t with tokens := t.tokens ++ [argument.flatMap doubled], token := [], active := false }
          hquoted hescaped rfl next
      refine ⟨tokens, token, ?_, ?_⟩
      · rw [commandLine, List.foldl_append, List.foldl_cons, foldl_quoteArgument hquoted hescaped,
          htoken, List.nil_append, hspace, hfold]
        simp
      · rw [hall, List.append_assoc]
        rfl

/-- The tokens of a command line are the arguments, with percent still doubled. -/
theorem tokenize_commandLine (argument : Text) (rest : List Text) :
    tokenize (commandLine (argument :: rest)) =
      .ok ((argument :: rest).map fun a => a.flatMap doubled) := by
  obtain ⟨tokens, token, hfold, hall⟩ :=
    @foldl_commandLine {} rfl rfl rfl argument rest
  unfold tokenize
  rw [hfold]
  simpa using hall

/-- The escape and the quote that are open at the end of a value. -/
theorem foldl_unescaped (exec : Text) (hescaped : t.escaped = false) :
    match unescaped exec with
    | none => (exec.foldl Tokenizer.step t).escaped = true
    | some rest => (exec.foldl Tokenizer.step t).quoted =
        (t.quoted ^^ decide (rest.count '"' % 2 = 1)) := by
  induction exec using unescaped.induct generalizing t with
  | case1 => simp [unescaped]
  | case2 => simp [unescaped, Tokenizer.step, hescaped]
  | case3 c rest ih =>
      have hstep : (t.step '\\').step c =
          { t with token := t.token ++ [c], active := true } := by
        obtain ⟨tokens, token, quoted, escaped, active⟩ := t
        dsimp only at hescaped
        subst hescaped
        simp [Tokenizer.step]
      have hrest := @ih { t with token := t.token ++ [c], active := true } hescaped
      rw [unescaped, List.foldl_cons, List.foldl_cons, hstep]
      exact hrest
  | case4 c rest hlast hescape ih =>
      have hbackslash : c ≠ '\\' := by
        rintro rfl
        cases rest with
        | nil => exact hlast rfl rfl
        | cons d rest => exact hescape d rest rfl rfl
      have hstep : (t.step c).escaped = false ∧
          (t.step c).quoted = (t.quoted ^^ decide (c = '"')) := by
        unfold Tokenizer.step
        rw [if_neg (by simp [hescaped]), if_neg hbackslash]
        by_cases hquote : c = '"'
        · simp [hquote, hescaped]
        · rw [if_neg hquote]
          split_ifs <;> simp [hquote, hescaped]
      have hrest := @ih (t.step c) hstep.1
      rw [unescaped, List.foldl_cons]
      · cases hunescaped : unescaped rest with
        | none =>
            rw [hunescaped] at hrest
            exact hrest
        | some text =>
            rw [hunescaped] at hrest
            dsimp only [Option.map_some] at hrest ⊢
            rw [hrest, hstep.2]
            by_cases hquote : c = '"'
            · rw [hquote, List.count_cons_self]
              rcases Nat.mod_two_eq_zero_or_one (text.count '"') with h | h <;>
                cases t.quoted <;> simp [Nat.add_mod, h]
            · rw [List.count_cons_of_ne hquote]
              simp [hquote]
      · exact hlast
      · exact hescape

theorem tokenize_malformed {exec : Text} (h : Malformed exec) :
    tokenize exec = .error (invalidData "malformed Exec quoting") := by
  have hfold := @foldl_unescaped {} exec rfl
  unfold Malformed at h
  unfold tokenize
  refine if_pos ?_
  cases hunescaped : unescaped exec with
  | none =>
      rw [hunescaped] at hfold
      exact Or.inl hfold
  | some rest =>
      rw [hunescaped] at hfold h
      exact Or.inr (by simpa [h] using hfold)

end Tokens

section Expanding

variable {entry : DesktopEntry} {resources : LaunchResources}

theorem expandToken_of_ne {c : Char} (hc : c ≠ '%') (rest : Text) :
    expandToken entry resources (c :: rest) =
      (expandToken entry resources rest).map (c :: ·) := by
  rw [expandToken]
  · cases expandToken entry resources rest <;> rfl
  · exact fun h => absurd h hc
  · exact fun _ _ h => absurd h hc

theorem expandToken_doubled (argument : Text) :
    expandToken entry resources (argument.flatMap doubled) = .ok argument := by
  induction argument with
  | nil => rfl
  | cons c rest ih =>
      rw [List.flatMap_cons]
      by_cases hc : c = '%'
      · subst hc
        have hcode : fieldCode entry resources '%' = .ok ['%'] := rfl
        rw [show doubled '%' = ['%', '%'] from rfl, List.cons_append, List.cons_append,
          List.nil_append, expandToken, hcode, ih]
        rfl
      · rw [show doubled c = [c] from if_neg hc, List.cons_append, List.nil_append,
          expandToken_of_ne hc, ih]
        rfl

/-- No doubled token is one of the field codes that are whole arguments. -/
theorem doubled_ne (argument : Text) {code : Char} (hcode : code ≠ '%') :
    argument.flatMap doubled ≠ ['%', code] := by
  cases argument with
  | nil => simp
  | cons c rest =>
      rw [List.flatMap_cons]
      by_cases hc : c = '%'
      · intro h
        simp only [doubled, hc, if_true, List.cons_append, List.nil_append, List.cons.injEq] at h
        exact hcode h.2.1.symm
      · intro h
        simp only [doubled, hc, if_false, List.cons_append, List.nil_append, List.cons.injEq] at h
        exact h.1

theorem expandTokens_doubled (arguments : List Text) :
    expandTokens entry resources (arguments.map fun a => a.flatMap doubled) =
      .ok (arguments.filter fun a => a ≠ []) := by
  induction arguments with
  | nil => rfl
  | cons argument rest ih =>
      have hargument : expandArgument entry resources (argument.flatMap doubled) =
          .ok (if argument = [] then [] else [argument]) := by
        unfold expandArgument
        rw [if_neg (doubled_ne argument (by decide)), if_neg (doubled_ne argument (by decide)),
          if_neg (doubled_ne argument (by decide)), expandToken_doubled]
        rfl
      rw [List.map_cons, expandTokens, hargument, ih]
      by_cases h : argument = []
      · simp [h, bind, Except.bind, pure, Except.pure]
      · simp [h, bind, Except.bind, pure, Except.pure]

/-- A quoted command line expands to its arguments without the empty ones. -/
theorem expandExec_commandLine {program : Text} (hprogram : program ≠ []) (arguments : List Text) :
    expandExec entry resources (commandLine (program :: arguments)) =
      .ok ((program :: arguments).filter fun a => a ≠ []) := by
  have hhead : ((program :: arguments).filter fun a => a ≠ []).head?.getD [] ≠ [] := by
    simp [hprogram]
  unfold expandExec
  rw [tokenize_commandLine]
  simp only [bind, Except.bind, expandTokens_doubled]
  rw [if_neg (by simp), if_neg hhead]

/--
A quoted command line gives back its arguments exactly if none of them is
empty, and a value with a dangling escape or an open quote is rejected.
-/
theorem commandLine_expands_iff (entry : DesktopEntry) :
    (∀ (program : Text) (arguments : List Text), program ≠ [] →
      (expandExec entry {} (commandLine (program :: arguments)) = .ok (program :: arguments) ↔
        ∀ argument ∈ arguments, argument ≠ [])) ∧
    ∀ exec resources, Malformed exec →
      expandExec entry resources exec = .error (invalidData "malformed Exec quoting") := by
  refine ⟨fun program arguments hprogram => ?_, fun exec resources h => ?_⟩
  · rw [expandExec_commandLine hprogram, Except.ok.injEq, List.filter_eq_self]
    simp [hprogram]
  · rw [expandExec, tokenize_malformed h]
    rfl

/-- The empty argument of `"a" ""` is lost. -/
theorem empty_argument_dropped :
    ¬ ∀ (entry : DesktopEntry) (program : Text) (arguments : List Text), program ≠ [] →
      expandExec entry {} (commandLine (program :: arguments)) = .ok (program :: arguments) := by
  intro h
  have hlost := h ⟨[], [], none, [], [], []⟩ ['a'] [[]] (by decide)
  rw [expandExec_commandLine (by decide)] at hlost
  exact absurd hlost (by decide)

end Expanding

end Launcher
end SleepySession
