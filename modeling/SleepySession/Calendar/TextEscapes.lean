import SleepySession.Desktop.CommandText

/-!
# Text values of calendar files

The calendar parser decodes a text value by four replacements, one after the
other.  The first one looks for an escaped newline and takes the second half of
an escaped backslash for the beginning of one, if the letter `n` follows it.
The other three find only what the escaping has written.
-/

namespace SleepySession
namespace Calendar

/-- `str::replace` of a pattern of two characters by one character. -/
def replacePair (first second replacement : Char) : Text → Text
  | c :: d :: rest =>
      if c = first ∧ d = second then replacement :: replacePair first second replacement rest
      else c :: replacePair first second replacement (d :: rest)
  | text => text

/-- `unescape`. -/
def unescape (value : Text) : Text :=
  replacePair '\\' '\\' '\\'
    (replacePair '\\' ';' ';'
      (replacePair '\\' ',' ','
        (replacePair '\\' 'n' '\n' value)))

/-- What stands after the backslash of an escaped character of a TEXT value. -/
def escapeLetter (c : Char) : Option Char :=
  if c = '\\' then some '\\'
  else if c = ';' then some ';'
  else if c = ',' then some ','
  else if c = '\n' then some 'n'
  else none

/-- A text with some of its characters escaped. -/
def escapeWith (letter : Char → Option Char) : Text → Text
  | [] => []
  | c :: rest =>
      match letter c with
      | some d => '\\' :: d :: escapeWith letter rest
      | none => c :: escapeWith letter rest

/-- The escaping that a TEXT value requires. -/
def escapeText (text : Text) : Text :=
  escapeWith escapeLetter text

/-- No literal backslash stands directly before the letter `n`. -/
def Unambiguous (text : Text) : Prop :=
  ¬ ['\\', 'n'] <:+: text

section Passes

theorem replacePair_cons_of_ne
    {first second replacement c : Char} (hc : c ≠ first) (rest : Text) :
    replacePair first second replacement (c :: rest) =
      c :: replacePair first second replacement rest := by
  cases rest with
  | nil => simp [replacePair]
  | cons d rest => simp [replacePair, hc]

theorem replacePair_match (first second replacement : Char) (rest : Text) :
    replacePair first second replacement (first :: second :: rest) =
      replacement :: replacePair first second replacement rest := by
  simp [replacePair]

/-- A backslash that is not followed by the second character stays. -/
theorem replacePair_cons_of_head
    {first second replacement : Char} {rest : Text} (hrest : rest.head? ≠ some second) :
    replacePair first second replacement (first :: rest) =
      first :: replacePair first second replacement rest := by
  cases rest with
  | nil => simp [replacePair]
  | cons d rest =>
      have hd : d ≠ second := by simpa using hrest
      simp [replacePair, hd]

/-- One escape less: the characters written with the letter `d` are plain. -/
def withoutLetter (d : Char) (letter : Char → Option Char) (c : Char) : Option Char :=
  if letter c = some d then none else letter c

/-- A letter that encodes one character and never stands behind a plain backslash. -/
structure Decodes (letter : Char → Option Char) (d c : Char) : Prop where
  backslash_iff : ∀ c', letter c' = some '\\' ↔ c' = '\\'
  letter_eq : ∀ c', letter c' = some d ↔ c' = c
  ne_backslash : d ≠ '\\'

/-- The first character that is written for a text. -/
theorem head?_escapeWith (letter : Char → Option Char) (text : Text) :
    (escapeWith letter text).head? =
      text.head?.map fun c => if (letter c).isSome then '\\' else c := by
  cases text with
  | nil => rfl
  | cons c rest => cases h : letter c <;> simp [escapeWith, h]

/-- A pass undoes its own escape where the text has no plain letter behind a backslash. -/
theorem replacePair_escapeWith
    {letter : Char → Option Char} {d c : Char} (hd : Decodes letter d c)
    {text : Text}
    (htext : letter d = none → ¬ ['\\', d] <:+: text) :
    replacePair '\\' d c (escapeWith letter text) =
      escapeWith (withoutLetter d letter) text := by
  induction text with
  | nil => rfl
  | cons e rest ih =>
      have hrest := ih fun hnone hinside => htext hnone (hinside.trans (List.suffix_cons e rest).isInfix)
      cases he : letter e with
      | none =>
          have hne : e ≠ '\\' := by
            rintro rfl
            simp [(hd.backslash_iff '\\').mpr rfl] at he
          simp [escapeWith, withoutLetter, he, replacePair_cons_of_ne hne, hrest]
      | some b =>
          by_cases hb : b = d
          · subst hb
            obtain rfl := (hd.letter_eq e).mp he
            simp [escapeWith, withoutLetter, he, replacePair_match, hrest]
          · have hfirst : replacePair '\\' d c ('\\' :: b :: escapeWith letter rest) =
                '\\' :: replacePair '\\' d c (b :: escapeWith letter rest) :=
              replacePair_cons_of_head (by simpa using hb)
            have hsecond : replacePair '\\' d c (b :: escapeWith letter rest) =
                b :: replacePair '\\' d c (escapeWith letter rest) := by
              by_cases hback : b = '\\'
              · subst hback
                obtain rfl := (hd.backslash_iff e).mp he
                refine replacePair_cons_of_head ?_
                rw [head?_escapeWith]
                intro hhead
                obtain ⟨r, hr, hcode⟩ := Option.map_eq_some_iff.mp hhead
                cases hletter : letter r with
                | some b => exact hd.ne_backslash (by simpa [hletter] using hcode.symm)
                | none =>
                    -- a plain letter behind a literal backslash
                    obtain rfl : r = d := by simpa [hletter] using hcode
                    obtain ⟨tail, rfl⟩ : ∃ tail, rest = r :: tail := by
                      cases rest with
                      | nil => simp at hr
                      | cons r' tail => exact ⟨tail, by simpa using hr⟩
                    exact htext hletter ⟨[], tail, by simp⟩
              · exact replacePair_cons_of_ne hback _
            simp [escapeWith, withoutLetter, he, hb, hfirst, hsecond, hrest]

/-- The last pass undoes the escape of the backslash itself. -/
theorem replacePair_backslash
    {letter : Char → Option Char}
    (hletter : ∀ c, letter c = if c = '\\' then some '\\' else none) (text : Text) :
    replacePair '\\' '\\' '\\' (escapeWith letter text) = text := by
  induction text with
  | nil => rfl
  | cons c rest ih =>
      by_cases hc : c = '\\'
      · simp [escapeWith, hletter, hc, replacePair_match, ih]
      · simp [escapeWith, hletter, hc, replacePair_cons_of_ne hc, ih]

/-- A pass that neither looks for newlines nor writes any keeps their number. -/
theorem count_newline_replacePair
    {first second replacement : Char}
    (hfirst : first ≠ '\n') (hsecond : second ≠ '\n') (hreplacement : replacement ≠ '\n')
    (text : Text) :
    (replacePair first second replacement text).count '\n' = text.count '\n' := by
  fun_induction replacePair first second replacement text with
  | case1 c d rest hmatch ih =>
      obtain ⟨rfl, rfl⟩ := hmatch
      simp [hfirst, hsecond, hreplacement, ih]
  | case2 c d rest hmatch ih => simp only [List.count_cons, ih]
  | case3 text htext => rfl

/-- How often the first pass takes a literal backslash and a letter for a newline. -/
def misreadings : Text → Nat
  | c :: d :: rest =>
      if c = '\\' ∧ d = 'n' then misreadings rest + 1 else misreadings (d :: rest)
  | _ => 0

theorem misreadings_pos {text : Text} (h : ['\\', 'n'] <:+: text) : 0 < misreadings text := by
  fun_induction misreadings text with
  | case1 c d rest hmatch ih => exact Nat.succ_pos _
  | case2 c d rest hmatch ih =>
      rcases List.infix_cons_iff.mp h with hhead | htail
      · simp only [List.cons_prefix_cons] at hhead
        exact absurd ⟨hhead.1.symm, hhead.2.1.symm⟩ hmatch
      · exact ih htail
  | case3 text htext =>
      match text, htext with
      | [], _ => simp at h
      | [c], _ => simpa using h.length_le
      | c :: d :: rest, htext => exact absurd rfl (htext c d rest)

/-- A character that is not a backslash is read by itself. -/
theorem replacePair_escapeText_cons
    {c : Char} (hc : c ≠ '\\') (rest : Text) :
    (replacePair '\\' 'n' '\n' (escapeText (c :: rest))).count '\n' =
      (replacePair '\\' 'n' '\n' (escapeText rest)).count '\n' +
        if c = '\n' then 1 else 0 := by
  unfold escapeText
  by_cases hnewline : c = '\n'
  · subst hnewline
    simp [escapeWith, escapeLetter, replacePair_match]
  · cases hletter : escapeLetter c with
    | none => simp [escapeWith, hletter, replacePair_cons_of_ne hc, hnewline]
    | some b =>
        have hb : b = c := by
          unfold escapeLetter at hletter
          grind
        subst hb
        have hn : b ≠ 'n' := by
          rintro rfl
          simp [escapeLetter] at hletter
        rw [escapeWith, hletter]
        dsimp only
        rw [replacePair_cons_of_head (by simpa using hn), replacePair_cons_of_ne hc]
        simp [hnewline]

/-- The first pass writes a newline for each one of the text and for each misreading. -/
theorem count_newline_firstPass (text : Text) :
    (replacePair '\\' 'n' '\n' (escapeText text)).count '\n' =
      text.count '\n' + misreadings text := by
  fun_induction misreadings text with
  | case1 c d rest hmatch ih =>
      obtain ⟨rfl, rfl⟩ := hmatch
      have hcode : escapeText ('\\' :: 'n' :: rest) =
          '\\' :: '\\' :: 'n' :: escapeText rest := by
        simp [escapeText, escapeWith, escapeLetter]
      rw [hcode, replacePair_cons_of_head (by simp), replacePair_match]
      simp only [List.count_cons, ih]
      simp
      omega
  | case2 c d rest hmatch ih =>
      by_cases hc : c = '\\'
      · subst hc
        have hd : d ≠ 'n' := fun hd => hmatch ⟨rfl, hd⟩
        have hcode : escapeText ('\\' :: d :: rest) =
            '\\' :: '\\' :: escapeText (d :: rest) := by
          simp [escapeText, escapeWith, escapeLetter]
        have hhead : (escapeText (d :: rest)).head? ≠ some 'n' := by
          rw [escapeText, head?_escapeWith]
          cases hletter : escapeLetter d <;> simp [hletter, hd]
        rw [hcode, replacePair_cons_of_head (by simp), replacePair_cons_of_head hhead]
        simp [ih]
      · have hcount : (c :: d :: rest).count '\n' =
            (d :: rest).count '\n' + if c = '\n' then 1 else 0 := by
          rw [List.count_cons]
          simp only [beq_iff_eq]
        rw [replacePair_escapeText_cons hc, ih, hcount]
        omega
  | case3 text htext =>
      match text, htext with
      | [], _ => rfl
      | [c], _ =>
          by_cases hc : c = '\\'
          · subst hc
            decide
          · rw [replacePair_escapeText_cons hc, List.count_cons]
            simp [escapeText, escapeWith, replacePair]
      | c :: d :: rest, htext => exact absurd rfl (htext c d rest)

end Passes

section Decoding

theorem decodes_newline : Decodes escapeLetter 'n' '\n' where
  backslash_iff c := by
    unfold escapeLetter
    grind
  letter_eq c := by
    unfold escapeLetter
    grind
  ne_backslash := by decide

/-- The escapes that are left after the first pass. -/
abbrev letterWithoutNewline : Char → Option Char :=
  withoutLetter 'n' escapeLetter

/-- The escapes that are left after the second pass. -/
abbrev letterWithoutComma : Char → Option Char :=
  withoutLetter ',' letterWithoutNewline

theorem decodes_comma : Decodes letterWithoutNewline ',' ',' where
  backslash_iff c := by
    unfold letterWithoutNewline withoutLetter escapeLetter
    grind
  letter_eq c := by
    unfold letterWithoutNewline withoutLetter escapeLetter
    grind
  ne_backslash := by decide

theorem decodes_semicolon : Decodes letterWithoutComma ';' ';' where
  backslash_iff c := by
    unfold letterWithoutComma letterWithoutNewline withoutLetter escapeLetter
    grind
  letter_eq c := by
    unfold letterWithoutComma letterWithoutNewline withoutLetter escapeLetter
    grind
  ne_backslash := by decide

/-- After the third pass only the backslash is escaped. -/
theorem letter_lastPass (c : Char) :
    withoutLetter ';' letterWithoutComma c = if c = '\\' then some '\\' else none := by
  unfold letterWithoutComma letterWithoutNewline withoutLetter escapeLetter
  grind

/-- An unambiguous text comes back from its escaping. -/
theorem unescape_of_unambiguous {text : Text} (h : Unambiguous text) :
    unescape (escapeText text) = text := by
  have hfirst := replacePair_escapeWith decodes_newline fun _ => h
  have hsecond := @replacePair_escapeWith _ _ _ decodes_comma text fun hnone => by
    simp [letterWithoutNewline, withoutLetter, escapeLetter] at hnone
  have hthird := @replacePair_escapeWith _ _ _ decodes_semicolon text fun hnone => by
    simp [letterWithoutComma, letterWithoutNewline, withoutLetter, escapeLetter] at hnone
  rw [unescape, escapeText, hfirst, hsecond, hthird]
  exact replacePair_backslash letter_lastPass text

/--
Decoding inverts the escaping exactly on the texts without a literal backslash
before the letter `n`.
-/
theorem unescape_escapeText_iff (text : Text) :
    unescape (escapeText text) = text ↔ Unambiguous text := by
  refine ⟨fun heq hinfix => ?_, unescape_of_unambiguous⟩
  have hcount : (unescape (escapeText text)).count '\n' =
      text.count '\n' + misreadings text := by
    unfold unescape
    rw [count_newline_replacePair (by decide) (by decide) (by decide),
      count_newline_replacePair (by decide) (by decide) (by decide),
      count_newline_replacePair (by decide) (by decide) (by decide),
      count_newline_firstPass]
  have hpos := misreadings_pos hinfix
  rw [heq] at hcount
  omega

/-- The text of a backslash and the letter `n` comes back as a newline behind a backslash. -/
theorem unescape_backslash_n :
    ¬ ∀ text : Text, unescape (escapeText text) = text := by
  intro h
  exact absurd (h ['\\', 'n']) (by decide)

end Decoding

end Calendar
end SleepySession
