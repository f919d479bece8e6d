import Mathlib.Tactic

/-!
# A fragment of KDL

Nodes with a name, string arguments and children in braces.  A scanner reads a
text character by character into tokens, and a stack of open nodes takes the
tokens.  What is outside the fragment (numbers, keywords, properties, comments,
raw strings) is refused.
-/

namespace SleepySession
namespace Kdl

section Scanner

inductive Token where
  | word (name : List Char)
  | text (value : List Char)
  /-- A newline or a semicolon. -/
  | terminator
  | opening
  | closing
deriving DecidableEq, Repr

/-- What the scanner is in the middle of. -/
inductive Scan where
  | plain
  | word (read : List Char)
  | text (read : List Char)
  | escape (read : List Char)
  | unicode (read : List Char)
  | digits (read : List Char) (value count : Nat)
  /-- Right after a string. -/
  | closed
deriving DecidableEq, Repr

/-- The white space and the newlines of Unicode beyond ASCII, and the byte order mark. -/
def wideSpaces : List Nat :=
  [0x85, 0xA0, 0x1680, 0x2000, 0x2001, 0x2002, 0x2003, 0x2004, 0x2005, 0x2006, 0x2007, 0x2008,
    0x2009, 0x200A, 0x2028, 0x2029, 0x202F, 0x205F, 0x3000, 0xFEFF]

/-- The printed characters that no bare identifier has. -/
def wordStops : List Char :=
  ['\\', '/', '(', ')', '{', '}', '<', '>', ';', '[', ']', '=', ',', '"']

/-- The characters of a bare identifier. -/
def isWordChar (c : Char) : Bool :=
  0x20 < c.toNat && !(wordStops.contains c) && !(wideSpaces.contains c.toNat)

/-- A bare identifier does not begin like a number. -/
def isWordStart (c : Char) : Bool :=
  isWordChar c && !c.isDigit && c != '+' && c != '-'

def keywords : List (List Char) :=
  [['t', 'r', 'u', 'e'], ['f', 'a', 'l', 's', 'e'], ['n', 'u', 'l', 'l']]

/-- A bare identifier. -/
def IsWord : List Char → Prop
  | [] => False
  | first :: rest =>
      isWordStart first = true ∧ rest.all isWordChar = true ∧ first :: rest ∉ keywords

instance : DecidablePred IsWord
  | [] => isFalse id
  | first :: rest =>
      inferInstanceAs (Decidable
        (isWordStart first = true ∧ rest.all isWordChar = true ∧ first :: rest ∉ keywords))

def hexDigit (c : Char) : Option Nat :=
  if '0' ≤ c ∧ c ≤ '9' then some (c.toNat - 0x30)
  else if 'a' ≤ c ∧ c ≤ 'f' then some (c.toNat - 0x61 + 10)
  else if 'A' ≤ c ∧ c ≤ 'F' then some (c.toNat - 0x41 + 10)
  else none

/-- What a letter after a backslash stands for. -/
def escaped (c : Char) : Option Char :=
  if c = '"' then some '"'
  else if c = '\\' then some '\\'
  else if c = '/' then some '/'
  else if c = 'n' then some '\n'
  else if c = 'r' then some '\r'
  else if c = 't' then some '\t'
  else if c = 'b' then some '\x08'
  else if c = 'f' then some '\x0c'
  else none

/-- Between tokens. -/
def scanPlain (c : Char) : Option (List Token × Scan) :=
  if c = ' ' ∨ c = '\t' then some ([], .plain)
  else if c = '\n' ∨ c = ';' then some ([.terminator], .plain)
  else if c = '{' then some ([.opening], .plain)
  else if c = '}' then some ([.closing], .plain)
  else if c = '"' then some ([], .text [])
  else if isWordStart c then some ([], .word [c])
  else none

def scanChar : Scan → Char → Option (List Token × Scan)
  | .plain, c => scanPlain c
  | .word read, c =>
      if isWordChar c then some ([], .word (read ++ [c]))
      else if read ∈ keywords ∨ c = '"' then none
      else (scanPlain c).map fun next => (.word read :: next.1, next.2)
  | .text read, c =>
      if c = '"' then some ([.text read], .closed)
      else if c = '\\' then some ([], .escape read)
      else some ([], .text (read ++ [c]))
  | .escape read, c =>
      if c = 'u' then some ([], .unicode read)
      else (escaped c).map fun meant => ([], .text (read ++ [meant]))
  | .unicode read, c => if c = '{' then some ([], .digits read 0 0) else none
  | .digits read value count, c =>
      if c = '}' then
        if 0 < count ∧ value.isValidChar then some ([], .text (read ++ [Char.ofNat value]))
        else none
      else
        match hexDigit c with
        | some digit =>
            if count < 6 then some ([], .digits read (16 * value + digit) (count + 1)) else none
        | none => none
  | .closed, c => if c = '"' ∨ isWordChar c then none else scanPlain c

/-- The tokens of a text, and what the scanner is in the middle of at its end. -/
def scan : Scan → List Char → Option (List Token × Scan)
  | state, [] => some ([], state)
  | state, c :: rest =>
      (scanChar state c).bind fun next =>
        (scan next.2 rest).map fun last => (next.1 ++ last.1, last.2)

variable {before between after : Scan} {front back : List Char} {tokens tokens' : List Token}
variable {c : Char} {read word value : List Char}

theorem scan_singleton (h : scanChar before c = some (tokens, after)) :
    scan before [c] = some (tokens, after) := by
  simp [scan, h]

/-- What is scanned in two parts. -/
theorem scan_append
    (hfront : scan before front = some (tokens, between))
    (hback : scan between back = some (tokens', after)) :
    scan before (front ++ back) = some (tokens ++ tokens', after) := by
  induction front generalizing before tokens with
  | nil =>
      obtain ⟨rfl, rfl⟩ := Prod.mk.inj (Option.some.inj hfront)
      exact hback
  | cons c rest ih =>
      obtain ⟨next, hnext, hrest⟩ := Option.bind_eq_some_iff.mp hfront
      obtain ⟨last, hlast, heq⟩ := Option.map_eq_some_iff.mp hrest
      obtain ⟨rfl, rfl⟩ := Prod.mk.inj heq
      simp only [List.cons_append, scan, hnext, Option.bind_some, ih hlast, Option.map_some,
        List.append_assoc]

theorem scan_word_rest (rest : List Char) (hrest : rest.all isWordChar = true) :
    scan (.word read) rest = some ([], .word (read ++ rest)) := by
  induction rest generalizing read with
  | nil => simp [scan]
  | cons c rest ih =>
      obtain ⟨hc, hrest⟩ := (Bool.and_eq_true_iff).mp hrest
      simp [scan, scanChar, hc, ih hrest]

theorem scanPlain_of_isWordStart (h : isWordStart c = true) :
    scanPlain c = some ([], .word [c]) := by
  have hspecial : c ≠ ' ' ∧ c ≠ '\t' ∧ c ≠ '\n' ∧ c ≠ ';' ∧ c ≠ '{' ∧ c ≠ '}' ∧ c ≠ '"' := by
    refine ⟨?_, ?_, ?_, ?_, ?_, ?_, ?_⟩ <;> (rintro rfl; revert h; decide)
  obtain ⟨hspace, htab, hnewline, hsemicolon, hopen, hclose, hquote⟩ := hspecial
  unfold scanPlain
  rw [if_neg (by simp [hspace, htab]), if_neg (by simp [hnewline, hsemicolon]), if_neg hopen,
    if_neg hclose, if_neg hquote, if_pos h]

/-- A bare identifier and the character that ends it. -/
theorem scan_word (hword : IsWord word) (hc : isWordChar c = false) (hquote : c ≠ '"')
    (hplain : scanPlain c = some (tokens, after)) :
    scan .plain (word ++ [c]) = some (.word word :: tokens, after) := by
  cases word with
  | nil => exact hword.elim
  | cons first rest =>
      obtain ⟨hfirst, hrest, hkeyword⟩ := hword
      have hread : scan .plain (first :: rest) = some ([], .word (first :: rest)) := by
        simp [scan, scanChar, scanPlain_of_isWordStart hfirst, scan_word_rest rest hrest]
      refine scan_append hread (scan_singleton ?_)
      simp [scanChar, hc, hkeyword, hquote, hplain]

end Scanner

section Strings

variable {tokens : List Token} {after : Scan} {c : Char} {read value : List Char}

/-- The hexadecimal escape of a character. -/
def hexEscape (c : Char) : List Char :=
  ['\\', 'u', '{'] ++ Nat.toDigits 16 c.toNat ++ ['}']

theorem hexDigit_digitChar {n : Nat} (h : n < 16) : hexDigit (Nat.digitChar n) = some n := by
  interval_cases n <;> decide

theorem digitChar_ne_brace {n : Nat} (h : n < 16) : Nat.digitChar n ≠ '}' := by
  interval_cases n <;> decide

theorem scan_digit {n value count : Nat} (hn : n < 16) (hcount : count < 6) :
    scan (.digits read value count) [Nat.digitChar n] =
      some ([], .digits read (16 * value + n) (count + 1)) := by
  apply scan_singleton
  simp [scanChar, digitChar_ne_brace hn, hexDigit_digitChar hn, hcount]

/-- The digits of a number. -/
theorem scan_digits (n : Nat) (hlength : (Nat.toDigits 16 n).length ≤ 6) :
    scan (.digits read 0 0) (Nat.toDigits 16 n) =
      some ([], .digits read n (Nat.toDigits 16 n).length) := by
  induction n using Nat.strong_induction_on with
  | _ n ih =>
      by_cases hn : n < 16
      · rw [Nat.toDigits_of_lt_base hn]
        have hone : scan (.digits read 0 0) [Nat.digitChar n] =
            some ([], .digits read (16 * 0 + n) (0 + 1)) := scan_digit hn (by decide)
        simpa using hone
      · rw [Nat.toDigits_of_base_le (by decide) (Nat.le_of_not_lt hn)] at hlength ⊢
        simp only [List.length_append, List.length_singleton] at hlength ⊢
        have hfront := ih (n / 16) (by omega) (by omega)
        have hlast : scan (.digits read (n / 16) (Nat.toDigits 16 (n / 16)).length)
            [Nat.digitChar (n % 16)] =
              some ([], .digits read n ((Nat.toDigits 16 (n / 16)).length + 1)) := by
          rw [scan_digit (Nat.mod_lt n (by decide)) (by omega), Nat.div_add_mod]
        exact scan_append hfront hlast

theorem scan_hexEscape (c : Char) :
    scan (.text read) (hexEscape c) = some ([], .text (read ++ [c])) := by
  have hlength : (Nat.toDigits 16 c.toNat).length ≤ 6 := by
    rw [Nat.length_toDigits_le_iff (by decide) (by decide)]
    have hvalid : c.toNat.isValidChar := c.valid
    unfold Nat.isValidChar at hvalid
    omega
  have hbegin : scan (.text read) ['\\', 'u', '{'] = some ([], .digits read 0 0) := by
    simp [scan, scanChar]
  have hend : scanChar (.digits read c.toNat (Nat.toDigits 16 c.toNat).length) '}' =
      some ([], .text (read ++ [c])) := by
    have hpos : 0 < (Nat.toDigits 16 c.toNat).length := Nat.length_toDigits_pos
    have hvalid : c.toNat.isValidChar := c.valid
    simp [scanChar, hpos, hvalid, Char.ofNat_toNat]
  exact scan_append (scan_append hbegin (scan_digits c.toNat hlength)) (scan_singleton hend)

/-- What an encoder may write for a character. -/
def Encodes (encoded : List Char) (c : Char) : Prop :=
  ∀ read, scan (.text read) encoded = some ([], .text (read ++ [c]))

theorem encodes_self (hquote : c ≠ '"') (hbackslash : c ≠ '\\') : Encodes [c] c := by
  intro read
  apply scan_singleton
  simp [scanChar, hquote, hbackslash]

theorem encodes_letter {letter : Char} (hunicode : letter ≠ 'u') (h : escaped letter = some c) :
    Encodes ['\\', letter] c := by
  intro read
  simp [scan, scanChar, hunicode, h]

theorem encodes_hexEscape (c : Char) : Encodes (hexEscape c) c :=
  fun _ => scan_hexEscape c

/-- A string whose characters are encoded one by one. -/
theorem scan_string {encode : Char → List Char} (hencode : ∀ c, Encodes (encode c) c)
    (value : List Char) :
    scan .plain ('"' :: value.flatMap encode ++ ['"']) = some ([.text value], .closed) := by
  have hcharacters : ∀ read, scan (.text read) (value.flatMap encode) =
      some ([], .text (read ++ value)) := by
    induction value with
    | nil => simp [scan]
    | cons c value ih =>
        intro read
        rw [List.flatMap_cons, List.append_cons]
        exact scan_append (hencode c read) (ih _)
  have hopen : scan .plain ['"'] = some ([], .text []) := by
    simp [scan, scanChar, scanPlain]
  have hclose : scanChar (.text value) '"' = some ([.text value], .closed) := by
    simp [scanChar]
  have htext := scan_append hopen (hcharacters [])
  exact scan_append htext (scan_singleton hclose)

end Strings

section Nodes

inductive Node where
  | mk (name : List Char) (arguments : List (List Char)) (children : List Node)

/-- The nodes of one block so far, and the one that is being read. -/
structure Block where
  nodes : List Node
  current : Option (List Char × List (List Char))

/-- The nodes of a block that ends here. -/
def Block.finish (block : Block) : List Node :=
  match block.current with
  | none => block.nodes
  | some (name, arguments) => block.nodes ++ [.mk name arguments []]

/-- A token, for the innermost open block first. -/
def take : List Block → Token → Option (List Block)
  | ⟨nodes, none⟩ :: outer, .word name => some (⟨nodes, some (name, [])⟩ :: outer)
  | ⟨nodes, none⟩ :: outer, .text name => some (⟨nodes, some (name, [])⟩ :: outer)
  | ⟨nodes, some (name, arguments)⟩ :: outer, .text value =>
      some (⟨nodes, some (name, arguments ++ [value])⟩ :: outer)
  | block :: outer, .terminator => some (⟨block.finish, none⟩ :: outer)
  | ⟨nodes, some current⟩ :: outer, .opening => some (⟨[], none⟩ :: ⟨nodes, some current⟩ :: outer)
  | block :: ⟨nodes, some (name, arguments)⟩ :: outer, .closing =>
      some (⟨nodes ++ [.mk name arguments block.finish], none⟩ :: outer)
  | _, _ => none

def takeAll : List Block → List Token → Option (List Block)
  | blocks, [] => some blocks
  | blocks, token :: rest => (take blocks token).bind fun blocks => takeAll blocks rest

theorem takeAll_append {blocks blocks' blocks'' : List Block} {tokens tokens' : List Token}
    (h : takeAll blocks tokens = some blocks') (h' : takeAll blocks' tokens' = some blocks'') :
    takeAll blocks (tokens ++ tokens') = some blocks'' := by
  induction tokens generalizing blocks with
  | nil =>
      obtain rfl := Option.some.inj h
      exact h'
  | cons token rest ih =>
      obtain ⟨next, hnext, hrest⟩ := Option.bind_eq_some_iff.mp h
      simp only [List.cons_append, takeAll, hnext, Option.bind_some, ih hrest]

/-- The arguments of a node. -/
theorem takeAll_arguments {nodes : List Node} {name : List Char} {outer : List Block}
    (arguments values : List (List Char)) :
    takeAll (⟨nodes, some (name, arguments)⟩ :: outer) (values.map .text) =
      some (⟨nodes, some (name, arguments ++ values)⟩ :: outer) := by
  induction values generalizing arguments with
  | nil => simp [takeAll]
  | cons value values ih => simp [takeAll, take, ih]

/-- The nodes of a text. -/
def readNodes (text : List Char) : Option (List Node) :=
  match scan .plain text with
  | some (tokens, .plain) =>
      match takeAll [⟨[], none⟩] tokens with
      | some [block] => some block.finish
      | _ => none
  | _ => none

theorem readNodes_eq {text : List Char} {tokens : List Token} {block : Block}
    (hscan : scan .plain text = some (tokens, .plain))
    (htake : takeAll [⟨[], none⟩] tokens = some [block]) :
    readNodes text = some block.finish := by
  simp [readNodes, hscan, htake]

end Nodes

end Kdl
end SleepySession
