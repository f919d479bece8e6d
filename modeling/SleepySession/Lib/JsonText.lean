import Mathlib.Data.Bool.AllAny
import Mathlib.Tactic

/-!
# Texts of JSON

The grammar of JSON over bytes, with a bound on the nesting of its arrays and
objects, and the scan that finds where an open bracket is closed: it counts the
brackets outside strings.  Over a text of the grammar the scan succeeds exactly
when the nesting keeps to the limit, and it ends where it began.
-/

namespace SleepySession
namespace JsonText

section Bytes

def quote : UInt8 := '"'.toUInt8

def backslash : UInt8 := '\\'.toUInt8

def comma : UInt8 := ','.toUInt8

def colon : UInt8 := ':'.toUInt8

def openArray : UInt8 := '['.toUInt8

def closeArray : UInt8 := ']'.toUInt8

def openObject : UInt8 := '{'.toUInt8

def closeObject : UInt8 := '}'.toUInt8

def opens (b : UInt8) : Bool :=
  b == openArray || b == openObject

def closes (b : UInt8) : Bool :=
  b == closeArray || b == closeObject

/-- The bytes of a text in ASCII. -/
def ascii (text : String) : List UInt8 :=
  text.toList.map Char.toUInt8

def isBlank (b : UInt8) : Bool :=
  b ∈ ascii " \t\n\x0d"

def isDigit (b : UInt8) : Bool :=
  b ∈ ascii "0123456789"

def isHexDigit (b : UInt8) : Bool :=
  b ∈ ascii "0123456789abcdefABCDEF"

end Bytes

section Grammar

/-- White space between the tokens. -/
def Blank (bs : List UInt8) : Prop :=
  ∀ b ∈ bs, isBlank b = true

def Digits (bs : List UInt8) : Prop :=
  bs ≠ [] ∧ ∀ b ∈ bs, isDigit b = true

def Fraction (bs : List UInt8) : Prop :=
  bs = [] ∨ ∃ ds, Digits ds ∧ bs = ascii "." ++ ds

def Exponent (bs : List UInt8) : Prop :=
  bs = [] ∨ ∃ e sign ds, e ∈ ["e", "E"] ∧ sign ∈ ["", "+", "-"] ∧ Digits ds ∧
    bs = ascii e ++ ascii sign ++ ds

/-- A number has no leading zero. -/
def Number (bs : List UInt8) : Prop :=
  ∃ sign int frac exp, sign ∈ ["", "-"] ∧ Digits int ∧
    (int.head? = some '0'.toUInt8 → int.length = 1) ∧ Fraction frac ∧ Exponent exp ∧
    bs = ascii sign ++ int ++ frac ++ exp

/-- What stands between the quotes of a string. -/
inductive Characters : List UInt8 → Prop where
  | done : Characters []
  | plain {b : UInt8} {bs : List UInt8} (hcontrol : 32 ≤ b) (hquote : b ≠ quote)
      (hbackslash : b ≠ backslash) (rest : Characters bs) : Characters (b :: bs)
  | escape {b : UInt8} {bs : List UInt8} (hb : b ∈ ascii "\"\\/bfnrt") (rest : Characters bs) :
      Characters (backslash :: b :: bs)
  | unicode {digits bs : List UInt8} (hlength : digits.length = 4)
      (hdigits : ∀ b ∈ digits, isHexDigit b = true) (rest : Characters bs) :
      Characters (backslash :: 'u'.toUInt8 :: (digits ++ bs))

def Quoted (bs : List UInt8) : Prop :=
  ∃ chars, Characters chars ∧ bs = quote :: (chars ++ [quote])

theorem quoted_of_plain {chars : List UInt8}
    (h : ∀ b ∈ chars, 32 ≤ b ∧ b ≠ quote ∧ b ≠ backslash) :
    Quoted (quote :: (chars ++ [quote])) := by
  refine ⟨chars, ?_, rfl⟩
  induction chars with
  | nil => exact .done
  | cons b chars ih =>
      obtain ⟨⟨hcontrol, hquote, hbackslash⟩, hrest⟩ := List.forall_mem_cons.mp h
      exact .plain hcontrol hquote hbackslash (ih hrest)

inductive Part where
  | value
  | elements
  | members

/-- The texts of a value, and of what stands between its brackets, in which at
most `n` brackets are open at once. -/
inductive Text : Part → Nat → List UInt8 → Prop where
  | literal {n : Nat} {word : String} (hword : word ∈ ["null", "true", "false"]) :
      Text .value n (ascii word)
  | number {n : Nat} {bs : List UInt8} (hnumber : Number bs) : Text .value n bs
  | string {n : Nat} {bs : List UInt8} (hquoted : Quoted bs) : Text .value n bs
  | emptyArray {n : Nat} {bs : List UInt8} (hblank : Blank bs) :
      Text .value (n + 1) (openArray :: (bs ++ [closeArray]))
  | array {n : Nat} {bs : List UInt8} (elements : Text .elements n bs) :
      Text .value (n + 1) (openArray :: (bs ++ [closeArray]))
  | emptyObject {n : Nat} {bs : List UInt8} (hblank : Blank bs) :
      Text .value (n + 1) (openObject :: (bs ++ [closeObject]))
  | object {n : Nat} {bs : List UInt8} (members : Text .members n bs) :
      Text .value (n + 1) (openObject :: (bs ++ [closeObject]))
  | element {n : Nat} {before v after : List UInt8} (hbefore : Blank before)
      (value : Text .value n v) (hafter : Blank after) :
      Text .elements n (before ++ (v ++ after))
  | elements {n : Nat} {before v after bs : List UInt8} (hbefore : Blank before)
      (value : Text .value n v) (hafter : Blank after) (rest : Text .elements n bs) :
      Text .elements n (before ++ (v ++ (after ++ (comma :: bs))))
  | member {n : Nat} {before key middle before' v after : List UInt8}
      (hbefore : Blank before) (hkey : Quoted key) (hmiddle : Blank middle)
      (hbefore' : Blank before') (value : Text .value n v) (hafter : Blank after) :
      Text .members n (before ++ (key ++ (middle ++ (colon :: (before' ++ (v ++ after))))))
  | members {n : Nat} {before key middle before' v after bs : List UInt8}
      (hbefore : Blank before) (hkey : Quoted key) (hmiddle : Blank middle)
      (hbefore' : Blank before') (value : Text .value n v) (hafter : Blank after)
      (rest : Text .members n bs) :
      Text .members n
        (before ++ (key ++ (middle ++ (colon :: (before' ++ (v ++ (after ++ (comma :: bs))))))))

/-- A value with the white space around it. -/
def Document (bs : List UInt8) : Prop :=
  ∃ before v after n, Blank before ∧ Text .value n v ∧ Blank after ∧ bs = before ++ (v ++ after)

/-- The text of an array, in which at most `n` brackets are open at once. -/
def ArrayText (n : Nat) (bs : List UInt8) : Prop :=
  Text .value n bs ∧ bs.head? = some openArray

end Grammar

section Scanning

/-- The scan inside an open bracket; `escaped` is meant inside a string only. -/
structure Scan where
  depth : Nat
  quoted : Bool
  escaped : Bool
deriving DecidableEq

namespace Scan

/-- Outside strings, with `depth` brackets open. -/
def outside (depth : Nat) : Scan :=
  ⟨depth, false, false⟩

/-- One byte; nothing where it opens one bracket too many or closes the last. -/
def step (limit : Nat) (s : Scan) (b : UInt8) : Option Scan :=
  if s.quoted then
    if s.escaped then some { s with escaped := false }
    else if b = backslash then some { s with escaped := true }
    else if b = quote then some { s with quoted := false }
    else some s
  else if b = quote then some { s with quoted := true }
  else if opens b then
    if s.depth + 1 ≤ limit then some { s with depth := s.depth + 1 } else none
  else if closes b then
    if s.depth ≤ 1 then none else some { s with depth := s.depth - 1 }
  else some s

theorem step_mk {limit depth : Nat} {quoted escaped : Bool} {b : UInt8} :
    step limit ⟨depth, quoted, escaped⟩ b =
      if quoted then
        if escaped then some ⟨depth, quoted, false⟩
        else if b = backslash then some ⟨depth, quoted, true⟩
        else if b = quote then some ⟨depth, false, escaped⟩
        else some ⟨depth, quoted, escaped⟩
      else if b = quote then some ⟨depth, true, escaped⟩
      else if opens b then
        if depth + 1 ≤ limit then some ⟨depth + 1, quoted, escaped⟩ else none
      else if closes b then
        if depth ≤ 1 then none else some ⟨depth - 1, quoted, escaped⟩
      else some ⟨depth, quoted, escaped⟩ :=
  rfl

end Scan

def scan (limit : Nat) (s : Scan) (bs : List UInt8) : Option Scan :=
  bs.foldlM (Scan.step limit) s

variable {limit depth : Nat} {s s' : Scan} {b : UInt8} {bs bs' : List UInt8}

@[simp] theorem scan_nil : scan limit s [] = some s :=
  rfl

@[simp] theorem scan_cons : scan limit s (b :: bs) = (s.step limit b).bind (scan limit · bs) :=
  rfl

theorem scan_append : scan limit s (bs ++ bs') = (scan limit s bs).bind (scan limit · bs') :=
  List.foldlM_append

/-- Text after which the scan goes on where it began. -/
theorem scan_append_of_stays (h : scan limit s bs = some s) :
    scan limit s (bs ++ bs') = scan limit s bs' := by
  rw [scan_append, h]
  rfl

/-- A bracket is open, and only in a string a byte is escaped. -/
def Scan.Inside (s : Scan) : Prop :=
  1 ≤ s.depth ∧ (s.quoted = false → s.escaped = false)

theorem Scan.Inside.step (h : s.Inside) (hstep : s.step limit b = some s') : s'.Inside := by
  obtain ⟨depth, quoted, escaped⟩ := s
  obtain ⟨hdepth, hescaped⟩ := h
  change 1 ≤ depth at hdepth
  rw [Scan.step_mk] at hstep
  split_ifs at hstep with hquoted hback hslash hquote <;> cases hstep
  all_goals refine ⟨by simp only; omega, ?_⟩
  all_goals simp_all

theorem Scan.Inside.scan (h : s.Inside) (hscan : scan limit s bs = some s') : s'.Inside := by
  induction bs generalizing s with
  | nil =>
      cases hscan
      exact h
  | cons b bs ih =>
      obtain ⟨next, hstep, hrest⟩ := Option.bind_eq_some_iff.mp hscan
      exact ih (h.step hstep) hrest

def isPlain (b : UInt8) : Bool :=
  !(b == quote || opens b || closes b)

theorem scan_plain (h : ∀ b ∈ bs, isPlain b = true) :
    scan limit (.outside depth) bs = some (.outside depth) := by
  induction bs with
  | nil => rfl
  | cons b bs ih =>
      have hb : Scan.step limit (.outside depth) b = some (.outside depth) := by
        have hplain := h b List.mem_cons_self
        simp only [isPlain, Bool.not_eq_true', Bool.or_eq_false_iff, beq_eq_false_iff_ne] at hplain
        simp [Scan.step, Scan.outside, hplain.1.1, hplain.1.2, hplain.2]
      rw [scan_cons, hb]
      exact ih fun b' hb' => h b' (List.mem_cons_of_mem _ hb')

section Leaves

theorem all_plain {allowed : List UInt8} (hallowed : ∀ b ∈ allowed, isPlain b = true)
    (h : ∀ b ∈ bs, b ∈ allowed) : ∀ b ∈ bs, isPlain b = true :=
  fun b hb => hallowed b (h b hb)

theorem Blank.plain (h : Blank bs) : ∀ b ∈ bs, isPlain b = true :=
  @all_plain _ (ascii " \t\n\x0d") (List.all_iff_forall_prop.mp (by decide)) fun b hb => by
    simpa [isBlank] using h b hb

theorem Digits.plain (h : Digits bs) : ∀ b ∈ bs, isPlain b = true :=
  @all_plain _ (ascii "0123456789") (List.all_iff_forall_prop.mp (by decide)) fun b hb => by
    simpa [isDigit] using h.2 b hb

theorem Fraction.plain (h : Fraction bs) : ∀ b ∈ bs, isPlain b = true := by
  rcases h with rfl | ⟨ds, hds, rfl⟩
  · simp
  · rw [List.forall_mem_append]
    exact ⟨List.all_iff_forall_prop.mp (by decide), hds.plain⟩

theorem Exponent.plain (h : Exponent bs) : ∀ b ∈ bs, isPlain b = true := by
  rcases h with rfl | ⟨e, sign, ds, he, hsign, hds, rfl⟩
  · simp
  · have hmarks : ∀ e ∈ ["e", "E"], (ascii e).all isPlain = true := by decide
    have hsigns : ∀ sign ∈ ["", "+", "-"], (ascii sign).all isPlain = true := by decide
    have hmark := List.all_eq_true.mp (hmarks e he)
    have hsign := List.all_eq_true.mp (hsigns sign hsign)
    simp only [List.forall_mem_append]
    exact ⟨⟨hmark, hsign⟩, hds.plain⟩

theorem Number.plain (h : Number bs) : ∀ b ∈ bs, isPlain b = true := by
  obtain ⟨sign, int, frac, exp, hsign, hint, -, hfrac, hexp, rfl⟩ := h
  have hsigns : ∀ sign ∈ ["", "-"], (ascii sign).all isPlain = true := by decide
  simp only [List.forall_mem_append]
  exact ⟨⟨⟨List.all_eq_true.mp (hsigns sign hsign), hint.plain⟩, hfrac.plain⟩, hexp.plain⟩

theorem literal_plain {word : String} (h : word ∈ ["null", "true", "false"]) :
    ∀ b ∈ ascii word, isPlain b = true := by
  have hwords : ∀ word ∈ ["null", "true", "false"], (ascii word).all isPlain = true := by
    decide
  exact List.all_eq_true.mp (hwords word h)

/-- Bytes that neither end a string nor escape what follows. -/
theorem scan_within (h : ∀ b ∈ bs, b ≠ quote ∧ b ≠ backslash) :
    scan limit ⟨depth, true, false⟩ bs = some ⟨depth, true, false⟩ := by
  induction bs with
  | nil => rfl
  | cons b bs ih =>
      obtain ⟨hquote, hbackslash⟩ := h b List.mem_cons_self
      have hb : Scan.step limit ⟨depth, true, false⟩ b = some ⟨depth, true, false⟩ := by
        simp [Scan.step, hquote, hbackslash]
      rw [scan_cons, hb]
      exact ih fun b' hb' => h b' (List.mem_cons_of_mem _ hb')

/-- A backslash with the byte behind it. -/
theorem scan_escape :
    scan limit ⟨depth, true, false⟩ (backslash :: b :: bs) =
      scan limit ⟨depth, true, false⟩ bs := by
  have hback : Scan.step limit ⟨depth, true, false⟩ backslash = some ⟨depth, true, true⟩ := rfl
  have hbyte : Scan.step limit ⟨depth, true, true⟩ b = some ⟨depth, true, false⟩ := rfl
  rw [scan_cons, hback, Option.bind_some, scan_cons, hbyte]
  rfl

theorem Characters.scan (h : Characters bs) :
    scan limit ⟨depth, true, false⟩ bs = some ⟨depth, true, false⟩ := by
  induction h with
  | done => rfl
  | @plain b bs _ hquote hbackslash _ ih =>
      have hb : JsonText.scan limit ⟨depth, true, false⟩ [b] = some ⟨depth, true, false⟩ :=
        scan_within fun b' hb' => by
          rw [List.mem_singleton.mp hb']
          exact ⟨hquote, hbackslash⟩
      rw [← List.singleton_append, scan_append_of_stays hb, ih]
  | escape _ _ ih => rw [scan_escape, ih]
  | @unicode digits bs _ hdigits _ ih =>
      have hhex : ∀ b ∈ ascii "0123456789abcdefABCDEF", b ≠ quote ∧ b ≠ backslash :=
        List.all_iff_forall_prop.mp (by decide)
      have hrun : JsonText.scan limit ⟨depth, true, false⟩ digits = some ⟨depth, true, false⟩ :=
        scan_within fun b hb => hhex b (by simpa [isHexDigit] using hdigits b hb)
      rw [scan_escape, scan_append_of_stays hrun, ih]

theorem Quoted.scan (h : Quoted bs) :
    scan limit (.outside depth) bs = some (.outside depth) := by
  obtain ⟨chars, hchars, rfl⟩ := h
  have hbegin : Scan.step limit (.outside depth) quote = some ⟨depth, true, false⟩ := rfl
  have hfinish : Scan.step limit ⟨depth, true, false⟩ quote = some (.outside depth) := rfl
  rw [scan_cons, hbegin, Option.bind_some, scan_append_of_stays hchars.scan, scan_cons, hfinish]
  rfl

end Leaves

section Nesting

theorem Blank.scan (h : Blank bs) : scan limit (.outside depth) bs = some (.outside depth) :=
  scan_plain h.plain

theorem scan_separator (h : isPlain b = true) :
    scan limit (.outside depth) (b :: bs) = scan limit (.outside depth) bs := by
  have hb : scan limit (.outside depth) [b] = some (.outside depth) :=
    scan_plain fun b' hb' => by rwa [List.mem_singleton.mp hb']
  rw [← List.singleton_append, scan_append_of_stays hb]

theorem step_opens (h : opens b = true) :
    Scan.step limit (.outside depth) b =
      if depth + 1 ≤ limit then some (.outside (depth + 1)) else none := by
  have hquote : b ≠ quote := by
    rintro rfl
    exact absurd h (by decide)
  simp [Scan.outside, Scan.step_mk, hquote, h]

theorem step_closes (h : closes b = true) :
    Scan.step limit (.outside depth) b =
      if depth ≤ 1 then none else some (.outside (depth - 1)) := by
  have hquote : b ≠ quote := by
    rintro rfl
    exact absurd h (by decide)
  have hopens : opens b = false := by
    rcases Bool.or_eq_true _ _ ▸ h with hb | hb <;>
      · rw [eq_of_beq hb]
        decide
  simp [Scan.outside, Scan.step_mk, hquote, h, hopens]

theorem scan_brackets {o c : UInt8} (ho : opens o = true) (hc : closes c = true)
    (hdepth : 1 ≤ depth) (hlimit : depth + 1 ≤ limit)
    (h : scan limit (.outside (depth + 1)) bs = some (.outside (depth + 1))) :
    scan limit (.outside depth) (o :: (bs ++ [c])) = some (.outside depth) := by
  have hopen : depth + 1 ≤ limit := hlimit
  have hclose : ¬ depth + 1 ≤ 1 := by omega
  rw [scan_cons, step_opens ho, if_pos hopen, Option.bind_some, scan_append_of_stays h,
    scan_cons, step_closes hc, if_neg hclose]
  rfl

theorem scan_brackets_inv {o c : UInt8} (ho : opens o = true) (hc : closes c = true)
    (hdepth : 1 ≤ depth) (h : scan limit (.outside depth) (o :: (bs ++ [c])) = some s)
    (hinner : ∀ s, scan limit (.outside (depth + 1)) bs = some s → s = .outside (depth + 1)) :
    depth + 1 ≤ limit ∧ scan limit (.outside (depth + 1)) bs = some (.outside (depth + 1)) ∧
      s = .outside depth := by
  rw [scan_cons, step_opens ho] at h
  by_cases hlimit : depth + 1 ≤ limit
  · rw [if_pos hlimit, Option.bind_some, scan_append] at h
    obtain ⟨inner, hscan, hlast⟩ := Option.bind_eq_some_iff.mp h
    obtain rfl := hinner inner hscan
    have hclose : ¬ depth + 1 ≤ 1 := by omega
    rw [scan_cons, step_closes hc, if_neg hclose] at hlast
    exact ⟨hlimit, hscan, (Option.some.inj hlast).symm⟩
  · rw [if_neg hlimit] at h
    cases h

/-- A key in front of a value. -/
theorem scan_key {before key middle : List UInt8} (hbefore : Blank before) (hkey : Quoted key)
    (hmiddle : Blank middle) :
    scan limit (.outside depth) (before ++ (key ++ (middle ++ (colon :: bs)))) =
      scan limit (.outside depth) bs := by
  rw [scan_append_of_stays hbefore.scan, scan_append_of_stays hkey.scan,
    scan_append_of_stays hmiddle.scan, scan_separator (by decide)]

/-- The scan goes through every text that keeps to the limit. -/
theorem Text.scan {part : Part} {n : Nat} (h : Text part n bs) (hdepth : 1 ≤ depth)
    (hlimit : depth + n ≤ limit) :
    scan limit (.outside depth) bs = some (.outside depth) := by
  induction h generalizing depth with
  | literal hword => exact scan_plain (literal_plain hword)
  | number hnumber => exact scan_plain hnumber.plain
  | string hquoted => exact hquoted.scan
  | emptyArray hblank | emptyObject hblank =>
      exact scan_brackets rfl rfl hdepth (by omega) hblank.scan
  | array _ ih | object _ ih =>
      exact scan_brackets rfl rfl hdepth (by omega) (ih (by omega) (by omega))
  | element hbefore _ hafter ih =>
      rw [scan_append_of_stays hbefore.scan, scan_append_of_stays (ih hdepth hlimit), hafter.scan]
  | elements hbefore _ hafter _ ih ihrest =>
      rw [scan_append_of_stays hbefore.scan, scan_append_of_stays (ih hdepth hlimit),
        scan_append_of_stays hafter.scan, scan_separator (by decide), ihrest hdepth hlimit]
  | member hbefore hkey hmiddle hbefore' _ hafter ih =>
      rw [scan_key hbefore hkey hmiddle, scan_append_of_stays hbefore'.scan,
        scan_append_of_stays (ih hdepth hlimit), hafter.scan]
  | members hbefore hkey hmiddle hbefore' _ hafter _ ih ihrest =>
      rw [scan_key hbefore hkey hmiddle, scan_append_of_stays hbefore'.scan,
        scan_append_of_stays (ih hdepth hlimit),
        scan_append_of_stays hafter.scan, scan_separator (by decide), ihrest hdepth hlimit]

/-- A text through which the scan goes keeps to the limit. -/
theorem Text.within_limit {part : Part} {n : Nat} (h : Text part n bs) (hdepth : 1 ≤ depth)
    (hscan : JsonText.scan limit (.outside depth) bs = some s) :
    s = .outside depth ∧ Text part (limit - depth) bs := by
  induction h generalizing depth s with
  | literal hword =>
      rw [scan_plain (literal_plain hword)] at hscan
      exact ⟨(Option.some.inj hscan).symm, .literal hword⟩
  | number hnumber =>
      rw [scan_plain hnumber.plain] at hscan
      exact ⟨(Option.some.inj hscan).symm, .number hnumber⟩
  | string hquoted =>
      rw [hquoted.scan] at hscan
      exact ⟨(Option.some.inj hscan).symm, .string hquoted⟩
  | emptyArray hblank =>
      obtain ⟨hlimit, -, rfl⟩ := scan_brackets_inv rfl rfl hdepth hscan fun s h => by
        rw [hblank.scan] at h
        exact (Option.some.inj h).symm
      obtain ⟨n, hn⟩ : ∃ n, limit - depth = n + 1 := ⟨limit - depth - 1, by omega⟩
      exact ⟨rfl, hn ▸ .emptyArray hblank⟩
  | emptyObject hblank =>
      obtain ⟨hlimit, -, rfl⟩ := scan_brackets_inv rfl rfl hdepth hscan fun s h => by
        rw [hblank.scan] at h
        exact (Option.some.inj h).symm
      obtain ⟨n, hn⟩ : ∃ n, limit - depth = n + 1 := ⟨limit - depth - 1, by omega⟩
      exact ⟨rfl, hn ▸ .emptyObject hblank⟩
  | array _ ih =>
      obtain ⟨hlimit, hinner, rfl⟩ := scan_brackets_inv rfl rfl hdepth hscan fun s h =>
        (ih (by omega) h).1
      have helements := (ih (by omega) hinner).2
      have hn : limit - depth = limit - (depth + 1) + 1 := by omega
      exact ⟨rfl, hn ▸ .array helements⟩
  | object _ ih =>
      obtain ⟨hlimit, hinner, rfl⟩ := scan_brackets_inv rfl rfl hdepth hscan fun s h =>
        (ih (by omega) h).1
      have hmembers := (ih (by omega) hinner).2
      have hn : limit - depth = limit - (depth + 1) + 1 := by omega
      exact ⟨rfl, hn ▸ .object hmembers⟩
  | element hbefore _ hafter ih =>
      rw [scan_append_of_stays hbefore.scan, scan_append] at hscan
      obtain ⟨mid, hvalue, hrest⟩ := Option.bind_eq_some_iff.mp hscan
      obtain ⟨rfl, htext⟩ := ih hdepth hvalue
      rw [hafter.scan] at hrest
      exact ⟨(Option.some.inj hrest).symm, .element hbefore htext hafter⟩
  | elements hbefore _ hafter _ ih ihrest =>
      rw [scan_append_of_stays hbefore.scan, scan_append] at hscan
      obtain ⟨mid, hvalue, hrest⟩ := Option.bind_eq_some_iff.mp hscan
      obtain ⟨rfl, htext⟩ := ih hdepth hvalue
      rw [scan_append_of_stays hafter.scan, scan_separator (by decide)] at hrest
      obtain ⟨rfl, hmore⟩ := ihrest hdepth hrest
      exact ⟨rfl, .elements hbefore htext hafter hmore⟩
  | member hbefore hkey hmiddle hbefore' _ hafter ih =>
      rw [scan_key hbefore hkey hmiddle, scan_append_of_stays hbefore'.scan, scan_append] at hscan
      obtain ⟨mid, hvalue, hrest⟩ := Option.bind_eq_some_iff.mp hscan
      obtain ⟨rfl, htext⟩ := ih hdepth hvalue
      rw [hafter.scan] at hrest
      exact ⟨(Option.some.inj hrest).symm, .member hbefore hkey hmiddle hbefore' htext hafter⟩
  | members hbefore hkey hmiddle hbefore' _ hafter _ ih ihrest =>
      rw [scan_key hbefore hkey hmiddle, scan_append_of_stays hbefore'.scan, scan_append] at hscan
      obtain ⟨mid, hvalue, hrest⟩ := Option.bind_eq_some_iff.mp hscan
      obtain ⟨rfl, htext⟩ := ih hdepth hvalue
      rw [scan_append_of_stays hafter.scan, scan_separator (by decide)] at hrest
      obtain ⟨rfl, hmore⟩ := ihrest hdepth hrest
      exact ⟨rfl, .members hbefore hkey hmiddle hbefore' htext hafter hmore⟩

end Nesting

section Arrays

theorem not_head_of_plain (h : ∀ b ∈ bs, isPlain b = true) : bs.head? ≠ some openArray := by
  intro hhead
  exact absurd (h openArray (List.mem_of_head? hhead)) (by decide)

theorem Text.array_inv {n : Nat} (h : Text .value n bs) (hhead : bs.head? = some openArray) :
    ∃ inner m, n = m + 1 ∧ bs = openArray :: (inner ++ [closeArray]) ∧
      (Blank inner ∨ Text .elements m inner) := by
  cases h with
  | literal hword => exact absurd hhead (not_head_of_plain (literal_plain hword))
  | number hnumber => exact absurd hhead (not_head_of_plain hnumber.plain)
  | string hquoted =>
      obtain ⟨chars, -, rfl⟩ := hquoted
      exact absurd hhead (by simp; decide)
  | emptyArray hblank => exact ⟨_, _, rfl, rfl, Or.inl hblank⟩
  | array elements => exact ⟨_, _, rfl, rfl, Or.inr elements⟩
  | emptyObject | object => exact absurd hhead (by simp; decide)

/-- Where the bracket that begins an array is closed. -/
theorem ArrayText.scan (h : ArrayText limit bs) :
    ∃ inner, bs = openArray :: (inner ++ [closeArray]) ∧
      JsonText.scan limit (.outside 1) inner = some (.outside 1) := by
  obtain ⟨inner, m, rfl, rfl, hblank | helements⟩ := h.1.array_inv h.2
  · exact ⟨inner, rfl, hblank.scan⟩
  · exact ⟨inner, rfl, helements.scan le_rfl (by omega)⟩

theorem Document.value {c : UInt8} (h : Document (openArray :: (bs ++ [c]))) (hc : closes c = true) :
    ∃ n, Text .value n (openArray :: (bs ++ [c])) := by
  obtain ⟨before, v, after, n, hbefore, hv, hafter, heq⟩ := h
  have hnone : before = [] := by
    cases before with
    | nil => rfl
    | cons b before =>
        have hb : openArray = b := (List.cons.inj heq).1
        exact absurd (hbefore b List.mem_cons_self) (by rw [← hb]; decide)
  have hlast : after = [] := by
    cases after using List.reverseRecOn with
    | nil => rfl
    | append_singleton after b _ =>
        have hb : c = b := by
          rw [← List.cons_append, ← List.append_assoc, ← List.append_assoc] at heq
          exact (List.append_singleton_inj.mp heq).2
        have hblank : isBlank c = true := hb ▸ hafter b (by simp)
        rcases Bool.or_eq_true _ _ ▸ hc with h | h <;>
          · rw [eq_of_beq h] at hblank
            exact absurd hblank (by decide)
  rw [hnone, hlast, List.nil_append, List.append_nil] at heq
  exact ⟨n, heq ▸ hv⟩

/-- An array that the scan finds closed keeps to the limit. -/
theorem ArrayText.of_scan {c : UInt8} (h : Document (openArray :: (bs ++ [c])))
    (hc : closes c = true) (hlimit : 1 ≤ limit)
    (hscan : JsonText.scan limit (.outside 1) bs = some s) :
    ArrayText limit (openArray :: (bs ++ [c])) := by
  obtain ⟨n, htext⟩ := h.value hc
  obtain ⟨inner, m, -, heq, hinner⟩ := htext.array_inv rfl
  obtain ⟨rfl, hcloses⟩ := List.append_singleton_inj.mp (List.cons.inj heq).2
  obtain ⟨k, rfl⟩ : ∃ k, limit = k + 1 := ⟨limit - 1, by omega⟩
  rw [hcloses]
  rcases hinner with hblank | helements
  · exact ⟨.emptyArray hblank, rfl⟩
  · exact ⟨.array (helements.within_limit le_rfl hscan).2, rfl⟩

/-- The bytes with which a text can begin. -/
def begins (b : UInt8) : Bool :=
  isBlank b || isDigit b || b ∈ ascii "-\"[\x7bntf"

theorem blank_append_begins (h : Blank bs) (h' : ∃ b, bs'.head? = some b ∧ begins b = true) :
    ∃ b, (bs ++ bs').head? = some b ∧ begins b = true := by
  cases bs with
  | nil => exact h'
  | cons b bs => exact ⟨b, rfl, by simp [begins, h b List.mem_cons_self]⟩

theorem Number.begins (h : Number bs) : ∃ b, bs.head? = some b ∧ JsonText.begins b = true := by
  obtain ⟨sign, int, frac, exp, hsign, ⟨hint, hdigits⟩, -, -, -, rfl⟩ := h
  obtain ⟨d, ds, rfl⟩ := List.exists_cons_of_ne_nil hint
  rcases List.mem_pair.mp hsign with rfl | rfl
  · exact ⟨d, rfl, by simp [JsonText.begins, hdigits d List.mem_cons_self]⟩
  · exact ⟨_, rfl, by decide⟩

theorem Text.begins {part : Part} {n : Nat} (h : Text part n bs) :
    ∃ b, bs.head? = some b ∧ JsonText.begins b = true := by
  induction h with
  | literal hword =>
      have hwords : ∀ word ∈ ["null", "true", "false"],
          ∃ b, (ascii word).head? = some b ∧ JsonText.begins b = true := by
        intro word hword
        fin_cases hword <;> exact ⟨_, rfl, by decide⟩
      exact hwords _ hword
  | number hnumber => exact hnumber.begins
  | string hquoted =>
      obtain ⟨chars, -, rfl⟩ := hquoted
      exact ⟨quote, rfl, by decide⟩
  | emptyArray | array => exact ⟨openArray, rfl, by decide⟩
  | emptyObject | object => exact ⟨openObject, rfl, by decide⟩
  | element hbefore _ _ ih | elements hbefore _ _ _ ih =>
      obtain ⟨b, hhead, hb⟩ := ih
      exact blank_append_begins hbefore ⟨b, by rw [List.head?_append, hhead]; rfl, hb⟩
  | member hbefore hkey | members hbefore hkey =>
      obtain ⟨chars, -, rfl⟩ := hkey
      exact blank_append_begins hbefore ⟨quote, rfl, by decide⟩

end Arrays

end Scanning

end JsonText
end SleepySession
