import Mathlib.Data.List.TakeWhile
import SleepySession.Desktop.RecordingAck

/-!
# Acknowledgements in pieces

The bytes and the would-block results that a reader meets, as one sequence.  A
call consumes one line of it and judges what stands behind the last would-block
result inside of that line; what stands before it is lost.
-/

namespace SleepySession
namespace Recording

section Symbols

/-- What a read contributes: its bytes, or `none` for a read that would block. -/
def StatusRead.symbols : StatusRead → List (Option UInt8)
  | .bytes chunk => chunk.map some
  | .wouldBlock => [none]
  | _ => []

/-- A read of an open stream. -/
def StatusRead.isOpen : StatusRead → Bool
  | .bytes _ | .wouldBlock => true
  | _ => false

def StatusReader.symbols (r : StatusReader) : List (Option UInt8) :=
  r.buffer.map some ++ r.reads.flatMap StatusRead.symbols

/-- The stream is neither closed nor broken. -/
def StatusReader.Open (r : StatusReader) : Prop :=
  ∀ read ∈ r.reads, read.isOpen = true

/-- A line with the would-block results between its bytes. -/
def IsLine (symbols : List (Option UInt8)) : Prop :=
  ∃ front, symbols = front ++ [some newline] ∧ some newline ∉ front

/-- The bytes of a line. -/
def lineOf (symbols : List (Option UInt8)) : List UInt8 :=
  symbols.filterMap id

def extendRun (run : List UInt8) : Option UInt8 → List UInt8
  | none => []
  | some b => run ++ [b]

/-- The bytes behind the last would-block result. -/
def lastRun (symbols : List (Option UInt8)) : List UInt8 :=
  symbols.foldl extendRun []

/--
No would-block result stands between two bytes of the line; or neither the line
nor the part behind the last such result is the expected acknowledgement.
-/
def Unaffected (expected : RecordingStatus) (symbols : List (Option UInt8)) : Prop :=
  lastRun symbols = lineOf symbols ∨
    (acknowledges expected (lineOf symbols) = false ∧
      acknowledges expected (lastRun symbols) = false)

theorem foldl_extendRun_map (run text : List UInt8) :
    (text.map some).foldl extendRun run = run ++ text := by
  induction text generalizing run with
  | nil => simp
  | cons b text ih => simp [extendRun, ih]

theorem lastRun_map (text : List UInt8) : lastRun (text.map some) = text :=
  foldl_extendRun_map [] text

theorem lastRun_none (symbols rest : List (Option UInt8)) :
    lastRun (symbols ++ none :: rest) = lastRun rest := by
  simp [lastRun, extendRun]

/-- What is judged stands at the end of the line. -/
theorem lastRun_suffix (symbols : List (Option UInt8)) : lastRun symbols <:+ lineOf symbols := by
  have hfold : ∀ (symbols : List (Option UInt8)) (run : List UInt8),
      symbols.foldl extendRun run <:+ run ++ lineOf symbols := by
    intro symbols
    induction symbols with
    | nil => simp [lineOf]
    | cons symbol rest ih =>
        intro run
        cases symbol with
        | none => exact (ih []).trans (List.suffix_append ..)
        | some b =>
            have hrest := ih (run ++ [b])
            rwa [List.append_assoc] at hrest
  exact hfold symbols []

/-- Up to a newline or a would-block result the symbols are bytes. -/
theorem split_front {symbols : List (Option UInt8)} (h : some newline ∉ symbols) :
    ∃ text : List UInt8, newline ∉ text ∧ (symbols = text.map some ∨
      ∃ rest, symbols = text.map some ++ none :: rest ∧ some newline ∉ rest) := by
  induction symbols with
  | nil => exact ⟨[], by simp, Or.inl rfl⟩
  | cons symbol rest ih =>
      obtain ⟨hsymbol, hrest⟩ : some newline ≠ symbol ∧ some newline ∉ rest := by
        simpa using h
      cases symbol with
      | none => exact ⟨[], by simp, Or.inr ⟨rest, rfl, hrest⟩⟩
      | some b =>
          obtain ⟨text, htext, hsplit⟩ := ih hrest
          have hb : newline ≠ b := fun heq => hsymbol (congrArg some heq)
          refine ⟨b :: text, by simp [hb, htext], ?_⟩
          rcases hsplit with rfl | ⟨rest', rfl, hrest'⟩
          · exact Or.inl rfl
          · exact Or.inr ⟨rest', rfl, hrest'⟩

/-- A buffer without a newline is a part of the text before the next stop. -/
theorem front_of_buffer {buffer text : List UInt8} {symbols rest : List (Option UInt8)}
    {stop : Option UInt8} (hbuffer : newline ∉ buffer) (hstop : stop = none ∨ stop = some newline)
    (h : buffer.map some ++ symbols = text.map some ++ stop :: rest) :
    ∃ text', text = buffer ++ text' ∧ symbols = text'.map some ++ stop :: rest := by
  induction buffer generalizing text with
  | nil => exact ⟨text, rfl, h⟩
  | cons b buffer ih =>
      obtain ⟨hb, hbuffer⟩ : newline ≠ b ∧ newline ∉ buffer := by simpa using hbuffer
      cases text with
      | nil =>
          obtain ⟨hfirst, -⟩ := List.cons.inj h
          rcases hstop with rfl | rfl
          · cases hfirst
          · exact absurd (Option.some.inj hfirst).symm hb
      | cons c text =>
          obtain ⟨hfirst, hrest⟩ := List.cons.inj h
          obtain ⟨text', rfl, hsymbols⟩ := ih hbuffer hrest
          exact ⟨text', by rw [Option.some.inj hfirst, List.cons_append], hsymbols⟩

/-- A newline is the next stop. -/
theorem stop_of_newline {text : List UInt8} {symbols rest : List (Option UInt8)}
    {stop : Option UInt8} {front : List UInt8} (htext : newline ∉ front ++ text)
    (h : some newline :: symbols = text.map some ++ stop :: rest) :
    text = [] ∧ stop = some newline ∧ symbols = rest := by
  cases text with
  | nil =>
      obtain ⟨hfirst, hrest⟩ := List.cons.inj h
      exact ⟨rfl, hfirst.symm, hrest⟩
  | cons b text =>
      have hb := Option.some.inj (List.cons.inj h).1
      exact absurd (List.mem_append_right front (hb ▸ List.mem_cons_self)) htext

end Symbols

section Reading

/-- What `read_line` returns at a stop. -/
def LineRead.atStop (text : List UInt8) : Option UInt8 → LineRead
  | none => .wouldBlock text
  | some b => .line (text ++ [b])

/-- A buffer is free of newlines, or it has a first one. -/
theorem span_buffer (buffer : List UInt8) :
    newline ∉ buffer ∧ buffer.span (· ≠ newline) = (buffer, []) ∨
      ∃ front after, newline ∉ front ∧ buffer = front ++ newline :: after ∧
        buffer.span (· ≠ newline) = (front, newline :: after) := by
  induction buffer with
  | nil => exact Or.inl ⟨by simp, rfl⟩
  | cons b buffer ih =>
      rw [List.span_eq_takeWhile_dropWhile] at ih ⊢
      by_cases hb : b = newline
      · refine Or.inr ⟨[], buffer, by simp, by rw [hb, List.nil_append], ?_⟩
        simp [hb]
      · rw [List.takeWhile_cons_of_pos (by simpa using hb),
          List.dropWhile_cons_of_pos (by simpa using hb)]
        rcases ih with ⟨hfree, hspan⟩ | ⟨front, after, hfree, rfl, hspan⟩
        · obtain ⟨htake, hdrop⟩ := Prod.mk.inj hspan
          exact Or.inl ⟨by simp [hfree, Ne.symm hb], by rw [htake, hdrop]⟩
        · obtain ⟨htake, hdrop⟩ := Prod.mk.inj hspan
          exact Or.inr ⟨b :: front, after, by simp [hfree, Ne.symm hb], rfl, by rw [htake, hdrop]⟩

/-- `read_line` ends at the first newline or would-block result. -/
theorem readLineFrom_stop {line buffer text : List UInt8} {reads : List StatusRead}
    {rest : List (Option UInt8)} {stop : Option UInt8}
    (hopen : ∀ read ∈ reads, read.isOpen = true) (hstop : stop = none ∨ stop = some newline)
    (htext : newline ∉ text)
    (h : buffer.map some ++ reads.flatMap StatusRead.symbols = text.map some ++ stop :: rest) :
    ∃ r' : StatusReader, readLineFrom line buffer reads = (.atStop (line ++ text) stop, r') ∧
      r'.symbols = rest ∧ r'.Open := by
  induction reads generalizing line buffer text with
  | nil =>
      rcases span_buffer buffer with ⟨hfree, hspan⟩ | ⟨front, after, hfree, rfl, hspan⟩
      · obtain ⟨text', -, hrest⟩ := front_of_buffer hfree hstop h
        simp at hrest
      · rw [List.map_append, List.append_assoc] at h
        obtain ⟨text', rfl, hrest⟩ := front_of_buffer hfree hstop h
        obtain ⟨rfl, rfl, rfl⟩ := stop_of_newline htext hrest
        rw [readLineFrom, hspan]
        exact ⟨⟨after, []⟩, by simp [LineRead.atStop], rfl, hopen⟩
  | cons read reads ih =>
      rcases span_buffer buffer with ⟨hfree, hspan⟩ | ⟨front, after, hfree, rfl, hspan⟩
      · obtain ⟨text', rfl, hrest⟩ := front_of_buffer hfree hstop h
        have htext' : newline ∉ text' := fun hmem => htext (List.mem_append_right _ hmem)
        have hopen' : ∀ read ∈ reads, read.isOpen = true :=
          fun read hread => hopen read (List.mem_cons_of_mem _ hread)
        rw [readLineFrom, hspan]
        cases read with
        | bytes chunk =>
            rw [List.flatMap_cons] at hrest
            obtain ⟨r', hread, hsymbols, hr'⟩ := @ih (line ++ buffer) _ _ hopen' htext' hrest
            exact ⟨r', by rw [← List.append_assoc]; exact hread, hsymbols, hr'⟩
        | wouldBlock =>
            rw [List.flatMap_cons] at hrest
            cases text' with
            | nil =>
                obtain ⟨rfl, rfl⟩ := List.cons.inj hrest
                exact ⟨⟨[], reads⟩, by simp [LineRead.atStop], rfl, hopen'⟩
            | cons b text' => cases (List.cons.inj hrest).1
        | closed exited => cases hopen _ List.mem_cons_self
        | failed e => cases hopen _ List.mem_cons_self
      · rw [List.map_append, List.append_assoc] at h
        obtain ⟨text', rfl, hrest⟩ := front_of_buffer hfree hstop h
        obtain ⟨rfl, rfl, rfl⟩ := stop_of_newline htext hrest
        rw [readLineFrom, hspan]
        exact ⟨⟨after, read :: reads⟩, by simp [LineRead.atStop], rfl, hopen⟩

end Reading

section Waiting

variable {r : StatusReader} {expected : RecordingStatus}

theorem exhausted_of_symbols (h : r.symbols ≠ []) : r.exhausted = false := by
  obtain ⟨buffer, reads⟩ := r
  rw [Bool.eq_false_iff]
  intro hexhausted
  rw [StatusReader.exhausted, Bool.and_eq_true, List.isEmpty_iff, List.isEmpty_iff] at hexhausted
  obtain ⟨rfl, rfl⟩ := hexhausted
  exact h rfl

/-- One round of the loop, before the deadline. -/
theorem waitForRecordingAck_eq (hexhausted : r.exhausted ≠ true) :
    waitForRecordingAck expected r =
      match readLine r with
      | (.line text, r') => (judge expected text, r')
      | (.wouldBlock _, r') => waitForRecordingAck expected r'
      | (.closed text exited, r') =>
          if text = [] then
            match exited with
            | .error e => (.error e, r')
            | .ok true =>
                (.error ⟨.brokenPipe, "recording helper exited before acknowledgement"⟩, r')
            | .ok false => waitForRecordingAck expected r'
          else (judge expected text, r')
      | (.failed e, r') => (.error e, r') := by
  rw [waitForRecordingAck, dif_neg hexhausted]
  split
  · next hread => conv_rhs => rw [hread]
  · next hread => conv_rhs => rw [hread]
  · next text exited r' hread =>
      conv_rhs => rw [hread]
      cases text with
      | nil => rcases exited with e | _ | _ <;> rfl
      | cons c text => rfl
  · next hread => conv_rhs => rw [hread]

theorem waitForRecordingAck_of_line {r' : StatusReader} {text : List UInt8}
    (hexhausted : r.exhausted ≠ true) (hline : readLine r = (.line text, r')) :
    waitForRecordingAck expected r = (judge expected text, r') := by
  rw [waitForRecordingAck_eq hexhausted, hline]

theorem waitForRecordingAck_of_wouldBlock {r' : StatusReader} {text : List UInt8}
    (hexhausted : r.exhausted ≠ true) (hline : readLine r = (.wouldBlock text, r')) :
    waitForRecordingAck expected r = waitForRecordingAck expected r' := by
  rw [waitForRecordingAck_eq hexhausted, hline]

/-- A call consumes one line and judges what stands behind the last would-block result in it. -/
theorem waitForRecordingAck_line {front rest : List (Option UInt8)} (hopen : r.Open)
    (hfront : some newline ∉ front) (h : r.symbols = front ++ some newline :: rest) :
    ∃ r' : StatusReader, waitForRecordingAck expected r =
        (judge expected (lastRun (front ++ [some newline])), r') ∧
      r'.symbols = rest ∧ r'.Open := by
  obtain ⟨n, hn⟩ : ∃ n, front.length = n := ⟨_, rfl⟩
  induction n using Nat.strong_induction_on generalizing front r with
  | _ n ih =>
      have hexhausted : r.exhausted ≠ true := by
        rw [exhausted_of_symbols (by rw [h]; simp)]
        exact Bool.false_ne_true
      obtain ⟨text, htext, rfl | ⟨front', rfl, hfront'⟩⟩ := split_front hfront
      · obtain ⟨r', hread, hsymbols, hr'⟩ :=
          @readLineFrom_stop [] _ _ _ _ _ hopen (Or.inr rfl) htext h
        have hline : readLine r = (.line (text ++ [newline]), r') := hread
        have hrun : lastRun (text.map some ++ [some newline]) = text ++ [newline] := by
          rw [← lastRun_map (text ++ [newline]), List.map_append]
          rfl
        refine ⟨r', ?_, hsymbols, hr'⟩
        rw [hrun, waitForRecordingAck_of_line hexhausted hline]
      · rw [List.append_assoc, List.cons_append] at h
        obtain ⟨r', hread, hsymbols, hr'⟩ :=
          @readLineFrom_stop [] _ _ _ _ _ hopen (Or.inl rfl) htext h
        have hline : readLine r = (.wouldBlock text, r') := hread
        obtain ⟨r'', hnext, hrest⟩ := ih front'.length (by simp at hn; omega) hr' hfront' hsymbols rfl
        refine ⟨r'', ?_, hrest⟩
        rw [List.append_assoc, List.cons_append, lastRun_none,
          waitForRecordingAck_of_wouldBlock hexhausted hline, hnext]

theorem isOk_judge (line : List UInt8) :
    (judge expected line).isOk = acknowledges expected line := by
  unfold judge acknowledges
  cases fromUtf8 line with
  | none => rfl
  | some text =>
      dsimp only
      split_ifs with h
      · rcases h with h | h
        · simp [Except.isOk, Except.toBool, h]
        · simp [Except.isOk, Except.toBool, h]
      · rw [not_or, not_not] at h
        simp [Except.isOk, Except.toBool, h.2, Nat.le_of_not_lt h.1]

/-- Successive calls consume one line each. -/
theorem acks_lines {lines : List (List (Option UInt8))} {rest : List (Option UInt8)}
    {expectations : List RecordingStatus} (hopen : r.Open) (hlines : ∀ line ∈ lines, IsLine line)
    (h : r.symbols = lines.flatten ++ rest) (hlength : expectations.length = lines.length) :
    (acks expectations r).1 =
        List.zipWith (fun expected line => acknowledges expected (lastRun line)) expectations
          lines ∧
      (acks expectations r).2.symbols = rest := by
  induction lines generalizing r expectations with
  | nil =>
      rw [List.length_nil, List.length_eq_zero_iff] at hlength
      subst hlength
      exact ⟨rfl, by simpa [acks] using h⟩
  | cons line lines ih =>
      cases expectations with
      | nil => cases hlength
      | cons expected expectations =>
          obtain ⟨front, rfl, hfront⟩ := hlines line List.mem_cons_self
          rw [List.flatten_cons, List.append_assoc, List.append_assoc] at h
          obtain ⟨r', hwait, hsymbols, hr'⟩ :=
            @waitForRecordingAck_line _ expected _ _ hopen hfront h
          obtain ⟨hresults, hrest⟩ := ih hr'
            (fun line hline => hlines line (List.mem_cons_of_mem _ hline)) hsymbols
            (Nat.succ.inj hlength)
          rw [acks, hwait]
          refine ⟨?_, hrest⟩
          dsimp only
          rw [hresults, isOk_judge, List.zipWith_cons_cons]

end Waiting

section Cutting

/-- The first byte of an acknowledgement, `S`. -/
def firstByte : UInt8 :=
  0x53

theorem firstByte_whiteSpace {c : Char} (h : isWhiteSpace c = true) :
    firstByte ∉ String.utf8EncodeChar c := by
  have hcodes : ∀ n ∈ [9, 10, 11, 12, 13, 0x20, 0x85, 0xA0, 0x1680, 0x2000, 0x2001, 0x2002, 0x2003,
      0x2004, 0x2005, 0x2006, 0x2007, 0x2008, 0x2009, 0x200A, 0x2028, 0x2029, 0x202F, 0x205F,
      0x3000], firstByte ∉ String.utf8EncodeChar (Char.ofNat n) := by
    decide
  have hcode : c.toNat ∈ [9, 10, 11, 12, 13, 0x20, 0x85, 0xA0, 0x1680, 0x2000, 0x2001, 0x2002,
      0x2003, 0x2004, 0x2005, 0x2006, 0x2007, 0x2008, 0x2009, 0x200A, 0x2028, 0x2029, 0x202F,
      0x205F, 0x3000] := by
    simp only [isWhiteSpace, Bool.or_eq_true, Bool.and_eq_true, decide_eq_true_eq,
      beq_iff_eq] at h
    simp only [List.mem_cons, List.not_mem_nil]
    omega
  have hchar := hcodes c.toNat hcode
  rwa [Char.ofNat_toNat] at hchar

theorem firstByte_ackText (expected : RecordingStatus) :
    ∃ rest, utf8Bytes (ackText expected) = firstByte :: rest ∧ firstByte ∉ rest := by
  cases expected with
  | inactive => exact ⟨utf8Bytes "TATE inactive".toList, by decide, by decide⟩
  | recording => exact ⟨utf8Bytes "TATE recording".toList, by decide, by decide⟩
  | paused => exact ⟨utf8Bytes "TATE paused".toList, by decide, by decide⟩

/-- An acknowledgement starts with its only `S`. -/
theorem firstByte_of_acknowledges {expected : RecordingStatus} {line : List UInt8}
    (h : acknowledges expected line = true) :
    ∃ rest, line = firstByte :: rest ∧ firstByte ∉ rest := by
  unfold acknowledges at h
  cases hdecode : fromUtf8 line with
  | none =>
      rw [hdecode] at h
      cases h
  | some text =>
      simp only [hdecode, Bool.and_eq_true, beq_iff_eq] at h
      have hsplit : ackText expected ++ (text.reverse.takeWhile isWhiteSpace).reverse = text := by
        rw [← h.2, trimEndMatches, ← List.reverse_append, List.takeWhile_append_dropWhile,
          List.reverse_reverse]
      obtain ⟨rest, hack, hrest⟩ := firstByte_ackText expected
      have hline := fromUtf8_eq_some.mp hdecode
      rw [← hsplit, utf8Bytes_append, hack, List.cons_append] at hline
      refine ⟨_, hline.symm, fun hmem => ?_⟩
      rcases List.mem_append.mp hmem with hmem | hmem
      · exact hrest hmem
      · obtain ⟨c, hc, hbyte⟩ := List.mem_flatMap.mp hmem
        exact firstByte_whiteSpace (List.mem_takeWhile_imp (List.mem_reverse.mp hc)) hbyte

/-- The end of an acknowledgement is none. -/
theorem acknowledges_suffix {expected : RecordingStatus} {line run : List UInt8}
    (hsuffix : run <:+ line) (hline : acknowledges expected line = true)
    (hrun : acknowledges expected run = true) : run = line := by
  obtain ⟨front, rfl⟩ := hsuffix
  obtain ⟨rest, hbytes, hrest⟩ := firstByte_of_acknowledges hline
  obtain ⟨rest', rfl, -⟩ := firstByte_of_acknowledges hrun
  cases front with
  | nil => rfl
  | cons b front =>
      obtain ⟨-, rfl⟩ := List.cons.inj hbytes
      exact absurd (by simp) hrest

theorem unaffected_iff {expected : RecordingStatus} {symbols : List (Option UInt8)} :
    acknowledges expected (lastRun symbols) = acknowledges expected (lineOf symbols) ↔
      Unaffected expected symbols := by
  constructor
  · intro h
    cases hline : acknowledges expected (lineOf symbols) with
    | false => exact Or.inr ⟨hline, h.trans hline⟩
    | true => exact Or.inl (acknowledges_suffix (lastRun_suffix symbols) hline (h.trans hline))
  · rintro (h | ⟨hline, hrun⟩)
    · rw [h]
    · rw [hline, hrun]

theorem zipWith_eq_iff {lines : List (List (Option UInt8))}
    {expectations : List RecordingStatus} :
    List.zipWith (fun expected line => acknowledges expected (lastRun line)) expectations lines =
        List.zipWith (fun expected line => acknowledges expected (lineOf line)) expectations
          lines ↔
      ∀ call ∈ expectations.zip lines, Unaffected call.1 call.2 := by
  induction lines generalizing expectations with
  | nil => simp
  | cons line lines ih =>
      cases expectations with
      | nil => simp
      | cons expected expectations =>
          rw [List.zipWith_cons_cons, List.zipWith_cons_cons, List.cons.injEq, ih, unaffected_iff,
            List.zip_cons_cons, List.forall_mem_cons]

/--
Successive calls consume one line each, and they accept exactly the expected
lines if and only if no acknowledgement is cut by a would-block result and no
line ends, behind such a result, in one.
-/
theorem acks_exact_iff {r : StatusReader} {lines : List (List (Option UInt8))}
    {rest : List (Option UInt8)} {expectations : List RecordingStatus} (hopen : r.Open)
    (hlines : ∀ line ∈ lines, IsLine line) (h : r.symbols = lines.flatten ++ rest)
    (hlength : expectations.length = lines.length) :
    (acks expectations r).2.symbols = rest ∧
      ((acks expectations r).1 =
          List.zipWith (fun expected line => acknowledges expected (lineOf line)) expectations
            lines ↔
        ∀ call ∈ expectations.zip lines, Unaffected call.1 call.2) := by
  obtain ⟨hresults, hrest⟩ := acks_lines hopen hlines h hlength
  exact ⟨hrest, by rw [hresults, zipWith_eq_iff]⟩

end Cutting

section Sample

/-- `STATE recording`, and a line break. -/
def recordingLine : List UInt8 :=
  [0x53, 0x54, 0x41, 0x54, 0x45, 0x20, 0x72, 0x65, 0x63, 0x6F, 0x72, 0x64, 0x69, 0x6E, 0x67, 10]

/-- A line in two reads, with a would-block result before it, is accepted. -/
theorem acks_exact_waiting :
    (acks [.recording] ⟨[], [.wouldBlock, .bytes (recordingLine.take 5),
      .bytes (recordingLine.drop 5)]⟩).1 = [true] := by
  have hexact := @acks_exact_iff ⟨[], [.wouldBlock, .bytes (recordingLine.take 5),
      .bytes (recordingLine.drop 5)]⟩ [none :: recordingLine.map some] [] [.recording]
    (by simp [StatusReader.Open, StatusRead.isOpen])
    (by simpa using ⟨none :: (recordingLine.take 15).map some, by decide, by decide⟩)
    (by decide) rfl
  refine (hexact.2.mpr ?_).trans (by decide)
  intro call hcall
  obtain rfl := List.mem_singleton.mp hcall
  exact Or.inl (by decide)

/-- Cut by a would-block result, the expected line is refused. -/
theorem cut_line_refused :
    ¬ ∀ (r : StatusReader) (lines : List (List (Option UInt8))) (rest : List (Option UInt8))
      (expectations : List RecordingStatus), r.Open → (∀ line ∈ lines, IsLine line) →
      r.symbols = lines.flatten ++ rest → expectations.length = lines.length →
      (acks expectations r).1 =
        List.zipWith (fun expected line => acknowledges expected (lineOf line)) expectations
          lines := by
  intro h
  have hopen : StatusReader.Open ⟨[], [.bytes (recordingLine.take 5), .wouldBlock,
      .bytes (recordingLine.drop 5)]⟩ := by
    simp [StatusReader.Open, StatusRead.isOpen]
  have hline : ∀ line ∈ [(recordingLine.take 5).map some ++ none ::
      (recordingLine.drop 5).map some], IsLine line := by
    simpa using ⟨(recordingLine.take 5).map some ++ none ::
      ((recordingLine.drop 5).take 10).map some, by decide, by decide⟩
  have hresult := h _ _ [] [.recording] hopen hline (by decide) rfl
  rw [(@acks_lines _ _ [] _ hopen hline (by decide) rfl).1] at hresult
  exact absurd hresult (by decide)

end Sample

end Recording
end SleepySession
