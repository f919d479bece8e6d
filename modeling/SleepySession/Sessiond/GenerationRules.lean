import SleepySession.Sessiond.Generations
import SleepySession.Store.PlainReplacement

/-!
# What the calls of an allocator do

The number that is written is read back.  A reservation that is cut off leaves
the old or the new number in the file, and the allocator as it was; a call that
is not refused, of an allocator with a block left, has no failure.
-/

namespace SleepySession
namespace Sessiond

open Program

section Encoding

variable {n : Nat}

theorem isAsciiDigit_of_isDigit {c : Char} (h : c.isDigit = true) : isAsciiDigit c = true := by
  simp only [Char.isDigit, Bool.and_eq_true, decide_eq_true_eq, UInt32.le_iff_toNat_le] at h
  simpa [isAsciiDigit] using h

theorem digits_of_decimalText {c : Char} (h : c ∈ decimalText n) : isAsciiDigit c = true :=
  isAsciiDigit_of_isDigit (Nat.isDigit_of_mem_toDigits (by decide) (by decide) h)

theorem isWhiteSpace_digit {c : Char} (h : isAsciiDigit c = true) : isWhiteSpace c = false := by
  simp only [isAsciiDigit, Bool.and_eq_true, decide_eq_true_eq] at h
  obtain ⟨hlow, hhigh⟩ := h
  simp only [isWhiteSpace, Bool.or_eq_false_iff, Bool.and_eq_false_iff, decide_eq_false_iff_not,
    beq_eq_false_iff_ne]
  omega

theorem digitsValue_decimalText : digitsValue (decimalText n) = n := by
  have hfold : digitsValue (decimalText n) = Nat.ofDigitChars 10 (decimalText n) 0 := by
    rw [Nat.ofDigitChars_eq_foldl]
    rfl
  rw [hfold]
  exact Nat.ofDigitChars_ten_toDigits

theorem parseUnsigned_digits {bound : Nat} (h : n < bound) :
    parseUnsigned bound (decimalText n) = some n := by
  have hplus : (decimalText n).head? ≠ some '+' := by
    intro hhead
    exact absurd (digits_of_decimalText (List.mem_of_mem_head? hhead)) (by decide)
  have hdigits : (decimalText n).all isAsciiDigit = true :=
    List.all_eq_true.mpr fun c hc => digits_of_decimalText hc
  unfold parseUnsigned
  rw [if_neg hplus]
  simp only
  rw [digitsValue_decimalText, if_pos ⟨Nat.toDigits_ne_nil, hdigits, h⟩]

/-- Trimming a line takes off its end. -/
theorem trimText_line {text : Text} (h : ∀ c ∈ text, isWhiteSpace c = false) :
    trimText (text ++ ['\n']) = text := by
  unfold trimText trimEndMatches trimStartMatches
  cases text with
  | nil => decide
  | cons c rest =>
      have hfirst := h c List.mem_cons_self
      rw [List.cons_append, List.dropWhile_cons_of_neg (by simp [hfirst]), ← List.cons_append,
        List.reverse_append, List.reverse_singleton, List.singleton_append,
        List.dropWhile_cons_of_pos (by decide)]
      rcases hreverse : (c :: rest).reverse with _ | ⟨last, before⟩
      · simp at hreverse
      · have hlast : last ∈ c :: rest := by
          rw [← List.mem_reverse, hreverse]
          exact List.mem_cons_self
        rw [List.dropWhile_cons_of_neg (by simp [h last hlast]), ← hreverse, List.reverse_reverse]

theorem length_utf8Bytes {text : Text} (h : ∀ c ∈ text, c.val ≤ 127) :
    (utf8Bytes text).length = text.length := by
  induction text with
  | nil => rfl
  | cons c text ih =>
      rw [utf8Bytes_cons, List.length_append, ih fun d hd => h d (List.mem_cons_of_mem _ hd),
        String.length_utf8EncodeChar, Char.utf8Size_eq_one_iff.mpr (h c List.mem_cons_self),
        List.length_cons, Nat.add_comm]

theorem length_generationBytes (h : n < 2 ^ 64) : (generationBytes n).length ≤ 64 := by
  unfold generationBytes
  rw [length_utf8Bytes, List.length_append]
  · have hlength : (decimalText n).length ≤ 20 :=
      (Nat.length_toDigits_le_iff (by decide) (by decide)).mpr (by omega)
    simpa using by omega
  · intro c hc
    rcases List.mem_append.mp hc with hdigit | hnewline
    · have hascii := digits_of_decimalText hdigit
      simp only [isAsciiDigit, Bool.and_eq_true, decide_eq_true_eq] at hascii
      rw [UInt32.le_iff_toNat_le]
      exact hascii.2.trans (by decide)
    · obtain rfl := List.mem_singleton.mp hnewline
      decide

/-- What a reservation writes is read back. -/
theorem parseGeneration_generationBytes (hpositive : 0 < n) (h : n < 2 ^ 64) :
    parseGeneration (generationBytes n) = .ok n := by
  have htrim : trimText (decimalText n ++ ['\n']) = decimalText n :=
    trimText_line fun c hc => isWhiteSpace_digit (digits_of_decimalText hc)
  unfold parseGeneration
  rw [if_neg (Nat.not_lt.mpr (length_generationBytes h)), generationBytes, fromUtf8_utf8Bytes,
    Option.bind_some, htrim, parseUnsigned_digits h]
  exact if_neg (Nat.ne_of_gt hpositive)

end Encoding

section File

/-- The entry of the state file. -/
def generationCell (files : GenerationFiles) : Cell (List UInt8) :=
  files () (.named .state)

/-- The first free number that a reader of the file finds. -/
def foundNext : Option (List UInt8) → Option Nat
  | none => some 1
  | some bytes => (parseGeneration bytes).toOption

/-- Whatever the file may show is at least `floor`. -/
def FileAbove (floor : Nat) (files : GenerationFiles) : Prop :=
  ∀ content ∈ (generationCell files).values, ∀ n, foundNext content = some n → floor ≤ n

/-- Whatever the file may show can be read. -/
def Readable (files : GenerationFiles) : Prop :=
  ∀ content ∈ (generationCell files).values, (foundNext content).isSome = true

/-- The number behind a block that starts where the file says. -/
def BlockFrom (files : GenerationFiles) (blockSize start finish : Nat) : Prop :=
  foundNext (generationCell files).current = some start ∧
    checkedAdd start blockSize = some finish

/-- What an attempt to reserve a block may have left in the file. -/
def Written (blockSize : Nat) (files files' : GenerationFiles) : Prop :=
  (generationCell files).Shrinks (generationCell files') ∨
    ∃ start finish, BlockFrom files blockSize start finish ∧
      (generationCell files).Wrote (some (generationBytes finish)) (generationCell files')

/-- A block was reserved durably. -/
def Reserved (state state' : Allocation) : Prop :=
  ∃ start finish, BlockFrom state.directory state.self.blockSize start finish ∧
    state'.self = { state.self with next := start, «end» := finish } ∧
    generationCell state'.directory = Cell.settled (some (generationBytes finish))

variable {files files' : GenerationFiles} {state state' : Allocation}
variable {blockSize start finish floor : Nat}

theorem parseGeneration_pos {bytes : List UInt8} {n : Nat} (h : parseGeneration bytes = .ok n) :
    0 < n := by
  unfold parseGeneration at h
  split at h
  · cases h
  · split at h
    · cases h
    · split at h
      · cases h
      · next hne =>
          cases h
          exact Nat.pos_of_ne_zero hne

theorem foundNext_some {bytes : List UInt8} {n : Nat} :
    foundNext (some bytes) = some n ↔ parseGeneration bytes = .ok n := by
  simp only [foundNext]
  cases parseGeneration bytes with
  | error e => simp [Except.toOption]
  | ok m => simp [Except.toOption]

theorem foundNext_pos {content : Option (List UInt8)} {n : Nat} (h : foundNext content = some n) :
    0 < n := by
  cases content with
  | none =>
      cases h
      exact Nat.one_pos
  | some bytes => exact parseGeneration_pos (foundNext_some.mp h)

theorem checkedAdd_eq_some {a b c : Nat} :
    checkedAdd a b = some c ↔ a + b = c ∧ c < 2 ^ 64 := by
  unfold checkedAdd
  split
  · simp only [Option.some.injEq]
    omega
  · simp only [reduceCtorEq, false_iff]
    omega

theorem BlockFrom.bounds (h : BlockFrom files blockSize start finish) :
    0 < start ∧ start ≤ finish ∧ finish < 2 ^ 64 := by
  obtain ⟨hfound, hadd⟩ := h
  obtain ⟨hsum, hbound⟩ := checkedAdd_eq_some.mp hadd
  exact ⟨foundNext_pos hfound, by omega, hbound⟩

theorem BlockFrom.above (h : BlockFrom files blockSize start finish) (habove : FileAbove floor files) :
    floor ≤ start :=
  habove _ (Cell.current_mem_values _) _ h.1

/-- The number behind a block is found again. -/
theorem BlockFrom.found (h : BlockFrom files blockSize start finish) :
    foundNext (some (generationBytes finish)) = some finish := by
  obtain ⟨hpositive, hle, hbound⟩ := h.bounds
  exact foundNext_some.mpr (parseGeneration_generationBytes (by omega) hbound)

/-- An attempt, however it ends, leaves the file above what it was above before. -/
theorem Written.above (h : Written blockSize files files') (habove : FileAbove floor files) :
    FileAbove floor files' := by
  rcases h with hshrinks | ⟨start, finish, hblock, hwrote⟩
  · exact fun content hmem => habove content (hshrinks.values_subset hmem)
  · intro content hmem n hn
    rcases hwrote.2.2 content hmem with rfl | hold
    · rw [hblock.found] at hn
      obtain rfl := Option.some.inj hn
      exact (hblock.above habove).trans hblock.bounds.2.1
    · exact habove content hold n hn

theorem Written.readable (h : Written blockSize files files') (hreadable : Readable files) :
    Readable files' := by
  rcases h with hshrinks | ⟨start, finish, hblock, hwrote⟩
  · exact fun content hmem => hreadable content (hshrinks.values_subset hmem)
  · intro content hmem
    rcases hwrote.2.2 content hmem with rfl | hold
    · rw [hblock.found]
      rfl
    · exact hreadable content hold

theorem Written.refl (blockSize : Nat) (files : GenerationFiles) : Written blockSize files files :=
  Or.inl (Cell.Shrinks.refl _)

theorem values_settled {x : Option (List UInt8)} : (Cell.settled x).values = [x] :=
  rfl

theorem Reserved.written (h : Reserved state state') :
    Written state.self.blockSize state.directory state'.directory := by
  obtain ⟨start, finish, hblock, -, hcell⟩ := h
  refine Or.inr ⟨start, finish, hblock, ?_⟩
  rw [hcell]
  exact ⟨rfl, rfl, fun y hy => Or.inl (by simpa [Cell.settled, Cell.values] using hy)⟩

theorem Reserved.above_end (h : Reserved state state') :
    FileAbove state'.self.end state'.directory := by
  obtain ⟨start, finish, hblock, hself, hcell⟩ := h
  intro content hmem n hn
  rw [hcell, values_settled, List.mem_singleton] at hmem
  subst hmem
  rw [hblock.found] at hn
  obtain rfl := Option.some.inj hn
  rw [hself]

theorem Reserved.readable (h : Reserved state state') : Readable state'.directory := by
  obtain ⟨start, finish, hblock, -, hcell⟩ := h
  intro content hmem
  rw [hcell, values_settled, List.mem_singleton] at hmem
  subst hmem
  rw [hblock.found]
  rfl

end File

section Programs

variable {A : Answer GenerationFile (List UInt8) → Prop} {α β : Type}
variable {controlled withCommit : Bool} {files : GenerationFiles} {state : Allocation}

/-- The program changes nothing, however it ends. -/
def Quiet (A : Answer GenerationFile (List UInt8) → Prop) (m : GenerationDisk α) : Prop :=
  ∀ (Q : Post GenerationFiles IoError α) (files : GenerationFiles),
    (∀ a, Q.ok a files) → (∀ e, Q.error e files) → Q.crashed files → m.wp A Q files

theorem quiet_onStore {m : Disk Unit GenerationFile (List UInt8) α} (h : SecureDir.Silent A m) :
    Quiet A (onStore m) := by
  intro Q files hok herror hcrash
  unfold onStore
  rw [wp_mapError]
  exact h _ files ⟨fun e _ => herror _, hcrash⟩ hok

theorem silent_syscall : SecureDir.Silent A
    (SecureDir.syscall : Disk Unit GenerationFile (List UInt8) Unit) :=
  fun _ _ hcut hok => SecureDir.wp_syscall hcut (hok ())

theorem silent_validateFile : SecureDir.Silent A
    (SecureDir.validateFileIfPresent () (.named .state) :
      Disk Unit GenerationFile (List UInt8) Unit) := by
  intro Q files hcut hok
  unfold SecureDir.validateFileIfPresent
  rw [wp_bind]
  exact SecureDir.wp_openRegularOptional hcut (hok ())

theorem silent_isCancelled : SecureDir.Silent A (isCancelled controlled) := by
  intro Q files hcut hok
  cases controlled with
  | false => exact hok false
  | true => exact ⟨hcut.2, fun a _ => hok _⟩

theorem silent_beginCommit : SecureDir.Silent A (beginCommit withCommit) := by
  intro Q files hcut hok
  cases withCommit with
  | false => exact hok false
  | true =>
      refine ⟨hcut.2, fun a _ => ?_⟩
      cases a with
      | mk fault text uuid torn listing accepted available =>
          cases fault with
          | proceed => exact hok _
          | refuse => exact hcut.1 _ (Failure.interrupts_io text)
          | fail => exact hcut.1 _ (Failure.interrupts_io text)
          | crash => exact hcut.2

theorem silent_beforeRename : SecureDir.Silent A (beforeRename controlled withCommit) := by
  intro Q files hcut hok
  unfold beforeRename
  rw [wp_bind]
  refine silent_isCancelled _ files ⟨hcut.1, hcut.2⟩ fun cancelled => ?_
  cases cancelled with
  | true => exact hcut.1 _ (Failure.interrupts_io _)
  | false => exact silent_beginCommit Q files hcut hok

theorem quiet_osCall : Quiet A osCall := by
  intro Q files hok herror hcrash
  unfold osCall
  rw [wp_mapError]
  exact SecureDir.wp_syscall ⟨fun e _ => herror _, hcrash⟩ (hok ())

theorem quiet_ensureNotCancelled : Quiet A (ensureNotCancelled controlled) := by
  intro Q files hok herror hcrash
  unfold ensureNotCancelled
  rw [wp_bind]
  refine quiet_onStore silent_isCancelled _ files (fun cancelled => ?_) herror hcrash
  cases cancelled with
  | true => exact herror _
  | false => exact hok ()

theorem quiet_validatePrivateFile : Quiet A validatePrivateFile := by
  intro Q files hok herror hcrash
  refine ⟨hcrash, fun a _ => ?_⟩
  cases a with
  | mk fault text uuid torn listing accepted available =>
      cases fault with
      | proceed => exact hok ()
      | refuse => exact herror _
      | fail => exact herror _
      | crash => exact hcrash

theorem quiet_lockExclusive : Quiet A (lockExclusive controlled) := by
  intro Q files hok herror hcrash
  unfold lockExclusive
  rw [wp_bind]
  exact quiet_ensureNotCancelled _ files
    (fun _ => quiet_osCall Q files hok herror hcrash) herror hcrash

theorem wp_uncommittedError {e : Failure} {Q : Post GenerationFiles IoError α}
    (herror : ∀ e, Q.error e files) (hcrash : Q.crashed files) :
    (uncommittedError controlled e).wp A Q files := by
  unfold uncommittedError
  rw [wp_bind]
  exact quiet_onStore silent_isCancelled _ files (fun _ => herror _) herror hcrash

theorem quiet_commitGuard : Quiet A GenerationAllocator.commitGuard := by
  intro Q files hok herror hcrash
  unfold GenerationAllocator.commitGuard
  rw [wp_mapError]
  exact silent_beginCommit _ files ⟨fun e _ => herror _, hcrash⟩ hok

/-- The number that is read is the one the file shows. -/
theorem wp_readNext {Q : Post GenerationFiles IoError Nat}
    (hok : ∀ start, foundNext (generationCell files).current = some start → Q.ok start files)
    (herror : ∀ e, Q.error e files) (hcrash : Q.crashed files) : readNext.wp A Q files := by
  unfold readNext onStore
  rw [wp_bind, wp_mapError]
  refine SecureDir.wp_readOptional ⟨fun e _ => herror _, hcrash⟩ ?_
  unfold generationCell at hok
  cases hcontent : (files () (.named .state)).current with
  | none =>
      rw [hcontent] at hok
      exact hok 1 rfl
  | some bytes =>
      rw [hcontent] at hok
      simp only [wp_orThrow]
      exact ⟨fun start hstart => hok start (foundNext_some.mpr hstart), fun e _ => herror e⟩

/-- A replacement that is cut off shows the old or the new content. -/
theorem wp_atomicWriteWhile {bytes : List UInt8} :
    (atomicWriteWhile controlled withCommit bytes).wp A
      ⟨fun _ files' => generationCell files' = Cell.settled (some bytes),
        fun _ files' => (generationCell files).Shrinks (generationCell files') ∨
          (generationCell files).Wrote (some bytes) (generationCell files'),
        fun files' => (generationCell files).Shrinks (generationCell files') ∨
          (generationCell files).Wrote (some bytes) (generationCell files')⟩ files := by
  unfold atomicWriteWhile onStore
  simp only [wp_bind, wp_mapError, wp_attempt]
  refine SecureDir.wp_stageFile silent_beforeRename ?_ ?_
  · intro files' hkeeps
    have hsame : (generationCell files).Shrinks (generationCell files') :=
      hkeeps.shrinks (by simp)
    refine ⟨fun e _ => ?_, Or.inl hsame⟩
    exact wp_uncommittedError (fun _ => Or.inl hsame) (Or.inl hsame)
  · intro uuid guard files' hstaged
    refine SecureDir.wp_commitFile SecureDir.Silent.pure SecureDir.Silent.pure hstaged ?_ ?_
    · intro files'' htouched
      exact ⟨fun e _ => htouched.2, htouched.2⟩
    · intro files'' hreplaced
      exact hreplaced.2

namespace GenerationAllocator

theorem wp_onDirectory (m : GenerationDisk α) (Q : Post Allocation IoError α) :
    (onDirectory m).wp A Q state ↔
      m.wp A
        ⟨fun a files => Q.ok a { state with directory := files },
          fun e files => Q.error e { state with directory := files },
          fun files => Q.crashed { state with directory := files }⟩ state.directory :=
  wp_zoom_field m Q state

theorem wp_quiet {m : GenerationDisk α} (h : Quiet A m) {Q : Post Allocation IoError α}
    (hok : ∀ a, Q.ok a state) (herror : ∀ e, Q.error e state) (hcrash : Q.crashed state) :
    (onDirectory m).wp A Q state := by
  rw [wp_onDirectory]
  exact h _ _ hok herror hcrash

/-- The allocator is as before, and the file is that of an attempt. -/
def Attempted (state state' : Allocation) : Prop :=
  state'.self = state.self ∧
    Written state.self.blockSize state.directory state'.directory

theorem Attempted.refl (state : Allocation) : Attempted state state :=
  ⟨rfl, Written.refl _ _⟩

/-- The specification of a reservation. -/
theorem wp_reserveBlockWith {Q : Post Allocation IoError Bool}
    (hok : ∀ guard state', Reserved state state' → Q.ok guard state')
    (herror : ∀ e state', Attempted state state' ∨ Reserved state state' → Q.error e state')
    (hcrash : ∀ state', Written state.self.blockSize state.directory state'.directory →
      Q.crashed state') :
    (reserveBlockWith controlled withCommit).wp A Q state := by
  have hstop : ∀ e, Q.error e state := fun e => herror e state (Or.inl (Attempted.refl state))
  have hdead : Q.crashed state := hcrash state (Written.refl _ _)
  unfold reserveBlockWith
  simp only [wp_bind]
  refine wp_quiet (quiet_onStore silent_syscall) (fun _ => ?_) hstop hdead
  refine wp_quiet quiet_validatePrivateFile (fun _ => ?_) hstop hdead
  refine wp_quiet quiet_lockExclusive (fun _ => ?_) hstop hdead
  refine wp_quiet quiet_ensureNotCancelled (fun _ => ?_) hstop hdead
  refine wp_quiet (quiet_onStore silent_validateFile) (fun _ => ?_) hstop hdead
  refine (wp_onDirectory _ _).mpr ?_
  refine wp_readNext (fun start hstart => ?_) hstop hdead
  simp only [wp_get]
  cases hadd : checkedAdd start state.self.blockSize with
  | none => exact hstop _
  | some finish =>
      have hblock : BlockFrom state.directory state.self.blockSize start finish := ⟨hstart, hadd⟩
      have hwritten : ∀ files', (generationCell state.directory).Shrinks (generationCell files') ∨
          (generationCell state.directory).Wrote (some (generationBytes finish))
            (generationCell files') → Written state.self.blockSize state.directory files' :=
        fun files' h => h.imp_right fun hwrote => ⟨start, finish, hblock, hwrote⟩
      simp only [wp_bind]
      refine wp_quiet quiet_ensureNotCancelled (fun _ => ?_) hstop hdead
      refine (wp_onDirectory _ _).mpr (wp_mono ?_ ?_ ?_ wp_atomicWriteWhile)
      · intro guard files' hcell
        simp only [wp_modify]
        have hreserved : Reserved state ⟨files', { state.self with next := start, «end» := finish }⟩ :=
          ⟨start, finish, hblock, rfl, hcell⟩
        exact wp_quiet quiet_osCall (fun _ => hok guard _ hreserved)
          (fun e => herror e _ (Or.inr hreserved)) (hcrash _ hreserved.written)
      · exact fun e files' h => herror e _ (Or.inl ⟨rfl, hwritten files' h⟩)
      · exact fun files' h => hcrash _ (hwritten files' h)

/-- The calls that hand out a generation; `next_after` makes one call a round. -/
inductive Call where
  | next
  | nextWhile
  | nextWithCommit
  | afterRound (floor : Nat)
deriving DecidableEq, Repr

def Call.program : Call → AllocatorProgram (Option Nat)
  | .next => nextGeneration >>= fun generation => pure (some generation)
  | .nextWhile => nextGenerationWhile true >>= fun generation => pure (some generation)
  | .nextWithCommit => nextGenerationWithCommit >>= fun result => pure (some result.1)
  | .afterRound floor => nextAfterRound floor

/-- What the result of a call has to exceed. -/
def Call.floor : Call → Option Nat
  | .afterRound floor => some floor
  | _ => none

/-- The allocator at a place of its own block. -/
def standingAt (state : Allocation) (n : Nat) : Allocation :=
  { state with self := { state.self with next := n } }

/-- The allocator with a number left, if need be in a new block. -/
def Stocked (state state' : Allocation) : Prop :=
  (state' = state ∧ state.self.next ≠ state.self.end) ∨
    (Reserved state state' ∧ state.self.next = state.self.end)

/-- How a call may end from an allocator that stands in its block. -/
def takePost (state : Allocation) : Post Allocation IoError Nat where
  ok generation state' :=
    ∃ stocked, Stocked state stocked ∧ generation = stocked.self.next ∧
      state' = standingAt stocked (generation + 1)
  error _ state' := Attempted state state' ∨ Reserved state state'
  crashed state' := Written state.self.blockSize state.directory state'.directory

theorem wp_takeNext {stocked : Allocation} (h : Stocked state stocked) :
    takeNext.wp A (takePost state) stocked := by
  unfold takeNext
  simp only [wp_bind, wp_get]
  cases hadd : checkedAdd stocked.self.next 1 with
  | none =>
      rcases h with ⟨rfl, -⟩ | ⟨hreserved, -⟩
      · exact Or.inl (Attempted.refl stocked)
      · exact Or.inr hreserved
  | some next =>
      obtain ⟨rfl, -⟩ := checkedAdd_eq_some.mp hadd
      simp only [wp_bind, wp_modify]
      exact ⟨stocked, h, rfl, rfl⟩

theorem wp_nextGenerationWhile :
    (nextGenerationWhile controlled).wp A (takePost state) state := by
  have hstop : ∀ e, (takePost state).error e state := fun _ => Or.inl (Attempted.refl state)
  have hdead : (takePost state).crashed state := Written.refl _ _
  unfold nextGenerationWhile
  rw [wp_bind]
  refine wp_quiet quiet_ensureNotCancelled (fun _ => ?_) hstop hdead
  simp only [wp_bind, wp_get]
  by_cases hend : state.self.next = state.self.end
  · rw [if_pos hend, wp_bind]
    refine wp_reserveBlockWith (fun _ state' hreserved => ?_) (fun _ _ h => h) fun _ h => h
    exact wp_takeNext (Or.inr ⟨hreserved, hend⟩)
  · rw [if_neg hend, wp_bind]
    refine wp_quiet quiet_ensureNotCancelled (fun _ => ?_) hstop hdead
    exact wp_takeNext (Or.inl ⟨rfl, hend⟩)

theorem wp_nextGenerationWithCommit :
    nextGenerationWithCommit.wp A
      ⟨fun result => (takePost state).ok result.1, (takePost state).error,
        (takePost state).crashed⟩ state := by
  have hstop : ∀ e, (takePost state).error e state := fun _ => Or.inl (Attempted.refl state)
  have hdead : (takePost state).crashed state := Written.refl _ _
  unfold nextGenerationWithCommit
  rw [wp_bind]
  refine wp_quiet quiet_ensureNotCancelled (fun _ => ?_) hstop hdead
  simp only [wp_bind, wp_get]
  by_cases hend : state.self.next = state.self.end
  · rw [if_pos hend, wp_bind]
    refine wp_reserveBlockWith (fun _ state' hreserved => ?_) (fun _ _ h => h) fun _ h => h
    simp only [wp_bind]
    exact wp_takeNext (Or.inr ⟨hreserved, hend⟩)
  · rw [if_neg hend, wp_bind]
    refine wp_quiet quiet_commitGuard (fun _ => ?_) hstop hdead
    simp only [wp_bind]
    exact wp_takeNext (Or.inl ⟨rfl, hend⟩)

/-- The allocator at the place from which a call goes on: its own, or behind the floor. -/
def Placed (call : Call) (state placed : Allocation) : Prop :=
  ∃ n, state.self.next ≤ n ∧ (n = state.self.next ∨ n ≤ state.self.end) ∧
    (∀ floor ∈ call.floor, floor < n) ∧ placed = standingAt state n

/-- How a call may end. -/
def callPost (call : Call) (state : Allocation) : Post Allocation IoError (Option Nat) where
  ok result state' :=
    match result with
    | some generation => ∃ placed, Placed call state placed ∧
        (takePost placed).ok generation state'
    | none => (∃ floor ∈ call.floor, state.self.end ≤ floor) ∧ Reserved state state'
  error e state' :=
    Attempted state state' ∨ Reserved state state' ∨
      ∃ placed, Placed call state placed ∧ (takePost placed).error e state'
  crashed state' := Written state.self.blockSize state.directory state'.directory

theorem placed_refl {call : Call} (h : call.floor = none) (state : Allocation) :
    Placed call state state :=
  ⟨state.self.next, le_rfl, Or.inl rfl, by simp [h], rfl⟩

/-- A call returns what was taken from the place where it goes on. -/
theorem wp_callPost {call : Call} {placed : Allocation} (hplaced : Placed call state placed)
    {σ : Type} {m : AllocatorProgram σ} {f : σ → Nat}
    (h : m.wp A ⟨fun result => (takePost placed).ok (f result), (takePost placed).error,
      (takePost placed).crashed⟩ placed) :
    (m >>= fun result => pure (some (f result))).wp A (callPost call state) placed := by
  rw [wp_bind]
  refine wp_mono ?_ ?_ ?_ h
  · exact fun _ _ htaken => ⟨placed, hplaced, htaken⟩
  · exact fun _ _ hfailed => Or.inr (Or.inr ⟨placed, hplaced, hfailed⟩)
  · obtain ⟨n, -, -, -, rfl⟩ := hplaced
    exact fun _ hwritten => hwritten

/-- The specification of the calls. -/
theorem wp_call (call : Call) : call.program.wp A (callPost call state) state := by
  cases call with
  | next => exact wp_callPost (placed_refl rfl state) wp_nextGenerationWhile
  | nextWhile => exact wp_callPost (placed_refl rfl state) wp_nextGenerationWhile
  | nextWithCommit => exact wp_callPost (placed_refl rfl state) wp_nextGenerationWithCommit
  | afterRound floor =>
      unfold Call.program nextAfterRound
      simp only [wp_bind, wp_get]
      by_cases hround : state.self.end ≤ floor
      · rw [if_pos hround]
        unfold reserveBlock
        simp only [wp_bind]
        exact wp_reserveBlockWith (fun _ _ h => ⟨⟨floor, rfl, hround⟩, h⟩)
          (fun _ _ h => h.imp_right Or.inl) fun _ h => h
      · rw [if_neg hround]
        have hfinish : ∀ placed, Placed (.afterRound floor) state placed →
            (nextGeneration >>= fun generation => pure (some generation) :
              AllocatorProgram (Option Nat)).wp A (callPost (.afterRound floor) state) placed :=
          fun placed hplaced => wp_callPost hplaced wp_nextGenerationWhile
        by_cases hskip : state.self.next ≤ floor
        · rw [if_pos hskip]
          cases hadd : checkedAdd floor 1 with
          | none => exact Or.inl (Attempted.refl state)
          | some next =>
              obtain ⟨rfl, -⟩ := checkedAdd_eq_some.mp hadd
              rw [wp_bind, wp_modify]
              exact hfinish _ ⟨floor + 1, by omega, Or.inr (by omega), by simp [Call.floor], rfl⟩
        · rw [if_neg hskip]
          exact hfinish _ ⟨state.self.next, le_rfl, Or.inl rfl, by
            simpa [Call.floor] using by omega, rfl⟩

/-- The specification of `open`. -/
theorem wp_open :
    GenerationAllocator.open.wp A
      ⟨fun _ state' => 0 < state.self.blockSize ∧ Reserved state state',
        fun _ state' => Written state.self.blockSize state.directory state'.directory,
        fun state' => Written state.self.blockSize state.directory state'.directory⟩ state := by
  have hstop : Written state.self.blockSize state.directory state.directory := Written.refl _ _
  unfold GenerationAllocator.open
  simp only [wp_bind, wp_get]
  by_cases hzero : state.self.blockSize = 0
  · rw [if_pos hzero]
    exact hstop
  · rw [if_neg hzero, wp_bind]
    refine wp_quiet (quiet_onStore silent_syscall) (fun _ => ?_) (fun _ => hstop) hstop
    simp only [wp_bind]
    refine wp_quiet (quiet_onStore silent_validateFile) (fun _ => ?_) (fun _ => hstop) hstop
    unfold reserveBlock
    simp only [wp_bind]
    refine wp_reserveBlockWith (fun _ _ h => ⟨Nat.pos_of_ne_zero hzero, h⟩)
      (fun _ state' h => ?_) fun _ h => h
    rcases h with ⟨-, hwritten⟩ | hreserved
    · exact hwritten
    · exact hreserved.written

end GenerationAllocator

section Willing

/-- The environment refuses nothing, cancels nothing and leaves the name of a temporary file free. -/
def Helpful (files : GenerationFiles) (a : Answer GenerationFile (List UInt8)) : Prop :=
  (a.fault = .proceed ∨ a.fault = .crash) ∧ a.accepted = true ∧
    (files () (.temporary .state a.uuid)).current = none

/-- The program changes nothing and has no failure. -/
def Steady (A : Answer GenerationFile (List UInt8) → Prop) (m : GenerationDisk α) : Prop :=
  ∀ (Q : Post GenerationFiles IoError α) (files : GenerationFiles),
    (∀ a, Q.ok a files) → Q.crashed files → m.wp A Q files

variable {v : GenerationFiles}

theorem willing_helpful : SecureDir.Willing (Helpful v) :=
  fun _ h => h.1

theorem steady_syscall :
    Steady (Helpful v) (onStore (SecureDir.syscall : Disk Unit GenerationFile _ Unit)) := by
  intro Q files hok hcrash
  unfold onStore
  rw [wp_mapError]
  exact SecureDir.wp_syscall_willing willing_helpful hcrash (hok ())

theorem steady_osCall : Steady (Helpful v) osCall := by
  intro Q files hok hcrash
  unfold osCall
  rw [wp_mapError]
  exact SecureDir.wp_syscall_willing willing_helpful hcrash (hok ())

theorem steady_validateFile : Steady (Helpful v)
    (onStore (SecureDir.validateFileIfPresent () (.named .state))) := by
  intro Q files hok hcrash
  unfold onStore SecureDir.validateFileIfPresent
  rw [wp_mapError, wp_bind]
  exact SecureDir.wp_openRegularOptional_willing willing_helpful hcrash (hok ())

/-- Nobody cancels. -/
theorem wp_isCancelled {Q : Post GenerationFiles Failure Bool} {files : GenerationFiles}
    (hok : Q.ok false files) (hcrash : Q.crashed files) :
    (isCancelled controlled).wp (Helpful v) Q files := by
  cases controlled with
  | false => exact hok
  | true =>
      refine ⟨hcrash, fun a ha => ?_⟩
      simp only [andThen, wp_pure, ha.2.1, Bool.not_true]
      exact hok

theorem steady_ensureNotCancelled : Steady (Helpful v) (ensureNotCancelled controlled) := by
  intro Q files hok hcrash
  unfold ensureNotCancelled onStore
  rw [wp_bind, wp_mapError]
  exact wp_isCancelled (hok ()) hcrash

theorem steady_validatePrivateFile : Steady (Helpful v) validatePrivateFile := by
  intro Q files hok hcrash
  refine ⟨hcrash, fun a ha => ?_⟩
  cases a with
  | mk fault text uuid torn listing accepted available =>
      rcases ha.1 with rfl | rfl
      · exact hok ()
      · exact hcrash

theorem steady_lockExclusive : Steady (Helpful v) (lockExclusive controlled) := by
  intro Q files hok hcrash
  unfold lockExclusive
  rw [wp_bind]
  exact steady_ensureNotCancelled _ files (fun _ => steady_osCall Q files hok hcrash) hcrash

theorem wp_beginCommit {Q : Post GenerationFiles Failure Bool} {files : GenerationFiles}
    (hok : ∀ guard, Q.ok guard files) (hcrash : Q.crashed files) :
    (beginCommit withCommit).wp (Helpful v) Q files := by
  cases withCommit with
  | false => exact hok false
  | true =>
      refine ⟨hcrash, fun a ha => ?_⟩
      cases a with
      | mk fault text uuid torn listing accepted available =>
          rcases ha.1 with rfl | rfl
          · exact hok _
          · exact hcrash

theorem steady_commitGuard : Steady (Helpful v) GenerationAllocator.commitGuard := by
  intro Q files hok hcrash
  unfold GenerationAllocator.commitGuard
  rw [wp_mapError]
  exact wp_beginCommit hok hcrash

theorem wp_readNext_readable {Q : Post GenerationFiles IoError Nat} {start : Nat}
    (hstart : foundNext (generationCell files).current = some start)
    (hok : Q.ok start files) (hcrash : Q.crashed files) : readNext.wp (Helpful v) Q files := by
  unfold readNext onStore
  rw [wp_bind, wp_mapError]
  refine SecureDir.wp_readOptional_willing willing_helpful hcrash ?_
  unfold generationCell at hstart
  cases hcontent : (files () (.named .state)).current with
  | none =>
      rw [hcontent] at hstart
      cases hstart
      exact hok
  | some bytes =>
      rw [hcontent] at hstart
      exact wp_orThrow_of_ok _ (foundNext_some.mp hstart) hok

/-- A replacement that nothing refuses has no failure. -/
theorem atomicWriteWhile_neverFails {bytes : List UInt8} :
    (atomicWriteWhile controlled withCommit bytes).wp (Helpful files) SecureDir.neverFails files := by
  unfold atomicWriteWhile onStore SecureDir.stageFile SecureDir.validateFileIfPresent
    SecureDir.newUuid
  simp only [wp_bind, wp_mapError, wp_attempt]
  refine SecureDir.wp_openRegularOptional_willing willing_helpful trivial ?_
  refine ⟨trivial, ?_⟩
  intro a ha
  simp only [wp_bind, SecureDir.writeNew, SecureDir.syncAll]
  refine SecureDir.wp_createNew_willing willing_helpful ha.2.2 trivial ?_
  intro v₁
  refine SecureDir.wp_writeAll_willing willing_helpful (fun _ => trivial) ?_
  intro v₂
  refine SecureDir.wp_syscall_willing willing_helpful trivial ?_
  unfold beforeRename
  simp only [wp_modify, wp_pure, wp_bind]
  refine wp_isCancelled ?_ trivial
  refine wp_beginCommit (fun guard => ?_) trivial
  unfold SecureDir.commitFile SecureDir.rename SecureDir.sync
  simp only [wp_pure, wp_bind, wp_mapError]
  refine SecureDir.wp_syscall_willing willing_helpful trivial ?_
  simp only [wp_modify]
  refine SecureDir.wp_syscall_willing willing_helpful trivial ?_
  trivial

namespace GenerationAllocator

theorem wp_steady {m : GenerationDisk α} (h : Steady (Helpful v) m) {Q : Post Allocation IoError α}
    (hok : ∀ a, Q.ok a state) (hcrash : Q.crashed state) :
    (onDirectory m).wp (Helpful v) Q state := by
  rw [wp_onDirectory]
  exact h _ _ hok hcrash

variable {start finish : Nat}

theorem reserveBlockWith_neverFails
    (hblock : BlockFrom state.directory state.self.blockSize start finish) :
    (reserveBlockWith controlled withCommit).wp (Helpful state.directory) SecureDir.neverFails
      state := by
  unfold reserveBlockWith
  simp only [wp_bind]
  refine wp_steady steady_syscall (fun _ => ?_) trivial
  refine wp_steady steady_validatePrivateFile (fun _ => ?_) trivial
  refine wp_steady steady_lockExclusive (fun _ => ?_) trivial
  refine wp_steady steady_ensureNotCancelled (fun _ => ?_) trivial
  refine wp_steady steady_validateFile (fun _ => ?_) trivial
  refine (wp_onDirectory _ _).mpr (wp_readNext_readable hblock.1 ?_ trivial)
  simp only [wp_get]
  rw [hblock.2]
  simp only [wp_bind]
  refine wp_steady steady_ensureNotCancelled (fun _ => ?_) trivial
  refine (wp_onDirectory _ _).mpr (wp_mono ?_ ?_ ?_ atomicWriteWhile_neverFails)
  · intro guard files' _
    simp only [wp_modify]
    exact wp_steady steady_osCall (fun _ => trivial) trivial
  · exact fun _ _ h => h
  · exact fun _ _ => trivial

/-- The allocator can take its next number, from its block or from a new one. -/
structure Supplied (state : Allocation) (start finish : Nat) : Prop where
  size : 0 < state.self.blockSize
  next : state.self.next ≤ state.self.end
  bound : state.self.end < 2 ^ 64
  block : BlockFrom state.directory state.self.blockSize start finish

theorem takeNext_neverFails {stocked : Allocation} (hbound : stocked.self.next + 1 < 2 ^ 64) :
    takeNext.wp (Helpful v) SecureDir.neverFails stocked := by
  unfold takeNext
  simp only [wp_bind, wp_get]
  rw [checkedAdd_eq_some.mpr ⟨rfl, hbound⟩]
  simp only [wp_bind, wp_modify]
  trivial

theorem Supplied.reserved {state' : Allocation} (h : Supplied state start finish)
    (hreserved : Reserved state state') : state'.self.next + 1 < 2 ^ 64 := by
  obtain ⟨start', finish', hblock, hself, -⟩ := hreserved
  obtain ⟨hsum, hbound⟩ := checkedAdd_eq_some.mp hblock.2
  have hsize := h.size
  rw [hself]
  simp only
  omega

theorem Supplied.reserve (h : Supplied state start finish) {Q : Post Allocation IoError Bool}
    (hok : ∀ guard state', Reserved state state' → Q.ok guard state')
    (hcrash : ∀ state', Q.crashed state') :
    (reserveBlockWith controlled withCommit).wp (Helpful state.directory) Q state := by
  have hnever : (reserveBlockWith controlled withCommit).wp (Helpful state.directory)
      SecureDir.neverFails state := reserveBlockWith_neverFails h.block
  refine wp_mono ?_ ?_ ?_ (wp_and hnever
    (wp_reserveBlockWith (Q := ⟨fun _ => Reserved state, fun _ _ => True, fun _ => True⟩)
      (fun _ _ h => h) (fun _ _ _ => trivial) fun _ _ => trivial))
  · exact fun guard state' h => hok guard state' h.2
  · exact fun _ _ h => h.1.elim
  · exact fun state' _ => hcrash state'

theorem Supplied.nextGenerationWhile (h : Supplied state start finish) :
    (nextGenerationWhile controlled).wp (Helpful state.directory) SecureDir.neverFails state := by
  unfold GenerationAllocator.nextGenerationWhile
  rw [wp_bind]
  refine wp_steady steady_ensureNotCancelled (fun _ => ?_) trivial
  simp only [wp_bind, wp_get]
  by_cases hend : state.self.next = state.self.end
  · rw [if_pos hend, wp_bind]
    exact h.reserve (fun _ _ hreserved => takeNext_neverFails (h.reserved hreserved))
      fun _ => trivial
  · rw [if_neg hend, wp_bind]
    refine wp_steady steady_ensureNotCancelled (fun _ => ?_) trivial
    have hnext := h.next
    have hbound := h.bound
    exact takeNext_neverFails (by omega)

theorem Supplied.nextGenerationWithCommit (h : Supplied state start finish) :
    GenerationAllocator.nextGenerationWithCommit.wp (Helpful state.directory) SecureDir.neverFails
      state := by
  unfold GenerationAllocator.nextGenerationWithCommit
  rw [wp_bind]
  refine wp_steady steady_ensureNotCancelled (fun _ => ?_) trivial
  simp only [wp_bind, wp_get]
  by_cases hend : state.self.next = state.self.end
  · rw [if_pos hend, wp_bind]
    refine h.reserve (fun _ _ hreserved => ?_) fun _ => trivial
    simp only [wp_bind]
    exact takeNext_neverFails (h.reserved hreserved)
  · rw [if_neg hend, wp_bind]
    refine wp_steady steady_commitGuard (fun _ => ?_) trivial
    have hnext := h.next
    have hbound := h.bound
    simp only [wp_bind]
    exact takeNext_neverFails (by omega)

theorem neverFails_map {σ : Type} {m : AllocatorProgram σ} (f : σ → β)
    (h : m.wp (Helpful v) SecureDir.neverFails state) :
    (m >>= fun a => pure (f a)).wp (Helpful v) SecureDir.neverFails state := by
  rw [wp_bind]
  exact wp_mono (fun _ _ _ => trivial) (fun _ _ h => h) (fun _ _ => trivial) h

/-- No call of a supplied allocator fails in a helpful environment. -/
theorem Supplied.call (h : Supplied state start finish) (call : Call) :
    call.program.wp (Helpful state.directory) SecureDir.neverFails state := by
  cases call with
  | next => exact neverFails_map _ h.nextGenerationWhile
  | nextWhile => exact neverFails_map _ h.nextGenerationWhile
  | nextWithCommit => exact neverFails_map _ h.nextGenerationWithCommit
  | afterRound floor =>
      unfold Call.program nextAfterRound
      simp only [wp_bind, wp_get]
      by_cases hround : state.self.end ≤ floor
      · rw [if_pos hround]
        unfold reserveBlock
        simp only [wp_bind]
        exact h.reserve (fun _ _ _ => trivial) fun _ => trivial
      · rw [if_neg hround]
        by_cases hskip : state.self.next ≤ floor
        · rw [if_pos hskip]
          have hbound := h.bound
          rw [checkedAdd_eq_some.mpr ⟨rfl, by omega⟩, wp_bind, wp_modify]
          have hplaced : Supplied (standingAt state (floor + 1)) start finish :=
            ⟨h.size, by simpa [standingAt] using by omega, h.bound, h.block⟩
          exact neverFails_map _ hplaced.nextGenerationWhile
        · rw [if_neg hskip]
          exact neverFails_map _ h.nextGenerationWhile

end GenerationAllocator

end Willing

end Programs

end Sessiond
end SleepySession
