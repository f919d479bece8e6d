import SleepySession.Calendar.TzifBlocks

/-!
# Bounds of the time zone reader

The reader once more, with every sum of a `usize`, every slice and every index
as the machine has it: an overflow or a position outside of the data is a
panic.  None of them happens, because the counts of the header have four bytes
each and the size of the block is compared with the data before it is read.
-/

namespace SleepySession
namespace Calendar

section Operations

/-- `a + b` on a 64-bit machine. -/
def addUsize (a b : Nat) : Except Failure Nat :=
  if a + b < 2 ^ 64 then .ok (a + b) else .error .panic

/-- `&data[start..stop]`. -/
def sliceAt (data : List UInt8) (start stop : Nat) : Except Failure (List UInt8) :=
  if start ≤ stop ∧ stop ≤ data.length then .ok ((data.drop start).take (stop - start))
  else .error .panic

/-- `values[i]`. -/
def indexAt {α : Type} (values : List α) (i : Nat) : Except Failure α :=
  match values[i]? with
  | some value => .ok value
  | none => .error .panic

/-- `Vec::with_capacity` for elements of `size` bytes. -/
def withCapacity (size n : Nat) : Except Failure Unit :=
  if size * n < 2 ^ 63 then .ok () else .error .panic

/-- A result of the operations that report their failures. -/
def reported {α : Type} (result : Except IoError α) : Except Failure α :=
  result.mapError Failure.error

end Operations

namespace Tzif

/-- `data[offset..offset + 4] != b"TZif"`. -/
def magicAt (data : List UInt8) (offset : Nat) : Except Failure Bool := do
  let stop ← addUsize offset 4
  let bytes ← sliceAt data offset stop
  return bytes == magic

def headerBounded (data : List UInt8) : Except Failure (Nat × Nat × List UInt8) :=
  if data.length < 44 then .error (.error (invalid "invalid timezone data"))
  else do
    let bytes ← sliceAt data 0 4
    if bytes ≠ magic then .error (.error (invalid "invalid timezone data"))
    else do
      let version ← indexAt data 4
      let header ← sliceAt data 0 44
      let first ← reported (counts header)
      let firstSize ← reported (blockSize first 4)
      if versions.contains version then
        match checkedUsize (44 + firstSize) with
        | none => .error (.error (invalid "timezone data overflow"))
        | some offset => do
            let stop ← addUsize offset 44
            if data.length < stop then .error (.error (invalid "invalid timezone v2 data"))
            else do
              let found ← magicAt data offset
              if found = false then .error (.error (invalid "invalid timezone v2 data"))
              else do
                let stop ← addUsize offset 44
                let header ← sliceAt data offset stop
                return (offset, 8, header)
      else do
        let header ← sliceAt data 0 44
        return (0, 4, header)

/-- `read_i32` or `read_i64`, whose range ends at a sum. -/
def readBounded {α : Type} (read : List UInt8 → Nat → Except IoError α) (width : Nat)
    (data : List UInt8) (cursor : Nat) : Except Failure α := do
  let _ ← addUsize cursor width
  reported (read data cursor)

def readTimeBounded (data : List UInt8) (width cursor : Nat) : Except Failure Int :=
  if width = 8 then readBounded readI64 8 data cursor else readBounded readI32 4 data cursor

/-- The loop over the transition times, with the cursor behind it. -/
def readTransitionsBounded (data : List UInt8) (width : Nat) :
    Nat → Nat → Except Failure (List Int × Nat)
  | 0, cursor => .ok ([], cursor)
  | n + 1, cursor => do
      let value ← readTimeBounded data width cursor
      let next ← addUsize cursor width
      let (rest, stop) ← readTransitionsBounded data width n next
      return (value :: rest, stop)

/-- The loop over the local time types. -/
def readTypesBounded (data : List UInt8) : Nat → Nat → Except Failure (List (Int × Bool))
  | 0, _ => .ok []
  | n + 1, cursor => do
      let offset ← readBounded readI32 4 data cursor
      let position ← addUsize cursor 4
      let flag ← indexAt data position
      let next ← addUsize cursor 6
      let rest ← readTypesBounded data n next
      return (offset, flag != 0) :: rest

def parseBlockBounded
    (data : List UInt8) (start width : Nat) (count : TzifCounts) : Except Failure Tzif := do
  let need ← reported (blockSize count width)
  let stop ← addUsize start need
  if data.length < stop ∨ count.types = 0 then
    .error (.error (invalid "truncated timezone data"))
  else do
    withCapacity 8 count.times
    let (transitions, cursor) ← readTransitionsBounded data width count.times start
    let stop ← addUsize cursor count.times
    let bytes ← sliceAt data cursor stop
    let indices := bytes.map UInt8.toNat
    let cursor ← addUsize cursor count.times
    withCapacity 4 count.types
    withCapacity 1 count.types
    let types ← readTypesBounded data count.types cursor
    let offsets := types.map Prod.fst
    let daylight := types.map Prod.snd
    if indices.any (fun index => decide (offsets.length ≤ index)) then
      .error (.error (invalid "invalid timezone transition type"))
    else
      return {
        transitions
        indices
        offsets
        defaultIndex := (daylight.findIdx? (fun value => !value)).getD 0 }

/-- `Tzif::parse` with its sums, slices and indices. -/
def parseBounded (data : List UInt8) : Except Failure Tzif := do
  let (offset, width, header) ← headerBounded data
  let count ← reported (counts header)
  let start ← addUsize offset 44
  parseBlockBounded data start width count

/-- `Tzif::offset_at` with its indices. -/
def offsetAtBounded (zone : Tzif) (epoch : Int) : Except Failure Int :=
  match partitionPoint (fun transition => decide (transition ≤ epoch)) zone.transitions with
  | 0 => indexAt zone.offsets zone.defaultIndex
  | position + 1 => do
      let index ← indexAt zone.indices position
      indexAt zone.offsets index

end Tzif

section Bounds

variable {α β : Type} {data : List UInt8}

theorem addUsize_of_lt {a b : Nat} (h : a + b < 2 ^ 64) : addUsize a b = .ok (a + b) :=
  if_pos h

theorem sliceAt_of_le {start stop : Nat} (hstart : start ≤ stop) (hstop : stop ≤ data.length) :
    sliceAt data start stop = .ok ((data.drop start).take (stop - start)) :=
  if_pos ⟨hstart, hstop⟩

theorem indexAt_of_lt {values : List α} {i : Nat} (h : i < values.length) :
    indexAt values i = .ok values[i] := by
  rw [indexAt, List.getElem?_eq_getElem h]

@[simp] theorem reported_ok (a : α) : reported (.ok a) = .ok a :=
  rfl

@[simp] theorem reported_error (e : IoError) : reported (.error e : Except IoError α) =
    .error (.error e) :=
  rfl

@[simp] theorem ok_bind (a : α) (f : α → Except Failure β) : (Except.ok a >>= f) = f a :=
  rfl

@[simp] theorem error_bind (e : Failure) (f : α → Except Failure β) :
    (Except.error e >>= f) = .error e :=
  rfl

theorem readU32_lt {offset n : Nat} (h : readU32 data offset = .ok n) : n < 2 ^ 32 := by
  unfold readU32 integerBytes at h
  split at h
  · cases h
    have hlength : ((data.drop offset).take 4).length ≤ 4 := List.length_take_le ..
    calc beNat ((data.drop offset).take 4)
        < 256 ^ ((data.drop offset).take 4).length := beNat_lt _
      _ ≤ 256 ^ 4 := Nat.pow_le_pow_right (by norm_num) hlength
      _ = 2 ^ 32 := by norm_num
  · cases h

/-- The counts of a header have four bytes each. -/
theorem counts_fits {header : List UInt8} {count : TzifCounts} (h : counts header = .ok count) :
    count.Fits := by
  unfold counts at h
  split at h
  · cases h
  · rw [Checks.bind_eq_ok_iff] at h
    obtain ⟨gmt, hgmt, h⟩ := h
    rw [Checks.bind_eq_ok_iff] at h
    obtain ⟨std, hstd, h⟩ := h
    rw [Checks.bind_eq_ok_iff] at h
    obtain ⟨leaps, hleaps, h⟩ := h
    rw [Checks.bind_eq_ok_iff] at h
    obtain ⟨times, htimes, h⟩ := h
    rw [Checks.bind_eq_ok_iff] at h
    obtain ⟨types, htypes, h⟩ := h
    rw [Checks.bind_eq_ok_iff] at h
    obtain ⟨chars, hchars, h⟩ := h
    cases h
    exact ⟨readU32_lt htimes, readU32_lt htypes, readU32_lt hchars, readU32_lt hleaps,
      readU32_lt hstd, readU32_lt hgmt⟩

end Bounds

namespace Tzif

section Totality

variable {data : List UInt8}

theorem magicAt_of_le {offset : Nat} (hoffset : offset < 2 ^ 63) (hlong : offset + 4 ≤ data.length) :
    magicAt data offset = .ok (startsWithMagic (data.drop offset)) := by
  rw [magicAt, addUsize_of_lt (by omega), ok_bind, sliceAt_of_le (by omega) hlong, ok_bind,
    Nat.add_sub_cancel_left]
  rfl

/-- The header is read inside of the data. -/
theorem headerBounded_eq (data : List UInt8) :
    headerBounded data =
      reported ((header data).map fun p => (p.1, p.2, (data.drop p.1).take 44)) := by
  unfold headerBounded header
  by_cases hshort : data.length < 44
  · rw [if_pos hshort, if_pos (Or.inl hshort)]
    rfl
  · rw [if_neg hshort, sliceAt_of_le (by omega) (by omega), ok_bind, List.drop_zero]
    by_cases hmagic : data.take 4 = magic
    · have hfound : startsWithMagic data = true := by simp [startsWithMagic, hmagic]
      rw [if_neg (not_not.mpr hmagic), if_neg (by simp [hshort, hfound]),
        indexAt_of_lt (by omega), ok_bind, sliceAt_of_le (by omega) (by omega), ok_bind,
        List.drop_zero]
      cases hfirst : counts (data.take 44) with
      | error e => rfl
      | ok first =>
          have htotal := @TzifFile.total_lt _ (counts_fits hfirst) 4 (by norm_num)
          have hsize : blockSize first 4 = .ok (first.total 4) :=
            blockSize_eq_ok.mpr ⟨by omega, rfl⟩
          rw [List.getD_eq_getElem _ _ (by omega : 4 < data.length)]
          simp only [reported_ok, hsize, bind, Except.bind]
          by_cases hversion : versions.contains data[4] = true
          · rw [if_pos hversion, if_pos hversion, checkedUsize_eq_some.mpr ⟨by omega, rfl⟩]
            dsimp only
            rw [addUsize_of_lt (by omega)]
            dsimp only
            by_cases hlong : data.length < 44 + first.total 4 + 44
            · rw [if_pos hlong, if_pos (Or.inl hlong)]
              rfl
            · rw [if_neg hlong, magicAt_of_le (by omega) (by omega)]
              dsimp only
              cases hsecond : startsWithMagic (data.drop (44 + first.total 4)) with
              | false => simp [Except.map]
              | true =>
                  rw [sliceAt_of_le (by omega) (by omega), Nat.add_sub_cancel_left]
                  simp [hlong, Except.map, pure, Except.pure]
          · rw [if_neg hversion, if_neg hversion]
            simp [Except.map, pure, Except.pure]
    · have hfound : startsWithMagic data = false := by simp [startsWithMagic, hmagic]
      rw [if_pos hmagic, if_pos (Or.inr hfound)]
      rfl

theorem readBounded_of_lt {α : Type} {read : List UInt8 → Nat → Except IoError α}
    {width cursor : Nat} (h : cursor + width < 2 ^ 64) :
    readBounded read width data cursor = reported (read data cursor) := by
  rw [readBounded, addUsize_of_lt h, ok_bind]

theorem readTimeBounded_of_lt {width cursor : Nat} (h : cursor + 8 < 2 ^ 64) :
    readTimeBounded data width cursor = reported (readTime data width cursor) := by
  unfold readTimeBounded readTime
  split
  · exact readBounded_of_lt h
  · exact readBounded_of_lt (by omega)

theorem readTransitionsBounded_eq {width : Nat} (hwidth : width ≤ 8) (n cursor : Nat)
    (h : cursor + n * width + 8 < 2 ^ 64) :
    readTransitionsBounded data width n cursor =
      reported ((readTransitions data width n cursor).map (·, cursor + n * width)) := by
  induction n generalizing cursor with
  | zero => simp [readTransitionsBounded, readTransitions, Except.map]
  | succ n ih =>
      rw [Nat.succ_mul] at h
      have hnext := ih (cursor + width) (by omega)
      rw [readTransitionsBounded, readTransitions, readTimeBounded_of_lt (by omega)]
      cases readTime data width cursor with
      | error e => rfl
      | ok value =>
          rw [reported_ok, ok_bind, addUsize_of_lt (by omega), ok_bind, hnext]
          cases readTransitions data width n (cursor + width) with
          | error e => rfl
          | ok rest =>
              have hstop : cursor + width + n * width = cursor + (n + 1) * width := by
                rw [Nat.succ_mul]
                omega
              simp [Except.map, bind, Except.bind, pure, Except.pure, hstop]

theorem readTypesBounded_eq (n cursor : Nat) (hlong : cursor + n * 6 ≤ data.length)
    (h : cursor + n * 6 < 2 ^ 64) :
    readTypesBounded data n cursor = reported (readTypes data n cursor) := by
  induction n generalizing cursor with
  | zero => rfl
  | succ n ih =>
      have hnext := ih (cursor + 6) (by omega) (by omega)
      rw [readTypesBounded, readTypes, readBounded_of_lt (by omega)]
      cases readI32 data cursor with
      | error e => rfl
      | ok offset =>
          rw [reported_ok, ok_bind, addUsize_of_lt (by omega), ok_bind,
            indexAt_of_lt (by omega), ok_bind, addUsize_of_lt (by omega), ok_bind, hnext]
          cases readTypes data n (cursor + 6) with
          | error e => rfl
          | ok rest =>
              have hflag : (data[cursor + 4]? != some 0) = (data[cursor + 4] != 0) := by
                rw [List.getElem?_eq_getElem (by omega)]
                simp [bne]
              simp [bind, Except.bind, pure, Except.pure, hflag]

/-- Every part of a block lies inside of the size that was compared with the data. -/
theorem parseBlockBounded_eq {start width : Nat} {count : TzifCounts} (hcount : count.Fits)
    (hstart : start < 2 ^ 40) (hwidth : width = 4 ∨ width = 8) :
    parseBlockBounded data start width count = reported (parseBlock data start width count) := by
  have htotal := @TzifFile.total_lt _ hcount width (by omega)
  have hsize : blockSize count width = .ok (count.total width) :=
    blockSize_eq_ok.mpr ⟨by omega, rfl⟩
  have hcapacity : ∀ size n, size ≤ 8 → n < 2 ^ 32 → withCapacity size n = .ok () := by
    intro size n hsize hn
    refine if_pos ?_
    calc size * n ≤ 8 * n := Nat.mul_le_mul_right _ hsize
      _ < 2 ^ 63 := by omega
  unfold parseBlockBounded parseBlock
  rw [hsize, reported_ok, ok_bind, addUsize_of_lt (by omega), ok_bind]
  simp only [bind, Except.bind]
  by_cases hshort : data.length < start + count.total width ∨ count.types = 0
  · rw [if_pos hshort, if_pos hshort]
    rfl
  · rw [if_neg hshort, if_neg hshort, hcapacity 8 _ (le_refl _) hcount.1]
    have hlong : start + count.total width ≤ data.length := by omega
    unfold TzifCounts.total at hlong htotal
    dsimp only
    rw [readTransitionsBounded_eq (by omega) _ _ (by omega)]
    cases readTransitions data width count.times start with
    | error e => rfl
    | ok transitions =>
        simp only [Except.map, reported_ok]
        rw [addUsize_of_lt (by omega), hcapacity 4 _ (by norm_num) hcount.2.1,
          hcapacity 1 _ (by norm_num) hcount.2.1]
        dsimp only
        rw [sliceAt_of_le (by omega) (by omega), Nat.add_sub_cancel_left]
        dsimp only
        rw [readTypesBounded_eq _ _ (by omega) (by omega)]
        cases readTypes data count.types (start + count.times * width + count.times) with
        | error e => rfl
        | ok types =>
            dsimp only [reported_ok]
            split <;> rfl

theorem header_bounds {offset width : Nat} (h : header data = .ok (offset, width)) :
    offset < 2 ^ 39 ∧ (width = 4 ∨ width = 8) := by
  unfold header at h
  split at h
  · cases h
  · rw [Checks.bind_eq_ok_iff] at h
    obtain ⟨first, hfirst, h⟩ := h
    rw [Checks.bind_eq_ok_iff] at h
    obtain ⟨firstSize, hsize, h⟩ := h
    have htotal := @TzifFile.total_lt _ (counts_fits hfirst) 4 (by norm_num)
    obtain ⟨-, rfl⟩ := blockSize_eq_ok.mp hsize
    split at h
    · split at h
      · cases h
      · rename_i hoffset
        obtain ⟨-, rfl⟩ := checkedUsize_eq_some.mp hoffset
        split at h
        · cases h
        · cases h
          omega
    · cases h
      omega

/-- The reader never panics: it returns what the sums over all numbers return. -/
theorem parseBounded_eq (data : List UInt8) : parseBounded data = reported (parse data) := by
  unfold parseBounded parse
  rw [headerBounded_eq]
  cases hheader : header data with
  | error e => rfl
  | ok p =>
      obtain ⟨offset, width⟩ := p
      have hwhere : offset < 2 ^ 39 ∧ (width = 4 ∨ width = 8) := header_bounds hheader
      simp only [Except.map, reported_ok, bind, Except.bind]
      cases hcount : counts ((data.drop offset).take 44) with
      | error e => rfl
      | ok count =>
          dsimp only [reported_ok]
          rw [addUsize_of_lt (by omega)]
          exact parseBlockBounded_eq (counts_fits hcount) (by omega) hwhere.2

/-- On what a parse returned, no index of `offset_at` is out of bounds. -/
theorem offsetAtBounded_eq {zone : Tzif} (hzone : zone.WellFormed) (epoch : Int) :
    zone.offsetAtBounded epoch = .ok (zone.offsetAt epoch) := by
  unfold offsetAtBounded offsetAt
  have hle := @partitionPoint_le _ (fun transition => decide (transition ≤ epoch)) zone.transitions
  cases hposition : partitionPoint (fun transition => decide (transition ≤ epoch))
      zone.transitions with
  | zero =>
      dsimp only
      rw [indexAt_of_lt hzone.default_lt, List.getD_eq_getElem _ _ hzone.default_lt]
  | succ position =>
      have hposition' : position < zone.indices.length := by
        rw [hzone.indices_length]
        omega
      have hindex := hzone.indices_lt _ (List.getElem_mem hposition')
      dsimp only
      rw [indexAt_of_lt hposition', ok_bind, indexAt_of_lt hindex,
        List.getD_eq_getElem _ _ hposition', List.getD_eq_getElem _ _ hindex]

end Totality

/--
No byte string makes the reader panic, and no instant its result; a file of one
block of 32-bit times, or of a skipped block and a block of 64-bit times, gives
back the transitions, indices and offsets that were written.
-/
theorem decoding_exact :
    (∀ data, parseBounded data ≠ .error .panic ∧
      ∀ zone, parseBounded data = .ok zone →
        ∀ epoch, ∃ offset ∈ zone.offsets, zone.offsetAtBounded epoch = .ok offset) ∧
    (∀ (b : TzifBlock) (version : UInt8) (reserved rest : List UInt8),
      b.WellFormed 4 → version ∉ versions → reserved.length = 15 →
      ∃ zone, parseBounded (TzifBlock.firstFile version reserved b rest) = .ok zone ∧
        zone.transitions = b.times ∧ zone.indices = b.indices ∧
        zone.offsets = b.types.map (·.offset)) ∧
    ∀ (b : TzifBlock) (version version' : UInt8) (reserved reserved' : List UInt8)
      (legacyCounts : TzifCounts) (legacyBlock rest : List UInt8),
      b.WellFormed 8 → version ∈ versions → reserved.length = 15 → reserved'.length = 15 →
      legacyCounts.Fits → legacyBlock.length = legacyCounts.total 4 →
      ∃ zone, parseBounded (TzifBlock.secondFile version reserved legacyCounts legacyBlock
          version' reserved' b rest) = .ok zone ∧
        zone.transitions = b.times ∧ zone.indices = b.indices ∧
        zone.offsets = b.types.map (·.offset) := by
  refine ⟨fun data => ?_, ?_, ?_⟩
  · rw [parseBounded_eq]
    cases hparse : parse data with
    | error e => exact ⟨by simp, fun zone h => by cases h⟩
    | ok zone =>
        refine ⟨by simp, fun zone' h epoch => ?_⟩
        cases h
        have hzone := wellFormed_of_parse hparse
        exact ⟨_, offsetAt_mem hzone epoch, offsetAtBounded_eq hzone epoch⟩
  · intro b version reserved rest hb hversion hreserved
    refine ⟨b.kept, ?_, rfl, rfl, rfl⟩
    rw [parseBounded_eq, TzifBlock.parse_firstFile hversion hreserved hb]
    rfl
  · intro b version version' reserved reserved' legacyCounts legacyBlock rest hb hversion
      hreserved hreserved' hfits hlegacy
    refine ⟨b.kept, ?_, rfl, rfl, rfl⟩
    rw [parseBounded_eq,
      TzifBlock.parse_secondFile hversion hreserved hreserved' hfits hlegacy hb]
    rfl

end Tzif

end Calendar
end SleepySession
