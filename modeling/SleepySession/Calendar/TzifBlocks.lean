import SleepySession.Calendar.LocalTimes

/-!
# The data blocks of time zone files

A data block as a time zone file stores it, with times of four or eight bytes.
The calendar reads back what was written, wherever the block stands.
-/

namespace SleepySession
namespace Calendar

structure TzifType where
  offset : Int
  daylight : Bool
  designation : UInt8
deriving DecidableEq, Repr

/-- The contents of a data block. -/
structure TzifBlock where
  times : List Int
  indices : List Nat
  types : List TzifType
  chars : List UInt8
  leaps : Nat
  /-- The leap second records, `width + 4` bytes each. -/
  leapRecords : List UInt8
  stdFlags : List UInt8
  utFlags : List UInt8

def TzifBlock.counts (b : TzifBlock) : TzifCounts where
  times := b.times.length
  types := b.types.length
  chars := b.chars.length
  leaps := b.leaps
  std := b.stdFlags.length
  gmt := b.utFlags.length

/-- A count that fits into a header. -/
def TzifCounts.Fits (count : TzifCounts) : Prop :=
  count.times < 2 ^ 32 ∧ count.types < 2 ^ 32 ∧ count.chars < 2 ^ 32 ∧
    count.leaps < 2 ^ 32 ∧ count.std < 2 ^ 32 ∧ count.gmt < 2 ^ 32

instance (count : TzifCounts) : Decidable count.Fits :=
  inferInstanceAs (Decidable (_ ∧ _))

/-- What a block has to be like whose times take `width` bytes. -/
structure TzifBlock.WellFormed (b : TzifBlock) (width : Nat) : Prop where
  counts : b.counts.Fits
  types : b.types ≠ []
  offsets : ∀ entry ∈ b.types, SignedRange 32 entry.offset
  times_range : ∀ time ∈ b.times, SignedRange (8 * width) time
  indices_length : b.indices.length = b.times.length
  indices_lt : ∀ index ∈ b.indices, index < b.types.length ∧ index < 256
  leaps : b.leapRecords.length = b.leaps * (width + 4)

namespace TzifFile

section Encoding

def encodeHeader (version : UInt8) (reserved : List UInt8) (count : TzifCounts) : List UInt8 :=
  Tzif.magic ++ version :: reserved ++
    (beBytes 4 count.gmt ++ (beBytes 4 count.std ++ (beBytes 4 count.leaps ++
      (beBytes 4 count.times ++ (beBytes 4 count.types ++ beBytes 4 count.chars)))))

def encodeType (entry : TzifType) : List UInt8 :=
  beBytes 4 (ofSigned 32 entry.offset) ++ [if entry.daylight then 1 else 0, entry.designation]

end Encoding

section Reading

/-- Behind a field the rest of the data follows. -/
theorem drop_field {data field rest : List UInt8} {offset : Nat}
    (h : data.drop offset = field ++ rest) : data.drop (offset + field.length) = rest := by
  rw [← List.drop_drop, h, List.drop_left]

theorem integerBytes_of_drop {data field rest : List UInt8} {offset width : Nat}
    (hwidth : field.length = width) (hpos : 0 < width)
    (h : data.drop offset = field ++ rest) :
    integerBytes data offset width = .ok field := by
  have hlength := congrArg List.length h
  rw [List.length_drop, List.length_append] at hlength
  rw [integerBytes, if_pos (by omega), h, List.take_left' hwidth]

theorem readU32_of_drop {data rest : List UInt8} {offset n : Nat}
    (hn : n < 2 ^ 32) (h : data.drop offset = beBytes 4 n ++ rest) :
    readU32 data offset = .ok n := by
  rw [readU32, integerBytes_of_drop (by simp) (by norm_num) h]
  exact congrArg Except.ok (beNat_beBytes (by norm_num; omega))

theorem readI32_of_drop {data rest : List UInt8} {offset : Nat} {i : Int}
    (hi : SignedRange 32 i) (h : data.drop offset = beBytes 4 (ofSigned 32 i) ++ rest) :
    readI32 data offset = .ok i := by
  rw [readI32, integerBytes_of_drop (by simp) (by norm_num) h]
  have hvalue : beNat (beBytes 4 (ofSigned 32 i)) = ofSigned 32 i :=
    beNat_beBytes ((ofSigned_lt i).trans_eq (by norm_num))
  simp only [Except.map, hvalue, toSigned_ofSigned (by norm_num) hi]

theorem readI64_of_drop {data rest : List UInt8} {offset : Nat} {i : Int}
    (hi : SignedRange 64 i) (h : data.drop offset = beBytes 8 (ofSigned 64 i) ++ rest) :
    readI64 data offset = .ok i := by
  rw [readI64, integerBytes_of_drop (by simp) (by norm_num) h]
  have hvalue : beNat (beBytes 8 (ofSigned 64 i)) = ofSigned 64 i :=
    beNat_beBytes ((ofSigned_lt i).trans_eq (by norm_num))
  simp only [Except.map, hvalue, toSigned_ofSigned (by norm_num) hi]

/-- A header gives back its counts. -/
theorem counts_encodeHeader {version : UInt8} {reserved : List UInt8} {count : TzifCounts}
    (hreserved : reserved.length = 15) (hfits : count.Fits) :
    Calendar.counts (encodeHeader version reserved count) = .ok count := by
  obtain ⟨htimes, htypes, hchars, hleaps, hstd, hgmt⟩ := hfits
  have h20 : (encodeHeader version reserved count).drop 20 =
      beBytes 4 count.gmt ++ (beBytes 4 count.std ++ (beBytes 4 count.leaps ++
        (beBytes 4 count.times ++ (beBytes 4 count.types ++ beBytes 4 count.chars)))) := by
    refine List.drop_left' ?_
    simp [Tzif.magic, hreserved]
  have h24 := drop_field h20
  have h28 := drop_field h24
  have h32 := drop_field h28
  have h36 := drop_field h32
  have h40 := drop_field h36
  simp only [length_beBytes] at h24 h28 h32 h36 h40
  have hlength : (encodeHeader version reserved count).length = 44 := by
    simp [encodeHeader, Tzif.magic, hreserved]
  unfold Calendar.counts
  rw [if_neg (by omega), readU32_of_drop hgmt h20, readU32_of_drop hstd h24,
    readU32_of_drop hleaps h28, readU32_of_drop htimes h32, readU32_of_drop htypes h36,
    @readU32_of_drop _ [] _ _ hchars (by rw [List.append_nil]; exact h40)]
  rfl

theorem readTypes_of_drop {data rest : List UInt8} {types : List TzifType} {cursor : Nat}
    (htypes : ∀ entry ∈ types, SignedRange 32 entry.offset)
    (h : data.drop cursor = types.flatMap encodeType ++ rest) :
    Tzif.readTypes data types.length cursor =
      .ok (types.map fun entry => (entry.offset, entry.daylight)) := by
  induction types generalizing cursor with
  | nil => rfl
  | cons entry types ih =>
      rw [List.flatMap_cons, List.append_assoc] at h
      have hnext := drop_field h
      rw [show (encodeType entry).length = 6 by simp [encodeType]] at hnext
      have hrest := ih (fun t ht => htypes t (List.mem_cons_of_mem _ ht)) hnext
      rw [encodeType, List.append_assoc] at h
      have hoffset := readI32_of_drop (htypes entry List.mem_cons_self) h
      have hflag := drop_field h
      rw [length_beBytes] at hflag
      have hdaylight : data[cursor + 4]? = some (if entry.daylight then 1 else 0) := by
        rw [← List.head?_drop, hflag]
        rfl
      rw [List.length_cons, Tzif.readTypes, hoffset]
      simp only [bind, Except.bind, hrest, hdaylight, List.map_cons]
      cases entry.daylight <;> simp [pure, Except.pure]

theorem startsWithMagic_encodeHeader
    (version : UInt8) (reserved : List UInt8) (count : TzifCounts) (rest : List UInt8) :
    Tzif.startsWithMagic (encodeHeader version reserved count ++ rest) = true := by
  simp [Tzif.startsWithMagic, encodeHeader, Tzif.magic]

theorem length_encodeHeader {version : UInt8} {reserved : List UInt8} {count : TzifCounts}
    (hreserved : reserved.length = 15) :
    (encodeHeader version reserved count).length = 44 := by
  simp [encodeHeader, Tzif.magic, hreserved]

theorem total_lt {count : TzifCounts} (h : count.Fits) {width : Nat} (hwidth : width ≤ 8) :
    count.total width < 2 ^ 37 := by
  obtain ⟨htimes, htypes, hchars, hleaps, hstd, hgmt⟩ := h
  have htimes' : count.times * width ≤ count.times * 8 := Nat.mul_le_mul_left _ hwidth
  have hleaps' : count.leaps * (width + 4) ≤ count.leaps * 12 :=
    Nat.mul_le_mul_left _ (by omega)
  unfold TzifCounts.total
  omega

end Reading

end TzifFile

namespace TzifBlock

def encodeTime (width : Nat) (time : Int) : List UInt8 :=
  beBytes width (ofSigned (8 * width) time)

def encode (b : TzifBlock) (width : Nat) : List UInt8 :=
  b.times.flatMap (encodeTime width) ++ (b.indices.map UInt8.ofNat ++
    (b.types.flatMap TzifFile.encodeType ++
      (b.chars ++ (b.leapRecords ++ (b.stdFlags ++ b.utFlags)))))

/-- What the calendar keeps of a block. -/
def kept (b : TzifBlock) : Tzif where
  transitions := b.times
  indices := b.indices
  offsets := b.types.map (·.offset)
  defaultIndex := ((b.types.map (·.daylight)).findIdx? (fun value => !value)).getD 0

variable {b : TzifBlock} {width : Nat}

theorem readTime_of_drop {data rest : List UInt8} {cursor : Nat} {time : Int}
    (hwidth : width = 4 ∨ width = 8) (htime : SignedRange (8 * width) time)
    (h : data.drop cursor = encodeTime width time ++ rest) :
    Tzif.readTime data width cursor = .ok time := by
  unfold Tzif.readTime
  rcases hwidth with rfl | rfl
  · exact TzifFile.readI32_of_drop htime h
  · exact TzifFile.readI64_of_drop htime h

theorem readTransitions_of_drop {data rest : List UInt8} {times : List Int} {cursor : Nat}
    (hwidth : width = 4 ∨ width = 8) (htimes : ∀ time ∈ times, SignedRange (8 * width) time)
    (h : data.drop cursor = times.flatMap (encodeTime width) ++ rest) :
    Tzif.readTransitions data width times.length cursor = .ok times := by
  induction times generalizing cursor with
  | nil => rfl
  | cons time times ih =>
      rw [List.flatMap_cons, List.append_assoc] at h
      have hfirst := readTime_of_drop hwidth (htimes time List.mem_cons_self) h
      have hnext := TzifFile.drop_field h
      rw [show (encodeTime width time).length = width by simp [encodeTime]] at hnext
      have hrest := ih (fun t ht => htimes t (List.mem_cons_of_mem _ ht)) hnext
      rw [List.length_cons, Tzif.readTransitions, hfirst]
      simp only [bind, Except.bind, hrest]
      rfl

theorem length_encode (hb : b.WellFormed width) : (b.encode width).length = b.counts.total width := by
  have htimes : (b.times.flatMap (encodeTime width)).length = b.times.length * width := by
    simp [List.length_flatMap, encodeTime]
  have htypes : (b.types.flatMap TzifFile.encodeType).length = b.types.length * 6 := by
    simp [List.length_flatMap, TzifFile.encodeType]
  simp only [encode, List.length_append, htimes, htypes, List.length_map,
    hb.indices_length, hb.leaps, TzifCounts.total, counts]
  omega

/-- A block is read as it was written. -/
theorem parseBlock_of_drop {data rest : List UInt8} {start : Nat}
    (hwidth : width = 4 ∨ width = 8) (hb : b.WellFormed width)
    (h : data.drop start = b.encode width ++ rest) :
    Tzif.parseBlock data start width b.counts = .ok b.kept := by
  have htotal := @TzifFile.total_lt _ hb.counts width (by omega)
  have hsize : blockSize b.counts width = .ok (b.counts.total width) :=
    blockSize_eq_ok.mpr ⟨by omega, rfl⟩
  have hpositive : b.counts.types ≠ 0 := by
    simpa [counts] using hb.types
  have hlong : start + b.counts.total width ≤ data.length := by
    have hlength := congrArg List.length h
    have hpos : 0 < b.counts.types * 6 := by omega
    rw [List.length_drop, List.length_append, length_encode hb] at hlength
    unfold TzifCounts.total at hlength ⊢
    omega
  rw [encode, List.append_assoc] at h
  have htimes := readTransitions_of_drop hwidth hb.times_range h
  have hindices := TzifFile.drop_field h
  rw [show (b.times.flatMap (encodeTime width)).length = b.counts.times * width by
    simp [List.length_flatMap, encodeTime, counts], List.append_assoc] at hindices
  have hread : ((data.drop (start + b.counts.times * width)).take b.counts.times).map
      UInt8.toNat = b.indices := by
    rw [hindices, List.take_left' (by simp [hb.indices_length, counts]), List.map_map]
    refine (List.map_congr_left fun index hindex => ?_).trans (List.map_id _)
    simpa using (hb.indices_lt index hindex).2
  have htypes := TzifFile.drop_field hindices
  rw [show (b.indices.map UInt8.ofNat).length = b.counts.times by
    simp [hb.indices_length, counts], List.append_assoc] at htypes
  have htypesRead := TzifFile.readTypes_of_drop hb.offsets htypes
  have hdefined : (b.indices.any fun index =>
      decide ((b.types.map (·.offset)).length ≤ index)) = false := by
    rw [List.any_eq_false]
    intro index hindex
    simpa using (hb.indices_lt index hindex).1
  unfold Tzif.parseBlock
  simp only [bind, Except.bind, hsize]
  rw [if_neg (by omega)]
  rw [show Tzif.readTransitions data width b.counts.times start = .ok b.times from htimes]
  dsimp only
  rw [hread]
  rw [show Tzif.readTypes data b.counts.types (start + b.counts.times * width +
    b.counts.times) = _ from htypesRead]
  simp only [List.map_map, Function.comp_def, hdefined]
  rfl

/-- A file of version 1: one block, and whatever stands behind it. -/
def firstFile (version : UInt8) (reserved : List UInt8) (b : TzifBlock) (rest : List UInt8) :
    List UInt8 :=
  TzifFile.encodeHeader version reserved b.counts ++ (b.encode 4 ++ rest)

/-- A file of version 2 or later: a block that is skipped, and a second header with its block. -/
def secondFile (version : UInt8) (reserved : List UInt8) (legacyCounts : TzifCounts)
    (legacyBlock : List UInt8) (version' : UInt8) (reserved' : List UInt8) (b : TzifBlock)
    (rest : List UInt8) : List UInt8 :=
  TzifFile.encodeHeader version reserved legacyCounts ++ (legacyBlock ++
    (TzifFile.encodeHeader version' reserved' b.counts ++ (b.encode 8 ++ rest)))

variable {version version' : UInt8} {reserved reserved' legacyBlock rest : List UInt8}
  {legacyCounts : TzifCounts}

theorem parse_firstFile (hversion : version ∉ Tzif.versions) (hreserved : reserved.length = 15)
    (hb : b.WellFormed 4) : Tzif.parse (firstFile version reserved b rest) = .ok b.kept := by
  have hlength := @TzifFile.length_encodeHeader version _ b.counts hreserved
  have htake : (firstFile version reserved b rest).take 44 =
      TzifFile.encodeHeader version reserved b.counts := List.take_left' hlength
  have hdrop : (firstFile version reserved b rest).drop 44 = b.encode 4 ++ rest :=
    List.drop_left' hlength
  have hlong : 44 ≤ (firstFile version reserved b rest).length := by
    rw [firstFile, List.length_append, hlength]
    omega
  have hget : (firstFile version reserved b rest).getD 4 0 = version := by
    simp [firstFile, TzifFile.encodeHeader, Tzif.magic]
  have hmagic : Tzif.startsWithMagic (firstFile version reserved b rest) = true :=
    TzifFile.startsWithMagic_encodeHeader ..
  have htotal := @TzifFile.total_lt _ hb.counts 4 (by norm_num)
  have hsize : blockSize b.counts 4 = .ok (b.counts.total 4) :=
    blockSize_eq_ok.mpr ⟨by omega, rfl⟩
  have hcounts := @TzifFile.counts_encodeHeader version _ _ hreserved hb.counts
  have hheader : Tzif.header (firstFile version reserved b rest) = .ok (0, 4) := by
    unfold Tzif.header
    rw [if_neg (by rw [hmagic]; simp; omega), htake, hcounts]
    simp only [bind, Except.bind, hsize]
    rw [hget, if_neg (by simpa using hversion)]
  have hblock := parseBlock_of_drop (Or.inl rfl) hb hdrop
  unfold Tzif.parse
  rw [hheader]
  simp only [bind, Except.bind, List.drop_zero, htake, hcounts]
  exact hblock

/-- Behind the first block the second header follows. -/
theorem drop_secondFile (hreserved : reserved.length = 15)
    (hlegacy : legacyBlock.length = legacyCounts.total 4) :
    (secondFile version reserved legacyCounts legacyBlock version' reserved' b rest).drop
        (44 + legacyCounts.total 4) =
      TzifFile.encodeHeader version' reserved' b.counts ++ (b.encode 8 ++ rest) := by
  have hlength := @TzifFile.length_encodeHeader version _ legacyCounts hreserved
  unfold secondFile
  rw [← List.append_assoc]
  refine List.drop_left' ?_
  rw [List.length_append, hlength, hlegacy]

theorem header_secondFile (hversion : version ∈ Tzif.versions) (hreserved : reserved.length = 15)
    (hreserved' : reserved'.length = 15) (hfits : legacyCounts.Fits)
    (hlegacy : legacyBlock.length = legacyCounts.total 4) :
    Tzif.header (secondFile version reserved legacyCounts legacyBlock version' reserved' b rest) =
      .ok (44 + legacyCounts.total 4, 8) := by
  have hlength := @TzifFile.length_encodeHeader version _ legacyCounts hreserved
  have hlength' := @TzifFile.length_encodeHeader version' _ b.counts hreserved'
  have hdrop := @drop_secondFile b version version' reserved reserved' legacyBlock rest
    legacyCounts hreserved hlegacy
  generalize hdata : secondFile version reserved legacyCounts legacyBlock version' reserved' b
    rest = data at hdrop ⊢
  have htake : data.take 44 = TzifFile.encodeHeader version reserved legacyCounts := by
    rw [← hdata]
    exact List.take_left' hlength
  have hlong : 44 + legacyCounts.total 4 + 44 ≤ data.length := by
    have hrest := congrArg List.length hdrop
    rw [List.length_drop, List.length_append, hlength'] at hrest
    omega
  have hget : data.getD 4 0 = version := by
    rw [← hdata]
    simp [secondFile, TzifFile.encodeHeader, Tzif.magic]
  have hmagic : Tzif.startsWithMagic data = true := by
    rw [← hdata]
    exact TzifFile.startsWithMagic_encodeHeader ..
  have hmagic' : Tzif.startsWithMagic (data.drop (44 + legacyCounts.total 4)) = true := by
    rw [hdrop]
    exact TzifFile.startsWithMagic_encodeHeader ..
  have htotal := @TzifFile.total_lt _ hfits 4 (by norm_num)
  have hsize : blockSize legacyCounts 4 = .ok (legacyCounts.total 4) :=
    blockSize_eq_ok.mpr ⟨by omega, rfl⟩
  unfold Tzif.header
  rw [if_neg (by rw [hmagic]; simp; omega), htake,
    TzifFile.counts_encodeHeader hreserved hfits]
  simp only [bind, Except.bind, hsize]
  rw [hget, if_pos (List.contains_iff_mem.mpr hversion),
    checkedUsize_eq_some.mpr ⟨by omega, rfl⟩]
  dsimp only
  rw [if_neg (by rw [hmagic']; simp; omega)]

theorem parse_secondFile (hversion : version ∈ Tzif.versions) (hreserved : reserved.length = 15)
    (hreserved' : reserved'.length = 15) (hfits : legacyCounts.Fits)
    (hlegacy : legacyBlock.length = legacyCounts.total 4) (hb : b.WellFormed 8) :
    Tzif.parse (secondFile version reserved legacyCounts legacyBlock version' reserved' b rest) =
      .ok b.kept := by
  have hlength' := @TzifFile.length_encodeHeader version' _ b.counts hreserved'
  have hdrop := @drop_secondFile b version version' reserved reserved' legacyBlock rest
    legacyCounts hreserved hlegacy
  have hheader := @header_secondFile b version version' reserved reserved' legacyBlock rest
    legacyCounts hversion hreserved hreserved' hfits hlegacy
  have hdrop' := TzifFile.drop_field hdrop
  rw [hlength'] at hdrop'
  have hblock := parseBlock_of_drop (Or.inr rfl) hb hdrop'
  unfold Tzif.parse
  rw [hheader]
  simp only [bind, Except.bind, hdrop, List.take_left' hlength',
    TzifFile.counts_encodeHeader hreserved' hb.counts]
  exact hblock

end TzifBlock

end Calendar
end SleepySession
