import SleepySession.Lib.Transition
import SleepySession.Sessiond.GenerationRules

/-!
# Generations over whole runs

Any number of allocators works on one state file: they are opened, reserve
blocks, hand out numbers and skip ahead, while system calls fail, processes
stop and the machine loses power.  What carries the invariant is that whatever
the file may show, now or after a loss of power, is above every block that was
ever reserved durably.
-/

namespace SleepySession
namespace Sessiond

open Program

section Runs

open GenerationAllocator

/-- A generation that a call has returned. -/
structure Returned where
  who : Nat
  generation : Nat
  floor : Option Nat
  /-- What had been returned when the allocator was opened. -/
  before : List Nat
deriving DecidableEq, Repr

/-- The state file and everybody who uses it; allocators are numbered as they are opened. -/
structure GenerationRun where
  files : GenerationFiles
  allocators : Nat → Option GenerationAllocator
  before : Nat → List Nat
  count : Nat
  /-- What the calls have returned, newest first. -/
  returned : List Returned

inductive GenerationEvent where
  | open (blockSize : Nat) (script : List (Answer GenerationFile (List UInt8)))
  | call (who : Nat) (call : Call) (script : List (Answer GenerationFile (List UInt8)))
  | close (who : Nat)
  | powerLoss

namespace GenerationRun

def start (files : GenerationFiles) : GenerationRun :=
  ⟨files, fun _ => none, fun _ => [], 0, []⟩

/-- The run with another file and another state of one allocator. -/
def place (s : GenerationRun) (who : Nat) (files : GenerationFiles)
    (allocator : Option GenerationAllocator) : GenerationRun :=
  { s with files := files, allocators := Function.update s.allocators who allocator }

/-- A call of the allocator has returned a generation. -/
def record (s : GenerationRun) (who : Nat) (floor : Option Nat) (generation : Nat) :
    GenerationRun :=
  { s with returned := ⟨who, generation, floor, s.before who⟩ :: s.returned }

def afterOpen (s : GenerationRun) : Outcome IoError Unit × Allocation → GenerationRun
  | (.ok _, state) =>
      { s.place s.count state.directory (some state.self) with
        before := Function.update s.before s.count (s.returned.map (·.generation))
        count := s.count + 1 }
  | (_, state) => { s with files := state.directory }

def afterCall (s : GenerationRun) (who : Nat) (floor : Option Nat) :
    Outcome IoError (Option Nat) × Allocation → GenerationRun
  | (.ok (some generation), state) =>
      (s.place who state.directory (some state.self)).record who floor generation
  | (.ok none, state) => s.place who state.directory (some state.self)
  | (.error _, state) => s.place who state.directory (some state.self)
  | (.crashed, state) => s.place who state.directory none

/-- One step: the reservations of a call are made under the file lock. -/
def step (s : GenerationRun) : GenerationEvent → GenerationRun → Prop
  | .open blockSize script, s' =>
      s' = s.afterOpen (GenerationAllocator.open.run script ⟨s.files, .new blockSize⟩)
  | .call who call script, s' =>
      ∃ allocator, s.allocators who = some allocator ∧
        s' = s.afterCall who call.floor (call.program.run script ⟨s.files, allocator⟩)
  | .close who, s' => s' = s.place who s.files none
  | .powerLoss, s' =>
      ∃ files, s.files.Reverts files ∧
        s' = { s with files := files, allocators := fun _ => none }

end GenerationRun

/-- All runs over a file that is durable at first, whatever it holds. -/
def generationSystem : System GenerationRun GenerationEvent where
  initial s := ∃ files content, generationCell files = Cell.settled content ∧
    s = GenerationRun.start files
  step := GenerationRun.step

/-- What holds of the file, the allocators and the returned generations at any time. -/
structure GenerationRun.Invariant (s : GenerationRun) : Prop where
  beyondReturned : ∀ r ∈ s.returned, FileAbove (r.generation + 1) s.files
  beyondBlocks : ∀ i a, s.allocators i = some a → FileAbove a.end s.files
  numbered : ∀ i a, s.allocators i = some a → i < s.count
  known : ∀ r ∈ s.returned, r.who < s.count
  block : ∀ i a, s.allocators i = some a →
    0 < a.blockSize ∧ 0 < a.next ∧ a.next ≤ a.end ∧ a.end < 2 ^ 64
  apart : ∀ i j a b, i ≠ j → s.allocators i = some a → s.allocators j = some b →
    ∀ n, a.next ≤ n → n < a.end → b.next ≤ n → b.end ≤ n
  unused : ∀ r ∈ s.returned, ∀ i a, s.allocators i = some a →
    a.next ≤ r.generation → a.end ≤ r.generation
  own : ∀ r ∈ s.returned, ∀ a, s.allocators r.who = some a → r.generation < a.next
  later : ∀ i a, s.allocators i = some a → ∀ g ∈ s.before i, g < a.next
  known_before : ∀ i, ∀ g ∈ s.before i, ∃ r ∈ s.returned, r.generation = g
  readable : 0 < s.count → Readable s.files
  distinct : (s.returned.map (·.generation)).Nodup
  increasing : s.returned.Pairwise fun r r' => r'.who = r.who → r'.generation < r.generation
  results : ∀ r ∈ s.returned, 0 < r.generation ∧ r.generation < 2 ^ 64 ∧
    (∀ floor ∈ r.floor, floor < r.generation) ∧ ∀ g ∈ r.before, g < r.generation

variable {s s' : GenerationRun} {files : GenerationFiles} {who : Nat}
variable {a b : GenerationAllocator}

/-- An allocator has moved on: within its block, or to a block beyond everything. -/
structure MovedOn (s : GenerationRun) (files : GenerationFiles) (a b : GenerationAllocator) :
    Prop where
  size : b.blockSize = a.blockSize
  next : a.next ≤ b.next
  block : 0 < b.blockSize ∧ 0 < b.next ∧ b.next ≤ b.end ∧ b.end < 2 ^ 64
  target : b.end = a.end ∨ ∀ floor, FileAbove floor s.files → floor ≤ b.next
  beyond : FileAbove b.end files

/-- The file has only grown. -/
def Grown (files files' : GenerationFiles) : Prop :=
  (∀ floor, FileAbove floor files → FileAbove floor files') ∧
    (Readable files → Readable files')

theorem Written.grown {blockSize : Nat} {files files' : GenerationFiles}
    (h : Written blockSize files files') : Grown files files' :=
  ⟨fun _ => h.above, h.readable⟩

namespace GenerationRun.Invariant

/-- The allocators are the one that was placed and those that were there. -/
theorem place_cases {i : Nat} {c : GenerationAllocator}
    (h : (s.place who files (some b)).allocators i = some c) :
    (i = who ∧ c = b) ∨ (i ≠ who ∧ s.allocators i = some c) := by
  unfold GenerationRun.place at h
  by_cases hi : i = who
  · subst hi
    exact Or.inl ⟨rfl, by simpa using h.symm⟩
  · exact Or.inr ⟨hi, by simpa [hi] using h⟩

/-- An allocator goes away and the file grows. -/
theorem drop (hs : s.Invariant) (hgrown : Grown s.files files) (who : Nat) :
    (s.place who files none).Invariant := by
  have hlive : ∀ i a, (s.place who files none).allocators i = some a →
      s.allocators i = some a := by
    intro i a hi
    unfold GenerationRun.place at hi
    by_cases hwho : i = who
    · subst hwho
      simp at hi
    · simpa [hwho] using hi
  exact
    { beyondReturned := fun r hr => hgrown.1 _ (hs.beyondReturned r hr)
      beyondBlocks := fun i a hi => hgrown.1 _ (hs.beyondBlocks i a (hlive i a hi))
      numbered := fun i a hi => hs.numbered i a (hlive i a hi)
      known := hs.known
      block := fun i a hi => hs.block i a (hlive i a hi)
      apart := fun i j a b hne hi hj => hs.apart i j a b hne (hlive i a hi) (hlive j b hj)
      unused := fun r hr i a hi => hs.unused r hr i a (hlive i a hi)
      own := fun r hr a hi => hs.own r hr a (hlive r.who a hi)
      later := fun i a hi => hs.later i a (hlive i a hi)
      known_before := hs.known_before
      readable := fun h => hgrown.2 (hs.readable h)
      distinct := hs.distinct
      increasing := hs.increasing
      results := hs.results }

/-- An allocator moves on and the file grows. -/
theorem move (hs : s.Invariant) (hgrown : Grown s.files files) (hwho : s.allocators who = some a)
    (hmoved : MovedOn s files a b) : (s.place who files (some b)).Invariant := by
  -- the block that is moved to does not meet the others
  have hother : ∀ j c, j ≠ who → s.allocators j = some c →
      ∀ n, b.next ≤ n → n < b.end → c.next ≤ n → c.end ≤ n := by
    intro j c hj hc n hlow hhigh hnext
    rcases hmoved.target with hsame | hbeyond
    · by_contra hcontra
      have hapart := hs.apart j who c a hj hc hwho n hnext (by omega)
        (hmoved.next.trans hlow)
      omega
    · exact (hbeyond _ (hs.beyondBlocks j c hc)).trans hlow
  refine
    { beyondReturned := fun r hr => hgrown.1 _ (hs.beyondReturned r hr)
      beyondBlocks := fun i c hi => ?_
      numbered := fun i c hi => ?_
      known := hs.known
      block := fun i c hi => ?_
      apart := fun i j c d hne hi hj n => ?_
      unused := fun r hr i c hi hle => ?_
      own := fun r hr c hi => ?_
      later := fun i c hi g hg => ?_
      known_before := hs.known_before
      readable := fun h => hgrown.2 (hs.readable h)
      distinct := hs.distinct
      increasing := hs.increasing
      results := hs.results }
  · rcases place_cases hi with ⟨-, rfl⟩ | ⟨-, hold⟩
    · exact hmoved.beyond
    · exact hgrown.1 _ (hs.beyondBlocks i c hold)
  · rcases place_cases hi with ⟨rfl, -⟩ | ⟨-, hold⟩
    · exact hs.numbered _ _ hwho
    · exact hs.numbered i c hold
  · rcases place_cases hi with ⟨-, rfl⟩ | ⟨-, hold⟩
    · exact hmoved.block
    · exact hs.block i c hold
  · rcases place_cases hi with ⟨rfl, rfl⟩ | ⟨hiw, hold⟩ <;>
      rcases place_cases hj with ⟨rfl, rfl⟩ | ⟨hjw, hold'⟩
    · exact absurd rfl hne
    · exact hother j d hjw hold' n
    · intro hlow hhigh hnext
      by_contra hcontra
      have hapart := hother i c hiw hold n hnext (by omega) hlow
      omega
    · exact hs.apart i j c d hne hold hold' n
  · rcases place_cases hi with ⟨-, rfl⟩ | ⟨-, hold⟩
    · rcases hmoved.target with hsame | hbeyond
      · rw [hsame]
        exact hs.unused r hr who a hwho (hmoved.next.trans hle)
      · have habove := hbeyond _ (hs.beyondReturned r hr)
        omega
    · exact hs.unused r hr i c hold hle
  · rcases place_cases hi with ⟨hrw, rfl⟩ | ⟨-, hold⟩
    · exact (hs.own r hr a (hrw ▸ hwho)).trans_le hmoved.next
    · exact hs.own r hr c hold
  · rcases place_cases hi with ⟨rfl, rfl⟩ | ⟨-, hold⟩
    · exact (hs.later _ a hwho g hg).trans_le hmoved.next
    · exact hs.later i c hold g hg

/-- The first number of the rest of a block is returned. -/
theorem record (hs : s.Invariant) (hwho : s.allocators who = some a) (hleft : a.next < a.end)
    {floor : Option Nat} (hfloor : ∀ f ∈ floor, f < a.next) :
    ((s.place who s.files (some { a with next := a.next + 1 })).record who floor
      a.next).Invariant := by
  obtain ⟨hsize, hpositive, -, hbound⟩ := hs.block who a hwho
  have hmoved : MovedOn s s.files a { a with next := a.next + 1 } :=
    ⟨rfl, Nat.le_succ _, ⟨hsize, Nat.succ_pos _, hleft, hbound⟩, Or.inl rfl,
      hs.beyondBlocks who a hwho⟩
  have hplaced := hs.move ⟨fun _ h => h, fun h => h⟩ hwho hmoved
  have hlive : ∀ i c, (s.place who s.files (some { a with next := a.next + 1 })).allocators i =
      some c → (i = who ∧ c = { a with next := a.next + 1 }) ∨
        (i ≠ who ∧ s.allocators i = some c) :=
    fun _ _ hi => place_cases hi
  refine
    { beyondReturned := fun r hr => ?_
      beyondBlocks := hplaced.beyondBlocks
      numbered := hplaced.numbered
      known := fun r hr => ?_
      block := hplaced.block
      apart := hplaced.apart
      unused := fun r hr i c hi hle => ?_
      own := fun r hr c hi => ?_
      later := hplaced.later
      known_before := fun i g hg => ?_
      readable := hplaced.readable
      distinct := ?_
      increasing := ?_
      results := fun r hr => ?_ }
  · rcases List.mem_cons.mp hr with rfl | hold
    · exact fun content hmem n hn =>
        hleft.trans_le (hs.beyondBlocks who a hwho content hmem n hn)
    · exact hplaced.beyondReturned r hold
  · rcases List.mem_cons.mp hr with rfl | hold
    · exact hs.numbered who a hwho
    · exact hs.known r hold
  · rcases List.mem_cons.mp hr with rfl | hold
    · rcases hlive i c hi with ⟨-, rfl⟩ | ⟨hiw, hold⟩
      · simp only at hle
        omega
      · by_contra hcontra
        have hapart := hs.apart who i a c (Ne.symm hiw) hwho hold a.next le_rfl hleft hle
        exact hcontra hapart
    · exact hplaced.unused r hold i c hi hle
  · rcases List.mem_cons.mp hr with rfl | hold
    · rcases hlive _ c hi with ⟨-, rfl⟩ | ⟨hne, -⟩
      · exact Nat.lt_succ_self _
      · exact absurd rfl hne
    · exact hplaced.own r hold c hi
  · obtain ⟨r, hr, hgen⟩ := hs.known_before i g hg
    exact ⟨r, List.mem_cons_of_mem _ hr, hgen⟩
  · refine List.nodup_cons.mpr ⟨?_, hs.distinct⟩
    intro hmem
    obtain ⟨r, hr, hsame⟩ := List.mem_map.mp hmem
    have hsame : r.generation = a.next := hsame
    have hunused := hs.unused r hr who a hwho hsame.ge
    omega
  · refine List.pairwise_cons.mpr ⟨fun r hr hsame => ?_, hs.increasing⟩
    exact hs.own r hr a (hsame ▸ hwho)
  · rcases List.mem_cons.mp hr with rfl | hold
    · exact ⟨hpositive, hleft.trans hbound, hfloor, hs.later who a hwho⟩
    · exact hs.results r hold

/-- A reservation is a move to a block beyond everything. -/
theorem movedOn_reserved (hs : s.Invariant) (hwho : s.allocators who = some a)
    {state' : Allocation} (hreserved : Reserved ⟨s.files, a⟩ state') :
    MovedOn s state'.directory a state'.self ∧ a.end ≤ state'.self.next ∧
      state'.self.next < state'.self.end := by
  obtain ⟨start, finish, hblock, hstate, -⟩ := id hreserved
  obtain ⟨hpositive, hle, hbound⟩ := hblock.bounds
  have hend : a.end ≤ start := hblock.above (hs.beyondBlocks who a hwho)
  have hblockA := hs.block who a hwho
  have hleft : start < finish := by
    obtain ⟨hsum, -⟩ := checkedAdd_eq_some.mp hblock.2
    have hsize : 0 < a.blockSize := hblockA.1
    simp only at hsum
    omega
  have habove := hreserved.above_end
  rw [hstate] at habove ⊢
  exact ⟨⟨rfl, hblockA.2.2.1.trans hend, ⟨hblockA.1, hpositive, hle, hbound⟩,
    Or.inr fun floor hfloor => hblock.above hfloor, habove⟩, hend, hleft⟩

theorem place_place (s : GenerationRun) (who : Nat) (files files' : GenerationFiles)
    (x y : Option GenerationAllocator) :
    (s.place who files x).place who files' y = s.place who files' y := by
  unfold GenerationRun.place
  simp

/-- An allocator that stays where it is while the file grows. -/
theorem attempted (hs : s.Invariant) (hwho : s.allocators who = some a) {state' : Allocation}
    (h : Attempted ⟨s.files, a⟩ state') :
    (s.place who state'.directory (some state'.self)).Invariant := by
  obtain ⟨hself, hwritten⟩ := h
  rw [hself]
  exact hs.move hwritten.grown hwho ⟨rfl, le_rfl, hs.block who a hwho, Or.inl rfl,
    hwritten.above (hs.beyondBlocks who a hwho)⟩

theorem reserved (hs : s.Invariant) (hwho : s.allocators who = some a) {state' : Allocation}
    (h : Reserved ⟨s.files, a⟩ state') :
    (s.place who state'.directory (some state'.self)).Invariant :=
  hs.move h.written.grown hwho (hs.movedOn_reserved hwho h).1

/-- An allocator skips ahead in its block. -/
theorem placed (hs : s.Invariant) (hwho : s.allocators who = some a) {call : Call}
    {state : Allocation} (h : Placed call ⟨s.files, a⟩ state) :
    state = ⟨s.files, state.self⟩ ∧ state.self.next ≤ state.self.end ∧
      (∀ floor ∈ call.floor, floor < state.self.next) ∧
      (s.place who s.files (some state.self)).Invariant := by
  obtain ⟨n, hle, hwithin, hfloor, rfl⟩ := h
  obtain ⟨hsize, hpositive, hnext, hbound⟩ := hs.block who a hwho
  have hend : n ≤ a.end := by
    rcases hwithin with rfl | hend
    · exact hnext
    · exact hend
  exact ⟨rfl, hend, hfloor, hs.move ⟨fun _ h => h, fun h => h⟩ hwho
    ⟨rfl, hle, ⟨hsize, hpositive.trans_le hle, hend, hbound⟩, Or.inl rfl,
      hs.beyondBlocks who a hwho⟩⟩

/-- The step lemma of a call. -/
theorem afterCall (hs : s.Invariant) (hwho : s.allocators who = some a) {call : Call}
    {outcome : Outcome IoError (Option Nat)} {state' : Allocation}
    (h : (callPost call ⟨s.files, a⟩).holds (outcome, state')) :
    (s.afterCall who call.floor (outcome, state')).Invariant := by
  cases outcome with
  | crashed => exact hs.drop (Written.grown h) who
  | error e =>
      rcases h with hattempted | hreserved | ⟨state, hplaced, htake⟩
      · exact hs.attempted hwho hattempted
      · exact hs.reserved hwho hreserved
      · obtain ⟨hstate, -, -, hs'⟩ := hs.placed hwho hplaced
        have hwho' : (s.place who s.files (some state.self)).allocators who = some state.self := by
          simp [GenerationRun.place]
        rw [hstate] at htake
        have hnext := htake.elim (hs'.attempted hwho') (hs'.reserved hwho')
        rwa [place_place] at hnext
  | ok result =>
      cases result with
      | none => exact hs.reserved hwho h.2
      | some generation =>
          obtain ⟨state, hplaced, stocked, hstocked, rfl, rfl⟩ := h
          obtain ⟨hstate, hnext, hfloor, hs'⟩ := hs.placed hwho hplaced
          have hwho' : (s.place who s.files (some state.self)).allocators who =
              some state.self := by
            simp [GenerationRun.place]
          rw [hstate] at hstocked
          rcases hstocked with ⟨rfl, hne⟩ | ⟨hreserved, hend⟩
          · have hrecord := hs'.record hwho' (Nat.lt_of_le_of_ne hnext hne) hfloor
            rwa [place_place] at hrecord
          · obtain ⟨-, hbehind, hleft⟩ := hs'.movedOn_reserved hwho' hreserved
            have hs'' := hs'.reserved hwho' hreserved
            rw [place_place] at hs''
            have hwho'' : (s.place who stocked.directory (some stocked.self)).allocators who =
                some stocked.self := by
              simp [GenerationRun.place]
            have hfloor' : ∀ floor ∈ call.floor, floor < stocked.self.next :=
              fun floor hf => (hfloor floor hf).trans_le (hnext.trans hbehind)
            have hrecord := hs''.record hwho'' hleft hfloor'
            rwa [place_place] at hrecord

theorem grow (hs : s.Invariant) (hgrown : Grown s.files files) :
    { s with files := files : GenerationRun }.Invariant :=
  { hs with
    beyondReturned := fun r hr => hgrown.1 _ (hs.beyondReturned r hr)
    beyondBlocks := fun i a hi => hgrown.1 _ (hs.beyondBlocks i a hi)
    readable := fun h => hgrown.2 (hs.readable h) }

/-- An allocator that was opened has a block beyond everything. -/
theorem opened (hs : s.Invariant) {blockSize : Nat} (hsize : 0 < blockSize) {state' : Allocation}
    (h : Reserved ⟨s.files, .new blockSize⟩ state') :
    (s.afterOpen (.ok (), state')).Invariant := by
  obtain ⟨start, finish, hblock, hself, -⟩ := id h
  obtain ⟨hpositive, hle, hbound⟩ := hblock.bounds
  have hgrown := h.written.grown
  have habove := h.above_end
  have hlive : ∀ i a, (s.afterOpen (.ok (), state')).allocators i = some a →
      (i = s.count ∧ a = state'.self) ∨ (i ≠ s.count ∧ s.allocators i = some a) :=
    fun i a hi => place_cases
      (show (s.place s.count state'.directory (some state'.self)).allocators i = some a from hi)
  have hbefore : ∀ i, i ≠ s.count → (s.afterOpen (.ok (), state')).before i = s.before i :=
    fun i hi => Function.update_of_ne hi _ _
  have hnext : state'.self.next = start := by rw [hself]
  have hstart : ∀ floor, FileAbove floor s.files → floor ≤ state'.self.next :=
    fun floor hfloor => hnext ▸ hblock.above hfloor
  refine
    { beyondReturned := fun r hr => hgrown.1 _ (hs.beyondReturned r hr)
      beyondBlocks := fun i a hi => ?_
      numbered := fun i a hi => ?_
      known := fun r hr => Nat.lt_succ_of_lt (hs.known r hr)
      block := fun i a hi => ?_
      apart := fun i j a b hne hi hj n hlow hhigh hb => ?_
      unused := fun r hr i a hi hle' => ?_
      own := fun r hr a hi => ?_
      later := fun i a hi g hg => ?_
      known_before := fun i g hg => ?_
      readable := fun _ => h.readable
      distinct := hs.distinct
      increasing := hs.increasing
      results := hs.results }
  · rcases hlive i a hi with ⟨-, rfl⟩ | ⟨-, hold⟩
    · exact habove
    · exact hgrown.1 _ (hs.beyondBlocks i a hold)
  · rcases hlive i a hi with ⟨rfl, -⟩ | ⟨-, hold⟩
    · exact Nat.lt_succ_self _
    · exact Nat.lt_succ_of_lt (hs.numbered i a hold)
  · rcases hlive i a hi with ⟨-, rfl⟩ | ⟨-, hold⟩
    · rw [hself]
      exact ⟨hsize, hpositive, hle, hbound⟩
    · exact hs.block i a hold
  · rcases hlive i a hi with ⟨rfl, rfl⟩ | ⟨-, hold⟩ <;>
      rcases hlive j b hj with ⟨rfl, rfl⟩ | ⟨-, hold'⟩
    · exact absurd rfl hne
    · exact (hstart _ (hs.beyondBlocks j b hold')).trans hlow
    · have hend := hstart _ (hs.beyondBlocks i a hold)
      omega
    · exact hs.apart i j a b hne hold hold' n hlow hhigh hb
  · rcases hlive i a hi with ⟨-, rfl⟩ | ⟨-, hold⟩
    · have hbeyond := hstart _ (hs.beyondReturned r hr)
      omega
    · exact hs.unused r hr i a hold hle'
  · rcases hlive r.who a hi with ⟨hwho, -⟩ | ⟨-, hold⟩
    · exact absurd hwho (Nat.ne_of_lt (hs.known r hr))
    · exact hs.own r hr a hold
  · rcases hlive i a hi with ⟨rfl, rfl⟩ | ⟨hi', hold⟩
    · rw [show (s.afterOpen (.ok (), state')).before s.count = s.returned.map (·.generation) from
        Function.update_self _ _ _] at hg
      obtain ⟨r, hr, rfl⟩ := List.mem_map.mp hg
      exact hstart _ (hs.beyondReturned r hr)
    · rw [hbefore i hi'] at hg
      exact hs.later i a hold g hg
  · by_cases hi' : i = s.count
    · subst hi'
      rw [show (s.afterOpen (.ok (), state')).before s.count = s.returned.map (·.generation) from
        Function.update_self _ _ _] at hg
      exact List.mem_map.mp hg
    · rw [hbefore i hi'] at hg
      exact hs.known_before i g hg

/-- The step lemma. -/
theorem step (hs : s.Invariant) {e : GenerationEvent} (h : s.step e s') : s'.Invariant := by
  cases e with
  | «open» blockSize script =>
      obtain rfl := h
      cases hrun : GenerationAllocator.open.run script ⟨s.files, .new blockSize⟩ with
      | mk outcome state' =>
          have hpost := holds_of_run hrun wp_open
          cases outcome with
          | ok _ => exact hs.opened hpost.1 hpost.2
          | error _ => exact hs.grow (Written.grown hpost)
          | crashed => exact hs.grow (Written.grown hpost)
  | call who call script =>
      obtain ⟨a, hwho, rfl⟩ := h
      cases hrun : call.program.run script ⟨s.files, a⟩ with
      | mk outcome state' => exact hs.afterCall hwho (holds_of_run hrun (wp_call call))
  | close who =>
      obtain rfl := h
      exact hs.drop ⟨fun _ h => h, fun h => h⟩ who
  | powerLoss =>
      obtain ⟨files, hreverts, rfl⟩ := h
      have hvalues : ∀ content ∈ (generationCell files).values,
          content ∈ (generationCell s.files).values := by
        intro content hmem
        obtain ⟨x, hx, hcell⟩ := hreverts () (.named .state)
        unfold generationCell at hmem ⊢
        rw [hcell, values_settled, List.mem_singleton] at hmem
        exact hmem ▸ hx
      have hgrown : Grown s.files files :=
        ⟨fun floor habove content hmem => habove content (hvalues content hmem),
          fun hreadable content hmem => hreadable content (hvalues content hmem)⟩
      have hnone := hs.grow hgrown
      exact
        { hnone with
          beyondBlocks := fun i a hi => by cases hi
          numbered := fun i a hi => by cases hi
          block := fun i a hi => by cases hi
          apart := fun i j a b _ hi => by cases hi
          unused := fun r _ i a hi => by cases hi
          own := fun r _ a hi => by cases hi
          later := fun i a hi => by cases hi }

theorem start (files : GenerationFiles) : (GenerationRun.start files).Invariant :=
  { beyondReturned := fun r hr => by cases hr
    beyondBlocks := fun i a hi => by cases hi
    numbered := fun i a hi => by cases hi
    known := fun r hr => by cases hr
    block := fun i a hi => by cases hi
    apart := fun i j a b _ hi => by cases hi
    unused := fun r hr => by cases hr
    own := fun r hr => by cases hr
    later := fun i a hi => by cases hi
    known_before := fun i g hg => by cases hg
    readable := fun h => absurd h (Nat.lt_irrefl 0)
    distinct := List.nodup_nil
    increasing := List.Pairwise.nil
    results := fun r hr => by cases hr }

end GenerationRun.Invariant

theorem GenerationRun.invariant_of_reachable (h : generationSystem.Reachable s) : s.Invariant := by
  refine h.invariant ?_ fun s e s' hs hstep => hs.step hstep
  rintro s ⟨files, -, -, rfl⟩
  exact GenerationRun.Invariant.start files

/-- All generations that were ever returned differ, those of one allocator increase, each
exceeds the floor of its call and whatever was returned before its allocator was opened, and
whatever the file may show, now or after a loss of power, lies above all of them. -/
theorem generations_never_repeat (h : generationSystem.Reachable s) :
    (s.returned.map (·.generation)).Nodup ∧
      (s.returned.Pairwise fun r r' => r'.who = r.who → r'.generation < r.generation) ∧
      (∀ r ∈ s.returned, 0 < r.generation ∧ r.generation < 2 ^ 64 ∧
        (∀ floor ∈ r.floor, floor < r.generation) ∧ ∀ g ∈ r.before, g < r.generation) ∧
      ∀ r ∈ s.returned, ∀ content ∈ (generationCell s.files).values, ∀ n,
        foundNext content = some n → r.generation < n := by
  have hs := GenerationRun.invariant_of_reachable h
  exact ⟨hs.distinct, hs.increasing, hs.results, hs.beyondReturned⟩

/-- No state file, and no file beside it. -/
def emptyFiles : GenerationFiles :=
  ⟨fun _ _ => Cell.settled none⟩

/-- An allocator with blocks of two numbers over no file at all. -/
def openedRun : GenerationRun :=
  (GenerationRun.start emptyFiles).afterOpen
    (GenerationAllocator.open.run [] ⟨emptyFiles, .new 2⟩)

theorem openedRun_reachable : generationSystem.Reachable openedRun :=
  .step (e := .open 2 []) (.initial ⟨emptyFiles, none, rfl, rfl⟩) rfl

/-- One more allocator is opened. -/
def openSample (s : GenerationRun) : GenerationRun :=
  s.afterOpen (GenerationAllocator.open.run [] ⟨s.files, .new 2⟩)

/-- A call of an allocator, if it is still there. -/
def callSample (who : Nat) (call : Call) (s : GenerationRun) : GenerationRun :=
  (s.allocators who).elim s fun a =>
    s.afterCall who call.floor (call.program.run [] ⟨s.files, a⟩)

/-- Power is lost, and of each entry the oldest content that may be found is. -/
def cutSample (s : GenerationRun) : GenerationRun :=
  { s with files := s.files.powerLoss fun _ _ => 0, allocators := fun _ => none }

theorem callSample_reachable (who : Nat) (call : Call) (h : generationSystem.Reachable s) :
    generationSystem.Reachable (callSample who call s) := by
  unfold callSample
  cases ha : s.allocators who with
  | none => exact h
  | some a => exact .step (e := .call who call []) h ⟨a, ha, rfl⟩

/-- Two allocators hand out numbers in turn, and one of them skips ahead. -/
def turnsSample : GenerationRun :=
  callSample 1 (.afterRound 6) (callSample 1 (.afterRound 6)
    (callSample 0 .next (callSample 1 .next (openSample (callSample 0 .next openedRun)))))

/-- After a loss of power a third one goes on. -/
def sampleRun : GenerationRun :=
  callSample 2 .next (openSample (cutSample turnsSample))

theorem sampleRun_reachable : generationSystem.Reachable sampleRun := by
  have hturns : generationSystem.Reachable turnsSample :=
    callSample_reachable 1 _ (callSample_reachable 1 _ (callSample_reachable 0 _
      (callSample_reachable 1 _ (.step (e := .open 2 [])
        (callSample_reachable 0 .next openedRun_reachable) rfl))))
  exact callSample_reachable 2 _ (.step (e := .open 2 [])
    (.step (e := .powerLoss) hturns ⟨_, Volume.reverts_powerLoss _ _, rfl⟩) rfl)

/-- Nothing is returned twice, not even after the loss of power. -/
theorem generations_never_repeat_sample :
    sampleRun.returned = [⟨2, 9, none, [7, 2, 3, 1]⟩, ⟨1, 7, some 6, [1]⟩, ⟨0, 2, none, []⟩,
        ⟨1, 3, none, [1]⟩, ⟨0, 1, none, []⟩] ∧
      (sampleRun.returned.map (·.generation)).Nodup ∧
      ∀ content ∈ (generationCell sampleRun.files).values, ∀ n,
        foundNext content = some n → 9 < n := by
  have hreturned : sampleRun.returned = [⟨2, 9, none, [7, 2, 3, 1]⟩, ⟨1, 7, some 6, [1]⟩,
      ⟨0, 2, none, []⟩, ⟨1, 3, none, [1]⟩, ⟨0, 1, none, []⟩] := by
    decide
  obtain ⟨hdistinct, -, -, hbeyond⟩ := generations_never_repeat sampleRun_reachable
  exact ⟨hreturned, hdistinct,
    hbeyond ⟨2, 9, none, [7, 2, 3, 1]⟩ (hreturned ▸ List.mem_cons_self)⟩

end Runs

end Sessiond
end SleepySession
