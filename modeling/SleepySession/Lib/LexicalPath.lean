import Mathlib.Tactic

/-!
# Paths as sequences of components

A path is a list of bytes.  Its components are what lies between the separators;
lexical resolution goes through them without looking at any file.
-/

namespace SleepySession

/-- One component of a path. -/
inductive Component (N : Type) where
  | rootDir
  | curDir
  | parentDir
  | normal (name : N)
deriving DecidableEq

namespace Component

variable {N : Type} {inside dir : List N} {c : Component N} {cs cs' : List (Component N)}

/-- Follow one component from a directory; nothing lies above the root. -/
def follow : List N → Component N → List N
  | _, rootDir => []
  | dir, curDir => dir
  | dir, parentDir => dir.dropLast
  | dir, normal name => dir ++ [name]

/-- Where a list of components leads, from a directory. -/
def lexical (dir : List N) (cs : List (Component N)) : List N :=
  cs.foldl follow dir

/-- No component on the way leads out of the directory `inside`. -/
def StaysIn (inside dir : List N) (cs : List (Component N)) : Prop :=
  ∀ taken, taken <+: cs → inside <+: lexical dir taken

@[simp] theorem lexical_nil : lexical dir [] = dir :=
  rfl

@[simp] theorem lexical_cons : lexical dir (c :: cs) = lexical (follow dir c) cs :=
  rfl

theorem lexical_append : lexical dir (cs ++ cs') = lexical (lexical dir cs) cs' :=
  List.foldl_append

theorem lexical_normals {names : List N} : lexical dir (names.map normal) = dir ++ names := by
  induction names generalizing dir with
  | nil => simp
  | cons name names ih =>
      rw [List.map_cons, lexical_cons, ih]
      simp [follow]

theorem staysIn_nil (h : inside <+: dir) : StaysIn inside dir [] := by
  intro taken htaken
  rw [List.prefix_nil.mp htaken]
  exact h

theorem staysIn_cons (h : inside <+: dir) (hrest : StaysIn inside (follow dir c) cs) :
    StaysIn inside dir (c :: cs) := by
  intro taken htaken
  cases taken with
  | nil => exact h
  | cons c' taken =>
      obtain ⟨rfl, htail⟩ := List.cons_prefix_cons.mp htaken
      exact hrest taken htail

theorem StaysIn.lexical (h : StaysIn inside dir cs) : inside <+: lexical dir cs :=
  h cs (List.prefix_refl cs)

end Component

section Parsing

def slash : UInt8 := '/'.toUInt8

def dot : UInt8 := '.'.toUInt8

/-- What lies between the separators. -/
def pieces : List UInt8 → List (List UInt8)
  | [] => [[]]
  | b :: path =>
      if b = slash then
        [] :: pieces path
      else
        match pieces path with
        | [] => [[b]]
        | piece :: rest => (b :: piece) :: rest

/-- Nothing stands for repeated separators and for a dot. -/
def componentOf (piece : List UInt8) : Option (Component (List UInt8)) :=
  if piece = [] ∨ piece = [dot] then none
  else if piece = [dot, dot] then some .parentDir
  else some (.normal piece)

/-- `Path::is_absolute`. -/
def isAbsolute (path : List UInt8) : Bool :=
  path.head? = some slash

/-- `Path::components`; only a leading dot of a relative path is kept. -/
def components (path : List UInt8) : List (Component (List UInt8)) :=
  let rest := (pieces path).filterMap componentOf
  if isAbsolute path then .rootDir :: rest
  else if (pieces path).head? = some [dot] then .curDir :: rest
  else rest

theorem rootDir_not_mem_rest {path : List UInt8} :
    .rootDir ∉ (pieces path).filterMap componentOf := by
  intro h
  obtain ⟨piece, -, hpiece⟩ := List.mem_filterMap.mp h
  unfold componentOf at hpiece
  split_ifs at hpiece <;> cases hpiece

end Parsing

end SleepySession
