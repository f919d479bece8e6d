import SleepySession.Store.StoreLinks

/-!
# Links that stay in the store

The resolution ends after at most as many rounds as there may be links.  What it
returns is the content of a regular file with the required owner, reached by
links whose targets lead, component by component, to a path inside the store.
-/

namespace SleepySession
namespace StoreLinks

open Component Relation

variable {ι : Type} {fs : FileSystem ι}

section Walks

/-- What a walk along a path can end at. -/
inductive Ending where
  | link (target : Except String Path) (rest : List Name)
  | regular (owner : Nat) (contents : Except String (List UInt8))

/-- A walk that goes through the directories `before` and ends at a link or at the file. -/
inductive Meets (fs : FileSystem ι) : ι → List Name → List Name → Ending → Prop where
  | link {directory child : ι} {name : Name} {rest : List Name} {owner : Nat}
      {target : Except String Path}
      (hopen : openPath fs directory name = .ok child)
      (hnode : fs.node child = .link owner target) :
      Meets fs directory (name :: rest) [] (.link target rest)
  | regular {directory child : ι} {name : Name} {owner : Nat}
      {contents : Except String (List UInt8)}
      (hopen : openPath fs directory name = .ok child)
      (hnode : fs.node child = .regular owner contents) :
      Meets fs directory [name] [] (.regular owner contents)
  | enter {directory child : ι} {name : Name} {rest before : List Name} {owner : Nat}
      {entries : Name → Except OpenError ι} {ending : Ending}
      (hopen : openPath fs directory name = .ok child)
      (hnode : fs.node child = .directory owner entries)
      (h : Meets fs child rest before ending) :
      Meets fs directory (name :: rest) (name :: before) ending

variable {directory : ι} {path before before' rest : List Name} {ending ending' : Ending}

/-- A path leads to one place. -/
theorem Meets.unique
    (h : Meets fs directory path before ending)
    (h' : Meets fs directory path before' ending') :
    before = before' ∧ ending = ending' := by
  induction h generalizing before' with
  | link hopen hnode =>
      cases h' with
      | link hopen' hnode' => grind
      | regular hopen' hnode' => grind
      | enter hopen' hnode' => grind
  | regular hopen hnode =>
      cases h' with
      | link hopen' hnode' => grind
      | regular hopen' hnode' => grind
      | enter hopen' hnode' => grind
  | enter hopen hnode h ih =>
      cases h' with
      | link hopen' hnode' => grind
      | regular hopen' hnode' => grind
      | enter hopen' hnode' h' =>
          rw [hopen] at hopen'
          cases hopen'
          obtain ⟨rfl, rfl⟩ := ih h'
          exact ⟨rfl, rfl⟩

theorem cString_eq_ok {component name : Name} {shown : Path}
    (h : cString component shown = .ok name) : name = component := by
  unfold cString at h
  split at h
  · cases h
  · exact (Except.ok.inj h).symm

theorem openFinal_eq_ok {name : Name} {child : ι} (h : openFinal fs directory name = .ok child) :
    openPath fs directory name = .ok child := by
  unfold openFinal at h
  split at h
  · cases h
  · split at h
    · cases h
    · split at h
      · cases h
        assumption
      · cases h

theorem openComponent_eq_ok {name : Name} {child : ι} {shown : Path} {isFinal : Bool}
    (h : openComponent fs shown directory name isFinal = .ok child) :
    openPath fs directory name = .ok child := by
  have hmap : ∀ {x : Except OpenError ι},
      x.mapError (mapOpenError shown) = .ok child → x = .ok child := by
    intro x hx
    cases x with
    | ok _ => exact congrArg _ (Except.ok.inj hx)
    | error _ => cases hx
  unfold openComponent at h
  split at h
  · split at h
    · rename_i hfinal
      cases h
      exact openFinal_eq_ok hfinal
    · exact hmap h
    · cases h
  · exact hmap h

variable {shown : Path} {requiredOwner : Nat}

/-- Where a walk stops at a link. -/
theorem meets_of_walk_link {target : Except String Path}
    (h : walk fs shown requiredOwner directory before path = .link before' target rest) :
    ∃ middle, before' = before ++ middle ∧
      Meets fs directory path middle (.link target rest) := by
  induction path generalizing directory before with
  | nil => cases h
  | cons component path ih =>
      rw [walk] at h
      split at h
      · cases h
      rename_i name hname
      obtain rfl := cString_eq_ok hname
      split at h
      · cases h
      rename_i child hchild
      have hopen := openComponent_eq_ok hchild
      split at h
      · rename_i hnode
        cases h
        exact ⟨[], (List.append_nil _).symm, .link hopen hnode⟩
      · rename_i hnode
        split at h
        · cases h
        · obtain ⟨middle, rfl, hmeets⟩ := ih h
          exact ⟨name :: middle, by simp, .enter hopen hnode hmeets⟩
      · split at h
        · cases h
        · cases h
      · cases h

/-- Where a walk returns a content. -/
theorem meets_of_walk_ok {contents : List UInt8}
    (h : walk fs shown requiredOwner directory before path = .done (.ok contents)) :
    ∃ middle, Meets fs directory path middle (.regular requiredOwner (.ok contents)) := by
  induction path generalizing directory before with
  | nil => cases h
  | cons component path ih =>
      rw [walk] at h
      split at h
      · cases h
      rename_i name hname
      obtain rfl := cString_eq_ok hname
      split at h
      · cases h
      rename_i child hchild
      have hopen := openComponent_eq_ok hchild
      split at h
      · cases h
      · rename_i hnode
        split at h
        · cases h
        · obtain ⟨middle, hmeets⟩ := ih h
          exact ⟨name :: middle, .enter hopen hnode hmeets⟩
      · rename_i owner found hnode
        split at h
        · rename_i hfinal
          obtain ⟨hlast, rfl⟩ := hfinal
          obtain rfl := List.isEmpty_iff.mp hlast
          cases found with
          | error e => cases h
          | ok found =>
              cases h
              exact ⟨[], .regular hopen hnode⟩
        · cases h
      · cases h

end Walks

section Targets

variable {names parent resolved : List Name} {storeRoot target : Path}

/-- A target that leads, without leaving the store, to the given path inside it. -/
structure ResolvesInside (names : List Name) (storeRoot target : Path)
    (parent resolved : List Name) : Prop where
  resolved : lexical (names ++ parent) (components target) = names ++ resolved
  /-- An absolute target begins with the store; no component leads out of it again. -/
  stays : ∃ entry rest, components target = entry ++ rest ∧
    (if isAbsolute target then entry = components storeRoot else entry = []) ∧
    StaysIn names (lexical (names ++ parent) entry) rest

theorem normalizeComponents_eq_ok {cs : List (Component Name)} {start : List Name}
    (h : normalizeComponents target start cs = .ok resolved) :
    lexical (names ++ start) cs = names ++ resolved ∧ StaysIn names (names ++ start) cs := by
  have hinside : ∀ start : List Name, names <+: names ++ start := List.prefix_append names
  induction cs generalizing start with
  | nil =>
      cases h
      exact ⟨rfl, staysIn_nil (hinside _)⟩
  | cons c cs ih =>
      cases c with
      | rootDir => cases h
      | curDir =>
          obtain ⟨hlexical, hstays⟩ := ih h
          exact ⟨hlexical, staysIn_cons (hinside _) hstays⟩
      | normal name =>
          obtain ⟨hlexical, hstays⟩ := ih h
          rw [← List.append_assoc] at hlexical hstays
          exact ⟨hlexical, staysIn_cons (hinside _) hstays⟩
      | parentDir =>
          rw [normalizeComponents] at h
          split at h
          · cases h
          rename_i hne
          obtain ⟨hlexical, hstays⟩ := ih h
          rw [← List.dropLast_append_of_ne_nil hne] at hlexical hstays
          exact ⟨hlexical, staysIn_cons (hinside _) hstays⟩

theorem stripPrefix_eq_some {base cs rest : List (Component Name)}
    (h : stripPrefix base cs = some rest) : cs = base ++ rest := by
  induction base generalizing cs with
  | nil =>
      cases h
      rfl
  | cons b base ih =>
      cases cs with
      | nil => cases h
      | cons c cs =>
          rw [stripPrefix] at h
          split at h
          · rename_i hb
            rw [hb, List.cons_append, ← ih h]
          · cases h

/-- A target that the code accepts leads to a path inside the store. -/
theorem resolvesInside_of_normalize
    (hroot : components storeRoot = .rootDir :: names.map .normal)
    (h : normalizeStoreTarget target storeRoot parent = .ok resolved) :
    ResolvesInside names storeRoot target parent resolved := by
  unfold normalizeStoreTarget at h
  split at h
  · rename_i habsolute
    split at h
    · cases h
    rename_i relative hstrip
    have hcomponents := stripPrefix_eq_some hstrip
    have hentry : lexical (names ++ parent) (components storeRoot) = names := by
      rw [hroot, lexical_cons, lexical_normals]
      rfl
    obtain ⟨hlexical, hstays⟩ := @normalizeComponents_eq_ok names _ _ _ _ h
    rw [List.append_nil] at hlexical hstays
    refine ⟨?_, components storeRoot, relative, hcomponents, ?_, ?_⟩
    · rw [hcomponents, lexical_append, hentry, hlexical]
    · rw [if_pos habsolute]
    · rw [hentry]
      exact hstays
  · rename_i hrelative
    obtain ⟨hlexical, hstays⟩ := @normalizeComponents_eq_ok names _ _ _ _ h
    refine ⟨hlexical, [], components target, rfl, ?_, hstays⟩
    rw [if_neg hrelative]

theorem ResolvesInside.unique {resolved' : List Name}
    (h : ResolvesInside names storeRoot target parent resolved)
    (h' : ResolvesInside names storeRoot target parent resolved') :
    resolved = resolved' :=
  List.append_cancel_left (h.resolved.symm.trans h'.resolved)

end Targets

section Resolutions

variable {names : List Name} {storeRoot shown : Path} {requiredOwner maxSymlinkHops : Nat}
variable {store : ι} {p q p₀ : List Name} {s s' : Resolution}

/-- The directory of the store, and its path. -/
structure StoreAt (fs : FileSystem ι) (storeRoot : Path) (names : List Name) (store : ι) :
    Prop where
  names : components storeRoot = .rootDir :: names.map .normal
  opened : openDirectoryPathNoFollow fs storeRoot = .ok store

/-- A link on a path inside the store leads to another path inside the store. -/
def Hop (fs : FileSystem ι) (names : List Name) (storeRoot : Path) (store : ι)
    (p q : List Name) : Prop :=
  ∃ before target rest resolved, Meets fs store p before (.link (.ok target) rest) ∧
    ResolvesInside names storeRoot target before resolved ∧ q = resolved ++ rest

theorem names_of_openDirectories {path : Path} {descriptor child : ι}
    {cs : List (Component Name)}
    (hroot : .rootDir ∉ cs)
    (h : openDirectories fs path descriptor cs = .ok child) :
    ∃ names : List Name, cs = names.map .normal := by
  induction cs generalizing descriptor with
  | nil => exact ⟨[], rfl⟩
  | cons c cs ih =>
      rw [List.mem_cons, not_or] at hroot
      cases c with
      | rootDir => exact absurd rfl hroot.1
      | curDir => cases h
      | parentDir => cases h
      | normal name =>
          rw [openDirectories] at h
          split at h
          · cases h
          split at h
          · cases h
          obtain ⟨names, rfl⟩ := ih hroot.2 h
          exact ⟨name :: names, rfl⟩

theorem storeAt_of_opened (h : openDirectoryPathNoFollow fs storeRoot = .ok store) :
    ∃ names, StoreAt fs storeRoot names store := by
  have hopened := h
  unfold openDirectoryPathNoFollow at h
  cases habsolute : isAbsolute storeRoot with
  | false => simp [habsolute] at h
  | true =>
      have hcomponents : components storeRoot =
          .rootDir :: (pieces storeRoot).filterMap componentOf := by
        simp [components, habsolute]
      rw [habsolute, hcomponents] at h
      obtain ⟨names, hnames⟩ := names_of_openDirectories rootDir_not_mem_rest h
      exact ⟨names, by rw [hcomponents, hnames], hopened⟩

theorem StoreAt.unique {names' : List Name} {store' : ι}
    (h : StoreAt fs storeRoot names store) (h' : StoreAt fs storeRoot names' store') :
    names = names' ∧ store = store' := by
  refine ⟨?_, Except.ok.inj (h.opened.symm.trans h'.opened)⟩
  have hmap := List.tail_eq_of_cons_eq (h.names.symm.trans h'.names)
  exact List.map_injective_iff.mpr (fun _ _ => Component.normal.inj) hmap

theorem hop_rightUnique : Relator.RightUnique (Hop fs names storeRoot store) := by
  rintro p q q' ⟨before, target, rest, resolved, hmeets, hinside, rfl⟩
    ⟨before', target', rest', resolved', hmeets', hinside', rfl⟩
  obtain ⟨rfl, heq⟩ := hmeets.unique hmeets'
  cases heq
  rw [hinside.unique hinside']

/-- One more round follows one link. -/
theorem hop_of_round
    (hroot : components storeRoot = .rootDir :: names.map .normal)
    (h : resolveRound fs shown storeRoot requiredOwner maxSymlinkHops store s = .inr s') :
    Hop fs names storeRoot store s.pending s'.pending ∧ s'.followed = s.followed + 1 ∧
      s'.followed ≤ maxSymlinkHops := by
  unfold resolveRound at h
  split at h
  · cases h
  split at h
  · cases h
  rename_i before target rest hwalk
  obtain ⟨middle, rfl, hmeets⟩ := meets_of_walk_link hwalk
  split at h
  · cases h
  rename_i hfollowed
  cases target with
  | error e => cases h
  | ok target =>
  simp only at h
  split at h
  · cases h
  rename_i resolved hnormal
  cases h
  exact ⟨⟨_, target, rest, resolved, hmeets, resolvesInside_of_normalize hroot hnormal, rfl⟩,
    rfl, Nat.not_lt.mp hfollowed⟩

theorem meets_of_round {contents : List UInt8}
    (h : resolveRound fs shown storeRoot requiredOwner maxSymlinkHops store s =
      .inl (.ok contents)) :
    ∃ before, Meets fs store s.pending before (.regular requiredOwner (.ok contents)) := by
  unfold resolveRound at h
  split at h
  · cases h
  split at h
  · rename_i hwalk
    cases h
    exact meets_of_walk_ok hwalk
  · split at h
    · cases h
    split at h
    · cases h
    split at h
    · cases h
    · cases h

/-- The measure of the loop: every round but the last follows one of the links allowed. -/
theorem resolveRounds_terminates {fuel : Nat}
    (hfollowed : s.followed ≤ maxSymlinkHops)
    (hroot : components storeRoot = .rootDir :: names.map .normal)
    (hfuel : maxSymlinkHops < fuel + s.followed) :
    ∃ result, ∀ more,
      resolveRounds fs shown storeRoot requiredOwner maxSymlinkHops store (fuel + more) s =
        some result := by
  induction fuel generalizing s with
  | zero => omega
  | succ fuel ih =>
      cases hround : resolveRound fs shown storeRoot requiredOwner maxSymlinkHops store s with
      | inl result =>
          refine ⟨result, fun more => ?_⟩
          rw [Nat.add_right_comm, resolveRounds, hround]
      | inr s' =>
          obtain ⟨-, hnext, hbound⟩ := hop_of_round hroot hround
          obtain ⟨result, hresult⟩ := ih hbound (by omega)
          refine ⟨result, fun more => ?_⟩
          rw [Nat.add_right_comm, resolveRounds, hround]
          exact hresult more

theorem meets_of_resolveRounds {fuel : Nat} {contents : List UInt8}
    (hroot : components storeRoot = .rootDir :: names.map .normal)
    (h : resolveRounds fs shown storeRoot requiredOwner maxSymlinkHops store fuel s =
      some (.ok contents)) :
    ∃ p before, ReflTransGen (Hop fs names storeRoot store) s.pending p ∧
      Meets fs store p before (.regular requiredOwner (.ok contents)) := by
  induction fuel generalizing s with
  | zero => cases h
  | succ fuel ih =>
      rw [resolveRounds] at h
      split at h
      · rename_i hround
        cases h
        obtain ⟨before, hmeets⟩ := meets_of_round hround
        exact ⟨s.pending, before, .refl, hmeets⟩
      · rename_i s' hround
        obtain ⟨p, before, hreach, hmeets⟩ := ih h
        exact ⟨p, before, .head (hop_of_round hroot hround).1 hreach, hmeets⟩

end Resolutions

section Confinement

variable {names : List Name} {storeRoot initialTarget : Path} {requiredOwner : Nat}
variable {store : ι} {p p₀ before : List Name} {contents : List UInt8}

/-- The content of a file in the store, reached from the starting path by links inside it. -/
def ReachedInside (fs : FileSystem ι) (initialTarget storeRoot : Path) (requiredOwner : Nat)
    (contents : List UInt8) : Prop :=
  ∃ names store p₀ p before, StoreAt fs storeRoot names store ∧
    ResolvesInside names storeRoot initialTarget [] p₀ ∧
    ReflTransGen (Hop fs names storeRoot store) p₀ p ∧
    Meets fs store p before (.regular requiredOwner (.ok contents))

/-- What the resolution guarantees of its result. -/
structure Confines (fs : FileSystem ι) (initialTarget storeRoot : Path) (requiredOwner : Nat)
    (result : Except Failure (List UInt8)) : Prop where
  inside : ∀ contents, result = .ok contents →
    ReachedInside fs initialTarget storeRoot requiredOwner contents
  /-- A starting path that leads out of the store is refused. -/
  start : ∀ names store, StoreAt fs storeRoot names store →
    (∀ p₀, ¬ ResolvesInside names storeRoot initialTarget [] p₀) → ∃ e, result = .error e
  /-- So are links that only lead to links, whether in a circle or not. -/
  loops : ∀ names store p₀ p, StoreAt fs storeRoot names store →
    ResolvesInside names storeRoot initialTarget [] p₀ →
    ReflTransGen (Hop fs names storeRoot store) p₀ p →
    (∀ q, ReflTransGen (Hop fs names storeRoot store) p q →
      ∃ before target rest, Meets fs store q before (.link target rest)) →
      ∃ e, result = .error e
  /-- So is a link that leads out of the store. -/
  escapes : ∀ names store p₀ p before target rest, StoreAt fs storeRoot names store →
    ResolvesInside names storeRoot initialTarget [] p₀ →
    ReflTransGen (Hop fs names storeRoot store) p₀ p →
    Meets fs store p before (.link (.ok target) rest) →
    (∀ resolved, ¬ ResolvesInside names storeRoot target before resolved) →
      ∃ e, result = .error e
  /-- So is a file of another owner. -/
  owner : ∀ names store p₀ p before owner contents, StoreAt fs storeRoot names store →
    ResolvesInside names storeRoot initialTarget [] p₀ →
    ReflTransGen (Hop fs names storeRoot store) p₀ p →
    Meets fs store p before (.regular owner contents) → owner ≠ requiredOwner →
      ∃ e, result = .error e

theorem not_hop_of_regular {owner : Nat} {found : Except String (List UInt8)}
    (h : Meets fs store p before (.regular owner found)) (q : List Name) :
    ¬ Hop fs names storeRoot store p q := by
  rintro ⟨before', target, rest, resolved, hmeets, -, -⟩
  cases (h.unique hmeets).2

/-- Wherever the links lead, they lead to the file in the end. -/
theorem reaches_of_reachedInside
    (hreached : ReachedInside fs initialTarget storeRoot requiredOwner contents)
    (hstore : StoreAt fs storeRoot names store)
    (hstart : ResolvesInside names storeRoot initialTarget [] p₀)
    (hp : ReflTransGen (Hop fs names storeRoot store) p₀ p) :
    ∃ q before, ReflTransGen (Hop fs names storeRoot store) p q ∧
      Meets fs store q before (.regular requiredOwner (.ok contents)) := by
  obtain ⟨names', store', p₀', q, before, hstore', hstart', hq, hmeets⟩ := hreached
  obtain ⟨rfl, rfl⟩ := hstore.unique hstore'
  obtain rfl := hstart.unique hstart'
  refine ⟨q, before, ?_, hmeets⟩
  rcases ReflTransGen.total_of_right_unique hop_rightUnique hp hq with hpq | hqp
  · exact hpq
  · rcases hqp.cases_head with rfl | ⟨q', hhop, -⟩
    · exact .refl
    · exact absurd hhop (not_hop_of_regular hmeets q')

theorem confines_of_inside {result : Except Failure (List UInt8)}
    (h : ∀ contents, result = .ok contents →
      ReachedInside fs initialTarget storeRoot requiredOwner contents) :
    Confines fs initialTarget storeRoot requiredOwner result := by
  have herror : (∀ contents,
      ¬ ReachedInside fs initialTarget storeRoot requiredOwner contents) →
        ∃ e, result = .error e := by
    intro hnone
    cases result with
    | error e => exact ⟨e, rfl⟩
    | ok contents => exact absurd (h contents rfl) (hnone contents)
  refine ⟨h, ?_, ?_, ?_, ?_⟩
  · intro names store hstore hout
    refine herror ?_
    rintro contents ⟨names', store', p₀, -, -, hstore', hstart, -, -⟩
    obtain ⟨rfl, rfl⟩ := hstore.unique hstore'
    exact hout p₀ hstart
  · intro names store p₀ p hstore hstart hp hlinks
    refine herror fun contents hreached => ?_
    obtain ⟨q, before, hq, hmeets⟩ := reaches_of_reachedInside hreached hstore hstart hp
    obtain ⟨before', target, rest, hlink⟩ := hlinks q hq
    cases (hmeets.unique hlink).2
  · intro names store p₀ p before target rest hstore hstart hp hlink hout
    refine herror fun contents hreached => ?_
    obtain ⟨q, before', hq, hmeets⟩ := reaches_of_reachedInside hreached hstore hstart hp
    rcases hq.cases_head with rfl | ⟨p', ⟨before'', target', rest', resolved, hlink', hin, -⟩, -⟩
    · cases (hmeets.unique hlink).2
    · obtain ⟨rfl, heq⟩ := hlink.unique hlink'
      cases heq
      exact hout resolved hin
  · intro names store p₀ p before owner found hstore hstart hp hfile hne
    refine herror fun contents hreached => ?_
    obtain ⟨q, before', hq, hmeets⟩ := reaches_of_reachedInside hreached hstore hstart hp
    rcases hq.cases_head with rfl | ⟨p', hhop, -⟩
    · cases (hmeets.unique hfile).2
      exact hne rfl
    · exact not_hop_of_regular hfile p' hhop

/-- The resolution ends, and it returns nothing from outside the store. -/
theorem store_links_confined (fs : FileSystem ι) (initialTarget storeRoot : Path)
    (requiredOwner maxSymlinkHops : Nat) :
    ∃ result,
      (∀ fuel, maxSymlinkHops < fuel →
        readStoreRegularForPolicy fs fuel initialTarget storeRoot requiredOwner maxSymlinkHops =
          some result) ∧
      Confines fs initialTarget storeRoot requiredOwner result := by
  unfold readStoreRegularForPolicy
  have hfailed : ∀ e : Failure, Confines fs initialTarget storeRoot requiredOwner (.error e) :=
    fun e => confines_of_inside nofun
  split
  · exact ⟨_, fun _ _ => rfl, hfailed _⟩
  split
  · exact ⟨_, fun _ _ => rfl, hfailed _⟩
  rename_i pending hpending
  split
  · exact ⟨_, fun _ _ => rfl, hfailed _⟩
  rename_i store hopened
  obtain ⟨names, hstore⟩ := storeAt_of_opened hopened
  have hends : ∃ result, ∀ more,
      resolveRounds fs initialTarget storeRoot requiredOwner maxSymlinkHops store
        (maxSymlinkHops + 1 + more) ⟨pending, [], 0⟩ = some result :=
    resolveRounds_terminates (Nat.zero_le _) hstore.names (Nat.lt_succ_self _)
  obtain ⟨result, hresult⟩ := hends
  refine ⟨result, ?_, ?_⟩
  · intro fuel hfuel
    obtain ⟨more, rfl⟩ := Nat.exists_eq_add_of_lt hfuel
    rw [Nat.add_right_comm]
    exact hresult more
  · refine confines_of_inside ?_
    rintro contents rfl
    obtain ⟨p, before, hreach, hmeets⟩ := meets_of_resolveRounds hstore.names (hresult 0)
    exact ⟨names, store, pending, p, before, hstore,
      resolvesInside_of_normalize hstore.names hpending, hreach, hmeets⟩

end Confinement

section Sample

def pathOf (text : String) : Path :=
  text.toList.map fun c => .ofNat c.toNat

/-- A directory with one entry. -/
def oneEntry (owner : Nat) (name : String) (child : Nat) : Node Nat :=
  .directory owner fun found => if found = pathOf name then .ok child else .error (.other "ENOENT")

/-- A store with a directory that belongs to a user, and in it a file of root. -/
def sampleFiles : FileSystem Nat where
  root := 0
  node
    | 0 => oneEntry 0 "nix" 1
    | 1 => oneEntry 0 "store" 2
    | 2 => oneEntry 0 "package" 3
    | 3 => oneEntry 1000 "config.kdl" 4
    | _ => .regular 0 (.ok [10])
  openRead _ := .ok ()

def nodeOwner : Node ι → Nat
  | .regular owner _ => owner
  | .directory owner _ => owner
  | .link owner _ => owner
  | .special owner => owner

/-- Every component of the path has the required owner. -/
def ownedAlong (fs : FileSystem ι) (requiredOwner : Nat) : ι → List Name → Bool
  | _, [] => true
  | directory, name :: rest =>
      match openPath fs directory name with
      | .error _ => true
      | .ok child =>
          nodeOwner (fs.node child) = requiredOwner && ownedAlong fs requiredOwner child rest

/-- The owner of a directory on the way is not looked at. -/
theorem foreign_directory_accepted :
    ¬ ∀ (fs : FileSystem Nat) (initialTarget : Path) (contents : List UInt8)
        (names : List Name) (store : Nat) (p₀ : List Name),
      readStoreRegularForPolicy fs 41 initialTarget (pathOf "/nix/store") 0 40 =
          some (.ok contents) →
      StoreAt fs (pathOf "/nix/store") names store →
      ResolvesInside names (pathOf "/nix/store") initialTarget [] p₀ →
        ownedAlong fs 0 store p₀ = true := by
  intro hclaim
  have hnames : components (pathOf "/nix/store") =
      .rootDir :: [pathOf "nix", pathOf "store"].map .normal := by decide
  have howned := hclaim sampleFiles (pathOf "/nix/store/package/config.kdl") [10]
    [pathOf "nix", pathOf "store"] 2 [pathOf "package", pathOf "config.kdl"]
    (by rfl) ⟨hnames, by rfl⟩ (resolvesInside_of_normalize hnames (by rfl))
  revert howned
  decide

end Sample

end StoreLinks
end SleepySession
