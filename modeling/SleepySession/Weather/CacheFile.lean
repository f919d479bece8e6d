import SleepySession.Store.IoError
import SleepySession.Store.PlainReplacement

/-!
# Cache files of the providers

Both weather providers keep one JSON document in a private file.  Whatever
becomes of a write, the file shows its old content or the complete new one.
-/

namespace SleepySession
namespace Weather

open Program

variable {β δ α : Type}

/-- The only file of a provider. -/
inductive ProviderFile where
  | cache
deriving DecidableEq, Repr

abbrev CacheFiles (β : Type) := Volume Unit (Entry ProviderFile) β

/-- Programs over the directory of the file. -/
abbrev CacheIo (β α : Type) := Program (Answer ProviderFile β) (CacheFiles β) IoError α

instance : DisplayPath Unit ProviderFile :=
  ⟨fun _ _ => "provider cache"⟩

/-- `serde_json` of a cache document; contents are `β`. -/
structure JsonSdk (β δ : Type) where
  /-- The content of a file that was just created. -/
  empty : β
  encode : δ → β
  decode : β → Except String δ
  /-- The length of a content in bytes. -/
  size : β → Nat
  /-- A content with a newline behind it. -/
  terminate : β → β
  size_terminate : ∀ bytes, size (terminate bytes) = size bytes + 1

def maxHttpBody : Nat := 2 * 1024 * 1024

def invalid (message : String) : IoError :=
  ⟨.invalidData, message⟩

/-- `io::Error::other` of a directory operation. -/
def other (m : Disk Unit ProviderFile β α) : CacheIo β α :=
  m.mapError fun e => ⟨.other, e.display⟩

/-- `secure_cache_path`: opening the directory is one system call. -/
def secureCachePath : CacheIo β Unit :=
  other SecureDir.syscall

/-- The checks that reading makes on the bytes of the file. -/
def checkJson (sdk : JsonSdk β δ) (bytes : β) : Except IoError δ :=
  if sdk.size bytes > maxHttpBody then
    .error (invalid "provider cache exceeded limit")
  else
    match sdk.decode bytes with
    | .ok document => .ok document
    | .error error => .error ⟨.invalidData, error⟩

def readJsonIfPresent (sdk : JsonSdk β δ) : CacheIo β (Option δ) := do
  secureCachePath
  other (SecureDir.validateFileIfPresent () (.named .cache))
  let bytes ← other (SecureDir.readOptional () (.named .cache))
  match bytes with
  | none => pure none
  | some bytes => do
      let document ← orThrow (checkJson sdk bytes)
      pure (some document)

/-- The content that is written for a document. -/
def cacheContent (sdk : JsonSdk β δ) (document : δ) : β :=
  sdk.terminate (sdk.encode document)

def writeJsonPrivate (sdk : JsonSdk β δ) (document : δ) : CacheIo β Unit := do
  secureCachePath
  if sdk.size (sdk.encode document) ≥ maxHttpBody then
    throw (invalid "provider cache exceeded limit")
  else
    other (SecureDir.atomicReplace () .cache sdk.empty (cacheContent sdk document)
      (pure ()) (pure ()) (pure ()))

section Rules

variable {sdk : JsonSdk β δ} {document : δ} {files files' : CacheFiles β}
variable {A : Answer ProviderFile β → Prop} {P : Option β → Prop}

/-- The entry of the cache. -/
def cacheCell (files : CacheFiles β) : Cell β :=
  files () (.named .cache)

/-- What a reader finds in a file with the given content. -/
def FoundJson (sdk : JsonSdk β δ) (content : Option β) (found : Option δ) : Prop :=
  match content with
  | none => found = none
  | some bytes => ∃ document, checkJson sdk bytes = .ok document ∧ found = some document

/-- What a write may have done to the file, at any point. -/
def Written (sdk : JsonSdk β δ) (document : δ) (files files' : CacheFiles β) : Prop :=
  (cacheCell files).Shrinks (cacheCell files') ∨
    (sdk.size (sdk.encode document) < maxHttpBody ∧
      (cacheCell files).Wrote (some (cacheContent sdk document)) (cacheCell files'))

/-- A content is read in one way. -/
theorem FoundJson.unique {content : Option β} {found found' : Option δ}
    (h : FoundJson sdk content found) (h' : FoundJson sdk content found') : found = found' := by
  cases content with
  | none => exact h.trans h'.symm
  | some bytes =>
      obtain ⟨document, hdocument, rfl⟩ := h
      obtain ⟨document', hdocument', rfl⟩ := h'
      rw [hdocument] at hdocument'
      rw [Except.ok.inj hdocument']

/-- The content of a document that may be written is within the reader's limit. -/
theorem checkJson_cacheContent
    (hsize : sdk.size (sdk.encode document) < maxHttpBody) :
    checkJson sdk (cacheContent sdk document) =
      match sdk.decode (cacheContent sdk document) with
      | .ok document => .ok document
      | .error error => .error ⟨.invalidData, error⟩ := by
  refine if_neg ?_
  rw [cacheContent, sdk.size_terminate]
  omega

theorem Written.all
    (h : Written sdk document files files')
    (hdocument : sdk.size (sdk.encode document) < maxHttpBody →
      P (some (cacheContent sdk document)))
    (hcell : (cacheCell files).All P) :
    (cacheCell files').All P := by
  rcases h with hshrinks | ⟨hsize, hwrote⟩
  · exact hshrinks.all hcell
  · exact hwrote.all (hdocument hsize) hcell

/-- Reading takes over what the file shows, and changes nothing. -/
theorem readJsonIfPresent_wp :
    (readJsonIfPresent sdk).wp A
      ⟨fun found files' => files' = files ∧ FoundJson sdk (cacheCell files).current found,
        fun _ files' => files' = files, fun files' => files' = files⟩ files := by
  unfold readJsonIfPresent secureCachePath SecureDir.validateFileIfPresent
  simp only [wp_bind, other, wp_mapError]
  refine SecureDir.wp_syscall ⟨fun _ _ => rfl, rfl⟩ ?_
  simp only
  refine SecureDir.wp_openRegularOptional ⟨fun _ _ => rfl, rfl⟩ ?_
  simp only [wp_pure]
  refine SecureDir.wp_readOptional ⟨fun _ _ => rfl, rfl⟩ ?_
  simp only [cacheCell]
  cases (files () (.named .cache)).current with
  | none => exact ⟨rfl, rfl⟩
  | some bytes =>
      simp only [wp_bind, wp_orThrow, wp_pure]
      exact ⟨fun document hdocument => ⟨trivial, document, hdocument, rfl⟩, fun _ _ => trivial⟩

/-- Reading does not refuse a content that passes its checks. -/
theorem readJsonIfPresent_neverFails {found : Option δ}
    (hA : SecureDir.Willing A)
    (hfound : FoundJson sdk (cacheCell files).current found) :
    (readJsonIfPresent sdk).wp A SecureDir.neverFails files := by
  unfold readJsonIfPresent secureCachePath SecureDir.validateFileIfPresent
  simp only [wp_bind, other, wp_mapError]
  refine SecureDir.wp_syscall_willing hA trivial ?_
  simp only
  refine SecureDir.wp_openRegularOptional_willing hA trivial ?_
  simp only [wp_pure]
  refine SecureDir.wp_readOptional_willing hA trivial ?_
  unfold cacheCell at hfound
  cases hcontent : (files () (.named .cache)).current with
  | none => trivial
  | some bytes =>
      rw [hcontent] at hfound
      obtain ⟨document, hdocument, -⟩ := hfound
      simp only [wp_bind]
      exact wp_orThrow_of_ok A hdocument trivial

/-- Reading goes on with the document that is found. -/
theorem readJsonIfPresent_bind_neverFails {found : Option δ} {k : Option δ → CacheIo β α}
    (hA : SecureDir.Willing A)
    (hfound : FoundJson sdk (cacheCell files).current found)
    (hk : (k found).wp A SecureDir.neverFails files) :
    (readJsonIfPresent sdk >>= k).wp A SecureDir.neverFails files := by
  rw [wp_bind]
  refine wp_mono ?_ ?_ ?_ (wp_and readJsonIfPresent_wp (readJsonIfPresent_neverFails hA hfound))
  · rintro found' files' ⟨⟨rfl, hfound'⟩, -⟩
    have hsame : found' = found := hfound'.unique hfound
    rw [hsame]
    exact hk
  · exact fun _ _ h => h.2
  · exact fun _ _ => trivial

/-- A write completes, or leaves the file as it was or as it was to become. -/
theorem writeJsonPrivate_wp :
    (writeJsonPrivate sdk document).wp A
      ⟨fun _ files' => sdk.size (sdk.encode document) < maxHttpBody ∧
          cacheCell files' = Cell.settled (some (cacheContent sdk document)),
        fun _ files' => Written sdk document files files',
        fun files' => Written sdk document files files'⟩ files := by
  have hsame : Written sdk document files files := Or.inl (Cell.Shrinks.refl _)
  unfold writeJsonPrivate secureCachePath
  simp only [wp_bind, other, wp_mapError]
  refine SecureDir.wp_syscall ⟨fun _ _ => hsame, hsame⟩ ?_
  simp only
  split
  · exact hsame
  rename_i hsize
  rw [ge_iff_le, Nat.not_le] at hsize
  simp only [wp_mapError]
  refine SecureDir.wp_atomicReplace SecureDir.Silent.pure SecureDir.Silent.pure
    SecureDir.Silent.pure ?_ ?_
  · intro files' htouched
    have hwritten : Written sdk document files files' :=
      htouched.2.imp_right fun hwrote => ⟨hsize, hwrote⟩
    exact ⟨fun _ _ => hwritten, hwritten⟩
  · exact fun files' hreplaced => ⟨hsize, hreplaced.2⟩

/-- An answer that refuses nothing, with a free name for a temporary file. -/
def Favourable (files : CacheFiles β) (answer : Answer ProviderFile β) : Prop :=
  (answer.fault = .proceed ∨ answer.fault = .crash) ∧
    (files () (.temporary .cache answer.uuid)).current = none

/-- A document within the limit is written unless the process stops. -/
theorem writeJsonPrivate_neverFails
    (hA : ∀ answer, A answer → Favourable files answer)
    (hsize : sdk.size (sdk.encode document) < maxHttpBody) :
    (writeJsonPrivate sdk document).wp A SecureDir.neverFails files := by
  have hwilling : SecureDir.Willing A := fun answer h => (hA answer h).1
  unfold writeJsonPrivate secureCachePath
  simp only [wp_bind, other, wp_mapError]
  refine SecureDir.wp_syscall_willing hwilling trivial ?_
  rw [if_neg (Nat.not_le.mpr hsize)]
  simp only [wp_mapError]
  exact SecureDir.atomicReplace_neverFails hwilling fun answer h => (hA answer h).2

end Rules

section Sample

/-- JSON whose contents are what they say: a document or nothing, and the newlines behind it. -/
def contentJson (documentSize : δ → Nat) : JsonSdk (Option δ × Nat) δ where
  empty := (none, 0)
  encode document := (some document, 0)
  decode
    | (some document, _) => .ok document
    | (none, _) => .error "EOF while parsing a value at line 1 column 0"
  size content := content.1.elim 0 documentSize + content.2
  terminate content := (content.1, content.2 + 1)
  size_terminate _ := (Nat.add_assoc _ _ _).symm

end Sample

end Weather
end SleepySession
