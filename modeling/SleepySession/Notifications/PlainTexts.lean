import SleepySession.Notifications.Operations

/-!
# Reading back plain notifications

Libraries that know a list of notifications, in every state of their flags.
What the store writes for them is read back from left to right; the texts of a
few states are recognised as a whole.
-/

namespace SleepySession

section Texts

variable {rest : List Char}

/-- What follows the given beginning of a text. -/
def expect (start : String) (text : List Char) : Option (List Char) :=
  if start.toList.isPrefixOf text then some (text.drop start.toList.length) else none

@[simp]
theorem expect_append (start : String) : expect start (start.toList ++ rest) = some rest := by
  have hprefix : start.toList.isPrefixOf (start.toList ++ rest) = true :=
    List.isPrefixOf_iff_prefix.mpr (List.prefix_append _ _)
  rw [expect, if_pos hprefix, List.drop_left]

def readBool (text : List Char) : Option (Bool × List Char) :=
  match expect "true" text with
  | some rest => some (true, rest)
  | none => (expect "false" text).map fun rest => (false, rest)

@[simp]
theorem readBool_append (b : Bool) : readBool ((toString b).toList ++ rest) = some (b, rest) := by
  cases b with
  | true => rw [show toString true = "true" from rfl, readBool, expect_append]
  | false =>
      have hnone : expect "true" ("false".toList ++ rest) = none := by
        simp [expect]
      rw [show toString false = "false" from rfl, readBool, hnone, expect_append]
      rfl

/-- A `u64`. -/
def readNumber (text : List Char) : Option (Nat × List Char) :=
  let number := Nat.ofDigitChars 10 (text.takeWhile Char.isDigit) 0
  if number ≤ maxCounter then some (number, text.dropWhile Char.isDigit) else none

theorem readNumber_append {n : Nat} {c : Char} (hn : n ≤ maxCounter) (hc : c.isDigit = false) :
    readNumber ((toString n).toList ++ c :: rest) = some (n, c :: rest) := by
  have hdigits : ∀ d ∈ Nat.toDigits 10 n, d.isDigit = true :=
    fun d hd => Nat.isDigit_of_mem_toDigits (by decide) (by decide) hd
  unfold readNumber
  rw [show (toString n).toList = Nat.toDigits 10 n from Nat.toList_repr,
    List.takeWhile_append_of_pos hdigits, List.dropWhile_append_of_pos hdigits]
  simp [hc, Nat.ofDigitChars_ten_toDigits, hn]

/-- The texts of plain documents begin with a brace. -/
theorem plainStart_head (d : NotificationDocument) :
    ∃ tail, (plainStart d).toList = '\x7b' :: tail := by
  unfold plainStart
  simp only [String.toList_append, List.append_assoc]
  exact ⟨_, rfl⟩

theorem plainJson_head (d : NotificationDocument) :
    ∃ tail, (plainJson d).toList = '\x7b' :: tail := by
  obtain ⟨tail, htail⟩ := plainStart_head d
  unfold plainJson
  simp only [String.toList_append, List.append_assoc, htail, List.cons_append]
  exact ⟨_, rfl⟩

/-- A list of shorter parts is shorter. -/
theorem intercalate_shorter {α : Type} {f g : α → String} (separator : String) :
    ∀ l : List α, (∀ a ∈ l, (f a).utf8ByteSize ≤ (g a).utf8ByteSize) →
      (separator.intercalate (l.map f)).utf8ByteSize ≤
        (separator.intercalate (l.map g)).utf8ByteSize
  | [], _ => le_rfl
  | [a], h => by simpa using h a
  | a :: b :: l, h => by
      have hrest := intercalate_shorter separator (b :: l)
        fun c hc => h c (List.mem_cons_of_mem _ hc)
      have ha := h a List.mem_cons_self
      simp only [List.map_cons, String.intercalate_cons_cons, String.utf8ByteSize_append]
        at hrest ⊢
      omega

/-- The changes that the store makes do not lengthen the text of a document. -/
theorem plainJson_shorter {n n' : NotificationDocument} (h : Updated n n') :
    (plainJson n').utf8ByteSize ≤ (plainJson n).utf8ByteSize := by
  have hflag : ∀ b : Bool, (toString true).utf8ByteSize ≤ (toString b).utf8ByteSize := by
    decide
  cases h with
  | same => exact le_rfl
  | read =>
      have := hflag n.read
      show (plainStart n ++ _ ++ _ ++ _ ++ _ ++ _ ++ _ : String).utf8ByteSize ≤ _
      unfold plainJson
      simp only [String.utf8ByteSize_append]
      omega
  | archived =>
      have := hflag n.archived
      show (plainStart n ++ _ ++ _ ++ _ ++ _ ++ _ ++ _ : String).utf8ByteSize ≤ _
      unfold plainJson
      simp only [NotificationStore.markArchived, String.utf8ByteSize_append]
      omega
  | expired =>
      show (plainStart n ++ _ ++ _ ++ _ ++ _ ++ _ ++ _ : String).utf8ByteSize ≤ _
      unfold plainJson
      simp only [NotificationStore.expireDocument, List.map_map, String.utf8ByteSize_append]
      refine Nat.add_le_add_right (Nat.add_le_add_left (intercalate_shorter _ _ ?_) _) _
      intro a _
      have hstate : ("expired" : String).utf8ByteSize ≤
          (if a.state = .available then "available" else "expired").utf8ByteSize := by
        cases a.state <;> decide
      simp only [Function.comp_apply, NotificationStore.expireAction, plainAction, reduceCtorEq,
        if_false, String.utf8ByteSize_append]
      omega

end Texts

section Known

/-- The document as it was sent, not read and not archived. -/
def unflagged (d : NotificationDocument) : NotificationDocument :=
  { d with read := false, archived := false }

theorem plainStart_unflagged (d : NotificationDocument) :
    plainStart (unflagged d) = plainStart d :=
  rfl

variable (known : List NotificationDocument) (recent : List StoreState)

/-- The notifications have identifiers of their own and no actions. -/
structure Legible : Prop where
  plain : ∀ d ∈ known, unflagged d = d ∧ d.actions = [] ∧ d.schemaVersion ≤ maxCounter ∧
    d.id ≤ maxCounter
  distinct : ∀ d ∈ known, (known.find? fun d' => d'.id = d.id) = some d

def knownJson (d : NotificationDocument) : String :=
  if unflagged d ∈ known then plainJson d else ""

/-- The version and the identifier at the beginning of a text. -/
def readId (text : List Char) : Option Nat := do
  let rest ← expect "\x7b\"schemaVersion\":" text
  let (_, rest) ← readNumber rest
  let rest ← expect ",\"id\":" rest
  let (id, _) ← readNumber rest
  some id

def readDocument (text : List Char) : Option (NotificationDocument × List Char) := do
  let id ← readId text
  let d ← known.find? fun d => d.id = id
  let rest ← expect (plainStart d) text
  let (read, rest) ← readBool rest
  let rest ← expect ",\"archived\":" rest
  let (archived, rest) ← readBool rest
  let rest ← expect ",\"actions\":[" rest
  let rest ← expect "]\x7d" rest
  some ({ d with read := read, archived := archived }, rest)

/-- The rest of a list that is not empty; the number bounds its length. -/
def readItems : Nat → List Char → Option (List NotificationDocument × List Char)
  | 0, _ => none
  | fuel + 1, text => do
      let (d, rest) ← readDocument known text
      match rest with
      | ',' :: rest => do
          let (documents, rest) ← readItems fuel rest
          some (d :: documents, rest)
      | ']' :: rest => some ([d], rest)
      | _ => none

def readList (text : List Char) : Option (List NotificationDocument × List Char) := do
  let text ← expect "[" text
  match text with
  | ']' :: rest => some ([], rest)
  | text => readItems known text.length text

def readPreferencesText (text : List Char) : Option (Preferences × List Char) := do
  let text ← expect "\x7b\"schemaVersion\":" text
  let text ← expect (toString 1) text
  let text ← expect ",\"dnd\":" text
  let (dnd, text) ← readBool text
  let text ← expect ",\"nextNotificationId\":" text
  let (next, text) ← readNumber text
  let text ← expect "\x7d" text
  some (⟨1, dnd, next⟩, text)

def listText (documents : List NotificationDocument) : String :=
  "[" ++ ",".intercalate (documents.map (knownJson known)) ++ "]"

def documentsText (documents : List NotificationDocument) : String :=
  "\x7b\"schemaVersion\":" ++ toString 1 ++ ",\"notifications\":" ++
    listText known documents ++ "\x7d"

def transactionText (L : StoreState) : String :=
  "\x7b\"schemaVersion\":" ++ toString 1 ++
    ",\"active\":" ++ listText known L.active ++ ",\"archive\":" ++ listText known L.archive ++
    ",\"preferences\":" ++ L.preferences.json ++ "\x7d"

def readDocumentsText (text : List Char) : Option (DurableNotifications × List Char) := do
  let text ← expect "\x7b\"schemaVersion\":" text
  let text ← expect (toString 1) text
  let text ← expect ",\"notifications\":" text
  let (notifications, text) ← readList known text
  let text ← expect "\x7d" text
  some (⟨1, notifications⟩, text)

def readTransaction (text : List Char) : Option (NotificationTransaction × List Char) := do
  let text ← expect "\x7b\"schemaVersion\":" text
  let text ← expect (toString 1) text
  let text ← expect ",\"active\":" text
  let (active, text) ← readList known text
  let text ← expect ",\"archive\":" text
  let (archive, text) ← readList known text
  let text ← expect ",\"preferences\":" text
  let (preferences, text) ← readPreferencesText text
  let text ← expect "\x7d" text
  some (⟨1, active, archive, preferences⟩, text)

/-- A whole file, which ends with a line feed. -/
def readWhole {α : Type} (read : List Char → Option (α × List Char)) (text : String) :
    Except String α :=
  match read text.toList with
  | some (value, ['\n']) => .ok value
  | _ => .error "unexpected text"

/-- Some texts are recognised as a whole, the others are read from left to right. -/
def recognise {α β : Type} (items : List β) (text : β → String) (value : β → α)
    (read : List Char → Option (α × List Char)) (whole : String) : Except String α :=
  match items.find? fun c => text c ++ "\n" = whole with
  | some c => .ok (value c)
  | none => readWhole read whole

/-- Libraries that accept the known notifications and nothing else. -/
def knownSdk : NotificationSdk where
  durableSchemaVersion := 1
  documentJson := knownJson known
  validateNotificationDocument text :=
    if text = "" then .error "unknown notification" else .ok ()
  parseTransaction :=
    recognise recent (transactionText known) (·.transaction 1) (readTransaction known)
  parseDocuments :=
    recognise (recent.flatMap fun L => [L.active, L.archive]) (documentsText known)
      (DurableNotifications.mk 1) (readDocumentsText known)
  parsePreferences :=
    recognise (recent.map StoreState.preferences) Preferences.json id readPreferencesText

variable {known recent} {rest : List Char}

theorem accepted_iff {d : NotificationDocument} :
    (knownSdk known recent).validateNotificationDocument
        ((knownSdk known recent).documentJson d) = .ok () ↔
      unflagged d ∈ known := by
  obtain ⟨tail, htail⟩ := plainJson_head d
  have hne : plainJson d ≠ "" := by
    intro hempty
    rw [hempty] at htail
    cases htail
  unfold knownSdk knownJson
  dsimp only
  split <;> simp [*]

theorem known_of_validDocuments {documents : List NotificationDocument}
    (h : (knownSdk known recent).validateDocuments documents = .ok ()) :
    ∀ d ∈ documents, unflagged d ∈ known :=
  fun d hd => accepted_iff.mp
    (StoreOperation.validateDocument_eq_ok.mp (StoreOperation.validateDocuments_eq_ok.mp h d hd)).2

/-- The text of a document without actions, part by part. -/
theorem toList_plainJson {d : NotificationDocument} (h : d.actions = []) :
    (plainJson d).toList ++ rest = (plainStart d).toList ++ ((toString d.read).toList ++
      (",\"archived\":".toList ++ ((toString d.archived).toList ++
        (",\"actions\":[".toList ++ ("]\x7d".toList ++ rest))))) := by
  unfold plainJson
  rw [h, List.map_nil, String.intercalate_nil]
  simp only [String.toList_append, List.append_assoc, show "".toList = [] from rfl,
    List.nil_append]

theorem toList_plainStart (d : NotificationDocument) :
    ∃ tail, (plainStart d).toList = "\x7b\"schemaVersion\":".toList ++
      ((toString d.schemaVersion).toList ++
        (",\"id\":".toList ++ ((toString d.id).toList ++ ',' :: tail))) := by
  unfold plainStart
  simp only [String.toList_append, List.append_assoc]
  exact ⟨_, rfl⟩

theorem readId_append {d : NotificationDocument} (hversion : d.schemaVersion ≤ maxCounter)
    (hid : d.id ≤ maxCounter) : readId ((plainStart d).toList ++ rest) = some d.id := by
  obtain ⟨tail, htail⟩ := toList_plainStart d
  have hnumber : ∀ more : List Char,
      readNumber ((toString d.schemaVersion).toList ++ (",\"id\":".toList ++ more)) =
        some (d.schemaVersion, ",\"id\":".toList ++ more) :=
    fun _ => readNumber_append hversion rfl
  have hnumber' : ∀ more : List Char, readNumber ((toString d.id).toList ++ ',' :: more) =
      some (d.id, ',' :: more) :=
    fun _ => readNumber_append hid rfl
  unfold readId
  simp only [htail, List.append_assoc, List.cons_append, expect_append, Option.bind_eq_bind,
    Option.bind_some, hnumber, hnumber']

theorem readDocument_append (h : Legible known) {d : NotificationDocument}
    (hd : unflagged d ∈ known) :
    readDocument known ((plainJson d).toList ++ rest) = some (d, rest) := by
  obtain ⟨-, hactions, hversion, hid⟩ := h.plain (unflagged d) hd
  have hfound : (known.find? fun d' => d'.id = d.id) = some (unflagged d) :=
    h.distinct (unflagged d) hd
  unfold readDocument
  rw [@toList_plainJson rest d hactions, @readId_append _ d hversion hid]
  simp only [Option.bind_eq_bind, Option.bind_some, hfound, plainStart_unflagged, expect_append,
    readBool_append]
  rfl

theorem length_lt_intercalate :
    ∀ (documents : List NotificationDocument) (d : NotificationDocument),
      (∀ d' ∈ d :: documents, unflagged d' ∈ known) →
      documents.length <
        (",".intercalate ((d :: documents).map (knownJson known))).toList.length := by
  intro documents
  induction documents with
  | nil =>
      intro d hknown
      obtain ⟨tail, htail⟩ := plainJson_head d
      rw [List.map_singleton, String.intercalate_singleton, knownJson,
        if_pos (hknown d List.mem_cons_self), htail]
      exact Nat.succ_pos _
  | cons d' documents ih =>
      intro d hknown
      have hrest := ih d' fun e he => hknown e (List.mem_cons_of_mem _ he)
      rw [List.map_cons] at hrest
      rw [List.map_cons, List.map_cons, String.intercalate_cons_cons]
      simp only [String.toList_append, List.length_append, List.length_cons]
      rw [show ",".toList.length = 1 from rfl]
      omega

theorem readItems_append (h : Legible known) :
    ∀ (documents : List NotificationDocument) (d : NotificationDocument) (fuel : Nat),
      (∀ d' ∈ d :: documents, unflagged d' ∈ known) → documents.length < fuel →
      readItems known fuel ((",".intercalate ((d :: documents).map (knownJson known))).toList ++
        ']' :: rest) = some (d :: documents, rest) := by
  intro documents
  induction documents with
  | nil =>
      intro d fuel hknown hfuel
      obtain ⟨fuel, rfl⟩ := Nat.exists_eq_succ_of_ne_zero hfuel.ne_bot
      have hd : unflagged d ∈ known := hknown d List.mem_cons_self
      rw [List.map_singleton, String.intercalate_singleton, knownJson, if_pos hd, readItems]
      simp [readDocument_append h hd]
  | cons d' documents ih =>
      intro d fuel hknown hfuel
      obtain ⟨fuel, rfl⟩ := Nat.exists_eq_succ_of_ne_zero (Nat.ne_zero_of_lt hfuel)
      have hd : unflagged d ∈ known := hknown d List.mem_cons_self
      have hrest := ih d' fuel (fun e he => hknown e (List.mem_cons_of_mem _ he))
        (Nat.lt_of_succ_lt_succ hfuel)
      rw [List.map_cons, List.map_cons, String.intercalate_cons_cons]
      rw [List.map_cons] at hrest
      rw [show knownJson known d = plainJson d from if_pos hd]
      simp only [String.toList_append, List.append_assoc]
      rw [readItems, readDocument_append h hd]
      simp only [show ",".toList = [','] from rfl, List.cons_append, List.nil_append,
        Option.bind_eq_bind, Option.bind_some]
      rw [hrest]
      rfl

theorem readList_append (h : Legible known) {documents : List NotificationDocument}
    (hknown : ∀ d ∈ documents, unflagged d ∈ known) :
    readList known ((listText known documents).toList ++ rest) = some (documents, rest) := by
  unfold listText readList
  simp only [String.toList_append, List.append_assoc, expect_append]
  cases documents with
  | nil => simp
  | cons d documents =>
      have hitems := @readItems_append known rest h documents d
        ((",".intercalate ((d :: documents).map (knownJson known))).toList ++
          ']' :: rest).length hknown ?_
      · obtain ⟨tail, htail⟩ : ∃ tail,
            (",".intercalate ((d :: documents).map (knownJson known))).toList = '\x7b' :: tail := by
          obtain ⟨tail, htail⟩ := plainJson_head d
          have hd : knownJson known d = plainJson d := if_pos (hknown d List.mem_cons_self)
          cases documents with
          | nil => exact ⟨tail, by simpa [hd] using htail⟩
          | cons d' documents =>
              rw [List.map_cons, List.map_cons, String.intercalate_cons_cons, hd]
              simp only [String.toList_append, htail, List.append_assoc, List.cons_append]
              exact ⟨_, rfl⟩
        rw [htail] at hitems
        rw [htail]
        exact hitems
      · have hlength := length_lt_intercalate documents d hknown
        rw [List.length_append]
        omega

theorem readPreferencesText_append {preferences : Preferences}
    (hversion : preferences.schemaVersion = 1)
    (hbounded : preferences.nextNotificationId ≤ maxCounter) :
    readPreferencesText (preferences.json.toList ++ rest) = some (preferences, rest) := by
  obtain ⟨version, dnd, next⟩ := preferences
  cases hversion
  unfold Preferences.json readPreferencesText
  simp only [String.toList_append, List.append_assoc, expect_append, readBool_append,
    Option.bind_eq_bind, Option.bind_some]
  rw [show "\x7d".toList ++ rest = '\x7d' :: rest from rfl, readNumber_append hbounded rfl]
  rfl

theorem readWhole_eq {α : Type} {read : List Char → Option (α × List Char)} {text : String}
    {value : α} (h : read (text.toList ++ ['\n']) = some (value, ['\n'])) :
    readWhole read (text ++ "\n") = .ok value := by
  rw [readWhole, String.toList_append, show "\n".toList = ['\n'] from rfl, h]
  rfl

theorem readDocumentsText_append (h : Legible known) {documents : List NotificationDocument}
    (hknown : ∀ d ∈ documents, unflagged d ∈ known) :
    readDocumentsText known ((documentsText known documents).toList ++ rest) =
      some (⟨1, documents⟩, rest) := by
  unfold documentsText readDocumentsText
  simp only [String.toList_append, List.append_assoc, expect_append, readList_append h hknown,
    Option.bind_eq_bind, Option.bind_some]

/-- A state that the libraries read back. -/
structure Readable (known : List NotificationDocument) (L : StoreState) : Prop where
  active : ∀ d ∈ L.active, unflagged d ∈ known
  archive : ∀ d ∈ L.archive, unflagged d ∈ known
  version : L.preferences.schemaVersion = 1
  bounded : L.preferences.nextNotificationId ≤ maxCounter

theorem readTransaction_append (h : Legible known) {L : StoreState} (hL : Readable known L) :
    readTransaction known ((transactionText known L).toList ++ rest) =
      some (L.transaction 1, rest) := by
  unfold transactionText readTransaction StoreState.transaction
  simp only [String.toList_append, List.append_assoc, expect_append,
    readList_append h hL.active, readList_append h hL.archive,
    readPreferencesText_append hL.version hL.bounded, Option.bind_eq_bind, Option.bind_some]

/-- It does not matter whether a text is recognised. -/
theorem recognise_eq {α β : Type} {items : List β} {text : β → String} {value : β → α}
    {read : List Char → Option (α × List Char)} {b : β}
    (hread : ∀ c, c ∈ items ∨ c = b → readWhole read (text c ++ "\n") = .ok (value c)) :
    recognise items text value read (text b ++ "\n") = .ok (value b) := by
  have hb := hread b (Or.inr rfl)
  unfold recognise
  cases hfound : items.find? fun c => text c ++ "\n" = text b ++ "\n" with
  | none => exact hb
  | some c =>
      have hsame : text c ++ "\n" = text b ++ "\n" := by simpa using List.find?_some hfound
      have hc := hread c (Or.inl (List.mem_of_find?_eq_some hfound))
      rw [hsame, hb] at hc
      exact hc.symm

/-- The known libraries read back what the store writes. -/
theorem knownSdk_roundTrips (h : Legible known) (hrecent : ∀ L ∈ recent, Readable known L) :
    (knownSdk known recent).RoundTrips where
  transaction L hactive harchive hversion hbounded := by
    have hL : Readable known L := ⟨known_of_validDocuments hactive,
      known_of_validDocuments harchive, hversion, hbounded⟩
    refine @recognise_eq _ _ recent (transactionText known) (StoreState.transaction · 1)
      (readTransaction known) L fun c hc => readWhole_eq (readTransaction_append h ?_)
    rcases hc with hc | rfl
    · exact hrecent c hc
    · exact hL
  documents documents hvalid := by
    refine @recognise_eq _ _ (recent.flatMap fun L => [L.active, L.archive])
      (documentsText known) (DurableNotifications.mk 1) (readDocumentsText known) documents
      fun c hc => readWhole_eq (readDocumentsText_append h ?_)
    rcases hc with hc | rfl
    · obtain ⟨L, hL, hmem⟩ := List.mem_flatMap.mp hc
      rcases List.mem_pair.mp hmem with rfl | rfl
      · exact (hrecent L hL).active
      · exact (hrecent L hL).archive
    · exact known_of_validDocuments hvalid
  preferences preferences hversion hbounded := by
    have hread : ∀ c, c ∈ recent.map StoreState.preferences ∨ c = preferences →
        c.schemaVersion = 1 ∧ c.nextNotificationId ≤ maxCounter := by
      rintro c (hc | rfl)
      · obtain ⟨L, hL, rfl⟩ := List.mem_map.mp hc
        exact ⟨(hrecent L hL).version, (hrecent L hL).bounded⟩
      · exact ⟨hversion, hbounded⟩
    refine @recognise_eq _ _ (recent.map StoreState.preferences) Preferences.json id
      readPreferencesText preferences fun c hc => ?_
    exact readWhole_eq (readPreferencesText_append (hread c hc).1 (hread c hc).2)

theorem unflagged_updated (h : Legible known) {n n' : NotificationDocument}
    (hupdated : Updated n n') : unflagged n ∈ known ↔ unflagged n' ∈ known := by
  cases hupdated with
  | same => exact Iff.rfl
  | read => exact Iff.rfl
  | archived => exact Iff.rfl
  | expired =>
      have hsame : n.actions = [] → NotificationStore.expireDocument n = n := by
        intro hnone
        unfold NotificationStore.expireDocument
        rw [hnone, List.map_nil, ← hnone]
      constructor
      · intro hmem
        rwa [hsame (h.plain _ hmem).2.1]
      · intro hmem
        have hnone : n.actions.map NotificationStore.expireAction = [] := (h.plain _ hmem).2.1
        rwa [hsame (List.map_eq_nil_iff.mp hnone)] at hmem

theorem knownSdk_steady (h : Legible known) : (knownSdk known recent).Steady where
  shorter := by
    intro n n' hupdated
    show (knownJson known n').utf8ByteSize ≤ (knownJson known n).utf8ByteSize
    unfold knownJson
    by_cases hn : unflagged n ∈ known
    · rw [if_pos hn, if_pos ((unflagged_updated h hupdated).mp hn)]
      exact plainJson_shorter hupdated
    · rw [if_neg hn, if_neg fun hn' => hn ((unflagged_updated h hupdated).mpr hn')]
  accepted := by
    intro n n' hupdated hvalid
    exact accepted_iff.mpr ((unflagged_updated h hupdated).mp (accepted_iff.mp hvalid))

end Known

end SleepySession
