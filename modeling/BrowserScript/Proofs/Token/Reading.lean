/-
# BrowserScript.Proofs.Token.Reading -- tokens and the fields they come from

`Piece.read` looks at one or two fields at a time and carries one bit, whether a
selector stands just before. Its steps are stated here once, each for the kind of field
that it is about, and two laws about whole rows of fields follow by induction.

  * **What is read comes from the fields.** A parameter is a whole field with a key
    that could not have been anything else (`IsFieldKey`), and a locator is a field or
    what follows `fallback=` in one.
  * **A row that is laid out in order is read in that order**: parameters, then a
    locator with its links, then parameters again.
-/
import BrowserScript.Token

namespace BrowserScript

/-! ## Keys -/

/-- A key that can be read: it is not empty, the first equals sign of its field is the
one after it, and the field is no locator. -/
def IsFieldKey (key : String) : Prop :=
  key ≠ "" ∧ '=' ∉ key.toList ∧ ∀ s : Strategy, s.name ≠ key

theorem isFieldKey_iff {key : String} :
    IsFieldKey key ↔ key ≠ "" ∧ '=' ∉ key.toList ∧ Strategy.ofName? key = none := by
  have hname : Strategy.ofName? key = none ↔ ∀ s : Strategy, s.name ≠ key := by
    rw [Option.eq_none_iff_forall_ne_some]
    exact forall_congr' fun s => not_congr Strategy.ofName?_eq_some_iff
  rw [IsFieldKey, hname]

instance (key : String) : Decidable (IsFieldKey key) :=
  decidable_of_iff _ isFieldKey_iff.symm

/-- The field that assigns a value to a key. -/
def paramField (key value : String) : String :=
  key ++ "=" ++ value

theorem assignment?_paramField {key : String} (h : '=' ∉ key.toList) (value : String) :
    Fields.assignment? (paramField key value) = some (key, value) :=
  Fields.assignment?_eq_some_iff.2 ⟨rfl, h⟩

/-! ## Links -/

/-- How a link is written. -/
inductive LinkForm where
  /-- The linking word, and the locator in the field after it. -/
  | word
  /-- One field with the linking word as its key. -/
  | short
  deriving DecidableEq, Repr

/-- The fields of a link. -/
def LinkForm.fields : LinkForm → Locator → List String
  | word, l => [fallbackWord, l.text]
  | short, l => [paramField fallbackWord l.text]

/-- The fields of links, each in a notation of its own. -/
def mixedFields (links : List (LinkForm × Locator)) : List String :=
  links.flatMap fun link => link.1.fields link.2

namespace Locator

@[simp]
theorem ofField?_text (l : Locator) : ofField? l.text = some l :=
  ofField?_eq_some_iff.2 rfl

theorem ofField?_paramField {key : String} (h : IsFieldKey key) (value : String) :
    ofField? (paramField key value) = none := by
  obtain ⟨_, heq, hname⟩ := isFieldKey_iff.1 h
  simp [ofField?, assignment?_paramField heq, hname]

theorem ofLink?_paramField {key : String} (heq : '=' ∉ key.toList) (hkey : key ≠ fallbackWord)
    (value : String) : ofLink? (paramField key value) = none := by
  simp [ofLink?, assignment?_paramField heq, hkey]

/-- The short form of a link is the linking word, an equals sign and a locator. -/
theorem ofLink?_eq_some_iff {field : String} {l : Locator} :
    ofLink? field = some l ↔ field = paramField fallbackWord l.text := by
  constructor
  · intro h
    simp only [ofLink?, Option.bind_eq_bind, Option.bind_eq_some_iff, Prod.exists] at h
    obtain ⟨key, value, ha, h⟩ := h
    split at h
    · rename_i hkey
      rw [(Fields.assignment?_eq_some_iff.1 ha).1, hkey, ofField?_eq_some_iff.1 h]
      rfl
    · exact absurd h (Option.some_ne_none l).symm
  · rintro rfl
    have hno : '=' ∉ fallbackWord.toList := by decide
    simp [ofLink?, assignment?_paramField hno l.text]

theorem ofField?_fallbackWord : ofField? fallbackWord = none := by decide

theorem ofLink?_fallbackWord : ofLink? fallbackWord = none := by decide

end Locator

theorem isFieldKey_fallbackWord : IsFieldKey fallbackWord := by decide

theorem paramField_ne_fallbackWord (key value : String) : paramField key value ≠ fallbackWord := by
  intro h
  have hmem : '=' ∈ fallbackWord.toList := by
    rw [← h]
    simp [paramField]
  exact absurd hmem (by decide)

namespace Piece

theorem ofRest_paramField {key : String} (h : IsFieldKey key) (value : String) :
    ofRest (paramField key value) = token (.param key value) := by
  simp only [ofRest, assignment?_paramField h.2.1, if_neg h.1]

/-! ## One step of the reading -/

theorem read_locator {field : String} {l : Locator} (h : Locator.ofField? field = some l)
    (linking : Bool) (rest : List String) :
    read linking (field :: rest) =
      ([], token (.selector (.link l (read true rest).1)) :: (read true rest).2) := by
  rw [read.eq_def]
  simp only [h]

/-- With no selector just before, a field that is no locator stands by itself. -/
theorem read_alone {field : String} (h : Locator.ofField? field = none) (rest : List String) :
    read false (field :: rest) = ([], ofRest field :: (read false rest).2) := by
  rw [read.eq_def]
  simp only [h, Bool.false_eq_true, if_false]

theorem read_link (l : Locator) (rest : List String) :
    read true (paramField fallbackWord l.text :: rest) =
      (l :: (read true rest).1, (read true rest).2) := by
  have hlink : Locator.ofLink? (paramField fallbackWord l.text) = some l :=
    Locator.ofLink?_eq_some_iff.2 rfl
  rw [read.eq_def]
  simp only [Locator.ofField?_paramField isFieldKey_fallbackWord, hlink, if_true]

/-- The linking word and the locator after it are taken together. -/
theorem read_word (l : Locator) (rest : List String) :
    read true (fallbackWord :: l.text :: rest) =
      (l :: (read true rest).1, (read true rest).2) := by
  rw [read.eq_def]
  simp only [Locator.ofField?_fallbackWord, Locator.ofLink?_fallbackWord, Locator.ofField?_text,
    if_true]

/-- The linking word without a locator after it is like any field that ends the selector. -/
theorem read_word_alone {next : String} (h : Locator.ofField? next = none) (rest : List String) :
    read true (fallbackWord :: next :: rest) =
      ([], ofRest fallbackWord :: (read false (next :: rest)).2) := by
  rw [read.eq_def]
  simp only [Locator.ofField?_fallbackWord, Locator.ofLink?_fallbackWord, h, if_true]

/-- A field that is neither a locator nor part of a link ends the selector. -/
theorem read_after {field : String} (h : Locator.ofField? field = none)
    (hlink : Locator.ofLink? field = none) (hword : field ≠ fallbackWord) (rest : List String) :
    read true (field :: rest) = ([], ofRest field :: (read false rest).2) := by
  rw [read.eq_def]
  simp only [h, hlink, if_neg hword, if_true]

theorem read_false_fst (fields : List String) : (read false fields).1 = [] := by
  cases fields with
  | nil => rfl
  | cons field rest =>
      cases h : Locator.ofField? field with
      | none => rw [read_alone h]
      | some l => rw [read_locator h]

/-! ## Rows that are laid out in order -/

/-- The piece of a key and a value. -/
def ofParam (p : String × String) : Piece :=
  token (.param p.1 p.2)

theorem read_params {params : List (String × String)} (h : ∀ p ∈ params, IsFieldKey p.1)
    (rest : List String) :
    read false (params.map (fun p => paramField p.1 p.2) ++ rest) =
      ([], params.map ofParam ++ (read false rest).2) := by
  induction params with
  | nil => exact Prod.ext (read_false_fst rest) rfl
  | cons p params ih =>
      have hp := h p List.mem_cons_self
      have hps := ih fun q hq => h q (List.mem_cons_of_mem p hq)
      rw [List.map_cons, List.cons_append, read_alone (Locator.ofField?_paramField hp p.2), hps,
        ofRest_paramField hp]
      rfl

/-- Parameters after a selector. **A key that is the linking word would not do here.** -/
theorem read_params_after {params : List (String × String)}
    (h : ∀ p ∈ params, IsFieldKey p.1 ∧ p.1 ≠ fallbackWord) :
    read true (params.map fun p => paramField p.1 p.2) = ([], params.map ofParam) := by
  cases params with
  | nil => rfl
  | cons p params =>
      obtain ⟨hp, hword⟩ := h p List.mem_cons_self
      -- the first parameter ends the selector, and the others are read without one
      have hps := read_params (fun q hq => (h q (List.mem_cons_of_mem p hq)).1) []
      rw [List.append_nil] at hps
      rw [List.map_cons, read_after (Locator.ofField?_paramField hp p.2)
        (Locator.ofLink?_paramField hp.2.1 hword p.2) (paramField_ne_fallbackWord p.1 p.2), hps,
        ofRest_paramField hp]
      simp only [read, List.append_nil, List.map_cons, ofParam]

theorem read_linkForm (form : LinkForm) (l : Locator) (rest : List String) :
    read true (form.fields l ++ rest) = (l :: (read true rest).1, (read true rest).2) := by
  cases form with
  | word => exact read_word l rest
  | short => exact read_link l rest

/-- Links are read the same in every notation, in written order. -/
theorem read_mixedFields (links : List (LinkForm × Locator)) (rest : List String) :
    read true (mixedFields links ++ rest) =
      (links.map Prod.snd ++ (read true rest).1, (read true rest).2) := by
  induction links with
  | nil => rfl
  | cons link links ih =>
      have hcons : mixedFields (link :: links) ++ rest =
          link.1.fields link.2 ++ (mixedFields links ++ rest) := by
        rw [mixedFields, List.flatMap_cons, List.append_assoc]
        rfl
      rw [hcons, read_linkForm, ih]
      rfl

/-- The fields of links in the long form. -/
def linkFields (links : List Locator) : List String :=
  links.flatMap fun l => [fallbackWord, l.text]

theorem read_linkFields (links : List Locator) (rest : List String) :
    read true (linkFields links ++ rest) =
      (links ++ (read true rest).1, (read true rest).2) := by
  have hmixed : linkFields links = mixedFields (links.map (LinkForm.word, ·)) := by
    rw [mixedFields, List.flatMap_map]
    rfl
  have hlinks : (links.map (LinkForm.word, ·)).map Prod.snd = links := by
    rw [List.map_map]
    exact List.map_id links
  rw [hmixed, read_mixedFields, hlinks]

/-! ## What the tokens are made of -/

/-- A locator of these fields: one of them, or what follows the linking word and an
equals sign in one of them. -/
def LocatorOf (fields : List String) (l : Locator) : Prop :=
  l.text ∈ fields ∨ paramField fallbackWord l.text ∈ fields

/-- A piece of these fields. Command names are not read here. -/
def PieceOf (fields : List String) : Piece → Prop
  | token (.command _) => False
  | token (.selector chain) => ∀ l ∈ chain.locators, LocatorOf fields l
  | token (.param key value) => IsFieldKey key ∧ paramField key value ∈ fields
  | ignored field => field ∈ fields

theorem LocatorOf.mono {fields more : List String} (h : fields ⊆ more) {l : Locator}
    (hl : LocatorOf fields l) : LocatorOf more l :=
  hl.imp (fun hm => h hm) fun hm => h hm

theorem PieceOf.mono {fields more : List String} (h : fields ⊆ more) {p : Piece}
    (hp : PieceOf fields p) : PieceOf more p := by
  rcases p with (name | chain | ⟨key, value⟩) | field
  · exact hp
  · exact fun l hl => (hp l hl).mono h
  · exact ⟨hp.1, h hp.2⟩
  · exact h hp

/-- A field that is no locator is a parameter with a key of its own, or is set aside. -/
theorem pieceOf_ofRest {field : String} (h : Locator.ofField? field = none)
    {fields : List String} (hmem : field ∈ fields) : PieceOf fields (ofRest field) := by
  unfold ofRest
  split
  · rename_i key value ha
    obtain ⟨hfield, heq⟩ := Fields.assignment?_eq_some_iff.1 ha
    split
    · exact hmem
    · rename_i hne
      have hname : Strategy.ofName? key = none := by
        cases hs : Strategy.ofName? key with
        | none => rfl
        | some s => simp [Locator.ofField?, ha, hs] at h
      exact ⟨isFieldKey_iff.2 ⟨hne, heq, hname⟩, by rw [paramField, ← hfield]; exact hmem⟩
  · exact hmem

/-- What the reading of some fields yields, with the locators that continue a selector. -/
def ReadFrom (fields : List String) (result : List Locator × List Piece) : Prop :=
  (∀ l ∈ result.1, LocatorOf fields l) ∧ ∀ p ∈ result.2, PieceOf fields p

theorem ReadFrom.mono {fields more : List String} (h : fields ⊆ more)
    {result : List Locator × List Piece} (hr : ReadFrom fields result) : ReadFrom more result :=
  ⟨fun l hl => (hr.1 l hl).mono h, fun p hp => (hr.2 p hp).mono h⟩

theorem ReadFrom.cons_locator {fields : List String} {l : Locator} (hl : LocatorOf fields l)
    {links : List Locator} {pieces : List Piece} (h : ReadFrom fields (links, pieces)) :
    ReadFrom fields (l :: links, pieces) :=
  ⟨List.forall_mem_cons.2 ⟨hl, h.1⟩, h.2⟩

theorem ReadFrom.cons_piece {fields : List String} {p : Piece} (hp : PieceOf fields p)
    {links : List Locator} {pieces : List Piece} (h : ReadFrom fields (links, pieces)) :
    ReadFrom fields ([], p :: pieces) :=
  ⟨fun _ hl => absurd hl List.not_mem_nil, List.forall_mem_cons.2 ⟨hp, h.2⟩⟩

theorem readFrom_nil (fields : List String) : ReadFrom fields ([], []) :=
  ⟨fun _ h => absurd h List.not_mem_nil, fun _ h => absurd h List.not_mem_nil⟩

/-- **Everything that is read comes from the fields.** -/
theorem readFrom_read (linking : Bool) (fields : List String) :
    ReadFrom fields (read linking fields) := by
  -- the cases are those of the reading, one for each kind of field
  fun_induction read linking fields with
  | case1 => exact readFrom_nil []
  | case2 linking field rest l h after ih =>
      have hrest := ih.mono (List.subset_cons_self field rest)
      have hl : LocatorOf (field :: rest) l :=
        Or.inl (Locator.ofField?_eq_some_iff.1 h ▸ List.mem_cons_self)
      refine ReadFrom.cons_piece ?_ hrest
      show ∀ m ∈ (SelectorChain.link l after.1).locators, LocatorOf (field :: rest) m
      rw [SelectorChain.locators_link]
      exact List.forall_mem_cons.2 ⟨hl, hrest.1⟩
  | case3 field rest h l hlink after ih =>
      have hl : LocatorOf (field :: rest) l :=
        Or.inr (Locator.ofLink?_eq_some_iff.1 hlink ▸ List.mem_cons_self)
      exact ReadFrom.cons_locator hl (ih.mono (List.subset_cons_self field rest))
  | case4 hword =>
      exact ReadFrom.cons_piece (pieceOf_ofRest hword List.mem_cons_self) (readFrom_nil _)
  | case5 next beyond l h hword hlink after ih =>
      have hl : LocatorOf (fallbackWord :: next :: beyond) l :=
        Or.inl (Locator.ofField?_eq_some_iff.1 h ▸ List.mem_cons_of_mem _ List.mem_cons_self)
      have hsub : beyond ⊆ fallbackWord :: next :: beyond :=
        fun _ hm => List.mem_cons_of_mem _ (List.mem_cons_of_mem _ hm)
      exact ReadFrom.cons_locator hl (ih.mono hsub)
  | case6 next beyond h hword hlink ih =>
      exact ReadFrom.cons_piece (pieceOf_ofRest hword List.mem_cons_self)
        (ih.mono (List.subset_cons_self _ _))
  | case7 field rest h hlink hword ih =>
      exact ReadFrom.cons_piece (pieceOf_ofRest h List.mem_cons_self)
        (ih.mono (List.subset_cons_self field rest))
  | case8 linking field rest h hlinking ih =>
      exact ReadFrom.cons_piece (pieceOf_ofRest h List.mem_cons_self)
        (ih.mono (List.subset_cons_self field rest))

end Piece

/-! ## The tokens after the name -/

namespace Token

/-- The tokens of the fields after the name of a command. -/
def ofRest (fields : List String) : List Token :=
  (Piece.read false fields).2.filterMap Piece.token?

theorem ofLine_of_fields {line name : String} {rest : List String}
    (h : Fields.ofLine line = name :: rest) :
    ofLine line = .command (CommandKind.resolveAlias name) :: ofRest rest := by
  rw [ofLine, h]
  rfl

theorem mem_ofRest {t : Token} {fields : List String} :
    t ∈ ofRest fields ↔ .token t ∈ (Piece.read false fields).2 := by
  rw [ofRest, List.mem_filterMap]
  constructor
  · rintro ⟨p, hp, hpt⟩
    cases p with
    | ignored field => exact absurd hpt (Option.some_ne_none t).symm
    | token u =>
        rw [← Option.some.inj hpt]
        exact hp
  · intro h
    exact ⟨.token t, h, rfl⟩

/-- The tokens after the name come from the fields after the name. -/
theorem pieceOf_of_mem_ofRest {t : Token} {fields : List String} (h : t ∈ ofRest fields) :
    Piece.PieceOf fields (.token t) :=
  (Piece.readFrom_read false fields).2 _ (mem_ofRest.1 h)

end Token

end BrowserScript
