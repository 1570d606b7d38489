/-
# BrowserScript.Proofs.Command.Grammar -- the first rule that a line breaks

Whether a line is a command is decided behind four stages: trimming, the cutting into
fields, the reading of tokens, and the checks on them. Here it is said **on the fields
alone**, without tokens: a line that is not silent has a name in front, and then

  * the name must be one of a kind, in either spelling;
  * one of the fields after it must be a locator, if the kind needs a selector;
  * for each parameter that the kind needs, one of these fields must begin with its key
    and an equals sign;

and the first of these that fails is the fault that is reported. What makes this more
than the definition is that links may take up fields: they never take one that assigns
to a needed key, and a locator that becomes a link has a selector before it.
-/
import Mathlib
import BrowserScript.Proofs.Command.Building
import BrowserScript.Proofs.Fields.Silent
import BrowserScript.Proofs.Token.Reading

namespace BrowserScript

/-! ## Selectors and parameters among the fields -/

namespace Piece

theorem ofRest_ne_selector (field : String) (chain : SelectorChain) :
    ofRest field ≠ token (.selector chain) := by
  unfold ofRest
  split
  · split <;> simp
  · simp

/-- A selector begins with a field that is a locator by itself. -/
theorem exists_locator_of_mem_read {chain : SelectorChain} (linking : Bool)
    (fields : List String) (h : token (.selector chain) ∈ (read linking fields).2) :
    ∃ l : Locator, l.text ∈ fields := by
  have hrest : ∀ {f : String} {pieces : List Piece},
      token (.selector chain) ∈ ofRest f :: pieces → token (.selector chain) ∈ pieces := by
    intro f pieces hmem
    rcases List.mem_cons.1 hmem with heq | hmem
    · exact absurd heq.symm (ofRest_ne_selector f chain)
    · exact hmem
  have hcons : ∀ {f : String} {more : List String}, (∃ l : Locator, l.text ∈ more) →
      ∃ l : Locator, l.text ∈ f :: more := by
    rintro f more ⟨l, hl⟩
    exact ⟨l, List.mem_cons_of_mem f hl⟩
  fun_induction read linking fields with
  | case1 => exact absurd h List.not_mem_nil
  | case2 linking field rest l hl after ih =>
      exact ⟨l, Locator.ofField?_eq_some_iff.1 hl ▸ List.mem_cons_self⟩
  | case3 field rest hfield l hl after ih => exact hcons (ih h)
  | case4 => exact absurd (hrest h) List.not_mem_nil
  | case5 next beyond l hl after hword hlink ih => exact hcons (hcons (ih h))
  | case6 next beyond hnone hword hlink ih => exact hcons (ih (hrest h))
  | case7 field rest hfield hlink hne ih => exact hcons (ih (hrest h))
  | case8 linking field rest hfield hnot ih => exact hcons (ih (hrest h))

/-- The first locator of some fields begins a selector, whatever becomes of the others. -/
theorem exists_selector_of_mem {l : Locator} {fields : List String} (h : l.text ∈ fields) :
    ∃ chain, token (.selector chain) ∈ (read false fields).2 := by
  induction fields with
  | nil => exact absurd h List.not_mem_nil
  | cons field rest ih =>
      cases hfield : Locator.ofField? field with
      | some m =>
          rw [read_locator hfield]
          exact ⟨_, List.mem_cons_self⟩
      | none =>
          have hne : l.text ≠ field := by
            rintro rfl
            rw [Locator.ofField?_text] at hfield
            exact Option.some_ne_none l hfield
          obtain ⟨chain, hchain⟩ := ih ((List.mem_cons.1 h).resolve_left hne)
          rw [read_alone hfield]
          exact ⟨chain, List.mem_cons_of_mem _ hchain⟩

/-- **No link takes up a field that assigns to another key than the linking word.** -/
theorem mem_read_of_paramField {key value : String} (hkey : IsFieldKey key)
    (hword : key ≠ fallbackWord) (linking : Bool) (fields : List String)
    (h : paramField key value ∈ fields) : token (.param key value) ∈ (read linking fields).2 := by
  have hlocator := Locator.ofField?_paramField hkey value
  have hlink := Locator.ofLink?_paramField hkey.2.1 hword value
  -- where the field is set apart it makes its parameter
  have hrest : ∀ {f : String} {more : List String} {pieces : List Piece},
      paramField key value ∈ f :: more →
      (paramField key value ∈ more → token (.param key value) ∈ pieces) →
      token (.param key value) ∈ ofRest f :: pieces := by
    intro f more pieces hmem hpieces
    rcases List.mem_cons.1 hmem with rfl | hmem
    · rw [ofRest_paramField hkey]
      exact List.mem_cons_self
    · exact List.mem_cons_of_mem _ (hpieces hmem)
  fun_induction read linking fields with
  | case1 => exact absurd h List.not_mem_nil
  | case2 linking field rest l hl after ih =>
      rcases List.mem_cons.1 h with rfl | h
      · rw [hlocator] at hl
        exact absurd hl.symm (Option.some_ne_none l)
      · exact List.mem_cons_of_mem _ (ih h)
  | case3 field rest hfield l hl after ih =>
      rcases List.mem_cons.1 h with rfl | h
      · rw [hlink] at hl
        exact absurd hl.symm (Option.some_ne_none l)
      · exact ih h
  | case4 => exact hrest h fun hmem => absurd hmem List.not_mem_nil
  | case5 next beyond l hl after hfield hno ih =>
      rcases List.mem_cons.1 h with heq | h
      · exact absurd heq (paramField_ne_fallbackWord key value)
      · rcases List.mem_cons.1 h with rfl | h
        · rw [hlocator] at hl
          exact absurd hl.symm (Option.some_ne_none l)
        · exact ih h
  | case6 next beyond hnone hfield hno ih => exact hrest h ih
  | case7 field rest hfield hno hne ih => exact hrest h ih
  | case8 linking field rest hfield hnot ih => exact hrest h ih

end Piece

namespace Token

theorem exists_selector_mem_ofRest_iff {fields : List String} :
    (∃ chain, .selector chain ∈ ofRest fields) ↔ ∃ l : Locator, l.text ∈ fields := by
  simp only [mem_ofRest]
  constructor
  · rintro ⟨chain, hchain⟩
    exact Piece.exists_locator_of_mem_read false fields hchain
  · rintro ⟨l, hl⟩
    exact Piece.exists_selector_of_mem hl

theorem param_mem_ofRest_iff {key value : String} {fields : List String} (hkey : IsFieldKey key)
    (hword : key ≠ fallbackWord) :
    .param key value ∈ ofRest fields ↔ paramField key value ∈ fields := by
  constructor
  · intro h
    exact (pieceOf_of_mem_ofRest h).2
  · intro h
    exact mem_ofRest.2 (Piece.mem_read_of_paramField hkey hword false fields h)

end Token

/-! ## What the tokens have -/

namespace Command

theorem isSome_selectorOf_iff {tokens : List Token} :
    (selectorOf tokens).isSome = true ↔ ∃ chain, .selector chain ∈ tokens := by
  rw [selectorOf, Option.isSome_map, List.findSome?_isSome_iff]
  constructor
  · rintro ⟨t, ht, hsome⟩
    cases t with
    | command name => exact absurd hsome Bool.false_ne_true
    | param key value => exact absurd hsome Bool.false_ne_true
    | selector chain => exact ⟨chain, ht⟩
  · rintro ⟨chain, hchain⟩
    exact ⟨.selector chain, hchain, rfl⟩

theorem isSome_get?_paramsOf_iff {tokens : List Token} {key : String} :
    ((paramsOf tokens).get? key).isSome = true ↔ ∃ value, .param key value ∈ tokens := by
  rw [paramsOf, Params.get?_ofList, List.lookup_isSome_iff]
  constructor
  · rintro ⟨⟨k, value⟩, hmem, hkey⟩
    obtain ⟨t, ht, hp⟩ := List.mem_filterMap.1 (List.mem_reverse.1 hmem)
    obtain rfl : key = k := by simpa using hkey
    cases t with
    | command name => exact absurd hp (Option.some_ne_none _).symm
    | selector chain => exact absurd hp (Option.some_ne_none _).symm
    | param k v =>
        obtain ⟨rfl, rfl⟩ := Prod.mk.inj (Option.some.inj hp)
        exact ⟨v, ht⟩
  · rintro ⟨value, hvalue⟩
    refine ⟨(key, value), List.mem_reverse.2 ?_, by simp⟩
    exact List.mem_filterMap.2 ⟨.param key value, hvalue, rfl⟩

/-- The first of some keys that is not there, while those before it are. -/
def IsFirstMissing (has : String → Prop) (keys : List String) (key : String) : Prop :=
  ∃ before after, keys = before ++ key :: after ∧ (∀ k ∈ before, has k) ∧ ¬ has key

theorem IsFirstMissing.congr {has has' : String → Prop} {keys : List String}
    (h : ∀ k ∈ keys, (has k ↔ has' k)) (key : String) :
    IsFirstMissing has keys key ↔ IsFirstMissing has' keys key := by
  refine exists_congr fun before => exists_congr fun after => and_congr_right fun hkeys => ?_
  subst hkeys
  have hbefore : (∀ k ∈ before, has k) ↔ ∀ k ∈ before, has' k :=
    forall₂_congr fun k hk => h k (List.mem_append_left _ hk)
  have hkey : has key ↔ has' key := h key (by simp)
  rw [hbefore, hkey]

theorem find?_paramsOf_eq_some_iff {tokens : List Token} {keys : List String} {key : String} :
    (keys.find? fun k => ((paramsOf tokens).get? k).isNone) = some key ↔
      IsFirstMissing (fun k => ∃ value, .param k value ∈ tokens) keys key := by
  have hnone : ∀ k, ((paramsOf tokens).get? k).isNone = true ↔
      ¬ ∃ value, Token.param k value ∈ tokens := by
    intro k
    rw [← isSome_get?_paramsOf_iff, ← Option.not_isSome, Bool.not_eq_true', Bool.not_eq_true]
  have hsome : ∀ k, (!((paramsOf tokens).get? k).isNone) = true ↔
      ∃ value, Token.param k value ∈ tokens := by
    intro k
    rw [Bool.not_eq_true', ← Bool.not_eq_true, hnone, not_not]
  rw [List.find?_eq_some_iff_append, hnone]
  simp only [hsome]
  constructor
  · rintro ⟨hkey, before, after, hkeys, hbefore⟩
    exact ⟨before, after, hkeys, hbefore, hkey⟩
  · rintro ⟨before, after, hkeys, hbefore, hkey⟩
    exact ⟨hkey, before, after, hkeys, hbefore⟩

/-! ## The verdict on the tokens after a known name -/

/-- The tokens lack a selector that the kind needs. -/
def LacksSelector (kind : CommandKind) (tokens : List Token) : Prop :=
  kind.requiresSelector = true ∧ ¬ ∃ chain, .selector chain ∈ tokens

variable {kind : CommandKind} {tokens : List Token}

theorem lacksSelector_iff :
    LacksSelector kind tokens ↔ (kind.requiresSelector && (selectorOf tokens).isNone) = true := by
  rw [LacksSelector, ← isSome_selectorOf_iff, Bool.and_eq_true, Bool.not_eq_true,
    ← Option.not_isSome, Bool.not_eq_true']

theorem build_eq_missingSelector_iff :
    build kind tokens = .error (.missingSelector kind) ↔ LacksSelector kind tokens := by
  rw [build_eq, lacksSelector_iff]
  split
  · rename_i h
    simp [h]
  · rename_i h
    split <;> simp [h]

theorem build_eq_missingParameter_iff {key : String} :
    build kind tokens = .error (.missingParameter kind key) ↔ ¬ LacksSelector kind tokens ∧
      IsFirstMissing (fun k => ∃ value, .param k value ∈ tokens) kind.requiredParams key := by
  rw [build_eq, lacksSelector_iff, ← find?_paramsOf_eq_some_iff]
  split
  · rename_i h
    simp [h]
  · rename_i h
    split
    · rename_i k hk
      simp [h, hk]
    · rename_i hnone
      simp [hnone]

theorem exists_build_eq_ok_iff :
    (∃ c, build kind tokens = .ok c) ↔ ¬ LacksSelector kind tokens ∧
      ∀ key ∈ kind.requiredParams, ∃ value, .param key value ∈ tokens := by
  simp only [build_eq_ok_iff, exists_eq_left, complete_iff, List.find?_eq_none]
  rw [lacksSelector_iff, Bool.not_eq_true]
  refine and_congr_right fun _ => forall₂_congr fun key _ => ?_
  rw [← isSome_get?_paramsOf_iff, ← Option.not_isSome, Bool.not_eq_true', Bool.not_eq_false]

/-- There is no other verdict. -/
theorem build_cases (kind : CommandKind) (tokens : List Token) :
    build kind tokens = .error (.missingSelector kind) ∨
      (∃ key, build kind tokens = .error (.missingParameter kind key)) ∨
        ∃ c, build kind tokens = .ok c ∧ c.kind = kind := by
  rw [build_eq]
  split
  · exact Or.inl rfl
  · split
    · exact Or.inr (Or.inl ⟨_, rfl⟩)
    · exact Or.inr (Or.inr ⟨_, rfl, rfl⟩)

/-! ## The verdict on the fields after a known name -/

theorem requiredParams_isFieldKey (kind : CommandKind) :
    ∀ key ∈ kind.requiredParams, IsFieldKey key ∧ key ≠ fallbackWord := by
  cases kind <;> decide

/-- Some field begins with a key and an equals sign. -/
def Assigns (fields : List String) (key : String) : Prop :=
  ∃ value, paramField key value ∈ fields

/-- None of the fields is a locator, and the kind needs a selector. -/
def LacksLocator (kind : CommandKind) (fields : List String) : Prop :=
  kind.requiresSelector = true ∧ ∀ l : Locator, l.text ∉ fields

theorem lacksSelector_ofRest_iff {fields : List String} :
    LacksSelector kind (Token.ofRest fields) ↔ LacksLocator kind fields := by
  rw [LacksSelector, LacksLocator, Token.exists_selector_mem_ofRest_iff, not_exists]

theorem param_mem_ofRest_iff_assigns {fields : List String} :
    ∀ key ∈ kind.requiredParams,
      ((∃ value, .param key value ∈ Token.ofRest fields) ↔ Assigns fields key) := by
  intro key hkey
  obtain ⟨hfield, hword⟩ := requiredParams_isFieldKey kind key hkey
  exact exists_congr fun value => Token.param_mem_ofRest_iff hfield hword

/-! ## Lines -/

/-- The outcome for a line that has a name and further fields. -/
theorem ofText_of_fields {text name : String} {rest : List String}
    (h : Fields.ofLine text = name :: rest) :
    ofText text =
      (ofTokens (.command (CommandKind.resolveAlias name) :: Token.ofRest rest)).map some := by
  rw [ofText, Token.ofLine_of_fields h]

theorem map_some_eq_error_iff {r : Except Fault Command} {fault : Fault} :
    r.map some = .error fault ↔ r = .error fault := by
  cases r <;> simp [Except.map]

theorem map_some_eq_ok_iff {r : Except Fault Command} {c : Option Command} :
    r.map some = .ok c ↔ ∃ command, r = .ok command ∧ c = some command := by
  cases r <;> simp [Except.map, eq_comm]

/-- **A line is passed over exactly when it is silent.** -/
theorem ofText_eq_none_iff {text : String} : ofText text = .ok none ↔ Fields.IsSilent text := by
  constructor
  · intro hnone
    by_contra h
    obtain ⟨name, rest, _, hfields⟩ := Fields.exists_fields h
    rw [ofText_of_fields hfields, map_some_eq_ok_iff] at hnone
    obtain ⟨command, _, hcommand⟩ := hnone
    exact Option.some_ne_none command hcommand.symm
  · intro h
    have hnil : Token.ofLine text = [] := by
      rw [Token.ofLine, Fields.ofLine_of_isSilent h]
      rfl
    rw [ofText, hnil]

theorem ofTokens_of_kind {name : String} (h : kind.name = name) (tokens : List Token) :
    ofTokens (.command name :: tokens) = build kind tokens := by
  simp only [ofTokens, CommandKind.ofName?_eq_some_iff.2 h]

/-- A name is unknown exactly when no kind has it. -/
theorem ofTokens_eq_unknown_iff {name : String} :
    ofTokens (.command name :: tokens) = .error (.unknownCommand name) ↔
      ∀ kind : CommandKind, kind.name ≠ name := by
  constructor
  · intro h kind hkind
    rw [ofTokens_of_kind hkind] at h
    rcases build_cases kind tokens with hb | ⟨key, hb⟩ | ⟨c, hb, _⟩ <;> rw [hb] at h <;> simp at h
  · intro h
    have hnone : CommandKind.ofName? name = none := by
      rw [Option.eq_none_iff_forall_ne_some]
      intro kind hkind
      exact h kind (CommandKind.ofName?_eq_some_iff.1 hkind)
    simp only [ofTokens, hnone]

/-- Behind a name neither the tokens nor the name can be what is missing. -/
theorem ofTokens_command_ne (name : String) (tokens : List Token) :
    ofTokens (.command name :: tokens) ≠ .error .emptyTokens ∧
      ofTokens (.command name :: tokens) ≠ .error .missingCommand := by
  by_cases hknown : ∃ kind : CommandKind, kind.name = name
  · obtain ⟨kind, hkind⟩ := hknown
    rw [ofTokens_of_kind hkind]
    rcases build_cases kind tokens with hb | ⟨key, hb⟩ | ⟨c, hb, _⟩ <;> rw [hb] <;> simp
  · rw [ofTokens_eq_unknown_iff.2 (not_exists.1 hknown)]
    simp

/-- The tokens of a line are there, and the first of them is a name. -/
theorem ofText_ne_error {text : String} :
    ofText text ≠ .error .emptyTokens ∧ ofText text ≠ .error .missingCommand := by
  by_cases h : Fields.IsSilent text
  · rw [ofText_eq_none_iff.2 h]
    simp
  · obtain ⟨name, rest, _, hfields⟩ := Fields.exists_fields h
    rw [ofText_of_fields hfields, Ne, Ne, map_some_eq_error_iff, map_some_eq_error_iff]
    exact ofTokens_command_ne _ _

/-- **The first rule that a line breaks is its fault, and a line that breaks none is a
command.** A silent line is neither. -/
theorem ofLine_first_fault (text : String) (n : Nat) :
    (ofLine text n = .ok none ↔ Fields.IsSilent text) ∧
    (¬ Fields.IsSilent text → ∃ name rest,
      Fields.ofText (.ofList (Fields.trimmed text)) = name :: rest ∧
      (ofLine text n = .error ⟨n, .unknownCommand (CommandKind.resolveAlias name)⟩ ↔
        ∀ kind : CommandKind, kind.name ≠ CommandKind.resolveAlias name) ∧
      ∀ kind : CommandKind, kind.name = CommandKind.resolveAlias name →
        (ofLine text n = .error ⟨n, .missingSelector kind⟩ ↔ LacksLocator kind rest) ∧
        (∀ key, ofLine text n = .error ⟨n, .missingParameter kind key⟩ ↔
          ¬ LacksLocator kind rest ∧ IsFirstMissing (Assigns rest) kind.requiredParams key) ∧
        ((∃ c, ofLine text n = .ok (some c) ∧ c.kind = kind) ↔
          ¬ LacksLocator kind rest ∧ ∀ key ∈ kind.requiredParams, Assigns rest key)) ∧
    ∀ m, ofLine text n ≠ .error ⟨m, .emptyTokens⟩ ∧
      ofLine text n ≠ .error ⟨m, .missingCommand⟩ := by
  refine ⟨?_, ?_, ?_⟩
  · rw [ofLine_eq_ok_iff, ofText_eq_none_iff]
  · intro h
    obtain ⟨name, rest, htext, hfields⟩ := Fields.exists_fields h
    have hline := ofText_of_fields hfields
    refine ⟨name, rest, htext, ?_, ?_⟩
    · rw [ofLine_eq_error_iff, hline, map_some_eq_error_iff, ofTokens_eq_unknown_iff]
      exact and_iff_right rfl
    · intro kind hkind
      rw [ofTokens_of_kind hkind] at hline
      refine ⟨?_, ?_, ?_⟩
      · rw [ofLine_eq_error_iff, hline, map_some_eq_error_iff, build_eq_missingSelector_iff,
          lacksSelector_ofRest_iff]
        exact and_iff_right rfl
      · intro key
        rw [ofLine_eq_error_iff, hline, map_some_eq_error_iff, build_eq_missingParameter_iff,
          lacksSelector_ofRest_iff, IsFirstMissing.congr param_mem_ofRest_iff_assigns]
        exact and_iff_right rfl
      · rw [← lacksSelector_ofRest_iff, ← forall₂_congr param_mem_ofRest_iff_assigns,
          ← exists_build_eq_ok_iff]
        simp only [ofLine_eq_ok_iff, hline, map_some_eq_ok_iff, Option.some.injEq,
          exists_eq_right']
        refine exists_congr fun c => and_iff_left_of_imp ?_
        intro hc
        rw [(build_eq_ok_iff.1 hc).1]
  · intro m
    simp only [Ne, ofLine_eq_error_iff, not_and]
    exact ⟨fun _ => ofText_ne_error.1, fun _ => ofText_ne_error.2⟩

/-- An indented comment, a name that no kind has, and a line in which a link stands between
the selector and the needed parameter. -/
theorem ofLine_first_fault_fill :
    ofLine "\t# fill" 1 = .ok none ∧
    ofLine "go_up css=#a" 2 = .error ⟨2, .unknownCommand "go_up"⟩ ∧
    ∃ c, ofLine "fill css=#a fallback text=A value=v" 3 = .ok (some c) ∧ c.kind = .fill := by
  refine ⟨(ofLine_first_fault _ 1).1.2 (by decide), ?_, ?_⟩
  · obtain ⟨name, rest, htext, hunknown, _⟩ :=
      (ofLine_first_fault "go_up css=#a" 2).2.1 (by decide)
    have hfields : Fields.ofText (.ofList (Fields.trimmed "go_up css=#a")) =
        ["go_up", "css=#a"] := by cbv
    obtain ⟨rfl, rfl⟩ := List.cons.inj (hfields.symm.trans htext)
    exact hunknown.2 fun kind => by cases kind <;> decide
  · obtain ⟨name, rest, htext, _, hknown⟩ :=
      (ofLine_first_fault "fill css=#a fallback text=A value=v" 3).2.1 (by decide)
    have hfields : Fields.ofText (.ofList
        (Fields.trimmed "fill css=#a fallback text=A value=v")) =
        ["fill", "css=#a", "fallback", "text=A", "value=v"] := by cbv
    obtain ⟨rfl, rfl⟩ := List.cons.inj (hfields.symm.trans htext)
    have hlocator : ¬ LacksLocator .fill ["css=#a", "fallback", "text=A", "value=v"] :=
      fun h => h.2 ⟨.css, "#a"⟩ (by decide)
    have hvalue : Assigns ["css=#a", "fallback", "text=A", "value=v"] "value" :=
      ⟨"v", by decide⟩
    exact (hknown .fill (by decide)).2.2.2 ⟨hlocator, List.forall_mem_singleton.2 hvalue⟩

end Command

end BrowserScript
