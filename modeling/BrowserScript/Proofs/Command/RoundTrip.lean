/-
# BrowserScript.Proofs.Command.RoundTrip -- canonical lines are read back

A command is written and read by two functions that know nothing of each other. What
makes the line of a command give the command again is three conditions, and no more:

  * the command is **complete**, since an incomplete one would be refused;
  * its selector is **flat**, since fallbacks of fallbacks are not written;
  * its keys are **field keys**, since with another key the field would be set aside,
    split at an earlier equals sign, or taken for a locator.

Every command that is built from tokens meets the first two, and every command that
is read from a text meets the third as well. Values are not restricted at all.
-/
import Mathlib
import BrowserScript.Proofs.Command.Building
import BrowserScript.Proofs.Command.CanonicalLine

namespace BrowserScript

/-! ## The three conditions -/

/-- The fallbacks of a selector have no fallbacks of their own. -/
def Selector.Flat (s : Selector) : Prop :=
  ∀ f ∈ s.fallbacks, f.fallbacks = []

/-- The chain that is written for a selector. -/
def Selector.chain (s : Selector) : SelectorChain :=
  .link s.locator (s.fallbacks.map (·.locator))

theorem Selector.flat_ofChain (chain : SelectorChain) : (ofChain chain).Flat := by
  obtain ⟨l, links, rfl⟩ := chain.exists_eq_link
  rw [ofChain_link]
  intro f hf
  obtain ⟨m, _, rfl⟩ := List.mem_map.1 hf
  rfl

/-- What is written for a flat selector is all of it. -/
theorem Selector.ofChain_chain {s : Selector} (h : s.Flat) : ofChain s.chain = s := by
  obtain ⟨l, fallbacks⟩ := s
  have hmap : fallbacks.map (plain ∘ fun f => f.locator) = fallbacks.map id := by
    apply List.map_congr_left
    intro f hf
    obtain ⟨m, inner⟩ := f
    have hnil : inner = [] := h _ hf
    rw [hnil]
    rfl
  rw [chain, ofChain_link, List.map_map, hmap, List.map_id]

namespace Command

/-- The selector of a command, if there is one, is flat. -/
def Flat (c : Command) : Prop :=
  ∀ s ∈ c.selector, s.Flat

/-- Every key of a command can be the key of a field. -/
def HasFieldKeys (c : Command) : Prop :=
  ∀ e ∈ c.params.entries, IsFieldKey e.1

theorem complete_of_ofTokens {tokens : List Token} {c : Command} (h : ofTokens tokens = .ok c) :
    c.Complete := by
  obtain ⟨_, _, _, _, hcomplete⟩ := ofTokens_eq_ok_iff.1 h
  exact hcomplete

theorem flat_of_ofTokens {tokens : List Token} {c : Command} (h : ofTokens tokens = .ok c) :
    c.Flat := by
  obtain ⟨rest, _, _, hselector, _⟩ := ofTokens_eq_ok_iff.1 h
  intro s hs
  rw [hselector, selectorOf, Option.mem_def, Option.map_eq_some_iff] at hs
  obtain ⟨chain, _, rfl⟩ := hs
  exact Selector.flat_ofChain chain

/-! ## Commands that are read from a text -/

/-- The tokens of a line after the first come from its fields. -/
theorem pieceOf_of_mem_ofLine {text : String} {t : Token} {rest : List Token}
    (h : Token.ofLine text = t :: rest) :
    ∀ u ∈ rest, Piece.PieceOf (Fields.ofLine text) (.token u) := by
  cases hfields : Fields.ofLine text with
  | nil =>
      rw [Token.ofLine, hfields] at h
      exact absurd h.symm (List.cons_ne_nil t rest)
  | cons name fields =>
      rw [Token.ofLine_of_fields hfields] at h
      obtain rfl := (List.cons.inj h).2
      intro u hu
      exact (Token.pieceOf_of_mem_ofRest hu).mono (List.subset_cons_self name fields)

/-- A parameter of a command is among the tokens that the command was built from. -/
theorem mem_of_mem_paramsOf {tokens : List Token} {e : String × String}
    (h : e ∈ (paramsOf tokens).entries) : Token.param e.1 e.2 ∈ tokens := by
  have hget := Params.get?_eq_some_iff.2 h
  rw [paramsOf, Params.get?_ofList, List.lookup_eq_some_iff] at hget
  obtain ⟨before, after, heq, _⟩ := hget
  have hmem : e ∈ tokens.filterMap Token.param? := by
    rw [← List.mem_reverse, heq]
    exact List.mem_append_right before List.mem_cons_self
  obtain ⟨t, ht, hte⟩ := List.mem_filterMap.1 hmem
  cases t with
  | command name => exact absurd hte (by simp [Token.param?])
  | selector chain => exact absurd hte (by simp [Token.param?])
  | param key value =>
      obtain rfl := Option.some.inj hte
      exact ht

/-- Every parameter is written, before the selector or after it. -/
theorem mem_leadingParams_or_trailingParams (c : Command) (e : String × String) :
    e ∈ c.leadingParams ++ c.trailingParams ↔ e ∈ c.params.entries := by
  rw [List.mem_append, leadingParams, trailingParams]
  cases c.selector with
  | none => simp
  | some s =>
      simp only [Option.isSome_some, if_true, List.mem_filter, beq_iff_eq, bne_iff_ne, ne_eq]
      rw [← and_or_left]
      exact and_iff_left (em _)

/-- A parameter of a command that is read from a text is a field of the text. -/
theorem paramField_mem_ofLine {text : String} {c : Command} (h : ofText text = .ok (some c))
    {e : String × String} (he : e ∈ c.params.entries) :
    IsFieldKey e.1 ∧ paramField e.1 e.2 ∈ Fields.ofLine text := by
  obtain ⟨rest, htokens, hparams, _, _⟩ := ofTokens_eq_ok_iff.1 (ofText_eq_some_iff.1 h)
  rw [hparams] at he
  exact pieceOf_of_mem_ofLine htokens _ (mem_of_mem_paramsOf he)

theorem hasFieldKeys_of_ofText {text : String} {c : Command} (h : ofText text = .ok (some c)) :
    c.HasFieldKeys :=
  fun _ he => (paramField_mem_ofLine h he).1

/-- The locators of a command that is read from a text come from fields of the text. -/
theorem selector_of_ofText {text : String} {c : Command} (h : ofText text = .ok (some c))
    {s : Selector} (hs : c.selector = some s) :
    ∃ l links, s = ⟨l, links.map Selector.plain⟩ ∧
      ∀ m ∈ l :: links, Piece.LocatorOf (Fields.ofLine text) m := by
  obtain ⟨rest, htokens, _, hselector, _⟩ := ofTokens_eq_ok_iff.1 (ofText_eq_some_iff.1 h)
  rw [hselector, selectorOf, Option.map_eq_some_iff] at hs
  obtain ⟨chain, hchain, rfl⟩ := hs
  obtain ⟨t, ht, hte⟩ := List.exists_of_findSome?_eq_some hchain
  obtain ⟨l, links, rfl⟩ := chain.exists_eq_link
  refine ⟨l, links, Selector.ofChain_link l links, ?_⟩
  cases t with
  | command name => exact absurd hte (by simp [Token.selector?])
  | param key value => exact absurd hte (by simp [Token.selector?])
  | selector chain =>
      have hpiece : ∀ m ∈ chain.locators, Piece.LocatorOf (Fields.ofLine text) m :=
        pieceOf_of_mem_ofLine htokens _ ht
      obtain rfl := Option.some.inj hte
      rwa [SelectorChain.locators_link] at hpiece

/-- **Whatever is written for a command was read for it**: the fields of its canonical line
are fields of the text, or stood in the text in a link of the short form. -/
theorem mem_fields_of_ofText {text : String} {c : Command} (h : ofText text = .ok (some c))
    {f : String} (hf : f ∈ c.fields) :
    f = fallbackWord ∨ f ∈ Fields.ofLine text ∨ paramField fallbackWord f ∈ Fields.ofLine text := by
  have hparams : ∀ params : List (String × String), (∀ e ∈ params, e ∈ c.params.entries) →
      f ∈ params.map (fun p => paramField p.1 p.2) → f ∈ Fields.ofLine text := by
    intro params hsub hmem
    obtain ⟨e, he, rfl⟩ := List.mem_map.1 hmem
    exact (paramField_mem_ofLine h (hsub e he)).2
  rw [fields, List.mem_append, List.mem_append] at hf
  rcases hf with (hf | hf) | hf
  · refine Or.inr (Or.inl (hparams _ (fun e he => ?_) hf))
    exact (c.mem_leadingParams_or_trailingParams e).1 (List.mem_append_left _ he)
  · cases hs : c.selector with
    | none =>
        rw [hs] at hf
        exact absurd hf List.not_mem_nil
    | some s =>
        obtain ⟨l, links, rfl, hlocators⟩ := selector_of_ofText h hs
        have hlinks : (links.map Selector.plain).map (·.locator) = links := by
          rw [List.map_map]
          exact List.map_id links
        rw [hs, selectorFields, hlinks, Piece.linkFields] at hf
        rcases List.mem_cons.1 hf with rfl | hf
        · exact Or.inr (hlocators l List.mem_cons_self)
        · obtain ⟨m, hm, hf⟩ := List.mem_flatMap.1 hf
          rcases List.mem_cons.1 hf with rfl | hf
          · exact Or.inl rfl
          · rw [List.mem_singleton.1 hf]
            exact Or.inr (hlocators m (List.mem_cons_of_mem l hm))
  · refine Or.inr (Or.inl (hparams _ (fun e he => ?_) hf))
    exact (c.mem_leadingParams_or_trailingParams e).1 (List.mem_append_right _ he)

/-- **A canonical line has no white characters but spaces that the text did not have**, so
it is one line if the text is. -/
theorem mem_text_of_mem_render {text : String} {c : Command} (h : ofText text = .ok (some c))
    {x : Char} (hx : Text.isWhite x = true) (hspace : x ≠ ' ') (hmem : x ∈ c.render.toList) :
    x ∈ text.toList := by
  obtain ⟨f, hf, hxf⟩ := mem_fields_of_mem_render hx hspace hmem
  rcases mem_fields_of_ofText h hf with rfl | hfield | hfield
  · -- the linking word is plain
    have hword : fallbackWord.toList.any Text.isWhite = false := by decide
    exact absurd hx (List.any_eq_false.1 hword x hxf)
  · exact Fields.mem_of_mem_ofLine hfield hxf
  · refine Fields.mem_of_mem_ofLine hfield ?_
    rw [toList_paramField]
    exact List.mem_append_right _ (List.mem_cons_of_mem '=' hxf)

/-! ## The tokens of a canonical line -/

/-- The tokens of some parameters. -/
def paramTokens (params : List (String × String)) : List Token :=
  params.map fun p => .param p.1 p.2

/-- The token of a selector, if there is one. -/
def selectorTokens : Option Selector → List Token
  | some s => [.selector s.chain]
  | none => []

/-- The tokens that a command is written with, after its name. -/
def tokens (c : Command) : List Token :=
  paramTokens c.leadingParams ++ selectorTokens c.selector ++ paramTokens c.trailingParams

theorem filterMap_token?_ofParam (params : List (String × String)) :
    (params.map Piece.ofParam).filterMap Piece.token? = paramTokens params := by
  induction params with
  | nil => rfl
  | cons p params ih =>
      rw [List.map_cons, paramTokens, List.map_cons, ← paramTokens, ← ih]
      rfl

theorem resolveAlias_name (k : CommandKind) : CommandKind.resolveAlias k.name = k.name := by
  cases k <;> decide

/-- **The fields of a command with field keys are read as its tokens.** -/
theorem read_fields {c : Command} (h : c.HasFieldKeys) :
    (Piece.read false c.fields).2.filterMap Piece.token? = c.tokens := by
  obtain ⟨kind, params, selector⟩ := c
  cases selector with
  | none =>
      have hread := Piece.read_params h []
      simp only [fields, tokens, leadingParams, trailingParams, selectorFields, selectorTokens,
        Option.isSome_none, Bool.false_eq_true, if_false, List.map_nil, List.nil_append]
      rw [← List.append_nil (List.map _ _), hread, List.filterMap_append,
        filterMap_token?_ofParam]
      simp only [Piece.read, List.filterMap_nil, List.append_nil, paramTokens, List.map_nil,
        List.nil_append]
  | some s =>
      -- the keys before the selector may be the linking word, those after it are not
      have hleading : ∀ p ∈ params.entries.filter (fun p => p.1 == fallbackWord),
          IsFieldKey p.1 := fun p hp => h p (List.mem_filter.1 hp).1
      have htrailing : ∀ p ∈ params.entries.filter (fun p => p.1 != fallbackWord),
          IsFieldKey p.1 ∧ p.1 ≠ fallbackWord := by
        intro p hp
        obtain ⟨hmem, hne⟩ := List.mem_filter.1 hp
        exact ⟨h p hmem, bne_iff_ne.1 hne⟩
      have hlinks := Piece.read_linkFields (s.fallbacks.map (·.locator))
        ((params.entries.filter fun p => p.1 != fallbackWord).map fun p => paramField p.1 p.2)
      rw [Piece.read_params_after htrailing, List.append_nil] at hlinks
      simp only [fields, tokens, leadingParams, trailingParams, selectorFields, selectorTokens,
        Option.isSome_some, if_true]
      rw [List.append_assoc, Piece.read_params hleading, List.cons_append,
        Piece.read_locator s.locator.ofField?_text, hlinks, List.filterMap_append,
        filterMap_token?_ofParam, List.append_assoc]
      rw [List.filterMap_cons, filterMap_token?_ofParam]
      rfl

theorem ofLine_render_tokens {c : Command} (h : c.HasFieldKeys) :
    Token.ofLine c.render = .command c.kind.name :: c.tokens := by
  rw [Token.ofLine, Token.ofFields, ofLine_render, Piece.ofFields, List.filterMap_cons,
    read_fields h, resolveAlias_name]
  rfl

/-! ## The command of these tokens -/

theorem filterMap_param?_paramTokens (params : List (String × String)) :
    (paramTokens params).filterMap Token.param? = params := by
  induction params with
  | nil => rfl
  | cons p params ih =>
      rw [paramTokens, List.map_cons, List.filterMap_cons, ← paramTokens, ih]
      rfl

theorem findSome?_selector?_paramTokens (params : List (String × String)) :
    (paramTokens params).findSome? Token.selector? = none := by
  rw [List.findSome?_eq_none_iff]
  intro t ht
  obtain ⟨p, _, rfl⟩ := List.mem_map.1 ht
  rfl

theorem selectorOf_tokens {c : Command} (h : c.Flat) : selectorOf c.tokens = c.selector := by
  rw [selectorOf, tokens, List.findSome?_append, List.findSome?_append,
    findSome?_selector?_paramTokens, findSome?_selector?_paramTokens, Option.none_or,
    Option.or_none]
  cases hs : c.selector with
  | none => rfl
  | some s =>
      have hflat : s.Flat := h s hs
      show some (Selector.ofChain s.chain) = some s
      rw [Selector.ofChain_chain hflat]

theorem paramsOf_tokens (c : Command) : paramsOf c.tokens = c.params := by
  have hselector : (selectorTokens c.selector).filterMap Token.param? = [] := by
    cases c.selector <;> rfl
  rw [paramsOf, tokens, List.filterMap_append, List.filterMap_append,
    filterMap_param?_paramTokens, filterMap_param?_paramTokens, hselector, List.append_nil]
  exact Params.ofList_eq_of_mem_iff c.mem_leadingParams_or_trailingParams

/-- **A command is read back from its canonical line if and only if it is complete, flat
and has field keys.** -/
theorem ofText_render_iff {c : Command} :
    ofText c.render = .ok (some c) ↔ c.Complete ∧ c.Flat ∧ c.HasFieldKeys := by
  constructor
  · intro h
    have htokens := ofText_eq_some_iff.1 h
    exact ⟨complete_of_ofTokens htokens, flat_of_ofTokens htokens, hasFieldKeys_of_ofText h⟩
  · rintro ⟨hcomplete, hflat, hkeys⟩
    rw [ofText_eq_some_iff, ofTokens_eq_ok_iff]
    exact ⟨c.tokens, ofLine_render_tokens hkeys, (paramsOf_tokens c).symm,
      (selectorOf_tokens hflat).symm, hcomplete⟩

/-- A command that is read from a text is read from its canonical line as well. -/
theorem ofText_render_of_ofText {text : String} {c : Command} (h : ofText text = .ok (some c)) :
    ofText c.render = .ok (some c) := by
  have htokens := ofText_eq_some_iff.1 h
  exact ofText_render_iff.2
    ⟨complete_of_ofTokens htokens, flat_of_ofTokens htokens, hasFieldKeys_of_ofText h⟩

/-- **What is read from canonical lines.** A command that any tokens make is read back from
its canonical line, as whatever line of a script, exactly when its keys are field keys. The
keys of a command that is read from a line always are, so such a command is always read
back. -/
theorem reading_canonical_lines :
    (∀ (tokens : List Token) (n m : Nat) (c : Command), parse tokens n = .ok c →
      (ofLine c.render m = .ok (some c) ↔ ∀ e ∈ c.params.entries, IsFieldKey e.1)) ∧
    ∀ (text : String) (n : Nat) (c : Command), ofLine text n = .ok (some c) →
      (∀ e ∈ c.params.entries, IsFieldKey e.1) ∧ ∀ m, ofLine c.render m = .ok (some c) := by
  constructor
  · intro tokens n m c hparse
    have htokens := parse_eq_ok_iff.1 hparse
    rw [ofLine_eq_ok_iff, ofText_render_iff]
    constructor
    · rintro ⟨_, _, hkeys⟩
      exact hkeys
    · intro hkeys
      exact ⟨complete_of_ofTokens htokens, flat_of_ofTokens htokens, hkeys⟩
  · intro text n c hline
    have htext := ofLine_eq_ok_iff.1 hline
    exact ⟨hasFieldKeys_of_ofText htext,
      fun m => ofLine_eq_ok_iff.2 (ofText_render_of_ofText htext)⟩

/-- A line with a parameter named like the linking word beside a selector, a quoted key and
an escaped backslash is read back; a key with an equals sign in it is not. -/
theorem reading_canonical_lines_click :
    (∃ c, ofLine "click fallback=css=.s css=#a\\ b fallback=text= 'a b'=x\\\\" 7 = .ok (some c) ∧
      ofLine c.render 1 = .ok (some c)) ∧
    ∃ c, parse [.command "log", .param "a=b" "c"] 3 = .ok c ∧ ofLine c.render 1 ≠ .ok (some c) := by
  constructor
  · have hline : ofLine "click fallback=css=.s css=#a\\ b fallback=text= 'a b'=x\\\\" 7 =
        .ok (some ⟨.click, .ofList [("fallback", "css=.s"), ("a b", "x\\")],
          some ⟨⟨.css, "#a b"⟩, [.plain ⟨.text, ""⟩]⟩⟩) := by cbv
    exact ⟨_, hline, (reading_canonical_lines.2 _ _ _ hline).2 1⟩
  · have hparse : parse [.command "log", .param "a=b" "c"] 3 =
        .ok ⟨.log, .ofList [("a=b", "c")], none⟩ := by cbv
    refine ⟨_, hparse, ?_⟩
    intro hline
    have hkeys := (reading_canonical_lines.1 _ _ 1 _ hparse).1 hline
    exact absurd (hkeys ("a=b", "c") List.mem_cons_self) (by decide)

end Command

end BrowserScript
