/-
# BrowserScript.Proofs.Command.LastField -- when the end of a line decides its command

Two lines that differ in the last character of their last field have a command or none
together. Their commands differ exactly when the last piece **counts**: a parameter
always does, since the last value for a key is the one that is kept, and a selector
does when it is the first. A field that is set aside and a further selector do not.
-/
import BrowserScript.Proofs.Command.Building
import BrowserScript.Proofs.Fields.LastCharacter
import BrowserScript.Proofs.Token.LastField

namespace BrowserScript

/-! ## Selectors and their last character -/

theorem Locator.push_inj {l : Locator} {a b : Char} (h : l.push a = l.push b) : a = b := by
  have hvalue := congrArg Locator.value h
  exact (String.push_inj.1 hvalue).2

theorem SelectorChain.push_inj {chain : SelectorChain} {a b : Char}
    (h : chain.push a = chain.push b) : a = b := by
  induction chain with
  | last l => exact Locator.push_inj (last.inj h)
  | orElse l next ih => exact ih (orElse.inj h).2

theorem Selector.ofChain_inj {chain chain' : SelectorChain} (h : ofChain chain = ofChain chain') :
    chain = chain' := by
  obtain ⟨l, links, rfl⟩ := chain.exists_eq_link
  obtain ⟨m, links', rfl⟩ := chain'.exists_eq_link
  rw [ofChain_link, ofChain_link] at h
  obtain ⟨rfl, hmap⟩ := Selector.mk.inj h
  have hlinks : links = links' := by
    refine List.map_injective_iff.2 (fun x y hxy => ?_) hmap
    exact (Selector.mk.inj hxy).1
  rw [hlinks]

/-! ## The last piece -/

/-- A piece has a part in the command of a line, where it stands behind these pieces. -/
def Piece.CountsAfter (before : List Piece) : Piece → Prop
  | token (.param _ _) => True
  | token (.selector _) => (before.filterMap token?).findSome? Token.selector? = none
  | _ => False

theorem Piece.countsAfter_push {before : List Piece} {x : Piece} {c : Char} :
    (x.push c).CountsAfter before ↔ x.CountsAfter before := by
  rcases x with (name | chain | ⟨key, value⟩) | field <;> exact Iff.rfl

/-- The name of the command is no selector. -/
theorem Piece.countsAfter_cons_command {name : String} {before : List Piece} {x : Piece} :
    x.CountsAfter (token (.command name) :: before) ↔ x.CountsAfter before := by
  rcases x with (name | chain | ⟨key, value⟩) | field <;> exact Iff.rfl

namespace Command

/-- The command of a kind that the pieces after its name give, complete or not. -/
def ofPieces (kind : CommandKind) (pieces : List Piece) : Command :=
  ⟨kind, paramsOf (pieces.filterMap Piece.token?), selectorOf (pieces.filterMap Piece.token?)⟩

/-- A token that is no selector, and one behind a selector, leaves the selector as it is. -/
theorem selectorOf_append (tokens : List Token) (t : Token) :
    selectorOf (tokens ++ [t]) =
      ((tokens.findSome? Token.selector?).or t.selector?).map Selector.ofChain := by
  rw [selectorOf, List.findSome?_append, List.findSome?_singleton]

/-- A further piece gives the same command, whatever is at its end, when it is no token. -/
theorem ofPieces_concat_ignored (kind : CommandKind) (before : List Piece) (field : String) :
    ofPieces kind (before ++ [.ignored field]) = ofPieces kind before := by
  rw [ofPieces, List.filterMap_append]
  simp only [List.filterMap_cons, Piece.token?, List.filterMap_nil, List.append_nil, ofPieces]

theorem ofPieces_concat_token (kind : CommandKind) (before : List Piece) (t : Token) :
    ofPieces kind (before ++ [.token t]) =
      ⟨kind, paramsOf (before.filterMap Piece.token? ++ [t]),
        selectorOf (before.filterMap Piece.token? ++ [t])⟩ := by
  rw [ofPieces, List.filterMap_append]
  rfl

/-- What a command has does not depend on the character at the end of the last piece. -/
theorem complete_ofPieces_push {kind : CommandKind} {before : List Piece} {x : Piece} {a : Char}
    (h : (ofPieces kind (before ++ [x.push a])).Complete) (b : Char) :
    (ofPieces kind (before ++ [x.push b])).Complete := by
  rcases x with (name | chain | ⟨key, value⟩) | field
  · simpa only [Piece.push, ofPieces_concat_token, paramsOf_append, selectorOf_append,
      Token.param?, Token.selector?] using h
  · -- there is a selector, whichever it is
    simp only [Piece.push, ofPieces_concat_token, paramsOf_append, selectorOf_append,
      Token.param?, Token.selector?] at h ⊢
    refine ⟨fun _ => ?_, h.params⟩
    rw [Option.isSome_map, Option.isSome_or]
    exact Bool.or_true _
  · -- the same keys have values, whichever they are
    simp only [Piece.push, ofPieces_concat_token, paramsOf_append, selectorOf_append,
      Token.param?, Token.selector?] at h ⊢
    refine ⟨h.selector, ?_⟩
    intro k hk
    have hhas := h.params k hk
    rw [Params.get?_insert] at hhas ⊢
    split
    · rfl
    · rename_i hne
      rwa [if_neg hne] at hhas
  · simpa only [Piece.push, ofPieces_concat_ignored] using h

/-- **The character at the end matters if and only if the last piece counts.** -/
theorem ofPieces_push_eq_iff {kind : CommandKind} {before : List Piece} {x : Piece} {a b : Char}
    (hne : a ≠ b) :
    ofPieces kind (before ++ [x.push a]) = ofPieces kind (before ++ [x.push b]) ↔
      ¬ x.CountsAfter before := by
  rcases x with (name | chain | ⟨key, value⟩) | field
  · simp only [Piece.push, ofPieces_concat_token, paramsOf_append, selectorOf_append,
      Token.param?, Token.selector?, Piece.CountsAfter, not_false_eq_true]
  · simp only [Piece.push, ofPieces_concat_token, paramsOf_append, selectorOf_append,
      Token.param?, Token.selector?, Piece.CountsAfter]
    cases hfirst : (before.filterMap Piece.token?).findSome? Token.selector? with
    | some first => simp only [Option.some_or, reduceCtorEq, not_false_eq_true]
    | none =>
        -- the selector is the one of the last piece
        refine iff_of_false (fun heq => hne ?_) (not_not_intro rfl)
        have hselector := congrArg Command.selector heq
        simp only [Option.none_or, Option.map_some, Option.some.injEq] at hselector
        exact SelectorChain.push_inj (Selector.ofChain_inj hselector)
  · simp only [Piece.push, ofPieces_concat_token, paramsOf_append, selectorOf_append,
      Token.param?, Token.selector?, Piece.CountsAfter]
    -- the value for the key is the last one, and it ends in the character
    refine iff_of_false (fun heq => hne ?_) (not_not_intro trivial)
    have hget := congrArg (fun c : Command => c.params.get? key) heq
    simp only [Params.get?_insert, if_true, Option.some.injEq] at hget
    exact (String.push_inj.1 hget).2
  · simp only [Piece.push, ofPieces_concat_ignored, Piece.CountsAfter, not_false_eq_true]

/-! ## Lines that differ in their last character -/

/-- A line has the command that its name and its pieces give, when nothing is missing. -/
theorem ofText_eq_some_iff_ofPieces {text name : String} {pieces : List Piece}
    (h : Piece.ofLine text = .token (.command name) :: pieces) {c : Command} :
    ofText text = .ok (some c) ↔
      ∃ kind : CommandKind, kind.name = name ∧ c = ofPieces kind pieces ∧ c.Complete := by
  have htokens : Token.ofLine text = .command name :: pieces.filterMap Piece.token? := by
    rw [Token.ofLine, Token.ofFields, ← Piece.ofLine, h]
    rfl
  rw [ofText_eq_some_iff, ofTokens_eq_ok_iff, htokens]
  constructor
  · rintro ⟨rest, heq, hparams, hselector, hcomplete⟩
    obtain ⟨hname, rfl⟩ := List.cons.inj heq
    refine ⟨c.kind, (Token.command.inj hname).symm, ?_, hcomplete⟩
    rw [ofPieces, ← hparams, ← hselector]
  · rintro ⟨kind, rfl, rfl, hcomplete⟩
    exact ⟨_, rfl, rfl, rfl, hcomplete⟩

/-- The last piece of a line has a part in its command. -/
def LastFieldCounts (text : String) : Prop :=
  ∃ before x, Piece.ofLine text = before ++ [x] ∧ x.CountsAfter before

theorem lastFieldCounts_iff {text : String} {before : List Piece} {x : Piece}
    (h : Piece.ofLine text = before ++ [x]) : LastFieldCounts text ↔ x.CountsAfter before := by
  constructor
  · rintro ⟨before', x', heq, hcounts⟩
    obtain ⟨rfl, hx⟩ := List.append_inj' (h.symm.trans heq) rfl
    obtain rfl := List.singleton_inj.1 hx
    exact hcounts
  · exact fun hcounts => ⟨before, x, h, hcounts⟩

theorem exists_ofText_push {text text' name : String} {before : List Piece} {x : Piece}
    {a b : Char} (h : Piece.ofLine text = .token (.command name) :: before ++ [x.push a])
    (h' : Piece.ofLine text' = .token (.command name) :: before ++ [x.push b]) (hne : a ≠ b)
    {c : Command} (hc : ofText text = .ok (some c)) :
    ∃ c', ofText text' = .ok (some c') ∧ (c' = c ↔ ¬ LastFieldCounts text) := by
  rw [List.cons_append] at h'
  obtain ⟨kind, rfl, rfl, hcomplete⟩ := (ofText_eq_some_iff_ofPieces h).1 hc
  refine ⟨ofPieces kind (before ++ [x.push b]), ?_, ?_⟩
  · exact (ofText_eq_some_iff_ofPieces h').2
      ⟨kind, rfl, rfl, complete_ofPieces_push hcomplete b⟩
  · rw [lastFieldCounts_iff h, Piece.countsAfter_cons_command, Piece.countsAfter_push, eq_comm]
    exact ofPieces_push_eq_iff hne

end Command

/-! ## Names that are none -/

namespace CommandKind

theorem name_ends_in_letter (k : CommandKind) :
    ∃ l, k.name.toList.getLast? = some l ∧ l.isAlpha = true := by
  cases k <;> exact ⟨_, rfl, by decide⟩

theorem alias_ends_in_letter :
    ∀ a ∈ aliases, ∃ l, a.1.toList.getLast? = some l ∧ l.isAlpha = true := by
  have hall : aliases.all (fun a => a.1.toList.getLast?.any Char.isAlpha) = true := by decide
  intro a ha
  have hlast := List.all_eq_true.1 hall a ha
  rw [Option.any_eq_true] at hlast
  exact hlast

/-- No name in either spelling ends in a character that is no letter. -/
theorem name_ne_resolveAlias_push {c : Char} (hc : c.isAlpha = false) (k : CommandKind)
    (f : String) : k.name ≠ resolveAlias (f.push c) := by
  have hlast : (f.push c).toList.getLast? = some c := by
    rw [String.toList_push, List.getLast?_concat]
  have hletter : ∀ l, (f.push c).toList.getLast? = some l → l.isAlpha ≠ true := by
    intro l hl
    rw [hlast] at hl
    rw [← Option.some.inj hl, hc]
    exact Bool.false_ne_true
  intro h
  rw [resolveAlias] at h
  split at h
  · rename_i kind hlookup
    obtain ⟨before, after, heq, _⟩ := List.lookup_eq_some_iff.1 hlookup
    have hmem : (f.push c, kind) ∈ aliases := by
      rw [heq]
      exact List.mem_append_right before List.mem_cons_self
    obtain ⟨l, hl, halpha⟩ := alias_ends_in_letter _ hmem
    exact hletter l hl halpha
  · obtain ⟨l, hl, halpha⟩ := k.name_ends_in_letter
    rw [h] at hl
    exact hletter l hl halpha

end CommandKind

namespace Command

theorem ofText_single_ne {text f : String} {c : Char} (hc : c.isAlpha = false)
    (h : Fields.ofLine text = [f.push c]) (command : Command) :
    ofText text ≠ .ok (some command) := by
  have hpieces : Piece.ofLine text =
      .token (.command (CommandKind.resolveAlias (f.push c))) :: [] := by
    rw [Piece.ofLine, h, Piece.ofFields, Piece.read.eq_def]
  intro hcommand
  obtain ⟨kind, hkind, _⟩ := (ofText_eq_some_iff_ofPieces hpieces).1 hcommand
  exact kind.name_ne_resolveAlias_push hc f hkind

theorem ofText_blank_ne {text : String} (h : Fields.ofLine text = []) (command : Command) :
    ofText text ≠ .ok (some command) := by
  have hnil : Token.ofLine text = [] := by
    rw [Token.ofLine, h]
    rfl
  intro hcommand
  rw [ofText_eq_some_iff, hnil] at hcommand
  exact absurd hcommand (by simp [ofTokens])

/-! ## An escaped return -/

/-- **A line with an escaped return at its end and the same line without it** have a command
or none together, and it is the same command unless the last field counts. -/
theorem ofText_escaped_return {cs : List Char} (heven : Fields.trailingBackslashes cs % 2 = 0) :
    (∀ c, ofText (.ofList (cs ++ ['\\', '\r'])) = .ok (some c) →
      ∃ c', ofText (.ofList (cs ++ ['\\'])) = .ok (some c') ∧
        (c' = c ↔ ¬ LastFieldCounts (.ofList (cs ++ ['\\', '\r'])))) ∧
    ∀ c', ofText (.ofList (cs ++ ['\\'])) = .ok (some c') →
      ∃ c, ofText (.ofList (cs ++ ['\\', '\r'])) = .ok (some c) := by
  rcases Fields.ofLine_append_escaped heven with ⟨hwith, hwithout⟩ | ⟨fields, f, hwith, hwithout⟩
  · exact ⟨fun c hc => absurd hc (ofText_blank_ne hwith c),
      fun c hc => absurd hc (ofText_blank_ne hwithout c)⟩
  · cases fields with
    | nil =>
        have hreturn := ofText_single_ne (by decide) hwith
        have hbackslash := ofText_single_ne (by decide) hwithout
        exact ⟨fun c hc => absurd hc (hreturn c), fun c hc => absurd hc (hbackslash c)⟩
    | cons name fields =>
        obtain ⟨before, x, hpieces⟩ := Piece.ofFields_push name fields f
        have hreturn := hpieces '\r' (by decide)
        have hbackslash := hpieces '\\' (by decide)
        rw [← hwith, ← Piece.ofLine] at hreturn
        rw [← hwithout, ← Piece.ofLine] at hbackslash
        refine ⟨fun c hc => exists_ofText_push hreturn hbackslash (by decide) hc, ?_⟩
        intro c' hc'
        obtain ⟨c, hc, _⟩ := exists_ofText_push hbackslash hreturn (by decide) hc'
        exact ⟨c, hc⟩

end Command

end BrowserScript
