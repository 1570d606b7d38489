/-
# BrowserScript.Proofs.Token.Notations -- the two notations of a link

A link can be written as the linking word with the locator in the next field, or in one field
as `fallback=` with the text of the locator. **Wherever a selector field is followed by links,
the notation of each link is without effect**: no token of the line depends on it, and so
neither does its command.

This is not a matter of the links alone. The two notations take up one field and two, the
selector field before them can begin a selector or be itself the locator of a link, and what
comes after them can go on with the same chain. So the reading is described from the selector
field on: whatever stands before this field, it goes to some place in some chain, and **all
that is read after it is put in at that place**, its links right behind the locator and its
pieces right behind the chain.
-/
import BrowserScript.Proofs.Fields.Silent
import BrowserScript.Proofs.Token.Reading
import BrowserScript.Proofs.Command.Building

namespace BrowserScript

namespace Piece

/-! ## What is read before a selector field -/

/-- How readings go that have the locator `l` in a fixed place, whatever follows it. Either
`l` belongs to the selector before all the fields, or it belongs to a chain that begins
within them. The links that follow come right behind `l`, the pieces right behind the chain. -/
def Carries (l : Locator) (result : List String → List Locator × List Piece) : Prop :=
  (∃ front, ∀ rest, result rest = (front ++ l :: (read true rest).1, (read true rest).2)) ∨
    ∃ links before front, ∀ rest, ∃ chain : SelectorChain,
      result rest = (links, before ++ token (.selector chain) :: (read true rest).2) ∧
        chain.locators = front ++ l :: (read true rest).1

namespace Carries

variable {l : Locator} {result outer : List String → List Locator × List Piece}

/-- The field of the locator itself, with or without a selector before it. -/
theorem self (h : ∀ rest, outer rest =
    ([], token (.selector (.link l (read true rest).1)) :: (read true rest).2)) :
    Carries l outer := by
  refine Or.inr ⟨[], [], [], fun rest => ⟨.link l (read true rest).1, ?_, ?_⟩⟩
  · rw [h rest]
    rfl
  · exact SelectorChain.locators_link l _

/-- A link before the fields. -/
theorem link (m : Locator) (hresult : Carries l result)
    (h : ∀ rest, outer rest = (m :: (result rest).1, (result rest).2)) : Carries l outer := by
  rcases hresult with ⟨front, hfront⟩ | ⟨links, before, front, hfront⟩
  · refine Or.inl ⟨m :: front, fun rest => ?_⟩
    rw [h rest, hfront rest]
    rfl
  · refine Or.inr ⟨m :: links, before, front, fun rest => ?_⟩
    obtain ⟨chain, hrest, hchain⟩ := hfront rest
    exact ⟨chain, by rw [h rest, hrest], hchain⟩

/-- A locator before the fields begins a chain, and `l` belongs to this chain if it belonged
to the selector before the fields. -/
theorem selector (m : Locator) (hresult : Carries l result)
    (h : ∀ rest, outer rest =
      ([], token (.selector (.link m (result rest).1)) :: (result rest).2)) :
    Carries l outer := by
  rcases hresult with ⟨front, hfront⟩ | ⟨links, before, front, hfront⟩
  · refine Or.inr ⟨[], [], m :: front, fun rest => ⟨.link m (result rest).1, ?_, ?_⟩⟩
    · rw [h rest, hfront rest]
      rfl
    · rw [SelectorChain.locators_link, hfront rest]
      rfl
  · refine Or.inr ⟨[], token (.selector (.link m links)) :: before, front, fun rest => ?_⟩
    obtain ⟨chain, hrest, hchain⟩ := hfront rest
    exact ⟨chain, by rw [h rest, hrest]; rfl, hchain⟩

/-- With no selector before the fields, `l` is in a chain that begins within them. -/
theorem exists_chain (hresult : Carries l result) (hnone : ∀ rest, (result rest).1 = []) :
    ∃ before front, ∀ rest, ∃ chain : SelectorChain,
      result rest = ([], before ++ token (.selector chain) :: (read true rest).2) ∧
        chain.locators = front ++ l :: (read true rest).1 := by
  rcases hresult with ⟨front, hfront⟩ | ⟨links, before, front, hfront⟩
  · have hnil := hnone []
    rw [hfront []] at hnil
    exact absurd hnil (by simp)
  · refine ⟨before, front, fun rest => ?_⟩
    obtain ⟨chain, hrest, hchain⟩ := hfront rest
    have hlinks := hnone rest
    rw [hrest] at hlinks
    exact ⟨chain, by rw [hrest, ← hlinks], hchain⟩

/-- A field that stands by itself, with no selector before the fields. -/
theorem other {field : String} (hresult : Carries l result) (hnone : ∀ rest, (result rest).1 = [])
    (h : ∀ rest, outer rest = ([], ofRest field :: (result rest).2)) : Carries l outer := by
  obtain ⟨before, front, hfront⟩ := hresult.exists_chain hnone
  refine Or.inr ⟨[], ofRest field :: before, front, fun rest => ?_⟩
  obtain ⟨chain, hrest, hchain⟩ := hfront rest
  exact ⟨chain, by rw [h rest, hrest]; rfl, hchain⟩

end Carries

/-- **Whatever stands before a selector field, its locator has a fixed place.** -/
theorem carries_read (linking : Bool) (fields : List String) (l : Locator) :
    Carries l fun rest => read linking (fields ++ l.text :: rest) := by
  fun_induction read linking fields with
  | case1 linking =>
      exact .self fun rest => read_locator (Locator.ofField?_text l) linking rest
  | case2 linking field fields m hm after ih =>
      exact ih.selector m fun rest => read_locator hm linking (fields ++ l.text :: rest)
  | case3 field fields hfield m hm after ih =>
      refine ih.link m fun rest => ?_
      rw [Locator.ofLink?_eq_some_iff.1 hm]
      exact read_link m (fields ++ l.text :: rest)
  | case4 hword hlink =>
      -- the locator is itself the one that the linking word asks for
      exact Or.inl ⟨[], fun rest => read_word l rest⟩
  | case5 next beyond m hm after hword hlink ih =>
      refine ih.link m fun rest => ?_
      rw [Locator.ofField?_eq_some_iff.1 hm]
      exact read_word m (beyond ++ l.text :: rest)
  | case6 next beyond hnone hword hlink ih =>
      exact ih.other (fun rest => read_false_fst _) fun rest =>
        read_word_alone hnone (beyond ++ l.text :: rest)
  | case7 field fields hfield hlink hne ih =>
      exact ih.other (fun rest => read_false_fst _) fun rest =>
        read_after hfield hlink hne (fields ++ l.text :: rest)
  | case8 linking field fields hfield hnot ih =>
      rw [Bool.not_eq_true] at hnot
      subst hnot
      exact ih.other (fun rest => read_false_fst _) fun rest =>
        read_alone hfield (fields ++ l.text :: rest)

end Piece

namespace Token

/-! ## Lines -/

/-- The tokens of fields in which a locator stands, given by what is read after it. -/
theorem ofRest_append_text (fields : List String) (l : Locator) :
    ∃ before front, ∀ rest, ∃ chain : SelectorChain,
      ofRest (fields ++ l.text :: rest) =
          before ++ .selector chain :: (Piece.read true rest).2.filterMap Piece.token? ∧
        chain.locators = front ++ l :: (Piece.read true rest).1 := by
  have hnone : ∀ rest, (Piece.read false (fields ++ l.text :: rest)).1 = [] :=
    fun rest => Piece.read_false_fst _
  obtain ⟨before, front, h⟩ := (Piece.carries_read false fields l).exists_chain hnone
  refine ⟨before.filterMap Piece.token?, front, fun rest => ?_⟩
  obtain ⟨chain, hrest, hchain⟩ := h rest
  refine ⟨chain, ?_, hchain⟩
  show (Piece.read false (fields ++ l.text :: rest)).2.filterMap Piece.token? = _
  rw [hrest, List.filterMap_append]
  rfl

/-- The fields from a selector field on are in one chain, and what they hold goes into it. -/
theorem ofLine_of_links (before after : List String) (l : Locator) (hname : before ≠ []) :
    ∃ tokens front more rest, ∀ links line,
      Fields.IsCutInto line (before ++ l.text :: mixedFields links ++ after) →
      ∃ chain : SelectorChain, ofLine line = tokens ++ .selector chain :: rest ∧
        chain.locators = front ++ l :: (links.map Prod.snd ++ more) := by
  obtain ⟨name, fields, rfl⟩ := List.exists_cons_of_ne_nil hname
  obtain ⟨tokens, front, h⟩ := ofRest_append_text fields l
  refine ⟨.command (CommandKind.resolveAlias name) :: tokens, front, (Piece.read true after).1,
    (Piece.read true after).2.filterMap Piece.token?, fun links line hcut => ?_⟩
  have hline : Fields.ofLine line = name :: (fields ++ l.text :: (mixedFields links ++ after)) := by
    rw [hcut.ofLine, List.append_assoc]
    rfl
  obtain ⟨chain, hrest, hchain⟩ := h (mixedFields links ++ after)
  rw [Piece.read_mixedFields] at hrest hchain
  exact ⟨chain, by rw [ofLine_of_fields hline, hrest]; rfl, hchain⟩

/-- **The two notations of a link can be exchanged** in every line, wherever a selector field is
followed by links: the tokens are the same and so is the outcome, on a line with any number.
The links come right behind the locator, in written order. All else in the line, the other
locators of this chain included, does not depend on them. -/
theorem link_notations_agree (before after : List String) (l : Locator) (hname : before ≠ []) :
    (∀ (m : Locator) (line line' : String),
      Fields.IsCutInto line (before ++ [l.text, fallbackWord, m.text] ++ after) →
      Fields.IsCutInto line' (before ++ [l.text, paramField fallbackWord m.text] ++ after) →
      ofLine line = ofLine line' ∧ ∀ n, Command.ofLine line n = Command.ofLine line' n) ∧
    (∀ (links links' : List (LinkForm × Locator)) (line line' : String),
      links.map Prod.snd = links'.map Prod.snd →
      Fields.IsCutInto line (before ++ l.text :: mixedFields links ++ after) →
      Fields.IsCutInto line' (before ++ l.text :: mixedFields links' ++ after) →
      ofLine line = ofLine line' ∧ ∀ n, Command.ofLine line n = Command.ofLine line' n) ∧
    ∃ tokens front more rest, ∀ (links : List (LinkForm × Locator)) (line : String),
      Fields.IsCutInto line (before ++ l.text :: mixedFields links ++ after) →
      ∃ chain : SelectorChain, ofLine line = tokens ++ .selector chain :: rest ∧
        chain.locators = front ++ l :: (links.map Prod.snd ++ more) := by
  have hplace := ofLine_of_links before after l hname
  have hmixed : ∀ (links links' : List (LinkForm × Locator)) (line line' : String),
      links.map Prod.snd = links'.map Prod.snd →
      Fields.IsCutInto line (before ++ l.text :: mixedFields links ++ after) →
      Fields.IsCutInto line' (before ++ l.text :: mixedFields links' ++ after) →
      ofLine line = ofLine line' ∧ ∀ n, Command.ofLine line n = Command.ofLine line' n := by
    intro links links' line line' hlinks hcut hcut'
    obtain ⟨tokens, front, more, rest, h⟩ := hplace
    obtain ⟨chain, hline, hchain⟩ := h links line hcut
    obtain ⟨chain', hline', hchain'⟩ := h links' line' hcut'
    -- the two chains have the same locators, and nothing else depends on the line
    have hsame : chain = chain' := SelectorChain.locators_inj (by rw [hchain, hchain', hlinks])
    have htokens : ofLine line = ofLine line' := by rw [hline, hline', hsame]
    exact ⟨htokens, fun n => by rw [Command.ofLine, Command.ofLine, Command.ofText,
      Command.ofText, htokens]⟩
  refine ⟨?_, hmixed, hplace⟩
  intro m line line' hcut hcut'
  exact hmixed [(.word, m)] [(.short, m)] line line' rfl hcut hcut'

/-- A link in either notation, behind a selector field that is itself the locator of a link and
before a further link. -/
theorem link_notations_agree_click :
    Fields.IsCutInto "click css=#a fallback text=A fallback role=b fallback=css=.c k=1"
        ["click", "css=#a", "fallback", "text=A", "fallback", "role=b", "fallback=css=.c", "k=1"] ∧
      Fields.IsCutInto "click css=#a fallback text=A fallback=role=b  fallback=css=.c k=1"
        ["click", "css=#a", "fallback", "text=A", "fallback=role=b", "fallback=css=.c", "k=1"] ∧
      ofLine "click css=#a fallback text=A fallback role=b fallback=css=.c k=1" =
        ofLine "click css=#a fallback text=A fallback=role=b  fallback=css=.c k=1" ∧
      ∃ chain, .selector chain ∈
          ofLine "click css=#a fallback text=A fallback role=b fallback=css=.c k=1" ∧
        [⟨.text, "A"⟩, ⟨.role, "b"⟩] <:+: chain.locators := by
  obtain ⟨hword, _, tokens, front, more, rest, hplace⟩ := link_notations_agree
    ["click", "css=#a", "fallback"] ["fallback=css=.c", "k=1"] ⟨.text, "A"⟩ (by decide)
  have hcut : Fields.IsCutInto
      "click css=#a fallback text=A fallback role=b fallback=css=.c k=1"
      ["click", "css=#a", "fallback", "text=A", "fallback", "role=b", "fallback=css=.c", "k=1"] :=
    ⟨by decide, by decide +kernel⟩
  have hcut' : Fields.IsCutInto
      "click css=#a fallback text=A fallback=role=b  fallback=css=.c k=1"
      ["click", "css=#a", "fallback", "text=A", "fallback=role=b", "fallback=css=.c", "k=1"] :=
    ⟨by decide, by decide +kernel⟩
  obtain ⟨chain, hline, hchain⟩ := hplace [(.word, ⟨.role, "b"⟩)] _ hcut
  refine ⟨hcut, hcut', (hword ⟨.role, "b"⟩ _ _ hcut hcut').1, chain, ?_, front, more, ?_⟩
  · rw [hline]
    exact List.mem_append_right tokens List.mem_cons_self
  · rw [hchain]
    simp

end Token

end BrowserScript
