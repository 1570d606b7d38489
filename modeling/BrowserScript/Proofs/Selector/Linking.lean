/-
# BrowserScript.Proofs.Selector.Linking -- linking and flattening

The locators of one selector stand in a row, and between the reading of a line and the command
they are linked to a chain. A link holds all that comes after it, so a chain is put together **from
its end**. It is taken apart from its head, and that happens in two places which share nothing: the
selector of a command takes the locators as its fallbacks, and the listing of tokens writes them
out with arrows between them.

Nothing is lost in either place, and nothing changes its place: linking and flattening are
inverse, and the text has the candidates of the selector in the order in which they are tried.
-/
import BrowserScript.CommandLine.Show
import BrowserScript.Proofs.Command.RoundTrip

namespace BrowserScript

/-! ## Chains from their end -/

namespace SelectorChain

/-- Puts a locator in front of the chain that is to be tried after it, if there is one. -/
def before (l : Locator) : Option SelectorChain → SelectorChain
  | none => last l
  | some next => orElse l next

/-- The locators of a chain, or none if there is no chain. -/
def locatorsOf : Option SelectorChain → List Locator
  | none => []
  | some chain => chain.locators

theorem locators_before (l : Locator) (next : Option SelectorChain) :
    (before l next).locators = l :: locatorsOf next := by
  cases next with
  | none => rfl
  | some chain => rfl

/-- The chain of some locators, if there are any, beginning with the last of them. -/
def fromEnd (links : List Locator) : Option SelectorChain :=
  links.reverse.foldl (fun next l => some (before l next)) none

theorem fromEnd_cons (l : Locator) (links : List Locator) :
    fromEnd (l :: links) = some (before l (fromEnd links)) := by
  unfold fromEnd
  rw [List.foldl_reverse, List.foldl_reverse, List.foldr_cons]

theorem locatorsOf_fromEnd (links : List Locator) : locatorsOf (fromEnd links) = links := by
  induction links with
  | nil => rfl
  | cons l links ih => rw [fromEnd_cons, locatorsOf, locators_before, ih]

/-- **Locators that are linked from the last to the first are in their order again.** -/
theorem link_eq_before (l : Locator) (links : List Locator) :
    link l links = before l (fromEnd links) := by
  apply locators_inj
  rw [locators_link, locators_before, locatorsOf_fromEnd]

/-! ## The text of a chain -/

theorem locators_ne_nil (chain : SelectorChain) : chain.locators ≠ [] := by
  cases chain with
  | last l => exact List.cons_ne_nil l []
  | orElse l next => exact List.cons_ne_nil l next.locators

/-- The text of a chain is that of its locators, with an arrow between any two. -/
theorem text_eq_intercalate (chain : SelectorChain) :
    chain.text = " -> ".intercalate (chain.locators.map Locator.text) := by
  induction chain with
  | last l => rw [text, locators, List.map_singleton, String.intercalate_singleton]
  | orElse l next ih =>
      have hne : next.locators.map Locator.text ≠ [] := by
        rw [Ne, List.map_eq_nil_iff]
        exact next.locators_ne_nil
      rw [text, locators, List.map_cons, String.intercalate_cons_of_ne_nil hne, ih]

end SelectorChain

/-! ## Flat selectors -/

namespace Selector

/-- **Flattening adds the links to the first locator, one after the other.** -/
theorem ofChain_link_eq_foldl (l : Locator) (links : List Locator) :
    ofChain (.link l links) = links.foldl (fun s m => s.withFallback (plain m)) (plain l) := by
  have hadd : ∀ s : Selector, links.foldl (fun s m => s.withFallback (plain m)) s =
      ⟨s.locator, s.fallbacks ++ links.map plain⟩ := by
    induction links with
    | nil =>
        rintro ⟨k, fallbacks⟩
        rw [List.foldl_nil, List.map_nil, List.append_nil]
    | cons m links ih =>
        intro s
        rw [List.foldl_cons, ih, withFallback, List.append_assoc, List.map_cons]
        rfl
  rw [ofChain_link, hadd]
  rfl

/-- The candidates of a selector are the locators of its chain. -/
theorem map_locator_candidates (chain : SelectorChain) :
    (ofChain chain).candidates.map (·.locator) = chain.locators := by
  obtain ⟨l, links, rfl⟩ := chain.exists_eq_link
  have hplain : (links.map plain).map (·.locator) = links := by
    rw [List.map_map]
    exact List.map_id links
  rw [ofChain_link, candidates, List.map_cons, hplain, SelectorChain.locators_link]

/-- **What is flattened can be linked again**, to the chain that it was. -/
theorem chain_ofChain (chain : SelectorChain) : (ofChain chain).chain = chain := by
  apply SelectorChain.locators_inj
  rw [Selector.chain, SelectorChain.locators_link, ← map_locator_candidates, candidates,
    List.map_cons]

/-- **Linking and flattening keep all locators, and in their order.** A chain may be linked from its
end, and it is flattened from its head. Its selector has the first locator, and the others are its
fallbacks, with none of their own; so its candidates are all the locators, and they can be linked
to the same chain again. The text of the token lists the same candidates. -/
theorem flattening_linked_locators (l : Locator) (links : List Locator) :
    SelectorChain.link l links = .before l (SelectorChain.fromEnd links) ∧
    ofChain (.link l links) = links.foldl (fun s m => s.withFallback (plain m)) (plain l) ∧
    (ofChain (.link l links)).locator = l ∧
    (ofChain (.link l links)).fallbacks = links.map plain ∧
    (ofChain (.link l links)).candidates = ofChain (.link l links) :: links.map plain ∧
    (ofChain (.link l links)).candidates.map (·.locator) = l :: links ∧
    (ofChain (.link l links)).chain = .link l links ∧
    CommandLine.tokenText (.selector (.link l links)) =
      " -> ".intercalate ((ofChain (.link l links)).candidates.map fun s => s.locator.text) := by
  have hselector := ofChain_link l links
  have hcandidates : (ofChain (.link l links)).candidates.map (·.locator) = l :: links := by
    rw [map_locator_candidates, SelectorChain.locators_link]
  refine ⟨SelectorChain.link_eq_before l links, ofChain_link_eq_foldl l links, ?_, ?_, ?_,
    hcandidates, chain_ofChain (.link l links), ?_⟩
  · rw [hselector]
  · rw [hselector]
  · rw [candidates, hselector]
  · have htext : (ofChain (.link l links)).candidates.map (fun s => s.locator.text) =
        (l :: links).map Locator.text := by
      rw [← hcandidates, List.map_map]
      rfl
    rw [htext, CommandLine.tokenText, SelectorChain.text_eq_intercalate,
      SelectorChain.locators_link]

end Selector

end BrowserScript
