/-
# BrowserScript.Proofs.Selector.Flatness -- when a selector is flat

Only one level of fallbacks is tried and written, so a selector is wholly used when it is
**flat**: no fallback has fallbacks of its own. There are four ways of coming by a selector,
and they treat this condition differently.

  * A selector that is made of one locator, or read from tokens or from a line, is flat.
  * Adding a fallback puts it in **as it is**, with whatever it has of its own.
  * Data are taken as they are as well, to whatever depth they go.

A `Making` is a tree of such steps. Whether what it yields is flat can be told from the
steps: none of them may nest, that is add a fallback that has fallbacks, or take data in
which a fallback has some. The same condition decides whether `candidates` visits all that
the selector contains, and whether the selector is read back from a line that it is written
into. What such a line loses is always the same: everything below the first level.
-/
import BrowserScript.Proofs.Command.RoundTrip
import BrowserScript.Proofs.Selector.Encodings

namespace BrowserScript

namespace Selector

/-! ## What a selector contains -/

mutual

/-- A selector and all that it contains, each before its own fallbacks. -/
def contents : Selector → List Selector
  | ⟨l, fallbacks⟩ => ⟨l, fallbacks⟩ :: contentsOfAll fallbacks

/-- All that several selectors contain. -/
def contentsOfAll : List Selector → List Selector
  | [] => []
  | s :: ss => s.contents ++ contentsOfAll ss

end

theorem contents_eq (s : Selector) : s.contents = s :: contentsOfAll s.fallbacks := by
  obtain ⟨l, fallbacks⟩ := s
  rw [contents]

theorem length_le_length_contentsOfAll (ss : List Selector) :
    ss.length ≤ (contentsOfAll ss).length := by
  induction ss with
  | nil => exact Nat.le_refl 0
  | cons s ss ih =>
      rw [contentsOfAll, contents_eq, List.length_append, List.length_cons, List.length_cons]
      omega

/-- Several selectors contain nothing but themselves when none has a fallback. -/
theorem contentsOfAll_eq_self_iff {ss : List Selector} :
    contentsOfAll ss = ss ↔ ∀ s ∈ ss, s.fallbacks = [] := by
  induction ss with
  | nil => simp [contentsOfAll]
  | cons s ss ih =>
      rw [contentsOfAll, contents_eq, List.cons_append, List.cons.injEq, List.forall_mem_cons,
        ← ih]
      constructor
      · rintro ⟨_, h⟩
        -- what the others contain leaves no room for a fallback of the first
        have hlength := congrArg List.length h
        rw [List.length_append] at hlength
        have hothers := length_le_length_contentsOfAll ss
        have hfirst := length_le_length_contentsOfAll s.fallbacks
        have hnone : s.fallbacks = [] := List.length_eq_zero_iff.1 (by omega)
        rw [hnone, contentsOfAll, List.nil_append] at h
        exact ⟨hnone, h⟩
      · rintro ⟨hnone, h⟩
        rw [hnone, contentsOfAll, List.nil_append]
        exact ⟨rfl, h⟩

/-- **Everything in a selector is tried exactly when it is flat.** -/
theorem flat_iff_contents {s : Selector} : s.Flat ↔ s.contents = s.candidates := by
  rw [contents_eq, candidates, List.cons.injEq, and_iff_right rfl, contentsOfAll_eq_self_iff, Flat]

/-! ## Steps that add -/

theorem flat_plain (l : Locator) : (plain l).Flat :=
  fun _ hf => absurd hf List.not_mem_nil

/-- A fallback is put in as it is. -/
theorem flat_withFallback_iff {s fallback : Selector} :
    (s.withFallback fallback).Flat ↔ s.Flat ∧ fallback.fallbacks = [] := by
  simp only [Flat, withFallback, List.forall_mem_append, List.forall_mem_singleton]

/-! ## Data -/

end Selector

/-- The data of the fallbacks, in the data of a selector. -/
def Value.fallbackItems : Value → List Value
  | .list [_, _, .list items] => items
  | .record members =>
    match members.lookup "fallbacks" with
    | some (.list items) => items
    | _ => []
  | _ => []

namespace Selector

theorem fallbackItems_of_hasParts {v strategy : Value} {text : String} {items : List Value}
    (h : HasParts v strategy text items) : v.fallbackItems = items := by
  cases h with
  | pair | triple => rfl
  | @short members _ _ _ _ hfallbacks =>
      have hlookup := Value.head?_named members "fallbacks"
      rw [hfallbacks] at hlookup
      simp [Value.fallbackItems, ← hlookup]
  | @full members _ _ _ _ _ hfallbacks =>
      have hlookup := Value.head?_named members "fallbacks"
      rw [hfallbacks] at hlookup
      simp [Value.fallbackItems, ← hlookup]

/-- **The fallbacks of a selector are read from the data of the fallbacks**, whichever of its
shapes the data have. -/
theorem ofValues?_fallbackItems {v : Value} {s : Selector} (h : ofValue? v = some s) :
    ofValues? v.fallbackItems = some s.fallbacks := by
  obtain ⟨l, fallbacks⟩ := s
  obtain ⟨_, items, hparts, _, hitems⟩ := ofValue?_iff_hasParts.1 h
  rw [fallbackItems_of_hasParts hparts, hitems]

/-- A selector has no fallbacks when its data have none. -/
theorem fallbacks_eq_nil_iff {v : Value} {s : Selector} (h : ofValue? v = some s) :
    s.fallbacks = [] ↔ v.fallbackItems = [] := by
  have hitems := ofValues?_eq_some_iff.1 (ofValues?_fallbackItems h)
  have hlength : v.fallbackItems.length = s.fallbacks.length := by
    simpa using congrArg List.length hitems
  rw [← List.length_eq_zero_iff, ← List.length_eq_zero_iff, hlength]

/-- **Data yield a flat selector when they are no deeper than one level.** -/
theorem flat_of_ofValue?_iff {v : Value} {s : Selector} (h : ofValue? v = some s) :
    s.Flat ↔ ∀ w ∈ v.fallbackItems, w.fallbackItems = [] := by
  have hitems := ofValues?_eq_some_iff.1 (ofValues?_fallbackItems h)
  constructor
  · intro hflat w hw
    have hmem : ofValue? w ∈ s.fallbacks.map some := hitems ▸ List.mem_map_of_mem hw
    obtain ⟨f, hf, hwf⟩ := List.mem_map.1 hmem
    exact (fallbacks_eq_nil_iff hwf.symm).1 (hflat f hf)
  · intro hdata f hf
    have hmem : some f ∈ v.fallbackItems.map ofValue? := hitems ▸ List.mem_map_of_mem hf
    obtain ⟨w, hw, hwf⟩ := List.mem_map.1 hmem
    exact (fallbacks_eq_nil_iff hwf).2 (hdata w hw)

/-! ## All the ways of coming by a selector -/

/-- How a selector is made, step by step. -/
inductive Making where
  | plain (l : Locator)
  | withFallback (s fallback : Making)
  | ofValue (v : Value)
  | ofTokens (tokens : List Token) (line : Nat)
  | ofLine (text : String) (line : Nat)

namespace Making

/-- The selector that is made, unless some data are refused or something that is read has no
selector. -/
def result? : Making → Option Selector
  | plain l => some (.plain l)
  | withFallback s fallback => do
    let s ← s.result?
    let fallback ← fallback.result?
    return s.withFallback fallback
  | ofValue v => Selector.ofValue? v
  | ofTokens tokens line =>
    match Command.parse tokens line with
    | .ok c => c.selector
    | .error _ => none
  | ofLine text line =>
    match Command.ofLine text line with
    | .ok (some c) => c.selector
    | _ => none

/-- No step adds a fallback that has fallbacks, and no data have fallbacks of fallbacks. -/
def NeverNests : Making → Prop
  | plain _ => True
  | withFallback s fallback => s.NeverNests ∧ ∀ f ∈ fallback.result?, f.fallbacks = []
  | ofValue v => ∀ w ∈ v.fallbackItems, w.fallbackItems = []
  | ofTokens _ _ => True
  | ofLine _ _ => True

/-- **A selector is flat exactly when no step of its making nests.** -/
theorem flat_iff_neverNests {m : Making} {s : Selector} (h : m.result? = some s) :
    s.Flat ↔ m.NeverNests := by
  induction m generalizing s with
  | plain l =>
      obtain rfl := Option.some.inj h
      exact iff_of_true (flat_plain l) trivial
  | withFallback m fallback ihm _ =>
      simp only [result?, Option.bind_eq_bind, Option.bind_eq_some_iff, Option.pure_def,
        Option.some.injEq] at h
      obtain ⟨t, ht, f, hf, rfl⟩ := h
      simp only [flat_withFallback_iff, ihm ht, NeverNests, hf, Option.mem_def,
        Option.some.injEq, forall_eq']
  | ofValue v => exact flat_of_ofValue?_iff h
  | ofTokens tokens line =>
      refine iff_of_true ?_ trivial
      simp only [result?] at h
      split at h
      · rename_i c hc
        exact Command.flat_of_ofTokens (Command.parse_eq_ok_iff.1 hc) s h
      · exact absurd h (Option.some_ne_none s).symm
  | ofLine text line =>
      refine iff_of_true ?_ trivial
      simp only [result?] at h
      split at h
      · rename_i c hc
        have htokens := Command.ofText_eq_some_iff.1 (Command.ofLine_eq_ok_iff.1 hc)
        exact Command.flat_of_ofTokens htokens s h
      · exact absurd h (Option.some_ne_none s).symm

end Making

/-! ## Selectors in a line -/

/-- The first level of a selector is its chain, and all of it when it is flat. -/
theorem ofChain_chain_eq_iff {s : Selector} : ofChain s.chain = s ↔ s.Flat := by
  constructor
  · intro h
    rw [← h]
    exact flat_ofChain s.chain
  · exact ofChain_chain

end Selector

namespace Command

theorem render_click (s : Selector) :
    (Command.mk .click .empty (some s)).render = "click " ++ s.render := by
  rw [← String.toList_inj]
  simp [render, leadingParams, trailingParams, Params.empty, CommandKind.name]

/-- **A line into which a selector is written has its first level.** -/
theorem ofLine_click (s : Selector) (n : Nat) :
    ofLine ("click " ++ s.render) n =
      .ok (some ⟨.click, .empty, some (Selector.ofChain s.chain)⟩) := by
  have hkeys : (Command.mk .click .empty (some s)).HasFieldKeys :=
    fun _ he => absurd he List.not_mem_nil
  have hcomplete : (Command.mk .click .empty (some (Selector.ofChain s.chain))).Complete :=
    ⟨fun _ => rfl, fun _ hkey => absurd hkey List.not_mem_nil⟩
  rw [ofLine_eq_ok_iff, ofText_eq_some_iff, ← render_click, ofLine_render_tokens hkeys,
    ofTokens_eq_ok_iff]
  exact ⟨_, rfl, rfl, rfl, hcomplete⟩

end Command

namespace Selector

/-- **What the steps of a making decide.** However a selector is made, it is flat exactly when
no step nests; exactly then `candidates` visits everything that it contains; and a line into
which it is written yields a command always, and one with this selector exactly then. -/
theorem use_of_made_selectors (m : Making) (s : Selector) (h : m.result? = some s) :
    (s.Flat ↔ m.NeverNests) ∧
    (s.contents = s.candidates ↔ m.NeverNests) ∧
    ∀ n, ∃ c, Command.ofLine ("click " ++ s.render) n = .ok (some c) ∧
      (c.selector = some s ↔ m.NeverNests) := by
  have hflat := Making.flat_iff_neverNests h
  refine ⟨hflat, ?_, ?_⟩
  · rw [← flat_iff_contents, hflat]
  · intro n
    refine ⟨_, Command.ofLine_click s n, ?_⟩
    rw [Option.some.injEq, ofChain_chain_eq_iff, hflat]

/-- A selector from a line is added to one from data, which has a fallback already. -/
theorem use_of_made_selectors_css :
    ∃ s, (Making.withFallback
        (.ofValue (.list [.text "css", .text "#a", .list [.list [.text "text", .text ""]]]))
        (.ofLine "hover role='a b'" 4)).result? = some s ∧
      s.Flat ∧ s.contents = s.candidates ∧ s.candidates.length = 3 ∧
      ∃ c, Command.ofLine ("click " ++ s.render) 1 = .ok (some c) ∧ c.selector = some s := by
  have hrole : (Making.ofLine "hover role='a b'" 4).result? = some (.plain ⟨.role, "a b"⟩) := by
    cbv
  have hmade : (Making.withFallback
      (.ofValue (.list [.text "css", .text "#a", .list [.list [.text "text", .text ""]]]))
      (.ofLine "hover role='a b'" 4)).result? =
      some ⟨⟨.css, "#a"⟩, [.plain ⟨.text, ""⟩, .plain ⟨.role, "a b"⟩]⟩ := by cbv
  have hsteps : (Making.withFallback
      (.ofValue (.list [.text "css", .text "#a", .list [.list [.text "text", .text ""]]]))
      (.ofLine "hover role='a b'" 4)).NeverNests := by
    refine ⟨List.forall_mem_singleton.2 rfl, ?_⟩
    intro f hf
    rw [hrole, Option.mem_some] at hf
    rw [← hf]
    rfl
  obtain ⟨hflat, hcontents, hline⟩ := use_of_made_selectors _ _ hmade
  obtain ⟨c, hc, hselector⟩ := hline 1
  exact ⟨_, hmade, hflat.2 hsteps, hcontents.2 hsteps, rfl, c, hc, hselector.2 hsteps⟩

/-- A fallback that is added with a fallback of its own loses it: the inner one is never tried,
and a line into which the selector is written does not have it. -/
theorem nested_fallback_is_lost :
    ∃ s, (Making.withFallback (.plain ⟨.css, "#a"⟩)
        (.withFallback (.plain ⟨.text, "A"⟩) (.plain ⟨.role, "b"⟩))).result? = some s ∧
      ¬ s.Flat ∧ plain ⟨.role, "b"⟩ ∈ s.contents ∧ plain ⟨.role, "b"⟩ ∉ s.candidates ∧
      ∃ c, Command.ofLine ("click " ++ s.render) 1 = .ok (some c) ∧ c.selector ≠ some s := by
  have hdeep : ¬ Flat ⟨⟨.css, "#a"⟩, [⟨⟨.text, "A"⟩, [plain ⟨.role, "b"⟩]⟩]⟩ :=
    fun h => List.cons_ne_nil _ _ (h _ List.mem_cons_self)
  refine ⟨_, rfl, hdeep, by decide, by decide, _, Command.ofLine_click _ 1, ?_⟩
  rw [Ne, Option.some.injEq, ofChain_chain_eq_iff]
  exact hdeep

end Selector

end BrowserScript
