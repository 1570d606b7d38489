/-
# BrowserScript.Proofs.Command.Building -- what the tokens of a command determine

A command is built from the tokens after its name, and it is told here once what a
command that is built has to be: its selector is the first one flattened, its
parameters are those of the last value for each key, and it is **complete**, that is
it has what its kind requires. Everything later about commands goes through these
equivalences and does not look at the order in which the rules are checked.
-/
import Mathlib.Data.List.Induction
import Mathlib.Data.List.Sort
import BrowserScript.Command

namespace BrowserScript

/-! ## Parameters by key -/

namespace Params

/-- In ascending entries a key is found with every value that it stands with. -/
theorem lookup_eq_some_iff {es : List (String × String)} (h : es.Pairwise KeyBefore)
    {key value : String} : es.lookup key = some value ↔ (key, value) ∈ es := by
  induction es with
  | nil => simp
  | cons e es ih =>
      obtain ⟨hfirst, hrest⟩ := List.pairwise_cons.1 h
      rw [lookup_entry_cons, List.mem_cons]
      by_cases hkey : key = e.1
      · rw [if_pos hkey]
        constructor
        · intro hv
          exact Or.inl (Prod.ext hkey (Option.some.inj hv).symm)
        · rintro (rfl | hmem)
          · rfl
          · have hlt : e.1 < key := hfirst _ hmem
            exact absurd (hkey ▸ hlt) (String.lt_irrefl key)
      · rw [if_neg hkey, ih hrest]
        constructor
        · exact Or.inr
        · rintro (rfl | hmem)
          · exact absurd rfl hkey
          · exact hmem

theorem get?_eq_some_iff {ps : Params} {key value : String} :
    ps.get? key = some value ↔ (key, value) ∈ ps.entries :=
  lookup_eq_some_iff ps.ascending

/-- Parameters with the same values for all keys are the same. -/
theorem ext_get? {ps qs : Params} (h : ∀ key, ps.get? key = qs.get? key) : ps = qs := by
  have hmem : ∀ e, e ∈ ps.entries ↔ e ∈ qs.entries := by
    rintro ⟨key, value⟩
    rw [← get?_eq_some_iff, ← get?_eq_some_iff, h key]
  have hentries : ps.entries = qs.entries := by
    have : Std.Irrefl KeyBefore := ⟨fun e => String.lt_irrefl e.1⟩
    have : Std.Antisymm KeyBefore :=
      ⟨fun a b hab hba => absurd (String.lt_trans hab hba) (String.lt_irrefl a.1)⟩
    exact ps.ascending.eq_of_mem_iff qs.ascending hmem
  cases ps
  cases qs
  congr

theorem ofList_concat (pairs : List (String × String)) (p : String × String) :
    ofList (pairs ++ [p]) = (ofList pairs).insert p.1 p.2 := by
  rw [ofList, List.foldl_append]
  rfl

/-- **Of several values for one key the last is kept.** -/
theorem get?_ofList (pairs : List (String × String)) (key : String) :
    (ofList pairs).get? key = pairs.reverse.lookup key := by
  induction pairs using List.reverseRecOn with
  | nil => rfl
  | append_singleton pairs p ih =>
      rw [ofList_concat, get?_insert, ih, List.reverse_append, List.reverse_singleton,
        List.singleton_append, lookup_entry_cons]

/-- A list that holds the entries of some parameters, in whatever order, makes these
parameters. -/
theorem ofList_eq_of_mem_iff {ps : Params} {pairs : List (String × String)}
    (h : ∀ e, e ∈ pairs ↔ e ∈ ps.entries) : ofList pairs = ps := by
  apply ext_get?
  intro key
  rw [get?_ofList]
  cases hl : pairs.reverse.lookup key with
  | some value =>
      obtain ⟨before, after, heq, _⟩ := List.lookup_eq_some_iff.1 hl
      have hmem : (key, value) ∈ pairs := by
        rw [← List.mem_reverse, heq]
        exact List.mem_append_right before List.mem_cons_self
      exact (get?_eq_some_iff.2 ((h _).1 hmem)).symm
  | none =>
      symm
      rw [Option.eq_none_iff_forall_ne_some]
      intro value hv
      have hmem := (h _).2 (get?_eq_some_iff.1 hv)
      have hne := List.lookup_eq_none_iff.1 hl (key, value) (List.mem_reverse.2 hmem)
      simp at hne

end Params

/-! ## Selectors of chains -/

theorem SelectorChain.exists_eq_link (chain : SelectorChain) : ∃ l links, chain = link l links := by
  induction chain with
  | last l => exact ⟨l, [], rfl⟩
  | orElse l next ih =>
      obtain ⟨m, links, rfl⟩ := ih
      exact ⟨l, m :: links, rfl⟩

/-- **A chain is known by its locators.** -/
theorem SelectorChain.locators_inj {chain chain' : SelectorChain}
    (h : chain.locators = chain'.locators) : chain = chain' := by
  obtain ⟨l, links, rfl⟩ := chain.exists_eq_link
  obtain ⟨m, links', rfl⟩ := chain'.exists_eq_link
  rw [locators_link, locators_link] at h
  obtain ⟨rfl, rfl⟩ := List.cons.inj h
  rfl

/-- The selector of a chain has the links of the chain as its fallbacks, and they have none
of their own. -/
theorem Selector.ofChain_link (l : Locator) (links : List Locator) :
    ofChain (.link l links) = ⟨l, links.map plain⟩ := by
  cases links with
  | nil => rfl
  | cons m ms => rw [SelectorChain.link, ofChain, SelectorChain.locators_link]

/-! ## Commands -/

namespace Command

/-- A command has what its kind requires. -/
structure Complete (c : Command) : Prop where
  selector : c.kind.requiresSelector = true → c.selector.isSome = true
  params : ∀ key ∈ c.kind.requiredParams, (c.params.get? key).isSome = true

/-- The selector that the tokens after a command name give. -/
def selectorOf (tokens : List Token) : Option Selector :=
  (tokens.findSome? Token.selector?).map Selector.ofChain

/-- The parameters that the tokens after a command name give. -/
def paramsOf (tokens : List Token) : Params :=
  Params.ofList (tokens.filterMap Token.param?)

/-- A token that is no parameter leaves the parameters as they are. -/
theorem paramsOf_append (tokens : List Token) (t : Token) :
    paramsOf (tokens ++ [t]) =
      match t.param? with
      | some p => (paramsOf tokens).insert p.1 p.2
      | none => paramsOf tokens := by
  rw [paramsOf, List.filterMap_append]
  cases h : t.param? with
  | none => rw [List.filterMap_cons_none h, List.filterMap_nil, List.append_nil, paramsOf]
  | some p =>
      rw [List.filterMap_cons_some h, List.filterMap_nil]
      exact Params.ofList_concat _ p

theorem build_eq (kind : CommandKind) (tokens : List Token) :
    build kind tokens =
      if kind.requiresSelector && (selectorOf tokens).isNone then .error (.missingSelector kind)
      else
        match kind.requiredParams.find? fun key => ((paramsOf tokens).get? key).isNone with
        | some key => .error (.missingParameter kind key)
        | none => .ok ⟨kind, paramsOf tokens, selectorOf tokens⟩ := rfl

/-- Being complete is passing both checks. -/
theorem complete_iff {c : Command} :
    c.Complete ↔ (c.kind.requiresSelector && c.selector.isNone) = false ∧
      (c.kind.requiredParams.find? fun key => (c.params.get? key).isNone) = none := by
  constructor
  · intro h
    refine ⟨?_, List.find?_eq_none.2 fun key hkey => ?_⟩
    · rw [Bool.and_eq_false_iff, or_iff_not_imp_left, Bool.not_eq_false]
      intro hreq
      have hsome := h.selector hreq
      rwa [← Option.not_isNone, Bool.not_eq_true'] at hsome
    · have hsome := h.params key hkey
      rw [← Option.not_isNone, Bool.not_eq_true'] at hsome
      rw [hsome]
      exact Bool.false_ne_true
  · rintro ⟨hsel, hparams⟩
    refine ⟨fun hreq => ?_, fun key hkey => ?_⟩
    · rw [hreq, Bool.true_and] at hsel
      rw [← Option.not_isNone, hsel]
      rfl
    · have hkept := List.find?_eq_none.1 hparams key hkey
      rw [Bool.not_eq_true] at hkept
      rw [← Option.not_isNone, hkept]
      rfl

theorem build_eq_ok_iff {kind : CommandKind} {tokens : List Token} {c : Command} :
    build kind tokens = .ok c ↔ c = ⟨kind, paramsOf tokens, selectorOf tokens⟩ ∧ c.Complete := by
  rw [build_eq, complete_iff]
  constructor
  · intro h
    split at h
    · exact absurd h (by simp)
    · rename_i hsel
      split at h
      · exact absurd h (by simp)
      · rename_i hparams
        obtain rfl := Except.ok.inj h
        exact ⟨rfl, Bool.not_eq_true _ ▸ hsel, hparams⟩
  · rintro ⟨rfl, hsel, hparams⟩
    simp only [hsel, hparams, Bool.false_eq_true, if_false]

/-- **The commands that are read from tokens**: a name, the selector and the parameters of
the tokens after it, and nothing missing. -/
theorem ofTokens_eq_ok_iff {tokens : List Token} {c : Command} :
    ofTokens tokens = .ok c ↔
      ∃ rest, tokens = .command c.kind.name :: rest ∧ c.params = paramsOf rest ∧
        c.selector = selectorOf rest ∧ c.Complete := by
  constructor
  · intro h
    rcases tokens with _ | ⟨t, rest⟩
    · exact absurd h (by simp [ofTokens])
    · cases t with
      | selector chain => exact absurd h (by simp [ofTokens])
      | param key value => exact absurd h (by simp [ofTokens])
      | command name =>
          simp only [ofTokens] at h
          split at h
          · exact absurd h (by simp)
          · rename_i kind hkind
            obtain ⟨rfl, hcomplete⟩ := build_eq_ok_iff.1 h
            refine ⟨rest, ?_, rfl, rfl, hcomplete⟩
            rw [CommandKind.ofName?_eq_some_iff.1 hkind]
  · rintro ⟨rest, rfl, hparams, hselector, hcomplete⟩
    simp only [ofTokens, CommandKind.ofName?_name]
    refine build_eq_ok_iff.2 ⟨?_, hcomplete⟩
    rw [← hparams, ← hselector]

theorem onLine_eq_ok_iff {α : Type} {line : Nat} {r : Except Fault α} {a : α} :
    onLine line r = .ok a ↔ r = .ok a := by
  cases r <;> simp [onLine, Except.mapError]

theorem onLine_eq_error_iff {α : Type} {line : Nat} {r : Except Fault α} {e : LineError} :
    onLine line r = .error e ↔ e.line = line ∧ r = .error e.fault := by
  obtain ⟨line', fault⟩ := e
  cases r with
  | ok a => simp [onLine, Except.mapError]
  | error f => simp [onLine, Except.mapError, eq_comm]

theorem parse_eq_ok_iff {tokens : List Token} {line : Nat} {c : Command} :
    parse tokens line = .ok c ↔ ofTokens tokens = .ok c :=
  onLine_eq_ok_iff

theorem ofLine_eq_ok_iff {text : String} {line : Nat} {c : Option Command} :
    ofLine text line = .ok c ↔ ofText text = .ok c :=
  onLine_eq_ok_iff

theorem ofLine_eq_error_iff {text : String} {line : Nat} {e : LineError} :
    ofLine text line = .error e ↔ e.line = line ∧ ofText text = .error e.fault :=
  onLine_eq_error_iff

/-- Lines with the same tokens are read alike. -/
theorem ofLine_congr {text text' : String} (h : Token.ofLine text = Token.ofLine text')
    (n : Nat) : ofLine text n = ofLine text' n := by
  rw [ofLine, ofLine, ofText, ofText, h]

/-- A text has a command when its tokens make one: blank lines and comments, which have no
tokens, make none. -/
theorem ofText_eq_some_iff {text : String} {c : Command} :
    ofText text = .ok (some c) ↔ ofTokens (Token.ofLine text) = .ok c := by
  unfold ofText
  split
  · rename_i hnil
    simp [hnil, ofTokens]
  · cases ofTokens (Token.ofLine text) <;> simp [Except.map]

end Command

end BrowserScript
