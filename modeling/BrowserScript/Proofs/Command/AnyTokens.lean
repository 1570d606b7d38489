/-
# BrowserScript.Proofs.Command.AnyTokens -- the command of any row of tokens

Tokens need not come from a line: the first may be no name, names may stand among the
others, and chains and keys may be such as no line has. What becomes of such a row has one
description, which does not follow the order in which it is gone through.

  * It is refused for the first rule that it breaks, and for no other reason.
  * Otherwise its command is determined: the selector is that of the **first** chain, with
    all its links on one level, and the value of a key is the **last** one that is given.

Whatever else stands among the tokens has no effect, and the number of the line is in the
errors and in nothing else.
-/
import BrowserScript.Proofs.Command.Grammar

namespace BrowserScript.Command

/-! ## First and last -/

/-- A chain is the first one among some tokens. -/
def IsFirstChain (tokens : List Token) (chain : SelectorChain) : Prop :=
  ∃ before after, tokens = before ++ .selector chain :: after ∧ ∀ other, .selector other ∉ before

/-- A value is the last one that some tokens give a key. -/
def IsLastValue (tokens : List Token) (key value : String) : Prop :=
  ∃ before after, tokens = before ++ .param key value :: after ∧ ∀ other, .param key other ∉ after

variable {tokens : List Token}

theorem isFirstChain_iff {chain : SelectorChain} :
    IsFirstChain tokens chain ↔ tokens.findSome? Token.selector? = some chain := by
  have hchain : ∀ {t : Token} {c : SelectorChain}, t.selector? = some c ↔ t = .selector c := by
    intro t c
    cases t <;> simp [Token.selector?]
  have hnone : ∀ {before : List Token}, (∀ other, .selector other ∉ before) ↔
      ∀ t ∈ before, t.selector? = none := by
    intro before
    constructor
    · intro h t ht
      rw [Option.eq_none_iff_forall_ne_some]
      intro c hc
      exact h c (hchain.1 hc ▸ ht)
    · intro h other hmem
      exact Option.some_ne_none other (h _ hmem)
  simp only [List.findSome?_eq_some_iff, hchain, IsFirstChain, hnone]
  constructor
  · rintro ⟨before, after, htokens, hbefore⟩
    exact ⟨before, _, after, htokens, rfl, hbefore⟩
  · rintro ⟨before, _, after, htokens, rfl, hbefore⟩
    exact ⟨before, after, htokens, hbefore⟩

/-- **The selector is that of the first chain, flattened.** -/
theorem selectorOf_eq_some_iff {s : Selector} :
    selectorOf tokens = some s ↔
      ∃ l links, IsFirstChain tokens (.link l links) ∧ s = ⟨l, links.map .plain⟩ := by
  rw [selectorOf, Option.map_eq_some_iff]
  constructor
  · rintro ⟨chain, hchain, rfl⟩
    obtain ⟨l, links, rfl⟩ := chain.exists_eq_link
    exact ⟨l, links, isFirstChain_iff.2 hchain, Selector.ofChain_link l links⟩
  · rintro ⟨l, links, hfirst, rfl⟩
    exact ⟨_, isFirstChain_iff.1 hfirst, Selector.ofChain_link l links⟩

/-- A further token is the last value for its key, and leaves the other keys alone. -/
theorem isLastValue_concat {t : Token} {key value : String} :
    IsLastValue (tokens ++ [t]) key value ↔
      t = .param key value ∨ (∀ other, t ≠ .param key other) ∧ IsLastValue tokens key value := by
  constructor
  · rintro ⟨before, after, htokens, hafter⟩
    cases after using List.reverseRecOn with
    | nil => exact Or.inl (List.singleton_inj.1 (List.append_inj' htokens rfl).2)
    | append_singleton after u =>
        rw [← List.cons_append, ← List.append_assoc] at htokens
        obtain ⟨htokens', hlast⟩ := List.append_inj' htokens rfl
        obtain rfl : t = u := List.singleton_inj.1 hlast
        refine Or.inr ⟨?_, before, after, htokens', ?_⟩
        · rintro other rfl
          exact hafter other (by simp)
        · exact fun other hmem => hafter other (List.mem_append_left _ hmem)
  · rintro (rfl | ⟨hother, before, after, rfl, hafter⟩)
    · exact ⟨tokens, [], rfl, fun other => List.not_mem_nil⟩
    · refine ⟨before, after ++ [t], by simp, ?_⟩
      intro other hmem
      rcases List.mem_append.1 hmem with hmem | hmem
      · exact hafter other hmem
      · exact hother other (List.mem_singleton.1 hmem).symm

/-- **The value of a key is the last one that it is given.** -/
theorem get?_paramsOf_eq_some_iff {key value : String} :
    (paramsOf tokens).get? key = some value ↔ IsLastValue tokens key value := by
  induction tokens using List.reverseRecOn with
  | nil => simp [paramsOf, Params.ofList, IsLastValue]
  | append_singleton tokens t ih =>
      rw [isLastValue_concat, ← ih, paramsOf_append]
      cases t with
      | command name => simp [Token.param?]
      | selector chain => simp [Token.param?]
      | param k v =>
          simp only [Token.param?, Params.get?_insert, Token.param.injEq]
          by_cases hkey : key = k
          · simp [hkey]
          · simp [hkey, Ne.symm hkey]

/-! ## What the tokens after a known name determine -/

/-- A command is the one that some tokens determine: the first chain on one level, and the last
value of each key. -/
structure MadeOf (c : Command) (kind : CommandKind) (tokens : List Token) : Prop where
  kind : c.kind = kind
  selector : ∀ s, c.selector = some s ↔
    ∃ l links, IsFirstChain tokens (.link l links) ∧ s = ⟨l, links.map .plain⟩
  noSelector : c.selector = none ↔ ∀ chain, .selector chain ∉ tokens
  value : ∀ key value, c.params.get? key = some value ↔ IsLastValue tokens key value
  noValue : ∀ key, c.params.get? key = none ↔ ∀ value, .param key value ∉ tokens

theorem madeOf_build (kind : CommandKind) (tokens : List Token) :
    MadeOf ⟨kind, paramsOf tokens, selectorOf tokens⟩ kind tokens where
  kind := rfl
  selector _ := selectorOf_eq_some_iff
  noSelector := by
    rw [← Option.not_isSome_iff_eq_none, isSome_selectorOf_iff, not_exists]
  value _ _ := get?_paramsOf_eq_some_iff
  noValue key := by
    rw [← Option.not_isSome_iff_eq_none, isSome_get?_paramsOf_iff, not_exists]

/-! ## What has no effect -/

/-- A token has no effect behind these: it is a further name, or a chain that is not the
first. -/
def IsIdleAfter (before : List Token) : Token → Prop
  | .command _ => True
  | .selector _ => ∃ chain, .selector chain ∈ before
  | .param _ _ => False

variable {before : List Token} {t : Token}

theorem selectorOf_idle (h : IsIdleAfter before t) (after : List Token) :
    selectorOf (before ++ t :: after) = selectorOf (before ++ after) := by
  cases t with
  | param key value => exact absurd h not_false
  | command name => simp only [selectorOf, List.findSome?_append, List.findSome?_cons,
      Token.selector?]
  | selector chain =>
      -- the chain that counts is among the tokens before
      have hsome := isSome_selectorOf_iff.2 h
      rw [selectorOf, Option.isSome_map] at hsome
      obtain ⟨first, hfirst⟩ := Option.isSome_iff_exists.1 hsome
      rw [selectorOf, selectorOf, List.findSome?_append, List.findSome?_append, hfirst,
        Option.some_or, Option.some_or]

theorem paramsOf_idle (h : IsIdleAfter before t) (after : List Token) :
    paramsOf (before ++ t :: after) = paramsOf (before ++ after) := by
  have hnone : t.param? = none := by
    cases t with
    | param key value => exact absurd h not_false
    | command name => rfl
    | selector chain => rfl
  rw [paramsOf, paramsOf, List.filterMap_append, List.filterMap_append,
    List.filterMap_cons_none hnone]

/-- **A token without effect may be left out**, whatever the first one is. -/
theorem ofTokens_idle (h : IsIdleAfter before t) (first : Token) (after : List Token) :
    ofTokens (first :: (before ++ t :: after)) = ofTokens (first :: (before ++ after)) := by
  have hbuild : ∀ kind, build kind (before ++ t :: after) = build kind (before ++ after) := by
    intro kind
    rw [build_eq, build_eq, selectorOf_idle h, paramsOf_idle h]
  cases first with
  | selector chain => rfl
  | param key value => rfl
  | command name =>
      simp only [ofTokens, hbuild]

/-! ## All rows of tokens -/

theorem ofTokens_eq_emptyTokens_iff : ofTokens tokens = .error .emptyTokens ↔ tokens = [] := by
  constructor
  · intro h
    rcases tokens with _ | ⟨t, rest⟩
    · rfl
    · cases t with
      | command name => exact absurd h (ofTokens_command_ne name rest).1
      | selector chain => simp [ofTokens] at h
      | param key value => simp [ofTokens] at h
  · rintro rfl
    rfl

theorem ofTokens_eq_missingCommand_iff :
    ofTokens tokens = .error .missingCommand ↔
      ∃ t rest, tokens = t :: rest ∧ ∀ name, t ≠ .command name := by
  constructor
  · intro h
    rcases tokens with _ | ⟨t, rest⟩
    · simp [ofTokens] at h
    · refine ⟨t, rest, rfl, ?_⟩
      rintro name rfl
      exact (ofTokens_command_ne name rest).2 h
  · rintro ⟨t, rest, rfl, hfirst⟩
    cases t with
    | command name => exact absurd rfl (hfirst name)
    | selector chain => rfl
    | param key value => rfl

/-- **What any row of tokens makes.** It is refused for the first rule that it breaks, with
the number of the line; otherwise its command is the one that the tokens after the name
determine, on whatever line. A token without effect may be left out in either case. -/
theorem command_of_any_tokens (tokens : List Token) (n : Nat) :
    (parse tokens n = .error ⟨n, .emptyTokens⟩ ↔ tokens = []) ∧
    (parse tokens n = .error ⟨n, .missingCommand⟩ ↔
      ∃ t rest, tokens = t :: rest ∧ ∀ name, t ≠ .command name) ∧
    (∀ name rest, tokens = .command name :: rest →
      (parse tokens n = .error ⟨n, .unknownCommand name⟩ ↔
        ∀ kind : CommandKind, kind.name ≠ name) ∧
      ∀ kind : CommandKind, kind.name = name →
        (parse tokens n = .error ⟨n, .missingSelector kind⟩ ↔ LacksSelector kind rest) ∧
        (∀ key, parse tokens n = .error ⟨n, .missingParameter kind key⟩ ↔
          ¬ LacksSelector kind rest ∧
            IsFirstMissing (fun k => ∃ value, .param k value ∈ rest) kind.requiredParams key) ∧
        ((∃ c, parse tokens n = .ok c) ↔
          ¬ LacksSelector kind rest ∧
            ∀ key ∈ kind.requiredParams, ∃ value, .param key value ∈ rest) ∧
        ∀ c, parse tokens n = .ok c → c.MadeOf kind rest) ∧
    (∀ first before t after, tokens = first :: (before ++ t :: after) → IsIdleAfter before t →
      parse tokens n = parse (first :: (before ++ after)) n) ∧
    (∀ e, parse tokens n = .error e → e.line = n) ∧
    ∀ c m, parse tokens n = .ok c → parse tokens m = .ok c := by
  refine ⟨?_, ?_, ?_, ?_, ?_, ?_⟩
  · rw [parse, onLine_eq_error_iff, and_iff_right rfl, ofTokens_eq_emptyTokens_iff]
  · rw [parse, onLine_eq_error_iff, and_iff_right rfl, ofTokens_eq_missingCommand_iff]
  · rintro name rest rfl
    refine ⟨?_, ?_⟩
    · rw [parse, onLine_eq_error_iff, and_iff_right rfl, ofTokens_eq_unknown_iff]
    · intro kind hkind
      simp only [parse, onLine_eq_error_iff, onLine_eq_ok_iff, ofTokens_of_kind hkind, true_and]
      refine ⟨build_eq_missingSelector_iff, fun key => build_eq_missingParameter_iff,
        exists_build_eq_ok_iff, ?_⟩
      intro c hc
      rw [(build_eq_ok_iff.1 hc).1]
      exact madeOf_build kind rest
  · rintro first before t after rfl hidle
    rw [parse, parse, ofTokens_idle hidle]
  · intro e he
    exact (onLine_eq_error_iff.1 he).1
  · intro c m hc
    exact onLine_eq_ok_iff.2 (onLine_eq_ok_iff.1 hc)

/-- A further name, a second chain and an earlier value have no effect on the command, and the
first chain comes out flat. -/
theorem command_of_any_tokens_fill :
    ∃ c, parse [.command "fill", .param "value" "a",
        .selector (.link ⟨.css, "#a"⟩ [⟨.text, ""⟩, ⟨.role, "b"⟩]), .command "click",
        .selector (.last ⟨.label, "c"⟩), .param "value" "d"] 9 = .ok c ∧
      c.kind = .fill ∧ c.selector = some ⟨⟨.css, "#a"⟩, [.plain ⟨.text, ""⟩, .plain ⟨.role, "b"⟩]⟩ ∧
      c.params.get? "value" = some "d" ∧ c.params.get? "url" = none := by
  obtain ⟨_, _, hnamed, _⟩ := command_of_any_tokens
    [.command "fill", .param "value" "a",
      .selector (.link ⟨.css, "#a"⟩ [⟨.text, ""⟩, ⟨.role, "b"⟩]), .command "click",
      .selector (.last ⟨.label, "c"⟩), .param "value" "d"] 9
  obtain ⟨_, _, hok, hmade⟩ := (hnamed "fill" _ rfl).2 .fill rfl
  obtain ⟨c, hc⟩ := hok.2 ⟨by simp [LacksSelector], by simp [CommandKind.requiredParams]⟩
  have hmadeOf := hmade c hc
  refine ⟨c, hc, hmadeOf.kind, ?_, ?_, (hmadeOf.noValue "url").2 (by simp)⟩
  · exact (hmadeOf.selector _).2
      ⟨⟨.css, "#a"⟩, [⟨.text, ""⟩, ⟨.role, "b"⟩], ⟨[.param "value" "a"], _, rfl, by simp⟩, rfl⟩
  · exact (hmadeOf.value _ _).2
      ⟨[.param "value" "a", .selector (.link ⟨.css, "#a"⟩ [⟨.text, ""⟩, ⟨.role, "b"⟩]),
        .command "click", .selector (.last ⟨.label, "c"⟩)], [], rfl, by simp⟩

end BrowserScript.Command
