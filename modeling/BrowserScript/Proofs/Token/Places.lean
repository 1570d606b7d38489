/-
# BrowserScript.Proofs.Token.Places -- a rule for each place of a line

The reading of fields goes from left to right, looks one field ahead and remembers
whether a selector stands just before. What it yields has a description without any of
this, in which **the field at each place is judged by itself and the two fields before
it**.

  * A field is a *member* of a selector when it is a locator, or a link in the short form
    right after a member.
  * A member is *attached* when it is such a link, or when the linking word stands before
    it and a member before the word.
  * Each member that is not attached yields a selector, which has the attached members up
    to the next such member as its links; a field that is no member yields a parameter if
    there is a key in it.

The name of the command stands at place 0 and is never a member. Since every member goes
to one selector and every other field is looked at once, no locator and no parameter is
lost, comes twice or changes its place.
-/
import Mathlib
import BrowserScript.Proofs.Fields.Silent
import BrowserScript.Proofs.Token.Reading

namespace BrowserScript

namespace Fields

/-! ## The rule -/

/-- The locator with which the field at a place is a member of a selector. -/
def memberAt? (fields : List String) : Nat → Option Locator
  | 0 => none
  | place + 1 =>
    (fields[place + 1]?.bind Locator.ofField?).or
      (if (memberAt? fields place).isSome then fields[place + 1]?.bind Locator.ofLink? else none)

/-- Whether the linking word stands just before a place, and a member before the word. -/
def afterWord (fields : List String) (place : Nat) : Bool :=
  fields[place - 1]? == some fallbackWord && (memberAt? fields (place - 2)).isSome

/-- Whether the field at a place is a member that continues the selector before it. -/
def isAttached (fields : List String) (place : Nat) : Bool :=
  (memberAt? fields place).isSome &&
    ((fields[place]?.bind Locator.ofLink?).isSome || afterWord fields place)

/-- Whether the field at a place is a member with which a selector begins. -/
def opensSelector (fields : List String) (place : Nat) : Bool :=
  (memberAt? fields place).isSome && !isAttached fields place

/-- The places of the fields from one of them on. -/
def placesFrom (fields : List String) (place : Nat) : List Nat :=
  List.range' place (fields.length - place)

/-- The attached members from a place on, up to where the next selector begins. -/
def linksFrom (fields : List String) (place : Nat) : List Locator :=
  ((placesFrom fields place).takeWhile fun i => !opensSelector fields i).filterMap fun i =>
    if isAttached fields i then memberAt? fields i else none

/-- The parameter that the field at a place assigns a value to, if there is a key. -/
def paramAt? (fields : List String) (place : Nat) : Option Token :=
  (fields[place]?.bind assignment?).bind fun p =>
    if p.1 = "" then none else some (.param p.1 p.2)

/-- **The token that begins at a place.** -/
def tokenAt? (fields : List String) (place : Nat) : Option Token :=
  match memberAt? fields place with
  | some l =>
    if isAttached fields place then none
    else some (.selector (.link l (linksFrom fields (place + 1))))
  | none => paramAt? fields place

/-- What the field at a place has a part in: a selector or a parameter. -/
def partAt? (fields : List String) (place : Nat) : Option Token :=
  match memberAt? fields place with
  | some l => some (.selector (.last l))
  | none => paramAt? fields place

end Fields

/-- A selector taken apart into its locators; other tokens are one part. -/
def Token.parts : Token → List Token
  | .selector chain => chain.locators.map fun l => .selector (.last l)
  | .command name => [.command name]
  | .param key value => [.param key value]

namespace Fields

variable {fields : List String} {place : Nat} {field : String} {l : Locator}

/-! ## One place -/

theorem memberAt?_of_locator (h : fields[place + 1]? = some field)
    (hl : Locator.ofField? field = some l) : memberAt? fields (place + 1) = some l := by
  simp [memberAt?, h, hl]

theorem memberAt?_of_link (h : fields[place + 1]? = some field)
    (hl : Locator.ofLink? field = some l) (hbefore : (memberAt? fields place).isSome = true) :
    memberAt? fields (place + 1) = some l := by
  have hnone : Locator.ofField? field = none := by
    rw [Locator.ofLink?_eq_some_iff.1 hl]
    exact Locator.ofField?_paramField isFieldKey_fallbackWord l.text
  simp [memberAt?, h, hl, hnone, hbefore]

theorem memberAt?_eq_none (h : fields[place + 1]? = some field)
    (hfield : Locator.ofField? field = none)
    (hlink : Locator.ofLink? field = none ∨ (memberAt? fields place).isSome = false) :
    memberAt? fields (place + 1) = none := by
  rcases hlink with hlink | hbefore
  · simp [memberAt?, h, hfield, hlink]
  · simp [memberAt?, h, hfield, hbefore]

/-- A locator is attached by the linking word only. -/
theorem isAttached_of_locator (h : fields[place + 1]? = some field)
    (hl : Locator.ofField? field = some l) :
    isAttached fields (place + 1) = afterWord fields (place + 1) := by
  have hlink : Locator.ofLink? field = none := by
    rw [Locator.ofField?_eq_some_iff.1 hl, Locator.text]
    have hname : '=' ∉ l.strategy.name.toList := by cases l.strategy <;> decide
    have hword : l.strategy.name ≠ fallbackWord := by cases l.strategy <;> decide
    exact Locator.ofLink?_paramField hname hword l.value
  simp [isAttached, memberAt?_of_locator h hl, h, hlink]

theorem isAttached_of_link (h : fields[place + 1]? = some field)
    (hl : Locator.ofLink? field = some l) (hbefore : (memberAt? fields place).isSome = true) :
    isAttached fields (place + 1) = true := by
  simp [isAttached, memberAt?_of_link h hl hbefore, h, hl]

/-- A field that is not the linking word leaves the place after it alone. -/
theorem afterWord_eq_false (h : fields[place]? = some field) (hne : field ≠ fallbackWord) :
    afterWord fields (place + 1) = false := by
  simp [afterWord, h, hne]

/-- A field by itself makes the token that the rule gives for a field that is no member. -/
theorem paramAt?_eq_ofRest (h : fields[place]? = some field) :
    paramAt? fields place = (Piece.ofRest field).token? := by
  rw [paramAt?, h, Option.bind_some, Piece.ofRest]
  cases assignment? field with
  | none => rfl
  | some p =>
      show _ = (if p.1 = "" then Piece.ignored field else .token (.param p.1 p.2)).token?
      by_cases hp : p.1 = "" <;> simp [hp, Piece.token?]

theorem tokenAt?_of_none (hm : memberAt? fields place = none) :
    tokenAt? fields place = paramAt? fields place := by
  rw [tokenAt?, hm]

theorem partAt?_of_none (hm : memberAt? fields place = none) :
    partAt? fields place = paramAt? fields place := by
  rw [partAt?, hm]

theorem placesFrom_eq_nil (h : fields.drop place = []) : placesFrom fields place = [] := by
  rw [List.drop_eq_nil_iff] at h
  simp [placesFrom, Nat.sub_eq_zero_of_le h]

theorem placesFrom_eq_cons {rest : List String} (h : fields.drop place = field :: rest) :
    placesFrom fields place = place :: placesFrom fields (place + 1) := by
  have hlt : place < fields.length := by
    by_contra hge
    rw [List.drop_of_length_le (by omega)] at h
    exact List.cons_ne_nil field rest h.symm
  have hlength : fields.length - place = fields.length - (place + 1) + 1 := by omega
  rw [placesFrom, hlength, List.range'_succ]
  rfl

theorem getElem?_of_drop {rest : List String} (h : fields.drop place = field :: rest) :
    fields[place]? = some field := by
  rw [← List.head?_drop, h, List.head?_cons]

theorem drop_succ_of_drop {rest : List String} (h : fields.drop place = field :: rest) :
    fields.drop (place + 1) = rest := by
  rw [← List.tail_drop, h, List.tail_cons]

/-! ## What is read from a place on -/

/-- The reading of the fields from a place on agrees with the rule: the links that it
begins with, its tokens, and their parts. -/
structure ReadsFrom (fields : List String) (place : Nat) (result : List Locator × List Piece) :
    Prop where
  links : result.1 = linksFrom fields place
  tokens : result.2.filterMap Piece.token? = (placesFrom fields place).filterMap (tokenAt? fields)
  parts : result.1.map (fun l => Token.selector (.last l)) ++
      (result.2.filterMap Piece.token?).flatMap Token.parts =
    (placesFrom fields place).filterMap (partAt? fields)

namespace ReadsFrom

variable {rest : List String} {links : List Locator} {pieces : List Piece}

theorem nil (h : fields.drop place = []) : ReadsFrom fields place ([], []) where
  links := by simp [linksFrom, placesFrom_eq_nil h]
  tokens := by simp [placesFrom_eq_nil h]
  parts := by simp [placesFrom_eq_nil h]

/-- A member that is not attached takes the links after it. -/
theorem selector (h : fields.drop place = field :: rest) (hm : memberAt? fields place = some l)
    (hfree : isAttached fields place = false)
    (hrest : ReadsFrom fields (place + 1) (links, pieces)) :
    ReadsFrom fields place ([], .token (.selector (.link l links)) :: pieces) where
  links := by simp [linksFrom, placesFrom_eq_cons h, opensSelector, hm, hfree]
  tokens := by
    have htoken : tokenAt? fields place =
        some (.selector (.link l (linksFrom fields (place + 1)))) := by
      simp [tokenAt?, hm, hfree]
    have htokens := hrest.tokens
    rw [placesFrom_eq_cons h, List.filterMap_cons_some htoken, ← hrest.links, ← htokens]
    rfl
  parts := by
    have hpart : partAt? fields place = some (.selector (.last l)) := by simp [partAt?, hm]
    have hparts := hrest.parts
    rw [placesFrom_eq_cons h, List.filterMap_cons_some hpart, ← hparts]
    simp [Piece.token?, Token.parts]

/-- An attached member goes to the selector before it. -/
theorem link (h : fields.drop place = field :: rest) (hm : memberAt? fields place = some l)
    (hattached : isAttached fields place = true)
    (hrest : ReadsFrom fields (place + 1) (links, pieces)) :
    ReadsFrom fields place (l :: links, pieces) where
  links := by
    have hlinks : links = linksFrom fields (place + 1) := hrest.links
    simp [linksFrom, placesFrom_eq_cons h, opensSelector, hm, hattached, hlinks]
  tokens := by
    have htoken : tokenAt? fields place = none := by simp [tokenAt?, hm, hattached]
    rw [placesFrom_eq_cons h, List.filterMap_cons_none htoken, ← hrest.tokens]
  parts := by
    have hpart : partAt? fields place = some (.selector (.last l)) := by simp [partAt?, hm]
    have hparts := hrest.parts
    rw [placesFrom_eq_cons h, List.filterMap_cons_some hpart, ← hparts]
    rfl

/-- The links are not affected by a field that is no member. -/
theorem linksFrom_of_none (h : fields.drop place = field :: rest)
    (hm : memberAt? fields place = none) :
    linksFrom fields place = linksFrom fields (place + 1) := by
  simp [linksFrom, placesFrom_eq_cons h, opensSelector, isAttached, hm]

/-- The linking word makes no token. -/
theorem word (h : fields.drop place = fallbackWord :: rest) (hm : memberAt? fields place = none)
    {result : List Locator × List Piece} (hrest : ReadsFrom fields (place + 1) result) :
    ReadsFrom fields place result := by
  have hno : paramAt? fields place = none := by
    rw [paramAt?_eq_ofRest (getElem?_of_drop h)]
    decide
  have htoken : tokenAt? fields place = none := (tokenAt?_of_none hm).trans hno
  have hpart : partAt? fields place = none := (partAt?_of_none hm).trans hno
  refine ⟨?_, ?_, ?_⟩
  · rw [linksFrom_of_none h hm, hrest.links]
  · rw [placesFrom_eq_cons h, List.filterMap_cons_none htoken, hrest.tokens]
  · rw [placesFrom_eq_cons h, List.filterMap_cons_none hpart, hrest.parts]

/-- Any other field stands by itself. No links come right after it. -/
theorem other (h : fields.drop place = field :: rest) (hm : memberAt? fields place = none)
    (hrest : ReadsFrom fields (place + 1) (Piece.read false rest)) :
    ReadsFrom fields place ([], Piece.ofRest field :: (Piece.read false rest).2) := by
  have hparam := paramAt?_eq_ofRest (getElem?_of_drop h)
  have htoken : tokenAt? fields place = (Piece.ofRest field).token? :=
    (tokenAt?_of_none hm).trans hparam
  have hpart : partAt? fields place = (Piece.ofRest field).token? :=
    (partAt?_of_none hm).trans hparam
  refine ⟨?_, ?_, ?_⟩
  · rw [linksFrom_of_none h hm, ← hrest.links, Piece.read_false_fst]
  · rw [placesFrom_eq_cons h, List.filterMap_cons, List.filterMap_cons, htoken, hrest.tokens]
  · have hparts := hrest.parts
    rw [Piece.read_false_fst, List.map_nil, List.nil_append] at hparts
    rw [placesFrom_eq_cons h, List.filterMap_cons, List.filterMap_cons, hpart, ← hparts]
    -- what stands by itself is no selector, and so it is one part
    unfold Piece.ofRest
    split
    · split <;> rfl
    · rfl

end ReadsFrom

/-- **The reading of the fields from a place on follows the rule.** A selector stands just
before the place when the field there is a member, and the linking word does not stand
there with a member before it and a locator after it: the two would have been read
together. -/
theorem readsFrom_read (linking : Bool) (rest : List String) :
    ∀ place, fields.drop (place + 1) = rest → linking = (memberAt? fields place).isSome →
      (∀ field l, rest.head? = some field → Locator.ofField? field = some l →
        afterWord fields (place + 1) = false) →
      ReadsFrom fields (place + 1) (Piece.read linking rest) := by
  -- after a field that is not the linking word the condition holds again
  have hnext : ∀ {i : Nat} {f : String} {more : List String}, fields.drop (i + 1) = f :: more →
      f ≠ fallbackWord → ∀ field l, more.head? = some field → Locator.ofField? field = some l →
        afterWord fields (i + 1 + 1) = false := by
    intro i f more hdrop hne field l _ _
    exact afterWord_eq_false (getElem?_of_drop hdrop) hne
  have hne_word : ∀ {f : String} {m : Locator}, Locator.ofField? f = some m → f ≠ fallbackWord := by
    rintro f m hm rfl
    rw [Locator.ofField?_fallbackWord] at hm
    exact Option.some_ne_none m hm.symm
  fun_induction Piece.read linking rest with
  | case1 =>
      intro place h _ _
      exact .nil h
  | case2 linking field rest l hl after ih =>
      intro place h _ hfree
      have hfield := getElem?_of_drop h
      have hm := memberAt?_of_locator hfield hl
      have hattached : isAttached fields (place + 1) = false := by
        rw [isAttached_of_locator hfield hl]
        exact hfree field l rfl hl
      refine .selector h hm hattached ?_
      exact ih (place + 1) (drop_succ_of_drop h) (by rw [hm, Option.isSome_some])
        (hnext h (hne_word hl))
  | case3 field rest hfield l hl after ih =>
      intro place h hlinking _
      have hm := memberAt?_of_link (getElem?_of_drop h) hl hlinking.symm
      have hattached := isAttached_of_link (getElem?_of_drop h) hl hlinking.symm
      have hne : field ≠ fallbackWord := by
        rintro rfl
        rw [Locator.ofLink?_fallbackWord] at hl
        exact Option.some_ne_none l hl.symm
      refine .link h hm hattached ?_
      exact ih (place + 1) (drop_succ_of_drop h) (by rw [hm, Option.isSome_some]) (hnext h hne)
  | case4 hfield hlink =>
      intro place h _ _
      have hm := memberAt?_eq_none (getElem?_of_drop h) hfield (Or.inl hlink)
      exact .other h hm (.nil (drop_succ_of_drop h))
  | case5 next beyond l hl after hword hlink ih =>
      intro place h hlinking _
      -- the word itself makes nothing, and the locator after it is attached by it
      have hm := memberAt?_eq_none (getElem?_of_drop h) hword (Or.inl hlink)
      have hdrop := drop_succ_of_drop h
      have hm' := memberAt?_of_locator (getElem?_of_drop hdrop) hl
      have hafter : afterWord fields (place + 1 + 1) = true := by
        simp [afterWord, getElem?_of_drop h, ← hlinking]
      have hattached : isAttached fields (place + 1 + 1) = true := by
        rw [isAttached_of_locator (getElem?_of_drop hdrop) hl]
        exact hafter
      refine .word h hm (.link hdrop hm' hattached ?_)
      exact ih (place + 1 + 1) (drop_succ_of_drop hdrop) (by rw [hm', Option.isSome_some])
        (hnext hdrop (hne_word hl))
  | case6 next beyond hnone hword hlink ih =>
      intro place h _ _
      have hm := memberAt?_eq_none (getElem?_of_drop h) hword (Or.inl hlink)
      refine .other h hm ?_
      refine ih (place + 1) (drop_succ_of_drop h) (by rw [hm, Option.isSome_none]) ?_
      -- the field after the word is no locator
      intro field l hhead hl
      rw [List.head?_cons, Option.some.injEq] at hhead
      rw [hhead, hl] at hnone
      exact absurd hnone (Option.some_ne_none l)
  | case7 field rest hfield hlink hne ih =>
      intro place h _ _
      have hm := memberAt?_eq_none (getElem?_of_drop h) hfield (Or.inl hlink)
      refine .other h hm ?_
      exact ih (place + 1) (drop_succ_of_drop h) (by rw [hm, Option.isSome_none]) (hnext h hne)
  | case8 linking field rest hfield hnot ih =>
      intro place h hlinking _
      have hbefore : (memberAt? fields place).isSome = false := by
        rw [← hlinking, Bool.eq_false_iff]
        exact hnot
      have hm := memberAt?_eq_none (getElem?_of_drop h) hfield (Or.inr hbefore)
      refine .other h hm ?_
      refine ih (place + 1) (drop_succ_of_drop h) (by rw [hm, Option.isSome_none]) ?_
      -- no member stands before this field, whatever the field is
      intro next l _ _
      simp [afterWord, hbefore]

end Fields

namespace Token

open Fields (placesFrom tokenAt? partAt?)

/-- **The tokens of a line are given by the rule for its places**: the name, and then the
tokens that begin at the places of the other fields, in order. Taken apart they are the
members and the parameters of the fields, each once and in order. -/
theorem tokens_by_place (line : String) (h : ¬ Fields.IsSilent line) :
    ∃ name rest, Fields.ofText (.ofList (Fields.trimmed line)) = name :: rest ∧
      ofLine line = .command (CommandKind.resolveAlias name) ::
        (placesFrom (name :: rest) 1).filterMap (tokenAt? (name :: rest)) ∧
      (ofLine line).flatMap parts = .command (CommandKind.resolveAlias name) ::
        (placesFrom (name :: rest) 1).filterMap (partAt? (name :: rest)) := by
  obtain ⟨name, rest, htext, hline⟩ := Fields.exists_fields h
  have hread : Fields.ReadsFrom (name :: rest) 1 (Piece.read false rest) := by
    refine Fields.readsFrom_read false rest 0 rfl rfl ?_
    intro field l _ _
    simp [Fields.afterWord, Fields.memberAt?]
  have htokens := ofLine_of_fields hline
  rw [ofRest] at htokens
  refine ⟨name, rest, htext, ?_, ?_⟩
  · rw [htokens, hread.tokens]
  · have hparts := hread.parts
    rw [Piece.read_false_fst, List.map_nil, List.nil_append] at hparts
    rw [htokens, List.flatMap_cons, hparts]
    rfl

/-- Links in both forms, a linking word that a parameter separates from its locator, and a
further selector with a link of its own. -/
theorem tokens_by_place_click :
    ¬ Fields.IsSilent "click css=#a fallback=text=A fallback k=1 role=b fallback css=.c" ∧
      ofLine "click css=#a fallback=text=A fallback k=1 role=b fallback css=.c" =
        [.command "click", .selector (.link ⟨.css, "#a"⟩ [⟨.text, "A"⟩]), .param "k" "1",
          .selector (.link ⟨.role, "b"⟩ [⟨.css, ".c"⟩])] := by
  have hloud :
      ¬ Fields.IsSilent "click css=#a fallback=text=A fallback k=1 role=b fallback css=.c" := by
    decide
  obtain ⟨name, rest, htext, htokens, _⟩ := tokens_by_place _ hloud
  have hfields : Fields.ofText (.ofList (Fields.trimmed
      "click css=#a fallback=text=A fallback k=1 role=b fallback css=.c")) =
      ["click", "css=#a", "fallback=text=A", "fallback", "k=1", "role=b", "fallback",
        "css=.c"] := by cbv
  rw [hfields] at htext
  obtain ⟨rfl, rfl⟩ := List.cons.inj htext
  refine ⟨hloud, ?_⟩
  rw [htokens]
  decide +kernel

end Token

end BrowserScript
