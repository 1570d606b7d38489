/-
# BrowserScript.Proofs.Token.Noise -- fields that no token is made of

A field without a key, if it is not the linking word, makes no token wherever it stands. That
it can be **put in or left out** is another matter, since the reading of a field depends on
the one before it: between a selector and its link such a field ends the selector, and behind
the linking word it takes the place of the locator that the word asks for. At every other
place it is without effect, also right behind a selector or a finished link.

The step is one such field at one place, and it is exact: the field makes a piece that is
ignored, and all other pieces are the same. Any number of them, put in at any of these places
one after another, is an induction over the steps.
-/
import Mathlib.Logic.Relation
import BrowserScript.Proofs.Command.Building
import BrowserScript.Proofs.Fields.Silent
import BrowserScript.Proofs.Token.Reading

namespace BrowserScript

/-! ## Noise -/

/-- A field without a key that is not the linking word: it has no equals sign, or it begins with
one. -/
def IsNoise (field : String) : Prop :=
  ('=' ∉ field.toList ∨ field.toList.head? = some '=') ∧ field ≠ fallbackWord

instance (field : String) : Decidable (IsNoise field) :=
  inferInstanceAs (Decidable (_ ∧ _))

/-- A field that a selector before it may go on with: the linking word, or one that begins with
it and an equals sign. -/
def IsLinking (field : String) : Prop :=
  field = fallbackWord ∨ (fallbackWord ++ "=").toList <+: field.toList

instance (field : String) : Decidable (IsLinking field) :=
  inferInstanceAs (Decidable (_ ∨ _))

theorem isLinking_of_ofLink? {field : String} {l : Locator}
    (h : Locator.ofLink? field = some l) : IsLinking field := by
  refine Or.inr ⟨l.text.toList, ?_⟩
  rw [Locator.ofLink?_eq_some_iff.1 h, paramField, ← String.toList_append]

namespace IsNoise

variable {field : String}

/-- What stands before the first equals sign of noise, if it has one, is empty. -/
theorem key_eq_empty (h : IsNoise field) {key value : String}
    (ha : Fields.assignment? field = some (key, value)) : key = "" := by
  obtain ⟨hfield, hkey⟩ := Fields.assignment?_eq_some_iff.1 ha
  have hchars : field.toList = key.toList ++ '=' :: value.toList := by simp [hfield]
  rcases h.1 with hno | hfirst
  · exact absurd (by simp [hchars]) hno
  · rw [← String.toList_eq_nil_iff]
    cases hk : key.toList with
    | nil => rfl
    | cons c cs =>
        -- the equals sign in front would be a character of the key
        rw [hchars, hk, List.cons_append, List.head?_cons] at hfirst
        rw [hk, Option.some.inj hfirst] at hkey
        exact absurd List.mem_cons_self hkey

theorem ofField?_eq_none (h : IsNoise field) : Locator.ofField? field = none := by
  unfold Locator.ofField?
  cases ha : Fields.assignment? field with
  | none => rfl
  | some p =>
      rw [show p = ("", p.2) from Prod.ext (h.key_eq_empty ha) rfl]
      rfl

theorem ofLink?_eq_none (h : IsNoise field) : Locator.ofLink? field = none := by
  unfold Locator.ofLink?
  cases ha : Fields.assignment? field with
  | none => rfl
  | some p =>
      rw [show p = ("", p.2) from Prod.ext (h.key_eq_empty ha) rfl]
      rfl

theorem ofRest_eq_ignored (h : IsNoise field) : Piece.ofRest field = .ignored field := by
  unfold Piece.ofRest
  split
  · rename_i key value ha
    rw [if_pos (h.key_eq_empty ha)]
  · rfl

end IsNoise

namespace Piece

/-! ## One more piece -/

/-- The second of two readings has one piece more than the first, and is otherwise the same. -/
def HasBesides (p : Piece) (result more : List Locator × List Piece) : Prop :=
  ∃ links front back, result = (links, front ++ back) ∧ more = (links, front ++ p :: back)

namespace HasBesides

variable {p : Piece} {result more : List Locator × List Piece}

/-- A link before the fields. -/
theorem link (h : HasBesides p result more) (l : Locator) :
    HasBesides p (l :: result.1, result.2) (l :: more.1, more.2) := by
  obtain ⟨links, front, back, rfl, rfl⟩ := h
  exact ⟨l :: links, front, back, rfl, rfl⟩

/-- A locator before the fields, which takes the links that it is followed by. -/
theorem selector (h : HasBesides p result more) (l : Locator) :
    HasBesides p ([], token (.selector (.link l result.1)) :: result.2)
      ([], token (.selector (.link l more.1)) :: more.2) := by
  obtain ⟨links, front, back, rfl, rfl⟩ := h
  exact ⟨[], token (.selector (.link l links)) :: front, back, rfl, rfl⟩

/-- A field that stands by itself. -/
theorem other (h : HasBesides p result more) (q : Piece) :
    HasBesides p ([], q :: result.2) ([], q :: more.2) := by
  obtain ⟨links, front, back, rfl, rfl⟩ := h
  exact ⟨[], q :: front, back, rfl, rfl⟩

/-- A piece that is ignored is no token. -/
theorem filterMap_token? {field : String} (h : HasBesides (.ignored field) result more) :
    more.2.filterMap token? = result.2.filterMap token? := by
  obtain ⟨links, front, back, rfl, rfl⟩ := h
  rw [List.filterMap_append, List.filterMap_append]
  rfl

end HasBesides

/-! ## Noise among the fields -/

/-- Whether a selector stands just before makes no difference to fields that do not go on with
it. -/
theorem read_eq_of_not_isLinking {fields : List String} (h : ∀ f ∈ fields.head?, ¬ IsLinking f) :
    read true fields = read false fields := by
  cases fields with
  | nil => rfl
  | cons field rest =>
      have hfield : ¬ IsLinking field := h field rfl
      cases hl : Locator.ofField? field with
      | some l => rw [read_locator hl, read_locator hl]
      | none =>
          have hlink : Locator.ofLink? field = none := by
            rw [Option.eq_none_iff_forall_ne_some]
            intro m hm
            exact hfield (isLinking_of_ofLink? hm)
          rw [read_after hl hlink fun hword => hfield (Or.inl hword), read_alone hl]

theorem hasBesides_noise {noise : String} (h : IsNoise noise) (linking : Bool)
    {after : List String} (hafter : ∀ f ∈ after.head?, ¬ IsLinking f) :
    HasBesides (ignored noise) (read linking after) (read linking (noise :: after)) := by
  have hsame : read linking after = ([], (read false after).2) := by
    cases linking with
    | false => exact Prod.ext (read_false_fst after) rfl
    | true =>
        rw [read_eq_of_not_isLinking hafter]
        exact Prod.ext (read_false_fst after) rfl
  refine ⟨[], [], (read false after).2, hsame, ?_⟩
  -- behind a selector as well the fields after the noise are read without one
  cases linking with
  | false => rw [read_alone h.ofField?_eq_none, h.ofRest_eq_ignored, List.nil_append]
  | true =>
      rw [read_after h.ofField?_eq_none h.ofLink?_eq_none h.2, h.ofRest_eq_ignored,
        List.nil_append]

/-- The end of a row is the end of what is left of it without its first field. -/
theorem getLast?_ne_of_cons {field word : String} {rest : List String}
    (h : (field :: rest).getLast? ≠ some word) : rest.getLast? ≠ some word := by
  intro hrest
  refine h ?_
  rw [List.getLast?_cons, hrest]
  rfl

/-- **Noise that tears no link apart makes one ignored piece**, and all the rest is read as it
is without the noise. -/
theorem hasBesides_read {noise : String} (h : IsNoise noise) {after : List String}
    (hafter : ∀ f ∈ after.head?, ¬ IsLinking f) (linking : Bool) (before : List String)
    (hbefore : before.getLast? ≠ some fallbackWord) :
    HasBesides (ignored noise) (read linking (before ++ after))
      (read linking (before ++ noise :: after)) := by
  fun_induction read linking before with
  | case1 linking => exact hasBesides_noise h linking hafter
  | case2 linking field rest l hl _ ih =>
      rw [List.cons_append, List.cons_append, read_locator hl, read_locator hl]
      exact (ih (getLast?_ne_of_cons hbefore)).selector l
  | case3 field rest hfield l hl _ ih =>
      rw [Locator.ofLink?_eq_some_iff.1 hl, List.cons_append, List.cons_append, read_link, read_link]
      exact (ih (getLast?_ne_of_cons hbefore)).link l
  | case4 => exact absurd rfl hbefore
  | case5 next beyond l hl _ hword hlink ih =>
      have hbeyond := getLast?_ne_of_cons (getLast?_ne_of_cons hbefore)
      rw [Locator.ofField?_eq_some_iff.1 hl, List.cons_append, List.cons_append, List.cons_append,
        List.cons_append, read_word, read_word]
      exact (ih hbeyond).link l
  | case6 next beyond hnone hword hlink ih =>
      rw [List.cons_append, List.cons_append, List.cons_append, List.cons_append,
        read_word_alone hnone, read_word_alone hnone]
      exact (ih (getLast?_ne_of_cons hbefore)).other (ofRest fallbackWord)
  | case7 field rest hfield hlink hne ih =>
      rw [List.cons_append, List.cons_append, read_after hfield hlink hne,
        read_after hfield hlink hne]
      exact (ih (getLast?_ne_of_cons hbefore)).other (ofRest field)
  | case8 linking field rest hfield hnot ih =>
      rw [Bool.not_eq_true] at hnot
      subst hnot
      rw [List.cons_append, List.cons_append, read_alone hfield, read_alone hfield]
      exact (ih (getLast?_ne_of_cons hbefore)).other (ofRest field)

end Piece

namespace Token

/-! ## Rows with noise -/

/-- The second row of fields has one field more than the first: noise, behind the name of the
command, where it tears no link apart. -/
inductive IsNoisier : List String → List String → Prop
  | insert {before after : List String} {noise : String} (name : before ≠ [])
      (isNoise : IsNoise noise) (notBehindWord : before.getLast? ≠ some fallbackWord)
      (notBeforeLink : ∀ f ∈ after.head?, ¬ IsLinking f) :
      IsNoisier (before ++ after) (before ++ noise :: after)

theorem IsNoisier.ofFields_eq {fields more : List String} (h : IsNoisier fields more) :
    ofFields more = ofFields fields := by
  obtain ⟨hname, hnoise, hword, hlink⟩ := h
  rename_i before after noise
  obtain ⟨name, front, rfl⟩ := List.exists_cons_of_ne_nil hname
  have hread := Piece.hasBesides_read hnoise hlink false front (Piece.getLast?_ne_of_cons hword)
  rw [List.cons_append, List.cons_append, ofFields, ofFields, Piece.ofFields, Piece.ofFields,
    List.filterMap_cons, List.filterMap_cons, hread.filterMap_token?]

/-- The fields have the same tokens however much noise is put in. -/
theorem ofFields_eq_of_reflTransGen {fields more : List String}
    (h : Relation.ReflTransGen IsNoisier fields more) : ofFields more = ofFields fields := by
  induction h with
  | refl => rfl
  | tail _ hstep ih => rw [hstep.ofFields_eq, ih]

/-! ## Lines with noise -/

/-- **Noise has no effect on a line** where it tears no link apart: one such field anywhere
behind the name, or any number of them put in one after another. -/
theorem tokens_despite_noise :
    (∀ (before after : List String) (noise : String), before ≠ [] → IsNoise noise →
      before.getLast? ≠ some fallbackWord → (∀ f ∈ after.head?, ¬ IsLinking f) →
      ∀ line line', Fields.IsCutInto line (before ++ [noise] ++ after) →
        Fields.IsCutInto line' (before ++ after) →
        ofLine line = ofLine line' ∧ ∀ n, Command.ofLine line n = Command.ofLine line' n) ∧
    ∀ fields more, Relation.ReflTransGen IsNoisier fields more →
      ∀ line line', Fields.IsCutInto line more → Fields.IsCutInto line' fields →
        ofLine line = ofLine line' ∧ ∀ n, Command.ofLine line n = Command.ofLine line' n := by
  have hrun : ∀ fields more, Relation.ReflTransGen IsNoisier fields more →
      ∀ line line', Fields.IsCutInto line more → Fields.IsCutInto line' fields →
        ofLine line = ofLine line' ∧ ∀ n, Command.ofLine line n = Command.ofLine line' n := by
    intro fields more h line line' hmore hfields
    have htokens : ofLine line = ofLine line' := by
      rw [ofLine, ofLine, hmore.ofLine, hfields.ofLine, ofFields_eq_of_reflTransGen h]
    exact ⟨htokens, Command.ofLine_congr htokens⟩
  refine ⟨?_, hrun⟩
  intro before after noise hname hnoise hword hlink line line' hcut hcut'
  rw [List.append_assoc, List.singleton_append] at hcut
  exact hrun _ _ (.single (.insert hname hnoise hword hlink)) line line' hcut hcut'

/-- The tokens of a line with a link, with one field of noise behind the finished link, and with
two more around a further selector. -/
theorem tokens_despite_noise_click :
    ofLine "click css=#a fallback text=A k=1 role=b" =
        [.command "click", .selector (.orElse ⟨.css, "#a"⟩ (.last ⟨.text, "A"⟩)), .param "k" "1",
          .selector (.last ⟨.role, "b"⟩)] ∧
      ofLine "click css=#a fallback text=A soon k=1 role=b" =
        ofLine "click css=#a fallback text=A k=1 role=b" ∧
      ofLine "click css=#a fallback text=A soon k=1 =x role=b" =
        ofLine "click css=#a fallback text=A k=1 role=b" := by
  have hclean : Fields.IsCutInto "click css=#a fallback text=A k=1 role=b"
      ["click", "css=#a", "fallback", "text=A", "k=1", "role=b"] :=
    ⟨by decide, by decide +kernel⟩
  have hfirst : IsNoisier ["click", "css=#a", "fallback", "text=A", "k=1", "role=b"]
      ["click", "css=#a", "fallback", "text=A", "soon", "k=1", "role=b"] :=
    @IsNoisier.insert ["click", "css=#a", "fallback", "text=A"] ["k=1", "role=b"] "soon"
      (by decide) (by decide) (by decide) (by decide)
  have hsecond : IsNoisier ["click", "css=#a", "fallback", "text=A", "soon", "k=1", "role=b"]
      ["click", "css=#a", "fallback", "text=A", "soon", "k=1", "=x", "role=b"] :=
    @IsNoisier.insert ["click", "css=#a", "fallback", "text=A", "soon", "k=1"] ["role=b"] "=x"
      (by decide) (by decide) (by decide) (by decide)
  refine ⟨by decide +kernel, ?_, ?_⟩
  · exact (tokens_despite_noise.1 ["click", "css=#a", "fallback", "text=A"] ["k=1", "role=b"]
      "soon" (by decide) (by decide) (by decide) (by decide) _ _
      ⟨by decide, by decide +kernel⟩ hclean).1
  · exact (tokens_despite_noise.2 _ _ ((Relation.ReflTransGen.single hfirst).tail hsecond) _ _
      ⟨by decide, by decide +kernel⟩ hclean).1

/-- Between a selector and its link, noise cuts the chain in two. -/
example : ofLine "click css=#a soon fallback text=A" ≠ ofLine "click css=#a fallback text=A" := by
  decide +kernel

end Token

end BrowserScript
