/-
# BrowserScript.Proofs.Command.AppendedParam -- a parameter at the end of a line

Editing a command by hand means writing one more parameter behind it. Where the line has a
closed end, this **sets that parameter and nothing else**: the kind, the selector and the values
of all other keys are those that the line had, whatever its last fields are. The linking word at
the end of the line, which asks for a locator, gets none by this and is ignored as before.

Each stage adds one thing at its end and leaves the rest alone: the line one field, the reading
one piece, the tokens one parameter, and the command one value.
-/
import BrowserScript.Proofs.Command.CanonicalLine
import BrowserScript.Proofs.Command.Grammar
import BrowserScript.Proofs.Command.LastField
import BrowserScript.Proofs.Fields.ClosedEnd

namespace BrowserScript

/-! ## One more field -/

/-- **An assignment at the end of a row is read as one more piece**, unless its key is the
linking word. -/
theorem Piece.read_append_param {key : String} (hkey : IsFieldKey key)
    (hword : key ≠ fallbackWord) (value : String) (linking : Bool) (fields : List String) :
    read linking (fields ++ [paramField key value]) =
      ((read linking fields).1, (read linking fields).2 ++ [token (.param key value)]) := by
  have hlocator := Locator.ofField?_paramField hkey value
  have hrest := ofRest_paramField hkey value
  fun_induction read linking fields with
  | case1 linking =>
      cases linking with
      | false => rw [List.nil_append, read_alone hlocator, hrest]; rfl
      | true =>
          rw [List.nil_append,
            read_last hlocator (Locator.ofLink?_paramField hkey.2.1 hword value), hrest]
          rfl
  | case2 linking field rest l hl after ih =>
      rw [List.cons_append, read_locator hl, ih]
      rfl
  | case3 field rest hfield l hl after ih =>
      rw [Locator.ofLink?_eq_some_iff.1 hl, List.cons_append, read_link, ih]
  | case4 =>
      -- the linking word finds no locator in the new field
      rw [List.singleton_append, read_word_alone hlocator, read_alone hlocator, hrest]
      rfl
  | case5 next beyond l hl after hfield hlink ih =>
      rw [Locator.ofField?_eq_some_iff.1 hl, List.cons_append, List.cons_append, read_word, ih]
  | case6 next beyond hnone hfield hlink ih =>
      rw [List.cons_append] at ih
      rw [List.cons_append, List.cons_append, read_word_alone hnone, ih]
      rfl
  | case7 field rest hfield hlink hne ih =>
      rw [List.cons_append, read_after hfield hlink hne, ih]
      rfl
  | case8 linking field rest hfield hnot ih =>
      rw [Bool.not_eq_true] at hnot
      subst hnot
      rw [List.cons_append, read_alone hfield, ih]
      rfl

theorem Token.ofRest_append_param {key : String} (hkey : IsFieldKey key)
    (hword : key ≠ fallbackWord) (value : String) (fields : List String) :
    ofRest (fields ++ [paramField key value]) = ofRest fields ++ [.param key value] := by
  rw [ofRest, Piece.read_append_param hkey hword, List.filterMap_append]
  rfl

namespace Command

/-! ## One more token -/

/-- The command with a key set to a value. -/
def withParam (c : Command) (key value : String) : Command :=
  { c with params := c.params.insert key value }

theorem Complete.withParam {c : Command} (h : c.Complete) (key value : String) :
    (c.withParam key value).Complete := by
  refine ⟨h.selector, fun k hk => ?_⟩
  have hhas := h.params k hk
  rw [Command.withParam, Params.get?_insert]
  split
  · rfl
  · exact hhas

/-- A parameter behind the tokens of a command is set in the command. -/
theorem ofTokens_append_param {tokens : List Token} {c : Command} (h : ofTokens tokens = .ok c)
    (key value : String) : ofTokens (tokens ++ [.param key value]) = .ok (c.withParam key value) := by
  obtain ⟨rest, rfl, hparams, hselector, hcomplete⟩ := ofTokens_eq_ok_iff.1 h
  refine ofTokens_eq_ok_iff.2 ⟨rest ++ [.param key value], rfl, ?_, ?_, hcomplete.withParam _ _⟩
  · rw [paramsOf_append, withParam, hparams]
    rfl
  · rw [selectorOf_append]
    show c.selector = ((rest.findSome? Token.selector?).or none).map Selector.ofChain
    rw [Option.or_none, hselector, selectorOf]

/-! ## One more parameter -/

theorem ofText_append_param {text : String} {c : Command} (h : ofText text = .ok (some c))
    (hclosed : Fields.HasClosedEnd text) {key : String} (hkey : IsFieldKey key)
    (hword : key ≠ fallbackWord) (value : String) :
    ofText (text ++ renderParam key value) = .ok (some (c.withParam key value)) := by
  have hsilent : ¬ Fields.IsSilent text := by
    rw [← ofText_eq_none_iff, h]
    simp
  obtain ⟨name, rest, _, hfields⟩ := Fields.exists_fields hsilent
  have hmore : Fields.ofLine (text ++ renderParam key value) =
      name :: (rest ++ [paramField key value]) := by
    have hchars : text ++ renderParam key value =
        .ofList (text.toList ++ ' ' :: (writtenParam (key, value)).1) := by
      rw [← String.toList_inj, String.toList_append, toList_renderParam (key, value),
        String.toList_ofList]
    rw [hchars, hclosed.ofLine_append hsilent (writes_writtenParam (key, value))
      (endsFirmly_writtenParam (key, value)), hfields, writtenParam, String.ofList_toList]
    rfl
  rw [ofText_eq_some_iff, Token.ofLine_of_fields hfields] at h
  rw [ofText_eq_some_iff, Token.ofLine_of_fields hmore, Token.ofRest_append_param hkey hword]
  exact ofTokens_append_param h key value

/-- **A parameter that is written behind a command sets this parameter and nothing else.** -/
theorem append_sets_param {text : String} {n : Nat} {c : Command}
    (hline : ofLine text n = .ok (some c)) (hclosed : Fields.HasClosedEnd text) {key : String}
    (hkey : IsFieldKey key) (hword : key ≠ fallbackWord) (value : String) (m : Nat) :
    ∃ c', ofLine (text ++ renderParam key value) m = .ok (some c') ∧
      c'.kind = c.kind ∧ c'.selector = c.selector ∧ c'.params.get? key = some value ∧
      ∀ other, other ≠ key → c'.params.get? other = c.params.get? other := by
  have htext := ofText_append_param (ofLine_eq_ok_iff.1 hline) hclosed hkey hword value
  refine ⟨c.withParam key value, ofLine_eq_ok_iff.2 htext, rfl, rfl, ?_, fun other hother => ?_⟩
  · rw [withParam, Params.get?_insert, if_pos rfl]
  · rw [withParam, Params.get?_insert, if_neg hother]

/-- Behind an escaped tab and the linking word, a value takes the place of an earlier one, and
the key and the value need quotes. -/
theorem append_sets_param_fill :
    ∃ c, ofLine "fill css=#a 'a b'=1 value=x\\\t fallback" 1 = .ok (some c) ∧
      ∃ c', ofLine ("fill css=#a 'a b'=1 value=x\\\t fallback" ++ renderParam "a b" "\"\\") 1 =
          .ok (some c') ∧
        c'.params.get? "a b" = some "\"\\" ∧ c'.params.get? "value" = some "x\t" ∧
        c'.selector = some (.plain ⟨.css, "#a"⟩) := by
  have hline : ofLine "fill css=#a 'a b'=1 value=x\\\t fallback" 1 =
      .ok (some ⟨.fill, .ofList [("a b", "1"), ("value", "x\t")],
        some ⟨⟨.css, "#a"⟩, []⟩⟩) := by decide +kernel
  have hclosed : Fields.HasClosedEnd "fill css=#a 'a b'=1 value=x\\\t fallback" :=
    ⟨by decide +kernel, by decide +kernel⟩
  have hkey : IsFieldKey "a b" := by decide
  obtain ⟨c', hc', _, hselector, hvalue, hother⟩ :=
    append_sets_param hline hclosed hkey (by decide) "\"\\" 1
  refine ⟨_, hline, c', hc', hvalue, ?_, hselector⟩
  rw [hother "value" (by decide)]
  simp [Params.ofList]

end Command

end BrowserScript
