/-
# BrowserScript.Proofs.Token.Image -- the rows of tokens that lines have

Which rows of tokens does the reading of lines yield? The empty one, for the silent
lines, and otherwise **every** row that begins with a name, provided that the name is
not an older spelling, which would have been replaced, and that each token after it is a
selector or a parameter with a field key. Nothing else is asked: the name may be empty or
begin with a hash sign, values are arbitrary, chains have any length.

For the second half a line is written down for such a row. Two devices make this work
without regard to what stands next to what. The name goes in quotes, so that the line is
no comment; and **an empty field stands before every token**, which is set aside and ends
the selector before it, so that not even a parameter whose key is the linking word can
become a link.
-/
import BrowserScript.Proofs.Command.CanonicalLine
import BrowserScript.Proofs.Command.Building
import BrowserScript.Proofs.Fields.Silent

namespace BrowserScript

open Fields (Writes EndsFirmly)
open Text (isWhite escape)

/-! ## What the reading yields -/

/-- A name that is replaced by a canonical one. -/
def CommandKind.IsAlias (name : String) : Prop :=
  ∃ kind, (name, kind) ∈ aliases

/-- A token that can stand after the name. -/
def Token.FollowsName : Token → Prop
  | .command _ => False
  | .selector _ => True
  | .param key _ => IsFieldKey key

namespace CommandKind

theorem lookup_aliases_eq_none_iff {name : String} :
    aliases.lookup name = none ↔ ¬ IsAlias name := by
  rw [List.lookup_eq_none_iff, IsAlias]
  constructor
  · rintro h ⟨kind, hmem⟩
    exact absurd (h _ hmem) (by simp)
  · rintro h ⟨older, kind⟩ hmem
    rw [bne_iff_ne]
    rintro rfl
    exact h ⟨kind, hmem⟩

theorem resolveAlias_of_not_isAlias {name : String} (h : ¬ IsAlias name) :
    resolveAlias name = name := by
  rw [resolveAlias, lookup_aliases_eq_none_iff.2 h]

/-- Resolving yields no name that would have to be resolved again. -/
theorem not_isAlias_resolveAlias (name : String) : ¬ IsAlias (resolveAlias name) := by
  have hcanonical : ∀ kind : CommandKind, aliases.lookup kind.name = none := by
    intro kind
    cases kind <;> decide
  rw [← lookup_aliases_eq_none_iff, resolveAlias]
  cases h : aliases.lookup name with
  | none => exact h
  | some kind => exact hcanonical kind

end CommandKind

namespace Token

theorem followsName_of_mem_ofRest {t : Token} {fields : List String} (h : t ∈ ofRest fields) :
    t.FollowsName := by
  have hpiece := pieceOf_of_mem_ofRest h
  cases t with
  | command name => exact hpiece
  | selector chain => exact trivial
  | param key value => exact hpiece.1

/-! ## A line for a row of tokens -/

/-- A text in quotes, and the field that it is. -/
def writtenQuotes (field : String) : List Char × List Char :=
  ('"' :: escape field.toList ++ ['"'], field.toList)

/-- What is written for a token after the name: an empty field, and the token. -/
def row : Token → List (List Char × List Char)
  | .command _ => []
  | .selector chain => writtenQuotes "" :: Command.selectorRow (some (.ofChain chain))
  | .param key value => [writtenQuotes "", writtenParam (key, value)]

/-- The fields that are meant by it. -/
def fields : Token → List String
  | .command _ => []
  | .selector chain => "" :: Command.selectorFields (some (.ofChain chain))
  | .param key value => ["", paramField key value]

/-- A line with a name and these tokens. -/
def line (name : String) (tokens : List Token) : String :=
  .ofList ((writtenQuotes name).1 ++ rowChars (tokens.flatMap row))

theorem mem_row {t : Token} {p : List Char × List Char} (h : p ∈ t.row) :
    p = writtenQuotes "" ∨ p = writtenWord ∨ ∃ e, p = writtenParam e := by
  cases t with
  | command name => exact absurd h List.not_mem_nil
  | selector chain => exact (List.mem_cons.1 h).imp_right Command.mem_selectorRow
  | param key value =>
      refine (List.mem_cons.1 h).imp_right fun h => Or.inr ⟨(key, value), ?_⟩
      exact List.mem_singleton.1 h

theorem map_snd_row (t : Token) : t.row.map Prod.snd = t.fields.map String.toList := by
  cases t with
  | command name => rfl
  | selector chain =>
      rw [row, fields, List.map_cons, List.map_cons, Command.map_snd_selectorRow]
      rfl
  | param key value => rfl

theorem writes_of_mem_row {t : Token} {p : List Char × List Char} (h : p ∈ t.row) :
    Writes p.1 p.2 := by
  rcases mem_row h with rfl | rfl | ⟨e, rfl⟩
  · exact Fields.writes_quotes _
  · exact writes_writtenWord
  · exact writes_writtenParam e

theorem endsFirmly_of_mem_row {t : Token} {p : List Char × List Char} (h : p ∈ t.row) :
    EndsFirmly p.1 := by
  rcases mem_row h with rfl | rfl | ⟨e, rfl⟩
  · exact Fields.endsFirmly_quotes _
  · exact endsFirmly_writtenWord
  · exact endsFirmly_writtenParam e

/-- **The fields of the line are the name and the fields of the tokens**, whatever these
are. -/
theorem ofLine_line (name : String) (tokens : List Token) :
    Fields.ofLine (line name tokens) = name :: tokens.flatMap fields := by
  have hwrites : ∀ p ∈ tokens.flatMap row, Writes p.1 p.2 := by
    intro p hp
    obtain ⟨t, _, hpt⟩ := List.mem_flatMap.1 hp
    exact writes_of_mem_row hpt
  have hfirm : EndsFirmly ((writtenQuotes name).1 ++ rowChars (tokens.flatMap row)) := by
    refine endsFirmly_row (fun p hp => ?_) (Fields.endsFirmly_quotes _)
    obtain ⟨t, _, hpt⟩ := List.mem_flatMap.1 hp
    exact endsFirmly_of_mem_row hpt
  have hscan : Fields.scan none false ((writtenQuotes name).1 ++ rowChars (tokens.flatMap row)) =
      name.toList :: (tokens.flatMap row).map Prod.snd :=
    Fields.scan_first_row (Fields.writes_quotes name.toList) hwrites
  have hfields : (tokens.flatMap row).map Prod.snd = (tokens.flatMap fields).map String.toList := by
    simp only [List.map_flatMap, map_snd_row]
  -- the line begins with a quote mark, which is neither trimmed nor a hash sign
  have htrimmed : Fields.trimmed (line name tokens) =
      '"' :: (escape name.toList ++ ['"'] ++ rowChars (tokens.flatMap row)) :=
    Fields.trimmed_of_endsFirmly (by decide) hfirm
  rw [Fields.ofLine_of_trimmed_cons htrimmed, if_neg (by decide)]
  have hmap := congrArg (List.map String.ofList) hscan
  rw [hfields, List.map_cons, List.map_map, String.ofList_toList] at hmap
  simpa [writtenQuotes, Function.comp_def] using hmap

/-! ## The tokens of the line -/

/-- An empty field is set aside and ends the selector before it. -/
theorem read_empty (linking : Bool) (rest : List String) :
    Piece.read linking ("" :: rest) = ([], .ignored "" :: (Piece.read false rest).2) := by
  cases linking with
  | false => exact Piece.read_alone (by decide) rest
  | true => exact Piece.read_after (by decide) (by decide) (by decide) rest

/-- **Tokens are read back from their fields**, each without regard to the ones around it. -/
theorem read_fields {tokens : List Token} (h : ∀ t ∈ tokens, t.FollowsName) (linking : Bool) :
    (Piece.read linking (tokens.flatMap fields)).1 = [] ∧
      (Piece.read linking (tokens.flatMap fields)).2.filterMap Piece.token? = tokens := by
  induction tokens generalizing linking with
  | nil => exact ⟨rfl, rfl⟩
  | cons t tokens ih =>
      have ht := h t List.mem_cons_self
      have hrest := ih fun u hu => h u (List.mem_cons_of_mem t hu)
      rw [List.flatMap_cons]
      cases t with
      | command name => exact absurd ht not_false
      | selector chain =>
          obtain ⟨l, links, rfl⟩ := chain.exists_eq_link
          obtain ⟨hnone, htokens⟩ := hrest true
          have hlinks : (links.map Selector.plain).map (·.locator) = links := by
            rw [List.map_map]
            exact List.map_id links
          rw [fields, Selector.ofChain_link, Command.selectorFields, hlinks, List.cons_append,
            List.cons_append, read_empty, Piece.read_locator l.ofField?_text,
            Piece.read_linkFields, hnone, List.append_nil]
          refine ⟨rfl, ?_⟩
          simp only [List.filterMap_cons, Piece.token?, htokens]
      | param key value =>
          obtain ⟨_, htokens⟩ := hrest false
          rw [fields, List.cons_append, List.singleton_append, read_empty,
            Piece.read_alone (Locator.ofField?_paramField ht value), Piece.ofRest_paramField ht]
          refine ⟨rfl, ?_⟩
          simp only [List.filterMap_cons, Piece.token?, htokens]

theorem ofLine_line_tokens {name : String} (hname : ¬ CommandKind.IsAlias name)
    {tokens : List Token} (h : ∀ t ∈ tokens, t.FollowsName) :
    ofLine (line name tokens) = .command name :: tokens := by
  rw [ofLine_of_fields (ofLine_line name tokens), CommandKind.resolveAlias_of_not_isAlias hname,
    ofRest, (read_fields h false).2]

/-- **The rows of tokens that lines have**: none at all, or a name in no older spelling, and
then any selectors and any parameters with field keys, in any order. -/
theorem exists_ofLine_eq_iff (tokens : List Token) :
    (∃ line, ofLine line = tokens) ↔
      tokens = [] ∨ ∃ name rest, tokens = .command name :: rest ∧ ¬ CommandKind.IsAlias name ∧
        ∀ t ∈ rest, t.FollowsName := by
  constructor
  · rintro ⟨text, rfl⟩
    cases hfields : Fields.ofLine text with
    | nil =>
        left
        rw [ofLine, hfields]
        rfl
    | cons name rest =>
        right
        exact ⟨_, _, ofLine_of_fields hfields, CommandKind.not_isAlias_resolveAlias name,
          fun t ht => followsName_of_mem_ofRest ht⟩
  · rintro (rfl | ⟨name, rest, rfl, hname, hrest⟩)
    · exact ⟨"", rfl⟩
    · exact ⟨line name rest, ofLine_line_tokens hname hrest⟩

/-- What is a link right after a selector is a parameter after an empty field. -/
example :
    ofLine "click css=#a fallback=text=A" =
        [.command "click", .selector (.link ⟨.css, "#a"⟩ [⟨.text, "A"⟩])] ∧
      ofLine "click css=#a \"\" fallback=text=A" =
        [.command "click", .selector (.last ⟨.css, "#a"⟩), .param "fallback" "text=A"] := by
  decide +kernel

end Token

end BrowserScript
