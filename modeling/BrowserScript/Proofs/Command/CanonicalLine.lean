/-
# BrowserScript.Proofs.Command.CanonicalLine -- the fields of a canonical line

The canonical line of a command is its name and a row of written fields, a space before
each. A row is kept here as **pairs of what is written and the field meant**, so that
one list says both what the line looks like and what is read from it, and the two are
compared field by field. A locator is written as an assignment to the name of its
strategy; nothing else but the linking word occurs.

This holds of every command there is, also of those whose keys no line can have: the
fields are always read back, only their meaning may be another one.
-/
import BrowserScript.Canonical
import BrowserScript.Proofs.Fields.Written
import BrowserScript.Proofs.Token.Reading

namespace BrowserScript

open Fields (Writes EndsFirmly)
open Text (isWhite isSpecial quote quoteChars)

/-! ## Rows -/

/-- An assignment as it is written, and the field. -/
def writtenParam (p : String × String) : List Char × List Char :=
  (quoteChars p.1.toList ++ '=' :: quoteChars p.2.toList, (paramField p.1 p.2).toList)

/-- The linking word as it is written, and the field. -/
def writtenWord : List Char × List Char :=
  (fallbackWord.toList, fallbackWord.toList)

/-- A locator as an assignment. -/
def Locator.pair (l : Locator) : String × String :=
  (l.strategy.name, l.value)

/-- The characters of a row, a space before each of its fields. -/
def rowChars (row : List (List Char × List Char)) : List Char :=
  row.flatMap fun p => ' ' :: p.1

@[simp]
theorem rowChars_append (row row' : List (List Char × List Char)) :
    rowChars (row ++ row') = rowChars row ++ rowChars row' :=
  List.flatMap_append

theorem toList_paramField (key value : String) :
    (paramField key value).toList = key.toList ++ '=' :: value.toList := by
  simp [paramField]

theorem writes_writtenParam (p : String × String) :
    Writes (writtenParam p).1 (writtenParam p).2 := by
  rw [writtenParam, toList_paramField]
  exact Fields.writes_assignment p.1.toList p.2.toList

theorem writes_writtenWord : Writes writtenWord.1 writtenWord.2 :=
  Fields.writes_plain (by decide) (by decide)

theorem endsFirmly_writtenParam (p : String × String) : EndsFirmly (writtenParam p).1 :=
  Fields.endsFirmly_assignment p.1.toList p.2.toList

theorem endsFirmly_writtenWord : EndsFirmly writtenWord.1 :=
  Fields.endsFirmly_plain (by decide) (by decide)

/-- A word with a row after it ends firmly when the word and all fields do. -/
theorem endsFirmly_row {row : List (List Char × List Char)} (h : ∀ p ∈ row, EndsFirmly p.1)
    {word : List Char} (hword : EndsFirmly word) : EndsFirmly (word ++ rowChars row) := by
  induction row generalizing word with
  | nil => simpa [rowChars] using hword
  | cons p row ih =>
      have hp := (h p List.mem_cons_self).append (word ++ [' '])
      have hrow := ih (fun q hq => h q (List.mem_cons_of_mem p hq)) hp
      simpa [rowChars] using hrow

/-! ## The names of commands and strategies -/

theorem CommandKind.name_plain (k : CommandKind) : k.name.toList.any isSpecial = false := by
  cases k <;> decide

/-- A canonical name is no comment and is not trimmed away. -/
theorem CommandKind.name_head (k : CommandKind) :
    ∃ c cs, k.name.toList = c :: cs ∧ isWhite c = false ∧ c ≠ '#' := by
  cases k <;> exact ⟨_, _, rfl, by decide, by decide⟩

theorem CommandKind.name_toList_ne_nil (k : CommandKind) : k.name.toList ≠ [] := by
  obtain ⟨c, cs, h, _⟩ := k.name_head
  rw [h]
  exact List.cons_ne_nil c cs

theorem Strategy.name_plain (s : Strategy) : s.name.toList.any isSpecial = false := by
  cases s <;> decide

/-! ## Commands as rows -/

namespace Command

/-- The row of some parameters. -/
def paramRow (params : List (String × String)) : List (List Char × List Char) :=
  params.map writtenParam

/-- The row of the links of a selector, each with the linking word before it. -/
def linkRow (links : List Locator) : List (List Char × List Char) :=
  links.flatMap fun l => [writtenWord, writtenParam l.pair]

/-- The row of a selector, if there is one. -/
def selectorRow : Option Selector → List (List Char × List Char)
  | some s => writtenParam s.locator.pair :: linkRow (s.fallbacks.map (·.locator))
  | none => []

/-- The row of a command, which is all of its line but the name. -/
def row (c : Command) : List (List Char × List Char) :=
  paramRow c.leadingParams ++ selectorRow c.selector ++ paramRow c.trailingParams

/-- The fields of a selector. -/
def selectorFields : Option Selector → List String
  | some s => s.locator.text :: Piece.linkFields (s.fallbacks.map (·.locator))
  | none => []

/-- The fields that a command is written with, after its name. -/
def fields (c : Command) : List String :=
  c.leadingParams.map (fun p => paramField p.1 p.2) ++ selectorFields c.selector ++
    c.trailingParams.map fun p => paramField p.1 p.2

/-- Every field of the row of some parameters is a written assignment. -/
theorem mem_paramRow {params : List (String × String)} {p : List Char × List Char}
    (h : p ∈ paramRow params) : ∃ e, p = writtenParam e := by
  obtain ⟨e, _, rfl⟩ := List.mem_map.1 h
  exact ⟨e, rfl⟩

/-- Every field of the row of a selector is a written assignment or the linking word. -/
theorem mem_selectorRow {selector : Option Selector} {p : List Char × List Char}
    (h : p ∈ selectorRow selector) : p = writtenWord ∨ ∃ e, p = writtenParam e := by
  cases selector with
  | none => exact absurd h List.not_mem_nil
  | some s =>
      rw [selectorRow, List.mem_cons, linkRow, List.mem_flatMap] at h
      rcases h with rfl | ⟨l, _, h⟩
      · exact Or.inr ⟨_, rfl⟩
      · rcases List.mem_cons.1 h with rfl | h
        · exact Or.inl rfl
        · exact Or.inr ⟨_, List.mem_singleton.1 h⟩

/-- So is every field of the row of a command. -/
theorem mem_row {c : Command} {p : List Char × List Char} (h : p ∈ c.row) :
    p = writtenWord ∨ ∃ e, p = writtenParam e := by
  rw [row, List.mem_append, List.mem_append] at h
  rcases h with (h | h) | h
  · exact Or.inr (mem_paramRow h)
  · exact mem_selectorRow h
  · exact Or.inr (mem_paramRow h)

theorem writes_row (c : Command) : ∀ p ∈ c.row, Writes p.1 p.2 := by
  intro p hp
  rcases mem_row hp with rfl | ⟨e, rfl⟩
  · exact writes_writtenWord
  · exact writes_writtenParam e

theorem endsFirmly_of_mem_row (c : Command) : ∀ p ∈ c.row, EndsFirmly p.1 := by
  intro p hp
  rcases mem_row hp with rfl | ⟨e, rfl⟩
  · exact endsFirmly_writtenWord
  · exact endsFirmly_writtenParam e

/-- The fields that the row of a selector means are the fields of the selector. -/
theorem map_snd_selectorRow (selector : Option Selector) :
    (selectorRow selector).map Prod.snd = (selectorFields selector).map String.toList := by
  have hlinks : ∀ links, (linkRow links).map Prod.snd =
      (Piece.linkFields links).map String.toList := by
    intro links
    rw [linkRow, Piece.linkFields, List.map_flatMap, List.map_flatMap]
    rfl
  cases selector with
  | none => rfl
  | some s =>
      rw [selectorRow, selectorFields, List.map_cons, List.map_cons, hlinks]
      rfl

/-- The fields that a row means are the fields of the command. -/
theorem map_snd_row (c : Command) : c.row.map Prod.snd = c.fields.map String.toList := by
  have hparams : ∀ params, (paramRow params).map Prod.snd =
      (params.map fun p => paramField p.1 p.2).map String.toList := by
    intro params
    rw [paramRow, List.map_map, List.map_map]
    rfl
  rw [row, fields, List.map_append, List.map_append, List.map_append, List.map_append, hparams,
    hparams, map_snd_selectorRow]

/-! ## The canonical line -/

theorem toList_renderParam (p : String × String) :
    (renderParam p.1 p.2).toList = ' ' :: (writtenParam p).1 := by
  simp [renderParam, writtenParam, quote]

theorem toList_render_locator (l : Locator) : l.render.toList = (writtenParam l.pair).1 := by
  have hname : quoteChars l.strategy.name.toList = l.strategy.name.toList := by
    rw [quoteChars, l.strategy.name_plain]
    exact if_neg Bool.false_ne_true
  simp [Locator.render, Locator.pair, writtenParam, quote, hname]

theorem toList_join_params (params : List (String × String)) :
    (String.join (params.map fun p => renderParam p.1 p.2)).toList =
      rowChars (paramRow params) := by
  rw [String.toList_join, List.flatMap_map, paramRow, rowChars, List.flatMap_map]
  simp only [toList_renderParam]

theorem toList_render_selector (s : Selector) :
    (" " ++ s.render).toList = rowChars (selectorRow (some s)) := by
  have hlinks : (String.join (s.fallbacks.map fun f =>
      " " ++ fallbackWord ++ " " ++ f.locator.render)).toList =
      rowChars (linkRow (s.fallbacks.map (·.locator))) := by
    rw [String.toList_join, List.flatMap_map, linkRow, rowChars, List.flatMap_assoc,
      List.flatMap_map]
    simp [toList_render_locator, writtenWord]
  rw [Selector.render, String.toList_append, String.toList_append, hlinks, toList_render_locator]
  simp [selectorRow, rowChars]

/-- **A canonical line is a name and a row.** -/
theorem toList_render (c : Command) : c.render.toList = c.kind.name.toList ++ rowChars c.row := by
  obtain ⟨kind, params, selector⟩ := c
  cases selector with
  | none =>
      simp only [render, row, String.toList_append, toList_join_params, rowChars_append,
        List.append_assoc]
      rfl
  | some s =>
      simp only [render, row, String.toList_append, toList_join_params, rowChars_append,
        List.append_assoc, ← toList_render_selector]

/-- Nothing at the end of a canonical line is trimmed, and nothing put after it is escaped. -/
theorem endsFirmly_render (c : Command) : EndsFirmly c.render.toList := by
  rw [toList_render]
  exact endsFirmly_row c.endsFirmly_of_mem_row
    (Fields.endsFirmly_plain c.kind.name_toList_ne_nil c.kind.name_plain)

theorem render_head (c : Command) :
    ∃ d ds, c.render.toList = d :: ds ∧ isWhite d = false ∧ d ≠ '#' := by
  obtain ⟨d, ds, h, hd⟩ := c.kind.name_head
  exact ⟨d, ds ++ rowChars c.row, by rw [toList_render, h, List.cons_append], hd⟩

theorem trimmed_render (c : Command) : Fields.trimmed c.render = c.render.toList := by
  obtain ⟨d, ds, h, hd, _⟩ := c.render_head
  have hfirm := c.endsFirmly_render
  rw [h] at hfirm
  rw [← String.ofList_toList (s := c.render), String.toList_ofList, h,
    Fields.trimmed_of_endsFirmly hd hfirm]

/-- **The fields of a canonical line are the name and the fields of the command.** -/
theorem ofLine_render (c : Command) : Fields.ofLine c.render = c.kind.name :: c.fields := by
  have hscan : Fields.scan none false c.render.toList =
      c.kind.name.toList :: c.row.map Prod.snd := by
    rw [toList_render]
    exact Fields.scan_first_row
      (Fields.writes_plain c.kind.name_toList_ne_nil c.kind.name_plain) c.writes_row
  have hfields : (Fields.scan none false c.render.toList).map String.ofList =
      c.kind.name :: c.fields := by
    rw [hscan, map_snd_row, List.map_cons, List.map_map]
    simp
  obtain ⟨d, ds, h, _, hhash⟩ := c.render_head
  have htrimmed : Fields.trimmed c.render = d :: ds := by rw [trimmed_render, h]
  rw [Fields.ofLine_of_trimmed_cons htrimmed, if_neg hhash, ← h, hfields]

/-! ## The characters of a canonical line -/

theorem mem_of_mem_escape {x : Char} {value : List Char} (h : x ∈ Text.escape value) :
    x = '\\' ∨ x ∈ value := by
  induction value with
  | nil => exact Or.inr h
  | cons c cs ih =>
      rw [Text.escape] at h
      split at h
      · rcases List.mem_cons.1 h with rfl | h
        · exact Or.inl rfl
        · rcases List.mem_cons.1 h with rfl | h
          · exact Or.inr List.mem_cons_self
          · exact (ih h).imp_right (List.mem_cons_of_mem c)
      · rcases List.mem_cons.1 h with rfl | h
        · exact Or.inr List.mem_cons_self
        · exact (ih h).imp_right (List.mem_cons_of_mem c)

/-- Writing a value adds quotes and backslashes only. -/
theorem mem_of_mem_quoteChars {x : Char} {value : List Char} (h : x ∈ quoteChars value) :
    x = '"' ∨ x = '\\' ∨ x ∈ value := by
  rw [quoteChars] at h
  split at h
  · rw [List.cons_append, List.mem_cons, List.mem_append, List.mem_singleton] at h
    rcases h with h | h | h
    · exact Or.inl h
    · exact Or.inr (mem_of_mem_escape h)
    · exact Or.inl h
  · exact Or.inr (Or.inr h)

theorem mem_of_mem_writtenParam {x : Char} (hx : isWhite x = true) {p : String × String}
    (h : x ∈ (writtenParam p).1) : x ∈ (writtenParam p).2 := by
  have hvalue : ∀ value, x ∈ quoteChars value → x ∈ value := by
    intro value hmem
    rcases mem_of_mem_quoteChars hmem with rfl | rfl | hmem
    · exact absurd hx (by decide)
    · exact absurd hx (by decide)
    · exact hmem
  rw [writtenParam, List.mem_append, List.mem_cons] at h
  rw [writtenParam, toList_paramField, List.mem_append, List.mem_cons]
  exact h.imp (hvalue _) fun h => h.imp_right (hvalue _)

/-- **A white character of a canonical line that is no space stands in one of the fields.** -/
theorem mem_fields_of_mem_render {c : Command} {x : Char} (hx : isWhite x = true)
    (hspace : x ≠ ' ') (h : x ∈ c.render.toList) : ∃ f ∈ c.fields, x ∈ f.toList := by
  rw [toList_render, List.mem_append] at h
  rcases h with h | h
  · have hplain := List.any_eq_false.1 c.kind.name_plain x h
    exact absurd (by simp [isSpecial, hx]) hplain
  · -- in the row it is a space between fields, or it stands in what is written for one
    obtain ⟨p, hp, hmem⟩ := List.mem_flatMap.1 h
    have hfield : x ∈ p.2 := by
      have hx' := (List.mem_cons.1 hmem).resolve_left hspace
      rcases mem_row hp with rfl | ⟨e, rfl⟩
      · exact hx'
      · exact mem_of_mem_writtenParam hx hx'
    have hp' : p.2 ∈ c.fields.map String.toList := by
      rw [← map_snd_row]
      exact List.mem_map_of_mem hp
    obtain ⟨f, hf, hfp⟩ := List.mem_map.1 hp'
    exact ⟨f, hf, hfp ▸ hfield⟩

end Command

end BrowserScript
