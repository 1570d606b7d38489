/-
# BrowserScript.Proofs.CommandLine.StepList -- how steps are listed

The steps of a script are listed one after the other in the order of their lines. Here it is
written down for each format **what stands in the list for a step**: its line, the name of its
command, and what it says of the selector and the parameters. The lists for people have these in
four columns; nothing that is read from a script has a cell of several lines, so that in a table
each step has one row.
-/
import BrowserScript.CommandLine.Show
import BrowserScript.Proofs.Listing.Layout
import BrowserScript.Proofs.Script.Formatting
import BrowserScript.Proofs.Script.Lossless
import BrowserScript.Proofs.Script.Reading

namespace BrowserScript

/-! ## Cells of one line -/

namespace Text.Line

theorem newline_not_mem_content {l : Line} (h : '\n' ∉ l.chars) : '\n' ∉ l.content.toList := by
  rw [content]
  split
  · exact newline_not_mem_body h
  · rwa [String.toList_ofList]

end Text.Line

namespace Command

/-- A selector is written in the canonical line of its command. -/
theorem newline_not_mem_selector {text : String} {c : Command} (h : ofText text = .ok (some c))
    (htext : '\n' ∉ text.toList) {s : Selector} (hs : c.selector = some s) :
    '\n' ∉ s.render.toList := by
  have hline := newline_not_mem_render h htext
  simp only [render, hs, String.toList_append, List.mem_append, not_or] at hline
  exact hline.1.2.2

/-- A parameter stands in a field of the text. -/
theorem newline_not_mem_param {text : String} {c : Command} (h : ofText text = .ok (some c))
    (htext : '\n' ∉ text.toList) {e : String × String} (he : e ∈ c.params.entries) :
    '\n' ∉ e.1.toList ∧ '\n' ∉ e.2.toList := by
  have hfield := (paramField_mem_ofLine h he).2
  have hchars : '\n' ∉ (paramField e.1 e.2).toList := fun hmem =>
    htext (Fields.mem_of_mem_ofLine hfield hmem)
  rw [toList_paramField, List.mem_append, List.mem_cons, not_or, not_or] at hchars
  exact ⟨hchars.1, hchars.2.2⟩

end Command

/-- A step of a script is read from a text of one line. -/
theorem Script.exists_text_of_mem_steps {source : String} {s : Script}
    (h : parse source .skip = .ok s) {step : Step} (hstep : step ∈ s.steps) :
    ∃ text, '\n' ∉ text.toList ∧ Command.ofText text = .ok (some step.command) := by
  rw [parse, ofLines_skip] at h
  obtain rfl := Except.ok.inj h
  obtain ⟨k, text, htext, _, hcommand⟩ := mem_steps_iff.1 hstep
  obtain ⟨l, hl, rfl⟩ := List.mem_map.1 (List.mem_of_getElem? htext)
  exact ⟨l.content,
    Text.Line.newline_not_mem_content (Text.Line.newline_not_mem_of_mem_cut hl), hcommand⟩

namespace CommandLine

open Listing (Column HasMembers IsPlainName jsonItem jsonList yamlItem yamlList plainText)

/-! ## Columns -/

/-- The columns that steps are listed in. -/
def stepColumns : List (Column Step) :=
  [⟨"Line", fun s => toString s.line⟩,
   ⟨"Command", fun s => s.command.kind.name⟩,
   ⟨"Selector", fun s => (s.command.selector.map Selector.render).getD "-"⟩,
   ⟨"Params", fun s =>
      String.intercalate " " (s.command.params.entries.map fun p => p.1 ++ "=" ++ p.2)⟩]

theorem hasColumns_step : Listing.HasColumns Step stepColumns where
  headers := rfl
  cells _ := rfl
  isLine := ⟨List.cons_ne_nil _ _, by decide⟩

theorem newline_not_mem_name (k : CommandKind) : '\n' ∉ k.name.toList := by
  cases k <;> decide

/-- **No cell of a step that is read from a script has several lines.** -/
theorem newline_not_mem_cells {source : String} {s : Script}
    (h : Script.parse source .skip = .ok s) :
    ∀ step ∈ s.steps, ∀ c ∈ stepColumns, '\n' ∉ (c.cell step).toList := by
  intro step hstep
  obtain ⟨text, htext, hcommand⟩ := Script.exists_text_of_mem_steps h hstep
  have hline : '\n' ∉ (toString step.line).toList := by
    intro hmem
    exact absurd (Value.toList_toString_isDigit step.line _ hmem) (by decide)
  have hselector : '\n' ∉ ((step.command.selector.map Selector.render).getD "-").toList := by
    cases hs : step.command.selector with
    | none => decide
    | some selector => exact Command.newline_not_mem_selector hcommand htext hs
  have hparams : '\n' ∉ (String.intercalate " "
      (step.command.params.entries.map fun p => p.1 ++ "=" ++ p.2)).toList := by
    apply Listing.not_mem_intercalate (by decide)
    intro part hpart
    obtain ⟨p, hp, rfl⟩ := List.mem_map.1 hpart
    obtain ⟨hkey, hvalue⟩ := Command.newline_not_mem_param hcommand htext hp
    simp [hkey, hvalue]
  simp only [stepColumns, List.forall_mem_cons]
  exact ⟨hline, newline_not_mem_name _, hselector, hparams, nofun⟩

/-! ## Steps in each format -/

/-- A step in a JSON list. -/
def stepJson (s : Step) : String :=
  jsonItem [("line", toString s.line), ("type", "\"" ++ s.command.kind.name ++ "\""),
    ("params", s.command.params.toValue.toJsonAt 2),
    ("selector", ((s.command.selector.map Selector.toValue).getD .null).toJsonAt 2)]

/-- A step in a YAML list. -/
def stepYaml (s : Step) : String :=
  yamlItem [("line", " " ++ toString s.line ++ "\n"),
    ("type", " " ++ s.command.kind.name ++ "\n"),
    ("params", s.command.params.toValue.yamlBehind true 2),
    ("selector", ((s.command.selector.map Selector.toValue).getD .null).yamlBehind true 2)]

/-- Steps as they are listed in a format. -/
def stepList (format : ListFormat) (steps : List Step) : String :=
  match format with
  | .table => if steps = [] then "No items found.\n" else Listing.table stepColumns steps
  | .plain => String.intercalate "---\n" (steps.map (plainText stepColumns))
  | .json => jsonList (steps.map stepJson)
  | .yaml => yamlList (steps.map stepYaml)

/-- The members of a step as a record: its line, in front of those of its command. -/
def stepMembers (s : Step) : List (String × Value) :=
  [("line", .natural s.line), ("type", .text s.command.kind.name),
    ("params", s.command.params.toValue),
    ("selector", (s.command.selector.map Selector.toValue).getD .null)]

theorem isPlainName_step : ∀ name ∈ ["line", "type", "params", "selector"], IsPlainName name := by
  decide +kernel

theorem hasMembers_step : HasMembers Step stepMembers where
  value _ := rfl
  ne_nil _ := List.cons_ne_nil _ _
  names _ m hm := isPlainName_step m.1 (List.mem_map_of_mem hm)

/-- The names of commands need no escapes. -/
theorem jsonString_name (k : CommandKind) : Value.jsonString k.name = "\"" ++ k.name ++ "\"" := by
  cases k <;> decide +kernel

/-- The names of commands spell nothing else. -/
theorem scalarLine_name (k : CommandKind) : Value.Yaml.scalarLine 4 k.name = k.name ++ "\n" := by
  cases k <;> decide +kernel

theorem render_json_steps (steps : List Step) :
    Listing.render .json steps = stepList .json steps := by
  rw [Listing.render_json_members hasMembers_step, stepList, List.map_congr_left]
  intro s _
  simp only [stepMembers, stepJson, List.map_cons, List.map_nil, Value.toJsonAt, Value.natural,
    Decimal.render_ofNat, jsonString_name]

theorem render_yaml_steps (steps : List Step) :
    Listing.render .yaml steps = stepList .yaml steps := by
  rw [Listing.render_yaml_members hasMembers_step, stepList, List.map_congr_left]
  intro s _
  simp only [stepMembers, stepYaml, List.map_cons, List.map_nil, Value.yamlBehind, Value.leafLine,
    Value.natural, Decimal.render_ofNat, Nat.reduceAdd, scalarLine_name, String.append_assoc]

/-- **In every format each step of a script has its text in the list**, in order. -/
theorem render_steps {source : String} {s : Script} (h : Script.parse source .skip = .ok s)
    (format : ListFormat) : Listing.render format s.steps = stepList format s.steps := by
  cases format with
  | table => exact Listing.render_table hasColumns_step (newline_not_mem_cells h)
  | json => exact render_json_steps s.steps
  | yaml => exact render_yaml_steps s.steps
  | plain => exact Listing.render_plain hasColumns_step s.steps

/-- **A JSON list tells the steps**, whatever stands in them. -/
theorem stepList_json_injective : Function.Injective (stepList .json) := by
  intro steps steps' h
  have hvalue : Function.Injective (Listed.value : Step → Value) := by
    rintro ⟨line, command⟩ ⟨line', command'⟩ hsame
    obtain ⟨hline, hmembers⟩ := List.cons.inj (Value.record.inj hsame)
    obtain rfl := Command.toValue_injective (congrArg Value.record hmembers)
    simpa [Value.natural, Decimal.ofNat] using hline
  rw [← render_json_steps, ← render_json_steps, Listing.render_json_inj] at h
  exact List.map_injective_iff.2 hvalue h

end CommandLine

end BrowserScript
