/-
# BrowserScript.Proofs.Script.Formatting -- the lines of a formatted script

A script is formatted line by line, and each line becomes one line: what is written for
a command has **no line feed in it, is not empty, and does not end in a carriage
return**. So the formatted text is cut into the same lines again, each with the ending
it had, and the rest can be said about single lines.

A line in canonical form is read as the command that it was written for. Formatting it
once more changes nothing.
-/
import BrowserScript.Script.Format
import BrowserScript.Proofs.Command.RoundTrip
import BrowserScript.Proofs.Text.Lines

namespace BrowserScript

open Text (Line)

/-! ## Canonical lines as lines of a text -/

namespace Command

theorem render_toList_ne_nil (c : Command) : c.render.toList ≠ [] :=
  c.endsFirmly_render.ne_nil

/-- A carriage return after a canonical line is not part of it. -/
theorem render_getLast?_ne_return (c : Command) : c.render.toList.getLast? ≠ some '\r' :=
  c.endsFirmly_render.getLast?_ne (by decide)

theorem newline_not_mem_render {text : String} {c : Command} (h : ofText text = .ok (some c))
    (htext : '\n' ∉ text.toList) : '\n' ∉ c.render.toList := by
  intro hmem
  exact htext (mem_text_of_mem_render h (by decide) (by decide) hmem)

end Command

namespace Script

/-! ## One line -/

/-- The line that a line becomes: that of its command, with the ending it had, or the line
itself when it has no command. -/
def formatted (l : Line) : Line :=
  match Command.ofText l.body with
  | .ok (some command) => l.withBody command.render
  | _ => l

theorem formatted_of_command {l : Line} {c : Command} (h : Command.ofText l.body = .ok (some c)) :
    formatted l = l.withBody c.render := by
  simp only [formatted, h]

theorem formatted_of_no_command {l : Line} (h : ∀ c, Command.ofText l.body ≠ .ok (some c)) :
    formatted l = l := by
  unfold formatted
  split
  · rename_i c hc
    exact absurd hc (h c)
  · rfl

/-- Either a line has a command, and becomes the line of this command, or it stays. -/
theorem formatted_cases (l : Line) :
    (∃ c, Command.ofText l.body = .ok (some c) ∧ formatted l = l.withBody c.render) ∨
      (∀ c, Command.ofText l.body ≠ .ok (some c)) ∧ formatted l = l := by
  by_cases h : ∃ c, Command.ofText l.body = .ok (some c)
  · obtain ⟨c, hc⟩ := h
    exact Or.inl ⟨c, hc, formatted_of_command hc⟩
  · have hno : ∀ c, Command.ofText l.body ≠ .ok (some c) := fun c hc => h ⟨c, hc⟩
    exact Or.inr ⟨hno, formatted_of_no_command hno⟩

theorem toList_formatLine (l : Line) : (formatLine l).toList = (formatted l).full := by
  unfold formatLine
  split
  · rename_i c hc
    rw [formatted_of_command hc, ← Line.full_withBody, String.toList_ofList]
  · rename_i hno
    rw [formatted_of_no_command hno, String.toList_ofList]

theorem formatted_ended (l : Line) : (formatted l).ended = l.ended := by
  obtain ⟨c, _, h⟩ | ⟨_, h⟩ := formatted_cases l
  · rw [h]
    rfl
  · rw [h]

theorem ending_formatted (l : Line) : (formatted l).ending = l.ending := by
  obtain ⟨c, _, h⟩ | ⟨_, h⟩ := formatted_cases l
  · rw [h, Line.ending_withBody c.render_getLast?_ne_return]
  · rw [h]

theorem newline_not_mem_formatted (l : Line) (h : '\n' ∉ l.chars) : '\n' ∉ (formatted l).chars := by
  obtain ⟨c, hc, hl⟩ | ⟨_, hl⟩ := formatted_cases l
  · -- the body is a part of the line, and what is written for it has its characters
    have hrender := Command.newline_not_mem_render hc (Line.newline_not_mem_body h)
    rw [hl, Line.withBody, List.mem_append, not_or]
    refine ⟨hrender, ?_⟩
    split <;> decide
  · rw [hl]
    exact h

theorem formatted_chars_ne_nil (l : Line) (h : l.chars ≠ []) : (formatted l).chars ≠ [] := by
  obtain ⟨c, _, hl⟩ | ⟨_, hl⟩ := formatted_cases l
  · rw [hl, Line.withBody]
    exact List.append_ne_nil_of_left_ne_nil c.render_toList_ne_nil _
  · rw [hl]
    exact h

/-- **A formatted line is read as the line was read.** -/
theorem ofText_body_formatted (l : Line) :
    Command.ofText (formatted l).body = Command.ofText l.body := by
  obtain ⟨c, hc, h⟩ | ⟨_, h⟩ := formatted_cases l
  · rw [h, Line.body_withBody c.render_getLast?_ne_return, hc, Command.ofText_render_of_ofText hc]
  · rw [h]

theorem formatted_formatted (l : Line) : formatted (formatted l) = formatted l := by
  obtain ⟨c, hc, h⟩ | ⟨_, h⟩ := formatted_cases l
  · have hagain : Command.ofText (formatted l).body = .ok (some c) := by
      rw [ofText_body_formatted, hc]
    rw [formatted_of_command hagain, h, Line.withBody_withBody l c.render_getLast?_ne_return]
  · rw [h, h]

/-! ## The whole text -/

theorem toList_format (source : String) :
    (format source).toList = ((Line.cut source).map formatted).flatMap Line.full := by
  rw [format, String.toList_join, List.flatMap_map, List.flatMap_map]
  simp only [toList_formatLine]

/-- **The lines of a formatted script are the lines of the script, each formatted.** No line
is made, joined to another or lost. -/
theorem cut_format (source : String) :
    Line.cut (format source) = (Line.cut source).map formatted := by
  -- no line feed comes in, none goes, and no line becomes empty
  have hcut : Line.WellCut ((Line.cut source).map formatted) :=
    (Line.wellCut_cut source).map formatted newline_not_mem_formatted formatted_ended
      formatted_chars_ne_nil
  rw [← String.ofList_toList (s := format source), toList_format,
    Line.cut_ofList_flatMap_full hcut]

/-- **A text is in canonical form when each of its lines is.** -/
theorem format_eq_self_iff {source : String} :
    format source = source ↔ ∀ l ∈ Line.cut source, formatted l = l := by
  constructor
  · intro h l hl
    have hcut : (Line.cut source).map formatted = (Line.cut source).map id := by
      rw [← cut_format, h, List.map_id]
    exact List.map_inj_left.1 hcut l hl
  · intro h
    apply Line.eq_of_cut_eq
    rw [cut_format, List.map_congr_left h, List.map_id']

/-- Every line of a formatted text is in canonical form. -/
theorem formatted_of_mem_cut_format {source : String} {l : Line}
    (hl : l ∈ Line.cut (format source)) : formatted l = l := by
  rw [cut_format] at hl
  obtain ⟨m, _, rfl⟩ := List.mem_map.1 hl
  exact formatted_formatted m

/-- **Formatting is idempotent**, on every text. -/
theorem format_format (source : String) : format (format source) = format source := by
  rw [← String.toList_inj, toList_format, cut_format, toList_format, List.map_map]
  have hline : formatted ∘ formatted = formatted := by
    funext l
    rw [Function.comp_apply, formatted_formatted]
  rw [hline]

end Script

end BrowserScript
