/-
# BrowserScript.Proofs.Script.FinalReturn -- two readings of the last line

A script is read by the `content` of its lines and formatted by their `body`. The two
are different texts on one line only, a last line that no line feed ends and that has
a carriage return at its end, and even there the return is white and is trimmed. What
remains is a return that is **escaped**: an odd number of backslashes stands before
it, so it belongs to the last field for one reading and is gone for the other.

Every other text is read the same before and after it is formatted.
-/
import BrowserScript.Proofs.Fields.Trimming
import BrowserScript.Proofs.Script.Formatting
import BrowserScript.Proofs.Script.Reading

namespace BrowserScript

open Text (Line)

/-! ## Escaped returns -/

namespace Fields

/-- The last character is a carriage return, and an odd number of backslashes stands
before it. -/
def EndsInEscapedReturn (cs : List Char) : Prop :=
  cs.getLast? = some '\r' ∧ trailingBackslashes cs.dropLast % 2 = 1

instance (cs : List Char) : Decidable (EndsInEscapedReturn cs) :=
  inferInstanceAs (Decidable (_ ∧ _))

theorem endsInEscapedReturn_concat (cs : List Char) :
    EndsInEscapedReturn (cs ++ ['\r']) ↔ trailingBackslashes cs % 2 = 1 := by
  rw [EndsInEscapedReturn, List.getLast?_concat, List.dropLast_concat]
  exact and_iff_right rfl

/-- The backslash right before the return is the one that escapes it. -/
theorem EndsInEscapedReturn.exists_eq {cs : List Char} (h : EndsInEscapedReturn cs) :
    ∃ ds, cs = ds ++ ['\\', '\r'] ∧ trailingBackslashes ds % 2 = 0 := by
  obtain ⟨hlast, hodd⟩ := h
  obtain ⟨es, rfl⟩ := List.getLast?_eq_some_iff.1 hlast
  rw [List.dropLast_concat] at hodd
  obtain ⟨ds, rfl, heven⟩ := exists_eq_of_trailingBackslashes_odd hodd
  exact ⟨ds, by rw [List.append_assoc, List.singleton_append], heven⟩

/-- What stands before a text does not decide whether its return is escaped, unless it
ends in backslashes. -/
theorem EndsInEscapedReturn.append {cs before : List Char} (h : EndsInEscapedReturn cs)
    (hbefore : trailingBackslashes before = 0) : EndsInEscapedReturn (before ++ cs) := by
  obtain ⟨hlast, hodd⟩ := h
  obtain ⟨ds, rfl⟩ := List.getLast?_eq_some_iff.1 hlast
  rw [List.dropLast_concat] at hodd
  rw [← List.append_assoc, endsInEscapedReturn_concat, trailingBackslashes_append hbefore]
  exact hodd

/-- **A return that is not escaped is trimmed**, so dropping it makes no difference. -/
theorem trimmed_dropReturn {cs : List Char} (h : ¬ EndsInEscapedReturn cs) :
    trimmed (.ofList (Line.dropReturn cs)) = trimmed (.ofList cs) := by
  by_cases hlast : cs.getLast? = some '\r'
  · obtain ⟨ds, rfl⟩ := List.getLast?_eq_some_iff.1 hlast
    rw [endsInEscapedReturn_concat] at h
    have heven : trailingBackslashes ds % 2 = 0 := by omega
    have hwhite : ∀ w ∈ ['\r'], Text.isWhite w = true := List.forall_mem_singleton.2 (by decide)
    rw [Line.dropReturn_append_return, trimmed_append_white hwhite heven]
  · rw [Line.dropReturn_of_ne hlast]

end Fields

/-! ## One line -/

namespace Command

/-- A line is read by what is left of it when it is trimmed. -/
theorem ofText_congr {text text' : String} (h : Fields.trimmed text = Fields.trimmed text') :
    ofText text = ofText text' := by
  rw [ofText, ofText, Token.ofLine, Token.ofLine, Fields.ofLine_congr h]

end Command

namespace Script

/-- The line ends in an escaped return, and no line feed follows. -/
def EscapesReturn (l : Line) : Prop :=
  l.ended = false ∧ Fields.EndsInEscapedReturn l.chars

/-- Of an escaped return the reading has the return, and the formatting the backslash. -/
theorem EscapesReturn.exists_eq {l : Line} (h : EscapesReturn l) :
    ∃ cs, l.content = .ofList (cs ++ ['\\', '\r']) ∧ l.body = .ofList (cs ++ ['\\']) ∧
      Fields.trailingBackslashes cs % 2 = 0 := by
  obtain ⟨hended, hescaped⟩ := h
  obtain ⟨cs, hchars, heven⟩ := hescaped.exists_eq
  refine ⟨cs, ?_, ?_, heven⟩
  · rw [Line.content, hended, if_neg Bool.false_ne_true, hchars]
  · have hreturn : cs ++ ['\\', '\r'] = cs ++ ['\\'] ++ ['\r'] := by
      rw [List.append_assoc, List.singleton_append]
    rw [Line.body, hchars, hreturn, Line.dropReturn_append_return]

/-- **The reading and the formatting of a script see the same command on a line** that does
not end in an escaped return. -/
theorem ofText_content {l : Line} (h : ¬ EscapesReturn l) :
    Command.ofText l.content = Command.ofText l.body := by
  cases hended : l.ended with
  | true => rw [Line.content, hended, if_pos rfl, Line.body]
  | false =>
      have hfree : ¬ Fields.EndsInEscapedReturn l.chars := fun hescaped => h ⟨hended, hescaped⟩
      rw [Line.content, hended, if_neg Bool.false_ne_true, Line.body]
      exact (Command.ofText_congr (Fields.trimmed_dropReturn hfree)).symm

/-- The line of a command does not end in an escaped return: there is no backslash at the
end of a canonical line. -/
theorem not_escapesReturn_withBody (l : Line) (c : Command) :
    ¬ EscapesReturn (l.withBody c.render) := by
  rintro ⟨_, hlast, hodd⟩
  have hzero := c.endsFirmly_render.trailingBackslashes
  rw [Line.withBody] at hlast hodd
  -- a return at the end belongs to the ending, and the canonical line stands before it
  split at hlast
  · rename_i hreturn
    rw [if_pos hreturn, List.dropLast_concat, hzero] at hodd
    omega
  · rw [List.append_nil] at hlast
    exact c.render_getLast?_ne_return hlast

/-- A line in canonical form is read, at last, as it was formatted. -/
theorem ofText_content_withBody (l : Line) (c : Command) :
    Command.ofText (l.withBody c.render).content = Command.ofText c.render := by
  rw [ofText_content (not_escapesReturn_withBody l c),
    Line.body_withBody c.render_getLast?_ne_return]

/-- A line is read the same before and after it is formatted. -/
theorem ofText_content_formatted {l : Line} (h : ¬ EscapesReturn l) :
    Command.ofText (formatted l).content = Command.ofText l.content := by
  obtain ⟨c, hc, hl⟩ | ⟨_, hl⟩ := formatted_cases l
  · rw [hl, ofText_content_withBody, ofText_content h, hc, Command.ofText_render_of_ofText hc]
  · rw [hl]

/-! ## The whole text -/

theorem trailingBackslashes_flatMap_full {ls : List Line} (h : ∀ l ∈ ls, l.ended = true) :
    Fields.trailingBackslashes (ls.flatMap Line.full) = 0 := by
  cases ls using List.reverseRecOn with
  | nil => rfl
  | append_singleton ls l =>
      have hended : l.ended = true := h l (List.mem_append_right ls List.mem_cons_self)
      have hfull : l.full = l.chars ++ ['\n'] := by rw [Line.full, hended, if_pos rfl]
      rw [List.flatMap_append, List.flatMap_singleton, hfull, ← List.append_assoc,
        Fields.trailingBackslashes_concat]
      exact if_neg (by decide)

/-- A line of a text that ends in an escaped return is the end of the text. -/
theorem endsInEscapedReturn_of_mem_cut {source : String} {l : Line} (hl : l ∈ Line.cut source)
    (h : EscapesReturn l) : Fields.EndsInEscapedReturn source.toList := by
  obtain ⟨hended, hescaped⟩ := h
  obtain ⟨before, hcut, hbefore⟩ := (Line.wellCut_cut source).eq_concat_of_not_ended hl hended
  have hfull : l.full = l.chars := by
    rw [Line.full, hended, if_neg Bool.false_ne_true, List.append_nil]
  -- the lines before it end in line feeds, so they leave the run of backslashes alone
  rw [← Line.flatMap_full_cut, hcut, List.flatMap_append, List.flatMap_singleton, hfull]
  exact hescaped.append (trailingBackslashes_flatMap_full hbefore)

/-- The lines of a formatted script are read like those of the script. -/
theorem map_ofText_lines_format {source : String}
    (h : ¬ Fields.EndsInEscapedReturn source.toList) :
    (lines (format source)).map Command.ofText = (lines source).map Command.ofText := by
  rw [lines, lines, cut_format]
  simp only [List.map_map]
  apply List.map_congr_left
  intro l hl
  simp only [Function.comp_apply]
  exact ofText_content_formatted fun hescapes => h (endsInEscapedReturn_of_mem_cut hl hescapes)

/-- **Formatting keeps what a script means**, under either policy: the commands and the
faults with the lines that they are on. Only a text that ends in an escaped return may
change its meaning. -/
theorem parse_format (source : String) (policy : ErrorPolicy)
    (h : ¬ Fields.EndsInEscapedReturn source.toList) :
    parse (format source) policy = parse source policy := by
  have hlines := map_ofText_lines_format h
  rw [parse, parse, ofLines_congr policy hlines]

/-- A script with a fault, an older command name and an escaped backslash before the
return at its end. -/
theorem parse_format_click :
    ¬ Fields.EndsInEscapedReturn "go_back\r\nclick\nlog msg=a\\\\\r".toList ∧
      parse (format "go_back\r\nclick\nlog msg=a\\\\\r") .skip =
        parse "go_back\r\nclick\nlog msg=a\\\\\r" .skip :=
  ⟨by decide, parse_format _ .skip (by decide)⟩

end Script

end BrowserScript
