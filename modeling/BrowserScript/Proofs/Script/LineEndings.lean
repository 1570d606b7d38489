/-
# BrowserScript.Proofs.Script.LineEndings -- line feeds with and without returns

A text is taken over to the other convention by putting a carriage return before each of
its line feeds. Its lines are then the same lines with a longer ending, **as long as the
text has no return of its own**, which could come to stand before a line feed by itself.
Neither the reading nor the formatting sees the longer endings: the return is taken off
before the fields of a line are read, even after a backslash, and it is put back behind
what is written.
-/
import BrowserScript.Proofs.Script.Formatting
import BrowserScript.Proofs.Script.Reading

namespace BrowserScript

open Text (Line)

/-! ## Texts and lines with returns -/

namespace Text

/-- The characters with a carriage return before each line feed. -/
def addReturns (cs : List Char) : List Char :=
  cs.flatMap fun c => if c = '\n' then ['\r', '\n'] else [c]

/-- The text with a carriage return and a line feed in place of each line feed. -/
def withReturns (text : String) : String :=
  .ofList (addReturns text.toList)

namespace Line

/-- The line with a carriage return before its line feed, if it has one. -/
def withReturn (l : Line) : Line :=
  if l.ended then ⟨l.chars ++ ['\r'], true⟩ else l

theorem cutFrom_addReturns (before cs : List Char) :
    cutFrom before (addReturns cs) = (cutFrom before cs).map withReturn := by
  induction cs generalizing before with
  | nil =>
      simp only [addReturns, List.flatMap_nil, cutFrom]
      split <;> rfl
  | cons c cs ih =>
      by_cases hc : c = '\n'
      · -- the return goes to the line that the line feed ends
        simp only [addReturns, List.flatMap_cons, hc, if_true, List.cons_append, List.nil_append,
          cutFrom, List.map_cons] at ih ⊢
        rw [if_neg (by decide), ih, List.reverse_cons]
        rfl
      · simp only [addReturns, List.flatMap_cons, hc, if_false, List.cons_append, List.nil_append,
          cutFrom] at ih ⊢
        exact ih (c :: before)

/-- **The lines of a text with returns are the lines of the text**, each with its return. -/
theorem cut_withReturns (text : String) : cut (withReturns text) = (cut text).map withReturn := by
  rw [cut, withReturns, String.toList_ofList, cutFrom_addReturns]
  rfl

theorem mem_of_mem_cut {text : String} {l : Line} (hl : l ∈ cut text) {c : Char}
    (hc : c ∈ l.chars) : c ∈ text.toList := by
  rw [← flatMap_full_cut, List.mem_flatMap]
  exact ⟨l, hl, List.mem_append_left _ hc⟩

theorem dropReturn_of_not_mem {cs : List Char} (h : '\r' ∉ cs) : dropReturn cs = cs :=
  dropReturn_of_ne fun hlast => h (List.mem_of_getLast? hlast)

theorem dropReturn_chars_withReturn {l : Line} (h : '\r' ∉ l.chars) :
    dropReturn l.withReturn.chars = l.chars := by
  unfold withReturn
  split
  · exact dropReturn_append_return l.chars
  · exact dropReturn_of_not_mem h

theorem body_withReturn {l : Line} (h : '\r' ∉ l.chars) : l.withReturn.body = l.body := by
  rw [body, body, dropReturn_chars_withReturn h, dropReturn_of_not_mem h]

theorem content_withReturn {l : Line} (h : '\r' ∉ l.chars) :
    l.withReturn.content = l.content := by
  unfold content
  cases hended : l.ended with
  | true =>
      rw [if_pos rfl, dropReturn_of_not_mem h, withReturn, if_pos hended, if_pos rfl,
        dropReturn_append_return]
  | false =>
      rw [withReturn, hended, if_neg Bool.false_ne_true, hended]

/-- Another text can be put in before or after the return. -/
theorem withBody_withReturn {l : Line} (h : '\r' ∉ l.chars) (text : String) :
    l.withReturn.withBody text = (l.withBody text).withReturn := by
  have hlast : l.chars.getLast? ≠ some '\r' := fun hlast => h (List.mem_of_getLast? hlast)
  unfold withReturn withBody
  cases hended : l.ended <;> simp [hended, hlast]

end Line

end Text

/-! ## Scripts with returns -/

namespace Script

open Text (withReturns)

/-- A line with its return is formatted to what is written for the line, with a return. -/
theorem formatted_withReturn {l : Line} (h : '\r' ∉ l.chars) :
    formatted l.withReturn = (formatted l).withReturn := by
  obtain ⟨c, hc, hl⟩ | ⟨hno, hl⟩ := formatted_cases l
  · rw [hl, ← Line.withBody_withReturn h]
    apply formatted_of_command
    rw [Line.body_withReturn h, hc]
  · rw [hl]
    apply formatted_of_no_command
    rwa [Line.body_withReturn h]

theorem lines_withReturns {source : String} (h : '\r' ∉ source.toList) :
    lines (withReturns source) = lines source := by
  rw [lines, lines, Line.cut_withReturns, List.map_map]
  apply List.map_congr_left
  intro l hl
  exact Line.content_withReturn fun hreturn => h (Line.mem_of_mem_cut hl hreturn)

/-- **Line endings are transparent.** A text without returns and the same text with a return
before each line feed have the same outcome under either policy, and they are formatted
alike, each with its own endings. -/
theorem either_line_ending (source : String) (h : '\r' ∉ source.toList) :
    (∀ policy, parse (withReturns source) policy = parse source policy) ∧
      format (withReturns source) = withReturns (format source) := by
  refine ⟨fun policy => ?_, ?_⟩
  · rw [parse, parse, lines_withReturns h]
  · apply Line.eq_of_cut_eq
    rw [cut_format, Line.cut_withReturns, Line.cut_withReturns, cut_format, List.map_map,
      List.map_map]
    apply List.map_congr_left
    intro l hl
    rw [Function.comp_apply, Function.comp_apply]
    exact formatted_withReturn fun hreturn => h (Line.mem_of_mem_cut hl hreturn)

/-- A message that ends in a backslash keeps it before a return, which is not escaped. -/
theorem either_line_ending_log :
    '\r' ∉ "log msg=a\\\nclick\ngo_back".toList ∧
      withReturns "log msg=a\\\nclick\ngo_back" = "log msg=a\\\r\nclick\r\ngo_back" ∧
      parse "log msg=a\\\r\nclick\r\ngo_back" .skip =
        .ok ⟨[⟨1, ⟨.log, .ofList [("msg", "a\\")], none⟩⟩, ⟨3, ⟨.goBack, .ofList [], none⟩⟩],
          [⟨2, .missingSelector .click⟩]⟩ ∧
      format "log msg=a\\\r\nclick\r\ngo_back" =
        "log msg=\"a\\\\\"\r\nclick\r\ngoBack" := by
  have hfree : '\r' ∉ "log msg=a\\\nclick\ngo_back".toList := by decide
  have hreturns : withReturns "log msg=a\\\nclick\ngo_back" =
      "log msg=a\\\r\nclick\r\ngo_back" := by cbv
  obtain ⟨hparse, hformat⟩ := either_line_ending _ hfree
  rw [hreturns] at hparse hformat
  refine ⟨hfree, hreturns, ?_, ?_⟩
  · rw [hparse]
    cbv
  · rw [hformat]
    cbv

end Script

end BrowserScript
