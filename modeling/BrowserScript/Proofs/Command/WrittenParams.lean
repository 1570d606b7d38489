/-
# BrowserScript.Proofs.Command.WrittenParams -- rows of written parameters

Parameters are written one after the other, each with a space before it. In a canonical line they
are those of a command, but the writing does not ask where they come from, and **neither does the
reading back: the keys and the values may be any texts at all**. An empty key and one that holds
an equals sign are no keys of a command, and still the field is the one that was written.

The end of such a row is as safe as its fields. A value that ends in a white character or in a
backslash is in quotes, so that the last character of the row is a closing quote, a character that
counts, or the equals sign of an empty value.
-/
import BrowserScript.Proofs.Command.CanonicalLine

namespace BrowserScript

open Fields (EndsFirmly trailingBackslashes trimUnescapedEnd)

namespace Command

/-- Parameters as they are written, one after the other. -/
def renderParams (params : List (String × String)) : String :=
  String.join (params.map fun p => renderParam p.1 p.2)

/-- **Written parameters are read back field by field.** -/
theorem ofText_renderParams (params : List (String × String)) :
    Fields.ofText (renderParams params) = params.map fun p => p.1 ++ "=" ++ p.2 := by
  have hwrites : ∀ p ∈ paramRow params, Fields.Writes p.1 p.2 := by
    intro p hp
    obtain ⟨e, rfl⟩ := mem_paramRow hp
    exact writes_writtenParam e
  have hscan : Fields.scan none false (renderParams params).toList =
      (paramRow params).map Prod.snd := by
    rw [renderParams, toList_join_params, rowChars, Fields.scan_row hwrites]
    rfl
  rw [Fields.ofText, hscan, paramRow, List.map_map, List.map_map]
  apply List.map_congr_left
  intro p _
  show String.ofList (paramField p.1 p.2).toList = p.1 ++ "=" ++ p.2
  rw [String.ofList_toList, paramField]

/-- The row ends as its last parameter does, and every parameter ends firmly. -/
theorem endsFirmly_renderParams {params : List (String × String)} (h : params ≠ []) :
    EndsFirmly (renderParams params).toList := by
  obtain ⟨p, rest, rfl⟩ := List.exists_cons_of_ne_nil h
  have hrow : ∀ q ∈ paramRow rest, EndsFirmly q.1 := by
    intro q hq
    obtain ⟨e, rfl⟩ := mem_paramRow hq
    exact endsFirmly_writtenParam e
  have hfirst : EndsFirmly (' ' :: (writtenParam p).1) := (endsFirmly_writtenParam p).append [' ']
  rw [renderParams, toList_join_params]
  exact endsFirmly_row hrow hfirst

theorem trimUnescapedEnd_renderParams (params : List (String × String)) :
    trimUnescapedEnd (renderParams params).toList = (renderParams params).toList := by
  cases params with
  | nil => rfl
  | cons p rest => exact (endsFirmly_renderParams (List.cons_ne_nil p rest)).trimUnescapedEnd

/-- **A row of written parameters is cut into one field for each of them, in order**, the key, an
equals sign and the value, whatever texts the keys and the values are. Unless there are no
parameters, the row ends in a character that is neither white nor a backslash, and so nothing is
trimmed from its end. -/
theorem written_params_read_back (params : List (String × String)) :
    Fields.ofText (renderParams params) = params.map (fun p => p.1 ++ "=" ++ p.2) ∧
    (params ≠ [] → EndsFirmly (renderParams params).toList ∧
      trailingBackslashes (renderParams params).toList % 2 = 0) ∧
    trimUnescapedEnd (renderParams params).toList = (renderParams params).toList := by
  refine ⟨ofText_renderParams params, ?_, trimUnescapedEnd_renderParams params⟩
  intro hne
  have hfirm := endsFirmly_renderParams hne
  refine ⟨hfirm, ?_⟩
  rw [hfirm.trailingBackslashes]

/-- An empty key with an empty value, a key that is only partly bare, a value with both quote
marks and white characters, and a value that ends in a backslash. -/
theorem written_params_read_back_quotes :
    renderParams [("", ""), ("a=b", "c d"), ("it's", "\"\t\n"), ("k", "x\\")] =
        " = a=b=\"c d\" \"it's\"=\"\\\"\t\n\" k=\"x\\\\\"" ∧
      Fields.ofText " = a=b=\"c d\" \"it's\"=\"\\\"\t\n\" k=\"x\\\\\"" =
        ["=", "a=b=c d", "it's=\"\t\n", "k=x\\"] ∧
      trailingBackslashes " = a=b=\"c d\" \"it's\"=\"\\\"\t\n\" k=\"x\\\\\"".toList % 2 = 0 := by
  have hwritten : renderParams [("", ""), ("a=b", "c d"), ("it's", "\"\t\n"), ("k", "x\\")] =
      " = a=b=\"c d\" \"it's\"=\"\\\"\t\n\" k=\"x\\\\\"" := by decide +kernel
  obtain ⟨hfields, hend, _⟩ :=
    written_params_read_back [("", ""), ("a=b", "c d"), ("it's", "\"\t\n"), ("k", "x\\")]
  rw [hwritten] at hfields hend
  exact ⟨hwritten, hfields, (hend (List.cons_ne_nil _ _)).2⟩

end Command

end BrowserScript
