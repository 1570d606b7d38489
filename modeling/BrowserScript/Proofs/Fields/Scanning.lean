/-
# BrowserScript.Proofs.Fields.Scanning -- the reading of fields, character by character

`scan` does one of six things with a character, and each of them is stated here for the
characters that it is about. Later proofs step through a text with these equations and
do not unfold the function.

One law needs no step by step account: **the fields are made of the characters of the
text, in the order of the text**. The reading drops characters and groups the others;
it never makes one up.
-/
import BrowserScript.Fields

namespace BrowserScript.Fields

/-! ## One step of the reading -/

theorem scan_escaped (run : Option Char) (started : Bool) (c : Char) (rest : List Char) :
    scan run started ('\\' :: c :: rest) = extend c (scan run true rest) := by
  rw [scan.eq_def]
  simp only [if_true]

theorem scan_open {mark : Char} (h : isQuote mark = true) (started : Bool) (rest : List Char) :
    scan none started (mark :: rest) = scan (some mark) true rest := by
  have hslash : mark ≠ '\\' := by
    rintro rfl
    exact absurd h (by decide)
  rw [scan.eq_def]
  simp only [if_neg hslash, if_pos h]

theorem scan_close {mark : Char} (h : mark ≠ '\\') (started : Bool) (rest : List Char) :
    scan (some mark) started (mark :: rest) = scan none true rest := by
  rw [scan.eq_def]
  simp only [if_neg h, if_true]

/-- Within quotes every other character is literal, a space or the other mark as well. -/
theorem scan_within {c mark : Char} (hslash : c ≠ '\\') (hmark : c ≠ mark) (started : Bool)
    (rest : List Char) :
    scan (some mark) started (c :: rest) = extend c (scan (some mark) true rest) := by
  rw [scan.eq_def]
  simp only [if_neg hslash, if_neg hmark]

/-- The space before a field ends the one that is open, if there is one. -/
theorem scan_space (started : Bool) (rest : List Char) :
    scan none started (' ' :: rest) = (if started then [[]] else []) ++ scan none false rest := by
  rw [scan.eq_def]
  cases started <;> rfl

theorem scan_literal {c : Char} (hslash : c ≠ '\\') (hquote : isQuote c = false) (hspace : c ≠ ' ')
    (started : Bool) (rest : List Char) :
    scan none started (c :: rest) = extend c (scan none true rest) := by
  rw [scan.eq_def]
  simp only [if_neg hslash, hquote, Bool.false_eq_true, if_neg hspace, if_false]

/-! ## Where the characters of fields come from -/

theorem flatten_extend (c : Char) (fields : List (List Char)) :
    (extend c fields).flatten = c :: fields.flatten := by
  cases fields <;> rfl

/-- **The characters of the fields are characters of the text, in the same order.** -/
theorem flatten_scan_sublist (run : Option Char) (started : Bool) (cs : List Char) :
    (scan run started cs).flatten.Sublist cs := by
  -- each case keeps the character in front of the first field or drops it
  fun_induction scan run started cs with
  | case1 => exact List.Sublist.refl []
  | case2 => exact List.Sublist.refl []
  | case3 => exact List.Sublist.refl ['\\']
  | case4 run started c rest ih =>
      rw [flatten_extend]
      exact (ih.cons_cons c).cons '\\'
  | case5 started rest mark hslash ih => exact ih.cons mark
  | case6 started c rest hslash mark hmark ih =>
      rw [flatten_extend]
      exact ih.cons_cons c
  | case7 started mark rest hslash hquote ih => exact ih.cons mark
  | case8 rest hslash hquote ih => exact ih.cons ' '
  | case9 started rest hstarted hslash hquote ih => exact ih.cons ' '
  | case10 started c rest hslash hquote hspace ih =>
      rw [flatten_extend]
      exact ih.cons_cons c

/-- Trimming takes characters from the end only. -/
theorem isPrefix_trimUnescapedEnd (cs : List Char) : trimUnescapedEnd cs <+: cs := by
  simp only [trimUnescapedEnd]
  split
  · exact ⟨_, Text.trimEnd_append cs⟩
  · exact List.take_prefix _ cs

/-- The part of a line that is read is a part of the line. -/
theorem trimmed_sublist (line : String) : (trimmed line).Sublist line.toList :=
  (isPrefix_trimUnescapedEnd _).sublist.trans (List.dropWhile_sublist _)

/-- A character of a field is a character of the line. -/
theorem mem_of_mem_ofLine {line field : String} (h : field ∈ ofLine line) {c : Char}
    (hc : c ∈ field.toList) : c ∈ line.toList := by
  have hscan : ∀ cs, field ∈ (scan none false cs).map String.ofList → c ∈ cs := by
    intro cs hmem
    obtain ⟨f, hf, rfl⟩ := List.mem_map.1 hmem
    rw [String.toList_ofList] at hc
    exact (flatten_scan_sublist none false cs).subset (List.mem_flatten.2 ⟨f, hf, hc⟩)
  -- blank lines and comments have no fields, and the fields of others are scanned
  refine (trimmed_sublist line).subset ?_
  unfold ofLine at h
  split at h
  · exact absurd h List.not_mem_nil
  · exact absurd h List.not_mem_nil
  · exact hscan _ h

end BrowserScript.Fields
