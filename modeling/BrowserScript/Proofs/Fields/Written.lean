/-
# BrowserScript.Proofs.Fields.Written -- written fields are read back

`scan` meets a written field as a few characters among many, so each law here has the
**text that follows** in it: a written value puts the characters of the value in front
of whatever the reading of that text yields. Between two fields stands a space, and
there the rest of the line begins afresh, which makes a row of fields an induction.

A field may be put together from a quoted and a bare part, as `"a b"=c` is. What a
written field needs is that its two parts are written values and that there is an
equals sign between them; the key and the value themselves are **arbitrary**.
-/
import BrowserScript.Text.Quoted
import BrowserScript.Proofs.Fields.Scanning
import BrowserScript.Proofs.Fields.Trimming

namespace BrowserScript.Fields

open Text (isWhite isSpecial escape quoteChars)

/-! ## Characters that need no quotes -/

theorem isSpecial_eq_false_iff {c : Char} :
    isSpecial c = false ↔ isWhite c = false ∧ isQuote c = false ∧ c ≠ '\\' := by
  simp [isSpecial, and_assoc]

theorem scan_cons_of_plain {c : Char} (h : isSpecial c = false) (started : Bool)
    (rest : List Char) : scan none started (c :: rest) = extend c (scan none true rest) := by
  obtain ⟨hwhite, hquote, hslash⟩ := isSpecial_eq_false_iff.1 h
  refine scan_literal hslash hquote ?_ started rest
  rintro rfl
  exact absurd hwhite (by decide)

/-- Outside quotes, a word without special characters is read as it stands. -/
theorem scan_plain {word : List Char} (h : word.any isSpecial = false) (rest : List Char) :
    scan none true (word ++ rest) = word.foldr extend (scan none true rest) := by
  induction word with
  | nil => rfl
  | cons c cs ih =>
      rw [List.any_cons, Bool.or_eq_false_iff] at h
      rw [List.cons_append, scan_cons_of_plain h.1, ih h.2, List.foldr_cons]

/-! ## Quoted values -/

/-- Within double quotes, the written form of a value is read as the value, and the
closing mark ends the run but not the field. -/
theorem scan_escape (value rest : List Char) :
    scan (some '"') true (escape value ++ '"' :: rest) =
      value.foldr extend (scan none true rest) := by
  induction value with
  | nil => exact scan_close (by decide) true rest
  | cons c cs ih =>
      rw [escape, List.foldr_cons, ← ih]
      -- exactly the characters that would close the run or escape are escaped
      by_cases h : c = '"' ∨ c = '\\'
      · rw [if_pos h, List.cons_append, List.cons_append, scan_escaped]
      · rw [not_or] at h
        rw [if_neg (not_or.2 h), List.cons_append, scan_within h.2 h.1]

/-- A value in quotes opens a field by itself, even when it is empty. -/
theorem scan_within_quotes (value : List Char) (started : Bool) (rest : List Char) :
    scan none started ('"' :: escape value ++ ['"'] ++ rest) =
      value.foldr extend (scan none true rest) := by
  rw [← scan_escape]
  simp only [List.cons_append, List.append_assoc, List.nil_append]
  exact scan_open (by decide) started _

theorem scan_quoted {value : List Char} (h : value.any isSpecial = true) (started : Bool)
    (rest : List Char) :
    scan none started (quoteChars value ++ rest) =
      value.foldr extend (scan none true rest) := by
  rw [quoteChars, if_pos h, scan_within_quotes]

/-- **Within a field, a written value is read as the value.** -/
theorem scan_quoteChars (value rest : List Char) :
    scan none true (quoteChars value ++ rest) = value.foldr extend (scan none true rest) := by
  cases h : value.any isSpecial with
  | true => exact scan_quoted h true rest
  | false => rw [quoteChars, if_neg (by simp [h]), scan_plain h]

/-! ## Written fields -/

/-- A text writes a field out when, read at a place where no field is open, it puts the
characters of the field before what the text after it yields. -/
def Writes (text field : List Char) : Prop :=
  ∀ rest, scan none false (text ++ rest) = field.foldr extend (scan none true rest)

theorem writes_plain {word : List Char} (hne : word ≠ []) (h : word.any isSpecial = false) :
    Writes word word := by
  intro rest
  cases word with
  | nil => exact absurd rfl hne
  | cons c cs =>
      rw [List.any_cons, Bool.or_eq_false_iff] at h
      rw [List.cons_append, scan_cons_of_plain h.1, scan_plain h.2, List.foldr_cons]

/-- Quotes may always be put, so that any text at all is a field. -/
theorem writes_quotes (value : List Char) : Writes ('"' :: escape value ++ ['"']) value :=
  scan_within_quotes value false

/-- **A written key, an equals sign and a written value write the assignment out**,
whatever the key and the value are. -/
theorem writes_assignment (key value : List Char) :
    Writes (quoteChars key ++ '=' :: quoteChars value) (key ++ '=' :: value) := by
  intro rest
  have heq : ∀ started, scan none started ('=' :: (quoteChars value ++ rest)) =
      extend '=' (value.foldr extend (scan none true rest)) := by
    intro started
    rw [scan_cons_of_plain (by decide), scan_quoteChars]
  rw [List.append_assoc, List.cons_append, List.foldr_append, List.foldr_cons]
  cases h : key.any isSpecial with
  | true => rw [scan_quoted h, heq]
  | false =>
      -- a bare key opens the field with its first character, an empty one leaves that to `=`
      rw [quoteChars, if_neg (by simp [h])]
      cases key with
      | nil => exact heq false
      | cons c cs =>
          rw [writes_plain (List.cons_ne_nil c cs) h, heq]

/-! ## Rows of fields -/

theorem foldr_extend_cons (field first : List Char) (fields : List (List Char)) :
    field.foldr extend (first :: fields) = (field ++ first) :: fields := by
  induction field with
  | nil => rfl
  | cons c cs ih => rw [List.foldr_cons, ih, extend, List.cons_append]

/-- **A row of written fields, a space before each, is read as the fields.** The pairs
hold what is written and the field that it writes out. -/
theorem scan_row {row : List (List Char × List Char)} (h : ∀ p ∈ row, Writes p.1 p.2)
    (started : Bool) :
    scan none started (row.flatMap fun p => ' ' :: p.1) =
      (if started then [[]] else []) ++ row.map Prod.snd := by
  induction row generalizing started with
  | nil => cases started <;> rfl
  | cons p row ih =>
      -- the space ends the field before it, and the next one is opened by its own text
      have hp := h p List.mem_cons_self
      have hrow := ih fun q hq => h q (List.mem_cons_of_mem p hq)
      rw [List.flatMap_cons, List.cons_append, scan_space, hp, hrow true, if_pos rfl,
        List.singleton_append, foldr_extend_cons, List.append_nil, List.map_cons]

/-- A first field and a row of fields after it. -/
theorem scan_first_row {text field : List Char} (hfirst : Writes text field)
    {row : List (List Char × List Char)} (h : ∀ p ∈ row, Writes p.1 p.2) :
    scan none false (text ++ row.flatMap fun p => ' ' :: p.1) = field :: row.map Prod.snd := by
  rw [hfirst, scan_row h, if_pos rfl, List.singleton_append, foldr_extend_cons, List.append_nil]

/-! ## Written fields end firmly -/

theorem endsFirmly_plain {word : List Char} (hne : word ≠ []) (h : word.any isSpecial = false) :
    EndsFirmly word := by
  refine ⟨word.dropLast, word.getLast hne, (List.dropLast_concat_getLast hne).symm, ?_⟩
  have hlast := List.any_eq_false.1 h _ (List.getLast_mem hne)
  obtain ⟨hwhite, _, hslash⟩ := isSpecial_eq_false_iff.1 (Bool.not_eq_true _ ▸ hlast)
  exact ⟨hwhite, hslash⟩

theorem endsFirmly_quotes (value : List Char) : EndsFirmly ('"' :: escape value ++ ['"']) :=
  ⟨'"' :: escape value, '"', rfl, by decide, by decide⟩

/-- The end of a written field is the closing quote, a plain character or the equals
sign, so trimming the line that it ends changes nothing. -/
theorem endsFirmly_assignment (key value : List Char) :
    EndsFirmly (quoteChars key ++ '=' :: quoteChars value) := by
  cases h : value.any isSpecial with
  | true =>
      rw [show quoteChars value = '"' :: escape value ++ ['"'] by rw [quoteChars, if_pos h]]
      exact ((endsFirmly_quotes value).append ['=']).append (quoteChars key)
  | false =>
      rw [show quoteChars value = value by rw [quoteChars, if_neg (by simp [h])]]
      cases value with
      | nil => exact ⟨quoteChars key, '=', rfl, by decide, by decide⟩
      | cons c cs =>
          have hend := endsFirmly_plain (List.cons_ne_nil c cs) h
          exact (hend.append ['=']).append (quoteChars key)

end BrowserScript.Fields
