/-
# BrowserScript.Fields -- the fields of a line

A line is a row of fields separated by spaces. Three characters are special:

  * a **backslash** makes the next character literal, inside quotes as well, and
    is dropped; the last character of a text is literal even if it is a backslash;
  * a **quote mark**, single or double, opens a run in which spaces are literal
    and which only the same mark closes; marks are dropped, and an open run
    extends to the end;
  * a **space** outside runs ends the field. Other white characters do not.

A quoted run makes a field even when nothing stands in it, while a row of spaces
makes none. `scan` reads in one pass without an accumulator: what it returns for
a suffix begins with the rest of the field that is open there, so a law about a
text is a law about a text put in front of another.
-/
import BrowserScript.Text.Whitespace

namespace BrowserScript.Fields

open Text (isWhite trimStart trimEnd)

/-! ## Cutting a text into fields -/

/-- The two quote marks. -/
def isQuote (c : Char) : Bool :=
  c == '"' || c == '\''

/-- Puts a character in front of the first field, and makes a field of it if there
is none. -/
def extend (c : Char) : List (List Char) → List (List Char)
  | [] => [[c]]
  | field :: fields => (c :: field) :: fields

/-- The fields of a text that is read from within a line. `run` holds the mark that
opened the current quoted run; `started` says that a field is open, and the first
field of the result is then the rest of it. -/
def scan (run : Option Char) (started : Bool) : List Char → List (List Char)
  | [] => if started then [[]] else []
  | c :: rest =>
    if c = '\\' then
      match rest with
      | [] => [['\\']]
      | escaped :: rest => extend escaped (scan run true rest)
    else
      match run with
      | some mark =>
        if c = mark then scan none true rest else extend c (scan run true rest)
      | none =>
        if isQuote c then scan (some c) true rest
        else if c = ' ' then
          if started then [] :: scan none false rest else scan none false rest
        else extend c (scan none true rest)

theorem extend_ne_nil (c : Char) (fields : List (List Char)) : extend c fields ≠ [] := by
  cases fields <;> simp [extend]

/-- A field that is open when the reading begins is always in the result. -/
theorem scan_ne_nil {run : Option Char} {started : Bool} {cs : List Char}
    (h : started = true) : scan run started cs ≠ [] := by
  fun_induction scan run started cs <;> simp_all [extend_ne_nil]

/-- The fields of a text, in order. The text is taken as it is, with no trimming and
no comments. -/
def ofText (text : String) : List String :=
  (scan none false text.toList).map String.ofList

/-! ## The part of a line that is read -/

/-- How many characters at the end are backslashes. -/
def trailingBackslashes (cs : List Char) : Nat :=
  (cs.reverse.takeWhile (· == '\\')).length

/-- Drops the white characters at the end, but keeps the first of them when a
backslash escapes it, which an odd number of backslashes before it does. -/
def trimUnescapedEnd (cs : List Char) : List Char :=
  let kept := trimEnd cs
  if trailingBackslashes kept % 2 = 0 then kept else cs.take (kept.length + 1)

/-- A line without the white characters around it. -/
def trimmed (line : String) : List Char :=
  trimUnescapedEnd (trimStart line.toList)

/-- The fields of a line: none when the line is blank or when its first character
that is not white is `#`, which makes it a comment. -/
def ofLine (line : String) : List String :=
  match trimmed line with
  | [] => []
  | '#' :: _ => []
  | cs => (scan none false cs).map String.ofList

/-! ## Assignments -/

/-- The text before the first equals sign of a field, and the text after it. -/
def assignment? (field : String) : Option (String × String) :=
  let cs := field.toList
  if cs.contains '=' then
    some (.ofList (cs.takeWhile (· != '=')), .ofList (cs.dropWhile (· != '=')).tail)
  else none

theorem takeWhile_append_dropWhile_tail {cs : List Char} (h : '=' ∈ cs) :
    cs.takeWhile (· != '=') ++ '=' :: (cs.dropWhile (· != '=')).tail = cs := by
  induction cs with
  | nil => simp at h
  | cons c cs ih =>
    by_cases hc : c = '='
    · simp [hc]
    · have hm : '=' ∈ cs := by simpa [Ne.symm hc] using h
      simpa [hc] using ih hm

theorem takeWhile_dropWhile_key {key : List Char} (value : List Char) (h : '=' ∉ key) :
    (key ++ '=' :: value).takeWhile (· != '=') = key ∧
      (key ++ '=' :: value).dropWhile (· != '=') = '=' :: value := by
  induction key with
  | nil => simp
  | cons c cs ih =>
    simp only [List.mem_cons, not_or] at h
    simp [Ne.symm h.1, ih h.2]

/-- **An assignment is a key without an equals sign, an equals sign, and a value.** -/
theorem assignment?_eq_some_iff {field key value : String} :
    assignment? field = some (key, value) ↔ field = key ++ "=" ++ value ∧ '=' ∉ key.toList := by
  constructor
  · intro h
    simp only [assignment?, List.contains_iff_mem] at h
    split at h
    · rename_i hm
      simp only [Option.some.injEq, Prod.mk.injEq] at h
      obtain ⟨rfl, rfl⟩ := h
      refine ⟨?_, ?_⟩
      · rw [← String.toList_inj]
        simpa using (takeWhile_append_dropWhile_tail hm).symm
      · simp only [String.toList_ofList]
        exact fun hk => by simpa using List.all_eq_true.1 List.all_takeWhile _ hk
    · simp at h
  · rintro ⟨rfl, h⟩
    simp [assignment?, takeWhile_dropWhile_key value.toList h]

end BrowserScript.Fields
