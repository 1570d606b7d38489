/-
# BrowserScript.Text.Lines -- cutting a text into lines

A line feed ends a line, and a text that ends with one has no further line after it.
A carriage return at the end of a line belongs to its ending, with one exception
that the two readings of a line handle differently: **on a last line that no line
feed ends**, `content` keeps a final carriage return as text, while `body` and
`ending` split it off so that it can be put back.
-/

namespace BrowserScript.Text

/-- A line: the characters before its line feed, and whether it has one. -/
structure Line where
  chars : List Char
  ended : Bool
  deriving DecidableEq, Repr

namespace Line

/-- Cuts `cs` into lines, where `before` holds the characters of the current line that
are already read, the last one first. -/
def cutFrom (before : List Char) : List Char → List Line
  | [] => if before.isEmpty then [] else [⟨before.reverse, false⟩]
  | c :: cs =>
    if c = '\n' then ⟨before.reverse, true⟩ :: cutFrom [] cs else cutFrom (c :: before) cs

/-- The lines of a text, in order. -/
def cut (text : String) : List Line :=
  cutFrom [] text.toList

/-- The characters that a line takes up in its text. -/
def full (l : Line) : List Char :=
  l.chars ++ if l.ended then ['\n'] else []

theorem flatMap_full_cutFrom (before cs : List Char) :
    (cutFrom before cs).flatMap full = before.reverse ++ cs := by
  induction cs generalizing before with
  | nil => by_cases h : before = [] <;> simp [cutFrom, full, h]
  | cons c cs ih =>
    by_cases h : c = '\n'
    · simp [cutFrom, full, h, ih]
    · simp [cutFrom, h, ih]

/-- **The lines of a text make up the text.** -/
theorem flatMap_full_cut (text : String) : (cut text).flatMap full = text.toList := by
  simp [cut, flatMap_full_cutFrom]

/-- The characters without one carriage return at the end, if there is one. -/
def dropReturn (cs : List Char) : List Char :=
  if cs.getLast? = some '\r' then cs.dropLast else cs

/-- The text of a line, without its ending. The ending is a line feed with the carriage
return before it; on a last line without a line feed there is none. -/
def content (l : Line) : String :=
  .ofList (if l.ended then dropReturn l.chars else l.chars)

/-- The text of a line without the carriage return at its end, on every line. -/
def body (l : Line) : String :=
  .ofList (dropReturn l.chars)

/-- What `body` leaves out: a carriage return, a line feed, both or nothing. -/
def ending (l : Line) : String :=
  (if l.chars.getLast? = some '\r' then "\r" else "") ++ if l.ended then "\n" else ""

theorem dropReturn_append (cs : List Char) :
    dropReturn cs ++ (if cs.getLast? = some '\r' then ['\r'] else []) = cs := by
  unfold dropReturn
  split
  · rename_i h
    obtain ⟨ds, rfl⟩ := List.getLast?_eq_some_iff.1 h
    simp
  · simp

/-- **The body of a line and its ending make up the line.** -/
theorem body_append_ending (l : Line) : (l.body ++ l.ending).toList = l.full := by
  have hr : (if l.chars.getLast? = some '\r' then "\r" else "").toList =
      if l.chars.getLast? = some '\r' then ['\r'] else [] := by split <;> rfl
  have hn : (if l.ended then "\n" else "").toList = if l.ended then ['\n'] else [] := by
    split <;> rfl
  simp only [body, ending, full, String.toList_append, String.toList_ofList, hr, hn,
    ← List.append_assoc, dropReturn_append]

end Line

end BrowserScript.Text
