/-
# BrowserScript.Settings.Toml.Quoted -- texts in quotes

A text stands between two marks, or between three and three if it may run over several
lines. **In double quotes a backslash begins an escape, in single quotes nothing does.**
In a long text a line feed right after the opening marks is dropped, and every line end
counts as a line feed.
-/
import BrowserScript.Text.Numeral

namespace BrowserScript.Toml

/-! ## Characters -/

/-- Whether a character is a space within a line. -/
def isBlank (c : Char) : Bool :=
  c == ' ' || c == '\t'

/-- Whether a character may stand in a text or a comment. -/
def isAllowed (c : Char) : Bool :=
  c == '\t' || (0x20 ≤ c.toNat && c.toNat != 0x7F)

/-- Skips spaces. -/
def skipBlanks (cs : List Char) : List Char :=
  cs.dropWhile isBlank

/-- Skips the end of a line, if one stands here. -/
def newline? : List Char → Option (List Char)
  | '\n' :: cs => some cs
  | '\r' :: '\n' :: cs => some cs
  | _ => none

/-- Skips spaces and ends of lines. -/
def skipSpace : List Char → List Char
  | ' ' :: cs => skipSpace cs
  | '\t' :: cs => skipSpace cs
  | '\n' :: cs => skipSpace cs
  | '\r' :: '\n' :: cs => skipSpace cs
  | cs => cs

/-! ## Escapes -/

/-- The character of a code point. -/
def scalar? (n : Nat) : Option Char :=
  if n.isValidChar then some (Char.ofNat n) else none

/-- Reads a code point of a given number of hexadecimal digits. -/
def codePoint? (width : Nat) (cs : List Char) : Option (List Char × List Char) := do
  if cs.length < width then none
  else
    let ds ← Numeral.digits? 16 (cs.take width)
    return ([← scalar? (Numeral.ofDigits 16 ds)], cs.drop width)

/-- The escapes of one letter. -/
def escapes : List (Char × Char) :=
  [('b', '\x08'), ('t', '\t'), ('n', '\n'), ('f', '\x0c'), ('r', '\r'), ('"', '"'), ('\\', '\\')]

/-- Reads what stands after a backslash: what one character is written as. At the end of a
line of a long text it is that line end with all the space after it, and stands for
nothing. -/
def escape? (long : Bool) (cs : List Char) : Option (List Char × List Char) :=
  match newline? (skipBlanks cs) with
  | some rest => if long then some ([], skipSpace rest) else none
  | none =>
    match cs with
    | 'u' :: rest => codePoint? 4 rest
    | 'U' :: rest => codePoint? 8 rest
    | letter :: rest => (escapes.lookup letter).map fun c => ([c], rest)
    | [] => none

/-! ## Texts -/

/-- How a text is put in quotes: with which mark, and whether with three on either side. -/
structure Quotes where
  mark : Char
  long : Bool

namespace Quotes

/-- Reads the marks in front of a text. -/
def opening? : List Char → Option (Quotes × List Char)
  | c :: cs =>
    if c = '"' ∨ c = '\'' then
      match cs with
      | d :: e :: rest =>
        if c = d ∧ d = e then some (⟨c, true⟩, (newline? rest).getD rest)
        else some (⟨c, false⟩, cs)
      | _ => some (⟨c, false⟩, cs)
    else none
  | [] => none

/-- Reads the marks after a text. Up to two more than needed belong to a long text. -/
def closing? (q : Quotes) (cs : List Char) : Option (List Char × List Char) :=
  let marks := cs.takeWhile (· == q.mark)
  if q.long then
    if marks.length < 3 then none
    else some (List.replicate (min (marks.length - 3) 2) q.mark, cs.drop (min marks.length 5))
  else if marks.isEmpty then none
  else some ([], cs.drop 1)

/-- Reads one piece of a text: a character, an escape or the end of a line. -/
def piece? (q : Quotes) (cs : List Char) : Option (List Char × List Char) :=
  match newline? cs with
  | some rest => if q.long then some (['\n'], rest) else none
  | none =>
    match cs with
    | c :: rest =>
      if c = '\\' ∧ q.mark = '"' then escape? q.long rest
      else if isAllowed c then some ([c], rest)
      else none
    | [] => none

/-- Reads at most `fuel` pieces of a text, up to the marks after it. -/
def text? (q : Quotes) : Nat → List Char → Option (List Char × List Char)
  | 0, _ => none
  | fuel + 1, cs =>
    match q.closing? cs with
    | some found => some found
    | none => do
      let (piece, rest) ← q.piece? cs
      let (text, rest) ← text? q fuel rest
      return (piece ++ text, rest)

end Quotes

/-- Reads a text in quotes. -/
def quoted? (cs : List Char) : Option (String × List Char) := do
  let (q, rest) ← Quotes.opening? cs
  let (text, rest) ← q.text? (rest.length + 1) rest
  return (.ofList text, rest)

/-- Reads a text in one pair of quotes on one line. -/
def shortQuoted? : List Char → Option (String × List Char)
  | c :: cs => do
    if c = '"' ∨ c = '\'' then
      let (text, rest) ← Quotes.text? ⟨c, false⟩ (cs.length + 1) cs
      return (.ofList text, rest)
    else none
  | [] => none

end BrowserScript.Toml
