/-
# BrowserScript.Text.Quoted -- values as they are written in a line

A value stands in a line as it is, unless it holds a character that the reading of
fields would not leave alone: a white character, a quote mark or a backslash. Then it
is put in double quotes, and a backslash goes before each double quote and each
backslash in it. **White characters that do not separate fields count as well**,
since a value may come to stand at the end of a line, where they are trimmed.
-/
import BrowserScript.Fields

namespace BrowserScript.Text

/-- Whether a character in a value calls for quotes. -/
def isSpecial (c : Char) : Bool :=
  isWhite c || Fields.isQuote c || c == '\\'

/-- The characters of a value with a backslash before each double quote and each
backslash. -/
def escape : List Char → List Char
  | [] => []
  | c :: cs => if c = '"' ∨ c = '\\' then '\\' :: c :: escape cs else c :: escape cs

/-- The written form of a value, as characters. -/
def quoteChars (cs : List Char) : List Char :=
  if cs.any isSpecial then '"' :: escape cs ++ ['"'] else cs

/-- The written form of a value. -/
def quote (value : String) : String :=
  .ofList (quoteChars value.toList)

end BrowserScript.Text
