/-
# BrowserScript.Settings.Toml.Key -- keys of a settings file

A key is a row of names between dots. A name stands as it is if it consists of letters,
digits, underscores and dashes, and in quotes on one line otherwise. **A key has fewer
than eighty names.**
-/
import BrowserScript.Settings.Toml.Quoted

namespace BrowserScript.Toml

/-- Whether a character may stand in a name without quotes. -/
def isNameChar (c : Char) : Bool :=
  c.isAlphanum || c == '_' || c == '-'

/-- Reads one name of a key. -/
def name? (cs : List Char) : Option (String × List Char) :=
  let name := cs.takeWhile isNameChar
  if name.isEmpty then shortQuoted? cs else some (.ofList name, cs.dropWhile isNameChar)

/-- Reads at most `fuel` names between dots, with the spaces after them. -/
def names? : Nat → List Char → Option (List String × List Char)
  | 0, _ => none
  | fuel + 1, cs => do
    let (name, rest) ← name? (skipBlanks cs)
    match skipBlanks rest with
    | '.' :: rest =>
      let (names, rest) ← names? fuel rest
      return (name :: names, rest)
    | rest => return ([name], rest)

/-- The number of names that a key may have, and of lists and tables that may stand in
one another. -/
def depthLimit : Nat := 79

/-- Reads a key, with the spaces around it. -/
def key? (cs : List Char) : Option (List String × List Char) :=
  names? depthLimit cs

end BrowserScript.Toml
