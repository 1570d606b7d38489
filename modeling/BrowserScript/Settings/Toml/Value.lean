/-
# BrowserScript.Settings.Toml.Value -- values of a settings file

A value is a text, a list, a table in braces, or one of those of which only the form
matters: a number, a truth value or a moment. A list may run over several lines, with
comments and a comma after its last item; a table in braces may not. **Fewer than eighty
lists and tables stand in one another.**
-/
import BrowserScript.Settings.Toml.Key
import BrowserScript.Settings.Toml.Moment
import BrowserScript.Settings.Toml.Number
import BrowserScript.Settings.Toml.Table

namespace BrowserScript.Toml

/-! ## Comments and gaps -/

/-- Skips a comment, if one stands here, up to the first character that cannot stand in
one. -/
def skipComment : List Char → List Char
  | '#' :: cs => cs.dropWhile isAllowed
  | cs => cs

/-- Skips spaces, ends of lines and at most `fuel` comments between the items of a list. -/
def skipGap : Nat → List Char → List Char
  | 0, cs => cs
  | fuel + 1, cs =>
    match skipSpace cs with
    | '#' :: rest => skipGap fuel (skipComment ('#' :: rest))
    | rest => rest

/-! ## Atoms -/

/-- Reads a number, a truth value or a moment. -/
def atom? (cs : List Char) : Option (List Char) :=
  match moment? cs with
  | some rest => some rest
  | none =>
    let isWordChar (c : Char) : Bool := isNameChar c || c == '+' || c == '.'
    let word := cs.takeWhile isWordChar
    if word = "true".toList ∨ word = "false".toList ∨ isNumber word then
      some (cs.dropWhile isWordChar)
    else none

/-! ## Lists and tables -/

/-- Reads at most `fuel` items of a list, up to its closing bracket. -/
def items? (item? : List Char → Option (Item × List Char)) :
    Nat → List Char → Option (List Item × List Char)
  | 0, _ => none
  | fuel + 1, cs =>
    match skipGap (cs.length + 1) cs with
    | ']' :: rest => some ([], rest)
    | cs => do
      let (item, rest) ← item? cs
      match skipGap (rest.length + 1) rest with
      | ',' :: rest =>
        let (items, rest) ← items? item? fuel rest
        return (item :: items, rest)
      | ']' :: rest => return ([item], rest)
      | _ => none

/-- Reads at most `fuel` members of a table in braces, up to its closing brace, and adds
them to those before. -/
def members? (item? : List Char → Option (Item × List Char)) :
    Nat → Entries → List Char → Option (Entries × List Char)
  | 0, _, _ => none
  | fuel + 1, before, cs => do
    let (key, rest) ← key? cs
    let (item, rest) ← item? (skipBlanks (← skipChar? '=' rest))
    let entries ← before.assign key item
    match skipBlanks rest with
    | ',' :: rest => members? item? fuel entries rest
    | '\x7d' :: rest => return (entries, rest)
    | _ => none

/-- Reads a value in which at most `depth` lists and tables stand in one another. -/
def value? : Nat → List Char → Option (Item × List Char)
  | _, [] => none
  | depth, '[' :: rest =>
    match depth with
    | 0 => none
    | depth + 1 => do
      let (items, rest) ← items? (value? depth) (rest.length + 1) rest
      return (.list items, rest)
  | depth, '\x7b' :: rest =>
    match depth with
    | 0 => none
    | depth + 1 =>
      match skipBlanks rest with
      | '\x7d' :: rest => some (.table .braces [], rest)
      | rest => do
        let (entries, rest) ← members? (value? depth) (rest.length + 1) [] rest
        return (.table .braces entries, rest)
  | _, c :: rest =>
    match quoted? (c :: rest) with
    | some (text, rest) => some (.text text, rest)
    | none => (atom? (c :: rest)).map fun rest => (.atom, rest)

end BrowserScript.Toml
