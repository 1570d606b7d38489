/-
# BrowserScript.Settings.Toml -- settings files

A settings file assigns values to keys, one assignment to a line, in the notation TOML. A
header in brackets names the table that the keys after it belong to; in double brackets it
begins one more of several tables under one name. **The whole file is refused if a line is
not well formed or says again what an earlier one has said.**
-/
import BrowserScript.Settings.Toml.Value

namespace BrowserScript.Toml

/-- One line of a settings file that says something. -/
inductive Definition where
  | assignment (key : List String) (item : Item)
  | header (key : List String)
  | listHeader (key : List String)
  deriving Repr

/-! ## Lines -/

/-- Reads the end of a line after what it says: spaces and perhaps a comment. -/
def lineEnd? (cs : List Char) : Option (List Char) :=
  match skipComment (skipBlanks cs) with
  | [] => some []
  | rest => newline? rest

/-- Reads a line that says something. -/
def definition? : List Char → Option (Definition × List Char)
  | '[' :: '[' :: cs => do
    let (key, rest) ← key? cs
    let rest ← lineEnd? (← skipChar? ']' (← skipChar? ']' rest))
    return (.listHeader key, rest)
  | '[' :: cs => do
    let (key, rest) ← key? cs
    let rest ← lineEnd? (← skipChar? ']' rest)
    return (.header key, rest)
  | cs => do
    let (key, rest) ← key? cs
    let (item, rest) ← value? depthLimit (skipBlanks (← skipChar? '=' rest))
    return (.assignment key item, ← lineEnd? rest)

/-- Reads at most `fuel` lines. -/
def lines? : Nat → List Char → Option (List Definition)
  | 0, _ => none
  | fuel + 1, cs =>
    match skipSpace cs with
    | [] => some []
    | '#' :: rest => do lines? fuel (← lineEnd? ('#' :: rest))
    | rest => do
      let (d, rest) ← definition? rest
      return d :: (← lines? fuel rest)

/-! ## The whole file -/

/-- What the lines so far have said, and the table that the next keys belong to. -/
structure Reading where
  above : List String
  entries : Entries

/-- Takes one more line into account. -/
def Reading.define (r : Reading) : Definition → Option Reading
  | .assignment key item => do
    return { r with entries := ← r.entries.within (·.assign key item) r.above }
  | .header key => do return ⟨key, ← r.entries.beginAt Entries.beginTable key⟩
  | .listHeader key => do return ⟨key, ← r.entries.beginAt Entries.beginOneOfTables key⟩

/-- A text without the mark of its encoding in front. -/
def dropEncodingMark : List Char → List Char
  | '\uFEFF' :: cs => cs
  | cs => cs

/-- What a settings file says, if all of it can be read. -/
def entries? (text : String) : Option Entries := do
  let cs := dropEncodingMark text.toList
  let ds ← lines? (cs.length + 1) cs
  return (← ds.foldlM Reading.define ⟨[], []⟩).entries

end BrowserScript.Toml
