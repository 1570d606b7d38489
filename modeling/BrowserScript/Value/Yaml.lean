/-
# BrowserScript.Value.Yaml -- values as YAML text

The text is in block style: a member to a line, the members of an inner record indented
by two spaces, a dash before each item of a list. **A list inside a record is not
indented further than its key.** What is empty is written on the line of its key, and a
key that does not stand on one short line has a mark in front and its value below it.
-/
import BrowserScript.Value
import BrowserScript.Value.Yaml.Scalar

namespace BrowserScript.Value

/-- As many spaces as there are in front of a column. -/
def margin (column : Nat) : String :=
  .ofList (List.replicate column ' ')

/-- The text of a value with nothing in it that has a line of its own, and the end of its
line. Further lines of a text are indented. -/
def leafLine (indent : Nat) : Value → String
  | null => "null\n"
  | bool b => if b then "true\n" else "false\n"
  | number n => n.render ++ "\n"
  | text s => Yaml.scalarLine indent s
  | list _ => "[]\n"
  | record _ => "\x7b\x7d\n"

/-- The key of a member at a column, up to the colon. -/
def keyText (column : Nat) (key : String) : String :=
  if Yaml.isSimpleKey key then Yaml.scalar (column + 2) key ++ ":"
  else "? " ++ Yaml.scalarLine (column + 2) key ++ margin column ++ ":"

mutual

/-- What stands behind the colon of a key at a column, or behind the mark of an item, to
the end of its last line. -/
def yamlBehind (isSimple : Bool) (column : Nat) : Value → String
  | list items =>
    if items.isEmpty then " []\n"
    else if isSimple then "\n" ++ yamlItems (margin column) column items
    else yamlItems " " (column + 2) items
  | record members =>
    if members.isEmpty then " \x7b\x7d\n"
    else if isSimple then "\n" ++ yamlMembers (margin (column + 2)) (column + 2) members
    else yamlMembers " " (column + 2) members
  | v => " " ++ leafLine (column + 2) v

/-- The items of a list at a column, the first of them behind some text. -/
def yamlItems (front : String) (column : Nat) : List Value → String
  | [] => ""
  | v :: vs => front ++ "-" ++ yamlBehind false column v ++ yamlItems (margin column) column vs

/-- The members of a record at a column, the first of them behind some text. -/
def yamlMembers (front : String) (column : Nat) : List (String × Value) → String
  | [] => ""
  | (key, v) :: ms =>
    front ++ keyText column key ++ yamlBehind (Yaml.isSimpleKey key) column v ++
      yamlMembers (margin column) column ms

end

/-- A value as YAML text. -/
def toYaml : Value → String
  | list (v :: vs) => yamlItems "" 0 (v :: vs)
  | record (m :: ms) => yamlMembers "" 0 (m :: ms)
  | v => leafLine 2 v

end BrowserScript.Value
