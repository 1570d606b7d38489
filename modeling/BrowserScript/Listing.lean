/-
# BrowserScript.Listing -- lists of items in four formats

What a command of the program reports is a list of items, each with a row of cells for
people and a value for other programs. The format decides which of the two is written,
and how.
-/
import BrowserScript.Listing.Table
import BrowserScript.Value.Json
import BrowserScript.Value.Yaml

namespace BrowserScript

/-- How a list is written. -/
inductive ListFormat where
  | table
  | json
  | yaml
  | plain
  deriving DecidableEq, Repr

namespace ListFormat

/-- Every format. -/
def all : List ListFormat :=
  [table, json, yaml, plain]

/-- The name of a format. -/
def name : ListFormat → String
  | table => "table"
  | json => "json"
  | yaml => "yaml"
  | plain => "plain"

/-- The name of a format with a capital letter. -/
def label : ListFormat → String
  | table => "Table"
  | json => "Json"
  | yaml => "Yaml"
  | plain => "Plain"

/-- The format of a name, in exactly this spelling. -/
def ofName? (name : String) : Option ListFormat :=
  all.find? fun f => f.name == name

end ListFormat

/-- A kind of item that can be listed. -/
class Listed (α : Type) where
  /-- The headers of its columns. -/
  headers : List String
  /-- The cells of an item, one for each header. -/
  cells : α → List String
  /-- An item as a value. -/
  value : α → Value

namespace Listing

variable {α : Type} [Listed α]

/-- An item as lines of a header and a cell. -/
def plainItem (item : α) : String :=
  String.join (List.zipWith (fun h c => h ++ ": " ++ c ++ "\n") (Listed.headers α)
    (Listed.cells item))

/-- A list of items in a format. -/
def render (format : ListFormat) (items : List α) : String :=
  match format with
  | .table =>
    if items.isEmpty then "No items found.\n"
    else Table.draw (Listed.headers α) (items.map Listed.cells)
  | .json => (Value.list (items.map Listed.value)).toJson ++ "\n"
  | .yaml => (Value.list (items.map Listed.value)).toYaml
  | .plain => String.join ((items.map plainItem).intersperse "---\n")

end Listing

end BrowserScript
