/-
# BrowserScript.Settings.Toml.Table -- what the keys of a settings file stand for

A table gives items to names, and an item may be a table again. A key of several names
leads through tables, which come to be on the way. **How a table came to be decides what
may still be put into it:** one in braces is complete, one that keys with dots lead
through grows by such keys only, and one that only longer headers lead through may get a
header of its own once.
-/

namespace BrowserScript.Toml

/-- How a table came to be. -/
inductive Origin where
  /-- It stands in braces. -/
  | braces
  /-- It has a header of its own. -/
  | header
  /-- A longer header leads through it. -/
  | passage
  /-- A key with dots leads through it. -/
  | dotted
  deriving DecidableEq, Repr

/-- What a name stands for. Of a number, a truth value and a moment it only matters that it
is none of the others, and of several tables under one header only the newest can still
grow. -/
inductive Item where
  | text (s : String)
  | atom
  | list (items : List Item)
  | table (origin : Origin) (entries : List (String × Item))
  | tables (newest : List (String × Item))
  deriving Inhabited, Repr

/-- The names of a table with what they stand for. -/
abbrev Entries : Type :=
  List (String × Item)

namespace Entries

/-- Lets a name stand for an item. -/
def put (name : String) (item : Item) : Entries → Entries
  | [] => [(name, item)]
  | (n, i) :: es => if n = name then (name, item) :: es else (n, i) :: put name item es

/-- Lets a key stand for an item, unless it stands for something already or leads through
what cannot grow by keys with dots. -/
def assign : List String → Item → Entries → Option Entries
  | [], _, _ => none
  | [name], item, es => if (es.lookup name).isNone then some (put name item es) else none
  | name :: next :: rest, item, es =>
    match es.lookup name with
    | none => do
      return put name (.table .dotted (← assign (next :: rest) item [])) es
    | some (.table origin below) =>
      if origin = .dotted ∨ (origin = .passage ∧ rest ≠ []) then do
        return put name (.table origin (← assign (next :: rest) item below)) es
      else none
    | some (.tables newest) =>
      if rest ≠ [] then do return put name (.tables (← assign (next :: rest) item newest)) es
      else none
    | some _ => none

/-- Changes the table that a header leads to. -/
def within (change : Entries → Option Entries) : List String → Entries → Option Entries
  | [], es => change es
  | name :: rest, es =>
    match es.lookup name with
    | none => do return put name (.table .passage (← within change rest [])) es
    | some (.table origin below) =>
      if origin = .braces then none
      else do return put name (.table origin (← within change rest below)) es
    | some (.tables newest) => do return put name (.tables (← within change rest newest)) es
    | some _ => none

/-- Begins the table of a header. -/
def beginTable (name : String) (es : Entries) : Option Entries :=
  match es.lookup name with
  | none => some (put name (.table .header []) es)
  | some (.table .passage below) => some (put name (.table .header below) es)
  | some _ => none

/-- Begins one more of several tables under one header. -/
def beginOneOfTables (name : String) (es : Entries) : Option Entries :=
  match es.lookup name with
  | none => some (put name (.tables []) es)
  | some (.tables _) => some (put name (.tables []) es)
  | some _ => none

/-- Begins what a header names, below the tables that it leads through. -/
def beginAt (begin : String → Entries → Option Entries) (key : List String) (es : Entries) :
    Option Entries := do
  let name ← key.getLast?
  within (begin name) key.dropLast es

end Entries

end BrowserScript.Toml
