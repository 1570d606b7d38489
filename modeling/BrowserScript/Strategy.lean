/-
# BrowserScript.Strategy -- the ways of locating an element

A strategy says how the text of a selector is to be understood: as a style
selector, as a path, as the visible text and so on. Each has one name, in lower
case, which is also how it is written.
-/

namespace BrowserScript

/-- How the text of a selector names an element. -/
inductive Strategy where
  | css
  | xpath
  | text
  | placeholder
  | label
  | role
  | testid
  deriving DecidableEq, Repr

namespace Strategy

/-- Every strategy, in the order in which they are listed. -/
def all : List Strategy :=
  [css, xpath, text, placeholder, label, role, testid]

/-- The name of a strategy. -/
def name : Strategy → String
  | css => "css"
  | xpath => "xpath"
  | text => "text"
  | placeholder => "placeholder"
  | label => "label"
  | role => "role"
  | testid => "testid"

/-- The strategy of a name, in exactly this spelling. -/
def ofName? (name : String) : Option Strategy :=
  all.find? fun s => s.name == name

/-- A name belongs to at most one strategy, and every strategy is found by its name. -/
theorem ofName?_eq_some_iff {n : String} {s : Strategy} : ofName? n = some s ↔ s.name = n := by
  constructor
  · intro h
    simpa using List.find?_some h
  · rintro rfl
    cases s <;> decide

/-- What is said of a name that no strategy has. -/
def unknownMessage (name : String) : String :=
  "unknown selector strategy: " ++ name

end Strategy

end BrowserScript
