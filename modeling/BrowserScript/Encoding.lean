/-
# BrowserScript.Encoding -- commands, selectors and scripts as values

What a script says can be written out as data, and a selector can be read back from
data. Its shape is a record with the members `strategy`, `value` and `fallbacks`, of
which the last may be left out when there are none; **members with other names are
ignored, a member that is there twice is refused**. A list of the same two or three
things is accepted in place of a record.
-/
import BrowserScript.Value
import BrowserScript.Script

namespace BrowserScript

/-! ## Writing -/

mutual

/-- A selector as a value. -/
def Selector.toValue : Selector → Value
  | ⟨l, fallbacks⟩ =>
    .record [("strategy", .text l.strategy.name), ("value", .text l.value),
      ("fallbacks", .list (Selector.toValues fallbacks))]

/-- Each of several selectors as a value. -/
def Selector.toValues : List Selector → List Value
  | [] => []
  | s :: ss => s.toValue :: Selector.toValues ss

end

/-- Parameters as a value. -/
def Params.toValue (ps : Params) : Value :=
  .record (ps.entries.map fun p => (p.1, .text p.2))

namespace Command

/-- The members of a command as a record. -/
def members (c : Command) : List (String × Value) :=
  [("type", .text c.kind.name), ("params", c.params.toValue),
   ("selector", (c.selector.map Selector.toValue).getD .null)]

/-- A command as a value. -/
def toValue (c : Command) : Value :=
  .record c.members

end Command

/-- A step as a value. -/
def Step.toValue (s : Step) : Value :=
  .record [("line", .natural s.line), ("command", s.command.toValue)]

/-- A script as a value. The errors are not part of it. -/
def Script.toValue (s : Script) : Value :=
  .record [("steps", .list (s.steps.map Step.toValue))]

/-! ## Reading -/

/-- The strategy that a value names. -/
def Strategy.ofValue? (v : Value) : Option Strategy :=
  v.caseName?.bind Strategy.ofName?

/-- The kind of command that a value names. -/
def CommandKind.ofValue? (v : Value) : Option CommandKind :=
  v.caseName?.bind CommandKind.ofName?

/-- The policy that a value names. -/
def ErrorPolicy.ofValue? (v : Value) : Option ErrorPolicy :=
  v.caseName?.bind ErrorPolicy.ofName?

namespace Selector

/-- The members of a selector that have been read. -/
structure Draft where
  strategy : Option Strategy
  value : Option String
  fallbacks : Option (List Selector)

/-- The selector of a draft, which needs a strategy and a value. -/
def Draft.complete? (d : Draft) : Option Selector := do
  let strategy ← d.strategy
  let value ← d.value
  return ⟨⟨strategy, value⟩, d.fallbacks.getD []⟩

/-- The text of a value. -/
def textOf? : Value → Option String
  | .text s => some s
  | _ => none

mutual

/-- The selector that a value describes. -/
def ofValue? : Value → Option Selector
  | .list [strategy, value] => do
    let strategy ← Strategy.ofValue? strategy
    let value ← textOf? value
    return ⟨⟨strategy, value⟩, []⟩
  | .list [strategy, value, fallbacks] => do
    let strategy ← Strategy.ofValue? strategy
    let value ← textOf? value
    let fallbacks ← fallbacksOf? fallbacks
    return ⟨⟨strategy, value⟩, fallbacks⟩
  | .record members => (draftOf? members).bind Draft.complete?
  | _ => none

/-- The fallbacks that a value describes: a list of selectors. -/
def fallbacksOf? : Value → Option (List Selector)
  | .list items => ofValues? items
  | _ => none

/-- The selectors that values describe, if each does. -/
def ofValues? : List Value → Option (List Selector)
  | [] => some []
  | v :: vs => do
    let s ← ofValue? v
    let ss ← ofValues? vs
    return s :: ss

/-- What the members of a record say of a selector. -/
def draftOf? : List (String × Value) → Option Draft
  | [] => some ⟨none, none, none⟩
  | (key, v) :: ms => do
    let d ← draftOf? ms
    if key = "strategy" then
      let strategy ← Strategy.ofValue? v
      if d.strategy.isSome then none else return { d with strategy := some strategy }
    else if key = "value" then
      let value ← textOf? v
      if d.value.isSome then none else return { d with value := some value }
    else if key = "fallbacks" then
      let fallbacks ← fallbacksOf? v
      if d.fallbacks.isSome then none else return { d with fallbacks := some fallbacks }
    else return d

end

end Selector

end BrowserScript
