/-
# BrowserScript.Canonical -- commands as canonical lines

Every command has one written form: its canonical name, its selector with the
fallbacks in order, then its parameters in the order of their keys, one space between
any two fields and quotes only where they are needed.

There is one exception to the order. After a selector, a parameter whose key is
`fallback` would be read as a link of the selector, so with a selector it is written
**first**.
-/
import BrowserScript.Command
import BrowserScript.Text.Quoted

namespace BrowserScript

open Text (quote)

/-- A locator as a field. -/
def Locator.render (l : Locator) : String :=
  l.strategy.name ++ "=" ++ quote l.value

/-- A selector as fields: its locator, then the locator of each fallback after the
linking word. Fallbacks of fallbacks are not written. -/
def Selector.render (s : Selector) : String :=
  s.locator.render ++
    String.join (s.fallbacks.map fun f => " " ++ fallbackWord ++ " " ++ f.locator.render)

/-- A parameter as a field, with the space before it. -/
def renderParam (key value : String) : String :=
  " " ++ quote key ++ "=" ++ quote value

namespace Command

/-- The parameters that stand before the selector. -/
def leadingParams (c : Command) : List (String × String) :=
  if c.selector.isSome then c.params.entries.filter fun p => p.1 == fallbackWord else []

/-- The parameters that stand after the selector, or all of them if there is none. -/
def trailingParams (c : Command) : List (String × String) :=
  if c.selector.isSome then c.params.entries.filter fun p => p.1 != fallbackWord
  else c.params.entries

/-- The canonical line of a command. -/
def render (c : Command) : String :=
  c.kind.name ++
    String.join (c.leadingParams.map fun p => renderParam p.1 p.2) ++
    (match c.selector with
      | some s => " " ++ s.render
      | none => "") ++
    String.join (c.trailingParams.map fun p => renderParam p.1 p.2)

end Command

end BrowserScript
