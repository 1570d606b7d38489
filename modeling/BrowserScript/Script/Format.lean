/-
# BrowserScript.Script.Format -- scripts in canonical form

Formatting a script puts each of its commands in canonical form **in place**. Blank
lines, comments and lines with a fault stay as they are, and every line keeps its
ending, so that the formatted text has the same lines in the same order.
-/
import BrowserScript.Canonical
import BrowserScript.Script

namespace BrowserScript.Script

open Text (Line)

/-- A line in canonical form, with its ending. -/
def formatLine (l : Line) : String :=
  match Command.ofText l.body with
  | .ok (some command) => command.render ++ l.ending
  | _ => .ofList l.full

/-- A script in canonical form. -/
def format (source : String) : String :=
  String.join ((Line.cut source).map formatLine)

end BrowserScript.Script
