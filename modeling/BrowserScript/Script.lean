/-
# BrowserScript.Script -- scripts

A script is a text whose lines are read one by one, **each without regard to the
others**. What happens after a line with a fault is the caller's choice: under `abort`
the first fault is the outcome, under `skip` the faults are collected and the reading
goes on. Blank lines and comments yield nothing but are counted.
-/
import BrowserScript.Command
import BrowserScript.Text.Lines

namespace BrowserScript

/-- What to do about a line with a fault. -/
inductive ErrorPolicy where
  | abort
  | skip
  deriving DecidableEq, Repr

/-- The name of a policy. -/
def ErrorPolicy.name : ErrorPolicy → String
  | abort => "abort"
  | skip => "skip"

/-- The policy of a name, in exactly this spelling. -/
def ErrorPolicy.ofName? (name : String) : Option ErrorPolicy :=
  [abort, skip].find? fun p => p.name == name

/-- A command and the line that it stands on, counted from one. -/
structure Step where
  line : Nat
  command : Command
  deriving DecidableEq

/-- What the reading of a script yields: its commands and the faults that were passed
over, both in the order of their lines. -/
structure Script where
  steps : List Step
  errors : List LineError
  deriving DecidableEq

namespace Script

/-- A script with no line. -/
def empty : Script :=
  ⟨[], []⟩

/-- Puts a step before the others. -/
def consStep (step : Step) (s : Script) : Script :=
  { s with steps := step :: s.steps }

/-- Puts an error before the others. -/
def consError (error : LineError) (s : Script) : Script :=
  { s with errors := error :: s.errors }

/-- Reads lines, the first of which has the number `line`. -/
def ofLines (policy : ErrorPolicy) (line : Nat) : List String → Except LineError Script
  | [] => .ok empty
  | text :: texts =>
    match Command.ofLine text line with
    | .ok none => ofLines policy (line + 1) texts
    | .ok (some command) => (ofLines policy (line + 1) texts).map (consStep ⟨line, command⟩)
    | .error error =>
      match policy with
      | .abort => .error error
      | .skip => (ofLines policy (line + 1) texts).map (consError error)

/-- The lines of a script, without their endings. -/
def lines (source : String) : List String :=
  (Text.Line.cut source).map Text.Line.content

/-- Reads a script. -/
def parse (source : String) (policy : ErrorPolicy) : Except LineError Script :=
  ofLines policy 1 (lines source)

end Script

end BrowserScript
