/-
# BrowserScript.LineError -- why a line is not a command

A `Fault` is the rule that a row of tokens breaks, a `LineError` says on which line.
The line number is no part of the fault, so that moving a line in a script changes
the number and nothing else.
-/
import BrowserScript.CommandKind

namespace BrowserScript

/-- The first rule that a row of tokens breaks. -/
inductive Fault where
  | emptyTokens
  | missingCommand
  | unknownCommand (name : String)
  | missingSelector (kind : CommandKind)
  | missingParameter (kind : CommandKind) (param : String)
  deriving DecidableEq, Repr

/-- What is said of a fault. -/
def Fault.message : Fault → String
  | emptyTokens => "empty token stream"
  | missingCommand => "first token is not a command"
  | unknownCommand name => CommandKind.unknownMessage name
  | missingSelector kind => kind.name ++ " requires a selector"
  | missingParameter _ param => "missing required parameter: " ++ param

/-- A fault and the line that has it, counted from one. -/
structure LineError where
  line : Nat
  fault : Fault
  deriving DecidableEq, Repr

/-- What is said of a line that is not a command. -/
def LineError.message (e : LineError) : String :=
  "line " ++ toString e.line ++ ": " ++ e.fault.message

end BrowserScript
