/-
# BrowserScript.CommandLine.Request -- what a run can be asked for

A request names one task with what it needs, and the options that hold for every task. Or
it asks for a version or for help, or it cannot be understood.
-/
import BrowserScript.Settings

namespace BrowserScript.CommandLine

/-- What `fmt` does with the canonical form of a file. -/
inductive FormatMode where
  | print
  | check
  | write
  deriving DecidableEq, Repr

/-- What a run is to do. -/
inductive Task where
  /-- Report every line with a fault. -/
  | check (files : List String)
  /-- List the commands of a script. -/
  | parse (file : String) (skipErrors : Bool)
  /-- List the tokens of a line. -/
  | tokens (line : String)
  /-- Put a script in canonical form. -/
  | format (file : String) (mode : FormatMode)
  /-- Print the version numbers. -/
  | version
  deriving DecidableEq, Repr

/-- The options that hold for every task. -/
structure Options where
  format : Option ListFormat
  settings : String
  verbose : Bool
  deriving DecidableEq, Repr

/-- What the arguments ask for. -/
inductive Request where
  | run (options : Options) (task : Task)
  /-- The version of the program, or of one of its tasks. -/
  | showVersion (name : String)
  | showHelp
  /-- The arguments are not understood. -/
  | refuse
  deriving DecidableEq, Repr

end BrowserScript.CommandLine
