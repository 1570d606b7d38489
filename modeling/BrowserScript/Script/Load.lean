/-
# BrowserScript.Script.Load -- scripts from files

Loading a script reads its file and then the script, and fails at the first of the two
that fails.
-/
import BrowserScript.Script
import BrowserScript.Workspace

namespace BrowserScript

/-- Why a script cannot be loaded. -/
inductive LoadError where
  | io (e : ReadError)
  | parse (e : LineError)
  deriving DecidableEq, Repr

namespace LoadError

/-- What is said of the cause by itself. -/
def cause : LoadError → String
  | io e => e.message
  | parse e => e.message

/-- What is said of a script that cannot be loaded. -/
def message : LoadError → String
  | io e => "IO error: " ++ e.message
  | parse e => "Parse error: " ++ e.message

end LoadError

/-- The script in the file at a path. -/
def Script.load (ws : Workspace) (path : String) (policy : ErrorPolicy) :
    Except LoadError Script :=
  match ws.read path with
  | .error e => .error (.io e)
  | .ok source => (Script.parse source policy).mapError .parse

end BrowserScript
