/-
# BrowserScript.CommandLine.Show -- listing commands and tokens

The commands of a script are listed with their lines, the tokens of a line with their
kinds. A script with a fault is not listed at all, **unless faults are to be passed over**:
then each has a message, and the commands of the other lines are listed.
-/
import BrowserScript.CommandLine.Outcome
import BrowserScript.Canonical
import BrowserScript.Encoding
import BrowserScript.Listing
import BrowserScript.Log.Reading
import BrowserScript.Script.Load

namespace BrowserScript.CommandLine

/-! ## Listing commands -/

instance : Listed Step where
  headers := ["Line", "Command", "Selector", "Params"]
  cells s := [toString s.line, s.command.kind.name,
    (s.command.selector.map Selector.render).getD "-",
    String.intercalate " " (s.command.params.entries.map fun p => p.1 ++ "=" ++ p.2)]
  value s := .record (("line", .natural s.line) :: s.command.members)

/-- The event of beginning to load a script. -/
def loadingEvent (file : String) : LogEvent :=
  ⟨.debug, "Loading script " ++ file, []⟩

/-- Lists the commands of a script, after a message for each line that was passed over. -/
def runParse (ws : Workspace) (format : ListFormat) (policy : ErrorPolicy) (file : String) :
    Outcome :=
  let events := loadingEvent file ::
    match ws.read file with
    | .ok source => Script.events source policy
    | .error _ => []
  let notes := events.map Note.event
  match Script.load ws file policy with
  | .error e => .failed ws notes ⟨e.message, e.cause⟩
  | .ok s =>
    let skipped := s.errors.map fun e => Note.message ("! skipped " ++ e.message)
    ⟨0, Listing.render format s.steps, notes ++ skipped, ws⟩

/-! ## Listing tokens -/

/-- The kind of a token, as it is listed. -/
def tokenKind : Token → String
  | .command _ => "command"
  | .selector _ => "selector"
  | .param _ _ => "param"

/-- What a token says, as it is listed. -/
def tokenText : Token → String
  | .command name => name
  | .selector chain => chain.text
  | .param key value => key ++ "=" ++ value

instance : Listed Token where
  headers := ["Kind", "Value"]
  cells t := [tokenKind t, tokenText t]
  value t := .record [("kind", .text (tokenKind t)), ("value", .text (tokenText t))]

/-- Lists the tokens of a line. -/
def runTokens (ws : Workspace) (format : ListFormat) (line : String) : Outcome :=
  ⟨0, Listing.render format (Token.ofLine line), (Piece.lineEvents line).map .event, ws⟩

end BrowserScript.CommandLine
