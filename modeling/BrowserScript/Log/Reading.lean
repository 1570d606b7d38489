/-
# BrowserScript.Log.Reading -- what the reading of lines and scripts notes down

The reading of a line notes each field that it sets aside and then, if the name of the
command is known, each token that has no effect. The reading of a script notes these
line by line, each line that it passes over, and at the end what it has found. **A
reading that stops at a fault does not reach its end.**
-/
import BrowserScript.Log
import BrowserScript.Script

namespace BrowserScript

/-- A field of a line that is set aside. -/
def LogEvent.ignoredField (field : String) : LogEvent :=
  ⟨.trace, "ignoring unrecognised field", [("field", field)]⟩

/-- A token after the name that has no effect: a further selector or a further name. -/
def LogEvent.surplusToken? (line : Nat) : Token → Option LogEvent
  | .selector chain =>
    some ⟨.debug, "ignoring extra selector",
      [("line", toString line), ("strategy", chain.head.strategy.name),
       ("value", chain.head.value)]⟩
  | .command name =>
    some ⟨.debug, "ignoring stray command token", [("line", toString line), ("name", name)]⟩
  | .param _ _ => none

/-- A line that is passed over. -/
def LogEvent.skippedLine (e : LineError) : LogEvent :=
  ⟨.warn, "skipping line", [("line", toString e.line), ("error", e.message)]⟩

/-- What a script was found to hold. -/
def LogEvent.parsedScript (s : Script) : LogEvent :=
  ⟨.debug, "parsed script",
    [("steps", toString s.steps.length), ("errors", toString s.errors.length)]⟩

/-- The events of making a command of tokens, when the first names a known command. Of
the selectors only the first has an effect. -/
def Command.tokenEvents (line : Nat) : List Token → List LogEvent
  | .command name :: rest =>
    if (CommandKind.ofName? name).isSome then
      (rest.eraseP (·.selector?.isSome)).filterMap (LogEvent.surplusToken? line)
    else []
  | _ => []

/-- The events of making tokens of a line. -/
def Piece.lineEvents (text : String) : List LogEvent :=
  ((Piece.ofLine text).filterMap Piece.ignored?).map LogEvent.ignoredField

/-- The events of reading a line. -/
def Command.lineEvents (text : String) (line : Nat) : List LogEvent :=
  Piece.lineEvents text ++ Command.tokenEvents line (Token.ofLine text)

namespace Script

/-- The events of reading lines, the first of which has the number `line`, up to the
fault that ends the reading, if one does. -/
def lineEvents (policy : ErrorPolicy) (line : Nat) : List String → List LogEvent
  | [] => []
  | text :: texts =>
    Command.lineEvents text line ++
      match Command.ofLine text line with
      | .ok _ => lineEvents policy (line + 1) texts
      | .error e =>
        match policy with
        | .abort => []
        | .skip => LogEvent.skippedLine e :: lineEvents policy (line + 1) texts

/-- The events of reading a script. -/
def events (source : String) (policy : ErrorPolicy) : List LogEvent :=
  lineEvents policy 1 (lines source) ++
    match parse source policy with
    | .ok s => [LogEvent.parsedScript s]
    | .error _ => []

/-- The events of formatting a script, which reads each line by itself. -/
def formatEvents (source : String) : List LogEvent :=
  (Text.Line.cut source).zipIdx.flatMap fun l => Command.lineEvents l.1.body (l.2 + 1)

end Script

end BrowserScript
