/-
# BrowserScript.Command -- commands, and the reading of a line as one

A command is a kind with parameters and at most one selector. Its tokens are judged
in a fixed order, and **the first rule broken is the one reported**: there are
tokens; the first names a command; the name is known; a selector is there if the kind
needs one; and so are the parameters that the kind needs.

Of several selectors the first counts, of several values for one key the last. Other
command names among the tokens have no effect.
-/
import BrowserScript.Token
import BrowserScript.Params
import BrowserScript.LineError

namespace BrowserScript

/-- One instruction of a script. -/
structure Command where
  kind : CommandKind
  params : Params
  selector : Option Selector
  deriving DecidableEq

namespace Command

/-- The command of a kind that the tokens after its name describe. -/
def build (kind : CommandKind) (tokens : List Token) : Except Fault Command :=
  let selector := (tokens.findSome? Token.selector?).map Selector.ofChain
  let params := Params.ofList (tokens.filterMap Token.param?)
  if kind.requiresSelector && selector.isNone then .error (.missingSelector kind)
  else
    match kind.requiredParams.find? fun key => (params.get? key).isNone with
    | some key => .error (.missingParameter kind key)
    | none => .ok ⟨kind, params, selector⟩

/-- The command of a row of tokens. -/
def ofTokens : List Token → Except Fault Command
  | [] => .error .emptyTokens
  | .command name :: rest =>
    match CommandKind.ofName? name with
    | none => .error (.unknownCommand name)
    | some kind => build kind rest
  | _ :: _ => .error .missingCommand

/-- The command of a text that stands on a line by itself, if the text is not blank
and not a comment. -/
def ofText (text : String) : Except Fault (Option Command) :=
  match Token.ofLine text with
  | [] => .ok none
  | tokens => (ofTokens tokens).map some

/-- The outcome of a reading, with the line that a fault is on. -/
def onLine {α : Type} (line : Nat) : Except Fault α → Except LineError α :=
  Except.mapError (⟨line, ·⟩)

/-- The command of a row of tokens, which are those of the line with this number. -/
def parse (tokens : List Token) (line : Nat) : Except LineError Command :=
  onLine line (ofTokens tokens)

/-- The command of a line with this number. -/
def ofLine (text : String) (line : Nat) : Except LineError (Option Command) :=
  onLine line (ofText text)

end Command

end BrowserScript
