/-
# BrowserScript.Token -- the tokens of a line

A line is read as a row of tokens: the name of its command, then selectors and
parameters. The reading **never fails**. A field that is neither a selector nor a
parameter is set aside, and whether the tokens make a command is for
`BrowserScript.Command` to say.

Each field after the name is looked at once, from left to right.

  * A field whose text before the first `=` names a strategy begins a selector.
  * Directly after a selector, the word `fallback` and one more selector field, or
    one field `fallback=` followed by the text of one, **continue** its chain.
  * Of the rest, a field with a nonempty text before its first `=` is a parameter.
-/
import BrowserScript.Fields
import BrowserScript.CommandKind
import BrowserScript.Selector

namespace BrowserScript

/-- What a line is made of. -/
inductive Token where
  /-- The name of a command, in its canonical spelling if it is an older one. -/
  | command (name : String)
  | selector (chain : SelectorChain)
  | param (key value : String)
  deriving DecidableEq, Repr

namespace Token

/-- The chain of a selector token. -/
def selector? : Token → Option SelectorChain
  | selector chain => some chain
  | _ => none

/-- The key and the value of a parameter token. -/
def param? : Token → Option (String × String)
  | param key value => some (key, value)
  | _ => none

end Token

/-! ## Reading one field -/

/-- The word that links the selector after it to the one before it, and the key of
the short form of such a link. -/
def fallbackWord : String :=
  "fallback"

/-- The locator that a field writes out: a strategy's name, `=` and a value. -/
def Locator.ofField? (field : String) : Option Locator := do
  let (name, value) ← Fields.assignment? field
  let strategy ← Strategy.ofName? name
  return ⟨strategy, value⟩

/-- **A field is read as a locator exactly when it is the text of one.** -/
theorem Locator.ofField?_eq_some_iff {field : String} {l : Locator} :
    ofField? field = some l ↔ field = l.text := by
  have hname : ∀ s : Strategy, '=' ∉ s.name.toList := by intro s; cases s <;> decide
  constructor
  · intro h
    simp only [ofField?, Option.bind_eq_bind, Option.bind_eq_some_iff, Option.pure_def,
      Option.some.injEq, Prod.exists] at h
    obtain ⟨name, value, ha, s, hs, rfl⟩ := h
    rw [(Fields.assignment?_eq_some_iff.1 ha).1, ← Strategy.ofName?_eq_some_iff.1 hs]
    rfl
  · rintro rfl
    have ha : Fields.assignment? l.text = some (l.strategy.name, l.value) :=
      Fields.assignment?_eq_some_iff.2 ⟨rfl, hname _⟩
    simp [ofField?, ha, Strategy.ofName?_eq_some_iff.2 rfl]

/-- The locator of a link in its short form: `fallback=` and then a selector field. -/
def Locator.ofLink? (field : String) : Option Locator := do
  let (key, value) ← Fields.assignment? field
  if key = fallbackWord then ofField? value else none

/-- What the reading makes of a field: a token, or nothing. -/
inductive Piece where
  | token (t : Token)
  | ignored (field : String)
  deriving DecidableEq, Repr

namespace Piece

/-- The token, unless the field was set aside. -/
def token? : Piece → Option Token
  | token t => some t
  | ignored _ => none

/-- The field, if it was set aside. -/
def ignored? : Piece → Option String
  | token _ => none
  | ignored field => some field

/-- The piece that a field makes which is no part of a selector: a parameter, if
there is a key before its first `=`. -/
def ofRest (field : String) : Piece :=
  match Fields.assignment? field with
  | some (key, value) => if key = "" then ignored field else token (.param key value)
  | none => ignored field

/-! ## Reading the fields after the name -/

/-- Reads fields from left to right. `linking` says that a selector, or a link of
one, stands just before. The first part of the result holds the locators with which
the fields **continue that selector**, and there are none when no selector stands
there; the second part holds the pieces that come after. -/
def read (linking : Bool) : List String → List Locator × List Piece
  | [] => ([], [])
  | field :: rest =>
    match Locator.ofField? field with
    | some l =>
      let after := read true rest
      ([], token (.selector (.link l after.1)) :: after.2)
    | none =>
      if linking then
        match Locator.ofLink? field with
        | some l =>
          let after := read true rest
          (l :: after.1, after.2)
        | none =>
          if field = fallbackWord then
            match rest with
            | [] => ([], [ofRest field])
            | next :: beyond =>
              match Locator.ofField? next with
              | some l =>
                let after := read true beyond
                (l :: after.1, after.2)
              | none => ([], ofRest field :: (read false (next :: beyond)).2)
          else ([], ofRest field :: (read false rest).2)
      else ([], ofRest field :: (read false rest).2)

/-- The pieces of the fields of a line: the name of the command, then what the other
fields make. -/
def ofFields : List String → List Piece
  | [] => []
  | name :: rest => token (.command (CommandKind.resolveAlias name)) :: (read false rest).2

/-- The pieces of a line. -/
def ofLine (line : String) : List Piece :=
  ofFields (Fields.ofLine line)

end Piece

/-- The tokens of a row of fields. -/
def Token.ofFields (fields : List String) : List Token :=
  (Piece.ofFields fields).filterMap Piece.token?

/-- The tokens of a line: none when it is blank or a comment. -/
def Token.ofLine (line : String) : List Token :=
  ofFields (Fields.ofLine line)

end BrowserScript
