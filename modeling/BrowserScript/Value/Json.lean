/-
# BrowserScript.Value.Json -- values as JSON text

The text has one item or member to a line and two spaces for each level of depth. An
empty list is `[]` and an empty record is a pair of braces. In a string **only the
double quote, the backslash and the control characters below U+0020 are escaped**: the
five that have a short form by that form, the others by four hexadecimal digits.
-/
import BrowserScript.Value

namespace BrowserScript.Value

/-! ## Strings -/

/-- A hexadecimal digit, with small letters. -/
def hexDigit (n : Nat) : Char :=
  if n < 10 then Char.ofNat ('0'.toNat + n) else Char.ofNat ('a'.toNat + (n - 10))

/-- A character inside a JSON string. -/
def jsonChar (c : Char) : List Char :=
  if c = '"' then ['\\', '"']
  else if c = '\\' then ['\\', '\\']
  else if c = '\n' then ['\\', 'n']
  else if c = '\r' then ['\\', 'r']
  else if c = '\t' then ['\\', 't']
  else if c = '\x08' then ['\\', 'b']
  else if c = '\x0c' then ['\\', 'f']
  else if c.toNat < 0x20 then ['\\', 'u', '0', '0', hexDigit (c.toNat / 16), hexDigit (c.toNat % 16)]
  else [c]

/-- A JSON string. -/
def jsonString (s : String) : String :=
  "\"" ++ .ofList (s.toList.flatMap jsonChar) ++ "\""

/-! ## Layout -/

/-- A new line at a level of depth. -/
def jsonBreak (depth : Nat) : String :=
  "\n" ++ .ofList (List.replicate (2 * depth) ' ')

mutual

/-- A value whose text begins at a level of depth. -/
def toJsonAt (depth : Nat) : Value → String
  | null => "null"
  | bool b => if b then "true" else "false"
  | number n => n.render
  | text s => jsonString s
  | list [] => "[]"
  | list (v :: vs) =>
    "[" ++ jsonBreak (depth + 1) ++ toJsonAt (depth + 1) v ++ jsonItems (depth + 1) vs ++
      jsonBreak depth ++ "]"
  | record [] => "\x7b\x7d"
  | record ((key, v) :: ms) =>
    "\x7b" ++ jsonBreak (depth + 1) ++ jsonString key ++ ": " ++ toJsonAt (depth + 1) v ++
      jsonMembers (depth + 1) ms ++ jsonBreak depth ++ "\x7d"

/-- The items after the first. -/
def jsonItems (depth : Nat) : List Value → String
  | [] => ""
  | v :: vs => "," ++ jsonBreak depth ++ toJsonAt depth v ++ jsonItems depth vs

/-- The members after the first. -/
def jsonMembers (depth : Nat) : List (String × Value) → String
  | [] => ""
  | (key, v) :: ms =>
    "," ++ jsonBreak depth ++ jsonString key ++ ": " ++ toJsonAt depth v ++ jsonMembers depth ms

end

/-- A value as JSON text, with no line feed at the end. -/
def toJson (v : Value) : String :=
  toJsonAt 0 v

end BrowserScript.Value
