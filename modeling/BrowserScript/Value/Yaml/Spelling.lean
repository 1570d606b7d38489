/-
# BrowserScript.Value.Yaml.Spelling -- texts that spell another kind of scalar

A reader of YAML takes some plain texts for a null, a truth value or a number. This module
says which, **by the spelling alone**: the few words for nulls and truth values, whole
numbers in four bases that fit a machine word of 128 bits, and decimal numbers that a
double can hold. A number too large for either is a text like any other.
-/
import BrowserScript.Text.Numeral

namespace BrowserScript.Value.Yaml

open Numeral (digits? ofDigits fitsDouble)

/-! ## Whole numbers with a base -/

/-- The base that the two characters at the start of a number announce. -/
def baseOf? : List Char → Option (Nat × List Char)
  | '0' :: 'x' :: cs => some (16, cs)
  | '0' :: 'o' :: cs => some (8, cs)
  | '0' :: 'b' :: cs => some (2, cs)
  | _ => none

/-- Whether a text spells a whole number with an announced base: up to 128 bits without
a minus sign, and up to 127 bits, or their lowest negative number, with one. -/
def isBasedInteger (cs : List Char) : Bool :=
  let fits (bound : Nat) (cs : List Char) : Bool :=
    match baseOf? cs with
    | none => false
    | some (base, ds) =>
      match digits? base ds with
      | none => false
      | some ds => ofDigits base ds ≤ bound
  match cs with
  | '-' :: rest => fits (Nat.pow 2 127) rest
  | '+' :: rest => fits (Nat.pow 2 128 - 1) rest
  | _ => fits (Nat.pow 2 128 - 1) cs

/-! ## Decimal numbers -/

/-- The exponent that ends a decimal number: nothing, or a letter, a sign and digits. -/
def exponent? : List Char → Option Int
  | [] => some 0
  | e :: cs =>
    if e = 'e' ∨ e = 'E' then
      match cs with
      | '-' :: ds => (digits? 10 ds).map fun ds => -(ofDigits 10 ds : Int)
      | '+' :: ds => (digits? 10 ds).map fun ds => (ofDigits 10 ds : Int)
      | ds => (digits? 10 ds).map fun ds => (ofDigits 10 ds : Int)
    else none

/-- Whether a text without a sign spells a decimal number. -/
def isDecimal (cs : List Char) : Bool :=
  let whole := cs.takeWhile Char.isDigit
  let rest := cs.dropWhile Char.isDigit
  let fraction := match rest with
    | '.' :: rest => rest.takeWhile Char.isDigit
    | _ => []
  let tail := match rest with
    | '.' :: rest => rest.dropWhile Char.isDigit
    | rest => rest
  match digits? 10 (whole ++ fraction), exponent? tail with
  | some ds, some e => fitsDouble ds (e - fraction.length)
  | _, _ => false

/-- A text without one sign in front. -/
def dropSign : List Char → List Char
  | '-' :: cs => cs
  | '+' :: cs => cs
  | cs => cs

/-! ## All spellings -/

/-- Whether a text spells a number. Digits with needless zeros in front are none by the
rules of YAML but are taken as one here, since other readers do. -/
def spellsNumber (s : String) : Bool :=
  let cs := s.toList
  isBasedInteger cs || isDecimal (dropSign cs) ||
    [".inf", ".Inf", ".INF"].contains (String.ofList (dropSign cs)) ||
    [".nan", ".NaN", ".NAN"].contains s ||
    match dropSign cs with
    | '0' :: ds => (digits? 10 ds).isSome
    | _ => false

/-- Whether a text spells something that is not a text. -/
def spellsOther (s : String) : Bool :=
  ["", "null", "Null", "NULL", "~", "true", "True", "TRUE", "false", "False", "FALSE"].contains s ||
    spellsNumber s

end BrowserScript.Value.Yaml
