/-
# BrowserScript.Settings.Toml.Number -- numbers of a settings file

Whole numbers in four bases and decimal fractions, with single underscores between digits.
**A whole number has to fit in 64 bits with a sign**, and a fraction must not be too large
for a double. A fraction that is too far below zero passes.
-/
import BrowserScript.Text.Numeral

namespace BrowserScript.Toml

/-- The digits of a text in a base, with single underscores between some of them. -/
def spacedDigits? (base : Nat) (cs : List Char) : Option (List Nat) :=
  if (cs.splitOn '_').any List.isEmpty then none
  else Numeral.digits? base (cs.filter (· != '_'))

/-- The digits of a decimal number with no needless zero in front. -/
def wholeDigits? (cs : List Char) : Option (List Nat) :=
  if cs.head? == some '0' && cs.length != 1 then none else spacedDigits? 10 cs

/-- A text without one sign in front. -/
def dropSign : List Char → List Char
  | '+' :: cs => cs
  | '-' :: cs => cs
  | cs => cs

/-- Whether digits in a base make a number up to a bound. -/
def isUpTo (bound base : Nat) (ds : Option (List Nat)) : Bool :=
  ds.any fun ds => Numeral.ofDigits base ds ≤ bound

/-- Whether a text is a whole number. -/
def isInteger : List Char → Bool
  | '0' :: 'x' :: ds => isUpTo (Nat.pow 2 63 - 1) 16 (spacedDigits? 16 ds)
  | '0' :: 'o' :: ds => isUpTo (Nat.pow 2 63 - 1) 8 (spacedDigits? 8 ds)
  | '0' :: 'b' :: ds => isUpTo (Nat.pow 2 63 - 1) 2 (spacedDigits? 2 ds)
  | '-' :: ds => isUpTo (Nat.pow 2 63) 10 (wholeDigits? ds)
  | cs => isUpTo (Nat.pow 2 63 - 1) 10 (wholeDigits? (dropSign cs))

/-- The exponent that a text ends with: nothing, or a letter, a sign and digits. -/
def exponent? : List Char → Option Int
  | [] => some 0
  | e :: cs =>
    if e = 'e' ∨ e = 'E' then do
      let n : Int := Numeral.ofDigits 10 (← spacedDigits? 10 (dropSign cs))
      return if cs.head? = some '-' then -n else n
    else none

/-- Whether a text is a number with a fraction or an exponent. -/
def isFraction (cs : List Char) : Bool :=
  let isDigitMark (c : Char) : Bool := c.isDigit || c == '_'
  let fits (ds : List Nat) (exponent : Int) : Bool :=
    cs.head? == some '-' || Numeral.fitsDouble ds exponent
  let size := dropSign cs
  match wholeDigits? (size.takeWhile isDigitMark), size.dropWhile isDigitMark with
  | some whole, '.' :: rest =>
    match spacedDigits? 10 (rest.takeWhile isDigitMark), exponent? (rest.dropWhile isDigitMark) with
    | some places, some e => fits (whole ++ places) (e - places.length)
    | _, _ => false
  | some whole, e :: rest => (exponent? (e :: rest)).any (fits whole)
  | _, _ => false

/-- Whether a text is a number, or one of the words that stand for none and for a number
without bounds. -/
def isNumber (cs : List Char) : Bool :=
  isInteger cs || isFraction cs || dropSign cs == ['i', 'n', 'f'] || dropSign cs == ['n', 'a', 'n']

end BrowserScript.Toml
