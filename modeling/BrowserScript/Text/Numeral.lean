/-
# BrowserScript.Text.Numeral -- numbers as rows of digits

Digits in a base, the number that they make, and the one question about decimal fractions
that matters here: **whether a double can hold a number of that size.** The answer is
exact, since it is found on whole numbers.
-/

namespace BrowserScript.Numeral

/-- What a character is worth as a digit, if it is one in the base. Letters go on where
the ten digits end. -/
def digit? (base : Nat) (c : Char) : Option Nat :=
  let n :=
    if c.isDigit then c.toNat - '0'.toNat
    else if c.isLower then c.toNat - 'a'.toNat + 10
    else if c.isUpper then c.toNat - 'A'.toNat + 10
    else base
  if n < base then some n else none

/-- The digits of a text in a base, most significant first, if it consists of at least
one digit and nothing else. -/
def digits? (base : Nat) (cs : List Char) : Option (List Nat) :=
  if cs.isEmpty then none else cs.mapM (digit? base)

/-- The number that digits make in a base. -/
def ofDigits (base : Nat) (ds : List Nat) : Nat :=
  ds.foldl (fun n d => n * base + d) 0

/-- Whether decimal digits times a power of ten come to a number that a double holds,
which is one below the middle between the largest double and two to the 1024th. -/
def fitsDouble (ds : List Nat) (exponent : Int) : Bool :=
  let n := ofDigits 10 ds
  let size : Int := (Nat.toDigits 10 n).length + exponent
  if n = 0 then true
  else if size < 300 then true
  else if size > 320 then false
  else
    let limit := Nat.pow 2 1024 - Nat.pow 2 970
    let power := Nat.pow 10 exponent.natAbs
    if exponent < 0 then n < limit * power else n * power < limit

end BrowserScript.Numeral
