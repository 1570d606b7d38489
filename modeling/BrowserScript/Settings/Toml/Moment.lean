/-
# BrowserScript.Settings.Toml.Moment -- dates and times of a settings file

A date, a time of day, or both with perhaps an offset from universal time. **Every part is
in range**: a month has the days that it has in its year, and a minute has up to sixty-one
seconds, for the sake of leap seconds.
-/
import BrowserScript.Text.Numeral

namespace BrowserScript.Toml

/-- Reads a number of exactly `width` digits, which is to lie between two bounds. -/
def numberWithin? (width least most : Nat) (cs : List Char) : Option (Nat × List Char) := do
  if cs.length < width then none
  else
    let n := Numeral.ofDigits 10 (← Numeral.digits? 10 (cs.take width))
    if least ≤ n ∧ n ≤ most then some (n, cs.drop width) else none

/-- Skips a character that has to stand here. -/
def skipChar? (c : Char) : List Char → Option (List Char)
  | d :: cs => if d = c then some cs else none
  | [] => none

/-! ## Dates -/

/-- Whether a year has a day more than others. -/
def isLeapYear (year : Nat) : Bool :=
  year % 4 == 0 && (year % 100 != 0 || year % 400 == 0)

/-- The number of days of a month. -/
def daysOf (year month : Nat) : Nat :=
  if month = 2 then if isLeapYear year then 29 else 28
  else if month = 4 ∨ month = 6 ∨ month = 9 ∨ month = 11 then 30
  else 31

/-- Reads a date. -/
def date? (cs : List Char) : Option (List Char) := do
  let (year, cs) ← numberWithin? 4 0 9999 cs
  let (month, cs) ← numberWithin? 2 1 12 (← skipChar? '-' cs)
  let (_, cs) ← numberWithin? 2 1 (daysOf year month) (← skipChar? '-' cs)
  return cs

/-! ## Times -/

/-- Reads hours and minutes. -/
def hourMinute? (cs : List Char) : Option (List Char) := do
  let (_, cs) ← numberWithin? 2 0 23 cs
  let (_, cs) ← numberWithin? 2 0 59 (← skipChar? ':' cs)
  return cs

/-- Skips a fraction of a second, if one stands here. -/
def skipFraction : List Char → List Char
  | '.' :: c :: cs => if c.isDigit then cs.dropWhile Char.isDigit else '.' :: c :: cs
  | cs => cs

/-- Reads a time of day. -/
def time? (cs : List Char) : Option (List Char) := do
  let cs ← hourMinute? cs
  let (_, cs) ← numberWithin? 2 0 60 (← skipChar? ':' cs)
  return skipFraction cs

/-- Skips an offset from universal time, if one stands here. -/
def skipOffset : List Char → List Char
  | 'Z' :: cs => cs
  | 'z' :: cs => cs
  | '+' :: cs => (hourMinute? cs).getD ('+' :: cs)
  | '-' :: cs => (hourMinute? cs).getD ('-' :: cs)
  | cs => cs

/-! ## Both -/

/-- Reads a date, a time of day, or both. -/
def moment? (cs : List Char) : Option (List Char) :=
  match date? cs with
  | none => time? cs
  | some [] => some []
  | some (c :: rest) =>
    if c = 'T' ∨ c = 't' ∨ c = ' ' then
      match time? rest with
      | some rest => some (skipOffset rest)
      | none => some (c :: rest)
    else some (c :: rest)

end BrowserScript.Toml
