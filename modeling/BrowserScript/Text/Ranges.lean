/-
# BrowserScript.Text.Ranges -- sets of characters as ranges of code points

A property of characters is kept as the ranges of code points that have it, **in ascending
order and apart from one another**, each with its first and its last code point.
-/

namespace BrowserScript.Text

/-- A set of characters. -/
abbrev Ranges : Type :=
  List (Nat × Nat)

/-- Whether a character lies in one of the ranges. -/
def Ranges.has (ranges : Ranges) (c : Char) : Bool :=
  ranges.any fun r => r.1 ≤ c.toNat && c.toNat ≤ r.2

end BrowserScript.Text
