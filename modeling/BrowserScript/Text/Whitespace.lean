/-
# BrowserScript.Text.Whitespace -- the blank characters

One class of characters says where a line begins and ends and which written
values need quotes. It is the Unicode property White_Space, twenty-five
characters in ten ranges. **It does not say where fields end**: only the space
U+0020 separates fields.
-/

namespace BrowserScript.Text

/-- The ranges of the Unicode property White_Space, as first and last code point
in ascending order. -/
def whiteRanges : List (Nat × Nat) :=
  [(0x09, 0x0D), (0x20, 0x20), (0x85, 0x85), (0xA0, 0xA0), (0x1680, 0x1680),
   (0x2000, 0x200A), (0x2028, 0x2029), (0x202F, 0x202F), (0x205F, 0x205F), (0x3000, 0x3000)]

/-- A character is white when its code point lies in one of the ranges. -/
def isWhite (c : Char) : Bool :=
  whiteRanges.any fun r => r.1 ≤ c.toNat && c.toNat ≤ r.2

/-- Drops the white characters in front. -/
def trimStart (cs : List Char) : List Char :=
  cs.dropWhile isWhite

/-- Drops the white characters at the end. -/
def trimEnd (cs : List Char) : List Char :=
  (cs.reverse.dropWhile isWhite).reverse

/-- What `trimEnd` leaves is the text up to where only white characters follow. -/
theorem trimEnd_append (cs : List Char) :
    trimEnd cs ++ (cs.reverse.takeWhile isWhite).reverse = cs := by
  rw [trimEnd, ← List.reverse_append, List.takeWhile_append_dropWhile, List.reverse_reverse]

end BrowserScript.Text
