/-
# BrowserScript.Text.Columns.Ligature -- letters that are written as one

In some scripts two letters that follow one another share their columns. A text is looked
at from its end, so a ligature is found at its last letter and followed to its first.
**Marks that can be ignored do not part a ligature, and the joiner neither**, but for the
Arabic one, which any mark may stand in and no joiner.
-/
import BrowserScript.Text.Columns.Width

namespace BrowserScript.Text

/-- The end of a ligature, as far as it has been seen. Some ligatures only come about with
a joiner inside. -/
inductive Ligature where
  | alef
  | lamed (joined : Bool)
  | ya (joined : Bool)
  | yaWithVowel
  | tifinaghConsonant (joined : Bool)
  | tifinaghJoiner
  | lisuTone
  | orkhonI (joined : Bool)
  | coengLetter
  | vowelE
  | vowelAi
  deriving DecidableEq, Repr

/-- The zero-width joiner. -/
def joiner : Char := '\u200D'

/-- The letters that end an Arabic ligature. -/
def alefLetters : Ranges :=
  [(0x0622, 0x0623), (0x0625, 0x0625), (0x0627, 0x0627), (0x0671, 0x0673), (0x0675, 0x0675),
   (0x0773, 0x0774), (0x0870, 0x0882)]

/-- The letters that begin an Arabic ligature. -/
def lamLetters : Ranges :=
  [(0x0644, 0x0644), (0x06B5, 0x06B8), (0x076A, 0x076A), (0x08A6, 0x08A6), (0x08C7, 0x08C7)]

/-- The letters that a Khmer sign puts below the letter before it. -/
def coengLetters : Ranges :=
  [(0x1780, 0x1782), (0x1784, 0x1787), (0x1789, 0x178C), (0x178E, 0x1793), (0x1795, 0x1798),
   (0x179B, 0x179D), (0x17A0, 0x17A0), (0x17A2, 0x17A2), (0x17A7, 0x17A7), (0x17AB, 0x17AC),
   (0x17AF, 0x17AF)]

/-- The consonants of which a Tifinagh joiner makes one. -/
def tifinaghConsonants : Ranges :=
  [(0x2D31, 0x2D65), (0x2D6F, 0x2D6F)]

/-- The marks that can be ignored. -/
def ignorableMarks : Ranges :=
  [(0x034F, 0x034F), (0x17B4, 0x17B5), (0x180B, 0x180D), (0x180F, 0x180F), (0xFE00, 0xFE0F),
   (0xE0100, 0xE01EF)]

/-- The characters without a column that part letters which would be joined. -/
def joiningBarriers : Ranges :=
  [(0x0605, 0x0605), (0x0890, 0x0891), (0x08E2, 0x08E2), (0x09BE, 0x09BE), (0x09D7, 0x09D7),
   (0x0B3E, 0x0B3E), (0x0B57, 0x0B57), (0x0BBE, 0x0BBE), (0x0BD7, 0x0BD7), (0x0CC0, 0x0CC0),
   (0x0CC2, 0x0CC2), (0x0CC7, 0x0CC8), (0x0CCA, 0x0CCB), (0x0CD5, 0x0CD6), (0x0D3E, 0x0D3E),
   (0x0D4E, 0x0D4E), (0x0D57, 0x0D57), (0x0DCF, 0x0DCF), (0x0DDF, 0x0DDF), (0x1160, 0x11FF),
   (0x1715, 0x1715), (0x1734, 0x1734), (0x180E, 0x180E), (0x1B35, 0x1B35), (0x1B3B, 0x1B3B),
   (0x1B3D, 0x1B3D), (0x1B43, 0x1B44), (0x1BAA, 0x1BAA), (0x1BF2, 0x1BF3), (0x200C, 0x200D),
   (0x2065, 0x2069), (0x302E, 0x302F), (0x3164, 0x3164), (0xA8FA, 0xA8FA), (0xA953, 0xA953),
   (0xA9C0, 0xA9C0), (0xD7B0, 0xD7C6), (0xD7CB, 0xD7FB), (0xFF9E, 0xFFA0), (0xFFF0, 0xFFF8),
   (0x111C0, 0x111C0), (0x111C2, 0x111C3), (0x11235, 0x11235), (0x1133E, 0x1133E),
   (0x1134D, 0x1134D), (0x11357, 0x11357), (0x113B8, 0x113B8), (0x113C2, 0x113C2),
   (0x113C5, 0x113C5), (0x113C7, 0x113C9), (0x113CF, 0x113CF), (0x113D1, 0x113D1),
   (0x114B0, 0x114B0), (0x114BD, 0x114BD), (0x115AF, 0x115AF), (0x116B6, 0x116B6),
   (0x11930, 0x11930), (0x1193D, 0x1193D), (0x1193F, 0x1193F), (0x11941, 0x11941),
   (0x11A3A, 0x11A3A), (0x11A84, 0x11A89), (0x11D46, 0x11D46), (0x11F02, 0x11F02),
   (0x11F41, 0x11F41), (0x16FF0, 0x16FF1), (0x1D165, 0x1D166), (0x1D16D, 0x1D172),
   (0xE0000, 0xE0000), (0xE0002, 0xE001F), (0xE0080, 0xE00FF), (0xE01F0, 0xE0FFF)]

namespace Ligature

/-- The ligature that a character is the end of. -/
def endingWith? (c : Char) : Option Ligature :=
  if alefLetters.has c then some .alef
  else if coengLetters.has c then some .coengLetter
  else if tifinaghConsonants.has c then some (.tifinaghConsonant false)
  else if c = '\u05DC' then some (.lamed false)
  else if c = '\u1A10' then some (.ya false)
  else if c = '\uA4FC' ∨ c = '\uA4FD' then some .lisuTone
  else if c.toNat = 0x10C03 then some (.orkhonI false)
  else if c.toNat = 0x16D67 then some .vowelE
  else if c.toNat = 0x16D68 then some .vowelAi
  else none

/-- The ligature with a joiner in front of what has been seen. -/
def join : Ligature → Ligature
  | lamed _ => lamed true
  | ya _ => ya true
  | tifinaghConsonant _ => tifinaghConsonant true
  | orkhonI _ => orkhonI true
  | l => l

/-- Whether a character in front leaves a ligature open, and which. -/
def passing? (c : Char) : Ligature → Option Ligature
  | alef => if charColumns c = 0 ∧ !joiningBarriers.has c then some alef else none
  | l =>
    if c = joiner then some l.join
    else if ignorableMarks.has c then some l
    else none

/-- What a character in front of the seen part adds if it belongs to the ligature, and what
it may still be the end of. It adds less than nothing if the seen part loses a column. -/
def continuing? (c : Char) : Ligature → Option (Int × Option Ligature)
  | alef => if lamLetters.has c then some (0, none) else none
  | lamed joined => if joined ∧ c = '\u05D0' then some (0, none) else none
  | ya joined => if joined ∧ c = '\u1A17' then some (0, some yaWithVowel) else none
  | yaWithVowel => if c = '\u1A15' then some (0, none) else none
  | tifinaghConsonant joined =>
    if c = '\u2D7F' then some (1, some tifinaghJoiner)
    else if joined ∧ tifinaghConsonants.has c then some (0, none)
    else none
  | tifinaghJoiner => if tifinaghConsonants.has c then some (-1, none) else none
  | lisuTone => if '\uA4F8' ≤ c ∧ c ≤ '\uA4FB' then some (0, none) else none
  | orkhonI joined => if joined ∧ c.toNat = 0x10C32 then some (0, none) else none
  | coengLetter => if c = '\u17D2' then some (-1, none) else none
  | vowelE =>
    if c.toNat = 0x16D63 ∨ c.toNat = 0x16D69 then some (0, none)
    else if c.toNat = 0x16D67 then some (0, some vowelAi)
    else if c.toNat = 0x16D68 then some (1, some vowelE)
    else none
  | vowelAi => if c.toNat = 0x16D63 then some (0, none) else none

end Ligature

end BrowserScript.Text
