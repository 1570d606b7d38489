/-
# BrowserScript.Value.Yaml.Scalar -- texts as YAML scalars

A text is written plain unless it would then be read as something else. Two things
decide. **What it says:** an empty text and one that spells a null, a truth value or a
number are put in single quotes. **How it looks:** a text with an indicator where YAML
would see one, or with a space at either end, is put in single quotes too; one with a
character that is not printable is put in double quotes, and one of several lines is
written as a block. **Behind a break the next line is indented**, also where the break is
one of those that end no line of the file.
-/
import BrowserScript.Value.Yaml.Spelling

namespace BrowserScript.Value.Yaml

/-! ## Texts that look like structure -/

/-- Whether a character can be written outside double quotes. -/
def isPrintable (c : Char) : Bool :=
  let n := c.toNat
  c == '\n' || (0x20 ≤ n && n ≤ 0x7E) || (0xA0 ≤ n && n != 0xFEFF && n != 0xFFFE && n != 0xFFFF)

/-- Whether a character ends a line. -/
def isBreak (c : Char) : Bool :=
  c == '\n' || c == '\r' || c == '\u0085' || c == '\u2028' || c == '\u2029'

/-- Whether a character, or the end of the text, leaves a gap. -/
def isGap : Option Char → Bool
  | none => true
  | some c => c == ' ' || c == '\t' || c == '\x00' || isBreak c

/-- The characters that mean something at the start of a plain scalar. -/
def isIndicator (c : Char) : Bool :=
  "#,[]\x7b\x7d&*!|>'\"%@\x60".toList.contains c

/-- Whether an indicator stands after the first character: a colon with a gap after it,
or a hash with a gap before it. -/
def hasInnerIndicator : List Char → Bool
  | [] => false
  | [_] => false
  | b :: c :: rest =>
    (c == ':' && isGap rest.head?) || (c == '#' && isGap (some b)) || hasInnerIndicator (c :: rest)

/-- Whether a plain scalar with this text would be taken for structure. -/
def looksStructural : List Char → Bool
  | [] => false
  | c :: rest =>
    isIndicator c ||
    ((c == '?' || c == ':' || c == '-') && isGap rest.head?) ||
    ['-', '-', '-'].isPrefixOf (c :: rest) || ['.', '.', '.'].isPrefixOf (c :: rest) ||
    hasInnerIndicator (c :: rest)

/-- Whether a character of one kind stands right before one of another. -/
def hasPair (p q : Char → Bool) : List Char → Bool
  | [] => false
  | [_] => false
  | b :: c :: rest => (p b && q c) || hasPair p q (c :: rest)

/-! ## The choice of a style -/

/-- How a text is written. -/
inductive Style where
  | plain
  | single
  | double
  | block
  deriving DecidableEq, Repr

/-- Whether a text may be written in double quotes only. -/
def needsDouble (cs : List Char) : Bool :=
  cs.any (fun c => !isPrintable c) || hasPair (· == ' ') isBreak cs

/-- The style of a text. -/
def styleOf (s : String) : Style :=
  let cs := s.toList
  let isEdge (c : Option Char) : Bool := c == some ' ' || c.any isBreak
  if cs.contains '\n' then
    if needsDouble cs || cs.getLast? == some ' ' then .double else .block
  else if needsDouble cs || hasPair isBreak (· == ' ') cs then .double
  else if spellsOther s || looksStructural cs || isEdge cs.head? || isEdge cs.getLast? ||
      cs.any isBreak then .single
  else .plain

/-- Whether a text can be a key on the line of its value: one line of at most 128 bytes. -/
def isSimpleKey (s : String) : Bool :=
  !s.toList.any isBreak && s.utf8ByteSize ≤ 128

/-! ## Writing -/

/-- A hexadecimal digit, with capital letters. -/
def hexDigit (n : Nat) : Char :=
  if n < 10 then Char.ofNat ('0'.toNat + n) else Char.ofNat ('A'.toNat + (n - 10))

/-- A number as a row of hexadecimal digits of a given length. -/
def hexDigits : Nat → Nat → List Char
  | 0, _ => []
  | width + 1, n => hexDigits width (n / 16) ++ [hexDigit (n % 16)]

/-- The characters that have a short escape, and the letter of it. -/
def shortEscapes : List (Char × Char) :=
  [('\x00', '0'), ('\x07', 'a'), ('\x08', 'b'), ('\t', 't'), ('\n', 'n'), ('\x0b', 'v'),
   ('\x0c', 'f'), ('\r', 'r'), ('\x1b', 'e'), ('"', '"'), ('\\', '\\'), ('\u0085', 'N'),
   ('\u2028', 'L'), ('\u2029', 'P')]

/-- A character inside double quotes. -/
def doubleChar (c : Char) : List Char :=
  match shortEscapes.lookup c with
  | some letter => ['\\', letter]
  | none =>
    if isPrintable c then [c]
    else if c.toNat ≤ 0xFF then '\\' :: 'x' :: hexDigits 2 c.toNat
    else if c.toNat ≤ 0xFFFF then '\\' :: 'u' :: hexDigits 4 c.toNat
    else '\\' :: 'U' :: hexDigits 8 c.toNat

/-- A character inside single quotes. -/
def singleChar (c : Char) : List Char :=
  if c = '\'' then ['\'', '\''] else [c]

/-- A text of which each line begins with spaces, unless there is nothing else in it. What
stands in front decides whether the first line begins here. -/
def indentLines (indent : Nat) (write : Char → List Char) : Bool → List Char → List Char
  | _, [] => []
  | atStart, c :: cs =>
    if isBreak c then c :: indentLines indent write true cs
    else
      (if atStart then List.replicate indent ' ' else []) ++ write c ++
        indentLines indent write false cs

/-- A text in single quotes. -/
def singleText (indent : Nat) (cs : List Char) : List Char :=
  let close := if cs.getLast?.any isBreak then List.replicate indent ' ' else []
  '\'' :: indentLines indent singleChar false cs ++ close ++ ['\'']

/-- What stands in front of a block. A digit says how far its lines are indented if the
first begins with a space, and a sign says what is at the end: `-` for no break, `+` for
several. -/
def blockHeader (cs : List Char) : List Char :=
  let isBreakAt (c : Option Char) : Bool := c.any isBreak
  let hint := if cs.head? == some ' ' || isBreakAt cs.head? then ['2'] else []
  let ending :=
    if !isBreakAt cs.getLast? then ['-']
    else if cs.length = 1 || isBreakAt cs.dropLast.getLast? then ['+']
    else []
  '|' :: hint ++ ending

/-- A text as a block of lines. -/
def blockText (indent : Nat) (cs : List Char) : List Char :=
  blockHeader cs ++ '\n' :: indentLines indent (fun c => [c]) true cs

/-- A text as a scalar, whose further lines are indented. -/
def scalar (indent : Nat) (s : String) : String :=
  match styleOf s with
  | .plain => s
  | .single => .ofList (singleText indent s.toList)
  | .double => "\"" ++ .ofList (s.toList.flatMap doubleChar) ++ "\""
  | .block => .ofList (blockText indent s.toList)

/-- A text as a scalar, and the end of its line, which a block with a break at its end
needs no more. -/
def scalarLine (indent : Nat) (s : String) : String :=
  let isClosed := styleOf s = .block ∧ s.toList.getLast?.any isBreak
  scalar indent s ++ if isClosed then "" else "\n"

end BrowserScript.Value.Yaml
