/-
# BrowserScript.Text.Columns -- how wide a text is on a terminal

A text of one line is as wide as its characters together, **but for characters that are
shown as one**: an emoji with a selector or a modifier after it, emoji with a joiner in
between, and the ligatures of some scripts. Whether a character is part of such a sequence
depends on what follows it, so the columns are counted from the end of the text.
-/
import BrowserScript.Text.Columns.Emoji
import BrowserScript.Text.Columns.Ligature

namespace BrowserScript.Text

/-! ## What follows a character -/

/-- How the rest of a text begins, as far as it bears on the character in front. -/
inductive Onset where
  | plain
  | emoji
  | emojiModifier
  | flagLetter
  | flag
  /-- A joiner and an emoji. -/
  | joinedEmoji
  | ligature (l : Ligature)
  deriving DecidableEq, Repr

/-- What follows a character: perhaps a selector, and what comes after it. -/
structure Following where
  /-- A selector asks for an emoji. -/
  asEmoji : Bool
  /-- A selector asks for a text sign. -/
  asText : Bool
  onset : Onset
  deriving DecidableEq, Repr

namespace Following

/-- What follows without a selector. -/
def of (onset : Onset) : Following :=
  ⟨false, false, onset⟩

/-- The selector that asks for an emoji. -/
def emojiSelector : Char := '\uFE0F'

/-- The selector that asks for a text sign. -/
def textSelector : Char := '\uFE0E'

/-- What follows the characters in front of a selector that asks for an emoji. -/
def withEmojiSelector (f : Following) : Following :=
  match f.onset with
  | .ligature _ | .joinedEmoji => { f with asEmoji := true }
  | _ => ⟨true, false, .plain⟩

/-- What follows the characters in front of a selector that asks for a text sign. -/
def withTextSelector (f : Following) : Following :=
  match f.onset with
  | .ligature _ => { f with asText := true }
  | _ => ⟨false, true, .plain⟩

/-- What follows if a selector that asks for an emoji has no effect. -/
def withoutEmojiSelector (f : Following) : Following :=
  match f.onset with
  | .ligature _ => { f with asEmoji := false }
  | _ => of .plain

end Following

/-! ## Counting -/

/-- How a character begins a text by itself. -/
def ownOnset (c : Char) : Onset :=
  match Ligature.endingWith? c with
  | some l => .ligature l
  | none =>
    if isFlagLetter c then .flagLetter
    else if isEmojiModifier c then .emojiModifier
    else if emojiByDefault.has c then .emoji
    else .plain

/-- The columns that a character adds in front of what does not bear on it. -/
def addAlone (c : Char) : Int × Following :=
  if c = Following.emojiSelector then (0, ⟨true, false, .plain⟩)
  else if c = Following.textSelector then (0, ⟨false, true, .plain⟩)
  else (charColumns c, .of (ownOnset c))

/-- The columns that a character adds in front of an onset. -/
def addBefore (c : Char) : Onset → Int × Following
  | .plain => addAlone c
  | .ligature l =>
    match l.continuing? c with
    | some (n, next) => (n, .of (next.elim .plain .ligature))
    | none => addAlone c
  | .emojiModifier =>
    if emojiModifiable.has c then (0, .of .emoji)
    else if c = joiner then (0, .of .joinedEmoji)
    else addAlone c
  | .flagLetter => if isFlagLetter c then (1, .of .flag) else addAlone c
  | .flag =>
    if isFlagLetter c then (1, .of .flag)
    else if c = joiner then (0, .of .joinedEmoji)
    else addAlone c
  | .emoji => if c = joiner then (0, .of .joinedEmoji) else addAlone c
  | .joinedEmoji =>
    if isEmojiModifier c then (0, .of .emojiModifier)
    else if emojiByDefault.has c then (0, .of .emoji)
    else addAlone c

/-- The columns that a character adds in front of what has an effect on characters other
than spaces and controls. -/
def addPrinted (c : Char) (f : Following) : Int × Following :=
  if f = .of .plain then addAlone c
  else if c = Following.emojiSelector then (0, f.withEmojiSelector)
  else if c = Following.textSelector then (0, f.withTextSelector)
  else if f.asText ∧ isNarrowAsText c then (1, .of .plain)
  else
    match f.onset with
    | .ligature l =>
      match l.passing? c with
      | some l => (0, { f with asText := false, onset := .ligature l })
      | none => addBefore c f.onset
    | onset => addBefore c onset

/-- The columns that a character adds, and what then follows the characters in front. -/
def add (c : Char) (f : Following) : Int × Following :=
  if f.asEmoji ∧ emojiSelectable.has c then
    (if f.onset = .joinedEmoji then 0 else 2, .of .emoji)
  else if c ≤ '\u00A0' then (1, .of .plain)
  else addPrinted c (if f.asEmoji then f.withoutEmojiSelector else f)

/-- The columns that a text of one line takes. -/
def columns (s : String) : Nat :=
  (s.toList.foldr (fun c (n, f) => let (k, f) := add c f; (n + k, f))
    ((0 : Int), Following.of .plain)).1.toNat

/-- A text with spaces after it, up to a number of columns. -/
def padTo (width : Nat) (s : String) : String :=
  s ++ .ofList (List.replicate (width - columns s) ' ')

end BrowserScript.Text
