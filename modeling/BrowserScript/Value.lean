/-
# BrowserScript.Value -- the data that commands and reports are written as

One small data model serves every format: nothing, truth values, numbers, texts, lists and
records. A number is held by the digits that it is written with, sign and fraction included.
**A record keeps its members in the order in which they are given**, since that is the order
in which they are written.
-/

namespace BrowserScript

/-! ## Numbers -/

/-- A decimal number: whether it has a minus sign, its whole part, and the digits behind the
point. -/
structure Decimal where
  isNegative : Bool
  whole : Nat
  fraction : List (Fin 10)
  deriving DecidableEq, Repr

namespace Decimal

/-- A natural number. -/
def ofNat (n : Nat) : Decimal :=
  ⟨false, n, []⟩

/-- The point and the digits behind it, if there are any. -/
def fractionChars (digits : List (Fin 10)) : List Char :=
  if digits.isEmpty then [] else '.' :: digits.map fun d => d.val.digitChar

/-- A number as it is written, in full. -/
def render (d : Decimal) : String :=
  (if d.isNegative then "-" else "") ++ toString d.whole ++ .ofList (fractionChars d.fraction)

@[simp] theorem render_ofNat (n : Nat) : (ofNat n).render = toString n := by
  simp [render, ofNat, fractionChars]

end Decimal

/-! ## Values -/

/-- A value of the data model. -/
inductive Value where
  | null
  | bool (b : Bool)
  | number (n : Decimal)
  | text (s : String)
  | list (items : List Value)
  | record (members : List (String × Value))
  deriving Inhabited, Repr

namespace Value

/-- A natural number as a value. -/
def natural (n : Nat) : Value :=
  .number (.ofNat n)

/-- The name that a value stands for: a text, or a record of one member that is null,
which names a case that carries nothing. -/
def caseName? : Value → Option String
  | text s => some s
  | record [(name, null)] => some name
  | _ => none

end Value

end BrowserScript
