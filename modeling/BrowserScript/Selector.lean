/-
# BrowserScript.Selector -- locators, chains of them, and selectors

A `Locator` is a strategy with its text. A line may name several, each to be tried
when the one before it finds nothing, and they are held in two shapes:

  * a `SelectorChain` **links** each locator to the next one, in written order,
    which is what the reading of a line yields;
  * a `Selector` is a locator with the **list** of its fallbacks, which is what a
    command carries and what is written as data.

`Selector.ofChain` flattens the first shape into the second. The type `Selector`
lets a fallback have fallbacks of its own, since selectors also arrive as data and
can be nested there; `candidates` and the written form look at one level only.
-/
import BrowserScript.Strategy

namespace BrowserScript

/-- One way of finding an element. -/
structure Locator where
  strategy : Strategy
  value : String
  deriving DecidableEq, Repr

/-- The strategy and the text of a locator, with no quoting. -/
def Locator.text (l : Locator) : String :=
  l.strategy.name ++ "=" ++ l.value

/-! ## Chains -/

/-- A locator that may be linked to the one to be tried after it. -/
inductive SelectorChain where
  | last (l : Locator)
  | orElse (l : Locator) (next : SelectorChain)
  deriving DecidableEq, Repr

namespace SelectorChain

/-- Links a locator to the ones that are to be tried after it. -/
def link (l : Locator) : List Locator → SelectorChain
  | [] => .last l
  | m :: ms => .orElse l (link m ms)

/-- The locator that is tried first. -/
def head : SelectorChain → Locator
  | last l => l
  | orElse l _ => l

/-- The locators of a chain, in the order in which they are tried. -/
def locators : SelectorChain → List Locator
  | last l => [l]
  | orElse l next => l :: next.locators

/-- Linking loses nothing and keeps the order. -/
@[simp]
theorem locators_link (l : Locator) (ms : List Locator) : (link l ms).locators = l :: ms := by
  induction ms generalizing l with
  | nil => rfl
  | cons m ms ih => simp [link, locators, ih]

/-- The locators of a chain on one line, an arrow between each and the next. -/
def text : SelectorChain → String
  | last l => l.text
  | orElse l next => l.text ++ " -> " ++ next.text

end SelectorChain

/-! ## Selectors -/

/-- A locator and what to try, in order, when it finds nothing. -/
structure Selector where
  locator : Locator
  fallbacks : List Selector
  deriving Repr

namespace Selector

mutual

/-- Whether two selectors are equal, fallbacks included. -/
def decEq : (a b : Selector) → Decidable (a = b)
  | ⟨l, fs⟩, ⟨m, gs⟩ =>
    if hl : l = m then
      match decEqList fs gs with
      | isTrue hf => isTrue (by rw [hl, hf])
      | isFalse hf => isFalse (by simp [hf])
    else isFalse (by simp [hl])

/-- Whether two lists of selectors are equal. -/
def decEqList : (as bs : List Selector) → Decidable (as = bs)
  | [], [] => isTrue rfl
  | [], _ :: _ => isFalse (by simp)
  | _ :: _, [] => isFalse (by simp)
  | a :: as, b :: bs =>
    match decEq a b with
    | isFalse h => isFalse (by simp [h])
    | isTrue h =>
      match decEqList as bs with
      | isFalse hs => isFalse (by simp [hs])
      | isTrue hs => isTrue (by rw [h, hs])

end

instance : DecidableEq Selector := decEq

/-- A selector with nothing to fall back on. -/
def plain (l : Locator) : Selector :=
  ⟨l, []⟩

/-- Adds a selector to be tried after all the others. -/
def withFallback (s fallback : Selector) : Selector :=
  { s with fallbacks := s.fallbacks ++ [fallback] }

/-- The selector itself and then its fallbacks, in the order in which they are
tried. -/
def candidates (s : Selector) : List Selector :=
  s :: s.fallbacks

/-- The selector of a chain: the first locator, with the others as fallbacks that
have none of their own. -/
def ofChain : SelectorChain → Selector
  | .last l => plain l
  | .orElse l next => ⟨l, next.locators.map plain⟩

end Selector

end BrowserScript
