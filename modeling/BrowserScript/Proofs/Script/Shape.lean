/-
# BrowserScript.Proofs.Script.Shape -- the shape of a formatted text

A text and its formatted text have the same number of lines, and **each line keeps its
terminator**: the longest of a return with a line feed, one of the two, or nothing, that the
characters of the line end in. What stands before the terminator is either copied, when there
is no command on the line, or it is written anew and then fills its line from the first
character to the last.

So a return is never taken over from a value into the terminator, though a value may hold
returns and even end in one: a canonical line does not end in a white character.
-/
import BrowserScript.Proofs.Command.Grammar
import BrowserScript.Proofs.Script.Formatting

namespace BrowserScript

/-! ## Terminators -/

namespace Text.Line

/-- What a line can end in. -/
def terminators : List String :=
  ["\r\n", "\n", "\r", ""]

/-- The longest of the terminators at the end of some characters. -/
structure IsTerminator (cs : List Char) (t : String) : Prop where
  mem : t ∈ terminators
  atEnd : t.toList <:+ cs
  longest : ∀ t' ∈ terminators, t'.toList <:+ cs → t'.length ≤ t.length

/-- There is only one. -/
theorem IsTerminator.unique {cs : List Char} {t t' : String} (h : IsTerminator cs t)
    (h' : IsTerminator cs t') : t = t' := by
  have hlength : t.toList.length = t'.toList.length := by
    rw [String.length_toList, String.length_toList]
    exact Nat.le_antisymm (h'.longest t h.mem h.atEnd) (h.longest t' h'.mem h'.atEnd)
  have hsuffix := List.suffix_of_suffix_length_le h.atEnd h'.atEnd hlength.le
  exact String.toList_inj.1 (hsuffix.eq_of_length hlength)

theorem ended_of_suffix_full {l : Line} (h : '\n' ∉ l.chars) {t : List Char} (ht : '\n' ∈ t)
    (hsuffix : t <:+ l.full) : l.ended = true := by
  by_contra hended
  rw [full, if_neg hended, List.append_nil] at hsuffix
  exact h (hsuffix.subset ht)

theorem getLast?_chars_of_suffix_full {l : Line} (hended : l.ended = true)
    (hsuffix : ['\r', '\n'] <:+ l.full) : l.chars.getLast? = some '\r' := by
  rw [full, if_pos hended] at hsuffix
  have hreturn : ['\r'] <:+ l.chars :=
    ((List.suffix_append_inj_of_length_eq rfl).1 hsuffix).1
  exact List.singleton_suffix_iff_getLast?_eq_some.1 hreturn

/-- **The ending of a line is its terminator.** -/
theorem isTerminator_ending {l : Line} (h : '\n' ∉ l.chars) : IsTerminator l.full l.ending where
  mem := by
    unfold ending
    cases l.ended <;> split <;> decide
  atEnd := ⟨l.body.toList, by rw [← String.toList_append, body_append_ending]⟩
  longest := by
    intro t ht hsuffix
    simp only [terminators, List.mem_cons, List.not_mem_nil, or_false] at ht
    rcases ht with rfl | rfl | rfl | rfl
    · have hended := ended_of_suffix_full h (by decide) hsuffix
      have hreturn := getLast?_chars_of_suffix_full hended hsuffix
      rw [ending, if_pos hreturn, if_pos hended]
      decide
    · have hended := ended_of_suffix_full h (by decide) hsuffix
      rw [ending, if_pos hended, String.length_append]
      exact Nat.le_add_left _ _
    · cases hended : l.ended with
      | true =>
          rw [ending, hended, if_pos rfl, String.length_append]
          exact Nat.le_add_left _ _
      | false =>
          -- without a line feed the return at the end is one of the characters
          rw [full, hended, if_neg Bool.false_ne_true, List.append_nil] at hsuffix
          have hreturn : l.chars.getLast? = some '\r' :=
            List.singleton_suffix_iff_getLast?_eq_some.1 hsuffix
          rw [ending, if_pos hreturn, String.length_append]
          exact Nat.le_add_right _ _
    · exact Nat.zero_le _

theorem isTerminator_iff {l : Line} (h : '\n' ∉ l.chars) {t : String} :
    IsTerminator l.full t ↔ t = l.ending := by
  constructor
  · intro ht
    exact ht.unique (isTerminator_ending h)
  · rintro rfl
    exact isTerminator_ending h

end Text.Line

namespace Script

open Text (Line isWhite)
open Text.Line (IsTerminator isTerminator_ending isTerminator_iff)

/-! ## One line -/

/-- There is no command on the line, which has this number: it is blank, a comment, or has a
fault. -/
def HasNoCommand (n : Nat) (l : Line) : Prop :=
  Fields.IsBlank l.body ∨ Fields.IsComment l.body ∨ ∃ e, Command.ofLine l.body n = .error e

theorem hasNoCommand_iff {n : Nat} {l : Line} :
    HasNoCommand n l ↔ ∀ c, Command.ofText l.body ≠ .ok (some c) := by
  rw [HasNoCommand, ← or_assoc]
  constructor
  · rintro (hsilent | ⟨e, he⟩) c hc
    · rw [Command.ofText_eq_none_iff.2 hsilent] at hc
      cases hc
    · rw [(Command.ofLine_eq_error_iff.1 he).2] at hc
      cases hc
  · intro hno
    cases hread : Command.ofText l.body with
    | error fault => exact Or.inr ⟨⟨n, fault⟩, Command.ofLine_eq_error_iff.2 ⟨rfl, hread⟩⟩
    | ok command =>
        cases command with
        | none => exact Or.inl (Command.ofText_eq_none_iff.1 hread)
        | some c => exact absurd hread (hno c)

/-- A text that fills a line: it has some characters, neither the first nor the last of them is
white, and there is no line feed among them. -/
structure FillsLine (text : String) : Prop where
  ne_empty : text ≠ ""
  newline_not_mem : '\n' ∉ text.toList
  first : ∀ c, text.toList.head? = some c → isWhite c = false
  last : ∀ c, text.toList.getLast? = some c → isWhite c = false

/-- What is written for a command fills its line. -/
theorem fillsLine_render {text : String} {c : Command} (h : Command.ofText text = .ok (some c))
    (htext : '\n' ∉ text.toList) : FillsLine c.render where
  ne_empty hempty := c.render_toList_ne_nil (String.toList_eq_nil_iff.2 hempty)
  newline_not_mem := Command.newline_not_mem_render h htext
  first d hd := by
    obtain ⟨e, es, hes, hwhite, _⟩ := c.render_head
    rw [hes, List.head?_cons] at hd
    rwa [← Option.some.inj hd]
  last d hd := by
    by_contra hwhite
    rw [Bool.not_eq_false] at hwhite
    exact c.endsFirmly_render.getLast?_ne hwhite hd

/-- The line with this number has become a line of the same shape. What the body of a line leaves
out is its terminator. -/
structure KeepsShape (n : Nat) (l l' : Line) : Prop where
  endings : IsTerminator l.full l.ending ∧ IsTerminator l'.full l'.ending
  terminator : ∀ t, IsTerminator l'.full t ↔ IsTerminator l.full t
  copied : HasNoCommand n l → l'.full = l.full
  written : ¬ HasNoCommand n l → FillsLine l'.body

theorem keepsShape_formatted (n : Nat) {l : Line} (h : '\n' ∉ l.chars) :
    KeepsShape n l (formatted l) where
  endings := ⟨isTerminator_ending h, isTerminator_ending (newline_not_mem_formatted l h)⟩
  terminator t := by
    rw [isTerminator_iff h, isTerminator_iff (newline_not_mem_formatted l h), ending_formatted]
  copied hno := by rw [formatted_of_no_command (hasNoCommand_iff.1 hno)]
  written hsome := by
    obtain ⟨c, hc, hl⟩ | ⟨hno, _⟩ := formatted_cases l
    · rw [hl, Line.body_withBody c.render_getLast?_ne_return]
      exact fillsLine_render hc (Line.newline_not_mem_body h)
    · exact absurd (hasNoCommand_iff.2 hno) hsome

/-! ## All lines -/

/-- **Formatting keeps the shape of a text**, line by line. -/
theorem format_keeps_shape (source : String) :
    (Line.cut (format source)).length = (Line.cut source).length ∧
      ∀ k l, (Line.cut source)[k]? = some l →
        ∃ l', (Line.cut (format source))[k]? = some l' ∧ KeepsShape (k + 1) l l' := by
  refine ⟨by rw [cut_format, List.length_map], fun k l hl => ⟨formatted l, ?_, ?_⟩⟩
  · rw [cut_format, List.getElem?_map, hl]
    rfl
  · have hnewline := Line.newline_not_mem_of_mem_cut (List.mem_of_getElem? hl)
    exact keepsShape_formatted (k + 1) hnewline

/-- A line with a fault is copied with its returns, and a message that ends in a return fills the
line after it. -/
theorem format_keeps_shape_log :
    ∃ l₁ l₂, (Line.cut (format "click \r\r\n\t log msg=\"a\r\" \r"))[0]? = some l₁ ∧
      (Line.cut (format "click \r\r\n\t log msg=\"a\r\" \r"))[1]? = some l₂ ∧
      l₁.full = "click \r\r\n".toList ∧ FillsLine l₂.body ∧ IsTerminator l₂.full "\r" := by
  obtain ⟨_, hlines⟩ := format_keeps_shape "click \r\r\n\t log msg=\"a\r\" \r"
  obtain ⟨l₁, hl₁, hshape₁⟩ := hlines 0 ⟨"click \r\r".toList, true⟩ (by decide +kernel)
  obtain ⟨l₂, hl₂, hshape₂⟩ :=
    hlines 1 ⟨"\t log msg=\"a\r\" \r".toList, false⟩ (by decide +kernel)
  have hno : HasNoCommand 1 ⟨"click \r\r".toList, true⟩ :=
    Or.inr (Or.inr ⟨⟨1, .missingSelector .click⟩, by decide +kernel⟩)
  have hsome : ¬ HasNoCommand 2 ⟨"\t log msg=\"a\r\" \r".toList, false⟩ := by
    rw [hasNoCommand_iff]
    intro h
    exact h ⟨.log, .ofList [("msg", "a\r")], none⟩ (by decide +kernel)
  have hterminator : IsTerminator l₂.full "\r" := (hshape₂.terminator "\r").2 hshape₂.endings.1
  exact ⟨l₁, l₂, hl₁, hl₂, hshape₁.copied hno, hshape₂.written hsome, hterminator⟩

end Script

end BrowserScript
