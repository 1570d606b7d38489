/-
# BrowserScript.Proofs.Fields.Silent -- lines without fields

A line says nothing when it is blank or a comment, and both are told by the **first
character that is not white**: there is none, or it is `#`. Trimming never touches this
character, so what is left of a line begins with it, and every line that is not silent
has a field, since no character but a space can be read without opening one.
-/
import BrowserScript.Proofs.Fields.Scanning
import BrowserScript.Proofs.Fields.Trimming

namespace BrowserScript.Fields

open Text (isWhite trimStart trimEnd)

/-! ## Blank lines and comments -/

/-- Nothing but white characters. -/
def IsBlank (line : String) : Prop :=
  ∀ c ∈ line.toList, isWhite c = true

/-- The first character that is not white is a hash sign. -/
def IsComment (line : String) : Prop :=
  line.toList.find? (fun c => !isWhite c) = some '#'

/-- Blank, or a comment. -/
def IsSilent (line : String) : Prop :=
  IsBlank line ∨ IsComment line

instance (line : String) : Decidable (IsBlank line) :=
  List.decidableBAll (fun c => isWhite c = true) line.toList

instance (line : String) : Decidable (IsComment line) :=
  inferInstanceAs (Decidable (_ = _))

instance (line : String) : Decidable (IsSilent line) :=
  inferInstanceAs (Decidable (_ ∨ _))

theorem isBlank_iff_find? {line : String} :
    IsBlank line ↔ line.toList.find? (fun c => !isWhite c) = none := by
  simp [IsBlank]

/-! ## The first character -/

theorem trimEnd_cons {c : Char} (h : isWhite c = false) (cs : List Char) :
    ∃ ds, trimEnd (c :: cs) = c :: ds := by
  -- the character itself is among those that are left, and it is the first of them
  have hkept : trimEnd (c :: cs) ≠ [] := by
    intro hnil
    rw [trimEnd, List.reverse_eq_nil_iff, List.dropWhile_eq_nil_iff] at hnil
    have hwhite := hnil c (by simp)
    rw [h] at hwhite
    exact Bool.false_ne_true hwhite
  obtain ⟨d, ds, hds⟩ := List.exists_cons_of_ne_nil hkept
  have happ := Text.trimEnd_append (c :: cs)
  rw [hds, List.cons_append] at happ
  exact ⟨ds, by rw [hds, (List.cons.inj happ).1]⟩

/-- The end of a text is trimmed without touching its beginning. -/
theorem trimUnescapedEnd_cons {c : Char} (h : isWhite c = false) (cs : List Char) :
    ∃ ds, trimUnescapedEnd (c :: cs) = c :: ds := by
  obtain ⟨ds, hds⟩ := trimEnd_cons h cs
  simp only [trimUnescapedEnd, hds]
  split
  · exact ⟨ds, rfl⟩
  · exact ⟨cs.take (c :: ds).length, List.take_succ_cons⟩

/-- **A trimmed line begins with the first character that is not white.** -/
theorem head?_trimmed (line : String) :
    (trimmed line).head? = line.toList.find? (fun c => !isWhite c) := by
  rw [List.find?_not_eq_head?_dropWhile, ← trimStart, trimmed]
  cases hstart : trimStart line.toList with
  | nil => rfl
  | cons c cs =>
      have hc : isWhite c = false := by
        have hnot := List.head?_dropWhile_not isWhite line.toList
        rw [← trimStart, hstart] at hnot
        exact hnot
      obtain ⟨ds, hds⟩ := trimUnescapedEnd_cons hc cs
      rw [hds, List.head?_cons, List.head?_cons]

/-! ## Lines that have fields -/

theorem scan_cons_ne_nil {c : Char} (h : c ≠ ' ') (cs : List Char) :
    scan none false (c :: cs) ≠ [] := by
  by_cases hslash : c = '\\'
  · subst hslash
    cases cs with
    | nil => simp [scan]
    | cons escaped cs =>
        rw [scan_escaped]
        exact extend_ne_nil _ _
  · cases hquote : isQuote c with
    | true =>
        rw [scan_open hquote]
        exact scan_ne_nil rfl
    | false =>
        rw [scan_literal hslash hquote h]
        exact extend_ne_nil _ _

theorem isSilent_iff_trimmed {line : String} :
    IsSilent line ↔ trimmed line = [] ∨ ∃ cs, trimmed line = '#' :: cs := by
  rw [IsSilent, isBlank_iff_find?, IsComment, ← head?_trimmed, List.head?_eq_none_iff,
    List.head?_eq_some_iff]

/-- A silent line has no fields. -/
theorem ofLine_of_isSilent {line : String} (h : IsSilent line) : ofLine line = [] := by
  rcases isSilent_iff_trimmed.1 h with hnil | ⟨cs, hcs⟩
  · rw [ofLine, hnil]
  · rw [ofLine_of_trimmed_cons hcs, if_pos rfl]

/-- **Every other line has some**, and they are those of the trimmed text. -/
theorem exists_fields {line : String} (h : ¬ IsSilent line) :
    ∃ name rest, ofText (.ofList (trimmed line)) = name :: rest ∧ ofLine line = name :: rest := by
  rw [isSilent_iff_trimmed, not_or, not_exists] at h
  obtain ⟨c, cs, hcs⟩ := List.exists_cons_of_ne_nil h.1
  have hhash : c ≠ '#' := by
    rintro rfl
    exact h.2 cs hcs
  have hspace : c ≠ ' ' := by
    rintro rfl
    have hfirst := head?_trimmed line
    rw [hcs, List.head?_cons] at hfirst
    have hnot := List.find?_some hfirst.symm
    exact absurd hnot (by decide)
  have hne : (scan none false (c :: cs)).map String.ofList ≠ [] := by
    simp [scan_cons_ne_nil hspace]
  obtain ⟨name, rest, hfields⟩ := List.exists_cons_of_ne_nil hne
  refine ⟨name, rest, ?_, ?_⟩
  · rw [ofText, String.toList_ofList, hcs, hfields]
  · rw [ofLine_of_trimmed_cons hcs, if_neg hhash, hfields]

/-- The line is no comment, and it is cut into these fields. -/
def IsCutInto (line : String) (fields : List String) : Prop :=
  ¬ IsComment line ∧ ofText (.ofList (trimmed line)) = fields

theorem IsCutInto.ofLine {line : String} {fields : List String} (h : IsCutInto line fields) :
    ofLine line = fields := by
  obtain ⟨hcomment, hfields⟩ := h
  by_cases hsilent : IsSilent line
  · rw [ofLine_of_isSilent hsilent, ← hfields]
    rcases isSilent_iff_trimmed.1 hsilent with hnil | ⟨cs, hcs⟩
    · rw [hnil]
      rfl
    · have hfirst := head?_trimmed line
      rw [hcs] at hfirst
      exact absurd hfirst.symm hcomment
  · obtain ⟨name, rest, htext, hline⟩ := exists_fields hsilent
    rw [hline, ← htext, hfields]

end BrowserScript.Fields
