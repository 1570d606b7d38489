/-
# BrowserScript.Proofs.Fields.ClosedEnd -- texts that can be gone on with

What is put after a text is read by itself only if the text leaves nothing open. Three things
may be left open at an end: a **quoted run**, in which a space would be literal, a **backslash**,
which would escape the space, and **white characters** that were trimmed as long as they stood
at the end and now become part of a field. A text with none of these has a closed end, and a
space with a written field after it adds this field and changes no other.

All three are said of the marks of the characters. The trimming finds escapes by counting
backslashes from the end, the marking finds them from the front, and both agree on the last
character of every text.
-/
import BrowserScript.Proofs.Fields.Escapes
import BrowserScript.Proofs.Fields.LastCharacter
import BrowserScript.Proofs.Fields.Silent
import BrowserScript.Proofs.Fields.Written

namespace BrowserScript.Fields

open Text (isWhite trimStart trimEnd)

/-! ## Marks of a text with another behind it -/

/-- The quoted run that is open behind some marked characters, where `run` is open before them. -/
def runBehind (run : Option Char) (line : List (Char × Mark)) : Option Char :=
  line.foldl (fun run p => Mark.runAfter run p.1 p.2) run

/-- A character that is no backslash has the same mark at the end and before others. -/
theorem marked_cons_of_ne {c : Char} (h : c ≠ '\\') (run : Option Char) (rest : List Char) :
    marked false run (c :: rest) =
      (c, Mark.ofChar run true c) ::
        marked false (Mark.runAfter run c (Mark.ofChar run true c)) rest := by
  have hescape : Mark.ofChar run true c ≠ .escape := by
    cases run <;> grind [Mark.ofChar]
  exact marked_cons (by simp [Mark.ofChar, h]) hescape

/-- **A text that ends in no open backslash has its marks whatever follows**, and what follows
is marked from the run that is open there. -/
theorem marked_append (run : Option Char) :
    ∀ {cs : List Char}, trailingBackslashes cs % 2 = 0 → ∀ rest,
      marked false run (cs ++ rest) =
        marked false run cs ++ marked false (runBehind run (marked false run cs)) rest
  | [], _, _ => rfl
  | c :: cs, heven, rest => by
      by_cases hslash : c = '\\'
      · subst hslash
        cases cs with
        | nil => exact absurd heven (by decide)
        | cons d ds =>
            rw [trailingBackslashes_escaped] at heven
            rw [List.cons_append, List.cons_append, marked_escape, marked_escape,
              marked_append run heven rest]
            rfl
      · rw [trailingBackslashes_cons hslash] at heven
        rw [List.cons_append, marked_cons_of_ne hslash, marked_cons_of_ne hslash,
          marked_append _ heven rest]
        rfl

/-- The last character is marked as escaped when the text before it ends in an open backslash. -/
theorem exists_getLast?_marked_concat (run : Option Char) (cs : List Char) (c : Char) :
    ∃ mark, (marked false run (cs ++ [c])).getLast? = some (c, mark) ∧
      (mark = .escaped ↔ trailingBackslashes cs % 2 = 1) := by
  have hlast : (marked false run (cs ++ [c])).getLast?.map (fun p => (p.1, p.2 == .escaped)) =
      some (c, escapesNext false cs) := by
    rw [← List.getLast?_map, map_marked_eq_withEscapes, withEscapes_concat, List.getLast?_concat]
  obtain ⟨⟨d, mark⟩, hmark, hpair⟩ := Option.map_eq_some_iff.1 hlast
  obtain ⟨rfl, hescaped⟩ := Prod.mk.inj hpair
  refine ⟨mark, hmark, ?_⟩
  rw [← escapesNext_iff_odd, ← hescaped, beq_iff_eq]

/-! ## Separators between two texts -/

/-- A separator ends what stands before it, whatever comes after. -/
theorem fieldsOf_append_separator (started : Bool) (line line' : List (Char × Mark)) (c : Char) :
    fieldsOf started (line ++ (c, .separator) :: line') =
      fieldsOf started line ++ fieldsOf false line' := by
  have hsplit : (line ++ (c, .separator) :: line').splitOnP (fun p => p.2 == .separator) =
      line.splitOnP (fun p => p.2 == .separator) ++ line'.splitOnP (fun p => p.2 == .separator) :=
    List.splitOnP_append_cons line line' rfl
  obtain ⟨first, others, hline⟩ :=
    List.exists_cons_of_ne_nil (List.splitOnP_ne_nil (fun p => p.2 == .separator) line)
  rw [fieldsOf_false, pieces, fieldsOf, fieldsOf, hsplit, hline]
  simp

/-- **A space with a text after it** is read by itself where no run and no backslash is open. -/
theorem scan_append_space {cs : List Char} (heven : trailingBackslashes cs % 2 = 0)
    (hrun : runBehind none (marked false none cs) = none) (rest : List Char) :
    scan none false (cs ++ ' ' :: rest) = scan none false cs ++ scan none false rest := by
  rw [scan_eq_fieldsOf, marked_append none heven, hrun, marked_space, fieldsOf_append_separator,
    ← scan_eq_fieldsOf, ← scan_eq_fieldsOf]

/-! ## White characters in front -/

theorem isQuote_of_isWhite {c : Char} (h : isWhite c = true) : isQuote c = false := by
  rw [Bool.eq_false_iff]
  intro hquote
  simp only [isQuote, Bool.or_eq_true, beq_iff_eq] at hquote
  rcases hquote with rfl | rfl <;> exact absurd h (by decide)

theorem runBehind_trimStart (cs : List Char) :
    runBehind none (marked false none (trimStart cs)) = runBehind none (marked false none cs) := by
  induction cs with
  | nil => rfl
  | cons c cs ih =>
      cases hc : isWhite c with
      | false => rw [trimStart_of_head cs hc]
      | true =>
          have hslash : c ≠ '\\' := ne_backslash_of_isWhite hc
          have htrim : trimStart (c :: cs) = trimStart cs := by simp [trimStart, hc]
          have hafter : Mark.runAfter none c (Mark.ofChar none true c) = none := by
            simp only [Mark.ofChar, if_neg hslash, isQuote_of_isWhite hc, Bool.false_eq_true, if_false]
            split <;> rfl
          rw [htrim, ih, marked_cons_of_ne hslash, hafter, runBehind, runBehind, List.foldl_cons,
            hafter]

theorem trimStart_append_of_ne_nil {cs : List Char} (h : trimStart cs ≠ []) (tail : List Char) :
    trimStart (cs ++ tail) = trimStart cs ++ tail := by
  rw [trimStart, List.dropWhile_append, if_neg]
  · rfl
  · rwa [List.isEmpty_iff]

/-! ## Closed ends -/

/-- Nothing is left open at the end of a text: no quoted run, and no backslash or white character
that is not escaped itself. -/
structure HasClosedEnd (text : String) : Prop where
  run : runBehind none (marks text) = none
  last : ∀ p ∈ (marks text).getLast?, isWhite p.1 = true ∨ p.1 = '\\' → p.2 = .escaped

namespace HasClosedEnd

variable {text : String}

/-- The last character, if it is white or a backslash, has an open backslash before it. -/
theorem odd (h : HasClosedEnd text) {cs : List Char} {c : Char} (htext : text.toList = cs ++ [c])
    (hc : isWhite c = true ∨ c = '\\') : trailingBackslashes cs % 2 = 1 := by
  obtain ⟨mark, hmark, hiff⟩ := exists_getLast?_marked_concat none cs c
  rw [← htext] at hmark
  exact hiff.1 (h.last _ hmark hc)

theorem even (h : HasClosedEnd text) : trailingBackslashes text.toList % 2 = 0 := by
  cases htext : text.toList using List.reverseRecOn with
  | nil => rfl
  | append_singleton cs c =>
      rw [trailingBackslashes_concat]
      split
      · rename_i hc
        have hodd := h.odd htext (Or.inr hc)
        omega
      · rfl

/-- The white characters in front are all that is trimmed. -/
theorem trimmed_eq (h : HasClosedEnd text) : trimmed text = trimStart text.toList := by
  refine trimUnescapedEnd_eq_self fun ds w hend hw => ?_
  -- the white characters in front have no part in the run of backslashes
  have htext : text.toList = text.toList.takeWhile isWhite ++ ds ++ [w] := by
    rw [List.append_assoc, ← hend, trimStart, List.takeWhile_append_dropWhile]
  have hodd := h.odd htext (Or.inl hw)
  rwa [trailingBackslashes_append (trailingBackslashes_takeWhile_white _)] at hodd

/-- **A space and a written field behind a closed end** are one more field. -/
theorem ofLine_append (h : HasClosedEnd text) (hsilent : ¬ IsSilent text)
    {written field : List Char} (hwrites : Writes written field) (hfirm : EndsFirmly written) :
    ofLine (.ofList (text.toList ++ ' ' :: written)) = ofLine text ++ [.ofList field] := by
  rw [isSilent_iff_trimmed, not_or, not_exists] at hsilent
  obtain ⟨hne, hhash⟩ := hsilent
  obtain ⟨c, cs, hcs⟩ := List.exists_cons_of_ne_nil hne
  have hc : c ≠ '#' := by
    rintro rfl
    exact hhash cs hcs
  rw [h.trimmed_eq] at hne
  have hmore : trimmed (.ofList (text.toList ++ ' ' :: written)) =
      c :: (cs ++ ' ' :: written) := by
    have hend : EndsFirmly (trimStart text.toList ++ ' ' :: written) := by
      simpa using hfirm.append (trimStart text.toList ++ [' '])
    rw [trimmed, String.toList_ofList, trimStart_append_of_ne_nil hne, hend.trimUnescapedEnd,
      ← h.trimmed_eq, hcs, List.cons_append]
  have hscan : scan none false (c :: (cs ++ ' ' :: written)) =
      scan none false (c :: cs) ++ [field] := by
    have heven := h.even
    have hrun := h.run
    rw [← trailingBackslashes_trimStart, ← h.trimmed_eq, hcs] at heven
    rw [marks, ← runBehind_trimStart, ← h.trimmed_eq, hcs] at hrun
    have hrow := @scan_first_row written field hwrites [] (List.forall_mem_nil _)
    rw [List.flatMap_nil, List.append_nil] at hrow
    rw [← List.cons_append, scan_append_space heven hrun, hrow]
    rfl
  rw [ofLine_of_trimmed_cons hcs, ofLine_of_trimmed_cons hmore, if_neg hc, if_neg hc, hscan,
    List.map_append]
  rfl

end HasClosedEnd

end BrowserScript.Fields
