/-
# BrowserScript.Proofs.Token.Surroundings -- white characters around a line

A line may be indented and may have white characters of any kind behind it, and its tokens are
the same. What the line itself ends in is of no importance: white characters of its own, one that
is escaped, escaped backslashes, an open quoted run; and it may be blank or a comment.

**Only a backslash that is left open at the end matters.** It escapes the first of the white
characters put behind it, which is then a part of the line, and all the others go.
-/
import BrowserScript.Proofs.Fields.LastCharacter
import BrowserScript.Proofs.Fields.Silent
import BrowserScript.Token

namespace BrowserScript

/-! ## What is left of a line -/

namespace Fields

open Text (isWhite trimStart)

theorem trimmed_blank_append {front : String} (h : IsBlank front) (text : String) :
    trimmed (front ++ text) = trimmed text := by
  rw [trimmed, trimmed, String.toList_append, trimStart, List.dropWhile_append_of_pos h, trimStart]

theorem trimmed_append_blank {text back : String} (h : IsBlank back)
    (heven : trailingBackslashes text.toList % 2 = 0) : trimmed (text ++ back) = trimmed text := by
  have happ := trimmed_append_white h heven
  rwa [← String.toList_append, String.ofList_toList, String.ofList_toList] at happ

theorem trimmed_within_blanks {front text back : String} (hfront : IsBlank front)
    (hback : IsBlank back) (heven : trailingBackslashes text.toList % 2 = 0) :
    trimmed (front ++ text ++ back) = trimmed text := by
  rw [String.append_assoc, trimmed_blank_append hfront, trimmed_append_blank hback heven]

/-- **Of the white characters behind a line only the first can be left**, whatever the line ends
in. -/
theorem trimmed_within_blanks_take {front back : String} (hfront : IsBlank front)
    (hback : IsBlank back) (text : String) :
    trimmed (front ++ text ++ back) = trimmed (text ++ .ofList (back.toList.take 1)) := by
  cases hchars : back.toList with
  | nil =>
      obtain rfl : back = "" := String.toList_eq_nil_iff.1 hchars
      rw [String.append_assoc, trimmed_blank_append hfront]
      rfl
  | cons w ws =>
      have hsplit : back = .ofList [w] ++ .ofList ws := by
        rw [← String.toList_inj, hchars]
        simp
      have hw : isWhite w = true := hback w (by simp [hchars])
      have hws : IsBlank (.ofList ws) := by
        intro v hv
        rw [String.toList_ofList] at hv
        exact hback v (by simp [hchars, hv])
      -- the white character is no backslash, so that it ends the run
      have heven : trailingBackslashes (text ++ .ofList [w]).toList % 2 = 0 := by
        rw [String.toList_append, String.toList_ofList, trailingBackslashes_concat,
          if_neg (ne_backslash_of_isWhite hw)]
      have happ : front ++ text ++ back = front ++ (text ++ .ofList [w]) ++ .ofList ws := by
        rw [hsplit]
        simp only [String.append_assoc]
      rw [happ, trimmed_within_blanks hfront hws heven]
      rfl

end Fields

/-! ## The tokens of a line -/

namespace Token

/-- **White characters around a line have no effect on its tokens**, unless the line ends in an
open backslash. Of any line it is true that only the first of those behind it can have one. -/
theorem tokens_within_blanks {front back : String} (hfront : Fields.IsBlank front)
    (hback : Fields.IsBlank back) (text : String) :
    (Fields.trailingBackslashes text.toList % 2 = 0 →
      ofLine (front ++ text ++ back) = ofLine text) ∧
    ofLine (front ++ text ++ back) = ofLine (text ++ .ofList (back.toList.take 1)) := by
  refine ⟨fun heven => ?_, ?_⟩
  · have hfields := Fields.ofLine_congr (Fields.trimmed_within_blanks hfront hback heven)
    rw [ofLine, ofLine, hfields]
  · have hfields := Fields.ofLine_congr (Fields.trimmed_within_blanks_take hfront hback text)
    rw [ofLine, ofLine, hfields]

/-- A line that ends in an escaped tab and a space of its own, and one that ends in an open
backslash, each with white characters of other kinds around it. -/
theorem tokens_within_blanks_log :
    ofLine (" \u3000" ++ "log msg=a\\\t " ++ "\u2028\t") = ofLine "log msg=a\\\t " ∧
      ofLine ("\u00a0" ++ "log msg=a\\" ++ "\t\u2028") = ofLine "log msg=a\\\t" ∧
      ofLine "log msg=a\\\t" ≠ ofLine "log msg=a\\" := by
  refine ⟨?_, ?_, by decide +kernel⟩
  · exact (tokens_within_blanks (by decide) (by decide) _).1 (by decide)
  · exact (tokens_within_blanks (by decide) (by decide) _).2

end Token

end BrowserScript
