/-
# BrowserScript.Proofs.Fields.Escapes -- escapes from the front and from the end

Whether a character is escaped is found out in two ways. The reading of fields goes from left
to right and knows of each backslash whether it is escaped itself. The trimming knows nothing of
what stands in front. It looks at the end of the line and counts the backslashes before the white
characters there. **Both mean the same characters**: the count is odd exactly when the reading
would take the next character as escaped.

So a line is trimmed as far as the reading of it allows. Everything that is cut off is white and
not escaped, and the last character that is left is not.
-/
import BrowserScript.Proofs.Fields.Marks
import BrowserScript.Proofs.Fields.Trimming

namespace BrowserScript.Fields

open Text (isWhite trimEnd)

/-! ## Escapes from the front -/

/-- The characters of a text, each with whether it is escaped. `isEscaped` says so of the first,
and a backslash that is not escaped itself escapes the character after it. -/
def withEscapes (isEscaped : Bool) : List Char → List (Char × Bool)
  | [] => []
  | c :: rest => (c, isEscaped) :: withEscapes (c == '\\' && !isEscaped) rest

/-- Whether a text escapes the character that is put after it. -/
def escapesNext (isEscaped : Bool) (cs : List Char) : Bool :=
  cs.foldl (fun isEscaped c => c == '\\' && !isEscaped) isEscaped

@[simp]
theorem length_withEscapes (isEscaped : Bool) (cs : List Char) :
    (withEscapes isEscaped cs).length = cs.length := by
  induction cs generalizing isEscaped with
  | nil => rfl
  | cons c cs ih => rw [withEscapes, List.length_cons, ih, List.length_cons]

/-- A character put after a text takes no escape from those before it. -/
theorem withEscapes_concat (isEscaped : Bool) (cs : List Char) (c : Char) :
    withEscapes isEscaped (cs ++ [c]) =
      withEscapes isEscaped cs ++ [(c, escapesNext isEscaped cs)] := by
  induction cs generalizing isEscaped with
  | nil => rfl
  | cons d cs ih =>
      rw [List.cons_append, withEscapes, withEscapes, ih, List.cons_append]
      rfl

theorem escapesNext_concat (isEscaped : Bool) (cs : List Char) (c : Char) :
    escapesNext isEscaped (cs ++ [c]) = (c == '\\' && !escapesNext isEscaped cs) := by
  rw [escapesNext, List.foldl_concat, escapesNext]

/-! ## The escapes that the reading finds -/

theorem Mark.ofChar_ne_escaped (run : Option Char) (isLast : Bool) (c : Char) :
    ofChar run isLast c ≠ .escaped := by
  cases run <;> grind [ofChar]

theorem Mark.ofChar_eq_escape_iff (run : Option Char) (c : Char) :
    ofChar run false c = .escape ↔ c = '\\' := by
  by_cases h : c = '\\'
  · simp [ofChar, h]
  · cases run <;> grind [ofChar]

/-- **Quoted runs have no part in this**: whatever run is open, the marks say of the same
characters that they are escaped. -/
theorem map_marked_eq_withEscapes (isEscaped : Bool) (run : Option Char) (cs : List Char) :
    (marked isEscaped run cs).map (fun p => (p.1, p.2 == .escaped)) =
      withEscapes isEscaped cs := by
  induction cs generalizing isEscaped run with
  | nil => rfl
  | cons c rest ih =>
      rw [marked, List.map_cons, ih, withEscapes]
      cases isEscaped with
      | true =>
          rw [if_pos rfl, beq_self_eq_true, Bool.not_true, Bool.and_false]
          rfl
      | false =>
          have hmark : (Mark.ofChar run rest.isEmpty c == .escaped) = false :=
            beq_false_of_ne (Mark.ofChar_ne_escaped run rest.isEmpty c)
          simp only [Bool.false_eq_true, if_false, hmark, List.cons.injEq, true_and]
          -- a backslash at the very end is literal, but then nothing comes after it
          cases rest with
          | nil => rfl
          | cons d rest =>
              have hescape : (Mark.ofChar run false c == .escape) = (c == '\\') := by
                rw [Bool.eq_iff_iff, beq_iff_eq, beq_iff_eq, Mark.ofChar_eq_escape_iff]
              rw [List.isEmpty_cons, hescape, Bool.not_false, Bool.and_true]

/-! ## Escapes from the end -/

/-- **The backslashes at the end of a text are odd in number exactly when it escapes what is put
after it.** Each of them turns this around, and every other character ends the row of them. -/
theorem escapesNext_iff_odd (cs : List Char) :
    escapesNext false cs = true ↔ trailingBackslashes cs % 2 = 1 := by
  induction cs using List.reverseRecOn with
  | nil => decide
  | append_singleton cs c ih =>
      rw [escapesNext_concat, trailingBackslashes_concat]
      by_cases hslash : c = '\\'
      · rw [if_pos hslash, hslash, beq_self_eq_true, Bool.true_and, Bool.not_eq_true',
          ← Bool.not_eq_true, ih]
        omega
      · rw [if_neg hslash, beq_false_of_ne hslash, Bool.false_and]
        decide

/-- **The end of a line is trimmed one character after the other**, as long as they are white and
not escaped. -/
theorem trimUnescapedEnd_concat (cs : List Char) (c : Char) :
    trimUnescapedEnd (cs ++ [c]) =
      if isWhite c = true ∧ escapesNext false cs = false then trimUnescapedEnd cs
      else cs ++ [c] := by
  have hparity := escapesNext_iff_odd cs
  by_cases h : isWhite c = true ∧ escapesNext false cs = false
  · obtain ⟨hwhite, hnext⟩ := h
    have heven : trailingBackslashes cs % 2 = 0 := by
      rw [hnext] at hparity
      have hodd := hparity.not.1 Bool.false_ne_true
      omega
    rw [if_pos ⟨hwhite, hnext⟩]
    apply trimUnescapedEnd_append_white _ heven
    intro w hw
    rw [List.mem_singleton.1 hw]
    exact hwhite
  · rw [if_neg h]
    apply trimUnescapedEnd_eq_self
    intro ds w hend hw
    obtain ⟨rfl, hlast⟩ := List.append_inj' hend rfl
    obtain rfl := List.singleton_inj.1 hlast
    rw [← hparity, ← Bool.not_eq_false]
    intro hnext
    exact h ⟨hw, hnext⟩

/-! ## What is cut off -/

/-- A line can be cut after `n` characters, with nothing lost but white characters that are not
escaped, exactly when the trimming leaves no more than these. -/
theorem length_trimUnescapedEnd_le_iff (cs : List Char) (n : Nat) :
    (trimUnescapedEnd cs).length ≤ n ↔
      ∀ p ∈ (withEscapes false cs).drop n, isWhite p.1 = true ∧ p.2 = false := by
  induction cs using List.reverseRecOn with
  | nil => simp [withEscapes, trimUnescapedEnd, trimEnd]
  | append_singleton cs c ih =>
      rcases Nat.lt_or_ge cs.length n with hlt | hle
      · -- nothing stands after so many characters
        have hlength : (trimUnescapedEnd (cs ++ [c])).length ≤ cs.length + 1 := by
          have hprefix := (isPrefix_trimUnescapedEnd (cs ++ [c])).length_le
          rwa [List.length_append, List.length_singleton] at hprefix
        have hnil : (withEscapes false (cs ++ [c])).drop n = [] := by
          apply List.drop_eq_nil_of_le
          rw [length_withEscapes, List.length_append, List.length_singleton]
          omega
        rw [hnil]
        exact iff_of_true (by omega) (List.forall_mem_nil _)
      · have hdrop : (withEscapes false (cs ++ [c])).drop n =
            (withEscapes false cs).drop n ++ [(c, escapesNext false cs)] := by
          rw [withEscapes_concat]
          apply List.drop_append_of_le_length
          rwa [length_withEscapes]
        rw [hdrop, List.forall_mem_append, List.forall_mem_singleton, trimUnescapedEnd_concat]
        split
        · rename_i h
          rw [ih, and_iff_left h]
        · -- the last character stays, and so no text without it is enough
          rename_i h
          refine iff_of_false ?_ fun hall => h hall.2
          rw [List.length_append, List.length_singleton]
          omega

/-- **A line is trimmed to its shortest beginning after which all is white and not escaped**,
where the escaped characters are those that the reading of fields finds from the left. -/
theorem trimUnescapedEnd_is_shortest (line : String) :
    (marks line).map (fun p => (p.1, p.2 == .escaped)) = withEscapes false line.toList ∧
    trimUnescapedEnd line.toList <+: line.toList ∧
    ∀ n, (trimUnescapedEnd line.toList).length ≤ n ↔
      ∀ p ∈ (withEscapes false line.toList).drop n, isWhite p.1 = true ∧ p.2 = false :=
  ⟨map_marked_eq_withEscapes false none line.toList, isPrefix_trimUnescapedEnd line.toList,
    length_trimUnescapedEnd_le_iff line.toList⟩

/-- Of three backslashes the last is open and keeps the tab, of four it is not. -/
example : trimUnescapedEnd "log a\\\\\\\t\u3000 ".toList = "log a\\\\\\\t".toList ∧
    trimUnescapedEnd "log a\\\\\\\\\t\u3000 ".toList = "log a\\\\\\\\".toList := by decide

end BrowserScript.Fields
