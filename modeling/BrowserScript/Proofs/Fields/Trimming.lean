/-
# BrowserScript.Proofs.Fields.Trimming -- what trimming leaves alone

The end of a line is trimmed by looking backwards: the white characters go, and then
the number of backslashes before them says whether the first of them is escaped and
has to stay. Two facts about this carry everything that is said about rewritten lines.

  * A text that **ends firmly**, in a character that is neither white nor a
    backslash, is left as it is, and so is one that ends in an escaped white
    character.
  * White characters put after a text change nothing, **unless an odd number of
    backslashes stands before them**.
-/
import Mathlib.Data.List.Induction
import Mathlib.Data.List.TakeWhile
import BrowserScript.Fields

namespace BrowserScript.Fields

open Text (isWhite trimStart trimEnd)

/-! ## Backslashes at the end -/

theorem backslash_not_white : isWhite '\\' = false := by decide

theorem ne_backslash_of_isWhite {c : Char} (h : isWhite c = true) : c ≠ '\\' := by
  rintro rfl
  rw [backslash_not_white] at h
  exact Bool.false_ne_true h

@[simp]
theorem trailingBackslashes_nil : trailingBackslashes [] = 0 := rfl

theorem trailingBackslashes_concat (cs : List Char) (c : Char) :
    trailingBackslashes (cs ++ [c]) = if c = '\\' then trailingBackslashes cs + 1 else 0 := by
  unfold trailingBackslashes
  rw [List.reverse_append, List.reverse_singleton, List.singleton_append, List.takeWhile_cons]
  by_cases h : c = '\\'
  · rw [if_pos (by simpa using h), if_pos h, List.length_cons]
  · rw [if_neg (by simpa using h), if_neg h, List.length_nil]

theorem trailingBackslashes_of_not_mem {cs : List Char} (h : '\\' ∉ cs) :
    trailingBackslashes cs = 0 := by
  cases cs using List.reverseRecOn with
  | nil => rfl
  | append_singleton ds d =>
      rw [trailingBackslashes_concat, if_neg]
      rintro rfl
      exact h (List.mem_append_right ds List.mem_cons_self)

/-- What stands before a text has no part in the run of backslashes at its end, unless it
ends in backslashes itself. -/
theorem trailingBackslashes_append {before : List Char} (h : trailingBackslashes before = 0)
    (cs : List Char) : trailingBackslashes (before ++ cs) = trailingBackslashes cs := by
  induction cs using List.reverseRecOn with
  | nil => rw [List.append_nil, h, trailingBackslashes_nil]
  | append_singleton cs c ih =>
      rw [← List.append_assoc, trailingBackslashes_concat, trailingBackslashes_concat, ih]

/-- The last of an odd number of backslashes at the end is left open by those before it. -/
theorem exists_eq_of_trailingBackslashes_odd {cs : List Char}
    (h : trailingBackslashes cs % 2 = 1) :
    ∃ ds, cs = ds ++ ['\\'] ∧ trailingBackslashes ds % 2 = 0 := by
  cases cs using List.reverseRecOn with
  | nil => exact absurd h (by decide)
  | append_singleton ds d =>
      rw [trailingBackslashes_concat] at h
      split at h
      · rename_i hd
        exact ⟨ds, by rw [hd], by omega⟩
      · omega

/-! ## Texts that end firmly -/

/-- The last character is neither white, so that it is not trimmed, nor a backslash, so
that it does not escape what is put after it. -/
def EndsFirmly (cs : List Char) : Prop :=
  ∃ before last, cs = before ++ [last] ∧ isWhite last = false ∧ last ≠ '\\'

theorem EndsFirmly.append {cs : List Char} (h : EndsFirmly cs) (before : List Char) :
    EndsFirmly (before ++ cs) := by
  obtain ⟨ds, last, rfl, hlast⟩ := h
  exact ⟨before ++ ds, last, by rw [List.append_assoc], hlast⟩

theorem EndsFirmly.ne_nil {cs : List Char} (h : EndsFirmly cs) : cs ≠ [] := by
  obtain ⟨before, last, rfl, _⟩ := h
  simp

theorem EndsFirmly.getLast?_ne {cs : List Char} (h : EndsFirmly cs) {w : Char}
    (hw : isWhite w = true) : cs.getLast? ≠ some w := by
  obtain ⟨before, last, rfl, hlast, _⟩ := h
  rw [List.getLast?_concat]
  intro heq
  rw [Option.some.inj heq, hw] at hlast
  exact Bool.false_ne_true hlast.symm

theorem EndsFirmly.trailingBackslashes {cs : List Char} (h : EndsFirmly cs) :
    trailingBackslashes cs = 0 := by
  obtain ⟨before, last, rfl, _, hlast⟩ := h
  rw [trailingBackslashes_concat, if_neg hlast]

theorem trimEnd_concat_of_white {c : Char} (cs : List Char) (h : isWhite c = true) :
    trimEnd (cs ++ [c]) = trimEnd cs := by
  simp [trimEnd, h]

theorem trimEnd_concat_of_not_white {c : Char} (cs : List Char) (h : isWhite c = false) :
    trimEnd (cs ++ [c]) = cs ++ [c] := by
  simp [trimEnd, h]

theorem EndsFirmly.trimUnescapedEnd {cs : List Char} (h : EndsFirmly cs) :
    trimUnescapedEnd cs = cs := by
  have htrim : trimEnd cs = cs := by
    obtain ⟨before, last, rfl, hlast, _⟩ := h
    exact trimEnd_concat_of_not_white before hlast
  simp only [Fields.trimUnescapedEnd, htrim, h.trailingBackslashes, Nat.zero_mod, if_true]

/-! ## White characters put after a text -/

theorem trimEnd_append_white {ws : List Char} (cs : List Char) (h : ∀ w ∈ ws, isWhite w = true) :
    trimEnd (cs ++ ws) = trimEnd cs := by
  induction ws using List.reverseRecOn with
  | nil => rw [List.append_nil]
  | append_singleton ws w ih =>
      rw [← List.append_assoc, trimEnd_concat_of_white _ (h w (by simp))]
      exact ih fun v hv => h v (by simp [hv])

/-- **White characters after a text are trimmed** when no backslash escapes the first
of them. -/
theorem trimUnescapedEnd_append_white {cs ws : List Char} (hws : ∀ w ∈ ws, isWhite w = true)
    (heven : trailingBackslashes cs % 2 = 0) :
    trimUnescapedEnd (cs ++ ws) = trimUnescapedEnd cs := by
  simp only [trimUnescapedEnd, trimEnd_append_white cs hws]
  split
  · rfl
  · rename_i hodd
    -- the run is odd before the white characters of `cs` itself, so `cs` has some
    have hlt : (trimEnd cs).length < cs.length := by
      have hsum := congrArg List.length (Text.trimEnd_append cs)
      rw [List.length_append] at hsum
      rcases Nat.lt_or_ge (trimEnd cs).length cs.length with hlt | hge
      · exact hlt
      · have hnil : (cs.reverse.takeWhile isWhite).reverse = [] :=
          List.length_eq_zero_iff.1 (by omega)
        have hsame : trimEnd cs = cs := by
          have happ := Text.trimEnd_append cs
          rwa [hnil, List.append_nil] at happ
        rw [hsame] at hodd
        exact absurd heven hodd
    rw [List.take_append_of_le_length hlt]

/-- Nothing is trimmed from a text whose last character is escaped if it is white. -/
theorem trimUnescapedEnd_eq_self {cs : List Char}
    (h : ∀ ds w, cs = ds ++ [w] → isWhite w = true → trailingBackslashes ds % 2 = 1) :
    trimUnescapedEnd cs = cs := by
  cases cs using List.reverseRecOn with
  | nil => rfl
  | append_singleton ds w =>
      cases hw : isWhite w with
      | false =>
          have hkept := trimEnd_concat_of_not_white ds hw
          simp only [trimUnescapedEnd, hkept]
          split
          · rfl
          · exact List.take_of_length_le (Nat.le_succ _)
      | true =>
          have hodd := h ds w rfl hw
          obtain ⟨es, rfl, _⟩ := exists_eq_of_trailingBackslashes_odd hodd
          have hkept : trimEnd (es ++ ['\\'] ++ [w]) = es ++ ['\\'] := by
            rw [trimEnd_concat_of_white _ hw, trimEnd_concat_of_not_white _ backslash_not_white]
          simp only [trimUnescapedEnd, hkept]
          rw [if_neg (by omega)]
          exact List.take_of_length_le (by simp)

/-! ## White characters before a text -/

theorem trimStart_of_head {c : Char} (cs : List Char) (h : isWhite c = false) :
    trimStart (c :: cs) = c :: cs := by
  simp [trimStart, h]

/-- What is trimmed in front is white, so no backslash is among it. -/
theorem trailingBackslashes_takeWhile_white (cs : List Char) :
    trailingBackslashes (cs.takeWhile isWhite) = 0 := by
  apply trailingBackslashes_of_not_mem
  intro hmem
  have hwhite := List.all_eq_true.1 (List.all_takeWhile (p := isWhite) (l := cs)) _ hmem
  exact ne_backslash_of_isWhite hwhite rfl

theorem trailingBackslashes_trimStart (cs : List Char) :
    trailingBackslashes (trimStart cs) = trailingBackslashes cs := by
  have happ : trailingBackslashes (cs.takeWhile isWhite ++ cs.dropWhile isWhite) =
      trailingBackslashes (cs.dropWhile isWhite) :=
    trailingBackslashes_append (trailingBackslashes_takeWhile_white cs) _
  rw [List.takeWhile_append_dropWhile] at happ
  exact happ.symm

theorem trimStart_append_white {ws : List Char} (cs : List Char)
    (h : ∀ w ∈ ws, isWhite w = true) :
    trimStart (cs ++ ws) = trimStart cs ++ ws ∨
      trimStart (cs ++ ws) = [] ∧ trimStart cs = [] := by
  induction cs with
  | nil =>
      -- a text that is white throughout is trimmed away with all that follows
      right
      rw [List.nil_append]
      exact ⟨List.dropWhile_eq_nil_iff.2 h, rfl⟩
  | cons c cs ih =>
      cases hc : isWhite c with
      | true => simpa [trimStart, hc] using ih
      | false =>
          left
          rw [List.cons_append, trimStart_of_head _ hc, trimStart_of_head _ hc, List.cons_append]

/-- A line is trimmed to the same text when white characters are put after it, unless a
backslash escapes the first of them. -/
theorem trimmed_append_white {cs ws : List Char} (hws : ∀ w ∈ ws, isWhite w = true)
    (heven : trailingBackslashes cs % 2 = 0) :
    trimmed (.ofList (cs ++ ws)) = trimmed (.ofList cs) := by
  unfold trimmed
  rw [String.toList_ofList, String.toList_ofList]
  rcases trimStart_append_white cs hws with h | ⟨h, h'⟩
  · rw [h]
    exact trimUnescapedEnd_append_white hws (by rwa [trailingBackslashes_trimStart])
  · rw [h, h']

/-- **A text that begins and ends with characters that count is not trimmed at all.** -/
theorem trimmed_of_endsFirmly {c : Char} {cs : List Char} (hc : isWhite c = false)
    (h : EndsFirmly (c :: cs)) : trimmed (.ofList (c :: cs)) = c :: cs := by
  unfold trimmed
  rw [String.toList_ofList, trimStart_of_head cs hc, h.trimUnescapedEnd]

/-! ## The fields of a trimmed line -/

/-- A line is cut into fields by what is left of it when it is trimmed. -/
theorem ofLine_congr {text text' : String} (h : trimmed text = trimmed text') :
    ofLine text = ofLine text' := by
  simp only [ofLine, h]

/-- The first character that is left decides whether the line is a comment. -/
theorem ofLine_of_trimmed_cons {line : String} {c : Char} {cs : List Char}
    (h : trimmed line = c :: cs) :
    ofLine line = if c = '#' then [] else (scan none false (c :: cs)).map String.ofList := by
  rw [ofLine, h]
  split
  · rename_i heq
    exact absurd heq (List.cons_ne_nil c cs)
  · rename_i heq
    rw [if_pos (List.cons.inj heq).1]
  · rename_i hne
    have hc : c ≠ '#' := by
      rintro rfl
      exact hne cs rfl
    rw [if_neg hc]

end BrowserScript.Fields
