/-
# BrowserScript.Proofs.Fields.LastCharacter -- a literal character at the end

A backslash makes the last character of a line literal, whatever it is, and a backslash
that is the last character itself is literal as well. Either way **the character is the
end of the last field**, and the fields before it, and how many there are, do not
depend on it.

This is what two texts have in common of which one ends in an escaped carriage return
and the other lacks the return.
-/
import BrowserScript.Proofs.Fields.Scanning
import BrowserScript.Proofs.Fields.Trimming

namespace BrowserScript.Fields

open Text (isWhite trimStart trimEnd)

/-! ## Backslashes that are escaped -/

theorem trailingBackslashes_cons {c : Char} (h : c ≠ '\\') (cs : List Char) :
    trailingBackslashes (c :: cs) = trailingBackslashes cs := by
  have hnone : '\\' ∉ [c] := by
    rw [List.mem_singleton]
    exact Ne.symm h
  exact trailingBackslashes_append (trailingBackslashes_of_not_mem hnone) cs

/-- A backslash with the character that it escapes does not change whether the number of
backslashes at the end is odd. -/
theorem trailingBackslashes_escaped (c : Char) (cs : List Char) :
    trailingBackslashes ('\\' :: c :: cs) % 2 = trailingBackslashes cs % 2 := by
  induction cs using List.reverseRecOn with
  | nil =>
      have hpair := trailingBackslashes_concat ['\\'] c
      rw [List.singleton_append] at hpair
      rw [hpair]
      split <;> rfl
  | append_singleton cs d ih =>
      have hconcat := trailingBackslashes_concat ('\\' :: c :: cs) d
      rw [List.cons_append, List.cons_append] at hconcat
      rw [hconcat, trailingBackslashes_concat]
      split
      · omega
      · rfl

/-! ## The end of the last field -/

theorem scan_escaped_end (run : Option Char) (started : Bool) (c : Char) :
    scan run started ['\\', c] = [[c]] := by
  rw [scan_escaped, scan.eq_def]
  rfl

theorem scan_backslash_end (run : Option Char) (started : Bool) :
    scan run started ['\\'] = [['\\']] := by
  rw [scan.eq_def]
  rfl

/-- A character in front of the first field leaves the end of the last one as it is. -/
theorem extend_concat (x : Char) (fields : List (List Char)) (f : List Char) :
    ∃ fields' f', ∀ c, extend x (fields ++ [f ++ [c]]) = fields' ++ [f' ++ [c]] := by
  cases fields with
  | nil => exact ⟨[], x :: f, fun _ => rfl⟩
  | cons field fields => exact ⟨(x :: field) :: fields, f, fun _ => rfl⟩

/-- **What is read as one literal character is the end of the last field**, behind a text
whose last backslash is not left open. -/
theorem scan_append_end {cs : List Char} (heven : trailingBackslashes cs % 2 = 0)
    (run : Option Char) (started : Bool) :
    ∃ fields f, ∀ tail c, (∀ run started, scan run started tail = [[c]]) →
      scan run started (cs ++ tail) = fields ++ [f ++ [c]] := by
  -- a character that is literal within `cs` goes in front of what the rest yields
  have hextend : ∀ (x : Char) {run : Option Char} {started : Bool} {cs rest : List Char},
      (∀ tail, scan run started (cs ++ tail) = extend x (scan run true (rest ++ tail))) →
      (∃ fields f, ∀ tail c, (∀ run started, scan run started tail = [[c]]) →
        scan run true (rest ++ tail) = fields ++ [f ++ [c]]) →
      ∃ fields f, ∀ tail c, (∀ run started, scan run started tail = [[c]]) →
        scan run started (cs ++ tail) = fields ++ [f ++ [c]] := by
    rintro x run started cs rest hstep ⟨fields, f, hrest⟩
    obtain ⟨fields', f', hconcat⟩ := extend_concat x fields f
    refine ⟨fields', f', ?_⟩
    intro tail c htail
    rw [hstep, hrest tail c htail, hconcat]
  fun_induction scan run started cs with
  | case1 => exact ⟨[], [], fun tail c htail => htail _ _⟩
  | case2 => exact ⟨[], [], fun tail c htail => htail _ _⟩
  | case3 =>
      -- a lone backslash at the end is an odd run
      exact absurd heven (by decide)
  | case4 run started escaped rest ih =>
      rw [trailingBackslashes_escaped] at heven
      exact hextend escaped (fun tail => scan_escaped run started escaped (rest ++ tail)) (ih heven)
  | case5 started rest mark hslash ih =>
      rw [trailingBackslashes_cons hslash] at heven
      obtain ⟨fields, f, hrest⟩ := ih heven
      refine ⟨fields, f, ?_⟩
      intro tail c htail
      rw [List.cons_append, scan_close hslash, hrest tail c htail]
  | case6 started c rest hslash mark hmark ih =>
      rw [trailingBackslashes_cons hslash] at heven
      exact hextend c (fun tail => scan_within hslash hmark started (rest ++ tail)) (ih heven)
  | case7 started mark rest hslash hquote ih =>
      rw [trailingBackslashes_cons hslash] at heven
      obtain ⟨fields, f, hrest⟩ := ih heven
      refine ⟨fields, f, ?_⟩
      intro tail c htail
      rw [List.cons_append, scan_open hquote, hrest tail c htail]
  | case8 rest hslash hquote ih =>
      rw [trailingBackslashes_cons hslash] at heven
      obtain ⟨fields, f, hrest⟩ := ih heven
      refine ⟨[] :: fields, f, ?_⟩
      intro tail c htail
      -- the space ends the open field, which has no part of the last one
      rw [List.cons_append, scan_space, hrest tail c htail]
      rfl
  | case9 started rest hstarted hslash hquote ih =>
      rw [trailingBackslashes_cons hslash] at heven
      obtain ⟨fields, f, hrest⟩ := ih heven
      refine ⟨fields, f, ?_⟩
      intro tail c htail
      rw [List.cons_append, scan_space, hrest tail c htail, if_neg hstarted, List.nil_append]
  | case10 started c rest hslash hquote hspace ih =>
      rw [trailingBackslashes_cons hslash] at heven
      have hplain : isQuote c = false := Bool.not_eq_true _ ▸ hquote
      exact hextend c (fun tail => scan_literal hslash hplain hspace started (rest ++ tail))
        (ih heven)

/-! ## Lines with an escaped character at the end -/

theorem trimStart_append_backslash (cs tail : List Char) :
    trimStart (cs ++ '\\' :: tail) = trimStart cs ++ '\\' :: tail := by
  induction cs with
  | nil => exact trimStart_of_head tail backslash_not_white
  | cons c cs ih =>
      cases hc : isWhite c with
      | true => simpa [trimStart, hc] using ih
      | false =>
          rw [List.cons_append, trimStart_of_head _ hc, trimStart_of_head _ hc, List.cons_append]

/-- Nothing is trimmed behind a backslash that is left open: one white character, which it
escapes, stays. -/
theorem trimmed_append_escaped {cs tail : List Char} (heven : trailingBackslashes cs % 2 = 0)
    (htail : tail = [] ∨ ∃ w, isWhite w = true ∧ tail = [w]) :
    trimmed (.ofList (cs ++ '\\' :: tail)) = trimStart cs ++ '\\' :: tail := by
  have hopen : trailingBackslashes (trimStart cs ++ ['\\']) % 2 = 1 := by
    rw [trailingBackslashes_concat, if_pos rfl, trailingBackslashes_trimStart]
    omega
  rw [trimmed, String.toList_ofList, trimStart_append_backslash]
  apply trimUnescapedEnd_eq_self
  intro ds v hend hv
  rcases htail with rfl | ⟨w, _, rfl⟩
  · -- the backslash itself is the last character, and it is not white
    obtain ⟨_, hlast⟩ := List.append_inj' hend rfl
    exact absurd (List.singleton_inj.1 hlast).symm (ne_backslash_of_isWhite hv)
  · rw [List.append_cons] at hend
    obtain ⟨rfl, _⟩ := List.append_inj' hend rfl
    exact hopen

theorem ofList_concat (f : List Char) (c : Char) :
    String.ofList (f ++ [c]) = (String.ofList f).push c := by
  rw [← String.toList_inj, String.toList_push, String.toList_ofList, String.toList_ofList]

/-- The comments are the same with and without the return, and other lines have the same
fields but for the last character of the last one. -/
theorem ofLine_append_escaped {cs : List Char} (heven : trailingBackslashes cs % 2 = 0) :
    (ofLine (.ofList (cs ++ ['\\', '\r'])) = [] ∧ ofLine (.ofList (cs ++ ['\\'])) = []) ∨
      ∃ fields f, ofLine (.ofList (cs ++ ['\\', '\r'])) = fields ++ [String.push f '\r'] ∧
        ofLine (.ofList (cs ++ ['\\'])) = fields ++ [String.push f '\\'] := by
  have hreturn : ['\r'] = [] ∨ ∃ w, isWhite w = true ∧ ['\r'] = [w] :=
    Or.inr ⟨'\r', by decide, rfl⟩
  have hwith := trimmed_append_escaped heven hreturn
  have hwithout := trimmed_append_escaped heven (Or.inl rfl)
  have hfields : ∃ fields f, (scan none false (trimStart cs ++ ['\\', '\r'])).map String.ofList =
      fields ++ [String.push f '\r'] ∧
      (scan none false (trimStart cs ++ ['\\'])).map String.ofList =
        fields ++ [String.push f '\\'] := by
    have hstart : trailingBackslashes (trimStart cs) % 2 = 0 := by
      rw [trailingBackslashes_trimStart]
      exact heven
    obtain ⟨fields, f, hscan⟩ := scan_append_end hstart none false
    have hpush : ∀ c, (fields ++ [f ++ [c]]).map String.ofList =
        fields.map String.ofList ++ [(String.ofList f).push c] := by
      intro c
      rw [List.map_append, List.map_singleton, ofList_concat]
    refine ⟨fields.map String.ofList, .ofList f, ?_, ?_⟩
    · rw [hscan _ _ fun run started => scan_escaped_end run started '\r', hpush]
    · rw [hscan _ _ fun run started => scan_backslash_end run started, hpush]
  -- whether the line is a comment is decided by its first character
  cases hhead : trimStart cs with
  | nil =>
      rw [hhead] at hwith hwithout hfields
      rw [ofLine_of_trimmed_cons hwith, ofLine_of_trimmed_cons hwithout]
      exact Or.inr hfields
  | cons x xs =>
      rw [hhead] at hwith hwithout hfields
      rw [ofLine_of_trimmed_cons hwith, ofLine_of_trimmed_cons hwithout]
      by_cases hx : x = '#'
      · exact Or.inl ⟨if_pos hx, if_pos hx⟩
      · rw [if_neg hx, if_neg hx]
        exact Or.inr hfields

end BrowserScript.Fields
