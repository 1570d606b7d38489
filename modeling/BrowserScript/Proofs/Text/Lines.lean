/-
# BrowserScript.Proofs.Text.Lines -- cutting and joining are inverse

A list of lines is **well cut** when no line holds a line feed among its characters and
every line but a last one that is not empty is ended. These are exactly the lists that
`cut` yields, and on them joining the lines and cutting the text are inverse to each
other. A text that is rewritten line by line keeps its lines, therefore, when the new
list of lines is well cut again.
-/
import BrowserScript.Text.Lines

namespace BrowserScript.Text.Line

/-! ## Well-cut lists of lines -/

/-- The lines of some text: only the last one may be without a line feed, and it has some
character then. -/
def WellCut : List Line → Prop
  | [] => True
  | l :: ls => '\n' ∉ l.chars ∧ (l.ended = true ∨ l.chars ≠ [] ∧ ls = []) ∧ WellCut ls

theorem wellCut_cutFrom {before : List Char} (h : '\n' ∉ before) (cs : List Char) :
    WellCut (cutFrom before cs) := by
  -- the line that is being read has no line feed in it, and that carries the induction
  induction cs generalizing before with
  | nil =>
      rw [cutFrom]
      split
      · trivial
      · rename_i hne
        rw [List.isEmpty_iff] at hne
        refine ⟨by simpa using h, Or.inr ⟨?_, rfl⟩, trivial⟩
        simpa using hne
  | cons c cs ih =>
      rw [cutFrom]
      split
      · exact ⟨by simpa using h, Or.inl rfl, ih List.not_mem_nil⟩
      · rename_i hc
        refine ih ?_
        rw [List.mem_cons, not_or]
        exact ⟨fun hn => hc hn.symm, h⟩

theorem wellCut_cut (text : String) : WellCut (cut text) :=
  wellCut_cutFrom List.not_mem_nil text.toList

theorem WellCut.newline_not_mem {ls : List Line} (h : WellCut ls) {l : Line} (hl : l ∈ ls) :
    '\n' ∉ l.chars := by
  induction ls with
  | nil => exact absurd hl List.not_mem_nil
  | cons m ls ih =>
      obtain ⟨hm, _, hls⟩ := h
      rcases List.mem_cons.1 hl with rfl | hmem
      · exact hm
      · exact ih hls hmem

theorem newline_not_mem_of_mem_cut {text : String} {l : Line} (hl : l ∈ cut text) :
    '\n' ∉ l.chars :=
  (wellCut_cut text).newline_not_mem hl

theorem newline_not_mem_body {l : Line} (h : '\n' ∉ l.chars) : '\n' ∉ l.body.toList := by
  intro hmem
  rw [body, String.toList_ofList] at hmem
  exact h (dropReturn_append l.chars ▸ List.mem_append_left _ hmem)

/-- In a well-cut list a line without a line feed is the last one, and the only one. -/
theorem WellCut.eq_concat_of_not_ended {ls : List Line} (h : WellCut ls) {l : Line}
    (hl : l ∈ ls) (hended : l.ended = false) :
    ∃ before, ls = before ++ [l] ∧ ∀ m ∈ before, m.ended = true := by
  induction ls with
  | nil => exact absurd hl List.not_mem_nil
  | cons m ls ih =>
      obtain ⟨_, hlast, hls⟩ := h
      rcases hlast with htrue | ⟨_, rfl⟩
      · have hmem : l ∈ ls := by
          rcases List.mem_cons.1 hl with rfl | hmem
          · exact absurd htrue (by rw [hended]; exact Bool.false_ne_true)
          · exact hmem
        obtain ⟨before, rfl, hbefore⟩ := ih hls hmem
        exact ⟨m :: before, rfl, List.forall_mem_cons.2 ⟨htrue, hbefore⟩⟩
      · obtain rfl := List.mem_singleton.1 hl
        exact ⟨[], rfl, fun _ hm => absurd hm List.not_mem_nil⟩

/-- Rewriting each line keeps a list well cut when no line feed comes in, the line feeds at
the ends stay, and no line becomes empty. -/
theorem WellCut.map {ls : List Line} (h : WellCut ls) (f : Line → Line)
    (hnewline : ∀ l, '\n' ∉ l.chars → '\n' ∉ (f l).chars) (hended : ∀ l, (f l).ended = l.ended)
    (hne : ∀ l, l.chars ≠ [] → (f l).chars ≠ []) : WellCut (ls.map f) := by
  induction ls with
  | nil => trivial
  | cons l ls ih =>
      obtain ⟨hl, hlast, hls⟩ := h
      refine ⟨hnewline l hl, ?_, ih hls⟩
      rw [hended]
      rcases hlast with htrue | ⟨hchars, rfl⟩
      · exact Or.inl htrue
      · exact Or.inr ⟨hne l hchars, rfl⟩

/-! ## Cutting what was joined -/

/-- Characters without a line feed go to the line that is being read. -/
theorem cutFrom_append {xs : List Char} (h : '\n' ∉ xs) (before rest : List Char) :
    cutFrom before (xs ++ rest) = cutFrom (xs.reverse ++ before) rest := by
  induction xs generalizing before with
  | nil => rfl
  | cons x xs ih =>
      rw [List.mem_cons, not_or] at h
      rw [List.cons_append, cutFrom, if_neg (Ne.symm h.1), ih h.2, List.reverse_cons,
        List.append_assoc, List.singleton_append]

theorem cutFrom_flatMap_full {ls : List Line} (h : WellCut ls) :
    cutFrom [] (ls.flatMap full) = ls := by
  induction ls with
  | nil => rfl
  | cons l ls ih =>
      obtain ⟨hl, hlast, hls⟩ := h
      rw [List.flatMap_cons, full, List.append_assoc, cutFrom_append hl, List.append_nil]
      obtain ⟨chars, ended⟩ := l
      cases ended with
      | true =>
          rw [if_pos rfl, List.singleton_append, cutFrom, if_pos rfl, ih hls,
            List.reverse_reverse]
      | false =>
          -- the last line is made by the end of the text, because it is not empty
          obtain ⟨hne, rfl⟩ := hlast.resolve_left Bool.false_ne_true
          have hempty : chars.reverse.isEmpty = false := by simpa using hne
          simp only [Bool.false_eq_true, if_false, List.flatMap_nil, List.append_nil, cutFrom,
            hempty, List.reverse_reverse]

/-- **Cutting the text that well-cut lines make up gives these lines.** -/
theorem cut_ofList_flatMap_full {ls : List Line} (h : WellCut ls) :
    cut (.ofList (ls.flatMap full)) = ls := by
  rw [cut, String.toList_ofList, cutFrom_flatMap_full h]

/-- A text is determined by its lines. -/
theorem eq_of_cut_eq {text text' : String} (h : cut text = cut text') : text = text' := by
  rw [← String.toList_inj, ← flatMap_full_cut, ← flatMap_full_cut text', h]

/-! ## Texts that follow one another -/

/-- Whole lines only: the text is empty or ends in a line feed. -/
def IsWhole (text : String) : Prop :=
  text = "" ∨ text.toList.getLast? = some '\n'

instance (text : String) : Decidable (IsWhole text) :=
  inferInstanceAs (Decidable (_ ∨ _))

theorem cutFrom_append_newline (before xs ys : List Char) :
    cutFrom before (xs ++ ['\n'] ++ ys) = cutFrom before (xs ++ ['\n']) ++ cutFrom [] ys := by
  induction xs generalizing before with
  | nil => simp [cutFrom]
  | cons x xs ih =>
      simp only [List.cons_append, cutFrom]
      split
      · rw [ih, List.cons_append]
      · rw [ih]

/-- **The lines of two texts are the lines of their parts** when the first ends with a whole
line, or when nothing follows it. -/
theorem cut_append {a b : String} (h : IsWhole a ∨ b = "") : cut (a ++ b) = cut a ++ cut b := by
  rcases h with (rfl | hlast) | rfl
  · rw [String.empty_append]
    rfl
  · obtain ⟨xs, hxs⟩ := List.getLast?_eq_some_iff.1 hlast
    rw [cut, cut, cut, String.toList_append, hxs, cutFrom_append_newline]
  · rw [String.append_empty, show cut "" = [] from rfl, List.append_nil]

/-! ## Lines with another text -/

/-- A line with another text in place of its own and with the ending that it had. -/
def withBody (l : Line) (text : String) : Line :=
  ⟨text.toList ++ if l.chars.getLast? = some '\r' then ['\r'] else [], l.ended⟩

theorem dropReturn_append_return (cs : List Char) : dropReturn (cs ++ ['\r']) = cs := by
  simp [dropReturn]

theorem dropReturn_of_ne {cs : List Char} (h : cs.getLast? ≠ some '\r') : dropReturn cs = cs :=
  if_neg h

/-- The new text must not end in a carriage return, which would be taken for part of the
ending. -/
theorem body_withBody {l : Line} {text : String} (h : text.toList.getLast? ≠ some '\r') :
    (l.withBody text).body = text := by
  unfold body withBody
  split
  · rw [dropReturn_append_return, String.ofList_toList]
  · rw [List.append_nil, dropReturn_of_ne h, String.ofList_toList]

theorem ending_withBody {l : Line} {text : String} (h : text.toList.getLast? ≠ some '\r') :
    (l.withBody text).ending = l.ending := by
  unfold ending withBody
  by_cases hr : l.chars.getLast? = some '\r'
  · simp only [hr, if_true, List.getLast?_append, List.getLast?_singleton, Option.some_or]
  · simp only [hr, if_false, List.append_nil, h]

theorem full_withBody (l : Line) (text : String) :
    String.ofList (l.withBody text).full = text ++ l.ending := by
  rw [← String.toList_inj]
  unfold full withBody ending
  by_cases hr : l.chars.getLast? = some '\r' <;> cases l.ended <;> simp [hr]

theorem withBody_withBody (l : Line) {text text' : String}
    (h : text.toList.getLast? ≠ some '\r') :
    (l.withBody text).withBody text' = l.withBody text' := by
  unfold withBody
  by_cases hr : l.chars.getLast? = some '\r'
  · simp only [hr, if_true, List.getLast?_append, List.getLast?_singleton, Option.some_or]
  · simp only [hr, if_false, List.append_nil, h]

end BrowserScript.Text.Line
