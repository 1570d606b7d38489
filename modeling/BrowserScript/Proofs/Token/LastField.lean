/-
# BrowserScript.Proofs.Token.LastField -- the end of the last field

What happens to the tokens of a line when a character is put at the end of its last
field? Unless it is an equals sign, which could make an assignment of the field, **the
character goes to the end of the last piece** and nothing else happens: to the value of
a parameter, to the last locator of a selector, or to a field that is set aside.
-/
import BrowserScript.Proofs.Token.Reading

namespace BrowserScript

/-! ## A character at the end -/

/-- Puts a character at the end of the text of a locator. -/
def Locator.push (l : Locator) (c : Char) : Locator :=
  ⟨l.strategy, l.value.push c⟩

/-- Puts a character at the end of the last locator of a chain. -/
def SelectorChain.push : SelectorChain → Char → SelectorChain
  | last l, c => last (l.push c)
  | orElse l next, c => orElse l (next.push c)

theorem SelectorChain.push_link (l m : Locator) (links : List Locator) (c : Char) :
    (link l (links ++ [m])).push c = link l (links ++ [m.push c]) := by
  induction links generalizing l with
  | nil => rfl
  | cons n links ih =>
      show orElse l ((link n (links ++ [m])).push c) = orElse l (link n (links ++ [m.push c]))
      rw [ih]

/-- Puts a character at the end of a piece. -/
def Piece.push : Piece → Char → Piece
  | token (.command name), c => token (.command (name.push c))
  | token (.selector chain), c => token (.selector (chain.push c))
  | token (.param key value), c => token (.param key (value.push c))
  | ignored field, c => ignored (field.push c)

/-! ## One field -/

namespace Fields

theorem assignment?_eq_none_iff {field : String} :
    assignment? field = none ↔ '=' ∉ field.toList := by
  simp [assignment?]

theorem assignment?_push {c : Char} (hc : c ≠ '=') (field : String) :
    assignment? (field.push c) = (assignment? field).map fun p => (p.1, p.2.push c) := by
  cases h : assignment? field with
  | none =>
      rw [assignment?_eq_none_iff] at h
      refine assignment?_eq_none_iff.2 ?_
      rw [String.toList_push, List.mem_append, List.mem_singleton, not_or]
      exact ⟨h, Ne.symm hc⟩
  | some p =>
      obtain ⟨hfield, hkey⟩ := assignment?_eq_some_iff.1 h
      refine assignment?_eq_some_iff.2 ⟨?_, hkey⟩
      rw [hfield, ← String.toList_inj]
      simp

end Fields

namespace Locator

theorem ofField?_push {c : Char} (hc : c ≠ '=') (field : String) :
    ofField? (field.push c) = (ofField? field).map (·.push c) := by
  simp only [ofField?, Fields.assignment?_push hc]
  cases Fields.assignment? field with
  | none => rfl
  | some p =>
      -- the name before the equals sign is the same, with a strategy or without
      cases hname : Strategy.ofName? p.1 <;> simp [hname, push]

theorem ofField?_push_of_some {c : Char} (hc : c ≠ '=') {field : String} {l : Locator}
    (h : ofField? field = some l) : ofField? (field.push c) = some (l.push c) := by
  rw [ofField?_push hc, h]
  rfl

theorem ofField?_push_of_none {c : Char} (hc : c ≠ '=') {field : String}
    (h : ofField? field = none) : ofField? (field.push c) = none := by
  rw [ofField?_push hc, h]
  rfl

theorem ofLink?_push {c : Char} (hc : c ≠ '=') (field : String) :
    ofLink? (field.push c) = (ofLink? field).map (·.push c) := by
  simp only [ofLink?, Fields.assignment?_push hc]
  cases Fields.assignment? field with
  | none => rfl
  | some p =>
      show (if p.1 = fallbackWord then ofField? (p.2.push c) else none) =
        (if p.1 = fallbackWord then ofField? p.2 else none).map (·.push c)
      split
      · exact ofField?_push hc p.2
      · rfl

end Locator

namespace Piece

theorem ofRest_push {c : Char} (hc : c ≠ '=') (field : String) :
    ofRest (field.push c) = (ofRest field).push c := by
  simp only [ofRest, Fields.assignment?_push hc]
  cases Fields.assignment? field with
  | none => rfl
  | some p =>
      show (if p.1 = "" then ignored (field.push c) else token (.param p.1 (p.2.push c))) =
        (if p.1 = "" then ignored field else token (.param p.1 p.2)).push c
      split <;> rfl

/-! ## A row of fields -/

/-- A single field after a selector that is no part of it. -/
theorem read_last {field : String} (h : Locator.ofField? field = none)
    (hlink : Locator.ofLink? field = none) : read true [field] = ([], [ofRest field]) := by
  by_cases hword : field = fallbackWord
  · rw [hword, read.eq_def]
    simp only [Locator.ofField?_fallbackWord, Locator.ofLink?_fallbackWord, if_true]
  · rw [read_after h hlink hword, read.eq_def]

/-- The results of a reading, one for each character at the end of the last field: either
the character is at the end of the last piece, or there is no piece and it is at the end
of the last link. -/
def GivesLast (result : Char → List Locator × List Piece) : Prop :=
  (∃ links before x, ∀ c, c ≠ '=' → result c = (links, before ++ [push x c])) ∨
    ∃ links l, ∀ c, c ≠ '=' → result c = (links ++ [Locator.push l c], [])

theorem GivesLast.of_piece {result : Char → List Locator × List Piece} (links : List Locator)
    (before : List Piece) (x : Piece)
    (h : ∀ c, c ≠ '=' → result c = (links, before ++ [push x c])) : GivesLast result :=
  Or.inl ⟨links, before, x, h⟩

theorem GivesLast.of_link {result : Char → List Locator × List Piece} (links : List Locator)
    (l : Locator) (h : ∀ c, c ≠ '=' → result c = (links ++ [Locator.push l c], [])) :
    GivesLast result :=
  Or.inr ⟨links, l, h⟩

theorem GivesLast.cons_locator {result : Char → List Locator × List Piece} (h : GivesLast result)
    (l : Locator) : GivesLast fun c => (l :: (result c).1, (result c).2) := by
  rcases h with ⟨links, before, x, h⟩ | ⟨links, m, h⟩
  · refine .of_piece (l :: links) before x ?_
    intro c hc
    simp only [h c hc]
  · refine .of_link (l :: links) m ?_
    intro c hc
    simp only [h c hc, List.cons_append]

/-- A selector takes the links that come after it. -/
theorem GivesLast.cons_selector {result : Char → List Locator × List Piece}
    (h : GivesLast result) (l : Locator) :
    GivesLast fun c => ([], token (.selector (.link l (result c).1)) :: (result c).2) := by
  rcases h with ⟨links, before, x, h⟩ | ⟨links, m, h⟩
  · refine .of_piece [] (token (.selector (.link l links)) :: before) x ?_
    intro c hc
    simp only [h c hc, List.cons_append]
  · refine .of_piece [] [] (token (.selector (.link l (links ++ [m])))) ?_
    intro c hc
    simp only [h c hc, push, SelectorChain.push_link, List.nil_append]

/-- With no selector before the fields there is a last piece. -/
theorem GivesLast.exists_pieces {fields : Char → List String}
    (h : GivesLast fun c => read false (fields c)) :
    ∃ before x, ∀ c, c ≠ '=' → (read false (fields c)).2 = before ++ [push x c] := by
  rcases h with ⟨links, before, x, h⟩ | ⟨links, l, h⟩
  · refine ⟨before, x, ?_⟩
    intro c hc
    simp only [h c hc]
  · -- there would be a link at the end, and no selector for it to continue
    have hnil := read_false_fst (fields 'a')
    have hresult := h 'a' (by decide)
    simp only at hresult
    rw [hresult] at hnil
    exact absurd hnil (by simp)

theorem GivesLast.cons_piece {fields : Char → List String}
    (h : GivesLast fun c => read false (fields c)) (p : Piece) :
    GivesLast fun c => ([], p :: (read false (fields c)).2) := by
  obtain ⟨before, x, h⟩ := h.exists_pieces
  refine .of_piece [] (p :: before) x ?_
  intro c hc
  simp only [h c hc, List.cons_append]

theorem GivesLast.congr {result result' : Char → List Locator × List Piece}
    (h : GivesLast result) (heq : ∀ c, result' c = result c) : GivesLast result' := by
  rwa [funext heq]

theorem givesLast_single (linking : Bool) (f : String) :
    GivesLast fun c => read linking [f.push c] := by
  cases h : Locator.ofField? f with
  | some l =>
      refine .of_piece [] [] (token (.selector (.last l))) ?_
      intro c hc
      have hfield := Locator.ofField?_push_of_some hc h
      rw [read_locator hfield]
      rfl
  | none =>
      cases linking with
      | false =>
          refine .of_piece [] [] (ofRest f) ?_
          intro c hc
          rw [read_alone (Locator.ofField?_push_of_none hc h), ofRest_push hc]
          rfl
      | true =>
          cases hlink : Locator.ofLink? f with
          | some l =>
              refine .of_link [] l ?_
              intro c hc
              have hpush : Locator.ofLink? (f.push c) = some (l.push c) := by
                rw [Locator.ofLink?_push hc, hlink]
                rfl
              rw [Locator.ofLink?_eq_some_iff.1 hpush, read_link]
              rfl
          | none =>
              refine .of_piece [] [] (ofRest f) ?_
              intro c hc
              have hpush : Locator.ofLink? (f.push c) = none := by
                rw [Locator.ofLink?_push hc, hlink]
                rfl
              rw [read_last (Locator.ofField?_push_of_none hc h) hpush, ofRest_push hc]
              rfl

/-- The linking word at the end of the row takes the last field, if that is a locator. -/
theorem givesLast_word (f : String) : GivesLast fun c => read true [fallbackWord, f.push c] := by
  cases h : Locator.ofField? f with
  | some l =>
      refine .of_link [] l ?_
      intro c hc
      have hfield := Locator.ofField?_push_of_some hc h
      rw [Locator.ofField?_eq_some_iff.1 hfield, read_word]
      rfl
  | none =>
      obtain ⟨before, x, hlast⟩ := (givesLast_single false f).exists_pieces
      refine .of_piece [] (ofRest fallbackWord :: before) x ?_
      intro c hc
      rw [read_word_alone (Locator.ofField?_push_of_none hc h), hlast c hc]
      rfl

/-- **A character at the end of the last field goes to the end of what is read last.** -/
theorem givesLast_read (linking : Bool) (fields : List String) (f : String) :
    GivesLast fun c => read linking (fields ++ [f.push c]) := by
  fun_induction read linking fields with
  | case1 linking => exact givesLast_single linking f
  | case2 linking field rest l h after ih =>
      exact (ih.cons_selector l).congr fun c => read_locator h linking (rest ++ [f.push c])
  | case3 field rest h l hlink after ih =>
      apply (ih.cons_locator l).congr
      intro c
      rw [Locator.ofLink?_eq_some_iff.1 hlink, List.cons_append, read_link]
  | case4 =>
      -- the linking word was the end of the row, and the new field may be its locator
      exact givesLast_word f
  | case5 next beyond l h hword hlink after ih =>
      apply (ih.cons_locator l).congr
      intro c
      rw [Locator.ofField?_eq_some_iff.1 h, List.cons_append, List.cons_append, read_word]
  | case6 next beyond h hword hlink ih =>
      exact (ih.cons_piece (ofRest fallbackWord)).congr fun c =>
        read_word_alone h (beyond ++ [f.push c])
  | case7 field rest h hlink hword ih =>
      exact (ih.cons_piece (ofRest field)).congr fun c =>
        read_after h hlink hword (rest ++ [f.push c])
  | case8 linking field rest h hlinking ih =>
      apply (ih.cons_piece (ofRest field)).congr
      intro c
      have halone : linking = false := Bool.eq_false_iff.2 hlinking
      rw [halone, List.cons_append, read_alone h]

/-- The pieces of a line with more than one field: its command and, at the end, a piece that
the last character belongs to. -/
theorem ofFields_push (name : String) (fields : List String) (f : String) :
    ∃ before x, ∀ c, c ≠ '=' → ofFields (name :: fields ++ [f.push c]) =
      token (.command (CommandKind.resolveAlias name)) :: before ++ [push x c] := by
  obtain ⟨before, x, h⟩ := (givesLast_read false fields f).exists_pieces
  refine ⟨before, x, ?_⟩
  intro c hc
  rw [List.cons_append, ofFields, h c hc, List.cons_append]

end Piece

end BrowserScript
