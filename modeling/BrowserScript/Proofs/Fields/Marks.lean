/-
# BrowserScript.Proofs.Fields.Marks -- fields from the marks of characters

The reading of fields goes through a text once and does everything on the way: it takes up
escapes, opens and closes quoted runs, ends fields and collects characters. Here the same
fields are found in **two passes that do one thing each**.

  * The first gives every character a mark, which says what the character is for. A mark
    depends on the character, on whether the one before it escapes it, and on the run that
    is open there.
  * The second knows nothing of quotes and backslashes. It cuts the text at the separators,
    leaves out the pieces in which no character stands at all, and keeps of every other piece
    the literal characters.

So a piece with nothing but two quote marks is a field, spaces in a row make none, and no
literal character is lost, comes twice or changes its place.
-/
import Mathlib
import BrowserScript.Proofs.Fields.Scanning

namespace BrowserScript.Fields

/-! ## Marks -/

/-- What a character is for. -/
inductive Mark where
  /-- A backslash that makes the character after it literal. -/
  | escape
  /-- Literal, because a backslash escapes it. -/
  | escaped
  /-- A quote mark that opens a run. -/
  | opening
  /-- The quote mark that closes the open run. -/
  | closing
  /-- A space between fields. -/
  | separator
  /-- Literal by itself. -/
  | literal
  deriving DecidableEq, Repr

namespace Mark

/-- The mark of a character that is not escaped. `run` holds the mark that opened the current
quoted run. -/
def ofChar (run : Option Char) (isLast : Bool) (c : Char) : Mark :=
  if c = '\\' then if isLast then literal else escape
  else
    match run with
    | some mark => if c = mark then closing else literal
    | none => if isQuote c then opening else if c = ' ' then separator else literal

/-- The quoted run that is open after a character. -/
def runAfter (run : Option Char) (c : Char) : Mark → Option Char
  | opening => some c
  | closing => none
  | _ => run

/-- The characters with these marks belong to a field. -/
def isKept : Mark → Bool
  | escaped => true
  | literal => true
  | _ => false

end Mark

/-- The characters of a text with their marks. `isEscaped` says that a backslash before the
text escapes its first character. -/
def marked (isEscaped : Bool) (run : Option Char) : List Char → List (Char × Mark)
  | [] => []
  | c :: rest =>
    let mark := if isEscaped then .escaped else Mark.ofChar run rest.isEmpty c
    (c, mark) :: marked (mark == .escape) (Mark.runAfter run c mark) rest

/-- The characters of a line with their marks. -/
def marks (text : String) : List (Char × Mark) :=
  marked false none text.toList

/-! ## Pieces -/

/-- The parts of a line between its separators, without those that are empty. -/
def pieces (line : List (Char × Mark)) : List (List (Char × Mark)) :=
  (line.splitOnP fun p => p.2 == .separator).filter fun piece => !piece.isEmpty

/-- The literal characters among some. -/
def literals (line : List (Char × Mark)) : List Char :=
  (line.filter fun p => p.2.isKept).map Prod.fst

@[simp]
theorem literals_nil : literals [] = [] := rfl

theorem literals_append (line line' : List (Char × Mark)) :
    literals (line ++ line') = literals line ++ literals line' := by
  rw [literals, List.filter_append, List.map_append, literals, literals]

/-! ## One step of marking -/

/-- A character that escapes nothing leaves the characters after it their own marks. -/
theorem marked_cons {run : Option Char} {rest : List Char} {c : Char} {mark : Mark}
    (h : Mark.ofChar run rest.isEmpty c = mark) (hmark : mark ≠ .escape) :
    marked false run (c :: rest) = (c, mark) :: marked false (Mark.runAfter run c mark) rest := by
  have hescape : (mark == .escape) = false := beq_false_of_ne hmark
  simp [marked, h, hescape]

variable (run : Option Char) (rest : List Char) {c mark : Char}

theorem marked_escape (c : Char) :
    marked false run ('\\' :: c :: rest) =
      ('\\', .escape) :: (c, .escaped) :: marked false run rest := by
  rfl

theorem marked_backslash_end : marked false run ['\\'] = [('\\', .literal)] := by
  rfl

theorem marked_close (h : mark ≠ '\\') :
    marked false (some mark) (mark :: rest) = (mark, .closing) :: marked false none rest :=
  marked_cons (by simp [Mark.ofChar, h]) nofun

theorem marked_within (hslash : c ≠ '\\') (hmark : c ≠ mark) :
    marked false (some mark) (c :: rest) = (c, .literal) :: marked false (some mark) rest :=
  marked_cons (by simp [Mark.ofChar, hslash, hmark]) nofun

theorem marked_open (h : isQuote mark = true) :
    marked false none (mark :: rest) = (mark, .opening) :: marked false (some mark) rest := by
  have hslash : mark ≠ '\\' := by
    rintro rfl
    exact absurd h (by decide)
  exact marked_cons (by simp [Mark.ofChar, hslash, h]) nofun

theorem marked_space :
    marked false none (' ' :: rest) = (' ', .separator) :: marked false none rest :=
  marked_cons (by simp [Mark.ofChar, isQuote]) nofun

theorem marked_literal (hslash : c ≠ '\\') (hquote : isQuote c = false) (hspace : c ≠ ' ') :
    marked false none (c :: rest) = (c, .literal) :: marked false none rest :=
  marked_cons (by simp [Mark.ofChar, hslash, hquote, hspace]) nofun

/-! ## One step of cutting -/

/-- The fields of marked characters. `started` says that a field is open before them, which the
first piece then continues even if it is empty. -/
def fieldsOf (started : Bool) (line : List (Char × Mark)) : List (List Char) :=
  match line.splitOnP fun p => p.2 == .separator with
  | [] => []
  | first :: others =>
    (if started || !first.isEmpty then [literals first] else []) ++
      (others.filter fun piece => !piece.isEmpty).map literals

theorem fieldsOf_false (line : List (Char × Mark)) :
    fieldsOf false line = (pieces line).map literals := by
  unfold fieldsOf pieces
  split
  · rename_i h
    rw [h]
    rfl
  · rename_i first others h
    rw [h, List.filter_cons]
    cases hfirst : first.isEmpty <;> simp

variable (started : Bool) (line : List (Char × Mark))

theorem fieldsOf_nil : fieldsOf started [] = if started then [[]] else [] := by
  cases started <;> rfl

/-- A separator ends the field that is open, if there is one. -/
theorem fieldsOf_separator (c : Char) :
    fieldsOf started ((c, .separator) :: line) =
      (if started then [[]] else []) ++ fieldsOf false line := by
  rw [fieldsOf_false, fieldsOf, List.splitOnP_cons_eq_if_modifyHead, pieces]
  simp

variable {c : Char} {mark : Mark}

/-- Any other character is put in front of the first piece. -/
theorem splitOnP_cons_of_ne (c : Char) (h : mark ≠ .separator) :
    ∃ first others, (line.splitOnP fun p => p.2 == .separator) = first :: others ∧
      (((c, mark) :: line).splitOnP fun p => p.2 == .separator) = ((c, mark) :: first) :: others := by
  obtain ⟨first, others, hline⟩ :=
    List.exists_cons_of_ne_nil (List.splitOnP_ne_nil (fun p => p.2 == .separator) line)
  refine ⟨first, others, hline, ?_⟩
  rw [List.splitOnP_cons_eq_if_modifyHead, if_neg (by simpa using h), hline, List.modifyHead_cons]

theorem fieldsOf_kept (h : mark.isKept = true) :
    fieldsOf started ((c, mark) :: line) = extend c (fieldsOf true line) := by
  have hne : mark ≠ .separator := by
    rintro rfl
    exact Bool.false_ne_true h
  obtain ⟨first, others, hline, hcons⟩ := splitOnP_cons_of_ne line c hne
  simp [fieldsOf, hline, hcons, extend, literals, h]

/-- A character that is left out opens a field all the same. -/
theorem fieldsOf_dropped (hne : mark ≠ .separator) (h : mark.isKept = false) :
    fieldsOf started ((c, mark) :: line) = fieldsOf true line := by
  obtain ⟨first, others, hline, hcons⟩ := splitOnP_cons_of_ne line c hne
  simp [fieldsOf, hline, hcons, literals, h]

/-- The fields together are the literal characters. -/
theorem flatten_fieldsOf : (fieldsOf started line).flatten = literals line := by
  induction line generalizing started with
  | nil => cases started <;> rfl
  | cons p line ih =>
      obtain ⟨c, mark⟩ := p
      by_cases hseparator : mark = .separator
      · rw [hseparator, fieldsOf_separator, List.flatten_append, ih]
        cases started <;> rfl
      · cases hkept : mark.isKept with
        | true =>
            rw [fieldsOf_kept _ _ hkept, flatten_extend, ih]
            simp [literals, hkept]
        | false =>
            rw [fieldsOf_dropped _ _ hseparator hkept, ih]
            simp [literals, hkept]

/-! ## One pass and two -/

/-- **The reading in one pass finds the fields of the marked characters**, from within any
field and any run. -/
theorem scan_eq_fieldsOf (run : Option Char) (started : Bool) (cs : List Char) :
    scan run started cs = fieldsOf started (marked false run cs) := by
  -- the cases are those of the reading, and in each the first mark is known
  fun_induction scan run started cs with
  | case1 => rfl
  | case2 run started hstarted =>
      rw [marked, fieldsOf_nil, if_neg hstarted]
  | case3 run started =>
      rw [marked_backslash_end, fieldsOf_kept _ _ rfl, fieldsOf_nil]
      rfl
  | case4 run started escaped rest ih =>
      rw [marked_escape, fieldsOf_dropped _ _ (by simp) rfl, fieldsOf_kept _ _ rfl, ih]
  | case5 started rest mark hslash ih =>
      rw [marked_close rest hslash, fieldsOf_dropped _ _ (by simp) rfl, ih]
  | case6 started c rest hslash mark hmark ih =>
      rw [marked_within rest hslash hmark, fieldsOf_kept _ _ rfl, ih]
  | case7 started mark rest hslash hquote ih =>
      rw [marked_open rest hquote, fieldsOf_dropped _ _ (by simp) rfl, ih]
  | case8 rest hslash hquote ih =>
      rw [marked_space, fieldsOf_separator, ih]
      rfl
  | case9 started rest hstarted hslash hquote ih =>
      rw [marked_space, fieldsOf_separator, ih, if_neg hstarted, List.nil_append]
  | case10 started c rest hslash hquote hspace ih =>
      rw [marked_literal rest hslash (Bool.not_eq_true _ ▸ hquote) hspace,
        fieldsOf_kept _ _ rfl, ih]

/-! ## Runs that are not closed -/

/-- What follows a marked character is marked from the run that is open after it. -/
theorem marked_after {isEscaped : Bool} {run : Option Char} {cs : List Char}
    {before after : List (Char × Mark)} {c : Char} {mark : Mark}
    (h : marked isEscaped run cs = before ++ (c, mark) :: after) :
    ∃ run' rest, after = marked (mark == .escape) (Mark.runAfter run' c mark) rest := by
  induction before generalizing isEscaped run cs with
  | nil =>
      cases cs with
      | nil => exact absurd h (by simp [marked])
      | cons d rest =>
          obtain ⟨hfirst, hafter⟩ := List.cons.inj h
          obtain ⟨rfl, hmark⟩ := Prod.mk.inj hfirst
          rw [hmark] at hafter
          exact ⟨run, rest, hafter.symm⟩
  | cons p before ih =>
      cases cs with
      | nil => exact absurd h (by simp [marked])
      | cons d rest => exact ih (List.cons.inj h).2

/-- Within a quoted run a character closes the run, or else no field ends there and the run goes
on behind it. -/
theorem Mark.ofChar_within (mark : Char) (isLast : Bool) (c : Char) :
    ofChar (some mark) isLast c = .closing ∨ ofChar (some mark) isLast c ≠ .separator ∧
      runAfter (some mark) c (ofChar (some mark) isLast c) = some mark := by
  by_cases hslash : c = '\\'
  · cases isLast <;> simp [ofChar, hslash, runAfter]
  · by_cases hmark : c = mark
    · left
      rw [ofChar, if_neg hslash]
      exact if_pos hmark
    · simp [ofChar, hslash, hmark, runAfter]

/-- **In a run that is not closed there are no separators.** -/
theorem ne_separator_of_ne_closing {isEscaped : Bool} {mark : Char} {cs : List Char}
    (h : ∀ p ∈ marked isEscaped (some mark) cs, p.2 ≠ .closing) :
    ∀ p ∈ marked isEscaped (some mark) cs, p.2 ≠ .separator := by
  induction cs generalizing isEscaped with
  | nil => exact fun p hp => absurd hp List.not_mem_nil
  | cons c rest ih =>
      rw [marked, List.forall_mem_cons] at h ⊢
      cases isEscaped with
      | true => exact ⟨by simp, ih h.2⟩
      | false =>
          obtain ⟨hne, hrun⟩ := (Mark.ofChar_within mark rest.isEmpty c).resolve_left h.1
          simp only [Bool.false_eq_true, if_false, hrun] at h ⊢
          exact ⟨hne, ih h.2⟩

/-- Characters without a separator at the end are the end of the last piece. -/
theorem pieces_append {after : List (Char × Mark)} (hne : after ≠ [])
    (h : ∀ p ∈ after, p.2 ≠ .separator) (before : List (Char × Mark)) :
    ∃ others piece, pieces (before ++ after) = others ++ [piece ++ after] := by
  have hsplit : ∃ others piece, ((before ++ after).splitOnP fun p => p.2 == .separator) =
      others ++ [piece ++ after] := by
    induction before with
    | nil =>
        refine ⟨[], [], List.splitOnP_eq_singleton fun p hp => ?_⟩
        exact beq_false_of_ne (h p hp)
    | cons p before ih =>
        obtain ⟨others, piece, hbefore⟩ := ih
        rw [List.cons_append, List.splitOnP_cons_eq_if_modifyHead, hbefore]
        split
        · exact ⟨[] :: others, piece, rfl⟩
        · cases others with
          | nil => exact ⟨[], p :: piece, rfl⟩
          | cons other others => exact ⟨(p :: other) :: others, piece, rfl⟩
  obtain ⟨others, piece, hsplit⟩ := hsplit
  refine ⟨others.filter fun piece => !piece.isEmpty, piece, ?_⟩
  have hkept : ((piece ++ after).isEmpty) = false := by simp [hne]
  rw [pieces, hsplit, List.filter_append, List.filter_cons, hkept]
  rfl

/-! ## Fields of a text -/

theorem ofText_eq_pieces (text : String) :
    ofText text = (pieces (marks text)).map fun piece => .ofList (literals piece) := by
  rw [ofText, scan_eq_fieldsOf, fieldsOf_false, List.map_map, marks]
  rfl

theorem flatMap_toList_ofText (text : String) :
    (ofText text).flatMap String.toList = literals (marks text) := by
  rw [ofText, scan_eq_fieldsOf, List.flatMap_map, ← flatten_fieldsOf false (marks text)]
  simp [List.flatMap_def, marks]

/-- **The fields of a text are its pieces, with their literal characters.** Together they are
all the literal characters, each once and in order. A run that is not closed goes on to the
end: what stands in it is the end of the last field. -/
theorem fields_by_marks (text : String) :
    ofText text = (pieces (marks text)).map (fun piece => .ofList (literals piece)) ∧
    (ofText text).flatMap String.toList = literals (marks text) ∧
    ∀ before mark after, marks text = before ++ (mark, .opening) :: after →
      (∀ p ∈ after, p.2 ≠ .closing) →
      ∃ fields last, ofText text = fields ++ [last] ∧ literals after <:+ last.toList := by
  refine ⟨ofText_eq_pieces text, flatMap_toList_ofText text, ?_⟩
  intro before mark after htext hopen
  obtain ⟨run, rest, hafter⟩ := marked_after htext
  have hrun : after = marked false (some mark) rest := hafter
  have hno : ∀ p ∈ (mark, Mark.opening) :: after, p.2 ≠ .separator := by
    rw [List.forall_mem_cons]
    refine ⟨by simp, ?_⟩
    rw [hrun] at hopen ⊢
    exact ne_separator_of_ne_closing hopen
  obtain ⟨others, piece, hpieces⟩ := pieces_append (List.cons_ne_nil _ _) hno before
  rw [ofText_eq_pieces, htext, hpieces, List.map_append, List.map_singleton]
  refine ⟨_, _, rfl, literals piece, ?_⟩
  rw [String.toList_ofList, literals_append]
  rfl

/-- A quoted piece in which nothing stands is a field, two spaces are as good as one, and an
open run with an escaped mark in it goes on to the end. -/
theorem fields_by_marks_quoted :
    ofText "a  ''  k=\"b \\\" c" = ["a", "", "k=b \" c"] ∧
      ∃ fields last, ofText "a  ''  k=\"b \\\" c" = fields ++ [last] ∧
        ['b', ' ', '"', ' ', 'c'] <:+ last.toList := by
  obtain ⟨hfields, _, hopen⟩ := fields_by_marks "a  ''  k=\"b \\\" c"
  refine ⟨hfields.trans (by decide), ?_⟩
  exact hopen ((marks "a  ''  k=\"b \\\" c").take 9) '"'
    [('b', .literal), (' ', .literal), ('\\', .escape), ('"', .escaped), (' ', .literal),
      ('c', .literal)] (by decide) (by decide)

end BrowserScript.Fields
