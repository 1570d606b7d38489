/-
# BrowserScript.Proofs.Value.YamlScalar -- a text is known by its scalar

Different texts have different scalars, also where further lines follow. **The first character
tells the style**, and each style then ends in a way of its own: a plain text with its line, a
text in quotes at the first quote that is not escaped or doubled, a block at the first line that
is indented less.

Blocks and single quotes have their lines indented by the same function. What stands behind must
not look like one more character of the text; that is all that the law about this function asks
for, and the two styles differ in what they put there.
-/
import Mathlib
import BrowserScript.Proofs.Value.JsonText
import BrowserScript.Value.Yaml.Scalar

namespace BrowserScript.Value.Yaml

/-! ## Double quotes -/

/-- What a hexadecimal digit is worth. -/
def hexValue (c : Char) : Nat :=
  if c.isDigit then c.toNat - '0'.toNat else c.toNat - 'A'.toNat + 10

theorem hexValue_hexDigit : ∀ n < 16, hexValue (hexDigit n) = n := by decide

/-- The number of a row of hexadecimal digits. -/
def ofHexDigits (cs : List Char) : Nat :=
  cs.foldl (fun n c => 16 * n + hexValue c) 0

theorem length_hexDigits (width n : Nat) : (hexDigits width n).length = width := by
  induction width generalizing n with
  | zero => rfl
  | succ width ih => rw [hexDigits, List.length_append, ih, List.length_singleton]

theorem ofHexDigits_hexDigits (width n : Nat) : ofHexDigits (hexDigits width n) = n % 16 ^ width := by
  induction width generalizing n with
  | zero => rw [hexDigits, Nat.pow_zero, Nat.mod_one, ofHexDigits, List.foldl_nil]
  | succ width ih =>
      have hlast : hexValue (hexDigit (n % 16)) = n % 16 :=
        hexValue_hexDigit _ (Nat.mod_lt n (by omega))
      rw [hexDigits, ofHexDigits, List.foldl_append, ← ofHexDigits, ih, List.foldl_cons,
        List.foldl_nil, hlast, Nat.pow_succ, Nat.mul_comm (16 ^ width) 16, Nat.mod_mul]
      omega

/-- How many digits follow the letter of an escape, if any do. -/
def escapeWidth? (letter : Char) : Option Nat :=
  if letter = 'x' then some 2 else if letter = 'u' then some 4
  else if letter = 'U' then some 8 else none

/-- The character that a letter is the short escape of. -/
def ofLetter? (letter : Char) : Option Char :=
  (shortEscapes.find? fun p => p.2 = letter).map Prod.fst

/-- The first character that is meant between double quotes, and what comes after it. -/
def firstChar? : List Char → Option (Char × List Char)
  | '\\' :: letter :: cs =>
    match escapeWidth? letter with
    | some width => some (Char.ofNat (ofHexDigits (cs.take width)), cs.drop width)
    | none => (ofLetter? letter).map fun c => (c, cs)
  | c :: cs => some (c, cs)
  | [] => none

theorem firstChar?_of_ne {c : Char} (h : c ≠ '\\') (cs : List Char) :
    firstChar? (c :: cs) = some (c, cs) := by
  unfold firstChar?
  split
  · rename_i heq
    exact absurd (List.cons.inj heq).1 h
  · rename_i heq
    obtain ⟨rfl, rfl⟩ := List.cons.inj heq
    rfl
  · rename_i heq
    exact absurd heq (List.cons_ne_nil c cs)

/-- The letters of short escapes announce no digits, and each belongs to one character. -/
theorem shortEscapes_letters :
    ∀ p ∈ shortEscapes, escapeWidth? p.2 = none ∧ ofLetter? p.2 = some p.1 := by decide

/-- An escape by digits is read as the character of their number. -/
theorem firstChar?_digits {letter : Char} {width : Nat} (hletter : escapeWidth? letter = some width)
    {c : Char} (hc : c.toNat < 16 ^ width) (cs : List Char) :
    firstChar? ('\\' :: letter :: hexDigits width c.toNat ++ cs) = some (c, cs) := by
  have htake : (hexDigits width c.toNat ++ cs).take width = hexDigits width c.toNat := by
    rw [List.take_append_of_le_length (length_hexDigits width _).ge, List.take_of_length_le]
    exact (length_hexDigits width _).le
  have hdrop : (hexDigits width c.toNat ++ cs).drop width = cs :=
    List.drop_left' (length_hexDigits width _)
  rw [List.cons_append, List.cons_append, firstChar?]
  simp only [hletter, htake, hdrop, ofHexDigits_hexDigits, Nat.mod_eq_of_lt hc, Char.ofNat_toNat]

/-- **A character between double quotes can be read**, whatever comes after it. -/
theorem firstChar?_doubleChar (c : Char) (cs : List Char) :
    firstChar? (doubleChar c ++ cs) = some (c, cs) := by
  unfold doubleChar
  cases hshort : shortEscapes.lookup c with
  | some letter =>
      have hmem : (c, letter) ∈ shortEscapes := by
        obtain ⟨before, after, heq, _⟩ := List.lookup_eq_some_iff.1 hshort
        rw [heq]
        exact List.mem_append_right before List.mem_cons_self
      obtain ⟨hwidth, hletter⟩ := shortEscapes_letters _ hmem
      simp only [List.cons_append, List.nil_append, firstChar?, hwidth, hletter, Option.map_some]
  | none =>
      have hbackslash : c ≠ '\\' := by
        rintro rfl
        exact absurd hshort (by decide)
      have hvalid : c.toNat < 0x110000 := by
        rcases c.valid with h | h
        · exact Nat.lt_trans h (by decide)
        · exact h.2
      simp only
      split_ifs with hprint htwo hfour
      · exact firstChar?_of_ne hbackslash cs
      · exact firstChar?_digits (by decide) (by omega) cs
      · exact firstChar?_digits (by decide) (by omega) cs
      · exact firstChar?_digits (by decide) (by omega) cs

/-- No character between double quotes is written with a quote in front. -/
theorem head?_doubleChar_ne (c : Char) (cs : List Char) :
    (doubleChar c ++ cs).head? ≠ some '"' := by
  unfold doubleChar
  cases hshort : shortEscapes.lookup c with
  | some letter => simp
  | none =>
      have hquote : c ≠ '"' := by
        rintro rfl
        exact absurd hshort (by decide)
      simp only
      split_ifs <;> simp [hquote]

/-! ## Indented lines -/

section Lines

variable {indent : Nat} {write : Char → List Char}

/-- Whether a line begins behind some characters, where one begins in front of them or not. -/
def atStart (isStart : Bool) (cs : List Char) : Bool :=
  (cs.getLast?.map isBreak).getD isStart

@[simp] theorem atStart_nil (isStart : Bool) : atStart isStart [] = isStart := rfl

@[simp] theorem atStart_cons (isStart : Bool) (c : Char) (cs : List Char) :
    atStart isStart (c :: cs) = atStart (isBreak c) cs := by
  rw [atStart, atStart, List.getLast?_cons]
  cases cs.getLast? <;> rfl

theorem atStart_concat (isStart : Bool) (cs : List Char) (c : Char) :
    atStart isStart (cs ++ [c]) = isBreak c := by
  rw [atStart, List.getLast?_concat]
  rfl

theorem atStart_false (cs : List Char) : atStart false cs = cs.getLast?.any isBreak := by
  rw [atStart]
  cases cs.getLast? <;> rfl

/-- The characters of a text are written one by one. -/
theorem indentLines_cons (isStart : Bool) (c : Char) (cs : List Char) :
    indentLines indent write isStart (c :: cs) =
      indentLines indent write isStart [c] ++ indentLines indent write (isBreak c) cs := by
  cases h : isBreak c <;> simp [indentLines, h]

theorem indentLines_append (isStart : Bool) (cs ds : List Char) :
    indentLines indent write isStart (cs ++ ds) =
      indentLines indent write isStart cs ++ indentLines indent write (atStart isStart cs) ds := by
  induction cs generalizing isStart with
  | nil => rfl
  | cons c cs ih =>
      rw [List.cons_append, indentLines_cons, ih, indentLines_cons isStart c cs, atStart_cons,
        List.append_assoc]

theorem indentLines_of_break {c : Char} (h : isBreak c = true) (isStart : Bool) :
    indentLines indent write isStart [c] = [c] := by
  simp [indentLines, h]

/-- The spaces that stand in front where a line begins. -/
def startSpaces (indent : Nat) (isStart : Bool) : List Char :=
  if isStart then List.replicate indent ' ' else []

theorem indentLines_of_not_break {c : Char} (h : isBreak c = false) (isStart : Bool) :
    indentLines indent write isStart [c] = startSpaces indent isStart ++ write c := by
  simp [indentLines, h, startSpaces]

/-- Where a line begins there is a space, and elsewhere the character itself. -/
theorem head_of_not_break (hindent : 0 < indent) (hwrite : ∀ c, ∃ more, write c = c :: more)
    {c : Char} (h : isBreak c = false) (isStart : Bool) :
    ∃ d more, startSpaces indent isStart ++ write c = d :: more ∧ isBreak d = false := by
  cases isStart with
  | true =>
      obtain ⟨n, rfl⟩ : ∃ n, indent = n + 1 := ⟨indent - 1, by omega⟩
      exact ⟨' ', _, rfl, by decide⟩
  | false =>
      obtain ⟨more, hmore⟩ := hwrite c
      exact ⟨c, more, hmore, h⟩

/-- One character can be told from another, whatever comes after them. -/
theorem indentLines_singleton_inj (hindent : 0 < indent)
    (hwrite : ∀ c, ∃ more, write c = c :: more) {isStart : Bool} {c d : Char} {x y : List Char}
    (h : indentLines indent write isStart [c] ++ x = indentLines indent write isStart [d] ++ y) :
    c = d ∧ x = y := by
  have hsame : c = d → c = d ∧ x = y := by
    rintro rfl
    exact ⟨rfl, List.append_cancel_left h⟩
  cases hc : isBreak c with
  | true =>
      rw [indentLines_of_break hc] at h
      cases hd : isBreak d with
      | true =>
          rw [indentLines_of_break hd] at h
          exact hsame (List.cons.inj h).1
      | false =>
          rw [indentLines_of_not_break hd] at h
          obtain ⟨e, more, hmore, he⟩ := head_of_not_break hindent hwrite hd isStart
          rw [hmore] at h
          rw [(List.cons.inj h).1, he] at hc
          exact absurd hc (by decide)
  | false =>
      rw [indentLines_of_not_break hc] at h
      cases hd : isBreak d with
      | true =>
          rw [indentLines_of_break hd] at h
          obtain ⟨e, more, hmore, he⟩ := head_of_not_break hindent hwrite hc isStart
          rw [hmore] at h
          rw [← (List.cons.inj h).1, he] at hd
          exact absurd hd (by decide)
      | false =>
          rw [indentLines_of_not_break hd, List.append_assoc, List.append_assoc] at h
          obtain ⟨more, hmore⟩ := hwrite c
          obtain ⟨more', hmore'⟩ := hwrite d
          have hcancel := List.append_cancel_left h
          rw [hmore, hmore'] at hcancel
          exact hsame (List.cons.inj hcancel).1

/-- What stands behind a text, where a line begins there or not, does not go on like the text. -/
def Stops (indent : Nat) (write : Char → List Char) (tail : Bool → List Char) : Prop :=
  ∀ isStart c x, tail isStart ≠ indentLines indent write isStart [c] ++ x

/-- **Indented lines end where what follows does not go on like them.** -/
theorem indentLines_append_inj (hindent : 0 < indent) (hwrite : ∀ c, ∃ more, write c = c :: more)
    {tail tail' : Bool → List Char} (htail : Stops indent write tail)
    (htail' : Stops indent write tail') {isStart : Bool} {cs ds : List Char}
    (h : indentLines indent write isStart cs ++ tail (atStart isStart cs) =
      indentLines indent write isStart ds ++ tail' (atStart isStart ds)) :
    cs = ds ∧ tail (atStart isStart cs) = tail' (atStart isStart ds) := by
  induction cs generalizing isStart ds with
  | nil =>
      cases ds with
      | nil => exact ⟨rfl, h⟩
      | cons d ds =>
          rw [indentLines_cons, List.append_assoc] at h
          exact absurd h (htail isStart d _)
  | cons c cs ih =>
      rw [indentLines_cons, List.append_assoc] at h
      cases ds with
      | nil => exact absurd h.symm (htail' isStart c _)
      | cons d ds =>
          rw [indentLines_cons isStart d, List.append_assoc, atStart_cons, atStart_cons] at h
          obtain ⟨rfl, hrest⟩ := indentLines_singleton_inj hindent hwrite h
          obtain ⟨rfl, htails⟩ := ih hrest
          rw [atStart_cons]
          exact ⟨rfl, htails⟩

end Lines

/-! ## Single quotes -/

theorem exists_singleChar_eq_cons (c : Char) : ∃ more, singleChar c = c :: more := by
  unfold singleChar
  split
  · rename_i h
    exact ⟨['\''], by rw [h]⟩
  · exact ⟨[], rfl⟩

/-- What stands behind a text in single quotes, in a line that ends with it. -/
def singleTail (indent : Nat) (r : List Char) (isStart : Bool) : List Char :=
  startSpaces indent isStart ++ '\'' :: '\n' :: r

theorem stops_singleTail (indent : Nat) (r : List Char) (hindent : 0 < indent) :
    Stops indent singleChar (singleTail indent r) := by
  intro isStart c x h
  cases hc : isBreak c with
  | true =>
      rw [indentLines_of_break hc, singleTail] at h
      cases isStart with
      | true =>
          obtain ⟨n, rfl⟩ : ∃ n, indent = n + 1 := ⟨indent - 1, by omega⟩
          rw [← (List.cons.inj h).1] at hc
          exact absurd hc (by decide)
      | false =>
          rw [← (List.cons.inj h).1] at hc
          exact absurd hc (by decide)
  | false =>
      rw [indentLines_of_not_break hc, singleTail, List.append_assoc] at h
      have hrest := List.append_cancel_left h
      unfold singleChar at hrest
      -- a quote that is doubled is not the last one, which a line feed follows
      split at hrest
      · exact absurd (List.cons.inj (List.cons.inj hrest).2).1 (by decide)
      · rename_i hne
        exact hne (List.cons.inj hrest).1.symm

theorem toList_single (indent : Nat) (s : String) (h : styleOf s = .single) (r : List Char) :
    (scalarLine indent s).toList ++ r =
      '\'' :: (indentLines indent singleChar false s.toList ++
        singleTail indent r (atStart false s.toList)) := by
  simp [scalarLine, scalar, h, singleText, singleTail, startSpaces, atStart_false]

/-! ## Blocks -/

/-- The text begins a line that is indented less, or it is at an end. -/
def EndsBlock (indent : Nat) (r : List Char) : Prop :=
  (∀ c, r.head? = some c → isBreak c = false) ∧ ¬ List.replicate indent ' ' <+: r

theorem stops_of_endsBlock {indent : Nat} {r : List Char} (h : EndsBlock indent r) :
    Stops indent (fun c => [c]) fun isStart => if isStart then r else [] := by
  intro isStart c x heq
  cases isStart with
  | false =>
      cases hc : isBreak c with
      | true =>
          rw [indentLines_of_break hc] at heq
          exact absurd heq (by simp)
      | false =>
          rw [indentLines_of_not_break hc] at heq
          exact absurd heq (by simp [startSpaces])
  | true =>
      simp only [if_true] at heq
      cases hc : isBreak c with
      | true =>
          rw [indentLines_of_break hc] at heq
          rw [h.1 c (by rw [heq]; rfl)] at hc
          exact absurd hc (by decide)
      | false =>
          rw [indentLines_of_not_break hc, startSpaces, if_pos rfl, List.append_assoc] at heq
          exact h.2 ⟨_, heq.symm⟩

/-- Texts that agree up to a line feed and behind it. -/
theorem newline_append_inj {cs ds r r' : List Char} (hcs : '\n' ∉ cs) (hds : '\n' ∉ ds)
    (h : cs ++ '\n' :: r = ds ++ '\n' :: r') : cs = ds ∧ r = r' := by
  have htake : ∀ {es x : List Char}, '\n' ∉ es →
      (es ++ '\n' :: x).takeWhile (· ≠ '\n') = es := by
    intro es x hes
    rw [List.takeWhile_append_of_pos]
    · simp
    · intro c hc
      exact decide_eq_true fun heq : c = '\n' => hes (heq ▸ hc)
  have hchars := congrArg (List.takeWhile (· ≠ '\n')) h
  rw [htake hcs, htake hds] at hchars
  rw [hchars] at h
  exact ⟨hchars, (List.cons.inj (List.append_cancel_left h)).2⟩

theorem newline_not_mem_blockHeader (cs : List Char) : '\n' ∉ blockHeader cs := by
  unfold blockHeader
  simp only [List.mem_cons, List.mem_append, Char.reduceEq, false_or, not_or]
  constructor <;> (repeat' split) <;> decide

/-- The sign in front of a block tells whether the text has a break at its end. -/
theorem minus_mem_blockHeader_iff (cs : List Char) :
    '-' ∈ blockHeader cs ↔ cs.getLast?.any isBreak = false := by
  unfold blockHeader
  simp only [List.mem_cons, List.mem_append, Char.reduceEq, false_or]
  cases cs.getLast?.any isBreak <;> (repeat' split) <;> simp_all

/-- The characters of a block, with a break at the end. -/
def blockChars (cs : List Char) : List Char :=
  if cs.getLast?.any isBreak then cs else cs ++ ['\n']

theorem atStart_blockChars (cs : List Char) : atStart true (blockChars cs) = true := by
  have hnewline : isBreak '\n' = true := by decide
  unfold blockChars
  cases hlast : cs.getLast? with
  | none => simp [atStart_concat, hnewline]
  | some c =>
      cases hc : isBreak c with
      | true => simp [atStart, hlast, hc]
      | false => simp [hc, atStart_concat, hnewline]

theorem toList_block (indent : Nat) (s : String) (h : styleOf s = .block) (r : List Char) :
    (scalarLine indent s).toList ++ r =
      blockHeader s.toList ++ '\n' ::
        (indentLines indent (fun c => [c]) true (blockChars s.toList) ++ r) := by
  have hbreak : ∀ isStart, indentLines indent (fun c => [c]) isStart ['\n'] = ['\n'] :=
    fun isStart => indentLines_of_break (by decide) isStart
  unfold blockChars
  cases hlast : s.toList.getLast?.any isBreak with
  | true => simp [scalarLine, scalar, h, blockText, hlast]
  | false => simp [scalarLine, scalar, h, blockText, hlast, indentLines_append, hbreak]

theorem block_append_inj {indent : Nat} (hindent : 0 < indent) {cs ds r r' : List Char}
    (hr : EndsBlock indent r) (hr' : EndsBlock indent r')
    (h : blockHeader cs ++ '\n' :: (indentLines indent (fun c => [c]) true (blockChars cs) ++ r) =
      blockHeader ds ++ '\n' :: (indentLines indent (fun c => [c]) true (blockChars ds) ++ r')) :
    cs = ds ∧ r = r' := by
  obtain ⟨hheader, hlines⟩ := newline_append_inj (newline_not_mem_blockHeader cs)
    (newline_not_mem_blockHeader ds) h
  have hlast : cs.getLast?.any isBreak = ds.getLast?.any isBreak := by
    rw [Bool.eq_iff_iff, ← not_iff_not, Bool.not_eq_true, Bool.not_eq_true,
      ← minus_mem_blockHeader_iff, ← minus_mem_blockHeader_iff, hheader]
  have htexts : indentLines indent (fun c => [c]) true (blockChars cs) ++
        (if atStart true (blockChars cs) then r else []) =
      indentLines indent (fun c => [c]) true (blockChars ds) ++
        (if atStart true (blockChars ds) then r' else []) := by
    rw [atStart_blockChars, atStart_blockChars]
    exact hlines
  obtain ⟨hchars, hrest⟩ := indentLines_append_inj hindent (fun _ => ⟨[], rfl⟩)
    (stops_of_endsBlock hr) (stops_of_endsBlock hr') htexts
  simp only [atStart_blockChars, if_true] at hrest
  refine ⟨?_, hrest⟩
  unfold blockChars at hchars
  rw [hlast] at hchars
  split at hchars
  · exact hchars
  · exact List.append_cancel_right hchars

/-! ## The styles together -/

/-- A plain text is one line, not empty, and its first character is no indicator. -/
theorem plain_text {s : String} (h : styleOf s = .plain) :
    '\n' ∉ s.toList ∧ ∃ c cs, s.toList = c :: cs ∧ isIndicator c = false := by
  simp only [styleOf] at h
  split_ifs at h with hnewline _ hdouble hsingle
  simp only [Bool.or_eq_true, not_or, Bool.not_eq_true] at hsingle
  refine ⟨by simpa using hnewline, ?_⟩
  cases hs : s.toList with
  | nil =>
      rw [String.toList_eq_nil_iff.1 hs] at hsingle
      exact absurd hsingle.1.1.1.1 (by decide)
  | cons c cs =>
      have hstructural := hsingle.1.1.1.2
      rw [hs, looksStructural] at hstructural
      simp only [Bool.or_eq_false_iff] at hstructural
      exact ⟨c, cs, rfl, hstructural.1.1.1.1⟩

/-- The style of the scalar that begins with a character. -/
def Style.ofFirst (c : Char) : Style :=
  if c = '"' then .double else if c = '\'' then .single else if c = '|' then .block else .plain

/-- **The first character of its scalar tells the style of a text.** -/
theorem head?_scalarLine (indent : Nat) (s : String) (r : List Char) :
    ((scalarLine indent s).toList ++ r).head?.map Style.ofFirst = some (styleOf s) := by
  cases h : styleOf s with
  | plain =>
      obtain ⟨_, c, cs, hcs, hindicator⟩ := plain_text h
      have hc : c ≠ '"' ∧ c ≠ '\'' ∧ c ≠ '|' := by
        refine ⟨?_, ?_, ?_⟩ <;> rintro rfl <;> exact absurd hindicator (by decide)
      simp [scalarLine, scalar, h, hcs, Style.ofFirst, hc]
  | single => simp [toList_single indent s h, Style.ofFirst]
  | double => simp [scalarLine, scalar, h, Style.ofFirst]
  | block => simp [toList_block indent s h, blockHeader, Style.ofFirst]

/-- **A text is known by its scalar**, whatever lines follow that are indented less. -/
theorem scalarLine_append_inj {indent : Nat} (hindent : 0 < indent) {s t : String}
    {r r' : List Char} (hr : EndsBlock indent r) (hr' : EndsBlock indent r')
    (h : (scalarLine indent s).toList ++ r = (scalarLine indent t).toList ++ r') :
    s = t ∧ r = r' := by
  have hstyle : styleOf t = styleOf s := by
    have hfirst := head?_scalarLine indent s r
    rw [h, head?_scalarLine] at hfirst
    exact Option.some.inj hfirst
  cases hs : styleOf s with
  | plain =>
      have hline : ∀ {u : String} {x : List Char}, styleOf u = .plain →
          (scalarLine indent u).toList ++ x = u.toList ++ '\n' :: x := by
        intro u x hu
        simp [scalarLine, scalar, hu]
      rw [hline hs, hline (hstyle.trans hs)] at h
      obtain ⟨hchars, hrest⟩ :=
        newline_append_inj (plain_text hs).1 (plain_text (hstyle.trans hs)).1 h
      exact ⟨String.toList_inj.1 hchars, hrest⟩
  | single =>
      rw [toList_single indent s hs, toList_single indent t (hstyle.trans hs)] at h
      obtain ⟨hchars, htails⟩ := indentLines_append_inj hindent exists_singleChar_eq_cons
        (stops_singleTail indent r hindent) (stops_singleTail indent r' hindent) (List.cons.inj h).2
      rw [hchars] at htails
      have hrest := List.append_cancel_left htails
      exact ⟨String.toList_inj.1 hchars, (List.cons.inj (List.cons.inj hrest).2).2⟩
  | double =>
      have hline : ∀ {u : String} {x : List Char}, styleOf u = .double →
          (scalarLine indent u).toList ++ x =
            '"' :: (u.toList.flatMap doubleChar ++ '"' :: '\n' :: x) := by
        intro u x hu
        simp [scalarLine, scalar, hu]
      rw [hline hs, hline (hstyle.trans hs)] at h
      obtain ⟨hchars, hrest⟩ :=
        quoted_append_inj firstChar?_doubleChar head?_doubleChar_ne (List.cons.inj h).2
      exact ⟨String.toList_inj.1 hchars, (List.cons.inj hrest).2⟩
  | block =>
      rw [toList_block indent s hs, toList_block indent t (hstyle.trans hs)] at h
      obtain ⟨hchars, hrest⟩ := block_append_inj hindent hr hr' h
      exact ⟨String.toList_inj.1 hchars, hrest⟩

end BrowserScript.Value.Yaml
