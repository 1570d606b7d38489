/-
# BrowserScript.Proofs.Script.Composition -- scripts one after the other

Two scripts are put together as texts, the second **moved down** by the lines of the
first: its steps and its errors stay in their order, and every number in them grows by
the same amount. The reading takes this to outcomes under either policy, where an error
of the first text hides what the second would yield, and formatting takes it to texts.

A line can be rewritten, therefore, without a change in what any other line yields: the
lines before it and those after it make up texts of their own.
-/
import BrowserScript.Proofs.Script.Policies
import BrowserScript.Proofs.Text.Lines
import BrowserScript.Script.Format

namespace BrowserScript

open Text (Line)
open Text.Line (IsWhole)

/-! ## Moving down -/

/-- The same fault, some lines further down. -/
def LineError.moveDown (k : Nat) (e : LineError) : LineError :=
  { e with line := e.line + k }

/-- The same command, some lines further down. -/
def Step.moveDown (k : Nat) (step : Step) : Step :=
  { step with line := step.line + k }

/-- A line that stands further down has the same fault there. -/
theorem Command.ofLine_add (text : String) (line k : Nat) :
    ofLine text (line + k) = (ofLine text line).mapError (·.moveDown k) := by
  unfold ofLine onLine
  cases ofText text <;> rfl

namespace Script

/-- The same script, some lines further down. -/
def moveDown (k : Nat) (s : Script) : Script :=
  ⟨s.steps.map (·.moveDown k), s.errors.map (·.moveDown k)⟩

/-- What two scripts yield, the first and then the second. -/
def followedBy (s t : Script) : Script :=
  ⟨s.steps ++ t.steps, s.errors ++ t.errors⟩

@[simp] theorem empty_followedBy (s : Script) : empty.followedBy s = s := rfl

theorem moveDown_followedBy (k : Nat) (s t : Script) :
    (s.followedBy t).moveDown k = (s.moveDown k).followedBy (t.moveDown k) := by
  simp [followedBy, moveDown]

theorem moveDown_moveDown (j k : Nat) (s : Script) :
    (s.moveDown j).moveDown k = s.moveDown (j + k) := by
  simp [moveDown, Step.moveDown, LineError.moveDown, Nat.add_assoc]

/-! ## Outcomes -/

/-- The outcome of the same lines when they stand further down. -/
def outcomeDown (k : Nat) : Except LineError Script → Except LineError Script
  | .ok s => .ok (s.moveDown k)
  | .error e => .error (e.moveDown k)

/-- The outcome of some lines and then of others, which is reached only if the first ones
have one. -/
def outcomeThen (first second : Except LineError Script) : Except LineError Script :=
  first.bind fun s => second.map s.followedBy

/-- What a line adds to the outcome of the lines below it goes down with them. -/
theorem outcomeDown_map {k : Nat} (add addBelow : Script → Script)
    (h : ∀ s, (add s).moveDown k = addBelow (s.moveDown k)) (outcome : Except LineError Script) :
    outcomeDown k (outcome.map add) = (outcomeDown k outcome).map addBelow := by
  cases outcome with
  | error e => rfl
  | ok s => exact congrArg Except.ok (h s)

/-- What a line adds to the outcome of the lines below it comes before all of them. -/
theorem outcomeThen_map (add : Script → Script)
    (h : ∀ s t, (add s).followedBy t = add (s.followedBy t))
    (first second : Except LineError Script) :
    outcomeThen (first.map add) second = (outcomeThen first second).map add := by
  cases first with
  | error e => rfl
  | ok s =>
      cases second with
      | error e => rfl
      | ok t => exact congrArg Except.ok (h s t)

/-- **Lines that stand further down are read alike**, with other numbers. -/
theorem ofLines_add (policy : ErrorPolicy) (line k : Nat) (texts : List String) :
    ofLines policy (line + k) texts = outcomeDown k (ofLines policy line texts) := by
  induction texts generalizing line with
  | nil => rfl
  | cons text texts ih =>
      have hrest : ofLines policy (line + k + 1) texts =
          outcomeDown k (ofLines policy (line + 1) texts) := by
        rw [← ih, Nat.add_right_comm]
      simp only [ofLines, Command.ofLine_add, hrest]
      cases Command.ofLine text line with
      | error e =>
          cases policy with
          | abort => rfl
          | skip =>
              exact (outcomeDown_map (consError e) (consError (e.moveDown k)) (fun _ => rfl) _).symm
      | ok command =>
          cases command with
          | none => rfl
          | some c =>
              exact (outcomeDown_map (consStep ⟨line, c⟩) (consStep ⟨line + k, c⟩)
                (fun _ => rfl) _).symm

/-- **Lines are read after other lines** as they are read by themselves from there on. -/
theorem ofLines_append (policy : ErrorPolicy) (line : Nat) (texts texts' : List String) :
    ofLines policy line (texts ++ texts') =
      outcomeThen (ofLines policy line texts) (ofLines policy (line + texts.length) texts') := by
  induction texts generalizing line with
  | nil =>
      rw [List.nil_append, List.length_nil, Nat.add_zero]
      cases h : ofLines policy line texts' with
      | error e => rfl
      | ok s => rfl
  | cons text texts ih =>
      have hlength : line + (text :: texts).length = line + 1 + texts.length := by
        rw [List.length_cons]
        omega
      rw [List.cons_append, ofLines, ofLines, ih, hlength]
      cases Command.ofLine text line with
      | error e =>
          cases policy with
          | abort => rfl
          | skip => exact (outcomeThen_map (consError e) (fun _ _ => rfl) _ _).symm
      | ok command =>
          cases command with
          | none => rfl
          | some c => exact (outcomeThen_map (consStep ⟨line, c⟩) (fun _ _ => rfl) _ _).symm

/-! ## Texts -/

theorem lines_append {a b : String} (h : IsWhole a ∨ b = "") :
    lines (a ++ b) = lines a ++ lines b := by
  rw [lines, Line.cut_append h, List.map_append]
  rfl

/-- **A text is formatted in parts.** -/
theorem format_append {a b : String} (h : IsWhole a ∨ b = "") :
    format (a ++ b) = format a ++ format b := by
  rw [format, Line.cut_append h, List.map_append, String.join_append]
  rfl

/-- **A text is read in parts**, the second of which stands below the lines of the first. -/
theorem parse_append {a b : String} (h : IsWhole a ∨ b = "") (policy : ErrorPolicy) :
    parse (a ++ b) policy =
      outcomeThen (parse a policy) (outcomeDown (lines a).length (parse b policy)) := by
  rw [parse, lines_append h, ofLines_append, ofLines_add]
  rfl

/-! ## All lines but one -/

/-- What is yielded by the lines other than this one. -/
def offLine (line : Nat) (s : Script) : Script :=
  ⟨s.steps.filter (·.line ≠ line), s.errors.filter (·.line ≠ line)⟩

theorem offLine_followedBy (line : Nat) (s t : Script) :
    (s.followedBy t).offLine line = (s.offLine line).followedBy (t.offLine line) := by
  simp [followedBy, offLine]

/-- Every number in a script is in this range, the upper bound excluded. -/
def Within (low high : Nat) (s : Script) : Prop :=
  (∀ step ∈ s.steps, low ≤ step.line ∧ step.line < high) ∧
    ∀ e ∈ s.errors, low ≤ e.line ∧ e.line < high

theorem parse_skip_of_ok {source : String} {policy : ErrorPolicy} {s : Script}
    (h : parse source policy = .ok s) : parse source .skip = .ok s := by
  cases policy with
  | skip => exact h
  | abort =>
      rw [parse, ofLines_abort, ofLines_skip] at h
      obtain ⟨_, rfl⟩ := strict_eq_ok_iff.1 h
      rw [parse, ofLines_skip]

/-- The numbers in the outcome of a text are those of its lines. -/
theorem within_of_parse {source : String} {policy : ErrorPolicy} {s : Script}
    (h : parse source policy = .ok s) : Within 1 (1 + (lines source).length) s := by
  have hskip := parse_skip_of_ok h
  rw [parse, ofLines_skip] at hskip
  obtain rfl := Except.ok.inj hskip
  refine ⟨fun step hstep => ?_, fun e he => ?_⟩
  · obtain ⟨p, hp, hstep⟩ := List.mem_filterMap.1 hstep
    rw [(stepAt_eq_some_iff.1 hstep).1]
    have hnumber := List.mem_zipIdx hp
    exact ⟨hnumber.1, hnumber.2.1⟩
  · obtain ⟨p, hp, he⟩ := List.mem_filterMap.1 he
    rw [(Command.ofLine_eq_error_iff.1 (errorAt_eq_some_iff.1 he)).1]
    have hnumber := List.mem_zipIdx hp
    exact ⟨hnumber.1, hnumber.2.1⟩

theorem Within.moveDown {low high : Nat} {s : Script} (h : Within low high s) (k : Nat) :
    Within (low + k) (high + k) (s.moveDown k) := by
  refine ⟨fun step hstep => ?_, fun e he => ?_⟩
  · obtain ⟨step, hmem, rfl⟩ := List.mem_map.1 hstep
    have hline := h.1 step hmem
    simp only [Step.moveDown]
    omega
  · obtain ⟨e, hmem, rfl⟩ := List.mem_map.1 he
    have hline := h.2 e hmem
    simp only [LineError.moveDown]
    omega

/-- A script that has nothing on a line does not need it. -/
theorem Within.offLine_eq {low high line : Nat} {s : Script} (h : Within low high s)
    (hline : line < low ∨ high ≤ line) : s.offLine line = s := by
  obtain ⟨steps, errors⟩ := s
  have hsteps : ∀ step ∈ steps, step.line ≠ line := fun step hstep => by
    have := h.1 step hstep
    omega
  have herrors : ∀ e ∈ errors, e.line ≠ line := fun e he => by
    have := h.2 e he
    omega
  simpa [offLine] using And.intro hsteps herrors

/-- A script that has something on one line only has nothing off it. -/
theorem Within.offLine_eq_empty {low high line : Nat} {s : Script} (h : Within low high s)
    (hlow : line ≤ low) (hhigh : high ≤ line + 1) : s.offLine line = empty := by
  obtain ⟨steps, errors⟩ := s
  have hsteps : ∀ step ∈ steps, step.line = line := fun step hstep => by
    have := h.1 step hstep
    omega
  have herrors : ∀ e ∈ errors, e.line = line := fun e he => by
    have := h.2 e he
    omega
  simpa [offLine, empty] using And.intro hsteps herrors

/-- **The lines around a line yield what they yield by themselves**, as two texts that follow
one another. -/
theorem offLine_of_parse {a x b : String} (ha : IsWhole a) (hline : (lines x).length = 1)
    (hx : IsWhole x ∨ b = "") {sa sb : Script} (hsa : parse a .skip = .ok sa)
    (hsb : parse b .skip = .ok sb) {policy : ErrorPolicy} {s : Script}
    (h : parse (a ++ x ++ b) policy = .ok s) :
    s.offLine ((lines a).length + 1) = sa.followedBy (sb.moveDown ((lines a).length + 1)) := by
  obtain ⟨sx, hsx⟩ := exists_parse_skip x
  have hparts := parse_skip_of_ok h
  rw [String.append_assoc, parse_append (Or.inl ha), parse_append hx, hsa, hsb, hsx, hline]
    at hparts
  obtain rfl := Except.ok.inj hparts
  have hbefore := within_of_parse hsa
  have hon := (within_of_parse hsx).moveDown (lines a).length
  have hafter := ((within_of_parse hsb).moveDown 1).moveDown (lines a).length
  rw [hline] at hon
  -- the line has the number after those of `a`, and the numbers of `b` begin after it
  rw [offLine_followedBy, moveDown_followedBy, offLine_followedBy,
    hbefore.offLine_eq (Or.inr (by omega)), hon.offLine_eq_empty (by omega) (by omega),
    hafter.offLine_eq (Or.inl (by omega)), empty_followedBy, moveDown_moveDown, Nat.add_comm]

/-! ## Both together -/

/-- **Scripts compose line by line.** A text after whole lines is formatted and read as it is
by itself, with the numbers of its lines moved down, and under `abort` it is read only if the
lines before it have no fault. A line between two texts can be replaced by another line
without a change in what the other lines yield. -/
theorem script_of_two_texts (a b : String) (ha : IsWhole a) :
    format (a ++ b) = format a ++ format b ∧
    (∃ s t, parse a .skip = .ok s ∧ parse b .skip = .ok t ∧
      parse (a ++ b) .skip = .ok (s.followedBy (t.moveDown (lines a).length))) ∧
    (∀ e, parse a .abort = .error e → parse (a ++ b) .abort = .error e) ∧
    (∀ s e, parse a .abort = .ok s → parse b .abort = .error e →
      parse (a ++ b) .abort = .error (e.moveDown (lines a).length)) ∧
    (∀ s t, parse a .abort = .ok s → parse b .abort = .ok t →
      parse (a ++ b) .abort = .ok (s.followedBy (t.moveDown (lines a).length))) ∧
    ∀ x, (lines x).length = 1 → (IsWhole x ∨ b = "") →
      format (a ++ x ++ b) = format a ++ format x ++ format b ∧
      ∀ x', (lines x').length = 1 → (IsWhole x' ∨ b = "") →
        ∀ policy policy' s s', parse (a ++ x ++ b) policy = .ok s →
          parse (a ++ x' ++ b) policy' = .ok s' →
            s.offLine ((lines a).length + 1) = s'.offLine ((lines a).length + 1) := by
  have hparse := parse_append (a := a) (b := b) (Or.inl ha)
  obtain ⟨sa, hsa⟩ := exists_parse_skip a
  obtain ⟨sb, hsb⟩ := exists_parse_skip b
  refine ⟨format_append (Or.inl ha), ⟨sa, sb, hsa, hsb, ?_⟩, ?_, ?_, ?_, ?_⟩
  · rw [hparse, hsa, hsb]
    rfl
  · intro e he
    rw [hparse, he]
    rfl
  · intro s e hs he
    rw [hparse, hs, he]
    rfl
  · intro s t hs ht
    rw [hparse, hs, ht]
    rfl
  · intro x hline hx
    refine ⟨?_, fun x' hline' hx' policy policy' s s' hs hs' => ?_⟩
    · rw [String.append_assoc, format_append (Or.inl ha), format_append hx, String.append_assoc]
    · rw [offLine_of_parse ha hline hx hsa hsb hs, offLine_of_parse ha hline' hx' hsa hsb hs']

/-- A script whose second line has a fault, and the same script without it; and a script that
stops at its first line. -/
theorem script_of_two_texts_click :
    IsWhole "go_back\n" ∧
      parse ("go_back\n" ++ "reload") .abort =
        .ok ⟨[⟨1, ⟨.goBack, .ofList [], none⟩⟩, ⟨2, ⟨.reload, .ofList [], none⟩⟩], []⟩ ∧
      (∃ s s', parse ("go_back\n" ++ "click\n" ++ "reload") .skip = .ok s ∧
        parse ("go_back\n" ++ "\n" ++ "reload") .abort = .ok s' ∧
        s.errors = [⟨2, .missingSelector .click⟩] ∧ s.offLine 2 = s'.offLine 2) ∧
      IsWhole "click\n" ∧
      parse ("click\n" ++ "reload") .abort = .error ⟨1, .missingSelector .click⟩ := by
  have hback : parse "go_back\n" .abort = .ok ⟨[⟨1, ⟨.goBack, .ofList [], none⟩⟩], []⟩ := by cbv
  have hreload : parse "reload" .abort = .ok ⟨[⟨1, ⟨.reload, .ofList [], none⟩⟩], []⟩ := by cbv
  have hclick : parse "click\n" .abort = .error ⟨1, .missingSelector .click⟩ := by cbv
  have hwhole : IsWhole "go_back\n" := by decide
  obtain ⟨_, _, _, _, hboth, hedit⟩ := script_of_two_texts "go_back\n" "reload" hwhole
  obtain ⟨_, hother⟩ := hedit "click\n" (by decide) (Or.inl (by decide))
  have hfault : parse ("go_back\n" ++ "click\n" ++ "reload") .skip =
      .ok ⟨[⟨1, ⟨.goBack, .ofList [], none⟩⟩, ⟨3, ⟨.reload, .ofList [], none⟩⟩],
        [⟨2, .missingSelector .click⟩]⟩ := by cbv
  have hblank : parse ("go_back\n" ++ "\n" ++ "reload") .abort =
      .ok ⟨[⟨1, ⟨.goBack, .ofList [], none⟩⟩, ⟨3, ⟨.reload, .ofList [], none⟩⟩], []⟩ := by cbv
  refine ⟨hwhole, hboth _ _ hback hreload, ⟨_, _, hfault, hblank, rfl, ?_⟩, by decide, ?_⟩
  · exact hother "\n" (by decide) (Or.inl (by decide)) _ _ _ _ hfault hblank
  · exact (script_of_two_texts "click\n" "reload" (by decide)).2.2.1 _ hclick

end Script

end BrowserScript
