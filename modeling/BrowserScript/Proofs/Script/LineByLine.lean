/-
# BrowserScript.Proofs.Script.LineByLine -- what is written for the steps of a script

The reading of a script and its formatting go through the same lines. For every line
with a step the canonical line of its command ought to be written, and every other line
ought to be copied. **There is one exception**, and it is stated here exactly: a last
line that ends in an escaped carriage return, with a last field that its command
depends on. The formatting takes the return for a part of the ending, so that the field
ends in the backslash instead.
-/
import Mathlib
import BrowserScript.Proofs.Command.LastField
import BrowserScript.Proofs.Script.FinalReturn

namespace BrowserScript.Script

open Text (Line)

/-! ## Steps by line -/

/-- The step of a line is what is read on it. -/
theorem mk_mem_steps_iff {source : String} {s : Script} (h : parse source .skip = .ok s)
    {k : Nat} {l : Line} (hl : (Line.cut source)[k]? = some l) (c : Command) :
    ⟨k + 1, c⟩ ∈ s.steps ↔ Command.ofText l.content = .ok (some c) := by
  have htext : (lines source)[k]? = some l.content := by
    rw [lines, List.getElem?_map, hl]
    rfl
  rw [parse, ofLines_skip] at h
  obtain rfl := Except.ok.inj h
  exact mem_steps_at_iff htext c

/-! ## One line -/

/-- Commands that are read from texts and written alike are the same. -/
theorem eq_of_render_eq {text text' : String} {c c' : Command}
    (h : Command.ofText text = .ok (some c)) (h' : Command.ofText text' = .ok (some c'))
    (heq : c'.render = c.render) : c' = c := by
  have hread := Command.ofText_render_of_ofText h
  rw [← heq, Command.ofText_render_of_ofText h'] at hread
  exact Option.some.inj (Except.ok.inj hread)

/-- What ought to be written in place of a line: the canonical line of the command that it
has, with the ending of the line, or the line itself if it has none. -/
def WrittenFor (l : Line) (has : Command → Prop) (l' : Line) : Prop :=
  (∀ c, has c → String.ofList l'.full = c.render ++ l.ending) ∧
    ((∀ c, ¬ has c) → l'.full = l.full)

/-- What is read on a line. -/
def ReadOn (l : Line) (c : Command) : Prop :=
  Command.ofText l.content = .ok (some c)

theorem writtenFor_of_eq {l : Line} (h : Command.ofText l.content = Command.ofText l.body) :
    WrittenFor l (ReadOn l) (formatted l) := by
  constructor
  · intro c hc
    rw [ReadOn, h] at hc
    rw [formatted_of_command hc, Line.full_withBody]
  · intro hno
    have hbody : ∀ c, Command.ofText l.body ≠ .ok (some c) := by
      intro c hc
      rw [← h] at hc
      exact hno c hc
    rw [formatted_of_no_command hbody]

/-- When two commands are seen on a line, that of the formatting is written. -/
theorem writtenFor_iff_of_ofText {l : Line} {c c' : Command}
    (h : Command.ofText l.content = .ok (some c)) (h' : Command.ofText l.body = .ok (some c')) :
    WrittenFor l (ReadOn l) (formatted l) ↔ c' = c := by
  constructor
  · rintro ⟨hwritten, _⟩
    have hline := hwritten c h
    rw [formatted_of_command h', Line.full_withBody, ← String.toList_inj, String.toList_append,
      String.toList_append] at hline
    have hrender := List.append_cancel_right hline
    exact eq_of_render_eq h h' (String.toList_inj.1 hrender)
  · intro hsame
    apply writtenFor_of_eq
    rw [h, h', hsame]

/-- The return at the end of a line is lost: it is escaped, and the command of the line
depends on it. -/
def LosesReturn (l : Line) : Prop :=
  EscapesReturn l ∧ (∃ c, ReadOn l c) ∧ Command.LastFieldCounts l.content

/-- **A line is written as it is read unless it loses a return.** -/
theorem writtenFor_formatted_iff (l : Line) :
    WrittenFor l (ReadOn l) (formatted l) ↔ ¬ LosesReturn l := by
  by_cases hescapes : EscapesReturn l
  · obtain ⟨cs, hcontent, hbody, heven⟩ := hescapes.exists_eq
    obtain ⟨hcommand, hback⟩ := Command.ofText_escaped_return heven
    rw [← hcontent, ← hbody] at hcommand hback
    by_cases hread : ∃ c, ReadOn l c
    · -- both see a command, and it is the same one unless the last field counts
      obtain ⟨c, hc⟩ := hread
      obtain ⟨c', hc', hsame⟩ := hcommand c hc
      rw [writtenFor_iff_of_ofText hc hc', hsame]
      constructor
      · rintro hfree ⟨_, _, hcounts⟩
        exact hfree hcounts
      · intro hkeeps hcounts
        exact hkeeps ⟨hescapes, ⟨c, hc⟩, hcounts⟩
    · -- neither sees one, and the line is copied
      have hbodyNo : ∀ c', Command.ofText l.body ≠ .ok (some c') := by
        intro c' hc'
        exact hread (hback c' hc')
      have hwritten : WrittenFor l (ReadOn l) (formatted l) := by
        refine ⟨fun c hc => absurd ⟨c, hc⟩ hread, fun _ => ?_⟩
        rw [formatted_of_no_command hbodyNo]
      exact iff_of_true hwritten fun hloses => hread hloses.2.1
  · have heq := ofText_content hescapes
    exact iff_of_true (writtenFor_of_eq heq) fun hloses => hescapes hloses.1

/-! ## All lines -/

/-- **Every line of a formatted script is what was read on the line**, the canonical line of
its step or else the line itself, **unless the line loses a return**, and then it is not. -/
theorem lines_written_as_read (source : String) :
    ∃ s, parse source .skip = .ok s ∧
      (Line.cut (format source)).length = (Line.cut source).length ∧
      ∀ k l, (Line.cut source)[k]? = some l →
        ∃ l', (Line.cut (format source))[k]? = some l' ∧
          (WrittenFor l (fun c => ⟨k + 1, c⟩ ∈ s.steps) l' ↔ ¬ LosesReturn l) := by
  obtain ⟨s, hs⟩ := exists_parse_skip source
  refine ⟨s, hs, ?_, fun k l hl => ⟨formatted l, ?_, ?_⟩⟩
  · rw [cut_format, List.length_map]
  · rw [cut_format, List.getElem?_map, hl]
    rfl
  · have hsteps : (fun c => ⟨k + 1, c⟩ ∈ s.steps) = ReadOn l := by
      funext c
      exact propext (mk_mem_steps_iff hs hl c)
    rw [hsteps]
    exact writtenFor_formatted_iff l

/-- The second line of this script loses its return. -/
theorem lines_written_as_read_log :
    ∃ s, parse "go_back\nlog msg=a\\\r" .skip = .ok s ∧
      ∃ l', (Line.cut (format "go_back\nlog msg=a\\\r"))[1]? = some l' ∧
        ¬ WrittenFor ⟨"log msg=a\\\r".toList, false⟩ (fun c => ⟨2, c⟩ ∈ s.steps) l' := by
  obtain ⟨s, hs, _, hlines⟩ := lines_written_as_read "go_back\nlog msg=a\\\r"
  have hread : ReadOn ⟨"log msg=a\\\r".toList, false⟩ ⟨.log, .ofList [("msg", "a\r")], none⟩ := by
    cbv
  have hpieces : Piece.ofLine (Line.content ⟨"log msg=a\\\r".toList, false⟩) =
      [.token (.command "log")] ++ [.token (.param "msg" "a\r")] := by cbv
  have hloses : LosesReturn ⟨"log msg=a\\\r".toList, false⟩ :=
    ⟨⟨rfl, by decide⟩, ⟨_, hread⟩, ⟨_, _, hpieces, trivial⟩⟩
  obtain ⟨l', hl', hiff⟩ := hlines 1 ⟨"log msg=a\\\r".toList, false⟩ (by decide)
  exact ⟨s, hs, l', hl', fun hwritten => hiff.1 hwritten hloses⟩

/-- A message that ends in an escaped return is read with the return, and written with a
backslash in its place. -/
theorem not_forall_written_as_read :
    ¬ ∀ source s k l l', parse source .skip = .ok s → (Line.cut source)[k]? = some l →
      (Line.cut (format source))[k]? = some l' →
        WrittenFor l (fun c => ⟨k + 1, c⟩ ∈ s.steps) l' := by
  intro h
  have hparse : parse "log msg=a\\\r" .skip =
      .ok ⟨[⟨1, ⟨.log, .ofList [("msg", "a\r")], none⟩⟩], []⟩ := by cbv
  have hcut : Line.cut "log msg=a\\\r" = [⟨"log msg=a\\\r".toList, false⟩] := by cbv
  have hformat : Line.cut (format "log msg=a\\\r") = [⟨"log msg=\"a\\\\\"\r".toList, false⟩] := by
    cbv
  have hline := h _ _ 0 _ _ hparse (by rw [hcut]; rfl) (by rw [hformat]; rfl)
  have hwritten := hline.1 _ List.mem_cons_self
  have hrender : (Command.render ⟨.log, .ofList [("msg", "a\r")], none⟩) = "log msg=\"a\r\"" := by
    cbv
  rw [hrender] at hwritten
  exact absurd hwritten (by decide)

end BrowserScript.Script
