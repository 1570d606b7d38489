/-
# BrowserScript.Proofs.Script.Reading -- the outcome of a script, line by line

The reading of a script goes through its lines with a number that counts them. Under
`skip` it cannot fail, and its outcome is a plain list: **a line is a step, an error or
nothing, by its text alone**, and its number says where it stands. The outcome under
either policy depends on the texts only through what each of them is read as, so lines
may be replaced by others that are read alike.
-/
import BrowserScript.Script
import BrowserScript.Proofs.Command.Building

namespace BrowserScript.Script

/-- The step of a line with a number. -/
def stepAt (p : String × Nat) : Option Step :=
  match Command.ofText p.1 with
  | .ok (some command) => some ⟨p.2, command⟩
  | _ => none

/-- The error of a line with a number. -/
def errorAt (p : String × Nat) : Option LineError :=
  match Command.ofText p.1 with
  | .error fault => some ⟨p.2, fault⟩
  | .ok _ => none

theorem stepAt_eq_some_iff {p : String × Nat} {step : Step} :
    stepAt p = some step ↔ step.line = p.2 ∧ Command.ofText p.1 = .ok (some step.command) := by
  unfold stepAt
  split
  · rename_i c hc
    constructor
    · intro h
      obtain rfl := Option.some.inj h
      exact ⟨rfl, hc⟩
    · rintro ⟨hline, hcommand⟩
      rw [hc] at hcommand
      obtain rfl := Option.some.inj (Except.ok.inj hcommand)
      rw [← hline]
  · rename_i hno
    constructor
    · intro h
      exact absurd h (Option.some_ne_none step).symm
    · rintro ⟨_, hcommand⟩
      exact absurd hcommand (hno _)

theorem errorAt_eq_some_iff {p : String × Nat} {e : LineError} :
    errorAt p = some e ↔ Command.ofLine p.1 p.2 = .error e := by
  rw [Command.ofLine_eq_error_iff]
  obtain ⟨line, fault⟩ := e
  unfold errorAt
  split
  · rename_i f hf
    simp [hf, eq_comm]
  · rename_i c hc
    simp [hc]

/-- **Under `skip` a script has an outcome**, whose steps and errors are those of its lines,
each in order. -/
theorem ofLines_skip (line : Nat) (texts : List String) :
    ofLines .skip line texts =
      .ok ⟨(texts.zipIdx line).filterMap stepAt, (texts.zipIdx line).filterMap errorAt⟩ := by
  induction texts generalizing line with
  | nil => rfl
  | cons text texts ih =>
      -- what the line is read as decides which list gets an entry
      cases h : Command.ofText text with
      | error fault =>
          have hstep : stepAt (text, line) = none := by simp only [stepAt, h]
          have herror : errorAt (text, line) = some ⟨line, fault⟩ := by simp only [errorAt, h]
          simp only [ofLines, Command.ofLine, Command.onLine, h, Except.mapError, ih, Except.map,
            consError, List.zipIdx_cons, List.filterMap_cons, hstep, herror]
      | ok command =>
          have herror : errorAt (text, line) = none := by simp only [errorAt, h]
          cases command with
          | none =>
              have hstep : stepAt (text, line) = none := by simp only [stepAt, h]
              simp only [ofLines, Command.ofLine, Command.onLine, h, Except.mapError, ih,
                List.zipIdx_cons, List.filterMap_cons, hstep, herror]
          | some c =>
              have hstep : stepAt (text, line) = some ⟨line, c⟩ := by simp only [stepAt, h]
              simp only [ofLines, Command.ofLine, Command.onLine, h, Except.mapError, ih,
                Except.map, consStep, List.zipIdx_cons, List.filterMap_cons, hstep, herror]

theorem exists_parse_skip (source : String) : ∃ s, parse source .skip = .ok s := by
  rw [parse, ofLines_skip]
  exact ⟨_, rfl⟩

/-- The lines of a script are numbered from 1 on. -/
theorem mem_zipIdx_one_iff {texts : List String} {p : String × Nat} :
    p ∈ texts.zipIdx 1 ↔ ∃ k, texts[k]? = some p.1 ∧ p.2 = k + 1 := by
  rw [List.mk_mem_zipIdx_iff_le_and_getElem?_sub]
  constructor
  · rintro ⟨hle, htext⟩
    exact ⟨p.2 - 1, htext, by omega⟩
  · rintro ⟨k, htext, hline⟩
    refine ⟨by omega, ?_⟩
    rwa [hline, Nat.add_sub_cancel]

/-- The steps of the lines of a script, the first of which is line 1. -/
theorem mem_steps_iff {texts : List String} {step : Step} :
    step ∈ (texts.zipIdx 1).filterMap stepAt ↔
      ∃ k text, texts[k]? = some text ∧ step.line = k + 1 ∧
        Command.ofText text = .ok (some step.command) := by
  simp only [List.mem_filterMap, stepAt_eq_some_iff, mem_zipIdx_one_iff]
  constructor
  · rintro ⟨⟨text, line⟩, ⟨k, htext, hnumber⟩, hline, hcommand⟩
    exact ⟨k, text, htext, hline.trans hnumber, hcommand⟩
  · rintro ⟨k, text, htext, hline, hcommand⟩
    exact ⟨(text, k + 1), ⟨k, htext, rfl⟩, hline, hcommand⟩

/-- On a line with a given text there is the step that is read there, and no other. -/
theorem mem_steps_at_iff {texts : List String} {k : Nat} {text : String}
    (h : texts[k]? = some text) (c : Command) :
    ⟨k + 1, c⟩ ∈ (texts.zipIdx 1).filterMap stepAt ↔ Command.ofText text = .ok (some c) := by
  rw [mem_steps_iff]
  constructor
  · rintro ⟨j, text', hj, hline, hcommand⟩
    obtain rfl : k = j := Nat.succ.inj hline
    obtain rfl := Option.some.inj (h.symm.trans hj)
    exact hcommand
  · intro hcommand
    exact ⟨k, text, h, rfl, hcommand⟩

/-- **Lines that are read alike make the same outcome**, under either policy. -/
theorem ofLines_congr (policy : ErrorPolicy) {texts texts' : List String}
    (h : texts.map Command.ofText = texts'.map Command.ofText) (line : Nat) :
    ofLines policy line texts = ofLines policy line texts' := by
  induction texts generalizing texts' line with
  | nil =>
      rw [List.map_nil] at h
      rw [List.map_eq_nil_iff.1 h.symm]
  | cons text texts ih =>
      cases texts' with
      | nil => exact absurd h (by simp)
      | cons text' texts' =>
          rw [List.map_cons, List.map_cons] at h
          obtain ⟨htext, htexts⟩ := List.cons.inj h
          have hline : Command.ofLine text line = Command.ofLine text' line := by
            rw [Command.ofLine, htext, ← Command.ofLine]
          rw [ofLines, ofLines, hline]
          simp only [ih htexts]

end BrowserScript.Script
