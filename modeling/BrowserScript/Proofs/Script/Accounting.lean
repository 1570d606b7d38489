/-
# BrowserScript.Proofs.Script.Accounting -- every line has its place in the outcome

Under `skip` no line is lost, and none is recorded twice. **The numbers of the steps and
those of the errors are two ascending rows without a common number**, which together are the
numbers of the lines that say something: a line that is blank or a comment has no entry, but
it is counted. What stands in the entry of a line is what the line is read as by itself,
with its number, and a command that stands there has all that its kind requires.
-/
import BrowserScript.Proofs.Command.Grammar
import BrowserScript.Proofs.Command.RoundTrip
import BrowserScript.Proofs.Script.Policies

namespace BrowserScript.Script

open Fields (IsSilent)

/-- The script accounts for the lines, the first of which is line 1. -/
structure AccountsFor (s : Script) (texts : List String) : Prop where
  steps_ascend : s.steps.Pairwise fun a b => a.line < b.line
  errors_ascend : s.errors.Pairwise fun a b => a.line < b.line
  apart : ∀ step ∈ s.steps, ∀ e ∈ s.errors, step.line ≠ e.line
  /-- The numbers that occur are those of the lines that say something. -/
  numbers : ∀ n, (n ∈ s.steps.map (·.line) ∨ n ∈ s.errors.map (·.line)) ↔
    ∃ k text, texts[k]? = some text ∧ n = k + 1 ∧ ¬ IsSilent text
  step_iff : ∀ k text c, texts[k]? = some text →
    (⟨k + 1, c⟩ ∈ s.steps ↔ Command.ofLine text (k + 1) = .ok (some c))
  error_iff : ∀ k text e, texts[k]? = some text →
    (e ∈ s.errors ∧ e.line = k + 1 ↔ Command.ofLine text (k + 1) = .error e)
  complete : ∀ step ∈ s.steps, step.command.Complete

/-! ## Numbers -/

/-- Steps are in the order of their lines, and no line has two. -/
theorem pairwise_steps (line : Nat) (texts : List String) :
    ((texts.zipIdx line).filterMap stepAt).Pairwise (fun a b => a.line < b.line) :=
  pairwise_filterMap_zipIdx (fun _ _ hstep => (stepAt_eq_some_iff.1 hstep).1) line texts

/-- A line that says something is read as a command or has a fault. -/
theorem not_isSilent_iff {text : String} :
    ¬ IsSilent text ↔
      (∃ c, Command.ofText text = .ok (some c)) ∨ ∃ fault, Command.ofText text = .error fault := by
  rw [← Command.ofText_eq_none_iff]
  cases Command.ofText text with
  | error fault => simp
  | ok command => cases command <;> simp

variable {source : String}

theorem mem_map_line_steps_iff {n : Nat} :
    n ∈ (((lines source).zipIdx 1).filterMap stepAt).map (·.line) ↔
      ∃ k text, (lines source)[k]? = some text ∧ n = k + 1 ∧
        ∃ c, Command.ofText text = .ok (some c) := by
  simp only [List.mem_map, mem_steps_iff]
  constructor
  · rintro ⟨step, ⟨k, text, htext, hline, hcommand⟩, rfl⟩
    exact ⟨k, text, htext, hline, step.command, hcommand⟩
  · rintro ⟨k, text, htext, rfl, c, hcommand⟩
    exact ⟨⟨k + 1, c⟩, ⟨k, text, htext, rfl, hcommand⟩, rfl⟩

theorem mem_map_line_errors_iff_fault {n : Nat} :
    n ∈ (((lines source).zipIdx 1).filterMap errorAt).map (·.line) ↔
      ∃ k text, (lines source)[k]? = some text ∧ n = k + 1 ∧
        ∃ fault, Command.ofText text = .error fault := by
  simp only [List.mem_map, mem_errors_iff, FailsWith, Command.ofLine_eq_error_iff]
  constructor
  · rintro ⟨e, ⟨k, text, htext, hline, hfault⟩, rfl⟩
    exact ⟨k, text, htext, hline, e.fault, hfault⟩
  · rintro ⟨k, text, htext, rfl, fault, hfault⟩
    exact ⟨⟨k + 1, fault⟩, ⟨k, text, htext, rfl, hfault⟩, rfl⟩

/-! ## Entries -/

/-- On a line with a given text there is the error of this text, and no other. -/
theorem mem_errors_at_iff {k : Nat} {text : String} (h : (lines source)[k]? = some text)
    (e : LineError) :
    e ∈ ((lines source).zipIdx 1).filterMap errorAt ∧ e.line = k + 1 ↔
      Command.ofLine text (k + 1) = .error e := by
  rw [mem_errors_iff]
  constructor
  · rintro ⟨⟨j, text', hj, hfails⟩, hline⟩
    obtain rfl : j = k :=
      Nat.succ.inj ((Command.ofLine_eq_error_iff.1 hfails).1.symm.trans hline)
    obtain rfl := Option.some.inj (h.symm.trans hj)
    exact hfails
  · intro hfails
    exact ⟨⟨k, text, h, hfails⟩, (Command.ofLine_eq_error_iff.1 hfails).1⟩

/-- **Under `skip` a script accounts for all of its lines.** -/
theorem parse_skip_accounts (source : String) :
    ∃ s, parse source .skip = .ok s ∧ s.AccountsFor (lines source) := by
  refine ⟨_, ofLines_skip 1 (lines source), ?_⟩
  refine
    { steps_ascend := pairwise_steps 1 _
      errors_ascend := pairwise_errors 1 _
      apart := ?apart
      numbers := ?numbers
      step_iff := ?step_iff
      error_iff := fun k text e htext => mem_errors_at_iff htext e
      complete := ?complete }
  case apart =>
    intro step hstep e he hsame
    obtain ⟨k, text, htext, hline, hcommand⟩ := mem_steps_iff.1 hstep
    -- the line with this number has one text, which cannot be read in both ways
    have hfails := (mem_errors_at_iff htext e).1 ⟨he, hsame.symm.trans hline⟩
    rw [Command.ofLine_eq_error_iff, hcommand] at hfails
    exact absurd hfails.2 nofun
  case numbers =>
    intro n
    rw [mem_map_line_steps_iff, mem_map_line_errors_iff_fault]
    simp only [← exists_or, ← and_or_left, not_isSilent_iff]
  case step_iff =>
    intro k text c htext
    rw [Command.ofLine_eq_ok_iff]
    exact mem_steps_at_iff htext c
  case complete =>
    intro step hstep
    obtain ⟨_, _, _, _, hcommand⟩ := mem_steps_iff.1 hstep
    exact Command.complete_of_ofTokens (Command.ofText_eq_some_iff.1 hcommand)

end BrowserScript.Script
