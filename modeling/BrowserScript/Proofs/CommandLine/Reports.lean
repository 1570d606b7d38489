/-
# BrowserScript.Proofs.CommandLine.Reports -- what is said of issues

A check says its issues in one of two ways. In the formats for people there is a message for each
issue, with its file, its line and its fault. In those for programs the issues are listed, and
**each stands in the list with its file, its line and its message**, written so that the list
tells them: two lists that are printed alike have the same files, lines and messages in the same
order, whatever characters stand in them.
-/
import BrowserScript.CommandLine.Check
import BrowserScript.Proofs.Listing.Layout
import BrowserScript.Proofs.Value.YamlScalar

namespace BrowserScript.CommandLine

open Listing (HasMembers IsPlainName jsonItem jsonList yamlItem yamlList)
open Value (jsonString)
open Value.Yaml (scalarLine EndsBlock scalarLine_append_inj)

/-! ## What a run says -/

/-- The text of a note that is a message. -/
def Note.message? : Note → Option String
  | event _ => none
  | message text => some text

@[simp] theorem filterMap_message?_events (events : List LogEvent) :
    (events.map Note.event).filterMap Note.message? = [] := by
  rw [List.filterMap_map, List.filterMap_eq_nil_iff]
  exact fun _ _ => rfl

@[simp] theorem filterMap_message?_messages (texts : List String) :
    (texts.map Note.message).filterMap Note.message? = texts := by
  rw [List.filterMap_map]
  exact List.filterMap_some

/-- The messages of a run, without the events that it notes down. -/
def Outcome.messages (o : Outcome) : List String :=
  o.notes.filterMap Note.message?

theorem messages_failed (ws : Workspace) (events : List LogEvent) (f : Failure) :
    (Outcome.failed ws (events.map .event) f).messages = [f.message] := by
  rw [Outcome.messages, Outcome.failed, List.filterMap_append, filterMap_message?_events]
  rfl

/-! ## Issues in each format -/

namespace Issue

/-- What is wrong and where, in the words of the report. -/
def text (i : Issue) : String :=
  "line " ++ toString i.error.line ++ ": " ++ i.error.fault.message

/-- The message of an issue. -/
def asMessage (i : Issue) : String :=
  "✗ " ++ i.file ++ ":" ++ i.text

/-- An issue in a JSON list. -/
def asJson (i : Issue) : String :=
  jsonItem [("file", jsonString i.file), ("line", toString i.error.line),
    ("message", jsonString i.text)]

/-- An issue in a YAML list. -/
def asYaml (i : Issue) : String :=
  yamlItem [("file", " " ++ scalarLine 4 i.file), ("line", " " ++ toString i.error.line ++ "\n"),
    ("message", " " ++ scalarLine 4 i.text)]

/-- What a list is to tell of an issue: its file, its line and its message. -/
def parts (i : Issue) : String × Nat × String :=
  (i.file, i.error.line, i.text)

end Issue

theorem errorNote_issue (i : Issue) :
    errorNote (i.file ++ ":" ++ i.error.message) = .message i.asMessage := by
  rw [errorNote, ← String.append_assoc, ← String.append_assoc]
  rfl

/-- The members of an issue as a record. -/
def issueMembers (i : Issue) : List (String × Value) :=
  [("file", .text i.file), ("line", .natural i.error.line), ("message", .text i.text)]

theorem isPlainName_issue : ∀ name ∈ ["file", "line", "message"], IsPlainName name := by
  decide +kernel

theorem hasMembers_issue : HasMembers Issue issueMembers where
  value _ := rfl
  ne_nil _ := List.cons_ne_nil _ _
  names _ m hm := isPlainName_issue m.1 (List.mem_map_of_mem hm)

/-- **Each issue has its text in a JSON list.** -/
theorem render_json_issues (issues : List Issue) :
    Listing.render .json issues = jsonList (issues.map Issue.asJson) := by
  rw [Listing.render_json_members hasMembers_issue, List.map_congr_left]
  intro i _
  simp only [issueMembers, Issue.asJson, List.map_cons, List.map_nil, Value.toJsonAt, Value.natural,
    Decimal.render_ofNat]

/-- **Each issue has its text in a YAML list.** -/
theorem render_yaml_issues (issues : List Issue) :
    Listing.render .yaml issues = yamlList (issues.map Issue.asYaml) := by
  rw [Listing.render_yaml_members hasMembers_issue, List.map_congr_left]
  intro i _
  simp only [issueMembers, Issue.asYaml, List.map_cons, List.map_nil, Value.yamlBehind,
    Value.leafLine, Value.natural, Decimal.render_ofNat, String.append_assoc]

/-! ## What a list tells -/

/-- **A JSON list tells the parts of its issues.** -/
theorem parts_eq_of_jsonList {issues issues' : List Issue}
    (h : jsonList (issues.map Issue.asJson) = jsonList (issues'.map Issue.asJson)) :
    issues.map Issue.parts = issues'.map Issue.parts := by
  let ofParts : String × Nat × String → Value := fun p =>
    .record [("file", .text p.1), ("line", .natural p.2.1), ("message", .text p.2.2)]
  have hinjective : Function.Injective ofParts := by
    rintro ⟨file, line, message⟩ ⟨file', line', message'⟩ hsame
    simpa [ofParts, Value.natural, Decimal.ofNat] using hsame
  have hvalue : (Listed.value : Issue → Value) = ofParts ∘ Issue.parts := rfl
  rw [← render_json_issues, ← render_json_issues, Listing.render_json_inj, hvalue, ← List.map_map,
    ← List.map_map] at h
  exact List.map_injective_iff.2 hinjective h

/-- The texts of a YAML list, as characters. -/
def yamlChars (issues : List Issue) : List Char :=
  (String.join (issues.map Issue.asYaml)).toList

theorem yamlChars_cons (i : Issue) (issues : List Issue) :
    yamlChars (i :: issues) =
      "- file: ".toList ++ ((scalarLine 4 i.file).toList ++
        ("  line: ".toList ++ ((toString i.error.line).toList ++
          ("\n  message: ".toList ++ ((scalarLine 4 i.text).toList ++
            yamlChars issues))))) := by
  simp [yamlChars, Issue.asYaml, yamlItem, String.join_cons, String.intercalate_cons_cons]

/-- No text goes on with what stands in front of the next member. -/
theorem endsBlock_line (cs : List Char) : EndsBlock 4 ("  line: ".toList ++ cs) := by
  refine ⟨?_, ?_⟩
  · rintro c ⟨⟩
    decide
  · simp [List.replicate]

/-- No text goes on with the next item, nor with the end of the list. -/
theorem endsBlock_yamlChars (issues : List Issue) : EndsBlock 4 (yamlChars issues) := by
  cases issues with
  | nil => exact ⟨nofun, by simp [yamlChars, List.replicate]⟩
  | cons i issues =>
      rw [yamlChars_cons]
      refine ⟨?_, ?_⟩
      · rintro c ⟨⟩
        decide
      · simp [List.replicate]

/-- Items are told one from the next by how they begin. -/
theorem parts_eq_of_yamlChars {issues issues' : List Issue}
    (h : yamlChars issues = yamlChars issues') : issues.map Issue.parts = issues'.map Issue.parts := by
  induction issues generalizing issues' with
  | nil =>
      cases issues' with
      | nil => rfl
      | cons i' issues' =>
          rw [yamlChars_cons] at h
          cases h
  | cons i issues ih =>
      rw [yamlChars_cons] at h
      cases issues' with
      | nil => cases h
      | cons i' issues' =>
          rw [yamlChars_cons] at h
          -- each part ends by itself: the texts before what is indented less, the number with
          -- its digits
          obtain ⟨hfile, hline⟩ := scalarLine_append_inj (by omega) (endsBlock_line _)
            (endsBlock_line _) (List.append_cancel_left h)
          obtain ⟨hnumber, hmessage⟩ := Value.digits_append_inj (by rintro c ⟨⟩; decide)
            (by rintro c ⟨⟩; decide) (List.append_cancel_left hline)
          obtain ⟨htext, hrest⟩ := scalarLine_append_inj (by omega) (endsBlock_yamlChars issues)
            (endsBlock_yamlChars issues') (List.append_cancel_left hmessage)
          rw [List.map_cons, List.map_cons, Issue.parts, hfile, hnumber, htext, ih hrest, Issue.parts]

/-- **A YAML list tells the parts of its issues.** -/
theorem parts_eq_of_yamlList {issues issues' : List Issue}
    (h : yamlList (issues.map Issue.asYaml) = yamlList (issues'.map Issue.asYaml)) :
    issues.map Issue.parts = issues'.map Issue.parts := by
  have hempty : ∀ (i : Issue) (issues : List Issue),
      "[]\n" ≠ String.join ((i :: issues).map Issue.asYaml) := by
    intro i issues hsame
    have hchars : "[]\n".toList = yamlChars (i :: issues) := congrArg String.toList hsame
    rw [yamlChars_cons] at hchars
    cases hchars
  cases issues with
  | nil =>
      cases issues' with
      | nil => rfl
      | cons i' issues' => exact absurd h (hempty i' issues')
  | cons i issues =>
      cases issues' with
      | nil => exact absurd h.symm (hempty i issues)
      | cons i' issues' => exact parts_eq_of_yamlChars (congrArg String.toList h)

namespace Outcome

variable {o o' : Outcome} {format : ListFormat} {issues issues' : List Issue}

/-- A run tells these issues: each in a message of its own, or all of them in one list. -/
def Reports (o : Outcome) (format : ListFormat) (issues : List Issue) : Prop :=
  match format with
  | .table | .plain => o.messages = issues.map Issue.asMessage
  | .json => o.messages = [] ∧ o.printed = jsonList (issues.map Issue.asJson)
  | .yaml => o.messages = [] ∧ o.printed = yamlList (issues.map Issue.asYaml)

theorem reports_congr (hmessages : o.messages = o'.messages) (hprinted : o.printed = o'.printed) :
    o.Reports format issues ↔ o'.Reports format issues := by
  cases format <;> simp only [Reports, hmessages, hprinted]

theorem messages_of_reports (h : o.Reports format issues)
    (hformat : format = .table ∨ format = .plain) : o.messages = issues.map Issue.asMessage := by
  obtain rfl | rfl := hformat
  · exact h
  · exact h

/-- **What is listed for programs has one reading.** -/
theorem Reports.parts_eq (h : o.Reports format issues) (h' : o.Reports format issues')
    (hformat : format = .json ∨ format = .yaml) :
    issues.map Issue.parts = issues'.map Issue.parts := by
  obtain rfl | rfl := hformat
  · exact parts_eq_of_jsonList (h.2.symm.trans h'.2)
  · exact parts_eq_of_yamlList (h.2.symm.trans h'.2)

end Outcome

end BrowserScript.CommandLine
