/-
# BrowserScript.Proofs.CommandLine.FormatModes -- three modes, one canonical form

The modes of formatting do different things with the same text: one prints the canonical
form of a file, one compares the file with it, one puts it into the file. What was put
there is in canonical form, so that **the comparison accepts it and it is not written a
second time**. A file that cannot be read ends each mode in the same way, and one that
cannot be written ends the writing, where there is something to write. Nothing else in the
workspace has a say in any of this, the settings included.
-/
import BrowserScript.CommandLine.Run
import BrowserScript.Proofs.Script.Formatting
import BrowserScript.Proofs.Workspace.Writing

namespace BrowserScript.CommandLine

open Workspace (SameElsewhere IsWritable sameElsewhere_refl sameElsewhere_put)

variable {ws : Workspace} {file source : String}

/-! ## One run -/

theorem runFormat_of_error {e : ReadError} (h : ws.read file = .error e) (mode : FormatMode) :
    runFormat ws mode file = .failed ws [] ⟨"Failed to read " ++ file, e.message⟩ := by
  simp only [runFormat, h]

theorem runFormat_print (h : ws.read file = .ok source) :
    runFormat ws .print file =
      ⟨0, Script.format source, (Script.formatEvents source).map .event, ws⟩ := by
  simp only [runFormat, h]

theorem status_check (h : ws.read file = .ok source) :
    (runFormat ws .check file).status = if Script.format source = source then 0 else 1 := by
  simp only [runFormat, h]
  split <;> rfl

theorem workspace_check (h : ws.read file = .ok source) :
    (runFormat ws .check file).workspace = ws := by
  simp only [runFormat, h]
  split <;> rfl

/-! ## Writing into a file -/

/-- A text in canonical form is not written, whatever would become of a writing. -/
theorem runFormat_write_of_same (h : ws.read file = .ok source)
    (hsame : Script.format source = source) :
    runFormat ws .write file = ⟨0, "", (Script.formatEvents source).map .event, ws⟩ := by
  simp only [runFormat, h, if_pos hsame]

/-- A text that changes is written, and what became of that decides the rest. -/
theorem runFormat_write_of_ne (h : ws.read file = .ok source)
    (hne : Script.format source ≠ source) :
    runFormat ws .write file =
      match (ws.write file (Script.format source)).2 with
      | none => ⟨0, "", (Script.formatEvents source).map .event ++
          [.event ⟨.info, "Formatted " ++ file, []⟩], (ws.write file (Script.format source)).1⟩
      | some e => .failed (ws.write file (Script.format source)).1
          ((Script.formatEvents source).map .event) ⟨"Failed to write " ++ file, e.message⟩ := by
  simp only [runFormat, h, if_neg hne]
  obtain ⟨after, error⟩ := ws.write file (Script.format source)
  cases error <;> rfl

theorem runFormat_write_of_isWritable (h : ws.read file = .ok source)
    (hne : Script.format source ≠ source) (hw : IsWritable ws file) :
    runFormat ws .write file =
      ⟨0, "", (Script.formatEvents source).map .event ++
          [.event ⟨.info, "Formatted " ++ file, []⟩],
        ws.put file (Script.format source).toUTF8⟩ := by
  rw [runFormat_write_of_ne h hne, Workspace.write_of_isWritable hw]

/-- A writing that fails ends the run, and the file is not said to be formatted. -/
theorem runFormat_write_of_error (h : ws.read file = .ok source)
    (hne : Script.format source ≠ source) {e : WriteError} (he : ws.writeError? file = some e) :
    runFormat ws .write file =
      .failed (ws.write file (Script.format source)).1 ((Script.formatEvents source).map .event)
        ⟨"Failed to write " ++ file, e.message⟩ := by
  rw [runFormat_write_of_ne h hne, (Workspace.write_of_error h he _).1]

/-- **The canonical form is in the file** after it was written, also if it was there before. -/
theorem read_written (h : ws.read file = .ok source) (hw : IsWritable ws file) :
    (runFormat ws .write file).workspace.read file = .ok (Script.format source) := by
  by_cases hsame : Script.format source = source
  · rw [runFormat_write_of_same h hsame, hsame]
    exact h
  · rw [runFormat_write_of_isWritable h hsame hw]
    exact Workspace.read_put h _

theorem sameElsewhere_written (h : ws.read file = .ok source) (hw : IsWritable ws file) :
    SameElsewhere file ws (runFormat ws .write file).workspace := by
  by_cases hsame : Script.format source = source
  · rw [runFormat_write_of_same h hsame]
    exact sameElsewhere_refl file ws
  · rw [runFormat_write_of_isWritable h hsame hw]
    exact sameElsewhere_put h _

theorem status_write (h : ws.read file = .ok source) (hw : IsWritable ws file) :
    (runFormat ws .write file).status = 0 := by
  by_cases hsame : Script.format source = source
  · rw [runFormat_write_of_same h hsame]
  · rw [runFormat_write_of_isWritable h hsame hw]

/-- The bytes of the file change when its text is not in canonical form. -/
theorem content?_written_ne_iff (h : ws.read file = .ok source) (hw : IsWritable ws file) :
    (runFormat ws .write file).workspace.content? file ≠ ws.content? file ↔
      Script.format source ≠ source := by
  rw [Workspace.content?_of_read (read_written h hw), Workspace.content?_of_read h, Ne, Ne,
    Option.some_inj, String.toUTF8_eq_toByteArray, String.toUTF8_eq_toByteArray,
    String.toByteArray_inj]

/-- A formatted text is in canonical form, line by line, and therefore it is accepted by a
comparison and left alone by a further writing. -/
theorem runFormat_of_formatted (h : ws.read file = .ok (Script.format source)) :
    (runFormat ws .check file).status = 0 ∧ (runFormat ws .write file).workspace = ws := by
  have hsame : Script.format (Script.format source) = Script.format source :=
    Script.format_eq_self_iff.2 fun _ hl => Script.formatted_of_mem_cut_format hl
  refine ⟨(status_check h).trans (if_pos hsame), ?_⟩
  rw [runFormat_write_of_same h hsame]

/-- **A mode depends on the file only**: on its text, and on what becomes of writing to it. -/
theorem runFormat_congr {ws' : Workspace} (h : ws'.read file = ws.read file)
    (hw : ws'.writeError? file = ws.writeError? file) (mode : FormatMode) :
    (runFormat ws' mode file).status = (runFormat ws mode file).status ∧
      (runFormat ws' mode file).printed = (runFormat ws mode file).printed ∧
      (runFormat ws' mode file).notes = (runFormat ws mode file).notes ∧
      (runFormat ws' mode file).workspace.read file =
        (runFormat ws mode file).workspace.read file := by
  cases hread : ws.read file with
  | error e =>
      have hread' : ws'.read file = .error e := h.trans hread
      rw [runFormat_of_error hread, runFormat_of_error hread']
      exact ⟨rfl, rfl, rfl, h⟩
  | ok source =>
      have hread' : ws'.read file = .ok source := h.trans hread
      cases mode with
      | print =>
          rw [runFormat_print hread, runFormat_print hread']
          exact ⟨rfl, rfl, rfl, h⟩
      | check =>
          rw [workspace_check hread, workspace_check hread']
          simp only [runFormat, hread, hread']
          split <;> exact ⟨rfl, rfl, rfl, trivial⟩
      | write =>
          by_cases hsame : Script.format source = source
          · rw [runFormat_write_of_same hread hsame, runFormat_write_of_same hread' hsame]
            exact ⟨rfl, rfl, rfl, h⟩
          · obtain ⟨herror, hafter⟩ := Workspace.write_congr hread hread' hw (Script.format source)
            rw [runFormat_write_of_ne hread hsame, runFormat_write_of_ne hread' hsame, herror]
            cases (ws.write file (Script.format source)).2 with
            | none => exact ⟨rfl, rfl, rfl, hafter⟩
            | some e => exact ⟨rfl, rfl, rfl, hafter⟩

/-! ## The modes together -/

/-- **The modes of formatting agree**, for every content of a file and whatever the options
and the settings are. The canonical form is printed, or compared with the file, or put into
it; and what was put there is accepted and stays. A text in canonical form is not written. Any
other is, if the file can be written; if not, the run fails, says so, and leaves everything else
as it was. A file that cannot be read ends each mode with nothing printed and nothing changed. -/
theorem format_modes (ws : Workspace) (file : String) (options : Options) :
    (∀ x, ws.read file = .ok x →
      ((runTask ws options (.format file .print)).status = 0 ∧
        (runTask ws options (.format file .print)).printed = Script.format x ∧
        (runTask ws options (.format file .print)).workspace = ws) ∧
      ((runTask ws options (.format file .check)).status =
          (if Script.format x = x then 0 else 1) ∧
        (runTask ws options (.format file .check)).workspace = ws) ∧
      (IsWritable ws file →
        ((runTask ws options (.format file .write)).status = 0 ∧
          ((runTask ws options (.format file .write)).workspace.content? file ≠ ws.content? file ↔
            Script.format x ≠ x) ∧
          (runTask ws options (.format file .write)).workspace.content? file =
            some (Script.format x).toUTF8 ∧
          SameElsewhere file ws (runTask ws options (.format file .write)).workspace) ∧
        ∀ written options', written = (runTask ws options (.format file .write)).workspace →
          (runTask written options' (.format file .check)).status = 0 ∧
          (runTask written options' (.format file .write)).workspace = written) ∧
      (Script.format x = x →
        (runTask ws options (.format file .write)).status = 0 ∧
        (runTask ws options (.format file .write)).workspace = ws) ∧
      ∀ e, ws.writeError? file = some e → Script.format x ≠ x →
        (runTask ws options (.format file .write)).status = 1 ∧
        (runTask ws options (.format file .write)).printed = "" ∧
        (runTask ws options (.format file .write)).notes =
          (Script.formatEvents x).map .event ++ [.message ("Error: Failed to write " ++ file ++
            "\n\nCaused by:\n    " ++ e.message)] ∧
        (runTask ws options (.format file .write)).workspace.content? file =
          some (e.left x.toUTF8 (Script.format x).toUTF8) ∧
        SameElsewhere file ws (runTask ws options (.format file .write)).workspace) ∧
    (∀ e, ws.read file = .error e → ∀ mode,
      (runTask ws options (.format file mode)).status = 1 ∧
      (runTask ws options (.format file mode)).printed = "" ∧
      (runTask ws options (.format file mode)).notes =
        [.message ("Error: Failed to read " ++ file ++ "\n\nCaused by:\n    " ++ e.message)] ∧
      (runTask ws options (.format file mode)).workspace = ws) ∧
    ∀ mode ws' options', ws'.read file = ws.read file →
      ws'.writeError? file = ws.writeError? file →
      (runTask ws' options' (.format file mode)).status =
          (runTask ws options (.format file mode)).status ∧
        (runTask ws' options' (.format file mode)).printed =
          (runTask ws options (.format file mode)).printed ∧
        (runTask ws' options' (.format file mode)).notes =
          (runTask ws options (.format file mode)).notes ∧
        (runTask ws' options' (.format file mode)).workspace.read file =
          (runTask ws options (.format file mode)).workspace.read file := by
  simp only [runTask]
  refine ⟨fun x hx => ⟨?printed, ⟨status_check hx, workspace_check hx⟩, fun hw => ⟨?written, ?again⟩,
    fun hsame => ?same, fun e he hne => ?failed⟩, fun e he mode => ?unreadable,
    fun mode ws' _ h hw => runFormat_congr h hw mode⟩
  case printed =>
    rw [runFormat_print hx]
    exact ⟨rfl, rfl, rfl⟩
  case written =>
    exact ⟨status_write hx hw, content?_written_ne_iff hx hw,
      Workspace.content?_of_read (read_written hx hw), sameElsewhere_written hx hw⟩
  case again =>
    rintro written options' rfl
    exact runFormat_of_formatted (read_written hx hw)
  case same =>
    rw [runFormat_write_of_same hx hsame]
    exact ⟨rfl, rfl⟩
  case failed =>
    obtain ⟨_, helsewhere, hleft⟩ := Workspace.write_of_error hx he (Script.format x)
    rw [runFormat_write_of_error hx hne he]
    refine ⟨rfl, rfl, ?_, hleft, helsewhere⟩
    rw [Outcome.failed, Failure.message_append]
    rfl
  case unreadable =>
    rw [runFormat_of_error he]
    refine ⟨rfl, rfl, ?_, rfl⟩
    rw [Outcome.failed, Failure.message_append]
    rfl

/-- A script with an older command name, beside settings that are not well formed. -/
def backWorkspace : Workspace :=
  .ofFiles [("a.ox", "go_back\n".toUTF8), ("oxtest.toml", "on_error = [".toUTF8)]

/-- The same files, of which the script cannot be written. -/
def lockedWorkspace : Workspace :=
  { backWorkspace with
    writeErrors := [(["a.ox"], .refused "Permission denied (os error 13)")] }

/-- The script is formatted, whatever the settings are, a file that is not there is not made, and
a script that cannot be written stays as it is. -/
theorem format_modes_back :
    Settings.load backWorkspace "oxtest.toml" = .error .malformed ∧
      backWorkspace.read "a.ox" = .ok "go_back\n" ∧ IsWritable backWorkspace "a.ox" ∧
      (runTask backWorkspace ⟨none, "oxtest.toml", false⟩ (.format "a.ox" .print)).printed =
        "goBack\n" ∧
      (runTask backWorkspace ⟨none, "oxtest.toml", false⟩ (.format "a.ox" .check)).status = 1 ∧
      (runTask backWorkspace ⟨none, "oxtest.toml", false⟩
          (.format "a.ox" .write)).workspace.content? "a.ox" = some "goBack\n".toUTF8 ∧
      (runTask (runTask backWorkspace ⟨none, "oxtest.toml", false⟩
          (.format "a.ox" .write)).workspace ⟨none, "oxtest.toml", false⟩
          (.format "a.ox" .check)).status = 0 ∧
      backWorkspace.read "b.ox" = .error .missing ∧
      (runTask backWorkspace ⟨none, "oxtest.toml", false⟩ (.format "b.ox" .write)).notes =
        [.message ("Error: Failed to read b.ox\n\nCaused by:\n" ++
          "    No such file or directory (os error 2)")] ∧
      (runTask backWorkspace ⟨none, "oxtest.toml", false⟩ (.format "b.ox" .write)).workspace =
        backWorkspace ∧
      lockedWorkspace.read "a.ox" = .ok "go_back\n" ∧
      (runTask lockedWorkspace ⟨none, "oxtest.toml", false⟩ (.format "a.ox" .write)).status = 1 ∧
      (runTask lockedWorkspace ⟨none, "oxtest.toml", false⟩ (.format "a.ox" .write)).notes =
        [.message ("Error: Failed to write a.ox\n\nCaused by:\n" ++
          "    Permission denied (os error 13)")] ∧
      (runTask lockedWorkspace ⟨none, "oxtest.toml", false⟩
          (.format "a.ox" .write)).workspace.content? "a.ox" = some "go_back\n".toUTF8 := by
  have hscript : Workspace.names "a.ox" = ["a.ox"] := by decide
  have hother : Workspace.names "b.ox" = ["b.ox"] := by decide
  have hsettings : Workspace.names "oxtest.toml" = ["oxtest.toml"] := by decide
  have hentries : backWorkspace.entries = [(["a.ox"], .file "go_back\n".toUTF8),
      (["oxtest.toml"], .file "on_error = [".toUTF8)] := by
    simp only [backWorkspace, Workspace.ofFiles, List.map_cons, List.map_nil, hscript, hsettings]
  have hlookup : backWorkspace.entries.lookup (Workspace.names "a.ox") =
      some (.file "go_back\n".toUTF8) := by
    rw [hentries, hscript]
    rfl
  have hread : backWorkspace.read "a.ox" = .ok "go_back\n" :=
    Workspace.read_eq_ok_iff.2
      (Workspace.find_of_lookup (by decide) (by decide) (by decide) hlookup)
  have hlocked : lockedWorkspace.read "a.ox" = .ok "go_back\n" :=
    Workspace.read_eq_ok_iff.2
      (Workspace.find_of_lookup (by decide) (by decide) (by decide) hlookup)
  have hrefused : lockedWorkspace.writeError? "a.ox" =
      some (.refused "Permission denied (os error 13)") := by
    rw [Workspace.writeError?, hscript]
    rfl
  have hmissing : backWorkspace.read "b.ox" = .error .missing := by
    have hclimbed : Workspace.climbed "b.ox" = [] := by decide
    simp only [Workspace.read, Workspace.find, hclimbed, Workspace.climb, Workspace.entry, hentries,
      hother]
    rfl
  have hfound : backWorkspace.find "oxtest.toml" = .ok (.file "on_error = [".toUTF8) := by
    apply Workspace.find_of_lookup (by decide) (by decide) (by decide)
    rw [hentries, hsettings]
    rfl
  have hmalformed : Settings.ofText? "on_error = [" = none := by cbv
  have hformat : Script.format "go_back\n" = "goBack\n" := by cbv
  have hevents : Script.formatEvents "go_back\n" = [] := by cbv
  obtain ⟨hmodes, _, _⟩ := format_modes backWorkspace "a.ox" ⟨none, "oxtest.toml", false⟩
  obtain ⟨⟨_, hprinted, _⟩, ⟨hchecked, _⟩, hwriting, _⟩ := hmodes _ hread
  obtain ⟨⟨_, _, hwritten, _⟩, hagain⟩ := hwriting rfl
  rw [hformat] at hprinted hchecked hwritten
  obtain ⟨_, hunreadable, _⟩ := format_modes backWorkspace "b.ox" ⟨none, "oxtest.toml", false⟩
  obtain ⟨_, _, hnotes, hsame⟩ := hunreadable _ hmissing .write
  obtain ⟨hlockedModes, _, _⟩ := format_modes lockedWorkspace "a.ox" ⟨none, "oxtest.toml", false⟩
  obtain ⟨_, _, _, _, hfailing⟩ := hlockedModes _ hlocked
  obtain ⟨hfailed, _, hsaid, hkept, _⟩ := hfailing _ hrefused (by rw [hformat]; decide)
  refine ⟨?settings, hread, rfl, hprinted, ?checked, hwritten, (hagain _ _ rfl).1, hmissing, hnotes,
    hsame, hlocked, hfailed, ?said, hkept⟩
  case settings =>
    simp only [Settings.load, Workspace.contains, hfound, Workspace.read_eq_ok_iff.2 hfound,
      hmalformed, if_true]
  case checked =>
    rw [hchecked]
    decide
  case said =>
    rw [hsaid, hevents]
    rfl

end BrowserScript.CommandLine
