/-
# BrowserScript.Proofs.CommandLine.ManyFiles -- a check of several files

A check goes through its files in the given order and keeps what it has found until it has
seen the last of them. Up to a file that cannot be read it has found the issues of the files
before it, one file after the other; **what becomes of them is decided by the rest**. When all
files can be read, they are reported, each with its own file, also where a file is given
twice; otherwise the run says which file it could not read, the first such one, and says
nothing of any issue.
-/
import BrowserScript.Proofs.CommandLine.CheckAndParse

namespace BrowserScript.CommandLine

variable {ws : Workspace} {file : String} {files : List String} {script : Script}

/-! ## Files and their scripts -/

/-- The file holds a text that is read as this script, its faults being passed over. -/
def HoldsScript (ws : Workspace) (file : String) (script : Script) : Prop :=
  ∃ source, ws.read file = .ok source ∧ Script.parse source .skip = .ok script

/-- Files with the scripts that they hold. -/
def HoldScripts (ws : Workspace) (held : List (String × Script)) : Prop :=
  ∀ p ∈ held, HoldsScript ws p.1 p.2

/-- A file holds one script at most. -/
theorem HoldsScript.unique {script' : Script} (h : HoldsScript ws file script)
    (h' : HoldsScript ws file script') : script = script' := by
  obtain ⟨source, hread, hs⟩ := h
  obtain ⟨source', hread', hs'⟩ := h'
  obtain rfl := Except.ok.inj (hread.symm.trans hread')
  exact Except.ok.inj (hs.symm.trans hs')

theorem HoldScripts.unique {held held' : List (String × Script)} (h : HoldScripts ws held)
    (h' : HoldScripts ws held') (hfiles : held.map Prod.fst = held'.map Prod.fst) :
    held = held' := by
  induction held generalizing held' with
  | nil => exact (List.map_eq_nil_iff.1 hfiles.symm).symm
  | cons p held ih =>
      cases held' with
      | nil => exact absurd hfiles (List.cons_ne_nil _ _)
      | cons p' held' =>
          obtain ⟨hfirst, hothers⟩ := List.forall_mem_cons.1 h
          obtain ⟨hfirst', hothers'⟩ := List.forall_mem_cons.1 h'
          obtain ⟨hfile, hrest⟩ := List.cons.inj hfiles
          have hscript : p.2 = p'.2 := hfirst.unique (hfile ▸ hfirst')
          rw [Prod.ext hfile hscript, ih hothers hothers' hrest]

/-- The issues of files with these scripts: file by file the errors, each with its file. -/
def issuesOf (held : List (String × Script)) : List Issue :=
  held.flatMap fun p => p.2.errors.map (⟨p.1, ·⟩)

/-- The number of commands in the scripts of files. -/
def commandsOf (held : List (String × Script)) : Nat :=
  (held.map fun p => p.2.steps.length).sum

theorem exists_holdsScript {source : String} (h : ws.read file = .ok source) :
    ∃ script, HoldsScript ws file script := by
  obtain ⟨script, hs⟩ := Script.exists_parse_skip source
  exact ⟨script, source, h, hs⟩

/-- **Files can all be read, or one is the first that cannot.** -/
theorem held_or_first_unreadable (ws : Workspace) (files : List String) :
    (∃ held, held.map Prod.fst = files ∧ HoldScripts ws held) ∨
      ∃ held file after e, files = held.map Prod.fst ++ file :: after ∧ HoldScripts ws held ∧
        ws.read file = .error e := by
  induction files with
  | nil => exact Or.inl ⟨[], rfl, nofun⟩
  | cons file files ih =>
      cases hread : ws.read file with
      | error e => exact Or.inr ⟨[], file, files, e, rfl, nofun, hread⟩
      | ok source =>
          obtain ⟨script, hscript⟩ := exists_holdsScript hread
          have hcons : ∀ {held}, HoldScripts ws held → HoldScripts ws ((file, script) :: held) :=
            fun hheld => List.forall_mem_cons.2 ⟨hscript, hheld⟩
          obtain ⟨held, rfl, hheld⟩ | ⟨held, file', after, e, rfl, hheld, he⟩ := ih
          · exact Or.inl ⟨(file, script) :: held, rfl, hcons hheld⟩
          · exact Or.inr ⟨(file, script) :: held, file', after, e, rfl, hcons hheld, he⟩

theorem readable_of_holdScripts {held : List (String × Script)} (h : HoldScripts ws held) :
    ∀ file ∈ held.map Prod.fst, ∃ source, ws.read file = .ok source := by
  intro file hfile
  obtain ⟨p, hp, rfl⟩ := List.mem_map.1 hfile
  obtain ⟨source, hread, _⟩ := h p hp
  exact ⟨source, hread⟩

/-! ## What has been found -/

/-- A file that can be read adds its issues before those of the files after it. -/
theorem checkFiles_cons (h : HoldsScript ws file script) (files : List String) :
    ∃ events : List LogEvent, checkFiles ws (file :: files) =
      (events.map .event ++ (checkFiles ws files).1,
        (checkFiles ws files).2.map fun found =>
          ⟨script.errors.map (⟨file, ·⟩) ++ found.issues,
            script.steps.length + found.commands⟩) := by
  obtain ⟨source, hread, hs⟩ := h
  refine ⟨Script.events source .skip ++ [checkedEvent file script], ?_⟩
  simp [checkFiles, hread, hs]

theorem checkFiles_of_unreadable {e : ReadError} (h : ws.read file = .error e)
    (files : List String) :
    checkFiles ws (file :: files) = ([], .error ⟨"Failed to read " ++ file, e.message⟩) := by
  simp only [checkFiles, h]

/-- **Files that can be read add their issues in order**, and do not decide whether the
check comes to an end. -/
theorem checkFiles_append {held : List (String × Script)} (h : HoldScripts ws held)
    (files : List String) :
    ∃ events : List LogEvent, checkFiles ws (held.map Prod.fst ++ files) =
      (events.map .event ++ (checkFiles ws files).1,
        (checkFiles ws files).2.map fun found =>
          ⟨issuesOf held ++ found.issues, commandsOf held + found.commands⟩) := by
  induction held with
  | nil =>
      refine ⟨[], Prod.ext rfl ?_⟩
      cases hrest : (checkFiles ws files).2 with
      | error f => simp [hrest, Except.map]
      | ok found => simp [hrest, Except.map, issuesOf, commandsOf]
  | cons p held ih =>
      obtain ⟨hfirst, hothers⟩ := List.forall_mem_cons.1 h
      obtain ⟨before, hbefore⟩ := checkFiles_cons hfirst (held.map Prod.fst ++ files)
      obtain ⟨events, hevents⟩ := ih hothers
      refine ⟨before ++ events, ?_⟩
      rw [List.map_cons, List.cons_append, hbefore, hevents]
      cases (checkFiles ws files).2 with
      | error f => simp [Except.map]
      | ok found =>
          simp [Except.map, issuesOf, commandsOf, Nat.add_assoc]

/-- Of files that can all be read the issues of all are found. -/
theorem checkFiles_of_holdScripts {held : List (String × Script)} (h : HoldScripts ws held) :
    ∃ events : List LogEvent, checkFiles ws (held.map Prod.fst) =
      (events.map .event, .ok ⟨issuesOf held, commandsOf held⟩) := by
  obtain ⟨events, hevents⟩ := checkFiles_append h []
  rw [List.append_nil] at hevents
  refine ⟨events, ?_⟩
  rw [hevents]
  simp [checkFiles, Except.map]

/-- A file that cannot be read takes away what was found before it. -/
theorem checkFiles_of_first_unreadable {held : List (String × Script)} (h : HoldScripts ws held)
    {e : ReadError} (he : ws.read file = .error e) (after : List String) :
    ∃ events : List LogEvent, checkFiles ws (held.map Prod.fst ++ file :: after) =
      (events.map .event, .error ⟨"Failed to read " ++ file, e.message⟩) := by
  obtain ⟨events, hevents⟩ := checkFiles_append h (file :: after)
  rw [checkFiles_of_unreadable he] at hevents
  exact ⟨events, by rw [hevents, List.append_nil]; rfl⟩

/-- In the formats for people, what is printed tells how much was looked at, when nothing is
wrong. -/
theorem printed_of_findings {events : List LogEvent} {found : Findings} {format : ListFormat}
    (h : checkFiles ws files = (events.map .event, .ok found))
    (hformat : format = .table ∨ format = .plain) :
    (runCheck ws format files).printed =
      if found.issues = [] then
        "✓ " ++ toString files.length ++ " file(s), " ++ toString found.commands ++
          " command(s), no errors\n"
      else "" := by
  have hpeople : (format = .table || format = .plain) = true := by simpa using hformat
  simp only [runCheck, h, if_pos hpeople, List.isEmpty_iff]

/-! ## The whole run -/

/-- **A check reports everything or nothing.** With settings that can be loaded, in any format
and for any files: if all of them can be read, the issues that are reported are the errors of
their scripts, file by file in the given order, and the run succeeds if there are none. A list
for programs has no other reading. If some file cannot be read, the run fails and prints
nothing, and all that it says is that the first such file could not be read. -/
theorem check_reports_all_or_none (ws : Workspace) (files : List String) (options : Options)
    (settings : Settings) (hsettings : Settings.load ws options.settings = .ok settings) :
    ((∀ file ∈ files, ∃ source, ws.read file = .ok source) →
      ∃ held, held.map Prod.fst = files ∧ HoldScripts ws held ∧
        (runTask ws options (.check files)).Reports (settings.listFormat options.format)
          (issuesOf held) ∧
        (settings.listFormat options.format = .json ∨ settings.listFormat options.format = .yaml →
          ∀ issues, (runTask ws options (.check files)).Reports
              (settings.listFormat options.format) issues →
            issues.map Issue.parts = (issuesOf held).map Issue.parts) ∧
        (runTask ws options (.check files)).status = (if issuesOf held = [] then 0 else 1) ∧
        (settings.listFormat options.format = .table ∨
            settings.listFormat options.format = .plain →
          (runTask ws options (.check files)).printed =
            if issuesOf held = [] then
              "✓ " ++ toString files.length ++ " file(s), " ++ toString (commandsOf held) ++
                " command(s), no errors\n"
            else "")) ∧
    ((∃ file ∈ files, ∃ e, ws.read file = .error e) →
      ∃ before file after e, files = before ++ file :: after ∧
        (∀ f ∈ before, ∃ source, ws.read f = .ok source) ∧ ws.read file = .error e ∧
        (runTask ws options (.check files)).status = 1 ∧
        (runTask ws options (.check files)).printed = "" ∧
        (runTask ws options (.check files)).messages =
          ["Error: Failed to read " ++ file ++ "\n\nCaused by:\n    " ++ e.message]) := by
  obtain ⟨hstatus, hprinted, hmessages⟩ := withSettings_of_ok hsettings
    fun s => runCheck ws (s.listFormat options.format) files
  simp only [runTask, hstatus, hprinted, hmessages, Outcome.reports_congr hmessages hprinted]
  refine ⟨fun hreadable => ?_, fun hunreadable => ?_⟩
  · obtain ⟨held, rfl, hheld⟩ | ⟨held, file, after, e, rfl, _, he⟩ :=
      held_or_first_unreadable ws files
    · obtain ⟨events, hfound⟩ := checkFiles_of_holdScripts hheld
      have hreports := reports_of_findings hfound (settings.listFormat options.format)
      exact ⟨held, rfl, hheld, hreports, fun hformat _ hother => hother.parts_eq hreports hformat,
        status_of_findings hfound _, printed_of_findings hfound⟩
    · obtain ⟨source, hsource⟩ := hreadable file (List.mem_append_right _ List.mem_cons_self)
      cases he.symm.trans hsource
  · obtain ⟨held, rfl, hheld⟩ | ⟨held, file, after, e, rfl, hheld, he⟩ :=
      held_or_first_unreadable ws files
    · obtain ⟨file, hfile, e, he⟩ := hunreadable
      obtain ⟨source, hsource⟩ := readable_of_holdScripts hheld file hfile
      cases he.symm.trans hsource
    · obtain ⟨events, hfailure⟩ := checkFiles_of_first_unreadable hheld he after
      rw [runCheck_of_failure hfailure]
      refine ⟨held.map Prod.fst, file, after, e, rfl, readable_of_holdScripts hheld, he, rfl, rfl, ?_⟩
      rw [messages_failed, Failure.message_append]
      rfl

/-- Two scripts with a fault, and a file that is no text, beside no settings. -/
def mixedWorkspace : Workspace :=
  .ofFiles [("a.ox", "click\n".toUTF8), ("b.ox", "go_back\nfill css=#a\n".toUTF8),
    ("c.ox", ⟨#[0xff]⟩)]

/-- A script that is given twice is reported twice, and nothing is reported beside a file that is
no text. -/
theorem check_reports_all_or_none_mixed :
    Settings.load mixedWorkspace "oxtest.toml" = .ok .defaults ∧
      (runTask mixedWorkspace ⟨none, "oxtest.toml", false⟩
          (.check ["b.ox", "a.ox", "b.ox"])).status = 1 ∧
      (runTask mixedWorkspace ⟨none, "oxtest.toml", false⟩
          (.check ["b.ox", "a.ox", "b.ox"])).messages =
        ["✗ b.ox:line 2: missing required parameter: value",
          "✗ a.ox:line 1: click requires a selector",
          "✗ b.ox:line 2: missing required parameter: value"] ∧
      (runTask mixedWorkspace ⟨some .yaml, "oxtest.toml", false⟩
          (.check ["b.ox", "a.ox", "b.ox"])).printed =
        "- file: b.ox\n  line: 2\n  message: 'line 2: missing required parameter: value'\n" ++
          "- file: a.ox\n  line: 1\n  message: 'line 1: click requires a selector'\n" ++
          "- file: b.ox\n  line: 2\n  message: 'line 2: missing required parameter: value'\n" ∧
      (runTask mixedWorkspace ⟨some .json, "oxtest.toml", false⟩
          (.check ["a.ox", "c.ox", "d.ox"])).printed = "" ∧
      (runTask mixedWorkspace ⟨some .json, "oxtest.toml", false⟩
          (.check ["a.ox", "c.ox", "d.ox"])).messages =
        ["Error: Failed to read c.ox\n\nCaused by:\n    stream did not contain valid UTF-8"] := by
  have ha : Workspace.names "a.ox" = ["a.ox"] := by decide
  have hb : Workspace.names "b.ox" = ["b.ox"] := by decide
  have hc : Workspace.names "c.ox" = ["c.ox"] := by decide
  have hother : Workspace.names "oxtest.toml" = ["oxtest.toml"] := by decide
  have hentries : mixedWorkspace.entries =
      [(["a.ox"], .file "click\n".toUTF8), (["b.ox"], .file "go_back\nfill css=#a\n".toUTF8),
        (["c.ox"], .file ⟨#[0xff]⟩)] := by
    simp only [mixedWorkspace, Workspace.ofFiles, List.map_cons, List.map_nil, ha, hb, hc]
  have hsettings : Settings.load mixedWorkspace "oxtest.toml" = .ok .defaults := by
    have hclimbed : Workspace.climbed "oxtest.toml" = [] := by decide
    simp only [Settings.load, Workspace.contains, Workspace.find, hclimbed, Workspace.climb,
      Workspace.entry, hentries, hother]
    rfl
  have hreada : mixedWorkspace.read "a.ox" = .ok "click\n" := by
    apply Workspace.read_eq_ok_iff.2
    apply Workspace.find_of_lookup (by decide) (by decide) (by decide)
    rw [hentries, ha]
    rfl
  have hreadb : mixedWorkspace.read "b.ox" = .ok "go_back\nfill css=#a\n" := by
    apply Workspace.read_eq_ok_iff.2
    apply Workspace.find_of_lookup (by decide) (by decide) (by decide)
    rw [hentries, hb]
    rfl
  have hreadc : mixedWorkspace.read "c.ox" = .error .notText := by
    have hfound : mixedWorkspace.find "c.ox" = .ok (.file ⟨#[0xff]⟩) := by
      apply Workspace.find_of_lookup (by decide) (by decide) (by decide)
      rw [hentries, hc]
      rfl
    have hbytes : String.fromUTF8? ⟨#[0xff]⟩ = none := by decide
    simp only [Workspace.read, hfound, hbytes]
  have hparsea : HoldsScript mixedWorkspace "a.ox" ⟨[], [⟨1, .missingSelector .click⟩]⟩ :=
    ⟨_, hreada, by cbv⟩
  have hparseb : HoldsScript mixedWorkspace "b.ox"
      ⟨[⟨1, ⟨.goBack, .ofList [], none⟩⟩], [⟨2, .missingParameter .fill "value"⟩]⟩ :=
    ⟨_, hreadb, by cbv⟩
  have hscripts : HoldScripts mixedWorkspace [("b.ox", _), ("a.ox", _), ("b.ox", _)] :=
    List.forall_mem_cons.2 ⟨hparseb, List.forall_mem_cons.2 ⟨hparsea,
      List.forall_mem_singleton.2 hparseb⟩⟩
  obtain ⟨hpeople, -⟩ := check_reports_all_or_none mixedWorkspace ["b.ox", "a.ox", "b.ox"]
    ⟨none, "oxtest.toml", false⟩ _ hsettings
  obtain ⟨held, hfiles, hheld, hmessages, -, hstatus, -⟩ :=
    hpeople (readable_of_holdScripts hscripts)
  obtain rfl := hheld.unique hscripts hfiles
  obtain ⟨hprograms, -⟩ := check_reports_all_or_none mixedWorkspace ["b.ox", "a.ox", "b.ox"]
    ⟨some .yaml, "oxtest.toml", false⟩ _ hsettings
  obtain ⟨held, hfiles', hheld', hlist, -⟩ := hprograms (readable_of_holdScripts hscripts)
  obtain rfl := hheld'.unique hscripts hfiles'
  obtain ⟨-, hnone⟩ := check_reports_all_or_none mixedWorkspace ["a.ox", "c.ox", "d.ox"]
    ⟨some .json, "oxtest.toml", false⟩ _ hsettings
  obtain ⟨before, file, after, e, hsplit, hbefore, he, -, hprinted, hfailure⟩ :=
    hnone ⟨"c.ox", by decide, _, hreadc⟩
  refine ⟨hsettings, hstatus, ?_, ?_, hprinted, ?_⟩
  · rw [Outcome.messages_of_reports hmessages (Or.inl rfl)]
    decide
  · rw [hlist.2]
    decide +kernel
  · -- only the second of the files can be the first that is not read
    cases before with
    | nil =>
        obtain ⟨rfl, _⟩ := List.cons.inj hsplit
        cases hreada.symm.trans he
    | cons first others =>
        obtain ⟨_, hrest⟩ := List.cons.inj hsplit
        cases others with
        | nil =>
            obtain ⟨rfl, _⟩ := List.cons.inj hrest
            obtain rfl := Except.error.inj (hreadc.symm.trans he)
            rw [hfailure]
            decide
        | cons second others =>
            obtain ⟨rfl, _⟩ := List.cons.inj hrest
            obtain ⟨source, hread⟩ := hbefore "c.ox" (List.mem_cons_of_mem _ List.mem_cons_self)
            cases hreadc.symm.trans hread

end BrowserScript.CommandLine
