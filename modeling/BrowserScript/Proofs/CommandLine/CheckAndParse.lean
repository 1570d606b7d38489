/-
# BrowserScript.Proofs.CommandLine.CheckAndParse -- two runs over one file

A check and a listing read the same file in different ways. The check always goes on to
the end and reports what it has found; the listing stops at the first fault, or goes on
and warns, as it is told. **They agree on the faults**: one succeeds when the other does,
the fault that a listing stops at is the first one reported, and those that it warns about
are all of them.
-/
import BrowserScript.CommandLine.Run
import BrowserScript.Proofs.Command.Grammar
import BrowserScript.Proofs.CommandLine.Reports
import BrowserScript.Proofs.CommandLine.StepList
import BrowserScript.Proofs.Script.Policies
import BrowserScript.Proofs.Workspace.Writing

namespace BrowserScript

/-! ## Lines that say something -/

namespace Script

/-- The numbers of the lines that are neither blank nor a comment, in order. -/
def spokenLines (source : String) : List Nat :=
  (((lines source).zipIdx 1).filter fun p => ¬ Fields.IsSilent p.1).map Prod.snd

/-- A line has a step when it says something and has no error. -/
theorem map_line_stepAt (p : String × Nat) :
    (stepAt p).map (·.line) =
      if ¬ Fields.IsSilent p.1 ∧ errorAt p = none then some p.2 else none := by
  simp only [← Command.ofText_eq_none_iff]
  unfold stepAt errorAt
  cases Command.ofText p.1 with
  | error fault => simp
  | ok command => cases command <;> simp

/-- No two lines have one number, so that a number with an error is that of a faulty line. -/
theorem mem_map_line_errors_iff {texts : List String} {line : Nat} {p : String × Nat}
    (hp : p ∈ texts.zipIdx line) :
    p.2 ∈ ((texts.zipIdx line).filterMap errorAt).map (·.line) ↔ errorAt p ≠ none := by
  simp only [List.mem_map, List.mem_filterMap, Option.ne_none_iff_exists']
  constructor
  · rintro ⟨e, ⟨q, hq, he⟩, hnumber⟩
    have hline : e.line = q.2 := (Command.ofLine_eq_error_iff.1 (errorAt_eq_some_iff.1 he)).1
    have hsame : q.2 = p.2 := hline.symm.trans hnumber
    obtain ⟨text, n⟩ := p
    obtain ⟨text', m⟩ := q
    obtain rfl : m = n := hsame
    rw [List.mk_mem_zipIdx_iff_le_and_getElem?_sub] at hp hq
    obtain rfl := Option.some.inj (hp.2.symm.trans hq.2)
    exact ⟨e, he⟩
  · rintro ⟨e, he⟩
    exact ⟨e, ⟨p, hp, he⟩, (Command.ofLine_eq_error_iff.1 (errorAt_eq_some_iff.1 he)).1⟩

/-- **Each line that says something has a step or an error**, and the steps are in the order
of their lines. -/
theorem map_line_steps {source : String} {s : Script} (h : parse source .skip = .ok s) :
    s.steps.map (·.line) = (spokenLines source).filter (· ∉ s.errors.map (·.line)) := by
  rw [parse, ofLines_skip] at h
  obtain rfl := Except.ok.inj h
  rw [spokenLines, List.map_filterMap, List.filter_map, List.filter_filter,
    ← List.filterMap_eq_filter, List.map_filterMap]
  apply List.filterMap_congr
  intro p hp
  have hmem := mem_map_line_errors_iff hp
  rw [map_line_stepAt, Option.guard]
  by_cases hsilent : Fields.IsSilent p.1 <;> by_cases herror : errorAt p = none <;>
    simp [hmem, hsilent, herror]

/-- Stopping at faults is reading everything and refusing it if there is an error. -/
theorem parse_abort {source : String} {s : Script} (h : parse source .skip = .ok s) :
    parse source .abort = strict s := by
  rw [parse] at h ⊢
  rw [ofLines_abort, h]
  rfl

end Script

namespace CommandLine

variable {ws : Workspace} {file path source : String} {settings : Settings} {script : Script}

/-! ## Settings -/

/-- Loading the settings adds an event, and no message. -/
theorem withSettings_of_ok (h : Settings.load ws path = .ok settings)
    (task : Settings → Outcome) :
    (withSettings ws path task).status = (task settings).status ∧
      (withSettings ws path task).printed = (task settings).printed ∧
      (withSettings ws path task).messages = (task settings).messages := by
  unfold withSettings
  rw [h]
  exact ⟨rfl, rfl, rfl⟩

/-- A task with settings succeeds when these are loaded and it succeeds with them. -/
theorem status_withSettings_iff {task : Settings → Outcome} :
    (withSettings ws path task).status = 0 ↔
      ∃ settings, Settings.load ws path = .ok settings ∧ (task settings).status = 0 := by
  cases hload : Settings.load ws path with
  | error e => simp [withSettings, hload, Outcome.failed]
  | ok settings => simp [withSettings, hload]

/-! ## Checking files -/

section Findings

variable {files : List String} {events : List LogEvent} {found : Findings}

theorem runCheck_of_failure {f : Failure} (h : checkFiles ws files = (events.map .event, .error f))
    (format : ListFormat) : runCheck ws format files = .failed ws (events.map .event) f := by
  simp only [runCheck, h]

theorem status_of_findings (h : checkFiles ws files = (events.map .event, .ok found))
    (format : ListFormat) :
    (runCheck ws format files).status = if found.issues = [] then 0 else 1 := by
  simp only [runCheck, h, List.isEmpty_iff]
  split <;> rfl

/-- **A check reports the issues that it has found.** -/
theorem reports_of_findings (h : checkFiles ws files = (events.map .event, .ok found))
    (format : ListFormat) : (runCheck ws format files).Reports format found.issues := by
  have hnotes : found.issues.map (fun i => errorNote (i.file ++ ":" ++ i.error.message)) =
      (found.issues.map Issue.asMessage).map Note.message := by
    rw [List.map_map]
    exact List.map_congr_left fun i _ => errorNote_issue i
  have hpeople : ∀ format, (format = .table || format = .plain) = true →
      (runCheck ws format files).messages = found.issues.map Issue.asMessage := by
    intro format hformat
    simp only [runCheck, h, if_pos hformat, hnotes, Outcome.messages, List.filterMap_append,
      filterMap_message?_events, filterMap_message?_messages, List.nil_append]
  have hprograms : ∀ format, ¬ (format = .table || format = .plain) = true →
      (runCheck ws format files).messages = [] ∧
        (runCheck ws format files).printed = Listing.render format found.issues := by
    intro format hformat
    simp only [runCheck, h, if_neg hformat, Outcome.messages, filterMap_message?_events, and_self]
  cases format with
  | table => exact hpeople .table (by decide)
  | plain => exact hpeople .plain (by decide)
  | json =>
      obtain ⟨hmessages, hprinted⟩ := hprograms .json (by decide)
      exact ⟨hmessages, hprinted.trans (render_json_issues found.issues)⟩
  | yaml =>
      obtain ⟨hmessages, hprinted⟩ := hprograms .yaml (by decide)
      exact ⟨hmessages, hprinted.trans (render_yaml_issues found.issues)⟩

end Findings

/-! ## Checking one file -/

theorem status_runCheck_of_unreadable {e : ReadError} (h : ws.read file = .error e)
    (format : ListFormat) : (runCheck ws format [file]).status = 1 := by
  simp only [runCheck, checkFiles, h]
  rfl

theorem checkFiles_single (hread : ws.read file = .ok source)
    (hs : Script.parse source .skip = .ok script) :
    checkFiles ws [file] =
      ((Script.events source .skip ++ [checkedEvent file script]).map .event,
        .ok ⟨script.errors.map (⟨file, ·⟩), script.steps.length⟩) := by
  simp [checkFiles, hread, hs, Except.map]

theorem status_runCheck (hread : ws.read file = .ok source)
    (hs : Script.parse source .skip = .ok script) (format : ListFormat) :
    (runCheck ws format [file]).status = if script.errors = [] then 0 else 1 := by
  simp only [status_of_findings (checkFiles_single hread hs) format, List.map_eq_nil_iff]

/-- **A check of one file reports the errors of its script.** -/
theorem reports_runCheck (hread : ws.read file = .ok source)
    (hs : Script.parse source .skip = .ok script) (format : ListFormat) :
    (runCheck ws format [file]).Reports format (script.errors.map (⟨file, ·⟩)) :=
  reports_of_findings (checkFiles_single hread hs) format

/-! ## Listing one file -/

theorem status_runParse_of_unreadable {e : ReadError} (h : ws.read file = .error e)
    (format : ListFormat) (policy : ErrorPolicy) : (runParse ws format policy file).status = 1 := by
  simp only [runParse, Script.load, h]
  rfl

theorem runParse_of_ok {policy : ErrorPolicy} (hread : ws.read file = .ok source)
    (hs : Script.parse source policy = .ok script) (format : ListFormat) :
    runParse ws format policy file =
      ⟨0, Listing.render format script.steps,
        (loadingEvent file :: Script.events source policy).map .event ++
          (script.errors.map fun e => "! skipped " ++ e.message).map .message, ws⟩ := by
  simp [runParse, Script.load, hread, hs, Except.mapError]

theorem runParse_of_error {policy : ErrorPolicy} {e : LineError}
    (hread : ws.read file = .ok source) (he : Script.parse source policy = .error e)
    (format : ListFormat) :
    runParse ws format policy file =
      .failed ws ((loadingEvent file :: Script.events source policy).map .event)
        ⟨"Parse error: " ++ e.message, e.message⟩ := by
  simp [runParse, Script.load, hread, he, Except.mapError, LoadError.message, LoadError.cause]

/-- A listing that is not told otherwise stops at the first error of the script. -/
theorem runParse_abort_of_errors {e : LineError} {es : List LineError}
    (hread : ws.read file = .ok source) (hs : Script.parse source .skip = .ok script)
    (herrors : script.errors = e :: es) (format : ListFormat) :
    runParse ws format .abort file =
      .failed ws ((loadingEvent file :: Script.events source .abort).map .event)
        ⟨"Parse error: " ++ e.message, e.message⟩ := by
  apply runParse_of_error hread
  rw [Script.parse_abort hs, Script.strict_eq_error_iff, herrors]
  rfl

/-! ## When the runs succeed -/

/-- The file can be read, and its script has no errors. -/
def IsFaultless (ws : Workspace) (file : String) : Prop :=
  ∃ source script, ws.read file = .ok source ∧ Script.parse source .skip = .ok script ∧
    script.errors = []

theorem isFaultless_iff (hread : ws.read file = .ok source)
    (hs : Script.parse source .skip = .ok script) : IsFaultless ws file ↔ script.errors = [] := by
  constructor
  · rintro ⟨source', script', hread', hs', hnone⟩
    obtain rfl := Except.ok.inj (hread.symm.trans hread')
    obtain rfl := Except.ok.inj (hs.symm.trans hs')
    exact hnone
  · exact fun hnone => ⟨source, script, hread, hs, hnone⟩

theorem not_isFaultless_of_unreadable {e : ReadError} (h : ws.read file = .error e) :
    ¬ IsFaultless ws file := by
  rintro ⟨source, _, hread, _⟩
  exact absurd (h.symm.trans hread) nofun

/-- **A check succeeds for a faultless file only.** -/
theorem status_runCheck_iff (format : ListFormat) :
    (runCheck ws format [file]).status = 0 ↔ IsFaultless ws file := by
  cases hread : ws.read file with
  | error e =>
      rw [status_runCheck_of_unreadable hread]
      exact iff_of_false Nat.one_ne_zero (not_isFaultless_of_unreadable hread)
  | ok source =>
      obtain ⟨script, hs⟩ := Script.exists_parse_skip source
      rw [status_runCheck hread hs, isFaultless_iff hread hs]
      simp

/-- **A listing that stops at faults succeeds for a faultless file only.** -/
theorem status_runParse_abort_iff (format : ListFormat) :
    (runParse ws format .abort file).status = 0 ↔ IsFaultless ws file := by
  cases hread : ws.read file with
  | error e =>
      rw [status_runParse_of_unreadable hread]
      exact iff_of_false Nat.one_ne_zero (not_isFaultless_of_unreadable hread)
  | ok source =>
      obtain ⟨script, hs⟩ := Script.exists_parse_skip source
      rw [isFaultless_iff hread hs]
      cases herrors : script.errors with
      | nil =>
          have hstrict : Script.parse source .abort = .ok script := by
            rw [Script.parse_abort hs]
            exact Script.strict_eq_ok_iff.2 ⟨herrors, rfl⟩
          rw [runParse_of_ok hread hstrict]
          exact iff_of_true rfl rfl
      | cons e es =>
          rw [runParse_abort_of_errors hread hs herrors]
          exact iff_of_false Nat.one_ne_zero (List.cons_ne_nil e es)

theorem eq_abort_of_ne_skip {policy : ErrorPolicy} (h : policy ≠ .skip) : policy = .abort := by
  cases policy with
  | abort => rfl
  | skip => exact absurd rfl h

/-! ## Both runs -/

/-- **A check and a listing of one file agree**, for every content of the file, in all formats
and for all settings. When the settings do not say that faults are skipped, the one succeeds
if and only if the other does, and a listing that fails for a fault says the first issue that
the check reports. A listing that skips faults succeeds and warns about the issues that the
check reports; it lists the other lines that are neither blank nor a comment, as JSON in a way that
has one reading. -/
theorem check_and_parse_agree (ws : Workspace) (file : String) (options options' : Options)
    (hsame : options'.settings = options.settings) :
    ((∀ settings, Settings.load ws options.settings = .ok settings → settings.onError ≠ .skip) →
      ((runTask ws options' (.parse file false)).status = 0 ↔
        (runTask ws options (.check [file])).status = 0)) ∧
    ∀ settings source, Settings.load ws options.settings = .ok settings →
      ws.read file = .ok source →
      ∃ script issues, Script.parse source .skip = .ok script ∧
        issues = script.errors.map (⟨file, ·⟩) ∧
        (runTask ws options (.check [file])).Reports (settings.listFormat options.format) issues ∧
        (settings.onError ≠ .skip → ∀ i others, issues = i :: others →
          (runTask ws options' (.parse file false)).status = 1 ∧
          (runTask ws options' (.parse file false)).printed = "" ∧
          (runTask ws options' (.parse file false)).messages =
            ["Error: Parse error: " ++ i.text ++ "\n\nCaused by:\n    " ++ i.text]) ∧
        (runTask ws options' (.parse file true)).status = 0 ∧
        (runTask ws options' (.parse file true)).messages =
          issues.map (fun i => "! skipped " ++ i.text) ∧
        (runTask ws options' (.parse file true)).printed =
          stepList (settings.listFormat options'.format) script.steps ∧
        (∀ steps, stepList .json steps = stepList .json script.steps → steps = script.steps) ∧
        script.steps.map (·.line) =
          (Script.spokenLines source).filter (· ∉ issues.map (·.error.line)) := by
  refine ⟨fun habort => ?_, fun settings source hsettings hread => ?_⟩
  · simp only [runTask, status_withSettings_iff, status_runCheck_iff, hsame, Bool.false_eq_true,
      if_false]
    refine exists_congr fun settings => and_congr_right fun hsettings => ?_
    rw [eq_abort_of_ne_skip (habort settings hsettings), status_runParse_abort_iff]
  · obtain ⟨script, hs⟩ := Script.exists_parse_skip source
    have hsettings' : Settings.load ws options'.settings = .ok settings := hsame ▸ hsettings
    refine ⟨script, _, hs, rfl, ?check, fun hpolicy i others hissues => ?stopped, ?skipped⟩
    case check =>
      obtain ⟨-, hprinted, hmessages⟩ := withSettings_of_ok hsettings
        fun s => runCheck ws (s.listFormat options.format) [file]
      exact (Outcome.reports_congr hmessages hprinted).2
        (reports_runCheck hread hs (settings.listFormat options.format))
    case stopped =>
      obtain ⟨hstatus, hprinted, hmessages⟩ := withSettings_of_ok hsettings'
        fun s => runParse ws (s.listFormat options'.format) (if false then .skip else s.onError) file
      obtain ⟨e, es, herrors, rfl, -⟩ := List.map_eq_cons_iff.1 hissues
      have hrun := runParse_abort_of_errors hread hs herrors (settings.listFormat options'.format)
      rw [if_neg Bool.false_ne_true, eq_abort_of_ne_skip hpolicy, hrun] at hstatus hprinted hmessages
      rw [messages_failed, Failure.message_append] at hmessages
      exact ⟨hstatus, hprinted, hmessages⟩
    case skipped =>
      obtain ⟨hstatus, hprinted, hmessages⟩ := withSettings_of_ok hsettings'
        fun s => runParse ws (s.listFormat options'.format) (if true then .skip else s.onError) file
      rw [if_pos rfl, runParse_of_ok hread hs] at hstatus hprinted hmessages
      rw [List.map_map, List.map_map]
      refine ⟨hstatus, hmessages.trans ?_, hprinted.trans (render_steps hs _),
        fun _ hlist => stepList_json_injective hlist, Script.map_line_steps hs⟩
      rw [Outcome.messages, List.filterMap_append, filterMap_message?_events,
        filterMap_message?_messages, List.nil_append]
      rfl

/-- A script with a comment, a faulty line, a blank line and a good one, beside no settings. -/
def faultyWorkspace : Workspace :=
  .ofFiles [("a.ox", "# c\nclick\n\ngo_back\n".toUTF8)]

/-- The faulty line is reported, ends a listing and is skipped by another, which lists the
good one. -/
theorem check_and_parse_agree_click :
    Settings.load faultyWorkspace "oxtest.toml" = .ok .defaults ∧
      faultyWorkspace.read "a.ox" = .ok "# c\nclick\n\ngo_back\n" ∧
      ((runTask faultyWorkspace ⟨some .table, "oxtest.toml", false⟩ (.parse "a.ox" false)).status =
          0 ↔
        (runTask faultyWorkspace ⟨none, "oxtest.toml", false⟩ (.check ["a.ox"])).status = 0) ∧
      (runTask faultyWorkspace ⟨none, "oxtest.toml", false⟩ (.check ["a.ox"])).messages =
        ["✗ a.ox:line 2: click requires a selector"] ∧
      (runTask faultyWorkspace ⟨some .json, "oxtest.toml", false⟩ (.check ["a.ox"])).printed =
        "[\n  \x7b\n    \"file\": \"a.ox\",\n    \"line\": 2,\n" ++
          "    \"message\": \"line 2: click requires a selector\"\n  \x7d\n]\n" ∧
      (runTask faultyWorkspace ⟨some .table, "oxtest.toml", false⟩ (.parse "a.ox" false)).messages =
        ["Error: Parse error: line 2: click requires a selector\n\nCaused by:\n" ++
          "    line 2: click requires a selector"] ∧
      (runTask faultyWorkspace ⟨some .table, "oxtest.toml", false⟩ (.parse "a.ox" true)).messages =
        ["! skipped line 2: click requires a selector"] ∧
      (runTask faultyWorkspace ⟨some .table, "oxtest.toml", false⟩ (.parse "a.ox" true)).printed =
        "┌──────┬─────────┬──────────┬────────┐\n" ++
        "│ Line ┆ Command ┆ Selector ┆ Params │\n" ++
        "╞══════╪═════════╪══════════╪════════╡\n" ++
        "│ 4    ┆ goBack  ┆ -        ┆        │\n" ++
        "└──────┴─────────┴──────────┴────────┘\n" ∧
      (runTask faultyWorkspace ⟨some .yaml, "oxtest.toml", false⟩ (.parse "a.ox" true)).printed =
        "- line: 4\n  type: goBack\n  params: \x7b\x7d\n  selector: null\n" := by
  have hscript : Workspace.names "a.ox" = ["a.ox"] := by decide
  have hother : Workspace.names "oxtest.toml" = ["oxtest.toml"] := by decide
  have hentries : faultyWorkspace.entries =
      [(["a.ox"], .file "# c\nclick\n\ngo_back\n".toUTF8)] := by
    simp only [faultyWorkspace, Workspace.ofFiles, List.map_cons, List.map_nil, hscript]
  have hread : faultyWorkspace.read "a.ox" = .ok "# c\nclick\n\ngo_back\n" := by
    apply Workspace.read_eq_ok_iff.2
    apply Workspace.find_of_lookup (by decide) (by decide) (by decide)
    rw [hentries, hscript]
    rfl
  have hsettings : Settings.load faultyWorkspace "oxtest.toml" = .ok .defaults := by
    have hclimbed : Workspace.climbed "oxtest.toml" = [] := by decide
    simp only [Settings.load, Workspace.contains, Workspace.find, hclimbed, Workspace.climb,
      Workspace.entry, hentries, hother]
    rfl
  have hparse : Script.parse "# c\nclick\n\ngo_back\n" .skip =
      .ok ⟨[⟨4, ⟨.goBack, .ofList [], none⟩⟩], [⟨2, .missingSelector .click⟩]⟩ := by cbv
  have hpeople := check_and_parse_agree faultyWorkspace "a.ox"
    ⟨none, "oxtest.toml", false⟩ ⟨some .table, "oxtest.toml", false⟩ rfl
  have hprograms := check_and_parse_agree faultyWorkspace "a.ox"
    ⟨some .json, "oxtest.toml", false⟩ ⟨some .yaml, "oxtest.toml", false⟩ rfl
  have habort : ∀ settings, Settings.load faultyWorkspace "oxtest.toml" = .ok settings →
      settings.onError ≠ .skip := by
    rw [hsettings]
    rintro _ ⟨⟩
    decide
  obtain ⟨script, _, hs, rfl, hchecked, hstopped, -, hwarned, htable, -⟩ :=
    hpeople.2 _ _ hsettings hread
  obtain rfl := Except.ok.inj (hparse.symm.trans hs)
  obtain ⟨script, _, hs', rfl, hjson, -, -, -, hyaml, -⟩ := hprograms.2 _ _ hsettings hread
  obtain rfl := Except.ok.inj (hparse.symm.trans hs')
  refine ⟨hsettings, hread, hpeople.1 habort, ?_, ?_, ?_, ?_, ?_, ?_⟩
  · rw [Outcome.messages_of_reports hchecked (Or.inl rfl)]
    decide
  · rw [hjson.2]
    decide +kernel
  · rw [(hstopped (habort _ hsettings) _ _ rfl).2.2]
    decide
  · rw [hwarned]
    decide
  · rw [htable]
    decide +kernel
  · rw [hyaml]
    decide +kernel

end CommandLine

end BrowserScript
