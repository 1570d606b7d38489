/-
# BrowserScript.CommandLine.Check -- checking scripts

A check reads files in order and reports every line with a fault in any of them. **It
reports everything or nothing**: a file that cannot be read, wherever it stands in the
order, ends the run without a report.
-/
import BrowserScript.CommandLine.Outcome
import BrowserScript.Listing
import BrowserScript.Log.Reading

namespace BrowserScript.CommandLine

/-- A line with a fault, and the file that it is in. -/
structure Issue where
  file : String
  error : LineError
  deriving DecidableEq, Repr

instance : Listed Issue where
  headers := ["File", "Line", "Error"]
  cells i := [i.file, toString i.error.line, i.error.message]
  value i := .record [("file", .text i.file), ("line", .natural i.error.line),
    ("message", .text i.error.message)]

/-- What the check of some files has found. -/
structure Findings where
  issues : List Issue
  commands : Nat
  deriving DecidableEq, Repr

/-- The event of having checked a file. -/
def checkedEvent (file : String) (s : Script) : LogEvent :=
  ⟨.debug, "checked", [("file", file), ("steps", toString s.steps.length),
    ("errors", toString s.errors.length)]⟩

/-- Reads files in order and collects the faults of all of them. **A file that cannot be
read ends the check, and nothing is found.** -/
def checkFiles (ws : Workspace) : List String → List Note × Except Failure Findings
  | [] => ([], .ok ⟨[], 0⟩)
  | file :: files =>
    match ws.read file with
    | .error e => ([], .error ⟨"Failed to read " ++ file, e.message⟩)
    | .ok source =>
      let events := Script.events source .skip
      match Script.parse source .skip with
      | .error e => (events.map .event, .error ⟨e.message, e.message⟩)
      | .ok s =>
        let rest := checkFiles ws files
        (events.map .event ++ .event (checkedEvent file s) :: rest.1,
          rest.2.map fun found =>
            ⟨s.errors.map (⟨file, ·⟩) ++ found.issues, s.steps.length + found.commands⟩)

/-- Checks files. For people each issue is a message, and that there are none is printed;
for programs the issues are printed as a list. -/
def runCheck (ws : Workspace) (format : ListFormat) (files : List String) : Outcome :=
  let (notes, result) := checkFiles ws files
  match result with
  | .error f => .failed ws notes f
  | .ok found =>
    let status := if found.issues.isEmpty then 0 else 1
    if format = .table || format = .plain then
      let messages := found.issues.map fun i => errorNote (i.file ++ ":" ++ i.error.message)
      let printed :=
        if found.issues.isEmpty then
          "✓ " ++ toString files.length ++ " file(s), " ++ toString found.commands ++
            " command(s), no errors\n"
        else ""
      ⟨status, printed, notes ++ messages, ws⟩
    else ⟨status, Listing.render format found.issues, notes, ws⟩

end BrowserScript.CommandLine
