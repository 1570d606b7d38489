/-
# BrowserScript.CommandLine.Format -- putting scripts in canonical form

The canonical form of a script is printed, compared with the script, or written back in
its place. **No settings have a say in it, and a file that is in canonical form already is
not written.** A writing that fails ends the run.
-/
import BrowserScript.CommandLine.Outcome
import BrowserScript.CommandLine.Request
import BrowserScript.Log.Reading
import BrowserScript.Script.Format

namespace BrowserScript.CommandLine

/-- Puts a script in canonical form, and prints it, compares it or writes it back. **The
file is written only if it changes.** -/
def runFormat (ws : Workspace) (mode : FormatMode) (file : String) : Outcome :=
  match ws.read file with
  | .error e => .failed ws [] ⟨"Failed to read " ++ file, e.message⟩
  | .ok source =>
    let notes := (Script.formatEvents source).map Note.event
    let formatted := Script.format source
    match mode with
    | .print => ⟨0, formatted, notes, ws⟩
    | .check =>
      if formatted = source then ⟨0, "", notes, ws⟩
      else ⟨1, "", notes ++ [errorNote (file ++ " is not formatted")], ws⟩
    | .write =>
      if formatted = source then ⟨0, "", notes, ws⟩
      else
        match ws.write file formatted with
        | (after, none) => ⟨0, "", notes ++ [.event ⟨.info, "Formatted " ++ file, []⟩], after⟩
        | (after, some e) => .failed after notes ⟨"Failed to write " ++ file, e.message⟩

end BrowserScript.CommandLine
