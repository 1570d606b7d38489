/-
# BrowserScript.Settings -- what a settings file decides

A settings file may say what to do about faulty lines, under `on_error`, and how lists
are written, under `format`. **Other keys are ignored, but a value that one of the two
cannot have refuses the whole file.** A missing file stands for the defaults.
-/
import BrowserScript.Listing
import BrowserScript.Script
import BrowserScript.Settings.Toml
import BrowserScript.Workspace

namespace BrowserScript

/-- What a settings file decides. -/
structure Settings where
  onError : ErrorPolicy
  format : Option ListFormat
  deriving DecidableEq, Repr

namespace Settings

/-- The settings without a file. -/
def defaults : Settings :=
  ⟨.abort, none⟩

/-- The path of the settings file unless another is given. -/
def defaultPath : String :=
  "oxtest.toml"

/-- The settings as they are noted down. -/
def describe (s : Settings) : String :=
  let policy := match s.onError with
    | .abort => "Abort"
    | .skip => "Skip"
  let format := match s.format with
    | some f => "Some(" ++ f.label ++ ")"
    | none => "None"
  "OxtestConfig \x7b on_error: " ++ policy ++ ", format: " ++ format ++ " \x7d"

/-- How lists are written: as the run says, else as the file says, else as tables. -/
def listFormat (s : Settings) (given : Option ListFormat) : ListFormat :=
  (given.orElse fun _ => s.format).getD .table

/-- The name that an item stands for: a text, or a table of one name, which stands for
nothing more, that is for a table or a list with nothing in it. -/
def caseName? : Toml.Item → Option String
  | .text name => some name
  | .table _ [(name, .table _ [])] => some name
  | .table _ [(name, .list [])] => some name
  | _ => none

/-- What one of the known keys stands for, or a default where it does not occur. -/
def choice? {α : Type} (ofName? : String → Option α) (default : α) (key : String)
    (entries : Toml.Entries) : Option α :=
  match entries.lookup key with
  | none => some default
  | some item => (caseName? item).bind ofName?

/-- The settings of a file with this text. -/
def ofText? (text : String) : Option Settings := do
  let entries ← Toml.entries? text
  let onError ← choice? ErrorPolicy.ofName? defaults.onError "on_error" entries
  let format ← choice? (fun name => (ListFormat.ofName? name).map some) defaults.format "format"
    entries
  return ⟨onError, format⟩

/-- Why settings cannot be loaded. -/
inductive LoadError where
  | io (e : ReadError)
  | malformed
  deriving DecidableEq, Repr

/-- What is said of settings that cannot be loaded. -/
def LoadError.message : LoadError → String
  | io e => e.message
  | malformed => "TOML parse error: the file is not well formed, or a value is not one of those allowed"

/-- The settings in the file at a path. -/
def load (ws : Workspace) (path : String) : Except LoadError Settings :=
  if ws.contains path then
    match ws.read path with
    | .error e => .error (.io e)
    | .ok text =>
      match ofText? text with
      | some s => .ok s
      | none => .error .malformed
  else .ok defaults

end Settings

end BrowserScript
