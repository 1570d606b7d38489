/-
# BrowserScript.CommandLine.Arguments -- what the arguments ask for

The first argument that is no option names the task, whose own options and words follow.
The options that hold for every task may stand on either side of the name; **given on both
sides, the inner one counts**.
-/
import BrowserScript.CommandLine.Level
import BrowserScript.CommandLine.Request

namespace BrowserScript.CommandLine

/-- The kinds of task. -/
inductive TaskKind where
  | check
  | parse
  | tokens
  | format
  | version
  deriving DecidableEq, Repr

namespace TaskKind

/-- Every kind of task. -/
def all : List TaskKind :=
  [check, parse, tokens, format, version]

/-- The word that asks for a task. -/
def name : TaskKind → String
  | check => "check"
  | parse => "parse"
  | tokens => "tokens"
  | format => "fmt"
  | version => "version"

/-- What may follow the name of a task. -/
def level : TaskKind → Level
  | check => ⟨Flag.common, some ⟨1, none, false⟩⟩
  | parse => ⟨.skipErrors :: Flag.common, some ⟨1, some 1, false⟩⟩
  | tokens => ⟨Flag.common, some ⟨1, some 1, true⟩⟩
  | format => ⟨.write :: .check :: Flag.common, some ⟨1, some 1, false⟩⟩
  | version => ⟨Flag.common, some ⟨0, some 0, true⟩⟩

/-- The task of a kind, from what stands after its name. -/
def task? (kind : TaskKind) (found : Found) : Option Task :=
  let has := found.flags.contains
  match kind, found.words with
  | check, file :: files => some (.check (file :: files))
  | parse, [file] => some (.parse file (has .skipErrors))
  | tokens, [line] => some (.tokens line)
  | format, [file] =>
    if has .write && has .check then none
    else some (.format file (if has .write then .write else if has .check then .check else .print))
  | version, [] => some .version
  | _, _ => none

end TaskKind

/-- The outer level: the options that hold for every task, and then its name. -/
def outerLevel : Level :=
  ⟨Flag.common, none⟩

/-- The options of a run, the inner ones first. -/
def Options.ofFound (inner outer : Found) : Options where
  format := inner.format.orElse fun _ => outer.format
  settings := (inner.config.orElse fun _ => outer.config).getD Settings.defaultPath
  verbose := inner.flags.contains .verbose || outer.flags.contains .verbose

/-- What is asked for by a reading that ended before its end. -/
def Request.ofHalt (name : String) : Halt → Request
  | .version => .showVersion name
  | .help => .showHelp
  | .refuse => .refuse

/-- The name of the program. -/
def programName : String :=
  "oxtest"

/-- What the arguments ask for. -/
def Request.ofArguments (args : List String) : Request :=
  match readLevel outerLevel .nothing args with
  | .error halt => .ofHalt programName halt
  | .ok (_, []) => .refuse
  | .ok (outer, word :: rest) =>
    match TaskKind.all.find? fun k => k.name == word with
    | none => if word = "help" then .showHelp else .refuse
    | some kind =>
      match readLevel kind.level .nothing rest with
      | .error halt => .ofHalt (programName ++ "-" ++ kind.name) halt
      | .ok (inner, _) =>
        match kind.task? inner with
        | some task => .run (.ofFound inner outer) task
        | none => .refuse

end BrowserScript.CommandLine
