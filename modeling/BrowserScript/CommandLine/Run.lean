/-
# BrowserScript.CommandLine.Run -- what a run does

A run is a function of what the arguments ask for and of a workspace. Tasks that list or
report load the settings first, **and if that fails they do nothing else**; formatting and
the version numbers do without settings.
-/
import BrowserScript.CommandLine.Arguments
import BrowserScript.CommandLine.Check
import BrowserScript.CommandLine.Format
import BrowserScript.CommandLine.Show

namespace BrowserScript.CommandLine

/-- The version numbers of the program and of the language. -/
def versionText : String :=
  "OXTest CLI v0.1.0\nLanguage core v0.1.0\n"

/-- Does a task that depends on settings, once these are loaded. -/
def withSettings (ws : Workspace) (path : String) (task : Settings → Outcome) : Outcome :=
  match Settings.load ws path with
  | .error e => .failed ws [] ⟨"Failed to load config " ++ path, e.message⟩
  | .ok settings =>
    let loaded := LogEvent.mk .debug "loaded configuration" [("config", settings.describe)]
    let outcome := task settings
    { outcome with notes := .event loaded :: outcome.notes }

/-- Does a task. -/
def runTask (ws : Workspace) (options : Options) : Task → Outcome
  | .check files =>
    withSettings ws options.settings fun s => runCheck ws (s.listFormat options.format) files
  | .parse file skipErrors =>
    withSettings ws options.settings fun s =>
      runParse ws (s.listFormat options.format) (if skipErrors then .skip else s.onError) file
  | .tokens line =>
    withSettings ws options.settings fun s => runTokens ws (s.listFormat options.format) line
  | .format file mode => runFormat ws mode file
  | .version => ⟨0, versionText, [], ws⟩

/-- How the program is called. -/
def usageText : String :=
  "Usage: oxtest [OPTIONS] <COMMAND>\n\n" ++
  "Commands:\n" ++
  "  check <FILES>...        Report every line that fails to parse\n" ++
  "  parse <FILE>            Print the parsed commands of a script [--skip-errors]\n" ++
  "  tokens <LINE>           Print the tokens of a single line\n" ++
  "  fmt <FILE>              Put a script in canonical form [--write | --check]\n" ++
  "  version                 Show version information\n\n" ++
  "Options:\n" ++
  "      --format <FORMAT>   table, json, yaml or plain\n" ++
  "      --config <CONFIG>   Settings file [default: oxtest.toml]\n" ++
  "  -v, --verbose           Enable verbose output\n" ++
  "  -h, --help              Print help\n" ++
  "  -V, --version           Print version\n"

/-- Does what the arguments ask for. -/
def Request.execute (ws : Workspace) : Request → Outcome
  | .run options task => runTask ws options task
  | .showVersion name => ⟨0, name ++ " 0.1.0\n", [], ws⟩
  | .showHelp => ⟨0, usageText, [], ws⟩
  | .refuse => ⟨2, "", [.message usageText], ws⟩

/-- Whether the arguments ask for a talkative run. -/
def Request.isVerbose : Request → Bool
  | .run options _ => options.verbose
  | _ => false

/-- The files that a request may read, by path. -/
def Request.paths : Request → List String
  | .run options task =>
    options.settings ::
      match task with
      | .check files => files
      | .parse file _ => [file]
      | .format file _ => [file]
      | _ => []
  | _ => []

end BrowserScript.CommandLine
