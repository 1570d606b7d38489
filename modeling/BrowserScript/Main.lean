/-
# BrowserScript.Main -- the program

Reads the files that the arguments name, runs, writes back the files that have changed, and then
says what was printed and noted. **A file that cannot be written back is one that the run could
not write**: the run is done again with this in its workspace, and what it yields then is said.
The log threshold is taken from the environment variable `RUST_LOG`.
-/
import BrowserScript.CommandLine.Run

open BrowserScript BrowserScript.CommandLine

/-- What is said of an error of the file system. -/
def reasonOf : IO.Error → String
  | .permissionDenied _ code details => details ++ " (os error " ++ toString code ++ ")"
  | .resourceExhausted _ code details => details ++ " (os error " ++ toString code ++ ")"
  | .invalidArgument _ code details => details ++ " (os error " ++ toString code ++ ")"
  | .unsupportedOperation code details => details ++ " (os error " ++ toString code ++ ")"
  | .hardwareFault code details => details ++ " (os error " ++ toString code ++ ")"
  | .resourceBusy code details => details ++ " (os error " ++ toString code ++ ")"
  | .otherError code details => details ++ " (os error " ++ toString code ++ ")"
  | e => toString e

/-- What stands at a path of the file system, if anything does. -/
def entryAt (path : String) : IO (Option Entry) := do
  try
    return some (.file (← IO.FS.readBinFile path))
  catch e =>
    match e with
    | .noFileOrDirectory _ _ _ => return none
    | .inappropriateType _ code _ =>
      return some (if code = 21 then .directory else .unreadable .notDirectory)
    | e => return some (.unreadable (.refused (reasonOf e)))

/-- The text of a path that goes through these names. -/
def pathText : List String → String
  | "/" :: rest => "/" ++ String.intercalate "/" rest
  | ns => String.intercalate "/" ns

/-- What stands at some paths, and at the directories that these go back up from. -/
def entriesAt (paths : List String) : IO (List (List String × Entry)) := do
  let directories := paths.flatMap Workspace.climbed
  let rows := directories.map (fun ns => (ns, pathText ns)) ++
    paths.map fun path => (Workspace.names path, path)
  rows.filterMapM fun (ns, path) => do
    return (← entryAt path).map fun entry => (ns, entry)

/-- Writes into a file of the file system, and says what went wrong. How much of a text got
there is not known when the writing stops. -/
def writeAt (path : String) (content : ByteArray) : IO (Option WriteError) := do
  match ← (IO.FS.Handle.mk path .write).toBaseIO with
  | .error e => return some (.refused (reasonOf e))
  | .ok file =>
    match ← (do file.write content; file.flush : IO Unit).toBaseIO with
    | .error e => return some (.cutShort 0 (reasonOf e))
    | .ok () => return none

/-- Writes back each of the files that a run has changed. The result says which of them could
not be written. -/
def writeChanged (paths : List String) (before after : Workspace) :
    IO (List (List String × WriteError)) :=
  paths.filterMapM fun path => do
    match after.content? path with
    | none => return none
    | some content =>
      if (before.content? path).any (· == content) then return none
      else return (← writeAt path content).map fun e => (Workspace.names path, e)

def main (args : List String) : IO UInt32 := do
  let request := Request.ofArguments args
  let before : Workspace := { entries := ← entriesAt request.paths }
  let intended := request.execute before
  let writeErrors ← writeChanged request.paths before intended.workspace
  let outcome :=
    if writeErrors.isEmpty then intended else request.execute { before with writeErrors }
  let threshold := LogLevel.threshold (← IO.getEnv "RUST_LOG") request.isVerbose
  (← IO.getStderr).putStr (outcome.side threshold)
  (← IO.getStdout).putStr outcome.printed
  return outcome.status.toUInt32
