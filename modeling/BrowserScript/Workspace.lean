/-
# BrowserScript.Workspace -- the files that a run can see

A workspace holds files by path. **A path is the row of names that it comes to**: single dots
and doubled slashes do not count, and two dots lead back up out of a directory, which has to be
there. So a file can be reached by several spellings of one path. The directories of a
workspace are the paths that lead to its files, and the directory that it stands in itself.
There are no links: paths that come to different names lead to different things, and a path
that leaves the directory of the workspace does not come back into it.

A file may be one that cannot be read, and one that cannot be written. A writing that fails
either leaves the file as it is or stops after a part of the text.
-/

namespace BrowserScript

/-- Why a file cannot be read. -/
inductive ReadError where
  | missing
  | notDirectory
  | isDirectory
  | notText
  | refused (reason : String)
  deriving DecidableEq, Repr

/-- What is said of a file that cannot be read. -/
def ReadError.message : ReadError → String
  | missing => "No such file or directory (os error 2)"
  | notDirectory => "Not a directory (os error 20)"
  | isDirectory => "Is a directory (os error 21)"
  | notText => "stream did not contain valid UTF-8"
  | refused reason => reason

/-- What stands at a path. -/
inductive Entry where
  | file (content : ByteArray)
  | directory
  | unreadable (e : ReadError)

/-- Whether a file stands at a path. -/
def Entry.isFile : Entry → Bool
  | file _ => true
  | _ => false

/-- Why a file cannot be written, and how far the writing gets. -/
inductive WriteError where
  /-- The file is not opened. -/
  | refused (reason : String)
  /-- The file is emptied, and the writing stops after some bytes. -/
  | cutShort (bytes : Nat) (reason : String)
  deriving DecidableEq, Repr

/-- What is said of a file that cannot be written. -/
def WriteError.message : WriteError → String
  | refused reason => reason
  | cutShort _ reason => reason

/-- What is in a file after a writing that failed, from what was there and what was to be. -/
def WriteError.left (old new : ByteArray) : WriteError → ByteArray
  | refused _ => old
  | cutShort bytes _ => new.extract 0 bytes

/-- Files by path, and the errors in which writing to some of them ends. -/
structure Workspace where
  entries : List (List String × Entry)
  writeErrors : List (List String × WriteError) := []

namespace Workspace

/-! ## Paths -/

/-- The pieces of a path between its slashes. -/
def segments (path : String) : List String :=
  (path.toList.splitOn '/').map String.ofList

/-- How far a walk along a path has come, and the directories that it went back up from. -/
structure Walk where
  here : List String
  climbed : List (List String)

/-- One name further. Two dots take back the last name; the root has nothing above it, and
what is above the start of a path that does not begin at the root is kept as it is. -/
def Walk.step (w : Walk) (name : String) : Walk :=
  if name = ".." then
    match w.here.getLast? with
    | some last =>
      if last = "/" then w
      else if last = ".." then { w with here := w.here ++ [name] }
      else ⟨w.here.dropLast, w.climbed ++ [w.here]⟩
    | none => { w with here := [name] }
  else { w with here := w.here ++ [name] }

/-- The walk along a path. A path that begins at the root has a slash as its first name. -/
def walk (path : String) : Walk :=
  let start := if path.toList.head? = some '/' then ["/"] else []
  ((segments path).filter fun n => n != "" && n != ".").foldl Walk.step ⟨start, []⟩

/-- The names that a path comes to. -/
def names (path : String) : List String :=
  (walk path).here

/-- The directories that a path goes back up from. -/
def climbed (path : String) : List (List String) :=
  (walk path).climbed

example : names "d/./../a.ox" = ["a.ox"] ∧ climbed "d/./../a.ox" = [["d"]] := by decide

/-- Whether a path says that a directory stands there, by ending in a slash or a dot. -/
def namesDirectory (path : String) : Bool :=
  match (segments path).getLast? with
  | some last => last == "" || last == "."
  | none => false

/-! ## Looking up and reading -/

/-- What stands at a row of names. -/
def entry (ws : Workspace) (ns : List String) : Except ReadError Entry :=
  match ws.entries.lookup ns with
  | some (.unreadable e) => .error e
  | some e => .ok e
  | none =>
    if ns.all (· == "..") || ns == ["/"] || ws.entries.any (fun e => ns.isPrefixOf e.1) then
      .ok .directory
    else if ws.entries.any fun e => e.1.isPrefixOf ns && e.2.isFile then .error .notDirectory
    else .error .missing

/-- Goes back up from directories, each of which has to be there. -/
def climb (ws : Workspace) : List (List String) → Except ReadError Unit
  | [] => .ok ()
  | ns :: rest =>
    match ws.entry ns with
    | .ok .directory => ws.climb rest
    | .ok _ => .error .notDirectory
    | .error e => .error e

/-- What stands at a path. -/
def find (ws : Workspace) (path : String) : Except ReadError Entry :=
  if path.isEmpty then .error .missing
  else
    match ws.climb (climbed path) with
    | .error e => .error e
    | .ok () =>
      match ws.entry (names path) with
      | .ok e => if e.isFile && namesDirectory path then .error .notDirectory else .ok e
      | .error e => .error e

/-- Whether anything stands at a path, readable or not. -/
def contains (ws : Workspace) (path : String) : Bool :=
  match ws.find path with
  | .error .missing => false
  | .error .notDirectory => false
  | _ => true

/-- The text of the file at a path. -/
def read (ws : Workspace) (path : String) : Except ReadError String :=
  match ws.find path with
  | .error e => .error e
  | .ok .directory => .error .isDirectory
  | .ok (.unreadable e) => .error e
  | .ok (.file content) =>
    match String.fromUTF8? content with
    | some text => .ok text
    | none => .error .notText

/-- The content of the file at a path, as bytes. -/
def content? (ws : Workspace) (path : String) : Option ByteArray :=
  match ws.entries.lookup (names path) with
  | some (.file content) => some content
  | _ => none

/-! ## Making and changing -/

/-- The workspace of these files, all of which can be written. -/
def ofFiles (files : List (String × ByteArray)) : Workspace :=
  { entries := files.map fun f => (names f.1, .file f.2) }

/-- Puts bytes into the file at a path, in place of those in it. -/
def put (ws : Workspace) (path : String) (content : ByteArray) : Workspace :=
  { ws with
    entries := ws.entries.map fun e => if e.1 = names path then (e.1, .file content) else e }

/-- The error in which writing to the file at a path ends, if it fails. -/
def writeError? (ws : Workspace) (path : String) : Option WriteError :=
  ws.writeErrors.lookup (names path)

/-- Writes a text into the file at a path: the workspace afterwards, and what went wrong, if
anything did. -/
def write (ws : Workspace) (path text : String) : Workspace × Option WriteError :=
  match ws.writeError? path with
  | none => (ws.put path text.toUTF8, none)
  | some (.refused reason) => (ws, some (.refused reason))
  | some (.cutShort bytes reason) =>
    (ws.put path (text.toUTF8.extract 0 bytes), some (.cutShort bytes reason))

end Workspace

end BrowserScript
