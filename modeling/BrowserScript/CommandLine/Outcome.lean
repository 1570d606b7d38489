/-
# BrowserScript.CommandLine.Outcome -- what a run yields

A run yields an exit status, what is printed, what is noted on the side, and the workspace
after it. **The files that a run changes are those in which the workspaces before and
after it differ.** Everything that can fail is a `Failure`, which ends the run with status
one and nothing printed; what was noted before it stays noted.
-/
import BrowserScript.Log
import BrowserScript.Workspace

namespace BrowserScript.CommandLine

/-- Something that is written on the side of what is printed. -/
inductive Note where
  | event (e : LogEvent)
  | message (text : String)
  deriving DecidableEq, Repr

/-- The text of a note under a threshold for events. -/
def Note.render (threshold : Option LogLevel) : Note → String
  | event e => if e.passes threshold then e.render ++ "\n" else ""
  | message text => text ++ "\n"

/-- What ends a run, and what caused it. -/
structure Failure where
  text : String
  cause : String
  deriving DecidableEq, Repr

/-- What is said of a failure. -/
def Failure.message (f : Failure) : String :=
  "Error: " ++ f.text ++ "\n\nCaused by:\n    " ++ f.cause

theorem Failure.message_append (what about cause : String) :
    (Failure.mk (what ++ about) cause).message =
      "Error: " ++ what ++ about ++ "\n\nCaused by:\n    " ++ cause := by
  rw [Failure.message, ← String.append_assoc]

/-- What a run yields. -/
structure Outcome where
  status : Nat
  printed : String
  notes : List Note
  workspace : Workspace

/-- All that a run writes on the side. -/
def Outcome.side (o : Outcome) (threshold : Option LogLevel) : String :=
  String.join (o.notes.map (Note.render threshold))

/-- A run that fails after some notes. -/
def Outcome.failed (ws : Workspace) (notes : List Note) (f : Failure) : Outcome :=
  ⟨1, "", notes ++ [.message f.message], ws⟩

/-- A message of something that is wrong. -/
def errorNote (text : String) : Note :=
  .message ("✗ " ++ text)

end BrowserScript.CommandLine
