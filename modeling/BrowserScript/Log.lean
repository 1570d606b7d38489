/-
# BrowserScript.Log -- what a run notes down

An event has a level, a message and named details. Whether it is written depends on a
threshold only: **an event is written when its level is at least as grave as the
threshold**, and with no threshold nothing is. A message can hold the name of a file, so
what would steer a terminal is shown in it as an escape; details are written as they are.
-/
import BrowserScript.Text.Numeral

namespace BrowserScript

/-- How grave an event is, from the gravest on. -/
inductive LogLevel where
  | error
  | warn
  | info
  | debug
  | trace
  deriving DecidableEq, Repr

namespace LogLevel

/-- The levels, the gravest first. -/
def all : List LogLevel :=
  [error, warn, info, debug, trace]

/-- The name of a level in a setting. -/
def name : LogLevel → String
  | error => "error"
  | warn => "warn"
  | info => "info"
  | debug => "debug"
  | trace => "trace"

/-- The name of a level in a written event. -/
def label : LogLevel → String
  | error => "ERROR"
  | warn => "WARN"
  | info => "INFO"
  | debug => "DEBUG"
  | trace => "TRACE"

/-- The rank of a level; graver levels have lower ranks. -/
def rank : LogLevel → Nat
  | error => 0
  | warn => 1
  | info => 2
  | debug => 3
  | trace => 4

/-- The level that a setting names, in letters of any case or by its number, the gravest
level being the first. -/
def ofSetting? (setting : String) : Option LogLevel :=
  let number := (Numeral.digits? 10 setting.toList).map (Numeral.ofDigits 10)
  all.find? fun l => l.name == setting.toLower || number == some (l.rank + 1)

/-- The threshold of a run. A setting decides if there is one, and it turns the log off
unless it names a level; otherwise a run that is to be talkative begins at `debug` and
any other at `warn`. -/
def threshold (setting : Option String) (verbose : Bool) : Option LogLevel :=
  match setting with
  | some s => ofSetting? s
  | none => some (if verbose then debug else warn)

end LogLevel

/-- Something that a run notes down. -/
structure LogEvent where
  level : LogLevel
  message : String
  details : List (String × String)
  deriving DecidableEq, Repr

namespace LogEvent

/-- A character as a message shows it: the bell, the backspace, the form feed, the escape
and all from the delete on to the end of the second row of controls as their numbers, any
other as it is. -/
def shown (c : Char) : List Char :=
  let hex := Nat.toDigits 16 c.toNat
  if c = '\x07' ∨ c = '\x08' ∨ c = '\x0c' then ['\\', 'x', '0'] ++ hex
  else if c = '\x1b' ∨ c = '\x7f' then ['\\', 'x'] ++ hex
  else if 0x80 ≤ c.toNat ∧ c.toNat ≤ 0x9f then ['\\', 'u', '\x7b'] ++ hex ++ ['\x7d']
  else [c]

/-- The line of an event. -/
def render (e : LogEvent) : String :=
  e.level.label ++ " " ++ String.ofList (e.message.toList.flatMap shown) ++
    String.join (e.details.map fun d => " " ++ d.1 ++ "=" ++ d.2)

/-- Whether an event is written under a threshold. -/
def passes (threshold : Option LogLevel) (e : LogEvent) : Bool :=
  match threshold with
  | none => false
  | some t => e.level.rank ≤ t.rank

end LogEvent

end BrowserScript
