/-
# BrowserScript.CommandLine.Level -- reading one level of arguments

There are two levels: the options before the name of the task, and the options and words
after it. On each, the arguments are read from left to right. Options begin with a dash
and `--` ends them; an option of one letter can share its dash with others; an option with
a value takes it after an equals sign or from the next argument, **which must then not
look like an option**.

An option that is given twice on a level is refused. One that asks for the version or for
help takes effect where it stands: what comes after it is not looked at, what comes before
it has been judged.
-/
import BrowserScript.Fields
import BrowserScript.Listing

namespace BrowserScript.CommandLine

/-! ## Options -/

/-- An option. -/
inductive Flag where
  | format
  | config
  | verbose
  | help
  | version
  | skipErrors
  | write
  | check
  deriving DecidableEq, Repr

namespace Flag

/-- The options that hold for every task. -/
def common : List Flag :=
  [format, config, verbose, help, version]

/-- The name of an option after two dashes. -/
def long : Flag → String
  | format => "format"
  | config => "config"
  | verbose => "verbose"
  | help => "help"
  | version => "version"
  | skipErrors => "skip-errors"
  | write => "write"
  | check => "check"

/-- The letter of an option after one dash. -/
def short? : Flag → Option Char
  | verbose => some 'v'
  | help => some 'h'
  | version => some 'V'
  | write => some 'w'
  | _ => none

/-- Whether an option is followed by a value. -/
def takesValue : Flag → Bool
  | format | config => true
  | _ => false

end Flag

/-! ## Reading one level of arguments -/

/-- The words that a task takes. -/
structure Words where
  /-- The least number of words. -/
  least : Nat
  /-- The greatest number of words, if there is one. -/
  most : Option Nat
  /-- Whether a word may be empty. -/
  mayBeEmpty : Bool
  deriving DecidableEq, Repr

/-- What may stand on one level of the arguments. The words of the outer level are not
its own: there the first word ends the reading. -/
structure Level where
  flags : List Flag
  words : Option Words

/-- Why a reading ends before its end. -/
inductive Halt where
  | version
  | help
  | refuse
  deriving DecidableEq, Repr

/-- What has been read on one level. -/
structure Found where
  flags : List Flag
  format : Option ListFormat
  config : Option String
  words : List String
  deriving DecidableEq, Repr

namespace Found

/-- Nothing. -/
def nothing : Found :=
  ⟨[], none, none, []⟩

/-- Adds an option, which is refused the second time and with a value that it cannot
have. -/
def addFlag (found : Found) (flag : Flag) (value : String) : Except Halt Found :=
  if found.flags.contains flag then .error .refuse
  else
    let found := { found with flags := flag :: found.flags }
    match flag with
    | .version => .error .version
    | .help => .error .help
    | .format =>
      match ListFormat.ofName? value with
      | some f => .ok { found with format := some f }
      | none => .error .refuse
    | .config => if value.isEmpty then .error .refuse else .ok { found with config := some value }
    | _ => .ok found

/-- Adds a word, which is refused when there are enough and when it must not be empty. -/
def addWord (words : Words) (found : Found) (word : String) : Except Halt Found :=
  if words.most.any (· ≤ found.words.length) || (word.isEmpty && !words.mayBeEmpty) then
    .error .refuse
  else .ok { found with words := found.words ++ [word] }

/-- Adds the options of a cluster of letters, in order. -/
def addLetters (level : Level) (found : Found) (letters : List Char) : Except Halt Found :=
  letters.foldlM (fun found letter =>
    match level.flags.find? fun f => f.short? == some letter with
    | some flag => found.addFlag flag ""
    | none => .error .refuse) found

end Found

/-- What an argument is. -/
inductive Shape where
  /-- The end of the options. -/
  | separator
  /-- A long option, perhaps with a value after an equals sign. -/
  | long (name : String) (value : Option String)
  /-- Letters of short options. -/
  | letters (cs : List Char)
  | word
  deriving DecidableEq, Repr

/-- The shape of an argument. A single dash is a word. -/
def Shape.of (arg : String) : Shape :=
  match arg.toList with
  | ['-', '-'] => separator
  | '-' :: '-' :: cs =>
    match Fields.assignment? (.ofList cs) with
    | some (name, value) => long name (some value)
    | none => long (.ofList cs) none
  | '-' :: c :: cs => letters (c :: cs)
  | _ => word

/-- Reads arguments on a level. What is left when the reading ends begins with the first
word, if words end it. -/
def readLevel (level : Level) (found : Found) : List String → Except Halt (Found × List String)
  | [] => .ok (found, [])
  | arg :: rest =>
    match Shape.of arg with
    | .separator =>
      match level.words with
      | some words => do return (← rest.foldlM (Found.addWord words) found, [])
      | none => .error .refuse
    | .word =>
      match level.words with
      | some words => do readLevel level (← found.addWord words arg) rest
      | none => .ok (found, arg :: rest)
    | .letters cs => do readLevel level (← found.addLetters level cs) rest
    | .long name value =>
      match level.flags.find? fun f => f.long == name with
      | none => .error .refuse
      | some flag =>
        if flag.takesValue then
          match value with
          | some value => do readLevel level (← found.addFlag flag value) rest
          | none =>
            match rest with
            | [] => .error .refuse
            | value :: rest =>
              if Shape.of value = .word then do readLevel level (← found.addFlag flag value) rest
              else .error .refuse
        else if value.isSome then .error .refuse
        else do readLevel level (← found.addFlag flag "") rest

end BrowserScript.CommandLine
