import Promptline.CommandLine.Resemblance
import Promptline.Number.Writing
import Promptline.Text.Quoted

/-! The arguments of the command line: the switches that they give, with their values, and what is
left over. -/

namespace Promptline.CommandLine

open Promptline.Number

/-- A switch of the command line. -/
inductive Switch where
  | database | noDatabase | log | threshold | eagerness | version | help
deriving DecidableEq, Repr

namespace Switch

def all : List Switch := [.database, .noDatabase, .log, .threshold, .eagerness, .version, .help]

/-- The word that gives a switch. -/
def word : Switch → String
  | .database => "--db"
  | .noDatabase => "--no-db"
  | .log => "--log"
  | .threshold => "--stale-threshold"
  | .eagerness => "--eagerness"
  | .version => "--version"
  | .help => "--help"

/-- The switch that a word gives. -/
def ofWord? (word : String) : Option Switch := all.find? (·.word = word)

/-- A switch comes with a value. -/
def takesValue : Switch → Bool
  | .database | .log | .threshold | .eagerness => true
  | .noDatabase | .version | .help => false

end Switch

/-- Why the arguments cannot be followed. -/
inductive UsageError where
  | missingValue (s : Switch)
  | unwantedValue (s : Switch)
  /-- No switch has the word, but perhaps some resemble it. -/
  | unknownSwitch (word : String) (similar : List String)
  | directory (s : Switch) (path : String)
  | notAnInteger (s : Switch) (value : String)
  | notANumber (s : Switch) (value : String)
  | negative (s : Switch) (value : Binary64)
  | unexpected (arguments : List String)
deriving DecidableEq, Repr

namespace UsageError

/-- The text of an error in the value of a switch. -/
def invalid (s : Switch) (reason : String) : String := s!"Invalid value for '{s.word}': {reason}"

/-- The words that may have been meant, after an error. -/
def hint (similar : List String) : String :=
  match similar.map Text.quoted with
  | [] => ""
  | [word] => s!" Did you mean {word}?"
  | words => " (Possible options: " ++ ", ".intercalate words ++ ")"

def message : UsageError → String
  | .missingValue s => s!"Option '{s.word}' requires an argument."
  | .unwantedValue s => s!"Option '{s.word}' does not take a value."
  | .unknownSwitch word similar => s!"No such option {Text.quoted word}." ++ hint similar
  | .directory s path => invalid s s!"File {Text.quoted path} is a directory."
  | .notAnInteger s value => invalid s s!"{Text.quoted value} is not a valid integer."
  | .notANumber s value => invalid s s!"{Text.quoted value} is not a valid float range."
  | .negative s value => invalid s s!"{value.shortest} is not in the range x>=0.0."
  | .unexpected arguments =>
    let noun := if arguments.length = 1 then "argument" else "arguments"
    let list := " ".intercalate arguments
    s!"Got unexpected extra {noun} ({list})"

/-- The error stands alone, without a reminder of the usage. -/
def standsAlone : UsageError → Bool
  | .missingValue _ | .unwantedValue _ => true
  | _ => false

end UsageError

/-- The arguments as they have been read. -/
structure Arguments where
  /-- The switches as they were given, each with its value, which is empty if it takes none. -/
  given : List (Switch × String) := []
  /-- The arguments that belong to no switch. -/
  extra : List String := []
deriving DecidableEq, Repr

namespace Arguments

/-- Adds a switch. -/
def give (a : Arguments) (s : Switch) (value : String) : Arguments :=
  { a with given := a.given ++ [(s, value)] }

/-- Adds arguments that belong to no switch. -/
def leave (a : Arguments) (extra : List String) : Arguments := { a with extra := a.extra ++ extra }

/-- A switch, or what looks like one: its word, and the value after an equals sign. -/
def splitWord (argument : String) : String × Option String :=
  let cs := argument.toList
  match cs.dropWhile (· ≠ '=') with
  | [] => (argument, none)
  | _ :: value => (String.ofList (cs.takeWhile (· ≠ '=')), some (String.ofList value))

/-- The error when no switch has the word of an argument.  All of a long word is reported, with the
words that resemble it, and the first letter of a short one. -/
def unknown (argument : String) : UsageError :=
  match argument.toList with
  | '-' :: '-' :: _ =>
    let word := (splitWord argument).1
    .unknownSwitch word (suggestions (Switch.all.map Switch.word) word)
  | cs => .unknownSwitch (String.ofList (cs.take 2)) []

/-- An argument has the form of a switch: a dash and something more. -/
def looksLikeSwitch (argument : String) : Bool :=
  match argument.toList with
  | '-' :: _ :: _ => true
  | _ => false

/-- Reads arguments after those of `a`.  A value is what comes next, even if it looks like a switch;
two dashes end the switches. -/
def readFrom (a : Arguments) : List String → Except UsageError Arguments
  | [] => .ok a
  | argument :: rest =>
    if argument = "--" then .ok (a.leave rest)
    else if !looksLikeSwitch argument then readFrom (a.leave [argument]) rest
    else
      let (word, value) := splitWord argument
      match Switch.ofWord? word, value with
      | none, _ => .error (unknown argument)
      | some s, some value =>
        if s.takesValue then readFrom (a.give s value) rest else .error (.unwantedValue s)
      | some s, none =>
        if s.takesValue then
          match rest with
          | [] => .error (.missingValue s)
          | value :: rest => readFrom (a.give s value) rest
        else readFrom (a.give s "") rest

/-- Reads the arguments of the command line. -/
def read (arguments : List String) : Except UsageError Arguments := readFrom {} arguments

/-- The switches in the order in which each was given first. -/
def switches (a : Arguments) : List Switch := (a.given.map Prod.fst).eraseDups

/-- The value that a switch was given last. -/
def value? (a : Arguments) (s : Switch) : Option String := a.given.reverse.lookup s

end Arguments

end Promptline.CommandLine
