import Promptline.CommandLine.Arguments
import Promptline.Console.Settings
import Promptline.Directory.Home
import Promptline.Number.Reading

/-! What the command line asks for.  Help and the version come before everything else; the values of
the switches are read in the order in which the switches were given. -/

namespace Promptline.CommandLine

open Promptline.Console Promptline.Number

/-- Why the command line asks for nothing: it is used wrongly, or a path holds a zero character. -/
inductive RequestFault where
  | usage (e : UsageError)
  | zeroInPath
deriving DecidableEq, Repr

/-- How a session is to be run. -/
structure Configuration where
  /-- The path of the history database. -/
  database : String
  /-- The history lives in memory instead. -/
  inMemory : Bool := false
  /-- The path of the log file. -/
  log : Option String := none
  settings : Settings := {}
deriving DecidableEq, Repr

/-- The history database, unless another one is asked for. -/
def defaultDatabase (home : String) : String :=
  String.ofList (Directory.expandHome home.toList "~/.shellstatus_history.db".toList)

namespace Configuration

/-- The path of a file as the value of a switch.  `isDirectory` tells which paths name
directories. -/
def readFile (isDirectory : String → Bool) (s : Switch) (path : String) :
    Except RequestFault String :=
  if path.toList.contains '\x00' then .error .zeroInPath
  else if isDirectory path then .error (.usage (.directory s path))
  else .ok path

/-- Sets what a switch says. -/
def set (isDirectory : String → Bool) (c : Configuration) (s : Switch) (value : String) :
    Except RequestFault Configuration :=
  match s with
  | .database => (readFile isDirectory s value).map fun path => { c with database := path }
  | .noDatabase => .ok { c with inMemory := true }
  | .log => (readFile isDirectory s value).map fun path => { c with log := some path }
  | .threshold =>
    match readBinary64? value.toList with
    | none => .error (.usage (.notANumber s value))
    | some x =>
      if x.isNegative then .error (.usage (.negative s x))
      else .ok { c with settings := { c.settings with threshold := x } }
  | .eagerness =>
    match readInteger? value.toList with
    | none => .error (.usage (.notAnInteger s value))
    | some n => .ok { c with settings := { c.settings with eagerness := n } }
  | .version | .help => .ok c

end Configuration

/-- What the command line asks for. -/
inductive Request where
  | help
  | version
  | session (c : Configuration)
deriving DecidableEq, Repr

namespace Arguments

/-- The switches whose values are set: those that were given, and the database in any case. -/
def settled (a : Arguments) : List Switch :=
  if .database ∈ a.switches then a.switches else a.switches ++ [.database]

/-- The configuration that the switches make up. -/
def configuration (isDirectory : String → Bool) (home : String) (a : Arguments) :
    Except RequestFault Configuration :=
  let start : Configuration := { database := defaultDatabase home }
  a.settled.foldlM (fun c s => c.set isDirectory s ((a.value? s).getD start.database)) start

/-- What the arguments ask for. -/
def request (isDirectory : String → Bool) (home : String) (a : Arguments) :
    Except RequestFault Request :=
  match a.switches.find? (· ∈ [.help, .version]) with
  | some .help => .ok .help
  | some _ => .ok .version
  | none => do
    let c ← a.configuration isDirectory home
    if a.extra = [] then return .session c else throw (.usage (.unexpected a.extra))

end Arguments

/-- What a command line asks for. -/
def Request.read (isDirectory : String → Bool) (home : String) (arguments : List String) :
    Except RequestFault Request :=
  match Arguments.read arguments with
  | .error e => .error (.usage e)
  | .ok a => a.request isDirectory home

end Promptline.CommandLine
