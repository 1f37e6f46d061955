import Promptline.CommandLine.Request
import Promptline.CommandLine.Usage
import Promptline.Console.Command
import Promptline.Store.Location

/-! Starting from the command line: it prints what was asked for, or opens the log and the history
and makes a session ready. -/

namespace Promptline.CommandLine

open Promptline.Console Promptline.Directory Promptline.History Promptline.Number Promptline.Store

/-- The files and directories at the start.  Paths are relative to the working directory. -/
structure Files where
  directories : List String := []
  /-- Files that hold something that is no database. -/
  garbled : List String := []
deriving DecidableEq, Repr

/-- The log file that a path means. -/
def logFile (path : String) : String :=
  if path.toList.take 1 = ['/'] then normal path else path

/-- The directories and files at the start, with files that have been made since. -/
def Files.tree (fs : Files) (made : List String) : Tree := ⟨fs.directories, fs.garbled ++ made⟩

/-- A session that is ready to run. -/
structure Session where
  view : View
  shared : Shared
  settings : Settings
deriving DecidableEq, Repr

/-- Stores commands, as far as that succeeds. -/
def Session.store (s : Session) (ds : List Draft) : Session :=
  ds.foldl (fun s d =>
    match s.view.add d s.shared with
    | (.ok (_, view), shared) => { s with view := view, shared := shared }
    | (.error _, shared) => { s with shared := shared }) s

/-- How the start ends: the program is over, an error breaks it off, or a session runs. -/
inductive Finish where
  | exited (code : Nat)
  | broken (f : CommandFault)
  | running (s : Session)
deriving DecidableEq, Repr

/-- The exit code, once a running session is over too. -/
def Finish.code : Finish → Nat
  | .exited code => code
  | .broken _ => 1
  | .running _ => 0

/-- What comes of a start. -/
structure StartUp where
  output : String := ""
  /-- The files that were made. -/
  made : List String := []
  /-- The log is written to a file. -/
  isLogging : Bool := false
  finish : Finish
deriving DecidableEq, Repr

namespace StartUp

/-- Prints marked-up texts and exits.  A text that cannot be shown breaks the start off. -/
def failWith (texts : List String) (s : StartUp) : StartUp :=
  texts.foldl (fun s text =>
    match s.finish, Console.print helpWidth text with
    | .broken _, _ => s
    | _, .ok printed => { s with output := s.output ++ printed }
    | _, .error f => { s with finish := .broken (.markup f) }) { s with finish := .exited 1 }

/-- What is said when a store cannot be opened. -/
def unopened (e : StoreError) : List String := [
  "[red]Cannot open history database:[/red] " ++ e.message,
  "[dim]Hint: use --no-db to run without shared history.[/dim]"]

/-- What is said when the records of a store cannot be read. -/
def unread (e : StoreError) : String := "[red]Cannot read history:[/red] " ++ e.message

/-- What is said when a log file cannot be opened. -/
def unlogged (f : PathFault) (path : String) : String :=
  "[red]Cannot open log file:[/red] " ++ f.report (logFile path)

/-- Opens the log file, if there is to be one.  Without it the start goes on all the same. -/
def openLog (fs : Files) (path : Option String) : Except Markup.Fault StartUp :=
  match path with
  | none | some "" => .ok { finish := .exited 0 }
  | some path =>
    match (fs.tree []).openPath (logFile path) with
    | .ok () => .ok { made := [normal path], isLogging := true, finish := .exited 0 }
    | .error f =>
      (Console.print helpWidth (unlogged f path)).map fun printed =>
        { output := printed, finish := .exited 0 }

/-- The store that a configuration asks for, after some files have been made. -/
def backend (fs : Files) (made : List String) (c : Configuration) : Backend :=
  if c.inMemory then .memory {}
  else .database (.at (fs.tree made) fs.garbled c.database)

/-- The file that a store makes when it is opened. -/
def fileOf : Backend → List String
  | .database db => db.file.toList
  | _ => []

/-- Reads the records of a store that has been opened. -/
def readStore (settings : Settings) (shared : Shared) (s : StartUp) : StartUp :=
  match View.load shared with
  | (.error (.store e), _) => s.failWith [unread e]
  | (.error f, _) => { s with finish := .broken (.failure f) }
  | (.ok view, shared) => { s with finish := .running ⟨view, shared, settings⟩ }

/-- Opens the history. -/
def openHistory (fs : Files) (clock : Clock) (c : Configuration) (s : StartUp) : StartUp :=
  let found := backend fs s.made c
  let s := { s with made := s.made ++ fileOf found }
  match found.attach with
  | .error (.store e) => s.failWith (unopened e)
  | .error f => { s with finish := .broken (.failure f) }
  | .ok backend => readStore c.settings { backend := backend, clock := clock } s

/-- Starts a session. -/
def session (fs : Files) (clock : Clock) (c : Configuration) : StartUp :=
  match openLog fs c.log with
  | .error f => { finish := .broken (.markup f) }
  | .ok s => s.openHistory fs clock c

/-- Starts with these arguments. -/
def run (fs : Files) (clock : Clock) (home : String) (arguments : List String) : StartUp :=
  match Request.read (fs.tree []).isDirectory home arguments with
  | .error (.usage e) => { output := e.page, finish := .exited 2 }
  | .error .zeroInPath => { finish := .broken (.failure .zeroInPath) }
  | .ok .help => { output := helpPage (defaultDatabase home), finish := .exited 0 }
  | .ok .version => { output := versionLine, finish := .exited 0 }
  | .ok (.session c) => session fs clock c

/-- The files in the working directory afterwards, in order. -/
def files (fs : Files) (s : StartUp) : List String :=
  let inside (path : String) : Bool :=
    path.toList.take 1 ≠ ['/'] && path.toList.take 3 ≠ ['.', '.', '/']
  (((fs.garbled.map normal) ++ s.made).filter inside).eraseDups.mergeSort (· ≤ ·)

/-- The lines of the log.  An entry takes more than one if its message holds ends of lines. -/
def logLines (s : StartUp) (journal : Journal) : List String :=
  if s.isLogging then
    let text := String.join (journal.map (·.line ++ "\n"))
    (Text.splitLines text.toList).dropLast.map String.ofList
  else []

end StartUp

end Promptline.CommandLine
