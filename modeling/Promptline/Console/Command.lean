import Promptline.Console.Help
import Promptline.Console.Settings
import Promptline.History.View

/-! Dot-commands: lines that the shell answers itself. -/

namespace Promptline.Console

open Promptline.Store Promptline.History

/-- A dot-command. -/
inductive DotCommand where
  | overview
  | help (topic : String)
  | quit
  | history (lead : String)
  | sync
  | prompt (arguments : String)
  | unknown (line : String)
deriving DecidableEq, Repr

/-- Reads a line.  `.help`, `.quit` and `.sync` without a topic stand alone on it; the other
commands are known by their first word.  Letter case does not matter. -/
def DotCommand.read (line : String) : DotCommand :=
  let stripped := Text.trim line.toList
  let whole := String.ofList (Text.lower stripped)
  let (first, rest) := Text.firstWord stripped
  let word := String.ofList (Text.lower first)
  let arguments := String.ofList rest
  if whole = ".help" then .overview
  else if word = ".help" then .help arguments
  else if whole = ".quit" then .quit
  else if word = ".history" then .history arguments
  else if whole = ".sync" then .sync
  else if word = ".prompt" then .prompt arguments
  else .unknown (String.ofList stripped)

/-- What the shell does after a dot-command: show marked-up text, stop, or nothing. -/
inductive Reply where
  | text (markup : String)
  | quit
  | silent
deriving DecidableEq, Repr

/-- Why a dot-command is broken off. -/
inductive CommandFault where
  | failure (f : Failure)
  | markup (f : Markup.Fault)
deriving DecidableEq, Repr

def CommandFault.message : CommandFault → String
  | .failure f => f.message
  | .markup f => f.message

/-- What dot-commands work on. -/
structure Bench where
  view : View
  settings : Settings
  shared : Shared
deriving DecidableEq, Repr

/-- What comes of a dot-command. -/
structure Outcome where
  reply : Except CommandFault Reply
  /-- What it has printed itself. -/
  printed : String := ""
  /-- The line editor has to read the view anew. -/
  reloads : Bool := false
  bench : Bench

/-- `n` in at least five columns, at the right. -/
def column (n : Int) : String :=
  let digits := toString n
  String.ofList (List.replicate (5 - digits.length) ' ') ++ digits

/-- A line of the history list. -/
def historyLine (r : Record) : String :=
  "[dim]" ++ column r.seq ++ "[/dim]  " ++ Markup.escaped r.text

/-- The commands that start with `lead`, oldest first, collected by a cursor. -/
def listHistory (v : View) (lead : String) : String :=
  match (v.cursor lead).olderAll.reverse with
  | [] => "[dim]No matching commands[/dim]"
  | records => "\n".intercalate (records.map historyLine)

/-- Builds the view anew and says how many records it has gained. -/
def sync (b : Bench) : Outcome :=
  match b.view.renew b.shared with
  | (.error (.store e), shared) =>
    { reply := .ok (.text ("[red]Error:[/red] " ++ Markup.escaped e.message))
      bench := { b with shared := shared } }
  | (.error f, shared) =>
    { reply := .error (.failure f), bench := { b with shared := shared } }
  | (.ok view, shared) =>
    let added : Int := view.all.length - b.view.all.length
    let noun := if added = 1 then "command" else "commands"
    { reply := .ok (.text s!"History synced ({added} new {noun})")
      reloads := true
      bench := { b with view := view, shared := shared } }

/-- Carries out a dot-command. -/
def DotCommand.run (c : DotCommand) (b : Bench) : Outcome :=
  match c with
  | .overview => { reply := .ok .silent, printed := Console.overview, bench := b }
  | .help topic =>
    match topicHelp topic with
    | .ok printed => { reply := .ok .silent, printed := printed, bench := b }
    | .error f => { reply := .error (.markup f), bench := b }
  | .quit => { reply := .ok .quit, bench := b }
  | .history lead => { reply := .ok (.text (listHistory b.view lead)), bench := b }
  | .sync => Console.sync b
  | .prompt arguments =>
    let (text, settings) := promptCommand b.settings arguments
    { reply := .ok (.text text), bench := { b with settings := settings } }
  | .unknown line =>
    { reply := .ok (.text s!"[red]Unknown command: {Markup.escaped line}[/red]"), bench := b }

/-- Answers a line that holds a dot-command. -/
def answer (line : String) (b : Bench) : Outcome := (DotCommand.read line).run b

end Promptline.Console
