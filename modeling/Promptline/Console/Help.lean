import Promptline.Console.Printing

/-! The help pages: an overview of the commands in two tables, and a framed page for each. -/

namespace Promptline.Console

open Promptline.Text

/-- What the help says of a command: a summary, and lines on how it is used. -/
structure Topic where
  name : String
  summary : String
  usage : List String := []
deriving DecidableEq, Repr

/-- The dot-commands. -/
def dotTopics : List Topic := [
  { name := "help", summary := "Show help."
    usage := [
      "  .help          — Overview of dot-commands and built-ins",
      "  .help <topic>  — Detailed help for one command"] },
  { name := "history", summary := "List command history, oldest first."
    usage := [
      "  .history            — Every command in this session's view",
      "  .history <prefix>   — Only commands starting with <prefix>"] },
  { name := "sync"
    summary := "Pick up commands other sessions have saved since this one started."
    usage := ["  Up-arrow history and .history include them afterwards."] },
  { name := "prompt", summary := "Show or change prompt refresh settings for this session."
    usage := [
      "  .prompt                   — Show eagerness and stale threshold",
      "  .prompt eagerness <n>     — 0 manual, 5 on directory change, 10 always",
      "  .prompt stale <seconds>   — Mark the prompt stale after this long (0 = off)"] },
  { name := "quit", summary := "Exit the shell." }]

/-- The commands that the shell itself carries out. -/
def builtinTopics : List Topic := [
  { name := "cd", summary := "Change the working directory."
    usage := [
      "  cd          — Home directory",
      "  cd <path>   — Given directory (~ is expanded)"] }]

/-- `n` times `c`. -/
def bar (n : Nat) (c : Char) : List Char := List.replicate n c

/-- `s` filled up with spaces to `width` cells. -/
def padTo (width : Nat) (s : List Char) : List Char := s ++ bar (width - cells s) ' '

/-- `s` in the middle of `width` cells. -/
def centred (width : Nat) (s : List Char) : List Char :=
  let room := width - cells s
  bar (room / 2) ' ' ++ s ++ bar (room - room / 2) ' '

/-- A page in a frame, with its title at the left of the upper edge. -/
def framed (title : List Char) (text : List Char) : List (List Char) :=
  let inner := helpWidth - 4
  let top := ['╭', '─', ' '] ++ title ++ [' '] ++ bar (helpWidth - 5 - cells title) '─' ++ ['╮']
  let bottom := ['╰'] ++ bar (helpWidth - 2) '─' ++ ['╯']
  [top] ++ (wrap inner text).map (fun l => ['│', ' '] ++ padTo inner l ++ [' ', '│']) ++ [bottom]

/-- A table of commands and what they do under a title.  It is no wider than the console: the
descriptions take what room is left. -/
def table (title : String) (rows : List (String × String)) : List (List Char) :=
  let first := ((("Command", "") :: rows).map fun r => cells r.1.toList).foldl max 0
  let natural := ((("", "Description") :: rows).map fun r => cells r.2.toList).foldl max 0
  let second := min natural (helpWidth - first - 7)
  let rule (left cross right : Char) (line : Char) :=
    [left] ++ bar (first + 2) line ++ [cross] ++ bar (second + 2) line ++ [right]
  let row (edge : Char) (a b : List Char) :=
    [edge, ' '] ++ padTo first a ++ [' ', edge, ' '] ++ padTo second b ++ [' ', edge]
  let body (r : String × String) :=
    match wrap second r.2.toList with
    | [] => []
    | l :: ls => row '│' r.1.toList (dropEnd isBlank l) ::
        ls.map fun l => row '│' [] (dropEnd isBlank l)
  [centred (first + second + 7) title.toList, rule '┏' '┳' '┓' '━',
    row '┃' "Command".toList "Description".toList, rule '┡' '╇' '┩' '━'] ++
    rows.flatMap body ++ [rule '└' '┴' '┘' '─']

/-- The overview of all commands. -/
def overview : String :=
  String.ofList (unlines (
    table "Dot-Commands" (dotTopics.map fun t => ("." ++ t.name, t.summary)) ++ [[]] ++
    table "Built-ins" (builtinTopics.map fun t => (t.name, t.summary)) ++
    ["Anything else runs through the system shell.".toList]))

/-- The page of a topic; `mark` stands before its name. -/
def page (mark : String) (t : Topic) : String :=
  String.ofList (unlines (framed (mark ++ t.name).toList
    ("\n".intercalate (t.summary :: t.usage)).toList))

/-- The name of a topic, without the dots before it. -/
def topicName (topic : String) : String :=
  String.ofList (dropStart (· == '.') (trim topic.toList))

/-- What the help says of a topic that does not exist.  The topic is repeated as marked-up text. -/
def unknownTopic (topic : String) : String := s!"[red]No help available for '{topic}'[/red]"

/-- What the help prints on `topic`, a name with or without leading dots. -/
def topicHelp (topic : String) : Except Markup.Fault String :=
  let name := topicName topic
  match dotTopics.find? (·.name == name), builtinTopics.find? (·.name == name) with
  | some t, _ => .ok (page "." t)
  | none, some t => .ok (page "" t)
  | none, none => do
    let first ← print helpWidth (unknownTopic topic)
    let second ← print helpWidth "[dim]Type .help for a list of available commands[/dim]"
    return first ++ second

end Promptline.Console
