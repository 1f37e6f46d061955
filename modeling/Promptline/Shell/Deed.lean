import Promptline.Console.Printing
import Promptline.Markup.Tag
import Promptline.Store.Failure
import Promptline.Text.Blank

/-! What a line of input asks the shell to do, what the shell does for its user, one deed after
another, and what of it appears on the console. -/

namespace Promptline.Shell

open Promptline.Store

/-- A line of input, without the blanks around it. -/
inductive Line where
  | blank
  | dotCommand (line : String)
  | changeDirectory (arguments : String)
  | program (line : String)
deriving DecidableEq, Repr

/-- Reads a line.  A dot-command begins with a dot; `cd` stands alone or before a space; any other
line is run as a program. -/
def Line.read (text : String) : Line :=
  match Text.trim text.toList with
  | [] => .blank
  | '.' :: r => .dotCommand (String.ofList ('.' :: r))
  | ['c', 'd'] => .changeDirectory ""
  | 'c' :: 'd' :: ' ' :: r => .changeDirectory (String.ofList (' ' :: r))
  | trimmed => .program (String.ofList trimmed)

/-- How a read ends. -/
inductive Read where
  | line (text : String)
  | endOfInput
  | interrupt
deriving DecidableEq, Repr

/-- A deed of the shell. -/
inductive Deed where
  /-- Reads the input. -/
  | read (r : Read)
  /-- Reports that a line could not be written to the history. -/
  | report (e : StoreError)
  /-- Prints marked-up text. -/
  | say (markup : String)
  /-- Prints the answer to a dot-command, in which nothing is highlighted. -/
  | answer (markup : String)
  /-- Prints a page that is laid out already. -/
  | page (text : String)
  /-- Runs a program. -/
  | run (line : String)
deriving DecidableEq, Repr

namespace Deed

/-- The marked-up text that a deed prints. -/
def markup? : Deed → Option String
  | .report e => some ("[red]History error:[/red] " ++ Markup.escaped e.message)
  | .say markup | .answer markup => some markup
  | .read _ | .page _ | .run _ => none

/-- What a deed prints on a console with `width` columns. -/
def output (width : Nat) (d : Deed) : Except Markup.Fault String :=
  match d.markup?, d with
  | some markup, .answer _ => Console.printPlain width markup
  | some markup, _ => Console.print width markup
  | none, .page text => .ok text
  | none, _ => .ok ""

end Deed

/-- What deeds print, one after another. -/
def outputOf (width : Nat) (deeds : List Deed) : String :=
  String.join (deeds.map fun d => (d.output width).toOption.getD "")

/-- The programs that were run. -/
def programsOf (deeds : List Deed) : List String :=
  deeds.filterMap fun
    | .run line => some line
    | _ => none

end Promptline.Shell
