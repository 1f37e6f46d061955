import Promptline.Directory.Home
import Promptline.Directory.Path
import Promptline.Markup.Tag

/-! Changing the working directory. -/

namespace Promptline.Directory

/-- Why the system refuses a directory: an error with a number and mostly a text, or a bare
message. -/
inductive Refusal where
  | numbered (number : Int) (text : Option String)
  | bare (message : String)
deriving DecidableEq, Repr

/-- The text of a refusal.  An error without a text of its own shows its number. -/
def Refusal.reason : Refusal → String
  | .numbered number none => s!"[Errno {number}] None"
  | .numbered number (some text) => if text = "" then s!"[Errno {number}] " else text
  | .bare message => message

/-- The directories that cannot be entered, by the path that was asked for. -/
abbrev Barred := List (String × Refusal)

/-- The path that `cd` with these arguments asks for: the home directory without any. -/
def target (home arguments : String) : String :=
  let path := Text.trim arguments.toList
  String.ofList (expandHome home.toList (if path = [] then ['~'] else path))

/-- Enters the directory that `arguments` name.  Gives a message if it cannot be entered, and the
working directory afterwards. -/
def change (barred : Barred) (home : String) (cwd : Option String) (arguments : String) :
    Option String × Option String :=
  let path := target home arguments
  match barred.lookup path with
  | some refusal =>
    (some ("[red]cd:[/red] " ++ Markup.escaped refusal.reason ++ ": " ++ Markup.escaped path), cwd)
  | none => (none, some (resolve (cwd.getD "") path))

end Promptline.Directory
