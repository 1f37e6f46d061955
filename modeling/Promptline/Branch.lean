import Promptline.Style.StyledText
import Promptline.Text.Blank

/-! The branch of the repository around the working directory, asked of `git`, and the right prompt
that shows it. -/

namespace Promptline.Branch

open Promptline.Style

/-- The command that prints the branch. -/
def command : List String := ["git", "rev-parse", "--abbrev-ref", "HEAD"]

/-- The seconds that the command may take. -/
def timeLimit : Nat := 2

/-- How a run of the command ends. -/
inductive Run where
  | exited (code : Int) (output : String)
  | failed (message : String)
  | timedOut
  | broken (message : String)
deriving DecidableEq, Repr

/-- Whether `git` is installed, and how running it ends. -/
structure Tool where
  installed : Bool
  run : Run
deriving DecidableEq, Repr

/-- The reason for which a query gives no branch and a note is left. -/
def Run.note? : Run → Option String
  | .failed message => some message
  | .timedOut => some "Command 'git' timed out after 2.0 seconds"
  | _ => none

/-- The branch; none outside a repository.  A broken run ends the query with its message. -/
def query (tool : Tool) : Except String (Option String) :=
  if tool.installed then
    match tool.run with
    | .exited code output =>
      let branch := Text.trimmed output
      .ok (if code ≠ 0 ∨ branch = "" then none else some branch)
    | .broken message => .error message
    | .failed _ | .timedOut => .ok none
  else .ok none

/-- What a query logs. -/
def note? (tool : Tool) : Option String :=
  if tool.installed then tool.run.note?.map ("git query failed: " ++ ·) else none

/-- The branch in yellow between parentheses, or nothing. -/
def prompt (tool : Tool) : Except String StyledText :=
  (query tool).map fun
    | none => .empty
    | some branch => .plain "(" ++ .styled branch ["yellow"] ++ .plain ")"

end Promptline.Branch
