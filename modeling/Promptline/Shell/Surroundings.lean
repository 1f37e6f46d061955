import Promptline.Branch
import Promptline.Console.Command
import Promptline.Directory.Change

/-! What the shell finds around it. -/

namespace Promptline.Shell

open Promptline.Style

/-- How running a program ends: with an exit status, because it cannot be run, or with an error of
any other kind, which nobody catches. -/
inductive ProgramRun where
  | exited (status : Int)
  | failed (message : String)
  | broken (f : Console.CommandFault)
deriving DecidableEq, Repr

/-- The directories, the programs, and the console. -/
structure Surroundings where
  /-- The value of the variable that names the home directory. -/
  home : String
  /-- The working directory, unless it is gone. -/
  directory : Option String
  barred : Directory.Barred := []
  tool : Branch.Tool
  /-- How programs end, by their lines. -/
  programs : List (String × ProgramRun) := []
  /-- How every other program ends. -/
  otherPrograms : ProgramRun := .exited 0
  /-- The columns of the console. -/
  width : Nat := 80
deriving DecidableEq, Repr

namespace Surroundings

/-- How running `line` ends. -/
def run (s : Surroundings) (line : String) : ProgramRun :=
  (s.programs.lookup line).getD s.otherPrograms

/-- What the prompt shows of the surroundings. -/
def prompt (s : Surroundings) : StyledText := Directory.prompt s.home s.directory

/-- What the right prompt shows of the surroundings, unless asking for the branch fails. -/
def rightPrompt (s : Surroundings) : Except String StyledText := Branch.prompt s.tool

end Surroundings

end Promptline.Shell
