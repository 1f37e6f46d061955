import Promptline.CommandLine.StartUp
import Promptline.Shell.Loop

/-! The program.  It follows the command line and then reads lines from the standard input.  Files
and other programs are out of its reach: the history lasts as long as the process, the log goes to
the standard error stream, and a line that is no command of the shell is answered with an error. -/

namespace Promptline

open Promptline.CommandLine Promptline.Shell

/-- What is around the shell. -/
def surroundings (home : String) (directory : Option String) : Surroundings :=
  { home := home
    directory := directory
    tool := ⟨false, .exited 0 ""⟩
    otherPrograms := .failed "Programs cannot be started from here" }

/-- How a line of the input ends a read.  Only the end of the input gives an empty line. -/
def readOf (line : String) : Read :=
  if line = "" then .endOfInput
  else
    match line.toList.reverse with
    | '\n' :: r => .line (String.ofList r.reverse)
    | _ => .line line

/-- Reads and answers lines until the shell ends, and gives the exit code.  What `log` makes of the
entries of the journal is logged. -/
partial def interact (log : Journal → List String) (s : Shell) : IO UInt32 := do
  let s := s.settle
  let output ← IO.getStdout
  match s.ending with
  | some .asked => return 0
  | some (.broken f) =>
    IO.eprintln f.message
    return 1
  | none =>
    output.putStr s.left.prompt.content.toText
    output.flush
    let next := s.step (.ended (readOf (← (← IO.getStdin).getLine)))
    output.putStr (outputOf s.surroundings.width (next.deeds.drop s.deeds.length))
    (log (next.shared.journal.drop s.shared.journal.length)).forM IO.eprintln
    interact log next

/-- Follows the command line. -/
def follow (home : String) (directory : Option String) (arguments : List String) :
    IO UInt32 := do
  let files : Files := { directories := home :: directory.toList }
  let start := StartUp.run files ⟨0⟩ home arguments
  IO.print start.output
  match start.finish with
  | .exited code => return code.toUInt32
  | .broken f =>
    IO.eprintln f.message
    return 1
  | .running session =>
    (start.logLines session.shared.journal).forM IO.eprintln
    interact start.logLines (Shell.start session.view session.shared
      session.settings (surroundings home directory))

end Promptline

def main (arguments : List String) : IO UInt32 := do
  Promptline.follow ((← IO.getEnv "HOME").getD "") (← IO.getEnv "PWD") arguments
