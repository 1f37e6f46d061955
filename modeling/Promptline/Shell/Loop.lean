import Promptline.Console.Command
import Promptline.History.LineHistory
import Promptline.Shell.Deed
import Promptline.Shell.Display
import Promptline.Shell.Surroundings

/-! The loop of the shell: it reads a line, carries it out and reads the next one, until it is asked
to stop or an error breaks it off.  Both prompts are triggered before every read and closed at the
end. -/

namespace Promptline

open Promptline.Console Promptline.Engine Promptline.History Promptline.Number Promptline.Shell
  Promptline.Store

/-- Why the loop has ended: somebody asked for it, or an error broke it off. -/
inductive Shell.Ending where
  | asked
  | broken (f : CommandFault)
deriving DecidableEq, Repr

/-- A running shell, which waits for input until it has an ending. -/
structure Shell where
  view : View
  shared : Shared
  settings : Settings
  surroundings : Surroundings
  /-- The line histories that were made, the newest last. -/
  histories : List LineHistory := [{}]
  /-- The place of the one that the line editor reads and writes. -/
  edited : Nat := 0
  /-- The place of the one that the loop asks for failed writes. -/
  polled : Nat := 0
  left : Display := {}
  right : Display := {}
  /-- How often the line editor was given a new line history. -/
  resets : Nat := 0
  deeds : List Deed := []
  ending : Option Ending := none

namespace Shell

/-- Does something to both displays. -/
def onDisplays (s : Shell) (f : Display → Display) : Shell :=
  { s with left := f s.left, right := f s.right }

/-- What an unforced trigger reads now. -/
def reading (s : Shell) : Reading :=
  ⟨.ok (some (s.surroundings.directory.getD "")), .ok s.settings.eagerness⟩

/-- Triggers both prompts. -/
def trigger (s : Shell) (forced : Bool) : Shell := s.onDisplays (·.trigger forced s.reading)

/-- What a computation finds when it looks around now. -/
def outcome (s : Shell) : Side → Outcome
  | .left => .ok s.surroundings.prompt
  | .right => s.surroundings.rightPrompt

/-- The display on one side makes a move. -/
def move (s : Shell) (side : Side) (m : Move) : Shell :=
  match side with
  | .left => { s with left := s.left.move s.settings.threshold (s.outcome .left) m }
  | .right => { s with right := s.right.move s.settings.threshold (s.outcome .right) m }

/-- Lets both workers go on until they wait. -/
def settle (s : Shell) : Shell :=
  { s with
    left := s.left.settle s.settings.threshold (s.outcome .left)
    right := s.right.settle s.settings.threshold (s.outcome .right) }

/-- Breaks the loop off. -/
def breakOff (s : Shell) (f : CommandFault) : Shell := { s with ending := some (.broken f) }

/-- Does a deed.  Text that cannot be shown breaks the loop off. -/
def perform (s : Shell) (d : Deed) : Shell :=
  match d.output s.surroundings.width with
  | .ok _ => { s with deeds := s.deeds ++ [d] }
  | .error f => s.breakOff (.markup f)

/-- Says goodbye and stops. -/
def stop (s : Shell) : Shell := { s.perform (.say "Goodbye") with ending := some .asked }

/-- Goes on with `f` unless the loop has ended. -/
def andThen (s : Shell) (f : Shell → Shell) : Shell := if s.ending.isSome then s else f s

/-- The line history that the line editor reads and writes. -/
def lines (s : Shell) : LineHistory := s.histories.getD s.edited {}

/-- The line editor puts a line into its history, which stores it. -/
def append (s : Shell) (text : String) : Shell :=
  let (result, desk) :=
    LineHistory.append ⟨s.lines, s.view, s.shared⟩ text (s.surroundings.directory.getD "")
  let s := { s with
    histories := s.histories.set s.edited desk.lines, view := desk.view, shared := desk.shared }
  match result with
  | .ok () => s
  | .error f => s.breakOff (.failure f)

/-- The line editor puts an accepted line into its history, unless the line is empty. -/
def remember (s : Shell) (text : String) : Shell := if text = "" then s else s.append text

/-- The line editor reads the view, if its history has not done so yet. -/
def loadHistory (s : Shell) : Shell :=
  { s with histories := s.histories.set s.edited (s.lines.load s.view) }

/-- Gives the line editor a new line history, and asks that one for failed writes from now on. -/
def swapHistory (s : Shell) : Shell :=
  { s with
    histories := s.histories ++ [{}]
    edited := s.histories.length
    polled := s.histories.length
    resets := s.resets + 1 }

/-- Reports a write to the history that has failed. -/
def reportWrite (s : Shell) : Shell :=
  let (e, lines) := (s.histories.getD s.polled {}).takeError
  let s := { s with histories := s.histories.set s.polled lines }
  match e with
  | some e => s.perform (.report e)
  | none => s

/-- Says what a dot-command has to say, and stops or breaks off if this is what comes of it. -/
def conclude (s : Shell) (out : Console.Outcome) : Shell :=
  let s := if out.printed = "" then s else s.perform (.page out.printed)
  match out.reply with
  | .ok (.text markup) => s.perform (.answer markup)
  | .ok .silent => s
  | .ok .quit => s.stop
  | .error f => s.breakOff f

/-- Answers a dot-command. -/
def dotCommand (s : Shell) (line : String) : Shell :=
  let out := Console.answer line ⟨s.view, s.settings, s.shared⟩
  let s := { s with
    view := out.bench.view, settings := out.bench.settings, shared := out.bench.shared }
  (if out.reloads then s.swapHistory else s).conclude out

/-- Changes the working directory, or says why it cannot be changed. -/
def changeDirectory (s : Shell) (arguments : String) : Shell :=
  let around := s.surroundings
  let (message, directory) :=
    Directory.change around.barred around.home around.directory arguments
  let s := { s with surroundings := { around with directory := directory } }
  match message with
  | some message => s.perform (.say message)
  | none => s

/-- Runs a program. -/
def runProgram (s : Shell) (line : String) : Shell :=
  let s := s.perform (.run line)
  match s.surroundings.run line with
  | .exited 0 => s
  | .exited status =>
    { s with
      shared := s.shared.log .loop .debug s!"Command exited with status {status}: {line}" }
  | .failed message => s.perform (.say ("[red]Error:[/red] " ++ Markup.escaped message))
  | .broken f => s.breakOff f

/-- Does what a line asks for. -/
def carryOut (s : Shell) : Line → Shell
  | .blank => s
  | .dotCommand line => s.dotCommand line
  | .changeDirectory arguments => s.changeDirectory arguments
  | .program line => s.runProgram line

/-- Triggers both prompts before the next read, or closes them when there is none. -/
def turn (s : Shell) : Shell :=
  if s.ending.isSome then s.onDisplays Display.close else s.trigger true

/-- Answers the end of a read. -/
def answer (s : Shell) (r : Read) : Shell :=
  let s := s.perform (.read r)
  match r with
  | .endOfInput => s.stop
  | .interrupt => s
  | .line text =>
    ((s.remember text).andThen reportWrite).andThen (·.carryOut (Line.read text))

/-- What happens while the shell waits for input. -/
inductive Event where
  | ended (r : Read)
  /-- The text of the line changes. -/
  | typed
  /-- The user walks up the line history. -/
  | recalled
  /-- Another writer adds a record. -/
  | otherAdded (d : Draft)
  | storeFails (calls : List (Call × String))
  | changed (surroundings : Surroundings → Surroundings)

/-- Another writer adds a record.  If that fails, so does the read. -/
def otherAdded (s : Shell) (d : Draft) : Shell :=
  match s.shared.add d with
  | (.ok _, shared) => { s with shared := shared }
  | (.error f, shared) => ({ s with shared := shared }.breakOff (.failure f)).turn

/-- The shell after an event.  A shell that has ended reads nothing more. -/
def step (s : Shell) (event : Event) : Shell :=
  s.andThen fun s =>
    match event with
    | .ended r => (s.answer r).turn
    | .typed => s.trigger false
    | .recalled => s.loadHistory
    | .otherAdded d => s.otherAdded d
    | .storeFails calls => { s with shared := { s.shared with failing := calls } }
    | .changed f => { s with surroundings := f s.surroundings }

/-- A shell with a view of the store, before the first read. -/
def start (view : View) (shared : Shared) (settings : Settings) (surroundings : Surroundings) :
    Shell :=
  ({ view, shared, settings, surroundings } : Shell).turn

/-- Opens a store and starts a shell on it. -/
def openOn (shared : Shared) (settings : Settings) (surroundings : Surroundings) :
    Except Failure Shell × Shared :=
  match View.openOn shared with
  | (.error f, shared) => (.error f, shared)
  | (.ok view, shared) => (.ok (start view shared settings surroundings), shared)

end Shell

end Promptline
