import Promptline.Proofs.Engine.Handover
import Promptline.Proofs.Shell.Display
import Promptline.Proofs.Shell.Endings

/-! What the loop, the workers and the timers send to the engines of both prompts.  Each engine is
told to compute before every read and to close when the loop is left, and at no other time. -/

namespace Promptline.Prompt

open Promptline.Engine Promptline.Number

variable {t : Binary64} {p q : Prompt}

/-- What the engine is told when a computation ends. -/
def report : Outcome → Engine.Event
  | .ok text => .returned text
  | .error _ => .raised

end Promptline.Prompt

namespace Promptline.Shell

open Promptline.Engine Promptline.History Promptline.Number

/-- The engine is told to close. -/
def isClose : Engine.Event → Bool
  | .close => true
  | _ => false

namespace Display

end Display

variable {s s' : Shell} {side : Side}

def display (s : Shell) : Side → Display
  | .left => s.left
  | .right => s.right

/-- The engine of the prompt on one side. -/
def engine (s : Shell) (side : Side) : Engine := (s.display side).prompt.engine

theorem LeavesPrompts.engine (h : LeavesPrompts s s') (side : Side) :
    s'.engine side = s.engine side := by
  cases side with
  | left => exact congrArg (·.prompt.engine) h.left
  | right => exact congrArg (·.prompt.engine) h.right

theorem LeavesPrompts.answerUnsaved (s : Shell) (text : String) :
    LeavesPrompts s (s.answerUnsaved text) := by
  have reported := (perform s (.read (.line text))).trans (andThen _ reportWrite)
  exact reported.trans (andThen _ fun s => carryOut s _)

namespace Phased

variable {p : Phased}

end Phased

end Promptline.Shell
