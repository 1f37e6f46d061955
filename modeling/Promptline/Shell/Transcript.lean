import Promptline.Shell.Loop

/-! A transcript of a session: what the user sees at each read and after each change of the line,
once both prompts are at rest. -/

namespace Promptline

open Promptline.Console Promptline.Shell

/-- What the user sees. -/
structure Screen where
  left : List (String × String)
  right : List (String × String)
  /-- What was printed since the last screen. -/
  output : String
  directory : Option String
  generations : Nat × Nat
  settings : Settings
  resets : Nat
deriving DecidableEq, Repr

/-- A moment of a session. -/
inductive Scene where
  | atRead (s : Screen)
  | atTyping (s : Screen)
  | atRecall (lines : List String)
deriving DecidableEq, Repr

/-- A session so far. -/
structure Transcript where
  shell : Shell
  /-- The deeds that have been shown on a screen. -/
  shown : Nat := 0
  scenes : List Scene := []

namespace Transcript

/-- What was printed since the last screen. -/
def output (t : Transcript) : String :=
  outputOf t.shell.surroundings.width (t.shell.deeds.drop t.shown)

def screen (t : Transcript) : Screen :=
  { left := t.shell.left.prompt.fragments
    right := t.shell.right.prompt.fragments
    output := t.output
    directory := t.shell.surroundings.directory
    generations := (t.shell.left.prompt.engine.generation, t.shell.right.prompt.engine.generation)
    settings := t.shell.settings
    resets := t.shell.resets }

/-- Records the screen in a scene. -/
def record (t : Transcript) (scene : Screen → Scene) : Transcript :=
  { t with scenes := t.scenes ++ [scene t.screen], shown := t.shell.deeds.length }

/-- The session after an event, with the scene that it leads to. -/
def step (t : Transcript) (event : Event) : Transcript :=
  if t.shell.ending.isSome then t
  else
    let t := { t with shell := (t.shell.step event).settle }
    if t.shell.ending.isSome then t
    else
      match event with
      | .ended _ => t.record .atRead
      | .typed => t.record .atTyping
      | .recalled => { t with scenes := t.scenes ++ [.atRecall t.shell.lines.lines] }
      | .otherAdded _ | .storeFails _ | .changed _ => t

/-- The session of a shell whose input is given by events and ends after them. -/
def ofEvents (s : Shell) (events : List Event) : Transcript :=
  let first := ({ shell := s.settle } : Transcript).record .atRead
  (events.foldl step first).step (.ended .endOfInput)

/-- The updates that carry content. -/
def redraws (d : Display) : Nat :=
  (d.prompt.engine.updates.filter fun
    | .content _ => true
    | .finished => false).length

/-- How often the line editor was asked to draw itself anew. -/
def invalidations (t : Transcript) : Nat := redraws t.shell.left + redraws t.shell.right

end Transcript

end Promptline
