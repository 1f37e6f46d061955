import Promptline.Engine.Prompt

/-! The two prompts of the shell, with computations that look at the surroundings at some moment and
return later what they have found. -/

namespace Promptline.Shell

open Promptline.Engine Promptline.Number

/-- The prompt before the line, or the one at the right. -/
inductive Side where
  | left
  | right
deriving DecidableEq, Repr

/-- A prompt and what its running computation has found so far. -/
structure Display where
  prompt : Prompt := {}
  found : Option Outcome := none

/-- What the worker or a timer of a prompt does next. -/
inductive Move where
  | take
  /-- The computation looks at the surroundings. -/
  | look
  /-- The computation returns what it has found. -/
  | finish
  /-- The `n`-th timer ever set goes off, however late. -/
  | expire (n : Nat)
deriving DecidableEq, Repr

namespace Display

/-- Triggers the engine. -/
def trigger (forced : Bool) (r : Reading) (d : Display) : Display :=
  { d with prompt := d.prompt.handle (.trigger forced r) }

def close (d : Display) : Display := { d with prompt := d.prompt.handle .close }

/-- The display after a move, where looking finds `outcome` now. -/
def move (threshold : Binary64) (outcome : Outcome) (m : Move) (d : Display) : Display :=
  match m with
  | .take => { d with prompt := d.prompt.take (.ok threshold) }
  | .look => if d.prompt.engine.worker.isComputing then { d with found := some outcome } else d
  | .finish =>
    match d.found with
    | some found => ⟨d.prompt.conclude (.ok threshold) found, none⟩
    | none => d
  | .expire n =>
    match d.prompt.timers[n]? with
    | some g => { d with prompt := d.prompt.handle (.expired g) }
    | none => d

/-- Lets the worker go on until it waits, where every computation finds `outcome`. -/
def settle (threshold : Binary64) (outcome : Outcome) (d : Display) : Display :=
  ⟨d.prompt.settle (.ok threshold) fun _ => some outcome, none⟩

end Display

end Promptline.Shell
