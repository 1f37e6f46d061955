import Promptline.Style.Content

/-! The state of a prompt's engine.  Callers ask for new content, a worker computes it, and what is
published goes to a stream of updates. -/

namespace Promptline.Engine

open Promptline.Style

/-- What tells whether a prompt is out of date: mostly the working directory. -/
abbrev Signal := Option String

/-- What the callers leave for the worker: a generation to compute, or the order to stop. -/
inductive Request where
  | compute (generation : Nat)
  | stop
deriving DecidableEq, Repr

/-- What the worker does.  It is absent before the first request and after its end; a worker that
breaks down between two computations is not missed. -/
inductive Worker where
  | absent
  | waiting
  | computing (generation : Nat)
  | broken
deriving DecidableEq, Repr

/-- The worker takes requests, now or after what it computes. -/
def Worker.isAlive : Worker → Bool
  | .waiting | .computing _ => true
  | .absent | .broken => false

/-- The worker runs a computation. -/
def Worker.isComputing : Worker → Bool
  | .computing _ => true
  | .absent | .waiting | .broken => false

/-- What the stream carries: published content, and a mark at its end. -/
inductive Update where
  | content (c : Content)
  | finished
deriving DecidableEq, Repr

/-- What a prompt shows before it has been computed. -/
def placeholder : StyledText := .plain "???> "

end Promptline.Engine

namespace Promptline

open Engine Style

/-- The engine of a prompt. -/
structure Engine where
  /-- What has been published last. -/
  content : Content := ⟨placeholder, false⟩
  /-- A computation has been asked for and has not come to an end. -/
  running : Bool := false
  /-- One more computation follows the running one. -/
  pending : Bool := false
  /-- The number of the computation asked for last. -/
  generation : Nat := 0
  /-- The computation whose result is awaited. -/
  awaited : Option Nat := none
  /-- That computation has taken longer than it should. -/
  isLate : Bool := false
  /-- The signal of the last unforced trigger. -/
  seen : Option Signal := none
  worker : Worker := .absent
  closed : Bool := false
  requests : List Request := []
  /-- All updates so far, the oldest first. -/
  updates : List Update := []
deriving DecidableEq, Repr

end Promptline
