import Promptline.Engine.Prompt

/-! A prompt that is driven by hand: its computations end, its timers go off and its policies change
when an action says so. -/

namespace Promptline

open Promptline.Engine Promptline.Number Promptline.Style

/-- A policy of a prompt: left to its default, or what asking it gives now. -/
inductive Policy (α : Type) where
  | unset
  | gives (value : α)
  | fails (message : String)
deriving DecidableEq, Repr

namespace Policy

/-- What asking a policy gives. -/
def ask {α : Type} (default : α) : Policy α → Except String α
  | .unset => .ok default
  | .gives value => .ok value
  | .fails message => .error message

/-- The policy with a new answer, unless it is left to its default. -/
def replace? {α : Type} (p new : Policy α) : Option (Policy α) :=
  match p with
  | .unset => none
  | .gives _ | .fails _ => some new

end Policy

/-- How the calls of a computation end: when an action says so, at once with the number of the call,
or always with the text that a prompt begins with. -/
inductive Computation where
  | gated
  | counting
  | fixed
deriving DecidableEq, Repr

/-- What call `n` of a computation gives at once. -/
def Computation.answer (c : Computation) (n : Nat) : Option Outcome :=
  match c with
  | .gated => none
  | .counting => some (.ok (.plain s!"{n}> "))
  | .fixed => some (.ok placeholder)

/-- A prompt with its policies. -/
structure Manual where
  computation : Computation := .gated
  /-- The seconds after which a computation is overdue; none are as good as zero. -/
  threshold : Policy (Option Binary64) := .unset
  eagerness : Policy Int := .unset
  signal : Policy Signal := .unset
  /-- The working directory, unless it is gone. -/
  directory : Option String := none
  prompt : Prompt := {}
deriving DecidableEq, Repr

namespace Manual

/-- What is done to a prompt. -/
inductive Action where
  | trigger (forced : Bool)
  | conclude (outcome : Outcome)
  | overrun
  /-- The `n`-th timer ever set goes off, however late. -/
  | lateTimer (n : Nat)
  | setThreshold (p : Policy (Option Binary64))
  | setEagerness (p : Policy Int)
  | setSignal (p : Policy Signal)
  | enter (directory : Option String)
  | close
  | look
  | show
  /-- The consumer reads the stream to its end, if it has one. -/
  | iterate

/-- What an action gives. -/
inductive Result where
  | done
  | noEffect
  | failed (message : String)
  | fragments (fs : List (String × String))
  | contents (cs : List Content)

/-- What asking for the threshold gives. -/
def askThreshold (m : Manual) : Except String Binary64 :=
  (m.threshold.ask none).map (·.getD .zero)

/-- What an unforced trigger reads.  The signal is the working directory by default, and empty when
that is gone. -/
def reading (m : Manual) : Reading :=
  ⟨m.signal.ask (some (m.directory.getD "")), m.eagerness.ask eagerOnChange⟩

/-- Lets the worker go on until it has to wait. -/
def settle (m : Manual) : Manual :=
  { m with prompt := m.prompt.settle m.askThreshold m.computation.answer }

/-- Changes the prompt. -/
def onPrompt (m : Manual) (f : Prompt → Prompt) : Manual := { m with prompt := f m.prompt }

/-- The contents before the end of the stream. -/
def contents (us : List Update) : List Content :=
  us.filterMap fun
    | .content c => some c
    | .finished => none

/-- Changes something, if there is something to change. -/
def orNothing (m : Manual) : Option Manual → Result × Manual
  | some m => (.done, m)
  | none => (.noEffect, m)

/-- Carries out an action; the worker is not heard yet. -/
def act (m : Manual) : Action → Result × Manual
  | .trigger forced =>
    let reading := m.reading
    (match m.prompt.engine.triggerError? forced reading with
      | some message => .failed message
      | none => .done,
      m.onPrompt (·.handle (.trigger forced reading)))
  | .conclude outcome =>
    m.orNothing (if m.prompt.status = .computing then
      some (m.onPrompt (·.conclude m.askThreshold outcome)) else none)
  | .overrun =>
    m.orNothing (if m.prompt.armed.isSome then some (m.onPrompt (·.overrun)) else none)
  | .lateTimer n =>
    m.orNothing (m.prompt.timers[n]?.map fun g => m.onPrompt (·.handle (.expired g)))
  | .setThreshold p => m.orNothing ((m.threshold.replace? p).map fun p => { m with threshold := p })
  | .setEagerness p => m.orNothing ((m.eagerness.replace? p).map fun p => { m with eagerness := p })
  | .setSignal p => m.orNothing ((m.signal.replace? p).map fun p => { m with signal := p })
  | .enter directory => (.done, { m with directory := directory })
  | .close => (.done, m.onPrompt (·.handle .close))
  | .look => (.done, m)
  | .show => (.fragments m.prompt.fragments, m)
  | .iterate =>
    if .finished ∈ m.prompt.unread then
      (.contents (contents m.prompt.unread), m.onPrompt (·.drain))
    else (.noEffect, m)

/-- Carries out an action and lets the worker go on. -/
def perform (m : Manual) (a : Action) : Result × Manual :=
  let (result, m) := m.act a
  (result, m.settle)

end Manual

end Promptline
