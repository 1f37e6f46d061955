import Promptline.Engine.State

/-! How an engine changes.  At most one computation runs at a time, and triggers that come meanwhile
lead to one more after it.  Each event is handled as a whole. -/

namespace Promptline.Engine

open Promptline.Style

/-- The eagerness that recomputes the prompt when its signal has changed. -/
def eagerOnChange : Int := 5

/-- The eagerness that recomputes the prompt on every trigger. -/
def eagerAlways : Int := 10

/-- What an unforced trigger reads, or the messages with which reading fails. -/
structure Reading where
  signal : Except String Signal
  eagerness : Except String Int

/-- How the gate answers a trigger. -/
inductive Verdict where
  | accepted
  | declined
  | failed (message : String)
deriving DecidableEq, Repr

/-- An unforced trigger with these readings is to be followed. -/
def isEager (e : Engine) (signal : Signal) (eagerness : Int) : Bool :=
  (if e.seen = some signal then eagerAlways else eagerOnChange) ≤ eagerness

/-- Judges a trigger.  Only an unforced one is read, and its signal is remembered before the
eagerness is asked for. -/
def gate (e : Engine) (forced : Bool) (r : Reading) : Verdict × Engine :=
  if forced then (.accepted, e)
  else
    match r.signal, r.eagerness with
    | .error message, _ => (.failed message, e)
    | .ok signal, .error message => (.failed message, { e with seen := some signal })
    | .ok signal, .ok level =>
      (if e.isEager signal level then .accepted else .declined, { e with seen := some signal })

/-- What happens to an engine. -/
inductive Event where
  | trigger (forced : Bool) (r : Reading)
  | close
  /-- The worker takes the next request. -/
  | take
  /-- The worker breaks down before it computes what it has taken. -/
  | brokeDown
  | returned (text : StyledText)
  | raised
  /-- The timer of a computation goes off. -/
  | expired (generation : Nat)

/-- Shows `c` from now on. -/
def publish (e : Engine) (c : Content) : Engine :=
  { e with content := c, updates := e.updates ++ [.content c] }

/-- Ends the stream if the engine is closed. -/
def endIfClosed (e : Engine) : Engine :=
  if e.closed then { e with updates := e.updates ++ [.finished] } else e

/-- Begins a new generation. -/
def start (e : Engine) : Engine :=
  { e with
    generation := e.generation + 1, running := true, awaited := some (e.generation + 1)
    isLate := false }

/-- Hands the current generation to the worker, which is brought up if need be. -/
def hand (e : Engine) : Engine :=
  { e with
    worker := if e.worker.isAlive then e.worker else .waiting
    requests := e.requests ++ [.compute e.generation] }

/-- Follows an accepted trigger: now, or after the running computation. -/
def accept (e : Engine) : Engine :=
  if e.running then { e with pending := true } else e.start.hand

/-- Judges a trigger and follows it. -/
def trigger (e : Engine) (forced : Bool) (r : Reading) : Engine :=
  if e.closed then e
  else
    match e.gate forced r with
    | (.accepted, e) => e.accept
    | (.declined, e) | (.failed _, e) => e

/-- Accepts nothing any more and drops what is pending.  A running computation may still publish. -/
def close (e : Engine) : Engine :=
  if e.closed then e
  else
    let e := { e with
      closed := true, pending := false
      requests := if e.worker = .absent then e.requests else e.requests ++ [.stop] }
    if e.running then e else e.endIfClosed

/-- Lets the worker take the next request, if it waits for one. -/
def take (e : Engine) : Engine :=
  match e.worker, e.requests with
  | .waiting, .compute g :: rest => { e with worker := .computing g, requests := rest }
  | .waiting, .stop :: rest => { e with worker := .absent, requests := rest }
  | _, _ => e

/-- Publishes the result of generation `g`, unless it is superseded.  It stays marked when the
computation was late and another one follows at once. -/
def publishResult (e : Engine) (g : Nat) (text : StyledText) : Engine :=
  if g = e.generation then e.publish ⟨text, e.isLate && e.pending⟩ else e

/-- Goes on with the computation that is pending, or comes to rest. -/
def proceed (e : Engine) : Engine :=
  if e.pending then
    let e := { e with pending := false }.start
    { e with worker := .computing e.generation }
  else { e with running := false, worker := .waiting }.endIfClosed

/-- A computation has returned `text`. -/
def returned (e : Engine) (text : StyledText) : Engine :=
  match e.worker with
  | .computing g => ({ e with awaited := none }.publishResult g text).proceed
  | _ => e

/-- A computation has failed, and its worker with it. -/
def raised (e : Engine) : Engine :=
  match e.worker with
  | .computing _ =>
    { e with awaited := none, running := false, pending := false, worker := .absent }.endIfClosed
  | _ => e

/-- Marks the content as out of date if generation `g` is still awaited. -/
def expired (e : Engine) (g : Nat) : Engine :=
  if e.awaited = some g then
    let e := { e with isLate := true }
    if e.content.isStale then e else e.publish e.content.outdated
  else e

/-- The engine after an event. -/
def step (e : Engine) : Event → Engine
  | .trigger forced r => e.trigger forced r
  | .close => e.close
  | .take => e.take
  | .brokeDown =>
    match e.worker with
    | .computing _ => { e with worker := .broken }
    | _ => e
  | .returned text => e.returned text
  | .raised => e.raised
  | .expired g => e.expired g

/-- The engine after events in order. -/
def run (e : Engine) (events : List Event) : Engine := events.foldl step e

/-- The message with which a trigger fails. -/
def triggerError? (e : Engine) (forced : Bool) (r : Reading) : Option String :=
  if e.closed then none
  else
    match (e.gate forced r).1 with
    | .failed message => some message
    | .accepted | .declined => none

end Promptline.Engine
