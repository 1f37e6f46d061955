import Promptline.Engine.Note
import Promptline.Number.Binary64

/-! A prompt: an engine with the worker that serves it, the timers that the worker sets, and the
consumer of its updates.  A worker that has settled has to wait: `advance?_settle`. -/

namespace Promptline

open Promptline.Engine Promptline.Number Promptline.Style

/-- How a computation ends: with the text, or with a message. -/
abbrev Outcome := Except String StyledText

/-- An engine at work. -/
structure Prompt where
  engine : Engine := {}
  /-- The computations that have been begun. -/
  calls : Nat := 0
  /-- The generations of all timers ever set, the first one first. -/
  timers : List Nat := []
  /-- The seconds of the running computation's timer, until it goes off. -/
  armed : Option Binary64 := none
  /-- The updates that the consumer has taken. -/
  taken : Nat := 0
  journal : Journal := []
deriving DecidableEq, Repr

namespace Prompt

/-- The content to show. -/
def content (p : Prompt) : Content := p.engine.content

/-- The fragments to show. -/
def fragments (p : Prompt) : List (String × String) := p.content.styled.fragments

/-- The updates that the consumer has not taken. -/
def unread (p : Prompt) : List Update := p.engine.updates.drop p.taken

/-- The consumer takes all updates. -/
def drain (p : Prompt) : Prompt := { p with taken := p.engine.updates.length }

/-- Handles an event and logs what the engine notes about it. -/
def handle (p : Prompt) (event : Event) : Prompt :=
  { p with
    engine := p.engine.step event
    journal := p.journal ++ (p.engine.note? event).toList }

/-- Begins the computation that the worker has come to.  The threshold is asked for first, and a
timer is set if it is positive. -/
def begin (threshold : Except String Binary64) (p : Prompt) : Prompt :=
  match p.engine.worker, threshold with
  | .computing _, .error _ => p.handle .brokeDown
  | .computing g, .ok seconds =>
    { p with
      calls := p.calls + 1
      timers := if seconds.isPositive then p.timers ++ [g] else p.timers
      armed := if seconds.isPositive then some seconds else none
      journal := p.journal ++ [announcement g] }
  | _, _ => p

/-- The worker takes the next request and begins with it, if it waits for one. -/
def take (threshold : Except String Binary64) (p : Prompt) : Prompt :=
  match p.engine.worker with
  | .waiting => (p.handle .take).begin threshold
  | _ => p

/-- The running computation ends, its timer is put out, and the worker begins the next one if one is
pending. -/
def conclude (threshold : Except String Binary64) (outcome : Outcome) (p : Prompt) : Prompt :=
  let p := { p with armed := none }
  match outcome with
  | .ok text => (p.handle (.returned text)).begin threshold
  | .error _ => p.handle .raised

/-- The timer of the running computation goes off. -/
def overrun (p : Prompt) : Prompt :=
  match p.engine.awaited with
  | some g => { p.handle (.expired g) with armed := none }
  | none => p

/-- What the worker can do without waiting for anybody, where `answer n` is what the `n`-th call of
the computation gives at once, if anything. -/
def advance? (threshold : Except String Binary64) (answer : Nat → Option Outcome) (p : Prompt) :
    Option Prompt :=
  match p.engine.worker, p.engine.requests with
  | .waiting, _ :: _ => some (p.take threshold)
  | .computing _, _ => (answer p.calls).map fun outcome => p.conclude threshold outcome
  | _, _ => none

/-- A bound on the moves that the worker can make before it has to wait: two for each request, one
for what is pending and one for what runs. -/
def movesLeft (p : Prompt) : Nat :=
  2 * p.engine.requests.length + (if p.engine.pending then 1 else 0) +
    if p.engine.worker.isComputing then 1 else 0

/-- Lets the worker make up to `fuel` moves. -/
def settleIn (threshold : Except String Binary64) (answer : Nat → Option Outcome) :
    (fuel : Nat) → Prompt → Prompt
  | 0, p => p
  | fuel + 1, p =>
    match p.advance? threshold answer with
    | some p => settleIn threshold answer fuel p
    | none => p

/-- Lets the worker go on until it has to wait. -/
def settle (threshold : Except String Binary64) (answer : Nat → Option Outcome) (p : Prompt) :
    Prompt :=
  settleIn threshold answer p.movesLeft p

theorem movesLeft_begin_le (threshold : Except String Binary64) (p : Prompt) :
    (p.begin threshold).movesLeft ≤ p.movesLeft := by
  unfold begin
  split <;> simp_all [handle, Engine.step, movesLeft, Worker.isComputing]

theorem movesLeft_take_lt {p : Prompt} {r : Request} {rest : List Request}
    (hw : p.engine.worker = .waiting) (hr : p.engine.requests = r :: rest) :
    (p.handle .take).movesLeft < p.movesLeft := by
  cases r <;>
    simp only [movesLeft, handle, Engine.step, Engine.take, hw, hr, Worker.isComputing,
      List.length_cons, Bool.false_eq_true, if_true, if_false] <;>
    omega

theorem movesLeft_returned_lt {p : Prompt} {g : Nat} (text : StyledText)
    (hw : p.engine.worker = .computing g) :
    (p.handle (.returned text)).movesLeft < p.movesLeft := by
  simp only [handle, Engine.step, Engine.returned, Engine.publishResult, Engine.proceed,
    Engine.start, Engine.endIfClosed, Engine.publish, hw]
  split <;> split <;> (try split) <;> simp_all [movesLeft, Worker.isComputing]

theorem movesLeft_raised_lt {p : Prompt} {g : Nat} (hw : p.engine.worker = .computing g) :
    (p.handle .raised).movesLeft < p.movesLeft := by
  simp only [handle, Engine.step, Engine.raised, Engine.endIfClosed, hw]
  split <;>
    simp only [movesLeft, Worker.isComputing, hw, Bool.false_eq_true, if_true, if_false] <;>
    omega

theorem movesLeft_advance?_lt {threshold : Except String Binary64}
    {answer : Nat → Option Outcome} {p q : Prompt} (h : p.advance? threshold answer = some q) :
    q.movesLeft < p.movesLeft := by
  unfold advance? at h
  split at h
  · rename_i hw hr
    cases h
    simp only [take, hw]
    exact Nat.lt_of_le_of_lt (movesLeft_begin_le ..) (movesLeft_take_lt hw hr)
  · rename_i hw
    obtain ⟨outcome, _, rfl⟩ := Option.map_eq_some_iff.mp h
    unfold conclude
    cases outcome with
    | ok text =>
      exact Nat.lt_of_le_of_lt (movesLeft_begin_le ..) (movesLeft_returned_lt text hw)
    | error => exact movesLeft_raised_lt hw
  · cases h

theorem advance?_settleIn (threshold : Except String Binary64) (answer : Nat → Option Outcome)
    {fuel : Nat} {p : Prompt} (h : p.movesLeft ≤ fuel) :
    (settleIn threshold answer fuel p).advance? threshold answer = none := by
  induction fuel generalizing p with
  | zero =>
    unfold settleIn
    cases hp : p.advance? threshold answer with
    | none => rfl
    | some q => have := movesLeft_advance?_lt hp; omega
  | succ fuel ih =>
    unfold settleIn
    cases hp : p.advance? threshold answer with
    | none => exact hp
    | some q => exact ih (by have := movesLeft_advance?_lt hp; omega)

/-- A worker that has settled has to wait. -/
theorem advance?_settle (threshold : Except String Binary64) (answer : Nat → Option Outcome)
    (p : Prompt) : (p.settle threshold answer).advance? threshold answer = none :=
  advance?_settleIn threshold answer (Nat.le_refl _)

/-- Whether a prompt is at rest, computes, or waits in vain for a worker that broke down. -/
inductive Status where
  | idle
  | computing
  | dead
deriving DecidableEq, Repr

def status (p : Prompt) : Status :=
  if !p.engine.running then .idle
  else if p.engine.worker = .broken then .dead
  else .computing

end Prompt

end Promptline
