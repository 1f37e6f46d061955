import Mathlib.Data.List.Induction
import Promptline.Proofs.Engine.Change

/-! What happens in a run of an engine: which triggers are accepted, which computations begin, what
they return, and which of them are late.  All of it is read off the moments of the run.  `induct` is
the induction over runs, one change at a time. -/

namespace Promptline.Engine

open Promptline.Style

/-- An event, with the engine before and after it. -/
structure Moment where
  before : Engine
  event : Event
  after : Engine

/-- The moments of a run from `e`, the first one first. -/
def moments (e : Engine) : List Event → List Moment
  | [] => []
  | event :: rest => ⟨e, event, e.step event⟩ :: moments (e.step event) rest

namespace Moment

/-- A trigger is accepted: the engine is not closed, and the trigger is forced or passes the gate. -/
def accepts : Moment → Bool
  | ⟨e, .trigger forced r, _⟩ => !e.closed && (e.gate forced r).1 = .accepted
  | _ => false

/-- The computation that begins, if any: it is awaited now and was not before. -/
def begun? (m : Moment) : Option Nat :=
  if m.after.awaited = m.before.awaited then none else m.after.awaited

/-- What generation `g` returns, if it does. -/
def answer? : Moment → (g : Nat) → Option StyledText
  | ⟨e, .returned text, _⟩, g => if e.worker = .computing g then some text else none
  | _, _ => none

/-- A computation comes to an end, with a result or without. -/
def ends : Moment → Bool
  | ⟨e, .returned _, _⟩ | ⟨e, .raised, _⟩ => e.worker.isComputing
  | _ => false

/-- The timer of generation `g` goes off while it is in flight. -/
def overruns : Moment → (g : Nat) → Bool
  | ⟨e, .expired g', _⟩, g => g' = g && e.awaited = some g
  | _, _ => false

/-- A trigger is accepted while generation `g` is in flight. -/
def asksDuring (m : Moment) (g : Nat) : Bool := m.accepts && m.before.awaited = some g

end Moment

theorem run_append (e : Engine) (first second : List Event) :
    e.run (first ++ second) = (e.run first).run second :=
  List.foldl_append

theorem run_concat (e : Engine) (events : List Event) (event : Event) :
    e.run (events ++ [event]) = (e.run events).step event :=
  run_append e events [event]

theorem moments_append (e : Engine) (first second : List Event) :
    moments e (first ++ second) = moments e first ++ moments (e.run first) second := by
  induction first generalizing e with
  | nil => rfl
  | cons event rest ih => exact congrArg _ (ih (e.step event))

theorem moments_concat (e : Engine) (events : List Event) (event : Event) :
    moments e (events ++ [event]) =
      moments e events ++ [⟨e.run events, event, (e.run events).step event⟩] :=
  moments_append e events [event]

/-- A moment is an event of the run with what comes before it. -/
theorem exists_of_mem_moments {e : Engine} {events : List Event} {m : Moment}
    (hm : m ∈ moments e events) :
    ∃ past later, events = past ++ m.event :: later ∧ m.before = e.run past ∧
      m.after = m.before.step m.event := by
  induction events generalizing e with
  | nil => cases hm
  | cons event rest ih =>
    obtain rfl | hm := List.mem_cons.mp hm
    · exact ⟨[], rest, rfl, rfl, rfl⟩
    · obtain ⟨past, later, hrest, hbefore, hafter⟩ := ih hm
      exact ⟨event :: past, later, congrArg _ hrest, hbefore, hafter⟩

theorem event_ne_of_mem_moments {e : Engine} {events : List Event} {event : Event}
    (absent : event ∉ events) {m : Moment} (hm : m ∈ moments e events) : m.event ≠ event := by
  obtain ⟨past, later, rfl, -, -⟩ := exists_of_mem_moments hm
  rintro rfl
  exact absent (List.mem_append_right past (.head later))

/-- What holds at the outset and is kept by every change holds after every run. -/
theorem Coherent.induct {P : List Moment → Engine → Prop} {start : Engine} (h : start.Coherent)
    (init : P [] start)
    (next : ∀ past {event e'}, (start.run past).Coherent → Change (start.run past) event e' →
      P (moments start past) (start.run past) →
      P (moments start past ++ [⟨start.run past, event, e'⟩]) e')
    (events : List Event) : P (moments start events) (start.run events) := by
  suffices (start.run events).Coherent ∧ P (moments start events) (start.run events) from this.2
  induction events using List.reverseRecOn with
  | nil => exact ⟨h, init⟩
  | append_singleton events event ih =>
    obtain ⟨hc, hp⟩ := ih
    have change := hc.change event
    rw [run_concat, moments_concat]
    exact ⟨change.coherent hc, next events hc change hp⟩

/-- `induct` for runs with moments of one kind only. -/
theorem Coherent.induct_of_forall {P : List Moment → Engine → Prop} {q : Moment → Prop}
    {start : Engine} (h : start.Coherent) (init : P [] start)
    (next : ∀ past {event e'}, (start.run past).Coherent → Change (start.run past) event e' →
      q ⟨start.run past, event, e'⟩ → P (moments start past) (start.run past) →
      P (moments start past ++ [⟨start.run past, event, e'⟩]) e')
    (events : List Event) (all : ∀ m ∈ moments start events, q m) :
    P (moments start events) (start.run events) := by
  refine h.induct (P := fun ms e => (∀ m ∈ ms, q m) → P ms e) (fun _ => init) ?_ events all
  intro past event e' hc change ih all
  rw [List.forall_mem_append, List.forall_mem_singleton] at all
  exact next past hc change all.2 (ih all.1)

/-- Runs keep an engine coherent. -/
theorem Coherent.run {e : Engine} (h : e.Coherent) (events : List Event) :
    (e.run events).Coherent :=
  h.induct (P := fun _ e => e.Coherent) h (fun _ _ _ hc change _ => change.coherent hc) events

end Promptline.Engine
