import Promptline.Proofs.Engine.Closing

/-! Which triggers an engine accepts.  The gate judges a trigger when it comes, whether a computation
runs or not, and all that it remembers is the signal of the last unforced trigger.  So its verdicts
follow from the triggers alone: when computations return or fail, what they return and which timers
go off makes no difference to them. -/

namespace Promptline.Engine

open Promptline.Style

/-- The trigger that an event is, if it is one: whether it is forced, and what it can read. -/
def Event.trigger? : Event → Option (Bool × Reading)
  | .trigger forced r => some (forced, r)
  | _ => none

/-- The signal that an event reads, if it is an unforced trigger that can read it. -/
def Event.signal? : Event → Option Signal
  | .trigger false ⟨.ok signal, _⟩ => some signal
  | _ => none

def Event.closes : Event → Bool
  | .close => true
  | _ => false

/-- The triggers before the first close. -/
def asked (events : List Event) : List (Bool × Reading) :=
  (events.takeWhile (!·.closes)).filterMap Event.trigger?

/-- The signal of the last unforced trigger. -/
def lastSignal (events : List Event) : Option Signal := (events.filterMap Event.signal?).getLast?

/-- The judgement on a trigger that comes to an engine before it is closed: whether the trigger is
accepted, and the signal that is remembered after it. -/
def Moment.judgement? (m : Moment) : Option (Bool × Option Signal) :=
  if m.before.closed then none else m.event.trigger?.map fun _ => (m.accepts, m.after.seen)

/-- The judgements of a gate that remembers `seen` on triggers in order. -/
def judgements (seen : Option Signal) : List (Bool × Reading) → List (Bool × Option Signal)
  | [] => []
  | (forced, r) :: rest =>
    let gated := ({ seen } : Engine).gate forced r
    (gated.1 = .accepted, gated.2.seen) :: judgements gated.2.seen rest

variable {e e' : Engine} {event : Event}

theorem asked_trigger (forced : Bool) (r : Reading) (rest : List Event) :
    asked (.trigger forced r :: rest) = (forced, r) :: asked rest := rfl

theorem asked_close (rest : List Event) : asked (.close :: rest) = [] := rfl

theorem asked_other (other : event.trigger? = none) (stays : event.closes = false)
    (rest : List Event) : asked (event :: rest) = asked rest := by
  simp [asked, other, stays]

/-! ### The gate -/

/-- The gate looks at nothing but the signal that it remembers. -/
theorem gate_eq_of_seen (e : Engine) (forced : Bool) (r : Reading) :
    (e.gate forced r).1 = (({ seen := e.seen } : Engine).gate forced r).1 ∧
      (e.gate forced r).2.seen = (({ seen := e.seen } : Engine).gate forced r).2.seen := by
  unfold gate
  split
  · exact ⟨rfl, rfl⟩
  · split <;> exact ⟨rfl, rfl⟩

/-- An unforced trigger leaves its signal at the gate, if it can read it. -/
theorem gate_seen (e : Engine) (forced : Bool) (r : Reading) :
    (e.gate forced r).2.seen = (Event.trigger forced r).signal?.or e.seen := by
  obtain ⟨signal, eagerness⟩ := r
  cases forced with
  | true => rfl
  | false =>
    cases signal with
    | error message => rfl
    | ok signal => cases eagerness <;> rfl

theorem gate_accepts_iff (e : Engine) (forced : Bool) (r : Reading) :
    (e.gate forced r).1 = .accepted ↔
      forced = true ∨ ∃ signal level, r.signal = .ok signal ∧ r.eagerness = .ok level ∧
        (10 ≤ level ∨ 5 ≤ level ∧ e.seen ≠ some signal) := by
  obtain ⟨signal, eagerness⟩ := r
  cases forced with
  | true => simp [gate]
  | false =>
    cases signal with
    | error message => simp [gate]
    | ok signal =>
      cases eagerness with
      | error message => simp [gate]
      | ok level =>
        by_cases same : e.seen = some signal
        · simp [gate, isEager, same, eagerAlways]
        · simp [gate, isEager, same, eagerOnChange]
          omega

/-! ### Changes -/

/-- Nothing but a trigger of an open engine has a part in what the gate remembers. -/
theorem Change.seen_of_trigger?_eq_none (c : Change e event e') (other : event.trigger? = none) :
    e'.seen = e.seen := by
  cases c with
  | gated | queued | begun => cases other
  | _ => rfl

theorem Change.seen_of_trigger {forced : Bool} {r : Reading}
    (c : Change e (.trigger forced r) e') (isOpen : e.closed = false) :
    e'.seen = (e.gate forced r).2.seen := by
  cases c with
  | shut closed => cases closed.symm.trans isOpen
  | notComputing _ report => simp at report
  | gated | queued | begun => rfl

/-- A trigger that is not accepted changes nothing but what the gate remembers. -/
theorem Change.eq_of_declined {forced : Bool} {r : Reading} (c : Change e (.trigger forced r) e')
    (declined : Moment.accepts ⟨e, .trigger forced r, e'⟩ = false) :
    e' = { e with seen := e'.seen } := by
  cases c with
  | queued isOpen verdict | begun isOpen verdict =>
    simp [Moment.accepts, isOpen, verdict] at declined
  | notComputing _ report => simp at report
  | shut | gated => rfl

/-! ### Runs -/

theorem lastSignal_concat (events : List Event) (event : Event) :
    lastSignal (events ++ [event]) = event.signal?.or (lastSignal events) := by
  unfold lastSignal
  cases hs : event.signal? <;> simp [List.filterMap_append, hs]

/-- Until an engine is closed it remembers the signal of the last unforced trigger. -/
theorem seen_run {events : List Event} (isOpen : .close ∉ events) :
    (({} : Engine).run events).seen = lastSignal events := by
  induction events using List.reverseRecOn with
  | nil => rfl
  | append_singleton events event ih =>
    simp only [List.mem_append, not_or] at isOpen
    have change := (Coherent.init.run events).change event
    rw [run_concat, lastSignal_concat, ← ih isOpen.1]
    cases event with
    | trigger forced r => rw [change.seen_of_trigger (closed_run isOpen.1), gate_seen]
    | _ => exact change.seen_of_trigger?_eq_none rfl

/-- A closed engine judges nothing any more. -/
theorem Coherent.judgements_of_closed (h : e.Coherent) (closed : e.closed = true)
    (events : List Event) : (moments e events).filterMap Moment.judgement? = [] := by
  refine List.filterMap_eq_nil_iff.mpr fun m hm => ?_
  obtain ⟨past, -, -, hbefore, -⟩ := exists_of_mem_moments hm
  have hclosed : m.before.closed = true := by
    rw [hbefore]
    exact (h.closed_later closed past).1
  exact if_pos hclosed

/-- What an open engine judges of its triggers follows from these and from what its gate remembers. -/
theorem Coherent.judgements_eq (h : e.Coherent) (isOpen : e.closed = false) (events : List Event) :
    (moments e events).filterMap Moment.judgement? = judgements e.seen (asked events) := by
  induction events generalizing e with
  | nil => rfl
  | cons event rest ih =>
    have change := h.change event
    have h' := change.coherent h
    rw [moments, List.filterMap_cons]
    cases event with
    | trigger forced r =>
      have stays : (e.step (.trigger forced r)).closed = false := by
        rw [change.closed_of_ne Event.noConfusion, isOpen]
      obtain ⟨hverdict, hseen⟩ := gate_eq_of_seen e forced r
      have hafter := (change.seen_of_trigger isOpen).trans hseen
      rw [ih h' stays, hafter, asked_trigger]
      simp [Moment.judgement?, Moment.accepts, Event.trigger?, isOpen, hverdict, hafter, judgements]
    | close =>
      -- neither side looks at what comes after the close
      rw [h'.judgements_of_closed (h.updates_close isOpen).1, asked_close]
      simp [Moment.judgement?, Event.trigger?, judgements]
    | take | brokeDown | returned | raised | expired =>
      have stays := change.closed_of_ne Event.noConfusion
      rw [ih h' (stays.trans isOpen), change.seen_of_trigger?_eq_none rfl, asked_other rfl rfl]
      simp [Moment.judgement?, Event.trigger?]

/-- The gate does not depend on the computations.  Two runs with the same triggers before they are
closed accept the same of them, and remember the same signal after each, however their computations
and timers differ.  A trigger is accepted if it is forced, if its eagerness is at least 10, or if that
is at least 5 and its signal is not that of the last unforced trigger before it.  A forced trigger is
not read and leaves nothing at the gate, and a trigger that is not accepted changes nothing but what
the gate remembers. -/
theorem gating_run (first second : List Event) (same : asked first = asked second) :
    (moments {} first).filterMap Moment.judgement? =
      (moments {} second).filterMap Moment.judgement? ∧
    ∀ (events : List Event) (forced : Bool) (r : Reading), .close ∉ events →
      let e := ({} : Engine).run events
      let m : Moment := ⟨e, .trigger forced r, e.step (.trigger forced r)⟩
      m.judgement? = some (m.accepts, (Event.trigger forced r).signal?.or (lastSignal events)) ∧
      (m.accepts = true ↔
        forced = true ∨ ∃ signal level, r.signal = .ok signal ∧ r.eagerness = .ok level ∧
          (10 ≤ level ∨ 5 ≤ level ∧ lastSignal events ≠ some signal)) ∧
      (forced = true → m.after.seen = e.seen ∧ ∀ r', m.after = e.step (.trigger true r')) ∧
      (m.accepts = false → m.after = { e with seen := m.after.seen }) := by
  constructor
  · rw [Coherent.init.judgements_eq rfl first, Coherent.init.judgements_eq rfl second, same]
  · intro events forced r notClosed e m
    have change : Change e (.trigger forced r) m.after := (Coherent.init.run events).change _
    have isOpen : e.closed = false := closed_run notClosed
    have hseen : m.after.seen = (Event.trigger forced r).signal?.or (lastSignal events) := by
      rw [change.seen_of_trigger isOpen, gate_seen, ← seen_run notClosed]
    refine ⟨?_, ?_, ?_, change.eq_of_declined⟩
    · rw [← hseen]
      simp [m, Moment.judgement?, Event.trigger?, isOpen]
    · have hgate := gate_accepts_iff e forced r
      rw [seen_run notClosed] at hgate
      rw [← hgate]
      simp [m, Moment.accepts, isOpen]
    · rintro rfl
      exact ⟨change.seen_of_trigger isOpen, fun r' => rfl⟩

/-- The second trigger comes while the computation of the first one runs, which overruns and returns
after the third.  The engine is closed before the last trigger. -/
def overtaken : List Event :=
  [.trigger false ⟨.ok (some "/work"), .ok 5⟩, .take, .trigger false ⟨.ok (some "/work"), .ok 5⟩,
    .expired 1, .trigger false ⟨.ok (some "/tmp"), .ok 9⟩, .returned (.plain "1> "),
    .trigger true ⟨.error "gone", .ok 0⟩, .trigger false ⟨.ok (some "/tmp"), .ok 9⟩, .close,
    .trigger true ⟨.ok none, .ok 0⟩]

/-- The same triggers, but each computation has failed before the next one comes. -/
def failingBetween : List Event :=
  [.trigger false ⟨.ok (some "/work"), .ok 5⟩, .take, .raised,
    .trigger false ⟨.ok (some "/work"), .ok 5⟩, .trigger false ⟨.ok (some "/tmp"), .ok 9⟩, .take,
    .raised, .expired 1, .trigger true ⟨.error "gone", .ok 0⟩,
    .trigger false ⟨.ok (some "/tmp"), .ok 9⟩, .take, .raised]

theorem gating_overtaken :
    asked overtaken = asked failingBetween ∧
      (moments {} overtaken).filterMap Moment.judgement? =
        (moments {} failingBetween).filterMap Moment.judgement? ∧
      (moments {} overtaken).filterMap Moment.judgement? =
        [(true, some (some "/work")), (false, some (some "/work")), (true, some (some "/tmp")),
          (true, some (some "/tmp")), (false, some (some "/tmp"))] := by
  have same : asked overtaken = asked failingBetween := rfl
  obtain ⟨judged, -⟩ := gating_run overtaken failingBetween same
  exact ⟨same, judged, by decide +kernel⟩

end Promptline.Engine
