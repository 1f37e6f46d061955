import Promptline.Engine.Step

/-! The changes of an engine.  `Coherent` says how the fields of an engine fit together, and `Change`
lists what an event can do to a coherent engine, each time with the condition under which it does so.
Every event is one of these changes, and all of them keep the engine coherent. -/

namespace Promptline.Engine

open Promptline.Style

/-- The computation that has been handed over and that the worker has not taken yet. -/
def untaken (e : Engine) : List Request :=
  if e.running = true ∧ e.worker = .waiting then [.compute e.generation] else []

/-- The fields of an engine fit together. -/
structure Coherent (e : Engine) : Prop where
  awaited : e.awaited = if e.running then some e.generation else none
  counted : e.running = true → 0 < e.generation
  pending : e.pending = true → e.running = true ∧ e.closed = false
  /-- A running engine has a worker, even if a broken one. -/
  attended : e.running = true → e.worker ≠ .absent
  /-- A worker computes nothing but what is awaited. -/
  computing : ∀ g, e.worker = .computing g → e.awaited = some g
  /-- A stop is asked for at most once, after all else and only by a closed engine. -/
  requests : e.requests = e.untaken ∨ e.requests = e.untaken ++ [.stop] ∧ e.closed = true

/-- What an event does to an engine. -/
inductive Change (e : Engine) : Event → Engine → Prop where
  | shut {forced r} (closed : e.closed = true) : Change e (.trigger forced r) e
  | gated {forced r} (isOpen : e.closed = false) (verdict : (e.gate forced r).1 ≠ .accepted) :
      Change e (.trigger forced r) { e with seen := (e.gate forced r).2.seen }
  | queued {forced r} (isOpen : e.closed = false) (verdict : (e.gate forced r).1 = .accepted)
      (busy : e.running = true) :
      Change e (.trigger forced r) { e with seen := (e.gate forced r).2.seen, pending := true }
  | begun {forced r} (isOpen : e.closed = false) (verdict : (e.gate forced r).1 = .accepted)
      (idle : e.running = false) :
      Change e (.trigger forced r)
        { e with
          seen := (e.gate forced r).2.seen, generation := e.generation + 1, running := true
          awaited := some (e.generation + 1), isLate := false, worker := .waiting
          requests := [.compute (e.generation + 1)] }
  | closedAgain (closed : e.closed = true) : Change e .close e
  | closedBusy (isOpen : e.closed = false) (busy : e.running = true) :
      Change e .close
        { e with closed := true, pending := false, requests := e.requests ++ [.stop] }
  | closedIdle (isOpen : e.closed = false) (idle : e.running = false) (requests : List Request)
      (left : requests = [] ∨ requests = [.stop]) :
      Change e .close
        { e with
          closed := true, pending := false, requests, updates := e.updates ++ [.finished] }
  | tookComputation (rest : List Request) (waiting : e.worker = .waiting)
      (busy : e.running = true) (requests : e.requests = .compute e.generation :: rest) :
      Change e .take { e with worker := .computing e.generation, requests := rest }
  | tookStop (waiting : e.worker = .waiting) (idle : e.running = false)
      (closed : e.closed = true) :
      Change e .take { e with worker := .absent, requests := [] }
  | tookNothing (nothing : e.worker ≠ .waiting ∨ e.requests = []) : Change e .take e
  | broke {g : Nat} (computing : e.worker = .computing g) :
      Change e .brokeDown { e with worker := .broken }
  | notComputing {event} (free : e.worker.isComputing = false)
      (report : event = .brokeDown ∨ (∃ text, event = .returned text) ∨ event = .raised) :
      Change e event e
  | followed {text} (computing : e.worker = .computing e.generation) (busy : e.running = true)
      (asked : e.pending = true) :
      Change e (.returned text)
        { e with
          content := ⟨text, e.isLate⟩, updates := e.updates ++ [.content ⟨text, e.isLate⟩]
          running := true, pending := false, generation := e.generation + 1
          awaited := some (e.generation + 1), isLate := false
          worker := .computing (e.generation + 1) }
  | rested {text} (computing : e.worker = .computing e.generation) (busy : e.running = true)
      (unasked : e.pending = false) :
      Change e (.returned text)
        { e with
          content := ⟨text, false⟩, running := false, awaited := none, worker := .waiting
          updates := e.updates ++ .content ⟨text, false⟩ :: if e.closed then [.finished] else [] }
  | failed (computing : e.worker = .computing e.generation) (busy : e.running = true) :
      Change e .raised
        { e with
          running := false, pending := false, awaited := none, worker := .absent
          updates := e.updates ++ if e.closed then [.finished] else [] }
  | marked {g} (inFlight : e.awaited = some g) (fresh : e.content.isStale = false) :
      Change e (.expired g)
        { e with
          isLate := true, content := e.content.outdated
          updates := e.updates ++ [.content e.content.outdated] }
  | overran {g} (inFlight : e.awaited = some g) (stale : e.content.isStale = true) :
      Change e (.expired g) { e with isLate := true }
  | tooLate {g} (missed : e.awaited ≠ some g) : Change e (.expired g) e

/-- Only what has been seen changes at the gate. -/
theorem gate_snd (e : Engine) (forced : Bool) (r : Reading) :
    (e.gate forced r).2 = { e with seen := (e.gate forced r).2.seen } := by
  unfold gate
  split
  · rfl
  · split <;> rfl

/-- Judges a trigger, remembers what it has seen, and follows it if it is accepted. -/
theorem trigger_eq (e : Engine) (forced : Bool) (r : Reading) :
    e.trigger forced r =
      if e.closed then e
      else if (e.gate forced r).1 = .accepted then
        accept { e with seen := (e.gate forced r).2.seen }
      else { e with seen := (e.gate forced r).2.seen } := by
  rw [← gate_snd]
  unfold trigger
  split
  · rfl
  · split <;> simp_all

theorem endIfClosed_eq (e : Engine) :
    e.endIfClosed = { e with updates := e.updates ++ if e.closed then [.finished] else [] } := by
  unfold endIfClosed
  split
  · rfl
  · rw [List.append_nil]

theorem Worker.isComputing_eq_false {w : Worker} (free : ∀ g, w ≠ .computing g) :
    w.isComputing = false := by
  cases w with
  | computing g => exact absurd rfl (free g)
  | absent | waiting | broken => rfl

variable {e e' : Engine} {event : Event} {g : Nat}

namespace Coherent

theorem awaited_of_running (h : e.Coherent) (busy : e.running = true) :
    e.awaited = some e.generation := by
  rw [h.awaited, busy, if_pos rfl]

theorem awaited_of_idle (h : e.Coherent) (idle : e.running = false) : e.awaited = none := by
  rw [h.awaited, idle, if_neg Bool.false_ne_true]

theorem awaited_iff (h : e.Coherent) :
    e.awaited = some g ↔ e.running = true ∧ g = e.generation := by
  rw [h.awaited]
  cases e.running <;> simp [eq_comm]

/-- What a worker computes is the newest computation, and it is awaited. -/
theorem newest (h : e.Coherent) (computing : e.worker = .computing g) :
    e.running = true ∧ g = e.generation :=
  h.awaited_iff.mp (h.computing g computing)

theorem not_pending_of_idle (h : e.Coherent) (idle : e.running = false) : e.pending = false := by
  cases hp : e.pending with
  | false => rfl
  | true => rw [(h.pending hp).1] at idle; cases idle

theorem not_pending_of_closed (h : e.Coherent) (closed : e.closed = true) : e.pending = false := by
  cases hp : e.pending with
  | false => rfl
  | true => rw [(h.pending hp).2] at closed; cases closed

theorem not_computing_of_idle (h : e.Coherent) (idle : e.running = false) :
    e.worker.isComputing = false := by
  cases hw : e.worker with
  | computing g => rw [(h.newest hw).1] at idle; cases idle
  | absent | waiting | broken => rfl

theorem requests_of_idle (h : e.Coherent) (idle : e.running = false) :
    e.requests = [] ∨ e.requests = [.stop] ∧ e.closed = true := by
  simpa [untaken, idle] using h.requests

/-- An idle engine that is not closed hands the next computation to a waiting worker. -/
theorem accept_of_idle (h : e.Coherent) (isOpen : e.closed = false) (idle : e.running = false)
    (seen : Option Signal) :
    accept { e with seen } =
      { e with
        seen, generation := e.generation + 1, running := true
        awaited := some (e.generation + 1), isLate := false, worker := .waiting
        requests := [.compute (e.generation + 1)] } := by
  have hr : e.requests = [] := by simpa [isOpen] using h.requests_of_idle idle
  have hw : (if e.worker.isAlive then e.worker else Worker.waiting) = .waiting := by
    cases hw : e.worker with
    | computing g => simpa [hw, Worker.isComputing] using h.not_computing_of_idle idle
    | absent | waiting | broken => rfl
  simp only [accept, hand, start, idle, hr, hw, List.nil_append, Bool.false_eq_true, if_false]

theorem change_trigger (h : e.Coherent) (forced : Bool) (r : Reading) :
    Change e (.trigger forced r) (e.trigger forced r) := by
  rw [trigger_eq]
  split
  · next closed => exact .shut closed
  next isOpen =>
  replace isOpen := eq_false_of_ne_true isOpen
  split
  · next verdict =>
    by_cases busy : e.running = true
    · simp only [accept, if_pos busy]
      exact .queued isOpen verdict busy
    · have idle := eq_false_of_ne_true busy
      rw [h.accept_of_idle isOpen idle]
      exact .begun isOpen verdict idle
  · next verdict => exact .gated isOpen verdict

theorem change_close (h : e.Coherent) : Change e .close e.close := by
  unfold close
  split
  · next closed => exact .closedAgain closed
  next isOpen =>
  replace isOpen := eq_false_of_ne_true isOpen
  by_cases busy : e.running = true
  · simp only [if_neg (h.attended busy), if_pos busy]
    exact .closedBusy isOpen busy
  · have idle := eq_false_of_ne_true busy
    have hr : e.requests = [] := by simpa [isOpen] using h.requests_of_idle idle
    simp only [if_neg busy, endIfClosed, if_true]
    refine .closedIdle isOpen idle _ ?_
    rw [hr]
    split
    · exact .inl rfl
    · exact .inr rfl

/-- The first request that a waiting worker finds is the newest computation, or the stop of an idle
engine that is closed. -/
theorem requests_of_waiting (h : e.Coherent) (waiting : e.worker = .waiting) {r : Request}
    {rest : List Request} (hr : e.requests = r :: rest) :
    (e.running = true ∧ r = .compute e.generation ∧ (rest = [] ∨ rest = [.stop] ∧ e.closed = true)) ∨
      (e.running = false ∧ r = .stop ∧ rest = [] ∧ e.closed = true) := by
  have hreq := h.requests
  rw [hr] at hreq
  by_cases busy : e.running = true
  · left
    simpa [untaken, busy, waiting, and_assoc, ← and_or_left] using hreq
  · right
    have idle := eq_false_of_ne_true busy
    simpa [untaken, idle, and_assoc] using hreq

theorem change_take (h : e.Coherent) : Change e .take e.take := by
  unfold take
  split
  · next g rest waiting hr =>
    obtain ⟨busy, hg, -⟩ | ⟨-, hg, -⟩ := h.requests_of_waiting waiting hr
    · cases hg
      exact .tookComputation rest waiting busy hr
    · cases hg
  · next rest waiting hr =>
    obtain ⟨-, hg, -⟩ | ⟨idle, -, rfl, closed⟩ := h.requests_of_waiting waiting hr
    · cases hg
    · exact .tookStop waiting idle closed
  · next hcompute hstop =>
    refine .tookNothing ?_
    cases hr : e.requests with
    | nil => exact .inr rfl
    | cons r rest =>
      refine .inl fun waiting => ?_
      cases r with
      | compute g => exact hcompute g rest waiting hr
      | stop => exact hstop rest waiting hr

theorem change_returned (h : e.Coherent) (text : StyledText) :
    Change e (.returned text) (e.returned text) := by
  unfold returned
  split
  · next g computing =>
    obtain ⟨busy, rfl⟩ := h.newest computing
    simp only [publishResult, publish, if_true, proceed]
    split
    · next asked =>
      simp only [asked, start, Bool.and_true]
      exact .followed computing busy asked
    · next unasked =>
      have unasked := eq_false_of_ne_true unasked
      have : Change e (.returned text) _ := .rested computing busy unasked
      simpa only [endIfClosed_eq, unasked, Bool.and_false, List.append_assoc,
        List.singleton_append] using this
  · next free => exact .notComputing (Worker.isComputing_eq_false free) (.inr (.inl ⟨text, rfl⟩))

theorem change_raised (h : e.Coherent) : Change e .raised e.raised := by
  unfold raised
  split
  · next g computing =>
    obtain ⟨busy, rfl⟩ := h.newest computing
    rw [endIfClosed_eq]
    exact .failed computing busy
  · next free => exact .notComputing (Worker.isComputing_eq_false free) (.inr (.inr rfl))

theorem change_expired (e : Engine) (g : Nat) : Change e (.expired g) (e.expired g) := by
  unfold expired
  split
  · next inFlight =>
    simp only
    split
    · next stale => exact .overran inFlight stale
    · next fresh => exact .marked inFlight (eq_false_of_ne_true fresh)
  · next missed => exact .tooLate missed

/-- Every event is one of the changes. -/
theorem change (h : e.Coherent) (event : Event) : Change e event (e.step event) := by
  cases event with
  | trigger forced r => exact h.change_trigger forced r
  | close => exact h.change_close
  | take => exact h.change_take
  | brokeDown =>
    simp only [step]
    split
    · next g computing => exact .broke computing
    · next free => exact .notComputing (Worker.isComputing_eq_false free) (.inl rfl)
  | returned text => exact h.change_returned text
  | raised => exact h.change_raised
  | expired g => exact change_expired e g

theorem init : Coherent {} where
  awaited := rfl
  counted h := by cases h
  pending h := by cases h
  attended h := by cases h
  computing g h := by cases h
  requests := .inl rfl

end Coherent

/-- Changes keep an engine coherent. -/
theorem Change.coherent (c : Change e event e') (h : e.Coherent) : e'.Coherent := by
  cases c with
  | shut | closedAgain | tookNothing | notComputing | tooLate => exact h
  | gated | marked | overran =>
    exact ⟨h.awaited, h.counted, h.pending, h.attended, h.computing, h.requests⟩
  | queued isOpen _ busy =>
    exact ⟨h.awaited, h.counted, fun _ => ⟨busy, isOpen⟩, h.attended, h.computing, h.requests⟩
  | begun isOpen _ idle =>
    exact {
      awaited := rfl
      counted := fun _ => Nat.succ_pos _
      pending := fun hp => by simp [h.not_pending_of_idle idle] at hp
      attended := fun _ => Worker.noConfusion
      computing := fun _ hw => Worker.noConfusion hw
      requests := .inl rfl }
  | closedBusy isOpen busy =>
    refine ⟨h.awaited, h.counted, fun hp => by simp at hp, h.attended, h.computing, .inr ⟨?_, rfl⟩⟩
    have hr := h.requests
    simp only [isOpen, Bool.false_eq_true, and_false, or_false] at hr
    exact congrArg (· ++ [.stop]) hr
  | closedIdle isOpen idle requests left =>
    refine ⟨h.awaited, h.counted, fun hp => by simp at hp, h.attended, h.computing, ?_⟩
    simpa [untaken, idle] using left
  | tookComputation rest waiting busy requests =>
    have hrest : rest = [] ∨ rest = [.stop] ∧ e.closed = true := by
      obtain ⟨-, -, hrest⟩ | ⟨idle, -⟩ := h.requests_of_waiting waiting requests
      · exact hrest
      · rw [busy] at idle; cases idle
    refine ⟨h.awaited, h.counted, h.pending, fun _ => Worker.noConfusion, ?_, by simpa [untaken]⟩
    rintro g ⟨⟩
    exact h.awaited_of_running busy
  | tookStop waiting idle closed =>
    exact ⟨h.awaited, h.counted, h.pending, fun busy => by simp [idle] at busy,
      fun _ hw => Worker.noConfusion hw, by simp [untaken]⟩
  | broke computing =>
    refine ⟨h.awaited, h.counted, h.pending, fun _ => Worker.noConfusion,
      fun _ hw => Worker.noConfusion hw, ?_⟩
    simpa [untaken, computing] using h.requests
  | followed computing busy asked =>
    refine ⟨rfl, fun _ => Nat.succ_pos _, fun hp => by simp at hp, fun _ => Worker.noConfusion,
      fun g hw => congrArg some (Worker.computing.inj hw), ?_⟩
    simpa [untaken, computing] using h.requests
  | rested computing busy unasked =>
    refine ⟨rfl, fun hb => by simp at hb, fun hp => by simp [unasked] at hp,
      fun hb => by simp at hb, fun _ hw => Worker.noConfusion hw, ?_⟩
    simpa [untaken, computing] using h.requests
  | failed computing busy =>
    refine ⟨rfl, fun hb => by simp at hb, fun hp => by simp at hp, fun hb => by simp at hb,
      fun _ hw => Worker.noConfusion hw, ?_⟩
    simpa [untaken, computing] using h.requests

end Promptline.Engine
