import Promptline.Proofs.Engine.Moments

/-! What passes between the callers and the worker.  The callers leave a generation for the worker only
when nothing runs, and a stop only once and last, so a running engine has its computation either at
the head of the requests, where a worker waits for it, or at a worker.  Only a worker that breaks
down after it has taken a request would leave an engine running for good. -/

namespace Promptline.Engine

open Promptline.Style

/-- The generation that a request is about. -/
def Request.generation? : Request → Option Nat
  | .compute g => some g
  | .stop => none

/-- The generations that have been handed to the worker and that it has not taken. -/
def handed (e : Engine) : List Nat := e.requests.filterMap Request.generation?

variable {e e' : Engine} {event : Event}

/-- A worker breaks down only in a breakdown. -/
theorem Change.sound (c : Change e event e') (whole : event ≠ .brokeDown)
    (sound : e.worker ≠ .broken) : e'.worker ≠ .broken := by
  cases c with
  | broke => exact absurd rfl whole
  | begun | tookComputation | tookStop | followed | rested | failed => exact Worker.noConfusion
  | _ => exact sound

theorem sound_run {events : List Event} (whole : .brokeDown ∉ events) :
    (({} : Engine).run events).worker ≠ .broken := by
  refine Coherent.init.induct_of_forall (P := fun _ e => e.worker ≠ .broken)
    (q := fun m => m.event ≠ .brokeDown) Worker.noConfusion ?_ events
    fun _ => event_ne_of_mem_moments whole
  intro past event e' h change whole sound
  exact change.sound whole sound

namespace Coherent

theorem stop_not_mem_untaken (e : Engine) : .stop ∉ e.untaken := by
  unfold untaken
  split <;> simp

theorem count_stop_le (h : e.Coherent) : e.requests.count .stop ≤ 1 := by
  have hnone := List.count_eq_zero.mpr (stop_not_mem_untaken e)
  obtain hr | ⟨hr, -⟩ := h.requests
  · rw [hr, hnone]
    exact Nat.zero_le 1
  · rw [hr, List.count_append, hnone]
    simp

theorem closed_of_stop (h : e.Coherent) (hmem : .stop ∈ e.requests) : e.closed = true := by
  obtain hr | ⟨-, closed⟩ := h.requests
  · rw [hr] at hmem
    exact absurd hmem (stop_not_mem_untaken e)
  · exact closed

/-- Nothing is behind a stop. -/
theorem last_of_stop (h : e.Coherent) {front behind : List Request}
    (hsplit : e.requests = front ++ .stop :: behind) : behind = [] := by
  have hnot := stop_not_mem_untaken e
  obtain hr | ⟨hr, -⟩ := h.requests
  · rw [← hr, hsplit] at hnot
    simp at hnot
  · rw [hsplit] at hr
    cases behind using List.reverseRecOn with
    | nil => rfl
    | append_singleton rest r =>
      -- the stop at the end is another one, so the first of the two is untaken
      rw [← List.cons_append, ← List.append_assoc] at hr
      rw [← (List.append_inj' hr rfl).1] at hnot
      simp at hnot

theorem handed_eq (h : e.Coherent) : e.handed = e.untaken.filterMap Request.generation? := by
  obtain hr | ⟨hr, -⟩ := h.requests <;> simp [handed, hr, Request.generation?]

theorem length_handed_le (h : e.Coherent) : e.handed.length ≤ 1 := by
  rw [h.handed_eq, untaken]
  split <;> simp [Request.generation?]

/-- Nothing is left for a worker to take when it does not wait or nothing runs. -/
theorem handed_eq_nil (h : e.Coherent) (taken : ¬(e.running = true ∧ e.worker = .waiting)) :
    e.handed = [] := by
  rw [h.handed_eq, untaken, if_neg taken]
  rfl

/-- The first request of a running engine whose worker waits is the newest generation. -/
theorem requests_of_running (h : e.Coherent) (busy : e.running = true)
    (waiting : e.worker = .waiting) : ∃ rest, e.requests = .compute e.generation :: rest := by
  have huntaken : e.untaken = [.compute e.generation] := if_pos ⟨busy, waiting⟩
  obtain hr | ⟨hr, -⟩ := h.requests
  · exact ⟨[], hr.trans huntaken⟩
  · exact ⟨[.stop], by rw [hr, huntaken, List.singleton_append]⟩

/-- The computation of a running engine is at the head of the requests or at its worker, unless the
worker is broken. -/
theorem attended_of_sound (h : e.Coherent) (sound : e.worker ≠ .broken) (busy : e.running = true) :
    (e.requests.head? = some (.compute e.generation) ∧ e.worker = .waiting ∧
      (e.step .take).worker = .computing e.generation) ∨
    (e.handed = [] ∧ ∃ g, e.worker = .computing g ∧ e.awaited = some g) := by
  cases hw : e.worker with
  | absent => exact absurd hw (h.attended busy)
  | broken => exact absurd hw sound
  | waiting =>
    obtain ⟨rest, hr⟩ := h.requests_of_running busy hw
    left
    simp [hr, step, take, hw]
  | computing g =>
    right
    exact ⟨h.handed_eq_nil (by simp [hw]), g, rfl, h.computing g hw⟩

end Coherent

/-- Nothing is stranded between the callers and the worker, in whatever order they take their steps
and timers go off.  The requests hold at most one generation and at most one stop, nothing is behind
a stop, and only a closed engine has one.  A running engine has its newest generation at the head of
the requests, and a worker waits for it and takes it next, or else it has no generation there and a
worker computes the one that is awaited.  Nothing waits and nothing is computed when the engine does
not run. -/
theorem handover_run (events : List Event) :
    let e := ({} : Engine).run events
    e.handed.length ≤ 1 ∧ e.requests.count .stop ≤ 1 ∧
    (∀ front behind, e.requests = front ++ .stop :: behind → behind = []) ∧
    (.stop ∈ e.requests → e.closed = true) ∧
    (.brokeDown ∉ events → e.running = true →
      (e.requests.head? = some (.compute e.generation) ∧ e.worker = .waiting ∧
        (e.step .take).worker = .computing e.generation) ∨
      (e.handed = [] ∧ ∃ g, e.worker = .computing g ∧ e.awaited = some g)) ∧
    (e.running = false → e.handed = [] ∧ e.worker.isComputing = false) := by
  intro e
  have h : e.Coherent := Coherent.init.run events
  refine ⟨h.length_handed_le, h.count_stop_le, fun _ _ => h.last_of_stop, h.closed_of_stop,
    fun whole busy => h.attended_of_sound (sound_run whole) busy, fun idle => ⟨?_, ?_⟩⟩
  · exact h.handed_eq_nil (by simp [idle])
  · exact h.not_computing_of_idle idle

/-- A computation fails, and the engine is closed before a worker has taken the next one. -/
def closedEarly : List Event :=
  [.trigger true ⟨.ok none, .ok 0⟩, .take, .raised, .trigger true ⟨.ok none, .ok 0⟩, .close]

theorem handover_closedEarly :
    let e := ({} : Engine).run closedEarly
    .brokeDown ∉ closedEarly ∧ e.running = true ∧ e.requests = [.compute 2, .stop] ∧
      e.requests.head? = some (.compute e.generation) ∧ e.worker = .waiting ∧
      (e.step .take).worker = .computing e.generation := by
  have whole : .brokeDown ∉ closedEarly := by simp [closedEarly]
  have busy : (({} : Engine).run closedEarly).running = true := by decide +kernel
  have found : (({} : Engine).run closedEarly).requests = [.compute 2, .stop] := by decide +kernel
  obtain ⟨-, -, -, -, attended, -⟩ := handover_run closedEarly
  obtain head | ⟨none, -⟩ := attended whole busy
  · exact ⟨whole, busy, found, head⟩
  · exact absurd none (by decide +kernel)

end Promptline.Engine
