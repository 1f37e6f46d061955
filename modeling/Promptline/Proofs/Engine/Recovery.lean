import Promptline.Proofs.Engine.Closing
import Promptline.Proofs.Engine.Flight

/-! What a failing computation leaves behind.  The engine comes to rest and keeps what it shows, what
its gate remembers and what it has counted.  An open engine at rest waits for the next accepted
trigger, and this begins a computation like any other. -/

namespace Promptline.Engine

open Promptline.Style

variable {e e' : Engine} {event : Event} {g : Nat}

/-! ### The failure -/

/-- All that a failure changes. -/
theorem step_raised (computing : e.worker = .computing g) :
    e.step .raised =
      { e with
        running := false, pending := false, awaited := none, worker := .absent
        updates := e.updates ++ if e.closed then [.finished] else [] } := by
  simp only [step, raised, computing, endIfClosed_eq]

/-- After a failure the computation that has failed will not be awaited again. -/
theorem Coherent.not_awaited_raised (h : e.Coherent) (computing : e.worker = .computing g)
    (later : List Event) : ((e.step .raised).run later).awaited ≠ some g := by
  have h' := (h.change .raised).coherent h
  obtain ⟨-, rfl⟩ := h.newest computing
  rw [step_raised computing] at h' ⊢
  exact h'.not_awaited_run (Nat.le_refl _) (by simp) later

/-- A timer changes nothing if its computation is not awaited. -/
theorem step_expired (missed : e.awaited ≠ some g) : e.step (.expired g) = e := if_neg missed

/-! ### At rest -/

/-- An open engine at rest does nothing but look at triggers until it accepts one. -/
theorem Change.dormant (c : Change e event e') (h : e.Coherent) (isOpen : e.closed = false)
    (idle : e.running = false) (notClosed : event ≠ .close)
    (declined : Moment.accepts ⟨e, event, e'⟩ = false) : e' = { e with seen := e'.seen } := by
  cases c with
  | begun _ verdict | queued _ verdict =>
    simp [Moment.accepts, isOpen, verdict] at declined
  | closedAgain | closedBusy | closedIdle => exact absurd rfl notClosed
  | tookComputation _ _ busy | followed _ busy | rested _ busy | failed _ busy =>
    cases idle.symm.trans busy
  | tookStop _ _ closed => cases isOpen.symm.trans closed
  | broke computing => cases idle.symm.trans (h.newest computing).1
  | marked inFlight | overran inFlight => cases idle.symm.trans (h.awaited_iff.mp inFlight).1
  | shut | gated | tookNothing | notComputing | tooLate => rfl

theorem Coherent.dormant_run (h : e.Coherent) (isOpen : e.closed = false)
    (idle : e.running = false) {later : List Event} (notClosed : .close ∉ later)
    (declined : ∀ m ∈ moments e later, m.accepts = false) :
    e.run later = { e with seen := (e.run later).seen } := by
  refine h.induct_of_forall (P := fun _ e' => e' = { e with seen := e'.seen })
    (q := fun m => m.event ≠ .close ∧ m.accepts = false) rfl ?_ later
    fun m hm => ⟨event_ne_of_mem_moments notClosed hm, declined m hm⟩
  intro past event e' h' change quiet ih
  have hclosed : (e.run past).closed = false := by rw [ih]; exact isOpen
  have hidle : (e.run past).running = false := by rw [ih]; exact idle
  rw [change.dormant h' hclosed hidle quiet.1 quiet.2, ih]

/-! ### The next computation -/

/-- An accepted trigger begins a computation on a waiting worker if the engine is at rest. -/
theorem Coherent.begins_of_accepts (h : e.Coherent) (idle : e.running = false) {forced : Bool}
    {r : Reading}
    (accepted : Moment.accepts ⟨e, .trigger forced r, e.step (.trigger forced r)⟩ = true) :
    e.step (.trigger forced r) =
      { e with
        seen := (e.step (.trigger forced r)).seen, generation := e.generation + 1, running := true
        awaited := some (e.generation + 1), isLate := false, worker := .waiting
        requests := [.compute (e.generation + 1)] } := by
  have change := h.change (.trigger forced r)
  generalize e.step (.trigger forced r) = e' at change accepted ⊢
  cases change with
  | shut closed => simp [Moment.accepts, closed] at accepted
  | gated _ verdict => simp [Moment.accepts, verdict] at accepted
  | queued _ _ busy => cases idle.symm.trans busy
  | notComputing _ report => simp at report
  | begun => rfl

/-- The engine recovers from every failure, however many came before.  A computation that fails leaves
alone what is shown, what the gate remembers, the count of generations and what is on the stream,
to which a closed engine adds the end.  Nothing runs and nothing is pending, and the timer of that
computation changes nothing any more.  Unless the engine is closed, the next trigger that is accepted
begins a computation of a newer generation: a worker waits for it and takes it, and what it returns
is shown and put on the stream. -/
theorem recovery_run (events : List Event) {g : Nat}
    (computing : (({} : Engine).run events).worker = .computing g) :
    let e := ({} : Engine).run events
    let failed := e.step .raised
    (failed.content = e.content ∧ failed.seen = e.seen ∧ failed.generation = e.generation ∧
      failed.updates = e.updates ++ if e.closed then [.finished] else []) ∧
    (failed.running = false ∧ failed.awaited = none ∧ failed.pending = false ∧
      failed.worker.isComputing = false) ∧
    (∀ later, (failed.run later).step (.expired g) = failed.run later) ∧
    (e.closed = false → ∀ later forced r, .close ∉ later →
      (∀ m ∈ moments failed later, m.accepts = false) →
      let idle := failed.run later
      let begun := idle.step (.trigger forced r)
      Moment.accepts ⟨idle, .trigger forced r, begun⟩ = true →
      (begun.running = true ∧ g < begun.generation ∧ begun.awaited = some begun.generation) ∧
      (begun.worker = .waiting ∧ begun.requests = [.compute begun.generation] ∧
        (begun.step .take).worker = .computing begun.generation) ∧
      ∀ after text, (begun.run after).worker = .computing begun.generation →
        ∃ stale rest, ((begun.run after).step (.returned text)).content = ⟨text, stale⟩ ∧
          ((begun.run after).step (.returned text)).updates =
            (begun.run after).updates ++ .content ⟨text, stale⟩ :: rest) := by
  intro e failed
  have h : e.Coherent := Coherent.init.run events
  have hfailed : failed.Coherent := (h.change .raised).coherent h
  have heq : failed = _ := step_raised computing
  refine ⟨?_, ?_, ?_, ?_⟩
  · rw [heq]
    exact ⟨rfl, rfl, rfl, rfl⟩
  · rw [heq]
    exact ⟨rfl, rfl, rfl, rfl⟩
  · intro later
    exact step_expired (h.not_awaited_raised computing later)
  · intro isOpen later forced r notClosed declined idle begun accepted
    -- until that trigger the engine is as the failure has left it, but for the signal
    have hidle : idle = { failed with seen := idle.seen } :=
      hfailed.dormant_run (by rw [heq]; exact isOpen) (by rw [heq]) notClosed declined
    have atRest : idle.running = false := by rw [hidle, heq]
    have newer : g < idle.generation + 1 := by
      rw [hidle, heq, (h.newest computing).2]
      exact Nat.lt_succ_self _
    have hcoherent : idle.Coherent := hfailed.run later
    have hbegun : begun = _ := hcoherent.begins_of_accepts atRest accepted
    have htake : (begun.step .take).worker = .computing begun.generation := by
      rw [hbegun]
      rfl
    have hrun : begun.Coherent := (hcoherent.change _).coherent hcoherent
    refine ⟨?_, ⟨?_, ?_, htake⟩, fun after text hw => (hrun.run after).published_returned hw text⟩
    · rw [hbegun]
      exact ⟨rfl, newer, rfl⟩
    · rw [hbegun]
    · rw [hbegun]

/-- The first computation fails.  The second one overruns, and another one is pending. -/
def failedBefore : List Event :=
  [.trigger true ⟨.ok none, .ok 0⟩, .take, .raised, .trigger false ⟨.ok (some "/work"), .ok 5⟩,
    .expired 1, .take, .expired 2, .trigger true ⟨.ok none, .ok 0⟩]

/-- A trigger that is declined, and two timers. -/
def nothingNew : List Event :=
  [.trigger false ⟨.ok (some "/work"), .ok 5⟩, .expired 2, .expired 1]

theorem recovery_failedBefore :
    let e := ({} : Engine).run failedBefore
    let idle := (e.step .raised).run nothingNew
    let begun := idle.step (.trigger false ⟨.ok (some "/tmp"), .ok 5⟩)
    (e.worker = .computing 2 ∧ e.isLate = true ∧ e.pending = true) ∧
      idle.updates = [.content ⟨placeholder, true⟩] ∧ idle.step (.expired 2) = idle ∧
      2 < begun.generation ∧ begun.worker = .waiting ∧
      ∃ stale rest, ((begun.step .take).step (.returned (.plain "3> "))).content =
          ⟨.plain "3> ", stale⟩ ∧
        ((begun.step .take).step (.returned (.plain "3> "))).updates =
          (begun.step .take).updates ++ .content ⟨.plain "3> ", stale⟩ :: rest := by
  have computing : (({} : Engine).run failedBefore).worker = .computing 2 := by decide +kernel
  obtain ⟨-, -, late, next⟩ := recovery_run failedBefore computing
  have declined : ∀ m ∈ moments ((({} : Engine).run failedBefore).step .raised) nothingNew,
      m.accepts = false := by decide +kernel
  obtain ⟨⟨-, newer, -⟩, ⟨waiting, -, taken⟩, published⟩ := next (by decide +kernel) nothingNew false
    ⟨.ok (some "/tmp"), .ok 5⟩ (by simp [nothingNew]) declined (by decide +kernel)
  exact ⟨⟨computing, by decide +kernel, by decide +kernel⟩, by decide +kernel, late nothingNew, newer,
    waiting, published [.take] (.plain "3> ") taken⟩

end Promptline.Engine
