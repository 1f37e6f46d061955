import Promptline.Proofs.Engine.Control

/-! The end of the stream.  The first close puts it there when the engine is idle, and otherwise the
computation that runs does so when it ends.  Nothing begins after the first close, and nothing is
put after the end. -/

namespace Promptline.Engine

open Promptline.Style

variable {e e' : Engine} {event : Event}

/-- A closed engine stays closed. -/
theorem Change.closed (c : Change e event e') (closed : e.closed = true) : e'.closed = true := by
  cases c with
  | closedBusy | closedIdle => rfl
  | _ => exact closed

/-- Only a close closes an engine. -/
theorem Change.closed_of_ne (c : Change e event e') (hne : event ≠ .close) :
    e'.closed = e.closed := by
  cases c with
  | closedBusy | closedIdle => exact absurd rfl hne
  | _ => rfl

/-- A closed engine begins nothing. -/
theorem Change.generation_of_closed (c : Change e event e') (h : e.Coherent)
    (closed : e.closed = true) :
    e'.generation = e.generation ∧ Moment.begun? ⟨e, event, e'⟩ = none := by
  obtain hnone | ⟨hgen, -⟩ := c.begins h
  · exact hnone
  · cases c with
    | begun isOpen => cases closed.symm.trans isOpen
    | followed _ _ asked => cases asked.symm.trans (h.not_pending_of_closed closed)
    | _ => exact absurd hgen (Nat.ne_of_lt (Nat.lt_succ_self _))

/-- Once a closed engine is idle, it stays so and puts nothing on the stream. -/
theorem Change.at_rest (c : Change e event e') (h : e.Coherent) (closed : e.closed = true)
    (idle : e.running = false) : e'.running = false ∧ e'.updates = e.updates := by
  cases c with
  | begun isOpen | closedIdle isOpen => cases closed.symm.trans isOpen
  | followed _ busy | rested _ busy | failed _ busy => cases busy.symm.trans idle
  | marked inFlight => cases (h.awaited_iff.mp inFlight).1.symm.trans idle
  | _ => exact ⟨idle, rfl⟩

/-- The computation that runs in a closed engine ends with its result or its failure, and the end of
the stream follows at once. -/
theorem Change.updates_of_ended (c : Change e event e') (closed : e.closed = true)
    (busy : e.running = true) (idle : e'.running = false) :
    (∃ text, event = .returned text ∧
      e'.updates = e.updates ++ [.content ⟨text, false⟩, .finished]) ∨
    (event = .raised ∧ e'.updates = e.updates ++ [.finished]) := by
  cases c with
  | @rested text => exact .inl ⟨text, rfl, by rw [if_pos closed]⟩
  | failed => exact .inr ⟨rfl, by rw [if_pos closed]⟩
  | begun | followed => cases idle
  | _ => cases busy.symm.trans idle

/-- The end is on the stream once a closed engine is idle, and it is there only once. -/
theorem count_finished_run (events : List Event) :
    (({} : Engine).run events).updates.count .finished =
      if (({} : Engine).run events).closed && !(({} : Engine).run events).running then 1 else 0 := by
  refine Coherent.init.induct (P := fun _ e =>
    e.updates.count .finished = if e.closed && !e.running then 1 else 0) rfl ?_ events
  intro past event e' h change ih
  cases change with
  | begun isOpen => simpa [isOpen] using ih
  | closedBusy isOpen busy => simpa [isOpen, busy] using ih
  | closedIdle isOpen idle =>
    have hnone : (({} : Engine).run past).updates.count .finished = 0 := by simpa [isOpen] using ih
    rw [List.count_append, hnone]
    simp [idle]
  | followed _ busy => simpa [busy, List.count_append] using ih
  | marked inFlight =>
    have busy := (h.awaited_iff.mp inFlight).1
    simpa [busy, List.count_append] using ih
  | rested _ busy | failed _ busy =>
    have hnone : (({} : Engine).run past).updates.count .finished = 0 := by simpa [busy] using ih
    rw [List.count_append, hnone]
    cases (({} : Engine).run past).closed <;> rfl
  | _ => exact ih

/-- A closed engine stays closed and begins nothing. -/
theorem Coherent.closed_later (h : e.Coherent) (closed : e.closed = true) (later : List Event) :
    (e.run later).closed = true ∧ (e.run later).generation = e.generation ∧
      (moments e later).filterMap Moment.begun? = [] := by
  refine h.induct (P := fun ms e' => e'.closed = true ∧ e'.generation = e.generation ∧
    ms.filterMap Moment.begun? = []) ⟨closed, rfl, rfl⟩ ?_ later
  intro past event e' h' change ih
  obtain ⟨hclosed, hgen, hnone⟩ := ih
  obtain ⟨hgen', hnone'⟩ := change.generation_of_closed h' hclosed
  refine ⟨change.closed hclosed, hgen'.trans hgen, ?_⟩
  simp [List.filterMap_append, hnone, hnone']

/-- A closed engine that is idle stays so and puts nothing on the stream. -/
theorem Coherent.at_rest_later (h : e.Coherent) (closed : e.closed = true)
    (idle : e.running = false) (later : List Event) : (e.run later).updates = e.updates := by
  suffices (e.run later).closed = true ∧ (e.run later).running = false ∧
    (e.run later).updates = e.updates from this.2.2
  refine h.induct (P := fun _ e' => e'.closed = true ∧ e'.running = false ∧
    e'.updates = e.updates) ⟨closed, idle, rfl⟩ ?_ later
  intro past event e' h' change ih
  obtain ⟨hclosed, hidle, hupdates⟩ := ih
  obtain ⟨hidle', hupdates'⟩ := change.at_rest h' hclosed hidle
  exact ⟨change.closed hclosed, hidle', hupdates'.trans hupdates⟩

/-- An engine that nobody has closed is not closed. -/
theorem closed_run {events : List Event} (first : .close ∉ events) :
    (({} : Engine).run events).closed = false := by
  refine Coherent.init.induct_of_forall (P := fun _ e => e.closed = false)
    (q := fun m => m.event ≠ .close) rfl ?_ events fun _ => event_ne_of_mem_moments first
  intro past event e' h change notClose ih
  rw [change.closed_of_ne notClose, ih]

/-- The first close.  It puts the end on the stream if the engine is idle. -/
theorem Coherent.updates_close (h : e.Coherent) (isOpen : e.closed = false) :
    (e.step .close).closed = true ∧
      (e.step .close).updates = e.updates ++ if e.running then [] else [.finished] := by
  have change := h.change .close
  generalize e.step .close = e' at change
  cases change with
  | closedAgain closed => cases closed.symm.trans isOpen
  | notComputing _ report => simp at report
  | closedBusy _ busy => exact ⟨rfl, by rw [if_pos busy, List.append_nil]⟩
  | closedIdle _ idle => exact ⟨rfl, by rw [idle]; rfl⟩

/-- How an engine ends that is closed for the first time after the events `before`.  The end is on the
stream once the engine is idle, and there once.  That call puts it there if the engine is idle, and
otherwise it follows the result or the failure of the computation that runs.  Nothing follows it, no
computation begins any more, and further triggers and closes change nothing. -/
theorem closing_run (before after : List Event) (first : .close ∉ before) :
    let e0 := ({} : Engine).run before
    let e1 := e0.step .close
    let e := e1.run after
    e.updates.count .finished = (if e.running then 0 else 1) ∧
    e1.updates = e0.updates ++ (if e0.running then [] else [.finished]) ∧
    (∀ earlier event later, after = earlier ++ event :: later →
      let d := e1.run earlier
      d.running = true → (d.step event).running = false →
      (∃ text, event = .returned text ∧
        (d.step event).updates = d.updates ++ [.content ⟨text, false⟩, .finished]) ∨
      (event = .raised ∧ (d.step event).updates = d.updates ++ [.finished])) ∧
    (.finished ∈ e.updates → ∀ later, (e.run later).updates = e.updates) ∧
    (moments e1 after).filterMap Moment.begun? = [] ∧
    ∀ forced r, e.step (.trigger forced r) = e ∧ e.step .close = e := by
  intro e0 e1 e
  have h0 : e0.Coherent := Coherent.init.run before
  have h1 : e1.Coherent := (h0.change .close).coherent h0
  have h : e.Coherent := h1.run after
  obtain ⟨closed1, hupdates⟩ := h0.updates_close (closed_run first)
  obtain ⟨closed, -, hnone⟩ := h1.closed_later closed1 after
  have hcount : e.updates.count .finished = if e.running then 0 else 1 := by
    have he : e = ({} : Engine).run (before ++ .close :: after) := by
      rw [run_append]
      rfl
    have := count_finished_run (before ++ .close :: after)
    rw [← he, closed] at this
    cases hr : e.running <;> simpa [hr] using this
  refine ⟨hcount, hupdates, ?_, ?_, hnone, ?_⟩
  · intro earlier event later _ d busy idle
    have hd : d.Coherent := h1.run earlier
    exact (hd.change event).updates_of_ended (h1.closed_later closed1 earlier).1 busy idle
  · intro hmem later
    refine h.at_rest_later closed ?_ later
    cases hr : e.running with
    | false => rfl
    | true =>
      rw [hr] at hcount
      exact absurd hmem (List.count_eq_zero.mp hcount)
  · intro forced r
    exact ⟨if_pos closed, if_pos closed⟩

/-- A computation runs and another one is pending. -/
def pendingBehind : List Event :=
  [.trigger true ⟨.ok none, .ok 0⟩, .take, .trigger true ⟨.ok none, .ok 0⟩]

/-- The computation overruns and returns, and then come a trigger, a timer and a close. -/
def returnedLate : List Event :=
  [.expired 1, .returned (.plain "1> "), .trigger true ⟨.ok none, .ok 0⟩, .expired 1, .close]

theorem closing_pendingBehind :
    .close ∉ pendingBehind ∧
      (((({} : Engine).run pendingBehind).step .close).run returnedLate).updates =
        [.content ⟨placeholder, true⟩, .content ⟨.plain "1> ", false⟩, .finished] ∧
      ∀ later,
        ((((({} : Engine).run pendingBehind).step .close).run returnedLate).run later).updates =
          (((({} : Engine).run pendingBehind).step .close).run returnedLate).updates := by
  have first : .close ∉ pendingBehind := by simp [pendingBehind]
  obtain ⟨-, -, -, hend, -⟩ := closing_run pendingBehind returnedLate first
  exact ⟨first, by decide +kernel, hend (by decide +kernel)⟩

end Promptline.Engine
