import Promptline.Proofs.Engine.Control

/-! What a run tells about one generation.  It is heard of only while it is in flight, which it is once,
and meanwhile the flags of the engine remember what has been heard. -/

namespace Promptline.Engine

open Promptline.Style

variable {e e' : Engine} {event : Event} {m : Moment} {g : Nat} {text : StyledText}

theorem Moment.of_answer? (h : m.answer? g = some text) :
    m.event = .returned text ∧ m.before.worker = .computing g := by
  unfold answer? at h
  split at h
  · split at h
    · next hw =>
      cases h
      exact ⟨rfl, hw⟩
    · cases h
  · cases h

theorem Moment.overruns_of_answer? (h : m.answer? g = some text) (g' : Nat) :
    m.overruns g' = false := by
  obtain ⟨e, event, e'⟩ := m
  obtain ⟨rfl, -⟩ := Moment.of_answer? h
  rfl

theorem Moment.asksDuring_of_answer? (h : m.answer? g = some text) (g' : Nat) :
    m.asksDuring g' = false := by
  obtain ⟨e, event, e'⟩ := m
  obtain ⟨rfl, -⟩ := Moment.of_answer? h
  rfl

/-- Nothing is heard of a generation that is not in flight. -/
theorem Moment.silent (h : m.before.Coherent) (hg : m.before.awaited ≠ some g) :
    m.overruns g = false ∧ m.asksDuring g = false ∧ m.answer? g = none := by
  refine ⟨?_, ?_, ?_⟩
  · unfold overruns
    split
    · exact Bool.and_eq_false_imp.mpr fun _ => decide_eq_false hg
    · rfl
  · exact Bool.and_eq_false_imp.mpr fun _ => decide_eq_false hg
  · refine Option.eq_none_iff_forall_ne_some.mpr fun text ha => ?_
    exact hg (h.computing g (Moment.of_answer? ha).2)

theorem Moment.awaited_of_begun?_eq_none (h : m.begun? = none) (hg : m.after.awaited = some g) :
    m.before.awaited = some g := by
  unfold begun? at h
  split at h
  · next same => rw [← same, hg]
  · rw [hg] at h
    cases h

/-- A generation that comes in flight is newer than all before. -/
theorem Change.newer (c : Change e event e') (h : e.Coherent) (hg : e.awaited ≠ some g)
    (hg' : e'.awaited = some g) : e.generation < g := by
  obtain ⟨-, hm⟩ | ⟨hgen, -⟩ := c.begins h
  · exact absurd (Moment.awaited_of_begun?_eq_none hm hg') hg
  · have := ((c.coherent h).awaited_iff.mp hg').2
    omega

/-- Of the computations that have begun only the newest is in flight. -/
theorem Coherent.exists_earlier (h : e.Coherent) (busy : e.running = true) :
    ∃ earlier, List.range' 1 e.generation = earlier ++ [e.generation] ∧
      ∀ g ∈ earlier, e.awaited ≠ some g := by
  obtain ⟨n, hn⟩ := Nat.exists_eq_succ_of_ne_zero (Nat.ne_of_gt (h.counted busy))
  refine ⟨List.range' 1 n, ?_, fun g hg hawaited => ?_⟩
  · rw [hn, List.range'_1_concat, Nat.add_comm 1]
  · have := (h.awaited_iff.mp hawaited).2
    rw [List.mem_range'_1] at hg
    omega

/-- A generation that is not awaited any more will never be. -/
theorem Coherent.not_awaited_run (h : e.Coherent) (hg : g ≤ e.generation)
    (missed : e.awaited ≠ some g) (events : List Event) : (e.run events).awaited ≠ some g := by
  suffices g ≤ (e.run events).generation ∧ (e.run events).awaited ≠ some g from this.2
  refine h.induct (P := fun _ e' => g ≤ e'.generation ∧ e'.awaited ≠ some g) ⟨hg, missed⟩ ?_ events
  intro past event e' h change ih
  obtain ⟨hle, hne⟩ := ih
  refine ⟨?_, fun hg' => absurd (change.newer h hne hg') (Nat.not_lt.mpr hle)⟩
  obtain ⟨hgen, -⟩ | ⟨hgen, -⟩ := change.begins h <;> omega

/-- What a worker's computation returns ends its being awaited. -/
theorem Coherent.not_awaited_returned (h : e.Coherent) (hw : e.worker = .computing g)
    (text : StyledText) (later : List Event) :
    ((e.step (.returned text)).run later).awaited ≠ some g := by
  have change := h.change (.returned text)
  have h' := change.coherent h
  obtain ⟨-, rfl⟩ := h.newest hw
  generalize e.step (.returned text) = e' at change h'
  cases change with
  | notComputing free => simp [hw, Worker.isComputing] at free
  | followed => exact h'.not_awaited_run (Nat.le_succ _) (by simp) later
  | rested => exact h'.not_awaited_run (Nat.le_refl _) (by simp) later

theorem coherent_of_mem {events : List Event} (hm : m ∈ moments {} events) :
    m.before.Coherent := by
  obtain ⟨past, -, -, hbefore, -⟩ := exists_of_mem_moments hm
  exact hbefore ▸ Coherent.init.run past

/-- Nothing has been heard of a generation that is still to begin. -/
theorem silent_of_lt {events : List Event} (hm : m ∈ moments {} events)
    (hg : (({} : Engine).run events).generation < g) :
    m.overruns g = false ∧ m.asksDuring g = false ∧ m.answer? g = none := by
  refine Moment.silent (coherent_of_mem hm) fun hawaited => ?_
  obtain ⟨past, later, rfl, hbefore, -⟩ := exists_of_mem_moments hm
  have h := Coherent.init.run past
  rw [hbefore] at hawaited
  have hle := h.generation_le (m.event :: later)
  rw [run_append, (h.awaited_iff.mp hawaited).2] at hg
  omega

theorem any_overruns_of_lt {events : List Event}
    (hg : (({} : Engine).run events).generation < g) :
    (moments {} events).any (·.overruns g) = false :=
  List.any_eq_false.mpr fun _ hm => Bool.eq_false_iff.mp (silent_of_lt hm hg).1

theorem any_asksDuring_of_lt {events : List Event}
    (hg : (({} : Engine).run events).generation < g) :
    (moments {} events).any (·.asksDuring g) = false :=
  List.any_eq_false.mpr fun _ hm => Bool.eq_false_iff.mp (silent_of_lt hm hg).2.1

/-- A generation that has returned is not awaited any more. -/
theorem not_awaited_of_answer? {events : List Event} (hm : m ∈ moments {} events)
    (ha : m.answer? g = some text) : (({} : Engine).run events).awaited ≠ some g := by
  obtain ⟨past, later, hsplit, hbefore, -⟩ := exists_of_mem_moments hm
  obtain ⟨hevent, hw⟩ := Moment.of_answer? ha
  rw [hbefore] at hw
  rw [hsplit, hevent, run_append]
  exact (Coherent.init.run past).not_awaited_returned hw text later

/-- A generation in flight has not returned. -/
theorem answer?_of_awaited {events : List Event} (hg : (({} : Engine).run events).awaited = some g)
    (hm : m ∈ moments {} events) : m.answer? g = none :=
  Option.eq_none_iff_forall_ne_some.mpr fun _ ha => not_awaited_of_answer? hm ha hg

/-- While a generation is in flight, the engine remembers whether its timer has gone off. -/
theorem isLate_run (events : List Event) (hg : (({} : Engine).run events).awaited = some g) :
    (({} : Engine).run events).isLate = (moments {} events).any (·.overruns g) := by
  refine Coherent.init.induct (P := fun ms e => e.awaited = some g →
    e.isLate = ms.any (·.overruns g)) (fun hg => by cases hg) ?_ events hg
  intro past event e' h change ih hg
  rw [List.any_append, List.any_cons, List.any_nil, Bool.or_false]
  cases change with
  | begun | followed =>
    cases hg
    rw [any_overruns_of_lt (Nat.lt_succ_self _)]
    rfl
  | rested | failed => cases hg
  | marked inFlight | overran inFlight =>
    cases inFlight.symm.trans hg
    simp [Moment.overruns, inFlight]
  | @tooLate g' missed =>
    have hne : g' ≠ g := fun heq => missed (heq ▸ hg)
    rw [← ih hg]
    simp [Moment.overruns, hne]
  | notComputing _ report =>
    rw [← ih hg]
    obtain rfl | ⟨text, rfl⟩ | rfl := report <;> simp [Moment.overruns]
  | _ => rw [← ih hg]; simp [Moment.overruns]

/-- While a generation is in flight, the engine remembers whether a trigger has been accepted since it
began, unless a close has come. -/
theorem pending_run (events : List Event) (hg : (({} : Engine).run events).awaited = some g) :
    (({} : Engine).run events).pending =
      ((moments {} events).any (·.asksDuring g) && !(({} : Engine).run events).closed) := by
  refine Coherent.init.induct (P := fun ms e => e.awaited = some g →
    e.pending = (ms.any (·.asksDuring g) && !e.closed)) (fun hg => by cases hg) ?_ events hg
  intro past event e' h change ih hg
  rw [List.any_append, List.any_cons, List.any_nil, Bool.or_false, Bool.and_or_distrib_right]
  cases change with
  | begun _ _ idle =>
    cases hg
    rw [any_asksDuring_of_lt (Nat.lt_succ_self _)]
    simp [Moment.asksDuring, h.awaited_of_idle idle, h.not_pending_of_idle idle]
  | followed =>
    cases hg
    rw [any_asksDuring_of_lt (Nat.lt_succ_self _)]
    rfl
  | rested | failed => cases hg
  | closedBusy | closedIdle => simp
  | queued isOpen verdict =>
    have hask : (({} : Engine).run past).awaited = some g := hg
    simp [Moment.asksDuring, Moment.accepts, isOpen, verdict, hask]
  | gated isOpen verdict =>
    rw [← ih hg]
    simp [Moment.asksDuring, Moment.accepts, verdict]
  | shut closed =>
    rw [← ih hg]
    simp [closed]
  | notComputing _ report =>
    rw [← ih hg]
    obtain rfl | ⟨text, rfl⟩ | rfl := report <;> simp [Moment.asksDuring, Moment.accepts]
  | _ => rw [← ih hg]; simp [Moment.asksDuring, Moment.accepts]

end Promptline.Engine
