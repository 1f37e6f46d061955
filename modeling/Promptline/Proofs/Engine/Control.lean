import Promptline.Engine.Note
import Promptline.Proofs.Engine.Moments

/-! At most one computation is in flight.  Generations count the computations that have begun, the
awaited one is the newest of them, and what a computation returns is always published. -/

namespace Promptline.Engine

open Promptline.Style

variable {e e' : Engine} {event : Event}

/-- A change begins the next generation or none. -/
theorem Change.begins (c : Change e event e') (h : e.Coherent) :
    (e'.generation = e.generation ∧ Moment.begun? ⟨e, event, e'⟩ = none) ∨
      (e'.generation = e.generation + 1 ∧
        Moment.begun? ⟨e, event, e'⟩ = some (e.generation + 1)) := by
  cases c with
  | begun _ _ idle =>
    right
    simp [Moment.begun?, h.awaited_of_idle idle]
  | followed _ busy _ =>
    right
    simp [Moment.begun?, h.awaited_of_running busy]
  | _ =>
    left
    simp [Moment.begun?]

/-- Generations are counted from one, in the order in which they begin. -/
theorem begun_run (events : List Event) :
    (moments {} events).filterMap Moment.begun? =
      List.range' 1 (({} : Engine).run events).generation := by
  refine Coherent.init.induct
    (P := fun ms e => ms.filterMap Moment.begun? = List.range' 1 e.generation) rfl ?_ events
  intro past event e' h change ih
  rw [List.filterMap_append, ih]
  obtain ⟨hg, hm⟩ | ⟨hg, hm⟩ := change.begins h
  · simp [hg, hm]
  · rw [hg, List.range'_1_concat, Nat.add_comm 1]
    simp [hm]

/-- The number of computations that have begun. -/
theorem length_begun_run (events : List Event) :
    ((moments {} events).filterMap Moment.begun?).length =
      (({} : Engine).run events).generation := by
  rw [begun_run, List.length_range']

/-- All computations that have begun have ended, but for the running one. -/
theorem generation_run (events : List Event) :
    (({} : Engine).run events).generation =
      (moments {} events).countP Moment.ends + (({} : Engine).run events).running.toNat := by
  refine Coherent.init.induct
    (P := fun ms e => e.generation = ms.countP Moment.ends + e.running.toNat) rfl ?_ events
  intro past event e' h change ih
  rw [List.countP_append, List.countP_singleton]
  cases change with
  | begun _ _ idle =>
    rw [idle] at ih
    simp [Moment.ends, ih]
  | notComputing free report =>
    obtain rfl | ⟨text, rfl⟩ | rfl := report <;> simp [Moment.ends, free, ih]
  | followed computing busy _ =>
    rw [busy] at ih
    simp [Moment.ends, computing, Worker.isComputing, ih]
  | rested computing busy _ | failed computing busy =>
    rw [busy] at ih
    simp [Moment.ends, computing, Worker.isComputing, ih]
  | _ => simpa [Moment.ends] using ih

theorem Coherent.generation_le (h : e.Coherent) (events : List Event) :
    e.generation ≤ (e.run events).generation := by
  refine h.induct (P := fun _ e' => e.generation ≤ e'.generation) (Nat.le_refl _) ?_ events
  intro past event e' h' change ih
  obtain ⟨hg, -⟩ | ⟨hg, -⟩ := change.begins h' <;> omega

/-- What the worker's computation returns is shown and goes to the stream at once. -/
theorem Coherent.published_returned (h : e.Coherent) {g : Nat} (hw : e.worker = .computing g)
    (text : StyledText) :
    ∃ stale rest, (e.step (.returned text)).content = ⟨text, stale⟩ ∧
      (e.step (.returned text)).updates = e.updates ++ .content ⟨text, stale⟩ :: rest := by
  have change := h.change (.returned text)
  generalize e.step (.returned text) = e' at change
  cases change with
  | notComputing free => simp [hw, Worker.isComputing] at free
  | followed => exact ⟨_, [], rfl, rfl⟩
  | rested => exact ⟨_, _, rfl, rfl⟩

theorem Coherent.updates_returned (h : e.Coherent) {g : Nat} (hw : e.worker = .computing g)
    (text : StyledText) :
    ∃ stale rest, (e.step (.returned text)).updates = e.updates ++ .content ⟨text, stale⟩ :: rest := by
  obtain ⟨stale, rest, -, hupdates⟩ := h.published_returned hw text
  exact ⟨stale, rest, hupdates⟩

/-- The fields that control an engine fit together after every run.  In particular nothing is
superseded: what a computation returns is published and never noted as discarded. -/
theorem control_run (events later : List Event) :
    let ms := moments {} events
    let e := ({} : Engine).run events
    e.running = e.awaited.isSome ∧
    (∀ g, e.awaited = some g → g = e.generation) ∧
    (e.pending = true → e.running = true ∧ e.closed = false) ∧
    e.generation = (ms.filterMap Moment.begun?).length ∧
    e.generation ≤ (e.run later).generation ∧
    (ms.filterMap Moment.begun?).length = ms.countP Moment.ends + e.running.toNat ∧
    ∀ g, e.worker = .computing g → g = e.generation ∧ ∀ text,
      e.note? (.returned text) = none ∧
      ∃ stale rest,
        (e.step (.returned text)).updates = e.updates ++ .content ⟨text, stale⟩ :: rest := by
  intro ms e
  have h : e.Coherent := Coherent.init.run events
  refine ⟨?_, fun g hg => (h.awaited_iff.mp hg).2, h.pending, (length_begun_run events).symm,
    h.generation_le later, ?_, fun g hw => ?_⟩
  · rw [h.awaited]
    cases e.running <;> rfl
  · rw [length_begun_run, generation_run]
  · obtain ⟨-, hg⟩ := h.newest hw
    refine ⟨hg, fun text => ⟨?_, h.updates_returned hw text⟩⟩
    simp [note?, hw, hg]

end Promptline.Engine
