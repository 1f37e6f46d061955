import Promptline.Proofs.Engine.Flight

/-! How many computations begin.  A trigger that is accepted while nothing runs begins one.  Those
that are accepted while a computation runs begin one in all, when that computation returns. -/

namespace Promptline.Engine

open Promptline.Style

/-- A trigger is accepted while nothing runs. -/
def Moment.opens (m : Moment) : Bool := m.accepts && !m.before.running

/-- The computation in flight returns while another one is pending. -/
def Moment.resumes (m : Moment) : Bool :=
  (m.answer? m.before.generation).isSome && m.before.pending

/-- Generation `g` returns to an engine that is not closed, after a trigger has been accepted while
it was in flight. -/
def isFollowed (ms : List Moment) (g : Nat) : Bool :=
  ms.any (fun m => (m.answer? g).isSome && !m.before.closed) && ms.any (·.asksDuring g)

variable {e e' : Engine} {event : Event} {m : Moment} {g : Nat} {text : StyledText}

/-- A change begins the next generation when it opens or resumes. -/
theorem Change.begun?_eq (c : Change e event e') (h : e.Coherent) :
    Moment.begun? ⟨e, event, e'⟩ =
      if Moment.opens ⟨e, event, e'⟩ || Moment.resumes ⟨e, event, e'⟩ then some (e.generation + 1)
      else none := by
  unfold Moment.begun? Moment.opens Moment.resumes
  cases c with
  | shut closed => simp [Moment.accepts, Moment.answer?, closed]
  | gated _ verdict => simp [Moment.accepts, Moment.answer?, verdict]
  | queued _ _ busy => simp [Moment.answer?, busy]
  | begun isOpen verdict idle =>
    simp [Moment.accepts, h.awaited_of_idle idle, isOpen, verdict, idle]
  | notComputing free report =>
    have hw : e.worker ≠ .computing e.generation := by
      intro hw
      rw [hw] at free
      cases free
    obtain rfl | ⟨text, rfl⟩ | rfl := report <;> simp [Moment.accepts, Moment.answer?, hw]
  | followed computing busy asked =>
    simp [Moment.answer?, computing, asked, h.awaited_of_running busy]
  | rested _ _ unasked => simp [Moment.accepts, unasked]
  | _ => simp [Moment.accepts, Moment.answer?]

theorem Moment.opens_of_answer? (ha : m.answer? g = some text) : m.opens = false := by
  obtain ⟨e, event, e'⟩ := m
  obtain ⟨rfl, -⟩ := Moment.of_answer? ha
  rfl

/-- Nothing opens and resumes at once. -/
theorem Moment.opens_of_resumes (resumes : m.resumes = true) : m.opens = false := by
  obtain ⟨text, ha⟩ := Option.isSome_iff_exists.mp (Bool.and_eq_true_iff.mp resumes).1
  exact Moment.opens_of_answer? ha

/-- The generation grows by one for what opens and for what resumes. -/
theorem Change.generation_eq (c : Change e event e') (h : e.Coherent) :
    e'.generation = e.generation + (Moment.opens ⟨e, event, e'⟩).toNat +
      (Moment.resumes ⟨e, event, e'⟩).toNat := by
  obtain ⟨hgen, hm⟩ | ⟨hgen, hm⟩ := c.begins h <;> rw [c.begun?_eq h] at hm
  · have hnot : ¬(Moment.opens ⟨e, event, e'⟩ || Moment.resumes ⟨e, event, e'⟩) = true := by
      intro hstart
      rw [if_pos hstart] at hm
      cases hm
    obtain ⟨hopens, hresumes⟩ := Bool.or_eq_false_iff.mp (eq_false_of_ne_true hnot)
    rw [hgen, hopens, hresumes]
    rfl
  · have hstart : (Moment.opens ⟨e, event, e'⟩ || Moment.resumes ⟨e, event, e'⟩) = true := by
      by_contra hnot
      rw [if_neg hnot] at hm
      cases hm
    cases hresumes : Moment.resumes ⟨e, event, e'⟩ with
    | true =>
      rw [hgen, Moment.opens_of_resumes hresumes]
      rfl
    | false =>
      rw [hresumes, Bool.or_false] at hstart
      rw [hgen, hstart]
      rfl

section Concat

variable {past : List Event} (hm : m.before = ({} : Engine).run past)
include hm

/-- Nothing changes for a generation that is not in flight. -/
theorem isFollowed_concat_of_ne (hg : m.before.awaited ≠ some g) :
    isFollowed (moments {} past ++ [m]) g = isFollowed (moments {} past) g := by
  obtain ⟨-, hask, hanswer⟩ := Moment.silent (hm ▸ Coherent.init.run past) hg
  simp [isFollowed, hask, hanswer]

/-- The generation in flight has not been followed. -/
theorem isFollowed_of_awaited (hg : m.before.awaited = some g) :
    isFollowed (moments {} past) g = false := by
  refine Bool.and_eq_false_imp.mpr fun hany => ?_
  obtain ⟨n, hn, hanswer⟩ := List.any_eq_true.mp hany
  rw [answer?_of_awaited (hm ▸ hg) hn] at hanswer
  cases hanswer

/-- The generation in flight is followed if it returns now while another one is pending. -/
theorem isFollowed_concat (hg : m.before.awaited = some g) :
    isFollowed (moments {} past ++ [m]) g = ((m.answer? g).isSome && m.before.pending) := by
  have hpending := pending_run past (hm ▸ hg)
  rw [← hm] at hpending
  have hnone :
      (moments {} past).any (fun n => (n.answer? g).isSome && !n.before.closed) = false := by
    refine List.any_eq_false.mpr fun n hn => ?_
    rw [answer?_of_awaited (hm ▸ hg) hn]
    exact Bool.false_ne_true
  rw [isFollowed, List.any_append, List.any_append, hnone]
  cases ha : m.answer? g with
  | none => simp [ha]
  | some text => simp [ha, hpending, Moment.asksDuring_of_answer? ha, Bool.and_comm]

/-- A moment adds one to the generations that are followed, if it resumes. -/
theorem countP_isFollowed_concat :
    (List.range' 1 m.before.generation).countP (isFollowed (moments {} past ++ [m])) =
      (List.range' 1 m.before.generation).countP (isFollowed (moments {} past)) +
        m.resumes.toNat := by
  have h : m.before.Coherent := hm ▸ Coherent.init.run past
  by_cases busy : m.before.running = true
  · have hg := h.awaited_of_running busy
    obtain ⟨earlier, hrange, hnot⟩ := h.exists_earlier busy
    have hearlier : earlier.countP (isFollowed (moments {} past ++ [m])) =
        earlier.countP (isFollowed (moments {} past)) := by
      refine List.countP_congr fun g hg' => ?_
      rw [isFollowed_concat_of_ne hm (hnot g hg')]
    rw [hrange, List.countP_append, List.countP_append, hearlier, List.countP_singleton,
      List.countP_singleton, isFollowed_concat hm hg, isFollowed_of_awaited hm hg, Moment.resumes]
    cases (m.answer? m.before.generation).isSome && m.before.pending <;> rfl
  · have idle := eq_false_of_ne_true busy
    have hg := h.awaited_of_idle idle
    have hsame : isFollowed (moments {} past ++ [m]) = isFollowed (moments {} past) := by
      funext g
      exact isFollowed_concat_of_ne hm (by simp [hg])
    rw [hsame, Moment.resumes, h.not_pending_of_idle idle, Bool.and_false]
    rfl

end Concat

/-- A generation that is still to begin is not followed. -/
theorem isFollowed_of_lt {events : List Event} (hg : (({} : Engine).run events).generation < g) :
    isFollowed (moments {} events) g = false := by
  rw [isFollowed, any_asksDuring_of_lt hg, Bool.and_false]

/-- Whether a computation is followed is settled when it returns, by what is pending then. -/
theorem isFollowed_of_answer? {events : List Event} (hm : m ∈ moments {} events)
    (ha : m.answer? g = some text) : isFollowed (moments {} events) g = m.before.pending := by
  induction events using List.reverseRecOn with
  | nil => cases hm
  | append_singleton events event ih =>
    rw [moments_concat] at hm ⊢
    obtain hm | hm := List.mem_append.mp hm
    · rw [isFollowed_concat_of_ne rfl (not_awaited_of_answer? hm ha)]
      exact ih hm
    · obtain rfl := List.mem_singleton.mp hm
      have hg := (Coherent.init.run events).computing g (Moment.of_answer? ha).2
      rw [isFollowed_concat rfl hg, ha, Option.isSome_some, Bool.true_and]

/-- Computations begin one for each trigger that opens, and one after each computation that is
followed. -/
theorem generation_eq_opens (events : List Event) :
    (({} : Engine).run events).generation =
      (moments {} events).countP Moment.opens +
        (List.range' 1 (({} : Engine).run events).generation).countP
          (isFollowed (moments {} events)) := by
  induction events using List.reverseRecOn with
  | nil => rfl
  | append_singleton past event ih =>
    have h := Coherent.init.run past
    have change := h.change event
    have hgen := change.generation_eq h
    have hcount := countP_isFollowed_concat
      (m := ⟨({} : Engine).run past, event, (({} : Engine).run past).step event⟩) rfl
    -- what begins now has not returned
    have hnew : (List.range' 1 ((({} : Engine).run past).step event).generation).countP
          (isFollowed (moments {} (past ++ [event]))) =
        (List.range' 1 (({} : Engine).run past).generation).countP
          (isFollowed (moments {} (past ++ [event]))) := by
      obtain ⟨hsame, -⟩ | ⟨hnext, -⟩ := change.begins h
      · rw [hsame]
      · have hnot : isFollowed (moments {} (past ++ [event]))
            (1 + (({} : Engine).run past).generation) = false := by
          rw [moments_concat, isFollowed_concat_of_ne rfl, isFollowed_of_lt (by omega)]
          intro hawaited
          have := (h.awaited_iff.mp hawaited).2
          omega
        rw [hnext, List.range'_1_concat, List.countP_append, List.countP_singleton, hnot]
        rfl
    rw [run_concat, hnew, moments_concat, hcount, hgen, List.countP_append, List.countP_singleton]
    cases Moment.opens ⟨({} : Engine).run past, event, (({} : Engine).run past).step event⟩ <;>
      simp only [Bool.toNat_true, Bool.toNat_false, if_true, Bool.false_eq_true, if_false] <;> omega

/-- What begins at a moment of a run. -/
theorem begun?_of_mem {events : List Event} (hm : m ∈ moments {} events) :
    m.begun? = if m.opens || m.resumes then some (m.before.generation + 1) else none := by
  have h := coherent_of_mem hm
  obtain ⟨past, later, -, -, hafter⟩ := exists_of_mem_moments hm
  obtain ⟨e, event, e'⟩ := m
  obtain rfl : e' = e.step event := hafter
  exact (h.change event).begun?_eq h

/-- The number of computations.  One begins at each trigger that is accepted while nothing runs, and
one when a computation returns to an engine that is not closed after at least one trigger was
accepted while it was in flight.  Nothing else begins one: neither a trigger that is declined nor a
second one that is accepted during the same computation. -/
theorem coalescing_run (events : List Event) :
    let ms := moments {} events
    let begun := ms.filterMap Moment.begun?
    begun.length =
      ms.countP (fun m => m.accepts && !m.before.running) + begun.countP (isFollowed ms) ∧
    (∀ m ∈ ms, m.accepts = true → m.before.running = false →
      m.begun? = some (m.before.generation + 1)) ∧
    (∀ m ∈ ms, ∀ g text, m.answer? g = some text →
      m.begun? = if isFollowed ms g then some (g + 1) else none) ∧
    (∀ m ∈ ms, (m.accepts = false ∨ m.before.running = true) → (∀ g, m.answer? g = none) →
      m.begun? = none) ∧
    ((∀ m ∈ ms, m.accepts = false) → begun = []) := by
  intro ms begun
  have hbegun : begun = List.range' 1 (({} : Engine).run events).generation := begun_run events
  have hcount : begun.length = ms.countP Moment.opens + begun.countP (isFollowed ms) := by
    rw [hbegun, List.length_range']
    exact generation_eq_opens events
  refine ⟨hcount, ?_, ?_, ?_, ?_⟩
  · intro m hm accepted idle
    rw [begun?_of_mem hm, Moment.opens, accepted, idle]
    rfl
  · intro m hm g text ha
    obtain ⟨-, hg⟩ := (coherent_of_mem hm).newest (Moment.of_answer? ha).2
    rw [begun?_of_mem hm, isFollowed_of_answer? hm ha, Moment.opens_of_answer? ha, Moment.resumes,
      ← hg, ha, Option.isSome_some, Bool.true_and, Bool.false_or]
  · intro m hm shut silent
    have hopens : m.opens = false := by
      obtain declined | busy := shut
      · rw [Moment.opens, declined, Bool.false_and]
      · rw [Moment.opens, busy, Bool.not_true, Bool.and_false]
    rw [begun?_of_mem hm, hopens, Moment.resumes, silent]
    rfl
  · intro declined
    have hopens : ms.countP Moment.opens = 0 := by
      refine List.countP_eq_zero.mpr fun m hm => ?_
      rw [Moment.opens, declined m hm]
      exact Bool.false_ne_true
    have hfollowed : begun.countP (isFollowed ms) = 0 := by
      refine List.countP_eq_zero.mpr fun g _ followed => ?_
      obtain ⟨m, hm, asks⟩ := List.any_eq_true.mp (Bool.and_eq_true_iff.mp followed).2
      rw [Moment.asksDuring, declined m hm] at asks
      cases asks
    rw [hopens, hfollowed] at hcount
    exact List.length_eq_zero_iff.mp hcount

end Promptline.Engine
