import Promptline.Proofs.Engine.Flight

/-! No accepted trigger is lost.  As long as nobody closes the engine and no computation fails, an
idle engine shows the result of a computation that the last accepted trigger did not come too late
for, and a running engine either runs such a computation or is going to. -/

namespace Promptline.Engine

open Promptline.Style

/-- Generation `g` began at the last accepted trigger or after it. -/
def BegunSince (ms : List Moment) (g : Nat) : Prop :=
  ∃ earlier m later, ms = earlier ++ m :: later ∧ m.begun? = some g ∧
    ∀ n ∈ later, n.accepts = false

/-- What is shown is the result of a computation that began at the last accepted trigger or after it,
or no trigger has been accepted. -/
def UpToDate (ms : List Moment) (e : Engine) : Prop :=
  ((∀ m ∈ ms, m.accepts = false) ∧ e.content = ⟨placeholder, false⟩) ∨
    ∃ g text, BegunSince ms g ∧ (∃ m ∈ ms, m.answer? g = some text) ∧ e.content = ⟨text, false⟩

/-- An idle engine is up to date, and a running one is going to be. -/
structure Promised (ms : List Moment) (e : Engine) : Prop where
  idle : e.running = false → UpToDate ms e
  busy : e.running = true → BegunSince ms e.generation ∨ e.pending = true

variable {e e' : Engine} {event : Event} {ms : List Moment} {m : Moment} {g : Nat}

theorem BegunSince.now (hm : m.begun? = some g) : BegunSince (ms ++ [m]) g :=
  ⟨ms, m, [], rfl, hm, by simp⟩

theorem BegunSince.concat (h : BegunSince ms g) (hm : m.accepts = false) :
    BegunSince (ms ++ [m]) g := by
  obtain ⟨earlier, b, later, rfl, hb, hlater⟩ := h
  refine ⟨earlier, b, later ++ [m], by simp, hb, fun n hn => ?_⟩
  obtain hn | hn := List.mem_append.mp hn
  · exact hlater n hn
  · rw [List.mem_singleton.mp hn]
    exact hm

theorem UpToDate.concat (h : UpToDate ms e) (hm : m.accepts = false)
    (hcontent : e'.content = e.content) : UpToDate (ms ++ [m]) e' := by
  unfold UpToDate
  rw [hcontent]
  obtain ⟨hnone, hc⟩ | ⟨g, text, hbegun, ⟨a, ha, hanswer⟩, hc⟩ := h
  · refine .inl ⟨fun n hn => ?_, hc⟩
    obtain hn | hn := List.mem_append.mp hn
    · exact hnone n hn
    · rw [List.mem_singleton.mp hn]
      exact hm
  · exact .inr ⟨g, text, hbegun.concat hm, ⟨a, List.mem_append_left _ ha, hanswer⟩, hc⟩

/-- A moment keeps the promise if it accepts nothing and leaves alone what the promise is about. -/
theorem Promised.quiet (h : Promised ms e) (hm : m.accepts = false)
    (running : e'.running = e.running) (generation : e'.generation = e.generation)
    (pending : e'.pending = e.pending) (content : e.running = false → e'.content = e.content) :
    Promised (ms ++ [m]) e' := by
  refine ⟨fun idle => ?_, fun busy => ?_⟩
  · rw [running] at idle
    exact (h.idle idle).concat hm (content idle)
  · rw [running] at busy
    rw [generation, pending]
    exact (h.busy busy).imp_left fun hb => hb.concat hm

/-- Every change keeps the promise, unless it closes the engine or is a failure. -/
theorem Change.promised (c : Change e event e') (h : e.Coherent) (p : Promised ms e)
    (isOpen : event ≠ .close) (sound : event ≠ .raised) :
    Promised (ms ++ [⟨e, event, e'⟩]) e' := by
  cases c with
  | shut closed => exact p.quiet (by simp [Moment.accepts, closed]) rfl rfl rfl fun _ => rfl
  | gated _ verdict => exact p.quiet (by simp [Moment.accepts, verdict]) rfl rfl rfl fun _ => rfl
  | queued _ _ busy =>
    exact ⟨fun idle => absurd (busy.symm.trans idle) (by decide), fun _ => .inr rfl⟩
  | begun _ _ idle =>
    refine ⟨fun idle => (by cases idle), fun _ => .inl (.now ?_)⟩
    simp [Moment.begun?, h.awaited_of_idle idle]
  | closedAgain | closedBusy | closedIdle => exact absurd rfl isOpen
  | failed => exact absurd rfl sound
  | notComputing _ report =>
    obtain rfl | ⟨text, rfl⟩ | rfl := report <;> exact p.quiet rfl rfl rfl rfl fun _ => rfl
  | followed _ busy =>
    -- what was pending begins now, and so after the last accepted trigger
    refine ⟨fun idle => (by cases idle), fun _ => .inl (.now ?_)⟩
    simp [Moment.begun?, h.awaited_of_running busy]
  | @rested text computing busy unasked =>
    refine ⟨fun _ => .inr ⟨e.generation, text, ?_, ⟨_, List.mem_append_right _ (.head _), ?_⟩, rfl⟩,
      fun still => by cases still⟩
    · -- nothing is pending, so the promise was about the computation that returns
      obtain hbegun | asked := p.busy busy
      · exact hbegun.concat rfl
      · exact absurd (asked.symm.trans unasked) (by decide)
    · exact if_pos computing
  | marked inFlight =>
    have busy := (h.awaited_iff.mp inFlight).1
    exact p.quiet rfl rfl rfl rfl fun idle => absurd (busy.symm.trans idle) (by decide)
  | _ => exact p.quiet rfl rfl rfl rfl fun _ => rfl

/-- The promise is kept by every run without a close and a failure. -/
theorem promised_run {events : List Event} (isOpen : .close ∉ events) (sound : .raised ∉ events) :
    Promised (moments {} events) (({} : Engine).run events) := by
  refine Coherent.init.induct_of_forall (q := fun m => m.event ≠ .close ∧ m.event ≠ .raised) ?_ ?_
    events fun m hm => ⟨event_ne_of_mem_moments isOpen hm, event_ne_of_mem_moments sound hm⟩
  · exact ⟨fun _ => .inl ⟨by simp, rfl⟩, fun busy => by cases busy⟩
  · intro past event e' h change hevent p
    exact change.promised h p hevent.1 hevent.2

/-- What is pending stays pending while the computation before it is in flight. -/
theorem Coherent.pending_later (h : e.Coherent) (asked : e.pending = true) {later : List Event}
    (isOpen : .close ∉ later) (inFlight : (e.run later).awaited = some e.generation) :
    (e.run later).pending = true := by
  refine h.induct_of_forall (q := fun m => m.event ≠ .close)
    (P := fun _ e' => e'.awaited = some e.generation → e'.pending = true) (fun _ => asked) ?_ later
    (fun _ => event_ne_of_mem_moments isOpen) inFlight
  intro past event e' h' change notClose ih inFlight
  -- a generation that has been left does not come back
  have hbefore : (e.run past).awaited = some e.generation := by
    by_contra hne
    exact absurd (change.newer h' hne inFlight) (Nat.not_lt.mpr (h.generation_le past))
  have hp := ih hbefore
  cases change with
  | begun _ _ idle =>
    rw [h'.awaited_of_idle idle] at hbefore
    cases hbefore
  | closedBusy | closedIdle => exact absurd rfl notClose
  | followed =>
    have hold := (h'.awaited_iff.mp hbefore).2
    have hnew := Option.some.inj inFlight
    omega
  | rested | failed => cases inFlight
  | queued => rfl
  | _ => exact hp

/-- A computation begins when one returns while another is pending. -/
theorem Coherent.begun?_returned (h : e.Coherent) (computing : e.worker = .computing g)
    (asked : e.pending = true) (text : StyledText) :
    Moment.begun? ⟨e, .returned text, e.step (.returned text)⟩ = some (g + 1) := by
  have change := h.change (.returned text)
  obtain ⟨busy, rfl⟩ := h.newest computing
  generalize e.step (.returned text) = e' at change
  cases change with
  | notComputing free => simp [computing, Worker.isComputing] at free
  | followed => simp [Moment.begun?, h.awaited_of_running busy]
  | rested _ _ unasked => exact absurd (asked.symm.trans unasked) (by decide)

/-- No accepted trigger is lost, as long as nobody closes the engine and no computation fails.  An idle
engine shows what a computation returned that began at the last accepted trigger or after it, and it
does not mark that; before the first accepted trigger it shows the placeholder.  A running engine
runs such a computation, or another one is pending and begins when this one returns. -/
theorem freshness_run (events : List Event) (isOpen : .close ∉ events) (sound : .raised ∉ events) :
    let ms := moments {} events
    let e := ({} : Engine).run events
    (e.running = false →
      ((∀ m ∈ ms, m.accepts = false) ∧ e.content = ⟨placeholder, false⟩) ∨
      ∃ g text, BegunSince ms g ∧ (∃ m ∈ ms, m.answer? g = some text) ∧
        e.content = ⟨text, false⟩) ∧
    (e.running = true → ∃ g, e.awaited = some g ∧
      (BegunSince ms g ∨ e.pending = true ∧ ∀ later text, .close ∉ later →
        (e.run later).worker = .computing g →
        Moment.begun? ⟨e.run later, .returned text, (e.run later).step (.returned text)⟩ =
          some (g + 1))) := by
  intro ms e
  have h : e.Coherent := Coherent.init.run events
  have p : Promised ms e := promised_run isOpen sound
  refine ⟨p.idle, fun busy => ⟨e.generation, h.awaited_of_running busy, ?_⟩⟩
  refine (p.busy busy).imp_right fun asked => ⟨asked, fun later text isOpen computing => ?_⟩
  have h' := h.run later
  have inFlight := h'.computing _ computing
  exact h'.begun?_returned computing (h.pending_later asked isOpen inFlight) text

/-- A computation overruns while two triggers come, and so does the one that follows. -/
def overrunTwice : List Event :=
  [.trigger false ⟨.ok (some "/work"), .ok eagerOnChange⟩, .take, .expired 1,
    .trigger true ⟨.ok none, .ok 0⟩, .trigger true ⟨.ok none, .ok 0⟩,
    .returned (.plain "1> "), .expired 2, .returned (.plain "2> ")]

theorem freshness_overrunTwice :
    .close ∉ overrunTwice ∧ .raised ∉ overrunTwice ∧
      (({} : Engine).run overrunTwice).content = ⟨.plain "2> ", false⟩ ∧
      ∃ g text, BegunSince (moments {} overrunTwice) g ∧
        (∃ m ∈ moments {} overrunTwice, m.answer? g = some text) ∧
        (({} : Engine).run overrunTwice).content = ⟨text, false⟩ := by
  have isOpen : .close ∉ overrunTwice := by simp [overrunTwice]
  have sound : .raised ∉ overrunTwice := by simp [overrunTwice]
  refine ⟨isOpen, sound, by decide +kernel, ?_⟩
  obtain ⟨hnone, -⟩ | hsome := (freshness_run overrunTwice isOpen sound).1 (by decide)
  · exact absurd (hnone _ (.head _)) (by decide)
  · exact hsome

end Promptline.Engine
