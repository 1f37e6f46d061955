import Promptline.Proofs.Engine.Closing
import Promptline.Shell.Display

/-! A display whose computation cannot fail.  `Tuned` says that it shows a text or is going to: it
is kept by whatever moves while looking around finds that text, and a forced trigger brings it about
for any text. -/

namespace Promptline

open Promptline.Engine Promptline.Number Promptline.Style

namespace Prompt

variable (t : Binary64) (p : Prompt)

@[simp] theorem engine_handle (event : Engine.Event) :
    (p.handle event).engine = p.engine.step event := rfl

@[simp] theorem engine_begin : (p.begin (.ok t)).engine = p.engine := by
  unfold begin
  split <;> simp_all

@[simp] theorem engine_take : (p.take (.ok t)).engine = p.engine.step .take := by
  unfold take
  split
  · simp
  · next busy =>
    simp only [Engine.step, Engine.take]
    split <;> simp_all

@[simp] theorem engine_conclude (text : StyledText) :
    (p.conclude (.ok t) (.ok text)).engine = p.engine.step (.returned text) := by
  simp [conclude, handle]

/-- A prompt whose worker has to wait, though every computation ends at once, is idle. -/
theorem idle_of_advance? {t : Binary64} {p : Prompt} {outcome : Outcome} (h : p.engine.Coherent)
    (whole : p.engine.worker ≠ .broken)
    (rest : p.advance? (.ok t) (fun _ => some outcome) = none) : p.engine.running = false := by
  by_contra busy
  replace busy := eq_true_of_ne_false busy
  cases hw : p.engine.worker with
  | absent => exact h.attended busy hw
  | broken => exact whole hw
  | computing g => simp [advance?, hw] at rest
  | waiting =>
    have hr := h.requests
    simp only [untaken, busy, hw, and_self, if_true] at hr
    obtain hr | ⟨hr, -⟩ := hr <;> simp [advance?, hw, hr] at rest

end Prompt

end Promptline

namespace Promptline.Shell.Display

open Promptline.Engine Promptline.Number Promptline.Style

/-- The worker reports something about what it computes. -/
def reports : Engine.Event → Bool
  | .returned _ | .raised | .brokeDown => true
  | .trigger _ _ | .close | .take | .expired _ => false

/-- The parts of a display fit together: only a running computation has found something, and it has
not failed. -/
structure Sound (d : Display) : Prop where
  coherent : d.prompt.engine.Coherent
  whole : d.prompt.engine.worker ≠ .broken
  found : ∀ o, d.found = some o →
    d.prompt.engine.worker.isComputing = true ∧ ∃ text, o = .ok text

/-- A display shows `text` when it is idle.  When it is not, another computation is pending, or the
one that runs has found nothing else. -/
structure Tuned (d : Display) (text : StyledText) : Prop where
  idle : d.prompt.engine.running = false → d.prompt.content = ⟨text, false⟩
  busy : d.prompt.engine.running = true →
    d.prompt.engine.pending = true ∨ ∀ o, d.found = some o → o = .ok text

variable {d d' : Display} {text text' : StyledText} {event : Engine.Event}

theorem Sound.init : Sound {} where
  coherent := Coherent.init
  whole := Worker.noConfusion
  found o h := by cases h

/-- An idle display has found nothing. -/
theorem Sound.found_of_idle (h : d.Sound) (idle : d.prompt.engine.running = false) :
    d.found = none := by
  refine Option.eq_none_iff_forall_ne_some.mpr fun o ho => ?_
  have computing := (h.found o ho).1
  rw [h.coherent.not_computing_of_idle idle] at computing
  cases computing

/-- What the engine handles keeps a display sound, unless it is a report. -/
theorem Sound.quiet (h : d.Sound) (he : d'.prompt.engine = d.prompt.engine.step event)
    (hquiet : reports event = false) (hfound : d'.found = d.found) : d'.Sound := by
  suffices d'.prompt.engine.Coherent ∧ d'.prompt.engine.worker ≠ .broken ∧
      (d.prompt.engine.worker.isComputing = true → d'.prompt.engine.worker.isComputing = true) by
    refine ⟨this.1, this.2.1, fun o ho => ?_⟩
    obtain ⟨computing, htext⟩ := h.found o (hfound ▸ ho)
    exact ⟨this.2.2 computing, htext⟩
  have change := h.coherent.change event
  rw [← he] at change
  refine ⟨change.coherent h.coherent, ?_⟩
  generalize d'.prompt.engine = e' at change
  cases change with
  | begun _ _ idle =>
    refine ⟨Worker.noConfusion, fun computing => ?_⟩
    simp [h.coherent.not_computing_of_idle idle] at computing
  | tookComputation => exact ⟨Worker.noConfusion, fun _ => rfl⟩
  | tookStop waiting =>
    refine ⟨Worker.noConfusion, fun computing => ?_⟩
    simp [waiting, Worker.isComputing] at computing
  | broke | followed | rested | failed => cases hquiet
  | _ => exact ⟨h.whole, id⟩

/-- A result that the engine handles keeps a display sound. -/
theorem Sound.returned (h : d.Sound) (he : d'.prompt.engine = d.prompt.engine.step (.returned text))
    (hfound : d'.found = none) : d'.Sound := by
  suffices d'.prompt.engine.Coherent ∧ d'.prompt.engine.worker ≠ .broken from
    ⟨this.1, this.2, fun o ho => by cases hfound.symm.trans ho⟩
  have change := h.coherent.change (.returned text)
  rw [← he] at change
  refine ⟨change.coherent h.coherent, ?_⟩
  generalize d'.prompt.engine = e' at change
  cases change with
  | followed | rested => exact Worker.noConfusion
  | notComputing => exact h.whole

/-- What the engine handles keeps a display tuned, unless it is a report or closes the engine. -/
theorem Tuned.quiet (t : d.Tuned text) (h : d.Sound)
    (he : d'.prompt.engine = d.prompt.engine.step event) (hquiet : reports event = false)
    (hclose : event ≠ .close) (hfound : d'.found = d.found) : d'.Tuned text := by
  suffices (d'.prompt.engine.running = false → d'.prompt.engine.content = ⟨text, false⟩) ∧
      (d'.prompt.engine.running = true →
        d'.prompt.engine.pending = true ∨ ∀ o, d.found = some o → o = .ok text) from
    ⟨this.1, fun busy => (this.2 busy).imp_right fun hall o ho => hall o (hfound ▸ ho)⟩
  have change := h.coherent.change event
  rw [← he] at change
  generalize d'.prompt.engine = e' at change ⊢
  cases change with
  | queued _ _ busy => exact ⟨fun idle => (by cases busy.symm.trans idle), fun _ => .inl rfl⟩
  | begun _ _ idle =>
    refine ⟨fun still => (by cases still), fun _ => .inr fun o ho => ?_⟩
    cases (h.found_of_idle idle).symm.trans ho
  | marked inFlight =>
    have busy := (h.coherent.awaited_iff.mp inFlight).1
    exact ⟨fun idle => (by cases busy.symm.trans idle), t.busy⟩
  | closedAgain | closedBusy | closedIdle => exact absurd rfl hclose
  | followed | rested | failed => cases hquiet
  | _ => exact ⟨t.idle, t.busy⟩

/-- A result that the engine handles keeps a display tuned, if it is the text or another computation
is pending. -/
theorem Tuned.returned (t : d.Tuned text) (h : d.Sound)
    (he : d'.prompt.engine = d.prompt.engine.step (.returned text')) (hfound : d'.found = none)
    (htext : d.prompt.engine.pending = true ∨ text' = text) : d'.Tuned text := by
  suffices d'.prompt.engine.running = false → d'.prompt.engine.content = ⟨text, false⟩ from
    ⟨this, fun _ => .inr fun o ho => by cases hfound.symm.trans ho⟩
  have change := h.coherent.change (.returned text')
  rw [← he] at change
  generalize d'.prompt.engine = e' at change ⊢
  cases change with
  | followed => exact fun still => by cases still
  | rested _ _ unasked =>
    intro _
    obtain asked | rfl := htext
    · cases unasked.symm.trans asked
    · rfl
  | notComputing => exact t.idle

/-- A forced trigger tunes a display to any text, if the engine is not closed. -/
theorem Sound.tuned_trigger (h : d.Sound) (isOpen : d.prompt.engine.closed = false) (r : Reading) :
    (d.trigger true r).Tuned text := by
  suffices (d.prompt.engine.step (.trigger true r)).running = true ∧
      ((d.prompt.engine.step (.trigger true r)).pending = true ∨ d.found = none) by
    refine ⟨fun idle => (by cases this.1.symm.trans idle), fun _ => this.2.imp_right ?_⟩
    intro hnone o ho
    cases hnone.symm.trans ho
  have change := h.coherent.change (.trigger true r)
  generalize d.prompt.engine.step (.trigger true r) = e' at change
  cases change with
  | shut closed => cases closed.symm.trans isOpen
  | gated _ verdict => exact absurd rfl verdict
  | queued _ _ busy => exact ⟨busy, .inl rfl⟩
  | begun _ _ idle => exact ⟨rfl, .inr (h.found_of_idle idle)⟩
  | notComputing _ report => simp at report

theorem Sound.trigger (h : d.Sound) (forced : Bool) (r : Reading) : (d.trigger forced r).Sound := by
  have he := d.prompt.engine_handle (.trigger forced r)
  exact h.quiet he rfl rfl

theorem Sound.close (h : d.Sound) : d.close.Sound := by
  have he := d.prompt.engine_handle .close
  exact h.quiet he rfl rfl

theorem Tuned.trigger (t : d.Tuned text) (h : d.Sound) (forced : Bool) (r : Reading) :
    (d.trigger forced r).Tuned text := by
  have he := d.prompt.engine_handle (.trigger forced r)
  exact t.quiet h he rfl Event.noConfusion rfl

/-- Moves keep a display sound, and tuned to what looking around finds. -/
theorem Sound.move (h : d.Sound) (threshold : Binary64) (text : StyledText) (m : Move) :
    (d.move threshold (.ok text) m).Sound ∧
      (d.Tuned text → (d.move threshold (.ok text) m).Tuned text) := by
  cases m with
  | take =>
    have he := d.prompt.engine_take threshold
    exact ⟨h.quiet he rfl rfl, fun t => t.quiet h he rfl Event.noConfusion rfl⟩
  | look =>
    simp only [Display.move]
    split
    · next computing =>
      refine ⟨⟨h.coherent, h.whole, ?_⟩, fun t => ⟨t.idle, fun _ => .inr ?_⟩⟩
      · rintro o ⟨⟩
        exact ⟨computing, text, rfl⟩
      · rintro o ⟨⟩
        rfl
    · exact ⟨h, id⟩
  | finish =>
    simp only [Display.move]
    split
    · next o ho =>
      obtain ⟨computing, found, rfl⟩ := h.found o ho
      have he := d.prompt.engine_conclude threshold found
      refine ⟨h.returned he rfl, fun t => t.returned h he rfl ?_⟩
      have busy : d.prompt.engine.running = true := by
        by_contra idle
        simp [h.coherent.not_computing_of_idle (eq_false_of_ne_true idle)] at computing
      exact (t.busy busy).imp_right fun hall => Except.ok.inj (hall _ ho)
    · exact ⟨h, id⟩
  | expire n =>
    simp only [Display.move]
    split
    · next g _ =>
      have he := d.prompt.engine_handle (.expired g)
      exact ⟨h.quiet he rfl rfl, fun t => t.quiet h he rfl Event.noConfusion rfl⟩
    · exact ⟨h, id⟩

/-- Moves neither open nor close an engine. -/
theorem Sound.closed_move (h : d.Sound) (threshold : Binary64) (text : StyledText) (m : Move) :
    (d.move threshold (.ok text) m).prompt.engine.closed = d.prompt.engine.closed := by
  cases m with
  | take =>
    have he := d.prompt.engine_take threshold
    exact (congrArg Engine.closed he).trans
      ((h.coherent.change .take).closed_of_ne Event.noConfusion)
  | look =>
    simp only [Display.move]
    split <;> rfl
  | finish =>
    simp only [Display.move]
    split
    · next o ho =>
      obtain ⟨-, found, rfl⟩ := h.found o ho
      have he := d.prompt.engine_conclude threshold found
      exact (congrArg Engine.closed he).trans
        ((h.coherent.change (.returned found)).closed_of_ne Event.noConfusion)
    · rfl
  | expire n =>
    simp only [Display.move]
    split
    · next g _ => exact (h.coherent.change (.expired g)).closed_of_ne Event.noConfusion
    · rfl

theorem Sound.closed_trigger (h : d.Sound) (forced : Bool) (r : Reading) :
    (d.trigger forced r).prompt.engine.closed = d.prompt.engine.closed :=
  (h.coherent.change (.trigger forced r)).closed_of_ne Event.noConfusion

/-- A prompt that is sound and tuned, although nothing has been found so far. -/
def Attuned (text : StyledText) (p : Prompt) : Prop := Sound ⟨p, none⟩ ∧ Tuned ⟨p, none⟩ text

section Settle

variable {p q : Prompt} {threshold : Binary64}

theorem Attuned.advance? (h : Attuned text p)
    (hq : p.advance? (.ok threshold) (fun _ => some (.ok text)) = some q) : Attuned text q := by
  unfold Prompt.advance? at hq
  split at hq
  · cases hq
    have he := p.engine_take threshold
    exact ⟨h.1.quiet he rfl rfl, h.2.quiet h.1 he rfl Event.noConfusion rfl⟩
  · cases hq
    have he := p.engine_conclude threshold text
    exact ⟨h.1.returned he rfl, h.2.returned h.1 he rfl (.inr rfl)⟩
  · cases hq

theorem Attuned.settleIn (h : Attuned text p) (fuel : Nat) :
    Attuned text (Prompt.settleIn (.ok threshold) (fun _ => some (.ok text)) fuel p) := by
  induction fuel generalizing p with
  | zero => exact h
  | succ fuel ih =>
    unfold Prompt.settleIn
    split
    · next q hq => exact ih (h.advance? hq)
    · exact h

end Settle

/-- Once the worker has to wait, a tuned display shows the text. -/
theorem Tuned.settle (t : d.Tuned text) (h : d.Sound) (threshold : Binary64) :
    (d.settle threshold (.ok text)).prompt.engine.running = false ∧
      (d.settle threshold (.ok text)).prompt.content = ⟨text, false⟩ := by
  have start : Attuned text d.prompt :=
    ⟨⟨h.coherent, h.whole, fun o ho => by cases ho⟩,
      ⟨t.idle, fun _ => .inr fun o ho => by cases ho⟩⟩
  have settled : Attuned text (d.settle threshold (.ok text)).prompt :=
    start.settleIn d.prompt.movesLeft
  have idle := Prompt.idle_of_advance? settled.1.coherent settled.1.whole
    (Prompt.advance?_settle _ _ d.prompt)
  exact ⟨idle, settled.2.idle idle⟩

end Promptline.Shell.Display
