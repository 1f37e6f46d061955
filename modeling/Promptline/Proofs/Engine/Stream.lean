import Promptline.Proofs.Engine.Flight

/-! The stream of updates.  Each computation in turn adds a block to it: at most one marking of what
is shown when the computation overruns, and then its result if it returns. -/

namespace Promptline.Engine

open Promptline.Style

/-- How generation `g` marks what is shown: when its timer goes off, unless that is marked already. -/
def Moment.marking? (m : Moment) (g : Nat) : Option Content :=
  if m.overruns g && !m.before.content.isStale then some ⟨m.before.content.text, true⟩ else none

/-- The markings of generation `g`. -/
def markings (ms : List Moment) (g : Nat) : List Content := ms.filterMap (·.marking? g)

/-- What generation `g` publishes when it returns.  A closed engine does not mark it. -/
def Moment.result? (m : Moment) (g : Nat) (marked : Bool) : Option Content :=
  (m.answer? g).map fun text => ⟨text, marked && !m.before.closed⟩

/-- The results of generation `g`, marked if its timer has gone off and a trigger has been accepted
while it was in flight. -/
def results (ms : List Moment) (g : Nat) : List Content :=
  ms.filterMap (·.result? g (ms.any (·.overruns g) && ms.any (·.asksDuring g)))

/-- What generation `g` adds to the stream. -/
def block (ms : List Moment) (g : Nat) : List Update :=
  (markings ms g ++ results ms g).map .content

/-- The end of the stream, once a closed engine is idle. -/
def ending (e : Engine) : List Update := if e.closed && !e.running then [.finished] else []

/-- The published contents. -/
def published (us : List Update) : List Content :=
  us.filterMap fun
    | .content c => some c
    | .finished => none

variable {e e' : Engine} {event : Event} {m : Moment} {g : Nat} {text : StyledText}

theorem filterMap_concat {α β : Type} (f : α → Option β) (as : List α) (a : α) :
    (as ++ [a]).filterMap f = as.filterMap f ++ (f a).toList := by
  rw [List.filterMap_append]
  cases h : f a <;> simp [h]

/-- What a moment adds to the block of the generation that is in flight. -/
def Moment.adds (m : Moment) (g : Nat) : List Content :=
  (m.marking? g).toList ++
    (m.answer? g).toList.map fun text => ⟨text, m.before.isLate && m.before.pending⟩

section Concat

variable {past : List Event} (hm : m.before = ({} : Engine).run past)
include hm

theorem markings_concat_of_ne (hg : m.before.awaited ≠ some g) :
    markings (moments {} past ++ [m]) g = markings (moments {} past) g := by
  obtain ⟨hover, -, -⟩ := Moment.silent (hm ▸ Coherent.init.run past) hg
  simp [markings, Moment.marking?, hover]

theorem results_concat_of_ne (hg : m.before.awaited ≠ some g) :
    results (moments {} past ++ [m]) g = results (moments {} past) g := by
  obtain ⟨hover, hask, hanswer⟩ := Moment.silent (hm ▸ Coherent.init.run past) hg
  simp [results, Moment.result?, hanswer, hover, hask]

/-- A generation that is not in flight adds nothing. -/
theorem block_concat_of_ne (hg : m.before.awaited ≠ some g) :
    block (moments {} past ++ [m]) g = block (moments {} past) g := by
  rw [block, block, markings_concat_of_ne hm hg, results_concat_of_ne hm hg]

/-- The generation in flight has not returned. -/
theorem filterMap_result?_eq_nil (hg : m.before.awaited = some g) (marked : Bool) :
    (moments {} past).filterMap (·.result? g marked) = [] := by
  refine List.filterMap_eq_nil_iff.mpr fun m' hm' => Option.map_eq_none_iff.mpr ?_
  exact answer?_of_awaited (hm ▸ hg) hm'

/-- The flags with which the generation in flight returns are those of the moment. -/
theorem results_concat (hg : m.before.awaited = some g) :
    results (moments {} past ++ [m]) g =
      (m.answer? g).toList.map fun text => ⟨text, m.before.isLate && m.before.pending⟩ := by
  have hlate := isLate_run past (hm ▸ hg)
  have hpending := pending_run past (hm ▸ hg)
  rw [← hm] at hlate hpending
  rw [results, filterMap_concat, filterMap_result?_eq_nil hm hg, List.nil_append, Moment.result?]
  cases ha : m.answer? g with
  | none => rfl
  | some text =>
    simp [Moment.overruns_of_answer? ha, Moment.asksDuring_of_answer? ha, hlate, hpending,
      Bool.and_assoc]

/-- The generation in flight adds to its block what the moment says. -/
theorem block_concat (hg : m.before.awaited = some g) :
    block (moments {} past ++ [m]) g =
      block (moments {} past) g ++ (m.adds g).map .content := by
  have hbefore : results (moments {} past) g = [] := filterMap_result?_eq_nil hm hg _
  rw [block, block, results_concat hm hg, hbefore, markings, filterMap_concat, Moment.adds,
    markings]
  simp

end Concat

/-- What a moment adds to the blocks of the stream. -/
theorem blocks_concat {past : List Event} (hm : m.before = ({} : Engine).run past) :
    (List.range' 1 m.before.generation).flatMap (block (moments {} past ++ [m])) =
      (List.range' 1 m.before.generation).flatMap (block (moments {} past)) ++
        if m.before.running then (m.adds m.before.generation).map .content else [] := by
  have h : m.before.Coherent := hm ▸ Coherent.init.run past
  split
  · next busy =>
    have hg := h.awaited_of_running busy
    obtain ⟨earlier, hrange, hnot⟩ := h.exists_earlier busy
    have hearlier : earlier.map (block (moments {} past ++ [m])) =
        earlier.map (block (moments {} past)) :=
      List.map_congr_left fun g hg' => block_concat_of_ne hm (hnot g hg')
    rw [hrange, List.flatMap_append, List.flatMap_append, List.flatMap_def, hearlier,
      ← List.flatMap_def, List.flatMap_singleton, List.flatMap_singleton, block_concat hm hg,
      List.append_assoc]
  · next idle =>
    have hg := h.awaited_of_idle (eq_false_of_ne_true idle)
    have hsame : block (moments {} past ++ [m]) = block (moments {} past) := by
      funext g
      exact block_concat_of_ne hm (by simp [hg])
    rw [hsame, List.append_nil]

/-- A generation that is still to begin has no block. -/
theorem block_of_lt {events : List Event} (hg : (({} : Engine).run events).generation < g) :
    block (moments {} events) g = [] := by
  have hmark : markings (moments {} events) g = [] :=
    List.filterMap_eq_nil_iff.mpr fun m hm => by
      obtain ⟨hover, -, -⟩ := silent_of_lt hm hg
      simp [Moment.marking?, hover]
  have hresult : results (moments {} events) g = [] :=
    List.filterMap_eq_nil_iff.mpr fun m hm => by
      obtain ⟨-, -, hanswer⟩ := silent_of_lt hm hg
      simp [Moment.result?, hanswer]
  rw [block, hmark, hresult]
  rfl

theorem Moment.overruns_of_missed (missed : e.awaited ≠ some g) (g' : Nat) :
    Moment.overruns ⟨e, .expired g, e'⟩ g' = false := by
  refine Bool.and_eq_false_imp.mpr fun hg => decide_eq_false fun hawaited => missed ?_
  rw [of_decide_eq_true hg, hawaited]

/-- A timer that goes off too late adds nothing. -/
theorem Moment.adds_of_missed (missed : e.awaited ≠ some g) (g' : Nat) :
    Moment.adds ⟨e, .expired g, e'⟩ g' = [] := by
  simp [adds, marking?, answer?, overruns_of_missed missed]

/-- A report from a worker that does not compute adds nothing. -/
theorem Moment.adds_of_free (free : e.worker.isComputing = false)
    (report : event = .brokeDown ∨ (∃ text, event = .returned text) ∨ event = .raised) (g : Nat) :
    Moment.adds ⟨e, event, e'⟩ g = [] := by
  have hw : e.worker ≠ .computing g := fun hw => by
    rw [hw] at free
    cases free
  obtain rfl | ⟨text, rfl⟩ | rfl := report <;> simp [adds, marking?, overruns, answer?, hw]

/-- A change puts on the stream what the moment adds, and ends it when a closed engine comes to
rest. -/
theorem Change.updates_eq (c : Change e event e') (h : e.Coherent) {us : List Update}
    (hus : e.updates = us ++ e.ending) :
    e'.updates = us ++
      (if e.running then (Moment.adds ⟨e, event, e'⟩ e.generation).map .content else []) ++
      e'.ending := by
  cases c with
  | begun isOpen _ idle => simpa [ending, isOpen, idle] using hus
  | closedBusy _ busy =>
    simpa [ending, busy, Moment.adds, Moment.marking?, Moment.overruns, Moment.answer?] using hus
  | closedIdle isOpen idle =>
    have hopen : e.updates = us := by simpa [ending, isOpen] using hus
    simp [ending, idle, hopen]
  | followed computing busy asked =>
    have hopen : e.updates = us := by simpa [ending, busy] using hus
    simp [ending, busy, hopen, computing, asked, Moment.adds, Moment.marking?, Moment.overruns,
      Moment.answer?]
  | rested computing busy unasked =>
    have hopen : e.updates = us := by simpa [ending, busy] using hus
    simp [ending, busy, hopen, computing, unasked, Moment.adds, Moment.marking?, Moment.overruns,
      Moment.answer?]
  | failed _ busy =>
    have hopen : e.updates = us := by simpa [ending, busy] using hus
    simp [ending, busy, hopen, Moment.adds, Moment.marking?, Moment.overruns, Moment.answer?]
  | marked inFlight fresh =>
    obtain ⟨busy, rfl⟩ := h.awaited_iff.mp inFlight
    have hopen : e.updates = us := by simpa [ending, busy] using hus
    simp [ending, busy, hopen, inFlight, fresh, Content.outdated, Moment.adds, Moment.marking?,
      Moment.overruns, Moment.answer?]
  | overran inFlight stale =>
    simpa [ending, stale, Moment.adds, Moment.marking?, Moment.answer?] using hus
  | tooLate missed => simpa [ending, Moment.adds_of_missed missed] using hus
  | notComputing free report => simpa [ending, Moment.adds_of_free free report] using hus
  | _ => simpa [ending, Moment.adds, Moment.marking?, Moment.overruns, Moment.answer?] using hus

/-- The stream is the blocks of the generations in order, and its end. -/
theorem updates_eq_blocks (events : List Event) :
    (({} : Engine).run events).updates =
      (List.range' 1 (({} : Engine).run events).generation).flatMap (block (moments {} events)) ++
        (({} : Engine).run events).ending := by
  refine Coherent.init.induct (P := fun ms e =>
    e.updates = (List.range' 1 e.generation).flatMap (block ms) ++ e.ending) rfl ?_ events
  intro past event e' h change ih
  rw [change.updates_eq h ih]
  congr 1
  rw [← blocks_concat (m := ⟨({} : Engine).run past, event, e'⟩) rfl]
  obtain ⟨hgen, -⟩ | ⟨hgen, -⟩ := change.begins h
  · rw [hgen]
  · -- the generation that begins now has an empty block so far
    have hne : (({} : Engine).run past).awaited ≠ some e'.generation := fun hawaited => by
      have := (h.awaited_iff.mp hawaited).2
      omega
    have hnew := block_concat_of_ne (m := ⟨({} : Engine).run past, event, e'⟩) rfl hne
    rw [block_of_lt (by omega)] at hnew
    rw [hgen, List.range'_1_concat, Nat.add_comm 1, ← hgen]
    simp [hnew]

theorem published_append (us vs : List Update) :
    published (us ++ vs) = published us ++ published vs :=
  List.filterMap_append

theorem published_end (closed : Bool) : published (if closed then [.finished] else []) = [] := by
  cases closed <;> rfl

/-- What is shown is what has been published last, and the placeholder before that. -/
theorem content_run (events : List Event) :
    (({} : Engine).run events).content =
      (published (({} : Engine).run events).updates).getLastD ⟨placeholder, false⟩ := by
  refine Coherent.init.induct (P := fun _ e =>
    e.content = (published e.updates).getLastD ⟨placeholder, false⟩) rfl ?_ events
  intro past event e' h change ih
  cases change with
  | closedIdle =>
    rw [published_append, ih]
    exact congrArg (List.getLastD · _) (List.append_nil _).symm
  | failed =>
    rw [published_append, published_end, List.append_nil]
    exact ih
  | followed | marked =>
    rw [published_append]
    exact List.getLastD_concat.symm
  | @rested text =>
    rw [published_append]
    show _ = (_ ++ ⟨text, false⟩ :: published (if _ then _ else _)).getLastD _
    rw [published_end]
    exact List.getLastD_concat.symm
  | _ => exact ih

/-- Content that is not marked while its generation is in flight was not marked before. -/
theorem Change.fresh (c : Change e event e') (h : e.Coherent) (hg : e.awaited = some g)
    (hg' : e'.awaited = some g) (fresh : e'.content.isStale = false) :
    e.content.isStale = false ∧ Moment.marking? ⟨e, event, e'⟩ g = none := by
  cases c with
  | marked => cases fresh
  | overran _ stale => cases stale.symm.trans fresh
  | followed =>
    have hold := (h.awaited_iff.mp hg).2
    have hnew := Option.some.inj hg'
    omega
  | rested | failed => cases hg'
  | tooLate missed => exact ⟨fresh, by simp [Moment.marking?, Moment.overruns_of_missed missed]⟩
  | notComputing _ report =>
    obtain rfl | ⟨text, rfl⟩ | rfl := report <;> exact ⟨fresh, rfl⟩
  | _ => exact ⟨fresh, rfl⟩

/-- No generation has more than one marking: a marking shows until the generation ends. -/
theorem length_markings_le (events : List Event) (g : Nat) :
    (markings (moments {} events) g).length ≤ 1 := by
  suffices (markings (moments {} events) g).length ≤ 1 ∧
      ((({} : Engine).run events).awaited = some g →
        (({} : Engine).run events).content.isStale = false → markings (moments {} events) g = []) from
    this.1
  refine Coherent.init.induct (P := fun ms e => (markings ms g).length ≤ 1 ∧
    (e.awaited = some g → e.content.isStale = false → markings ms g = []))
    ⟨Nat.zero_le _, fun _ _ => rfl⟩ ?_ events
  intro past event e' h change ih
  obtain ⟨hle, hnone⟩ := ih
  -- while `g` is in flight, content that is not marked says that `g` has not marked any
  by_cases hg : (({} : Engine).run past).awaited = some g
  · rw [markings, filterMap_concat, ← markings]
    refine ⟨?_, fun hg' fresh => ?_⟩
    · cases hm : Moment.marking? ⟨({} : Engine).run past, event, e'⟩ g with
      | none => simpa using hle
      | some c =>
        have fresh : (({} : Engine).run past).content.isStale = false := by
          unfold Moment.marking? at hm
          split at hm
          · next hboth => simpa using (Bool.and_eq_true_iff.mp hboth).2
          · cases hm
        rw [hnone hg fresh]
        exact Nat.le_refl 1
    · obtain ⟨before, hm⟩ := change.fresh h hg hg' fresh
      rw [hm, hnone hg before]
      rfl
  · rw [markings_concat_of_ne rfl hg]
    refine ⟨hle, fun hg' _ => ?_⟩
    have hblock := block_of_lt (change.newer h hg hg')
    exact (List.append_eq_nil_iff.mp (List.map_eq_nil_iff.mp hblock)).1

/-- No generation has more than one result. -/
theorem length_results_le (events : List Event) (g : Nat) :
    (results (moments {} events) g).length ≤ 1 := by
  refine Coherent.init.induct (P := fun ms _ => (results ms g).length ≤ 1) (Nat.zero_le _) ?_ events
  intro past event e' h change ih
  by_cases hg : (({} : Engine).run past).awaited = some g
  · rw [results_concat rfl hg, List.length_map]
    exact Option.length_toList_le
  · rw [results_concat_of_ne rfl hg]
    exact ih

/-- The grammar of the stream, at all times.  The generations begin one after another, and each in
turn adds its markings and its results, of which there is at most one each: the content that was
held when the timer went off, marked, and the text that the computation returned.  The end of the
stream comes last.  What is shown is what has been published last. -/
theorem stream_run (events : List Event) :
    let ms := moments {} events
    let e := ({} : Engine).run events
    let begun := ms.filterMap Moment.begun?
    e.updates = begun.flatMap (block ms) ++ e.ending ∧
    begun = List.range' 1 begun.length ∧
    (∀ g, (markings ms g).length ≤ 1) ∧
    (∀ g, (∀ m ∈ ms, m.answer? g = none) → results ms g = []) ∧
    (∀ g, ∀ m ∈ ms, ∀ text, m.answer? g = some text →
      results ms g =
        [⟨text, ms.any (·.overruns g) && ms.any (·.asksDuring g) && !m.before.closed⟩]) ∧
    e.content = (published e.updates).getLastD ⟨placeholder, false⟩ := by
  intro ms e begun
  have hbegun : begun = List.range' 1 e.generation := begun_run events
  refine ⟨?_, ?_, fun g => length_markings_le events g, fun g hnone => ?_,
    fun g m hm text ha => ?_, content_run events⟩
  · rw [hbegun]
    exact updates_eq_blocks events
  · rw [hbegun, List.length_range']
  · exact List.filterMap_eq_nil_iff.mpr fun m hm => by rw [Moment.result?, hnone m hm]; rfl
  · have hmem : (⟨text, ms.any (·.overruns g) && ms.any (·.asksDuring g) && !m.before.closed⟩ :
        Content) ∈ results ms g :=
      List.mem_filterMap.mpr ⟨m, hm, by rw [Moment.result?, ha]; rfl⟩
    obtain ⟨c, hc⟩ := List.length_eq_one_iff.mp
      (Nat.le_antisymm (length_results_le events g) (List.length_pos_of_mem hmem))
    rw [hc] at hmem ⊢
    rw [List.mem_singleton.mp hmem]

end Promptline.Engine
