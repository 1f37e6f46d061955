import Promptline.Proofs.History.Snapshot

/-! What a session has in view is what the store holds, in every field, unless somebody deletes.  The
own records of a session are copies of what it has handed to the store, so this takes that the store
keeps every draft as it is: a database that stamps a draft without a time holds another record than
the session.  If nobody else writes, the view is all that the store holds, and a new view is no
different. -/

namespace Promptline.History

open Promptline.Store

/-- All that a session has in view is among `records`. -/
def Session.Agrees (s : Session) (records : List Record) : Prop :=
  ∀ v, s.view = some v → ∀ r ∈ v.all, r ∈ records

/-- A session has `records` in view and nothing else.  If it is building a view, it has read a number
above all of theirs. -/
structure Session.InStep (s : Session) (records : List Record) : Prop where
  view : ∃ v, s.view = some v ∧ v.all = records
  building : ∀ upto, s.building = some upto → ∀ r ∈ records, r.seq < upto

namespace Sharing

/-- While `acts` go on, only what session `i` adds changes the records of the store. -/
def Alone (i : Nat) : Sharing → List Act → Prop
  | _, [] => True
  | w, act :: acts =>
    ((∃ d, act = .add i d) ∨
      (w.step act).shared.backend.records = w.shared.backend.records) ∧ Alone i (w.step act) acts

variable {w w' : Sharing} {act : Act} {acts during : List Act} {i : Nat} {upto : Int}

theorem alone_append {first second : List Act} :
    Alone i w (first ++ second) ↔ Alone i w first ∧ Alone i (w.run first) second := by
  induction first generalizing w with
  | nil => simp [Alone, run]
  | cons act first ih => simp only [List.cons_append, Alone, ih, run_cons, and_assoc]

/-! ### Every record in view is in the store -/

/-- A record that a session adds is the same on both sides, as it is not stamped. -/
theorem add_unstamped (h : w.shared.backend.Orderly) {d : Draft}
    (unstamped : w.shared.backend.stamps d = false) :
    (∃ shared, shared.backend = w.shared.backend ∧
      w.add i d = (none, { w with shared := shared })) ∨
    ∃ v seq shared, w.sessions i = ⟨some v, none⟩ ∧
      shared.backend.records = w.shared.backend.records ++ [d.numbered seq] ∧
      w.add i d =
        (some seq, w.put i ⟨some { v with own := v.own ++ [d.numbered seq] }, none⟩ shared) := by
  refine (add_cases h i d).imp_right ?_
  rintro ⟨v, seq, shared, open', adds, heq⟩
  rw [Shared.stamp_eq_self unstamped] at adds
  exact ⟨v, seq, shared, open', adds.records, heq⟩

theorem Change.agrees (change : Change w act w')
    (grows : w.shared.backend.Grows w'.shared.backend) (other : ∀ j d, act ≠ .add j d)
    (agrees : (w.sessions i).Agrees w.shared.backend.records) :
    (w'.sessions i).Agrees w'.shared.backend.records := by
  obtain ⟨later, hrecords, -⟩ := grows.records
  have stays : (w.sessions i).Agrees w'.shared.backend.records := by
    intro v hv r hr
    rw [hrecords]
    exact List.mem_append_left _ (agrees v hv r hr)
  cases change with
  | stored shared leads => exact stays
  | began | abandoned =>
    refine forall_put (P := (·.Agrees _)) ?_ stays
    rintro rfl
    exact stays
  | renewed upto shared building same =>
    refine forall_put (P := (·.Agrees _)) ?_ stays
    rintro - v ⟨⟩ r hr
    rw [View.all, List.append_nil] at hr
    show r ∈ shared.backend.records
    rw [same]
    exact (mem_between.mp hr).1
  | added => exact absurd rfl (other _ _)

theorem agrees_step (h : w.Ordered) (kept : act.removed? = none)
    (unstamped : ∀ j d, act = .add j d → w.shared.backend.stamps d = false)
    (agrees : (w.sessions i).Agrees w.shared.backend.records) :
    ((w.step act).sessions i).Agrees (w.step act).shared.backend.records := by
  by_cases other : ∀ j d, act ≠ .add j d
  · exact (change_step h.orderly act).agrees (grows_step h.orderly kept) other agrees
  · obtain ⟨j, d, rfl⟩ : ∃ j d, act = .add j d := by simpa using other
    obtain ⟨shared, same, heq⟩ | ⟨v, seq, shared, open', added, heq⟩ :=
      add_unstamped (i := j) h.orderly (unstamped j d rfl)
    · simp only [step, heq, same]
      exact agrees
    · simp only [step, heq]
      have stays : ∀ r, r ∈ w.shared.backend.records → r ∈ shared.backend.records := by
        intro r hr
        rw [added]
        exact List.mem_append_left _ hr
      refine forall_put (P := (·.Agrees shared.backend.records)) ?_
        fun v hv r hr => stays r (agrees v hv r hr)
      rintro rfl v' ⟨⟩ r hr
      rw [View.all, ← List.append_assoc] at hr
      obtain hr | hr := List.mem_append.mp hr
      · rw [open'] at agrees
        exact stays r (agrees v rfl r hr)
      · rw [added]
        exact List.mem_append_right _ hr

theorem agrees_run (h : w.Ordered) (kept : ∀ act ∈ acts, act.removed? = none)
    (unstamped : ∀ j d, .add j d ∈ acts → w.shared.backend.stamps d = false)
    (agrees : (w.sessions i).Agrees w.shared.backend.records) :
    ((w.run acts).sessions i).Agrees (w.run acts).shared.backend.records := by
  induction acts generalizing w with
  | nil => exact agrees
  | cons act acts ih =>
    obtain ⟨hact, hacts⟩ := List.forall_mem_cons.mp kept
    have grows := grows_step h.orderly hact
    refine ih ((change_step h.orderly act).ordered h) hacts (fun j d hd => ?_) ?_
    · rw [grows.stamps]
      exact unstamped j d (List.mem_cons_of_mem _ hd)
    · refine agrees_step h hact (fun j d hd => ?_) agrees
      exact unstamped j d (hd ▸ List.mem_cons_self)

/-- A store that answers for the number of a record in view gives this record. -/
theorem filter_of_range {s : Shared} (h : s.backend.Orderly) {r : Record}
    (hr : r ∈ s.backend.records) {first : Int} {rs : List Record}
    (hfirst : first ≤ r.seq) (hupto : r.seq < upto) (hrange : s.range first upto = .ok rs) :
    rs.filter (·.seq = r.seq) = [r] := by
  rw [Shared.range_eq_ok h hrange]
  exact (h.ascending.filter _).filter_seq (mem_between.mpr ⟨hr, hfirst, hupto⟩)

/-! ### A session that is alone -/

theorem inStep_step (h : w.Ordered) (counted : w.shared.backend.Counted)
    (alone : (∃ d, act = .add i d) ∨
      (w.step act).shared.backend.records = w.shared.backend.records)
    (unstamped : ∀ j d, act = .add j d → w.shared.backend.stamps d = false)
    (inStep : (w.sessions i).InStep w.shared.backend.records) :
    ((w.step act).sessions i).InStep (w.step act).shared.backend.records := by
  obtain ⟨v, hv, hall⟩ := inStep.view
  obtain ⟨d, rfl⟩ | same := alone
  · obtain ⟨shared, same, heq⟩ | ⟨v', seq, shared, open', added, heq⟩ :=
      add_unstamped (i := i) h.orderly (unstamped i d rfl)
    · simp only [step, heq, same]
      exact inStep
    · rw [open'] at hv
      cases hv
      simp only [step, heq, sessions_put]
      refine ⟨⟨_, rfl, ?_⟩, fun upto hupto => by cases hupto⟩
      show v.snapshot ++ (v.own ++ [d.numbered seq]) = shared.backend.records
      rw [added, ← hall, ← List.append_assoc]
      rfl
  · rw [same]
    have change := change_step h.orderly act
    generalize w.step act = w' at change same
    cases change with
    | stored shared leads => exact inStep
    | began shared free leads =>
      refine forall_put (P := (·.InStep _)) ?_ inStep
      rintro rfl
      refine ⟨inStep.view, ?_⟩
      rintro upto ⟨⟩
      exact h.orderly.below
    | abandoned upto building =>
      refine forall_put (P := (·.InStep _)) ?_ inStep
      rintro rfl
      exact ⟨inStep.view, fun upto hupto => by cases hupto⟩
    | renewed upto shared building same' =>
      refine forall_put (P := (·.InStep _)) ?_ inStep
      rintro rfl
      refine ⟨⟨_, rfl, ?_⟩, fun upto hupto => by cases hupto⟩
      rw [View.all, List.append_nil]
      refine List.filter_eq_self.mpr fun r hr => ?_
      simp only [counted r hr, inStep.building upto building r hr, decide_true, Bool.and_self]
    | added v seq time shared open' adds =>
      have grown : shared.backend.records = w.shared.backend.records := same
      rw [adds.records] at grown
      simp at grown

theorem inStep_run (h : w.Ordered) (counted : w.shared.backend.Counted) (alone : Alone i w acts)
    (kept : ∀ act ∈ acts, act.removed? = none)
    (unstamped : ∀ j d, .add j d ∈ acts → w.shared.backend.stamps d = false)
    (inStep : (w.sessions i).InStep w.shared.backend.records) :
    ((w.run acts).sessions i).InStep (w.run acts).shared.backend.records := by
  induction acts generalizing w with
  | nil => exact inStep
  | cons act acts ih =>
    obtain ⟨hact, hacts⟩ := List.forall_mem_cons.mp kept
    have grows := grows_step h.orderly hact
    refine ih ((change_step h.orderly act).ordered h) (grows.counted counted) alone.2 hacts
      (fun j d hd => ?_) ?_
    · rw [grows.stamps]
      exact unstamped j d (List.mem_cons_of_mem _ hd)
    · refine inStep_step h counted alone.1 (fun j d hd => ?_) inStep
      exact unstamped j d (hd ▸ List.mem_cons_self)

theorem records_of_building (h : w.Ordered) (alone : Alone i w acts)
    (hi : (w.sessions i).building = some upto) (unread : .finish i ∉ acts) :
    (w.run acts).shared.backend.records = w.shared.backend.records := by
  induction acts generalizing w with
  | nil => rfl
  | cons act acts ih =>
    obtain ⟨hact, hacts⟩ := List.ne_and_not_mem_of_not_mem_cons unread
    have change := change_step h.orderly act
    have rest := ih (change.ordered h) alone.2 (building_step hi hact.symm) hacts
    rw [run_cons, rest]
    obtain ⟨d, rfl⟩ | same := alone.1
    · rw [step, add_of_building d hi]
    · exact same

/-- A session that builds a view while nobody else writes is in step with the store. -/
theorem Builds.inStep (builds : w.Builds i during) (h : w.Ordered)
    (counted : w.shared.backend.Counted) (alone : Alone i w (rebuild i during)) :
    ((w.run (rebuild i during)).sessions i).InStep
      (w.run (rebuild i during)).shared.backend.records := by
  have building := building_begin h.orderly builds.free builds.begun
  obtain ⟨beginning, alone⟩ := alone
  have atBegin : (w.begin i).shared.backend.records = w.shared.backend.records := by
    obtain ⟨d, hd⟩ | same := beginning
    · cases hd
    · exact same
  have same : (w.run (rebuild i during)).shared.backend.records = w.shared.backend.records := by
    have begun : (w.begin i).Ordered := (change_begin h.orderly i).ordered h
    rw [run_rebuild, finish_backend,
      records_of_building begun (alone_append.mp alone).1 building builds.unread, atBegin]
  rw [same, builds.session h counted]
  exact ⟨⟨_, rfl, List.append_nil _⟩, fun upto hupto => by cases hupto⟩

/-- However sessions over an orderly store, other writers and other programs take turns, as long as
nobody removes a record and the store stamps nothing that a session adds: every record that a session
has in view is the one that the store gives under its number.  If nobody but session `i` has written
since it began to build its view, the next view that it builds holds the same records. -/
theorem agreement_run {shared : Shared} (h : shared.backend.Orderly)
    (counted : shared.backend.Counted) (acts : List Act)
    (kept : ∀ act ∈ acts, act.removed? = none)
    (unstamped : ∀ i d, .add i d ∈ acts → shared.backend.stamps d = false) :
    let start : Sharing := { shared }
    (∀ i v, ((start.run acts).sessions i).view = some v → ∀ r ∈ v.all, ∀ first upto rs,
      first ≤ r.seq → r.seq < upto → (start.run acts).shared.range first upto = .ok rs →
      rs.filter (·.seq = r.seq) = [r]) ∧
    ∀ i before during later again,
      acts = before ++ (rebuild i during ++ later) ++ rebuild i again →
      (start.run before).Builds i during →
      Alone i (start.run before) (rebuild i during ++ later) →
      (start.run (before ++ (rebuild i during ++ later))).Builds i again →
      ∃ v v', ((start.run (before ++ (rebuild i during ++ later))).sessions i).view = some v ∧
        ((start.run acts).sessions i).view = some v' ∧ v'.all = v.all := by
  intro start
  have ordered : start.Ordered := ordered_start h
  refine ⟨fun i v hv r hr first upto rs hfirst hupto hrange => ?_, ?_⟩
  · have agrees := agrees_run (i := i) ordered kept unstamped (by intro v hv; cases hv)
    exact filter_of_range (ordered.run acts).orderly (agrees v hv r hr) hfirst hupto hrange
  · rintro i before during later again rfl builds alone builds'
    simp only [List.forall_mem_append] at kept
    obtain ⟨⟨keptBefore, keptRebuild, keptLater⟩, -⟩ := kept
    obtain ⟨aloneRebuild, aloneLater⟩ := alone_append.mp alone
    have ordered₁ := ordered.run before
    have grows := grows_run ordered.orderly keptBefore
    have grows' := grows.trans (builds.grows ordered₁.orderly)
    have ordered₂ := ordered₁.run (rebuild i during)
    have inStep := inStep_run ordered₂ (grows'.counted counted) aloneLater keptLater
      (fun j d hd => ?_) (builds.inStep ordered₁ (grows.counted counted) aloneRebuild)
    · rw [← run_append, ← run_append] at inStep
      obtain ⟨v, hv, hall⟩ := inStep.view
      have ordered₃ := ordered.run (before ++ (rebuild i during ++ later))
      have view' := builds'.view ordered₃ (counted_run ordered counted _)
      rw [← run_append] at view'
      exact ⟨v, _, hv, view', (List.append_nil _).trans hall.symm⟩
    · rw [grows'.stamps]
      refine unstamped j d ?_
      simp only [List.mem_append, hd, or_true, true_or]

/-- Two sessions over a database, which another program locks once each of them has a view. -/
def openedTwice : List Act :=
  [.attach, .begin 0, .finish 0, .attach, .begin 1, .finish 1, .add 0 ⟨"make", .ofNat 7, "/src"⟩,
    .lock .shared]

/-- Session `1` adds `ls`, and then fails to build a view. -/
def addingAlone : List Act :=
  [.unlock, .add 1 ⟨"ls", .ofNat 9, "/tmp"⟩, .fail [(.range, "disk I/O error")], .begin 1,
    .finish 1, .fail []]

/-- Session `0` adds a command, if it can. -/
def addingMeanwhile : List Act := [.add 0 ⟨"make test", .ofNat 8, "/src"⟩]

theorem agreement_addingAlone :
    let start : Sharing := { shared := unused }
    let w := start.run (openedTwice ++ (rebuild 1 addingMeanwhile ++ addingAlone))
    let w' := start.run (openedTwice ++ (rebuild 1 addingMeanwhile ++ addingAlone) ++
      rebuild 1 addingMeanwhile)
    (w.shared.backend.records ≠ w'.shared.backend.records) ∧
    (∃ v v', (w.sessions 1).view = some v ∧ (w'.sessions 1).view = some v' ∧ v'.all = v.all ∧
      v.all = [⟨1, "make", .ofNat 7, "/src"⟩, ⟨2, "ls", .ofNat 9, "/tmp"⟩]) ∧
    ∀ i v, (w'.sessions i).view = some v → ∀ r ∈ v.all, ∀ first upto rs,
      first ≤ r.seq → r.seq < upto → w'.shared.range first upto = .ok rs →
      rs.filter (·.seq = r.seq) = [r] := by
  have kept : ∀ act ∈ openedTwice ++ (rebuild 1 addingMeanwhile ++ addingAlone) ++
      rebuild 1 addingMeanwhile, act.removed? = none := by
    simp [openedTwice, addingMeanwhile, addingAlone, rebuild, Act.removed?]
  have unstamped : ∀ i d, .add i d ∈ openedTwice ++ (rebuild 1 addingMeanwhile ++ addingAlone) ++
      rebuild 1 addingMeanwhile → unused.backend.stamps d = false := by
    intro i d hd
    simp [openedTwice, addingMeanwhile, addingAlone, rebuild] at hd
    obtain ⟨-, rfl⟩ | ⟨-, rfl⟩ | ⟨-, rfl⟩ | ⟨-, rfl⟩ := hd <;> decide +kernel
  have builds : (({ shared := unused } : Sharing).run openedTwice).Builds 1 addingMeanwhile := by
    refine ⟨?_, ?_, by simp [addingMeanwhile], by simp [addingMeanwhile, Act.removed?], ?_⟩ <;>
      decide +kernel
  have alone : Alone 1 (({ shared := unused } : Sharing).run openedTwice)
      (rebuild 1 addingMeanwhile ++ addingAlone) := by
    refine ⟨.inr ?_, .inr ?_, .inr ?_, .inr ?_, .inl ⟨_, rfl⟩, .inr ?_, .inr ?_, .inr ?_, .inr ?_,
      trivial⟩ <;> decide +kernel
  have builds' : (({ shared := unused } : Sharing).run
      (openedTwice ++ (rebuild 1 addingMeanwhile ++ addingAlone))).Builds 1 addingMeanwhile := by
    refine ⟨?_, ?_, by simp [addingMeanwhile], by simp [addingMeanwhile, Act.removed?], ?_⟩ <;>
      decide +kernel
  obtain ⟨agrees, stays⟩ := agreement_run orderly_unused counted_unused _ kept unstamped
  obtain ⟨v, v', hv, hv', same⟩ := stays 1 _ _ _ _ rfl builds alone builds'
  have seen : ((({ shared := unused } : Sharing).run
      (openedTwice ++ (rebuild 1 addingMeanwhile ++ addingAlone))).sessions 1).view.map View.all =
      some [⟨1, "make", .ofNat 7, "/src"⟩, ⟨2, "ls", .ofNat 9, "/tmp"⟩] := by decide +kernel
  rw [hv] at seen
  exact ⟨by decide +kernel, ⟨v, v', hv, hv', same, Option.some.inj seen⟩, agrees⟩

/-- Session `0` adds a command that comes without a time. -/
def untimedAdd : List Act := [.attach, .begin 0, .finish 0, .add 0 ⟨"ls", .zero, "/tmp"⟩]

/-- The session has the command without a time in view, and the store has it with one, as has the
next view. -/
theorem agreement_untimedAdd :
    let w := ({ shared := unused } : Sharing).run untimedAdd
    (w.sessions 0).view = some ⟨[], [⟨1, "ls", .zero, "/tmp"⟩]⟩ ∧
      w.shared.range 1 2 = .ok [⟨1, "ls", .ofNat 1000, "/tmp"⟩] ∧
      ((w.run (rebuild 0 [])).sessions 0).view = some ⟨[⟨1, "ls", .ofNat 1000, "/tmp"⟩], []⟩ ∧
      (⟨1, "ls", .zero, "/tmp"⟩ : Record) ≠ ⟨1, "ls", .ofNat 1000, "/tmp"⟩ := by
  refine ⟨?_, rfl, ?_, ?_⟩ <;> decide +kernel

end Sharing

end Promptline.History
