import Promptline.Proofs.History.Order

/-! A command that a session has added stays in its view, and is in every view that any session
begins to build afterwards, while nobody deletes its record.  Only the time of the record may
differ: the store stamps a command that comes without one, the session keeps it as it came. -/

namespace Promptline.History

open Promptline.Store

/-- `r` records the draft `d` under the number `seq`, whatever its time. -/
structure Records (seq : Int) (d : Draft) (r : Record) : Prop where
  seq : r.seq = seq
  text : r.text = d.text
  directory : r.directory = d.directory

/-- A view that a session builds now is to have the record `seq`. -/
def Session.Awaits (s : Session) (seq : Int) : Prop := ∀ upto, s.building = some upto → seq < upto

/-- A session has `d` in view under the number `seq`. -/
def Session.Sees (s : Session) (seq : Int) (d : Draft) : Prop :=
  ∃ v, s.view = some v ∧ ∃ r ∈ v.all, Records seq d r

/-- A session has `d` in view, and will have when it has built its next view. -/
structure Session.Keeps (s : Session) (seq : Int) (d : Draft) : Prop where
  seen : s.Sees seq d
  awaits : s.Awaits seq

/-- A session has exactly one record `seq` in view, and this records `d`. -/
def Session.HoldsOnce (s : Session) (seq : Int) (d : Draft) : Prop :=
  ∃ v r, s.view = some v ∧ v.all.filter (·.seq = seq) = [r] ∧ Records seq d r

/-- The store has the record `seq` of `d`, where every view can have it. -/
structure Sharing.Stores (w : Sharing) (seq : Int) (d : Draft) : Prop where
  stored : ∃ r ∈ w.shared.backend.records, Records seq d r
  counted : 0 ≤ seq

variable {w w' : Sharing} {act : Act} {i j : Nat} {seq : Int} {d : Draft}

theorem Session.Keeps.holdsOnce {s : Session} {bound : Int} (h : s.Keeps seq d)
    (ordered : s.Ordered bound) : s.HoldsOnce seq d := by
  obtain ⟨v, hv, r, hr, records⟩ := h.seen
  obtain rfl := records.seq
  exact ⟨v, r, hv, (ordered.ascending v hv).filter_seq hr, records⟩

namespace Sharing

theorem Stores.lt_bound (h : w.Stores seq d) (orderly : w.shared.backend.Orderly) :
    seq < w.shared.backend.bound := by
  obtain ⟨r, hr, records⟩ := h.stored
  exact records.seq ▸ orderly.below r hr

theorem Stores.leads {shared : Shared} {gone : Option Int} {sessions : Nat → Session}
    (h : w.Stores seq d) (leads : w.shared.backend.Leads gone shared.backend)
    (hgone : gone ≠ some seq) : (⟨shared, sessions⟩ : Sharing).Stores seq d := by
  obtain ⟨r, hr, records⟩ := h.stored
  exact ⟨⟨r, leads.kept r hr (records.seq ▸ hgone), records⟩, h.counted⟩

/-- What an act does to the store. -/
theorem Change.leads (change : Change w act w') (h : w.shared.backend.Orderly) :
    w.shared.backend.Leads act.removed? w'.shared.backend := by
  cases change with
  | stored shared leads => exact leads
  | began shared free leads => exact leads
  | abandoned upto building => exact .refl h
  | renewed upto shared building same =>
    show w.shared.backend.Leads _ shared.backend
    rw [same]
    exact .refl h
  | added v seq time shared open' adds => exact adds.leads

theorem Change.stores (change : Change w act w') (h : w.Ordered) (stores : w.Stores seq d)
    (kept : act ≠ .delete seq) : w'.Stores seq d :=
  stores.leads (change.leads h.orderly) fun hgone => kept (Act.removed?_eq_some hgone)

/-- A view that has been built from a number above that of a stored record has this record. -/
theorem Stores.renewed (stores : w.Stores seq d) {upto : Int} (hlt : seq < upto) :
    (⟨some ⟨between w.shared.backend.records 0 upto, []⟩, none⟩ : Session).Keeps seq d := by
  obtain ⟨r, hr, records⟩ := stores.stored
  refine ⟨⟨_, rfl, r, ?_, records⟩, fun upto hupto => by cases hupto⟩
  rw [View.all, List.append_nil]
  have := stores.counted
  have := records.seq
  exact mem_between.mpr ⟨hr, by omega, by omega⟩

theorem Change.awaits (change : Change w act w') (h : w.Ordered) (stores : w.Stores seq d)
    (awaits : (w.sessions j).Awaits seq) : (w'.sessions j).Awaits seq := by
  cases change with
  | stored shared leads => exact awaits
  | began shared free leads =>
    refine forall_put (P := (·.Awaits seq)) (fun _ => ?_) awaits
    rintro upto ⟨⟩
    exact stores.lt_bound h.orderly
  | abandoned | renewed | added =>
    refine forall_put (P := (·.Awaits seq)) (fun _ => ?_) awaits
    intro upto hupto
    cases hupto

theorem Change.keeps (change : Change w act w') (h : w.Ordered) (stores : w.Stores seq d)
    (keeps : (w.sessions j).Keeps seq d) : (w'.sessions j).Keeps seq d := by
  refine ⟨?_, change.awaits h stores keeps.awaits⟩
  cases change with
  | stored shared leads => exact keeps.seen
  | began | abandoned =>
    refine forall_put (P := (·.Sees seq d)) ?_ keeps.seen
    rintro rfl
    exact keeps.seen
  | renewed upto shared building same =>
    -- The own records go with the old view, but the new one is built from a number above `seq`.
    refine forall_put (P := (·.Sees seq d)) ?_ keeps.seen
    rintro rfl
    exact (stores.renewed (keeps.awaits upto building)).seen
  | added v seq' time shared open' adds =>
    refine forall_put (P := (·.Sees seq d)) ?_ keeps.seen
    rintro rfl
    obtain ⟨v', hv', r, hr, records⟩ := keeps.seen
    rw [open'] at hv'
    cases hv'
    refine ⟨_, rfl, r, ?_, records⟩
    rw [View.all, ← List.append_assoc]
    exact List.mem_append_left _ hr

/-- What holds right after a command has been added. -/
theorem Ordered.add (h : w.Ordered) (added : (w.add i d).1 = some seq) :
    (w.add i d).2.Stores seq d ∧ ((w.add i d).2.sessions i).Keeps seq d := by
  obtain ⟨shared, -, heq⟩ | ⟨v, n, shared, -, adds, heq⟩ := add_cases h.orderly i d
  · rw [heq] at added
    cases added
  · obtain ⟨time, htime⟩ := Shared.stamp_eq w.shared d
    rw [htime] at adds
    rw [heq] at added ⊢
    cases added
    have keeps : (⟨some { v with own := v.own ++ [d.numbered seq] }, none⟩ :
        Session).Keeps seq d := by
      refine ⟨⟨_, rfl, d.numbered seq, ?_, rfl, rfl, rfl⟩, fun upto hupto => by cases hupto⟩
      rw [View.all, ← List.append_assoc]
      exact List.mem_append_right _ List.mem_cons_self
    refine ⟨⟨⟨{ d with time := time }.numbered seq, ?_, rfl, rfl, rfl⟩, adds.counted⟩, ?_⟩
    · show _ ∈ shared.backend.records
      rw [adds.records]
      exact List.mem_append_right _ List.mem_cons_self
    · rw [sessions_put, if_pos rfl]
      exact keeps

theorem finish_keeps (h : w.Ordered) (stores : w.Stores seq d)
    (awaits : (w.sessions j).Awaits seq) (done : w.canFinish j = true) :
    ((w.step (.finish j)).sessions j).Keeps seq d := by
  obtain ⟨upto, shared, building, heq⟩ := finish_of_canFinish h.orderly done
  rw [step, heq, sessions_put, if_pos rfl]
  exact stores.renewed (awaits upto building)

/-! ### Runs -/

variable {acts : List Act}

theorem stores_run (h : w.Ordered) (stores : w.Stores seq d) (kept : .delete seq ∉ acts) :
    (w.run acts).Stores seq d :=
  h.induct stores fun _ _ _ h hact change stores =>
    change.stores h stores (ne_of_mem_of_not_mem hact kept)

theorem awaits_run (h : w.Ordered) (stores : w.Stores seq d) (kept : .delete seq ∉ acts)
    (awaits : (w.sessions j).Awaits seq) : ((w.run acts).sessions j).Awaits seq := by
  refine (h.induct (P := fun w => w.Stores seq d ∧ (w.sessions j).Awaits seq) ⟨stores, awaits⟩ ?_).2
  rintro w act w' h hact change ⟨stores, awaits⟩
  exact ⟨change.stores h stores (ne_of_mem_of_not_mem hact kept), change.awaits h stores awaits⟩

theorem keeps_run (h : w.Ordered) (stores : w.Stores seq d) (kept : .delete seq ∉ acts)
    (keeps : (w.sessions j).Keeps seq d) : ((w.run acts).sessions j).Keeps seq d := by
  refine (h.induct (P := fun w => w.Stores seq d ∧ (w.sessions j).Keeps seq d) ⟨stores, keeps⟩ ?_).2
  rintro w act w' h hact change ⟨stores, keeps⟩
  exact ⟨change.stores h stores (ne_of_mem_of_not_mem hact kept), change.keeps h stores keeps⟩

/-- A session that builds a view after a command has been stored has the command from then on. -/
theorem keeps_of_finish (h : w.Ordered) (stores : w.Stores seq d) {first second last : List Act}
    (kept : .delete seq ∉ first ++ second ++ .finish j :: last)
    (free : ((w.run first).sessions j).building = none)
    (done : (w.run (first ++ second)).canFinish j = true) :
    ((w.run (first ++ second ++ .finish j :: last)).sessions j).Keeps seq d := by
  simp only [List.mem_append, List.mem_cons, not_or] at kept
  obtain ⟨⟨keptFirst, keptSecond⟩, -, keptLast⟩ := kept
  have storesFirst := stores_run h stores keptFirst
  -- The session reads its number after `first`, when the record is already counted in the bound.
  have awaits : ((w.run first).sessions j).Awaits seq := by
    intro upto hupto
    cases free.symm.trans hupto
  rw [run_append] at done
  rw [run_append, run_append, run_cons]
  have atFinish := (h.run first).run second
  have storesFinish := stores_run (h.run first) storesFirst keptSecond
  have awaitsFinish := awaits_run (h.run first) storesFirst keptSecond awaits
  have change := change_step atFinish.orderly (.finish j)
  have storesAfter := change.stores atFinish storesFinish Act.noConfusion
  have finished := finish_keeps atFinish storesFinish awaitsFinish done
  exact keeps_run (change.ordered atFinish) storesAfter keptLast finished

/-- If session `i` has added `d` and got the number `seq`, it has exactly one record of this number
in view from then on, and this records `d`, whatever other sessions, other writers and faults do
meanwhile and however often the session builds its view anew.  The same holds of a session `j` once
it has built a view, if it began to after the addition. -/
theorem durable_run {shared : Shared} (h : shared.backend.Orderly) (before after : List Act)
    (added : ((({ shared } : Sharing).run before).add i d).1 = some seq)
    (kept : .delete seq ∉ after) :
    let w := ((({ shared } : Sharing).run before).add i d).2
    ((w.run after).sessions i).HoldsOnce seq d ∧
      ∀ (first second last : List Act) (j : Nat), after = first ++ second ++ .finish j :: last →
        ((w.run first).sessions j).building = none →
        (w.run (first ++ second)).canFinish j = true →
        ((w.run after).sessions j).HoldsOnce seq d := by
  intro w
  have start := (ordered_start h).run before
  have ordered : w.Ordered := (change_add start.orderly i d).ordered start
  obtain ⟨stores, keeps⟩ := start.add added
  have later := (ordered.run after).sessions
  refine ⟨(keeps_run ordered stores kept keeps).holdsOnce (later i), ?_⟩
  rintro first second last j rfl free done
  exact (keeps_of_finish ordered stores kept free done).holdsOnce (later j)

/-- Session `1` is building a view when session `0` adds `make`. -/
def beforeAdding : List Act :=
  [.attach, .begin 0, .finish 0, .attach, .begin 1, .finish 1, .receive ⟨"ls", .zero, "/tmp"⟩,
    .begin 1]

/-- Session `1` finishes that view, which is without `make`. -/
def finishingOld : List Act := [.finish 1]

/-- Session `0` cannot build a new view.  Session `1` begins to, and another record arrives. -/
def beginningNew : List Act :=
  [.fail [(.range, "disk I/O error")], .begin 0, .finish 0, .fail [], .arrive [⟨"pwd", .zero, ""⟩],
    .begin 1]

/-- The first record is deleted, and session `0` builds a new view. -/
def followingUp : List Act := [.delete 1, .begin 0, .finish 0]

theorem durable_rebuilt :
    let w := ((({ shared := unused } : Sharing).run beforeAdding).add 0 ⟨"make", .zero, "/src"⟩).2
    let after := finishingOld ++ beginningNew ++ .finish 1 :: followingUp
    ((({ shared := unused } : Sharing).run beforeAdding).add 0 ⟨"make", .zero, "/src"⟩).1 = some 2 ∧
      ((w.run after).sessions 0).HoldsOnce 2 ⟨"make", .zero, "/src"⟩ ∧
      ((w.run after).sessions 1).HoldsOnce 2 ⟨"make", .zero, "/src"⟩ := by
  have added : ((({ shared := unused } : Sharing).run beforeAdding).add 0
      ⟨"make", .zero, "/src"⟩).1 = some 2 := by decide +kernel
  have kept : .delete 2 ∉ finishingOld ++ beginningNew ++ .finish 1 :: followingUp := by
    simp [finishingOld, beginningNew, followingUp]
  obtain ⟨own, others⟩ := durable_run orderly_unused beforeAdding _ added kept
  refine ⟨added, own, others finishingOld beginningNew followingUp 1 rfl ?_ ?_⟩ <;> decide +kernel

end Sharing

end Promptline.History
