import Promptline.Proofs.History.Order

/-! A view is a picture of one moment.  A session that builds a view reads the next number and then
the records below it, and others may write in between.  Nothing is torn by that: the view holds the
records of the moment at which the session read the number, and what came later stands behind them
in the store, where the next view finds it. -/

namespace Promptline.History

open Promptline.Store

namespace Sharing

/-- Session `i` builds a view from `w` on.  It reads the number, the acts `during` come in between,
which remove no record, and it can read the records. -/
structure Builds (w : Sharing) (i : Nat) (during : List Act) : Prop where
  free : (w.sessions i).building = none
  begun : ((w.begin i).sessions i).building ≠ none
  unread : .finish i ∉ during
  kept : ∀ act ∈ during, act.removed? = none
  read : ((w.begin i).run during).canFinish i = true

/-- The acts with which session `i` builds a view, and those in between. -/
def rebuild (i : Nat) (during : List Act) : List Act := .begin i :: (during ++ [.finish i])

variable {w w' : Sharing} {act : Act} {acts during : List Act} {i : Nat} {upto : Int}

theorem run_rebuild (w : Sharing) (i : Nat) (during : List Act) :
    w.run (rebuild i during) = ((w.begin i).run during).finish i := by
  rw [rebuild, run_cons, run_append]
  rfl

theorem kept_rebuild (i : Nat) (kept : ∀ act ∈ during, act.removed? = none) :
    ∀ act ∈ rebuild i during, act.removed? = none := by
  simp only [rebuild, List.forall_mem_cons, List.forall_mem_append]
  exact ⟨rfl, kept, rfl, fun _ hact => (List.not_mem_nil hact).elim⟩

/-! ### The store while nobody removes a record -/

theorem grows_step (h : w.shared.backend.Orderly) (kept : act.removed? = none) :
    w.shared.backend.Grows (w.step act).shared.backend := by
  cases act with
  | attach => exact Shared.attach_grows h
  | begin i =>
    obtain same | next := begin_shared w i
    · simp only [step, same]
      exact .refl h
    · simp only [step, next]
      exact Shared.next_grows h
  | finish i =>
    simp only [step, finish_backend]
    exact .refl h
  | add i d =>
    obtain same | added := add_shared w i d
    · simp only [step, same]
      exact .refl h
    · simp only [step, added]
      exact Shared.add_grows h d
  | receive d => exact Shared.add_grows h d
  | peek => exact Shared.next_grows h
  | fail | arrive | note => exact .refl h
  | lock lock =>
    simp only [step, change]
    split
    · exact .refl h
    · next b hb => exact h.takeLock hb
  | unlock =>
    simp only [step, change]
    split
    · exact .refl h
    · next b hb => exact h.releaseLock hb
  | delete seq => cases kept

theorem grows_run (h : w.shared.backend.Orderly) (kept : ∀ act ∈ acts, act.removed? = none) :
    w.shared.backend.Grows (w.run acts).shared.backend := by
  induction acts generalizing w with
  | nil => exact .refl h
  | cons act acts ih =>
    obtain ⟨hact, hacts⟩ := List.forall_mem_cons.mp kept
    have first := grows_step h hact
    exact first.trans (ih first.orderly hacts)

theorem counted_step (h : w.shared.backend.Orderly) (counted : w.shared.backend.Counted)
    (act : Act) : (w.step act).shared.backend.Counted := by
  by_cases kept : act.removed? = none
  · exact (grows_step h kept).counted counted
  · obtain ⟨seq, hseq⟩ := Option.ne_none_iff_exists'.mp kept
    obtain rfl := Act.removed?_eq_some hseq
    simp only [step, change]
    split
    · exact counted
    · next b hb => exact fun r hr => counted r (Backend.mem_of_delete hb hr)

/-- However records are added and removed, they are counted. -/
theorem counted_run (h : w.Ordered) (counted : w.shared.backend.Counted) (acts : List Act) :
    (w.run acts).shared.backend.Counted := by
  induction acts generalizing w with
  | nil => exact counted
  | cons act acts ih =>
    exact ih ((change_step h.orderly act).ordered h) (counted_step h.orderly counted act)

/-! ### The number that a session has read -/

/-- A session that begins to build a view reads the bound of the store. -/
theorem building_begin (h : w.shared.backend.Orderly) (free : (w.sessions i).building = none)
    (begun : ((w.begin i).sessions i).building ≠ none) :
    ((w.begin i).sessions i).building = some w.shared.backend.bound := by
  have change := change_begin h i
  generalize w.begin i = w' at change begun
  cases change with
  | stored shared leads => exact absurd free begun
  | began shared free leads => rw [sessions_put, if_pos rfl]

/-! ### The view that a session gets -/

theorem Builds.grows (builds : w.Builds i during) (h : w.shared.backend.Orderly) :
    w.shared.backend.Grows (w.run (rebuild i during)).shared.backend :=
  grows_run h (kept_rebuild i builds.kept)

/-- The records below the number that the session has read are still all those that the store held
when it read it, and no others. -/
theorem Builds.session (builds : w.Builds i during) (h : w.Ordered)
    (counted : w.shared.backend.Counted) :
    (w.run (rebuild i during)).sessions i = ⟨some ⟨w.shared.backend.records, []⟩, none⟩ := by
  have begun : (w.begin i).Ordered := (change_begin h.orderly i).ordered h
  have building := building_begin h.orderly builds.free builds.begun
  have kept : ∀ act ∈ Act.begin i :: during, act.removed? = none :=
    List.forall_mem_cons.mpr ⟨rfl, builds.kept⟩
  have grows : w.shared.backend.Grows ((w.begin i).run during).shared.backend :=
    grows_run h.orderly kept
  obtain ⟨upto, shared, hupto, hfinish⟩ :=
    finish_of_canFinish (begun.run during).orderly builds.read
  obtain rfl : w.shared.backend.bound = upto :=
    Option.some.inj ((building_run building builds.unread).symm.trans hupto)
  rw [run_rebuild, hfinish, sessions_put, if_pos rfl, grows.between_bound h.orderly counted]

theorem Builds.view (builds : w.Builds i during) (h : w.Ordered)
    (counted : w.shared.backend.Counted) :
    ((w.run (rebuild i during)).sessions i).view = some ⟨w.shared.backend.records, []⟩ := by
  rw [builds.session h counted]

/-- However sessions over an orderly store, other writers and other programs have taken turns: the
view that a session builds next holds all records of the store at the moment when the session reads
the number, in their order.  What others add while it is being built comes later in the store, under
numbers that are not in view.  The next view has all of it too. -/
theorem snapshot_run {shared : Shared} (h : shared.backend.Orderly)
    (counted : shared.backend.Counted) (before : List Act)
    (builds : (({ shared } : Sharing).run before).Builds i during) :
    let w := ({ shared } : Sharing).run before
    let w' := w.run (rebuild i during)
    ∃ v later, (w'.sessions i).view = some v ∧ v.all = w.shared.backend.records ∧
      Ascending v.all ∧ w'.shared.backend.records = v.all ++ later ∧
      (∀ r ∈ later, ∀ seen ∈ v.all, seen.seq < r.seq) ∧
      ∀ after again : List Act, (∀ act ∈ after, act.removed? = none) →
        (w'.run after).Builds i again →
        ∃ v', (((w'.run after).run (rebuild i again)).sessions i).view = some v' ∧
          v'.all = (w'.run after).shared.backend.records ∧ v.all ++ later <+: v'.all := by
  intro w w'
  have ordered : w.Ordered := (ordered_start h).run before
  have ordered' : w'.Ordered := ordered.run (rebuild i during)
  have counted' : w.shared.backend.Counted := counted_run (ordered_start h) counted before
  obtain ⟨later, hrecords, hlater⟩ := (builds.grows ordered.orderly).records
  refine ⟨_, later, builds.view ordered counted', List.append_nil _, ?_, ?_, ?_, ?_⟩
  · rw [View.all, List.append_nil]
    exact ordered.orderly.ascending
  · rw [View.all, List.append_nil]
    exact hrecords
  · intro r hr seen hseen
    rw [View.all, List.append_nil] at hseen
    exact Int.lt_of_lt_of_le (ordered.orderly.below seen hseen) (hlater r hr).1
  · intro after again kept builds'
    have grows := grows_run ordered'.orderly kept
    have view' := builds'.view (ordered'.run after)
      (grows.counted ((builds.grows ordered.orderly).counted counted'))
    obtain ⟨more, hmore, -⟩ := grows.records
    refine ⟨_, view', List.append_nil _, more, ?_⟩
    rw [View.all, View.all, List.append_nil, List.append_nil, hmore]
    exact congrArg (· ++ more) hrecords.symm

/-- Session `0` has added `make`, and another writer is about to add `pwd`. -/
def beforeBuilding : List Act :=
  [.attach, .begin 0, .finish 0, .attach, .begin 1, .finish 1, .add 0 ⟨"make", .ofNat 7, "/src"⟩,
    .arrive [⟨"pwd", .ofNat 8, ""⟩]]

/-- Session `1` adds `ls`, and a writer finds the database locked. -/
def whileBuilding : List Act :=
  [.add 1 ⟨"ls", .zero, "/tmp"⟩, .lock .shared, .receive ⟨"date", .ofNat 9, ""⟩, .unlock]

/-- Session `0` begins again, and session `1` adds `top`. -/
def whileRebuilding : List Act := [.add 1 ⟨"top", .ofNat 10, "/"⟩]

theorem snapshot_addedBetween :
    let w := ({ shared := unused } : Sharing).run beforeBuilding
    let w' := w.run (rebuild 0 whileBuilding)
    w.Builds 0 whileBuilding ∧ (w'.run []).Builds 0 whileRebuilding ∧
      ∃ v v', (w'.sessions 0).view = some v ∧ v.all.map Record.text = ["make"] ∧
        (((w'.run []).run (rebuild 0 whileRebuilding)).sessions 0).view = some v' ∧
        v'.all.map Record.text = ["make", "pwd", "ls"] := by
  have builds : (({ shared := unused } : Sharing).run beforeBuilding).Builds 0 whileBuilding := by
    refine ⟨?_, ?_, by simp [whileBuilding], by simp [whileBuilding, Act.removed?], ?_⟩ <;>
      decide +kernel
  have builds' : (((({ shared := unused } : Sharing).run beforeBuilding).run
      (rebuild 0 whileBuilding)).run []).Builds 0 whileRebuilding := by
    refine ⟨?_, ?_, by simp [whileRebuilding], by simp [whileRebuilding, Act.removed?], ?_⟩ <;>
      decide +kernel
  obtain ⟨v, later, hv, hall, -, -, -, next⟩ :=
    snapshot_run orderly_unused counted_unused beforeBuilding builds
  obtain ⟨v', hv', hall', -⟩ := next [] _ (fun _ hact => (List.not_mem_nil hact).elim) builds'
  refine ⟨builds, builds', v, v', hv, ?_, hv', ?_⟩
  · rw [hall]
    decide +kernel
  · rw [hall']
    decide +kernel

end Sharing

end Promptline.History
