import Mathlib.Logic.Function.Basic
import Promptline.History.View
import Promptline.Proofs.Store.Calls

/-! Sessions that share a store, one call of the store at a time.  A session that builds a view
makes two calls, and other sessions, other writers and faults may come in between; the session
itself does nothing else meanwhile.  `Change` lists what an act can do. -/

namespace Promptline.History

open Promptline.Store

/-- A session: its view, once it has been opened, and the number that it has read while it builds a
new view. -/
structure Session where
  view : Option View := none
  building : Option Int := none

/-- Sessions over one store. -/
structure Sharing where
  shared : Shared
  sessions : Nat → Session := fun _ => {}

/-- What sessions, other writers and other programs do. -/
inductive Act where
  /-- A session or another writer prepares the store. -/
  | attach
  /-- Session `i` reads the next number, to build a view. -/
  | begin (i : Nat)
  /-- Session `i` reads the records below that number, and has its new view. -/
  | finish (i : Nat)
  /-- Session `i` adds a command. -/
  | add (i : Nat) (d : Draft)
  /-- Another writer adds a record. -/
  | receive (d : Draft)
  /-- Another writer reads the next number. -/
  | peek
  /-- From now on the store fails in these calls. -/
  | fail (calls : List (Call × String))
  /-- These drafts arrive right after the next number is read. -/
  | arrive (ds : List Draft)
  | lock (lock : Lock)
  | unlock
  | delete (seq : Int)
  /-- The clock moves on and something is logged. -/
  | note (clock : Clock) (journal : Journal)

/-- The number of the record that an act removes, if it removes one. -/
def Act.removed? : Act → Option Int
  | .delete seq => some seq
  | _ => none

theorem Act.removed?_eq_some {act : Act} {seq : Int} (h : act.removed? = some seq) :
    act = .delete seq := by
  cases act with
  | delete n => exact congrArg Act.delete (Option.some.inj h)
  | _ => cases h

namespace Sharing

/-- The session `i` becomes `s`. -/
def put (w : Sharing) (i : Nat) (s : Session) (shared : Shared) : Sharing :=
  ⟨shared, Function.update w.sessions i s⟩

/-- Session `i` begins to build a view, unless it is doing so already. -/
def begin (w : Sharing) (i : Nat) : Sharing :=
  if (w.sessions i).building.isSome then w
  else
    match w.shared.next with
    | (.error _, shared) => { w with shared := shared }
    | (.ok upto, shared) => w.put i { w.sessions i with building := some upto } shared

/-- Session `i` has built its view, or keeps the one it has. -/
def finish (w : Sharing) (i : Nat) : Sharing :=
  match (w.sessions i).building with
  | none => w
  | some upto =>
    match View.collect w.shared upto with
    | (.error _, shared) => w.put i { w.sessions i with building := none } shared
    | (.ok v, shared) => w.put i ⟨some v, none⟩ shared

/-- Session `i` gets a new view if it finishes to build it now. -/
def canFinish (w : Sharing) (i : Nat) : Bool :=
  (w.sessions i).building.any fun upto => (View.collect w.shared upto).1.isOk

/-- Session `i` adds a command and gives its number, if it is open, does not build a view and the
store does not fail. -/
def add (w : Sharing) (i : Nat) (d : Draft) : Option Int × Sharing :=
  match w.sessions i with
  | ⟨some v, none⟩ =>
    match v.add d w.shared with
    | (.error _, shared) => (none, { w with shared := shared })
    | (.ok (seq, v), shared) => (some seq, w.put i ⟨some v, none⟩ shared)
  | _ => (none, w)

/-- Another program changes the database, if that succeeds. -/
def change (w : Sharing) (f : Database → Except Failure Database) : Sharing :=
  match w.shared.backend.onDatabase f with
  | .error _ => w
  | .ok b => { w with shared := { w.shared with backend := b } }

/-- The sessions and their store after an act. -/
def step (w : Sharing) : Act → Sharing
  | .attach => { w with shared := w.shared.attach.2 }
  | .begin i => w.begin i
  | .finish i => w.finish i
  | .add i d => (w.add i d).2
  | .receive d => { w with shared := (w.shared.add d).2 }
  | .peek => { w with shared := w.shared.next.2 }
  | .fail calls => { w with shared := { w.shared with failing := calls } }
  | .arrive ds => { w with shared := { w.shared with arriving := ds } }
  | .lock lock => w.change (·.takeLock lock)
  | .unlock => w.change (.ok ·.releaseLock)
  | .delete seq => w.change (·.delete seq)
  | .note clock journal => { w with shared := { w.shared with clock := clock, journal := journal } }

/-- The sessions and their store after acts in order. -/
def run (w : Sharing) (acts : List Act) : Sharing := acts.foldl step w

theorem run_cons (w : Sharing) (act : Act) (acts : List Act) :
    w.run (act :: acts) = (w.step act).run acts := rfl

theorem run_append (w : Sharing) (first second : List Act) :
    w.run (first ++ second) = (w.run first).run second :=
  List.foldl_append

theorem sessions_put (w : Sharing) (i j : Nat) (s : Session) (shared : Shared) :
    (w.put i s shared).sessions j = if j = i then s else w.sessions j :=
  Function.update_apply ..

/-- What holds of all sessions before and of the one that is put holds of all sessions after. -/
theorem forall_put {P : Session → Prop} {w : Sharing} {i j : Nat} {s : Session} {shared : Shared}
    (hs : j = i → P s) (hj : P (w.sessions j)) : P ((w.put i s shared).sessions j) := by
  rw [sessions_put]
  by_cases hij : j = i
  · rw [if_pos hij]
    exact hs hij
  · rw [if_neg hij]
    exact hj

/-! ### What an act does to the store -/

theorem begin_shared (w : Sharing) (i : Nat) :
    (w.begin i).shared = w.shared ∨ (w.begin i).shared = w.shared.next.2 := by
  unfold begin
  split
  · exact .inl rfl
  · right
    cases w.shared.next with
    | mk result shared => cases result <;> rfl

theorem finish_backend (w : Sharing) (i : Nat) :
    (w.finish i).shared.backend = w.shared.backend := by
  unfold finish
  split
  · rfl
  · unfold View.collect
    cases w.shared.range 0 _ <;> rfl

theorem add_shared (w : Sharing) (i : Nat) (d : Draft) :
    (w.add i d).2.shared = w.shared ∨ (w.add i d).2.shared = (w.shared.add d).2 := by
  unfold add
  split
  · right
    unfold View.add
    cases w.shared.add d with
    | mk result shared => cases result <;> rfl
  · exact .inl rfl

/-! ### What a session does is its own affair -/

theorem sessions_begin_of_ne {i j : Nat} (hij : i ≠ j) (w : Sharing) :
    (w.begin j).sessions i = w.sessions i := by
  unfold begin
  split
  · rfl
  · split
    · rfl
    · rw [sessions_put, if_neg hij]

theorem sessions_finish_of_ne {i j : Nat} (hij : i ≠ j) (w : Sharing) :
    (w.finish j).sessions i = w.sessions i := by
  unfold finish
  split
  · rfl
  · split <;> rw [sessions_put, if_neg hij]

theorem sessions_add_of_ne {i j : Nat} (hij : i ≠ j) (w : Sharing) (d : Draft) :
    (w.add j d).2.sessions i = w.sessions i := by
  unfold add
  split
  · split
    · rfl
    · rw [sessions_put, if_neg hij]
  · rfl

theorem sessions_change (w : Sharing) (f : Database → Except Failure Database) :
    (w.change f).sessions = w.sessions := by
  unfold change
  split <;> rfl

section building

variable {w : Sharing} {i : Nat} {upto : Int} {act : Act} {acts : List Act}

theorem begin_of_building (hi : (w.sessions i).building = some upto) : w.begin i = w := by
  rw [begin, hi]
  rfl

theorem add_of_building (d : Draft) (hi : (w.sessions i).building = some upto) :
    (w.add i d).2 = w := by
  unfold add
  split
  · next open' =>
    rw [open'] at hi
    cases hi
  · rfl

/-- While it builds a view a session stays as it is. -/
theorem session_step (hi : (w.sessions i).building = some upto) (unread : act ≠ .finish i) :
    (w.step act).sessions i = w.sessions i := by
  cases act with
  | attach | receive | peek | fail | arrive | note => rfl
  | begin j =>
    by_cases hij : i = j
    · rw [← hij, step, begin_of_building hi]
    · exact sessions_begin_of_ne hij w
  | finish j => exact sessions_finish_of_ne (fun hij => unread (congrArg Act.finish hij.symm)) w
  | add j d =>
    by_cases hij : i = j
    · rw [← hij, step, add_of_building d hi]
    · exact sessions_add_of_ne hij w d
  | lock | unlock | delete => exact congrFun (sessions_change w _) i

theorem building_step (hi : (w.sessions i).building = some upto) (unread : act ≠ .finish i) :
    ((w.step act).sessions i).building = some upto := by
  rw [session_step hi unread, hi]

theorem session_run (hi : (w.sessions i).building = some upto) (unread : .finish i ∉ acts) :
    (w.run acts).sessions i = w.sessions i := by
  induction acts generalizing w with
  | nil => rfl
  | cons act acts ih =>
    obtain ⟨hact, hacts⟩ := List.ne_and_not_mem_of_not_mem_cons unread
    rw [run_cons, ih (building_step hi hact.symm) hacts, session_step hi hact.symm]

theorem building_run (hi : (w.sessions i).building = some upto) (unread : .finish i ∉ acts) :
    ((w.run acts).sessions i).building = some upto := by
  rw [session_run hi unread, hi]

end building

/-- What an act does to sessions over an orderly store. -/
inductive Change (w : Sharing) : Act → Sharing → Prop where
  | stored {act} (shared : Shared)
      (leads : w.shared.backend.Leads act.removed? shared.backend) :
      Change w act { w with shared := shared }
  | began {i} (shared : Shared) (free : (w.sessions i).building = none)
      (leads : w.shared.backend.Leads none shared.backend) :
      Change w (.begin i)
        (w.put i { w.sessions i with building := some w.shared.backend.bound } shared)
  | abandoned {i} (upto : Int) (building : (w.sessions i).building = some upto) :
      Change w (.finish i) (w.put i { w.sessions i with building := none } w.shared)
  | renewed {i} (upto : Int) (shared : Shared) (building : (w.sessions i).building = some upto)
      (same : shared.backend = w.shared.backend) :
      Change w (.finish i)
        (w.put i ⟨some ⟨between w.shared.backend.records 0 upto, []⟩, none⟩ shared)
  | added {i d} (v : View) (seq : Int) (time) (shared : Shared)
      (open' : w.sessions i = ⟨some v, none⟩)
      (adds : w.shared.backend.Adds { d with time := time } seq shared.backend) :
      Change w (.add i d)
        (w.put i ⟨some { v with own := v.own ++ [d.numbered seq] }, none⟩ shared)

end Sharing

/-- A view that has been built holds the records below a number. -/
theorem View.collect_eq_ok {s s' : Shared} {upto : Int} {v : View} (h : s.backend.Orderly)
    (hv : collect s upto = (.ok v, s')) :
    v = ⟨between s.backend.records 0 upto, []⟩ ∧ s'.backend = s.backend := by
  unfold collect at hv
  split at hv
  · cases hv
  · next records hrange =>
    cases hv
    rw [Shared.range_eq_ok h hrange]
    exact ⟨rfl, rfl⟩

theorem View.collect_eq_error {s s' : Shared} {upto : Int} {f : Failure}
    (hv : collect s upto = (.error f, s')) : s' = s := by
  unfold collect at hv
  split at hv <;> cases hv
  rfl

namespace Sharing

variable {w : Sharing} (h : w.shared.backend.Orderly)
include h

theorem change_begin (i : Nat) : Change w (.begin i) (w.begin i) := by
  unfold begin
  split
  · exact .stored w.shared (.refl h)
  next free =>
  rw [Option.not_isSome_iff_eq_none] at free
  split
  · next shared hnext =>
    rw [Shared.next_eq_error hnext]
    exact .stored w.shared (.refl h)
  · next upto shared hnext =>
    obtain ⟨rfl, grows⟩ := Shared.next_eq_ok h hnext
    exact .began shared free grows.leads

/-- A session that can finish gets the records below the number that it has read. -/
theorem finish_of_canFinish {i : Nat} (hi : w.canFinish i = true) :
    ∃ upto shared, (w.sessions i).building = some upto ∧
      w.finish i = w.put i ⟨some ⟨between w.shared.backend.records 0 upto, []⟩, none⟩ shared := by
  obtain ⟨upto, building, hok⟩ := (Option.any_eq_true ..).mp hi
  cases hv : View.collect w.shared upto with
  | mk result shared =>
    rw [hv] at hok
    cases result with
    | error f => cases hok
    | ok v =>
      obtain ⟨rfl, -⟩ := View.collect_eq_ok h hv
      exact ⟨upto, shared, building, by simp only [finish, building, hv]⟩

theorem change_finish (i : Nat) : Change w (.finish i) (w.finish i) := by
  unfold finish
  split
  · exact .stored w.shared (.refl h)
  next upto building =>
  split
  · next shared hv =>
    rw [View.collect_eq_error hv]
    exact .abandoned upto building
  · next v shared hv =>
    obtain ⟨rfl, same⟩ := View.collect_eq_ok h hv
    exact .renewed upto shared building same

/-- A command is added to the store and to the view of its session, or not at all. -/
theorem add_cases (i : Nat) (d : Draft) :
    (∃ shared, shared.backend = w.shared.backend ∧
      w.add i d = (none, { w with shared := shared })) ∨
    ∃ v seq shared, w.sessions i = ⟨some v, none⟩ ∧
      w.shared.backend.Adds (w.shared.stamp d).1 seq shared.backend ∧
      w.add i d =
        (some seq, w.put i ⟨some { v with own := v.own ++ [d.numbered seq] }, none⟩ shared) := by
  unfold add
  split
  · next v open' =>
    unfold View.add
    cases hadd : w.shared.add d with
    | mk result shared =>
      cases result with
      | error f => exact .inl ⟨shared, Shared.add_eq_error hadd, rfl⟩
      | ok seq => exact .inr ⟨v, seq, shared, open', Shared.add_eq_ok h hadd, rfl⟩
  · exact .inl ⟨w.shared, rfl, rfl⟩

theorem change_add (i : Nat) (d : Draft) : Change w (.add i d) (w.add i d).2 := by
  obtain ⟨shared, same, heq⟩ | ⟨v, seq, shared, open', adds, heq⟩ := add_cases h i d
  · rw [heq]
    refine .stored shared ?_
    rw [same]
    exact .refl h
  · obtain ⟨time, htime⟩ := Shared.stamp_eq w.shared d
    rw [htime] at adds
    rw [heq]
    exact .added v seq time shared open' adds

/-- Every act is one of the changes. -/
theorem change_step (act : Act) : Change w act (w.step act) := by
  cases act with
  | attach => exact .stored _ (Shared.attach_grows h).leads
  | begin i => exact change_begin h i
  | finish i => exact change_finish h i
  | add i d => exact change_add h i d
  | receive d => exact .stored _ (Shared.add_grows h d).leads
  | peek => exact .stored _ (Shared.next_grows h).leads
  | fail | arrive | note => exact .stored _ (.refl h)
  | lock lock =>
    simp only [step, change]
    split
    · exact .stored w.shared (.refl h)
    · next b hb => exact .stored _ (h.takeLock hb).leads
  | unlock =>
    simp only [step, change]
    split
    · exact .stored w.shared (.refl h)
    · next b hb => exact .stored _ (h.releaseLock hb).leads
  | delete seq =>
    simp only [step, change]
    split
    · exact .stored w.shared (.refl h)
    · next b hb => exact .stored _ (h.delete hb)

end Sharing

end Promptline.History
