import Promptline.Proofs.History.Cursor
import Promptline.Proofs.History.Sharing
import Promptline.Proofs.Store.Origin

/-! The records that a session sees are in the order of their numbers.  A view is a snapshot of one
moment and additions of later ones: they are in order because the number that a snapshot was built
from is never above the bound of the store, and additions get numbers from the bound on. -/

namespace Promptline.History

open Promptline.Store

/-- A session in order, over a store with bound `bound`. -/
structure Session.Ordered (s : Session) (bound : Int) : Prop where
  ascending : ∀ v, s.view = some v → Ascending v.all
  below : ∀ v, s.view = some v → ∀ r ∈ v.all, r.seq < bound
  building : ∀ upto, s.building = some upto → upto ≤ bound

namespace Session.Ordered

variable {s : Session} {bound bound' : Int}

theorem mono (h : s.Ordered bound) (hle : bound ≤ bound') : s.Ordered bound' := by
  refine ⟨h.ascending, fun v hv r hr => ?_, fun upto hupto => ?_⟩
  · exact Int.lt_of_lt_of_le (h.below v hv r hr) hle
  · exact Int.le_trans (h.building upto hupto) hle

theorem unopened (bound : Int) : ({} : Session).Ordered bound := by
  constructor <;> intro x hx <;> cases hx

/-- A session that begins to build a view or stops to. -/
theorem rebuilding (h : s.Ordered bound) (building : Option Int)
    (hle : ∀ upto, building = some upto → upto ≤ bound) :
    ({ s with building := building } : Session).Ordered bound :=
  ⟨h.ascending, h.below, hle⟩

/-- A session with a new view of the store. -/
theorem renewed {b : Backend} (h : b.Orderly) (upto : Int) :
    (⟨some ⟨between b.records 0 upto, []⟩, none⟩ : Session).Ordered b.bound := by
  constructor
  · rintro v ⟨⟩
    rw [View.all, List.append_nil]
    exact h.ascending.filter _
  · rintro v ⟨⟩ r hr
    rw [View.all, List.append_nil] at hr
    exact h.below r (mem_between.mp hr).1
  · intro upto hupto
    cases hupto

/-- A session that has added a record. -/
theorem added {v : View} {b b' : Backend} {d d' : Draft} {seq : Int}
    (h : (⟨some v, none⟩ : Session).Ordered b.bound) (adds : b.Adds d' seq b') :
    (⟨some { v with own := v.own ++ [d.numbered seq] }, none⟩ : Session).Ordered b'.bound := by
  -- The bound has only grown since the session saw its records, and the new number is not below it.
  have hlt : ∀ r ∈ v.all, r.seq < seq := by
    intro r hr
    exact Int.lt_of_lt_of_le (h.below v rfl r hr) adds.fresh
  constructor
  · rintro w ⟨⟩
    rw [View.all, ← List.append_assoc]
    exact (h.ascending v rfl).concat hlt
  · rintro w ⟨⟩ r hr
    rw [adds.bound]
    rw [View.all, ← List.append_assoc] at hr
    obtain hr | hr := List.mem_append.mp hr
    · have := hlt r hr
      omega
    · rw [List.mem_singleton.mp hr]
      exact Int.lt_succ seq
  · intro upto hupto
    cases hupto

end Session.Ordered

namespace Sharing

/-- Sessions in order over an orderly store. -/
structure Ordered (w : Sharing) : Prop where
  orderly : w.shared.backend.Orderly
  sessions : ∀ i, (w.sessions i).Ordered w.shared.backend.bound

variable {w w' : Sharing} {act : Act} {shared : Shared} {gone : Option Int}

theorem ordered_start (h : shared.backend.Orderly) : ({ shared } : Sharing).Ordered :=
  ⟨h, fun _ => .unopened _⟩

theorem Ordered.put (h : w.Ordered) (leads : w.shared.backend.Leads gone shared.backend) (i : Nat)
    {s : Session} (hs : s.Ordered shared.backend.bound) : (w.put i s shared).Ordered := by
  refine ⟨leads.orderly, fun j => ?_⟩
  exact forall_put (P := (·.Ordered _)) (fun _ => hs) ((h.sessions j).mono leads.bound)

theorem Change.ordered (change : Change w act w') (h : w.Ordered) : w'.Ordered := by
  cases change with
  | stored shared leads => exact ⟨leads.orderly, fun j => (h.sessions j).mono leads.bound⟩
  | @began i shared free leads =>
    refine h.put leads i (((h.sessions i).mono leads.bound).rebuilding _ ?_)
    rintro upto ⟨⟩
    exact leads.bound
  | @abandoned i upto building =>
    have leads : w.shared.backend.Leads none w.shared.backend := .refl h.orderly
    exact h.put leads i ((h.sessions i).rebuilding none (by intro upto hupto; cases hupto))
  | @renewed i upto shared building same =>
    have leads : w.shared.backend.Leads none shared.backend := by
      rw [same]
      exact .refl h.orderly
    refine h.put leads i ?_
    rw [same]
    exact .renewed h.orderly upto
  | @added i d v seq time shared open' adds =>
    exact h.put (adds.leads : w.shared.backend.Leads none _) i ((open' ▸ h.sessions i).added adds)

/-- What every act keeps, a run keeps. -/
theorem Ordered.induct {P : Sharing → Prop} (h : w.Ordered) {acts : List Act} (start : P w)
    (keeps : ∀ w act w', w.Ordered → act ∈ acts → Change w act w' → P w → P w') :
    P (w.run acts) := by
  induction acts generalizing w with
  | nil => exact start
  | cons act acts ih =>
    have change := change_step h.orderly act
    refine ih (change.ordered h) (keeps w act _ h List.mem_cons_self change start) ?_
    intro w act w' h hact
    exact keeps w act w' h (List.mem_cons_of_mem _ hact)

theorem Ordered.run (h : w.Ordered) (acts : List Act) : (w.run acts).Ordered :=
  h.induct h fun _ _ _ h _ change _ => change.ordered h

/-- However sessions over an orderly store, other writers and other programs take turns, whatever
they delete and whatever fails: the records in view of a session are in the order of their numbers,
no number twice.  So are those that a cursor gives on its way from older to newer ones, and it can
give all that match. -/
theorem ordered_run (h : shared.backend.Orderly) (acts : List Act) (i : Nat) (v : View)
    (hv : ((({ shared } : Sharing).run acts).sessions i).view = some v) :
    Ascending v.all ∧ ∀ (lead : String) (moves : List Cursor.Move),
      let c := (v.cursor lead).after moves
      c.around c.length c.length = matching lead v.all ∧ ∀ n m, Ascending (c.around n m) := by
  have ascending := (((ordered_start h).run acts).sessions i).ascending v hv
  refine ⟨ascending, fun lead moves => ?_⟩
  intro c
  obtain ⟨hrecords, hbound⟩ := Cursor.after_bounded (Cursor.ofRecords_bounded lead v.all) moves
  have hle : c.position ≤ c.records.length := hrecords ▸ hbound
  refine ⟨(Cursor.around_length hle).trans hrecords, fun n m => ?_⟩
  have found : Ascending c.records := hrecords ▸ ascending.filter _
  exact found.sublist (Cursor.around_sublist hle n m)

/-- A database that has not been used yet. -/
def unused : Shared := { backend := .database { path := "hist.db" }, clock := ⟨1000⟩ }

theorem orderly_unused : unused.backend.Orderly := by
  refine ⟨⟨by decide, by decide⟩, List.Pairwise.nil, fun r hr => ?_⟩
  cases hr

theorem counted_unused : unused.backend.Counted := fun _ hr => (List.not_mem_nil hr).elim

/-- Two sessions add a record each, and the first one builds its view anew.  While it does so a
third record arrives and the second one is deleted, so the view has the first.  The next record gets
the number after that of the third.  At last a view cannot be built. -/
def deletedBetween : List Act :=
  [.attach, .begin 0, .finish 0, .attach, .begin 1, .finish 1, .add 0 ⟨"make", .zero, "/src"⟩,
    .add 1 ⟨"ls", .zero, "/tmp"⟩, .arrive [⟨"pwd", .zero, ""⟩], .begin 0, .delete 2, .finish 0,
    .add 0 ⟨"make test", .zero, "/src"⟩, .fail [(.range, "disk I/O error")], .begin 0, .finish 0]

theorem ordered_deletedBetween : ∃ v,
    ((({ shared := unused } : Sharing).run deletedBetween).sessions 0).view = some v ∧
      v.all.map Record.seq = [1, 4] ∧
      Ascending v.all ∧ ∀ (lead : String) (moves : List Cursor.Move),
        let c := (v.cursor lead).after moves
        c.around c.length c.length = matching lead v.all ∧ ∀ n m, Ascending (c.around n m) := by
  have seen : ((({ shared := unused } : Sharing).run deletedBetween).sessions 0).view.map
      (·.all.map Record.seq) = some [1, 4] := by decide +kernel
  obtain ⟨v, hv, hseq⟩ := Option.map_eq_some_iff.mp seen
  exact ⟨v, hv, hseq, ordered_run orderly_unused deletedBetween 0 v hv⟩

end Sharing

end Promptline.History
