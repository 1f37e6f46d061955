import Promptline.Proofs.History.Order
import Promptline.Workspace

/-! The operations of a workspace as acts of its sessions.  An operation that makes several calls of
the store is a row of acts with nothing in between, so what holds of all runs of acts holds of a
workspace. -/

namespace Promptline.History

open Promptline.Store

namespace Sharing

/-- Acts lead from `w` to `w'`. -/
def Becomes (w w' : Sharing) : Prop := ∃ acts, w.run acts = w'

variable {w w' w'' : Sharing} {i : Nat} {v v' : View} {d : Draft} {seq : Int} {f : Failure}
  {shared : Shared}

theorem Becomes.refl (w : Sharing) : w.Becomes w := ⟨[], rfl⟩

theorem Becomes.trans (first : w.Becomes w') (second : w'.Becomes w'') : w.Becomes w'' := by
  obtain ⟨acts, rfl⟩ := first
  obtain ⟨acts', rfl⟩ := second
  exact ⟨acts ++ acts', run_append w acts acts'⟩

theorem becomes_step (w : Sharing) (act : Act) : w.Becomes (w.step act) := ⟨[act], rfl⟩

/-- A session that stays as it is. -/
theorem put_self (w : Sharing) (i : Nat) (shared : Shared) :
    w.put i (w.sessions i) shared = { w with shared := shared } := by
  rw [put, Function.update_eq_self]

theorem put_put (w : Sharing) (i : Nat) (s s' : Session) (shared shared' : Shared) :
    (w.put i s shared).put i s' shared' = w.put i s' shared' := by
  rw [put, put, put, Function.update_idem]

/-! ### What a session does without a break -/

/-- A view that is built without a break. -/
theorem begin_finish (free : (w.sessions i).building = none) :
    (w.begin i).finish i =
      match View.load w.shared with
      | (.error _, shared) => { w with shared := shared }
      | (.ok v, shared) => w.put i ⟨some v, none⟩ shared := by
  have same : ({ w.sessions i with building := none } : Session) = w.sessions i := by
    rw [← free]
  unfold View.load begin
  rw [if_neg (by simp [free])]
  cases hnext : w.shared.next with
  | mk result shared =>
    cases result with
    | error f => simp only [finish, free]
    | ok upto =>
      cases hv : View.collect shared upto with
      | mk result shared' =>
        cases result with
        | error f =>
          simp only [finish, sessions_put, if_pos]
          rw [show (w.put i _ shared).shared = shared from rfl, hv]
          simp only [put_put, same, put_self]
        | ok v =>
          simp only [finish, sessions_put, if_pos]
          rw [show (w.put i _ shared).shared = shared from rfl, hv]
          simp only [put_put]

theorem becomes_load (free : (w.sessions i).building = none)
    (hload : View.load w.shared = (.ok v, shared)) : w.Becomes (w.put i ⟨some v, none⟩ shared) := by
  refine ⟨[.begin i, .finish i], ?_⟩
  show (w.begin i).finish i = _
  rw [begin_finish free, hload]

theorem becomes_load_error (free : (w.sessions i).building = none)
    (hload : View.load w.shared = (.error f, shared)) : w.Becomes { w with shared := shared } := by
  refine ⟨[.begin i, .finish i], ?_⟩
  show (w.begin i).finish i = _
  rw [begin_finish free, hload]

theorem becomes_note (w : Sharing) (clock : Clock) (journal : Journal) :
    w.Becomes { w with shared := { w.shared with clock := clock, journal := journal } } :=
  w.becomes_step (.note clock journal)

theorem becomes_renew (free : (w.sessions i).building = none)
    (hrenew : v.renew w.shared = (.ok v', shared)) :
    w.Becomes (w.put i ⟨some v', none⟩ shared) := by
  unfold View.renew at hrenew
  split at hrenew
  · cases hrenew
  · next hload =>
    cases hrenew
    exact (becomes_load free hload).trans (becomes_note ..)

theorem becomes_renew_error (free : (w.sessions i).building = none)
    (hrenew : v.renew w.shared = (.error f, shared)) : w.Becomes { w with shared := shared } := by
  unfold View.renew at hrenew
  split at hrenew
  · next hload =>
    cases hrenew
    exact becomes_load_error free hload
  · cases hrenew

theorem becomes_add (hi : w.sessions i = ⟨some v, none⟩)
    (hadd : v.add d w.shared = (.ok (seq, v'), shared)) :
    w.Becomes (w.put i ⟨some v', none⟩ shared) := by
  refine ⟨[.add i d], ?_⟩
  show (w.add i d).2 = _
  simp only [add, hi, hadd]

theorem becomes_add_error (hi : w.sessions i = ⟨some v, none⟩)
    (hadd : v.add d w.shared = (.error f, shared)) : w.Becomes { w with shared := shared } := by
  refine ⟨[.add i d], ?_⟩
  show (w.add i d).2 = _
  simp only [add, hi, hadd]

/-! ### Sessions with views -/

/-- Open sessions, none of which is building a view. -/
def ofViews (shared : Shared) (views : List View) : Sharing := ⟨shared, fun i => ⟨views[i]?, none⟩⟩

variable {views : List View}

theorem ofViews_set (hi : views[i]? = some v) (v' : View) (shared shared' : Shared) :
    ofViews shared' (views.set i v') = (ofViews shared views).put i ⟨some v', none⟩ shared' := by
  have hlt : i < views.length := (List.getElem?_eq_some_iff.mp hi).1
  refine congrArg (Sharing.mk shared') (funext fun j => ?_)
  rw [Function.update_apply]
  by_cases hij : j = i
  · rw [if_pos hij, hij, List.getElem?_set_self hlt]
  · rw [if_neg hij, List.getElem?_set_ne (Ne.symm hij)]
    rfl

theorem set_view_self (hi : views[i]? = some v) : views.set i v = views := by
  obtain ⟨hlt, rfl⟩ := List.getElem?_eq_some_iff.mp hi
  exact List.set_getElem_self hlt

theorem ofViews_set_self (hi : views[i]? = some v) (shared : Shared) :
    ofViews shared (views.set i v) = ofViews shared views := by
  rw [set_view_self hi]

theorem ofViews_append (v : View) (shared shared' : Shared) :
    ofViews shared' (views ++ [v]) =
      (ofViews shared views).put views.length ⟨some v, none⟩ shared' := by
  refine congrArg (Sharing.mk shared') (funext fun j => ?_)
  rw [Function.update_apply]
  by_cases hij : j = views.length
  · rw [if_pos hij, hij, List.getElem?_append_right (Nat.le_refl _), Nat.sub_self]
    rfl
  · rw [if_neg hij]
    by_cases hlt : j < views.length
    · rw [List.getElem?_append_left hlt]
      rfl
    · have hge : views.length + 1 ≤ j := by omega
      rw [List.getElem?_eq_none (by simpa using hge)]
      show _ = (⟨views[j]?, none⟩ : Session)
      rw [List.getElem?_eq_none (by omega)]

end Sharing

end Promptline.History

namespace Promptline.Console

open Promptline.History

/-- Dot-commands other than `.sync` leave the view and the store alone. -/
theorem DotCommand.run_bench (b : Bench) {c : DotCommand} (hc : c ≠ .sync) :
    (c.run b).bench.view = b.view ∧ (c.run b).bench.shared = b.shared := by
  cases c with
  | sync => exact absurd rfl hc
  | help topic =>
    cases hhelp : topicHelp topic <;> simp only [DotCommand.run, hhelp, and_self]
  | prompt arguments => simp only [DotCommand.run, and_self]
  | overview | quit | history | unknown => exact ⟨rfl, rfl⟩

theorem sync_bench (b : Bench) :
    ((sync b).bench.view, (sync b).bench.shared) =
      match b.view.renew b.shared with
      | (.error _, shared) => (b.view, shared)
      | (.ok v, shared) => (v, shared) := by
  unfold sync
  cases b.view.renew b.shared with
  | mk result shared =>
    cases result with
    | ok v => rfl
    | error f => cases f <;> rfl

end Promptline.Console

namespace Promptline.Workspace

open Promptline.Store Promptline.History Promptline.History.Sharing

/-- The sessions of a workspace. -/
def sharing (w : Workspace) : Sharing := .ofViews w.shared w.views

/-- What other programs do to the database: they take locks, give them back and delete records. -/
def Operation.IsOrdinary : Operation → Prop
  | .database change =>
    (∃ lock, change = (·.takeLock lock)) ∨ change = (.ok ·.releaseLock) ∨
      ∃ seq, change = (·.delete seq)
  | _ => True

variable {w : Workspace}

theorem becomes_openSession (s : String) : w.sharing.Becomes (w.openSession s).2.sharing := by
  have attached : w.sharing.Becomes (.ofViews w.shared.attach.2 w.views) :=
    w.sharing.becomes_step .attach
  unfold openSession View.openOn
  cases hattach : w.shared.attach with
  | mk result shared =>
    rw [hattach] at attached
    cases result with
    | error f => exact attached
    | ok =>
      have free : ((ofViews shared w.views).sessions w.views.length).building = none := rfl
      cases hload : View.load shared with
      | mk result shared' =>
        cases result with
        | error f =>
          simp only [hload]
          exact attached.trans (becomes_load_error free hload)
        | ok v =>
          simp only [hload]
          have loaded := becomes_load free hload
          rw [← ofViews_append] at loaded
          exact attached.trans loaded

/-- An operation on a session leads on if it does so for every open session. -/
theorem becomes_onSession {s : String} {f : Nat → View → Result × Workspace}
    (hf : ∀ i v, w.views[i]? = some v → w.sharing.Becomes (f i v).2.sharing) :
    w.sharing.Becomes (w.onSession s f).2.sharing := by
  unfold onSession
  split
  · exact .refl _
  · split
    · exact .refl _
    · next v hv => exact hf _ v hv

theorem becomes_onLines {h : String} {f : Attached → View → Result × Workspace}
    (hf : ∀ a v, w.views[a.session]? = some v → w.sharing.Becomes (f a v).2.sharing) :
    w.sharing.Becomes (w.onLines h f).2.sharing := by
  unfold onLines
  split
  · exact .refl _
  · split
    · exact .refl _
    · next v hv => exact hf _ v hv

theorem becomes_onCursor (c : String) (f : Cursor → Except CursorFault Record × Cursor) :
    w.sharing.Becomes (w.onCursor c f).2.sharing := by
  unfold onCursor
  split
  · exact .refl _
  · split <;> exact .refl _

variable {i : Nat} {v : View} (hv : w.views[i]? = some v)
include hv

theorem sessions_sharing : w.sharing.sessions i = ⟨some v, none⟩ := by
  show (⟨w.views[i]?, none⟩ : Session) = _
  rw [hv]

theorem becomes_addTo (d : Draft) : w.sharing.Becomes (w.addTo d i v).2.sharing := by
  unfold addTo
  split
  · next hadd => exact becomes_add_error (sessions_sharing hv) hadd
  · next hadd =>
    have added := becomes_add (sessions_sharing hv) hadd
    rwa [sharing, ← ofViews_set hv] at added

theorem becomes_forward : w.sharing.Becomes (w.forward i v).2.sharing := by
  have free : (w.sharing.sessions i).building = none := rfl
  unfold forward
  split
  · next hrenew => exact becomes_renew_error free hrenew
  · next hrenew =>
    have renewed := becomes_renew free hrenew
    rwa [sharing, ← ofViews_set hv] at renewed

theorem becomes_run (c : Console.DotCommand) (settings : Console.Settings) :
    let bench := (c.run ⟨v, settings, w.shared⟩).bench
    w.sharing.Becomes (.ofViews bench.shared (w.views.set i bench.view)) := by
  intro bench
  by_cases hc : c = .sync
  · have synced := Console.sync_bench ⟨v, settings, w.shared⟩
    have hbench : bench = (Console.sync ⟨v, settings, w.shared⟩).bench := by
      simp only [bench, hc, Console.DotCommand.run]
    rw [← hbench] at synced
    cases hrenew : v.renew w.shared with
    | mk result shared =>
      have free : (w.sharing.sessions i).building = none := rfl
      simp only [hrenew] at synced
      cases result with
      | error f =>
        obtain ⟨hview, hshared⟩ := Prod.mk.inj synced
        rw [hview, hshared, ofViews_set_self hv]
        exact becomes_renew_error free hrenew
      | ok v' =>
        obtain ⟨hview, hshared⟩ := Prod.mk.inj synced
        rw [hview, hshared, ofViews_set hv]
        exact becomes_renew free hrenew
  · obtain ⟨hview, hshared⟩ := Console.DotCommand.run_bench ⟨v, settings, w.shared⟩ hc
    rw [hview, hshared, ofViews_set_self hv]
    exact .refl _

theorem becomes_command (line : String) : w.sharing.Becomes (w.command line i v).2.sharing := by
  unfold command Console.answer sharing
  -- What the line says does not matter, and unfolding how it is read takes long.
  generalize Console.DotCommand.read line = c
  exact becomes_run hv c w.settings

/-- A line that is stored gets its time from the clock, and an error is logged. -/
theorem becomes_store (lines : LineHistory) (text directory : String) :
    let desk := (LineHistory.store ⟨lines, v, w.shared⟩ text directory).2
    w.sharing.Becomes (.ofViews desk.shared (w.views.set i desk.view)) := by
  intro desk
  have ticked := w.sharing.becomes_note w.shared.clock.tick w.shared.journal
  refine ticked.trans ?_
  have hi : (ofViews { w.shared with clock := w.shared.clock.tick } w.views).sessions i =
      ⟨some v, none⟩ := sessions_sharing hv
  show (ofViews _ w.views).Becomes (ofViews (LineHistory.store _ text directory).2.shared
    (w.views.set i (LineHistory.store _ text directory).2.view))
  unfold LineHistory.store
  simp only
  cases hadd : v.add ⟨text, w.shared.clock.now, directory⟩
      { w.shared with clock := w.shared.clock.tick } with
  | mk result shared =>
    cases result with
    | ok p =>
      have added := becomes_add hi hadd
      rw [← ofViews_set hv] at added
      exact added
    | error f =>
      have failed := becomes_add_error hi hadd
      cases f with
      | store e =>
        simp only [ofViews_set_self hv]
        exact failed.trans (becomes_note ..)
      | _ =>
        simp only [ofViews_set_self hv]
        exact failed

omit hv

theorem becomes_write (h : String) {text : String} {a : Attached}
    {f : LineHistory.Desk → String → String → Except Failure Unit × LineHistory.Desk}
    (hf : ∀ directory, let desk := (f ⟨a.lines, v, w.shared⟩ text directory).2
      w.sharing.Becomes (.ofViews desk.shared (w.views.set a.session desk.view))) :
    w.sharing.Becomes (w.write h f text a v).2.sharing := by
  have written := hf (w.directory.getD "")
  unfold write
  cases hout : f ⟨a.lines, v, w.shared⟩ text (w.directory.getD "") with
  | mk result desk =>
    rw [hout] at written
    cases result <;> exact written

/-- A call of the other writer leads on if it does so once the writer has prepared the store. -/
theorem becomes_asOther {f : Shared → Result × Shared}
    (hf : ∀ shared, (ofViews shared w.views).Becomes (.ofViews (f shared).2 w.views)) :
    w.sharing.Becomes (w.asOther f).2.sharing := by
  have attached : w.sharing.Becomes (.ofViews w.shared.attach.2 w.views) :=
    w.sharing.becomes_step .attach
  unfold asOther
  by_cases ready : w.writerReady = true
  · simp only [ready, if_true]
    exact hf w.shared
  · simp only [ready, Bool.false_eq_true, if_false]
    cases hattach : w.shared.attach with
    | mk result shared =>
      rw [hattach] at attached
      cases result with
      | error e => exact attached
      | ok => exact attached.trans (hf shared)

theorem ofCall_snd (p : Except Failure Int × Shared) : (ofCall p).2 = p.2 := by
  obtain ⟨_ | _, s⟩ := p <;> rfl

theorem sharing_database (change : Database → Except Failure Database) :
    (w.perform (.database change)).2.sharing = w.sharing.change change := by
  have hshared : w.sharing.shared = w.shared := rfl
  simp only [perform, Sharing.change, hshared]
  cases w.shared.backend.onDatabase change <;> rfl

/-- Every operation is a row of acts. -/
theorem becomes_perform (op : Operation) (ordinary : op.IsOrdinary) :
    w.sharing.Becomes (w.perform op).2.sharing := by
  cases op with
  | openSession s => exact becomes_openSession s
  | add s d => exact becomes_onSession fun _ _ hv => becomes_addTo hv d
  | renew s => exact becomes_onSession fun _ _ hv => becomes_forward hv
  | command s line => exact becomes_onSession fun _ _ hv => becomes_command hv line
  | all | makeCursor | attachLines => exact becomes_onSession fun _ _ _ => .refl _
  | older c => exact becomes_onCursor c _
  | newer c => exact becomes_onCursor c _
  | get c => exact becomes_onCursor c _
  | length c =>
    simp only [perform]
    split <;> exact .refl _
  | newestFirst | loadLines | oldestFirst | takeError => exact becomes_onLines fun _ _ _ => .refl _
  | appendLine h text =>
    exact becomes_onLines fun a _ hv => becomes_write h fun directory =>
      becomes_store hv { a.lines with lines := text :: a.lines.lines } text directory
  | storeLine h text =>
    exact becomes_onLines fun a _ hv => becomes_write h fun directory =>
      becomes_store hv a.lines text directory
  | enter directory => exact .refl _
  | otherAdd d =>
    refine becomes_asOther fun shared => ?_
    rw [ofCall_snd]
    exact becomes_step _ (.receive d)
  | otherNext =>
    refine becomes_asOther fun shared => ?_
    rw [ofCall_snd]
    exact becomes_step _ .peek
  | otherRange first upto =>
    refine becomes_asOther fun shared => ?_
    split <;> exact .refl _
  | fail calls => exact becomes_step _ (.fail calls)
  | arrive ds => exact becomes_step _ (.arrive ds)
  | database change =>
    rw [sharing_database]
    obtain ⟨lock, rfl⟩ | rfl | ⟨seq, rfl⟩ := ordinary
    · exact becomes_step _ (.lock lock)
    · exact becomes_step _ .unlock
    · exact becomes_step _ (.delete seq)

/-- The workspace after operations in order. -/
def performAll (w : Workspace) (ops : List Operation) : Workspace :=
  ops.foldl (fun w op => (w.perform op).2) w

theorem becomes_performAll (w : Workspace) {ops : List Operation}
    (ordinary : ∀ op ∈ ops, op.IsOrdinary) : w.sharing.Becomes (w.performAll ops).sharing := by
  induction ops generalizing w with
  | nil => exact .refl _
  | cons op ops ih =>
    have first := w.becomes_perform op (ordinary op List.mem_cons_self)
    exact first.trans (ih _ fun op hop => ordinary op (List.mem_cons_of_mem _ hop))

/-- What a new workspace over an orderly store comes to is in order, as every view in it is. -/
theorem ordered_performAll {shared : Shared} (h : shared.backend.Orderly) {ops : List Operation}
    (ordinary : ∀ op ∈ ops, op.IsOrdinary) :
    (({ shared } : Workspace).performAll ops).sharing.Ordered := by
  obtain ⟨acts, hacts⟩ := ({ shared } : Workspace).becomes_performAll ordinary
  rw [← hacts]
  exact (ordered_start h).run acts

theorem ascending_views {shared : Shared} (h : shared.backend.Orderly) {ops : List Operation}
    (ordinary : ∀ op ∈ ops, op.IsOrdinary) :
    ∀ v ∈ (({ shared } : Workspace).performAll ops).views, Ascending v.all := by
  intro v hv
  obtain ⟨i, hi⟩ := List.mem_iff_getElem?.mp hv
  exact ((ordered_performAll h ordinary).sessions i).ascending v hi

end Promptline.Workspace
