import Promptline.Proofs.History.Operations
import Promptline.Proofs.History.Snapshot
import Promptline.Proofs.Store.Event

/-! An operation that fails does no harm.  Views are replaced when a new one has been read to the end,
a command comes into a view once it is in the store, and the store is written to in one go.  So after
a failure all is as it was, but for what other writers have added, and a line that could not be stored
is reported when somebody asks. -/

namespace Promptline.Store

/-- What a failed operation leaves of a store: it is the same, or has been prepared and is intact, and
another writer may have added to it in the meantime. -/
def Shared.Spared (s s' : Shared) : Prop :=
  ∃ b, (b = s.backend ∨ s.backend.attach = .ok b ∧ s.backend.Intact b) ∧
    (s'.backend = b ∨ s'.backend = s.arriving.foldl receive b)

theorem Shared.spared_of_same {s s' : Shared} (same : s'.backend = s.backend) : s.Spared s' :=
  ⟨s.backend, .inl rfl, .inl same⟩

end Promptline.Store

namespace Promptline.History

open Promptline.Store

variable {s s' : Shared} {v : View} {d : Draft} {f : Failure} {e : StoreError}

namespace View

theorem load_eq_error (hload : load s = (.error f, s')) :
    s'.backend = s.backend ∨ s'.backend = s.arriving.foldl Shared.receive s.backend := by
  unfold load at hload
  split at hload
  · next hnext =>
    cases hload
    rw [Shared.next_eq_error hnext]
    exact .inl rfl
  · next hnext =>
    rw [collect_eq_error hload]
    exact .inr (Shared.backend_of_next hnext)

theorem spared_renew (hrenew : v.renew s = (.error f, s')) : s.Spared s' := by
  unfold renew at hrenew
  split at hrenew
  · next hload =>
    cases hrenew
    exact ⟨s.backend, .inl rfl, load_eq_error hload⟩
  · cases hrenew

theorem spared_openOn (settled : s.backend.IsSettled) (hopen : openOn s = (.error f, s')) :
    s.Spared s' := by
  unfold openOn at hopen
  split at hopen
  · next hattach =>
    cases hopen
    exact Shared.spared_of_same (congrArg _ (Shared.attach_eq_error hattach))
  · next attached hattach =>
    obtain ⟨hb, harriving⟩ := Shared.attach_eq_ok hattach
    have hload := load_eq_error hopen
    rw [harriving] at hload
    exact ⟨attached.backend, .inr ⟨hb, Backend.intact_attach settled hb⟩, hload⟩

theorem add_eq_error (hadd : v.add d s = (.error f, s')) : s'.backend = s.backend := by
  unfold add at hadd
  split at hadd
  · next hadd' =>
    cases hadd
    exact Shared.add_eq_error hadd'
  · cases hadd

end View

namespace LineHistory

/-- What keeps a line from being stored, if it is not kept for later, is no error of the store. -/
theorem store_eq_error {desk desk' : Desk} {text directory : String}
    (hstore : store desk text directory = (.error f, desk')) :
    desk'.view = desk.view ∧ desk'.shared.backend = desk.shared.backend ∧ ∀ e, f ≠ .store e := by
  unfold store at hstore
  simp only at hstore
  split at hstore
  · cases hstore
  · cases hstore
  · next other hadd =>
    cases hstore
    have same := View.add_eq_error hadd
    exact ⟨rfl, same, other⟩

/-- An error of the store is kept for later. -/
theorem store_unreported (desk : Desk) {text directory : String}
    (hadd : (desk.view.add ⟨text, desk.shared.clock.now, directory⟩
      { desk.shared with clock := desk.shared.clock.tick }).1 = .error (.store e)) :
    ∃ shared, store desk text directory =
        (.ok (), ⟨{ desk.lines with unreported := some e }, desk.view, shared⟩) ∧
      shared.backend = desk.shared.backend := by
  simp only [store]
  cases hout : desk.view.add ⟨text, desk.shared.clock.now, directory⟩
      { desk.shared with clock := desk.shared.clock.tick } with
  | mk result shared =>
    rw [hout] at hadd
    obtain rfl : result = .error (.store e) := hadd
    have same := View.add_eq_error hout
    exact ⟨_, rfl, same⟩

end LineHistory

namespace Sharing

theorem comes_change (w : Sharing) (x : Interference) :
    w.shared.backend.Comes (w.change x.change).shared.backend := by
  unfold change
  split
  · exact .refl _
  · next hx => exact Backend.comes_of_outcome (e := .interfere x) hx

theorem comes_step (w : Sharing) (act : Act) :
    w.shared.backend.Comes (w.step act).shared.backend := by
  cases act with
  | attach => exact w.shared.comes_attach
  | begin i =>
    obtain same | next := begin_shared w i
    · rw [step, same]
      exact .refl _
    · rw [step, next]
      exact w.shared.comes_next
  | finish i =>
    rw [step, finish_backend]
    exact .refl _
  | add i d =>
    obtain same | added := add_shared w i d
    · rw [step, same]
      exact .refl _
    · rw [step, added]
      exact w.shared.comes_add d
  | receive d => exact w.shared.comes_add d
  | peek => exact w.shared.comes_next
  | fail | arrive | note => exact .refl _
  | lock lock => exact w.comes_change (.lock lock)
  | unlock => exact w.comes_change .unlock
  | delete seq => exact w.comes_change (.delete seq)

theorem Becomes.comes {w w' : Sharing} (becomes : w.Becomes w') :
    w.shared.backend.Comes w'.shared.backend := by
  obtain ⟨acts, rfl⟩ := becomes
  induction acts generalizing w with
  | nil => exact .refl _
  | cons act acts ih => exact (w.comes_step act).trans ih

/-! ### A view that cannot be built -/

variable {w : Sharing} {i : Nat} {upto : Int} {during : List Act}

theorem begin_of_fails (fails : ((w.begin i).sessions i).building = none) : w.begin i = w := by
  unfold begin at fails ⊢
  split
  · rfl
  · next free =>
    rw [if_neg free] at fails
    cases hnext : w.shared.next with
    | mk result shared =>
      cases result with
      | error f => rw [Shared.next_eq_error hnext]
      | ok upto =>
        rw [hnext, sessions_put, if_pos rfl] at fails
        cases fails

theorem view_begin (w : Sharing) (i : Nat) :
    ((w.begin i).sessions i).view = (w.sessions i).view := by
  unfold begin
  split
  · rfl
  · split
    · rfl
    · rw [sessions_put, if_pos rfl]

theorem finish_of_fails (hi : (w.sessions i).building = some upto) (fails : w.canFinish i = false) :
    w.finish i = w.put i ⟨(w.sessions i).view, none⟩ w.shared := by
  rw [canFinish, hi, Option.any_some] at fails
  cases hv : View.collect w.shared upto with
  | mk result shared =>
    cases result with
    | error f =>
      obtain rfl := View.collect_eq_error hv
      simp only [finish, hi, hv]
    | ok v =>
      rw [hv] at fails
      cases fails

/-- The session is left with the view that it had, and all else is as others have left it. -/
theorem rebuild_of_fails (begun : ((w.begin i).sessions i).building = some upto)
    (unread : .finish i ∉ during) (fails : ((w.begin i).run during).canFinish i = false) :
    w.run (rebuild i during) = ((w.begin i).run during).put i ⟨(w.sessions i).view, none⟩
      ((w.begin i).run during).shared := by
  rw [run_rebuild, finish_of_fails (building_run begun unread) fails, session_run begun unread,
    view_begin]

end Sharing

end Promptline.History

namespace Promptline.Workspace

open Promptline.Store Promptline.History

/-- What is done to the database is what other programs can do. -/
def Operation.IsGenuine : Operation → Prop
  | .database change => ∃ x : Interference, change = x.change
  | _ => True

/-- What a failed operation leaves of a workspace: every view, every name and every cursor, and a
store that has been spared. -/
structure Unharmed (w w' : Workspace) : Prop where
  views : w'.views = w.views
  sessions : w'.sessions = w.sessions
  cursors : w'.cursors = w.cursors
  shared : w.shared.Spared w'.shared

/-- If an operation gives a failure it does no harm. -/
def Harmless (w : Workspace) (out : Result × Workspace) : Prop :=
  ∀ f, out.1 = .failed f → w.Unharmed out.2

variable {w : Workspace} {op : Operation}

/-! ### What the operations of a workspace do to its store -/

theorem comes_perform (w : Workspace) (genuine : op.IsGenuine) :
    w.shared.backend.Comes (w.perform op).2.shared.backend := by
  by_cases ordinary : op.IsOrdinary
  · exact (w.becomes_perform op ordinary).comes
  · cases op with
    | database change =>
      obtain ⟨x, rfl⟩ := genuine
      have comes := w.sharing.comes_change x
      rwa [← sharing_database] at comes
    | _ => exact absurd trivial ordinary

theorem settled_performAll (settled : w.shared.backend.IsSettled) {ops : List Operation}
    (genuine : ∀ op ∈ ops, op.IsGenuine) : (w.performAll ops).shared.backend.IsSettled := by
  induction ops generalizing w with
  | nil => exact settled
  | cons op ops ih =>
    obtain ⟨hop, hops⟩ := List.forall_mem_cons.mp genuine
    exact ih ((w.comes_perform hop).settled settled) hops

/-! ### Failures -/

theorem unharmed_of_spared {shared : Shared} (spared : w.shared.Spared shared) :
    w.Unharmed { w with shared := shared } :=
  ⟨rfl, rfl, rfl, spared⟩

theorem harmless_answer {r : Result} (answers : ∀ f, r ≠ .failed f) (w' : Workspace) :
    w.Harmless (r, w') :=
  fun f hf => absurd hf (answers f)

theorem harmless_missing (m : Missing) : w.Harmless (w.answer (.missing m)) :=
  harmless_answer (fun _ => Result.noConfusion) w

theorem harmless_openSession (settled : w.shared.backend.IsSettled) (s : String) :
    w.Harmless (w.openSession s) := by
  unfold openSession
  split
  · next hopen =>
    intro f hf
    exact unharmed_of_spared (View.spared_openOn settled hopen)
  · exact harmless_answer (fun _ => Result.noConfusion) _

theorem onSession_cases (s : String) (f : Nat → View → Result × Workspace) :
    w.onSession s f = w.answer (.missing .session) ∨ ∃ i v, w.onSession s f = f i v := by
  unfold onSession
  split
  · exact .inl rfl
  · split
    · exact .inl rfl
    · exact .inr ⟨_, _, rfl⟩

theorem harmless_onSession {s : String} {f : Nat → View → Result × Workspace}
    (hf : ∀ i v, w.Harmless (f i v)) : w.Harmless (w.onSession s f) := by
  obtain missing | ⟨i, v, found⟩ := w.onSession_cases s f
  · rw [missing]
    exact harmless_missing .session
  · rw [found]
    exact hf i v

theorem harmless_onCursor (c : String) (f : Cursor → Except CursorFault Record × Cursor) :
    w.Harmless (w.onCursor c f) := by
  unfold onCursor
  split
  · exact harmless_missing .cursor
  · split <;> exact harmless_answer (fun _ => Result.noConfusion) _

theorem harmless_onLines {h : String} {f : Attached → View → Result × Workspace}
    (hf : ∀ a v, w.views[a.session]? = some v → w.Harmless (f a v)) :
    w.Harmless (w.onLines h f) := by
  unfold onLines
  split
  · exact harmless_missing .lineHistory
  · split
    · exact harmless_missing .lineHistory
    · next hv => exact hf _ _ hv

theorem harmless_addTo (d : Draft) (i : Nat) (v : View) : w.Harmless (w.addTo d i v) := by
  unfold addTo
  split
  · next hadd =>
    intro f hf
    exact unharmed_of_spared (Shared.spared_of_same (View.add_eq_error hadd))
  · exact harmless_answer (fun _ => Result.noConfusion) _

theorem harmless_forward (i : Nat) (v : View) : w.Harmless (w.forward i v) := by
  unfold forward
  split
  · next hrenew =>
    intro f hf
    exact unharmed_of_spared (View.spared_renew hrenew)
  · exact harmless_answer (fun _ => Result.noConfusion) _

/-- A line history writes the view back as it was. -/
theorem harmless_write {h text : String} {a : Attached} {v : View}
    {f : LineHistory.Desk → String → String → Except Failure Unit × LineHistory.Desk}
    (hv : w.views[a.session]? = some v)
    (hf : ∀ directory fault desk, f ⟨a.lines, v, w.shared⟩ text directory = (.error fault, desk) →
      desk.view = v ∧ desk.shared.backend = w.shared.backend) :
    w.Harmless (w.write h f text a v) := by
  unfold write
  cases hout : f ⟨a.lines, v, w.shared⟩ text (w.directory.getD "") with
  | mk result desk =>
    cases result with
    | error fault =>
      obtain ⟨hview, same⟩ := hf _ fault desk hout
      intro _ _
      refine ⟨?_, rfl, rfl, Shared.spared_of_same same⟩
      show w.views.set a.session desk.view = w.views
      rw [hview, Sharing.set_view_self hv]
    | ok => exact harmless_answer (fun _ => Result.noConfusion) _

/-- The other writer has prepared the store at most. -/
theorem harmless_asOther (settled : w.shared.backend.IsSettled) {f : Shared → Result × Shared}
    (hf : ∀ s fault, (f s).1 = .failed fault → (f s).2.backend = s.backend) :
    w.Harmless (w.asOther f) := by
  unfold asOther
  by_cases ready : w.writerReady = true
  · simp only [ready, if_true]
    intro fault hfault
    exact ⟨rfl, rfl, rfl, Shared.spared_of_same (hf w.shared fault hfault)⟩
  · simp only [ready, Bool.false_eq_true, if_false]
    cases hattach : w.shared.attach with
    | mk result s =>
      cases result with
      | error fault =>
        have same := congrArg Shared.backend (Shared.attach_eq_error hattach)
        exact fun _ _ => ⟨rfl, rfl, rfl, Shared.spared_of_same same⟩
      | ok =>
        intro fault hfault
        obtain ⟨hb, -⟩ := Shared.attach_eq_ok hattach
        exact ⟨rfl, rfl, rfl, s.backend, .inr ⟨hb, Backend.intact_attach settled hb⟩,
          .inl (hf s fault hfault)⟩

theorem backend_of_ofCall {s : Shared} {p : Except Failure Int × Shared}
    (hp : ∀ f s', p = (.error f, s') → s'.backend = s.backend) (f : Failure)
    (hf : (ofCall p).1 = .failed f) : (ofCall p).2.backend = s.backend := by
  obtain ⟨result, s'⟩ := p
  cases result with
  | error e => exact hp e s' rfl
  | ok n => cases hf

/-- Whatever an operation is about. -/
theorem harmless_perform (settled : w.shared.backend.IsSettled) (op : Operation) :
    w.Harmless (w.perform op) := by
  cases op with
  | openSession s => exact harmless_openSession settled s
  | add s d => exact harmless_onSession fun i v => harmless_addTo d i v
  | renew s => exact harmless_onSession fun i v => harmless_forward i v
  | all | makeCursor | attachLines | command =>
    exact harmless_onSession fun _ _ => harmless_answer (fun _ => Result.noConfusion) _
  | older c => exact harmless_onCursor c _
  | newer c => exact harmless_onCursor c _
  | get c => exact harmless_onCursor c _
  | length c =>
    simp only [perform]
    split <;> exact harmless_answer (fun _ => Result.noConfusion) _
  | newestFirst | loadLines | oldestFirst =>
    exact harmless_onLines fun _ _ _ => harmless_answer (fun _ => Result.noConfusion) _
  | takeError h =>
    refine harmless_onLines fun a _ _ => harmless_answer (fun f => ?_) _
    split <;> exact Result.noConfusion
  | appendLine h text =>
    refine harmless_onLines fun a v hv => harmless_write hv fun directory fault desk hstore => ?_
    obtain ⟨hview, same, -⟩ := LineHistory.store_eq_error hstore
    exact ⟨hview, same⟩
  | storeLine h text =>
    refine harmless_onLines fun a v hv => harmless_write hv fun directory fault desk hstore => ?_
    obtain ⟨hview, same, -⟩ := LineHistory.store_eq_error hstore
    exact ⟨hview, same⟩
  | otherAdd d =>
    exact harmless_asOther settled fun s =>
      backend_of_ofCall fun _ _ hadd => Shared.add_eq_error hadd
  | otherNext =>
    exact harmless_asOther settled fun s =>
      backend_of_ofCall fun _ _ hnext => congrArg _ (Shared.next_eq_error hnext)
  | otherRange first upto =>
    refine harmless_asOther settled fun s f hf => ?_
    split <;> rfl
  | enter | fail | arrive => exact harmless_answer (fun _ => Result.noConfusion) _
  | database change =>
    simp only [perform]
    split <;> exact harmless_answer (fun _ => Result.noConfusion) _

/-- What has not been added to the store has not touched it. -/
theorem backend_of_add {s : String} {d : Draft} {f : Failure}
    (hf : (w.perform (.add s d)).1 = .failed f) :
    (w.perform (.add s d)).2.shared.backend = w.shared.backend := by
  have hperform : w.perform (.add s d) = w.onSession s (w.addTo d) := rfl
  rw [hperform] at hf ⊢
  obtain missing | ⟨i, v, added⟩ := w.onSession_cases s (w.addTo d)
  · rw [missing] at hf
    cases hf
  · rw [added] at hf ⊢
    unfold addTo at hf ⊢
    split at hf
    · next hadd => exact View.add_eq_error hadd
    · cases hf

section storeLine

variable {h text : String} {a : Attached} {v : View} (ha : w.lineHistories.lookup h = some a)
  (hv : w.views[a.session]? = some v)
include ha hv

theorem onLines_eq (f : Attached → View → Result × Workspace) : w.onLines h f = f a v := by
  simp only [onLines, ha, hv]

theorem takeError_eq {e : StoreError} (he : a.lines.unreported = some e) :
    (w.perform (.takeError h)).1 = .pending e := by
  rw [perform, onLines_eq ha hv, LineHistory.takeError, he]

theorem storeLine_ne_failed (e : StoreError) :
    (w.perform (.storeLine h text)).1 ≠ .failed (.store e) := by
  rw [perform, onLines_eq ha hv, write]
  cases hout : LineHistory.store ⟨a.lines, v, w.shared⟩ text (w.directory.getD "") with
  | mk result desk =>
    cases result with
    | ok => exact Result.noConfusion
    | error f =>
      intro hf
      exact (LineHistory.store_eq_error hout).2.2 e (Result.failed.inj hf)

/-- A line that the store does not take is reported when somebody asks, and nothing else has
happened. -/
theorem storeLine_unreported {e : StoreError}
    (hadd : (v.add ⟨text, w.shared.clock.now, w.directory.getD ""⟩
      { w.shared with clock := w.shared.clock.tick }).1 = .error (.store e)) :
    let w' := (w.perform (.storeLine h text)).2
    (w.perform (.storeLine h text)).1 = .nothing ∧ w.Unharmed w' ∧
      w'.shared.backend = w.shared.backend ∧ (w'.perform (.takeError h)).1 = .pending e := by
  obtain ⟨shared, hstore, same⟩ := LineHistory.store_unreported ⟨a.lines, v, w.shared⟩ hadd
  let kept : Attached := { a with lines := { a.lines with unreported := some e } }
  let w' : Workspace := { w with shared := shared, lineHistories := (h, kept) :: w.lineHistories }
  have stored : w.perform (.storeLine h text) = (.nothing, w') := by
    rw [perform, onLines_eq ha hv, write, hstore]
    simp only [Sharing.set_view_self hv, w', kept]
  have hkept : w'.lineHistories.lookup h = some kept := List.lookup_cons_self
  have pending : (w'.perform (.takeError h)).1 = .pending e := takeError_eq hkept hv rfl
  rw [stored]
  exact ⟨rfl, ⟨rfl, rfl, rfl, Shared.spared_of_same same⟩, same, pending⟩

end storeLine

/-- However sessions over a store, other writers and other programs have taken turns: an operation
that fails leaves every view, name and cursor as it was, and a store that holds the same records and
gives the same number next, but for what another writer has added.  An addition that fails has not
touched the store at all.  A line that the store does not take is no failure, but the error is there
when somebody asks for it.  And whatever happens between the two reads of a session that builds its
view, if it fails to it is left with the view that it had, and all else as others have left it. -/
theorem failure_performAll {shared : Shared} (settled : shared.backend.IsSettled)
    {ops : List Operation} (genuine : ∀ op ∈ ops, op.IsGenuine) :
    let w := ({ shared } : Workspace).performAll ops
    (∀ op f, (w.perform op).1 = .failed f → w.Unharmed (w.perform op).2) ∧
    (∀ s d f, (w.perform (.add s d)).1 = .failed f →
      (w.perform (.add s d)).2.shared.backend = w.shared.backend) ∧
    (∀ h text a v, w.lineHistories.lookup h = some a → w.views[a.session]? = some v →
      (∀ e, (w.perform (.storeLine h text)).1 ≠ .failed (.store e)) ∧
      ∀ e, (v.add ⟨text, w.shared.clock.now, w.directory.getD ""⟩
          { w.shared with clock := w.shared.clock.tick }).1 = .error (.store e) →
        let w' := (w.perform (.storeLine h text)).2
        (w.perform (.storeLine h text)).1 = .nothing ∧ w.Unharmed w' ∧
          w'.shared.backend = w.shared.backend ∧ (w'.perform (.takeError h)).1 = .pending e) ∧
    ∀ i, (((w.sharing.begin i).sessions i).building = none → w.sharing.begin i = w.sharing) ∧
      ∀ upto during, ((w.sharing.begin i).sessions i).building = some upto →
        .finish i ∉ during → ((w.sharing.begin i).run during).canFinish i = false →
        w.sharing.run (Sharing.rebuild i during) =
          ((w.sharing.begin i).run during).put i ⟨w.views[i]?, none⟩
            ((w.sharing.begin i).run during).shared := by
  intro w
  have settled' : w.shared.backend.IsSettled := settled_performAll settled genuine
  refine ⟨fun op f hf => harmless_perform settled' op f hf, fun s d f hf => backend_of_add hf, ?_,
    fun i => ⟨fun fails => Sharing.begin_of_fails fails, ?_⟩⟩
  · intro h text a v ha hv
    exact ⟨fun e => storeLine_ne_failed ha hv e, fun e hadd => storeLine_unreported ha hv hadd⟩
  · intro upto during begun unread fails
    exact Sharing.rebuild_of_fails begun unread fails

/-- A database that has not been opened yet. -/
def unopened : Shared := { backend := .database (.at {} [] "hist.db"), clock := ⟨1000⟩ }

/-- Two sessions, one of which has a record and a cursor and the other one a line history.  Another
writer is about to add `pwd`, and records can be neither read nor written. -/
def disturbed : List Operation :=
  [.openSession "a", .openSession "b", .add "a" ⟨"make", .ofNat 7, "/src"⟩,
    .makeCursor "a" "c" "m", .attachLines "b" "h", .database (Interference.lock .shared).change,
    .database Interference.unlock.change, .arrive [⟨"pwd", .ofNat 8, ""⟩],
    .fail [(.range, "disk I/O error"), (.add, "disk full")]]

theorem failure_disturbed :
    let w := ({ shared := unopened } : Workspace).performAll disturbed
    unopened.backend.IsSettled ∧ (∀ op ∈ disturbed, op.IsGenuine) ∧
      (w.perform (.renew "a")).1 = .failed (.store (.reported "disk I/O error")) ∧
      w.Unharmed (w.perform (.renew "a")).2 ∧ (w.perform (.storeLine "h" "ls")).1 = .nothing ∧
      ((w.perform (.storeLine "h" "ls")).2.perform (.takeError "h")).1 =
        .pending (.reported "disk full") := by
  have settled : unopened.backend.IsSettled := Backend.settled_at {} [] "hist.db"
  have genuine : ∀ op ∈ disturbed, op.IsGenuine := by
    simp only [disturbed, List.forall_mem_cons]
    exact ⟨trivial, trivial, trivial, trivial, trivial, ⟨_, rfl⟩, ⟨_, rfl⟩, trivial, trivial,
      fun _ hop => (List.not_mem_nil hop).elim⟩
  obtain ⟨unharmed, -, stored, -⟩ := failure_performAll settled genuine
  have renewed : ((({ shared := unopened } : Workspace).performAll disturbed).perform
      (.renew "a")).1 = .failed (.store (.reported "disk I/O error")) := by rfl
  obtain ⟨-, kept⟩ := stored "h" "ls" ⟨1, {}⟩ ⟨[], []⟩ rfl rfl
  obtain ⟨nothing, -, -, pending⟩ := kept (.reported "disk full") rfl
  exact ⟨settled, genuine, renewed, unharmed _ _ renewed, nothing, pending⟩

end Promptline.Workspace
