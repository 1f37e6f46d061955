import Promptline.Proofs.Store.Mirror
import Promptline.Workspace

/-! A store in memory and a database are interchangeable.  Sessions that do the same over a new store
of each kind see the same, step by step: the same records in the same order, with each number in the
database larger by one.  Every operation keeps the one workspace a mirror of the other. -/

namespace Promptline.History

open Promptline.Store

/-! ### Views and cursors -/

/-- The cursor over the records under the next numbers. -/
def Cursor.raised (c : Cursor) : Cursor := { c with records := c.records.map Record.raised }

/-- The view with each record under the next number. -/
def View.raised (v : View) : View := ⟨v.snapshot.map Record.raised, v.own.map Record.raised⟩

namespace Cursor

theorem length_raised (c : Cursor) : c.raised.length = c.length := List.length_map _

theorem get_raised (c : Cursor) : c.raised.get = c.get.map Record.raised := by
  simp only [get, raised, List.getElem?_map]
  cases c.records[c.position]? <;> rfl

theorem older_raised (c : Cursor) :
    c.raised.older = (c.older.1.map Record.raised, c.older.2.raised) := by
  obtain ⟨lead, records, position⟩ := c
  cases position with
  | zero => rfl
  | succ p =>
    simp only [older, raised, List.getElem?_map]
    cases records[p]? <;> rfl

theorem newer_raised (c : Cursor) :
    c.raised.newer = (c.newer.1.map Record.raised, c.newer.2.raised) := by
  simp only [newer, raised, List.getElem?_map]
  cases c.records[c.position + 1]? <;> rfl

end Cursor

namespace View

theorem all_raised (v : View) : v.raised.all = v.all.map Record.raised :=
  (List.map_append ..).symm

/-- A cursor looks at texts only. -/
theorem cursor_raised (v : View) (lead : String) : v.raised.cursor lead = (v.cursor lead).raised := by
  have found : matching lead v.raised.all = (matching lead v.all).map Record.raised := by
    rw [all_raised, matching, List.filter_map]
    rfl
  simp only [cursor, Cursor.ofRecords, Cursor.raised, found, List.length_map]

variable {s t : Shared} {n : Nat}

theorem holds_of_le {k : Int} (hk : 0 ≤ k) (hle : k ≤ n)
    (room : Database.holds (n + 1) = true) : Database.holds (k + 1) = true := by
  simp only [Database.holds, Bool.and_eq_true, decide_eq_true_eq] at room ⊢
  omega

/-- There is a number for one more record if the one after it can be handed to a database. -/
theorem lt_of_holds (room : Database.holds ((n + 1 : Nat) + 1) = true) :
    (n : Int) < Database.maxSeq := by
  simp only [Database.holds, Bool.and_eq_true, decide_eq_true_eq] at room
  omega

theorem collect_of_range {upto : Int} {records : List Record} (h : s.range 0 upto = .ok records) :
    ∃ message, collect s upto = (.ok ⟨records, []⟩, s.log .view .debug message) := by
  refine ⟨s!"Loaded {records.length} history records (upto seq {upto})", ?_⟩
  simp only [collect, h]

theorem renew_of_load {v built : View} (h : load s = (.ok built, t)) :
    ∃ message, v.renew s = (.ok built, t.log .session .debug message) := by
  refine ⟨s!"History fast-forwarded to {built.all.length} commands", ?_⟩
  simp only [renew, h]

theorem collect_mirrors (h : t.Mirrors s n) {upto : Int}
    (room : Database.holds (upto + 1) = true) :
    ∃ v s' t', collect s upto = (.ok v, s') ∧ collect t (upto + 1) = (.ok v.raised, t') ∧
      t'.Mirrors s' n := by
  obtain ⟨records, hs, ht⟩ := h.range_zero room
  obtain ⟨message, hs'⟩ := collect_of_range hs
  obtain ⟨message', ht'⟩ := collect_of_range ht
  exact ⟨⟨records, []⟩, _, _, hs', ht', h.log ..⟩

theorem load_mirrors (h : t.Mirrors s n) (room : Database.holds (n + 1) = true) :
    ∃ v s' t', load s = (.ok v, s') ∧ load t = (.ok v.raised, t') ∧ t'.Mirrors s' n := by
  obtain ⟨k, hk, hle, hs, ht⟩ := h.next
  obtain ⟨v, s', t', hs', ht', mirrors⟩ := collect_mirrors h (holds_of_le hk hle room)
  refine ⟨v, s', t', ?_, ?_, mirrors⟩
  · simp only [load, hs, hs']
  · simp only [load, ht, ht']

theorem renew_mirrors (v : View) (h : t.Mirrors s n) (room : Database.holds (n + 1) = true) :
    ∃ v' s' t', v.renew s = (.ok v', s') ∧ v.raised.renew t = (.ok v'.raised, t') ∧
      t'.Mirrors s' n := by
  obtain ⟨v', s', t', hs, ht, mirrors⟩ := load_mirrors h room
  obtain ⟨message, hs'⟩ := renew_of_load (v := v) hs
  obtain ⟨message', ht'⟩ := renew_of_load (v := v.raised) ht
  exact ⟨v', _, _, hs', ht', mirrors.log ..⟩

theorem add_mirrors (v : View) (h : t.Mirrors s n) {d : Draft} (timed : d.IsTimed)
    (room : (n : Int) < Database.maxSeq) :
    ∃ seq v' s' t', v.add d s = (.ok (seq, v'), s') ∧
      v.raised.add d t = (.ok (seq + 1, v'.raised), t') ∧ t'.Mirrors s' (n + 1) := by
  obtain ⟨seq, s', t', hs, ht, mirrors⟩ := h.add timed room
  refine ⟨seq, { v with own := v.own ++ [d.numbered seq] }, s', t', ?_, ?_, mirrors⟩
  · simp only [add, hs]
  · simp only [add, ht, raised, List.map_append, List.map_cons, List.map_nil]
    rfl

end View

end Promptline.History

namespace Promptline.Workspace

open Promptline.Store Promptline.History

/-! ### Operations and their results -/

/-- What is compared: sessions are opened, add commands, look at their views, make cursors and move
them, and build their views anew, and another writer calls the store directly.  What is added has a
time, and the bounds of a range can be handed to a database. -/
def Operation.IsPlain : Operation → Prop
  | .add _ d | .otherAdd d => d.IsTimed
  | .otherRange first upto =>
    Database.holds (first + 1) = true ∧ Database.holds (upto + 1) = true
  | .openSession _ | .all _ | .makeCursor .. | .older _ | .newer _ | .get _ | .length _ | .renew _
  | .otherNext => True
  | _ => False

/-- The operation adds a record. -/
def Operation.adds : Operation → Bool
  | .add .. | .otherAdd _ => true
  | _ => false

/-- The operation over numbers that are larger by one: bounds of a range are, names are not. -/
def Operation.raised : Operation → Operation
  | .otherRange first upto => .otherRange (first + 1) (upto + 1)
  | op => op

/-- The number that the operation gives counts the matches of a new cursor. -/
def Operation.counts : Operation → Bool
  | .makeCursor .. => true
  | _ => false

/-- The result of an operation with all numbers of records larger by one. -/
def Operation.raise (op : Operation) : Result → Result
  | .number k => .number (if op.counts then k else k + 1)
  | .record r => .record r.raised
  | .records rs => .records (rs.map Record.raised)
  | r => r

/-- The results of operations in order. -/
def results (w : Workspace) : List Operation → List Result
  | [] => []
  | op :: ops => (w.perform op).1 :: (w.perform op).2.results ops

/-! ### Workspaces that mirror each other -/

/-- `w'` is over a database and mirrors `w`, whose store in memory has `n` records at most.  As long as
nobody has prepared the database, nobody can see that it has no table. -/
structure Mirrors (w' w : Workspace) (n : Nat) : Prop where
  stores : w'.shared.Mirrors w.shared n ∨
    w'.shared.AtOutset w.shared ∧ w.views = [] ∧ w.writerReady = false
  views : w'.views = w.views.map View.raised
  sessions : w'.sessions = w.sessions
  cursors : w'.cursors = w.cursors.map fun p => (p.1, p.2.raised)
  writerReady : w'.writerReady = w.writerReady

/-- `out'` and `out` are what `op` gives in workspaces that mirror each other.  It does not fail, the
results differ by the numbers of records, and afterwards the workspaces mirror each other again. -/
structure Alike (op : Operation) (n : Nat) (out' out : Result × Workspace) : Prop where
  result : out'.1 = op.raise out.1
  succeeds : ∀ f, out.1 ≠ .failed f
  mirrors : out'.2.Mirrors out.2 n

theorem lookup_map {α β : Type} (f : α → β) (values : Named α) (name : String) :
    (values.map fun p => (p.1, f p.2)).lookup name = (values.lookup name).map f := by
  induction values with
  | nil => rfl
  | cons p rest ih =>
    rw [List.map_cons, List.lookup_cons, List.lookup_cons, ih]
    split <;> rfl

variable {w w' : Workspace} {n n' : Nat} {op : Operation}

namespace Mirrors

variable (h : w'.Mirrors w n)
include h

theorem mono {n' : Nat} (hle : n ≤ n') : w'.Mirrors w n' := by
  refine ⟨?_, h.views, h.sessions, h.cursors, h.writerReady⟩
  rcases h.stores with mirrors | outset
  · obtain ⟨m, db, hs, ht, hdb, few⟩ := mirrors.stores
    exact .inl ⟨⟨m, db, hs, ht, hdb, Nat.le_trans few hle⟩, mirrors.original, mirrors.image⟩
  · exact .inr outset

/-- The database is ready once a view has been built. -/
theorem of_view {i : Nat} {v : View} (hv : w.views[i]? = some v) :
    w'.shared.Mirrors w.shared n := by
  rcases h.stores with mirrors | ⟨-, none, -⟩
  · exact mirrors
  · rw [none] at hv
    cases hv

theorem attach : ∃ t', w.shared.attach = (.ok (), w.shared) ∧ w'.shared.attach = (.ok (), t') ∧
    t'.Mirrors w.shared n := by
  rcases h.stores with mirrors | ⟨outset, -, -⟩
  · exact ⟨w'.shared, mirrors.attach.1, mirrors.attach.2, mirrors⟩
  · obtain ⟨t', hs, ht, mirrors⟩ := outset.attach
    obtain ⟨m, db, hm, hdb, same, few⟩ := mirrors.stores
    exact ⟨t', hs, ht, ⟨m, db, hm, hdb, same, Nat.le_trans few n.zero_le⟩, mirrors.original,
      mirrors.image⟩

theorem set_view {s t : Shared} (stores : t.Mirrors s n') (i : Nat) (v : View) :
    ({ w' with shared := t, views := w'.views.set i v.raised } : Workspace).Mirrors
      { w with shared := s, views := w.views.set i v } n' := by
  refine ⟨.inl stores, ?_, h.sessions, h.cursors, h.writerReady⟩
  rw [List.map_set, h.views]

theorem put_cursor (name : String) (c : Cursor) :
    ({ w' with cursors := (name, c.raised) :: w'.cursors } : Workspace).Mirrors
      { w with cursors := (name, c) :: w.cursors } n := by
  refine ⟨h.stores, h.views, h.sessions, ?_, h.writerReady⟩
  rw [List.map_cons, h.cursors]

/-- An operation that gives a result and changes nothing. -/
theorem answer {r r' : Result} (result : r' = op.raise r) (succeeds : ∀ f, r ≠ .failed f) :
    Alike op n (w'.answer r') (w.answer r) :=
  ⟨result, succeeds, h⟩

theorem missing (what : Missing) :
    Alike op n (w'.answer (.missing what)) (w.answer (.missing what)) :=
  h.answer rfl fun _ => Result.noConfusion

/-! ### Operations on workspaces that mirror each other -/

theorem onSession (s : String) (hle : n ≤ n') {f f' : Nat → View → Result × Workspace}
    (hf : ∀ i v, w.views[i]? = some v → Alike op n' (f' i v.raised) (f i v)) :
    Alike op n' (w'.onSession s f') (w.onSession s f) := by
  unfold Workspace.onSession
  rw [h.sessions, h.views]
  split
  · exact (h.mono hle).missing .session
  · next i _ =>
    rw [List.getElem?_map]
    cases hv : w.views[i]? with
    | none => exact (h.mono hle).missing .session
    | some v => exact hf i v hv

theorem onCursor (c : String) {f : Cursor → Except CursorFault Record × Cursor}
    (hf : ∀ cursor, f cursor.raised = ((f cursor).1.map Record.raised, (f cursor).2.raised)) :
    Alike op n (w'.onCursor c f) (w.onCursor c f) := by
  unfold Workspace.onCursor
  rw [h.cursors, lookup_map]
  cases w.cursors.lookup c with
  | none => exact h.missing .cursor
  | some cursor =>
    simp only [Option.map_some, hf, ← h.cursors]
    cases hfound : f cursor with
    | mk found moved =>
      cases found with
      | ok r => exact ⟨rfl, fun _ => Result.noConfusion, h.put_cursor c moved⟩
      | error e => exact ⟨rfl, fun _ => Result.noConfusion, h.put_cursor c moved⟩

theorem length (c : String) :
    Alike (.length c) n (w'.perform (.length c)) (w.perform (.length c)) := by
  simp only [Workspace.perform, h.cursors, lookup_map]
  cases w.cursors.lookup c with
  | none => exact h.missing .cursor
  | some cursor =>
    refine h.answer ?_ fun _ => Result.noConfusion
    simp only [Cursor.length_raised]
    rfl

theorem openSession (s : String) (room : Database.holds (n + 1) = true) :
    Alike (.openSession s) n (w'.openSession s) (w.openSession s) := by
  obtain ⟨t, hs, ht, mirrors⟩ := h.attach
  obtain ⟨v, s', t', hs', ht', mirrors'⟩ := View.load_mirrors mirrors room
  have hopen : View.openOn w.shared = (.ok v, s') := by simp only [View.openOn, hs, hs']
  have hopen' : View.openOn w'.shared = (.ok v.raised, t') := by simp only [View.openOn, ht, ht']
  unfold Workspace.openSession
  rw [hopen, hopen']
  refine ⟨rfl, fun _ => Result.noConfusion, .inl mirrors', ?_, ?_, h.cursors, h.writerReady⟩
  · simp only [h.views, List.map_append, List.map_cons, List.map_nil]
  · simp only [h.sessions, h.views, List.length_map]

theorem addTo {s : String} {d : Draft} (timed : d.IsTimed) (room : (n : Int) < Database.maxSeq)
    {i : Nat} {v : View} (hv : w.views[i]? = some v) :
    Alike (.add s d) (n + 1) (w'.addTo d i v.raised) (w.addTo d i v) := by
  obtain ⟨seq, v', s', t', hs, ht, mirrors⟩ := v.add_mirrors (h.of_view hv) timed room
  unfold Workspace.addTo
  rw [hs, ht]
  exact ⟨rfl, fun _ => Result.noConfusion, h.set_view mirrors i v'⟩

theorem forward {s : String} (room : Database.holds (n + 1) = true) {i : Nat} {v : View}
    (hv : w.views[i]? = some v) :
    Alike (.renew s) n (w'.forward i v.raised) (w.forward i v) := by
  obtain ⟨v', s', t', hs, ht, mirrors⟩ := v.renew_mirrors (h.of_view hv) room
  unfold Workspace.forward
  rw [hs, ht]
  exact ⟨rfl, fun _ => Result.noConfusion, h.set_view mirrors i v'⟩

/-- The other writer finds both stores ready for its first call. -/
theorem ready : ∃ t,
    (if w.writerReady then (.ok (), w.shared) else w.shared.attach) = (.ok (), w.shared) ∧
    (if w'.writerReady then (.ok (), w'.shared) else w'.shared.attach) = (.ok (), t) ∧
    t.Mirrors w.shared n := by
  rw [h.writerReady]
  by_cases prepared : w.writerReady = true
  · rcases h.stores with mirrors | ⟨-, -, unprepared⟩
    · exact ⟨w'.shared, if_pos prepared, if_pos prepared, mirrors⟩
    · cases prepared.symm.trans unprepared
  · obtain ⟨t, hs, ht, mirrors⟩ := h.attach
    rw [if_neg prepared, if_neg prepared]
    exact ⟨t, hs, ht, mirrors⟩

theorem asOther {f f' : Shared → Result × Shared}
    (hf : ∀ t, t.Mirrors w.shared n → (f' t).1 = op.raise (f w.shared).1 ∧
      (∀ e, (f w.shared).1 ≠ .failed e) ∧ (f' t).2.Mirrors (f w.shared).2 n') :
    Alike op n' (w'.asOther f') (w.asOther f) := by
  obtain ⟨t, hs, ht, mirrors⟩ := h.ready
  obtain ⟨result, succeeds, mirrors'⟩ := hf t mirrors
  unfold Workspace.asOther
  simp only [hs, ht]
  exact ⟨result, succeeds, .inl mirrors', h.views, h.sessions, h.cursors, rfl⟩

/-- Operations that correspond to each other keep workspaces mirroring each other. -/
theorem perform (plain : op.IsPlain)
    (room : Database.holds ((n + op.adds.toNat : Nat) + 1) = true) :
    Alike op (n + op.adds.toNat) (w'.perform op.raised) (w.perform op) := by
  cases op with
  | openSession s => exact h.openSession s room
  | renew s => exact h.onSession s (Nat.le_refl n) fun _ _ hv => h.forward room hv
  | all s =>
    refine h.onSession s (Nat.le_refl n) fun _ v _ => h.answer ?_ fun _ => Result.noConfusion
    rw [View.all_raised]
    rfl
  | makeCursor s c lead =>
    refine h.onSession s (Nat.le_refl n) fun _ v _ => ?_
    rw [View.cursor_raised]
    refine ⟨?_, fun _ => Result.noConfusion, h.put_cursor c (v.cursor lead)⟩
    simp only [Cursor.length_raised]
    rfl
  | older c => exact h.onCursor c Cursor.older_raised
  | newer c => exact h.onCursor c Cursor.newer_raised
  | get c =>
    refine h.onCursor c fun cursor => ?_
    rw [Cursor.get_raised]
  | length c => exact h.length c
  | add s d =>
    exact h.onSession s (Nat.le_succ n) fun _ _ hv => h.addTo plain (View.lt_of_holds room) hv
  | otherAdd d =>
    simp only [Workspace.perform, Operation.raised]
    refine h.asOther fun t mirrors => ?_
    obtain ⟨seq, s', t', hs, ht, mirrors'⟩ := mirrors.add plain (View.lt_of_holds room)
    rw [hs, ht]
    exact ⟨rfl, fun _ => Result.noConfusion, mirrors'⟩
  | otherNext =>
    simp only [Workspace.perform, Operation.raised]
    refine h.asOther fun t mirrors => ?_
    obtain ⟨k, -, -, hs, ht⟩ := mirrors.next
    rw [hs, ht]
    exact ⟨rfl, fun _ => Result.noConfusion, mirrors⟩
  | otherRange first upto =>
    simp only [Workspace.perform, Operation.raised]
    refine h.asOther fun t mirrors => ?_
    obtain ⟨records, hs, ht⟩ := mirrors.range plain.1 plain.2
    simp only [hs, ht]
    exact ⟨rfl, fun _ => Result.noConfusion, mirrors⟩
  -- the other operations are not compared
  | _ => exact plain.elim

/-- Rows of operations that correspond to each other give results that do. -/
theorem results {ops : List Operation} (plain : ∀ op ∈ ops, op.IsPlain)
    (room : Database.holds ((n + ops.countP Operation.adds : Nat) + 1) = true) :
    w'.results (ops.map Operation.raised) = List.zipWith Operation.raise ops (w.results ops) ∧
      ∀ f, .failed f ∉ w.results ops := by
  induction ops generalizing w w' n with
  | nil => exact ⟨rfl, fun _ => List.not_mem_nil⟩
  | cons op ops ih =>
    obtain ⟨hop, hops⟩ := List.forall_mem_cons.mp plain
    -- the first operation takes its part of the room, and leaves the rest to the others
    have hcount : n + (op :: ops).countP Operation.adds =
        n + op.adds.toNat + ops.countP Operation.adds := by
      rw [List.countP_cons]
      cases op.adds <;> simp
      omega
    rw [hcount] at room
    have first := h.perform hop (View.holds_of_le (Int.natCast_nonneg _)
      (Int.ofNat_le.mpr (Nat.le_add_right _ _)) room)
    obtain ⟨hresults, hsound⟩ := ih first.mirrors hops room
    refine ⟨?_, fun f hmem => ?_⟩
    · simp only [Workspace.results, List.map_cons, List.zipWith_cons_cons, first.result, hresults]
    · rcases List.mem_cons.mp hmem with hfirst | hrest
      · exact first.succeeds f hfirst.symm
      · exact hsound f hrest

end Mirrors

/-- A new store in memory and a new database are interchangeable.  Over both, the same sessions and
another writer get the same results of the same operations, step by step, with all numbers of
records larger by one in the database and all other fields of the records the same; and nothing
fails.  It takes that what is added has a time, and that the database can be handed all bounds of
ranges, be it the bounds of ranges that are asked for or the number after that of the last record. -/
theorem interchange_run {db : Database} (fresh : db.IsFresh) (clock clock' : Clock)
    (ops : List Operation) (plain : ∀ op ∈ ops, op.IsPlain)
    (room : Database.holds (ops.countP Operation.adds + 1) = true) :
    let inMemory : Workspace := { shared := { backend := .memory {}, clock := clock } }
    let onFile : Workspace := { shared := { backend := .database db, clock := clock' } }
    onFile.results (ops.map Operation.raised) =
      List.zipWith Operation.raise ops (inMemory.results ops) ∧
    ∀ f, .failed f ∉ inMemory.results ops := by
  intro inMemory onFile
  have outset : onFile.shared.AtOutset inMemory.shared :=
    ⟨⟨db, rfl, rfl, fresh⟩, ⟨rfl, rfl⟩, ⟨rfl, rfl⟩⟩
  have mirrors : onFile.Mirrors inMemory 0 := ⟨.inr ⟨outset, rfl, rfl⟩, rfl, rfl, rfl, rfl⟩
  refine mirrors.results plain ?_
  rw [Nat.zero_add]
  exact room

/-- Two sessions and another writer add records.  The first session builds its view anew and walks
through what matches, to the oldest one and back. -/
def twoSessions : List Operation :=
  [.openSession "a", .add "a" ⟨"make", .ofNat 7, "/src"⟩, .otherAdd ⟨"ls", .ofNat 8, "/tmp"⟩,
    .openSession "b", .add "b" ⟨"make test", .ofNat 9, "/src"⟩, .otherNext, .all "a", .renew "a",
    .makeCursor "a" "c" "make", .older "c", .older "c", .older "c", .newer "c", .otherRange 1 3]

theorem interchange_twoSessions :
    let onFile : Workspace :=
      { shared := { backend := .database (.at {} [] "hist.db"), clock := ⟨1000⟩ } }
    let inMemory : Workspace := { shared := { backend := .memory {}, clock := ⟨1000⟩ } }
    (Database.at {} [] "hist.db").IsFresh ∧ (∀ op ∈ twoSessions, op.IsPlain) ∧
      Database.holds (twoSessions.countP Operation.adds + 1) = true ∧
      onFile.results (twoSessions.map Operation.raised) =
        List.zipWith Operation.raise twoSessions (inMemory.results twoSessions) ∧
      onFile.results (twoSessions.map Operation.raised) =
        [.done, .number 1, .number 2, .done, .number 3, .number 4,
          .records [⟨1, "make", .ofNat 7, "/src"⟩], .done, .number 2,
          .record ⟨3, "make test", .ofNat 9, "/src"⟩, .record ⟨1, "make", .ofNat 7, "/src"⟩,
          .stuck .noOlder, .record ⟨3, "make test", .ofNat 9, "/src"⟩,
          .records [⟨2, "ls", .ofNat 8, "/tmp"⟩, ⟨3, "make test", .ofNat 9, "/src"⟩]] := by
  have fresh : (Database.at {} [] "hist.db").IsFresh :=
    Database.isFresh_at _ _ _ ⟨by decide +kernel, by decide +kernel, by decide +kernel,
      by decide +kernel⟩
  have plain : ∀ op ∈ twoSessions, op.IsPlain := by
    have bounds : Database.holds (1 + 1) = true ∧ Database.holds (3 + 1) = true := by decide
    simp only [twoSessions, List.forall_mem_cons, Operation.IsPlain, true_and]
    exact ⟨⟨by decide +kernel, by decide +kernel⟩, ⟨by decide +kernel, by decide +kernel⟩,
      ⟨by decide +kernel, by decide +kernel⟩, bounds, fun _ hop => (List.not_mem_nil hop).elim⟩
  have room : Database.holds (twoSessions.countP Operation.adds + 1) = true := by decide +kernel
  obtain ⟨same, -⟩ := interchange_run fresh ⟨1000⟩ ⟨1000⟩ twoSessions plain room
  exact ⟨fresh, plain, room, same, rfl⟩

end Promptline.Workspace
