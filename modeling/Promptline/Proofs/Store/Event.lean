import Promptline.Proofs.Store.Calls

/-! What can happen to a store, one event at a time: it is prepared, a record is added, or another
program does something to the database.  An event that fails leaves no trace.  Whatever happens, a
database stays at its address, and it has records only once its file has been opened.  So to open it
again does nothing to them. -/

namespace Promptline.Store

/-- What another program does to a database. -/
inductive Interference where
  | lock (lock : Lock)
  | unlock
  | delete (seq : Int)
  | setCounter (seq : Int)
  | drop
  | overwrite

def Interference.change : Interference → Database → Except Failure Database
  | .lock l => (·.takeLock l)
  | .unlock => (.ok ·.releaseLock)
  | .delete seq => (·.delete seq)
  | .setCounter seq => (·.setCounter seq)
  | .drop => (·.drop)
  | .overwrite => (·.overwrite)

/-- What happens to a store. -/
inductive Event where
  | attach
  | add (d : Draft)
  | interfere (x : Interference)

namespace Backend

/-- What an event makes of a store, if it succeeds. -/
def outcome (b : Backend) : Event → Except Failure Backend
  | .attach => b.attach
  | .add d => (b.add d).map Prod.snd
  | .interfere x => b.onDatabase x.change

/-- The store after an event. -/
def after (b : Backend) (e : Event) : Backend :=
  match b.outcome e with
  | .error _ => b
  | .ok b => b

/-- The store after events in order. -/
def afterAll (b : Backend) (events : List Event) : Backend := events.foldl after b

/-- Events lead from `b` to `b'`. -/
def Comes (b b' : Backend) : Prop := ∃ events, b.afterAll events = b'

variable {b b' b'' : Backend}

theorem Comes.refl (b : Backend) : b.Comes b := ⟨[], rfl⟩

theorem Comes.trans (first : b.Comes b') (second : b'.Comes b'') : b.Comes b'' := by
  obtain ⟨events, rfl⟩ := first
  obtain ⟨events', rfl⟩ := second
  exact ⟨events ++ events', List.foldl_append⟩

theorem comes_of_outcome {e : Event} (h : b.outcome e = .ok b') : b.Comes b' := by
  refine ⟨[e], ?_⟩
  show b.after e = b'
  rw [after, h]

/-- What every event keeps that succeeds, a row of events keeps. -/
theorem Comes.induct {P : Backend → Prop} (comes : b.Comes b') (start : P b)
    (keeps : ∀ b b' e, P b → b.outcome e = .ok b' → P b') : P b' := by
  obtain ⟨events, rfl⟩ := comes
  induction events generalizing b with
  | nil => exact start
  | cons e events ih =>
    refine ih ?_
    unfold after
    cases houtcome : b.outcome e with
    | error f => exact start
    | ok b' => exact keeps b b' e start houtcome

/-- Another writer adds its records, as many of them as the store takes. -/
theorem comes_foldl_receive (b : Backend) (ds : List Draft) : b.Comes (ds.foldl Shared.receive b) := by
  induction ds generalizing b with
  | nil => exact .refl b
  | cons d ds ih =>
    refine Comes.trans ?_ (ih (Shared.receive b d))
    unfold Shared.receive
    split
    · exact .refl b
    · next hadd =>
      refine comes_of_outcome (e := .add d) ?_
      rw [outcome, hadd]
      rfl

end Backend

namespace Database

/-- The file of the database has been opened, if opening makes a difference. -/
def IsOpened (db : Database) : Prop := db.placeThen.getD db.place = db.place

/-- The database has ever had a table. -/
def IsWritten (db : Database) : Prop := db.table ≠ none ∨ db.counter ≠ none

/-- What has been written has been written to an opened file. -/
def IsSettled (db : Database) : Prop := db.IsWritten → db.IsOpened

/-- What one event may make of a database: its file is opened, or stays as it is and no table comes
into it. -/
structure Follows (db db' : Database) : Prop where
  placeThen : db'.placeThen = db.placeThen
  place : db'.place = db.opened.place ∨ db'.place = db.place ∧ (db'.IsWritten → db.IsWritten)

variable {db db' : Database}

theorem isOpened_opened (db : Database) : db.opened.IsOpened := by
  unfold IsOpened opened
  cases db.placeThen <;> rfl

theorem IsOpened.opened_eq (h : db.IsOpened) : db.opened = db := by
  rw [opened, h]

theorem Follows.settled (h : db.Follows db') (settled : db.IsSettled) : db'.IsSettled := by
  intro written
  unfold IsOpened
  rw [h.placeThen]
  obtain hplace | ⟨hplace, before⟩ := h.place
  · rw [hplace]
    exact db.isOpened_opened
  · rw [hplace]
    exact settled (before written)

theorem follows_change {x : Interference} (h : x.change db = .ok db') : db.Follows db' := by
  cases x with
  | lock lock =>
    obtain ⟨-, -, hplace, hthen⟩ := takeLock_eq h
    exact ⟨hthen, .inl hplace⟩
  | unlock =>
    cases h
    unfold releaseLock
    split
    · exact ⟨rfl, .inr ⟨rfl, fun written => absurd written (by simp [IsWritten])⟩⟩
    · exact ⟨rfl, .inr ⟨rfl, id⟩⟩
  | delete seq =>
    obtain ⟨records, htable, rfl⟩ := delete_eq h
    exact ⟨rfl, .inr ⟨rfl, fun _ => .inl (by simp [htable])⟩⟩
  | setCounter seq =>
    obtain ⟨last, hcounter, rfl⟩ := change_eq h
    exact ⟨rfl, .inr ⟨rfl, fun _ => .inr (by simp [counterNow_eq_some hcounter])⟩⟩
  | drop =>
    obtain ⟨records, htable, rfl⟩ := change_eq h
    exact ⟨rfl, .inr ⟨rfl, fun _ => .inl (by simp [(tableNow_eq_some htable).2])⟩⟩
  | overwrite =>
    simp only [Interference.change, overwrite] at h
    split at h <;> cases h
    exact ⟨rfl, .inr ⟨rfl, id⟩⟩

/-- Whatever succeeds on a database. -/
theorem follows_outcome {b : Backend} {e : Event} (h : (Backend.database db).outcome e = .ok b) :
    ∃ db', b = .database db' ∧ db.Follows db' := by
  cases e with
  | attach =>
    obtain ⟨db', hdb, rfl⟩ := Backend.map_eq_ok h
    obtain ⟨-, -, hplace, hthen⟩ := attach_eq hdb
    exact ⟨db', rfl, hthen, .inl hplace⟩
  | add d =>
    obtain ⟨p, hp, rfl⟩ := Backend.map_eq_ok h
    obtain ⟨⟨n, db'⟩, hdb, rfl⟩ := Backend.map_eq_ok hp
    obtain ⟨records, htable, -, -, rfl⟩ := lt_add hdb
    exact ⟨_, rfl, rfl, .inr ⟨rfl, fun _ => .inl (by simp [htable])⟩⟩
  | interfere x =>
    obtain ⟨db', hdb, rfl⟩ := Backend.map_eq_ok h
    exact ⟨db', rfl, follows_change hdb⟩

/-- What every event keeps of a database, a row of events keeps. -/
theorem induct_afterAll {P : Database → Prop} (start : P db)
    (keeps : ∀ db db', P db → db.Follows db' → P db') (events : List Event) :
    ∃ db', (Backend.database db).afterAll events = .database db' ∧ P db' := by
  induction events generalizing db with
  | nil => exact ⟨db, rfl, start⟩
  | cons e events ih =>
    have hcons : (Backend.database db).afterAll (e :: events) =
        ((Backend.database db).after e).afterAll events := rfl
    rw [hcons, Backend.after]
    cases houtcome : (Backend.database db).outcome e with
    | error f => exact ih start
    | ok b =>
      obtain ⟨db', rfl, follows⟩ := follows_outcome houtcome
      exact ih (keeps db db' start follows)

/-- The number that a database announces, and those that it gives, come from what is written. -/
theorem isWritten_of_next {n : Int} (hnext : db.next = .ok n) : db.IsWritten := by
  obtain ⟨last, hcounter, -⟩ := next_cases hnext
  exact .inr (by simp [hcounter])

theorem isWritten_of_add {d : Draft} {p : Int × Database} (hadd : db.add d = .ok p) :
    db.IsWritten := by
  obtain ⟨records, htable, -⟩ := lt_add hadd
  exact .inl (by simp [htable])

end Database

namespace Backend

/-! ### What is settled -/

/-- A database, if it is one, is settled. -/
def IsSettled : Backend → Prop
  | .database db => db.IsSettled
  | _ => True

variable {b b' : Backend}

theorem settled_outcome {e : Event} (houtcome : b.outcome e = .ok b') (settled : b.IsSettled) :
    b'.IsSettled := by
  cases b with
  | database db =>
    obtain ⟨db', rfl, follows⟩ := Database.follows_outcome houtcome
    exact follows.settled settled
  | _ =>
    cases e <;> cases houtcome
    all_goals trivial

theorem Comes.settled (comes : b.Comes b') (settled : b.IsSettled) : b'.IsSettled :=
  comes.induct settled fun _ _ _ settled houtcome => settled_outcome houtcome settled

/-- A store still holds the same records, and gives the same number to the next one. -/
structure Intact (b b' : Backend) : Prop where
  records : b'.records = b.records
  bound : b'.bound = b.bound
  next : ∀ n, b.next = .ok n → b'.next = .ok n
  add : ∀ d n c, b.add d = .ok (n, c) → ∃ c', b'.add d = .ok (n, c')

theorem Intact.refl (b : Backend) : b.Intact b := ⟨rfl, rfl, fun _ => id, fun _ _ c hadd => ⟨c, hadd⟩⟩

/-- To prepare a store does nothing to its records.  A table that is missing is made, and it is empty
as its absence was; the counter is where it was. -/
theorem intact_attach (settled : b.IsSettled) (hattach : b.attach = .ok b') : b.Intact b' := by
  cases b with
  | database db =>
    obtain ⟨db', hdb, rfl⟩ := map_eq_ok hattach
    obtain ⟨htable, hcounter, -⟩ := Database.attach_eq hdb
    refine ⟨htable, by rw [bound, bound, hcounter], fun n hnext => ?_, fun d n c hadd => ?_⟩
    -- A store that gives a number has been written to, so its file was open before.
    · have opened := (settled (Database.isWritten_of_next hnext)).opened_eq
      obtain rfl | ⟨-, rfl⟩ := Database.attach_cases hdb
      · rwa [opened]
      · obtain ⟨last, hlast, -⟩ := Database.next_cases hnext
        have same : some (db.counter.getD none) = db.counter := by rw [hlast]; rfl
        rw [opened, same]
        exact hnext
    · obtain ⟨p, hp, -⟩ := map_eq_ok hadd
      have opened := (settled (Database.isWritten_of_add hp)).opened_eq
      obtain rfl | ⟨hmissing, -⟩ := Database.attach_cases hdb
      · exact ⟨c, by rwa [opened]⟩
      · obtain ⟨records, hrecords, -⟩ := Database.lt_add hp
        cases hmissing.symm.trans hrecords
  | _ =>
    cases hattach
    exact .refl _

end Backend

namespace Shared

open Backend

/-! ### The calls of a shared store -/

theorem comes_attach (s : Shared) : s.backend.Comes s.attach.2.backend := by
  unfold attach
  split
  · exact .refl _
  · next hattach => exact comes_of_outcome (e := .attach) hattach

theorem comes_add (s : Shared) (d : Draft) : s.backend.Comes (s.add d).2.backend := by
  unfold add
  simp only
  split
  · exact .refl _
  · exact .refl _
  · next hadd =>
    rw [backend_noteStored]
    refine comes_of_outcome (e := .add (s.stamp d).1) ?_
    rw [outcome, hadd]
    rfl

theorem comes_next (s : Shared) : s.backend.Comes s.next.2.backend := by
  unfold next
  split
  · exact .refl _
  · exact .refl _
  · exact comes_foldl_receive s.backend s.arriving

end Shared

end Promptline.Store
