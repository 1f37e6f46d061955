import Promptline.Proofs.Store.Event
import Promptline.Store.Location

/-! How the calls of a database fail.  Whatever has happened to the file, a call that fails does so with
an error of the store, with two exceptions that are refused in other words: a path that holds a zero
character, and a range with a bound that no column of the database can hold, where the database would
have answered for other bounds. -/

namespace Promptline.Store

open Promptline.Directory

/-- The failure is an error of the store, which its callers are ready for. -/
def Failure.IsStoreError (f : Failure) : Prop := ∃ e, f = .store e

/-- The failure is an error of the store, unless `path` cannot be a path at all. -/
def Failure.IsReportedAt (path : String) (f : Failure) : Prop :=
  f.IsStoreError ∨ f = .zeroInPath ∧ path.toList.contains '\x00' = true

/-- The reason for which the place cannot be reached, if it cannot, is one that is reported. -/
def Place.Reports (path : String) (p : Place) : Prop := ∀ f, p = .nowhere f → f.IsReportedAt path

/-- A database reports why it cannot be reached, before and after its file is opened. -/
structure Database.Reports (path : String) (db : Database) : Prop where
  place : db.place.Reports path
  placeThen : ∀ p, db.placeThen = some p → p.Reports path

theorem Failure.IsReportedAt.of_store {path : String} (e : StoreError) :
    (Failure.store e).IsReportedAt path :=
  .inl ⟨e, rfl⟩

theorem Address.reports_place (a : Address) (t : Tree) (path : String) :
    (a.place t path).Reports path := by
  intro f hf
  unfold place at hf
  split at hf
  · split at hf <;> cases hf
  · split at hf
    · cases hf
      exact .of_store _
    · split at hf
      · cases hf
      · split at hf <;> cases hf

namespace Database

/-- Wherever a path leads to. -/
theorem reports_at (t : Tree) (garbled : List String) (path : String) :
    (Database.at t garbled path).Reports path := by
  unfold Database.at
  split
  · next hpath =>
    refine ⟨?_, fun p hp => by cases hp⟩
    rintro f ⟨⟩
    exact .inr ⟨rfl, hpath⟩
  · cases Address.read path with
    | error f =>
      refine ⟨?_, fun p hp => by cases hp⟩
      rintro f ⟨⟩
      exact .of_store _
    | ok a =>
      refine ⟨a.reports_place t path, fun p hp => ?_⟩
      simp only at hp
      split at hp
      · rw [← Option.some.inj hp]
        exact a.reports_place _ path
      · cases hp

variable {path : String} {db db' : Database} {f : Failure} {first upto : Int}

theorem Reports.opened (h : db.Reports path) : db.opened.place.Reports path := by
  unfold Database.opened
  cases hthen : db.placeThen with
  | none => exact h.place
  | some p => exact h.placeThen p hthen

theorem Reports.follows (h : db.Reports path) (follows : db.Follows db') : db'.Reports path := by
  refine ⟨?_, fun p hp => h.placeThen p (follows.placeThen ▸ hp)⟩
  obtain hplace | ⟨hplace, -⟩ := follows.place
  · rw [hplace]
    exact h.opened
  · rw [hplace]
    exact h.place

namespace Reports

variable (h : db.Reports path)
include h

/-- What keeps every call from the file. -/
theorem obstacle (hf : db.obstacle? = some f) : f.IsReportedAt path := by
  unfold obstacle? at hf
  split at hf
  · next g hnow =>
    cases hf
    unfold placeNow at hnow
    split at hnow
    · cases hnow
    · exact h.place _ hnow
  · cases hf
  all_goals
    split at hf
    · cases hf
      exact .of_store _
    · split at hf <;> cases hf
      exact .of_store _

theorem attach (hf : db.attach = .error f) : f.IsReportedAt path := by
  unfold Database.attach at hf
  split at hf
  · next hobstacle =>
    cases hf
    exact h.obstacle hobstacle
  · cases hf
    exact .of_store _
  · split at hf
    · cases hf
    · split at hf <;> cases hf
      exact .of_store _

theorem next (hf : db.next = .error f) : f.IsReportedAt path := by
  unfold Database.next at hf
  split at hf
  · next hobstacle =>
    cases hf
    exact h.obstacle hobstacle
  · cases hf
    exact .of_store _
  · cases hf

theorem add {d : Draft} (hf : db.add d = .error f) : f.IsReportedAt path := by
  unfold Database.add at hf
  split at hf
  · next hobstacle =>
    cases hf
    exact h.obstacle hobstacle
  · cases hf
    exact .of_store _
  · simp only at hf
    split at hf <;> cases hf
    exact .of_store _

theorem range (hf : db.range first upto = .error f) : f.IsReportedAt path ∨ f = .boundTooLarge := by
  unfold Database.range at hf
  split at hf
  · next hobstacle =>
    cases hf
    exact .inl (h.obstacle hobstacle)
  · cases hf
    exact .inl (.of_store _)
  · split at hf <;> cases hf
    exact .inr rfl

/-- A range is refused for its bounds exactly where the database answers for other bounds. -/
theorem range_iff : db.range first upto = .error .boundTooLarge ↔
    (∃ records, db.range 0 0 = .ok records) ∧ (holds first && holds upto) = false := by
  have zero : holds 0 = true := by decide
  unfold Database.range
  cases hobstacle : db.obstacle? with
  | some f =>
    obtain ⟨e, rfl⟩ | ⟨rfl, -⟩ := h.obstacle hobstacle <;> simp
  | none =>
    cases db.tableNow with
    | none => simp
    | some records => cases holds first && holds upto <;> simp [zero]

end Reports

end Database

/-- Whatever has happened to the file at a path, be it that it cannot be reached, is no database, is
locked, or has lost its table: what prepares it, reads its number or adds a record fails with errors
of the store only, unless the path holds a zero character.  So does a range, if both its bounds can be
held; otherwise it is refused where the database would have answered. -/
theorem storeErrors_afterAll (t : Tree) (garbled : List String) (path : String)
    (events : List Event) :
    let b := (Backend.database (.at t garbled path)).afterAll events
    (∀ f, b.attach = .error f → f.IsReportedAt path) ∧
      (∀ f, b.next = .error f → f.IsReportedAt path) ∧
      (∀ d f, b.add d = .error f → f.IsReportedAt path) ∧
      ∀ first upto,
        (∀ f, b.range first upto = .error f → f.IsReportedAt path ∨ f = .boundTooLarge) ∧
        (b.range first upto = .error .boundTooLarge ↔
          (∃ records, b.range 0 0 = .ok records) ∧
            (Database.holds first && Database.holds upto) = false) := by
  intro b
  obtain ⟨db, hb, reports⟩ := Database.induct_afterAll (Database.reports_at t garbled path)
    (fun _ _ reports follows => reports.follows follows) events
  have hb : b = .database db := hb
  rw [hb]
  refine ⟨fun f hf => ?_, fun f hf => reports.next hf, fun d f hf => ?_, fun first upto => ?_⟩
  · exact reports.attach (Backend.map_eq_error hf)
  · exact reports.add (Backend.map_eq_error hf)
  · exact ⟨fun f hf => reports.range hf, reports.range_iff⟩

/-- The file has a record, and another program keeps everybody from it. -/
def lockedUp : List Event :=
  [.attach, .add ⟨"make", .ofNat 7, "/src"⟩, .interfere (.lock .exclusive)]

theorem storeErrors_lockedUp :
    ∃ f, ((Backend.database (.at {} [] "hist.db")).afterAll lockedUp).add ⟨"ls", .ofNat 8, ""⟩ =
      .error f ∧ f.IsReportedAt "hist.db" := by
  obtain ⟨-, -, hadd, -⟩ := storeErrors_afterAll {} [] "hist.db" lockedUp
  have locked : ((Backend.database (.at {} [] "hist.db")).afterAll lockedUp).add
      ⟨"ls", .ofNat 8, ""⟩ = .error (.store (.database .locked)) := by rfl
  exact ⟨_, locked, hadd _ _ locked⟩

/-- The first bound that is too large, asked of a database that is in order. -/
theorem range_tooLarge :
    ((Backend.database (.at {} [] "hist.db")).afterAll [.attach]).range 0 0x8000000000000000 =
      .error .boundTooLarge ∧ ¬Failure.boundTooLarge.IsStoreError := by
  refine ⟨rfl, ?_⟩
  rintro ⟨e, he⟩
  cases he

end Promptline.Store
