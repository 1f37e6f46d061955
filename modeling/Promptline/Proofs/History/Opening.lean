import Promptline.Proofs.History.Failure
import Promptline.Proofs.Store.Fault
import Promptline.Proofs.Store.Origin

/-! What can still fail once a session has been opened.  Its store could be reached, so from then on
every call that fails does so with an error of the store.  Only a view cannot be read when the database
announces a number that no bound of a range can be. -/

namespace Promptline.Store

namespace Database

variable {db db' : Database}

/-- The path of the database holds a zero character. -/
def IsPathless (db : Database) : Prop := db.place = .nowhere .zeroInPath ∧ db.placeThen = none

theorem IsPathless.follows (h : db.IsPathless) (follows : db.Follows db') : db'.IsPathless := by
  obtain ⟨hplace, hthen⟩ := h
  have opened : db.opened.place = db.place := by
    rw [Database.opened, hthen]
    rfl
  refine ⟨?_, follows.placeThen.trans hthen⟩
  obtain same | ⟨same, -⟩ := follows.place
  · rw [same, opened, hplace]
  · rw [same, hplace]

theorem IsPathless.obstacle (h : db.IsPathless) : db.obstacle? = some .zeroInPath := by
  have place : db.placeNow = .nowhere .zeroInPath := by
    rw [placeNow, h.1, if_neg fun transient => Place.noConfusion transient.1]
  rw [obstacle?, place]

/-- Such a database cannot be opened. -/
theorem IsPathless.attach (h : db.IsPathless) : db.attach = .error .zeroInPath := by
  rw [Database.attach, h.obstacle]

theorem IsPathless.next (h : db.IsPathless) : db.next = .error .zeroInPath := by
  rw [Database.next, h.obstacle]

theorem IsPathless.comes {b : Backend} (h : db.IsPathless)
    (comes : (Backend.database db).Comes b) : ∃ db', b = .database db' ∧ db'.IsPathless := by
  obtain ⟨events, rfl⟩ := comes
  exact induct_afterAll h (fun _ _ h => h.follows) events

theorem isPathless_at {path : String} (h : path.toList.contains '\x00' = true) (t : Directory.Tree)
    (garbled : List String) : (Database.at t garbled path).IsPathless := by
  rw [Database.at, if_pos h]
  exact ⟨rfl, rfl⟩

end Database

theorem Failure.IsReportedAt.isStoreError {f : Failure} {path : String} (h : f.IsReportedAt path)
    (hpath : path.toList.contains '\x00' = false) : f.IsStoreError := by
  obtain h | ⟨-, zero⟩ := h
  · exact h
  · cases zero.symm.trans hpath

namespace Backend

variable {b b' b'' : Backend}

/-- Whatever cannot be reached is reported as an error of the store. -/
def Reports : Backend → Prop
  | .database db => ∃ path, path.toList.contains '\x00' = false ∧ db.Reports path
  | _ => True

theorem Reports.outcome {e : Event} (h : b.Reports) (houtcome : b.outcome e = .ok b') :
    b'.Reports := by
  cases b with
  | database db =>
    obtain ⟨db', rfl, follows⟩ := Database.follows_outcome houtcome
    obtain ⟨path, hpath, reports⟩ := h
    exact ⟨path, hpath, reports.follows follows⟩
  | _ =>
    cases e <;> cases houtcome
    all_goals trivial

theorem Reports.comes (h : b.Reports) (comes : b.Comes b') : b'.Reports :=
  comes.induct h fun _ _ _ => Reports.outcome

/-- Whatever becomes of a new store, it reports its failures, or its path is none. -/
theorem IsNew.reports_or_pathless (isNew : b.IsNew) :
    (∀ b', b.Comes b' → b'.Reports) ∨ ∃ db, b = .database db ∧ db.IsPathless := by
  cases isNew with
  | memory texts => exact .inl fun _ => Reports.comes (b := .memory (.ofTexts texts)) trivial
  | listing l => exact .inl fun _ => Reports.comes (b := .listing l) trivial
  | database t garbled path =>
    cases hpath : path.toList.contains '\x00' with
    | false =>
      have reports := Database.reports_at t garbled path
      exact .inl fun _ =>
        Reports.comes (b := .database (.at t garbled path)) ⟨path, hpath, reports⟩
    | true => exact .inr ⟨_, rfl, Database.isPathless_at hpath t garbled⟩

/-- A store that can be prepared can be reached. -/
theorem IsNew.reports (isNew : b.IsNew) (comes : b.Comes b') (hattach : b'.attach = .ok b'') :
    b'.Reports := by
  obtain reports | ⟨db, rfl, pathless⟩ := isNew.reports_or_pathless
  · exact reports b' comes
  · -- Such a database stays without a path, so it cannot have been prepared.
    obtain ⟨db', rfl, pathless'⟩ := pathless.comes comes
    obtain ⟨opened, hopened, -⟩ := map_eq_ok hattach
    cases pathless'.attach.symm.trans hopened

variable {f : Failure} {d : Draft} {first upto : Int}

theorem Reports.next (h : b.Reports) (hf : b.next = .error f) : f.IsStoreError := by
  cases b with
  | database db =>
    obtain ⟨path, hpath, reports⟩ := h
    exact (reports.next hf).isStoreError hpath
  | _ => cases hf

theorem Reports.add (h : b.Reports) (hf : b.add d = .error f) : f.IsStoreError := by
  cases b with
  | database db =>
    obtain ⟨path, hpath, reports⟩ := h
    exact (reports.add (map_eq_error hf)).isStoreError hpath
  | _ => cases hf

theorem Reports.range (h : b.Reports) (hf : b.range first upto = .error f) :
    f.IsStoreError ∨ f = .boundTooLarge := by
  cases b with
  | database db =>
    obtain ⟨path, hpath, reports⟩ := h
    exact (reports.range hf).imp_left fun reported => reported.isStoreError hpath
  | _ => cases hf

theorem Reports.range_iff (h : b.Reports) : b.range first upto = .error .boundTooLarge ↔
    b.path?.isSome = true ∧ (∃ records, b.range 0 0 = .ok records) ∧
      (Database.holds first && Database.holds upto) = false := by
  cases b with
  | database db =>
    obtain ⟨path, -, reports⟩ := h
    exact reports.range_iff.trans ⟨fun refused => ⟨rfl, refused⟩, And.right⟩
  | _ =>
    constructor
    · intro hrange
      cases hrange
    · rintro ⟨hpath, -⟩
      cases hpath

end Backend

namespace Shared

variable {s s' : Shared} {c : Call} {f : Failure} {d : Draft} {first upto : Int}

theorem isStoreError_of_failure? (hf : s.failure? c = some f) : f.IsStoreError := by
  obtain ⟨message, -, rfl⟩ := Option.map_eq_some_iff.mp hf
  exact ⟨_, rfl⟩

theorem reports_of_next {result : Except Failure Int} (h : s.backend.Reports)
    (hnext : s.next = (result, s')) : s'.backend.Reports := by
  have comes := s.comes_next
  rw [hnext] at comes
  exact h.comes comes

theorem isStoreError_of_next (h : s.backend.Reports) (hnext : s.next = (.error f, s')) :
    f.IsStoreError := by
  unfold next at hnext
  split at hnext
  · next hf =>
    cases hnext
    exact isStoreError_of_failure? hf
  · next hf =>
    cases hnext
    exact h.next hf
  · cases hnext

theorem isStoreError_of_add (h : s.backend.Reports) (hadd : s.add d = (.error f, s')) :
    f.IsStoreError := by
  unfold add at hadd
  simp only at hadd
  split at hadd
  · next hf =>
    cases hadd
    exact isStoreError_of_failure? hf
  · next hf =>
    cases hadd
    exact h.add hf
  · cases hadd

theorem isStoreError_of_range (h : s.backend.Reports) (hrange : s.range first upto = .error f) :
    f.IsStoreError ∨ f = .boundTooLarge := by
  unfold range at hrange
  split at hrange
  · next hf =>
    cases hrange
    exact .inl (isStoreError_of_failure? hf)
  · exact h.range hrange

theorem range_boundTooLarge_iff (h : s.backend.Reports) :
    s.range first upto = .error .boundTooLarge ↔
      s.backend.path?.isSome = true ∧ (∃ records, s.range 0 0 = .ok records) ∧
        (Database.holds first && Database.holds upto) = false := by
  unfold range
  cases hf : s.failure? .range with
  | none => exact h.range_iff
  | some f =>
    obtain ⟨e, rfl⟩ := isStoreError_of_failure? hf
    simp

/-- The database announces a number that no bound of a range can be, although it answers for
others. -/
def IsSpent (s : Shared) : Prop :=
  ∃ n s', s.next = (.ok n, s') ∧ s'.backend.path?.isSome = true ∧
    (∃ records, s'.range 0 0 = .ok records) ∧ Database.holds n = false

end Shared

end Promptline.Store

namespace Promptline.History.View

open Promptline.Store

variable {s s' : Shared} {v v' : View} {f : Failure}

theorem comes_load (s : Shared) : s.backend.Comes (load s).2.backend := by
  have first := s.comes_next
  unfold load
  split
  · next hnext =>
    rw [hnext] at first
    exact first
  · next upto s' hnext =>
    rw [hnext] at first
    have same : (collect s' upto).2.backend = s'.backend := by
      unfold collect
      split <;> rfl
    rw [same]
    exact first

theorem comes_renew (v : View) (s : Shared) : s.backend.Comes (v.renew s).2.backend := by
  have loaded := comes_load s
  unfold renew
  split
  · next hload => rwa [hload] at loaded
  · next hload => rwa [hload] at loaded

/-- The store of a session that has been opened reports its failures. -/
theorem reports_openOn {new : Backend} (isNew : new.IsNew) (comes : new.Comes s.backend)
    (hopen : openOn s = (.ok v, s')) : s'.backend.Reports := by
  unfold openOn at hopen
  split at hopen
  · cases hopen
  · next attached hattach =>
    obtain ⟨hb, -⟩ := Shared.attach_eq_ok hattach
    have reports := isNew.reports comes hb
    have opened := (reports.comes (Backend.comes_of_outcome (e := .attach) hb)).comes
      (comes_load attached)
    rwa [hopen] at opened

/-- What keeps a view from being read. -/
theorem load_fails (h : s.backend.Reports) (hload : load s = (.error f, s')) :
    f.IsStoreError ∨ f = .boundTooLarge ∧ s.IsSpent := by
  unfold load at hload
  split at hload
  · next hnext =>
    cases hload
    exact .inl (Shared.isStoreError_of_next h hnext)
  · next upto t hnext =>
    have reports := Shared.reports_of_next h hnext
    unfold collect at hload
    split at hload <;> cases hload
    next hrange =>
    obtain reported | rfl := Shared.isStoreError_of_range reports hrange
    · exact .inl reported
    · obtain ⟨hpath, answers, unheld⟩ := (Shared.range_boundTooLarge_iff reports).mp hrange
      exact .inr ⟨rfl, upto, s', hnext, hpath, answers, unheld⟩

theorem renew_fails (h : s.backend.Reports) (hrenew : v.renew s = (.error f, s')) :
    f.IsStoreError ∨ f = .boundTooLarge ∧ s.IsSpent := by
  unfold renew at hrenew
  split at hrenew
  · next hload =>
    cases hrenew
    exact load_fails h hload
  · cases hrenew

end Promptline.History.View
