import Promptline.Proofs.Store.Calls
import Promptline.Store.Location

/-! A store in memory and a database that hold the same records.  A store in memory numbers its records
from zero, and a database from one with a counter of its own, so each record has the next number in
the database.  A new database comes to mirror an empty store when it is prepared, and from then on
every call gives the same on both sides, but for the numbers. -/

namespace Promptline.Store

open Promptline.Directory

/-- The record under the number that follows its own. -/
def Record.raised (r : Record) : Record := { r with seq := r.seq + 1 }

theorem between_raised (records : List Record) (first upto : Int) :
    between (records.map Record.raised) (first + 1) (upto + 1) =
      (between records first upto).map Record.raised := by
  unfold between
  rw [List.filter_map]
  refine congrArg _ (List.filter_congr fun r _ => ?_)
  simp only [Function.comp_apply, Record.raised, Int.add_le_add_iff_right,
    Int.add_lt_add_iff_right]

theorem foldl_max_of_le {ns : List Int} {n : Int} (h : ∀ m ∈ ns, m ≤ n) : ns.foldl max n = n := by
  induction ns with
  | nil => rfl
  | cons m ns ih =>
    obtain ⟨hm, hns⟩ := List.forall_mem_cons.mp h
    rw [List.foldl_cons, Int.max_eq_left hm]
    exact ih hns

namespace Database

/-- Nothing keeps a call from the file of a database: it can be read and written, it is a database and
nobody has locked it. -/
structure IsAccessible (db : Database) : Prop where
  place : db.place = .file
  placeThen : db.placeThen.getD .file = .file
  sound : db.garbled = false
  unlocked : db.lock = none

/-- Nothing has been written to the file. -/
structure IsFresh (db : Database) : Prop where
  accessible : db.IsAccessible
  table : db.table = none
  counter : db.counter = none

/-- The database has the records of a store in memory, each under the next number. -/
structure Mirrors (db : Database) (m : Memory) : Prop where
  accessible : db.IsAccessible
  bounded : ∀ r ∈ m.records, 0 ≤ r.seq ∧ r.seq < m.next
  table : db.table = some (m.records.map Record.raised)
  counter : ∃ last, db.counter = some last ∧ last.getD 0 = m.next

/-- A database is fresh at every address where nothing keeps a call from its file. -/
theorem isFresh_at (t : Tree) (garbled : List String) (path : String)
    (h : (Database.at t garbled path).IsAccessible) : (Database.at t garbled path).IsFresh := by
  refine ⟨h, ?_, ?_⟩
  all_goals
    unfold Database.at
    repeat' split
    all_goals rfl

variable {db : Database} {m : Memory}

namespace IsAccessible

variable (h : db.IsAccessible)
include h

theorem placeNow_eq : db.placeNow = .file := by
  simp [placeNow, h.place]

theorem opened_eq : db.opened = db := by
  have hplace : db.placeThen.getD db.place = db.place := by rw [h.place, h.placeThen]
  rw [opened, hplace]

theorem obstacle?_eq : db.obstacle? = none := by
  simp [obstacle?, h.placeNow_eq, h.unlocked, h.sound]

theorem tableNow_eq : db.tableNow = db.table := if_pos h.placeNow_eq

theorem counterNow_eq : db.counterNow = db.counter := if_pos h.placeNow_eq

theorem writingFault?_eq (table : String) : db.writingFault? table = none := by
  simp [writingFault?, h.unlocked]

theorem finishingFault?_eq : db.finishingFault? = none := by
  simp [finishingFault?, h.unlocked]

end IsAccessible

/-- A new database that is prepared mirrors an empty store. -/
theorem IsFresh.attach (h : db.IsFresh) : ∃ db', db.attach = .ok db' ∧ db'.Mirrors {} := by
  have a := h.accessible
  refine ⟨{ db with table := some [], counter := some none }, ?_, ?_⟩
  · simp [Database.attach, a.obstacle?_eq, a.placeNow_eq, h.table, h.counter, a.opened_eq,
      a.writingFault?_eq, a.finishingFault?_eq]
  · exact ⟨⟨a.place, a.placeThen, a.sound, a.unlocked⟩, by simp, rfl, none, rfl, rfl⟩

namespace Mirrors

variable (h : db.Mirrors m)
include h

theorem attach : db.attach = .ok db := by
  have a := h.accessible
  simp [Database.attach, a.obstacle?_eq, a.placeNow_eq, h.table, a.opened_eq]

theorem next : db.next = .ok (m.next + 1) := by
  obtain ⟨last, hcounter, hlast⟩ := h.counter
  have a := h.accessible
  simp [Database.next, a.obstacle?_eq, a.counterNow_eq, hcounter, hlast]

/-- The last number is the count of the records. -/
theorem largest_eq {last : Option Int} (hlast : last.getD 0 = m.next) :
    largest last (m.records.map Record.raised) = m.next := by
  have hnonneg : 0 ≤ m.next := Int.natCast_nonneg _
  rw [largest, hlast, Int.max_eq_right hnonneg]
  refine foldl_max_of_le fun n hn => ?_
  simp only [List.map_map, List.mem_map, Function.comp_apply, Record.raised] at hn
  obtain ⟨r, hr, rfl⟩ := hn
  have := (h.bounded r hr).2
  omega

theorem add {d : Draft} (number : d.time.isNaN = false) (room : m.next < maxSeq) :
    ∃ db', db.add d = .ok (m.next + 1, db') ∧ db'.Mirrors (m.add d) := by
  obtain ⟨last, hcounter, hlast⟩ := h.counter
  have a := h.accessible
  have hlargest := h.largest_eq hlast
  have hroom : ¬maxSeq ≤ m.next := by omega
  have hnext : (m.add d).next = m.next + 1 := by simp [Memory.next, Memory.add]
  refine ⟨{ db with
    table := some (m.records.map Record.raised ++ [d.numbered (m.next + 1)])
    counter := some (some (m.next + 1)) }, ?_, ?_⟩
  · simp [Database.add, a.obstacle?_eq, a.tableNow_eq, h.table, a.counterNow_eq, hcounter, hlargest,
      a.writingFault?_eq, a.finishingFault?_eq, hroom, number]
  · refine ⟨⟨a.place, a.placeThen, a.sound, a.unlocked⟩, fun r hr => ?_, ?_, _, rfl, hnext.symm⟩
    · rw [hnext]
      rcases List.mem_append.mp hr with hr | hr
      · have := h.bounded r hr
        omega
      · rw [List.mem_singleton.mp hr]
        have : 0 ≤ m.next := Int.natCast_nonneg _
        exact ⟨this, Int.lt_succ m.next⟩
    · simp [Memory.add, Record.raised, Draft.numbered]

/-- A range from zero on is one from the first number on. -/
theorem between_zero (upto : Int) :
    between (m.records.map Record.raised) 0 upto =
      between (m.records.map Record.raised) (0 + 1) upto := by
  refine List.filter_congr fun raised hraised => ?_
  obtain ⟨r, hr, rfl⟩ := List.mem_map.mp hraised
  have hseq := (h.bounded r hr).1
  have hzero : 0 ≤ r.seq + 1 := by omega
  have hone : 0 + 1 ≤ r.seq + 1 := by omega
  simp only [Record.raised, hzero, hone]

theorem range {first upto : Int} (hfirst : holds first = true) (hupto : holds upto = true) :
    db.range first upto = .ok (between (m.records.map Record.raised) first upto) := by
  have a := h.accessible
  simp [Database.range, a.obstacle?_eq, a.tableNow_eq, h.table, hfirst, hupto]

end Mirrors

end Database

/-- The draft has a time that a database keeps: it is neither zero nor no number. -/
structure Draft.IsTimed (d : Draft) : Prop where
  nonzero : d.time.isZero = false
  number : d.time.isNaN = false

namespace Shared

/-- No call fails, and no other writer adds anything within a call. -/
structure IsCalm (s : Shared) : Prop where
  failing : s.failing = []
  arriving : s.arriving = []

/-- `t` is a database that mirrors the store in memory `s`, which has `n` records at most. -/
structure Mirrors (t s : Shared) (n : Nat) : Prop where
  stores : ∃ m db, s.backend = .memory m ∧ t.backend = .database db ∧ db.Mirrors m ∧
    m.records.length ≤ n
  original : s.IsCalm
  image : t.IsCalm

/-- `t` is a new database, and `s` a store in memory without records. -/
structure AtOutset (t s : Shared) : Prop where
  stores : ∃ db, s.backend = .memory {} ∧ t.backend = .database db ∧ db.IsFresh
  original : s.IsCalm
  image : t.IsCalm

variable {s t : Shared} {d : Draft} {k seq : Int} {n : Nat}

theorem attach_of_backend {b : Backend} (hattach : s.backend.attach = .ok b) :
    s.attach = (.ok (), { s with backend := b }) := by
  simp only [Shared.attach, hattach]

namespace IsCalm

variable (h : s.IsCalm)
include h

theorem failure?_eq (c : Call) : s.failure? c = none := by
  simp [failure?, h.failing]

theorem next (hnext : s.backend.next = .ok k) : s.next = (.ok k, s) := by
  obtain ⟨backend, failing, arriving, clock, journal⟩ := s
  obtain ⟨rfl, rfl⟩ : failing = [] ∧ arriving = [] := ⟨h.failing, h.arriving⟩
  simp only [Shared.next, failure?, List.lookup_nil, Option.map_none, hnext, List.foldl_nil]

theorem add {b : Backend} (unstamped : s.backend.stamps d = false)
    (hadd : s.backend.add d = .ok (seq, b)) :
    s.add d = (.ok seq, { s with backend := b }.noteStored seq) := by
  simp only [Shared.add, stamp, unstamped, Bool.false_eq_true, if_false]
  have hnone : ({ s with clock := s.clock } : Shared).failure? .add = none := h.failure?_eq .add
  simp only [hnone, hadd]

theorem range (first upto : Int) : s.range first upto = s.backend.range first upto := by
  simp only [Shared.range, h.failure?_eq]

theorem noteStored (b : Backend) (seq : Int) :
    ({ s with backend := b }.noteStored seq).IsCalm := by
  unfold Shared.noteStored
  split <;> exact ⟨h.failing, h.arriving⟩

end IsCalm

theorem AtOutset.attach (h : t.AtOutset s) :
    ∃ t', s.attach = (.ok (), s) ∧ t.attach = (.ok (), t') ∧ t'.Mirrors s 0 := by
  obtain ⟨db, hs, ht, fresh⟩ := h.stores
  obtain ⟨db', hattach, mirrors⟩ := fresh.attach
  have hb : s.backend.attach = .ok s.backend := by rw [hs]; rfl
  have hb' : t.backend.attach = .ok (.database db') := by
    rw [ht, Backend.attach, hattach]
    rfl
  exact ⟨_, attach_of_backend hb, attach_of_backend hb', ⟨{}, db', hs, rfl, mirrors, Nat.le_refl 0⟩,
    h.original, h.image.failing, h.image.arriving⟩

namespace Mirrors

variable (h : t.Mirrors s n)
include h

theorem attach : s.attach = (.ok (), s) ∧ t.attach = (.ok (), t) := by
  obtain ⟨m, db, hs, ht, mirrors, -⟩ := h.stores
  have hb : s.backend.attach = .ok s.backend := by rw [hs]; rfl
  have hb' : t.backend.attach = .ok t.backend := by
    rw [ht, Backend.attach, mirrors.attach]
    rfl
  exact ⟨attach_of_backend hb, attach_of_backend hb'⟩

theorem next : ∃ k : Int, 0 ≤ k ∧ k ≤ n ∧ s.next = (.ok k, s) ∧ t.next = (.ok (k + 1), t) := by
  obtain ⟨m, db, hs, ht, mirrors, few⟩ := h.stores
  have hb : s.backend.next = .ok m.next := by rw [hs]; rfl
  have hb' : t.backend.next = .ok (m.next + 1) := by
    rw [ht]
    exact mirrors.next
  exact ⟨m.next, Int.natCast_nonneg _, Int.ofNat_le.mpr few, h.original.next hb, h.image.next hb'⟩

theorem add (timed : d.IsTimed) (room : (n : Int) < Database.maxSeq) :
    ∃ seq s' t', s.add d = (.ok seq, s') ∧ t.add d = (.ok (seq + 1), t') ∧
      t'.Mirrors s' (n + 1) := by
  obtain ⟨m, db, hs, ht, mirrors, few⟩ := h.stores
  have hroom : m.next < Database.maxSeq := Int.lt_of_le_of_lt (Int.ofNat_le.mpr few) room
  obtain ⟨db', hadd, mirrors'⟩ := mirrors.add timed.number hroom
  have hb : s.backend.add d = .ok (m.next, .memory (m.add d)) := by rw [hs]; rfl
  have hb' : t.backend.add d = .ok (m.next + 1, .database db') := by
    rw [ht, Backend.add, hadd]
    rfl
  have unstamped : s.backend.stamps d = false := by rw [hs]; rfl
  have unstamped' : t.backend.stamps d = false := by rw [ht]; exact timed.nonzero
  have hcount : (m.add d).records.length ≤ n + 1 := by
    simp only [Memory.add, List.length_append, List.length_singleton]
    omega
  refine ⟨_, _, _, h.original.add unstamped hb, h.image.add unstamped' hb', ?_,
    h.original.noteStored _ _, h.image.noteStored _ _⟩
  rw [backend_noteStored, backend_noteStored]
  exact ⟨m.add d, db', rfl, rfl, mirrors', hcount⟩

/-- Nothing keeps a call for a range from what is stored. -/
theorem range_eq : ∃ (m : Memory) (db : Database), db.Mirrors m ∧
    (∀ first upto, s.range first upto = .ok (between m.records first upto)) ∧
    ∀ first upto, t.range first upto = db.range first upto := by
  obtain ⟨m, db, hs, ht, mirrors, -⟩ := h.stores
  refine ⟨m, db, mirrors, fun first upto => ?_, fun first upto => ?_⟩
  · rw [h.original.range, hs]
    rfl
  · rw [h.image.range, ht]
    rfl

/-- Both give the same range, if its bounds are moved with the numbers. -/
theorem range {first upto : Int} (hfirst : Database.holds (first + 1) = true)
    (hupto : Database.holds (upto + 1) = true) :
    ∃ records, s.range first upto = .ok records ∧
      t.range (first + 1) (upto + 1) = .ok (records.map Record.raised) := by
  obtain ⟨m, db, mirrors, hs, ht⟩ := h.range_eq
  refine ⟨_, hs first upto, ?_⟩
  rw [ht, mirrors.range hfirst hupto, between_raised]

/-- A range from zero on needs no other lower bound, as a database has no record under zero. -/
theorem range_zero {upto : Int} (hupto : Database.holds (upto + 1) = true) :
    ∃ records, s.range 0 upto = .ok records ∧
      t.range 0 (upto + 1) = .ok (records.map Record.raised) := by
  obtain ⟨m, db, mirrors, hs, ht⟩ := h.range_eq
  refine ⟨_, hs 0 upto, ?_⟩
  rw [ht, mirrors.range (by decide) hupto, mirrors.between_zero, between_raised]

/-- What is noted in the journals makes no difference. -/
theorem log (channel channel' : Channel) (level level' : Level) (message message' : String) :
    (t.log channel' level' message').Mirrors (s.log channel level message) n :=
  ⟨h.stores, ⟨h.original.failing, h.original.arriving⟩, ⟨h.image.failing, h.image.arriving⟩⟩

end Mirrors

end Shared

end Promptline.Store
