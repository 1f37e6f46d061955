import Promptline.Proofs.Store.Mirror
import Promptline.Proofs.Store.Origin

/-! The numbers that a store gives.  They grow from each addition to the next, whatever is deleted
and whatever fails in between, so no number is given twice.  What a store announces as the next number
is what the next addition gets: both are its bound. -/

namespace Promptline.Store

open Promptline.Directory

/-- The number of a new record follows the largest one that has been given. -/
theorem Database.add_eq_largest {db db' : Database} {d : Draft} {seq : Int}
    (hadd : db.add d = .ok (seq, db')) :
    ∃ records, db.table = some records ∧ seq = largest (db.counter.getD none) records + 1 := by
  unfold add at hadd
  split at hadd
  · cases hadd
  · cases hadd
  · next records _ htable =>
    obtain ⟨hplace, htable⟩ := tableNow_eq_some htable
    simp only at hadd
    split at hadd
    · cases hadd
    · cases hadd
      rw [counterNow, if_pos hplace]
      exact ⟨records, htable, rfl⟩

/-- What another program does leaves the counter alone. -/
def Interference.SparesCounter : Interference → Prop
  | .setCounter _ | .drop => False
  | .lock _ | .unlock | .delete _ | .overwrite => True

namespace Backend

/-- The number of the first record of a store. -/
def first : Backend → Int
  | .memory _ | .listing _ => 0
  | .database _ => 1

/-- An orderly store that gives its bound as the next number. -/
structure Exact (b : Backend) : Prop where
  orderly : b.Orderly
  first : b.first ≤ b.bound

variable {b b' : Backend} {d : Draft} {seq n : Int}

theorem IsNew.exact (h : b.IsNew) (lasting : b.IsLasting) : b.Exact := by
  cases h with
  | memory texts => exact ⟨orderly_ofTexts texts, Int.natCast_nonneg _⟩
  | listing l => exact lasting.elim
  | database t garbled path =>
    refine ⟨orderly_at t garbled path lasting, ?_⟩
    have unwritten := Database.unwritten_at t garbled path
    have hcounter : (Database.at t garbled path).counter = none :=
      Decidable.not_not.mp fun hcounter => unwritten (.inr hcounter)
    rw [bound, hcounter]
    exact Int.le_refl 1

namespace Exact

theorem next (h : b.Exact) (hnext : b.next = .ok n) : n = b.bound := h.orderly.next hnext

/-- A new record gets the bound as its number, as no record and no counter lies above it. -/
theorem eq_bound_of_add (h : b.Exact) (hadd : b.add d = .ok (seq, b')) : seq = b.bound := by
  cases b with
  | memory m =>
    cases hadd
    rfl
  | listing l => exact absurd h.orderly.lasting id
  | database db =>
    obtain ⟨⟨k, db'⟩, hdb, heq⟩ := map_eq_ok hadd
    cases heq
    obtain ⟨records, htable, rfl⟩ := Database.add_eq_largest hdb
    have hrecords : (Backend.database db).records = records := by
      rw [Backend.records, htable]
      rfl
    -- The counter is not negative and no record lies above it, so it is the largest number given.
    have counted : 0 ≤ (db.counter.getD none).getD 0 := by
      have : (1 : Int) ≤ (db.counter.getD none).getD 0 + 1 := h.first
      omega
    have below : ∀ k ∈ records.map Record.seq, k ≤ (db.counter.getD none).getD 0 := by
      intro k hk
      obtain ⟨r, hr, rfl⟩ := List.mem_map.mp hk
      have : r.seq < (db.counter.getD none).getD 0 + 1 := h.orderly.below r (hrecords ▸ hr)
      omega
    rw [Database.largest, Int.max_eq_right counted, foldl_max_of_le below]
    rfl

theorem add (h : b.Exact) (hadd : b.add d = .ok (seq, b')) : b'.Exact ∧ b'.bound = seq + 1 := by
  have adds := h.orderly.add hadd
  refine ⟨⟨adds.orderly, ?_⟩, adds.bound⟩
  have same : b'.first = b.first := by
    cases b with
    | memory m | listing l =>
      cases hadd
      rfl
    | database db =>
      obtain ⟨p, -, heq⟩ := map_eq_ok hadd
      cases heq
      rfl
  rw [same]
  exact Int.le_trans h.first adds.bound_le

/-- A database is exact while its records stay below its counter and the counter stays where it
is. -/
theorem database {db db' : Database} (h : (Backend.database db).Exact)
    (orderly : (Backend.database db').Orderly)
    (hcounter : db'.counter.getD none = db.counter.getD none) :
    (Backend.database db').Exact ∧ (Backend.database db').bound = (Backend.database db).bound := by
  have same : (Backend.database db').bound = (Backend.database db).bound := by
    rw [bound, bound, hcounter]
  refine ⟨⟨orderly, ?_⟩, same⟩
  rw [same]
  exact h.first

theorem attach (h : b.Exact) (hattach : b.attach = .ok b') : b'.Exact ∧ b'.bound = b.bound := by
  have grows := h.orderly.attach hattach
  cases b with
  | database db =>
    obtain ⟨db', hdb, rfl⟩ := map_eq_ok hattach
    obtain ⟨-, hcounter, -⟩ := Database.attach_eq hdb
    exact h.database grows.orderly hcounter
  | _ =>
    cases hattach
    exact ⟨h, rfl⟩

/-- Locks and deletions leave the bound where it is. -/
theorem interfere (h : b.Exact) {x : Interference} (spared : x.SparesCounter)
    (hx : b.onDatabase x.change = .ok b') : b'.Exact ∧ b'.bound = b.bound := by
  cases b with
  | database db =>
    obtain ⟨db', hdb, rfl⟩ := map_eq_ok hx
    cases x with
    | lock lock =>
      obtain ⟨-, hcounter, -⟩ := Database.takeLock_eq hdb
      exact h.database (h.orderly.takeLock hx).orderly (by rw [hcounter])
    | unlock =>
      have orderly := (h.orderly.releaseLock hx).orderly
      cases hdb
      refine h.database orderly ?_
      rw [Database.releaseLock, if_neg h.orderly.lasting.1]
    | delete seq =>
      have orderly := (h.orderly.delete hx).orderly
      obtain ⟨records, -, rfl⟩ := Database.delete_eq hdb
      exact h.database orderly rfl
    | overwrite =>
      simp only [Interference.change, Database.overwrite] at hdb
      split at hdb <;> cases hdb
      let garbled := { db with garbled := db.garbled || db.isFile }
      have grows : Grows (.database db) (.database garbled) :=
        h.orderly.database h.orderly.lasting rfl rfl
      exact h.database grows.orderly rfl
    | setCounter | drop => exact spared.elim
  | _ =>
    cases hx
    exact ⟨h, rfl⟩

end Exact

/-- The numbers that drafts get which are added one after another. -/
def givenTo (b : Backend) : List Draft → List Int
  | [] => []
  | d :: ds =>
    match b.add d with
    | .error _ => b.givenTo ds
    | .ok (seq, b) => seq :: b.givenTo ds

end Backend

/-- `ns` grow from `low` on and stay below `high`, which is `low` if there are none. -/
structure Rising (low : Int) (ns : List Int) (high : Int) : Prop where
  ascending : ns.Pairwise (· < ·)
  within : ∀ n ∈ ns, low ≤ n ∧ n < high
  le : low ≤ high
  still : ns = [] → high = low

namespace Rising

variable {low middle high : Int} {ns ms : List Int}

theorem nil (low : Int) : Rising low [] low :=
  ⟨List.Pairwise.nil, fun _ hn => (List.not_mem_nil hn).elim, Int.le_refl _, fun _ => rfl⟩

theorem singleton (n : Int) : Rising n [n] (n + 1) := by
  refine ⟨List.pairwise_singleton .., fun m hm => ?_, by omega, fun h => by cases h⟩
  rw [List.mem_singleton.mp hm]
  omega

theorem append (h : Rising low ns middle) (h' : Rising middle ms high) :
    Rising low (ns ++ ms) high := by
  refine ⟨List.pairwise_append.mpr ⟨h.ascending, h'.ascending, ?_⟩, ?_, Int.le_trans h.le h'.le, ?_⟩
  · intro n hn m hm
    have := (h.within n hn).2
    have := (h'.within m hm).1
    omega
  · intro n hn
    have := h.le
    have := h'.le
    rcases List.mem_append.mp hn with hn | hn
    · have := h.within n hn
      omega
    · have := h'.within n hn
      omega
  · intro hnil
    obtain ⟨hns, hms⟩ := List.append_eq_nil_iff.mp hnil
    rw [h'.still hms, h.still hns]

end Rising

/-- What happens to a store that sessions and other writers share. -/
inductive Occurrence where
  /-- A session or another writer prepares the store. -/
  | attach
  | next
  | add (d : Draft)
  /-- From now on the store fails in these calls. -/
  | fail (calls : List (Call × String))
  /-- These drafts arrive right after the next number is read. -/
  | arrive (ds : List Draft)
  | interfere (x : Interference)
  /-- The clock moves on and something is logged. -/
  | note (clock : Clock) (journal : Journal)

/-- Other programs leave the counter alone. -/
def Occurrence.SparesCounter : Occurrence → Prop
  | .interfere x => x.SparesCounter
  | _ => True

namespace Shared

/-- The store after an occurrence. -/
def after (s : Shared) : Occurrence → Shared
  | .attach => s.attach.2
  | .next => s.next.2
  | .add d => (s.add d).2
  | .fail calls => { s with failing := calls }
  | .arrive ds => { s with arriving := ds }
  | .interfere x => { s with backend := s.backend.after (.interfere x) }
  | .note clock journal => { s with clock := clock, journal := journal }

/-- The numbers that records get in an occurrence. -/
def given (s : Shared) : Occurrence → List Int
  | .add d =>
    match (s.add d).1 with
    | .ok seq => [seq]
    | .error _ => []
  | .next =>
    match s.next.1 with
    | .ok _ => s.backend.givenTo s.arriving
    | .error _ => []
  | _ => []

/-- The store after occurrences in order. -/
def run (s : Shared) (occurrences : List Occurrence) : Shared := occurrences.foldl after s

/-- The numbers that records get in occurrences in order. -/
def givenIn (s : Shared) : List Occurrence → List Int
  | [] => []
  | o :: occurrences => s.given o ++ (s.after o).givenIn occurrences

/-- A store that stays exact, and its bound rises over the numbers `ns`. -/
structure Numbers (s : Shared) (ns : List Int) (s' : Shared) : Prop where
  exact : s'.backend.Exact
  rising : Rising s.backend.bound ns s'.backend.bound

variable {s s' : Shared} {o : Occurrence} {occurrences : List Occurrence}

theorem Numbers.of_bound (kept : s'.backend.Exact ∧ s'.backend.bound = s.backend.bound) :
    s.Numbers [] s' := by
  refine ⟨kept.1, ?_⟩
  rw [kept.2]
  exact .nil _

/-- A record gets the bound of the store, which rises above it. -/
theorem add_at_bound (h : s.backend.Exact) {d : Draft} {seq : Int}
    (hadd : s.add d = (.ok seq, s')) :
    seq = s.backend.bound ∧ s'.backend.Exact ∧ s'.backend.bound = seq + 1 := by
  unfold add at hadd
  simp only at hadd
  split at hadd
  · cases hadd
  · cases hadd
  · next n b _ hb =>
    cases hadd
    rw [backend_noteStored]
    exact ⟨h.eq_bound_of_add hb, h.add hb⟩

theorem numbers_add (h : s.backend.Exact) (d : Draft) :
    s.Numbers (s.given (.add d)) (s.after (.add d)) := by
  simp only [given, after]
  cases hadd : s.add d with
  | mk result s' =>
    cases result with
    | error f => exact .of_bound (by rw [add_eq_error hadd]; exact ⟨h, rfl⟩)
    | ok seq =>
      obtain ⟨rfl, exact, hbound⟩ := add_at_bound h hadd
      refine ⟨exact, ?_⟩
      rw [hbound]
      exact .singleton _

/-- What arrives gets numbers like anything else. -/
theorem rising_foldl_receive {b : Backend} (h : b.Exact) (ds : List Draft) :
    (ds.foldl receive b).Exact ∧ Rising b.bound (b.givenTo ds) (ds.foldl receive b).bound := by
  induction ds generalizing b with
  | nil => exact ⟨h, .nil _⟩
  | cons d ds ih =>
    rw [List.foldl_cons, receive, Backend.givenTo]
    cases hadd : b.add d with
    | error f => exact ih h
    | ok p =>
      obtain ⟨seq, b'⟩ := p
      obtain rfl := h.eq_bound_of_add hadd
      obtain ⟨exact, hbound⟩ := h.add hadd
      obtain ⟨later, rising⟩ := ih exact
      rw [hbound] at rising
      exact ⟨later, (Rising.singleton _).append rising⟩

theorem numbers_next (h : s.backend.Exact) : s.Numbers (s.given .next) (s.after .next) := by
  simp only [given, after]
  cases hnext : s.next with
  | mk result s' =>
    cases result with
    | error f => exact .of_bound (by rw [next_eq_error hnext]; exact ⟨h, rfl⟩)
    | ok n =>
      obtain ⟨exact, rising⟩ := rising_foldl_receive h s.arriving
      rw [← backend_of_next hnext] at exact rising
      exact ⟨exact, rising⟩

/-- The numbers that one occurrence gives lie between the bounds before and after it. -/
theorem numbers_after (h : s.backend.Exact) (spared : o.SparesCounter) :
    s.Numbers (s.given o) (s.after o) := by
  cases o with
  | attach =>
    refine .of_bound ?_
    simp only [after, attach]
    cases hattach : s.backend.attach with
    | error f => exact ⟨h, rfl⟩
    | ok b => exact h.attach hattach
  | next => exact numbers_next h
  | add d => exact numbers_add h d
  | fail | arrive | note => exact .of_bound ⟨h, rfl⟩
  | interfere x =>
    refine .of_bound ?_
    simp only [after, Backend.after]
    cases hx : s.backend.outcome (.interfere x) with
    | error f => exact ⟨h, rfl⟩
    | ok b => exact h.interfere spared hx

theorem run_append (s : Shared) (first second : List Occurrence) :
    s.run (first ++ second) = (s.run first).run second :=
  List.foldl_append

theorem eq_bound_of_next (h : s.backend.Exact) {n : Int} (hnext : s.next.1 = .ok n) :
    n = s.backend.bound := by
  cases hout : s.next with
  | mk result s' =>
    rw [hout] at hnext
    cases hnext
    exact (next_eq_ok h.orderly hout).1

theorem eq_bound_of_add (h : s.backend.Exact) {d : Draft} {seq : Int}
    (hadd : (s.add d).1 = .ok seq) : seq = s.backend.bound := by
  cases hout : s.add d with
  | mk result s' =>
    rw [hout] at hadd
    cases hadd
    exact (add_at_bound h hout).1

theorem numbers_run (h : s.backend.Exact) (spared : ∀ o ∈ occurrences, o.SparesCounter) :
    s.Numbers (s.givenIn occurrences) (s.run occurrences) := by
  induction occurrences generalizing s with
  | nil => exact ⟨h, .nil _⟩
  | cons o occurrences ih =>
    obtain ⟨ho, hrest⟩ := List.forall_mem_cons.mp spared
    have first := numbers_after h ho
    have rest := ih first.exact hrest
    exact ⟨rest.exact, first.rising.append rest.rising⟩

/-- However sessions and other writers use a store that lasts, whatever fails, and whichever records
and locks come and go in a database, as long as nobody drops its table or sets its counter: the
numbers that records get grow over the whole run.  If the store has announced a number and has given
none since, the next record that it takes gets the announced one. -/
theorem numbering_run {start : Shared} (isNew : start.backend.IsNew)
    (lasting : start.backend.IsLasting) {occurrences : List Occurrence}
    (spared : ∀ o ∈ occurrences, o.SparesCounter) :
    (start.givenIn occurrences).Pairwise (· < ·) ∧
    ∀ before during n d seq, occurrences = before ++ .next :: during →
      (start.run before).next.1 = .ok n → (start.run before).givenIn (.next :: during) = [] →
      ((start.run occurrences).add d).1 = .ok seq → seq = n := by
  have exact := isNew.exact lasting
  refine ⟨(numbers_run exact spared).rising.ascending, ?_⟩
  rintro before during n d seq rfl hnext idle hadd
  obtain ⟨sparedBefore, sparedAfter⟩ := List.forall_mem_append.mp spared
  have reached : (start.run before).backend.Exact := (numbers_run exact sparedBefore).exact
  have announced : n = (start.run before).backend.bound := eq_bound_of_next reached hnext
  have later := numbers_run reached sparedAfter
  have still := later.rising.still idle
  rw [run_append] at hadd
  have given : seq = ((start.run before).run (.next :: during)).backend.bound :=
    eq_bound_of_add later.exact hadd
  rw [given, still, announced]

/-- A database to which nobody has written yet. -/
def untouched : Shared := { backend := .database (.at {} [] "hist.db"), clock := ⟨1000⟩ }

/-- A command is stored and then another one, which is deleted again.  The file is locked when
somebody reads the next number. -/
def newestDeleted : List Occurrence :=
  [.attach, .add ⟨"make", .ofNat 7, "/src"⟩, .arrive [⟨"ls", .zero, ""⟩], .next,
    .interfere (.delete 2), .interfere (.lock .shared)]

/-- `top` cannot be stored.  The lock is given back, and there is nothing left to delete. -/
def unlockedAfter : List Occurrence :=
  [.add ⟨"top", .zero, "/"⟩, .interfere .unlock, .attach, .interfere (.delete 2)]

theorem numbering_newestDeleted :
    let occurrences := newestDeleted ++ .next :: unlockedAfter
    untouched.backend.IsNew ∧ untouched.backend.IsLasting ∧
      (∀ o ∈ occurrences, o.SparesCounter) ∧
      untouched.givenIn occurrences = [1, 2] ∧
      (untouched.givenIn occurrences).Pairwise (· < ·) ∧
      (untouched.run newestDeleted).next.1 = .ok 3 ∧
      ∃ seq, ((untouched.run occurrences).add ⟨"pwd", .zero, "/"⟩).1 = .ok seq ∧ seq = 3 := by
  intro occurrences
  have isNew : untouched.backend.IsNew := .database {} [] "hist.db"
  have lasting : untouched.backend.IsLasting := Database.isLasting_at {} [] "hist.db" fun a ha => by
    cases ha
    rfl
  have spared : ∀ o ∈ occurrences, o.SparesCounter := by
    simp [occurrences, newestDeleted, unlockedAfter, Occurrence.SparesCounter,
      Interference.SparesCounter]
  have announced : (untouched.run newestDeleted).next.1 = .ok 3 := by rfl
  have idle : (untouched.run newestDeleted).givenIn (.next :: unlockedAfter) = [] := by rfl
  obtain ⟨ascending, predicted⟩ := numbering_run isNew lasting spared
  have added : ((untouched.run (newestDeleted ++ .next :: unlockedAfter)).add
      ⟨"pwd", .zero, "/"⟩).1 = .ok 3 := by rfl
  refine ⟨isNew, lasting, spared, by rfl, ascending, announced, 3, added, ?_⟩
  exact predicted newestDeleted unlockedAfter 3 _ 3 rfl announced idle added

end Shared

end Promptline.Store
