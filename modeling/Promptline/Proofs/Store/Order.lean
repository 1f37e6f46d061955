import Promptline.Proofs.Store.Database
import Promptline.Store.Backend

/-! Stores that number their records in order.  A lasting store keeps what is written to it, and its
bound is above all numbers that it has given.  What a call or another program does to such a store
never lowers the bound. -/

namespace Promptline.Store

/-- The numbers grow from each record to the next. -/
def Ascending (records : List Record) : Prop := records.Pairwise fun a b => a.seq < b.seq

section Ascending

variable {records later : List Record} {r : Record}

theorem Ascending.append (h : Ascending records) (h' : Ascending later)
    (hlt : ∀ a ∈ records, ∀ b ∈ later, a.seq < b.seq) : Ascending (records ++ later) :=
  List.pairwise_append.mpr ⟨h, h', hlt⟩

theorem Ascending.concat (h : Ascending records) (hlt : ∀ a ∈ records, a.seq < r.seq) :
    Ascending (records ++ [r]) :=
  h.append (List.pairwise_singleton ..) fun a ha b hb => by
    rw [List.mem_singleton.mp hb]
    exact hlt a ha

theorem Ascending.filter (h : Ascending records) (p : Record → Bool) :
    Ascending (records.filter p) :=
  List.Pairwise.filter p h

/-- No other record has the number of `r`. -/
theorem Ascending.filter_seq (h : Ascending records) (hr : r ∈ records) :
    records.filter (·.seq = r.seq) = [r] := by
  induction records with
  | nil => cases hr
  | cons a rest ih =>
    obtain ⟨ha, hrest⟩ := List.pairwise_cons.mp h
    obtain rfl | hr := List.mem_cons.mp hr
    · have hnone : rest.filter (·.seq = r.seq) = [] := by
        refine List.filter_eq_nil_iff.mpr fun b hb => ?_
        have := ha b hb
        simp only [decide_eq_true_eq]
        omega
      rw [List.filter_cons_of_pos (by simp), hnone]
    · have hne : ¬decide (a.seq = r.seq) = true := by
        have := ha r hr
        simp only [decide_eq_true_eq]
        omega
      rw [List.filter_cons, if_neg hne]
      exact ih hrest hr

end Ascending

namespace Backend

/-- The records that a store holds. -/
def records : Backend → List Record
  | .memory m => m.records
  | .listing l => l.records
  | .database db => db.table.getD []

/-- A number above all that a store has given. -/
def bound : Backend → Int
  | .memory m => m.next
  | .listing l => l.next
  | .database db => (db.counter.getD none).getD 0 + 1

/-- A store that numbers its records itself and keeps them. -/
def IsLasting : Backend → Prop
  | .memory _ => True
  | .listing _ => False
  | .database db => db.IsLasting

/-- A lasting store whose records are in the order of their numbers, all of them below the bound. -/
structure Orderly (b : Backend) : Prop where
  lasting : b.IsLasting
  ascending : Ascending b.records
  below : ∀ r ∈ b.records, r.seq < b.bound

/-- What it means for a store to add a draft under the number `seq`. -/
structure Adds (b : Backend) (d : Draft) (seq : Int) (b' : Backend) : Prop where
  orderly : b'.Orderly
  records : b'.records = b.records ++ [d.numbered seq]
  fresh : b.bound ≤ seq
  counted : 0 ≤ seq
  bound : b'.bound = seq + 1

/-- What may become of a store while nobody removes any record but `gone`. -/
structure Leads (gone : Option Int) (b b' : Backend) : Prop where
  orderly : b'.Orderly
  bound : b.bound ≤ b'.bound
  kept : ∀ r ∈ b.records, gone ≠ some r.seq → r ∈ b'.records

/-- What may become of a store while nobody removes any record: what is new stands behind what was
there, under numbers from the bound on, and drafts are stamped as before. -/
structure Grows (b b' : Backend) : Prop where
  orderly : b'.Orderly
  bound : b.bound ≤ b'.bound
  records : ∃ later, b'.records = b.records ++ later ∧ ∀ r ∈ later, b.bound ≤ r.seq ∧ 0 ≤ r.seq
  stamps : ∀ d, b'.stamps d = b.stamps d

variable {gone : Option Int} {b b' b'' : Backend} {d : Draft} {seq first upto : Int}
  {rs : List Record}

theorem Leads.refl (h : b.Orderly) : Leads gone b b := ⟨h, Int.le_refl _, fun _ hr _ => hr⟩

theorem Adds.bound_le (h : Adds b d seq b') : b.bound ≤ b'.bound := by
  rw [h.bound]
  exact Int.le_trans h.fresh (Int.le_add_one (Int.le_refl seq))

theorem Adds.leads (h : Adds b d seq b') : Leads gone b b' := by
  refine ⟨h.orderly, h.bound_le, fun r hr _ => ?_⟩
  rw [h.records]
  exact List.mem_append_left _ hr

/-- An addition keeps the order, as its number is not below the bound. -/
theorem Orderly.adds (h : b.Orderly) (lasting : b'.IsLasting)
    (records : b'.records = b.records ++ [d.numbered seq]) (fresh : b.bound ≤ seq)
    (counted : 0 ≤ seq) (bound : b'.bound = seq + 1) : Adds b d seq b' := by
  have hlt : ∀ r ∈ b.records, r.seq < seq := fun r hr => Int.lt_of_lt_of_le (h.below r hr) fresh
  refine ⟨⟨lasting, ?_, ?_⟩, records, fresh, counted, bound⟩
  · rw [records]
    exact h.ascending.concat hlt
  · rw [records, bound]
    intro r hr
    obtain hr | hr := List.mem_append.mp hr
    · exact Int.lt_add_one_of_le (Int.le_of_lt (hlt r hr))
    · rw [List.mem_singleton.mp hr]
      exact Int.lt_succ seq

theorem Grows.same (h : b'.Orderly) (records : b'.records = b.records) (bound : b'.bound = b.bound)
    (stamps : ∀ d, b'.stamps d = b.stamps d) : Grows b b' := by
  refine ⟨h, Int.le_of_eq bound.symm, ⟨[], ?_, ?_⟩, stamps⟩
  · rw [records, List.append_nil]
  · intro r hr
    cases hr

theorem Grows.refl (h : b.Orderly) : Grows b b := .same h rfl rfl fun _ => rfl

theorem Grows.trans (h : Grows b b') (h' : Grows b' b'') : Grows b b'' := by
  obtain ⟨later, hrecords, hlater⟩ := h.records
  obtain ⟨later', hrecords', hlater'⟩ := h'.records
  refine ⟨h'.orderly, Int.le_trans h.bound h'.bound, ⟨later ++ later', ?_, ?_⟩, fun d => ?_⟩
  · rw [hrecords', hrecords, List.append_assoc]
  · intro r hr
    obtain hr | hr := List.mem_append.mp hr
    · exact hlater r hr
    · exact ⟨Int.le_trans h.bound (hlater' r hr).1, (hlater' r hr).2⟩
  · rw [h'.stamps, h.stamps]

theorem Grows.leads (h : Grows b b') : Leads gone b b' := by
  obtain ⟨later, hrecords, -⟩ := h.records
  refine ⟨h.orderly, h.bound, fun r hr _ => ?_⟩
  rw [hrecords]
  exact List.mem_append_left _ hr

theorem Adds.grows (h : Adds b d seq b') (stamps : ∀ d, b'.stamps d = b.stamps d) : Grows b b' := by
  refine ⟨h.orderly, h.bound_le, ⟨[d.numbered seq], h.records, fun r hr => ?_⟩, stamps⟩
  rw [List.mem_singleton.mp hr]
  exact ⟨h.fresh, h.counted⟩

/-- No record has a number below zero, from where every view begins. -/
def Counted (b : Backend) : Prop := ∀ r ∈ b.records, 0 ≤ r.seq

theorem Grows.counted (h : Grows b b') (counted : b.Counted) : b'.Counted := by
  obtain ⟨later, hrecords, hlater⟩ := h.records
  intro r hr
  rw [hrecords] at hr
  obtain hr | hr := List.mem_append.mp hr
  · exact counted r hr
  · exact (hlater r hr).2

/-- The records below a bound are those that a store held when it had this bound. -/
theorem Grows.between_bound (grows : Grows b b') (h : b.Orderly) (counted : b.Counted) :
    between b'.records 0 b.bound = b.records := by
  obtain ⟨later, hrecords, hlater⟩ := grows.records
  have old : between b.records 0 b.bound = b.records := by
    refine List.filter_eq_self.mpr fun r hr => ?_
    simp only [counted r hr, h.below r hr, decide_true, Bool.and_self]
  have new : between later 0 b.bound = [] := by
    refine List.filter_eq_nil_iff.mpr fun r hr => ?_
    have := (hlater r hr).1
    simp only [Bool.and_eq_true, decide_eq_true_eq]
    omega
  have split : between (b.records ++ later) 0 b.bound =
      between b.records 0 b.bound ++ between later 0 b.bound := List.filter_append ..
  rw [hrecords, split, old, new, List.append_nil]

theorem map_eq_ok {α β ε : Type} {f : α → β} {x : Except ε α} {y : β} (h : x.map f = .ok y) :
    ∃ a, x = .ok a ∧ f a = y := by
  cases x with
  | error e => cases h
  | ok a => exact ⟨a, rfl, Except.ok.inj h⟩

theorem map_eq_error {α β ε : Type} {f : α → β} {x : Except ε α} {e : ε} (h : x.map f = .error e) :
    x = .error e := by
  cases x with
  | error e' => exact congrArg Except.error (Except.error.inj h)
  | ok a => cases h

/-- A deletion brings no record. -/
theorem mem_of_delete {r : Record} (hdelete : b.onDatabase (·.delete seq) = .ok b')
    (hr : r ∈ b'.records) : r ∈ b.records := by
  cases b with
  | database db =>
    obtain ⟨db', hdb, rfl⟩ := map_eq_ok hdelete
    obtain ⟨rs, htable, rfl⟩ := Database.delete_eq hdb
    rw [Backend.records, htable]
    exact (List.mem_filter.mp hr).1
  | _ =>
    cases hdelete
    exact hr

/-! ### The calls of an orderly store -/

namespace Orderly

theorem add (h : b.Orderly) (hadd : b.add d = .ok (seq, b')) : Adds b d seq b' := by
  cases b with
  | memory m =>
    cases hadd
    refine h.adds trivial rfl (Int.le_refl _) (Int.natCast_nonneg _) ?_
    simp [Backend.bound, Memory.next, Memory.add]
  | listing l => exact absurd h.lasting id
  | database db =>
    obtain ⟨⟨n, db'⟩, hdb, heq⟩ := map_eq_ok hadd
    cases heq
    obtain ⟨records, htable, hcounter, hpos, rfl⟩ := Database.lt_add hdb
    refine h.adds h.lasting ?_ hcounter (Int.le_of_lt hpos) rfl
    simp [Backend.records, htable]

theorem next (h : b.Orderly) (hnext : b.next = .ok upto) : upto = b.bound := by
  cases b with
  | memory m => exact (Except.ok.inj hnext).symm
  | listing l => exact absurd h.lasting id
  | database db => exact Database.next_eq hnext

theorem range (h : b.Orderly) (hrange : b.range first upto = .ok rs) :
    rs = between b.records first upto := by
  cases b with
  | memory m => exact (Except.ok.inj hrange).symm
  | listing l => exact absurd h.lasting id
  | database db => exact Database.range_eq hrange

theorem add_grows (h : b.Orderly) (hadd : b.add d = .ok (seq, b')) : Grows b b' := by
  refine (h.add hadd).grows fun d' => ?_
  cases b with
  | memory m =>
    cases hadd
    rfl
  | listing l => exact absurd h.lasting id
  | database db =>
    obtain ⟨p, -, heq⟩ := map_eq_ok hadd
    cases heq
    rfl

/-- A database stays orderly while it keeps its records and its counter. -/
theorem database {db db' : Database} (h : (database db).Orderly) (lasting : db'.IsLasting)
    (htable : db'.table.getD [] = db.table.getD [])
    (hcounter : db'.counter.getD none = db.counter.getD none) :
    Grows (.database db) (.database db') := by
  have hrecords : (Backend.database db').records = (Backend.database db).records := htable
  have hbound : (Backend.database db').bound = (Backend.database db).bound := by
    rw [Backend.bound, Backend.bound, hcounter]
  refine .same ⟨lasting, ?_, ?_⟩ hrecords hbound fun _ => rfl
  · rw [hrecords]
    exact h.ascending
  · rw [hrecords, hbound]
    exact h.below

theorem attach (h : b.Orderly) (hattach : b.attach = .ok b') : Grows b b' := by
  cases b with
  | memory m =>
    cases hattach
    exact .refl h
  | listing l => exact absurd h.lasting id
  | database db =>
    obtain ⟨db', hdb, rfl⟩ := map_eq_ok hattach
    obtain ⟨htable, hcounter, hplace, hthen⟩ := Database.attach_eq hdb
    exact h.database (h.lasting.of_opened hplace hthen) htable hcounter

/-- Another program takes a lock on the database, if there is one. -/
theorem takeLock (h : b.Orderly) {lock : Lock}
    (htake : b.onDatabase (·.takeLock lock) = .ok b') : Grows b b' := by
  cases b with
  | memory m =>
    cases htake
    exact .refl h
  | listing l => exact absurd h.lasting id
  | database db =>
    obtain ⟨db', hdb, rfl⟩ := map_eq_ok htake
    obtain ⟨htable, hcounter, hplace, hthen⟩ := Database.takeLock_eq hdb
    exact h.database (h.lasting.of_opened hplace hthen) (by rw [htable]) (by rw [hcounter])

/-- Another program gives its lock back. -/
theorem releaseLock (h : b.Orderly) (hrelease : b.onDatabase (.ok ·.releaseLock) = .ok b') :
    Grows b b' := by
  cases b with
  | memory m =>
    cases hrelease
    exact .refl h
  | listing l => exact absurd h.lasting id
  | database db =>
    cases hrelease
    have hdb : db.releaseLock = { db with lock := none } := if_neg h.lasting.1
    rw [hdb]
    exact h.database h.lasting rfl rfl

/-- Another program deletes a record. -/
theorem delete (h : b.Orderly) (hdelete : b.onDatabase (·.delete seq) = .ok b') :
    Leads (some seq) b b' := by
  cases b with
  | memory m =>
    cases hdelete
    exact .refl h
  | listing l => exact absurd h.lasting id
  | database db =>
    obtain ⟨db', hdb, rfl⟩ := map_eq_ok hdelete
    obtain ⟨rs, htable, rfl⟩ := Database.delete_eq hdb
    have hrecords : (Backend.database db).records = rs := by rw [Backend.records, htable]; rfl
    have hfiltered : ∀ r ∈ rs.filter (·.seq ≠ seq), r ∈ rs := fun r hr => (List.mem_filter.mp hr).1
    refine ⟨⟨h.lasting, ?_, fun r hr => ?_⟩, Int.le_refl _, fun r hr hne => ?_⟩
    · exact (hrecords ▸ h.ascending).filter _
    · exact h.below r (hrecords ▸ hfiltered r hr)
    · have hseq : r.seq ≠ seq := fun heq => hne (congrArg some heq.symm)
      exact List.mem_filter.mpr ⟨hrecords ▸ hr, decide_eq_true hseq⟩

end Orderly

end Backend

end Promptline.Store
