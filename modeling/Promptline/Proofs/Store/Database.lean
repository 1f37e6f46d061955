import Promptline.Store.Database

/-! What the calls of a database, and other programs, do to its table and to its counter. -/

namespace Promptline.Store

/-- What is written to a database is not lost when a call ends. -/
def Database.IsLasting (db : Database) : Prop :=
  db.place ≠ .transient ∧ db.placeThen ≠ some .transient

theorem le_foldl_max (ns : List Int) (n : Int) : n ≤ ns.foldl max n := by
  induction ns generalizing n with
  | nil => exact Int.le_refl n
  | cons m ns ih => exact Int.le_trans (Int.le_max_left n m) (ih (max n m))

namespace Database

variable {db db' : Database} {d : Draft} {seq upto first : Int} {records : List Record}

theorem tableNow_eq_some (htable : db.tableNow = some records) :
    db.placeNow = .file ∧ db.table = some records := by
  unfold tableNow at htable
  split at htable
  · next hplace => exact ⟨hplace, htable⟩
  · cases htable

theorem counterNow_eq_some {last : Option Int} (hcounter : db.counterNow = some last) :
    db.counter = some last := by
  unfold counterNow at hcounter
  split at hcounter
  · exact hcounter
  · cases hcounter

theorem IsLasting.opened (h : db.IsLasting) : db.opened.IsLasting := by
  refine ⟨?_, h.2⟩
  cases hthen : db.placeThen with
  | none => simpa [Database.opened, hthen] using h.1
  | some place =>
    intro hplace
    refine h.2 ?_
    rw [hthen, ← hplace, Database.opened, hthen]
    rfl

theorem IsLasting.of_opened (h : db.IsLasting) (hplace : db'.place = db.opened.place)
    (hthen : db'.placeThen = db.placeThen) : db'.IsLasting := by
  have := h.opened
  exact ⟨hplace ▸ this.1, hthen ▸ h.2⟩

/-- The next number is above the counter, and positive. -/
theorem lt_add (hadd : db.add d = .ok (seq, db')) :
    ∃ records, db.table = some records ∧ (db.counter.getD none).getD 0 < seq ∧ 0 < seq ∧
      db' = { db with
        table := some (records ++ [d.numbered seq]), counter := some (some seq) } := by
  unfold add at hadd
  split at hadd
  · cases hadd
  · cases hadd
  · next records _ htable =>
    obtain ⟨hplace, htable⟩ := tableNow_eq_some htable
    simp only at hadd
    split at hadd
    · cases hadd
    · cases hadd
      have hlast := le_foldl_max (records.map Record.seq) (max 0 ((db.counterNow.getD none).getD 0))
      rw [counterNow, if_pos hplace] at hlast ⊢
      refine ⟨records, htable, ?_, ?_, rfl⟩
      · exact Int.lt_add_one_of_le (Int.le_trans (Int.le_max_right _ _) hlast)
      · exact Int.lt_add_one_of_le (Int.le_trans (Int.le_max_left _ _) hlast)

theorem next_cases (hnext : db.next = .ok seq) :
    ∃ last, db.counter = some last ∧ seq = last.getD 0 + 1 := by
  unfold next at hnext
  split at hnext
  · cases hnext
  · cases hnext
  · next last _ hcounter =>
    cases hnext
    exact ⟨last, counterNow_eq_some hcounter, rfl⟩

theorem next_eq (hnext : db.next = .ok seq) : seq = (db.counter.getD none).getD 0 + 1 := by
  obtain ⟨last, hcounter, rfl⟩ := next_cases hnext
  rw [hcounter]
  rfl

theorem range_eq (hrange : db.range first upto = .ok records) :
    records = between (db.table.getD []) first upto := by
  unfold range at hrange
  split at hrange
  · cases hrange
  · cases hrange
  · next rs _ htable =>
    split at hrange
    · cases hrange
      rw [(tableNow_eq_some htable).2]
      rfl
    · cases hrange

/-- Opening a database makes its file, and an empty table if there is none. -/
theorem attach_cases (hattach : db.attach = .ok db') :
    db' = db.opened ∨ db.table = none ∧
      db' = { db.opened with table := some [], counter := some (db.counter.getD none) } := by
  unfold attach at hattach
  split at hattach
  · cases hattach
  · cases hattach
  · split at hattach
    · cases hattach
      exact .inl rfl
    · next hmissing =>
      rw [not_or, Option.not_isSome_iff_eq_none] at hmissing
      split at hattach
      · cases hattach
      · cases hattach
        exact .inr ⟨hmissing.2, rfl⟩

theorem attach_eq (hattach : db.attach = .ok db') :
    db'.table.getD [] = db.table.getD [] ∧ db'.counter.getD none = db.counter.getD none ∧
      db'.place = db.opened.place ∧ db'.placeThen = db.placeThen := by
  obtain rfl | ⟨htable, rfl⟩ := attach_cases hattach
  · exact ⟨rfl, rfl, rfl, rfl⟩
  · exact ⟨by rw [htable]; rfl, rfl, rfl, rfl⟩

/-- A lock that another program takes leaves the records alone. -/
theorem takeLock_eq {lock : Lock} (htake : db.takeLock lock = .ok db') :
    db'.table = db.table ∧ db'.counter = db.counter ∧ db'.place = db.opened.place ∧
      db'.placeThen = db.placeThen := by
  suffices db' = { db.opened with lock := (db.lock.getD lock).stronger lock } by
    rw [this]
    exact ⟨rfl, rfl, rfl, rfl⟩
  unfold takeLock at htake
  split at htake
  · cases htake
  · cases htake
    rfl
  · cases htake
  · split at htake <;> cases htake
    rfl
  · dsimp only at htake
    split at htake <;> cases htake
    rfl
  · dsimp only at htake
    split at htake <;> cases htake
    rfl

/-- A change from outside is made to what is there. -/
theorem change_eq {α : Type} {name table : String} {content : Option α} {f : α → Database}
    (hchange : db.change name table content seq f = .ok db') :
    ∃ c, content = some c ∧ db' = f c := by
  unfold change at hchange
  split at hchange
  · cases hchange
  · cases hchange
  · next c _ =>
    split at hchange
    · cases hchange
    · split at hchange
      · cases hchange
      · cases hchange
        exact ⟨c, rfl, rfl⟩

/-- A deletion leaves everything alone but the record that it removes. -/
theorem delete_eq (hdelete : db.delete seq = .ok db') :
    ∃ records, db.table = some records ∧
      db' = { db with table := some (records.filter (·.seq ≠ seq)) } := by
  obtain ⟨records, htable, rfl⟩ := change_eq hdelete
  exact ⟨records, (tableNow_eq_some htable).2, rfl⟩

end Database

end Promptline.Store
