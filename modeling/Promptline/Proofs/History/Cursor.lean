import Promptline.History.Cursor

/-! Where a cursor gets by moves, and the records that moves in one direction give. -/

namespace Promptline.History

open Promptline.Store

namespace Cursor

/-- A direction in which a cursor moves by one record. -/
inductive Move where
  | older | newer

/-- Moves in a direction and gives the record there. -/
def move (c : Cursor) : Move → Except CursorFault Record × Cursor
  | .older => c.older
  | .newer => c.newer

/-- The cursor after moves in order. -/
def after (c : Cursor) (moves : List Move) : Cursor := moves.foldl (fun c m => (c.move m).2) c

/-- The records that up to `n` moves in one direction give, until one fails. -/
def trail (m : Move) : (n : Nat) → Cursor → List Record
  | 0, _ => []
  | n + 1, c =>
    match c.move m with
    | (.ok r, c) => r :: trail m n c
    | (.error _, _) => []

/-- The records from the `n`-th older one over the one under the cursor to the `m`-th newer one, as
far as moves give them. -/
def around (c : Cursor) (n m : Nat) : List Record :=
  (trail .older n c).reverse ++ c.get.toOption.toList ++ trail .newer m c

variable {c : Cursor}

/-! ### One move -/

theorem older_of_succ {p : Nat} (hp : c.position = p + 1) (hlt : p < c.records.length) :
    c.older = (.ok c.records[p], { c with position := p }) := by
  simp only [older, hp, List.getElem?_eq_getElem hlt]

theorem newer_of_lt (hlt : c.position + 1 < c.records.length) :
    c.newer = (.ok c.records[c.position + 1], { c with position := c.position + 1 }) := by
  simp only [newer, List.getElem?_eq_getElem hlt]

theorem newer_of_ge (hge : c.records.length ≤ c.position + 1) :
    c.newer = (.error .noNewer, c) := by
  simp only [newer, List.getElem?_eq_none hge]

/-- A move leaves the records alone and the position among them. -/
theorem move_bounded (hle : c.position ≤ c.records.length) (m : Move) :
    (c.move m).2.records = c.records ∧ (c.move m).2.position ≤ c.records.length := by
  cases m with
  | older =>
    cases hp : c.position with
    | zero => simp [move, older, hp]
    | succ p =>
      have hlt : p < c.records.length := by omega
      rw [move, older_of_succ hp hlt]
      exact ⟨rfl, Nat.le_of_lt hlt⟩
  | newer =>
    by_cases hlt : c.position + 1 < c.records.length
    · rw [move, newer_of_lt hlt]
      exact ⟨rfl, Nat.le_of_lt hlt⟩
    · rw [move, newer_of_ge (Nat.le_of_not_lt hlt)]
      exact ⟨rfl, hle⟩

/-! ### Many moves -/

theorem after_bounded (hle : c.position ≤ c.records.length) (moves : List Move) :
    (c.after moves).records = c.records ∧ (c.after moves).position ≤ c.records.length := by
  induction moves generalizing c with
  | nil => exact ⟨rfl, hle⟩
  | cons m moves ih =>
    obtain ⟨hrecords, hbound⟩ := move_bounded hle m
    have rest := ih (hrecords ▸ hbound)
    rw [hrecords] at rest
    exact rest

/-- Moves to older records give what lies before the position, newest first. -/
theorem trail_older (hle : c.position ≤ c.records.length) (n : Nat) :
    trail .older n c = (c.records.take c.position).reverse.take n := by
  induction n generalizing c with
  | zero => rfl
  | succ n ih =>
    cases hp : c.position with
    | zero => simp [trail, move, older, hp]
    | succ p =>
      have hlt : p < c.records.length := by omega
      rw [trail, move, older_of_succ hp hlt, List.take_succ_eq_append_getElem hlt,
        List.reverse_append, List.reverse_singleton, List.singleton_append, List.take_succ_cons]
      exact congrArg _ (@ih { c with position := p } (Nat.le_of_lt hlt))

/-- All that moves to older records give, from a position on. -/
theorem walk_eq {records : List Record} {p : Nat} (hle : p ≤ records.length) :
    walk records p = (records.take p).reverse := by
  induction p with
  | zero => rfl
  | succ p ih =>
    have hlt : p < records.length := hle
    rw [walk, List.getElem?_eq_getElem hlt, List.take_succ_eq_append_getElem hlt,
      List.reverse_append, List.reverse_singleton, List.singleton_append]
    exact congrArg _ (ih (Nat.le_of_lt hlt))

/-- A new cursor walks back over all records that match. -/
theorem olderAll_ofRecords (lead : String) (records : List Record) :
    (ofRecords lead records).olderAll.reverse = matching lead records := by
  rw [olderAll, ofRecords, walk_eq (Nat.le_refl _), List.take_length, List.reverse_reverse]

/-- Moves to newer records give what lies behind the record under the cursor. -/
theorem trail_newer (c : Cursor) (n : Nat) :
    trail .newer n c = (c.records.drop (c.position + 1)).take n := by
  induction n generalizing c with
  | zero => rfl
  | succ n ih =>
    rw [trail, move]
    by_cases hlt : c.position + 1 < c.records.length
    · rw [newer_of_lt hlt, List.drop_eq_getElem_cons hlt, List.take_succ_cons]
      exact congrArg _ (ih { c with position := c.position + 1 })
    · have hge := Nat.le_of_not_lt hlt
      rw [newer_of_ge hge, List.drop_eq_nil_of_le hge]
      rfl

theorem toList_get (c : Cursor) : c.get.toOption.toList = (c.records.drop c.position).take 1 := by
  unfold get
  by_cases hlt : c.position < c.records.length
  · rw [List.getElem?_eq_getElem hlt, List.drop_eq_getElem_cons hlt]
    rfl
  · have hge := Nat.le_of_not_lt hlt
    rw [List.getElem?_eq_none hge, List.drop_eq_nil_of_le hge]
    rfl

/-- Some of the records in their order. -/
theorem around_sublist (hle : c.position ≤ c.records.length) (n m : Nat) :
    (c.around n m).Sublist c.records := by
  have before : (trail .older n c).reverse.Sublist (c.records.take c.position) := by
    rw [trail_older hle, ← List.reverse_sublist, List.reverse_reverse]
    exact List.take_sublist ..
  have behind : (trail .newer m c).Sublist ((c.records.drop c.position).drop 1) := by
    rw [trail_newer, List.drop_drop]
    exact List.take_sublist ..
  have parts := before.append
    ((List.Sublist.refl ((c.records.drop c.position).take 1)).append behind)
  rwa [List.take_append_drop, List.take_append_drop, ← toList_get, ← List.append_assoc] at parts

/-- As many moves as there are records give them all, wherever the cursor stands. -/
theorem around_length (hle : c.position ≤ c.records.length) :
    c.around c.length c.length = c.records := by
  have before : (trail .older c.length c).reverse = c.records.take c.position := by
    rw [trail_older hle, List.take_of_length_le, List.reverse_reverse]
    simp only [List.length_reverse, List.length_take, length]
    omega
  have behind : trail .newer c.length c = (c.records.drop c.position).drop 1 := by
    rw [trail_newer, List.drop_drop, List.take_of_length_le]
    simp only [List.length_drop, length]
    omega
  rw [around, before, behind, toList_get, List.append_assoc, List.take_append_drop,
    List.take_append_drop]

/-- A new cursor stands past the newest match. -/
theorem ofRecords_bounded (lead : String) (records : List Record) :
    (ofRecords lead records).position ≤ (ofRecords lead records).records.length :=
  Nat.le_refl _

/-! ### Moves until one fails -/

/-- Moves to older records, made until one fails, give these records, the newest first. -/
inductive Yields : Cursor → List Record → Prop
  | stop {c c' : Cursor} {f : CursorFault} (h : c.older = (.error f, c')) : Yields c []
  | step {c c' : Cursor} {r : Record} {rs : List Record} (h : c.older = (.ok r, c'))
    (rest : Yields c' rs) : Yields c (r :: rs)

variable {rs rs' : List Record}

/-- The moves come to an end, and give what lies before the position. -/
theorem yields_older (hle : c.position ≤ c.records.length) :
    c.Yields (c.records.take c.position).reverse := by
  induction hp : c.position generalizing c with
  | zero =>
    have fails : c.older = (.error .noOlder, c) := by simp only [older, hp]
    simpa using Yields.stop fails
  | succ p ih =>
    have hlt : p < c.records.length := by omega
    rw [List.take_succ_eq_append_getElem hlt, List.reverse_append, List.reverse_singleton,
      List.singleton_append]
    exact .step (older_of_succ hp hlt) (@ih { c with position := p } (Nat.le_of_lt hlt) rfl)

theorem Yields.unique (h : c.Yields rs) (h' : c.Yields rs') : rs = rs' := by
  induction h generalizing rs' with
  | stop h =>
    cases h' with
    | stop => rfl
    | step h' => cases h.symm.trans h'
  | step h _ ih =>
    cases h' with
    | stop h' => cases h.symm.trans h'
    | step h' rest' =>
      cases h.symm.trans h'
      rw [ih rest']

/-- A new cursor gives all records that match. -/
theorem yields_ofRecords (lead : String) (records : List Record) :
    (ofRecords lead records).Yields rs ↔ rs = (matching lead records).reverse := by
  have all := yields_older (ofRecords_bounded lead records)
  rw [ofRecords, List.take_length] at all
  exact ⟨fun h => h.unique all, fun h => h ▸ all⟩

end Cursor

end Promptline.History
