import Promptline.Number.Reading
import Promptline.Number.Writing

/-! Numbers have no brackets.  None is written into a number, and a text with a bracket in it is read as
no number. -/

namespace Promptline.Number

open Promptline.Text

variable {s r : List Char}

/-! ### Writing -/

theorem not_mem_toDigits {c : Char} (h : c.isDigit = false) (n : Nat) : c ∉ Nat.toDigits 10 n := by
  intro hc
  cases h.symm.trans (Nat.isDigit_of_mem_toDigits (by decide) (by decide) hc)

theorem not_mem_toString {c : Char} (digit : c.isDigit = false) (sign : c ≠ '-') (n : Int) :
    c ∉ (toString n).toList := by
  have digits := not_mem_toDigits digit
  rw [Int.toString_eq_repr]
  cases n with
  | ofNat n => simpa [Int.repr, Nat.toList_repr] using digits n
  | negSucc n => simpa [Int.repr, Nat.toList_repr, sign] using digits (n + 1)

theorem bracket_not_mem_toDigits (n : Nat) : '[' ∉ Nat.toDigits 10 n := not_mem_toDigits rfl n

namespace Decimal

variable {digits tail : List Char} {k : Int}

theorem bracket_not_mem_significant (d : Decimal) : '[' ∉ d.significant := by
  intro h
  have h := (List.dropWhile_sublist _).subset (List.mem_reverse.mp h)
  exact bracket_not_mem_toDigits d.digits (List.mem_reverse.mp h)

theorem bracket_not_mem_twoDigits (n : Nat) : '[' ∉ twoDigits n := by
  unfold twoDigits
  split <;> simp [bracket_not_mem_toDigits]

theorem bracket_not_mem_positional (hd : '[' ∉ digits) (ht : '[' ∉ tail) :
    '[' ∉ positional digits k tail := by
  have taken (n : Nat) : '[' ∉ digits.take n := fun h => hd (List.mem_of_mem_take h)
  have dropped (n : Nat) : '[' ∉ digits.drop n := fun h => hd (List.mem_of_mem_drop h)
  unfold positional
  split
  · simp [hd, List.mem_replicate]
  · dsimp only
    split <;> simp [ht, taken, dropped, List.mem_replicate]

theorem bracket_not_mem_scientific (hd : '[' ∉ digits) : '[' ∉ scientific digits k := by
  have first : '[' ∉ digits.take 1 := fun h => hd (List.mem_of_mem_take h)
  have others : '[' ∉ digits.tail := fun h => hd (List.mem_of_mem_tail h)
  unfold scientific
  split <;> split <;> simp [first, others, bracket_not_mem_twoDigits]

end Decimal

theorem Layout.bracket_not_mem_render {l : Layout} (htail : '[' ∉ l.integerTail)
    (select : Binary64 → Decimal) (x : Binary64) : '[' ∉ (l.render select x).toList := by
  have written (d : Decimal) : '[' ∉ l.write d := by
    unfold write
    dsimp only
    split
    · exact Decimal.bracket_not_mem_positional d.bracket_not_mem_significant htail
    · exact Decimal.bracket_not_mem_scientific d.bracket_not_mem_significant
  unfold render
  split
  · decide
  · split <;> split <;> (try split) <;> simp [written, htail]

theorem Binary64.bracket_not_mem_sixDigits (x : Binary64) : '[' ∉ x.sixDigits.toList :=
  Layout.bracket_not_mem_render (by decide) _ x

/-! ### Reading -/

theorem bracket_mem_dropStart {p : Char → Bool} (hp : p '[' = false) (h : '[' ∈ s) :
    '[' ∈ dropStart p s := by
  rw [← List.takeWhile_append_dropWhile (p := p) (l := s)] at h
  rcases List.mem_append.mp h with h | h
  · cases hp.symm.trans (List.all_eq_true.mp List.all_takeWhile _ h)
  · exact h

theorem bracket_mem_dropEnd {p : Char → Bool} (hp : p '[' = false) (h : '[' ∈ s) :
    '[' ∈ dropEnd p s := by
  rw [dropEnd, List.mem_reverse]
  exact bracket_mem_dropStart hp (List.mem_reverse.mpr h)

theorem bracket_mem_takeSign (h : '[' ∈ s) : '[' ∈ (takeSign s).2 := by
  unfold takeSign
  split <;> simpa using h

theorem readDigits?_eq_none (h : '[' ∈ s) : readDigits? s = none := by
  have noDigit : digitValue? '[' = none := by decide
  fun_induction readDigits? s with
  | case1 => cases h
  | case2 c =>
    obtain rfl : '[' = c := by simpa using h
    rw [noDigit]
    rfl
  | case3 c r ih =>
    rcases List.mem_cons.mp h with rfl | h
    · rw [noDigit]
      rfl
    · have h : '[' ∈ r := by simpa using h
      rw [ih h]
      cases digitValue? c <;> rfl
  | case4 c r _ _ ih =>
    rcases List.mem_cons.mp h with rfl | h
    · rw [noDigit]
      rfl
    · rw [ih h]
      cases digitValue? c <;> rfl

/-- A text that is read as an integer has no bracket. -/
theorem bracket_not_mem_of_readInteger? {n : Int} (h : readInteger? s = some n) : '[' ∉ s := by
  intro hs
  have margin : isMargin '[' = false := by decide
  have core := bracket_mem_takeSign (bracket_mem_dropEnd margin (bracket_mem_dropStart margin hs))
  obtain ⟨digits, hdigits, -⟩ := Option.bind_eq_some_iff.mp h
  cases (readDigits?_eq_none core).symm.trans hdigits

theorem bracket_mem_joinGroups? {t : List Char} (h : joinGroups? s = some t) (hs : '[' ∈ s) :
    '[' ∈ t := by
  fun_induction joinGroups? s generalizing t with
  | case1 => cases hs
  | case2 => cases h
  | case3 c => cases h; exact hs
  | case4 c d r _ _ ih =>
    obtain ⟨u, hu, rfl⟩ := Option.map_eq_some_iff.mp h
    have hs : '[' = c ∨ '[' ∈ d :: r := by simpa using hs
    exact List.mem_cons.mpr (hs.imp_right (ih hu))
  | case5 => cases h
  | case6 c r _ _ _ ih =>
    obtain ⟨u, hu, rfl⟩ := Option.map_eq_some_iff.mp h
    exact List.mem_cons.mpr ((List.mem_cons.mp hs).imp_right (ih hu))

theorem bracket_mem_spanDigits (h : '[' ∈ s) : '[' ∈ (spanDigits s).2 :=
  bracket_mem_dropStart (p := Char.isDigit) (by decide) h

theorem readExponent?_eq_none (h : '[' ∈ s) : readExponent? s = none := by
  cases s with
  | nil => cases h
  | cons e r =>
    rw [readExponent?]
    split
    · next he =>
      have hr : '[' ∈ r := by
        refine (List.mem_cons.mp h).resolve_left ?_
        rintro rfl
        cases he
      have rest := bracket_mem_spanDigits (bracket_mem_takeSign hr)
      have nonempty : (spanDigits (takeSign r).2).2.isEmpty = false :=
        List.isEmpty_eq_false_iff_exists_mem.mpr ⟨_, rest⟩
      simp [nonempty]
    · rfl

theorem readDecimal?_eq_none (h : '[' ∈ s) : readDecimal? s = none := by
  have rest : '[' ∈ s.dropWhile Char.isDigit := bracket_mem_spanDigits h
  refine Option.eq_none_iff_forall_ne_some.mpr fun x hx => ?_
  unfold readDecimal? at hx
  obtain ⟨-, -, hx⟩ := Option.bind_eq_some_iff.mp hx
  obtain ⟨e, he, -⟩ := Option.bind_eq_some_iff.mp hx
  split at he
  · next r hpoint =>
    rw [hpoint] at rest
    have fraction := bracket_mem_spanDigits (s := r) (by simpa using rest)
    cases (readExponent?_eq_none fraction).symm.trans he
  · cases (readExponent?_eq_none rest).symm.trans he

/-- A text that is read as a number has no bracket. -/
theorem bracket_not_mem_of_readBinary64? {x : Binary64} (h : readBinary64? s = some x) :
    '[' ∉ s := by
  intro hs
  have margin : isMargin '[' = false := by decide
  have core := bracket_mem_dropEnd margin (bracket_mem_dropStart margin hs)
  have mapped : '[' ∈ (dropEnd isMargin (dropStart isMargin s)).map plainDigit :=
    List.mem_map.mpr ⟨'[', core, by decide⟩
  unfold readBinary64? at h
  obtain ⟨t, ht, h⟩ := Option.bind_eq_some_iff.mp h
  have signed := bracket_mem_takeSign (bracket_mem_joinGroups? ht mapped)
  have noWord {w : String} (hw : '[' ∉ w.toList) :
      String.ofList ((takeSign t).2.map Char.toLower) ≠ w := by
    rintro rfl
    rw [String.toList_ofList] at hw
    exact hw (List.mem_map.mpr ⟨'[', signed, by decide⟩)
  simp [noWord, readDecimal?_eq_none signed] at h

end Promptline.Number
