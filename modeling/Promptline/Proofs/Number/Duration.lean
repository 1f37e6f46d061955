import Promptline.Number.Reading

/-! Numbers that can be waited for.  A text that is read as a number is read as one of these, as a
negative number, as infinity or as NaN: no other bits come out of rounding. -/

namespace Promptline.Number

namespace Binary64

variable {x : Binary64}

/-- A finite number that is not below zero. -/
def isDuration (x : Binary64) : Bool := !x.isNaN && !x.isInfinite && !x.isNegative

theorem isDuration_infinity : infinity.isDuration = false := by decide

theorem isDuration_nan : nan.isDuration = false := by decide

theorem magnitude_eq_mod (x : Binary64) : x.magnitude = x.bits.toNat % 0x8000000000000000 := by
  rw [magnitude, UInt64.toNat_and]
  exact Nat.and_two_pow_sub_one_eq_mod x.bits.toNat 63

theorem magnitude_infinity : infinity.magnitude = 0x7FF0000000000000 := rfl

/-- The sign is no part of the magnitude. -/
theorem magnitude_withSign (negative : Bool) (x : Binary64) :
    (x.withSign negative).magnitude = x.magnitude := by
  cases negative with
  | false => rfl
  | true =>
    have high : (0x8000000000000000 : UInt64).toNat % 0x8000000000000000 = 0 := rfl
    rw [magnitude_eq_mod, magnitude_eq_mod, withSign, if_pos rfl, UInt64.toNat_or,
      Nat.or_mod_two_pow (n := 63), high, Nat.or_zero]

theorem magnitude_ofBits_le (bits : Nat) :
    (if infinity.magnitude ≤ bits then infinity else ⟨bits.toUInt64⟩ : Binary64).magnitude ≤
      infinity.magnitude := by
  split
  · exact Nat.le_refl _
  · next h =>
    rw [magnitude_infinity] at h ⊢
    rw [magnitude_eq_mod, UInt64.toNat_ofNat']
    omega

theorem magnitude_ofQuotient_le (num den : Nat) :
    (ofQuotient num den).magnitude ≤ infinity.magnitude := by
  unfold ofQuotient
  split
  · decide
  · exact magnitude_ofBits_le _

theorem magnitude_ofDecimal_le (digits : Nat) (e : Int) :
    (ofDecimal digits e).magnitude ≤ infinity.magnitude := by
  unfold ofDecimal
  split
  · decide
  · split
    · exact Nat.le_refl _
    · split
      · decide
      · exact magnitude_ofQuotient_le _ _

/-- Of the numbers of infinite size, the one without a sign. -/
theorem eq_infinity (infinite : x.isInfinite = true) (unsigned : x.signed = false) :
    x = infinity := by
  obtain ⟨bits⟩ := x
  have size : bits.toNat % 0x8000000000000000 = 0x7FF0000000000000 := by
    rw [← magnitude_infinity, ← of_decide_eq_true infinite, magnitude_eq_mod]
  have low : bits.toNat < 0x8000000000000000 := by
    simpa [signed, UInt64.le_iff_toNat_le] using unsigned
  have same : bits.toNat = (0x7FF0000000000000 : UInt64).toNat := by
    rw [Nat.mod_eq_of_lt low] at size
    exact size
  rw [infinity, UInt64.toNat_inj.mp same]

/-- A number that is no NaN can be waited for unless it is negative or infinity. -/
theorem duration_cases (number : x.isNaN = false) :
    x.isDuration = true ∨ x.isNegative = true ∨ x = infinity := by
  cases infinite : x.isInfinite with
  | false => cases negative : x.isNegative <;> simp [isDuration, number, infinite, negative]
  | true =>
    have nonzero : x.isZero = false := by
      simp [isZero, of_decide_eq_true infinite, magnitude_infinity]
    cases signed : x.signed with
    | false => exact .inr (.inr (eq_infinity infinite signed))
    | true => simp [isNegative, signed, number, nonzero]

end Binary64

variable {s : List Char} {x : Binary64}

theorem magnitude_readDecimal?_le (h : readDecimal? s = some x) :
    x.magnitude ≤ Binary64.infinity.magnitude := by
  unfold readDecimal? at h
  obtain ⟨-, -, h⟩ := Option.bind_eq_some_iff.mp h
  obtain ⟨e, -, h⟩ := Option.bind_eq_some_iff.mp h
  cases h
  exact Binary64.magnitude_ofDecimal_le _ _

/-- Rounding gives no NaN, so only the word for it is read as one. -/
theorem readBinary64?_eq_nan_or (h : readBinary64? s = some x) : x = .nan ∨ x.isNaN = false := by
  have bounded {y : Binary64} (hy : y.magnitude ≤ Binary64.infinity.magnitude) (negative : Bool) :
      (y.withSign negative).isNaN = false := by
    simpa [Binary64.isNaN, Binary64.magnitude_withSign] using hy
  unfold readBinary64? at h
  obtain ⟨t, -, h⟩ := Option.bind_eq_some_iff.mp h
  dsimp only at h
  split at h
  · cases h
    exact .inr (bounded (Nat.le_refl _) _)
  · split at h
    · cases h
      exact .inl rfl
    · obtain ⟨y, hy, h⟩ := Option.bind_eq_some_iff.mp h
      cases h
      exact .inr (bounded (magnitude_readDecimal?_le hy) _)

/-- What a text is read as. -/
theorem isDuration_of_readBinary64? (h : readBinary64? s = some x) :
    x.isDuration = true ∨ x.isNegative = true ∨ x = .infinity ∨ x = .nan := by
  obtain nan | number := readBinary64?_eq_nan_or h
  · exact .inr (.inr (.inr nan))
  · obtain duration | negative | infinite := Binary64.duration_cases number
    · exact .inl duration
    · exact .inr (.inl negative)
    · exact .inr (.inr (.inl infinite))

end Promptline.Number
