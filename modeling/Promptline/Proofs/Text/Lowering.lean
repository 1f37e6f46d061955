import Promptline.Text.Blank
import Promptline.Text.LowerCase

/-! What lower-casing leaves alone.  A blank stays a blank, and a dot comes from a dot only, so a text
that is lowered to one without blanks is a single word.  Texts without a sigma are lowered part by
part. -/

namespace Promptline.Text

variable {c : Char} {s : List Char}

/-- The characters that are lowered are not blank, and none becomes a dot or what stands before it in
the order of characters. -/
theorem caseRuns_spec : ∀ run ∈ caseRuns,
    46 < (run.first : Int) + run.shift ∧
      ∀ b ∈ blankRanges, run.last < b.1 ∨ b.2 < run.first := by
  decide +kernel

theorem lowerChar_of_isBlank (h : isBlank c = true) : lowerChar c = [c] := by
  obtain ⟨b, hb, hc⟩ := List.any_eq_true.mp h
  have hc : b.1 ≤ c.toNat ∧ c.toNat ≤ b.2 := by simpa using hc
  have unlowered : caseRuns.find? (fun r =>
      r.first ≤ c.toNat && c.toNat ≤ r.last && (c.toNat - r.first) % r.step == 0) = none := by
    refine List.find?_eq_none.mpr fun run hrun => ?_
    have apart := (caseRuns_spec run hrun).2 b hb
    simp only [Bool.and_eq_true, decide_eq_true_eq, not_and]
    omega
  have undotted : c ≠ 'İ' := by
    rintro rfl
    exact absurd h (by decide)
  rw [lowerChar, if_neg undotted, unlowered]

theorem mem_lower_of_isBlank (hc : c ∈ s) (h : isBlank c = true) : c ∈ lower s := by
  have go (seen s : List Char) (hc : c ∈ s) : c ∈ lowerAfter seen s := by
    induction s generalizing seen with
    | nil => cases hc
    | cons d r ih =>
      rw [lowerAfter, List.mem_append]
      rcases List.mem_cons.mp hc with rfl | hc
      · have notSigma : c ≠ 'Σ' := by
          rintro rfl
          exact absurd h (by decide)
        rw [if_neg notSigma, lowerChar_of_isBlank h]
        exact .inl (List.mem_singleton_self c)
      · exact .inr (ih (d :: seen) hc)
  exact go [] s hc

/-- A text without blanks comes from one without blanks. -/
theorem solid_of_lower (h : ∀ c ∈ lower s, isBlank c = false) : ∀ c ∈ s, isBlank c = false :=
  fun c hc => eq_false_of_ne_true fun blank => by
    rw [h c (mem_lower_of_isBlank hc blank)] at blank
    cases blank

/-- Only a sigma is lowered by what stands around it. -/
theorem lowerAfter_eq_flatMap (h : 'Σ' ∉ s) (seen : List Char) :
    lowerAfter seen s = s.flatMap lowerChar := by
  induction s generalizing seen with
  | nil => rfl
  | cons c r ih =>
    obtain ⟨hc, hr⟩ : c ≠ 'Σ' ∧ 'Σ' ∉ r := by simpa [eq_comm] using h
    rw [lowerAfter, if_neg hc, ih hr, List.flatMap_cons]

theorem lower_append {t : List Char} (h : 'Σ' ∉ s ++ t) : lower (s ++ t) = lower s ++ lower t := by
  obtain ⟨hs, ht⟩ : 'Σ' ∉ s ∧ 'Σ' ∉ t := by simpa using h
  rw [lower, lower, lower, lowerAfter_eq_flatMap h, lowerAfter_eq_flatMap hs,
    lowerAfter_eq_flatMap ht, List.flatMap_append]

end Promptline.Text
