import Promptline.Directory.Path
import Promptline.Proofs.Text.Words

/-! Paths in normal form below a single root.  They are the paths made of a slash and of parts with
a slash between them, and `normalPath` leaves them as they are. -/

namespace Promptline.Directory

open Promptline.Text

/-- A part of a path that names something in its directory. -/
structure IsPart (part : List Char) : Prop where
  nonempty : part ≠ []
  solid : '/' ∉ part
  notSelf : part ≠ ['.']
  notParent : part ≠ ['.', '.']

/-- The path from the root through these parts. -/
def absolute (parts : List (List Char)) : List Char := '/' :: ['/'].intercalate parts

/-- An absolute path in normal form with one slash at its start. -/
def IsAbsolute (path : List Char) : Prop :=
  ∃ parts, (∀ part ∈ parts, IsPart part) ∧ path = absolute parts

variable {path part : List Char} {parts kept : List (List Char)}

theorem IsPart.not_slash (h : IsPart part) : ∀ c ∈ part, (c == '/') = false := by
  intro c hc
  rw [beq_eq_false_iff_ne]
  rintro rfl
  exact h.solid hc

/-! ### Paths in normal form stay as they are -/

theorem pushPart_of_isPart (h : IsPart part) (rooted : Bool) :
    pushPart rooted kept part = part :: kept := by
  simp only [pushPart, h.nonempty, h.notSelf, h.notParent, decide_false, Bool.or_self,
    Bool.false_eq_true, if_false]

theorem foldl_pushPart (h : ∀ part ∈ parts, IsPart part) (rooted : Bool) :
    parts.foldl (pushPart rooted) kept = parts.reverse ++ kept := by
  induction parts generalizing kept with
  | nil => rfl
  | cons p ps ih =>
    rw [List.foldl_cons, pushPart_of_isPart (h p (.head _)), ih fun p hp => h p (.tail _ hp),
      List.reverse_cons, List.append_assoc, List.singleton_append]

/-- The second character is not a slash. -/
theorem absolute_eq (h : ∀ part ∈ parts, IsPart part) :
    absolute parts = ['/'] ∨ ∃ c r, c ≠ '/' ∧ absolute parts = '/' :: c :: r := by
  cases parts with
  | nil => exact .inl rfl
  | cons p ps =>
    obtain ⟨c, r, hp⟩ := List.exists_cons_of_ne_nil (h p (.head _)).nonempty
    have hc : c ≠ '/' := by
      rintro rfl
      exact (h p (.head _)).solid (hp ▸ List.mem_cons_self)
    cases ps with
    | nil => exact .inr ⟨c, r, hc, by rw [absolute, List.intercalate_singleton, hp]⟩
    | cons q qs =>
      refine .inr ⟨c, r ++ ['/'] ++ ['/'].intercalate (q :: qs), hc, ?_⟩
      rw [absolute, List.intercalate_cons_cons, hp]
      rfl

theorem rootOf_absolute (h : ∀ part ∈ parts, IsPart part) : rootOf (absolute parts) = ['/'] := by
  obtain hroot | ⟨c, r, hc, hpath⟩ := absolute_eq h
  · rw [hroot]
    rfl
  · rw [hpath, rootOf]
    · intro r' heq
      exact hc (List.cons.inj heq).1
    · intro r' heq
      exact hc (List.cons.inj heq).1

theorem normalPath_absolute (h : ∀ part ∈ parts, IsPart part) :
    normalPath (absolute parts) = absolute parts := by
  have pieces : (splitAtEach (· == '/') (absolute parts)).foldl (pushPart true) [] =
      parts.reverse := by
    have start : splitAtEach (· == '/') (absolute parts) =
        [] :: splitAtEach (· == '/') (['/'].intercalate parts) := rfl
    rw [start, List.foldl_cons]
    cases parts with
    | nil => rfl
    | cons p ps =>
      have split : splitAtEach (· == '/') (['/'].intercalate (p :: ps)) = p :: ps :=
        splitAtEach_intercalate (List.cons_ne_nil p ps) (fun p hp => (h p hp).not_slash) rfl
      rw [split, show pushPart true [] [] = [] from rfl, foldl_pushPart h, List.append_nil]
  rw [normalPath, rootOf_absolute h]
  simp only [List.isEmpty_cons, Bool.not_false, pieces, List.reverse_reverse]
  rfl

/-! ### Every normal form below a single root is such a path -/

/-- A part without a slash leaves parts that name something, since `..` takes a part away or is
dropped at the root. -/
theorem isPart_pushPart (h : ∀ p ∈ kept, IsPart p) (hsolid : '/' ∉ part) :
    ∀ p ∈ pushPart true kept part, IsPart p := by
  unfold pushPart
  split
  · exact h
  · next hkeep =>
    simp only [Bool.or_eq_true, decide_eq_true_eq, not_or] at hkeep
    split
    · cases kept with
      | nil => exact h
      | cons q qs =>
        simp only [(h q (.head _)).notParent, if_false]
        exact fun p hp => h p (.tail _ hp)
    · next hparent =>
      intro p hp
      obtain rfl | hp := List.mem_cons.mp hp
      · exact ⟨hkeep.1, hsolid, hkeep.2, hparent⟩
      · exact h p hp

theorem isPart_foldl (h : ∀ p ∈ kept, IsPart p) (hsolid : ∀ part ∈ parts, '/' ∉ part) :
    ∀ p ∈ parts.foldl (pushPart true) kept, IsPart p := by
  induction parts generalizing kept with
  | nil => exact h
  | cons part parts ih =>
    exact ih (isPart_pushPart h (hsolid part (.head _))) fun p hp => hsolid p (.tail _ hp)

theorem isAbsolute_normalPath (hroot : rootOf path = ['/']) : IsAbsolute (normalPath path) := by
  have solid : ∀ part ∈ splitAtEach (· == '/') path, '/' ∉ part := by
    intro part hpart hslash
    simpa using not_sep_of_mem_splitAtEach hpart hslash
  have none : ∀ p ∈ ([] : List (List Char)), IsPart p := fun _ hp => absurd hp List.not_mem_nil
  have all := isPart_foldl none solid
  refine ⟨((splitAtEach (· == '/') path).foldl (pushPart true) []).reverse, fun p hp => ?_, ?_⟩
  · exact all p (List.mem_reverse.mp hp)
  · rw [normalPath, hroot]
    rfl

/-- The absolute paths in normal form are those with one root that normalising leaves alone. -/
theorem isAbsolute_iff : IsAbsolute path ↔ rootOf path = ['/'] ∧ normalPath path = path := by
  constructor
  · rintro ⟨parts, h, rfl⟩
    exact ⟨rootOf_absolute h, normalPath_absolute h⟩
  · rintro ⟨hroot, hnormal⟩
    exact hnormal ▸ isAbsolute_normalPath hroot

end Promptline.Directory
