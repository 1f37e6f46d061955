import Mathlib.Data.List.DropRight
import Promptline.Proofs.Text.Lowering

/-! The words of a text.  The first one is where the trimmed text starts, and ends before the first
blank there; texts with spaces between them have the words of each. -/

namespace Promptline.Text

variable {c : Char} {r s before word rest : List Char}

theorem dropWhile_isBlank_cons (h : isBlank c = true) (s : List Char) :
    (c :: s).dropWhile isBlank = s.dropWhile isBlank := by
  rw [List.dropWhile_cons_of_pos h]

/-- The piece before the first separator. -/
theorem head?_splitAtEach (sep : Char → Bool) (s : List Char) :
    (splitAtEach sep s).head? = some (s.takeWhile (!sep ·)) := by
  induction s with
  | nil => rfl
  | cons c s ih =>
    unfold splitAtEach
    split
    · next h => simp [h]
    · next h =>
      split
      · next hnil => exact absurd hnil (splitAtEach_ne_nil sep s)
      · next p ps hps =>
        rw [hps, List.head?_cons, Option.some.injEq] at ih
        simp [h, ih]

/-- The first word is what stands before a blank, once the blanks before it are gone. -/
theorem head?_words (s : List Char) :
    (words s).head? =
      if s.dropWhile isBlank = [] then none
      else some ((s.dropWhile isBlank).takeWhile (!isBlank ·)) := by
  induction s with
  | nil => rfl
  | cons c s ih =>
    cases h : isBlank c with
    | true =>
      have skipped : words (c :: s) = words s := by simp [words, splitAtEach, h]
      rw [skipped, ih, dropWhile_isBlank_cons h]
    | false =>
      rw [List.dropWhile_cons_of_neg (by simp [h]), if_neg (List.cons_ne_nil c s)]
      have first := head?_splitAtEach isBlank (c :: s)
      obtain ⟨ps, hps⟩ := List.head?_eq_some_iff.mp first
      have nonempty : (c :: s).takeWhile (!isBlank ·) = c :: s.takeWhile (!isBlank ·) := by
        simp [h]
      rw [words, hps, nonempty]
      rfl

/-- A text without blanks is one word. -/
theorem fst_firstWord_of_solid (h : ∀ c ∈ s, isBlank c = false) : (firstWord s).1 = s := by
  have start : s.dropWhile isBlank = s := by
    cases s with
    | nil => rfl
    | cons c r => exact List.dropWhile_cons_of_neg (by simp [h c (.head _)])
  rw [firstWord, start]
  exact List.takeWhile_eq_self_iff.mpr fun c hc => by simp [h c hc]

/-- A text that is lowered to one without blanks is a word. -/
theorem lower_firstWord {t : List Char} (solid : t.any isBlank = false) (h : lower s = t) :
    lower (firstWord s).1 = t := by
  have unbroken : ∀ c ∈ lower s, isBlank c = false := by simpa [h] using solid
  rw [fst_firstWord_of_solid (solid_of_lower unbroken), h]

/-- Trimming leaves blanks away at the end. -/
theorem dropStart_eq_trim_append (s : List Char) :
    ∃ blanks, dropStart isBlank s = trim s ++ blanks ∧ blanks.all isBlank = true := by
  refine ⟨((dropStart isBlank s).reverse.takeWhile isBlank).reverse, ?_, ?_⟩
  · rw [trim, dropEnd, ← List.reverse_append, List.takeWhile_append_dropWhile, List.reverse_reverse]
  · rw [List.all_reverse]
    exact List.all_takeWhile

theorem isBlank_head_dropStart (h : dropStart isBlank s = c :: r) : isBlank c = false := by
  have head := List.head?_dropWhile_not isBlank s
  rw [show s.dropWhile isBlank = c :: r from h] at head
  exact head

/-- A text without blanks at either end. -/
theorem trim_eq_self (hfirst : ∀ c ∈ s.head?, isBlank c = false)
    (hlast : ∀ c ∈ s.getLast?, isBlank c = false) : trim s = s := by
  have start : dropStart isBlank s = s := by
    cases s with
    | nil => rfl
    | cons c s => exact List.dropWhile_cons_of_neg (by simp [hfirst c rfl])
  rw [trim, start]
  refine List.rdropWhile_eq_self_iff.mpr fun hne => ?_
  rw [hlast _ (List.getLast?_eq_some_getLast hne)]
  exact Bool.false_ne_true

/-- The first word is where the trimmed text starts. -/
theorem head?_words_eq_trim (s : List Char) :
    (words s).head? =
      if trim s = [] then none else some ((trim s).takeWhile (!isBlank ·)) := by
  obtain ⟨blanks, hs, hblanks⟩ := dropStart_eq_trim_append s
  have hs' : s.dropWhile isBlank = trim s ++ blanks := hs
  rw [head?_words, hs']
  have cut : blanks.takeWhile (!isBlank ·) = [] := by
    cases blanks with
    | nil => rfl
    | cons b blanks => simp_all
  by_cases htrim : trim s = []
  · -- What is left starts with no blank and has nothing but blanks, so it is nothing.
    cases blanks with
    | nil => simp [htrim]
    | cons b blanks =>
      rw [htrim] at hs
      have blank := isBlank_head_dropStart hs
      rw [List.all_cons, blank] at hblanks
      cases hblanks
  · rw [if_neg (by simp [htrim]), if_neg htrim, List.takeWhile_append]
    split
    · next whole =>
      rw [cut, List.append_nil, (List.takeWhile_prefix _).eq_of_length whole]
    · rfl

theorem dropEnd_append (p : Char → Bool) (s t : List Char) :
    dropEnd p (s ++ t) = if dropEnd p t = [] then dropEnd p s else s ++ dropEnd p t := by
  simp only [dropEnd, List.reverse_append, List.dropWhile_append, List.isEmpty_iff,
    List.reverse_eq_nil_iff]
  split
  · rfl
  · rw [List.reverse_append, List.reverse_reverse]

/-- It does not matter at which end characters are dropped first. -/
theorem dropStart_dropEnd (p : Char → Bool) (s : List Char) :
    dropStart p (dropEnd p s) = dropEnd p (dropStart p s) := by
  induction s with
  | nil => rfl
  | cons c s ih =>
    have whole := dropEnd_append p [c] s
    have single : dropEnd p [c] = if p c = true then [] else [c] := List.rdropWhile_singleton p c
    rw [single, List.singleton_append] at whole
    cases hc : p c with
    | true =>
      have start : dropStart p (c :: s) = dropStart p s := List.dropWhile_cons_of_pos hc
      rw [start, ← ih, whole, hc, if_pos rfl]
      split
      · next hnil => rw [hnil]
      · exact List.dropWhile_cons_of_pos hc
    | false =>
      have start (s : List Char) : dropStart p (c :: s) = c :: s :=
        List.dropWhile_cons_of_neg (by simp [hc])
      have kept : dropEnd p (c :: s) = c :: dropEnd p s := by
        rw [whole, hc, if_neg Bool.false_ne_true]
        split
        · next hnil => rw [hnil]
        · rfl
      rw [start, kept, start]

/-- A text is read as its first word and what follows it, with the blanks around both gone. -/
theorem firstWord_trim (hbefore : ∀ c ∈ before, isBlank c = true) (hne : word ≠ [])
    (hword : ∀ c ∈ word, isBlank c = false) (hrest : ∀ c ∈ rest.head?, isBlank c = true) :
    trim (before ++ word ++ rest) = word ++ dropEnd isBlank rest ∧
      firstWord (word ++ dropEnd isBlank rest) = (word, trim rest) := by
  obtain ⟨c, r, rfl⟩ := List.exists_cons_of_ne_nil hne
  have start (t : List Char) : (c :: r ++ t).dropWhile isBlank = c :: r ++ t :=
    List.dropWhile_cons_of_neg (by simp [hword c (.head _)])
  have solid : dropEnd isBlank (c :: r) = c :: r :=
    List.rdropWhile_eq_self_iff.mpr fun hne => by simp [hword _ (List.getLast_mem hne)]
  -- What is left behind the word starts with a blank, unless it is nothing.
  have gap : (dropEnd isBlank rest).takeWhile (!isBlank ·) = [] := by
    cases hleft : dropEnd isBlank rest with
    | nil => rfl
    | cons d t =>
      have first : rest.head? = some d := by
        obtain ⟨u, hu⟩ := List.rdropWhile_prefix (p := isBlank) rest
        rw [← hu, show rest.rdropWhile isBlank = d :: t from hleft, List.cons_append,
          List.head?_cons]
      simp [hrest d first]
  constructor
  · rw [trim, dropStart, List.append_assoc, List.dropWhile_append_of_pos hbefore, start,
      dropEnd_append, solid]
    split
    · next hnil => rw [hnil, List.append_nil]
    · rfl
  · have taken : (c :: r ++ dropEnd isBlank rest).takeWhile (!isBlank ·) = c :: r := by
      rw [List.takeWhile_append_of_pos fun d hd => by simp [hword d hd], gap, List.append_nil]
    have left : (c :: r ++ dropEnd isBlank rest).dropWhile (!isBlank ·) = dropEnd isBlank rest := by
      have whole :=
        List.takeWhile_append_dropWhile (p := (!isBlank ·)) (l := c :: r ++ dropEnd isBlank rest)
      rw [taken] at whole
      exact List.append_cancel_left whole
    have behind : firstWord (c :: r ++ dropEnd isBlank rest) =
        (c :: r, dropStart isBlank (dropEnd isBlank rest)) := by
      simp only [firstWord, start, taken, left]
      rfl
    rw [behind, trim, ← dropStart_dropEnd]

section Pieces

variable {sep : Char → Bool} {p : List Char}

theorem splitAtEach_of_solid (h : ∀ c ∈ p, sep c = false) : splitAtEach sep p = [p] := by
  induction p with
  | nil => rfl
  | cons a p ih =>
    rw [splitAtEach, h a (.head _), ih fun c hc => h c (.tail _ hc)]
    rfl

/-- The text before a separator is the first piece. -/
theorem splitAtEach_append_cons (h : ∀ c ∈ p, sep c = false) (hc : sep c = true) (s : List Char) :
    splitAtEach sep (p ++ c :: s) = p :: splitAtEach sep s := by
  induction p with
  | nil => rw [List.nil_append, splitAtEach, hc, if_pos rfl]
  | cons a p ih =>
    rw [List.cons_append, splitAtEach, h a (.head _), ih fun c hc => h c (.tail _ hc)]
    rfl

/-- Pieces that hold no separator are found again in the text that joins them. -/
theorem splitAtEach_intercalate {ps : List (List Char)} (hne : ps ≠ [])
    (h : ∀ p ∈ ps, ∀ c ∈ p, sep c = false) (hc : sep c = true) :
    splitAtEach sep ([c].intercalate ps) = ps := by
  induction ps with
  | nil => exact absurd rfl hne
  | cons p ps ih =>
    have hp := h p (.head _)
    cases ps with
    | nil => rw [List.intercalate_singleton, splitAtEach_of_solid hp]
    | cons q qs =>
      have rest := ih (List.cons_ne_nil q qs) fun p hp => h p (.tail _ hp)
      rw [List.intercalate_cons_cons, List.append_assoc, List.singleton_append,
        splitAtEach_append_cons hp hc, rest]

end Pieces

/-- A separator parts the pieces before it from those behind it. -/
theorem splitAtEach_append_sep {sep : Char → Bool} (hc : sep c = true) (s t : List Char) :
    splitAtEach sep (s ++ c :: t) = splitAtEach sep s ++ splitAtEach sep t := by
  induction s with
  | nil => simp [splitAtEach, hc]
  | cons d s ih =>
    rw [List.cons_append, splitAtEach, ih, splitAtEach]
    cases hs : splitAtEach sep s with
    | nil => exact absurd hs (splitAtEach_ne_nil sep s)
    | cons p ps => split <;> rfl

theorem words_append_blank (hc : isBlank c = true) (s t : List Char) :
    words (s ++ c :: t) = words s ++ words t := by
  rw [words, splitAtEach_append_sep hc, List.filter_append]
  rfl

theorem words_dropWhile (s : List Char) : words (s.dropWhile isBlank) = words s := by
  induction s with
  | nil => rfl
  | cons c s ih =>
    cases h : isBlank c with
    | true =>
      have skipped : words (c :: s) = words s := words_append_blank h [] s
      rw [dropWhile_isBlank_cons h, ih, skipped]
    | false => rw [List.dropWhile_cons_of_neg (by simp [h])]

theorem words_append_blanks {blanks : List Char} (h : blanks.all isBlank = true) (s : List Char) :
    words (s ++ blanks) = words s := by
  cases blanks with
  | nil => rw [List.append_nil]
  | cons b blanks =>
    obtain ⟨hb, hblanks⟩ : isBlank b = true ∧ ∀ c ∈ blanks, isBlank c = true := by simpa using h
    have none : words blanks = [] := by
      rw [← words_dropWhile, List.dropWhile_eq_nil_iff.mpr hblanks]
      rfl
    rw [words_append_blank hb, none, List.append_nil]

theorem words_trim (s : List Char) : words (trim s) = words s := by
  obtain ⟨blanks, hs, hblanks⟩ := dropStart_eq_trim_append s
  rw [← words_append_blanks hblanks (trim s), ← hs]
  exact words_dropWhile s

/-- The words of a text are its first word, if it has one, and those of what follows it. -/
theorem words_eq_firstWord (s : List Char) :
    words s =
      if (firstWord s).1 = [] then [] else (firstWord s).1 :: words (firstWord s).2 := by
  rw [← words_dropWhile s]
  unfold firstWord
  cases h : s.dropWhile isBlank with
  | nil => rfl
  | cons c r =>
    have head : isBlank c = false := isBlank_head_dropStart h
    have hne : (c :: r).takeWhile (!isBlank ·) ≠ [] := by simp [head]
    have solid : ∀ d ∈ (c :: r).takeWhile (!isBlank ·), isBlank d = false := by
      simpa using List.all_eq_true.mp (List.all_takeWhile (p := (!isBlank ·)) (l := c :: r))
    have whole := List.takeWhile_append_dropWhile (p := (!isBlank ·)) (l := c :: r)
    simp only [if_neg hne, words_dropWhile]
    generalize (c :: r).takeWhile (!isBlank ·) = word at hne solid whole ⊢
    cases hrest : (c :: r).dropWhile (!isBlank ·) with
    | nil =>
      rw [hrest, List.append_nil] at whole
      rw [← whole, words, splitAtEach_of_solid solid]
      simp [hne, words, splitAtEach]
    | cons d t =>
      have blank : isBlank d = true := by
        have first := List.head?_dropWhile_not (!isBlank ·) (c :: r)
        rw [hrest] at first
        simpa using first
      have skipped : words (d :: t) = words t := words_append_blank blank [] t
      rw [hrest] at whole
      rw [skipped, ← whole, words, splitAtEach_append_cons solid blank]
      simp [hne, words]

/-- The words of texts with spaces between them are the words of the texts. -/
theorem words_intercalate (ts : List String) :
    words (" ".intercalate ts).toList = ts.flatMap fun t => words t.toList := by
  induction ts with
  | nil => rfl
  | cons t ts ih =>
    cases ts with
    | nil => simp
    | cons t' ts =>
      rw [String.intercalate_cons_cons, String.toList_append, String.toList_append,
        List.append_assoc, show " ".toList = [' '] from rfl, List.singleton_append,
        words_append_blank (by decide), ih]
      rfl

end Promptline.Text
