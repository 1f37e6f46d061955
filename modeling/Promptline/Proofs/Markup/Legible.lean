import Promptline.Proofs.Markup.Pieces

/-! What escaped text shows.  Escaping keeps tags from acting, but two kinds of backslashes do not come
through: one before a bracket that starts no tag is lost, and a single one at the end is doubled. -/

namespace Promptline.Markup

variable {c : Char} {r s t x y : List Char}

/-- `s` shows `x`, wherever it stands. -/
def Shows (s x : List Char) : Prop := ∀ offset, characters (piecesFrom none offset s) = x

theorem Shows.append (h : Shows s x) (h' : Shows r y) (j : Joins s r) : Shows (s ++ r) (x ++ y) := by
  intro offset
  rw [piecesFrom_append j none offset (by simp), characters_append, h, h']

theorem shows_unbracketed (h : '[' ∉ s) : Shows s s := by
  intro offset
  rw [piecesFrom_unbracketed h, characters_map_char]

/-- `c` is a backslash directly before a bracket with which `r` starts, and the bracket starts no
tag. -/
def isLost (c : Char) (r : List Char) : Bool := c = '\\' && r.head? = some '[' && !startsTag r

/-- `s` without the backslashes that are lost. -/
def weaken : List Char → List Char
  | [] => []
  | c :: r => if isLost c r then weaken r else c :: weaken r

/-- What `s` shows after it was escaped. -/
def shown (s : List Char) : List Char := weaken s ++ if endsInBackslash s then ['\\'] else []

/-- No backslash of `s` is lost. -/
def isKept : List Char → Bool
  | [] => true
  | c :: r => !isLost c r && isKept r

/-- No backslash of `s` is lost, and none at its end is doubled. -/
def isLegible (s : List Char) : Bool := isKept s && !endsInBackslash s

/-! ### The shielded text -/

theorem weaken_lone (starts : startsTag ('[' :: r) = false) :
    weaken ('\\' :: '[' :: r) = weaken ('[' :: r) := by
  rw [weaken, isLost, starts]
  rfl

theorem weaken_cons (h : c = '\\' → r.head? = some '[' → startsTag r = true) :
    weaken (c :: r) = c :: weaken r := by
  rw [weaken, if_neg]
  simpa [isLost] using h

/-- A bracket that follows a backslash in the shielded text did so before. -/
theorem head?_shield (h : leadsToTag s = false) : (shield s).head? = s.head? := by
  cases s with
  | nil => rfl
  | cons c r => rw [shield_char h]; rfl

theorem shows_shield (s : List Char) : Shows (shield s) (weaken s) := by
  intro offset
  induction s generalizing offset with
  | nil => rfl
  | cons c r ih =>
    obtain ⟨rfl, leads⟩ | ⟨rfl, starts⟩ | plain := leadsToTag_cases c r
    · have leads' := (leadsToTag_shield r).trans leads
      have kept : r.head? = some '[' → startsTag r = true := by
        intro head
        obtain ⟨t, rfl⟩ := List.head?_eq_some_iff.mp head
        exact leads
      rw [shield_leading leads, piecesFrom_leading leads', characters_char, ih,
        weaken_cons fun _ => kept]
    · rw [shield_tag starts, piecesFrom_bracket, characters_char, ih, weaken_cons (by simp)]
    · have plain' := (leadsToTag_shield (c :: r)).trans plain
      rw [shield_char plain] at plain' ⊢
      -- A backslash that escaping leaves before a bracket is taken for the escape of that bracket.
      by_cases lone : c = '\\' ∧ r.head? = some '['
      · obtain ⟨rfl, head⟩ := lone
        obtain ⟨t, rfl⟩ := List.head?_eq_some_iff.mp head
        have starts : leadsToTag ('[' :: t) = false := plain
        have rest := ih (offset + 1)
        rw [shield_char starts] at plain' rest ⊢
        have starts' : leadsToTag ('[' :: shield t) = false := plain'
        rw [piecesFrom_char starts' (by simp), characters_char] at rest
        rw [piecesFrom_bracket, characters_char, weaken_lone starts, ← rest]
      · have alone : c = '\\' → (shield r).head? ≠ some '[' := by
          rintro rfl head
          have plain : leadsToTag r = false := plain
          exact lone ⟨rfl, head?_shield plain ▸ head⟩
        rw [piecesFrom_char plain' alone, characters_char, ih,
          weaken_cons fun hc head => absurd ⟨hc, head⟩ lone]

/-! ### The end of the text -/

/-- Only the last two characters of a text tell whether it ends in a single backslash. -/
theorem endsInBackslash_cons (h : 2 ≤ s.length) :
    endsInBackslash (c :: s) = endsInBackslash s := by
  unfold endsInBackslash
  rw [List.reverse_cons]
  rw [← List.length_reverse] at h
  match s.reverse, h with
  | d :: e :: t, _ => by_cases hd : d = '\\' <;> by_cases he : e = '\\' <;> simp [hd, he]

theorem length_le_shield (s : List Char) : s.length ≤ (shield s).length := by
  induction s with
  | nil => exact Nat.zero_le _
  | cons c r ih =>
    obtain ⟨rfl, leads⟩ | ⟨rfl, starts⟩ | plain := leadsToTag_cases c r
    · rw [shield_leading leads]
      simp
      omega
    · rw [shield_tag starts]
      simp
      omega
    · rw [shield_char plain]
      simpa using ih

/-- A tag has at least three characters. -/
theorem leadsToTag_of_short (h : s.length ≤ 2) : leadsToTag s = false := by
  induction s with
  | nil => rfl
  | cons c r ih =>
    by_cases hc : c = '\\'
    · subst hc
      exact ih (Nat.le_of_succ_le h)
    · rw [leadsToTag_of_ne hc]
      match r, h with
      | [], _ => simp [startsTag]
      | [d], _ => by_cases hbracket : c = '[' <;> simp [startsTag, closes, hbracket]

theorem endsInBackslash_shield (s : List Char) :
    endsInBackslash (shield s) = endsInBackslash s := by
  induction s with
  | nil => rfl
  | cons c r ih =>
    match r with
    | [] => rw [shield_char (leadsToTag_of_short (by simp))]; rfl
    | [d] =>
      rw [shield_char (leadsToTag_of_short (by simp)), shield_char (leadsToTag_of_short (by simp))]
      rfl
    | d :: e :: r =>
      -- What stands before the last two characters does not matter.
      have two : 2 ≤ (shield (d :: e :: r)).length :=
        Nat.le_trans (by simp) (length_le_shield (d :: e :: r))
      rw [endsInBackslash_cons (by simp), ← ih]
      obtain ⟨rfl, leads⟩ | ⟨rfl, starts⟩ | plain := leadsToTag_cases c (d :: e :: r)
      · rw [shield_leading leads, endsInBackslash_cons (by simp; omega), endsInBackslash_cons two]
      · rw [shield_tag starts, endsInBackslash_cons (by simp; omega), endsInBackslash_cons two]
      · rw [shield_char plain, endsInBackslash_cons two]

theorem shows_escape (s : List Char) : Shows (escape s) (shown s) := by
  unfold escape shown
  dsimp only
  rw [endsInBackslash_shield]
  split
  · have j : Joins (shield s) ['\\'] := ⟨fun _ => rfl, fun _ => ⟨rfl, by decide⟩⟩
    exact (shows_shield s).append (shows_unbracketed (by decide)) j
  · rw [List.append_nil]
    exact shows_shield s

/-! ### Legible text -/

/-- Nothing put behind a weakened text makes up for a backslash that it has lost. -/
theorem isKept_of_weaken_append (h : weaken s ++ t = s) : isKept s = true := by
  induction s with
  | nil => rfl
  | cons c r ih =>
    rw [weaken] at h
    rw [isKept]
    cases lost : isLost c r with
    | true =>
      obtain ⟨⟨rfl, head⟩, -⟩ : (c = '\\' ∧ r.head? = some '[') ∧ startsTag r = false := by
        simpa [isLost] using lost
      obtain ⟨r, rfl⟩ := List.head?_eq_some_iff.mp head
      rw [lost, weaken_cons (by simp)] at h
      simp at h
    | false =>
      rw [lost] at h
      exact ih (List.cons.inj h).2

theorem weaken_of_isKept (h : isKept s = true) : weaken s = s := by
  induction s with
  | nil => rfl
  | cons c r ih =>
    obtain ⟨kept, hr⟩ := Bool.and_eq_true_iff.mp h
    rw [Bool.not_eq_true'] at kept
    rw [weaken, kept, ih hr]
    rfl

/-- Legible texts and no others are shown as they are. -/
theorem shown_eq_self_iff (s : List Char) : shown s = s ↔ isLegible s = true := by
  rw [isLegible, Bool.and_eq_true, Bool.not_eq_true']
  constructor
  · intro h
    have kept := isKept_of_weaken_append h
    rw [shown, weaken_of_isKept kept] at h
    refine ⟨kept, ?_⟩
    split at h
    · simp at h
    · next single => exact eq_false_of_ne_true single
  · rintro ⟨kept, single⟩
    rw [shown, weaken_of_isKept kept, single]
    simp

end Promptline.Markup
