import Promptline.Markup.Tag

/-! The pieces of marked-up text that is put together from parts.  A tag never crosses into a part
in which no closing bracket comes first, so there the pieces are those of the parts.  Escaped text has
no tags among its pieces. -/

namespace Promptline.Markup

variable {c : Char} {r s rest : List Char} {offset : Nat}

theorem startsTag_of_ne (h : c ≠ '[') : startsTag (c :: r) = false := by
  cases r <;> simp [startsTag, h]

theorem leadsToTag_of_ne (h : c ≠ '\\') : leadsToTag (c :: r) = startsTag (c :: r) := by
  rw [leadsToTag]
  rintro t heq
  exact h (List.cons.inj heq).1

theorem ne_bracket_of_opensTag (h : opensTag c = true) : c ≠ '[' ∧ c ≠ ']' := by
  constructor <;> rintro rfl <;> exact absurd h (by decide)

theorem closes_of_ne (hopen : c ≠ '[') (hclose : c ≠ ']') : closes (c :: r) = closes r := by
  rw [closes, if_neg hclose, if_neg hopen]

/-- What opens a tag is followed by a closing bracket. -/
theorem closes_of_startsTag (h : startsTag ('[' :: r) = true) : closes r = true := by
  cases r with
  | nil => cases h
  | cons c r =>
    obtain ⟨opens, closed⟩ := Bool.and_eq_true_iff.mp h
    obtain ⟨hopen, hclose⟩ := ne_bracket_of_opensTag opens
    rwa [closes_of_ne hopen hclose]

/-! ### One piece at a time -/

theorem piecesFrom_leading (h : leadsToTag r = true) :
    piecesFrom none offset ('\\' :: '\\' :: r) = .char '\\' :: piecesFrom none (offset + 2) r := by
  rw [piecesFrom, if_pos h]

theorem piecesFrom_bracket :
    piecesFrom none offset ('\\' :: '[' :: r) = .char '[' :: piecesFrom none (offset + 2) r := by
  rw [piecesFrom]

theorem piecesFrom_tag (h : startsTag ('[' :: r) = true) :
    piecesFrom none offset ('[' :: r) = piecesFrom (some (offset, [])) (offset + 1) r := by
  rw [piecesFrom.eq_4 _ _ _ (by simp) (by simp), if_pos h]

/-- A character that takes part in no tag stands for itself, unless it is a backslash before a
bracket. -/
theorem piecesFrom_char (h : leadsToTag (c :: r) = false) (alone : c = '\\' → r.head? ≠ some '[') :
    piecesFrom none offset (c :: r) = .char c :: piecesFrom none (offset + 1) r := by
  by_cases hc : c = '\\'
  · subst hc
    have hr : leadsToTag r = false := h
    cases r with
    | nil => rfl
    | cons d r =>
      by_cases hd : d = '\\'
      · subst hd
        have hr : leadsToTag r = false := h
        rw [piecesFrom, hr]
        rfl
      · have hbracket : d ≠ '[' := by
          rintro rfl
          exact alone rfl rfl
        rw [piecesFrom.eq_4 _ _ _ (by simp [hd]) (by simp [hbracket]), startsTag_of_ne (by decide)]
        rfl
  · rw [leadsToTag_of_ne hc] at h
    rw [piecesFrom.eq_4 _ _ _ (fun _ h _ => hc h) (fun _ h _ => hc h), h]
    rfl

/-! ### Text in parts -/

/-- A square bracket. -/
def isBracket (c : Char) : Bool := c = '[' || c = ']'

/-- The last bracket in a text opens. -/
def opensLast : List Char → Bool
  | [] => false
  | c :: r => c = '[' && !r.any isBracket || opensLast r

/-- A text takes part in no tag of the text that follows it, and the other way round: a bracket that
it leaves open is not closed there, and a backslash at its end stands before no bracket. -/
structure Joins (s rest : List Char) : Prop where
  closes : opensLast s = true → closes rest = false
  backslash : s.getLast? = some '\\' → leadsToTag rest = false ∧ rest.head? ≠ some '['

theorem Joins.tail (j : Joins (c :: s) rest) : Joins s rest where
  closes h := j.closes (by rw [opensLast, h, Bool.or_true])
  backslash h := j.backslash (by rw [List.getLast?_cons, h]; rfl)

/-- A text that leaves no bracket open and does not end in a backslash joins everything. -/
theorem joins_of_settled (settled : opensLast s = false) (last : s.getLast? ≠ some '\\') :
    Joins s rest :=
  ⟨fun h => (by cases settled.symm.trans h), fun h => absurd h last⟩

theorem closes_append (h : s.any isBracket = false → closes rest = false) :
    closes (s ++ rest) = closes s := by
  induction s with
  | nil => exact h rfl
  | cons c s ih =>
    rw [List.cons_append, closes, closes]
    split
    · rfl
    · next hclose =>
      split
      · rfl
      · next hopen => exact ih fun hs => h (by simp [isBracket, hclose, hopen, hs])

theorem startsTag_append (j : Joins (c :: s) rest) :
    startsTag (c :: (s ++ rest)) = startsTag (c :: s) := by
  by_cases hc : c = '['
  · subst hc
    cases s with
    | nil =>
      have hclosed : closes rest = false := j.closes rfl
      cases hstarts : startsTag ('[' :: rest) with
      | false => exact hstarts
      | true => cases (closes_of_startsTag hstarts).symm.trans hclosed
    | cons d s =>
      rw [List.cons_append, startsTag, startsTag]
      cases hd : opensTag d with
      | false => rfl
      | true =>
        obtain ⟨hopen, hclose⟩ := ne_bracket_of_opensTag hd
        rw [closes_append fun hs => j.closes (by simp [opensLast, isBracket, hopen, hclose, hs])]
  · rw [startsTag_of_ne hc, startsTag_of_ne hc]

theorem leadsToTag_append (j : Joins (c :: s) rest) :
    leadsToTag (c :: (s ++ rest)) = leadsToTag (c :: s) := by
  induction s generalizing c with
  | nil =>
    by_cases hc : c = '\\'
    · subst hc
      exact (j.backslash rfl).1
    · rw [leadsToTag_of_ne hc, leadsToTag_of_ne hc, startsTag_append j]
  | cons d s ih =>
    by_cases hc : c = '\\'
    · subst hc
      exact ih j.tail
    · rw [leadsToTag_of_ne hc, leadsToTag_of_ne hc, startsTag_append j]

/-- A character that stands for itself in its part does so in the whole. -/
theorem piecesFrom_append_char (j : Joins (c :: r) rest) (plain : leadsToTag (c :: r) = false)
    (alone : c = '\\' → r.head? ≠ some '[')
    (ih : piecesFrom none (offset + 1) (r ++ rest) =
      piecesFrom none (offset + 1) r ++ piecesFrom none (offset + 1 + r.length) rest) :
    piecesFrom none offset (c :: r ++ rest) =
      piecesFrom none offset (c :: r) ++ piecesFrom none (offset + (c :: r).length) rest := by
  have plain' : leadsToTag (c :: (r ++ rest)) = false := (leadsToTag_append j).trans plain
  have alone' : c = '\\' → (r ++ rest).head? ≠ some '[' := by
    intro hc
    cases r with
    | nil => exact (j.backslash (congrArg some hc)).2
    | cons d r => exact alone hc
  rw [List.cons_append, piecesFrom_char plain' alone', piecesFrom_char plain alone, ih,
    List.length_cons, Nat.add_assoc, Nat.add_comm 1, List.cons_append]

/-- The pieces of a text in two parts are those of the parts, unless the first leaves a tag open. -/
theorem piecesFrom_append (j : Joins s rest) (inside : Option (Nat × List Char)) (offset : Nat)
    (closed : inside.isSome = true → closes s = true) :
    piecesFrom inside offset (s ++ rest) =
      piecesFrom inside offset s ++ piecesFrom none (offset + s.length) rest := by
  -- A tag that is open when `s` starts is closed before `s` ends, so `rest` starts outside of tags.
  induction inside, offset, s using piecesFrom.induct with
  | case1 start body offset r ih =>
    simp only [List.cons_append, piecesFrom, if_true, List.length_cons, ih j.tail (by simp)]
    rw [Nat.add_assoc, Nat.add_comm 1]
  | case2 start body offset c r hclose ih =>
    have hopen : c ≠ '[' := by
      rintro rfl
      cases closed rfl
    have closed' : closes r = true := by rw [← closes_of_ne hopen hclose]; exact closed rfl
    simp only [List.cons_append, piecesFrom, hclose, if_false, List.length_cons,
      ih j.tail fun _ => closed']
    rw [Nat.add_assoc, Nat.add_comm 1]
  | case3 offset r leads ih =>
    have leads' : leadsToTag (r ++ rest) = true := by
      have := leadsToTag_append j
      exact this.trans leads
    simp only [List.cons_append, piecesFrom_leading leads, piecesFrom_leading leads',
      List.length_cons, ih j.tail.tail (by simp)]
    rw [Nat.add_assoc, Nat.add_comm 2]
  | case4 offset r plain ih =>
    exact piecesFrom_append_char j (eq_false_of_ne_true plain) (by simp) (ih j.tail (by simp))
  | case5 offset r ih =>
    simp only [List.cons_append, piecesFrom_bracket, List.length_cons, ih j.tail.tail (by simp)]
    rw [Nat.add_assoc, Nat.add_comm 2]
  | case6 offset c r _ _ starts ih =>
    obtain rfl : c = '[' := Decidable.not_not.mp fun hc => by
      rw [startsTag_of_ne hc] at starts
      cases starts
    have starts' := (startsTag_append j).trans starts
    rw [List.cons_append, piecesFrom_tag starts, piecesFrom_tag starts',
      ih j.tail fun _ => closes_of_startsTag starts, List.length_cons, Nat.add_assoc,
      Nat.add_comm 1]
  | case7 offset c r backslash bracket plain ih =>
    have alone : c = '\\' → r.head? ≠ some '[' := by
      rintro hc hr
      obtain ⟨r, rfl⟩ := List.head?_eq_some_iff.mp hr
      exact bracket r hc rfl
    have plain' : leadsToTag (c :: r) = false := by
      by_cases hc : c = '\\'
      · cases r with
        | nil => rw [hc]; rfl
        | cons d r =>
          have hd : d ≠ '\\' := by
            rintro rfl
            exact backslash r hc rfl
          have hbracket : d ≠ '[' := by
            rintro rfl
            exact bracket r hc rfl
          rw [hc, leadsToTag, leadsToTag_of_ne hd, startsTag_of_ne hbracket]
      · rw [leadsToTag_of_ne hc]
        exact eq_false_of_ne_true plain
    exact piecesFrom_append_char j plain' alone (ih j.tail (by simp))
  | case8 inside offset =>
    cases inside with
    | none => simp [piecesFrom]
    | some _ => cases closed rfl

/-- The tag `body` stands at `k` in the text `s`, which starts at `offset`. -/
def StandsAt (k : Nat) (body : List Char) (offset : Nat) (s : List Char) : Prop :=
  ∃ before after, s = before ++ '[' :: (body ++ ']' :: after) ∧ k = offset + before.length

theorem StandsAt.behind {k : Nat} {body : List Char} (front : List Char)
    (h : StandsAt k body (offset + front.length) s) : StandsAt k body offset (front ++ s) := by
  obtain ⟨before, after, rfl, rfl⟩ := h
  refine ⟨front ++ before, after, by rw [List.append_assoc], ?_⟩
  rw [List.length_append, Nat.add_assoc]

/-- A tag among the pieces of a text stands in it, or was open where the text starts. -/
theorem standsAt_of_mem {inside : Option (Nat × List Char)} {k : Nat} {body : List Char}
    (h : .tag k body ∈ piecesFrom inside offset s) :
    StandsAt k body offset s ∨ ∃ start read unread after, inside = some (start, read) ∧ k = start ∧
      body = read.reverse ++ unread ∧ s = unread ++ ']' :: after := by
  induction inside, offset, s using piecesFrom.induct with
  | case1 start read offset r ih =>
    rw [piecesFrom, if_pos rfl] at h
    rcases List.mem_cons.mp h with h | h
    · cases h
      exact .inr ⟨k, read, [], r, rfl, rfl, by simp, rfl⟩
    · rcases ih h with h | ⟨_, _, _, _, h, _⟩
      · exact .inl (h.behind [']'])
      · cases h
  | case2 start read offset c r hclose ih =>
    rw [piecesFrom, if_neg hclose] at h
    rcases ih h with h | ⟨_, _, unread, after, heq, rfl, rfl, rfl⟩
    · exact .inl (h.behind [c])
    · cases heq
      exact .inr ⟨k, read, c :: unread, after, rfl, rfl, by simp, rfl⟩
  | case3 offset r leads ih =>
    simp only [piecesFrom_leading leads, List.mem_cons, reduceCtorEq, false_or] at h
    rcases ih h with h | ⟨_, _, _, _, h, _⟩
    · exact .inl (h.behind ['\\', '\\'])
    · cases h
  | case4 offset r plain ih =>
    have plain : leadsToTag ('\\' :: '\\' :: r) = false := eq_false_of_ne_true plain
    simp only [piecesFrom_char plain (by simp), List.mem_cons, reduceCtorEq, false_or] at h
    rcases ih h with h | ⟨_, _, _, _, h, _⟩
    · exact .inl (h.behind ['\\'])
    · cases h
  | case5 offset r ih =>
    simp only [piecesFrom_bracket, List.mem_cons, reduceCtorEq, false_or] at h
    rcases ih h with h | ⟨_, _, _, _, h, _⟩
    · exact .inl (h.behind ['\\', '['])
    · cases h
  | case6 offset c r backslash bracket starts ih =>
    rw [piecesFrom.eq_4 _ _ _ backslash bracket, if_pos starts] at h
    obtain rfl : c = '[' := Decidable.not_not.mp fun hc => by
      rw [startsTag_of_ne hc] at starts
      cases starts
    rcases ih h with h | ⟨_, _, unread, after, heq, rfl, rfl, rfl⟩
    · exact .inl (h.behind ['['])
    · cases heq
      exact .inl ⟨[], after, rfl, rfl⟩
  | case7 offset c r backslash bracket plain ih =>
    simp only [piecesFrom.eq_4 _ _ _ backslash bracket, if_neg plain, List.mem_cons, reduceCtorEq,
      false_or] at h
    rcases ih h with h | ⟨_, _, _, _, h, _⟩
    · exact .inl (h.behind [c])
    · cases h
  | case8 inside offset => cases inside <;> cases h

theorem standsAt_of_mem_piecesFrom {k : Nat} {body : List Char}
    (h : .tag k body ∈ piecesFrom none offset s) : StandsAt k body offset s := by
  rcases standsAt_of_mem h with h | ⟨_, _, _, _, h, _⟩
  · exact h
  · cases h

/-! ### Text without tags, and text between tags -/

/-- The texts of the tags among pieces. -/
def bodies (ps : List Piece) : List (List Char) :=
  ps.filterMap fun
    | .tag _ body => some body
    | .char _ => none

@[simp] theorem bodies_char (c : Char) (ps : List Piece) : bodies (.char c :: ps) = bodies ps := rfl

@[simp] theorem bodies_tag (offset : Nat) (body : List Char) (ps : List Piece) :
    bodies (.tag offset body :: ps) = body :: bodies ps := rfl

theorem bodies_append (ps qs : List Piece) : bodies (ps ++ qs) = bodies ps ++ bodies qs :=
  List.filterMap_append

/-- Which tags a text has does not depend on where it stands. -/
theorem bodies_piecesFrom (inside : Option (Nat × List Char)) (offset offset' start : Nat)
    (s : List Char) :
    bodies (piecesFrom (inside.map fun p => (start, p.2)) offset' s) =
      bodies (piecesFrom inside offset s) := by
  induction inside, offset, s using piecesFrom.induct generalizing offset' start with
  | case1 opened body offset r ih =>
    simpa [piecesFrom] using ih (offset' + 1) start
  | case2 opened body offset c r hclose ih =>
    simpa [piecesFrom, hclose] using ih (offset' + 1) start
  | case3 offset r leads ih =>
    simpa [piecesFrom_leading leads] using ih (offset' + 2) start
  | case4 offset r plain ih =>
    have plain : leadsToTag ('\\' :: '\\' :: r) = false := eq_false_of_ne_true plain
    simpa [piecesFrom_char plain (by simp)] using ih (offset' + 1) start
  | case5 offset r ih =>
    simpa [piecesFrom_bracket] using ih (offset' + 2) start
  | case6 offset c r backslash bracket starts ih =>
    simpa [piecesFrom.eq_4 _ _ _ backslash bracket, starts] using ih (offset' + 1) offset'
  | case7 offset c r backslash bracket plain ih =>
    simpa [piecesFrom.eq_4 _ _ _ backslash bracket, plain] using ih (offset' + 1) start
  | case8 inside offset => cases inside <;> rfl

/-- Pieces without tags are characters only. -/
theorem chars_of_bodies_eq_nil {ps : List Piece} (h : bodies ps = []) :
    ∃ cs : List Char, ps = cs.map .char := by
  induction ps with
  | nil => exact ⟨[], rfl⟩
  | cons p ps ih =>
    cases p with
    | tag => cases h
    | char c =>
      obtain ⟨cs, rfl⟩ := ih h
      exact ⟨c :: cs, rfl⟩

theorem bodies_eq_tags (offset : Nat) (s : List Char) :
    bodies (piecesFrom none offset s) = tags s :=
  bodies_piecesFrom none 0 offset 0 s

theorem mem_bodies {k : Nat} {body : List Char} {ps : List Piece} (h : .tag k body ∈ ps) :
    body ∈ bodies ps :=
  List.mem_filterMap.mpr ⟨_, h, rfl⟩

/-- A text without tags shows nothing but characters, wherever it stands. -/
theorem piecesFrom_of_tags_eq_nil (h : tags s = []) (offset : Nat) :
    ∃ cs : List Char, piecesFrom none offset s = cs.map .char :=
  chars_of_bodies_eq_nil ((bodies_eq_tags offset s).trans h)

/-- The characters that pieces show. -/
def characters (ps : List Piece) : List Char :=
  ps.filterMap fun
    | .char c => some c
    | .tag .. => none

@[simp] theorem characters_char (c : Char) (ps : List Piece) :
    characters (.char c :: ps) = c :: characters ps := rfl

@[simp] theorem characters_tag (offset : Nat) (body : List Char) (ps : List Piece) :
    characters (.tag offset body :: ps) = characters ps := rfl

theorem characters_append (ps qs : List Piece) :
    characters (ps ++ qs) = characters ps ++ characters qs :=
  List.filterMap_append

theorem bodies_map_char (cs : List Char) : bodies (cs.map .char) = [] := by
  induction cs with
  | nil => rfl
  | cons c cs ih => exact ih

theorem characters_map_char (cs : List Char) : characters (cs.map .char) = cs := by
  induction cs with
  | nil => rfl
  | cons c cs ih => exact congrArg (c :: ·) ih

theorem not_mem_bodies {ps : List Piece} (h : bodies ps = []) (k : Nat) (body : List Char) :
    .tag k body ∉ ps := by
  intro hp
  obtain ⟨cs, rfl⟩ := chars_of_bodies_eq_nil h
  obtain ⟨c, -, hc⟩ := List.mem_map.mp hp
  cases hc

theorem leadsToTag_eq_false (h : '[' ∉ s) : leadsToTag s = false := by
  induction s with
  | nil => rfl
  | cons c s ih =>
    rw [List.mem_cons, not_or] at h
    by_cases hc : c = '\\'
    · subst hc
      exact ih h.2
    · rw [leadsToTag_of_ne hc, startsTag_of_ne (Ne.symm h.1)]

/-- A text without opening brackets stands for itself. -/
theorem piecesFrom_unbracketed (h : '[' ∉ s) (offset : Nat) :
    piecesFrom none offset s = s.map .char := by
  induction s generalizing offset with
  | nil => rfl
  | cons c s ih =>
    have hs : '[' ∉ s := fun hs => h (List.mem_cons_of_mem c hs)
    rw [piecesFrom_char (leadsToTag_eq_false h) fun _ hhead => hs (List.mem_of_mem_head? hhead),
      ih hs]
    rfl

theorem tags_eq_nil (h : '[' ∉ s) : tags s = [] := by
  show bodies (piecesFrom none 0 s) = []
  rw [piecesFrom_unbracketed h, bodies_map_char]

theorem opensLast_eq_false (h : '[' ∉ s) : opensLast s = false := by
  induction s with
  | nil => rfl
  | cons c s ih =>
    rw [List.mem_cons, not_or] at h
    rw [opensLast, ih h.2]
    simp [Ne.symm h.1]

/-! ### Escaped text -/

theorem shield_leading (h : leadsToTag r = true) :
    shield ('\\' :: r) = '\\' :: '\\' :: shield r := by
  rw [shield, h]
  rfl

theorem shield_tag (h : startsTag ('[' :: r) = true) :
    shield ('[' :: r) = '\\' :: '[' :: shield r := by
  rw [shield, if_pos h]
  rfl

theorem shield_char (h : leadsToTag (c :: r) = false) : shield (c :: r) = c :: shield r := by
  by_cases hc : c = '\\'
  · subst hc
    have hr : leadsToTag r = false := h
    rw [shield, hr]
    rfl
  · rw [leadsToTag_of_ne hc] at h
    rw [shield, h]
    simp [hc]

/-- A text starts with a tag, or with a backslash that leads to one, or its first character takes
part in no tag. -/
theorem leadsToTag_cases (c : Char) (r : List Char) :
    c = '\\' ∧ leadsToTag r = true ∨ c = '[' ∧ startsTag (c :: r) = true ∨
      leadsToTag (c :: r) = false := by
  cases h : leadsToTag (c :: r) with
  | false => exact .inr (.inr rfl)
  | true =>
    by_cases hc : c = '\\'
    · subst hc
      exact .inl ⟨rfl, h⟩
    · rw [leadsToTag_of_ne hc] at h
      refine .inr (.inl ⟨Decidable.not_not.mp fun hne => ?_, h⟩)
      rw [startsTag_of_ne hne] at h
      cases h

/-- Escaping adds no brackets. -/
theorem closes_shield (s : List Char) : closes (shield s) = closes s := by
  induction s with
  | nil => rfl
  | cons c r ih =>
    obtain ⟨rfl, leads⟩ | ⟨rfl, starts⟩ | plain := leadsToTag_cases c r
    · rw [shield_leading leads, closes_of_ne (by decide) (by decide),
        closes_of_ne (by decide) (by decide), closes_of_ne (by decide) (by decide), ih]
    · rw [shield_tag starts, closes_of_ne (by decide) (by decide)]
      rfl
    · rw [shield_char plain, closes, closes, ih]

/-- Escaping leaves tags where they are, behind backslashes. -/
theorem startsTag_shield (c : Char) (r : List Char) :
    startsTag (c :: shield r) = startsTag (c :: r) := by
  by_cases hc : c = '['
  · subst hc
    cases r with
    | nil => rfl
    | cons d r =>
      obtain ⟨rfl, leads⟩ | ⟨rfl, starts⟩ | plain := leadsToTag_cases d r
      · rw [shield_leading leads]
        rfl
      · rw [shield_tag starts]
        rfl
      · rw [shield_char plain, startsTag, startsTag, closes_shield]
  · rw [startsTag_of_ne hc, startsTag_of_ne hc]

theorem leadsToTag_shield (s : List Char) : leadsToTag (shield s) = leadsToTag s := by
  induction s with
  | nil => rfl
  | cons c r ih =>
    obtain ⟨rfl, leads⟩ | ⟨rfl, starts⟩ | plain := leadsToTag_cases c r
    · rw [shield_leading leads]
      exact ih
    · rw [shield_tag starts]
      exact (startsTag_shield '[' r)
    · rw [shield_char plain]
      by_cases hc : c = '\\'
      · subst hc
        exact ih
      · rw [leadsToTag_of_ne hc, leadsToTag_of_ne hc, startsTag_shield]

theorem bodies_shield (s : List Char) (offset : Nat) :
    bodies (piecesFrom none offset (shield s)) = [] := by
  induction s generalizing offset with
  | nil => rfl
  | cons c r ih =>
    obtain ⟨rfl, leads⟩ | ⟨rfl, starts⟩ | plain := leadsToTag_cases c r
    · have leads' := (leadsToTag_shield r).trans leads
      rw [shield_leading leads, piecesFrom_leading leads', bodies_char, ih]
    · rw [shield_tag starts, piecesFrom_bracket, bodies_char, ih]
    · have plain' := (leadsToTag_shield (c :: r)).trans plain
      rw [shield_char plain] at plain' ⊢
      -- A backslash before a bracket is lost, and then the bracket stands for itself.
      by_cases lone : c = '\\' ∧ (shield r).head? = some '['
      · obtain ⟨rfl, hbracket⟩ := lone
        obtain ⟨t, ht⟩ := List.head?_eq_some_iff.mp hbracket
        have rest := ih (offset + 1)
        rw [ht] at plain' rest ⊢
        have starts : leadsToTag ('[' :: t) = false := plain'
        rw [piecesFrom_char starts (by simp), bodies_char] at rest
        rw [piecesFrom_bracket, bodies_char]
        exact rest
      · rw [piecesFrom_char plain' fun hc hr => lone ⟨hc, hr⟩, bodies_char, ih]

/-- Escaped text has no tags, wherever it stands. -/
theorem bodies_escape (s : List Char) (offset : Nat) :
    bodies (piecesFrom none offset (escape s)) = [] := by
  unfold escape
  dsimp only
  split
  · have j : Joins (shield s) ['\\'] := ⟨fun _ => rfl, fun _ => ⟨rfl, by decide⟩⟩
    rw [piecesFrom_append j none offset (by simp), bodies_append, bodies_shield]
    rfl
  · exact bodies_shield s offset

theorem tags_escape (s : List Char) : tags (escape s) = [] := bodies_escape s 0

end Promptline.Markup
