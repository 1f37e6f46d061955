import Promptline.Proofs.Markup.Pieces

/-! Marked-up text that is put together from fragments of two kinds: text of its own, in which tags
may stand, and text from elsewhere, without tags.  If each fragment fits what follows it, the tags of the
whole stand in fragments of its own.  The one thing that text from elsewhere can do is to end in a
backslash and make a closing tag right after it plain text. -/

namespace Promptline.Markup

variable {c : Char} {r s rest : List Char} {offset k : Nat} {body : List Char}

/-! ### Backslashes and brackets before a text -/

theorem exists_of_closes (h : closes r = true) :
    ∃ body after, r = body ++ ']' :: after ∧ ∀ c ∈ body, c ≠ '[' ∧ c ≠ ']' := by
  induction r with
  | nil => cases h
  | cons c r ih =>
    by_cases hclose : c = ']'
    · exact ⟨[], r, by rw [hclose]; rfl, by simp⟩
    · have hopen : c ≠ '[' := by
        rintro rfl
        cases h
      rw [closes_of_ne hopen hclose] at h
      obtain ⟨body, after, rfl, hbody⟩ := ih h
      exact ⟨c :: body, after, rfl, List.forall_mem_cons.mpr ⟨⟨hopen, hclose⟩, hbody⟩⟩

theorem piecesFrom_inside {body : List Char} (h : ∀ c ∈ body, c ≠ ']') (start : Nat)
    (before : List Char) :
    piecesFrom (some (start, before)) offset (body ++ ']' :: r) =
      .tag start (before.reverse ++ body) :: piecesFrom none (offset + body.length + 1) r := by
  induction body generalizing before offset with
  | nil => simp [piecesFrom]
  | cons c body ih =>
    obtain ⟨hclose, hbody⟩ := List.forall_mem_cons.mp h
    rw [List.cons_append, piecesFrom, if_neg hclose, ih hbody, List.reverse_cons,
      List.append_assoc, List.length_cons, Nat.add_right_comm offset 1, Nat.add_assoc offset]
    rfl

/-- What follows an opening bracket: it is all there is without the bracket, and if the bracket starts
a tag, that is the first piece with it. -/
theorem piecesFrom_open (offset : Nat) (r : List Char) :
    ∃ p, ∃ cs : List Char, ∃ ps, piecesFrom none offset ('[' :: r) = p :: ps ∧
      piecesFrom none (offset + 1) r = cs.map .char ++ ps ∧
      ((p = .char '[' ∧ cs = []) ∨ ∃ body, p = .tag offset body ∧ body.head? = r.head?) := by
  cases starts : startsTag ('[' :: r) with
  | false =>
    have plain : leadsToTag ('[' :: r) = false := by rw [leadsToTag_of_ne (by decide), starts]
    exact ⟨_, [], _, piecesFrom_char plain (by simp), rfl, .inl ⟨rfl, rfl⟩⟩
  | true =>
    obtain ⟨body, after, rfl, hbody⟩ := exists_of_closes (closes_of_startsTag starts)
    have hopen : '[' ∉ body ++ [']'] := by
      simpa using fun h => (hbody _ h).1 rfl
    have j : Joins (body ++ [']']) after :=
      joins_of_settled (opensLast_eq_false hopen) (by simp)
    refine ⟨.tag offset body, body ++ [']'], piecesFrom none (offset + 1 + body.length + 1) after,
      ?_, ?_, .inr ⟨body, rfl, ?_⟩⟩
    · rw [piecesFrom_tag starts, piecesFrom_inside fun c hc => (hbody c hc).2]
      rfl
    · rw [List.append_cons, piecesFrom_append j none (offset + 1) (by simp),
        piecesFrom_unbracketed hopen]
      simp [Nat.add_assoc]
    · cases body with
      | nil => cases starts
      | cons c body => rfl

/-- `whole` has the pieces of `rest`, which starts at `offset`, after some characters.  The bracket
with which `rest` starts may be one of them. -/
def EndsWith (rest : List Char) (offset : Nat) (whole : List Piece) : Prop :=
  ∃ cs : List Char, whole = cs.map .char ++ piecesFrom none offset rest ∨
    ∃ r, rest = '[' :: r ∧ whole = cs.map .char ++ piecesFrom none (offset + 1) r

theorem EndsWith.append {ps : List Piece} (cs : List Char) (h : EndsWith rest offset ps) :
    EndsWith rest offset (cs.map .char ++ ps) := by
  obtain ⟨ds, rfl | ⟨r, hr, rfl⟩⟩ := h
  · exact ⟨cs ++ ds, .inl (by simp)⟩
  · exact ⟨cs ++ ds, .inr ⟨r, hr, by simp⟩⟩

/-- The last of the backslashes before a text may take the bracket with which the text starts. -/
theorem endsWith_backslashes (n offset : Nat) (head : rest.head? ≠ some '\\') :
    EndsWith rest (offset + n) (piecesFrom none offset (List.replicate n '\\' ++ rest)) := by
  induction n using Nat.strongRecOn generalizing offset with
  | ind n ih =>
    match n with
    | 0 => exact ⟨[], .inl rfl⟩
    | 1 =>
      by_cases hr : rest.head? = some '['
      · obtain ⟨r, rfl⟩ := List.head?_eq_some_iff.mp hr
        exact ⟨['['], .inr ⟨r, rfl, piecesFrom_bracket⟩⟩
      · have plain : leadsToTag ('\\' :: rest) = false := by
          cases rest with
          | nil => rfl
          | cons c r =>
            have hbackslash : c ≠ '\\' := fun h => head (congrArg some h)
            have hbracket : c ≠ '[' := fun h => hr (congrArg some h)
            rw [leadsToTag, leadsToTag_of_ne hbackslash, startsTag_of_ne hbracket]
        exact ⟨['\\'], .inl (piecesFrom_char plain fun _ => hr)⟩
    | n + 2 =>
      -- Of two backslashes that lead to a tag both are read at once, of others only the first.
      cases leads : leadsToTag (List.replicate n '\\' ++ rest) with
      | true =>
        have two := (ih n (by omega) (offset + 2)).append ['\\']
        rw [Nat.add_assoc, Nat.add_comm 2] at two
        exact (piecesFrom_leading leads).symm ▸ two
      | false =>
        have one := (ih (n + 1) (by omega) (offset + 1)).append ['\\']
        rw [Nat.add_assoc, Nat.add_comm 1] at one
        have plain : leadsToTag ('\\' :: '\\' :: (List.replicate n '\\' ++ rest)) = false := leads
        exact (piecesFrom_char plain (by simp)).symm ▸ one

/-- The backslashes at the end of a text. -/
theorem exists_backslashes (s : List Char) :
    ∃ a n, s = a ++ List.replicate n '\\' ∧ a.getLast? ≠ some '\\' := by
  induction h : s.length generalizing s with
  | zero => exact ⟨s, 0, by simp, by simp [List.eq_nil_of_length_eq_zero h]⟩
  | succ k ih =>
    by_cases last : s.getLast? = some '\\'
    · obtain ⟨t, rfl⟩ := List.getLast?_eq_some_iff.mp last
      obtain ⟨a, n, rfl, ha⟩ := ih t (by simpa using h)
      exact ⟨a, n + 1, by rw [List.replicate_succ', List.append_assoc], ha⟩
    · exact ⟨s, 0, by simp, last⟩

theorem opensLast_append_backslashes (a : List Char) (n : Nat) :
    opensLast (a ++ List.replicate n '\\') = opensLast a := by
  induction a with
  | nil => exact opensLast_eq_false (by simp [List.mem_replicate])
  | cons c a ih =>
    have unbracketed : (List.replicate n '\\').any isBracket = false := by
      simp [isBracket]
    rw [List.cons_append, opensLast, opensLast, ih, List.any_append, unbracketed, Bool.or_false]

theorem closes_backslashes (n : Nat) (r : List Char) :
    closes (List.replicate n '\\' ++ r) = closes r := by
  induction n with
  | zero => rfl
  | succ n ih => rw [List.replicate_succ, List.cons_append, closes_of_ne (by decide) (by decide), ih]

/-- Of a text without tags, a backslash at its end may take the bracket with which the rest
starts. -/
theorem endsWith_of_tags_eq_nil (offset : Nat) (untagged : tags s = [])
    (closed : opensLast s = true → closes rest = false) (head : rest.head? ≠ some '\\') :
    EndsWith rest (offset + s.length) (piecesFrom none offset (s ++ rest)) := by
  obtain ⟨a, n, rfl, last⟩ := exists_backslashes s
  rw [opensLast_append_backslashes] at closed
  have joins : Joins a (List.replicate n '\\' ++ rest) :=
    ⟨by rwa [closes_backslashes], fun h => absurd h last⟩
  obtain ⟨cs, hcs⟩ : ∃ cs : List Char, piecesFrom none offset a = cs.map .char := by
    have joins : Joins a (List.replicate n '\\') := by
      refine ⟨fun _ => ?_, fun h => absurd h last⟩
      simpa [closes] using closes_backslashes n []
    obtain ⟨cs, hcs⟩ := piecesFrom_of_tags_eq_nil untagged offset
    rw [piecesFrom_append joins none offset (by simp)] at hcs
    obtain ⟨cs, _, -, h, -⟩ := List.map_eq_append_iff.mp hcs.symm
    exact ⟨cs, h.symm⟩
  rw [List.append_assoc, piecesFrom_append joins none offset (by simp), hcs, List.length_append,
    List.length_replicate, ← Nat.add_assoc]
  exact (endsWith_backslashes n (offset + a.length) head).append cs

/-! ### Fragments -/

/-- A part of a marked-up text. -/
inductive Fragment where
  /-- Text in which tags may stand. -/
  | own (s : String)
  /-- Text that comes from elsewhere. -/
  | foreign (s : List Char)
deriving DecidableEq, Repr

namespace Fragment

def text : Fragment → List Char
  | own s => s.toList
  | foreign s => s

/-- The whole text. -/
def textOf (fs : List Fragment) : List Char := fs.flatMap text

/-- The tags of the fragments that may have some. -/
def tagsOf (fs : List Fragment) : List (List Char) :=
  fs.flatMap fun
    | own s => tags s.toList
    | foreign _ => []

/-- Text from elsewhere may stand before `rest`: there is no backslash at its start, and no tag other
than a closing one. -/
def canFollow (rest : List Char) : Bool :=
  match rest with
  | '\\' :: _ => false
  | '[' :: r => r.head? = some '/'
  | _ => true

/-- Each fragment fits what follows it.  Text of its own has no tag that it leaves open, and text from
elsewhere has no tag at all. -/
def Fit : List Fragment → Prop
  | [] => True
  | own s :: fs => (opensLast s.toList = false ∧ s.toList.getLast? ≠ some '\\') ∧ Fit fs
  | foreign s :: fs =>
    (tags s = [] ∧ (opensLast s = true → closes (textOf fs) = false) ∧
      canFollow (textOf fs) = true) ∧ Fit fs

/-- The tag `body` at `k` stands in a fragment of the text's own, if the text starts at `offset`. -/
def IsOwn (fs : List Fragment) (offset k : Nat) (body : List Char) : Prop :=
  ∃ before s after, fs = before ++ own s :: after ∧ body ∈ tags s.toList ∧
    StandsAt k body (offset + (textOf before).length) s.toList

end Fragment

open Fragment

/-- `xs` are the tags `ys` without some of the closing ones. -/
inductive Spares : List (List Char) → List (List Char) → Prop where
  | nil : Spares [] []
  | keep {xs ys : List (List Char)} (body : List Char) :
      Spares xs ys → Spares (body :: xs) (body :: ys)
  | skip {xs ys : List (List Char)} {body : List Char} (closing : body.head? = some '/') :
      Spares xs ys → Spares xs (body :: ys)

namespace Spares

variable {xs ys zs : List (List Char)}

theorem refl (xs : List (List Char)) : Spares xs xs := by
  induction xs with
  | nil => exact .nil
  | cons x xs ih => exact .keep x ih

theorem append_left (zs : List (List Char)) (h : Spares xs ys) : Spares (zs ++ xs) (zs ++ ys) := by
  induction zs with
  | nil => exact h
  | cons z zs ih => exact .keep z ih

theorem trans (h : Spares xs ys) (h' : Spares ys zs) : Spares xs zs := by
  induction h' generalizing xs with
  | nil => exact h
  | keep body _ ih =>
    cases h with
    | keep _ h => exact .keep body (ih h)
    | skip closing h => exact .skip closing (ih h)
  | skip closing _ ih => exact .skip closing (ih h)

end Spares

namespace EndsWith

variable {whole : List Piece}

theorem mem_of_mem (h : EndsWith rest offset whole) (hp : .tag k body ∈ whole) :
    .tag k body ∈ piecesFrom none offset rest := by
  have notChar (cs : List Char) : Piece.tag k body ∉ cs.map .char :=
    not_mem_bodies (bodies_map_char cs) k body
  obtain ⟨cs, rfl | ⟨r, rfl, rfl⟩⟩ := h
  · exact (List.mem_append.mp hp).resolve_left (notChar cs)
  · have hp := (List.mem_append.mp hp).resolve_left (notChar cs)
    obtain ⟨p, ds, ps, hopen, hrest, -⟩ := piecesFrom_open offset r
    rw [hrest] at hp
    rw [hopen]
    exact List.mem_cons_of_mem p ((List.mem_append.mp hp).resolve_left (notChar ds))

theorem spares (h : EndsWith rest offset whole) (follows : canFollow rest = true) :
    Spares (bodies whole) (bodies (piecesFrom none offset rest)) := by
  obtain ⟨cs, rfl | ⟨r, rfl, rfl⟩⟩ := h
  · rw [bodies_append, bodies_map_char]
    exact .refl _
  · obtain ⟨p, ds, ps, hopen, hrest, hp⟩ := piecesFrom_open offset r
    rw [hrest, hopen, bodies_append, bodies_append, bodies_map_char, bodies_map_char]
    obtain ⟨rfl, -⟩ | ⟨body, rfl, hbody⟩ := hp
    · exact .refl _
    · exact .skip (hbody.trans (of_decide_eq_true follows)) (.refl _)

end EndsWith

namespace Fragment

variable {fs : List Fragment}

theorem canFollow_head (h : canFollow rest = true) : rest.head? ≠ some '\\' := by
  intro head
  obtain ⟨r, rfl⟩ := List.head?_eq_some_iff.mp head
  cases h

/-- A tag of a text that is put together stands in a fragment of its own. -/
theorem isOwn_of_mem (fit : Fit fs) (hp : .tag k body ∈ piecesFrom none offset (textOf fs)) :
    IsOwn fs offset k body := by
  induction fs generalizing offset with
  | nil => cases hp
  | cons f fs ih =>
    have behind (h : IsOwn fs (offset + f.text.length) k body) : IsOwn (f :: fs) offset k body := by
      obtain ⟨before, s, after, rfl, hs, stands⟩ := h
      refine ⟨f :: before, s, after, rfl, hs, ?_⟩
      rwa [textOf, List.flatMap_cons, List.length_append, ← Nat.add_assoc]
    -- A fragment of its own leaves nothing open, so its pieces come first and those of the rest after
    -- them.  One from elsewhere has no tag, so the tag is one of the rest.
    cases f with
    | own s =>
      obtain ⟨⟨closed, last⟩, fit⟩ := fit
      rw [show textOf (own s :: fs) = s.toList ++ textOf fs from rfl,
        piecesFrom_append (joins_of_settled closed last) none offset (by simp)] at hp
      rcases List.mem_append.mp hp with hp | hp
      · have hs : body ∈ tags s.toList := bodies_eq_tags offset s.toList ▸ mem_bodies hp
        exact ⟨[], s, fs, rfl, hs, standsAt_of_mem_piecesFrom hp⟩
      · exact behind (ih fit hp)
    | foreign s =>
      obtain ⟨⟨untagged, closed, follows⟩, fit⟩ := fit
      have ends := endsWith_of_tags_eq_nil offset untagged closed
        (canFollow_head follows)
      exact behind (ih fit (ends.mem_of_mem hp))

/-- The tags of a text that is put together are those of its own fragments, in their order, but for
closing tags that a backslash has taken. -/
theorem spares_tagsOf (fit : Fit fs) :
    Spares (bodies (piecesFrom none offset (textOf fs))) (tagsOf fs) := by
  induction fs generalizing offset with
  | nil => exact .nil
  | cons f fs ih =>
    cases f with
    | own s =>
      obtain ⟨⟨closed, last⟩, fit⟩ := fit
      rw [show textOf (own s :: fs) = s.toList ++ textOf fs from rfl,
        piecesFrom_append (joins_of_settled closed last) none offset (by simp), bodies_append,
        bodies_eq_tags]
      exact (ih fit).append_left (tags s.toList)
    | foreign s =>
      obtain ⟨⟨untagged, closed, follows⟩, fit⟩ := fit
      have ends := endsWith_of_tags_eq_nil offset untagged closed
        (canFollow_head follows)
      exact (ends.spares follows).trans (ih fit)

end Fragment

end Promptline.Markup
