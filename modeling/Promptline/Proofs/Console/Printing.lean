import Mathlib.Data.List.TakeDrop
import Promptline.Console.Printing
import Promptline.Proofs.Markup.Fragments

/-! Printing succeeds if what is printed has readable styles only.  Laying a text out cuts its spans
and moves them, but their styles stay what they are, and what is highlighted has no style of its own.
So text whose tags name such styles and are balanced can be printed at every width. -/

namespace Promptline.Text

/-- The styles of the spans of a text have the property `P`. -/
def SpannedText.Styled (P : String → Prop) (t : SpannedText) : Prop := ∀ s ∈ t.spans, P s.style

namespace SpannedText

variable {P : String → Prop} {t t' : SpannedText}

/-- Each span of `t'` has the style of one of `t`. -/
theorem Styled.of_spans (h : t.Styled P)
    (hspans : ∀ s' ∈ t'.spans, ∃ s ∈ t.spans, s'.style = s.style) :
    t'.Styled P := by
  intro s' hs'
  obtain ⟨s, hs, same⟩ := hspans s' hs'
  rw [same]
  exact h s hs

theorem Styled.append (h : t.Styled P) (h' : t'.Styled P) : (t ++ t').Styled P := by
  intro s hs
  obtain hs | hs := List.mem_append.mp hs
  · exact h s hs
  · obtain ⟨s', hs', rfl⟩ := List.mem_map.mp hs
    exact h' s' hs'

theorem Styled.join {ts : List SpannedText} (h : ∀ t ∈ ts, t.Styled P) :
    (SpannedText.join ts).Styled P := by
  have go : ∀ ts : List SpannedText, (∀ t ∈ ts, t.Styled P) → ∀ t : SpannedText, t.Styled P →
      (ts.foldl (· ++ ·) t).Styled P := by
    intro ts
    induction ts with
    | nil => exact fun _ t ht => ht
    | cons u us ih =>
      intro h t ht
      obtain ⟨hu, hus⟩ := List.forall_mem_cons.mp h
      exact ih hus _ (ht.append hu)
  exact go ts h {} fun s hs => (List.not_mem_nil hs).elim

theorem Styled.takeUpTo (h : t.Styled P) (stop : Nat) : (t.takeUpTo stop).Styled P := by
  refine h.of_spans fun s' hs' => ?_
  obtain ⟨s, hs, hcut⟩ := List.mem_filterMap.mp hs'
  refine ⟨s, hs, ?_⟩
  unfold Span.upTo? at hcut
  split at hcut <;> cases hcut
  rfl

theorem Styled.slice (h : t.Styled P) (first last : Nat) : (t.slice first last).Styled P := by
  refine h.of_spans fun s' hs' => ?_
  obtain ⟨s, hs, hcut⟩ := List.mem_filterMap.mp hs'
  refine ⟨s, hs, ?_⟩
  unfold Span.within? at hcut
  dsimp only at hcut
  split at hcut <;> cases hcut
  rfl

theorem Styled.slices (h : t.Styled P) (gap offset : Nat) (lengths : List Nat) :
    ∀ u ∈ t.slices gap offset lengths, u.Styled P := by
  induction lengths generalizing offset with
  | nil => exact fun u hu => (List.not_mem_nil hu).elim
  | cons n ns ih => exact List.forall_mem_cons.mpr ⟨h.slice _ _, ih _⟩

theorem Styled.divide (h : t.Styled P) (gap : Nat) (lengths : List Nat) :
    ∀ u ∈ t.divide gap lengths, u.Styled P := by
  unfold SpannedText.divide
  split
  · rintro u hu
    rw [List.mem_singleton.mp hu]
    exact h
  · exact h.slices gap 0 lengths

theorem Styled.extend (h : t.Styled P) (n : Nat) : (t.extend n).Styled P := by
  refine h.of_spans fun s' hs' => ?_
  obtain ⟨s, hs, rfl⟩ := List.mem_map.mp hs'
  refine ⟨s, hs, ?_⟩
  split <;> rfl

end SpannedText

namespace SpannedText.Styled

variable {P : String → Prop} {t : SpannedText} (h : t.Styled P)
include h

theorem expandTabs : (Text.expandTabs t).Styled P := by
  unfold Text.expandTabs
  split
  · refine .join (List.forall_mem_append.mpr ⟨?_, ?_⟩)
    · intro u hu
      obtain ⟨v, hv, rfl⟩ := List.mem_map.mp hu
      have spaced : Styled P { v with chars := v.chars.dropLast ++ [' '] } := h.slices 0 0 _ v hv
      exact spaced.extend _
    · intro u hu
      rw [List.mem_singleton.mp hu]
      exact h.slice _ _
  · exact h

theorem cropBlanks (width : Nat) : (Text.cropBlanks width t).Styled P := by
  unfold Text.cropBlanks
  dsimp only
  split
  · exact h
  · exact h.takeUpTo _

theorem cropText (width : Nat) : (Text.cropText width t).Styled P := by
  unfold Text.cropText
  dsimp only
  split
  · exact h.takeUpTo _
  · exact h

theorem wrapLine (width : Nat) : ∀ l ∈ Text.wrapLine width t, l.Styled P := by
  intro l hl
  obtain ⟨u, hu, rfl⟩ := List.mem_map.mp hl
  exact ((h.expandTabs.divide 0 _ u hu).cropBlanks width).cropText width

theorem wrapText (width : Nat) : ∀ l ∈ Text.wrapText width t, l.Styled P := by
  intro l hl
  obtain ⟨u, hu, hl⟩ := List.mem_flatMap.mp hl
  exact (h.divide 1 _ u hu).wrapLine width l hl

end SpannedText.Styled

end Promptline.Text

namespace Promptline.Markup

open Promptline.Text

/-- A style that can be read, whether it is one or not. -/
def IsReadable (style : String) : Prop := ∃ s, StyleName.read style.toList = .ok s

/-- The text of the tag that closes what `name` opens. -/
def closingTag (name : String) : List Char := '/' :: name.toList

/-- `name` is its own normal form, as the name of a style in the tags `[name]` and `[/name]`. -/
structure IsStyle (name : String) : Prop where
  opening : actionOf name.toList = .ok (.opening name none)
  closing : actionOf (closingTag name) = .ok (.closing name)
  style : name.toList.head? ≠ some '@'
  readable : IsReadable name

theorem isStyle_red : IsStyle "red" := ⟨rfl, rfl, by decide, _, rfl⟩

theorem isStyle_dim : IsStyle "dim" := ⟨rfl, rfl, by decide, _, rfl⟩

/-- Tags that name styles, where each closing tag closes an open one.  At the start the tags with
`names` are open. -/
inductive Balanced : List String → List (List Char) → Prop where
  | nil (names : List String) : Balanced names []
  | opening {names : List String} {name : String} {bodies : List (List Char)} :
      IsStyle name → Balanced (name :: names) bodies → Balanced names (name.toList :: bodies)
  | closing {names : List String} {name : String} {bodies : List (List Char)} :
      IsStyle name → name ∈ names → Balanced (names.erase name) bodies →
        Balanced names (closingTag name :: bodies)

/-- A tag that starts with a slash opens nothing. -/
theorem actionOf_closing (r : List Char) (name : String) (parameters : Option (List Char)) :
    actionOf ('/' :: r) ≠ .ok (.opening name parameters) := by
  have slash : (('/' :: r).span (· ≠ '=')).1 = '/' :: r.takeWhile (· ≠ '=') := by
    rw [List.span_eq_takeWhile_dropWhile]
    rfl
  unfold actionOf
  simp only [slash]
  split
  · intro h; cases h
  · cases normalName (Text.trim (r.takeWhile (· ≠ '='))) <;> intro h <;> cases h

namespace Balanced

variable {names names' : List String} {xs ys : List (List Char)}

/-- A tag and right after it the tag that closes it. -/
theorem pair {name : String} (style : IsStyle name) (rest : Balanced names xs) :
    Balanced names (name.toList :: closingTag name :: xs) := by
  refine .opening style (.closing style List.mem_cons_self ?_)
  rwa [List.erase_cons_head]

/-- It does no harm that more tags are open. -/
theorem mono (h : Balanced names xs) (more : ∀ name, names.count name ≤ names'.count name) :
    Balanced names' xs := by
  induction h generalizing names' with
  | nil => exact .nil names'
  | @opening names name _ style _ ih =>
    refine .opening style (ih fun n => ?_)
    rw [List.count_cons, List.count_cons]
    exact Nat.add_le_add_right (more n) _
  | @closing names name _ style found _ ih =>
    have found' : 0 < names'.count name :=
      Nat.lt_of_lt_of_le (List.count_pos_iff.mpr found) (more name)
    refine .closing style (List.count_pos_iff.mp found') (ih fun n => ?_)
    rw [List.count_erase, List.count_erase]
    exact Nat.sub_le_sub_right (more n) _

/-- It does no harm that closing tags are missing. -/
theorem of_spares (h : Balanced names ys) (spares : Spares xs ys) : Balanced names xs := by
  induction spares generalizing names with
  | nil => exact h
  | keep body _ ih =>
    cases h with
    | opening style h => exact .opening style (ih h)
    | closing style found h => exact .closing style found (ih h)
  | @skip xs ys body closing _ ih =>
    cases h with
    | opening style h =>
      obtain ⟨r, hr⟩ := List.head?_eq_some_iff.mp closing
      exact absurd (hr ▸ style.opening) (actionOf_closing r _ _)
    | closing style found h =>
      refine (ih h).mono fun n => ?_
      rw [List.count_erase]
      exact Nat.sub_le ..

end Balanced

/-- Two steps succeed only if both do. -/
theorem bind_eq_ok {α β ε : Type} {x : Except ε α} {f : α → Except ε β} {b : β}
    (h : x >>= f = .ok b) : ∃ a, x = .ok a ∧ f a = .ok b := by
  cases x with
  | error e => cases h
  | ok a => exact ⟨a, rfl, h⟩

namespace Rendering

variable {r r' : Rendering} {names : List String} {name : String}

/-! ### What a rendered text shows -/

theorem shown_push (r : Rendering) (c : Char) :
    (r.push c).shown.reverse = r.shown.reverse ++ stripControls [c] := by
  unfold push stripControls
  split <;> simp_all

theorem shown_close {t : OpenTag} {stack : List OpenTag} (h : r.close t stack = .ok r') :
    r'.shown = r.shown := by
  unfold close at h
  cases hspan : t.close r.size with
  | error f =>
    rw [hspan] at h
    cases h
  | ok span =>
    rw [hspan] at h
    cases h
    rfl

/-- A tag that can be followed shows nothing. -/
theorem shown_act {offset : Nat} {body : List Char} (h : r.act offset body = .ok r') :
    r'.shown = r.shown := by
  unfold act at h
  obtain ⟨action, -, h⟩ := bind_eq_ok h
  cases action with
  | opening name parameters =>
    cases h
    rfl
  | closing name =>
    dsimp only at h
    split at h
    · cases h
    · exact shown_close h
  | closingNewest =>
    dsimp only at h
    split at h
    · cases h
    · exact shown_close h

theorem shown_foldlM_add {ps : List Piece} (h : ps.foldlM add r = .ok r') :
    r'.shown.reverse = r.shown.reverse ++ stripControls (characters ps) := by
  induction ps generalizing r with
  | nil =>
    cases h
    simp [characters, stripControls]
  | cons p ps ih =>
    rw [List.foldlM_cons] at h
    obtain ⟨r'', hadd, h⟩ := bind_eq_ok h
    rw [ih h]
    cases p with
    | char c =>
      cases hadd
      rw [shown_push, characters_char, List.append_assoc, stripControls, stripControls,
        ← List.filter_append]
      rfl
    | tag offset body =>
      have hact : r.act offset body = .ok r'' := hadd
      rw [shown_act hact, characters_tag]

/-! ### Balanced tags are followed to the end -/

/-- The open tags have `names`, newest first, and all that has a style has one that can be read. -/
structure Tidy (r : Rendering) (names : List String) : Prop where
  stack : r.stack.map OpenTag.name = names
  tags : ∀ t ∈ r.stack, t.parameters = none ∧ IsStyle t.name
  spans : ∀ s ∈ r.spans, IsReadable s.style

theorem Tidy.push (h : r.Tidy names) (c : Char) : (r.push c).Tidy names := by
  unfold Rendering.push
  split
  · exact h
  · exact ⟨h.stack, h.tags, h.spans⟩

theorem Tidy.opening (h : r.Tidy names) (style : IsStyle name) (offset : Nat) :
    ∃ r', r.act offset name.toList = .ok r' ∧ r'.Tidy (name :: names) := by
  refine ⟨{ r with stack := ⟨r.size, name, none⟩ :: r.stack }, ?_, ?_⟩
  · unfold act
    simp only [style.opening]
    rfl
  · exact ⟨by simp [h.stack], List.forall_mem_cons.mpr ⟨⟨rfl, style⟩, h.tags⟩, h.spans⟩

theorem Tidy.closing (h : r.Tidy names) (style : IsStyle name) (found : name ∈ names)
    (offset : Nat) :
    ∃ r', r.act offset (closingTag name) = .ok r' ∧ r'.Tidy (names.erase name) := by
  obtain ⟨t, ht⟩ : ∃ t, r.stack.find? (·.name = name) = some t := by
    rw [← h.stack] at found
    obtain ⟨t, ht, rfl⟩ := List.mem_map.mp found
    refine Option.isSome_iff_exists.mp (List.find?_isSome.mpr ⟨t, ht, by simp⟩)
  obtain ⟨parameters, -⟩ := h.tags t (List.mem_of_find?_eq_some ht)
  obtain rfl : t.name = name := by simpa using List.find?_some ht
  have closed : t.close r.size = .ok ⟨t.start, r.size, t.name⟩ := by
    simp [OpenTag.close, OpenTag.isHandler, style.style, OpenTag.style, parameters]
  refine ⟨{ r with spans := ⟨t.start, r.size, t.name⟩ :: r.spans
                   stack := r.stack.eraseP (·.name = t.name) }, ?_, ?_, ?_, ?_⟩
  · unfold act
    simp only [style.closing, bind, Except.bind, ht]
    rw [close, closed]
    rfl
  · have same : (fun u : OpenTag => decide (u.name = t.name)) = (t.name == ·) ∘ OpenTag.name :=
      funext fun u => decide_eq_decide.mpr eq_comm
    rw [← h.stack, List.erase_eq_eraseP, List.eraseP_map, same]
  · exact fun u hu => h.tags u (List.mem_of_mem_eraseP hu)
  · exact List.forall_mem_cons.mpr ⟨style.readable, h.spans⟩

theorem Tidy.foldlM_add {ps : List Piece} (h : r.Tidy names)
    (balanced : Balanced names (bodies ps)) :
    ∃ r' names', ps.foldlM add r = .ok r' ∧ r'.Tidy names' := by
  induction ps generalizing r names with
  | nil => exact ⟨r, names, rfl, h⟩
  | cons p ps ih =>
    cases p with
    | char c => exact ih (h.push c) balanced
    | tag offset body =>
      -- An opening and a closing tag differ in the names that are open after it.
      have step {names'' : List String}
          (hact : ∃ r'', r.act offset body = .ok r'' ∧ r''.Tidy names'')
          (rest : Balanced names'' (bodies ps)) :
          ∃ r' names', (Piece.tag offset body :: ps).foldlM add r = .ok r' ∧ r'.Tidy names' := by
        obtain ⟨r'', hact, tidy⟩ := hact
        have hadd : r.add (.tag offset body) = .ok r'' := hact
        rw [List.foldlM_cons, hadd]
        exact ih tidy rest
      rw [bodies_tag] at balanced
      cases balanced with
      | opening style rest => exact step (h.opening style offset) rest
      | closing style found rest => exact step (h.closing style found offset) rest

end Rendering

/-- A text that is rendered shows its characters. -/
theorem chars_of_render {s : List Char} {t : SpannedText} (h : render s = .ok t) :
    t.chars = stripControls (characters (pieces s)) := by
  unfold render at h
  cases hr : (pieces s).foldlM Rendering.add {} with
  | error f =>
    rw [hr] at h
    cases h
  | ok r =>
    rw [hr] at h
    cases h
    exact Rendering.shown_foldlM_add hr

/-- Text with balanced tags is rendered: it shows its characters in styles that can be read. -/
theorem render_balanced {s : List Char} (balanced : Balanced [] (tags s)) :
    ∃ t, render s = .ok t ∧ t.chars = stripControls (characters (pieces s)) ∧
      t.Styled IsReadable := by
  have tidy : Rendering.Tidy {} [] := ⟨rfl, by simp, by simp⟩
  obtain ⟨r, names, hr, tidy⟩ := tidy.foldlM_add balanced
  have hrender : render s = .ok r.finish := by
    rw [render, hr]
    rfl
  refine ⟨r.finish, hrender, chars_of_render hrender, fun span hspan => ?_⟩
  rcases List.mem_append.mp (List.mem_mergeSort.mp hspan) with hspan | hspan
  · obtain ⟨t, ht, rfl⟩ := List.mem_map.mp (List.mem_reverse.mp hspan)
    obtain ⟨plain, style⟩ := tidy.tags t ht
    rw [OpenTag.span, OpenTag.style, plain]
    exact style.readable
  · exact tidy.spans span hspan

/-- Text is rendered if its fragments fit and its own tags are balanced. -/
theorem render_fit {fs : List Fragment} (fit : Fragment.Fit fs)
    (balanced : Balanced [] (Fragment.tagsOf fs)) :
    ∃ t, render (Fragment.textOf fs) = .ok t ∧
      t.chars = stripControls (characters (pieces (Fragment.textOf fs))) ∧ t.Styled IsReadable :=
  render_balanced (balanced.of_spares (Fragment.spares_tagsOf fit))

end Promptline.Markup

namespace Promptline.Console

open Promptline Promptline.Markup Promptline.Text

variable {t : SpannedText}

theorem forM_eq_ok {α ε : Type} {xs : List α} {f : α → Except ε Unit} (h : ∀ x ∈ xs, f x = .ok ()) :
    xs.forM f = .ok () := by
  induction xs with
  | nil => rfl
  | cons x xs ih =>
    obtain ⟨hx, hxs⟩ := List.forall_mem_cons.mp h
    rw [List.forM, hx]
    exact ih hxs

theorem checkStyles_eq_ok {ls : List SpannedText} (h : ∀ l ∈ ls, l.Styled IsReadable) :
    checkStyles ls = .ok () := by
  refine forM_eq_ok fun s hs => ?_
  obtain ⟨l, hl, hs⟩ := List.mem_flatMap.mp hs
  obtain ⟨style, hstyle⟩ := h l hl s hs
  rw [hstyle]
  rfl

theorem layOut_succeeds (width : Nat) (h : t.Styled IsReadable) :
    ∃ out, layOut width t = .ok out := by
  rw [layOut, checkStyles_eq_ok (h.wrapText width)]
  exact ⟨_, rfl⟩

theorem styled_highlighted {P : String → Prop} (h : t.Styled P) (plain : P "") :
    (highlighted t).Styled P := by
  refine List.forall_mem_append.mpr ⟨fun s hs => ?_, h⟩
  obtain ⟨p, -, rfl⟩ := List.mem_map.mp hs
  exact plain

/-- Text whose styles can be read is printed at every width. -/
theorem print_succeeds (width : Nat) {markup : String} (hrender : render markup.toList = .ok t)
    (h : t.Styled IsReadable) :
    (∃ out, print width markup = .ok out) ∧ ∃ out, printPlain width markup = .ok out := by
  have plain : IsReadable "" := ⟨_, rfl⟩
  obtain ⟨out, hout⟩ := layOut_succeeds width (styled_highlighted h plain)
  obtain ⟨out', hout'⟩ := layOut_succeeds width h
  exact ⟨⟨out, by rw [print, hrender]; exact hout⟩, out', by rw [printPlain, hrender]; exact hout'⟩

/-- Text is printed at every width if its fragments fit and its own tags are balanced. -/
theorem print_fit (width : Nat) {markup : String} {fs : List Fragment}
    (hmarkup : markup.toList = Fragment.textOf fs) (fit : Fragment.Fit fs)
    (balanced : Balanced [] (Fragment.tagsOf fs)) :
    (∃ out, print width markup = .ok out) ∧ ∃ out, printPlain width markup = .ok out := by
  obtain ⟨t, hrender, -, styled⟩ := render_fit fit balanced
  exact print_succeeds width (hmarkup ▸ hrender) styled

/-- A text of the shell's own and text without tags after it are printed at every width. -/
theorem print_untagged (width : Nat) {label s : String} (untagged : tags s.toList = [])
    (closed : opensLast label.toList = false ∧ label.toList.getLast? ≠ some '\\')
    (balanced : Balanced [] (tags label.toList)) :
    (∃ out, print width (label ++ s) = .ok out) ∧ ∃ out, printPlain width (label ++ s) = .ok out := by
  have markup : (label ++ s).toList = Fragment.textOf [.own label, .foreign s.toList] := by
    simp [Fragment.textOf, Fragment.text]
  have fit : Fragment.Fit [.own label, .foreign s.toList] :=
    ⟨closed, ⟨untagged, fun _ => rfl, rfl⟩, trivial⟩
  refine print_fit width markup fit ?_
  simpa [Fragment.tagsOf] using balanced

/-- The same with escaped text after it. -/
theorem print_labelled (width : Nat) {label : String} (s : String)
    (closed : opensLast label.toList = false ∧ label.toList.getLast? ≠ some '\\')
    (balanced : Balanced [] (tags label.toList)) :
    (∃ out, print width (label ++ escaped s) = .ok out) ∧
      ∃ out, printPlain width (label ++ escaped s) = .ok out := by
  have untagged : tags (escaped s).toList = [] := by
    rw [escaped, String.toList_ofList]
    exact tags_escape s.toList
  exact print_untagged width untagged closed balanced

end Promptline.Console
