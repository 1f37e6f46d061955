import Mathlib.Data.List.Basic
import Mathlib.Data.List.Induction
import Promptline.Style.StyledText

/-! Where the styles of a text are on a console.  Each segment takes the characters from its offset up
to the offset of the next one, and a segment that has a style gives it to these characters and to no
others. -/

namespace Promptline.Style

open Promptline.Markup Promptline.Text

/-- The segment has text and a style. -/
def Segment.isStyled (s : Segment) : Bool :=
  !s.text.isEmpty && !s.attributes.consoleStyle.isEmpty

/-- The characters that a console shows of segments. -/
def charsOf (ss : List Segment) : List Char := ss.flatMap fun s => stripControls s.text.toList

theorem charsOf_append (ss ss' : List Segment) : charsOf (ss ++ ss') = charsOf ss ++ charsOf ss' :=
  List.flatMap_append

theorem charsOf_singleton (s : Segment) : charsOf [s] = stripControls s.text.toList :=
  List.flatMap_singleton ..

namespace StyledText

/-- Where the characters of segment `i` start. -/
def offset (t : StyledText) (i : Nat) : Nat := (charsOf (t.segments.take i)).length

/-- The span of segment `i`, if it is styled. -/
def spanAt? (t : StyledText) (i : Nat) : Option Span :=
  t.segments[i]?.bind fun s =>
    if s.isStyled then some ⟨t.offset i, t.offset (i + 1), s.attributes.consoleStyle⟩ else none

variable {t : StyledText} {s : Segment} {i j k : Nat} {span : Span}

/-! ### Offsets -/

theorem charsOf_toText (t : StyledText) : charsOf t.segments = stripControls t.toText.toList := by
  rw [charsOf, stripControls, toText, String.toList_join, List.flatMap_map, List.filter_flatMap]
  rfl

theorem offset_mono (h : i ≤ j) : t.offset i ≤ t.offset j := by
  obtain ⟨rest, hrest⟩ := List.take_prefix_take_left (l := t.segments) h
  rw [offset, offset, ← hrest, charsOf_append, List.length_append]
  omega

theorem offset_length (t : StyledText) :
    t.offset t.segments.length = (charsOf t.segments).length := by
  rw [offset, List.take_length]

theorem offset_le (t : StyledText) (i : Nat) : t.offset i ≤ (charsOf t.segments).length := by
  have whole := charsOf_append (t.segments.take i) (t.segments.drop i)
  rw [List.take_append_drop] at whole
  rw [offset, whole, List.length_append]
  exact Nat.le_add_right _ _

theorem slice_charsOf (h : t.segments[i]? = some s) :
    ((charsOf t.segments).drop (t.offset i)).take (t.offset (i + 1) - t.offset i) =
      stripControls s.text.toList := by
  have upTo : charsOf (t.segments.take (i + 1)) =
      charsOf (t.segments.take i) ++ stripControls s.text.toList := by
    rw [List.take_add_one, h, Option.toList_some, charsOf_append, charsOf_singleton]
  have next : t.offset (i + 1) = t.offset i + (stripControls s.text.toList).length := by
    rw [offset, upTo, List.length_append, offset]
  have whole : charsOf t.segments =
      charsOf (t.segments.take i) ++
        (stripControls s.text.toList ++ charsOf (t.segments.drop (i + 1))) := by
    rw [← List.append_assoc, ← upTo, ← charsOf_append, List.take_append_drop]
  rw [next, Nat.add_sub_cancel_left, whole, offset, List.drop_left, List.take_left]

/-- Each character belongs to a segment. -/
theorem exists_segment (n : Nat) (h : k < t.offset n) :
    ∃ i < n, t.offset i ≤ k ∧ k < t.offset (i + 1) := by
  induction n with
  | zero => cases h
  | succ n ih =>
    by_cases hk : k < t.offset n
    · obtain ⟨i, hi, within⟩ := ih hk
      exact ⟨i, Nat.lt_succ_of_lt hi, within⟩
    · exact ⟨n, Nat.lt_succ_self n, Nat.le_of_not_lt hk, h⟩

theorem segment_unique (hi : t.offset i ≤ k ∧ k < t.offset (i + 1))
    (hj : t.offset j ≤ k ∧ k < t.offset (j + 1)) : i = j := by
  by_contra hne
  rcases Nat.lt_or_gt_of_ne hne with hlt | hlt
  · have := t.offset_mono (i := i + 1) hlt
    omega
  · have := t.offset_mono (i := j + 1) hlt
    omega

/-! ### Spans -/

theorem spanAt?_eq_some (h : t.spanAt? i = some span) :
    span.start = t.offset i ∧ span.stop = t.offset (i + 1) := by
  obtain ⟨s, -, hs⟩ := Option.bind_eq_some_iff.mp h
  split at hs
  · cases hs
    exact ⟨rfl, rfl⟩
  · cases hs

theorem spanAt?_concat (ss : List Segment) (s : Segment) (h : i < ss.length) :
    spanAt? ⟨ss ++ [s]⟩ i = spanAt? ⟨ss⟩ i := by
  unfold spanAt? offset
  simp only
  rw [List.getElem?_append_left h, List.take_append_of_le_length (Nat.le_of_lt h),
    List.take_append_of_le_length h]

/-- A segment adds its characters, and its span if it is styled. -/
theorem appendSegment_eq (c : SpannedText) (s : Segment) :
    appendSegment c s =
      let chars := c.chars ++ stripControls s.text.toList
      ⟨chars, c.spans ++
        if s.isStyled then [⟨c.chars.length, chars.length, s.attributes.consoleStyle⟩] else []⟩ := by
  unfold appendSegment Segment.isStyled
  by_cases hempty : s.text.isEmpty = true
  · have nothing : stripControls s.text.toList = [] := by
      rw [String.isEmpty_iff.mp hempty]
      rfl
    rw [if_pos hempty, nothing]
    simp [hempty]
  · rw [if_neg hempty]
    cases hstyle : s.attributes.consoleStyle.isEmpty <;> simp [hempty, hstyle, -String.isEmpty_iff]

theorem onConsole_concat (ss : List Segment) (s : Segment) :
    onConsole ⟨ss ++ [s]⟩ = appendSegment (onConsole ⟨ss⟩) s := by
  rw [onConsole, List.foldl_append]
  rfl

theorem onConsole_eq (ss : List Segment) :
    onConsole ⟨ss⟩ = ⟨charsOf ss, (List.range ss.length).filterMap (spanAt? ⟨ss⟩)⟩ := by
  -- Segments are added at the end, where they leave the offsets of the others as they are.
  induction ss using List.reverseRecOn with
  | nil => rfl
  | append_singleton ss s ih =>
    have old : (List.range ss.length).filterMap (spanAt? ⟨ss ++ [s]⟩) =
        (List.range ss.length).filterMap (spanAt? ⟨ss⟩) :=
      List.filterMap_congr fun i hi => spanAt?_concat ss s (List.mem_range.mp hi)
    have own : spanAt? ⟨ss ++ [s]⟩ ss.length =
        if s.isStyled then
          some ⟨(charsOf ss).length, (charsOf ss ++ stripControls s.text.toList).length,
            s.attributes.consoleStyle⟩
        else none := by
      have all : (ss ++ [s]).take (ss.length + 1) = ss ++ [s] := List.take_of_length_le (by simp)
      simp [spanAt?, offset, all, charsOf_append, charsOf_singleton]
    rw [onConsole_concat, ih, appendSegment_eq, charsOf_append, charsOf_singleton,
      List.length_append, List.length_singleton, List.range_succ, List.filterMap_append, old]
    cases hs : s.isStyled with
    | true => simp [own, hs]
    | false => simp [own, hs]

/-! ### The whole text -/

theorem mem_spans :
    span ∈ t.onConsole.spans ↔ ∃ i < t.segments.length, t.spanAt? i = some span := by
  rw [onConsole_eq]
  simp [List.mem_filterMap]

/-- Whatever the segments hold: a console shows the characters of a text, which are those of the
fragments of a prompt, without the ones that move a cursor.  The spans are those of the styled segments
in their order, each over the characters of its segment; they lie inside the text and do not overlap,
and a character is in no span but that of its own segment. -/
theorem console_spans (t : StyledText) :
    let c := t.onConsole
    c.chars = t.toText.toList.filter (fun c => c ∉ ['\x07', '\x08', '\x0B', '\x0C', '\x0D']) ∧
      String.join (t.fragments.map Prod.snd) = t.toText ∧
      c.spans = (List.range t.segments.length).filterMap t.spanAt? ∧
      (∀ i s, t.segments[i]? = some s →
        (c.chars.drop (t.offset i)).take (t.offset (i + 1) - t.offset i) =
          stripControls s.text.toList) ∧
      (∀ span ∈ c.spans, span.start ≤ span.stop ∧ span.stop ≤ c.chars.length) ∧
      c.spans.Pairwise (fun a b => a.stop ≤ b.start) ∧
      ∀ k < c.chars.length, ∃ i < t.segments.length, t.offset i ≤ k ∧ k < t.offset (i + 1) ∧
        ∀ span, span ∈ c.spans ∧ span.start ≤ k ∧ k < span.stop ↔ t.spanAt? i = some span := by
  intro c
  have hc : c = ⟨charsOf t.segments, (List.range t.segments.length).filterMap t.spanAt?⟩ :=
    onConsole_eq t.segments
  have hchars : c.chars = charsOf t.segments := by rw [hc]
  have hspans : c.spans = (List.range t.segments.length).filterMap t.spanAt? := by rw [hc]
  refine ⟨?_, ?_, hspans, fun i s h => ?_, fun span h => ?_, ?_, fun k hk => ?_⟩
  · rw [hchars, charsOf_toText]
    refine List.filter_congr fun c _ => ?_
    simp [isControl]
  · rw [fragments, List.map_map]
    rfl
  · rw [hchars, slice_charsOf h]
  · obtain ⟨i, -, hi⟩ := mem_spans.mp h
    obtain ⟨hstart, hstop⟩ := spanAt?_eq_some hi
    rw [hstart, hstop, hchars]
    exact ⟨offset_mono (Nat.le_succ i), t.offset_le (i + 1)⟩
  · rw [hspans, List.pairwise_filterMap]
    refine List.pairwise_lt_range.imp fun {i j} hlt a ha b hb => ?_
    rw [(spanAt?_eq_some ha).2, (spanAt?_eq_some hb).1]
    exact offset_mono hlt
  · rw [hchars, ← offset_length] at hk
    obtain ⟨i, hi, within⟩ := exists_segment _ hk
    refine ⟨i, hi, within.1, within.2, fun span => ⟨fun ⟨hmem, hstart, hstop⟩ => ?_, fun h => ?_⟩⟩
    · obtain ⟨j, -, hj⟩ := mem_spans.mp hmem
      rw [(spanAt?_eq_some hj).1] at hstart
      rw [(spanAt?_eq_some hj).2] at hstop
      rw [segment_unique within ⟨hstart, hstop⟩, hj]
    · obtain ⟨hstart, hstop⟩ := spanAt?_eq_some h
      exact ⟨mem_spans.mpr ⟨i, hi, h⟩, hstart ▸ within.1, hstop ▸ within.2⟩

/-- A return after the first character, a segment without text, one that holds a bell only, and a
backspace inside the last one. -/
theorem console_spans_controls :
    let t := plain "a\r" ++ styled "" ["bold"] ++ styled "\x07" ["red"] ++ styled "b\x08c" ["dim"]
    t.onConsole.chars = "abc".toList ∧ t.onConsole.spans = [⟨1, 1, "red"⟩, ⟨1, 3, "dim"⟩] ∧
      ∀ span ∈ t.onConsole.spans, ¬(span.start ≤ 0 ∧ 0 < span.stop) := by
  intro t
  obtain ⟨hchars, -, hspans, -, -, -, belongs⟩ := console_spans t
  have shown : t.onConsole.chars = "abc".toList := by
    rw [hchars]
    decide +kernel
  refine ⟨shown, ?_, fun span hmem hspan => ?_⟩
  · rw [hspans]
    decide +kernel
  · obtain ⟨i, -, hle, hlt, own⟩ := belongs 0 (by rw [shown]; decide)
    have first : i = 0 := segment_unique ⟨hle, hlt⟩ ⟨by decide +kernel, by decide +kernel⟩
    have unstyled : t.spanAt? i = none := by
      rw [first]
      decide +kernel
    cases unstyled.symm.trans ((own span).mp ⟨hmem, hspan⟩)

end StyledText

end Promptline.Style
