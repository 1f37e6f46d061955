import Mathlib.Data.List.Sort
import Promptline.Proofs.Style.Translation
import Promptline.Style.Content

/-! What it is for a text to be shown as out of date.  Every segment gains one attribute; as a set of
attributes does not depend on the order in which they were added, this goes through sums of texts and
past other attributes, and the style of each fragment gains a word. -/

namespace Promptline.Style

open Promptline.Text

namespace Attributes

variable {a b : Attributes} {w w' : String}

theorem ext_of_mem (h : ∀ w, w ∈ a.words ↔ w ∈ b.words) : a = b := by
  have irrefl : Std.Irrefl fun w w' : String => w < w' := ⟨String.lt_irrefl⟩
  have antisymm : Std.Antisymm fun w w' : String => w < w' :=
    ⟨fun _ _ hlt hgt => absurd hgt (String.lt_asymm hlt)⟩
  obtain ⟨ws, hws⟩ := a
  obtain ⟨ws', hws'⟩ := b
  obtain rfl : ws = ws' := hws.eq_of_mem_iff hws' h
  rfl

theorem mem_insert : w' ∈ (a.insert w).words ↔ w' = w ∨ w' ∈ a.words := mem_insertWord

theorem insert_of_mem (h : w ∈ a.words) : a.insert w = a :=
  ext_of_mem fun w' => by
    rw [mem_insert]
    exact or_iff_right_of_imp fun h' => h' ▸ h

theorem insert_comm (a : Attributes) (w w' : String) :
    (a.insert w).insert w' = (a.insert w').insert w :=
  ext_of_mem fun v => by
    simp only [mem_insert]
    exact or_left_comm

theorem nodup_words (a : Attributes) : a.words.Nodup :=
  a.ascending.imp fun {v v'} hlt heq => by
    subst heq
    exact String.lt_irrefl v hlt

/-- An added word stands once in a set, and the words around it are those that were there. -/
theorem insert_cases (a : Attributes) (w : String) :
    ∃ l r, w ∉ l ∧ w ∉ r ∧ (a.insert w).words = l ++ w :: r ∧
      (a.insert w = a ∨ w ∉ a.words ∧ a.words = l ++ r) := by
  by_cases h : w ∈ a.words
  · obtain ⟨l, r, hwords⟩ := List.append_of_mem h
    have nodup := a.nodup_words
    rw [hwords, List.nodup_append] at nodup
    obtain ⟨-, hr, hl⟩ := nodup
    have hsame := insert_of_mem h
    refine ⟨l, r, fun hw => hl w hw w (.head _) rfl, (List.nodup_cons.mp hr).1, ?_, .inl hsame⟩
    rw [hsame, hwords]
  · obtain ⟨l, r, hwords, hinsert⟩ := insertWord_of_not_mem h
    have apart : w ∉ l ∧ w ∉ r := by simpa [hwords] using h
    exact ⟨l, r, apart.1, apart.2, hinsert, .inr ⟨h, hwords⟩⟩

end Attributes

/-! ### Attributes of a text -/

namespace StyledText

theorem toText_withAttribute (t : StyledText) (w : String) : (t.withAttribute w).toText = t.toText := by
  rw [toText, withAttribute, List.map_map]
  rfl

theorem withAttribute_append (a b : StyledText) (w : String) :
    (a ++ b).withAttribute w = a.withAttribute w ++ b.withAttribute w :=
  congrArg StyledText.mk List.map_append

theorem withAttribute_join (ts : List StyledText) (w : String) :
    (join ts).withAttribute w = join (ts.map (·.withAttribute w)) := by
  rw [join, withAttribute, join, List.map_flatMap, List.flatMap_map]
  rfl

theorem withAttribute_withAttribute (t : StyledText) (w : String) :
    (t.withAttribute w).withAttribute w = t.withAttribute w := by
  have twice (s : Segment) : (s.withAttribute w).withAttribute w = s.withAttribute w := by
    have own : w ∈ (s.attributes.insert w).words := Attributes.mem_insert.mpr (.inl rfl)
    simp only [Segment.withAttribute, Attributes.insert_of_mem own]
  rw [withAttribute, withAttribute, List.map_map]
  exact congrArg StyledText.mk (List.map_congr_left fun s _ => twice s)

theorem withAttribute_comm (t : StyledText) (w w' : String) :
    (t.withAttribute w).withAttribute w' = (t.withAttribute w').withAttribute w := by
  have swap (s : Segment) :
      (s.withAttribute w).withAttribute w' = (s.withAttribute w').withAttribute w := by
    simp only [Segment.withAttribute, Attributes.insert_comm]
  simp only [withAttribute, List.map_map]
  exact congrArg StyledText.mk (List.map_congr_left fun s _ => swap s)

end StyledText

/-! ### The words of a prompt style -/

/-- The words that attribute words add to a prompt style. -/
def promptWords (ws : List String) : List String :=
  (ws.filterMap Attribute.ofWord?).filterMap Attribute.promptWord?

theorem promptWords_append (ws ws' : List String) :
    promptWords (ws ++ ws') = promptWords ws ++ promptWords ws' := by
  rw [promptWords, List.filterMap_append, List.filterMap_append]
  rfl

theorem promptWord?_eq_reverse_iff {x : Attribute} :
    x.promptWord? = some "reverse" ↔ x = .flag .inverse := by
  cases x with
  | flag f => cases f <;> decide
  | colour c =>
    obtain ⟨layer, bright, hue⟩ := c
    cases layer <;> cases bright <;> cases hue <;> decide +kernel

theorem inverse_mem_of_reverse_mem {ws : List String} (h : "reverse" ∈ promptWords ws) :
    Flag.inverse.name ∈ ws := by
  obtain ⟨x, hx, hshown⟩ := List.mem_filterMap.mp h
  obtain rfl := promptWord?_eq_reverse_iff.mp hshown
  obtain ⟨w, hw, hread⟩ := List.mem_filterMap.mp hx
  cases Attribute.ofWord?_eq_some_iff.mp hread
  exact hw

/-- The list `after` is `before` with `w` in it once, put somewhere unless it was there. -/
def Gains {α : Type} [BEq α] (w : α) (before after : List α) : Prop :=
  after.count w = 1 ∧
    (after = before ∨ w ∉ before ∧ ∃ l r, before = l ++ r ∧ after = l ++ w :: r)

theorem gains_reverse (a : Attributes) :
    Gains "reverse".toList (words a.promptStyle.toList)
      (words (a.insert Flag.inverse.name).promptStyle.toList) := by
  obtain ⟨l, r, hl, hr, hinsert, hbefore⟩ := a.insert_cases Flag.inverse.name
  -- No other word gives `reverse`, so what stands around the attribute does not.
  have absent {ws : List String} (h : Flag.inverse.name ∉ ws) :
      "reverse".toList ∉ (promptWords ws).map String.toList := fun hmem => by
    obtain ⟨w, hw, heq⟩ := List.mem_map.mp hmem
    rw [String.toList_inj.mp heq] at hw
    exact h (inverse_mem_of_reverse_mem hw)
  have hafter : words (a.insert Flag.inverse.name).promptStyle.toList =
      (promptWords l).map String.toList ++
        "reverse".toList :: (promptWords r).map String.toList := by
    rw [words_promptStyle, Attributes.meanings, hinsert]
    exact (congrArg (List.map String.toList) (promptWords_append l _)).trans List.map_append
  refine ⟨?_, ?_⟩
  · rw [hafter, List.count_append, List.count_cons_self, List.count_eq_zero_of_not_mem (absent hl),
      List.count_eq_zero_of_not_mem (absent hr)]
  · rcases hbefore with same | ⟨hnew, hwords⟩
    · exact .inl (by rw [same])
    · refine .inr ⟨?_, _, _, ?_, hafter⟩
      · rw [words_promptStyle]
        exact absent hnew
      · rw [words_promptStyle, Attributes.meanings, hwords, ← List.map_append, ← promptWords_append]
        rfl

/-! ### Texts that are out of date -/

theorem StyledText.map_snd_fragments_stale (t : StyledText) :
    t.stale.fragments.map Prod.snd = t.fragments.map Prod.snd := by
  simp only [stale, withAttribute, fragments, List.map_map]
  rfl

theorem StyledText.fragments_stale (t : StyledText) :
    List.Forall₂ (fun f m => Gains "reverse".toList (words f.1.toList) (words m.1.toList))
      t.fragments t.stale.fragments := by
  simp only [stale, withAttribute, fragments, List.map_map, List.forall₂_map_left_iff,
    List.forall₂_map_right_iff, List.forall₂_same]
  exact fun s _ => gains_reverse s.attributes

theorem Content.outdated_eq_self_iff {c : Content} : c.outdated = c ↔ c.isStale = true := by
  obtain ⟨t, isStale⟩ := c
  cases isStale <;> simp [outdated]

/-- Whatever segments a text has: to show it as out of date changes no character of it, is the same
for a sum as for its parts and before another attribute as after it, and counts once.  A prompt shows
the same fragments, each with `reverse` once among the words of its style, which are otherwise as they
were.  A content can be out of date once only. -/
theorem stale_laws (a b : StyledText) (ts : List StyledText) (w : String) (c : Content) :
    a.stale.toText = a.toText ∧ (a ++ b).stale = a.stale ++ b.stale ∧
      (StyledText.join ts).stale = .join (ts.map StyledText.stale) ∧ a.stale.stale = a.stale ∧
      (a.withAttribute w).stale = a.stale.withAttribute w ∧
      (let fresh := (Content.mk a false).styled.fragments
        let marked := (Content.mk a true).styled.fragments
        marked.map Prod.snd = fresh.map Prod.snd ∧
          List.Forall₂ (fun f m => Gains "reverse".toList (words f.1.toList) (words m.1.toList))
            fresh marked) ∧
      c.outdated.outdated = c.outdated ∧ (c.outdated = c ↔ c.isStale = true) :=
  ⟨a.toText_withAttribute _, a.withAttribute_append b _, StyledText.withAttribute_join ts _,
    a.withAttribute_withAttribute _, a.withAttribute_comm w _,
    ⟨a.map_snd_fragments_stale, a.fragments_stale⟩, rfl, Content.outdated_eq_self_iff⟩

end Promptline.Style
