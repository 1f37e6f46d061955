import Promptline.Style.StyledText

/-! The words that have a meaning as attributes: the names of the flags, and the names of the colours,
which may have a layer before them.  A text is made of these words and of no others, and a set of words
means what its words do. -/

namespace Promptline.Style

/-- What may stand before the name of a colour on a layer. -/
def Layer.leads : Layer → List String
  | .foreground => ["", "fg-"]
  | .background => ["bg-"]

/-- The words for an attribute. -/
inductive Spells : String → Attribute → Prop
  | flag (f : Flag) : Spells f.name (.flag f)
  | colour (c : Colour) {lead : String} (h : lead ∈ c.layer.leads) :
    Spells (lead ++ c.name) (.colour c)

variable {w : String} {x : Attribute} {c : Colour} {s : List Char}

/-! ### One word -/

theorem Colour.takeLayer_spec (s : List Char) :
    ∃ lead ∈ (takeLayer s).1.leads, s = lead.toList ++ (takeLayer s).2 := by
  unfold takeLayer
  split
  · exact ⟨"fg-", by simp [Layer.leads], rfl⟩
  · exact ⟨"bg-", by simp [Layer.leads], rfl⟩
  · exact ⟨"", by simp [Layer.leads], rfl⟩

theorem Colour.takeBright_spec (s : List Char) :
    s = (if (takeBright s).1 then "bright-".toList else []) ++ (takeBright s).2 := by
  unfold takeBright
  split <;> simp

theorem Hue.eq_name_of_ofName? {h : Hue} (hs : ofName? s = some h) : s = h.name.toList := by
  have found := List.find?_some hs
  exact (beq_iff_eq.mp found).symm

theorem Colour.eq_of_ofWord? (h : ofWord? s = some c) :
    ∃ lead ∈ c.layer.leads, s = lead.toList ++ c.name.toList := by
  obtain ⟨lead, hlead, hs⟩ := takeLayer_spec s
  have hr := takeBright_spec (takeLayer s).2
  have parts : ofWord? s = (Hue.ofName? (takeBright (takeLayer s).2).2).map fun hue =>
      ⟨(takeLayer s).1, (takeBright (takeLayer s).2).1, hue⟩ := rfl
  obtain ⟨hue, hhue, hc⟩ := Option.map_eq_some_iff.mp (parts.symm.trans h)
  rw [Hue.eq_name_of_ofName? hhue] at hr
  rw [hs, hr, ← hc]
  refine ⟨lead, hlead, congrArg _ ?_⟩
  simp only [name, nameWith]
  split <;> simp

/-- A name of a colour is read as the colour, and is no name of a flag. -/
theorem Colour.ofWord?_lead (c : Colour) : ∀ lead ∈ c.layer.leads,
    ofWord? (lead ++ c.name).toList = some c ∧
      Flag.all.find? (·.name == lead ++ c.name) = none := by
  obtain ⟨layer, bright, hue⟩ := c
  cases layer <;> cases bright <;> cases hue <;> decide +kernel

theorem Colour.ofWord?_eq_some_iff : ofWord? w.toList = some c ↔ Spells w (.colour c) := by
  constructor
  · intro h
    obtain ⟨lead, hlead, hw⟩ := eq_of_ofWord? h
    rw [← String.toList_append, String.toList_inj] at hw
    exact hw ▸ .colour c hlead
  · rintro (_ | @⟨_, lead, hlead⟩)
    exact (c.ofWord?_lead lead hlead).1

/-- A word means what it spells, and has no meaning if it spells nothing. -/
theorem Attribute.ofWord?_eq_some_iff : ofWord? w = some x ↔ Spells w x := by
  constructor
  · intro h
    unfold ofWord? at h
    split at h
    · next f hf =>
      cases h
      have named : f.name = w := by simpa using List.find?_some hf
      exact named ▸ .flag f
    · obtain ⟨c, hc, rfl⟩ := Option.map_eq_some_iff.mp h
      exact Colour.ofWord?_eq_some_iff.mp hc
  · intro h
    cases h with
    | flag f => cases f <;> rfl
    | @colour c lead hlead =>
      obtain ⟨hread, hflag⟩ := c.ofWord?_lead lead hlead
      rw [ofWord?, hflag]
      exact congrArg (Option.map Attribute.colour) hread

/-- A text can be made of words if each of them spells something. -/
theorem StyledText.make_isOk_iff (text : String) (ws : List String) :
    (∃ t, make text ws = .ok t) ↔ ∀ w ∈ ws, ∃ x, Spells w x := by
  have known (w : String) : (∃ x, Spells w x) ↔ (Attribute.ofWord? w).isNone = false := by
    simp only [← Attribute.ofWord?_eq_some_iff, ← Option.isSome_iff_exists,
      Option.isNone_eq_false_iff]
  simp only [known]
  unfold make
  split
  · next w hw =>
    have unknown := List.find?_some hw
    refine iff_of_false (by simp) fun all => ?_
    rw [all w (List.mem_of_find?_eq_some hw)] at unknown
    cases unknown
  · next hnone =>
    exact iff_of_true ⟨_, rfl⟩ fun w hw => eq_false_of_ne_true (List.find?_eq_none.mp hnone w hw)

/-! ### Sets of words -/

namespace Attributes

variable {a : Attributes} {ws : List String}

theorem mem_meanings : x ∈ a.meanings ↔ ∃ w ∈ a.words, Spells w x := by
  simp only [meanings, List.mem_filterMap, Attribute.ofWord?_eq_some_iff]

theorem insertWord_of_not_mem (h : w ∉ ws) :
    ∃ l r, ws = l ++ r ∧ insertWord w ws = l ++ w :: r := by
  induction ws with
  | nil => exact ⟨[], [], rfl, rfl⟩
  | cons v ws ih =>
    obtain ⟨hne, hws⟩ : w ≠ v ∧ w ∉ ws := by simpa using h
    unfold insertWord
    split
    · exact ⟨[], v :: ws, rfl, rfl⟩
    · next hle =>
      have hlt : v < w := Decidable.byContradiction fun hge =>
        hne (String.le_antisymm (String.not_lt.mp hge) (String.not_lt.mp hle))
      obtain ⟨l, r, hsplit, hinsert⟩ := ih hws
      rw [if_pos hlt, hinsert, hsplit]
      exact ⟨v :: l, r, rfl, rfl⟩

/-- A word that is new in a set adds its meaning, if it has one, and nothing else. -/
theorem meanings_insert (h : w ∉ a.words) :
    ∃ l r, a.meanings = l ++ r ∧
      (a.insert w).meanings = l ++ (Attribute.ofWord? w).toList ++ r := by
  obtain ⟨l, r, hwords, hinsert⟩ := insertWord_of_not_mem h
  refine ⟨l.filterMap Attribute.ofWord?, r.filterMap Attribute.ofWord?, ?_, ?_⟩
  · rw [meanings, hwords, List.filterMap_append]
  · have whole : (a.insert w).words = l ++ w :: r := hinsert
    rw [meanings, whole, List.filterMap_append, List.append_assoc]
    cases hw : Attribute.ofWord? w with
    | none =>
      rw [List.filterMap_cons_none hw]
      rfl
    | some x =>
      rw [List.filterMap_cons_some hw]
      rfl

end Attributes

end Promptline.Style
