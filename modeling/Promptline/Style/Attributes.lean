import Promptline.Style.Attribute

/-! Finite sets of attribute words, kept in ascending order, and the styles that they give.  Two
sets with the same words are equal. -/

namespace Promptline.Style

/-- A set of attribute words. -/
structure Attributes where
  words : List String
  ascending : words.Pairwise (· < ·)
deriving DecidableEq

namespace Attributes

instance : Repr Attributes := ⟨fun a n => reprPrec a.words n⟩

def empty : Attributes := ⟨[], .nil⟩

/-- `word` put in its place in an ascending list. -/
def insertWord (word : String) : List String → List String
  | [] => [word]
  | w :: ws =>
    if word < w then word :: w :: ws
    else if w < word then w :: insertWord word ws
    else w :: ws

theorem mem_insertWord {word x : String} {ws : List String} :
    x ∈ insertWord word ws ↔ x = word ∨ x ∈ ws := by
  induction ws with
  | nil => simp [insertWord]
  | cons w ws ih =>
    unfold insertWord
    split
    · simp
    · split
      · simp only [List.mem_cons, ih]
        exact or_left_comm
      · rename_i h h'
        have : word = w := String.le_antisymm (String.not_lt.mp h') (String.not_lt.mp h)
        subst this
        simp

theorem insertWord_ascending {word : String} {ws : List String} (h : ws.Pairwise (· < ·)) :
    (insertWord word ws).Pairwise (· < ·) := by
  induction ws with
  | nil => simp [insertWord]
  | cons w ws ih =>
    obtain ⟨hw, hws⟩ := List.pairwise_cons.mp h
    unfold insertWord
    split
    · rename_i hlt
      refine List.pairwise_cons.mpr ⟨fun x hx => ?_, h⟩
      rcases List.mem_cons.mp hx with rfl | hx
      · exact hlt
      · exact String.lt_trans hlt (hw x hx)
    · split
      · rename_i hlt
        refine List.pairwise_cons.mpr ⟨fun x hx => ?_, ih hws⟩
        rcases mem_insertWord.mp hx with rfl | hx
        · exact hlt
        · exact hw x hx
      · exact h

/-- The set with `word` added. -/
def insert (a : Attributes) (word : String) : Attributes :=
  ⟨insertWord word a.words, insertWord_ascending a.ascending⟩

/-- The set of the words of a list. -/
def ofList (ws : List String) : Attributes := ws.foldl insert empty

/-- The words that have a meaning, as their meanings in the order of the words. -/
def meanings (a : Attributes) : List Attribute := a.words.filterMap Attribute.ofWord?

/-- The style of a prompt fragment. -/
def promptStyle (a : Attributes) : String :=
  " ".intercalate (a.meanings.filterMap Attribute.promptWord?)

/-- The style of a console span. -/
def consoleStyle (a : Attributes) : String :=
  " ".intercalate (a.meanings.map Attribute.consoleWords)

end Attributes

end Promptline.Style
