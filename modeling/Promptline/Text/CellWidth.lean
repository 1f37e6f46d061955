import Promptline.Text.CellTable
import Promptline.Text.Character

/-! The number of terminal cells that text takes.  A character takes none, one or two by itself.  A
joiner draws the next character together with those before it, and an emoji selector makes the
character before it wide. -/

namespace Promptline.Text

/-- The cells that `c` takes by itself. -/
def cellWidth (c : Char) : Nat :=
  if ' ' ≤ c && c ≤ '~' then 1
  else if inRanges cellFreeRanges c then 0
  else if inRanges wideRanges c then 2
  else 1

/-- Draws the next character together with those before it. -/
def joiner : Char := '\u200D'

/-- Asks for the character before it to be drawn as an emoji. -/
def emojiSelector : Char := '\uFE0F'

/-- The cells that an emoji selector adds after `last`, the last character that took cells. -/
def widening (last : Option Char) : Nat := if last.any (inRanges emojiRanges) then 1 else 0

/-- The cells that text takes after `last`. -/
def cellsAfter (last : Option Char) : List Char → Nat
  | [] => 0
  | [c] => if c = emojiSelector then widening last else cellWidth c
  | c :: d :: r =>
    if c = joiner then cellsAfter last r
    else if c = emojiSelector then widening last + cellsAfter none (d :: r)
    else cellWidth c + cellsAfter (if cellWidth c = 0 then last else some c) (d :: r)

/-- The cells that a line of text takes. -/
def cells (s : List Char) : Nat := cellsAfter none s

/-- Characters that are drawn together, with the cells that they take. -/
structure Cluster where
  chars : List Char
  width : Nat
deriving DecidableEq, Repr

/-- The rest of a cluster after `last`, and the clusters that follow it. -/
def clustersAfter (last : Option Char) : List Char → Cluster × List Cluster
  | [] => (⟨[], 0⟩, [])
  | [c] =>
    if c = emojiSelector then (⟨[c], widening last⟩, [])
    else if cellWidth c = 0 then (⟨[c], 0⟩, [])
    else (⟨[], 0⟩, [⟨[c], cellWidth c⟩])
  | c :: d :: r =>
    if c = joiner then
      let (k, ks) := clustersAfter last r
      (⟨c :: d :: k.chars, k.width⟩, ks)
    else if c = emojiSelector then
      let (k, ks) := clustersAfter none (d :: r)
      (⟨c :: k.chars, widening last + k.width⟩, ks)
    else if cellWidth c = 0 then
      let (k, ks) := clustersAfter last (d :: r)
      (⟨c :: k.chars, k.width⟩, ks)
    else
      let (k, ks) := clustersAfter (some c) (d :: r)
      (⟨[], 0⟩, ⟨c :: k.chars, cellWidth c + k.width⟩ :: ks)

/-- The clusters of a text.  Its first character starts a cluster in any case. -/
def clusters : List Char → List Cluster
  | [] => []
  | c :: r =>
    let (k, ks) := clustersAfter (if cellWidth c = 0 then none else some c) r
    ⟨c :: k.chars, cellWidth c + k.width⟩ :: ks

end Promptline.Text
