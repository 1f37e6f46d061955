/-! How much two words resemble each other: the characters that they share, found by taking out the
longest part that both have and looking again on either side of it. -/

namespace Promptline.CommandLine

/-- The length of the longest common start of two lists of characters. -/
def commonStart : List Char → List Char → Nat
  | a :: as, b :: bs => if a = b then commonStart as bs + 1 else 0
  | _, _ => 0

/-- A part that two words have in common: where it starts in each, and its length. -/
structure SharedPart where
  first : Nat
  second : Nat
  size : Nat
deriving DecidableEq, Repr

/-- The longest part that two words have in common.  Of several, it is the one that starts first in
`a`, and then in `b`. -/
def longestShared (a b : List Char) : SharedPart :=
  let starts := (List.range a.length).flatMap fun i => (List.range b.length).map fun j => (i, j)
  starts.foldl (fun best (i, j) =>
    let size := commonStart (a.drop i) (b.drop j)
    if best.size < size then ⟨i, j, size⟩ else best) ⟨0, 0, 0⟩

/-- The number of characters that two words share.  `fuel` bounds the parts that are taken out. -/
def sharedIn : Nat → List Char → List Char → Nat
  | 0, _, _ => 0
  | fuel + 1, a, b =>
    let part := longestShared a b
    if part.size = 0 then 0
    else
      sharedIn fuel (a.take part.first) (b.take part.second) + part.size +
        sharedIn fuel (a.drop (part.first + part.size)) (b.drop (part.second + part.size))

/-- The number of characters that two words share. -/
def shared (a b : String) : Nat := sharedIn a.length a.toList b.toList

/-- How much a word resembles another: the share of both that they have in common, as a fraction. -/
structure Likeness where
  word : String
  numerator : Nat
  denominator : Nat
deriving DecidableEq, Repr

namespace Likeness

/-- How much `word` resembles `other`. -/
def of (word other : String) : Likeness :=
  ⟨word, 2 * shared word other, word.length + other.length⟩

/-- Three fifths or more are shared. -/
def isClose (l : Likeness) : Bool := 3 * l.denominator ≤ 5 * l.numerator

/-- `a` resembles its other word no less than `b`; of equals, the later word in order comes first.
-/
def precedes (a b : Likeness) : Bool :=
  let left := a.numerator * b.denominator
  let right := b.numerator * a.denominator
  right < left || (left = right && b.word ≤ a.word)

end Likeness

/-- The most words that are suggested. -/
def maxSuggestions : Nat := 3

/-- The words among `words` that resemble `word` most, in order. -/
def suggestions (words : List String) (word : String) : List String :=
  let close := (words.map (Likeness.of · word)).filter Likeness.isClose
  (((close.mergeSort Likeness.precedes).take maxSuggestions).map Likeness.word).mergeSort (· ≤ ·)

end Promptline.CommandLine
