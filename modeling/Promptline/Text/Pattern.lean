/-! Patterns of text, and the search for them.  A pattern may match a text in several ways; they are
tried in order, and the first one with which the rest of the pattern matches too is taken. -/

namespace Promptline.Text

/-- A pattern of text. -/
inductive Pattern where
  /-- One character that satisfies `p`. -/
  | one (p : Char → Bool)
  /-- At least `least` and at most `most` characters that satisfy `p`, as many as possible. -/
  | run (least : Nat) (most : Option Nat) (p : Char → Bool)
  /-- At least `least` characters that satisfy `p`, as few as possible. -/
  | shortRun (least : Nat) (p : Char → Bool)
  | seq (a b : Pattern)
  /-- `a`, or else `b`. -/
  | either (a b : Pattern)
  /-- `a` at least `least` and at most `most` times, as often as possible. -/
  | times (least : Nat) (most : Option Nat) (a : Pattern)
  /-- `a`, whose place is noted. -/
  | noted (a : Pattern)
  /-- Nothing, where a word starts or stops, or nowhere else. -/
  | edge (isThere : Bool)
  /-- Nothing, but not after a character that satisfies `p`. -/
  | notAfter (p : Char → Bool)

/-- Where a match stops, and the places that have been noted in it. -/
structure Match where
  stop : Nat
  places : List (Nat × Nat) := []
deriving DecidableEq, Repr

namespace Pattern

/-- The character before a place. -/
def before? (s : Array Char) (place : Nat) : Option Char :=
  if place = 0 then none else s[place - 1]?

/-- Goes on from a match so far, if the rest of the pattern, `next`, matches from there. -/
abbrev Step := Match → (Match → Option Match) → Option Match

/-- The number of characters from `place` on, at most `fuel`, that satisfy `p`. -/
def countRun (p : Char → Bool) (s : Array Char) : Nat → Nat → Nat
  | 0, _ => 0
  | fuel + 1, place => if s[place]?.any p then countRun p s fuel (place + 1) + 1 else 0

/-- Goes `count` characters on, or else fewer, down to `least`. -/
def goDown (least : Nat) (m : Match) (next : Match → Option Match) : Nat → Option Match
  | 0 => if least = 0 then next m else none
  | count + 1 =>
    if count + 1 < least then none
    else
      match next { m with stop := m.stop + (count + 1) } with
      | some found => some found
      | none => goDown least m next count

/-- Goes on by as few characters as possible that satisfy `p`, after `least` of them. -/
def goUp (p : Char → Bool) (s : Array Char) (next : Match → Option Match) :
    Nat → Nat → Match → Option Match
  | 0, least, m => if least = 0 then next m else none
  | fuel + 1, least, m =>
    match if least = 0 then next m else none with
    | some found => some found
    | none =>
      if s[m.stop]?.any p then goUp p s next fuel (least - 1) { m with stop := m.stop + 1 }
      else none

/-- `step` as often as possible, at least `least` times and at most `fuel` times. -/
def repeated (step : Step) : Nat → Nat → Step
  | 0, least, m, next => if least = 0 then next m else none
  | fuel + 1, least, m, next =>
    match step m fun m' =>
      if m.stop < m'.stop then repeated step fuel (least - 1) m' next else none with
    | some found => some found
    | none => if least = 0 then next m else none

/-- Matches a pattern; `isWord` tells the characters of words. -/
def step (isWord : Char → Bool) (s : Array Char) : Pattern → Step
  | .one p, m, next => if s[m.stop]?.any p then next { m with stop := m.stop + 1 } else none
  | .run least most p, m, next =>
    goDown least m next (countRun p s (most.getD (s.size - m.stop)) m.stop)
  | .shortRun least p, m, next => goUp p s next (s.size - m.stop) least m
  | .seq a b, m, next => a.step isWord s m fun m => b.step isWord s m next
  | .either a b, m, next =>
    match a.step isWord s m next with
    | some found => some found
    | none => b.step isWord s m next
  | .times least most a, m, next =>
    repeated (a.step isWord s) (most.getD (s.size - m.stop)) least m next
  | .noted a, m, next =>
    a.step isWord s m fun m' => next { m' with places := (m.stop, m'.stop) :: m'.places }
  | .edge isThere, m, next =>
    let isEdge := (before? s m.stop).any isWord != s[m.stop]?.any isWord
    if isEdge = isThere then next m else none
  | .notAfter p, m, next => if (before? s m.stop).any p then none else next m

/-- The places noted in the matches from `place` on.  No two matches overlap. -/
def searchFrom (isWord : Char → Bool) (s : Array Char) (a : Pattern) :
    Nat → Nat → List (Nat × Nat)
  | 0, _ => []
  | fuel + 1, place =>
    match a.step isWord s ⟨place, []⟩ some with
    | some m => m.places ++ searchFrom isWord s a fuel (max (place + 1) m.stop)
    | none => searchFrom isWord s a fuel (place + 1)

/-- The places noted in the matches of a pattern in a text. -/
def search (isWord : Char → Bool) (a : Pattern) (s : Array Char) : List (Nat × Nat) :=
  a.searchFrom isWord s s.size 0

end Pattern

end Promptline.Text
