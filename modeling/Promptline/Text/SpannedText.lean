/-! Text with spans, which are stretches of it that have a style.  Whatever cuts a text cuts its
spans too, and a part of a span without a character is left out. -/

namespace Promptline.Text

/-- The characters from offset `start` up to `stop` have `style`. -/
structure Span where
  start : Nat
  stop : Nat
  style : String := ""
deriving DecidableEq, Repr

namespace Span

/-- The span `n` characters further on. -/
def shift (s : Span) (n : Nat) : Span := { s with start := s.start + n, stop := s.stop + n }

/-- What remains of a span in a text that ends at `stop`. -/
def upTo? (s : Span) (stop : Nat) : Option Span :=
  if s.start < stop then some { s with stop := min s.stop stop } else none

/-- What remains of a span in the text from `first` up to `last`. -/
def within? (s : Span) (first last : Nat) : Option Span :=
  let start := max s.start first
  let stop := min s.stop last
  if start < stop then some { s with start := start - first, stop := stop - first } else none

end Span

/-- Text with its spans. -/
structure SpannedText where
  chars : List Char := []
  spans : List Span := []
deriving DecidableEq, Repr

namespace SpannedText

/-- Text without spans. -/
def ofChars (chars : List Char) : SpannedText := { chars := chars }

instance : Append SpannedText :=
  ⟨fun a b => ⟨a.chars ++ b.chars, a.spans ++ b.spans.map (·.shift a.chars.length)⟩⟩

/-- The texts one after another. -/
def join (ts : List SpannedText) : SpannedText := ts.foldl (· ++ ·) {}

/-- The text up to offset `stop`. -/
def takeUpTo (t : SpannedText) (stop : Nat) : SpannedText :=
  ⟨t.chars.take stop, t.spans.filterMap (·.upTo? stop)⟩

/-- The text from offset `first` up to `last`. -/
def slice (t : SpannedText) (first last : Nat) : SpannedText :=
  ⟨(t.chars.take last).drop first, t.spans.filterMap (·.within? first last)⟩

/-- Pieces of the text of these lengths, the first of which starts at `offset`, with `gap`
characters left out after each. -/
def slices (t : SpannedText) (gap : Nat) : Nat → List Nat → List SpannedText
  | _, [] => []
  | offset, n :: ns => t.slice offset (offset + n) :: t.slices gap (offset + n + gap) ns

/-- The text cut into pieces of these lengths.  One piece is the text as it is. -/
def divide (t : SpannedText) (gap : Nat) (lengths : List Nat) : List SpannedText :=
  if lengths.length ≤ 1 then [t] else t.slices gap 0 lengths

/-- A span starts or stops at an offset. -/
def isCut (t : SpannedText) (offset : Nat) : Bool :=
  t.spans.any fun s => s.start = offset || s.stop = offset

/-- Characters from `offset` on, cut where a span starts or stops. -/
def partsFrom (t : SpannedText) : Nat → List Char → List (List Char)
  | _, [] => []
  | offset, c :: r =>
    match t.partsFrom (offset + 1) r with
    | [] => [[c]]
    | p :: ps => if t.isCut (offset + 1) then [c] :: p :: ps else (c :: p) :: ps

/-- The text cut where a span starts or stops. -/
def parts (t : SpannedText) : List (List Char) := t.partsFrom 0 t.chars

/-- Adds spaces at the end.  Spans that reach the end come to hold them. -/
def extend (t : SpannedText) (n : Nat) : SpannedText :=
  { chars := t.chars ++ List.replicate n ' '
    spans := t.spans.map fun s =>
      if t.chars.length ≤ s.stop then { s with stop := s.stop + n } else s }

end SpannedText

end Promptline.Text
