import Promptline.Text.Blank
import Promptline.Text.CellWidth
import Promptline.Text.SpannedText

/-! Laying text out on lines of a given width.  A line breaks before a word that does not fit, and a
word that fits no line is cut. -/

namespace Promptline.Text

/-- Cuts `s` before each character that is not blank and follows a blank one, and before the blanks
at its start. -/
def cutAtWords : List Char → List (List Char)
  | [] => []
  | c :: r =>
    match cutAtWords r with
    | [] => [[c]]
    | w :: ws => if isBlank c && !(w.take 1).all isBlank then [c] :: w :: ws else (c :: w) :: ws

/-- The words of `s`, each with the blanks after it; the first has those before it too. -/
def wordsWithBlanks (s : List Char) : List (List Char) :=
  match cutAtWords s with
  | lead :: w :: ws => if lead.all isBlank then (lead ++ w) :: ws else lead :: w :: ws
  | ws => ws

/-- Writes `s` before the first line. -/
def writeBefore (s : List Char) : List (List Char) → List (List Char)
  | [] => [s]
  | l :: ls => (s ++ l) :: ls

/-- Lays clusters out on lines of `width` cells, of which the first has room for `room` more. -/
def chopFrom (width room : Nat) : List Cluster → List (List Char)
  | [] => [[]]
  | k :: ks =>
    if room < k.width then [] :: writeBefore k.chars (chopFrom width (width - k.width) ks)
    else writeBefore k.chars (chopFrom width (room - k.width) ks)

/-- `s` cut into pieces of at most `width` cells. -/
def chop (width : Nat) (s : List Char) : List (List Char) := chopFrom width width (clusters s)

/-- Writes pieces on lines of their own, the last of them before the first of `ls`. -/
def writePieces : List (List Char) → List (List Char) → List (List Char)
  | [], ls => ls
  | [p], ls => writeBefore p ls
  | p :: ps, ls => p :: writePieces ps ls

/-- Lays words out on lines, of which the first has `used` cells in use.  A word goes on the line if
it fits there without its trailing blanks, else on a new line, in pieces if it is wider than a
line.  `isFresh` says that nothing has been written yet. -/
def layFrom (width used : Nat) (isFresh : Bool) : List (List Char) → List (List Char)
  | [] => [[]]
  | word :: words =>
    let core := cells (dropEnd isBlank word)
    if used + core ≤ width then
      writeBefore word (layFrom width (used + cells word) false words)
    else if core ≤ width then [] :: writeBefore word (layFrom width (cells word) false words)
    else
      let pieces := chop width word
      let laid := writePieces pieces
        (layFrom width (cells (pieces.getLast?.getD [])) false words)
      if isFresh then laid else [] :: laid

/-- The longest start of a text within `width` cells; a space stands for half a wide character. -/
def cropClusters (width : Nat) : List Cluster → List Char
  | [] => []
  | k :: ks =>
    if k.width ≤ width then k.chars ++ cropClusters (width - k.width) ks
    else if width = 0 then [] else [' ']

/-- `s`, or as much of it as fits in `width` cells. -/
def crop (width : Nat) (s : List Char) : List Char :=
  if cells s ≤ width then s else cropClusters width (clusters s)

/-- The text without blanks at its end that lie beyond `width`. -/
def cropBlanks (width : Nat) (t : SpannedText) : SpannedText :=
  let size := t.chars.length
  let excess := min (size - (dropEnd isBlank t.chars).length) (size - width)
  if excess = 0 then t else t.takeUpTo (size - excess)

/-- As much of a text as fits in `width` cells. -/
def cropText (width : Nat) (t : SpannedText) : SpannedText :=
  let chars := crop width t.chars
  if chars.length < t.chars.length then { t.takeUpTo chars.length with chars := chars }
  else { t with chars := chars }

/-- Replaces the tab at the end of a text by a space and as many more as lead to the next multiple
of eight cells. -/
def expandTab (t : SpannedText) : SpannedText :=
  let spaced := { t with chars := t.chars.dropLast ++ [' '] }
  spaced.extend ((8 - cells spaced.chars % 8) % 8)

/-- Replaces each tab by spaces. -/
def expandTabs (t : SpannedText) : SpannedText :=
  match ((splitAtEach (· == '\t') t.chars).map List.length).reverse with
  | last :: n :: ns =>
    let lengths := ((n :: ns).map (· + 1)).reverse
    let start := lengths.foldr (· + ·) 0
    .join ((t.slices 0 0 lengths).map expandTab ++ [t.slice start (start + last)])
  | _ => t

/-- One line of text laid out on lines of `width` cells. -/
def wrapLine (width : Nat) (t : SpannedText) : List SpannedText :=
  let t := expandTabs t
  let pieces := layFrom width 0 true (wordsWithBlanks t.chars)
  (t.divide 0 (pieces.map List.length)).map fun l => cropText width (cropBlanks width l)

/-- A text laid out on lines of `width` cells. -/
def wrapText (width : Nat) (t : SpannedText) : List SpannedText :=
  (t.divide 1 ((lines t.chars).map List.length)).flatMap (wrapLine width)

/-- Text without spans laid out on lines of `width` cells. -/
def wrap (width : Nat) (s : List Char) : List (List Char) :=
  (wrapText width (.ofChars s)).map SpannedText.chars

/-- The parts of a line that fit in `width` cells one after another, each taking its own cells. -/
def fitParts (width : Nat) : List (List Char) → List Char
  | [] => []
  | p :: ps =>
    if cells p < width then p ++ fitParts (width - cells p) ps else crop width p

/-- The characters of a line as they appear on `width` cells.  Its parts are drawn one by one, and
if they take more cells than there are, what lies beyond is left out. -/
def drawLine (width : Nat) (t : SpannedText) : List Char :=
  if t.parts.foldr (fun part n => cells part + n) 0 ≤ width then t.chars else fitParts width t.parts

/-- Lines joined by newlines, with one at the end. -/
def unlines (ls : List (List Char)) : List Char := ls.flatMap (· ++ ['\n'])

end Promptline.Text
