import Promptline.Text.Character
import Promptline.Text.Split

/-! Blank characters, trimming, and words.  Every white-space character of Unicode is blank, and so
are the four information separators U+001C to U+001F. -/

namespace Promptline.Text

/-- The blank characters. -/
def blankRanges : List (Nat × Nat) :=
  [(0x09, 0x0D), (0x1C, 0x20), (0x85, 0x85), (0xA0, 0xA0), (0x1680, 0x1680), (0x2000, 0x200A),
   (0x2028, 0x2029), (0x202F, 0x202F), (0x205F, 0x205F), (0x3000, 0x3000)]

/-- `c` is blank. -/
def isBlank (c : Char) : Bool := inRanges blankRanges c

/-- `s` without its leading characters that satisfy `p`. -/
def dropStart (p : Char → Bool) (s : List Char) : List Char := s.dropWhile p

/-- `s` without its trailing characters that satisfy `p`. -/
def dropEnd (p : Char → Bool) (s : List Char) : List Char := (s.reverse.dropWhile p).reverse

/-- `s` without blanks at either end. -/
def trim (s : List Char) : List Char := dropEnd isBlank (dropStart isBlank s)

/-- The words of `s`: its longest runs of characters that are not blank. -/
def words (s : List Char) : List (List Char) := (splitAtEach isBlank s).filter (!·.isEmpty)

/-- The first word of `s`, and what follows the blanks after it. -/
def firstWord (s : List Char) : List Char × List Char :=
  let t := s.dropWhile isBlank
  (t.takeWhile (!isBlank ·), (t.dropWhile (!isBlank ·)).dropWhile isBlank)

/-- `s` without blanks at either end. -/
def trimmed (s : String) : String := String.ofList (trim s.toList)

end Promptline.Text
