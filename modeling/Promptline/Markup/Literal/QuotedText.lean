import Promptline.Markup.Literal.EscapeSequence
import Promptline.Markup.Literal.Numeral

/-! Texts in quotes: where they end, and which escapes in them are at fault. -/

namespace Promptline.Markup.Literal

/-- A text in quotes, with what its prefix says. -/
structure QuotedText where
  inside : List Char
  isRaw : Bool := false
  isBytes : Bool := false
  isTemplate : Bool := false
deriving DecidableEq, Repr

/-- How a text in quotes stops. -/
inductive TextEnd where
  /-- At its closing quotes; the rest follows. -/
  | closed (rest : List Char)
  /-- At the end of a line or of everything, before which quotes are missing. -/
  | missing (isLineEnd : Bool)
deriving DecidableEq, Repr

/-- The inside of a text up to the quote `quote`, which a tripled one repeats, and how it stops. -/
def readQuoted (quote : Char) (isTripled : Bool) : List Char → List Char × TextEnd
  | [] => ([], .missing false)
  | '\\' :: c :: r =>
    let (inside, stop) := readQuoted quote isTripled r
    ('\\' :: c :: inside, stop)
  | c :: r =>
    if c = quote && (!isTripled || [quote, quote].isPrefixOf r) then
      ([], .closed (if isTripled then r.drop 2 else r))
    else if c = '\n' && !isTripled then ([], .missing true)
    else
      let (inside, stop) := readQuoted quote isTripled r
      (c :: inside, stop)

/-- The ends of lines in `s`. -/
def lineEnds (s : List Char) : Nat := s.count '\n'

/-- The lines that start inside a text: one after each end of a line, except one that ends
everything. -/
def linesInside (inside : List Char) : TextEnd → Nat
  | .missing false => lineEnds inside - if inside.getLast? = some '\n' then 1 else 0
  | _ => lineEnds inside

/-- The prefixes of texts. -/
def textPrefixes : List String := ["", "r", "u", "b", "f", "br", "rb", "fr", "rf"]

/-- A text with a prefix and an inside. -/
def QuotedText.ofPrefix (before inside : List Char) : QuotedText :=
  { inside := inside
    isRaw := before.contains 'r'
    isBytes := before.contains 'b'
    isTemplate := before.contains 'f' }

/-- What is wrong in a text that is no template, if so. -/
def QuotedText.fault? (t : QuotedText) : Option Misspelling :=
  if t.isBytes then
    if t.inside.any (0x80 ≤ ·.toNat) then some .bytesBeyondAscii
    else if t.isRaw then none
    else (byteEscapeFault? 0 t.inside).map .byteEscape
  else if t.isTemplate || t.isRaw then none
  else escapeFault? t.inside

end Promptline.Markup.Literal
