import Promptline.Number.Binary64
import Promptline.Text.Blank
import Promptline.Text.Character

/-! Numbers read from text: integers and decimal fractions.  Digits of every script count, and
single underscores may stand between digits. -/

namespace Promptline.Number

open Promptline.Text

/-- The blanks that may surround a number: every blank but the information separators. -/
def isMargin (c : Char) : Bool := isBlank c && !inRanges [(0x1C, 0x1F)] c

/-- Splits off a sign; `true` stands for a minus. -/
def takeSign : List Char → Bool × List Char
  | '-' :: r => (true, r)
  | '+' :: r => (false, r)
  | s => (false, s)

/-- The value of digits, the most significant first. -/
def valueOf (digits : List Nat) : Nat := digits.foldl (fun n d => 10 * n + d) 0

/-- One or more digits, with single underscores between them. -/
def readDigits? : List Char → Option (List Nat)
  | [] => none
  | [c] => (digitValue? c).map ([·])
  | c :: '_' :: r => do
    let d ← digitValue? c
    let ds ← readDigits? r
    return d :: ds
  | c :: r => do
    let d ← digitValue? c
    let ds ← readDigits? r
    return d :: ds

/-- The most digits an integer may have. -/
def maxDigits : Nat := 4300

/-- Reads an integer of at most `maxDigits` digits. -/
def readInteger? (s : List Char) : Option Int := do
  let (negative, r) := takeSign (dropEnd isMargin (dropStart isMargin s))
  let digits ← readDigits? r
  guard (digits.length ≤ maxDigits)
  return if negative then -(valueOf digits : Int) else valueOf digits

/-- `c` with its decimal value as an ASCII digit, if it has one. -/
def plainDigit (c : Char) : Char :=
  match digitValue? c with
  | some d => Char.ofNat (48 + d)
  | none => c

/-- Takes out underscores, each of which must stand between two digits. -/
def joinGroups? : List Char → Option (List Char)
  | [] => some []
  | '_' :: _ => none
  | [c] => some [c]
  | c :: '_' :: d :: r =>
    if c.isDigit && d.isDigit then (joinGroups? (d :: r)).map (c :: ·) else none
  | c :: r => (joinGroups? r).map (c :: ·)

/-- The digits at the start of `s`, and the rest. -/
def spanDigits (s : List Char) : List Nat × List Char :=
  ((s.takeWhile Char.isDigit).map (·.toNat - 48), s.dropWhile Char.isDigit)

/-- An exponent, if there is one: `e`, a sign and digits, up to the end. -/
def readExponent? : List Char → Option Int
  | [] => some 0
  | e :: r =>
    if e = 'e' || e = 'E' then
      let (negative, r) := takeSign r
      let (digits, rest) := spanDigits r
      if digits.isEmpty || !rest.isEmpty then none
      else some (if negative then -(valueOf digits : Int) else valueOf digits)
    else none

/-- Reads digits with an optional point among them and an optional exponent after them. -/
def readDecimal? (s : List Char) : Option Binary64 := do
  let (whole, r) := spanDigits s
  let (fraction, r) := match r with
    | '.' :: r => spanDigits r
    | r => ([], r)
  guard (!(whole.isEmpty && fraction.isEmpty))
  let e ← readExponent? r
  return .ofDecimal (valueOf (whole ++ fraction)) (e - fraction.length)

/-- Reads a number: a decimal, or the words for infinity and NaN in any case. -/
def readBinary64? (s : List Char) : Option Binary64 := do
  let s := (dropEnd isMargin (dropStart isMargin s)).map plainDigit
  let s ← joinGroups? s
  let (negative, r) := takeSign s
  let word := String.ofList (r.map Char.toLower)
  if word = "inf" || word = "infinity" then
    return Binary64.infinity.withSign negative
  else if word = "nan" then
    return .nan
  else
    return (← readDecimal? r).withSign negative

end Promptline.Number
