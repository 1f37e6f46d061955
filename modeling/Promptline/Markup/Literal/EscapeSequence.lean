import Promptline.Markup.Literal.Misspelling
import Promptline.Text.CharacterName
import Promptline.Text.Character

/-! Escapes in texts.  Characters beyond ASCII are written as escapes first, so they count with all
the places of those. -/

namespace Promptline.Markup.Literal

open Promptline.Text

/-- The escape of ten places for a character. -/
def longEscape (c : Char) : List Char := '\\' :: 'U' :: hexDigits 8 c.toNat

/-- `c` as it is, or as an escape if it is beyond ASCII. -/
def asAscii (c : Char) : List Char := if c.toNat < 0x80 then [c] else longEscape c

/-- A text with escapes for all characters beyond ASCII, and for a backslash before one of them or
at the end. -/
def expanded : List Char → List Char
  | [] => []
  | ['\\'] => "\\u005c".toList
  | '\\' :: c :: r =>
    (if c.toNat < 0x80 then ['\\', c] else "\\u005c".toList ++ longEscape c) ++ expanded r
  | c :: r => asAscii c ++ expanded r

/-- The digits that an escape for a code point has after its first letter. -/
def digitsAfter? (c : Char) : Option Nat :=
  if c = 'x' then some 2 else if c = 'u' then some 4 else if c = 'U' then some 8 else none

/-- The largest code point. -/
def maxCodePoint : Nat := 0x10FFFF

/-- The number that hexadecimal digits stand for. -/
def hexNumber (digits : List Char) : Nat :=
  digits.foldl (fun n d => 16 * n + (hexValue? d).getD 0) 0

/-- What is wrong with an escape that starts with `c` before `r`, if so, and how many places after
`c` it takes up to where that shows. -/
def escapeFaultAt? (c : Char) (r : List Char) : Option (Nat × EscapeFault) :=
  match digitsAfter? c with
  | some size =>
    let digits := (r.take size).takeWhile isHexDigit
    if digits.length < size then
      some (digits.length, .truncated (String.ofList ('\\' :: c :: List.replicate size 'X')))
    else if maxCodePoint < hexNumber digits then some (size, .noSuchCharacter)
    else none
  | none =>
    if c ≠ 'N' then none
    else
      match r with
      | '{' :: r =>
        let name := r.takeWhile (· ≠ '}')
        if name.length = r.length then some (name.length + 1, .malformedName)
        else if name.isEmpty then some (1, .malformedName)
        else if isCharacterName name then none
        else some (name.length + 2, .unknownName)
      | _ => some (0, .malformedName)

/-- The first escape at fault in an ASCII text, from `place` on. -/
def escapeFaultFrom? : Nat → List Char → Option Misspelling
  | _, [] => none
  | place, '\\' :: c :: r =>
    match escapeFaultAt? c r with
    | some (size, f) => some (.escape place (place + 1 + size) f)
    | none => escapeFaultFrom? (place + 2) r
  | place, _ :: r => escapeFaultFrom? (place + 1) r

/-- The first escape at fault in a text. -/
def escapeFault? (inside : List Char) : Option Misspelling := escapeFaultFrom? 0 (expanded inside)

/-- The place of the first escape in bytes, from `place` on, that has too few digits. -/
def byteEscapeFault? : Nat → List Char → Option Nat
  | _, [] => none
  | place, '\\' :: c :: r =>
    if c = 'x' && ((r.take 2).takeWhile isHexDigit).length < 2 then some place
    else byteEscapeFault? (place + 2) r
  | place, _ :: r => byteEscapeFault? (place + 1) r

end Promptline.Markup.Literal
