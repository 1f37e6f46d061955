import Promptline.Markup.Literal.Misspelling
import Promptline.Text.Character

/-! The numbers in literals. -/

namespace Promptline.Markup.Literal

open Promptline.Number Promptline.Text

/-- A number, as far as it matters: an integer with its base and digits, or one of another kind. -/
inductive Numeral where
  | integer (base : Nat) (digits : List Char)
  | real
  | imaginary
deriving DecidableEq, Repr

namespace Numeral

/-- The size of an integer. -/
def size? : Numeral → Option Nat
  | integer base digits =>
    some (digits.foldl (fun n d => base * n + (hexValue? d).getD 0) 0)
  | _ => none

/-- The number of digits of a decimal integer that has too many. -/
def excess? : Numeral → Option Nat
  | integer 10 digits => if maxDigits < digits.length then some digits.length else none
  | _ => none

end Numeral

/-- Splits off the longest start of characters that satisfy `p`. -/
def split (p : Char → Bool) (s : List Char) : List Char × List Char :=
  (s.takeWhile p, s.dropWhile p)

/-- `c` may be part of a name, as far as its code tells. -/
def continuesName (c : Char) : Bool := c.isAlphanum || c = '_' || 0x80 ≤ c.toNat

/-- Words that may follow a number directly, if nothing follows that continues them. -/
def wordsAfterNumbers : List (List Char) := ["and", "else", "for", "or", "not"].map String.toList

/-- Nothing that spoils a number follows it.  Anything that starts with one of the words of two
letters may follow. -/
def endsNumber (s : List Char) : Bool :=
  !(s.take 1).any continuesName || ["if", "in", "is"].any (·.toList.isPrefixOf s) ||
    wordsAfterNumbers.any fun w => w.isPrefixOf s && !((s.drop w.length).take 1).any continuesName

/-- Reads digits with single underscores between them, none of which is the last one. -/
def readRun (p : Char → Bool) : List Char → Option (List Char × List Char)
  | '_' :: d :: r => if p d then readRun p (d :: r) else none
  | ['_'] => none
  | c :: r => if p c then (readRun p r).map fun (ds, r) => (c :: ds, r) else some ([], c :: r)
  | [] => some ([], [])

/-- A number, and what follows it. -/
abbrev NumberReading := Except TokenFault (Numeral × List Char)

/-- A number that ends here. -/
def endNumber (kind : String) (n : Numeral) (s : List Char) : NumberReading :=
  if endsNumber s then .ok (n, s) else .error (.badNumber kind)

/-- Reads an imaginary unit, if there is one. -/
def readUnit (n : Numeral) (s : List Char) : NumberReading :=
  match s with
  | 'j' :: r | 'J' :: r => endNumber "imaginary" .imaginary r
  | s => endNumber "decimal" n s

/-- Reads a run of decimal digits. -/
def readDecimal (s : List Char) : Except TokenFault (List Char × List Char) :=
  match readRun Char.isDigit s with
  | some found => .ok found
  | none => .error (.badNumber "decimal")

/-- Reads an exponent, if there is one, and what comes after it. -/
def readExponent (n : Numeral) (s : List Char) : NumberReading :=
  match s with
  | e :: r =>
    if e = 'e' || e = 'E' then
      let digits := match r with
        | '+' :: t | '-' :: t => t
        | t => t
      if (digits.take 1).any Char.isDigit then do
        let (_, r) ← readDecimal digits
        readUnit .real r
      else if digits.length < r.length then .error (.badNumber "decimal")
      else endNumber "decimal" n s
    else readUnit n s
  | [] => readUnit n s

/-- Reads what follows the digits before a decimal point. -/
def readTail (n : Numeral) (s : List Char) : NumberReading :=
  match s with
  | '.' :: r =>
    if (r.take 1).any Char.isDigit then do
      let (_, r) ← readDecimal r
      readExponent .real r
    else readExponent .real r
  | s => readExponent n s

/-- Reads the digits after a prefix for a base. -/
def readBase (kind : String) (base : Nat) (p : Char → Bool) (s : List Char) : NumberReading :=
  let wrongDigit (r : List Char) : Option Char := r.head?.filter Char.isDigit
  let s := match s with
    | '_' :: r => r
    | s => s
  if (s.take 1).any p then
    match readBaseRun p s with
    | .inl (digits, r) =>
      match wrongDigit r with
      | some d => .error (.badDigit d kind)
      | none => endNumber kind (.integer base digits) r
    | .inr r =>
      match wrongDigit r with
      | some d => .error (.badDigit d kind)
      | none => .error (.badNumber kind)
  else
    match wrongDigit s with
    | some d => .error (.badDigit d kind)
    | none => .error (.badNumber kind)
where
  /-- Reads digits with single underscores between them, or gives what follows an underscore that no
  digit follows. -/
  readBaseRun (p : Char → Bool) : List Char → (List Char × List Char) ⊕ List Char
    | '_' :: d :: r => if p d then readBaseRun p (d :: r) else .inr (d :: r)
    | ['_'] => .inr []
    | c :: r =>
      if p c then
        match readBaseRun p r with
        | .inl (ds, r) => .inl (c :: ds, r)
        | .inr r => .inr r
      else .inl ([], c :: r)
    | [] => .inl ([], [])

/-- Drops zeros with single underscores between them or before another digit. -/
def dropZeros : List Char → Option (List Char)
  | '0' :: r => dropZeros r
  | '_' :: '0' :: r => dropZeros r
  | '_' :: d :: r => if d.isDigit then some (d :: r) else none
  | ['_'] => none
  | r => some r

/-- Reads a number that starts with a zero. -/
def readZero (s : List Char) : NumberReading := do
  let r ← match dropZeros s with
    | some r => pure r
    | none => throw (.badNumber "decimal")
  if (r.take 1).any Char.isDigit then
    let (_, r) ← readDecimal r
    if (r.take 1).any (['.', 'e', 'E', 'j', 'J'].contains ·) then readTail .real r
    else throw .leadingZeros
  else readTail (.integer 8 []) r

/-- Reads a number from its first digit or point on. -/
def readNumber (s : List Char) : NumberReading :=
  match s with
  | '.' :: _ => readTail .real s
  | '0' :: c :: r =>
    if c = 'x' || c = 'X' then readBase "hexadecimal" 16 isHexDigit r
    else if c = 'o' || c = 'O' then readBase "octal" 8 (fun d => '0' ≤ d && d ≤ '7') r
    else if c = 'b' || c = 'B' then readBase "binary" 2 (fun d => d = '0' || d = '1') r
    else readZero s
  | s =>
    if (s.take 1).any (· = '0') then readZero s
    else do
      let (digits, r) ← readDecimal s
      readTail (.integer 10 digits) r

end Promptline.Markup.Literal
