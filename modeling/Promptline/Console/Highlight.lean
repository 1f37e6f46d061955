import Promptline.Text.Character
import Promptline.Text.Pattern
import Promptline.Text.SpannedText
import Promptline.Text.WordCharacter

/-! What a console highlights in a text: tags, assignments, brackets, addresses, identifiers, calls,
constants, numbers, paths, quoted texts and links. -/

namespace Promptline.Console

open Promptline.Text

namespace Highlight

/-- One of the characters of `s`. -/
def oneOf (s : String) (c : Char) : Bool := s.toList.contains c

/-- One of the characters of words, or of `s`. -/
def wordOr (s : String) (c : Char) : Bool := isWordCharacter c || oneOf s c

/-- A hexadecimal digit. -/
def isHex (c : Char) : Bool := c.isDigit || ('a' ≤ c && c ≤ 'f') || ('A' ≤ c && c ≤ 'F')

/-- A decimal digit of any script. -/
def isAnyDigit (c : Char) : Bool := (digitValue? c).isSome

/-- Patterns one after another. -/
def chain : List Pattern → Pattern
  | [] => .run 0 (some 0) fun _ => false
  | [a] => a
  | a :: as => .seq a (chain as)

/-- The first of the patterns that matches. -/
def choice : List Pattern → Pattern
  | [] => .one fun _ => false
  | [a] => a
  | a :: as => .either a (choice as)

/-- The text `s` itself. -/
def word (s : String) : Pattern := chain (s.toList.map fun c => .one (· == c))

/-- `a`, or nothing. -/
def maybe (a : Pattern) : Pattern := .times 0 (some 1) a

/-- `n` to `m` hexadecimal digits. -/
def hex (n m : Nat) : Pattern := .run n (some m) isHex

/-- `count` groups with `mark` after each, and one group more. -/
def groups (count : Nat) (group : Pattern) (mark : Char) : Pattern :=
  chain [.times count (some count) (chain [group, .one (· == mark)]), group]

/-- An identifier of a device, whose groups are pairs or fours of hexadecimal digits. -/
def deviceNumber (pairs fours : Nat) : Pattern :=
  choice [groups pairs (hex 1 2) '-', groups pairs (hex 1 2) ':', groups fours (hex 4 4) '.']

/-- Digits with a fraction, if there is one. -/
def decimal : Pattern :=
  chain [.run 1 none Char.isDigit, .run 0 (some 1) (· == '.'), .run 0 none Char.isDigit]

/-- A constant that stands alone. -/
def constant (s : String) : Pattern := chain [.edge true, .noted (word s), .edge true]

/-- A text between two times `quote`. -/
def quotedBy (quote : String) : Pattern :=
  chain [.run 0 (some 1) (· == 'b'), word quote, .shortRun 0 (· ≠ '\n'), .notAfter (· == '\\'),
    word quote]

/-- A tag in angle brackets. -/
def tag : Pattern :=
  chain [.noted (word "<"), .noted (.run 0 none (wordOr "-.:|")),
    .noted (.run 0 none fun _ => true), .noted (word ">")]

/-- A name with an equals sign after it, and the value that follows. -/
def assignment : Pattern :=
  let quote := Pattern.run 0 (some 1) (· == '"')
  chain [.noted (.run 1 (some 50) isWordCharacter), word "=",
    maybe (.noted (chain [quote, .run 1 none isWordCharacter, quote]))]

/-- A bracket. -/
def bracket : Pattern := .noted (.one (oneOf "][\x7b\x7d()"))

/-- An address of a machine. -/
def addresses : List Pattern := [
  .noted (groups 3 (.run 1 (some 3) Char.isDigit) '.'),
  .noted
    (chain [.times 1 (some 7) (chain [hex 1 4, word ":", .run 0 (some 1) (· == ':')]), hex 1 4]),
  .noted (deviceNumber 7 3),
  .noted (deviceNumber 5 2),
  .noted
    (chain [hex 8 8, word "-", hex 4 4, word "-", hex 4 4, word "-", hex 4 4, word "-", hex 12 12])]

/-- A number, which may be complex. -/
def numbers : List Pattern :=
  let sign := Pattern.run 0 (some 1) (oneOf "-+")
  let exponent (digits : Pattern) := maybe (chain [word "e", sign, digits])
  let shortDigits := Pattern.shortRun 1 isAnyDigit
  let minus := Pattern.run 0 (some 1) (· == '-')
  [.noted (chain [.notAfter isWordCharacter, minus, decimal, exponent shortDigits,
      maybe (chain [.one (oneOf "-+"), decimal, exponent (.run 1 none isAnyDigit)]), word "j"]),
    .noted (choice [
      chain [.notAfter isWordCharacter, minus, decimal, exponent shortDigits, .edge true],
      chain [word "0x", .run 0 none isHex]])]

/-- A path with slashes, and the name of a file after it. -/
def path : Pattern :=
  let name := wordOr "-._+"
  chain [.noted (chain [.edge false, .times 0 none (chain [word "/", .run 1 none name]), word "/"]),
    maybe (.noted (.run 0 none name))]

/-- A text in quotes. -/
def quotedText : Pattern :=
  chain [.notAfter (wordOr "\\"),
    .noted (choice (["'''", "'", "\"\"\"", "\""].map quotedBy))]

/-- A link. -/
def link : Pattern :=
  let isPart (c : Char) : Bool := c.isAlphanum || oneOf "-$_+!\x60(),.?/;:&=%#~@" c
  .noted (chain [choice (["file", "https", "http", "ws", "wss"].map word), word "://",
    .run 0 none isPart])

/-- What stands alone as a value. -/
def value : Pattern :=
  choice (addresses ++ [
    chain [.noted (.shortRun 0 (wordOr ".")), word "("],
    constant "True", constant "False", constant "None",
    .noted (word "...")] ++ numbers ++ [path, quotedText, link])

/-- The patterns that are looked for one after another. -/
def patterns : List Pattern := [tag, assignment, bracket, value]

end Highlight

/-- A text with what is highlighted in it. -/
def highlighted (t : SpannedText) : SpannedText :=
  let s := t.chars.toArray
  let places := (Highlight.patterns.flatMap (·.search isWordCharacter s)).filter fun (a, b) => a < b
  { t with spans := places.map (fun (a, b) => { start := a, stop := b }) ++ t.spans }

end Promptline.Console
