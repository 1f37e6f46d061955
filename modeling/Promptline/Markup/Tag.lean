/-! Tags in marked-up text.  A tag is `[`, a lower-case letter or one of `#`, `/` and `@`, any
characters but brackets, and `]`.  Backslashes directly before a tag take part in it: each pair
stands for one backslash, and one left over makes the tag plain text.  Escaped text has none that act
as tags. -/

namespace Promptline.Markup

/-- `c` may stand first in a tag. -/
def opensTag (c : Char) : Bool := ('a' ≤ c && c ≤ 'z') || c = '#' || c = '/' || c = '@'

/-- The next bracket in `s` is a closing one. -/
def closes : List Char → Bool
  | [] => false
  | c :: r => if c = ']' then true else if c = '[' then false else closes r

/-- `s` starts with a tag. -/
def startsTag : List Char → Bool
  | '[' :: c :: r => opensTag c && closes r
  | _ => false

/-- Only backslashes stand between the start of `s` and a tag. -/
def leadsToTag : List Char → Bool
  | '\\' :: r => leadsToTag r
  | s => startsTag s

/-- A piece of marked-up text: a character to show, or a tag with its text and the offset of its
opening bracket. -/
inductive Piece where
  | char (c : Char)
  | tag (offset : Nat) (body : List Char)
deriving DecidableEq, Repr

/-- The pieces of a text from `offset` on.  Inside a tag, `inside` holds the offset of its opening
bracket and what has been read of it, the newest character first. -/
def piecesFrom : Option (Nat × List Char) → Nat → List Char → List Piece
  | some (start, body), offset, c :: r =>
    if c = ']' then .tag start body.reverse :: piecesFrom none (offset + 1) r
    else piecesFrom (some (start, c :: body)) (offset + 1) r
  | none, offset, '\\' :: '\\' :: r =>
    if leadsToTag r then .char '\\' :: piecesFrom none (offset + 2) r
    else .char '\\' :: piecesFrom none (offset + 1) ('\\' :: r)
  | none, offset, '\\' :: '[' :: r => .char '[' :: piecesFrom none (offset + 2) r
  | none, offset, c :: r =>
    if startsTag (c :: r) then piecesFrom (some (offset, [])) (offset + 1) r
    else .char c :: piecesFrom none (offset + 1) r
  | _, _, [] => []

/-- The pieces of a marked-up text. -/
def pieces (s : List Char) : List Piece := piecesFrom none 0 s

/-- The texts of the tags in `s`. -/
def tags (s : List Char) : List (List Char) :=
  (pieces s).filterMap fun
    | .tag _ body => some body
    | .char _ => none

/-- Puts a backslash before each tag and doubles the backslashes that lead to one. -/
def shield : List Char → List Char
  | [] => []
  | c :: r =>
    if c = '\\' && leadsToTag r then '\\' :: '\\' :: shield r
    else if startsTag (c :: r) then '\\' :: c :: shield r
    else c :: shield r

/-- `s` ends in a single backslash. -/
def endsInBackslash (s : List Char) : Bool :=
  match s.reverse with
  | '\\' :: '\\' :: _ => false
  | '\\' :: _ => true
  | _ => false

/-- `s` with its tags shielded; a single backslash at the end is doubled. -/
def escape (s : List Char) : List Char :=
  let t := shield s
  if endsInBackslash t then t ++ ['\\'] else t

/-- `s` with its tags shielded. -/
def escaped (s : String) : String := String.ofList (escape s.toList)

end Promptline.Markup
