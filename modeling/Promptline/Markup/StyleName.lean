import Promptline.Markup.ColourName
import Promptline.Markup.Fault
import Promptline.Number.Reading
import Promptline.Text.LowerCase

/-! The names of styles.  A name lists effects, colours and a link in any order and in short words
or long ones; names of one style have one normal form. -/

namespace Promptline.Markup

open Promptline.Number Promptline.Text

/-- Ways of drawing text that a style turns on or off. -/
inductive Effect where
  | bold | dim | italic | underline | blink | blink2 | reverse | conceal | strike | underline2
  | frame | encircle | overline
deriving DecidableEq, Repr

namespace Effect

/-- The effects in the order of a normal form. -/
def all : List Effect :=
  [bold, dim, italic, underline, blink, blink2, reverse, conceal, strike, underline2, frame,
   encircle, overline]

def name : Effect → String
  | bold => "bold"
  | dim => "dim"
  | italic => "italic"
  | underline => "underline"
  | blink => "blink"
  | blink2 => "blink2"
  | reverse => "reverse"
  | conceal => "conceal"
  | strike => "strike"
  | underline2 => "underline2"
  | frame => "frame"
  | encircle => "encircle"
  | overline => "overline"

/-- The short word for an effect. -/
def short? : Effect → Option String
  | bold => some "b"
  | dim => some "d"
  | italic => some "i"
  | underline => some "u"
  | reverse => some "r"
  | conceal => some "c"
  | strike => some "s"
  | underline2 => some "uu"
  | overline => some "o"
  | _ => none

/-- The effect that a word means. -/
def ofWord? (word : String) : Option Effect :=
  all.find? fun e => e.name = word || e.short? = some word

end Effect

/-- The value of a colour's component; none has more than 255. -/
def component (digits : List Char) : Except Fault (Option Nat) :=
  if digits.isEmpty then .error (.component .empty)
  else if maxDigits < digits.length then .error (.component (.tooLong digits.length))
  else .ok (((readInteger? digits).map Int.toNat).filter (· ≤ 255))

/-- `word` means a colour: by name, by number, or by its components. -/
def isColour (word : String) : Except Fault Bool :=
  let hexDigit (c : Char) : Bool := c.isDigit || ('a' ≤ c && c ≤ 'f')
  let inBrackets? (name : String) : Option (List Char) :=
    if name.toList.isPrefixOf word.toList && word.toList.getLast? = some ')' then
      some (word.toList.drop name.length).dropLast
    else none
  if isColourName word then .ok true
  else if word.toList.take 1 = ['#'] then
    .ok (word.length = 7 && (word.toList.drop 1).all hexDigit)
  else
    match inBrackets? "color(", inBrackets? "rgb(" with
    | some number, _ =>
      .ok (1 ≤ number.length && number.length ≤ 3 && number.all Char.isDigit &&
        valueOf (number.map fun c => c.toNat - 48) ≤ 255)
    | none, some list =>
      let digits := splitAtEach (· == ',') list
      if digits.length = 3 && list.all fun c => c = ',' || (digitValue? c).isSome then
        (digits.mapM component).map (·.all Option.isSome)
      else .ok false
    | none, none => .ok false

/-- A style. -/
structure StyleName where
  /-- What has been said of effects, the newest first. -/
  effects : List (Effect × Bool) := []
  colour : Option String := none
  background : Option String := none
  link : Option String := none
deriving DecidableEq, Repr

namespace StyleName

/-- The style after a word that stands for itself; `none` if it means nothing. -/
def add (s : StyleName) (word : String) : Except Fault (Option StyleName) := do
  match Effect.ofWord? word with
  | some e => return some { s with effects := (e, true) :: s.effects }
  | none => return if ← isColour word then some { s with colour := some word } else none

/-- The style after one of the words that say something of the next one; `none` if it says nothing
of it. -/
def addPair (s : StyleName) (word next : String) : Except Fault (Option StyleName) := do
  match word with
  | "on" =>
    return if ← isColour (lowered next) then some { s with background := lowered next } else none
  | "not" => return (Effect.ofWord? next).map fun e => { s with effects := (e, false) :: s.effects }
  | _ => return some { s with link := next }

/-- The style that the words of a name make up, after those that have been read; `none` if they name
no style. -/
def ofWordsAfter (s : StyleName) : List String → Except Fault (Option StyleName)
  | [] => .ok (some s)
  | word :: rest => do
    if ["on", "not", "link"].contains (lowered word) then
      match rest with
      | [] => return none
      | next :: rest =>
        match ← s.addPair (lowered word) next with
        | some s => s.ofWordsAfter rest
        | none => return none
    else
      match ← s.add (lowered word) with
      | some s => s.ofWordsAfter rest
      | none => return none

/-- The normal form of the names of a style. -/
def text (s : StyleName) : String :=
  let effects := Effect.all.filterMap fun e =>
    (s.effects.lookup e).map fun isOn => if isOn then e.name else "not " ++ e.name
  let words := effects ++ s.colour.toList ++ (s.background.map ("on " ++ ·)).toList ++
    (s.link.map ("link " ++ ·)).toList
  if words.isEmpty then "none" else " ".intercalate words

end StyleName

/-- The style that a name means, if it means one. -/
def StyleName.read (name : List Char) : Except Fault (Option StyleName) :=
  StyleName.ofWordsAfter {} ((words name).map String.ofList)

/-- The normal form of the name of a tag: that of the style it names, else the name without
surrounding blanks and in lower case. -/
def normalName (name : List Char) : Except Fault String := do
  if trim name = "none".toList then return "none"
  match ← StyleName.read name with
  | some s => return s.text
  | none => return String.ofList (lower (trim name))

end Promptline.Markup
