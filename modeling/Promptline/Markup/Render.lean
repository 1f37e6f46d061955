import Promptline.Markup.Literal.Reading
import Promptline.Markup.StyleName
import Promptline.Markup.Tag
import Promptline.Text.SpannedText
import Promptline.Text.WordCharacter

/-! The text that marked-up text shows.  Tags show nothing; each gives the text up to its closing
tag a style, or the rest of the text if it is not closed.  A closing tag must have an open one to
close.  A tag whose name starts with an at sign is a handler: its parameters are a name, a literal in
round brackets, or both; anything else must be a literal as a whole. -/

namespace Promptline.Markup

open Promptline.Text

/-- The literal in the parameters of a handler, which have no blanks around them. -/
def literalOf (parameters : List Char) : List Char :=
  let (_, rest) := Literal.split (fun c => isWordCharacter c || c = '.') parameters
  match rest with
  | [] => ['(', ')']
  | '(' :: r => if r.getLast? = some ')' && !r.contains '\n' then rest else parameters
  | _ => parameters

/-- Checks the parameters of a handler. -/
def checkParameters (parameters : List Char) : Except Fault Unit :=
  if parameters.isEmpty then .ok ()
  else
    let literal := literalOf (trim parameters)
    match Literal.problem? literal with
    | some (.misspelled m) => .error (.misspelled literal parameters m)
    | some (.meaningless d) => .error (.meaningless parameters d)
    | none => .ok ()

/-- A tag that is open since `start`. -/
structure OpenTag where
  start : Nat
  name : String
  parameters : Option (List Char)
deriving DecidableEq, Repr

namespace OpenTag

/-- The tag calls a handler. -/
def isHandler (t : OpenTag) : Bool := t.name.toList.head? = some '@'

/-- The style that a tag names. -/
def style (t : OpenTag) : String :=
  match t.parameters with
  | none => t.name
  | some parameters => t.name ++ " " ++ String.ofList parameters

/-- The span of a tag that is closed at `stop`.  A handler gives no style, but it can be closed only
with proper parameters. -/
def close (t : OpenTag) (stop : Nat) : Except Fault Span :=
  if t.isHandler then (checkParameters (t.parameters.getD [])).map fun _ => ⟨t.start, stop, ""⟩
  else .ok ⟨t.start, stop, t.style⟩

/-- The span of a tag that is never closed. -/
def span (t : OpenTag) (stop : Nat) : Span := ⟨t.start, stop, t.style⟩

end OpenTag

/-- A tag as it acts on the tags that are open. -/
inductive Action where
  | opening (name : String) (parameters : Option (List Char))
  | closing (name : String)
  | closingNewest
deriving DecidableEq, Repr

/-- What the tag `body` does.  An equals sign keeps its name and its parameters apart. -/
def actionOf (body : List Char) : Except Fault Action := do
  let (name, parameters) := body.span (· ≠ '=')
  match name with
  | '/' :: name =>
    if (trim name).isEmpty then return .closingNewest
    else return .closing (← normalName (trim name))
  | name => return .opening (← normalName name) (parameters.head?.map fun _ => parameters.drop 1)

/-- What has been rendered: the text with the spans of the closed tags, and the open tags, both with
the newest first. -/
structure Rendering where
  /-- The characters, the last one first. -/
  shown : List Char := []
  size : Nat := 0
  spans : List Span := []
  stack : List OpenTag := []
deriving DecidableEq, Repr

/-- Characters that move the cursor of a terminal and are left out of what is shown. -/
def isControl (c : Char) : Bool := c ∈ ['\x07', '\x08', '\x0B', '\x0C', '\x0D']

/-- `s` without the characters that move the cursor. -/
def stripControls (s : List Char) : List Char := s.filter (!isControl ·)

namespace Rendering

/-- Shows a character, unless it is one that moves the cursor. -/
def push (r : Rendering) (c : Char) : Rendering :=
  if isControl c then r else { r with shown := c :: r.shown, size := r.size + 1 }

/-- Closes the tag `t`, which leaves `stack` open. -/
def close (r : Rendering) (t : OpenTag) (stack : List OpenTag) : Except Fault Rendering :=
  (t.close r.size).map fun span => { r with spans := span :: r.spans, stack := stack }

/-- Follows the tag `body` at `offset`. -/
def act (r : Rendering) (offset : Nat) (body : List Char) : Except Fault Rendering := do
  match ← actionOf body with
  | .opening name parameters => return { r with stack := ⟨r.size, name, parameters⟩ :: r.stack }
  | .closing name =>
    match r.stack.find? (·.name = name) with
    | none => throw (.unmatched body offset)
    | some t => r.close t (r.stack.eraseP (·.name = name))
  | .closingNewest =>
    match r.stack with
    | [] => throw (.nothingOpen offset)
    | t :: rest => r.close t rest

/-- Goes on with a piece. -/
def add (r : Rendering) : Piece → Except Fault Rendering
  | .char c => .ok (r.push c)
  | .tag offset body => r.act offset body

/-- The whole text.  Of spans that start together, the one that was closed last comes first, and one
that was not closed comes before those that were. -/
def finish (r : Rendering) : SpannedText :=
  let unclosed := (r.stack.map (·.span r.size)).reverse
  ⟨r.shown.reverse, (unclosed ++ r.spans).mergeSort fun a b => a.start ≤ b.start⟩

end Rendering

/-- The text that `s` shows, with its spans in the order of their starts. -/
def render (s : List Char) : Except Fault SpannedText :=
  ((pieces s).foldlM Rendering.add {}).map Rendering.finish

end Promptline.Markup
