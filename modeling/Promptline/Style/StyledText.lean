import Promptline.Style.Attributes
import Promptline.Markup.Render
import Promptline.Text.Quoted

/-! Styled text: segments of text, each with a set of attributes, shown as fragments of a prompt or
as spans on a console. -/

namespace Promptline.Style

open Promptline.Text

/-- A run of text with one set of attributes. -/
structure Segment where
  text : String
  attributes : Attributes := .empty
deriving DecidableEq, Repr

def Segment.withAttribute (s : Segment) (word : String) : Segment :=
  { s with attributes := s.attributes.insert word }

/-- Segments in order. -/
structure StyledText where
  segments : List Segment
deriving DecidableEq, Repr

/-- An attribute word without a meaning. -/
structure UnknownAttribute where
  word : String
deriving DecidableEq, Repr

def UnknownAttribute.message (e : UnknownAttribute) : String :=
  "Unknown style attribute: " ++ Text.quoted e.word

namespace StyledText

def empty : StyledText := ⟨[]⟩

/-- One segment without attributes. -/
def plain (text : String) : StyledText := ⟨[⟨text, .empty⟩]⟩

/-- One segment with attributes, all of which must have a meaning. -/
def make (text : String) (words : List String) : Except UnknownAttribute StyledText :=
  match words.find? fun w => (Attribute.ofWord? w).isNone with
  | some w => .error ⟨w⟩
  | none => .ok ⟨[⟨text, .ofList words⟩]⟩

/-- One segment with attributes, meaningful or not. -/
def styled (text : String) (words : List String) : StyledText := ⟨[⟨text, .ofList words⟩]⟩

instance : Append StyledText := ⟨fun a b => ⟨a.segments ++ b.segments⟩⟩

/-- The texts one after another. -/
def join (ts : List StyledText) : StyledText := ⟨ts.flatMap segments⟩

/-- The characters without their styles. -/
def toText (t : StyledText) : String := String.join (t.segments.map Segment.text)

/-- There is no character. -/
def isBlank (t : StyledText) : Bool := t.segments.all (·.text.isEmpty)

/-- Adds an attribute word to every segment. -/
def withAttribute (t : StyledText) (word : String) : StyledText :=
  ⟨t.segments.map (·.withAttribute word)⟩

/-- The text as it looks when it is out of date. -/
def stale (t : StyledText) : StyledText := t.withAttribute Flag.inverse.name

/-- The fragments of a prompt: a style and a text each. -/
def fragments (t : StyledText) : List (String × String) :=
  t.segments.map fun s => (s.attributes.promptStyle, s.text)

end StyledText

/-- Adds a segment to a text on a console.  Cursor controls are left out, and a segment without text
adds nothing. -/
def appendSegment (t : SpannedText) (s : Segment) : SpannedText :=
  if s.text.isEmpty then t
  else
    let chars := t.chars ++ Markup.stripControls s.text.toList
    let style := s.attributes.consoleStyle
    ⟨chars, if style.isEmpty then t.spans else t.spans ++ [⟨t.chars.length, chars.length, style⟩]⟩

/-- The text as the console shows it. -/
def StyledText.onConsole (t : StyledText) : SpannedText := t.segments.foldl appendSegment {}

end Promptline.Style
