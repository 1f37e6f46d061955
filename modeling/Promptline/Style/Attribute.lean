/-! Style attributes: the words that a segment of text may carry, and what each means.  A word is a
flag, or a colour with an optional layer before it. -/

namespace Promptline.Style

/-- How characters look apart from their colour. -/
inductive Flag where
  | bold | dim | italic | underlined | blink | inverse
deriving DecidableEq, Repr

namespace Flag

def all : List Flag := [bold, dim, italic, underlined, blink, inverse]

/-- The attribute word. -/
def name : Flag → String
  | bold => "bold"
  | dim => "dim"
  | italic => "italic"
  | underlined => "underlined"
  | blink => "blink"
  | inverse => "inverse"

/-- The word in a prompt style, which cannot dim. -/
def promptWord? : Flag → Option String
  | bold => some "bold"
  | dim => none
  | italic => some "italic"
  | underlined => some "underline"
  | blink => some "blink"
  | inverse => some "reverse"

/-- The word in a console style. -/
def consoleWord : Flag → String
  | bold => "bold"
  | dim => "dim"
  | italic => "italic"
  | underlined => "underline"
  | blink => "blink"
  | inverse => "reverse"

end Flag

/-- The eight terminal colours. -/
inductive Hue where
  | black | red | green | yellow | blue | magenta | cyan | white
deriving DecidableEq, Repr

namespace Hue

def all : List Hue := [black, red, green, yellow, blue, magenta, cyan, white]

def name : Hue → String
  | black => "black"
  | red => "red"
  | green => "green"
  | yellow => "yellow"
  | blue => "blue"
  | magenta => "magenta"
  | cyan => "cyan"
  | white => "white"

/-- The hue with this name. -/
def ofName? (s : List Char) : Option Hue := all.find? (·.name.toList == s)

end Hue

/-- What a colour applies to. -/
inductive Layer where
  | foreground | background
deriving DecidableEq, Repr

def Layer.name : Layer → String
  | .foreground => "fg"
  | .background => "bg"

/-- A colour on a layer. -/
structure Colour where
  layer : Layer
  bright : Bool
  hue : Hue
deriving DecidableEq, Repr

namespace Colour

/-- Reads the layer at the start of a colour word; without one it is the foreground. -/
def takeLayer : List Char → Layer × List Char
  | 'f' :: 'g' :: '-' :: r => (.foreground, r)
  | 'b' :: 'g' :: '-' :: r => (.background, r)
  | s => (.foreground, s)

/-- Reads `bright-` at the start of a colour name. -/
def takeBright : List Char → Bool × List Char
  | 'b' :: 'r' :: 'i' :: 'g' :: 'h' :: 't' :: '-' :: r => (true, r)
  | s => (false, s)

/-- The colour that an attribute word names. -/
def ofWord? (s : List Char) : Option Colour :=
  let (layer, r) := takeLayer s
  let (bright, r) := takeBright r
  (Hue.ofName? r).map fun hue => ⟨layer, bright, hue⟩

/-- The colour's name without its layer, with `joint` after `bright`. -/
def nameWith (joint : String) (c : Colour) : String :=
  if c.bright then "bright" ++ joint ++ c.hue.name else c.hue.name

def name (c : Colour) : String := c.nameWith "-"

/-- The word in a prompt style. -/
def promptWord (c : Colour) : String := c.layer.name ++ ":ansi" ++ c.nameWith ""

/-- The words in a console style. -/
def consoleWords (c : Colour) : String :=
  match c.layer with
  | .foreground => c.nameWith "_"
  | .background => "on " ++ c.nameWith "_"

end Colour

/-- What an attribute word means. -/
inductive Attribute where
  | flag (f : Flag)
  | colour (c : Colour)
deriving DecidableEq, Repr

namespace Attribute

/-- The meaning of an attribute word; none if it has no meaning. -/
def ofWord? (s : String) : Option Attribute :=
  match Flag.all.find? (·.name == s) with
  | some f => some (.flag f)
  | none => (Colour.ofWord? s.toList).map .colour

/-- What the attribute adds to a prompt style. -/
def promptWord? : Attribute → Option String
  | .flag f => f.promptWord?
  | .colour c => some c.promptWord

/-- What the attribute adds to a console style. -/
def consoleWords : Attribute → String
  | .flag f => f.consoleWord
  | .colour c => c.consoleWords

end Attribute

end Promptline.Style
