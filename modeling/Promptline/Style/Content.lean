import Promptline.Style.StyledText

/-! What a prompt shows: a styled text that may be out of date. -/

namespace Promptline.Style

/-- A styled text, and whether it is out of date. -/
structure Content where
  text : StyledText
  isStale : Bool := false
deriving DecidableEq, Repr

namespace Content

def outdated (c : Content) : Content := { c with isStale := true }

/-- The text as it is displayed. -/
def styled (c : Content) : StyledText := if c.isStale then c.text.stale else c.text

/-- The characters without their styles. -/
def toText (c : Content) : String := c.text.toText

end Content

/-- What may stand beside a plus sign in an expression over texts. -/
inductive Operand where
  | text (t : StyledText)
  | content (c : Content)
  | string (s : String)
deriving DecidableEq, Repr

def Operand.kind : Operand → String
  | .text _ => "Text"
  | .content _ => "Content"
  | .string _ => "str"

/-- The kinds of two operands that cannot be added. -/
structure OperandMismatch where
  left : String
  right : String
deriving DecidableEq, Repr

def OperandMismatch.message (e : OperandMismatch) : String :=
  s!"unsupported operand type(s) for +: '{e.left}' and '{e.right}'"

/-- Only two texts can be added. -/
def Operand.add : Operand → Operand → Except OperandMismatch StyledText
  | .text a, .text b => .ok (a ++ b)
  | a, b => .error ⟨a.kind, b.kind⟩

end Promptline.Style
