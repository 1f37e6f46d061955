import Promptline.Markup.Literal.Misspelling
import Promptline.Markup.Literal.Value
import Promptline.Number.Reading

/-! The ways in which marked-up text cannot be shown. -/

namespace Promptline.Markup

open Promptline.Markup.Literal Promptline.Number Promptline.Text

/-- What is wrong with a component of a colour. -/
inductive ComponentFault where
  | empty
  /-- It has this many digits. -/
  | tooLong (digits : Nat)
deriving DecidableEq, Repr

def ComponentFault.message : ComponentFault → String
  | .empty => "invalid literal for int() with base 10: ''"
  | .tooLong digits =>
    s!"Exceeds the limit ({maxDigits} digits) for integer string conversion: value has " ++
      s!"{digits} digits; use sys.set_int_max_str_digits() to increase the limit"

/-- Why marked-up text cannot be shown. -/
inductive Fault where
  /-- A closing tag, with its offset, closes nothing. -/
  | unmatched (body : List Char) (offset : Nat)
  | nothingOpen (offset : Nat)
  /-- The literal in the parameters of a handler is misspelled. -/
  | misspelled (literal parameters : List Char) (m : Misspelling)
  /-- The literal in the parameters of a handler stands for nothing. -/
  | meaningless (parameters : List Char) (d : Defect)
  /-- A colour has a component that cannot be read. -/
  | component (f : ComponentFault)
deriving DecidableEq, Repr

def Fault.message : Fault → String
  | .unmatched body offset =>
    s!"closing tag '[{String.ofList body}]' at position {offset} doesn't match any open tag"
  | .nothingOpen offset => s!"closing tag '[/]' at position {offset} has nothing to close"
  | .misspelled literal parameters m =>
    "error parsing " ++ quoted (String.ofList literal) ++ " in " ++
      quoted (String.ofList parameters) ++ "; " ++ m.message
  | .meaningless parameters d =>
    "error parsing " ++ quoted (String.ofList parameters) ++ "; " ++ d.message
  | .component f => f.message

end Promptline.Markup
