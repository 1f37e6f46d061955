import Promptline.Markup.Literal.Term

/-! What a literal stands for, as far as it decides whether an expression is one: numbers and the
other constants, tuples, dictionaries and sets.  An expression of any other form stands for
nothing. -/

namespace Promptline.Markup.Literal

/-- Why an expression stands for nothing. -/
inductive Defect where
  | notLiteral
  /-- Another dictionary is unpacked into one. -/
  | unpacked
  /-- A dictionary or a set is an element of a set or a key. -/
  | unhashable (kind : String)
  /-- An imaginary number is added to an integer that is too large. -/
  | tooLarge
  /-- It has too many layers. -/
  | tooHigh
  /-- It is nested too deeply to be read. -/
  | tooDeep
  /-- It holds a zero character. -/
  | zeroCharacter
deriving DecidableEq, Repr

def Defect.message : Defect → String
  | notLiteral => "malformed node or string"
  | unpacked => "malformed node or string: None"
  | unhashable kind => s!"unhashable type: '{kind}'"
  | tooLarge => "int too large to convert to float"
  | tooHigh => "maximum recursion depth exceeded during ast construction"
  | tooDeep => ""
  | zeroCharacter => "source code string cannot contain null bytes"

/-- What an expression stands for. -/
inductive Value where
  /-- A number, with a sign or without one. -/
  | number (n : Numeral) (isSigned : Bool)
  | constant
  /-- A tuple, with the kind of an element that keeps it out of sets. -/
  | tuple (unhashable : Option String)
  | dictionary
  | set
  | nothing (d : Defect)
deriving DecidableEq, Repr

namespace Value

def defect? : Value → Option Defect
  | .nothing d => some d
  | _ => none

/-- What keeps a value out of sets. -/
def unhashable? : Value → Option String
  | .tuple kind => kind
  | .dictionary => some "dict"
  | .set => some "set"
  | _ => none

/-- Why a value cannot be an element of a set or a key. -/
def elementDefect? (v : Value) : Option Defect :=
  v.defect? <|> v.unhashable?.map .unhashable

/-- A tuple of values. -/
def ofTuple (vs : List Value) : Value :=
  match vs.findSome? defect? with
  | some d => .nothing d
  | none => .tuple (vs.findSome? unhashable?)

/-- A set of values. -/
def ofSet (vs : List Value) : Value :=
  match vs.findSome? elementDefect? with
  | some d => .nothing d
  | none => .set

/-- A dictionary with these keys and values; an entry without a key unpacks another dictionary. -/
def ofEntries (es : List (Option Value × Value)) : Value :=
  let defect? : Option Value × Value → Option Defect
    | (none, _) => some .unpacked
    | (some key, v) => key.defect? <|> v.defect? <|> key.elementDefect?
  match es.findSome? defect? with
  | some d => .nothing d
  | none => .dictionary

/-- A number with a sign before it. -/
def signed : Value → Value
  | .number n false => .number n true
  | _ => .nothing .notLiteral

/-- The least integer that is too large for a real number: it is as far from the largest one as from
the next power of two. -/
def tooLarge : Nat := Nat.pow 2 1024 - Nat.pow 2 970

/-- A real number and an imaginary one, added up. -/
def sum : Value → Value → Value
  | .number .imaginary _, _ => .nothing .notLiteral
  | .number n _, .number .imaginary false =>
    if n.size?.any (tooLarge ≤ ·) then .nothing .tooLarge else .constant
  | _, _ => .nothing .notLiteral

end Value

namespace Term

/-- A call of the function that makes a set, without arguments. -/
def isEmptySet : List Term → Bool
  | [name word] => word = "set"
  | _ => false

mutual

/-- What an expression stands for. -/
def value : Term → Value
  | number n => .number n false
  | quoted .. | name _ => .nothing .notLiteral
  | form f parts =>
    match f with
    | .word _ | .text | .bytes => .constant
    | .tuple => .ofTuple (values parts)
    | .set => .ofSet (values parts)
    | .dictionary => .ofEntries (entries parts)
    | .signed => operandSigned parts
    | .sum => operandSum parts
    | .call => if isEmptySet parts then .set else .nothing .notLiteral
    | _ => .nothing .notLiteral

def values : List Term → List Value
  | [] => []
  | t :: ts => value t :: values ts

/-- The keys and values of a dictionary. -/
def entries : List Term → List (Option Value × Value)
  | [] => []
  | form .entry [key, v] :: ts => (some (value key), value v) :: entries ts
  | t :: ts => (none, value t) :: entries ts

/-- The value of an operand with a sign. -/
def operandSigned : List Term → Value
  | [t] => (value t).signed
  | _ => .nothing .notLiteral

/-- The value of two operands with a sign between them. -/
def operandSum : List Term → Value
  | [a, b] => (value a).sum (value b)
  | _ => .nothing .notLiteral

end

end Term

end Promptline.Markup.Literal
