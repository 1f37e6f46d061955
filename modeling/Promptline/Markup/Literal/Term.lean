import Promptline.Markup.Literal.QuotedText

/-! Expressions, as far as it matters for literals: which form they have and what their parts are.
-/

namespace Promptline.Markup.Literal

/-- The form of an expression, or of a part of one that is none itself. -/
inductive Form where
  /-- A word or a sign that is a value. -/
  | word (noun : String)
  | text
  | bytes
  | template
  /-- A part of a template that stands for text. -/
  | replacement
  | tuple
  | set
  | dictionary
  /-- A key and its value. -/
  | entry
  /-- A dictionary whose entries become those of another one. -/
  | unpacked
  | starred
  | call
  /-- An argument with a name, or a dictionary of such arguments. -/
  | keyword (isUnpacked : Bool)
  | member
  | lambda
  | parameters
  | parameter
  | generator
  | setComprehension
  | dictionaryComprehension
  | clause
  | yielded
  | awaited
  | named
  | conditional
  | boolean
  | negation
  | comparison
  /-- What something is compared with; `isMembership` says that it might hold that. -/
  | compared (isMembership : Bool)
  /-- A number with a sign. -/
  | signed
  | complement
  /-- A sum or a difference. -/
  | sum
  | operation
deriving DecidableEq, Repr

/-- What an expression of a form is called. -/
def Form.noun : Form → String
  | word noun => noun
  | text | bytes => "literal"
  | template | replacement => "f-string expression"
  | tuple => "tuple"
  | set => "set display"
  | dictionary => "dict literal"
  | starred => "starred"
  | call => "function call"
  | member => "attribute"
  | lambda => "lambda"
  | generator => "generator expression"
  | setComprehension => "set comprehension"
  | dictionaryComprehension => "dict comprehension"
  | yielded => "yield expression"
  | awaited => "await expression"
  | named => "named expression"
  | conditional => "conditional expression"
  | comparison => "comparison"
  | boolean | negation | signed | complement | sum | operation => "expression"
  | entry | unpacked | keyword _ | parameters | parameter | clause | compared _ => "part"

/-- A form that adds no layer of its own to what it is a part of. -/
def Form.isFlat : Form → Bool
  | entry | unpacked | compared _ | parameter => true
  | _ => false

/-- An expression. -/
inductive Term where
  | name (word : String)
  | number (n : Numeral)
  /-- One of the texts that stand side by side, on a line. -/
  | quoted (t : QuotedText) (line : Nat)
  | form (f : Form) (parts : List Term)
deriving Repr

namespace Term

/-- What an expression is called. -/
def noun : Term → String
  | name _ => "name"
  | number _ | quoted .. => "literal"
  | form f _ => f.noun

/-- The name that an expression is, if so. -/
def name? : Term → Option String
  | name word => some word
  | _ => none

/-- An argument that unpacks a dictionary. -/
def unpacksKeywords : Term → Bool
  | form (.keyword isUnpacked) _ => isUnpacked
  | _ => false

/-- An argument without a name. -/
def isPositional : Term → Bool
  | form (.keyword _) _ => false
  | _ => true

/-- The first comparison with the first of `parts` looks for it in the second. -/
def comparesMembership : List Term → Bool
  | _ :: form (.compared isMembership) _ :: _ => isMembership
  | _ => false

mutual

/-- What the first part of an expression that no value can be assigned to is called. -/
def unassignable? : Term → Option String
  | name _ => none
  | number _ | quoted .. => some "literal"
  | form f parts =>
    match f with
    | .member => none
    | .tuple => firstUnassignable? parts
    | .starred => headUnassignable? parts
    | .comparison => if comparesMembership parts then headUnassignable? parts else none
    | _ => some f.noun

/-- The first that one of `parts` gives. -/
def firstUnassignable? : List Term → Option String
  | [] => none
  | t :: ts => (unassignable? t).or (firstUnassignable? ts)

/-- What the first of `parts` gives. -/
def headUnassignable? : List Term → Option String
  | [] => none
  | t :: _ => unassignable? t

end

mutual

/-- An expression has more than `n` layers. -/
def isHigher : Nat → Term → Bool
  | 0, _ => true
  | n + 1, form f parts => anyHigher (if f.isFlat then n + 1 else n) parts
  | _ + 1, _ => false

/-- One of `parts` has more than `n` layers. -/
def anyHigher : Nat → List Term → Bool
  | _, [] => false
  | n, t :: ts => isHigher n t || anyHigher n ts

end

end Term

end Promptline.Markup.Literal
