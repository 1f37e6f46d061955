import Promptline.Markup.Literal.Term

/-! What the grammar of literals is written in.  A rule has variants, of which the first that fits
counts.  A variant is a sequence of items and says what comes of them. -/

namespace Promptline.Markup.Literal

/-- The rules of the grammar. -/
inductive Rule where
  -- What is read as a whole.
  | whole | templatePart
  -- Expressions, the loosest first.
  | expressions | expression | yielded | starredExpressions | starredExpression
  | elements | element | naming | namedExpression
  | disjunction | conjunction | inversion | comparison | compared
  | bitwiseOr | bitwiseXor | bitwiseAnd | shift | sum | product | factor | power | awaited | primary
  | atom | texts
  -- What stands in brackets.
  | group | tuple | generator | set | setComprehension
  | dictionary | entries | entry | pair | dictionaryComprehension
  | clauses | clause
  -- Functions without a name.
  | lambda | parameters | parameterList | plainBeforeSlash | defaultedBeforeSlash | starParameters
  | doubleStarParameter | plainParameter | defaultedParameter | anyParameter | parameter | default
  -- Arguments of calls.
  | arguments | argumentList | namedArguments | starredArgument | namedOrStarred
  | namedOrDoubleStarred
  -- What the clauses of comprehensions assign to.
  | targets | targetList | target | targetWithoutStar | targetAtom | targetPrimary | targetTail
  -- What might have been meant where nothing fits.
  | plainExpression | expressionHint | statementHint | namedHint | groupHint | comprehensionHint
  | dictionaryComprehensionHint | entriesHint | pairHint | clauseHint | parametersHint
  | parametersHintHead | starParametersHint | doubleStarParameterHint | defaultHint | argumentsHint
  | namedArgumentHint
deriving DecidableEq, Hashable, Repr

/-- What a token has to be. -/
inductive Wanted where
  | fixed (s : String)
  | name
  /-- A name that starts like a word which has a meaning in some places. -/
  | softWord
  | number
  | text
  | lineEnd
  | finish
deriving DecidableEq, Repr

/-- `word` starts like a word which has a meaning in some places. -/
def startsSoftWord (word : String) : Bool := ["_", "case", "match"].any word.isPrefixOf

/-- What has been read by a variant: the expressions that each item has given, and the number of
brackets that are open after it. -/
structure Glimpse where
  parts : List (List Term)
  depth : Nat

/-- What comes of a variant that fits. -/
inductive Outcome where
  /-- The expressions of the items, one after another. -/
  | parts
  /-- An expression with these parts. -/
  | form (f : Form)
  /-- Texts that stand side by side, put together. -/
  | joined
  /-- A hint, or nothing at all. -/
  | hint (f : Glimpse → Option Hint)

mutual

/-- What stands at one place. -/
inductive Phrase where
  | rule (r : Rule)
  /-- The first variant that fits. -/
  | choice (as : List Variant)
  /-- The same items as often as they fit, at least once if `isNeeded` says so. -/
  | repeated (isNeeded : Bool) (items : List Item)
  /-- Phrases with commas between them. -/
  | separated (p : Piece)

/-- A token or a phrase. -/
inductive Piece where
  | token (w : Wanted)
  | phrase (p : Phrase)

/-- An item of a variant. -/
inductive Item where
  | piece (p : Piece)
  | optional (p : Piece)
  /-- What has to come next, or must not, and is not read yet. -/
  | ahead (isWanted : Bool) (p : Piece)
  /-- What comes before shows that no other variant can fit. -/
  | cut

/-- A sequence of items.  Those that only hint at what was meant are left out at first. -/
inductive Variant where
  | mk (items : List Item) (outcome : Outcome) (isHint : Bool)

end

instance : Coe String Piece := ⟨fun s => .token (.fixed s)⟩

instance : Coe Wanted Piece := ⟨.token⟩

instance : Coe Rule Piece := ⟨fun r => .phrase (.rule r)⟩

instance : Coe Phrase Piece := ⟨.phrase⟩

instance : Coe String Item := ⟨fun s => .piece s⟩

instance : Coe Wanted Item := ⟨fun w => .piece w⟩

instance : Coe Rule Item := ⟨fun r => .piece r⟩

instance : Coe Phrase Item := ⟨fun p => .piece p⟩

namespace Variant

/-- The items give their expressions. -/
def pass (items : List Item) : Variant := ⟨items, .parts, false⟩

/-- The expressions of the items are the parts of one. -/
def build (f : Form) (items : List Item) : Variant := ⟨items, .form f, false⟩

/-- The items show what might have been meant. -/
def suggest (items : List Item) (h : Hint) : Variant := ⟨items, .hint fun _ => some h, false⟩

/-- The items may show what might have been meant. -/
def consider (items : List Item) (f : Glimpse → Option Hint) : Variant := ⟨items, .hint f, false⟩

/-- A rule that hints at what was meant. -/
def hints (r : Rule) : Variant := ⟨[r], .parts, true⟩

def items : Variant → List Item
  | mk items _ _ => items

def outcome : Variant → Outcome
  | mk _ outcome _ => outcome

def isHint : Variant → Bool
  | mk _ _ isHint => isHint

end Variant

namespace Phrase

/-- Variants that only give what their items give. -/
def oneOf (as : List (List Item)) : Phrase := .choice (as.map .pass)

/-- A sequence of items. -/
def sequence (items : List Item) : Phrase := oneOf [items]

/-- An item as often as it fits. -/
def many (i : Item) : Phrase := .repeated false [i]

/-- An item as often as it fits, at least once. -/
def some (i : Item) : Phrase := .repeated true [i]

end Phrase

namespace Item

def maybe (p : Piece) : Item := .optional p

def next (p : Piece) : Item := .ahead true p

def notNext (p : Piece) : Item := .ahead false p

end Item

namespace Glimpse

/-- What the first expression of item `i` is called. -/
def noun (g : Glimpse) (i : Nat) : String :=
  match g.parts[i]? with
  | some (t :: _) => t.noun
  | _ => ""

/-- The name that item `i` has given. -/
def name? (g : Glimpse) (i : Nat) : Option String :=
  match g.parts[i]? with
  | some (t :: _) => t.name?
  | _ => none

/-- What no value can be assigned to in what item `i` has given. -/
def unassignable? (g : Glimpse) (i : Nat) : Option String :=
  match g.parts[i]? with
  | some (t :: _) => t.unassignable?
  | _ => none

/-- The arguments that item `i` has given. -/
def arguments (g : Glimpse) (i : Nat) : List Term := g.parts.getD i []

end Glimpse

end Promptline.Markup.Literal
