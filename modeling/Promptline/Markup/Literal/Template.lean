import Promptline.Markup.Literal.Scanner
import Promptline.Markup.Literal.Value

/-! What comes in the way of a literal, and texts that stand side by side, templates among them.  A
template has parts in curly brackets, each with an expression, which may be followed by a sign for
how it is shown and by a format.  A format is itself a template, but the parts of its own parts'
formats have no formats. -/

namespace Promptline.Markup.Literal

/-- Why a text is no literal. -/
inductive Problem where
  | misspelled (m : Misspelling)
  /-- It is spelled like an expression, which stands for nothing. -/
  | meaningless (d : Defect)
deriving DecidableEq, Repr

/-- Why reading stops before it is known whether a rule fits. -/
inductive Halt where
  /-- There is no next token. -/
  | refused (r : Refusal)
  /-- What has been read so far is misspelled. -/
  | complaint (m : Misspelling)
  /-- There is a problem with a part of a template. -/
  | problem (p : Problem)
deriving DecidableEq, Repr

/-- Where the text of a template is read. -/
inductive TextPlace where
  | plain
  /-- After a backslash. -/
  | escape
  /-- After the letter of an escape for the name of a character. -/
  | beforeName
  /-- In such a name. -/
  | name
deriving DecidableEq, Repr

/-- Where the text before a part of a template stops, with what follows. -/
inductive TextStop where
  /-- At doubled brackets, which stand for one. -/
  | doubled (rest : List Char)
  /-- After the bracket that opens a part. -/
  | opening (rest : List Char)
  /-- Before a bracket that closes one. -/
  | closing (rest : List Char)
  | finish
deriving DecidableEq, Repr

/-- The text up to the next part of a template, and where it stops.  Escapes count unless the
template is raw, and only outside formats can brackets be doubled. -/
def textBefore (isRaw isFormat : Bool) : TextPlace → List Char → List Char × TextStop
  | _, [] => ([], .finish)
  | place, c :: r =>
    let further (place : TextPlace) : List Char × TextStop :=
      let (text, stop) := textBefore isRaw isFormat place r
      (c :: text, stop)
    let here : List Char × TextStop :=
      if c ≠ '{' && c ≠ '}' then further .plain
      else if !isFormat && r.head? = some c then ([c], .doubled (r.drop 1))
      else if c = '{' then ([], .opening r)
      else ([], .closing (c :: r))
    match place with
    | .plain => if c = '\\' && !isRaw then further .escape else here
    | .escape => if c = 'N' then further .beforeName else here
    | .beforeName => further (if c = '{' then .name else .plain)
    | .name => further (if c = '}' then .plain else .name)

/-- Where the expression of a part is read. -/
structure PartPlace where
  /-- The open brackets, the innermost first. -/
  brackets : List Char := []
  /-- The quote of the text that is open, and whether it is tripled. -/
  quote : Option (Char × Bool) := none
  /-- The number of next characters that belong to the last sign. -/
  seen : Nat := 0
deriving DecidableEq, Repr

/-- The expression at the start of a part, and what follows it. -/
def expressionOf (place : PartPlace) : List Char → Except TemplateFault (List Char × List Char)
  | [] =>
    if place.quote.isSome then .error .unterminated
    else
      match place.brackets with
      | b :: _ => .error (.unmatched b)
      | [] => .ok ([], [])
  | c :: r =>
    let further (place : PartPlace) : Except TemplateFault (List Char × List Char) :=
      (expressionOf place r).map fun (e, rest) => (c :: e, rest)
    let isTripled := [c, c].isPrefixOf r
    if 0 < place.seen then further { place with seen := place.seen - 1 }
    else if c = '\\' then .error .backslash
    else
      match place.quote with
      | some (quote, needsTripled) =>
        if c ≠ quote || (needsTripled && !isTripled) then further place
        else further { place with quote := none, seen := if needsTripled then 2 else 0 }
      | none =>
        if c = '\'' || c = '"' then
          further { place with quote := some (c, isTripled), seen := if isTripled then 2 else 0 }
        else if (closing? c).isSome then
          if maxDepth ≤ place.brackets.length then .error .tooManyBrackets
          else further { place with brackets := c :: place.brackets }
        else if c = '#' then .error .comment
        else if place.brackets.isEmpty && ['!', '=', '<', '>'].contains c && r.head? = some '=' then
          further { place with seen := 1 }
        else if place.brackets.isEmpty && ['!', '=', ':', '}'].contains c then .ok ([], c :: r)
        else if c = ')' || c = ']' || c = '}' then
          match place.brackets with
          | [] => .error (.unmatched c)
          | b :: bs =>
            if closing? b = some c then further { place with brackets := bs }
            else .error (.mismatched c b)
        else further place

/-- Templates and formats in them are as deep as this, at most. -/
def maxTemplates : Nat := 2

/-- Characters that count as nothing where an expression is wanted. -/
def isGap (c : Char) : Bool := c = ' ' || c = '\t' || c = '\n' || c = '\x0C'

/-- Characters between an equals sign and what follows it in a part. -/
def isGapAfterEquals (c : Char) : Bool := isGap c || c = '\x0B' || c = '\r'

/-- How expressions are read in round brackets that start on a line. -/
abbrev PartReader := Nat → List Char → Except Problem Term

namespace QuotedText

/-- What a fault in a template leads to. -/
def halt (f : TemplateFault) : Halt := .complaint (.template f)

/-- Reads the expression at the start of a part on `line`. -/
def readExpression (read : PartReader) (line : Nat) (s : List Char) :
    Except Halt (Term × List Char) := do
  let (e, rest) ← (expressionOf {} s).mapError halt
  match rest with
  | [] => throw (halt .missingBrace)
  | c :: _ =>
    if e.all isGap then
      throw (halt (if c = '}' then .empty else .emptyBefore c))
    let t ← (read line e).mapError .problem
    return (t, rest)

/-- Skips what may stand between an expression and its format: an equals sign, and a sign for how
the expression is shown. -/
def skipConversion (s : List Char) : Except Halt (List Char) := do
  let s := match s with
    | '=' :: r => r.dropWhile isGapAfterEquals
    | s => s
  match s with
  | ['!'] => throw (halt .missingBrace)
  | '!' :: c :: r => if ['s', 'r', 'a'].contains c then return r else throw (halt .badConversion)
  | s => return s

/-- Reads the parts of a template, or of a format in templates that are `depth` deep.  The last line
of the template is `lastLine`. -/
def readParts (read : PartReader) (isRaw : Bool) (lastLine : Nat) :
    Nat → Nat → List Char → Except Halt (List Term × List Char)
  | 0, _, s => .ok ([], s)
  | fuel + 1, depth, s => do
    let (text, stop) := textBefore isRaw (0 < depth) .plain s
    if depth = 0 && stop matches .closing _ then throw (halt .singleBrace)
    if let some m := if isRaw then none else escapeFault? text then throw (.complaint m)
    match stop with
    | .finish => return ([], [])
    | .closing rest => return ([], rest)
    | .doubled rest => readParts read isRaw lastLine fuel depth rest
    | .opening rest =>
      if maxTemplates ≤ depth then throw (halt .tooDeep)
      let (t, rest) ← readExpression read (lastLine - lineEnds rest) rest
      let rest ← skipConversion rest
      let (format, rest) ← match rest with
        | [':'] => throw (halt .missingBrace)
        | ':' :: r => do
          let (parts, rest) ← readParts read isRaw lastLine fuel (depth + 1) r
          pure ([Term.form .template parts], rest)
        | rest => pure ([], rest)
      match rest with
      | '}' :: rest =>
        let (parts, rest) ← readParts read isRaw lastLine fuel depth rest
        return (.form .replacement (t :: format) :: parts, rest)
      | _ => throw (halt .missingBrace)

/-- The parts of a text on `line`, which has none unless it is a template. -/
def parts (t : QuotedText) (read : PartReader) (line : Nat) : Except Halt (List Term) :=
  if t.isTemplate then
    (readParts read t.isRaw (line + lineEnds t.inside) (t.inside.length + 1) 0 t.inside).map (·.1)
  else .ok []

end QuotedText

/-- Checks texts that stand side by side, each with its line, and reads their parts. -/
def partsOfTexts (read : PartReader) (isBytes : Bool) :
    List (QuotedText × Nat) → Except Halt (List Term)
  | [] => .ok []
  | (t, line) :: ts => do
    if let some m := t.fault? then throw (.complaint m)
    if t.isBytes ≠ isBytes then throw (.complaint .mixedTexts)
    let first ← t.parts read line
    let others ← partsOfTexts read isBytes ts
    return first ++ others

/-- Puts texts that stand side by side together, each with its line. -/
def joinTexts (read : PartReader) (ts : List (QuotedText × Nat)) : Except Halt Term := do
  let isBytes := (ts.head?.map (·.1.isBytes)).getD false
  let parts ← partsOfTexts read isBytes ts
  let form :=
    if ts.any (·.1.isTemplate) then Form.template else if isBytes then .bytes else .text
  return .form form parts

end Promptline.Markup.Literal
