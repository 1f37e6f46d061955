import Promptline.Markup.Literal.Parser

/-! Reading a literal.  Where the grammar does not fit, it is tried again with hints at what might
have been meant.  Faults of tokens further on count for more than what the grammar finds. -/

namespace Promptline.Markup.Literal

/-- Phrases are nested less than this many times. -/
def maxNesting : Nat := 6000

/-- Expressions have this many layers, at most. -/
def maxLayers : Nat := 2960

/-- How the parser of a literal, or of a part of a template, says that something is misspelled. -/
def reported (isPart : Bool) (m : Misspelling) : Misspelling := if isPart then .inTemplate m else m

namespace Scanner

/-- What is wrong when there is no next token. -/
def refused (s : Scanner) (isPart : Bool) : Refusal → Misspelling
  | .fault f => .token f
  | .obscure o => reported isPart <|
    match o, s.brackets with
    | .ended, b :: _ => .unclosed b.sign
    | .ended, [] => .unexpectedEnd
    | .afterBackslash, _ => .afterBackslash
    | .unevenMargin, _ => .unevenMargin
    | .mixedMargin, _ => .mixedMargin
    | .tooManyMargins, _ => .tooManyMargins

/-- The number of tokens that may still come is less than this. -/
def most (s : Scanner) : Nat :=
  3 * s.rest.length + s.indents + s.dedents + s.margins.length + 3

/-- What is wrong further on, if so: the fault of a token, or a bracket from before `line` that is
never closed. -/
def faultAhead? (s : Scanner) (isPart : Bool) (line : Nat) : Option Misspelling :=
  go s.most s
where
  go : Nat → Scanner → Option Misspelling
    | 0, _ => none
    | n + 1, s =>
      match s.next with
      | .ok (t, after) => if t.kind = .finish then none else go n after
      | .error (.fault f) => some (.token f)
      | .error (.obscure _) =>
        match s.brackets with
        | b :: _ => if b.line < line then some (reported isPart (.unclosed b.sign)) else none
        | [] => none

end Scanner

namespace Progress

/-- What counts, if `m` is wrong with what has been read. -/
def settle (p : Progress) (isPart : Bool) (m : Misspelling) : Misspelling :=
  (p.scanner.faultAhead? isPart ((p.tokens.back?.map Token.line).getD 0)).getD m

/-- The problem that stops reading here. -/
def problem (p : Progress) (isPart : Bool) : Halt → Problem
  | .refused r => .misspelled (p.scanner.refused isPart r)
  | .complaint m => .misspelled (weigh (reported isPart m))
  | .problem (.misspelled m) => .misspelled (weigh m)
  | .problem (.meaningless d) => .meaningless d
where
  /-- Once the end has been seen, nothing further on counts. -/
  weigh (m : Misspelling) : Misspelling := if p.scanner.sawEnd then m else p.settle isPart m

/-- What is wrong where nothing fits, and the last token that was seen at first is `last`. -/
def misfit (p : Progress) (isPart : Bool) (last : Option Token) : Misspelling :=
  match last.map Token.kind with
  | some .indent => reported isPart .unexpectedIndent
  | some .dedent => reported isPart .unexpectedDedent
  | _ => p.settle isPart (reported isPart .plain)

end Progress

/-- Reads what a scanner is about to read, by rule `r`. -/
def readBy (reader : Reader) (r : Rule) (scanner : Scanner) : Except Problem Term :=
  let isPart := r = .templatePart
  let step := reader.read maxNesting (.rule r)
  match step.run { scanner := scanner } with
  | .ok (some [t]) _ => .ok t
  | .error h p => .error (p.problem isPart h)
  | .ok _ p =>
    match step.run { scanner := p.scanner, tokens := p.tokens, givesHints := true } with
    | .error h p => .error (p.problem isPart h)
    | .ok _ after => .error (.misspelled (after.misfit isPart p.tokens.back?))

/-- Reads what a scanner is about to read, by rule `r`; templates are nested less than a number of
times. -/
def readNested : Nat → Rule → Scanner → Except Problem Term
  | 0, _, _ => .error (.meaningless .tooDeep)
  | n + 1, r, scanner =>
    let readPart : PartReader := fun line e =>
      readNested n .templatePart (.ofText (['('] ++ e ++ [')', '\n']) (line - 1))
    readBy { join := joinTexts readPart, most := scanner.most } r scanner

/-- The lines of a text all end alike. -/
def plainLineEnds : List Char → List Char
  | '\r' :: '\n' :: r => '\n' :: plainLineEnds r
  | '\r' :: r => '\n' :: plainLineEnds r
  | c :: r => c :: plainLineEnds r
  | [] => []

/-- Reads the expression that `s` spells. -/
def readTerm (s : List Char) : Except Problem Term :=
  let s := plainLineEnds (s.dropWhile fun c => c = ' ' || c = '\t')
  if s.contains '\x00' then .error (.meaningless .zeroCharacter)
  else readNested (s.length + 1) .whole (.ofText s 0)

/-- Why `s` is no literal, if so. -/
def problem? (s : List Char) : Option Problem :=
  match readTerm s with
  | .error p => some p
  | .ok t =>
    if t.isHigher maxLayers then some (.meaningless .tooHigh) else t.value.defect?.map .meaningless

end Promptline.Markup.Literal
