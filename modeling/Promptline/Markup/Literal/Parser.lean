import Promptline.Markup.Literal.Grammar
import Promptline.Markup.Literal.Template
import Std.Data.HashMap

/-! Reading by the grammar.  Of the variants of a rule the first that fits counts, and what a rule
has found at a token is the same every time it is asked for.  A rule that starts with itself finds
more each time, as long as what it has found before is enough to go on from. -/

namespace Promptline.Markup.Literal

open Promptline.Text

/-- The expressions that a phrase gives, if it fits. -/
abbrev Found := Option (List Term)

/-- How far reading has got. -/
structure Progress where
  scanner : Scanner
  /-- The tokens that have been seen. -/
  tokens : Array Token := #[]
  /-- The number of tokens that have been read. -/
  mark : Nat := 0
  /-- Hints at what was meant are looked for. -/
  givesHints : Bool := false
  /-- What rules have found at tokens, and up to where. -/
  remembered : Std.HashMap (Nat × Rule) (Found × Nat) := {}

/-- A step of reading. -/
abbrev Parse := EStateM Halt Progress

/-- What reading depends on. -/
structure Reader where
  /-- Puts texts that stand side by side together. -/
  join : List (QuotedText × Nat) → Except Halt Term
  /-- No phrase is repeated more often. -/
  most : Nat

namespace Parse

/-- The number of tokens that have been read. -/
def mark : Parse Nat := return (← get).mark

/-- Goes to the token after `mark` others. -/
def goTo (mark : Nat) : Parse Unit := modify ({ · with mark := mark })

/-- The next token. -/
def token : Parse Token := do
  let found ← modifyGet fun p =>
    match p.tokens[p.mark]? with
    | some t => (.ok t, p)
    | none =>
      match p.scanner.next with
      | .ok (t, scanner) => (.ok t, { p with scanner := scanner, tokens := p.tokens.push t })
      | .error r => (.error (Halt.refused r), p)
  liftExcept found
where
  liftExcept : Except Halt Token → Parse Token
    | .ok t => pure t
    | .error h => throw h

/-- Reads a token that gives `terms`. -/
def accept (terms : List Term) : Parse Found := do
  modify fun p => { p with mark := p.mark + 1 }
  return some terms

/-- Reads a token, if it is the wanted one. -/
def expect (w : Wanted) : Parse Found := do
  let t ← token
  match w, t.kind with
  | .fixed s, .fixed sign => if s = sign then accept [] else return none
  | .name, .name word => accept [.name (plainIdentifier word)]
  | .softWord, .name word => if startsSoftWord word then accept [] else return none
  | .number, .number n =>
    match n.excess? with
    | some digits => throw (.complaint (.tooManyDigits digits))
    | none => accept [.number n]
  | .text, .text text => accept [.quoted text t.line]
  | .lineEnd, .lineEnd => accept []
  | .finish, .finish => accept []
  | _, _ => return none

/-- What rule `r` has found here before, which is then read. -/
def lookUp (r : Rule) : Parse (Option Found) := do
  let p ← get
  match p.remembered[(p.mark, r)]? with
  | none => return none
  | some (found, mark) => do
    goTo mark
    return some found

/-- Remembers that rule `r` at `start` has found something, up to here. -/
def remember (start : Nat) (r : Rule) (found : Found) : Parse Unit :=
  modify fun p => { p with remembered := p.remembered.insert (start, r) (found, p.mark) }

/-- Reads without looking for hints. -/
def silently (step : Parse Found) : Parse Found := do
  let before := (← get).givesHints
  modify ({ · with givesHints := false })
  let found ← step
  modify ({ · with givesHints := before })
  return found

end Parse

/-- How the items of a variant fit. -/
inductive Fit where
  /-- Each gives expressions. -/
  | fits (parts : List (List Term))
  /-- One does not; `isCut` says that no other variant can fit. -/
  | fails (isCut : Bool)

namespace Reader

open Parse

/-- What comes of a variant that fits. -/
def conclude (reader : Reader) (parts : List (List Term)) : Outcome → Parse Found
  | .parts => return some parts.flatten
  | .form f => return some [.form f parts.flatten]
  | .joined =>
    let texts := parts.flatten.filterMap fun
      | .quoted t line => some (t, line)
      | _ => none
    match reader.join texts with
    | .ok t => return some [t]
    | .error h => throw h
  | .hint f => do
    let p ← get
    match f ⟨parts, (p.tokens[p.mark - 1]?.map Token.depth).getD 0⟩ with
    | some h => throw (.complaint (.hint h))
    | none => return none

/-- Reads a token or a phrase. -/
def piece (phrase : Phrase → Parse Found) : Piece → Parse Found
  | .token w => expect w
  | .phrase p => phrase p

/-- Reads the items of a variant, after others that have given `parts`, the last one first. -/
def items (phrase : Phrase → Parse Found) :
    List Item → List (List Term) → Bool → Parse Fit
  | [], parts, _ => return .fits parts.reverse
  | .piece p :: more, parts, isCut => do
    match ← piece phrase p with
    | some terms => items phrase more (terms :: parts) isCut
    | none => return .fails isCut
  | .optional p :: more, parts, isCut => do
    let terms := (← piece phrase p).getD []
    items phrase more (terms :: parts) isCut
  | .ahead isWanted p :: more, parts, isCut => do
    let here ← mark
    let found ← piece phrase p
    goTo here
    if found.isSome = isWanted then items phrase more parts isCut else return .fails isCut
  | .cut :: more, parts, _ => items phrase more parts true

/-- Reads the first variant that fits. -/
def choose (reader : Reader) (phrase : Phrase → Parse Found) (start : Nat) :
    List Variant → Parse Found
  | [] => return none
  | a :: more => do
    if a.isHint && !(← get).givesHints then choose reader phrase start more
    else
      match ← items phrase a.items [] false with
      | .fits parts => reader.conclude parts a.outcome
      | .fails isCut =>
        goTo start
        if isCut then return none else choose reader phrase start more

/-- Reads items as often as they fit, up to a number of times, after `terms`, the last one first. -/
def repeatItems (phrase : Phrase → Parse Found) (is : List Item) :
    Nat → List (List Term) → Parse (List (List Term))
  | 0, terms => return terms
  | n + 1, terms => do
    let start ← mark
    match ← items phrase is [] false with
    | .fits parts => repeatItems phrase is n (parts.flatten :: terms)
    | .fails _ =>
      goTo start
      return terms

/-- Lets rule `r`, which starts with itself, find more each time from `start` on.  It has found
`best` up to the token after `reached` others. -/
def grow (phrase : Phrase → Parse Found) (r : Rule) (start : Nat) :
    Nat → Found → Nat → Parse Found
  | 0, best, _ => return best
  | n + 1, best, reached => do
    remember start r best
    goTo start
    let found ← phrase (.choice r.variants)
    let stop ← mark
    if found.isSome && reached < stop then grow phrase r start n found stop
    else
      goTo reached
      return best

/-- Reads by a rule. -/
def rule (reader : Reader) (phrase : Phrase → Parse Found) (r : Rule) : Parse Found := do
  let start ← mark
  let step :=
    if r.isLeftRecursive then grow phrase r start reader.most none start
    else reader.choose phrase start r.variants
  if r.isLeftRecursive || r.isKept then
    match ← lookUp r with
    | some found => return found
    | none =>
      let found ← step
      if r.isKept then remember start r found
      return found
  else if r.isSilent then silently step
  else step

/-- Reads a phrase, given how those in it are read. -/
def run (reader : Reader) (phrase : Phrase → Parse Found) : Phrase → Parse Found
  | .rule r => reader.rule phrase r
  | .choice as => do
    reader.choose phrase (← mark) as
  | .repeated isNeeded is => do
    let terms ← repeatItems phrase is reader.most []
    return if isNeeded && terms.isEmpty then none else some terms.reverse.flatten
  | .separated p => do
    match ← piece phrase p with
    | none => return none
    | some first =>
      let others ← phrase (.repeated false [",", .piece p])
      return others.map (first ++ ·)

/-- Reads a phrase in which phrases are nested less than a number of times. -/
def read (reader : Reader) : Nat → Phrase → Parse Found
  | 0, _ => throw (.problem (.meaningless .tooDeep))
  | n + 1, p => reader.run (reader.read n) p

end Reader

end Promptline.Markup.Literal
