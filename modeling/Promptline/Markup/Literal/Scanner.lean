import Promptline.Markup.Literal.Token

/-! The tokens of a literal one after another.  What lies between tokens tells where lines end and
how far they are indented, as long as no bracket is open. -/

namespace Promptline.Markup.Literal

/-- Where a line starts: the columns of its first character, with wide and with narrow tabulators.
-/
structure Margin where
  wide : Nat := 0
  narrow : Nat := 0
deriving DecidableEq, Repr

namespace Margin

/-- The columns from one stop of a wide tabulator to the next. -/
def stop : Nat := 8

/-- The margin after a tabulator. -/
def tabbed (m : Margin) : Margin := ⟨(m.wide / stop + 1) * stop, m.narrow + 1⟩

/-- The margin up to a backslash in the column `backslash`, if that is not zero. -/
def upTo (m : Margin) (backslash : Nat) : Margin :=
  if backslash = 0 then m else ⟨backslash, backslash⟩

end Margin

/-- What comes between two tokens. -/
inductive Between where
  /-- The start of a line, with the column of the first backslash in it, if that is not zero. -/
  | margin (m : Margin) (backslash : Nat)
  /-- A line, which has nothing but blanks and comments so far if `isBlank` says so. -/
  | line (isBlank : Bool)
  /-- A comment on such a line. -/
  | comment (isBlank : Bool)
deriving DecidableEq, Repr

/-- Why nothing can be told about what comes next. -/
inductive Obscurity where
  | ended
  | afterBackslash
  | unevenMargin
  | mixedMargin
  | tooManyMargins
deriving DecidableEq, Repr

/-- What comes after a gap, on which line, and the text from there on. -/
inductive Gap where
  /-- A token, or the end of everything. -/
  | token (line : Nat) (rest : List Char)
  /-- The start of a line that has a token. -/
  | margin (m : Margin) (line : Nat) (rest : List Char)
  /-- The end of a line with a token. -/
  | lineEnd (line : Nat) (rest : List Char)
  | obscure (o : Obscurity)
deriving Repr

/-- The line of the character that is read next. -/
def nextLine (line : Nat) (startsLine : Bool) : Nat := if startsLine then line + 1 else line

/-- What comes after a gap.  `isOpen` says that a bracket is open, and `startsLine` that the next
character starts a line. -/
def gap (isOpen : Bool) : Between → Nat → Bool → List Char → Gap
  | .margin m backslash, line, _, [] =>
    if isOpen then .token line [] else .margin (m.upTo backslash) line []
  | _, line, _, [] => .token line []
  | .comment isBlank, line, startsLine, c :: r =>
    let line := nextLine line startsLine
    if c ≠ '\n' then gap isOpen (.comment isBlank) line false r
    else if isBlank || isOpen then gap isOpen (.margin {} 0) line true r
    else .lineEnd line r
  | b, line, startsLine, '\\' :: '\n' :: r =>
    if r.isEmpty then .obscure .ended
    else
      let b := match b with
        | .margin m backslash => .margin m (if backslash = 0 then m.wide else backslash)
        | b => b
      gap isOpen b (nextLine line startsLine) true r
  | _, _, _, '\\' :: _ => .obscure .afterBackslash
  | .margin m backslash, line, startsLine, c :: r =>
    let line := nextLine line startsLine
    if c = ' ' then gap isOpen (.margin ⟨m.wide + 1, m.narrow + 1⟩ backslash) line false r
    else if c = '\t' then gap isOpen (.margin m.tabbed backslash) line false r
    else if c = '\x0C' then gap isOpen (.margin {} backslash) line false r
    else if c = '#' then gap isOpen (.comment true) line false r
    else if c = '\n' then gap isOpen (.margin {} 0) line true r
    else if isOpen then .token line (c :: r)
    else .margin (m.upTo backslash) line (c :: r)
  | .line isBlank, line, startsLine, c :: r =>
    let line := nextLine line startsLine
    if c = ' ' || c = '\t' || c = '\x0C' then gap isOpen (.line isBlank) line false r
    else if c = '#' then gap isOpen (.comment isBlank) line false r
    else if c ≠ '\n' then .token line (c :: r)
    else if isBlank || isOpen then gap isOpen (.margin {} 0) line true r
    else .lineEnd line r

/-- A bracket that is open, and its line. -/
structure Bracket where
  sign : Char
  line : Nat
deriving DecidableEq, Repr

/-- What is known of a literal from what has been read of it. -/
structure Scanner where
  rest : List Char
  /-- The line of the last character read. -/
  line : Nat := 0
  /-- The next character starts a line. -/
  startsLine : Bool := true
  /-- The margin of a line comes next. -/
  isAtMargin : Bool := true
  /-- The open brackets, the innermost first. -/
  brackets : List Bracket := []
  /-- The margins of the lines around, the innermost first. -/
  margins : List Margin := [{}]
  /-- How many times the last line is indented further, or less, than has been said. -/
  indents : Nat := 0
  dedents : Nat := 0
  /-- The end of everything has been seen. -/
  sawEnd : Bool := false
deriving Repr

/-- Why there is no next token: the fault of one, or nothing is known of it. -/
inductive Refusal where
  | fault (f : TokenFault)
  | obscure (o : Obscurity)
deriving DecidableEq, Repr

/-- The most brackets that may be open. -/
def maxDepth : Nat := 200

/-- The most margins that lines may have. -/
def maxMargins : Nat := 100

/-- The bracket that closes `c`. -/
def closing? (c : Char) : Option Char :=
  if c = '(' then some ')' else if c = '[' then some ']' else if c = '{' then some '}' else none

namespace Scanner

/-- The scanner of a text that starts on the line after `line`. -/
def ofText (text : List Char) (line : Nat) : Scanner := { rest := text, line := line }

def depth (s : Scanner) : Nat := s.brackets.length

/-- Leaves the margins that lie further to the right than `m`. -/
def leaveMargins (m : Margin) : List Margin → Nat → List Margin × Nat
  | inner :: outer :: more, left =>
    if m.wide < inner.wide then leaveMargins m (outer :: more) (left + 1)
    else (inner :: outer :: more, left)
  | ms, left => (ms, left)

/-- Compares the margin of a line with those of the lines around. -/
def measure (s : Scanner) (m : Margin) : Except Obscurity Scanner :=
  let current := s.margins.headD {}
  if m.wide = current.wide then
    if m.narrow = current.narrow then .ok s else .error .mixedMargin
  else if current.wide < m.wide then
    if maxMargins ≤ s.margins.length then .error .tooManyMargins
    else if m.narrow ≤ current.narrow then .error .mixedMargin
    else .ok { s with margins := m :: s.margins, indents := s.indents + 1 }
  else
    let (margins, left) := leaveMargins m s.margins 0
    let outer := margins.headD {}
    if m.wide ≠ outer.wide then .error .unevenMargin
    else if m.narrow ≠ outer.narrow then .error .mixedMargin
    else .ok { s with margins := margins, dedents := s.dedents + left }

/-- A token of the line where the scanner is. -/
def token (s : Scanner) (kind : TokenKind) : Token := ⟨kind, s.line, s.depth⟩

/-- A change of the indentation that has not been said yet, as a token. -/
def pending? (s : Scanner) : Option (Token × Scanner) :=
  if 0 < s.indents then some (s.token .indent, { s with indents := s.indents - 1 })
  else if 0 < s.dedents then some (s.token .dedent, { s with dedents := s.dedents - 1 })
  else none

/-- Keeps track of the open brackets over a sign. -/
def track (s : Scanner) (sign : String) : Except TokenFault Scanner :=
  match sign.toList with
  | [c] =>
    if (closing? c).isSome then
      if maxDepth ≤ s.depth then .error .tooDeep
      else .ok { s with brackets := ⟨c, s.line⟩ :: s.brackets }
    else if c = ')' || c = ']' || c = '}' then
      match s.brackets with
      | [] => .error (.unmatched c)
      | b :: bs =>
        if closing? b.sign = some c then .ok { s with brackets := bs }
        else .error (.mismatched c b.sign (if b.line = s.line then none else some b.line))
    else .ok s
  | _ => .ok s

/-- Reads the token that starts here. -/
def readHere (s : Scanner) : Except Refusal (Token × Scanner) :=
  if s.rest.isEmpty && !s.brackets.isEmpty then .error (.obscure .ended)
  else
    match readToken s.line s.rest with
    | .error f => .error (.fault f)
    | .ok r =>
      let after : Scanner := { s with rest := r.rest, sawEnd := s.sawEnd || r.seesEnd }
      let tracked := match r.kind with
        | .fixed sign => after.track sign
        | _ => .ok after
      match tracked with
      | .error f => .error (.fault f)
      | .ok after => .ok (⟨r.kind, s.line, after.depth⟩, { after with line := s.line + r.lines })

/-- Goes on to where a gap leads. -/
def follow (s : Scanner) : Gap → Except Refusal (Token × Scanner)
  | .obscure o => .error (.obscure o)
  | .lineEnd line rest =>
    let s := { s with rest := rest, line := line, startsLine := true, isAtMargin := true }
    .ok (s.token .lineEnd, s)
  | .token line rest | .margin _ line rest =>
    readHere { s with rest := rest, line := line, startsLine := false, isAtMargin := false }

/-- The next token. -/
def next (s : Scanner) : Except Refusal (Token × Scanner) :=
  match s.pending? with
  | some found => .ok found
  | none =>
    let isOpen := !s.brackets.isEmpty
    if !s.isAtMargin then s.follow (gap isOpen (.line false) s.line s.startsLine s.rest)
    else
      match gap isOpen (.margin {} 0) s.line s.startsLine s.rest with
      | .margin m line rest =>
        let s := { s with rest := rest, line := line, startsLine := false, isAtMargin := false }
        match s.measure m with
        | .error o => .error (.obscure o)
        | .ok s =>
          match s.pending? with
          | some found => .ok found
          | none => s.follow (.token line rest)
      | g => s.follow g

end Scanner

end Promptline.Markup.Literal
