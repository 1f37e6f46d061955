import Promptline.Markup.Literal.QuotedText
import Promptline.Text.Identifier

/-! The tokens of a literal, each read from where it starts: names, numbers, texts and signs. -/

namespace Promptline.Markup.Literal

open Promptline.Text

/-- What a token is. -/
inductive TokenKind where
  | name (word : String)
  /-- A sign, or a word that is no name. -/
  | fixed (s : String)
  | number (n : Numeral)
  | text (t : QuotedText)
  /-- The end of a line outside brackets. -/
  | lineEnd
  /-- A line starts further to the right than the one before. -/
  | indent
  /-- A line starts further to the left than the one before. -/
  | dedent
  | finish
deriving DecidableEq, Repr

/-- A token, with its line and the number of brackets that are open after it. -/
structure Token where
  kind : TokenKind
  line : Nat
  depth : Nat
deriving DecidableEq, Repr

/-- The words that are no names. -/
def keywords : List String :=
  ["False", "None", "True", "and", "as", "assert", "async", "await", "break", "class", "continue",
   "def", "del", "elif", "else", "except", "finally", "for", "from", "global", "if", "import", "in",
   "is", "lambda", "nonlocal", "not", "or", "pass", "raise", "return", "try", "while", "with",
   "yield"]

/-- The signs of more than one character, the longest first. -/
def longSigns : List (List Char) :=
  ["...", "**=", "//=", "<<=", ">>=", "!=", "%=", "&=", "**", "*=", "+=", "-=", "->", "//", "/=",
   ":=", "<<", "<=", "<>", "==", ">=", ">>", "@=", "^=", "|="].map String.toList

/-- What is read where a token starts: the token, the lines that start inside it, what follows it,
and whether the end of everything had to be seen to tell where it ends. -/
structure TokenReading where
  kind : TokenKind
  lines : Nat := 0
  rest : List Char
  seesEnd : Bool
deriving Repr

/-- The first character of a word that cannot stand there. -/
def wrongCharacter? : List Char → Option Char
  | [] => none
  | c :: r => if startsIdentifier c then r.find? (!continuesIdentifier ·) else some c

/-- A name or another word. -/
def readBareWord (word rest : List Char) : Except TokenFault TokenReading :=
  match wrongCharacter? word with
  | some c => .error (.badCharacter c)
  | none =>
    let word := String.ofList word
    .ok {
      kind := if keywords.contains word then .fixed word else .name word
      rest := rest
      seesEnd := rest.isEmpty }

/-- Reads a text in quotes after its prefix. -/
def readText (line : Nat) (before : List Char) (quote : Char) (s : List Char) :
    Except TokenFault TokenReading :=
  let isTripled := [quote, quote].isPrefixOf s
  let (inside, stop) := readQuoted quote isTripled (if isTripled then s.drop 2 else s)
  match stop with
  | .missing _ => .error (.unterminated isTripled (line + linesInside inside stop))
  | .closed rest => .ok {
      kind := .text (.ofPrefix before inside)
      lines := linesInside inside stop
      rest := rest
      seesEnd := inside.isEmpty && !isTripled && rest.isEmpty }

/-- Reads a name, or the text that a prefix starts. -/
def readWord (line : Nat) (s : List Char) : Except TokenFault TokenReading :=
  let (word, rest) := split continuesName s
  let before := word.map Char.toLower
  match rest with
  | quote :: r =>
    if (quote = '\'' || quote = '"') && textPrefixes.contains (String.ofList before) then
      readText line before quote r
    else readBareWord word rest
  | [] => readBareWord word rest

/-- Reads a sign. -/
def readSign (s : List Char) : TokenReading :=
  let size := ((longSigns.find? (·.isPrefixOf s)).map List.length).getD 1
  let rest := s.drop size
  { kind := .fixed (String.ofList (s.take size))
    rest := rest
    seesEnd := (rest.isEmpty && size < 3) || s = ['.', '.'] }

/-- Reads the token at the start of a text, which stands on `line`. -/
def readToken (line : Nat) (s : List Char) : Except TokenFault TokenReading :=
  match s with
  | [] => .ok { kind := .finish, rest := [], seesEnd := true }
  | c :: r =>
    if c.isDigit || (c = '.' && (r.take 1).any Char.isDigit) then do
      let (n, rest) ← readNumber s
      return {
        kind := .number n
        rest := rest
        seesEnd := rest.isEmpty || wordsAfterNumbers.contains rest }
    else if continuesName c || c = '\'' || c = '"' then readWord line s
    else if isPrintable c then .ok (readSign s)
    else .error (.badCharacter c)

end Promptline.Markup.Literal
