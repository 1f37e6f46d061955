import Promptline.Number.Reading
import Promptline.Text.Quoted

/-! The ways in which a literal is misspelled. -/

namespace Promptline.Markup.Literal

open Promptline.Number Promptline.Text

/-- Why no more tokens can be told apart. -/
inductive TokenFault where
  | unterminated (isTripled : Bool) (line : Nat)
  | badNumber (kind : String)
  | badDigit (digit : Char) (kind : String)
  | leadingZeros
  | badCharacter (c : Char)
  | unmatched (bracket : Char)
  /-- A bracket does not fit the open one, which has a line if that is another one. -/
  | mismatched (bracket opening : Char) (line : Option Nat)
  | tooDeep
deriving DecidableEq, Repr

/-- The code point of `c` in capital hexadecimal digits, at least four. -/
def codePoint (c : Char) : String :=
  let digits := (Nat.toDigits 16 c.toNat).map Char.toUpper
  String.ofList (List.replicate (4 - digits.length) '0' ++ digits)

def TokenFault.message : TokenFault → String
  | unterminated false line => s!"unterminated string literal (detected at line {line})"
  | unterminated true line =>
    s!"unterminated triple-quoted string literal (detected at line {line})"
  | badNumber kind => s!"invalid {kind} literal"
  | badDigit digit kind => s!"invalid digit '{digit}' in {kind} literal"
  | leadingZeros =>
    "leading zeros in decimal integer literals are not permitted; " ++
      "use an 0o prefix for octal integers"
  | badCharacter c =>
    if isPrintable c then s!"invalid character '{c}' (U+{codePoint c})"
    else s!"invalid non-printable character U+{codePoint c}"
  | unmatched bracket => s!"unmatched '{bracket}'"
  | mismatched bracket opening line =>
    s!"closing parenthesis '{bracket}' does not match opening parenthesis '{opening}'" ++
      match line with
      | none => ""
      | some line => s!" on line {line}"
  | tooDeep => "too many nested parentheses"

/-- What is wrong with an escape in a text. -/
inductive EscapeFault where
  /-- It has too few digits; `form` is how it should look. -/
  | truncated (form : String)
  | noSuchCharacter
  | malformedName
  | unknownName
deriving DecidableEq, Repr

def EscapeFault.message : EscapeFault → String
  | truncated form => s!"truncated {form} escape"
  | noSuchCharacter => "illegal Unicode character"
  | malformedName => "malformed \\N character escape"
  | unknownName => "unknown Unicode character name"

/-- What is wrong with a template. -/
inductive TemplateFault where
  | singleBrace
  | backslash
  | comment
  | unterminated
  | tooManyBrackets
  | unmatched (bracket : Char)
  | mismatched (bracket opening : Char)
  | tooDeep
  | emptyBefore (sign : Char)
  | empty
  | badConversion
  | missingBrace
deriving DecidableEq, Repr

def TemplateFault.message : TemplateFault → String
  | singleBrace => "f-string: single '\x7d' is not allowed"
  | backslash => "f-string expression part cannot include a backslash"
  | comment => "f-string expression part cannot include '#'"
  | unterminated => "f-string: unterminated string"
  | tooManyBrackets => "f-string: too many nested parenthesis"
  | unmatched bracket => s!"f-string: unmatched '{bracket}'"
  | mismatched bracket opening =>
    s!"f-string: closing parenthesis '{bracket}' does not match opening parenthesis '{opening}'"
  | tooDeep => "f-string: expressions nested too deeply"
  | emptyBefore sign => s!"f-string: expression required before '{sign}'"
  | empty => "f-string: empty expression not allowed"
  | badConversion =>
    "f-string: invalid conversion character: expected 's', 'r', or 'a'"
  | missingBrace => "f-string: expecting '\x7d'"

/-- What might have been meant where nothing fits. -/
inductive Hint where
  | missingComma
  | missingParentheses (name : String)
  | missingElse
  | missingColon
  | missingValue
  | missingDefault
  | starred
  | doubleStarred
  | starredValue
  /-- What a comprehension collects is unpacked. -/
  | unpackedTarget
  /-- What a comprehension collects is an unpacked dictionary. -/
  | unpackedDictionary
  /-- What a comprehension collects has commas outside brackets. -/
  | bareTarget
  /-- A comprehension stands beside other arguments. -/
  | bareGenerator
  | equalsAfterName
  | equalsAfter (noun : String)
  | equalsInArgument
  | namingOf (noun : String)
  | assignmentTo (noun : String)
  | positionalAfterKeyword
  | positionalAfterUnpacking
  | unpackedAfterUnpacking
  | defaultMissing
  | bracketedParameters
  | nothingBeforeSlash
  | secondSlash
  | slashAfterStar
  | noCommaAfterSlash
  | nothingAfterStar
  | defaultAfterStar
  | secondStar
  | defaultAfterDoubleStar
  | parameterAfterDoubleStar
deriving DecidableEq, Repr

def Hint.message : Hint → String
  | missingComma => "invalid syntax. Perhaps you forgot a comma?"
  | missingParentheses name =>
    s!"Missing parentheses in call to '{name}'. Did you mean {name}(...)?"
  | missingElse => "expected 'else' after 'if' expression"
  | missingColon => "':' expected after dictionary key"
  | missingValue => "expression expected after dictionary key and ':'"
  | missingDefault => "expected default value expression"
  | starred => "cannot use starred expression here"
  | doubleStarred => "cannot use double starred expression here"
  | starredValue => "cannot use a starred expression in a dictionary value"
  | unpackedTarget => "iterable unpacking cannot be used in comprehension"
  | unpackedDictionary => "dict unpacking cannot be used in dict comprehension"
  | bareTarget => "did you forget parentheses around the comprehension target?"
  | bareGenerator => "Generator expression must be parenthesized"
  | equalsAfterName => "invalid syntax. Maybe you meant '==' or ':=' instead of '='?"
  | equalsAfter noun => s!"cannot assign to {noun} here. Maybe you meant '==' instead of '='?"
  | equalsInArgument => "expression cannot contain assignment, perhaps you meant \"==\"?"
  | namingOf noun => s!"cannot use assignment expressions with {noun}"
  | assignmentTo noun => s!"cannot assign to {noun}"
  | positionalAfterKeyword => "positional argument follows keyword argument"
  | positionalAfterUnpacking => "positional argument follows keyword argument unpacking"
  | unpackedAfterUnpacking => "iterable argument unpacking follows keyword argument unpacking"
  | defaultMissing => "non-default argument follows default argument"
  | bracketedParameters => "Lambda expression parameters cannot be parenthesized"
  | nothingBeforeSlash => "at least one argument must precede /"
  | secondSlash => "/ may appear only once"
  | slashAfterStar => "/ must be ahead of *"
  | noCommaAfterSlash => "expected comma between / and *"
  | nothingAfterStar => "named arguments must follow bare *"
  | defaultAfterStar => "var-positional argument cannot have default value"
  | secondStar => "* argument may appear only once"
  | defaultAfterDoubleStar => "var-keyword argument cannot have default value"
  | parameterAfterDoubleStar => "arguments cannot follow var-keyword argument"

/-- What is wrong with the spelling of a literal. -/
inductive Misspelling where
  /-- A token stands where none of its kind can. -/
  | plain
  | token (f : TokenFault)
  | unclosed (bracket : Char)
  | afterBackslash
  | unexpectedEnd
  | unexpectedIndent
  | unexpectedDedent
  /-- A line starts further to the left than the one before, but not where an earlier one does. -/
  | unevenMargin
  /-- Which of two lines starts further to the right depends on the width of a tabulator. -/
  | mixedMargin
  | tooManyMargins
  /-- A decimal number has this many digits. -/
  | tooManyDigits (digits : Nat)
  | mixedTexts
  | bytesBeyondAscii
  /-- There is a fault in an escape of a text, between these two places. -/
  | escape (start stop : Nat) (f : EscapeFault)
  /-- An escape in bytes has too few digits. -/
  | byteEscape (start : Nat)
  | template (f : TemplateFault)
  | hint (h : Hint)
  /-- The literal is part of a template. -/
  | inTemplate (m : Misspelling)
deriving DecidableEq, Repr

def Misspelling.message : Misspelling → String
  | plain => "invalid syntax"
  | token f => f.message
  | unclosed bracket => s!"'{bracket}' was never closed"
  | afterBackslash => "unexpected character after line continuation character"
  | unexpectedEnd => "unexpected EOF while parsing"
  | unexpectedIndent => "unexpected indent"
  | unexpectedDedent => "unexpected unindent"
  | unevenMargin => "unindent does not match any outer indentation level"
  | mixedMargin => "inconsistent use of tabs and spaces in indentation"
  | tooManyMargins => "too many levels of indentation"
  | tooManyDigits digits =>
    s!"Exceeds the limit ({maxDigits} digits) for integer string conversion: value has " ++
      s!"{digits} digits; use sys.set_int_max_str_digits() to increase the limit - " ++
      "Consider hexadecimal for huge integer literals to avoid decimal conversion limits."
  | mixedTexts => "cannot mix bytes and nonbytes literals"
  | bytesBeyondAscii => "bytes can only contain ASCII literal characters"
  | escape start stop f =>
    "(unicode error) 'unicodeescape' codec can't decode bytes in position " ++
      s!"{start}-{stop}: {f.message}"
  | byteEscape start => s!"(value error) invalid \\x escape at position {start}"
  | template f => f.message
  | hint h => h.message
  | inTemplate m => "f-string: " ++ m.message

end Promptline.Markup.Literal
