import Promptline.Markup.Literal.Phrase

/-! The grammar of literals.  It covers all expressions, so that a misspelling can be told from an
expression that is no literal. -/

namespace Promptline.Markup.Literal

open Variant Item Phrase Rule

namespace Hint

/-- The names of statements that have become functions. -/
def formerStatements : List String := ["print", "exec"]

/-- The name of a former statement that item `i` has given. -/
def formerStatement? (g : Glimpse) (i : Nat) : Option String :=
  (g.name? i).filter formerStatements.contains

/-- A comma is missing between two expressions in brackets, unless the first names a former
statement. -/
def ofExpressions (g : Glimpse) : Option Hint :=
  if (formerStatement? g 0).isSome || g.depth = 0 then none else some missingComma

/-- The clauses of a comprehension follow several arguments. -/
def ofManyArguments (g : Glimpse) : Option Hint :=
  if ((g.arguments 0).filter Term.isPositional).length ≤ 1 then none else some bareGenerator

/-- Arguments follow arguments with names. -/
def ofLateArguments (g : Glimpse) : Option Hint :=
  some (if (g.arguments 0).any Term.unpacksKeywords then positionalAfterUnpacking
    else positionalAfterKeyword)

end Hint

/-- A round bracket and what it closes. -/
def bracketed (items : List Item) : List Item := "(" :: items.concat ")"

/-- Curly brackets around items. -/
def braced (items : List Item) : List Item := "\x7b" :: items.concat "\x7d"

/-- A comma or a closing curly bracket comes next. -/
def endOfEntry : Item := next (oneOf [["\x7d"], [","]])

/-- A sign that gives a value to a name does not come next. -/
def noAssignment : Item := notNext (oneOf [["="], [":="]])

/-- An expression that may be given a name. -/
def argumentValue : Phrase := oneOf [[naming], [expression, notNext ":="]]

/-- An argument without a name. -/
def positionalArgument : Phrase := oneOf [[starredArgument], [argumentValue, notNext "="]]

/-- Another parameter that comes before a slash. -/
def beforeSlash : Phrase := oneOf [[plainBeforeSlash], [defaultedBeforeSlash]]

/-- What follows a star among parameters. -/
def afterStar : Phrase := oneOf [[","], [plainParameter]]

/-- The rest of items with commas before them. -/
def more (r : Rule) : Phrase := sequence [",", r]

/-- The words that are values. -/
def constantWords : List Variant := ["True", "False", "None"].map fun w => build (.word w) [w]

/-- The comparison with an operand after `sign`. -/
def comparedBy (isMembership : Bool) (sign : List Item) : Variant :=
  build (.compared isMembership) [sequence (sign.concat bitwiseOr)]

/-- An operation that binds to the left: its sign stands between what the rule reads and an operand.
-/
def infixed (f : Form) (r : Rule) (sign : String) (operand : Rule) : Variant :=
  build f [r, sign, operand]

/-- A clause of a comprehension. -/
def plainClause : List Item :=
  ["for", targets, "in", .cut, disjunction, many (sequence ["if", disjunction])]

/-- The variants of a rule. -/
def Rule.variants : Rule → List Variant
  | .whole => [pass [expressions, many Wanted.lineEnd, Wanted.finish]]
  | .templatePart => [pass [starredExpressions]]
  | .expressions => [
      build .tuple [expression, some (more expression), maybe ","],
      build .tuple [expression, ","],
      pass [expression]]
  | .expression => [
      hints expressionHint,
      hints statementHint,
      build .conditional [disjunction, "if", disjunction, "else", expression],
      pass [disjunction],
      pass [lambda]]
  | .yielded => [
      build .yielded ["yield", "from", expression],
      build .yielded ["yield", maybe starredExpressions]]
  | .starredExpressions => [
      build .tuple [starredExpression, some (more starredExpression), maybe ","],
      build .tuple [starredExpression, ","],
      pass [starredExpression]]
  | .starredExpression => [build .starred ["*", bitwiseOr], pass [expression]]
  | .elements => [pass [separated element, maybe ","]]
  | .element => [build .starred ["*", bitwiseOr], pass [namedExpression]]
  | .naming => [build .named [Wanted.name, ":=", .cut, expression]]
  | .namedExpression => [pass [naming], hints namedHint, pass [expression, notNext ":="]]
  | .disjunction => [
      build .boolean [conjunction, some (sequence ["or", conjunction])],
      pass [conjunction]]
  | .conjunction => [
      build .boolean [inversion, some (sequence ["and", inversion])],
      pass [inversion]]
  | .inversion => [build .negation ["not", inversion], pass [comparison]]
  | .comparison => [build .comparison [bitwiseOr, some compared], pass [bitwiseOr]]
  | .compared => [
      comparedBy false ["=="],
      comparedBy false [sequence ["!="]],
      comparedBy false ["<="],
      comparedBy false ["<"],
      comparedBy false [">="],
      comparedBy false [">"],
      comparedBy false ["not", "in"],
      comparedBy true ["in"],
      comparedBy false ["is", "not"],
      comparedBy false ["is"]]
  | .bitwiseOr => [infixed .operation bitwiseOr "|" bitwiseXor, pass [bitwiseXor]]
  | .bitwiseXor => [infixed .operation bitwiseXor "^" bitwiseAnd, pass [bitwiseAnd]]
  | .bitwiseAnd => [infixed .operation bitwiseAnd "&" shift, pass [shift]]
  | .shift => [infixed .operation shift "<<" sum, infixed .operation shift ">>" sum, pass [sum]]
  | .sum => [infixed .sum sum "+" product, infixed .sum sum "-" product, pass [product]]
  | .product =>
    (["*", "/", "//", "%", "@"].map fun sign => infixed .operation product sign factor).concat
      (pass [factor])
  | .factor => [
      build .signed ["+", factor],
      build .signed ["-", factor],
      build .complement ["~", factor],
      pass [power]]
  | .power => [build .operation [awaited, "**", factor], pass [awaited]]
  | .awaited => [build .awaited ["await", primary], pass [primary]]
  | .primary => [
      build .member [primary, ".", Wanted.name],
      build .call [primary, generator],
      build .call [primary, "(", maybe arguments, ")"],
      pass [atom]]
  | .atom => [pass [Wanted.name]] ++ constantWords ++ [
      pass [next Wanted.text, texts],
      pass [Wanted.number],
      pass [next "(", oneOf [[tuple], [group], [generator]]],
      pass [
        next "\x7b",
        oneOf [[dictionary], [set], [dictionaryComprehension], [setComprehension]]],
      build (.word "ellipsis") ["..."]]
  | .texts => [⟨[some Wanted.text], .joined, false⟩]
  | .group => [pass (bracketed [oneOf [[yielded], [namedExpression]]]), hints groupHint]
  | .tuple => [build .tuple (bracketed [maybe (sequence [element, ",", maybe elements])])]
  | .generator => [build .generator (bracketed [argumentValue, clauses]), hints comprehensionHint]
  | .set => [build .set (braced [elements])]
  | .setComprehension => [
      build .setComprehension (braced [namedExpression, clauses]),
      hints comprehensionHint]
  | .dictionary => [build .dictionary (braced [maybe entries]), pass (braced [entriesHint])]
  | .entries => [pass [separated entry, maybe ","]]
  | .entry => [build .unpacked ["**", bitwiseOr], pass [pair]]
  | .pair => [build .entry [expression, ":", expression]]
  | .dictionaryComprehension => [
      build .dictionaryComprehension (braced [pair, clauses]),
      hints dictionaryComprehensionHint]
  | .clauses => [pass [some clause]]
  | .clause => [build .clause ("async" :: plainClause), build .clause plainClause, hints clauseHint]
  | .lambda => [build .lambda ["lambda", maybe parameters, ":", expression]]
  | .parameters => [hints parametersHint, build .parameters [parameterList]]
  | .parameterList => [
      pass [plainBeforeSlash, many plainParameter, many defaultedParameter, maybe starParameters],
      pass [defaultedBeforeSlash, many defaultedParameter, maybe starParameters],
      pass [some plainParameter, many defaultedParameter, maybe starParameters],
      pass [some defaultedParameter, maybe starParameters],
      pass [starParameters]]
  | .plainBeforeSlash => [
      pass [some plainParameter, "/", ","],
      pass [some plainParameter, "/", next ":"]]
  | .defaultedBeforeSlash => [
      pass [many plainParameter, some defaultedParameter, "/", ","],
      pass [many plainParameter, some defaultedParameter, "/", next ":"]]
  | .starParameters => [
      hints starParametersHint,
      pass ["*", plainParameter, many anyParameter, maybe doubleStarParameter],
      pass ["*", ",", some anyParameter, maybe doubleStarParameter],
      pass [doubleStarParameter]]
  | .doubleStarParameter => [hints doubleStarParameterHint, pass ["**", plainParameter]]
  | .plainParameter => [pass [parameter, ","], pass [parameter, next ":"]]
  | .defaultedParameter => [pass [parameter, default, ","], pass [parameter, default, next ":"]]
  | .anyParameter => [
      pass [parameter, maybe default, ","],
      pass [parameter, maybe default, next ":"]]
  | .parameter => [build .parameter [Wanted.name]]
  | .default => [pass ["=", expression], hints defaultHint]
  | .arguments => [pass [argumentList, maybe ",", next ")"], hints argumentsHint]
  | .argumentList => [
      pass [separated positionalArgument, maybe (more namedArguments)],
      pass [namedArguments]]
  | .namedArguments => [
      pass [separated namedOrStarred, ",", separated namedOrDoubleStarred],
      pass [separated namedOrStarred],
      pass [separated namedOrDoubleStarred]]
  | .starredArgument => [build .starred ["*", expression]]
  | .namedOrStarred => [
      hints namedArgumentHint,
      build (.keyword false) [Wanted.name, "=", expression],
      pass [starredArgument]]
  | .namedOrDoubleStarred => [
      hints namedArgumentHint,
      build (.keyword false) [Wanted.name, "=", expression],
      build (.keyword true) ["**", expression]]
  | .targets => [
      pass [target, notNext ","],
      build .tuple [target, many (more target), maybe ","]]
  | .targetList => [pass [target, some (more target), maybe ","], pass [target, ","]]
  | .target => [build .starred ["*", sequence [notNext "*", target]], pass [targetWithoutStar]]
  | .targetWithoutStar => [
      build .member [targetPrimary, ".", Wanted.name, notNext targetTail],
      pass [targetAtom]]
  | .targetAtom => [
      pass [Wanted.name],
      pass (bracketed [targetWithoutStar]),
      build .tuple (bracketed [maybe targetList])]
  | .targetPrimary => [
      build .member [targetPrimary, ".", Wanted.name, next targetTail],
      build .call [targetPrimary, generator, next targetTail],
      build .call [targetPrimary, "(", maybe arguments, ")", next targetTail],
      pass [atom, next targetTail]]
  | .targetTail => [pass ["("], pass ["."]]
  | .plainExpression => [
      build .conditional [disjunction, "if", disjunction, "else", expression],
      pass [disjunction],
      pass [lambda]]
  | .expressionHint => [
      consider
        [notNext (oneOf [[Wanted.name, Wanted.text], [Wanted.softWord]]), disjunction,
         plainExpression]
        Hint.ofExpressions,
      suggest [disjunction, "if", disjunction, notNext (oneOf [["else"], [":"]])] .missingElse]
  | .statementHint => [
      consider [Wanted.name, notNext "(", starredExpressions] fun g =>
        (Hint.formerStatement? g 0).map .missingParentheses]
  | .namedHint => [
      consider [expression, ":=", expression] fun g => .some (.namingOf (g.noun 0)),
      suggest [Wanted.name, "=", bitwiseOr, noAssignment] .equalsAfterName,
      consider
        [notNext (oneOf [[tuple], [generator], ["True"], ["None"], ["False"]]), bitwiseOr, "=",
         bitwiseOr, noAssignment]
        fun g => .some (.equalsAfter (g.noun 0))]
  | .groupHint => [
      suggest (bracketed [starredArgument]) .starred,
      suggest (bracketed ["**", expression]) .doubleStarred]
  | .comprehensionHint => [
      suggest [oneOf [["("], ["\x7b"]], starredArgument, clauses] .unpackedTarget,
      suggest [sequence ["\x7b"], element, ",", elements, clauses] .bareTarget,
      suggest [sequence ["\x7b"], element, ",", clauses] .bareTarget]
  | .dictionaryComprehensionHint => [
      suggest (braced ["**", bitwiseOr, clauses]) .unpackedDictionary]
  | .entriesHint => [
      pass [separated entry, ",", pairHint],
      suggest [expression, ":", "*", bitwiseOr] .starredValue,
      suggest [expression, ":", endOfEntry] .missingValue]
  | .pairHint => [
      suggest [expression, notNext ":"] .missingColon,
      suggest [expression, ":", "*", bitwiseOr] .starredValue,
      suggest [expression, ":", endOfEntry] .missingValue]
  | .clauseHint => [
      consider [maybe "async", "for", starredExpressions] fun g =>
        (g.unassignable? 2).map .assignmentTo]
  | .parametersHint => [
      suggest [many plainParameter, parametersHintHead, plainParameter] .defaultMissing,
      suggest [many plainParameter, "(", separated parameter, maybe ",", ")"] .bracketedParameters,
      suggest ["/", ","] .nothingBeforeSlash,
      suggest [beforeSlash, many anyParameter, "/"] .secondSlash,
      suggest [maybe beforeSlash, many anyParameter, "*", afterStar, many anyParameter, "/"]
        .slashAfterStar,
      suggest [some anyParameter, "/", "*"] .noCommaAfterSlash]
  | .parametersHintHead => [pass [defaultedBeforeSlash], pass [some defaultedParameter]]
  | .starParametersHint => [
      suggest ["*", oneOf [[":"], [",", oneOf [[":"], ["**"]]]]] .nothingAfterStar,
      suggest ["*", parameter, "="] .defaultAfterStar,
      suggest ["*", oneOf [[plainParameter], [","]], many anyParameter, "*",
        oneOf [[plainParameter], [","]]] .secondStar]
  | .doubleStarParameterHint => [
      suggest ["**", parameter, "="] .defaultAfterDoubleStar,
      suggest ["**", parameter, ",", parameter] .parameterAfterDoubleStar,
      suggest ["**", parameter, ",", oneOf [["*"], ["**"], ["/"]]] .parameterAfterDoubleStar]
  | .defaultHint => [suggest ["=", next (oneOf [[")"], [","]])] .missingDefault]
  | .argumentsHint => [
      suggest [argumentList, ",", "*"] .unpackedAfterUnpacking,
      suggest [expression, clauses, ",", maybe (oneOf [[argumentList], [expression, clauses]])]
        .bareGenerator,
      suggest [Wanted.name, "=", expression, clauses] .equalsAfterName,
      consider [argumentList, clauses] Hint.ofManyArguments,
      suggest [argumentList, ",", expression, clauses] .bareGenerator,
      consider [argumentList, ",", argumentList] Hint.ofLateArguments]
  | .namedArgumentHint => [
      consider [choice constantWords, "="] fun g => .some (.assignmentTo (g.noun 0)),
      suggest [Wanted.name, "=", expression, clauses] .equalsAfterName,
      suggest [notNext (sequence [Wanted.name, "="]), expression, "="] .equalsInArgument]

namespace Rule

/-- The rules that start with themselves in one variant. -/
def isLeftRecursive : Rule → Bool
  | bitwiseOr | bitwiseXor | bitwiseAnd | shift | sum | product | primary | targetPrimary => true
  | _ => false

/-- The rules whose findings are kept for the next time at the same place. -/
def isKept : Rule → Bool
  | expression | starredExpression | disjunction | conjunction | inversion | factor | awaited
  | texts | arguments | target | targetWithoutStar | namedHint => true
  | _ => false

/-- The rules inside which no hints are looked for. -/
def isSilent : Rule → Bool
  | plainExpression => true
  | _ => false

end Rule

end Promptline.Markup.Literal
