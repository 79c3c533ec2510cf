import OperationDocuments.Generated.Grammar.Basic

/-! # Expressions and patterns

The phrases of expressions, with the checks on what they find, and of the patterns of a match. -/
namespace OperationDocuments.Generated.Grammar

/-! ## Expressions

Expressions from the loosest to the tightest, comprehensions, arguments of calls and targets. -/

open Phrase Finding

/-! ### Numbers -/

/-- The decimal digits that a whole number may have. -/
def maxDigits : Nat := 4300

private def tooLong : Judgement := sayOf fun n => do
  let count ← Number.decimalDigits? n.text.toList
  if count ≤ maxDigits ∨ n.text.toList.all (fun c => c = '0' ∨ c = '_') then none
  else return s!"Exceeds the limit ({maxDigits} digits) for integer string conversion: "
    ++ s!"value has {count} digits; use sys.set_int_max_str_digits() to increase the limit"
    ++ " - Consider hexadecimal for huge integer literals to avoid decimal conversion limits."

def number : Phrase := checked (node .literal (token .number)) tooLong

private def isImaginary (n : Node) : Bool := n.text.endsWith "j" || n.text.endsWith "J"

def realNumber : Phrase :=
  checked number (sayOf fun n =>
    if isImaginary n then some "real number required in complex literal" else none)

def imaginaryNumber : Phrase :=
  checked number (sayOf fun n =>
    if isImaginary n then none else some "imaginary number required in complex literal")

/-! ### Rows of expressions -/

def constant : Phrase :=
  oneOf [node .constant "True", node .constant "False", node .constant "None"]

def starExpressions : Phrase :=
  oneOf [
    node .tuple (row [Rule.starExpression, repeated (row [",", Rule.starExpression]), optional ","]),
    node .tuple (row [Rule.starExpression, ","]),
    Rule.starExpression]

def expressions : Phrase :=
  oneOf [
    node .tuple (row [Rule.expression, repeated (row [",", Rule.expression]), optional ","]),
    node .tuple (row [Rule.expression, ","]),
    Rule.expression]

def yieldExpression : Phrase :=
  node .yielded (oneOf [row ["yield", "from", Rule.expression],
    row ["yield", optional starExpressions]])

/-- An expression under a name. -/
def assignment : Phrase := bounded (node .named (row [name, ":=", committed Rule.expression]))

def namedExpression : Phrase :=
  oneOf [assignment, faults Rule.namedExpressionFaults, row [Rule.expression, notAhead ":="]]

def starNamedExpression : Phrase :=
  oneOf [node .starred (row ["*", Rule.bitwiseOr]), namedExpression]

def starNamedExpressions : Phrase := row [separated "," starNamedExpression, optional ","]

def starredExpression : Phrase :=
  oneOf [node .starred (row ["*", Rule.expression]),
    checked "*" (say "Invalid star expression")]

/-! ### Targets -/

/-- What shows that a target goes on. -/
def targetGoesOn : Phrase := oneOf ["(", "[", "."]

def starTargets : Phrase :=
  oneOf [row [Rule.starTarget, notAhead ","],
    row [Rule.starTarget, many (row [",", Rule.starTarget]), optional ","]]

def slice : Phrase :=
  oneOf [
    row [optional Rule.expression, ":", optional Rule.expression,
      optional (row [":", optional Rule.expression])],
    namedExpression]

def slices : Phrase :=
  oneOf [row [slice, notAhead ","],
    row [separated "," (oneOf [slice, starredExpression]), optional ","]]

/-- An attribute or an item of something, and nothing of that. -/
def partTarget : Phrase :=
  oneOf [row [Rule.targetPrimary, ".", name, notAhead targetGoesOn],
    row [Rule.targetPrimary, "[", slices, "]", notAhead targetGoesOn]]

def starTarget : Phrase :=
  oneOf [row ["*", notAhead "*", Rule.starTarget], Rule.starAtomTarget]

def starAtomTarget : Phrase :=
  oneOf [
    partTarget,
    name,
    row ["(", Rule.starAtomTarget, ")"],
    row ["(", optional (oneOf [
        row [Rule.starTarget, repeated (row [",", Rule.starTarget]), optional ","],
        row [Rule.starTarget, ","]]), ")"],
    row ["[", optional (row [separated "," Rule.starTarget, optional ","]), "]"]]

def singleTarget : Phrase := oneOf [partTarget, name, row ["(", Rule.singleTarget, ")"]]

def deleteTargets : Phrase := row [separated "," Rule.deleteTarget, optional ","]

def deleteTarget : Phrase :=
  oneOf [
    partTarget,
    name,
    row ["(", Rule.deleteTarget, ")"],
    row ["(", optional deleteTargets, ")"],
    row ["[", optional deleteTargets, "]"]]

/-! ### Comprehensions -/

def forTargetFaults : Phrase :=
  fault (row [optional "async", "for", marked starExpressions]) (badTarget .iterated)

private def forClause (start : List Phrase) : Phrase :=
  row (start ++ [starTargets, "in",
    committed (row [Rule.disjunction, many (row ["if", Rule.disjunction])])])

def forClauses : Phrase :=
  repeated (bounded (oneOf [forClause ["async", "for"], forClause ["for"],
    faults forTargetFaults]))

def comprehensionFaults : Phrase :=
  oneOf [
    fault (row [oneOf ["[", "(", "\x7b"], marked starredExpression, forClauses])
      (sayAt "iterable unpacking cannot be used in comprehension"),
    fault (row [oneOf ["[", "\x7b"], marked starNamedExpression, ",", starNamedExpressions,
        forClauses])
      (sayAt "did you forget parentheses around the comprehension target?"),
    fault (row [oneOf ["[", "\x7b"], marked starNamedExpression, ",", forClauses])
      (sayAt "did you forget parentheses around the comprehension target?")]

/-- An argument or an item without a name. -/
private def unnamed : Phrase := oneOf [assignment, row [Rule.expression, notAhead ":="]]

def generator : Phrase :=
  oneOf [node .generator (row ["(", unnamed, forClauses, ")"]), faults comprehensionFaults]

/-! ### Arguments -/

private def confusedAssignment : Judgement :=
  sayAt "invalid syntax. Maybe you meant '==' or ':=' instead of '='?"

def keywordFaults : Phrase :=
  oneOf [
    fault (row [marked constant, "="]) (describe "cannot assign to " ""),
    fault (row [marked name, "=", Rule.expression, forClauses]) confusedAssignment,
    fault (row [notAhead (row [name, "="]), marked Rule.expression, "="])
      (sayAt "expression cannot contain assignment, perhaps you meant \"==\"?")]

private def keywordArgument : Phrase :=
  node .keywordArgument (row [name, "=", Rule.expression])

private def keywordOrStarred : Phrase :=
  oneOf [faults keywordFaults, keywordArgument, starredExpression]

private def keywordOrUnpacking : Phrase :=
  oneOf [faults keywordFaults, keywordArgument,
    node .keywordUnpacking (row ["**", Rule.expression])]

def keywordArguments : Phrase :=
  oneOf [
    row [separated "," keywordOrStarred, ",", separated "," keywordOrUnpacking],
    separated "," keywordOrStarred,
    separated "," keywordOrUnpacking]

private def positionalArguments : Phrase :=
  separated "," (oneOf [starredExpression, row [unnamed, notAhead "="]])

private def someArguments : Phrase :=
  oneOf [row [positionalArguments, optional (row [",", keywordArguments])], keywordArguments]

private def isKeyword (n : Node) : Bool :=
  n.kind = .keywordArgument || n.kind = .keywordUnpacking

/-- A generator among several arguments needs its own brackets. -/
private def bareGenerator : Judgement := fun found =>
  let positional := found.nodes.filter (!isKeyword ·)
  if positional.length ≤ 1 then none
  else positional.getLast?.map fun n => ⟨"Generator expression must be parenthesized", n.line⟩

private def latePositional : Judgement := fun found =>
  let unpacking := if found.nodes.any (·.kind = .keywordUnpacking) then " unpacking" else ""
  some ⟨"positional argument follows keyword argument" ++ unpacking, none⟩

def argumentFaults : Phrase :=
  oneOf [
    fault (row [oneOf [row [positionalArguments, ",", keywordArguments], keywordArguments],
        place ",", separated "," (row [starredExpression, notAhead "="])])
      (sayAt "iterable argument unpacking follows keyword argument unpacking"),
    fault (row [marked Rule.expression, forClauses, ",",
        optional (oneOf [someArguments, row [Rule.expression, forClauses]])])
      (sayAt "Generator expression must be parenthesized"),
    fault (row [marked name, "=", Rule.expression, forClauses]) confusedAssignment,
    fault (row [marked someArguments, forClauses]) bareGenerator,
    fault (row [someArguments, ",", marked Rule.expression, forClauses])
      (sayAt "Generator expression must be parenthesized"),
    fault (row [marked someArguments, ",", someArguments]) latePositional]

def arguments : Phrase :=
  oneOf [row [someArguments, optional ",", ahead ")"], faults argumentFaults]

/-! ### Displays -/

def listDisplay : Phrase := node .list (row ["[", optional starNamedExpressions, "]"])

def tupleDisplay : Phrase :=
  node .tuple (row ["(",
    optional (row [starNamedExpression, ",", optional starNamedExpressions]), ")"])

private def groupFaults : Phrase :=
  oneOf [
    fault (row ["(", marked starredExpression, ")"]) (sayAt "cannot use starred expression here"),
    fault (row ["(", place "**", Rule.expression, ")"])
      (sayAt "cannot use double starred expression here")]

/-- An expression in brackets is that expression. -/
def group : Phrase :=
  oneOf [row ["(", oneOf [yieldExpression, namedExpression], ")"], faults groupFaults]

private def listComprehension : Phrase :=
  oneOf [node .listComprehension (row ["[", namedExpression, forClauses, "]"]),
    faults comprehensionFaults]

private def setDisplay : Phrase := node .set (row ["\x7b", starNamedExpressions, "\x7d"])

private def setComprehension : Phrase :=
  oneOf [node .setComprehension (row ["\x7b", namedExpression, forClauses, "\x7d"]),
    faults comprehensionFaults]

private def pair : Phrase := row [Rule.expression, ":", Rule.expression]

private def pairOrUnpacking : Phrase := oneOf [row ["**", Rule.bitwiseOr], pair]

private def valueFaults : Phrase :=
  oneOf [
    fault (row [Rule.expression, ":", place "*", Rule.bitwiseOr])
      (sayAt "cannot use a starred expression in a dictionary value"),
    fault (row [Rule.expression, place ":", ahead (oneOf ["\x7d", ","])])
      (sayAt "expression expected after dictionary key and ':'")]

/-- A dictionary, or what is all but one. Its faults show at once. -/
private def dictDisplay : Phrase :=
  oneOf [
    node .dict (row ["\x7b", optional (row [separated "," pairOrUnpacking, optional ","]), "\x7d"]),
    row ["\x7b", oneOf [
      row [separated "," pairOrUnpacking, ",", oneOf [
        fault (row [marked Rule.expression, notAhead ":"])
          (sayAt "':' expected after dictionary key"),
        valueFaults]],
      valueFaults], "\x7d"]]

private def dictComprehension : Phrase :=
  oneOf [node .dictComprehension (row ["\x7b", pair, forClauses, "\x7d"]),
    faults (fault (row ["\x7b", place "**", Rule.bitwiseOr, forClauses, "\x7d"])
      (sayAt "dict unpacking cannot be used in dict comprehension"))]

/-! ### From atoms to expressions -/

def atom : Phrase :=
  oneOf [
    name,
    constant,
    strings,
    number,
    row [ahead "(", oneOf [tupleDisplay, group, generator]],
    row [ahead "[", oneOf [listDisplay, listComprehension]],
    row [ahead "\x7b", oneOf [dictDisplay, setDisplay, dictComprehension, setComprehension]],
    node .ellipsis "..."]

private def thenAttribute : Phrase := node .attribute (row [".", name])

private def thenItem : Phrase := node .subscript (row ["[", slices, "]"])

private def thenGenerator : Phrase := node .call generator

private def thenCall : Phrase := node .call (row ["(", optional Rule.arguments, ")"])

def primary : Phrase := grown atom (oneOf [thenAttribute, thenGenerator, thenCall, thenItem])

/-- The part of a target up to its last attribute or item. -/
def targetPrimary : Phrase :=
  let goingOn (p : Phrase) : Phrase := row [p, ahead targetGoesOn]
  grown (goingOn atom)
    (oneOf [goingOn thenAttribute, goingOn thenItem, goingOn thenGenerator, goingOn thenCall])

def awaitPrimary : Phrase := oneOf [node .awaited (row ["await", Rule.primary]), Rule.primary]

def factor : Phrase :=
  oneOf [
    node .operation (row ["+", Rule.factor]),
    node .operation (row ["-", Rule.factor]),
    node .operation (row ["~", Rule.factor]),
    node .operation (row [Rule.awaitPrimary, "**", Rule.factor]),
    Rule.awaitPrimary]

/-- Operations from left to right, with operators that bind alike. -/
private def operations (operators : List Phrase) (operand : Phrase) : Phrase :=
  grown operand (node .operation (row [oneOf operators, operand]))

def bitwiseOr : Phrase :=
  let product := operations ["*", "/", "//", "%", "@"] Rule.factor
  let sum := operations ["+", "-"] product
  let shift := operations ["<<", ">>"] sum
  operations ["|"] (operations ["^"] (operations ["&"] shift))

private def compared (start : List Phrase) : Phrase := row (start ++ [(Rule.bitwiseOr : Phrase)])

private def comparisons : Phrase :=
  oneOf [compared ["=="], compared ["!="], compared ["<="], compared ["<"], compared [">="],
    compared [">"], compared ["not", "in"], compared ["in"], compared ["is", "not"],
    compared ["is"]]

private def comparison : Phrase :=
  oneOf [
    node .membership (row [Rule.bitwiseOr, compared ["in"], many comparisons]),
    node .comparison (row [Rule.bitwiseOr, repeated comparisons]),
    Rule.bitwiseOr]

def inversion : Phrase := oneOf [node .operation (row ["not", Rule.inversion]), comparison]

def disjunction : Phrase :=
  let conjunction := gathered .operation (separated "and" Rule.inversion)
  gathered .operation (separated "or" conjunction)

private def lambdaExpression : Phrase :=
  node .lambda (row ["lambda", optional lambdaParameters, ":", Rule.expression])

private def conditional : Phrase :=
  node .conditional (row [Rule.disjunction, "if", Rule.disjunction, "else", Rule.expression])

/-- Statements of old that are calls now. -/
private def isOldStatement (n : Node) : Bool :=
  n.kind = .name && (n.text = "print" || n.text = "exec")

private def forgottenComma : Judgement := fun found => do
  let n ← found.nodes.head?
  if isOldStatement n ∨ found.depth = 0 then none
  else return ⟨"invalid syntax. Perhaps you forgot a comma?", n.line⟩

private def softKeyword : Phrase := oneOf ["_", "case", "match"]

private def expressionFaults : Phrase :=
  oneOf [
    fault (row [notAhead (oneOf [row [name, token .string], softKeyword]),
        marked Rule.disjunction,
        faultless (oneOf [conditional, Rule.disjunction, lambdaExpression])])
      forgottenComma,
    fault (row [marked Rule.disjunction, "if", Rule.disjunction, notAhead (oneOf ["else", ":"])])
      (sayAt "expected 'else' after 'if' expression")]

private def oldStatementFault : Phrase :=
  fault (row [marked name, notAhead "(", starExpressions]) (sayOf fun n =>
    if isOldStatement n then
      some s!"Missing parentheses in call to '{n.text}'. Did you mean {n.text}(...)?"
    else none)

def expression : Phrase :=
  oneOf [faults expressionFaults, faults oldStatementFault, conditional, Rule.disjunction,
    lambdaExpression]

def starExpression : Phrase :=
  oneOf [node .starred (row ["*", Rule.bitwiseOr]), Rule.expression]

def namedExpressionFaults : Phrase :=
  oneOf [
    fault (row [marked Rule.expression, ":=", Rule.expression])
      (describe "cannot use assignment expressions with " ""),
    fault (row [marked name, "=", Rule.bitwiseOr, notAhead (oneOf ["=", ":="])])
      confusedAssignment,
    fault (row [notAhead (oneOf [listDisplay, tupleDisplay, generator, "True", "None", "False"]),
        marked Rule.bitwiseOr, "=", Rule.bitwiseOr, notAhead (oneOf ["=", ":="])])
      (describe "cannot assign to " " here. Maybe you meant '==' instead of '='?")]

/-! ## Patterns

What the cases of a match statement are told apart by. -/

private def captureTarget : Phrase := row [notAhead "_", name, notAhead (oneOf [".", "(", "="])]

private def nameOrAttribute : Phrase := row [name, many (row [".", name])]

private def attributeOf : Phrase := row [name, repeated (row [".", name])]

private def literalKey : Phrase :=
  let signed (p : Phrase) : Phrase := oneOf [p, row ["-", p]]
  oneOf [
    row [signed number, notAhead (oneOf ["+", "-"])],
    row [signed realNumber, oneOf ["+", "-"], imaginaryNumber],
    strings,
    constant]

private def starPattern : Phrase := oneOf [row ["*", captureTarget], row ["*", "_"]]

private def maybeStarPattern : Phrase := oneOf [starPattern, Rule.pattern]

private def maybeSequence : Phrase := row [separated "," maybeStarPattern, optional ","]

private def openSequence : Phrase := row [maybeStarPattern, ",", optional maybeSequence]

private def sequencePattern : Phrase :=
  oneOf [row ["[", optional maybeSequence, "]"], row ["(", optional openSequence, ")"]]

private def mappingPattern : Phrase :=
  let others : Phrase := row ["**", captureTarget]
  let items : Phrase := separated "," (row [oneOf [literalKey, attributeOf], ":", Rule.pattern])
  oneOf [
    row ["\x7b", "\x7d"],
    row ["\x7b", others, optional ",", "\x7d"],
    row ["\x7b", items, ",", others, optional ",", "\x7d"],
    row ["\x7b", items, optional ",", "\x7d"]]

private def classPattern : Phrase :=
  let positional : Phrase := separated "," Rule.pattern
  let keywords : Phrase := separated "," (row [name, "=", Rule.pattern])
  oneOf [
    row [nameOrAttribute, "(", ")"],
    row [nameOrAttribute, "(", positional, optional ",", ")"],
    row [nameOrAttribute, "(", keywords, optional ",", ")"],
    row [nameOrAttribute, "(", positional, ",", keywords, optional ",", ")"],
    faults (fault (row [nameOrAttribute, "(", optional (row [positional, ","]), keywords, ",",
        place positional])
      (sayAt "positional patterns follow keyword patterns"))]

def closedPattern : Phrase :=
  oneOf [
    literalKey,
    captureTarget,
    "_",
    row [attributeOf, notAhead (oneOf [".", "(", "="])],
    row ["(", Rule.pattern, ")"],
    sequencePattern,
    mappingPattern,
    classPattern]

private def orPattern : Phrase := separated "|" Rule.closedPattern

def pattern : Phrase :=
  oneOf [
    row [orPattern, "as", captureTarget],
    faults (oneOf [
      fault (row [orPattern, "as", place "_"]) (sayAt "cannot use '_' as a target"),
      fault (row [orPattern, "as", notAhead name, marked Rule.expression])
        (sayAt "invalid pattern target")]),
    orPattern]

/-- What follows the word of a case. -/
def patterns : Phrase := oneOf [openSequence, Rule.pattern]

end OperationDocuments.Generated.Grammar
