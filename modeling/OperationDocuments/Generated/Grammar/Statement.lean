import Std.Data.HashMap
import OperationDocuments.Generated.Grammar.Expression

/-! # Statements

The phrases of statements, and the reader that follows the whole grammar. -/
namespace OperationDocuments.Generated.Grammar

/-! ## Phrases of statements

Statements on a line, statements with blocks, and the whole module. -/

open Phrase Finding

/-! ### Statements on a line -/

private def annotatedValue : Phrase := oneOf [yieldExpression, starExpressions]

private def augmented : Phrase :=
  oneOf ["+=", "-=", "*=", "@=", "/=", "%=", "&=", "|=", "^=", "<<=", ">>=", "**=", "//="]

def annotationTarget : Phrase :=
  oneOf [listDisplay, tupleDisplay, row ["(", Rule.annotationTarget, ")"]]

private def assignmentFaults : Phrase :=
  let targets := many (row [starTargets, "="])
  oneOf [
    fault (row [marked Rule.annotationTarget, ":", Rule.expression])
      (describe "only single target (not " ") can be annotated"),
    fault (row [marked starNamedExpression, ",", many starNamedExpressions, ":", Rule.expression])
      (sayAt "only single target (not tuple) can be annotated"),
    fault (row [marked Rule.expression, ":", Rule.expression])
      (sayAt "illegal target for annotation"),
    fault (row [targets, marked starExpressions, "="]) (badTarget .assigned),
    fault (row [targets, marked yieldExpression, "="])
      (sayAt "assignment to yield expression not possible"),
    fault (row [marked starExpressions, augmented, annotatedValue])
      (describe "'" "' is an illegal expression for augmented assignment")]

private def assignmentStatement : Phrase :=
  let value := optional (row ["=", annotatedValue])
  bounded (oneOf [
    row [name, ":", Rule.expression, value],
    row [oneOf [row ["(", Rule.singleTarget, ")"], partTarget], ":", Rule.expression, value],
    row [repeated (row [starTargets, "="]), annotatedValue, notAhead "="],
    row [Rule.singleTarget, augmented, committed annotatedValue],
    faults assignmentFaults])

private def asName : Phrase := optional (row ["as", name])

private def dottedName : Phrase := row [name, many (row [".", name])]

private def importedNames : Phrase := separated "," (row [name, asName])

private def importStatement : Phrase :=
  let dots := oneOf [".", "..."]
  let what := oneOf [
    row ["(", importedNames, optional ",", ")"],
    row [importedNames, notAhead ","],
    "*",
    faults (fault (row [importedNames, ",", newline])
      (say "trailing comma not allowed without surrounding parentheses"))]
  oneOf [
    row ["import", separated "," (row [dottedName, asName])],
    row ["from", many dots, dottedName, "import", what],
    row ["from", repeated dots, "import", what]]

def simpleStatement : Phrase :=
  oneOf [
    assignmentStatement,
    starExpressions,
    row ["return", optional starExpressions],
    importStatement,
    row ["raise", Rule.expression, optional (row ["from", Rule.expression])],
    "raise",
    "pass",
    row ["del", deleteTargets, ahead (oneOf [";", newline])],
    faults (fault (row ["del", marked starExpressions]) (badTarget .deleted)),
    row [ahead "yield", yieldExpression],
    row ["assert", Rule.expression, optional (row [",", Rule.expression])],
    "break",
    "continue",
    row ["global", separated "," name],
    row ["nonlocal", separated "," name]]

def simpleStatements : Phrase :=
  oneOf [
    row [Rule.simpleStatement, notAhead ";", newline],
    row [separated ";" Rule.simpleStatement, optional ";", newline]]

/-! ### Statements with blocks -/

/-- The end of a line behind which a block is missing. -/
private def noIndent : Phrase := row [":", newline, notAhead indent]

private def colonMissing : Judgement := say "expected ':'"

private def elseBlock : Phrase :=
  oneOf [
    faults (fault (row [place "else", noIndent]) (noBlock "'else' statement")),
    row ["else", required ":", Rule.block]]

private def conditionFaults (word : String) : Phrase :=
  oneOf [
    fault (row [word, namedExpression, newline]) colonMissing,
    fault (row [place word, namedExpression, noIndent]) (noBlock s!"'{word}' statement")]

private def branches (word : String) : Phrase :=
  oneOf [
    faults (conditionFaults word),
    row [word, namedExpression, ":", Rule.block, Rule.elifStatement],
    row [word, namedExpression, ":", Rule.block, optional elseBlock]]

def elifStatement : Phrase := branches "elif"

private def whileStatement : Phrase :=
  oneOf [
    faults (conditionFaults "while"),
    row ["while", namedExpression, ":", Rule.block, optional elseBlock]]

private def forStatement : Phrase :=
  let start (word : Phrase) := row [optional "async", word, starTargets, "in", starExpressions]
  let valid (before : Phrase) := row [before, "for", starTargets, "in",
    committed (row [starExpressions, ":", Rule.block, optional elseBlock])]
  bounded (oneOf [
    faults (oneOf [
      fault (row [start "for", newline]) colonMissing,
      fault (row [start (place "for"), noIndent]) (noBlock "'for' statement")]),
    valid nothing,
    valid "async",
    faults forTargetFaults])

private def withStatement : Phrase :=
  let asTarget := optional (row ["as", Rule.starTarget])
  let bare := separated "," (row [Rule.expression, asTarget])
  let bracketed := row ["(", separated "," (row [expressions, asTarget]), optional ",", ")"]
  let start (word items : Phrase) := row [optional "async", word, items]
  let item := oneOf [
    row [Rule.expression, "as", Rule.starTarget, ahead (oneOf [",", ")", ":"])],
    faults (fault (row [Rule.expression, "as", marked Rule.expression,
      ahead (oneOf [",", ")", ":"])]) (badTarget .assigned)),
    Rule.expression]
  let valid (before : Phrase) := oneOf [
    row [before, "with", "(", separated "," item, optional ",", ")", ":", Rule.block],
    row [before, "with", separated "," item, ":", Rule.block]]
  oneOf [
    faults (oneOf [
      fault (row [start (place "with") bare, noIndent]) (noBlock "'with' statement"),
      fault (row [start (place "with") bracketed, noIndent]) (noBlock "'with' statement")]),
    valid nothing,
    valid "async",
    faults (oneOf [
      fault (row [start "with" bare, newline]) colonMissing,
      fault (row [start "with" bracketed, newline]) colonMissing])]

private def exceptFaults : Phrase :=
  oneOf [
    fault (row ["except", optional "*", marked Rule.expression, ",", expressions, asName, ":"])
      (sayAt "multiple exception types must be parenthesized"),
    fault (row ["except", optional "*", Rule.expression, asName, newline]) colonMissing,
    fault (row ["except", newline]) colonMissing,
    fault (row ["except", "*", oneOf [newline, ":"]]) (say "expected one or more exception types")]

private def exceptBlock : Phrase :=
  oneOf [
    faults (oneOf [
      fault (row [place "except", Rule.expression, asName, noIndent])
        (noBlock "'except' statement"),
      fault (row [place "except", noIndent]) (noBlock "'except' statement")]),
    row ["except", Rule.expression, asName, ":", Rule.block],
    row ["except", ":", Rule.block],
    faults exceptFaults]

private def exceptStarBlock : Phrase :=
  oneOf [
    faults (fault (row [place "except", "*", Rule.expression, asName, noIndent])
      (noBlock "'except*' statement")),
    row ["except", "*", Rule.expression, asName, ":", Rule.block],
    faults exceptFaults]

private def finallyBlock : Phrase :=
  oneOf [
    faults (fault (row [place "finally", noIndent]) (noBlock "'finally' statement")),
    row ["finally", required ":", Rule.block]]

private def tryStatement : Phrase :=
  let start := row ["try", required ":", Rule.block]
  let mixed := sayAt "cannot have both 'except' and 'except*' on the same 'try'"
  let behind := row [optional elseBlock, optional finallyBlock]
  oneOf [
    faults (oneOf [
      fault (row [place "try", noIndent]) (noBlock "'try' statement"),
      fault (row ["try", ":", Rule.block, notAhead (oneOf ["except", "finally"])])
        (say "expected 'except' or 'finally' block"),
      fault (row ["try", ":", many Rule.block, repeated exceptBlock, place "except", "*",
        Rule.expression, asName, ":"]) mixed,
      fault (row ["try", ":", many Rule.block, repeated exceptStarBlock, place "except",
        optional (row [Rule.expression, asName]), ":"]) mixed]),
    row [start, finallyBlock],
    row [start, repeated exceptBlock, behind],
    row [start, repeated exceptStarBlock, behind]]

private def matchStatement : Phrase :=
  let subject := oneOf [row [starNamedExpression, ",", optional starNamedExpressions],
    namedExpression]
  let guarded := row [patterns, optional (row ["if", namedExpression])]
  let caseBlock := oneOf [
    faults (oneOf [
      fault (row ["case", guarded, newline]) colonMissing,
      fault (row [place "case", guarded, noIndent]) (noBlock "'case' statement")]),
    row ["case", guarded, ":", Rule.block]]
  oneOf [
    row ["match", subject, ":", newline, indent, repeated caseBlock, dedent],
    faults (oneOf [
      fault (row ["match", subject, newline]) colonMissing,
      fault (row [place "match", subject, noIndent]) (noBlock "'match' statement")])]

private def decorators : Phrase := repeated (row ["@", namedExpression, newline])

private def functionDefinition : Phrase :=
  let result := optional (row ["->", Rule.expression])
  let valid (before : Phrase) := row [before, "def", name, required "(",
    optional functionParameters, ")", result, required ":", Rule.block]
  let definition := oneOf [
    faults (fault (row [optional "async", place "def", name, "(", optional functionParameters,
      ")", result, noIndent]) (noBlock "function definition")),
    valid nothing,
    valid "async"]
  oneOf [row [decorators, definition], definition]

private def classDefinition : Phrase :=
  let bases := optional (row ["(", optional Rule.arguments, ")"])
  let definition := oneOf [
    faults (oneOf [
      fault (row ["class", name, bases, newline]) colonMissing,
      fault (row [place "class", name, bases, noIndent]) (noBlock "class definition")]),
    row ["class", name, bases, ":", Rule.block]]
  oneOf [row [decorators, definition], definition]

private def compoundStatement : Phrase :=
  oneOf [
    row [ahead (oneOf ["def", "@", "async"]), functionDefinition],
    row [ahead "if", branches "if"],
    row [ahead (oneOf ["class", "@"]), classDefinition],
    row [ahead (oneOf ["with", "async"]), withStatement],
    row [ahead (oneOf ["for", "async"]), forStatement],
    row [ahead "try", tryStatement],
    row [ahead "while", whileStatement],
    matchStatement]

private def statement : Phrase := oneOf [compoundStatement, simpleStatements]

def block : Phrase :=
  oneOf [
    row [newline, indent, repeated statement, dedent],
    simpleStatements,
    faults (fault (row [newline, notAhead indent]) (say "expected an indented block"))]

def module : Phrase := row [many statement, token .endOfText]

end OperationDocuments.Generated.Grammar

namespace OperationDocuments.Generated

def Rule.phrase : Rule → Phrase
  | simpleStatement => Grammar.simpleStatement
  | block => Grammar.block
  | elifStatement => Grammar.elifStatement
  | annotationTarget => Grammar.annotationTarget
  | expression => Grammar.expression
  | starExpression => Grammar.starExpression
  | namedExpressionFaults => Grammar.namedExpressionFaults
  | disjunction => Grammar.disjunction
  | inversion => Grammar.inversion
  | bitwiseOr => Grammar.bitwiseOr
  | factor => Grammar.factor
  | awaitPrimary => Grammar.awaitPrimary
  | primary => Grammar.primary
  | arguments => Grammar.arguments
  | starTarget => Grammar.starTarget
  | starAtomTarget => Grammar.starAtomTarget
  | targetPrimary => Grammar.targetPrimary
  | singleTarget => Grammar.singleTarget
  | deleteTarget => Grammar.deleteTarget
  | pattern => Grammar.pattern
  | closedPattern => Grammar.closedPattern

/-! ## Reading phrases

Tokens are read from front to back by a phrase. What a rule came to at a place is kept, so that no
rule is read there a second time. The furthest token that was looked at is kept as well, since
many complaints are about it. -/

/-- What is read, and how. `label` stands in front of complaints; `strings` says what string
literals next to each other come to, or what is wrong with them, if the last token looked at stands
on some line. -/
structure Source where
  tokens : Tokens
  label : String
  strings : List Token → Nat → Except ModuleFault NodeKind

/-- Where a reader is, and how many rules it is in. The nodes are those of the phrase that is being
read, the last one first. A rule that fitted left its nodes and the place behind it. -/
structure Reading where
  position : Nat
  nodes : List Node
  seen : Nat
  level : Nat
  known : Std.HashMap (Rule × Nat) (Option (Nat × List Node))
  seeksFaults : Bool

inductive Verdict where
  | fits
  | differs
  /-- The phrase does not fit, and nothing else is to be tried in its place. -/
  | isOff
  | faulty (f : ModuleFault)
  | ended
  /-- Too many rules are called within each other. -/
  | exhausted
  deriving Repr, DecidableEq

namespace Source

variable (s : Source)

def lineSeen (seen : Nat) : Nat := ((s.tokens.tokens[seen - 1]?).map Token.line).getD 1

def complain (r : Reading) (c : Complaint) : Verdict :=
  .faulty ⟨s.label ++ c.message, c.line.getD (s.lineSeen r.seen)⟩

def nodeAt (kind : NodeKind) (position : Nat) (parts : List Node) : Node :=
  let depth := Node.depthOf parts + 1
  match s.tokens.tokens[position]? with
  | some t => .mk kind t.text t.line depth parts
  | none => .mk kind "" 1 depth parts

def finding (r : Reading) : Finding :=
  let depth := ((s.tokens.tokens[r.position - 1]?).map Token.depth).getD 0
  .ofNodes r.nodes.reverse depth

def take (r : Reading) (test : Token → Bool) (otherwise : Token → Verdict) : Verdict × Reading :=
  match s.tokens.tokens[r.position]? with
  | none => (.ended, r)
  | some t =>
    let seen := max r.seen (r.position + 1)
    if test t then (.fits, { r with position := r.position + 1, seen := seen })
    else (otherwise t, { r with seen := seen })

private def isLiteral (text : String) (t : Token) : Bool :=
  (t.kind = .keyword || t.kind = .name || t.kind = .operator) && t.text = text

private def literalsAt (position : Nat) : (left : Nat) → List Token
  | 0 => []
  | left + 1 =>
    match s.tokens.tokens[position]? with
    | some t => if t.kind = .string then t :: literalsAt (position + 1) left else []
    | none => []

def takeStrings (r : Reading) : Verdict × Reading :=
  let literals := s.literalsAt r.position (s.tokens.tokens.size - r.position)
  let behind := r.position + literals.length
  if s.tokens.tokens.size ≤ behind then (.ended, r)
  else
    let r := { r with seen := max r.seen (behind + 1) }
    if literals.isEmpty then (.differs, r)
    else match s.strings literals (s.lineSeen r.seen) with
      | .error f => (.faulty f, r)
      | .ok kind =>
        let n := s.nodeAt kind r.position []
        (.fits, { r with position := behind, nodes := n :: r.nodes })

private def again (step : Reading → Verdict × Reading) : (left : Nat) → Reading → Verdict × Reading
  | 0, r => (.fits, r)
  | left + 1, r =>
    let position := r.position
    let nodes := r.nodes
    match step r with
    | (.fits, r) => again step left r
    | (.differs, r) => (.fits, { r with position := position, nodes := nodes })
    | other => other

/-- Reads with no nodes at first, and does something with those that are found. -/
private def apart (step : Reading → Verdict × Reading) (r : Reading)
    (found : Reading → Verdict × List Node) : Verdict × Reading :=
  let before := r.nodes
  match step { r with nodes := [] } with
  | (.fits, r) =>
    let (verdict, nodes) := found r
    (verdict, { r with nodes := nodes ++ before })
  | other => other

def maxLevel : Nat := 5980

/-- Reads a phrase. Every step into a phrase takes from `left`. -/
def read : (left : Nat) → Phrase → Reading → Verdict × Reading
  | 0, _, r => (.differs, r)
  | left + 1, phrase, r =>
    match phrase with
    | .nothing => (.fits, r)
    | .literal text => s.take r (isLiteral text) fun _ => .differs
    | .required text => s.take r (isLiteral text) fun t =>
        .faulty ⟨s.label ++ s!"expected '{text}'", t.line⟩
    | .token kind => s.take r (·.kind = kind) fun _ => .differs
    | .strings => s.takeStrings r
    | .both p q =>
      match read left p r with
      | (.fits, r) => read left q r
      | other => other
    | .either p q =>
      let position := r.position
      let nodes := r.nodes
      match read left p r with
      | (.differs, r) => read left q { r with position := position, nodes := nodes }
      | other => other
    | .many p => again (read left p) (s.tokens.tokens.size + 1) r
    | .ahead p =>
      let position := r.position
      let nodes := r.nodes
      let (verdict, r) := read left p r
      (verdict, { r with position := position, nodes := nodes })
    | .notAhead p =>
      let position := r.position
      let nodes := r.nodes
      let (verdict, r) := read left p r
      let verdict := match verdict with
        | .fits => .differs
        | .differs => .fits
        | verdict => verdict
      (verdict, { r with position := position, nodes := nodes })
    | .committed p =>
      match read left p r with
      | (.differs, r) => (.isOff, r)
      | other => other
    | .bounded p =>
      match read left p r with
      | (.isOff, r) => (.differs, r)
      | other => other
    | .node kind p =>
      let position := r.position
      apart (read left p) r fun r => (.fits, [s.nodeAt kind position r.nodes.reverse])
    | .gathered kind p =>
      let position := r.position
      apart (read left p) r fun r => (.fits, match r.nodes with
        | [n] => [n]
        | nodes => [s.nodeAt kind position nodes.reverse])
    | .grown p next =>
      let position := r.position
      let step (r : Reading) := apart (read left next) r fun r => (.fits, r.nodes)
      let grow (r : Reading) : Verdict × Reading :=
        match step r with
        | (.fits, r) =>
          match r.nodes with
          | n :: before => (.fits, { r with
              nodes := [s.nodeAt n.kind position (before.reverse ++ n.parts)] })
          | [] => (.fits, r)
        | other => other
      apart (fun r => match read left p r with
        | (.fits, r) => again grow (s.tokens.tokens.size + 1) r
        | other => other) r fun r => (.fits, r.nodes)
    | .checked p judge =>
      apart (read left p) r fun r =>
        (((judge (s.finding r)).map (s.complain r)).getD .fits, r.nodes)
    | .fault p judge =>
      apart (read left p) r fun r =>
        (((judge (s.finding r)).map (s.complain r)).getD .isOff, [])
    | .faults p =>
      if r.seeksFaults then
        match read left p r with
        | (.faulty f, r) => (.faulty f, r)
        | (.ended, r) => (.ended, r)
        | (.exhausted, r) => (.exhausted, r)
        | (_, r) => (.differs, r)
      else (.differs, r)
    | .faultless p =>
      let seeks := r.seeksFaults
      let (verdict, r) := read left p { r with seeksFaults := false }
      (verdict, { r with seeksFaults := seeks })
    | .rule rule =>
      match r.known[(rule, r.position)]? with
      | some (some (position, nodes)) =>
        (.fits, { r with position := position, nodes := nodes ++ r.nodes })
      | some none => (.differs, r)
      | none =>
        let start := r.position
        let before := r.nodes
        let level := r.level
        if maxLevel ≤ level then (.exhausted, r)
        else match read left rule.phrase { r with nodes := [], level := level + 1 } with
        | (.fits, r) =>
          let known := r.known.insert (rule, start) (some (r.position, r.nodes))
          (.fits, { r with nodes := r.nodes ++ before, known := known, level := level })
        | (.faulty f, r) => (.faulty f, r)
        | (.ended, r) => (.ended, r)
        | (.exhausted, r) => (.exhausted, r)
        | (_, r) =>
          (.differs, { r with known := r.known.insert (rule, start) none, level := level })

end Source

end OperationDocuments.Generated
