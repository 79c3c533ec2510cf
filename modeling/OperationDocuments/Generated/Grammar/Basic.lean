import OperationDocuments.Generated.Lexer

/-! # Phrases and parameters

A grammar as a table of phrases, and the nodes that reading them finds. -/
namespace OperationDocuments.Generated

/-! ## Parts of a module

What a phrase of a module stands for is told by a tree, as far as faults are judged by it: what
kind of expression stands where a target is expected, and which of its parts is none. -/

inductive NodeKind where
  | name
  | constant
  | literal
  | ellipsis
  | formatted
  | attribute
  | subscript
  | starred
  | list
  | tuple
  | set
  | dict
  | call
  | lambda
  | generator
  | listComprehension
  | setComprehension
  | dictComprehension
  | named
  | conditional
  | yielded
  | awaited
  | operation
  | comparison
  | membership
  | keywordArgument
  | keywordUnpacking
  | mark
  | place
  deriving Repr, DecidableEq

/-- A node begins with the token of this text, on this line. As many nodes as `depth` stand within
each other, itself included. -/
inductive Node where
  | mk (kind : NodeKind) (text : String) (line depth : Nat) (parts : List Node)
  deriving Repr

inductive TargetUse where
  | assigned
  | iterated
  | deleted
  deriving Repr, DecidableEq

namespace Node

def kind : Node → NodeKind | mk kind _ _ _ _ => kind

def text : Node → String | mk _ text _ _ _ => text

def line : Node → Nat | mk _ _ line _ _ => line

def depth : Node → Nat | mk _ _ _ depth _ => depth

def parts : Node → List Node | mk _ _ _ _ parts => parts

def depthOf (nodes : List Node) : Nat := nodes.foldl (fun most n => max most n.depth) 0

def description (n : Node) : String :=
  match n.kind with
  | .constant => n.text
  | .generator => "generator expression"
  | .listComprehension => "list comprehension"
  | .setComprehension => "set comprehension"
  | .dictComprehension => "dict comprehension"
  | .call => "function call"
  | .dict => "dict literal"
  | .set => "set display"
  | .formatted => "f-string expression"
  | .named => "named expression"
  | .conditional => "conditional expression"
  | .yielded => "yield expression"
  | .awaited => "await expression"
  | .operation => "expression"
  | .comparison | .membership => "comparison"
  | .name => "name"
  | .literal => "literal"
  | .ellipsis => "ellipsis"
  | .attribute => "attribute"
  | .subscript => "subscript"
  | .starred => "starred"
  | .list => "list"
  | .tuple => "tuple"
  | .lambda => "lambda"
  | .keywordArgument | .keywordUnpacking => "keyword"
  | .mark | .place => ""

mutual

/-- The first part that is no target. Lists and tuples are targets if their items are; what is
iterated over may stand in one expression with its target. -/
def badTarget? (use : TargetUse) (n : Node) : Option Node :=
  match n with
  | mk .list _ _ _ items | mk .tuple _ _ _ items => badTargets? use items
  | mk .starred _ _ _ items => if use = .deleted then some n else badTargets? use items
  | mk .membership _ _ _ (left :: _) => if use = .iterated then badTarget? use left else some n
  | mk .comparison _ _ _ _ => if use = .iterated then none else some n
  | mk .name _ _ _ _ | mk .subscript _ _ _ _ | mk .attribute _ _ _ _ => none
  | _ => some n

def badTargets? (use : TargetUse) (ns : List Node) : Option Node :=
  match ns with
  | [] => none
  | n :: rest => badTarget? use n <|> badTargets? use rest

end

end Node

/-! ## Phrases

A phrase says what a row of tokens may look like. Alternatives are tried in their order, and the
first one that fits is taken, whatever comes after it. Some alternatives hold nothing but faults:
they are tried only when it is known that the text is no module, and tell what is wrong with it. -/

/-- The phrases that are called by name, so that they may contain each other. -/
inductive Rule where
  | simpleStatement
  | block
  | elifStatement
  | annotationTarget
  | expression
  | starExpression
  | namedExpressionFaults
  | disjunction
  | inversion
  | bitwiseOr
  | factor
  | awaitPrimary
  | primary
  | arguments
  | starTarget
  | starAtomTarget
  | targetPrimary
  | singleTarget
  | deleteTarget
  | pattern
  | closedPattern
  deriving Repr, DecidableEq, Hashable

/-- What a judgement goes by: the nodes in question, and the number of brackets that are open
behind the phrase. -/
structure Finding where
  nodes : List Node
  depth : Nat

/-- What is wrong, and where. Without a line it is the last token that was looked at. -/
structure Complaint where
  message : String
  line : Option Nat

abbrev Judgement := Finding → Option Complaint

inductive Phrase where
  | nothing
  | literal (text : String)
  | token (kind : TokenKind)
  | strings
  | rule (r : Rule)
  | both (first second : Phrase)
  | either (first second : Phrase)
  | many (p : Phrase)
  | ahead (p : Phrase)
  | notAhead (p : Phrase)
  /-- Once this is reached, no other alternative is tried. -/
  | committed (p : Phrase)
  | bounded (p : Phrase)
  /-- Whatever else stands there is a fault at once. -/
  | required (text : String)
  | node (kind : NodeKind) (p : Phrase)
  | gathered (kind : NodeKind) (p : Phrase)
  /-- A phrase that others may follow, each taking all before it as its first part. -/
  | grown (p next : Phrase)
  | checked (p : Phrase) (judge : Judgement)
  /-- A phrase that is a fault, if the judgement says so; it never fits. -/
  | fault (p : Phrase) (judge : Judgement)
  | faults (p : Phrase)
  /-- A phrase in which no fault is searched for. -/
  | faultless (p : Phrase)

instance : Coe String Phrase := ⟨.literal⟩

instance : Coe Rule Phrase := ⟨.rule⟩

namespace Phrase

def row : List Phrase → Phrase
  | [] => nothing
  | [p] => p
  | p :: rest => both p (row rest)

def oneOf : List Phrase → Phrase
  | [] => notAhead nothing
  | [p] => p
  | p :: rest => either p (oneOf rest)

def optional (p : Phrase) : Phrase := either p nothing

def repeated (p : Phrase) : Phrase := both p (many p)

def separated (separator p : Phrase) : Phrase := both p (many (both separator p))

def marked (p : Phrase) : Phrase := node .mark p

def place (p : Phrase) : Phrase := node .place p

def newline : Phrase := token .newline

def indent : Phrase := token .indent

def dedent : Phrase := token .dedent

def name : Phrase := node .name (token .name)

end Phrase

namespace Finding

def ofNodes (nodes : List Node) (depth : Nat) : Finding :=
  match nodes.find? fun n => n.kind = .mark ∨ n.kind = .place with
  | some n => ⟨if n.kind = .mark then n.parts else [n], depth⟩
  | none => ⟨nodes, depth⟩

def say (message : String) : Judgement := fun _ => some ⟨message, none⟩

def sayOf (message : Node → Option String) : Judgement := fun found => do
  let n ← found.nodes.head?
  return ⟨← message n, n.line⟩

def sayAt (message : String) : Judgement := sayOf fun _ => some message

def describe (before after : String) : Judgement :=
  sayOf fun n => some (before ++ n.description ++ after)

def noBlock (statement : String) : Judgement := fun found => do
  let n ← found.nodes.head?
  return ⟨s!"expected an indented block after {statement} on line {n.line}", none⟩

def badTarget (use : TargetUse) : Judgement := fun found => do
  let n ← (← found.nodes.head?).badTarget? use
  let verb := if use = .deleted then "delete" else "assign to"
  return ⟨s!"cannot {verb} {n.description}", n.line⟩

end Finding

end OperationDocuments.Generated

namespace OperationDocuments.Generated.Grammar

/-! ## Parameters

The parameters of a function stand between brackets and may be annotated; those of a lambda
expression end with a colon. The rest is the same for both. -/

open Phrase Finding

structure ParameterForm where
  closing : String
  parameter : Phrase
  starred : List Phrase
  bracketed : Phrase
  bracketedFault : String

def default : Phrase :=
  oneOf [
    row ["=", Rule.expression],
    faults (fault (row [place "=", ahead (oneOf [")", ","])])
      (sayAt "expected default value expression"))]

namespace ParameterForm

variable (f : ParameterForm)

def ended (p : Phrase) : Phrase := oneOf [row [p, ","], row [p, ahead f.closing]]

def plain : Phrase := f.ended f.parameter

def withDefault : Phrase := f.ended (row [f.parameter, default])

def maybeDefault : Phrase := f.ended (row [f.parameter, optional default])

def slashed (p : Phrase) : Phrase := oneOf [row [p, "/", ","], row [p, "/", ahead f.closing]]

def plainSlashed : Phrase := f.slashed (repeated f.plain)

def defaultSlashed : Phrase := f.slashed (row [many f.plain, repeated f.withDefault])

def anySlashed : Phrase := oneOf [f.plainSlashed, f.defaultSlashed]

def keywordFaults : Phrase :=
  oneOf [
    fault (row ["**", f.parameter, place "="])
      (sayAt "var-keyword argument cannot have default value"),
    fault (row ["**", f.parameter, ",", place f.parameter])
      (sayAt "arguments cannot follow var-keyword argument"),
    fault (row ["**", f.parameter, ",", place (oneOf ["*", "**", "/"])])
      (sayAt "arguments cannot follow var-keyword argument")]

def keywords : Phrase := oneOf [faults f.keywordFaults, row ["**", f.plain]]

def starFaults : Phrase :=
  oneOf [
    fault (row [place "*", oneOf [f.closing, row [",", oneOf [f.closing, "**"]]]])
      (if f.closing = ":" then say "named arguments must follow bare *"
        else sayAt "named arguments must follow bare *"),
    fault (row ["*", f.parameter, place "="])
      (sayAt "var-positional argument cannot have default value"),
    fault (row ["*", oneOf [f.plain, ","], many f.maybeDefault, place "*", oneOf [f.plain, ","]])
      (sayAt "* argument may appear only once")]

def rest : Phrase :=
  let behind := [many f.maybeDefault, optional f.keywords]
  oneOf ([faults f.starFaults, row ("*" :: f.plain :: behind)]
    ++ f.starred.map (fun p => row ("*" :: f.ended p :: behind))
    ++ [row ["*", ",", repeated f.maybeDefault, optional f.keywords], f.keywords])

def valid : Phrase :=
  oneOf [
    row [f.plainSlashed, many f.plain, many f.withDefault, optional f.rest],
    row [f.defaultSlashed, many f.withDefault, optional f.rest],
    row [repeated f.plain, many f.withDefault, optional f.rest],
    row [repeated f.withDefault, optional f.rest],
    f.rest]

def invalid : Phrase :=
  oneOf [
    fault (row [many f.plain, oneOf [f.defaultSlashed, repeated f.withDefault], place f.plain])
      (sayAt "non-default argument follows default argument"),
    fault (row [many f.plain, place "(", f.bracketed, optional ",", ")"])
      (sayAt f.bracketedFault),
    fault (row [place "/", ","]) (sayAt "at least one argument must precede /"),
    fault (row [f.anySlashed, many f.maybeDefault, place "/"]) (sayAt "/ may appear only once"),
    fault (row [optional f.anySlashed, many f.maybeDefault, "*", oneOf [",", f.plain],
        many f.maybeDefault, place "/"])
      (sayAt "/ must be ahead of *"),
    fault (row [repeated f.maybeDefault, "/", place "*"])
      (sayAt "expected comma between / and *")]

def all : Phrase := oneOf [faults f.invalid, f.valid]

end ParameterForm

private def annotated : Phrase := row [name, optional (row [":", Rule.expression])]

def functionParameters : Phrase :=
  ParameterForm.all {
    closing := ")"
    parameter := annotated
    starred := [row [name, ":", Rule.starExpression]]
    bracketed := repeated (oneOf [row [annotated, ","], row [annotated, ahead ")"]])
    bracketedFault := "Function parameters cannot be parenthesized" }

def lambdaParameters : Phrase :=
  ParameterForm.all {
    closing := ":"
    parameter := name
    starred := []
    bracketed := separated "," name
    bracketedFault := "Lambda expression parameters cannot be parenthesized" }

end OperationDocuments.Generated.Grammar
