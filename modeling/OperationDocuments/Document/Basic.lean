import OperationDocuments.Document.Lexer

/-! # Documents

What a document consists of, and how it is written. -/
namespace OperationDocuments

/-! ## Definitions and selections

The shape of a GraphQL document: a named source and its definitions in order. Positions in the
source text are not kept. Where the grammar forbids an empty bracket, the empty list stands for
an absent one (a field without a selection set, a definition without arguments). -/

structure Quoted where
  text : String
  block : Bool
  deriving Repr, DecidableEq, Inhabited

/-- Numbers keep their spelling. -/
inductive Value where
  | variable (name : String)
  | int (spelling : String)
  | float (spelling : String)
  | text (quoted : Quoted)
  | boolean (value : Bool)
  | null
  | enum (name : String)
  | list (items : List Value)
  | object (fields : List (String × Value))
  deriving Repr, BEq, Inhabited

inductive TypeRef where
  | named (name : String)
  | list (item : TypeRef)
  | nonNull (inner : TypeRef)
  deriving Repr, DecidableEq, Inhabited

structure Argument where
  name : String
  value : Value
  deriving Repr, BEq, Inhabited

structure Directive where
  name : String
  arguments : List Argument
  deriving Repr, BEq, Inhabited

/-- A field may be answered under another key, its `label`. -/
inductive Selection where
  | field (label : Option String) (name : String) (arguments : List Argument)
      (directives : List Directive) (selections : List Selection)
  | spread (fragment : String) (directives : List Directive)
  | inline (condition : Option String) (directives : List Directive)
      (selections : List Selection)
  deriving Repr, BEq, Inhabited

inductive OperationKind where
  | query
  | mutation
  | subscription
  deriving Repr, DecidableEq, Inhabited

structure VariableDefinition where
  description : Option Quoted
  name : String
  type : TypeRef
  defaultValue : Option Value
  directives : List Directive
  deriving Repr, BEq, Inhabited

structure Operation where
  description : Option Quoted
  kind : OperationKind
  name : Option String
  variableDefinitions : List VariableDefinition
  directives : List Directive
  selections : List Selection
  deriving Repr, BEq, Inhabited

structure Fragment where
  description : Option Quoted
  name : String
  condition : String
  directives : List Directive
  selections : List Selection
  deriving Repr, BEq, Inhabited

structure InputDefinition where
  description : Option Quoted
  name : String
  type : TypeRef
  defaultValue : Option Value
  directives : List Directive
  deriving Repr, BEq, Inhabited

structure FieldDefinition where
  description : Option Quoted
  name : String
  arguments : List InputDefinition
  type : TypeRef
  directives : List Directive
  deriving Repr, BEq, Inhabited

structure EnumValue where
  description : Option Quoted
  name : String
  directives : List Directive
  deriving Repr, BEq, Inhabited

structure RootType where
  kind : OperationKind
  type : String
  deriving Repr, DecidableEq, Inhabited

/-- What a schema or a type consists of; a definition and an extension have the same bodies. -/
inductive TypeBody where
  | schema (directives : List Directive) (roots : List RootType)
  | scalar (name : String) (directives : List Directive)
  | object (name : String) (interfaces : List String) (directives : List Directive)
      (fields : List FieldDefinition)
  | interface (name : String) (interfaces : List String) (directives : List Directive)
      (fields : List FieldDefinition)
  | union (name : String) (directives : List Directive) (members : List String)
  | enum (name : String) (directives : List Directive) (values : List EnumValue)
  | input (name : String) (directives : List Directive) (fields : List InputDefinition)
  deriving Repr, BEq, Inhabited

structure DirectiveDefinition where
  description : Option Quoted
  name : String
  arguments : List InputDefinition
  repeatable : Bool
  locations : List String
  deriving Repr, BEq, Inhabited

inductive Definition where
  | operation (o : Operation)
  | fragment (f : Fragment)
  | typeSystem (description : Option Quoted) (body : TypeBody)
  | directive (d : DirectiveDefinition)
  | extension (body : TypeBody)
  deriving Repr, BEq, Inhabited

/-- A document remembers the name of the source it was read from. -/
structure Document where
  source : String
  definitions : List Definition
  deriving Repr, BEq, Inhabited

namespace TypeBody

def name? : TypeBody → Option String
  | .schema .. => none
  | .scalar name _ | .object name .. | .interface name .. | .union name .. | .enum name ..
  | .input name .. => some name

end TypeBody

namespace Definition

def name? : Definition → Option String
  | .operation o => o.name
  | .fragment f => some f.name
  | .typeSystem _ body | .extension body => body.name?
  | .directive d => some d.name

def operation? : Definition → Option Operation
  | .operation o => some o
  | _ => none

def fragment? : Definition → Option Fragment
  | .fragment f => some f
  | _ => none

theorem operation?_eq_some_iff {x : Definition} {o : Operation} :
    x.operation? = some o ↔ x = .operation o := by
  cases x <;> simp [operation?]

theorem fragment?_eq_some_iff {x : Definition} {f : Fragment} :
    x.fragment? = some f ↔ x = .fragment f := by
  cases x <;> simp [fragment?]

end Definition

namespace Document

def operations (d : Document) : List Operation := d.definitions.filterMap Definition.operation?

def fragments (d : Document) : List Fragment := d.definitions.filterMap Definition.fragment?

theorem mem_operations {d : Document} {o : Operation} :
    o ∈ d.operations ↔ .operation o ∈ d.definitions := by
  simp [operations, List.mem_filterMap, Definition.operation?_eq_some_iff]

theorem mem_fragments {d : Document} {f : Fragment} :
    f ∈ d.fragments ↔ .fragment f ∈ d.definitions := by
  simp [fragments, List.mem_filterMap, Definition.fragment?_eq_some_iff]

/-- The first definition of a name; definitions of every kind share one space of names. -/
def find? (d : Document) (name : String) : Option Definition :=
  d.definitions.find? fun definition => definition.name? == some name

end Document

/-! ## Printing documents

One layout for every document: two blanks per level, one selection or member per line, a blank
line between definitions, and no line end after the last one. A part that is absent takes its
separator with it. -/

namespace Layout

def join (separator : String) (parts : List String) : String :=
  separator.intercalate (parts.filter (!·.isEmpty))

def wrap (before text after : String) : String :=
  if text.isEmpty then "" else before ++ text ++ after

def indent (text : String) : String :=
  wrap "  " (String.ofList (text.toList.flatMap fun c =>
    if c = '\n' then ['\n', ' ', ' '] else [c])) ""

def block (items : List String) : String :=
  wrap "\x7b\n" (indent (join "\n" items)) "\n\x7d"

/-- A line of a selection that is longer than this gives each argument a line. -/
def lineLimit : Nat := 80

end Layout

open Layout

namespace Quoted

private def unicodeEscape (n : Nat) : List Char :=
  '\\' :: 'u' :: [n / 0x1000, n / 0x100, n / 0x10, n].map fun k =>
    let d := k % 16
    Char.ofNat (if d < 10 then 48 + d else 55 + d)

private def escapeChar (c : Char) : List Char :=
  match c with
  | '"' => ['\\', '"']
  | '\\' => ['\\', '\\']
  | '\n' => ['\\', 'n']
  | '\r' => ['\\', 'r']
  | '\t' => ['\\', 't']
  | '\x08' => ['\\', 'b']
  | '\x0c' => ['\\', 'f']
  | c =>
    if c.toNat < 0x20 ∨ (0x7F ≤ c.toNat ∧ c.toNat < 0xA0) then unicodeEscape c.toNat else [c]

def print (q : Quoted) : String :=
  if q.block then String.ofList (BlockString.print q.text.toList)
  else String.ofList ('"' :: q.text.toList.flatMap escapeChar ++ ['"'])

end Quoted

mutual

def Value.print : Value → String
  | .variable name => "$" ++ name
  | .int spelling | .float spelling => spelling
  | .text quoted => quoted.print
  | .boolean b => if b then "true" else "false"
  | .null => "null"
  | .enum name => name
  | .list items => "[" ++ join ", " (Value.printItems items) ++ "]"
  | .object fields => "\x7b" ++ join ", " (Value.printFields fields) ++ "\x7d"

def Value.printItems : List Value → List String
  | [] => []
  | v :: more => v.print :: Value.printItems more

def Value.printFields : List (String × Value) → List String
  | [] => []
  | (name, v) :: more => (name ++ ": " ++ v.print) :: Value.printFields more

end

def TypeRef.print : TypeRef → String
  | .named name => name
  | .list item => "[" ++ item.print ++ "]"
  | .nonNull inner => inner.print ++ "!"

def Argument.print (a : Argument) : String := a.name ++ ": " ++ a.value.print

def Directive.print (d : Directive) : String :=
  "@" ++ d.name ++ wrap "(" (join ", " (d.arguments.map Argument.print)) ")"

private def printDirectives (ds : List Directive) : String := join " " (ds.map Directive.print)

private def printDescription (description : Option Quoted) : String :=
  match description with
  | none => ""
  | some q => q.print ++ "\n"

/-- The head of a field: its arguments share its line if the line is short enough. -/
private def printFieldHead (label : Option String) (name : String) (args : List Argument) :
    String :=
  let start := (label.map (· ++ ": ")).getD "" ++ name
  let printed := args.map Argument.print
  let line := start ++ wrap "(" (join ", " printed) ")"
  if line.length > lineLimit then start ++ wrap "(\n" (indent (join "\n" printed)) "\n)" else line

mutual

def Selection.print : Selection → String
  | .field label name args dirs selections =>
    join " " [printFieldHead label name args, printDirectives dirs,
      block (Selection.printAll selections)]
  | .spread fragment dirs => "..." ++ fragment ++ wrap " " (printDirectives dirs) ""
  | .inline condition dirs selections =>
    join " " ["...", (condition.map ("on " ++ ·)).getD "", printDirectives dirs,
      block (Selection.printAll selections)]

def Selection.printAll : List Selection → List String
  | [] => []
  | s :: more => s.print :: Selection.printAll more

end

def OperationKind.print : OperationKind → String
  | .query => "query"
  | .mutation => "mutation"
  | .subscription => "subscription"

private def printDefault (separator : String) (value : Option Value) : String :=
  match value with
  | none => ""
  | some v => separator ++ v.print

def VariableDefinition.print (v : VariableDefinition) : String :=
  printDescription v.description ++ "$" ++ v.name ++ ": " ++ v.type.print
    ++ printDefault " = " v.defaultValue ++ wrap " " (printDirectives v.directives) ""

private def spansLines (text : String) : Bool := text.toList.contains '\n'

/-- An anonymous query with nothing but selections is printed as those alone. -/
def Operation.print (o : Operation) : String :=
  let printed := o.variableDefinitions.map VariableDefinition.print
  let parameters :=
    if printed.any spansLines then wrap "(\n" (join "\n" printed) "\n)"
    else wrap "(" (join ", " printed) ")"
  let head := printDescription o.description
    ++ join " " [o.kind.print, o.name.getD "" ++ parameters, printDirectives o.directives]
  (if head = "query" then "" else head ++ " ") ++ block (Selection.printAll o.selections)

def Fragment.print (f : Fragment) : String :=
  printDescription f.description ++ "fragment " ++ f.name ++ " on " ++ f.condition ++ " "
    ++ wrap "" (printDirectives f.directives) " " ++ block (Selection.printAll f.selections)

def InputDefinition.print (i : InputDefinition) : String :=
  printDescription i.description ++
    join " " [i.name ++ ": " ++ i.type.print, printDefault "= " i.defaultValue,
      printDirectives i.directives]

private def printArgumentDefinitions (inputs : List InputDefinition) : String :=
  let printed := inputs.map InputDefinition.print
  if printed.any spansLines then wrap "(\n" (indent (join "\n" printed)) "\n)"
  else wrap "(" (join ", " printed) ")"

def FieldDefinition.print (f : FieldDefinition) : String :=
  printDescription f.description ++ f.name ++ printArgumentDefinitions f.arguments ++ ": "
    ++ f.type.print ++ wrap " " (printDirectives f.directives) ""

def EnumValue.print (v : EnumValue) : String :=
  printDescription v.description ++ join " " [v.name, printDirectives v.directives]

def RootType.print (r : RootType) : String := r.kind.print ++ ": " ++ r.type

private def printObject (keyword name : String) (interfaces : List String)
    (dirs : List Directive) (fields : List FieldDefinition) : String :=
  join " " [keyword, name, wrap "implements " (join " & " interfaces) "", printDirectives dirs,
    block (fields.map FieldDefinition.print)]

def TypeBody.print : TypeBody → String
  | .schema dirs roots =>
    join " " ["schema", printDirectives dirs, block (roots.map RootType.print)]
  | .scalar name dirs => join " " ["scalar", name, printDirectives dirs]
  | .object name interfaces dirs fields => printObject "type" name interfaces dirs fields
  | .interface name interfaces dirs fields => printObject "interface" name interfaces dirs fields
  | .union name dirs members =>
    join " " ["union", name, printDirectives dirs, wrap "= " (join " | " members) ""]
  | .enum name dirs values =>
    join " " ["enum", name, printDirectives dirs, block (values.map EnumValue.print)]
  | .input name dirs fields =>
    join " " ["input", name, printDirectives dirs, block (fields.map InputDefinition.print)]

def DirectiveDefinition.print (d : DirectiveDefinition) : String :=
  printDescription d.description ++ "directive @" ++ d.name
    ++ printArgumentDefinitions d.arguments ++ (if d.repeatable then " repeatable" else "")
    ++ " on " ++ join " | " d.locations

def Definition.print : Definition → String
  | .operation o => o.print
  | .fragment f => f.print
  | .typeSystem description body => printDescription description ++ body.print
  | .directive d => d.print
  | .extension body => "extend " ++ body.print

def Document.print (d : Document) : String := join "\n\n" (d.definitions.map Definition.print)

end OperationDocuments
