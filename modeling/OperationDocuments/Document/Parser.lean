import OperationDocuments.Document.Basic

/-! # Reading documents

A document is read by recursive descent, one parser for each part. -/
namespace OperationDocuments

/-! ## Parsers

A parser reads from a token stream and leaves the rest of it. It sees one token ahead: taking a
token means stepping onto the next one, and a stretch that is no token fails at that moment.
Repetitions are bounded by the number of tokens left, since every item takes at least one. -/

abbrev Parser (α : Type) := StateT TokenStream (Except SyntaxError) α

namespace Parser

def stepOnto (tokens : TokenStream) : Except SyntaxError TokenStream :=
  match tokens with
  | .broken e => .error e
  | tokens => .ok tokens

def current : Parser Token := fun tokens =>
  match tokens with
  | .next t _ => .ok (t, tokens)
  | .ending => .ok (.ending, tokens)
  | .broken e => .error e

/-- Takes the current token. The end of the text stays where it is. -/
def advance : Parser Unit := fun tokens =>
  match tokens with
  | .next _ rest => do return ((), ← stepOnto rest)
  | .ending => .ok ((), .ending)
  | .broken e => .error e

def lookahead : Parser Token := fun tokens =>
  match tokens with
  | .next _ (.next t _) => .ok (t, tokens)
  | .next _ .ending | .ending => .ok (.ending, tokens)
  | .next _ (.broken e) | .broken e => .error e

def unexpected {α : Type} : Parser α := do throw (.unexpected (← current))

def expected {α : Type} (wanted : Expectation) : Parser α := do
  throw (.expected wanted (← current))

def peekPunctuator (p : Punctuator) : Parser Bool := return (← current) == .punctuator p

def peekName : Parser Bool := do
  match ← current with
  | .name _ => return true
  | _ => return false

/-- Takes the current token if it is this punctuator, and says whether it was. -/
def skipPunctuator (p : Punctuator) : Parser Bool := do
  if ← peekPunctuator p then
    advance
    return true
  return false

def punctuator (p : Punctuator) : Parser Unit := do
  unless ← skipPunctuator p do expected (.punctuator p)

def skipKeyword (word : String) : Parser Bool := do
  if (← current) == .name word then
    advance
    return true
  return false

def keyword (word : String) : Parser Unit := do
  unless ← skipKeyword word do expected (.keyword word)

def name : Parser String := do
  match ← current with
  | .name text =>
    advance
    return text
  | _ => expected .name

def name? : Parser (Option String) := do
  if ← peekName then return some (← name)
  return none

variable {α : Type}

def itemsUntil (close : Punctuator) (item : Parser α) : Nat → Parser (List α)
  | 0 => unexpected
  | left + 1 => do
    if ← skipPunctuator close then return []
    let x ← item
    return x :: (← itemsUntil close item left)

def any (opening close : Punctuator) (item : Parser α) : Parser (List α) := do
  punctuator opening
  itemsUntil close item ((← get).length + 1)

def many (opening close : Punctuator) (item : Parser α) : Parser (List α) := do
  punctuator opening
  let first ← item
  return first :: (← itemsUntil close item ((← get).length + 1))

def optionalMany (opening close : Punctuator) (item : Parser α) : Parser (List α) := do
  if ← peekPunctuator opening then many opening close item
  else return []

def itemsBetween (delimiter : Punctuator) (item : Parser α) : Nat → Parser (List α)
  | 0 => unexpected
  | left + 1 => do
    let x ← item
    if ← skipPunctuator delimiter then return x :: (← itemsBetween delimiter item left)
    return [x]

/-- One or more items with a delimiter between each two, and perhaps one in front. -/
def delimited (delimiter : Punctuator) (item : Parser α) : Parser (List α) := do
  let _ ← skipPunctuator delimiter
  itemsBetween delimiter item ((← get).length + 1)

def itemsToEnd (item : Parser α) : Nat → Parser (List α)
  | 0 => unexpected
  | left + 1 => do
    if (← current) == .ending then return []
    let x ← item
    return x :: (← itemsToEnd item left)

def manyToEnd (item : Parser α) : Parser (List α) := do
  let first ← item
  return first :: (← itemsToEnd item ((← get).length + 1))

def itemsWhile (start : Punctuator) (item : Parser α) : Nat → Parser (List α)
  | 0 => return []
  | left + 1 => do
    if ← peekPunctuator start then
      let x ← item
      return x :: (← itemsWhile start item left)
    return []

def manyFrom (start : Punctuator) (item : Parser α) : Parser (List α) := do
  itemsWhile start item ((← get).length + 1)

end Parser

end OperationDocuments

namespace OperationDocuments.Parser

/-! ## Operations and fragments

Brackets of selections, list values, object values and list types may be nested to the depth
`depthLimit`, counted together; the number of levels left is the argument on which the grammar
recurses. -/

/-- How many brackets may be open at once. -/
def depthLimit : Nat := 200

def quoted? : Parser (Option Quoted) := do
  match ← current with
  | .string text =>
    advance
    return some ⟨text, false⟩
  | .blockString text =>
    advance
    return some ⟨text, true⟩
  | _ => return none

def variableInConstant : Parser Value := do
  let dollar ← current
  advance
  match ← current with
  | .name text => throw (.variableInConstant text)
  | _ => throw (.unexpected dollar)

def leafValue (constant : Bool) : Parser Value := do
  match ← current with
  | .int text =>
    advance
    return .int text
  | .float text =>
    advance
    return .float text
  | .string text =>
    advance
    return .text ⟨text, false⟩
  | .blockString text =>
    advance
    return .text ⟨text, true⟩
  | .name text =>
    advance
    return match text with
      | "true" => .boolean true
      | "false" => .boolean false
      | "null" => .null
      | _ => .enum text
  | .punctuator .dollar =>
    if constant then variableInConstant
    else
      advance
      return .variable (← name)
  | _ => unexpected

/-- A value with as many levels of brackets at most. -/
def value (constant : Bool) : (depth : Nat) → Parser Value
  | 0 => do
    match ← current with
    | .punctuator .bracketOpen | .punctuator .braceOpen => throw .tooDeep
    | _ => leafValue constant
  | depth + 1 => do
    match ← current with
    | .punctuator .bracketOpen =>
      return .list (← any .bracketOpen .bracketClose (value constant depth))
    | .punctuator .braceOpen =>
      return .object (← any .braceOpen .braceClose do
        let field ← name
        punctuator .colon
        return (field, ← value constant depth))
    | _ => leafValue constant

def argument (constant : Bool) (depth : Nat) : Parser Argument := do
  let label ← name
  punctuator .colon
  return ⟨label, ← value constant depth⟩

def arguments (constant : Bool) (depth : Nat) : Parser (List Argument) :=
  optionalMany .parenOpen .parenClose (argument constant depth)

def directive (constant : Bool) (depth : Nat) : Parser Directive := do
  punctuator .at
  return ⟨← name, ← arguments constant depth⟩

def directives (constant : Bool) (depth : Nat) : Parser (List Directive) :=
  manyFrom .at (directive constant depth)

def marked (inner : TypeRef) : Parser TypeRef := do
  if ← skipPunctuator .bang then return .nonNull inner
  return inner

/-- A type with as many levels of brackets at most. A bracket too many is noticed once it is taken,
so a stretch behind it that is no token comes first. -/
def typeRef : (depth : Nat) → Parser TypeRef
  | 0 => do
    match ← current with
    | .punctuator .bracketOpen =>
      advance
      throw .tooDeep
    | _ => marked (.named (← name))
  | depth + 1 => do
    match ← current with
    | .punctuator .bracketOpen =>
      advance
      let item ← typeRef depth
      punctuator .bracketClose
      marked (.list item)
    | _ => marked (.named (← name))

def field (depth : Nat) (nested : Parser (List Selection)) : Parser Selection := do
  let first ← name
  let (label, target) ← if ← skipPunctuator .colon then pure (some first, ← name)
    else pure (none, first)
  let args ← arguments false depth
  let dirs ← directives false depth
  let selections ← if ← peekPunctuator .braceOpen then nested else pure []
  return .field label target args dirs selections

/-- What follows three points: the name of a fragment, unless it is the word `on`, or an inline
fragment. -/
def spreadOrInline (depth : Nat) (nested : Parser (List Selection)) :
    Parser Selection := do
  punctuator .spread
  let conditional ← skipKeyword "on"
  if !conditional && (← peekName) then
    return .spread (← name) (← directives false depth)
  let condition ← if conditional then some <$> name else pure none
  return .inline condition (← directives false depth) (← nested)

/-- One or more selections in braces, with `depth` levels of brackets at most. -/
def selectionSet : Nat → Parser (List Selection)
  | 0 => throw .tooDeep
  | depth + 1 => many .braceOpen .braceClose do
    if ← peekPunctuator .spread then spreadOrInline depth (selectionSet depth)
    else field depth (selectionSet depth)

def operationKind : Parser OperationKind := do
  let token ← current
  match ← name with
  | "query" => return .query
  | "mutation" => return .mutation
  | "subscription" => return .subscription
  | _ => throw (.unexpected token)

def variableDefinition : Parser VariableDefinition := do
  let description ← quoted?
  punctuator .dollar
  let label ← name
  punctuator .colon
  let type ← typeRef depthLimit
  let defaultValue ← if ← skipPunctuator .equals then some <$> value true depthLimit
    else pure none
  return ⟨description, label, type, defaultValue, ← directives true depthLimit⟩

/-- An operation; its selections alone stand for an anonymous query. -/
def operation : Parser Operation := do
  if ← peekPunctuator .braceOpen then
    return ⟨none, .query, none, [], [], ← selectionSet depthLimit⟩
  let description ← quoted?
  let kind ← operationKind
  let label ← name?
  let definitions ← optionalMany .parenOpen .parenClose variableDefinition
  let dirs ← directives false depthLimit
  return ⟨description, kind, label, definitions, dirs, ← selectionSet depthLimit⟩

def fragment : Parser Fragment := do
  let description ← quoted?
  keyword "fragment"
  if (← current).text? == some "on" then unexpected
  let label ← name
  keyword "on"
  let condition ← name
  let dirs ← directives false depthLimit
  return ⟨description, label, condition, dirs, ← selectionSet depthLimit⟩

/-! ## Type system definitions

Definitions and extensions of a schema and its types share their bodies; an extension has to
add something. -/

def constDirectives : Parser (List Directive) := directives true depthLimit

def inputDefinition : Parser InputDefinition := do
  let description ← quoted?
  let label ← name
  punctuator .colon
  let type ← typeRef depthLimit
  let defaultValue ← if ← skipPunctuator .equals then some <$> value true depthLimit
    else pure none
  return ⟨description, label, type, defaultValue, ← constDirectives⟩

def argumentDefinitions : Parser (List InputDefinition) :=
  optionalMany .parenOpen .parenClose inputDefinition

def fieldDefinition : Parser FieldDefinition := do
  let description ← quoted?
  let label ← name
  let args ← argumentDefinitions
  punctuator .colon
  let type ← typeRef depthLimit
  return ⟨description, label, args, type, ← constDirectives⟩

def enumValue : Parser EnumValue := do
  let description ← quoted?
  let token ← current
  if token.text?.any (["true", "false", "null"].contains ·) then throw (.reservedEnumValue token)
  return ⟨description, ← name, ← constDirectives⟩

def interfaces : Parser (List String) := do
  if ← skipKeyword "implements" then delimited .amp name
  else return []

def rootType : Parser RootType := do
  let kind ← operationKind
  punctuator .colon
  return ⟨kind, ← name⟩

def fields : Parser (List FieldDefinition) :=
  optionalMany .braceOpen .braceClose fieldDefinition

def bodyKeywords : List String :=
  ["schema", "scalar", "type", "interface", "union", "enum", "input"]

/-- A body from its keyword on. An extended schema may do without root types. -/
def typeBody (extending : Bool) : Parser TypeBody := do
  let token ← current
  match ← name with
  | "schema" =>
    let dirs ← constDirectives
    let roots ← if extending then optionalMany .braceOpen .braceClose rootType
      else many .braceOpen .braceClose rootType
    return .schema dirs roots
  | "scalar" => return .scalar (← name) (← constDirectives)
  | "type" => return .object (← name) (← interfaces) (← constDirectives) (← fields)
  | "interface" => return .interface (← name) (← interfaces) (← constDirectives) (← fields)
  | "union" =>
    let label ← name
    let dirs ← constDirectives
    let members ← if ← skipPunctuator .equals then delimited .pipe name else pure []
    return .union label dirs members
  | "enum" =>
    return .enum (← name) (← constDirectives) (← optionalMany .braceOpen .braceClose enumValue)
  | "input" =>
    return .input (← name) (← constDirectives)
      (← optionalMany .braceOpen .braceClose inputDefinition)
  | _ => throw (.unexpected token)

def directiveLocations : List String :=
  ["QUERY", "MUTATION", "SUBSCRIPTION", "FIELD", "FRAGMENT_DEFINITION", "FRAGMENT_SPREAD",
   "VARIABLE_DEFINITION", "INLINE_FRAGMENT", "SCHEMA", "SCALAR", "OBJECT", "FIELD_DEFINITION",
   "ARGUMENT_DEFINITION", "INTERFACE", "UNION", "ENUM", "ENUM_VALUE", "INPUT_OBJECT",
   "INPUT_FIELD_DEFINITION", "DIRECTIVE_DEFINITION"]

def directiveLocation : Parser String := do
  let token ← current
  let location ← name
  unless directiveLocations.contains location do throw (.unexpected token)
  return location

def directiveDefinition : Parser DirectiveDefinition := do
  let description ← quoted?
  keyword "directive"
  punctuator .at
  let label ← name
  let args ← argumentDefinitions
  let repeatable ← skipKeyword "repeatable"
  keyword "on"
  return ⟨description, label, args, repeatable, ← delimited .pipe directiveLocation⟩

def addsNothing : TypeBody → Bool
  | .schema dirs roots => dirs.isEmpty && roots.isEmpty
  | .scalar _ dirs => dirs.isEmpty
  | .object _ interfaces dirs fields | .interface _ interfaces dirs fields =>
    interfaces.isEmpty && dirs.isEmpty && fields.isEmpty
  | .union _ dirs members => dirs.isEmpty && members.isEmpty
  | .enum _ dirs values => dirs.isEmpty && values.isEmpty
  | .input _ dirs fields => dirs.isEmpty && fields.isEmpty

def extension : Parser TypeBody := do
  let token ← lookahead
  match token with
  | .name word =>
    if bodyKeywords.contains word then
      keyword "extend"
      let body ← typeBody true
      if addsNothing body then unexpected
      return body
    else throw (.unexpected token)
  | _ => throw (.unexpected token)

end OperationDocuments.Parser

namespace OperationDocuments

/-! ## Whole documents

The grammar of definitions, and `Document.parse`, which reads a whole text. -/

namespace Parser

/-- The definition that a keyword announces, if it announces one. A description, when there is
one, stands in front of the keyword. -/
def definitionAt (word : String) : Option (Parser Definition) :=
  if bodyKeywords.contains word then
    some do
      let description ← quoted?
      return .typeSystem description (← typeBody false)
  else match word with
    | "directive" => some (.directive <$> directiveDefinition)
    | "query" | "mutation" | "subscription" => some (.operation <$> operation)
    | "fragment" => some (.fragment <$> fragment)
    | _ => none

def definitionFrom (described : Bool) : Token → Parser Definition
  | .punctuator .braceOpen => do
    if described then throw .describedShorthand
    return .operation (← operation)
  | .name word =>
    match definitionAt word with
    | some body => body
    | none => do
      if described then throw .describedNonDefinition
      if word = "extend" then return .extension (← extension)
      throw (.unexpected (.name word))
  | token => throw (.unexpected token)

def definition : Parser Definition := do
  match ← current with
  | .string _ | .blockString _ => definitionFrom true (← lookahead)
  | token => definitionFrom false token

def definitions : Parser (List Definition) := manyToEnd definition

end Parser

namespace Document

def defaultSource : String := "GraphQL request"

/-- The name of a source; the empty name counts as none. -/
def sourceName : Option String → String
  | none => defaultSource
  | some name => if name = "" then defaultSource else name

/-- Reads a document: one or more definitions. -/
def parse (text : String) (name : Option String) : Except SyntaxError Document := do
  let tokens ← Parser.stepOnto (TokenStream.ofChars text.toList)
  let (definitions, _) ← Parser.definitions.run tokens
  return ⟨sourceName name, definitions⟩

end Document

end OperationDocuments
