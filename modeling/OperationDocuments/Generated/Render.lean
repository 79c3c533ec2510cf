import OperationDocuments.Files
import OperationDocuments.Generated.Grammar.Statement
import OperationDocuments.Generated.Template
import OperationDocuments.Split

/-! # Generated modules

A module is rendered from a loaded source, and checked before it is written. -/
namespace OperationDocuments.Generated

/-! ## Checking a module

A text is read as a module once. If that fails it is read again, this time in search of a fault;
where none is found, the text differs from a module at the furthest token of the first reading.
Faults of the text behind that place may tell more. -/

inductive Assessment where
  | sound (depth : Nat)
  | faulty (f : ModuleFault)
  | exhausted
  deriving Repr, DecidableEq

def Assessment.fault? : Assessment → Option ModuleFault
  | faulty f => some f
  | _ => none

namespace Source

variable (s : Source)

/-- A reading from the first token on. Every token takes a bounded number of steps into phrases. -/
private def readAll (start : Phrase) (seen : Nat) (seeksFaults : Bool) : Verdict × Reading :=
  s.read (1000 * (s.tokens.tokens.size + 2)) start ⟨0, [], seen, 0, {}, seeksFaults⟩

/-- A complaint, or what is wrong with the text behind the last token that was looked at: a fault of
the text comes first, and so does a bracket that is not closed, if it stands on an earlier line. -/
private def orBehind (seen : Nat) (complaint : ModuleFault) : ModuleFault :=
  match s.tokens.ending, s.tokens.brackets with
  | .fault f, _ => f
  | .complete, _ | _, [] => complaint
  | _, b :: _ => if b.line < s.lineSeen seen then b.unclosed s.label else complaint

private def isReadToEnd (seen : Nat) : Bool :=
  s.tokens.ending = .complete && s.tokens.tokens.size ≤ seen

def assess (start : Phrase) : Assessment :=
  let complained (f : ModuleFault) (r : Reading) : Assessment :=
    .faulty (if s.isReadToEnd r.seen then f else s.orBehind r.seen f)
  match s.readAll start 0 false with
  | (.fits, r) => .sound (Node.depthOf r.nodes)
  | (.faulty f, r) => complained f r
  | (.ended, _) => .faulty (s.tokens.fault s.label)
  | (.exhausted, _) => .exhausted
  | (_, first) =>
    match s.readAll start first.seen true with
    | (.faulty f, r) => complained f r
    | (.ended, _) => .faulty (s.tokens.fault s.label)
    | (.exhausted, _) => .exhausted
    | (_, second) =>
      let last := s.tokens.tokens[first.seen - 1]?
      let unexpected (what : String) : Assessment :=
        .faulty ⟨s.label ++ "unexpected " ++ what, s.lineSeen second.seen⟩
      match last.map Token.kind with
      | some .indent => unexpected "indent"
      | some .dedent => unexpected "unindent"
      | _ =>
        .faulty (s.orBehind second.seen ⟨s.label ++ "invalid syntax", s.lineSeen first.seen⟩)

end Source

private structure Quoted where
  letters : List Char
  text : List Char

private def Quoted.ofToken (t : Token) : Quoted :=
  let chars := t.text.toList
  let letters := chars.takeWhile (·.isAlpha)
  let quoted := chars.drop letters.length
  let size := match quoted with
    | a :: b :: c :: _ :: _ :: _ => if a = b ∧ a = c then 3 else 1
    | _ => 1
  ⟨letters.map Char.toLower, (quoted.drop size).take (quoted.length - 2 * size)⟩

private def Quoted.has (q : Quoted) (letter : Char) : Bool := q.letters.contains letter

private def literalFault? (say : String → ModuleFault) (isNextToBytes : Option Bool)
    (check : (line : Nat) → List Char → Option ModuleFault) (t : Token) : Option ModuleFault :=
  let q := Quoted.ofToken t
  let isBytes := q.has 'b'
  let own :=
    if q.has 'f' then none
    else if isBytes ∧ q.text.any (0x80 ≤ ·.toNat) then
      some ⟨(say "bytes can only contain ASCII literal characters").message, t.line⟩
    else if q.has 'r' then none
    else (if isBytes then Escape.bytesFault? q.text else Escape.fault? q.text).map say
  let mixed := if (isNextToBytes.map (· != isBytes)).getD false then
      some (say "cannot mix bytes and nonbytes literals")
    else none
  let fields := if q.has 'f' then
      FormattedString.fault? ⟨q.has 'r', t.line + q.text.count '\n', say, check⟩ q.text
    else none
  own <|> mixed <|> fields

/-- What string literals next to each other come to. Their fields hold expressions, which may hold
string literals again: no more than `depth` within each other. -/
def stringsKind (label : String) :
    (depth : Nat) → List Token → (lineSeen : Nat) → Except ModuleFault NodeKind
  | 0, _, _ => .ok .literal
  | depth + 1, literals, lineSeen =>
    let say (message : String) : ModuleFault := ⟨label ++ message, lineSeen⟩
    let check (line : Nat) (expression : List Char) : Option ModuleFault :=
      (Source.assess ⟨.ofText line ('(' :: expression ++ [')']), "f-string: ",
        stringsKind "f-string: " depth⟩ Grammar.starExpressions).fault?
    let kinds := literals.map fun t => (Quoted.ofToken t).has 'b'
    let before := none :: kinds.map some
    match (literals.zip before).findSome? fun (t, isNextToBytes) =>
        literalFault? say isNextToBytes check t with
    | some f => .error f
    | none =>
      .ok (if literals.any fun t => (Quoted.ofToken t).has 'f' then .formatted else .literal)

def assessModule (text : List Char) : Assessment :=
  Source.assess ⟨.ofText 1 text, "", stringsKind "" (text.length + 1)⟩ Grammar.module

/-! ## Rendering a source

A loaded source becomes a Python module that holds the printed texts of the whole document and of
every operation. A template may take the place of the module's own layout; what it renders is
checked to be a module before headers are put in front and the file is written. -/

inductive ModuleError where
  | nullCharacter
  | invalid (source : String) (fault : ModuleFault)
  | nestedTooDeep
  | unreadable
  | unwritable (cause : FileError)
  deriving Repr

def templateFile : String := "documents.py.j2"

def ModuleError.message : ModuleError → String
  | nullCharacter => "source code string cannot contain null bytes"
  | invalid source fault =>
    s!"Generated invalid Python for {source}: {fault.message} "
      ++ s!"(<unknown>, line {fault.line})\nTemplate: {templateFile}"
  | nestedTooDeep => "maximum recursion depth exceeded during ast construction"
  | unreadable => ""
  | unwritable cause => cause.message

def maxDepth : Nat := 2960

def literalOf (text : String) : String := String.ofList (stringLiteral text.toList)

def quotedOf (text : String) : String := String.ofList (Text.literal text.toList)

def docstringOf (text : String) : String := String.ofList (docstring text.toList)

def commentOf (text : String) : String := String.ofList (comment text.toList)

def heading (source : String) : String :=
  "\"\"\"" ++ "GraphQL documents loaded from " ++ docstringOf source
    ++ ".\n\nGenerated by gql-docsplit. Do not edit.\n" ++ "\"\"\"" ++ "\n\n"

def sourceLines (document : Document) : String :=
  "from graphql import DocumentNode, parse\n\nSOURCE = " ++ literalOf document.print ++ "\n"

def importComment (reference : String) : String := "#" ++ ("   " ++ commentOf reference) ++ "\n"

def importLines (imports : List String) : String :=
  if imports.isEmpty then ""
  else "#" ++ " Expanded from:" ++ "\n" ++ String.join (imports.map importComment)

def entryLine (entry : String × Document) : String :=
  "    " ++ quotedOf entry.1 ++ ": " ++ literalOf entry.2.print ++ ",\n"

def operationLines (operations : Assoc String Document) : String :=
  "\nOPERATIONS: dict[str, str] = \x7b\n" ++ String.join (operations.map entryLine) ++ "\x7d\n\n"

/-- What a module does with its texts, up to the docstring of its function. -/
def parseLines : String :=
  "document: DocumentNode = parse(SOURCE, no_location=True)\n\n"
    ++ "operations: dict[str, DocumentNode] = \x7b\n"
    ++ "    name: parse(text, no_location=True) for name, text in OPERATIONS.items()\n\x7d\n\n\n"
    ++ "def get_document(name: str | None = None) -> DocumentNode:\n    "

def accessDocstring : String :=
  "Return the document for operation \x60\x60name\x60\x60, or the whole document."

def accessLines : String :=
  "\n    if name is None or not operations:\n"
    ++ "        return document\n"
    ++ "    return operations[name]\n"

def body (l : Loaded) : String :=
  sourceLines l.document ++ importLines l.imports ++ operationLines l.operations ++ parseLines
    ++ ("\"\"\"" ++ accessDocstring ++ "\"\"\"") ++ accessLines

def layout (l : Loaded) : String := heading l.source ++ body l

/-- The text of the template in a directory, if the directory holds one. What is no directory is
passed over, but for a name that none can have. -/
def template? (w : Workspace) (directory : Option String) : Except FileError (Option String) :=
  match directory with
  | none | some "" => .ok none
  | some directory =>
    match w.tree.follow w.directory (Path.tidy directory) with
    | .error (.nameTooLong path) => .error (.nameTooLong path)
    | _ =>
      let file := Path.join directory templateFile
      if w.isFile file then some <$> w.read file else .ok none

def withoutNull (text : String) : Except ModuleError String :=
  if text.toList.contains '\x00' then .error .nullCharacter else .ok text

/-- The module of a source. The layout of this library is a module whatever it is filled with: each
text in it stands in a literal, a docstring or a comment. -/
def render (l : Loaded) (template : Option String) : Except ModuleError String :=
  match template with
  | none => withoutNull (layout l)
  | some template => do
    let text ← withoutNull (fill template fun
      | .source => l.document.print
      | .sourceName => l.source)
    match assessModule text.toList with
    | .faulty fault => throw (.invalid l.source fault)
    | .exhausted => throw .unreadable
    | .sound depth => if maxDepth < depth then throw .nestedTooDeep else return text

def addHeader (content header : String) : String :=
  String.ofList (header.toList.reverse.dropWhile (· == '\n')).reverse ++ "\n\n" ++ content

/-- Writes the module of a source, each header in front of those before it. The tree is the one
afterwards, also where writing fails. -/
def write (l : Loaded) (template : Option String) (headers : List String) (w : Workspace)
    (path : String) : Loading ModuleError String × FileTree :=
  match render l template with
  | .error e => (throw e, w.tree)
  | .ok content =>
    let content := headers.foldl addHeader content
    let directory := Path.parent path
    let prepared := if directory = "" then ⟨w.tree, none⟩
      else w.tree.makeDirectories w.directory directory
    let changed := prepared.andThen fun tree => tree.write w.directory path content
    match changed.failure? with
    | some e => (throw (.unwritable e), changed.tree)
    | none => (do Loading.report (.wrote path); return content, changed.tree)

end OperationDocuments.Generated
