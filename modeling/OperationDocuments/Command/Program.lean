import OperationDocuments.Execute.Client
import OperationDocuments.Generated.Render
import OperationDocuments.Load.Session

/-! # The command line

The commands of the program, from their options to what they print and write. -/
namespace OperationDocuments.Command

/-! ## Options

The words after a command are options with their values and, between or behind them, other words.
A long option, with two hyphens, takes its value from behind an equals sign or from the next word;
a short one takes it from the rest of its own word or from the next one, and short switches may
share a word. Everything behind `--` is no option. -/

inductive Arity where
  | switch
  | single
  | repeated
  deriving Repr, DecidableEq

structure OptionSpec where
  key : String
  names : List String
  arity : Arity
  deriving Repr

inductive OptionError where
  | noSuchOption (name : String)
  | needsArgument (name : String)
  | takesNoValue (name : String)
  deriving Repr, DecidableEq

def shown (word : String) : String := String.ofList (Text.literal word.toList)

def OptionError.message : OptionError → String
  | noSuchOption name => s!"No such option {shown name}."
  | needsArgument name => s!"Option {shown name} requires an argument."
  | takesNoValue name => s!"Option {shown name} does not take a value."

/-- The options with their values, in the order of their first use, and the other words. -/
structure Arguments where
  options : Assoc String (List String)
  extra : List String
  deriving Repr, DecidableEq

namespace Arguments

def record (a : Arguments) (key value : String) : Arguments :=
  { a with options := a.options.insert key ((a.options.find? key).getD [] ++ [value]) }

def value? (a : Arguments) (key : String) : Option String :=
  (a.options.find? key).bind List.getLast?

def values (a : Arguments) (key : String) : List String := (a.options.find? key).getD []

def isOn (a : Arguments) (key : String) : Bool := (a.options.find? key).isSome

end Arguments

private def named? (specs : List OptionSpec) (name : String) : Option OptionSpec :=
  specs.find? fun spec => spec.names.contains name

private def takeValue (name : String) (attached : Option String) (rest : List String) :
    Except OptionError (String × List String) :=
  match attached, rest with
  | some value, _ => .ok (value, rest)
  | none, value :: rest => .ok (value, rest)
  | none, [] => .error (.needsArgument name)

private def shortOptions (specs : List OptionSpec) (a : Arguments) (rest : List String) :
    List Char → Except OptionError (Arguments × List String)
  | [] => .ok (a, rest)
  | c :: more => do
    let name := "-" ++ c.toString
    match named? specs name with
    | none => throw (.noSuchOption name)
    | some spec =>
      if spec.arity = .switch then shortOptions specs (a.record spec.key "") rest more
      else
        let attached := if more.isEmpty then none else some (String.ofList more)
        let (value, rest) ← takeValue name attached rest
        return (a.record spec.key value, rest)

/-- One word that begins with a hyphen; only a name behind two hyphens is ended by an equals
sign. -/
private def option (specs : List OptionSpec) (a : Arguments) (word : String)
    (rest : List String) : Except OptionError (Arguments × List String) := do
  let chars := word.toList
  unless ['-', '-'].isPrefixOf chars do return ← shortOptions specs a rest (chars.drop 1)
  let name := String.ofList (chars.takeWhile (· != '='))
  let attached := if chars.contains '=' then
    some (String.ofList (chars.drop (name.length + 1))) else none
  match named? specs name with
  | none => throw (.noSuchOption name)
  | some spec =>
    if spec.arity = .switch then
      if attached.isSome then throw (.takesNoValue name)
      return (a.record spec.key "", rest)
    let (value, rest) ← takeValue name attached rest
    return (a.record spec.key value, rest)

private def isOption (word : String) : Bool := word.toList.head? == some '-' && 1 < word.length

/-- Every step takes a word, so `left` outlasts the words. With `interspersed` off, the first
word that is no option ends the options. -/
private def parseFrom (specs : List OptionSpec) (interspersed : Bool) :
    (left : Nat) → Arguments → List String → Except OptionError Arguments
  | 0, a, _ | _, a, [] => .ok a
  | left + 1, a, word :: rest => do
    if word = "--" then return { a with extra := a.extra ++ rest }
    else if isOption word then
      let (a, rest) ← option specs a word rest
      parseFrom specs interspersed left a rest
    else if interspersed then
      parseFrom specs interspersed left { a with extra := a.extra ++ [word] } rest
    else return { a with extra := a.extra ++ word :: rest }

def Arguments.parse (specs : List OptionSpec) (interspersed : Bool) (words : List String) :
    Except OptionError Arguments :=
  parseFrom specs interspersed words.length ⟨[], []⟩ words

/-! ## Running a command

A command works on a file tree and a queue of replies, and writes to two outputs. It ends
normally, by showing how it is called, with a message about its use, with an error message, or by
a failure that it has no message for. -/

structure Console where
  tree : FileTree
  replies : List Http.Reply
  requests : List Http.Request := []
  output : String := ""
  errors : String := ""

inductive Crash where
  | file (e : FileError)
  | values (e : Json.ReadError)
  | execution (e : ExecuteError)
  | module (e : Generated.ModuleError)
  deriving Repr

def Crash.message : Crash → String
  | file e => e.message
  | values e => e.message
  | execution e => e.message.escaped
  | module e => e.message

inductive Failure where
  | help
  | usage (message : String)
  | option (message : String)
  | failed (message : String)
  | crash (cause : Crash)

abbrev Run (α : Type) := ExceptT Failure (StateM Console) α

def echo (line : String) : Run Unit :=
  modify fun c => { c with output := c.output ++ line ++ "\n" }

def complain (line : String) : Run Unit :=
  modify fun c => { c with errors := c.errors ++ line ++ "\n" }

/-- Writes events to the error output: every line of the log, or the warnings alone. -/
def log (verbose : Bool) (events : List Event) : Run Unit :=
  events.forM fun e =>
    if verbose then e.line?.forM complain
    else if e.isWarning then complain e.message
    else pure ()

def ofFiles {α : Type} (x : Except FileError α) : Run α :=
  match x with
  | .ok a => pure a
  | .error e => throw (.crash (.file e))

def onTree (f : FileTree → Except FileError FileTree) : Run Unit := do
  let tree ← ofFiles (f (← get).tree)
  modify fun c => { c with tree := tree }

/-- A change in several steps, which stay done when a later one fails. -/
def change (f : FileTree → FileTree.Changed) : Run Unit := do
  let changed := f (← get).tree
  modify fun c => { c with tree := changed.tree }
  changed.failure?.forM fun e => throw (.crash (.file e))

def loading {ε α : Type} (verbose : Bool) (failure : ε → Failure) (x : Loading ε α) : Run α := do
  log verbose x.outcome.1
  match x.outcome.2 with
  | .ok a => return a
  | .error e => throw (failure e)

/-- A source that cannot be loaded has a message, unless its file cannot be read. -/
def loadFailure : LoadError → Failure
  | .unreadable e => .crash (.file e)
  | e => .failed e.message

def loadFile (directory : Location) (verbose : Bool) (path : String) : Run Loaded := do
  let w : Workspace := ⟨(← get).tree, directory⟩
  loading verbose loadFailure ((Loader.ofWorkspace w).loadFile w path)

/-! ## Checking options

Options are checked in the order in which they were given, and then the missing ones in the order
in which the command declares them. Words that belong to no option come last. -/

inductive ValueRule where
  | text
  | number
  | path
  | existingPath
  | existingFile
  | notDirectory
  | existingDirectory
  deriving Repr, DecidableEq

/-- An option of a command. `fallback` is its value where none is given. -/
structure CommandOption where
  spec : OptionSpec
  rule : ValueRule := .text
  required : Bool := false
  fallback : Option String := none
  deriving Repr

private def label (spec : OptionSpec) : String :=
  " / ".intercalate (spec.names.map fun name => "'" ++ name ++ "'")

def refuse (spec : OptionSpec) (reason : String) : Run Unit :=
  throw (.usage s!"Invalid value for {label spec}: {reason}")

def checkPath (directory : Location) (spec : OptionSpec) (rule : ValueRule)
    (value : String) : Run Unit := do
  if value.toList.contains '\x00' then throw (.crash (.file .nullByte))
  let kind := match rule with
    | .existingFile | .notDirectory => "File"
    | .existingDirectory => "Directory"
    | _ => "Path"
  match rule, (← get).tree.find? directory value with
  | .path, none | .notDirectory, none => return
  | _, none => refuse spec s!"{kind} {shown value} does not exist."
  | .existingFile, some .directory | .notDirectory, some .directory =>
    refuse spec s!"{kind} {shown value} is a directory."
  | .existingDirectory, some .file => refuse spec s!"{kind} {shown value} is a file."
  | _, some _ => return

def checkValue (directory : Location) (spec : OptionSpec) (rule : ValueRule)
    (value : String) : Run Unit :=
  match rule with
  | .text => pure ()
  | .number =>
    if Text.isNumber value.toList then pure () else refuse spec s!"{shown value} is not a valid float."
  | rule => checkPath directory spec rule value

def checkOption (directory : Location) (a : Arguments) (o : CommandOption) :
    Run Unit := do
  if o.spec.arity = .switch then return
  match a.value? o.spec.key, o.fallback with
  | some value, _ | none, some value => checkValue directory o.spec o.rule value
  | none, none => if o.required then throw (.usage s!"Missing option {label o.spec}.")

private def unexpected (words : List String) : String :=
  let noun := if words.length = 1 then "argument" else "arguments"
  let listed := " ".intercalate words
  s!"Got unexpected extra {noun} ({listed})"

def helpSpec : OptionSpec := ⟨"help", ["--help"], .switch⟩

/-- The checked arguments of a command. A call for help stands for all else. -/
def checkedArguments (directory : Location) (options : List CommandOption)
    (words : List String) : Run Arguments := do
  match Arguments.parse (helpSpec :: options.map CommandOption.spec) true words with
  | .error (.noSuchOption name) => throw (.usage (OptionError.noSuchOption name).message)
  | .error e => throw (.option e.message)
  | .ok a =>
    if a.isOn helpSpec.key then throw .help
    let given := (Assoc.keys a.options).filterMap fun key =>
      options.find? fun o => o.spec.key == key
    let missing := options.filter fun o => !a.isOn o.spec.key
    (given ++ missing).forM (checkOption directory a)
    if !a.extra.isEmpty then throw (.usage (unexpected a.extra))
    return a

/-! ## Writing split documents

Every source becomes a file with its whole document and one file per operation, in a directory
that corresponds to its own. -/

private def sourceSpec : OptionSpec := ⟨"source", ["--source", "-s"], .single⟩

private def outputSpec : OptionSpec := ⟨"output", ["--output", "-o"], .single⟩

def verboseSpec : OptionSpec := ⟨"verbose", ["--verbose", "-v"], .switch⟩

def splitOptions : List CommandOption :=
  [{ spec := sourceSpec, rule := .existingPath, required := true },
   { spec := outputSpec, rule := .path, required := true },
   { spec := verboseSpec }]

def isSource (name : String) : Bool :=
  [".graphql", ".gql"].any fun suffix => suffix.toList.isSuffixOf name.toList

/-- The sources at a place: the file that is there, or those in and below the directory. -/
def collectSources (t : FileTree) (place : Location) : List Location :=
  if t.kindAt? place == some .file then [place]
  else (t.filesBelow place).filter fun file => isSource (file.getLast?.getD "")

def wholeName (stem : String) : String := stem ++ ".graphql"

def partName (stem operation : String) : String := stem ++ "." ++ operation ++ ".graphql"

def outputFiles (stem : String) (l : Loaded) : List (String × Document) :=
  (wholeName stem, l.document)
    :: l.operations.map fun entry => (partName stem entry.1, entry.2)

def writeDocuments (target : Location) (files : List (String × Document)) : Run Unit :=
  files.forM fun file =>
    let place : Location := target ++ [file.1]
    onTree (·.writeAt place place.path (file.2.print ++ "\n"))

def showSource (verbose : Bool) (relative : Location) (l : Loaded) : Run Unit := do
  if verbose then
    let shown := "/".intercalate relative
    echo s!"  {shown}: {l.operations.length} operation(s)"
    l.imports.forM fun reference => echo s!"    imports {reference}"

def splitFile (directory base output : Location) (verbose : Bool) (file : Location) :
    Run Nat := do
  let loaded ← loadFile directory verbose file.path
  let relative := file.drop base.length
  let target := output ++ relative.dropLast
  change (·.makePlace target)
  let files := outputFiles (Path.stem (file.getLast?.getD "")) loaded
  writeDocuments target files
  showSource verbose relative loaded
  return files.length

def splitFiles (directory base output : Location) (verbose : Bool) :
    List Location → Run Nat
  | [] => pure 0
  | file :: more => do
    let written ← splitFile directory base output verbose file
    return written + (← splitFiles directory base output verbose more)

def doneLine (written : Nat) (output : Location) : String :=
  s!"Done! Wrote {written} document(s) to {output.path}"

/-- Splits the sources at a place into documents below another. -/
def splitInto (directory source output : Location) (verbose : Bool) : Run Unit := do
  change (·.makePlace output)
  let tree := (← get).tree
  let files := collectSources tree source
  let base := if tree.kindAt? source == some .file then source.dropLast else source
  echo s!"Splitting {files.length} file(s)..."
  let written ← splitFiles directory base output verbose files
  echo (doneLine written output)

def split (directory : Location) (words : List String) : Run Unit := do
  let a ← checkedArguments directory splitOptions words
  let w : Workspace := ⟨(← get).tree, directory⟩
  let place (key : String) : Location := w.resolve ((a.value? key).getD "")
  splitInto directory (place "source") (place "output") (a.isOn "verbose")

/-! ## Writing a module and looking into a source -/

def fileOption : CommandOption :=
  { spec := ⟨"source", ["--source", "-s"], .single⟩, rule := .existingFile, required := true }

def generateOptions : List CommandOption :=
  [fileOption,
   { spec := ⟨"output", ["--output", "-o"], .single⟩, rule := .notDirectory, required := true },
   { spec := ⟨"template", ["--template-dir", "-t"], .single⟩, rule := .existingDirectory },
   { spec := ⟨"header", ["--header"], .single⟩ },
   { spec := verboseSpec }]

/-- A module that is refused has a message; one that is nested too deeply has none, and neither has
a file that cannot be written. -/
private def moduleFailure : Generated.ModuleError → Failure
  | .unwritable .nullByte => .failed FileError.nullByte.message
  | .unwritable (.notText fault) => .failed fault.message
  | .unwritable e => .crash (.file e)
  | e@(.nestedTooDeep) | e@(.unreadable) => .crash (.module e)
  | e => .failed e.message

def generate (directory : Location) (words : List String) : Run Unit := do
  let a ← checkedArguments directory generateOptions words
  let verbose := a.isOn "verbose"
  let headers := (a.value? "header").toList.filter (!·.isEmpty)
  let output := (a.value? "output").getD ""
  let w : Workspace := ⟨(← get).tree, directory⟩
  let loaded ← loadFile directory verbose (w.resolve ((a.value? "source").getD "")).path
  if verbose then
    echo s!"  Definitions: {loaded.document.definitions.length}"
    echo s!"  Operations: {loaded.operations.length}"
  echo "Generating module..."
  let template := Generated.template? w (a.value? "template")
  let template ← loading verbose moduleFailure
    (ExceptT.mk (pure (template.mapError Generated.ModuleError.unwritable)))
  let (written, tree) := Generated.write loaded template headers w (w.resolve output).path
  modify fun c => { c with tree := tree }
  let _ ← loading verbose moduleFailure written
  echo s!"Done! Generated {output}"

private def listed (names : List String) (absent : String) : String :=
  if names.isEmpty then absent else ", ".intercalate names

/-- What a source consists of: its definitions, or each operation with those it brings along. -/
def describe (l : Loaded) : List String :=
  if l.isSplit then
    l.operations.map fun (name, document) =>
      name ++ ": " ++ listed ((document.definitions.drop 1).filterMap Definition.name?) "-"
  else
    let names := l.document.definitions.filterMap Definition.name?
    ["Single document: " ++ listed names "(anonymous)"]

def inspect (directory : Location) (words : List String) : Run Unit := do
  let a ← checkedArguments directory [fileOption] words
  let w : Workspace := ⟨(← get).tree, directory⟩
  let loaded ← loadFile directory false (w.resolve ((a.value? "source").getD "")).path
  (describe loaded).forM echo

/-! ## Sending an operation from the command line -/

def executeOptions (endpoint : Option String) : List CommandOption :=
  [fileOption,
   { spec := ⟨"url", ["--url", "-u"], .single⟩, required := true, fallback := endpoint },
   { spec := ⟨"operation", ["--operation", "-n"], .single⟩ },
   { spec := ⟨"variables", ["--variables"], .single⟩ },
   { spec := ⟨"headers", ["--header", "-H"], .repeated⟩ },
   { spec := ⟨"timeout", ["--timeout"], .single⟩, rule := .number }]

private def refuseOption (option reason : String) : Failure :=
  .usage s!"Invalid value for {option}: {reason}"

def readVariables (text : Option String) : Except Failure Json :=
  match text with
  | none => .ok .null
  | some text =>
    if text = "" then .ok .null
    else (Json.parse text).mapError fun
      | e@(.malformed ..) => refuseOption "--variables" s!"Invalid JSON: {e.message}"
      | e => .crash (.values e)

def readHeader (text : String) : Except Failure (String × String) :=
  let name := text.toList.takeWhile (· != ':')
  if name.length = text.length then
    .error (refuseOption "--header"
      s!"Expected 'Name: value', got {shown text}")
  else
    let trimmed (s : List Char) := String.ofList (Text.trim s)
    .ok (trimmed name, trimmed (text.toList.drop (name.length + 1)))

def executeFailure : ExecuteError → Failure
  | e@(.reported ..) | e@(.status ..) | e@(.fault ..) => .failed e.message.escaped
  | e => .crash (.execution e)

def execute (directory : Location) (endpoint : Option String) (words : List String) :
    Run Unit := do
  let a ← checkedArguments directory (executeOptions endpoint) words
  let w : Workspace := ⟨(← get).tree, directory⟩
  let loaded ← loadFile directory false (w.resolve ((a.value? "source").getD "")).path
  let operation := a.value? "operation"
  if loaded.isSplit && operation.isNone then
    let names := ", ".intercalate loaded.operationNames
    throw (.usage s!"--operation is required, choose one of: {names}")
  match loaded.documentFor operation with
  | .error e => throw (refuseOption "--operation" e.message)
  | .ok _ => pure ()
  let values ← readVariables (a.value? "variables")
  let headers ← (a.values "headers").mapM fun text => ExceptT.mk (pure (readHeader text))
  let url := ((a.value? "url").or endpoint).getD ""
  let client : Client := { url := url, headers := Assoc.ofEntries headers }
  let exchange := client.executeOperation (← get).replies loaded (.ofJson values) operation
  modify fun c => { c with
    replies := exchange.replies
    requests := c.requests ++ exchange.request.toList }
  match exchange.outcome with
  | .ok data => echo data.pretty
  | .error e => throw (executeFailure e)

/-! ## The program

The first word names the command, the others are its arguments. -/

/-- What the program is given besides its words: the files, the directory it is started in, the
endpoint that the environment names, and the replies that requests will get. -/
structure Setting where
  tree : FileTree
  directory : Location
  endpoint : Option String := none
  replies : List Http.Reply := []

structure Outcome where
  exitCode : Nat
  output : String
  errors : String
  crash : Option Crash
  tree : FileTree
  requests : List Http.Request

def programName : String := "gql-docsplit"

def usageLine : Option String → String
  | none => s!"Usage: {programName} [OPTIONS] COMMAND [ARGS]..."
  | some command => s!"Usage: {programName} {command} [OPTIONS]"

private def helpHint : Option String → String
  | none => s!"Try '{programName} --help' for help."
  | some command => s!"Try '{programName} {command} --help' for help."

/-- The text for the error output and the exit code of a failure of a command. -/
def Failure.report (command : Option String) : Failure → String × Nat
  | .help => ("", 0)
  | .usage message => (s!"{usageLine command}\n{helpHint command}\n\nError: {message}\n", 2)
  | .option message => (s!"Error: {message}\n", 2)
  | .failed message => (s!"Error: {message}\n", 1)
  | .crash _ => ("", 1)

private def Failure.crash? : Failure → Option Crash
  | .crash cause => some cause
  | _ => none

def command? (s : Setting) (name : String) : Option (List String → Run Unit) :=
  match name with
  | "split" => some (split s.directory)
  | "generate" => some (generate s.directory)
  | "inspect" => some (inspect s.directory)
  | "execute" => some (execute s.directory (s.endpoint.filter (!·.isEmpty)))
  | _ => none

/-- What words amount to when they hold none but the program's own options: help, or an error. -/
private def programArguments (words : List String) : Except Failure (List String) :=
  match Arguments.parse [helpSpec] false words with
  | .error (.noSuchOption name) => .error (.usage (OptionError.noSuchOption name).message)
  | .error e => .error (.option e.message)
  | .ok a => if a.isOn helpSpec.key then .error .help else .ok a.extra

/-- The command that the words call for and how it is run; the name counts once it is known. A
name that is none is read as an option of the program before it is refused. -/
def dispatch (s : Setting) (words : List String) : Option String × Run Unit :=
  match programArguments words with
  | .error e => (none, throw e)
  | .ok [] => (none, throw (.usage "Missing command."))
  | .ok (name :: rest) =>
    match command? s name, programArguments (name :: rest) with
    | some body, _ => (some name, body rest)
    | none, .error e => (none, throw e)
    | none, .ok _ => (none, throw (.usage s!"No such command {shown name}."))

/-- What a run comes to whose command has this result and leaves this console behind. -/
def conclude (command : Option String) (result : Except Failure Unit) (c : Console) : Outcome :=
  match result with
  | .ok _ => ⟨0, c.output, c.errors, none, c.tree, c.requests⟩
  | .error .help =>
    ⟨0, c.output ++ usageLine command ++ "\n", c.errors, none, c.tree, c.requests⟩
  | .error failure =>
    let (message, exitCode) := failure.report command
    ⟨exitCode, c.output, c.errors ++ message, failure.crash?, c.tree, c.requests⟩

def Setting.console (s : Setting) : Console := { tree := s.tree, replies := s.replies }

def run (s : Setting) (words : List String) : Outcome :=
  let (command, body) := dispatch s words
  let (result, c) := body.run.run s.console
  conclude command result c

end OperationDocuments.Command
