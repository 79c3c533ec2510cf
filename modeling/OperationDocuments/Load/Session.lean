import OperationDocuments.Document.Parser
import OperationDocuments.Files
import OperationDocuments.Split

/-! # Loading documents

A source names the modules that it imports in comments at its head. Loading it merges their
fragments into its document, each module with its own imports merged in. -/
namespace OperationDocuments

/-! ## Why a source cannot be loaded -/

inductive LoadError where
  | unparsable (source : String) (cause : SyntaxError)
  | missingName (e : MissingOperationName)
  | emptyDirective (line : String)
  | unresolved (reference : String) (searched : Option String)
  | unparsableImport (reference source : String) (cause : SyntaxError)
  | cycle (chain : List String)
  | unreadable (cause : FileError)
  deriving Repr

namespace LoadError

inductive Kind where
  | parse
  | names
  | resolution
  | file
  deriving Repr, DecidableEq

def kind : LoadError → Kind
  | unparsable .. => .parse
  | missingName _ => .names
  | emptyDirective _ | unresolved .. | unparsableImport .. | cycle _ => .resolution
  | unreadable _ => .file

def reference? : LoadError → Option String
  | unresolved reference _ | unparsableImport reference _ _ => some reference
  | cycle chain => chain.getLast?
  | _ => none

def parseMessage (source : String) (cause : SyntaxError) : String :=
  s!"Error parsing {source}: {cause.message}"

def message : LoadError → String
  | unparsable source cause => parseMessage source cause
  | missingName e => e.message
  | emptyDirective line =>
    "Import directive without a reference: " ++ String.ofList (Text.literal line.toList)
  | unresolved reference none => s!"Cannot resolve import '{reference}'"
  | unresolved reference (some searched) => s!"Cannot resolve import '{reference}' from {searched}"
  | unparsableImport reference source cause =>
    s!"Cannot parse import '{reference}': {parseMessage source cause}"
  | cycle chain => "Circular import: " ++ " -> ".intercalate chain
  | unreadable cause => cause.message

/-- The error of a module as its importer sees it: a module that does not parse is an import that
cannot be resolved, and every other error stays what it is. -/
def ofImport (reference : String) : LoadError → LoadError
  | unparsable source cause => unparsableImport reference source cause
  | e => e

end LoadError

end OperationDocuments

namespace OperationDocuments.Import

/-! ## Import directives

The leading block of a text are its lines up to the first that is neither empty nor a comment.
In it, a line that begins with `#import` and a blank names a module to import: the word up to
the next blank, without the quotes that may be around it. -/

open Text

def unquote (word : List Char) : List Char :=
  match word with
  | quote :: rest =>
    if (quote = '"' ∨ quote = '\'') ∧ rest.getLast? = some quote then rest.dropLast else word
  | [] => []

/-- The reference on a line of the leading block, if the line is a directive. -/
def directive? (line : List Char) : Except LoadError (Option String) :=
  match splitAt ' ' (line.drop 1) with
  | word :: more =>
    if word = "import".toList then
      match more.head?.getD [] with
      | [] => .error (.emptyDirective (String.ofList line))
      | reference => .ok (some (String.ofList (unquote reference)))
    else .ok none
  | [] => .ok none

/-- The lines before the first that is neither empty nor a comment. -/
def leadingBlock (text : List Char) : List (List Char) :=
  (lines text).takeWhile fun line => line.head?.all (· == '#')

def scan (text : String) : Except LoadError (List String) := do
  let comments := (leadingBlock text.toList).filter (!·.isEmpty)
  return (← comments.mapM directive?).filterMap id

/-! ## Merging imported fragments

The fragments of every imported document are added at the end of the importing one, each name
once: the first fragment of a name wins over the later ones. A local fragment does not keep an
imported one of its name out; it stands first and so is the one that counts. -/

/-- The fragments among some definitions whose names are not in `seen` yet, and the names seen
afterwards. -/
def uniqueFragments (seen : List String) : List Definition →
    Logged (List Fragment × List String)
  | [] => pure ([], seen)
  | .fragment f :: more => do
    if seen.contains f.name then
      Logged.report (.droppedDuplicate f.name)
      uniqueFragments seen more
    else
      let (kept, seen) ← uniqueFragments (seen ++ [f.name]) more
      return (f :: kept, seen)
  | _ :: more => uniqueFragments seen more

def reportCollisions (localNames : List String) (reference : String) :
    List Fragment → Logged Unit
  | [] => pure ()
  | f :: more => do
    if localNames.contains f.name then Logged.report (.collision f.name reference)
    reportCollisions localNames reference more

def mergeFrom (resolve : String → Loading LoadError Document) (localNames seen : List String) :
    List String → Loading LoadError (List Fragment)
  | [] => pure []
  | reference :: more => do
    let imported ← resolve reference
    let (kept, seen) ← ExceptT.lift (uniqueFragments seen imported.definitions)
    ExceptT.lift (reportCollisions localNames reference kept)
    Loading.report (.merged kept.length reference)
    return kept ++ (← mergeFrom resolve localNames seen more)

def expand (text : String) (d : Document) (resolve : String → Loading LoadError Document) :
    Loading LoadError Document := do
  let references ← Loading.ofExcept (scan text)
  if references.isEmpty then return d
  let localNames := d.fragments.map Fragment.name
  let merged ← mergeFrom resolve localNames [] references
  return { d with definitions := d.definitions ++ merged.map Definition.fragment }

end OperationDocuments.Import

namespace OperationDocuments

/-! ## Loading

A source is parsed, the names of its operations are checked, its imports are expanded, and it is
split. Each imported module is loaded in the same way. The modules that are open form a stack;
an import of one of them is a cycle. Since every module stands for a key of a finite collection
and no key is opened twice, loading ends. -/

/-- Where imports lead. A reference leads to the key of a module, a key to its text. `origin` is
the name of the source that holds the reference. -/
structure Modules where
  keys : List String
  locate : (reference : String) → (origin : Option String) →
    Except LoadError { key : String // key ∈ keys }
  text : (key : String) → Except LoadError String
  announce : (reference key : String) → Logged Unit

namespace Modules

theorem length_closed_lt {keys stack : List String} {key : String}
    (hk : key ∈ keys) (hs : ¬key ∈ stack) :
    (keys.filter (!(stack ++ [key]).contains ·)).length <
      (keys.filter (!stack.contains ·)).length := by
  have hsub : keys.filter (!(stack ++ [key]).contains ·) =
      (keys.filter (!stack.contains ·)).filter (!·  == key) := by
    rw [List.filter_filter]
    congr 1
    funext k
    by_cases h : k = key <;> simp [h]
  rw [hsub]
  refine List.length_filter_lt_length_iff_exists.mpr ⟨key, ?_, by simp⟩
  simp [hk, hs]

/-- Opens a module for as long as a computation runs, however that ends. -/
def whileOpen {α : Type} (key : String) (x : Loading LoadError α) : Loading LoadError α :=
  ExceptT.mk do
    Logged.report (.opened key)
    let result ← x.run
    Logged.report (.closed key)
    return result

def parse (text : String) (name : Option String) : Except LoadError Document :=
  (Document.parse text name).mapError (.unparsable (Document.sourceName name))

def checkSeveral (d : Document) (source : String) : Except LoadError Unit :=
  if d.countOperations > 1 then (d.checkNames (some source)).mapError .missingName
  else .ok ()

end Modules

/-- What finds the document behind a reference. `origin` is the name of the source that holds the
reference. -/
abbrev Resolver := (reference : String) → (origin : Option String) → Loading LoadError Document

namespace Resolver

def load (resolve : Resolver) (text : String) (name : Option String) :
    Loading LoadError Loaded := do
  let source := Document.sourceName name
  let parsed ← Loading.ofExcept (Modules.parse text name)
  Loading.ofExcept (Modules.checkSeveral parsed source)
  let document ← Import.expand text parsed fun reference => resolve reference name
  let separated ← Loading.ofExcept ((document.split (some source)).mapError .missingName)
  let operations ← ExceptT.lift separated
  let imports ← Loading.ofExcept (Import.scan text)
  Loading.report (.loaded source document.definitions.length operations.length)
  return ⟨source, document, operations, imports⟩

def loadFiltered (resolve : Resolver) (filters : List OperationFilter) (text : String)
    (name : Option String) : Loading LoadError Loaded := do
  let loaded ← resolve.load text name
  ExceptT.lift (OperationFilter.applyAll filters loaded)

end Resolver

namespace Modules

def resolveUsing (m : Modules) (stack : List String)
    (read : (key : String) → key ∈ m.keys → ¬key ∈ stack → String → Loading LoadError Document)
    (reference : String) (origin : Option String) : Loading LoadError Document := do
  let ⟨key, known⟩ ← Loading.ofExcept (m.locate reference origin)
  if closed : key ∈ stack then throw (.cycle (stack ++ [key]))
  else
    ExceptT.lift (m.announce reference key)
    whileOpen key <| ExceptT.adapt (LoadError.ofImport reference) do
      let text ← Loading.ofExcept (m.text key)
      read key known closed text

/-- Loads a text whose importers are the modules in `stack`, outermost first. -/
def loadWithin (m : Modules) (stack : List String) (text : String) (name : Option String) :
    Loading LoadError Loaded :=
  Resolver.load (m.resolveUsing stack fun key _known _closed text => do
    return (← loadWithin m (stack ++ [key]) text (some key)).document) text name
termination_by (m.keys.filter (!stack.contains ·)).length
decreasing_by exact length_closed_lt _known _closed

/-- The document behind a reference, with the imports of its own module merged in, while the
modules in `stack` are open. -/
def resolveWithin (m : Modules) (stack : List String) : Resolver :=
  m.resolveUsing stack fun key _ _ text => do
    return (← m.loadWithin (stack ++ [key]) text (some key)).document

theorem loadWithin_eq (m : Modules) (stack : List String) (text : String)
    (name : Option String) :
    m.loadWithin stack text name = Resolver.load (m.resolveWithin stack) text name := by
  rw [loadWithin]
  rfl

theorem resolveWithin_eq (m : Modules) (stack : List String) (reference : String)
    (origin : Option String) : m.resolveWithin stack reference origin = (do
      let key ← Loading.ofExcept ((m.locate reference origin).map Subtype.val)
      if key ∈ stack then throw (.cycle (stack ++ [key]))
      else
        ExceptT.lift (m.announce reference key)
        whileOpen key <| ExceptT.adapt (LoadError.ofImport reference) do
          let text ← Loading.ofExcept (m.text key)
          return (← m.loadWithin (stack ++ [key]) text (some key)).document) := by
  unfold resolveWithin resolveUsing
  cases m.locate reference origin with
  | error e => rfl
  | ok found =>
    simp only [Except.map, Loading.ofExcept_ok_bind]
    by_cases opened : found.1 ∈ stack <;> simp [opened]

def resolve (m : Modules) : Resolver := m.resolveWithin []

def resolveAlone (m : Modules) (reference : String) (origin : Option String) :
    Loading LoadError Document :=
  m.resolveUsing [] (fun key _ _ text => Loading.ofExcept (parse text (some key))) reference origin

end Modules

/-! ## Where imports come from

Imports are looked up in a table of texts, or they are paths of files, seen from the directory
of the importing file. A loader knows one of the two and the filters that each source it loads
has to pass; it keeps nothing from one call to the next. -/

namespace Modules

def ofTable (table : Assoc String String) : Modules where
  keys := Assoc.keys table
  locate reference _ :=
    if h : reference ∈ Assoc.keys table then .ok ⟨reference, h⟩
    else .error (.unresolved reference none)
  text key := .ok ((Assoc.find? table key).getD "")
  announce _ _ := pure ()

end Modules

namespace Workspace

/-- The path of a reference: seen from the directory of the file `origin`, or from `root` where
`origin` is no file. -/
def importPath (w : Workspace) (root reference : String) (origin : Option String) : String :=
  if Path.isAbsolute reference then Path.normalize reference
  else
    let base := match origin with
      | none => root
      | some file =>
        if w.isFile file then Path.parent (Path.absolute w.directory.path file) else root
    Path.normalize (Path.join base reference)

def filePaths (w : Workspace) : List String :=
  w.tree.files.flatMap fun entry => [entry.1.path, "/" ++ entry.1.path]

/-- The paths of all files seen from the working directory. Such a path may begin with more steps up
than there are, each of three bytes, as long as it is no longer than a path can be. -/
def relativePaths (w : Workspace) : List String :=
  (List.range (Path.longest / 3 + 1)).flatMap fun up =>
    let above := w.directory.take (w.directory.length - up)
    (w.tree.files.filter fun entry => above.isPrefixOf entry.1).map fun entry =>
      "/".intercalate (List.replicate up ".." ++ entry.1.drop above.length)

def paths (w : Workspace) (root : String) : List String :=
  if Path.isAbsolute root then w.filePaths else w.filePaths ++ w.relativePaths

end Workspace

namespace Modules

/-- The modules of a file tree. The name of a source counts as its path; what is not named, or
named like no file, is taken to lie in `root`. A path that leads to a file is always one of
`paths`. -/
def ofFiles (w : Workspace) (root : String) : Modules where
  keys := w.paths root
  locate reference origin :=
    let path := w.importPath root reference origin
    if h : w.isFile path ∧ path ∈ w.paths root then .ok ⟨path, h.2⟩
    else
      let searched := match origin with
        | none => root
        | some name => if name = "" then root else name
      .error (.unresolved reference (some searched))
  text key := (w.read key).mapError .unreadable
  announce reference key := Logged.report (.resolving reference key)

end Modules

inductive ImportSource where
  | table (texts : Assoc String String)
  | files (root : String)
  deriving Repr

def ImportSource.modules (s : ImportSource) (w : Workspace) : Modules :=
  match s with
  | .table texts => .ofTable texts
  | .files root => .ofFiles w root

structure Loader where
  imports : ImportSource
  filters : List OperationFilter := []
  deriving Repr

namespace Loader

def ofWorkspace (w : Workspace) : Loader := ⟨.files w.directory.path, []⟩

def resolve (l : Loader) (w : Workspace) (reference : String) (origin : Option String) :
    Loading LoadError Document :=
  (l.imports.modules w).resolve reference origin

def load (l : Loader) (w : Workspace) (text : String) (name : Option String) :
    Loading LoadError Loaded :=
  Resolver.loadFiltered (l.resolve w) l.filters text name

def loadFile (l : Loader) (w : Workspace) (path : String) : Loading LoadError Loaded := do
  let text ← Loading.ofExcept ((w.read path).mapError LoadError.unreadable)
  l.load w text (some path)

end Loader

/-! ## Loaders in use

A loader is asked for one thing after another, while the files around it may change. What goes
on from one request to the next are the modules that its resolver has open: a request finds
those that the ones before it have left open, and what it opens and closes itself counts for the
next. -/

namespace OperationFilter

theorem quiet_keep (f : OperationFilter) (entries : Assoc String Document) :
    (f.keep entries).Quiet := by
  induction entries with
  | nil => exact Logged.quiet_pure _
  | cons entry more ih =>
    rw [keep]
    split
    · exact Logged.quiet_bind ih (Logged.quiet_pure _)
    · exact Logged.quiet_bind (Logged.quiet_report rfl) ih

theorem quiet_applyAll (filters : List OperationFilter) (l : Loaded) :
    (applyAll filters l).Quiet := by
  induction filters generalizing l with
  | nil => exact Logged.quiet_pure _
  | cons f more ih =>
    exact Logged.quiet_bind (Logged.quiet_bind (f.quiet_keep _) (Logged.quiet_pure _)) (ih _)

end OperationFilter

/-- What is done to a loaded source before it is handed out. It may fail, and it may load other
sources, as long as it closes what it opens. -/
structure LoadHook where
  apply : Loaded → Loading LoadError Loaded
  restores : ∀ l stack, openModules stack (apply l).outcome.1 = stack

def Loader.hook (l : Loader) : LoadHook where
  apply loaded := ExceptT.lift (OperationFilter.applyAll l.filters loaded)
  restores loaded := openModules_of_quiet <|
    Logged.quiet_bind (OperationFilter.quiet_applyAll l.filters loaded) (Logged.quiet_pure _)

/-- A loader with the modules that its resolver has open, outermost first. -/
structure Session where
  imports : ImportSource
  hook : LoadHook
  stack : List String := []

def Loader.session (l : Loader) : Session := { imports := l.imports, hook := l.hook }

namespace Session

inductive Request where
  | load (text : String) (name : Option String)
  | loadFile (path : String)
  | resolve (reference : String) (origin : Option String)

inductive Answer where
  | loaded (l : Loaded)
  | document (d : Document)

def resolver (s : Session) (w : Workspace) : Resolver :=
  (s.imports.modules w).resolveWithin s.stack

def load (s : Session) (w : Workspace) (text : String) (name : Option String) :
    Loading LoadError Loaded := do
  s.hook.apply (← (s.resolver w).load text name)

def serve (s : Session) (w : Workspace) : Request → Loading LoadError Answer
  | .load text name => do return .loaded (← s.load w text name)
  | .loadFile path => do
    let text ← Loading.ofExcept ((w.read path).mapError LoadError.unreadable)
    return .loaded (← s.load w text (some path))
  | .resolve reference origin => do return .document (← s.resolver w reference origin)

/-- How a request ends, with the events on the way, and the loader afterwards. -/
def ask (s : Session) (w : Workspace) (r : Request) :
    (List Event × Except LoadError Answer) × Session :=
  let outcome := (s.serve w r).outcome
  (outcome, { s with stack := openModules s.stack outcome.1 })

def after (s : Session) (requests : List (Workspace × Request)) : Session :=
  requests.foldl (fun s request => (s.ask request.1 request.2).2) s

end Session

end OperationDocuments
